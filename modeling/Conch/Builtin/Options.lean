import Conch.Text.Decimal

/-!
# Options of the built-in commands

Several built-in commands read their arguments by one small grammar: single-letter flags
(`-c`, which may be bundled as `-cP`), and operands, either at most one number or any number
of texts.  The words are read from left to right:

* `--` ends the options: every later word is an operand.  While a list of texts that may
  start with a hyphen is being read, `--` is one of them instead.
* A word `--name` is not an option of any of these commands.  Where the next operand may
  start with a hyphen it is an operand, else it is refused.
* A word `-xyz` is read as flags, unless a list of texts that may start with a hyphen is being
  read, or one may start here and one of its letters is no flag of the command: then it is an
  operand.  A letter that is no flag is refused, and so is a flag given twice.  A lone `-` is
  an operand.
* Any other word is an operand; a number operand is read at once, and a word with no place
  left is refused.

A refusal is reported in one of three shapes: an unexpected argument (with a tip on how to
pass it as a value when it looks like an option), a flag used twice, or an operand that is
not a number.  Each but the last ends with a usage line.  It is the full one, except after an
unknown `--name` that follows flags or a number: then it names what was given (`-c`, and the
number as `<COUNT>`) and the operands not given in brackets.

Main definitions: `Options.Spec`, `Options.parse` and `Options.Refusal.message`.
-/

namespace Conch.Options

/-- The operands a command takes. -/
inductive Operands where
  /-- Nothing. -/
  | none
  /-- At most one natural number, named `label` in the usage. -/
  | number (label : String)
  /-- Any number of texts that may start with a hyphen; `shown` tells whether the usage
  names them. -/
  | texts (label : String) (shown : Bool)
  deriving DecidableEq, Repr

/-- The option grammar of one command. -/
structure Spec where
  /-- The command's name, as the usage shows it. -/
  name : String
  /-- Its flags. -/
  flags : List Char
  /-- Its operands. -/
  operands : Operands
  deriving Repr

/-- What a command's words say. -/
structure Parsed where
  /-- The flags given, in order. -/
  flags : List Char := []
  /-- The text operands, in order. -/
  texts : List String := []
  /-- The number operand, if given. -/
  number : Option Nat := none
  deriving Repr, Inhabited

/-- Why a command's words were refused. -/
inductive Refusal where
  /-- A word with no place; `tip` tells whether to suggest passing it after `--`, and `seen`
  holds what was read before it when the usage is to name it. -/
  | unexpected (word : String) (tip : Bool) (seen : Option Parsed)
  /-- A flag given twice. -/
  | repeated (flag : Char)
  /-- A number operand that does not read as one. -/
  | invalidNumber (word : String) (why : Text.IntError)
  deriving Repr

/-- The operands as the full usage names them: in brackets, since all are optional. -/
def Operands.optional : Operands → String
  | .none => ""
  | .number label => " [" ++ label ++ "]"
  | .texts label shown => if shown then " [" ++ label ++ "]..." else ""

/-- The full usage line of a command. -/
def Spec.usage (s : Spec) : String :=
  let opts := if s.flags.isEmpty then "" else " [OPTIONS]"
  "Usage: " ++ s.name ++ opts ++ s.operands.optional

/-- The label of the number operand, as error messages name it. -/
def Spec.numberLabel (s : Spec) : String :=
  match s.operands with
  | .number label => "[" ++ label ++ "]"
  | _ => ""

/-- Whether anything was given: a flag or an operand. -/
def Parsed.anyGiven (p : Parsed) : Bool :=
  !p.flags.isEmpty || !p.texts.isEmpty || p.number.isSome

/-- The usage line that names what was given: the flags in the order given, then the operands,
in angle brackets if given and in square brackets if not. -/
def Spec.usageWith (s : Spec) (p : Parsed) : String :=
  let flags := String.join (p.flags.map (fun c => " -" ++ String.ofList [c]))
  let ops := match s.operands with
    | .number label => if p.number.isSome then " <" ++ label ++ ">" else s.operands.optional
    | .texts label shown =>
        if shown && !p.texts.isEmpty then " <" ++ label ++ ">..." else s.operands.optional
    | .none => ""
  "Usage: " ++ s.name ++ flags ++ ops

/-- The usage line that ends a refusal. -/
def Spec.usageAfter (s : Spec) : Option Parsed → String
  | some p => if p.anyGiven then s.usageWith p else s.usage
  | none => s.usage

/-- The message that reports a refusal, as the command writes it to its error stream. -/
def Refusal.message (s : Spec) : Refusal → String
  | .unexpected w tip seen =>
      "error: unexpected argument '" ++ w ++ "' found\n\n" ++
      (if tip then "  tip: to pass '" ++ w ++ "' as a value, use '-- " ++ w ++ "'\n\n" else "") ++
      s.usageAfter seen ++ "\n"
  | .repeated c =>
      "error: the argument '-" ++ String.ofList [c] ++ "' cannot be used multiple times\n\n" ++
      s.usage ++ "\n"
  | .invalidNumber w why =>
      "error: invalid value '" ++ w ++ "' for '" ++ s.numberLabel ++ "': " ++ why.message ++ "\n"

/-- Where the reading of the words stands. -/
structure Reading where
  /-- After `--`: every word is an operand. -/
  ended : Bool := false
  /-- A list of texts is being read, so words with a hyphen are texts too. -/
  inTexts : Bool := false
  /-- The number operand has been given. -/
  numberTaken : Bool := false
  /-- What has been read. -/
  parsed : Parsed := {}

/-- Whether the next operand may start with a hyphen. -/
def Spec.hyphenOperand (s : Spec) : Bool :=
  match s.operands with
  | .texts _ _ => true
  | _ => false

/-- Whether the command has operands at all. -/
def Spec.hasOperands (s : Spec) : Bool :=
  match s.operands with
  | .none => false
  | _ => true

/-- Takes a word as an operand. -/
def Spec.operand (s : Spec) (r : Reading) (w : String) : Except Refusal Reading :=
  match s.operands with
  | .texts _ _ => .ok { r with inTexts := true, parsed := { r.parsed with texts := r.parsed.texts ++ [w] } }
  | .number _ =>
      if r.numberTaken then .error (.unexpected w false none)
      else
        match Text.IntWidth.unsigned64.read w with
        | .ok n => .ok { r with numberTaken := true, parsed := { r.parsed with number := some n.toNat } }
        | .error e => .error (.invalidNumber w e)
  | .none => .error (.unexpected w false none)

/-- Sets the flags of a bundle, refusing a letter that is no flag and a flag given twice. -/
def Spec.setFlags (s : Spec) (r : Reading) : List Char → Except Refusal Reading
  | [] => .ok { r with inTexts := false }
  | c :: rest =>
      if !s.flags.contains c then .error (.unexpected ("-" ++ String.ofList [c]) (!r.ended && s.hasOperands) none)
      else if r.parsed.flags.contains c then .error (.repeated c)
      else s.setFlags { r with parsed := { r.parsed with flags := r.parsed.flags ++ [c] } } rest

/-- Reads one word. -/
def Spec.step (s : Spec) (r : Reading) (w : String) : Except Refusal Reading :=
  if r.ended then s.operand r w
  else if w == "--" then
    if r.inTexts then s.operand r w else .ok { r with ended := true }
  else if w.startsWith "--" then
    if r.inTexts || s.hyphenOperand then s.operand r w
    else
      let name := ((w.drop 2).copy.splitOn "=").headD ""
      .error (.unexpected ("--" ++ name) s.hasOperands (some r.parsed))
  else if w.startsWith "-" && w != "-" then
    let letters := (w.drop 1).copy.toList
    if r.inTexts then s.operand r w
    else if s.hyphenOperand && letters.any (fun c => !s.flags.contains c) then s.operand r w
    else s.setFlags r letters
  else s.operand r w

/-- Reads a command's words (its name left out). -/
def Spec.parse (s : Spec) (words : List String) : Except Refusal Parsed :=
  (words.foldlM s.step {}).map (·.parsed)

end Conch.Options
