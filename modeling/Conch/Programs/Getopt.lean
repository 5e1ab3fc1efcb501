import Conch.Programs.Basic

/-!
# Reading options

The system's programs read their options by one convention.  A word `-abc` bundles the
single-letter options `a`, `b` and `c`; a letter that takes an argument takes the rest of its
word, or else the next word, and one whose argument is optional takes only the rest of its
word.  A word `--name` or `--name=value` is a long option; the name may be shortened to any
prefix that fits one option only, or several that all mean the same.  `--` ends the options,
and a lone `-` is an operand.  Options and operands may be mixed: every word that is not an
option is an operand, unless the program reads its options in order, and then the first
operand ends them.

A word that breaks these rules is refused with one line: an unknown letter, a letter missing
its argument, an unknown or ambiguous long name, or a long option given an argument it does not
take or not given one it needs.

Main definitions: `OptionSpec`, `OptionSpec.read` and `OptError`.
-/

namespace Conch

/-- Whether an option takes an argument. -/
inductive ArgKind where
  | none
  | required
  | optional
  deriving DecidableEq, Repr

/-- A long option: its name, the option it stands for, and whether it takes an argument. -/
structure LongOption where
  name : String
  key : Char
  arg : ArgKind := .none
  deriving Repr

/-- The options a program takes. -/
structure OptionSpec where
  /-- The single-letter options, each with whether it takes an argument. -/
  shorts : List (Char × ArgKind) := []
  /-- The long options. -/
  longs : List LongOption := []
  /-- Whether the first operand ends the options. -/
  inOrder : Bool := false
  deriving Repr

/-- Why a program's options were refused. -/
inductive OptError where
  /-- A letter that is no option. -/
  | invalid (c : Char)
  /-- A letter whose argument is missing. -/
  | missing (c : Char)
  /-- A long option that is not known, as written after its dashes. -/
  | unrecognized (word : String)
  /-- A shortened long name that fits several options, as written, and their names. -/
  | ambiguous (word : String) (names : List String)
  /-- A long option given without the argument it needs. -/
  | needsArg (name : String)
  /-- A long option given an argument it does not take. -/
  | noArg (name : String)
  deriving Repr

/-- The line that refuses the options, after the program's name. -/
def OptError.line : OptError → String
  | .invalid c => "invalid option -- '" ++ String.ofList [c] ++ "'"
  | .missing c => "option requires an argument -- '" ++ String.ofList [c] ++ "'"
  | .unrecognized w => "unrecognized option '--" ++ w ++ "'"
  | .ambiguous w ns =>
      "option '--" ++ w ++ "' is ambiguous; possibilities:" ++
        String.join (ns.map (fun n => " '--" ++ n ++ "'"))
  | .needsArg n => "option '--" ++ n ++ "' requires an argument"
  | .noArg n => "option '--" ++ n ++ "' doesn't allow an argument"

/-- The message a program refuses its options with, and the hint that follows it. -/
def OptError.message (prog : String) (e : OptError) : String :=
  prog ++ ": " ++ e.line ++ "\nTry '" ++ prog ++ " --help' for more information.\n"

namespace OptionSpec

/-- The long option a written name stands for: an exact name, else the one option (or the
several equal ones) it is a prefix of. -/
def findLong (spec : OptionSpec) (written name : String) : Except OptError LongOption :=
  match spec.longs.find? (·.name == name) with
  | some o => .ok o
  | none =>
      match spec.longs.filter (fun o => o.name.startsWith name) with
      | [] => .error (.unrecognized written)
      | o :: rest =>
          if rest.all (fun r => r.key == o.key && r.arg == o.arg) then .ok o
          else .error (.ambiguous written ((o :: rest).map (·.name)))

/-- The options of one word of letters: the options, and whether the next word was taken as
the argument of the last one. -/
def letters (spec : OptionSpec) (next : Option String) : List Char → Except OptError (List Opt × Bool)
  | [] => .ok ([], false)
  | c :: rest =>
      match spec.shorts.lookup c with
      | some .none => (letters spec next rest).map fun (os, took) => (⟨c, none⟩ :: os, took)
      | some .optional =>
          .ok ([⟨c, if rest.isEmpty then none else some (String.ofList rest)⟩], false)
      | some .required =>
          if !rest.isEmpty then .ok ([⟨c, some (String.ofList rest)⟩], false)
          else
            match next with
            | some v => .ok ([⟨c, some v⟩], true)
            | none => .error (.missing c)
      | none => .error (.invalid c)

/-- Reads one long option word (without its dashes): the option and whether the next word was
taken as its argument. -/
def long (spec : OptionSpec) (body : String) (next : Option String) : Except OptError (Opt × Bool) :=
  let name := (body.splitOn "=").headD ""
  let attached := if body.contains '=' then some ((body.drop (name.length + 1)).copy) else none
  match spec.findLong body name with
  | .error e => .error e
  | .ok o =>
      match o.arg, attached, next with
      | .none, some _, _ => .error (.noArg o.name)
      | .none, none, _ => .ok (⟨o.key, none⟩, false)
      | .optional, v, _ => .ok (⟨o.key, v⟩, false)
      | .required, some v, _ => .ok (⟨o.key, some v⟩, false)
      | .required, none, some v => .ok (⟨o.key, some v⟩, true)
      | .required, none, none => .error (.needsArg o.name)

/-- Separates a program's options from its operands, in order. -/
def read (spec : OptionSpec) (words : List String) : Except OptError (List Opt × List String) :=
  go (words.length + 1) words [] []
where
  /-- Reads the words left, with `fuel` at least their number. -/
  go : Nat → List String → List Opt → List String → Except OptError (List Opt × List String)
    | 0, _, opts, ops => .ok (opts, ops)
    | _, [], opts, ops => .ok (opts, ops)
    | fuel + 1, w :: rest, opts, ops =>
        if w == "--" then .ok (opts, ops ++ rest)
        else if w.startsWith "--" then
          match spec.long (w.drop 2).copy rest.head? with
          | .error e => .error e
          | .ok (o, took) => go fuel (if took then rest.drop 1 else rest) (opts ++ [o]) ops
        else if w.startsWith "-" && w != "-" then
          match spec.letters rest.head? (w.drop 1).copy.toList with
          | .error e => .error e
          | .ok (os, took) => go fuel (if took then rest.drop 1 else rest) (opts ++ os) ops
        else if spec.inOrder then .ok (opts, ops ++ w :: rest)
        else go fuel rest opts (ops ++ [w])

end OptionSpec

/-- The options of the old shape: flags, letters that take an argument, and long names that
stand for letters (taking an argument when their letter does). -/
def OptionSpec.ofLetters (flags valued : List Char) (longs : List (String × Char))
    (inOrder : Bool := false) : OptionSpec :=
  { shorts := flags.map (·, ArgKind.none) ++ valued.map (·, ArgKind.required),
    longs := longs.map fun (n, c) =>
      { name := n, key := c, arg := if valued.contains c then .required else .none },
    inOrder }

/-- Separates options from operands, options and operands mixed until `--`. -/
def getopt (flags valued : List Char) (longs : List (String × Char)) (words : List String) :
    Except OptError (List Opt × List String) :=
  (OptionSpec.ofLetters flags valued longs).read words

/-- Separates options from operands, the first operand ending the options. -/
def getoptInOrder (flags valued : List Char) (longs : List (String × Char)) (words : List String) :
    Except OptError (List Opt × List String) :=
  (OptionSpec.ofLetters flags valued longs true).read words

end Conch
