import Conch.Script.Interp
import Conch.Script.Arith

/-!
# Conditions: `test` and `[`

The shell's `test` evaluates a condition given as words, and `[` is the same command with a
closing `]` as its last word.  Its status is 0 when the condition holds, 1 when it does not,
and 2 when the words do not form a condition.

The words are read as in the POSIX rules: with three words whose middle one is a binary
operator, that comparison; with three or four words between parentheses, or after `!`, the
inner condition.  Otherwise the words form an expression of `-o` (loosest), `-a`, `!`,
parentheses, unary tests (`-n`, `-z` and the file tests), binary tests (`=`, `!=`, `<`, `>`,
the number comparisons `-eq` and the others, and `-nt`, `-ot`, `-ef` on files), and single
words, true when not empty.  A word that would be a unary operator is an operand when nothing
follows it, or when a binary operator does and another word after that.

File tests look at the file a name leads to, symbolic links followed, except `-h` and `-L`.
The shell runs as the superuser: every file can be read and written, and run when some
execute bit is set.  Numbers are decimal, with blanks and a sign allowed; anything else is an
illegal number.

Main definition: `Test.run`.
-/

namespace Conch.Script.Test

/-- What a word means to `test`. -/
inductive Tok where
  | eoi
  | operand
  | unary (op : String)
  | binary (op : String)
  | bang
  | andOp
  | orOp
  | lparen
  | rparen
  deriving DecidableEq, Repr

/-- The unary operators. -/
def unaryOps : List String :=
  ["-r", "-w", "-x", "-e", "-f", "-d", "-c", "-b", "-p", "-u", "-g", "-k", "-s", "-t", "-z",
   "-n", "-h", "-O", "-G", "-L", "-S"]

/-- The binary operators. -/
def binaryOps : List String :=
  ["=", "!=", "<", ">", "-eq", "-ne", "-ge", "-gt", "-le", "-lt", "-nt", "-ot", "-ef"]

/-- The operator a word is, if it is one. -/
def opOf (s : String) : Option Tok :=
  if unaryOps.contains s then some (.unary s)
  else if binaryOps.contains s then some (.binary s)
  else match s with
    | "!" => some .bang
    | "-a" => some .andOp
    | "-o" => some .orOp
    | "(" => some .lparen
    | ")" => some .rparen
    | _ => none

/-- Whether a word is a binary operator. -/
def isBinary (s : String) : Bool := binaryOps.contains s

/-- What the word at `i` of `ws` means, by what follows it. -/
def lexAt (ws : Array String) (i : Nat) : Tok :=
  match ws[i]? with
  | none => .eoi
  | some s =>
      match opOf s with
      | some (.unary op) =>
          let isOperand := match ws[i + 1]? with
            | none => true
            | some next => ws[i + 2]?.isSome && isBinary next
          if isOperand then .operand else .unary op
      | some .lparen => if ws[i + 1]?.isSome then .lparen else .operand
      | some t => t
      | none => .operand

/-- Reads a number the way `test` does. -/
def number (s : String) : ScriptM Int := do
  let cs := s.toList.dropWhile Arith.isSpaceChar
  let (neg, cs) := match cs with
    | '-' :: rest => (true, rest)
    | '+' :: rest => (false, rest)
    | _ => (false, cs)
  let ds := cs.takeWhile isDigitChar
  let rest := (cs.dropWhile isDigitChar).dropWhile Arith.isSpaceChar
  if ds.isEmpty || !rest.isEmpty then fail ("Illegal number: " ++ s)
  let v := ds.foldl (fun (k : Nat) (d : Char) => k * 10 + (d.toNat - 48)) 0
  if (!neg && v > Arith.maxValue) || (neg && v > Arith.maxValue + 1) then
    fail ("Illegal number: " ++ s)
  return if neg then -(v : Int) else v

/-- Reports a malformed condition. -/
def malformed {α : Type} (op : String) (msg : String) : ScriptM α :=
  if op.isEmpty then fail msg else fail (Octets.ofText op ++ ": " ++ msg)

/-- The entry a name leads to, links followed unless `noFollow`. -/
def statOf (name : Octets) (noFollow : Bool) : ScriptM (Option Entry) := do
  let fs := (← getWorld).fs
  let cwd := (← getState).cwd
  if noFollow then
    match fs.entryPath cwd name with
    | .ok p => return fs.find p
    | .error _ => return none
  else
    match fs.stat cwd name with
    | .ok e => return some e
    | .error _ => return none

/-- Applies a unary file test. -/
def fileTest (op : String) (name : Octets) : ScriptM Bool := do
  match ← statOf name (op == "-h" || op == "-L") with
  | none => return false
  | some e =>
      let fs := (← getWorld).fs
      return match op with
        | "-e" | "-r" | "-w" | "-O" | "-G" => true
        | "-x" => e.executable || e.node.isDirectory && e.mode % 512 / 64 % 2 == 1
        | "-f" => e.node.isRegular
        | "-d" => e.node.isDirectory
        | "-c" => match e.node with
            | .device _ => true
            | _ => false
        | "-h" | "-L" => match e.node with
            | .link _ => true
            | _ => false
        | "-s" => match e.node with
            | .file n => !(fs.contentOf n).isEmpty
            | .program _ => true
            | .directory => true
            | _ => false
        | "-u" => e.mode % 4096 / 2048 == 1
        | "-g" => e.mode % 2048 / 1024 == 1
        | "-k" => e.mode % 1024 / 512 == 1
        | _ => false

/-- Applies a binary test. -/
def binaryTest (op a b : String) : ScriptM Bool := do
  match op with
  | "=" => return a == b
  | "!=" => return a != b
  | "<" => return a < b
  | ">" => return b < a
  | "-eq" => return (← number a) == (← number b)
  | "-ne" => return (← number a) != (← number b)
  | "-ge" => return (← number a) ≥ (← number b)
  | "-gt" => return (← number a) > (← number b)
  | "-le" => return (← number a) ≤ (← number b)
  | "-lt" => return (← number a) < (← number b)
  | "-ef" => do
      let fs := (← getWorld).fs
      let cwd := (← getState).cwd
      match fs.resolve cwd a, fs.resolve cwd b with
      | .ok p, .ok q => return p == q
      | _, _ => return false
  | _ => return false

/-- The evaluation of a condition: the words, and the position of the word being read. -/
abbrev CondM := StateT Nat ScriptM

mutual

/-- An `-o` expression starting with the token `t` at the current position. -/
def orExpr (ws : Array String) : Nat → Tok → CondM Bool
  | 0, _ => pure false
  | f + 1, t => do
      let a ← andExpr ws f t
      let i ← get
      if lexAt ws (i + 1) == .orOp then do
        set (i + 2)
        let b ← orExpr ws f (lexAt ws (i + 2))
        pure (a || b)
      else pure a

/-- An `-a` expression. -/
def andExpr (ws : Array String) : Nat → Tok → CondM Bool
  | 0, _ => pure false
  | f + 1, t => do
      let a ← notExpr ws f t
      let i ← get
      if lexAt ws (i + 1) == .andOp then do
        set (i + 2)
        let b ← andExpr ws f (lexAt ws (i + 2))
        pure (a && b)
      else pure a

/-- A `!` expression. -/
def notExpr (ws : Array String) : Nat → Tok → CondM Bool
  | 0, _ => pure false
  | f + 1, t => do
      if t != .bang then primary ws f t
      else do
        let i ← get
        let n := lexAt ws (i + 1)
        if n != .eoi then set (i + 1)
        let v ← notExpr ws f n
        pure (!v)

/-- A primary expression. -/
def primary (ws : Array String) : Nat → Tok → CondM Bool
  | 0, _ => pure false
  | f + 1, t => do
      let i ← get
      match t with
      | .eoi => liftM (m := ScriptM) (malformed "" "argument expected")
      | .lparen => do
          set (i + 1)
          let v ← orExpr ws f (lexAt ws (i + 1))
          let j ← get
          set (j + 1)
          if lexAt ws (j + 1) != .rparen then
            liftM (m := ScriptM) (malformed "" "closing paren expected")
          pure v
      | .unary op => do
          match ws[i + 1]? with
          | none => liftM (m := ScriptM) (malformed op "argument expected")
          | some arg => do
              set (i + 1)
              match op with
              | "-z" => pure arg.isEmpty
              | "-n" => pure (!arg.isEmpty)
              | "-t" => do
                  let _ ← liftM (m := ScriptM) (number arg)
                  pure false
              | _ => liftM (m := ScriptM) (fileTest op arg)
      | _ =>
          match lexAt ws (i + 1) with
          | .binary op => do
              let a := ws[i]?.getD ""
              match ws[i + 2]? with
              | none => liftM (m := ScriptM) (malformed op "argument expected")
              | some b => do
                  set (i + 2)
                  liftM (m := ScriptM) (binaryTest op a b)
          | _ => pure (!(ws[i]?.getD "").isEmpty)

end

/-- Evaluates a condition from its words: its status, starting from `status` (1, or 0 after a
leading `!`). -/
def evalWords : Nat → List String → Nat → ScriptM Nat
  | 0, _, status => pure status
  | f + 1, ws, status => do
      let arr := ws.toArray
      let direct : Option Tok := match ws with
        | [_, op, _] => if isBinary op then some .operand else none
        | _ => none
      let (arr, start, again) := match direct with
        | some t => (arr, some t, none)
        | none =>
            if (ws.length == 3 || ws.length == 4) && ws.head? == some "(" &&
                ws.getLast? == some ")" then
              let inner := (ws.drop 1).dropLast.toArray
              (inner, some (lexAt inner 0), none)
            else if (ws.length == 3 || ws.length == 4) && ws.head? == some "!" then
              (arr, none, some (ws.drop 1))
            else (arr, some (lexAt arr 0), none)
      match again, start with
      | some rest, _ => if rest.isEmpty then pure 0 else evalWords f rest 0
      | none, some t => do
          let (v, i) ← (orExpr arr (arr.size + 2) t).run 0
          if arr[i]?.isSome && arr[i + 1]?.isSome then malformed (arr[i]?.getD "") "unexpected operator"
          pure (if v then 1 - status else status)
      | none, none => pure status

/-- Runs `test` (or `[`, when `bracket`) on its arguments: its status. -/
def run (bracket : Bool) (args : List Octets) : ScriptM Nat := do
  let args ← if bracket then
      match args.getLast? with
      | some l => if l.startsWith "]" then pure args.dropLast else fail "missing ]"
      | none => fail "missing ]"
    else pure args
  if args.isEmpty then return 1
  evalWords (args.length + 1) args 1

end Conch.Script.Test
