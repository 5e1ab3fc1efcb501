import Conch.Programs.Basic

/-!
# Conditions as a program: `test` and `[`

`test` evaluates a condition given as words; its status is 0 when the condition holds, 1 when
it does not, and 2 when the words do not form one.  `[` is the same program with `]` as its
last word.

The words are read as POSIX asks when there are at most four: one word holds when it is not
empty; two are `! word` or a unary test; three are a binary test, `! a b`, `( a )`, or an
`-a`/`-o` expression; four are `! a b c` or `( a b )`.  Longer lists are expressions of `-o`
(loosest), `-a`, leading `!`s, parentheses, binary tests (`=`, `==`, `!=`, `<`, `>`, the
integer comparisons `-eq`, `-ne`, `-lt`, `-le`, `-gt`, `-ge`, and the file comparisons
`-nt`, `-ot`, `-ef`), unary tests (`-n`, `-z` and the file tests), and single words.  An
integer is decimal with blanks around it and a sign allowed; `-l word` in an integer
comparison stands for the length of the word.

Messages quote words between apostrophes: `missing argument after 'x'`, `invalid integer 'x'`,
`'x': unary operator expected`, `'x': binary operator expected`, `')' expected`, and
`extra argument 'x'`.

Main definition: `test`.
-/

namespace Conch.Programs

namespace Condition

/-- What a condition looks at: its words, and the file system its file tests see. -/
structure Words where
  ws : Array String
  fs : Fs
  cwd : String
  /-- Whether the words came before a closing `]`, which then stands right after them. -/
  bracket : Bool := false

/-- The word at a position; right after the last, the closing `]` if there is one; further
on, the empty word. -/
def Words.at (w : Words) (i : Nat) : String :=
  match w.ws[i]? with
  | some s => s
  | none => if w.bracket && i == w.ws.size then "]" else ""

/-- The number of words. -/
def Words.count (w : Words) : Nat := w.ws.size

/-- An evaluation: the position of the next word, and failure with a message. -/
abbrev Eval := StateT Nat (Except String)

/-- Refuses the words. -/
def refuse {α : Type} (msg : String) : Eval α := fun _ => .error msg

/-- Refuses words that end too soon. -/
def beyond {α : Type} (w : Words) : Eval α :=
  refuse ("missing argument after " ++ Quoted.value (w.at (w.count - 1)))

/-- Moves to the next word; when `needMore`, there must be one. -/
def advance (w : Words) (needMore : Bool) : Eval Unit := do
  let p ← get
  set (p + 1)
  if needMore && p + 1 ≥ w.count then beyond w

/-- Whether a word is a binary operator. -/
def binop (s : String) : Bool :=
  ["=", "!=", "==", "-nt", "-ot", "-ef", "-eq", "-ne", "-lt", "-le", "-gt", "-ge", "<", ">"].contains s

/-- Whether a word has the shape of a unary operator: a dash and one character. -/
def unaryShape (s : String) : Bool := s.length == 2 && s.startsWith "-"

/-- Reads an integer as the comparisons do: blanks, an optional sign, digits, blanks. -/
def findInt (s : String) : Except String Int :=
  let blank := fun (c : Char) => c == ' ' || c == '\t'
  let cs := s.toList.dropWhile blank
  let (neg, cs) := match cs with
    | '+' :: rest => (false, rest)
    | '-' :: rest => (true, rest)
    | _ => (false, cs)
  let ds := cs.takeWhile Char.isDigit
  let after := (cs.drop ds.length).dropWhile blank
  if ds.isEmpty || !after.isEmpty then .error ("invalid integer " ++ Quoted.value s)
  else
    let v : Nat := ds.foldl (fun (n : Nat) (d : Char) => n * 10 + (d.toNat - 48)) 0
    .ok (if neg then -(v : Int) else v)

/-- Lifts a check into an evaluation. -/
def lift {α : Type} (r : Except String α) : Eval α := fun p => r.map (·, p)

/-- The entry a name leads to, the last link followed unless `noFollow`. -/
def entryOf (w : Words) (name : String) (noFollow : Bool) : Option Entry :=
  if noFollow then
    match w.fs.entryPath w.cwd name with
    | .ok p => w.fs.find p
    | .error _ => none
  else
    match w.fs.stat w.cwd name with
    | .ok e => some e
    | .error _ => none

/-- A file test by its letter.  Everything runs as the superuser, who may read and write
every file and run those with an execute bit. -/
def fileTest (w : Words) (letter : Char) (name : String) : Bool :=
  match entryOf w name (letter == 'h' || letter == 'L') with
  | none => false
  | some e =>
      match letter with
      | 'e' | 'r' | 'w' | 'O' | 'G' => true
      | 'x' => e.executable || e.node.isDirectory
      | 'f' => match e.node with
          | .file _ | .program _ => true
          | _ => false
      | 'd' => e.node.isDirectory
      | 'c' => match e.node with
          | .device _ => true
          | _ => false
      | 'h' | 'L' => match e.node with
          | .link _ => true
          | _ => false
      | 's' => match e.node with
          | .file n => !(w.fs.contentOf n).isEmpty
          | .program _ | .directory => true
          | _ => false
      | 'u' => e.mode % 4096 / 2048 == 1
      | 'g' => e.mode % 2048 / 1024 == 1
      | 'k' => e.mode % 1024 / 512 == 1
      | _ => false

/-- A unary test at the current word. -/
def unaryOperator (w : Words) : Eval Bool := do
  let p ← get
  let op := w.at p
  let letter := (op.toList.drop 1).headD ' '
  let operand : Eval String := do
    advance w true
    let q ← get
    set (q + 1)
    pure (w.at q)
  match letter with
  | 'n' => do
      let a ← operand
      pure (!a.isEmpty)
  | 'z' => do
      let a ← operand
      pure a.isEmpty
  | 't' => do
      let a ← operand
      let _ ← lift (findInt a)
      pure false
  | 'N' | 'S' | 'p' | 'b' => do
      let _ ← operand
      pure false
  | 'e' | 'r' | 'w' | 'x' | 'O' | 'G' | 'f' | 'd' | 's' | 'c' | 'L' | 'h' | 'u' | 'g' | 'k' => do
      let a ← operand
      pure (fileTest w letter a)
  | _ => refuse (Quoted.value op ++ ": unary operator expected")

/-- A binary test whose operator is the next word; `leftLength` when the left operand is
`-l word`. -/
def binaryOperator (w : Words) (leftLength : Bool) : Eval Bool := do
  if leftLength then advance w false
  let p ← get
  let op := p + 1
  let rightLength := op + 2 < w.count && w.at (op + 1) == "-l"
  if rightLength then advance w false
  let o := w.at op
  let isInt := ["-eq", "-ne", "-lt", "-le", "-gt", "-ge"].contains o
  if isInt then
    let l ← if leftLength then pure (Int.ofNat (w.at (op - 1)).length) else lift (findInt (w.at (op - 1)))
    let r ← if rightLength then pure (Int.ofNat (w.at (op + 2)).length) else lift (findInt (w.at (op + 1)))
    let p' ← get
    set (p' + 3)
    pure (match o with
      | "-eq" => l == r
      | "-ne" => l != r
      | "-lt" => l < r
      | "-le" => l ≤ r
      | "-gt" => l > r
      | _ => l ≥ r)
  else if o == "-nt" || o == "-ot" || o == "-ef" then do
    let p' ← get
    set (p' + 3)
    if leftLength || rightLength then refuse (o ++ " does not accept -l")
    else
      let a := entryOf w (w.at (op - 1)) false
      let b := entryOf w (w.at (op + 1)) false
      pure (match o with
        | "-nt" => a.isSome && b.isNone
        | "-ot" => a.isNone && b.isSome
        | _ =>
            match w.fs.resolve w.cwd (w.at (op - 1)), w.fs.resolve w.cwd (w.at (op + 1)) with
            | .ok x, .ok y => x == y
            | _, _ => false)
  else do
    let p' ← get
    let a := w.at p'
    let b := w.at (p' + 2)
    set (p' + 3)
    pure (match o with
      | "=" | "==" => a == b
      | "!=" => a != b
      | "<" => a < b
      | _ => b < a)

/-- One word: whether it is not empty. -/
def oneArgument (w : Words) : Eval Bool := do
  let p ← get
  set (p + 1)
  pure (!(w.at p).isEmpty)

/-- Two words: `! word` or a unary test. -/
def twoArguments (w : Words) : Eval Bool := do
  let p ← get
  if w.at p == "!" then do
    advance w false
    let v ← oneArgument w
    pure (!v)
  else if unaryShape (w.at p) then unaryOperator w
  else beyond w

/-- How many words the condition inside parentheses starting at `p` has: up to the `)`, or
every word left when there are more than four before it. -/
def parenCount (w : Words) (p : Nat) : Nat → Nat → Nat
  | 0, n => n
  | fuel + 1, n =>
      if p + n < w.count && w.at (p + n) != ")" then
        if n == 4 then w.count - p else parenCount w p fuel (n + 1)
      else n

mutual

/-- Evaluates `n` words as POSIX reads them. -/
def posixTest (w : Words) : Nat → Nat → Eval Bool
  | 0, _ => pure false
  | fuel + 1, n => do
      let p ← get
      match n with
      | 1 => oneArgument w
      | 2 => twoArguments w
      | 3 => threeArguments w fuel
      | 4 =>
          if w.at p == "!" then do
            advance w true
            let v ← threeArguments w fuel
            pure (!v)
          else if w.at p == "(" && w.at (p + 3) == ")" then do
            advance w false
            let v ← twoArguments w
            advance w false
            pure v
          else orExpr w fuel
      | _ => orExpr w fuel

/-- Three words: a binary test, `! a b`, `( a )`, or an expression. -/
def threeArguments (w : Words) : Nat → Eval Bool
  | 0 => pure false
  | fuel + 1 => do
      let p ← get
      if binop (w.at (p + 1)) then binaryOperator w false
      else if w.at p == "!" then do
        advance w true
        let v ← twoArguments w
        pure (!v)
      else if w.at p == "(" && w.at (p + 2) == ")" then do
        advance w false
        let v ← oneArgument w
        advance w false
        pure v
      else if w.at (p + 1) == "-a" || w.at (p + 1) == "-o" then orExpr w fuel
      else refuse (Quoted.value (w.at (p + 1)) ++ ": binary operator expected")

/-- An expression: `-o` between `-a` expressions. -/
def orExpr (w : Words) : Nat → Eval Bool
  | 0 => pure false
  | fuel + 1 => do
      let p ← get
      if p ≥ w.count then beyond w
      else orRest w fuel false

/-- The rest of an `-o` expression after `acc`. -/
def orRest (w : Words) : Nat → Bool → Eval Bool
  | 0, acc => pure acc
  | fuel + 1, acc => do
      let v ← andRest w fuel true
      let p ← get
      if p < w.count && w.at p == "-o" then do
        advance w false
        orRest w fuel (acc || v)
      else pure (acc || v)

/-- The rest of an `-a` expression after `acc`. -/
def andRest (w : Words) : Nat → Bool → Eval Bool
  | 0, acc => pure acc
  | fuel + 1, acc => do
      let v ← term w fuel
      let p ← get
      if p < w.count && w.at p == "-a" then do
        advance w false
        andRest w fuel (acc && v)
      else pure (acc && v)

/-- A term: leading `!`s, then a parenthesized condition, a binary or unary test, or a word. -/
def term (w : Words) : Nat → Eval Bool
  | 0 => pure false
  | fuel + 1 => do
      let negated ← bangs w (w.count + 1) false
      let p ← get
      if p ≥ w.count then beyond w
      else
        let v ← if w.at p == "(" then do
            advance w true
            let p ← get
            let n := parenCount w p (w.count + 1) 1
            let v ← posixTest w fuel n
            let q ← get
            if q ≥ w.count && !w.bracket then refuse "')' expected"
            else if w.at q != ")" then
              refuse ("')' expected, found " ++ Quoted.value (w.at q))
            else do
              advance w false
              pure v
          else if 4 ≤ w.count - p && w.at p == "-l" && binop (w.at (p + 2)) then binaryOperator w true
          else if 3 ≤ w.count - p && binop (w.at (p + 1)) then binaryOperator w false
          else if (w.at p).startsWith "-" && (w.at p).length == 2 then unaryOperator w
          else do
            advance w false
            pure (!(w.at p).isEmpty)
        pure (v != negated)

/-- Skips leading `!` words, flipping `negated` for each. -/
def bangs (w : Words) : Nat → Bool → Eval Bool
  | 0, negated => pure negated
  | fuel + 1, negated => do
      let p ← get
      if p < w.count && w.at p == "!" then do
        advance w true
        bangs w fuel (!negated)
      else pure negated

end

/-- Evaluates the words of a condition: whether it holds, or the message refusing them. -/
def evaluate (w : Words) : Except String Bool :=
  if w.count == 0 then .ok false
  else
    match (posixTest w (4 * w.count + 8) w.count).run 0 with
    | .error e => .error e
    | .ok (v, p) =>
        if p != w.count then .error ("extra argument " ++ Quoted.value (w.at p))
        else .ok v

end Condition

/-- `test`, or `[` when `bracket`: the status of a condition. -/
def test (bracket : Bool) : Batch := fun fs call =>
  let prog := call.name
  let args := call.args
  let refuse := fun (msg : String) => failed fs (prog ++ ": " ++ msg ++ "\n") 2
  if bracket && args.getLast? != some "]" then refuse "missing ']'"
  else
    let words := if bracket then args.dropLast else args
    match Condition.evaluate { ws := words.toArray, fs, cwd := call.cwd, bracket } with
    | .error msg => refuse msg
    | .ok v => { ending := .exited (if v then 0 else 1), fs }

end Conch.Programs
