import Conch.Script.Syntax

/-!
# Arithmetic expansion

The text of `$((...))`, after its own expansions, is an expression over 64-bit signed
integers, which wrap around.  It has decimal, octal (a leading `0`) and hexadecimal (`0x`)
numbers, variables by name, parentheses, the unary `+ - ! ~`, the binary `* / % + - << >>
< <= > >= == != & ^ |` from tightest to loosest, `&&` and `||`, the conditional `? :`, and the
assignments `=` and `op=`, which store the value in the variable and give it.

A variable's value is read as a number in the same notations, with blanks around it and a
sign allowed; an unset or empty variable is 0, and anything else is refused as an illegal
number.  The parts of `&&`, `||` and `? :` that are not needed are read but not evaluated:
they neither assign nor divide by zero.

The operators are read the way the shell's own reader reads them: the longest operator
first, so `**` is two multiplications and `++` two additions, and an error names what the
parser expected ("expecting primary", "expecting EOF", "expecting ')'", "expecting ':'")
or "division by zero".

Main definitions: `Arith.eval` and `ArithError`.
-/

namespace Conch.Script.Arith

/-- A binary operator. -/
inductive BinOp where
  | mul | div | rem | add | sub | shl | shr | lt | le | gt | ge | eq | ne | band | bxor | bor
  deriving DecidableEq, Repr

/-- How tightly a binary operator binds: smaller binds tighter. -/
def BinOp.prec : BinOp → Nat
  | .mul | .div | .rem => 0
  | .add | .sub => 1
  | .shl | .shr => 2
  | .lt | .le | .gt | .ge => 3
  | .eq | .ne => 4
  | .band => 5
  | .bxor => 6
  | .bor => 7

/-- The loosest binding, below every binary operator. -/
def loosest : Nat := 8

/-- A token of an arithmetic expression. -/
inductive ATok where
  | num (v : Int64)
  | var (name : String)
  | bin (op : BinOp)
  | assign (op : Option BinOp)
  | land
  | lor
  | lnot
  | bnot
  | lparen
  | rparen
  | qmark
  | colon
  | bad
  | done
  deriving Repr, Inhabited

/-- Why an arithmetic expansion failed. -/
inductive ArithError where
  /-- The expression is malformed, or divides by zero: what went wrong. -/
  | invalid (what : String)
  /-- A variable's value is not a number: the value. -/
  | illegalNumber (value : String)
  /-- A variable that may not be changed was assigned to. -/
  | readOnly (name : String)
  deriving Repr

/-- The largest value. -/
def maxValue : Nat := Nat.pow 2 63 - 1

/-- The value of a hexadecimal digit. -/
def hexDigit (c : Char) : Option Nat :=
  if '0' ≤ c && c ≤ '9' then some (c.toNat - 48)
  else if 'a' ≤ c && c ≤ 'f' then some (c.toNat - 87)
  else if 'A' ≤ c && c ≤ 'F' then some (c.toNat - 55)
  else none

/-- Reads digits of a base from the start of a text: their value and the rest. -/
def digitsIn (base : Nat) : List Char → Nat → Nat × List Char
  | c :: rest, acc =>
      match hexDigit c with
      | some d => if d < base then digitsIn base rest (acc * base + d) else (acc, c :: rest)
      | none => (acc, c :: rest)
  | [], acc => (acc, [])

/-- Reads an unsigned number in the C notations (`0x` hexadecimal, leading `0` octal, else
decimal) from the start of a text: its value, the rest, and whether any digit was read. -/
def readNumber (cs : List Char) : Nat × List Char × Bool :=
  match cs with
  | '0' :: x :: d :: rest =>
      if (x == 'x' || x == 'X') && (hexDigit d).isSome then
        let (v, r) := digitsIn 16 (d :: rest) 0
        (v, r, true)
      else
        let (v, r) := digitsIn 8 (x :: d :: rest) 0
        (v, r, true)
  | '0' :: rest =>
      let (v, r) := digitsIn 8 rest 0
      (v, r, true)
  | c :: rest =>
      if '0' ≤ c && c ≤ '9' then
        let (v, r) := digitsIn 10 (c :: rest) 0
        (v, r, true)
      else (0, c :: rest, false)
  | [] => (0, [], false)

/-- Whether a character is a blank to the number reader. -/
def isSpaceChar (c : Char) : Bool :=
  c == ' ' || c == '\t' || c == '\n' || c.toNat == 11 || c.toNat == 12 || c == '\r'

/-- Reads a variable's value as a number: blanks, a sign, a number, blanks.  An empty value
is 0. -/
def valueOf (s : String) : Except ArithError Int64 :=
  let cs := s.toList.dropWhile isSpaceChar
  let (neg, cs) := match cs with
    | '-' :: rest => (true, rest)
    | '+' :: rest => (false, rest)
    | _ => (false, cs)
  let (v, rest, any) := readNumber cs
  let rest := rest.dropWhile isSpaceChar
  if s.toList.all isSpaceChar then .ok 0
  else if !any || !rest.isEmpty then .error (.illegalNumber s)
  else if (!neg && v > maxValue) || (neg && v > maxValue + 1) then .error (.illegalNumber s)
  else .ok (Int64.ofInt (if neg then -(v : Int) else (v : Int)))

/-- An operator followed by `=` is an assignment with it. -/
def withAssign (op : BinOp) : List Char → ATok × List Char
  | '=' :: rest => (.assign (some op), rest)
  | rest => (.bin op, rest)

/-- Reads the next token of an expression. -/
def lexOne : List Char → ATok × List Char
  | [] => (.done, [])
  | c :: rest =>
      if c == ' ' || c == '\t' || c == '\n' then lexOne rest
      else if '0' ≤ c && c ≤ '9' then
        let (v, r, _) := readNumber (c :: rest)
        (.num (Int64.ofInt (min v maxValue)), r)
      else if isNameStart c then
        let name := rest.takeWhile isNameChar
        (.var (String.ofList (c :: name)), rest.dropWhile isNameChar)
      else
        match c, rest with
        | '=', '=' :: r => (.bin .eq, r)
        | '=', r => (.assign none, r)
        | '>', '=' :: r => (.bin .ge, r)
        | '>', '>' :: r => withAssign .shr r
        | '>', r => (.bin .gt, r)
        | '<', '=' :: r => (.bin .le, r)
        | '<', '<' :: r => withAssign .shl r
        | '<', r => (.bin .lt, r)
        | '|', '|' :: r => (.lor, r)
        | '|', r => withAssign .bor r
        | '&', '&' :: r => (.land, r)
        | '&', r => withAssign .band r
        | '!', '=' :: r => (.bin .ne, r)
        | '!', r => (.lnot, r)
        | '(', r => (.lparen, r)
        | ')', r => (.rparen, r)
        | '*', r => withAssign .mul r
        | '/', r => withAssign .div r
        | '%', r => withAssign .rem r
        | '+', r => withAssign .add r
        | '-', r => withAssign .sub r
        | '~', r => (.bnot, r)
        | '^', r => withAssign .bxor r
        | '?', r => (.qmark, r)
        | ':', r => (.colon, r)
        | _, r => (.bad, r)
termination_by cs => cs.length

/-- The tokens of an expression, ending with `done`. -/
def lexAll : Nat → List Char → List ATok
  | 0, _ => [.done]
  | f + 1, cs =>
      match lexOne cs with
      | (.done, _) => [.done]
      | (t, rest) => t :: lexAll f rest

/-- Applies a binary operator. -/
def apply (op : BinOp) (a b : Int64) : Except ArithError Int64 :=
  let truth := fun (p : Bool) => if p then (1 : Int64) else 0
  match op with
  | .div => if b == 0 then .error (.invalid "division by zero") else .ok (a / b)
  | .rem => if b == 0 then .error (.invalid "division by zero") else .ok (a % b)
  | .mul => .ok (a * b)
  | .add => .ok (a + b)
  | .sub => .ok (a - b)
  | .shl => .ok (a <<< b)
  | .shr => .ok (a >>> b)
  | .lt => .ok (truth (a < b))
  | .le => .ok (truth (a ≤ b))
  | .gt => .ok (truth (a > b))
  | .ge => .ok (truth (a ≥ b))
  | .eq => .ok (truth (a == b))
  | .ne => .ok (truth (a != b))
  | .band => .ok (a &&& b)
  | .bxor => .ok (a ^^^ b)
  | .bor => .ok (a ||| b)

/-- What an evaluation sees of the shell's variables. -/
structure Vars where
  /-- The value of a variable, if it is set. -/
  value : String → Option String
  /-- Whether a variable may not be changed. -/
  readOnly : String → Bool

/-- The state of an evaluation: the tokens left, the token after the last primary, and the
assignments made so far, in order. -/
structure Eval where
  tokens : List ATok
  last : ATok := .done
  sets : List (String × Int64) := []

/-- A computation of the evaluator. -/
abbrev EvalM := StateT Eval (Except ArithError)

/-- Reads the next token. -/
def lex : EvalM ATok := do
  let s ← get
  match s.tokens with
  | t :: rest => do
      set { s with tokens := rest }
      pure t
  | [] => pure .done

/-- Records the token after the last primary. -/
def setLast (t : ATok) : EvalM Unit := modify fun s => { s with last := t }

/-- Fails with a parse error. -/
def failWith {α : Type} (what : String) : EvalM α := throw (.invalid what)

/-- The value of a variable, seeing the assignments made so far. -/
def lookup (vars : Vars) (name : String) : EvalM Int64 := do
  let s ← get
  match (s.sets.reverse.lookup name) with
  | some v => pure v
  | none =>
      match vars.value name with
      | some v => liftM (m := Except ArithError) (valueOf v)
      | none => pure 0

/-- The binary operator a token is, if it is one. -/
def ATok.binOp? : ATok → Option BinOp
  | .bin op => some op
  | _ => none

mutual

/-- An assignment or conditional, its first token `t` read. -/
def assignment (vars : Vars) : Nat → ATok → Bool → EvalM Int64
  | 0, _, _ => failWith "expecting primary"
  | f + 1, t, skip => do
      let op ← lex
      match t, op with
      | .var name, .assign how => do
          let next ← lex
          let result ← assignment vars f next skip
          if skip then pure result
          else do
            let result ← match how with
              | some bop => do
                  let old ← lookup vars name
                  liftM (m := Except ArithError) (apply bop old result)
              | none => pure result
            if vars.readOnly name then throw (.readOnly name)
            modify fun s => { s with sets := s.sets ++ [(name, result)] }
            pure result
      | _, _ => conditional vars f t op skip

/-- A conditional expression, its first token `t` and the one after `op` read. -/
def conditional (vars : Vars) : Nat → ATok → ATok → Bool → EvalM Int64
  | 0, _, _, _ => failWith "expecting primary"
  | f + 1, t, op, skip => do
      let a ← orElse vars f t op skip
      match (← get).last with
      | .qmark => do
          let t2 ← lex
          let b ← assignment vars f t2 (skip || a == 0)
          match (← get).last with
          | .colon => do
              let t3 ← lex
              let op3 ← lex
              let c ← conditional vars f t3 op3 (skip || a != 0)
              pure (if a != 0 then b else c)
          | _ => failWith "expecting ':'"
      | _ => pure a

/-- An `||` list. -/
def orElse (vars : Vars) : Nat → ATok → ATok → Bool → EvalM Int64
  | 0, _, _, _ => failWith "expecting primary"
  | f + 1, t, op, skip => do
      let a ← andThen vars f t op skip
      match (← get).last with
      | .lor => do
          let t2 ← lex
          let op2 ← lex
          let b ← orElse vars f t2 op2 (skip || a != 0)
          pure (if a != 0 || b != 0 then 1 else 0)
      | _ => pure a

/-- An `&&` list. -/
def andThen (vars : Vars) : Nat → ATok → ATok → Bool → EvalM Int64
  | 0, _, _, _ => failWith "expecting primary"
  | f + 1, t, op, skip => do
      let a ← binary vars f t op skip
      match (← get).last with
      | .land => do
          let t2 ← lex
          let op2 ← lex
          let b ← andThen vars f t2 op2 (skip || a == 0)
          pure (if a != 0 && b != 0 then 1 else 0)
      | _ => pure a

/-- An expression of binary operators. -/
def binary (vars : Vars) : Nat → ATok → ATok → Bool → EvalM Int64
  | 0, _, _, _ => failWith "expecting primary"
  | f + 1, t, op, skip => do
      let a ← primary vars f t op skip
      match (← get).last.binOp? with
      | some bop => climb vars f a bop loosest skip
      | none => pure a

/-- Continues a binary expression after `a` and its operator `op`, taking operators that bind
tighter than `prec`. -/
def climb (vars : Vars) : Nat → Int64 → BinOp → Nat → Bool → EvalM Int64
  | 0, _, _, _, _ => failWith "expecting primary"
  | f + 1, a, op, prec, skip => do
      let t ← lex
      let next ← lex
      let b ← primary vars f t next skip
      let (b, op2) ← match (← get).last.binOp? with
        | some op2 =>
            if op2.prec < op.prec then do
              let b ← climb vars f b op2 op.prec skip
              pure (b, (← get).last.binOp?)
            else pure (b, some op2)
        | none => pure (b, none)
      let a ← if skip then pure b else liftM (m := Except ArithError) (apply op a b)
      match op2 with
      | some op2 => if op2.prec ≥ prec then pure a else climb vars f a op2 prec skip
      | none => pure a

/-- A primary expression, its token `t` and the one after `op` read. -/
def primary (vars : Vars) : Nat → ATok → ATok → Bool → EvalM Int64
  | 0, _, _, _ => failWith "expecting primary"
  | f + 1, t, op, skip => do
      match t with
      | .lparen => do
          let r ← assignment vars f op skip
          match (← get).last with
          | .rparen => do
              setLast (← lex)
              pure r
          | _ => failWith "expecting ')'"
      | .num v => do
          setLast op
          pure v
      | .var name => do
          setLast op
          if skip then pure 0 else lookup vars name
      | .bin .add => do
          let next ← lex
          primary vars f op next skip
      | .bin .sub => do
          let next ← lex
          let v ← primary vars f op next skip
          pure (-v)
      | .lnot => do
          let next ← lex
          let v ← primary vars f op next skip
          pure (if v == 0 then 1 else 0)
      | .bnot => do
          let next ← lex
          let v ← primary vars f op next skip
          pure (~~~v)
      | _ => failWith "expecting primary"

end

/-- Evaluates an expression: its value and the assignments it made, in order. -/
def eval (vars : Vars) (expr : String) : Except ArithError (Int64 × List (String × Int64)) :=
  let tokens := lexAll (expr.length + 1) expr.toList
  let fuel := 4 * tokens.length + 16
  let run : EvalM Int64 := do
    let t ← lex
    let v ← assignment vars fuel t false
    match (← get).last with
    | .done => pure v
    | _ => failWith "expecting EOF"
  match run.run { tokens } with
  | .ok (v, s) => .ok (v, s.sets)
  | .error e => .error e

end Conch.Script.Arith
