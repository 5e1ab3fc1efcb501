import Conch.Programs.Basic
import Conch.Programs.Pattern

/-!
# Evaluating expressions: `expr`

`expr` evaluates the expression its arguments form, one token an argument, and writes the
value.  From loosest to tightest:

* `a | b` is `a` unless it is null (empty or zero), else `b` unless null, else 0;
* `a & b` is `a` unless either is null, else 0;
* `<`, `<=`, `=`, `==`, `!=`, `>=`, `>` compare as integers when both sides look like
  integers, else as octet strings, and give 1 or 0;
* `+` and `-`, then `*`, `/` and `%`, work on integers of any size, dividing towards zero;
* `a : re` matches the basic regex `re` at the start of `a`: the text of its first group, or
  the length of the match;
* `match a re`, `substr a pos len`, `index a chars`, `length a`, and `+ word` (the word as a
  plain string) are prefix forms;
* parentheses group.

The status is 0 when the value is neither empty nor zero, 1 when it is, and 2 for an
expression that cannot be evaluated (`syntax error: ...`, `non-integer argument`,
`division by zero`, or a malformed regex).

Main definition: `expr`.
-/

namespace Conch.Programs

namespace Expression

/-- A value: an integer, or a string. -/
inductive Value where
  | int (n : Int)
  | str (s : String)
  deriving Inhabited

/-- Whether a string looks like an integer: an optional minus and digits. -/
def looksLikeInteger (s : String) : Bool :=
  let cs := match s.toList with
    | '-' :: rest => rest
    | cs => cs
  !cs.isEmpty && cs.all Char.isDigit

/-- The text of a value. -/
def Value.text : Value → String
  | .int n => toString n
  | .str s => s

/-- Whether a value is null: zero, or the empty string, or a string of zeros with an optional
minus. -/
def Value.null : Value → Bool
  | .int n => n == 0
  | .str s =>
      let cs := match s.toList with
        | '-' :: rest => rest
        | cs => cs
      s.isEmpty || (!cs.isEmpty && cs.all (· == '0'))

/-- A value as an integer, if it is one or looks like one. -/
def Value.arith : Value → Option Int
  | .int n => some n
  | .str s => if looksLikeInteger s then s.toInt? else none

/-- The words left to read and the last word read, which messages name. -/
structure Cursor where
  rest : List String
  last : String := ""

/-- An evaluation: the cursor, and failure with a message and a status. -/
abbrev Eval := StateT Cursor (Except (String × Nat))

/-- Refuses the expression. -/
def refuse {α : Type} (msg : String) : Eval α := fun _ => .error (msg, 2)

/-- Takes the next word if it is `w`. -/
def nextIs (w : String) : Eval Bool := do
  let c ← get
  match c.rest with
  | x :: more =>
      if x == w then do
        set ({ rest := more, last := x } : Cursor)
        pure true
      else pure false
  | [] => pure false

/-- Refuses an expression that ends where an operand is needed. -/
def requireMore : Eval Unit := do
  let c ← get
  if c.rest.isEmpty then refuse ("syntax error: missing argument after " ++ Quoted.value c.last)

/-- Takes the next word as a string. -/
def word : Eval Value := do
  let c ← get
  match c.rest with
  | x :: more => do
      set ({ rest := more, last := x } : Cursor)
      pure (.str x)
  | [] => pure (.str "")

/-- Matches `re` at the start of `s`, as `:` and `match` do. -/
def colon (s re : Value) : Eval Value :=
  match Pattern.parse (Pattern.Dialect.grepBasic false) re.text with
  | .error e => refuse e.message
  | .ok r =>
      let subj := Pattern.Subject.of false s.text false
      let grouped := r.groups > 0
      match Pattern.longestAt subj r (fun _ => true) 0 with
      | some (e, gs) =>
          if grouped then
            match Pattern.groupSpan gs 1 with
            | some (a, b) => pure (.str (String.ofList ((s.text.toList.drop a).take (b - a))))
            | none => pure (.str "")
          else pure (.int e)
      | none => pure (if grouped then .str "" else .int 0)

/-- A size argument of `substr`: none when negative or too large to be a position. -/
def size (v : Value) : Option Nat :=
  match v.arith with
  | some n => if n < 0 then none else some n.toNat
  | none => none

mutual

/-- `a | b`. -/
def orExpr : Nat → Bool → Eval Value
  | 0, _ => pure (.str "")
  | fuel + 1, go => do
      let l ← andExpr fuel go
      orRest fuel go l

/-- The rest of an `|` expression after `l`. -/
def orRest : Nat → Bool → Value → Eval Value
  | 0, _, l => pure l
  | fuel + 1, go, l => do
      if ← nextIs "|" then
        let r ← andExpr fuel (go && l.null)
        let v := if l.null then (if r.null then Value.int 0 else r) else l
        orRest fuel go v
      else pure l

/-- `a & b`. -/
def andExpr : Nat → Bool → Eval Value
  | 0, _ => pure (.str "")
  | fuel + 1, go => do
      let l ← compare fuel go
      andRest fuel go l

/-- The rest of an `&` expression after `l`. -/
def andRest : Nat → Bool → Value → Eval Value
  | 0, _, l => pure l
  | fuel + 1, go, l => do
      if ← nextIs "&" then
        let r ← compare fuel (go && !l.null)
        let v := if l.null || r.null then Value.int 0 else l
        andRest fuel go v
      else pure l

/-- Comparisons. -/
def compare : Nat → Bool → Eval Value
  | 0, _ => pure (.str "")
  | fuel + 1, go => do
      let l ← sum fuel go
      compareRest fuel go l

/-- The rest of a comparison after `l`. -/
def compareRest : Nat → Bool → Value → Eval Value
  | 0, _, l => pure l
  | fuel + 1, go, l => do
      let op ← if ← nextIs "<" then pure (some "<")
        else if ← nextIs "<=" then pure (some "<=")
        else if ← nextIs "=" then pure (some "=")
        else if ← nextIs "==" then pure (some "=")
        else if ← nextIs "!=" then pure (some "!=")
        else if ← nextIs ">=" then pure (some ">=")
        else if ← nextIs ">" then pure (some ">")
        else pure none
      match op with
      | none => pure l
      | some op => do
          let r ← sum fuel go
          let a := l.text
          let b := r.text
          let ord : Ordering :=
            if looksLikeInteger a && looksLikeInteger b then
              Ord.compare (a.toInt?.getD 0) (b.toInt?.getD 0)
            else Ord.compare a b
          let holds := match op with
            | "<" => ord == .lt
            | "<=" => ord != .gt
            | "=" => ord == .eq
            | "!=" => ord != .eq
            | ">=" => ord != .lt
            | _ => ord == .gt
          compareRest fuel go (.int (if go && holds then 1 else 0))

/-- `+` and `-`. -/
def sum : Nat → Bool → Eval Value
  | 0, _ => pure (.str "")
  | fuel + 1, go => do
      let l ← product fuel go
      sumRest fuel go l

/-- The rest of a sum after `l`. -/
def sumRest : Nat → Bool → Value → Eval Value
  | 0, _, l => pure l
  | fuel + 1, go, l => do
      let op ← if ← nextIs "+" then pure (some true)
        else if ← nextIs "-" then pure (some false)
        else pure none
      match op with
      | none => pure l
      | some plus => do
          let r ← product fuel go
          if !go then sumRest fuel go l
          else
            match l.arith, r.arith with
            | some a, some b => sumRest fuel go (.int (if plus then a + b else a - b))
            | _, _ => refuse "non-integer argument"

/-- `*`, `/` and `%`. -/
def product : Nat → Bool → Eval Value
  | 0, _ => pure (.str "")
  | fuel + 1, go => do
      let l ← matching fuel go
      productRest fuel go l

/-- The rest of a product after `l`. -/
def productRest : Nat → Bool → Value → Eval Value
  | 0, _, l => pure l
  | fuel + 1, go, l => do
      let op ← if ← nextIs "*" then pure (some '*')
        else if ← nextIs "/" then pure (some '/')
        else if ← nextIs "%" then pure (some '%')
        else pure none
      match op with
      | none => pure l
      | some op => do
          let r ← matching fuel go
          if !go then productRest fuel go l
          else
            match l.arith, r.arith with
            | some a, some b =>
                if op != '*' && b == 0 then refuse "division by zero"
                else productRest fuel go (.int (match op with
                  | '*' => a * b
                  | '/' => a.tdiv b
                  | _ => a.tmod b))
            | _, _ => refuse "non-integer argument"

/-- `a : re`. -/
def matching : Nat → Bool → Eval Value
  | 0, _ => pure (.str "")
  | fuel + 1, go => do
      let l ← prefixed fuel go
      matchingRest fuel go l

/-- The rest of a match after `l`. -/
def matchingRest : Nat → Bool → Value → Eval Value
  | 0, _, l => pure l
  | fuel + 1, go, l => do
      if ← nextIs ":" then
        let r ← prefixed fuel go
        let v ← if go then colon l r else pure l
        matchingRest fuel go v
      else pure l

/-- The prefix forms, and `+ word`. -/
def prefixed : Nat → Bool → Eval Value
  | 0, _ => pure (.str "")
  | fuel + 1, go => do
      if ← nextIs "+" then do
        requireMore
        word
      else if ← nextIs "length" then do
        let r ← prefixed fuel go
        pure (.int r.text.length)
      else if ← nextIs "match" then do
        let l ← prefixed fuel go
        let r ← prefixed fuel go
        if go then colon l r else pure l
      else if ← nextIs "index" then do
        let l ← prefixed fuel go
        let r ← prefixed fuel go
        let chars := r.text.toList
        let pos := (l.text.toList.findIdx? (fun (c : Char) => chars.contains c)).map (· + 1)
        pure (.int (Int.ofNat (pos.getD 0)))
      else if ← nextIs "substr" then do
        let l ← prefixed fuel go
        let i ← prefixed fuel go
        let n ← prefixed fuel go
        let s := l.text
        match size i, size n with
        | some p, some k =>
            if s.length < p || p == 0 || k == 0 then pure (.str "")
            else pure (.str (String.ofList ((s.toList.drop (p - 1)).take k)))
        | _, _ => pure (.str "")
      else primary fuel go

/-- A word, or a parenthesized expression. -/
def primary : Nat → Bool → Eval Value
  | 0, _ => pure (.str "")
  | fuel + 1, go => do
      requireMore
      if ← nextIs "(" then do
        let v ← orExpr fuel go
        let c ← get
        match c.rest with
        | [] => refuse ("syntax error: expecting ')' after " ++ Quoted.value c.last)
        | x :: _ =>
            if ← nextIs ")" then pure v
            else refuse ("syntax error: expecting ')' instead of " ++ Quoted.value x)
      else if ← nextIs ")" then refuse "syntax error: unexpected ')'"
      else word

end

/-- Evaluates the words of an expression: its value, or a message and a status. -/
def evaluate (words : List String) : Except (String × Nat) Value :=
  match (orExpr (12 * (words.length + 2)) true).run { rest := words } with
  | .error e => .error e
  | .ok (v, c) =>
      match c.rest with
      | [] => .ok v
      | x :: _ => .error ("syntax error: unexpected argument " ++ Quoted.value x, 2)

end Expression

/-- `expr`: writes the value of the expression its arguments form. -/
def expr : Batch := fun fs call =>
  let prog := call.name
  let args := match call.args with
    | "--" :: rest => rest
    | args => args
  if args.isEmpty then
    failed fs (prog ++ ": missing operand\nTry '" ++ prog ++ " --help' for more information.\n") 2
  else
    match Expression.evaluate args with
    | .error (msg, code) => failed fs (prog ++ ": " ++ msg ++ "\n") code
    | .ok v => { out := v.text ++ "\n", ending := .exited (if v.null then 1 else 0), fs }

end Conch.Programs
