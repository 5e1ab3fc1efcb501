/-!
# Reading TOML documents

A reader for TOML 1.1 documents, enough to decide whether a document is well formed and to
give back its tree of values.  Scalars keep what a configuration needs (strings, integers
of any size, booleans); floats and date-times are recognised and checked but carry no value.
A float must be finite as a double (one that rounds to infinity is refused, one that
rounds to zero is not), and a date must be a day of the Gregorian calendar.  Multi-line
strings keep their line endings as written.

A document is read line by line.  A line is blank, a comment, a key-value pair, a table
header `[a.b]` or an array-of-tables header `[[a.b]]`.  The tables a document builds obey
the TOML rules on definitions: a key is given a value once; a table is opened by a header
once, and a table made by dotted keys is never opened by a header; dotted keys extend the
tables that dotted keys made and those that only exist as prefixes of headers; inline
tables and arrays of values are closed.

Nested arrays and inline tables are read with a depth budget equal to the length of the
input, which no well-formed document can exhaust, since every level reads at least one
character.

Main definitions: `Toml.Value` and `Toml.parse`.
-/

namespace Conch.Toml

/-! ## Values -/

/-- A TOML value. -/
inductive Value where
  | string (s : String)
  | integer (n : Int)
  | float
  | boolean (b : Bool)
  | datetime
  | array (items : List Value)
  | table (entries : List (String × Value))
  deriving Repr, Inhabited

/-! ## Characters -/

/-- Space and tab, the white space inside a line. -/
def isSpace (c : Char) : Bool := c == ' ' || c == '\t'

/-- The characters of a bare key. -/
def isBareKeyChar (c : Char) : Bool := c.isAlphanum || c == '_' || c == '-'

/-- Control characters, which no string or comment may hold (tab apart). -/
def isControl (c : Char) : Bool := (c.toNat < 0x20 && c != '\t') || c.toNat == 0x7F

/-- The value of a hexadecimal digit. -/
def hexValue (c : Char) : Option Nat :=
  if c.isDigit then some (c.toNat - '0'.toNat)
  else if 'a' ≤ c && c ≤ 'f' then some (c.toNat - 'a'.toNat + 10)
  else if 'A' ≤ c && c ≤ 'F' then some (c.toNat - 'A'.toNat + 10)
  else none

/-- The number written by some hexadecimal digits. -/
def hexDigits (cs : List Char) : Option Nat :=
  cs.foldl (fun acc c => acc.bind fun n => (hexValue c).map (n * 16 + ·)) (some 0)

/-- The character of a Unicode scalar value. -/
def scalar? (n : Nat) : Option Char :=
  if n < 0xD800 || (0xDFFF < n && n < 0x110000) then some (Char.ofNat n) else none

/-- Skips spaces and tabs. -/
def skipSpace (cs : List Char) : List Char := cs.dropWhile isSpace

/-- Skips a comment up to (not including) the end of its line; `none` if it holds a
control character. -/
def skipComment : List Char → Option (List Char)
  | '#' :: rest =>
      let body := rest.takeWhile (fun c => c != '\n' && c != '\r')
      if body.any isControl then none else some (rest.dropWhile (fun c => c != '\n' && c != '\r'))
  | cs => some cs

/-- Skips a line ending: a newline, or a carriage return and a newline. -/
def skipNewline : List Char → Option (List Char)
  | '\n' :: rest => some rest
  | '\r' :: '\n' :: rest => some rest
  | _ => none

/-! ## Strings -/

/-- An escape sequence of a basic string, after its backslash. -/
def escape : List Char → Option (Char × List Char)
  | 'b' :: r => some ('\x08', r)
  | 't' :: r => some ('\t', r)
  | 'n' :: r => some ('\n', r)
  | 'f' :: r => some ('\x0c', r)
  | 'r' :: r => some ('\r', r)
  | 'e' :: r => some ('\x1b', r)
  | '"' :: r => some ('"', r)
  | '\\' :: r => some ('\\', r)
  | 'x' :: a :: b :: r =>
      (hexDigits [a, b]).bind scalar? |>.map (·, r)
  | 'u' :: a :: b :: c :: d :: r =>
      (hexDigits [a, b, c, d]).bind scalar? |>.map (·, r)
  | 'U' :: a :: b :: c :: d :: e :: f :: g :: h :: r =>
      (hexDigits [a, b, c, d, e, f, g, h]).bind scalar? |>.map (·, r)
  | _ => none

/-- The rest of a basic string after its opening quote: its text and the input after the
closing quote. -/
def basicBody (acc : String) : List Char → Option (String × List Char)
  | [] => none
  | '"' :: rest => some (acc, rest)
  | '\\' :: rest =>
      match escape rest with
      | some (c, r) =>
          if _h : r.length < rest.length + 1 then basicBody (acc.push c) r else none
      | none => none
  | c :: rest => if isControl c then none else basicBody (acc.push c) rest
termination_by cs => cs.length
decreasing_by all_goals (simp only [List.length_cons]; omega)

/-- The rest of a literal string after its opening quote. -/
def literalBody (acc : String) : List Char → Option (String × List Char)
  | [] => none
  | '\'' :: rest => some (acc, rest)
  | c :: rest => if isControl c then none else literalBody (acc.push c) rest

/-- Drops one line ending right after an opening delimiter. -/
def dropLeadingNewline : List Char → List Char
  | '\n' :: rest => rest
  | '\r' :: '\n' :: rest => rest
  | cs => cs

/-- The number of copies of `q` at the head of the input. -/
def runOf (q : Char) (cs : List Char) : Nat := (cs.takeWhile (· == q)).length

/-- The rest of a multi-line string after its opening delimiter, closed by three `q`; up
to two more `q` just before the closing delimiter belong to the text.  `escapes` says
whether backslash escapes and line-ending backslashes apply. -/
def multiBody (q : Char) (escapes : Bool) (acc : String) : List Char → Option (String × List Char)
  | [] => none
  | c :: rest =>
      if c == q then
        let n := runOf q (c :: rest)
        if n ≥ 3 then
          if n > 5 then none
          else some (acc ++ String.ofList (List.replicate (n - 3) q), (c :: rest).drop n)
        else multiBody q escapes (acc.push c) rest
      else if c == '\\' && escapes then
        let afterSpace := skipSpace rest
        match afterSpace with
        | '\n' :: _ | '\r' :: '\n' :: _ =>
            let r := afterSpace.dropWhile (fun d => isSpace d || d == '\n' || d == '\r')
            if _h : r.length < rest.length + 1 then multiBody q escapes acc r else none
        | _ =>
            match escape rest with
            | some (e, r) =>
                if _h : r.length < rest.length + 1 then multiBody q escapes (acc.push e) r
                else none
            | none => none
      else if c == '\r' then
        match rest with
        | '\n' :: r => multiBody q escapes ((acc.push '\r').push '\n') r
        | _ => none
      else if c == '\n' then multiBody q escapes (acc.push '\n') rest
      else if isControl c then none
      else multiBody q escapes (acc.push c) rest
termination_by cs => cs.length
decreasing_by all_goals (simp only [List.length_cons]; omega)

/-- A string of any of the four kinds at the head of the input. -/
def stringAt : List Char → Option (String × List Char)
  | '"' :: '"' :: '"' :: rest => multiBody '"' true "" (dropLeadingNewline rest)
  | '"' :: rest => basicBody "" rest
  | '\'' :: '\'' :: '\'' :: rest => multiBody '\'' false "" (dropLeadingNewline rest)
  | '\'' :: rest => literalBody "" rest
  | _ => none

/-! ## Keys -/

/-- One part of a key: bare, or a one-line string. -/
def simpleKey : List Char → Option (String × List Char)
  | '"' :: '"' :: '"' :: _ => none
  | '\'' :: '\'' :: '\'' :: _ => none
  | '"' :: rest => basicBody "" rest
  | '\'' :: rest => literalBody "" rest
  | cs =>
      let k := cs.takeWhile isBareKeyChar
      if k.isEmpty then none else some (String.ofList k, cs.dropWhile isBareKeyChar)

/-- A dotted key: parts joined by dots, with spaces allowed around the dots. -/
def dottedKey (fuel : Nat) (cs : List Char) : Option (List String × List Char) :=
  match fuel with
  | 0 => none
  | fuel + 1 =>
      (simpleKey cs).bind fun (k, r) =>
        match skipSpace r with
        | '.' :: r' =>
            (dottedKey fuel (skipSpace r')).map fun (ks, r'') => (k :: ks, r'')
        | _ => some ([k], r)

/-! ## Scalars -/

/-- Whether some characters are digits of the given class, single underscores allowed
between digits. -/
def digitsWithUnderscores (isDigit : Char → Bool) : List Char → Bool
  | [] => false
  | [c] => isDigit c
  | c :: '_' :: rest => isDigit c && digitsWithUnderscores isDigit rest
  | c :: rest => isDigit c && digitsWithUnderscores isDigit rest

/-- Whether a decimal integer part is well formed: a zero alone, or digits not starting
with zero. -/
def decimalPart (cs : List Char) : Bool :=
  match cs with
  | ['0'] => true
  | '0' :: _ => false
  | _ => digitsWithUnderscores Char.isDigit cs

/-- The value of digits of a base, underscores skipped. -/
def digitsValue (base : Nat) (cs : List Char) : Nat :=
  cs.foldl (fun n c => if c == '_' then n else n * base + ((hexValue c).getD 0)) 0

/-- An integer written in the token, if it is one. -/
def integer? (tok : List Char) : Option Int :=
  match tok with
  | '0' :: 'x' :: ds =>
      if digitsWithUnderscores (fun c => (hexValue c).isSome) ds then some (digitsValue 16 ds)
      else none
  | '0' :: 'o' :: ds =>
      if digitsWithUnderscores (fun c => '0' ≤ c && c ≤ '7') ds then some (digitsValue 8 ds)
      else none
  | '0' :: 'b' :: ds =>
      if digitsWithUnderscores (fun c => c == '0' || c == '1') ds then some (digitsValue 2 ds)
      else none
  | '+' :: ds => if decimalPart ds then some (digitsValue 10 ds) else none
  | '-' :: ds => if decimalPart ds then some (-(digitsValue 10 ds : Int)) else none
  | ds => if decimalPart ds then some (digitsValue 10 ds) else none

/-- Whether the token is an exponent: `e` or `E`, a sign, and digits. -/
def exponent (cs : List Char) : Bool :=
  match cs with
  | '+' :: ds => digitsWithUnderscores Char.isDigit ds
  | '-' :: ds => digitsWithUnderscores Char.isDigit ds
  | ds => digitsWithUnderscores Char.isDigit ds

/-- Whether the token is a float. -/
def isFloat (tok : List Char) : Bool :=
  let unsigned := match tok with
    | '+' :: r => r
    | '-' :: r => r
    | r => r
  if unsigned == ['i', 'n', 'f'] || unsigned == ['n', 'a', 'n'] then true
  else
    let intPart := unsigned.takeWhile (fun c => c.isDigit || c == '_')
    let rest := unsigned.dropWhile (fun c => c.isDigit || c == '_')
    decimalPart intPart &&
      match rest with
      | '.' :: frac =>
          let fracPart := frac.takeWhile (fun c => c.isDigit || c == '_')
          let after := frac.dropWhile (fun c => c.isDigit || c == '_')
          digitsWithUnderscores Char.isDigit fracPart &&
            match after with
            | [] => true
            | e :: expPart => (e == 'e' || e == 'E') && exponent expPart
      | e :: expPart => (e == 'e' || e == 'E') && exponent expPart
      | [] => false

/-- The number of decimal digits of a positive number. -/
def digitCount (n : Nat) : Nat := (Nat.toDigits 10 n).length

/-- Whether a float written as decimal digits `ds` (with underscores) and a power of ten
`e10` is too large for a double: it is at least the midpoint `2^1024 - 2^970` between the
largest double and `2^1024`, so it rounds to infinity.  Numbers below `10^308` never are,
numbers from `10^309` on always are, and those between are compared exactly. -/
def overflowsDouble (ds : List Char) (e10 : Int) : Bool :=
  let d := digitsValue 10 ds
  if d == 0 then false
  else
    let k : Int := digitCount d + e10
    if k ≤ 308 then false
    else if k ≥ 310 then true
    else
      let limit := Nat.pow 2 1024 - Nat.pow 2 970
      if 0 ≤ e10 then d * Nat.pow 10 e10.toNat ≥ limit else d ≥ limit * Nat.pow 10 e10.natAbs

/-- Whether a float token names a finite number too large for a double. -/
def floatOverflows (tok : List Char) : Bool :=
  let unsigned := match tok with
    | '+' :: r => r
    | '-' :: r => r
    | r => r
  let isMantissa := fun (c : Char) => c.isDigit || c == '_' || c == '.'
  let mantissa := unsigned.takeWhile isMantissa
  let intPart := mantissa.takeWhile (· != '.')
  let fracPart := (mantissa.dropWhile (· != '.')).drop 1
  let fracDigits := fracPart.filter Char.isDigit
  let exp : Int := match unsigned.dropWhile isMantissa with
    | _ :: '-' :: ds => -(digitsValue 10 ds : Int)
    | _ :: '+' :: ds => digitsValue 10 ds
    | _ :: ds => digitsValue 10 ds
    | [] => 0
  overflowsDouble (intPart ++ fracPart) (exp - fracDigits.length)

/-- Whether the characters are exactly `n` digits. -/
def isDigits (n : Nat) (cs : List Char) : Bool := cs.length == n && cs.all Char.isDigit

/-- The number written by some decimal digits. -/
def decimalValue (cs : List Char) : Nat := digitsValue 10 cs

/-- Whether a year of the Gregorian calendar has a 29th of February. -/
def isLeapYear (y : Nat) : Bool := y % 4 == 0 && (y % 100 != 0 || y % 400 == 0)

/-- The number of days of a month (1 to 12) of a year. -/
def daysInMonth (y m : Nat) : Nat :=
  if m == 2 then (if isLeapYear y then 29 else 28)
  else if m == 4 || m == 6 || m == 9 || m == 11 then 30
  else 31

/-- Whether the token is a date `YYYY-MM-DD` of the calendar. -/
def isDate (cs : List Char) : Bool :=
  match cs with
  | [y1, y2, y3, y4, '-', m1, m2, '-', d1, d2] =>
      isDigits 4 [y1, y2, y3, y4] && isDigits 2 [m1, m2] && isDigits 2 [d1, d2] &&
        (let y := decimalValue [y1, y2, y3, y4]
         let m := decimalValue [m1, m2]
         let d := decimalValue [d1, d2]
         1 ≤ m && m ≤ 12 && 1 ≤ d && d ≤ daysInMonth y m)
  | _ => false

/-- Whether the token is a time `HH:MM`, with optional seconds `:SS` and, after seconds,
an optional fraction. -/
def isTime (cs : List Char) : Bool :=
  match cs with
  | h1 :: h2 :: ':' :: m1 :: m2 :: secs =>
      isDigits 2 [h1, h2] && isDigits 2 [m1, m2] &&
        decimalValue [h1, h2] ≤ 23 && decimalValue [m1, m2] ≤ 59 &&
        match secs with
        | [] => true
        | ':' :: s1 :: s2 :: frac =>
            isDigits 2 [s1, s2] && decimalValue [s1, s2] ≤ 60 &&
              match frac with
              | [] => true
              | '.' :: ds => !ds.isEmpty && ds.all Char.isDigit
              | _ => false
        | _ => false
  | _ => false

/-- Whether the token is a time zone offset: `Z`, or a sign and `HH:MM`. -/
def isOffset (cs : List Char) : Bool :=
  match cs with
  | ['Z'] | ['z'] => true
  | [s, h1, h2, ':', m1, m2] =>
      (s == '+' || s == '-') && isDigits 2 [h1, h2] && isDigits 2 [m1, m2] &&
        decimalValue [h1, h2] ≤ 23 && decimalValue [m1, m2] ≤ 59
  | _ => false

/-- Whether a time, possibly followed by an offset, is well formed. -/
def isTimeWithOffset (cs : List Char) (offsetAllowed : Bool) : Bool :=
  let timePart := cs.takeWhile (fun c => c.isDigit || c == ':' || c == '.')
  let rest := cs.dropWhile (fun c => c.isDigit || c == ':' || c == '.')
  isTime timePart && (rest.isEmpty || (offsetAllowed && isOffset rest))

/-- Whether the token is a date-time, a date or a time. -/
def isDateTime (tok : List Char) : Bool :=
  if isDate (tok.take 10) then
    match tok.drop 10 with
    | [] => true
    | sep :: rest => (sep == 'T' || sep == 't' || sep == ' ') && isTimeWithOffset rest true
  else isTimeWithOffset tok false

/-- Whether a character can belong to a number or date-time token. -/
def isScalarChar (c : Char) : Bool :=
  c.isAlphanum || c == '_' || c == '+' || c == '-' || c == '.' || c == ':'

/-- The token of a number or date-time at the head of the input; a date followed by a space
and a time is one token. -/
def scalarToken (cs : List Char) : List Char × List Char :=
  let tok := cs.takeWhile isScalarChar
  let rest := cs.dropWhile isScalarChar
  match rest with
  | ' ' :: more =>
      let timeTok := more.takeWhile isScalarChar
      if isDate tok && isDateTime (tok ++ ' ' :: timeTok) then
        (tok ++ ' ' :: timeTok, more.dropWhile isScalarChar)
      else (tok, rest)
  | _ => (tok, rest)

/-- A number, boolean or date-time at the head of the input. -/
def scalarAt (cs : List Char) : Option (Value × List Char) :=
  let (tok, rest) := scalarToken cs
  if tok.isEmpty then none
  else if tok == ['t', 'r', 'u', 'e'] then some (.boolean true, rest)
  else if tok == ['f', 'a', 'l', 's', 'e'] then some (.boolean false, rest)
  else
    match integer? tok with
    | some n => some (.integer n, rest)
    | none =>
        if isFloat tok then (if floatOverflows tok then none else some (.float, rest))
        else if isDateTime tok then some (.datetime, rest)
        else none

/-! ## Tables under construction -/

/-- How a table came to exist, which decides whether it may be extended or opened again. -/
inductive Origin where
  /-- Opened by a `[table]` header. -/
  | header
  /-- Made as a prefix of a header, and not yet opened itself. -/
  | implicit
  /-- Made by a dotted key. -/
  | dotted
  deriving DecidableEq, Repr

/-- A node of the document being built. -/
inductive Node where
  /-- A value given by a key: a scalar, an array of values or an inline table. -/
  | leaf (v : Value)
  /-- A table that keys and headers may still extend. -/
  | table (origin : Origin) (entries : List (String × Node))
  /-- An array of tables, each made by a `[[table]]` header. -/
  | tables (items : List (List (String × Node)))
  deriving Repr, Inhabited

/-- The entries of a table, with one entry changed by `f`, or added by `f none`. -/
def updateEntry (k : String) (f : Option Node → Option Node) :
    List (String × Node) → Option (List (String × Node))
  | [] => (f none).map fun n => [(k, n)]
  | (k', n) :: rest =>
      if k' == k then (f (some n)).map fun n' => (k, n') :: rest
      else (updateEntry k f rest).map ((k', n) :: ·)

/-- Changes the last element of a list. -/
def updateLast {α : Type} (f : α → Option α) : List α → Option (List α)
  | [] => none
  | [x] => (f x).map ([·])
  | x :: rest => (updateLast f rest).map (x :: ·)

/-- Changes the entries of the table a header path leads to, making missing tables on the
way and entering the last table of an array of tables. -/
def atPath (f : List (String × Node) → Option (List (String × Node))) :
    List String → List (String × Node) → Option (List (String × Node))
  | [], es => f es
  | k :: ks, es =>
      updateEntry k (fun
        | none => (atPath f ks []).map (.table .implicit)
        | some (.table o sub) => (atPath f ks sub).map (.table o)
        | some (.tables items) => (updateLast (atPath f ks) items).map .tables
        | some (.leaf _) => none) es

/-- Adds a key's value to a table's entries; a dotted key makes or extends tables made by
dotted keys only. -/
def setKey (v : Value) : List String → List (String × Node) → Option (List (String × Node))
  | [], _ => none
  | [k], es => updateEntry k (fun | none => some (.leaf v) | some _ => none) es
  | k :: ks, es =>
      updateEntry k (fun
        | none => (setKey v ks []).map (.table .dotted)
        | some (.table .dotted sub) => (setKey v ks sub).map (.table .dotted)
        | some (.table .implicit sub) => (setKey v ks sub).map (.table .implicit)
        | some _ => none) es

/-- Opens a table by a `[table]` header. -/
def openTable : List String → List (String × Node) → Option (List (String × Node))
  | [], _ => none
  | ks, es =>
      atPath (fun parent => updateEntry (ks.getLast?.getD "") (fun
        | none => some (.table .header [])
        | some (.table .implicit sub) => some (.table .header sub)
        | some _ => none) parent) ks.dropLast es

/-- Adds a new table to an array of tables by a `[[table]]` header. -/
def openArrayTable : List String → List (String × Node) → Option (List (String × Node))
  | [], _ => none
  | ks, es =>
      atPath (fun parent => updateEntry (ks.getLast?.getD "") (fun
        | none => some (.tables [[]])
        | some (.tables items) => some (.tables (items ++ [[]]))
        | some _ => none) parent) ks.dropLast es

/-- The table a key-value pair goes to: the one the last header opened, if any. -/
def addPair (current : List String) (key : List String) (v : Value)
    (es : List (String × Node)) : Option (List (String × Node)) :=
  atPath (setKey v key) current es

mutual

/-- The value a node stands for. -/
def Node.toValue : Node → Value
  | .leaf v => v
  | .table _ es => .table (entriesToValue es)
  | .tables items => .array (tablesToValue items)

/-- The values of a table's entries. -/
def entriesToValue : List (String × Node) → List (String × Value)
  | [] => []
  | (k, n) :: rest => (k, n.toValue) :: entriesToValue rest

/-- The tables of an array of tables. -/
def tablesToValue : List (List (String × Node)) → List Value
  | [] => []
  | es :: rest => .table (entriesToValue es) :: tablesToValue rest

end

/-! ## Arrays, inline tables and values -/

/-- Skips spaces, comments and line endings, as allowed between array elements. -/
def skipArraySpace (fuel : Nat) (cs : List Char) : Option (List Char) :=
  match fuel with
  | 0 => none
  | fuel + 1 =>
      let r := skipSpace cs
      match r with
      | '#' :: _ => (skipComment r).bind (skipArraySpace fuel)
      | '\n' :: rest => skipArraySpace fuel rest
      | '\r' :: '\n' :: rest => skipArraySpace fuel rest
      | _ => some r

mutual

/-- A value at the head of the input. -/
def valueAt (fuel : Nat) (cs : List Char) : Option (Value × List Char) :=
  match fuel with
  | 0 => none
  | fuel + 1 =>
      match cs with
      | '"' :: _ | '\'' :: _ => (stringAt cs).map fun (s, r) => (.string s, r)
      | '[' :: rest =>
          (skipArraySpace (rest.length + 1) rest).bind fun r => arrayItems fuel [] r
      | '{' :: rest =>
          (skipArraySpace (rest.length + 1) rest).bind fun r => inlineEntries fuel [] r
      | _ => scalarAt cs

/-- The elements of an array after its opening bracket (or after a comma). -/
def arrayItems (fuel : Nat) (acc : List Value) (cs : List Char) : Option (Value × List Char) :=
  match fuel with
  | 0 => none
  | fuel + 1 =>
      match cs with
      | ']' :: rest => some (.array acc.reverse, rest)
      | _ =>
          (valueAt fuel cs).bind fun (v, r) =>
            (skipArraySpace (r.length + 1) r).bind fun r' =>
              match r' with
              | ',' :: more =>
                  (skipArraySpace (more.length + 1) more).bind (arrayItems fuel (v :: acc))
              | ']' :: more => some (.array (v :: acc).reverse, more)
              | _ => none

/-- The entries of an inline table after its opening brace (or after a comma).  Line
endings and comments may stand between entries, and a comma may follow the last one. -/
def inlineEntries (fuel : Nat) (acc : List (String × Node)) (cs : List Char) :
    Option (Value × List Char) :=
  match fuel with
  | 0 => none
  | fuel + 1 =>
      match cs with
      | '}' :: rest => some (Node.toValue (.table .dotted acc), rest)
      | _ =>
          (dottedKey (cs.length + 1) cs).bind fun (key, r) =>
            match skipSpace r with
            | '=' :: r' =>
                (valueAt fuel (skipSpace r')).bind fun (v, r'') =>
                  (setKey v key acc).bind fun acc' =>
                    (skipArraySpace (r''.length + 1) r'').bind fun r3 =>
                      match r3 with
                      | ',' :: more =>
                          (skipArraySpace (more.length + 1) more).bind (inlineEntries fuel acc')
                      | '}' :: more => some (Node.toValue (.table .dotted acc'), more)
                      | _ => none
            | _ => none

end

/-! ## Documents -/

/-- The document being read: its root table and the path the last header opened. -/
structure Reader where
  root : List (String × Node) := []
  current : List String := []

/-- The end of a line: spaces, an optional comment, and a line ending or the end. -/
def endOfLine (cs : List Char) : Option (List Char) :=
  (skipComment (skipSpace cs)).bind fun r =>
    match r with
    | [] => some []
    | _ => skipNewline r

/-- Reads one line of a document. -/
def readLine (rd : Reader) (cs : List Char) : Option (Reader × List Char) :=
  let r := skipSpace cs
  match r with
  | '[' :: '[' :: rest =>
      (dottedKey (rest.length + 1) (skipSpace rest)).bind fun (ks, r') =>
        match skipSpace r' with
        | ']' :: ']' :: r'' =>
            (openArrayTable ks rd.root).bind fun root =>
              (endOfLine r'').map fun r3 => ({ root, current := ks }, r3)
        | _ => none
  | '[' :: rest =>
      (dottedKey (rest.length + 1) (skipSpace rest)).bind fun (ks, r') =>
        match skipSpace r' with
        | ']' :: r'' =>
            (openTable ks rd.root).bind fun root =>
              (endOfLine r'').map fun r3 => ({ root, current := ks }, r3)
        | _ => none
  | '#' :: _ | '\n' :: _ | '\r' :: _ | [] => (endOfLine r).map fun r' => (rd, r')
  | _ =>
      (dottedKey (r.length + 1) r).bind fun (key, r') =>
        match skipSpace r' with
        | '=' :: r'' =>
            (valueAt (r''.length + 1) (skipSpace r'')).bind fun (v, r3) =>
              (addPair rd.current key v rd.root).bind fun root =>
                (endOfLine r3).map fun r4 => ({ rd with root }, r4)
        | _ => none

/-- Reads lines until the end of the input. -/
def readLines (rd : Reader) (cs : List Char) : Option Reader :=
  if cs.isEmpty then some rd
  else
    match readLine rd cs with
    | some (rd', rest) => if _h : rest.length < cs.length then readLines rd' rest else none
    | none => none
termination_by cs.length

/-- The tree of values of a TOML document, or nothing if it is not well formed.  A byte
order mark before the document is not part of it. -/
def parse (text : String) : Option Value :=
  let cs := match text.toList with
    | '\uFEFF' :: rest => rest
    | cs => cs
  (readLines {} cs).map fun rd => Node.toValue (.table .header rd.root)

end Conch.Toml
