/-!
# Extended-precision numbers in text

Programs that format numbers (`printf`'s `%f`, `%e`, `%g` and `%a`, `seq`) read their argument
as a number of the hardware's extended format, with a 64-bit significand, and write its exact
value rounded to the digits asked for.  Both steps round to nearest, ties to even: reading
rounds the decimal to the nearest binary number, and writing rounds that binary number,
exactly, to the nearest decimal with the given number of digits.  So `%.2f` of `2.675` is
`2.67`, since the binary number nearest to 2.675 lies below it.

A finite number is `significand × 2 ^ exponent` with a sign; infinities and not-a-number
values are kept apart.  The format's exponent range is kept: numbers from `2 ^ 16384` on
overflow to an infinity, and below `2 ^ -16382` numbers lie on the grid of `2 ^ -16445` and
lose precision.  Reading reports both as out of range.

Main definitions: `readNumber`, `fixedDigits`, `exponentDigits`, `shortestDigits`,
`hexForm`, `formatUnsigned` and the arithmetic `Number.add`, `Number.mul`.
-/

namespace Conch.Text

/-- A finite binary number: `significand × 2 ^ exponent`, with its sign. -/
structure Binary where
  negative : Bool := false
  significand : Nat
  exponent : Int
  deriving Repr, DecidableEq, Inhabited

/-- A number a program reads. -/
inductive Number where
  | finite (b : Binary)
  | infinite (negative : Bool)
  | notANumber (negative : Bool)
  deriving Repr, DecidableEq, Inhabited

/-- The width of a significand in bits. -/
def significandBits : Nat := 64

/-- The quotient of `num / den` rounded to nearest, ties to even. -/
def roundHalfEven (num den : Nat) : Nat :=
  let q := num / den
  let r := num % den
  if 2 * r > den then q + 1
  else if 2 * r == den && q % 2 == 1 then q + 1
  else q

/-- `2 ^ k` for an integer `k`, as a fraction `(numerator, denominator)`. -/
def powTwo (k : Int) : Nat × Nat :=
  if k ≥ 0 then (Nat.pow 2 k.toNat, 1) else (1, Nat.pow 2 (-k).toNat)

/-- `10 ^ k` for an integer `k`, as a fraction `(numerator, denominator)`. -/
def powTen (k : Int) : Nat × Nat :=
  if k ≥ 0 then (Nat.pow 10 k.toNat, 1) else (1, Nat.pow 10 (-k).toNat)

/-- The binary number nearest to `num / den` (both positive), with a full significand. -/
def nearestBinary (num den : Nat) : Binary :=
  if num == 0 then { significand := 0, exponent := 0 }
  else
    -- Choose `k` so that `num * 2^k / den` lies in `[2^63, 2^64)`.
    let guess : Int := (significandBits : Int) - ((Nat.log2 num : Int) - (Nat.log2 den : Int)) - 1
    let scaled := fun (k : Int) =>
      let (a, b) := powTwo k
      (num * a, den * b)
    let fits := fun (k : Int) =>
      let (a, b) := scaled k
      a / b < Nat.pow 2 significandBits && a / b ≥ Nat.pow 2 (significandBits - 1)
    let k := if fits (guess - 1) then guess - 1 else if fits guess then guess else guess + 1
    let (a, b) := scaled k
    let m := roundHalfEven a b
    if m == Nat.pow 2 significandBits then { significand := Nat.pow 2 (significandBits - 1), exponent := 1 - k }
    else { significand := m, exponent := -k }

/-- The exponent of the finest unit of the hardware format: below `2 ^ -16382` numbers are
multiples of `2 ^ leastExponent` and have fewer than 64 significant bits. -/
def leastExponent : Int := -16445

/-- The greatest exponent of a number with a full significand; larger numbers overflow. -/
def greatestExponent : Int := 16320

/-- The zero with a sign. -/
def zeroOf (negative : Bool) : Number := .finite { negative, significand := 0, exponent := 0 }

/-- The number of the hardware format nearest to `num / den` (with `den` positive), and
whether it lies out of range: it overflowed to an infinity, or it is below the least
full-precision number and not exact. -/
def nearestExtended (negative : Bool) (num den : Nat) : Number × Bool :=
  if num == 0 then (zeroOf negative, false)
  else
    let b := nearestBinary num den
    if b.exponent > greatestExponent then (.infinite negative, true)
    else if b.exponent < leastExponent then
      let scaled := num * Nat.pow 2 (-leastExponent).toNat
      (.finite { negative, significand := roundHalfEven scaled den, exponent := leastExponent },
        scaled % den != 0)
    else (.finite { b with negative }, false)

/-- The number nearest to `digits × 10 ^ exponent`, and whether it is out of range. -/
def ofDecimal (negative : Bool) (digits : Nat) (exponent : Int) : Number × Bool :=
  if digits == 0 then (zeroOf negative, false)
  else
    let size : Int := ((Nat.toDigits 10 digits).length : Int) + exponent
    if size > 4934 then (.infinite negative, true)
    else if size < -4952 then (zeroOf negative, true)
    else
      let (a, b) := powTen exponent
      nearestExtended negative (digits * a) b

/-- The number nearest to `mantissa × 2 ^ exponent`, and whether it is out of range. -/
def ofBinary (negative : Bool) (mantissa : Nat) (exponent : Int) : Number × Bool :=
  if mantissa == 0 then (zeroOf negative, false)
  else
    let size : Int := (Nat.log2 mantissa : Int) + exponent
    if size > 16400 then (.infinite negative, true)
    else if size < -16500 then (zeroOf negative, true)
    else
      let (a, b) := powTwo exponent
      nearestExtended negative (mantissa * a) b

/-- Whether a character is white space before a number. -/
def isSpaceByte (c : Char) : Bool :=
  c == ' ' || c == '\t' || c == '\n' || c == '\r' || c.toNat == 11 || c.toNat == 12

/-- Whether `cs` starts with `word`, ignoring case. -/
def startsWithWord (cs : List Char) (word : String) : Bool :=
  (cs.take word.length).map Char.toLower == word.toList

/-- The value of a list of decimal digits. -/
def decimalDigits (ds : List Char) : Nat :=
  ds.foldl (fun (n : Nat) (c : Char) => n * 10 + (c.toNat - 48)) 0

/-- The value of a hexadecimal digit. -/
def hexDigitValue (c : Char) : Option Nat :=
  if c.isDigit then some (c.toNat - 48)
  else if 'a' ≤ c && c ≤ 'f' then some (c.toNat - 87)
  else if 'A' ≤ c && c ≤ 'F' then some (c.toNat - 55)
  else none

/-- The value of a list of hexadecimal digits. -/
def hexDigits (ds : List Char) : Nat :=
  ds.foldl (fun (n : Nat) (c : Char) => n * 16 + (hexDigitValue c).getD 0) 0

/-- Reads an exponent after its letter: a sign and decimal digits.  Without digits there is
no exponent, and the letter is not read. -/
def exponentAfter (letter : List Char) (cs : List Char) : Int × List Char :=
  match cs with
  | e :: r =>
      if letter.contains e then
        let (negative, r') := match r with
          | '-' :: r2 => (true, r2)
          | '+' :: r2 => (false, r2)
          | r2 => (false, r2)
        let ds := r'.takeWhile Char.isDigit
        if ds.isEmpty then (0, cs)
        else
          let v : Int := decimalDigits ds
          ((if negative then -v else v), r'.drop ds.length)
      else (0, cs)
  | [] => (0, [])

/-- A number read from the front of a text. -/
structure Reading where
  number : Number
  /-- The text after the number. -/
  rest : List Char
  /-- Whether the number overflowed, or lost precision below the least full-precision number. -/
  outOfRange : Bool := false
  deriving Repr

/-- Reads a hexadecimal number after its `0x`: digits, a point and more digits, and a binary
exponent after `p`. -/
def readHex (negative : Bool) (cs : List Char) : Option Reading :=
  let isHex := fun (c : Char) => (hexDigitValue c).isSome
  let ip := cs.takeWhile isHex
  let afterInt := cs.drop ip.length
  let (fp, afterFrac) := match afterInt with
    | '.' :: r => (r.takeWhile isHex, r.dropWhile isHex)
    | r => ([], r)
  if ip.isEmpty && fp.isEmpty then none
  else
    let (exp, rest) := exponentAfter ['p', 'P'] afterFrac
    let (n, range) := ofBinary negative (hexDigits (ip ++ fp)) (exp - 4 * (fp.length : Int))
    some { number := n, rest, outOfRange := range }

/-- Reads the longest prefix of a text that is a number: after blanks and a sign, a decimal
number with an optional exponent, a hexadecimal one after `0x`, an infinity or a
not-a-number value.  Nothing when no prefix is one. -/
def readNumber (s : List Char) : Option Reading :=
  let cs := s.dropWhile isSpaceByte
  let (negative, cs) := match cs with
    | '-' :: r => (true, r)
    | '+' :: r => (false, r)
    | r => (false, r)
  let hexStart := match cs with
    | '0' :: x :: d :: r =>
        (x == 'x' || x == 'X') &&
          ((hexDigitValue d).isSome || (d == '.' && (r.head?.bind hexDigitValue).isSome))
    | _ => false
  if startsWithWord cs "infinity" then some { number := .infinite negative, rest := cs.drop 8 }
  else if startsWithWord cs "inf" then some { number := .infinite negative, rest := cs.drop 3 }
  else if startsWithWord cs "nan" then
    let rest := cs.drop 3
    let rest := match rest with
      | '(' :: more =>
          let inside := more.takeWhile (fun c => c.isAlphanum || c == '_')
          match more.drop inside.length with
          | ')' :: after => after
          | _ => rest
      | _ => rest
    some { number := .notANumber negative, rest }
  else if hexStart then readHex negative (cs.drop 2)
  else
    let ip := cs.takeWhile Char.isDigit
    let afterInt := cs.dropWhile Char.isDigit
    let (fp, afterFrac) := match afterInt with
      | '.' :: r => (r.takeWhile Char.isDigit, r.dropWhile Char.isDigit)
      | r => ([], r)
    if ip.isEmpty && fp.isEmpty then none
    else
      let (exp, rest) := exponentAfter ['e', 'E'] afterFrac
      let (n, range) := ofDecimal negative (decimalDigits (ip ++ fp)) (exp - fp.length)
      some { number := n, rest, outOfRange := range }

namespace Binary

/-- The value as a fraction `(numerator, denominator)`. -/
def fraction (b : Binary) : Nat × Nat :=
  let (a, d) := powTwo b.exponent
  (b.significand * a, d)

/-- The value times `10 ^ p`, rounded to an integer, ties to even. -/
def roundScaled (b : Binary) (p : Int) : Nat :=
  let (a, d) := b.fraction
  let (x, y) := powTen p
  roundHalfEven (a * x) (d * y)

/-- The decimal exponent of a nonzero value: the `x` with `10 ^ x ≤ value < 10 ^ (x + 1)`. -/
def decimalExponent (b : Binary) : Int :=
  let (a, d) := b.fraction
  let guess : Int := ((Nat.toDigits 10 a).length : Int) - ((Nat.toDigits 10 d).length : Int)
  let atLeast := fun (x : Int) =>
    let (p, q) := powTen x
    a * q ≥ d * p
  if !atLeast guess then guess - 1
  else if atLeast (guess + 1) then guess + 1
  else guess

end Binary

/-- Digits of `n`, at least `width` of them. -/
def paddedDigits (width : Nat) (n : Nat) : String :=
  let s := toString n
  String.ofList (List.replicate (width - s.length) '0') ++ s

/-- The fixed-point digits of a value with `p` decimals, the point kept when `point`. -/
def fixedDigits (b : Binary) (p : Nat) (point : Bool) : String :=
  let q := b.roundScaled p
  let s := paddedDigits (p + 1) q
  let whole := (s.toList.take (s.length - p))
  let frac := (s.toList.drop (s.length - p))
  String.ofList whole ++ (if p > 0 || point then "." else "") ++ String.ofList frac

/-- The exponent-form digits of a value with `p` decimals: the mantissa and the exponent. -/
def exponentParts (b : Binary) (p : Nat) : Nat × Int :=
  if b.significand == 0 then (0, 0)
  else
    let x := b.decimalExponent
    let q := b.roundScaled ((p : Int) - x)
    if q ≥ Nat.pow 10 (p + 1) then (b.roundScaled ((p : Int) - (x + 1)), x + 1) else (q, x)

/-- The exponent written after a mantissa: the letter, its sign and at least two digits. -/
def exponentText (upper : Bool) (x : Int) : String :=
  (if upper then "E" else "e") ++ (if x < 0 then "-" else "+") ++ paddedDigits 2 x.natAbs

/-- A value in exponent form with `p` decimals. -/
def exponentDigits (b : Binary) (p : Nat) (point upper : Bool) : String :=
  let (q, x) := exponentParts b p
  let s := paddedDigits (p + 1) q
  String.ofList (s.toList.take 1) ++ (if p > 0 || point then "." else "") ++
    String.ofList (s.toList.drop 1) ++ exponentText upper x

/-- Removes the zeros that end the fraction of a number, and then a bare point. -/
def trimFraction (s : String) : String :=
  if !s.toList.contains '.' then s
  else
    let mantissa := s.toList.takeWhile (fun c => c != 'e' && c != 'E')
    let tail := s.toList.dropWhile (fun c => c != 'e' && c != 'E')
    let mantissa := (mantissa.reverse.dropWhile (· == '0')).reverse
    let mantissa := match mantissa.reverse with
      | '.' :: rest => rest.reverse
      | _ => mantissa
    String.ofList (mantissa ++ tail)

/-- The `%g` form of a value with `p` significant digits. -/
def shortestDigits (b : Binary) (p : Nat) (point upper : Bool) : String :=
  let P := if p == 0 then 1 else p
  let x := if b.significand == 0 then 0 else (exponentParts b (P - 1)).2
  let text := if x < P && x ≥ -4 then fixedDigits b (P - 1 - x).toNat point
    else exponentDigits b (P - 1) point upper
  if point then text else trimFraction text

/-- The text of a number that is not finite. -/
def nonFiniteText (n : Number) (upper : Bool) : String :=
  let t := match n with
    | .infinite _ => "inf"
    | _ => "nan"
  if upper then t.toUpper else t

/-- Whether a number carries a minus sign. -/
def Number.negative : Number → Bool
  | .finite b => b.negative
  | .infinite n => n
  | .notANumber n => n

/-- The unsigned text of a number in a conversion (`f`, `e` or `g`, any case) with a
precision; `point` keeps the decimal point. -/
def formatUnsigned (conv : Char) (precision : Nat) (point : Bool) (n : Number) : String :=
  let upper := conv.isUpper
  match n with
  | .finite b =>
      match conv.toLower with
      | 'f' => fixedDigits b precision point
      | 'e' => exponentDigits b precision point upper
      | _ => shortestDigits b precision point upper
  | other => nonFiniteText other upper

/-! ## Hexadecimal form -/

namespace Binary

/-- The same value with its significand shifted up to 64 bits, as far as the exponent range
allows. -/
def normalize (b : Binary) : Binary :=
  let rec go : Nat → Nat → Int → Nat × Int
    | 0, m, e => (m, e)
    | fuel + 1, m, e =>
        if m != 0 && m < 2 ^ (significandBits - 1) && e > leastExponent then go fuel (2 * m) (e - 1)
        else (m, e)
  let (m, e) := go significandBits b.significand b.exponent
  { b with significand := m, exponent := e }

end Binary

/-- Adds one to a list of hexadecimal digit values, last digit first: the digits and whether
the sum carried out of them. -/
def incrementDigits : List Nat → List Nat × Bool
  | [] => ([], true)
  | d :: rest =>
      if d < 15 then ((d + 1) :: rest, false)
      else
        let (rest', carry) := incrementDigits rest
        (0 :: rest', carry)

/-- The hexadecimal digit of a value below 16. -/
def hexDigitOf (upper : Bool) (d : Nat) : Char :=
  let c := (Nat.toDigits 16 d).headD '0'
  if upper then c.toUpper else c

/-- The hexadecimal form of a finite value without its `0x`: a leading digit holding the top
four bits of the 64-bit significand, the fraction digits after a point, and the binary
exponent after `p`.  Without a precision the fraction ends at its last nonzero digit; with
one it is rounded to nearest, ties to even, and a carry out of a leading `f` makes it `1`
with the exponent four higher.  `point` keeps the point when no digit follows it. -/
def hexForm (b : Binary) (precision : Option Nat) (point upper : Bool) : String :=
  let b := b.normalize
  let m := b.significand
  let lead := m / Nat.pow 2 60
  let frac := m % Nat.pow 2 60
  let digits := (List.range 15).map (fun i => frac / Nat.pow 16 (14 - i) % 16)
  let digits := (digits.reverse.dropWhile (· == 0)).reverse
  let exp : Int := if m == 0 then 0 else b.exponent + 60
  let (lead, digits, exp) := match precision with
    | none => (lead, digits, exp)
    | some p =>
        if p < digits.length then
          let kept := digits.take p
          let last := if p == 0 then lead else kept.getLastD 0
          let next := digits.getD p 0
          let more := next % 8 != 0 || p + 1 < digits.length
          if next ≥ 8 && (more || last % 2 == 1) then
            let (kept', carry) := incrementDigits kept.reverse
            if !carry then (lead, kept'.reverse, exp)
            else if lead < 15 then (lead + 1, kept'.reverse, exp)
            else (1, kept'.reverse, exp + 4)
          else (lead, kept, exp)
        else (lead, digits ++ List.replicate (p - digits.length) 0, exp)
  String.ofList [hexDigitOf upper lead] ++ (if !digits.isEmpty || point then "." else "") ++
    String.ofList (digits.map (hexDigitOf upper)) ++ (if upper then "P" else "p") ++
    (if exp < 0 then "-" else "+") ++ toString exp.natAbs

/-! ## Arithmetic -/

namespace Binary

/-- The exact sum of two finite numbers; a zero sum is negative only when both are. -/
def exactAdd (a b : Binary) : Binary :=
  let e := min a.exponent b.exponent
  let signed := fun (x : Binary) =>
    let v : Int := (x.significand * Nat.pow 2 (x.exponent - e).toNat : Nat)
    if x.negative then -v else v
  let s := signed a + signed b
  { negative := if s == 0 then a.negative && b.negative else s < 0, significand := s.natAbs,
    exponent := e }

/-- The exact product of two finite numbers. -/
def exactMul (a b : Binary) : Binary :=
  { negative := a.negative != b.negative, significand := a.significand * b.significand,
    exponent := a.exponent + b.exponent }

/-- A finite number rounded to the hardware format. -/
def round (b : Binary) : Number :=
  let (num, den) := b.fraction
  (nearestExtended b.negative num den).1

/-- Compares two finite numbers by value; zeros of either sign are equal. -/
def compare (a b : Binary) : Ordering :=
  let d := exactAdd a { b with negative := !b.negative }
  if d.significand == 0 then .eq else if d.negative then .lt else .gt

end Binary

namespace Number

/-- The sum of two numbers, rounded to the hardware format. -/
def add : Number → Number → Number
  | .finite a, .finite b => (a.exactAdd b).round
  | .notANumber n, _ => .notANumber n
  | _, .notANumber n => .notANumber n
  | .infinite n, .infinite m => if n == m then .infinite n else .notANumber true
  | .infinite n, _ => .infinite n
  | _, .infinite n => .infinite n

/-- Whether a number is zero. -/
def isZero : Number → Bool
  | .finite b => b.significand == 0
  | _ => false

/-- The product of two numbers, rounded to the hardware format. -/
def mul : Number → Number → Number
  | .finite a, .finite b => (a.exactMul b).round
  | .notANumber n, _ => .notANumber n
  | _, .notANumber n => .notANumber n
  | x, y =>
      if x.isZero || y.isZero then .notANumber true
      else .infinite (x.negative != y.negative)

/-- Compares two numbers by value; nothing when one is not a number. -/
def compare? : Number → Number → Option Ordering
  | .finite a, .finite b => some (a.compare b)
  | .infinite n, .infinite m => some (if n == m then .eq else if n then .lt else .gt)
  | .infinite n, .finite _ => some (if n then .lt else .gt)
  | .finite _, .infinite m => some (if m then .gt else .lt)
  | _, _ => none

/-- Whether one number is less than another; never when one is not a number. -/
def lt (x y : Number) : Bool := x.compare? y == some .lt

/-- Whether two numbers are equal in value; never when one is not a number. -/
def sameValue (x y : Number) : Bool := x.compare? y == some .eq

end Number

end Conch.Text
