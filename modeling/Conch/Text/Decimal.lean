/-!
# Decimal integers of a fixed width

Reading a decimal integer into a fixed range: an optional sign (a minus sign only where the
range has negative numbers), then one or more ASCII digits, with no blank anywhere.  The
digits are read from left to right, and the first fault met decides the error: a character
that is no digit, or a digit that takes the value past the end of the range.

Main definitions: `IntWidth.read`, `IntWidth.signed64`, `IntWidth.unsigned64` and
`IntError.message`.
-/

namespace Conch.Text

/-- Why a text is not an integer of a given range. -/
inductive IntError where
  | empty
  | invalidDigit
  | tooLarge
  | tooSmall
  deriving DecidableEq, Repr

/-- The message that reports an unreadable integer. -/
def IntError.message : IntError → String
  | .empty => "cannot parse integer from empty string"
  | .invalidDigit => "invalid digit found in string"
  | .tooLarge => "number too large to fit in target type"
  | .tooSmall => "number too small to fit in target type"

/-- Reads decimal digits from left to right onto `acc`, failing at the first character that
is no digit or at the first digit that takes the magnitude past `bound`. -/
def digitsValue (bound : Nat) (overflow : IntError) : List Char → Nat → Except IntError Nat
  | [], acc => .ok acc
  | c :: rest, acc =>
      if c.isDigit then
        let next := acc * 10 + (c.toNat - '0'.toNat)
        if next > bound then .error overflow else digitsValue bound overflow rest next
      else .error .invalidDigit

/-- A range of integers that text is read into. -/
structure IntWidth where
  /-- Whether a minus sign is allowed. -/
  signed : Bool
  /-- The largest value. -/
  max : Nat
  /-- The magnitude of the smallest value. -/
  minMagnitude : Nat

/-- Sixty-four-bit two's complement integers. -/
def IntWidth.signed64 : IntWidth := ⟨true, Nat.pow 2 63 - 1, Nat.pow 2 63⟩

/-- Sixty-four-bit unsigned integers. -/
def IntWidth.unsigned64 : IntWidth := ⟨false, Nat.pow 2 64 - 1, 0⟩

/-- Reads a decimal integer of the range from a text. -/
def IntWidth.read (w : IntWidth) (s : String) : Except IntError Int :=
  match s.toList with
  | [] => .error .empty
  | ['+'] => .error .invalidDigit
  | ['-'] => .error .invalidDigit
  | '+' :: rest => (digitsValue w.max .tooLarge rest 0).map Int.ofNat
  | '-' :: rest =>
      if w.signed then (digitsValue w.minMagnitude .tooSmall rest 0).map (fun n => -(n : Int))
      else .error .invalidDigit
  | cs => (digitsValue w.max .tooLarge cs 0).map Int.ofNat

/-- Reads a decimal integer of the range, or nothing. -/
def IntWidth.read? (w : IntWidth) (s : String) : Option Int :=
  match w.read s with
  | .ok n => some n
  | .error _ => none

end Conch.Text
