import Conch.Text.Utf8

/-!
# Counts with size suffixes

Programs that take a count of lines or octets read it as the system's number reader does.
Blanks may lead and a `+` may come first; a `-` makes the count invalid.  The decimal digits
may be followed by one size suffix from those the program allows: `b` for 512, `k` or `K`
for 1024, `m` or `M` for 1024², `G`, `T`, `P`, `E`, `Z`, `Y`, `R` and `Q` for the higher powers
of 1024.  Where the program allows it, a second `B` after a letter makes the power one of 1000
instead (`kB` is 1000), and `iB` keeps it a power of 1024 (`KiB`).  A suffix alone, with
nothing before it, counts one of its unit.  Anything else after the number makes the count invalid.

The count must fit in 64 bits.  A count that does not, but is otherwise well formed, is
refused as too large; one that is both too large and malformed is only malformed.

Main definitions: `SizeError` and `readSize`.
-/

namespace Conch.Text

/-- Why a count could not be read. -/
inductive SizeError where
  /-- It is not a count. -/
  | invalid
  /-- It does not fit in 64 bits. -/
  | overflow
  deriving DecidableEq, Repr

/-- The largest count. -/
def sizeLimit : Nat := Nat.pow 2 64 - 1

/-- The power of the unit a size letter stands for, counted in thousands (or kibis). -/
def suffixPower : Char → Option Nat
  | 'k' | 'K' => some 1
  | 'm' | 'M' => some 2
  | 'G' | 'g' => some 3
  | 'T' | 't' => some 4
  | 'P' => some 5
  | 'E' => some 6
  | 'Z' => some 7
  | 'Y' => some 8
  | 'R' => some 9
  | 'Q' => some 10
  | _ => none

/-- Whether a character is a blank to the number reader. -/
def isNumberBlank (c : Char) : Bool :=
  c == ' ' || c == '\t' || c == '\n' || c.toNat == 11 || c.toNat == 12 || c == '\r'

/-- The multiplier of a suffix and the characters after it, when the suffix is one of
`allowed`; `decimal` lets a `B` or `iB` follow a letter. -/
def suffixValue (allowed : List Char) (decimal : Bool) : List Char → Option (Nat × List Char)
  | [] => some (1, [])
  | c :: rest =>
      if !allowed.contains c then none
      else if c == 'b' then some (512, rest)
      else if c == 'c' then some (1, rest)
      else if c == 'w' then some (2, rest)
      else if c == 'B' then some (1024, rest)
      else
        match suffixPower c with
        | none => none
        | some k =>
            match decimal, rest with
            | true, 'i' :: 'B' :: more => some (Nat.pow 1024 k, more)
            | true, 'B' :: more => some (Nat.pow 1000 k, more)
            | true, 'D' :: more => some (Nat.pow 1000 k, more)
            | _, _ => some (Nat.pow 1024 k, rest)

/-- Reads a count, allowing the suffix letters `allowed`; `decimal` allows the second `B`. -/
def readSize (allowed : List Char) (decimal : Bool) (s : String) : Except SizeError Nat :=
  let cs := s.toList.dropWhile isNumberBlank
  match cs with
  | '-' :: _ => .error .invalid
  | _ =>
      let cs := match cs with
        | '+' :: rest => rest
        | _ => cs
      let digits := cs.takeWhile Char.isDigit
      let rest := cs.dropWhile Char.isDigit
      if digits.isEmpty && (rest != s.toList || rest.isEmpty || !allowed.contains (rest.headD ' '))
      then .error .invalid
      else
        let n := if digits.isEmpty then 1
          else digits.foldl (fun (acc : Nat) (d : Char) => acc * 10 + (d.toNat - 48)) 0
        match suffixValue allowed decimal rest with
        | none => .error .invalid
        | some (m, after) =>
            if !after.isEmpty then .error .invalid
            else if n * m > sizeLimit then .error .overflow
            else .ok (n * m)

end Conch.Text
