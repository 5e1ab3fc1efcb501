/-!
# Reading octets as text

Programs write octets, and the shell reads its own input as octets; both are shown as text.
An octet sequence that is not UTF-8 is read the forgiving way: every maximal part of an
ill-formed sequence becomes one replacement character `U+FFFD`, and reading resumes at the
first octet that could not continue it.

A character's first octet fixes how many continuation octets follow and the range the first
of them must lie in (the ranges that rule out overlong forms, surrogates and values above
`U+10FFFF`); the later ones lie in `0x80`–`0xBF`.

Programs see octets, not characters.  An octet string is held as a `String` whose characters
all lie below 256, one for each octet (`Octets`); a text becomes one through its UTF-8 form
(`Octets.ofText`), and an octet string is shown as text by the forgiving reading
(`Octets.toText`).

Main definitions: `decodeLossy`, `Octets.ofText` and `Octets.toText`.
-/

namespace Conch.Text

/-- A character begun but not finished: the continuation octets still owed, the range the
next one must lie in, and the bits gathered so far. -/
structure Pending where
  /-- How many continuation octets are still owed. -/
  owed : Nat
  /-- The least value the next octet may have. -/
  low : Nat
  /-- The greatest value the next octet may have. -/
  high : Nat
  /-- The bits of the character gathered so far. -/
  value : Nat
  deriving Repr

/-- The replacement character. -/
def replacement : Char := Char.ofNat 0xFFFD

/-- What a character's first octet begins: nothing owed for an ASCII octet, a pending character
for a lead octet, and nothing at all for an octet no character starts with. -/
def lead (b : Nat) : Option Pending :=
  if b < 0x80 then some ⟨0, 0x80, 0xBF, b⟩
  else if 0xC2 ≤ b ∧ b ≤ 0xDF then some ⟨1, 0x80, 0xBF, b - 0xC0⟩
  else if b = 0xE0 then some ⟨2, 0xA0, 0xBF, 0⟩
  else if 0xE1 ≤ b ∧ b ≤ 0xEC then some ⟨2, 0x80, 0xBF, b - 0xE0⟩
  else if b = 0xED then some ⟨2, 0x80, 0x9F, 0xD⟩
  else if 0xEE ≤ b ∧ b ≤ 0xEF then some ⟨2, 0x80, 0xBF, b - 0xE0⟩
  else if b = 0xF0 then some ⟨3, 0x90, 0xBF, 0⟩
  else if 0xF1 ≤ b ∧ b ≤ 0xF3 then some ⟨3, 0x80, 0xBF, b - 0xF0⟩
  else if b = 0xF4 then some ⟨3, 0x80, 0x8F, 4⟩
  else none

/-- Finishes a pending character: the character and the octets after it, or a replacement
character and the octets from the first one that did not fit. -/
def finish (p : Pending) : List UInt8 → Char × List UInt8
  | [] => (replacement, [])
  | c :: rest =>
      if p.low ≤ c.toNat ∧ c.toNat ≤ p.high then
        let v := p.value * 64 + c.toNat % 64
        if p.owed ≤ 1 then (Char.ofNat v, rest)
        else finish ⟨p.owed - 1, 0x80, 0xBF, v⟩ rest
      else (replacement, c :: rest)

theorem finish_length_le (p : Pending) (bs : List UInt8) :
    (finish p bs).2.length ≤ bs.length := by
  induction bs generalizing p with
  | nil => simp [finish]
  | cons c rest ih =>
      unfold finish
      split
      · split
        · simp
        · exact Nat.le_succ_of_le (ih _)
      · simp

/-- The characters an octet sequence reads as, each ill-formed part replaced. -/
def decodeOctets : List UInt8 → List Char
  | [] => []
  | b :: rest =>
      match lead b.toNat with
      | none => replacement :: decodeOctets rest
      | some p =>
          if p.owed = 0 then Char.ofNat b.toNat :: decodeOctets rest
          else
            have : (finish p rest).2.length < rest.length + 1 :=
              Nat.lt_succ_of_le (finish_length_le p rest)
            (finish p rest).1 :: decodeOctets (finish p rest).2
termination_by bs => bs.length
decreasing_by
  all_goals simp only [List.length_cons]
  all_goals omega

/-- The text an octet sequence reads as. -/
def decodeLossy (bs : List UInt8) : String := String.ofList (decodeOctets bs)

end Conch.Text

namespace Conch

/-- A string of octets, each held as the character whose code is the octet. -/
abbrev Octets := String

namespace Octets

/-- The octet string of a list of octets. -/
def ofBytes (bs : List UInt8) : Octets := String.ofList (bs.map (fun b => Char.ofNat b.toNat))

/-- The octets of an octet string. -/
def bytes (o : Octets) : List UInt8 := o.toList.map (fun c => c.toNat.toUInt8)

/-- The octets of a text's UTF-8 form. -/
def ofText (s : String) : Octets := ofBytes s.toUTF8.toList

/-- The text an octet string reads as, each ill-formed part replaced. -/
def toText (o : Octets) : String := Text.decodeLossy o.bytes

/-- The text an octet string is the UTF-8 form of, if it is one. -/
def toText? (o : Octets) : Option String := String.fromUTF8? (ByteArray.mk o.bytes.toArray)

end Octets

end Conch
