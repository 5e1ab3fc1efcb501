/-!
# Comparing version strings

Names that carry version numbers sort by the numbers in them: `a2` before `a10`, `1.9` before
`1.10`.  Texts are compared piece by piece.  A piece of non-digits is compared character by
character, where the end of the piece comes before everything but `~`, `~` before everything,
and letters before other characters; a piece of digits is compared as a number, leading zeros
aside.

Before that, names starting with a dot come first (`.` and then `..` ahead of the others), and
a suffix such as `.tar.gz` (dots each followed by a letter or `~` and then letters, digits and
`~`) only decides between names that are otherwise equal.

Main definition: `versionCompare`.
-/

namespace Conch.Text

/-- The weight of the character at `pos` of a piece of non-digits: the end of the text comes
before everything but `~`, digits weigh nothing, letters their code, `~` least, and other
characters after all letters. -/
def versionWeight (s : Array Char) (pos len : Nat) : Int :=
  if pos ≥ len then -1
  else
    let c := s[pos]?.getD ' '
    if c.isDigit then 0
    else if c.isAlpha then c.toNat
    else if c == '~' then -2
    else c.toNat + 256

/-- Compares the first `alen` characters of `a` with the first `blen` of `b` piece by piece.
`fuel` bounds the pieces. -/
def versionPieces (a b : Array Char) (alen blen : Nat) : Nat → Nat → Nat → Int
  | 0, _, _ => 0
  | fuel + 1, i, j =>
      if i ≥ alen && j ≥ blen then 0
      else
        let isDigitAt := fun (s : Array Char) (k len : Nat) => k < len && (s[k]?.getD ' ').isDigit
        -- The non-digit piece.
        let rec letters : Nat → Nat → Nat → Int ⊕ (Nat × Nat)
          | 0, i, j => .inr (i, j)
          | f + 1, i, j =>
              if (i < alen && !isDigitAt a i alen) || (j < blen && !isDigitAt b j blen) then
                let x := versionWeight a i alen
                let y := versionWeight b j blen
                if x != y then .inl (x - y) else letters f (i + 1) (j + 1)
              else .inr (i, j)
        match letters (alen + blen + 1) i j with
        | .inl d => d
        | .inr (i, j) =>
            let i := i + ((a.toList.drop i).take (alen - i) |>.takeWhile (· == '0')).length
            let j := j + ((b.toList.drop j).take (blen - j) |>.takeWhile (· == '0')).length
            -- The digit piece: the longer number is larger, else the first differing digit.
            let da := ((a.toList.drop i).take (alen - i)).takeWhile Char.isDigit
            let db := ((b.toList.drop j).take (blen - j)).takeWhile Char.isDigit
            if da.length != db.length then (if da.length > db.length then 1 else -1)
            else
              match (da.zip db).find? (fun (x, y) => x != y) with
              | some (x, y) => (x.toNat : Int) - y.toNat
              | none => versionPieces a b alen blen fuel (i + da.length) (j + db.length)

/-- The length of a name without its suffix. -/
def versionPrefixLength (s : Array Char) : Nat :=
  let n := s.size
  let rec go : Nat → Nat → Nat → Nat
    | 0, _, p => p
    | fuel + 1, i, p =>
        if i ≥ n then p
        else
          let i := i + 1
          let p := i
          -- Skip a run of suffix pieces starting here.
          let rec skip : Nat → Nat → Nat
            | 0, i => i
            | f + 1, i =>
                if i + 1 < n && s[i]?.getD ' ' == '.' &&
                    ((s[i + 1]?.getD ' ').isAlpha || s[i + 1]?.getD ' ' == '~') then
                  let rec word : Nat → Nat → Nat
                    | 0, k => k
                    | g + 1, k =>
                        if k < n && ((s[k]?.getD ' ').isAlphanum || s[k]?.getD ' ' == '~') then word g (k + 1)
                        else k
                  skip f (word n (i + 2))
                else i
          go fuel (skip n i) p
  go (n + 1) 0 0

/-- Compares two version strings. -/
def versionCompare (x y : String) : Ordering :=
  let a := x.toList.toArray
  let b := y.toList.toArray
  let sign := fun (d : Int) => if d < 0 then Ordering.lt else if d > 0 then .gt else .eq
  if a.isEmpty then (if b.isEmpty then .eq else .lt)
  else if b.isEmpty then .gt
  else
    let dot := fun (s : Array Char) => s[0]?.getD ' ' == '.'
    let early : Option Ordering :=
      if dot a then
        if !dot b then some .lt
        else
          let one := fun (s : Array Char) => s.size == 1
          let two := fun (s : Array Char) => s.size == 2 && s[1]?.getD ' ' == '.'
          if one a then some (if one b then .eq else .lt)
          else if one b then some .gt
          else if two a then some (if two b then .eq else .lt)
          else if two b then some .gt
          else none
      else if dot b then some .gt
      else none
    match early with
    | some o => o
    | none =>
        let ap := versionPrefixLength a
        let bp := versionPrefixLength b
        let fuel := a.size + b.size + 2
        let first := versionPieces a b ap bp fuel 0 0
        if first != 0 || (ap == a.size && bp == b.size) then sign first
        else sign (versionPieces a b a.size b.size fuel 0 0)

end Conch.Text
