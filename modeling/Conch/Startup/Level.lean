import Conch.Text.WhiteSpace
import Conch.Text.Decimal

/-!
# The shell level

Each shell counts how deeply it is nested in `SHLVL`: a new shell takes the inherited level
plus one.  The inherited text is trimmed and read as a 64-bit integer, and anything
unreadable counts as zero.  A negative level starts over at one; a level of `2^31 - 1` or
more becomes zero; and a new level of 1000 or more is reported as too high and reset to one.

Main definition: `nextLevel`.
-/

namespace Conch

/-- A new shell's level from the inherited `SHLVL`, and the level that was too high, if
one was.  The levels are 64-bit integers, and the reader keeps to their range. -/
def nextLevel (inherited : Option String) : Int64 × Option Int64 :=
  let current : Int64 :=
    Int64.ofInt (((inherited.map Text.trim).bind Text.IntWidth.signed64.read?).getD 0)
  if current < 0 then (1, none)
  -- the largest 32-bit integer
  else if current ≥ 2147483647 then (0, none)
  else
    let next := current + 1
    if next ≥ 1000 then (1, some next) else (next, none)

end Conch
