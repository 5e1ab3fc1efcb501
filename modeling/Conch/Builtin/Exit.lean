import Conch.Text.WhiteSpace
import Conch.Text.Decimal

/-!
# The `exit` argument

An exit status is read from the trimmed argument as a 64-bit integer and reduced modulo 256
into `0 ..= 255`, negative numbers included: `-1` is 255 and `260` is 4.  An argument that
is no such integer is a usage error, which exits with status 2.

Main definition: `exitCode?`.
-/

namespace Conch

/-- The exit status an argument of `exit` asks for, or nothing if it is no integer. -/
def exitCode? (arg : String) : Option Nat :=
  (Text.IntWidth.signed64.read? (Text.trim arg)).map (fun n => (n % 256).toNat)

end Conch
