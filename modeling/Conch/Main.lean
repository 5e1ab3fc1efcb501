import Conch.Session.Loop
import Conch.Text.Utf8

/-!
# The command line

The program runs the shell on its standard input, in the machine image (`Machine.image`)
with its working directory `/root`, and writes what the shell wrote to its own standard
output and standard error.  It exits with the shell's status.  Arguments are handed to the
shell, which refuses them.

This is the only place that performs input and output; everything it calls is a function
of the input it reads.
-/

namespace Conch

/-- The environment the shell is started with. -/
def startEnvironment : List (String × String) :=
  [("HOME", "/root"), ("PATH", "/usr/bin:/bin")]

/-- How the shell is started on an input and arguments. -/
def launchOn (args : List String) (input : ByteArray) : Launch :=
  { args, env := startEnvironment, cwd := "/root", fs := Machine.image,
    input := Octets.ofBytes input.toList, pid := 1 }

/-- The bytes of an octet string. -/
def Octets.toByteArray (o : Octets) : ByteArray := ByteArray.mk o.bytes.toArray

end Conch

/-- Runs the shell on standard input. -/
def main (args : List String) : IO UInt32 := do
  let input ← (← IO.getStdin).readBinToEnd
  let finish := (Conch.launchOn args input).run
  (← IO.getStdout).write (Conch.Octets.toByteArray finish.world.output)
  (← IO.getStderr).write (Conch.Octets.toByteArray finish.world.errors)
  return finish.status.toUInt32
