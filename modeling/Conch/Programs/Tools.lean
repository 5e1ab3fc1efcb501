import Conch.Programs.Files
import Conch.Programs.Listing
import Conch.Programs.Translate
import Conch.Programs.Format
import Conch.Programs.Dump
import Conch.Programs.Grep
import Conch.Programs.Sed
import Conch.Programs.Condition
import Conch.Programs.Expression
import Conch.Programs.Lines
import Conch.Programs.Xargs
import Conch.Programs.Sort
import Conch.Programs.Fields
import Conch.Script.Shell

/-!
# The installed programs

Each installed program runs one tool, chosen by its name.  The tools that start other programs
(`env` and the shells) are handed the starter.  Most tools are batch programs.

Main definition: `runTool`.
-/

namespace Conch

open Programs in
/-- The tool an installed program runs. -/
def runTool (start : Starter) (tool : String) : Program :=
  match tool with
  | "cat" => cat
  | "tr" => Batch.program tr
  | "grep" => Batch.program grep
  | "sort" => Batch.program sort
  | "uniq" => Batch.program uniq
  | "wc" => Batch.program wc
  | "head" => Batch.program head
  | "tail" => Batch.program tail
  | "cut" => Batch.program cut
  | "rev" => Batch.program rev
  | "tee" => tee
  | "seq" => Batch.program seq
  | "od" => Batch.program od
  | "sed" => Batch.program sed
  | "expr" => Batch.program expr
  | "paste" => Batch.program paste
  | "fold" => Batch.program fold
  | "nl" => Batch.program nl
  | "test" => Batch.program (test false)
  | "[" => Batch.program (test true)
  | "printf" => Batch.program printf
  | "echo" => Batch.program echo
  | "ls" => Batch.program Listing.ls
  | "mkdir" => Batch.program mkdir
  | "rmdir" => Batch.program rmdir
  | "rm" => Batch.program rm
  | "touch" => Batch.program touch
  | "basename" => Batch.program basename
  | "dirname" => Batch.program dirname
  | "pwd" => Batch.program pwd
  | "printenv" => Batch.program printenv
  | "env" => env start
  | "xargs" => xargs start
  | "sh" | "dash" => Script.Shell.program start
  | "false" => Batch.program fail
  | "sleep" => Batch.program sleep
  | _ => Batch.program succeed

end Conch
