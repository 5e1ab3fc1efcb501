import Conch.Programs.Basic
import Conch.Programs.Tools

/-!
# Starting a program

Starting the program at a path works as the system call does.  The path must name something
that is not a directory and has an execute bit.  An installed program runs its tool.  A file
that begins with `#!` is a script: the rest of that line names an interpreter and at most one
argument for it, and the interpreter is started instead, with the script's path put before
the script's arguments.  Any other file is refused with "Exec format error".

Programs that start programs themselves (a shell, `env`) are handed the starter, one level
shallower each time, so that every start is finite.

Main definitions: `shebang`, `startWith` and `start`.
-/

namespace Conch

/-- The interpreter line of a script: its interpreter and the argument for it, if any. -/
def shebang (content : String) : Option (String × Option String) :=
  match content.toList with
  | '#' :: '!' :: rest =>
      let line := (rest.takeWhile (· != '\n')).dropWhile (fun c => c == ' ' || c == '\t')
      let interp := line.takeWhile (fun c => c != ' ' && c != '\t')
      let arg := (line.dropWhile (fun c => c != ' ' && c != '\t')).dropWhile
        (fun c => c == ' ' || c == '\t')
      let arg := (arg.reverse.dropWhile (fun c => c == ' ' || c == '\t')).reverse
      if interp.isEmpty then none
      else some (String.ofList interp, if arg.isEmpty then none else some (String.ofList arg))
  | _ => none

/-- Starts the program at `path`, handing `recur` to the programs that start others. -/
def startWith (recur : Starter) : Starter := fun path p => do
  let w ← get
  match w.fs.stat p.cwd path with
  | .error e => pure (.error e)
  | .ok entry =>
      if entry.node.isDirectory || !entry.executable then pure (.error .permission)
      else
        match entry.node with
        | .program tool => do
            let ending ← runTool recur tool p
            pure (.ok ending)
        | .file n =>
            match shebang (w.fs.contentOf n) with
            | some (interp, arg) =>
                recur interp { p with argv := interp :: (arg.toList ++ [path] ++ p.argv.tail) }
            | none => pure (.error .execFormat)
        | _ => pure (.error .permission)

/-- Starts a program, with at most `depth` programs started inside one another. -/
def start : Nat → Starter
  | 0 => fun _ _ => pure (.error .loop)
  | n + 1 => startWith (start n)

/-- How deeply programs may start one another. -/
def startDepth : Nat := 32

end Conch
