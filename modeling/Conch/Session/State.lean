import Conch.Env.Store
import Conch.History.Ring
import Conch.Expand.Fields
import Conch.Startup.Events
import Conch.World.Machine
import Conch.World.Streams

/-!
# The state of a running shell

A shell keeps its variables, its working directory, the status of the last line, its history
and the here-document files of the line being run.  It shares the `World` with the programs it
starts: the file system, the pipes and the open files, among them its own three standard
streams.

The shell's own texts are characters; the world holds octets.  What the shell writes, and the
names it opens, are turned into octets by their UTF-8 form; the lines it reads are read back
the forgiving way.

The working directory is kept logically: changing it resolves the target against the file
system only to check that it is a directory, and then records the target with `.` and `..`
removed by text, so `cd` through a symbolic link and back up returns where it started.
`PWD` follows the working directory and `OLDPWD` the one before; a shell that never had an
`OLDPWD` first takes it from `PWD`.

Main definitions: `Shell`, `World` and `Shell.setWorkingDir`.
-/

namespace Conch

/-- What a shell keeps from one line to the next. -/
structure Shell where
  /-- The variables. -/
  env : Env
  /-- The working directory, absolute and in lexical normal form. -/
  cwd : String
  /-- The status of the last line. -/
  status : Nat := 0
  /-- The lines run so far. -/
  history : History
  /-- Where the history is saved when the shell ends. -/
  historyPath : Option String
  /-- How many here-document files the shell has made. -/
  heredocCount : Nat := 0
  /-- The here-document files of the line being run, removed when it ends. -/
  heredocFiles : List String := []
  /-- The process number that `$$` stands for. -/
  pid : Nat
  /-- Whether this is a copy of the shell running in a child process. -/
  inChild : Bool := false
  /-- The here-documents an interrupt stops, by number: each with how many body lines its
  reader has taken when the interrupt comes. -/
  interrupts : List (Nat × Nat) := []
  /-- Whether a child that the quit signal kills leaves a core image, as it does when the
  shell's limit on core images is above zero. -/
  dumpsCore : Bool := false
  deriving Repr

namespace World

/-- Writes to the shell's standard output. -/
def say (w : World) (text : String) : World :=
  match w.write 1 (Octets.ofText text) with
  | .ok w => w
  | .error _ => w

/-- Writes to the shell's standard error, which is pipe 2 from the start of a run to its end:
no line can redirect the shell's own error stream. -/
def warn (w : World) (text : String) : World :=
  if (Octets.ofText text).isEmpty then w else w.setPipe 2 (w.pipeData 2 ++ Octets.ofText text)

/-- Reports a message on standard error under the shell's name. -/
def report (w : World) (message : String) : World :=
  w.warn (shellName ++ ": " ++ message ++ "\n")

/-- Logs an error of the system on standard error as the shell's log shows it: the level, in
red, then the message. -/
def logError (w : World) (message : String) : World :=
  w.warn ("\x1b[31mERROR\x1b[0m " ++ message ++ "\n")

/-- Logs a warning on standard error as the shell's log shows it: the level, in yellow, then
the message. -/
def logWarning (w : World) (message : String) : World :=
  w.warn ("\x1b[33m WARN\x1b[0m " ++ message ++ "\n")

/-- Reads the next line of the shell's standard input, octet by octet, as text. -/
def nextLine (w : World) : Option (String × World) :=
  (w.readLine 0).map fun (line, w) => (line.toText, w)

end World

/-- Why the working directory could not be changed. -/
inductive DirError where
  /-- The target could not be looked up or entered. -/
  | lookup (e : Errno)
  /-- The target is not a directory. -/
  | notDirectory
  deriving DecidableEq, Repr

/-- The reason a failed change of directory gives. -/
def DirError.reason : DirError → String
  | .lookup e => e.describe
  | .notDirectory => "Not a directory"

/-- Changing into the directory at the absolute path `p`: the directory as the system knows it,
or why it cannot be entered. -/
def Fs.enter (fs : Fs) (p : Octets) : Except Errno Octets :=
  match fs.resolve "/" p with
  | .ok q => if fs.isDirectoryAt q then .ok q else .error .notDirectory
  | .error e => .error e

namespace Shell

/-- What words of a line are expanded with. -/
def scope (sh : Shell) : Scope := { env := sh.env, status := sh.status, pid := sh.pid }

/-- A path made absolute against the working directory; an empty path stays empty. -/
def absolutePath (sh : Shell) (p : String) : String :=
  if p.isEmpty || Path.isAbsolute p then p else Path.join sh.cwd p

/-- The working directory with every symbolic link resolved, which is where the process
really is, as the octets the system knows it by. -/
def physicalCwd (sh : Shell) (fs : Fs) : Octets :=
  let cwd := Octets.ofText sh.cwd
  match fs.resolve "/" cwd with
  | .ok p => p
  | .error _ => cwd

/-- Makes `target` the working directory, keeping `PWD` and `OLDPWD` up to date. -/
def setWorkingDir (sh : Shell) (fs : Fs) (target : String) : Except DirError Shell :=
  let abs := sh.absolutePath target
  match fs.stat (sh.physicalCwd fs) (Octets.ofText abs) with
  | .error e => .error (.lookup e)
  | .ok entry =>
      if !entry.node.isDirectory then .error .notDirectory
      else
        let cleaned := Path.normalize abs
        match fs.enter (Octets.ofText cleaned) with
        | .error e => .error (.lookup e)
        | .ok _ =>
            let env := if sh.env.contains "OLDPWD" then sh.env
              else match sh.env.get "PWD" with
                | some pwd => sh.env.set "OLDPWD" pwd
                | none => sh.env
            let env := (env.set "OLDPWD" sh.cwd).set "PWD" cleaned
            .ok { sh with env, cwd := cleaned }

end Shell

end Conch
