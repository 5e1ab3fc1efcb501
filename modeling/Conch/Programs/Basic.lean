import Conch.World.Streams
import Conch.Status
import Conch.Text.Quoted

/-!
# Programs

The shell starts programs, each in a process of its own: it gets its arguments (its own name
first), its environment as `NAME=VALUE` texts, a working directory, descriptors for its open
files and a file-creation mask.  It runs as a computation on the shared world (`Proc`) and
ends in some way (`Ending`).

Many programs read their whole standard input before they write anything and write their
output only when they end, as programs that buffer their output do.  Such a program is a
batch program (`Batch`): a function of the file system and of what waits on its standard
input to what it writes, how it ends, the file system it leaves and how much of its input it
read.  `Batch.program` runs one in a process: its error output is written first, then its
output; output that cannot be written is reported as a write error and fails the program.

All texts a program sees and writes are octet strings.

This module also holds what many programs share: splitting text into lines, quoting a file
name the way their messages do, and reading options.

Main definitions: `Process`, `Program`, `Batch` and `Batch.program`.
-/

namespace Conch

/-- A process as a program starts in it. -/
structure Process where
  /-- The arguments, the program's own name first. -/
  argv : List Octets
  /-- The environment, as `NAME=VALUE` texts. -/
  envp : List Octets
  /-- The working directory, without symbolic links. -/
  cwd : Octets
  /-- The descriptors and the open files they name. -/
  fds : Fds := standardFds
  /-- The permission bits that new files do not get. -/
  umask : Nat := 0o022
  deriving Repr

/-- The value of a variable of a process's environment. -/
def Process.getenv (p : Process) (n : String) : Option String :=
  (p.envp.find? (fun e => e.startsWith (n ++ "="))).map (fun e => (e.drop (n.length + 1)).copy)

/-- A computation of a running process on the shared world. -/
abbrev Proc := StateM World

namespace Process

/-- The program's name as it was called, which its messages start with. -/
def name (p : Process) : String := p.argv.headD ""

/-- The arguments after the program's name. -/
def args (p : Process) : List String := p.argv.tail

/-- Reads at most `limit` octets (all there are when `none`) from a descriptor. -/
def read (p : Process) (fd : Nat) (limit : Option Nat) : Proc (Except Errno Octets) :=
  modifyGet fun w => w.readFd p.fds fd limit

/-- Writes octets to a descriptor. -/
def write (p : Process) (fd : Nat) (text : Octets) : Proc (Except Errno Unit) := do
  match (← get).writeFd p.fds fd text with
  | .ok w => do set w; pure (.ok ())
  | .error e => pure (.error e)

/-- Writes a message to the standard error, whether or not it can be written. -/
def warn (p : Process) (text : Octets) : Proc Unit := do
  let _ ← p.write 2 text

/-- Opens a file by its path: the number of the new open file. -/
def openFile (p : Process) (path : Octets) (how : Opening) : Proc (Except Errno Nat) := do
  match (← get).openPath p.fds p.cwd path how with
  | .ok (w, c) => do set w; pure (.ok c)
  | .error e => pure (.error e)

end Process

/-- Reads at most `limit` octets (all there are when `none`) from an open file. -/
def readChannel (c : Nat) (limit : Option Nat) : Proc (Except Errno Octets) :=
  modifyGet fun w => w.read c limit

/-- A program: what it does in a process, and how it ends. -/
abbrev Program := Process → Proc Ending

/-- Starts the program at a path in a process: how it ended, or why it could not start. -/
abbrev Starter := Octets → Process → Proc (Except Errno Ending)

/-- What a batch program is started with. -/
structure Call where
  /-- The arguments, the program's own name first. -/
  argv : List String
  /-- The environment, as `NAME=VALUE` texts. -/
  envp : List String
  /-- The working directory, without symbolic links. -/
  cwd : String
  /-- What waits on the standard input, or why it cannot be read. -/
  input : Except Errno String
  /-- Whether the standard input is a regular file. -/
  inputIsFile : Bool := false
  /-- The permission bits that new files do not get. -/
  umask : Nat := 0o022
  deriving Repr

/-- What a batch program did. -/
structure Run where
  /-- What it wrote to its standard output. -/
  out : String := ""
  /-- What it wrote to its standard error. -/
  err : String := ""
  /-- How it ended. -/
  ending : Ending := .exited 0
  /-- The file system it left. -/
  fs : Fs
  /-- Whether it read all of its standard input. -/
  readInput : Bool := false
  /-- What it left unread of its standard input, when it read only part of it. -/
  unread : Option String := none
  deriving Repr

/-- A batch program: what it does with a call and a file system. -/
abbrev Batch := Fs → Call → Run

namespace Call

/-- The arguments after the program's name. -/
def args (c : Call) : List String := c.argv.tail

/-- The program's name as it was called, which its messages start with. -/
def name (c : Call) : String := c.argv.headD ""

/-- The program's name as it was called, without its directory. -/
def baseName (c : Call) : String := Path.baseName c.name

/-- The value of a variable of the environment. -/
def getenv (c : Call) (n : String) : Option String :=
  (c.envp.find? (fun e => e.startsWith (n ++ "="))).map (fun e => (e.drop (n.length + 1)).copy)

/-- The text of a file, or why it cannot be read. -/
def readFile (c : Call) (fs : Fs) (path : String) : Except Errno String :=
  match fs.stat c.cwd path with
  | .error e => .error e
  | .ok e =>
      match e.node with
      | .directory => .error .isDirectory
      | .file n => .ok (fs.contentOf n)
      | _ => .ok ""

/-- The text named by a file operand, where `-` is the standard input. -/
def readOperand (c : Call) (fs : Fs) (path : String) : Except Errno String :=
  if path == "-" then c.input else c.readFile fs path

end Call

/-- How many octets of what waited a batch run took from its standard input. -/
def Run.taken (r : Run) (waiting : Octets) : Nat :=
  if r.readInput then waiting.length
  else
    match r.unread with
    | some rest => waiting.length - rest.length
    | none => 0

/-- Runs a batch program in a process.  It sees what waits on its standard input without
taking it, and then takes what it read; its error output is written first and its output
last.  Output that cannot be written is reported as a write error, and the program then
fails with status 1. -/
def Batch.program (b : Batch) : Program := fun p => do
  let w ← get
  let input : Except Errno Octets := match p.fds.lookup 0 with
    | some c => w.available c
    | none => .error .badDescriptor
  let r := b w.fs { argv := p.argv, envp := p.envp, cwd := p.cwd, input,
                    inputIsFile := w.fdIsFile p.fds 0, umask := p.umask }
  let w := { w with fs := r.fs }
  let w := match p.fds.lookup 0, input with
    | some c, .ok t => w.consume c (r.taken t)
    | _, _ => w
  let w := match w.writeFd p.fds 2 r.err with
    | .ok w => w
    | .error _ => w
  match w.writeFd p.fds 1 r.out with
  | .ok w => do set w; pure r.ending
  | .error e =>
      let message := p.argv.headD "" ++ ": write error: " ++ e.describe ++ "\n"
      let w := match w.writeFd p.fds 2 message with
        | .ok w => w
        | .error _ => w
      set w
      pure (match r.ending with
        | .exited 0 => .exited 1
        | other => other)

/-- The lines of a text, each without its newline; a last line without one counts too. -/
def textLines (s : String) : List String :=
  let pieces := s.splitOn "\n"
  match pieces.getLast? with
  | some "" => pieces.dropLast
  | _ => pieces

/-- Lines written back as text, each followed by a newline. -/
def unlines (ls : List String) : String := String.join (ls.map (· ++ "\n"))

/-! ## Options -/

/-- An option a program was given: its letter and its argument, if it takes one. -/
structure Opt where
  letter : Char
  value : Option String := none
  deriving Repr, DecidableEq

/-- Whether an option letter was given. -/
def hasOpt (opts : List Opt) (c : Char) : Bool := opts.any (·.letter == c)

/-- The argument of the last option with this letter. -/
def optValue (opts : List Opt) (c : Char) : Option String :=
  ((opts.filter (·.letter == c)).getLast?).bind (·.value)

/-- A run that wrote an error message and failed with status `code`. -/
def failed (fs : Fs) (message : String) (code : Nat) : Run :=
  { err := message, ending := .exited code, fs }

end Conch
