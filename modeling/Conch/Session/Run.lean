import Conch.Session.Build
import Conch.Builtin.Run
import Conch.Programs.Exec
import Conch.Command.Resolve

/-!
# Running a line

A pipeline of one stage whose command is `cd`, `exit`, `export`, `unset` or `history` runs in
the shell itself, so that what it changes stays changed.  Every other stage runs in a child:
a copy of the shell that runs a built-in command, or starts the program its name resolves
to.  A child whose redirection failed exits with status 1 without running anything, and one
with no command at all exits with 0.

The stages are joined by pipes, made before any stage starts.  A stage reads from its input
redirection if it has one, else from the pipe of the stage before it; the first stage reads
the shell's own input, and takes from it what it reads.  A stage writes to its output
redirection if it has one, else to the pipe to the next stage, and the last one to the
shell's output.  Every stage writes its errors to the shell's error stream.  The stages run
one after the other, each one seeing the world as the one before left it.

A built-in command writes its output when it is done; output that cannot be written is
reported under the command's name and fails the command with status 1.

The shell starts the stages in order.  It keeps the pipe ends in a table, one row per stage;
for each stage it takes the stage's row out of the table, makes a child that holds all the
shell holds then, and lets go of the row.  The child lets go of the table and of every command
but its own, so that in the end each pipe end is held by the one stage that uses it.  The
shell then waits for as many children as it made, taking them in whatever order they end,
and keeps how the child of the last stage ended.

The status of a pipeline is the last stage's: its exit code, or 128 plus the signal that
killed it (an interrupt also ends the shell's error line).  Waiting cannot report a child that
a real-time signal killed: the shell stops waiting there, logs and reports the failure, and the
line ends with status 1.

A line that cannot be built is reported and ends with its error's status, except one whose
here-document an interrupt stopped, which ends with 130 and is not reported.  When a line is
done its here-document files are removed; one that cannot be removed is left and warned about.

Main definitions: `runStage`, `spawn`, `reap`, `executePipeline` and `processLine`.
-/

namespace Conch

/-- The message of a program that could not be started. -/
def embeddedNul (name : String) : String :=
  name ++ ": argument contains an embedded NUL byte"

/-- What the file system shows a command lookup, for names given as text. -/
def Fs.probeText (fs : Fs) (cwd : Octets) : Probe := fun p => fs.probe cwd (Octets.ofText p)

/-- Starts the program a name resolves to, in a child of the shell with descriptors `fds`:
the world after it and how it ended. -/
def runExternal (sh : Shell) (w : World) (args : List String) (fds : Fds) : World × Ending :=
  let name := args.headD ""
  let cwd := sh.physicalCwd w.fs
  match resolveCommand (w.fs.probeText cwd) name (sh.env.get "PATH") with
  | .error e => (w.report e.message, .exited e.exitKind.code)
  | .ok path =>
      let nul := Char.ofNat 0
      match sh.env.toEnvp with
      | .error _ => (w.report (embeddedNul name), .exited 126)
      | .ok envp =>
          if args.any (fun a => a.toList.contains nul) then
            (w.report (embeddedNul name), .exited 126)
          else
            let process : Process :=
              { argv := args.map Octets.ofText, envp := envp.map Octets.ofText, cwd, fds }
            match (start startDepth (Octets.ofText path) process).run w with
            | (.error e, w) =>
                (w.report (name ++ ": " ++ e.describe),
                 .exited (if e == .noEntry then 127 else 126))
            | (.ok ending, w) => (w, ending)

/-- Writes what a built-in command printed to the open file `out`: the world after it, and
whether the output could be written. -/
def writeReply (w : World) (name : String) (out : Nat) (reply : Reply) : World × Bool :=
  let w := w.warn reply.err
  match w.write out (Octets.ofText reply.out) with
  | .ok w => (w, true)
  | .error e => (w.report (name ++ ": " ++ e.withNumber), false)

/-- The open file a redirection opened, if it opened one. -/
def Redirection.opened? {α : Type} : Redirection α → Option α
  | .opened a => some a
  | _ => none

/-- The open files a command's redirections opened. -/
def Command.openFiles (c : Command) : List Nat := c.input.opened?.toList ++ c.output.opened?.toList

/-- Runs a command in a child of the shell, reading the open file `input` and writing the open
file `output`: the world after it and how it ended.  A child with no command exits with 0. -/
def runCommand (sh : Shell) (w : World) (args : List String) (input output : Nat) :
    World × Ending :=
  match args with
  | [] => (w, .exited 0)
  | name :: _ =>
      if Builtin.isBuiltin name then
        let (_, reply) := Builtin.run { sh with inChild := true } w.fs args
        match writeReply w name output reply with
        | (w, true) => (w, .exited (reply.flow.status % 256))
        | (w, false) => (w, .exited 1)
      else runExternal sh w args [(0, input), (1, output), (2, 2)]

/-- Runs one stage in a child of the shell, reading the open file `input` and writing the open
file `output` unless it redirects them: the world after it and how it ended.  A stage whose
redirection failed exits with 1 and runs nothing. -/
def runStage (sh : Shell) (w : World) (c : Command) (input output : Nat) : World × Ending :=
  if c.isFailed then (w, .exited 1)
  else
    -- a file a redirection opened takes the place of the stage's own stream
    runCommand sh w c.args (c.input.opened?.getD input) (c.output.opened?.getD output)

/-! ## Starting the stages -/

/-- The pipe ends a pipeline's shell holds for the stages it has not started yet: for each
stage, the end it reads by default and the end it writes by default, where that is a pipe. -/
structure PipeTable where
  readers : List (Option Nat)
  writers : List (Option Nat)
  deriving Repr

namespace PipeTable

/-- The table that holds no end. -/
def empty : PipeTable := ⟨[], []⟩

/-- The pipes between `count` stages, made in order: the world, and the table that holds, for
each stage but the first, the reading end of the pipe from the stage before it, and for each
stage but the last, the writing end of the pipe to the stage after it. -/
def make (w : World) (count : Nat) : World × PipeTable :=
  let (w, ends) := (List.range (count - 1)).foldl (fun (acc : World × List (Nat × Nat)) _ =>
    let (w, r, wr) := acc.1.newPipe
    (w, acc.2 ++ [(r, wr)])) (w, [])
  (w, ⟨none :: ends.map (some ·.1), ends.map (some ·.2) ++ [none]⟩)

/-- Takes stage `k`'s ends out of the table: the table without them, the end the stage reads
and the end it writes. -/
def take (t : PipeTable) (k : Nat) : PipeTable × Option Nat × Option Nat :=
  (⟨t.readers.set k none, t.writers.set k none⟩, t.readers[k]?.join, t.writers[k]?.join)

/-- The pipe ends the table holds. -/
def held (t : PipeTable) : List Nat := t.readers.reduceOption ++ t.writers.reduceOption

end PipeTable

/-- What a process of a pipeline holds while the stages are started: the pipe table, the ends
taken out of it for the stage being started, and the commands, each with the files its
redirections opened. -/
structure Holding where
  table : PipeTable
  input : Option Nat := none
  output : Option Nat := none
  commands : List Command

namespace Holding

/-- The pipe ends held. -/
def ends (h : Holding) : List Nat := h.table.held ++ h.input.toList ++ h.output.toList

/-- The files of redirections held. -/
def files (h : Holding) : List Nat := h.commands.flatMap Command.openFiles

/-- What the child made for stage `k` keeps of all that it was made holding: it lets go of the
pipe table and of every command but the `k`-th. -/
def forChild (h : Holding) (k : Nat) : Holding :=
  { h with table := PipeTable.empty, commands := (h.commands.drop k).take 1 }

/-- Runs the stage a child holds, with the ends it holds as its input and output by default,
and the shell's own streams where it holds none. -/
def run (h : Holding) (sh : Shell) (w : World) : World × Ending :=
  match h.commands with
  | [c] => runStage sh w c (h.input.getD 0) (h.output.getD 1)
  | _ => (w, .exited 1)

end Holding

/-- The shell starting the stages of a pipeline: the world, what the shell holds, what each
child made so far holds, by stage, and the children that ended, each with its stage number, in
the order they ended. -/
structure Spawn where
  world : World
  shell : Holding
  children : List Holding
  ended : List (Nat × Ending)

/-- The shell before it starts any stage of `cs`: the pipes are made, and it holds them all and
every command. -/
def Spawn.start (w : World) (cs : List Command) : Spawn :=
  let (w, table) := PipeTable.make w cs.length
  ⟨w, { table, commands := cs }, [], []⟩

/-- What the shell holds when it makes the child of stage `k`: all it held, with the stage's
ends taken out of the table into its hands. -/
def Spawn.atFork (s : Spawn) (k : Nat) : Holding :=
  let (table, input, output) := s.shell.table.take k
  { s.shell with table, input, output }

/-- One turn of the loop that starts the stages, for stage `k`: the stage's ends are taken out
of the table, a child is made holding all that the shell holds then, lets go of what is not
its own and runs its stage to its end; then the shell lets go of the ends it took. -/
def Spawn.turn (sh : Shell) (s : Spawn) (k : Nat) : Spawn :=
  let atFork := s.atFork k
  let child := atFork.forChild k
  let (w, ending) := child.run sh s.world
  { world := w, shell := { atFork with input := none, output := none },
    children := s.children ++ [child], ended := s.ended ++ [(k, ending)] }

/-- Makes the pipes of a pipeline and starts its stages in order. -/
def spawn (sh : Shell) (w : World) (cs : List Command) : Spawn :=
  (List.range cs.length).foldl (Spawn.turn sh) (Spawn.start w cs)

/-! ## Waiting for the stages -/

/-- Waits once for each of `pids`, taking the children in the order `ended` gives, in which
they ended, and keeps how the child `last` ended; stops early when no child is left to wait
for, and fails at a child whose ending waiting cannot report.  Gives the ending kept, or the
failure, and the children not waited for. -/
def reapEach (last : Option Nat) : List Nat → List (Nat × Ending) → Option Ending →
    Except Errno (Option Ending) × List (Nat × Ending)
  | [], ended, kept => (.ok kept, ended)
  | _ :: _, [], kept => (.ok kept, [])
  | _ :: pids, (pid, e) :: ended, kept =>
      if e.reportable then reapEach last pids ended (if some pid = last then some e else kept)
      else (.error .invalid, ended)

/-- Waits for as many children as `pids` names, keeping how the last of them ended. -/
def reap (pids : List Nat) (ended : List (Nat × Ending)) :
    Except Errno (Option Ending) × List (Nat × Ending) :=
  reapEach pids.getLast? pids ended none

/-- Runs the stages of a pipeline in children, told apart by their stage numbers: the world
after them and how the last stage ended, if that was seen, or why waiting failed. -/
def runStages (sh : Shell) (w : World) (cs : List Command) :
    World × Except Errno (Option Ending) :=
  let s := spawn sh w cs
  (s.world, (reap (List.range cs.length) s.ended).1)

/-- Runs the stages of a pipeline in children: the world after them, and the fold of how the
last stage ended as the status the shell goes on with; when waiting failed, the failure is
logged and reported and the status is 1. -/
def runInChildren (sh : Shell) (w : World) (cs : List Command) : World × Flow :=
  match runStages sh w cs with
  | (w, .ok last) =>
      (w.warn (Ending.foldNotice sh.dumpsCore last), .next (Ending.foldStatus last))
  | (w, .error e) =>
      let err := LineError.system e
      ((w.logError err.message).report err.message, .next err.status)

theorem runInChildren_continues (sh : Shell) (w : World) (cs : List Command) :
    ∃ n, (runInChildren sh w cs).2 = .next n := by
  unfold runInChildren
  split <;> exact ⟨_, rfl⟩

/-- Runs a pipeline: alone in the shell when it is one command that changes the shell, else
in children.  Gives the shell and world after it and how the shell goes on. -/
def executePipeline (sh : Shell) (w : World) (cs : List Command) : Shell × World × Flow :=
  let inChildren := fun (w : World) =>
    let (w, flow) := runInChildren sh w cs
    (sh, w, flow)
  match cs with
  | [c] =>
      match c.args with
      | name :: _ =>
          if Builtin.modifiesShell name then
            if c.isFailed then (sh, w, .next 1)
            else
              let (sh, reply) := Builtin.run sh w.fs c.args
              let output := match c.output with
                | .opened ch => ch
                | _ => 1
              match writeReply w name output reply with
              | (w, true) => (sh, w, reply.flow)
              | (w, false) => (sh, w, .next 1)
          else inChildren w
      | [] => inChildren w
  | _ => inChildren w

/-- The warning that a here-document file could not be removed. -/
def removalWarning (path : Octets) (e : Errno) : String :=
  "failed to remove " ++ path.toText ++ ": " ++ e.withNumber

/-- Removes one here-document file by the name it was made under.  A name that leads nowhere
is passed over; a name that leads to a directory, or cannot be followed, is left and warned
about. -/
def removeHeredocFile (w : World) (p : Octets) : World :=
  match w.fs.entryPath "/" p with
  | .ok q =>
      match w.fs.find q with
      | some e =>
          if e.node.isDirectory then w.logWarning (removalWarning p .isDirectory)
          else { w with fs := w.fs.erase q }
      | none => w
  | .error e => if e == .noEntry then w else w.logWarning (removalWarning p e)

/-- Removes the here-document files of the line that just ran, in the order they were made. -/
def removeHeredocs (sh : Shell) (w : World) : Shell × World :=
  ({ sh with heredocFiles := [] }, sh.heredocFiles.foldl removeHeredocFile w)

/-- Runs a line that is not blank: checks, splits, expands, builds and runs it. -/
def runLine (sh : Shell) (w : World) (line : String) : Shell × World × Flow :=
  match Syntax.check line with
  | .error e =>
      let err := LineError.grammar e
      (sh, w.report err.message, .next err.status)
  | .ok () =>
      match Syntax.tokenize line with
      | .error e =>
          let err := LineError.unclosed e
          (sh, w.report err.message, .next err.status)
      | .ok [] => (sh, w, .next sh.status)
      | .ok tokens =>
          let tokens := sh.scope.expandTokens tokens
          match buildCommands sh w tokens with
          | (sh, w, .error err) => (sh, err.report w, .next err.status)
          | (sh, w, .ok cs) => executePipeline sh w cs

/-- Processes a line read from the input: a blank line keeps the last status; any other is
added to the history, run, and its here-document files removed.  The status it ends with
becomes the last status. -/
def processLine (sh : Shell) (w : World) (line : String) : Shell × World × Flow :=
  if Text.isBlankText line then (sh, w, .next sh.status)
  else
    let sh := { sh with history := sh.history.add line }
    let (sh, w, flow) := runLine sh w line
    let (sh, w) := removeHeredocs sh w
    ({ sh with status := flow.status }, w, flow)

end Conch
