import Conch.Script.Builtins
import Conch.Script.Expand

/-!
# Running commands

The evaluator runs a command tree on the shell's state and the world.

*Simple commands.*  The words are expanded first, then the redirections are opened (their
targets expanded before any is opened), then the assignments are expanded and made, in
order.  The name is looked up: a special built-in command, a function, a regular built-in
command, or a program on the search path.  Assignments before a special built-in command,
or with no command at all, stay; before anything else they hold only while it runs, and are
handed to programs in their environment.  A command with no name has the status of the last
command substitution in it, or 0.  The redirections hold while the command runs, except for
`exec` without a command, which keeps them.

*Errors.*  A redirection that cannot be opened is reported and gives status 2, and the command
does not run.  An error while expanding a word, or in a special built-in command, ends the
shell; an error in a regular built-in command gives status 2.  With `-e`, a simple command,
pipeline or subshell that fails ends the shell unless its status is tested: a condition of
`if`, `while` or `until`, a command before `&&` or `||`, or a command after `!`.

*Copies of the shell.*  A subshell, each stage of a pipeline, a background command and a
command substitution run in a copy of the shell: what they do to its state is dropped, what
they do to files and pipes stays.  The copy's traps are reset, except the ignored ones.

*Control.*  `break` and `continue` leave as many loops as they say, at most those they are in;
a function runs with no loop around it.  `return` leaves a function or a script read by `.`.

*Signals.*  A signal the shell sends itself runs its trap, is ignored, or ends the shell,
after the command that sent it.

Every step spends fuel, so running a script always ends.

Main definitions: `evalTree`, `evalString` and `runExitTrap`.
-/

namespace Conch.Script

/-- How a shell describes a signal that killed a command. -/
def signalText (s : Nat) : String :=
  match s with
  | 1 => "Hangup"
  | 2 => "Interrupt"
  | 3 => "Quit"
  | 4 => "Illegal instruction"
  | 5 => "Trace/breakpoint trap"
  | 6 => "Aborted"
  | 7 => "Bus error"
  | 8 => "Floating point exception"
  | 9 => "Killed"
  | 10 => "User defined signal 1"
  | 11 => "Segmentation fault"
  | 12 => "User defined signal 2"
  | 13 => "Broken pipe"
  | 14 => "Alarm clock"
  | 15 => "Terminated"
  | 16 => "Stack fault"
  | 17 => "Child exited"
  | 18 => "Continued"
  | 19 => "Stopped (signal)"
  | 20 => "Stopped"
  | 21 => "Stopped (tty input)"
  | 22 => "Stopped (tty output)"
  | 23 => "Urgent I/O condition"
  | 24 => "CPU time limit exceeded"
  | 25 => "File size limit exceeded"
  | 26 => "Virtual timer expired"
  | 27 => "Profiling timer expired"
  | 28 => "Window changed"
  | 29 => "I/O possible"
  | 30 => "Power failure"
  | 31 => "Bad system call"
  | n => "Real-time signal " ++ toString (n - 34)

/-- Reports a command that a signal killed, unless the signal was an interrupt or a broken
pipe. -/
def noteEnding (e : Ending) : ScriptM Unit := do
  match e with
  | .signaled s => if s != 2 && s != 13 then writeErr (Octets.ofText (signalText s) ++ "\n")
  | .exited _ => pure ()

/-- Sets the status of the last command. -/
def setStatus (n : Nat) : ScriptM Unit := modifyState fun s => { s with status := n }

/-- The status of the last command. -/
def lastStatus : ScriptM Nat := return (← getState).status

/-- Makes descriptor `fd` name the open file `c`. -/
def setFd (fd c : Nat) : ScriptM Unit :=
  modifyState fun st => { st with fds := (fd, c) :: st.fds.filter (·.1 != fd) }

/-- Closes descriptor `fd`. -/
def closeFd (fd : Nat) : ScriptM Unit :=
  modifyState fun st => { st with fds := st.fds.filter (·.1 != fd) }

/-- Makes a pipe holding `data`: the open file of its reading end and of its writing end. -/
def pipeWith (data : Octets) : ScriptM (Nat × Nat) :=
  liftWorld (modifyGet fun w =>
    let (w, r, wr) := w.newPipe
    match w.channel? r with
    | some ⟨.pipe id, _, _⟩ => ((r, wr), w.setPipe id data)
    | _ => ((r, wr), w))

/-- Reads everything waiting in an open file. -/
def drain (c : Nat) : ScriptM Octets :=
  liftWorld (modifyGet fun w =>
    let (res, w) := w.read c none
    match res with
    | .ok d => (d, w)
    | .error _ => ("", w))

/-- Ends the shell under `-e` when a command that is not tested failed. -/
def checkExit (tested : Bool) : ScriptM Unit := do
  let st ← getState
  if st.opts.errexit && !tested && st.status != 0 then throw .exit

/-- A redirection with its target expanded. -/
inductive Step where
  /-- Opens a named file onto a descriptor. -/
  | file (fd : Nat) (op : FileOp) (target : Octets)
  /-- Copies a descriptor, or closes it (`none`). -/
  | dup (fd : Nat) (source : Option Nat)
  /-- Feeds a here-document to a descriptor. -/
  | here (fd : Nat) (doc : Nat)

/-- Expands the targets of redirections.  A copy whose target is not a single digit or `-`
is a syntax error, which ends the shell. -/
def expandRedirs (sub : Substitute) (rs : List Redir) : ScriptM (List Step) := do
  let mut out : List Step := []
  for r in rs do
    match r with
    | .file fd op w => out := out ++ [.file fd op (← expandWordText sub w)]
    | .dup fd _ w => do
        let t ← expandWordText sub w
        match t.toList with
        | [d] =>
            if isDigitChar d then out := out ++ [.dup fd (some (d.toNat - 48))]
            else if d == '-' then out := out ++ [.dup fd none]
            else fail "Syntax error: Bad fd number"
        | _ => fail "Syntax error: Bad fd number"
    | .here fd doc => out := out ++ [.here fd doc]
  return out

/-- Why opening a file for a redirection failed, as the message says it. -/
def openError (creating : Bool) (e : Errno) : String :=
  if e == .noEntry || e == .notDirectory then
    if creating then "Directory nonexistent" else "No such file"
  else e.describe

/-- Opens a named file for a redirection: the open file, or the message. -/
def openFor (target : Octets) (op : FileOp) : ScriptM (Except Octets Nat) := do
  let st ← getState
  let w ← getWorld
  let mode := 0o666 &&& (0o7777 - st.umask)
  let creating := op != .input
  let clobberRefused :=
    op == .output && st.opts.noclobber &&
      (match w.fs.stat st.cwd target with
       | .ok e => e.node.isRegular
       | .error _ => false)
  if clobberRefused then
    return .error ("cannot create " ++ target ++ ": " ++ Errno.exists.describe)
  let how : Opening := match op with
    | .input => Opening.reading
    | .output | .clobber => Opening.replacing mode
    | .append => Opening.appending mode
    | .readWrite => { read := true, write := true, create := some mode }
  match w.openPath st.fds st.cwd target how with
  | .ok (w', c) => do
      liftWorld (set w')
      return .ok c
  | .error e =>
      return .error ((if creating then "cannot create " else "cannot open ") ++ target ++ ": " ++
        openError creating e)

/-- The text of a here-document that is not expanded. -/
def literalText (w : Word) : Octets :=
  String.join (w.map fun p => match p with
    | .text s _ => s
    | _ => "")

/-- Applies redirections already expanded, in order: whether all succeeded.  A failure is
reported. -/
def applySteps (sub : Substitute) (steps : List Step) : ScriptM Bool := do
  for s in steps do
    match s with
    | .file fd op target =>
        match ← openFor target op with
        | .ok c => setFd fd c
        | .error msg => do
            warn msg
            return false
    | .dup fd none => closeFd fd
    | .dup fd (some src) =>
        if src != fd then
          match (← getState).fds.lookup src with
          | some c => setFd fd c
          | none => do
              warn (toString src ++ ": " ++ Errno.badDescriptor.describe)
              return false
    | .here fd doc => do
        let text ← match (← getState).docs.lookup doc with
          | some d => if d.expand then expandHereText sub d.body else pure (literalText d.body)
          | none => pure ""
        let (r, _) ← pipeWith text
        setFd fd r
  return true

/-- Puts back variables saved before temporary assignments, the last saved first. -/
def restoreVars (saved : List (String × Option Var)) : ScriptM Unit := do
  for (n, old) in saved.reverse do
    match old with
    | some v => modifyState fun s => s.putVar n v
    | none => modifyState fun s => s.dropVar n

/-- Sets up a copy of the shell: traps reset except the ignored ones, nothing pending. -/
def copyOf (st : Interp) : Interp :=
  { st with isCopy := true, traps := st.traps.filter (·.2.isEmpty), signals := [], raised := [],
            pending := "" }

/-- Puts back the shell after a copy of it ran: its own state, with the signals the copy sent
it. -/
def afterCopy (outer inner : Interp) : Interp :=
  if outer.isCopy then { outer with raised := outer.raised ++ inner.raised }
  else { outer with signals := outer.signals ++ inner.raised }

/-- How a loop body ended. -/
inductive LoopEnd where
  | normal
  | broke
  | continued

/-- Runs a loop's condition or body, catching `break` and `continue` meant for this loop. -/
def loopStep (x : ScriptM Unit) : ScriptM LoopEnd := do
  try
    x
    pure .normal
  catch e =>
    match e with
    | .breakLoop n => if n ≤ 1 then pure .broke else throw (.breakLoop (n - 1))
    | .continueLoop n => if n ≤ 1 then pure .continued else throw (.continueLoop (n - 1))
    | other => throw other

/-- The most times a loop runs. -/
def loopLimit : Nat := 10000000

/-- Runs a built-in command with its name shown in messages; its output is flushed when it
ends, and output that cannot be written is reported and makes the status odd. -/
def asBuiltin (name : String) (body : ScriptM Nat) : ScriptM Nat := do
  let saved := (← getState).builtinName
  modifyState fun s => { s with builtinName := some name }
  let status ← try body catch e => do
    let _ ← flushOut
    modifyState fun s => { s with builtinName := saved }
    throw e
  let status ← match ← flushOut with
    | .ok () => pure status
    | .error _ => do
        warn (Octets.ofText name ++ ": I/O error")
        pure (status ||| 1)
  modifyState fun s => { s with builtinName := saved, status }
  return status

/-- The environment a program is started with, and its descriptors: a process. -/
def processFor (argv : List Octets) : ScriptM Process := do
  let st ← getState
  return { argv, envp := st.environ, cwd := st.cwd, fds := st.fds, umask := st.umask }

/-- Starts the program at a path; a file that is not a program is read by the shell. -/
def tryExec (start : Starter) (path : Octets) (argv : List Octets) : ScriptM (Except Errno Ending) := do
  let p ← processFor argv
  match ← liftWorld (start path p) with
  | .error .execFormat =>
      liftWorld (start "/bin/sh" { p with argv := "/bin/sh" :: path :: argv.drop 1 })
  | r => pure r

/-- Starts a program by name: a name with a slash directly, another in each directory of the
search path until one starts. -/
def execByName (start : Starter) (argv : List Octets) : ScriptM (Except Errno Ending) := do
  let name := argv.headD ""
  if name.contains '/' then return ← tryExec start name argv
  let mut why : Errno := .noEntry
  for d in pathDirs (pathValue (← getState)) do
    match ← tryExec start (inDir d name) argv with
    | .ok e => return .ok e
    | .error e => if e != .noEntry && e != .notDirectory then why := e
  return .error why

/-- The message and status of a program that could not be started. -/
def execFailure (name : Octets) (e : Errno) : Octets × Nat :=
  match e with
  | .noEntry | .notDirectory => (name ++ ": not found", 127)
  | .permission => (name ++ ": " ++ e.describe, 126)
  | _ => (name ++ ": " ++ e.describe, 2)

/-- Puts back the variables made local by a function's `local`, the last saved first. -/
def restoreLocals (frame : List (String × Option Var)) : ScriptM Unit :=
  restoreVars frame.reverse

mutual

/-- Runs a command.  `tested` is whether its status is tested, so that `-e` does not end the
shell when it fails. -/
def evalTree (start : Starter) : Nat → Bool → Cmd → ScriptM Unit
  | 0, _, _ => pure ()
  | f + 1, tested, c => do
      if (← getState).opts.noexec then return
      match c with
      | .simple line assigns args redirs => do
          evalSimple start f tested line assigns args redirs
          checkExit tested
          handleSignals start f
      | .pipe stages => do
          evalPipe start f tested stages
          checkExit tested
      | .negate body => do
          evalTree start f true body
          setStatus (if (← lastStatus) == 0 then 1 else 0)
      | .andThen a b => do
          evalTree start f true a
          if (← lastStatus) == 0 then evalTree start f tested b
      | .orElse a b => do
          evalTree start f true a
          if (← lastStatus) != 0 then evalTree start f tested b
      | .seq a b => do
          evalTree start f tested a
          evalTree start f tested b
      | .background body => do
          let st ← getState
          let pid := st.pid + 1 + st.nextPid
          let null ← match ← openFor "/dev/null" .input with
            | .ok c => pure (some c)
            | .error _ => pure none
          let ending ← inCopy start f
            (fun s => match null with
              | some c => { s with fds := (0, c) :: s.fds.filter (·.1 != 0) }
              | none => s)
            (evalTree start f false body)
          modifyState fun s => { s with lastBackground := some pid, nextPid := s.nextPid + 1,
                                        jobs := s.jobs ++ [(pid, ending.status)], status := 0 }
      | .subshell line body redirs => do
          modifyState fun s => { s with line := line }
          let ending ← inCopy start f id (do
            let steps ← expandRedirs (substitute start f) redirs
            if ← applySteps (substitute start f) steps then evalTree start f tested body
            else
              setStatus 2
              throw .exit)
          noteEnding ending
          setStatus ending.status
          checkExit tested
      | .redirected line body redirs => do
          modifyState fun s => { s with line := line }
          let saved := (← getState).fds
          let steps ← expandRedirs (substitute start f) redirs
          if ← applySteps (substitute start f) steps then
            try evalTree start f tested body
            catch e => do
              modifyState fun s => { s with fds := saved }
              throw e
            modifyState fun s => { s with fds := saved }
          else
            modifyState fun s => { s with fds := saved }
            setStatus 2
      | .ifThen cond body orElse => do
          evalTree start f true cond
          if (← lastStatus) == 0 then evalTree start f tested body
          else
            match orElse with
            | some e => evalTree start f tested e
            | none => setStatus 0
      | .loop untilTrue cond body => do
          modifyState fun s => { s with loops := s.loops + 1 }
          let mut status := 0
          try
            for _ in [0:loopLimit] do
              match ← loopStep (evalTree start f true cond) with
              | .broke => break
              | .continued => continue
              | .normal => pure ()
              if ((← lastStatus) == 0) == untilTrue then break
              let r ← loopStep (evalTree start f tested body)
              status ← lastStatus
              match r with
              | .broke => break
              | _ => pure ()
          catch e => do
            modifyState fun s => { s with loops := s.loops - 1 }
            throw e
          modifyState fun s => { s with loops := s.loops - 1, status }
      | .forIn line name items body => do
          modifyState fun s => { s with line := line }
          let mut values : List Octets := []
          for w in items do
            values := values ++ (← expandFields (substitute start f) w)
          modifyState fun s => { s with loops := s.loops + 1 }
          let mut status := 0
          try
            for v in values do
              setVar name v
              let r ← loopStep (evalTree start f tested body)
              status ← lastStatus
              match r with
              | .broke => break
              | _ => pure ()
          catch e => do
            modifyState fun s => { s with loops := s.loops - 1 }
            throw e
          modifyState fun s => { s with loops := s.loops - 1, status }
      | .caseOf line subject arms => do
          modifyState fun s => { s with line := line }
          let sub := substitute start f
          let text ← expandWordText sub subject
          let mut chosen : Option (Option Cmd) := none
          for (pats, body) in arms do
            if chosen.isNone then
              for p in pats do
                if chosen.isNone then
                  let pat ← expandCasePattern sub p
                  if Glob.accepts pat text then chosen := some body
          match chosen with
          | some (some b) => evalTree start f tested b
          | _ => setStatus 0
      | .defun line name body => do
          modifyState fun s =>
            { s with funcs := (name, Cmd.defun line name body) :: s.funcs.filter (·.1 != name) }
          setStatus 0

/-- Runs a simple command. -/
def evalSimple (start : Starter) : Nat → Bool → Nat → List (String × Word) → List Word →
    List Redir → ScriptM Unit
  | 0, _, _, _, _, _ => pure ()
  | f + 1, tested, line, assigns, args, redirs => do
      modifyState fun s => { s with line := line, substStatus := 0 }
      let sub := substitute start f
      let mut argv : List Octets := []
      for w in args do
        argv := argv ++ (← expandFields sub w)
      let savedFds := (← getState).fds
      let steps ← expandRedirs sub redirs
      if !(← applySteps sub steps) then
        modifyState fun s => { s with fds := savedFds }
        setStatus 2
        return
      let mut saved : List (String × Option Var) := []
      let mut shown : List Octets := []
      try
        for (n, w) in assigns do
          let v ← expandValue sub w
          saved := saved ++ [(n, (← getState).var? n)]
          setVar n v
          shown := shown ++ [Octets.ofText n ++ "=" ++ v]
      catch e => do
        modifyState fun s => { s with fds := savedFds }
        throw e
      let st ← getState
      if st.opts.xtrace then
        let ps4 := (st.get? "PS4").getD ""
        let text := ps4 ++ " ".intercalate (shown ++ argv) ++ "\n"
        match savedFds.lookup 2 with
        | some c => liftWorld (modify fun w => match w.write c text with
            | .ok w' => w'
            | .error _ => w)
        | none => pure ()
      match argv with
      | [] => do
          modifyState fun s => { s with fds := savedFds }
          setStatus (← getState).substStatus
      | name :: _ => do
          let found ← findCommand name false (pathValue st)
          let permanent := match found with
            | .special _ => true
            | _ => false
          if !permanent then
            for (n, _) in saved do
              modifyState fun s => match s.var? n with
                | some v => s.putVar n { v with exported := true }
                | none => s
          let keepFds := found matches .special "exec" && argv.length == 1
          try
            runFound start f tested found argv
          catch e => do
            modifyState fun s => { s with fds := if keepFds then s.fds else savedFds }
            if !permanent then restoreVars saved
            throw e
          modifyState fun s => { s with fds := if keepFds then s.fds else savedFds }
          if !permanent then restoreVars saved

/-- Runs a command that was looked up, with its words. -/
def runFound (start : Starter) : Nat → Bool → Found → List Octets → ScriptM Unit
  | 0, _, _, _ => pure ()
  | f + 1, tested, found, argv => do
      let name := argv.headD ""
      match found with
      | .special b => do
          let _ ← runBuiltin start f tested b (argv.drop 1)
      | .builtin b => do
          try
            let _ ← runBuiltin start f tested b (argv.drop 1)
          catch e =>
            match e with
            | .error => pure ()
            | other => throw other
      | .function body =>
          match body with
          | .defun fline _ b => runFunction start f tested fline b argv
          | other => runFunction start f tested 0 other argv
      | .program path => do
          if !name.contains '/' then
            modifyState fun s => { s with hashed := (s.hashed.filter (·.1 != name)) ++ [(name, path)] }
          match ← tryExec start path argv with
          | .ok ending => do
              noteEnding ending
              setStatus ending.status
          | .error e => do
              let (msg, status) := execFailure name e
              warn msg
              setStatus status
      | .missing e => do
          warn (name ++ ": " ++ (if e == .noEntry || e == .notDirectory then "not found" else e.describe))
          setStatus 127

/-- Runs a built-in command: its status. -/
def runBuiltin (start : Starter) : Nat → Bool → String → List Octets → ScriptM Nat
  | 0, _, _, _ => pure 0
  | f + 1, tested, name, args =>
      match name with
      | "command" => do
          let saved := (← getState).builtinName
          modifyState fun s => { s with builtinName := some name }
          let (opts, rest) ← try readOpts "pvV" args catch e => do
            modifyState fun s => { s with builtinName := saved }
            throw e
          modifyState fun s => { s with builtinName := saved }
          match rest with
          | [] => asBuiltin name (pure 0)
          | c :: _ =>
              if opts.any (fun (o, _) => o == 'v' || o == 'V') then
                asBuiltin name (describeCommand c (opts.any (·.1 == 'V')))
              else do
                let st ← getState
                let path := if opts.any (·.1 == 'p') then
                    "/usr/local/sbin:/usr/local/bin:/usr/sbin:/usr/bin:/sbin:/bin"
                  else pathValue st
                let found ← findCommand c true path
                let found := match found with
                  | .special b => Found.builtin b
                  | other => other
                runFound start f tested found rest
                lastStatus
      | _ => asBuiltin name do
          match name with
          | "eval" => if args.isEmpty then pure 0 else evalString start f tested (" ".intercalate args)
          | "." => do
              let (_, rest) ← readOpts "" args
              match rest with
              | [] => pure 0
              | file :: _ => do
                  let st ← getState
                  let fs := (← getWorld).fs
                  let path ← if file.contains '/' then pure file
                    else
                      match (pathDirs (pathValue st)).find? (fun d =>
                          match fs.stat st.cwd (inDir d file) with
                          | .ok e => e.node.isRegular
                          | .error _ => false) with
                      | some d => pure (inDir d file)
                      | none => fail (file ++ ": not found")
                  let text ← match fs.stat st.cwd path with
                    | .ok e =>
                        match e.node with
                        | .file n => pure (fs.contentOf n)
                        | .directory => pure ""
                        | _ => pure ""
                    | .error e => fail ("cannot open " ++ path ++ ": " ++ openError false e)
                  modifyState fun s => { s with builtinName := none }
                  try evalString start f false text
                  catch e =>
                    match e with
                    | .returnFun => lastStatus
                    | other => throw other
          | "exec" =>
              match args with
              | [] => pure 0
              | _ => do
                  match ← execByName start args with
                  | .ok ending => throw (.ended ending)
                  | .error e => do
                      let (msg, status) := execFailure (args.headD "") e
                      warn msg
                      setStatus status
                      throw .exit
          | "exit" => do
              let st ← getState
              let code ← match args with
                | a :: _ => number a
                | [] => pure (st.trapStatus.getD st.status)
              setStatus code
              throw .exit
          | "return" => do
              let code ← match args with
                | a :: _ => number a
                | [] => lastStatus
              setStatus code
              throw .returnFun
          | "break" | "continue" => do
              let n ← match args with
                | a :: _ => number a
                | [] => pure 1
              if n == 0 then fail ("Illegal number: " ++ args.headD "")
              let n := min n (← getState).loops
              if n > 0 then
                setStatus 0
                throw (if name == "break" then .breakLoop n else .continueLoop n)
              pure 0
          | _ =>
              match runSimpleBuiltin name args with
              | some x => x
              | none => pure 0

/-- Runs a function with its words: the parameters are the words after the name, and the
variables made local are put back when it returns. -/
def runFunction (start : Starter) : Nat → Bool → Nat → Cmd → List Octets → ScriptM Unit
  | 0, _, _, _, _ => pure ()
  | f + 1, tested, fline, body, argv => do
      let saved ← getState
      modifyState fun s => { s with params := argv.drop 1, optIndex := 1, optOffset := none,
                                    loops := 0, depth := s.depth + 1, funcLine := fline,
                                    locals := [] :: s.locals }
      let outcome ← try
          evalTree start f tested body
          pure none
        catch e =>
          match e with
          | .returnFun => pure none
          | other => pure (some other)
      restoreLocals ((← getState).locals.headD [])
      modifyState fun s => { s with params := saved.params, optIndex := saved.optIndex,
                                    optOffset := saved.optOffset, loops := saved.loops,
                                    depth := saved.depth, funcLine := saved.funcLine,
                                    locals := saved.locals }
      match outcome with
      | some e => throw e
      | none => pure ()

/-- Runs a pipeline: each stage in a copy of the shell, reading what the one before wrote.
Its status is the last stage's. -/
def evalPipe (start : Starter) : Nat → Bool → List Cmd → ScriptM Unit
  | 0, _, _ => pure ()
  | f + 1, tested, stages => do
      let mut input : Option Nat := none
      let mut last : Ending := .exited 0
      let n := stages.length
      for (c, i) in stages.zip (List.range n) do
        let ends ← if i + 1 == n then pure none else some <$> pipeWith ""
        let from_ := input
        let ending ← inCopy start f (fun s =>
            let fds := match from_ with
              | some r => (0, r) :: s.fds.filter (·.1 != 0)
              | none => s.fds
            let fds := match ends with
              | some (_, wr) => (1, wr) :: fds.filter (·.1 != 1)
              | none => fds
            { s with fds })
          (evalTree start f tested c)
        noteEnding ending
        input := ends.map (·.1)
        last := ending
      setStatus last.status

/-- Runs a computation in a copy of the shell: how the copy ended.  The copy's own exit trap
runs when it ends. -/
def inCopy (start : Starter) : Nat → (Interp → Interp) → ScriptM Unit → ScriptM Ending
  | 0, _, _ => pure (.exited 0)
  | f + 1, setup, body => do
      let outer ← getState
      modifyState fun s => setup (copyOf s)
      let outcome ← try
          body
          pure none
        catch e => pure (some e)
      let ending ← match outcome with
        | some (.killed s) => pure (Ending.signaled s)
        | some (.ended e) => pure e
        | _ => do
            let _ ← flushOut
            let code ← lastStatus
            runExitTrap start f code
      let inner ← getState
      set (afterCopy outer inner)
      pure ending

/-- Runs the exit trap, if one is set, after a shell's commands ended with status `code`: how
the shell ends. -/
def runExitTrap (start : Starter) : Nat → Nat → ScriptM Ending
  | 0, code => pure (.exited code)
  | f + 1, code => do
      match (← getState).traps.lookup 0 with
      | none => pure (.exited code)
      | some action => do
          modifyState fun s => { s with traps := s.traps.filter (·.1 != 0), trapStatus := some code,
                                        status := code }
          let outcome ← try
              let _ ← evalString start f false action
              pure none
            catch e => pure (some e)
          match outcome with
          | some .exit => pure (.exited (← lastStatus))
          | some (.killed s) => pure (.signaled s)
          | some (.ended e) => pure e
          | some .error => pure (.exited (← lastStatus))
          | _ => pure (.exited code)

/-- Runs a command substitution: what the command wrote to its standard output. -/
def substitute (start : Starter) : Nat → Option Cmd → ScriptM Octets
  | 0, _ => pure ""
  | _, none => pure ""
  | f + 1, some c => do
      let (r, wr) ← pipeWith ""
      let ending ← inCopy start f (fun s => { s with fds := (1, wr) :: s.fds.filter (·.1 != 1) })
        (evalTree start f false c)
      let out ← drain r
      modifyState fun s => { s with substStatus := ending.status }
      pure out

/-- Handles the signals the shell sent itself: runs their traps, ignores them, or ends the
shell. -/
def handleSignals (start : Starter) : Nat → ScriptM Unit
  | 0 => pure ()
  | f + 1 => do
      let st ← getState
      match st.signals with
      | [] => pure ()
      | sig :: rest => do
          modifyState fun s => { s with signals := rest }
          let action := if sig == 9 || sig == 19 then none else st.traps.lookup sig
          match action with
          | some a =>
              if !a.isEmpty then
                let status := st.status
                let _ ← evalString start f false a
                setStatus status
          | none =>
              if [17, 18, 19, 20, 21, 22, 23, 28].contains sig then pure ()
              else throw (.killed sig)
          handleSignals start f

/-- Reads and runs the commands of a text one line at a time, as `eval` and `.` do: the status
of the last one, or 0 when there is none. -/
def evalString (start : Starter) : Nat → Bool → Octets → ScriptM Nat
  | 0, _, _ => pure 0
  | f + 1, tested, text => do
      let st ← getState
      let mut reader : Reader := { input := text.toList, aliases := st.aliases, nextDoc := st.nextDoc }
      let mut status := 0
      for _ in [0:text.length + 2] do
        reader := { reader with aliases := (← getState).aliases, docs := [] }
        match (Reader.nextCommand).run reader with
        | .error e => do
            modifyState fun s => { s with line := e.line }
            fail ("Syntax error: " ++ e.message)
        | .ok (none, _) => break
        | .ok (some c, r) => do
            reader := r
            modifyState fun s => { s with docs := s.docs ++ r.docs, nextDoc := r.nextDoc }
            match c with
            | none => pure ()
            | some cmd => do
                evalTree start f tested cmd
                status ← lastStatus
      pure status

end

end Conch.Script
