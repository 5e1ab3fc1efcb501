import Conch.Script.Syntax
import Conch.Programs.Basic

/-!
# The state of the system shell

While it runs a script the system shell keeps its variables (each set or not, exported or
not, read-only or not), the positional parameters and `$0`, its functions and aliases, its
option letters, the status of the last command, its own open descriptors, its working
directory, its file-creation mask, its traps, and where it stands: how many loops and
function calls it is inside, the line of the command it runs and the name of the built-in
command it runs, which its messages start with.

A script runs as a computation on this state and on the shared world (`ScriptM`).  It can
stop early: `break` and `continue` leave loops, `return` leaves a function, `exit` and an
error leave the shell, and a signal may end it.  Leaving early keeps every change made
before it.

Messages go to the standard error as `NAME: LINE: ` and the message, where `NAME` is `$0`;
a built-in command's message has its name after the line.  An error ends a script that is
not interactive with status 2.

Variables are listed in the order the shell keeps them: by a hash of the name in 39
buckets, and in each bucket in the order they were made.  That is the order of the
environment of every program the shell starts.

Main definitions: `Interp`, `ScriptM`, `Unwind`, `Interp.setVar` and `fail`.
-/

namespace Conch.Script

/-- A variable. -/
structure Var where
  /-- The value, when the variable is set. -/
  value : Option Octets := none
  /-- Handed to the programs the shell starts. -/
  exported : Bool := false
  /-- May not be changed or unset. -/
  readOnly : Bool := false
  deriving Repr, Inhabited

/-- The options of the shell, each with its letter and its long name, in the order the shell
keeps them.  The two options without a letter are given digits here, which `$-` leaves out. -/
def optionTable : List (Char × String) :=
  [('e', "errexit"), ('f', "noglob"), ('I', "ignoreeof"), ('i', "interactive"), ('m', "monitor"),
   ('n', "noexec"), ('s', "stdin"), ('x', "xtrace"), ('v', "verbose"), ('V', "vi"),
   ('E', "emacs"), ('C', "noclobber"), ('a', "allexport"), ('b', "notify"), ('u', "nounset"),
   ('0', "nolog"), ('p', "privileged"), ('1', "debug")]

/-- The options of the shell that are on, by letter. -/
structure Options where
  on : List Char := []
  deriving Repr, Inhabited

namespace Options

/-- Whether an option is on. -/
def has (o : Options) (c : Char) : Bool := o.on.contains c

/-- Turns an option on or off. -/
def set (o : Options) (c : Char) (v : Bool) : Options :=
  if v then (if o.has c then o else { on := o.on ++ [c] }) else { on := o.on.filter (· != c) }

/-- `-e`: a failing command ends the shell. -/
def errexit (o : Options) : Bool := o.has 'e'

/-- `-f`: no file name matching. -/
def noglob (o : Options) : Bool := o.has 'f'

/-- `-u`: an unset parameter is an error. -/
def nounset (o : Options) : Bool := o.has 'u'

/-- `-x`: each simple command is written to the error stream first. -/
def xtrace (o : Options) : Bool := o.has 'x'

/-- `-v`: each line is written to the error stream as it is read. -/
def verbose (o : Options) : Bool := o.has 'v'

/-- `-C`: `>` does not overwrite an existing file. -/
def noclobber (o : Options) : Bool := o.has 'C'

/-- `-a`: every variable set is exported. -/
def allexport (o : Options) : Bool := o.has 'a'

/-- `-n`: commands are read and not run. -/
def noexec (o : Options) : Bool := o.has 'n'

end Options

/-- Why a computation stopped before its end. -/
inductive Unwind where
  /-- `break`, for this many loops more. -/
  | breakLoop (n : Nat)
  /-- `continue`, for this many loops more. -/
  | continueLoop (n : Nat)
  /-- `return` from a function. -/
  | returnFun
  /-- The shell exits with its status. -/
  | exit
  /-- An error, already reported, ends the shell with its status. -/
  | error
  /-- A signal ends the shell. -/
  | killed (signal : Nat)
  /-- The shell was replaced by a program (`exec`), which ended so. -/
  | ended (e : Ending)
  deriving Repr, Inhabited

/-- The state of a running script. -/
structure Interp where
  /-- The variables, in the order they were made. -/
  vars : List (String × Var)
  /-- The positional parameters. -/
  params : List Octets
  /-- `$0`, which messages start with. -/
  arg0 : Octets
  /-- The functions. -/
  funcs : List (String × Cmd) := []
  /-- The aliases. -/
  aliases : List (String × String) := []
  /-- The options. -/
  opts : Options := {}
  /-- The status of the last command. -/
  status : Nat := 0
  /-- The status of the last command substitution of the command being run. -/
  substStatus : Nat := 0
  /-- The open descriptors. -/
  fds : Fds
  /-- The working directory, without symbolic links. -/
  cwd : Octets
  /-- The file-creation mask. -/
  umask : Nat
  /-- The traps: what to run for each signal (0 for the shell's exit); empty to ignore it. -/
  traps : List (Nat × Octets) := []
  /-- How many loops the command being run is inside, in the innermost function. -/
  loops : Nat := 0
  /-- How many function calls are running. -/
  depth : Nat := 0
  /-- The line the running function was defined on, 0 outside functions. -/
  funcLine : Nat := 0
  /-- The variables saved by `local` in each running function, innermost first. -/
  locals : List (List (String × Option Var)) := []
  /-- The line of the command being run. -/
  line : Nat := 0
  /-- The built-in command being run, which its messages name. -/
  builtinName : Option String := none
  /-- The texts of the here-documents read, by number. -/
  docs : List (Nat × HereDoc) := []
  /-- The number the next here-document gets. -/
  nextDoc : Nat := 0
  /-- The process number, `$$`. -/
  pid : Nat
  /-- The process number of the last background command, `$!`. -/
  lastBackground : Option Nat := none
  /-- Where `getopts` stands inside the current word, when it is inside one. -/
  optOffset : Option Nat := none
  /-- Whether this is a copy of the shell: a subshell, a pipeline stage or a substitution. -/
  isCopy : Bool := false
  /-- What a built-in command has written to the standard output and is not yet flushed. -/
  pending : Octets := ""
  /-- The working directory as the shell names it, symbolic links kept: `$PWD`. -/
  curdir : Octets := "/"
  /-- The index of the next argument `getopts` reads. -/
  optIndex : Nat := 1
  /-- The programs found by a search of `PATH`, by name. -/
  hashed : List (String × Octets) := []
  /-- The background commands that ended, by process number, with their statuses. -/
  jobs : List (Nat × Nat) := []
  /-- The process number the next background command gets. -/
  nextPid : Nat := 0
  /-- The signals sent to the shell and not yet handled. -/
  signals : List Nat := []
  /-- While a trap runs, the status from before it. -/
  trapStatus : Option Nat := none
  /-- The signals a copy of the shell sent to the shell it was copied from. -/
  raised : List Nat := []
  deriving Inhabited

/-- A computation of a running script. -/
abbrev ScriptM := ExceptT Unwind (StateT Interp Proc)

/-- Runs a computation on the world. -/
def liftWorld {α : Type} (x : Proc α) : ScriptM α := ExceptT.lift (StateT.lift x)

/-- The bucket the shell keeps a variable in. -/
def bucket (name : String) : Nat :=
  let bs := (Octets.ofText name).toList.map Char.toNat
  (bs.headD 0 * 16 + bs.foldl (· + ·) 0) % 39

/-- Variables in the order the shell lists them: by bucket, and in each bucket as they were
made. -/
def listOrder {α : Type} (vs : List (String × α)) : List (String × α) :=
  vs.mergeSort (fun a b => bucket a.1 ≤ bucket b.1)

namespace Interp

/-- The variable of a name, if there is one. -/
def var? (st : Interp) (name : String) : Option Var := st.vars.lookup name

/-- The value of a variable, if it is set. -/
def get? (st : Interp) (name : String) : Option Octets := (st.var? name).bind (·.value)

/-- Replaces or adds a variable. -/
def putVar (st : Interp) (name : String) (v : Var) : Interp :=
  if st.vars.any (·.1 == name) then
    { st with vars := st.vars.map fun e => if e.1 == name then (name, v) else e }
  else { st with vars := st.vars ++ [(name, v)] }

/-- Removes a variable. -/
def dropVar (st : Interp) (name : String) : Interp :=
  { st with vars := st.vars.filter (·.1 != name) }

/-- The environment of a started program: every exported variable that is set, in the
shell's order, with `extra` put in. -/
def environ (st : Interp) : List Octets :=
  (listOrder st.vars).filterMap fun (n, v) =>
    if v.exported then v.value.map (fun x => Octets.ofText n ++ "=" ++ x) else none

/-- The field separators: `IFS`, or blank, tab and newline when it is unset. -/
def ifs (st : Interp) : Octets := (st.get? "IFS").getD " \t\n"

/-- The option letters, as `$-` shows them. -/
def flags (st : Interp) : String :=
  String.ofList ((optionTable.map Prod.fst).filter fun c => st.opts.has c && !isDigitChar c)

end Interp

/-- The state of the running script. -/
def getState : ScriptM Interp := getThe Interp

/-- Changes the state of the running script. -/
def modifyState (f : Interp → Interp) : ScriptM Unit := modifyThe Interp f

/-- The world. -/
def getWorld : ScriptM World := liftWorld get

/-- Writes octets to one of the shell's descriptors. -/
def writeFd (fd : Nat) (text : Octets) : ScriptM (Except Errno Unit) := do
  let st ← getState
  liftWorld do
    match (← get).writeFd st.fds fd text with
    | .ok w => do
        set w
        pure (.ok ())
    | .error e => pure (.error e)

/-- Writes to the standard error, whether or not it can be written. -/
def writeErr (text : Octets) : ScriptM Unit := do
  let _ ← writeFd 2 text

/-- The start of a message: `$0`, the line and the built-in command being run. -/
def messagePrefix : ScriptM Octets := do
  let st ← getState
  let name := match st.builtinName with
    | some b => Octets.ofText b ++ ": "
    | none => ""
  return st.arg0 ++ ": " ++ toString st.line ++ ": " ++ name

/-- Writes a message to the standard error. -/
def warn (msg : Octets) : ScriptM Unit := do
  writeErr ((← messagePrefix) ++ msg ++ "\n")

/-- Adds octets to what a built-in command writes to the standard output. -/
def out1 (text : Octets) : ScriptM Unit :=
  modifyState fun st => { st with pending := st.pending ++ text }

/-- Writes what a built-in command has written so far to the standard output. -/
def flushOut : ScriptM (Except Errno Unit) := do
  let text := (← getState).pending
  modifyState fun st => { st with pending := "" }
  writeFd 1 text

/-- Reports an error and stops: status 2.  The output written so far is flushed after the
message. -/
def fail {α : Type} (msg : Octets) : ScriptM α := do
  warn msg
  let _ ← flushOut
  modifyState fun st => { st with status := 2 }
  throw .error

/-- Sets a variable, refusing one that is read-only. -/
def setVar (name : String) (value : Octets) : ScriptM Unit := do
  let st ← getState
  let v := (st.var? name).getD {}
  if v.readOnly then fail (Octets.ofText name ++ ": is read only")
  modifyState fun st =>
    st.putVar name { v with value := some value, exported := v.exported || st.opts.allexport }

/-- Unsets a variable, refusing one that is read-only. -/
def unsetVar (name : String) : ScriptM Unit := do
  let st ← getState
  match st.var? name with
  | some v =>
      if v.readOnly then fail (Octets.ofText name ++ ": is read only")
      modifyState fun st => st.dropVar name
  | none => pure ()

end Conch.Script
