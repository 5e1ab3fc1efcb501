/-!
# Exit statuses

An exit status is a number from 0 to 255.  A few have a meaning of their own: success,
a general error, a usage error, a command that cannot be executed or was not found, and
the deaths by an interrupt or a quit signal.

A process that ended is folded into a status: a normal exit keeps its code modulo 256, and a
death by signal `s` gives `128 + s`.  The interrupt and quit signals (2 and 3) give 130 and
131 and also make the shell print a line break or a `Quit` notice, which says so when the
process left a core image.

A pipeline's status is its last stage's ending folded so; when no ending of the last stage
was seen, it is a general error.  Waiting for a process reports a death by the signals 1 to 31
only: waiting for one that a real-time signal killed fails.

Main definitions: `ExitKind.ofCode`, `Ending.status` and `Ending.foldStatus`.
-/

namespace Conch

/-- The named exit statuses, and the rest. -/
inductive ExitKind where
  | success
  | generalError
  | invalidUsage
  | cannotExecute
  | notFound
  | interrupted
  | quit
  | custom (code : Nat)
  deriving DecidableEq, Repr

namespace ExitKind

/-- The name a status has, if it has one. -/
def ofCode (code : Nat) : ExitKind :=
  match code with
  | 0 => .success
  | 1 => .generalError
  | 2 => .invalidUsage
  | 126 => .cannotExecute
  | 127 => .notFound
  | 130 => .interrupted
  | 131 => .quit
  | n => .custom n

/-- The number of a named status. -/
def code : ExitKind → Nat
  | .success => 0
  | .generalError => 1
  | .invalidUsage => 2
  | .cannotExecute => 126
  | .notFound => 127
  | .interrupted => 130
  | .quit => 131
  | .custom n => n

end ExitKind

/-- How a child process ended. -/
inductive Ending where
  /-- It exited with a code. -/
  | exited (code : Nat)
  /-- A signal killed it. -/
  | signaled (signal : Nat)
  deriving DecidableEq, Repr, Inhabited

/-- The number of the interrupt signal. -/
def sigint : Nat := 2

/-- The number of the quit signal. -/
def sigquit : Nat := 3

/-- The status a process's ending folds into. -/
def Ending.status : Ending → Nat
  | .exited code => code % 256
  | .signaled s => if s == sigint then 130 else if s == sigquit then 131 else (128 + s) % 256

/-- What the shell prints on its error stream when it folds an ending; `core` tells whether a
death by the quit signal left a core image. -/
def Ending.notice (core : Bool) : Ending → String
  | .signaled s =>
      if s == sigint then "\n"
      else if s == sigquit then (if core then "Quit (core dumped)\n" else "Quit\n")
      else ""
  | .exited _ => ""

/-- Whether waiting for a process that ended so can report it: waiting names the signals 1 to
31 only, so it cannot report a death by a higher (real-time) signal, and fails instead. -/
def Ending.reportable : Ending → Bool
  | .exited _ => true
  | .signaled s => 0 < s && s < 32

/-- The status of a pipeline whose last stage ended as given: its ending folded, and a general
error when no ending of the last stage was seen. -/
def Ending.foldStatus : Option Ending → Nat
  | some e => e.status
  | none => ExitKind.generalError.code

/-- What the shell prints when it folds the ending of a pipeline's last stage. -/
def Ending.foldNotice (core : Bool) : Option Ending → String
  | some e => e.notice core
  | none => ""

end Conch
