import Conch.Session.State
import Conch.Session.Input
import Conch.Syntax.Check
import Conch.Expand.Word

/-!
# Building a pipeline

An expanded line becomes one command per `|`-separated stage.  A command's arguments are the
fields of its words that are not redirection operands, in order, and its name is the first of
them.  Its redirections are applied from left to right, and the last one in each direction
wins:

* `< FILE` opens the file for reading, `> FILE` creates or empties it, `>> FILE` creates it or
  keeps its text to append to.  A relative name is looked up from the working directory.
  Files are opened while the line is built, before any stage runs, so a stage that removes a
  file does not take it from a stage that opened it.
* An operand that did not expand to exactly one field is an ambiguous redirect.
* `<< LIMITER` reads a here-document: the lines of the shell's input up to the first line
  equal to the limiter, or up to the end of the input (which is warned about).  Unless the
  limiter has a quoted piece, each line is expanded as a double-quoted text would be.  The
  body goes to the file `.heredoc_N` in the working directory, made or emptied, which is then
  opened again by its name to become the input.  A body that cannot be written fails the line;
  an interrupt that stops the reader (the shell is told which, with its launch) aborts it.

After a command's first failing redirection (an ambiguous operand, or a file that cannot be
opened) no further file of that command is opened and the command will not run, but its
here-documents are still read, so that the input stays in step.  The failures of a stage are
reported once its words are done.

A line with parentheses, or with more than sixteen here-documents, is refused before any
here-document is read.

Main definitions: `Command`, `LineError` and `buildCommands`.
-/

namespace Conch

/-- The state of one direction of a command's redirections. -/
inductive Redirection (α : Type) where
  /-- None was given: the stage's own stream is used. -/
  | inherit
  /-- One failed: the command will not run. -/
  | failed
  /-- The last one opened. -/
  | opened (a : α)
  deriving DecidableEq, Repr

/-- Whether a redirection failed. -/
def Redirection.isFailed {α : Type} : Redirection α → Bool
  | .failed => true
  | _ => false

/-- One stage of a pipeline, ready to run. -/
structure Command where
  /-- The arguments, the command's name first. -/
  args : List String := []
  /-- The open file its standard input comes from. -/
  input : Redirection Nat := .inherit
  /-- The open file its standard output goes to. -/
  output : Redirection Nat := .inherit
  /-- The messages of its failed redirections. -/
  errors : List String := []
  deriving Repr

namespace Command

/-- Whether a redirection of the command failed. -/
def isFailed (c : Command) : Bool := c.input.isFailed || c.output.isFailed

/-- The command's name. -/
def name? (c : Command) : Option String := c.args.head?

/-- Marks the direction of a redirection as failed, with its message. -/
def fail (c : Command) (r : Redirect) (message : String) : Command :=
  match r with
  | .input | .heredoc => { c with input := .failed, errors := c.errors ++ [message] }
  | .output | .append => { c with output := .failed, errors := c.errors ++ [message] }

end Command

/-- Why a line was abandoned before it ran. -/
inductive LineError where
  /-- It breaks the grammar. -/
  | grammar (e : Syntax.SyntaxError)
  /-- A quotation is left open. -/
  | unclosed (e : Syntax.UnclosedQuote)
  /-- It has parentheses. -/
  | subshell
  /-- It has more than sixteen here-documents. -/
  | tooManyHeredocs
  /-- A here-document file could not be made. -/
  | heredocFile (e : Errno)
  /-- The reader of a here-document failed. -/
  | heredocFailed
  /-- The reader of a here-document was interrupted. -/
  | heredocAborted
  /-- A call to the system failed. -/
  | system (e : Errno)
  deriving Repr

namespace LineError

/-- The message that reports the error. -/
def message : LineError → String
  | .grammar e => e.message
  | .unclosed e => e.message
  | .subshell => "subshell grouping is not supported"
  | .tooManyHeredocs => "maximum here-document count exceeded"
  | .heredocFile e => e.withNumber
  | .heredocFailed => "failed to capture here-document"
  | .heredocAborted => "here-document capture aborted"
  | .system e => "system error: " ++ e.name ++ ": " ++ e.describe

/-- The status the line ends with. -/
def status : LineError → Nat
  | .grammar _ | .subshell | .tooManyHeredocs => 2
  | .heredocAborted => 130
  | .unclosed _ | .heredocFile _ | .heredocFailed | .system _ => 1

/-- Reports the error on the shell's error stream; an interrupted here-document is not
reported. -/
def report (err : LineError) (w : World) : World :=
  match err with
  | .heredocAborted => w
  | err => w.report err.message

end LineError

/-- The most here-documents one line may have. -/
def heredocLimit : Nat := 16

/-- The warning for a here-document that the end of the input cut short. -/
def heredocWarning (limiter : String) : String :=
  shellName ++ ": warning: here-document delimited by end-of-file (wanted `" ++ limiter ++ "')\n"

/-- How the reading of a here-document body ended. -/
inductive BodyEnd where
  /-- The limiter line came. -/
  | limiter
  /-- The input ended first. -/
  | endOfInput
  /-- An interrupt stopped the reader. -/
  | interrupted
  deriving DecidableEq, Repr

/-- Reads a here-document body from the shell's input; an interrupt comes once `fuel` lines are
taken.  Gives the body's text, the world after it, and how the reading ended. -/
def readBody (limiter : String) (expand : String → String) :
    Nat → String → World → String × World × BodyEnd
  | 0, acc, w => (acc, w, .interrupted)
  | fuel + 1, acc, w =>
      match w.nextLine with
      | none => (acc, w, .endOfInput)
      | some (line, w) =>
          if line == limiter then (acc, w, .limiter)
          else readBody limiter expand fuel (acc ++ expand line ++ "\n") w

/-- How many lines the shell's input can still give: each takes at least one octet. -/
def linesLeft (w : World) : Nat :=
  match w.available 0 with
  | .ok t => t.length + 1
  | .error _ => 1

/-- How many body lines the reader of the here-document numbered `n` takes before an interrupt
stops it; with no interrupt for it, more lines than the input can give. -/
def Shell.readerFuel (sh : Shell) (w : World) (n : Nat) : Nat :=
  (sh.interrupts.lookup n).getD (linesLeft w)

/-- Reads the here-document whose limiter is `limiter` into its file: the shell (which counts
the file and will remove it), the world (the body read from its input, the file written), and
the open file the command reads it from.

The body is read by a helper that writes it to the file once it is read, after the warning
about an early end of the input; an interrupted helper writes what it has and the capture is
aborted, and a helper that cannot write reports why and fails. -/
def captureHeredoc (sh : Shell) (w : World) (limiter : Word) :
    Shell × World × Except LineError Nat :=
  let path := Octets.ofText (Path.join sh.cwd (".heredoc_" ++ toString sh.heredocCount))
  let fuel := sh.readerFuel w sh.heredocCount
  let sh := { sh with heredocCount := sh.heredocCount + 1,
                      heredocFiles := sh.heredocFiles ++ [path] }
  let cwd := sh.physicalCwd w.fs
  match w.openPath standardFds cwd path (.replacing 0o600) with
  | .error e => (sh, w, .error (.heredocFile e))
  | .ok (w, sink) =>
      let expand := if limiter.isQuoted then id else sh.scope.expandLine
      let (body, w, ending) := readBody limiter.text expand fuel "" w
      match ending with
      | .interrupted =>
          let w := match w.write sink (Octets.ofText body) with
            | .ok w => w
            | .error _ => w
          (sh, w, .error .heredocAborted)
      | _ =>
          let w := if ending == .endOfInput then w.warn (heredocWarning limiter.text) else w
          match w.write sink (Octets.ofText body) with
          | .error e => (sh, w.report e.withNumber, .error .heredocFailed)
          | .ok w =>
              match w.openPath standardFds cwd path .reading with
              | .ok (w, src) => (sh, w, .ok src)
              | .error e => (sh, w, .error (.heredocFile e))

/-- How the target of a redirection is opened: for reading, for appending, or emptied for
writing (a here-document's file is opened by its capture). -/
def Redirect.opening : Redirect → Opening
  | .input => .reading
  | .append => .appending 0o644
  | _ => .replacing 0o644

/-- Applies the redirection `r` with operand `operand` to a command. -/
def applyRedirect (sh : Shell) (w : World) (c : Command) (r : Redirect) (operand : Word) :
    Shell × World × Except LineError Command :=
  match r with
  | .heredoc =>
      match captureHeredoc sh w operand with
      | (sh, w, .ok src) => (sh, w, .ok (if c.isFailed then c else { c with input := .opened src }))
      | (sh, w, .error e) => (sh, w, .error e)
  | _ =>
      if c.isFailed then (sh, w, .ok c)
      else
        match (if operand.ambiguous then none else operand.resolvedFile) with
        | none => (sh, w, .ok (c.fail r (operand.raw ++ ": ambiguous redirect")))
        | some file =>
            let cwd := sh.physicalCwd w.fs
            match w.openPath standardFds cwd (Octets.ofText file) r.opening with
            | .ok (w, ch) =>
                (sh, w, .ok (if r == .input then { c with input := .opened ch }
                             else { c with output := .opened ch }))
            | .error e => (sh, w, .ok (c.fail r (file ++ ": " ++ e.describe)))

/-- Adds one token of a stage to its command. -/
def addToken (acc : Shell × World × Except LineError Command) (t : Token) :
    Shell × World × Except LineError Command :=
  match acc with
  | (sh, w, .ok c) =>
      match t with
      | .word wd _ =>
          match wd.redirect with
          | some r => applyRedirect sh w c r wd
          | none => (sh, w, .ok { c with args := c.args ++ wd.fields })
      | .op _ _ => (sh, w, .ok c)
  | failure => failure

/-- Builds the command of one stage and reports its failed redirections. -/
def buildStage (sh : Shell) (w : World) (tokens : List Token) :
    Shell × World × Except LineError Command :=
  match tokens.foldl addToken (sh, w, .ok {}) with
  | (sh, w, .ok c) => (sh, c.errors.foldl World.report w, .ok c)
  | failure => failure

/-- The stages of a line: its tokens split at the pipes. -/
def stages (tokens : List Token) : List (List Token) :=
  let (done, current) := tokens.foldl (fun (acc : List (List Token) × List Token) t =>
    if t.operator? == some .pipe then (acc.1 ++ [acc.2], []) else (acc.1, acc.2 ++ [t])) ([], [])
  done ++ [current]

/-- Whether a token is a parenthesis. -/
def isParen (t : Token) : Bool :=
  t.operator? == some .openGroup || t.operator? == some .closeGroup

/-- Whether a token is a here-document operator. -/
def isHeredocOperator (t : Token) : Bool := t.operator? == some (.redirect .heredoc)

/-- Builds the commands of an expanded line. -/
def buildCommands (sh : Shell) (w : World) (tokens : List Token) :
    Shell × World × Except LineError (List Command) :=
  if tokens.any isParen then (sh, w, .error .subshell)
  else if (tokens.filter isHeredocOperator).length > heredocLimit then
    (sh, w, .error .tooManyHeredocs)
  else
    (stages tokens).foldl (fun acc stage =>
      match acc with
      | (sh, w, .ok cs) =>
          match buildStage sh w stage with
          | (sh, w, .ok c) => (sh, w, .ok (cs ++ [c]))
          | (sh, w, .error e) => (sh, w, .error e)
      | failure => failure) (sh, w, .ok [])

end Conch
