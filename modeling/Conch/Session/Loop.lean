import Conch.Session.Run
import Conch.Config.Settings
import Conch.Startup.Level

/-!
# A whole run of the shell

The shell takes no arguments; given any, it prints its usage and exits with status 1.

Otherwise it reads its configuration file, `nacre/config.toml` in the configuration
directory (`XDG_CONFIG_HOME` when that is an absolute path, else `.config` in the home
directory); a file that is missing, not UTF-8 or malformed counts as empty, and one that is
there but cannot be read is warned about.  It takes its variables from its environment, raises
`SHLVL`, records its working directory in `PWD`, and loads its history from the history file
(`.nacre_history` in the starting directory unless the configuration names another), warning
when the file is there but cannot be read.

It then runs its input line by line until the input ends, which exits with the last status,
or until `exit` asks it to stop.  A line may write into the shell's own input and so make it
longer; the model lets at most `feedLimit` lines do so.  Last it saves its history, creating
the file if need be, and warns when it cannot.

Main definitions: `Launch` and `Launch.run`.
-/

namespace Conch

/-- What the shell starts with. -/
structure Launch where
  /-- Its command-line arguments, its own name left out. -/
  args : List String
  /-- Its environment, in order. -/
  env : List (String × String)
  /-- Its working directory, an absolute path without symbolic links. -/
  cwd : String
  /-- The file system. -/
  fs : Fs
  /-- What waits on its standard input. -/
  input : Octets
  /-- Its process number. -/
  pid : Nat
  /-- The interrupts its here-document readers get, by here-document number, each with how
  many body lines are taken when it comes. -/
  interrupts : List (Nat × Nat) := []
  /-- Whether its limit on core images is above zero. -/
  dumpsCore : Bool := false

/-- What a run of the shell leaves behind: the world and its exit status. -/
structure Finish where
  world : World
  status : Nat
  deriving Repr

/-- The default capacity of the history. -/
def defaultHistorySize : Nat := 500

/-- The default name of the history file. -/
def defaultHistoryFile : String := ".nacre_history"

/-- Where the configuration file is, if a home directory can be found. -/
def configPath (env : List (String × String)) : String :=
  let base := match env.lookup "XDG_CONFIG_HOME" with
    | some d => if Path.isAbsolute d then d
        else Path.join (homeDir env) ".config"
    | none => Path.join (homeDir env) ".config"
  Path.join (Path.join base "nacre") "config.toml"
where
  /-- The home directory: `HOME` unless it is empty, else the user's entry. -/
  homeDir (env : List (String × String)) : String :=
    match env.lookup "HOME" with
    | some h => if h.isEmpty then "/root" else h
    | none => "/root"

/-- Why the text of a file could not be read. -/
inductive ReadError where
  /-- Opening or reading the file failed. -/
  | system (e : Errno)
  /-- Its octets are not UTF-8. -/
  | notText
  deriving DecidableEq, Repr

/-- The message of a read error, as the standard library gives it. -/
def ReadError.message : ReadError → String
  | .system e => e.withNumber
  | .notText => "stream did not contain valid UTF-8"

/-- The text of the file a path names.  A program's file is machine code, not text; a device
reads as empty. -/
def readText (fs : Fs) (cwd : Octets) (path : String) : Except ReadError String :=
  match fs.stat cwd (Octets.ofText path) with
  | .error e => .error (.system e)
  | .ok ⟨.file n, _⟩ =>
      match (fs.contentOf n).toText? with
      | some text => .ok text
      | none => .error .notText
  | .ok ⟨.directory, _⟩ => .error (.system .isDirectory)
  | .ok ⟨.program _, _⟩ => .error .notText
  | .ok _ => .ok ""

/-- The settings the configuration file gives; defaults when it is missing, unreadable or
malformed. -/
def loadSettings (fs : Fs) (cwd : Octets) (env : List (String × String)) : Settings :=
  match readText fs cwd (configPath env) with
  | .ok text => (Settings.ofText text).getD {}
  | .error _ => {}

/-- The warning about a configuration file that is there but cannot be read. -/
def settingsWarning (fs : Fs) (cwd : Octets) (env : List (String × String)) : Option String :=
  let path := configPath env
  match fs.stat cwd (Octets.ofText path) with
  | .error _ => none
  | .ok _ =>
      match readText fs cwd path with
      | .error e => some (path ++ ": failed to read config file: " ++ e.message)
      | .ok _ => none

/-- The history a file holds; empty when it cannot be read. -/
def loadHistory (fs : Fs) (path : String) (capacity : Nat) : History :=
  match readText fs "/" path with
  | .ok text => History.ofFile capacity text
  | .error _ => History.empty capacity

/-- The warning about a history file that cannot be loaded; a missing one is no error. -/
def historyWarning (fs : Fs) (path : String) : Option String :=
  match readText fs "/" path with
  | .ok _ | .error (.system .noEntry) => none
  | .error e => some ("failed to load history from " ++ path ++ ": " ++ e.message)

/-- The warning that the history could not be saved. -/
def saveWarning (e : Errno) : String := "failed to save history: " ++ e.withNumber

/-- Writes the history to its file; a file that cannot be written is warned about. -/
def saveHistory (sh : Shell) (w : World) : World :=
  match sh.historyPath with
  | none => w
  | some p =>
      match w.openPath standardFds "/" (Octets.ofText p) (.replacing 0o644) with
      | .ok (w', ch) =>
          match w'.write ch (Octets.ofText sh.history.render) with
          | .ok w'' => w''
          | .error e => w'.logWarning (saveWarning e)
      | .error e => w.logWarning (saveWarning e)

/-- The shell as it starts, with the world after its warnings. -/
def Launch.shell (l : Launch) : Shell × World :=
  let settings := loadSettings l.fs (Octets.ofText l.cwd) l.env
  let historyPath := Path.join l.cwd (settings.historyFile.getD defaultHistoryFile)
  let capacity := settings.maxEntries.getD defaultHistorySize
  let env := Env.ofPairs l.env
  let w := World.boot l.fs l.input
  let w := match settingsWarning l.fs (Octets.ofText l.cwd) l.env with
    | some m => w.logWarning m
    | none => w
  let (level, tooHigh) := nextLevel (env.get "SHLVL")
  let w := match tooHigh with
    | some n => w.report ("warning: shell level (" ++ toString n ++ ") too high, resetting to 1")
    | none => w
  let w := match historyWarning l.fs historyPath with
    | some m => w.logWarning m
    | none => w
  let env := (env.set "SHLVL" (toString level)).set "PWD" l.cwd
  let sh : Shell := { env, cwd := l.cwd, history := loadHistory l.fs historyPath capacity,
                      historyPath := some historyPath, pid := l.pid, interrupts := l.interrupts,
                      dumpsCore := l.dumpsCore }
  (sh, w)

/-- How much input waits for the shell: what reading its input to the end would give. -/
def World.pending (w : World) : Nat :=
  match w.available 0 with
  | .ok data => data.length
  | .error _ => 0

/-- How many lines of a run may leave more input waiting than there was before they were read,
as a line that writes into the shell's own input does. -/
def feedLimit : Nat := 65536

/-- Reads and runs lines until the input ends or the shell is asked to exit.  Gives the shell,
the world and the exit status.  A line after which less input waits than before it was read
brings the end of the input closer; any other line uses up one of `fuel` turns, and the loop
stops when they are used up. -/
def readLoop (fuel : Nat) (sh : Shell) (w : World) : Shell × World × Nat :=
  match w.nextLine with
  | none => (sh, w, sh.status)
  | some (line, w₁) =>
      match processLine sh w₁ line with
      | (sh₂, w₂, .exit code) => (sh₂, w₂, code % 256)
      | (sh₂, w₂, .next _) =>
          if _ : w₂.pending < w.pending then readLoop fuel sh₂ w₂
          else
            match fuel with
            | 0 => (sh₂, w₂, sh₂.status)
            | fuel + 1 => readLoop fuel sh₂ w₂
termination_by (fuel, w.pending)
decreasing_by
  · exact Prod.Lex.right _ (by assumption)
  · exact Prod.Lex.left _ _ (Nat.lt_succ_self _)

/-- Runs the shell to its end. -/
def Launch.run (l : Launch) : Finish :=
  if !argumentsAccepted l.args then
    { world := (World.boot l.fs l.input).warn (usageMessage ++ "\n"), status := 1 }
  else
    let (sh, w) := l.shell
    let (sh, w, status) := readLoop feedLimit sh w
    let (sh, w) := removeHeredocs sh w
    { world := saveHistory sh w, status }

end Conch
