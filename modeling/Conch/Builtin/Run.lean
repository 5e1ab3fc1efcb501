import Conch.Builtin.Options
import Conch.Builtin.Echo
import Conch.Builtin.Exit
import Conch.Session.State

/-!
# The built-in commands

Eight commands are part of the shell.  Five of them change the shell itself (`cd`, `exit`,
`export`, `unset` and `history`); the other three only write (`echo`, `env` and `pwd`).

* `cd [DIR]` goes to `DIR`, to `HOME` without an operand, and to `OLDPWD` for `-`, which it
  then prints.
* `pwd` prints the working directory; with `-P` and without `-L` it prints it with every
  symbolic link resolved.
* `export` without operands lists the exported names sorted, as `declare -x NAME="VALUE"`;
  each operand `NAME=VALUE` assigns and exports, and a bare `NAME` marks it for export.
* `unset NAME...` removes variables.
* `history [N]` lists the last `N` lines (all of them without `N`), numbered from one; `-c`
  forgets them.
* `env` lists the variables as `NAME=VALUE`.
* `exit [N]` ends the shell with status `N` modulo 256, or with the last status.
* `echo` writes its arguments.

A command reports its own errors as `nacre: NAME: MESSAGE`.  Wrong options are reported in the
option grammar's words, with status 2.

Main definitions: `Builtin.isBuiltin`, `Builtin.modifiesShell` and `Builtin.run`.
-/

namespace Conch

/-- How a command ends: with a status, or asking the shell to exit with one. -/
inductive Flow where
  | next (status : Nat)
  | exit (status : Nat)
  deriving DecidableEq, Repr, Inhabited

/-- The status a command ended with, whichever way it ended. -/
def Flow.status : Flow → Nat
  | .next n => n
  | .exit n => n

/-- What a built-in command wrote and how it ended. -/
structure Reply where
  /-- What it wrote to its standard output. -/
  out : String := ""
  /-- What it wrote to its standard error. -/
  err : String := ""
  /-- How it ended. -/
  flow : Flow := .next 0
  deriving Repr, Inhabited

namespace Builtin

/-- The names of the built-in commands. -/
def names : List String := ["cd", "exit", "export", "unset", "history", "echo", "env", "pwd"]

/-- Whether a name is a built-in command. -/
def isBuiltin (name : String) : Bool := names.contains name

/-- Whether a built-in command changes the shell, so that it must run in the shell itself. -/
def modifiesShell (name : String) : Bool :=
  ["cd", "exit", "export", "unset", "history"].contains name

/-- A message of a built-in command. -/
def complaint (name message : String) : String :=
  shellName ++ ": " ++ name ++ ": " ++ message ++ "\n"

/-- The option grammar of `cd`. -/
def cdSpec : Options.Spec := ⟨"cd", [], .texts "TARGET_DIRS" true⟩

/-- The option grammar of `export`. -/
def exportSpec : Options.Spec := ⟨"export", ['p'], .texts "DECLARATIONS" true⟩

/-- The option grammar of `unset`. -/
def unsetSpec : Options.Spec := ⟨"unset", [], .texts "NAMES" true⟩

/-- The option grammar of `history`. -/
def historySpec : Options.Spec := ⟨"history", ['c'], .number "COUNT"⟩

/-- The option grammar of `pwd`, whose operands are ignored. -/
def pwdSpec : Options.Spec := ⟨"pwd", ['P', 'L'], .texts "IGNORED" false⟩

/-- Runs a command with an option grammar: refused words are reported with status 2. -/
def withOptions (spec : Options.Spec) (sh : Shell) (args : List String)
    (k : Options.Parsed → Shell × Reply) : Shell × Reply :=
  match spec.parse args.tail with
  | .error r => (sh, { err := r.message spec, flow := .next 2 })
  | .ok p => k p

/-- `cd`. -/
def cdCommand (sh : Shell) (fs : Fs) (name : String) (p : Options.Parsed) : Shell × Reply :=
  if p.texts.length > 1 then (sh, { err := complaint name "too many arguments", flow := .next 1 })
  else
    let target : Except String (String × Bool) :=
      match p.texts with
      | ["-"] =>
          match sh.env.get "OLDPWD" with
          | some d => .ok (d, true)
          | none => .error "OLDPWD not set"
      | [d] => .ok (d, false)
      | _ =>
          match sh.env.get "HOME" with
          | some h => .ok (h, false)
          | none => .error "HOME not set"
    match target with
    | .error msg => (sh, { err := complaint name msg, flow := .next 1 })
    | .ok (d, announce) =>
        match sh.setWorkingDir fs d with
        | .error e => (sh, { err := complaint name (d ++ ": " ++ e.reason), flow := .next 1 })
        | .ok sh' => (sh', { out := if announce then sh'.cwd ++ "\n" else "" })

/-- `pwd`. -/
def pwdCommand (sh : Shell) (fs : Fs) (name : String) (p : Options.Parsed) : Shell × Reply :=
  if p.flags.contains 'P' && !p.flags.contains 'L' then
    match fs.resolve "/" (Octets.ofText sh.cwd) with
    | .ok real => (sh, { out := Octets.toText real ++ "\n" })
    | .error e =>
        (sh, { err := complaint name e.withNumber,
               flow := .next 1 })
  else (sh, { out := sh.cwd ++ "\n" })

/-- Sorts texts by their characters, which is the order of their UTF-8 octets. -/
def sortTexts {α : Type} (key : α → String) (xs : List α) : List α :=
  xs.mergeSort (fun a b => !decide (key b < key a))

/-- The line `export` lists an exported entry as. -/
def declaration (p : String × Option String) : String :=
  match p.2 with
  | some v => "declare -x " ++ p.1 ++ "=\"" ++ v ++ "\"\n"
  | none => "declare -x " ++ p.1 ++ "\n"

/-- Applies one operand of `export`. -/
def exportOne (name : String) (acc : Shell × Reply) (decl : String) : Shell × Reply :=
  let (sh, r) := acc
  let (n, v) := match decl.splitOn "=" with
    | n :: rest@(_ :: _) => (n, some ("=".intercalate rest))
    | _ => (decl, none)
  if !isValidName n then
    (sh, { r with err := r.err ++ complaint name ("`" ++ decl ++ "': not a valid identifier"),
                  flow := .next 1 })
  else
    match v with
    | some value => ({ sh with env := sh.env.set n value }, r)
    | none => ({ sh with env := sh.env.exportMark n }, r)

/-- `export`. -/
def exportCommand (sh : Shell) (name : String) (p : Options.Parsed) : Shell × Reply :=
  if p.texts.isEmpty then
    (sh, { out := String.join ((sortTexts Prod.fst sh.env.exported).map declaration) })
  else p.texts.foldl (exportOne name) (sh, {})

/-- Applies one operand of `unset`. -/
def unsetOne (name : String) (acc : Shell × Reply) (n : String) : Shell × Reply :=
  let (sh, r) := acc
  if !isValidName n then
    (sh, { r with err := r.err ++ complaint name ("`" ++ n ++ "': not a valid identifier"),
                  flow := .next 1 })
  else ({ sh with env := sh.env.unset n }, r)

/-- `unset`. -/
def unsetCommand (sh : Shell) (name : String) (p : Options.Parsed) : Shell × Reply :=
  p.texts.foldl (unsetOne name) (sh, {})

/-- A number right-aligned in a field of five. -/
def padFive (n : Nat) : String :=
  let s := toString n
  String.ofList (List.replicate (5 - s.length) ' ') ++ s

/-- `history`. -/
def historyCommand (sh : Shell) (p : Options.Parsed) : Shell × Reply :=
  if p.flags.contains 'c' then ({ sh with history := sh.history.clear }, {})
  else
    let items := sh.history.items
    let skip := match p.number with
      | some n => items.length - n
      | none => 0
    let lines := ((List.range items.length).zip items).drop skip
    (sh, { out := String.join (lines.map fun (i, l) => padFive (i + 1) ++ "  " ++ l ++ "\n") })

/-- `env`. -/
def envCommand (sh : Shell) (args : List String) : Shell × Reply :=
  if args.length > 1 then (sh, { err := complaint "env" "too many arguments", flow := .next 1 })
  else (sh, { out := String.join (sh.env.entries.map (· ++ "\n")) })

/-- `exit`. -/
def exitCommand (sh : Shell) (args : List String) : Shell × Reply :=
  match args.tail with
  | [] => (sh, { flow := .exit sh.status })
  | arg :: rest =>
      match exitCode? arg with
      | none => (sh, { err := complaint "exit" (arg ++ ": numeric argument required"), flow := .exit 2 })
      | some code =>
          if rest.isEmpty then (sh, { flow := .exit code })
          else (sh, { err := complaint "exit" "too many arguments", flow := .next 1 })

/-- Runs the built-in command `args.head` with its arguments. -/
def run (sh : Shell) (fs : Fs) (args : List String) : Shell × Reply :=
  let name := args.headD ""
  match name with
  | "cd" => withOptions cdSpec sh args (cdCommand sh fs name)
  | "pwd" => withOptions pwdSpec sh args (pwdCommand sh fs name)
  | "export" => withOptions exportSpec sh args (exportCommand sh name)
  | "unset" => withOptions unsetSpec sh args (unsetCommand sh name)
  | "history" => withOptions historySpec sh args (historyCommand sh)
  | "env" => envCommand sh args
  | "exit" => exitCommand sh args
  | "echo" => (sh, { out := echoText args.tail })
  | _ => (sh, { flow := .next 127 })

end Builtin

end Conch
