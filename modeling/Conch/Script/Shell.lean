import Conch.Script.Eval

/-!
# The system shell as a program

`/bin/sh` reads its options, then runs a script: the text after `-c`, the file named by its
first operand, or its standard input.  Option words start with `-` (turning options on) or
`+` (off), up to `-` or `--` or the first operand; `-o NAME` names an option in full.  An
unknown option is refused with status 2.

*Names.*  With `-c`, the operand after the text is `$0` and the rest are the parameters;
without one, `$0` is the shell's own name.  A script file is `$0` and the operands after it
the parameters.  Messages start with `$0` and the line.

*Variables.*  The shell starts with `IFS`, `PATH`, `PS1` (`# ` for the superuser), `PS2`,
`PS4` and `OPTIND` set, then takes every variable of its environment whose name is a name,
exported; `IFS` and `OPTIND` then get their usual values back.  `PWD` is the environment's
when it names the working directory, else the working directory, and is exported.

*Reading.*  The script is read and run one command line at a time, so the lines before a
syntax error run.  Standard input is read in blocks of 8192 octets, as much as the next
command line needs, so a command of the script may read what follows.

*Ending.*  At the end of the script, at `exit`, at an error or when `-e` ends it, the exit
trap runs and the shell ends with the status it had; a signal ends it at once.

Main definition: `Shell.program`.
-/

namespace Conch.Script.Shell

/-- How the shell was asked to run. -/
structure Invocation where
  /-- The options turned on. -/
  opts : Options := {}
  /-- Whether `-c` was given. -/
  command : Bool := false
  /-- The operands after the options. -/
  operands : List Octets := []

/-- Reads the shell's command line, after its own name. -/
def readInvocation : Nat → Invocation → List Octets → Except Octets Invocation
  | 0, inv, args => .ok { inv with operands := args }
  | _, inv, [] => .ok inv
  | f + 1, inv, a :: rest =>
      match a.toList with
      | ['-'] | ['-', '-'] => .ok { inv with operands := rest }
      | sign :: letters =>
          if sign != '-' && sign != '+' then .ok { inv with operands := a :: rest }
          else
            let on := sign == '-'
            let step := fun (acc : Except Octets (Invocation × List Octets)) (c : Char) =>
              match acc with
              | .error e => .error e
              | .ok (inv, rest) =>
                  if c == 'c' then .ok ({ inv with command := true }, rest)
                  else if c == 'l' then .ok (inv, rest)
                  else if c == 'o' then
                    match rest with
                    | nm :: more =>
                        match optionTable.find? (·.2 == nm) with
                        | some (l, _) => .ok ({ inv with opts := inv.opts.set l on }, more)
                        | none => .error ("Illegal option -o " ++ nm)
                    | [] => .ok (inv, [])
                  else if (optionTable.map Prod.fst).contains c && !isDigitChar c then
                    .ok ({ inv with opts := inv.opts.set c on }, rest)
                  else .error ("Illegal option -" ++ String.singleton c)
            match letters.foldl step (.ok (inv, rest)) with
            | .error e => .error e
            | .ok (inv, rest) => readInvocation f inv rest
      | [] => .ok { inv with operands := a :: rest }

/-- The value a search path has when the environment does not give one. -/
def defaultPath : Octets := "/usr/local/sbin:/usr/local/bin:/usr/sbin:/usr/bin:/sbin:/bin"

/-- The variables the shell starts with, before its environment. -/
def initialVars : List (String × Var) :=
  [("IFS", { value := some " \t\n" }), ("MAIL", {}), ("MAILPATH", {}),
   ("PATH", { value := some defaultPath }), ("PS1", { value := some "# " }),
   ("PS2", { value := some "> " }), ("PS4", { value := some "+ " }),
   ("OPTIND", { value := some "1" }), ("TERM", {}), ("HISTSIZE", {})]

/-- The state a shell starts in. -/
def initialState (p : Process) (fs : Fs) (inv : Invocation) (arg0 : Octets)
    (params : List Octets) : Interp :=
  let st : Interp := { vars := initialVars, params, arg0, fds := p.fds, cwd := p.cwd,
                       umask := p.umask, pid := 4343, opts := inv.opts }
  let st := p.envp.foldl (fun (st : Interp) e =>
    let name := String.ofList (e.toList.takeWhile (· != '='))
    if isName name && e.contains '=' then
      let value := (e.drop (name.length + 1)).copy
      let v := (st.var? name).getD {}
      st.putVar name { v with value := some value, exported := true }
    else st) st
  let reset := fun (st : Interp) (n : String) (value : Octets) =>
    let v := (st.var? n).getD {}
    st.putVar n { v with value := some value }
  let st := reset (reset st "IFS" " \t\n") "OPTIND" "1"
  let envPwd := (st.get? "PWD").filter fun d =>
    d.startsWith "/" && (match fs.resolve "/" d with
      | .ok q => q == p.cwd
      | .error _ => false)
  let curdir := envPwd.getD p.cwd
  let v := (st.var? "PWD").getD {}
  { st.putVar "PWD" { v with value := some curdir, exported := true } with curdir }

/-- The fuel of the evaluator: more than any script nests. -/
def evalFuel : Nat := 1000000

/-- What ended the running of a script. -/
inductive Stop where
  /-- The script ended, or the shell exits with its status. -/
  | done
  /-- A signal ends the shell, or a program replaced it. -/
  | ended (e : Ending)

/-- Runs one command line; how it stopped the script, if it did. -/
def runLine (start : Starter) (cmd : Cmd) : ScriptM (Option Stop) := do
  try
    evalTree start evalFuel false cmd
    pure none
  catch e =>
    match e with
    | .killed s => pure (some (.ended (.signaled s)))
    | .ended e => pure (some (.ended e))
    | .breakLoop _ | .continueLoop _ => pure none
    | _ => pure (some .done)

/-- Reads the next command line of a text; a syntax error is reported and stops the script. -/
def nextLine (r : Reader) : ScriptM (Except Stop (Option (Option Cmd) × Reader)) := do
  let r := { r with aliases := (← getState).aliases, docs := [], nextDoc := (← getState).nextDoc }
  match (Reader.nextCommand).run r with
  | .error e => do
      modifyState fun s => { s with line := e.line, status := 2 }
      warn ("Syntax error: " ++ e.message)
      return .error .done
  | .ok (c, r') => do
      modifyState fun s => { s with docs := s.docs ++ r'.docs, nextDoc := r'.nextDoc }
      return .ok (c, r')

/-- Runs the command lines of a whole text. -/
def runText (start : Starter) : Nat → Reader → ScriptM Stop
  | 0, _ => pure .done
  | f + 1, r => do
      match ← nextLine r with
      | .error s => pure s
      | .ok (none, _) => pure .done
      | .ok (some none, r') => runText start f r'
      | .ok (some (some c), r') =>
          match ← runLine start c with
          | some s => pure s
          | none => runText start f r'

/-- Reads up to 8192 octets more of the standard input. -/
def readBlock : ScriptM Octets := do
  let st ← getState
  match st.fds.lookup 0 with
  | some c =>
      liftWorld (modifyGet fun w =>
        let (res, w) := w.read c (some 8192)
        match res with
        | .ok d => (d, w)
        | .error _ => ("", w))
  | none => pure ""

/-- Whether the standard input has more to read. -/
def moreInput : ScriptM Bool := do
  let st ← getState
  let w ← getWorld
  match st.fds.lookup 0 with
  | some c =>
      match w.available c with
      | .ok d => pure !d.isEmpty
      | .error _ => pure false
  | none => pure false

/-- Runs the command lines of the standard input, reading it a block at a time: a line is
read again with the next block when the block ended inside it. -/
def runInput (start : Starter) : Nat → Reader → ScriptM Stop
  | 0, _ => pure .done
  | f + 1, r => do
      let r ← if r.input.isEmpty then do
          let block ← readBlock
          pure { r with input := block.toList }
        else pure r
      if r.input.isEmpty then return .done
      let attempt ← nextLine r
      let complete := match attempt with
        | .ok (some (some _), r') => !r'.input.isEmpty || r.input.getLast? == some '\n'
        | .ok (some none, r') => !r'.input.isEmpty || r.input.getLast? == some '\n'
        | _ => false
      let consumedAll := match attempt with
        | .ok (_, r') => r'.input.isEmpty
        | .error _ => true
      if (consumedAll && !complete) && (← moreInput) then
        let block ← readBlock
        runInput start f { r with input := r.input ++ block.toList }
      else
        match attempt with
        | .error s => pure s
        | .ok (none, _) => pure .done
        | .ok (some none, r') => runInput start f r'
        | .ok (some (some c), r') =>
            match ← runLine start c with
            | some s => pure s
            | none => runInput start f r'

/-- Runs a script and then the exit trap: how the shell ends. -/
def finish (start : Starter) (body : ScriptM Stop) : ScriptM Ending := do
  match ← body with
  | .ended e => pure e
  | .done => do
      let _ ← flushOut
      runExitTrap start evalFuel (← getState).status

/-- `sh`: reads its options and runs its script. -/
def program (start : Starter) : Program := fun p => do
  let self := p.argv.headD "sh"
  let fail0 := fun (msg : Octets) => do
    let _ ← p.write 2 (self ++ ": 0: " ++ msg ++ "\n")
    pure (Ending.exited 2)
  match readInvocation (p.argv.length + 1) {} (p.argv.drop 1) with
  | .error msg => fail0 msg
  | .ok inv =>
      let fs := (← get).fs
      if inv.command then
        match inv.operands with
        | [] => fail0 "-c requires an argument"
        | text :: rest =>
            let (arg0, params) := match rest with
              | a :: ps => (a, ps)
              | [] => (self, [])
            let st := initialState p fs inv arg0 params
            let r : Reader := { input := text.toList }
            let (res, _) ← ((finish start (runText start (text.length + 2) r)).run).run st
            pure (match res with
              | .ok e => e
              | .error _ => .exited 2)
      else
        match (if inv.opts.has 's' then [] else inv.operands) with
        | file :: params =>
            match fs.stat p.cwd file with
            | .ok e =>
                let text := match e.node with
                  | .file n => fs.contentOf n
                  | _ => ""
                let st := initialState p fs inv file params
                let r : Reader := { input := text.toList }
                let (res, _) ← ((finish start (runText start (text.length + 2) r)).run).run st
                pure (match res with
                  | .ok e => e
                  | .error _ => .exited 2)
            | .error e =>
                fail0 ("cannot open " ++ file ++ ": " ++ openError false e)
        | [] =>
            let inv := { inv with opts := inv.opts.set 's' true }
            let st := initialState p fs inv self inv.operands
            let w ← get
            let waiting := match p.fds.lookup 0 with
              | some c => match w.available c with
                | .ok d => d.length
                | .error _ => 0
              | none => 0
            let (res, _) ← ((finish start (runInput start (waiting + 2) { input := [] })).run).run st
            pure (match res with
              | .ok e => e
              | .error _ => .exited 2)

end Conch.Script.Shell
