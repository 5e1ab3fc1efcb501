import Conch.Script.Test
import Conch.Script.Printf
import Conch.Script.Reader

/-!
# The shell's own commands

The shell runs some commands itself.  The special ones (`.`, `:`, `break`, `continue`,
`eval`, `exec`, `exit`, `export`, `local`, `readonly`, `return`, `set`, `shift`, `times`,
`trap`, `unset`) keep the assignments written before them, and an error in one ends a shell
that is not interactive.  The regular ones (`cd`, `echo`, `printf`, `read`, `test`, `kill`
and the others) are found before any program of the same name; an error in one is reported
and gives status 2.

This module holds the commands that need only the shell's state: each is a function of its
arguments to its status.  The commands that run other commands (`eval`, `.`, `exec`,
`command`) are with the evaluator.

Options of a command are read as the shell reads them: words that start with `-` up to `--`
or the first operand, each letter one option, and a letter that takes an argument takes the
rest of its word or the next word.  An unknown letter is refused with "Illegal option".

Main definitions: `findCommand`, `runSimpleBuiltin` and the commands themselves.
-/

namespace Conch.Script

/-- The regular built-in commands. -/
def regularBuiltins : List String :=
  ["[", "alias", "bg", "cd", "chdir", "command", "echo", "false", "fg", "getopts", "hash",
   "jobs", "kill", "printf", "pwd", "read", "test", "true", "type", "ulimit", "umask",
   "unalias", "wait"]

/-- Whether a name is a built-in command. -/
def isBuiltin (name : String) : Bool :=
  specialBuiltins.contains name || regularBuiltins.contains name

/-- Whether a text is a decimal number: digits only, at least one. -/
def isNumber (s : String) : Bool := !s.isEmpty && s.toList.all isDigitChar

/-- A count as the shell's commands read it: a decimal number from 0 up to the largest
`int`, blanks around it allowed, anything else an illegal number. -/
def number (s : Octets) : ScriptM Nat := do
  let v ← Test.number s
  if v < 0 || v > 2147483647 then fail ("Illegal number: " ++ s)
  return v.toNat

/-- A text quoted for the shell to read back: between single quotes, with each run of single
quotes itself between double quotes. -/
def shellQuote (s : Octets) : Octets :=
  let rec go : Nat → List Char → String
    | 0, _ => ""
    | _, [] => ""
    | f + 1, cs@(c :: _) =>
        if c == '\'' then
          let qs := cs.takeWhile (· == '\'')
          "\"" ++ String.ofList qs ++ "\"" ++ go f (cs.dropWhile (· == '\''))
        else
          let plain := cs.takeWhile (· != '\'')
          "'" ++ String.ofList plain ++ "'" ++ go f (cs.dropWhile (· != '\''))
  if s.isEmpty then "''" else go (s.length + 1) s.toList

/-! ## Options of a command -/

/-- Whether an option letter is in a specification, and whether it takes an argument. -/
def takesArg : List Char → Char → Option Bool
  | [], _ => none
  | d :: ':' :: rest, c => if d == c then some true else takesArg rest c
  | d :: rest, c => if d == c then some false else takesArg rest c

/-- Reads the letters of one option word. -/
def readBundle (spec : List Char) : List Char → List Octets → List (Char × Octets) →
    ScriptM (List (Char × Octets) × List Octets)
  | [], rest, acc => pure (acc, rest)
  | c :: more, rest, acc =>
      match takesArg spec c with
      | none => fail ("Illegal option -" ++ String.singleton c)
      | some false => readBundle spec more rest (acc ++ [(c, "")])
      | some true =>
          if !more.isEmpty then pure (acc ++ [(c, String.ofList more)], rest)
          else
            match rest with
            | x :: r => pure (acc ++ [(c, x)], r)
            | [] => fail ("No arg for -" ++ String.singleton c ++ " option")

/-- Reads the options of a command: each letter with its argument, and the operands. -/
def readOptsFrom (spec : List Char) : List Octets → List (Char × Octets) →
    ScriptM (List (Char × Octets) × List Octets)
  | [], acc => pure (acc, [])
  | a :: rest, acc =>
      match a.toList with
      | ['-', '-'] => pure (acc, rest)
      | '-' :: c :: more => do
          let (acc, rest') ← readBundle spec (c :: more) rest acc
          if rest'.length < rest.length + 1 then readOptsFrom spec rest' acc else pure (acc, rest')
      | _ => pure (acc, a :: rest)
termination_by args => args.length

/-- Reads the options of a command by its specification. -/
def readOpts (spec : String) (args : List Octets) : ScriptM (List (Char × Octets) × List Octets) :=
  readOptsFrom spec.toList args []

/-! ## Finding a command -/

/-- What a command name stands for. -/
inductive Found where
  /-- A special built-in command. -/
  | special (name : String)
  /-- A regular built-in command. -/
  | builtin (name : String)
  /-- A function. -/
  | function (body : Cmd)
  /-- A program at a path. -/
  | program (path : Octets)
  /-- Nothing: why the search failed. -/
  | missing (why : Errno)

/-- The directories of a search path; an empty one is the working directory. -/
def pathDirs (path : Octets) : List Octets := path.splitOn ":"

/-- The path a directory of the search path gives a name. -/
def inDir (dir name : Octets) : Octets := if dir.isEmpty then name else dir ++ "/" ++ name

/-- Searches the directories of a path for a regular file with its owner's execute bit:
its path, or why none was found. -/
def searchPath (fs : Fs) (cwd : Octets) (name : Octets) : List Octets → Errno → Except Errno Octets
  | [], why => .error why
  | d :: rest, why =>
      let full := inDir d name
      match fs.stat cwd full with
      | .error e =>
          searchPath fs cwd name rest (if e == .noEntry || e == .notDirectory then why else e)
      | .ok e =>
          if e.node.isRegular && e.mode % 512 / 64 % 2 == 1 then .ok full
          else searchPath fs cwd name rest .permission

/-- What a command name stands for: a name with a slash is a path; otherwise a special
built-in, a function (unless `noFunctions`), a regular built-in, and last a program found in
the directories of `path`. -/
def findCommand (name : Octets) (noFunctions : Bool) (path : Octets) : ScriptM Found := do
  let st ← getState
  if name.contains '/' then return .program name
  if specialBuiltins.contains name then return .special name
  match (if noFunctions then none else st.funcs.lookup name) with
  | some body => return .function body
  | none =>
      if regularBuiltins.contains name then return .builtin name
      let fs := (← getWorld).fs
      match searchPath fs st.cwd name (pathDirs path) .noEntry with
      | .ok p => return .program p
      | .error e => return .missing e

/-- The search path of the shell. -/
def pathValue (st : Interp) : Octets :=
  (st.get? "PATH").getD "/usr/local/sbin:/usr/local/bin:/usr/sbin:/usr/bin:/sbin:/bin"

/-- Sets a variable whose name is checked first. -/
def assignVar (name : Octets) (value : Octets) : ScriptM Unit := do
  if !isName name then fail (name ++ ": bad variable name")
  setVar name value

/-! ## Signals -/

/-- The names of the signals, by number; 0 is the shell's exit. -/
def signalNames : List String :=
  ["EXIT", "HUP", "INT", "QUIT", "ILL", "TRAP", "ABRT", "BUS", "FPE", "KILL", "USR1", "SEGV",
   "USR2", "PIPE", "ALRM", "TERM", "STKFLT", "CHLD", "CONT", "STOP", "TSTP", "TTIN", "TTOU",
   "URG", "XCPU", "XFSZ", "VTALRM", "PROF", "WINCH", "IO", "PWR", "SYS"]

/-- The number of signal numbers: signals are below it. -/
def signalCount : Nat := 65

/-- The name of a signal. -/
def signalName (n : Nat) : String :=
  if n == 34 then "RTMIN"
  else if n == 64 then "RTMAX"
  else if 34 < n && n ≤ 49 then "RTMIN+" ++ toString (n - 34)
  else if 49 < n && n < 64 then "RTMAX-" ++ toString (64 - n)
  else signalNames.getD n (toString n)

/-- The number of a signal given by number or by name (with or without `SIG`, in any case),
names from `least` on. -/
def decodeSignal (s : String) (least : Nat) : Option Nat :=
  if isNumber s then
    let n := s.toList.foldl (fun (k : Nat) (d : Char) => k * 10 + (d.toNat - 48)) 0
    if n < signalCount then some n else none
  else
    let up := s.toUpper
    let up := if up.startsWith "SIG" then (up.drop 3).copy else up
    ((List.range signalCount).filter (· ≥ least)).find? fun n => signalName n == up

/-! ## Commands -/

/-- `cd`: changes the working directory, by the logical path unless `-P`; `cd -` goes to
`$OLDPWD` and prints it. -/
def cdCommand (args : List Octets) : ScriptM Nat := do
  let (opts, rest) ← readOpts "LP" args
  let physical := opts.foldl (fun p (c, _) => c == 'P' || (p && c != 'L')) false
  let st ← getState
  let (dest, print) := match rest with
    | [] => ((st.get? "HOME").getD "", false)
    | d :: _ => if d == "-" then ((st.get? "OLDPWD").getD "", true) else (d, false)
  let fs := (← getWorld).fs
  let useCdpath := !(dest.startsWith "/" || dest == "." || dest == ".." ||
    dest.startsWith "./" || dest.startsWith "../")
  let dest' := if dest.isEmpty then "." else dest
  let candidates : List (Octets × Bool) :=
    match st.get? "CDPATH", useCdpath with
    | some cdpath, true =>
        (pathDirs cdpath).map fun d => (inDir d dest', !d.isEmpty)
    | _, _ => []
  let isDir := fun (p : Octets) =>
    match fs.resolve st.cwd p with
    | .ok q => fs.isDirectoryAt q
    | .error _ => false
  let (target, print) := match candidates.find? (fun (p, _) => isDir p) with
    | some (p, shown) => (p, print || shown)
    | none => (dest', print)
  let logical := Path.normalize (Path.join st.curdir target)
  let tryPath := if physical then target else logical
  match fs.resolve st.cwd tryPath with
  | .ok q =>
      if fs.isDirectoryAt q then do
        let newDir := if physical then q else logical
        modifyState fun s => { s with cwd := q, curdir := newDir }
        let oldVar := ((← getState).var? "OLDPWD").getD {}
        modifyState fun s => s.putVar "OLDPWD" { oldVar with value := some st.curdir, exported := true }
        let pwdVar := ((← getState).var? "PWD").getD {}
        modifyState fun s => s.putVar "PWD" { pwdVar with value := some newDir, exported := true }
        if print then out1 (newDir ++ "\n")
        return 0
      else fail ("can't cd to " ++ dest)
  | .error _ => fail ("can't cd to " ++ dest)

/-- `pwd`: prints the working directory, its logical name unless `-P`. -/
def pwdCommand (args : List Octets) : ScriptM Nat := do
  let (opts, _) ← readOpts "LP" args
  let physical := opts.foldl (fun p (c, _) => c == 'P' || (p && c != 'L')) false
  let st ← getState
  out1 ((if physical then st.cwd else st.curdir) ++ "\n")
  return 0

/-- The variables with a flag, sorted by name, for listing. -/
def sortedVars (st : Interp) (keep : Var → Bool) : List (String × Var) :=
  (st.vars.filter fun (_, v) => keep v).mergeSort fun a b => decide (a.1 ≤ b.1)

/-- Lists variables as `PREFIX NAME='VALUE'`. -/
def showVars (prefix_ : String) (keep : Var → Bool) : ScriptM Unit := do
  let st ← getState
  for (n, v) in sortedVars st keep do
    let head := if prefix_.isEmpty then "" else prefix_ ++ " "
    match v.value with
    | some x => out1 (head ++ n ++ "=" ++ shellQuote x ++ "\n")
    | none => out1 (head ++ n ++ "\n")

/-- `export` and `readonly` (when `readOnly`): mark variables, setting those given a value;
with no operands or `-p`, list the marked ones. -/
def exportCommand (readOnly : Bool) (args : List Octets) : ScriptM Nat := do
  let (opts, rest) ← readOpts "p" args
  let name := if readOnly then "readonly" else "export"
  let marked := fun (v : Var) => if readOnly then v.readOnly else v.exported
  if !opts.isEmpty || rest.isEmpty then
    showVars name marked
    return 0
  for a in rest do
    let st ← getState
    match a.splitOn "=" with
    | [n] =>
        match st.var? n with
        | some v =>
            modifyState fun s => s.putVar n (if readOnly then { v with readOnly := true }
              else { v with exported := true })
        | none =>
            if !isName n then fail (n ++ ": bad variable name")
            modifyState fun s => s.putVar n (if readOnly then { readOnly := true }
              else { exported := true })
    | n :: vs =>
        let value := "=".intercalate vs
        if !isName n then fail (n ++ ": bad variable name")
        setVar n value
        modifyState fun s =>
          let v := (s.var? n).getD {}
          s.putVar n (if readOnly then { v with readOnly := true } else { v with exported := true })
    | [] => pure ()
  return 0

/-- `unset`: removes variables, or functions with `-f`. -/
def unsetCommand (args : List Octets) : ScriptM Nat := do
  let (opts, rest) ← readOpts "vf" args
  let funcs := (opts.getLast?.map (·.1)) == some 'f'
  for n in rest do
    if funcs then modifyState fun s => { s with funcs := s.funcs.filter (·.1 != n) }
    else
      if !isName n then fail (n ++ ": bad variable name")
      unsetVar n
  return 0

/-- `shift`: drops the first positional parameters, one or as many as given. -/
def shiftCommand (args : List Octets) : ScriptM Nat := do
  let n ← match args with
    | a :: _ => number a
    | [] => pure 1
  let st ← getState
  if n > st.params.length then fail "can't shift that many"
  modifyState fun s => { s with params := s.params.drop n, optIndex := 1, optOffset := none }
  return 0

/-- Reads the option words of `set` (or of the shell's command line): the options after it,
whether `--` ended them with nothing after (which empties the parameters), and the operands;
`-o` without a name lists the options. -/
def setOptions (cmdline : Bool) : Nat → Options → List Octets →
    ScriptM (Options × Bool × List Octets × Option Bool)
  | 0, o, args => pure (o, false, args, none)
  | _, o, [] => pure (o, false, [], none)
  | f + 1, o, a :: rest =>
      match a.toList with
      | ['-'] =>
          let o := if cmdline then o else (o.set 'x' false).set 'v' false
          pure (o, false, rest, none)
      | ['-', '-'] => pure (o, rest.isEmpty && !cmdline, rest, none)
      | sign :: letters =>
          if sign != '-' && sign != '+' then pure (o, false, a :: rest, none)
          else do
            let on := sign == '-'
            let rec go : List Char → Options → List Octets → Option Bool →
                ScriptM (Options × List Octets × Option Bool)
              | [], o, rest, listing => pure (o, rest, listing)
              | 'o' :: more, o, rest, listing =>
                  match rest with
                  | nm :: rest' =>
                      match optionTable.find? (·.2 == nm) with
                      | some (c, _) => go more (o.set c on) rest' listing
                      | none => fail ("Illegal option -o " ++ nm)
                  | [] => go more o [] (some on)
              | c :: more, o, rest, listing =>
                  if (optionTable.map Prod.fst).contains c && !isDigitChar c then
                    go more (o.set c on) rest listing
                  else if cmdline && (c == 'c' || c == 'l') then go more o rest listing
                  else fail ("Illegal option -" ++ String.singleton c)
            let (o, rest', listing) ← go letters o rest none
            let (o, ends, ops, listing2) ← setOptions cmdline f o rest'
            pure (o, ends, ops, if listing.isSome then listing else listing2)
      | [] => pure (o, false, a :: rest, none)

/-- Lists the options, as `set -o` (or `set +o`, as commands, when not `on`) does. -/
def showOptions (on : Bool) : ScriptM Unit := do
  let o := (← getState).opts
  if on then
    out1 "Current option settings\n"
    for (c, n) in optionTable do
      let pad := String.ofList (List.replicate (16 - n.length) ' ')
      out1 (n ++ pad ++ (if o.has c then "on" else "off") ++ "\n")
  else
    for (c, n) in optionTable do
      out1 ("set " ++ (if o.has c then "-o " else "+o ") ++ n ++ "\n")

/-- `set`: lists the variables, or changes the options and the positional parameters. -/
def setCommand (args : List Octets) : ScriptM Nat := do
  match args with
  | [] =>
      showVars "" fun v => v.value.isSome
      return 0
  | _ => do
      let st ← getState
      let (o, empty, ops, listing) ← setOptions false (args.length + 1) st.opts args
      modifyState fun s => { s with opts := o }
      match listing with
      | some on => showOptions on
      | none => pure ()
      if empty then modifyState fun s => { s with params := [], optIndex := 1, optOffset := none }
      else if !ops.isEmpty then
        modifyState fun s => { s with params := ops, optIndex := 1, optOffset := none }
      return 0

/-- The characters of the line `read` takes, each with whether a backslash protected it, and
how many octets of the input it used; the flag is whether the line ended in a newline. -/
def readLine (raw : Bool) : Nat → List Char → List (Char × Bool) → Nat → List (Char × Bool) × Nat × Bool
  | 0, _, acc, used => (acc, used, false)
  | _, [], acc, used => (acc, used, false)
  | f + 1, c :: rest, acc, used =>
      if c.toNat == 0 then readLine raw f rest acc (used + 1)
      else if c == '\n' then (acc, used + 1, true)
      else if c == '\\' && !raw then
        match rest with
        | '\n' :: more => readLine raw f more acc (used + 2)
        | d :: more => readLine raw f more (acc ++ [(d, true)]) (used + 2)
        | [] => (acc, used + 1, false)
      else readLine raw f rest (acc ++ [(c, false)]) (used + 1)

/-- Splits what `read` took among `count` variables by the field separators: one field for
each but the last, which takes the rest without its final separator blanks. -/
def readFields (ifs : List Char) : Nat → List (Char × Bool) → List String
  | 0, _ => []
  | count + 1, cs =>
      let isWs := fun (p : Char × Bool) => !p.2 && ifs.contains p.1 && (p.1 == ' ' || p.1 == '\t' || p.1 == '\n')
      let isSep := fun (p : Char × Bool) => !p.2 && ifs.contains p.1
      let cs := cs.dropWhile isWs
      if count == 0 then
        let kept := (cs.reverse.dropWhile isWs).reverse
        [String.ofList (kept.map Prod.fst)]
      else
        let field := cs.takeWhile (!isSep ·)
        let after := cs.dropWhile (!isSep ·)
        let after := after.dropWhile isWs
        let after := match after with
          | p :: more => if isSep p then more.dropWhile isWs else after
          | [] => []
        String.ofList (field.map Prod.fst) :: readFields ifs count after

/-- `read`: reads a line from the standard input into variables; its status is 1 when the
input ended before a newline. -/
def readCommand (args : List Octets) : ScriptM Nat := do
  let (opts, names) ← readOpts "p:r" args
  let raw := opts.any (·.1 == 'r')
  if names.isEmpty then fail "arg count"
  let st ← getState
  let w ← getWorld
  let data := match st.fds.lookup 0 with
    | some c => w.available c
    | none => .error .badDescriptor
  let (cs, used, ended) := match data with
    | .ok text => readLine raw (text.length + 1) text.toList [] 0
    | .error _ => ([], 0, false)
  match st.fds.lookup 0 with
  | some c => liftWorld (modify fun w => w.consume c used)
  | none => pure ()
  let values := readFields (st.ifs.toList) names.length cs
  for (n, i) in names.zip (List.range names.length) do
    assignVar n (values.getD i "")
  return if ended then 0 else 1

/-- `getopts`: reads the next option of the positional parameters (or of the words given),
setting the variable to its letter and `OPTARG` to its argument; status 1 when no option is
left. -/
def getoptsCommand (args : List Octets) : ScriptM Nat := do
  match args with
  | optstr :: var :: words => do
      let st ← getState
      let base := if words.isEmpty then st.params else words
      let (ind, off) := if st.optIndex > base.length + 1 then (1, none) else (st.optIndex, st.optOffset)
      if ind < 1 then return 1
      let silent := optstr.startsWith ":"
      let spec := optstr.toList
      -- The word being read and where in it, or the next word.
      let current : Option (List Char) := match off with
        | some o =>
            if ind ≤ 1 then none
            else match base[ind - 2]? with
              | some wd => if o < wd.length then some (wd.toList.drop o) else none
              | none => none
        | none => none
      let setOptarg := fun (v : Option Octets) => do
        match v with
        | some x => setVar "OPTARG" x
        | none => unsetVar "OPTARG"
      let finish := fun (letter : Char) (next : Nat) (offset : Option Nat) (done : Bool) => do
        modifyState fun s =>
          let v := (s.var? "OPTIND").getD {}
          { s.putVar "OPTIND" { v with value := some (toString next) } with
            optIndex := next, optOffset := offset }
        assignVar var (String.singleton letter)
        return (if done then 1 else 0)
      let (chars, next) ← match current with
        | some cs => pure (some cs, ind)
        | none =>
            match base[ind - 1]? with
            | some wd =>
                match wd.toList with
                | '-' :: '-' :: [] => pure (none, ind + 1)
                | '-' :: c :: more => pure (some (c :: more), ind + 1)
                | _ => pure (none, ind)
            | none => pure (none, ind)
      match chars with
      | none => finish '?' next none true
      | some [] => finish '?' next none true
      | some (c :: more) => do
          let wordText := (base[next - 2]?).getD ""
          let offsetAfter := fun (restLen : Nat) => some (wordText.length - restLen)
          match takesArg (if silent then spec.drop 1 else spec) c with
          | none => do
              if silent then setOptarg (some (String.singleton c))
              else do
                writeErr ("Illegal option -" ++ String.singleton c ++ "\n")
                setOptarg none
              finish '?' next (if more.isEmpty then none else offsetAfter more.length) false
          | some false => do
              setOptarg (some "")
              finish c next (if more.isEmpty then none else offsetAfter more.length) false
          | some true =>
              if !more.isEmpty then do
                setOptarg (some (String.ofList more))
                finish c next none false
              else
                match base[next - 1]? with
                | some arg => do
                    setOptarg (some arg)
                    finish c (next + 1) none false
                | none => do
                    if silent then do
                      setOptarg (some (String.singleton c))
                      finish ':' next none false
                    else do
                      writeErr ("No arg for -" ++ String.singleton c ++ " option\n")
                      setOptarg none
                      finish '?' next none false
  | _ => fail "Usage: getopts optstring var [arg]"

/-- The permission letters of a mask, as `umask -S` shows them. -/
def symbolicMask (mask : Nat) : String :=
  let allowed := 0o777 - mask % 0o1000
  ",".intercalate ((List.range 3).map fun i =>
    let who := ["u", "g", "o"].getD i ""
    let bits := (List.range 3).filterMap fun j =>
      if (allowed / Nat.pow 2 (8 - (3 * i + j))) % 2 == 1 then some (["r", "w", "x"].getD j "") else none
    who ++ "=" ++ String.join bits)

/-- Applies a symbolic mode to the permissions a mask allows, as `umask` reads one. -/
def applySymbolic (allowed : Nat) : Nat → List Char → Nat → Option Nat
  | 0, _, _ => none
  | f + 1, cs, newMask =>
      let who := cs.takeWhile (fun c => c == 'a' || c == 'u' || c == 'g' || c == 'o')
      let cs := cs.dropWhile (fun c => c == 'a' || c == 'u' || c == 'g' || c == 'o')
      let positions := who.foldl (fun p c =>
        p ||| (match c with
          | 'a' => 0o111
          | 'u' => 0o100
          | 'g' => 0o010
          | _ => 0o001)) 0
      let positions := if positions == 0 then 0o111 else positions
      match cs with
      | op :: rest =>
          if op != '=' && op != '+' && op != '-' then (if cs.isEmpty then some newMask else none)
          else
            let perms := rest.takeWhile (fun c => "rwxugoXs".toList.contains c)
            let rest := rest.dropWhile (fun c => "rwxugoXs".toList.contains c)
            let value := perms.foldl (fun v c =>
              v ||| (match c with
                | 'r' => 4
                | 'w' => 2
                | 'x' => 1
                | 'u' => allowed / 64
                | 'g' => allowed / 8
                | 'o' => allowed
                | 'X' => if allowed &&& 0o111 != 0 then 1 else 0
                | _ => 0)) 0
            let value := (value &&& 7) * positions
            let newMask := match op with
              | '-' => newMask &&& (0o7777 - value)
              | '=' => value
              | _ => newMask ||| value
            match rest with
            | ',' :: more => applySymbolic allowed f more newMask
            | [] => some newMask
            | c :: _ =>
                if c == '=' || c == '+' || c == '-' then applySymbolic allowed f rest newMask
                else none
      | [] => some newMask

/-- `umask`: shows the file-creation mask (in octal, or symbolically with `-S`), or sets it. -/
def umaskCommand (args : List Octets) : ScriptM Nat := do
  let (opts, rest) ← readOpts "S" args
  let st ← getState
  match rest with
  | [] =>
      if !opts.isEmpty then out1 (symbolicMask st.umask ++ "\n")
      else
        let ds := Nat.toDigits 8 st.umask
        out1 (String.ofList (List.replicate (4 - ds.length) '0' ++ ds) ++ "\n")
      return 0
  | a :: _ =>
      match a.toList with
      | c :: _ =>
          if isDigitChar c then do
            if !a.toList.all (fun d => '0' ≤ d && d ≤ '7') then fail ("Illegal number: " ++ a)
            let v := a.toList.foldl (fun (k : Nat) (d : Char) => k * 8 + (d.toNat - 48)) 0
            modifyState fun s => { s with umask := v % 0o10000 }
            return 0
          else do
            let allowed := (0o7777 - st.umask) &&& 0o777
            match applySymbolic allowed (a.length + 1) a.toList allowed with
            | some m =>
                modifyState fun s => { s with umask := (0o7777 - m) &&& 0o777 }
                return 0
            | none => fail ("Illegal mode: " ++ a)
      | [] => return 0

/-- Prints an alias as `NAME='VALUE'`. -/
def printAlias (n : String) (v : String) : ScriptM Unit :=
  out1 (n ++ "=" ++ shellQuote v ++ "\n")

/-- `alias`: defines aliases, or prints them. -/
def aliasCommand (args : List Octets) : ScriptM Nat := do
  let st ← getState
  if args.isEmpty then
    for (n, v) in listOrder st.aliases do printAlias n v
    return 0
  let mut status := 0
  for a in args do
    match a.toList with
    | c :: more =>
        let name := String.ofList (c :: more.takeWhile (· != '='))
        if more.contains '=' then
          let value := String.ofList ((more.dropWhile (· != '=')).drop 1)
          modifyState fun s =>
            if s.aliases.any (·.1 == name) then
              { s with aliases := s.aliases.map fun e => if e.1 == name then (name, value) else e }
            else { s with aliases := s.aliases ++ [(name, value)] }
        else
          match (← getState).aliases.lookup a with
          | some v => printAlias a v
          | none => do
              writeErr ("alias: " ++ a ++ " not found\n")
              status := 1
    | [] => do
        writeErr "alias:  not found\n"
        status := 1
  return status

/-- `unalias`: removes aliases, or all of them with `-a`. -/
def unaliasCommand (args : List Octets) : ScriptM Nat := do
  let (opts, rest) ← readOpts "a" args
  if !opts.isEmpty then
    modifyState fun s => { s with aliases := [] }
    return 0
  let mut status := 0
  for a in rest do
    if (← getState).aliases.any (·.1 == a) then
      modifyState fun s => { s with aliases := s.aliases.filter (·.1 != a) }
    else
      writeErr ("unalias: " ++ a ++ " not found\n")
      status := 1
  return status

/-- The usage message of `kill`. -/
def killUsage : Octets :=
  "Usage: kill [-s sigspec | -signum | -sigspec] [pid | job]... or\nkill -l [exitstatus]"

/-- `kill`: sends a signal to processes, or lists the signals with `-l`.  A signal the shell
sends itself waits in `signals` until the command ends. -/
def killCommand (args : List Octets) : ScriptM Nat := do
  if args.isEmpty then fail killUsage
  let (signal, list, targets) ← match args with
    | a :: rest =>
        match a.toList with
        | '-' :: name =>
            match decodeSignal (String.ofList name) 1 with
            | some s => pure (some s, false, rest)
            | none => do
                let (opts, rest) ← readOpts "ls:" args
                let mut signal : Option Nat := none
                let mut list := false
                for (c, v) in opts do
                  if c == 'l' then list := true
                  else
                    match decodeSignal v 1 with
                    | some s => signal := some s
                    | none => fail ("invalid signal number or name: " ++ v)
                pure (signal, list, rest)
        | _ => pure (none, false, args)
    | [] => pure (none, false, [])
  let signal := if !list && signal.isNone then some 15 else signal
  if (signal.isNone || targets.isEmpty) != list then fail killUsage
  if list then
    match targets with
    | [] => do
        out1 "0\n"
        for n in (List.range signalCount).drop 1 do out1 (signalName n ++ "\n")
        return 0
    | t :: _ => do
        let n ← number t
        let n := if n > 128 then n - 128 else n
        if 0 < n && n < signalCount then
          out1 (signalName n ++ "\n")
          return 0
        else fail ("invalid signal number or exit status: " ++ t)
  let sig := signal.getD 15
  let mut status := 0
  for t in targets do
    let st ← getState
    let pid ← if t.startsWith "-" then number (t.drop 1).copy else number t
    if (pid == st.pid && !t.startsWith "-") || pid == 0 then
      if sig != 0 then
        modifyState fun s =>
          if s.isCopy then { s with raised := s.raised ++ [sig] }
          else { s with signals := s.signals ++ [sig] }
    else if st.jobs.any (·.1 == pid) && !t.startsWith "-" then pure ()
    else
      warn "No such process\n"
      status := 1
  return status

/-- `trap`: sets what the shell runs on a signal (or at its exit), resets it (`-`), ignores
it (an empty action), or lists the traps. -/
def trapCommand (args : List Octets) : ScriptM Nat := do
  let (_, args) ← readOpts "" args
  let st ← getState
  match args with
  | [] =>
      for (n, action) in st.traps.mergeSort (fun a b => decide (a.1 ≤ b.1)) do
        out1 ("trap -- " ++ shellQuote action ++ " " ++ signalName n ++ "\n")
      return 0
  | first :: rest =>
      let (action, sigs) := if rest.isEmpty || isNumber first then (none, args)
        else (if first == "-" then none else some first, rest)
      for s in sigs do
        match decodeSignal s 0 with
        | none => do
            writeErr ("trap: " ++ s ++ ": bad trap\n")
            return 1
        | some n =>
            modifyState fun st =>
              let others := st.traps.filter (·.1 != n)
              { st with traps := match action with
                | some a => others ++ [(n, a)]
                | none => others }
      return 0

/-- `local`: makes variables local to the running function, saving their values to be put
back when it returns. -/
def localCommand (args : List Octets) : ScriptM Nat := do
  let st ← getState
  match st.locals with
  | [] => fail "not in a function"
  | _ =>
      for a in args do
        let name := (a.splitOn "=").headD ""
        let old := (← getState).var? name
        modifyState fun s => match s.locals with
          | frame :: more => { s with locals := ((name, old) :: frame) :: more }
          | [] => s
        match a.splitOn "=" with
        | _ :: v :: more => setVar name ("=".intercalate (v :: more))
        | _ =>
            if old.isNone then modifyState fun s => s.putVar name {}
      return 0

/-- `wait`: waits for background commands; its status is the last one's, or 127 for a
process that is not one. -/
def waitCommand (args : List Octets) : ScriptM Nat := do
  let st ← getState
  let mut status := 0
  for a in args do
    let pid ← number a
    match st.jobs.lookup pid with
    | some s => status := s
    | none => status := 127
  return status

/-- `times`: the time the shell and its children used, none here. -/
def timesCommand : ScriptM Nat := do
  out1 "0m0.000000s 0m0.000000s\n0m0.000000s 0m0.000000s\n"
  return 0

/-- Describes what a name stands for, as `type` (when `verbose`) or `command -v` does. -/
def describeCommand (name : Octets) (verbose : Bool) : ScriptM Nat := do
  let st ← getState
  let say := fun (text : Octets) => out1 ((if verbose then name else "") ++ text ++ "\n")
  if (Keyword.ofText? name).isSome then
    out1 (if verbose then name ++ " is a shell keyword\n" else name ++ "\n")
    return 0
  match st.aliases.lookup name with
  | some v =>
      if verbose then say (" is an alias for " ++ v)
      else out1 ("alias " ++ name ++ "=" ++ shellQuote v ++ "\n")
      return 0
  | none =>
      let tracked := st.hashed.lookup name
      let found ← match tracked with
        | some p => pure (Found.program p)
        | none => findCommand name false (pathValue st)
      match found with
      | .program p =>
          if name.contains '/' then
            match (← getWorld).fs.stat st.cwd name with
            | .ok _ => pure ()
            | .error _ => do
                if verbose then say ": not found"
                return 127
          if verbose then
            say ((if tracked.isSome then " is a tracked alias for " else " is ") ++ p)
          else out1 (p ++ "\n")
          return 0
      | .function _ =>
          if verbose then say " is a shell function" else out1 (name ++ "\n")
          return 0
      | .special _ =>
          if verbose then say " is a special shell builtin" else out1 (name ++ "\n")
          return 0
      | .builtin _ =>
          if verbose then say " is a shell builtin" else out1 (name ++ "\n")
          return 0
      | .missing _ =>
          if verbose then say ": not found"
          return 127

/-- `type`: describes what each name stands for. -/
def typeCommand (args : List Octets) : ScriptM Nat := do
  let mut status := 0
  for a in args do
    let s ← describeCommand a true
    if s != 0 then status := s
  return status

/-- The bucket of the table of found programs a name is kept in. -/
def hashBucket (name : String) : Nat :=
  let bs := (Octets.ofText name).toList.map Char.toNat
  ((bs.headD 0 * 16 + bs.foldl (· + ·) 0) % 32768) % 31

/-- `hash`: lists the programs found by a search of the path, forgets them (`-r`), or finds
the ones named. -/
def hashCommand (args : List Octets) : ScriptM Nat := do
  let (opts, rest) ← readOpts "r" args
  if !opts.isEmpty then
    modifyState fun s => { s with hashed := [] }
    return 0
  let st ← getState
  if rest.isEmpty then
    for (_, p) in st.hashed.mergeSort (fun a b => hashBucket a.1 ≤ hashBucket b.1) do
      out1 (p ++ "\n")
    return 0
  let mut status := 0
  for n in rest do
    match ← findCommand n false (pathValue st) with
    | .program p =>
        if !n.contains '/' then
          modifyState fun s => { s with hashed := (s.hashed.filter (·.1 != n)) ++ [(n, p)] }
    | .missing e => do
        warn (n ++ ": " ++ (if e == .permission then "Permission denied" else "not found"))
        status := 1
    | _ => pure ()
  return status

/-- `ulimit`: shows a resource limit, none here. -/
def ulimitCommand : ScriptM Nat := do
  out1 "unlimited\n"
  return 0

/-- Runs a built-in command that needs only the shell's state: its status, or none when the
name is not one of them. -/
def runSimpleBuiltin (name : String) (args : List Octets) : Option (ScriptM Nat) :=
  match name with
  | ":" | "true" => some (pure 0)
  | "false" => some (pure 1)
  | "echo" => some (Printf.echo args)
  | "printf" => some do
      let (_, rest) ← readOpts "" args
      Printf.printf rest
  | "cd" | "chdir" => some (cdCommand args)
  | "pwd" => some (pwdCommand args)
  | "export" => some (exportCommand false args)
  | "readonly" => some (exportCommand true args)
  | "unset" => some (unsetCommand args)
  | "shift" => some (shiftCommand args)
  | "set" => some (setCommand args)
  | "read" => some (readCommand args)
  | "getopts" => some (getoptsCommand args)
  | "umask" => some (umaskCommand args)
  | "alias" => some (aliasCommand args)
  | "unalias" => some (unaliasCommand args)
  | "kill" => some (killCommand args)
  | "trap" => some (trapCommand args)
  | "local" => some (localCommand args)
  | "wait" => some (waitCommand args)
  | "times" => some timesCommand
  | "type" => some (typeCommand args)
  | "hash" => some (hashCommand args)
  | "ulimit" => some ulimitCommand
  | "test" => some (Test.run false args)
  | "[" => some (Test.run true args)
  | "jobs" | "bg" | "fg" => some (pure 0)
  | _ => none

end Conch.Script
