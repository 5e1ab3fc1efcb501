import Conch.Programs.Text
import Conch.World.Mode
import Conch.Text.Floating

/-!
# Programs about files and the environment

`mkdir`, `rmdir`, `rm` and `touch` make and remove entries, `basename`
and `dirname` take paths apart, `pwd` prints the working directory, `printenv` and `env`
print the environment (`env` can also run a program with a changed one), and `true`, `false`
and `sleep` waits.

Main definitions: `mkdir`, `rm`, `touch`, `env` and `printenv`.
-/

namespace Conch.Programs

/-! ## Making and removing -/

/-- The usage error of a file program: the message and the hint at `--help`. -/
def usageError (fs : Fs) (call : Call) (message : String) : Run :=
  failed fs (call.name ++ ": " ++ message ++ "\nTry '" ++ call.name ++ " --help' for more information.\n") 1

/-- A path without the slashes that end it; the root stays. -/
def trimSlashes (p : String) : String :=
  let cs := (p.toList.reverse.dropWhile (· == '/')).reverse
  if cs.isEmpty && p.startsWith "/" then "/" else String.ofList cs

/-- The directories above the last name of a path, as written: `a` and `a/b` for `a/b/c`;
`.` and `..` are not among them. -/
def ancestorsOf (p : String) : List String :=
  let parts := (trimSlashes p).splitOn "/"
  (List.range (parts.length - 1)).filterMap fun i =>
    let part := parts.getD i ""
    if part.isEmpty || part == "." || part == ".." then none
    else some ("/".intercalate (parts.take (i + 1)))

/-- What making or removing files has done so far: the file system, the reports written to
the standard output, the error messages, and the answers to questions not yet read. -/
structure Work where
  fs : Fs
  out : String := ""
  err : String := ""
  answers : List String := []
  /-- Whether a question was asked. -/
  asked : Bool := false

/-- Adds an error message. -/
def Work.complain (w : Work) (prog message : String) : Work :=
  { w with err := w.err ++ prog ++ ": " ++ message ++ "\n" }

/-- Asks a question on the standard error and reads the answer, a line of the standard
input: yes when it starts with `y` or `Y`. -/
def Work.ask (w : Work) (question : String) : Bool × Work :=
  let w := { w with err := w.err ++ question, asked := true }
  match w.answers with
  | a :: rest => (a.startsWith "y" || a.startsWith "Y", { w with answers := rest })
  | [] => (false, w)

/-- The lines of the standard input, for questions. -/
def answersOf (call : Call) : List String :=
  match call.input with
  | .ok text => textLines text
  | .error _ => []

/-- Makes one directory with `mode`, reporting it when `verbose`: the entry or why not. -/
def makeOne (call : Call) (verbose : Bool) (w : Work) (shown path : String) (mode : Nat) : Work :=
  { w with fs := w.fs.insert path ⟨.directory, mode⟩,
           out := w.out ++ (if verbose then call.name ++ ": created directory " ++ Quoted.nameAlways shown ++ "\n" else "") }

/-- Makes the directories above a path that are missing, with `mode`; the error that stops
it, if any. -/
def makeAncestors (call : Call) (verbose : Bool) (mode : Nat) (w : Work) : List String → Work × Option Errno
  | [] => (w, none)
  | a :: rest =>
      match w.fs.locate call.cwd a with
      | .ok (.fresh p) => makeAncestors call verbose mode (makeOne call verbose w a p mode) rest
      | .ok (.existing p) =>
          if w.fs.isDirectoryAt p then makeAncestors call verbose mode w rest else (w, some .notDirectory)
      | .error e => (w, some e)

/-- `mkdir`: makes directories, with `-p` the missing ones above them too (those with the
user's write and search bits besides the mask's), each with the mode `-m` gives or the one
the mask allows. -/
def mkdir : Batch := fun fs call =>
  match getopt ['p', 'v', 'Z'] ['m'] [("parents", 'p'), ("mode", 'm'), ("verbose", 'v'), ("context", 'Z')]
      call.args with
  | .error e => failed fs (e.message call.name) 1
  | .ok (opts, ops) =>
      let given := (optValue opts 'm').map fun m => (m, Mode.compile m)
      match given with
      | some (m, none) => failed fs (call.name ++ ": invalid mode " ++ Quoted.value m ++ "\n") 1
      | _ =>
          if ops.isEmpty then usageError fs call "missing operand"
          else
            let allowed := 0o7777 - (call.umask &&& 0o777)
            let (mode, decided) := match given with
              | some (_, some cs) => Mode.adjust 0o777 true call.umask cs
              | _ => (0o777, 0)
            let mode := ((mode &&& allowed) &&& (0o7777 - decided)) ||| (mode &&& decided)
            let above := (0o777 &&& allowed) ||| 0o300
            let verbose := hasOpt opts 'v'
            let parents := hasOpt opts 'p'
            let w := ops.foldl (fun (w : Work) d =>
              let fail := fun (w : Work) (e : Errno) =>
                w.complain call.name ("cannot create directory " ++ Quoted.nameAlways d ++ ": " ++ e.describe)
              let (w, stop) := if parents then makeAncestors call verbose above w (ancestorsOf d) else (w, none)
              match stop with
              | some e => fail w e
              | none =>
                  match w.fs.locate call.cwd (trimSlashes d) with
                  | .ok (.fresh p) => makeOne call verbose w d p mode
                  | .ok (.existing p) => if parents && w.fs.isDirectoryAt p then w else fail w .exists
                  | .error e => fail w e) { fs }
            { out := w.out, err := w.err, ending := .exited (if w.err.isEmpty then 0 else 1), fs := w.fs }

/-- Removes one empty directory: the file system after, or why not. -/
def removeDirectory (fs : Fs) (cwd d : String) : Except Errno Fs :=
  if (Path.names d).getLast? == some "." then .error .invalid
  else
    match fs.entryPath cwd d with
    | .error e => .error e
    | .ok p =>
        match fs.find p with
        | none => .error .noEntry
        | some e =>
            if !e.node.isDirectory then .error .notDirectory
            else if !(fs.children p).isEmpty then .error .notEmpty
            else .ok (fs.erase p)

/-- Removes the directories above a removed one, the nearest first, until one cannot be
removed.  `fuel` bounds the steps. -/
def removeAbove (call : Call) (verbose ignoreNonEmpty : Bool) : Nat → Work → String → Work × Bool
  | 0, w, _ => (w, true)
  | fuel + 1, w, d =>
      let d := trimSlashes d
      match d.toList.reverse.idxOf? '/' with
      | none => (w, true)
      | some i =>
          let upper := trimSlashes (String.ofList (d.toList.take (d.length - 1 - i)))
          let upper := if upper.isEmpty then "/" else upper
          let w := { w with out := w.out ++ (if verbose then call.name ++ ": removing directory, " ++
            Quoted.nameAlways upper ++ "\n" else "") }
          match removeDirectory w.fs call.cwd upper with
          | .ok fs => if upper == "/" then ({ w with fs }, true) else removeAbove call verbose ignoreNonEmpty fuel { w with fs } upper
          | .error e =>
              if ignoreNonEmpty && e == .notEmpty then (w, true)
              else
                let what := if e == .notDirectory then "failed to remove " else "failed to remove directory "
                (w.complain call.name (what ++ Quoted.nameAlways upper ++ ": " ++ e.describe), false)

/-- `rmdir`: removes empty directories, with `-p` the directories above them too. -/
def rmdir : Batch := fun fs call =>
  let ignoreKey := Char.ofNat 0xE000
  let spec : OptionSpec :=
    { shorts := [('p', .none), ('v', .none)],
      longs := [⟨"parents", 'p', .none⟩, ⟨"verbose", 'v', .none⟩, ⟨"ignore-fail-on-non-empty", ignoreKey, .none⟩] }
  match spec.read call.args with
  | .error e => failed fs (e.message call.name) 1
  | .ok (opts, ops) =>
      if ops.isEmpty then usageError fs call "missing operand"
      else
        let verbose := hasOpt opts 'v'
        let ignoreNonEmpty := hasOpt opts ignoreKey
        let (w, ok) := ops.foldl (fun (acc : Work × Bool) d =>
          let (w, ok) := acc
          let w := { w with out := w.out ++ (if verbose then call.name ++ ": removing directory, " ++
            Quoted.nameAlways d ++ "\n" else "") }
          match removeDirectory w.fs call.cwd d with
          | .ok fs =>
              if hasOpt opts 'p' then
                let (w, fine) := removeAbove call verbose ignoreNonEmpty (d.length + 1) { w with fs } d
                (w, ok && fine)
              else ({ w with fs }, ok)
          | .error e =>
              if ignoreNonEmpty && e == .notEmpty then (w, ok)
              else (w.complain call.name ("failed to remove " ++ Quoted.nameAlways d ++ ": " ++ e.describe), false))
          ({ fs }, true)
        { out := w.out, err := w.err, ending := .exited (if ok then 0 else 1), fs := w.fs }

/-- How `rm` asks before removing. -/
inductive Asking where
  /-- Never. -/
  | never
  /-- Before every file (`-i`). -/
  | always
  /-- Once, before removing more than three files or removing recursively (`-I`). -/
  | once
  deriving DecidableEq, Repr

/-- What the options of `rm` ask for. -/
structure Removing where
  asking : Asking := .never
  ignoreMissing : Bool := false
  recursive : Bool := false
  emptyDirs : Bool := false
  verbose : Bool := false
  preserveRoot : Bool := true

/-- The kind of a file as a question of `rm` names it. -/
def kindWords (fs : Fs) (e : Entry) : String :=
  match e.node with
  | .file n => if (fs.contentOf n).isEmpty then "regular empty file" else "regular file"
  | .program _ => "regular file"
  | .directory => "directory"
  | .link _ => "symbolic link"
  | .device _ => "character special file"

/-- Removes the entry at a path, and with `-r` everything inside a directory first, depth
first in the order the directory holds its entries; `shown` is the path as messages write
it.  Whether all of it went.  `fuel` bounds the depth. -/
def removeTree (call : Call) (r : Removing) : Nat → Work → String → String → Work × Bool
  | 0, w, _, _ => (w, false)
  | fuel + 1, w, shown, path =>
      match w.fs.find path with
      | none => (w.complain call.name ("cannot remove " ++ Quoted.nameAlways shown ++ ": No such file or directory"), false)
      | some e =>
          let quoted := Quoted.nameAlways shown
          let excise := fun (w : Work) =>
            ({ w with fs := w.fs.erase path,
                      out := w.out ++ (if r.verbose then
                        (if e.node.isDirectory then "removed directory " else "removed ") ++ quoted ++ "\n" else "") },
             true)
          if !e.node.isDirectory then
            if r.asking == .always then
              let (yes, w) := w.ask (call.name ++ ": remove " ++ kindWords w.fs e ++ " " ++ quoted ++ "? ")
              if yes then excise w else (w, true)
            else excise w
          else
            let empty := (w.fs.children path).isEmpty
            if !r.recursive && !(r.emptyDirs && empty) then
              (w.complain call.name ("cannot remove " ++ quoted ++ ": " ++
                (if r.emptyDirs then "Directory not empty" else "Is a directory")), false)
            else if empty then
              if r.asking == .always then
                let (yes, w) := w.ask (call.name ++ ": remove directory " ++ quoted ++ "? ")
                if yes then excise w else (w, true)
              else excise w
            else
              let (go, w) := if r.asking == .always then
                  w.ask (call.name ++ ": descend into directory " ++ quoted ++ "? ")
                else (true, w)
              if !go then (w, true)
              else
                let (w, ok) := (w.fs.children path).foldl (fun (acc : Work × Bool) n =>
                  let (w, ok) := acc
                  let inner := if shown.endsWith "/" then shown ++ n else shown ++ "/" ++ n
                  let (w, fine) := removeTree call r fuel w inner (Path.child path n)
                  (w, ok && fine)) (w, true)
                if !ok then (w, false)
                else if (w.fs.children path).isEmpty then
                  if r.asking == .always then
                    let (yes, w) := w.ask (call.name ++ ": remove directory " ++ quoted ++ "? ")
                    if yes then excise w else (w, true)
                  else excise w
                else (w, true)

/-- Removes what an operand names.  Whether it all went. -/
def removeOperand (call : Call) (r : Removing) (w : Work) (f : String) : Work × Bool :=
  let last := (Path.names f).getLast?
  match w.fs.entryPath call.cwd f with
  | .error e =>
      if r.ignoreMissing && e == .noEntry then (w, true)
      else (w.complain call.name ("cannot remove " ++ Quoted.nameAlways f ++ ": " ++ e.describe), false)
  | .ok p =>
      let isDir := w.fs.isDirectoryAt p
      if isDir && (r.recursive || r.emptyDirs) && (last == some "." || last == some "..") then
        (w.complain call.name ("refusing to remove '.' or '..' directory: skipping " ++ Quoted.nameAlways f), false)
      else if isDir && r.recursive && r.preserveRoot && p == "/" then
        (w.complain call.name ("it is dangerous to operate recursively on " ++ Quoted.nameAlways f) |>.complain
          call.name "use --no-preserve-root to override this failsafe", false)
      else removeTree call r (w.fs.entries.length + 1) w f p

/-- `rm`: removes files, and with `-r` directories with everything in them. -/
def rm : Batch := fun fs call =>
  let keys := fun (n : Nat) => Char.ofNat (0xE000 + n)
  let spec : OptionSpec :=
    { shorts := [('f', .none), ('i', .none), ('I', .none), ('r', .none), ('R', .none), ('d', .none),
        ('v', .none)],
      longs := [⟨"force", 'f', .none⟩, ⟨"interactive", keys 0, .optional⟩, ⟨"recursive", 'r', .none⟩,
        ⟨"dir", 'd', .none⟩, ⟨"verbose", 'v', .none⟩, ⟨"one-file-system", keys 1, .none⟩,
        ⟨"no-preserve-root", keys 2, .none⟩, ⟨"preserve-root", keys 3, .optional⟩] }
  match spec.read call.args with
  | .error e => failed fs (e.message call.name) 1
  | .ok (opts, ops) =>
      let r := opts.foldl (fun (r : Removing) o =>
        match o.letter with
        | 'f' => { r with asking := .never, ignoreMissing := true }
        | 'i' => { r with asking := .always, ignoreMissing := false }
        | 'I' => { r with asking := .once, ignoreMissing := false }
        | 'r' | 'R' => { r with recursive := true }
        | 'd' => { r with emptyDirs := true }
        | 'v' => { r with verbose := true }
        | k =>
            if k == keys 0 then
              match o.value with
              | some "never" | some "no" | some "none" => { r with asking := .never }
              | some "once" => { r with asking := .once, ignoreMissing := false }
              | _ => { r with asking := .always, ignoreMissing := false }
            else if k == keys 2 then { r with preserveRoot := false }
            else if k == keys 3 then { r with preserveRoot := true }
            else r) {}
      if ops.isEmpty then
        if r.ignoreMissing then { fs } else usageError fs call "missing operand"
      else
        let w : Work := { fs, answers := answersOf call }
        let (go, w) := if r.asking == .once && (r.recursive || ops.length > 3) then
            let n := ops.length
            w.ask (call.name ++ ": remove " ++ toString n ++ (if n == 1 then " argument" else " arguments") ++
              (if r.recursive then " recursively" else "") ++ "? ")
          else (true, w)
        if !go then { err := w.err, fs, readInput := w.asked }
        else
          let (w, ok) := ops.foldl (fun (acc : Work × Bool) f =>
            let (w, ok) := acc
            let (w, fine) := removeOperand call r w f
            (w, ok && fine)) (w, true)
          { out := w.out, err := w.err, ending := .exited (if ok then 0 else 1), fs := w.fs,
            readInput := w.asked }

/-- Words a date may hold besides numbers. -/
def dateWords : List String :=
  ["now", "today", "yesterday", "tomorrow", "ago", "next", "last", "this", "am", "pm", "utc", "gmt",
   "z", "at", "day", "days", "week", "weeks", "fortnight", "fortnights", "month", "months", "year",
   "years", "hour", "hours", "minute", "minutes", "min", "mins", "second", "seconds", "sec", "secs",
   "jan", "feb", "mar", "apr", "may", "jun", "jul", "aug", "sep", "sept", "oct", "nov", "dec",
   "january", "february", "march", "april", "june", "july", "august", "september", "october",
   "november", "december", "sunday", "monday", "tuesday", "wednesday", "thursday", "friday",
   "saturday", "sun", "mon", "tue", "tues", "wed", "wednes", "thu", "thur", "thurs", "fri", "sat",
   "first", "third", "fourth", "fifth", "sixth", "seventh", "eighth", "ninth", "tenth", "eleventh",
   "twelfth", "t"]

/-- Whether a text reads as a date: each word a number of digits and separators, or a word of
dates. -/
def readsAsDate (s : String) : Bool :=
  let words := (s.split (fun c => c == ' ' || c == '\t' || c == ',')).toList.map (·.copy) |>.filter (!·.isEmpty)
  words.all fun w =>
    w.toList.all (fun c => c.isDigit || "-+:./".toList.contains c || c == 'T' || c == 'Z') ||
      dateWords.contains (String.ofList (w.toList.map Char.toLower))

/-- Whether a text is a stamp of `-t`: `[[CC]YY]MMDDhhmm[.ss]`. -/
def isStamp (s : String) : Bool :=
  let (main, secs) := match s.splitOn "." with
    | [m] => (m, "00")
    | [m, x] => (m, x)
    | _ => ("", "")
  main.toList.all Char.isDigit && secs.toList.all Char.isDigit && secs.length == 2 &&
    [8, 10, 12].contains main.length

/-- `touch`: makes empty files where none are, and marks the others as changed now, or at
the time of `-r`'s file, or (for `-d` and `-t`) at a time before all others. -/
def touch : Batch := fun fs call =>
  let keys := fun (n : Nat) => Char.ofNat (0xE000 + n)
  let spec : OptionSpec :=
    { shorts := [('a', .none), ('c', .none), ('f', .none), ('h', .none), ('m', .none), ('d', .required),
        ('r', .required), ('t', .required)],
      longs := [⟨"no-create", 'c', .none⟩, ⟨"date", 'd', .required⟩, ⟨"no-dereference", 'h', .none⟩,
        ⟨"reference", 'r', .required⟩, ⟨"time", keys 0, .required⟩] }
  match spec.read call.args with
  | .error e => failed fs (e.message call.name) 1
  | .ok (opts, ops) =>
      let badDate := (opts.filter (fun o => o.letter == 'd')).find? (fun o => !readsAsDate (o.value.getD ""))
      let badStamp := (opts.filter (fun o => o.letter == 't')).find? (fun o => !isStamp (o.value.getD ""))
      match badDate, badStamp with
      | some o, _ => failed fs (call.name ++ ": invalid date format " ++ Quoted.value (o.value.getD "") ++ "\n") 1
      | _, some o => failed fs (call.name ++ ": invalid date format " ++ Quoted.value (o.value.getD "") ++ "\n") 1
      | none, none =>
          let reference : Except String (Option Nat) := match optValue opts 'r' with
            | some ref =>
                match fs.resolve call.cwd ref with
                | .ok p => .ok (some (fs.stampAt p))
                | .error e => .error (call.name ++ ": failed to get attributes of " ++ Quoted.nameAlways ref ++ ": " ++
                    e.describe ++ "\n")
            | none => .ok (if hasOpt opts 'd' || hasOpt opts 't' then some 0 else none)
          match reference with
          | .error m => failed fs m 1
          | .ok stamp =>
              if ops.isEmpty then usageError fs call "missing file operand"
              else
                let mode := 0o666 &&& (0o7777 - (call.umask &&& 0o777))
                let mark := fun (fs : Fs) (p : String) => match stamp with
                  | some t => fs.setStamp p t
                  | none => fs.touchPaths [p]
                let w := ops.foldl (fun (w : Work) f =>
                  match w.fs.locate call.cwd f with
                  | .ok (.fresh p) =>
                      if hasOpt opts 'c' || hasOpt opts 'h' then w
                      else { w with fs := mark (w.fs.createFile p "" mode) p }
                  | .ok (.existing p) => { w with fs := mark w.fs p }
                  | .error e =>
                      if hasOpt opts 'c' && e == .noEntry then w
                      else w.complain call.name ("cannot touch " ++ Quoted.nameAlways f ++ ": " ++ e.describe)) { fs }
                { err := w.err, ending := .exited (if w.err.isEmpty then 0 else 1), fs := w.fs }

/-! ## Paths -/

/-- The last name of a path as `basename` gives it: the root for a path of slashes. -/
def lastName (p : String) : String :=
  if p.isEmpty then ""
  else
    match (Path.names p).getLast? with
    | some n => n
    | none => "/"

/-- A name without a suffix, unless the suffix is all of it. -/
def stripSuffix (suffix n : String) : String :=
  if n != suffix && n.endsWith suffix && n != "/" then (n.dropEnd suffix.length).copy else n

/-- The directory part of a path as `dirname` gives it: the path without its last name and
the slashes before that name, `.` when nothing is left, and the root kept. -/
def dirPart (p : String) : String :=
  let cs := p.toList
  let trimmed := (cs.reverse.dropWhile (· == '/')).reverse
  if trimmed.isEmpty then (if cs.isEmpty then "." else "/")
  else
    let upto := (trimmed.reverse.dropWhile (· != '/')).reverse
    if upto.isEmpty then "."
    else
      let d := (upto.reverse.dropWhile (· == '/')).reverse
      if d.isEmpty then "/" else String.ofList d

/-- `basename`: the last name of a path, a suffix removed; with `-a` or `-s` of every
operand.  Options end at the first operand. -/
def basename : Batch := fun fs call =>
  let spec : OptionSpec :=
    { shorts := [('a', .none), ('s', .required), ('z', .none)],
      longs := [⟨"multiple", 'a', .none⟩, ⟨"suffix", 's', .required⟩, ⟨"zero", 'z', .none⟩],
      inOrder := true }
  match spec.read call.args with
  | .error e => failed fs (e.message call.name) 1
  | .ok (opts, ops) =>
      let eol := if hasOpt opts 'z' then "\x00" else "\n"
      let multiple := hasOpt opts 'a' || hasOpt opts 's'
      match ops with
      | [] => usageError fs call "missing operand"
      | p :: rest =>
          if multiple then
            let suffix := (optValue opts 's').getD ""
            { out := String.join (ops.map fun p => stripSuffix suffix (lastName p) ++ eol), fs }
          else
            match rest with
            | [] => { out := lastName p ++ eol, fs }
            | [s] => { out := stripSuffix s (lastName p) ++ eol, fs }
            | _ => usageError fs call ("extra operand " ++ Quoted.value (ops.getD 2 ""))

/-- `dirname`: the directory part of each path. -/
def dirname : Batch := fun fs call =>
  let spec : OptionSpec := { shorts := [('z', .none)], longs := [⟨"zero", 'z', .none⟩] }
  match spec.read call.args with
  | .error e => failed fs (e.message call.name) 1
  | .ok (opts, ops) =>
      let eol := if hasOpt opts 'z' then "\x00" else "\n"
      if ops.isEmpty then usageError fs call "missing operand"
      else { out := String.join (ops.map (dirPart · ++ eol)), fs }

/-- `pwd`: the working directory; the logical one with `-L` when `PWD` names it. -/
def pwd : Batch := fun fs call =>
  match getopt ['L', 'P'] [] [("logical", 'L'), ("physical", 'P')] call.args with
  | .error e => failed fs (e.message call.name) 1
  | .ok (opts, _) =>
      let logical := (opts.filter (fun o => o.letter == 'L' || o.letter == 'P')).getLast?.map (·.letter) == some 'L'
      match call.getenv "PWD" with
      | some p =>
          let same := match fs.resolve "/" p with
            | .ok q => q == call.cwd
            | .error _ => false
          if logical && Path.isAbsolute p && same then { out := p ++ "\n", fs }
          else { out := call.cwd ++ "\n", fs }
      | none => { out := call.cwd ++ "\n", fs }

/-! ## The environment -/

/-- `printenv`: the environment, or the values of the named variables, each ending with a
newline (or a zero octet with `-0`). -/
def printenv : Batch := fun fs call =>
  match getopt ['0'] [] [("null", '0')] call.args with
  | .error e => failed fs (e.message call.name) 2
  | .ok (opts, names) =>
      let ending := if hasOpt opts '0' then String.singleton (Char.ofNat 0) else "\n"
      let lines := fun (ls : List String) => String.join (ls.map (· ++ ending))
      match names with
      | [] => { out := lines call.envp, fs }
      | _ =>
          let values := names.map fun n => if n.contains '=' then none else call.getenv n
          { out := lines values.reduceOption,
            ending := .exited (if values.all Option.isSome then 0 else 1), fs }

/-- Starts a program the way `execvp` does: a name with a slash directly, any other name from
the directories of `PATH`, trying the next one while the last was missing; a directory whose
file cannot be run is remembered as a refusal. -/
def startByName (start : Starter) (p : Process) (name : String) : Proc (Except Errno Ending) :=
  if name.contains '/' then start name p
  else
    let dirs := ((p.getenv "PATH").getD "/bin:/usr/bin").splitOn ":"
    dirs.foldlM (fun (acc : Except Errno Ending) d =>
      match acc with
      | .error .noEntry | .error .notDirectory =>
          start (Path.join (if d.isEmpty then "." else d) name) p
      | .error .permission => do
          match ← start (Path.join (if d.isEmpty then "." else d) name) p with
          | .ok r => pure (.ok r)
          | .error _ => pure (.error .permission)
      | other => pure other) (.error .noEntry)

/-- What `env` is asked to do: what it writes when it only prints or refuses, or the
command to run with its environment and working directory. -/
inductive EnvPlan where
  /-- Print or refuse, as this batch run says. -/
  | report (r : Run)
  /-- Run the command `argv` with the environment `envp` in the directory `cwd`. -/
  | exec (argv : List String) (envp : List String) (cwd : String)

/-- Splits the string of `env -S` into words: blanks separate them, single quotes keep text as
it is (but for `\\` and `\'`), double quotes keep blanks and read escapes, a backslash outside
quotes reads `\n`, `\t`, `\f`, `\r`, `\v`, `\_` (a blank that separates), `\#`, `\$`,
`\"`, `\'` and `\\`, and `\c` ends the string; `#` starting a word starts a comment, and
`${NAME}` is the value of a variable.  Gives the message for a string it refuses. -/
def splitString (getenv : String → Option String) (s : String) : Except String (List String) :=
  let blank := fun (c : Char) => c == ' ' || c == '\t' || c == '\n' || c.toNat == 11 || c.toNat == 12 || c == '\r'
  let rec go : Nat → List Char → Option Char → Option (List Char) → List String → Except String (List String)
    | 0, _, _, cur, words => .ok (words ++ (cur.map (fun c => [String.ofList c.reverse])).getD [])
    | fuel + 1, cs, quote, cur, words =>
        let finish := fun (ws : List String) => ws ++ (cur.map (fun c => [String.ofList c.reverse])).getD []
        let add := fun (c : Char) (rest : List Char) => go fuel rest quote (some (c :: cur.getD [])) words
        match cs, quote with
        | [], none => .ok (finish words)
        | [], some '\'' => .error "no terminating quote in -S string"
        | [], some _ => .error "no terminating quote in -S string"
        | '\'' :: rest, some '\'' => go fuel rest none (some (cur.getD [])) words
        | '\\' :: x :: rest, some '\'' =>
            if x == '\\' || x == '\'' then add x rest else go fuel (x :: rest) quote (some ('\\' :: cur.getD [])) words
        | c :: rest, some '\'' => add c rest
        | '"' :: rest, some '"' => go fuel rest none (some (cur.getD [])) words
        | '\'' :: rest, none => go fuel rest (some '\'') (some (cur.getD [])) words
        | '"' :: rest, none => go fuel rest (some '"') (some (cur.getD [])) words
        | '#' :: _, none =>
            if cur.isNone then .ok words else add '#' (cs.drop 1)
        | '$' :: '{' :: rest, _ =>
            let name := rest.takeWhile (· != '}')
            if name.length == rest.length then
              .error ("only $\x7bVARNAME\x7d expansion is supported, error at: $" ++ String.singleton (Char.ofNat 123))
            else
              let value := (getenv (String.ofList name)).getD ""
              go fuel (rest.drop (name.length + 1)) quote (some (value.toList.reverse ++ cur.getD [])) words
        | '$' :: _, _ => .error ("only $\x7bVARNAME\x7d expansion is supported, error at: " ++ String.ofList cs)
        | '\\' :: x :: rest, _ =>
            match x with
            | 'c' => if quote.isSome then .error "'\\c' must not appear in double-quoted -S string" else .ok (finish words)
            | '_' =>
                if quote.isSome then add ' ' rest
                else go fuel rest quote none (finish words)
            | 'n' => add '\n' rest
            | 't' => add '\t' rest
            | 'f' => add (Char.ofNat 12) rest
            | 'r' => add '\r' rest
            | 'v' => add (Char.ofNat 11) rest
            | '#' | '$' | '"' | '\'' | '\\' => add x rest
            | _ => .error ("invalid sequence '\\" ++ String.singleton x ++ "' in -S")
        | ['\\'], _ => .error "invalid backslash at end of string in -S"
        | c :: rest, none =>
            if blank c then go fuel rest none none (finish words) else add c rest
        | c :: rest, some _ => add c rest
  go (2 * s.length + 2) s.toList none none []

/-- Expands the `-S` options of `env` in its arguments, before the first operand. -/
def expandSplit (getenv : String → Option String) : Nat → List String → Except String (List String)
  | 0, args => .ok args
  | fuel + 1, args =>
      match args with
      | [] => .ok []
      | a :: rest =>
          let spliced := fun (text : String) (more : List String) =>
            (splitString getenv text).bind fun ws => expandSplit getenv fuel (ws ++ more)
          if a == "-S" || a == "--split-string" then
            match rest with
            | t :: more => spliced t more
            | [] => .ok args
          else if a.startsWith "--split-string=" then spliced (a.drop 15).copy rest
          else if a.startsWith "-S" then spliced (a.drop 2).copy rest
          else if a == "--" || a == "-" || !a.startsWith "-" then .ok args
          else if a == "-u" || a == "-C" || a == "--unset" || a == "--chdir" then
            (expandSplit getenv fuel (rest.drop 1)).map fun r => a :: rest.take 1 ++ r
          else (expandSplit getenv fuel rest).map (a :: ·)

/-- What `env` is asked to do by its arguments. -/
def envPlan (fs : Fs) (call : Call) : EnvPlan :=
  let prog := call.name
  let usage := fun (msg : String) => EnvPlan.report (failed fs (prog ++ ": " ++ msg ++ "\n" ++
    "Try '" ++ prog ++ " --help' for more information.\n") 125)
  match expandSplit call.getenv (call.args.length + 1) call.args with
  | .error msg => .report (failed fs (prog ++ ": " ++ msg ++ "\n") 125)
  | .ok args =>
  match getoptInOrder ['i', '0', 'v'] ['u', 'C'] [("ignore-environment", 'i'), ("unset", 'u'),
      ("chdir", 'C'), ("null", '0'), ("debug", 'v')] args with
  | .error e => .report (failed fs (e.message prog) 125)
  | .ok (opts, rest) =>
      let (ignore, rest) := match rest with
        | "-" :: more => (true, more)
        | _ => (hasOpt opts 'i', rest)
      let base := if ignore then [] else call.envp
      let unset := (opts.filter (·.letter == 'u')).filterMap (·.value)
      match unset.find? (fun n => n.isEmpty || n.contains '=') with
      | some bad => .report (failed fs (prog ++ ": cannot unset " ++ Quoted.value bad ++ ": Invalid argument\n") 125)
      | none =>
      let base := base.filter (fun e => !unset.any (fun n => e.startsWith (n ++ "=")))
      let assigns := rest.takeWhile (fun a => a.contains '=')
      let command := rest.drop assigns.length
      let envp := assigns.foldl (fun (acc : List String) a =>
        let n := (a.splitOn "=").headD ""
        if acc.any (fun e => e.startsWith (n ++ "=")) then
          acc.map (fun e => if e.startsWith (n ++ "=") then a else e)
        else acc ++ [a]) base
      let dir := optValue opts 'C'
      match command with
      | [] =>
          if dir.isSome then usage "must specify command with --chdir (-C)"
          else if hasOpt opts '0' then .report { out := String.join (envp.map (· ++ String.ofList [Char.ofNat 0])), fs }
          else .report { out := unlines envp, fs }
      | _ =>
          if hasOpt opts '0' then usage "cannot specify --null (-0) with command"
          else
            match dir with
            | none => .exec command envp call.cwd
            | some d =>
                match fs.resolve call.cwd d with
                | .ok p =>
                    if fs.isDirectoryAt p then .exec command envp p
                    else .report (failed fs (prog ++ ": cannot change directory to " ++ Quoted.value d ++
                      ": Not a directory\n") 125)
                | .error e => .report (failed fs (prog ++ ": cannot change directory to " ++ Quoted.value d ++
                    ": " ++ e.describe ++ "\n") 125)

/-- `env`: prints the environment, or runs a program with a changed one. -/
def env (start : Starter) : Program := fun p => do
  let w ← get
  let call : Call := { argv := p.argv, envp := p.envp, cwd := p.cwd, input := .ok "" }
  match envPlan w.fs call with
  | .report r => Batch.program (fun _ _ => r) p
  | .exec argv envp cwd =>
      let name := argv.headD ""
      match ← startByName start { p with argv, envp, cwd } name with
      | .ok ending => pure ending
      | .error e =>
          Batch.program (fun fs _ => failed fs (call.name ++ ": " ++ Quoted.value name ++ ": " ++
            e.describe ++ "\n") (if e == .noEntry then 127 else 126)) p

/-- `true`. -/
def succeed : Batch := fun fs _ => { fs }

/-- `false`. -/
def fail : Batch := fun fs _ => { fs, ending := .exited 1 }

/-- The milliseconds an interval of `sleep` stands for: a number that is not negative and at
most one unit letter after it (`s`, `m`, `h` or `d`); nothing when it is not one. -/
def intervalMillis (arg : String) : Option Nat :=
  match Text.readNumber arg.toList with
  | none => none
  | some r =>
      let unit : Option Nat := match r.rest with
        | [] => some 1000
        | ['s'] => some 1000
        | ['m'] => some 60000
        | ['h'] => some 3600000
        | ['d'] => some 86400000
        | _ => none
      match r.number, unit with
      | .finite b, some u =>
          if b.negative && b.significand != 0 then none
          else
            let (num, den) := b.fraction
            some (num * u / den)
      | .infinite false, some _ => some (86400000 * 365)
      | _, _ => none

/-- `sleep`: waits for the sum of its intervals. -/
def sleep : Batch := fun fs call =>
  match ({} : OptionSpec).read call.args with
  | .error e => failed fs (e.message call.name) 1
  | .ok (_, ops) =>
      if ops.isEmpty then usageError fs call "missing operand"
      else
        let bad := ops.filter (fun a => (intervalMillis a).isNone)
        if !bad.isEmpty then
          failed fs (String.join (bad.map fun a => call.name ++ ": invalid time interval " ++ Quoted.value a ++ "\n") ++
            "Try '" ++ call.name ++ " --help' for more information.\n") 1
        else { fs := fs.advance ((ops.filterMap intervalMillis).foldl (· + ·) 0) }

end Conch.Programs
