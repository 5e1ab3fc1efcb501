import Conch.Programs.Files

/-!
# Building command lines: `xargs`

`xargs` reads items from its standard input and runs a command (`echo` by default) with its
initial arguments followed by as many items as fit, as often as needed; the commands read
`/dev/null` as their standard input.

*Items.*  By default items are separated by blanks and newlines; single and double quotes
keep blanks in an item (a quote left open is an error), and a backslash keeps the next
character.  A line ending with a blank goes on into the next line.  With `-0` or `-d C`
items are separated by a zero octet or `C` alone and nothing else is special.  `-E S` stops
reading at an item equal to `S`.

*Batches.*  `-n N` runs at most `N` items a command, `-L N` the items of at most `N` lines,
and `-I R` one command per line, with `R` in the initial arguments replaced by the line.  The
command line may hold `-s N` octets (131072 by default).  With `-r` no command runs when
there are no items; otherwise one runs at least once.  `-t` writes each command line to the
standard error before running it.

*Status.*  0, or 123 when some command ended with a status from 1 to 125.  A command that
ends with 255 stops `xargs` with 124, one killed by a signal with 125, and one that cannot
be found (127) or run (126) stops it at once.

Main definition: `xargs`.
-/

namespace Conch.Programs

namespace Xargs

/-- How `xargs` reads and batches its items. -/
structure Config where
  /-- The separator when items are not read with quotes: a zero octet for `-0`. -/
  delimiter : Option Char := none
  maxArgs : Option Nat := none
  maxLines : Option Nat := none
  replace : Option String := none
  trace : Bool := false
  noRunIfEmpty : Bool := false
  eofString : Option String := none
  maxChars : Nat := 131072
  exitOnSize : Bool := false
  argFile : Option String := none

/-- How a call to read the next line of items ended. -/
inductive Reading where
  /-- A line was read: the items it gave, whether it counts as a line, and the input after
  it.  `stop` when the end-of-input item or the end of the input was met. -/
  | line (items : List String) (counted : Bool) (stop : Bool) (rest : List Char)
  /-- A quote was left open: the items read before, and whether it was a double quote. -/
  | unmatched (items : List String) (double : Bool)

/-- The states of reading a line with quotes. -/
inductive ReadState where
  | space
  | norm
  | quote (q : Char)
  | backslash
  deriving DecidableEq

/-- Whether a character is a blank. -/
def isBlank (c : Char) : Bool := c == ' ' || c == '\t'

/-- Whether a character is white space. -/
def isSpace (c : Char) : Bool := isBlank c || c == '\n' || c.toNat == 11 || c.toNat == 12 || c == '\r'

/-- Reads the next line of items with quotes.  In `whole` mode (for `-I`) blanks do not
separate items and the line is one item.  `cur` is the item being read, reversed; `items` the
items read, reversed.  Each character takes at most two steps of `fuel`. -/
def readQuoted (whole : Bool) (eof : Option String) :
    Nat → List Char → ReadState → Option Char → List Char → Bool → Bool → List String → Reading
  | 0, _, _, _, _, _, _, items => .line items.reverse false true []
  | fuel + 1, cs, st, prev, cur, seen, first, items =>
      let isEof := fun (s : String) => eof == some s
      match cs with
      | [] =>
          -- At the end of the input an item still being read is kept, unless it is empty;
          -- a quote left open in it is an error.
          if cur.isEmpty then .line items.reverse false true []
          else
            match st with
            | .quote q => .unmatched items.reverse (q == '"')
            | _ =>
                let item := String.ofList cur.reverse
                if first && isEof item then .line items.reverse false true []
                else .line (item :: items).reverse false true []
      | c :: rest =>
          let addChar := fun (st' : ReadState) =>
            readQuoted whole eof fuel rest st' (some c) (c :: cur) seen first items
          match st with
          | .space =>
              if isSpace c then readQuoted whole eof fuel rest .space (some c) cur seen first items
              else normChar whole eof fuel c rest prev cur seen first items
          | .norm => normChar whole eof fuel c rest prev cur seen first items
          | .quote q =>
              if c == '\n' then .unmatched items.reverse (q == '"')
              else if c == q then readQuoted whole eof fuel rest .norm (some c) cur true first items
              else addChar (.quote q)
          | .backslash => addChar .norm
where
  /-- A character read in the normal state. -/
  normChar (whole : Bool) (eof : Option String) (fuel : Nat) (c : Char) (rest : List Char)
      (prev : Option Char) (cur : List Char) (seen first : Bool) (items : List String) : Reading :=
    let item := String.ofList cur.reverse
    if c == '\n' then
      let counted := !(prev.map isBlank).getD false
      if cur.isEmpty && !seen then
        match fuel with
        | 0 => .line items.reverse counted true []
        | f + 1 => readQuoted whole eof f rest .space (some c) [] false first items
      else if eof == some item then .line items.reverse counted true []
      else .line (item :: items).reverse counted false rest
    else if !whole && isBlank c then
      if eof == some item then .line items.reverse false true []
      else
        match fuel with
        | 0 => .line (item :: items).reverse false true []
        | f + 1 => readQuoted whole eof f rest .space (some c) [] false false (item :: items)
    else
      let next : ReadState := if c == '\\' then .backslash
        else if c == '\'' || c == '"' then .quote c else .norm
      let cur := if next == .norm then c :: cur else cur
      match fuel with
      | 0 => .line items.reverse false true []
      | f + 1 => readQuoted whole eof f rest next (some c) cur true first items

/-- Reads the next item separated by `d` alone. -/
def readDelimited (d : Char) (cs : List Char) : Reading :=
  match cs with
  | [] => .line [] false true []
  | _ =>
      let item := cs.takeWhile (· != d)
      let rest := cs.drop (item.length + 1)
      let ended := item.length < cs.length
      .line [String.ofList item] ended (!ended) rest

/-- Reads the next line of items. -/
def Config.read (cfg : Config) (cs : List Char) : Reading :=
  match cfg.delimiter with
  | some d => readDelimited d cs
  | none => readQuoted cfg.replace.isSome cfg.eofString (2 * cs.length + 2) cs .space none [] false true []

/-- A number argument of an option, at least `least`. -/
def numberOf (prog : String) (o : Opt) (least : Nat) : Except String Nat :=
  let v := o.value.getD "1"
  match v.toInt? with
  | none => .error (prog ++ ": invalid number \"" ++ v ++ "\" for -" ++ String.singleton o.letter ++ " option\n" ++
      "Try '" ++ prog ++ " --help' for more information.\n")
  | some n =>
      if n < least then .error (prog ++ ": value " ++ v ++ " for -" ++ String.singleton o.letter ++
        " option should be >= " ++ toString least ++ "\n" ++ "Try '" ++ prog ++ " --help' for more information.\n")
      else .ok n.toNat

/-- Applies an option to the configuration. -/
def applyOpt (prog : String) (cfg : Config) (o : Opt) : Except String Config :=
  match o.letter with
  | '0' => .ok { cfg with delimiter := some (Char.ofNat 0) }
  | 'd' =>
      let v := o.value.getD ""
      let d := match v.toList with
        | ['\\', 'n'] => '\n'
        | ['\\', 't'] => '\t'
        | ['\\', '0'] => Char.ofNat 0
        | ['\\', '\\'] => '\\'
        | c :: _ => c
        | [] => Char.ofNat 0
      .ok { cfg with delimiter := some d }
  | 'a' => .ok { cfg with argFile := o.value }
  | 'E' => .ok { cfg with eofString := o.value }
  | 'e' => .ok { cfg with eofString := o.value }
  | 'I' => .ok { cfg with replace := o.value, maxLines := some 1, maxArgs := none, exitOnSize := true }
  | 'i' => .ok { cfg with replace := some (o.value.getD "\x7b\x7d"), maxLines := some 1, maxArgs := none,
                          exitOnSize := true }
  | 'L' | 'l' => (numberOf prog o 1).map fun n => { cfg with maxLines := some n, maxArgs := none, replace := none }
  | 'n' => (numberOf prog o 1).map fun n => { cfg with maxArgs := some n, maxLines := none, replace := none }
  | 's' => (numberOf prog o 1).map fun n => { cfg with maxChars := n }
  | 'P' => (numberOf prog o 0).map fun _ => cfg
  | 't' | 'p' => .ok { cfg with trace := true }
  | 'r' => .ok { cfg with noRunIfEmpty := true }
  | 'x' => .ok { cfg with exitOnSize := true }
  | _ => .ok cfg

/-- The state of a run of `xargs`. -/
structure State where
  /-- The items waiting for the next command. -/
  pending : List String := []
  lines : Nat := 0
  ran : Bool := false
  /-- Whether some command ended with a status from 1 to 125. -/
  failedOnce : Bool := false

/-- How a run of a command ended for `xargs`: go on, or stop with a status. -/
inductive Next where
  | goOn
  /-- The command ended with a status from 1 to 125: go on, ending with 123. -/
  | failed
  | stop (code : Nat)

/-- Replaces every occurrence of `pat` in `s` by `new`. -/
def replaceAll (s pat new : String) : String :=
  if pat.isEmpty then s else new.intercalate (s.splitOn pat)

/-- The text `-t` writes for a command line. -/
def traceLine (argv : List String) : String :=
  String.join (argv.map (· ++ " ")) ++ "\n"

end Xargs

open Xargs in
/-- `xargs`: runs a command with arguments read from the standard input. -/
def xargs (start : Starter) : Program := fun p => do
  let prog := p.name
  let spec : OptionSpec :=
    { shorts := [('0', .none), ('a', .required), ('d', .required), ('E', .required), ('e', .optional),
                 ('I', .required), ('i', .optional), ('L', .required), ('l', .optional),
                 ('n', .required), ('P', .required), ('p', .none), ('r', .none), ('s', .required),
                 ('t', .none), ('x', .none), ('o', .none)],
      longs := [⟨"null", '0', .none⟩, ⟨"arg-file", 'a', .required⟩, ⟨"delimiter", 'd', .required⟩,
                ⟨"eof", 'e', .optional⟩, ⟨"replace", 'i', .optional⟩, ⟨"max-lines", 'l', .optional⟩,
                ⟨"max-args", 'n', .required⟩, ⟨"max-procs", 'P', .required⟩,
                ⟨"interactive", 'p', .none⟩, ⟨"no-run-if-empty", 'r', .none⟩,
                ⟨"max-chars", 's', .required⟩, ⟨"verbose", 't', .none⟩, ⟨"exit", 'x', .none⟩,
                ⟨"open-tty", 'o', .none⟩],
      inOrder := true }
  match spec.read p.args with
  | .error e => do
      p.warn (e.message prog)
      pure (.exited 1)
  | .ok (opts, command) =>
  let configured := opts.foldlM (applyOpt prog) ({} : Config)
  match configured with
  | .error msg => do
      p.warn msg
      pure (.exited 1)
  | .ok cfg =>
  let command := if command.isEmpty then ["echo"] else command
  -- The items come from the argument file, or else from the standard input.
  let input ← match cfg.argFile with
    | some f => do
        let w ← get
        match w.fs.stat p.cwd f with
        | .ok ⟨.file n, _⟩ => pure (Except.ok (w.fs.contentOf n))
        | .ok ⟨.directory, _⟩ => pure (.error (prog ++ ": " ++ f ++ ": Is a directory\n"))
        | .ok _ => pure (.ok "")
        | .error e => pure (.error (prog ++ ": Cannot open input file " ++ Quoted.value f ++ ": " ++ e.describe ++ "\n"))
    | none => do
        match ← p.read 0 none with
        | .ok t => pure (.ok t)
        | .error e => pure (.error (prog ++ ": read error: " ++ e.describe ++ "\n"))
  match input with
  | .error msg => do
      p.warn msg
      pure (.exited 1)
  | .ok input =>
  -- Commands read /dev/null unless the items come from a file.
  let childFds ← if cfg.argFile.isSome then pure p.fds else do
    match ← p.openFile "/dev/null" .reading with
    | .ok c => pure ((0, c) :: p.fds.filter (·.1 != 0))
    | .error _ => pure p.fds
  let runOne : List String → Proc Next := fun argv => do
    if cfg.trace then p.warn (traceLine argv)
    let name := argv.headD ""
    match ← startByName start { p with argv, fds := childFds } name with
    | .ok (.exited 0) => pure .goOn
    | .ok (.exited 255) => do
        p.warn (prog ++ ": " ++ name ++ ": exited with status 255; aborting\n")
        pure (.stop 124)
    | .ok (.exited _) => pure .failed
    | .ok (.signaled s) => do
        p.warn (prog ++ ": " ++ name ++ ": terminated by signal " ++ toString s ++ "\n")
        pure (.stop 125)
    | .error e => do
        p.warn (prog ++ ": " ++ name ++ ": " ++ e.describe ++ "\n")
        pure (.stop (if e == Errno.noEntry then 127 else 126))
  -- Runs the command with the pending items.
  let flush : State → Proc (Next × State) := fun st => do
    let r ← runOne (command ++ st.pending)
    let st := { st with pending := [], lines := 0, ran := true }
    match r with
    | .failed => pure (.goOn, { st with failedOnce := true })
    | other => pure (other, st)
  let sizeOf := fun (args : List String) => (args.map fun (a : String) => a.length + 1).foldr (· + ·) 0
  let baseSize := sizeOf command
  if baseSize > cfg.maxChars then do
    p.warn (prog ++ ": cannot fit single argument within argument list size limit\n")
    pure (.exited 1)
  else
  -- Pushes an item, running the command first when it would not fit and after when the
  -- batch is full.
  let push : State → String → Proc (Next × State) := fun st item => do
    let (r, st) ← if !st.pending.isEmpty && baseSize + sizeOf st.pending + item.length + 1 > cfg.maxChars then
        flush st
      else pure (.goOn, st)
    match r with
    | .stop c => pure (.stop c, st)
    | _ =>
        let st := { st with pending := st.pending ++ [item] }
        match cfg.maxArgs with
        | some n => if st.pending.length ≥ n then flush st else pure (.goOn, st)
        | none => pure (.goOn, st)
  let finish : State → Proc Ending := fun st => do
    let (r, st) ← if !st.pending.isEmpty || (!cfg.noRunIfEmpty && !st.ran && cfg.replace.isNone) then flush st
      else pure (.goOn, st)
    match r with
    | .stop c => pure (.exited c)
    | _ => pure (.exited (if st.failedOnce then 123 else 0))
  let rec loop : Nat → List Char → State → Proc Ending
    | 0, _, st => finish st
    | fuel + 1, cs, st => do
        match cfg.read cs with
        | .unmatched items double => do
            -- What was read before the open quote still runs.
            let st ← items.foldlM (fun (st : State) i => do
              let (_, st) ← push st i
              pure st) st
            if cfg.replace.isNone && !st.pending.isEmpty then
              let _ ← flush st
            p.warn (prog ++ ": unmatched " ++ (if double then "double" else "single") ++
              " quote; by default quotes are special to xargs unless you use the -0 option\n")
            pure (.exited 1)
        | .line items counted stop rest =>
            match cfg.replace with
            | some pat => do
                match items with
                | [] => if stop then finish st else loop fuel rest st
                | _ =>
                    let line := " ".intercalate items
                    let argv := command.map (replaceAll · pat line)
                    let r ← runOne argv
                    let st := { st with ran := true }
                    match r with
                    | .failed =>
                        let st := { st with failedOnce := true }
                        if stop then finish st else loop fuel rest st
                    | .stop c => pure (.exited c)
                    | .goOn => if stop then finish st else loop fuel rest st
            | none => do
                let rec pushAll : List String → State → Proc (Next × State)
                  | [], st => pure (.goOn, st)
                  | i :: more, st => do
                      let (r, st) ← push st i
                      match r with
                      | .stop c => pure (.stop c, st)
                      | _ => pushAll more st
                let (r, st) ← pushAll items st
                match r with
                | .stop c => pure (.exited c)
                | _ =>
                    let st := if counted then { st with lines := st.lines + 1 } else st
                    let (r, st) ← match cfg.maxLines with
                      | some n => if st.lines ≥ n && !st.pending.isEmpty then flush st else pure (.goOn, st)
                      | none => pure (.goOn, st)
                    match r with
                    | .stop c => pure (.exited c)
                    | _ => if stop then finish st else loop fuel rest st
  loop (input.length + 2) input.toList {}

end Conch.Programs
