import Conch.Programs.Stream
import Conch.Text.Size
import Conch.Text.Utf8

/-!
# Text filters

The installed programs that read text and write parts of it or counts: `rev`, `head`, `tail`
and `wc`, and the reading of operands that the other filters share.  Each reads its file
operands in order, `-` or no operand standing for its standard input, reports a file it
cannot read on its error stream and carries on, and ends with status 1 when some file could
not be read.

Texts are compared by their code points, which is the byte order of their octets, as in the
C locale.

Main definitions: `readAll`, `rev`, `head`, `tail`, `wc` and `compareTexts`.
-/

namespace Conch.Programs

/-- Reads the operands of a filter in order: the texts read, the error text, and whether every
operand could be read.  `complain` words the message for an operand that could not be. -/
def readAll (fs : Fs) (call : Call) (complain : String → Errno → String) (ops : List String) :
    List (String × String) × String × Bool :=
  ops.foldl (fun (acc : List (String × String) × String × Bool) op =>
    match call.readOperand fs op with
    | .ok text => (acc.1 ++ [(op, text)], acc.2.1, acc.2.2)
    | .error e => (acc.1, acc.2.1 ++ complain op e, false)) ([], "", true)

/-- A run of a filter that wrote `out` and `err`, ending with `code` unless everything went
well. -/
def filterRun (fs : Fs) (ops : List String) (out err : String) (ok : Bool) (code : Nat) : Run :=
  { out, err, ending := .exited (if ok then 0 else code), fs, readInput := ops.contains "-" }

/-- The usual message for an operand that could not be read. -/
def plainComplaint (prog : String) (op : String) (e : Errno) : String :=
  prog ++ ": " ++ Quoted.name true op ++ ": " ++ e.describe ++ "\n"

/-! ## rev -/

/-- The lines `rev` writes for a text read from `name`, and the message when it stops early:
characters are single octets below 128, so a line with any other octet cannot be read, and
the text stops there with the count of lines read before it. -/
def revText (prog name text : String) : String × String :=
  let rec go : List String → Nat → String → String × String
    | [], _, out => (out, "")
    | l :: more, n, out =>
        if l.toList.any (fun (c : Char) => c.toNat ≥ 128) then
          (out, prog ++ ": " ++ name ++ ": " ++ toString n ++
            ": Invalid or incomplete multibyte or wide character\n")
        else
          let line := if l.endsWith "\n" then String.ofList (l.dropEnd 1).copy.toList.reverse ++ "\n"
            else String.ofList l.toList.reverse
          go more (n + 1) (out ++ line)
  go (linesKeep text) 0 ""

/-- `rev`: reverses the characters of each line.  Operands are files (`-` included); with
none, the standard input is read. -/
def rev : Batch := fun fs call =>
  let prog := call.name
  let ops := call.args
  let sources : List (String × Except Errno String) :=
    if ops.isEmpty then [("stdin", call.input)]
    else ops.map fun op => (op, call.readFile fs op)
  let (out, err, ok) := sources.foldl (fun (acc : String × String × Bool) src =>
    let (out, err, ok) := acc
    match src with
    | (name, .ok text) =>
        let (o, e) := revText prog name text
        (out ++ o, err ++ e, ok && e.isEmpty)
    | (name, .error .isDirectory) =>
        (out, err ++ prog ++ ": " ++ name ++ ": 0: Is a directory\n", false)
    | (name, .error e) =>
        (out, err ++ prog ++ ": cannot open " ++ name ++ ": " ++ e.describe ++ "\n", false)) ("", "", true)
  { out, err, ending := .exited (if ok then 0 else 1), fs, readInput := ops.isEmpty }

/-! ## head and tail -/

/-- How many lines or octets `head` or `tail` keeps. -/
structure Amount where
  /-- Count octets instead of lines. -/
  bytes : Bool := false
  /-- The count. -/
  count : Nat := 10
  /-- For `head`: all but the last `count`; for `tail`: from the `count`-th on. -/
  flipped : Bool := false
  /-- Lines end with a zero octet instead of a newline. -/
  zero : Bool := false
  deriving Repr

/-- The octet that ends a line. -/
def Amount.delimiter (a : Amount) : Char := if a.zero then Char.ofNat 0 else '\n'

/-- The lines of a text, each with its delimiter kept (a last line may have none). -/
def splitKeep (d : Char) (s : String) : List String :=
  let ls := s.splitOn (String.ofList [d])
  match ls.getLast? with
  | some "" => ls.dropLast.map (· ++ String.ofList [d])
  | _ => ls.dropLast.map (· ++ String.ofList [d]) ++ ls.getLast?.toList

/-- The size suffixes a count of `head` or `tail` may carry. -/
def countSuffixes : List Char := "bkKmMGTPEZYRQ".toList

/-- Reads the count of `-n` or `-c`, or gives the message refusing it. -/
def readAmountCount (prog : String) (bytes : Bool) (v : String) : Except String Nat :=
  let what := prog ++ ": invalid number of " ++ (if bytes then "bytes" else "lines") ++ ": " ++
    Quoted.value v
  match Text.readSize countSuffixes true v with
  | .ok n => .ok n
  | .error .invalid => .error (what ++ "\n")
  | .error .overflow => .error (what ++ ": Value too large for defined data type\n")

/-- The header `head` and `tail` put before each file when they show several. -/
def fileHeader (first : Bool) (name : String) : String :=
  (if first then "" else "\n") ++ "==> " ++ (if name == "-" then "standard input" else name) ++ " <==\n"

/-- Keeps the start of a text: what is written, and how many octets of the text were read to
write it, when the text comes through a pipe (`pipe`) or from a file that is set back to just
after what was written. -/
def headOf (a : Amount) (pipe : Bool) (text : String) : String × Nat :=
  if a.bytes then
    let kept := if a.flipped then (text.take (text.length - a.count)).copy else (text.take a.count).copy
    (kept, if a.flipped then text.length else kept.length)
  else
    let ls := splitKeep a.delimiter text
    let kept := String.join (if a.flipped then ls.take (ls.length - a.count) else ls.take a.count)
    let read := if a.flipped || a.count == 0 then (if a.flipped then text.length else 0)
      else if pipe then min text.length ((kept.length / 8192 + 1) * 8192)
      else kept.length
    (kept, read)

/-- Keeps the end of a text. -/
def tailOf (a : Amount) (text : String) : String :=
  if a.bytes then
    if a.flipped then (text.drop (a.count - 1)).copy else (text.drop (text.length - a.count)).copy
  else
    let ls := splitKeep a.delimiter text
    String.join (if a.flipped then ls.drop (a.count - 1) else ls.drop (ls.length - a.count))

/-- Shows the files of `head` or `tail` in turn: `keep` gives what to write of a text and how
much of it was read, the standard input being read from where the last reading left it. -/
def showEnds (prog : String) (fs : Fs) (call : Call) (ops : List String) (headers : Bool)
    (keep : String → String × Nat) : Run :=
  let (out, err, ok, _, rest) := ops.foldl (fun (acc : String × String × Bool × Bool × Option String) op =>
    let (out, err, ok, first, rest) := acc
    let text : Except Errno String := if op == "-" then
        match rest, call.input with
        | some r, _ => .ok r
        | none, i => i
      else call.readFile fs op
    match text with
    | .ok t =>
        let (kept, read) := keep t
        let rest := if op == "-" then some (t.drop read).copy else rest
        (out ++ (if headers then fileHeader first op else "") ++ kept, err, ok, false, rest)
    | .error .isDirectory =>
        (out ++ (if headers then fileHeader first op else ""),
         err ++ prog ++ ": error reading " ++ Quoted.nameAlways op ++ ": Is a directory\n", false, false, rest)
    | .error e =>
        (out, err ++ prog ++ ": cannot open " ++ Quoted.nameAlways op ++ " for reading: " ++
          e.describe ++ "\n", false, first, rest)) ("", "", true, true, none)
  { out, err, ending := .exited (if ok then 0 else 1), fs, unread := rest }

/-- The options of `head`. -/
def headSpec : OptionSpec :=
  { shorts := [('c', .required), ('n', .required), ('q', .none), ('v', .none), ('z', .none)],
    longs := [⟨"bytes", 'c', .required⟩, ⟨"lines", 'n', .required⟩, ⟨"quiet", 'q', .none⟩,
              ⟨"silent", 'q', .none⟩, ⟨"verbose", 'v', .none⟩, ⟨"zero-terminated", 'z', .none⟩,
              ⟨"presume-input-pipe", 'P', .none⟩] }

/-- The old form of `head`'s first argument, `-N` followed by option letters (`c`, `b`, `k`
or `m` for octets, `l` for lines, `q`, `v`, `z`), as options; a letter that is none of these
is refused. -/
def headOldForm (prog : String) (arg : String) : Except String (List Opt) :=
  let cs := (arg.drop 1).copy.toList
  let digits := cs.takeWhile Char.isDigit
  let letters := cs.dropWhile Char.isDigit
  let step := fun (acc : Except String (Bool × Option Char × List Opt)) (c : Char) =>
    match acc with
    | .error e => .error e
    | .ok (bytes, mult, opts) =>
        match c with
        | 'c' => .ok (true, none, opts)
        | 'b' | 'k' | 'm' => .ok (true, some c, opts)
        | 'l' => .ok (false, mult, opts)
        | 'q' | 'v' | 'z' => .ok (bytes, mult, opts ++ [⟨c, none⟩])
        | _ => .error (prog ++ ": invalid trailing option -- " ++ String.ofList [c] ++ "\n" ++
            "Try '" ++ prog ++ " --help' for more information.\n")
  match letters.foldl step (.ok (false, none, [])) with
  | .error e => .error e
  | .ok (bytes, mult, opts) =>
      .ok (⟨if bytes then 'c' else 'n', some (String.ofList (digits ++ mult.toList))⟩ :: opts)

/-- The amount the options ask for, the last of `-n` and `-c` winning. -/
def amountOf (prog : String) (opts : List Opt) (forTail : Bool) : Except String Amount :=
  let zero := hasOpt opts 'z'
  match opts.reverse.find? (fun o => o.letter == 'n' || o.letter == 'c') with
  | none => .ok { zero }
  | some o =>
      let v := o.value.getD ""
      let bytes := o.letter == 'c'
      let (flipped, v) :=
        if forTail then (v.startsWith "+", if v.startsWith "-" then (v.drop 1).copy else v)
        else if v.startsWith "-" then (true, (v.drop 1).copy) else (false, v)
      (readAmountCount prog bytes v).map fun n => { bytes, count := n, flipped, zero }

/-- Whether `head` or `tail` shows headers: always with `-v`, never with `-q`, the later of
the two winning, and else when there are several files. -/
def showHeaders (opts : List Opt) (files : Nat) : Bool :=
  match (opts.filter (fun o => o.letter == 'q' || o.letter == 'v')).getLast? with
  | some o => o.letter == 'v'
  | none => files > 1

/-- `head`: the start of files. -/
def head : Batch := fun fs call =>
  let prog := call.name
  let (old, words) : Except String (List Opt) × List String := match call.args with
    | a :: rest =>
        if a.startsWith "-" && (a.toList.getD 1 ' ').isDigit then (headOldForm prog a, rest)
        else (.ok [], call.args)
    | [] => (.ok [], [])
  match old with
  | .error msg => failed fs msg 1
  | .ok old =>
      match headSpec.read words with
      | .error e => failed fs (e.message prog) 1
      | .ok (opts, ops) =>
          let opts := old ++ opts
          match amountOf prog opts false with
          | .error msg => failed fs msg 1
          | .ok a =>
              let ops := orInput ops
              let pipe := !call.inputIsFile
              showEnds prog fs call ops (showHeaders opts ops.length) (headOf a pipe)

/-- The options of `tail`. -/
def tailSpec : OptionSpec :=
  { shorts := [('c', .required), ('n', .required), ('f', .none), ('F', .none), ('q', .none),
               ('s', .required), ('v', .none), ('z', .none)] ++
              "0123456789".toList.map (·, ArgKind.none),
    longs := [⟨"bytes", 'c', .required⟩, ⟨"follow", 'f', .optional⟩, ⟨"lines", 'n', .required⟩,
              ⟨"max-unchanged-stats", 'M', .required⟩, ⟨"pid", 'p', .required⟩,
              ⟨"quiet", 'q', .none⟩, ⟨"retry", 'r', .none⟩, ⟨"silent", 'q', .none⟩,
              ⟨"sleep-interval", 's', .required⟩, ⟨"verbose", 'v', .none⟩,
              ⟨"zero-terminated", 'z', .none⟩, ⟨"presume-input-pipe", 'P', .none⟩] }

/-- The old form of `tail`'s arguments: one word `+N` or `-N` with an optional unit (`b`, `c`
or `l`) and `f`, and at most one file.  Gives the amount, or nothing when the words are not of
that form. -/
def tailOldForm (prog : String) (args : List String) : Option (Except String Amount × List String) :=
  let fits := match args with
    | [_] => true
    | [_, "--"] | [_, "--", _] => true
    | [_, f] => !(f.startsWith "-" && f.length > 1)
    | _ => false
  match args with
  | a :: rest =>
      match a.toList with
      | sign :: body =>
          let ok := fits && (sign == '+' || (sign == '-' && !body.isEmpty && body != ['c']))
          let digits := body.takeWhile Char.isDigit
          let after := body.dropWhile Char.isDigit
          let (bytes, scale, after) := match after with
            | 'b' :: more => (true, 512, more)
            | 'c' :: more => (true, 1, more)
            | 'l' :: more => (false, 1, more)
            | _ => (false, 1, after)
          let after := match after with
            | 'f' :: more => more
            | _ => after
          if !ok || !after.isEmpty then none
          else
            let rest := match rest with
              | "--" :: more => more
              | _ => rest
            let count : Except String Nat := if digits.isEmpty then .ok (10 * scale)
              else match Text.readSize ['b'] false (String.ofList digits) with
                | .ok n => .ok (n * scale)
                | .error _ => .error (prog ++ ": invalid number: " ++ Quoted.value a ++ "\n")
            some (count.map (fun n => { bytes, count := n, flipped := sign == '+' }), rest)
      | [] => none
  | [] => none

/-- `tail`: the end of files. -/
def tail : Batch := fun fs call =>
  let prog := call.name
  let finish := fun (a : Amount) (opts : List Opt) (ops : List String) =>
    let ops := orInput ops
    let r := showEnds prog fs call ops (showHeaders opts ops.length) (fun t => (tailOf a t, t.length))
    { r with unread := none, readInput := ops.contains "-" }
  match tailOldForm prog call.args with
  | some (.error msg, _) => failed fs msg 1
  | some (.ok a, ops) => finish a [] ops
  | none =>
      match tailSpec.read call.args with
      | .error (.invalid c) => failed fs (OptError.message prog (.invalid c)) 1
      | .error e => failed fs (e.message prog) 1
      | .ok (opts, ops) =>
          match opts.find? (fun o => o.letter.isDigit) with
          | some o => failed fs (prog ++ ": option used in invalid context -- " ++
              String.ofList [o.letter] ++ "\n") 1
          | none =>
              match amountOf prog opts true with
              | .error msg => failed fs msg 1
              | .ok a => finish a opts ops

/-! ## wc -/

/-- The counts of a text: lines, words, characters, bytes and the longest line. -/
structure Counts where
  lines : Nat := 0
  words : Nat := 0
  bytes : Nat := 0
  longest : Nat := 0
  deriving Repr

/-- Whether an octet is printable in the C locale. -/
def isPrintableOctet (c : Char) : Bool := ' ' ≤ c && c ≤ '~'

/-- One octet's step of counting: words so far, whether a word is open, the widest line so far
and the column reached.  In the C locale a printable octet other than a space takes a column
and belongs to a word; a space takes a column and ends a word; a tab moves to the next
multiple of eight columns and ends a word; a newline, carriage return or form feed starts a
new line and ends a word; a vertical tab ends a word; any other octet does nothing. -/
def countStep (acc : Nat × Bool × Nat × Nat) (c : Char) : Nat × Bool × Nat × Nat :=
  let (words, inWord, widest, col) := acc
  let close := if inWord then words + 1 else words
  if c == '\n' || c == '\r' || c.toNat == 12 then (close, false, max widest col, 0)
  else if c == '\t' then (close, false, widest, col + 8 - col % 8)
  else if c == ' ' then (close, false, widest, col + 1)
  else if c.toNat == 11 then (close, false, widest, col)
  else if isPrintableOctet c then (words, true, widest, col + 1)
  else acc

/-- Counts a text. -/
def countText (s : String) : Counts :=
  let cs := s.toList
  let (words, inWord, widest, col) := cs.foldl countStep (0, false, 0, 0)
  { lines := cs.count '\n', words := if inWord then words + 1 else words, bytes := s.length,
    longest := max widest col }

/-- Adds counts. -/
def Counts.add (a b : Counts) : Counts :=
  { lines := a.lines + b.lines, words := a.words + b.words, bytes := a.bytes + b.bytes,
    longest := max a.longest b.longest }

/-- The number of decimal digits of a number. -/
def digitCount (n : Nat) : Nat := (toString n).length

/-- `wc`: counts lines, words and bytes. -/
def wc : Batch := fun fs call =>
  match getopt ['l', 'w', 'c', 'm', 'L'] [] [("lines", 'l'), ("words", 'w'), ("bytes", 'c'),
      ("chars", 'm'), ("max-line-length", 'L')] call.args with
  | .error e => failed fs (e.message call.name) 1
  | .ok (opts, ops) =>
      let none := !(hasOpt opts 'l' || hasOpt opts 'w' || hasOpt opts 'c' || hasOpt opts 'm' ||
        hasOpt opts 'L')
      let showL := none || hasOpt opts 'l'
      let showW := none || hasOpt opts 'w'
      let showM := hasOpt opts 'm'
      let showC := none || hasOpt opts 'c'
      let showLL := hasOpt opts 'L'
      let shown := [showL, showW, showM, showC, showLL].count true
      let named := !ops.isEmpty
      let files := orInput ops
      -- What each operand is: readable text (and whether it is a regular file), or an error.
      let looks : List (String × Except Errno (String × Bool)) := files.map fun f =>
        if f == "-" then (f, call.input.map (fun t => (t, call.inputIsFile)))
        else
          match fs.stat call.cwd f with
          | .error e => (f, .error e)
          | .ok e =>
              match e.node with
              | .directory => (f, .error .isDirectory)
              | .file n => (f, .ok (fs.contentOf n, true))
              | _ => (f, .ok ("", false))
      let width :=
        if files.length == 1 && shown == 1 then 1
        else
          match looks.head? with
          | some (_, .error .noEntry) => 1
          | some (_, .error .notDirectory) => 1
          | _ =>
              let regular := looks.foldl (fun n l => match l.2 with
                | .ok (t, true) => n + t.length
                | _ => n) 0
              let minimum := if looks.any (fun l => match l.2 with
                | .ok (_, false) => true
                | .error .isDirectory => true
                | _ => false) then 7 else 1
              max (digitCount regular) minimum
      let render := fun (c : Counts) (label : Option String) =>
        let nums := (if showL then [c.lines] else []) ++ (if showW then [c.words] else []) ++
          (if showM then [c.bytes] else []) ++ (if showC then [c.bytes] else []) ++
          (if showLL then [c.longest] else [])
        " ".intercalate (nums.map (fun n => padLeft width (toString n))) ++
          (match label with
           | some l => " " ++ l
           | Option.none => "") ++ "\n"
      let (out, err, ok, total) := looks.foldl (fun (acc : String × String × Bool × Counts) l =>
        let (out, err, ok, total) := acc
        match l.2 with
        | .ok (t, _) =>
            let c := countText t
            (out ++ render c (if named then some l.1 else Option.none), err, ok, total.add c)
        | .error .isDirectory =>
            (out ++ render {} (if named then some l.1 else Option.none),
             err ++ plainComplaint call.name l.1 .isDirectory, false, total)
        | .error e => (out, err ++ plainComplaint call.name l.1 e, false, total)) ("", "", true, {})
      let out := if files.length > 1 then out ++ render total (some "total") else out
      filterRun fs files out err ok 1

/-! ## Comparing texts -/

/-- Compares two texts by their characters. -/
def compareTexts (a b : String) : Ordering :=
  if a < b then .lt else if b < a then .gt else .eq

end Conch.Programs
