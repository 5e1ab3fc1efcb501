import Conch.Programs.Text
import Conch.Programs.Pattern
import Conch.Script.Glob

/-!
# Searching text

`grep` writes the lines of its input that match one of its patterns: basic regular
expressions, extended ones with `-E`, or fixed texts with `-F`.  The patterns are the
arguments of `-e` and the lines of the files of `-f`, or else the first operand; each line of
them is a pattern of its own, and an empty one matches every line.

*Reading the patterns.*  Each pattern is first read as the system's regular expression
compiler reads it; one it refuses is reported with the compiler's message, and `grep` ends
with status 2 before reading any input.  Then the patterns are scanned as the matcher's
scanner does, which warns about a backslash before a character that has no meaning after one
(`stray \ before d`), and, in extended patterns, about a repetition operator where an
expression starts; it refuses `[:space:]` written without the outer brackets.

*Selecting.*  A line is selected when it matches (or, with `-v`, when it does not); `-x` asks
for the whole line, `-w` for a match with no word character on either side, and `-i`
ignores case.  `-m` stops after so many selected lines.

*Writing.*  Each selected line is written, after its file's name when there are several files
(or with `-H`), its number (`-n`) and its octet offset (`-b`), each followed by `:`; context
lines asked for with `-A`, `-B` or `-C` are written the same way with `-`, and a line `--`
separates groups of lines that are not adjacent.  Instead, `-c` writes the number of selected
lines, `-l` and `-L` the names of the files with and without one, `-o` each matching part
on a line of its own, and `-q` nothing.

*Binary files.*  A file with a zero octet is binary (unless `-a` or `-z`): its zero octets
end lines too, and instead of its first selected line `grep` writes that the binary file
matches, and reads no further.

*Status.*  0 when a line was selected, 1 when none was, and 2 when a pattern was refused or a
file could not be read (unless `-q` selected a line).

Main definition: `grep`.
-/

namespace Conch.Programs

namespace Grep

/-- What `grep` was asked to do. -/
structure Config where
  /-- `G`, `E`, `F` or `P`, the kind of the patterns. -/
  kind : Char := 'G'
  icase : Bool := false
  invert : Bool := false
  word : Bool := false
  line : Bool := false
  count : Bool := false
  /-- `some true` for `-l`, `some false` for `-L`. -/
  list : Option Bool := none
  only : Bool := false
  quiet : Bool := false
  silent : Bool := false
  offsets : Bool := false
  numbers : Bool := false
  /-- `some true` for `-H`, `some false` for `-h`. -/
  names : Option Bool := none
  nullNames : Bool := false
  nullData : Bool := false
  text : Bool := false
  skipBinary : Bool := false
  before : Option Nat := none
  after : Option Nat := none
  maxCount : Option Nat := none
  recursive : Bool := false
  includes : List String := []
  excludes : List String := []
  excludeDirs : List String := []
  label : String := "(standard input)"
  separator : Option String := some "--"
  deriving Repr

/-- The options of `grep`. -/
def spec : OptionSpec :=
  { shorts := ("0123456789".toList.map (·, ArgKind.none)) ++
      [('A', .required), ('B', .required), ('C', .required), ('D', .required), ('E', .none),
       ('F', .none), ('G', .none), ('H', .none), ('I', .none), ('L', .none), ('P', .none),
       ('R', .none), ('T', .none), ('U', .none), ('V', .none), ('Z', .none), ('a', .none),
       ('b', .none), ('c', .none), ('d', .required), ('e', .required), ('f', .required),
       ('h', .none), ('i', .none), ('l', .none), ('m', .required), ('n', .none), ('o', .none),
       ('q', .none), ('r', .none), ('s', .none), ('u', .none), ('v', .none), ('w', .none),
       ('x', .none), ('y', .none), ('z', .none)]
    longs := [⟨"basic-regexp", 'G', .none⟩, ⟨"extended-regexp", 'E', .none⟩,
      ⟨"fixed-regexp", 'F', .none⟩, ⟨"fixed-strings", 'F', .none⟩, ⟨"perl-regexp", 'P', .none⟩,
      ⟨"after-context", 'A', .required⟩, ⟨"before-context", 'B', .required⟩,
      ⟨"binary-files", 'W', .required⟩, ⟨"byte-offset", 'b', .none⟩,
      ⟨"context", 'C', .required⟩, ⟨"color", 'K', .optional⟩, ⟨"colour", 'K', .optional⟩,
      ⟨"count", 'c', .none⟩, ⟨"devices", 'D', .required⟩, ⟨"directories", 'd', .required⟩,
      ⟨"exclude", 'X', .required⟩, ⟨"exclude-from", 'Y', .required⟩,
      ⟨"exclude-dir", 'J', .required⟩, ⟨"file", 'f', .required⟩,
      ⟨"files-with-matches", 'l', .none⟩, ⟨"files-without-match", 'L', .none⟩,
      ⟨"group-separator", 'g', .required⟩, ⟨"include", 'N', .required⟩,
      ⟨"ignore-case", 'i', .none⟩, ⟨"no-ignore-case", 'O', .none⟩,
      ⟨"initial-tab", 'T', .none⟩, ⟨"label", 'S', .required⟩, ⟨"line-buffered", 'Q', .none⟩,
      ⟨"line-number", 'n', .none⟩, ⟨"line-regexp", 'x', .none⟩, ⟨"max-count", 'm', .required⟩,
      ⟨"no-filename", 'h', .none⟩, ⟨"no-group-separator", 'j', .none⟩,
      ⟨"no-messages", 's', .none⟩, ⟨"null", 'Z', .none⟩, ⟨"null-data", 'z', .none⟩,
      ⟨"only-matching", 'o', .none⟩, ⟨"quiet", 'q', .none⟩, ⟨"recursive", 'r', .none⟩,
      ⟨"dereference-recursive", 'R', .none⟩, ⟨"regexp", 'e', .required⟩,
      ⟨"invert-match", 'v', .none⟩, ⟨"silent", 'q', .none⟩, ⟨"text", 'a', .none⟩,
      ⟨"binary", 'U', .none⟩, ⟨"unix-byte-offsets", 'u', .none⟩, ⟨"version", 'V', .none⟩,
      ⟨"with-filename", 'H', .none⟩, ⟨"word-regexp", 'w', .none⟩] }

/-- How `grep` says how it is called, after refusing its options. -/
def usage : String :=
  "Usage: grep [OPTION]... PATTERNS [FILE]...\nTry 'grep --help' for more information.\n"

/-- Reads a context length. -/
def contextLength (v : String) : Except String Nat :=
  let ds := v.toList
  if !ds.isEmpty && ds.all Char.isDigit then
    .ok (ds.foldl (fun (n : Nat) (c : Char) => n * 10 + (c.toNat - 48)) 0)
  else .error (v ++ ": invalid context length argument")

/-- Applies one option to a configuration, or refuses it. -/
def applyOpt (c : Config) (o : Opt) : Except String Config :=
  let v := o.value.getD ""
  match o.letter with
  | 'E' | 'F' | 'G' | 'P' =>
      if c.kind != 'G' && c.kind != o.letter && o.letter != 'G' then
        .error "conflicting matchers specified"
      else .ok { c with kind := o.letter }
  | 'i' | 'y' => .ok { c with icase := true }
  | 'O' => .ok { c with icase := false }
  | 'v' => .ok { c with invert := true }
  | 'w' => .ok { c with word := true }
  | 'x' => .ok { c with line := true }
  | 'c' => .ok { c with count := true }
  | 'l' => .ok { c with list := some true }
  | 'L' => .ok { c with list := some false }
  | 'o' => .ok { c with only := true }
  | 'q' => .ok { c with quiet := true }
  | 's' => .ok { c with silent := true }
  | 'b' => .ok { c with offsets := true }
  | 'n' => .ok { c with numbers := true }
  | 'H' => .ok { c with names := some true }
  | 'h' => .ok { c with names := some false }
  | 'Z' => .ok { c with nullNames := true }
  | 'z' => .ok { c with nullData := true }
  | 'a' => .ok { c with text := true }
  | 'I' => .ok { c with skipBinary := true }
  | 'W' =>
      if v == "text" then .ok { c with text := true }
      else if v == "without-match" then .ok { c with skipBinary := true }
      else if v == "binary" then .ok c
      else .error "unknown binary-files type"
  | 'A' => (contextLength v).map fun n => { c with after := some n }
  | 'B' => (contextLength v).map fun n => { c with before := some n }
  | 'C' => (contextLength v).map fun n =>
      { c with after := some (c.after.getD n), before := some (c.before.getD n) }
  | 'm' =>
      match v.toInt? with
      | some n => .ok { c with maxCount := if n < 0 then none else some n.toNat }
      | none => .error "invalid max count"
  | 'r' | 'R' => .ok { c with recursive := true }
  | 'd' => if v == "recurse" then .ok { c with recursive := true } else .ok c
  | 'N' => .ok { c with includes := c.includes ++ [v] }
  | 'X' => .ok { c with excludes := c.excludes ++ [v] }
  | 'J' => .ok { c with excludeDirs := c.excludeDirs ++ [v] }
  | 'S' => .ok { c with label := v }
  | 'g' => .ok { c with separator := some v }
  | 'j' => .ok { c with separator := none }
  | _ => .ok c

/-- The configuration the options give, or the message refusing them.  Digit options
together give the context on both sides. -/
def configOf (opts : List Opt) : Except String Config :=
  let digits := String.ofList ((opts.filter (·.letter.isDigit)).map (·.letter))
  match opts.foldlM applyOpt {} with
  | .error m => .error m
  | .ok c =>
      if digits.isEmpty then .ok c
      else (contextLength digits).map fun n =>
        { c with after := some (c.after.getD n), before := some (c.before.getD n) }

/-! ## Scanning patterns -/

/-- The message for a backslash before a character that means nothing after one. -/
def strayMessage (c : Char) : String :=
  if c.toNat < 32 || c.toNat ≥ 127 then "stray \\ before unprintable character"
  else if c == ' ' then "stray \\ before white space"
  else "stray \\ before " ++ String.singleton c

/-- The characters that mean something after a backslash to the scanner. -/
def knownEscapes : List Char := "\\^$123456789`'<>bB?*+\x7b|().sSwW[".toList

/-- Skips a bracket expression after its `[`, as the scanner reads it: the text after its `]`,
and whether it was written like a class without its outer brackets. -/
def skipBracket (cs : List Char) : List Char × Bool :=
  let cs := match cs with
    | '^' :: rest => rest
    | _ => cs
  let firstColon := cs.head? == some ':'
  let rec go : Nat → Bool → List Char → Nat → List Char × Nat
    | 0, _, rest, st => (rest, st)
    | _, _, [], st => ([], st)
    | fuel + 1, first, c :: rest, st =>
        if c == ']' && !first then (rest, st)
        else if c == '[' && (rest.head? == some ':' || rest.head? == some '.' || rest.head? == some '=') then
          let delim := rest.headD ':'
          let body := rest.drop 1
          let name := body.takeWhile (· != delim)
          match body.drop name.length with
          | _ :: ']' :: after => go fuel false after (st ||| 8)
          | _ => go fuel false rest ((st &&& 13) ||| 4)
        else go fuel false rest ((st &&& 13) ||| (if c == ':' then 2 else 4))
  let (rest, st) := go (cs.length + 1) true cs (if firstColon then 1 else 0)
  (rest, st == 7)

/-- Reads an interval after its `{` for the scanner: the text after it, if it is well formed. -/
def skipInterval (extended : Bool) (cs : List Char) : Option (List Char) :=
  let lo := cs.takeWhile Char.isDigit
  let rest := cs.drop lo.length
  let (hasComma, rest) := match rest with
    | ',' :: more => (true, more)
    | _ => (false, rest)
  let hi := if hasComma then rest.takeWhile Char.isDigit else []
  let rest := rest.drop hi.length
  let num := fun (ds : List Char) => ds.foldl (fun (n : Nat) (c : Char) => n * 10 + (c.toNat - 48)) 0
  let closing := if extended then ['}'] else ['\\', '}']
  if rest.take closing.length != closing then none
  else if lo.isEmpty && !hasComma then none
  else if hasComma && !lo.isEmpty && !hi.isEmpty && num lo > num hi then none
  else some (rest.drop closing.length)

/-- The scanner's warnings for a pattern, or the message it refuses it with.  `start` says
whether an expression starts here. -/
def scan (extended : Bool) : Nat → Bool → List Char → Except String (List String)
  | 0, _, _ => .ok []
  | _, _, [] => .ok []
  | fuel + 1, start, c :: rest =>
      let warnStart := fun (what : String) (after : List Char) (start' : Bool) =>
        (scan extended fuel start' after).map fun ws =>
          if start && extended then (what ++ " at start of expression") :: ws else ws
      if c == '\\' then
        match rest with
        | [] => .ok []
        | d :: more =>
            if !knownEscapes.contains d then
              (scan extended fuel false more).map (strayMessage d :: ·)
            else if !extended && (d == '(' || d == '|') then scan extended fuel true more
            else if !extended && d == '{' && !start then
              match skipInterval false more with
              | some after => scan extended fuel false after
              | none => scan extended fuel false more
            else if "<>bB`'".toList.contains d then scan extended fuel start more
            else if !extended && (d == '+' || d == '?') && !start then scan extended fuel start more
            else scan extended fuel false more
      else if c == '[' then
        let (after, confusing) := skipBracket rest
        if confusing then .error "character class syntax is [[:space:]], not [:space:]"
        else scan extended fuel false after
      else if extended && (c == '(' || c == '|') then scan extended fuel true rest
      else if c == '\n' then scan extended fuel true rest
      else if c == '^' || c == '$' then scan extended fuel start rest
      else if c == '*' then
        if start && !extended then scan extended fuel false rest else warnStart "*" rest start
      else if extended && (c == '+' || c == '?') then warnStart (String.singleton c) rest start
      else if extended && c == '{' then
        match skipInterval true rest with
        | some after => warnStart "\x7b...\x7d" after false
        | none => scan extended fuel false rest
      else scan extended fuel false rest

/-! ## Matching lines -/

/-- A compiled pattern. -/
abbrev Compiled := Pattern.Re

/-- Whether a match from `i` to `e` is acceptable in a line of `n` characters. -/
def Config.accepts (c : Config) (s : Pattern.Subject) (i e : Nat) : Bool :=
  if c.line then i == 0 && e == s.cs.size
  else if c.word then
    (i == 0 || !s.wordAt (i - 1)) && (e == s.cs.size || !s.wordAt e)
  else true

/-- Whether a line matches one of the patterns. -/
def Config.matches (c : Config) (res : List Compiled) (line : String) : Bool :=
  let s := Pattern.Subject.of c.icase line
  res.any (fun r => Pattern.search s r (c.accepts s))

/-- The matching parts of a line, leftmost-longest across the patterns, each with its
start. -/
def Config.parts (c : Config) (res : List Compiled) (line : String) : List (Nat × String) :=
  let s := Pattern.Subject.of c.icase line
  let raw := line.toList
  let rec go : Nat → Nat → List (Nat × String)
    | 0, _ => []
    | fuel + 1, pos =>
        let found := res.filterMap fun r => Pattern.firstMatch s r pos (c.accepts s)
        let best := found.foldl (fun (acc : Option (Nat × Nat)) m =>
          match acc with
          | none => some (m.1, m.2.1)
          | some (a, e) =>
              if m.1 < a || (m.1 == a && m.2.1 > e) then some (m.1, m.2.1) else some (a, e)) none
        match best with
        | none => []
        | some (a, e) =>
            if e > a then (a, String.ofList ((raw.drop a).take (e - a))) :: go fuel e
            else go fuel (a + 1)
  go (raw.length + 2) 0

/-! ## Files -/

/-- Whether a name passes the `--include` and `--exclude` globs. -/
def Config.wanted (c : Config) (name : String) : Bool :=
  let base := Path.baseName name
  let fits := fun (g : String) => Script.Glob.accepts (g.toList.map (·, false)) base
  (c.includes.isEmpty || c.includes.any fits) && !c.excludes.any fits

/-- The regular files below a directory, depth first with each directory's entries in name
order, written as `shown` followed by their path below it. -/
def filesBelow (c : Config) (fs : Fs) : Nat → String → String → List String
  | 0, _, _ => []
  | fuel + 1, real, shown =>
      ((fs.children real).mergeSort (fun a b => decide (a ≤ b))).flatMap fun n =>
        let r := Path.child real n
        let s := if shown.isEmpty then n else if shown.endsWith "/" then shown ++ n else shown ++ "/" ++ n
        if fs.isDirectoryAt r then
          if c.excludeDirs.any (fun g => Script.Glob.accepts (g.toList.map (·, false)) n) then []
          else filesBelow c fs fuel r s
        else if c.wanted n then [s] else []

/-- The files a search reads, each with whether it was found by descending into a directory
operand. -/
def searched (c : Config) (fs : Fs) (cwd : String) (ops : List String) : List (String × Bool) :=
  if !c.recursive then (orInput ops).map (·, false)
  else
    let below := fun (real shown : String) => (filesBelow c fs fs.entries.length real shown).map (·, true)
    match ops with
    | [] => below cwd ""
    | _ => ops.flatMap fun op =>
        match fs.resolve cwd op with
        | .ok real => if fs.isDirectoryAt real then below real op else [(op, false)]
        | .error _ => [(op, false)]

/-! ## Output -/

/-- What searching one file gave: its output, its messages, how many lines were selected,
whether it was output anything (for separators), and what it left unread. -/
structure FileResult where
  out : String := ""
  err : String := ""
  selected : Nat := 0
  printed : Bool := false
  unread : Option String := none

/-- The lines of a file's text, split at `eol` (and at zero octets when `zap`), each with its
octet offset. -/
def splitLines (eol : Char) (zap : Bool) (text : String) : List (Nat × String) :=
  let cs := text.toList
  let ends := fun (c : Char) => c == eol || (zap && c == Char.ofNat 0)
  let rec go : Nat → Nat → List Char → List Char → List (Nat × String)
    | 0, _, _, _ => []
    | fuel + 1, start, cur, rest =>
        match rest with
        | [] => if cur.isEmpty then [] else [(start, String.ofList cur.reverse)]
        | d :: more =>
            if ends d then (start, String.ofList cur.reverse) :: go fuel (start + cur.length + 1) [] more
            else go fuel start (d :: cur) more
  go (cs.length + 2) 0 [] cs

/-- Searches one file's text and writes what `grep` writes for it.  `name` is its name in
output, `showName` whether lines carry it, and `used` whether anything was output before. -/
def searchText (c : Config) (res : List Compiled) (name : String) (showName : Bool) (used : Bool)
    (isFile : Bool) (text : String) : FileResult :=
  let eol := if c.nullData then Char.ofNat 0 else '\n'
  let eolText := String.singleton eol
  let binary := !c.text && !c.nullData && text.toList.contains (Char.ofNat 0)
  if binary && c.skipBinary then {}
  else
    let lines := splitLines eol binary text
    let quietMode := c.quiet || c.list.isSome || (binary && !c.count)
    let stopAtFirst := c.quiet || c.list.isSome || binary
    let limit := if stopAtFirst then some (min 1 (c.maxCount.getD 1)) else c.maxCount
    let marks := lines.map fun (_, l) => c.matches res l != c.invert
    let indexed := (List.range lines.length).zip marks
    let chosen := (indexed.filter (·.2)).map (·.1)
    let chosen := match limit with
      | some m => chosen.take m
      | none => chosen
    let count := chosen.length
    let stopped := match limit with
      | some m => chosen.length == m && m > 0
      | none => false
    let lastChosen := chosen.getLast?.getD 0
    let nameSep := fun (sep : String) =>
      if showName then name ++ (if c.nullNames then String.singleton (Char.ofNat 0) else sep) else ""
    let lead := fun (i : Nat) (offset : Nat) (sep : String) =>
      nameSep sep ++ (if c.numbers then toString (i + 1) ++ sep else "") ++
        (if c.offsets then toString offset ++ sep else "")
    let unread := if stopped && isFile then
        match lines[lastChosen + 1]? with
        | some (off, _) => some ((text.drop off).copy)
        | none => some ""
      else none
    if quietMode then
      let listed := match c.list with
        | some true => if count > 0 then name ++ (if c.nullNames then String.singleton (Char.ofNat 0) else "\n") else ""
        | some false => if count == 0 then name ++ (if c.nullNames then String.singleton (Char.ofNat 0) else "\n") else ""
        | none => ""
      let counted := if c.count then nameSep ":" ++ toString count ++ "\n" else ""
      let err := if binary && !c.quiet && c.list.isNone && !c.count && count > 0 then
          "grep: " ++ name ++ ": binary file matches\n" else ""
      { out := if c.quiet then "" else counted ++ listed, err, selected := count, unread }
    else if c.count then
      { out := nameSep ":" ++ toString count ++ "\n", selected := count, unread }
    else if c.only then
      let out := String.join (chosen.map fun i =>
        match lines[i]? with
        | some (off, l) =>
            if c.invert then ""
            else String.join ((c.parts res l).map fun (a, part) => lead i (off + a) ":" ++ part ++ eolText)
        | none => "")
      { out, selected := count, printed := !out.isEmpty, unread }
    else
      let before := c.before.getD 0
      let after := c.after.getD 0
      let contextOn := c.before.isSome || c.after.isSome
      let lastLine := if stopped then min (lines.length - 1) (lastChosen + after) else lines.length - 1
      let shown := fun (i : Nat) =>
        i ≤ lastLine && chosen.any (fun j => (j ≤ i + before && i ≤ j + after))
      let (out, lastOut, _) := ((List.range lines.length).zip lines).foldl
        (fun (acc : String × Option Nat × Bool) q =>
          let (i, off, l) := q
          let (out, lastOut, usedHere) := acc
          if shown i then
            let gap := match lastOut with
              | some last => last + 1 < i
              | none => usedHere
            let sepLine := match c.separator with
              | some s => if contextOn && gap then s ++ "\n" else ""
              | none => ""
            let mark := if chosen.contains i then ":" else "-"
            (out ++ sepLine ++ lead i off mark ++ l ++ eolText, some i, usedHere)
          else acc) ("", none, used)
      { out, selected := count, printed := lastOut.isSome, unread }

end Grep

open Grep in
/-- `grep`: writes the lines that match a pattern. -/
def grep : Batch := fun fs call =>
  let prog := call.name
  match spec.read call.args with
  | .error e => failed fs (prog ++ ": " ++ e.line ++ "\n" ++ usage) 2
  | .ok (opts, ops) =>
  match configOf opts with
  | .error m => failed fs (prog ++ ": " ++ m ++ "\n") 2
  | .ok c =>
  let sources := opts.filter (fun o => o.letter == 'e' || o.letter == 'f')
  let read : Except String (Option String) := sources.foldlM (fun (acc : Option String) o =>
    let v := o.value.getD ""
    if o.letter == 'e' then .ok (some (acc.getD "" ++ v ++ "\n"))
    else
      match call.readOperand fs v with
      | .ok t => .ok (some (acc.getD "" ++ t ++ (if t.isEmpty || t.endsWith "\n" then "" else "\n")))
      | .error e => .error (prog ++ ": " ++ v ++ ": " ++ e.describe ++ "\n")) none
  match read with
  | .error m => failed fs m 2
  | .ok given =>
  let (keys, files) : Option (List String) × List String := match given with
    | some t =>
        let t := if t.endsWith "\n" then (t.dropEnd 1).copy else t
        (some (if t.isEmpty && (sources.all (·.letter == 'f')) && given == some "" then [] else t.splitOn "\n"), ops)
    | none =>
        match ops with
        | p :: rest => (some (p.splitOn "\n"), rest)
        | [] => (none, [])
  match keys with
  | none => failed fs usage 2
  | some keys =>
  let extended := c.kind == 'E' || c.kind == 'P'
  let dialect := if extended then Pattern.Dialect.grepExtended c.icase else Pattern.Dialect.grepBasic c.icase
  let compiled := keys.map fun k =>
    if c.kind == 'F' then .ok (Pattern.literal c.icase k) else Pattern.parse dialect k
  let errors := compiled.filterMap fun r => match r with
    | .error e => some (prog ++ ": " ++ e.message ++ "\n")
    | .ok _ => none
  if !errors.isEmpty then failed fs (String.join errors) 2
  else
  let res := compiled.filterMap fun r => match r with
    | .ok re => some re
    | .error _ => none
  let scanned : Except String (List String) :=
    if c.kind == 'F' then .ok []
    else
      let whole := (String.intercalate "\n" keys).toList
      scan extended (whole.length + 1) true whole
  match scanned with
  | .error m => failed fs (prog ++ ": " ++ m ++ "\n") 2
  | .ok warnings =>
  let warned := String.join (warnings.map fun w => prog ++ ": warning: " ++ w ++ "\n")
  let targets := searched c fs call.cwd files
  let targets := targets.filter fun (f, found) => found || f == "-" || c.wanted f
  let showName := match c.names with
    | some b => fun (_ : Bool) => b
    | none => fun (found : Bool) => files.length > 1 || found
  let (out, err, anySelected, trouble, _, unread) := targets.foldl
    (fun (acc : String × String × Bool × Bool × Bool × Option String) (f, found) =>
      let (out, err, anySel, trouble, used, unread) := acc
      if c.quiet && anySel then acc
      else
      let name := if f == "-" then c.label else f
      let text : Except Errno String :=
        if f == "-" then call.input
        else
          match fs.stat call.cwd f with
          | .error e => .error e
          | .ok e =>
              match e.node with
              | .directory => .error .isDirectory
              | .file n => .ok (fs.contentOf n)
              | _ => .ok ""
      match text with
      | .error e =>
          (out, err ++ (if c.silent then "" else prog ++ ": " ++ f ++ ": " ++ e.describe ++ "\n"),
           anySel, true, used, unread)
      | .ok t =>
          let r := searchText c res name (showName found) used (f == "-" && call.inputIsFile) t
          let unread := if f == "-" then r.unread else unread
          (out ++ r.out, err ++ r.err, anySel || r.selected > 0, trouble, used || r.printed, unread))
    ("", warned, false, false, false, none)
  let code := if trouble && !(c.quiet && anySelected) then 2 else if anySelected then 0 else 1
  let readsInput := targets.any (·.1 == "-")
  { out, err, ending := .exited code, fs,
    readInput := readsInput && unread.isNone, unread := if readsInput then unread else none }

end Conch.Programs
