import Conch.Programs.Text
import Conch.Programs.Pattern

/-!
# Laying out lines: `paste`, `fold` and `nl`

`paste` joins lines side by side: the first lines of all its files make its first line, the
second lines its second, and so on, separated by the characters of its delimiter list (a tab
by default) taken in turn.  A file that has ended gives empty fields.  With `-s` it joins the
lines of each file into one line instead.  `-` is the standard input, read line by line
however many times it is named, so `paste - -` joins pairs of lines.  The delimiter list
reads `\n`, `\t`, `\\`, `\b`, `\f`, `\r`, `\v`, and `\0` for no delimiter.

`fold` breaks lines longer than its width (80 by default) by inserting newlines; a tab moves
to the next multiple of 8, a backspace one column back and a carriage return to the first
column, unless `-b` counts octets.  With `-s` it breaks after the last blank that fits when
there is one.

`nl` numbers lines: by default the non-empty lines of the body, right-aligned in a field of
six, followed by a tab; other lines get as many spaces instead.  A line of just `\:\:\:`,
`\:\:` or `\:` starts a header, body or footer, each numbered by its own style (`-h`, `-b`,
`-f`: `a` all lines, `t` non-empty ones, `n` none, `pRE` those matching a basic regex), and
is written as an empty line.

Main definitions: `paste`, `fold` and `nl`.
-/

namespace Conch.Programs

namespace Lines

/-! ## paste -/

/-- A delimiter of `paste`: a character, or none. -/
abbrev Delim := Option Char

/-- Reads the delimiter list of `paste`, or says that it ends with a lone backslash. -/
def delimiters (s : String) : Except Unit (List Delim) :=
  let rec go : Nat → List Char → Except Unit (List Delim)
    | 0, _ => .ok []
    | _, [] => .ok []
    | _ + 1, ['\\'] => .error ()
    | fuel + 1, '\\' :: c :: rest =>
        let d : Delim := match c with
          | '0' => none
          | 'b' => some (Char.ofNat 8)
          | 'f' => some (Char.ofNat 12)
          | 'n' => some '\n'
          | 'r' => some '\r'
          | 't' => some '\t'
          | 'v' => some (Char.ofNat 11)
          | other => some other
        (go fuel rest).map (d :: ·)
    | fuel + 1, c :: rest => (go fuel rest).map (some c :: ·)
  go (s.length + 1) s.toList

/-- The text of a delimiter. -/
def Delim.text (d : Delim) : String := (d.map String.singleton).getD ""

/-- The next delimiter after the one at `k`. -/
def nextDelim (ds : List Delim) (k : Nat) : Nat := if k + 1 ≥ ds.length then 0 else k + 1

/-- Takes a line from a text: the line, whether the delimiter ended it, and the rest; none
at the end of the text. -/
def takeLine (eol : Char) (s : String) : Option (String × Bool × String) :=
  if s.isEmpty then none
  else
    match s.splitOn (String.singleton eol) with
    | [] => none
    | [only] => some (only, false, "")
    | first :: _ => some (first, true, (s.drop (first.length + 1)).copy)

/-- What a column of `paste` reads: the standard input, shared by every column that reads it,
or a text of its own. -/
inductive Source where
  | input
  | text (s : String)
  /-- A file that fails when read, with its message. -/
  | broken (msg : String)

/-- The state of a parallel paste: what is left of the standard input and of each column's
text, and which columns are still open. -/
structure Columns where
  input : String
  texts : Array Source
  opened : Array Bool

/-- Reads the next line of column `i`. -/
def Columns.readLine (c : Columns) (eol : Char) (i : Nat) : Option (String × Bool) × Columns :=
  match c.texts[i]? with
  | some .input =>
      match takeLine eol c.input with
      | some (l, ended, rest) => (some (l, ended), { c with input := rest })
      | none => (none, c)
  | some (.text s) =>
      match takeLine eol s with
      | some (l, ended, rest) => (some (l, ended), { c with texts := c.texts.set! i (.text rest) })
      | none => (none, c)
  | _ => (none, c)

/-- One line of a parallel paste, from column `i` on: `out` so far, the delimiters held back
for columns that have ended, and whether some column gave a line.  Gives the text written,
the state after, and the messages for columns that failed. -/
def pasteRound (eol : Char) (ds : List Delim) (n : Nat) :
    Nat → Nat → Nat → String → String → Bool → Columns → String × Columns × String
  | 0, _, _, out, _, _, c => (out, c, "")
  | fuel + 1, i, k, out, saved, somedone, c =>
      if i ≥ n || !c.opened.any id then (out, c, "")
      else
        let isOpen := c.opened[i]?.getD false
        let (line, c) := if isOpen then c.readLine eol i else (none, c)
        match line with
        | some (l, _) =>
            let out := out ++ saved ++ l
            if i + 1 != n then
              let d := (ds[k]?.getD none).text
              pasteRound eol ds n fuel (i + 1) (nextDelim ds k) (out ++ d) "" true c
            else (out ++ String.singleton eol, c, "")
        | none =>
            let msg := match c.texts[i]? with
              | some (.broken m) => if isOpen then m else ""
              | _ => ""
            let c := if isOpen then { c with opened := c.opened.set! i false } else c
            if i + 1 == n then
              ((if somedone then out ++ saved ++ String.singleton eol else out), c, msg)
            else
              let saved := saved ++ (ds[k]?.getD none).text
              let (o, c', m) := pasteRound eol ds n fuel (i + 1) (nextDelim ds k) out saved somedone c
              (o, c', msg ++ m)

/-- A parallel paste: rounds until every column has ended. -/
def pasteParallel (eol : Char) (ds : List Delim) (n : Nat) : Nat → Columns → String → String → String × String
  | 0, _, out, err => (out, err)
  | fuel + 1, c, out, err =>
      if !c.opened.any id then (out, err)
      else
        let (o, c', e) := pasteRound eol ds n (n + 1) 0 0 "" "" false c
        pasteParallel eol ds n fuel c' (out ++ o) (err ++ e)

/-- The serial paste of one text: its lines joined by the delimiters in turn, ending with the
line delimiter. -/
def pasteSerial (eol : Char) (ds : List Delim) (text : String) : String :=
  if text.isEmpty then String.singleton eol
  else
    let cs := text.toList
    let body := cs.dropLast
    let (out, _) := body.foldl (fun (acc : String × Nat) ch =>
      if ch == eol then (acc.1 ++ (ds[acc.2]?.getD none).text, nextDelim ds acc.2)
      else (acc.1.push ch, acc.2)) ("", 0)
    let last := cs.getLast?.getD eol
    out.push last ++ (if last == eol then "" else String.singleton eol)

/-! ## fold -/

/-- The column after writing a character at `column`. -/
def advanceColumn (bytes : Bool) (column : Nat) (c : Char) : Nat :=
  if bytes then column + 1
  else if c.toNat == 8 then column - 1
  else if c == '\r' then 0
  else if c == '\t' then column + 8 - column % 8
  else column + 1

/-- The column after writing a text from the first column. -/
def columnOf (bytes : Bool) (cs : List Char) : Nat := cs.foldl (advanceColumn bytes) 0

/-- Folds a text: the octets of the line being built (`line`, reversed) and its column. -/
def foldText (bytes spaces : Bool) (width : Nat) : Nat → List Char → List Char → Nat → String → String
  | 0, _, line, _, out => out ++ String.ofList line.reverse
  | _, [], line, _, out => out ++ String.ofList line.reverse
  | fuel + 1, c :: rest, line, column, out =>
      if c == '\n' then foldText bytes spaces width fuel rest [] 0 (out ++ String.ofList (c :: line).reverse)
      else
        let column' := advanceColumn bytes column c
        if column' ≤ width then foldText bytes spaces width fuel rest (c :: line) column' out
        else
          let blankAt := if spaces then line.findIdx? (fun x => x == ' ' || x == '\t') else none
          match blankAt with
          | some k =>
              -- Break after the last blank; what follows it starts the next line.
              let kept := line.drop k
              let moved := line.take k
              foldText bytes spaces width fuel (c :: rest) moved (columnOf bytes moved.reverse)
                (out ++ String.ofList kept.reverse ++ "\n")
          | none =>
              if line.isEmpty then foldText bytes spaces width fuel rest [c] column' out
              else foldText bytes spaces width fuel (c :: rest) [] 0 (out ++ String.ofList line.reverse ++ "\n")

/-! ## nl -/

/-- Which lines of a section are numbered. -/
inductive Style where
  | all
  | nonEmpty
  | none
  | matching (re : Pattern.Re)

/-- Reads a numbering style, or gives none for one that is not. -/
def Style.read (s : String) : Option (Except Pattern.PatternError Style) :=
  match s.toList with
  | ['a'] => some (.ok .all)
  | ['t'] => some (.ok .nonEmpty)
  | ['n'] => some (.ok .none)
  | 'p' :: re => some ((Pattern.parse (Pattern.Dialect.grepBasic false) (String.ofList re)).map Style.matching)
  | _ => Option.none

/-- How `nl` numbers. -/
structure NumberStyle where
  header : Style := .none
  body : Style := .nonEmpty
  footer : Style := .none
  /-- The number format: `ln`, `rn` or `rz`. -/
  format : String := "rn"
  width : Nat := 6
  separator : String := "\t"
  start : Int := 1
  step : Int := 1
  /-- The section delimiter: two characters. -/
  delim : String := "\\:"
  restart : Bool := true
  /-- How many empty lines in a row count as one for style `a`. -/
  join : Nat := 1

/-- A line number in its field. -/
def NumberStyle.field (st : NumberStyle) (n : Int) : String :=
  let digits := toString n.natAbs
  let text := (if n < 0 then "-" else "") ++ digits
  match st.format with
  | "ln" => text ++ String.ofList (List.replicate (st.width - text.length) ' ')
  | "rz" =>
      if n < 0 then "-" ++ String.ofList (List.replicate (st.width - text.length) '0') ++ digits
      else String.ofList (List.replicate (st.width - text.length) '0') ++ digits
  | _ => String.ofList (List.replicate (st.width - text.length) ' ') ++ text

/-- The state of numbering: the section's style, the next number, and the empty lines in a
row. -/
structure Numbering where
  style : Style
  next : Int
  blanks : Nat := 0

/-- Numbers one line (without its newline). -/
def numberLine (st : NumberStyle) (n : Numbering) (line : String) : String × Numbering :=
  let numbered := fun (n : Numbering) =>
    (st.field n.next ++ st.separator ++ line ++ "\n", { n with next := n.next + st.step, blanks := 0 })
  let blank := String.ofList (List.replicate (st.width + st.separator.length) ' ') ++ line ++ "\n"
  match n.style with
  | .all =>
      if st.join > 1 then
        if !line.isEmpty || n.blanks + 1 == st.join then numbered n
        else (blank, { n with blanks := n.blanks + 1 })
      else numbered n
  | .nonEmpty => if line.isEmpty then (blank, n) else numbered n
  | .none => (blank, n)
  | .matching re =>
      if Pattern.search (Pattern.Subject.of false line false) re then numbered n else (blank, n)

/-- Numbers the lines of a text. -/
def numberText (st : NumberStyle) (n : Numbering) (text : String) : String × Numbering :=
  let d := st.delim
  (textLines text).foldl (fun (acc : String × Numbering) line =>
    let (out, n) := acc
    let part : Option Style :=
      if line == d ++ d ++ d then some st.header
      else if line == d ++ d then some st.body
      else if line == d then some st.footer
      else none
    match part with
    | some style =>
        (out ++ "\n", { n with style, next := if st.restart then st.start else n.next })
    | none =>
        let (o, n) := numberLine st n line
        (out ++ o, n)) ("", n)

end Lines

open Lines in
/-- `paste`: joins lines of files side by side, or each file's lines with `-s`. -/
def paste : Batch := fun fs call =>
  let prog := call.name
  match getopt ['s', 'z'] ['d'] [("delimiters", 'd'), ("serial", 's'), ("zero-terminated", 'z')] call.args with
  | .error e => failed fs (e.message prog) 1
  | .ok (opts, ops) =>
  let list := (optValue opts 'd').getD "\t"
  let list := if list.isEmpty then "\\0" else list
  match delimiters list with
  | .error _ =>
      failed fs (prog ++ ": delimiter list ends with an unescaped backslash: " ++ Quoted.name true list ++ "\n") 1
  | .ok ds =>
  let eol := if hasOpt opts 'z' then Char.ofNat 0 else '\n'
  let ops := orInput ops
  let readsInput := ops.contains "-"
  let input := match call.input with
    | .ok t => t
    | .error _ => ""
  if hasOpt opts 's' then
    let (out, err, ok, _) := ops.foldl (fun (acc : String × String × Bool × String) op =>
      let (out, err, ok, left) := acc
      if op == "-" then (out ++ pasteSerial eol ds left, err, ok, "")
      else
        match call.readFile fs op with
        | .ok t => (out ++ pasteSerial eol ds t, err, ok, left)
        | .error .isDirectory =>
            (out ++ String.singleton eol, err ++ prog ++ ": " ++ Quoted.name true op ++ ": Is a directory\n", false, left)
        | .error e => (out, err ++ plainComplaint prog op e, false, left)) ("", "", true, input)
    { out, err, ending := .exited (if ok then 0 else 1), fs, readInput := readsInput }
  else
    let opened : Except String (List Source) := ops.mapM fun op =>
      if op == "-" then .ok .input
      else
        match call.readFile fs op with
        | .ok t => .ok (.text t)
        | .error .isDirectory => .ok (.broken (prog ++ ": " ++ Quoted.name true op ++ ": Is a directory\n"))
        | .error e => .error (plainComplaint prog op e)
    match opened with
    | .error msg => failed fs msg 1
    | .ok sources =>
        let cols : Columns := { input, texts := sources.toArray, opened := Array.replicate sources.length true }
        let total := input.length + (sources.map fun s => match s with
          | .text t => t.length
          | _ => 0).foldr (· + ·) 0
        let (out, err) := pasteParallel eol ds sources.length (total + 2) cols "" ""
        { out, err, ending := .exited (if err.isEmpty then 0 else 1), fs, readInput := readsInput }

open Lines in
/-- `fold`: breaks long lines. -/
def fold : Batch := fun fs call =>
  let prog := call.name
  -- A word of digits after a dash is an old spelling of the width.
  let args := call.args.map fun a =>
    if a.length > 1 && a.startsWith "-" && (a.drop 1).all Char.isDigit then "-w" ++ (a.drop 1).copy else a
  match getopt ['b', 's'] ['w'] [("bytes", 'b'), ("spaces", 's'), ("width", 'w')] args with
  | .error e => failed fs (e.message prog) 1
  | .ok (opts, ops) =>
  let widthText := (optValue opts 'w').getD "80"
  let width : Except String Nat :=
    match widthText.toNat? with
    | some 0 => .error (prog ++ ": invalid number of columns: " ++ Quoted.value widthText ++ ": Numerical result out of range\n")
    | some n => .ok n
    | none =>
        if widthText.startsWith "+" && ((widthText.drop 1).copy.toNat?).isSome then
          .ok ((widthText.drop 1).copy.toNat?.getD 80)
        else .error (prog ++ ": invalid number of columns: " ++ Quoted.value widthText ++ "\n")
  match width with
  | .error msg => failed fs msg 1
  | .ok width =>
  let ops := orInput ops
  let (texts, err, ok) := readAll fs call (plainComplaint prog) ops
  let out := String.join (texts.map fun t =>
    foldText (hasOpt opts 'b') (hasOpt opts 's') width (2 * t.2.length + 2) t.2.toList [] 0 "")
  filterRun fs ops out err ok 1

open Lines in
/-- `nl`: numbers lines. -/
def nl : Batch := fun fs call =>
  let prog := call.name
  match getopt ['p'] ['b', 'h', 'f', 'n', 'w', 's', 'v', 'i', 'd', 'l']
      [("body-numbering", 'b'), ("header-numbering", 'h'), ("footer-numbering", 'f'),
       ("number-format", 'n'), ("number-width", 'w'), ("number-separator", 's'),
       ("starting-line-number", 'v'), ("line-increment", 'i'), ("section-delimiter", 'd'),
       ("join-blank-lines", 'l'), ("no-renumber", 'p')] call.args with
  | .error e => failed fs (e.message prog) 1
  | .ok (opts, ops) =>
  let usageError := fun (msg : String) => failed fs (prog ++ ": " ++ msg ++ "\n" ++
    "Try '" ++ prog ++ " --help' for more information.\n") 1
  let numberError := fun (what v : String) (range : Bool) =>
    failed fs (prog ++ ": invalid " ++ what ++ ": " ++ Quoted.value v ++
      (if range then ": Numerical result out of range" else "") ++ "\n") 1
  let styleOf := fun (letter : Char) (what : String) (dflt : Style) =>
    match optValue opts letter with
    | none => Except.ok dflt
    | some v =>
        match Style.read v with
        | some (.ok s) => .ok s
        | some (.error e) => .error (failed fs (prog ++ ": " ++ e.message ++ "\n") 1)
        | none => .error (usageError ("invalid " ++ what ++ " numbering style: " ++ Quoted.value v))
  let styles := do
    let b ← styleOf 'b' "body" .nonEmpty
    let h ← styleOf 'h' "header" .none
    let f ← styleOf 'f' "footer" .none
    pure (b, h, f)
  match styles with
  | .error r => r
  | .ok (body, header, footer) =>
  let format := (optValue opts 'n').getD "rn"
  if !(["ln", "rn", "rz"].contains format) then usageError ("invalid line numbering format: " ++ Quoted.value format)
  else
  let width := (optValue opts 'w').getD "6"
  let intOf := fun (v : String) => (if v.startsWith "+" then (v.drop 1).copy else v).toInt?
  match intOf width with
  | none => numberError "line number field width" width false
  | some w =>
  if w < 1 then numberError "line number field width" width true
  else
  let startText := (optValue opts 'v').getD "1"
  let stepText := (optValue opts 'i').getD "1"
  match intOf startText, intOf stepText with
  | none, _ => numberError "starting line number" startText false
  | _, none => numberError "line number increment" stepText false
  | some start, some step =>
  let delim := match optValue opts 'd' with
    | some d => if d.length == 1 then d ++ ":" else d
    | none => "\\:"
  let join := ((optValue opts 'l').getD "1").toNat?.getD 1
  let st : NumberStyle := { header, body, footer, format, width := w.toNat,
                            separator := (optValue opts 's').getD "\t", start, step, delim,
                            restart := !hasOpt opts 'p', join }
  let ops := orInput ops
  let (texts, err, ok) := readAll fs call (plainComplaint prog) ops
  let (out, _) := texts.foldl (fun (acc : String × Numbering) t =>
    let (o, n) := numberText st acc.2 t.2
    (acc.1 ++ o, n)) ("", { style := body, next := start })
  filterRun fs ops out err ok 1

end Conch.Programs
