import Conch.Programs.Text
import Conch.Script.Glob
import Conch.Text.Version
import Conch.Text.Floating

/-!
# Listing directories

`ls` shows files, and the entries of directories.  Its operands are looked at first: those
that are not directories (or all of them, with `-d`) are shown together as one listing, and
then each directory gets a listing of its own, under a header with its name when more than
one thing is shown.  With `-R` the directories inside a listing follow it, depth first.

A listing is a list of files in an order: by name (octet by octet), by size (largest first),
by time of last change (newest first), by extension (the part from the last dot), by version
(`Text.versionCompare`), or as the directory holds them.  Equal keys fall back to the name,
`-r` turns the whole order around, and `--group-directories-first` puts the directories
ahead of the rest either way.  Names starting with a dot are left out unless asked for, as
are names that an ignore pattern matches.

Each listing is written in one layout: a name a line, columns filled down (`-C`) or across
(`-x`) within the line width (80 unless set), names separated by commas (`-m`), or a line of
details a file (`-l`), after a line with the total of their blocks.  A name is written in a
quoting style, plain by default, and may be followed by a mark of its kind (`-F`, `-p`).

The files keep their permission bits and the order of their changes; owners, the times
themselves and the devices the files lie on are not kept, so the details show the
superuser, one fixed time, and the block sizes of a common disk.

Main definition: `ls`.
-/

namespace Conch.Programs.Listing

/-! ## Settings -/

/-- How the names of one listing are laid out. -/
inductive Layout where
  /-- One name a line. -/
  | lines
  /-- Columns, filled from top to bottom. -/
  | columns
  /-- Columns, filled from left to right. -/
  | across
  /-- Names separated by commas. -/
  | commas
  /-- One line of details a file. -/
  | long
  deriving DecidableEq, Repr

/-- The order of a listing. -/
inductive Order where
  | name
  /-- The order the directory holds its entries in. -/
  | unsorted
  | size
  | time
  | version
  | extension
  deriving DecidableEq, Repr

/-- Which names starting with a dot a listing leaves out. -/
inductive Dots where
  /-- Every one. -/
  | hidden
  /-- Only `.` and `..`. -/
  | almostAll
  /-- None. -/
  | shown
  deriving DecidableEq, Repr

/-- Which mark follows a name. -/
inductive Marks where
  | none
  /-- A slash after a directory. -/
  | slash
  /-- A mark of the kind of file, executables aside. -/
  | fileType
  /-- A mark of the kind of file, `*` after an executable too. -/
  | classify
  deriving DecidableEq, Repr

/-- How names are quoted. -/
inductive NameStyle where
  | literal
  | shell
  | shellAlways
  | shellEscape
  | shellEscapeAlways
  | c
  | escape
  | locale
  | clocale
  deriving DecidableEq, Repr

/-- Which symbolic links are followed. -/
inductive Following where
  | never
  /-- Those given as operands. -/
  | operands
  /-- Those given as operands that lead to directories. -/
  | operandDirectories
  | always
  deriving DecidableEq, Repr

/-- What the options of `ls` ask for. -/
structure Settings where
  layout : Option Layout := none
  order : Option Order := none
  /-- `-c` or `-u` asked to show another time, which also sorts by it without `-l`. -/
  otherTime : Bool := false
  reverse : Bool := false
  dots : Dots := .hidden
  /-- Patterns of names always left out. -/
  ignore : List String := []
  /-- Patterns of names left out unless dot files are asked for. -/
  hide : List String := []
  /-- Directories given as operands are shown as files, not listed (`-d`). -/
  asFiles : Bool := false
  recursive : Bool := false
  marks : Marks := .none
  style : Option NameStyle := none
  hideControl : Bool := false
  inode : Bool := false
  blocks : Bool := false
  owner : Bool := true
  group : Bool := true
  numeric : Bool := false
  human : Bool := false
  width : Option Nat := none
  tabsize : Nat := 8
  dirsFirst : Bool := false
  zero : Bool := false
  following : Option Following := none
  deriving Repr

/-- Keys of the options that have no letter. -/
def keyOf (n : Nat) : Char := Char.ofNat (0xE000 + n)

/-- The options `ls` takes. -/
def lsSpec : OptionSpec :=
  { shorts := "abcdfghiklmnopqrstuvxABCDFGHLNQRSUXZ1".toList.map (·, ArgKind.none) ++
      [('w', .required), ('I', .required), ('T', .required)],
    longs := [⟨"all", 'a', .none⟩, ⟨"almost-all", 'A', .none⟩, ⟨"author", keyOf 0, .none⟩,
      ⟨"escape", 'b', .none⟩, ⟨"block-size", keyOf 1, .required⟩, ⟨"ignore-backups", 'B', .none⟩,
      ⟨"color", keyOf 2, .optional⟩, ⟨"directory", 'd', .none⟩, ⟨"dired", 'D', .none⟩,
      ⟨"classify", 'F', .optional⟩, ⟨"file-type", keyOf 3, .none⟩, ⟨"format", keyOf 4, .required⟩,
      ⟨"full-time", keyOf 5, .none⟩, ⟨"group-directories-first", keyOf 6, .none⟩,
      ⟨"no-group", 'G', .none⟩, ⟨"human-readable", 'h', .none⟩, ⟨"si", keyOf 7, .none⟩,
      ⟨"dereference-command-line", 'H', .none⟩,
      ⟨"dereference-command-line-symlink-to-dir", keyOf 8, .none⟩, ⟨"hide", keyOf 9, .required⟩,
      ⟨"hyperlink", keyOf 10, .optional⟩, ⟨"indicator-style", keyOf 11, .required⟩,
      ⟨"inode", 'i', .none⟩, ⟨"ignore", 'I', .required⟩, ⟨"kibibytes", 'k', .none⟩,
      ⟨"dereference", 'L', .none⟩, ⟨"numeric-uid-gid", 'n', .none⟩, ⟨"literal", 'N', .none⟩,
      ⟨"hide-control-chars", 'q', .none⟩, ⟨"show-control-chars", keyOf 12, .none⟩,
      ⟨"quote-name", 'Q', .none⟩, ⟨"quoting-style", keyOf 13, .required⟩, ⟨"reverse", 'r', .none⟩,
      ⟨"recursive", 'R', .none⟩, ⟨"size", 's', .none⟩, ⟨"sort", keyOf 14, .required⟩,
      ⟨"time", keyOf 15, .required⟩, ⟨"time-style", keyOf 16, .required⟩,
      ⟨"tabsize", 'T', .required⟩, ⟨"width", 'w', .required⟩, ⟨"context", 'Z', .none⟩,
      ⟨"zero", keyOf 17, .none⟩] }

/-- A word of a fixed set, its meanings, and the lines that list the set when a word is not
in it: each meaning once, with every word for it. -/
structure Choice (α : Type) where
  words : List (String × α)
  /-- The option the words belong to. -/
  option : String

/-- The lines listing the words of a set, words of one meaning on one line. -/
def Choice.valid {α : Type} [BEq α] (c : Choice α) : String :=
  let meanings := c.words.foldl (fun (acc : List α) w => if acc.contains w.2 then acc else acc ++ [w.2]) []
  "Valid arguments are:\n" ++ String.join (meanings.map fun m =>
    "  - " ++ ", ".intercalate ((c.words.filter (·.2 == m)).map (Quoted.value ·.1)) ++ "\n")

/-- The meaning of a word of a set: an exact word, else the one meaning of the words it
starts; the message when there is none or more than one. -/
def Choice.pick {α : Type} [BEq α] (c : Choice α) (w : String) : Except String α :=
  match c.words.find? (·.1 == w) with
  | some (_, m) => .ok m
  | none =>
      let starts := c.words.filter (·.1.startsWith w)
      match starts with
      | (_, m) :: rest =>
          if !w.isEmpty && rest.all (·.2 == m) then .ok m
          else .error ("ambiguous argument " ++ Quoted.value w ++ " for " ++ Quoted.value ("--" ++ c.option) ++
            "\n" ++ c.valid)
      | [] => .error ("invalid argument " ++ Quoted.value w ++ " for " ++ Quoted.value ("--" ++ c.option) ++
            "\n" ++ c.valid)

/-- The words of `--format`. -/
def formatChoice : Choice Layout :=
  { option := "format",
    words := [("verbose", .long), ("long", .long), ("commas", .commas), ("horizontal", .across),
      ("across", .across), ("vertical", .columns), ("single-column", .lines)] }

/-- The words of `--sort`; `width` orders by the width of the name. -/
def sortChoice : Choice (Option Order) :=
  { option := "sort",
    words := [("none", some .unsorted), ("time", some .time), ("size", some .size),
      ("extension", some .extension), ("version", some .version), ("width", none),
      ("name", some .name)] }

/-- The words of `--time`: whether each asks for another time than that of the last change. -/
def timeChoice : Choice Nat :=
  { option := "time",
    words := [("atime", 1), ("access", 1), ("use", 1), ("ctime", 2), ("status", 2),
      ("mtime", 0), ("modification", 0), ("birth", 3), ("creation", 3)] }

/-- The words of `--indicator-style`. -/
def markChoice : Choice Marks :=
  { option := "indicator-style",
    words := [("none", .none), ("slash", .slash), ("file-type", .fileType), ("classify", .classify)] }

/-- The words of `--quoting-style`. -/
def styleChoice : Choice NameStyle :=
  { option := "quoting-style",
    words := [("literal", .literal), ("shell", .shell), ("shell-always", .shellAlways),
      ("shell-escape", .shellEscape), ("shell-escape-always", .shellEscapeAlways),
      ("c", .c), ("escape", .escape), ("locale", .locale), ("clocale", .clocale)] }

/-- The words of `--color`, `--classify` and `--hyperlink`: whether each says always. -/
def whenChoice (option : String) : Choice Nat :=
  { option,
    words := [("always", 1), ("yes", 1), ("force", 1), ("never", 0), ("no", 0), ("none", 0),
      ("auto", 2), ("tty", 2), ("if-tty", 2)] }

/-- A whole number that names a width: decimal digits only. -/
def widthValue (s : String) : Option Nat :=
  if !s.isEmpty && s.toList.all Char.isDigit then some (Text.decimalDigits s.toList) else none

/-- Applies one option. -/
def Settings.apply (s : Settings) (o : Opt) : Except String Settings :=
  let v := o.value.getD ""
  match o.letter with
  | 'a' => .ok { s with dots := .shown }
  | 'A' => .ok { s with dots := .almostAll }
  | 'b' => .ok { s with style := some .escape }
  | 'B' => .ok { s with ignore := s.ignore ++ ["*~", ".*~"] }
  | 'c' => .ok { s with otherTime := true }
  | 'u' => .ok { s with otherTime := true }
  | 'C' => .ok { s with layout := some .columns }
  | 'd' => .ok { s with asFiles := true }
  | 'D' => .ok s
  | 'f' =>
      .ok { s with dots := .shown, order := some .unsorted, blocks := false,
                   layout := if s.layout == some .long then none else s.layout }
  | 'F' =>
      match o.value with
      | none => .ok { s with marks := .classify }
      | some w => (whenChoice "classify").pick w |>.map fun k =>
          if k == 1 then { s with marks := .classify } else if k == 0 then { s with marks := .none } else s
  | 'g' => .ok { s with layout := some .long, owner := false }
  | 'G' => .ok { s with group := false }
  | 'h' => .ok { s with human := true }
  | 'H' => .ok { s with following := some .operands }
  | 'i' => .ok { s with inode := true }
  | 'I' => .ok { s with ignore := s.ignore ++ [v] }
  | 'k' => .ok s
  | 'l' => .ok { s with layout := some .long }
  | 'L' => .ok { s with following := some .always }
  | 'm' => .ok { s with layout := some .commas }
  | 'n' => .ok { s with layout := some .long, numeric := true }
  | 'N' => .ok { s with style := some .literal }
  | 'o' => .ok { s with layout := some .long, group := false }
  | 'p' => .ok { s with marks := .slash }
  | 'q' => .ok { s with hideControl := true }
  | 'Q' => .ok { s with style := some .c }
  | 'r' => .ok { s with reverse := true }
  | 'R' => .ok { s with recursive := true }
  | 's' => .ok { s with blocks := true }
  | 'S' => .ok { s with order := some .size }
  | 't' => .ok { s with order := some .time }
  | 'T' =>
      match widthValue v with
      | some n => .ok { s with tabsize := n }
      | none => .error ("invalid tab size: " ++ Quoted.value v)
  | 'U' => .ok { s with order := some .unsorted }
  | 'v' => .ok { s with order := some .version }
  | 'w' =>
      match widthValue v with
      | some n => .ok { s with width := some n }
      | none => .error ("invalid line width: " ++ Quoted.value v)
  | 'x' => .ok { s with layout := some .across }
  | 'X' => .ok { s with order := some .extension }
  | 'Z' => .ok s
  | '1' => .ok (if s.layout == some .long then s else { s with layout := some .lines })
  | k =>
      if k == keyOf 3 then .ok { s with marks := .fileType }
      else if k == keyOf 4 then formatChoice.pick v |>.map fun l => { s with layout := some l }
      else if k == keyOf 6 then .ok { s with dirsFirst := true }
      else if k == keyOf 7 then .ok { s with human := true }
      else if k == keyOf 8 then .ok { s with following := some .operandDirectories }
      else if k == keyOf 9 then .ok { s with hide := s.hide ++ [v] }
      else if k == keyOf 11 then markChoice.pick v |>.map fun m => { s with marks := m }
      else if k == keyOf 12 then .ok { s with hideControl := false }
      else if k == keyOf 13 then styleChoice.pick v |>.map fun q => { s with style := some q }
      else if k == keyOf 14 then sortChoice.pick v |>.map fun q => { s with order := some (q.getD .name) }
      else if k == keyOf 15 then timeChoice.pick v |>.map fun t => { s with otherTime := t != 0 }
      else if k == keyOf 17 then .ok { s with zero := true }
      else if k == keyOf 2 || k == keyOf 10 then
        match o.value with
        | some w => (whenChoice (if k == keyOf 2 then "color" else "hyperlink")).pick w |>.map fun _ => s
        | none => .ok s
      else .ok s

/-- Applies the options in order. -/
def Settings.applyAll (s : Settings) : List Opt → Except String Settings
  | [] => .ok s
  | o :: rest =>
      match s.apply o with
      | .ok s => s.applyAll rest
      | .error m => .error m

/-! ## Names -/

/-- A name in the escaping styles: a backslash before a backslash, before `quote` and before
the octets of `extra`, and the C escape of an octet that is not printable. -/
def escapedBody (quote : Option Char) (extra : List Char) (cs : List Char) : String :=
  String.join (cs.map fun c =>
    if c == '\\' then "\\\\"
    else if quote == some c || extra.contains c then "\\" ++ String.singleton c
    else if Quoted.printable c then String.singleton c
    else Quoted.escapeOf c)

/-- A name in the shell styles without escapes: bare unless a shell would read it specially
(or `always`), else between apostrophes, or between double quotes when an apostrophe is the
only reason; octets that are not printable stay as they are. -/
def shellPlain (always : Bool) (s : String) : String :=
  let cs := s.toList
  let special := fun (i : Nat) (c : Char) =>
    Quoted.shellSpecial.contains c || c == '\t' || c == '\n' || c == '\r' ||
      ((c == '#' || c == '~') && i == 0) || ((c == '{' || c == '}') && cs.length == 1)
  let indexed := (List.range cs.length).zip cs
  if !always && !cs.isEmpty && !indexed.any (fun (i, c) => special i c) then s
  else if cs.contains '\'' && indexed.all (fun (i, c) => Quoted.doubleQuotable cs.length i c) then
    "\"" ++ s ++ "\""
  else "'" ++ String.join (cs.map fun c => if c == '\'' then "'\\''" else String.singleton c) ++ "'"

/-- Unprintable octets as question marks. -/
def questionMarks (s : String) : String :=
  String.ofList (s.toList.map fun c => if Quoted.printable c then c else '?')

/-- A name written in a quoting style.  `extra` are octets that get a backslash in the
styles that use backslashes; `hideControl` writes unprintable octets as `?` in the styles
that do not escape them. -/
def NameStyle.render (style : NameStyle) (extra : List Char) (hideControl : Bool) (s : String) : String :=
  let hide := fun (t : String) => if hideControl then questionMarks t else t
  match style with
  | .literal => hide s
  | .shell => hide (shellPlain false s)
  | .shellAlways => hide (shellPlain true s)
  | .shellEscape => Quoted.name false s
  | .shellEscapeAlways => Quoted.nameAlways s
  | .c | .clocale => "\"" ++ escapedBody (some '"') extra s.toList ++ "\""
  | .locale => "'" ++ escapedBody (some '\'') extra s.toList ++ "'"
  | .escape => escapedBody none (' ' :: extra) s.toList

/-- Whether a name matches a shell pattern, a leading dot only by a dot of the pattern. -/
def patternMatches (pattern name : String) : Bool :=
  let dotOk := !name.startsWith "." || pattern.startsWith "." || pattern.startsWith "\\."
  dotOk && Script.Glob.accepts (pattern.toList.map (·, false)) name

/-! ## Files -/

/-- A file as a listing shows it. -/
structure Item where
  /-- The name shown: the operand as written, or the name within its directory. -/
  name : String
  /-- Its path without symbolic links, where the entry shown is. -/
  path : String
  entry : Entry
  /-- For a symbolic link: the path it holds, and the entry it leads to, if any. -/
  link : Option (String × Option Entry) := none
  deriving Repr

/-- Whether an item is a directory, or a symbolic link to one. -/
def Item.isDirectory (i : Item) : Bool :=
  i.entry.node.isDirectory ||
    match i.link with
    | some (_, some e) => e.node.isDirectory
    | _ => false

/-- The number of octets of a file. -/
def sizeOf (fs : Fs) (e : Entry) : Nat :=
  match e.node with
  | .file n => (fs.contentOf n).length
  | .directory => 4096
  | .link t => t.length
  | _ => 0

/-- The blocks of a kibibyte a file takes on disk: whole blocks of four. -/
def blocksOf (fs : Fs) (e : Entry) : Nat :=
  match e.node with
  | .file _ => (sizeOf fs e + 4095) / 4096 * 4
  | .directory => 4
  | _ => 0

/-- The number of names of a file: a directory is named in its parent, by its own `.` and by
the `..` of each directory inside it. -/
def linkCount (fs : Fs) (i : Item) : Nat :=
  match i.entry.node with
  | .directory => 2 + ((fs.children i.path).filter (fun n => fs.isDirectoryAt (Path.child i.path n))).length
  | _ => 1

/-- The letter of a kind of file in the details. -/
def kindLetter : Node → Char
  | .directory => 'd'
  | .link _ => 'l'
  | .device _ => 'c'
  | _ => '-'

/-- The permission bits as `rwx` letters, with the set-id and sticky bits in the execute
places. -/
def modeText (node : Node) (mode : Nat) : String :=
  let bit := fun (k : Nat) => mode / Nat.pow 2 k % 2 == 1
  let triple := fun (r w x special : Nat) (mark : Char) =>
    [if bit r then 'r' else '-', if bit w then 'w' else '-',
     if bit special then (if bit x then mark else mark.toUpper) else if bit x then 'x' else '-']
  String.ofList (kindLetter node :: (triple 8 7 6 11 's' ++ triple 5 4 3 10 's' ++ triple 2 1 0 9 't'))

/-- The mark after a name: `/` for a directory, `@` for a symbolic link, `|`, `=` for other
kinds, and `*` for an executable file when `classify`. -/
def markOf (marks : Marks) (node : Node) (e : Entry) : String :=
  match marks, node with
  | .none, _ => ""
  | _, .directory => "/"
  | .slash, _ => ""
  | _, .link _ => "@"
  | .classify, .file _ => if e.executable then "*" else ""
  | .classify, .program _ => if e.executable then "*" else ""
  | _, _ => ""

/-- A size for people: below 1024 as it is, else in the largest unit of 1024 it reaches,
rounded up to one decimal below 10 and to a whole number from 10. -/
def humanSize (n : Nat) : String :=
  let units := "KMGTPEZYRQ".toList
  let rec go : Nat → Nat → String
    | 0, _ => toString n
    | fuel + 1, e =>
        let d := 1024 ^ (e + 1)
        let tenths := (n * 10 + d - 1) / d
        if tenths < 100 then
          toString (tenths / 10) ++ "." ++ toString (tenths % 10) ++ String.singleton (units.getD e 'Q')
        else
          let whole := (n + d - 1) / d
          if whole ≥ 1024 && e + 1 < units.length then go fuel (e + 1)
          else toString whole ++ String.singleton (units.getD e 'Q')
  if n < 1024 then toString n else go units.length 0

/-! ## Orders -/

/-- The part of a name from its last dot, or nothing. -/
def extensionOf (name : String) : String :=
  match name.toList.reverse.idxOf? '.' with
  | some i => String.ofList (name.toList.drop (name.length - 1 - i))
  | none => ""

/-- Compares two items by an order, the names deciding ties. -/
def compareItems (fs : Fs) (order : Order) (a b : Item) : Ordering :=
  let byName := compareTexts a.name b.name
  let tie := fun (o : Ordering) => if o == .eq then byName else o
  match order with
  | .size => tie (compare (sizeOf fs b.entry) (sizeOf fs a.entry))
  | .time => tie (compare (fs.stampAt b.path) (fs.stampAt a.path))
  | .extension => tie (compareTexts (extensionOf a.name) (extensionOf b.name))
  | .version => tie (Text.versionCompare a.name b.name)
  | _ => byName

/-- Puts a listing in order. -/
def sortItems (fs : Fs) (s : Settings) (order : Order) (items : List Item) : List Item :=
  if order == .unsorted then items
  else
    let le := fun (a b : Item) =>
      let o := compareItems fs order a b
      let o := if s.reverse then o.swap else o
      if s.dirsFirst && a.isDirectory != b.isDirectory then a.isDirectory
      else o != .gt
    items.mergeSort le

/-! ## Writing a listing -/

/-- What a listing needs to know to write its names. -/
structure Writer where
  fs : Fs
  settings : Settings
  layout : Layout
  style : NameStyle
  width : Nat

/-- A name as written, with the backslashed marks of `-F` among its octets. -/
def Writer.nameText (w : Writer) (name : String) : String :=
  let extra := match w.settings.marks with
    | .classify => "*=>@|".toList
    | .fileType => "=>@|".toList
    | _ => []
  w.style.render extra w.settings.hideControl name

/-- The number an item shows for its blocks. -/
def Writer.blockText (w : Writer) (i : Item) : String :=
  let b := blocksOf w.fs i.entry
  if w.settings.human then humanSize (b * 1024) else toString b

/-- The inode number an item shows: its place among the entries. -/
def Writer.inodeText (w : Writer) (i : Item) : String :=
  toString (1000 + (w.fs.entries.map (·.1)).idxOf i.path)

/-- Pads a text on the left to a width. -/
def padLeftTo (n : Nat) (s : String) : String := String.ofList (List.replicate (n - s.length) ' ') ++ s

/-- Pads a text on the right to a width. -/
def padRightTo (n : Nat) (s : String) : String := s ++ String.ofList (List.replicate (n - s.length) ' ')

/-- The widths of the inode and block columns of a listing, where they are shown. -/
def Writer.numberWidths (w : Writer) (items : List Item) : Nat × Nat :=
  let most := fun (f : Item → String) => (items.map (fun i => (f i).length)).foldl max 0
  (if w.settings.inode then most w.inodeText else 0, if w.settings.blocks then most w.blockText else 0)

/-- An item's name with what goes before and after it outside the details: its inode number
and blocks (padded to the listing's widths, or not for commas) and its mark. -/
def Writer.entryText (w : Writer) (widths : Nat × Nat) (i : Item) : String :=
  let pad := fun (n : Nat) (s : String) => if w.layout == .commas then s else padLeftTo n s
  (if w.settings.inode then pad widths.1 (w.inodeText i) ++ " " else "") ++
    (if w.settings.blocks then pad widths.2 (w.blockText i) ++ " " else "") ++
    w.nameText i.name ++ markOf w.settings.marks i.entry.node i.entry

/-- The spaces and tabs that move the column from `fromCol` to `toCol`: a tab wherever it
reaches a tab stop not beyond the target. -/
def indent (tabsize : Nat) : Nat → Nat → Nat → String
  | 0, _, _ => ""
  | fuel + 1, fromCol, toCol =>
      if fromCol ≥ toCol then ""
      else if tabsize != 0 && toCol / tabsize > (fromCol + 1) / tabsize then
        "\t" ++ indent tabsize fuel (fromCol + tabsize - fromCol % tabsize) toCol
      else " " ++ indent tabsize fuel (fromCol + 1) toCol

/-- The narrowest column `ls` lays out. -/
def minColumn : Nat := 3

/-- The widths of the columns when `n` texts of these lengths go into `cols` columns, each
but the last two wider than its longest text; down the columns when `down`. -/
def columnWidths (down : Bool) (lengths : List Nat) (cols : Nat) : List Nat :=
  let n := lengths.length
  let rows := (n + cols - 1) / cols
  let place := fun (k : Nat) => if down then k / (if rows == 0 then 1 else rows) else k % cols
  let init := List.replicate cols minColumn
  ((List.range n).zip lengths).foldl (fun ws (k, len) =>
    let c := place k
    let real := len + (if c == cols - 1 then 0 else 2)
    ws.set c (max (ws.getD c 0) real)) init

/-- The most columns that fit the line: widths summing below it. -/
def fittingColumns (down : Bool) (lineWidth : Nat) (lengths : List Nat) : Nat :=
  let n := lengths.length
  let most := min (max 1 (lineWidth / minColumn)) n
  let fits := fun (cols : Nat) => (columnWidths down lengths cols).foldl (· + ·) 0 < lineWidth
  let rec best : Nat → Nat
    | 0 => 1
    | c + 1 => if c + 1 ≤ 1 then 1 else if fits (c + 1) then c + 1 else best c
  best most

/-- Texts in columns filled down: row by row, each text padded to its column's width. -/
def Writer.inColumns (w : Writer) (texts : List String) : String :=
  let n := texts.length
  let lengths := texts.map String.length
  let cols := fittingColumns true w.width lengths
  let rows := (n + cols - 1) / cols
  let widths := columnWidths true lengths cols
  let row := fun (r : Nat) =>
    let ks := (List.range cols).map (fun c => c * rows + r) |>.filter (· < n)
    let (line, _) := ks.foldl (fun (acc : String × Nat) k =>
      let (line, pos) := acc
      let t := texts.getD k ""
      let c := k / rows
      if k + rows < n then
        let target := pos + widths.getD c 0
        (line ++ t ++ indent w.settings.tabsize (target + 1) (pos + t.length) target, target)
      else (line ++ t, pos)) ("", 0)
    line
  String.join ((List.range rows).map fun r => row r ++ "\n")

/-- Texts in columns filled across: `cols` a line. -/
def Writer.across (w : Writer) (texts : List String) : String :=
  let lengths := texts.map String.length
  let cols := fittingColumns false w.width lengths
  let widths := columnWidths false lengths cols
  let (out, _) := ((List.range texts.length).zip texts).foldl (fun (acc : String × Nat) (k, t) =>
    let (out, pos) := acc
    if k == 0 then (t, 0)
    else if k % cols == 0 then (out ++ "\n" ++ t, 0)
    else
      let prev := texts.getD (k - 1) ""
      let target := pos + widths.getD ((k - 1) % cols) 0
      (out ++ indent w.settings.tabsize (target + 1) (pos + prev.length) target ++ t, target)) ("", 0)
  out ++ "\n"

/-- Texts separated by `sep` and a blank, a new line instead of the blank where the next
text would reach the line width. -/
def Writer.separated (w : Writer) (sep : String) (texts : List String) : String :=
  let (out, _) := ((List.range texts.length).zip texts).foldl (fun (acc : String × Nat) (k, t) =>
    let (out, pos) := acc
    if k == 0 then (t, t.length)
    else if w.width == 0 || pos + t.length + 2 < w.width then (out ++ sep ++ " " ++ t, pos + 2 + t.length)
    else (out ++ sep ++ "\n" ++ t, t.length)) ("", 0)
  out ++ "\n"

/-- The fixed time every file shows in the details. -/
def shownTime : String := "Jan  1 00:00"

/-- The lines of details of a listing, the columns padded to their widest entries. -/
def Writer.details (w : Writer) (items : List Item) : String :=
  let s := w.settings
  let owner := if s.numeric then "0" else "root"
  let widest := fun (f : Item → String) => (items.map (fun i => (f i).length)).foldl max 0
  let links := fun (i : Item) => toString (linkCount w.fs i)
  let size := fun (i : Item) =>
    if s.human then humanSize (sizeOf w.fs i.entry) else toString (sizeOf w.fs i.entry)
  let (inodeWidth, blockWidth) := w.numberWidths items
  let linkWidth := widest links
  let sizeWidth := widest size
  String.join (items.map fun i =>
    (if s.inode then padLeftTo inodeWidth (w.inodeText i) ++ " " else "") ++
      (if s.blocks then padLeftTo blockWidth (w.blockText i) ++ " " else "") ++
      modeText i.entry.node i.entry.mode ++ " " ++ padLeftTo linkWidth (links i) ++ " " ++
      (if s.owner then owner ++ " " else "") ++ (if s.group then owner ++ " " else "") ++
      padLeftTo sizeWidth (size i) ++ " " ++ shownTime ++ " " ++ w.nameText i.name ++
      (match i.link with
       | some (target, e) =>
           " -> " ++ w.nameText target ++
             (match e with
              | some e => markOf w.settings.marks e.node e
              | none => "")
       | none => markOf w.settings.marks i.entry.node i.entry) ++
      (if s.zero then "\x00" else "\n"))

/-- A listing written in its layout. -/
def Writer.write (w : Writer) (items : List Item) : String :=
  if items.isEmpty then ""
  else
    let widths := w.numberWidths items
    let texts := items.map (w.entryText widths)
    let eol := if w.settings.zero then "\x00" else "\n"
    match w.layout with
    | .long => w.details items
    | .lines => String.join (texts.map (· ++ eol))
    | .commas => w.separated "," texts
    | .columns => if w.width == 0 then w.separated " " texts else w.inColumns texts
    | .across => if w.width == 0 then w.separated " " texts else w.across texts

/-- The total line of a directory's listing. -/
def Writer.total (w : Writer) (items : List Item) : String :=
  let sum := (items.map (fun i => blocksOf w.fs i.entry)).foldl (· + ·) 0
  "total " ++ (if w.settings.human then humanSize (sum * 1024) else toString sum) ++ "\n"

/-! ## Directories -/

/-- The item of an entry of a directory; a symbolic link is followed only when `follow`. -/
def itemAt (fs : Fs) (follow : Bool) (name path : String) : Option Item :=
  match fs.find path with
  | none => none
  | some e =>
      match e.node with
      | .link t =>
          let target := fs.resolve (Path.parent path) t
          let targetEntry := match target with
            | .ok q => fs.find q
            | .error _ => none
          match follow, target, targetEntry with
          | true, .ok q, some te => some { name, path := q, entry := te }
          | _, _, _ => some { name, path, entry := e, link := some (t, targetEntry) }
      | _ => some { name, path, entry := e }

/-- Whether a name of a directory is left out of its listing. -/
def Settings.leavesOut (s : Settings) (name : String) : Bool :=
  (s.dots != .shown && name.startsWith "." && (s.dots == .hidden || name == "." || name == "..")) ||
  (s.dots == .hidden && s.hide.any (patternMatches · name)) ||
  s.ignore.any (patternMatches · name)

/-- The items of a directory, `.` and `..` first, in the order the directory holds them. -/
def entriesOf (fs : Fs) (s : Settings) (dir : String) : List Item :=
  let names := ["." , ".."] ++ fs.children dir
  let names := names.filter (fun n => !s.leavesOut n)
  names.filterMap fun n =>
    let path := if n == "." then dir else if n == ".." then Path.parent dir else Path.child dir n
    if n == "." || n == ".." then
      (fs.find path).map fun e => { name := n, path, entry := e }
    else itemAt fs (s.following == some .always) n path

/-- The listings of directories, each after its header and a blank line between them, those
inside a listing following it with `-R`.  `first` tells that nothing was written before;
`fuel` bounds the depth. -/
def listDirectories (w : Writer) (order : Order) (headers : Bool) :
    Nat → Bool → List (String × String) → String
  | 0, _, _ => ""
  | _, _, [] => ""
  | fuel + 1, first, (shown, path) :: rest =>
      let s := w.settings
      let items := sortItems w.fs s order (entriesOf w.fs s path)
      let header := if s.recursive || headers then
          (if first then "" else "\n") ++ w.style.render [':'] s.hideControl shown ++ ":\n"
        else ""
      let total := if w.layout == .long || s.blocks then w.total items else ""
      let here := header ++ total ++ w.write items
      let inside := if !s.recursive then []
        else (items.filter (fun i => i.name != "." && i.name != ".." && i.entry.node.isDirectory)).map
          fun i => (if shown.endsWith "/" then shown ++ i.name else shown ++ "/" ++ i.name, i.path)
      here ++ listDirectories w order headers fuel false (inside ++ rest)

/-! ## The program -/

/-- What an operand names: its item, or why it cannot be looked at. -/
def operandItem (fs : Fs) (cwd : String) (following : Following) (op : String) : Except Errno Item :=
  let follow := following == .always || following == .operands
  match fs.entryPath cwd op with
  | .error e => .error e
  | .ok p =>
      match fs.find p with
      | none => .error .noEntry
      | some e =>
          match e.node with
          | .link _ =>
              match fs.resolve cwd op with
              | .ok q =>
                  match fs.find q with
                  | some te =>
                      if follow || (following == .operandDirectories && te.node.isDirectory) then
                        .ok { name := op, path := q, entry := te }
                      else (itemAt fs false op p).elim (.error .noEntry) .ok
                  | none => (itemAt fs false op p).elim (.error .noEntry) .ok
              | .error err =>
                  if follow then .error err else (itemAt fs false op p).elim (.error .noEntry) .ok
          | _ => .ok { name := op, path := p, entry := e }

/-- `ls`: lists files and directories. -/
def ls : Batch := fun fs call =>
  let usage := fun (m : String) =>
    failed fs (call.name ++ ": " ++ m ++ "\nTry '" ++ call.name ++ " --help' for more information.\n") 2
  match lsSpec.read call.args with
  | .error e => failed fs (e.message call.name) 2
  | .ok (opts, ops) =>
      match ({} : Settings).applyAll opts with
      | .error m =>
          if m.endsWith "\n" then failed fs (call.name ++ ": " ++ m ++ "Try '" ++ call.name ++
            " --help' for more information.\n") 2
          else usage m
      | .ok s =>
          let layout := s.layout.getD .lines
          let order := match s.order with
            | some o => o
            | none => if s.otherTime && layout != .long then .time else .name
          let envStyle := (call.getenv "QUOTING_STYLE").bind fun v =>
            (styleChoice.words.find? (·.1 == v)).map (·.2)
          let style := s.style.getD (envStyle.getD .literal)
          let envWidth := (call.getenv "COLUMNS").bind fun v =>
            (widthValue v).bind fun n => if n > 0 then some n else none
          let w : Writer := { fs, settings := s, layout, style, width := s.width.getD (envWidth.getD 80) }
          let following := s.following.getD
            (if s.asFiles || s.marks == .classify || layout == .long then .never else .operandDirectories)
          let named := ops
          let ops := if ops.isEmpty then ["."] else ops
          let looked := ops.map fun op => (op, operandItem fs call.cwd following op)
          let missing := looked.filterMap fun (op, r) => match r with
            | .error e => some (call.name ++ ": cannot access " ++ Quoted.nameAlways op ++ ": " ++ e.describe ++ "\n")
            | .ok _ => none
          let found := looked.filterMap fun (_, r) => match r with
            | .ok i => some i
            | .error _ => none
          let sorted := sortItems fs s order found
          let isDir := fun (i : Item) => !s.asFiles && i.entry.node.isDirectory
          let files := sorted.filter (fun i => !isDir i)
          let dirs := sorted.filter isDir
          let fileOut := w.write files
          let headers := !files.isEmpty || named.length > 1
          let dirOut := listDirectories w order headers (fs.entries.length + dirs.length + 1)
            files.isEmpty (dirs.map fun i => (i.name, i.path))
          { out := fileOut ++ dirOut, err := String.join missing,
            ending := .exited (if missing.isEmpty then 0 else 2), fs }

end Conch.Programs.Listing
