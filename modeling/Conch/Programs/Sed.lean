import Conch.Programs.Text
import Conch.Programs.Pattern
import Conch.Programs.Dump

/-!
# The stream editor

`sed` runs a script over the lines of its input.  Each cycle reads a line into the *pattern
space*, runs the commands whose addresses select it, and writes the pattern space (unless
`-n`); text queued by `a`, `r` and `R` follows.  A second buffer, the *hold space*, keeps text
between cycles.

*Scripts.*  The script is the arguments of `-e` and the files of `-f`, each ending a line,
or else the first operand.  A command is an optional address or range and a letter: `{` and
`}` group commands, `s` substitutes, `y` maps characters, `p`, `P`, `l` and `=` write, `d`
and `D` delete, `n` and `N` read the next line, `g`, `G`, `h`, `H`, `x` and `z` move text
between the spaces, `a`, `i` and `c` write text, `b`, `t` and `T` branch to labels set with
`:`, `q` and `Q` quit, `r`, `R`, `w` and `W` read and write files, and `F` writes the file
name.  A script that cannot be read is refused with the place it went wrong (`-e
expression #1, char 3: ...`) and status 1.

*Addresses.*  A line number, `$` for the last line, `/regex/` (or `\cregexc`) with the
flags `I` and `M`, or `first~step`; a second address after a comma makes a range, which may
also be `+N` (the next N lines) or `~N` (up to a multiple of N), and `0,/regex/` lets the
regex end the range on the first line.  `!` selects the other lines.

*Substitution.*  `s/regex/replacement/flags` replaces the first match, the Nth with a number
flag, every one with `g`; `&` in the replacement is the match, `\1` to `\9` its groups, `\n`
a newline, and `\L`, `\U`, `\l`, `\u` and `\E` change case.  An empty match right after the
previous match is not replaced.  An empty regex is the last one used.

*Lines.*  A last line without its newline is written without one.  `-z` separates lines by
zero octets instead of newlines; `-s` treats each file apart (line numbers and `$`), as does
`-i`, which writes each file's output back to it.

Main definition: `sed`.
-/

namespace Conch.Programs

namespace Sed

/-- A compiled regular expression with the way its text is matched. -/
structure Rx where
  re : Pattern.Re
  icase : Bool := false
  multiline : Bool := false

/-- An address. -/
inductive Addr where
  /-- A line number. -/
  | line (n : Nat)
  /-- The last line. -/
  | last
  /-- The lines a regex matches; none for the last regex used. -/
  | regex (rx : Option Rx)
  /-- Every `every`-th line from `first` on. -/
  | step (first every : Nat)

/-- The end of a range. -/
inductive RangeEnd where
  /-- A line an address selects. -/
  | addr (a : Addr)
  /-- The line so many lines after the start. -/
  | plus (n : Nat)
  /-- The next line whose number is a multiple. -/
  | multiple (n : Nat)

/-- The lines a command applies to. -/
structure Selector where
  first : Option Addr := none
  second : Option RangeEnd := none
  negated : Bool := false

/-- A piece of a replacement. -/
inductive Piece where
  | text (s : String)
  | group (n : Nat)
  | lower
  | upper
  | lowerOne
  | upperOne
  | plain

/-- A substitution. -/
structure Subst where
  rx : Option Rx
  pieces : List Piece
  global : Bool := false
  nth : Nat := 1
  print : Bool := false
  write : Option Nat := none

/-- What a command does. -/
inductive Op where
  | block (close : Nat)
  | blockEnd
  | lineNumber
  | append (text : String)
  | insert (text : String)
  | change (text : String)
  | branch (kind : Char) (target : Option Nat)
  | delete
  | deleteFirst
  | fileName
  | get
  | getAppend
  | hold
  | holdAppend
  | list (width : Option Nat)
  | next
  | nextAppend
  | print
  | printFirst
  | quit (code : Nat)
  | quitSilent (code : Nat)
  | readFile (name : String)
  | readLine (name : String)
  | subst (s : Subst)
  | translate (pairs : List (Char × Char))
  | write (target : Nat)
  | writeFirst (target : Nat)
  | exchange
  | zap
  | nothing

/-- A command of a compiled script. -/
structure Command where
  sel : Selector
  op : Op

/-- A command being compiled: jumps still name their labels. -/
structure Draft where
  sel : Selector
  op : Op
  label : Option String := none

/-! ## Reading scripts -/

/-- Where the script text being read came from, for messages. -/
inductive Origin where
  /-- The `n`th `-e` expression (or the script operand). -/
  | expr (n : Nat)
  /-- A script file. -/
  | file (name : String)

/-- The compiler's state. -/
structure Compiler where
  rest : List Char
  used : Nat := 0
  line : Nat := 1
  origin : Origin := .expr 1
  cmds : Array Draft := #[]
  blocks : List Nat := []
  labels : List (String × Nat) := []
  /-- The files `w` writes, in the order first named. -/
  outputs : List String := []
  /-- A text command still waiting for its text from the next piece of script. -/
  pendingText : Option Nat := none
  extended : Bool := false
  quietFirst : Bool := false

/-- The place in the script, as messages give it. -/
def Compiler.place (c : Compiler) : String :=
  match c.origin with
  | .expr n => "-e expression #" ++ toString n ++ ", char " ++ toString c.used
  | .file f => "file " ++ f ++ " line " ++ toString c.line

/-- Refuses the script at the current place. -/
def Compiler.fail {α : Type} (c : Compiler) (msg : String) : Except String α :=
  .error (c.place ++ ": " ++ msg)

/-- Takes the next character. -/
def Compiler.take (c : Compiler) : Option Char × Compiler :=
  match c.rest with
  | [] => (none, c)
  | ch :: more => (some ch, { c with rest := more, used := c.used + 1,
                                      line := if ch == '\n' then c.line + 1 else c.line })

/-- Puts a character back. -/
def Compiler.putBack (c : Compiler) (ch : Option Char) : Compiler :=
  match ch with
  | some x => { c with rest := x :: c.rest, used := c.used - 1,
                       line := if x == '\n' then c.line - 1 else c.line }
  | none => c

/-- Whether a character is white space to the compiler. -/
def isBlank (ch : Char) : Bool := ch == ' ' || ch == '\t'

/-- Skips blanks, then takes a character. -/
def Compiler.nonBlank : Nat → Compiler → Option Char × Compiler
  | 0, c => c.take
  | fuel + 1, c =>
      match c.take with
      | (some ch, c') => if isBlank ch then Compiler.nonBlank fuel c' else (some ch, c')
      | other => other

/-- Skips blanks, then takes a character. -/
def Compiler.next (c : Compiler) : Option Char × Compiler := Compiler.nonBlank c.rest.length c

/-- Reads the digits after `first`. -/
def Compiler.integer (c : Compiler) (first : Char) : Nat × Compiler :=
  let ds := c.rest.takeWhile Char.isDigit
  let n := (first :: ds).foldl (fun (n : Nat) (d : Char) => n * 10 + (d.toNat - 48)) 0
  (n, { c with rest := c.rest.drop ds.length, used := c.used + ds.length })

/-- Reads text up to the delimiter `delim`, as the `s`, `y` and address parts are read: a
backslash before the delimiter stands for it, `\n` in a regex is a newline, and a backslash
before a newline is the newline.  When the text is not closed before the line ends, gives
none with the place where reading stopped. -/
def Compiler.delimited (c : Compiler) (delim : Char) (regex : Bool) : Option String × Compiler :=
  let rec go : Nat → Compiler → List Char → Option String × Compiler
    | 0, c, _ => (none, c)
    | fuel + 1, c, acc =>
        match c.take with
        | (none, c') => (none, c')
        | (some '\n', c') => (none, c'.putBack (some '\n'))
        | (some ch, c') =>
            if ch == delim then (some (String.ofList acc.reverse), c')
            else if ch == '\\' then
              match c'.take with
              | (none, c'') => (none, c'')
              | (some d, c'') =>
                  if d == delim && !(d == '&' && !regex) then go fuel c'' (d :: acc)
                  else if d == 'n' && regex then go fuel c'' ('\n' :: acc)
                  else if d == '\n' then go fuel c'' ('\n' :: acc)
                  else go fuel c'' (d :: '\\' :: acc)
            else go fuel c' (ch :: acc)
  go (c.rest.length + 1) c []

/-- Converts the character escapes of a script text (`\a`, `\f`, `\n`, `\r`, `\t`, `\v`,
`\cX`, `\dNNN`, `\oNNN`, `\xHH`); other backslashes stay, or are dropped when `dropOthers`. -/
def unescape (dropOthers : Bool) (s : String) : String :=
  let rec go : Nat → List Char → List Char → List Char
    | 0, _, acc => acc.reverse
    | _, [], acc => acc.reverse
    | fuel + 1, '\\' :: d :: rest, acc =>
        match d with
        | 'a' => go fuel rest (Char.ofNat 7 :: acc)
        | 'f' => go fuel rest (Char.ofNat 12 :: acc)
        | 'n' => go fuel rest ('\n' :: acc)
        | 'r' => go fuel rest ('\r' :: acc)
        | 't' => go fuel rest ('\t' :: acc)
        | 'v' => go fuel rest (Char.ofNat 11 :: acc)
        | 'c' =>
            match rest with
            | x :: more => go fuel more (Char.ofNat (x.toUpper.toNat % 64 + (if x.toUpper.toNat ≥ 64 then 0 else 64) - 64 + (x.toUpper.toNat / 64 * 0)) :: acc)
            | [] => go fuel rest ('c' :: '\\' :: acc)
        | 'd' =>
            let (v, k, after) := takeDigits 10 3 rest
            if k == 0 then go fuel rest ('d' :: '\\' :: acc) else go fuel after (Char.ofNat (v % 256) :: acc)
        | 'o' =>
            let (v, k, after) := takeDigits 8 3 rest
            if k == 0 then go fuel rest ('o' :: '\\' :: acc) else go fuel after (Char.ofNat (v % 256) :: acc)
        | 'x' =>
            let (v, k, after) := takeDigits 16 2 rest
            if k == 0 then go fuel rest ('x' :: '\\' :: acc) else go fuel after (Char.ofNat v :: acc)
        | _ => if dropOthers then go fuel rest (d :: acc) else go fuel rest (d :: '\\' :: acc)
    | fuel + 1, ch :: rest, acc => go fuel rest (ch :: acc)
  String.ofList (go (s.length + 1) s.toList [])

/-- Reads a replacement into its pieces, and the highest group it names. -/
def replacementPieces (s : String) : List Piece × Nat :=
  let rec go : Nat → List Char → List Char → List Piece → Nat → List Piece × Nat
    | 0, _, lit, acc, top => ((acc ++ [Piece.text (String.ofList lit.reverse)]).reverse.reverse, top)
    | _, [], lit, acc, top => (acc ++ [Piece.text (String.ofList lit.reverse)], top)
    | fuel + 1, '\\' :: d :: rest, lit, acc, top =>
        let flush := acc ++ [Piece.text (String.ofList lit.reverse)]
        if d.isDigit then
          let n := d.toNat - 48
          go fuel rest [] (flush ++ [.group n]) (max top n)
        else
          match d with
          | 'L' => go fuel rest [] (flush ++ [.lower]) top
          | 'U' => go fuel rest [] (flush ++ [.upper]) top
          | 'l' => go fuel rest [] (flush ++ [.lowerOne]) top
          | 'u' => go fuel rest [] (flush ++ [.upperOne]) top
          | 'E' => go fuel rest [] (flush ++ [.plain]) top
          | '\n' => go fuel rest ('\n' :: lit) acc top
          | _ => go fuel rest (d :: lit) acc top
    | fuel + 1, '&' :: rest, lit, acc, top =>
        go fuel rest [] (acc ++ [Piece.text (String.ofList lit.reverse), .group 0]) top
    | fuel + 1, ch :: rest, lit, acc, top => go fuel rest (ch :: lit) acc top
  let (ps, top) := go (s.length + 1) (unescape false s).toList [] [] 0
  (ps.filter fun p => match p with
    | .text t => !t.isEmpty
    | _ => true, top)

/-- Compiles a regex of the script with its flags; an empty one is the last regex used. -/
def Compiler.regex (c : Compiler) (text : String) (icase multiline : Bool) (groupsNeeded : Nat) :
    Except String (Option Rx) :=
  if text.isEmpty then
    if icase || multiline then c.fail "no previous regular expression" else .ok none
  else
    let d := if c.extended then Pattern.Dialect.sedExtended icase else Pattern.Dialect.sedBasic icase
    match Pattern.parse d (unescape false text) with
    | .error e => c.fail e.message
    | .ok re =>
        if re.groups < groupsNeeded then
          c.fail ("invalid reference \\" ++ toString groupsNeeded ++ " on `s' command's RHS")
        else .ok (some { re, icase, multiline })

/-- Reads the flags after an address regex: `I` ignores case, `M` matches lines apart. -/
def Compiler.addressFlags : Nat → Bool → Bool → Compiler → Bool × Bool × Compiler
  | 0, i, m, c => (i, m, c)
  | fuel + 1, i, m, c =>
      match c.next with
      | (some 'I', c') => Compiler.addressFlags fuel true m c'
      | (some 'M', c') => Compiler.addressFlags fuel i true c'
      | (other, c') => (i, m, c'.putBack other)

/-- Reads an address starting with `ch`, if there is one. -/
def Compiler.address (c : Compiler) (ch : Option Char) : Except String (Option Addr × Compiler) :=
  match ch with
  | some '/' | some '\\' =>
      let (delim, c) := if ch == some '\\' then c.take else (ch, c)
      match delim with
      | none => c.fail "unterminated address regex"
      | some dl =>
          match c.delimited dl true with
          | (none, c) => c.fail "unterminated address regex"
          | (some text, c) =>
              let (i, m, c) := Compiler.addressFlags (c.rest.length + 1) false false c
              (c.regex text i m 0).map fun rx => (some (.regex rx), c)
  | some d =>
      if d.isDigit then
        let (n, c) := c.integer d
        match c.next with
        | (some '~', c') =>
            match c'.next with
            | (some e, c'') =>
                if e.isDigit then
                  let (s, c3) := c''.integer e
                  .ok (some (if s > 0 then .step n s else .line n), c3)
                else .ok (some (.line n), c''.putBack (some e))
            | (none, c'') => .ok (some (.line n), c'')
        | (other, c') => .ok (some (.line n), c'.putBack other)
      else if d == '$' then .ok (some .last, c)
      else .ok (none, c.putBack ch)
  | none => .ok (none, c)

/-- Reads the second address of a range after its comma. -/
def Compiler.rangeEnd (c : Compiler) : Except String (RangeEnd × Compiler) :=
  match c.next with
  | (some '+', c') | (some '~', c') =>
      let plus := c.rest.head? == some '+' || (c.rest.dropWhile isBlank).head? == some '+'
      match c'.next with
      | (some d, c'') =>
          if d.isDigit then
            let (n, c3) := c''.integer d
            if n == 0 && plus then c3.fail "unexpected `,'"
            else .ok ((if plus then .plus n else .multiple n), c3)
          else c''.fail "unexpected `,'"
      | (none, c'') => c''.fail "unexpected `,'"
  | (ch, c') =>
      match c'.address ch with
      | .error e => .error e
      | .ok (some a, c'') => .ok (.addr a, c'')
      | .ok (none, c'') => c''.fail "unexpected `,'"

/-- Checks that a command ends here: blanks, then the end of the line, `;`, `}` or `#`. -/
def Compiler.endOfCommand (c : Compiler) : Except String Compiler :=
  match c.next with
  | (some '}', c') | (some '#', c') => .ok (c'.putBack (c.rest.dropWhile isBlank).head?)
  | (none, c') | (some '\n', c') | (some ';', c') => .ok c'
  | (_, c') => c'.fail "extra characters after command"

/-- Reads a label: blanks, then up to the end of the line, a `;` or a blank. -/
def Compiler.label (c : Compiler) : String × Compiler :=
  let (first, c) := c.next
  let rec go : Nat → Option Char → Compiler → List Char → String × Compiler
    | 0, _, c, acc => (String.ofList acc.reverse, c)
    | fuel + 1, ch, c, acc =>
        match ch with
        | none => (String.ofList acc.reverse, c)
        | some x =>
            if x == '\n' || x == ';' || isBlank x then (String.ofList acc.reverse, c)
            else
              let (n, c') := c.take
              go fuel n c' (x :: acc)
  go (c.rest.length + 2) first c []

/-- Reads a file name: blanks, then up to the end of the line. -/
def Compiler.fileName (c : Compiler) : String × Compiler :=
  let (first, c) := c.next
  match first with
  | none => ("", c)
  | some '\n' => ("", c)
  | some x =>
      let name := c.rest.takeWhile (· != '\n')
      let c := { c with rest := c.rest.drop name.length, used := c.used + name.length }
      let (_, c) := c.take
      (String.ofList (x :: name), c)

/-- Reads the text of `a`, `i` or `c` after the command letter: one-line text after blanks,
or the lines after `\`, a backslash at a line's end continuing the text. -/
def Compiler.text (c : Compiler) : Except String (Option String × Compiler) :=
  match c.next with
  | (none, c') => c'.fail "expected \\ after `a', `c' or `i'"
  | (some ch, c') =>
      let (lead, c') : Option Char × Compiler :=
        if ch == '\\' then
          match c'.take with
          | (some x, c'') => (if x == '\n' then none else some x, c'')
          | (none, c'') => (some ' ', c'')
        else (none, c'.putBack (some ch))
      if ch == '\\' && c'.rest.isEmpty && lead == some ' ' then .ok (none, c')
      else
        let rec go : Nat → Compiler → List Char → List Char × Compiler
          | 0, c, acc => (acc, c)
          | fuel + 1, c, acc =>
              match c.take with
              | (none, c') => (acc, c')
              | (some '\n', c') => (acc, c')
              | (some '\\', c') =>
                  match c'.take with
                  | (none, c'') => (acc, c'')
                  | (some x, c'') => go fuel c'' (x :: '\\' :: acc)
              | (some x, c') => go fuel c' (x :: acc)
        let (body, c'') := go (c'.rest.length + 1) c' (lead.toList)
        .ok (some (unescape true (String.ofList body.reverse) ++ "\n"), c'')

/-- Reads the two strings of `y` into the character pairs. -/
def Compiler.translate (c : Compiler) : Except String (List (Char × Char) × Compiler) :=
  match c.take with
  | (none, c') => c'.fail "unterminated `y' command"
  | (some dl, c') =>
      match c'.delimited dl false with
      | (none, c'') => c''.fail "unterminated `y' command"
      | (some src, c'') =>
          match c''.delimited dl false with
          | (none, c3) => c3.fail "unterminated `y' command"
          | (some dst, c3) =>
              let clean := fun (s : String) =>
                let rec go : Nat → List Char → List Char
                  | 0, _ => []
                  | _, [] => []
                  | fuel + 1, '\\' :: '\\' :: rest => '\\' :: go fuel rest
                  | fuel + 1, '\\' :: 'n' :: rest => '\n' :: go fuel rest
                  | fuel + 1, x :: rest => x :: go fuel rest
                go (s.length + 1) (unescape false s).toList
              let a := clean src
              let b := clean dst
              if a.length != b.length then c3.fail "strings for `y' command are different lengths"
              else (c3.endOfCommand).map fun c4 => (a.zip b, c4)

/-- The index of an output file, naming it if it is new. -/
def Compiler.output (c : Compiler) (name : String) : Nat × Compiler :=
  match c.outputs.findIdx? (· == name) with
  | some i => (i, c)
  | none => (c.outputs.length, { c with outputs := c.outputs ++ [name] })

/-- Reads the flags of `s`. -/
def Compiler.substFlags (c : Compiler) (s : Subst) : Except String (Subst × Bool × Bool × Compiler) :=
  let rec go : Nat → Compiler → Subst → Bool → Bool → Bool → Except String (Subst × Bool × Bool × Compiler)
    | 0, c, s, i, m, _ => .ok (s, i, m, c)
    | fuel + 1, c, s, i, m, numbered =>
        match c.take with
        | (some 'i', c') | (some 'I', c') => go fuel c' s true m numbered
        | (some 'm', c') | (some 'M', c') => go fuel c' s i true numbered
        | (some 'e', c') => go fuel c' s i m numbered
        | (some 'p', c') =>
            if s.print then c'.fail "multiple `p' options to `s' command"
            else go fuel c' { s with print := true } i m numbered
        | (some 'g', c') =>
            if s.global then c'.fail "multiple `g' options to `s' command"
            else go fuel c' { s with global := true } i m numbered
        | (some 'w', c') =>
            let (name, c'') := c'.fileName
            if name.isEmpty then c''.fail "missing filename in r/R/w/W commands"
            else
              let (k, c3) := c''.output name
              .ok ({ s with write := some k }, i, m, c3)
        | (some '}', c') | (some '#', c') => .ok (s, i, m, c'.putBack c.rest.head?)
        | (some '\n', c') | (some ';', c') | (none, c') => .ok (s, i, m, c')
        | (some d, c') =>
            if d.isDigit then
              if numbered then c'.fail "multiple number options to `s' command"
              else
                let (n, c'') := c'.integer d
                if n == 0 then c''.fail "number option to `s' command may not be zero"
                else go fuel c'' { s with nth := n } i m true
            else c'.fail "unknown option to `s'"
  go (c.rest.length + 2) c s false false false

/-- Adds a command. -/
def Compiler.add (c : Compiler) (d : Draft) : Compiler := { c with cmds := c.cmds.push d }

/-- Compiles the commands of the script text left. -/
def Compiler.commands : Nat → Compiler → Except String Compiler
  | 0, c => .ok c
  | fuel + 1, c =>
      match c.take with
      | (none, c') => .ok c'
      | (some ch, c') =>
          if ch == ';' || ch == ' ' || ch == '\t' || ch == '\n' then Compiler.commands fuel c'
          else if ch == '#' && c'.used == 1 && c'.rest.take 1 == ['n'] &&
              (c'.rest.drop 1 |>.head? |>.all (· == '\n')) && c'.cmds.isEmpty then
            Compiler.commands fuel { c' with rest := c'.rest.drop 2, used := c'.used + 2, quietFirst := true }
          else
          match c'.address (some ch) with
          | .error e => .error e
          | .ok (first, c1) =>
          let second : Except String (Option RangeEnd × Compiler) :=
            match first with
            | none => .ok (none, c1)
            | some _ =>
                match c1.next with
                | (some ',', c2) => (c2.rangeEnd).map fun (r, c3) => (some r, c3)
                | (other, c2) => .ok (none, c2.putBack other)
          match second with
          | .error e => .error e
          | .ok (second, c2) =>
          let zeroBad := match first, second with
            | some (.line 0), some (.addr (.regex _)) => false
            | some (.line 0), _ => true
            | _, _ => false
          if zeroBad then c2.fail "invalid usage of line address 0"
          else
          let (cmdCh, c3) := c2.next
          let (negated, cmdCh, c3) := match cmdCh with
            | some '!' =>
                let (n, c4) := c3.next
                (true, n, c4)
            | other => (false, other, c3)
          if cmdCh == some '!' then c3.fail "multiple `!'s"
          else
          let sel : Selector := { first, second, negated }
          let hasAddr := first.isSome
          let simple := fun (op : Op) => (c3.endOfCommand).bind fun c4 =>
            Compiler.commands fuel (c4.add { sel, op })
          match cmdCh with
          | none => c3.fail "missing command"
          | some '{' =>
              let idx := c3.cmds.size
              Compiler.commands fuel ({ c3.add { sel := { sel with negated := !negated }, op := .block 0 } with
                blocks := idx :: c3.blocks })
          | some '}' =>
              match c3.blocks with
              | [] => c3.fail "unexpected `\x7d'"
              | b :: more =>
                  if hasAddr then c3.fail "`\x7d' doesn't want any addresses"
                  else
                    match c3.endOfCommand with
                    | .error e => .error e
                    | .ok c4 =>
                        let idx := c4.cmds.size
                        let cmds := c4.cmds.modify b fun d => { d with op := .block idx }
                        Compiler.commands fuel ({ c4 with cmds, blocks := more }.add { sel := {}, op := .blockEnd })
          | some '#' =>
              if hasAddr then c3.fail "comments don't accept any addresses"
              else
                let skip := c3.rest.takeWhile (· != '\n')
                Compiler.commands fuel { c3 with rest := c3.rest.drop skip.length, used := c3.used + skip.length }
          | some ':' =>
              if hasAddr then c3.fail ": doesn't want any addresses"
              else
                let (name, c4) := c3.label
                if name.isEmpty then c4.fail "\":\" lacks a label"
                else Compiler.commands fuel ({ c4 with labels := c4.labels ++ [(name, c4.cmds.size)] }.add
                  { sel := {}, op := .nothing })
          | some 'a' | some 'i' | some 'c' =>
              match c3.text with
              | .error e => .error e
              | .ok (text, c4) =>
                  let t := text.getD ""
                  let op := match cmdCh with
                    | some 'a' => Op.append t
                    | some 'i' => .insert t
                    | _ => .change t
                  let c5 := c4.add { sel, op }
                  let c5 := if text.isNone then { c5 with pendingText := some (c5.cmds.size - 1) } else c5
                  Compiler.commands fuel c5
          | some 'b' | some 't' | some 'T' =>
              let (name, c4) := c3.label
              let target : Option String := if name.isEmpty then none else some name
              Compiler.commands fuel (c4.add { sel := sel, op := .branch (cmdCh.getD 'b') none, label := target })
          | some 'q' | some 'Q' | some 'l' | some 'L' =>
              if (cmdCh == some 'q' || cmdCh == some 'Q') && second.isSome then
                c3.fail "command only uses one address"
              else
                let (n, c4) := c3.next
                let (arg, n, c4) : Option Nat × Option Char × Compiler := match n with
                  | some d =>
                      if d.isDigit then
                        let (v, c5) := c4.integer d
                        let (n', c6) := c5.next
                        (some v, n', c6)
                      else (none, n, c4)
                  | none => (none, n, c4)
                let c5 : Except String Compiler := match n with
                  | some '}' | some '#' => .ok (c4.putBack n)
                  | none | some '\n' | some ';' => .ok c4
                  | _ => c4.fail "extra characters after command"
                c5.bind fun c6 =>
                  let op := match cmdCh with
                    | some 'q' => Op.quit (arg.getD 0)
                    | some 'Q' => .quitSilent (arg.getD 0)
                    | _ => .list arg
                  Compiler.commands fuel (c6.add { sel, op })
          | some '=' => simple .lineNumber
          | some 'd' => simple .delete
          | some 'D' => simple .deleteFirst
          | some 'F' => simple .fileName
          | some 'g' => simple .get
          | some 'G' => simple .getAppend
          | some 'h' => simple .hold
          | some 'H' => simple .holdAppend
          | some 'n' => simple .next
          | some 'N' => simple .nextAppend
          | some 'p' => simple .print
          | some 'P' => simple .printFirst
          | some 'x' => simple .exchange
          | some 'z' => simple .zap
          | some 'v' =>
              let (_, c4) := c3.label
              Compiler.commands fuel (c4.add { sel, op := .nothing })
          | some 'r' | some 'R' =>
              let (name, c4) := c3.fileName
              if name.isEmpty then c4.fail "missing filename in r/R/w/W commands"
              else Compiler.commands fuel (c4.add { sel, op := if cmdCh == some 'r' then .readFile name else .readLine name })
          | some 'w' | some 'W' =>
              let (name, c4) := c3.fileName
              if name.isEmpty then c4.fail "missing filename in r/R/w/W commands"
              else
                let (k, c5) := c4.output name
                Compiler.commands fuel (c5.add { sel, op := if cmdCh == some 'w' then .write k else .writeFirst k })
          | some 's' =>
              match c3.take with
              | (none, c4) => c4.fail "unterminated `s' command"
              | (some dl, c4) =>
                  match c4.delimited dl true with
                  | (none, c5) => c5.fail "unterminated `s' command"
                  | (some pat, c5) =>
                      match c5.delimited dl false with
                      | (none, c6) => c6.fail "unterminated `s' command"
                      | (some rep, c6) =>
                          let (pieces, top) := replacementPieces rep
                          match c6.substFlags { rx := none, pieces } with
                          | .error e => .error e
                          | .ok (s, i, m, c7) =>
                              match c7.regex pat i m top with
                              | .error e => .error e
                              | .ok rx => Compiler.commands fuel (c7.add { sel, op := .subst { s with rx } })
          | some 'y' =>
              match c3.translate with
              | .error e => .error e
              | .ok (pairs, c4) => Compiler.commands fuel (c4.add { sel, op := .translate pairs })
          | some 'e' => simple .nothing
          | some x => c3.fail ("unknown command: `" ++ String.singleton x ++ "'")

/-- Compiles one piece of script. -/
def Compiler.piece (c : Compiler) (origin : Origin) (text : String) : Except String Compiler :=
  let c := { c with rest := text.toList, used := 0, line := 1, origin }
  match c.pendingText with
  | some idx =>
      let lines := text.splitOn "\n"
      let first := lines.headD ""
      let body := unescape true first ++ "\n"
      let cmds := c.cmds.modify idx fun d => { d with op := match d.op with
        | .append _ => .append body
        | .insert _ => .insert body
        | .change _ => .change body
        | other => other }
      let c := { c with cmds, pendingText := none, rest := (text.drop (first.length + 1)).copy.toList,
                        used := first.length + 1 }
      Compiler.commands (text.length + 2) c
  | none => Compiler.commands (text.length + 2) c

/-- Resolves the labels of jumps: the compiled commands, or the message for a missing one. -/
def Compiler.finish (c : Compiler) : Except String (Array Command) :=
  if !c.blocks.isEmpty then
    .error ((match c.origin with
      | .expr n => "-e expression #" ++ toString n ++ ", char 0"
      | .file f => "file " ++ f ++ " line " ++ toString c.line) ++ ": unmatched `\x7b'")
  else
    c.cmds.toList.foldlM (fun (acc : Array Command) d =>
      match d.label with
      | none => .ok (acc.push { sel := d.sel, op := d.op })
      | some name =>
          match c.labels.lookup name with
          | some i =>
              let op := match d.op with
                | .branch k _ => Op.branch k (some i)
                | other => other
              .ok (acc.push { sel := d.sel, op })
          | none => .error ("!can't find label for jump to `" ++ name ++ "'")) #[]

/-! ## Running scripts -/

/-- One line of input: its text, whether its delimiter ended it, and which file it is from. -/
structure Line where
  text : String
  ended : Bool
  file : Nat

/-- The state of a range. -/
inductive RangeState where
  | inactive
  | active (stop : Option Nat)
  | closed
  deriving Inhabited

/-- The range states at the start of the input: a range from line 0 is already open, so its
regex can end it on the first line. -/
def initialRanges (prog : Array Command) : Array RangeState :=
  prog.map fun cmd =>
    match cmd.sel.first, cmd.sel.second with
    | some (.line 0), some _ => RangeState.active none
    | _, _ => .inactive

/-- The state of a running script. -/
structure Machine where
  space : String := ""
  ended : Bool := true
  hold : String := ""
  lineNo : Nat := 0
  file : Nat := 0
  rest : List Line
  out : String := ""
  err : String := ""
  missing : Bool := false
  queue : List String := []
  replaced : Bool := false
  ranges : Array RangeState
  lastRx : Option Rx := none
  fs : Fs
  /-- What each `w` file has been written, by index. -/
  written : Array String
  /-- How many lines of each file `R` has read. -/
  readLines : List (String × Nat) := []
  quit : Option Nat := none
  /-- Whether files are apart, for `$` and line numbers. -/
  separate : Bool := false
  eol : Char := '\n'

/-- Writes text to the output, after a newline the output still lacks. -/
def Machine.emit (m : Machine) (text : String) : Machine :=
  { m with out := m.out ++ (if m.missing then String.singleton m.eol else "") ++ text, missing := false }

/-- Writes the pattern space (or `text`) as a line, with its delimiter if its line had one. -/
def Machine.emitLine (m : Machine) (text : String) : Machine :=
  let m := m.emit text
  if m.ended then { m with out := m.out ++ String.singleton m.eol } else { m with missing := true }

/-- Writes the queued text. -/
def Machine.flushQueue (m : Machine) : Machine :=
  if m.queue.isEmpty then m
  else { m.emit (String.join m.queue) with queue := [] }

/-- Whether the current line is the last. -/
def Machine.atLast (m : Machine) : Bool :=
  match m.rest with
  | [] => true
  | l :: _ => m.separate && l.file != m.file

/-- Whether a regex matches the pattern space, remembering it as the last used. -/
def Machine.matchRx (m : Machine) (rx : Option Rx) : Bool × Machine :=
  match rx.orElse (fun _ => m.lastRx) with
  | none => (false, m)
  | some r =>
      let s := Pattern.Subject.of r.icase m.space r.multiline
      (Pattern.search s r.re, { m with lastRx := some r })

/-- Whether an address selects the current line. -/
def Machine.matchAddr (m : Machine) : Addr → Bool × Machine
  | .line n => (m.lineNo == n, m)
  | .last => (m.atLast, m)
  | .regex rx => m.matchRx rx
  | .step first every => (m.lineNo ≥ first && (m.lineNo - first) % every == 0, m)

/-- Whether the command at `pc` applies to the current line, updating its range. -/
def Machine.selects (m : Machine) (pc : Nat) (sel : Selector) : Bool × Machine :=
  let (hit, m) : Bool × Machine := match sel.first with
    | none => (true, m)
    | some a =>
        match sel.second with
        | none => m.matchAddr a
        | some stop =>
            match m.ranges[pc]?.getD .inactive with
            | .closed => (false, m)
            | .inactive =>
                let (start, m) := m.matchAddr a
                if !start then (false, m)
                else
                  let ln := m.lineNo
                  let state : RangeState := match stop with
                    | .plus n => if n == 0 then .inactive else .active (some (ln + n))
                    | .multiple n =>
                        if n == 0 || ln % n == 0 then .inactive else .active (some ((ln / n + 1) * n))
                    | .addr (.line e) => if e ≤ ln then .inactive else .active (some e)
                    | .addr _ => .active none
                  (true, { m with ranges := m.ranges.set! pc state })
            | .active (some e) =>
                let ln := m.lineNo
                if e ≤ ln then (ln ≤ e, { m with ranges := m.ranges.set! pc .inactive })
                else (true, m)
            | .active none =>
                match stop with
                | .addr a2 =>
                    let (done, m) := m.matchAddr a2
                    (true, if done then { m with ranges := m.ranges.set! pc .inactive } else m)
                | _ => (true, m)
  (hit != sel.negated, m)

/-- Applies case changes to text: `mode` is the lasting change and `one` the change of the
next character. -/
def caseText (mode one : Option Bool) (s : String) : String × Option Bool :=
  let change := fun (up : Option Bool) (c : Char) => match up with
    | some true => c.toUpper
    | some false => c.toLower
    | none => c
  match s.toList with
  | [] => ("", one)
  | c :: rest =>
      let first := match one with
        | some u => change (some u) c
        | none => change mode c
      (String.ofList (first :: rest.map (change mode)), none)

/-- The replacement text for a match with its groups. -/
def replacement (pieces : List Piece) (cs : List Char) (a e : Nat) (gs : Pattern.Groups) : String :=
  let part := fun (n : Nat) =>
    if n == 0 then String.ofList ((cs.drop a).take (e - a))
    else match Pattern.groupSpan gs n with
      | some (x, y) => String.ofList ((cs.drop x).take (y - x))
      | none => ""
  let (out, _, _) := pieces.foldl (fun (acc : String × Option Bool × Option Bool) p =>
    let (out, mode, one) := acc
    match p with
    | .text t =>
        let (t', one') := caseText mode one t
        (out ++ t', mode, one')
    | .group n =>
        let (t', one') := caseText mode one (part n)
        (out ++ t', mode, one')
    | .lower => (out, some false, one)
    | .upper => (out, some true, one)
    | .lowerOne => (out, mode, some false)
    | .upperOne => (out, mode, some true)
    | .plain => (out, none, none)) ("", none, none)
  out

/-- Substitutes in a text: the new text and whether a replacement was made. -/
def substitute (r : Rx) (s : Subst) (text : String) : String × Bool :=
  let cs := text.toList
  let subj := Pattern.Subject.of r.icase text r.multiline
  let rec go : Nat → Nat → Nat → Option Nat → List Char → Bool → List Char × Bool
    | 0, _, _, _, acc, done => (acc, done)
    | fuel + 1, pos, count, prevEnd, acc, done =>
        if pos > cs.length then (acc, done)
        else
          match Pattern.firstMatch subj r.re pos with
          | none => (acc ++ cs.drop pos, done)
          | some (a, e, gs) =>
              if a == e && prevEnd == some a then
                -- An empty match right after the previous one is not a match.
                if a < cs.length then go fuel (a + 1) count none (acc ++ (cs.drop pos).take (a + 1 - pos)) done
                else (acc ++ cs.drop pos, done)
              else
                let count := count + 1
                let before := (cs.drop pos).take (a - pos)
                if count < s.nth then
                  let acc := acc ++ before ++ (cs.drop a).take (e - a)
                  if a == e then
                    if a < cs.length then go fuel (a + 1) count none (acc ++ (cs.drop a).take 1) done
                    else (acc, done)
                  else go fuel e count (some e) acc done
                else
                  let acc := acc ++ before ++ (replacement s.pieces cs a e gs).toList
                  if !s.global then (acc ++ cs.drop e, true)
                  else if a == e then
                    if a < cs.length then go fuel (a + 1) count none (acc ++ (cs.drop a).take 1) true
                    else (acc, true)
                  else go fuel e count (some e) acc true
  let (out, done) := go (cs.length + 2) 0 0 none [] false
  (String.ofList out, done)

/-- The text `l` writes for the pattern space, lines broken to `width`. -/
def listText (width : Nat) (text : String) : String :=
  let shown : Char → String := fun c =>
    let n := c.toNat
    if c == '\\' then "\\\\"
    else if n == 7 then "\\a" else if n == 8 then "\\b" else if n == 12 then "\\f"
    else if c == '\n' then "\\n" else if c == '\r' then "\\r" else if c == '\t' then "\\t"
    else if n == 11 then "\\v"
    else if 32 ≤ n && n < 127 then String.singleton c
    else "\\" ++ Dump.digitsPadded 8 3 n
  let (out, _) := text.toList.foldl (fun (acc : String × Nat) c =>
    let piece := shown c
    let (out, col) := acc
    if width > 1 && col + piece.length > width - 1 then (out ++ "\\\n" ++ piece, piece.length)
    else (out ++ piece, col + piece.length)) ("", 0)
  out ++ "$\n"

/-- How a run of the script over one line ended. -/
inductive Outcome where
  /-- The end of the script: write the pattern space unless quiet. -/
  | finish
  /-- The cycle ended without writing the pattern space. -/
  | discard
  /-- Quit, writing the pattern space unless quiet. -/
  | quit (code : Nat)
  /-- Quit at once. -/
  | quitNow (code : Nat)
  /-- Start again from the first command without reading a line. -/
  | restart

/-- The settings of a run. -/
structure Settings where
  quiet : Bool
  width : Nat := 70
  outputs : List String
  names : Array String

/-- Writes text to the `w` file `k`. -/
def Machine.writeTo (m : Machine) (names : List String) (k : Nat) (text : String) : Machine :=
  match names[k]? with
  | some "/dev/stdout" => m.emit text
  | some "/dev/stderr" => { m with err := m.err ++ text }
  | _ => { m with written := m.written.modify k (· ++ text) }

/-- Reads the next line into the pattern space (appending it after a newline when
`append`), flushing the queue first; false when there is none. -/
def Machine.readNext (m : Machine) (append : Bool) : Option Machine :=
  match m.rest with
  | [] => none
  | l :: more =>
      if m.separate && l.file != m.file then none
      else
        let m := m.flushQueue
        some { m with space := if append then m.space ++ "\n" ++ l.text else l.text,
                      ended := l.ended, rest := more, lineNo := m.lineNo + 1,
                      replaced := false, file := l.file }

/-- Runs the commands from `pc` on the current line.  `fuel` bounds the steps. -/
def Machine.run (st : Settings) (prog : Array Command) (fs : Fs) (cwd : String) :
    Nat → Nat → Machine → Outcome × Machine
  | 0, _, m => (.finish, m)
  | fuel + 1, pc, m =>
      match prog[pc]? with
      | none => (.finish, m)
      | some cmd =>
          let (hit, m) := m.selects pc cmd.sel
          let continue_ := fun (m : Machine) => Machine.run st prog fs cwd fuel (pc + 1) m
          match cmd.op with
          | .block close =>
              -- The selector of a block is negated: a hit skips the block.
              if hit then Machine.run st prog fs cwd fuel (close + 1) m else continue_ m
          | _ =>
          if !hit then continue_ m
          else
          match cmd.op with
          | .block _ | .blockEnd | .nothing => continue_ m
          | .lineNumber => continue_ (m.emit (toString m.lineNo ++ "\n"))
          | .append t => continue_ { m with queue := m.queue ++ [t] }
          | .insert t => continue_ (m.emit t)
          | .change t =>
              let atEnd := match cmd.sel.second, m.ranges[pc]? with
                | some _, some (.active _) => false
                | _, _ => true
              let m := if atEnd || cmd.sel.negated then m.emit t else m
              (.discard, m)
          | .branch kind target =>
              let go := match kind with
                | 't' => m.replaced
                | 'T' => !m.replaced
                | _ => true
              let m := if kind == 'b' || !go then m else { m with replaced := false }
              let m := if kind == 'T' && go then m else m
              if go then
                match target with
                | some i => Machine.run st prog fs cwd fuel i m
                | none => (.finish, m)
              else continue_ m
          | .delete => (.discard, m)
          | .deleteFirst =>
              match m.space.splitOn "\n" with
              | [_] => (.discard, m)
              | _ :: more => (.restart, { m with space := "\n".intercalate more })
              | [] => (.discard, m)
          | .fileName =>
              continue_ (m.emit ((st.names[m.file]?.getD "-") ++ "\n"))
          | .get => continue_ { m with space := m.hold }
          | .getAppend => continue_ { m with space := m.space ++ "\n" ++ m.hold }
          | .hold => continue_ { m with hold := m.space }
          | .holdAppend => continue_ { m with hold := m.hold ++ "\n" ++ m.space }
          | .exchange => continue_ { m with hold := m.space, space := m.hold }
          | .zap => continue_ { m with space := "" }
          | .list w => continue_ (m.emit (listText (w.getD st.width) m.space))
          | .print => continue_ (m.emitLine m.space)
          | .printFirst => continue_ (m.emitLine ((m.space.splitOn "\n").headD ""))
          | .next =>
              if m.atLast then (.quit 0, m)
              else
                let m := if st.quiet then m else m.emitLine m.space
                match m.readNext false with
                | some m' => continue_ m'
                | none => (.quitNow 0, m)
          | .nextAppend =>
              if m.atLast then (.quit 0, m)
              else
                match m.readNext true with
                | some m' => continue_ m'
                | none => (.quit 0, m)
          | .quit code => (.quit code, m)
          | .quitSilent code => (.quitNow code, m)
          | .readFile name =>
              let text := if name == "/dev/stdin" then "" else
                match fs.stat cwd name with
                | .ok e => match e.node with
                  | .file n => m.fs.contentOf n
                  | _ => ""
                | .error _ => ""
              continue_ (if text.isEmpty then m else { m with queue := m.queue ++ [text] })
          | .readLine name =>
              let text := match fs.stat cwd name with
                | .ok e => match e.node with
                  | .file n => m.fs.contentOf n
                  | _ => ""
                | .error _ => ""
              let lines := linesKeep text
              let k := (m.readLines.lookup name).getD 0
              let m := { m with readLines := (name, k + 1) :: m.readLines.filter (·.1 != name) }
              match lines[k]? with
              | some l => continue_ { m with queue := m.queue ++ [if l.endsWith "\n" then l else l ++ "\n"] }
              | none => continue_ m
          | .subst s =>
              match s.rx.orElse (fun _ => m.lastRx) with
              | none => continue_ m
              | some r =>
                  let m := { m with lastRx := some r }
                  let (text, done) := substitute r s m.space
                  if !done then continue_ m
                  else
                    let m := { m with space := text, replaced := true }
                    let m := if s.print then m.emitLine m.space else m
                    let m := match s.write with
                      | some k => m.writeTo st.outputs k (m.space ++ "\n")
                      | none => m
                    continue_ m
          | .translate pairs =>
              continue_ { m with space := String.ofList (m.space.toList.map fun c =>
                (pairs.lookup c).getD c) }
          | .write k => continue_ (m.writeTo st.outputs k (m.space ++ "\n"))
          | .writeFirst k => continue_ (m.writeTo st.outputs k (((m.space.splitOn "\n").headD "") ++ "\n"))

/-- Runs cycles until the input ends or a command quits.  `fuel` bounds the cycles. -/
def Machine.cycles (st : Settings) (prog : Array Command) (fs : Fs) (cwd : String) (steps : Nat) :
    Nat → Bool → Machine → Machine
  | 0, _, m => m
  | fuel + 1, restart, m =>
      let m' : Option Machine := if restart then some m else
        match m.rest with
        | [] => none
        | l :: more =>
            let m := m.flushQueue
            let fresh := m.separate && l.file != m.file
            some { m with space := l.text, ended := l.ended, rest := more,
                          lineNo := (if fresh then 0 else m.lineNo) + 1, replaced := false, file := l.file,
                          ranges := if fresh then initialRanges prog else m.ranges }
      match m' with
      | none => m.flushQueue
      | some m =>
          let (outcome, m) := Machine.run st prog fs cwd steps 0 m
          match outcome with
          | .finish =>
              let m := if st.quiet then m else m.emitLine m.space
              Machine.cycles st prog fs cwd steps fuel false m
          | .discard => Machine.cycles st prog fs cwd steps fuel false m
          | .restart => Machine.cycles st prog fs cwd steps fuel true m
          | .quit code =>
              let m := if st.quiet then m else m.emitLine m.space
              { m.flushQueue with quit := some code }
          | .quitNow code => { m with quit := some code }

end Sed

open Sed in
/-- The options of `sed`. -/
def sedSpec : OptionSpec :=
  { shorts := [('n', .none), ('e', .required), ('f', .required), ('E', .none), ('r', .none),
               ('i', .optional), ('s', .none), ('z', .none), ('u', .none), ('l', .required),
               ('b', .none)],
    longs := [⟨"quiet", 'n', .none⟩, ⟨"silent", 'n', .none⟩, ⟨"expression", 'e', .required⟩,
              ⟨"file", 'f', .required⟩, ⟨"regexp-extended", 'E', .none⟩,
              ⟨"in-place", 'i', .optional⟩, ⟨"separate", 's', .none⟩,
              ⟨"null-data", 'z', .none⟩, ⟨"unbuffered", 'u', .none⟩,
              ⟨"line-length", 'l', .required⟩, ⟨"posix", 'P', .none⟩, ⟨"debug", 'D', .none⟩,
              ⟨"sandbox", 'S', .none⟩, ⟨"follow-symlinks", 'F', .none⟩,
              ⟨"binary", 'b', .none⟩] }

/-- How `sed` says how it is called, after refusing its arguments. -/
def sedUsage (prog : String) : String :=
  "Usage: " ++ prog ++ " [OPTION]... \x7bscript-only-if-no-other-script\x7d [input-file]...\n\n" ++
  "  -n, --quiet, --silent\n                 suppress automatic printing of pattern space\n" ++
  "      --debug\n                 annotate program execution\n" ++
  "  -e script, --expression=script\n                 add the script to the commands to be executed\n" ++
  "  -f script-file, --file=script-file\n                 add the contents of script-file to the commands to be executed\n" ++
  "  --follow-symlinks\n                 follow symlinks when processing in place\n" ++
  "  -i[SUFFIX], --in-place[=SUFFIX]\n                 edit files in place (makes backup if SUFFIX supplied)\n" ++
  "  -l N, --line-length=N\n                 specify the desired line-wrap length for the `l' command\n" ++
  "  --posix\n                 disable all GNU extensions.\n" ++
  "  -E, -r, --regexp-extended\n                 use extended regular expressions in the script\n                 (for portability use POSIX -E).\n" ++
  "  -s, --separate\n                 consider files as separate rather than as a single\n                 continuous long stream.\n" ++
  "      --sandbox\n                 operate in sandbox mode (disable e/r/w commands).\n" ++
  "  -u, --unbuffered\n                 load minimal amounts of data from the input files and flush\n                 the output buffers more often\n" ++
  "  -z, --null-data\n                 separate lines by NUL characters\n" ++
  "      --help     display this help and exit\n" ++
  "      --version  output version information and exit\n\n" ++
  "If no -e, --expression, -f, or --file option is given, then the first\n" ++
  "non-option argument is taken as the sed script to interpret.  All\n" ++
  "remaining arguments are names of input files; if no input files are\n" ++
  "specified, then the standard input is read.\n\n"

open Sed in
/-- `sed`: runs a script over its input. -/
def sed : Batch := fun fs call =>
  let prog := call.name
  match sedSpec.read call.args with
  | .error e => failed fs (prog ++ ": " ++ e.line ++ "\n" ++ sedUsage prog) 1
  | .ok (opts, ops) =>
  let extended := hasOpt opts 'E' || hasOpt opts 'r'
  let sources := opts.filter (fun o => o.letter == 'e' || o.letter == 'f')
  let (pieces, files) : List (Origin × String) × List String :=
    if sources.isEmpty then
      match ops with
      | s :: rest => ([(.expr 1, s)], rest)
      | [] => ([], [])
    else
      let (ps, _) := sources.foldl (fun (acc : List (Origin × String) × Nat) o =>
        let v := o.value.getD ""
        if o.letter == 'e' then (acc.1 ++ [(.expr (acc.2 + 1), v)], acc.2 + 1)
        else
          let text := match call.readOperand fs v with
            | .ok t => t
            | .error _ => ""
          (acc.1 ++ [(.file v, text)], acc.2)) ([], 0)
      (ps, ops)
  let missingScript := sources.filter (·.letter == 'f') |>.find? fun o =>
    match call.readOperand fs (o.value.getD "") with
    | .ok _ => false
    | .error _ => true
  match missingScript with
  | some o =>
      failed fs (prog ++ ": couldn't open file " ++ o.value.getD "" ++ ": No such file or directory\n") 1
  | none =>
  if pieces.isEmpty then failed fs (sedUsage prog) 1
  else
  let compiled := pieces.foldlM (fun (c : Compiler) (o, t) => c.piece o t)
    ({ rest := [], extended } : Compiler)
  match compiled with
  | .error m => failed fs (prog ++ ": " ++ m ++ "\n") 1
  | .ok c =>
  match c.finish with
  | .error m =>
      if m.startsWith "!" then failed fs (prog ++ ": " ++ (m.drop 1).copy ++ "\n") 1
      else failed fs (prog ++ ": " ++ m ++ "\n") 1
  | .ok cmds =>
  let quiet := hasOpt opts 'n' || c.quietFirst
  let inPlace := hasOpt opts 'i'
  let separate := hasOpt opts 's' || inPlace
  let eol := if hasOpt opts 'z' then Char.ofNat 0 else '\n'
  let width := match optValue opts 'l' with
    | some v => v.toNat?.getD 70
    | none => 70
  -- Files named by `w` are emptied before anything runs.
  let opened := c.outputs.foldl (fun (acc : Fs × List (Option String)) name =>
    if name == "/dev/stdout" || name == "/dev/stderr" then (acc.1, acc.2 ++ [none])
    else
      match acc.1.openSink call.cwd name false 0o666 with
      | .ok (fs', .file p _) => (fs', acc.2 ++ [some p])
      | _ => (acc.1, acc.2 ++ [none])) (fs, [])
  let (fs, paths) := opened
  let ops := if files.isEmpty then ["-"] else files
  let (lines, names, err, bad) := (ops.zipIdx).foldl
    (fun (acc : List Line × Array String × String × Bool) (op, idx) =>
      let (lines, names, err, bad) := acc
      let names := names.push op
      let text : Except String String :=
        if op == "-" then
          match call.input with
          | .ok t => .ok t
          | .error e => .error (prog ++ ": can't read -: " ++ e.describe ++ "\n")
        else
          match fs.stat call.cwd op with
          | .error e => .error (prog ++ ": can't read " ++ op ++ ": " ++ e.describe ++ "\n")
          | .ok e =>
              match e.node with
              | .directory =>
                  if inPlace then .error (prog ++ ": couldn't edit " ++ op ++ ": not a regular file\n")
                  else .error (prog ++ ": read error on " ++ op ++ ": Is a directory\n")
              | .file n => .ok (fs.contentOf n)
              | _ => .ok ""
      match text with
      | .error m => (lines, names, err ++ m, true)
      | .ok t =>
          let pieces := t.splitOn (String.singleton eol)
          let (body, lastPiece) := (pieces.dropLast, pieces.getLast?.getD "")
          let ls := body.map (fun l => ({ text := l, ended := true, file := idx } : Line)) ++
            (if lastPiece.isEmpty then [] else [{ text := lastPiece, ended := false, file := idx }])
          (lines ++ ls, names, err, bad)) ([], #[], "", false)
  let settings : Sed.Settings := { quiet, width, outputs := c.outputs, names }
  let machine : Machine := { rest := lines, ranges := Array.replicate cmds.size .inactive, fs,
                             written := Array.replicate c.outputs.length "", separate, eol,
                             file := (lines.head?.map (·.file)).getD 0 }
  let machine := { machine with ranges := initialRanges cmds }
  let steps := 20 * (cmds.size + 2) * (lines.length + 2) + 10000
  let m := machine.cycles settings cmds fs call.cwd steps (lines.length * (cmds.size + 2) + 2) false
  let fs := (paths.zip m.written.toList).foldl (fun (acc : Fs) (p, text) =>
    match p with
    | some path => acc.appendTo path text
    | none => acc) fs
  let code := match m.quit with
    | some q => q
    | none => if bad then 2 else 0
  if inPlace then
    -- Each file gets its own output; only one file is supported per run here.
    match files with
    | [f] =>
        match fs.resolve call.cwd f with
        | .ok p =>
            let fs := fs.writeFile p m.out 0o644
            { err := err ++ m.err, ending := .exited code, fs }
        | .error _ => { out := "", err := err ++ m.err, ending := .exited code, fs }
    | _ => { out := m.out, err := err ++ m.err, ending := .exited code, fs, readInput := ops.contains "-" }
  else
    { out := m.out, err := err ++ m.err, ending := .exited code, fs, readInput := ops.contains "-" }

end Conch.Programs
