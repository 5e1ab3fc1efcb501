import Conch.Programs.Text

/-!
# Fields of lines: `uniq` and `cut`

`uniq` writes one line of each run of equal adjacent lines.  Lines are compared after
skipping `-f N` fields (blanks, then non-blanks) and then `-s N` characters, on at most `-w N`
characters, ignoring case with `-i`.  `-c` writes each line's count before it, `-d` only
lines that are repeated, `-u` only those that are not, and `-D` every line of the repeated
runs (with `--all-repeated=prepend` or `=separate`, an empty line before or between runs);
`--group` writes every line with an empty line between runs.  It reads one file (or the
standard input) and writes to a second file when one is named.

`cut` writes parts of lines: octets (`-b`, or `-c`) or fields separated by the `-d`
character (a tab by default) at positions given by a list such as `1,3-5,7-`.  Selected
octets or fields keep their order in the line; `--complement` selects the others.  Between
fields it writes the delimiter, or the `--output-delimiter` string, which also separates
octet ranges that are not adjacent.  A line without the delimiter is written whole unless
`-s`.

Main definitions: `uniq` and `cut`.
-/

namespace Conch.Programs

namespace Fields

/-! ## uniq -/

/-- How `uniq` compares lines. -/
structure Comparing where
  skipFields : Nat := 0
  skipChars : Nat := 0
  checkChars : Option Nat := none
  ignoreCase : Bool := false

/-- Whether a character separates fields. -/
def isBlank (c : Char) : Bool := c == ' ' || c == '\t'

/-- The part of a line that is compared. -/
def Comparing.part (c : Comparing) (line : List Char) : List Char :=
  let rec skip : Nat → List Char → List Char
    | 0, cs => cs
    | n + 1, cs => skip n ((cs.dropWhile isBlank).dropWhile (fun x => !isBlank x))
  let cs := (skip c.skipFields line).drop c.skipChars
  let cs := match c.checkChars with
    | some w => cs.take w
    | none => cs
  if c.ignoreCase then cs.map Char.toLower else cs

/-- How repeated lines are separated in the output of `-D` or `--group`. -/
inductive Delimit where
  | none
  | prepend
  | separate
  | append
  | both
  deriving DecidableEq

/-- What `uniq` writes. -/
structure Writing where
  unique : Bool := true
  firstRepeated : Bool := true
  laterRepeated : Bool := false
  count : Bool := false
  delimit : Delimit := .none
  grouping : Option Delimit := none

/-- The runs of equal adjacent lines. -/
def runs (cmp : Comparing) (lines : List String) : List (List String) :=
  let grouped := lines.foldl (fun (acc : List (List String)) l =>
    match acc with
    | (g :: more) =>
        match g.head? with
        | some first => if cmp.part first.toList == cmp.part l.toList then (l :: g) :: more else [l] :: acc
        | none => [l] :: acc
    | [] => [[l]]) []
  (grouped.map List.reverse).reverse

/-- The text `uniq` writes for the runs, each line ended by `eol`. -/
def Writing.text (w : Writing) (eol : String) (rs : List (List String)) : String :=
  match w.grouping with
  | some g =>
      let body := eol.intercalate (rs.map fun r => String.join (r.map (· ++ eol)))
      if rs.isEmpty then ""
      else
        (if g == .prepend || g == .both then eol else "") ++ body ++
          (if g == .append || g == .both then eol else "")
  | none =>
      let countText := fun (n : Nat) => if w.count then padLeft 7 (toString n) ++ " " else ""
      let (out, _) := rs.foldl (fun (acc : String × Bool) r =>
        let (out, anyRepeated) := acc
        let n := r.length
        if n == 1 then
          (if w.unique then out ++ countText 1 ++ r.headD "" ++ eol else out, anyRepeated)
        else if w.laterRepeated then
          let sep := match w.delimit with
            | .prepend => eol
            | .separate => if anyRepeated then eol else ""
            | _ => ""
          let lines := String.join (r.map (· ++ eol))
          (out ++ sep ++ lines, true)
        else if w.firstRepeated then (out ++ countText n ++ r.headD "" ++ eol, true)
        else (out, true)) ("", false)
      out

/-! ## cut -/

/-- A range of positions, counted from one; none for the end of the line. -/
structure Span where
  lo : Nat
  hi : Option Nat
  deriving Repr, DecidableEq

/-- Reads a list of positions: the ranges, or the message refusing it.  `positions` when the
list counts octets rather than fields. -/
def readList (positions : Bool) (s : String) : Except String (List Span) :=
  let fromOne := if positions then "byte/character positions are numbered from 1" else "fields are numbered from 1"
  let badRange := if positions then "invalid byte or character range" else "invalid field range"
  let pieces := s.splitOn ","
  let parsePiece : String → String → Except String (List Span) := fun p restText =>
    let digitsOnly := fun (t : String) => t.toList.all Char.isDigit
    let num := fun (t : String) => t.toList.foldl (fun (n : Nat) (c : Char) => n * 10 + (c.toNat - 48)) 0
    match p.splitOn "-" with
    | [n] =>
        if !digitsOnly n then .error ((if positions then "invalid byte/character position " else "invalid field value ") ++
          Quoted.value ((restText.toList.dropWhile Char.isDigit) |> String.ofList))
        else if n.isEmpty || num n == 0 then .error fromOne
        else .ok [⟨num n, some (num n)⟩]
    | [a, b] =>
        if !digitsOnly a || !digitsOnly b then
          .error ((if positions then "invalid byte/character position " else "invalid field value ") ++
            Quoted.value ((restText.toList.dropWhile (fun c => c.isDigit || c == '-')) |> String.ofList))
        else if a.isEmpty && b.isEmpty then .error "invalid range with no endpoint: -"
        else if !a.isEmpty && num a == 0 then .error fromOne
        else
          let lo := if a.isEmpty then 1 else num a
          if b.isEmpty then .ok [⟨lo, none⟩]
          else if num b < lo then .error "invalid decreasing range"
          else .ok [⟨lo, some (num b)⟩]
    | _ => .error badRange
  let rec go : List String → String → Except String (List Span)
    | [], _ => .ok []
    | p :: more, restText =>
        match parsePiece p restText with
        | .error e => .error e
        | .ok spans => (go more ((restText.drop (p.length + 1)).copy)).map (spans ++ ·)
  match go pieces s with
  | .error e => .error e
  | .ok [] => .error (if positions then "missing list of byte/character positions" else "missing list of fields")
  | .ok spans => .ok spans

/-- Whether a position (from one) is in a list of ranges. -/
def selected (spans : List Span) (i : Nat) : Bool :=
  spans.any fun s => s.lo ≤ i && (match s.hi with
    | some h => i ≤ h
    | none => true)

/-- How `cut` cuts. -/
structure Cutting where
  spans : List Span
  complement : Bool
  byFields : Bool
  delim : Char
  outDelim : Option String
  onlyDelimited : Bool

/-- Whether a position is kept. -/
def Cutting.keeps (c : Cutting) (i : Nat) : Bool := selected c.spans i != c.complement

/-- Cuts one line (without its end). -/
def Cutting.line (c : Cutting) (eol : String) (line : String) : String :=
  if c.byFields then
    let fields := line.splitOn (String.singleton c.delim)
    if fields.length == 1 then (if c.onlyDelimited then "" else line ++ eol)
    else
      let kept := (fields.zipIdx.filter fun (_, i) => c.keeps (i + 1)).map (·.1)
      (c.outDelim.getD (String.singleton c.delim)).intercalate kept ++ eol
  else
    let cs := line.toList
    let (out, _) := cs.zipIdx.foldl (fun (acc : String × Bool) (ch, i) =>
      let (out, started) := acc
      if c.keeps (i + 1) then
        let sep := match c.outDelim with
          | some d => if started && (i == 0 || !c.keeps i) then d else ""
          | none => ""
        (out ++ sep ++ String.singleton ch, true)
      else (out, started)) ("", false)
    out ++ eol

end Fields

open Fields in
/-- `uniq`: drops repeated adjacent lines. -/
def uniq : Batch := fun fs call =>
  let prog := call.name
  -- A word of digits after a dash is an old spelling of `-f`.
  let args := call.args.map fun a =>
    if a.length > 1 && a.startsWith "-" && (a.drop 1).all Char.isDigit then "-f" ++ (a.drop 1).copy else a
  let spec : OptionSpec :=
    { shorts := [('c', .none), ('d', .none), ('D', .none), ('f', .required), ('i', .none), ('s', .required),
                 ('u', .none), ('w', .required), ('z', .none)],
      longs := [⟨"count", 'c', .none⟩, ⟨"repeated", 'd', .none⟩, ⟨"all-repeated", 'D', .optional⟩,
                ⟨"skip-fields", 'f', .required⟩, ⟨"ignore-case", 'i', .none⟩, ⟨"skip-chars", 's', .required⟩,
                ⟨"unique", 'u', .none⟩, ⟨"check-chars", 'w', .required⟩, ⟨"zero-terminated", 'z', .none⟩,
                ⟨"group", 'G', .optional⟩] }
  match spec.read args with
  | .error e => failed fs (e.message prog) 1
  | .ok (opts, ops) =>
  let usage := fun (msg : String) => failed fs (prog ++ ": " ++ msg ++ "\n" ++
    "Try '" ++ prog ++ " --help' for more information.\n") 1
  let count : Char → String → Except String (Option Nat) := fun letter what =>
    match optValue opts letter with
    | none => .ok none
    | some v =>
        match v.toNat? with
        | some n => .ok (some n)
        | none => .error (prog ++ ": " ++ what ++ ": " ++ Quoted.value v ++ "\n")
  let numbers := do
    let f ← count 'f' "invalid number of fields to skip"
    let s ← count 's' "invalid number of bytes to skip"
    let w ← count 'w' "invalid number of bytes to compare"
    pure (f, s, w)
  match numbers with
  | .error msg => failed fs msg 1
  | .ok (f, s, w) =>
  let cmp : Comparing := { skipFields := f.getD 0, skipChars := s.getD 0, checkChars := w,
                           ignoreCase := hasOpt opts 'i' }
  let method : Option String → List (String × Delimit) → Option (Option Delimit) := fun v allowed =>
    match v with
    | none => some (some .none)
    | some m => (allowed.find? (·.1 == m)).map (fun p => some p.2)
  let allRepeated := (opts.filter (·.letter == 'D')).getLast?.map (·.value)
  let grouping := (opts.filter (·.letter == 'G')).getLast?.map (·.value)
  let delimit := match allRepeated with
    | some v => method v [("none", .none), ("prepend", .prepend), ("separate", .separate)]
    | none => some none
  let groupMode := match grouping with
    | some v => method (v.map id) [("separate", .separate), ("prepend", .prepend), ("append", .append), ("both", .both)]
    | none => some none
  match delimit, groupMode with
  | none, _ =>
      usage ("invalid argument " ++ Quoted.value ((allRepeated.bind id).getD "") ++ " for '--all-repeated'\n" ++
        "Valid arguments are:\n  - 'none'\n  - 'prepend'\n  - 'separate'")
  | _, none =>
      usage ("invalid argument " ++ Quoted.value ((grouping.bind id).getD "") ++ " for '--group'\n" ++
        "Valid arguments are:\n  - 'prepend'\n  - 'append'\n  - 'separate'\n  - 'both'")
  | some delimit, some groupMode =>
  let groupMode := groupMode.map (fun g => if g == .none then Delimit.separate else g)
  if groupMode.isSome && (hasOpt opts 'c' || hasOpt opts 'd' || hasOpt opts 'D' || hasOpt opts 'u') then
    usage "--group is mutually exclusive with -c/-d/-D/-u"
  else if hasOpt opts 'D' && hasOpt opts 'c' then
    usage "printing all duplicated lines and repeat counts is meaningless"
  else
  match ops with
  | _ :: _ :: extra :: _ => usage ("extra operand " ++ Quoted.value extra)
  | _ =>
  let writing : Writing :=
    { unique := !(hasOpt opts 'd' || hasOpt opts 'D'),
      firstRepeated := !hasOpt opts 'u',
      laterRepeated := hasOpt opts 'D',
      count := hasOpt opts 'c',
      delimit := delimit.getD .none,
      grouping := groupMode }
  let input := ops.headD "-"
  match call.readOperand fs input with
  | .error e => { err := plainComplaint prog input e, ending := .exited 1, fs, readInput := input == "-" }
  | .ok text =>
      let eol := if hasOpt opts 'z' then String.singleton (Char.ofNat 0) else "\n"
      let pieces := text.splitOn eol
      let lines := match pieces.getLast? with
        | some "" => pieces.dropLast
        | _ => pieces
      let out := writing.text eol (runs cmp lines)
      match ops with
      | [_, target] =>
          match fs.openSink call.cwd target false 0o644 with
          | .ok (fs', .file p _) => { fs := fs'.writeFile p out 0o644, readInput := input == "-" }
          | .ok (fs', .stream 1) => { out, fs := fs', readInput := input == "-" }
          | .ok (fs', _) => { fs := fs', readInput := input == "-" }
          | .error e => { err := plainComplaint prog target e, ending := .exited 1, fs }
      | _ => { out, fs, readInput := input == "-" }

open Fields in
/-- `cut`: selects parts of lines. -/
def cut : Batch := fun fs call =>
  let prog := call.name
  let spec : OptionSpec :=
    { shorts := [('b', .required), ('c', .required), ('f', .required), ('d', .required), ('n', .none),
                 ('s', .none), ('z', .none)],
      longs := [⟨"bytes", 'b', .required⟩, ⟨"characters", 'c', .required⟩, ⟨"fields", 'f', .required⟩,
                ⟨"delimiter", 'd', .required⟩, ⟨"only-delimited", 's', .none⟩,
                ⟨"zero-terminated", 'z', .none⟩, ⟨"complement", 'C', .none⟩,
                ⟨"output-delimiter", 'O', .required⟩] }
  match spec.read call.args with
  | .error e => failed fs (e.message prog) 1
  | .ok (opts, ops) =>
  let usage := fun (msg : String) => failed fs (prog ++ ": " ++ msg ++ "\n" ++
    "Try '" ++ prog ++ " --help' for more information.\n") 1
  let lists := opts.filter (fun o => o.letter == 'b' || o.letter == 'c' || o.letter == 'f')
  let kinds := (lists.map (fun o => if o.letter == 'f' then 'f' else 'b')).eraseDups
  match lists.getLast?, kinds with
  | none, _ => usage "you must specify a list of bytes, characters, or fields"
  | some _, _ :: _ :: _ => usage "only one type of list may be specified"
  | some last, _ =>
  let byFields := last.letter == 'f'
  if hasOpt opts 'd' && !byFields then usage "an input delimiter may be specified only when operating on fields"
  else if hasOpt opts 's' && !byFields then
    usage "suppressing non-delimited lines makes sense\n\tonly when operating on fields"
  else
  let delimText := (optValue opts 'd').getD "\t"
  if delimText.length > 1 then usage "the delimiter must be a single character"
  else
  match readList (!byFields) (last.value.getD "") with
  | .error msg => usage msg
  | .ok spans =>
  let delim := if delimText.isEmpty then Char.ofNat 0 else delimText.toList.headD '\t'
  let c : Cutting := { spans, complement := hasOpt opts 'C', byFields, delim,
                       outDelim := optValue opts 'O', onlyDelimited := hasOpt opts 's' }
  let eol := if hasOpt opts 'z' then String.singleton (Char.ofNat 0) else "\n"
  let ops := orInput ops
  let (texts, err, ok) := readAll fs call (plainComplaint prog) ops
  let out := String.join (texts.map fun t =>
    let pieces := t.2.splitOn eol
    let lines := match pieces.getLast? with
      | some "" => pieces.dropLast
      | _ => pieces
    String.join (lines.map (c.line eol)))
  filterRun fs ops out err ok 1

end Conch.Programs
