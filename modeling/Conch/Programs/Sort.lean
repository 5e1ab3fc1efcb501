import Conch.Programs.Text
import Conch.Text.Floating
import Conch.Text.Version

/-!
# Sorting lines: `sort`

`sort` writes the lines of its files in order.  Lines are compared by their keys, in turn,
and lines whose keys all tie are compared as whole octet strings (unless `-s` or `-u`), the
order reversed with `-r`.  With `-u` only the first of lines whose keys tie is kept; `-c`
and `-C` check the order instead of sorting.

*Keys.*  `-k F[.C][OPTS][,F[.C][OPTS]]` spans from character `C` of field `F` to character
`C` of the second field (its end when no `C`, the line's end when no second field).  Fields
are separated by the `-t` character, or else each field is the blanks before it and the
non-blanks after them.  With no key the whole line is one.

*Orderings*, globally or per key (a key with none of its own takes the global ones):
`-b` skips leading blanks, `-d` looks only at letters, digits and blanks, `-f` folds lower
case to upper, `-i` drops unprintable octets, `-n` compares leading decimal numbers (with a
minus and a fraction; anything else is zero), `-g` general numbers (exponents, `inf` and
`nan`; what is not a number first, then `nan`), `-h` numbers with a unit suffix (`K`, `M`,
`G`, ...), `-M` month names (unknown before `JAN`), `-V` version strings, and `-r` reverses.

Main definition: `sort`.
-/

namespace Conch.Programs

namespace Sorting

/-- How a key is compared. -/
structure Collation where
  skipStart : Bool := false
  skipEnd : Bool := false
  dictionary : Bool := false
  printable : Bool := false
  fold : Bool := false
  numeric : Bool := false
  general : Bool := false
  human : Bool := false
  month : Bool := false
  random : Bool := false
  version : Bool := false
  reverse : Bool := false
  deriving Repr, Inhabited

/-- Whether an ordering is the plain one: nothing but perhaps `r`. -/
def Collation.plain (o : Collation) : Bool :=
  !(o.dictionary || o.printable || o.fold || o.skipStart || o.skipEnd || o.numeric || o.general ||
    o.human || o.month || o.version || o.random)

/-- A key: its start field and character (from zero; none for the line's start) and its end
field and character (none for the line's end; character 0 for the field's end). -/
structure Key where
  startField : Option Nat
  startChar : Nat
  endField : Option Nat
  endChar : Nat
  order : Collation
  deriving Repr, Inhabited

/-- Applies ordering letters: the ordering and the letters left.  `atEnd` for the letters
after the second position, where `b` skips the blanks before the end. -/
def applyLetters (o : Collation) (atEnd : Bool) : List Char → Collation × List Char
  | [] => (o, [])
  | c :: rest =>
      let next := fun (o : Collation) => applyLetters o atEnd rest
      match c with
      | 'b' => next (if atEnd then { o with skipEnd := true } else { o with skipStart := true })
      | 'd' => next { o with dictionary := true, printable := false }
      | 'f' => next { o with fold := true }
      | 'g' => next { o with general := true }
      | 'h' => next { o with human := true }
      | 'i' => next (if o.dictionary then o else { o with printable := true })
      | 'M' => next { o with month := true }
      | 'n' => next { o with numeric := true }
      | 'R' => next { o with random := true }
      | 'r' => next { o with reverse := true }
      | 'V' => next { o with version := true }
      | _ => (o, c :: rest)

/-- Reads a count at the start of `cs`: the count and the rest, or the message. -/
def fieldCount (what : String) (cs : List Char) : Except String (Nat × List Char) :=
  let ds := cs.takeWhile Char.isDigit
  if ds.isEmpty then
    .error (what ++ ": invalid count at start of " ++ Quoted.value (String.ofList cs))
  else
    .ok (ds.foldl (fun (n : Nat) (d : Char) => n * 10 + (d.toNat - 48)) 0, cs.drop ds.length)

/-- Refuses a key specification. -/
def badSpec {α : Type} (spec what : String) : Except String α :=
  .error (what ++ ": invalid field specification " ++ Quoted.value spec)

/-- Reads the argument of `-k`, or gives the message refusing it. -/
def readKey (spec : String) : Except String Key := do
  let bad := badSpec spec
  let (f, rest) ← fieldCount "invalid number at field start" spec.toList
  if f == 0 then bad "field number is zero"
  else
  let (c, rest) ← match rest with
    | '.' :: more => do
        let (c, r) ← fieldCount "invalid number after '.'" more
        if c == 0 then badSpec spec "character offset is zero" else pure (c - 1, r)
    | _ => pure (0, rest)
  let (o, rest) := applyLetters {} false rest
  match rest with
  | [] => pure { startField := some (f - 1), startChar := c, endField := none, endChar := 0, order := o }
  | ',' :: more => do
      let (e, rest) ← fieldCount "invalid number after ','" more
      if e == 0 then bad "field number is zero"
      else
      let (ec, rest) ← match rest with
        | '.' :: more => fieldCount "invalid number after '.'" more
        | _ => pure (0, rest)
      let (o, rest) := applyLetters o true rest
      if !rest.isEmpty then bad "stray character in field spec"
      else pure { startField := some (f - 1), startChar := c, endField := some (e - 1), endChar := ec, order := o }
  | _ => bad "stray character in field spec"

/-- Whether a character separates fields when there is no `-t`. -/
def isBlank (c : Char) : Bool := c == ' ' || c == '\t' || c == '\n'

/-- Moves past `n` fields from `pos` of a line. -/
def skipFields (tab : Option Char) (line : Array Char) (keepLast : Bool) : Nat → Nat → Nat
  | 0, pos => pos
  | n + 1, pos =>
      let lim := line.size
      if pos ≥ lim then pos
      else
        match tab with
        | some t =>
            let p := pos + ((line.toList.drop pos).takeWhile (· != t)).length
            let p := if p < lim && (n > 0 || keepLast) then p + 1 else p
            skipFields tab line keepLast n p
        | none =>
            let p := pos + ((line.toList.drop pos).takeWhile isBlank).length
            let p := p + ((line.toList.drop p).takeWhile (fun c => !isBlank c)).length
            skipFields tab line keepLast n p

/-- Skips blanks from `pos`, up to `lim`. -/
def skipBlanks (line : Array Char) (pos lim : Nat) : Nat :=
  min lim (pos + ((line.toList.drop pos).takeWhile isBlank).length)

/-- Where a key starts in a line. -/
def keyStart (tab : Option Char) (k : Key) (line : Array Char) : Nat :=
  match k.startField with
  | none => if k.order.skipStart then skipBlanks line 0 line.size else 0
  | some f =>
      let p := match tab with
        | some _ => skipFields tab line true f 0
        | none => skipFields tab line true f 0
      let p := if k.order.skipStart then skipBlanks line p line.size else p
      min line.size (p + k.startChar)

/-- Where a key ends in a line. -/
def keyLimit (tab : Option Char) (k : Key) (line : Array Char) : Nat :=
  match k.endField with
  | none => line.size
  | some e =>
      let words := if k.endChar == 0 then e + 1 else e
      let p := skipFields tab line (k.endChar != 0) words 0
      if k.endChar != 0 then
        let p := if k.order.skipEnd then skipBlanks line p line.size else p
        min line.size (p + k.endChar)
      else p

/-- The value of a leading number for `-n`: negative or not, integer digits without leading
zeros, fraction digits without trailing zeros. -/
def numericParts (cs : List Char) : Bool × List Char × List Char :=
  let cs := cs.dropWhile isBlank
  let (neg, cs) := match cs with
    | '-' :: rest => (true, rest)
    | _ => (false, cs)
  let ip := (cs.takeWhile Char.isDigit).dropWhile (· == '0')
  let frac := match cs.dropWhile Char.isDigit with
    | '.' :: rest => rest.takeWhile Char.isDigit
    | _ => []
  let frac := (frac.reverse.dropWhile (· == '0')).reverse
  let zero := ip.isEmpty && frac.isEmpty
  (neg && !zero, ip, frac)

/-- Compares two lists of characters as strings. -/
def compareChars (a b : List Char) : Ordering := compare (String.ofList a) (String.ofList b)

/-- Compares two magnitudes given by their integer and fraction digits. -/
def compareMagnitude (ia fa ib fb : List Char) : Ordering :=
  if ia.length != ib.length then compare ia.length ib.length
  else
    match compareChars ia ib with
    | .eq => compareChars fa fb
    | o => o

/-- Compares leading decimal numbers, as `-n` does. -/
def numericCompare (a b : List Char) : Ordering :=
  let (na, ia, fa) := numericParts a
  let (nb, ib, fb) := numericParts b
  match na, nb with
  | true, false => .lt
  | false, true => .gt
  | false, false => compareMagnitude ia fa ib fb
  | true, true => compareMagnitude ib fb ia fa

/-- The unit order of a number with a suffix, for `-h`. -/
def unitOrder (cs : List Char) : Int :=
  let cs := cs.dropWhile isBlank
  let (neg, cs) := match cs with
    | '-' :: rest => (true, rest)
    | _ => (false, cs)
  let ip := cs.takeWhile Char.isDigit
  let rest := cs.drop ip.length
  let (fp, rest) := match rest with
    | '.' :: more => (more.takeWhile Char.isDigit, more.dropWhile Char.isDigit)
    | _ => ([], rest)
  let nonzero := (ip ++ fp).any (· != '0')
  if !nonzero then 0
  else
    let order : Int := match rest.head? with
      | some 'K' | some 'k' => 1
      | some 'M' => 2
      | some 'G' => 3
      | some 'T' => 4
      | some 'P' => 5
      | some 'E' => 6
      | some 'Z' => 7
      | some 'Y' => 8
      | some 'R' => 9
      | some 'Q' => 10
      | _ => 0
    if neg then -order else order

/-- A number for `-g`: none when the text does not start with one. -/
def generalValue (cs : List Char) : Option Text.Number :=
  (Text.readNumber cs).map (·.number)

/-- Compares two finite binary numbers. -/
def compareBinary (a b : Text.Binary) : Ordering :=
  let za := a.significand == 0
  let zb := b.significand == 0
  if za && zb then .eq
  else
    let sa : Int := if za then 0 else if a.negative then -1 else 1
    let sb : Int := if zb then 0 else if b.negative then -1 else 1
    if sa != sb then compare sa sb
    else
      let (x, dx) := a.fraction
      let (y, dy) := b.fraction
      let m := compare (x * dy) (y * dx)
      if sa < 0 then m.swap else m

/-- Compares general numbers, as `-g` does. -/
def generalCompare (a b : List Char) : Ordering :=
  match generalValue a, generalValue b with
  | none, none => .eq
  | none, _ => .lt
  | _, none => .gt
  | some x, some y =>
      match x, y with
      | .notANumber _, .notANumber _ => .eq
      | .notANumber _, _ => .lt
      | _, .notANumber _ => .gt
      | .infinite p, .infinite q => if p == q then .eq else if p then .lt else .gt
      | .infinite p, _ => if p then .lt else .gt
      | _, .infinite q => if q then .gt else .lt
      | .finite u, .finite v => compareBinary u v

/-- The month a text starts with, 1 to 12, or 0. -/
def monthOf (cs : List Char) : Nat :=
  let w := String.ofList ((cs.dropWhile isBlank).take 3 |>.map Char.toUpper)
  match ["JAN", "FEB", "MAR", "APR", "MAY", "JUN", "JUL", "AUG", "SEP", "OCT", "NOV", "DEC"].findIdx? (· == w) with
  | some i => i + 1
  | none => 0

/-- The characters of a key that count: without those `-d` or `-i` ignores, folded by `-f`. -/
def significant (o : Collation) (cs : List Char) : List Char :=
  let kept := if o.dictionary then cs.filter (fun c => c.isAlphanum || c == ' ' || c == '\t')
    else if o.printable then cs.filter (fun c => 32 ≤ c.toNat && c.toNat < 127)
    else cs
  if o.fold then kept.map Char.toUpper else kept

/-- Compares two keys by an ordering, before reversing. -/
def compareKeys (o : Collation) (a b : List Char) : Ordering :=
  let a := significant o a
  let b := significant o b
  if o.numeric then numericCompare a b
  else if o.general then generalCompare a b
  else if o.human then
    let d := unitOrder a - unitOrder b
    if d != 0 then compare d 0 else numericCompare a b
  else if o.month then compare (monthOf a) (monthOf b)
  else if o.version then Text.versionCompare (String.ofList a) (String.ofList b)
  else compareChars a b

/-- How `sort` compares lines. -/
structure Settings where
  keys : List Key
  tab : Option Char
  reverse : Bool
  /-- Whether lines whose keys tie are left as they are. -/
  keysOnly : Bool

/-- Compares two lines by their keys. -/
def Settings.byKeys (st : Settings) (a b : Array Char) : Ordering :=
  st.keys.foldl (fun acc k =>
    match acc with
    | .eq =>
        let ka := (a.toList.drop (keyStart st.tab k a)).take (keyLimit st.tab k a - keyStart st.tab k a)
        let kb := (b.toList.drop (keyStart st.tab k b)).take (keyLimit st.tab k b - keyStart st.tab k b)
        let o := compareKeys k.order ka kb
        if k.order.reverse then o.swap else o
    | o => o) .eq

/-- Compares two lines: by their keys, then as whole lines unless only keys count. -/
def Settings.compare (st : Settings) (a b : Array Char) : Ordering :=
  match st.byKeys a b with
  | .eq =>
      if st.keysOnly && !st.keys.isEmpty then .eq
      else
        let o := compareChars a.toList b.toList
        if st.reverse then o.swap else o
  | o => o

/-- The letters of an ordering, as messages name them. -/
def Collation.letters (o : Collation) : String :=
  String.ofList ((if o.skipStart || o.skipEnd then ['b'] else []) ++ (if o.dictionary then ['d'] else []) ++
    (if o.fold then ['f'] else []) ++ (if o.general then ['g'] else []) ++ (if o.human then ['h'] else []) ++
    (if o.printable then ['i'] else []) ++ (if o.month then ['M'] else []) ++
    (if o.numeric then ['n'] else []) ++ (if o.random then ['R'] else []) ++
    (if o.reverse then ['r'] else []) ++ (if o.version then ['V'] else []))

/-- Whether an ordering asks for two ways of comparing at once. -/
def Collation.clashes (o : Collation) : Bool :=
  let n := [o.numeric, o.general, o.human, o.month, o.version || o.random || o.dictionary || o.printable].countP id
  n > 1

end Sorting

open Sorting in
/-- `sort`: sorts lines. -/
def sort : Batch := fun fs call =>
  let prog := call.name
  let spec : OptionSpec :=
    { shorts := [('b', .none), ('c', .none), ('C', .none), ('d', .none), ('f', .none), ('g', .none),
                 ('h', .none), ('i', .none), ('k', .required), ('m', .none), ('M', .none), ('n', .none),
                 ('o', .required), ('r', .none), ('R', .none), ('s', .none), ('S', .required),
                 ('t', .required), ('T', .required), ('u', .none), ('V', .none), ('z', .none)],
      longs := [⟨"ignore-leading-blanks", 'b', .none⟩, ⟨"check", 'c', .optional⟩,
                ⟨"dictionary-order", 'd', .none⟩, ⟨"ignore-case", 'f', .none⟩,
                ⟨"general-numeric-sort", 'g', .none⟩, ⟨"human-numeric-sort", 'h', .none⟩,
                ⟨"ignore-nonprinting", 'i', .none⟩, ⟨"key", 'k', .required⟩, ⟨"merge", 'm', .none⟩,
                ⟨"month-sort", 'M', .none⟩, ⟨"numeric-sort", 'n', .none⟩, ⟨"output", 'o', .required⟩,
                ⟨"reverse", 'r', .none⟩, ⟨"random-sort", 'R', .none⟩, ⟨"stable", 's', .none⟩,
                ⟨"buffer-size", 'S', .required⟩, ⟨"field-separator", 't', .required⟩,
                ⟨"temporary-directory", 'T', .required⟩, ⟨"unique", 'u', .none⟩,
                ⟨"version-sort", 'V', .none⟩, ⟨"zero-terminated", 'z', .none⟩,
                ⟨"parallel", 'P', .required⟩, ⟨"debug", 'D', .none⟩,
                ⟨"sort", 'O', .required⟩] }
  match spec.read call.args with
  | .error e => failed fs (e.message prog) 2
  | .ok (opts, ops) =>
  let fail := fun (msg : String) => failed fs (prog ++ ": " ++ msg ++ "\n") 2
  -- The global ordering, from the letters given as options.
  let global := opts.foldl (fun (o : Collation) opt =>
    match opt.letter with
    | 'O' =>
        match opt.value.getD "" with
        | "general-numeric" => { o with general := true }
        | "human-numeric" => { o with human := true }
        | "month" => { o with month := true }
        | "numeric" => { o with numeric := true }
        | "random" => { o with random := true }
        | "version" => { o with version := true }
        | _ => o
    | 'b' => { o with skipStart := true, skipEnd := true }
    | c => if "dfghiMnRrV".toList.contains c then (applyLetters o false [c]).1 else o) {}
  let keyArgs := opts.filterMap (fun o => if o.letter == 'k' then o.value else none)
  match keyArgs.mapM readKey with
  | .error msg => fail msg
  | .ok keys =>
  let tabArg := optValue opts 't'
  let tab : Except String (Option Char) := match tabArg with
    | none => .ok none
    | some t =>
        match t.toList with
        | [] => .error "empty tab"
        | [c] => .ok (some c)
        | ['\\', '0'] => .ok (some (Char.ofNat 0))
        | _ => .error ("multi-character tab " ++ Quoted.value t)
  match tab with
  | .error msg => fail msg
  | .ok tab =>
  -- Keys without orderings of their own take the global ones.
  let keys := keys.map fun k =>
    if k.order.plain && !k.order.reverse then { k with order := global } else k
  let keys := if keys.isEmpty && !global.plain then
      [{ startField := none, startChar := 0, endField := none, endChar := 0, order := global }]
    else keys
  match (keys.map (·.order)).find? Collation.clashes with
  | some o =>
      let o := { o with skipStart := false, skipEnd := false, reverse := false }
      fail ("options '-" ++ o.letters ++ "' are incompatible")
  | none =>
  let unique := hasOpt opts 'u'
  let st : Sorting.Settings := { keys, tab, reverse := global.reverse, keysOnly := unique || hasOpt opts 's' }
  let eol := if hasOpt opts 'z' then Char.ofNat 0 else '\n'
  let ops := orInput ops
  let (texts, err, ok) := readAll fs call (fun op e =>
    if e == .isDirectory then prog ++ ": read failed: " ++ Quoted.name true op ++ ": Is a directory\n"
    else prog ++ ": cannot read: " ++ Quoted.name true op ++ ": " ++ e.describe ++ "\n") ops
  if !ok then { err, ending := .exited 2, fs, readInput := ops.contains "-" }
  else
  let split := fun (t : String) =>
    let pieces := t.splitOn (String.singleton eol)
    match pieces.getLast? with
    | some "" => pieces.dropLast
    | _ => pieces
  let lines := (texts.flatMap (fun t => split t.2)).map (fun l => l.toList.toArray)
  let ordered := fun (a b : Array Char) =>
    let o := st.compare a b
    o == .gt || (unique && o == .eq)
  let join := fun (ls : List (Array Char)) => String.join (ls.map fun l => String.ofList l.toList ++ String.singleton eol)
  if hasOpt opts 'c' || hasOpt opts 'C' then
    let arr := lines.toArray
    let disorder := (List.range lines.length).find? fun i =>
      match arr[i]?, arr[i + 1]? with
      | some a, some b => ordered a b
      | _, _ => false
    match disorder with
    | some i =>
        let name := match ops with
          | [f] => f
          | _ => "-"
        let err := if hasOpt opts 'C' then ""
          else prog ++ ": " ++ name ++ ":" ++ toString (i + 2) ++ ": disorder: " ++
            String.ofList ((arr[i + 1]?.getD #[]).toList) ++ "\n"
        { err, ending := .exited 1, fs, readInput := ops.contains "-" }
    | none => { fs, readInput := ops.contains "-" }
  else
  let sorted := lines.mergeSort (fun a b => st.compare a b != .gt)
  let sorted := if unique then
      (sorted.foldl (fun (acc : List (Array Char)) l =>
        match acc with
        | p :: _ => if st.compare p l == .eq then acc else l :: acc
        | [] => [l]) []).reverse
    else sorted
  let text := join sorted
  match optValue opts 'o' with
  | some target =>
      match fs.openSink call.cwd target false 0o644 with
      | .ok (fs', .file p _) => { fs := fs'.writeFile p text 0o644, readInput := ops.contains "-" }
      | .ok (fs', .stream 1) => { out := text, fs := fs', readInput := ops.contains "-" }
      | .ok (fs', _) => { fs := fs', readInput := ops.contains "-" }
      | .error e => fail ("open failed: " ++ Quoted.name true target ++ ": " ++ e.describe)
  | none => { out := text, fs, readInput := ops.contains "-" }

end Conch.Programs
