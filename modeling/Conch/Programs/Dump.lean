import Conch.Programs.Text
import Conch.Programs.Format

/-!
# Dumping octets

`od` writes the octets of its input in columns, sixteen to a line by default.  Each line starts
with the offset of its first octet (seven octal digits unless `-A` asks for decimal,
hexadecimal or no offsets), then the octets shown in each asked-for way, one line per way:
named characters (`a`), characters with backslash escapes (`c`), or integers of one, two,
four or eight octets read little-endian and written signed, unsigned, octal or hexadecimal.
With no way asked for, the octets are shown as two-octet octal numbers.

Every way shows a line in the same width: each way's items are right-aligned in a field as
wide as its widest value, and the width left over is shared out among the items from the
left, so that the columns of different ways line up.  A last short line is completed with
zero octets to a whole item and shows only the items it has.  A line equal to the one before
it is written as `*`, once for a run, unless `-v` is given.  After the last line comes the
offset where the input ended.

`-j` skips octets first and `-N` limits how many are shown; `-w` sets the octets per line,
which must be a multiple of every item's size.  `-S` writes instead the runs of at least so
many printable octets that end with a zero octet.  The operands are read one after another
as one input; one that cannot be read is reported and skipped, and the status is then 1.

Main definition: `od`.
-/

namespace Conch.Programs

namespace Dump

/-- How one item of a line is written. -/
inductive Shape where
  /-- The name of a seven-bit character (`nul`, `sp`, `del`) or the character. -/
  | named
  /-- The character, a backslash escape, or three octal digits. -/
  | char
  /-- A signed decimal integer. -/
  | signed
  /-- An unsigned decimal integer. -/
  | unsigned
  /-- An octal integer with leading zeros. -/
  | octal
  /-- A hexadecimal integer with leading zeros. -/
  | hex
  /-- A binary floating-point number. -/
  | float
  deriving DecidableEq, Repr

/-- One way of showing the octets: the shape, the size of an item in octets, the width of its
widest value, and whether the printable octets follow between `>` and `<`. -/
structure Column where
  shape : Shape
  size : Nat
  width : Nat
  trailer : Bool := false
  deriving Repr

/-- The width of the widest value of an integer shape and size. -/
def integerWidth (shape : Shape) (size : Nat) : Nat :=
  match shape, size with
  | .octal, 1 => 3
  | .octal, 2 => 6
  | .octal, 4 => 11
  | .octal, _ => 22
  | .signed, 1 => 4
  | .signed, 2 => 6
  | .signed, 4 => 11
  | .signed, _ => 20
  | .unsigned, 1 => 3
  | .unsigned, 2 => 5
  | .unsigned, 4 => 10
  | .unsigned, _ => 20
  | .hex, n => 2 * n
  | _, _ => 3

/-- The width of the widest value of a floating-point size. -/
def floatWidth (size : Nat) : Nat :=
  match size with
  | 4 => 15
  | 8 => 24
  | _ => 29

/-- The decimal digits at the front of a list, read as a number, and what follows them. -/
def leadingNumber (cs : List Char) : Option Nat × List Char :=
  let ds := cs.takeWhile Char.isDigit
  if ds.isEmpty then (none, cs)
  else (some (ds.foldl (fun (n : Nat) (d : Char) => n * 10 + (d.toNat - 48)) 0), cs.drop ds.length)

/-- Reads the size after an integer letter: a letter `C`, `S`, `I` or `L`, or a number of
octets that an integer type has. -/
def integerSize (whole : String) (cs : List Char) : Except String (Nat × List Char) :=
  match cs with
  | 'C' :: rest => .ok (1, rest)
  | 'S' :: rest => .ok (2, rest)
  | 'I' :: rest => .ok (4, rest)
  | 'L' :: rest => .ok (8, rest)
  | _ =>
      match leadingNumber cs with
      | (none, rest) => .ok (4, rest)
      | (some n, rest) =>
          if [1, 2, 4, 8].contains n then .ok (n, rest)
          else .error ("invalid type string " ++ Quoted.value whole ++
            ";\nthis system doesn't provide a " ++ toString n ++ "-byte integral type")

/-- Reads the size after `f`: a letter `F`, `D` or `L`, or a number of octets that a
floating-point type has. -/
def floatSize (whole : String) (cs : List Char) : Except String (Nat × List Char) :=
  match cs with
  | 'F' :: rest => .ok (4, rest)
  | 'D' :: rest => .ok (8, rest)
  | 'L' :: rest => .ok (16, rest)
  | _ =>
      match leadingNumber cs with
      | (none, rest) => .ok (8, rest)
      | (some n, rest) =>
          if [4, 8, 16].contains n then .ok (n, rest)
          else .error ("invalid type string " ++ Quoted.value whole ++
            ";\nthis system doesn't provide a " ++ toString n ++ "-byte floating point type")

/-- Reads a type string: the ways it asks for.  `fuel` bounds the ways read. -/
def readTypes (whole : String) : Nat → List Char → Except String (List Column)
  | 0, _ => .ok []
  | _, [] => .ok []
  | fuel + 1, c :: rest =>
      let column : Except String (Column × List Char) :=
        match c with
        | 'a' => .ok ({ shape := .named, size := 1, width := 3 }, rest)
        | 'c' => .ok ({ shape := .char, size := 1, width := 3 }, rest)
        | 'd' | 'o' | 'u' | 'x' =>
            let shape := match c with
              | 'd' => Shape.signed
              | 'o' => .octal
              | 'u' => .unsigned
              | _ => .hex
            (integerSize whole rest).map fun (size, after) =>
              ({ shape, size, width := integerWidth shape size }, after)
        | 'f' =>
            (floatSize whole rest).map fun (size, after) =>
              ({ shape := .float, size, width := floatWidth size }, after)
        | _ => .error ("invalid character '" ++ String.singleton c ++ "' in type string " ++
            Quoted.value whole)
      match column with
      | .error e => .error e
      | .ok (col, after) =>
          let (col, after) := match after with
            | 'z' :: more => ({ col with trailer := true }, more)
            | _ => (col, after)
          (readTypes whole fuel after).map (col :: ·)

/-- The name of a seven-bit character below the space, or the space. -/
def controlName (n : Nat) : String :=
  (["nul", "soh", "stx", "etx", "eot", "enq", "ack", "bel", "bs", "ht", "nl", "vt", "ff", "cr",
    "so", "si", "dle", "dc1", "dc2", "dc3", "dc4", "nak", "syn", "etb", "can", "em", "sub",
    "esc", "fs", "gs", "rs", "us", "sp"].getD n "")

/-- The digits of `n` in a base, lowercase, padded with zeros to `width`. -/
def digitsPadded (base width n : Nat) : String :=
  let ds := Nat.toDigits base n
  String.ofList (List.replicate (width - ds.length) '0' ++ ds)

/-- The value of octets as an unsigned integer, the first octet lowest unless `big`. -/
def unsignedOf (big : Bool) (bs : List Nat) : Nat :=
  (if big then bs else bs.reverse).foldl (fun (acc : Nat) (b : Nat) => acc * 256 + b) 0

/-- Whether the decimal `q × 10 ^ k` reads back, rounded to nearest with ties to even, as the
binary number `sig × 2 ^ exp`, whose lower neighbour is half as far as its upper one when
`boundary` (the significand is the smallest of its exponent). -/
def readsBack (sig : Nat) (exp : Int) (boundary : Bool) (q : Nat) (k : Int) : Bool :=
  let a := (2 - exp).toNat
  let b := (-k).toNat
  let value := sig * Nat.pow 2 (exp + a).toNat * Nat.pow 10 b
  let candidate := q * Nat.pow 10 (k + b).toNat * Nat.pow 2 a
  let halfAbove := Nat.pow 2 (exp - 1 + a).toNat * Nat.pow 10 b
  let halfBelow := if boundary then Nat.pow 2 (exp - 2 + a).toNat * Nat.pow 10 b else halfAbove
  if candidate ≥ value then
    candidate - value < halfAbove || (candidate - value == halfAbove && sig % 2 == 0)
  else value - candidate < halfBelow || (value - candidate == halfBelow && sig % 2 == 0)

/-- The shortest `%g` text of `sig × 2 ^ exp` with between `least` and `most` significant
digits that reads back as the same number; `fuel` bounds the tries. -/
def shortestText (sig : Nat) (exp : Int) (boundary : Bool) (most : Nat) : Nat → Nat → String
  | 0, p => Text.shortestDigits { significand := sig, exponent := exp } p false false
  | fuel + 1, p =>
      let b : Text.Binary := { significand := sig, exponent := exp }
      let (q, x) := Text.exponentParts b (p - 1)
      if p ≥ most || readsBack sig exp boundary q (x - (p - 1)) then
        Text.shortestDigits b p false false
      else shortestText sig exp boundary most fuel (p + 1)

/-- The text of a binary floating-point number of `size` octets with the bits `bits`: the
shortest one that reads back as the same number, with at least as many digits as the format
always keeps. -/
def floatText (size bits : Nat) : String :=
  let (expBits, fracBits, explicit) := match size with
    | 4 => (8, 23, false)
    | 8 => (11, 52, false)
    | _ => (15, 64, true)
  let (least, most) := match size with
    | 4 => (6, 9)
    | 8 => (15, 17)
    | _ => (18, 21)
  let negative := (bits >>> (expBits + fracBits)) % 2 == 1
  let e := (bits >>> fracBits) % Nat.pow 2 expBits
  let f := bits % Nat.pow 2 fracBits
  let bias := Nat.pow 2 (expBits - 1) - 1
  let sign := if negative then "-" else ""
  let fraction := if explicit then f % Nat.pow 2 63 else f
  if e == Nat.pow 2 expBits - 1 then
    if fraction == 0 then sign ++ "inf" else sign ++ "nan"
  else
    let mant := if explicit then 63 else fracBits
    let (sig, exp) : Nat × Int :=
      if e == 0 then (f, (1 : Int) - bias - mant)
      else if explicit then (f, (e : Int) - bias - mant)
      else (Nat.pow 2 fracBits + f, (e : Int) - bias - mant)
    let boundary := sig == Nat.pow 2 mant && e > 1
    let start := if e == 0 then 1 else least
    sign ++ shortestText sig exp boundary most (most + 1) start

/-- The text of one item. -/
def itemText (col : Column) (big : Bool) (bs : List Nat) : String :=
  let b := bs.headD 0
  match col.shape with
  | .named =>
      let m := b % 128
      if m == 127 then "del" else if m ≤ 32 then controlName m else String.singleton (Char.ofNat m)
  | .char =>
      match b with
      | 0 => "\\0"
      | 7 => "\\a"
      | 8 => "\\b"
      | 12 => "\\f"
      | 10 => "\\n"
      | 13 => "\\r"
      | 9 => "\\t"
      | 11 => "\\v"
      | _ => if 32 ≤ b && b < 127 then String.singleton (Char.ofNat b) else digitsPadded 8 3 b
  | .octal => digitsPadded 8 col.width (unsignedOf big bs)
  | .hex => digitsPadded 16 col.width (unsignedOf big bs)
  | .unsigned => toString (unsignedOf big bs)
  | .signed =>
      let v := unsignedOf big bs
      let half := Nat.pow 2 (8 * col.size - 1)
      if v ≥ half then "-" ++ toString (2 * half - v) else toString v
  | .float => floatText col.size (unsignedOf big bs)

/-- The items of one line in one way, from the item `index` on: `fields` items make a whole
line, of which the first `shown` are written, and the extra width `pad` is shared out so that
`remaining` of it is left for the items from `index` on. -/
def fieldsText (col : Column) (big : Bool) (fields pad : Nat) (block : List Nat) :
    Nat → Nat → Nat → String
  | 0, _, _ => ""
  | shown + 1, index, remaining =>
      let next := pad * (fields - index - 1) / fields
      let width := remaining - next + col.width
      let item := itemText col big ((block.drop (index * col.size)).take col.size)
      padLeft width item ++ fieldsText col big fields pad block shown (index + 1) next

/-- How `od` lays out its lines. -/
structure Layout where
  /-- The ways of showing octets. -/
  columns : List Column
  /-- The octets of a whole line. -/
  perLine : Nat
  /-- The radix of offsets, none when they are not written. -/
  radix : Option Nat := some 8
  /-- Whether items of several octets are read with the first octet highest. -/
  big : Bool := false

/-- The width of offsets. -/
def Layout.offsetWidth (l : Layout) : Nat :=
  match l.radix with
  | some 16 => 6
  | some _ => 7
  | none => 0

/-- An offset as it starts a line. -/
def Layout.offset (l : Layout) (n : Nat) : String :=
  match l.radix with
  | some r => digitsPadded r l.offsetWidth n
  | none => ""

/-- The width every way's line is laid out in. -/
def Layout.lineWidth (l : Layout) : Nat :=
  (l.columns.map fun c => (c.width + 1) * (l.perLine / c.size)).foldl max 0

/-- The lines showing one block of `n` octets (completed with zeros) at an offset. -/
def Layout.block (l : Layout) (offset : Nat) (block : List Nat) (n : Nat) : String :=
  let total := l.lineWidth
  String.join (l.columns.zipIdx.map fun (col, i) =>
    let fields := l.perLine / col.size
    let blank := (l.perLine - n) / col.size
    let pad := total - col.width * fields
    let lead := if i == 0 then l.offset offset else String.ofList (List.replicate l.offsetWidth ' ')
    let trailer := if col.trailer then
        String.ofList (List.replicate (blank * col.width + pad * blank / fields) ' ') ++ "  >" ++
          String.ofList ((block.take n).map fun b =>
            if 32 ≤ b && b < 127 then Char.ofNat b else '.') ++ "<"
      else ""
    lead ++ fieldsText col l.big fields pad block (fields - blank) 0 pad ++ trailer ++ "\n")

/-- The lines for the octets from `offset` on, each block `l.perLine` long; `previous` is the
block before, when it was whole, and `starred` whether a `*` stands for it. -/
def Layout.lines (l : Layout) (all : Bool) : Nat → Nat → List Nat → Option (List Nat) → Bool → String
  | 0, offset, _, _, _ => l.offset offset ++ (if l.radix.isSome then "\n" else "")
  | fuel + 1, offset, data, previous, starred =>
      if data.isEmpty then l.offset offset ++ (if l.radix.isSome then "\n" else "")
      else
        let block := data.take l.perLine
        let n := block.length
        if n == l.perLine then
          if !all && previous == some block then
            (if starred then "" else "*\n") ++
              l.lines all fuel (offset + n) (data.drop n) (some block) true
          else
            l.block offset block n ++ l.lines all fuel (offset + n) (data.drop n) (some block) false
        else
          let unit := (l.columns.map (·.size)).foldl Nat.lcm 1
          let whole := unit * ((n + unit - 1) / unit)
          let padded := block ++ List.replicate (whole - n) 0
          l.block offset padded n ++ l.offset (offset + n) ++ (if l.radix.isSome then "\n" else "")

/-- The strings `od -S` finds: runs of at least `least` printable octets ending with a zero
octet, each with its offset, from the octet `offset` on.  `run` is the run being read. -/
def Layout.strings (l : Layout) (least : Nat) : List Nat → Nat → List Nat → String
  | [], _, _ => ""
  | b :: rest, offset, run =>
      if b == 0 && run.length ≥ least then
        (if l.radix.isSome then l.offset (offset - run.length) ++ " " else "") ++
          String.ofList (run.map Char.ofNat) ++ "\n" ++ l.strings least rest (offset + 1) []
      else if 32 ≤ b && b < 127 then l.strings least rest (offset + 1) (run ++ [b])
      else l.strings least rest (offset + 1) []

end Dump

open Dump in
/-- The options of `od`. -/
def odSpec : OptionSpec :=
  { shorts := [('A', .required), ('a', .none), ('B', .none), ('b', .none), ('c', .none),
               ('D', .none), ('d', .none), ('e', .none), ('F', .none), ('f', .none),
               ('H', .none), ('h', .none), ('I', .none), ('i', .none), ('j', .required),
               ('L', .none), ('l', .none), ('N', .required), ('O', .none), ('o', .none),
               ('S', .required), ('s', .none), ('t', .required), ('v', .none),
               ('w', .optional), ('X', .none), ('x', .none)],
    longs := [⟨"address-radix", 'A', .required⟩, ⟨"skip-bytes", 'j', .required⟩,
              ⟨"read-bytes", 'N', .required⟩, ⟨"format", 't', .required⟩,
              ⟨"output-duplicates", 'v', .none⟩, ⟨"strings", 'S', .optional⟩,
              ⟨"width", 'w', .optional⟩, ⟨"endian", 'E', .required⟩,
              ⟨"traditional", 'T', .none⟩] }

/-- The type string a letter of the old options stands for. -/
def odLetterTypes (c : Char) : Option String :=
  match c with
  | 'a' => some "a"
  | 'B' | 'o' => some "o2"
  | 'b' => some "o1"
  | 'c' => some "c"
  | 'D' => some "u4"
  | 'd' => some "u2"
  | 'F' | 'e' => some "fD"
  | 'f' => some "fF"
  | 'X' | 'H' => some "x4"
  | 'x' | 'h' => some "x2"
  | 'I' | 'L' | 'l' => some "dL"
  | 'i' => some "dI"
  | 'O' => some "o4"
  | 's' => some "d2"
  | 't' => none
  | _ => none

/-- The long name of an option of `od` that takes a count, for its messages. -/
def odOptionName (written : Bool) (c : Char) : String :=
  if written then
    match c with
    | 'j' => "--skip-bytes"
    | 'N' => "--read-bytes"
    | 'S' => "--strings"
    | _ => "--width"
  else "-" ++ String.singleton c

/-- Reads a count given to an option of `od`, in any base, with a size suffix. -/
def odCount (prog : String) (option : String) (v : String) : Except String Nat :=
  let cs := v.toList
  let (base, digits) := match cs with
    | '0' :: 'x' :: rest | '0' :: 'X' :: rest => (16, rest)
    | '0' :: rest => if rest.isEmpty then (10, cs) else (8, rest)
    | _ => (10, cs)
  let isDigit := fun (c : Char) => match Text.hexDigitValue c with
    | some d => decide (d < base)
    | none => false
  let ds := digits.takeWhile isDigit
  let rest := digits.drop ds.length
  let n := ds.foldl (fun (acc : Nat) (c : Char) => acc * base + (Text.hexDigitValue c).getD 0) 0
  let invalid := prog ++ ": invalid " ++ option ++ " argument '" ++ v ++ "'\n"
  if ds.isEmpty && !(base == 8) then
    match Text.readSize "bEGKkMmPTYZ".toList true v with
    | .ok n => .ok n
    | .error _ => .error invalid
  else
    match Text.suffixValue "bEGKkMmPTYZ".toList true rest with
    | none => .error (prog ++ ": invalid suffix in " ++ option ++ " argument '" ++ v ++ "'\n")
    | some (m, after) =>
        if !after.isEmpty then .error (prog ++ ": invalid suffix in " ++ option ++ " argument '" ++ v ++ "'\n")
        else if n * m > Text.sizeLimit then .error (prog ++ ": " ++ option ++ " argument '" ++ v ++ "' too large\n")
        else .ok (n * m)

open Dump in
/-- `od`: writes its input's octets in columns. -/
def od : Batch := fun fs call =>
  let prog := call.name
  match odSpec.read call.args with
  | .error e => failed fs (e.message prog) 1
  | .ok (opts, ops) =>
      let written := fun (c : Char) => call.args.any fun a =>
        a.startsWith "--" && (odOptionName true c).startsWith ((a.splitOn "=").headD "")
      let countOf : Char → Except String (Option Nat) := fun c =>
        match optValue opts c with
        | some v => (odCount prog (odOptionName (written c) c) v).map some
        | none => .ok none
      let types : Except String (List Column) := opts.foldl (fun acc o =>
        match acc with
        | .error e => .error e
        | .ok cols =>
            let text := if o.letter == 't' then o.value else odLetterTypes o.letter
            match text with
            | some t => (readTypes t (t.length + 1) t.toList).map (cols ++ ·)
            | none => .ok cols) (.ok [])
      let radix : Except String (Option Nat) := match optValue opts 'A' with
        | none => .ok (some 8)
        | some v =>
            match v.toList.headD ' ' with
            | 'd' => .ok (some 10)
            | 'o' => .ok (some 8)
            | 'x' => .ok (some 16)
            | 'n' => .ok none
            | c => .error (prog ++ ": invalid output address radix '" ++ String.singleton c ++
                "'; it must be one character from [doxn]\n")
      match radix, types, countOf 'j', countOf 'N' with
      | .error m, _, _, _ => failed fs m 1
      | _, .error m, _, _ => failed fs (prog ++ ": " ++ m ++ "\n") 1
      | _, _, .error m, _ => failed fs m 1
      | _, _, _, .error m => failed fs m 1
      | .ok radix, .ok cols, .ok skip, .ok limit =>
          let strings := hasOpt opts 'S'
          if strings && !cols.isEmpty then
            failed fs (prog ++ ": no type may be specified when dumping strings\n") 1
          else
          let cols := if cols.isEmpty then [{ shape := .octal, size := 2, width := 6 }] else cols
          let ops := orInput ops
          let complain := fun (op : String) (e : Errno) =>
            if e == .isDirectory then prog ++ ": " ++ Quoted.name true op ++ ": read error: " ++ e.describe ++ "\n"
            else plainComplaint prog op e
          let (texts, err, ok) := readAll fs call complain ops
          let data := (String.join (texts.map Prod.snd)).toList.map Char.toNat
          let skip := skip.getD 0
          if skip > data.length then
            { err := err ++ prog ++ ": cannot skip past end of combined input\n", ending := .exited 1, fs,
              readInput := ops.contains "-" }
          else
          let data := data.drop skip
          let data := match limit with
            | some n => data.take n
            | none => data
          let unit := (cols.map (·.size)).foldl Nat.lcm 1
          let (perLine, warning) : Nat × String := match optValue opts 'w', hasOpt opts 'w' with
            | _, false => (if unit < 16 then unit * (16 / unit) else unit, "")
            | none, true => if 32 % unit == 0 then (32, "") else
                (unit, prog ++ ": warning: invalid width 32; using " ++ toString unit ++ " instead\n")
            | some v, true =>
                match Text.readSize [] false v with
                | .ok w =>
                    if w != 0 && w % unit == 0 then (w, "")
                    else (unit, prog ++ ": warning: invalid width " ++ toString w ++ "; using " ++
                      toString unit ++ " instead\n")
                | .error _ => (unit, "")
          let widthError := match optValue opts 'w' with
            | some v => match Text.readSize [] false v with
              | .ok _ => none
              | .error _ => some (prog ++ ": invalid " ++ odOptionName (written 'w') 'w' ++ " argument '" ++ v ++ "'\n")
            | none => none
          match widthError with
          | some m => failed fs m 1
          | none =>
          let big := optValue opts 'E' == some "big"
          let layout : Layout := { columns := cols, perLine, radix, big }
          let out := if strings then
              let least := match optValue opts 'S' with
                | some v => (Text.readSize [] false v).toOption.getD 3
                | none => 3
              layout.strings least data skip []
            else layout.lines (hasOpt opts 'v') (data.length + 1) skip data none false
          { out, err := err ++ warning, ending := .exited (if ok then 0 else 1), fs,
            readInput := ops.contains "-" }

end Conch.Programs
