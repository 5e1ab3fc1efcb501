import Conch.Programs.Getopt
import Conch.Text.Quoted
import Conch.Text.Floating
import Conch.Text.Utf8

/-!
# Writing formatted text

`echo` writes its arguments; with `-e` it reads backslash escapes in them.  `printf` writes its
format, reading backslash escapes and replacing each directive (`%s`, `%d`, `%c`, `%x`, `%o`,
`%b`, ... with flags, width and precision) by the next argument; while arguments remain and
the format took some, the format is used again.  `seq` writes a run of numbers.

Main definitions: `echo`, `printf`, `seq` and `escapes`.
-/

namespace Conch.Programs

/-- Reads up to `n` digits of base `base` from the front of `cs`: the value, how many digits
were read, and the rest. -/
def takeDigits (base : Nat) : Nat → List Char → Nat × Nat × List Char
  | 0, cs => (0, 0, cs)
  | _, [] => (0, 0, [])
  | k + 1, c :: rest =>
      match Text.hexDigitValue c with
      | some v =>
          if v < base then
            let (w, m, after) := takeDigits base k rest
            (v * base ^ m + w, m + 1, after)
          else (0, 0, c :: rest)
      | none => (0, 0, c :: rest)

/-- The octets of an octet string. -/
def octetsOf (s : String) : List UInt8 := Octets.bytes s

/-- What one backslash escape stands for. -/
inductive Escaped where
  /-- These octets. -/
  | octets (bs : List UInt8)
  /-- Nothing, and no output after it (`\c`). -/
  | stop
  /-- Nothing: the escape is malformed, and the program fails with this message. -/
  | refused (message : String)
  deriving Repr

/-- The digits of a number in hexadecimal, at least `width` of them. -/
def hexDigits (upper : Bool) (width n : Nat) : String :=
  let ds := Nat.toDigits 16 n
  let ds := if upper then ds.map Char.toUpper else ds
  String.ofList (List.replicate (width - ds.length) '0' ++ ds)

/-- A universal character name `\uHHHH` or `\UHHHHHHHH`: characters of the basic set as
themselves, other characters in the escaped form, since the locale cannot encode them. -/
def universal (letter : Char) (rest : List Char) : Escaped × List Char :=
  let width := if letter == 'u' then 4 else 8
  let ds := rest.take width
  if ds.length < width || !ds.all (fun c => (Text.hexDigitValue c).isSome) then
    (.refused "missing hexadecimal number in escape", rest)
  else
    let v := ds.foldl (fun (n : Nat) (c : Char) => n * 16 + (Text.hexDigitValue c).getD 0) 0
    let after := rest.drop width
    let named := "\\" ++ String.ofList [letter]
    if (v ≤ 0x9f && v != 0x24 && v != 0x40 && v != 0x60) || (0xd800 ≤ v && v ≤ 0xdfff) then
      (.refused ("invalid universal character name " ++ named ++ hexDigits false width v), after)
    else if v < 0x80 then (.octets [v.toUInt8], after)
    else (.octets (octetsOf (named ++ hexDigits true width v)), after)

/-- Which backslash escapes a program reads. -/
structure EscapeRules where
  /-- An octal escape may start with a `0` that does not count (`\0NNN`). -/
  zeroPrefix : Bool
  /-- `\NNN` with a first digit from 1 to 7 is an octal escape. -/
  plainOctal : Bool
  /-- `\xHH` is a hexadecimal escape. -/
  hex : Bool
  /-- `\e` stands for the escape character. -/
  escapeLetter : Bool
  /-- `\"` stands for a double quote. -/
  quote : Bool
  /-- `\uHHHH` and `\UHHHHHHHH` are escapes. -/
  unicode : Bool
  /-- A malformed escape is an error rather than plain text. -/
  strict : Bool
  deriving Repr

/-- The escapes of a `printf` format. -/
def EscapeRules.format : EscapeRules :=
  { zeroPrefix := false, plainOctal := true, hex := true, escapeLetter := true, quote := true,
    unicode := true, strict := true }

/-- The escapes of a `printf` argument to `%b`. -/
def EscapeRules.argument : EscapeRules :=
  { EscapeRules.format with zeroPrefix := true }

/-- The escapes of `echo -e`. -/
def EscapeRules.echo : EscapeRules :=
  { zeroPrefix := true, plainOctal := false, hex := true, escapeLetter := true, quote := false,
    unicode := false, strict := false }

/-- The escapes of the system shell's `echo`. -/
def EscapeRules.shellEcho : EscapeRules :=
  { zeroPrefix := true, plainOctal := true, hex := false, escapeLetter := false, quote := false,
    unicode := false, strict := false }

/-- Reads one backslash escape after the backslash: what it stands for, and the rest. -/
def escapeAt (rules : EscapeRules) (c : Char) (rest : List Char) : Escaped × List Char :=
  let byte := fun (n : Nat) => Escaped.octets [(n % 256).toUInt8]
  let plain := (Escaped.octets (octetsOf ("\\" ++ String.ofList [c])), rest)
  match c with
  | 'n' => (byte 10, rest)
  | 't' => (byte 9, rest)
  | 'r' => (byte 13, rest)
  | 'a' => (byte 7, rest)
  | 'b' => (byte 8, rest)
  | 'f' => (byte 12, rest)
  | 'v' => (byte 11, rest)
  | '\\' => (byte 92, rest)
  | 'c' => (.stop, rest)
  | 'e' => if rules.escapeLetter then (byte 27, rest) else plain
  | '"' => if rules.quote then (byte 34, rest) else plain
  | 'x' =>
      if !rules.hex then plain
      else
        let (v, m, after) := takeDigits 16 2 rest
        if m == 0 then
          (if rules.strict then .refused "missing hexadecimal number in escape" else .octets (octetsOf "\\x"), rest)
        else (byte v, after)
  | 'u' | 'U' => if rules.unicode then universal c rest else plain
  | d =>
      if d == '0' && rules.zeroPrefix then
        let (v, _, after) := takeDigits 8 3 rest
        (byte v, after)
      else if '0' ≤ d && d ≤ '7' && (rules.plainOctal || !rules.zeroPrefix) then
        let (v, _, after) := takeDigits 8 3 (d :: rest)
        (byte v, after)
      else plain

/-- What reading the escapes of a text gave: its octets, whether `\c` stopped the output,
and the message of a malformed escape. -/
structure Unescaped where
  octets : List UInt8 := []
  stopped : Bool := false
  refusal : Option String := none
  deriving Repr

/-- Reads the backslash escapes of a text.  `fuel` bounds the characters read. -/
def escapesFrom (rules : EscapeRules) : Nat → List Char → Unescaped
  | 0, _ => {}
  | _, [] => {}
  | fuel + 1, c :: rest =>
      if c == '\\' then
        match rest with
        | [] => { octets := [92] }
        | d :: more =>
            match escapeAt rules d more with
            | (.stop, _) => { stopped := true }
            | (.refused m, _) => { refusal := some m }
            | (.octets bs, after) =>
                let u := escapesFrom rules fuel after
                { u with octets := bs ++ u.octets }
      else
        let u := escapesFrom rules fuel rest
        { u with octets := octetsOf (String.ofList [c]) ++ u.octets }

/-- Reads the backslash escapes of a text, as `echo` does: the text, and whether `\c` stopped
all further output. -/
def escapes (rules : EscapeRules) (s : String) : String × Bool :=
  let u := escapesFrom rules (s.length + 1) s.toList
  (Octets.ofBytes u.octets, u.stopped)

/-! ## echo -/

/-- Whether an argument is a bundle of `echo` options. -/
def isEchoOptions (a : String) : Bool :=
  match a.toList with
  | '-' :: rest => !rest.isEmpty && rest.all (fun c => c == 'n' || c == 'e' || c == 'E')
  | _ => false

/-- `echo`: writes its arguments. -/
def echo : Batch := fun fs call =>
  let opts := call.args.takeWhile isEchoOptions
  let words := call.args.drop opts.length
  let letters := opts.flatMap (fun o => (o.drop 1).copy.toList)
  let newline := !letters.contains 'n'
  let interpret := letters.foldl (fun on c => if c == 'e' then true else if c == 'E' then false else on) false
  let body := " ".intercalate words
  if interpret then
    let (text, stop) := escapes .echo body
    { out := text ++ (if newline && !stop then "\n" else ""), fs }
  else { out := body ++ (if newline then "\n" else ""), fs }

/-! ## printf -/

/-- Where the width or precision of a directive comes from. -/
inductive Setting where
  /-- It is not given. -/
  | absent
  /-- It is written in the directive. -/
  | written (n : Nat)
  /-- It is written `*` and taken from the next argument. -/
  | fromArgument
  deriving Repr, DecidableEq

/-- A directive as written in a format: its flags, width, precision (absent when no point is
written), conversion letter (none when the format ends first), and its text from the `%`
through the letter. -/
structure Spec where
  flags : List Char
  width : Setting
  precision : Setting
  letter : Option Char
  text : String
  deriving Repr

/-- A directive ready to format an argument: its flags, width, precision and letter. -/
structure Directive where
  flags : List Char := []
  width : Option Nat := none
  precision : Option Nat := none
  conv : Char := 's'
  deriving Repr

/-- Reads a directive after its `%`: flags, a width, a point and a precision, length letters
(which change nothing) and the conversion letter; and the rest of the format. -/
def readSpec (input : List Char) : Spec × List Char :=
  let flags := input.takeWhile (fun c => "'-+ #0I".toList.contains c)
  let cs := input.drop flags.length
  let (width, cs) : Setting × List Char := match cs with
    | '*' :: r => (.fromArgument, r)
    | _ =>
        let ds := cs.takeWhile Char.isDigit
        (if ds.isEmpty then .absent else .written (Text.decimalDigits ds), cs.drop ds.length)
  let (precision, cs) : Setting × List Char := match cs with
    | '.' :: '*' :: r => (.fromArgument, r)
    | '.' :: r =>
        let ds := r.takeWhile Char.isDigit
        (.written (Text.decimalDigits ds), r.drop ds.length)
    | _ => (.absent, cs)
  let cs := cs.dropWhile (fun c => "lLhjtz".toList.contains c)
  match cs with
  | c :: rest =>
      ({ flags, width, precision, letter := some c,
         text := "%" ++ String.ofList (input.take (input.length - rest.length)) }, rest)
  | [] => ({ flags, width, precision, letter := none, text := "%" ++ String.ofList input }, [])

/-- Whether a conversion takes a flag: grouping (`'`, `I`) only the decimal ones, `#` neither
`c`, `d`, `i`, `s` nor `u`, and `0` neither `c` nor `s`. -/
def flagAllowed (conv flag : Char) : Bool :=
  if flag == '\'' || flag == 'I' then !"aAceEosxX".toList.contains conv
  else if flag == '#' then !"cdisu".toList.contains conv
  else if flag == '0' then !"cs".toList.contains conv
  else true

/-- Whether a directive is one `printf` formats: a known letter, flags it takes, and no
precision for `c`. -/
def Spec.valid (s : Spec) : Bool :=
  match s.letter with
  | some c =>
      "aAcdeEfFgGiosuxX".toList.contains c && s.flags.all (flagAllowed c) &&
        !(c == 'c' && s.precision != .absent)
  | none => false

/-- An argument read as a number: its value, a message that makes the program fail (the
argument is out of range or not all of it a number), and a warning that does not. -/
structure Converted (α : Type) where
  value : α
  error : Option String := none
  warning : Option String := none

/-- The digits of a base at the front of a text: their value and the rest. -/
def digitRun (base : Nat) (cs : List Char) : Nat × List Char :=
  let ds := cs.takeWhile (fun c => match Text.hexDigitValue c with
    | some v => v < base
    | none => false)
  (ds.foldl (fun (n : Nat) (c : Char) => n * base + (Text.hexDigitValue c).getD 0) 0, cs.drop ds.length)

/-- The integer at the front of a text, after blanks and a sign: in base 16 after `0x` and a
hexadecimal digit, in base 8 after another leading `0`, else in base 10.  Its sign, its
magnitude and the rest; nothing when no digit starts it. -/
def integerPrefix (s : List Char) : Option (Bool × Nat × List Char) :=
  let cs := s.dropWhile Text.isSpaceByte
  let (negative, body) := match cs with
    | '-' :: r => (true, r)
    | '+' :: r => (false, r)
    | r => (false, r)
  let hex := match body with
    | '0' :: x :: d :: _ => (x == 'x' || x == 'X') && (Text.hexDigitValue d).isSome
    | _ => false
  match body with
  | c :: _ =>
      if hex then
        let (v, rest) := digitRun 16 (body.drop 2)
        some (negative, v, rest)
      else if c.isDigit then
        let (v, rest) := digitRun (if c == '0' then 8 else 10) body
        some (negative, v, rest)
      else none
  | [] => none

/-- The value of an argument that starts with a quote: the code of the octet after it, with
a warning when more follows; nothing for other arguments. -/
def characterConstant (arg : String) : Option (Nat × Option String) :=
  match arg.toList with
  | q :: c :: rest =>
      if q == '\'' || q == '"' then
        some (c.toNat, if rest.isEmpty then none
          else some ("warning: " ++ String.ofList rest ++
            ": character(s) following character constant have been ignored"))
      else none
  | _ => none

/-- The complaint about an argument whose number ends before it does: none when nothing is
left, else that it held no number at all or not only a number. -/
def leftOver (arg : String) (rest : List Char) (any : Bool) : Option String :=
  if rest.isEmpty then none
  else if !any then some (Quoted.value arg ++ ": expected a numeric value")
  else some (Quoted.value arg ++ ": value not completely converted")

/-- The complaint about an argument out of range. -/
def outOfRange (arg : String) : String := Quoted.value arg ++ ": Numerical result out of range"

/-- The largest signed 64-bit integer. -/
def maxSigned : Int := Int.pow 2 63 - 1

/-- The largest unsigned 64-bit integer. -/
def maxUnsigned : Nat := Nat.pow 2 64 - 1

/-- An argument read as a signed 64-bit integer; values beyond the range are clamped to it. -/
def readSigned (arg : String) : Converted Int :=
  match characterConstant arg with
  | some (v, warning) => { value := v, warning }
  | none =>
      match integerPrefix arg.toList with
      | none => { value := 0, error := leftOver arg arg.toList false }
      | some (negative, m, rest) =>
          let v : Int := if negative then -(m : Int) else m
          if v > maxSigned then { value := maxSigned, error := some (outOfRange arg) }
          else if v < -maxSigned - 1 then { value := -maxSigned - 1, error := some (outOfRange arg) }
          else { value := v, error := leftOver arg rest true }

/-- An argument read as an unsigned 64-bit integer: a negative value counts down from `2 ^ 64`,
and a magnitude beyond the range gives the largest value. -/
def readUnsigned (arg : String) : Converted Nat :=
  match characterConstant arg with
  | some (v, warning) => { value := v, warning }
  | none =>
      match integerPrefix arg.toList with
      | none => { value := 0, error := leftOver arg arg.toList false }
      | some (negative, m, rest) =>
          if m > maxUnsigned then { value := maxUnsigned, error := some (outOfRange arg) }
          else { value := if negative then (Nat.pow 2 64 - m) % Nat.pow 2 64 else m, error := leftOver arg rest true }

/-- An argument read as a floating-point number. -/
def readFloating (arg : String) : Converted Text.Number :=
  match characterConstant arg with
  | some (v, warning) => { value := .finite { significand := v, exponent := 0 }, warning }
  | none =>
      match Text.readNumber arg.toList with
      | none => { value := Text.zeroOf false, error := leftOver arg arg.toList false }
      | some r =>
          if r.outOfRange then { value := r.number, error := some (outOfRange arg) }
          else { value := r.number, error := leftOver arg r.rest true }

/-- Pads a text to a width, on the left or (with `-`) on the right. -/
def padTo (flags : List Char) (width : Option Nat) (s : String) : String :=
  match width with
  | some w =>
      let fill := String.ofList (List.replicate (w - s.length) ' ')
      if flags.contains '-' then s ++ fill else fill ++ s
  | none => s

/-- The digits of a natural number in a base, lower-case or upper-case. -/
def digitsIn (base : Nat) (upper : Bool) (n : Nat) : String :=
  let ds := Nat.toDigits base n
  String.ofList (if upper then ds.map Char.toUpper else ds)

/-- An integer written by a directive (`d`, `i`, `o`, `u`, `x`, `X`): its sign and magnitude.
A precision asks for that many digits at least, and none for a zero with precision 0; `#`
starts octal with a `0` and nonzero hexadecimal with `0x`; `0` pads with zeros when no
precision is given. -/
def formatInteger (d : Directive) (negative : Bool) (magnitude : Nat) : String :=
  let signed := d.conv == 'd' || d.conv == 'i'
  let base := if d.conv == 'o' then 8 else if d.conv == 'x' || d.conv == 'X' then 16 else 10
  let digits := digitsIn base (d.conv == 'X') magnitude
  let digits := match d.precision with
    | some 0 => if magnitude == 0 then "" else digits
    | some p => String.ofList (List.replicate (p - digits.length) '0') ++ digits
    | none => digits
  let lead := if d.flags.contains '#' then
      (if d.conv == 'o' && !digits.startsWith "0" then "0"
       else if d.conv == 'x' && magnitude != 0 then "0x"
       else if d.conv == 'X' && magnitude != 0 then "0X" else "")
    else ""
  let sign := if !signed then ""
    else if negative then "-"
    else if d.flags.contains '+' then "+"
    else if d.flags.contains ' ' then " " else ""
  let body := sign ++ lead ++ digits
  match d.width with
  | some w =>
      if d.flags.contains '0' && !d.flags.contains '-' && d.precision.isNone then
        sign ++ lead ++ String.ofList (List.replicate (w - body.length) '0') ++ digits
      else padTo d.flags d.width body
  | none => body

/-- A floating-point number written by a directive (`f`, `e`, `g`, `a`, upper-case too); `0`
pads finite numbers with zeros after the sign and the `0x` of the hexadecimal form. -/
def formatFloating (d : Directive) (n : Text.Number) : String :=
  let upper := d.conv.isUpper
  let point := d.flags.contains '#'
  let (lead, body) := match n with
    | .finite b =>
        if d.conv == 'a' || d.conv == 'A' then
          ((if upper then "0X" else "0x"), Text.hexForm b d.precision point upper)
        else ("", Text.formatUnsigned d.conv (d.precision.getD 6) point n)
    | other => ("", Text.nonFiniteText other upper)
  let sign := if n.negative then "-"
    else if d.flags.contains '+' then "+"
    else if d.flags.contains ' ' then " " else ""
  let finite := match n with
    | .finite _ => true
    | _ => false
  match d.width with
  | some w =>
      if d.flags.contains '0' && !d.flags.contains '-' && finite then
        sign ++ lead ++ String.ofList (List.replicate (w - (sign.length + lead.length + body.length)) '0') ++ body
      else padTo d.flags d.width (sign ++ lead ++ body)
  | none => sign ++ lead ++ body

/-- Pads octets to a width with spaces, on the left or (with `-`) on the right. -/
def padOctets (flags : List Char) (width : Option Nat) (bs : List UInt8) : List UInt8 :=
  match width with
  | some w =>
      let fill := List.replicate (w - bs.length) (32 : UInt8)
      if flags.contains '-' then bs ++ fill else fill ++ bs
  | none => bs

/-- Where one pass over a format stands. -/
structure Pass where
  /-- The program's name, which its messages start with. -/
  prog : String
  out : Octets := ""
  err : String := ""
  /-- The arguments not used yet. -/
  args : List String
  /-- How many arguments this pass used. -/
  used : Nat := 0
  /-- Whether an argument was not a number as asked. -/
  failed : Bool := false
  /-- The status the program ends with here, when something stops it. -/
  ending : Option Nat := none

/-- Takes the next argument, if one is left. -/
def Pass.take (p : Pass) : Option String × Pass :=
  match p.args with
  | a :: rest => (some a, { p with args := rest, used := p.used + 1 })
  | [] => (none, p)

/-- Writes octets. -/
def Pass.emit (p : Pass) (o : Octets) : Pass := { p with out := p.out ++ o }

/-- Reports what reading an argument gave; the pass goes on. -/
def Pass.note {α : Type} (p : Pass) (c : Converted α) : Pass :=
  let p := match c.warning with
    | some m => { p with err := p.err ++ p.prog ++ ": " ++ m ++ "\n" }
    | none => p
  match c.error with
  | some m => { p with err := p.err ++ p.prog ++ ": " ++ m ++ "\n", failed := true }
  | none => p

/-- Stops the program with a message and status 1. -/
def Pass.die (p : Pass) (message : String) : Pass :=
  { p with err := p.err ++ p.prog ++ ": " ++ message ++ "\n", ending := some 1 }

/-- Takes the width of a directive: a `*` takes the next argument, which must fit a C `int`
and pads on the right when negative, or 0 when none is left. -/
def Pass.width (p : Pass) (s : Spec) : Option Nat × List Char × Pass :=
  match s.width with
  | .absent => (none, s.flags, p)
  | .written n => (some n, s.flags, p)
  | .fromArgument =>
      match p.take with
      | (none, p) => (some 0, s.flags, p)
      | (some a, p) =>
          let c := readSigned a
          let p := p.note c
          if c.value < -2147483648 || c.value > 2147483647 then
            (none, s.flags, p.die ("invalid field width: " ++ Quoted.value a))
          else (some c.value.natAbs, (if c.value < 0 then s.flags ++ ['-'] else s.flags), p)

/-- Takes the precision of a directive: a `*` takes the next argument, where a negative one
counts as none given and one beyond a C `int` is refused, or 0 when none is left. -/
def Pass.precision (p : Pass) (s : Spec) : Option Nat × Pass :=
  match s.precision with
  | .absent => (none, p)
  | .written n => (some n, p)
  | .fromArgument =>
      match p.take with
      | (none, p) => (some 0, p)
      | (some a, p) =>
          let c := readSigned a
          let p := p.note c
          if c.value < 0 then (none, p)
          else if c.value > 2147483647 then (none, p.die ("invalid precision: " ++ Quoted.value a))
          else (some c.value.toNat, p)

/-- Applies one directive to the next argument, or to an empty one when none is left. -/
def Pass.apply (p : Pass) (s : Spec) : Pass :=
  let (width, flags, p) := p.width s
  if p.ending.isSome then p
  else
    let (precision, p) := p.precision s
    if p.ending.isSome then p
    else if !s.valid then p.die (s.text ++ ": invalid conversion specification")
    else
      let d : Directive := { flags, width, precision, conv := s.letter.getD 's' }
      let (a, p) := p.take
      let a := a.getD ""
      match d.conv with
      | 's' =>
          let bs := octetsOf a
          let bs := match d.precision with
            | some n => bs.take n
            | none => bs
          p.emit (Octets.ofBytes (padOctets d.flags d.width bs))
      | 'c' => p.emit (Octets.ofBytes (padOctets d.flags d.width [((octetsOf a).headD 0)]))
      | 'd' | 'i' =>
          let c := readSigned a
          (p.note c).emit (formatInteger d (c.value < 0) c.value.natAbs)
      | 'o' | 'u' | 'x' | 'X' =>
          let c := readUnsigned a
          (p.note c).emit (formatInteger d false c.value)
      | _ =>
          let c := readFloating a
          (p.note c).emit (formatFloating d c.value)

/-- One pass over a format: `\` escapes, `%%`, `%b` (the argument's escapes), `%q` (the
argument quoted for a shell) and directives.  `fuel` bounds the characters read. -/
def formatPass : Nat → List Char → Pass → Pass
  | 0, _, p => p
  | _, [], p => p
  | fuel + 1, c :: rest, p =>
      if c == '\\' then
        match rest with
        | [] => p.emit "\\"
        | d :: more =>
            match escapeAt .format d more with
            | (.stop, _) => { p with ending := some 0 }
            | (.refused m, _) => p.die m
            | (.octets bs, after) => formatPass fuel after (p.emit (Octets.ofBytes bs))
      else if c == '%' then
        match rest with
        | '%' :: more => formatPass fuel more (p.emit "%")
        | 'b' :: more =>
            match p.take with
            | (none, p) => formatPass fuel more p
            | (some a, p) =>
                let u := escapesFrom .argument (a.length + 1) a.toList
                let p := p.emit (Octets.ofBytes u.octets)
                match u.refusal with
                | some m => p.die m
                | none => if u.stopped then { p with ending := some 0 } else formatPass fuel more p
        | 'q' :: more =>
            match p.take with
            | (none, p) => formatPass fuel more p
            | (some a, p) => formatPass fuel more (p.emit (Quoted.name false a))
        | _ =>
            let (s, after) := readSpec rest
            let p := p.apply s
            if p.ending.isSome then p else formatPass fuel after p
      else formatPass fuel rest (p.emit (String.singleton c))

/-- Uses a format again while the last pass used arguments and some are left.  `fuel`
bounds the passes. -/
def formatAll (format : List Char) : Nat → Pass → Pass
  | 0, p => p
  | fuel + 1, p =>
      let p := formatPass (format.length + 1) format { p with used := 0 }
      if p.ending.isSome || p.used == 0 || p.args.isEmpty then p
      else formatAll format fuel p

/-- `printf`: writes formatted text.  It fails when an argument was not a number as asked,
and warns about arguments that the format, taking none, left over. -/
def printf : Batch := fun fs call =>
  let args := match call.args with
    | "--" :: rest => rest
    | rest => rest
  match args with
  | [] => failed fs (call.name ++ ": missing operand\nTry '" ++ call.name ++ " --help' for more information.\n") 1
  | format :: args =>
      let p := formatAll format.toList (args.length + 1) { prog := call.name, args }
      let err := match p.ending, p.args with
        | none, a :: _ =>
            p.err ++ call.name ++ ": warning: ignoring excess arguments, starting with " ++ Quoted.value a ++ "\n"
        | _, _ => p.err
      { out := p.out, err, ending := .exited (p.ending.getD (if p.failed then 1 else 0)), fs }

/-! ## seq -/

/-- An operand of `seq`: its value, and the width and the decimals its text asks for; no
decimals for a hexadecimal or infinite one, which asks for the general form. -/
structure SeqOperand where
  value : Text.Number
  width : Int := 1
  precision : Option Nat := some 0

/-- How the text of an operand shows its width and decimals: the text after blanks and plus
signs is the width, less an exponent and a bare point, more a zero put before a leading
point; the digits after the point are the decimals, moved by an exponent. -/
def SeqOperand.ofText (value : Text.Number) (arg : String) : SeqOperand :=
  let t := arg.toList.dropWhile (fun c => Text.isSpaceByte c || c == '+')
  let finite := match value with
    | .finite _ => true
    | _ => false
  if t.contains 'x' || t.contains 'X' || !finite then { value, width := t.length, precision := none }
  else
    let point := t.idxOf? '.'
    let (precision, width) : Int × Int := match point with
      | none => (0, t.length)
      | some i =>
          let fraction := (t.drop (i + 1)).takeWhile (fun c => c != 'e' && c != 'E')
          let width : Int := if fraction.isEmpty then t.length - 1
            else if i == 0 || !(t.getD (i - 1) ' ').isDigit then t.length + 1
            else t.length
          (fraction.length, width)
    let e := match t.idxOf? 'e' with
      | some i => some i
      | none => t.idxOf? 'E'
    match e with
    | none => { value, width, precision := some precision.toNat }
    | some ei =>
        let expText := t.drop (ei + 1)
        let exponent : Int := match integerPrefix expText with
          | some (negative, m, _) => if negative then -(m : Int) else m
          | none => 0
        let precision := if exponent < 0 then precision - exponent else precision - min precision exponent
        let width := width - (t.length - ei)
        let width := if exponent < 0 then
            (match point with
             | some i => if ei == i + 1 then width + 1 else width
             | none => width + 1) - exponent
          else
            (if point.isSome && precision == 0 && exponent != 0 then width - 1 else width) + exponent
        { value, width, precision := some precision.toNat }

/-- Reads an operand of `seq`: the whole text must be a number that does not overflow. -/
def readSeqOperand (arg : String) : Except String SeqOperand :=
  let invalid := Except.error ("invalid floating point argument: " ++ Quoted.value arg)
  match Text.readNumber arg.toList with
  | none => invalid
  | some r =>
      if !r.rest.isEmpty || (r.outOfRange && !r.number.isZero) then invalid
      else
        match r.number with
        | .notANumber _ => .error ("invalid " ++ Quoted.value "not-a-number" ++ " argument: " ++ Quoted.value arg)
        | n => .ok (SeqOperand.ofText n arg)

/-- How `seq` writes each number: text before a directive, the directive, text after. -/
structure SeqFormat where
  before : String := ""
  directive : Directive
  after : String := ""

/-- Reads the text of a `seq` format up to its directive or its end, `%%` as `%`: the text and
the rest after the `%` of the directive, or nothing when the format has no directive. -/
def seqText : List Char → List Char → Option (List Char × List Char)
  | [], _ => none
  | '%' :: '%' :: r, acc => seqText r (acc ++ ['%'])
  | '%' :: r, acc => some (acc, r)
  | c :: r, acc => seqText r (acc ++ [c])

/-- Reads a `seq` format: one directive of a floating-point letter, with flags, width and
precision, and text around it. -/
def readSeqFormat (format : String) : Except String SeqFormat :=
  let named := "format " ++ Quoted.value format
  match seqText format.toList [] with
  | none => .error (named ++ " has no % directive")
  | some (before, cs) =>
      let flags := cs.takeWhile (fun c => "-+#0 '".toList.contains c)
      let cs := cs.drop flags.length
      let wds := cs.takeWhile Char.isDigit
      let cs := cs.drop wds.length
      let (precision, cs) := match cs with
        | '.' :: r =>
            let ds := r.takeWhile Char.isDigit
            (some (Text.decimalDigits ds), r.drop ds.length)
        | _ => (none, cs)
      let cs := match cs with
        | 'L' :: r => r
        | r => r
      match cs with
      | [] => .error (named ++ " ends in %")
      | c :: rest =>
          if !"efgaEFGA".toList.contains c then
            .error (named ++ " has unknown %" ++ String.singleton c ++ " directive")
          else
            match seqText rest [] with
            | some _ => .error (named ++ " has too many % directives")
            | none =>
                let after := String.intercalate "%" ((String.ofList rest).splitOn "%%")
                .ok { before := String.ofList before, after,
                      directive := { flags, width := if wds.isEmpty then none else some (Text.decimalDigits wds),
                                     precision, conv := c } }

/-- The format `seq` uses when none is given: as many decimals as the first number and the
step ask for, padded with zeros to a common width for `-w`; the general form when an
operand asks for it. -/
def defaultSeqFormat (equalWidth : Bool) (first step last : SeqOperand) : SeqFormat :=
  let general : SeqFormat := { directive := { conv := 'g' } }
  match first.precision, step.precision, last.precision with
  | some fp, some sp, some lp =>
      let prec := max fp sp
      if equalWidth then
        let firstWidth := first.width + (prec - fp : Int) + (if fp == 0 && prec > 0 then 1 else 0)
        let lastWidth := last.width + ((prec : Int) - lp) - (if lp > 0 && prec == 0 then 1 else 0) +
          (if lp == 0 && prec > 0 then 1 else 0)
        if firstWidth < 0 || lastWidth < 0 then general
        else { directive := { flags := ['0'], width := some (max firstWidth lastWidth).toNat,
                              precision := some prec, conv := 'f' } }
      else { directive := { precision := some prec, conv := 'f' } }
  | _, _, _ => general

/-- A number as a format writes it. -/
def SeqFormat.show (f : SeqFormat) (x : Text.Number) : String := formatFloating f.directive x

/-- Whether the text of a number reads back as `last`. -/
def readsBackAs (text : String) (last : Text.Number) : Bool :=
  match Text.readNumber text.toList with
  | some r => r.rest.isEmpty && !(r.outOfRange && !r.number.isZero) && r.number.sameValue last
  | none => false

/-- Writes `first + i × step` for `i` from the given one on, each after the separator, while
they do not pass `last`; a first number past it is still written when it shows as `last` and
differs from the one before.  `fuel` bounds the numbers. -/
def seqLoop (f : SeqFormat) (sep : String) (first step last : Text.Number) :
    Nat → Nat → Text.Number → String → String
  | 0, _, _, out => out
  | fuel + 1, i, x0, out =>
      let x := first.add ((Text.Number.finite { significand := i, exponent := 0 }).mul step)
      let past := if step.negative then x.lt last else last.lt x
      if past then
        let shown := f.show x
        if readsBackAs shown last && shown != f.show x0 then out ++ sep ++ f.before ++ shown ++ f.after
        else out
      else seqLoop f sep first step last fuel (i + 1) x (out ++ sep ++ f.before ++ f.show x ++ f.after)

/-- The most numbers `seq` writes in one run. -/
def seqLimit : Nat := 10000000

/-- How many steps from `first` reach `last`, plus two, at most `seqLimit`. -/
def stepCount (first step last : Text.Number) : Nat :=
  match first, step, last with
  | .finite a, .finite s, .finite b =>
      let d := b.exactAdd { a with negative := !a.negative }
      let (dn, dd) := d.fraction
      let (sn, sd) := s.fraction
      if sn == 0 then 0 else min seqLimit (dn * sd / (dd * sn) + 2)
  | _, _, _ => seqLimit

/-- The whole numbers from `a` by `step` up to `b`, each after the separator but the first,
ended by a newline when there is one.  `fuel` bounds the numbers. -/
def countRun (sep : String) (step b : Nat) : Nat → Nat → String → String
  | 0, _, out => out
  | fuel + 1, a, out => if a > b then out else countRun sep step b fuel (a + step) (out ++ sep ++ toString a)

/-- Writes whole numbers from `a` by `step` up to `b` exactly. -/
def countUp (sep : String) (a step b : Nat) : String :=
  if a > b then ""
  else
    let fuel := if step == 0 then 0 else min seqLimit ((b - a) / step)
    countRun sep step b fuel (a + step) (toString a) ++ "\n"

/-- Whether a text is all decimal digits, and not empty. -/
def allDigits (s : String) : Bool := !s.isEmpty && s.toList.all Char.isDigit

/-- The whole number a nonnegative finite number holds. -/
def wholeValue : Text.Number → Nat
  | .finite b => if b.exponent ≥ 0 then b.significand * Nat.pow 2 b.exponent.toNat else b.significand / Nat.pow 2 (-b.exponent).toNat
  | _ => 0

/-- The options `seq` takes. -/
def seqSpec : OptionSpec :=
  { shorts := [('w', .none), ('s', .required), ('f', .required)],
    longs := [⟨"separator", 's', .required⟩, ⟨"equal-width", 'w', .none⟩,
              ⟨"format", 'f', .required⟩],
    inOrder := true }

/-- The options of `seq`, read in order up to the first operand; a word that looks like a
negative number is an operand.  `fuel` bounds the words read. -/
def seqOptions : Nat → List String → List Opt → Except OptError (List Opt × List String)
  | 0, ws, opts => .ok (opts, ws)
  | _, [], opts => .ok (opts, [])
  | fuel + 1, w :: rest, opts =>
      match w.toList with
      | ['-', '-'] => .ok (opts, rest)
      | '-' :: '-' :: _ =>
          match seqSpec.long (w.drop 2).copy rest.head? with
          | .error e => .error e
          | .ok (o, took) => seqOptions fuel (if took then rest.drop 1 else rest) (opts ++ [o])
      | '-' :: c :: letters =>
          if c.isDigit || c == '.' then .ok (opts, w :: rest)
          else
            match seqSpec.letters rest.head? (c :: letters) with
            | .error e => .error e
            | .ok (os, took) => seqOptions fuel (if took then rest.drop 1 else rest) (opts ++ os)
      | _ => .ok (opts, w :: rest)

/-- The numbers `seq` writes from its read operands. -/
def seqNumbers (sep : String) (equalWidth : Bool) (format : Option SeqFormat)
    (first step last : SeqOperand) : String :=
  let wholes := first.precision == some 0 && step.precision == some 0 && last.precision == some 0 &&
    !first.value.negative && !last.value.negative && Text.Number.lt (Text.zeroOf false) step.value &&
    !Text.Number.lt (.finite { significand := 200, exponent := 0 }) step.value &&
    !equalWidth && format.isNone && sep.length == 1
  if wholes then countUp sep (wholeValue first.value) (wholeValue step.value) (wholeValue last.value)
  else
    let f := format.getD (defaultSeqFormat equalWidth first step last)
    let past := if step.value.negative then first.value.lt last.value else last.value.lt first.value
    if past then ""
    else
      let count := stepCount first.value step.value last.value
      seqLoop f sep first.value step.value last.value count 1 first.value
        (f.before ++ f.show first.value ++ f.after) ++ "\n"

/-- `seq`: writes a run of numbers from a first one (1 when not given) by a step (1 when not
given) up to a last one. -/
def seq : Batch := fun fs call =>
  match seqOptions (call.args.length + 1) call.args [] with
  | .error e => failed fs (e.message call.name) 1
  | .ok (opts, operands) =>
      let tryHelp := "Try '" ++ call.name ++ " --help' for more information.\n"
      let usage := fun (m : String) => failed fs (call.name ++ ": " ++ m ++ "\n" ++ tryHelp) 1
      let sep := (optValue opts 's').getD "\n"
      let equalWidth := hasOpt opts 'w'
      match operands with
      | [] => usage "missing operand"
      | _ =>
          if operands.length > 3 then usage ("extra operand " ++ Quoted.value (operands.getD 3 ""))
          else
            let format := match optValue opts 'f' with
              | some t => (readSeqFormat t).map some
              | none => .ok none
            match format with
            | .error m => failed fs (call.name ++ ": " ++ m ++ "\n") 1
            | .ok format =>
                if format.isSome && equalWidth then
                  usage "format string may not be specified when printing equal width strings"
                else
                  let stepText := operands.getD 1 ""
                  let stepOk := operands.length != 3 || (allDigits stepText &&
                    (match Text.readNumber stepText.toList with
                     | some r => r.rest.isEmpty && 0 < wholeValue r.number && wholeValue r.number ≤ 200
                     | none => false))
                  let firstText := operands.headD ""
                  let lastText := operands.getLastD ""
                  if allDigits firstText && allDigits lastText && (operands.length < 3 || stepOk) &&
                      !equalWidth && format.isNone && sep.length == 1 then
                    let step := if operands.length == 3 then stepText.toNat?.getD 1 else 1
                    let a := if operands.length == 1 then 1 else firstText.toNat?.getD 0
                    { out := countUp sep a step (lastText.toNat?.getD 0), fs }
                  else
                    let one : SeqOperand := { value := .finite { significand := 1, exponent := 0 } }
                    let read : Except String (SeqOperand × SeqOperand × SeqOperand) :=
                      match operands with
                      | [l] => do
                          let last ← readSeqOperand l
                          pure (one, one, last)
                      | [f, l] => do
                          let first ← readSeqOperand f
                          let last ← readSeqOperand l
                          pure (first, one, last)
                      | f :: s :: l :: _ => do
                          let first ← readSeqOperand f
                          let step ← readSeqOperand s
                          if step.value.isZero then
                            throw ("invalid Zero increment value: " ++ Quoted.value s)
                          let last ← readSeqOperand l
                          pure (first, step, last)
                      | [] => pure (one, one, one)
                    match read with
                    | .error m => usage m
                    | .ok (first, step, last) =>
                        { out := seqNumbers sep equalWidth format first step last, fs }

end Conch.Programs
