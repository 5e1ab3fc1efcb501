import Conch.Script.Interp
import Conch.Programs.Format

/-!
# The shell's `echo` and `printf`

The shell has its own `echo` and `printf`, which write through the built-in output (`out1`),
so that what they write reaches the standard output when they end, after any message.

*Escapes.*  In a `printf` format a backslash starts `\\`, `\a`, `\b`, `\f`, `\n`, `\r`, `\t`,
`\v` or an octal number of one to three digits; before any other character it is itself.
`echo` and `%b` read the same escapes in their arguments, and also `\c`, which ends all output
at once, and `\0` followed by up to three octal digits.

*Directives.*  A directive is `%`, flags among `#-+ 0`, a width (digits or `*`), a precision
(`.` and digits or `*`) and one of the letters `b`, `c`, `s`, `d`, `i`, `o`, `u`, `x`, `X`,
`a`, `A`, `e`, `E`, `f`, `F`, `g`, `G`; any other letter stops the command with an error.
The format is used again while arguments are left and the last pass took some.

*Numbers.*  A number argument is read as C reads one, in base 16 after `0x`, base 8 after `0`,
else base 10; a quote and a character give the value of the character's first octet.  An
argument that is not a number, or not wholly one, or out of range, is reported, and the
command then ends with status 1, having written what it could.

Main definitions: `Printf.echo` and `Printf.printf`.
-/

namespace Conch.Script.Printf

open Conch.Programs (Directive formatInteger formatFloating padOctets octetsOf)

/-- Whether a character is an octal digit. -/
def isOctal (c : Char) : Bool := '0' ≤ c && c ≤ '7'

/-- Reads up to three octal digits: the value and the rest. -/
def octalValue : Nat → List Char → Nat → Nat × List Char
  | 0, cs, v => (v, cs)
  | k + 1, c :: rest, v => if isOctal c then octalValue k rest (v * 8 + (c.toNat - 48)) else (v, c :: rest)
  | _, [], v => (v, [])

/-- Reads one escape after a backslash, at `cs`: the octet it stands for and the rest.  A
backslash before anything else stands for itself, and the character after it is read again. -/
def escapeAt (cs : List Char) : Char × List Char :=
  match cs with
  | '\\' :: rest => ('\\', rest)
  | 'a' :: rest => (Char.ofNat 7, rest)
  | 'b' :: rest => (Char.ofNat 8, rest)
  | 'f' :: rest => (Char.ofNat 12, rest)
  | 'n' :: rest => ('\n', rest)
  | 'r' :: rest => (Char.ofNat 13, rest)
  | 't' :: rest => ('\t', rest)
  | 'v' :: rest => (Char.ofNat 11, rest)
  | c :: _ =>
      if isOctal c then
        let (v, rest) := octalValue 3 cs 0
        (Char.ofNat (v % 256), rest)
      else ('\\', cs)
  | [] => ('\\', [])

/-- Reads the escapes of an argument of `echo` or `%b`: its octets, and whether `\c` ended
the output. -/
def escapeText : Nat → List Char → List Char × Bool
  | 0, _ => ([], false)
  | _, [] => ([], false)
  | f + 1, '\\' :: rest =>
      match rest with
      | 'c' :: _ => ([], true)
      | '0' :: d :: more =>
          if isOctal d then
            let (c, after) := escapeAt (d :: more)
            let (r, stop) := escapeText f after
            (c :: r, stop)
          else
            let (c, after) := escapeAt rest
            let (r, stop) := escapeText f after
            (c :: r, stop)
      | _ =>
          let (c, after) := escapeAt rest
          let (r, stop) := escapeText f after
          (c :: r, stop)
  | f + 1, c :: rest =>
      let (r, stop) := escapeText f rest
      (c :: r, stop)

/-- `echo`: writes its arguments, separated by blanks, with a newline unless the first is
`-n`; `\c` in an argument ends the output there. -/
def echo (args : List Octets) : ScriptM Nat := do
  let (args, newline) := match args with
    | "-n" :: rest => (rest, false)
    | _ => (args, true)
  let rec go : List Octets → ScriptM Unit
    | [] => pure ()
    | a :: rest => do
        let (cs, stop) := escapeText (a.length + 1) a.toList
        out1 (String.ofList cs)
        if stop then return
        match rest with
        | [] => if newline then out1 "\n"
        | _ => do
            out1 " "
            go rest
  match args with
  | [] => if newline then out1 "\n"
  | _ => go args
  return 0

/-- The largest value of a signed 64-bit number. -/
def intMax : Nat := Nat.pow 2 63 - 1

/-- Reads the digits of a number in a base: its value and the rest. -/
def digitsValue (base : Nat) : List Char → Nat → Nat × List Char
  | [], v => (v, [])
  | c :: rest, v =>
      match Conch.Text.hexDigitValue c with
      | some d => if d < base then digitsValue base rest (v * base + d) else (v, c :: rest)
      | none => (v, c :: rest)

/-- Reads an integer as C's conversion in base 0 does: the sign, the magnitude, and the rest;
none when no digit is there. -/
def readInteger (s : List Char) : Option (Bool × Nat × List Char) :=
  let cs := s.dropWhile Conch.Text.isSpaceByte
  let (neg, cs) := match cs with
    | '-' :: r => (true, r)
    | '+' :: r => (false, r)
    | r => (false, r)
  match cs with
  | '0' :: x :: h :: rest =>
      if (x == 'x' || x == 'X') && (Conch.Text.hexDigitValue h).isSome then
        let (v, after) := digitsValue 16 (h :: rest) 0
        some (neg, v, after)
      else
        let (v, after) := digitsValue 8 cs 0
        some (neg, v, after)
  | '0' :: _ =>
      let (v, after) := digitsValue 8 cs 0
      some (neg, v, after)
  | c :: _ =>
      if isDigitChar c then
        let (v, after) := digitsValue 10 cs 0
        some (neg, v, after)
      else none
  | [] => none

/-- The arguments left and whether a number argument was malformed. -/
structure Args where
  left : List Octets
  bad : Bool := false

/-- A computation of `printf`. -/
abbrev PrintfM := StateT Args ScriptM

/-- Takes the next argument, if there is one. -/
def nextArg : PrintfM (Option Octets) := do
  let a ← get
  match a.left with
  | x :: rest => do
      set { a with left := rest }
      pure (some x)
  | [] => pure none

/-- Reports a malformed number argument; the command goes on. -/
def complain (msg : Octets) : PrintfM Unit := do
  liftM (m := ScriptM) (warn msg)
  modify fun a => { a with bad := true }

/-- Checks what was left after a number: nothing, or a complaint. -/
def checkRest (arg : Octets) (rest : List Char) (read : Bool) : PrintfM Unit := do
  if !rest.isEmpty then
    if !read then complain (arg ++ ": expected numeric value")
    else complain (arg ++ ": not completely converted")

/-- The next argument as a signed number. -/
def nextInt : PrintfM Int := do
  match ← nextArg with
  | none => pure 0
  | some a =>
      match a.toList with
      | q :: rest =>
          if q == '"' || q == '\'' then pure ((rest.head?.map Char.toNat).getD 0)
          else numeric a
      | [] => pure 0
where
  numeric (a : Octets) : PrintfM Int := do
    match readInteger a.toList with
    | none => do
        checkRest a a.toList false
        pure 0
    | some (neg, v, rest) => do
        if !rest.isEmpty then
          checkRest a rest true
          pure (if neg then -(min v (intMax + 1) : Int) else (min v intMax : Int))
        else if (!neg && v > intMax) || (neg && v > intMax + 1) then
          complain (a ++ ": Numerical result out of range")
          pure (if neg then -((intMax + 1 : Nat) : Int) else (intMax : Int))
        else pure (if neg then -(v : Int) else v)

/-- The next argument as an unsigned 64-bit number; a negative one wraps around. -/
def nextUnsigned : PrintfM Nat := do
  match ← nextArg with
  | none => pure 0
  | some a =>
      match a.toList with
      | q :: rest =>
          if q == '"' || q == '\'' then pure ((rest.head?.map Char.toNat).getD 0)
          else numeric a
      | [] => pure 0
where
  numeric (a : Octets) : PrintfM Nat := do
    match readInteger a.toList with
    | none => do
        checkRest a a.toList false
        pure 0
    | some (neg, v, rest) => do
        let wrapped := if neg then (Nat.pow 2 64 - v % Nat.pow 2 64) % Nat.pow 2 64 else v
        if !rest.isEmpty then
          checkRest a rest true
          pure (min wrapped (Nat.pow 2 64 - 1))
        else if v ≥ Nat.pow 2 64 then
          complain (a ++ ": Numerical result out of range")
          pure (Nat.pow 2 64 - 1)
        else pure wrapped

/-- The next argument as a floating-point number. -/
def nextFloating : PrintfM Conch.Text.Number := do
  let zero : Conch.Text.Number := .finite { significand := 0, exponent := 0 }
  match ← nextArg with
  | none => pure zero
  | some a =>
      match a.toList with
      | q :: rest =>
          if q == '"' || q == '\'' then
            pure (.finite { significand := (rest.head?.map Char.toNat).getD 0, exponent := 0 })
          else
            match Conch.Text.readNumber a.toList with
            | none => do
                checkRest a a.toList false
                pure zero
            | some r => do
                checkRest a r.rest true
                pure r.number
      | [] => pure zero

/-- Pads octets to a width, right-aligned unless the flags have `-`. -/
def pad (flags : List Char) (width : Option Nat) (s : Octets) : Octets :=
  Octets.ofBytes (padOctets flags width (Octets.bytes s))

/-- The flags, width and precision of a directive, read after its `%`: the spec, whether
the width and precision are taken from arguments, and the rest. -/
structure Spec where
  flags : List Char
  width : Option Nat
  widthArg : Bool
  precision : Option Nat
  precisionArg : Bool
  rest : List Char

/-- Reads the flags, width and precision of a directive. -/
def readSpec (cs : List Char) : Spec :=
  let flagChar := fun (c : Char) => c == '#' || c == '-' || c == '+' || c == ' ' || c == '0'
  let flags := cs.takeWhile flagChar
  let cs := cs.dropWhile flagChar
  let (widthArg, cs) := match cs with
    | '*' :: r => (true, r)
    | _ => (false, cs)
  let wds := cs.takeWhile isDigitChar
  let cs := cs.dropWhile isDigitChar
  let width := if wds.isEmpty then none else some (Conch.Text.decimalDigits wds)
  match cs with
  | '.' :: r =>
      let (precisionArg, r) := match r with
        | '*' :: r2 => (true, r2)
        | _ => (false, r)
      let pds := r.takeWhile isDigitChar
      { flags, width, widthArg, precision := some (Conch.Text.decimalDigits pds), precisionArg,
        rest := r.dropWhile isDigitChar }
  | _ => { flags, width, widthArg, precision := none, precisionArg := false, rest := cs }

/-- What one pass over the format ended with. -/
inductive PassEnd where
  | done
  /-- `\c` in a `%b` argument: no more output at all. -/
  | stopped

/-- Applies a directive with its conversion letter `c`; `start` is its text for messages. -/
def directive (sp : Spec) (c : Char) (start : Octets) : PrintfM PassEnd := do
  let (flags, width) ← if sp.widthArg then do
      let w ← nextInt
      pure (if w < 0 then '-' :: sp.flags else sp.flags, some w.natAbs)
    else pure (sp.flags, sp.width)
  let precision ← if sp.precisionArg then do
      let p ← nextInt
      pure (if p < 0 then none else some p.toNat)
    else pure sp.precision
  let d : Directive := { flags, width, precision, conv := c }
  let emit := fun (s : Octets) => liftM (m := ScriptM) (out1 s)
  match c with
  | 's' => do
      let a := (← nextArg).getD ""
      let a := match precision with
        | some p => (a.take p).copy
        | none => a
      emit (pad flags width a)
      pure .done
  | 'b' => do
      let a := (← nextArg).getD ""
      let (cs, stop) := escapeText (a.length + 1) a.toList
      let text := String.ofList cs
      let text := match precision with
        | some p => (text.take p).copy
        | none => text
      emit (pad flags width text)
      pure (if stop then .stopped else .done)
  | 'c' => do
      let a := (← nextArg).getD ""
      let ch := a.toList.headD (Char.ofNat 0)
      emit (pad flags width (String.singleton ch))
      pure .done
  | 'd' | 'i' => do
      let v ← nextInt
      emit (formatInteger { d with conv := 'd' } (v < 0) v.natAbs)
      pure .done
  | 'o' | 'u' | 'x' | 'X' => do
      let v ← nextUnsigned
      emit (formatInteger d false v)
      pure .done
  | 'a' | 'A' | 'e' | 'E' | 'f' | 'F' | 'g' | 'G' => do
      let v ← nextFloating
      emit (formatFloating d v)
      pure .done
  | _ => liftM (m := ScriptM) (fail (start ++ ": invalid directive"))

/-- One pass over the format. -/
def pass : Nat → List Char → PrintfM PassEnd
  | 0, _ => pure .done
  | _, [] => pure .done
  | f + 1, '%' :: rest =>
      match rest with
      | '%' :: more => do
          liftM (m := ScriptM) (out1 "%")
          pass f more
      | _ => do
          let sp := readSpec rest
          match sp.rest with
          | [] => liftM (m := ScriptM) (fail "missing format character")
          | c :: after => do
              let start := "%" ++ String.ofList (rest.take (rest.length - after.length))
              match ← directive sp c start with
              | .stopped => pure .stopped
              | .done => pass f after
  | f + 1, '\\' :: rest => do
      let (c, after) := escapeAt rest
      liftM (m := ScriptM) (out1 (String.singleton c))
      pass f after
  | f + 1, c :: rest => do
      liftM (m := ScriptM) (out1 (String.singleton c))
      pass f rest

/-- Uses the format again while the arguments last and each pass takes some. -/
def passes (format : List Char) : Nat → PrintfM Unit
  | 0 => pure ()
  | f + 1 => do
      let before := (← get).left.length
      match ← pass (format.length + 1) format with
      | .stopped => pure ()
      | .done => do
          let after := (← get).left.length
          if after < before && after > 0 then passes format f

/-- `printf`: writes its arguments by its format.  Its status is 1 when an argument was not
a proper number. -/
def printf (args : List Octets) : ScriptM Nat := do
  let args := match args with
    | "--" :: rest => rest
    | _ => args
  match args with
  | [] => fail "usage: printf format [arg ...]"
  | format :: rest => do
      let ((), a) ← (passes format.toList (rest.length + 1)).run { left := rest }
      return if a.bad then 1 else 0

end Conch.Script.Printf
