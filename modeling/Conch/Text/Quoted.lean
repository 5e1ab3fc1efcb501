import Conch.Text.Utf8

/-!
# Quoting names in messages

The system's programs show names and values in their messages in one of three quoted forms,
all on octet strings in the C locale, where an octet is printable when it lies from the space
to the tilde.

* A **value** is always put between apostrophes; a backslash and an apostrophe inside get a
  backslash before them, and an octet that is not printable is written as an escape: `\n`,
  `\t` and the other C letters where there is one, else three octal digits.
* A **name**, as a shell would read it back, is shown bare when that is safe.  It is quoted
  when it is empty or holds an octet a shell would take specially: a blank, one of
  ``! " $ & ( ) * ; < = > ? [ \ ^ ` |``, an apostrophe, an octet that is not printable, `#`
  or `~` at its start, or `{` or `}` standing alone; for file names in error messages a
  colon counts too.  A quoted name stands between apostrophes, with each apostrophe inside
  written `'\''`, and each run of unprintable octets written as a `$'...'` piece of escapes
  glued to the rest.  A name whose only reason for quoting is an apostrophe, among octets
  that are all plain or blanks, is put between double quotes instead.
* Some messages always quote a name, in the same way.

Main definitions: `Quoted.value`, `Quoted.name` and `Quoted.nameAlways`.
-/

namespace Conch.Quoted

/-- Whether an octet is printable in the C locale. -/
def printable (c : Char) : Bool := ' ' ≤ c && c ≤ '~'

/-- The C letter that escapes an octet, if it has one. -/
def letterEscape (c : Char) : Option Char :=
  match c.toNat with
  | 7 => some 'a'
  | 8 => some 'b'
  | 9 => some 't'
  | 10 => some 'n'
  | 11 => some 'v'
  | 12 => some 'f'
  | 13 => some 'r'
  | _ => none

/-- The escape of an octet that is not printable: its C letter, or three octal digits. -/
def escapeOf (c : Char) : String :=
  match letterEscape c with
  | some l => "\\" ++ String.ofList [l]
  | none =>
      let n := c.toNat
      String.ofList ['\\', Char.ofNat (48 + n / 64 % 8), Char.ofNat (48 + n / 8 % 8),
        Char.ofNat (48 + n % 8)]

/-- A value between apostrophes, with backslash escapes. -/
def value (s : Octets) : Octets :=
  "'" ++ String.join (s.toList.map fun c =>
    if c == '\\' then "\\\\"
    else if c == '\'' then "\\'"
    else if printable c then String.ofList [c]
    else escapeOf c) ++ "'"

/-- The octets a shell reads specially wherever they stand. -/
def shellSpecial : List Char := " !\"$&()*;<=>?[\\^`|'".toList

/-- Whether the octet at position `i` of a name of `length` octets makes a shell read the
name specially; `colon` counts a colon too. -/
def needsQuotes (colon : Bool) (length i : Nat) (c : Char) : Bool :=
  !printable c || shellSpecial.contains c || (colon && c == ':') ||
  ((c == '#' || c == '~') && i == 0) || ((c == '{' || c == '}') && length == 1)

/-- Whether an octet reads the same between double quotes as between apostrophes, and needs
nothing there: an apostrophe, a blank, letters, digits, one of `%+,-./:]_`, `#` or `~` at the
start, and `{` or `}` standing alone. -/
def doubleQuotable (length i : Nat) (c : Char) : Bool :=
  c == '\'' || c == ' ' || c.isAlphanum || "%+,-./:]_".toList.contains c ||
    ((c == '#' || c == '~') && i == 0) || ((c == '{' || c == '}') && length == 1)

/-- The octets of a name after an opening apostrophe, unprintable runs as `$'...'` pieces:
the text and whether it ends inside such a piece.  One closing apostrophe ends either. -/
def quotedBody (cs : List Char) : String × Bool :=
  cs.foldl (fun (acc : String × Bool) c =>
    let (out, inEscape) := acc
    if !printable c then
      ((if inEscape then out else out ++ "'$'") ++ escapeOf c, true)
    else
      if c == '\'' then (out ++ "'\\''", false)
      else ((if inEscape then out ++ "''" else out) ++ String.ofList [c], false)) ("'", false)

/-- A name between quotes, always. -/
def nameAlways (s : Octets) : Octets :=
  let cs := s.toList
  if cs.contains '\'' &&
      ((List.range cs.length).zip cs).all (fun (i, c) => doubleQuotable cs.length i c) then
    "\"" ++ s ++ "\""
  else
    (quotedBody cs).1 ++ "'"

/-- A name, quoted only when a shell would not read it back as it is; `colon` quotes a name
with a colon too. -/
def name (colon : Bool) (s : Octets) : Octets :=
  let cs := s.toList
  if cs.isEmpty || ((List.range cs.length).zip cs).any (fun (i, c) => needsQuotes colon cs.length i c)
  then nameAlways s
  else s

end Conch.Quoted
