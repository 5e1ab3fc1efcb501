import Conch.Programs.Text
import Conch.Programs.Pattern

/-!
# Mapping characters: `tr`

`tr SET1 SET2` copies its standard input, mapping each character of the first set to the
character at the same place of the second; `-d SET1` deletes the characters of the set, `-s`
squeezes each run of a repeated character of the last set given into one, and `-c` takes the
characters not in the first set instead, in increasing order.

*Sets.*  A set lists characters: plain ones, escapes (`\n`, `\t`, `\\`, `\a`, `\b`, `\f`,
`\r`, `\v`, and up to three octal digits), ranges `a-z`, classes `[:alpha:]` and the like,
`[=c=]` for the character `c`, and repeats `[c*n]` (`n` decimal, or octal after a zero) and
`[c*]`, which in the second set fills it to the length of the first.  A second set shorter
than the first is filled with its last character, unless `-t` cuts the first to its length.
When a character appears more than once in the first set, its last place counts.

*Refusals* (status 1): too few or too many operands, a range whose ends are reversed, an
unknown class, `[c*]` in the first set, and, when mapping, classes other than `upper` and
`lower` in the second set.

Main definition: `tr`.
-/

namespace Conch.Programs

namespace Translate

/-- An element of a set. -/
inductive Element where
  | char (c : Char)
  | range (lo hi : Char)
  | charClass (name : String)
  | equiv (c : Char)
  /-- A repeated character; a count of zero fills. -/
  | repeated (c : Char) (count : Nat)
  deriving Repr, DecidableEq

/-- The characters of a class, in increasing order. -/
def classMembers (name : String) : List Char :=
  ((List.range 256).map Char.ofNat).filter (Pattern.inClass name)

/-- The characters of an element (a filling repeat gives none). -/
def Element.chars : Element → List Char
  | .char c => [c]
  | .range lo hi => (List.range (hi.toNat + 1 - lo.toNat)).map (fun k => Char.ofNat (lo.toNat + k))
  | .charClass n => classMembers n
  | .equiv c => [c]
  | .repeated c n => List.replicate n c

/-- Reads the escapes of a set: each character with whether it was escaped, and whether the
string ended with a lone backslash. -/
def unquote (s : String) : List (Char × Bool) × Bool :=
  let octal := fun (c : Char) => '0' ≤ c && c ≤ '7'
  let rec go : Nat → List Char → List (Char × Bool) × Bool
    | 0, _ => ([], false)
    | _, [] => ([], false)
    | fuel + 1, '\\' :: rest =>
        match rest with
        | [] => ([('\\', false)], true)
        | d :: more =>
            let simple := fun (c : Char) =>
              let (r, w) := go fuel more
              ((c, true) :: r, w)
            match d with
            | '\\' => simple '\\'
            | 'a' => simple (Char.ofNat 7)
            | 'b' => simple (Char.ofNat 8)
            | 'f' => simple (Char.ofNat 12)
            | 'n' => simple '\n'
            | 'r' => simple '\r'
            | 't' => simple '\t'
            | 'v' => simple (Char.ofNat 11)
            | _ =>
                if octal d then
                  let v1 := d.toNat - 48
                  match more with
                  | e :: more2 =>
                      if octal e then
                        let v2 := 8 * v1 + (e.toNat - 48)
                        match more2 with
                        | f :: more3 =>
                            if octal f && 8 * v2 + (f.toNat - 48) < 256 then
                              let (r, w) := go fuel more3
                              ((Char.ofNat (8 * v2 + (f.toNat - 48)), true) :: r, w)
                            else
                              let (r, w) := go fuel more2
                              ((Char.ofNat v2, true) :: r, w)
                        | [] => ((Char.ofNat v2, true) :: [], false)
                      else
                        let (r, w) := go fuel more
                        ((Char.ofNat v1, true) :: r, w)
                  | [] => ([(Char.ofNat v1, true)], false)
                else simple d
    | fuel + 1, c :: rest =>
        let (r, w) := go fuel rest
        ((c, false) :: r, w)
  go (s.length + 1) s.toList

/-- A character written for a message: printable ones as they are, others as escapes. -/
def printable (c : Char) : String :=
  let n := c.toNat
  if c == '\\' then "\\\\"
  else if n == 7 then "\\a" else if n == 8 then "\\b" else if n == 12 then "\\f"
  else if c == '\n' then "\\n" else if c == '\r' then "\\r" else if c == '\t' then "\\t"
  else if n == 11 then "\\v"
  else if 32 ≤ n && n < 127 then String.singleton c
  else "\\" ++ String.ofList [Char.ofNat (48 + n / 64 % 8), Char.ofNat (48 + n / 8 % 8), Char.ofNat (48 + n % 8)]

/-- Whether the character at `i` is the unescaped `c`. -/
def isAt (s : Array (Char × Bool)) (i : Nat) (c : Char) : Bool :=
  match s[i]? with
  | some (x, esc) => x == c && !esc
  | none => false

/-- The character at `i`. -/
def charAt (s : Array (Char × Bool)) (i : Nat) : Char := (s[i]?.map (·.1)).getD ' '

/-- Finds the unescaped `delim` followed by an unescaped `]` from `start` on. -/
def closingDelim (s : Array (Char × Bool)) (delim : Char) (start : Nat) : Option Nat :=
  (List.range (s.size - start)).map (· + start) |>.find? fun i =>
    i + 1 < s.size && isAt s i delim && isAt s (i + 1) ']'

/-- Whether `*` and then digits and `]` follow at `i`. -/
def starDigitsClose (s : Array (Char × Bool)) (i : Nat) : Bool :=
  if !isAt s i '*' then false
  else
    match ((List.range (s.size - (i + 1))).map (· + i + 1)).find? (fun k => !(charAt s k).isDigit || (s[k]?.map (·.2)).getD false) with
    | some k => isAt s k ']'
    | none => false

/-- A bracketed repeat `[c*n]` starting at `start` (the character after `[`): the character,
its count and the place of `]`; none when there is none; the message for a bad count. -/
def bracketedRepeat (s : Array (Char × Bool)) (start : Nat) : Except String (Option (Char × Nat × Nat)) :=
  if !isAt s (start + 1) '*' then .ok none
  else
    let after := (List.range (s.size - (start + 2))).map (· + start + 2)
    let unescaped := after.takeWhile (fun i => !((s[i]?.map (·.2)).getD true))
    match unescaped.find? (fun i => charAt s i == ']') with
    | none => .ok none
    | some close =>
        let digits := ((List.range (close - (start + 2))).map (fun k => charAt s (start + 2 + k)))
        if digits.isEmpty then .ok (some (charAt s start, 0, close))
        else
          let base := if digits.head? == some '0' then 8 else 10
          let valid := digits.all (fun d => d.isDigit && d.toNat - 48 < base)
          let value := digits.foldl (fun (n : Nat) (d : Char) => n * base + (d.toNat - 48)) 0
          if !valid then
            .error ("invalid repeat count " ++ Quoted.value (String.join (digits.map printable)) ++ " in [c*n] construct")
          else .ok (some (charAt s start, value, close))

/-- Reads a set into its elements, or gives the message refusing it. -/
def elements (s : Array (Char × Bool)) : Except String (List Element) :=
  let n := s.size
  let rec go : Nat → Nat → Except String (List Element)
    | 0, _ => .ok []
    | fuel + 1, i =>
        if i + 2 ≥ n then .ok (((List.range (n - i)).map (fun k => Element.char (charAt s (i + k)))))
        else
          let plain : Except String (List Element) :=
            if isAt s (i + 1) '-' then
              let lo := charAt s i
              let hi := charAt s (i + 2)
              if lo.toNat > hi.toNat then
                .error ("range-endpoints of " ++ Quoted.value (printable lo ++ "-" ++ printable hi) ++
                  " are in reverse collating sequence order")
              else (go fuel (i + 3)).map (Element.range lo hi :: ·)
            else (go fuel (i + 1)).map (Element.char (charAt s i) :: ·)
          let repeatOr : Except String (List Element) :=
            match bracketedRepeat s (i + 1) with
            | .error e => .error e
            | .ok (some (c, k, close)) => (go fuel (close + 1)).map (Element.repeated c k :: ·)
            | .ok none => plain
          if isAt s i '[' then
            if isAt s (i + 1) ':' || isAt s (i + 1) '=' then
              let delim := charAt s (i + 1)
              match closingDelim s delim (i + 2) with
              | some close =>
                  let name := String.ofList ((List.range (close - (i + 2))).map (fun k => charAt s (i + 2 + k)))
                  if delim == ':' then
                    if Pattern.classNames.contains name then
                      (go fuel (close + 2)).map (Element.charClass name :: ·)
                    else if starDigitsClose s (i + 2) then repeatOr
                    else .error ("invalid character class " ++ Quoted.value (String.join (name.toList.map printable)))
                  else
                    match name.toList with
                    | [c] => (go fuel (close + 2)).map (Element.equiv c :: ·)
                    | _ =>
                        if starDigitsClose s (i + 2) then repeatOr
                        else .error (String.join (name.toList.map printable) ++
                          ": equivalence class operand must be a single character")
              | none => repeatOr
            else repeatOr
          else plain
  go (n + 1) 0

/-- Reads a set, with the warning for a lone backslash at its end. -/
def readSet (s : String) : Except String (List Element) × String :=
  let (cs, lone) := unquote s
  (elements cs.toArray, if lone then "warning: an unescaped backslash at end of string is not portable" else "")

/-- The length of a set, filling repeats aside. -/
def setLength (es : List Element) : Nat := (es.map (·.chars.length)).foldr (· + ·) 0

/-- The number of filling repeats. -/
def fillers (es : List Element) : Nat :=
  (es.filter (fun e => match e with
    | .repeated _ 0 => true
    | _ => false)).length

/-- The characters of the second set, stretched to `length`: a filling repeat takes what is
missing, and a set still shorter is extended with its last character. -/
def stretched (es : List Element) (length : Nat) (extend : Bool) : List Char :=
  let fill := length - setLength es
  let cs := es.flatMap fun e => match e with
    | .repeated c 0 => List.replicate fill c
    | e => e.chars
  if extend && cs.length < length then
    let last := match es.getLast? with
      | some (.charClass n) => (classMembers n).getLast?.getD ' '
      | some e => e.chars.getLast?.getD ' '
      | none => ' '
    cs ++ List.replicate (length - cs.length) last
  else cs

/-- Squeezes each run of one character of `inSet` into one. -/
def squeeze (inSet : Char → Bool) (cs : List Char) : List Char :=
  (cs.foldl (fun (acc : List Char × Option Char) c =>
    if acc.2 == some c then acc else (c :: acc.1, if inSet c then some c else none)) ([], none)).1.reverse

end Translate

open Translate in
/-- `tr`: maps, deletes or squeezes characters. -/
def tr : Batch := fun fs call =>
  let prog := call.name
  match getopt ['c', 'C', 'd', 's', 't'] [] [("complement", 'c'), ("delete", 'd'),
      ("squeeze-repeats", 's'), ("truncate-set1", 't')] call.args with
  | .error e => failed fs (e.message prog) 1
  | .ok (opts, ops) =>
  let help := "Try '" ++ prog ++ " --help' for more information.\n"
  let delete := hasOpt opts 'd'
  let sq := hasOpt opts 's'
  let complement := hasOpt opts 'c' || hasOpt opts 'C'
  let minOps := if delete == sq then 2 else 1
  let maxOps := if !delete || sq then 2 else 1
  if ops.length < minOps then
    if ops.isEmpty then failed fs (prog ++ ": missing operand\n" ++ help) 1
    else failed fs (prog ++ ": missing operand after " ++ Quoted.value (ops.getLast?.getD "") ++ "\n" ++
      (if sq then "Two strings must be given when both deleting and squeezing repeats.\n"
       else "Two strings must be given when translating.\n") ++ help) 1
  else if ops.length > maxOps then
    failed fs (prog ++ ": extra operand " ++ Quoted.value (ops.getD maxOps "") ++ "\n" ++
      (if ops.length == 2 then "Only one string may be given when deleting without squeezing repeats.\n" else "") ++
      help) 1
  else
  let translating := ops.length == 2 && !delete
  let (r1, w1) := readSet (ops.headD "")
  let (r2, w2) := if ops.length == 2 then readSet (ops.getD 1 "") else (.ok [], "")
  let warnings := String.join ([w1, w2].filter (!·.isEmpty) |>.map (fun w => prog ++ ": " ++ w ++ "\n"))
  let refuse := fun (msg : String) => failed fs (warnings ++ prog ++ ": " ++ msg ++ "\n") 1
  match r1, r2 with
  | .error m, _ => refuse m
  | _, .error m => refuse m
  | .ok s1, .ok s2 =>
  let set1 := s1.flatMap Element.chars
  let distinct := (((List.range 256).map Char.ofNat).filter set1.contains).length
  let len1 := if complement then 256 - distinct else setLength s1
  let isClass := fun (e : Element) => match e with
    | .charClass _ => true
    | _ => false
  let checks : Option String :=
    if fillers s1 > 0 then some "the [c*] repeat construct may not appear in string1"
    else if ops.length == 2 && fillers s2 > 1 then some "only one [c*] repeat construct may appear in string2"
    else if translating && s2.any (fun e => match e with
        | .equiv _ => true
        | _ => false) then some "[=c=] expressions may not appear in string2 when translating"
    else if translating && s2.any (fun e => match e with
        | .charClass n => n != "upper" && n != "lower"
        | _ => false) then
      some "when translating, the only character classes that may appear in\nstring2 are 'upper' and 'lower'"
    else if translating && !hasOpt opts 't' && len1 > setLength s2 && fillers s2 == 0 && setLength s2 == 0 then
      some "when not truncating set1, string2 must be non-empty"
    else if translating && complement && s1.any isClass &&
        !(let cs := stretched s2 len1 true; cs.length == len1 && (cs.eraseDups.length ≤ 1)) then
      some "when translating with complemented character classes,\nstring2 must map all characters in the domain to one"
    else if !translating && ops.length == 2 && fillers s2 > 0 then
      some "the [c*] construct may appear in string2 only when translating"
    else none
  match checks with
  | some msg => refuse msg
  | none =>
  match call.input with
  | .error e => { err := warnings ++ prog ++ ": read error: " ++ e.describe ++ "\n", ending := .exited 1, fs,
                  readInput := true }
  | .ok text =>
  let inSet1 := fun (c : Char) => set1.contains c != complement
  let cs := text.toList
  let out :=
    if !translating then
      let cs := if delete then cs.filter (fun c => !inSet1 c) else cs
      if sq then
        let squeezeSet : Char → Bool := if delete then (fun c => (s2.flatMap Element.chars).contains c) else inSet1
        squeeze squeezeSet cs
      else cs
    else
      let set2 := stretched s2 len1 (!hasOpt opts 't')
      let table : List (Char × Char) :=
        if complement then
          let domain := ((List.range 256).map Char.ofNat).filter (fun c => !set1.contains c)
          domain.zip set2
        else (set1.zip set2).reverse
      let mapped := cs.map fun c => (table.lookup c).getD c
      if sq then squeeze (fun c => set2.contains c) mapped else mapped
  { out := String.ofList out, err := warnings, fs, readInput := true }

end Conch.Programs
