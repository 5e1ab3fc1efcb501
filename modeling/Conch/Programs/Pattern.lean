/-!
# Regular expressions

The patterns of `grep`, `sed` and `expr`, in their two spellings: basic (`\(`, `\)`, `\|`,
`\{m,n\}`, `\+` and `\?` are the operators) and extended (`(`, `)`, `|`, `{m,n}`, `+` and `?`
are).  Both have `.`, bracket expressions with ranges, named classes, equivalence classes
and collating symbols, `*`, the anchors `^` and `$`, the word anchors `\<`, `\>`, `\b` and
`\B`, the buffer anchors ``\` `` and `\'`, the classes `\w`, `\W`, `\s` and `\S`, and back
references `\1` to `\9`.

*Reading.*  A pattern is read as the system's regular expression compiler reads it, and
refused with its messages.  Where the spellings leave a choice, a `Dialect` makes it: what a
repetition operator does where an expression starts (it is a plain character in basic
patterns; `grep -E` skips it and `sed -E` refuses it), whether a malformed interval is plain
text, and whether an unmatched `)` is.  `^` is an anchor at the start of the pattern, of a
group or of an alternative (anywhere, in extended patterns), `$` at the end of one; elsewhere
they are plain characters.  An anchor takes no repetition: a `*` after it starts the next
expression.  Ignoring case folds the pattern's characters and the text to upper case.

*Matching.*  The match of a pattern is the leftmost one, and among those the longest.  Its
end is found by computing, for each position, the set of positions where a match starting
there can end; a repetition iterates its body until no new end appears, so this is total
and needs no backtracking.  The groups of the match are then those of the first way of
matching, trying alternatives left to right and repetitions greedily, that ends there.  A
pattern with back references has no end sets, and is matched by trying ends from the
longest down.

Main definitions: `Pattern.Re`, `Pattern.parse`, `Pattern.firstMatch`, `Pattern.allMatches`.
-/

namespace Conch.Pattern

/-- One item of a bracket expression. -/
inductive Item where
  | single (c : Char)
  | range (lo hi : Char)
  | named (name : String)
  deriving Repr, BEq, Inhabited

/-- A position a pattern can require without reading a character. -/
inductive Anchor where
  /-- The start of the line (after a newline too, when lines are told apart). -/
  | lineStart
  /-- The end of the line (before a newline too, when lines are told apart). -/
  | lineEnd
  /-- The start of the text. -/
  | textStart
  /-- The end of the text. -/
  | textEnd
  /-- Between a character that is not part of a word and one that is. -/
  | wordStart
  /-- Between a word character and one that is not. -/
  | wordEnd
  /-- At either edge of a word. -/
  | wordEdge
  /-- Anywhere but at the edge of a word. -/
  | inside
  deriving Repr, BEq, DecidableEq, Inhabited

/-- A regular expression. -/
inductive Re where
  /-- The empty text. -/
  | empty
  /-- One character. -/
  | lit (c : Char)
  /-- Any character. -/
  | any
  /-- A character of a bracket expression, or not of it. -/
  | bracket (negated : Bool) (items : List Item)
  /-- A position. -/
  | anchor (a : Anchor)
  /-- One expression, then another. -/
  | seq (a b : Re)
  /-- One expression or another. -/
  | alt (a b : Re)
  /-- Between `lo` and `hi` (no bound when absent) repetitions. -/
  | rep (r : Re) (lo : Nat) (hi : Option Nat)
  /-- A group, numbered from 1 in the order of the opening parentheses. -/
  | group (n : Nat) (r : Re)
  /-- The text the group `n` matched, again. -/
  | backref (n : Nat)
  deriving Repr, Inhabited

namespace Re

/-- The number of nodes of an expression. -/
def size : Re → Nat
  | .seq a b | .alt a b => a.size + b.size + 1
  | .rep r _ _ | .group _ r => r.size + 1
  | _ => 1

/-- Whether an expression refers back to a group. -/
def hasBackref : Re → Bool
  | .backref _ => true
  | .seq a b | .alt a b => a.hasBackref || b.hasBackref
  | .rep r _ _ | .group _ r => r.hasBackref
  | _ => false

/-- The largest finite bound of a repetition in an expression. -/
def maxBound : Re → Nat
  | .seq a b | .alt a b => max a.maxBound b.maxBound
  | .rep r lo hi => max (max lo (hi.getD 0)) r.maxBound
  | .group _ r => r.maxBound
  | _ => 0

/-- The number of groups of an expression. -/
def groups : Re → Nat
  | .seq a b | .alt a b => max a.groups b.groups
  | .rep r _ _ => r.groups
  | .group n r => max n r.groups
  | _ => 0

end Re

/-- Whether a character belongs to a named class, in the C locale. -/
def inClass (name : String) (c : Char) : Bool :=
  match name with
  | "alpha" => c.isAlpha
  | "digit" => c.isDigit
  | "alnum" => c.isAlphanum
  | "upper" => c.isUpper
  | "lower" => c.isLower
  | "space" => c == ' ' || c == '\t' || c == '\n' || c == '\r' || c.toNat == 11 || c.toNat == 12
  | "blank" => c == ' ' || c == '\t'
  | "punct" => c.toNat > 32 && c.toNat < 127 && !c.isAlphanum
  | "print" => c.toNat ≥ 32 && c.toNat < 127
  | "graph" => c.toNat > 32 && c.toNat < 127
  | "cntrl" => c.toNat < 32 || c.toNat == 127
  | "xdigit" => c.isDigit || ('a' ≤ c && c ≤ 'f') || ('A' ≤ c && c ≤ 'F')
  | _ => false

/-- The names of the classes. -/
def classNames : List String :=
  ["alpha", "upper", "lower", "digit", "xdigit", "space", "print", "punct", "graph", "cntrl",
   "blank", "alnum"]

/-- Whether a character belongs to a word. -/
def isWordChar (c : Char) : Bool := c.isAlphanum || c == '_'

/-- Whether a character matches an item of a bracket expression. -/
def Item.matches (c : Char) : Item → Bool
  | .single d => c == d
  | .range lo hi => lo ≤ c && c ≤ hi
  | .named n => inClass n c

/-! ## The text being matched -/

/-- A text a pattern is matched against. -/
structure Subject where
  /-- The characters, folded to upper case when case is ignored. -/
  cs : Array Char
  /-- Whether newlines separate lines for `^` and `$`. -/
  multiline : Bool := false

/-- The text a pattern is matched against, folded when case is ignored. -/
def Subject.of (icase : Bool) (s : String) (multiline : Bool := false) : Subject :=
  { cs := (if icase then s.toList.map Char.toUpper else s.toList).toArray, multiline }

/-- Whether the character at `i` exists and belongs to a word. -/
def Subject.wordAt (s : Subject) (i : Nat) : Bool := (s.cs[i]?.map isWordChar).getD false

/-- Whether an anchor holds at position `i`. -/
def Subject.holds (s : Subject) (i : Nat) : Anchor → Bool
  | .lineStart => i == 0 || (s.multiline && s.cs[i - 1]? == some '\n')
  | .lineEnd => i == s.cs.size || (s.multiline && s.cs[i]? == some '\n')
  | .textStart => i == 0
  | .textEnd => i == s.cs.size
  | .wordStart => (i == 0 || !s.wordAt (i - 1)) && s.wordAt i
  | .wordEnd => i > 0 && s.wordAt (i - 1) && !s.wordAt i
  | .wordEdge => (i > 0 && s.wordAt (i - 1)) != s.wordAt i
  | .inside => (i > 0 && s.wordAt (i - 1)) == s.wordAt i

/-- Whether the character at `i` matches a one-character expression. -/
def Subject.charAt (s : Subject) (i : Nat) (test : Char → Bool) : Bool :=
  match s.cs[i]? with
  | some c => test c
  | none => false

/-! ## Where matches end -/

/-- Positions reachable from `start` by at least `lo` and at most `hi` steps of `step`. -/
def repeatEnds (step : Nat → List Nat) (lo : Nat) (hi : Option Nat) (bound : Nat)
    (start : List Nat) : List Nat :=
  let rounds := match hi with
    | some h => h
    | none => lo + bound + 1
  let rec go : Nat → Nat → List Nat → List Nat → List Nat
    | 0, _, _, acc => acc
    | fuel + 1, k, frontier, acc =>
        let next := (frontier.flatMap step).eraseDups
        let acc' := if k + 1 ≥ lo then (acc ++ next).eraseDups else acc
        if next.isEmpty || (hi.isNone && k + 1 > lo && next.all (acc.contains ·)) then acc'
        else go fuel (k + 1) next acc'
  go rounds 0 start (if lo == 0 then start else [])

/-- The positions where a match of `r` starting at position `i` can end.  A back reference
has no such set; it ends nowhere here. -/
def ends (s : Subject) : Re → Nat → List Nat
  | .empty, i => [i]
  | .lit c, i => if s.charAt i (· == c) then [i + 1] else []
  | .any, i => if i < s.cs.size then [i + 1] else []
  | .bracket neg items, i => if s.charAt i (fun d => items.any (·.matches d) != neg) then [i + 1] else []
  | .anchor a, i => if s.holds i a then [i] else []
  | .seq a b, i => ((ends s a i).flatMap (fun j => ends s b j)).eraseDups
  | .alt a b, i => (ends s a i ++ ends s b i).eraseDups
  | .rep r lo hi, i => repeatEnds (fun j => ends s r j) lo hi s.cs.size [i]
  | .group _ r, i => ends s r i
  | .backref _, _ => []

/-! ## The groups of a match -/

/-- Where each group matched, the latest first: its number, start and end. -/
abbrev Groups := List (Nat × Nat × Nat)

/-- Where a group matched, if it took part. -/
def groupSpan (gs : Groups) (n : Nat) : Option (Nat × Nat) :=
  (gs.find? (·.1 == n)).map (·.2)

/-- Tries the ways `r` can match from `i`, alternatives left to right and repetitions
greedily, handing each end and the groups so far to `k`; the first answer `k` gives is the
answer.  `fuel` bounds the depth of the search. -/
def walk {α : Type} (s : Subject) : Nat → Re → Nat → Groups → (Nat → Groups → Option α) → Option α
  | 0, _, _, _, _ => none
  | fuel + 1, r, i, gs, k =>
      match r with
      | .empty => k i gs
      | .lit c => if s.charAt i (· == c) then k (i + 1) gs else none
      | .any => if i < s.cs.size then k (i + 1) gs else none
      | .bracket neg items =>
          if s.charAt i (fun d => items.any (·.matches d) != neg) then k (i + 1) gs else none
      | .anchor a => if s.holds i a then k i gs else none
      | .seq a b => walk s fuel a i gs (fun j gs' => walk s fuel b j gs' k)
      | .alt a b =>
          match walk s fuel a i gs k with
          | some v => some v
          | none => walk s fuel b i gs k
      | .rep body lo hi =>
          let more :=
            if hi == some 0 then none
            else walk s fuel body i gs (fun j gs' =>
              if j == i && lo == 0 then none
              else walk s fuel (.rep body (lo - 1) (hi.map (· - 1))) j gs' k)
          match more with
          | some v => some v
          | none => if lo == 0 then k i gs else none
      | .group n body =>
          walk s fuel body i gs (fun j gs' => k j ((n, i, j) :: gs'.filter (·.1 != n)))
      | .backref n =>
          match groupSpan gs n with
          | some (a, b) =>
              let len := b - a
              if (List.range len).all (fun t => s.cs[a + t]? == s.cs[i + t]? && i + t < s.cs.size)
              then k (i + len) gs else none
          | none => none

/-- Enough fuel to walk `r` over the subject. -/
def walkFuel (s : Subject) (r : Re) : Nat := (r.size + 2) * (s.cs.size + r.maxBound + 2) * 2

/-- The groups of the first way `r` matches from `i` to exactly `e`. -/
def groupsTo (s : Subject) (r : Re) (i e : Nat) : Option Groups :=
  walk s (walkFuel s r) r i [] (fun j gs => if j == e then some gs else none)

/-- The longest match of `r` starting at `i`: its end and groups. -/
def longestAt (s : Subject) (r : Re) (accept : Nat → Bool) (i : Nat) : Option (Nat × Groups) :=
  if r.hasBackref then
    let rec down : Nat → Nat → Option (Nat × Groups)
      | 0, _ => none
      | fuel + 1, e =>
          match (if accept e then groupsTo s r i e else none) with
          | some gs => some (e, gs)
          | none => if e ≤ i then none else down fuel (e - 1)
    down (s.cs.size + 2) s.cs.size
  else
    match ((ends s r i).filter accept).max? with
    | some e => (groupsTo s r i e).map (e, ·)
    | none => none

/-- The leftmost-longest match of `r` starting at or after `start` whose start and end
`accept` allows: its start, end and groups. -/
def firstMatch (s : Subject) (r : Re) (start : Nat) (accept : Nat → Nat → Bool := fun _ _ => true) :
    Option (Nat × Nat × Groups) :=
  let rec go : Nat → Nat → Option (Nat × Nat × Groups)
    | 0, _ => none
    | fuel + 1, i =>
        if i > s.cs.size then none
        else
          match longestAt s r (accept i) i with
          | some (e, gs) => some (i, e, gs)
          | none => go fuel (i + 1)
  go (s.cs.size + 2) start

/-- Whether `r` matches somewhere with a start and end that `accept` allows. -/
def search (s : Subject) (r : Re) (accept : Nat → Nat → Bool := fun _ _ => true) : Bool :=
  if r.hasBackref then (firstMatch s r 0 accept).isSome
  else (List.range (s.cs.size + 1)).any (fun i => (ends s r i).any (accept i))

/-- The successive leftmost-longest matches of `r`, each starting where the one before ended
(one further after an empty match): their starts and ends. -/
def allMatches (s : Subject) (r : Re) (accept : Nat → Nat → Bool := fun _ _ => true) :
    List (Nat × Nat) :=
  let rec go : Nat → Nat → List (Nat × Nat)
    | 0, _ => []
    | fuel + 1, i =>
        match firstMatch s r i accept with
        | some (a, e, _) => (a, e) :: go fuel (if e > a then e else a + 1)
        | none => []
  go (s.cs.size + 2) 0

/-! ## Reading a pattern -/

/-- How a pattern is spelled and how its odd corners read. -/
structure Dialect where
  /-- Extended operators, and anchors wherever they stand. -/
  extended : Bool := false
  /-- A repetition operator where an expression starts is refused. -/
  refuseLeadingRepeat : Bool := false
  /-- An interval where an expression starts, or a repetition right after another, is
  refused. -/
  strictRepeat : Bool := false
  /-- A malformed interval is plain text. -/
  lenientInterval : Bool := false
  /-- An unmatched closing parenthesis is a plain character. -/
  lenientClose : Bool := false
  /-- Letters match either case. -/
  icase : Bool := false
  deriving Repr

/-- Why a pattern cannot be read. -/
inductive PatternError where
  | badPattern
  | collation
  | badClass
  | trailingBackslash
  | badBackref
  | unmatchedBracket
  | unmatchedOpen
  | unmatchedBrace
  | badInterval
  | badRange
  | badRepeat
  | tooBig
  | unmatchedClose
  deriving Repr, DecidableEq

/-- The message a bad pattern is refused with. -/
def PatternError.message : PatternError → String
  | .badPattern => "Invalid regular expression"
  | .collation => "Invalid collation character"
  | .badClass => "Invalid character class name"
  | .trailingBackslash => "Trailing backslash"
  | .badBackref => "Invalid back reference"
  | .unmatchedBracket => "Unmatched [, [^, [:, [., or [="
  | .unmatchedOpen => "Unmatched ( or \\("
  | .unmatchedBrace => "Unmatched \\\x7b"
  | .badInterval => "Invalid content of \\\x7b\\\x7d"
  | .badRange => "Invalid range end"
  | .badRepeat => "Invalid preceding regular expression"
  | .tooBig => "Regular expression too big"
  | .unmatchedClose => "Unmatched ) or \\)"

/-- A lexical unit of a pattern. -/
inductive Tok where
  | char
  | period
  | openBracket
  | openGroup
  | closeGroup
  | bar
  | star
  | plus
  | question
  | openInterval
  | closeInterval
  | backref (n : Nat)
  | anchor (a : Anchor)
  | word (negated : Bool)
  | space (negated : Bool)
  | backslash
  | eoi
  deriving Repr, BEq, Inhabited

/-- The unit at the front of `cs` when `c2` follows a backslash, and its character. -/
def escapeTok (d : Dialect) (c2 : Char) : Tok :=
  match c2 with
  | '|' => if d.extended then .char else .bar
  | '<' => .anchor .wordStart
  | '>' => .anchor .wordEnd
  | 'b' => .anchor .wordEdge
  | 'B' => .anchor .inside
  | 'w' => .word false
  | 'W' => .word true
  | 's' => .space false
  | 'S' => .space true
  | '`' => .anchor .textStart
  | '\'' => .anchor .textEnd
  | '(' => if d.extended then .char else .openGroup
  | ')' => if d.extended then .char else .closeGroup
  | '+' => if d.extended then .char else .plus
  | '?' => if d.extended then .char else .question
  | '{' => if d.extended then .char else .openInterval
  | '}' => if d.extended then .char else .closeInterval
  | c =>
      if '1' ≤ c && c ≤ '9' then .backref (c.toNat - 48) else .char

/-- The reader's state: the current unit, its character, the pattern after it and the
position there, the groups opened so far and those closed. -/
structure Reader where
  tok : Tok := .eoi
  ch : Char := ' '
  rest : List Char
  pos : Nat := 0
  opened : Nat := 0
  closed : List Nat := []
  deriving Inhabited

/-- Reads the next unit: `caret` says whether a `^` here starts an expression. -/
def Reader.fetch (d : Dialect) (caret : Bool) (r : Reader) : Reader :=
  let fold := fun (c : Char) => if d.icase then c.toUpper else c
  match r.rest with
  | [] => { r with tok := .eoi, ch := ' ' }
  | '\\' :: [] => { r with tok := .backslash, ch := '\\', rest := [], pos := r.pos + 1 }
  | '\\' :: c2 :: more =>
      { r with tok := escapeTok d c2, ch := fold c2, rest := more, pos := r.pos + 2 }
  | c :: more =>
      let tok : Tok := match c with
        | '|' => if d.extended then .bar else .char
        | '*' => .star
        | '+' => if d.extended then .plus else .char
        | '?' => if d.extended then .question else .char
        | '{' => if d.extended then .openInterval else .char
        | '}' => if d.extended then .closeInterval else .char
        | '(' => if d.extended then .openGroup else .char
        | ')' => if d.extended then .closeGroup else .char
        | '[' => .openBracket
        | '.' => .period
        | '^' => if d.extended || caret || r.pos == 0 then .anchor .lineStart else .char
        | '$' =>
            if d.extended || more.isEmpty then .anchor .lineEnd
            else
              match more with
              | '\\' :: '|' :: _ | '\\' :: ')' :: _ => .anchor .lineEnd
              | _ => .char
        | _ => .char
      { r with tok, ch := fold c, rest := more, pos := r.pos + 1 }

/-! ### Bracket expressions -/

/-- A unit inside a bracket expression. -/
inductive BTok where
  | char (c : Char)
  | openColl
  | openEquiv
  | openClass
  | dash
  | close
  | caret
  | eoi
  deriving BEq, Inhabited

/-- The unit at the front of a bracket expression's text, and its length. -/
def bracketTok : List Char → BTok × Nat
  | [] => (.eoi, 0)
  | '[' :: '.' :: _ => (.openColl, 2)
  | '[' :: '=' :: _ => (.openEquiv, 2)
  | '[' :: ':' :: _ => (.openClass, 2)
  | '-' :: _ => (.dash, 1)
  | ']' :: _ => (.close, 1)
  | '^' :: _ => (.caret, 1)
  | c :: _ => (.char c, 1)

/-- One element of a bracket expression. -/
inductive Elem where
  | char (c : Char)
  | coll (name : List Char)
  | equiv (name : List Char)
  | named (name : List Char)
  deriving Inhabited

/-- Reads the name of `[.x.]`, `[=x=]` or `[:x:]` after its opening, up to `delim` and `]`:
the name and the text after it. -/
def bracketName (delim : Char) : Nat → List Char → List Char → Except PatternError (List Char × List Char)
  | 0, _, _ => .error .unmatchedBracket
  | _, [], _ => .error .unmatchedBracket
  | fuel + 1, c :: rest, acc =>
      if rest.isEmpty then .error .unmatchedBracket
      else if c == delim && rest.head? == some ']' then .ok (acc, rest.drop 1)
      else if acc.length ≥ 31 then .error .unmatchedBracket
      else bracketName delim fuel rest (acc ++ [c])

/-- Reads one element at a unit of length `len`; a `-` that is no range is allowed only
first or last. -/
def bracketElem (t : BTok) (len : Nat) (acceptDash : Bool) (cs : List Char) :
    Except PatternError (Elem × List Char) :=
  let rest := cs.drop len
  match t with
  | .openColl => (bracketName '.' 40 rest []).map fun (n, after) => (.coll n, after)
  | .openEquiv => (bracketName '=' 40 rest []).map fun (n, after) => (.equiv n, after)
  | .openClass => (bracketName ':' 40 rest []).map fun (n, after) => (.named n, after)
  | .dash =>
      if !acceptDash && (bracketTok rest).1 != .close then .error .badRange
      else .ok (.char '-', rest)
  | .close => .ok (.char ']', rest)
  | .caret => .ok (.char '^', rest)
  | .char c => .ok (.char c, rest)
  | .eoi => .ok (.char ' ', rest)

/-- The one character of a collating symbol or equivalence class. -/
def singleOf (name : List Char) : Except PatternError Char :=
  match name with
  | [c] => .ok c
  | _ => .error .collation

/-- The items of an element standing alone. -/
def elemItem (d : Dialect) : Elem → Except PatternError Item
  | .char c => .ok (.single c)
  | .coll n | .equiv n => (singleOf n).map .single
  | .named n =>
      let name := String.ofList n
      if !classNames.contains name then .error .badClass
      else if d.icase && (name == "upper" || name == "lower") then .ok (.named "alpha")
      else .ok (.named name)

/-- The character an element stands for at the end of a range. -/
def rangeEnd : Elem → Except PatternError Char
  | .char c => .ok c
  | .coll n => singleOf n
  | _ => .error .badRange

/-- Reads the elements of a bracket expression up to its `]`.  `fuel` bounds them. -/
def bracketItems (d : Dialect) : Nat → Bool → List Char → List Item →
    Except PatternError (List Item × List Char)
  | 0, _, _, _ => .error .unmatchedBracket
  | fuel + 1, first, cs, acc =>
      let fold := fun (c : Char) => if d.icase then c.toUpper else c
      let (t, len) := bracketTok cs
      let t := if first && t == .close then BTok.char ']' else t
      match bracketElem t len first cs with
      | .error e => .error e
      | .ok (start, rest) =>
          let isClass := match start with
            | .named _ | .equiv _ => true
            | _ => false
          let (t2, len2) := bracketTok rest
          let range : Except PatternError (Option (List Char)) :=
            if isClass then .ok none
            else if t2 == .eoi then .error .unmatchedBracket
            else if t2 == .dash then
              let after := rest.drop len2
              let (t3, _) := bracketTok after
              if t3 == .eoi then .error .unmatchedBracket
              else if t3 == .close then .ok none
              else .ok (some after)
            else .ok none
          match range with
          | .error e => .error e
          | .ok (some after) =>
              let (t3, len3) := bracketTok after
              match bracketElem t3 len3 true after with
              | .error e => .error e
              | .ok (stop, rest') =>
                  match rangeEnd start, rangeEnd stop with
                  | .ok lo, .ok hi =>
                      if fold lo > fold hi then .error .badRange
                      else
                        let acc := acc ++ [.range (fold lo) (fold hi)]
                        match (bracketTok rest').1 with
                        | .eoi => .error .unmatchedBracket
                        | .close => .ok (acc, rest'.drop 1)
                        | _ => bracketItems d fuel false rest' acc
                  | .error e, _ => .error e
                  | _, .error e => .error e
          | .ok none =>
              match elemItem d start with
              | .error e => .error e
              | .ok item =>
                  let item := match item with
                    | .single c => Item.single (fold c)
                    | other => other
                  let acc := acc ++ [item]
                  match (bracketTok rest).1 with
                  | .eoi => .error .unmatchedBracket
                  | .close => .ok (acc, rest.drop 1)
                  | _ => bracketItems d fuel false rest acc

/-- Reads a bracket expression after its `[`: the expression and the text after its `]`. -/
def bracket (d : Dialect) (cs : List Char) : Except PatternError (Re × List Char) :=
  match bracketTok cs with
  | (.eoi, _) => .error .badPattern
  | (.caret, _) =>
      let rest := cs.drop 1
      if rest.isEmpty then .error .badPattern
      else (bracketItems d (rest.length + 1) true rest []).map fun (items, after) => (.bracket true items, after)
  | _ => (bracketItems d (cs.length + 1) true cs []).map fun (items, after) => (.bracket false items, after)

/-! ### Expressions -/

/-- The largest count an interval may give. -/
def dupMax : Nat := 32767

/-- Reads the number of an interval bound, up to a `,` or the closing: `none` for no digits,
`some none` for something that is not a number, and the reader at the unit that ended it.
`none` as the outer answer means the pattern ended first. -/
def fetchNumber (d : Dialect) : Nat → Option (Option Nat) → Reader → Option (Option (Option Nat) × Reader)
  | 0, _, _ => none
  | fuel + 1, num, r =>
      let r := r.fetch d false
      if r.tok == .eoi then none
      else if r.tok == .closeInterval || r.ch == ',' then some (num, r)
      else
        let num' : Option (Option Nat) :=
          if r.tok != .char || !r.ch.isDigit || num == some none then some none
          else match num with
            | none => some (some (r.ch.toNat - 48))
            | some (some n) => some (some (min (dupMax + 1) (n * 10 + (r.ch.toNat - 48))))
            | some none => some none
        fetchNumber d fuel num' r

/-- What reading a repetition gave: the expression it makes, or the element unchanged with
the `{` taken back as a plain character. -/
inductive Dup where
  | made (r : Re) (next : Reader)
  | back (next : Reader)

/-- Reads the repetition operator at the reader, applied to `elem`. -/
def parseDup (d : Dialect) (elem : Re) (r : Reader) : Except PatternError Dup :=
  if r.tok == .openInterval then
    let start := r
    let rollback : Except PatternError Dup :=
      .ok (.back { start with tok := .char, ch := '{' })
    let fuel := r.rest.length + 2
    match fetchNumber d fuel none r with
    | none =>
        if d.lenientInterval then rollback else .error .unmatchedBrace
    | some (lo, r1) =>
        let lo : Option (Option Nat) := match lo with
          | none => if r1.tok == .char && r1.ch == ',' then some (some 0) else none
          | other => other
        match lo with
        | none => .error .badInterval
        | some lo =>
            let hi : Option (Option (Option Nat) × Reader) :=
              match lo with
              | none => some (some none, r1)
              | some l =>
                  if r1.tok == .closeInterval then some (some (some l), r1)
                  else if r1.tok == .char && r1.ch == ',' then
                    (fetchNumber d fuel none r1).map fun (h, r2) =>
                      (match h with
                        | none => (some none, r2)
                        | some none => (none, r2)
                        | some (some n) => (some (some n), r2))
                  else some (none, r1)
            match hi with
            | none => if d.lenientInterval then rollback else .error .unmatchedBrace
            | some (hi, r2) =>
                match lo, hi with
                | some l, some h =>
                    if (match h with
                        | some hv => l > hv
                        | none => false) || r2.tok != .closeInterval then .error .badInterval
                    else if (h.getD l) > dupMax then .error .tooBig
                    else
                      let r3 := r2.fetch d false
                      if l == 0 && h == some 0 then .ok (.made .empty r3)
                      else .ok (.made (.rep elem l h) r3)
                | _, _ =>
                    if d.lenientInterval then rollback
                    else if r2.tok == .eoi then .error .unmatchedBrace else .error .badInterval
  else
    let (lo, hi) : Nat × Option Nat := match r.tok with
      | .plus => (1, none)
      | .question => (0, some 1)
      | _ => (0, none)
    .ok (.made (.rep elem lo hi) (r.fetch d false))

/-- A sequence of two expressions, leaving out an empty one. -/
def seqOf (a b : Re) : Re :=
  match a, b with
  | .empty, b => b
  | a, .empty => a
  | a, b => .seq a b

mutual

/-- Reads alternatives, at group depth `nest`. -/
def parseAlts (d : Dialect) : Nat → Nat → Reader → Except PatternError (Re × Reader)
  | 0, _, _ => .error .tooBig
  | fuel + 1, nest, r => do
      let before := r.closed
      let (tree, r) ← parseBranch d fuel nest r
      moreAlts d fuel nest before tree r

/-- Reads the alternatives after the first, each starting with the groups closed before the
first. -/
def moreAlts (d : Dialect) : Nat → Nat → List Nat → Re → Reader → Except PatternError (Re × Reader)
  | 0, _, _, _, _ => .error .tooBig
  | fuel + 1, nest, before, tree, r =>
      if r.tok != .bar then .ok (tree, r)
      else
        let r := r.fetch d true
        if r.tok != .bar && r.tok != .eoi && (nest == 0 || r.tok != .closeGroup) then do
          let accumulated := r.closed
          let (branch, r') ← parseBranch d fuel nest { r with closed := before }
          moreAlts d fuel nest before (.alt tree branch)
            { r' with closed := (accumulated ++ r'.closed).eraseDups }
        else moreAlts d fuel nest before (.alt tree .empty) r

/-- Reads a sequence of expressions up to a `|`, the end, or a closing parenthesis inside a
group. -/
def parseBranch (d : Dialect) : Nat → Nat → Reader → Except PatternError (Re × Reader)
  | 0, _, _ => .error .tooBig
  | fuel + 1, nest, r => do
      let (tree, r) ← parseExpr d fuel nest r
      branchRest d fuel nest tree r

/-- Reads the rest of a sequence. -/
def branchRest (d : Dialect) : Nat → Nat → Re → Reader → Except PatternError (Re × Reader)
  | 0, _, _, _ => .error .tooBig
  | fuel + 1, nest, tree, r =>
      if r.tok == .bar || r.tok == .eoi || (nest != 0 && r.tok == .closeGroup) then .ok (tree, r)
      else do
        let (e, r) ← parseExpr d fuel nest r
        branchRest d fuel nest (seqOf tree e) r

/-- Reads one expression with its repetitions. -/
def parseExpr (d : Dialect) : Nat → Nat → Reader → Except PatternError (Re × Reader)
  | 0, _, _ => .error .tooBig
  | fuel + 1, nest, r =>
      let plain : Reader → Re × Reader := fun r => (.lit r.ch, r.fetch d false)
      let atom : Except PatternError (Option (Re × Reader)) :=
        match r.tok with
        | .char => .ok (some (plain r))
        | .openGroup => (parseGroup d fuel nest r).map some
        | .openBracket =>
            (bracket d r.rest).map fun (re, after) =>
              some (re, { r with rest := after, pos := r.pos + (r.rest.length - after.length) }.fetch d false)
        | .backref n =>
            if r.closed.contains n then .ok (some (.backref n, r.fetch d false)) else .error .badBackref
        | .openInterval | .star | .plus | .question =>
            if r.tok == .openInterval && d.strictRepeat then .error .badRepeat
            else if d.refuseLeadingRepeat && !d.strictRepeat then .error .badRepeat
            else if d.extended then .ok none
            else .ok (some (plain r))
        | .closeGroup =>
            if d.lenientClose then .ok (some (plain r)) else .error .unmatchedClose
        | .closeInterval => .ok (some (plain r))
        | .anchor a => .ok (some (.anchor a, r.fetch d false))
        | .period => .ok (some (.any, r.fetch d false))
        | .word neg => .ok (some (.bracket neg [.named "alnum", .single '_'], r.fetch d false))
        | .space neg => .ok (some (.bracket neg [.named "space"], r.fetch d false))
        | .bar | .eoi => .ok (some (.empty, r))
        | .backslash => .error .trailingBackslash
      match atom with
      | .error e => .error e
      | .ok none => parseExpr d fuel nest (r.fetch d false)
      | .ok (some (tree, r')) =>
          match r.tok with
          | .anchor _ | .bar | .eoi => .ok (tree, r')
          | _ => dupLoop d fuel tree r'

/-- Applies the repetition operators that follow an expression. -/
def dupLoop (d : Dialect) : Nat → Re → Reader → Except PatternError (Re × Reader)
  | 0, _, _ => .error .tooBig
  | fuel + 1, tree, r =>
      if r.tok == .star || r.tok == .plus || r.tok == .question || r.tok == .openInterval then
        match parseDup d tree r with
        | .error e => .error e
        | .ok (.back r') => .ok (tree, r')
        | .ok (.made tree' r') =>
            if d.strictRepeat && (r'.tok == .star || r'.tok == .openInterval) then .error .badRepeat
            else dupLoop d fuel tree' r'
      else .ok (tree, r)

/-- Reads a group after its opening parenthesis. -/
def parseGroup (d : Dialect) : Nat → Nat → Reader → Except PatternError (Re × Reader)
  | 0, _, _ => .error .tooBig
  | fuel + 1, nest, r =>
      let n := r.opened + 1
      let r := { r with opened := n }.fetch d true
      let body : Except PatternError (Re × Reader) :=
        if r.tok == .closeGroup then .ok (.empty, r)
        else
          match parseAlts d fuel (nest + 1) r with
          | .error e => .error e
          | .ok (tree, r') => if r'.tok != .closeGroup then .error .unmatchedOpen else .ok (tree, r')
      body.map fun (tree, r') =>
        (.group n tree, { r' with closed := if n ≤ 9 then r'.closed ++ [n] else r'.closed }.fetch d false)

end

/-- Reads a pattern in a dialect. -/
def parse (d : Dialect) (pattern : String) : Except PatternError Re :=
  let r : Reader := { rest := pattern.toList }
  let r := r.fetch d true
  match parseAlts d (4 * pattern.length + 8) 0 r with
  | .error e => .error e
  | .ok (tree, r') =>
      if r'.tok == .eoi then .ok tree
      else if r'.tok == .closeGroup then .error .unmatchedClose
      else .ok tree

/-- A fixed text as an expression. -/
def literal (icase : Bool) (s : String) : Re :=
  (s.toList.map fun c => Re.lit (if icase then c.toUpper else c)).foldr seqOf .empty

/-- The basic patterns of `grep`. -/
def Dialect.grepBasic (icase : Bool) : Dialect := { icase }

/-- The extended patterns of `grep -E`. -/
def Dialect.grepExtended (icase : Bool) : Dialect :=
  { extended := true, lenientInterval := true, lenientClose := true, icase }

/-- The basic patterns of `sed`. -/
def Dialect.sedBasic (icase : Bool) : Dialect := { strictRepeat := true, icase }

/-- The extended patterns of `sed -E`. -/
def Dialect.sedExtended (icase : Bool) : Dialect :=
  { extended := true, refuseLeadingRepeat := true, icase }

end Conch.Pattern
