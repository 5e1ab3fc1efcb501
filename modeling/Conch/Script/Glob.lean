import Conch.World.Fs

/-!
# Shell patterns

A shell pattern is matched against a whole text.  Unquoted, `*` matches any run of
characters, `?` any one character, and `[...]` one character of a set: single characters,
ranges `a-z` and classes `[:alpha:]`, all negated by a leading `!`; a `]` right after the
opening bracket (and its `!`) is one of the set.  A bracket without its closing `]` is a
literal `[`.  A backslash makes the next character literal, and a quoted character is always
literal.  Classes are those of the C locale, on octets.

Patterns also name files: a word with an unquoted `*`, `?` or `[` is matched, one `/`-separated
part at a time, against the names in the directories, and stands for every path that matches,
sorted; a name starting with `.` is matched only by a part that starts with `.` itself.

Main definitions: `Glob.compile`, `Glob.accepts` and `Glob.expand`.
-/

namespace Conch.Script.Glob

/-- One member of a bracket set. -/
inductive Member where
  | single (c : Char)
  | range (lo hi : Char)
  | named (name : String)
  deriving Repr, DecidableEq

/-- One element of a compiled pattern. -/
inductive PTok where
  | lit (c : Char)
  | any
  | star
  | set (negated : Bool) (members : List Member)
  deriving Repr, DecidableEq

/-- The classes a bracket may name. -/
def classNames : List String :=
  ["alnum", "cntrl", "lower", "space", "alpha", "digit", "print", "upper", "blank", "graph",
   "punct", "xdigit"]

/-- Whether an octet is in a class of the C locale. -/
def inClass (name : String) (c : Char) : Bool :=
  let n := c.toNat
  let upper := 65 ≤ n && n ≤ 90
  let lower := 97 ≤ n && n ≤ 122
  let digit := 48 ≤ n && n ≤ 57
  let print := 32 ≤ n && n ≤ 126
  match name with
  | "alnum" => upper || lower || digit
  | "alpha" => upper || lower
  | "cntrl" => n < 32 || n == 127
  | "lower" => lower
  | "upper" => upper
  | "digit" => digit
  | "space" => n == 32 || (9 ≤ n && n ≤ 13)
  | "blank" => n == 32 || n == 9
  | "print" => print
  | "graph" => print && n != 32
  | "punct" => print && n != 32 && !(upper || lower || digit)
  | "xdigit" => digit || (65 ≤ n && n ≤ 70) || (97 ≤ n && n ≤ 102)
  | _ => false

/-- Whether a member of a set holds a character. -/
def Member.holds (c : Char) : Member → Bool
  | .single d => c == d
  | .range lo hi => lo ≤ c && c ≤ hi
  | .named n => inClass n c

/-- Reads a class name after `[:`: the name and the rest after `:]`. -/
def className? (cs : List (Char × Bool)) : Option (String × List (Char × Bool)) :=
  classNames.findSome? fun n =>
    let want := (n ++ ":]").toList
    if (cs.take want.length).map Prod.fst == want && (cs.take want.length).all (!·.2) then
      some (n, cs.drop want.length)
    else none

/-- A character of a set, unescaped: the character and the rest. -/
def setChar : List (Char × Bool) → Option (Char × List (Char × Bool))
  | ('\\', false) :: (c, _) :: rest => some (c, rest)
  | (c, _) :: rest => some (c, rest)
  | [] => none

/-- Reads the members of a set up to its closing `]`: the members and the rest.  `first` is
whether no member has been read, where `]` is a member. -/
def setMembers : Nat → Bool → List (Char × Bool) → Option (List Member × List (Char × Bool))
  | 0, _, _ => none
  | _, _, [] => none
  | f + 1, first, cs@((c, q) :: rest) =>
      if c == ']' && !q && !first then some ([], rest)
      else if c == '[' && !q && (rest.head? == some (':', false)) &&
          (className? (rest.drop 1)).isSome then
        match className? (rest.drop 1) with
        | some (n, after) => (setMembers f false after).map fun (ms, r) => (.named n :: ms, r)
        | none => none
      else
        match setChar cs with
        | none => none
        | some (lo, after) =>
            match after with
            | ('-', false) :: more =>
                if more.head? == some (']', false) || more.isEmpty then
                  (setMembers f false after).map fun (ms, r) => (.single lo :: ms, r)
                else
                  match setChar more with
                  | some (hi, after2) =>
                      (setMembers f false after2).map fun (ms, r) => (.range lo hi :: ms, r)
                  | none => none
            | _ => (setMembers f false after).map fun (ms, r) => (.single lo :: ms, r)

/-- Compiles a pattern given as characters with their quotedness. -/
def compile : List (Char × Bool) → List PTok
  | [] => []
  | (c, true) :: rest => .lit c :: compile rest
  | ('\\', false) :: (c, _) :: rest => .lit c :: compile rest
  | ('?', false) :: rest => .any :: compile rest
  | ('*', false) :: rest => .star :: compile rest
  | ('[', false) :: rest =>
      let (negated, body) := match rest with
        | ('!', false) :: more => (true, more)
        | _ => (false, rest)
      match setMembers (body.length + 1) true body with
      | some (ms, after) =>
          if after.length < rest.length + 1 then .set negated ms :: compile after
          else .lit '[' :: compile rest
      | none => .lit '[' :: compile rest
  | (c, false) :: rest => .lit c :: compile rest
termination_by cs => cs.length
decreasing_by
  all_goals simp_wf
  all_goals omega

/-- Whether a compiled pattern matches a whole text. -/
def matchTokens : List PTok → List Char → Bool
  | [], s => s.isEmpty
  | .star :: ps, s => (List.range (s.length + 1)).any fun i => matchTokens ps (s.drop i)
  | .any :: ps, s =>
      match s with
      | _ :: rest => matchTokens ps rest
      | [] => false
  | .lit c :: ps, s =>
      match s with
      | d :: rest => c == d && matchTokens ps rest
      | [] => false
  | .set negated ms :: ps, s =>
      match s with
      | d :: rest => (ms.any (·.holds d) != negated) && matchTokens ps rest
      | [] => false

/-- Whether a pattern matches a whole text. -/
def accepts (pattern : List (Char × Bool)) (s : String) : Bool :=
  matchTokens (compile pattern) s.toList

/-- Whether a pattern has an unquoted character that makes it match more than itself. -/
def hasMeta (pattern : List (Char × Bool)) : Bool :=
  pattern.any fun (c, q) => !q && (c == '*' || c == '?' || c == '[')

/-- A part of a path pattern without its escapes: the name it stands for. -/
def literal : List (Char × Bool) → String
  | [] => ""
  | ('\\', false) :: (c, _) :: rest => String.singleton c ++ literal rest
  | (c, _) :: rest => String.singleton c ++ literal rest
termination_by cs => cs.length

/-- Splits a pattern at its unquoted slashes. -/
def parts (pattern : List (Char × Bool)) : List (List (Char × Bool)) :=
  pattern.splitOn ('/', false)

/-- The names in a directory, with `.` and `..`, unsorted. -/
def namesIn (fs : Fs) (dir : String) : List String :=
  [".", ".."] ++ fs.children dir

/-- The paths that the parts of a pattern match, below the text `base` (the path so far,
ending in `/` or empty) seen from `cwd`. -/
def walk (fs : Fs) (cwd : String) : Nat → String → List (List (Char × Bool)) → List String
  | 0, _, _ => []
  | _, base, [] => if base.isEmpty then [] else [base]
  | f + 1, base, part :: rest =>
      let last := rest.isEmpty
      if !hasMeta part then
        let name := literal part
        let path := base ++ name
        if last then
          match fs.entryPath cwd path with
          | .ok _ => [path]
          | .error _ => []
        else walk fs cwd f (path ++ "/") rest
      else
        let dirText := if base.isEmpty then "." else base
        match fs.resolve cwd dirText with
        | .error _ => []
        | .ok dir =>
            if !fs.isDirectoryAt dir then []
            else
              let dotOk := match part with
                | ('.', _) :: _ => true
                | ('\\', false) :: ('.', _) :: _ => true
                | _ => false
              let names := (namesIn fs dir).filter fun n =>
                (dotOk || !n.startsWith ".") && accepts part n
              names.flatMap fun n =>
                if last then [base ++ n] else walk fs cwd f (base ++ n ++ "/") rest

/-- The paths a pattern stands for, sorted; none when it matches nothing. -/
def expand (fs : Fs) (cwd : String) (pattern : List (Char × Bool)) : List String :=
  let ps := parts pattern
  let (base, ps) := match ps with
    | [] :: more => ("/", more)
    | _ => ("", ps)
  let found := walk fs cwd (ps.length + 1) base ps
  found.mergeSort (fun a b => decide (a ≤ b))

end Conch.Script.Glob
