import Conch.Env.Store

/-!
# Substitutions and fields

Expansion reads the text of a word piece as a sequence of parts: literal characters and the
values of substitutions.  `$?` is the last status and `$$` the shell's process id, both in
decimal; `$` and a digit stands for nothing; `$` and a name (the longest run of ASCII letters,
digits and underscores that starts with a letter or underscore) stands for the variable's
value, or nothing when it is unset.  A `$` followed by anything else is kept as it is, except
that a `$` ending a bare piece right before a quoted piece vanishes.

The parts are then fed to a field builder.  In a bare piece every blank (space, tab,
newline) that comes from a substitution splits fields; a quoted piece makes a field exist
even when it is empty.

Main definitions: `Scope.parts` and `Fields`.
-/

namespace Conch

/-- What the `$` forms of a word stand for. -/
structure Scope where
  env : Env
  /-- The status of the last command, `$?`. -/
  status : Nat
  /-- The shell's process id, `$$`. -/
  pid : Nat
  deriving Repr, Inhabited

/-- One part of a word's text: a literal character, or the value of a substitution. -/
inductive Part where
  | literal (c : Char)
  | value (v : String)
  deriving DecidableEq, Repr

/-- Whether a character continues a variable name. -/
def isNameChar (c : Char) : Bool := c == '_' || c.isAlphanum

/-- Whether a character starts a variable name. -/
def isNameStart (c : Char) : Bool := c == '_' || c.isAlpha

namespace Scope

/-- The parts of a piece of text; `beforeQuote` says whether the piece is bare and a quoted
piece follows it. -/
def parts (sc : Scope) (beforeQuote : Bool) : List Char → List Part
  | [] => []
  | '$' :: rest =>
      match rest with
      | [] => if beforeQuote then [] else [.literal '$']
      | d :: more =>
          if d == '?' then .value (toString sc.status) :: parts sc beforeQuote more
          else if d == '$' then .value (toString sc.pid) :: parts sc beforeQuote more
          else if d.isDigit then .value "" :: parts sc beforeQuote more
          else if isNameStart d then
            let name := String.ofList (d :: more.takeWhile isNameChar)
            .value ((sc.env.get name).getD "") :: parts sc beforeQuote (more.dropWhile isNameChar)
          else .literal '$' :: parts sc beforeQuote (d :: more)
  | c :: rest => .literal c :: parts sc beforeQuote rest
termination_by cs => cs.length
decreasing_by
  all_goals simp only [List.length_cons]
  all_goals first
    | omega
    | (have hsplit := congrArg List.length
          (@List.takeWhile_append_dropWhile _ isNameChar more)
       simp only [List.length_append] at hsplit
       omega)

end Scope

/-- A word's fields as they are being built. -/
structure Fields where
  /-- The finished fields, newest first. -/
  done : List String := []
  /-- The field being built. -/
  current : String := ""
  /-- Whether the field being built exists, even if it is empty. -/
  started : Bool := false
  /-- Whether a split is due before the next character. -/
  pendingBreak : Bool := false
  deriving Repr, Inhabited

namespace Fields

/-- Performs a due split, if the field being built exists. -/
def flushBreak (f : Fields) : Fields :=
  if f.pendingBreak && f.started then
    { done := f.current :: f.done, current := "", started := false, pendingBreak := false }
  else { f with pendingBreak := false }

/-- Adds one character to the field being built. -/
def pushChar (f : Fields) (c : Char) : Fields :=
  let g := f.flushBreak
  { g with current := g.current.push c, started := true }

/-- Adds a text to the field being built; an empty text changes nothing. -/
def pushText (f : Fields) (s : String) : Fields :=
  if s.isEmpty then f
  else
    let g := f.flushBreak
    { g with current := g.current ++ s, started := true }

/-- Adds a substituted value whose blanks split fields. -/
def pushSplit (f : Fields) (s : String) : Fields :=
  s.toList.foldl (fun g c => if c == ' ' || c == '\t' || c == '\n'
    then { g with pendingBreak := true } else g.pushChar c) f

/-- Marks that a quoted piece was met: the field being built exists from here on. -/
def markQuoted (f : Fields) : Fields :=
  { f.flushBreak with started := true }

/-- Adds parts; `split` says whether substituted blanks split fields. -/
def feed (f : Fields) (split : Bool) (ps : List Part) : Fields :=
  ps.foldl (fun g p => match p with
    | .literal c => g.pushChar c
    | .value v => if split then g.pushSplit v else g.pushText v) f

/-- The fields built, in order. -/
def finish (f : Fields) : List String :=
  (if f.started then f.current :: f.done else f.done).reverse

end Fields

end Conch
