import Conch.Expand.Fields
import Conch.Syntax.Scan

/-!
# Expanding words

A word expands piece by piece.  A single-quoted piece is taken as it is; a double-quoted
piece has its substitutions replaced but is never split; a bare piece has its substitutions
replaced and split at the blanks they bring in.  A word whose first piece is bare and begins
with `~` has the start of its first field replaced by `HOME`, when `HOME` is set: `~` alone
becomes `HOME`, and `~/rest` becomes `HOME/rest`.

Expanding a line's tokens leaves here-document limiters as they are, gives every other
redirection operand the one file name it expands to or marks it ambiguous, and drops the
bare words that expanded to nothing.  A here-document body line is expanded with no
splitting and no `~`.

Main definitions: `Scope.expandWord`, `Scope.expandTokens` and `Scope.expandLine`.
-/

namespace Conch

namespace Scope

/-- Feeds the pieces of a word to the field builder, from left to right. -/
def feedSegments (sc : Scope) : Fields → List Segment → Fields
  | f, [] => f
  | f, s :: rest =>
      let f' := match s.quoting with
        | .single => f.markQuoted.pushText s.text
        | .double => f.markQuoted.feed false (sc.parts false s.text.toList)
        | .bare =>
            let beforeQuote := match rest with
              | next :: _ => next.quoting != .bare
              | [] => false
            f.feed true (sc.parts beforeQuote s.text.toList)
      feedSegments sc f' rest

/-- The start of a field replaced by the home directory: `~` alone, or `~/` before a path. -/
def tildeField (home field : String) : String :=
  match field.toList with
  | ['~'] => home
  | '~' :: '/' :: rest => home ++ "/" ++ String.ofList rest
  | _ => field

/-- Whether a word starts with a bare `~`. -/
def startsWithTilde (segments : List Segment) : Bool :=
  match segments with
  | s :: _ => s.quoting == .bare && s.text.toList.head? == some '~'
  | [] => false

/-- The fields a word expands to. -/
def wordFields (sc : Scope) (w : Word) : List String :=
  let fields := (sc.feedSegments {} w.segments).finish
  match fields, sc.env.get "HOME" with
  | first :: rest, some home =>
      if startsWithTilde w.segments then tildeField home first :: rest else fields
  | _, _ => fields

/-- A word with its fields and text replaced by its expansion. -/
def expandWord (sc : Scope) (w : Word) : Word :=
  let fields := sc.wordFields w
  { w with fields := fields, text := " ".intercalate fields }

/-- An expanded redirection operand: the one file it names, or ambiguous. -/
def resolveOperand (w : Word) : Word :=
  match w.fields with
  | [file] => { w with resolvedFile := some file }
  | _ => { w with ambiguous := true }

/-- Expands one token of a line. -/
def expandToken (sc : Scope) : Token → Token
  | .op o n => .op o n
  | .word w n =>
      match w.redirect with
      | some .heredoc => .word w n
      | some _ => .word (resolveOperand (sc.expandWord w)) n
      | none => .word (sc.expandWord w) n

/-- Expands the tokens of a line and drops the bare words that came to nothing. -/
def expandTokens (sc : Scope) (ts : List Token) : List Token :=
  Syntax.dropEmptyWords (ts.map sc.expandToken)

/-- Expands a here-document body line: substitutions only, never split. -/
def expandLine (sc : Scope) (line : String) : String :=
  " ".intercalate (({} : Fields).feed false (sc.parts false line.toList)).finish

end Scope

end Conch
