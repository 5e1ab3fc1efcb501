/-!
# Tokens of a command line

A command line is read as a sequence of tokens: operators, which join or redirect commands,
and words, which are runs of adjacent pieces of text that may each be quoted.  A word that
directly follows a redirection operator is that operator's operand; it remembers which kind
of redirection it belongs to.

Expansion later replaces a word's fields and text and, for a redirection operand, records
the one file name it stands for or that it is ambiguous.  Everything else about a token is
fixed when the line is scanned.
-/

namespace Conch

/-- How a piece of a word was quoted. -/
inductive Quoting where
  | bare
  | single
  | double
  deriving DecidableEq, Repr, Inhabited

/-- The four ways a word can redirect a command's standard streams. -/
inductive Redirect where
  /-- `<`: read standard input from a file. -/
  | input
  /-- `>`: write standard output to a truncated file. -/
  | output
  /-- `<<`: read standard input from the lines that follow, up to a limiter. -/
  | heredoc
  /-- `>>`: append standard output to a file. -/
  | append
  deriving DecidableEq, Repr, Inhabited

/-- The operators a line may contain. -/
inductive Operator where
  | pipe
  | redirect (r : Redirect)
  | openGroup
  | closeGroup
  deriving DecidableEq, Repr, Inhabited

/-- How an operator is spelled. -/
def Operator.spelling : Operator → String
  | .pipe => "|"
  | .redirect .input => "<"
  | .redirect .output => ">"
  | .redirect .heredoc => "<<"
  | .redirect .append => ">>"
  | .openGroup => "("
  | .closeGroup => ")"

/-- The redirection an operator introduces, if it introduces one. -/
def Operator.redirect? : Operator → Option Redirect
  | .redirect r => some r
  | _ => none

/-- One piece of a word, with the quoting it was written in. -/
structure Segment where
  quoting : Quoting
  text : String
  deriving DecidableEq, Repr, Inhabited

/-- A word of the line, as scanned and possibly expanded. -/
structure Word where
  /-- The pieces the word was written as, quotes removed. -/
  segments : List Segment
  /-- The source text of the word, quotes included. -/
  raw : String
  /-- The text the word stands for: its pieces joined, or after expansion its fields
  joined by single spaces. -/
  text : String
  /-- The words the word stands for: its text, or after expansion the split result. -/
  fields : List String
  /-- Whether the last piece is a quotation that the line never closes. -/
  unclosed : Bool := false
  /-- The redirection this word is the operand of. -/
  redirect : Option Redirect := none
  /-- Set by expansion on an operand that did not become exactly one field. -/
  ambiguous : Bool := false
  /-- Set by expansion on an operand that became exactly one field. -/
  resolvedFile : Option String := none
  deriving DecidableEq, Repr, Inhabited

/-- A word is quoted when any of its pieces is; the quoting it reports is that of its
first quoted piece. -/
def Word.quoting (w : Word) : Quoting :=
  match w.segments.find? (fun s => s.quoting != .bare) with
  | some s => s.quoting
  | none => .bare

/-- Whether any piece of the word was quoted. -/
def Word.isQuoted (w : Word) : Bool :=
  w.segments.any (fun s => s.quoting != .bare)

/-- A token together with the byte offset where it starts in its line. -/
inductive Token where
  | op (o : Operator) (offset : Nat)
  | word (w : Word) (offset : Nat)
  deriving DecidableEq, Repr, Inhabited

namespace Token

/-- The byte offset of the token in its line. -/
def offset : Token → Nat
  | .op _ n => n
  | .word _ n => n

/-- The operator a token is, if it is one. -/
def operator? : Token → Option Operator
  | .op o _ => some o
  | .word _ _ => none

/-- The word a token is, if it is one. -/
def word? : Token → Option Word
  | .word w _ => some w
  | .op _ _ => none

/-- Whether the token is a word. -/
def isWord (t : Token) : Bool := t.word?.isSome

end Token

end Conch
