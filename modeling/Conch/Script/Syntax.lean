import Conch.Text.Utf8

/-!
# The command language of the system shell

A script of the system shell `/bin/sh` is read into a tree of commands.  A word of a command
is a list of pieces: literal octets, quoted or not, and the expansions written in it (a
parameter, a command whose output is substituted, an arithmetic expression).  Whether a piece
was quoted decides later whether its value is split into fields and matched against file
names; a quoted piece may be empty, and then still makes the word a field of its own.

The commands are the grammar's forms: a simple command (variable assignments, words and
redirections), pipelines, `!`, and-or lists, sequences, background commands, subshells,
groups with redirections, `if`, `while` and `until`, `for`, `case` and function definitions.
Each command that reports errors keeps the number of the line it was read on.

A here-document's text is read only after the line that asks for it, so a redirection from
one names its text by a number, and the texts are kept beside the tree.

The reader reports what it did not expect by the name of the token it found: `Tok.name`.

Main definitions: `Piece`, `Cmd`, `Redir` and `Tok`.
-/

namespace Conch.Script

/-- What a parameter expansion does with the parameter's value. -/
inductive ParamOp where
  /-- `${x}`: the value itself. -/
  | plain
  /-- `${#x}`: the number of characters of the value. -/
  | length
  /-- `${x-w}`: the word instead of an unset parameter (`${x:-w}`: or an empty one). -/
  | orDefault (orEmpty : Bool)
  /-- `${x=w}`: the word, also assigned, instead of an unset parameter. -/
  | orAssign (orEmpty : Bool)
  /-- `${x?w}`: an error, with the word as message, for an unset parameter. -/
  | orFail (orEmpty : Bool)
  /-- `${x+w}`: the word instead of a set parameter, else nothing. -/
  | ifSet (orEmpty : Bool)
  /-- `${x#p}`: the value without its shortest prefix matching `p` (`##`: longest). -/
  | dropPrefix (longest : Bool)
  /-- `${x%p}`: the value without its shortest suffix matching `p` (`%%`: longest). -/
  | dropSuffix (longest : Bool)
  /-- A malformed expansion, refused when it is expanded. -/
  | malformed
  deriving DecidableEq, Repr, Inhabited

/-- How a redirection to or from a named file opens it. -/
inductive FileOp where
  /-- `<`: for reading. -/
  | input
  /-- `>`: for writing, emptied, refused if it exists when the shell must not clobber. -/
  | output
  /-- `>|`: for writing, emptied, always. -/
  | clobber
  /-- `>>`: for writing at its end. -/
  | append
  /-- `<>`: for reading and writing. -/
  | readWrite
  deriving DecidableEq, Repr, Inhabited

mutual

/-- A piece of a word. -/
inductive Piece where
  /-- Literal octets; quoted ones are neither split nor matched against file names. -/
  | text (s : Octets) (quoted : Bool)
  /-- A parameter expansion: the parameter's name, what is done with it, and its word. -/
  | param (name : String) (op : ParamOp) (word : List Piece) (quoted : Bool)
  /-- A command whose output, without its final newlines, is substituted. -/
  | command (body : Option Cmd) (quoted : Bool)
  /-- An arithmetic expression, itself expanded first, whose value is substituted. -/
  | arith (expr : List Piece) (quoted : Bool)

/-- A redirection of one descriptor. -/
inductive Redir where
  /-- To or from a named file. -/
  | file (fd : Nat) (op : FileOp) (target : List Piece)
  /-- A copy of another descriptor (`<&`, or `>&` when `output`), or its closing (`-`). -/
  | dup (fd : Nat) (output : Bool) (target : List Piece)
  /-- From a here-document, by its number. -/
  | here (fd : Nat) (doc : Nat)

/-- A command. -/
inductive Cmd where
  /-- Assignments, words and redirections. -/
  | simple (line : Nat) (assigns : List (String × List Piece)) (args : List (List Piece))
      (redirs : List Redir)
  /-- Two or more commands, each reading what the one before writes. -/
  | pipe (stages : List Cmd)
  /-- A command whose status is negated (`!`). -/
  | negate (body : Cmd)
  /-- The second command runs only if the first succeeds (`&&`). -/
  | andThen (first second : Cmd)
  /-- The second command runs only if the first fails (`||`). -/
  | orElse (first second : Cmd)
  /-- One command after the other. -/
  | seq (first second : Cmd)
  /-- A command run without waiting for it (`&`). -/
  | background (body : Cmd)
  /-- A command run in a copy of the shell (`( )`), with redirections. -/
  | subshell (line : Nat) (body : Cmd) (redirs : List Redir)
  /-- A compound command with redirections. -/
  | redirected (line : Nat) (body : Cmd) (redirs : List Redir)
  /-- `if`, with `elif` parts nested in the `else` part. -/
  | ifThen (cond body : Cmd) (orElse : Option Cmd)
  /-- `while` (or `until`, when `untilTrue`). -/
  | loop (untilTrue : Bool) (cond body : Cmd)
  /-- `for`: the variable, the words of its list, and the body. -/
  | forIn (line : Nat) (name : String) (items : List (List Piece)) (body : Cmd)
  /-- `case`: the subject word and the arms, each with its patterns and body. -/
  | caseOf (line : Nat) (subject : List Piece) (arms : List (List (List Piece) × Option Cmd))
  /-- A function definition. -/
  | defun (line : Nat) (name : String) (body : Cmd)

end

/-- A word: its pieces in order. -/
abbrev Word := List Piece

instance : Inhabited Cmd := ⟨.pipe []⟩

/-- The text of a here-document: whether its expansions are made, and its pieces. -/
structure HereDoc where
  expand : Bool
  body : Word

/-- The reserved words, which are commands' parts rather than words where a command starts. -/
inductive Keyword where
  | bang
  | caseKw
  | doKw
  | doneKw
  | elifKw
  | elseKw
  | esacKw
  | fiKw
  | forKw
  | ifKw
  | inKw
  | thenKw
  | untilKw
  | whileKw
  | openBrace
  | closeBrace
  deriving DecidableEq, Repr, Inhabited

/-- How a reserved word is written. -/
def Keyword.text : Keyword → String
  | .bang => "!"
  | .caseKw => "case"
  | .doKw => "do"
  | .doneKw => "done"
  | .elifKw => "elif"
  | .elseKw => "else"
  | .esacKw => "esac"
  | .fiKw => "fi"
  | .forKw => "for"
  | .ifKw => "if"
  | .inKw => "in"
  | .thenKw => "then"
  | .untilKw => "until"
  | .whileKw => "while"
  | .openBrace => "\x7b"
  | .closeBrace => "\x7d"

/-- Every reserved word. -/
def Keyword.all : List Keyword :=
  [.bang, .caseKw, .doKw, .doneKw, .elifKw, .elseKw, .esacKw, .fiKw, .forKw, .ifKw, .inKw,
   .thenKw, .untilKw, .whileKw, .openBrace, .closeBrace]

/-- The reserved word a text spells, if it spells one. -/
def Keyword.ofText? (s : String) : Option Keyword := Keyword.all.find? (·.text == s)

/-- The operator of a redirection as read, before its target. -/
inductive RedirSign where
  /-- To or from a named file. -/
  | file (op : FileOp)
  /-- A copy of a descriptor: `>&` when `output`, else `<&`. -/
  | dup (output : Bool)
  /-- A here-document: `<<-` when `strip`, which drops the tabs that start its lines. -/
  | here (strip : Bool)
  deriving DecidableEq, Repr, Inhabited

/-- A token of a script. -/
inductive Tok where
  | eof
  | newline
  | semi
  | amp
  | andIf
  | orIf
  | pipe
  | lparen
  | rparen
  | dsemi
  /-- A redirection operator, with the descriptor written right before it. -/
  | redir (fd : Option Nat) (sign : RedirSign)
  /-- A word, with its text when it is a single unquoted literal. -/
  | word (w : Word) (plain : Option String)
  /-- A reserved word. -/
  | keyword (k : Keyword)
  deriving Inhabited

/-- How a message names a token. -/
def Tok.name : Tok → String
  | .eof => "end of file"
  | .newline => "newline"
  | .semi => "\";\""
  | .amp => "\"&\""
  | .andIf => "\"&&\""
  | .orIf => "\"||\""
  | .pipe => "\"|\""
  | .lparen => "\"(\""
  | .rparen => "\")\""
  | .dsemi => "\";;\""
  | .redir _ _ => "redirection"
  | .word _ _ => "word"
  | .keyword k => "\"" ++ k.text ++ "\""

/-- Whether a token ends a list of commands, where one may end. -/
def Tok.endsList : Tok → Bool
  | .eof | .rparen | .dsemi => true
  | .keyword k => k == .doKw || k == .doneKw || k == .elifKw || k == .elseKw || k == .esacKw ||
      k == .fiKw || k == .thenKw || k == .closeBrace
  | _ => false

/-- Whether a character is a decimal digit. -/
def isDigitChar (c : Char) : Bool := '0' ≤ c && c ≤ '9'

/-- Whether a character may start a name. -/
def isNameStart (c : Char) : Bool := ('a' ≤ c && c ≤ 'z') || ('A' ≤ c && c ≤ 'Z') || c == '_'

/-- Whether a character may continue a name. -/
def isNameChar (c : Char) : Bool := isNameStart c || ('0' ≤ c && c ≤ '9')

/-- Whether a text is a name: a letter or underscore, then letters, digits and underscores. -/
def isName (s : String) : Bool :=
  match s.toList with
  | c :: rest => isNameStart c && rest.all isNameChar
  | [] => false

end Conch.Script
