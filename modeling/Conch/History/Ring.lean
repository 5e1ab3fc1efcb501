import Conch.Text.WhiteSpace

/-!
# The history ring

The lines a shell has run, oldest first, bounded by a capacity: recording a line when the
ring is full first drops the oldest lines.  A ring of capacity zero records nothing.

A line is recorded when it is not blank (after trimming Unicode white space) and differs
from the newest line.  A history file holds one line per entry, each ended by a newline;
reading it back skips empty lines, removes the carriage return of a CRLF ending, and keeps
the newest lines that fit.

Main definitions: `History.add`, `History.ofFile` and `History.render`.
-/

namespace Conch

/-- The lines a shell has run, oldest first, and how many it keeps. -/
structure History where
  items : List String := []
  capacity : Nat
  deriving DecidableEq, Repr, Inhabited

namespace History

/-- An empty ring of the given capacity. -/
def empty (capacity : Nat) : History := { capacity }

/-- Records a line unconditionally, dropping the oldest lines that no longer fit. -/
def push (h : History) (line : String) : History :=
  if h.capacity == 0 then h
  else { h with items := h.items.drop (h.items.length + 1 - h.capacity) ++ [line] }

/-- The newest line. -/
def last (h : History) : Option String := h.items.getLast?

/-- Whether a line would be recorded: it is not blank and not the newest line. -/
def accepts (h : History) (line : String) : Bool :=
  !Text.isBlankText line && h.last != some line

/-- Records a line unless it is blank or repeats the newest line. -/
def add (h : History) (line : String) : History :=
  if h.accepts line then h.push line else h

/-- Forgets every line. -/
def clear (h : History) : History := { h with items := [] }

/-- The number of lines held. -/
def count (h : History) : Nat := h.items.length

/-- A line without the carriage return of a CRLF ending. -/
def dropReturn (l : List Char) : List Char :=
  if l.getLast? = some '\r' then l.dropLast else l

/-- The lines of a file's text: split at newlines, a carriage return before a newline
removed, and no empty line after a final newline. -/
def fileLines (text : String) : List String :=
  let pieces := text.toList.splitOn '\n'
  let ended := pieces.dropLast.map (fun l => String.ofList (dropReturn l))
  match pieces.getLast? with
  | some tail => if tail.isEmpty then ended else ended ++ [String.ofList tail]
  | none => ended

/-- The ring read from a history file: its non-empty lines, newest that fit. -/
def ofFile (capacity : Nat) (text : String) : History :=
  ((fileLines text).filter (fun l => !l.isEmpty)).foldl push (empty capacity)

/-- The text of a history file: each line followed by a newline. -/
def render (h : History) : String :=
  String.join (h.items.map (· ++ "\n"))

end History

end Conch
