import Conch.Text.WhiteSpace

/-!
# Trace events and the command line

The shell can trace five kinds of events.  A list of them is written as names separated by
commas; each item is trimmed, empty items are skipped, `all` (in any case) stands for all five
in their fixed order, a known name matches in any ASCII case, and unknown names are ignored.
Duplicates are kept.

The shell itself takes no command-line arguments: any argument is a usage error.

Main definitions: `TraceEvent.parseList` and `argumentsAccepted`.
-/

namespace Conch

/-- The kinds of events the shell can trace. -/
inductive TraceEvent where
  | commands
  | expansion
  | heredoc
  | input
  | parse
  deriving DecidableEq, Repr, Inhabited

namespace TraceEvent

/-- All kinds of events, in their fixed order. -/
def all : List TraceEvent := [.commands, .expansion, .heredoc, .input, .parse]

/-- The name of a kind of event. -/
def name : TraceEvent → String
  | .commands => "commands"
  | .expansion => "expansion"
  | .heredoc => "heredoc"
  | .input => "input"
  | .parse => "parse"

/-- Whether two texts are equal up to ASCII case. -/
def sameUpToCase (a b : String) : Bool :=
  a.toList.map Char.toLower == b.toList.map Char.toLower

/-- The kind of event a name denotes, in any ASCII case. -/
def ofName? (s : String) : Option TraceEvent :=
  all.find? (fun e => sameUpToCase e.name s)

/-- The kind of event a name denotes, in exactly this spelling. -/
def ofExactName? (s : String) : Option TraceEvent :=
  all.find? (fun e => e.name == s)

/-- The kinds of events a comma-separated list names. -/
def parseList (list : String) : List TraceEvent :=
  ((list.splitOn ",").map Text.trim).flatMap fun item =>
    if item.isEmpty then []
    else if sameUpToCase item "all" then all
    else (ofName? item).toList

end TraceEvent

/-- The name the shell reports itself by. -/
def shellName : String := "nacre"

/-- The shell accepts no command-line arguments. -/
def argumentsAccepted (args : List String) : Bool := args.isEmpty

/-- The message that rejects command-line arguments. -/
def usageMessage : String :=
  shellName ++ ": usage: " ++ shellName ++ " (no arguments accepted)"

end Conch
