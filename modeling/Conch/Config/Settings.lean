import Conch.Config.Toml
import Conch.Startup.Events

/-!
# The configuration file

The shell reads optional settings from a TOML file: the trace events to enable, and the name
and capacity of the history file.

```
[logging]
enable = ["parse", "heredoc"]

[history]
file = ".my_history"
max-entries = 20
```

Every table and key is optional, and unknown keys are ignored.  A key that is present must
have the right type: `logging` and `history` are tables, `enable` is an array of event
names spelled in lower case, `file` is a string, and the capacity, spelled `max-entries` or
`max_entries` (but not both), is an integer from 0 to `2^64 - 1`.  A document that breaks any
of these rules, or is no TOML, gives no settings.

Two other spellings are read as well.  A section may be an array that lists its fields in
order (`history = ["h", 20]` is a file and a capacity; missing fields keep their defaults
and extra items are ignored), and an event may be a table with its name as the only key
and an empty table or array as its value (`{parse = {}}`).

Main definitions: `Settings` and `Settings.ofText`.
-/

namespace Conch

/-- What the configuration file can set. -/
structure Settings where
  /-- The trace events to enable. -/
  enable : List TraceEvent := []
  /-- The history file's name, relative to the starting directory. -/
  historyFile : Option String := none
  /-- The capacity of the history ring. -/
  maxEntries : Option Nat := none
  deriving Repr, Inhabited

namespace Settings

open Toml

/-- The value of a key of a table. -/
def lookupKey (es : List (String × Value)) (k : String) : Option Value := es.lookup k

/-- An optional key read by `read`: absent is fine, present must read. -/
def optional {α : Type} (read : Value → Option α) : Option Value → Option (Option α)
  | none => some none
  | some v => (read v).map some

/-- Whether a value is an empty table or an empty array. -/
def isEmptyValue : Value → Bool
  | .table [] | .array [] => true
  | _ => false

/-- A trace event given by its lower-case name, or by a table whose only key is the name
and whose value is empty. -/
def eventOf : Value → Option TraceEvent
  | .string s => TraceEvent.ofExactName? s
  | .table [(s, v)] => if isEmptyValue v then TraceEvent.ofExactName? s else none
  | _ => none

/-- The trace events of an array of names. -/
def eventsOf : Value → Option (List TraceEvent)
  | .array items => items.mapM eventOf
  | _ => none

/-- A string. -/
def stringOf : Value → Option String
  | .string s => some s
  | _ => none

/-- A capacity: an integer from 0 to `2^64 - 1`. -/
def capacityOf : Value → Option Nat
  | .integer n => if 0 ≤ n && n ≤ (Int.pow 2 64 - 1 : Int) then some n.toNat else none
  | _ => none

/-- The entries of a table. -/
def tableOf : Value → Option (List (String × Value))
  | .table es => some es
  | _ => none

/-- The fields of a section, each named by its spellings: a table gives the value of the
spelling present (two spellings of one field present are refused); an array gives its
items in field order. -/
def fieldsOf (names : List (List String)) : Value → Option (List (Option Value))
  | .table es =>
      names.mapM fun spellings =>
        match spellings.filterMap (lookupKey es) with
        | [] => some none
        | [v] => some (some v)
        | _ => none
  | .array items => some ((List.range names.length).map (items[·]?))
  | _ => none

/-- The settings of a parsed document. -/
def ofValue (doc : Value) : Option Settings := do
  let root ← tableOf doc
  let logging ← optional (fieldsOf [["enable"]]) (lookupKey root "logging")
  let history ← optional (fieldsOf [["file"], ["max-entries", "max_entries"]])
    (lookupKey root "history")
  let enable ← (optional eventsOf ((logging.getD []).head?.join)).map (·.getD [])
  let hist := history.getD []
  let file ← optional stringOf (hist.head?.join)
  let maxEntries ← optional capacityOf ((hist.drop 1).head?.join)
  pure { enable, historyFile := file, maxEntries }

/-- The settings a configuration text gives, or nothing if it is malformed. -/
def ofText (text : String) : Option Settings :=
  (Toml.parse text).bind ofValue

end Settings

end Conch
