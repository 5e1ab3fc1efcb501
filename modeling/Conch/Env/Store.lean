/-!
# The variable store

The shell keeps its variables in two ordered collections.  `vars` holds every variable that
has a value, in the order the names were first given one; it is what `$NAME` reads and what
child processes receive.  `exported` holds every exported name, in the order the names were
first exported or assigned, with the value it had when it was last assigned: `export NAME`
without a value only marks the name.

Assigning a name updates it in place in both collections or appends it to both; removing a
name removes it from both.  Names are not checked here: the `export` and `unset` commands
check them, and a store built from inherited pairs skips the invalid ones.

Main definitions: `Env.set`, `Env.unset`, `Env.exportMark`, `Env.get`, `Env.contains`,
`Env.ofPairs` and `Env.toEnvp`.
-/

namespace Conch

/-- Whether a text is a variable name: a letter or underscore, then letters, digits and
underscores, all ASCII. -/
def isValidName (name : String) : Bool :=
  match name.toList with
  | c :: rest => (c == '_' || c.isAlpha) && rest.all (fun d => d == '_' || d.isAlphanum)
  | [] => false

/-- Gives `name` the value `v`: in place if the name is present, else at the end. -/
def upsert {β : Type} (name : String) (v : β) : List (String × β) → List (String × β)
  | [] => [(name, v)]
  | (m, w) :: rest => if m == name then (name, v) :: rest else (m, w) :: upsert name v rest

/-- The variables of a shell. -/
structure Env where
  /-- The variables that have a value, in order of first assignment. -/
  vars : List (String × String) := []
  /-- The exported names, in order of first export, with their values if they have one. -/
  exported : List (String × Option String) := []
  deriving DecidableEq, Repr, Inhabited

namespace Env

/-- The value of a variable. -/
def get (e : Env) (name : String) : Option String :=
  e.vars.lookup name

/-- Whether a name is set or exported. -/
def contains (e : Env) (name : String) : Bool :=
  (e.get name).isSome || e.exported.any (fun p => p.1 == name)

/-- Assigns a value to a variable, which also exports it. -/
def set (e : Env) (name value : String) : Env :=
  { vars := upsert name value e.vars, exported := upsert name (some value) e.exported }

/-- Removes a variable from both collections. -/
def unset (e : Env) (name : String) : Env :=
  { vars := e.vars.filter (fun p => p.1 != name),
    exported := e.exported.filter (fun p => p.1 != name) }

/-- Whether removing a name removes anything. -/
def unsets (e : Env) (name : String) : Bool :=
  e.vars.any (fun p => p.1 == name) || e.exported.any (fun p => p.1 == name)

/-- Marks a name for export, with its current value; a name already exported is left as it
is. -/
def exportMark (e : Env) (name : String) : Env :=
  if e.exported.any (fun p => p.1 == name) then e
  else { e with exported := e.exported ++ [(name, e.get name)] }

/-- The store that holds the validly named pairs, in order; a later pair for the same name
replaces the earlier value. -/
def ofPairs (pairs : List (String × String)) : Env :=
  pairs.foldl (fun e p => if isValidName p.1 then e.set p.1 p.2 else e) {}

/-- An exported entry as `NAME=VALUE`, or `NAME` alone when it has no value. -/
def showExported (p : String × Option String) : String :=
  match p.2 with
  | some v => p.1 ++ "=" ++ v
  | none => p.1

/-- The variables as `NAME=VALUE` texts, the form a program's environment takes. -/
def entries (e : Env) : List String :=
  e.vars.map (fun p => p.1 ++ "=" ++ p.2)

/-- An environment for a program cannot hold a NUL character. -/
structure NulInArgument where
  deriving DecidableEq, Repr

/-- The message that reports a NUL in an argument or environment entry. -/
def NulInArgument.message (_ : NulInArgument) : String :=
  "argument contains an embedded NUL byte"

/-- The environment a program receives, unless some entry holds a NUL character. -/
def toEnvp (e : Env) : Except NulInArgument (List String) :=
  let es := e.entries
  if es.any (fun s => s.toList.contains (Char.ofNat 0)) then .error {} else .ok es

end Env

end Conch
