import Conch.World.Path
import Conch.Status

/-!
# Finding the program a command names

A command name that contains a slash is a path and is used as it is: it must name something
(else "No such file or directory"), not a directory (else "Is a directory"), and something
that may be run (else "Permission denied"), checked in that order.

Any other name is looked up in the search path, a colon-separated list of directories where
an empty entry stands for the working directory `.`: the first directory holding a regular
file of that name that may be run wins, and the result is that directory extended by the
name, relative if the directory is.  An empty name, a name made only of dots, and an unset
search path are never found.

The lookup only asks the file system what each path is, through a `Probe`, so it can be
reasoned about for every file system at once.

Main definitions: `resolveCommand` and `ResolveError`.
-/

namespace Conch

/-- What looking at a path tells: whether it is a directory, whether it is a regular file,
and whether it may be run. -/
structure PathFacts where
  isDirectory : Bool
  isRegular : Bool
  executable : Bool
  deriving DecidableEq, Repr

/-- What the file system says about each path: nothing when the path names nothing. -/
abbrev Probe := String → Option PathFacts

/-- Why a command name names no program to run. -/
inductive ResolveError where
  | notFound (name : String)
  | noSuchFile (name : String)
  | isDirectory (name : String)
  | permissionDenied (name : String)
  deriving DecidableEq, Repr

namespace ResolveError

/-- The message that reports the failure. -/
def message : ResolveError → String
  | .notFound n => n ++ ": command not found"
  | .noSuchFile n => n ++ ": No such file or directory"
  | .isDirectory n => n ++ ": Is a directory"
  | .permissionDenied n => n ++ ": Permission denied"

/-- The status a command that fails this way ends with. -/
def exitKind : ResolveError → ExitKind
  | .notFound _ | .noSuchFile _ => .notFound
  | .isDirectory _ | .permissionDenied _ => .cannotExecute

end ResolveError

/-- The directories of a search path, an empty entry read as `.`. -/
def searchDirs (searchPath : String) : List String :=
  (searchPath.splitOn ":").map (fun d => if d.isEmpty then "." else d)

/-- The first directory of `dirs` that holds a runnable regular file `name`, extended by it. -/
def searchFor (probe : Probe) (name : String) : List String → Option String
  | [] => none
  | d :: rest =>
      let p := Path.join d name
      match probe p with
      | some f => if f.isRegular && f.executable then some p else searchFor probe name rest
      | none => searchFor probe name rest

/-- The program a command name stands for, given the search path if one is set. -/
def resolveCommand (probe : Probe) (name : String) (searchPath : Option String) :
    Except ResolveError String :=
  if name.contains '/' then
    match probe name with
    | none => .error (.noSuchFile name)
    | some f =>
        if f.isDirectory then .error (.isDirectory name)
        else if !f.executable then .error (.permissionDenied name)
        else .ok name
  else if name.isEmpty || name.all (· == '.') then .error (.notFound name)
  else
    match searchPath with
    | none => .error (.notFound name)
    | some sp =>
        match searchFor probe name (searchDirs sp) with
        | some p => .ok p
        | none => .error (.notFound name)

end Conch
