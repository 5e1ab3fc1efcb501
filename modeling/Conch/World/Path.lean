/-!
# Path texts

A path is a text of names separated by slashes; it is absolute when it starts with a slash.
Extending a path by another follows the usual rule: an absolute path replaces the base, and
a single separator goes between the two unless the base is empty or already ends with one.

The lexical normal form drops `.` names and lets each `..` remove the name before it (at the
root it stays at the root).  It never looks at the file system, so it is what a shell that
keeps a logical working directory uses.

Main definitions: `Path.names`, `Path.join` and `Path.normalize`.
-/

namespace Conch.Path

/-- Whether a path is absolute. -/
def isAbsolute (p : String) : Bool := p.startsWith "/"

/-- The names of a path, leaving out the empty ones that doubled, leading and trailing
slashes leave. -/
def names (p : String) : List String :=
  ((p.toList.splitOn '/').map String.ofList).filter (fun s => !s.isEmpty)

/-- Extends `base` by `rel`. -/
def join (base rel : String) : String :=
  if isAbsolute rel then rel
  else if base.isEmpty || base.endsWith "/" then base ++ rel
  else base ++ "/" ++ rel

/-- The path of an entry `name` of the directory `dir`, both written without a trailing
slash. -/
def child (dir name : String) : String :=
  if dir == "/" then "/" ++ name else dir ++ "/" ++ name

/-- The directory that holds an absolute path; the root holds itself. -/
def parent (p : String) : String :=
  match (names p).dropLast with
  | [] => "/"
  | ns => "/" ++ "/".intercalate ns

/-- The last name of a path, or the path itself when it has none. -/
def baseName (p : String) : String := ((names p).getLast?).getD p

/-- Applies the names of a path to a stack of names: `.` stays, `..` pops, a name pushes. -/
def stackNames (stack : List String) : List String → List String
  | [] => stack
  | n :: rest =>
      if n == "." then stackNames stack rest
      else if n == ".." then stackNames stack.dropLast rest
      else stackNames (stack ++ [n]) rest

/-- The lexical normal form of a path. -/
def normalize (p : String) : String :=
  let ns := stackNames [] (names p)
  if isAbsolute p then "/" ++ "/".intercalate ns else "/".intercalate ns

/-- Whether `p` names `root` or something below it; both absolute and normalized. -/
def isWithin (root p : String) : Bool :=
  p == root || p.startsWith (if root == "/" then "/" else root ++ "/")

/-- The part of `p` below `root`, for a path within it. -/
def relativeTo (root p : String) : String :=
  if p == root then "" else (p.drop (root.length + 1)).copy

end Conch.Path
