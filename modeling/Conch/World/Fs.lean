import Conch.World.Path
import Conch.Text.Utf8

/-!
# A file system

The file system is a table from absolute, symbolic-link-free paths to entries.  Every entry
but the root has its parent directory in the table.  An entry is a directory, a regular file,
a compiled program of the system (named by the tool it runs), a symbolic link or a device,
and carries its permission bits.

A regular file is known by its serial number, and its octets are kept under that number
apart from the names.  Removing a name leaves the octets in place, so a file that is still
open can be read and written after it is gone from every directory, and two names or two
open files are the same file exactly when their serial numbers agree.  Paths and contents
are octet strings (`Octets`).

A path is looked up the way the kernel does it: name by name from the root or from the
working directory, where every name but the last must lead to a directory, `.` stays, `..`
goes up (the root is its own parent), and a symbolic link is replaced by the path it holds,
at most forty times in one lookup.  A path that ends with a slash must name a directory.

The shell runs as the superuser, so reading and writing are never refused; only running a
file needs one of its execute bits.

Main definitions: `Fs.resolve`, `Fs.locate`, `Fs.contentOf` and `Fs.writeFile`.
-/

namespace Conch

/-- Why a file operation failed, one constructor for each system error number that can arise. -/
inductive Errno where
  | noEntry
  | notDirectory
  | isDirectory
  | permission
  | exists
  | loop
  | execFormat
  | notEmpty
  | invalid
  | noSpace
  | badDescriptor
  deriving DecidableEq, Repr, Inhabited

/-- The system's description of an error number. -/
def Errno.describe : Errno → String
  | .noEntry => "No such file or directory"
  | .notDirectory => "Not a directory"
  | .isDirectory => "Is a directory"
  | .permission => "Permission denied"
  | .exists => "File exists"
  | .loop => "Too many levels of symbolic links"
  | .execFormat => "Exec format error"
  | .notEmpty => "Directory not empty"
  | .invalid => "Invalid argument"
  | .noSpace => "No space left on device"
  | .badDescriptor => "Bad file descriptor"

/-- The system's number of an error. -/
def Errno.number : Errno → Nat
  | .noEntry => 2
  | .notDirectory => 20
  | .isDirectory => 21
  | .permission => 13
  | .exists => 17
  | .loop => 40
  | .execFormat => 8
  | .notEmpty => 39
  | .invalid => 22
  | .noSpace => 28
  | .badDescriptor => 9

/-- The symbolic name of an error number. -/
def Errno.name : Errno → String
  | .noEntry => "ENOENT"
  | .notDirectory => "ENOTDIR"
  | .isDirectory => "EISDIR"
  | .permission => "EACCES"
  | .exists => "EEXIST"
  | .loop => "ELOOP"
  | .execFormat => "ENOEXEC"
  | .notEmpty => "ENOTEMPTY"
  | .invalid => "EINVAL"
  | .noSpace => "ENOSPC"
  | .badDescriptor => "EBADF"

/-- An error as an error of the standard library shows it: the description and the number. -/
def Errno.withNumber (e : Errno) : String :=
  e.describe ++ " (os error " ++ toString e.number ++ ")"

/-- The devices of the system. -/
inductive Device where
  /-- Reads nothing, swallows every write. -/
  | null
  /-- Reads zero octets without end, swallows every write. -/
  | zero
  /-- Reads zero octets without end, refuses every write for want of space. -/
  | full
  /-- The open file that the process opening it has under descriptor `fd`. -/
  | stream (fd : Nat)
  deriving DecidableEq, Repr

/-- What a path can name. -/
inductive Node where
  | directory
  | file (serial : Nat)
  | program (tool : String)
  | link (target : String)
  | device (d : Device)
  deriving DecidableEq, Repr

/-- Whether a node is a directory. -/
def Node.isDirectory : Node → Bool
  | .directory => true
  | _ => false

/-- Whether a node is a regular file (a program is one too). -/
def Node.isRegular : Node → Bool
  | .file _ => true
  | .program _ => true
  | _ => false

/-- An entry of the file system: a node and its permission bits. -/
structure Entry where
  node : Node
  mode : Nat
  deriving DecidableEq, Repr

/-- Whether any execute bit of an entry is set, which is what the superuser needs to run it. -/
def Entry.executable (e : Entry) : Bool := e.mode % 512 / 64 % 2 == 1 || e.mode % 64 / 8 % 2 == 1 ||
  e.mode % 8 % 2 == 1

/-- A file system: absolute paths without symbolic links, each with its entry, and the octets
of every regular file by serial number. -/
structure Fs where
  entries : List (String × Entry)
  /-- The octets of each regular file, by serial number. -/
  contents : List (Nat × Octets) := []
  /-- The serial number the next new file gets. -/
  nextSerial : Nat := 0
  /-- The time, in milliseconds.  It moves on only when a program waits: the clock that stamps
  files ticks too coarsely to tell apart the changes of a script that does not. -/
  clock : Nat := 0
  /-- When each entry last changed, by path: the clock's reading then.  An entry that never
  changed is as old as the oldest change. -/
  stamps : List (String × Nat) := []
  deriving Repr, Inhabited

/-- Where a path leads when it is opened for creation: an entry that is there, or the path a
new entry would get. -/
inductive Spot where
  | existing (path : String)
  | fresh (path : String)
  deriving DecidableEq, Repr

/-- The most symbolic links one lookup follows. -/
def linkLimit : Nat := 40

namespace Fs

/-- The entry at an absolute path without links. -/
def find (fs : Fs) (p : String) : Option Entry := fs.entries.lookup p

/-- Whether an absolute path without links is a directory. -/
def isDirectoryAt (fs : Fs) (p : String) : Bool :=
  match fs.find p with
  | some e => e.node.isDirectory
  | none => false

/-- When the entry at a path last changed. -/
def stampAt (fs : Fs) (p : String) : Nat := (fs.stamps.lookup p).getD 0

/-- Records a change of the entries at some paths: they get the clock's reading. -/
def touchPaths (fs : Fs) (ps : List String) : Fs :=
  { fs with stamps := ps.map (·, fs.clock) ++ fs.stamps.filter (fun q => !ps.contains q.1) }

/-- Moves the clock on by some milliseconds. -/
def advance (fs : Fs) (ms : Nat) : Fs := { fs with clock := fs.clock + ms }

/-- Gives the entry at a path the time of change of another one, or the oldest time. -/
def setStamp (fs : Fs) (p : String) (stamp : Nat) : Fs :=
  { fs with stamps := (p, stamp) :: fs.stamps.filter (·.1 != p) }

/-- Puts an entry at a path, replacing what was there; the entry and its directory change. -/
def insert (fs : Fs) (p : String) (e : Entry) : Fs :=
  let fs := if fs.entries.any (fun q => q.1 == p) then
      { fs with entries := fs.entries.map (fun q => if q.1 == p then (p, e) else q) }
    else { fs with entries := fs.entries ++ [(p, e)] }
  fs.touchPaths [p, Path.parent p]

/-- Removes the entry at a path and everything below it; the octets of removed files stay, and
the directory that held it changes. -/
def erase (fs : Fs) (p : String) : Fs :=
  let fs := { fs with entries := fs.entries.filter (fun q => !Path.isWithin p q.1),
                      stamps := fs.stamps.filter (fun q => !Path.isWithin p q.1) }
  fs.touchPaths [Path.parent p]

/-- The octets of the regular file with a serial number. -/
def contentOf (fs : Fs) (serial : Nat) : Octets := (fs.contents.lookup serial).getD ""

/-- Replaces the octets of the regular file with a serial number; every name of it changes. -/
def setContent (fs : Fs) (serial : Nat) (text : Octets) : Fs :=
  let fs := { fs with contents := (serial, text) :: fs.contents.filter (·.1 != serial) }
  fs.touchPaths ((fs.entries.filter (fun q => q.2.node == .file serial)).map (·.1))

/-- A new regular file with its octets: the file system that holds it and its serial number. -/
def newFile (fs : Fs) (text : Octets) : Fs × Nat :=
  ({ fs with contents := (fs.nextSerial, text) :: fs.contents, nextSerial := fs.nextSerial + 1 },
   fs.nextSerial)

/-- The serial number of the regular file at an absolute path without links. -/
def serialAt (fs : Fs) (p : String) : Option Nat :=
  match fs.find p with
  | some ⟨.file n, _⟩ => some n
  | _ => none

/-- The names of the entries directly inside a directory, in table order. -/
def children (fs : Fs) (dir : String) : List String :=
  (fs.entries.filter (fun q => q.1 != dir && Path.parent q.1 == dir && q.1 != "/")).map
    (fun q => Path.baseName q.1)

/-- Follows the names `ns` from the directory `dir`, with `fuel` symbolic links to spare, to
the link-free path they lead to. -/
def walk (fs : Fs) (fuel : Nat) (dir : String) (ns : List String) : Except Errno String :=
  match ns with
  | [] => .ok dir
  | n :: rest =>
      match fs.find dir with
      | none => .error .noEntry
      | some e =>
          if !e.node.isDirectory then .error .notDirectory
          else if n == "." then fs.walk fuel dir rest
          else if n == ".." then fs.walk fuel (Path.parent dir) rest
          else
            let p := Path.child dir n
            match fs.find p with
            | none => .error .noEntry
            | some ⟨.link t, _⟩ =>
                match fuel with
                | 0 => .error .loop
                | f + 1 =>
                    match fs.walk f (if Path.isAbsolute t then "/" else dir) (Path.names t) with
                    | .ok target => fs.walk f target rest
                    | .error err => .error err
            | some _ => fs.walk fuel p rest
termination_by (fuel, ns.length)

/-- Where a lookup starts: the root for an absolute path, else the working directory. -/
def start (cwd path : String) : String := if Path.isAbsolute path then "/" else cwd

/-- The link-free path of what `path` names, seen from the working directory `cwd` (itself
link-free). -/
def resolve (fs : Fs) (cwd path : String) : Except Errno String :=
  if path.isEmpty then .error .noEntry
  else
    match fs.walk linkLimit (start cwd path) (Path.names path) with
    | .ok p =>
        if path.endsWith "/" && !fs.isDirectoryAt p then .error .notDirectory else .ok p
    | .error e => .error e

/-- The entry `path` names. -/
def stat (fs : Fs) (cwd path : String) : Except Errno Entry :=
  match fs.resolve cwd path with
  | .ok p =>
      match fs.find p with
      | some e => .ok e
      | none => .error .noEntry
  | .error e => .error e

/-- The link-free path of the entry a name leads to, its last name not followed if it is a
symbolic link: what removing the name removes. -/
def entryPath (fs : Fs) (cwd path : String) : Except Errno String :=
  if path.isEmpty then .error .noEntry
  else
    let ns := Path.names path
    match ns.getLast? with
    | none => .ok "/"
    | some last =>
        match fs.walk linkLimit (start cwd path) ns.dropLast with
        | .error e => .error e
        | .ok dir =>
            if last == "." || last == ".." then fs.walk linkLimit dir [last]
            else if !fs.isDirectoryAt dir then
              .error (if (fs.find dir).isSome then .notDirectory else .noEntry)
            else
              let q := Path.child dir last
              if (fs.find q).isSome then .ok q else .error .noEntry

/-- Where `path` leads when it is opened for creation. -/
def locate (fs : Fs) (cwd path : String) : Except Errno Spot :=
  if path.isEmpty then .error .noEntry
  else
    let ns := Path.names path
    match ns.getLast? with
    | none => .ok (.existing "/")
    | some last =>
        match fs.walk linkLimit (start cwd path) ns.dropLast with
        | .error e => .error e
        | .ok dir =>
            if !fs.isDirectoryAt dir then
              .error (if (fs.find dir).isSome then .notDirectory else .noEntry)
            else if last == "." || last == ".." || (fs.find (Path.child dir last)).isSome then
              match fs.walk linkLimit dir [last] with
              | .ok q =>
                  if path.endsWith "/" && !fs.isDirectoryAt q then .error .notDirectory
                  else .ok (.existing q)
              | .error e => .error e
            else if path.endsWith "/" then .error .isDirectory
            else .ok (.fresh (Path.child dir last))

/-- The octets of the regular file at an absolute path without links, empty for anything
else. -/
def contentAt (fs : Fs) (p : String) : Octets :=
  match fs.serialAt p with
  | some n => fs.contentOf n
  | none => ""

/-- Makes a new regular file with its octets at an absolute path, replacing what was there. -/
def createFile (fs : Fs) (p : String) (content : Octets) (mode : Nat) : Fs :=
  let (fs, n) := fs.newFile content
  fs.insert p ⟨.file n, mode⟩

/-- Writes octets to the regular file at an absolute path, making it with `mode` if it is not
there. -/
def writeFile (fs : Fs) (p : String) (content : Octets) (mode : Nat) : Fs :=
  match fs.find p with
  | some ⟨.file n, _⟩ => fs.setContent n content
  | some e => fs.createFile p content e.mode
  | none => fs.createFile p content mode

/-- Writes octets at the end of a regular file. -/
def appendTo (fs : Fs) (p : String) (text : Octets) : Fs :=
  fs.writeFile p (fs.contentAt p ++ text) 0o644

/-- Where the output of a program that writes a named file goes. -/
inductive Sink where
  /-- A regular file, written from its start or appended to. -/
  | file (path : String) (append : Bool)
  /-- Nowhere. -/
  | discard
  /-- The program's own standard stream with this descriptor. -/
  | stream (fd : Nat)
  deriving DecidableEq, Repr

/-- Opens `path` for writing: creates a missing file with `mode`, empties an existing one
unless `append`, and refuses a directory. -/
def openSink (fs : Fs) (cwd path : String) (append : Bool) (mode : Nat) :
    Except Errno (Fs × Sink) :=
  match fs.locate cwd path with
  | .error e => .error e
  | .ok (.fresh p) => .ok (fs.createFile p "" mode, .file p append)
  | .ok (.existing p) =>
      match fs.find p with
      | none => .error .noEntry
      | some e =>
          match e.node with
          | .directory => .error .isDirectory
          | .device (.stream n) => .ok (fs, .stream n)
          | .device .full => .error .noSpace
          | .device _ => .ok (fs, .discard)
          | _ =>
              if append then .ok (fs, .file p true)
              else .ok (fs.writeFile p "" e.mode, .file p false)

/-- Makes a directory with every missing directory above it. -/
def makeDirs (fs : Fs) (p : String) : Fs :=
  let ns := Path.names p
  (List.range ns.length).foldl (fun acc i =>
    let q := "/" ++ "/".intercalate (ns.take (i + 1))
    if (acc.find q).isSome then acc else acc.insert q ⟨.directory, 0o755⟩) fs

/-- Changes the permission bits of an entry; its time of change stays. -/
def chmod (fs : Fs) (p : String) (mode : Nat) : Fs :=
  { fs with entries := fs.entries.map (fun q => if q.1 == p then (p, { q.2 with mode := mode }) else q) }

/-- Permission bits written in octal, as `chmod` takes them. -/
def modeOf? (s : String) : Option Nat :=
  if s.isEmpty then none
  else s.toList.foldl (fun acc c =>
    acc.bind fun n => if '0' ≤ c && c ≤ '7' then some (n * 8 + (c.toNat - '0'.toNat)) else none)
    (some 0)

/-- Every entry within a directory, the directory itself left out. -/
def below (fs : Fs) (root : String) : List (String × Entry) :=
  fs.entries.filter (fun q => q.1 != root && Path.isWithin root q.1)

end Fs

end Conch
