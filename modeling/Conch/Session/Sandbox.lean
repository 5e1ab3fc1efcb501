import Conch.Session.Loop

/-!
# A run in a scratch directory

The shell can be run in a prepared scratch directory: a fresh system whose scratch directory
holds the given directories and files (each file with permission bits `0644`, then the
given modes), and, if asked, a configuration file `.config/nacre/config.toml` inside it.  The
shell starts there with its standard input holding the script, with the environment `HOME`
(the scratch directory), `PATH=/usr/bin:/bin` and `XDG_CONFIG_HOME` (`.config` in it),
changed by the given variables, where a variable without a value is removed, and handed to
the shell sorted by name.

The report of a run gives what the shell wrote on its two output streams and every file and
directory left under the scratch directory, sorted by path, the configuration directory
left out.  Everything the world holds as octets is shown as text, each ill-formed part
replaced.

Main definitions: `Sandbox`, `Sandbox.run` and `Report`.
-/

namespace Conch

/-- A run of the shell in a scratch directory. -/
structure Sandbox where
  /-- The scratch directory: an absolute path. -/
  root : String
  /-- The script, waiting on the shell's standard input. -/
  script : Octets
  /-- Variables to set, or to remove when they have no value. -/
  env : List (String × Option String) := []
  /-- Files to make, by path relative to the scratch directory, with their text. -/
  files : List (String × String) := []
  /-- Directories to make, relative to the scratch directory. -/
  dirs : List String := []
  /-- Permission bits to give, by relative path. -/
  modes : List (String × Nat) := []
  /-- The text of the configuration file, if there is one. -/
  config : Option String := none
  /-- The shell's command-line arguments. -/
  args : List String := []

/-- What a run in a scratch directory leaves. -/
structure Report where
  /-- What the shell wrote to its standard output. -/
  stdout : String
  /-- What the shell wrote to its standard error. -/
  stderr : String
  /-- The shell's exit status. -/
  status : Nat
  /-- The regular files under the scratch directory with their texts, sorted by path. -/
  files : List (String × String)
  /-- The directories under the scratch directory, sorted by path. -/
  dirs : List String

namespace Sandbox

/-- The path of a name relative to the scratch directory, as octets. -/
def inside (s : Sandbox) (rel : String) : Octets := Octets.ofText (Path.join s.root rel)

/-- The file system with the scratch directory prepared. -/
def fs (s : Sandbox) : Fs :=
  let fs := Machine.image.makeDirs (Octets.ofText s.root)
  let fs := s.dirs.foldl (fun fs d => fs.makeDirs (s.inside d)) fs
  let fs := s.files.foldl (fun fs (rel, text) =>
    let p := s.inside rel
    (fs.makeDirs (Path.parent p)).writeFile p (Octets.ofText text) 0o644) fs
  let fs := s.modes.foldl (fun fs (rel, m) => fs.chmod (s.inside rel) m) fs
  let fs := match s.config with
    | some c =>
        let p := s.inside ".config/nacre/config.toml"
        (fs.makeDirs (Path.parent p)).writeFile p (Octets.ofText c) 0o644
    | none => fs
  -- The shell starts a moment after the directory is prepared.
  fs.advance 1000

/-- The environment the shell is started with, sorted by name. -/
def environment (s : Sandbox) : List (String × String) :=
  let base := [("HOME", s.root), ("PATH", "/usr/bin:/bin"),
               ("XDG_CONFIG_HOME", Path.join s.root ".config")]
  let env := s.env.foldl (fun acc (n, v) =>
    let rest := acc.filter (·.1 != n)
    match v with
    | some v => rest ++ [(n, v)]
    | none => rest) base
  env.mergeSort (fun a b => !decide (b.1 < a.1))

/-- Whether a relative path lies in the configuration directory. -/
def isConfigPath (rel : String) : Bool := rel == ".config" || rel.startsWith ".config/"

/-- Runs the shell in the scratch directory and reports what it left. -/
def run (s : Sandbox) (pid : Nat) : Report :=
  let fin := Launch.run
    { args := s.args, env := s.environment, cwd := s.root, fs := s.fs, input := s.script, pid }
  let fs := fin.world.fs
  let root := Octets.ofText s.root
  let entries := (fs.below root).map (fun e => (Octets.toText (Path.relativeTo root e.1), e.2))
  let entries := (entries.filter (fun e => !isConfigPath e.1)).mergeSort
    (fun a b => !decide (b.1 < a.1))
  { stdout := Octets.toText fin.world.output, stderr := Octets.toText fin.world.errors,
    status := fin.status,
    files := entries.filterMap (fun e => match e.2.node with
      | .file n => some (e.1, Octets.toText (fs.contentOf n))
      | _ => none),
    dirs := entries.filterMap (fun e => if e.2.node.isDirectory then some e.1 else none) }

end Sandbox

end Conch
