import Conch.Command.Resolve
import Mathlib

/-!
# Finding the program a command names

A command name with a slash is a path, checked as it stands: a path that names nothing is
"No such file or directory", a directory is "Is a directory", and something that may not be
run is "Permission denied", in this order; anything else is the program.  Any other name is
looked up along the search path: an empty name, a name of dots only and an unset search path
find nothing, and otherwise the program is the first directory of the search path, extended
by the name, that holds a regular file that may be run.

The lookup along the search path is a `List.find?` over the candidate paths
(`searchFor_eq_find?`), so "first" means the least position: every directory before it
holds no runnable file of that name (`searchFor_eq_some_iff`).  All of this is stated for
every probe, that is for every file system at once.

Main statement: `resolveCommand_finds_first_runnable`.
-/

set_option autoImplicit false

namespace Conch

/-- Whether the probe shows a regular file that may be run at a path. -/
def Probe.runnable (probe : Probe) (p : String) : Bool :=
  match probe p with
  | some f => f.isRegular && f.executable
  | none => false

section Search

variable (probe : Probe) (name : String)

/-- The search tries the directories in order and keeps the first candidate that may be
run. -/
theorem searchFor_eq_find? (dirs : List String) :
    searchFor probe name dirs = (dirs.map (Path.join · name)).find? probe.runnable := by
  induction dirs with
  | nil => rfl
  | cons d rest ih =>
    cases hp : probe (Path.join d name) with
    | none => simp [searchFor, Probe.runnable, hp, ih]
    | some f =>
      by_cases hf : (f.isRegular && f.executable) = true
      · simp [searchFor, Probe.runnable, hp, hf]
      · simp [searchFor, Probe.runnable, hp, hf, ih]

/-- The search finds `p` exactly when `p` is the name under the directory at the least
position whose candidate may be run. -/
theorem searchFor_eq_some_iff (dirs : List String) (p : String) :
    searchFor probe name dirs = some p ↔
      ∃ i, ∃ h : i < dirs.length, p = Path.join dirs[i] name ∧ probe.runnable p ∧
        ∀ j (hj : j < i), probe.runnable (Path.join dirs[j] name) = false := by
  rw [searchFor_eq_find?, List.find?_eq_some_iff_getElem]
  constructor
  · rintro ⟨hp, i, hi, rfl, hbefore⟩
    refine ⟨i, by simpa using hi, by simp, hp, fun j hj => ?_⟩
    simpa using hbefore j hj
  · rintro ⟨i, hi, rfl, hp, hbefore⟩
    refine ⟨hp, i, by simpa using hi, by simp, fun j hj => ?_⟩
    simpa using hbefore j hj

/-- The search finds nothing exactly when no candidate may be run. -/
theorem searchFor_eq_none_iff (dirs : List String) :
    searchFor probe name dirs = none ↔
      ∀ d ∈ dirs, probe.runnable (Path.join d name) = false := by
  rw [searchFor_eq_find?, List.find?_eq_none]
  simp

end Search

section Resolve

variable {probe : Probe} {name : String} {searchPath : Option String}

/-- A name with a slash is the program itself when it names something that is no directory
and may be run; otherwise it fails on the first of these three checks that fails. -/
theorem resolveCommand_of_path (hslash : name.contains '/' = true) :
    (probe name = none → resolveCommand probe name searchPath = .error (.noSuchFile name)) ∧
    (∀ f, probe name = some f → f.isDirectory = true →
      resolveCommand probe name searchPath = .error (.isDirectory name)) ∧
    (∀ f, probe name = some f → f.isDirectory = false → f.executable = false →
      resolveCommand probe name searchPath = .error (.permissionDenied name)) ∧
    (∀ f, probe name = some f → f.isDirectory = false → f.executable = true →
      resolveCommand probe name searchPath = .ok name) := by
  refine ⟨fun hnone => ?_, fun f hf hdir => ?_, fun f hf hdir hexec => ?_,
    fun f hf hdir hexec => ?_⟩ <;>
    simp_all [resolveCommand]

/-- A name without a slash that is empty or all dots, or looked up with no search path, names
no program. -/
theorem resolveCommand_notFound_of_blank (hslash : name.contains '/' = false)
    (hblank : name = "" ∨ name.all (· == '.') = true ∨ searchPath = none) :
    resolveCommand probe name searchPath = .error (.notFound name) := by
  rcases hblank with rfl | hdots | rfl
  · simp [resolveCommand]
  · simp [resolveCommand, hslash, hdots]
  · cases hn : name.isEmpty <;> cases ha : name.all (· == '.') <;>
      simp [resolveCommand, hslash, hn, ha]

/-- Any other name is searched for along the search path. -/
theorem resolveCommand_of_search (hslash : name.contains '/' = false) (hname : name ≠ "")
    (hdots : name.all (· == '.') = false) (sp : String) :
    resolveCommand probe name (some sp) =
      (searchFor probe name (searchDirs sp)).elim (.error (.notFound name)) .ok := by
  have hempty : name.isEmpty = false := by simpa [String.isEmpty_iff] using hname
  cases hs : searchFor probe name (searchDirs sp) <;>
    simp [resolveCommand, hslash, hempty, hdots, hs]

end Resolve

/-- The program a command name stands for.  A name with a slash is used as it stands: it
fails with "No such file or directory" when it names nothing, then with "Is a directory",
then with "Permission denied" when it may not be run.  A name without a slash that is empty
or all dots, or looked up with no search path, is not found.  Any other name is the first
directory of the search path (an empty entry read as `.`) extended by the name, at the least
position where that path is a regular file that may be run, and it is not found when there is
none.  Names not found and paths naming nothing end with status 127; directories and paths
that may not be run end with 126. -/
theorem resolveCommand_finds_first_runnable (probe : Probe) (name : String)
    (searchPath : Option String) :
    (name.contains '/' = true →
      (probe name = none → resolveCommand probe name searchPath = .error (.noSuchFile name)) ∧
      (∀ f, probe name = some f → f.isDirectory = true →
        resolveCommand probe name searchPath = .error (.isDirectory name)) ∧
      (∀ f, probe name = some f → f.isDirectory = false → f.executable = false →
        resolveCommand probe name searchPath = .error (.permissionDenied name)) ∧
      (∀ f, probe name = some f → f.isDirectory = false → f.executable = true →
        resolveCommand probe name searchPath = .ok name)) ∧
    (name.contains '/' = false → (name = "" ∨ name.all (· == '.') = true ∨ searchPath = none) →
      resolveCommand probe name searchPath = .error (.notFound name)) ∧
    (name.contains '/' = false → name ≠ "" → name.all (· == '.') = false →
      ∀ sp, searchPath = some sp →
        (∀ p, resolveCommand probe name searchPath = .ok p ↔
          ∃ i, ∃ h : i < (searchDirs sp).length, p = Path.join (searchDirs sp)[i] name ∧
            probe.runnable p ∧
            ∀ j (hj : j < i), probe.runnable (Path.join (searchDirs sp)[j] name) = false) ∧
        ((∀ d ∈ searchDirs sp, probe.runnable (Path.join d name) = false) →
          resolveCommand probe name searchPath = .error (.notFound name))) ∧
    (∀ e : ResolveError, e.exitKind.code = 127 ↔
      ∃ n, e = .notFound n ∨ e = .noSuchFile n) ∧
    (∀ e : ResolveError, e.exitKind.code = 126 ↔
      ∃ n, e = .isDirectory n ∨ e = .permissionDenied n) := by
  refine ⟨resolveCommand_of_path, resolveCommand_notFound_of_blank,
    fun hslash hname hdots sp hsp => ?_, fun e => ?_, fun e => ?_⟩
  · subst hsp
    rw [resolveCommand_of_search hslash hname hdots sp]
    refine ⟨fun p => ?_, fun hnone => ?_⟩
    · rw [← searchFor_eq_some_iff]
      cases searchFor probe name (searchDirs sp) <;> simp
    · rw [(searchFor_eq_none_iff probe name _).2 hnone]
      rfl
  · cases e <;> simp [ResolveError.exitKind, ExitKind.code]
  · cases e <;> simp [ResolveError.exitKind, ExitKind.code]

/-- With the search path `/a::/b`, where `/a/ls` is a directory and `./ls` names nothing, `ls`
is the runnable file of the third directory, as `resolveCommand_finds_first_runnable` says. -/
theorem resolveCommand_skips_directory :
    let probe : Probe := fun p =>
      if p = "/a/ls" then some ⟨true, false, true⟩
      else if p = "/b/ls" then some ⟨false, true, true⟩ else none
    resolveCommand probe "ls" (some "/a::/b") = .ok "/b/ls" := by
  intro probe
  have hsplit : "/a::/b".splitOn ":" = ["/a", "", "/b"] := by
    simp +decide [String.splitOn, String.splitOnAux]
  have hdirs : searchDirs "/a::/b" = ["/a", ".", "/b"] := by simp [searchDirs, hsplit]
  have hjoin : Path.join "/a" "ls" = "/a/ls" ∧ Path.join "." "ls" = "./ls" ∧
      Path.join "/b" "ls" = "/b/ls" := by cbv
  have hfound := ((resolveCommand_finds_first_runnable probe "ls" (some "/a::/b")).2.2.1
    (by cbv) (by cbv) (by cbv) _ rfl).1 "/b/ls"
  refine hfound.2 ⟨2, by simp [hdirs], by simp [hdirs, hjoin], by simp [Probe.runnable, probe], ?_⟩
  intro j hj
  rcases j with _ | _ | j
  · simp [hdirs, hjoin, Probe.runnable, probe]
  · simp [hdirs, hjoin, Probe.runnable, probe]
  · omega

end Conch
