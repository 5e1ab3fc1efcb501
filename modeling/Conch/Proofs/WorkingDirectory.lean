import Conch.Proofs.StoreLaws
import Conch.Builtin.Run
import Conch.Proofs.HistoryFile

/-!
# Changing the working directory

The shell keeps its working directory as a text: absolute, and in lexical normal form, with no
`.`, no `..` and no empty name in it.  A change of directory makes the target absolute against
the working directory, checks that it names a directory, and keeps its normal form; `PWD`
follows the working directory and `OLDPWD` the one before.

A change either fails, and then nothing changes, or it succeeds, and then only the two
variables and the working directory change: every other variable keeps its value and its
position (`Shell.setWorkingDir_spec`).  The `cd` command has no effect of its own besides
(`Builtin.cdCommand_cases`).

The normal form is a fixed point of normalizing (`Path.normalize_eq_self`), so a normal form
normalizes to itself (`Path.normalize_normalize`).  Hence `cd -` twice, from a shell a change of
directory has reached, goes back and forth and leaves the shell exactly as it was, as long as
both directories are still there (`Builtin.cd_back_twice`).

Main statement: `Shell.working_directory_changes`.
-/

set_option autoImplicit false

namespace Conch

/-! ## Normal forms of paths -/

theorem List.not_mem_of_mem_splitOn {α : Type} [BEq α] [LawfulBEq α] {a : α} :
    ∀ {xs piece : List α}, piece ∈ xs.splitOn a → a ∉ piece
  | [], piece, h => by simp_all [List.splitOn_nil]
  | x :: xs, piece, h => by
    rw [List.splitOn_cons_eq_if_modifyHead] at h
    split at h
    · rcases List.mem_cons.1 h with rfl | h
      · simp
      · exact List.not_mem_of_mem_splitOn h
    · next hx =>
      obtain ⟨first, rest, hsplit⟩ := List.exists_cons_of_ne_nil (List.splitOn_ne_nil a xs)
      rw [hsplit, List.modifyHead_cons] at h
      rcases List.mem_cons.1 h with rfl | h
      · have hfirst := List.not_mem_of_mem_splitOn (hsplit ▸ List.mem_cons_self)
        simp only [List.mem_cons, not_or]
        exact ⟨fun hax => hx (by simp [hax]), hfirst⟩
      · exact List.not_mem_of_mem_splitOn (hsplit ▸ List.mem_cons_of_mem _ h)

namespace Path

/-- A name a normal path can hold: not empty, without a slash, and neither `.` nor `..`. -/
def NormalName (n : String) : Prop := n ≠ "" ∧ '/' ∉ n.toList ∧ n ≠ "." ∧ n ≠ ".."

/-- The names of a path are not empty and hold no slash. -/
theorem mem_names {p n : String} (h : n ∈ names p) : n ≠ "" ∧ '/' ∉ n.toList := by
  simp only [names, List.filter_map, List.mem_map, List.mem_filter, Function.comp_apply,
    Bool.not_eq_true'] at h
  obtain ⟨piece, ⟨hpiece, hne⟩, rfl⟩ := h
  refine ⟨?_, ?_⟩
  · simpa using hne
  · simpa using List.not_mem_of_mem_splitOn hpiece

/-- Applying names to a stack of normal names leaves normal names: `.` and `..` are never
pushed. -/
theorem stackNames_normal (stack ns : List String) (hstack : ∀ n ∈ stack, NormalName n)
    (hns : ∀ n ∈ ns, n ≠ "" ∧ '/' ∉ n.toList) : ∀ n ∈ stackNames stack ns, NormalName n := by
  fun_induction stackNames stack ns with
  | case1 stack => exact hstack
  | case2 stack n rest hdot ih =>
    exact ih hstack fun m hm => hns m (List.mem_cons_of_mem _ hm)
  | case3 stack n rest hdot hup ih =>
    exact ih (fun m hm => hstack m (List.dropLast_subset _ hm))
      fun m hm => hns m (List.mem_cons_of_mem _ hm)
  | case4 stack n rest hdot hup ih =>
    refine ih (fun m hm => ?_) fun m hm => hns m (List.mem_cons_of_mem _ hm)
    rcases List.mem_append.1 hm with hm | hm
    · exact hstack m hm
    · obtain rfl := List.mem_singleton.1 hm
      obtain ⟨hne, hslash⟩ := hns m List.mem_cons_self
      exact ⟨hne, hslash, by simpa using hdot, by simpa using hup⟩

/-- Normal names are pushed as they are. -/
theorem stackNames_of_normal (stack ns : List String) (h : ∀ n ∈ ns, NormalName n) :
    stackNames stack ns = stack ++ ns := by
  induction ns generalizing stack with
  | nil => simp [stackNames]
  | cons n rest ih =>
    obtain ⟨-, -, hdot, hup⟩ := h n List.mem_cons_self
    rw [stackNames, if_neg (by simpa using hdot), if_neg (by simpa using hup),
      ih _ fun m hm => h m (List.mem_cons_of_mem _ hm)]
    simp

/-- A path written from the root with names that are not empty and hold no slash has exactly
those names. -/
theorem names_rooted {ns : List String} (h : ∀ n ∈ ns, n ≠ "" ∧ '/' ∉ n.toList) :
    names ("/" ++ "/".intercalate ns) = ns := by
  have hchars :
      ("/" ++ "/".intercalate ns).toList = '/' :: ['/'].intercalate (ns.map String.toList) := by
    simp [String.toList_intercalate]
  rw [names, hchars, List.splitOn_cons_eq_if_modifyHead, if_pos (by simp)]
  by_cases hnil : ns = []
  · subst hnil
    simp [List.splitOn_nil]
  · rw [List.splitOn_intercalate]
    · have hempty : (String.ofList [] : String).isEmpty = true := rfl
      simp only [List.map_cons, List.map_map, List.filter_cons, hempty]
      rw [List.filter_eq_self.2]
      · simp
      · intro n hn
        obtain ⟨m, hm, rfl⟩ := List.mem_map.1 hn
        simpa [String.isEmpty_iff] using (h m hm).1
    · intro l hl
      obtain ⟨m, hm, rfl⟩ := List.mem_map.1 hl
      exact (h m hm).2
    · simpa using hnil

theorem isAbsolute_rooted (s : String) : isAbsolute ("/" ++ s) = true := by
  simp [isAbsolute, String.startsWith_string_iff]

/-- The normal form of an absolute path is its names, with `.` and `..` applied, written from
the root. -/
theorem normalize_of_isAbsolute {p : String} (h : isAbsolute p = true) :
    normalize p = "/" ++ "/".intercalate (stackNames [] (names p)) := by
  simp [normalize, h]

theorem isAbsolute_normalize {p : String} (h : isAbsolute p = true) :
    isAbsolute (normalize p) = true := by
  rw [normalize_of_isAbsolute h]
  exact isAbsolute_rooted _

/-- The normal form is written from normal names. -/
theorem normalize_normal_names (p : String) :
    ∀ n ∈ stackNames [] (names p), NormalName n :=
  stackNames_normal [] (names p) (by simp) fun _ hn => mem_names hn

/-- A path written from the root with normal names is its own normal form. -/
theorem normalize_eq_self {ns : List String} (h : ∀ n ∈ ns, NormalName n) :
    normalize ("/" ++ "/".intercalate ns) = "/" ++ "/".intercalate ns := by
  rw [normalize_of_isAbsolute (isAbsolute_rooted _),
    names_rooted fun n hn => ⟨(h n hn).1, (h n hn).2.1⟩, stackNames_of_normal [] ns h,
    List.nil_append]

/-- Normalizing an absolute path twice is normalizing it once. -/
theorem normalize_normalize {p : String} (h : isAbsolute p = true) :
    normalize (normalize p) = normalize p := by
  rw [normalize_of_isAbsolute h]
  exact normalize_eq_self (normalize_normal_names p)

/-- An absolute path starts at the root. -/
theorem eq_rooted_of_isAbsolute {p : String} (h : isAbsolute p = true) :
    ∃ rest, p = "/" ++ rest := by
  obtain ⟨t, ht⟩ := (String.startsWith_string_iff.1 h)
  refine ⟨String.ofList t, String.toList_injective ?_⟩
  simpa using ht.symm

theorem isAbsolute_append {p : String} (h : isAbsolute p = true) (q : String) :
    isAbsolute (p ++ q) = true := by
  obtain ⟨rest, rfl⟩ := eq_rooted_of_isAbsolute h
  rw [String.append_assoc]
  exact isAbsolute_rooted _

theorem isAbsolute_join {base : String} (h : isAbsolute base = true) (rel : String) :
    isAbsolute (join base rel) = true := by
  unfold join
  split
  · assumption
  · split
    · exact isAbsolute_append h rel
    · rw [String.append_assoc]
      exact isAbsolute_append h _

end Path

theorem Octets.ofText_append (a b : String) :
    Octets.ofText (a ++ b) = Octets.ofText a ++ Octets.ofText b := by
  simp [Octets.ofText, Octets.ofBytes, ByteArray.toList_eq_data_toList, String.toByteArray_append]

theorem Path.isAbsolute_ofText {d : String} (h : Path.isAbsolute d = true) :
    Path.isAbsolute (Octets.ofText d) = true := by
  obtain ⟨rest, rfl⟩ := Path.eq_rooted_of_isAbsolute h
  have hroot : Octets.ofText "/" = "/" := by cbv
  rw [Octets.ofText_append, hroot]
  exact Path.isAbsolute_rooted _

/-! ## Directories of a file system -/

namespace Fs

/-- `d` names a directory: following it from the root ends at one. -/
def HasDirectory (fs : Fs) (d : String) : Prop :=
  ∃ q, fs.resolve "/" (Octets.ofText d) = .ok q ∧ fs.isDirectoryAt q = true

/-- An absolute path is followed from the root, wherever the lookup stands. -/
theorem resolve_of_isAbsolute (fs : Fs) {path : String} (h : Path.isAbsolute path = true)
    (cwd : String) : fs.resolve cwd path = fs.resolve "/" path := by
  simp [resolve, start, h]

/-- Looking up an absolute path that names a directory finds a directory, wherever the lookup
stands. -/
theorem stat_of_hasDirectory {fs : Fs} {d : String} (hd : fs.HasDirectory d)
    (habs : Path.isAbsolute d = true) (cwd : String) :
    ∃ e, fs.stat cwd (Octets.ofText d) = .ok e ∧ e.node.isDirectory = true := by
  obtain ⟨q, hq, hdir⟩ := hd
  unfold isDirectoryAt at hdir
  cases hfind : fs.find q with
  | none => simp [hfind] at hdir
  | some e =>
    refine ⟨e, ?_, by simpa [hfind] using hdir⟩
    simp [stat, resolve_of_isAbsolute fs (Path.isAbsolute_ofText habs) cwd, hq, hfind]

end Fs

/-! ## The variables a change of directory sets -/

namespace Env

/-- The variables after the working directory moved from `old` to `new`: a store that never had
an `OLDPWD` first takes it from `PWD`, then `OLDPWD` is `old` and `PWD` is `new`. -/
def moveDir (e : Env) (old new : String) : Env :=
  let e := if e.contains "OLDPWD" then e
    else match e.get "PWD" with
      | some pwd => e.set "OLDPWD" pwd
      | none => e
  (e.set "OLDPWD" old).set "PWD" new

variable (e : Env) (old new : String)

/-- Before the two assignments the store is itself, or itself with `OLDPWD` assigned. -/
theorem moveDir_eq : ∃ e₀, e.moveDir old new = (e₀.set "OLDPWD" old).set "PWD" new ∧
    (e₀ = e ∨ ∃ pwd, e₀ = e.set "OLDPWD" pwd) := by
  unfold moveDir
  split
  · exact ⟨e, rfl, .inl rfl⟩
  · split
    · next pwd _ => exact ⟨_, rfl, .inr ⟨pwd, rfl⟩⟩
    · exact ⟨e, rfl, .inl rfl⟩

/-- A store that has an `OLDPWD` only takes the two assignments. -/
theorem moveDir_of_contains (h : e.contains "OLDPWD" = true) :
    e.moveDir old new = (e.set "OLDPWD" old).set "PWD" new := by
  simp [moveDir, h]

theorem get_moveDir_pwd : (e.moveDir old new).get "PWD" = some new := by
  obtain ⟨e₀, heq, -⟩ := moveDir_eq e old new
  rw [heq, get_set_self]

theorem get_moveDir_oldpwd : (e.moveDir old new).get "OLDPWD" = some old := by
  obtain ⟨e₀, heq, -⟩ := moveDir_eq e old new
  rw [heq, get_set_of_ne _ _ _ (by decide), get_set_self]

theorem lookup_moveDir_exported_pwd :
    (e.moveDir old new).exported.lookup "PWD" = some (some new) := by
  obtain ⟨e₀, heq, -⟩ := moveDir_eq e old new
  rw [heq]
  exact lookup_upsert_self _ _ _

theorem lookup_moveDir_exported_oldpwd :
    (e.moveDir old new).exported.lookup "OLDPWD" = some (some old) := by
  obtain ⟨e₀, heq, -⟩ := moveDir_eq e old new
  rw [heq]
  simp only [Env.set]
  rw [lookup_upsert_of_ne _ _ (by decide), lookup_upsert_self]

theorem get_moveDir_of_ne {m : String} (hpwd : m ≠ "PWD") (hold : m ≠ "OLDPWD") :
    (e.moveDir old new).get m = e.get m := by
  obtain ⟨e₀, heq, he₀⟩ := moveDir_eq e old new
  rw [heq, get_set_of_ne _ _ _ hpwd, get_set_of_ne _ _ _ hold]
  rcases he₀ with rfl | ⟨pwd, rfl⟩
  · rfl
  · exact get_set_of_ne _ _ _ hold

/-- Every other variable keeps its position. -/
theorem moveDir_vars_getElem? {i : Nat} {p : String × String} (hi : e.vars[i]? = some p)
    (hpwd : p.1 ≠ "PWD") (hold : p.1 ≠ "OLDPWD") : (e.moveDir old new).vars[i]? = some p := by
  obtain ⟨e₀, heq, he₀⟩ := moveDir_eq e old new
  have h₀ : e₀.vars[i]? = some p := by
    rcases he₀ with rfl | ⟨pwd, rfl⟩
    · exact hi
    · exact getElem?_upsert_of_ne _ _ hi hold
  rw [heq]
  exact getElem?_upsert_of_ne _ _ (getElem?_upsert_of_ne _ _ h₀ hold) hpwd

/-- Every other exported name keeps its position and value. -/
theorem moveDir_exported_getElem? {i : Nat} {p : String × Option String}
    (hi : e.exported[i]? = some p) (hpwd : p.1 ≠ "PWD") (hold : p.1 ≠ "OLDPWD") :
    (e.moveDir old new).exported[i]? = some p := by
  obtain ⟨e₀, heq, he₀⟩ := moveDir_eq e old new
  have h₀ : e₀.exported[i]? = some p := by
    rcases he₀ with rfl | ⟨pwd, rfl⟩
    · exact hi
    · exact getElem?_upsert_of_ne _ _ hi hold
  rw [heq]
  exact getElem?_upsert_of_ne _ _ (getElem?_upsert_of_ne _ _ h₀ hold) hpwd

/-- Going to `back` and then to `forth` again, from a store whose `OLDPWD` is `back` and whose
`PWD` is `forth` in both collections, gives the store back. -/
theorem set_dirs_back_and_forth {e : Env} {back forth : String}
    (hold : e.vars.lookup "OLDPWD" = some back)
    (holdx : e.exported.lookup "OLDPWD" = some (some back))
    (hpwd : e.vars.lookup "PWD" = some forth)
    (hpwdx : e.exported.lookup "PWD" = some (some forth)) :
    ((((e.set "OLDPWD" forth).set "PWD" back).set "OLDPWD" back).set "PWD" forth) = e := by
  obtain ⟨hv, hx⟩ := mem_set_names e "OLDPWD" forth
  calc ((((e.set "OLDPWD" forth).set "PWD" back).set "OLDPWD" back).set "PWD" forth)
      = ((((e.set "OLDPWD" forth).set "OLDPWD" back).set "PWD" back).set "PWD" forth) := by
        rw [set_comm back back (by decide) hv hx]
    _ = (e.set "OLDPWD" back).set "PWD" forth := by simp only [set_set_self]
    _ = e := by rw [set_of_lookup hold holdx, set_of_lookup hpwd hpwdx]

end Env

/-! ## Changing the working directory -/

namespace Shell

variable {sh sh' : Shell} {fs : Fs} {target : String}

/-- A change of directory succeeds exactly when the target, made absolute, names a directory
and so does its normal form; the shell then keeps the normal form as its working directory and
moves `PWD` and `OLDPWD`. -/
theorem setWorkingDir_eq_ok_iff :
    sh.setWorkingDir fs target = .ok sh' ↔
      (∃ entry, fs.stat (sh.physicalCwd fs) (Octets.ofText (sh.absolutePath target)) = .ok entry ∧
        entry.node.isDirectory = true) ∧
      fs.HasDirectory (Path.normalize (sh.absolutePath target)) ∧
      sh' = { sh with env := sh.env.moveDir sh.cwd (Path.normalize (sh.absolutePath target)),
                      cwd := Path.normalize (sh.absolutePath target) } := by
  unfold setWorkingDir
  dsimp only
  cases hs : fs.stat (sh.physicalCwd fs) (Octets.ofText (sh.absolutePath target)) with
  | error e => simp
  | ok entry =>
    cases hr : fs.resolve "/" (Octets.ofText (Path.normalize (sh.absolutePath target))) with
    | error e => cases hnode : entry.node.isDirectory <;> simp [Fs.HasDirectory, Fs.enter, hr, hnode]
    | ok q =>
      cases hdir : fs.isDirectoryAt q <;> cases hnode : entry.node.isDirectory <;>
        simp [Fs.HasDirectory, Fs.enter, hr, hdir, hnode, Env.moveDir]
      exact eq_comm

/-- A change of directory fails exactly when looking the target up fails, when it is no
directory, or when its normal form names no directory; each failure has its own reason. -/
theorem setWorkingDir_eq_error_iff (e : DirError) :
    sh.setWorkingDir fs target = .error e ↔
      (∃ e', fs.stat (sh.physicalCwd fs) (Octets.ofText (sh.absolutePath target)) = .error e' ∧
        e = .lookup e') ∨
      (∃ entry, fs.stat (sh.physicalCwd fs) (Octets.ofText (sh.absolutePath target)) = .ok entry ∧
        entry.node.isDirectory = false ∧ e = .notDirectory) ∨
      (∃ entry, fs.stat (sh.physicalCwd fs) (Octets.ofText (sh.absolutePath target)) = .ok entry ∧
        entry.node.isDirectory = true ∧
        ¬ fs.HasDirectory (Path.normalize (sh.absolutePath target)) ∧
        ∃ e', fs.enter (Octets.ofText (Path.normalize (sh.absolutePath target))) = .error e' ∧
          e = .lookup e') := by
  unfold setWorkingDir
  dsimp only
  cases hs : fs.stat (sh.physicalCwd fs) (Octets.ofText (sh.absolutePath target)) with
  | error e' =>
    simp only [Except.error.injEq, reduceCtorEq, false_and, exists_false, or_false]
    exact ⟨fun h => ⟨e', rfl, h.symm⟩, fun ⟨_, h, he⟩ => h ▸ he.symm⟩
  | ok entry =>
    cases hr : fs.resolve "/" (Octets.ofText (Path.normalize (sh.absolutePath target))) with
    | error e' =>
      cases hnode : entry.node.isDirectory <;>
        simp [Fs.HasDirectory, Fs.enter, hr, hnode, @eq_comm _ e]
    | ok q =>
      cases hdir : fs.isDirectoryAt q <;> cases hnode : entry.node.isDirectory <;>
        simp [Fs.HasDirectory, Fs.enter, hr, hdir, hnode, @eq_comm _ e]

/-- What a successful change of directory does: only the variables and the working directory
change; the working directory and `PWD` become the normal form of the target made absolute,
`OLDPWD` becomes the old working directory, and every other variable keeps its value and its
position in both collections. -/
theorem setWorkingDir_spec (h : sh.setWorkingDir fs target = .ok sh') :
    sh' = { sh with env := sh'.env, cwd := sh'.cwd } ∧
    sh'.cwd = Path.normalize (sh.absolutePath target) ∧
    sh'.env.get "PWD" = some sh'.cwd ∧ sh'.env.get "OLDPWD" = some sh.cwd ∧
    (∀ m, m ≠ "PWD" → m ≠ "OLDPWD" → sh'.env.get m = sh.env.get m) ∧
    (∀ (i : Nat) (p : String × String), sh.env.vars[i]? = some p → p.1 ≠ "PWD" → p.1 ≠ "OLDPWD" →
      sh'.env.vars[i]? = some p) ∧
    (∀ (i : Nat) (p : String × Option String), sh.env.exported[i]? = some p → p.1 ≠ "PWD" →
      p.1 ≠ "OLDPWD" → sh'.env.exported[i]? = some p) := by
  obtain ⟨-, -, rfl⟩ := setWorkingDir_eq_ok_iff.1 h
  refine ⟨rfl, rfl, Env.get_moveDir_pwd .., Env.get_moveDir_oldpwd .., ?_, ?_, ?_⟩
  · intro m hpwd hold
    exact Env.get_moveDir_of_ne _ _ _ hpwd hold
  · intro i p hi hpwd hold
    exact Env.moveDir_vars_getElem? _ _ _ hi hpwd hold
  · intro i p hi hpwd hold
    exact Env.moveDir_exported_getElem? _ _ _ hi hpwd hold

theorem Fs.stat_empty (fs : Fs) (cwd : String) :
    ∃ e, fs.stat cwd (Octets.ofText "") = .error e := by
  have hempty : Octets.ofText "" = "" := by cbv
  simp [hempty, Fs.stat, Fs.resolve]

/-- From an absolute working directory, a target that names something is made absolute. -/
theorem isAbsolute_absolutePath (hcwd : Path.isAbsolute sh.cwd = true) {entry : Entry}
    {cwd : String} (hs : fs.stat cwd (Octets.ofText (sh.absolutePath target)) = .ok entry) :
    Path.isAbsolute (sh.absolutePath target) = true := by
  unfold absolutePath at hs ⊢
  split
  · next hcase =>
    rcases Bool.or_eq_true_iff.1 hcase with hempty | habs
    · rw [if_pos hcase, String.isEmpty_iff.1 hempty] at hs
      obtain ⟨e, he⟩ := Fs.stat_empty fs cwd
      rw [he] at hs
      cases hs
    · exact habs
  · exact Path.isAbsolute_join hcwd target

/-- Changing to an absolute directory in normal form that is there makes it the working
directory. -/
theorem setWorkingDir_of_normal {d : String} (habs : Path.isAbsolute d = true)
    (hnorm : Path.normalize d = d) (hd : fs.HasDirectory d) :
    sh.setWorkingDir fs d = .ok { sh with env := sh.env.moveDir sh.cwd d, cwd := d } := by
  have hpath : sh.absolutePath d = d := by simp [absolutePath, habs]
  rw [setWorkingDir_eq_ok_iff, hpath, hnorm]
  exact ⟨Fs.stat_of_hasDirectory hd habs _, hd, rfl⟩

end Shell

/-! ## The `cd` command -/

namespace Builtin

/-- `cd` has no effect but a change of directory: it fails with status 1 and leaves the shell as
it was, or it ends with status 0 in the shell a successful change of directory gives. -/
theorem cdCommand_cases (sh : Shell) (fs : Fs) (name : String) (p : Options.Parsed) :
    ((cdCommand sh fs name p).1 = sh ∧ (cdCommand sh fs name p).2.flow = .next 1) ∨
      ∃ d, sh.setWorkingDir fs d = .ok (cdCommand sh fs name p).1 ∧
        (cdCommand sh fs name p).2.flow = .next 0 := by
  unfold cdCommand
  split
  · exact .inl ⟨rfl, rfl⟩
  · dsimp only
    split
    · exact .inl ⟨rfl, rfl⟩
    · next d announce _ =>
      split
      · exact .inl ⟨rfl, rfl⟩
      · next sh' hcd => exact .inr ⟨d, hcd, rfl⟩

theorem run_cd_back (sh : Shell) (fs : Fs) :
    run sh fs ["cd", "-"] = cdCommand sh fs "cd" { texts := ["-"] } := by
  have hparse : cdSpec.parse ["-"] = .ok { texts := ["-"] } := by cbv
  simp [run, withOptions, hparse]

/-- `cd -` changes to `OLDPWD` and prints where it went. -/
theorem cdCommand_back {sh sh' : Shell} {fs : Fs} {d : String} (name : String)
    (hold : sh.env.get "OLDPWD" = some d) (hcd : sh.setWorkingDir fs d = .ok sh') :
    cdCommand sh fs name { texts := ["-"] } = (sh', { out := sh'.cwd ++ "\n" }) := by
  simp [cdCommand, hold, hcd]

/-- `cd -` twice from a shell that a change of directory reached, from an absolute working
directory in normal form, while both directories are still there: the first goes back to the
old directory and prints it, with `OLDPWD` and `PWD` swapped; the second goes forth again,
prints the new directory, and leaves the shell exactly as the change had left it. -/
theorem cd_back_twice {sh₀ sh₁ : Shell} {fs fs' : Fs} {target : String}
    (habs : Path.isAbsolute sh₀.cwd = true) (hnorm : Path.normalize sh₀.cwd = sh₀.cwd)
    (hcd : sh₀.setWorkingDir fs target = .ok sh₁)
    (hold : fs'.HasDirectory sh₀.cwd) (hnew : fs'.HasDirectory sh₁.cwd) :
    run sh₁ fs' ["cd", "-"] =
        ({ sh₁ with env := (sh₁.env.set "OLDPWD" sh₁.cwd).set "PWD" sh₀.cwd, cwd := sh₀.cwd },
          { out := sh₀.cwd ++ "\n" }) ∧
      run (run sh₁ fs' ["cd", "-"]).1 fs' ["cd", "-"] = (sh₁, { out := sh₁.cwd ++ "\n" }) := by
  obtain ⟨⟨entry, hstat, -⟩, -, rfl⟩ := Shell.setWorkingDir_eq_ok_iff.1 hcd
  have habs₁ := Path.isAbsolute_normalize (Shell.isAbsolute_absolutePath habs hstat)
  have hnorm₁ := Path.normalize_normalize (Shell.isAbsolute_absolutePath habs hstat)
  generalize Path.normalize (sh₀.absolutePath target) = c₁ at habs₁ hnorm₁ hnew ⊢
  have hold₁ : (sh₀.env.moveDir sh₀.cwd c₁).get "OLDPWD" = some sh₀.cwd :=
    Env.get_moveDir_oldpwd _ _ _
  have hhas₁ : (sh₀.env.moveDir sh₀.cwd c₁).contains "OLDPWD" = true := by
    simp [Env.contains, hold₁]
  generalize hE : sh₀.env.moveDir sh₀.cwd c₁ = E at hold₁ hhas₁
  have hback := @Shell.setWorkingDir_of_normal { sh₀ with env := E, cwd := c₁ } fs' sh₀.cwd habs
    hnorm hold
  rw [Env.moveDir_of_contains _ _ _ hhas₁] at hback
  have hfirst := cdCommand_back "cd" hold₁ hback
  rw [← run_cd_back] at hfirst
  refine ⟨hfirst, ?_⟩
  rw [hfirst]
  have hold₂ : ((E.set "OLDPWD" c₁).set "PWD" sh₀.cwd).get "OLDPWD" = some c₁ := by
    rw [Env.get_set_of_ne _ _ _ (by decide), Env.get_set_self]
  have hhas₂ : ((E.set "OLDPWD" c₁).set "PWD" sh₀.cwd).contains "OLDPWD" = true := by
    simp [Env.contains, hold₂]
  have hforth := @Shell.setWorkingDir_of_normal
    { sh₀ with env := (E.set "OLDPWD" c₁).set "PWD" sh₀.cwd, cwd := sh₀.cwd } fs' c₁
    habs₁ hnorm₁ hnew
  rw [Env.moveDir_of_contains _ _ _ hhas₂] at hforth
  rw [run_cd_back, cdCommand_back "cd" hold₂ hforth]
  have hrestore := @Env.set_dirs_back_and_forth E sh₀.cwd c₁
    (by subst hE; exact Env.get_moveDir_oldpwd _ _ _)
    (by subst hE; exact Env.lookup_moveDir_exported_oldpwd _ _ _)
    (by subst hE; exact Env.get_moveDir_pwd _ _ _)
    (by subst hE; exact Env.lookup_moveDir_exported_pwd _ _ _)
  simp only [hrestore]

end Builtin

/-- Changing the working directory.  A change fails exactly when looking the target up fails,
when it is no directory, or when its normal form names none, and `cd` then leaves the shell as
it was: `cd` changes the shell only by a change that succeeded.  A change that succeeds changes
only the variables and the working directory: the working directory and `PWD` become the normal
form of the target made absolute, `OLDPWD` the old working directory, and every other variable
keeps its value and its position.  From a shell that such a change reached, starting from an
absolute working directory in normal form, `cd -` twice, with both directories still there,
goes back, printing the old directory, and forth, printing the new one, and leaves the shell
exactly as the change had left it. -/
theorem Shell.working_directory_changes (sh : Shell) (fs : Fs) (target : String) :
    (∀ e, sh.setWorkingDir fs target = .error e ↔
      (∃ e', fs.stat (sh.physicalCwd fs) (Octets.ofText (sh.absolutePath target)) = .error e' ∧
        e = .lookup e') ∨
      (∃ entry, fs.stat (sh.physicalCwd fs) (Octets.ofText (sh.absolutePath target)) = .ok entry ∧
        entry.node.isDirectory = false ∧ e = .notDirectory) ∨
      (∃ entry, fs.stat (sh.physicalCwd fs) (Octets.ofText (sh.absolutePath target)) = .ok entry ∧
        entry.node.isDirectory = true ∧
        ¬ fs.HasDirectory (Path.normalize (sh.absolutePath target)) ∧
        ∃ e', fs.enter (Octets.ofText (Path.normalize (sh.absolutePath target))) = .error e' ∧
          e = .lookup e')) ∧
    (∀ name p, ((Builtin.cdCommand sh fs name p).1 = sh ∧
        (Builtin.cdCommand sh fs name p).2.flow = .next 1) ∨
      ∃ d, sh.setWorkingDir fs d = .ok (Builtin.cdCommand sh fs name p).1 ∧
        (Builtin.cdCommand sh fs name p).2.flow = .next 0) ∧
    (∀ sh', sh.setWorkingDir fs target = .ok sh' →
      sh' = { sh with env := sh'.env, cwd := sh'.cwd } ∧
      sh'.cwd = Path.normalize (sh.absolutePath target) ∧
      sh'.env.get "PWD" = some sh'.cwd ∧ sh'.env.get "OLDPWD" = some sh.cwd ∧
      (∀ m, m ≠ "PWD" → m ≠ "OLDPWD" → sh'.env.get m = sh.env.get m) ∧
      (∀ (i : Nat) (p : String × String), sh.env.vars[i]? = some p → p.1 ≠ "PWD" →
        p.1 ≠ "OLDPWD" → sh'.env.vars[i]? = some p) ∧
      (∀ (i : Nat) (p : String × Option String), sh.env.exported[i]? = some p → p.1 ≠ "PWD" →
        p.1 ≠ "OLDPWD" → sh'.env.exported[i]? = some p)) ∧
    (Path.isAbsolute sh.cwd = true → Path.normalize sh.cwd = sh.cwd →
      ∀ sh₁, sh.setWorkingDir fs target = .ok sh₁ →
      ∀ fs' : Fs, fs'.HasDirectory sh.cwd → fs'.HasDirectory sh₁.cwd →
        Builtin.run sh₁ fs' ["cd", "-"] =
            ({ sh₁ with env := (sh₁.env.set "OLDPWD" sh₁.cwd).set "PWD" sh.cwd, cwd := sh.cwd },
              { out := sh.cwd ++ "\n" }) ∧
          Builtin.run (Builtin.run sh₁ fs' ["cd", "-"]).1 fs' ["cd", "-"] =
            (sh₁, { out := sh₁.cwd ++ "\n" })) := by
  refine ⟨fun e => Shell.setWorkingDir_eq_error_iff e, Builtin.cdCommand_cases sh fs,
    fun sh' h => Shell.setWorkingDir_spec h, ?_⟩
  intro habs hnorm sh₁ hcd fs' hold hnew
  exact Builtin.cd_back_twice habs hnorm hcd hold hnew

/-- A shell at the root of a file system that has `/tmp` changes into `tmp`: the working
directory and `PWD` become `/tmp` and `OLDPWD` the root; `cd -` twice then goes back and forth,
leaving the shell as the change left it, as `Shell.working_directory_changes` says. -/
theorem cd_tmp_and_back :
    let fs : Fs := { entries := [("/", ⟨.directory, 0o755⟩), ("/tmp", ⟨.directory, 0o755⟩)] }
    let sh : Shell := { env := Env.ofPairs [("PWD", "/")], cwd := "/", history := { capacity := 0 },
                        historyPath := none, pid := 1 }
    ∃ sh₁, sh.setWorkingDir fs "tmp" = .ok sh₁ ∧ sh₁.cwd = "/tmp" ∧
      sh₁.env.get "PWD" = some "/tmp" ∧ sh₁.env.get "OLDPWD" = some "/" ∧
      Builtin.run (Builtin.run sh₁ fs ["cd", "-"]).1 fs ["cd", "-"] =
        (sh₁, { out := "/tmp\n" }) := by
  intro fs sh
  obtain ⟨sh₁, hcd⟩ : ∃ sh₁, sh.setWorkingDir fs "tmp" = .ok sh₁ := by
    have h : (sh.setWorkingDir fs "tmp").toOption.isSome = true := by cbv
    cases hc : sh.setWorkingDir fs "tmp" with
    | ok sh₁ => exact ⟨sh₁, rfl⟩
    | error e => rw [hc] at h; cases h
  have hlaws := Shell.working_directory_changes sh fs "tmp"
  obtain ⟨-, hcwd, hpwd, hold, -⟩ := hlaws.2.2.1 sh₁ hcd
  have hnorm : Path.normalize (sh.absolutePath "tmp") = "/tmp" := by cbv
  rw [hnorm] at hcwd
  have hhas : fs.HasDirectory "/tmp" := ⟨"/tmp", by cbv, by cbv⟩
  have hback := hlaws.2.2.2 (by cbv) (by cbv) sh₁ hcd fs ⟨"/", by cbv, by cbv⟩ (hcwd ▸ hhas)
  refine ⟨sh₁, hcd, hcwd, by rw [hpwd, hcwd], hold, ?_⟩
  rw [hback.2, hcwd]
  rfl

end Conch
