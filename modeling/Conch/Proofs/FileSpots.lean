import Conch.World.Fs

/-!
# Where a name can take a regular file

A lookup walks a path name by name and asks the file system only what kind of entry stands at
each step: a directory, a symbolic link with its target, or anything else.  So a walk that
succeeds in one file system succeeds alike in any other with an entry of the same kind at
every path where the first has one (`Fs.Keeps.walk`).  Two cases matter here:

* a file system that only `Grows`: regular files are added at free places or put in place of
  other regular files, and nothing else changes.  Opening files and writing to them do no
  more, so every lookup that succeeded still succeeds.
* a part of a file system (`Fs.Sub`), such as what removing an entry leaves.

A `FileSpot` is a name that opening for writing turns into a regular file: it leads to a free
place in an existing directory, or to an existing regular file that a plain lookup reaches
too.  A name stays a spot while the file system grows (`Fs.FileSpot.grows`), and once the file
is made there a lookup of the name finds it (`Fs.resolve_of_place_unlinked`).  Every name that
a lookup from the root leads to a regular file by is a spot (`Fs.fileSpot_of_stat`): the lookup
for opening walks the same names, and links it follows afresh for the last name only have more
to spare (`Fs.walk_mono`).

A name is `Gone` when it leads to no entry other than a directory.  A name that is gone stays
gone in any part of the file system (`Fs.Gone.sub`), which is what makes removing several
names one after another remove all of them.
-/

namespace Conch

/-- The path a symbolic link holds. -/
def Node.linkTarget : Node → Option String
  | .link t => some t
  | _ => none

theorem Node.kind_of_isRegular {n : Node} (h : n.isRegular = true) :
    n.isDirectory = false ∧ n.linkTarget = none := by
  cases n <;> simp_all [Node.isRegular, Node.isDirectory, Node.linkTarget]

namespace Fs

/-! ## Walks that carry over -/

/-- `fs'` has an entry of the same kind at every path where `fs` has one: a directory for a
directory, the same link for a link, and neither for anything else. -/
def Keeps (fs fs' : Fs) : Prop :=
  ∀ p e, fs.find p = some e → ∃ e', fs'.find p = some e' ∧
    e'.node.isDirectory = e.node.isDirectory ∧ e'.node.linkTarget = e.node.linkTarget

theorem walk_cons_dot {fs : Fs} {fuel : Nat} {dir n : String} {rest : List String} {e : Entry}
    (hd : fs.find dir = some e) (hdir : e.node.isDirectory = true) (hdot : (n == ".") = true) :
    fs.walk fuel dir (n :: rest) = fs.walk fuel dir rest := by
  rw [walk, hd]
  simp only [hdir, Bool.not_true, Bool.false_eq_true, if_false, hdot, if_true]

theorem walk_cons_dotdot {fs : Fs} {fuel : Nat} {dir n : String} {rest : List String}
    {e : Entry} (hd : fs.find dir = some e) (hdir : e.node.isDirectory = true)
    (hdot : (n == ".") = false) (hdotdot : (n == "..") = true) :
    fs.walk fuel dir (n :: rest) = fs.walk fuel (Path.parent dir) rest := by
  rw [walk, hd]
  simp only [hdir, Bool.not_true, Bool.false_eq_true, if_false, hdot, hdotdot, if_true]

theorem walk_cons_of_unlinked {fs : Fs} {fuel : Nat} {dir n : String} {rest : List String}
    {e e' : Entry} (hd : fs.find dir = some e) (hdir : e.node.isDirectory = true)
    (hdot : (n == ".") = false) (hdotdot : (n == "..") = false)
    (hp : fs.find (Path.child dir n) = some e') (hlink : e'.node.linkTarget = none) :
    fs.walk fuel dir (n :: rest) = fs.walk fuel (Path.child dir n) rest := by
  rw [walk, hd]
  simp only [hdir, Bool.not_true, Bool.false_eq_true, if_false, hdot, hdotdot, hp]
  obtain ⟨node, mode⟩ := e'
  cases node <;> first | rfl | cases hlink

theorem walk_cons_of_link {fs : Fs} {f : Nat} {dir n t : String} {rest : List String}
    {e : Entry} {mode : Nat} (hd : fs.find dir = some e) (hdir : e.node.isDirectory = true)
    (hdot : (n == ".") = false) (hdotdot : (n == "..") = false)
    (hp : fs.find (Path.child dir n) = some ⟨.link t, mode⟩) {target : String}
    (ht : fs.walk f (if Path.isAbsolute t then "/" else dir) (Path.names t) = .ok target) :
    fs.walk (f + 1) dir (n :: rest) = fs.walk f target rest := by
  rw [walk, hd]
  simp only [hdir, Bool.not_true, Bool.false_eq_true, if_false, hdot, hdotdot, hp, ht]

theorem isDirectory_of_kind {e e' : Entry} (hk : e'.node.isDirectory = e.node.isDirectory)
    (hdir : e.node.isDirectory = true) : e'.node.isDirectory = true :=
  hk.trans hdir

theorem node_eq_link_of_kind {e' : Entry} {t : String}
    (hk : e'.node.linkTarget = (Node.link t).linkTarget) : e'.node = .link t := by
  obtain ⟨node, mode⟩ := e'
  cases node <;> simp_all [Node.linkTarget]

/-- A walk that succeeds goes the same way in a file system with entries of the same kind. -/
theorem Keeps.walk {fs fs' : Fs} (h : fs.Keeps fs') {fuel : Nat} {dir : String}
    {ns : List String} {r : String} (hw : fs.walk fuel dir ns = .ok r) :
    fs'.walk fuel dir ns = .ok r := by
  fun_induction fs.walk fuel dir ns generalizing r
  case case1 => rw [Fs.walk]; exact hw
  case case4 fuel dir n rest e hd hdir hdot ih =>
    obtain ⟨e', hd', hk, -⟩ := h dir e hd
    have hdir' := isDirectory_of_kind hk (by simpa using hdir)
    rw [walk_cons_dot hd' hdir' hdot]
    exact ih hw
  case case5 fuel dir n rest e hd hdir hdot hdotdot ih =>
    obtain ⟨e', hd', hk, -⟩ := h dir e hd
    have hdir' := isDirectory_of_kind hk (by simpa using hdir)
    rw [walk_cons_dotdot hd' hdir' (eq_false_of_ne_true hdot) hdotdot]
    exact ih hw
  case case8 dir n rest e hd hdir hdot hdotdot p t mode hp f target ht ih2 ih1 =>
    -- a link stays the same link, so its target is walked alike
    obtain ⟨e', hd', hk, -⟩ := h dir e hd
    have hdir' := isDirectory_of_kind hk (by simpa using hdir)
    obtain ⟨⟨node, mode'⟩, hp', -, hl⟩ := h _ _ hp
    obtain rfl : node = .link t := node_eq_link_of_kind hl
    rw [walk_cons_of_link hd' hdir' (eq_false_of_ne_true hdot) (eq_false_of_ne_true hdotdot)
      hp' (by simpa using ih2 ht)]
    exact ih1 hw
  case case10 fuel dir n rest e hd hdir hdot hdotdot p e'' hnot hp ih =>
    obtain ⟨e', hd', hk, -⟩ := h dir e hd
    have hdir' := isDirectory_of_kind hk (by simpa using hdir)
    obtain ⟨l', hp', -, hl⟩ := h _ _ hp
    have hnl : e''.node.linkTarget = none := by
      obtain ⟨node, mode⟩ := e''
      cases node <;> first | rfl | exact absurd rfl (hnot _ _)
    rw [walk_cons_of_unlinked hd' hdir' (eq_false_of_ne_true hdot)
      (eq_false_of_ne_true hdotdot) hp' (hl.trans hnl)]
    exact ih hw
  all_goals cases hw

/-- A walk that reaches `r` and then goes on by more names goes on from `r`, with the links it
has left to spare. -/
theorem walk_append {fs : Fs} {fuel : Nat} {dir : String} {ns : List String} {r : String}
    (hw : fs.walk fuel dir ns = .ok r) :
    ∃ f, ∀ ms, fs.walk fuel dir (ns ++ ms) = fs.walk f r ms := by
  fun_induction fs.walk fuel dir ns generalizing r
  case case1 fuel dir =>
    cases hw
    exact ⟨fuel, fun ms => rfl⟩
  case case4 fuel dir n rest e hd hdir hdot ih =>
    obtain ⟨f, hf⟩ := ih hw
    refine ⟨f, fun ms => ?_⟩
    rw [List.cons_append, walk_cons_dot hd (by simpa using hdir) hdot, hf]
  case case5 fuel dir n rest e hd hdir hdot hdotdot ih =>
    obtain ⟨f, hf⟩ := ih hw
    refine ⟨f, fun ms => ?_⟩
    rw [List.cons_append, walk_cons_dotdot hd (by simpa using hdir) (eq_false_of_ne_true hdot)
      hdotdot, hf]
  case case8 dir n rest e hd hdir hdot hdotdot p t mode hp f target ht ih2 ih1 =>
    obtain ⟨f', hf⟩ := ih1 hw
    refine ⟨f', fun ms => ?_⟩
    rw [List.cons_append, walk_cons_of_link hd (by simpa using hdir) (eq_false_of_ne_true hdot)
      (eq_false_of_ne_true hdotdot) hp (by simpa using ht), hf]
  case case10 fuel dir n rest e hd hdir hdot hdotdot p e'' hnot hp ih =>
    obtain ⟨f, hf⟩ := ih hw
    have hnl : e''.node.linkTarget = none := by
      obtain ⟨node, mode⟩ := e''
      cases node <;> first | rfl | exact absurd rfl (hnot _ _)
    refine ⟨f, fun ms => ?_⟩
    rw [List.cons_append, walk_cons_of_unlinked hd (by simpa using hdir) (eq_false_of_ne_true hdot)
      (eq_false_of_ne_true hdotdot) hp hnl, hf]
  all_goals cases hw

/-- A walk from a directory to an entry of it that is not a link ends at
that entry, whatever links it has to spare. -/
theorem walk_single_of_unlinked {fs : Fs} {fuel : Nat} {dir last : String} {e e' : Entry}
    (hd : fs.find dir = some e) (hdir : e.node.isDirectory = true)
    (hdot : (last == ".") = false) (hdotdot : (last == "..") = false)
    (hp : fs.find (Path.child dir last) = some e') (hlink : e'.node.linkTarget = none) :
    fs.walk fuel dir [last] = .ok (Path.child dir last) := by
  rw [walk_cons_of_unlinked hd hdir hdot hdotdot hp hlink, walk]

/-! ## Kinds of entries -/

theorem Keeps.isDirectoryAt {fs fs' : Fs} (h : fs.Keeps fs') {p : String}
    (hd : fs.isDirectoryAt p = true) : fs'.isDirectoryAt p = true := by
  unfold Fs.isDirectoryAt at hd ⊢
  cases hp : fs.find p with
  | none => rw [hp] at hd; cases hd
  | some e =>
      rw [hp] at hd
      obtain ⟨e', hp', hk, -⟩ := h p e hp
      rw [hp']
      exact hk.trans hd

theorem exists_of_isDirectoryAt {fs : Fs} {p : String} (hd : fs.isDirectoryAt p = true) :
    ∃ e, fs.find p = some e ∧ e.node.isDirectory = true := by
  unfold isDirectoryAt at hd
  cases hp : fs.find p with
  | none => rw [hp] at hd; cases hd
  | some e => rw [hp] at hd; exact ⟨e, rfl, hd⟩

theorem Keeps.resolve {fs fs' : Fs} (h : fs.Keeps fs') {cwd path p : String}
    (hr : fs.resolve cwd path = .ok p) : fs'.resolve cwd path = .ok p := by
  unfold Fs.resolve at hr ⊢
  split at hr
  · cases hr
  · next hne =>
      rw [if_neg hne]
      split at hr
      · next q hw =>
          rw [h.walk hw]
          dsimp only
          split at hr
          · cases hr
          · next hcond =>
              have hq : path.endsWith "/" = true → fs'.isDirectoryAt q = true := fun hs =>
                h.isDirectoryAt (by simpa [hs] using hcond)
              have hc : ¬(path.endsWith "/" && !fs'.isDirectoryAt q) = true := by
                cases hs : path.endsWith "/" <;> simp_all
              rw [if_neg hc]
              exact hr
      · cases hr

theorem Keeps.entryPath {fs fs' : Fs} (h : fs.Keeps fs') {cwd path q : String}
    (he : fs.entryPath cwd path = .ok q) : fs'.entryPath cwd path = .ok q := by
  unfold Fs.entryPath at he ⊢
  split at he
  · cases he
  · next hne =>
      rw [if_neg hne]
      dsimp only at he ⊢
      split at he
      · exact he
      · next last hlast =>
          split at he
          · cases he
          · next dir hw =>
              rw [h.walk hw]
              dsimp only at he ⊢
              split at he
              · next hdot => rw [if_pos hdot]; exact h.walk he
              · next hdot =>
                  rw [if_neg hdot]
                  split at he
                  · cases he
                  · next hdir =>
                      have hdir' : fs'.isDirectoryAt dir = true :=
                        h.isDirectoryAt (by simpa using hdir)
                      rw [if_neg (by simp [hdir'])]
                      split at he
                      · next hq =>
                          cases he
                          obtain ⟨e, he⟩ := Option.isSome_iff_exists.1 hq
                          obtain ⟨e', he', -⟩ := h _ e he
                          rw [if_pos (by simp [he'])]
                      · cases he

/-! ## Growing and shrinking file systems -/

/-- `fs'` is `fs` with regular files added at free paths or put in place of regular files. -/
def Grows (fs fs' : Fs) : Prop :=
  ∀ p, fs'.find p = fs.find p ∨
    (∃ n m, fs'.find p = some ⟨.file n, m⟩) ∧ ∀ e, fs.find p = some e → e.node.isRegular = true

/-- Every entry of `fs` is an entry of `fs'`. -/
def Sub (fs fs' : Fs) : Prop :=
  ∀ p e, fs.find p = some e → fs'.find p = some e

theorem Grows.refl (fs : Fs) : fs.Grows fs := fun _ => .inl rfl

theorem Grows.trans {fs fs' fs'' : Fs} (h : fs.Grows fs') (h' : fs'.Grows fs'') :
    fs.Grows fs'' := by
  intro p
  rcases h' p with h₂ | ⟨hfile, hreg⟩
  · rw [h₂]
    exact h p
  · refine .inr ⟨hfile, fun e he => ?_⟩
    rcases h p with h₁ | ⟨-, hreg₁⟩
    · exact hreg e (h₁.trans he)
    · exact hreg₁ e he

/-- A grown file system has entries of the same kind wherever the old one had entries. -/
theorem Grows.keeps {fs fs' : Fs} (h : fs.Grows fs') : fs.Keeps fs' := by
  intro p e he
  rcases h p with h₁ | ⟨⟨n, m, h₁⟩, hreg⟩
  · exact ⟨e, h₁.trans he, rfl, rfl⟩
  · obtain ⟨hdir, hlink⟩ := Node.kind_of_isRegular (hreg e he)
    exact ⟨_, h₁, hdir.symm, hlink.symm⟩

theorem Sub.keeps {fs fs' : Fs} (h : fs.Sub fs') : fs.Keeps fs' :=
  fun p e he => ⟨e, h p e he, rfl, rfl⟩

theorem lookup_map_replace {α β : Type} [BEq α] [LawfulBEq α] [DecidableEq α]
    (l : List (α × β)) (p q : α) (e : β) :
    (l.map fun x => if x.1 == p then (p, e) else x).lookup q =
      if q = p then (if l.any (fun x => x.1 == p) then some e else none) else l.lookup q := by
  induction l with
  | nil => simp
  | cons x rest ih =>
      obtain ⟨k, v⟩ := x
      by_cases hk : k = p
      · subst hk
        by_cases hq : q = k
        · subst hq
          simp
        · simp only [List.map_cons, beq_self_eq_true, if_true, List.lookup_cons,
            beq_false_of_ne hq, ih, if_neg hq]
      · simp only [List.map_cons, beq_false_of_ne hk, Bool.false_eq_true, if_false,
          List.lookup_cons, List.any_cons, Bool.false_or, ih]
        by_cases hq : q = k
        · subst hq
          simp [hk]
        · simp [beq_false_of_ne hq]

theorem lookup_filter_key {α β : Type} [BEq α] [LawfulBEq α] (l : List (α × β))
    (keep : α → Bool) (q : α) :
    (l.filter fun x => keep x.1).lookup q = if keep q then l.lookup q else none := by
  induction l with
  | nil => simp
  | cons x rest ih =>
      obtain ⟨k, v⟩ := x
      by_cases hq : q = k
      · subst hq
        by_cases hkeep : keep q
        · simp [hkeep]
        · simp [hkeep, ih]
      · have hqk : (q == k) = false := beq_false_of_ne hq
        by_cases hkeep : keep k
        · simp [hkeep, List.lookup_cons, hqk, ih]
        · simp [hkeep, List.lookup_cons, hqk, ih]

@[simp] theorem find_touchPaths (fs : Fs) (ps : List String) (q : String) :
    (fs.touchPaths ps).find q = fs.find q := rfl

@[simp] theorem find_setContent (fs : Fs) (n : Nat) (text : Octets) (q : String) :
    (fs.setContent n text).find q = fs.find q := rfl

@[simp] theorem find_newFile (fs : Fs) (text : Octets) (q : String) :
    (fs.newFile text).1.find q = fs.find q := rfl

@[simp] theorem find_insert (fs : Fs) (p : String) (e : Entry) (q : String) :
    (fs.insert p e).find q = if q = p then some e else fs.find q := by
  unfold insert
  split
  · next hany =>
      simp only [find_touchPaths]
      unfold find
      rw [lookup_map_replace, if_pos hany]
  · next hany =>
      simp only [find_touchPaths]
      unfold find
      rw [List.lookup_append]
      by_cases hq : q = p
      · subst hq
        have hnone : fs.entries.lookup q = none := by
          rw [List.lookup_eq_none_iff]
          intro x hx
          have hx' : (x.fst == q) = false := by
            cases h : x.fst == q
            · rfl
            · exact absurd (List.any_eq_true.2 ⟨x, hx, h⟩) hany
          exact bne_iff_ne.2 (Ne.symm (ne_of_beq_false hx'))
        simp [hnone]
      · simp [hq, List.lookup_cons, beq_false_of_ne hq]

theorem find_createFile (fs : Fs) (p : String) (text : Octets) (mode : Nat) (q : String) :
    (fs.createFile p text mode).find q =
      if q = p then some ⟨.file fs.nextSerial, mode⟩ else fs.find q := by
  unfold createFile
  dsimp only [newFile]
  rw [find_insert]
  rfl

theorem find_erase (fs : Fs) (p q : String) :
    (fs.erase p).find q = if Path.isWithin p q then none else fs.find q := by
  show (fs.entries.filter fun x => !Path.isWithin p x.1).lookup q = _
  rw [lookup_filter_key fs.entries (fun k => !Path.isWithin p k) q]
  by_cases h : Path.isWithin p q <;> simp [h, find]

theorem sub_erase (fs : Fs) (p : String) : (fs.erase p).Sub fs := by
  intro q e he
  rw [find_erase] at he
  split at he
  · cases he
  · exact he

theorem find_erase_self (fs : Fs) (p : String) : (fs.erase p).find p = none := by
  rw [find_erase, if_pos (by simp [Path.isWithin])]

@[simp] theorem contentOf_setContent_self (fs : Fs) (n : Nat) (text : Octets) :
    (fs.setContent n text).contentOf n = text := by
  simp [setContent, contentOf, touchPaths]

@[simp] theorem contents_insert (fs : Fs) (p : String) (e : Entry) :
    (fs.insert p e).contents = fs.contents := by
  unfold insert
  split <;> rfl

@[simp] theorem contentOf_createFile_self (fs : Fs) (p : String) (text : Octets) (mode : Nat) :
    (fs.createFile p text mode).contentOf fs.nextSerial = text := by
  unfold createFile contentOf
  simp [newFile]

/-- Making a regular file where there was nothing or a regular file grows the file system. -/
theorem grows_createFile {fs : Fs} {p : String} (text : Octets) (mode : Nat)
    (hp : ∀ e, fs.find p = some e → e.node.isRegular = true) :
    fs.Grows (fs.createFile p text mode) := by
  intro q
  rw [find_createFile]
  by_cases hq : q = p
  · subst hq
    exact .inr ⟨⟨_, _, if_pos rfl⟩, hp⟩
  · exact .inl (if_neg hq)

theorem grows_setContent (fs : Fs) (n : Nat) (text : Octets) :
    fs.Grows (fs.setContent n text) := fun _ => .inl rfl

theorem grows_newFile (fs : Fs) (text : Octets) : fs.Grows (fs.newFile text).1 :=
  fun _ => .inl rfl

/-! ## Places a name leads to when it is opened for creation -/

/-- What a lookup for creation finds out about a name before it looks at its last part: the
name is not empty and does not end with a slash, its last part is neither `.` nor `..`, and the
parts before lead to the directory `dir`. -/
structure Place (fs : Fs) (cwd path dir last : String) : Prop where
  nonempty : path.isEmpty = false
  noSlash : path.endsWith "/" = false
  last_eq : (Path.names path).getLast? = some last
  walk : fs.walk linkLimit (start cwd path) (Path.names path).dropLast = .ok dir
  directory : fs.isDirectoryAt dir = true
  notDot : (last == ".") = false
  notDotDot : (last == "..") = false

theorem Keeps.place {fs fs' : Fs} (h : fs.Keeps fs') {cwd path dir last : String}
    (hp : fs.Place cwd path dir last) : fs'.Place cwd path dir last :=
  { hp with walk := h.walk hp.walk, directory := h.isDirectoryAt hp.directory }

/-- A lookup for creation finds a free place exactly when the directory has nothing under the
last name. -/
theorem locate_eq_fresh_iff {fs : Fs} {cwd path p : String} :
    fs.locate cwd path = .ok (.fresh p) ↔
      ∃ dir last, fs.Place cwd path dir last ∧ fs.find (Path.child dir last) = none ∧
        p = Path.child dir last := by
  constructor
  · intro h
    unfold locate at h
    split at h
    · cases h
    · next hne =>
        dsimp only at h
        split at h
        · cases h
        · next last hlast =>
            split at h
            · cases h
            · next dir hw =>
                split at h
                · cases h
                · next hdir =>
                    split at h
                    · split at h
                      · split at h <;> cases h
                      · cases h
                    · next hcond =>
                        split at h
                        · cases h
                        · next hslash =>
                            cases h
                            simp only [Bool.or_eq_true, not_or] at hcond
                            obtain ⟨⟨hdot, hdotdot⟩, hfree⟩ := hcond
                            refine ⟨dir, last, ⟨by simpa using hne, by simpa using hslash, hlast,
                              hw, by simpa using hdir, by simpa using hdot, by simpa using hdotdot⟩,
                              by simpa using hfree, rfl⟩
  · rintro ⟨dir, last, hp, hfree, rfl⟩
    unfold locate
    rw [if_neg (by simp [hp.nonempty])]
    dsimp only
    rw [hp.last_eq]
    dsimp only
    rw [hp.walk]
    dsimp only
    simp [hp.directory, hp.notDot, hp.notDotDot, hfree, hp.noSlash]

/-- A lookup for creation of a name whose last part holds an entry other than a link finds
that entry. -/
theorem locate_of_place_unlinked {fs : Fs} {cwd path dir last : String} {e : Entry}
    (hp : fs.Place cwd path dir last) (he : fs.find (Path.child dir last) = some e)
    (hlink : e.node.linkTarget = none) :
    fs.locate cwd path = .ok (.existing (Path.child dir last)) := by
  obtain ⟨d, hd, hdir⟩ := exists_of_isDirectoryAt hp.directory
  have hw : fs.walk linkLimit dir [last] = .ok (Path.child dir last) :=
    walk_single_of_unlinked hd hdir hp.notDot hp.notDotDot he hlink
  unfold locate
  rw [if_neg (by simp [hp.nonempty])]
  dsimp only
  rw [hp.last_eq]
  dsimp only
  rw [hp.walk]
  dsimp only
  simp [hp.directory, he, hw, hp.noSlash]

/-- A lookup of a name whose last part holds an entry other than a link finds that entry. -/
theorem resolve_of_place_unlinked {fs : Fs} {cwd path dir last : String} {e : Entry}
    (hp : fs.Place cwd path dir last) (he : fs.find (Path.child dir last) = some e)
    (hlink : e.node.linkTarget = none) : fs.resolve cwd path = .ok (Path.child dir last) := by
  obtain ⟨d, hd, hdir⟩ := exists_of_isDirectoryAt hp.directory
  obtain ⟨ys, hys⟩ := List.getLast?_eq_some_iff.1 hp.last_eq
  have hnames : Path.names path = (Path.names path).dropLast ++ [last] := by
    rw [hys, List.dropLast_concat]
  obtain ⟨f, hf⟩ := walk_append hp.walk
  unfold resolve
  rw [if_neg (by simp [hp.nonempty]), hnames, hf [last],
    walk_single_of_unlinked hd hdir hp.notDot hp.notDotDot he hlink]
  simp [hp.noSlash]

/-- A lookup for creation that finds an entry finds it alike in a file system with entries of
the same kind. -/
theorem Keeps.locate_existing {fs fs' : Fs} (h : fs.Keeps fs') {cwd path q : String}
    (hl : fs.locate cwd path = .ok (.existing q)) : fs'.locate cwd path = .ok (.existing q) := by
  unfold locate at hl ⊢
  split at hl
  · cases hl
  · next hne =>
      rw [if_neg hne]
      dsimp only at hl ⊢
      split at hl
      · exact hl
      · next last hlast =>
          split at hl
          · cases hl
          · next dir hw =>
              rw [h.walk hw]
              dsimp only
              split at hl
              · cases hl
              · next hdir =>
                  have hdir' : fs'.isDirectoryAt dir = true := h.isDirectoryAt (by simpa using hdir)
                  rw [if_neg (by simp [hdir'])]
                  split at hl
                  · next hcond =>
                      have hcond' : (last == "." || last == ".." ||
                          (fs'.find (Path.child dir last)).isSome) = true := by
                        simp only [Bool.or_eq_true] at hcond ⊢
                        rcases hcond with hdots | hsome
                        · exact .inl hdots
                        · obtain ⟨e, he⟩ := Option.isSome_iff_exists.1 hsome
                          obtain ⟨e', he', -⟩ := h _ e he
                          exact .inr (by simp [he'])
                      rw [if_pos hcond']
                      split at hl
                      · next q' hq' =>
                          rw [h.walk hq']
                          dsimp only
                          split at hl
                          · cases hl
                          · next hslash =>
                              have hc : ¬(path.endsWith "/" && !fs'.isDirectoryAt q') = true := by
                                cases hs : path.endsWith "/"
                                · simp
                                · have hq : fs.isDirectoryAt q' = true := by simpa [hs] using hslash
                                  simp [h.isDirectoryAt hq]
                              rw [if_neg hc]
                              exact hl
                      · cases hl
                  · split at hl <;> cases hl

/-! ## Names that take a regular file -/

/-- A name that opening for writing makes a regular file of: a free place in an existing
directory, or a regular file that a plain lookup of the name reaches as well. -/
def FileSpot (fs : Fs) (cwd path : String) : Prop :=
  (∃ p, fs.locate cwd path = .ok (.fresh p)) ∨
    ∃ p n m, fs.locate cwd path = .ok (.existing p) ∧ fs.resolve cwd path = .ok p ∧
      fs.find p = some ⟨.file n, m⟩

/-- A name that takes a regular file still does once the file system has grown: a free place
is still free, or holds a regular file made since. -/
theorem FileSpot.grows {fs fs' : Fs} {cwd path : String} (h : fs.FileSpot cwd path)
    (hg : fs.Grows fs') : fs'.FileSpot cwd path := by
  rcases h with ⟨p, hp⟩ | ⟨p, n, m, hl, hr, hf⟩
  · obtain ⟨dir, last, hplace, hfree, rfl⟩ := locate_eq_fresh_iff.1 hp
    have hplace' := hg.keeps.place hplace
    rcases hg (Path.child dir last) with h₁ | ⟨⟨n, m, h₁⟩, -⟩
    · exact .inl ⟨_, locate_eq_fresh_iff.2 ⟨dir, last, hplace', h₁.trans hfree, rfl⟩⟩
    · exact .inr ⟨_, n, m, locate_of_place_unlinked hplace' h₁ rfl,
        resolve_of_place_unlinked hplace' h₁ rfl, h₁⟩
  · refine .inr ?_
    rcases hg p with h₁ | ⟨⟨n', m', h₁⟩, -⟩
    · exact ⟨p, n, m, hg.keeps.locate_existing hl, hg.keeps.resolve hr, h₁.trans hf⟩
    · exact ⟨p, n', m', hg.keeps.locate_existing hl, hg.keeps.resolve hr, h₁⟩

/-! ## Names removed -/

/-- Nothing is left where a name leads, unless a directory. -/
def Gone (fs : Fs) (path : String) : Prop :=
  ∀ q e, fs.entryPath "/" path = .ok q → fs.find q = some e → e.node.isDirectory = true

/-- A name that is gone stays gone in any part of the file system. -/
theorem Gone.sub {fs fs' : Fs} {path : String} (h : fs'.Gone path) (hs : fs.Sub fs') :
    fs.Gone path :=
  fun q e hq he => h q e (hs.keeps.entryPath hq) (hs q e he)

/-! ## Names of existing regular files -/

/-- A walk that succeeds with some links to spare succeeds alike with more. -/
theorem walk_mono {fs : Fs} {fuel fuel' : Nat} {dir : String} {ns : List String} {r : String}
    (hw : fs.walk fuel dir ns = .ok r) (hf : fuel ≤ fuel') : fs.walk fuel' dir ns = .ok r := by
  fun_induction fs.walk fuel dir ns generalizing r fuel'
  case case1 => rw [Fs.walk]; exact hw
  case case4 fuel dir n rest e hd hdir hdot ih =>
    rw [walk_cons_dot hd (by simpa using hdir) hdot]
    exact ih hw hf
  case case5 fuel dir n rest e hd hdir hdot hdotdot ih =>
    rw [walk_cons_dotdot hd (by simpa using hdir) (eq_false_of_ne_true hdot) hdotdot]
    exact ih hw hf
  case case8 dir n rest e hd hdir hdot hdotdot p t mode hp f target ht ih2 ih1 =>
    -- the spare links after following the link grow by as many
    obtain ⟨g, rfl⟩ : ∃ g, fuel' = g + 1 := ⟨fuel' - 1, by omega⟩
    rw [walk_cons_of_link hd (by simpa using hdir) (eq_false_of_ne_true hdot)
      (eq_false_of_ne_true hdotdot) hp (ih2 ht (by omega))]
    exact ih1 hw (by omega)
  case case10 fuel dir n rest e hd hdir hdot hdotdot p e'' hnot hp ih =>
    have hnl : e''.node.linkTarget = none := by
      obtain ⟨node, mode⟩ := e''
      cases node <;> first | rfl | exact absurd rfl (hnot _ _)
    rw [walk_cons_of_unlinked hd (by simpa using hdir) (eq_false_of_ne_true hdot)
      (eq_false_of_ne_true hdotdot) hp hnl]
    exact ih hw hf
  all_goals cases hw


/-- A walk by names that succeeds passes, after the first of them, some directory, from which
the rest of the names lead on with at most as many links to spare. -/
theorem walk_split {fs : Fs} (xs ys : List String) :
    ∀ {fuel : Nat} {dir r : String}, fs.walk fuel dir (xs ++ ys) = .ok r →
      ∃ mid f, f ≤ fuel ∧ fs.walk fuel dir xs = .ok mid ∧ fs.walk f mid ys = .ok r := by
  induction xs with
  | nil => exact fun {fuel dir r} h => ⟨dir, fuel, Nat.le_refl _, by rw [walk], h⟩
  | cons n xs ih =>
      intro fuel dir r h
      rw [List.cons_append, walk] at h
      split at h
      · cases h
      · next e hd =>
          split at h
          · cases h
          · next hdir =>
              have hdir' : e.node.isDirectory = true := by simpa using hdir
              split at h
              · next hdot =>
                  obtain ⟨mid, f, hf, h₁, h₂⟩ := ih h
                  exact ⟨mid, f, hf, by rw [walk_cons_dot hd hdir' hdot]; exact h₁, h₂⟩
              · next hdot =>
                  split at h
                  · next hdotdot =>
                      obtain ⟨mid, f, hf, h₁, h₂⟩ := ih h
                      exact ⟨mid, f, hf, by
                        rw [walk_cons_dotdot hd hdir' (eq_false_of_ne_true hdot) hdotdot]
                        exact h₁, h₂⟩
                  · next hdotdot =>
                      have hdot' := eq_false_of_ne_true hdot
                      have hdotdot' := eq_false_of_ne_true hdotdot
                      dsimp only at h
                      split at h
                      · cases h
                      · -- a link: its target is walked with one link less
                        next t mode hp =>
                          split at h
                          · cases h
                          · next g =>
                              split at h
                              · next target ht =>
                                  obtain ⟨mid, f, hf, h₁, h₂⟩ := ih h
                                  exact ⟨mid, f, by omega, by
                                    rw [walk_cons_of_link hd hdir' hdot' hdotdot' hp ht]
                                    exact h₁, h₂⟩
                              · cases h
                      · next e' hnot hp =>
                          have hnl : e'.node.linkTarget = none := by
                            obtain ⟨node, mode⟩ := e'
                            cases node <;> first | rfl | exact absurd rfl (hnot _ _)
                          obtain ⟨mid, f, hf, h₁, h₂⟩ := ih h
                          exact ⟨mid, f, hf, by
                            rw [walk_cons_of_unlinked hd hdir' hdot' hdotdot' hp hnl]
                            exact h₁, h₂⟩


theorem isDirectoryAt_of_walk_cons {fs : Fs} {fuel : Nat} {dir n : String} {rest : List String}
    {r : String} (h : fs.walk fuel dir (n :: rest) = .ok r) : fs.isDirectoryAt dir = true := by
  rw [walk] at h
  unfold isDirectoryAt
  split at h
  · cases h
  · next e hd =>
      rw [hd]
      split at h
      · cases h
      · next hdir => simpa using hdir

/-- A walk by one name, neither `.` nor `..`, goes through an entry of that name. -/
theorem isSome_find_child_of_walk {fs : Fs} {fuel : Nat} {dir n r : String}
    (h : fs.walk fuel dir [n] = .ok r) (hdot : (n == ".") = false) (hdotdot : (n == "..") = false) :
    (fs.find (Path.child dir n)).isSome = true := by
  rw [walk] at h
  split at h
  · cases h
  · split at h
    · cases h
    · simp only [hdot, hdotdot, Bool.false_eq_true, if_false] at h
      split at h
      · cases h
      · next hp => rw [hp]; rfl
      · next hp => rw [hp]; rfl

/-- A lookup from the root that leads to a regular file leads there alike when the name is
looked up to be opened: the name takes a regular file. -/
theorem fileSpot_of_stat {fs : Fs} {path : String} {n mode : Nat}
    (h : fs.stat "/" path = .ok ⟨.file n, mode⟩) : fs.FileSpot "/" path := by
  unfold stat at h
  split at h
  · next q hr =>
      split at h
      · next e hf =>
          cases h
          refine .inr ⟨q, n, mode, ?_, hr, hf⟩
          unfold resolve at hr
          split at hr
          · cases hr
          · next hne =>
              split at hr
              · next q' hw =>
                  split at hr
                  · cases hr
                  · next hslash =>
                      cases hr
                      unfold locate
                      rw [if_neg hne]
                      dsimp only
                      cases hl : (Path.names path).getLast? with
                      | none =>
                          rw [List.getLast?_eq_none_iff.1 hl, walk] at hw
                          cases hw
                          simp [start]
                      | some last =>
                          obtain ⟨ys, hys⟩ := List.getLast?_eq_some_iff.1 hl
                          rw [hys] at hw
                          obtain ⟨mid, f, hf', h₁, h₂⟩ := walk_split _ _ hw
                          rw [hys, List.dropLast_concat, h₁]
                          dsimp only
                          have hdir := isDirectoryAt_of_walk_cons h₂
                          have hcond : (last == "." || last == ".." ||
                              (fs.find (Path.child mid last)).isSome) = true := by
                            cases h1 : last == "."
                            · cases h2 : last == ".."
                              · simp [isSome_find_child_of_walk h₂ h1 h2]
                              · simp
                            · simp
                          simp only [hdir, Bool.not_true, Bool.false_eq_true, if_false, hcond,
                            if_true, walk_mono h₂ hf', hslash]
              · cases hr
      · cases h
  · cases h

end Fs

end Conch
