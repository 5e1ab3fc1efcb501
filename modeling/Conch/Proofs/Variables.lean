import Conch.Env.Store
import Mathlib.Data.List.Nodup

/-!
# The two collections of the variable store stay in step

The store keeps the variables that have a value (`Env.vars`) and the exported names
(`Env.exported`) in two lists, each in an order of its own: `export X`, then `Y=1`, then
`X=2` lists `X` before `Y` among the exported names and after it among the variables.  What
stays in step is their content.  In every store the shell can reach from inherited pairs by
assignments, removals and export marks with any names at all (`Env.Reachable`):

* no name is listed twice in either list;
* a name is a variable with value `v` exactly when it is exported with value `v`;
* an exported name has no value exactly when it is not a variable.

These are the fields of `Env.Coherent`; every operation keeps them (`Env.Coherent.set`,
`Env.Coherent.unset`, `Env.Coherent.exportMark`).  So the exported names are all the names the
store knows: a lookup reads the exported value (`Env.Coherent.get_eq`), a name is known
exactly when it is exported (`Env.Coherent.contains_iff`), and the variables are the exported
entries that have a value, in some order (`Env.Coherent.vars_perm`).  The main statement,
`Env.Reachable.collections_agree`, gathers all of this.
-/

namespace Conch

/-! ## Assigning in place -/

section Upsert

variable {β : Type} (name : String) (v : β)

theorem upsert_of_not_mem (l : List (String × β)) (h : name ∉ l.map Prod.fst) :
    upsert name v l = l ++ [(name, v)] := by
  induction l with
  | nil => rfl
  | cons p rest ih =>
      obtain ⟨m, w⟩ := p
      have hm : m ≠ name := fun heq => h (by simp [heq])
      have hrest : name ∉ rest.map Prod.fst := fun hr => h (List.mem_cons_of_mem _ hr)
      simp [upsert, hm, ih hrest]

theorem map_fst_upsert_of_mem (l : List (String × β)) (h : name ∈ l.map Prod.fst) :
    (upsert name v l).map Prod.fst = l.map Prod.fst := by
  induction l with
  | nil => simp at h
  | cons p rest ih =>
      obtain ⟨m, w⟩ := p
      by_cases hm : m = name
      · simp [upsert, hm]
      · have hrest : name ∈ rest.map Prod.fst := by
          simpa [Ne.symm hm] using h
        simp [upsert, hm, ih hrest]

theorem nodup_map_fst_upsert (l : List (String × β)) (h : (l.map Prod.fst).Nodup) :
    ((upsert name v l).map Prod.fst).Nodup := by
  by_cases hmem : name ∈ l.map Prod.fst
  · rwa [map_fst_upsert_of_mem name v l hmem]
  · rw [upsert_of_not_mem name v l hmem, List.map_append, List.nodup_append]
    refine ⟨h, by simp, ?_⟩
    rintro a ha b hb rfl
    simp only [List.map_cons, List.map_nil, List.mem_singleton] at hb
    exact hmem (hb ▸ ha)

theorem mem_upsert_iff {l : List (String × β)} (h : (l.map Prod.fst).Nodup)
    (p : String × β) : p ∈ upsert name v l ↔ p = (name, v) ∨ (p ∈ l ∧ p.1 ≠ name) := by
  induction l with
  | nil => simp [upsert]
  | cons q rest ih =>
      obtain ⟨m, w⟩ := q
      simp only [List.map_cons, List.nodup_cons] at h
      by_cases hm : m = name
      · subst hm
        have hother : ∀ r ∈ rest, r.1 ≠ m := fun r hr heq => h.1 (heq ▸ List.mem_map_of_mem hr)
        simp only [upsert, beq_self_eq_true, if_true, List.mem_cons]
        constructor
        · rintro (rfl | hp)
          · exact .inl rfl
          · exact .inr ⟨.inr hp, hother p hp⟩
        · rintro (rfl | ⟨rfl | hp, hne⟩)
          · exact .inl rfl
          · exact absurd rfl hne
          · exact .inr hp
      · simp only [upsert, beq_iff_eq, hm, if_false, List.mem_cons, ih h.2]
        constructor
        · rintro (rfl | rfl | ⟨hp, hne⟩)
          · exact .inr ⟨.inl rfl, hm⟩
          · exact .inl rfl
          · exact .inr ⟨.inr hp, hne⟩
        · rintro (rfl | ⟨rfl | hp, hne⟩)
          · exact .inr (.inl rfl)
          · exact .inl rfl
          · exact .inr (.inr ⟨hp, hne⟩)

end Upsert

theorem mem_filter_ne_name {β : Type} (l : List (String × β)) (name : String)
    (p : String × β) : p ∈ l.filter (fun q => q.1 != name) ↔ p ∈ l ∧ p.1 ≠ name := by
  simp

theorem nodup_map_fst_filter {β : Type} (l : List (String × β)) (q : String × β → Bool)
    (h : (l.map Prod.fst).Nodup) : ((l.filter q).map Prod.fst).Nodup :=
  h.sublist ((List.filter_sublist).map Prod.fst)

theorem lookup_eq_some_of_mem {β : Type} {l : List (String × β)} (h : (l.map Prod.fst).Nodup)
    {n : String} {v : β} (hmem : (n, v) ∈ l) : l.lookup n = some v := by
  induction l with
  | nil => simp at hmem
  | cons q rest ih =>
      obtain ⟨m, w⟩ := q
      simp only [List.map_cons, List.nodup_cons] at h
      rcases List.mem_cons.1 hmem with heq | hrest
      · simp only [Prod.mk.injEq] at heq
        obtain ⟨rfl, rfl⟩ := heq
        simp
      · have hne : (n == m) = false := beq_false_of_ne (by
          rintro rfl
          exact h.1 (List.mem_map_of_mem (f := Prod.fst) hrest))
        simp [List.lookup_cons, hne, ih h.2 hrest]

theorem mem_of_lookup_eq_some {β : Type} {l : List (String × β)} {n : String} {v : β}
    (h : l.lookup n = some v) : (n, v) ∈ l := by
  obtain ⟨l₁, l₂, rfl, -⟩ := List.lookup_eq_some_iff.1 h
  simp

theorem lookup_eq_none_of_not_mem {β : Type} {l : List (String × β)} {n : String}
    (h : n ∉ l.map Prod.fst) : l.lookup n = none := by
  rw [List.lookup_eq_none_iff]
  intro p hp
  have hne : n ≠ p.1 := fun heq => h (heq ▸ List.mem_map_of_mem hp)
  simpa using hne

namespace Env

/-! ## The invariant -/

/-- The stores the shell can reach: built from inherited pairs, then changed by assignments,
removals and export marks, with any names. -/
inductive Reachable : Env → Prop
  | ofPairs (pairs : List (String × String)) : Reachable (ofPairs pairs)
  | set {e : Env} (name value : String) : Reachable e → Reachable (e.set name value)
  | unset {e : Env} (name : String) : Reachable e → Reachable (e.unset name)
  | exportMark {e : Env} (name : String) : Reachable e → Reachable (e.exportMark name)

/-- The variables and the exported names of a store agree in content. -/
structure Coherent (e : Env) : Prop where
  /-- No variable is listed twice. -/
  vars_nodup : (e.vars.map Prod.fst).Nodup
  /-- No exported name is listed twice. -/
  exported_nodup : (e.exported.map Prod.fst).Nodup
  /-- A variable has value `v` exactly when its name is exported with value `v`. -/
  mem_vars_iff : ∀ n v, (n, v) ∈ e.vars ↔ (n, some v) ∈ e.exported
  /-- An exported name has no value exactly when it is not a variable. -/
  none_iff : ∀ p ∈ e.exported, p.2 = none ↔ p.1 ∉ e.vars.map Prod.fst

namespace Coherent

variable {e : Env}

/-- Every variable is exported. -/
theorem exported_of_var (hc : e.Coherent) {n : String} (h : n ∈ e.vars.map Prod.fst) :
    n ∈ e.exported.map Prod.fst := by
  obtain ⟨⟨m, v⟩, hmem, rfl⟩ := List.mem_map.1 h
  exact List.mem_map_of_mem (f := Prod.fst) ((hc.mem_vars_iff m v).1 hmem)

theorem empty : Coherent {} :=
  ⟨List.nodup_nil, List.nodup_nil, by simp, by simp⟩

/-- An assignment keeps the collections in step: it writes the same value into both. -/
theorem set (hc : e.Coherent) (name value : String) : (e.set name value).Coherent := by
  have hvars := mem_upsert_iff name value hc.vars_nodup
  have hexp := mem_upsert_iff name (some value) hc.exported_nodup
  refine ⟨nodup_map_fst_upsert _ _ _ hc.vars_nodup,
    nodup_map_fst_upsert _ _ _ hc.exported_nodup, ?_, ?_⟩
  · intro n v
    simp only [Env.set, hvars, hexp, Prod.mk.injEq, Option.some.injEq, ne_eq, hc.mem_vars_iff]
  · intro p hp
    simp only [Env.set] at hp ⊢
    have hnames : ∀ m, m ∈ (upsert name value e.vars).map Prod.fst ↔
        m = name ∨ m ∈ e.vars.map Prod.fst := by
      intro m
      by_cases hmem : name ∈ e.vars.map Prod.fst
      · rw [map_fst_upsert_of_mem _ _ _ hmem]
        constructor
        · exact .inr
        · rintro (rfl | h)
          · exact hmem
          · exact h
      · simp [upsert_of_not_mem _ _ _ hmem, or_comm]
    rcases (hexp p).1 hp with rfl | ⟨hp, hne⟩
    · simp [hnames]
    · rw [hc.none_iff p hp, hnames]
      simp [hne]

/-- A removal keeps the collections in step: it removes the name from both. -/
theorem unset (hc : e.Coherent) (name : String) : (e.unset name).Coherent := by
  refine ⟨nodup_map_fst_filter _ _ hc.vars_nodup, nodup_map_fst_filter _ _ hc.exported_nodup,
    ?_, ?_⟩
  · intro n v
    simp only [Env.unset, mem_filter_ne_name, hc.mem_vars_iff]
  · intro p hp
    simp only [Env.unset, mem_filter_ne_name] at hp ⊢
    rw [hc.none_iff p hp.1]
    constructor
    · intro hnot hmem
      obtain ⟨q, hq, hq1⟩ := List.mem_map.1 hmem
      exact hnot (hq1 ▸ List.mem_map_of_mem (List.mem_filter.1 hq).1)
    · intro hnot hmem
      obtain ⟨q, hq, hq1⟩ := List.mem_map.1 hmem
      refine hnot (List.mem_map.2 ⟨q, ?_, hq1⟩)
      simp [hq, hq1, hp.2]

/-- A name that is not exported is no variable, so it has no value. -/
theorem get_eq_none (hc : e.Coherent) {name : String} (h : name ∉ e.exported.map Prod.fst) :
    e.get name = none :=
  lookup_eq_none_of_not_mem fun hv => h (hc.exported_of_var hv)

/-- An export mark keeps the collections in step: it lists a new name only when that name has
no value. -/
theorem exportMark (hc : e.Coherent) (name : String) : (e.exportMark name).Coherent := by
  unfold Env.exportMark
  split
  · exact hc
  · next hany =>
      have hnot : name ∉ e.exported.map Prod.fst := by
        simpa [List.any_eq_true] using hany
      have hnovar : name ∉ e.vars.map Prod.fst := fun hv => hnot (hc.exported_of_var hv)
      rw [hc.get_eq_none hnot]
      refine ⟨hc.vars_nodup, ?_, ?_, ?_⟩
      · rw [List.map_append, List.nodup_append]
        refine ⟨hc.exported_nodup, by simp, ?_⟩
        rintro a ha b hb rfl
        simp only [List.map_cons, List.map_nil, List.mem_singleton] at hb
        exact hnot (hb ▸ ha)
      · intro n v
        simp [hc.mem_vars_iff]
      · intro p hp
        rcases List.mem_append.1 hp with hp | hp
        · exact hc.none_iff p hp
        · simp only [List.mem_singleton] at hp
          subst hp
          simpa using hnovar

/-- A store built from inherited pairs: each valid pair is an assignment. -/
theorem ofPairs (pairs : List (String × String)) : (Env.ofPairs pairs).Coherent := by
  unfold Env.ofPairs
  -- generalise the store the pairs are folded into
  suffices h : ∀ e : Env, e.Coherent →
      (pairs.foldl (fun e p => if isValidName p.1 then e.set p.1 p.2 else e) e).Coherent from
    h {} empty
  induction pairs with
  | nil => exact fun _ hc => hc
  | cons p rest ih =>
      intro e hc
      apply ih
      dsimp only
      split
      · exact hc.set p.1 p.2
      · exact hc

/-! ## What the invariant gives -/

/-- A lookup finds the exported value. -/
theorem get_eq (hc : e.Coherent) (name : String) :
    e.get name = (e.exported.lookup name).join := by
  cases hget : e.get name with
  | some v =>
      have hexp := (hc.mem_vars_iff name v).1 (mem_of_lookup_eq_some hget)
      simp [lookup_eq_some_of_mem hc.exported_nodup hexp]
  | none =>
      cases hlook : e.exported.lookup name with
      | none => rfl
      | some o =>
          have hmem := mem_of_lookup_eq_some hlook
          have hnovar : name ∉ e.vars.map Prod.fst := by
            intro hv
            obtain ⟨⟨m, v⟩, hmv, rfl⟩ := List.mem_map.1 hv
            simp [Env.get, lookup_eq_some_of_mem hc.vars_nodup hmv] at hget
          have ho : o = none := (hc.none_iff _ hmem).2 hnovar
          simp [ho]

/-- A name is known to the store exactly when it is exported. -/
theorem contains_iff (hc : e.Coherent) (name : String) :
    e.contains name = true ↔ name ∈ e.exported.map Prod.fst := by
  simp only [Env.contains, Bool.or_eq_true, Option.isSome_iff_exists, List.any_eq_true,
    beq_iff_eq]
  constructor
  · rintro (⟨v, hv⟩ | ⟨p, hp, rfl⟩)
    · exact List.mem_map_of_mem (f := Prod.fst)
        ((hc.mem_vars_iff name v).1 (mem_of_lookup_eq_some hv))
    · exact List.mem_map_of_mem hp
  · intro h
    obtain ⟨p, hp, rfl⟩ := List.mem_map.1 h
    exact .inr ⟨p, hp, rfl⟩

/-- The variables are the exported entries that have a value, in some order. -/
theorem vars_perm (hc : e.Coherent) :
    e.vars.Perm (e.exported.filterMap fun p => p.2.map (p.1, ·)) := by
  have hinj : ∀ (p q : String × Option String) (r : String × String),
      r ∈ p.2.map (p.1, ·) → r ∈ q.2.map (q.1, ·) → p = q := by
    rintro ⟨n, _ | a⟩ ⟨m, _ | b⟩ r hp hq <;> simp at hp hq
    subst hp
    simp only [Prod.mk.injEq] at hq
    obtain ⟨rfl, rfl⟩ := hq
    rfl
  refine (List.perm_ext_iff_of_nodup (hc.vars_nodup.of_map _)
    ((hc.exported_nodup.of_map _).filterMap hinj)).2 ?_
  rintro ⟨n, v⟩
  rw [hc.mem_vars_iff, List.mem_filterMap]
  constructor
  · intro h
    exact ⟨(n, some v), h, rfl⟩
  · rintro ⟨⟨m, o⟩, hp, ho⟩
    cases o <;> simp_all

end Coherent

/-- Every store the shell can reach keeps its collections in step. -/
theorem Reachable.coherent {e : Env} (h : e.Reachable) : e.Coherent := by
  induction h with
  | ofPairs pairs => exact .ofPairs pairs
  | set name value _ ih => exact ih.set name value
  | unset name _ ih => exact ih.unset name
  | exportMark name _ ih => exact ih.exportMark name

/-- In every store the shell can reach, no name is listed twice in either collection, a name
is a variable with value `v` exactly when it is exported with value `v`, and an exported name
has no value exactly when it is no variable.  So a lookup reads the exported value, a name is
known exactly when it is exported, and the variables are the exported entries with a value,
in some order. -/
theorem Reachable.collections_agree {e : Env} (h : e.Reachable) :
    (e.vars.map Prod.fst).Nodup ∧ (e.exported.map Prod.fst).Nodup ∧
      (∀ n v, (n, v) ∈ e.vars ↔ (n, some v) ∈ e.exported) ∧
      (∀ p ∈ e.exported, p.2 = none ↔ p.1 ∉ e.vars.map Prod.fst) ∧
      (∀ n, e.get n = (e.exported.lookup n).join) ∧
      (∀ n, e.contains n = true ↔ n ∈ e.exported.map Prod.fst) ∧
      e.vars.Perm (e.exported.filterMap fun p => p.2.map (p.1, ·)) := by
  have hc := h.coherent
  exact ⟨hc.vars_nodup, hc.exported_nodup, hc.mem_vars_iff, hc.none_iff, hc.get_eq,
    hc.contains_iff, hc.vars_perm⟩

/-- The store after `export X`, `Y=1`, `X=2`, whose two collections list `X` and `Y` in
opposite orders. -/
def markedThenAssigned : Env :=
  (((Env.ofPairs []).exportMark "X").set "Y" "1").set "X" "2"

example : markedThenAssigned.vars = [("Y", "1"), ("X", "2")] ∧
    markedThenAssigned.exported = [("X", some "2"), ("Y", some "1")] := by
  decide

/-- The collections of `markedThenAssigned` agree although their orders differ. -/
theorem collections_agree_markedThenAssigned :
    markedThenAssigned.Reachable ∧
      (markedThenAssigned.vars.map Prod.fst).Nodup ∧
      (markedThenAssigned.exported.map Prod.fst).Nodup ∧
      (∀ n v, (n, v) ∈ markedThenAssigned.vars ↔ (n, some v) ∈ markedThenAssigned.exported) ∧
      (∀ p ∈ markedThenAssigned.exported,
        p.2 = none ↔ p.1 ∉ markedThenAssigned.vars.map Prod.fst) ∧
      (∀ n, markedThenAssigned.get n = (markedThenAssigned.exported.lookup n).join) ∧
      (∀ n, markedThenAssigned.contains n = true ↔
        n ∈ markedThenAssigned.exported.map Prod.fst) ∧
      markedThenAssigned.vars.Perm
        (markedThenAssigned.exported.filterMap fun p => p.2.map (p.1, ·)) := by
  have h : markedThenAssigned.Reachable := .set _ _ (.set _ _ (.exportMark _ (.ofPairs _)))
  exact ⟨h, Reachable.collections_agree h⟩

end Env

end Conch
