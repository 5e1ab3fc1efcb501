import Conch.Proofs.Variables
import Mathlib.Data.List.Induction

/-!
# The laws of the variable store

Each operation of the store does one thing to each of its two collections:

* an assignment is read back by its name and leaves other names alone; it rewrites a listed
  name in place, at the position of its entry, and appends a new name at the end;
* a removal reports whether the name was known, leaves it unknown, and keeps every other
  entry, in order;
* an export mark leaves the variables alone, makes the name known, and marking twice is
  marking once;
* a store built from inherited pairs lists the validly named ones in the order their names
  first occur, each with the value of its last occurrence;
* the environment handed to a program is the variables as `NAME=VALUE`, in order, and it
  can be made exactly when no name or value holds a NUL character.

None of these needs the invariant of `Env.Coherent`: they hold of every store.  A removal
reports what the source computes, a change in the summed lengths of the two collections
(`Env.unsets_eq_length_change`).

Main statement: `Env.store_laws`.
-/

set_option autoImplicit false

namespace Conch

/-! ## Assigning in place -/

section Upsert

variable {β : Type} (name : String) (v : β)

@[simp] theorem lookup_upsert_self (l : List (String × β)) :
    (upsert name v l).lookup name = some v := by
  induction l with
  | nil => simp [upsert]
  | cons p rest ih =>
    obtain ⟨m, w⟩ := p
    by_cases hm : m = name
    · simp [upsert, hm]
    · have hne : (name == m) = false := beq_false_of_ne (Ne.symm hm)
      simp [upsert, hm, List.lookup_cons, hne, ih]

theorem lookup_upsert_of_ne {m : String} (h : m ≠ name) (l : List (String × β)) :
    (upsert name v l).lookup m = l.lookup m := by
  have hne : (m == name) = false := beq_false_of_ne h
  induction l with
  | nil => simp [upsert, List.lookup_cons, hne]
  | cons p rest ih =>
    obtain ⟨k, w⟩ := p
    by_cases hk : k = name
    · subst hk
      simp [upsert, List.lookup_cons, hne]
    · simp [upsert, hk, List.lookup_cons, ih]

/-- Assigning a listed name writes the entry at the position of its first occurrence. -/
theorem upsert_of_mem (l : List (String × β)) (h : name ∈ l.map Prod.fst) :
    upsert name v l = l.set ((l.map Prod.fst).idxOf name) (name, v) := by
  induction l with
  | nil => simp at h
  | cons p rest ih =>
    obtain ⟨m, w⟩ := p
    by_cases hm : m = name
    · subst hm
      simp [upsert]
    · have hrest : name ∈ rest.map Prod.fst := by simpa [Ne.symm hm] using h
      simp [upsert, hm, List.idxOf_cons_ne _ hm, ih hrest]

/-- Assigning a name keeps a listed name at its position and appends a new one. -/
theorem upsert_eq_ite (l : List (String × β)) :
    upsert name v l = if name ∈ l.map Prod.fst then l.set ((l.map Prod.fst).idxOf name) (name, v)
      else l ++ [(name, v)] := by
  split
  · exact upsert_of_mem name v l ‹_›
  · exact upsert_of_not_mem name v l ‹_›

@[simp] theorem upsert_upsert_self (w : β) (l : List (String × β)) :
    upsert name v (upsert name w l) = upsert name v l := by
  induction l with
  | nil => simp [upsert]
  | cons p rest ih =>
    obtain ⟨m, u⟩ := p
    by_cases hm : m = name
    · simp [upsert, hm]
    · simp [upsert, hm, ih]

/-- Assigning a name the value a lookup finds for it changes nothing. -/
theorem upsert_of_lookup {l : List (String × β)} (h : l.lookup name = some v) :
    upsert name v l = l := by
  induction l with
  | nil => simp at h
  | cons p rest ih =>
    obtain ⟨m, u⟩ := p
    by_cases hm : m = name
    · subst hm
      simp only [List.lookup_cons, beq_self_eq_true, Option.some.injEq] at h
      simp [upsert, h]
    · have hne : (name == m) = false := beq_false_of_ne (Ne.symm hm)
      simp only [List.lookup_cons, hne] at h
      simp [upsert, hm, ih h]

/-- Assignments of two names commute once one of them is listed: neither then moves the
other. -/
theorem upsert_comm {other : String} (w : β) (hne : other ≠ name) {l : List (String × β)}
    (h : name ∈ l.map Prod.fst) :
    upsert other w (upsert name v l) = upsert name v (upsert other w l) := by
  induction l with
  | nil => simp at h
  | cons p rest ih =>
    obtain ⟨m, u⟩ := p
    by_cases hm : m = name
    · subst hm
      simp [upsert, Ne.symm hne]
    · by_cases ho : m = other
      · subst ho
        simp [upsert, hm]
      · have hrest : name ∈ rest.map Prod.fst := by simpa [Ne.symm hm] using h
        simp [upsert, hm, ho, ih hrest]

theorem getElem?_upsert_of_ne {l : List (String × β)} {i : Nat} {p : String × β}
    (hi : l[i]? = some p) (hne : p.1 ≠ name) : (upsert name v l)[i]? = some p := by
  induction l generalizing i with
  | nil => simp at hi
  | cons q rest ih =>
    obtain ⟨m, u⟩ := q
    cases i with
    | zero =>
      simp only [List.getElem?_cons_zero, Option.some.injEq] at hi
      subst hi
      simp [upsert, hne]
    | succ i =>
      simp only [List.getElem?_cons_succ] at hi
      by_cases hm : m = name
      · simp [upsert, hm, hi]
      · simp [upsert, hm, ih hi]

end Upsert

theorem isSome_lookup {β : Type} (l : List (String × β)) (n : String) :
    (l.lookup n).isSome = l.any (fun p => p.1 == n) := by
  induction l with
  | nil => rfl
  | cons p rest ih =>
    obtain ⟨m, w⟩ := p
    by_cases h : n = m
    · simp [h]
    · have hnm : (n == m) = false := beq_false_of_ne h
      have hmn : (m == n) = false := beq_false_of_ne (Ne.symm h)
      simp [List.lookup_cons, hnm, hmn, ih]

/-- A removal keeps the length of a list exactly when no entry has the name. -/
theorem length_filter_ne_name {β : Type} (l : List (String × β)) (n : String) :
    (l.filter (fun p => p.1 != n)).length = l.length ↔ l.any (fun p => p.1 == n) = false := by
  rw [List.length_filter_eq_length_iff]
  simp

theorem upsert_map_some (name v : String) (l : List (String × String)) :
    upsert name (some v) (l.map fun p => (p.1, some p.2)) =
      (upsert name v l).map fun p => (p.1, some p.2) := by
  induction l with
  | nil => rfl
  | cons p rest ih =>
    by_cases hm : p.1 = name
    · simp [upsert, hm]
    · simp [upsert, hm, ih]

namespace Env

variable (e : Env) (n v : String)

/-! ## Assignment -/

@[simp] theorem get_set_self : (e.set n v).get n = some v :=
  lookup_upsert_self n v e.vars

theorem get_set_of_ne {m : String} (h : m ≠ n) : (e.set n v).get m = e.get m :=
  lookup_upsert_of_ne n v h e.vars

/-- An assignment keeps a variable at its position, or appends a new one. -/
theorem set_vars : (e.set n v).vars =
    if n ∈ e.vars.map Prod.fst then e.vars.set ((e.vars.map Prod.fst).idxOf n) (n, v)
    else e.vars ++ [(n, v)] :=
  upsert_eq_ite n v e.vars

/-- An assignment keeps an exported name at its position, or appends a new one. -/
theorem set_exported : (e.set n v).exported =
    if n ∈ e.exported.map Prod.fst then
      e.exported.set ((e.exported.map Prod.fst).idxOf n) (n, some v)
    else e.exported ++ [(n, some v)] :=
  upsert_eq_ite n (some v) e.exported

@[simp] theorem set_set_self (w : String) : (e.set n w).set n v = e.set n v := by
  simp [Env.set]

/-- Assigning a variable the value it has, in both collections, changes nothing. -/
theorem set_of_lookup {e : Env} {n v : String} (hv : e.vars.lookup n = some v)
    (hx : e.exported.lookup n = some (some v)) : e.set n v = e := by
  simp only [Env.set, upsert_of_lookup n v hv, upsert_of_lookup n (some v) hx]

/-- Assignments of two variables commute once one of them is listed in both collections. -/
theorem set_comm {e : Env} {n m : String} (a b : String) (hne : m ≠ n)
    (hv : n ∈ e.vars.map Prod.fst) (hx : n ∈ e.exported.map Prod.fst) :
    (e.set n a).set m b = (e.set m b).set n a := by
  simp only [Env.set, upsert_comm n a b hne hv, upsert_comm n (some a) (some b) hne hx]

theorem mem_set_names :
    n ∈ (e.set n v).vars.map Prod.fst ∧ n ∈ (e.set n v).exported.map Prod.fst := by
  refine ⟨?_, ?_⟩ <;>
    exact List.mem_map.2 ⟨_, mem_of_lookup_eq_some (lookup_upsert_self _ _ _), rfl⟩

/-! ## Removal -/

theorem get_unset_self : (e.unset n).get n = none := by
  rw [Env.get, Env.unset, List.lookup_eq_none_iff]
  intro p hp
  simp only [List.mem_filter, bne_iff_ne, ne_eq] at hp
  exact bne_iff_ne.2 (Ne.symm hp.2)

@[simp] theorem contains_unset_self : (e.unset n).contains n = false := by
  rw [Env.contains, get_unset_self]
  simp [Env.unset]

/-- A removal reports that it removed something exactly when the name was known. -/
theorem unsets_eq_contains : e.unsets n = e.contains n := by
  simp [Env.unsets, Env.contains, Env.get, isSome_lookup]

/-- A removal reports that it removed something exactly when the two collections, counted
together, became shorter. -/
theorem unsets_eq_length_change :
    e.unsets n = ((e.unset n).vars.length + (e.unset n).exported.length !=
      e.vars.length + e.exported.length) := by
  have hv := List.length_filter_le (fun p : String × String => p.1 != n) e.vars
  have hx := List.length_filter_le (fun p : String × Option String => p.1 != n) e.exported
  have hvi := length_filter_ne_name e.vars n
  have hxi := length_filter_ne_name e.exported n
  simp only [Env.unsets, Env.unset]
  rw [Bool.eq_iff_iff]
  simp only [Bool.or_eq_true, bne_iff_ne, ne_eq]
  rw [← Bool.not_eq_false (e.vars.any _), ← Bool.not_eq_false (e.exported.any _), ← hvi, ← hxi]
  omega

theorem unset_vars_sublist : (e.unset n).vars.Sublist e.vars := List.filter_sublist

theorem mem_unset_vars {p : String × String} (hp : p ∈ e.vars) (hne : p.1 ≠ n) :
    p ∈ (e.unset n).vars :=
  (mem_filter_ne_name e.vars n p).2 ⟨hp, hne⟩

theorem unset_exported_sublist : (e.unset n).exported.Sublist e.exported := List.filter_sublist

theorem mem_unset_exported {p : String × Option String} (hp : p ∈ e.exported) (hne : p.1 ≠ n) :
    p ∈ (e.unset n).exported :=
  (mem_filter_ne_name e.exported n p).2 ⟨hp, hne⟩

/-! ## Export marks -/

@[simp] theorem exportMark_vars : (e.exportMark n).vars = e.vars := by
  unfold Env.exportMark
  split <;> rfl

@[simp] theorem get_exportMark (m : String) : (e.exportMark n).get m = e.get m := by
  simp [Env.get]

theorem any_exportMark : (e.exportMark n).exported.any (fun p => p.1 == n) = true := by
  unfold Env.exportMark
  split
  · assumption
  · simp

theorem contains_exportMark : (e.exportMark n).contains n = true := by
  simp [Env.contains, any_exportMark]

/-- Marking an exported name changes nothing. -/
theorem exportMark_of_any {e : Env} {n : String} (h : e.exported.any (fun p => p.1 == n) = true) :
    e.exportMark n = e := by
  rw [Env.exportMark, if_pos h]

theorem exportMark_exportMark : (e.exportMark n).exportMark n = e.exportMark n :=
  exportMark_of_any (any_exportMark e n)

/-! ## Stores built from inherited pairs -/

/-- Building a store from pairs assigns the validly named ones, in order. -/
theorem ofPairs_eq_foldl (pairs : List (String × String)) :
    ofPairs pairs =
      (pairs.filter (fun p => isValidName p.1)).foldl (fun e p => e.set p.1 p.2) {} := by
  unfold ofPairs
  -- generalise the store the pairs are folded into
  suffices h : ∀ e : Env,
      pairs.foldl (fun e p => if isValidName p.1 then e.set p.1 p.2 else e) e =
        (pairs.filter (fun p => isValidName p.1)).foldl (fun e p => e.set p.1 p.2) e from h {}
  induction pairs with
  | nil => exact fun _ => rfl
  | cons p rest ih =>
    intro e
    by_cases hp : isValidName p.1 <;> simp [hp, ih]

section Assignments

variable (ps : List (String × String))

/-- Assigning pairs in order lists their names in the order of first occurrence. -/
theorem names_foldl_set :
    (ps.foldl (fun e p => e.set p.1 p.2) ({} : Env)).vars.map Prod.fst =
      (ps.map Prod.fst).eraseDups := by
  induction ps using List.reverseRecOn with
  | nil => rfl
  | append_singleton ps p ih =>
    obtain ⟨a, b⟩ := p
    rw [List.foldl_append, List.map_append, List.eraseDups_append]
    simp only [List.foldl_cons, List.foldl_nil, List.map_cons, List.map_nil]
    set e := ps.foldl (fun e p => e.set p.1 p.2) ({} : Env)
    by_cases hmem : a ∈ e.vars.map Prod.fst
    · have hps : a ∈ ps.map Prod.fst := List.mem_eraseDups.1 (ih ▸ hmem)
      rw [Env.set, map_fst_upsert_of_mem a b e.vars hmem, ih]
      simp [List.removeAll, hps]
    · have hps : a ∉ ps.map Prod.fst := fun h => hmem (ih ▸ List.mem_eraseDups.2 h)
      rw [Env.set, upsert_of_not_mem a b e.vars hmem, List.map_append, ih]
      simp [List.removeAll, hps, List.eraseDups_cons]

/-- Assigning pairs in order gives each name the value of its last occurrence. -/
theorem get_foldl_set (m : String) :
    (ps.foldl (fun e p => e.set p.1 p.2) ({} : Env)).get m = ps.reverse.lookup m := by
  induction ps using List.reverseRecOn with
  | nil => rfl
  | append_singleton ps p ih =>
    obtain ⟨a, b⟩ := p
    rw [List.foldl_append, List.reverse_append]
    simp only [List.foldl_cons, List.foldl_nil, List.reverse_cons, List.reverse_nil,
      List.nil_append, List.singleton_append]
    by_cases hm : m = a
    · subst hm
      simp
    · rw [get_set_of_ne _ _ _ hm, ih, List.lookup_cons, beq_false_of_ne hm]

/-- An assignment keeps the exported names a copy of the variables when they were one. -/
theorem set_exported_of_copy {e : Env} (h : e.exported = e.vars.map fun p => (p.1, some p.2))
    (n v : String) : (e.set n v).exported = (e.set n v).vars.map fun p => (p.1, some p.2) := by
  simp only [Env.set, h, upsert_map_some]

/-- Assigning pairs in order exports exactly the variables, in the same order. -/
theorem exported_foldl_set :
    (ps.foldl (fun e p => e.set p.1 p.2) ({} : Env)).exported =
      (ps.foldl (fun e p => e.set p.1 p.2) ({} : Env)).vars.map fun p => (p.1, some p.2) := by
  -- generalise the store, which starts as a copy and stays one
  suffices h : ∀ e : Env, e.exported = e.vars.map (fun p => (p.1, some p.2)) →
      (ps.foldl (fun e p => e.set p.1 p.2) e).exported =
        (ps.foldl (fun e p => e.set p.1 p.2) e).vars.map fun p => (p.1, some p.2) from
    h {} rfl
  induction ps with
  | nil => exact fun _ h => h
  | cons p rest ih => exact fun e h => ih _ (set_exported_of_copy h p.1 p.2)

end Assignments

/-! ## The environment of a program -/

/-- An entry `NAME=VALUE` holds a NUL character exactly when its name or its value does. -/
theorem nul_mem_entry (p : String × String) :
    Char.ofNat 0 ∈ (p.1 ++ "=" ++ p.2).toList ↔
      Char.ofNat 0 ∈ p.1.toList ∨ Char.ofNat 0 ∈ p.2.toList := by
  have hsep : Char.ofNat 0 ∉ "=".toList := by decide
  simp only [String.toList_append, List.mem_append]
  tauto

/-- A program's environment can be made exactly when no variable's name or value holds a NUL
character. -/
theorem toEnvp_ok_iff :
    (∃ xs, e.toEnvp = .ok xs) ↔
      ∀ p ∈ e.vars, Char.ofNat 0 ∉ p.1.toList ∧ Char.ofNat 0 ∉ p.2.toList := by
  unfold Env.toEnvp Env.entries
  dsimp only
  split
  · next hany =>
    simp only [reduceCtorEq, exists_false, false_iff, not_forall, not_and_or, not_not]
    obtain ⟨s, hs, hnul⟩ := List.any_eq_true.1 hany
    obtain ⟨p, hp, rfl⟩ := List.mem_map.1 hs
    exact ⟨p, hp, (nul_mem_entry p).1 (List.contains_iff_mem.1 hnul)⟩
  · next hany =>
    simp only [Except.ok.injEq, exists_eq', true_iff]
    intro p hp
    have hno : ¬ Char.ofNat 0 ∈ (p.1 ++ "=" ++ p.2).toList := by
      intro hnul
      exact hany (List.any_eq_true.2 ⟨_, List.mem_map_of_mem hp, List.contains_iff_mem.2 hnul⟩)
    rwa [nul_mem_entry, not_or] at hno

/-- A program's environment is the variables written `NAME=VALUE`, in order. -/
theorem toEnvp_eq_ok {xs : List String} (h : e.toEnvp = .ok xs) :
    xs = e.vars.map fun p => p.1 ++ "=" ++ p.2 := by
  unfold Env.toEnvp Env.entries at h
  dsimp only at h
  split at h
  · cases h
  · exact (Except.ok.inj h).symm

/-! ## The laws together -/

/-- The laws of the store, for every store.  An assignment is read back by its name and leaves
other names alone; in each collection it keeps a listed name at its position and appends a new
one.  A removal reports exactly whether the name was known, leaves it unknown, and keeps every
other entry of both collections, in order.  An export mark leaves the variables and every
lookup alone, makes the name known, and marking twice is marking once.  A store built from
pairs lists the validly named pairs by first occurrence, each with the value of its last
occurrence, and exports exactly them.  A program's environment can be made exactly when no
variable holds a NUL character, and it is then the variables as `NAME=VALUE`, in order. -/
theorem store_laws (e : Env) (n v : String) (pairs : List (String × String)) :
    ((e.set n v).get n = some v ∧ ∀ m, m ≠ n → (e.set n v).get m = e.get m) ∧
    ((e.set n v).vars =
        (if n ∈ e.vars.map Prod.fst then e.vars.set ((e.vars.map Prod.fst).idxOf n) (n, v)
          else e.vars ++ [(n, v)]) ∧
      (e.set n v).exported =
        (if n ∈ e.exported.map Prod.fst then
          e.exported.set ((e.exported.map Prod.fst).idxOf n) (n, some v)
          else e.exported ++ [(n, some v)])) ∧
    (e.unsets n = e.contains n ∧
      e.unsets n = ((e.unset n).vars.length + (e.unset n).exported.length !=
        e.vars.length + e.exported.length) ∧
      (e.unset n).contains n = false ∧
      (e.unset n).vars.Sublist e.vars ∧ (∀ p ∈ e.vars, p.1 ≠ n → p ∈ (e.unset n).vars) ∧
      (e.unset n).exported.Sublist e.exported ∧
      (∀ p ∈ e.exported, p.1 ≠ n → p ∈ (e.unset n).exported)) ∧
    ((e.exportMark n).exportMark n = e.exportMark n ∧ (e.exportMark n).vars = e.vars ∧
      (∀ m, (e.exportMark n).get m = e.get m) ∧ (e.exportMark n).contains n = true) ∧
    ((ofPairs pairs).vars.map Prod.fst =
        ((pairs.filter (fun p => isValidName p.1)).map Prod.fst).eraseDups ∧
      (∀ m, (ofPairs pairs).get m = (pairs.filter (fun p => isValidName p.1)).reverse.lookup m) ∧
      (ofPairs pairs).exported = (ofPairs pairs).vars.map fun p => (p.1, some p.2)) ∧
    ((∃ xs, e.toEnvp = .ok xs) ↔
      ∀ p ∈ e.vars, Char.ofNat 0 ∉ p.1.toList ∧ Char.ofNat 0 ∉ p.2.toList) ∧
    (∀ xs, e.toEnvp = .ok xs → xs = e.vars.map fun p => p.1 ++ "=" ++ p.2) := by
  refine ⟨⟨get_set_self e n v, fun m hm => get_set_of_ne e n v hm⟩,
    ⟨set_vars e n v, set_exported e n v⟩,
    ⟨unsets_eq_contains e n, unsets_eq_length_change e n, contains_unset_self e n,
      unset_vars_sublist e n, fun p hp hne => mem_unset_vars e n hp hne,
      unset_exported_sublist e n, fun p hp hne => mem_unset_exported e n hp hne⟩,
    ⟨exportMark_exportMark e n, exportMark_vars e n, get_exportMark e n,
      contains_exportMark e n⟩, ?_, toEnvp_ok_iff e, fun xs h => toEnvp_eq_ok e h⟩
  rw [ofPairs_eq_foldl]
  exact ⟨names_foldl_set _, get_foldl_set _, exported_foldl_set _⟩

/-- `A` keeps the place of its first pair and the value of its last; `1A` is no name. -/
example : (ofPairs [("A", "1"), ("1A", "x"), ("B", "2"), ("A", "3")]).vars =
    [("A", "3"), ("B", "2")] := by
  decide

end Env

end Conch
