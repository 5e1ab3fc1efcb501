import Conch.Proofs.Spawning
import Mathlib.Data.List.ReduceOption

/-!
# Who holds the ends of a pipeline's pipes

The shell makes every pipe of a pipeline before it starts a stage, so at first it holds all
their ends, and a child made then would hold them too.  The loop that starts the stages moves
the ends so that each one is held, in the end, by the one stage that uses it: a pipe whose
writing end stayed open elsewhere would never show its reader an end.

The row of stage `k` in the table (`PipeTable.row`) is the reading end of pipe `k - 1` and the
writing end of pipe `k`, where those pipes exist (`row_make`); pipe `i` reads at `n + 2 * i` and
writes at `n + 2 * i + 1`, so no end is in two rows (`mem_row_make`).  Along the loop
(`Spawn.before`):

* the shell, before stage `k`, holds the rows of stage `k` and later (`mem_shell_ends_before`),
  and at the fork of stage `k` still exactly those, one of them in its hands
  (`mem_atFork_ends_before`); so after the last stage it holds no end (`spawn_shell_ends`);
* the child of stage `k` holds its row and the files of its own command's redirections, and
  nothing else (`childAt_ends`, `childAt_files`); a file its command opened takes the place of
  the row's end when the stage runs (`childAt_run_of_opened`).

Main statement: `pipe_ends_held_by_their_stages`.
-/

set_option autoImplicit false

namespace Conch

/-! ## Rows of the table -/

/-- The pipe ends of stage `k`'s row: the end it reads by default and the end it writes by
default, where those are pipes. -/
def PipeTable.row (t : PipeTable) (k : Nat) : List Nat :=
  t.readers[k]?.join.toList ++ t.writers[k]?.join.toList

theorem PipeTable.mem_held (t : PipeTable) (e : Nat) : e ∈ t.held ↔ ∃ k, e ∈ t.row k := by
  have hcol : ∀ l : List (Option Nat), e ∈ l.reduceOption ↔ ∃ k : Nat, e ∈ l[k]?.join.toList := by
    intro l
    rw [List.reduceOption_mem_iff, List.mem_iff_getElem?]
    simp [Option.join_eq_some_iff]
  simp only [PipeTable.held, PipeTable.row, List.mem_append, hcol, exists_or]

theorem PipeTable.row_after (t : PipeTable) (k j : Nat) :
    (t.after k).row j = if j < k then [] else t.row j := by
  have hcol : ∀ l : List (Option Nat),
      ((l.mapIdx fun i r => if i < k then none else r)[j]?).join =
        if j < k then none else l[j]?.join := by
    intro l
    rw [List.getElem?_mapIdx]
    by_cases hj : j < k <;> cases l[j]? <;> simp [hj]
  simp only [PipeTable.row, PipeTable.after, hcol]
  split <;> rfl

theorem PipeTable.mem_held_after (t : PipeTable) (k e : Nat) :
    e ∈ (t.after k).held ↔ ∃ j, k ≤ j ∧ e ∈ t.row j := by
  rw [PipeTable.mem_held]
  constructor
  · rintro ⟨j, hj⟩
    rw [PipeTable.row_after] at hj
    by_cases hlt : j < k
    · simp [hlt] at hj
    · exact ⟨j, by omega, by simpa [hlt] using hj⟩
  · rintro ⟨j, hkj, hj⟩
    exact ⟨j, by rw [PipeTable.row_after, if_neg (by omega)]; exact hj⟩

/-! ## The rows of a pipeline's table -/

/-- Pipe `i` of `count` stages exists when stage `i + 1` does. -/
theorem pipeEnds_getElem? (n count i : Nat) :
    (pipeEnds n count)[i]? =
      if i + 1 < count then some (n + 2 * i, n + 2 * i + 1) else none := by
  simp only [pipeEnds, List.getElem?_map]
  by_cases h : i + 1 < count
  · rw [List.getElem?_range (by omega), if_pos h]
    rfl
  · rw [List.getElem?_eq_none (by simp; omega), if_neg h]
    rfl

/-- A column closed by an empty cell reads, at each row, the cell the list gives there. -/
theorem join_getElem?_map_some_append (l : List Nat) (k : Nat) :
    ((l.map some ++ [none])[k]?).join = l[k]? := by
  by_cases hk : k < l.length
  · rw [List.getElem?_append_left (by simpa using hk)]
    simp [hk]
  · have hnone : l[k]? = none := List.getElem?_eq_none (by omega)
    rw [List.getElem?_append_right (by simpa using hk), hnone, List.length_map]
    cases k - l.length <;> simp

/-- Stage `k` reads from pipe `k - 1`, none for the first stage, and writes into pipe `k`, none
for the last. -/
theorem row_make (w : World) (count k : Nat) :
    (PipeTable.make w count).2.row k =
      (if k = 0 then [] else ((pipeEnds w.nextChannel count)[k - 1]?.map Prod.fst).toList) ++
        ((pipeEnds w.nextChannel count)[k]?.map Prod.snd).toList := by
  have hwriters : ((PipeTable.make w count).2.writers[k]?).join =
      (pipeEnds w.nextChannel count)[k]?.map Prod.snd := by
    have hcol := join_getElem?_map_some_append ((pipeEnds w.nextChannel count).map Prod.snd) k
    rw [List.map_map, List.getElem?_map] at hcol
    rw [make_table]
    exact hcol
  have hreaders : ((PipeTable.make w count).2.readers[k]?).join =
      if k = 0 then none else (pipeEnds w.nextChannel count)[k - 1]?.map Prod.fst := by
    rw [make_table]
    cases k with
    | zero => rfl
    | succ k =>
      simp only [Nat.add_one_ne_zero, if_false, Nat.add_sub_cancel, List.getElem?_cons_succ,
        List.getElem?_map]
      cases (pipeEnds w.nextChannel count)[k]? <;> rfl
  rw [PipeTable.row, hwriters, hreaders]
  split <;> rfl

/-- The ends in stage `k`'s row, by number: the reading end of pipe `k - 1` and the writing end
of pipe `k`. -/
theorem mem_row_make (w : World) (count k e : Nat) :
    e ∈ (PipeTable.make w count).2.row k ↔
      (0 < k ∧ k < count ∧ e = w.nextChannel + 2 * (k - 1)) ∨
        (k + 1 < count ∧ e = w.nextChannel + 2 * k + 1) := by
  rw [row_make, List.mem_append, pipeEnds_getElem?, pipeEnds_getElem?]
  by_cases hk : k = 0
  · subst hk
    by_cases h1 : 1 < count <;> simp [h1]
  · have hprev : k - 1 + 1 < count ↔ k < count := by omega
    by_cases hlast : k + 1 < count <;> by_cases hc : k < count <;>
      simp [hk, hprev, hlast, hc] <;> omega

/-! ## The holdings along the loop -/

/-- The loop's state before it starts stage `k`. -/
def Spawn.before (sh : Shell) (w : World) (cs : List Command) (k : Nat) : Spawn :=
  (List.range k).foldl (Spawn.turn sh) (Spawn.start w cs)

section Loop

variable (sh : Shell) (w : World) (cs : List Command)

theorem spawn_eq_before : spawn sh w cs = Spawn.before sh w cs cs.length := rfl

theorem shell_before (k : Nat) :
    (Spawn.before sh w cs k).shell =
      { table := (PipeTable.make w cs.length).2.after k, commands := cs } := by
  obtain ⟨w', ended, hstate, -, -⟩ :=
    foldl_turn sh (PipeTable.make w cs.length).2 cs (PipeTable.make w cs.length).1 k
  rw [Spawn.before, Spawn.start_eq, hstate]

theorem children_before (k : Nat) :
    (Spawn.before sh w cs k).children = (List.range k).map (childAt (PipeTable.make w cs.length).2 cs) := by
  obtain ⟨w', ended, hstate, -, -⟩ :=
    foldl_turn sh (PipeTable.make w cs.length).2 cs (PipeTable.make w cs.length).1 k
  rw [Spawn.before, Spawn.start_eq, hstate]

/-- Before stage `k` the child at place `j` is the child of stage `j`, and `j < k`. -/
theorem children_before_getElem? {k j : Nat} {child : Holding}
    (h : (Spawn.before sh w cs k).children[j]? = some child) :
    j < k ∧ child = childAt (PipeTable.make w cs.length).2 cs j := by
  rw [children_before, List.getElem?_map] at h
  by_cases hj : j < k
  · rw [List.getElem?_range hj] at h
    exact ⟨hj, (Option.some.inj h).symm⟩
  · rw [List.getElem?_eq_none (by simp; omega)] at h
    cases h

/-- Before stage `k` the shell holds the ends of the rows of stage `k` and later. -/
theorem mem_shell_ends_before (k e : Nat) :
    e ∈ (Spawn.before sh w cs k).shell.ends ↔
      ∃ j, k ≤ j ∧ e ∈ (PipeTable.make w cs.length).2.row j := by
  rw [shell_before, Holding.ends]
  simp [PipeTable.mem_held_after]

/-- At the fork of stage `k` the shell holds the same ends as before it: the row of stage `k`
in its hands, the later rows in the table. -/
theorem mem_atFork_ends_before (k e : Nat) :
    e ∈ ((Spawn.before sh w cs k).atFork k).ends ↔
      ∃ j, k ≤ j ∧ e ∈ (PipeTable.make w cs.length).2.row j := by
  have hfork : (Spawn.before sh w cs k).atFork k =
      { table := (PipeTable.make w cs.length).2.after (k + 1),
        input := (PipeTable.make w cs.length).2.readers[k]?.join,
        output := (PipeTable.make w cs.length).2.writers[k]?.join, commands := cs } := by
    simp only [Spawn.atFork, shell_before, take_after]
  have hrow : e ∈ (PipeTable.make w cs.length).2.readers[k]?.join.toList ++
      (PipeTable.make w cs.length).2.writers[k]?.join.toList ↔
        e ∈ (PipeTable.make w cs.length).2.row k := Iff.rfl
  rw [hfork, Holding.ends, List.append_assoc, List.mem_append, hrow,
    PipeTable.mem_held_after]
  constructor
  · rintro (⟨j, hj, he⟩ | he)
    · exact ⟨j, by omega, he⟩
    · exact ⟨k, Nat.le_refl k, he⟩
  · rintro ⟨j, hj, he⟩
    rcases Nat.eq_or_lt_of_le hj with rfl | hlt
    · exact .inr he
    · exact .inl ⟨j, hlt, he⟩

/-- After the last stage is started the shell holds no pipe end. -/
theorem spawn_shell_ends : (spawn sh w cs).shell.ends = [] := by
  rw [List.eq_nil_iff_forall_not_mem]
  intro e he
  rw [spawn_eq_before, mem_shell_ends_before] at he
  obtain ⟨j, hj, he⟩ := he
  rw [mem_row_make] at he
  omega

end Loop

/-! ## What a child holds -/

section Child

variable (t : PipeTable) (cs : List Command)

/-- The child of stage `k` holds the ends of its row and no other. -/
theorem childAt_ends (k : Nat) : (childAt t cs k).ends = t.row k := by
  simp [Holding.ends, childAt, PipeTable.held, PipeTable.empty, PipeTable.row]

/-- The child of stage `k` holds the files its own command's redirections opened and no other. -/
theorem childAt_files {k : Nat} {c : Command} (hc : cs[k]? = some c) :
    (childAt t cs k).files = c.openFiles := by
  have hcmd : (cs.drop k).take 1 = [c] := by
    rw [List.take_one, List.head?_drop, hc]
    rfl
  simp [Holding.files, childAt, hcmd]

/-- A file a redirection of the stage's command opened takes the place of the row's end: the
command reads and writes the row's ends, or the shell's streams, only where it opened none. -/
theorem childAt_run_of_opened {k : Nat} {c : Command} (hc : cs[k]? = some c)
    (hok : c.isFailed = false) (sh : Shell) (w : World) :
    (childAt t cs k).run sh w =
      runCommand sh w c.args (c.input.opened?.getD (t.readers[k]?.join.getD 0))
        (c.output.opened?.getD (t.writers[k]?.join.getD 1)) := by
  rw [childAt_run t cs hc, runStage, if_neg (by simp [hok])]

end Child

/-! ## Each end with the stage that uses it -/

/-- The shell's holding moves along the loop so that each pipe end is, at the end, held by the
one stage that uses it.  Stage `k`'s row is the reading end of pipe `k - 1` and the writing end
of pipe `k`.  At the fork of stage `k` the shell holds the rows of stage `k` and later, and
right after it only the later rows; the child of stage `k` holds its row and its own command's
files, and runs its command with the files it opened in place of the row's ends; after the loop
the shell holds nothing.  From the fork of stage `i` on, no process but the child of stage `i`
holds pipe `i`'s writing end, and no child but that of stage `i + 1` its reading end, so the
reader sees the pipe's end once its writer has ended. -/
theorem pipe_ends_held_by_their_stages (sh : Shell) (w : World) (cs : List Command) :
    (∀ k, (PipeTable.make w cs.length).2.row k =
        (if k = 0 then [] else ((pipeEnds w.nextChannel cs.length)[k - 1]?.map Prod.fst).toList) ++
          ((pipeEnds w.nextChannel cs.length)[k]?.map Prod.snd).toList) ∧
    (∀ k e, e ∈ ((Spawn.before sh w cs k).atFork k).ends ↔
        ∃ j, k ≤ j ∧ e ∈ (PipeTable.make w cs.length).2.row j) ∧
    (∀ k e, e ∈ (Spawn.before sh w cs (k + 1)).shell.ends ↔
        ∃ j, k < j ∧ e ∈ (PipeTable.make w cs.length).2.row j) ∧
    (∀ (k : Nat) (c : Command), cs[k]? = some c → ∃ child,
        (spawn sh w cs).children[k]? = some child ∧
        child.ends = (PipeTable.make w cs.length).2.row k ∧ child.files = c.openFiles ∧
        (c.isFailed = false → ∀ (sh' : Shell) (w' : World), child.run sh' w' =
          runCommand sh' w' c.args
            (c.input.opened?.getD ((PipeTable.make w cs.length).2.readers[k]?.join.getD 0))
            (c.output.opened?.getD ((PipeTable.make w cs.length).2.writers[k]?.join.getD 1)))) ∧
    (spawn sh w cs).shell.ends = [] ∧
    (∀ i r wr, (pipeEnds w.nextChannel cs.length)[i]? = some (r, wr) →
      ∀ k, i < k → k ≤ cs.length →
        wr ∉ (Spawn.before sh w cs k).shell.ends ∧
        ∀ j child, (Spawn.before sh w cs k).children[j]? = some child →
          (wr ∈ child.ends ↔ j = i) ∧ (r ∈ child.ends ↔ j = i + 1)) := by
  refine ⟨row_make w cs.length, mem_atFork_ends_before sh w cs, fun k e => ?_,
    fun k c hc => ?_, spawn_shell_ends sh w cs, fun i r wr hpipe k hik hk => ?_⟩
  · rw [mem_shell_ends_before]
    exact ⟨fun ⟨j, hj, he⟩ => ⟨j, by omega, he⟩, fun ⟨j, hj, he⟩ => ⟨j, by omega, he⟩⟩
  · have hk : k < cs.length := (List.getElem?_eq_some_iff.1 hc).1
    refine ⟨childAt (PipeTable.make w cs.length).2 cs k, ?_, childAt_ends _ cs k,
      childAt_files _ cs hc, fun hok sh' w' => childAt_run_of_opened _ cs hc hok sh' w'⟩
    rw [spawn_eq_before, children_before]
    simp [hk]
  · -- pipe `i` reads at `n + 2 * i` and writes at `n + 2 * i + 1`
    rw [pipeEnds_getElem?] at hpipe
    by_cases hi : i + 1 < cs.length
    · simp only [hi, if_true, Option.some.injEq, Prod.mk.injEq] at hpipe
      obtain ⟨rfl, rfl⟩ := hpipe
      refine ⟨fun hheld => ?_, fun j child hchild => ?_⟩
      · obtain ⟨j, hj, he⟩ := (mem_shell_ends_before sh w cs k _).1 hheld
        rw [mem_row_make] at he
        omega
      · obtain ⟨hjk, rfl⟩ := children_before_getElem? sh w cs hchild
        rw [childAt_ends, mem_row_make, mem_row_make]
        omega
    · simp [hi] at hpipe

/-- In a pipeline of two stages started in a fresh world, the one pipe reads at 3 and writes
at 4: the first stage's row is the writing end and the second's the reading end; after the loop
the shell holds neither, and of the children only the first holds the writing end and only the
second the reading end, as `pipe_ends_held_by_their_stages` says. -/
theorem two_stage_pipe_ends :
    let sh : Shell := { env := Env.ofPairs [], cwd := "/", history := { capacity := 0 },
                        historyPath := none, pid := 1 }
    let w := World.boot { entries := [("/", ⟨.directory, 0o755⟩)] } ""
    let cs : List Command := [{ args := ["ls"] }, { args := ["wc"] }]
    (PipeTable.make w cs.length).2.row 0 = [4] ∧ (PipeTable.make w cs.length).2.row 1 = [3] ∧
      (spawn sh w cs).shell.ends = [] ∧
      ∀ j child, (spawn sh w cs).children[j]? = some child →
        (4 ∈ child.ends ↔ j = 0) ∧ (3 ∈ child.ends ↔ j = 1) := by
  intro sh w cs
  obtain ⟨hrow, -, -, -, hshell, hpipe⟩ := pipe_ends_held_by_their_stages sh w cs
  have hends : pipeEnds w.nextChannel cs.length = [(3, 4)] := rfl
  refine ⟨by rw [hrow, hends]; rfl, by rw [hrow, hends]; rfl, hshell, fun j child hchild => ?_⟩
  exact (hpipe 0 3 4 (by rw [hends]; rfl) 2 (by decide) (Nat.le_refl 2)).2 j child hchild

end Conch
