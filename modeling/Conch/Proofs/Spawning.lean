import Conch.Session.Run

/-!
# Starting the stages of a pipeline

The shell starts a pipeline's stages in one loop over the stages.  This module says what each
turn of the loop leaves behind, and from it what the whole loop does.

Before the loop the shell makes the pipes: pipe `i` joins stage `i` to stage `i + 1`, and its
two ends are fresh open files (`make_table`, `pipeEnds`).  The table holds, in the row of a
stage, the reading end of the pipe before it and the writing end of the pipe after it.

Turn `k` takes the row of stage `k` out of the table (`take_after`).  So before turn `k` the
shell holds the table with the rows of the first `k` stages taken out (`PipeTable.after`),
no end of its own and every command; the children made so far are each what the loop made
for its stage (`childAt`); and the children have ended in the order of their stages, the
child of stage `k` as it runs its own command with the ends of its row
(`foldl_turn`, `spawn_ended`).
-/

set_option autoImplicit false

namespace Conch

/-! ## The pipes -/

/-- The pipes between `count` stages made from the first free open file `n`: pipe `i` reads at
open file `n + 2 * i` and writes at `n + 2 * i + 1`. -/
def pipeEnds (n count : Nat) : List (Nat × Nat) :=
  (List.range (count - 1)).map fun i => (n + 2 * i, n + 2 * i + 1)

theorem newPipe_eq (w : World) :
    (w.newPipe).2 = (w.nextChannel, w.nextChannel + 1) ∧
      (w.newPipe).1.nextChannel = w.nextChannel + 2 := by
  simp [World.newPipe, World.addChannel]

/-- Making `m` pipes in a row takes the next `2 * m` open files, two by two. -/
theorem foldl_newPipe (l : List Nat) (w : World) (acc : List (Nat × Nat)) :
    (l.foldl (fun (acc : World × List (Nat × Nat)) _ =>
        let (w, r, wr) := acc.1.newPipe
        (w, acc.2 ++ [(r, wr)])) (w, acc)).2 =
      acc ++ (List.range l.length).map (fun i => (w.nextChannel + 2 * i, w.nextChannel + 2 * i + 1)) := by
  induction l generalizing w acc with
  | nil => simp
  | cons x l ih =>
    obtain ⟨hends, hnext⟩ := newPipe_eq w
    simp only [List.foldl_cons]
    rw [ih]
    simp only [hends, hnext, List.length_cons, List.range_succ_eq_map, List.map_cons,
      List.map_map, List.append_assoc, List.cons_append, List.nil_append]
    congr 3
    funext i
    simp only [Function.comp, Prod.mk.injEq]
    omega

/-- The table of a pipeline's pipes: the first stage reads nothing from a pipe, stage `k + 1`
reads from pipe `k`, stage `k` writes into pipe `k`, and the last stage writes into no pipe. -/
theorem make_table (w : World) (count : Nat) :
    (PipeTable.make w count).2 =
      ⟨none :: (pipeEnds w.nextChannel count).map (some ·.1),
        (pipeEnds w.nextChannel count).map (some ·.2) ++ [none]⟩ := by
  have h := foldl_newPipe (List.range (count - 1)) w []
  simp only [List.length_range, List.nil_append] at h
  simp only [PipeTable.make, pipeEnds]
  rw [h]

/-! ## The table along the loop -/

/-- The table with the rows of the first `k` stages taken out. -/
def PipeTable.after (t : PipeTable) (k : Nat) : PipeTable :=
  ⟨t.readers.mapIdx fun j r => if j < k then none else r,
    t.writers.mapIdx fun j r => if j < k then none else r⟩

theorem PipeTable.after_zero (t : PipeTable) : t.after 0 = t := by
  have hrow : ∀ l : List (Option Nat), (l.mapIdx fun j r => if j < 0 then none else r) = l := by
    intro l
    apply List.ext_getElem?
    intro j
    simp [List.getElem?_mapIdx]
  simp only [PipeTable.after, hrow]

/-- Taking out the row of stage `k` when the rows before it are out gives the row as the
table had it at first. -/
theorem take_after (t : PipeTable) (k : Nat) :
    (t.after k).take k = (t.after (k + 1), t.readers[k]?.join, t.writers[k]?.join) := by
  have hrow : ∀ l : List (Option Nat),
      (l.mapIdx fun j r => if j < k then none else r).set k none =
        l.mapIdx fun j r => if j < k + 1 then none else r := by
    intro l
    apply List.ext_getElem?
    intro j
    simp only [List.getElem?_set, List.length_mapIdx, List.getElem?_mapIdx]
    by_cases hj : j = k
    · subst hj
      by_cases hlt : j < l.length
      · simp [hlt]
      · simp [hlt]
    · have : (j < k + 1) = (j < k) := by
        apply propext
        omega
      simp [Ne.symm hj, this]
  have hget : ∀ l : List (Option Nat),
      (l.mapIdx fun j r => if j < k then none else r)[k]? = l[k]? := by
    intro l
    simp only [List.getElem?_mapIdx, Nat.lt_irrefl, if_false]
    cases l[k]? <;> rfl
  simp only [PipeTable.take, PipeTable.after, hrow, hget]

/-! ## The loop -/

/-- What the child the loop makes for stage `k` holds, once it has let go of what is not its
own: the row of stage `k` in the table `t` the pipeline started with, and the command of
stage `k`. -/
def childAt (t : PipeTable) (cs : List Command) (k : Nat) : Holding :=
  { table := PipeTable.empty, input := t.readers[k]?.join, output := t.writers[k]?.join,
    commands := (cs.drop k).take 1 }

/-- The child of a stage runs that stage's command, with the ends of its row as its input and
output, or the shell's own streams where the row holds none. -/
theorem childAt_run (t : PipeTable) (cs : List Command) {k : Nat} {c : Command}
    (hc : cs[k]? = some c) (sh : Shell) (w : World) :
    (childAt t cs k).run sh w =
      runStage sh w c (t.readers[k]?.join.getD 0) (t.writers[k]?.join.getD 1) := by
  have hcmd : (cs.drop k).take 1 = [c] := by
    rw [List.take_one, List.head?_drop, hc]
    rfl
  simp [Holding.run, childAt, hcmd]

section Loop

variable (sh : Shell) (t : PipeTable) (cs : List Command)

/-- One turn of the loop from the state it keeps before turn `k`: the shell lets go of row
`k`, and the child of stage `k` joins the children, ended as its stage ends. -/
theorem turn_after (w : World) (children : List Holding) (ended : List (Nat × Ending))
    (k : Nat) :
    Spawn.turn sh ⟨w, { table := t.after k, commands := cs }, children, ended⟩ k =
      ⟨((childAt t cs k).run sh w).1, { table := t.after (k + 1), commands := cs },
        children ++ [childAt t cs k], ended ++ [(k, ((childAt t cs k).run sh w).2)]⟩ := by
  simp only [Spawn.turn, Spawn.atFork, take_after, Holding.forChild, childAt]

/-- The state the loop keeps before turn `k`: the shell holds the table with the first `k` rows
out and every command, the children are those of the first `k` stages, and they ended in the
order of their stages, each as its child ran in the world the stage before left. -/
theorem foldl_turn (w : World) (k : Nat) :
    ∃ w' ended,
      (List.range k).foldl (Spawn.turn sh) ⟨w, { table := t, commands := cs }, [], []⟩ =
        ⟨w', { table := t.after k, commands := cs }, (List.range k).map (childAt t cs), ended⟩ ∧
      ended.map Prod.fst = List.range k ∧
      ∀ j < k, ∃ wj, ended[j]? = some (j, ((childAt t cs j).run sh wj).2) := by
  induction k with
  | zero => exact ⟨w, [], by simp [PipeTable.after_zero], rfl, by simp⟩
  | succ k ih =>
    obtain ⟨w', ended, hstate, hfst, hends⟩ := ih
    refine ⟨((childAt t cs k).run sh w').1, ended ++ [(k, ((childAt t cs k).run sh w').2)],
      ?_, ?_, ?_⟩
    · rw [List.range_succ, List.foldl_append, hstate]
      simp [turn_after]
    · simp [hfst, List.range_succ]
    · intro j hj
      have hlen : ended.length = k := by simpa using congrArg List.length hfst
      by_cases hjk : j < k
      · obtain ⟨wj, hwj⟩ := hends j hjk
        exact ⟨wj, by rw [List.getElem?_append_left (by omega)]; exact hwj⟩
      · have : j = k := by omega
        subst this
        exact ⟨w', by simp [hlen]⟩

end Loop

/-- Before the loop the shell holds the table its pipes were made into, and every command. -/
theorem Spawn.start_eq (w : World) (cs : List Command) :
    Spawn.start w cs =
      ⟨(PipeTable.make w cs.length).1, { table := (PipeTable.make w cs.length).2, commands := cs },
        [], []⟩ := rfl

/-- The children of a pipeline end in the order of its stages, and the child of each stage as
that stage's command runs with the ends of its row, in the world the stage before left. -/
theorem spawn_ended (sh : Shell) (w : World) (cs : List Command) :
    (spawn sh w cs).ended.map Prod.fst = List.range cs.length ∧
      ∀ (k : Nat) (c : Command), cs[k]? = some c → ∃ wk,
        (spawn sh w cs).ended[k]? = some (k, (runStage sh wk c
          ((PipeTable.make w cs.length).2.readers[k]?.join.getD 0)
          ((PipeTable.make w cs.length).2.writers[k]?.join.getD 1)).2) := by
  obtain ⟨w', ended, hstate, hfst, hends⟩ :=
    foldl_turn sh (PipeTable.make w cs.length).2 cs (PipeTable.make w cs.length).1 cs.length
  rw [spawn, Spawn.start_eq, hstate]
  refine ⟨hfst, fun k c hc => ?_⟩
  have hk : k < cs.length := (List.getElem?_eq_some_iff.1 hc).1
  obtain ⟨wk, hwk⟩ := hends k hk
  exact ⟨wk, by rw [hwk, childAt_run _ cs hc]⟩

end Conch
