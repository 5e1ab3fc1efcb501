import Conch.History.Ring
import Mathlib.Data.List.TakeWhile

/-!
# What the history ring retains

A history is a window on a log: the lines it took since it was last cleared or loaded from a
file, of which it keeps the newest that fit in its capacity.  `History.Log` is that log with
its capacity, changed by the same operations as the ring (`History.Op`): offering a line,
clearing, and loading a file, which replaces the lines and the capacity.  A log takes a line
that is not blank and differs from its newest line.

The ring after any sequence of operations is the window on the log after them
(`History.replay_eq_ring`).  So it never holds more lines than its capacity, and it holds the
newest lines of the log.  A ring of capacity at least one compares a line with the newest line
of the log, so it takes a line exactly when the log does, and a line it takes is its newest
line afterwards (`History.replay_retains_log`).

A ring of capacity zero keeps nothing, so it has no newest line to compare with: it takes a
line that repeats the newest line of the log, and it takes lines that are then not its newest
line (`History.zero_capacity_takes_unkept_repeat`).
-/

namespace Conch

namespace Text

theorem isBlankText_iff_trim_eq_empty (s : String) : isBlankText s = true ↔ trim s = "" := by
  simp only [isBlankText, trim, trimChars, String.ofList_eq_empty_iff, List.reverse_eq_nil_iff,
    List.dropWhile_eq_nil_iff, List.mem_reverse, List.all_eq_true]
  constructor
  · intro h x hx
    exact h x ((List.dropWhile_sublist _).subset hx)
  · intro h x hx
    rw [← List.takeWhile_append_dropWhile (p := isWhiteSpace) (l := s.toList)] at hx
    rcases List.mem_append.1 hx with hx | hx
    · exact List.mem_takeWhile_imp hx
    · exact h x hx

end Text

namespace History

/-! ## The log a ring stands for -/

/-- What can happen to a history: a line is offered, the lines are forgotten, or the history is
replaced by the one a file holds, with a capacity of its own. -/
inductive Op where
  | add (line : String)
  | clear
  | load (capacity : Nat) (text : String)
  deriving DecidableEq, Repr

/-- The lines a history file contributes: its non-empty lines, in order. -/
def loadedLines (text : String) : List String :=
  (fileLines text).filter (fun l => !l.isEmpty)

/-- The ring after an operation. -/
def Op.apply : History → Op → History
  | h, .add line => h.add line
  | h, .clear => h.clear
  | _, .load capacity text => ofFile capacity text

/-- The ring after a sequence of operations on an empty ring of capacity `m`. -/
def replay (m : Nat) (ops : List Op) : History :=
  ops.foldl Op.apply (empty m)

/-- A capacity, and every line taken since the last clear or load, oldest first. -/
structure Log where
  capacity : Nat
  lines : List String
  deriving DecidableEq, Repr

namespace Log

/-- A log takes a line that is not blank and differs from its newest line. -/
def accepts (l : Log) (line : String) : Bool :=
  !Text.isBlankText line && l.lines.getLast? != some line

/-- The log after an operation: a load starts it afresh with the lines of the file. -/
def step : Log → Op → Log
  | l, .add line => if l.accepts line then { l with lines := l.lines ++ [line] } else l
  | l, .clear => { l with lines := [] }
  | _, .load capacity text => ⟨capacity, loadedLines text⟩

/-- The log after a sequence of operations, from an empty log of capacity `m`. -/
def replay (m : Nat) (ops : List Op) : Log :=
  ops.foldl step ⟨m, []⟩

/-- The ring that keeps the newest lines of a log that fit in its capacity. -/
def ring (l : Log) : History :=
  { items := l.lines.drop (l.lines.length - l.capacity), capacity := l.capacity }

@[simp] theorem ring_capacity (l : Log) : l.ring.capacity = l.capacity := rfl

@[simp] theorem ring_items (l : Log) :
    l.ring.items = l.lines.drop (l.lines.length - l.capacity) := rfl

theorem count_ring_le (l : Log) : l.ring.count ≤ l.capacity := by
  simp only [count, ring_items, List.length_drop]
  omega

/-- The newest line of the window is the newest line of the log, unless nothing fits. -/
theorem last_ring (l : Log) :
    l.ring.last = if l.capacity = 0 then none else l.lines.getLast? := by
  simp only [last, ring_items, List.getLast?_drop]
  by_cases hc : l.capacity = 0
  · simp [hc]
  · by_cases hn : l.lines = []
    · simp [hn]
    · have hlen : 0 < l.lines.length := List.length_pos_iff.2 hn
      have hnot : ¬ l.lines.length ≤ l.lines.length - l.capacity := by omega
      simp [hc, hnot]

/-- A window of capacity at least one takes exactly the lines its log takes. -/
theorem accepts_ring (l : Log) (hc : 0 < l.capacity) (line : String) :
    l.ring.accepts line = l.accepts line := by
  simp only [History.accepts, accepts, last_ring, Nat.pos_iff_ne_zero.1 hc, if_false]

theorem push_ring (l : Log) (line : String) :
    l.ring.push line = { l with lines := l.lines ++ [line] }.ring := by
  by_cases hc : l.capacity = 0
  · simp [ring, History.push, hc]
  · simp only [ring, History.push, beq_iff_eq, hc, if_false, List.drop_drop, List.length_drop,
      List.length_append, List.length_singleton, List.drop_append]
    -- the window slides by the one line that no longer fits
    have hstart : l.lines.length - l.capacity +
        (l.lines.length - (l.lines.length - l.capacity) + 1 - l.capacity) =
        l.lines.length + 1 - l.capacity := by omega
    have hzero : l.lines.length + 1 - l.capacity - l.lines.length = 0 := by omega
    rw [hstart, hzero, List.drop_zero]

end Log

theorem empty_eq_ring (m : Nat) : empty m = (⟨m, []⟩ : Log).ring := by
  simp [empty, Log.ring]

/-- Recording lines one after another slides the window along them. -/
theorem foldl_push_ring (lines : List String) (l : Log) :
    lines.foldl push l.ring = { l with lines := l.lines ++ lines }.ring := by
  induction lines generalizing l with
  | nil => simp
  | cons line rest ih =>
      rw [List.foldl_cons, Log.push_ring, ih]
      simp

/-- A loaded ring is the window on the lines of its file. -/
theorem ofFile_eq_ring (capacity : Nat) (text : String) :
    ofFile capacity text = (⟨capacity, loadedLines text⟩ : Log).ring := by
  rw [ofFile, empty_eq_ring, foldl_push_ring]
  rfl

theorem last_push (h : History) (hc : 0 < h.capacity) (line : String) :
    (h.push line).last = some line := by
  simp [push, last, Nat.pos_iff_ne_zero.1 hc]

theorem Op.apply_ring (l : Log) (op : Op) : op.apply l.ring = (l.step op).ring := by
  cases op with
  | add line =>
      simp only [Op.apply, Log.step, History.add]
      by_cases hc : l.capacity = 0
      · -- nothing fits: whatever either side takes, both windows are empty
        have hring : ∀ l' : Log, l'.capacity = 0 → l'.ring = { capacity := 0 } := by
          intro l' h'
          simp [Log.ring, h']
        have hpush : ({ capacity := 0 } : History).push line = { capacity := 0 } := rfl
        have hnew : ({ l with lines := l.lines ++ [line] } : Log).ring = { capacity := 0 } :=
          hring _ hc
        rw [hring l hc]
        split <;> split <;> simp only [hpush, hnew, hring l hc]
      · rw [Log.accepts_ring l (Nat.pos_of_ne_zero hc)]
        split
        · exact Log.push_ring l line
        · rfl
  | clear => simp [Op.apply, Log.step, History.clear, Log.ring]
  | load capacity text => exact ofFile_eq_ring capacity text

/-- The ring after any sequence of operations is the window on the log after them. -/
theorem replay_eq_ring (m : Nat) (ops : List Op) : replay m ops = (Log.replay m ops).ring := by
  -- the window relation holds from the empty ring and is kept by each operation
  suffices h : ∀ l : Log, ops.foldl Op.apply l.ring = (ops.foldl Log.step l).ring by
    rw [replay, Log.replay, empty_eq_ring, h]
  induction ops with
  | nil => intro l; rfl
  | cons op rest ih =>
      intro l
      rw [List.foldl_cons, List.foldl_cons, Op.apply_ring, ih]

/-- After any sequence of additions, clears and loads from an empty ring of capacity `m`, with
`log` the lines taken since the last clear or load: the ring holds at most its capacity, it
holds the newest lines of the log that fit, and if its capacity is at least one it takes a
line exactly when the line is not blank (after trimming) and differs from the newest line of
the log; a line it takes is afterwards its newest line, and a line it refuses leaves it as it
was. -/
theorem replay_retains_log (m : Nat) (ops : List Op) :
    (replay m ops).capacity = (Log.replay m ops).capacity ∧
      (replay m ops).count ≤ (replay m ops).capacity ∧
      (replay m ops).items = (Log.replay m ops).lines.drop
        ((Log.replay m ops).lines.length - (replay m ops).capacity) ∧
      (0 < (replay m ops).capacity → ∀ line,
        ((replay m ops).accepts line = true ↔
          Text.trim line ≠ "" ∧ (Log.replay m ops).lines.getLast? ≠ some line) ∧
        ((replay m ops).accepts line = true → ((replay m ops).add line).last = some line) ∧
        ((replay m ops).accepts line = false → (replay m ops).add line = replay m ops)) := by
  rw [replay_eq_ring]
  set l := Log.replay m ops
  refine ⟨rfl, l.count_ring_le, rfl, ?_⟩
  intro hc line
  have hcl : 0 < l.capacity := hc
  refine ⟨?_, ?_, ?_⟩
  · rw [Log.accepts_ring l hcl]
    simp [Log.accepts, ← Text.isBlankText_iff_trim_eq_empty]
  · intro hacc
    simp only [History.add, hacc, if_true]
    exact last_push _ hc line
  · intro hrej
    simp [History.add, hrej]

/-- A ring of capacity zero takes `ls` and does not keep it, and then takes `ls` again although
it is the newest line of the log. -/
theorem zero_capacity_takes_unkept_repeat :
    (replay 0 []).accepts "ls" = true ∧ (replay 0 [.add "ls"]).last = none ∧
      (Log.replay 0 [.add "ls"]).lines.getLast? = some "ls" ∧
      (replay 0 [.add "ls"]).accepts "ls" = true := by
  decide

end History

end Conch
