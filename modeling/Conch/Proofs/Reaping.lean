import Conch.Proofs.Spawning
import Conch.Proofs.ExitStatus

/-!
# The status of a pipeline run in children

A pipeline runs in children unless it is one command whose name changes the shell (`Forks`).
The shell then waits once for each child it made, in whatever order the children end, and
keeps how the child of the last stage ended.  Waiting keeps the ending of the last child whose
number is the last stage's among those it took, as long as it can report each ending
(`reapEach_of_reportable`, `foldl_keepLast`); it fails at the first child that a signal of 32
or more (a real-time one) killed, which it cannot report (`reapEach_of_unreportable`).  When the
children are told apart by their numbers, every order of their endings gives the same: the
last stage's ending, with no child left to wait for, when every ending can be reported
(`reap_of_perm`), and the failure otherwise (`reap_of_perm_unreportable`).

The pipeline's status is that ending folded (`executePipeline_of_forks`, `runInChildren_of_ok`):
an exit code modulo 256, 130 and 131 for the interrupt and quit signals, `128 + s` for another
signal `s`, and 1 when no ending was seen; a failure to wait ends the line with 1
(`runInChildren_of_error`).  A child ends with 1 when a redirection of its command failed,
without running anything; with 0 when it has no command; as its built-in command does, `exit`
with the status it asks for; and with 127 or 126 when its command names no program it can run
(`runStage_of_failed`, `runStage_of_no_name`, `runStage_of_builtin`, `runStage_of_exit`,
`runStage_of_unresolved`).

Main statement: `forked_pipeline_status`.
-/

set_option autoImplicit false

namespace Conch

/-! ## Waiting for the children -/

/-- What waiting for the child `x` leaves kept: its ending when it is the child `last`, and
what was kept before otherwise. -/
def keepLast (last : Option Nat) (kept : Option Ending) (x : Nat × Ending) : Option Ending :=
  if some x.1 = last then some x.2 else kept

/-- Waiting once for each of `pids`, when it can report every child it takes, takes as many
of the children that ended as there are pids, in the order they ended, and leaves the rest. -/
theorem reapEach_of_reportable (last : Option Nat) (pids : List Nat)
    (ended : List (Nat × Ending)) (kept : Option Ending)
    (h : ∀ x ∈ ended.take pids.length, x.2.reportable = true) :
    reapEach last pids ended kept =
      (.ok ((ended.take pids.length).foldl (keepLast last) kept), ended.drop pids.length) := by
  fun_induction reapEach last pids ended kept with
  | case1 ended kept => simp
  | case2 p pids kept => simp
  | case3 p pids pid e ended kept he ih =>
    rw [ih (fun x hx => h x (by simp [hx]))]
    simp [keepLast]
  | case4 p pids pid e ended kept he =>
    exact absurd (h (pid, e) (by simp)) he

/-- Waiting fails when one of the children it takes ended in a way it cannot report. -/
theorem reapEach_of_unreportable (last : Option Nat) (pids : List Nat)
    (ended : List (Nat × Ending)) (kept : Option Ending)
    (h : ∃ x ∈ ended.take pids.length, x.2.reportable = false) :
    (reapEach last pids ended kept).1 = .error .invalid := by
  fun_induction reapEach last pids ended kept with
  | case1 ended kept => simp at h
  | case2 p pids kept => simp at h
  | case3 p pids pid e ended kept he ih =>
    apply ih
    obtain ⟨x, hx, hxr⟩ := h
    simp only [List.length_cons, List.take_succ_cons, List.mem_cons] at hx
    rcases hx with rfl | hx
    · rw [he] at hxr
      cases hxr
    · exact ⟨x, hx, hxr⟩
  | case4 p pids pid e ended kept he => rfl

/-- What is kept after taking the children `l` is the ending of the last of them that is the
child `last`, or what was kept before when none is. -/
theorem foldl_keepLast (last : Option Nat) (l : List (Nat × Ending)) (kept : Option Ending) :
    l.foldl (keepLast last) kept =
      ((l.filter (fun x => some x.1 = last)).getLast?.map Prod.snd).or kept := by
  induction l generalizing kept with
  | nil => rfl
  | cons x l ih =>
    rw [List.foldl_cons, ih]
    by_cases hx : some x.1 = last
    · -- `x` is kept unless a later child is the child `last` again
      have hkeep : keepLast last kept x = some x.2 := by simp [keepLast, hx]
      rw [hkeep, List.filter_cons_of_pos (by simpa using hx), List.getLast?_cons]
      cases (l.filter (fun x => some x.1 = last)).getLast? <;> rfl
    · have hkeep : keepLast last kept x = kept := by simp [keepLast, hx]
      rw [hkeep, List.filter_cons_of_neg (by simpa using hx)]

theorem filter_last_of_nodup {ended : List (Nat × Ending)} {x : Nat × Ending}
    (hnodup : (ended.map Prod.fst).Nodup) (hlast : ended.getLast? = some x) :
    ended.filter (fun y => some y.1 = some x.1) = [x] := by
  obtain ⟨init, rfl⟩ := List.getLast?_eq_some_iff.1 hlast
  have hnot : x.1 ∉ init.map Prod.fst := by
    rw [List.map_append, List.map_singleton] at hnodup
    intro hmem
    exact (List.nodup_append.1 hnodup).2.2 _ hmem _ (List.mem_singleton_self _) rfl
  have hinit : init.filter (fun y => some y.1 = some x.1) = [] := by
    rw [List.filter_eq_nil_iff]
    intro y hy hyx
    apply hnot
    simp only [decide_eq_true_eq, Option.some.injEq] at hyx
    exact List.mem_map.2 ⟨y, hy, hyx⟩
  rw [List.filter_append, hinit, List.nil_append]
  simp

/-- Whatever the order in which children with distinct numbers end, waiting once for each of
them, when it can report each, takes every one and keeps how the last of them ended. -/
theorem reap_of_perm {ended order : List (Nat × Ending)} (hnodup : (ended.map Prod.fst).Nodup)
    (hperm : order.Perm ended) (hall : ∀ x ∈ ended, x.2.reportable = true) :
    reap (ended.map Prod.fst) order = (.ok (ended.getLast?.map Prod.snd), []) := by
  have hlen : (ended.map Prod.fst).length = order.length := by
    simp [hperm.length_eq]
  have htake : ∀ x ∈ order.take (ended.map Prod.fst).length, x.2.reportable = true := by
    rw [hlen, List.take_length]
    exact fun x hx => hall x (hperm.mem_iff.1 hx)
  rw [reap, reapEach_of_reportable _ _ _ _ htake, hlen, List.take_length, List.drop_length,
    foldl_keepLast, List.getLast?_map]
  cases hlast : ended.getLast? with
  | none =>
    have : ended = [] := List.getLast?_eq_none_iff.1 hlast
    subst this
    rw [hperm.eq_nil]
    rfl
  | some x =>
    -- the children with the last number are the same in every order: the last child alone
    have hfilter : order.filter (fun y => some y.1 = some x.1) = [x] := by
      have := hperm.filter (fun y => some y.1 = some x.1)
      rw [filter_last_of_nodup hnodup hlast] at this
      exact List.perm_singleton.1 this
    simp only [Option.map_some]
    rw [hfilter]
    rfl

/-- Whatever the order in which the children end, waiting for each of them fails when one of
them ended in a way waiting cannot report. -/
theorem reap_of_perm_unreportable {ended order : List (Nat × Ending)} (hperm : order.Perm ended)
    (hsome : ∃ x ∈ ended, x.2.reportable = false) :
    (reap (ended.map Prod.fst) order).1 = .error .invalid := by
  have hlen : (ended.map Prod.fst).length = order.length := by
    simp [hperm.length_eq]
  apply reapEach_of_unreportable
  obtain ⟨x, hx, hxr⟩ := hsome
  exact ⟨x, by rw [hlen, List.take_length]; exact hperm.mem_iff.2 hx, hxr⟩

/-- Waiting for a child that the real-time signal 34 killed fails, so no status is folded from
its ending. -/
theorem reap_fails_on_realtime_signal :
    reap [0] [(0, .signaled 34)] = (.error .invalid, []) := rfl

/-! ## The pipeline's status -/

/-- A pipeline runs in children: it has a stage, and it is not one command whose name is a
command that changes the shell. -/
def Forks (cs : List Command) : Prop :=
  cs ≠ [] ∧ ∀ c name rest, cs = [c] → c.args = name :: rest → Builtin.modifiesShell name = false

/-- A pipeline that runs in children leaves the shell as it was. -/
theorem executePipeline_of_forks (sh : Shell) (w : World) {cs : List Command} (h : Forks cs) :
    executePipeline sh w cs = (sh, (runInChildren sh w cs).1, (runInChildren sh w cs).2) := by
  unfold executePipeline
  split
  · next c =>
      split
      · next name rest hargs =>
          rw [h.2 c name rest rfl hargs]
          rfl
      · rfl
  · rfl

/-- How the stages of a pipeline ended, as waiting for them takes it. -/
theorem runStages_ending (sh : Shell) (w : World) (cs : List Command) :
    (runStages sh w cs).2 = (reap (List.range cs.length) (spawn sh w cs).ended).1 := rfl

/-- When waiting sees how the last stage ended, the pipeline goes on with that ending folded. -/
theorem runInChildren_of_ok {sh : Shell} {w : World} {cs : List Command} {last : Option Ending}
    (h : (runStages sh w cs).2 = .ok last) :
    (runInChildren sh w cs).2 = .next (Ending.foldStatus last) := by
  unfold runInChildren
  split
  · next w' last' hrun =>
      rw [hrun] at h
      cases h
      rfl
  · next w' e hrun =>
      rw [hrun] at h
      cases h

/-- When waiting fails, the failure is logged and reported, and the pipeline goes on with 1. -/
theorem runInChildren_of_error {sh : Shell} {w : World} {cs : List Command} {e : Errno}
    (h : (runStages sh w cs).2 = .error e) :
    runInChildren sh w cs =
      ((((runStages sh w cs).1).logError (LineError.system e).message).report
        (LineError.system e).message, .next 1) := by
  unfold runInChildren
  split
  · next w' last' hrun =>
      rw [hrun] at h
      cases h
  · next w' e' hrun =>
      rw [hrun] at h
      cases h
      rw [hrun]
      rfl

/-! ## How an ending folds -/

theorem Ending.status_exited (code : Nat) : (Ending.exited code).status = code % 256 := rfl

theorem Ending.status_interrupted : (Ending.signaled sigint).status = 130 := rfl

theorem Ending.status_quit : (Ending.signaled sigquit).status = 131 := rfl

/-- A death by another signal `s`, below 128, folds into `128 + s`. -/
theorem Ending.status_signaled {s : Nat} (hint : s ≠ sigint) (hquit : s ≠ sigquit)
    (hs : s < 128) : (Ending.signaled s).status = 128 + s := by
  simp [Ending.status, hint, hquit]
  omega

/-! ## How a child ends -/

section Child

variable (sh : Shell) (w : World) (c : Command) (input output : Nat)

/-- A child whose redirection failed runs nothing and exits with 1. -/
theorem runStage_of_failed (h : c.isFailed = true) :
    runStage sh w c input output = (w, .exited 1) := by
  simp [runStage, h]

/-- A child with no command exits with 0. -/
theorem runStage_of_no_name (hfail : c.isFailed = false) (h : c.args = []) :
    runStage sh w c input output = (w, .exited 0) := by
  simp [runStage, runCommand, hfail, h]

/-- A child that runs a built-in command ends with the command's status, or with 1 when what
the command printed could not be written. -/
theorem runStage_of_builtin {name : String} {rest : List String} (hfail : c.isFailed = false)
    (hargs : c.args = name :: rest) (hb : Builtin.isBuiltin name = true) :
    (runStage sh w c input output).2 =
        .exited ((Builtin.run { sh with inChild := true } w.fs c.args).2.flow.status % 256) ∨
      (Builtin.run { sh with inChild := true } w.fs c.args).2.out ≠ "" ∧
        (runStage sh w c input output).2 = .exited 1 := by
  simp only [runStage, runCommand, hfail, hargs, hb, Bool.false_eq_true, if_false, if_true]
  split
  · exact .inl rfl
  · next w' hw =>
      refine .inr ⟨fun hout => ?_, rfl⟩
      rw [writeReply_of_empty w name _ hout] at hw
      cases hw

/-- A child that runs `exit` ends with the status `exit` asks for. -/
theorem runStage_of_exit {rest : List String} {f : Flow} (hfail : c.isFailed = false)
    (hargs : c.args = "exit" :: rest) (hf : ExitRequest sh.status rest f) :
    (runStage sh w c input output).2 = .exited (f.status % 256) := by
  have hrun : Builtin.run { sh with inChild := true } w.fs c.args =
      Builtin.exitCommand { sh with inChild := true } ("exit" :: rest) := by
    rw [hargs, Builtin.run_exit]
  have hflow : (Builtin.exitCommand { sh with inChild := true } ("exit" :: rest)).2.flow = f :=
    (Builtin.exitCommand_flow_iff _ "exit" rest f).2 hf
  rcases runStage_of_builtin sh w c input output hfail hargs (by decide) with h | ⟨hout, -⟩
  · rw [h, hrun, hflow]
  · rw [hrun] at hout
    exact absurd (Builtin.exitCommand_quiet _ _).2 hout

/-- A child whose command names no program it can run reports why and exits with the status
of that failure. -/
theorem runStage_of_unresolved {name : String} {rest : List String} {e : ResolveError}
    (hfail : c.isFailed = false) (hargs : c.args = name :: rest)
    (hb : Builtin.isBuiltin name = false)
    (he : resolveCommand (w.fs.probeText (sh.physicalCwd w.fs)) name (sh.env.get "PATH") =
      .error e) :
    runStage sh w c input output = (w.report e.message, .exited e.exitKind.code) := by
  simp [runStage, runCommand, runExternal, hfail, hargs, hb, he]

end Child

/-- A pipeline run in children: the shell makes a child for each stage, and each child ends as
its stage's command runs; whatever the order in which the children end, the shell waits for
each once and keeps how the last stage's child ended, and the pipeline ends with that ending
folded.  An exit code folds modulo 256, the interrupt and quit signals into 130 and 131,
another signal `s` into `128 + s`, and no ending into 1.  A child exits with 1 when a
redirection of its command failed, without running anything; with 0 when it has no command;
with its built-in command's status, or 1 when what that printed could not be written, and with
the status `exit` asks for; and with 127 when its command is not found or names no file, 126
when it names a directory or a file it may not run. -/
theorem forked_pipeline_status (sh : Shell) (w : World) (cs : List Command) :
    (Forks cs →
      (spawn sh w cs).ended.map Prod.fst = List.range cs.length ∧
      (∀ (k : Nat) (c : Command), cs[k]? = some c →
        ∃ wk input output, (spawn sh w cs).ended[k]? = some (k, (runStage sh wk c input output).2)) ∧
      ((∀ x ∈ (spawn sh w cs).ended, x.2.reportable = true) →
        (∀ order : List (Nat × Ending), order.Perm (spawn sh w cs).ended →
          reap (List.range cs.length) order =
            (.ok ((spawn sh w cs).ended.getLast?.map Prod.snd), [])) ∧
        (executePipeline sh w cs).2.2 =
          .next (Ending.foldStatus ((spawn sh w cs).ended.getLast?.map Prod.snd))) ∧
      ((∃ x ∈ (spawn sh w cs).ended, x.2.reportable = false) →
        (∀ order : List (Nat × Ending), order.Perm (spawn sh w cs).ended →
          (reap (List.range cs.length) order).1 = .error .invalid) ∧
        executePipeline sh w cs =
          (sh, ((spawn sh w cs).world.logError (LineError.system .invalid).message).report
            (LineError.system .invalid).message, .next 1))) ∧
    (∀ code, (Ending.exited code).reportable = true) ∧
    (∀ s, (Ending.signaled s).reportable = true ↔ 0 < s ∧ s < 32) ∧
    (∀ code, Ending.foldStatus (some (.exited code)) = code % 256) ∧
    Ending.foldStatus (some (.signaled sigint)) = 130 ∧
    Ending.foldStatus (some (.signaled sigquit)) = 131 ∧
    (∀ s, s ≠ sigint → s ≠ sigquit → s < 128 → Ending.foldStatus (some (.signaled s)) = 128 + s) ∧
    Ending.foldStatus none = 1 ∧
    (∀ (c : Command) (input output : Nat),
      (c.isFailed = true → runStage sh w c input output = (w, .exited 1)) ∧
      (c.isFailed = false → c.args = [] → runStage sh w c input output = (w, .exited 0)) ∧
      (∀ name rest, c.isFailed = false → c.args = name :: rest → Builtin.isBuiltin name = true →
        (runStage sh w c input output).2 =
            .exited ((Builtin.run { sh with inChild := true } w.fs c.args).2.flow.status % 256) ∨
          (Builtin.run { sh with inChild := true } w.fs c.args).2.out ≠ "" ∧
            (runStage sh w c input output).2 = .exited 1) ∧
      (∀ rest f, c.isFailed = false → c.args = "exit" :: rest → ExitRequest sh.status rest f →
        (runStage sh w c input output).2 = .exited (f.status % 256)) ∧
      (∀ name rest n, c.isFailed = false → c.args = name :: rest →
        Builtin.isBuiltin name = false →
        (resolveCommand (w.fs.probeText (sh.physicalCwd w.fs)) name (sh.env.get "PATH") =
            .error (.notFound n) ∨
          resolveCommand (w.fs.probeText (sh.physicalCwd w.fs)) name (sh.env.get "PATH") =
            .error (.noSuchFile n)) →
        (runStage sh w c input output).2 = .exited 127) ∧
      (∀ name rest n, c.isFailed = false → c.args = name :: rest →
        Builtin.isBuiltin name = false →
        (resolveCommand (w.fs.probeText (sh.physicalCwd w.fs)) name (sh.env.get "PATH") =
            .error (.isDirectory n) ∨
          resolveCommand (w.fs.probeText (sh.physicalCwd w.fs)) name (sh.env.get "PATH") =
            .error (.permissionDenied n)) →
        (runStage sh w c input output).2 = .exited 126)) := by
  refine ⟨fun hforks => ?_, fun code => rfl, fun s => by simp [Ending.reportable],
    Ending.status_exited, Ending.status_interrupted,
    Ending.status_quit, fun s hint hquit hs => Ending.status_signaled hint hquit hs, rfl,
    fun c input output => ⟨runStage_of_failed sh w c input output,
      runStage_of_no_name sh w c input output,
      fun name rest => runStage_of_builtin sh w c input output,
      fun rest f => runStage_of_exit sh w c input output, ?_, ?_⟩⟩
  · obtain ⟨hfst, hstages⟩ := spawn_ended sh w cs
    have hnodup : ((spawn sh w cs).ended.map Prod.fst).Nodup := by
      rw [hfst]
      exact List.nodup_range
    refine ⟨hfst, fun k c hc => ?_, fun hall => ?_, fun hsome => ?_⟩
    · obtain ⟨wk, hk⟩ := hstages k c hc
      exact ⟨wk, _, _, hk⟩
    · have hreap : ∀ order : List (Nat × Ending), order.Perm (spawn sh w cs).ended →
          reap (List.range cs.length) order =
            (.ok ((spawn sh w cs).ended.getLast?.map Prod.snd), []) := by
        intro order hperm
        rw [← hfst]
        exact reap_of_perm hnodup hperm hall
      refine ⟨hreap, ?_⟩
      -- the shell waits for the children in the order they ended, one order among all
      rw [executePipeline_of_forks sh w hforks]
      exact runInChildren_of_ok (by rw [runStages_ending, hreap _ (List.Perm.refl _)])
    · have hreap : ∀ order : List (Nat × Ending), order.Perm (spawn sh w cs).ended →
          (reap (List.range cs.length) order).1 = .error .invalid := by
        intro order hperm
        rw [← hfst]
        exact reap_of_perm_unreportable hperm hsome
      refine ⟨hreap, ?_⟩
      have herr : (runStages sh w cs).2 = .error .invalid := by
        rw [runStages_ending, hreap _ (List.Perm.refl _)]
      rw [executePipeline_of_forks sh w hforks, runInChildren_of_error herr]
      rfl
  · rintro name rest n hfail hargs hb (he | he) <;>
      rw [runStage_of_unresolved sh w c input output hfail hargs hb he] <;> rfl
  · rintro name rest n hfail hargs hb (he | he) <;>
      rw [runStage_of_unresolved sh w c input output hfail hargs hb he] <;> rfl

/-- A pipeline whose first stage's redirection failed and whose second stage has no command:
the first child exits with 1 and the second with 0, and the pipeline ends with 0, the status of
its last stage, whatever the order in which the children end, as `forked_pipeline_status`
says. -/
theorem failed_then_empty_pipeline_status :
    let sh : Shell := { env := Env.ofPairs [], cwd := "/", history := { capacity := 0 },
                        historyPath := none, pid := 1 }
    let w := World.boot { entries := [("/", ⟨.directory, 0o755⟩)] } ""
    let cs : List Command := [{ args := ["cat"], input := .failed, errors := ["missing"] }, {}]
    (spawn sh w cs).ended = [(0, .exited 1), (1, .exited 0)] ∧
      (executePipeline sh w cs).2.2 = .next 0 := by
  intro sh w cs
  have hforks : Forks cs := ⟨List.cons_ne_nil _ _, fun c name rest h _ => by simp [cs] at h⟩
  obtain ⟨hlaws, hexited, -⟩ := forked_pipeline_status sh w cs
  obtain ⟨hkeys, hends, hreportable, -⟩ := hlaws hforks
  have hstage : ∀ (k : Nat) (c : Command) (e : Ending), cs[k]? = some c →
      (∀ wk input output, (runStage sh wk c input output).2 = e) →
      (spawn sh w cs).ended[k]? = some (k, e) := by
    intro k c e hc hrun
    obtain ⟨wk, input, output, hk⟩ := hends k c hc
    rw [hk, hrun]
  have hfirst := hstage 0 _ (.exited 1) rfl fun wk input output => by
    obtain ⟨-, -, -, -, -, -, -, -, hrun⟩ := forked_pipeline_status sh wk cs
    rw [((hrun _ input output).1 rfl)]
  have hsecond := hstage 1 _ (.exited 0) rfl fun wk input output => by
    obtain ⟨-, -, -, -, -, -, -, -, hrun⟩ := forked_pipeline_status sh wk cs
    rw [((hrun _ input output).2.1 rfl rfl)]
  have hlength : (spawn sh w cs).ended.length = 2 := by
    rw [← List.length_map Prod.fst, hkeys, List.length_range]
    rfl
  have hended : (spawn sh w cs).ended = [(0, .exited 1), (1, .exited 0)] := by
    apply List.ext_getElem?
    intro k
    match k with
    | 0 => exact hfirst
    | 1 => exact hsecond
    | k + 2 => simp [hlength]
  refine ⟨hended, ?_⟩
  have hall : ∀ x ∈ (spawn sh w cs).ended, x.2.reportable = true := by
    rw [hended]
    simp [hexited]
  rw [(hreportable hall).2, hended]
  rfl

end Conch
