import Conch.Proofs.Heredocs

/-!
# A session, line by line

The shell reads its input one line at a time and runs each line (`readLoop`).  A run of the
loop is described here without the loop's bound.  `Steps` is a sequence of lines read and run
one after the other, none of which asks the shell to exit, each recorded as a `Turn` with the
shell that ran it and the worlds before and after it was read; `Stop` is how the loop ends after
them: at the end of the input with the last status, or at a line that asks the shell to exit,
with the status it asks for modulo 256.

The loop computes such a run: it stops as `Stop` says, unless more than `fuel` of its lines
left at least as much input waiting as there was before them (`readLoop_cases`); and a run
whose lines do that at most `fuel` times is what the loop computes (`readLoop_of_stop`).  So
where no line feeds the shell's input, the loop ends at the end of the input or at `exit`,
whatever its bound (`readLoop_of_no_feeds`).

A line `RunsAlone` when it is a pipeline of one stage whose command, after expansion, is a given
name with given arguments and no failed redirection (`runsInShell_iff`).  Of the lines that are
not blank, these run a built-in command in the shell itself, and the line then ends as the
built-in command does (`processLine_of_runsAlone`).  Every other line runs in children, or not at
all, and leaves the shell as it was but for its history and its here-document count
(`processLine_of_not_runsAlone`); a blank line changes nothing (`processLine_of_blank`).

A shell launched with no arguments starts with the status 0, runs the loop from where it starts,
and then removes the last line's here-document files and saves its history
(`Launch.run_of_args_nil`, `Finish.ofLoop`).

Main statements: `readLoop_cases`, `readLoop_of_stop`, `processLine_of_runsAlone` and
`processLine_of_not_runsAlone`.
-/

namespace Conch

/-! ## Runs of the read loop -/

/-- A line of a session: the shell that runs it, the world before it is read, the line, and the
world it runs in, once it has been read. -/
structure Turn where
  shell : Shell
  start : World
  line : String
  world : World

namespace Turn

/-- What running the line gives: the shell, the world and how the shell goes on. -/
def result (t : Turn) : Shell × World × Flow := processLine t.shell t.world t.line

/-- Whether the line left at least as much input waiting as there was before it was read, as a
line that writes into the shell's own input does. -/
def feeds (t : Turn) : Bool := !decide (t.result.2.1.pending < t.start.pending)

end Turn

/-- From the shell `sh` and the world `w`, the read loop reads and runs the lines of `turns`,
none of which asks the shell to exit, and reaches the shell `sh'` and the world `w'`. -/
inductive Steps : Shell → World → List Turn → Shell → World → Prop
  | nil (sh : Shell) (w : World) : Steps sh w [] sh w
  | cons {sh sh₂ sh' : Shell} {w w₁ w₂ w' : World} {line : String} {n : Nat}
      {turns : List Turn} :
      w.nextLine = some (line, w₁) → processLine sh w₁ line = (sh₂, w₂, .next n) →
      Steps sh₂ w₂ turns sh' w' → Steps sh w (⟨sh, w, line, w₁⟩ :: turns) sh' w'

/-- How the read loop ends from the shell `sh` and the world `w`: at the end of the input, with
the last status, or at a line that asks the shell to exit, with the status it asks for modulo
256. -/
inductive Stop : Shell → World → Shell × World × Nat → Prop
  | eof {sh : Shell} {w : World} : w.nextLine = none → Stop sh w (sh, w, sh.status)
  | exit {sh sh' : Shell} {w w₁ w' : World} {line : String} {code : Nat} :
      w.nextLine = some (line, w₁) → processLine sh w₁ line = (sh', w', .exit code) →
      Stop sh w (sh', w', code % 256)

theorem feeds_eq {sh sh₂ : Shell} {w w₁ w₂ : World} {line : String} {flow : Flow}
    (h : processLine sh w₁ line = (sh₂, w₂, flow)) :
    Turn.feeds ⟨sh, w, line, w₁⟩ = !decide (w₂.pending < w.pending) := by
  simp [Turn.feeds, Turn.result, h]

/-- The loop computes a run that ends as `Stop` says, when the run's lines write into the input
at most `fuel` times. -/
theorem readLoop_of_stop {sh sh₁ : Shell} {w w₁ : World} {turns : List Turn}
    {r : Shell × World × Nat} (hsteps : Steps sh w turns sh₁ w₁) (hstop : Stop sh₁ w₁ r)
    {fuel : Nat} (hfuel : (turns.filter Turn.feeds).length ≤ fuel) : readLoop fuel sh w = r := by
  induction hsteps generalizing fuel with
  | nil sh w =>
      cases hstop with
      | eof hnone => rw [readLoop, hnone]
      | exit hnext hline => rw [readLoop, hnext]; simp only [hline]
  | @cons sh sh₂ sh' w w₁ w₂ w' line n turns hnext hline _ ih =>
      rw [readLoop, hnext]
      simp only [hline]
      by_cases hlt : w₂.pending < w.pending
      · -- the line brought the end of the input closer: no fuel is spent
        rw [dif_pos hlt]
        refine ih hstop ?_
        simpa [List.filter_cons, feeds_eq hline, hlt] using hfuel
      · -- the line wrote into the input: it spends one unit of fuel
        rw [dif_neg hlt]
        have hcount : (turns.filter Turn.feeds).length + 1 ≤ fuel := by
          simpa [List.filter_cons, feeds_eq hline, hlt] using hfuel
        obtain ⟨fuel, rfl⟩ : ∃ f, fuel = f + 1 := ⟨fuel - 1, by omega⟩
        exact ih hstop (by omega)

/-- What the loop computes is a run of lines none of which asks to exit, followed either by the
end the run comes to, or, once more than `fuel` of its lines have written into the input, by
the loop giving up with the last status. -/
theorem readLoop_cases (fuel : Nat) (sh : Shell) (w : World) :
    ∃ turns sh₁ w₁, Steps sh w turns sh₁ w₁ ∧
      (Stop sh₁ w₁ (readLoop fuel sh w) ∨
        (turns.filter Turn.feeds).length = fuel + 1 ∧
          readLoop fuel sh w = (sh₁, w₁, sh₁.status)) := by
  fun_induction readLoop fuel sh w with
  | case1 _ sh w hnone => exact ⟨[], sh, w, .nil sh w, .inl (.eof hnone)⟩
  | case2 _ sh w line w₁ hnext sh₂ w₂ code hline =>
      exact ⟨[], sh, w, .nil sh w, .inl (.exit hnext hline)⟩
  | case3 _ sh w line w₁ hnext sh₂ w₂ n hline hlt ih =>
      obtain ⟨turns, sh₃, w₃, hsteps, hend⟩ := ih
      refine ⟨_, sh₃, w₃, .cons hnext hline hsteps, ?_⟩
      simpa [List.filter_cons, feeds_eq hline, hlt] using hend
  | case4 sh w line w₁ hnext sh₂ w₂ n hline hlt =>
      -- the fuel is spent: the line that wrote into the input is the last one run
      refine ⟨_, sh₂, w₂, .cons hnext hline (.nil sh₂ w₂), .inr ⟨?_, rfl⟩⟩
      simp [feeds_eq hline, hlt]
  | case5 sh w line w₁ hnext sh₂ w₂ n hline hlt fuel ih =>
      obtain ⟨turns, sh₃, w₃, hsteps, hend⟩ := ih
      refine ⟨_, sh₃, w₃, .cons hnext hline hsteps, ?_⟩
      simpa [List.filter_cons, feeds_eq hline, hlt] using hend

/-- A loop none of whose runs has a line that writes into the shell's input ends at the end of
the input or at a line that asks the shell to exit, and computes the same whatever its bound:
the bound only ever cuts short runs that feed their own input. -/
theorem readLoop_of_no_feeds {sh : Shell} {w : World}
    (h : ∀ turns sh₁ w₁, Steps sh w turns sh₁ w₁ → ∀ t ∈ turns, t.feeds = false) (fuel : Nat) :
    ∃ turns sh₁ w₁, Steps sh w turns sh₁ w₁ ∧ Stop sh₁ w₁ (readLoop fuel sh w) ∧
      ∀ fuel', readLoop fuel' sh w = readLoop fuel sh w := by
  obtain ⟨turns, sh₁, w₁, hsteps, hend⟩ := readLoop_cases fuel sh w
  have hnone : turns.filter Turn.feeds = [] := List.filter_eq_nil_iff.2 (by simpa using h _ _ _ hsteps)
  have hstop : Stop sh₁ w₁ (readLoop fuel sh w) := by
    rcases hend with hstop | ⟨hcount, -⟩
    · exact hstop
    · rw [hnone] at hcount
      cases hcount
  exact ⟨turns, sh₁, w₁, hsteps, hstop, fun fuel' =>
    readLoop_of_stop hsteps hstop (by rw [hnone]; exact Nat.zero_le _)⟩

/-! ## What one line does -/

namespace Shell

variable (sh : Shell) (k : Nat)

@[simp] theorem history_withHeredocs : (sh.withHeredocs k).history = sh.history := rfl

@[simp] theorem historyPath_withHeredocs : (sh.withHeredocs k).historyPath = sh.historyPath := rfl

@[simp] theorem status_withHeredocs : (sh.withHeredocs k).status = sh.status := rfl

theorem Configured.historyPath_eq {sh sh' : Shell} (h : sh.Configured sh') :
    sh'.historyPath = sh.historyPath := by
  obtain ⟨env, cwd, history, rfl⟩ := h
  rfl

theorem Configured.status_eq {sh sh' : Shell} (h : sh.Configured sh') : sh'.status = sh.status := by
  obtain ⟨env, cwd, history, rfl⟩ := h
  rfl

end Shell

/-- The line, read by the shell `sh` in the world `w`, is not blank and is a pipeline of one
stage whose command, after expansion, is `name` with the arguments `args`, none of whose
redirections failed. -/
def RunsAlone (sh : Shell) (w : World) (line name : String) (args : List String) : Prop :=
  Text.isBlankText line = false ∧
    ∃ tokens sh' w' c, Syntax.check line = .ok () ∧ Syntax.tokenize line = .ok tokens ∧
      buildCommands { sh with history := sh.history.add line } w (sh.scope.expandTokens tokens) =
        (sh', w', .ok [c]) ∧
      c.args = name :: args ∧ c.isFailed = false

/-- The lines that run in the shell itself are those that run alone a command that changes the
shell. -/
theorem runsInShell_iff {sh : Shell} {w : World} {line : String}
    (hblank : Text.isBlankText line = false) :
    RunsInShell { sh with history := sh.history.add line } w line ↔
      ∃ name args, RunsAlone sh w line name args ∧ Builtin.modifiesShell name = true := by
  constructor
  · rintro ⟨tokens, sh', w', c, name, args, hc, ht, hb, hargs, hmod, hfail⟩
    exact ⟨name, args, ⟨hblank, tokens, sh', w', c, hc, ht, hb, hargs, hfail⟩, hmod⟩
  · rintro ⟨name, args, ⟨-, tokens, sh', w', c, hc, ht, hb, hargs, hfail⟩, hmod⟩
    exact ⟨tokens, sh', w', c, name, args, hc, ht, hb, hargs, hmod, hfail⟩

/-- What a built-in command prints with nothing to print is always written. -/
theorem writeReply_of_empty (w : World) (name : String) (out : Nat) {reply : Reply}
    (h : reply.out = "") : writeReply w name out reply = (w.warn reply.err, true) := by
  have hnothing : Octets.ofText "" = "" := by cbv
  simp [writeReply, World.write, h, hnothing]

/-- A pipeline of one command that changes the shell, with no failed redirection, runs that
built-in command in the shell: the shell becomes what the command makes of it, and the line
ends as the command does, unless what it printed could not be written. -/
theorem executePipeline_alone {sh : Shell} {w : World} {c : Command} {name : String}
    {args : List String} (hargs : c.args = name :: args)
    (hmod : Builtin.modifiesShell name = true) (hfail : c.isFailed = false) :
    (executePipeline sh w [c]).1 = (Builtin.run sh w.fs c.args).1 ∧
      ((executePipeline sh w [c]).2.2 = (Builtin.run sh w.fs c.args).2.flow ∨
        (Builtin.run sh w.fs c.args).2.out ≠ "" ∧
          (executePipeline sh w [c]).2.2 = .next 1) := by
  unfold executePipeline
  simp only [hargs, hmod, hfail, if_true, Bool.false_eq_true, if_false]
  split
  · exact ⟨rfl, .inl rfl⟩
  · next w' hw =>
      refine ⟨rfl, .inr ⟨fun hout => ?_, rfl⟩⟩
      rw [writeReply_of_empty w name _ hout] at hw
      cases hw

theorem Ending.status_lt (e : Ending) : e.status < 256 := by
  cases e with
  | exited code => exact Nat.mod_lt _ (by decide)
  | signaled s =>
      simp only [Ending.status]
      split
      · decide
      · split
        · decide
        · exact Nat.mod_lt _ (by decide)

theorem Ending.foldStatus_lt (e : Option Ending) : Ending.foldStatus e < 256 := by
  cases e with
  | some e => exact Ending.status_lt e
  | none => decide

theorem LineError.status_lt (e : LineError) : e.status < 256 := by
  cases e <;> simp [LineError.status]

/-- A pipeline run in children goes on with a status that is a byte: the last stage's ending
folded, or the status of a failure to wait for the stages. -/
theorem runInChildren_status_lt (sh : Shell) (w : World) (cs : List Command) :
    ∃ n, n < 256 ∧ (runInChildren sh w cs).2 = .next n := by
  unfold runInChildren
  split
  · exact ⟨_, Ending.foldStatus_lt _, rfl⟩
  · exact ⟨_, LineError.status_lt _, rfl⟩

/-- A pipeline that does not run alone a command that changes the shell leaves the shell as it
was and goes on with a status that is a byte. -/
theorem executePipeline_of_not_alone (sh : Shell) (w : World) (cs : List Command)
    (h : ¬ ∃ c name rest, cs = [c] ∧ c.args = name :: rest ∧
      Builtin.modifiesShell name = true ∧ c.isFailed = false) :
    (executePipeline sh w cs).1 = sh ∧
      ∃ n, n < 256 ∧ (executePipeline sh w cs).2.2 = .next n := by
  unfold executePipeline
  split
  · next c =>
      split
      · next name rest hargs =>
          split
          · next hmod =>
              split
              · exact ⟨rfl, 1, by decide, rfl⟩
              · next hfailed =>
                  exact absurd ⟨c, name, rest, rfl, hargs, hmod, by simpa using hfailed⟩ h
          · exact ⟨rfl, runInChildren_status_lt sh w [c]⟩
      · exact ⟨rfl, runInChildren_status_lt sh w [c]⟩
  · exact ⟨rfl, runInChildren_status_lt sh w cs⟩

section Line

variable {sh : Shell} {w : World} {line : String}

/-- A blank line changes nothing and keeps the status. -/
theorem processLine_of_blank (hblank : Text.isBlankText line = true) :
    processLine sh w line = (sh, w, .next sh.status) := by
  simp [processLine, hblank]

/-- A line that runs alone a built-in command that changes the shell: the shell, with the line
added to its history and its here-document count moved on, is what the command makes it, and
the line ends as the command does unless what it printed could not be written. -/
theorem processLine_of_runsAlone {name : String} {args : List String}
    (h : RunsAlone sh w line name args) (hmod : Builtin.modifiesShell name = true) :
    ∃ k fs,
      (processLine sh w line).1.history =
        (Builtin.run ({ sh with history := sh.history.add line }.withHeredocs k) fs
          (name :: args)).1.history ∧
      (processLine sh w line).1.historyPath = sh.historyPath ∧
      (processLine sh w line).1.status = (processLine sh w line).2.2.status ∧
      ((processLine sh w line).2.2 =
          (Builtin.run ({ sh with history := sh.history.add line }.withHeredocs k) fs
            (name :: args)).2.flow ∨
        (Builtin.run ({ sh with history := sh.history.add line }.withHeredocs k) fs
          (name :: args)).2.out ≠ "" ∧ (processLine sh w line).2.2 = .next 1) := by
  obtain ⟨hblank, tokens, sh₁, w₁, c, hc, ht, hb, hargs, hfail⟩ := h
  obtain ⟨k, hk⟩ := buildCommands_shell { sh with history := sh.history.add line } w
    (sh.scope.expandTokens tokens)
  rw [hb] at hk
  simp only at hk
  subst hk
  obtain ⟨ts, ht', hne⟩ := tokens_of_check hblank hc
  rw [ht] at ht'
  cases ht'
  have hrun := @runLine_of_built { sh with history := sh.history.add line } _ _ _ _ _ _ hc ht hne hb
  obtain ⟨hshell, hflow⟩ := executePipeline_alone (w := w₁) hargs hmod hfail
  rw [hargs] at hshell hflow
  refine ⟨k, w₁.fs, ?_, ?_, processLine_status_eq_flow sh w line, ?_⟩
  all_goals rw [processLine_of_not_blank hblank]
  all_goals simp only [removeHeredocs, hrun]
  · rw [hshell]
  · rw [hshell, (Builtin.run_configured _ _ _).historyPath_eq]
    rfl
  · exact hflow

/-- Any other line leaves the shell as it was but for the line added to its history: it goes on
to the next line, with the status it ends with kept, which is the last status for a blank line
and a byte for any other. -/
theorem processLine_of_not_runsAlone
    (h : ¬ ∃ name args, RunsAlone sh w line name args ∧ Builtin.modifiesShell name = true) :
    (processLine sh w line).1.history = sh.history.add line ∧
      (processLine sh w line).1.historyPath = sh.historyPath ∧
      (processLine sh w line).1.status = (processLine sh w line).2.2.status ∧
      ∃ n, (processLine sh w line).2.2 = .next n ∧ (n < 256 ∨ n = sh.status) := by
  cases hblank : Text.isBlankText line
  case true =>
    -- a blank line is not recorded, as the history refuses it
    rw [processLine_of_blank hblank]
    exact ⟨by simp [History.add, History.accepts, hblank], rfl, rfl, _, rfl, .inr rfl⟩
  case false =>
    refine ⟨?_, ?_, processLine_status_eq_flow sh w line, ?_⟩
    all_goals rw [processLine_of_not_blank hblank]
    all_goals simp only [removeHeredocs]
    all_goals
      cases hc : Syntax.check line with
      | error e => simp [runLine_of_check_error hc]
      | ok u =>
          obtain ⟨ts, ht, hne⟩ := tokens_of_check hblank hc
          obtain ⟨k, hk⟩ := buildCommands_shell { sh with history := sh.history.add line } w
            (sh.scope.expandTokens ts)
          rcases hb : buildCommands { sh with history := sh.history.add line } w
            (sh.scope.expandTokens ts) with ⟨sh₁, w₁, err | cs⟩
          · rw [hb] at hk
            simp only at hk
            subst hk
            rw [runLine_of_build_error hc ht hne hb]
            simp [LineError.status_lt]
          · rw [hb] at hk
            simp only at hk
            subst hk
            have halone : ¬ ∃ c name rest, cs = [c] ∧ c.args = name :: rest ∧
                Builtin.modifiesShell name = true ∧ c.isFailed = false := by
              rintro ⟨c, name, rest, rfl, hargs, hmod, hfail⟩
              exact h ⟨name, rest, ⟨hblank, ts, _, w₁, c, hc, ht, hb, hargs, hfail⟩, hmod⟩
            obtain ⟨hshell, n, hn, hflow⟩ := executePipeline_of_not_alone
              ({ sh with history := sh.history.add line }.withHeredocs k) w₁ cs halone
            rw [runLine_of_built hc ht hne hb]
            simp [hshell, hflow, hn]

end Line

/-! ## The whole run -/

/-- What the shell leaves when its loop ends with a shell, a world and a status: the
here-document files of the last line removed and the history saved. -/
def Finish.ofLoop (r : Shell × World × Nat) : Finish :=
  let (sh, w) := removeHeredocs r.1 r.2.1
  { world := saveHistory sh w, status := r.2.2 }

@[simp] theorem Launch.status_shell (l : Launch) : l.shell.1.status = 0 := rfl

/-- The warnings a shell starts with only write to its error stream: its whole input still
waits, with its streams in place. -/
theorem Launch.calm_shell (l : Launch) : (World.boot l.fs l.input).Calm l.shell.2 := by
  have hlog : ∀ {w : World} (m : String), (World.boot l.fs l.input).Calm w →
      (World.boot l.fs l.input).Calm (w.logWarning m) := fun m h =>
    h.trans (World.warn_calm h.streams _)
  have hreport : ∀ {w : World} (m : String), (World.boot l.fs l.input).Calm w →
      (World.boot l.fs l.input).Calm (w.report m) := fun m h =>
    h.trans (World.report_calm h.streams m)
  unfold Launch.shell
  dsimp only
  split <;> split <;> split <;>
  · repeat (first | with_reducible apply hlog | with_reducible apply hreport)
    exact .refl (World.boot_streams _ _)

/-- With no arguments, the shell runs its loop from where it starts, and ends as it ends. -/
theorem Launch.run_of_args_nil {l : Launch} (h : l.args = []) :
    l.run = Finish.ofLoop (readLoop feedLimit l.shell.1 l.shell.2) := by
  simp [Launch.run, argumentsAccepted, h, Finish.ofLoop]

end Conch
