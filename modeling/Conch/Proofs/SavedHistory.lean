import Conch.Proofs.ExitStatus
import Conch.Proofs.HistoryFile

/-!
# The history a run saves

The shell loads its history once, from a path it resolves against the directory it starts in
(`Launch.historyPath`), with the capacity its configuration gives (`Launch.historyCapacity`).
Each line the read loop reads is added to the history before it runs, refused or not; only
`history` with the flag `c`, run alone in the shell, clears it (`Builtin.run_history`,
`processLine_history`).  Along a run the history is therefore what `Replayed` says of the lines
read (`Ran.replayed`), and when the shell ends, at the end of its input or at `exit`, it writes
that history to the path it loaded it from: over a regular file or into a free name, the file
then holds exactly the text of the history (`saved_history_of_run`).  Where a directory has taken
the name, nothing is written and the failure is warned about (`history_kept_off_directory`).

Main statement: `saved_history_of_run`.
-/

namespace Conch

/-! ## Which built-in commands change the history -/

theorem Shell.setWorkingDir_history {sh sh' : Shell} {fs : Fs} {target : String}
    (h : sh.setWorkingDir fs target = .ok sh') : sh'.history = sh.history := by
  obtain ⟨env, cwd, rfl⟩ := Shell.setWorkingDir_eq_ok h
  rfl

namespace Builtin

/-- Whether `history` with the operands `args` clears the history: they parse, and give the
flag `c`. -/
def clearsHistory (args : List String) : Bool :=
  match historySpec.parse args with
  | .ok p => p.flags.contains 'c'
  | .error _ => false

theorem withOptions_history {spec : Options.Spec} {sh : Shell} {args : List String}
    {k : Options.Parsed → Shell × Reply} (hk : ∀ p, (k p).1.history = sh.history) :
    (withOptions spec sh args k).1.history = sh.history := by
  unfold withOptions
  split
  · rfl
  · exact hk _

theorem cdCommand_history (sh : Shell) (fs : Fs) (name : String) (p : Options.Parsed) :
    (cdCommand sh fs name p).1.history = sh.history := by
  unfold cdCommand
  split
  · rfl
  · dsimp only
    split
    · rfl
    · split
      · rfl
      · next hcd => exact Shell.setWorkingDir_history hcd

theorem exportCommand_history (sh : Shell) (name : String) (p : Options.Parsed) :
    (exportCommand sh name p).1.history = sh.history := by
  unfold exportCommand
  split
  · rfl
  · -- each operand sets or marks a variable only
    refine foldl_of_invariant (fun acc : Shell × Reply => acc.1.history = sh.history)
      (fun acc decl h => ?_) _ _ rfl
    obtain ⟨sh₁, r⟩ := acc
    unfold exportOne
    dsimp only at h ⊢
    repeat' split
    all_goals exact h

theorem unsetCommand_history (sh : Shell) (name : String) (p : Options.Parsed) :
    (unsetCommand sh name p).1.history = sh.history := by
  refine foldl_of_invariant (fun acc : Shell × Reply => acc.1.history = sh.history)
    (fun acc n h => ?_) _ _ rfl
  obtain ⟨sh₁, r⟩ := acc
  unfold unsetOne
  dsimp only at h ⊢
  split <;> exact h

theorem historyCommand_history (sh : Shell) (p : Options.Parsed) :
    (historyCommand sh p).1.history =
      if p.flags.contains 'c' then sh.history.clear else sh.history := by
  unfold historyCommand
  split <;> rfl

/-- Of the built-in commands only `history`, asked to clear, changes the history. -/
theorem run_history (sh : Shell) (fs : Fs) (name : String) (args : List String) :
    (run sh fs (name :: args)).1.history =
      if name = "history" ∧ clearsHistory args = true then sh.history.clear else sh.history := by
  have hkeep : ∀ n, n ≠ "history" → ¬ (n = "history" ∧ clearsHistory args = true) :=
    fun n hn h => hn h.1
  unfold run
  simp only [List.headD_cons]
  split
  · rw [if_neg (hkeep _ (by decide))]
    exact withOptions_history (cdCommand_history sh fs _)
  · rw [if_neg (hkeep _ (by decide))]
    refine withOptions_history fun p => ?_
    unfold pwdCommand
    split
    · split <;> rfl
    · rfl
  · rw [if_neg (hkeep _ (by decide))]
    exact withOptions_history (exportCommand_history sh _)
  · rw [if_neg (hkeep _ (by decide))]
    exact withOptions_history (unsetCommand_history sh _)
  · -- the operands decide whether the history is cleared
    unfold withOptions clearsHistory
    simp only [List.tail_cons]
    cases historySpec.parse args with
    | error => simp
    | ok p => simp [historyCommand_history]
  · rw [if_neg (hkeep _ (by decide))]
    unfold envCommand
    split <;> rfl
  · rw [if_neg (hkeep _ (by decide))]
    exact congrArg Shell.history (exitCommand_quiet sh _).1
  · rw [if_neg (hkeep _ (by decide))]
  · next hhistory _ _ _ =>
      rw [if_neg (hkeep _ hhistory)]

end Builtin

/-! ## One line -/

/-- The line runs `history` alone, asked to clear. -/
def ClearsHistory (sh : Shell) (w : World) (line : String) : Prop :=
  ∃ args, RunsAlone sh w line "history" args ∧ Builtin.clearsHistory args = true

/-- A line is added to the history before it runs, and a line that runs `history -c` alone then
clears it; a blank line is refused by the history, so it changes nothing. -/
theorem processLine_history (sh : Shell) (w : World) (line : String) :
    ClearsHistory sh w line ∧ (processLine sh w line).1.history = (sh.history.add line).clear ∨
      ¬ ClearsHistory sh w line ∧ (processLine sh w line).1.history = sh.history.add line := by
  by_cases hclear : ClearsHistory sh w line
  · obtain ⟨args, hrun, hc⟩ := hclear
    obtain ⟨k, fs, hhistory, -⟩ := processLine_of_runsAlone hrun (by decide)
    refine .inl ⟨⟨args, hrun, hc⟩, ?_⟩
    rw [hhistory, Builtin.run_history, if_pos ⟨rfl, hc⟩]
    rfl
  · refine .inr ⟨hclear, ?_⟩
    by_cases halone : ∃ name args, RunsAlone sh w line name args ∧
        Builtin.modifiesShell name = true
    · obtain ⟨name, args, hrun, hmod⟩ := halone
      obtain ⟨k, fs, hhistory, -⟩ := processLine_of_runsAlone hrun hmod
      rw [hhistory, Builtin.run_history, if_neg]
      · rfl
      · rintro ⟨rfl, hc⟩
        exact hclear ⟨args, hrun, hc⟩
    · exact (processLine_of_not_runsAlone halone).1

/-! ## A whole run -/

/-- The history after the lines of `turns` from `h`: each line is added, and the history is
cleared after a line that runs `history -c` alone. -/
inductive Replayed : History → List Turn → History → Prop
  | nil (h : History) : Replayed h [] h
  | add {h h' : History} {t : Turn} {turns : List Turn} :
      ¬ ClearsHistory t.shell t.world t.line → Replayed (h.add t.line) turns h' →
      Replayed h (t :: turns) h'
  | clear {h h' : History} {t : Turn} {turns : List Turn} :
      ClearsHistory t.shell t.world t.line → Replayed (h.add t.line).clear turns h' →
      Replayed h (t :: turns) h'

namespace Replayed

theorem append {h h' h'' : History} {xs ys : List Turn} (hxs : Replayed h xs h')
    (hys : Replayed h' ys h'') : Replayed h (xs ++ ys) h'' := by
  induction hxs with
  | nil => exact hys
  | add hc _ ih => exact .add hc (ih hys)
  | clear hc _ ih => exact .clear hc (ih hys)

/-- One line leaves the history `Replayed` says. -/
theorem of_processLine {sh sh' : Shell} {w w₁ w' : World} {line : String} {flow : Flow}
    (h : processLine sh w₁ line = (sh', w', flow)) :
    Replayed sh.history [⟨sh, w, line, w₁⟩] sh'.history := by
  rcases processLine_history sh w₁ line with ⟨hc, hh⟩ | ⟨hc, hh⟩
  · rw [h] at hh
    exact .clear hc (hh ▸ .nil _)
  · rw [h] at hh
    exact .add hc (hh ▸ .nil _)

end Replayed

theorem historyPath_of_processLine {sh sh' : Shell} {w w' : World} {line : String} {flow : Flow}
    (h : processLine sh w line = (sh', w', flow)) : sh'.historyPath = sh.historyPath := by
  by_cases halone :
      ∃ name args, RunsAlone sh w line name args ∧ Builtin.modifiesShell name = true
  · obtain ⟨name, args, hrun, hmod⟩ := halone
    obtain ⟨k, fs, -, hpath, -⟩ := processLine_of_runsAlone hrun hmod
    rwa [h] at hpath
  · have hpath := (processLine_of_not_runsAlone halone).2.1
    rwa [h] at hpath

namespace Steps

variable {sh sh' : Shell} {w w' : World} {turns : List Turn}

theorem replayed (h : Steps sh w turns sh' w') : Replayed sh.history turns sh'.history := by
  induction h with
  | nil => exact .nil _
  | cons _ hline _ ih => exact (Replayed.of_processLine hline).append ih

theorem historyPath_eq (h : Steps sh w turns sh' w') : sh'.historyPath = sh.historyPath := by
  induction h with
  | nil => rfl
  | cons _ hline _ ih => exact ih.trans (historyPath_of_processLine hline)

end Steps

/-- From `sh` and `w` the read loop, allowed `fuel` lines that write into its own input, reads
and runs the lines of `turns` and ends with `sh'` and `w'`: at the end of its input, after a
last line that asks to exit, or once more than `fuel` of its lines have written into its input. -/
inductive Ran (fuel : Nat) : Shell → World → List Turn → Shell → World → Prop
  | eof {sh sh' : Shell} {w w' : World} {turns : List Turn} :
      Steps sh w turns sh' w' → w'.nextLine = none → Ran fuel sh w turns sh' w'
  | exit {sh sh₁ sh' : Shell} {w w₁ w₂ w' : World} {turns : List Turn} {line : String}
      {code : Nat} :
      Steps sh w turns sh₁ w₁ → w₁.nextLine = some (line, w₂) →
      processLine sh₁ w₂ line = (sh', w', .exit code) →
      Ran fuel sh w (turns ++ [⟨sh₁, w₁, line, w₂⟩]) sh' w'
  | spent {sh sh' : Shell} {w w' : World} {turns : List Turn} :
      Steps sh w turns sh' w' → (turns.filter Turn.feeds).length = fuel + 1 →
      Ran fuel sh w turns sh' w'

/-- The read loop ends as some run of it does. -/
theorem readLoop_ran (fuel : Nat) (sh : Shell) (w : World) :
    ∃ turns, Ran fuel sh w turns (readLoop fuel sh w).1 (readLoop fuel sh w).2.1 := by
  obtain ⟨turns, sh₁, w₁, hsteps, hend⟩ := readLoop_cases fuel sh w
  generalize readLoop fuel sh w = r at hend
  rcases hend with hstop | ⟨hcount, rfl⟩
  · cases hstop with
    | eof hnone => exact ⟨turns, .eof hsteps hnone⟩
    | exit hnext hline => exact ⟨_, .exit hsteps hnext hline⟩
  · exact ⟨turns, .spent hsteps hcount⟩

namespace Ran

variable {fuel : Nat} {sh sh' : Shell} {w w' : World} {turns : List Turn}

/-- Along a run the history is replayed from the lines read. -/
theorem replayed (h : Ran fuel sh w turns sh' w') : Replayed sh.history turns sh'.history := by
  cases h with
  | eof hsteps => exact hsteps.replayed
  | exit hsteps _ hline => exact hsteps.replayed.append (Replayed.of_processLine hline)
  | spent hsteps => exact hsteps.replayed

theorem historyPath_eq (h : Ran fuel sh w turns sh' w') : sh'.historyPath = sh.historyPath := by
  cases h with
  | eof hsteps => exact hsteps.historyPath_eq
  | exit hsteps _ hline => exact (historyPath_of_processLine hline).trans hsteps.historyPath_eq
  | spent hsteps => exact hsteps.historyPath_eq

end Ran

/-! ## The saved history -/

/-- The path the history is loaded from and saved to: the name the configuration gives, or
`.nacre_history`, in the directory the shell starts in. -/
def Launch.historyPath (l : Launch) : String :=
  Path.join l.cwd
    ((loadSettings l.fs (Octets.ofText l.cwd) l.env).historyFile.getD defaultHistoryFile)

/-- The capacity of the history: the one the configuration gives, or 500. -/
def Launch.historyCapacity (l : Launch) : Nat :=
  (loadSettings l.fs (Octets.ofText l.cwd) l.env).maxEntries.getD defaultHistorySize

theorem Launch.historyPath_shell (l : Launch) : l.shell.1.historyPath = some l.historyPath := rfl

theorem Launch.history_shell (l : Launch) :
    l.shell.1.history = loadHistory l.fs l.historyPath l.historyCapacity := rfl

/-- The history a run saves.  With no arguments the shell reads and runs lines until its input
ends or a line asks it to exit (or more than `feedLimit` lines have written into its input), and
the history it then has is the one loaded from `Launch.historyPath` with
`Launch.historyCapacity`, with each line read added and cleared after each line that runs
`history -c` alone.  The shell leaves the world in which it saved that history to the same
path, whatever directory it is in by then; where the path takes a regular file once the
here-document files of the last line are removed, the file there holds exactly the text of
that history. -/
theorem saved_history_of_run (l : Launch) (hargs : l.args = []) :
    ∃ turns sh w, Ran feedLimit l.shell.1 l.shell.2 turns sh w ∧
      Replayed (loadHistory l.fs l.historyPath l.historyCapacity) turns sh.history ∧
      l.run.world = saveHistory (removeHeredocs sh w).1 (removeHeredocs sh w).2 ∧
      ((removeHeredocs sh w).2.fs.FileSpot "/" (Octets.ofText l.historyPath) →
        ∃ q n mode, l.run.world.fs.resolve "/" (Octets.ofText l.historyPath) = .ok q ∧
          l.run.world.fs.find q = some ⟨.file n, mode⟩ ∧
          l.run.world.fs.contentOf n = Octets.ofText sh.history.render) := by
  obtain ⟨turns, hran⟩ := readLoop_ran feedLimit l.shell.1 l.shell.2
  have hworld : l.run.world = saveHistory
      (removeHeredocs (readLoop feedLimit l.shell.1 l.shell.2).1
        (readLoop feedLimit l.shell.1 l.shell.2).2.1).1
      (removeHeredocs (readLoop feedLimit l.shell.1 l.shell.2).1
        (readLoop feedLimit l.shell.1 l.shell.2).2.1).2 := by
    rw [Launch.run_of_args_nil hargs]
    rfl
  refine ⟨turns, _, _, hran, Launch.history_shell l ▸ hran.replayed, hworld, fun hspot => ?_⟩
  -- the shell saves to the path it loaded from, which no line changed
  have hpath : (removeHeredocs (readLoop feedLimit l.shell.1 l.shell.2).1
      (readLoop feedLimit l.shell.1 l.shell.2).2.1).1.historyPath = some l.historyPath := by
    exact hran.historyPath_eq.trans (Launch.historyPath_shell l)
  obtain ⟨q, n, mode, hr, hf, hc⟩ := saveHistory_writes hpath hspot
  rw [hworld]
  exact ⟨q, n, mode, hr, hf, by rw [hc]; rfl⟩

/-- A shell started with no arguments on an empty input and an empty file system saves its
history as `saved_history_of_run` says. -/
theorem saved_history_of_empty_input :
    (Launch.mk [] [] "/" { entries := [] } "" 0 [] false).args = [] ∧
      ∃ turns sh w, Ran feedLimit (Launch.mk [] [] "/" { entries := [] } "" 0 [] false).shell.1
          (Launch.mk [] [] "/" { entries := [] } "" 0 [] false).shell.2 turns sh w ∧
        Replayed (loadHistory { entries := [] }
            (Launch.mk [] [] "/" { entries := [] } "" 0 [] false).historyPath
            (Launch.mk [] [] "/" { entries := [] } "" 0 [] false).historyCapacity) turns sh.history ∧
        (Launch.mk [] [] "/" { entries := [] } "" 0 [] false).run.world =
          saveHistory (removeHeredocs sh w).1 (removeHeredocs sh w).2 ∧
        ((removeHeredocs sh w).2.fs.FileSpot "/"
            (Octets.ofText (Launch.mk [] [] "/" { entries := [] } "" 0 [] false).historyPath) →
          ∃ q n mode, (Launch.mk [] [] "/" { entries := [] } "" 0 [] false).run.world.fs.resolve "/"
              (Octets.ofText (Launch.mk [] [] "/" { entries := [] } "" 0 [] false).historyPath) = .ok q ∧
            (Launch.mk [] [] "/" { entries := [] } "" 0 [] false).run.world.fs.find q =
              some ⟨.file n, mode⟩ ∧
            (Launch.mk [] [] "/" { entries := [] } "" 0 [] false).run.world.fs.contentOf n =
              Octets.ofText sh.history.render) :=
  ⟨rfl, saved_history_of_run _ rfl⟩

/-- Saving over a name that leads to a directory fails: the world is left as it was but for
the warning. -/
theorem saveHistory_of_directory {sh : Shell} {w : World} {p q : String} {mode : Nat}
    (hp : sh.historyPath = some p) (hl : w.fs.locate "/" (Octets.ofText p) = .ok (.existing q))
    (hd : w.fs.find q = some ⟨.directory, mode⟩) :
    saveHistory sh w = w.logWarning (saveWarning .isDirectory) := by
  simp [saveHistory, hp, World.openPath, Opening.replacing, hl, hd]

/-- Where a directory has taken the name of the history file, as `mkdir .nacre_history` run by
the shell at the root does, the shell saves nothing when it ends and warns that it could not. -/
theorem history_kept_off_directory :
    let fs : Fs :=
      { entries := [("/", ⟨.directory, 0o755⟩), ("/.nacre_history", ⟨.directory, 0o755⟩)] }
    let w := World.boot fs ""
    let sh : Shell :=
      { env := {}, cwd := "/", history := (History.empty 500).add "mkdir .nacre_history",
        historyPath := some "/.nacre_history", pid := 1 }
    saveHistory sh w =
      w.logWarning "failed to save history: Is a directory (os error 21)" := by
  intro fs w sh
  have hroot : fs.find "/" = some ⟨.directory, 0o755⟩ := by decide
  have hdir : fs.find (Path.child "/" ".nacre_history") = some ⟨.directory, 0o755⟩ := by
    decide
  have hnames : Path.names "/.nacre_history" = [".nacre_history"] := by
    decide
  have hplace : fs.Place "/" (Octets.ofText "/.nacre_history") "/" ".nacre_history" := by
    rw [show Octets.ofText "/.nacre_history" = "/.nacre_history" by cbv]
    exact Fs.place_root hroot hnames (by decide) (by decide +kernel) (by decide) (by decide)
  exact saveHistory_of_directory rfl (Fs.locate_of_place_unlinked hplace hdir rfl) hdir

end Conch
