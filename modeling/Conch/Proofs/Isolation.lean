import Conch.Session.Run
import Conch.Proofs.Recognition
import Conch.Proofs.Retention

/-!
# What a line can change in the shell

A line runs in the shell itself only when it is a pipeline of one stage whose command changes
the shell (`cd`, `exit`, `export`, `unset`, `history`) and none of whose redirections failed
(`RunsInShell`).  Every other line leaves the variables and the working directory as they were
and never asks the shell to exit: checking, scanning and expanding change nothing, building the
commands changes only the here-document bookkeeping (`Shell.Rebooked`,
`buildCommands_rebooked`), every other stage runs in a child whose copy of the shell is thrown
away (`executePipeline_in_children`), and removing the here-document files again touches only
that bookkeeping.

The status a line leaves is how it ended (`processLine_status_eq_flow`): 2 when the grammar
check refuses it, 2 when it has parentheses or more than sixteen here-documents, 130 when an
interrupt stopped the reader of one of its here-documents, 1 when a here-document file cannot
be made or written, and otherwise the status of its pipeline (`processLine_isolation`).  A
blank line changes nothing at all.
-/

namespace Conch

/-! ## Changing only the here-document bookkeeping -/

/-- `sh'` is `sh` with at most its here-document count and files changed. -/
def Shell.Rebooked (sh sh' : Shell) : Prop :=
  ∃ count files, sh' = { sh with heredocCount := count, heredocFiles := files }

namespace Shell.Rebooked

variable {sh sh' sh'' : Shell}

@[refl] theorem refl (sh : Shell) : sh.Rebooked sh :=
  ⟨sh.heredocCount, sh.heredocFiles, rfl⟩

@[trans] theorem trans (h : sh.Rebooked sh') (h' : sh'.Rebooked sh'') : sh.Rebooked sh'' := by
  obtain ⟨n, fs, rfl⟩ := h
  obtain ⟨n', fs', rfl⟩ := h'
  exact ⟨n', fs', rfl⟩

theorem env_eq (h : sh.Rebooked sh') : sh'.env = sh.env := by
  obtain ⟨n, fs, rfl⟩ := h
  rfl

theorem cwd_eq (h : sh.Rebooked sh') : sh'.cwd = sh.cwd := by
  obtain ⟨n, fs, rfl⟩ := h
  rfl

end Shell.Rebooked

/-- The errors a here-document capture can end a line with: a file that cannot be made or
opened again, a body that cannot be written, or an interrupted reader. -/
def LineError.FromCapture (e : LineError) : Prop :=
  (∃ x, e = .heredocFile x) ∨ e = .heredocFailed ∨ e = .heredocAborted

/-- What building part of a line leaves: the shell with at most its here-document bookkeeping
changed, and a failure only from a here-document capture. -/
structure Shell.Builds {α : Type} (sh : Shell) (acc : Shell × World × Except LineError α) :
    Prop where
  rebooked : sh.Rebooked acc.1
  capture : ∀ e, acc.2.2 = .error e → e.FromCapture

namespace Shell.Builds

variable {α : Type} {sh sh' : Shell}

theorem ok (sh : Shell) (w : World) (a : α) : sh.Builds (sh, w, .ok a) :=
  ⟨.refl sh, fun _ h => by cases h⟩

theorem error {β : Type} {sh₁ : Shell} {w₁ : World} {e : LineError}
    (h : sh.Builds ((sh₁, w₁, .error e) : Shell × World × Except LineError α)) :
    sh.Builds ((sh₁, w₁, .error e) : Shell × World × Except LineError β) :=
  ⟨h.rebooked, fun e' he => by cases he; exact h.capture e rfl⟩

theorem of_rebooked {acc : Shell × World × Except LineError α} (h : sh.Rebooked sh')
    (hb : sh'.Builds acc) : sh.Builds acc :=
  ⟨h.trans hb.rebooked, hb.capture⟩

end Shell.Builds

/-- Capturing a here-document counts one more file and registers it for removal; it fails only
as a capture fails. -/
theorem captureHeredoc_builds (sh : Shell) (w : World) (limiter : Word) :
    sh.Builds (captureHeredoc sh w limiter) := by
  unfold captureHeredoc
  simp only
  split
  · exact ⟨⟨_, _, rfl⟩, fun e h => by cases h; exact .inl ⟨_, rfl⟩⟩
  · split
    · exact ⟨⟨_, _, rfl⟩, fun e h => by cases h; exact .inr (.inr rfl)⟩
    · split
      · exact ⟨⟨_, _, rfl⟩, fun e h => by cases h; exact .inr (.inl rfl)⟩
      · split
        · exact ⟨⟨_, _, rfl⟩, fun e h => by cases h⟩
        · exact ⟨⟨_, _, rfl⟩, fun e h => by cases h; exact .inl ⟨_, rfl⟩⟩

/-- Applying a redirection changes at most the here-document bookkeeping, and fails only as a
here-document capture fails. -/
theorem applyRedirect_builds (sh : Shell) (w : World) (c : Command) (r : Redirect)
    (operand : Word) : sh.Builds (applyRedirect sh w c r operand) := by
  have hcap := captureHeredoc_builds sh w operand
  unfold applyRedirect
  split
  · split
    · next sh' w' src h =>
        rw [h] at hcap
        exact ⟨hcap.rebooked, fun e h => by cases h⟩
    · next sh' w' e h =>
        rw [h] at hcap
        exact hcap.error
  · split
    · exact .ok sh w c
    · split
      · exact .ok sh w _
      · -- the shell is handed back as it was, whether or not the file opens
        dsimp only
        split <;> exact .ok sh _ _

theorem Shell.Builds.addToken {acc : Shell × World × Except LineError Command}
    {sh : Shell} (h : sh.Builds acc) (t : Token) : sh.Builds (addToken acc t) := by
  unfold Conch.addToken
  split
  · next sh₁ w₁ c =>
      split
      · next wd _ =>
          split
          · exact .of_rebooked h.rebooked (applyRedirect_builds _ _ _ _ _)
          · exact .of_rebooked h.rebooked (.ok sh₁ w₁ _)
      · exact .of_rebooked h.rebooked (.ok sh₁ w₁ c)
  · exact h

theorem Shell.Builds.foldl_addToken {acc : Shell × World × Except LineError Command}
    {sh : Shell} (h : sh.Builds acc) (tokens : List Token) :
    sh.Builds (tokens.foldl Conch.addToken acc) := by
  induction tokens generalizing acc with
  | nil => exact h
  | cons t rest ih => exact ih (h.addToken t)

/-- Building one stage changes at most the here-document bookkeeping, and fails only as a
here-document capture fails. -/
theorem buildStage_builds (sh : Shell) (w : World) (tokens : List Token) :
    sh.Builds (buildStage sh w tokens) := by
  have h := (Shell.Builds.ok sh w ({} : Command)).foldl_addToken tokens
  unfold buildStage
  split
  · next sh' w' c heq =>
      rw [heq] at h
      exact ⟨h.rebooked, fun e he => by cases he⟩
  · next failure _ =>
      exact h

/-- One step of building a line's commands: the next stage, built from the shell and world the
stages before it left, unless one of them failed. -/
def buildStep (acc : Shell × World × Except LineError (List Command)) (stage : List Token) :
    Shell × World × Except LineError (List Command) :=
  match acc with
  | (sh, w, .ok cs) =>
      match buildStage sh w stage with
      | (sh, w, .ok c) => (sh, w, .ok (cs ++ [c]))
      | (sh, w, .error e) => (sh, w, .error e)
  | failure => failure

/-- Building the commands of a line changes at most the here-document bookkeeping; it fails
only for parentheses, for more than sixteen here-documents, or as a here-document capture
fails. -/
theorem buildCommands_builds (sh : Shell) (w : World) (tokens : List Token) :
    sh.Rebooked (buildCommands sh w tokens).1 ∧
      ∀ e, (buildCommands sh w tokens).2.2 = .error e →
        e = .subshell ∨ e = .tooManyHeredocs ∨ e.FromCapture := by
  unfold buildCommands
  split
  · exact ⟨.refl sh, fun e h => by cases h; exact .inl rfl⟩
  · split
    · exact ⟨.refl sh, fun e h => by cases h; exact .inr (.inl rfl)⟩
    · -- each stage is built from the shell the stage before left
      suffices h : ∀ (stages : List (List Token))
          (acc : Shell × World × Except LineError (List Command)), sh.Builds acc →
          sh.Builds (stages.foldl buildStep acc) by
        have hb := h (stages tokens) _ (.ok sh w [])
        exact ⟨hb.rebooked, fun e he => .inr (.inr (hb.capture e he))⟩
      intro stages
      induction stages with
      | nil => exact fun _ h => h
      | cons stage rest ih =>
          intro acc hacc
          apply ih
          obtain ⟨sh₁, w₁, r⟩ := acc
          cases r with
          | error e => exact hacc
          | ok cs =>
              have hstage := buildStage_builds sh₁ w₁ stage
              simp only [buildStep]
              split
              · next sh₂ w₂ c heq =>
                  rw [heq] at hstage
                  exact .of_rebooked hacc.rebooked ⟨hstage.rebooked, fun e he => by cases he⟩
              · next sh₂ w₂ e heq =>
                  rw [heq] at hstage
                  exact .of_rebooked hacc.rebooked hstage.error

/-- Removing the here-document files of a line forgets them and changes nothing else. -/
theorem removeHeredocs_rebooked (sh : Shell) (w : World) :
    sh.Rebooked (removeHeredocs sh w).1 :=
  ⟨sh.heredocCount, [], rfl⟩

/-! ## Which stages run in the shell -/

/-- A pipeline runs in the shell only when it is one command, with no failed redirection, whose
name is a command that changes the shell; otherwise every stage runs in a child, the shell is
left as it was, and it goes on to the next line. -/
theorem executePipeline_in_children (sh : Shell) (w : World) (cs : List Command)
    (h : ¬ ∃ c name rest, cs = [c] ∧ c.args = name :: rest ∧
      Builtin.modifiesShell name = true ∧ c.isFailed = false) :
    (executePipeline sh w cs).1 = sh ∧ ∃ n, (executePipeline sh w cs).2.2 = .next n := by
  unfold executePipeline
  split
  · next c =>
      split
      · next name rest hargs =>
          split
          · next hmod =>
              split
              · exact ⟨rfl, 1, rfl⟩
              · next hfailed =>
                  exact absurd ⟨c, name, rest, rfl, hargs, hmod, by simpa using hfailed⟩ h
          · exact ⟨rfl, runInChildren_continues sh w [c]⟩
      · exact ⟨rfl, runInChildren_continues sh w [c]⟩
  · exact ⟨rfl, runInChildren_continues sh w cs⟩

/-! ## Lines -/

/-- A line that runs in the shell itself: it passes the grammar check, scans, and builds, once
expanded, to one command with no failed redirection whose name is a command that changes the
shell. -/
def RunsInShell (sh : Shell) (w : World) (line : String) : Prop :=
  ∃ tokens sh' w' c name rest, Syntax.check line = .ok () ∧ Syntax.tokenize line = .ok tokens ∧
    buildCommands sh w (sh.scope.expandTokens tokens) = (sh', w', .ok [c]) ∧
    c.args = name :: rest ∧ Builtin.modifiesShell name = true ∧ c.isFailed = false

theorem Syntax.isWhiteSpace_of_isBlank {c : Char} (h : Syntax.isBlank c = true) :
    Text.isWhiteSpace c = true := by
  simp only [Syntax.isBlank, Bool.or_eq_true, beq_iff_eq] at h
  rcases h with (rfl | rfl) | rfl <;> decide

/-- A line that scans to no token at all is blank. -/
theorem isBlankText_of_tokenize_nil {line : String} (h : Syntax.tokenize line = .ok []) :
    Text.isBlankText line = true := by
  obtain ⟨hscan, -⟩ := Syntax.tokenize_eq_ok_iff.1 h
  have hlay := (Syntax.layout_assemble 0 line.toList none).1
  rw [← Syntax.scan_eq_assemble, ← hscan] at hlay
  cases hlay with
  | blanks hgap =>
      simp only [Text.isBlankText, List.all_eq_true]
      exact fun c hc => Syntax.isWhiteSpace_of_isBlank (hgap c hc)

theorem exists_tokenize_of_check {line : String} (h : Syntax.check line = .ok ()) :
    ∃ ts, Syntax.tokenize line = .ok ts := by
  rw [Syntax.check_eq_ok_iff, Syntax.line_eq_ok_iff, ← Syntax.tokens_line_iff] at h
  obtain ⟨ts, hts, -⟩ := h
  exact ⟨ts, hts⟩

/-- A line the grammar check refuses is reported and ends with status 2. -/
theorem runLine_of_check_error {sh : Shell} {w : World} {line : String} {e : Syntax.SyntaxError}
    (h : Syntax.check line = .error e) :
    runLine sh w line = (sh, w.report (LineError.grammar e).message, .next 2) := by
  simp [runLine, h, LineError.status]

/-- A line that passes the check and scans to some tokens, and whose building fails, is
reported (unless a here-document was interrupted) and ends with the error's status. -/
theorem runLine_of_build_error {sh sh₁ : Shell} {w w₁ : World} {line : String}
    {ts : List Token} {err : LineError} (hc : Syntax.check line = .ok ())
    (ht : Syntax.tokenize line = .ok ts) (hne : ts ≠ [])
    (hb : buildCommands sh w (sh.scope.expandTokens ts) = (sh₁, w₁, .error err)) :
    runLine sh w line = (sh₁, err.report w₁, .next err.status) := by
  obtain ⟨t, rest, rfl⟩ := List.exists_cons_of_ne_nil hne
  simp only [runLine, hc, ht, hb]

/-- A line that passes the check and scans to some tokens, and whose building succeeds, runs
its pipeline. -/
theorem runLine_of_built {sh sh₁ : Shell} {w w₁ : World} {line : String}
    {ts : List Token} {cs : List Command} (hc : Syntax.check line = .ok ())
    (ht : Syntax.tokenize line = .ok ts) (hne : ts ≠ [])
    (hb : buildCommands sh w (sh.scope.expandTokens ts) = (sh₁, w₁, .ok cs)) :
    runLine sh w line = executePipeline sh₁ w₁ cs := by
  obtain ⟨t, rest, rfl⟩ := List.exists_cons_of_ne_nil hne
  simp only [runLine, hc, ht, hb]

/-- A line that is not blank and passes the check scans to some tokens. -/
theorem tokens_of_check {line : String} (hblank : Text.isBlankText line = false)
    (hc : Syntax.check line = .ok ()) :
    ∃ ts, Syntax.tokenize line = .ok ts ∧ ts ≠ [] := by
  obtain ⟨ts, ht⟩ := exists_tokenize_of_check hc
  refine ⟨ts, ht, ?_⟩
  rintro rfl
  rw [isBlankText_of_tokenize_nil ht] at hblank
  cases hblank

/-- A line that is not blank either runs in the shell itself, or leaves the variables and the
working directory as they were and goes on to the next line. -/
theorem runLine_isolation (sh : Shell) (w : World) (line : String)
    (hblank : Text.isBlankText line = false) :
    RunsInShell sh w line ∨
      (runLine sh w line).1.env = sh.env ∧ (runLine sh w line).1.cwd = sh.cwd ∧
        ∃ n, (runLine sh w line).2.2 = .next n := by
  cases hc : Syntax.check line with
  | error e =>
      rw [runLine_of_check_error hc]
      exact .inr ⟨rfl, rfl, 2, rfl⟩
  | ok u =>
      obtain ⟨ts, ht, hne⟩ := tokens_of_check hblank hc
      obtain ⟨hbook, -⟩ := buildCommands_builds sh w (sh.scope.expandTokens ts)
      rcases hb : buildCommands sh w (sh.scope.expandTokens ts) with ⟨sh₁, w₁, err | cs⟩
      · rw [hb] at hbook
        rw [runLine_of_build_error hc ht hne hb]
        exact .inr ⟨hbook.env_eq, hbook.cwd_eq, _, rfl⟩
      · rw [hb] at hbook
        rw [runLine_of_built hc ht hne hb]
        by_cases hin : ∃ c name rest, cs = [c] ∧ c.args = name :: rest ∧
            Builtin.modifiesShell name = true ∧ c.isFailed = false
        · obtain ⟨c, name, rest, rfl, hargs, hmod, hfailed⟩ := hin
          exact .inl ⟨ts, sh₁, w₁, c, name, rest, hc, ht, hb, hargs, hmod, hfailed⟩
        · obtain ⟨hsame, hnext⟩ := executePipeline_in_children sh₁ w₁ cs hin
          rw [hsame]
          exact .inr ⟨hbook.env_eq, hbook.cwd_eq, hnext⟩

/-- How a line that is not blank ends: refused by the grammar check with status 2, refused
while building with status 2 for parentheses or too many here-documents, 130 for an
interrupted here-document and 1 for a here-document file that cannot be made or written, or
with the status of its pipeline. -/
theorem runLine_ending (sh : Shell) (w : World) (line : String)
    (hblank : Text.isBlankText line = false) :
    (∃ e, Syntax.check line = .error e ∧ (runLine sh w line).2.2 = .next 2) ∨
      (∃ ts sh₁ w₁ err, Syntax.check line = .ok () ∧ Syntax.tokenize line = .ok ts ∧
        buildCommands sh w (sh.scope.expandTokens ts) = (sh₁, w₁, .error err) ∧
        ((err = .subshell ∨ err = .tooManyHeredocs) ∧ (runLine sh w line).2.2 = .next 2 ∨
          err = .heredocAborted ∧ (runLine sh w line).2.2 = .next 130 ∨
          ((∃ x, err = .heredocFile x) ∨ err = .heredocFailed) ∧
            (runLine sh w line).2.2 = .next 1)) ∨
      (∃ ts sh₁ w₁ cs, Syntax.check line = .ok () ∧ Syntax.tokenize line = .ok ts ∧
        buildCommands sh w (sh.scope.expandTokens ts) = (sh₁, w₁, .ok cs) ∧
        (runLine sh w line).2.2 = (executePipeline sh₁ w₁ cs).2.2) := by
  cases hc : Syntax.check line with
  | error e =>
      rw [runLine_of_check_error hc]
      exact .inl ⟨e, rfl, rfl⟩
  | ok u =>
      obtain ⟨ts, ht, hne⟩ := tokens_of_check hblank hc
      obtain ⟨-, herr⟩ := buildCommands_builds sh w (sh.scope.expandTokens ts)
      rcases hb : buildCommands sh w (sh.scope.expandTokens ts) with ⟨sh₁, w₁, err | cs⟩
      · rw [hb] at herr
        rw [runLine_of_build_error hc ht hne hb]
        refine .inr (.inl ⟨ts, sh₁, w₁, err, rfl, ht, hb, ?_⟩)
        rcases herr err rfl with rfl | rfl | ⟨x, rfl⟩ | rfl | rfl
        · exact .inl ⟨.inl rfl, rfl⟩
        · exact .inl ⟨.inr rfl, rfl⟩
        · exact .inr (.inr ⟨.inl ⟨x, rfl⟩, rfl⟩)
        · exact .inr (.inr ⟨.inr rfl, rfl⟩)
        · exact .inr (.inl ⟨rfl, rfl⟩)
      · rw [runLine_of_built hc ht hne hb]
        exact .inr (.inr ⟨ts, sh₁, w₁, cs, rfl, ht, hb, rfl⟩)

/-- What processing a line that is not blank does: record it, run it, remove its
here-document files, and keep the status it ended with. -/
theorem processLine_of_not_blank {sh : Shell} {w : World} {line : String}
    (hblank : Text.isBlankText line = false) :
    processLine sh w line =
      let sh₀ := { sh with history := sh.history.add line }
      ({ (removeHeredocs (runLine sh₀ w line).1 (runLine sh₀ w line).2.1).1 with
          status := (runLine sh₀ w line).2.2.status },
        (removeHeredocs (runLine sh₀ w line).1 (runLine sh₀ w line).2.1).2,
        (runLine sh₀ w line).2.2) := by
  simp [processLine, hblank]

/-- The status a processed line leaves is the status it ended with. -/
theorem processLine_status_eq_flow (sh : Shell) (w : World) (line : String) :
    (processLine sh w line).1.status = (processLine sh w line).2.2.status := by
  unfold processLine
  split <;> rfl

/-- Processing a line leaves the variables and the working directory as they were and does not
ask the shell to exit, unless the line is a pipeline of one stage, with no failed redirection,
whose command (its first field after expansion) changes the shell; every other stage runs in a
child.  The status kept is the line's: 2 when the grammar check refuses it, 2 for parentheses
and for more than sixteen here-documents, 130 for an interrupted here-document, 1 for a
here-document file that cannot be made or written, and otherwise the status of its pipeline.
A line that trimming makes empty changes nothing at all: not the status, and not the
history. -/
theorem processLine_isolation (sh : Shell) (w : World) (line : String) :
    (Text.trim line = "" → processLine sh w line = (sh, w, .next sh.status)) ∧
      (processLine sh w line).1.status = (processLine sh w line).2.2.status ∧
      (RunsInShell { sh with history := sh.history.add line } w line ∨
        (processLine sh w line).1.env = sh.env ∧ (processLine sh w line).1.cwd = sh.cwd ∧
          ∃ n, (processLine sh w line).2.2 = .next n) ∧
      (Text.trim line ≠ "" →
        (∃ e, Syntax.check line = .error e ∧ (processLine sh w line).2.2 = .next 2) ∨
        (∃ ts sh₁ w₁ err, Syntax.check line = .ok () ∧ Syntax.tokenize line = .ok ts ∧
          buildCommands { sh with history := sh.history.add line } w
            ({ sh with history := sh.history.add line }.scope.expandTokens ts) =
              (sh₁, w₁, .error err) ∧
          ((err = .subshell ∨ err = .tooManyHeredocs) ∧ (processLine sh w line).2.2 = .next 2 ∨
            err = .heredocAborted ∧ (processLine sh w line).2.2 = .next 130 ∨
            ((∃ x, err = .heredocFile x) ∨ err = .heredocFailed) ∧
              (processLine sh w line).2.2 = .next 1)) ∨
        (∃ ts sh₁ w₁ cs, Syntax.check line = .ok () ∧ Syntax.tokenize line = .ok ts ∧
          buildCommands { sh with history := sh.history.add line } w
            ({ sh with history := sh.history.add line }.scope.expandTokens ts) =
              (sh₁, w₁, .ok cs) ∧
          (processLine sh w line).2.2 = (executePipeline sh₁ w₁ cs).2.2)) := by
  by_cases hblank : Text.isBlankText line = true
  · have hsame : processLine sh w line = (sh, w, .next sh.status) := by
      simp [processLine, hblank]
    have htrim := (Text.isBlankText_iff_trim_eq_empty line).1 hblank
    rw [hsame]
    exact ⟨fun _ => rfl, rfl, .inr ⟨rfl, rfl, _, rfl⟩, fun h => absurd htrim h⟩
  · have hblank' : Text.isBlankText line = false := by simpa using hblank
    rw [processLine_of_not_blank hblank']
    refine ⟨fun h => absurd ((Text.isBlankText_iff_trim_eq_empty line).2 h) hblank, rfl, ?_,
      fun _ => runLine_ending _ w line hblank'⟩
    rcases runLine_isolation { sh with history := sh.history.add line } w line hblank' with
      hin | ⟨henv, hcwd, hnext⟩
    · exact .inl hin
    · -- removing the here-document files and keeping the status touch neither
      have hrm := removeHeredocs_rebooked
        (runLine { sh with history := sh.history.add line } w line).1
        (runLine { sh with history := sh.history.add line } w line).2.1
      exact .inr ⟨hrm.env_eq.trans henv, hrm.cwd_eq.trans hcwd, hnext⟩

end Conch
