import Conch.Proofs.HeredocBodies
import Conch.Proofs.ExpandedTokens
import Conch.Proofs.Isolation

/-!
# Here-documents on a line

Building a line's commands captures its here-documents in the order their limiters stand on
the line (`heredocLimiters`), each from the input the one before it left: the line's
here-documents take their bodies one after the other (`Input.afterBodies`), and the world
after them is `World.Captured` from the world before.  Expansion leaves the limiters as
scanned, and the pipes between stages do not change their order.

Each capture takes the next number of the shell's count, whether or not its file can be made,
so every line uses the next numbers and registers exactly their names.  Removing the files
after the line leaves none of the names leading to anything but a directory (`Fs.Gone`), on
success and on every error.
-/

namespace Conch

/-! ## The limiters of a line -/

/-- The limiter of a token that is the operand of a here-document. -/
def Token.limiter? : Token → Option Word
  | .word w _ =>
      match w.redirect with
      | some .heredoc => some w
      | _ => none
  | .op _ _ => none

/-- The limiters of a line's here-documents, in the order they stand. -/
def heredocLimiters (ts : List Token) : List Word := ts.filterMap Token.limiter?

/-- What is left of an input once here-documents with these limiters, one after the other,
have taken their bodies. -/
def Input.afterBodies (limiters : List String) (input : List Char) : List Char :=
  limiters.foldl (fun input limiter => Input.afterBody limiter input) input

@[simp] theorem Input.afterBodies_nil (input : List Char) : Input.afterBodies [] input = input :=
  rfl

theorem Input.afterBodies_append (l₁ l₂ : List String) (input : List Char) :
    Input.afterBodies (l₁ ++ l₂) input = Input.afterBodies l₂ (Input.afterBodies l₁ input) := by
  simp [Input.afterBodies, List.foldl_append]

@[simp] theorem heredocLimiters_nil : heredocLimiters [] = [] := rfl

theorem heredocLimiters_cons (t : Token) (ts : List Token) :
    heredocLimiters (t :: ts) = t.limiter?.toList ++ heredocLimiters ts := by
  cases h : t.limiter? <;> simp [heredocLimiters, h]

theorem heredocLimiters_flatten (l : List (List Token)) :
    heredocLimiters l.flatten = l.flatMap heredocLimiters := by
  simp only [heredocLimiters, List.filterMap_flatten, List.flatMap]
  rfl

theorem flatten_stages (ts : List Token) :
    (stages ts).flatten = ts.filter (fun t => t.operator? != some .pipe) := by
  -- the stages done and the one being built hold, together, the tokens seen so far
  have key : ∀ (ts : List Token) (acc : List (List Token) × List Token),
      (ts.foldl (fun (acc : List (List Token) × List Token) t =>
          if t.operator? == some .pipe then (acc.1 ++ [acc.2], []) else (acc.1, acc.2 ++ [t]))
        acc).1.flatten ++
      (ts.foldl (fun (acc : List (List Token) × List Token) t =>
          if t.operator? == some .pipe then (acc.1 ++ [acc.2], []) else (acc.1, acc.2 ++ [t]))
        acc).2 =
        acc.1.flatten ++ acc.2 ++ ts.filter (fun t => t.operator? != some .pipe) := by
    intro ts
    induction ts with
    | nil => intro acc; simp
    | cons t ts ih =>
        intro acc
        rw [List.foldl_cons, ih]
        by_cases hp : (t.operator? == some .pipe) = true <;> simp [hp, bne]
  simpa [stages] using key ts ([], [])

/-- Splitting a line at its pipes keeps its here-documents, in order. -/
theorem heredocLimiters_stages (ts : List Token) :
    (stages ts).flatMap heredocLimiters = heredocLimiters ts := by
  rw [← heredocLimiters_flatten, flatten_stages, heredocLimiters, heredocLimiters,
    List.filterMap_filter]
  congr 1
  funext t
  cases t <;> simp [Token.limiter?, Token.operator?]

/-- Expansion keeps the limiters of a line, in order and as scanned. -/
theorem heredocLimiters_expandTokens (sc : Scope) (ts : List Token) :
    heredocLimiters (sc.expandTokens ts) = heredocLimiters ts := by
  rw [Scope.expandTokens_eq, heredocLimiters, heredocLimiters, List.filterMap_map,
    List.filterMap_filter]
  congr 1
  funext t
  cases t with
  | op o n => simp [Token.limiter?, Scope.expandToken]
  | word w n =>
      have hexp : (sc.expandWord w).redirect = w.redirect := rfl
      have hres : (Scope.resolveOperand (sc.expandWord w)).redirect = w.redirect := by
        obtain ⟨file, amb, hres⟩ := Scope.resolveOperand_eq (sc.expandWord w)
        rw [hres]
        exact hexp
      cases hr : w.redirect with
      | none => simp [Token.limiter?, Scope.expandToken, Scope.survives, hr, hexp]
      | some r =>
          cases r <;> simp [Token.limiter?, Scope.expandToken, Scope.survives, hr, hres]

/-! ## Building a line -/

/-- What capturing here-documents with these limiters, one after the other, leaves of a world:
its streams in place, its file system only grown, and the bodies taken from its input in
order. -/
structure World.Captured (w : World) (limiters : List String) (w' : World) : Prop where
  streams : w'.Streams
  grows : w.fs.Grows w'.fs
  input : w'.input = Input.afterBodies limiters w.input

namespace World.Captured

variable {w w' w'' : World} {l₁ l₂ : List String}

theorem of_calm (h : w.Calm w') : w.Captured [] w' := ⟨h.streams, h.grows, h.input⟩

theorem trans (h : w.Captured l₁ w') (h' : w'.Captured l₂ w'') : w.Captured (l₁ ++ l₂) w'' :=
  ⟨h'.streams, h.grows.trans h'.grows, by rw [h'.input, h.input, Input.afterBodies_append]⟩

end World.Captured

theorem foldl_withHeredocs {α β : Type} (f : Shell × α → β → Shell × α)
    (hf : ∀ acc b, ∃ k, (f acc b).1 = acc.1.withHeredocs k) :
    ∀ (l : List β) (acc : Shell × α), ∃ k, (l.foldl f acc).1 = acc.1.withHeredocs k := by
  intro l
  induction l with
  | nil => exact fun acc => ⟨0, by simp⟩
  | cons b l ih =>
      intro acc
      obtain ⟨j, hj⟩ := hf acc b
      obtain ⟨k, hk⟩ := ih (f acc b)
      exact ⟨j + k, by rw [List.foldl_cons, hk, hj, Shell.withHeredocs_add]⟩

/-- A fold each of whose steps, from a state ready for its item's here-documents, captures
them, captures the here-documents of all its items one after the other, in order. -/
theorem foldl_of_ready {α β : Type} {dir : String}
    (f : Shell × World × Except LineError α → β → Shell × World × Except LineError α)
    (limiters : β → List Word)
    (hf : ∀ sh w a b, Ready sh w dir (limiters b).length →
      ∃ w' a', f (sh, w, .ok a) b = (sh.withHeredocs (limiters b).length, w', .ok a') ∧
        w.Captured ((limiters b).map Word.text) w') :
    ∀ (l : List β) (sh : Shell) (w : World) (a : α),
      Ready sh w dir (l.flatMap limiters).length →
      ∃ w' a', l.foldl f (sh, w, .ok a) =
          (sh.withHeredocs (l.flatMap limiters).length, w', .ok a') ∧
        w.Captured ((l.flatMap limiters).map Word.text) w' := by
  intro l
  induction l with
  | nil => exact fun sh w a h => ⟨w, a, by simp, .of_calm (.refl h.streams)⟩
  | cons b l ih =>
      intro sh w a h
      simp only [List.flatMap_cons, List.length_append, List.map_append] at h ⊢
      obtain ⟨w₁, a₁, hstep, hcap₁⟩ := hf sh w a b (h.mono (by omega))
      obtain ⟨w', a', hfold, hcap⟩ := ih _ w₁ a₁ ((h.skip le_rfl).grows hcap₁.streams hcap₁.grows)
      exact ⟨w', a', by rw [List.foldl_cons, hstep, hfold, Shell.withHeredocs_add],
        hcap₁.trans hcap⟩

/-- A redirection other than a here-document leaves the shell alone, never fails the line, and
opens at most a file, which is calm. -/
theorem applyRedirect_of_not_heredoc (sh : Shell) (w : World) (c : Command) {r : Redirect}
    (operand : Word) (hr : r ≠ .heredoc) :
    ∃ w' c', applyRedirect sh w c r operand = (sh, w', .ok c') ∧ (w.Streams → w.Calm w') := by
  unfold applyRedirect
  split
  · exact absurd rfl hr
  · split
    · exact ⟨w, c, rfl, .refl⟩
    · split
      · exact ⟨w, _, rfl, .refl⟩
      · dsimp only
        split
        · next w' ch hopen => exact ⟨w', _, rfl, fun hw => (World.openPath_calm hw hopen).1⟩
        · exact ⟨w, _, rfl, .refl⟩

/-- A token that is no here-document operand leaves the shell alone and changes the world at
most calmly. -/
theorem addToken_of_not_limiter (sh : Shell) (w : World) (c : Command) {t : Token}
    (ht : t.limiter? = none) :
    ∃ w' c', addToken (sh, w, .ok c) t = (sh, w', .ok c') ∧ (w.Streams → w.Calm w') := by
  cases t with
  | op o k => exact ⟨w, c, rfl, .refl⟩
  | word wd k =>
      cases hr : wd.redirect with
      | none => exact ⟨w, { c with args := c.args ++ wd.fields }, by simp [addToken, hr], .refl⟩
      | some r =>
          have hne : r ≠ .heredoc := by
            rintro rfl
            simp [Token.limiter?, hr] at ht
          obtain ⟨w', c', happ, hcalm⟩ := applyRedirect_of_not_heredoc sh w c wd hne
          exact ⟨w', c', by simp [addToken, hr, happ], hcalm⟩

theorem eq_word_of_limiter {t : Token} {limiter : Word} (ht : t.limiter? = some limiter) :
    ∃ k, t = .word limiter k ∧ limiter.redirect = some .heredoc := by
  cases t with
  | op o k => cases ht
  | word wd k =>
      cases hr : wd.redirect with
      | none => simp [Token.limiter?, hr] at ht
      | some r =>
          cases r <;> simp [Token.limiter?, hr] at ht
          subst ht
          exact ⟨k, rfl, hr⟩

/-- A here-document operand is captured, whether or not its file can be made. -/
theorem addToken_shell_of_limiter (sh : Shell) (w : World) (c : Command) {t : Token}
    {limiter : Word} (ht : t.limiter? = some limiter) :
    (addToken (sh, w, .ok c) t).1 = sh.withHeredocs 1 := by
  obtain ⟨k, rfl, hr⟩ := eq_word_of_limiter ht
  have hshell := captureHeredoc_shell sh w limiter
  rcases hcap : captureHeredoc sh w limiter with ⟨sh', w', e | src⟩
  all_goals
    rw [hcap] at hshell
    simpa [addToken, hr, applyRedirect, hcap] using hshell

/-- A here-document operand whose file can be made captures its body. -/
theorem addToken_of_limiter (sh : Shell) (w : World) (c : Command) {dir : String} {t : Token}
    {limiter : Word} (ht : t.limiter? = some limiter) (h : Ready sh w dir 1) :
    ∃ w' c', addToken (sh, w, .ok c) t = (sh.withHeredocs 1, w', .ok c') ∧
      w.Captured [limiter.text] w' := by
  obtain ⟨k, rfl, hr⟩ := eq_word_of_limiter ht
  obtain ⟨w', src, p, n, m, hcap, hs, hg, hin, -⟩ := captureHeredoc_of_ready limiter h
  exact ⟨w', if c.isFailed then c else { c with input := .opened src },
    by simp [addToken, hr, applyRedirect, hcap], ⟨hs, hg, by rw [hin]; rfl⟩⟩

/-- Each token moves the count on by the here-documents it captures, whatever happens. -/
theorem addToken_shell (acc : Shell × World × Except LineError Command) (t : Token) :
    ∃ k, (addToken acc t).1 = acc.1.withHeredocs k := by
  obtain ⟨sh, w, r⟩ := acc
  cases r with
  | error e => exact ⟨0, by simp [addToken]⟩
  | ok c =>
      cases ht : t.limiter? with
      | none =>
          obtain ⟨w', c', hstep, -⟩ := addToken_of_not_limiter sh w c ht
          exact ⟨0, by simp [hstep]⟩
      | some limiter => exact ⟨1, addToken_shell_of_limiter sh w c ht⟩

/-- A token added from a state ready for its here-document, when it is the operand of one,
captures it; any other token changes the world calmly. -/
theorem addToken_of_ready {dir : String} (sh : Shell) (w : World) (c : Command) (t : Token)
    (h : Ready sh w dir t.limiter?.toList.length) :
    ∃ w' c', addToken (sh, w, .ok c) t = (sh.withHeredocs t.limiter?.toList.length, w', .ok c') ∧
      w.Captured (t.limiter?.toList.map Word.text) w' := by
  cases ht : t.limiter? with
  | none =>
      obtain ⟨w', c', hstep, hcalm⟩ := addToken_of_not_limiter sh w c ht
      rw [ht] at h
      exact ⟨w', c', by simpa using hstep, .of_calm (hcalm h.streams)⟩
  | some limiter =>
      rw [ht] at h
      exact addToken_of_limiter sh w c ht h

theorem heredocLimiters_eq_flatMap (ts : List Token) :
    heredocLimiters ts = ts.flatMap fun t => t.limiter?.toList := by
  induction ts with
  | nil => rfl
  | cons t ts ih => rw [heredocLimiters_cons, List.flatMap_cons, ih]

/-- Building a stage moves the count on by the here-documents it captured, whatever happens. -/
theorem buildStage_shell (sh : Shell) (w : World) (ts : List Token) :
    ∃ k, (buildStage sh w ts).1 = sh.withHeredocs k := by
  obtain ⟨k, hk⟩ := foldl_withHeredocs addToken addToken_shell ts (sh, w, .ok {})
  rcases hfold : ts.foldl addToken (sh, w, .ok {}) with ⟨sh', w', e | c⟩
  all_goals
    rw [hfold] at hk
    exact ⟨k, by simpa [buildStage, hfold] using hk⟩

/-- A stage whose here-document files can all be made is built: its here-documents are
captured in order, and its failed redirections only reported. -/
theorem buildStage_of_ready {dir : String} (sh : Shell) (w : World) (ts : List Token)
    (h : Ready sh w dir (heredocLimiters ts).length) :
    ∃ w' c, buildStage sh w ts = (sh.withHeredocs (heredocLimiters ts).length, w', .ok c) ∧
      w.Captured ((heredocLimiters ts).map Word.text) w' := by
  rw [heredocLimiters_eq_flatMap] at h ⊢
  obtain ⟨w₁, c, hfold, hcap⟩ := foldl_of_ready addToken (fun t => t.limiter?.toList)
    addToken_of_ready ts sh w {} h
  have hreport := World.foldl_report_calm hcap.streams c.errors
  exact ⟨c.errors.foldl World.report w₁, c, by simp [buildStage, hfold],
    by simpa using hcap.trans (.of_calm hreport)⟩

/-- A line with no parenthesis and at most sixteen here-documents is built stage by stage. -/
theorem buildCommands_eq_foldl {sh : Shell} {w : World} {ts : List Token}
    (hparen : ts.any isParen = false)
    (hlimit : (ts.filter isHeredocOperator).length ≤ heredocLimit) :
    buildCommands sh w ts = (stages ts).foldl buildStep (sh, w, .ok []) := by
  rw [buildCommands, if_neg (by simp [hparen]), if_neg (by omega)]
  rfl

theorem buildStep_of_buildStage {sh sh' : Shell} {w w' : World} {stage : List Token}
    {c : Command} (cs : List Command) (h : buildStage sh w stage = (sh', w', .ok c)) :
    buildStep (sh, w, .ok cs) stage = (sh', w', .ok (cs ++ [c])) := by
  simp [buildStep, h]

theorem buildStep_of_ready {dir : String} (sh : Shell) (w : World) (cs : List Command)
    (stage : List Token) (h : Ready sh w dir (heredocLimiters stage).length) :
    ∃ w' cs', buildStep (sh, w, .ok cs) stage =
        (sh.withHeredocs (heredocLimiters stage).length, w', .ok cs') ∧
      w.Captured ((heredocLimiters stage).map Word.text) w' := by
  obtain ⟨w', c, hstage, hcap⟩ := buildStage_of_ready sh w stage h
  exact ⟨w', cs ++ [c], buildStep_of_buildStage cs hstage, hcap⟩

theorem buildStep_shell (acc : Shell × World × Except LineError (List Command))
    (stage : List Token) : ∃ k, (buildStep acc stage).1 = acc.1.withHeredocs k := by
  obtain ⟨sh, w, r⟩ := acc
  cases r with
  | error e => exact ⟨0, by simp [buildStep]⟩
  | ok cs =>
      obtain ⟨k, hk⟩ := buildStage_shell sh w stage
      rcases hstage : buildStage sh w stage with ⟨sh', w', e | c⟩
      all_goals
        rw [hstage] at hk
        exact ⟨k, by simpa [buildStep, hstage] using hk⟩

/-- Building a line's commands moves the count on by the here-documents it captured, whatever
happens. -/
theorem buildCommands_shell (sh : Shell) (w : World) (ts : List Token) :
    ∃ k, (buildCommands sh w ts).1 = sh.withHeredocs k := by
  by_cases hparen : ts.any isParen = true
  · exact ⟨0, by simp [buildCommands, hparen]⟩
  by_cases hlimit : (ts.filter isHeredocOperator).length > heredocLimit
  · exact ⟨0, by simp [buildCommands, hparen, hlimit]⟩
  rw [buildCommands_eq_foldl (by simpa using hparen) (by omega)]
  exact foldl_withHeredocs buildStep buildStep_shell _ _

/-- Building a line that passes the parenthesis and here-document checks, when all its
here-document files can be made, captures their bodies one after the other in the order they
stand, through all its stages. -/
theorem buildCommands_of_ready {dir : String} (sh : Shell) (w : World) (ts : List Token)
    (hparen : ts.any isParen = false)
    (hlimit : (ts.filter isHeredocOperator).length ≤ heredocLimit)
    (h : Ready sh w dir (heredocLimiters ts).length) :
    ∃ w' cs, buildCommands sh w ts = (sh.withHeredocs (heredocLimiters ts).length, w', .ok cs) ∧
      w.Captured ((heredocLimiters ts).map Word.text) w' := by
  rw [buildCommands_eq_foldl hparen hlimit, ← heredocLimiters_stages]
  rw [← heredocLimiters_stages] at h
  -- each stage captures its own here-documents, from what the stage before left
  exact foldl_of_ready buildStep heredocLimiters buildStep_of_ready (stages ts) sh w [] h

/-! ## Running a line -/

/-- `sh'` is `sh` with at most its variables, its working directory and its history
changed. -/
def Shell.Configured (sh sh' : Shell) : Prop :=
  ∃ env cwd history, sh' = { sh with env, cwd, history }

namespace Shell.Configured

variable {sh sh' sh'' : Shell}

theorem refl (sh : Shell) : sh.Configured sh := ⟨sh.env, sh.cwd, sh.history, rfl⟩

theorem trans (h : sh.Configured sh') (h' : sh'.Configured sh'') : sh.Configured sh'' := by
  obtain ⟨env, cwd, history, rfl⟩ := h
  obtain ⟨env', cwd', history', rfl⟩ := h'
  exact ⟨env', cwd', history', rfl⟩

theorem heredocCount_eq (h : sh.Configured sh') : sh'.heredocCount = sh.heredocCount := by
  obtain ⟨env, cwd, history, rfl⟩ := h
  rfl

theorem heredocFiles_eq (h : sh.Configured sh') : sh'.heredocFiles = sh.heredocFiles := by
  obtain ⟨env, cwd, history, rfl⟩ := h
  rfl

end Shell.Configured

/-- Changing the working directory changes only the variables and the working directory. -/
theorem Shell.setWorkingDir_eq_ok {sh sh' : Shell} {fs : Fs} {target : String}
    (h : sh.setWorkingDir fs target = .ok sh') : ∃ env cwd, sh' = { sh with env, cwd } := by
  unfold Shell.setWorkingDir at h
  dsimp only at h
  cases hs : fs.stat (sh.physicalCwd fs) (Octets.ofText (sh.absolutePath target)) with
  | error e => simp [hs] at h
  | ok entry =>
      simp only [hs] at h
      split at h
      · cases h
      · -- past the checks only the variables and the working directory are set
        split at h
        · cases h
        · cases h
          exact ⟨_, _, rfl⟩

theorem Shell.setWorkingDir_configured {sh sh' : Shell} {fs : Fs} {target : String}
    (h : sh.setWorkingDir fs target = .ok sh') : sh.Configured sh' := by
  obtain ⟨env, cwd, rfl⟩ := Shell.setWorkingDir_eq_ok h
  exact ⟨env, cwd, sh.history, rfl⟩

namespace Builtin

theorem foldl_exportOne_configured (name : String) (decls : List String) (acc : Shell × Reply) :
    acc.1.Configured (decls.foldl (exportOne name) acc).1 := by
  induction decls generalizing acc with
  | nil => exact .refl _
  | cons d rest ih =>
      refine Shell.Configured.trans ?_ (ih _)
      obtain ⟨sh, r⟩ := acc
      unfold exportOne
      dsimp only
      split
      all_goals
        split
        · exact .refl sh
        · exact ⟨_, sh.cwd, sh.history, rfl⟩

theorem foldl_unsetOne_configured (name : String) (names : List String) (acc : Shell × Reply) :
    acc.1.Configured (names.foldl (unsetOne name) acc).1 := by
  induction names generalizing acc with
  | nil => exact .refl _
  | cons n rest ih =>
      refine Shell.Configured.trans ?_ (ih _)
      obtain ⟨sh, r⟩ := acc
      unfold unsetOne
      dsimp only
      split
      · exact .refl sh
      · exact ⟨_, sh.cwd, sh.history, rfl⟩

theorem withOptions_configured {spec : Options.Spec} {sh : Shell} {args : List String}
    {k : Options.Parsed → Shell × Reply} (hk : ∀ p, sh.Configured (k p).1) :
    sh.Configured (withOptions spec sh args k).1 := by
  unfold withOptions
  split
  · exact .refl sh
  · exact hk _

/-- A built-in command changes at most the variables, the working directory and the
history. -/
theorem run_configured (sh : Shell) (fs : Fs) (args : List String) :
    sh.Configured (run sh fs args).1 := by
  unfold run
  dsimp only
  split
  · -- cd
    refine withOptions_configured fun p => ?_
    unfold cdCommand
    split
    · exact .refl sh
    · dsimp only
      split
      · exact .refl sh
      · split
        · exact .refl sh
        · next sh' hcd => exact Shell.setWorkingDir_configured hcd
  · -- pwd
    refine withOptions_configured fun p => ?_
    unfold pwdCommand
    split
    · split <;> exact .refl sh
    · exact .refl sh
  · -- export
    refine withOptions_configured fun p => ?_
    unfold exportCommand
    split
    · exact .refl sh
    · exact foldl_exportOne_configured _ _ _
  · -- unset
    exact withOptions_configured fun p => foldl_unsetOne_configured _ _ _
  · -- history
    refine withOptions_configured fun p => ?_
    unfold historyCommand
    split
    · exact ⟨sh.env, sh.cwd, _, rfl⟩
    · exact .refl sh
  · -- env
    unfold envCommand
    split <;> exact .refl sh
  · -- exit
    unfold exitCommand
    split
    · exact .refl sh
    · split
      · exact .refl sh
      · split <;> exact .refl sh
  · exact .refl sh
  · exact .refl sh

end Builtin

/-- Running a pipeline changes at most the shell's variables, working directory and history. -/
theorem executePipeline_configured (sh : Shell) (w : World) (cs : List Command) :
    sh.Configured (executePipeline sh w cs).1 := by
  unfold executePipeline
  split
  · split
    · split
      · split
        · exact .refl sh
        · dsimp only
          split
          · exact Builtin.run_configured _ _ _
          · exact Builtin.run_configured _ _ _
      · exact .refl sh
    · exact .refl sh
  · exact .refl sh

/-- Running a line moves the count on by the here-documents it captured and registers their
names, whatever happens; beyond that it changes at most the shell's variables, working
directory and history. -/
theorem runLine_shell (sh : Shell) (w : World) (line : String) :
    ∃ k, (sh.withHeredocs k).Configured (runLine sh w line).1 := by
  unfold runLine
  split
  · exact ⟨0, by simpa using .refl sh⟩
  · split
    · exact ⟨0, by simpa using .refl sh⟩
    · exact ⟨0, by simpa using .refl sh⟩
    · next tokens _ _ =>
        obtain ⟨k, hk⟩ := buildCommands_shell sh w (sh.scope.expandTokens tokens)
        rcases hb : buildCommands sh w (sh.scope.expandTokens tokens) with ⟨sh₁, w₁, e | cs⟩
        all_goals
          rw [hb] at hk
          dsimp only at hk
          subst hk
          dsimp only
          rw [hb]
        · exact ⟨k, .refl _⟩
        · exact ⟨k, executePipeline_configured _ _ _⟩

/-! ## Removing the files -/

/-- What removing one here-document file does to the file system: the entry its name leads to
goes, unless it is a directory. -/
theorem fs_removeHeredocFile (w : World) (p : String) :
    (removeHeredocFile w p).fs =
      match w.fs.entryPath "/" p with
      | .ok q =>
          match w.fs.find q with
          | some e => if e.node.isDirectory then w.fs else w.fs.erase q
          | none => w.fs
      | .error _ => w.fs := by
  unfold removeHeredocFile
  rcases hq : w.fs.entryPath "/" p with e | q
  · by_cases hn : e = .noEntry <;> simp [hn]
  · rcases he : w.fs.find q with _ | e
    · simp [he]
    · by_cases hd : e.node.isDirectory <;> simp [he, hd]

@[simp] theorem input_removeHeredocFile (w : World) (p : String) :
    (removeHeredocFile w p).input = w.input := by
  unfold removeHeredocFile
  split
  · split
    · split
      · simp
      · rfl
    · rfl
  · split <;> simp

theorem removeHeredocFile_sub (w : World) (p : String) : (removeHeredocFile w p).fs.Sub w.fs := by
  rw [fs_removeHeredocFile]
  split
  · split
    · split
      · exact fun _ _ h => h
      · exact Fs.sub_erase _ _
    · exact fun _ _ h => h
  · exact fun _ _ h => h

/-- After removing a here-document file its name leads to nothing but a directory. -/
theorem removeHeredocFile_gone (w : World) (p : String) : (removeHeredocFile w p).fs.Gone p := by
  rw [fs_removeHeredocFile]
  split
  · next q hq =>
      split
      · next e he =>
          split
          · next hdir =>
              intro q' e' hq' he'
              rw [hq] at hq'
              cases hq'
              rw [he] at he'
              cases he'
              exact hdir
          · -- the entry goes: what the name leads to now, it led to before
            intro q' e' hq' he'
            have hbefore := (Fs.sub_erase w.fs q).keeps.entryPath hq'
            rw [hq] at hbefore
            cases hbefore
            rw [Fs.find_erase_self] at he'
            cases he'
      · next he =>
          intro q' e' hq' he'
          rw [hq] at hq'
          cases hq'
          rw [he] at he'
          cases he'
  · next err he =>
      intro q' e' hq' _
      rw [he] at hq'
      cases hq'

/-- Removing files one after another only takes entries away, leaves each name gone, and does
not touch the input. -/
theorem foldl_removeHeredocFile (files : List String) (w : World) :
    (files.foldl removeHeredocFile w).fs.Sub w.fs ∧
      (∀ p ∈ files, (files.foldl removeHeredocFile w).fs.Gone p) ∧
      (files.foldl removeHeredocFile w).input = w.input := by
  induction files generalizing w with
  | nil => exact ⟨fun _ _ h => h, by simp, rfl⟩
  | cons p rest ih =>
      obtain ⟨hsub, hgone, hin⟩ := ih (removeHeredocFile w p)
      refine ⟨fun q e h => removeHeredocFile_sub w p q e (hsub q e h), fun p' hp' => ?_, ?_⟩
      · rcases List.mem_cons.1 hp' with rfl | hmem
        · exact (removeHeredocFile_gone w p').sub hsub
        · exact hgone p' hmem
      · rw [List.foldl_cons, hin, input_removeHeredocFile]

/-! ## Lines -/

theorem Scope.expandToken_word_eq (sc : Scope) (w : Word) (n : Nat) :
    ∃ w', sc.expandToken (.word w n) = .word w' n := by
  cases hr : w.redirect with
  | none => exact ⟨sc.expandWord w, by simp [Scope.expandToken, hr]⟩
  | some r =>
      cases r
      case heredoc => exact ⟨w, by simp [Scope.expandToken, hr]⟩
      all_goals exact ⟨Scope.resolveOperand (sc.expandWord w), by simp [Scope.expandToken, hr]⟩

/-- Expansion keeps a line's operators, in order: whatever picks only operators picks the same
tokens before and after it. -/
theorem filter_expandTokens_of_words (sc : Scope) {p : Token → Bool}
    (hp : ∀ w n, p (.word w n) = false) (ts : List Token) :
    (sc.expandTokens ts).filter p = ts.filter p := by
  rw [Scope.expandTokens_eq]
  induction ts with
  | nil => rfl
  | cons t ts ih =>
      cases t with
      | op o n => simp [List.filter_cons, Scope.survives, Scope.expandToken, ih]
      | word w n =>
          obtain ⟨w', hw'⟩ := sc.expandToken_word_eq w n
          by_cases hs : sc.survives (.word w n) = true <;>
            simp [hs, hw', hp, ih]

theorem any_expandTokens_isParen (sc : Scope) (ts : List Token) :
    (sc.expandTokens ts).any isParen = ts.any isParen := by
  have hfilter := filter_expandTokens_of_words sc
    (fun w n => (by simp [isParen, Token.operator?] : isParen (.word w n) = false)) ts
  rw [Bool.eq_iff_iff, ← Bool.not_eq_false, ← Bool.not_eq_false (ts.any isParen),
    List.any_eq_false, List.any_eq_false, ← List.filter_eq_nil_iff, ← List.filter_eq_nil_iff,
    hfilter]

/-- Processing a line that is not blank takes the next `k` numbers of the count for its
here-documents and registers exactly their names; before it returns, however the line ended,
it removes them all: none is left registered, and none leads to anything but a directory. -/
theorem processLine_heredoc_names (sh : Shell) (w : World) (line : String)
    (hblank : Text.isBlankText line = false) :
    ∃ k, (processLine sh w line).1.heredocCount = sh.heredocCount + k ∧
      (processLine sh w line).1.heredocFiles = [] ∧
      ∀ p ∈ (sh.withHeredocs k).heredocFiles, (processLine sh w line).2.1.fs.Gone p := by
  rw [processLine_of_not_blank hblank]
  obtain ⟨k, hk⟩ := runLine_shell { sh with history := sh.history.add line } w line
  refine ⟨k, ?_, rfl, fun p hp => ?_⟩
  · simp only [removeHeredocs]
    rw [hk.heredocCount_eq]
    rfl
  · simp only [removeHeredocs]
    exact (foldl_removeHeredocFile _ _).2.1 p (by rw [hk.heredocFiles_eq]; exact hp)

/-- A line that is not blank, passes the grammar check and scans, with no parenthesis and at
most sixteen here-documents, and whose here-document files can all be made, is built with its
here-documents captured one after the other in the order their limiters stand, each taking its
body from the input the one before it left; then its pipeline runs, and what the pipeline
leaves of the input is what the shell reads next.  The count moves on by one for each
here-document. -/
theorem processLine_of_ready {sh : Shell} {w : World} {line : String} {ts : List Token}
    {dir : String} (hblank : Text.isBlankText line = false)
    (hcheck : Syntax.check line = .ok ()) (hts : Syntax.tokenize line = .ok ts)
    (hparen : ts.any isParen = false)
    (hlimit : (ts.filter isHeredocOperator).length ≤ heredocLimit)
    (h : Ready sh w dir (heredocLimiters ts).length) :
    ∃ w₁ cs,
      buildCommands { sh with history := sh.history.add line } w (sh.scope.expandTokens ts) =
        ({ sh with history := sh.history.add line }.withHeredocs (heredocLimiters ts).length,
          w₁, .ok cs) ∧
      w.Captured ((heredocLimiters ts).map Word.text) w₁ ∧
      (processLine sh w line).2.1.input =
        (executePipeline ({ sh with history := sh.history.add line }.withHeredocs
          (heredocLimiters ts).length) w₁ cs).2.1.input ∧
      (processLine sh w line).1.heredocCount = sh.heredocCount + (heredocLimiters ts).length := by
  obtain ⟨ts', hts', hne⟩ := tokens_of_check hblank hcheck
  rw [hts] at hts'
  cases hts'
  have hparen' : (sh.scope.expandTokens ts).any isParen = false := by
    rw [any_expandTokens_isParen, hparen]
  have hlimit' : ((sh.scope.expandTokens ts).filter isHeredocOperator).length ≤ heredocLimit := by
    rw [filter_expandTokens_of_words sh.scope
      (fun w n => (by simp [isHeredocOperator, Token.operator?] :
        isHeredocOperator (.word w n) = false))]
    exact hlimit
  have hready : Ready { sh with history := sh.history.add line } w dir
      (heredocLimiters (sh.scope.expandTokens ts)).length := by
    rw [heredocLimiters_expandTokens]
    exact ⟨h.streams, h.cwd, h.spots, h.uninterrupted⟩
  obtain ⟨w₁, cs, hb, hcap⟩ := buildCommands_of_ready _ w _ hparen' hlimit' hready
  rw [heredocLimiters_expandTokens] at hb hcap
  refine ⟨w₁, cs, hb, hcap, ?_⟩
  rw [processLine_of_not_blank hblank]
  dsimp only
  rw [runLine_of_built hcheck hts hne hb]
  refine ⟨(foldl_removeHeredocFile _ _).2.2, ?_⟩
  simp only [removeHeredocs]
  rw [(executePipeline_configured _ _ _).heredocCount_eq]
  rfl

theorem heredocCount_le_processLine (sh : Shell) (w : World) (line : String) :
    sh.heredocCount ≤ (processLine sh w line).1.heredocCount := by
  cases hblank : Text.isBlankText line with
  | true => simp [processLine, hblank]
  | false =>
      obtain ⟨k, hk, -⟩ := processLine_heredoc_names sh w line hblank
      omega

/-- Over a whole session the count of here-document files never moves back, so the numbers a
line takes for its files were taken by no line before it. -/
theorem heredocCount_le_readLoop (fuel : Nat) (sh : Shell) (w : World) :
    sh.heredocCount ≤ (readLoop fuel sh w).1.heredocCount := by
  -- each line read moves the count on or leaves it, and the loop goes on from there
  fun_induction readLoop fuel sh w with
  | case1 => exact Nat.le_refl _
  | case2 _ sh _ line w₁ _ _ _ _ hline =>
      simpa [hline] using heredocCount_le_processLine sh w₁ line
  | case3 _ sh _ line w₁ _ _ _ _ hline _ ih =>
      exact Nat.le_trans (by simpa [hline] using heredocCount_le_processLine sh w₁ line) ih
  | case4 sh _ line w₁ _ _ _ _ hline _ =>
      simpa [hline] using heredocCount_le_processLine sh w₁ line
  | case5 sh _ line w₁ _ _ _ _ hline _ _ ih =>
      exact Nat.le_trans (by simpa [hline] using heredocCount_le_processLine sh w₁ line) ih

/-! ## The shell's input and its here-documents -/

/-- Here-documents and the read loop share the shell's input, line by line.  The loop takes
exactly the next line and leaves the rest.  A here-document whose file can be made takes the
lines after it up to and including the first one that is exactly its limiter, or to the end of
the input, and nothing more; its file, at the next `.heredoc_N` name, holds those lines but the
limiter, each expanded unless the limiter was quoted and each ended by a newline, and the
command reads that file.  On a line that passes the checks and whose files can all be made,
the here-documents are captured in the order their limiters stand, each from what the one
before it left, and the loop goes on with what the line's pipeline leaves of the input.  Every
line takes the next numbers of the count for its files, a count that never moves back over a
session, and removes every name it registered before it returns, however it ended. -/
theorem heredocs_share_input_in_order :
    (∀ w : World, w.Streams →
      w.nextLine = (takeLine w.input).map fun p =>
        (Octets.toText p.1, w.setPipe 0 (String.ofList p.2))) ∧
    (∀ (sh : Shell) (w : World) (dir : String) (limiter : Word), Ready sh w dir 1 →
      ∃ w' src p n m, captureHeredoc sh w limiter = (sh.withHeredocs 1, w', .ok src) ∧
        w'.Streams ∧ w.fs.Grows w'.fs ∧ w'.input = Input.afterBody limiter.text w.input ∧
        w'.fs.resolve dir (heredocPath sh.cwd sh.heredocCount) = .ok p ∧
        w'.fs.find p = some ⟨.file n, m⟩ ∧
        w'.fs.contentOf n = Octets.ofText (Input.bodyText
          (if limiter.isQuoted then id else sh.scope.expandLine)
          (Input.bodyLines limiter.text w.input)) ∧
        w'.channel? src = some ⟨.file n 0 false, true, false⟩) ∧
    (∀ (sh : Shell) (w : World) (line : String) (ts : List Token) (dir : String),
      Text.isBlankText line = false → Syntax.check line = .ok () →
      Syntax.tokenize line = .ok ts → ts.any isParen = false →
      (ts.filter isHeredocOperator).length ≤ heredocLimit →
      Ready sh w dir (heredocLimiters ts).length →
      ∃ w₁ cs,
        buildCommands { sh with history := sh.history.add line } w (sh.scope.expandTokens ts) =
          ({ sh with history := sh.history.add line }.withHeredocs (heredocLimiters ts).length,
            w₁, .ok cs) ∧
        w.Captured ((heredocLimiters ts).map Word.text) w₁ ∧
        (processLine sh w line).2.1.input =
          (executePipeline ({ sh with history := sh.history.add line }.withHeredocs
            (heredocLimiters ts).length) w₁ cs).2.1.input ∧
        (processLine sh w line).1.heredocCount = sh.heredocCount + (heredocLimiters ts).length) ∧
    (∀ (sh : Shell) (w : World) (line : String), Text.isBlankText line = false →
      ∃ k, (processLine sh w line).1.heredocCount = sh.heredocCount + k ∧
        (processLine sh w line).1.heredocFiles = [] ∧
        ∀ p ∈ (sh.withHeredocs k).heredocFiles, (processLine sh w line).2.1.fs.Gone p) ∧
    (∀ (fuel : Nat) (sh : Shell) (w : World),
      sh.heredocCount ≤ (readLoop fuel sh w).1.heredocCount) :=
  ⟨fun _ hw => World.nextLine_eq hw,
    fun _ _ _ limiter h => captureHeredoc_of_ready limiter h,
    fun _ _ _ _ _ hblank hcheck hts hparen hlimit h =>
      processLine_of_ready hblank hcheck hts hparen hlimit h,
    processLine_heredoc_names,
    heredocCount_le_readLoop⟩

end Conch
