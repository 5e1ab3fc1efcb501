import Conch.Proofs.Reading

/-!
# The grammar check recognizes the token grammar

The check reads the characters of a line and the scanner turns them into tokens; the two
agree on every line.  Each function of the check reads one phrase of the grammar off the
view of its input (`reads_pipeline`, `reads_command`, ...), and it reads the phrase whenever
the view starts with one that is followed by what may follow it in a line
(`pipeline_complete`, `stage_complete`, ...).  So the check accepts a line exactly when the
view of the line is a line of the grammar (`line_eq_ok_iff`), and with `tokens_line_iff`
exactly when the line scans, no word holds a stray special character, and the kinds of its
tokens form a line of the grammar.

Where the check stops at a quotation that the line never closes, the scanner fails too, at
the offset of the word that holds the quotation, and that word spans the offset the check
reports.

Main statement: `check_iff_token_grammar`.
-/

set_option autoImplicit false

namespace Conch.Syntax

open Grammar

/-! ## What a run of the check says -/

/-- What a run of the check from `cs` that ended in `res` says, for a relation `N` between
the input and a rest: a run that reads to a rest `r` stops at the end of a lexeme, with
`N cs r`; a run that stops at a quotation stops at one that the line never closes. -/
def Reads (N : List Char → List Char → Prop) (cs : List Char) :
    Except Stop (List Char) → Prop
  | .ok r => Reaches cs r ∧ N cs r
  | .error (.unclosed _ r) => Reaches cs r ∧ StartsUnclosed r
  | .error (.unexpected _) => True

namespace Reads

variable {N N₁ N₂ : List Char → List Char → Prop} {cs a : List Char}

theorem rebase {x : Except Stop (List Char)} (h : Reads N₁ a x) (ha : Reaches cs a)
    (hN : ∀ r, N₁ a r → N cs r) : Reads N cs x := by
  rcases x with (e | ⟨q, r⟩) | r
  · trivial
  · exact ⟨ha.trans h.1, h.2⟩
  · exact ⟨ha.trans h.1, hN r h.2⟩

/-- A run from a rest `a` of `cs` followed by a run from where it ended reads both phrases
one after the other. -/
theorem bind {x : Except Stop (List Char)} {f : List Char → Except Stop (List Char)}
    (hx : Reads N₁ a x) (ha : Reaches cs a)
    (hf : ∀ r, Reaches a r → N₁ a r → Reads N₂ r (f r))
    (hN : ∀ r s, N₁ a r → N₂ r s → N cs s) : Reads N cs (x >>= f) := by
  rcases x with (e | ⟨q, r⟩) | r
  · trivial
  · exact ⟨ha.trans hx.1, hx.2⟩
  · obtain ⟨hr, h₁⟩ := hx
    exact (hf r hr h₁).rebase (ha.trans hr) fun s h₂ => hN r s h₁ h₂

end Reads

/-! ## Soundness: each run reads a phrase of the grammar -/

theorem reads_word {cs s : List Char} (hs : (skipBlanks cs).1 = s) :
    Reads (fun a b => view a = .word :: view b) cs ((word s).map Subtype.val) := by
  subst hs
  rcases word_cases cs with ⟨r, hw, hr, hv⟩ | ⟨q, r, hw, hr, ho, -⟩ | ⟨⟨e, hw⟩, -⟩ <;>
    rw [hw]
  · exact ⟨hr, hv⟩
  · exact ⟨hr, ho⟩
  · trivial

theorem reads_redirection {cs s : List Char} (hs : (skipBlanks cs).1 = s)
    (hr : startsRedirection s) :
    Reads (fun a b => Redir (view a) (view b)) cs ((redirection s).map Subtype.val) := by
  obtain ⟨k, a, hop⟩ := startsRedirection_iff.1 hr
  obtain ⟨hreach, hview⟩ := skipBlanks_reads cs
  rw [hs] at hreach hview
  obtain ⟨ha, hva⟩ := view_of_operatorAt hop
  rw [redirection_val, skipRedirectOperator_of_operatorAt hop]
  refine (reads_word rfl).rebase (hreach.trans ha) fun b hb => ?_
  show Redir (view cs) (view b)
  rw [← hview, hva, hb]
  exact .mk

/-- A run of `simpleItems seen` reads items, at least one where none was seen before. -/
theorem reads_simpleItems (seen : Nat) (cs : List Char) :
    Reads (fun a b => Items (view a) (view b) ∧
        (seen = 0 → ∃ mid, Item (view a) mid ∧ Items mid (view b))) cs
      ((simpleItems seen cs).map Subtype.val) := by
  obtain ⟨hreach, hview⟩ := skipBlanks_reads cs
  rw [simpleItems_val]
  generalize hs : (skipBlanks cs).1 = s at hreach hview ⊢
  rcases s with _ | ⟨c, r⟩
  · -- only blanks are left
    by_cases h0 : seen = 0
    · rw [if_pos h0]
      trivial
    · rw [if_neg h0]
      refine ⟨hreach, ?_, fun h => absurd h h0⟩
      rw [← hview]
      exact .nil
  · dsimp only
    by_cases hr : startsRedirection (c :: r)
    · rw [if_pos hr]
      refine (reads_redirection hs hr).bind .refl
        (fun r₁ _ hN => reads_simpleItems (seen + 1) r₁) ?_
      rintro r₁ r₂ h₁ ⟨h₂, -⟩
      exact ⟨.cons (.redir h₁) h₂, fun _ => ⟨_, .redir h₁, h₂⟩⟩
    · rw [if_neg hr]
      by_cases hc : startsPiece c
      · rw [if_pos hc]
        refine (reads_word hs).bind .refl
          (fun r₁ _ hN => reads_simpleItems (seen + 1) r₁) ?_
        rintro r₁ r₂ h₁ ⟨h₂, -⟩
        rw [h₁]
        exact ⟨.cons .word h₂, fun _ => ⟨_, .word, h₂⟩⟩
      · rw [if_neg hc]
        by_cases h0 : seen = 0
        · rw [if_pos h0]
          trivial
        · rw [if_neg h0]
          refine ⟨hreach, ?_, fun h => absurd h h0⟩
          rw [← hview]
          exact .nil
termination_by (view cs).length
decreasing_by
  · exact Redir.length_lt hN
  · have h := congrArg List.length (show view cs = .word :: view r₁ from hN)
    simp only [List.length_cons] at h
    omega

theorem reads_groupRedirections (cs : List Char) :
    Reads (fun a b => Redirs (view a) (view b)) cs ((groupRedirections cs).map Subtype.val) := by
  obtain ⟨hreach, hview⟩ := skipBlanks_reads cs
  rw [groupRedirections_val]
  by_cases hr : startsRedirection (skipBlanks cs).1
  · rw [if_pos hr]
    refine (reads_redirection rfl hr).bind .refl
      (fun r₁ _ hN => reads_groupRedirections r₁) ?_
    intro r₁ r₂ h₁ h₂
    exact .cons h₁ h₂
  · rw [if_neg hr]
    refine ⟨hreach, ?_⟩
    show Redirs (view cs) (view (skipBlanks cs).1)
    rw [hview]
    exact .nil
termination_by (view cs).length
decreasing_by exact Redir.length_lt hN

/-- Reading the end of a parenthesised pipeline: its closing parenthesis and the
redirections after it. -/
theorem reads_groupEnd (r : List Char) :
    Reads (fun a b => ∃ mid, view a = .op .closeGroup :: mid ∧ Redirs mid (view b)) r
      (match afterChar ')' (skipBlanks r).1 with
        | some after => (groupRedirections after).map Subtype.val
        | none => .error (.unexpected (skipBlanks r).1)) := by
  obtain ⟨hreach, hview⟩ := skipBlanks_reads r
  rcases hc : afterChar ')' (skipBlanks r).1 with _ | after
  · trivial
  · obtain ⟨ha, hva⟩ :=
      view_of_operatorAt (operatorAt_eq_closeGroup_iff.2 (afterChar_eq_some_iff.1 hc))
    refine (reads_groupRedirections after).rebase (hreach.trans ha) fun b hb => ?_
    exact ⟨view after, by rw [← hview, hva], hb⟩

mutual

theorem reads_pipeline (cs : List Char) :
    Reads (fun a b => Pipeline (view a) (view b)) cs ((pipeline cs).map Subtype.val) := by
  rw [pipeline_val]
  refine (reads_command cs).bind .refl (fun r hr _ => reads_pipelineTail r) ?_
  intro r s h₁ h₂
  exact .mk h₁ h₂
termination_by (cs.length, 2)
decreasing_by
  · exact Prod.Lex.right _ (by omega)
  · rcases Nat.lt_or_eq_of_le hr.length_le with hlt | heq
    · exact Prod.Lex.left _ _ hlt
    · rw [heq]
      exact Prod.Lex.right _ (by omega)

theorem reads_pipelineTail (cs : List Char) :
    Reads (fun a b => Stages (view a) (view b)) cs ((pipelineTail cs).map Subtype.val) := by
  obtain ⟨hreach, hview⟩ := skipBlanks_reads cs
  rw [pipelineTail_val]
  rcases hb : afterBar (skipBlanks cs).1 with _ | after
  · refine ⟨hreach, ?_⟩
    show Stages (view cs) (view (skipBlanks cs).1)
    rw [hview]
    exact .nil
  · -- a bar, and the stage after it
    obtain ⟨ha, hva⟩ := view_of_operatorAt (afterBar_eq_some_iff.1 hb)
    have hlt : after.length < cs.length :=
      Nat.lt_of_lt_of_le (length_of_afterBar hb) (skipBlanks cs).2
    refine (reads_command after).bind (hreach.trans ha)
      (fun r hr _ => reads_pipelineTail r) ?_
    intro r s h₁ h₂
    show Stages (view cs) (view s)
    rw [← hview, hva]
    exact .cons h₁ h₂
termination_by (cs.length, 0)
decreasing_by
  · exact Prod.Lex.left _ _ hlt
  · exact Prod.Lex.left _ _ (Nat.lt_of_le_of_lt hr.length_le hlt)

theorem reads_command (cs : List Char) :
    Reads (fun a b => Stage (view a) (view b)) cs ((command cs).map Subtype.val) := by
  obtain ⟨hreach, hview⟩ := skipBlanks_reads cs
  rw [command_val]
  rcases ho : afterChar '(' (skipBlanks cs).1 with _ | inner
  · -- a simple command
    refine (reads_simpleItems 0 (skipBlanks cs).1).rebase hreach fun b ⟨_, hfirst⟩ => ?_
    obtain ⟨mid, hi, his⟩ := hfirst rfl
    show Stage (view cs) (view b)
    rw [← hview]
    exact .simple hi his
  · -- a parenthesised pipeline and the redirections after it
    obtain ⟨ha, hva⟩ :=
      view_of_operatorAt (operatorAt_eq_openGroup_iff.2 (afterChar_eq_some_iff.1 ho))
    have hlt : inner.length < cs.length :=
      Nat.lt_of_lt_of_le (length_of_afterChar ho) (skipBlanks cs).2
    refine (reads_pipeline inner).bind (hreach.trans ha) (fun r _ _ => reads_groupEnd r) ?_
    rintro r s hp ⟨mid, hmid, hredirs⟩
    show Stage (view cs) (view s)
    rw [← hview, hva]
    rw [hmid] at hp
    exact .group hp hredirs
termination_by (cs.length, 1)
decreasing_by exact Prod.Lex.left _ _ hlt

end

/-- A line the check accepts is a line of the grammar. -/
theorem line_view_of_ok {cs : List Char} (h : line cs = .ok ()) : Line (view cs) := by
  obtain ⟨-, hview⟩ := skipBlanks_reads cs
  rw [line_val] at h
  by_cases he : (skipBlanks cs).1 = []
  · left
    rw [← hview, he, view_nil]
  · rw [if_neg he] at h
    have hp := reads_pipeline (skipBlanks cs).1
    rcases hx : (pipeline (skipBlanks cs).1).map Subtype.val with e | r
    · rw [hx] at h
      cases h
    · rw [hx] at h hp
      have h' : (if (skipBlanks r).1 = [] then Except.ok ()
          else Except.error (Stop.unexpected (skipBlanks r).1)) = Except.ok () := h
      have he' : (skipBlanks r).1 = [] := by
        by_contra hne
        rw [if_neg hne] at h'
        cases h'
      right
      rw [← hview, ← view_nil, ← he', (skipBlanks_reads r).2]
      exact hp.2

/-- Where the check stops at a quotation, the line never closes it there, and that rest is
what a run of lexemes leaves of the line. -/
theorem line_unclosed {cs r : List Char} {q : Char} (h : line cs = .error (.unclosed q r)) :
    Reaches cs r ∧ StartsUnclosed r := by
  obtain ⟨hreach, -⟩ := skipBlanks_reads cs
  rw [line_val] at h
  by_cases he : (skipBlanks cs).1 = []
  · rw [if_pos he] at h
    cases h
  · rw [if_neg he] at h
    have hp := reads_pipeline (skipBlanks cs).1
    rcases hx : (pipeline (skipBlanks cs).1).map Subtype.val with e | r₁
    · rw [hx] at h hp
      cases h
      exact ⟨hreach.trans hp.1, hp.2⟩
    · rw [hx] at h
      have h' : (if (skipBlanks r₁).1 = [] then Except.ok ()
          else Except.error (Stop.unexpected (skipBlanks r₁).1)) =
            (Except.error (Stop.unclosed q r) : Except Stop Unit) := h
      split at h' <;> cases h'

/-! ## Completeness: each phrase of the grammar is read -/

/-- What may follow a stage in a line: nothing, a bar or a closing parenthesis. -/
def StageEnd (K : List Kind) : Prop :=
  K = [] ∨ K.head? = some (.op .pipe) ∨ K.head? = some (.op .closeGroup)

/-- What may follow a pipeline in a line: nothing or a closing parenthesis. -/
def PipelineEnd (K : List Kind) : Prop := K = [] ∨ K.head? = some (.op .closeGroup)

theorem Grammar.Stages.stageEnd {ks K : List Kind} (h : Stages ks K) (hK : PipelineEnd K) :
    StageEnd ks := by
  cases h with
  | nil =>
    rcases hK with hK | hK
    · exact .inl hK
    · exact .inr (.inr hK)
  | cons _ _ => exact .inr (.inl rfl)

theorem redirection_complete {cs : List Char} {k : Redirect} {K : List Kind}
    (h : view cs = .op (.redirect k) :: .word :: K) :
    startsRedirection (skipBlanks cs).1 ∧
      ∃ r, (redirection (skipBlanks cs).1).map Subtype.val = .ok r ∧ view r = K := by
  obtain ⟨a, hop, hva⟩ := operatorAt_of_view h
  refine ⟨startsRedirection_iff.2 ⟨k, a, hop⟩, ?_⟩
  rw [redirection_val, skipRedirectOperator_of_operatorAt hop]
  exact word_complete hva

/-- Where the view starts with an item, `simpleItems` reads it and goes on after it. -/
theorem item_complete {cs : List Char} {mid : List Kind} (h : Item (view cs) mid)
    (seen : Nat) :
    ∃ r, view r = mid ∧
      (simpleItems seen cs).map Subtype.val = (simpleItems (seen + 1) r).map Subtype.val := by
  rw [simpleItems_val]
  generalize hv : view cs = ks at h
  cases h with
  | word =>
    obtain ⟨r, hw, hvr⟩ := word_complete hv
    rcases hs : (skipBlanks cs).1 with _ | ⟨c, r₀⟩
    · rw [hs, word_nil] at hw
      cases hw
    rw [hs] at hw
    have hc : startsPiece c = true := by
      cases hc : startsPiece c
      · rw [word_cons, if_neg (by simp [hc])] at hw
        cases hw
      · rfl
    have hr : startsRedirection (c :: r₀) = false := by
      cases hr : startsRedirection (c :: r₀)
      · rfl
      · obtain ⟨k, a, hop⟩ := startsRedirection_iff.1 hr
        have hop' := (view_of_operatorAt hop).2
        rw [← hs, (skipBlanks_reads cs).2, hv] at hop'
        cases hop'
    refine ⟨r, hvr, ?_⟩
    dsimp only
    rw [if_neg (by simp [hr]), if_pos hc, hw]
    rfl
  | redir h =>
    cases h
    obtain ⟨hr, r, hred, hvr⟩ := redirection_complete hv
    rcases hs : (skipBlanks cs).1 with _ | ⟨c, r₀⟩
    · rw [hs] at hr
      simp [startsRedirection] at hr
    rw [hs] at hr hred
    refine ⟨r, hvr, ?_⟩
    dsimp only
    rw [if_pos hr, hred]
    rfl

/-- Where the view starts with items followed by what may follow a stage, `simpleItems`
reads all of them, once one item has been seen. -/
theorem items_complete {ks K : List Kind} (h : Items ks K) (hK : StageEnd K) :
    ∀ (cs : List Char) (seen : Nat), view cs = ks → seen ≠ 0 →
      ∃ r, (simpleItems seen cs).map Subtype.val = .ok r ∧ view r = K := by
  induction h with
  | @nil ks =>
    intro cs seen hv h0
    refine ⟨(skipBlanks cs).1, ?_, (skipBlanks_reads cs).2.trans hv⟩
    rw [simpleItems_val]
    rcases hs : (skipBlanks cs).1 with _ | ⟨c, r⟩
    · simp [h0]
    have hview : view (c :: r) = ks := by rw [← hs, (skipBlanks_reads cs).2, hv]
    have hr : startsRedirection (c :: r) = false := by
      cases hr : startsRedirection (c :: r)
      · rfl
      · obtain ⟨k, a, hop⟩ := startsRedirection_iff.1 hr
        rw [(view_of_operatorAt hop).2] at hview
        subst hview
        simp [StageEnd] at hK
    have hc : startsPiece c = false := by
      cases hc : startsPiece c
      · rfl
      · obtain ⟨K', hK' | hK'⟩ := kindsFrom_true_head (lexemeList (c :: r)) <;>
          rw [view_of_startsPiece r hc, hK'] at hview <;> subst hview <;> simp [StageEnd] at hK
    simp [hr, hc, h0]
  | cons hi _ ih =>
    intro cs seen hv h0
    obtain ⟨r, hvr, heq⟩ := item_complete (by rw [hv]; exact hi) seen
    obtain ⟨r', hr', hvr'⟩ := ih hK r (seen + 1) hvr (Nat.succ_ne_zero seen)
    exact ⟨r', heq.trans hr', hvr'⟩

/-- Where the view starts with redirections followed by no redirection operator,
`groupRedirections` reads all of them. -/
theorem redirs_complete {ks K : List Kind} (h : Redirs ks K)
    (hK : ∀ k, K.head? ≠ some (.op (.redirect k))) :
    ∀ cs, view cs = ks →
      ∃ r, (groupRedirections cs).map Subtype.val = .ok r ∧ view r = K := by
  induction h with
  | nil =>
    intro cs hv
    refine ⟨(skipBlanks cs).1, ?_, (skipBlanks_reads cs).2.trans hv⟩
    have hr : startsRedirection (skipBlanks cs).1 = false := by
      cases hr : startsRedirection (skipBlanks cs).1
      · rfl
      · obtain ⟨k, a, hop⟩ := startsRedirection_iff.1 hr
        have hop' := (view_of_operatorAt hop).2
        rw [(skipBlanks_reads cs).2, hv] at hop'
        exact absurd (by rw [hop']; rfl) (hK k)
    rw [groupRedirections_val, if_neg (by simp [hr])]
  | cons hr _ ih =>
    intro cs hv
    cases hr
    obtain ⟨hs, r, hred, hvr⟩ := redirection_complete hv
    obtain ⟨r', hr', hvr'⟩ := ih hK r hvr
    refine ⟨r', ?_, hvr'⟩
    rw [groupRedirections_val, if_pos hs, hred]
    exact hr'

mutual

/-- Where the view starts with a pipeline followed by what may follow one, the check reads
that pipeline. -/
theorem pipeline_complete : ∀ {ks K : List Kind}, Pipeline ks K → PipelineEnd K →
    ∀ cs, view cs = ks → ∃ r, (pipeline cs).map Subtype.val = .ok r ∧ view r = K
  | _, _, .mk hs ht, hK, cs, hv => by
    obtain ⟨r, hr, hvr⟩ := stage_complete hs (ht.stageEnd hK) cs hv
    obtain ⟨r', hr', hvr'⟩ := stages_complete ht hK r hvr
    refine ⟨r', ?_, hvr'⟩
    rw [pipeline_val, hr]
    exact hr'

theorem stages_complete : ∀ {ks K : List Kind}, Stages ks K → PipelineEnd K →
    ∀ cs, view cs = ks → ∃ r, (pipelineTail cs).map Subtype.val = .ok r ∧ view r = K
  | _, _, .nil, hK, cs, hv => by
    refine ⟨(skipBlanks cs).1, ?_, (skipBlanks_reads cs).2.trans hv⟩
    rw [pipelineTail_val]
    rcases hb : afterBar (skipBlanks cs).1 with _ | after
    · rfl
    · have hbar := (view_of_operatorAt (afterBar_eq_some_iff.1 hb)).2
      rw [(skipBlanks_reads cs).2, hv] at hbar
      subst hbar
      simp [PipelineEnd] at hK
  | _, _, .cons hs ht, hK, cs, hv => by
    obtain ⟨after, hop, hva⟩ := operatorAt_of_view hv
    obtain ⟨r, hr, hvr⟩ := stage_complete hs (ht.stageEnd hK) after hva
    obtain ⟨r', hr', hvr'⟩ := stages_complete ht hK r hvr
    refine ⟨r', ?_, hvr'⟩
    rw [pipelineTail_val, afterBar_eq_some_iff.2 hop]
    dsimp only
    rw [hr]
    exact hr'

theorem stage_complete : ∀ {ks K : List Kind}, Stage ks K → StageEnd K →
    ∀ cs, view cs = ks → ∃ r, (command cs).map Subtype.val = .ok r ∧ view r = K
  | _, _, .simple hi his, hK, cs, hv => by
    -- an item starts with a word or a redirection, never with a parenthesis
    have hopen : afterChar '(' (skipBlanks cs).1 = none := by
      rcases ho : afterChar '(' (skipBlanks cs).1 with _ | inner
      · rfl
      · have hparen := (view_of_operatorAt
          (operatorAt_eq_openGroup_iff.2 (afterChar_eq_some_iff.1 ho))).2
        rw [(skipBlanks_reads cs).2, hv] at hparen
        rw [hparen] at hi
        cases hi with
        | redir h => cases h
    have hi' := hi
    rw [← hv, ← (skipBlanks_reads cs).2] at hi'
    obtain ⟨r, hvr, heq⟩ := item_complete hi' 0
    obtain ⟨r', hr', hvr'⟩ := items_complete his hK r 1 hvr Nat.one_ne_zero
    refine ⟨r', ?_, hvr'⟩
    rw [command_val, hopen]
    exact heq.trans hr'
  | _, K, .group hp hr, hK, cs, hv => by
    obtain ⟨inner, hop, hvi⟩ := operatorAt_of_view hv
    obtain ⟨r₁, hr₁, hvr₁⟩ := pipeline_complete hp (.inr rfl) inner hvi
    obtain ⟨after, hclose, hva⟩ := operatorAt_of_view hvr₁
    have hnext : ∀ k, K.head? ≠ some (Kind.op (.redirect k)) := by
      intro k hk
      rcases hK with rfl | hK | hK <;> simp_all
    obtain ⟨r₂, hr₂, hvr₂⟩ := redirs_complete hr hnext after hva
    refine ⟨r₂, ?_, hvr₂⟩
    rw [command_val, afterChar_eq_some_iff.2 (operatorAt_eq_openGroup_iff.1 hop)]
    dsimp only
    rw [hr₁]
    show (match afterChar ')' (skipBlanks r₁).1 with
      | some after => (groupRedirections after).map Subtype.val
      | none => .error (.unexpected (skipBlanks r₁).1)) = _
    rw [afterChar_eq_some_iff.2 (operatorAt_eq_closeGroup_iff.1 hclose)]
    exact hr₂

end

/-! ## Lines -/

/-- The check accepts a line exactly when the view of the line is a line of the grammar. -/
theorem line_eq_ok_iff (cs : List Char) : line cs = .ok () ↔ Line (view cs) := by
  refine ⟨line_view_of_ok, fun h => ?_⟩
  rw [line_val]
  by_cases he : (skipBlanks cs).1 = []
  · rw [if_pos he]
  · rw [if_neg he]
    rcases h with h | h
    · exact absurd ((view_eq_nil_iff cs).1 h) he
    · obtain ⟨r, hr, hvr⟩ :=
        pipeline_complete h (.inl rfl) (skipBlanks cs).1 (skipBlanks_reads cs).2
      rw [hr]
      show (if (skipBlanks r).1 = [] then Except.ok ()
        else Except.error (Stop.unexpected (skipBlanks r).1)) = _
      rw [if_pos ((view_eq_nil_iff r).1 hvr)]

theorem check_eq_ok_iff (s : String) : check s = .ok () ↔ line s.toList = .ok () := by
  unfold check
  split <;> simp_all

theorem line_of_check_unterminated {s : String} {q : Char} {o : Nat}
    (h : check s = .error (.unterminatedQuote q o)) :
    ∃ r, line s.toList = .error (.unclosed q r) ∧ o = byteLength s.toList - byteLength r := by
  unfold check at h
  split at h
  · cases h
  · cases h
  · rename_i q' r heq
    simp only [Except.error.injEq, SyntaxError.unterminatedQuote.injEq] at h
    obtain ⟨rfl, rfl⟩ := h
    exact ⟨r, heq, rfl⟩

/-- The check accepts a line exactly when the line scans, no word of it holds a stray special
character, and the kinds of its tokens form a line of the grammar.  Where the check stops at
a quotation that the line never closes, scanning fails at the offset of the word that holds
the quotation, and that word spans the offset the check reports. -/
theorem check_iff_token_grammar (line : String) :
    (check line = .ok () ↔ ∃ ts, tokenize line = .ok ts ∧
        (∀ w n, Token.word w n ∈ ts → ∀ s ∈ w.segments,
          s.quoting = .bare → s.text ≠ "&" ∧ s.text ≠ "|") ∧
        Line (ts.map Token.kind)) ∧
    ∀ q o, check line = .error (.unterminatedQuote q o) →
      ∃ w n, Token.word w n ∈ scan line ∧ n ≤ o ∧ o < n + w.raw.utf8ByteSize ∧
        tokenize line = .error ⟨n⟩ := by
  constructor
  · rw [check_eq_ok_iff, line_eq_ok_iff, ← tokens_line_iff]
    simp only [Segment.isStray_eq_false_iff]
  · intro q o h
    obtain ⟨r, hline, rfl⟩ := line_of_check_unterminated h
    obtain ⟨hreach, hopen⟩ := line_unclosed hline
    obtain ⟨pre, w, m, hasm, hpre, hw, hle, hend⟩ :=
      assemble_unclosed hreach hopen 0 none none rfl (by simp)
    have hpos : 0 < byteLength r := by
      obtain ⟨q', body, -, rfl, -, -⟩ := hopen
      rw [byteLength_cons]
      exact Nat.lt_add_right _ (Char.utf8Size_pos q')
    have hscan : scan line = pre ++ [.word w m] := by
      rw [scan_eq_assemble, hasm]
    refine ⟨w, m, by simp [hscan], by omega, by rw [utf8ByteSize_eq_byteLength]; omega, ?_⟩
    have hfind : (scan line).find? Token.isUnclosed = some (.word w m) := by
      rw [hscan, List.find?_append, List.find?_eq_none.2 fun t ht => by simpa using hpre t ht]
      simp [Token.isUnclosed, hw]
    rw [tokenize_eq_scan, hfind]
    rfl

end Conch.Syntax
