import Conch.Proofs.Lookahead

/-!
# Completing a line where the check stops

Where the check fails, what it read before failing is the start of a line it accepts: some
text after it completes every phrase left open.  A quotation left open is closed by its quote,
a word or a command that is missing is the letter `a`, and a group left open is closed by a
parenthesis.

Each function of the check states this as a law of its own (`pipeline_completes`, ...): from
what a failed run read (`Stop.Read`), some text completes the run, so that it reads all of it
and stops at any rest that closes (`Completes`).  The laws compose along the steps of each
function (`Completes.bind`); a step that follows a skip of blanks, a bar or a redirection
operator is completed by text the skip stops at as well.
-/

set_option autoImplicit false

namespace Conch.Syntax

/-! ## What a failed run read -/

/-- What a failed run from `v` had read when it failed: all of `v` where a quotation was left
open, and what stands before the character it did not allow otherwise. -/
def Stop.Read (v u : List Char) : Stop → Prop
  | .unexpected x => v = u ++ x
  | .unclosed _ _ => v = u

theorem Stop.Read.cons {e : Stop} {c : Char} {l u : List Char} (h : e.Read (c :: l) u) :
    (u = [] ∧ e = .unexpected (c :: l)) ∨ ∃ u', u = c :: u' ∧ e.Read l u' := by
  rcases e with x | ⟨q, x⟩
  · rcases u with _ | ⟨d, u⟩
    · exact .inl ⟨rfl, by rw [show x = c :: l from h.symm]⟩
    · obtain ⟨rfl, hl⟩ := List.cons.inj h
      exact .inr ⟨u, rfl, hl⟩
  · exact .inr ⟨l, h.symm, rfl⟩

/-- What follows a read part that is not empty starts as the input did. -/
theorem Stop.Read.sameHead {e : Stop} {w u : List Char} (h : e.Read w u) (hu : u ≠ [])
    (s : List Char) : SameHead w (u ++ s) := by
  obtain ⟨c, u, rfl⟩ := List.exists_cons_of_ne_nil hu
  rcases e with x | ⟨q, x⟩
  · show w.head? = _
    rw [show w = c :: u ++ x from h]
    rfl
  · show w.head? = _
    rw [show w = c :: u from h]
    rfl

/-- A run that failed after reading `u₁` and then `u₂` of what a later rest `w` holds read
`u₁ ++ u₂`. -/
theorem Stop.Read.trans {e : Stop} {v w u u₁ u₂ : List Char} (hv : u₁ ++ w = v)
    (hw : e.Read w u₂) (hu : e.Read v u) : u = u₁ ++ u₂ := by
  rcases e with x | ⟨q, x⟩
  · refine List.append_cancel_right (show u ++ x = u₁ ++ u₂ ++ x from ?_)
    rw [← show v = u ++ x from hu, ← hv, show w = u₂ ++ x from hw, List.append_assoc]
  · rw [← show v = u from hu, ← hv, show w = u₂ from hw]

/-- A run that failed at a character it did not allow read everything before it. -/
theorem Stop.Read.of_within {v : List Char} {e : Stop} (h : Within v (.error e)) :
    ∃ u, e.Read v u := by
  rcases e with x | ⟨q, x⟩
  · obtain ⟨u, hu⟩ := h.1
    exact ⟨u, hu.symm⟩
  · exact ⟨v, rfl⟩

/-! ## Completions -/

/-- Text `s` completes a run of `f` from `u`: `f` reads all of `u ++ s` and stops at any rest
that closes. -/
def Completes (f : List Char → Except Stop (List Char)) (u s : List Char) : Prop :=
  ∀ t, Closes t → f (u ++ s ++ t) = .ok t

namespace Completes

variable {f g : List Char → Except Stop (List Char)} {u s : List Char}

/-- A completion of `f` completes a function that agrees with `f` where the completion is read. -/
theorem of_agree (h : Completes f u s) (hfg : ∀ t, Closes t → g (u ++ s ++ t) = f (u ++ s ++ t)) :
    Completes g u s :=
  fun t ht => (hfg t ht).trans (h t ht)

/-- A completion of what follows a first character, for a function that reads the character
and goes on as another. -/
theorem cons {c : Char} (h : Completes g u s) (hfg : ∀ w, f (c :: w) = g w) :
    Completes f (c :: u) s := by
  intro t ht
  rw [List.cons_append, List.cons_append, hfg]
  exact h t ht

/-- Where a first run is completed, a second run that reads its own completion from a rest
that closes completes the two. -/
theorem bind_left {sg : List Char} (hf : Completes f u s) (hg : Completes g [] sg)
    (hsg : ∀ t, Closes t → Closes (sg ++ t)) : Completes (fun w => f w >>= g) u (s ++ sg) := by
  intro t ht
  show f (u ++ (s ++ sg) ++ t) >>= g = .ok t
  rw [show u ++ (s ++ sg) ++ t = u ++ s ++ (sg ++ t) by simp only [List.append_assoc],
    hf _ (hsg t ht), ok_bind]
  exact hg t ht

/-- Where a first run is completed, a second run that stops at once at a rest that closes
completes the two. -/
theorem bind_closes (hf : Completes f u s) (hg : ∀ t, Closes t → g t = .ok t) :
    Completes (fun w => f w >>= g) u s := by
  intro t ht
  show f (u ++ s ++ t) >>= g = .ok t
  rw [hf t ht, ok_bind]
  exact hg t ht

/-- Where a first run stopped at `w` and a second run from `w` failed, a completion of the
second completes the two, provided the first run stops alike before it.  `F` says what the
first run needs of the rest that replaces `w`. -/
theorem bind {F : List Char → List Char → Prop} {v : List Char} {e : Stop}
    (h : f v >>= g = .error e) (hu : e.Read v u)
    (hfw : ∀ w, f v = .ok w → w <:+ v) (hgw : ∀ w, f v = .ok w → Within w (g w))
    (hff : ∀ u₁ w r', f v = .ok w → u₁ ++ w = v → F w r' → f (u₁ ++ r') = .ok r')
    (hf : f v = .error e → ∃ s, Completes (fun w => f w >>= g) u s)
    (hg : ∀ w u₂, f v = .ok w → g w = .error e → e.Read w u₂ →
      ∃ s, Completes g u₂ s ∧ ∀ t, Closes t → F w (u₂ ++ s ++ t)) :
    ∃ s, Completes (fun w => f w >>= g) u s := by
  rcases hfv : f v with e' | w
  · rw [hfv] at h
    cases h
    exact hf hfv
  rw [hfv, ok_bind] at h
  obtain ⟨u₁, hv⟩ := hfw w hfv
  have hgw' := hgw w hfv
  rw [h] at hgw'
  -- the second run failed within `w`, which the first run left of `v`
  obtain ⟨u₂, hw⟩ := Stop.Read.of_within hgw'
  obtain rfl := Stop.Read.trans hv hw hu
  obtain ⟨s, hs, hF⟩ := hg w u₂ hfv h hw
  refine ⟨s, fun t ht => ?_⟩
  show f (u₁ ++ u₂ ++ s ++ t) >>= g = .ok t
  rw [show u₁ ++ u₂ ++ s ++ t = u₁ ++ (u₂ ++ s ++ t) by simp only [List.append_assoc],
    hff u₁ w _ hfv hv (hF t ht), ok_bind]
  exact hs t ht

/-- A step read by `f`, then a run `g` that passes a rest that closes and fails only past its
start: a completion of the step or of the run completes the two. -/
theorem step_then {v : List Char} {e : Stop} (h : f v >>= g = .error e) (hu : e.Read v u)
    (hfw : Within v (f v)) (hgw : ∀ w, Within w (g w))
    (hff : ∀ u₁ w r', f v = .ok w → u₁ ++ w = v → Fits w r' → f (u₁ ++ r') = .ok r')
    (hgc : ∀ t, Closes t → g t = .ok t)
    (hgne : ∀ w u₂, g w = .error e → e.Read w u₂ → u₂ ≠ [])
    (hf : f v = .error e → ∃ s, Completes f u s)
    (hg : ∀ w u₂, f v = .ok w → g w = .error e → e.Read w u₂ → ∃ s, Completes g u₂ s) :
    ∃ s, Completes (fun w => f w >>= g) u s :=
  Completes.bind h hu (fun w hw => hfw.suffix_of_ok hw) (fun w _ => hgw w) hff
    (fun he => (hf he).imp fun s hs => hs.bind_closes hgc)
    (fun w u₂ hw hrun hu₂ => (hg w u₂ hw hrun hu₂).imp fun s hs =>
      ⟨hs, fun t _ => .inr (by
        rw [List.append_assoc]
        exact hu₂.sameHead (hgne w u₂ hrun hu₂) _)⟩)

end Completes

/-! ## Rests that close -/

theorem Closes.head_false {P : Char → Bool} {t : List Char} (ht : Closes t) (hP : P ')' = false) :
    ∀ c ∈ t.head?, P c = false := by
  intro c hc
  rw [head_of_closes ht c hc]
  exact hP

theorem Closes.skipBlanks_eq {t : List Char} (ht : Closes t) : (skipBlanks t).1 = t :=
  skipBlanks_of_head (ht.head_false rfl)

theorem Closes.paren (t : List Char) : Closes (')' :: t) := .inr rfl

section Closing

variable {t : List Char}

theorem pieces_closes (ht : Closes t) : (pieces t).map Subtype.val = .ok t :=
  pieces_of_head (ht.head_false rfl)

theorem simpleItems_closes (seen : Nat) (ht : Closes t) :
    (simpleItems (seen + 1) t).map Subtype.val = .ok t := by
  rw [simpleItems_eq, ht.skipBlanks_eq, itemsAt_of_head _ (ht.head_false rfl)]
  rfl

theorem groupRedirections_closes (ht : Closes t) :
    (groupRedirections t).map Subtype.val = .ok t := by
  rw [groupRedirections_eq, ht.skipBlanks_eq]
  unfold redirsAt
  rw [if_neg (by rw [startsRedirection_eq_false_iff.2 (ht.head_false rfl)]; decide)]

theorem afterBar_closes (ht : Closes t) : afterBar t = none := by
  rcases ht with rfl | ht
  · rfl
  · rcases t with _ | ⟨c, t⟩
    · cases ht
    · cases ht
      exact afterBar_of_ne (by decide) t

theorem pipelineTail_closes (ht : Closes t) : (pipelineTail t).map Subtype.val = .ok t := by
  rw [pipelineTail_eq, ht.skipBlanks_eq]
  unfold tailAt
  rw [afterBar_closes ht]

/-! ## A letter is a word, a command and a pipeline -/

theorem pieces_letter (ht : Closes t) : (pieces ('a' :: t)).map Subtype.val = .ok t := by
  rw [pieces_cons, if_neg (by decide), if_pos (by decide)]
  rw [show (skipBare t).1 = t from dropWhile_eq_self (ht.head_false rfl)]
  exact pieces_closes ht

theorem word_letter (ht : Closes t) : (word ('a' :: t)).map Subtype.val = .ok t := by
  rw [word_cons, if_pos (by decide)]
  exact pieces_letter ht

theorem itemsAt_letter (seen : Nat) (ht : Closes t) : itemsAt seen ('a' :: t) = .ok t := by
  simp only [itemsAt, startsRedirection_cons]
  rw [if_neg (by decide), if_pos (by decide), word_letter ht, ok_bind]
  exact simpleItems_closes seen ht

theorem simpleItems_letter (seen : Nat) (ht : Closes t) :
    (simpleItems seen ('a' :: t)).map Subtype.val = .ok t := by
  rw [simpleItems_eq, skipBlanks_of_head (fun c hc => by cases hc; rfl)]
  exact itemsAt_letter seen ht

theorem commandAt_letter (ht : Closes t) : commandAt ('a' :: t) = .ok t :=
  simpleItems_letter 0 ht

theorem command_letter (ht : Closes t) : (command ('a' :: t)).map Subtype.val = .ok t := by
  rw [command_eq, skipBlanks_of_head (fun c hc => by cases hc; rfl)]
  exact commandAt_letter ht

theorem pipeline_letter (ht : Closes t) : (pipeline ('a' :: t)).map Subtype.val = .ok t := by
  rw [pipeline_val, command_letter ht, ok_bind]
  exact pipelineTail_closes ht

theorem closeGroup_paren (ht : Closes t) : closeGroup (')' :: t) = .ok t :=
  groupRedirections_closes ht

end Closing

/-! ## Words -/

theorem closeQuotation_completes {q : Char} {l u : List Char} {e : Stop}
    (h : (closeQuotation q l).map Subtype.val = .error e) (hu : e.Read l u) :
    Completes (fun w => (closeQuotation q w).map Subtype.val) u [q] := by
  rcases hd : l.dropWhile (· != q) with _ | ⟨d, after⟩
  · rw [closeQuotation_of_nil hd] at h
    cases h
    obtain rfl : l = u := hu
    intro t _
    -- no quote of its kind in `l`, so the one appended closes the quotation
    apply closeQuotation_of_cons (d := q)
    rw [List.append_assoc, List.dropWhile_append, hd]
    simp
  · rw [closeQuotation_of_cons hd] at h
    cases h

/-- Pieces fail only where they read a quotation they left open. -/
theorem pieces_read_ne_nil {w u : List Char} {e : Stop}
    (h : (pieces w).map Subtype.val = .error e) (hu : e.Read w u) : u ≠ [] := by
  rcases e with x | ⟨q, x⟩
  · exact absurd h (pieces_ne_unexpected w x)
  · rintro rfl
    obtain rfl : w = [] := hu
    rw [pieces_nil] at h
    cases h

theorem pieces_completes (v : List Char) {u : List Char} {e : Stop}
    (h : (pieces v).map Subtype.val = .error e) (hu : e.Read v u) :
    ∃ s, Completes (fun w => (pieces w).map Subtype.val) u s := by
  obtain ⟨c, l, hv⟩ : ∃ c l, v = c :: l := by
    rcases v with _ | ⟨c, l⟩
    · rw [pieces_nil] at h
      cases h
    · exact ⟨c, l, rfl⟩
  rw [hv] at h hu
  rcases hu.cons with ⟨-, rfl⟩ | ⟨u, rfl, hul⟩
  · exact absurd h (pieces_ne_unexpected _ _)
  rw [pieces_cons] at h
  split_ifs at h with hq hb
  · -- a quotation, and the pieces after it
    have hg : ∀ w u₂, (closeQuotation c l).map Subtype.val = .ok w →
        (pieces w).map Subtype.val = .error e → e.Read w u₂ →
        ∃ s, Completes (fun w => (pieces w).map Subtype.val) u₂ s ∧
          ∀ t, Closes t → Fits w (u₂ ++ s ++ t) := by
      intro w u₂ hw hpw hu₂
      have := (closeQuotation_ok_suffix hw).length_le
      obtain ⟨s, hs⟩ := pieces_completes _ hpw hu₂
      refine ⟨s, hs, fun t _ => .inr ?_⟩
      rw [List.append_assoc]
      exact hu₂.sameHead (pieces_read_ne_nil hpw hu₂) _
    obtain ⟨s, hs⟩ := Completes.bind (F := Fits) (f := fun w => (closeQuotation c w).map Subtype.val)
      (g := fun w => (pieces w).map Subtype.val) h hul (fun w hw => closeQuotation_ok_suffix hw)
      (fun w _ => pieces_within w)
      (fun u₁ w r' hw hv hfit => Follows.ok_at (closeQuotation_follows (S := SameHead) c u₁)
        (m := []) (by rw [hv]; exact hw) hfit)
      (fun he => ⟨[c], (closeQuotation_completes he hul).bind_closes
        fun t ht => pieces_closes ht⟩) hg
    exact ⟨s, hs.cons fun w => by rw [pieces_cons, if_pos hq]⟩
  · -- a bare run, and the pieces after it
    have hg : ∀ w u₂, (Except.ok (skipBare l).1 : Except Stop (List Char)) = .ok w →
        (pieces w).map Subtype.val = .error e → e.Read w u₂ →
        ∃ s, Completes (fun w => (pieces w).map Subtype.val) u₂ s ∧
          ∀ t, Closes t → Fits w (u₂ ++ s ++ t) := by
      intro w u₂ hw hpw hu₂
      cases hw
      obtain ⟨s, hs⟩ := pieces_completes _ hpw hu₂
      refine ⟨s, hs, fun t _ => .inr ?_⟩
      rw [List.append_assoc]
      exact hu₂.sameHead (pieces_read_ne_nil hpw hu₂) _
    obtain ⟨s, hs⟩ := Completes.bind (F := Fits) (f := fun w => .ok (skipBare w).1)
      (g := fun w => (pieces w).map Subtype.val) h hul
      (fun w hw => by cases hw; exact skipBare_suffix l) (fun w hw => by cases hw; exact pieces_within _)
      (fun u₁ w r' hw hv hfit => Follows.ok_at (skipBare_follows (S := SameHead) u₁)
        (m := []) (by rw [hv]; exact hw) hfit)
      (fun he => by cases he) hg
    exact ⟨s, hs.cons fun w => by rw [pieces_cons, if_neg hq, if_pos hb]; rfl⟩
termination_by v.length
decreasing_by
  · rw [hv, List.length_cons]
    omega
  · rw [hv, List.length_cons]
    exact Nat.lt_succ_of_le (skipBare l).2

theorem word_completes {v u : List Char} {e : Stop}
    (h : (word v).map Subtype.val = .error e) (hu : e.Read v u) :
    ∃ s, Completes (fun w => (word w).map Subtype.val) u s := by
  rcases v with _ | ⟨c, l⟩
  · rw [word_nil] at h
    cases h
    obtain rfl : u = [] := List.append_eq_nil_iff.1 (hu.symm) |>.1
    exact ⟨['a'], fun t ht => word_letter ht⟩
  rw [word_cons] at h
  split_ifs at h with hc
  · -- a word that starts with a piece fails in its pieces
    rcases hu.cons with ⟨-, rfl⟩ | ⟨u', rfl, -⟩
    · exact absurd h (pieces_ne_unexpected _ _)
    obtain ⟨s, hs⟩ := pieces_completes _ h hu
    refine ⟨s, fun t ht => ?_⟩
    show (word (c :: u' ++ s ++ t)).map Subtype.val = _
    rw [List.cons_append, List.cons_append, word_cons, if_pos hc]
    exact hs t ht
  · -- no piece starts: the word fails where it starts
    cases h
    obtain rfl : u = [] := by simpa using congrArg List.length hu
    exact ⟨['a'], fun t ht => word_letter ht⟩

/-! ## Runs that fail only past their start -/

/-- A run that failed within a rest shorter than its input read something of it. -/
theorem Stop.Read.ne_nil_of_within {v w u : List Char} {e : Stop} (hw : Within w (.error e))
    (hlt : w.length < v.length) (hu : e.Read v u) : u ≠ [] := by
  rintro rfl
  rcases e with x | ⟨q, x⟩
  · have := hw.1.length_le
    rw [show v = x from hu] at hlt
    omega
  · rw [show v = [] from hu] at hlt
    simp at hlt

theorem skipBlanks_eq_of_suffix {v : List Char} (h : v <:+ (skipBlanks v).1) :
    (skipBlanks v).1 = v :=
  (skipBlanks_suffix v).eq_of_length (Nat.le_antisymm (skipBlanks_suffix v).length_le h.length_le)

/-- A run from where the blanks end that failed at its very start failed at the input. -/
theorem Stop.Read.at_blanks_end {v : List Char} {e : Stop} {g : List Char → Except Stop (List Char)}
    (hg : Within (skipBlanks v).1 (g (skipBlanks v).1)) (h : g (skipBlanks v).1 = .error e)
    (hu : e.Read v []) : (skipBlanks v).1 = v ∧ e.Read (skipBlanks v).1 [] := by
  rw [h] at hg
  rcases e with x | ⟨q, x⟩
  · have hvx : v = x := hu
    rw [← hvx] at hg
    have heq := skipBlanks_eq_of_suffix hg.1
    exact ⟨heq, show (skipBlanks v).1 = [] ++ x by rw [heq, hvx]; rfl⟩
  · obtain rfl : v = [] := hu
    exact ⟨rfl, rfl⟩

theorem itemsAt_within (seen : Nat) {l : List Char} (hb : ∀ c ∈ l.head?, isBlank c = false) :
    Within l (itemsAt seen l) := by
  have h := simpleItems_within seen l
  rwa [simpleItems_eq, skipBlanks_of_head hb] at h

theorem redirsAt_within {l : List Char} (hb : ∀ c ∈ l.head?, isBlank c = false) :
    Within l (redirsAt l) := by
  have h := groupRedirections_within l
  rwa [groupRedirections_eq, skipBlanks_of_head hb] at h

/-- Once an item is read, the items fail only past their start. -/
theorem simpleItems_read_ne_nil (seen : Nat) {w u : List Char} {e : Stop}
    (h : (simpleItems (seen + 1) w).map Subtype.val = .error e) (hu : e.Read w u) : u ≠ [] := by
  rintro rfl
  rw [simpleItems_eq] at h
  obtain ⟨heq, hu'⟩ := hu.at_blanks_end (itemsAt_within _ (head_skipBlanks w)) h
  rw [heq] at h hu'
  rcases e with x | ⟨q, x⟩
  · obtain rfl : w = x := hu'
    have hstart := head_of_itemsAt (seen + 1) (.inr h)
    rw [itemsAt_of_head _ hstart] at h
    cases h
  · obtain rfl : w = [] := hu'
    cases h

theorem groupRedirections_read_ne_nil {w u : List Char} {e : Stop}
    (h : (groupRedirections w).map Subtype.val = .error e) (hu : e.Read w u) : u ≠ [] := by
  rintro rfl
  rw [groupRedirections_eq] at h
  obtain ⟨heq, hu'⟩ := hu.at_blanks_end (redirsAt_within (head_skipBlanks w)) h
  rw [heq] at h hu'
  unfold redirsAt at h
  split_ifs at h with hred
  · -- a redirection reads its operator before it can fail
    rcases w with _ | ⟨c, l⟩
    · cases hred
    · have hw := (redirection_within_operator (c :: l)).bind fun w _ =>
        groupRedirections_within w
      rw [h] at hw
      exact Stop.Read.ne_nil_of_within hw (skipRedirectOperator_lt c l) hu' rfl

theorem pipelineTail_read_ne_nil {w u : List Char} {e : Stop}
    (h : (pipelineTail w).map Subtype.val = .error e) (hu : e.Read w u) : u ≠ [] := by
  rintro rfl
  rw [pipelineTail_eq] at h
  obtain ⟨heq, hu'⟩ := hu.at_blanks_end (tailAt_within (head_skipBlanks w)) h
  rw [heq] at h hu'
  unfold tailAt at h
  split at h
  · -- a bar is read before the pipeline after it can fail
    rename_i after hb
    exact Stop.Read.ne_nil_of_within (by rw [← h]; exact pipeline_within after)
      (length_of_afterBar hb) hu' rfl
  · cases h

/-! ## Redirections and simple commands -/

/-- No blank at the head of a rest: what a skip of blanks needs to stop before it. -/
def NoBlankHead (_ b : List Char) : Prop := ∀ c ∈ b.head?, isBlank c = false

theorem NoBlankHead.of_read {w u s : List Char} {e : Stop} (hw : ∀ c ∈ w.head?, isBlank c = false)
    (hu : e.Read w u) (hne : u ≠ []) : NoBlankHead w (u ++ s) := by
  intro c hc
  exact hw c (by rw [hu.sameHead hne s]; exact hc)

theorem NoBlankHead.letter (w t : List Char) : NoBlankHead w ('a' :: t) := by
  intro c hc
  cases hc
  rfl

theorem skipBlanks_ok_of_head {v u₁ w r' : List Char} (hw : (skipBlanks v).1 = w)
    (hv : u₁ ++ w = v) (hr : NoBlankHead w r') : (skipBlanks (u₁ ++ r')).1 = r' :=
  Except.ok.inj (Follows.ok_at (skipBlanks_follows_head (S := SameHead) u₁) (m := [])
    (by rw [hv, hw]; rfl) hr)

/-- `Completes.bind` after a skip of blanks: a completion of the run from where the blanks end
completes the whole, provided it has no blank at its head where that run failed at once. -/
theorem Completes.after_blanks {g : List Char → Except Stop (List Char)} {v u : List Char}
    {e : Stop} (h : g (skipBlanks v).1 = .error e) (hu : e.Read v u)
    (hgw : Within (skipBlanks v).1 (g (skipBlanks v).1))
    (hg : ∀ u₂, e.Read (skipBlanks v).1 u₂ →
      ∃ s, Completes g u₂ s ∧ (u₂ = [] → ∀ c ∈ s.head?, isBlank c = false)) :
    ∃ s, Completes (fun w => g (skipBlanks w).1) u s := by
  refine Completes.bind (F := NoBlankHead) (f := fun w => .ok (skipBlanks w).1) (g := g) h hu
    (fun _ hw => by cases hw; exact skipBlanks_suffix v) (fun _ hw => by cases hw; exact hgw)
    (fun u₁ w r' hw hv hr => by cases hw; rw [skipBlanks_ok_of_head rfl hv hr])
    (fun he => by cases he) (fun w u₂ hw _ hu₂ => ?_)
  cases hw
  obtain ⟨s, hs, hhead⟩ := hg u₂ hu₂
  refine ⟨s, hs, fun t ht => ?_⟩
  by_cases hne : u₂ = []
  · subst hne
    rcases s with _ | ⟨c, s⟩
    · exact ht.head_false rfl
    · intro d hd
      cases hd
      exact hhead rfl c rfl
  · rw [List.append_assoc]
    exact NoBlankHead.of_read (head_skipBlanks v) hu₂ hne

theorem redirection_completes {v u : List Char} {e : Stop} (hne : v ≠ [])
    (h : (redirection v).map Subtype.val = .error e) (hu : e.Read v u) :
    ∃ s, Completes (fun w => (redirection w).map Subtype.val) u s := by
  rw [redirection_val] at h
  have hg : ∀ w u₂, (Except.ok (skipRedirectOperator v).1 : Except Stop (List Char)) = .ok w →
      (word (skipBlanks w).1).map Subtype.val = .error e → e.Read w u₂ →
      ∃ s, Completes (fun w => (word (skipBlanks w).1).map Subtype.val) u₂ s ∧
        ∀ t, Closes t → ∀ d ∈ (u₂ ++ s ++ t).head?, (d = '<' ∨ d = '>') → w.head? = some d := by
    intro w u₂ _ hw hu₂
    by_cases hne : u₂ = []
    · subst hne
      refine ⟨['a'], fun t ht => ?_, fun t _ d hd hop => ?_⟩
      · show (word (skipBlanks ('a' :: t)).1).map Subtype.val = _
        rw [skipBlanks_of_head (fun c hc => by cases hc; rfl)]
        exact word_letter ht
      · cases hd
        simp at hop
    obtain ⟨s, hs⟩ := Completes.bind (F := NoBlankHead) (f := fun w => .ok (skipBlanks w).1)
      (g := fun w => (word w).map Subtype.val) hw hu₂
      (fun _ hw' => by cases hw'; exact skipBlanks_suffix w)
      (fun _ hw' => by cases hw'; exact word_within (head_skipBlanks w))
      (fun u₁ w' r' hw' hv hr => by cases hw'; rw [skipBlanks_ok_of_head rfl hv hr])
      (fun he => by cases he)
      (fun w' u₃ hw' hword hu₃ => by
        cases hw'
        by_cases hne₃ : u₃ = []
        · subst hne₃
          exact ⟨['a'], fun t ht => word_letter ht, fun t _ => NoBlankHead.letter _ t⟩
        · obtain ⟨s, hs⟩ := word_completes hword hu₃
          exact ⟨s, hs, fun t _ => by
            rw [List.append_assoc]
            exact NoBlankHead.of_read (head_skipBlanks w) hu₃ hne₃⟩)
    refine ⟨s, hs, fun t _ d hd _ => ?_⟩
    rw [List.append_assoc, ← hu₂.sameHead hne (s ++ t)] at hd
    exact hd
  obtain ⟨s, hs⟩ := Completes.bind (F := fun a b => ∀ d ∈ b.head?, (d = '<' ∨ d = '>') → a.head? = some d)
    (f := fun w => .ok (skipRedirectOperator w).1)
    (g := fun w => (word (skipBlanks w).1).map Subtype.val) h hu
    (fun _ hw => by cases hw; exact skipRedirectOperator_suffix v)
    (fun _ hw => by cases hw; exact (word_within (head_skipBlanks _)).mono (skipBlanks_suffix _))
    (fun u₁ w r' hw hv hr => by
      cases hw
      have hu₁ : u₁ ≠ [] := by
        rintro rfl
        obtain ⟨c, l, rfl⟩ := List.exists_cons_of_ne_nil hne
        have := skipRedirectOperator_lt c l
        rw [List.nil_append] at hv
        rw [hv] at this
        omega
      exact Follows.ok_at (skipRedirectOperator_follows (fun _ _ h => h) hu₁ (S := SameHead))
        (m := []) (by rw [hv]; rfl) hr)
    (fun he => by cases he) hg
  exact ⟨s, hs.of_agree fun t _ => by rw [redirection_val]; rfl⟩

theorem simpleItems_completes (seen : Nat) (v : List Char) {u : List Char} {e : Stop}
    (h : (simpleItems seen v).map Subtype.val = .error e) (hu : e.Read v u) :
    ∃ s, Completes (fun w => (simpleItems seen w).map Subtype.val) u s := by
  rw [simpleItems_eq] at h
  suffices hg : ∀ u₂, e.Read (skipBlanks v).1 u₂ →
      ∃ s, Completes (itemsAt seen) u₂ s ∧ (u₂ = [] → ∀ c ∈ s.head?, isBlank c = false) by
    obtain ⟨s, hs⟩ := Completes.after_blanks h hu (itemsAt_within seen (head_skipBlanks v)) hg
    exact ⟨s, hs.of_agree fun t _ => simpleItems_eq seen _⟩
  intro u₂ hu₂
  by_cases hne : u₂ = []
  · subst hne
    exact ⟨['a'], fun t ht => itemsAt_letter seen ht, fun _ c hc => by cases hc; rfl⟩
  refine (?_ : ∃ s, Completes (itemsAt seen) u₂ s).imp fun s hs => ⟨hs, fun h => absurd h hne⟩
  obtain ⟨c, l, hcl⟩ : ∃ c l, (skipBlanks v).1 = c :: l := by
    rcases hsb : (skipBlanks v).1 with _ | ⟨c, l⟩
    · rw [hsb] at hu₂
      rcases e with x | ⟨q, x⟩
      · exact absurd (List.append_eq_nil_iff.1 (show [] = u₂ ++ x from hu₂).symm).1 hne
      · exact absurd (show [] = u₂ from hu₂).symm hne
    · exact ⟨c, l, rfl⟩
  have hb : ∀ d ∈ (c :: l).head?, isBlank d = false := hcl ▸ head_skipBlanks v
  rw [hcl] at h hu₂
  obtain ⟨u', rfl, -⟩ := hu₂.cons.resolve_left fun h => hne h.1
  simp only [itemsAt, startsRedirection_cons] at h
  split_ifs at h with hred hc hseen
  · -- a redirection, and the items after it
    obtain ⟨s, hs⟩ := Completes.step_then (f := fun w => (redirection w).map Subtype.val)
      (g := fun w => (simpleItems (seen + 1) w).map Subtype.val) h hu₂
      (redirection_within (c :: l)) (simpleItems_within (seen + 1))
      (fun u₁ w r' hw hv hfit => Follows.ok_at (redirection_follows u₁) (m := [])
        (by rw [hv]; exact hw) hfit)
      (fun t ht => simpleItems_closes seen ht) (fun _ _ => simpleItems_read_ne_nil seen)
      (fun he => redirection_completes (List.cons_ne_nil c l) he hu₂)
      (fun w u₃ _ hitems hu₃ => simpleItems_completes (seen + 1) w hitems hu₃)
    exact ⟨s, hs.of_agree fun t _ => by
      simp only [List.cons_append, itemsAt, startsRedirection_cons, hred, if_true]⟩
  · -- a word, and the items after it
    obtain ⟨s, hs⟩ := Completes.step_then (f := fun w => (word w).map Subtype.val)
      (g := fun w => (simpleItems (seen + 1) w).map Subtype.val) h hu₂
      (word_within hb) (simpleItems_within (seen + 1))
      (fun u₁ w r' hw hv hfit => Follows.ok_at (word_follows u₁) (m := [])
        (by rw [hv]; exact hw) hfit)
      (fun t ht => simpleItems_closes seen ht) (fun _ _ => simpleItems_read_ne_nil seen)
      (fun he => word_completes he hu₂)
      (fun w u₃ _ hitems hu₃ => simpleItems_completes (seen + 1) w hitems hu₃)
    exact ⟨s, hs.of_agree fun t _ => by
      simp only [List.cons_append, itemsAt, startsRedirection_cons, hred, hc, if_true,
        Bool.false_eq_true, if_false]⟩
  · -- no item starts: the items failed at once
    cases h
    have := congrArg List.length (show c :: l = c :: u' ++ c :: l from hu₂)
    simp only [List.length_cons, List.cons_append, List.length_append] at this
    omega
termination_by v.length
decreasing_by
  all_goals
    have h₁ := (skipBlanks_suffix v).length_le
    rw [hcl] at h₁
  · have h₂ := length_lt_of_shorter (x := redirection (c :: l)) ‹_›
    omega
  · have h₂ := length_lt_of_shorter (x := word (c :: l)) ‹_›
    omega

/-! ## Groups, commands and pipelines -/

theorem startsRedirection_of_sameHead {a b : List Char} (h : SameHead a b) :
    startsRedirection b = startsRedirection a := by
  rcases a with _ | ⟨c, a⟩ <;> rcases b with _ | ⟨d, b⟩
  · rfl
  · cases h
  · cases h
  · cases h
    simp only [startsRedirection_cons]

theorem groupRedirections_completes (v : List Char) {u : List Char} {e : Stop}
    (h : (groupRedirections v).map Subtype.val = .error e) (hu : e.Read v u) :
    ∃ s, Completes (fun w => (groupRedirections w).map Subtype.val) u s := by
  rw [groupRedirections_eq] at h
  suffices hg : ∀ u₂, e.Read (skipBlanks v).1 u₂ →
      ∃ s, Completes redirsAt u₂ s ∧ (u₂ = [] → ∀ c ∈ s.head?, isBlank c = false) by
    obtain ⟨s, hs⟩ := Completes.after_blanks h hu (redirsAt_within (head_skipBlanks v)) hg
    exact ⟨s, hs.of_agree fun t _ => groupRedirections_eq _⟩
  intro u₂ hu₂
  unfold redirsAt at h
  split_ifs at h with hred
  obtain ⟨c, l, hcl⟩ : ∃ c l, (skipBlanks v).1 = c :: l := by
    rcases hsb : (skipBlanks v).1 with _ | ⟨c, l⟩
    · rw [hsb] at hred
      cases hred
    · exact ⟨c, l, rfl⟩
  rw [hcl] at h hu₂ hred
  have hne : u₂ ≠ [] := by
    have hw := (redirection_within_operator (c :: l)).bind fun w _ => groupRedirections_within w
    rw [h] at hw
    exact Stop.Read.ne_nil_of_within hw (skipRedirectOperator_lt c l) hu₂
  obtain ⟨s, hs⟩ := Completes.step_then (f := fun w => (redirection w).map Subtype.val)
    (g := fun w => (groupRedirections w).map Subtype.val) h hu₂
    (redirection_within (c :: l)) groupRedirections_within
    (fun u₁ w r' hw hv hfit => Follows.ok_at (redirection_follows u₁) (m := [])
      (by rw [hv]; exact hw) hfit)
    (fun t ht => groupRedirections_closes ht) (fun _ _ => groupRedirections_read_ne_nil)
    (fun he => redirection_completes (List.cons_ne_nil c l) he hu₂)
    (fun w u₃ _ hredirs hu₃ => groupRedirections_completes w hredirs hu₃)
  refine ⟨s, hs.of_agree fun t _ => ?_, fun h => absurd h hne⟩
  have hstart : startsRedirection (u₂ ++ s ++ t) = true := by
    rw [List.append_assoc, startsRedirection_of_sameHead (hu₂.sameHead hne (s ++ t))]
    exact hred
  unfold redirsAt
  rw [if_pos hstart]
termination_by v.length
decreasing_by
  have h₁ := (skipBlanks_suffix v).length_le
  rw [hcl] at h₁
  have h₂ := length_lt_of_shorter (x := redirection (c :: l)) ‹_›
  omega

theorem groupEnd_paren {t : List Char} (ht : Closes t) : groupEnd (')' :: t) = .ok t := by
  unfold groupEnd
  rw [skipBlanks_of_head (fun c hc => by cases hc; rfl)]
  exact closeGroup_paren ht

theorem groupEnd_completes {v u : List Char} {e : Stop} (h : groupEnd v = .error e)
    (hu : e.Read v u) : ∃ s, Completes groupEnd u s := by
  suffices hg : ∀ u₂, e.Read (skipBlanks v).1 u₂ →
      ∃ s, Completes closeGroup u₂ s ∧ (u₂ = [] → ∀ c ∈ s.head?, isBlank c = false) from
    Completes.after_blanks h hu (closeGroup_within (head_skipBlanks v)) hg
  intro u₂ hu₂
  by_cases hne : u₂ = []
  · subst hne
    exact ⟨[')'], fun t ht => closeGroup_paren ht, fun _ c hc => by cases hc; rfl⟩
  refine (?_ : ∃ s, Completes closeGroup u₂ s).imp fun s hs => ⟨hs, fun h => absurd h hne⟩
  unfold groupEnd closeGroup at h
  split at h
  · -- the closing parenthesis, and the redirections after it
    rename_i after hc
    rw [afterChar_eq_some_iff.1 hc] at hu₂
    obtain ⟨u', rfl, hu'⟩ := hu₂.cons.resolve_left fun h => hne h.1
    obtain ⟨s, hs⟩ := groupRedirections_completes after h hu'
    exact ⟨s, hs.cons fun w => rfl⟩
  · cases h
    exact (hne (by simpa using (show (skipBlanks v).1 = u₂ ++ (skipBlanks v).1 from hu₂))).elim

/-- The end of a group that read something before it failed starts with no bar. -/
theorem groupEnd_head {w u : List Char} {e : Stop} (h : groupEnd w = .error e) (hu : e.Read w u)
    (hne : u ≠ []) : ∀ d ∈ w.head?, d ≠ '|' := by
  rcases w with _ | ⟨c, l⟩
  · intro _ hd
    cases hd
  intro d hd
  cases hd
  cases hb : isBlank c
  · unfold groupEnd closeGroup at h
    rw [skipBlanks_of_head (fun d hd => by cases hd; exact hb)] at h
    by_cases hc : c = ')'
    · subst hc
      decide
    · rw [show afterChar ')' (c :: l) = none by simp [afterChar, hc]] at h
      cases h
      exact (hne (by simpa using (show c :: l = u ++ c :: l from hu))).elim
  · rintro rfl
    simp [isBlank] at hb

mutual

theorem pipeline_completes (v : List Char) {u : List Char} {e : Stop}
    (h : (pipeline v).map Subtype.val = .error e) (hu : e.Read v u) :
    ∃ s, Completes (fun w => (pipeline w).map Subtype.val) u s := by
  rw [pipeline_val] at h
  obtain ⟨s, hs⟩ := Completes.bind (F := Fits) (f := fun w => (command w).map Subtype.val)
    (g := fun w => (pipelineTail w).map Subtype.val) h hu
    (fun w hw => (command_within v).suffix_of_ok hw)
    (fun w _ => pipelineTail_within w)
    (fun u₁ w r' hw hv hfit => Follows.ok_at (command_follows u₁) (m := [])
      (by rw [hv]; exact hw) hfit)
    (fun he => (command_completes v he hu).imp fun s hs =>
      hs.bind_closes fun t ht => pipelineTail_closes ht)
    (fun w u₂ hw htail hu₂ => (pipelineTail_completes w htail hu₂).imp fun s hs =>
      ⟨hs, fun t _ => .inr (by
        rw [List.append_assoc]
        exact hu₂.sameHead (pipelineTail_read_ne_nil htail hu₂) _)⟩)
  exact ⟨s, hs.of_agree fun t _ => pipeline_val _⟩
termination_by (v.length, 2)
decreasing_by
  all_goals first
    | exact Prod.Lex.right _ (by omega)
    | have h' := command_within v
      rw [show (command v).map Subtype.val = .ok w from hw] at h'
      rcases Nat.lt_or_eq_of_le h'.length_le with hlt | heq
      · exact Prod.Lex.left _ _ hlt
      · rw [heq]
        exact Prod.Lex.right _ (by omega)

theorem command_completes (v : List Char) {u : List Char} {e : Stop}
    (h : (command v).map Subtype.val = .error e) (hu : e.Read v u) :
    ∃ s, Completes (fun w => (command w).map Subtype.val) u s := by
  rw [command_eq] at h
  suffices hg : ∀ u₂, e.Read (skipBlanks v).1 u₂ →
      ∃ s, Completes commandAt u₂ s ∧ (u₂ = [] → ∀ c ∈ s.head?, isBlank c = false) by
    obtain ⟨s, hs⟩ := Completes.after_blanks h hu (commandAt_within (head_skipBlanks v)) hg
    exact ⟨s, hs.of_agree fun t _ => command_eq _⟩
  intro u₂ hu₂
  by_cases hne : u₂ = []
  · subst hne
    exact ⟨['a'], fun t ht => commandAt_letter ht, fun _ c hc => by cases hc; rfl⟩
  refine (?_ : ∃ s, Completes commandAt u₂ s).imp fun s hs => ⟨hs, fun h => absurd h hne⟩
  unfold commandAt at h
  split at h
  · -- a group: the pipeline in it, and its end
    rename_i inner ho
    have hsb := afterChar_eq_some_iff.1 ho
    rw [hsb] at hu₂
    obtain ⟨u', rfl, hu'⟩ := hu₂.cons.resolve_left fun h => hne h.1
    obtain ⟨s, hs⟩ := Completes.bind (F := FitsBar) (f := fun w => (pipeline w).map Subtype.val)
      (g := groupEnd) h hu'
      (fun w hw => (pipeline_within inner).suffix_of_ok hw)
      (fun w _ => groupEnd_within w)
      (fun u₁ w r' hw hv hfit => Follows.ok_at (pipeline_follows u₁) (m := [])
        (by rw [hv]; exact hw) hfit)
      (fun he => (pipeline_completes inner he hu').elim fun s hs =>
        ⟨s ++ [')'], hs.bind_left (show Completes groupEnd [] [')'] from
          fun t ht => groupEnd_paren ht) fun t _ => Closes.paren t⟩)
      (fun w u₃ hw hend hu₃ => by
        by_cases hne₃ : u₃ = []
        · -- the group is closed where its end failed at once
          subst hne₃
          exact ⟨[')'], fun t ht => groupEnd_paren ht,
            fun t _ => ⟨.inl (.inr rfl), fun _ => afterBar_of_ne (by decide) _⟩⟩
        · obtain ⟨s, hs⟩ := groupEnd_completes hend hu₃
          refine ⟨s, hs, fun t _ => ?_⟩
          rw [List.append_assoc]
          have hsame := hu₃.sameHead hne₃ (s ++ t)
          obtain ⟨d, u'', rfl⟩ := List.exists_cons_of_ne_nil hne₃
          exact ⟨.inr hsame, fun _ => afterBar_of_ne
            (groupEnd_head hend hu₃ hne₃ d (by rw [hsame]; rfl)) _⟩)
    exact ⟨s, hs.cons fun w => rfl⟩
  · -- a simple command
    rename_i ho
    obtain ⟨s, hs⟩ := simpleItems_completes 0 _ h hu₂
    refine ⟨s, hs.of_agree fun t _ => ?_⟩
    have ho' : afterChar '(' (u₂ ++ s ++ t) = none := by
      rw [afterChar_eq_none_iff] at ho ⊢
      intro c hc
      rw [List.append_assoc, ← hu₂.sameHead hne (s ++ t)] at hc
      exact ho c hc
    unfold commandAt
    rw [ho']
termination_by (v.length, 1)
decreasing_by
  have h₁ := (skipBlanks_suffix v).length_le
  rw [hsb] at h₁
  simp only [List.length_cons] at h₁
  exact Prod.Lex.left _ _ (by omega)

theorem pipelineTail_completes (v : List Char) {u : List Char} {e : Stop}
    (h : (pipelineTail v).map Subtype.val = .error e) (hu : e.Read v u) :
    ∃ s, Completes (fun w => (pipelineTail w).map Subtype.val) u s := by
  rw [pipelineTail_eq] at h
  suffices hg : ∀ u₂, e.Read (skipBlanks v).1 u₂ →
      ∃ s, Completes tailAt u₂ s ∧ (u₂ = [] → ∀ c ∈ s.head?, isBlank c = false) by
    obtain ⟨s, hs⟩ := Completes.after_blanks h hu (tailAt_within (head_skipBlanks v)) hg
    exact ⟨s, hs.of_agree fun t _ => pipelineTail_eq _⟩
  intro u₂ hu₂
  unfold tailAt at h
  split at h
  · -- a bar, and the pipeline after it
    rename_i after hb
    have hsb := eq_of_afterBar hb
    rw [hsb] at hu₂ hb
    have hne : u₂ ≠ [] := Stop.Read.ne_nil_of_within (by rw [← h]; exact pipeline_within after)
      (by simp) hu₂
    refine (?_ : ∃ s, Completes tailAt u₂ s).imp fun s hs => ⟨hs, fun h => absurd h hne⟩
    obtain ⟨u', rfl, hu'⟩ := hu₂.cons.resolve_left fun h => hne h.1
    have hbar := head_of_afterBar_bar hb
    by_cases hne' : u' = []
    · -- the pipeline after the bar failed at once: a letter is one
      subst hne'
      refine ⟨['a'], fun t ht => ?_⟩
      show tailAt ('|' :: 'a' :: t) = _
      unfold tailAt
      rw [afterBar_bar (fun c hc => by cases hc; rfl)]
      exact pipeline_letter ht
    · obtain ⟨s, hs⟩ := pipeline_completes after h hu'
      refine ⟨s, fun t ht => ?_⟩
      show tailAt ('|' :: (u' ++ s ++ t)) = _
      unfold tailAt
      rw [afterBar_bar (fun c hc => hbar c (by
        rw [List.append_assoc, ← hu'.sameHead hne' (s ++ t)] at hc
        exact hc))]
      exact hs t ht
  · cases h
termination_by (v.length, 0)
decreasing_by
  have h₁ := (skipBlanks_suffix v).length_le
  rw [hsb] at h₁
  simp only [List.length_cons] at h₁
  exact Prod.Lex.left _ _ (by omega)

end

end Conch.Syntax
