import Conch.Proofs.Completion
import Conch.Proofs.Recognition
import Mathlib

/-!
# The check stops where a line stops being the start of one

A line is viable when some text after it makes a line the check accepts.  Where the check
rejects a line at a character, what comes before that character is viable, and the line
taken one lexeme further is not: a doubled bar counts as one lexeme, any other character as
its own.  Where the check rejects a line at its end, the whole line is viable but not
complete.  Where it stops at a quotation that the line never closes, the quote stands at the
reported offset, no second quote of its kind follows it, and the whole line is viable.  So the
offset the check reports is exactly where the line first stops being the start of a valid
line (`check_stops_where_line_dies`).

Viability comes from the completions of `Completion.lean`, the dead end from the lookahead
law of `Lookahead.lean`: a line that fails at a character fails there whatever follows, as
long as what follows starts alike (`line_follows`).
-/

set_option autoImplicit false

namespace Conch.Syntax

/-- Text that some continuation makes a line the check accepts. -/
def Viable (cs : List Char) : Prop := ∃ s : List Char, check (String.ofList (cs ++ s)) = .ok ()

/-- The lexeme at the head of what is left of a line: a doubled bar whole, otherwise one
character. -/
def stopLexeme (rest : List Char) : List Char :=
  if rest.take 2 = ['|', '|'] then ['|', '|'] else rest.take 1

theorem viable_iff {cs : List Char} : Viable cs ↔ ∃ s, line (cs ++ s) = .ok () := by
  simp only [Viable, check_eq_ok_iff, String.toList_ofList]

/-- The lexeme that a line stopped at starts what stands for it after the line is cut there. -/
theorem alike_stopLexeme {rest : List Char} (hne : rest ≠ []) (s : List Char) :
    Alike rest (stopLexeme rest ++ s) := by
  obtain ⟨c, l, rfl⟩ := List.exists_cons_of_ne_nil hne
  by_cases hc : c = '|'
  · subst hc
    rcases l with _ | ⟨d, l⟩
    · -- a bar at the end of the line is followed by nothing
      exact ⟨rfl, fun h => by cases h⟩
    · by_cases hd : d = '|'
      · subst hd
        exact ⟨rfl, fun _ => rfl⟩
      · -- a single bar is a pipe, so the line did not stop on a doubled bar
        exact ⟨by simp [SameHead, stopLexeme, hd], fun h => by simp [afterBar, hd] at h⟩
  · have hlex : stopLexeme (c :: l) = [c] := by simp [stopLexeme, hc]
    rw [hlex]
    exact ⟨rfl, fun _ => afterBar_of_ne hc _⟩

/-- Where the check fails, the line stops or fails within it. -/
theorem line_within {v : List Char} {e : Stop} (h : line v = .error e) : Within v (.error e) := by
  rw [line_val] at h
  split_ifs at h
  rcases hrun : (pipeline (skipBlanks v).1).map Subtype.val with e' | w <;> rw [hrun] at h
  · cases h
    have hw := pipeline_within (skipBlanks v).1
    rw [hrun] at hw
    exact hw.mono (skipBlanks_suffix v)
  · rw [ok_bind] at h
    split_ifs at h
    cases h
    have hw := pipeline_within (skipBlanks v).1
    rw [hrun] at hw
    exact ⟨(skipBlanks_suffix w).trans (hw.trans (skipBlanks_suffix v)), head_skipBlanks w⟩

/-- A line is accepted when, after its leading blanks, its pipeline reads up to blanks alone. -/
theorem line_of_pipeline {v u₁ x r : List Char} (hv : u₁ ++ (skipBlanks v).1 = v)
    (hx : NoBlankHead (skipBlanks v).1 x) (hne : x ≠ [])
    (hrun : (pipeline x).map Subtype.val = .ok r) (hr : (skipBlanks r).1 = []) :
    line (u₁ ++ x) = .ok () := by
  rw [line_val, skipBlanks_ok_of_head rfl hv hx, if_neg hne, hrun, ok_bind, if_pos hr]

/-- Where the pipeline of a line fails, what the line read before is completed to a line. -/
theorem line_completes {v u : List Char} {e : Stop}
    (hrun : (pipeline (skipBlanks v).1).map Subtype.val = .error e) (hu : e.Read v u) :
    ∃ s, line (u ++ s) = .ok () := by
  obtain ⟨u₁, hv⟩ := skipBlanks_suffix v
  have hw := pipeline_within (skipBlanks v).1
  rw [hrun] at hw
  obtain ⟨u₂, hu₂⟩ := Stop.Read.of_within hw
  obtain rfl := Stop.Read.trans hv hu₂ hu
  by_cases hne : u₂ = []
  · -- the pipeline read nothing: a word makes it one
    subst hne
    refine ⟨['a'], ?_⟩
    rw [List.append_nil]
    exact line_of_pipeline hv (NoBlankHead.letter _ []) (List.cons_ne_nil _ _)
      (pipeline_letter (.inl rfl)) rfl
  · obtain ⟨s, hs⟩ := pipeline_completes _ hrun hu₂
    have hrun' : (pipeline (u₂ ++ s)).map Subtype.val = .ok [] := by
      have h := hs [] (.inl rfl)
      rw [List.append_nil] at h
      exact h
    refine ⟨s, ?_⟩
    rw [List.append_assoc]
    exact line_of_pipeline hv (NoBlankHead.of_read (head_skipBlanks v) hu₂ hne)
      (by simp [hne]) hrun' rfl

/-- Where the pipeline of a line stops, the line cut after the blanks that follow is accepted. -/
theorem line_before_stop {v u r : List Char}
    (hrun : (pipeline (skipBlanks v).1).map Subtype.val = .ok r)
    (hu : v = u ++ (skipBlanks r).1) : line u = .ok () := by
  obtain ⟨u₁, hv⟩ := skipBlanks_suffix v
  have hw := pipeline_within (skipBlanks v).1
  rw [hrun] at hw
  obtain ⟨q, hq⟩ := skipBlanks_suffix r
  obtain ⟨p, hp⟩ := hw
  have hu' : u = u₁ ++ (p ++ q) := by
    refine List.append_cancel_right
      (show u ++ (skipBlanks r).1 = u₁ ++ (p ++ q) ++ (skipBlanks r).1 from ?_)
    calc u ++ (skipBlanks r).1 = v := hu.symm
      _ = u₁ ++ (p ++ r) := by rw [← hv, ← hp]
      _ = u₁ ++ (p ++ q) ++ (skipBlanks r).1 := by
        rw [List.append_assoc, List.append_assoc, hq]
  have hq' : (skipBlanks (q ++ (skipBlanks r).1)).1 = (skipBlanks r).1 := by rw [hq]
  rw [hu']
  by_cases hpq : p ++ q = []
  · rw [hpq, line_val, skipBlanks_ok_of_head rfl hv (fun c hc => by cases hc), if_pos rfl]
  have hpipe : (pipeline (p ++ q)).map Subtype.val = .ok q := by
    have hf : Follows FitsBar Alike (skipBlanks r).1 []
        ((pipeline ((p ++ q) ++ (skipBlanks r).1)).map Subtype.val)
        ((pipeline ((p ++ q) ++ [])).map Subtype.val) := pipeline_follows (p ++ q)
    -- blanks and then the end of the line end a pipeline as the line's own end does
    have := Follows.ok_at hf (m := q) (by rw [List.append_assoc, hq, hp]; exact hrun)
      (fitsBar_of_blank (head_of_skipBlanks_eq hq') ⟨.inl (.inl rfl), fun _ => rfl⟩)
    rw [List.append_nil, List.append_nil] at this
    exact this
  have hblank : (skipBlanks q).1 = [] := by
    have hf : Follows NoBlankHead SameHead (skipBlanks r).1 []
        (.ok (skipBlanks (q ++ (skipBlanks r).1)).1) (.ok (skipBlanks (q ++ [])).1) :=
      skipBlanks_follows_head q
    have := Follows.ok_at hf (m := []) (by rw [hq']; rfl) (fun c hc => by cases hc)
    rw [List.append_nil] at this
    simpa using this
  have hhead : NoBlankHead (skipBlanks v).1 (p ++ q) := by
    intro c hc
    obtain ⟨d, l, hdl⟩ := List.exists_cons_of_ne_nil hpq
    rw [hdl] at hc
    refine head_skipBlanks v c ?_
    rw [← hp, ← hq, ← List.append_assoc, hdl]
    exact hc
  exact line_of_pipeline hv hhead hpq hpipe hblank

/-- What the check read of a line before it failed is the start of a line it accepts. -/
theorem line_viable {v u : List Char} {e : Stop} (h : line v = .error e) (hu : e.Read v u) :
    Viable u := by
  rw [viable_iff]
  rw [line_val] at h
  split_ifs at h
  rcases hrun : (pipeline (skipBlanks v).1).map Subtype.val with e' | r <;> rw [hrun] at h
  · cases h
    exact line_completes hrun hu
  · -- the pipeline stopped, and the line failed after the blanks that follow: it stops there
    rw [ok_bind] at h
    split_ifs at h
    simp only [Except.error.injEq] at h
    subst h
    exact ⟨[], by rw [List.append_nil]; exact line_before_stop hrun hu⟩

/-- A line that fails at a character is the start of a line up to that character, and
taking the lexeme there as well makes it the start of none. -/
theorem line_dies_at {v rest : List Char} (h : line v = .error (.unexpected rest)) :
    ∃ pre, v = pre ++ rest ∧ Viable pre ∧ (∀ c ∈ rest.head?, isBlank c = false) ∧
      (rest ≠ [] → ¬ Viable (pre ++ stopLexeme rest)) := by
  obtain ⟨⟨pre, hpre⟩, hhead⟩ := line_within h
  refine ⟨pre, hpre.symm, line_viable h hpre.symm, hhead, fun hne hviable => ?_⟩
  obtain ⟨s, hs⟩ := viable_iff.1 hviable
  have hdead := line_follows (by rw [hpre]; exact h) (alike_stopLexeme hne s)
  rw [List.append_assoc, hdead] at hs
  cases hs

/-- A line left with an open quotation holds that quote with no second one after it, and the
whole line is the start of a line. -/
theorem line_unclosed_at {v rest : List Char} {q : Char} (h : line v = .error (.unclosed q rest)) :
    ∃ pre body, v = pre ++ rest ∧ rest = q :: body ∧ q ∉ body ∧ Viable v := by
  obtain ⟨⟨pre, hpre⟩, body, hrest, hq⟩ := line_within h
  exact ⟨pre, body, hpre.symm, hrest, hq, line_viable h rfl⟩

/-- The offset the check reports for a line it rejects is where the line first stops being the
start of a line it accepts.  An unexpected token stands after a viable prefix, on a character
that is not a blank, and that prefix taken one lexeme further is viable no more; a token at the
end of the line leaves the whole line viable.  An open quotation stands at its offset, with no
quote of its kind after it, in a line that is viable as a whole. -/
theorem check_reports_where_line_dies (s : String) :
    (∀ tok o, check s = .error (.unexpectedToken tok o) →
      ∃ pre rest, s.toList = pre ++ rest ∧ o = byteLength pre ∧ tok = offendingToken rest ∧
        Viable pre ∧ (∀ c ∈ rest.head?, isBlank c = false) ∧
        (rest ≠ [] → ¬ Viable (pre ++ stopLexeme rest)) ∧ (rest = [] → Viable s.toList)) ∧
    (∀ q o, check s = .error (.unterminatedQuote q o) →
      ∃ pre body, s.toList = pre ++ q :: body ∧ o = byteLength pre ∧ q ∉ body ∧
        Viable s.toList) := by
  refine ⟨fun tok o h => ?_, fun q o h => ?_⟩
  · rcases hline : line s.toList with (rest | ⟨q, rest⟩) | ⟨⟩ <;>
      simp only [check, hline, reduceCtorEq, Except.error.injEq,
        SyntaxError.unexpectedToken.injEq] at h
    obtain ⟨rfl, rfl⟩ := h
    obtain ⟨pre, hv, hpre, hhead, hdead⟩ := line_dies_at hline
    refine ⟨pre, rest, hv, ?_, rfl, hpre, hhead, hdead, fun hnil => ?_⟩
    · rw [hv, byteLength_append]
      omega
    · rw [hv, hnil, List.append_nil]
      exact hpre
  · rcases hline : line s.toList with (rest | ⟨q, rest⟩) | ⟨⟩ <;>
      simp only [check, hline, reduceCtorEq, Except.error.injEq,
        SyntaxError.unterminatedQuote.injEq] at h
    obtain ⟨rfl, rfl⟩ := h
    obtain ⟨pre, body, hv, rfl, hq, hviable⟩ := line_unclosed_at hline
    refine ⟨pre, body, hv, ?_, hq, hviable⟩
    rw [hv, byteLength_append]
    omega

/-- `ls | | wc` dies at its second pipe, at offset 5, after the viable prefix `ls | `, as
`check_reports_where_line_dies` says; `echo "a` leaves a quotation open at offset 5 in a line
that is viable as a whole. -/
theorem check_reports_second_pipe :
    check "ls | | wc" = .error (.unexpectedToken "|" 5) ∧
      (∃ pre rest, "ls | | wc".toList = pre ++ rest ∧ byteLength pre = 5 ∧ Viable pre ∧
        ¬ Viable (pre ++ stopLexeme rest)) ∧
      check "echo \"a" = .error (.unterminatedQuote '"' 5) ∧ Viable "echo \"a".toList := by
  have hpipe : check "ls | | wc" = .error (.unexpectedToken "|" 5) := by
    have hline : line "ls | | wc".toList = .error (.unexpected "| wc".toList) := by cbv
    have htoken : offendingToken "| wc".toList = "|" := by decide
    have hoffset : byteLength "ls | | wc".toList - byteLength "| wc".toList = 5 := by decide
    simp only [check, hline, htoken, hoffset]
  have hquote : check "echo \"a" = .error (.unterminatedQuote '"' 5) := by cbv
  obtain ⟨pre, rest, hs, ho, -, hpre, -, hdead, -⟩ :=
    (check_reports_where_line_dies "ls | | wc").1 _ _ hpipe
  obtain ⟨-, -, -, -, -, hviable⟩ := (check_reports_where_line_dies "echo \"a").2 _ _ hquote
  have hrest : rest ≠ [] := by
    rintro rfl
    rw [List.append_nil] at hs
    rw [← hs] at ho
    cases ho
  exact ⟨hpipe, ⟨pre, rest, hs, ho.symm, hpre, hdead hrest⟩, hquote, hviable⟩

end Conch.Syntax
