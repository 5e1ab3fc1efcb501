import Conch.Proofs.Grammar
import Conch.Syntax.Check

/-!
# How the grammar check reads a line

The check reads a line with functions that return what is left of the input together with a
proof that it is no longer.  This module states each of them once as an equation on the rest
alone (`pipeline_val`, `simpleItems_val`, ...), and says what each first step takes off the
input in terms of the line's lexemes: blanks are one blank lexeme, each operator test is
`operatorAt`, and a quotation or a bare run is the piece that the scanner reads there.

From those steps follows what the check sees at the head of its input (`view`): nothing at
the end of the line, an operator where `operatorAt` finds one, and a word exactly where the
check reads a word (`word_reads`, `word_complete`).
-/

set_option autoImplicit false

namespace Conch.Syntax

/-! ## The functions of the check on their rests -/

theorem closeQuotation_of_nil {q : Char} {rest : List Char}
    (h : rest.dropWhile (· != q) = []) :
    closeQuotation q rest = .error (.unclosed q (q :: rest)) := by
  unfold closeQuotation
  split
  · rfl
  · rename_i heq
    rw [h] at heq
    cases heq

theorem closeQuotation_of_cons {q d : Char} {rest after : List Char}
    (h : rest.dropWhile (· != q) = d :: after) :
    (closeQuotation q rest).map Subtype.val = .ok after := by
  unfold closeQuotation
  split
  · rename_i heq
    rw [h] at heq
    cases heq
  · rename_i heq
    rw [h] at heq
    cases heq
    rfl

theorem pieces_nil : (pieces []).map Subtype.val = .ok [] := by
  rw [pieces]
  rfl

theorem pieces_cons (c : Char) (rest : List Char) :
    (pieces (c :: rest)).map Subtype.val =
      if isQuote c then
        (closeQuotation c rest).map Subtype.val >>= fun r => (pieces r).map Subtype.val
      else if !isSpecial c then (pieces (skipBare rest).1).map Subtype.val
      else .ok (c :: rest) := by
  rw [pieces]
  dsimp only
  split
  · rename_i hq
    rw [if_pos (show isQuote c from hq)]
    rcases closeQuotation c rest with e | ⟨r, h⟩
    · rfl
    · dsimp only
      change _ = Except.map Subtype.val (pieces r)
      rcases pieces r with e | ⟨r₁, h₁⟩ <;> rfl
  · rename_i hq
    rw [if_neg (show ¬isQuote c from hq)]
    split
    · rcases skipBare rest with ⟨r, h⟩
      dsimp only
      rcases pieces r with e | ⟨r₁, h₁⟩ <;> rfl
    · rfl

theorem word_nil : (word []).map Subtype.val = .error (.unexpected []) := by
  rw [word]
  rfl

theorem word_cons (c : Char) (rest : List Char) :
    (word (c :: rest)).map Subtype.val =
      if startsPiece c then (pieces (c :: rest)).map Subtype.val
      else .error (.unexpected (c :: rest)) := by
  rw [word, pieces]
  dsimp only
  split
  · rename_i hc
    split
    · rcases closeQuotation c rest with e | ⟨r, h⟩
      · rfl
      · dsimp only
        rcases pieces r with e | ⟨r₁, h₁⟩ <;> rfl
    · rename_i hq
      have hb : (!isSpecial c) = true := by
        simpa [startsPiece, hq] using hc
      rw [if_pos hb]
      rcases skipBare rest with ⟨r, h⟩
      dsimp only
      rcases pieces r with e | ⟨r₁, h₁⟩ <;> rfl
  · rfl

theorem redirection_val (cs : List Char) :
    (redirection cs).map Subtype.val =
      (word (skipBlanks (skipRedirectOperator cs).1).1).map Subtype.val := by
  rw [redirection]
  rcases skipRedirectOperator cs with ⟨r, h⟩
  dsimp only
  rcases skipBlanks r with ⟨r₁, h₁⟩
  dsimp only
  rcases word r₁ with e | ⟨r₂, h₂⟩ <;> rfl

theorem simpleItems_val (seen : Nat) (cs : List Char) :
    (simpleItems seen cs).map Subtype.val =
      match (skipBlanks cs).1 with
      | [] => if seen = 0 then .error (.unexpected []) else .ok []
      | c :: r =>
          if startsRedirection (c :: r) then
            (redirection (c :: r)).map Subtype.val >>= fun r₁ =>
              (simpleItems (seen + 1) r₁).map Subtype.val
          else if startsPiece c then
            (word (c :: r)).map Subtype.val >>= fun r₁ =>
              (simpleItems (seen + 1) r₁).map Subtype.val
          else if seen = 0 then .error (.unexpected (c :: r)) else .ok (c :: r) := by
  rw [simpleItems]
  rcases skipBlanks cs with ⟨_ | ⟨c, r⟩, h⟩
  · dsimp only
    by_cases hs : seen = 0 <;> simp [hs] <;> rfl
  · dsimp only
    by_cases hr : startsRedirection (c :: r)
    · simp only [hr, ↓reduceIte]
      rcases redirection (c :: r) with e | ⟨r₁, h₁⟩
      · rfl
      · dsimp only
        change _ = Except.map Subtype.val (simpleItems (seen + 1) r₁)
        rcases simpleItems (seen + 1) r₁ with e | ⟨r₂, h₂⟩ <;> rfl
    · by_cases hc : startsPiece c
      · simp only [hr, hc, ↓reduceIte, Bool.false_eq_true]
        rcases word (c :: r) with e | ⟨r₁, h₁⟩
        · rfl
        · dsimp only
          change _ = Except.map Subtype.val (simpleItems (seen + 1) r₁)
          rcases simpleItems (seen + 1) r₁ with e | ⟨r₂, h₂⟩ <;> rfl
      · by_cases hs : seen = 0 <;> simp [hr, hc, hs] <;> rfl

theorem groupRedirections_val (cs : List Char) :
    (groupRedirections cs).map Subtype.val =
      if startsRedirection (skipBlanks cs).1 then
        (redirection (skipBlanks cs).1).map Subtype.val >>= fun r =>
          (groupRedirections r).map Subtype.val
      else .ok (skipBlanks cs).1 := by
  rw [groupRedirections]
  rcases skipBlanks cs with ⟨r, h⟩
  dsimp only
  split
  · rcases redirection r with e | ⟨r₁, h₁⟩
    · rfl
    · dsimp only
      change _ = Except.map Subtype.val (groupRedirections r₁)
      rcases groupRedirections r₁ with e | ⟨r₂, h₂⟩ <;> rfl
  · rfl

theorem pipeline_val (cs : List Char) :
    (pipeline cs).map Subtype.val =
      (command cs).map Subtype.val >>= fun r => (pipelineTail r).map Subtype.val := by
  rw [pipeline]
  rcases command cs with e | ⟨r, h⟩
  · rfl
  · dsimp only
    change _ = Except.map Subtype.val (pipelineTail r)
    rcases pipelineTail r with e | ⟨r₁, h₁⟩ <;> rfl

theorem pipelineTail_val (cs : List Char) :
    (pipelineTail cs).map Subtype.val =
      match afterBar (skipBlanks cs).1 with
      | some after =>
          (command after).map Subtype.val >>= fun r => (pipelineTail r).map Subtype.val
      | none => .ok (skipBlanks cs).1 := by
  rw [pipelineTail]
  rcases skipBlanks cs with ⟨r, h⟩
  dsimp only
  split
  · rename_i after hb
    conv => rhs; rw [hb]
    dsimp only
    rcases command after with e | ⟨r₁, h₁⟩
    · rfl
    · dsimp only
      change _ = Except.map Subtype.val (pipelineTail r₁)
      rcases pipelineTail r₁ with e | ⟨r₂, h₂⟩ <;> rfl
  · rename_i hb
    conv => rhs; rw [hb]
    rfl

theorem command_val (cs : List Char) :
    (command cs).map Subtype.val =
      match afterChar '(' (skipBlanks cs).1 with
      | some inner =>
          (pipeline inner).map Subtype.val >>= fun r =>
            match afterChar ')' (skipBlanks r).1 with
            | some after => (groupRedirections after).map Subtype.val
            | none => .error (.unexpected (skipBlanks r).1)
      | none => (simpleItems 0 (skipBlanks cs).1).map Subtype.val := by
  rw [command]
  rcases skipBlanks cs with ⟨r, h⟩
  dsimp only
  split
  · rename_i inner ho
    conv => rhs; rw [ho]
    dsimp only
    rcases pipeline inner with e | ⟨r₁, h₁⟩
    · rfl
    · change _ = match afterChar ')' (skipBlanks r₁).1 with
        | some after => (groupRedirections after).map Subtype.val
        | none => .error (.unexpected (skipBlanks r₁).1)
      dsimp only
      split
      · rename_i after hc
        conv => rhs; rw [hc]
        dsimp only
        rcases groupRedirections after with e | ⟨r₃, h₃⟩ <;> rfl
      · rename_i hc
        conv => rhs; rw [hc]
        rfl
  · rename_i ho
    conv => rhs; rw [ho]
    dsimp only
    rcases simpleItems 0 r with e | ⟨r₁, h₁⟩ <;> rfl

theorem line_val (cs : List Char) :
    line cs =
      if (skipBlanks cs).1 = [] then .ok ()
      else (pipeline (skipBlanks cs).1).map Subtype.val >>= fun r =>
        if (skipBlanks r).1 = [] then .ok () else .error (.unexpected (skipBlanks r).1) := by
  rw [line]
  rcases skipBlanks cs with ⟨_ | ⟨c, r⟩, h⟩
  · rfl
  · dsimp only
    simp only [reduceCtorEq, ↓reduceIte]
    rcases pipeline (c :: r) with e | ⟨r₁, h₁⟩
    · rfl
    · change _ = if (skipBlanks r₁).1 = [] then (Except.ok () : Except Stop Unit)
        else .error (.unexpected (skipBlanks r₁).1)
      dsimp only
      rcases skipBlanks r₁ with ⟨_ | ⟨d, r₂⟩, h₂⟩ <;> rfl

/-! ## Operators -/

theorem afterChar_eq_some_iff {c : Char} {s a : List Char} :
    afterChar c s = some a ↔ s = c :: a := by
  cases s with
  | nil => simp [afterChar]
  | cons d t => by_cases hd : d = c <;> simp [afterChar, hd]

theorem operatorAt_eq_openGroup_iff {s a : List Char} :
    operatorAt s = some (.openGroup, a) ↔ s = '(' :: a := by
  constructor
  · intro h
    simpa [Operator.spelling] using operatorAt_eq_some h
  · rintro rfl
    rfl

theorem operatorAt_eq_closeGroup_iff {s a : List Char} :
    operatorAt s = some (.closeGroup, a) ↔ s = ')' :: a := by
  constructor
  · intro h
    simpa [Operator.spelling] using operatorAt_eq_some h
  · rintro rfl
    rfl

/-- The check reads a bar exactly where the scanner reads the pipe operator. -/
theorem afterBar_eq_some_iff {s a : List Char} :
    afterBar s = some a ↔ operatorAt s = some (.pipe, a) := by
  rcases s with _ | ⟨c, t⟩
  · simp [afterBar, operatorAt]
  by_cases hc : c = '|'
  · subst hc
    rcases t with _ | ⟨d, u⟩
    · simp [afterBar, operatorAt]
    by_cases hd : d = '|'
    · subst hd
      simp [afterBar, operatorAt]
    · simp [afterBar, operatorAt, hd]
  · have hnone : afterBar (c :: t) = none := by
      unfold afterBar
      split <;> simp_all
    rw [hnone]
    simp only [reduceCtorEq, false_iff]
    intro h
    have hs := operatorAt_eq_some h
    simp [Operator.spelling] at hs
    exact hc hs.1

/-- The check sees a redirection exactly where the scanner reads a redirection operator. -/
theorem startsRedirection_iff {s : List Char} :
    startsRedirection s = true ↔ ∃ r a, operatorAt s = some (.redirect r, a) := by
  constructor
  · intro h
    rcases s with _ | ⟨c, t⟩
    · simp [startsRedirection] at h
    have hc : c = '<' ∨ c = '>' := by
      unfold startsRedirection at h
      split at h <;> simp_all
    rcases t with _ | ⟨d, u⟩
    · rcases hc with rfl | rfl
      · exact ⟨.input, [], rfl⟩
      · exact ⟨.output, [], rfl⟩
    by_cases hd : d = c
    · subst hd
      rcases hc with rfl | rfl
      · exact ⟨.heredoc, u, rfl⟩
      · exact ⟨.append, u, rfl⟩
    · rcases hc with rfl | rfl
      · exact ⟨.input, d :: u, by simp [operatorAt, hd]⟩
      · exact ⟨.output, d :: u, by simp [operatorAt, hd]⟩
  · rintro ⟨r, a, h⟩
    have hs := operatorAt_eq_some h
    rcases r with _ | _ | _ | _ <;> simp [Operator.spelling] at hs <;> subst hs <;> rfl

/-- The check skips a redirection operator as the scanner reads it. -/
theorem skipRedirectOperator_of_operatorAt {s a : List Char} {r : Redirect}
    (h : operatorAt s = some (.redirect r, a)) : (skipRedirectOperator s).1 = a := by
  have hs := operatorAt_eq_some h
  rcases r with _ | _ | _ | _ <;> simp [Operator.spelling] at hs <;> subst hs
  · rcases a with _ | ⟨d, u⟩
    · rfl
    by_cases hd : d = '<'
    · subst hd
      simp [operatorAt] at h
    · simp [skipRedirectOperator, hd]
  · rcases a with _ | ⟨d, u⟩
    · rfl
    by_cases hd : d = '>'
    · subst hd
      simp [operatorAt] at h
    · simp [skipRedirectOperator, hd]
  · rfl
  · rfl

/-! ## The head of the view -/

theorem view_nil : view [] = [] := by
  simp [view, lexemeList_nil, kindsFrom, wordEnd]

theorem view_cons (c : Char) (rest : List Char) :
    view (c :: rest) =
      kindsFrom false ((lexemeAt c rest).1 :: lexemeList (lexemeAt c rest).2) := by
  rw [view, lexemeList_cons]

theorem view_of_operatorAt {s a : List Char} {o : Operator} (h : operatorAt s = some (o, a)) :
    Reaches s a ∧ view s = .op o :: view a := by
  rcases s with _ | ⟨c, r⟩
  · simp [operatorAt] at h
  · have hl : lexemeAt c r = (.op o, a) := by
      unfold lexemeAt
      rw [h]
    refine ⟨.of_lexemeAt hl, ?_⟩
    rw [view_cons, hl]
    simp [kindsFrom, wordEnd, view]

/-- Skipping blanks reads at most the one blank lexeme at the head, which the view does not
show. -/
theorem skipBlanks_reads (cs : List Char) :
    Reaches cs (skipBlanks cs).1 ∧ view (skipBlanks cs).1 = view cs := by
  cases cs with
  | nil => exact ⟨.refl, rfl⟩
  | cons c rest =>
    by_cases hc : isBlank c
    · have hl : lexemeAt c rest =
          (.blank (String.ofList (c :: rest.takeWhile isBlank)), rest.dropWhile isBlank) := by
        unfold lexemeAt
        simp only [operatorAt_eq_none (.inl hc), hc, ↓reduceIte]
      have hs : (skipBlanks (c :: rest)).1 = rest.dropWhile isBlank := by
        simp [skipBlanks, hc]
      rw [hs]
      refine ⟨.of_lexemeAt hl, ?_⟩
      rw [view_cons, hl]
      simp [kindsFrom, wordEnd, view]
    · have hs : (skipBlanks (c :: rest)).1 = c :: rest := by
        simp [skipBlanks, hc]
      rw [hs]
      exact ⟨.refl, rfl⟩

theorem startsPiece_eq (c : Char) : startsPiece c = (isQuote c || !isSpecial c) := rfl

theorem isBlank_eq_false_of_startsPiece {c : Char} (hc : startsPiece c) : isBlank c = false := by
  cases hb : isBlank c
  · rfl
  · simp only [isBlank, Bool.or_eq_true, beq_iff_eq] at hb
    rcases hb with (rfl | rfl) | rfl <;> exact absurd hc (by decide)

/-- A bare run of ordinary characters is never a stray special character. -/
theorem isStray_bare {c : Char} (hc : (!isSpecial c) = true) (l : List Char) :
    (Segment.mk .bare (String.ofList (c :: l))).isStray = false := by
  rw [Segment.isStray_eq_false_iff]
  intro _
  constructor
  all_goals
    intro h
    have := congrArg String.toList h
    simp only [String.toList_ofList] at this
    simp at this
    rw [this.1] at hc
    exact absurd hc (by decide)

/-- Where the check starts a piece, the scanner reads a piece, which fits unless it is a
quotation that the line never closes. -/
theorem lexemeAt_of_startsPiece {c : Char} (rest : List Char) (hc : startsPiece c) :
    ∃ p after, lexemeAt c rest = (.piece p, after) ∧ (p.fits = true ∨ p.unclosed = true) := by
  have hc' := hc
  rw [startsPiece_eq, Bool.or_eq_true] at hc'
  rcases h : lexemeAt c rest with ⟨l, after⟩
  cases l with
  | op o =>
    have hop := lexemeAt_eq_op h
    rw [operatorAt_eq_none (by tauto)] at hop
    cases hop
  | blank run =>
    have hb := (lexemeAt_eq_blank h).1
    rw [isBlank_eq_false_of_startsPiece hc] at hb
    cases hb
  | piece p =>
    refine ⟨p, after, rfl, ?_⟩
    rcases lexemeAt_eq_piece h with
      ⟨hq, body, -, -, rfl⟩ | ⟨-, -, -, rfl⟩ | ⟨hb, run, -, -, -, rfl⟩ |
        ⟨hs, -, rfl⟩
    · left
      simp [Piece.fits, Segment.isStray, quotingOf_ne_bare]
    · right
      rfl
    · left
      simp only [Piece.fits, isStray_bare hb]
      rfl
    · rcases hs with rfl | ⟨rfl, -⟩ <;> exact absurd hc (by decide)

/-- Where the check starts no piece, the scanner reads no piece that fits. -/
theorem lexemeAt_of_not_startsPiece {c : Char} {rest after : List Char} {p : Piece}
    (h : lexemeAt c rest = (.piece p, after)) (hc : startsPiece c = false) :
    p.fits = false ∧ p.unclosed = false := by
  rw [startsPiece_eq, Bool.or_eq_false_iff] at hc
  rcases lexemeAt_eq_piece h with
    ⟨hq, -⟩ | ⟨hq, -⟩ | ⟨hb, -⟩ | ⟨hs, -, rfl⟩
  · simp [hq] at hc
  · simp [hq] at hc
  · simp [hb] at hc
  · rcases hs with rfl | ⟨rfl, -⟩ <;> simp [Piece.fits, Segment.isStray]

/-- Inside a word the view sees a word or junk first. -/
theorem kindsFrom_true_head (ls : List Lexeme) :
    ∃ K, kindsFrom true ls = .word :: K ∨ kindsFrom true ls = .junk :: K := by
  induction ls with
  | nil => exact ⟨[], .inl rfl⟩
  | cons l ls ih =>
    cases l with
    | op o => exact ⟨_, .inl rfl⟩
    | blank run => exact ⟨_, .inl rfl⟩
    | piece p =>
      by_cases hf : p.fits
      · simpa [kindsFrom, hf] using ih
      · by_cases hu : p.unclosed
        · exact ⟨kindsFrom false ls, .inr (by simp [kindsFrom, hf, hu])⟩
        · exact ⟨.junk :: kindsFrom false ls, .inl (by simp [kindsFrom, hf, hu, wordEnd])⟩

/-- Where a piece starts, the view sees what it sees inside a word. -/
theorem view_of_startsPiece {c : Char} (rest : List Char) (hc : startsPiece c) :
    view (c :: rest) = kindsFrom true (lexemeList (c :: rest)) := by
  obtain ⟨p, after, hl, hp⟩ := lexemeAt_of_startsPiece rest hc
  rw [view, lexemeList_cons, hl]
  rcases hp with hf | hu
  · simp [kindsFrom, hf]
  · have hf : p.fits = false := by simp [Piece.fits, hu]
    simp [kindsFrom, hf, hu]

/-- Where no piece starts, the view inside a word sees the word end. -/
theorem kindsFrom_true_of_not_startsPiece {c : Char} (rest : List Char)
    (hc : startsPiece c = false) :
    kindsFrom true (lexemeList (c :: rest)) = .word :: view (c :: rest) := by
  rw [view_cons, lexemeList_cons]
  rcases h : lexemeAt c rest with ⟨l, after⟩
  cases l with
  | op o => simp [kindsFrom, wordEnd]
  | blank run => simp [kindsFrom, wordEnd]
  | piece p =>
    obtain ⟨hf, hu⟩ := lexemeAt_of_not_startsPiece h hc
    simp [kindsFrom, hf, hu, wordEnd]

/-- At a head that is no blank the check finds an operator, starts a piece, or sees junk. -/
theorem view_cons_cases {c : Char} (rest : List Char) (hb : isBlank c = false) :
    (∃ o a, operatorAt (c :: rest) = some (o, a)) ∨ startsPiece c = true ∨
      ∃ K, view (c :: rest) = .junk :: K := by
  rcases hop : operatorAt (c :: rest) with _ | ⟨o, a⟩
  · cases hc : startsPiece c with
    | true => exact .inr (.inl rfl)
    | false =>
      right; right
      rcases h : lexemeAt c rest with ⟨l, after⟩
      cases l with
      | op o =>
        rw [lexemeAt_eq_op h] at hop
        cases hop
      | blank run =>
        rw [(lexemeAt_eq_blank h).1] at hb
        cases hb
      | piece p =>
        obtain ⟨hf, hu⟩ := lexemeAt_of_not_startsPiece h hc
        exact ⟨kindsFrom false (lexemeList after), by
          rw [view_cons, h]
          simp [kindsFrom, hf, hu, wordEnd]⟩
  · exact .inl ⟨o, a, rfl⟩

theorem view_eq_nil_iff (cs : List Char) : view cs = [] ↔ (skipBlanks cs).1 = [] := by
  obtain ⟨-, hview⟩ := skipBlanks_reads cs
  rw [← hview]
  constructor
  · intro h
    rcases hs : (skipBlanks cs).1 with _ | ⟨c, r⟩
    · rfl
    rw [hs] at h
    rcases view_cons_cases r (eq_of_dropWhile_eq_cons hs) with ⟨o, a, hop⟩ | hc | ⟨K, hK⟩
    · simp [(view_of_operatorAt hop).2] at h
    · obtain ⟨K, hK | hK⟩ := kindsFrom_true_head (lexemeList (c :: r)) <;>
        simp [view_of_startsPiece r hc, hK] at h
    · simp [hK] at h
  · intro h
    rw [h, view_nil]

/-- Where the view starts with an operator, the check finds that operator after the blanks. -/
theorem operatorAt_of_view {cs : List Char} {K : List Kind} {o : Operator}
    (h : view cs = .op o :: K) :
    ∃ a, operatorAt (skipBlanks cs).1 = some (o, a) ∧ view a = K := by
  obtain ⟨-, hview⟩ := skipBlanks_reads cs
  rw [← hview] at h
  rcases hs : (skipBlanks cs).1 with _ | ⟨c, r⟩
  · rw [hs, view_nil] at h
    cases h
  rw [hs] at h
  rcases view_cons_cases r (eq_of_dropWhile_eq_cons hs) with ⟨o', a, hop⟩ | hc | ⟨K', hK⟩
  · rw [(view_of_operatorAt hop).2] at h
    simp only [List.cons.injEq, Kind.op.injEq] at h
    obtain ⟨rfl, rfl⟩ := h
    exact ⟨a, hop, rfl⟩
  · obtain ⟨K', hK | hK⟩ := kindsFrom_true_head (lexemeList (c :: r)) <;>
      simp [view_of_startsPiece r hc, hK] at h
  · simp [hK] at h

/-! ## Words -/

theorem lexemeAt_of_isQuote {c : Char} (rest : List Char) (hq : isQuote c) :
    lexemeAt c rest = quotation c rest := by
  have hb : isBlank c = false :=
    isBlank_eq_false_of_startsPiece (by rw [startsPiece_eq, hq]; rfl)
  unfold lexemeAt
  simp only [operatorAt_eq_none (.inr (.inl hq)), hb, Bool.false_eq_true, ↓reduceIte,
    show (c == '\'' || c == '"') = true from hq]

theorem lexemeAt_of_bare {c : Char} (rest : List Char) (hc : (!isSpecial c) = true) :
    lexemeAt c rest = barePiece c rest := by
  have hb : isBlank c = false :=
    isBlank_eq_false_of_startsPiece (by rw [startsPiece_eq, hc, Bool.or_true])
  unfold lexemeAt
  simp only [operatorAt_eq_none (.inr (.inr (.inl hc))), hb, Bool.false_eq_true, ↓reduceIte,
    show (c == '\'' || c == '"') = false from isQuote_eq_false_of_not_isSpecial hc]

/-- Reading the pieces of a word takes the piece the scanner reads, and stops at a quotation
that the line never closes. -/
theorem pieces_cons_piece {c : Char} {rest after : List Char} {p : Piece}
    (hl : lexemeAt c rest = (.piece p, after)) (hc : startsPiece c) :
    (pieces (c :: rest)).map Subtype.val =
      if p.unclosed then .error (.unclosed c (c :: rest))
      else (pieces after).map Subtype.val := by
  rw [pieces_cons]
  by_cases hq : isQuote c
  · rw [if_pos hq]
    rw [lexemeAt_of_isQuote rest hq] at hl
    unfold quotation at hl
    split at hl
    · rename_i d after' hd
      simp only [Prod.mk.injEq, Lexeme.piece.injEq] at hl
      obtain ⟨rfl, rfl⟩ := hl
      rw [closeQuotation_of_cons hd]
      rfl
    · rename_i hd
      simp only [Prod.mk.injEq, Lexeme.piece.injEq] at hl
      obtain ⟨rfl, rfl⟩ := hl
      rw [closeQuotation_of_nil hd]
      rfl
  · have hb : (!isSpecial c) = true := by
      rw [startsPiece_eq, Bool.or_eq_true] at hc
      exact hc.resolve_left hq
    rw [if_neg hq, if_pos hb]
    rw [lexemeAt_of_bare rest hb] at hl
    unfold barePiece at hl
    rw [if_neg (by simpa using hb)] at hl
    simp only [Prod.mk.injEq, Lexeme.piece.injEq] at hl
    obtain ⟨rfl, rfl⟩ := hl
    rfl

/-- Reading the pieces of a word ends where the view inside the word sees the word end, or
stops at a quotation that the line never closes, where that view sees junk. -/
theorem pieces_cases : (cs : List Char) →
    (∃ r, (pieces cs).map Subtype.val = .ok r ∧ Reaches cs r ∧
      kindsFrom true (lexemeList cs) = .word :: view r) ∨
    (∃ q r, (pieces cs).map Subtype.val = .error (.unclosed q r) ∧ Reaches cs r ∧
      StartsUnclosed r ∧ ∃ K, kindsFrom true (lexemeList cs) = .junk :: K)
  | [] => .inl ⟨[], pieces_nil, .refl, by simp [lexemeList_nil, kindsFrom, wordEnd, view_nil]⟩
  | c :: rest => by
    cases hc : startsPiece c with
    | false =>
      refine .inl ⟨c :: rest, ?_, .refl, kindsFrom_true_of_not_startsPiece rest hc⟩
      rw [pieces_cons]
      have hq : isQuote c = false := by
        rw [startsPiece_eq, Bool.or_eq_false_iff] at hc
        exact hc.1
      have hb : (!isSpecial c) = false := by
        rw [startsPiece_eq, Bool.or_eq_false_iff] at hc
        exact hc.2
      simp [hq, hb]
    | true =>
      obtain ⟨p, after, hl, hp⟩ := lexemeAt_of_startsPiece rest hc
      rw [pieces_cons_piece hl hc]
      rcases hp with hf | hu
      · -- a piece that fits: the word goes on after it
        have hu : p.unclosed = false := by
          simp only [Piece.fits, Bool.and_eq_true, Bool.not_eq_eq_eq_not, Bool.not_true] at hf
          exact hf.1
        have hk : kindsFrom true (lexemeList (c :: rest)) = kindsFrom true (lexemeList after) := by
          rw [lexemeList_cons, hl]
          simp [kindsFrom, hf]
        have hreach : Reaches (c :: rest) after := .of_lexemeAt hl
        rw [if_neg (by simp [hu]), hk]
        rcases pieces_cases after with ⟨r, hw, hr, hv⟩ | ⟨q, r, hw, hr, ho, hv⟩
        · exact .inl ⟨r, hw, hreach.trans hr, hv⟩
        · exact .inr ⟨q, r, hw, hreach.trans hr, ho, hv⟩
      · -- a quotation that the line never closes ends the line
        have hafter := lexemeAt_unclosed hl hu
        subst hafter
        have hf : p.fits = false := by simp [Piece.fits, hu]
        refine .inr ⟨c, c :: rest, by rw [if_pos hu], .refl, ⟨c, rest, p, rfl, hl, hu⟩,
          kindsFrom false (lexemeList []), ?_⟩
        rw [lexemeList_cons, hl]
        simp [kindsFrom, hf, hu]
termination_by cs => cs.length
decreasing_by
  have h := length_lexemeAt_le c rest
  rw [hl] at h
  exact Nat.lt_succ_of_le h

/-- Reading a word after the blanks: it ends where the view sees a word end, or it stops at a
quotation that the line never closes or where no word starts, and then the view sees no word
there. -/
theorem word_cases (cs : List Char) :
    (∃ r, (word (skipBlanks cs).1).map Subtype.val = .ok r ∧ Reaches cs r ∧
      view cs = .word :: view r) ∨
    (∃ q r, (word (skipBlanks cs).1).map Subtype.val = .error (.unclosed q r) ∧ Reaches cs r ∧
      StartsUnclosed r ∧ ∀ K, view cs ≠ .word :: K) ∨
    ((∃ e, (word (skipBlanks cs).1).map Subtype.val = .error (.unexpected e)) ∧
      ∀ K, view cs ≠ .word :: K) := by
  obtain ⟨hreach, hview⟩ := skipBlanks_reads cs
  rw [← hview]
  rcases hs : (skipBlanks cs).1 with _ | ⟨c, r⟩
  · exact .inr (.inr ⟨⟨_, word_nil⟩, by simp [view_nil]⟩)
  have hreach' : Reaches cs (c :: r) := hs ▸ hreach
  cases hc : startsPiece c with
  | true =>
    rw [word_cons, if_pos hc, view_of_startsPiece r hc]
    rcases pieces_cases (c :: r) with ⟨r', hw, hr, hv⟩ | ⟨q, r', hw, hr, ho, K, hv⟩
    · exact .inl ⟨r', hw, hreach'.trans hr, hv⟩
    · exact .inr (.inl ⟨q, r', hw, hreach'.trans hr, ho, by simp [hv]⟩)
  | false =>
    rw [word_cons, if_neg (by simp [hc])]
    refine .inr (.inr ⟨⟨_, rfl⟩, fun K hK => ?_⟩)
    rcases view_cons_cases r (eq_of_dropWhile_eq_cons hs) with ⟨o, a, hop⟩ | hc' | ⟨K', hK'⟩
    · simp [(view_of_operatorAt hop).2] at hK
    · rw [hc] at hc'
      cases hc'
    · simp [hK'] at hK

/-- Where the view starts with a word, the check reads that word. -/
theorem word_complete {cs : List Char} {K : List Kind} (h : view cs = .word :: K) :
    ∃ r, (word (skipBlanks cs).1).map Subtype.val = .ok r ∧ view r = K := by
  rcases word_cases cs with ⟨r, hw, -, hv⟩ | ⟨_, _, -, -, -, hne⟩ | ⟨-, hne⟩
  · rw [h, List.cons.injEq] at hv
    exact ⟨r, hw, hv.2.symm⟩
  · exact absurd h (hne K)
  · exact absurd h (hne K)

end Conch.Syntax
