import Conch.Proofs.Lexemes
import Mathlib

/-!
# Tokens tile their line

The tokens of a line lie in it in order and lose nothing but blanks: the line is a run of
blanks, the source of the first token at its offset, a run of blanks, the source of the
next token, and so on, and the run between two words is never empty (`Layout`).  A word is
made of the pieces the scanner read: its text joins their texts, its raw text joins them
written with their quotes, and a word with no quoted piece is never empty.

Scanning fails exactly when a quote that a left-to-right reading opens is never closed
(`openQuote`).

Main statement: `tokenize_layout`.
-/

set_option autoImplicit false

namespace Conch

/-- The text a token was read from: an operator's spelling, or a word's raw text. -/
def Token.source : Token → String
  | .op o _ => o.spelling
  | .word w _ => w.raw

/-- A segment as it is written in the line: a quoted segment inside its quotes. -/
def Segment.requoted (s : Segment) : String :=
  match s.quoting with
  | .bare => s.text
  | .single => "'" ++ s.text ++ "'"
  | .double => "\"" ++ s.text ++ "\""

end Conch

namespace Conch.Syntax

/-! ## Layout -/

/-- `Layout afterWord n ts cs`: the characters `cs`, which start at byte `n` of the line,
are a run of blanks, the source of the first token of `ts` at its offset, a run of blanks,
the source of the next token, and so on to the end.  The run of blanks between two words is
never empty; `afterWord` says that a word ends right before `cs`. -/
inductive Layout : Bool → Nat → List Token → List Char → Prop
  | blanks {afterWord : Bool} {n : Nat} {gap : List Char} :
      (∀ c ∈ gap, isBlank c) → Layout afterWord n [] gap
  | token {afterWord : Bool} {n : Nat} {gap : List Char} {t : Token} {ts : List Token}
      {cs : List Char} :
      (∀ c ∈ gap, isBlank c) → (afterWord → t.isWord → gap ≠ []) →
      t.offset = n + byteLength gap →
      Layout t.isWord (t.offset + byteLength t.source.toList) ts cs →
      Layout afterWord n (t :: ts) (gap ++ t.source.toList ++ cs)

namespace Layout

theorem blanks_append {afterWord : Bool} {n : Nat} {ts : List Token} {g cs : List Char}
    (hg : ∀ c ∈ g, isBlank c) (hne : afterWord → g ≠ [])
    (h : Layout false (n + byteLength g) ts cs) : Layout afterWord n ts (g ++ cs) := by
  cases h with
  | blanks hgap => exact .blanks (fun c hc => (List.mem_append.1 hc).elim (hg c) (hgap c))
  | token hgap _ hoff rest =>
    rw [← List.append_assoc, ← List.append_assoc]
    refine .token (fun c hc => (List.mem_append.1 hc).elim (hg c) (hgap c)) ?_ ?_ rest
    · intro hb _ hnil
      exact hne hb (List.append_eq_nil_iff.1 hnil).1
    · rw [hoff, byteLength_append, Nat.add_assoc]

theorem cons {afterWord : Bool} {t : Token} {ts : List Token} {cs : List Char}
    (hword : afterWord → t.isWord → False)
    (h : Layout t.isWord (t.offset + byteLength t.source.toList) ts cs) :
    Layout afterWord t.offset (t :: ts) (t.source.toList ++ cs) := by
  have := @Layout.token afterWord t.offset [] t ts cs (by simp)
    (fun hb ht => (hword hb ht).elim) (by simp [byteLength_nil]) h
  simpa using this

end Layout

/-! ## Assembling words -/

/-- The source text of the pieces of a word read so far. -/
def OpenWord.raw (w : OpenWord) : String := String.join (w.reversed.reverse.map (·.raw))

theorem OpenWord.raw_single (p : Piece) (n : Nat) (r : Option Redirect) :
    (OpenWord.mk [p] n r).raw = p.raw := by
  simp [OpenWord.raw, String.join_cons, String.join_nil]

theorem OpenWord.raw_push (w : OpenWord) (p : Piece) :
    ({ w with reversed := p :: w.reversed } : OpenWord).raw = w.raw ++ p.raw := by
  simp [OpenWord.raw, String.join_append, String.join_cons, String.join_nil]

@[simp] theorem Token.isWord_op (o : Operator) (n : Nat) : (Token.op o n).isWord = false := rfl

@[simp] theorem Token.isWord_word (w : Word) (n : Nat) : (Token.word w n).isWord = true := rfl

theorem layout_close {w : OpenWord} {ts : List Token} {cs : List Char}
    (h : Layout true (w.offset + byteLength w.raw.toList) ts cs) :
    Layout false w.offset (OpenWord.close (some w) ts) (w.raw.toList ++ cs) :=
  Layout.cons (t := .word (Word.ofPieces w.redirect w.reversed.reverse) w.offset)
    (fun h => nomatch h) h

/-- The words and operators assembled from the lexemes of `cs` tile `cs`.  The second part
is for a word whose first pieces were read before `cs`. -/
theorem layout_assemble (n : Nat) (cs : List Char) (pending : Option Redirect) :
    Layout false n (assemble pending none (lexemes n cs)) cs ∧
    ∀ w : OpenWord, w.offset + byteLength w.raw.toList = n →
      Layout false w.offset (assemble pending (some w) (lexemes n cs)) (w.raw.toList ++ cs) := by
  fun_induction lexemes n cs generalizing pending with
  | case1 n =>
    refine ⟨.blanks (by simp), fun w _ => ?_⟩
    exact layout_close (.blanks (by simp))
  | case2 n c rest step ih =>
    have hsrc : step.1.source.toList ++ step.2 = c :: rest := lexemeAt_source c rest
    have hstep : lexemeAt c rest = step := rfl
    clear_value step
    obtain ⟨l, after⟩ := step
    rw [← hsrc]
    rw [utf8ByteSize_eq_byteLength] at ih ⊢
    simp only at ih hsrc ⊢
    cases l with
    | op o =>
      have hop : Layout false n (.op o n :: assemble o.redirect? none
          (lexemes (n + byteLength o.spelling.toList) after)) (o.spelling.toList ++ after) :=
        Layout.cons (t := .op o n) (by simp) (ih o.redirect?).1
      simp only [assemble, OpenWord.close]
      refine ⟨hop, fun w hw => layout_close ?_⟩
      rw [hw]
      exact Layout.cons (t := .op o n) (by simp) (ih o.redirect?).1
    | blank run =>
      obtain ⟨hc, rfl, -⟩ := lexemeAt_eq_blank hstep
      have hg : ∀ x ∈ (String.ofList (c :: rest.takeWhile isBlank)).toList, isBlank x := by
        intro x hx
        rw [String.toList_ofList, List.mem_cons] at hx
        rcases hx with rfl | hx
        · exact hc
        · exact List.mem_takeWhile_imp hx
      simp only [assemble, OpenWord.close]
      refine ⟨Layout.blanks_append hg (by simp) (ih pending).1, fun w hw => ?_⟩
      refine layout_close (Layout.blanks_append hg (by simp [Lexeme.source]) ?_)
      rw [hw]
      exact (ih pending).1
    | piece p =>
      simp only [assemble]
      refine ⟨?_, fun w hw => ?_⟩
      · have := (ih none).2 ⟨[p], n, pending⟩ (by rw [OpenWord.raw_single]; rfl)
        rwa [OpenWord.raw_single] at this
      · have := (ih pending).2 { w with reversed := p :: w.reversed }
          (by rw [OpenWord.raw_push, String.toList_append, byteLength_append, ← Nat.add_assoc, hw]; rfl)
        rwa [OpenWord.raw_push, String.toList_append, List.append_assoc] at this

/-! ## Words -/

/-- What the scanner guarantees of a piece: it reads at least one character, a bare piece
is never empty, and a piece whose quotation is closed is written as its segment
requoted. -/
structure Piece.Sound (p : Piece) : Prop where
  raw_ne : p.raw ≠ ""
  text_ne : p.segment.quoting = .bare → p.segment.text ≠ ""
  raw_eq : p.unclosed = false → p.raw = p.segment.requoted

theorem quotingOf_ne_bare (q : Char) : quotingOf q ≠ .bare := by
  unfold quotingOf
  split <;> simp

theorem requoted_quotation {q : Char} (hq : isQuote q) (body : List Char) :
    (Segment.mk (quotingOf q) (String.ofList body)).requoted =
      String.ofList (q :: body ++ [q]) := by
  simp only [isQuote, Bool.or_eq_true, beq_iff_eq] at hq
  apply String.toList_injective
  rcases hq with rfl | rfl <;> simp [quotingOf, Segment.requoted]

theorem piece_sound {c : Char} {rest after : List Char} {p : Piece}
    (h : lexemeAt c rest = (.piece p, after)) : p.Sound := by
  rcases lexemeAt_eq_piece h with
    ⟨hq, body, -, -, rfl⟩ | ⟨hq, -, -, rfl⟩ | ⟨-, run, -, -, -, rfl⟩ | ⟨-, -, rfl⟩
  · exact ⟨by simp, fun h => absurd h (quotingOf_ne_bare c),
      fun _ => (requoted_quotation hq body).symm⟩
  · exact ⟨by simp, fun h => absurd h (quotingOf_ne_bare c), fun h => nomatch h⟩
  · exact ⟨by simp, fun _ => by simp, fun _ => rfl⟩
  · exact ⟨by simp, fun _ => by simp, fun _ => rfl⟩

/-- A word as the scanner makes it: one or more sound pieces, joined by `Word.ofPieces`. -/
def ScannedWord (w : Word) : Prop :=
  ∃ r ps, ps ≠ [] ∧ (∀ p ∈ ps, p.Sound) ∧ w = Word.ofPieces r ps

/-- Closing a word of sound pieces adds a scanned word in front of the tokens. -/
theorem scannedWord_close {current : Option OpenWord}
    (hcur : ∀ w ∈ current, w.reversed ≠ [] ∧ ∀ p ∈ w.reversed, p.Sound)
    {ts : List Token} {w : Word} {k : Nat} (hmem : Token.word w k ∈ OpenWord.close current ts) :
    ScannedWord w ∨ Token.word w k ∈ ts := by
  cases current with
  | none => exact .inr hmem
  | some v =>
    simp only [OpenWord.close, List.mem_cons, Token.word.injEq] at hmem
    rcases hmem with ⟨rfl, -⟩ | hmem
    · obtain ⟨hne, hsound⟩ := hcur v rfl
      exact .inl ⟨_, _, by simpa using hne, fun p hp => hsound p (List.mem_reverse.1 hp), rfl⟩
    · exact .inr hmem

/-- Every word assembled from the lexemes of a line is made of sound pieces. -/
theorem scannedWord_assemble (n : Nat) (cs : List Char) (pending : Option Redirect)
    (current : Option OpenWord)
    (hcur : ∀ w ∈ current, w.reversed ≠ [] ∧ ∀ p ∈ w.reversed, p.Sound) :
    ∀ w k, Token.word w k ∈ assemble pending current (lexemes n cs) → ScannedWord w := by
  fun_induction lexemes n cs generalizing pending current with
  | case1 n =>
    intro w k hmem
    simp only [assemble] at hmem
    exact (scannedWord_close hcur hmem).resolve_right (by simp)
  | case2 n c rest step ih =>
    have hstep : lexemeAt c rest = step := rfl
    clear_value step
    obtain ⟨l, after⟩ := step
    intro w k hmem
    cases l with
    | op o =>
      simp only [assemble] at hmem
      rcases scannedWord_close hcur hmem with hw | hmem
      · exact hw
      · simp only [List.mem_cons, reduceCtorEq, false_or] at hmem
        exact ih o.redirect? none (by simp) w k hmem
    | blank run =>
      simp only [assemble] at hmem
      rcases scannedWord_close hcur hmem with hw | hmem
      · exact hw
      · exact ih pending none (by simp) w k hmem
    | piece p =>
      have hp := piece_sound hstep
      cases current with
      | none =>
        exact ih none (some ⟨[p], n, pending⟩) (by simpa using hp) w k hmem
      | some v =>
        obtain ⟨-, hsound⟩ := hcur v rfl
        refine ih pending (some { v with reversed := p :: v.reversed }) ?_ w k hmem
        simp only [Option.mem_def, Option.some.injEq, forall_eq', ne_eq, reduceCtorEq,
          not_false_eq_true, List.mem_cons, forall_eq_or_imp, true_and]
        exact ⟨hp, hsound⟩

namespace ScannedWord

variable {w : Word}

theorem segments_ne (h : ScannedWord w) : w.segments ≠ [] := by
  obtain ⟨r, ps, hne, -, rfl⟩ := h
  simpa [Word.ofPieces] using hne

theorem text_eq (h : ScannedWord w) : w.text = String.join (w.segments.map (·.text)) := by
  obtain ⟨r, ps, -, -, rfl⟩ := h
  simp [Word.ofPieces, Function.comp_def]

theorem fields_eq (h : ScannedWord w) : w.fields = [w.text] := by
  obtain ⟨r, ps, -, -, rfl⟩ := h
  rfl

theorem raw_eq (h : ScannedWord w) (hclosed : w.unclosed = false) :
    w.raw = String.join (w.segments.map Segment.requoted) := by
  obtain ⟨r, ps, -, hsound, rfl⟩ := h
  simp only [Word.ofPieces, List.any_eq_false, Bool.not_eq_true] at hclosed ⊢
  rw [List.map_map]
  congr 1
  exact List.map_congr_left fun p hp => (hsound p hp).raw_eq (hclosed p hp)

/-- A word with no quoted piece is never empty: bare pieces are not. -/
theorem text_ne (h : ScannedWord w) (hbare : w.isQuoted = false) : w.text ≠ "" := by
  obtain ⟨r, ps, hne, hsound, rfl⟩ := h
  obtain ⟨p, hp⟩ := List.exists_mem_of_ne_nil ps hne
  have hpbare : p.segment.quoting = .bare := by
    simp only [Word.isQuoted, Word.ofPieces, List.any_map, List.any_eq_false,
      Function.comp_apply] at hbare
    simpa using hbare p hp
  have hptext := (hsound p hp).text_ne hpbare
  intro htext
  apply hptext
  apply String.toList_injective
  have := congrArg String.toList htext
  simp only [Word.ofPieces, String.toList_join, List.flatMap_eq_nil_iff, List.mem_map,
    forall_exists_index, and_imp, forall_apply_eq_imp_iff₂, String.toList_empty] at this
  simpa using this p hp

end ScannedWord

/-- Nothing that scanning assembles is an empty bare word. -/
theorem keepsToken_of_scanned {t : Token} (h : ∀ w k, t = .word w k → ScannedWord w) :
    keepsToken t := by
  cases t with
  | op o k => rfl
  | word w k =>
    simp only [keepsToken, Bool.or_eq_true, Bool.not_eq_true']
    by_cases hq : w.isQuoted
    · exact .inl (.inl hq)
    · exact .inr (by simpa [String.isEmpty_iff] using (h w k rfl).text_ne (by simpa using hq))

theorem dropEmptyWords_assemble (cs : List Char) :
    dropEmptyWords (assemble none none (lexemes 0 cs)) = assemble none none (lexemes 0 cs) := by
  rw [dropEmptyWords, List.filter_eq_self]
  intro t ht
  refine keepsToken_of_scanned fun w k hw => ?_
  subst hw
  exact scannedWord_assemble 0 cs none none (by simp) w k ht

/-! ## Quotations left open -/

/-- One character of a left-to-right reading that follows quotations: outside a quotation a
quote opens one, and inside it the same quote closes it. -/
def quoteStep : Option Char → Char → Option Char
  | none, c => if isQuote c then some c else none
  | some q, c => if c == q then none else some q

/-- The quote that a left-to-right reading of the characters is still inside at their end. -/
def openQuote (cs : List Char) : Option Char := cs.foldl quoteStep none

/-- Whether a lexeme is a quotation that the line never closes. -/
def Lexeme.isUnclosed : Lexeme → Bool
  | .piece p => p.unclosed
  | _ => false

theorem foldl_quoteStep_none {xs : List Char} (h : ∀ x ∈ xs, isQuote x = false) :
    xs.foldl quoteStep none = none := by
  induction xs with
  | nil => rfl
  | cons x xs ih =>
    simp only [List.foldl_cons, quoteStep, h x List.mem_cons_self]
    exact ih fun y hy => h y (List.mem_cons_of_mem x hy)

theorem foldl_quoteStep_some {q : Char} {xs : List Char} (h : q ∉ xs) :
    xs.foldl quoteStep (some q) = some q := by
  induction xs with
  | nil => rfl
  | cons x xs ih =>
    have hx : x ≠ q := fun hx => h (hx ▸ List.mem_cons_self)
    simp only [List.foldl_cons, quoteStep, beq_iff_eq, hx, if_false]
    exact ih fun hq => h (List.mem_cons_of_mem x hq)

theorem isQuote_eq_false_of_not_isSpecial {c : Char} (h : (!isSpecial c) = true) :
    isQuote c = false := by
  cases hq : isQuote c
  · rfl
  · simp [isSpecial_of_isQuote hq] at h

/-- Reading a lexeme's source leaves the reading inside a quotation exactly when the lexeme
is a quotation the line never closes. -/
theorem foldl_quoteStep_source {c : Char} {rest after : List Char} {l : Lexeme}
    (h : lexemeAt c rest = (l, after)) :
    l.source.toList.foldl quoteStep none = if l.isUnclosed then some c else none := by
  cases l with
  | op o =>
    apply foldl_quoteStep_none
    rcases o with _ | (_ | _ | _ | _) | _ | _ <;> simp [Lexeme.source, Operator.spelling, isQuote]
  | blank run =>
    obtain ⟨hc, rfl, -⟩ := lexemeAt_eq_blank h
    apply foldl_quoteStep_none
    intro x hx
    simp only [Lexeme.source, String.toList_ofList, List.mem_cons] at hx
    have hb : isBlank x := hx.elim (· ▸ hc) List.mem_takeWhile_imp
    simp only [isBlank, Bool.or_eq_true, beq_iff_eq] at hb
    rcases hb with (rfl | rfl) | rfl <;> rfl
  | piece p =>
    rcases lexemeAt_eq_piece h with
      ⟨hq, body, -, hbody, rfl⟩ | ⟨hq, hrest, -, rfl⟩ | ⟨hc, run, -, hrun, -, rfl⟩ | ⟨hc, -, rfl⟩
    · simp [Lexeme.source, Lexeme.isUnclosed, List.foldl_append, quoteStep, hq,
        foldl_quoteStep_some hbody]
    · simp [Lexeme.source, Lexeme.isUnclosed, quoteStep, hq, foldl_quoteStep_some hrest]
    · apply foldl_quoteStep_none
      intro x hx
      simp only [Lexeme.source, String.toList_ofList, List.mem_cons] at hx
      rcases hx with rfl | hx
      · exact isQuote_eq_false_of_not_isSpecial hc
      · exact isQuote_eq_false_of_not_isSpecial (hrun x hx)
    · apply foldl_quoteStep_none
      rcases hc with rfl | ⟨rfl, -⟩ <;> simp [Lexeme.source, isQuote]

/-- A left-to-right reading ends inside a quotation exactly when the scanner meets a
quotation that the line never closes. -/
theorem openQuote_ne_none_iff (n : Nat) (cs : List Char) :
    openQuote cs ≠ none ↔ ∃ lk ∈ lexemes n cs, lk.1.isUnclosed := by
  fun_induction lexemes n cs with
  | case1 n => simp [openQuote]
  | case2 n c rest step ih =>
    have hsrc : step.1.source.toList ++ step.2 = c :: rest := lexemeAt_source c rest
    have hstep : lexemeAt c rest = step := rfl
    clear_value step
    obtain ⟨l, after⟩ := step
    have hfold := foldl_quoteStep_source hstep
    simp only [List.mem_cons, exists_eq_or_imp]
    rw [openQuote, ← hsrc, List.foldl_append, hfold]
    cases hl : l.isUnclosed with
    | true =>
      cases l with
      | piece p =>
        rw [lexemeAt_unclosed hstep hl]
        simp
      | _ => simp [Lexeme.isUnclosed] at hl
    | false => simpa [openQuote] using ih

/-- Whether a word being read has a quotation that the line never closes. -/
def OpenWord.isUnclosed (current : Option OpenWord) : Bool :=
  match current with
  | some w => w.reversed.any (·.unclosed)
  | none => false

@[simp] theorem Token.isUnclosed_op (o : Operator) (k : Nat) :
    Token.isUnclosed (.op o k) = false := rfl

@[simp] theorem Lexeme.isUnclosed_op (o : Operator) : (Lexeme.op o).isUnclosed = false := rfl

@[simp] theorem Lexeme.isUnclosed_blank (run : String) :
    (Lexeme.blank run).isUnclosed = false := rfl

@[simp] theorem Lexeme.isUnclosed_piece (p : Piece) : (Lexeme.piece p).isUnclosed = p.unclosed :=
  rfl

@[simp] theorem OpenWord.isUnclosed_none : OpenWord.isUnclosed none = false := rfl

theorem OpenWord.isUnclosed_push (w : OpenWord) (p : Piece) :
    OpenWord.isUnclosed (some { w with reversed := p :: w.reversed }) =
      (p.unclosed || OpenWord.isUnclosed (some w)) := by
  simp [OpenWord.isUnclosed]

/-- A property that a word has exactly when one of its pieces has it holds of some assembled
word exactly when it holds of a piece read. -/
theorem exists_word_assemble (P : Piece → Bool) (W : Word → Bool)
    (hW : ∀ r ps, W (Word.ofPieces r ps) = ps.any P) (pending : Option Redirect)
    (current : Option OpenWord) (ls : List (Lexeme × Nat)) :
    (∃ w n, Token.word w n ∈ assemble pending current ls ∧ W w) ↔
      (∃ w ∈ current, w.reversed.any P) ∨ ∃ p n, (Lexeme.piece p, n) ∈ ls ∧ P p := by
  have hclose : ∀ (current : Option OpenWord) (ts : List Token),
      (∃ w n, Token.word w n ∈ OpenWord.close current ts ∧ W w) ↔
        (∃ w ∈ current, w.reversed.any P) ∨ ∃ w n, Token.word w n ∈ ts ∧ W w := by
    intro current ts
    cases current with
    | none => simp [OpenWord.close]
    | some cw => simp [OpenWord.close, hW, or_and_right, exists_or]
  induction ls generalizing pending current with
  | nil =>
    simp only [assemble]
    rw [hclose]
    simp
  | cons lk ls ih =>
    obtain ⟨l, k⟩ := lk
    cases l with
    | op o =>
      simp only [assemble]
      rw [hclose]
      simp only [List.mem_cons, reduceCtorEq, false_or, ih]
      simp [Prod.mk.injEq]
    | blank run =>
      simp only [assemble]
      rw [hclose]
      simp only [ih]
      simp [Prod.mk.injEq]
    | piece p =>
      cases current with
      | none =>
        simp only [assemble]
        simp only [ih]
        simp [or_and_right, exists_or]
      | some w =>
        simp only [assemble]
        simp only [ih]
        simp [or_and_right, exists_or, or_assoc]
        exact or_left_comm

/-- A token is left unclosed exactly when one of its pieces is. -/
theorem exists_unclosed_assemble (pending : Option Redirect) (current : Option OpenWord)
    (ls : List (Lexeme × Nat)) :
    (∃ t ∈ assemble pending current ls, Token.isUnclosed t) ↔
      OpenWord.isUnclosed current ∨ ∃ lk ∈ ls, lk.1.isUnclosed := by
  have htokens : ∀ ts : List Token,
      (∃ t ∈ ts, Token.isUnclosed t) ↔ ∃ w n, Token.word w n ∈ ts ∧ w.unclosed := by
    intro ts
    constructor
    · rintro ⟨t | ⟨w, n⟩, ht, hu⟩
      · simp at hu
      · exact ⟨w, n, ht, hu⟩
    · rintro ⟨w, n, hw, hu⟩
      exact ⟨_, hw, hu⟩
  have hlexemes : (∃ lk ∈ ls, lk.1.isUnclosed) ↔
      ∃ p n, (Lexeme.piece p, n) ∈ ls ∧ p.unclosed := by
    constructor
    · rintro ⟨⟨l, n⟩, hl, hu⟩
      cases l with
      | piece p => exact ⟨p, n, hl, hu⟩
      | _ => simp at hu
    · rintro ⟨p, n, hp, hu⟩
      exact ⟨_, hp, hu⟩
  have hcurrent : OpenWord.isUnclosed current ↔ ∃ w ∈ current, w.reversed.any (·.unclosed) := by
    cases current <;> simp [OpenWord.isUnclosed]
  rw [htokens, hlexemes, hcurrent]
  exact exists_word_assemble Piece.unclosed Word.unclosed (fun _ _ => rfl) pending current ls

/-! ## Where tokens stand -/

namespace Layout

/-- Offsets strictly increase along a layout whose tokens all read something. -/
theorem offsets {afterWord : Bool} {n : Nat} {ts : List Token} {cs : List Char}
    (h : Layout afterWord n ts cs) (hne : ∀ t ∈ ts, t.source ≠ "") :
    (ts.map Token.offset).Pairwise (· < ·) ∧ ∀ t ∈ ts, n ≤ t.offset := by
  induction h with
  | blanks => simp
  | @token afterWord n gap t ts cs _ _ hoff _ ih =>
    obtain ⟨hpair, hge⟩ := ih fun u hu => hne u (List.mem_cons_of_mem t hu)
    have hpos : 0 < byteLength t.source.toList := by
      refine Nat.pos_of_ne_zero fun hzero => hne t List.mem_cons_self ?_
      exact String.toList_injective (by simpa using byteLength_eq_zero_iff.1 hzero)
    refine ⟨List.pairwise_cons.2 ⟨?_, hpair⟩, ?_⟩
    · intro k hk
      obtain ⟨u, hu, rfl⟩ := List.mem_map.1 hk
      have := hge u hu
      omega
    · intro u hu
      rcases List.mem_cons.1 hu with rfl | hu
      · omega
      · have := hge u hu
        omega

/-- Each token's source is the slice of the characters that starts at its offset. -/
theorem slice {afterWord : Bool} {n : Nat} {ts : List Token} {cs : List Char}
    (h : Layout afterWord n ts cs) {t : Token} (ht : t ∈ ts) :
    ∃ pre post, cs = pre ++ t.source.toList ++ post ∧ n + byteLength pre = t.offset := by
  induction h with
  | blanks => simp at ht
  | @token afterWord n gap u us cs _ _ hoff _ ih =>
    rcases List.mem_cons.1 ht with rfl | ht
    · exact ⟨gap, cs, rfl, hoff.symm⟩
    · obtain ⟨pre, post, rfl, hpre⟩ := ih ht
      refine ⟨gap ++ u.source.toList ++ pre, post, by simp, ?_⟩
      rw [← hpre, byteLength_append, byteLength_append, hoff]
      omega

end Layout

/-- The tokens of a line before the check for quotations left open. -/
def scan (line : String) : List Token :=
  dropEmptyWords (assemble none none (lexemes 0 line.toList))

theorem scan_eq_assemble (line : String) :
    scan line = assemble none none (lexemes 0 line.toList) :=
  dropEmptyWords_assemble line.toList

theorem tokenize_eq_scan (line : String) :
    tokenize line = match (scan line).find? Token.isUnclosed with
      | some t => .error ⟨t.offset⟩
      | none => .ok (scan line) := by
  have hpasses := joinWords_tagOperands (lexemes 0 line.toList) none none (by simp)
  rw [Option.map_none] at hpasses
  rw [tokenize, hpasses]
  rfl

theorem tokenize_eq_ok_iff {line : String} {ts : List Token} :
    tokenize line = .ok ts ↔ ts = scan line ∧ ∀ t ∈ scan line, Token.isUnclosed t = false := by
  rw [tokenize_eq_scan]
  cases hfind : (scan line).find? Token.isUnclosed with
  | some t =>
    simp only [reduceCtorEq, false_iff, not_and, not_forall]
    intro _
    exact ⟨t, List.mem_of_find?_eq_some hfind, by simpa using List.find?_some hfind⟩
  | none =>
    simp only [Except.ok.injEq]
    rw [List.find?_eq_none] at hfind
    exact ⟨fun h => ⟨h.symm, fun t ht => by simpa using hfind t ht⟩, fun h => h.1.symm⟩

theorem tokenize_error_iff_unclosed (line : String) :
    (∃ e, tokenize line = .error e) ↔ ∃ t ∈ scan line, Token.isUnclosed t := by
  rw [tokenize_eq_scan]
  cases hfind : (scan line).find? Token.isUnclosed with
  | some t =>
    simp only [Except.error.injEq, exists_eq', true_iff]
    exact ⟨t, List.mem_of_find?_eq_some hfind, List.find?_some hfind⟩
  | none =>
    rw [List.find?_eq_none] at hfind
    simp only [reduceCtorEq, exists_false, false_iff, not_exists, not_and]
    exact fun t ht => by simpa using hfind t ht

theorem source_ne_of_scan {line : String} {t : Token} (ht : t ∈ scan line) : t.source ≠ "" := by
  cases t with
  | op o k =>
    intro h
    exact spelling_ne_nil o (by simp [Token.source] at h; simp [h])
  | word w k =>
    rw [scan_eq_assemble] at ht
    obtain ⟨r, ps, hne, hsound, rfl⟩ := scannedWord_assemble 0 _ none none (by simp) w k ht
    obtain ⟨p, hp⟩ := List.exists_mem_of_ne_nil ps hne
    intro h
    apply (hsound p hp).raw_ne
    apply String.toList_injective
    have := congrArg String.toList h
    simp only [Token.source, Word.ofPieces, String.toList_join, List.flatMap_eq_nil_iff,
      List.mem_map, forall_exists_index, and_imp, forall_apply_eq_imp_iff₂,
      String.toList_empty] at this
    simpa using this p hp

/-! ## Scanning a line -/

theorem quoting_eq (w : Word) :
    w.quoting = ((w.segments.find? (·.quoting != .bare)).map (·.quoting)).getD .bare := by
  unfold Word.quoting
  cases w.segments.find? (·.quoting != .bare) <;> rfl

/-- Scanning a line loses nothing but blanks.  When it succeeds, the line is a run of blanks,
the source of the first token at its offset, blanks, the next token, and so on, with blanks
between any two words; offsets strictly increase and each token's source is the slice of the
line at its offset.  Each word is the pieces it was read as: its text joins their texts, its
raw text joins them written with their quotes, it stands for the one field of its text, its
quoting is that of its first quoted piece, and without a quoted piece it is not empty.
Scanning fails exactly when a left-to-right reading of the line ends inside a quotation. -/
theorem tokenize_layout (line : String) :
    (∀ ts, tokenize line = .ok ts →
      Layout false 0 ts line.toList ∧
      (ts.map Token.offset).Pairwise (· < ·) ∧
      (∀ t ∈ ts, ∃ pre post, line.toList = pre ++ t.source.toList ++ post ∧
        byteLength pre = t.offset) ∧
      ∀ w n, Token.word w n ∈ ts →
        w.segments ≠ [] ∧ w.text = String.join (w.segments.map (·.text)) ∧
        w.raw = String.join (w.segments.map Segment.requoted) ∧ w.fields = [w.text] ∧
        w.quoting = ((w.segments.find? (·.quoting != .bare)).map (·.quoting)).getD .bare ∧
        w.unclosed = false ∧ (w.isQuoted = false → w.text ≠ "")) ∧
    ((∃ e, tokenize line = .error e) ↔ openQuote line.toList ≠ none) := by
  refine ⟨fun ts hts => ?_, ?_⟩
  · obtain ⟨rfl, hclosed⟩ := tokenize_eq_ok_iff.1 hts
    have hlay : Layout false 0 (scan line) line.toList := by
      rw [scan_eq_assemble]
      exact (layout_assemble 0 line.toList none).1
    obtain ⟨hpair, -⟩ := hlay.offsets fun t ht => source_ne_of_scan ht
    refine ⟨hlay, hpair, fun t ht => by simpa using hlay.slice ht, fun w n hw => ?_⟩
    have hs : ScannedWord w := by
      rw [scan_eq_assemble] at hw
      exact scannedWord_assemble 0 _ none none (by simp) w n hw
    have hu : w.unclosed = false := by simpa [Token.isUnclosed] using hclosed _ hw
    exact ⟨hs.segments_ne, hs.text_eq, hs.raw_eq hu, hs.fields_eq, quoting_eq w, hu, hs.text_ne⟩
  · rw [tokenize_error_iff_unclosed, openQuote_ne_none_iff 0, scan_eq_assemble,
      exists_unclosed_assemble]
    simp

/-- `echo "a b"|wc` scans to two words, a pipe and a word, at increasing offsets and laid out
as `tokenize_layout` says, while `echo 'a` leaves its quotation open and does not scan. -/
theorem tokenize_layout_quoted_pipe :
    let ts : List Token :=
      [.word { segments := [⟨.bare, "echo"⟩], raw := "echo", text := "echo", fields := ["echo"] } 0,
       .word { segments := [⟨.double, "a b"⟩], raw := "\"a b\"", text := "a b",
               fields := ["a b"] } 5,
       .op .pipe 10,
       .word { segments := [⟨.bare, "wc"⟩], raw := "wc", text := "wc", fields := ["wc"] } 11]
    tokenize "echo \"a b\"|wc" = .ok ts ∧ Layout false 0 ts "echo \"a b\"|wc".toList ∧
      (ts.map Token.offset).Pairwise (· < ·) ∧ ∃ e, tokenize "echo 'a" = .error e := by
  intro ts
  have hts : tokenize "echo \"a b\"|wc" = .ok ts := by cbv
  obtain ⟨hlay, hpair, -, -⟩ := (tokenize_layout _).1 ts hts
  exact ⟨hts, hlay, hpair, (tokenize_layout "echo 'a").2.2 (by decide)⟩

end Conch.Syntax
