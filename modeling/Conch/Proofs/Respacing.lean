import Conch.Proofs.Recognition
import Conch.Proofs.Operands
import Mathlib.Data.List.Chain

/-!
# Respacing a line

Writing the tokens of a line one after another, a single space between each two, gives a
line with the same tokens: only where they stand changes.  This is the scanner's print-parse
law, with `" ".intercalate (ts.map Token.source)` as the printer.  It holds of every token
list whose words read back as themselves (`Word.Printable`) and carry the redirections that
the tokens before them introduce (`Tagged`): `tokenize_respaced_of_printable`.

It rests on the scanner reading a token written in front of a blank as exactly that token.
An operator is not lengthened by the blank (`<` and a blank is no `<<`), a single space in
front of a token is one blank, and a word's segments are read one by one, because a bare run
ends only at a quote, a blank or the end (`lexemeList_respaced`).  Assembling these lexemes
gives back the words and their operands (`assemble_respaced`).

A line that the grammar check accepts has such tokens.  The scanner reads each piece as a
segment that reads back or as a stray special character, and a bare run only ever in front
of a special character (`OpenWord.Lexed`); the check leaves no stray character.  Without the
check the law fails: in `a||b` the first bar joins the word `a|`, which reads back as `a` and
a pipe.

Main statement: `tokenize_respaced`.
-/

set_option autoImplicit false

namespace Conch.Syntax

/-- The piece a segment is written as: a quoted segment inside its quotes, closed. -/
def Piece.ofSegment (s : Segment) : Piece := ⟨s, s.requoted, false⟩

theorem isSpecial_of_isBlank {c : Char} (h : isBlank c = true) : isSpecial c = true := by
  simp [isSpecial, h]

theorem isBlank_eq_false_of_not_isSpecial {c : Char} (h : isSpecial c = false) :
    isBlank c = false := by
  cases hb : isBlank c
  · rfl
  · simp [isSpecial_of_isBlank hb] at h

theorem isBlank_eq_false_of_isQuote {c : Char} (h : isQuote c = true) : isBlank c = false := by
  simp only [isQuote, Bool.or_eq_true, beq_iff_eq] at h
  rcases h with rfl | rfl <;> rfl

end Conch.Syntax

namespace Conch

open Syntax

/-- A segment that reads back as itself where it is written: a bare segment is a run of one
or more ordinary characters, and a quoted one does not hold its own quote. -/
def Segment.Printable (s : Segment) : Prop :=
  match s.quoting with
  | .bare => s.text.toList ≠ [] ∧ ∀ c ∈ s.text.toList, isSpecial c = false
  | .single => '\'' ∉ s.text.toList
  | .double => '"' ∉ s.text.toList

/-- Two segments that may stand next to each other in a word the scanner reads: two bare
ones only where one of them is a stray special character. -/
def Segment.Separated (s₁ s₂ : Segment) : Prop :=
  s₁.quoting = .bare → s₂.quoting = .bare → s₁.isStray = true ∨ s₂.isStray = true

/-- A word that reads back as itself: one or more segments that read back, no two bare ones
in a row, written as their pieces with closed quotes and nothing added by expansion. -/
structure Word.Printable (w : Word) : Prop where
  segments_ne : w.segments ≠ []
  printable : ∀ s ∈ w.segments, s.Printable
  separated : w.segments.IsChain Segment.Separated
  eq_ofPieces : Word.ofPieces w.redirect (w.segments.map Piece.ofSegment) = w

/-- The lexemes a token is written as. -/
def Token.lexemes : Token → List Lexeme
  | .op o _ => [.op o]
  | .word w _ => w.segments.map fun s => .piece (Piece.ofSegment s)

/-- The token with its offset dropped, as if it stood at the start of the line. -/
def Token.unplaced : Token → Token
  | .op o _ => .op o 0
  | .word w _ => .word w 0

/-! ## Segments that read back -/

theorem Segment.Printable.isStray_eq_false {s : Segment} (hs : s.Printable) :
    s.isStray = false := by
  rw [Segment.isStray_eq_false_iff]
  intro hbare
  simp only [Segment.Printable, hbare] at hs
  obtain ⟨-, hrun⟩ := hs
  constructor
  · intro htext
    simpa [htext, isSpecial] using hrun '&'
  · intro htext
    simpa [htext, isSpecial] using hrun '|'

/-- A quoted segment that reads back is its text between two quotes that it does not hold. -/
theorem Segment.Printable.quoted {s : Segment} (hs : s.Printable) (hq : s.quoting ≠ .bare) :
    ∃ q, isQuote q ∧ s.quoting = quotingOf q ∧ q ∉ s.text.toList ∧
      s.requoted.toList = q :: s.text.toList ++ [q] := by
  rcases s with ⟨quoting, text⟩
  cases quoting with
  | bare => exact absurd rfl hq
  | single => exact ⟨'\'', rfl, rfl, hs, by simp [Segment.requoted]⟩
  | double => exact ⟨'"', rfl, rfl, hs, by simp [Segment.requoted]⟩

/-- A segment that reads back starts with a character that is no blank, and that is special
exactly when the segment is quoted. -/
theorem Segment.Printable.head {s : Segment} (hs : s.Printable) :
    ∃ c cs, s.requoted.toList = c :: cs ∧ isBlank c = false ∧
      (isSpecial c = true ↔ s.quoting ≠ .bare) := by
  by_cases hq : s.quoting = .bare
  · have hrun : s.text.toList ≠ [] ∧ ∀ c ∈ s.text.toList, isSpecial c = false := by
      simpa only [Segment.Printable, hq] using hs
    obtain ⟨c, cs, hcs⟩ := List.exists_cons_of_ne_nil hrun.1
    have hc : isSpecial c = false := hrun.2 c (by simp [hcs])
    exact ⟨c, cs, by simp [Segment.requoted, hq, hcs], isBlank_eq_false_of_not_isSpecial hc,
      by simp [hc, hq]⟩
  · obtain ⟨q, hquote, -, -, hreq⟩ := hs.quoted hq
    exact ⟨q, _, hreq, isBlank_eq_false_of_isQuote hquote,
      by simp [isSpecial_of_isQuote hquote, hq]⟩

/-- Next to each other, two segments that read back are never both bare. -/
theorem Segment.Separated.not_bare {s₁ s₂ : Segment} (h : s₁.Separated s₂)
    (h₁ : s₁.Printable) (h₂ : s₂.Printable) (hbare : s₁.quoting = .bare) :
    s₂.quoting ≠ .bare := by
  intro hbare₂
  rcases h hbare hbare₂ with hs | hs
  · simp [h₁.isStray_eq_false] at hs
  · simp [h₂.isStray_eq_false] at hs

namespace Word.Printable

variable {w : Word}

theorem raw_toList (hw : w.Printable) :
    w.raw.toList = w.segments.flatMap (·.requoted.toList) := by
  rw [← hw.eq_ofPieces]
  simp [Word.ofPieces, Piece.ofSegment, List.flatMap, Function.comp_def]

theorem unclosed_eq_false (hw : w.Printable) : w.unclosed = false := by
  rw [← hw.eq_ofPieces]
  simp [Word.ofPieces, Piece.ofSegment]

end Word.Printable

end Conch

namespace Conch.Syntax

/-! ## Reading a token back -/

theorem operatorAt_spelling (o : Operator) {rest : List Char}
    (hrest : ∀ c ∈ rest.head?, isBlank c = true) :
    operatorAt (o.spelling.toList ++ rest) = some (o, rest) := by
  rcases rest with _ | ⟨c, rest⟩
  · rcases o with _ | (_ | _ | _ | _) | _ | _ <;> simp [Operator.spelling, operatorAt]
  · have hc : c = ' ' ∨ c = '\t' ∨ c = '\n' := by simpa [isBlank, or_assoc] using hrest c rfl
    rcases hc with rfl | rfl | rfl <;> rcases o with _ | (_ | _ | _ | _) | _ | _ <;>
      simp [Operator.spelling, operatorAt]

theorem lexemeList_of_operatorAt {cs rest : List Char} {o : Operator}
    (h : operatorAt cs = some (o, rest)) : lexemeList cs = .op o :: lexemeList rest := by
  obtain ⟨c, tail, rfl⟩ : ∃ c tail, cs = c :: tail := by
    cases cs with
    | nil => simp [operatorAt] at h
    | cons c tail => exact ⟨c, tail, rfl⟩
  have hstep : lexemeAt c tail = (.op o, rest) := by simp [lexemeAt, h]
  rw [lexemeList_cons, hstep]

/-- A single space in front of something that is no blank is read as one blank. -/
theorem lexemeList_space {rest : List Char} (hrest : ∀ c ∈ rest.head?, isBlank c = false) :
    lexemeList (' ' :: rest) = .blank " " :: lexemeList rest := by
  have htake : rest.takeWhile isBlank = [] ∧ rest.dropWhile isBlank = rest := by
    rcases rest with _ | ⟨c, rest⟩
    · exact ⟨rfl, rfl⟩
    · have hc : isBlank c = false := hrest c rfl
      simp [hc]
  have hstep : lexemeAt ' ' rest = (.blank " ", rest) := by
    rw [lexemeAt, operatorAt_eq_none (.inl rfl)]
    simp [isBlank, htake.1, htake.2]
  rw [lexemeList_cons, hstep]

/-- A quotation closed by its quote is read as that quotation, whatever follows it. -/
theorem lexemeAt_closed_quotation {q : Char} (hq : isQuote q) {body : List Char}
    (hbody : q ∉ body) (rest : List Char) :
    lexemeAt q (body ++ q :: rest) =
      (.piece ⟨⟨quotingOf q, String.ofList body⟩, String.ofList (q :: body ++ [q]), false⟩,
        rest) := by
  have hne : ∀ a ∈ body, (a != q) = true := fun a ha => by
    simpa using fun h : a = q => hbody (h ▸ ha)
  have htake : (body ++ q :: rest).takeWhile (· != q) = body := by
    rw [List.takeWhile_append_of_pos hne]
    simp
  have hdrop : (body ++ q :: rest).dropWhile (· != q) = q :: rest := by
    rw [List.dropWhile_append_of_pos hne]
    simp
  have hquote : (q == '\'' || q == '"') = true := hq
  rw [lexemeAt, operatorAt_eq_none (.inr (.inl hq))]
  simp only [isBlank_eq_false_of_isQuote hq, hquote, Bool.false_eq_true, if_false, if_true, quotation, htake, hdrop]

/-- A run of ordinary characters in front of a special character or of the end is read as
one bare piece. -/
theorem lexemeAt_bare_run {c : Char} {run rest : List Char} (hc : isSpecial c = false)
    (hrun : ∀ d ∈ run, isSpecial d = false) (hrest : ∀ d ∈ rest.head?, isSpecial d = true) :
    lexemeAt c (run ++ rest) =
      (.piece ⟨⟨.bare, String.ofList (c :: run)⟩, String.ofList (c :: run), false⟩,
        rest) := by
  have hord : ∀ d ∈ run, (!isSpecial d) = true := fun d hd => by simp [hrun d hd]
  have htake : (run ++ rest).takeWhile (fun d => !isSpecial d) = run ∧
      (run ++ rest).dropWhile (fun d => !isSpecial d) = rest := by
    rw [List.takeWhile_append_of_pos hord, List.dropWhile_append_of_pos hord]
    rcases rest with _ | ⟨d, rest⟩
    · simp
    · have hd : isSpecial d = true := hrest d rfl
      simp [hd]
  have hquote : (c == '\'' || c == '"') = false :=
    isQuote_eq_false_of_not_isSpecial (by simp [hc])
  rw [lexemeAt, operatorAt_eq_none (.inr (.inr (.inl (by simp [hc]))))]
  simp only [isBlank_eq_false_of_not_isSpecial hc, hquote, Bool.false_eq_true, if_false, barePiece, hc, htake.1, htake.2]

/-- A segment that reads back is read as its own piece, when a bare one stands in front of a
special character or of the end. -/
theorem lexemeList_segment {s : Segment} (hs : s.Printable) {rest : List Char}
    (hrest : s.quoting = .bare → ∀ d ∈ rest.head?, isSpecial d = true) :
    lexemeList (s.requoted.toList ++ rest) = .piece (Piece.ofSegment s) :: lexemeList rest := by
  by_cases hq : s.quoting = .bare
  · -- a bare run: its first character and the rest of it
    have hrun : s.text.toList ≠ [] ∧ ∀ c ∈ s.text.toList, isSpecial c = false := by
      simpa only [Segment.Printable, hq] using hs
    obtain ⟨c, run, hcs⟩ := List.exists_cons_of_ne_nil hrun.1
    have hstep := lexemeAt_bare_run (hrun.2 c (by simp [hcs]))
      (fun d (hd : d ∈ run) => hrun.2 d (by simp [hcs, hd])) (hrest hq)
    have hreq : s.requoted.toList = c :: run := by simp [Segment.requoted, hq, hcs]
    have hpiece : Piece.ofSegment s =
        ⟨⟨.bare, String.ofList (c :: run)⟩, String.ofList (c :: run), false⟩ := by
      rcases s with ⟨quoting, text⟩
      simp only at hq hcs
      subst hq
      simp [Piece.ofSegment, Segment.requoted, ← hcs]
    rw [hreq, List.cons_append, lexemeList_cons, hstep, hpiece]
  · obtain ⟨q, hquote, hquoting, hbody, hreq⟩ := hs.quoted hq
    have hstep := lexemeAt_closed_quotation hquote hbody rest
    have hpiece : Piece.ofSegment s = ⟨⟨quotingOf q, String.ofList s.text.toList⟩,
        String.ofList (q :: s.text.toList ++ [q]), false⟩ := by
      rw [Piece.ofSegment, ← hquoting, String.ofList_toList, ← hreq, String.ofList_toList]
    rw [hreq]
    simp only [List.cons_append, List.append_assoc, List.nil_append]
    rw [lexemeList_cons, hstep, hpiece]

/-- The segments of a word that reads back are read one by one, in front of a special
character or of the end. -/
theorem lexemeList_segments {segs : List Segment} (hp : ∀ s ∈ segs, s.Printable)
    (hsep : segs.IsChain Segment.Separated) {rest : List Char}
    (hrest : ∀ d ∈ rest.head?, isSpecial d = true) :
    lexemeList (segs.flatMap (·.requoted.toList) ++ rest) =
      segs.map (fun s => .piece (Piece.ofSegment s)) ++ lexemeList rest := by
  induction segs with
  | nil => rfl
  | cons s segs ih =>
    have hs := hp s List.mem_cons_self
    have htail := ih (fun t ht => hp t (List.mem_cons_of_mem s ht)) (List.isChain_cons.1 hsep).2
    rw [List.flatMap_cons, List.append_assoc, lexemeList_segment hs ?_, htail, List.map_cons,
      List.cons_append]
    intro hbare
    cases segs with
    | nil => simpa using hrest
    | cons s' segs =>
      have hs' := hp s' (by simp)
      obtain ⟨c, cs, hreq, -, hspecial⟩ := hs'.head
      have hquoted : s'.quoting ≠ .bare :=
        ((List.isChain_cons.1 hsep).1 s' rfl).not_bare hs hs' hbare
      intro d hd
      simp only [List.flatMap_cons, hreq, List.cons_append, List.head?_cons,
        Option.mem_def, Option.some.injEq] at hd
      subst hd
      exact hspecial.2 hquoted

/-- A token written in front of a blank or of the end is read as its own lexemes. -/
theorem lexemeList_token {t : Token} (ht : ∀ w n, t = .word w n → w.Printable)
    {rest : List Char} (hrest : ∀ d ∈ rest.head?, isBlank d = true) :
    lexemeList (t.source.toList ++ rest) = t.lexemes ++ lexemeList rest := by
  cases t with
  | op o n => exact lexemeList_of_operatorAt (operatorAt_spelling o hrest)
  | word w n =>
    have hw := ht w n rfl
    rw [Token.source, hw.raw_toList, lexemeList_segments hw.printable hw.separated
      (fun d hd => isSpecial_of_isBlank (hrest d hd))]
    rfl

theorem head_source {t : Token} (ht : ∀ w n, t = .word w n → w.Printable) :
    ∃ c cs, t.source.toList = c :: cs ∧ isBlank c = false := by
  cases t with
  | op o n =>
    rcases o with _ | (_ | _ | _ | _) | _ | _ <;> simp [Token.source, Operator.spelling, isBlank]
  | word w n =>
    have hw := ht w n rfl
    obtain ⟨s, segs, hsegs⟩ := List.exists_cons_of_ne_nil hw.segments_ne
    obtain ⟨c, cs, hreq, hblank, -⟩ := (hw.printable s (by simp [hsegs])).head
    exact ⟨c, cs ++ segs.flatMap (·.requoted.toList),
      by simp [Token.source, hw.raw_toList, hsegs, hreq], hblank⟩

/-- The lexemes of tokens written with a single space between each two. -/
def respacedLexemes : List Token → List Lexeme
  | [] => []
  | [t] => t.lexemes
  | t :: t' :: ts => t.lexemes ++ .blank " " :: respacedLexemes (t' :: ts)

/-- Tokens written with a single space between each two are read as their own lexemes, with
a blank between each two. -/
theorem lexemeList_respaced (ts : List Token) (hts : ∀ w n, .word w n ∈ ts → w.Printable) :
    lexemeList (" ".intercalate (ts.map Token.source)).toList = respacedLexemes ts := by
  fun_induction respacedLexemes ts with
  | case1 => simp [lexemeList_nil]
  | case2 t =>
    have h : lexemeList (t.source.toList ++ []) = t.lexemes ++ lexemeList [] :=
      lexemeList_token (fun w n ht => hts w n (by simp [ht])) (by simp)
    simpa [lexemeList_nil] using h
  | case3 t t' ts ih =>
    have ht : ∀ w n, t = .word w n → w.Printable := fun w n h => hts w n (by simp [h])
    have hrest : ∀ w n, .word w n ∈ t' :: ts → w.Printable :=
      fun w n h => hts w n (List.mem_cons_of_mem t h)
    obtain ⟨c, cs, hc, hblank⟩ := head_source (t := t') (fun w n h => hrest w n (by simp [h]))
    have hline : (" ".intercalate ((t :: t' :: ts).map Token.source)).toList =
        t.source.toList ++ ' ' :: (" ".intercalate ((t' :: ts).map Token.source)).toList := by
      simp only [List.map_cons]
      rw [String.intercalate_cons_cons, String.toList_append, String.toList_append]
      simp
    rw [hline, lexemeList_token ht (by simp [isBlank]), lexemeList_space (by simp [hc, hblank]),
      ih hrest]

/-! ## Assembling the tokens again -/

/-- A blank, or the end, closes the word being read. -/
theorem assemble_gap (pending : Option Redirect) (current : Option OpenWord)
    {ls : List (Lexeme × Nat)}
    (hgap : ∀ l ∈ (ls.map Prod.fst).head?, ∃ run, l = .blank run) :
    assemble pending current ls = OpenWord.close current (assemble pending none ls.tail) := by
  rcases ls with _ | ⟨⟨l, n⟩, ls⟩
  · cases current <;> rfl
  · obtain ⟨run, rfl⟩ := hgap l rfl
    rfl

/-- Pieces read one after another join the word being read. -/
theorem assemble_pieces (pending : Option Redirect) (w : OpenWord) (ps : List Piece)
    {ls₁ : List (Lexeme × Nat)} (h₁ : ls₁.map Prod.fst = ps.map .piece)
    (ls : List (Lexeme × Nat)) :
    assemble pending (some w) (ls₁ ++ ls) =
      assemble pending (some { w with reversed := ps.reverse ++ w.reversed }) ls := by
  induction ps generalizing ls₁ w with
  | nil =>
    obtain rfl := List.map_eq_nil_iff.1 h₁
    rfl
  | cons p ps ih =>
    rcases ls₁ with _ | ⟨⟨l, n⟩, ls₁⟩
    · simp at h₁
    simp only [List.map_cons, List.cons.injEq] at h₁
    obtain ⟨rfl, h₁⟩ := h₁
    rw [List.cons_append]
    show assemble pending (some { w with reversed := p :: w.reversed }) (ls₁ ++ ls) = _
    rw [ih _ h₁]
    simp

theorem Tagged.head_redirect {r : Option Redirect} {t : Token} {ts : List Token}
    (h : Tagged r (t :: ts)) {w : Word} {n : Nat} (ht : t = .word w n) : w.redirect = r := by
  subst ht
  exact h.1

/-- A token read again, in front of a blank or of the end, is assembled as itself, up to
where it stands. -/
theorem assemble_token {pending : Option Redirect} {t : Token}
    (ht : ∀ w n, t = .word w n → w.Printable ∧ w.redirect = pending)
    {ls₁ : List (Lexeme × Nat)} (h₁ : ls₁.map Prod.fst = t.lexemes)
    (ls₂ : List (Lexeme × Nat))
    (hgap : ∀ l ∈ (ls₂.map Prod.fst).head?, ∃ run, l = .blank run) :
    (assemble pending none (ls₁ ++ ls₂)).map Token.unplaced =
      t.unplaced :: (assemble t.introduces none ls₂.tail).map Token.unplaced := by
  cases t with
  | op o n =>
    obtain ⟨⟨l, m⟩, rfl, hl⟩ : ∃ lm, ls₁ = [lm] ∧ lm.1 = .op o :=
      ⟨_, List.map_eq_singleton_iff.1 h₁ |>.choose_spec.1, List.map_eq_singleton_iff.1 h₁
        |>.choose_spec.2⟩
    subst hl
    rw [List.singleton_append]
    show (OpenWord.close none (.op o m :: assemble o.redirect? none ls₂)).map Token.unplaced = _
    rw [assemble_gap _ none hgap]
    rfl
  | word w n =>
    obtain ⟨hw, hredirect⟩ := ht w n rfl
    obtain ⟨s, segs, hsegs⟩ := List.exists_cons_of_ne_nil hw.segments_ne
    rw [Token.lexemes, hsegs, List.map_cons] at h₁
    rcases ls₁ with _ | ⟨⟨l, m⟩, ls₁⟩
    · simp at h₁
    simp only [List.map_cons, List.cons.injEq] at h₁
    obtain ⟨rfl, h₁⟩ := h₁
    rw [List.cons_append]
    show (assemble none (some ⟨[Piece.ofSegment s], m, pending⟩) (ls₁ ++ ls₂)).map
      Token.unplaced = _
    rw [assemble_pieces none _ (segs.map Piece.ofSegment) (by rw [List.map_map]; exact h₁),
      assemble_gap _ _ hgap]
    have hword : Word.ofPieces pending (Piece.ofSegment s :: segs.map Piece.ofSegment) = w := by
      rw [← hredirect]
      conv_rhs => rw [← hw.eq_ofPieces, hsegs]
      rfl
    simp [OpenWord.close, Token.unplaced, Token.introduces, hword]

/-- The lexemes of tokens written with a single space between each two assemble into the
same tokens, up to where they stand, when the tokens keep the operand law. -/
theorem assemble_respaced {ts : List Token} (hts : ∀ w n, .word w n ∈ ts → w.Printable)
    {pending : Option Redirect} (htag : Tagged pending ts) {ls : List (Lexeme × Nat)}
    (hls : ls.map Prod.fst = respacedLexemes ts) :
    (assemble pending none ls).map Token.unplaced = ts.map Token.unplaced := by
  fun_induction respacedLexemes ts generalizing pending ls with
  | case1 =>
    obtain rfl := List.map_eq_nil_iff.1 hls
    rfl
  | case2 t =>
    have h := assemble_token (fun w n ht => ⟨hts w n (by simp [ht]), htag.head_redirect ht⟩)
      hls [] (by simp)
    rw [List.append_nil] at h
    exact h
  | case3 t t' ts ih =>
    obtain ⟨ls₁, ls₂, rfl, h₁, h₂⟩ := List.map_eq_append_iff.1 hls
    rcases ls₂ with _ | ⟨⟨b, k⟩, ls₂⟩
    · simp at h₂
    simp only [List.map_cons, List.cons.injEq] at h₂
    obtain ⟨rfl, h₂⟩ := h₂
    rw [assemble_token (fun w n ht => ⟨hts w n (by simp [ht]), htag.head_redirect ht⟩) h₁ _
      (by simp), List.tail_cons, ih (fun w n h => hts w n (List.mem_cons_of_mem t h)) htag.tail
      h₂]
    rfl

/-! ## Tokens moved -/

@[simp] theorem isUnclosed_unplaced (t : Token) :
    Token.isUnclosed t.unplaced = Token.isUnclosed t := by
  cases t <;> rfl

@[simp] theorem kind_unplaced (t : Token) : Token.kind t.unplaced = Token.kind t := by
  cases t <;> rfl

/-- A word of tokens that are others moved is a word of those others. -/
theorem exists_word_of_unplaced {ts ts' : List Token}
    (heq : ts'.map Token.unplaced = ts.map Token.unplaced) {w : Word} {k : Nat}
    (hw : Token.word w k ∈ ts') : ∃ m, Token.word w m ∈ ts := by
  have hmem : (Token.word w k).unplaced ∈ ts.map Token.unplaced := by
    rw [← heq]
    exact List.mem_map_of_mem hw
  obtain ⟨u, hu, hut⟩ := List.mem_map.1 hmem
  cases u with
  | op o m => simp [Token.unplaced] at hut
  | word v m =>
    simp only [Token.unplaced, Token.word.injEq] at hut
    exact ⟨m, hut.1 ▸ hu⟩

/-- The print-parse law of the scanner: tokens whose words read back and that keep the
operand law, written with a single space between each two, scan as the same tokens, up to
where they stand. -/
theorem tokenize_respaced_of_printable {ts : List Token}
    (hts : ∀ w n, .word w n ∈ ts → w.Printable) (htag : Tagged none ts) :
    ∃ ts', tokenize (" ".intercalate (ts.map Token.source)) = .ok ts' ∧
      ts'.map Token.unplaced = ts.map Token.unplaced := by
  have hscan : (scan (" ".intercalate (ts.map Token.source))).map Token.unplaced =
      ts.map Token.unplaced := by
    rw [scan_eq_assemble]
    exact assemble_respaced hts htag (by rw [map_fst_lexemes, lexemeList_respaced ts hts])
  refine ⟨_, tokenize_eq_ok_iff.2 ⟨rfl, fun t ht => ?_⟩, hscan⟩
  cases t with
  | op o k => rfl
  | word w k =>
    obtain ⟨m, hm⟩ := exists_word_of_unplaced hscan ht
    exact (hts w m hm).unclosed_eq_false

/-! ## What the scanner reads -/

theorem printable_quotation {q : Char} (hq : isQuote q) {body : List Char} (hbody : q ∉ body) :
    (Segment.mk (quotingOf q) (String.ofList body)).Printable := by
  simp only [isQuote, Bool.or_eq_true, beq_iff_eq] at hq
  rcases hq with rfl | rfl <;> simpa [Segment.Printable, quotingOf] using hbody

/-- A piece the scanner reads reads back as its segment, or is a stray special character. -/
theorem printable_of_lexemeAt {c : Char} {rest after : List Char} {p : Piece}
    (h : lexemeAt c rest = (.piece p, after)) :
    p.segment.Printable ∨ p.segment.isStray = true := by
  rcases lexemeAt_eq_piece h with
    ⟨hq, body, -, hbody, rfl⟩ | ⟨hq, hrest, -, rfl⟩ | ⟨hc, run, -, hrun, -, rfl⟩ |
      ⟨hc, -, rfl⟩
  · exact .inl (printable_quotation hq hbody)
  · exact .inl (printable_quotation hq hrest)
  · refine .inl ⟨by simp, fun d hd => ?_⟩
    simp only [String.toList_ofList, List.mem_cons] at hd
    rcases hd with rfl | hd
    · simpa using hc
    · simpa using hrun d hd
  · right
    rcases hc with rfl | ⟨rfl, -⟩ <;> simp [Segment.isStray]

/-- A bare run ends in front of a special character or at the end. -/
theorem special_after_bare_run {c : Char} {rest after : List Char} {p : Piece}
    (h : lexemeAt c rest = (.piece p, after)) (hbare : p.segment.quoting = .bare)
    (hstray : p.segment.isStray = false) : ∀ d ∈ after.head?, isSpecial d = true := by
  rcases lexemeAt_eq_piece h with
    ⟨-, _, -, -, rfl⟩ | ⟨-, -, -, rfl⟩ | ⟨-, _, -, -, hafter, -⟩ | ⟨hc, -, rfl⟩
  · exact absurd hbare (quotingOf_ne_bare c)
  · exact absurd hbare (quotingOf_ne_bare c)
  · exact hafter
  · rcases hc with rfl | ⟨rfl, -⟩ <;> simp [Segment.isStray] at hstray

/-- A bare piece read at a special character is a stray one. -/
theorem stray_of_isSpecial {c : Char} {rest after : List Char} {p : Piece}
    (h : lexemeAt c rest = (.piece p, after)) (hc : isSpecial c = true)
    (hbare : p.segment.quoting = .bare) : p.segment.isStray = true := by
  rcases lexemeAt_eq_piece h with
    ⟨-, _, -, -, rfl⟩ | ⟨-, -, -, rfl⟩ | ⟨hord, _, -, -, -, -⟩ | ⟨hc', -, rfl⟩
  · exact absurd hbare (quotingOf_ne_bare c)
  · exact absurd hbare (quotingOf_ne_bare c)
  · simp [hc] at hord
  · rcases hc' with rfl | ⟨rfl, -⟩ <;> simp [Segment.isStray]

/-- What the scanner keeps of the word it is reading, with `cs` the input it has still to
read: each piece reads back or is a stray special character, no two bare ones stand in a row
but where one is stray, and the last one, when it is a bare run, stands in front of a special
character or of the end. -/
structure OpenWord.Lexed (w : OpenWord) (cs : List Char) : Prop where
  printable : ∀ p ∈ w.reversed, p.segment.Printable ∨ p.segment.isStray = true
  separated : (w.reversed.map (·.segment)).IsChain fun s₂ s₁ => s₁.Separated s₂
  ends : ∀ p ∈ w.reversed.head?, p.segment.quoting = .bare → p.segment.isStray = false →
    ∀ d ∈ cs.head?, isSpecial d = true

namespace OpenWord.Lexed

variable {c : Char} {rest after : List Char} {p : Piece}

theorem start (h : lexemeAt c rest = (.piece p, after)) (n : Nat) (r : Option Redirect) :
    (OpenWord.mk [p] n r).Lexed after :=
  ⟨by simpa using printable_of_lexemeAt h, List.isChain_singleton _,
    by simpa using special_after_bare_run h⟩

theorem push {w : OpenWord} (hw : w.Lexed (c :: rest)) (h : lexemeAt c rest = (.piece p, after)) :
    ({ w with reversed := p :: w.reversed } : OpenWord).Lexed after := by
  refine ⟨?_, ?_, by simpa using special_after_bare_run h⟩
  · simp only [List.mem_cons, forall_eq_or_imp]
    exact ⟨printable_of_lexemeAt h, hw.printable⟩
  · rw [List.map_cons, List.isChain_cons]
    refine ⟨fun s hs => ?_, hw.separated⟩
    -- the piece before, if a bare run, ended at `c`, which is special: a bare piece there is stray
    obtain ⟨q, hq, rfl⟩ : ∃ q ∈ w.reversed.head?, s = q.segment := by
      rw [List.head?_map] at hs
      obtain ⟨q, hq, hqs⟩ := Option.map_eq_some_iff.1 hs
      exact ⟨q, hq, hqs.symm⟩
    intro hbare hbare'
    cases hstray : q.segment.isStray
    · exact .inr (stray_of_isSpecial h (hw.ends q hq hbare hstray c rfl) hbare')
    · exact .inl rfl

/-- The word closed after these pieces: its segments read back or are stray, and no two bare
ones stand in a row but where one is stray. -/
theorem close {w : OpenWord} {cs : List Char} (hw : w.Lexed cs) (r : Option Redirect) :
    (∀ s ∈ (Word.ofPieces r w.reversed.reverse).segments, s.Printable ∨ s.isStray = true) ∧
      (Word.ofPieces r w.reversed.reverse).segments.IsChain Segment.Separated := by
  simp only [Word.ofPieces, List.map_reverse]
  refine ⟨fun s hs => ?_, List.isChain_reverse.2 hw.separated⟩
  obtain ⟨p, hp, rfl⟩ := List.mem_map.1 (List.mem_reverse.1 hs)
  exact hw.printable p hp

end OpenWord.Lexed

theorem lexed_close {current : Option OpenWord} {cs : List Char}
    (hcur : ∀ w ∈ current, w.Lexed cs) {ts : List Token} {w : Word} {k : Nat}
    (hmem : Token.word w k ∈ OpenWord.close current ts) :
    ((∀ s ∈ w.segments, s.Printable ∨ s.isStray = true) ∧
      w.segments.IsChain Segment.Separated) ∨ Token.word w k ∈ ts := by
  cases current with
  | none => exact .inr hmem
  | some v =>
    simp only [OpenWord.close, List.mem_cons, Token.word.injEq] at hmem
    rcases hmem with ⟨rfl, -⟩ | hmem
    · exact .inl ((hcur v rfl).close v.redirect)
    · exact .inr hmem

/-- Every word the scanner assembles is made of segments that read back or are stray, and no
two bare ones stand in a row but where one is stray. -/
theorem lexed_assemble (n : Nat) (cs : List Char) (pending : Option Redirect)
    (current : Option OpenWord) (hcur : ∀ w ∈ current, w.Lexed cs) :
    ∀ w k, Token.word w k ∈ assemble pending current (lexemes n cs) →
      (∀ s ∈ w.segments, s.Printable ∨ s.isStray = true) ∧
        w.segments.IsChain Segment.Separated := by
  fun_induction lexemes n cs generalizing pending current with
  | case1 n =>
    intro w k hmem
    simp only [assemble] at hmem
    exact (lexed_close hcur hmem).resolve_right (by simp)
  | case2 n c rest step ih =>
    have hstep : lexemeAt c rest = step := rfl
    clear_value step
    obtain ⟨l, after⟩ := step
    intro w k hmem
    cases l with
    | op o =>
      simp only [assemble] at hmem
      rcases lexed_close hcur hmem with hw | hmem
      · exact hw
      · simp only [List.mem_cons, reduceCtorEq, false_or] at hmem
        exact ih o.redirect? none (by simp) w k hmem
    | blank run =>
      simp only [assemble] at hmem
      rcases lexed_close hcur hmem with hw | hmem
      · exact hw
      · exact ih pending none (by simp) w k hmem
    | piece p =>
      cases current with
      | none =>
        exact ih none (some ⟨[p], n, pending⟩) (by simpa using .start hstep n pending) w k hmem
      | some v =>
        exact ih pending (some { v with reversed := p :: v.reversed })
          (by simpa using (hcur v rfl).push hstep) w k hmem

/-! ## Lines the check accepts -/

/-- The words of a line that the grammar check accepts read back as themselves, and its
tokens keep the operand law. -/
theorem printable_of_check {line : String} (h : check line = .ok ()) :
    ∃ ts, tokenize line = .ok ts ∧ Tagged none ts ∧
      ∀ w n, .word w n ∈ ts → w.Printable := by
  obtain ⟨ts, hts, hclean, -⟩ := (check_iff_token_grammar line).1.1 h
  refine ⟨ts, hts, tagged_of_tokenize hts, fun w n hw => ?_⟩
  obtain ⟨rfl, hclosed⟩ := tokenize_eq_ok_iff.1 hts
  have hw' : Token.word w n ∈ assemble none none (lexemes 0 line.toList) :=
    scan_eq_assemble line ▸ hw
  obtain ⟨hprint, hsep⟩ := lexed_assemble 0 _ none none (by simp) w n hw'
  obtain ⟨r, ps, hne, hsound, rfl⟩ := scannedWord_assemble 0 _ none none (by simp) w n hw'
  have hu : ∀ p ∈ ps, p.unclosed = false := by
    simpa [Token.isUnclosed, Word.ofPieces] using hclosed _ hw
  have hps : (ps.map (·.segment)).map Piece.ofSegment = ps := by
    rw [List.map_map]
    conv_rhs => rw [← List.map_id ps]
    refine List.map_congr_left fun p hp => ?_
    have hraw : p.raw = p.segment.requoted := (hsound p hp).raw_eq (hu p hp)
    have hun : p.unclosed = false := hu p hp
    rcases p with ⟨segment, raw, unclosed⟩
    simp only at hraw hun
    subst hraw hun
    rfl
  refine ⟨by simpa [Word.ofPieces] using hne, fun s hs => ?_, hsep, ?_⟩
  · refine (hprint s hs).resolve_right ?_
    simpa using (Segment.isStray_eq_false_iff s).2 (hclean _ n hw s hs)
  · show Word.ofPieces r ((ps.map (·.segment)).map Piece.ofSegment) = _
    rw [hps]

/-- The check reads a line through its tokens, not through where they stand: a line whose
tokens are those of an accepted line, moved, is accepted too. -/
theorem check_of_unplaced {line line' : String} {ts ts' : List Token}
    (hline : check line = .ok ()) (hts : tokenize line = .ok ts)
    (hts' : tokenize line' = .ok ts') (heq : ts'.map Token.unplaced = ts.map Token.unplaced) :
    check line' = .ok () := by
  obtain ⟨ts₀, hts₀, hclean, hgrammar⟩ := (check_iff_token_grammar line).1.1 hline
  obtain rfl : ts = ts₀ := by
    rw [hts] at hts₀
    exact Except.ok.inj hts₀
  have hkinds : ts'.map Token.kind = ts.map Token.kind := by
    have := congrArg (List.map Token.kind) heq
    simpa [List.map_map, Function.comp_def] using this
  refine (check_iff_token_grammar line').1.2 ⟨ts', hts', fun w k hw => ?_, hkinds ▸ hgrammar⟩
  obtain ⟨m, hm⟩ := exists_word_of_unplaced heq hw
  exact hclean w m hm

/-- A line that the grammar check accepts, written again as its tokens with a single space
between each two, has the same tokens: the same operators, and words with the same
segments, quoting, text, raw text, fields and redirection, in the same order.  Only where
they stand changes, and the check accepts the new line too. -/
theorem tokenize_respaced (line : String) (hline : check line = .ok ()) :
    ∃ ts ts', tokenize line = .ok ts ∧
      tokenize (" ".intercalate (ts.map Token.source)) = .ok ts' ∧
      ts'.map Token.unplaced = ts.map Token.unplaced ∧
      check (" ".intercalate (ts.map Token.source)) = .ok () := by
  obtain ⟨ts, hts, htag, hw⟩ := printable_of_check hline
  obtain ⟨ts', hts', heq⟩ := tokenize_respaced_of_printable hw htag
  exact ⟨ts, ts', hts, hts', heq, check_of_unplaced hline hts hts' heq⟩

/-- Respacing a line with redirections, quotes and a group keeps its tokens. -/
theorem tokenize_respaced_redirections :
    check "cat<in 'a  b'\"c\"d|(wc -l)>>out" = .ok () ∧
    ∃ ts ts', tokenize "cat<in 'a  b'\"c\"d|(wc -l)>>out" = .ok ts ∧
      tokenize (" ".intercalate (ts.map Token.source)) = .ok ts' ∧
      ts'.map Token.unplaced = ts.map Token.unplaced ∧
      check (" ".intercalate (ts.map Token.source)) = .ok () :=
  ⟨by cbv, tokenize_respaced _ (by cbv)⟩

end Conch.Syntax
