import Conch.Syntax.Scan
import Mathlib.Data.List.TakeWhile
import Mathlib.Tactic.Tauto

/-!
# The lexeme stream of a line

The scanner reads a line as a sequence of lexemes: operators, runs of blanks, and pieces of
words.  This module says once what one step of the scanner can produce
(`lexemeAt_eq_op`, `lexemeAt_eq_blank`, `lexemeAt_eq_piece`) and derives from it what the
whole stream is.

Reading loses nothing: each step reads its lexeme's source off the front of the line
(`lexemeAt_source`), so the sources, in order, spell the line again.  A quotation that the
line never closes runs to the end of the line, so it can only be the last lexeme
(`lexemeAt_unclosed`).  The offsets a stream starts from change none of its lexemes
(`map_fst_lexemes`).

Offsets count bytes of the UTF-8 encoding, while the scanner reads characters; `byteLength`
bridges the two.

The passes after the scan, which tag the operands of redirections and then join adjacent
words, give the tokens that `assemble` builds in one pass (`joinWords_tagOperands`).
-/

set_option autoImplicit false

namespace Conch.Syntax

/-! ## Byte lengths -/

@[simp] theorem byteLength_append (a b : List Char) :
    byteLength (a ++ b) = byteLength a + byteLength b := by
  induction a with
  | nil => simp [byteLength_nil]
  | cons c a ih => simp [byteLength_cons, ih, Nat.add_assoc]

@[simp] theorem byteLength_singleton (c : Char) : byteLength [c] = c.utf8Size := by
  simp [byteLength_cons, byteLength_nil]

theorem byteLength_eq_zero_iff {cs : List Char} : byteLength cs = 0 ↔ cs = [] := by
  cases cs with
  | nil => simp [byteLength_nil]
  | cons c cs =>
    have := Char.utf8Size_pos c
    simp only [byteLength_cons, reduceCtorEq, iff_false]
    omega

theorem utf8ByteSize_ofList (cs : List Char) :
    (String.ofList cs).utf8ByteSize = byteLength cs := by
  induction cs with
  | nil => rfl
  | cons c cs ih =>
    rw [byteLength_cons, ← ih, String.ofList_cons, String.utf8ByteSize_append,
      String.utf8ByteSize_singleton]

theorem utf8ByteSize_eq_byteLength (s : String) : s.utf8ByteSize = byteLength s.toList := by
  rw [← utf8ByteSize_ofList, String.ofList_toList]

/-! ## One step of the scanner -/

/-- Whether a character opens a quotation. -/
def isQuote (c : Char) : Bool := c == '\'' || c == '"'

theorem isSpecial_of_isQuote {c : Char} (h : isQuote c) : isSpecial c := by
  simp only [isQuote, Bool.or_eq_true, beq_iff_eq] at h
  rcases h with rfl | rfl <;> rfl

theorem operatorAt_eq_some {cs r : List Char} {o : Operator}
    (h : operatorAt cs = some (o, r)) : cs = o.spelling.toList ++ r := by
  unfold operatorAt at h
  split at h
  all_goals
    first
    | (simp only [Option.some.injEq, Prod.mk.injEq] at h
       obtain ⟨rfl, rfl⟩ := h
       rfl)
    | cases h

theorem operatorAt_eq_none {c : Char} {rest : List Char}
    (h : isBlank c ∨ isQuote c ∨ !isSpecial c ∨ c = '&') : operatorAt (c :: rest) = none := by
  unfold operatorAt
  split <;> first | rfl | simp_all [isBlank, isQuote, isSpecial]

theorem spelling_ne_nil (o : Operator) : o.spelling.toList ≠ [] := by
  rcases o with _ | (_ | _ | _ | _) | _ | _ <;> simp [Operator.spelling]

theorem lexemeAt_eq_op {c : Char} {rest after : List Char} {o : Operator}
    (h : lexemeAt c rest = (.op o, after)) : operatorAt (c :: rest) = some (o, after) := by
  unfold lexemeAt at h
  split at h
  · simp_all
  · split at h
    · simp at h
    · split at h
      · unfold quotation at h
        split at h <;> simp at h
      · unfold barePiece at h
        split at h <;> simp at h

theorem lexemeAt_eq_blank {c : Char} {rest after : List Char} {run : String}
    (h : lexemeAt c rest = (.blank run, after)) :
    isBlank c ∧ run = String.ofList (c :: rest.takeWhile isBlank) ∧
      after = rest.dropWhile isBlank := by
  unfold lexemeAt at h
  split at h
  · simp at h
  · split at h
    · rename_i hc
      simp only [Prod.mk.injEq, Lexeme.blank.injEq] at h
      exact ⟨hc, h.1.symm, h.2.symm⟩
    · split at h
      · unfold quotation at h
        split at h <;> simp at h
      · unfold barePiece at h
        split at h <;> simp at h

theorem eq_of_dropWhile_eq_cons {α : Type} {p : α → Bool} {l t : List α} {x : α}
    (h : l.dropWhile p = x :: t) : p x = false := by
  have := List.head?_dropWhile_not p l
  rw [h] at this
  exact this

/-- The characters that always begin an operator: the redirections, the parentheses, and a
bar that is not doubled. -/
theorem operatorAt_ne_none {c : Char} {rest : List Char}
    (hc : c = '<' ∨ c = '>' ∨ c = '(' ∨ c = ')' ∨ (c = '|' ∧ rest.head? ≠ some '|')) :
    operatorAt (c :: rest) ≠ none := by
  rcases hc with rfl | rfl | rfl | rfl | ⟨rfl, h⟩
  all_goals
    rcases rest with _ | ⟨d, r⟩
    · simp [operatorAt]
    · by_cases hd : d = '<' <;> by_cases hd' : d = '>' <;> by_cases hd'' : d = '|' <;>
        simp_all [operatorAt]

/-- The four kinds of piece the scanner reads at `c :: rest`, each with what is left after
it: a quotation closed by the next `c`, a quotation that runs to the end of the line, a run
of ordinary characters, and a special character that is no operator (a lone `&`, or the
first bar of `||`). -/
theorem lexemeAt_eq_piece {c : Char} {rest after : List Char} {p : Piece}
    (h : lexemeAt c rest = (.piece p, after)) :
    (isQuote c ∧ ∃ body, rest = body ++ c :: after ∧ c ∉ body ∧
      p = ⟨⟨quotingOf c, String.ofList body⟩, String.ofList (c :: body ++ [c]), false⟩) ∨
    (isQuote c ∧ c ∉ rest ∧ after = [] ∧
      p = ⟨⟨quotingOf c, String.ofList rest⟩, String.ofList (c :: rest), true⟩) ∨
    (!isSpecial c ∧ ∃ run, rest = run ++ after ∧ (∀ d ∈ run, !isSpecial d) ∧
      (∀ d ∈ after.head?, isSpecial d) ∧
      p = ⟨⟨.bare, String.ofList (c :: run)⟩, String.ofList (c :: run), false⟩) ∨
    ((c = '&' ∨ (c = '|' ∧ rest.head? = some '|')) ∧ after = rest ∧
      p = ⟨⟨.bare, String.ofList [c]⟩, String.ofList [c], false⟩) := by
  unfold lexemeAt at h
  split at h
  · simp at h
  rename_i hop
  split at h
  · simp at h
  rename_i hblank
  split at h
  · -- a quotation: it closes at the first `c` of the rest, if there is one
    rename_i hq
    have hq' : isQuote c := hq
    unfold quotation at h
    split at h
    · rename_i x after' hdrop
      simp only [Prod.mk.injEq, Lexeme.piece.injEq] at h
      obtain ⟨rfl, rfl⟩ := h
      have hx : x = c := by simpa using eq_of_dropWhile_eq_cons hdrop
      subst hx
      refine .inl ⟨hq', rest.takeWhile (· != x), ?_, ?_, rfl⟩
      · rw [← hdrop, List.takeWhile_append_dropWhile]
      · intro hm
        simpa using List.mem_takeWhile_imp hm
    · rename_i hdrop
      simp only [Prod.mk.injEq, Lexeme.piece.injEq] at h
      obtain ⟨rfl, rfl⟩ := h
      refine .inr (.inl ⟨hq', fun hm => ?_, rfl, rfl⟩)
      simpa using List.dropWhile_eq_nil_iff.1 hdrop c hm
  · rename_i hq
    unfold barePiece at h
    split at h
    · -- a special character that no operator starts with
      rename_i hs
      simp only [Prod.mk.injEq, Lexeme.piece.injEq] at h
      obtain ⟨rfl, rfl⟩ := h
      refine .inr (.inr (.inr ⟨?_, rfl, rfl⟩))
      have hc : c = '|' ∨ c = '&' ∨ c = '<' ∨ c = '>' ∨ c = '(' ∨ c = ')' := by
        simp only [isSpecial, isBlank, Bool.or_eq_true, beq_iff_eq] at hs hblank hq
        tauto
      rcases hc with rfl | rfl | hc
      · refine .inr ⟨rfl, ?_⟩
        by_contra hbar
        exact operatorAt_ne_none (.inr (.inr (.inr (.inr ⟨rfl, hbar⟩)))) hop
      · exact .inl rfl
      · exact absurd hop (operatorAt_ne_none (by tauto))
    · rename_i hs
      simp only [Prod.mk.injEq, Lexeme.piece.injEq] at h
      obtain ⟨rfl, rfl⟩ := h
      refine .inr (.inr (.inl ⟨by simpa using hs, rest.takeWhile (fun d => !isSpecial d),
        ?_, ?_, ?_, rfl⟩))
      · rw [List.takeWhile_append_dropWhile]
      · intro d hd
        exact List.mem_takeWhile_imp (p := fun d => !isSpecial d) hd
      · intro d hd
        cases hdrop : rest.dropWhile (fun d => !isSpecial d) with
        | nil => simp [hdrop] at hd
        | cons x t =>
          rw [hdrop] at hd
          simp only [List.head?_cons, Option.mem_def, Option.some.injEq] at hd
          subst hd
          simpa using eq_of_dropWhile_eq_cons hdrop

/-- A lexeme is read off the front of the input: its source, then what is left. -/
theorem lexemeAt_source (c : Char) (rest : List Char) :
    (lexemeAt c rest).1.source.toList ++ (lexemeAt c rest).2 = c :: rest := by
  rcases h : lexemeAt c rest with ⟨l, after⟩
  cases l with
  | op o => exact (operatorAt_eq_some (lexemeAt_eq_op h)).symm
  | blank run =>
    obtain ⟨-, rfl, rfl⟩ := lexemeAt_eq_blank h
    simp [Lexeme.source, List.takeWhile_append_dropWhile]
  | piece p =>
    rcases lexemeAt_eq_piece h with
      ⟨-, body, rfl, -, rfl⟩ | ⟨-, -, rfl, rfl⟩ | ⟨-, run, rfl, -, -, rfl⟩ | ⟨-, rfl, rfl⟩ <;>
      simp [Lexeme.source]

/-- A quotation that the line never closes is the last lexeme. -/
theorem lexemeAt_unclosed {c : Char} {rest after : List Char} {p : Piece}
    (h : lexemeAt c rest = (.piece p, after)) (hp : p.unclosed) : after = [] := by
  rcases lexemeAt_eq_piece h with
    ⟨-, _, -, -, hp'⟩ | ⟨-, -, hafter, -⟩ | ⟨-, _, -, -, -, hp'⟩ | ⟨-, -, hp'⟩
  · simp [hp'] at hp
  · exact hafter
  · simp [hp'] at hp
  · simp [hp'] at hp

/-! ## The stream -/

theorem lexemes_nil (n : Nat) : lexemes n [] = [] := by
  rw [lexemes]

theorem lexemes_cons (n : Nat) (c : Char) (rest : List Char) :
    lexemes n (c :: rest) = ((lexemeAt c rest).1, n) ::
      lexemes (n + byteLength (lexemeAt c rest).1.source.toList) (lexemeAt c rest).2 := by
  rw [lexemes, ← utf8ByteSize_eq_byteLength]

/-- The lexemes of the input, without their offsets. -/
def lexemeList (cs : List Char) : List Lexeme := (lexemes 0 cs).map Prod.fst

theorem map_fst_lexemes (n : Nat) (cs : List Char) :
    (lexemes n cs).map Prod.fst = lexemeList cs := by
  suffices h : ∀ m, (lexemes n cs).map Prod.fst = (lexemes m cs).map Prod.fst from h 0
  fun_induction lexemes n cs with
  | case1 n => intro m; rw [lexemes_nil]
  | case2 n c rest step ih =>
    intro m
    rw [lexemes_cons m c rest, List.map_cons, List.map_cons, ih]

theorem lexemeList_nil : lexemeList [] = [] := by
  rw [lexemeList, lexemes_nil, List.map_nil]

theorem lexemeList_cons (c : Char) (rest : List Char) :
    lexemeList (c :: rest) = (lexemeAt c rest).1 :: lexemeList (lexemeAt c rest).2 := by
  rw [lexemeList, lexemes_cons, List.map_cons, map_fst_lexemes]

/-! ## The passes over the stream -/

/-- The word a word being read stands for, with its offset. -/
def OpenWord.joined (w : OpenWord) : Word × Nat :=
  (Word.ofPieces w.redirect w.reversed.reverse, w.offset)

theorem closeRun_joined (current : Option OpenWord) (ts : List Token) :
    closeRun (current.map OpenWord.joined) ts = OpenWord.close current ts := by
  cases current <;> rfl

@[simp] theorem Word.tag_none (w : Word) : Word.tag none w = w := rfl

/-- A piece tagged with the redirection waiting for an operand is the word of that one piece. -/
theorem Word.tag_ofPiece (pending : Option Redirect) (p : Piece) :
    Word.tag pending (Word.ofPiece p) = Word.ofPieces pending [p] := by
  cases pending <;> simp [Word.tag, Word.ofPiece, Word.ofPieces]

/-- A word of pieces that takes in one more piece is the word of all of them; the piece, not
tagged, leaves the word's redirection as it was. -/
theorem Word.ofPieces_append_piece (redirect : Option Redirect) (ps : List Piece) (p : Piece) :
    Word.ofPieces redirect (ps ++ [p]) = Word.absorb (Word.ofPieces redirect ps) (Word.ofPiece p) := by
  simp [Word.ofPieces, Word.absorb, Word.ofPiece]

/-- Tagging operands and then joining adjacent words gives the tokens of the one pass.  The
induction runs along the stream; while a word is being read no redirection waits, since only
the first piece of a word can follow an operator. -/
theorem joinWords_tagOperands (ls : List (Lexeme × Nat)) :
    ∀ (pending : Option Redirect) (current : Option OpenWord), (current.isSome → pending = none) →
      joinWords (current.map OpenWord.joined) (tagOperands pending (ls.map Scanned.ofLexeme)) =
        assemble pending current ls := by
  induction ls with
  | nil =>
    intro pending current _
    rw [List.map_nil, tagOperands, joinWords, assemble, closeRun_joined]
  | cons l ls ih =>
    intro pending current hwait
    obtain ⟨lx, n⟩ := l
    have hnext := fun pending => ih pending none (by simp)
    simp only [Option.map_none] at hnext
    cases lx with
    | op o | blank run =>
      rw [List.map_cons, Scanned.ofLexeme, tagOperands, joinWords, assemble, hnext,
        closeRun_joined]
    | piece p =>
      rw [List.map_cons, Scanned.ofLexeme, tagOperands]
      cases current with
      | none =>
        rw [Option.map_none, joinWords, assemble, Word.tag_ofPiece,
          ← ih none (some ⟨[p], n, pending⟩) (fun _ => rfl)]
        rfl
      | some w =>
        obtain rfl : pending = none := hwait rfl
        rw [Option.map_some, joinWords, assemble, Word.tag_none,
          ← ih none (some { w with reversed := p :: w.reversed }) (fun _ => rfl)]
        simp only [OpenWord.joined, List.reverse_cons, Word.ofPieces_append_piece, Option.map_some]

end Conch.Syntax
