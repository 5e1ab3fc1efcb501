import Conch.Proofs.Layout

/-!
# The token grammar of a command line

A line is empty or one pipeline; a pipeline is a stage and more stages, each after a bar; a
stage is one or more items, or a parenthesised pipeline and the redirections after it; an
item is a word or a redirection; a redirection is one of `<`, `>`, `<<`, `>>` and a word.
The grammar reads the kinds of tokens (`Kind`).  Each phrase is a relation between the kinds
it starts at and the kinds left after it, so that a phrase is read off the front of any
input (`Grammar.Pipeline`, `Grammar.Stage`, ...); `Grammar.Line` holds of a whole line.

The grammar check reads characters.  What it sees of a line is the line's `view`: the
lexemes with the blanks dropped, each run of adjacent pieces that fit in a word read as one
word, and every piece that fits in no word read as junk, which no phrase holds
(`Grammar.Line.junk_not_mem`).  A piece fits unless it is a quotation that the line never
closes or a stray special character: a lone `&`, or the first bar of `||`.  Where every
piece fits, the view lists the kinds of the line's tokens (`kinds_scan`), so the tokens of
a line hold no stray character and form a line of the grammar exactly when the view is a
line of the grammar (`tokens_line_iff`).

A quotation that the line never closes is the last lexeme of the line, and the last token
is the word that holds it (`assemble_unclosed`).
-/

set_option autoImplicit false

namespace Conch

/-- A stray special character: the bare segment `&` or `|`, which no word may hold. -/
def Segment.isStray (s : Segment) : Bool :=
  s.quoting == .bare && (s.text == "&" || s.text == "|")

theorem Segment.isStray_eq_false_iff (s : Segment) :
    s.isStray = false ↔ (s.quoting = .bare → s.text ≠ "&" ∧ s.text ≠ "|") := by
  simp [Segment.isStray]

end Conch

namespace Conch.Syntax

/-! ## Kinds of tokens and the grammar -/

/-- What the grammar reads of a token: a word or an operator.  Junk stands for text that no
word may hold; no phrase of the grammar holds it. -/
inductive Kind where
  | word
  | op (o : Operator)
  | junk
  deriving DecidableEq, Repr

/-- The kind of a token. -/
def Token.kind : Token → Kind
  | .op o _ => .op o
  | .word _ _ => .word

namespace Grammar

/-- A redirection: an operator and the word after it. -/
inductive Redir : List Kind → List Kind → Prop
  | mk {r : Redirect} {rest : List Kind} : Redir (.op (.redirect r) :: .word :: rest) rest

/-- An item of a simple command: a word or a redirection. -/
inductive Item : List Kind → List Kind → Prop
  | word {rest : List Kind} : Item (.word :: rest) rest
  | redir {ks rest : List Kind} : Redir ks rest → Item ks rest

/-- Items, none or more. -/
inductive Items : List Kind → List Kind → Prop
  | nil {ks : List Kind} : Items ks ks
  | cons {ks mid rest : List Kind} : Item ks mid → Items mid rest → Items ks rest

/-- Redirections, none or more. -/
inductive Redirs : List Kind → List Kind → Prop
  | nil {ks : List Kind} : Redirs ks ks
  | cons {ks mid rest : List Kind} : Redir ks mid → Redirs mid rest → Redirs ks rest

mutual

/-- A pipeline: a stage and the stages after it. -/
inductive Pipeline : List Kind → List Kind → Prop
  | mk {ks mid rest : List Kind} : Stage ks mid → Stages mid rest → Pipeline ks rest

/-- The stages that continue a pipeline, each after a bar. -/
inductive Stages : List Kind → List Kind → Prop
  | nil {ks : List Kind} : Stages ks ks
  | cons {ks mid rest : List Kind} :
      Stage ks mid → Stages mid rest → Stages (.op .pipe :: ks) rest

/-- A stage: one item or more, or a parenthesised pipeline and the redirections after it. -/
inductive Stage : List Kind → List Kind → Prop
  | simple {ks mid rest : List Kind} : Item ks mid → Items mid rest → Stage ks rest
  | group {ks mid rest : List Kind} :
      Pipeline ks (.op .closeGroup :: mid) → Redirs mid rest →
        Stage (.op .openGroup :: ks) rest

end

/-- The kinds of a whole line: none, or one pipeline. -/
def Line (ks : List Kind) : Prop := ks = [] ∨ Pipeline ks []

/-! ### No phrase holds junk -/

theorem Redir.length_lt {ks rest : List Kind} (h : Redir ks rest) : rest.length < ks.length := by
  cases h
  simp only [List.length_cons]
  omega

theorem Redir.junk_mem {ks rest : List Kind} (h : Redir ks rest) (hj : Kind.junk ∈ ks) :
    Kind.junk ∈ rest := by
  cases h
  simpa using hj

theorem Item.junk_mem {ks rest : List Kind} (h : Item ks rest) (hj : Kind.junk ∈ ks) :
    Kind.junk ∈ rest := by
  cases h with
  | word => simpa using hj
  | redir h => exact h.junk_mem hj

theorem Items.junk_mem {ks rest : List Kind} (h : Items ks rest) (hj : Kind.junk ∈ ks) :
    Kind.junk ∈ rest := by
  induction h with
  | nil => exact hj
  | cons hi _ ih => exact ih (hi.junk_mem hj)

theorem Redirs.junk_mem {ks rest : List Kind} (h : Redirs ks rest) (hj : Kind.junk ∈ ks) :
    Kind.junk ∈ rest := by
  induction h with
  | nil => exact hj
  | cons hr _ ih => exact ih (hr.junk_mem hj)

mutual

theorem Pipeline.junk_mem : ∀ {ks rest : List Kind},
    Pipeline ks rest → Kind.junk ∈ ks → Kind.junk ∈ rest
  | _, _, .mk hs ht, hj => ht.junk_mem (hs.junk_mem hj)

theorem Stages.junk_mem : ∀ {ks rest : List Kind},
    Stages ks rest → Kind.junk ∈ ks → Kind.junk ∈ rest
  | _, _, .nil, hj => hj
  | _, _, .cons hs ht, hj => ht.junk_mem (hs.junk_mem (by simpa using hj))

theorem Stage.junk_mem : ∀ {ks rest : List Kind},
    Stage ks rest → Kind.junk ∈ ks → Kind.junk ∈ rest
  | _, _, .simple hi his, hj => his.junk_mem (hi.junk_mem hj)
  | _, _, .group hp hr, hj => hr.junk_mem (by simpa using hp.junk_mem (by simpa using hj))

end

/-- A line of the grammar holds no junk. -/
theorem Line.junk_not_mem {ks : List Kind} (h : Line ks) : Kind.junk ∉ ks := by
  rcases h with rfl | h
  · simp
  · intro hj
    simpa using h.junk_mem hj

end Grammar

/-! ## The view of the grammar check -/

/-- Whether a piece can stand in a word: it is no quotation that the line never closes and
no stray special character. -/
def Piece.fits (p : Piece) : Bool := !p.unclosed && !p.segment.isStray

/-- The word that ends where a run of pieces ends, if pieces come right before. -/
def wordEnd (inWord : Bool) : List Kind := if inWord then [.word] else []

/-- The kinds the grammar check sees in some lexemes; `inWord` says that pieces of a word
come right before them.  The check stops at a quotation that the line never closes, so
such a quotation is junk in place of the word that holds it. -/
def kindsFrom (inWord : Bool) : List Lexeme → List Kind
  | [] => wordEnd inWord
  | .blank _ :: ls => wordEnd inWord ++ kindsFrom false ls
  | .op o :: ls => wordEnd inWord ++ .op o :: kindsFrom false ls
  | .piece p :: ls =>
      if p.fits then kindsFrom true ls
      else if p.unclosed then .junk :: kindsFrom false ls
      else wordEnd inWord ++ .junk :: kindsFrom false ls

/-- What the grammar check sees of the input. -/
def view (cs : List Char) : List Kind := kindsFrom false (lexemeList cs)

@[simp] theorem junk_not_mem_wordEnd (inWord : Bool) : Kind.junk ∉ wordEnd inWord := by
  cases inWord <;> simp [wordEnd]

/-- Junk shows exactly where a piece fits in no word. -/
theorem junk_mem_kindsFrom (inWord : Bool) (ls : List Lexeme) :
    Kind.junk ∈ kindsFrom inWord ls ↔ ∃ p, Lexeme.piece p ∈ ls ∧ p.fits = false := by
  induction ls generalizing inWord with
  | nil => simp [kindsFrom]
  | cons l ls ih =>
    cases l with
    | op o => simp [kindsFrom, ih]
    | blank run => simp [kindsFrom, ih]
    | piece p =>
      by_cases hf : p.fits
      · rw [kindsFrom, if_pos hf, ih]
        constructor
        · rintro ⟨q, hq, hqf⟩
          exact ⟨q, List.mem_cons_of_mem _ hq, hqf⟩
        · rintro ⟨q, hq, hqf⟩
          rcases List.mem_cons.1 hq with hq | hq
          · obtain rfl := Lexeme.piece.inj hq
            simp [hf] at hqf
          · exact ⟨q, hq, hqf⟩
      · have hj : Kind.junk ∈ kindsFrom inWord (.piece p :: ls) := by
          rw [kindsFrom, if_neg hf]
          split <;> simp
        exact iff_of_true hj ⟨p, List.mem_cons_self, by simpa using hf⟩

/-! ## Kinds of the tokens -/

theorem kinds_close (current : Option OpenWord) (ts : List Token) :
    (OpenWord.close current ts).map Token.kind = wordEnd current.isSome ++ ts.map Token.kind := by
  cases current <;> rfl

/-- Where every piece fits, the tokens assembled from lexemes have the kinds the check
sees in them. -/
theorem kinds_assemble (pending : Option Redirect) (current : Option OpenWord)
    (ls : List (Lexeme × Nat)) (hfit : ∀ p n, (Lexeme.piece p, n) ∈ ls → p.fits) :
    (assemble pending current ls).map Token.kind = kindsFrom current.isSome (ls.map Prod.fst) := by
  induction ls generalizing pending current with
  | nil => simp [assemble, kinds_close, kindsFrom]
  | cons lk ls ih =>
    obtain ⟨l, n⟩ := lk
    have hfit' : ∀ p n, (Lexeme.piece p, n) ∈ ls → p.fits :=
      fun p k h => hfit p k (List.mem_cons_of_mem _ h)
    cases l with
    | op o =>
      simp only [assemble, kinds_close, List.map_cons, Token.kind, ih _ _ hfit', kindsFrom,
        Option.isSome_none]
    | blank run =>
      simp only [assemble, kinds_close, ih _ _ hfit', List.map_cons, kindsFrom,
        Option.isSome_none]
    | piece p =>
      have hp : p.fits := hfit p n List.mem_cons_self
      cases current with
      | none =>
        simp only [assemble, ih _ _ hfit', List.map_cons, kindsFrom, hp, if_true,
          Option.isSome_some]
      | some w =>
        simp only [assemble, ih _ _ hfit', List.map_cons, kindsFrom, hp, if_true,
          Option.isSome_some]

/-- The pieces of a line all fit where its view shows no junk. -/
theorem fits_of_junk_not_mem {cs : List Char} (hj : Kind.junk ∉ view cs) :
    ∀ p n, (Lexeme.piece p, n) ∈ lexemes 0 cs → p.fits := by
  intro p n hmem
  by_contra hf
  exact hj ((junk_mem_kindsFrom false _).2
    ⟨p, List.mem_map.2 ⟨_, hmem, rfl⟩, by simpa using hf⟩)

/-- Where the check sees no junk, it sees the kinds of the line's tokens. -/
theorem kinds_scan {line : String} (hj : Kind.junk ∉ view line.toList) :
    (scan line).map Token.kind = view line.toList := by
  rw [scan_eq_assemble, kinds_assemble none none _ (fits_of_junk_not_mem hj)]
  rfl

/-- The tokens of a line hold no stray character and form a line of the grammar exactly when
the view of the line is a line of the grammar. -/
theorem tokens_line_iff (line : String) :
    (∃ ts, tokenize line = .ok ts ∧
        (∀ w n, Token.word w n ∈ ts → ∀ s ∈ w.segments, s.isStray = false) ∧
        Grammar.Line (ts.map Token.kind)) ↔
      Grammar.Line (view line.toList) := by
  have hstray := exists_word_assemble (·.segment.isStray) (·.segments.any Segment.isStray)
    (by simp [Word.ofPieces, List.any_map, Function.comp_def]) none none (lexemes 0 line.toList)
  rw [← scan_eq_assemble] at hstray
  by_cases hj : Kind.junk ∈ view line.toList
  · -- a piece that fits in no word: either it is never closed or it is stray
    refine iff_of_false ?_ fun h => h.junk_not_mem hj
    rintro ⟨ts, hts, hclean, -⟩
    obtain ⟨rfl, hclosed⟩ := tokenize_eq_ok_iff.1 hts
    obtain ⟨p, hp, hpf⟩ := (junk_mem_kindsFrom false _).1 hj
    obtain ⟨⟨_, n⟩, hmem, rfl⟩ := List.mem_map.1 hp
    simp only [Piece.fits, Bool.and_eq_false_iff, Bool.not_eq_false'] at hpf
    rcases hpf with hu | hs
    · obtain ⟨t, ht, htu⟩ := (exists_unclosed_assemble none none _).2 (.inr ⟨_, hmem, hu⟩)
      rw [← scan_eq_assemble] at ht
      simp [hclosed t ht] at htu
    · obtain ⟨w, k, hw, hws⟩ := hstray.2 (.inr ⟨p, n, hmem, hs⟩)
      obtain ⟨s, hs, hss⟩ := List.any_eq_true.1 hws
      simp [hclean w k hw s hs] at hss
  · have hfit := fits_of_junk_not_mem hj
    have hclosed : ∀ t ∈ scan line, Token.isUnclosed t = false := by
      intro t ht
      by_contra htu
      rw [scan_eq_assemble] at ht
      obtain ⟨⟨l, n⟩, hmem, hl⟩ := (exists_unclosed_assemble none none _).1
        ⟨t, ht, by simpa using htu⟩ |>.resolve_left (by simp)
      cases l with
      | piece p =>
        have hu : p.unclosed = true := hl
        simpa [Piece.fits, hu] using hfit p n hmem
      | _ => simp at hl
    have hclean :
        ∀ w n, Token.word w n ∈ scan line → ∀ s ∈ w.segments, s.isStray = false := by
      intro w n hw s hs
      by_contra hss
      obtain ⟨p, k, hmem, hps⟩ :=
        (hstray.1 ⟨w, n, hw, List.any_eq_true.2 ⟨s, hs, by simpa using hss⟩⟩).resolve_left
          (by simp)
      simpa [Piece.fits, hps] using hfit p k hmem
    constructor
    · rintro ⟨ts, hts, -, hline⟩
      obtain ⟨rfl, -⟩ := tokenize_eq_ok_iff.1 hts
      rwa [kinds_scan hj] at hline
    · intro hline
      exact ⟨scan line, tokenize_eq_ok_iff.2 ⟨rfl, hclosed⟩, hclean, by rwa [kinds_scan hj]⟩

/-! ## Rests that a lexeme ends -/

/-- `Reaches cs r`: `r` is what is left of `cs` after some of its lexemes. -/
inductive Reaches : List Char → List Char → Prop
  | refl {cs : List Char} : Reaches cs cs
  | step {c : Char} {rest r : List Char} : Reaches (lexemeAt c rest).2 r → Reaches (c :: rest) r

namespace Reaches

theorem trans {a b d : List Char} (h₁ : Reaches a b) (h₂ : Reaches b d) : Reaches a d := by
  induction h₁ with
  | refl => exact h₂
  | step _ ih => exact .step (ih h₂)

theorem of_lexemeAt {c : Char} {rest after : List Char} {l : Lexeme}
    (h : lexemeAt c rest = (l, after)) : Reaches (c :: rest) after :=
  .step (by rw [h]; exact .refl)

theorem length_le {cs r : List Char} (h : Reaches cs r) : r.length ≤ cs.length := by
  induction h with
  | refl => exact Nat.le_refl _
  | @step c rest r _ ih =>
    have := length_lexemeAt_le c rest
    simp only [List.length_cons]
    omega

theorem eq_nil {r : List Char} (h : Reaches [] r) : r = [] := by
  cases h
  rfl

end Reaches

/-- The input starts with a quotation that runs to its end, never closed. -/
def StartsUnclosed (r : List Char) : Prop :=
  ∃ q body p, r = q :: body ∧ lexemeAt q body = (.piece p, []) ∧ p.unclosed = true

theorem close_append (current : Option OpenWord) (ts : List Token) :
    OpenWord.close current ts = OpenWord.close current [] ++ ts := by
  cases current <;> rfl

theorem isUnclosed_close {current : Option OpenWord} (h : OpenWord.isUnclosed current = false) :
    ∀ t ∈ OpenWord.close current [], Token.isUnclosed t = false := by
  cases current with
  | none => simp [OpenWord.close]
  | some w => simpa [OpenWord.close, OpenWord.isUnclosed, Token.isUnclosed, Word.ofPieces] using h

/-- Reading a piece adds it to the open word, which starts no later and now ends after it. -/
theorem assemble_piece (pending : Option Redirect) (current : Option OpenWord) (p : Piece)
    (n : Nat) (ls : List (Lexeme × Nat))
    (hoff : ∀ w ∈ current, w.offset + byteLength w.raw.toList = n) :
    ∃ pending' w,
      assemble pending current ((.piece p, n) :: ls) = assemble pending' (some w) ls ∧
      w.offset ≤ n ∧ w.offset + byteLength w.raw.toList = n + byteLength p.raw.toList ∧
      OpenWord.isUnclosed (some w) = (p.unclosed || OpenWord.isUnclosed current) := by
  cases current with
  | none =>
    refine ⟨none, ⟨[p], n, pending⟩, rfl, Nat.le_refl _, by rw [OpenWord.raw_single], ?_⟩
    simp [OpenWord.isUnclosed]
  | some w =>
    have hw := hoff w rfl
    refine ⟨pending, { w with reversed := p :: w.reversed }, rfl, ?_, ?_,
      OpenWord.isUnclosed_push w p⟩
    · show w.offset ≤ n
      omega
    · rw [OpenWord.raw_push, String.toList_append, byteLength_append]
      show w.offset + _ = _
      omega

/-- The word that holds a quotation the line never closes is the last token: it starts no
later than the quotation and ends where the input ends, and no token before it is
unclosed.  The open word `current` ends at `n`, where the lexemes of `cs` start. -/
theorem assemble_unclosed {cs r : List Char} (hr : Reaches cs r) (ho : StartsUnclosed r) :
    ∀ (n : Nat) (pending : Option Redirect) (current : Option OpenWord),
      OpenWord.isUnclosed current = false →
      (∀ w ∈ current, w.offset + byteLength w.raw.toList = n) →
      ∃ pre w m, assemble pending current (lexemes n cs) = pre ++ [.word w m] ∧
        (∀ t ∈ pre, Token.isUnclosed t = false) ∧ w.unclosed = true ∧
        m + byteLength r ≤ n + byteLength cs ∧
        m + byteLength w.raw.toList = n + byteLength cs := by
  induction hr with
  | refl =>
    obtain ⟨q, body, p, rfl, hl, hp⟩ := ho
    intro n pending current hclosed hoff
    have hraw : p.raw.toList = q :: body := by
      simpa [hl, Lexeme.source] using lexemeAt_source q body
    obtain ⟨pending', w, hasm, hle, hend, hw⟩ := assemble_piece pending current p n [] hoff
    rw [hraw] at hend
    simp only [lexemes_cons, hl, lexemes_nil, hasm]
    refine ⟨[], _, w.offset, rfl, by simp, ?_, by omega, hend⟩
    simpa [OpenWord.isUnclosed, hp, Word.ofPieces] using hw
  | @step c rest r hr ih =>
    intro n pending current hclosed hoff
    have hsrc := lexemeAt_source c rest
    rw [lexemes_cons]
    generalize hstep : lexemeAt c rest = step at hsrc hr ih ⊢
    obtain ⟨l, after⟩ := step
    simp only at hsrc hr ih ⊢
    have hlen : byteLength (c :: rest) = byteLength l.source.toList + byteLength after := by
      rw [← hsrc, byteLength_append]
    cases l with
    | blank run =>
      obtain ⟨pre, w, m, heq, hpre, hw, h₁, h₂⟩ :=
        ih ho (n + byteLength (Lexeme.blank run).source.toList) pending none rfl (by simp)
      refine ⟨OpenWord.close current [] ++ pre, w, m, ?_, ?_, hw, by omega, by omega⟩
      · simp only [assemble]
        rw [heq, close_append, List.append_assoc]
      · intro t ht
        rcases List.mem_append.1 ht with ht | ht
        · exact isUnclosed_close hclosed t ht
        · exact hpre t ht
    | op o =>
      obtain ⟨pre, w, m, heq, hpre, hw, h₁, h₂⟩ :=
        ih ho (n + byteLength (Lexeme.op o).source.toList) o.redirect? none rfl
        (by simp)
      refine ⟨OpenWord.close current [] ++ .op o n :: pre, w, m, ?_, ?_, hw, by omega, by omega⟩
      · simp only [assemble]
        rw [heq, close_append]
        simp
      · intro t ht
        rcases List.mem_append.1 ht with ht | ht
        · exact isUnclosed_close hclosed t ht
        · rcases List.mem_cons.1 ht with rfl | ht
          · rfl
          · exact hpre t ht
    | piece p =>
      -- a quotation the line never closes ends the input, which the rest `r` does not
      have hp : p.unclosed = false := by
        cases hu : p.unclosed
        · rfl
        · rw [lexemeAt_unclosed hstep hu] at hr
          obtain ⟨_, _, _, hnil, -⟩ := ho
          rw [hr.eq_nil] at hnil
          cases hnil
      obtain ⟨pending', w, hasm, -, hend, hw⟩ := assemble_piece pending current p n _ hoff
      rw [hasm]
      obtain ⟨pre, w', m, heq, hpre, hw', h₁, h₂⟩ :=
        ih ho (n + byteLength (Lexeme.piece p).source.toList) pending' (some w)
        (by rw [hw, hp, hclosed]; rfl) (by simpa [Lexeme.source] using hend)
      exact ⟨pre, w', m, heq, hpre, hw', by omega, by omega⟩

end Conch.Syntax
