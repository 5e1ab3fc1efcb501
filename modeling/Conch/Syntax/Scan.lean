import Conch.Syntax.Token

/-!
# Scanning a line into tokens

The scanner reads a line from left to right as a sequence of lexemes: an operator, a run of
blanks, or one piece of a word (a bare run of ordinary characters, or a quotation).  Pieces
that touch each other form one word, blanks separate words and vanish, and a word takes the
redirection of an operator that stands right before it.

Two characters are special without being operators: a lone `&`, and the first `|` of `||`
(which is not an operator).  Each becomes a one-character piece of a word, so the scanner
accepts every line; it is the grammar check that rejects such lines.

The only failure is a quotation that the line never closes; it is reported at the offset of
the word that holds it.  Offsets count bytes of the line's UTF-8 encoding.

After the scan, two passes run over its lexemes, each piece of a word a word of its own: the
first tags the word right after each redirection operator as its operand (`tagOperands`), the
second joins each run of adjacent words into its first (`joinWords`, `Word.absorb`).
`assemble` does both in one pass.

Main definitions: `Syntax.lexemes`, `Syntax.tagOperands`, `Syntax.joinWords`,
`Syntax.assemble` and `Syntax.tokenize`.
-/

namespace Conch.Syntax

/-! ## Character classes -/

/-- Blanks separate words: space, tab and newline. -/
def isBlank (c : Char) : Bool :=
  c == ' ' || c == '\t' || c == '\n'

/-- The characters that end a bare run of text: the blanks, the operator characters, `&`
and the two quotes. -/
def isSpecial (c : Char) : Bool :=
  isBlank c || c == '|' || c == '&' || c == '<' || c == '>' || c == '(' || c == ')' ||
    c == '\'' || c == '"'

/-- The number of bytes of the UTF-8 encoding of some characters. -/
def byteLength (cs : List Char) : Nat :=
  cs.foldr (fun c n => c.utf8Size + n) 0

theorem byteLength_nil : byteLength [] = 0 := rfl

theorem byteLength_cons (c : Char) (cs : List Char) :
    byteLength (c :: cs) = c.utf8Size + byteLength cs := rfl

theorem length_dropWhile_le {α : Type} (p : α → Bool) :
    ∀ l : List α, (l.dropWhile p).length ≤ l.length
  | [] => Nat.le_refl _
  | a :: l => by
      simp only [List.dropWhile]
      split
      · exact Nat.le_succ_of_le (length_dropWhile_le p l)
      · exact Nat.le_refl _

/-! ## Lexemes -/

/-- The operator spelled at the head of the input, with the input after it.  A doubled bar
is no operator. -/
def operatorAt : List Char → Option (Operator × List Char)
  | '<' :: '<' :: r => some (.redirect .heredoc, r)
  | '>' :: '>' :: r => some (.redirect .append, r)
  | '|' :: '|' :: _ => none
  | '<' :: r => some (.redirect .input, r)
  | '>' :: r => some (.redirect .output, r)
  | '|' :: r => some (.pipe, r)
  | '(' :: r => some (.openGroup, r)
  | ')' :: r => some (.closeGroup, r)
  | _ => none

theorem length_of_operatorAt {cs r : List Char} {o : Operator}
    (h : operatorAt cs = some (o, r)) : r.length < cs.length := by
  unfold operatorAt at h
  split at h
  all_goals
    first
    | (simp only [Option.some.injEq, Prod.mk.injEq] at h
       obtain ⟨-, rfl⟩ := h
       simp only [List.length_cons]
       omega)
    | cases h

/-- One piece of a word as it was written. -/
structure Piece where
  segment : Segment
  /-- The source text of the piece, quotes included. -/
  raw : String
  /-- A quotation that the line never closes. -/
  unclosed : Bool
  deriving Repr, Inhabited

/-- What the scanner sees at one point of a line. -/
inductive Lexeme where
  | op (o : Operator)
  | blank (run : String)
  | piece (p : Piece)
  deriving Repr, Inhabited

/-- The source text a lexeme was read from. -/
def Lexeme.source : Lexeme → String
  | .op o => o.spelling
  | .blank run => run
  | .piece p => p.raw

/-- The quoting a quote character opens. -/
def quotingOf (q : Char) : Quoting :=
  if q == '\'' then .single else .double

/-- A quotation opened by `q`, whose body starts at `rest`: closed at the next `q`, or
running to the end of the line. -/
def quotation (q : Char) (rest : List Char) : Lexeme × List Char :=
  let body := rest.takeWhile (· != q)
  match rest.dropWhile (· != q) with
  | _ :: after =>
      (.piece ⟨⟨quotingOf q, String.ofList body⟩, String.ofList (q :: body ++ [q]), false⟩,
        after)
  | [] => (.piece ⟨⟨quotingOf q, String.ofList rest⟩, String.ofList (q :: rest), true⟩, [])

theorem length_quotation_le (q : Char) (rest : List Char) :
    (quotation q rest).2.length ≤ rest.length := by
  unfold quotation
  have h := length_dropWhile_le (· != q) rest
  split
  · rename_i after heq
    simp only
    rw [heq] at h
    simp at h
    omega
  · simp

/-- A bare piece: a run of ordinary characters, or a single special character that is
neither blank, quote nor operator. -/
def barePiece (c : Char) (rest : List Char) : Lexeme × List Char :=
  if isSpecial c then
    (.piece ⟨⟨.bare, String.ofList [c]⟩, String.ofList [c], false⟩, rest)
  else
    let run := c :: rest.takeWhile (fun d => !isSpecial d)
    (.piece ⟨⟨.bare, String.ofList run⟩, String.ofList run, false⟩,
      rest.dropWhile (fun d => !isSpecial d))

/-- The lexeme at the head `c :: rest` of the input, with the input after it. -/
def lexemeAt (c : Char) (rest : List Char) : Lexeme × List Char :=
  match operatorAt (c :: rest) with
  | some (o, after) => (.op o, after)
  | none =>
      if isBlank c then
        (.blank (String.ofList (c :: rest.takeWhile isBlank)), rest.dropWhile isBlank)
      else if c == '\'' || c == '"' then
        quotation c rest
      else
        barePiece c rest

theorem length_lexemeAt_le (c : Char) (rest : List Char) :
    (lexemeAt c rest).2.length ≤ rest.length := by
  unfold lexemeAt
  split
  · rename_i o after h
    have := length_of_operatorAt h
    simp at this ⊢
    omega
  · split
    · exact length_dropWhile_le _ rest
    · split
      · exact length_quotation_le c rest
      · unfold barePiece
        split
        · exact Nat.le_refl _
        · exact length_dropWhile_le _ rest

/-- The lexemes of the input, each with the byte offset where it starts. -/
def lexemes (offset : Nat) : List Char → List (Lexeme × Nat)
  | [] => []
  | c :: rest =>
      let step := lexemeAt c rest
      (step.1, offset) :: lexemes (offset + step.1.source.utf8ByteSize) step.2
termination_by cs => cs.length
decreasing_by
  have := length_lexemeAt_le c rest
  simp only [List.length_cons]
  omega

/-! ## The passes over the scan -/

/-- A piece as a word of its own, as the scanner makes it. -/
def Word.ofPiece (p : Piece) : Word :=
  { segments := [p.segment], raw := p.raw, text := p.segment.text, fields := [p.segment.text],
    unclosed := p.unclosed }

/-- A word takes in the word written right after it: their pieces, sources and texts join, and
the result is the operand of whichever redirection either was tagged with. -/
def Word.absorb (w other : Word) : Word :=
  { w with segments := w.segments ++ other.segments, raw := w.raw ++ other.raw,
           text := w.text ++ other.text, fields := [w.text ++ other.text],
           unclosed := w.unclosed || other.unclosed, redirect := w.redirect.or other.redirect }

/-- What the scanner hands to the passes after it: operators, runs of blanks, and each piece of
a word as a word of its own. -/
inductive Scanned where
  | op (o : Operator) (offset : Nat)
  | blank
  | word (w : Word) (offset : Nat)

/-- A lexeme as the passes see it. -/
def Scanned.ofLexeme : Lexeme × Nat → Scanned
  | (.op o, n) => .op o n
  | (.blank _, _) => .blank
  | (.piece p, n) => .word (Word.ofPiece p) n

/-- Tags a word as the operand of the redirection waiting for one, if there is one. -/
def Word.tag (pending : Option Redirect) (w : Word) : Word :=
  match pending with
  | some r => { w with redirect := some r }
  | none => w

/-- Tags the first word after each redirection operator, blanks between them allowed, as that
operator's operand; `pending` is the redirection still waiting for its operand. -/
def tagOperands (pending : Option Redirect) : List Scanned → List Scanned
  | [] => []
  | .op o n :: ss => .op o n :: tagOperands o.redirect? ss
  | .blank :: ss => .blank :: tagOperands pending ss
  | .word w n :: ss => .word (Word.tag pending w) n :: tagOperands none ss

/-- Puts the word a run has joined, if there is one, in front of the tokens after it. -/
def closeRun : Option (Word × Nat) → List Token → List Token
  | none, ts => ts
  | some (w, n), ts => .word w n :: ts

/-- Joins each run of adjacent words into its first word, which takes in the others one after
another, and drops the blanks; `run` is what the current run has joined so far, with the
offset of its first word. -/
def joinWords (run : Option (Word × Nat)) : List Scanned → List Token
  | [] => closeRun run []
  | .blank :: ss => closeRun run (joinWords none ss)
  | .op o n :: ss => closeRun run (.op o n :: joinWords none ss)
  | .word w n :: ss =>
      match run with
      | none => joinWords (some (w, n)) ss
      | some (h, m) => joinWords (some (Word.absorb h w, m)) ss

/-! ## Words in one pass -/

/-- The word made of adjacent pieces, operand of `redirect` if that is given. -/
def Word.ofPieces (redirect : Option Redirect) (ps : List Piece) : Word :=
  let text := String.join (ps.map (·.segment.text))
  { segments := ps.map (·.segment)
    raw := String.join (ps.map (·.raw))
    text := text
    fields := [text]
    unclosed := ps.any (·.unclosed)
    redirect := redirect }

/-- A word being read: its pieces so far in reverse, its offset and its redirection. -/
structure OpenWord where
  reversed : List Piece
  offset : Nat
  redirect : Option Redirect

/-- Finishes the word being read, if there is one, in front of the tokens after it. -/
def OpenWord.close : Option OpenWord → List Token → List Token
  | none, ts => ts
  | some w, ts => .word (Word.ofPieces w.redirect w.reversed.reverse) w.offset :: ts

/-- Tokens from lexemes in one pass: the two passes together.  Adjacent pieces join into one
word, blanks vanish, and a word whose first piece comes right after a redirection operator is
that operator's operand; `pending` is the redirection still waiting for its operand.  Only the
first piece of a word can be tagged, so the word's redirection is its first piece's. -/
def assemble (pending : Option Redirect) (current : Option OpenWord) :
    List (Lexeme × Nat) → List Token
  | [] => OpenWord.close current []
  | (.blank _, _) :: ls => OpenWord.close current (assemble pending none ls)
  | (.op o, n) :: ls => OpenWord.close current (.op o n :: assemble o.redirect? none ls)
  | (.piece p, n) :: ls =>
      match current with
      | none => assemble none (some ⟨[p], n, pending⟩) ls
      | some w => assemble pending (some { w with reversed := p :: w.reversed }) ls

/-! ## The scanner -/

/-- A word survives when it is quoted, an operand, or not empty; expansion can leave bare
words empty, and those are dropped. -/
def keepsToken : Token → Bool
  | .op _ _ => true
  | .word w _ => w.isQuoted || w.redirect.isSome || !w.text.isEmpty

/-- Drops the words that are bare, no operand and empty. -/
def dropEmptyWords (ts : List Token) : List Token :=
  ts.filter keepsToken

/-- A quotation that the line never closes, reported at the offset of its word. -/
structure UnclosedQuote where
  offset : Nat
  deriving DecidableEq, Repr

/-- The message that reports an unclosed quotation. -/
def UnclosedQuote.message (e : UnclosedQuote) : String :=
  s!"unterminated quote at offset {e.offset}"

/-- Whether a token is a word with an unclosed quotation. -/
def Token.isUnclosed : Token → Bool
  | .op _ _ => false
  | .word w _ => w.unclosed

/-- The tokens of a line, or the first word whose quotation the line never closes. -/
def tokenize (line : String) : Except UnclosedQuote (List Token) :=
  let ts := dropEmptyWords
    (joinWords none (tagOperands none ((lexemes 0 line.toList).map Scanned.ofLexeme)))
  match ts.find? Token.isUnclosed with
  | some t => .error ⟨t.offset⟩
  | none => .ok ts

end Conch.Syntax
