import Conch.Proofs.Layout
import Mathlib

/-!
# Redirection operands

A word of a line is the operand of a redirection exactly when the token right before it, in
the tokens of the line, is that redirection's operator.  The first token, and a word after a
bar, a parenthesis or another word, is no operand.

The scanner does not read it so: it remembers the redirection of the last operator until a
piece of a word takes it, and blanks in between change nothing.  The law it keeps is
`Tagged`, read along the tokens it has put out: each word carries what the token before it
introduces (`Token.introduces`).  Each step of `assemble` keeps it (`tagged_assemble`), and at
a given word it reads back as the last token before the word (`Tagged.redirect_eq`).

Main statement: `operand_of_preceding_operator`.
-/

set_option autoImplicit false

namespace Conch

/-- The redirection that a word right after this token is the operand of: the operator's
redirection, and none after a word. -/
def Token.introduces : Token → Option Redirect
  | .op o _ => o.redirect?
  | .word _ _ => none

end Conch

namespace Conch.Syntax

/-- `Tagged r ts`: each word of `ts` is the operand of what the token before it introduces,
and a word at the head of `ts` is the operand of `r`. -/
def Tagged : Option Redirect → List Token → Prop
  | _, [] => True
  | r, .word w _ :: ts => w.redirect = r ∧ Tagged none ts
  | _, .op o _ :: ts => Tagged o.redirect? ts

namespace Tagged

variable {r : Option Redirect} {t : Token} {ts : List Token}

theorem tail (h : Tagged r (t :: ts)) : Tagged t.introduces ts := by
  cases t with
  | op o n => exact h
  | word w n => exact h.2

/-- Along tagged tokens, a word is the operand of what the token before it introduces, or of
the redirection the tokens started with when it comes first. -/
theorem redirect_eq {pre post : List Token} {w : Word} {n : Nat}
    (h : Tagged r (pre ++ .word w n :: post)) :
    w.redirect = ((pre.getLast?).map Token.introduces).getD r := by
  induction pre generalizing r with
  | nil => exact h.1
  | cons t pre ih =>
    have hrest := ih h.tail
    rw [List.getLast?_cons]
    cases hl : pre.getLast? with
    | none => simpa [hl] using hrest
    | some x => simpa [hl] using hrest

end Tagged

/-- The redirection a word being read starts with: the one it took when its first piece was
read, or the pending one when no word is being read. -/
def OpenWord.carried (pending : Option Redirect) : Option OpenWord → Option Redirect
  | none => pending
  | some w => w.redirect

/-- Assembling tokens keeps the operand law: the tokens begin tagged with what the word being
read carries, provided nothing is pending while a word is read (a word's first piece takes
the pending redirection). -/
theorem tagged_assemble (pending : Option Redirect) (current : Option OpenWord)
    (ls : List (Lexeme × Nat)) (hpend : current.isSome → pending = none) :
    Tagged (OpenWord.carried pending current) (assemble pending current ls) := by
  fun_induction assemble pending current ls with
  | case1 pending current =>
    cases current with
    | none => trivial
    | some w => exact ⟨by simp [Word.ofPieces, OpenWord.carried], trivial⟩
  | case2 pending current run n ls ih =>
    -- a blank ends the word being read; what is pending waits for the next word
    have hrest := ih (by simp)
    cases current with
    | none => exact hrest
    | some w =>
      obtain rfl := hpend rfl
      exact ⟨by simp [Word.ofPieces, OpenWord.carried], hrest⟩
  | case3 pending current o n ls ih =>
    have hrest : Tagged none (.op o n :: assemble o.redirect? none ls) := ih (by simp)
    cases current with
    | none => exact hrest
    | some w => exact ⟨by simp [Word.ofPieces, OpenWord.carried], hrest⟩
  | case4 pending p n ls ih => exact ih (by simp)
  | case5 pending p n ls w ih => exact ih fun _ => hpend rfl

/-- The tokens of a line are tagged from the start of the line, where nothing is pending. -/
theorem tagged_of_tokenize {line : String} {ts : List Token} (h : tokenize line = .ok ts) :
    Tagged none ts := by
  obtain ⟨rfl, -⟩ := tokenize_eq_ok_iff.1 h
  rw [scan_eq_assemble]
  exact tagged_assemble none none _ (by simp)

/-- A word of a line is the operand of a redirection exactly when the token right before it
is that redirection's operator; the first token, and a word after a bar, a parenthesis or a
word, is no operand. -/
theorem operand_of_preceding_operator {line : String} {ts pre post : List Token} {w : Word}
    {n : Nat} (h : tokenize line = .ok ts) (hsplit : ts = pre ++ .word w n :: post) :
    w.redirect = pre.getLast?.bind Token.introduces ∧
      ∀ k, w.redirect = some k ↔ ∃ m, pre.getLast? = some (.op (.redirect k) m) := by
  have htag : Tagged none (pre ++ .word w n :: post) := hsplit ▸ tagged_of_tokenize h
  have hw : w.redirect = pre.getLast?.bind Token.introduces := by
    rw [htag.redirect_eq]
    cases pre.getLast? <;> rfl
  refine ⟨hw, fun k => ?_⟩
  rw [hw]
  cases hlast : pre.getLast? with
  | none => simp
  | some t =>
    cases t with
    | word v m => simp [Token.introduces]
    | op o m =>
      cases o <;> simp [Token.introduces, Operator.redirect?]

/-- In `<f` the word `f` follows `<` and is the operand of an input redirection. -/
theorem operand_of_preceding_input :
    tokenize "<f" = .ok [.op (.redirect .input) 0,
      .word
        { segments := [⟨.bare, "f"⟩], raw := "f", text := "f", fields := ["f"]
          redirect := some .input } 1] ∧
    (some Redirect.input = ([Token.op (.redirect .input) 0].getLast?).bind Token.introduces ∧
      ∀ k, some Redirect.input = some k ↔
        ∃ m, [Token.op (.redirect .input) 0].getLast? = some (.op (.redirect k) m)) := by
  have h : tokenize "<f" = .ok [.op (.redirect .input) 0,
      .word
        { segments := [⟨.bare, "f"⟩], raw := "f", text := "f", fields := ["f"]
          redirect := some .input } 1] := by cbv
  exact ⟨h, @operand_of_preceding_operator "<f" _ [.op (.redirect .input) 0] [] _ 1 h rfl⟩

end Conch.Syntax
