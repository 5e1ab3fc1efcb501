import Conch.Proofs.Layout
import Conch.Proofs.Splitting
import Mathlib

/-!
# Expanding the tokens of a line

`Scope.expandTokens` expands every word of a scanned line in place and then drops, by the
scanner's own rule (`Syntax.keepsToken`), the bare words whose text came out empty.  This
module says which tokens survive and what each one becomes.

A token survives expansion (`Scope.survives`) when it is an operator, a redirection operand
or a quoted word, or a bare word that expands to some field other than one empty field.  The
text of an expanded word is its fields joined by spaces, and that is empty exactly when
there is no field or one empty field (`intercalate_space_eq_empty_iff`); so the scanner's
rule on text is this rule on fields.  The two cases do differ: a bare `~` with an empty
`HOME` has one field, the empty one (`Scope.wordFields_eq_empty_field_iff`), and is dropped.

Main results:
* `Scope.expandTokens_eq`: the expanded line is the surviving tokens, in order, each
  expanded.
* `Scope.expandTokens_of_tokenize`: on a scanned line, moreover, here-document limiters are
  left as scanned, every other operand resolves to its one field or else is ambiguous, and
  every expanded word's text is its fields joined by spaces.
* `Scope.bare_tilde_dropped`: `echo ~` with an empty `HOME` loses its second word although
  that word expands to a field.
-/

namespace Conch

open Syntax

/-- Fields joined by single spaces make an empty text exactly when there is no field or one
empty field. -/
theorem intercalate_space_eq_empty_iff (fs : List String) :
    " ".intercalate fs = "" ↔ fs = [] ∨ fs = [""] := by
  rcases fs with _ | ⟨f, _ | ⟨g, rest⟩⟩ <;> simp

namespace Syntax

theorem ScannedWord.unresolved {w : Word} (h : ScannedWord w) :
    w.resolvedFile = none ∧ w.ambiguous = false := by
  obtain ⟨r, ps, -, -, rfl⟩ := h
  exact ⟨rfl, rfl⟩

/-- Every word of a scanned line is made of sound pieces. -/
theorem scannedWord_of_tokenize {line : String} {ts : List Token}
    (hts : tokenize line = .ok ts) {w : Word} {n : Nat} (hw : Token.word w n ∈ ts) :
    ScannedWord w := by
  obtain ⟨rfl, -⟩ := tokenize_eq_ok_iff.1 hts
  rw [scan_eq_assemble] at hw
  exact scannedWord_assemble 0 _ none none (by simp) w n hw

end Syntax

namespace Scope

theorem resolveOperand_eq (w : Word) :
    ∃ file ambiguous,
      resolveOperand w = { w with resolvedFile := file, ambiguous := ambiguous } := by
  unfold resolveOperand
  split
  · exact ⟨_, w.ambiguous, rfl⟩
  · exact ⟨w.resolvedFile, true, rfl⟩

/-- An operand not yet resolved names a file exactly when it has one field, and is
ambiguous exactly when it names none. -/
theorem resolveOperand_resolves (w : Word) (hfile : w.resolvedFile = none)
    (hamb : w.ambiguous = false) :
    (∀ f, (resolveOperand w).resolvedFile = some f ↔ w.fields = [f]) ∧
      ((resolveOperand w).ambiguous = true ↔ (resolveOperand w).resolvedFile = none) := by
  unfold resolveOperand
  split
  · next file hone => simp [hone, hamb]
  · next hnot => simp_all

/-- Whether a token outlives expansion: operators, operands and quoted words always do; a
bare word does unless it expands to no field or to one empty field. -/
def survives (sc : Scope) : Token → Bool
  | .op _ _ => true
  | .word w _ =>
      w.isQuoted || w.redirect.isSome || (sc.wordFields w != [] && sc.wordFields w != [""])

/-- The scanner's rule, applied to an expanded token, is survival. -/
theorem keepsToken_expandToken (sc : Scope) (t : Token) :
    keepsToken (sc.expandToken t) = sc.survives t := by
  cases t with
  | op o n => rfl
  | word w n =>
    cases hr : w.redirect with
    | none =>
      have htext := intercalate_space_eq_empty_iff (sc.wordFields w)
      simp only [expandToken, hr, keepsToken, survives, expandWord, Word.isQuoted,
        Option.isSome_none, Bool.or_false]
      cases w.segments.any (fun s => s.quoting != .bare)
      · rw [Bool.eq_iff_iff]
        simp [htext]
      · rfl
    | some r =>
      obtain ⟨file, amb, hres⟩ := resolveOperand_eq (sc.expandWord w)
      cases r <;> simp only [expandToken, hr, hres] <;> simp [keepsToken, survives, expandWord, hr]

/-- The expanded line is its surviving tokens, in order, each expanded. -/
theorem expandTokens_eq (sc : Scope) (ts : List Token) :
    sc.expandTokens ts = (ts.filter sc.survives).map sc.expandToken := by
  rw [expandTokens, dropEmptyWords, List.filter_map]
  congr 1
  exact List.filter_congr fun t _ => keepsToken_expandToken sc t

/-- A word that is no here-document limiter is expanded with its fields, its text their
join, and, when it is an operand not yet resolved, its file or its ambiguity. -/
theorem expandToken_word (sc : Scope) (w : Word) (n : Nat)
    (hlimiter : w.redirect ≠ some .heredoc) (hfile : w.resolvedFile = none)
    (hamb : w.ambiguous = false) :
    ∃ w', sc.expandToken (.word w n) = .word w' n ∧
      w'.segments = w.segments ∧ w'.raw = w.raw ∧ w'.unclosed = w.unclosed ∧
      w'.redirect = w.redirect ∧
      w'.fields = sc.wordFields w ∧ w'.text = " ".intercalate w'.fields ∧
      (w.redirect.isSome →
        (∀ f, w'.resolvedFile = some f ↔ w'.fields = [f]) ∧
          (w'.ambiguous = true ↔ w'.resolvedFile = none)) ∧
      (w.redirect = none → w'.resolvedFile = none ∧ w'.ambiguous = false) := by
  rcases Option.eq_none_or_eq_some w.redirect with hr | ⟨r, hr⟩
  · exact ⟨sc.expandWord w, by simp [expandToken, hr], rfl, rfl, rfl, rfl, rfl, rfl,
      fun h => by simp [hr] at h, fun _ => ⟨hfile, hamb⟩⟩
  · -- an operand other than a limiter is expanded, then resolved
    have hop : sc.expandToken (.word w n) = .word (resolveOperand (sc.expandWord w)) n := by
      cases r
      case heredoc => exact absurd hr hlimiter
      all_goals simp [expandToken, hr]
    have hres := resolveOperand_resolves (sc.expandWord w) hfile hamb
    obtain ⟨file, amb, heq⟩ := resolveOperand_eq (sc.expandWord w)
    refine ⟨_, hop, ?_⟩
    rw [heq] at hres ⊢
    exact ⟨rfl, rfl, rfl, rfl, rfl, rfl, fun _ => hres, fun h => by simp [hr] at h⟩

/-- Expanding the tokens of a scanned line keeps the surviving tokens in order and expands
each one: a here-document limiter stays exactly as scanned, unresolved and not ambiguous;
every other word gets its fields, and its text their join by single spaces; an operand among
them names a file exactly when it has one field, and is ambiguous exactly when it names
none. -/
theorem expandTokens_of_tokenize (sc : Scope) {line : String} {ts : List Token}
    (hts : tokenize line = .ok ts) :
    sc.expandTokens ts = (ts.filter sc.survives).map sc.expandToken ∧
      ∀ w n, Token.word w n ∈ ts →
        (w.redirect = some .heredoc →
          sc.expandToken (.word w n) = .word w n ∧ w.resolvedFile = none ∧
            w.ambiguous = false) ∧
        (w.redirect ≠ some .heredoc →
          ∃ w', sc.expandToken (.word w n) = .word w' n ∧
            w'.segments = w.segments ∧ w'.raw = w.raw ∧ w'.unclosed = w.unclosed ∧
            w'.redirect = w.redirect ∧
            w'.fields = sc.wordFields w ∧ w'.text = " ".intercalate w'.fields ∧
            (w.redirect.isSome →
              (∀ f, w'.resolvedFile = some f ↔ w'.fields = [f]) ∧
                (w'.ambiguous = true ↔ w'.resolvedFile = none)) ∧
            (w.redirect = none → w'.resolvedFile = none ∧ w'.ambiguous = false)) := by
  refine ⟨sc.expandTokens_eq ts, fun w n hw => ?_⟩
  obtain ⟨hfile, hamb⟩ := (scannedWord_of_tokenize hts hw).unresolved
  exact ⟨fun hlimiter => ⟨by simp [expandToken, hlimiter], hfile, hamb⟩,
    fun hlimiter => sc.expandToken_word w n hlimiter hfile hamb⟩

/-- `cat <<EOF >out` scans to a command, a limiter and an operand, and expands as its
surviving tokens. -/
theorem expandTokens_limiter_and_operand :
    let sc : Scope := { env := {}, status := 0, pid := 4242 }
    let ts : List Token :=
      [.word { segments := [⟨.bare, "cat"⟩], raw := "cat", text := "cat", fields := ["cat"] } 0,
       .op (.redirect .heredoc) 4,
       .word { segments := [⟨.bare, "EOF"⟩], raw := "EOF", text := "EOF", fields := ["EOF"],
               redirect := some .heredoc } 6,
       .op (.redirect .output) 10,
       .word { segments := [⟨.bare, "out"⟩], raw := "out", text := "out", fields := ["out"],
               redirect := some .output } 11]
    tokenize "cat <<EOF >out" = .ok ts ∧
      sc.expandTokens ts = (ts.filter sc.survives).map sc.expandToken := by
  intro sc ts
  have hts : tokenize "cat <<EOF >out" = .ok ts := by cbv
  exact ⟨hts, (expandTokens_of_tokenize sc hts).1⟩

/-- A bare `~` with an empty `HOME` expands to one field, the empty one, and is dropped all
the same: what decides is the empty text, not the absence of fields. -/
theorem bare_tilde_dropped :
    let sc : Scope := { env := Env.ofPairs [("HOME", "")], status := 0, pid := 4242 }
    let echo : Word := { segments := [⟨.bare, "echo"⟩], raw := "echo", text := "echo",
                         fields := ["echo"] }
    let tilde : Word := { segments := [⟨.bare, "~"⟩], raw := "~", text := "~", fields := ["~"] }
    tokenize "echo ~" = .ok [.word echo 0, .word tilde 5] ∧
      (sc.expandWord tilde).fields = [""] ∧
      sc.expandTokens [.word echo 0, .word tilde 5] = [.word echo 0] := by
  intro sc echo tilde
  exact ⟨by cbv, by cbv, by cbv⟩

end Scope

end Conch
