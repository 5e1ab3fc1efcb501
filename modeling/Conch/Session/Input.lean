/-!
# Reading lines

The shell reads its input one line at a time: the characters up to the next newline, which
is consumed and not part of the line.  A last line without a newline is still a line; only
when nothing is left is there no line.

Main definitions: `takeLine` and `takeLine_shorter`.
-/

namespace Conch

/-- The next line of the input and what follows it, or nothing at the end of the input. -/
def takeLine (input : List Char) : Option (String × List Char) :=
  match input with
  | [] => none
  | _ =>
      let line := input.takeWhile (· != '\n')
      some (String.ofList line, (input.dropWhile (· != '\n')).drop 1)

/-- Dropping a prefix never lengthens a list. -/
theorem length_dropWhile_le' (p : Char → Bool) (cs : List Char) :
    (cs.dropWhile p).length ≤ cs.length := by
  induction cs with
  | nil => simp
  | cons c cs ih =>
      simp only [List.dropWhile_cons]
      split
      · exact Nat.le_succ_of_le ih
      · simp

/-- What follows a line is shorter than the input it was taken from. -/
theorem takeLine_shorter {input rest : List Char} {line : String}
    (h : takeLine input = some (line, rest)) : rest.length < input.length := by
  unfold takeLine at h
  split at h
  · cases h
  · next hne =>
      simp only [Option.some.injEq, Prod.mk.injEq] at h
      obtain ⟨_, rfl⟩ := h
      have hle := length_dropWhile_le' (· != '\n') input
      cases input with
      | nil => exact absurd rfl hne
      | cons c cs =>
          simp only [List.length_drop]
          simp only [List.length_cons] at hle ⊢
          omega

end Conch
