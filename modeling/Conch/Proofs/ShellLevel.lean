import Conch.Proofs.ExitStatus
import Conch.Proofs.StoreLaws

/-!
# The shell level

A new shell reads the level it inherits from the text of `SHLVL`, trimmed of white space, as a
64-bit signed integer written in decimal (`Text.IsInt64`); a missing variable or a text that is
no such integer counts as zero (`InheritedLevel`, read by `inheritedLevel_iff_read`).

From the inherited level `v` the new level is one when `v` is negative, zero when `v` is the
largest 32-bit integer or more, and `v + 1` otherwise, unless that reaches 1000: the level is
then reset to one and `v + 1` is reported as too high (`nextLevel_cases`).  The sum is taken in
64 bits, and its integer value is `v + 1` itself, so it never overflows.  Every level lies in
`0 ..= 999`, and a level is reported only with a reset to one.

The shell then sets `SHLVL` to the decimal text of its level, which a shell it starts reads back
as that same level (`InheritedLevel.of_toString`).

Main statement: `shell_level_from_inherited`.
-/

set_option autoImplicit false

namespace Conch

namespace Text

/-- The value of decimal digits as `decimalValue` reads them is core's value of digit characters. -/
theorem decimalValue_eq_ofDigitChars (ds : List Char) :
    decimalValue ds = Nat.ofDigitChars 10 ds 0 := by
  unfold decimalValue Nat.ofDigitChars
  congr 1
  funext acc c
  simp only [digitStep, Nat.mul_comm]

theorem isWhiteSpace_of_isDigit {c : Char} (h : c.isDigit = true) : isWhiteSpace c = false := by
  simp only [Char.isDigit, Bool.and_eq_true, decide_eq_true_eq] at h
  have hn : 48 ≤ c.toNat ∧ c.toNat ≤ 57 := ⟨h.1, h.2⟩
  simp only [isWhiteSpace, Bool.or_eq_false_iff, Bool.and_eq_false_iff, decide_eq_false_iff_not,
    beq_eq_false_iff_ne]
  omega

theorem trimChars_of_forall {cs : List Char} (h : ∀ c ∈ cs, isWhiteSpace c = false) :
    trimChars cs = cs := by
  have hfront : cs.dropWhile isWhiteSpace = cs :=
    List.dropWhile_eq_self_iff.2 fun hl => by
      rw [h _ (List.getElem_mem hl)]
      exact Bool.false_ne_true
  have hback : cs.reverse.dropWhile isWhiteSpace = cs.reverse :=
    List.dropWhile_eq_self_iff.2 fun hl => by
      rw [h _ (List.mem_reverse.1 (List.getElem_mem hl))]
      exact Bool.false_ne_true
  rw [trimChars, hfront, hback, List.reverse_reverse]

/-- The decimal digits of a natural number below `2^63` are a 64-bit integer with its value. -/
theorem isInt64_toDigits {n : Nat} (hn : n < 2 ^ 63) : IsInt64 (Nat.toDigits 10 n) n := by
  refine ⟨[], Nat.toDigits 10 n, rfl, Nat.toDigits_ne_nil,
    fun c hc => Nat.isDigit_of_mem_toDigits (by decide) (by decide) hc, ?_, by omega, by omega⟩
  left
  refine ⟨Or.inl rfl, ?_⟩
  rw [decimalValue_eq_ofDigitChars, Nat.ofDigitChars_ten_toDigits]

end Text

/-! ## The inherited level -/

/-- The level a shell inherits from the value of `SHLVL`: the 64-bit integer that the trimmed
text is, or zero when there is no such variable or its text is no such integer. -/
inductive InheritedLevel : Option String → Int → Prop
  | absent : InheritedLevel none 0
  | number {text : String} {v : Int} :
      Text.IsInt64 (Text.trim text).toList v → InheritedLevel (some text) v
  | unreadable {text : String} :
      (∀ v, ¬ Text.IsInt64 (Text.trim text).toList v) → InheritedLevel (some text) 0

/-- The reader of 64-bit integers finds the inherited level. -/
theorem inheritedLevel_iff_read {inherited : Option String} {v : Int} :
    InheritedLevel inherited v ↔
      ((inherited.map Text.trim).bind Text.IntWidth.signed64.read?).getD 0 = v := by
  cases inherited with
  | none =>
    simp only [Option.map_none, Option.bind_none, Option.getD_none]
    constructor
    · rintro ⟨⟩
      rfl
    · rintro rfl
      exact .absent
  | some text =>
    simp only [Option.map_some, Option.bind_some]
    cases hread : Text.IntWidth.signed64.read? (Text.trim text) with
    | some u =>
      have hu := (Text.read?_signed64_eq_some_iff _ _).1 hread
      simp only [Option.getD_some]
      constructor
      · rintro (_ | hv | hnot)
        · exact Text.IsInt64.unique hu hv
        · exact absurd hu (hnot u)
      · rintro rfl
        exact .number hu
    | none =>
      have hnot : ∀ u, ¬ Text.IsInt64 (Text.trim text).toList u := fun u hu => by
        rw [← Text.read?_signed64_eq_some_iff, hread] at hu
        cases hu
      simp only [Option.getD_none]
      constructor
      · rintro (_ | hv | _)
        · exact absurd hv (hnot _)
        · rfl
      · rintro rfl
        exact .unreadable hnot

theorem InheritedLevel.exists (inherited : Option String) : ∃ v, InheritedLevel inherited v :=
  ⟨_, inheritedLevel_iff_read.2 rfl⟩

theorem InheritedLevel.unique {inherited : Option String} {v v' : Int}
    (h : InheritedLevel inherited v) (h' : InheritedLevel inherited v') : v = v' :=
  (inheritedLevel_iff_read.1 h).symm.trans (inheritedLevel_iff_read.1 h')

theorem InheritedLevel.bounds {inherited : Option String} {v : Int}
    (h : InheritedLevel inherited v) : -2 ^ 63 ≤ v ∧ v < 2 ^ 63 := by
  cases h with
  | absent => decide
  | number hv =>
    obtain ⟨_, _, _, _, _, _, hlo, hhi⟩ := hv
    exact ⟨hlo, hhi⟩
  | unreadable => decide

/-- The decimal text of a level that is not negative reads back as that level. -/
theorem InheritedLevel.of_toString {k : Int64} (hk : 0 ≤ k.toInt) :
    InheritedLevel (some (toString k)) k.toInt := by
  obtain ⟨n, hn⟩ : ∃ n : Nat, k.toInt = n := ⟨k.toInt.toNat, (Int.toNat_of_nonneg hk).symm⟩
  have hlt : n < 2 ^ 63 := by
    have := Int64.toInt_lt k
    omega
  have htext : toString k = Nat.repr n := by
    show toString k.toInt = _
    rw [hn]
    rfl
  have hdigits : (Text.trim (Nat.repr n)).toList = Nat.toDigits 10 n := by
    rw [Text.trim, Nat.toList_repr, Text.trimChars_of_forall, String.toList_ofList]
    intro c hc
    exact Text.isWhiteSpace_of_isDigit (Nat.isDigit_of_mem_toDigits (by decide) (by decide) hc)
  rw [htext, hn]
  apply InheritedLevel.number
  rw [hdigits]
  exact Text.isInt64_toDigits hlt

/-! ## The next level -/

/-- The inherited level, taken into 64 bits, keeps its value. -/
theorem toInt_inherited {inherited : Option String} {v : Int} (h : InheritedLevel inherited v) :
    (Int64.ofInt (((inherited.map Text.trim).bind Text.IntWidth.signed64.read?).getD 0)).toInt =
      v := by
  rw [inheritedLevel_iff_read.1 h]
  exact Int64.toInt_ofInt_of_le h.bounds.1 h.bounds.2

/-- What a new shell makes of the level `v` it inherits: one for a negative level, zero from the
largest 32-bit integer on, and `v + 1` otherwise, unless that reaches 1000, which is reported
and reset to one.  The sum is taken in 64 bits, and its value is `v + 1`. -/
theorem nextLevel_cases {inherited : Option String} {v : Int} (h : InheritedLevel inherited v) :
    v < 0 ∧ nextLevel inherited = (1, none) ∨
      2 ^ 31 - 1 ≤ v ∧ nextLevel inherited = (0, none) ∨
      0 ≤ v ∧ v ≤ 998 ∧ (nextLevel inherited).1.toInt = v + 1 ∧
        (nextLevel inherited).2 = none ∨
      999 ≤ v ∧ v < 2 ^ 31 - 1 ∧ (nextLevel inherited).1 = 1 ∧
        (nextLevel inherited).2.map Int64.toInt = some (v + 1) := by
  have hv := toInt_inherited h
  unfold nextLevel
  generalize Int64.ofInt _ = current at hv ⊢
  -- the comparisons of `nextLevel` are those of the integer values
  have hzero : (0 : Int64).toInt = 0 := rfl
  have hmax : (2147483647 : Int64).toInt = 2 ^ 31 - 1 := rfl
  have hthreshold : (1000 : Int64).toInt = 1000 := rfl
  by_cases hneg : v < 0
  · left
    have hlt : current < 0 := Int64.lt_iff_toInt_lt.2 (by omega)
    simp [hneg, hlt]
  · have hge : ¬ current < 0 := mt Int64.lt_iff_toInt_lt.1 (by omega)
    by_cases hbig : 2 ^ 31 - 1 ≤ v
    · right; left
      have hle : current ≥ 2147483647 := Int64.le_iff_toInt_le.2 (by omega)
      exact ⟨hbig, by simp [hge, hle]⟩
    · have hsmall : ¬ current ≥ 2147483647 := mt Int64.le_iff_toInt_le.1 (by omega)
      have hnext : (current + 1).toInt = v + 1 := by
        rw [Int64.toInt_add, hv, Int64.toInt_one]
        apply Int.bmod_eq_of_le <;> omega
      by_cases hhigh : 999 ≤ v
      · right; right; right
        have hreset : current + 1 ≥ 1000 := Int64.le_iff_toInt_le.2 (by omega)
        refine ⟨hhigh, by omega, ?_⟩
        simp [hge, hsmall, hreset, hnext]
      · right; right; left
        have hkeep : ¬ current + 1 ≥ 1000 := mt Int64.le_iff_toInt_le.1 (by omega)
        refine ⟨by omega, by omega, ?_⟩
        simp [hge, hsmall, hkeep, hnext]

theorem nextLevel_bounds (inherited : Option String) :
    0 ≤ (nextLevel inherited).1.toInt ∧ (nextLevel inherited).1.toInt ≤ 999 := by
  obtain ⟨v, h⟩ := InheritedLevel.exists inherited
  rcases nextLevel_cases h with ⟨_, heq⟩ | ⟨_, heq⟩ | ⟨h0, h998, hlevel, _⟩ | ⟨_, _, hlevel, _⟩
  · rw [heq]
    decide
  · rw [heq]
    decide
  · omega
  · rw [hlevel]
    decide

/-- A level is reported as too high only when the new level is reset to one, and what is
reported is 1000 or more. -/
theorem nextLevel_of_reported {inherited : Option String} {n : Int64}
    (hn : (nextLevel inherited).2 = some n) : (nextLevel inherited).1 = 1 ∧ 1000 ≤ n.toInt := by
  obtain ⟨v, h⟩ := InheritedLevel.exists inherited
  rcases nextLevel_cases h with ⟨_, heq⟩ | ⟨_, heq⟩ | ⟨_, _, _, hnone⟩ | ⟨h999, _, hlevel, hwarn⟩
  · simp [heq] at hn
  · simp [heq] at hn
  · simp [hnone] at hn
  · rw [hn] at hwarn
    simp only [Option.map_some, Option.some.injEq] at hwarn
    exact ⟨hlevel, by omega⟩

/-! ## Setting `SHLVL` -/

/-- The variables a shell starts with: the inherited ones, with `SHLVL` set to the text of the
next level and then `PWD` to the working directory. -/
theorem Launch.env_shell (l : Launch) :
    l.shell.1.env = ((Env.ofPairs l.env).set "SHLVL"
      (toString (nextLevel ((Env.ofPairs l.env).get "SHLVL")).1)).set "PWD" l.cwd := rfl

/-- A shell's `SHLVL` is the decimal text of its level. -/
theorem Launch.shlvl_shell (l : Launch) :
    l.shell.1.env.get "SHLVL" =
      some (toString (nextLevel ((Env.ofPairs l.env).get "SHLVL")).1) := by
  rw [Launch.env_shell, Env.get_set_of_ne _ _ _ (by decide), Env.get_set_self]

/-- The level of a new shell, for every value of `SHLVL` it inherits or none.  With `v` the
inherited level (the trimmed text read as a 64-bit integer, zero when absent or unreadable),
the level is one when `v < 0`, zero when `v ≥ 2^31 - 1`, `v + 1` when `0 ≤ v ≤ 998`, and one with
`v + 1` reported as too high when `999 ≤ v < 2^31 - 1`.  The 64-bit sum `v + 1` is the integer
`v + 1` in both cases where it is taken, so it never overflows.  Hence every level lies in
`0 ..= 999`, and a report comes only with level one and is at least 1000.  The shell then sets
`SHLVL` to the decimal text of its level, which reads back as that level. -/
theorem shell_level_from_inherited (inherited : Option String) :
    (∃ v, InheritedLevel inherited v) ∧
      (∀ v, InheritedLevel inherited v →
        (v < 0 → nextLevel inherited = (1, none)) ∧
        (2 ^ 31 - 1 ≤ v → nextLevel inherited = (0, none)) ∧
        (0 ≤ v → v ≤ 998 →
          (nextLevel inherited).1.toInt = v + 1 ∧ (nextLevel inherited).2 = none) ∧
        (999 ≤ v → v < 2 ^ 31 - 1 → (nextLevel inherited).1 = 1 ∧
          (nextLevel inherited).2.map Int64.toInt = some (v + 1))) ∧
      0 ≤ (nextLevel inherited).1.toInt ∧ (nextLevel inherited).1.toInt ≤ 999 ∧
      (∀ n, (nextLevel inherited).2 = some n → (nextLevel inherited).1 = 1 ∧ 1000 ≤ n.toInt) ∧
      (∀ l : Launch, (Env.ofPairs l.env).get "SHLVL" = inherited →
        l.shell.1.env.get "SHLVL" = some (toString (nextLevel inherited).1) ∧
        InheritedLevel (l.shell.1.env.get "SHLVL") (nextLevel inherited).1.toInt) := by
  obtain ⟨hlo, hhi⟩ := nextLevel_bounds inherited
  refine ⟨InheritedLevel.exists inherited, ?_, hlo, hhi, fun n hn => nextLevel_of_reported hn, ?_⟩
  · intro v h
    -- each range of `v` picks one case of `nextLevel_cases`; the others contradict it
    rcases nextLevel_cases h with ⟨hv, heq⟩ | ⟨hv, heq⟩ | ⟨h0, h998, hlevel, hnone⟩ |
        ⟨h999, hmax, hlevel, hwarn⟩
    · exact ⟨fun _ => heq, by omega, by omega, by omega⟩
    · exact ⟨by omega, fun _ => heq, by omega, by omega⟩
    · exact ⟨by omega, by omega, fun _ _ => ⟨hlevel, hnone⟩, by omega⟩
    · exact ⟨by omega, by omega, by omega, fun _ _ => ⟨hlevel, hwarn⟩⟩
  · intro l hl
    rw [Launch.shlvl_shell, hl]
    exact ⟨rfl, InheritedLevel.of_toString hlo⟩

/-- A shell started with `SHLVL` at 999, blanks around it, is reset to level one, reports 1000,
and sets `SHLVL` to `1`, as `shell_level_from_inherited` says. -/
theorem shell_level_after_999 :
    InheritedLevel (some "\t999 ") 999 ∧
      (Env.ofPairs [("SHLVL", "\t999 ")]).get "SHLVL" = some "\t999 " ∧
      (nextLevel (some "\t999 ")).1 = 1 ∧
      (nextLevel (some "\t999 ")).2.map Int64.toInt = some 1000 ∧
      (Launch.mk [] [("SHLVL", "\t999 ")] "/" { entries := [] } "" 0 [] false).shell.1.env.get "SHLVL" =
        some "1" := by
  have hv : InheritedLevel (some "\t999 ") 999 := inheritedLevel_iff_read.2 (by decide +kernel)
  have hget : (Env.ofPairs [("SHLVL", "\t999 ")]).get "SHLVL" = some "\t999 " := by cbv
  have hlevel := (shell_level_from_inherited (some "\t999 ")).2.1 999 hv
  obtain ⟨hone, hwarn⟩ := hlevel.2.2.2 (by decide) (by decide)
  have hset := ((shell_level_from_inherited (some "\t999 ")).2.2.2.2.2
    (Launch.mk [] [("SHLVL", "\t999 ")] "/" { entries := [] } "" 0 [] false) hget).1
  refine ⟨hv, hget, hone, hwarn, ?_⟩
  rw [hset, hone]
  rfl

end Conch
