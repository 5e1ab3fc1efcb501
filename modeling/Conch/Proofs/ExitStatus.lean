import Conch.Proofs.Session

/-!
# The status the shell exits with

`exit` reads its argument, trimmed, as a 64-bit signed integer written in decimal: an optional
`+` or `-`, then one or more ASCII digits, the value in range (`Text.IsInt64`).  The reader
accepts exactly such texts, with their value (`Text.read_signed64_eq_ok_iff`).  With no
argument `exit` asks for the last status; with an argument that is no such integer, for 2; with
one integer `v`, for `v` modulo 256 taken into `0 ..= 255`; an integer followed by more
arguments is refused with status 1 and the shell goes on (`ExitRequest`,
`Builtin.exitCommand_flow_iff`).  Every other built-in command goes on to the next line
(`Builtin.run_cases`).

A line asks the shell to exit exactly when it runs `exit` alone in the shell, and then with
what `exit` asks for (`processLine_exit_iff`).  Every line keeps the status it ends with, and a
blank line keeps the last one, so along a run the status is that of the last line that was not
blank (`Steps.status_eq`); every status is a byte (`Steps.status_lt`).

Main statement: `exit_status_of_run`.
-/

namespace Conch

namespace Text

/-- One decimal digit more on the right of a value. -/
def digitStep (acc : Nat) (c : Char) : Nat := acc * 10 + (c.toNat - '0'.toNat)

/-- The value of a string of decimal digits. -/
def decimalValue (ds : List Char) : Nat := ds.foldl digitStep 0

/-- The characters are a 64-bit signed integer written in decimal with the value `v`: an
optional `+` or `-`, then one or more ASCII digits, with `v` from `-2^63` to `2^63 - 1`. -/
def IsInt64 (cs : List Char) (v : Int) : Prop :=
  ∃ sign ds, cs = sign ++ ds ∧ ds ≠ [] ∧ (∀ c ∈ ds, c.isDigit = true) ∧
    ((sign = [] ∨ sign = ['+']) ∧ v = decimalValue ds ∨
      sign = ['-'] ∧ v = -(decimalValue ds : Int)) ∧
    -2 ^ 63 ≤ v ∧ v < 2 ^ 63

theorem le_foldl_digitStep (cs : List Char) (acc : Nat) : acc ≤ cs.foldl digitStep acc := by
  induction cs generalizing acc with
  | nil => exact Nat.le_refl _
  | cons c rest ih => exact Nat.le_trans (by simp only [digitStep]; omega) (ih _)

/-- Reading digits from a value within the bound succeeds exactly on digits whose value stays
within it; the values only grow as digits come, so the last one decides. -/
theorem digitsValue_eq_ok_iff {bound : Nat} {overflow : IntError} {cs : List Char}
    {acc n : Nat} (hacc : acc ≤ bound) :
    digitsValue bound overflow cs acc = .ok n ↔
      (∀ c ∈ cs, c.isDigit = true) ∧ cs.foldl digitStep acc = n ∧ n ≤ bound := by
  induction cs generalizing acc with
  | nil =>
      constructor
      · intro h
        cases h
        exact ⟨by simp, rfl, hacc⟩
      · rintro ⟨-, rfl, -⟩
        rfl
  | cons c rest ih =>
      unfold digitsValue
      by_cases hd : c.isDigit = true
      · simp only [hd, if_true]
        by_cases hover : digitStep acc c > bound
        · -- the first digit past the bound fails, and no later value comes back under it
          rw [show acc * 10 + (c.toNat - '0'.toNat) = digitStep acc c from rfl, if_pos hover]
          constructor
          · intro h
            cases h
          · rintro ⟨-, hfold, hle⟩
            have := le_foldl_digitStep rest (digitStep acc c)
            simp only [List.foldl_cons] at hfold
            omega
        · rw [show acc * 10 + (c.toNat - '0'.toNat) = digitStep acc c from rfl, if_neg hover,
            ih (by omega)]
          simp [hd]
      · simp [hd]

@[simp] theorem IntWidth.signed64_max : IntWidth.signed64.max = 2 ^ 63 - 1 := rfl

@[simp] theorem IntWidth.signed64_minMagnitude : IntWidth.signed64.minMagnitude = 2 ^ 63 := rfl

theorem except_map_eq_ok {α β ε : Type} {f : α → β} {x : Except ε α} {b : β} :
    x.map f = .ok b ↔ ∃ a, x = .ok a ∧ f a = b := by
  cases x <;> simp [Except.map]

/-- Reading digits from zero: they are all digits, and their value is within the bound. -/
theorem digitsValue_zero_eq_ok_iff {bound : Nat} {overflow : IntError} {ds : List Char}
    {n : Nat} :
    digitsValue bound overflow ds 0 = .ok n ↔
      (∀ c ∈ ds, c.isDigit = true) ∧ decimalValue ds = n ∧ n ≤ bound :=
  digitsValue_eq_ok_iff (Nat.zero_le _)

/-- The digits after a `+` or no sign, read as a non-negative value. -/
theorem read_natural_eq_ok_iff {ds : List Char} {v : Int} :
    (digitsValue IntWidth.signed64.max .tooLarge ds 0).map Int.ofNat = .ok v ↔
      (∀ c ∈ ds, c.isDigit = true) ∧ v = decimalValue ds ∧ v < 2 ^ 63 := by
  rw [except_map_eq_ok]
  constructor
  · rintro ⟨n, hd, rfl⟩
    obtain ⟨hdig, rfl, hle⟩ := digitsValue_zero_eq_ok_iff.1 hd
    simp only [IntWidth.signed64_max] at hle
    rw [Int.ofNat_eq_natCast]
    exact ⟨hdig, rfl, by omega⟩
  · rintro ⟨hdig, rfl, hlt⟩
    exact ⟨decimalValue ds, digitsValue_zero_eq_ok_iff.2 ⟨hdig, rfl, by simp; omega⟩, rfl⟩

/-- The digits after a `-`, read as a non-positive value. -/
theorem read_negative_eq_ok_iff {ds : List Char} {v : Int} :
    (Except.map (fun n => -n) (do
        let a ← digitsValue IntWidth.signed64.minMagnitude .tooSmall ds 0
        pure (a : Int)) : Except IntError Int) = .ok v ↔
      (∀ c ∈ ds, c.isDigit = true) ∧ v = -(decimalValue ds : Int) ∧ -2 ^ 63 ≤ v := by
  -- the coercion of the digits' value into the integers is a second map
  have hcoe : (do
      let a ← digitsValue IntWidth.signed64.minMagnitude .tooSmall ds 0
      pure (a : Int) : Except IntError Int) =
      (digitsValue IntWidth.signed64.minMagnitude .tooSmall ds 0).map Int.ofNat := by
    cases digitsValue IntWidth.signed64.minMagnitude .tooSmall ds 0 <;> rfl
  rw [hcoe, except_map_eq_ok]
  constructor
  · rintro ⟨a, hmap, rfl⟩
    obtain ⟨n, hd, rfl⟩ := except_map_eq_ok.1 hmap
    obtain ⟨hdig, rfl, hle⟩ := digitsValue_zero_eq_ok_iff.1 hd
    simp only [IntWidth.signed64_minMagnitude] at hle
    rw [Int.ofNat_eq_natCast]
    exact ⟨hdig, rfl, by omega⟩
  · rintro ⟨hdig, rfl, hlo⟩
    refine ⟨decimalValue ds, except_map_eq_ok.2 ⟨decimalValue ds, ?_, rfl⟩, rfl⟩
    exact digitsValue_zero_eq_ok_iff.2 ⟨hdig, rfl, by simp; omega⟩

/-- The reader of 64-bit integers accepts exactly the texts `IsInt64` describes, with their
value: the sign decides the branch, and the digits after it decide the value and the range. -/
theorem read_signed64_eq_ok_iff (s : String) (v : Int) :
    IntWidth.signed64.read s = .ok v ↔ IsInt64 s.toList v := by
  unfold IntWidth.read
  generalize s.toList = cs
  constructor
  · intro h
    split at h
    · cases h
    · cases h
    · cases h
    · rename_i rest hrest
      obtain ⟨hdig, rfl, hlt⟩ := read_natural_eq_ok_iff.1 h
      exact ⟨['+'], rest, rfl, hrest, hdig, .inl ⟨.inr rfl, rfl⟩, by omega, hlt⟩
    · rename_i rest hrest
      obtain ⟨hdig, rfl, hlo⟩ := read_negative_eq_ok_iff.1 h
      exact ⟨['-'], rest, rfl, hrest, hdig, .inr ⟨rfl, rfl⟩, hlo, by omega⟩
    · rename_i hnil _ _ _ _
      obtain ⟨hdig, rfl, hlt⟩ := read_natural_eq_ok_iff.1 h
      exact ⟨[], _, rfl, hnil, hdig, .inl ⟨.inl rfl, rfl⟩, by omega, hlt⟩
  · rintro ⟨sign, ds, rfl, hne, hdig, hval, hlo, hhi⟩
    obtain ⟨d, ds', rfl⟩ := List.exists_cons_of_ne_nil hne
    rcases hval with ⟨rfl | rfl, rfl⟩ | ⟨rfl, rfl⟩
    · -- with no sign the first character is a digit, so no sign branch is taken
      have hsign : d ≠ '+' ∧ d ≠ '-' := by
        have hd : d.isDigit = true := hdig d (by simp)
        constructor <;> (rintro rfl; exact absurd hd (by decide))
      simp only [List.nil_append]
      split
      · next heq => cases heq
      · next heq => exact absurd (List.cons.inj heq).1 hsign.1
      · next heq => exact absurd (List.cons.inj heq).1 hsign.2
      · next heq => exact absurd (List.cons.inj heq).1 hsign.1
      · next heq => exact absurd (List.cons.inj heq).1 hsign.2
      · exact read_natural_eq_ok_iff.2 ⟨hdig, rfl, hhi⟩
    · exact read_natural_eq_ok_iff.2 ⟨hdig, rfl, hhi⟩
    · exact read_negative_eq_ok_iff.2 ⟨hdig, rfl, hlo⟩

theorem read?_signed64_eq_some_iff (s : String) (v : Int) :
    IntWidth.signed64.read? s = some v ↔ IsInt64 s.toList v := by
  rw [← read_signed64_eq_ok_iff]
  cases h : IntWidth.signed64.read s <;> simp [IntWidth.read?, h]

theorem IsInt64.unique {s : String} {v v' : Int} (h : IsInt64 s.toList v)
    (h' : IsInt64 s.toList v') : v = v' := by
  have hv := (read_signed64_eq_ok_iff s v).2 h
  rw [(read_signed64_eq_ok_iff s v').2 h'] at hv
  cases hv
  rfl

end Text

/-! ## What `exit` asks for -/

/-- The status an argument of `exit` asks for is that of a 64-bit integer, taken modulo 256
into `0 ..= 255`. -/
theorem exitCode?_eq_some_iff {arg : String} {code : Nat} :
    exitCode? arg = some code ↔
      ∃ v, Text.IsInt64 (Text.trim arg).toList v ∧ (v % 256).toNat = code := by
  simp [exitCode?, Text.read?_signed64_eq_some_iff]

/-- What `exit` with the arguments `args` asks for when the last status is `last`: to exit with
the last status, with 2 for an argument that is no 64-bit integer, or with one integer modulo
256; an integer followed by more arguments is refused with status 1 and the shell goes on.
The first argument is read before the others are counted. -/
inductive ExitRequest (last : Nat) : List String → Flow → Prop
  | bare : ExitRequest last [] (.exit last)
  | notNumber {arg : String} {rest : List String} :
      (∀ v, ¬ Text.IsInt64 (Text.trim arg).toList v) → ExitRequest last (arg :: rest) (.exit 2)
  | number {arg : String} {v : Int} :
      Text.IsInt64 (Text.trim arg).toList v → ExitRequest last [arg] (.exit (v % 256).toNat)
  | tooMany {arg : String} {v : Int} {rest : List String} :
      Text.IsInt64 (Text.trim arg).toList v → rest ≠ [] →
        ExitRequest last (arg :: rest) (.next 1)

theorem ExitRequest.unique {last : Nat} {args : List String} {f f' : Flow}
    (h : ExitRequest last args f) (h' : ExitRequest last args f') : f = f' := by
  cases h with
  | bare => cases h'; rfl
  | notNumber hnot =>
      cases h' with
      | notNumber => rfl
      | number hv => exact absurd hv (hnot _)
      | tooMany hv => exact absurd hv (hnot _)
  | number hv =>
      cases h' with
      | notNumber hnot => exact absurd hv (hnot _)
      | number hv' => rw [Text.IsInt64.unique hv hv']
      | tooMany _ hrest => exact absurd rfl hrest
  | tooMany hv hrest =>
      cases h' with
      | notNumber hnot => exact absurd hv (hnot _)
      | number => exact absurd rfl hrest
      | tooMany => rfl

example : ExitRequest 7 [" -1"] (.exit 255) :=
  .number (v := -1) ((Text.read_signed64_eq_ok_iff _ _).1 (by decide))

example : ExitRequest 7 ["260"] (.exit 4) :=
  .number (v := 260) ((Text.read_signed64_eq_ok_iff _ _).1 (by decide))

example : ExitRequest 7 ["9223372036854775808", "x"] (.exit 2) :=
  .notNumber fun v hv => by
    have hread : Text.IntWidth.signed64.read (Text.trim "9223372036854775808") =
        .error .tooLarge := by decide
    have h := (Text.read_signed64_eq_ok_iff _ _).2 hv
    rw [hread] at h
    cases h

namespace Builtin

/-- `exit` leaves the shell as it is and prints nothing on its output. -/
theorem exitCommand_quiet (sh : Shell) (args : List String) :
    (exitCommand sh args).1 = sh ∧ (exitCommand sh args).2.out = "" := by
  unfold exitCommand
  split
  · exact ⟨rfl, rfl⟩
  · split
    · exact ⟨rfl, rfl⟩
    · split <;> exact ⟨rfl, rfl⟩

theorem exitCommand_request (sh : Shell) (name : String) (args : List String) :
    ExitRequest sh.status args (exitCommand sh (name :: args)).2.flow := by
  cases args with
  | nil => exact .bare
  | cons arg rest =>
      simp only [exitCommand, List.tail_cons]
      cases hcode : exitCode? arg with
      | none =>
          refine .notNumber fun v hv => ?_
          have := exitCode?_eq_some_iff.2 ⟨v, hv, rfl⟩
          rw [hcode] at this
          cases this
      | some code =>
          obtain ⟨v, hv, rfl⟩ := exitCode?_eq_some_iff.1 hcode
          cases rest with
          | nil => exact .number hv
          | cons r rs => exact .tooMany hv (List.cons_ne_nil r rs)

theorem exitCommand_flow_iff (sh : Shell) (name : String) (args : List String) (f : Flow) :
    (exitCommand sh (name :: args)).2.flow = f ↔ ExitRequest sh.status args f := by
  constructor
  · rintro rfl
    exact exitCommand_request sh name args
  · exact (exitCommand_request sh name args).unique

theorem run_exit (sh : Shell) (fs : Fs) (args : List String) :
    run sh fs ("exit" :: args) = exitCommand sh ("exit" :: args) := by
  simp [run]

end Builtin

/-! ## The other built-in commands go on -/

theorem foldl_of_invariant {σ α : Type} (P : σ → Prop) {step : σ → α → σ}
    (hstep : ∀ acc a, P acc → P (step acc a)) :
    ∀ (xs : List α) (acc : σ), P acc → P (xs.foldl step acc)
  | [], _, h => h
  | a :: xs, acc, h => foldl_of_invariant P hstep xs (step acc a) (hstep acc a h)

/-- A command goes on to the next line with a status that is a byte. -/
def Flow.Continues (f : Flow) : Prop := ∃ n, f = .next n ∧ n < 256

namespace Builtin

/-- A command with an option grammar goes on when each parse of its words does: refused words
give 2. -/
theorem withOptions_continues {spec : Options.Spec} {sh : Shell} {args : List String}
    {k : Options.Parsed → Shell × Reply} (hk : ∀ p, (k p).2.flow.Continues) :
    (withOptions spec sh args k).2.flow.Continues := by
  unfold withOptions
  split
  · exact ⟨2, rfl, by decide⟩
  · exact hk _

-- each of these commands ends with 0, or with 1 for a refused operand or a failed change

theorem cdCommand_continues (sh : Shell) (fs : Fs) (name : String) (p : Options.Parsed) :
    (cdCommand sh fs name p).2.flow.Continues := by
  unfold cdCommand
  dsimp only
  repeat' split
  all_goals exact ⟨_, rfl, by decide⟩

theorem pwdCommand_continues (sh : Shell) (fs : Fs) (name : String) (p : Options.Parsed) :
    (pwdCommand sh fs name p).2.flow.Continues := by
  unfold pwdCommand
  repeat' split
  all_goals exact ⟨_, rfl, by decide⟩

theorem exportOne_continues (name : String) (acc : Shell × Reply) (decl : String)
    (h : acc.2.flow.Continues) : (exportOne name acc decl).2.flow.Continues := by
  obtain ⟨sh, r⟩ := acc
  unfold exportOne
  dsimp only at h ⊢
  repeat' split
  all_goals first | exact ⟨_, rfl, by decide⟩ | exact h

theorem unsetOne_continues (name : String) (acc : Shell × Reply) (n : String)
    (h : acc.2.flow.Continues) : (unsetOne name acc n).2.flow.Continues := by
  obtain ⟨sh, r⟩ := acc
  unfold unsetOne
  dsimp only at h ⊢
  split
  · exact ⟨_, rfl, by decide⟩
  · exact h

-- `export` and `unset` apply their operands one at a time, each keeping the flow going on

theorem exportCommand_continues (sh : Shell) (name : String) (p : Options.Parsed) :
    (exportCommand sh name p).2.flow.Continues := by
  unfold exportCommand
  split
  · exact ⟨_, rfl, by decide⟩
  · exact foldl_of_invariant (fun acc : Shell × Reply => acc.2.flow.Continues)
      (exportOne_continues name) _ _ ⟨0, rfl, by decide⟩

theorem unsetCommand_continues (sh : Shell) (name : String) (p : Options.Parsed) :
    (unsetCommand sh name p).2.flow.Continues :=
  foldl_of_invariant (fun acc : Shell × Reply => acc.2.flow.Continues)
    (unsetOne_continues name) _ _ ⟨0, rfl, by decide⟩

theorem historyCommand_continues (sh : Shell) (p : Options.Parsed) :
    (historyCommand sh p).2.flow.Continues := by
  unfold historyCommand
  split <;> exact ⟨0, rfl, by decide⟩

theorem envCommand_continues (sh : Shell) (args : List String) :
    (envCommand sh args).2.flow.Continues := by
  unfold envCommand
  split <;> exact ⟨_, rfl, by decide⟩

/-- A built-in command is `exit`, or goes on with a status that is a byte; an unknown name goes
on with 127. -/
theorem run_cases (sh : Shell) (fs : Fs) (args : List String) :
    (∃ rest, args = "exit" :: rest) ∨ (run sh fs args).2.flow.Continues := by
  unfold run
  dsimp only
  split
  · exact .inr (withOptions_continues (cdCommand_continues sh fs _))
  · exact .inr (withOptions_continues (pwdCommand_continues sh fs _))
  · exact .inr (withOptions_continues (exportCommand_continues sh _))
  · exact .inr (withOptions_continues (unsetCommand_continues sh _))
  · exact .inr (withOptions_continues (historyCommand_continues sh))
  · exact .inr (envCommand_continues sh args)
  · next hname =>
      left
      cases args with
      | nil => exact absurd hname (by decide)
      | cons a rest =>
          simp only [List.headD_cons] at hname
          exact ⟨rest, by rw [hname]⟩
  · exact .inr ⟨0, rfl, by decide⟩
  · exact .inr ⟨127, rfl, by decide⟩

end Builtin

/-- The only way `exit` goes on is with 1, refusing too many arguments. -/
theorem ExitRequest.eq_one_of_next {last : Nat} {args : List String} {n : Nat}
    (h : ExitRequest last args (.next n)) : n = 1 := by
  cases h
  rfl

/-- What `exit` asks for is a byte when the last status is. -/
theorem ExitRequest.status_lt {last : Nat} {args : List String} {f : Flow}
    (h : ExitRequest last args f) (hlast : last < 256) : f.status < 256 := by
  cases h with
  | bare => exact hlast
  | notNumber => decide
  | number => simp only [Flow.status]; omega
  | tooMany => decide

theorem Builtin.run_status_lt (sh : Shell) (fs : Fs) (args : List String)
    (hs : sh.status < 256) : (Builtin.run sh fs args).2.flow.status < 256 := by
  rcases Builtin.run_cases sh fs args with ⟨rest, rfl⟩ | ⟨n, hflow, hn⟩
  · rw [Builtin.run_exit]
    exact (Builtin.exitCommand_request sh "exit" rest).status_lt hs
  · rw [hflow]
    exact hn

/-! ## The line that exits -/

section Line

variable {sh : Shell} {w : World} {line : String}

theorem processLine_status_lt (hs : sh.status < 256) : (processLine sh w line).1.status < 256 := by
  by_cases halone :
      ∃ name args, RunsAlone sh w line name args ∧ Builtin.modifiesShell name = true
  · obtain ⟨name, args, hrun, hmod⟩ := halone
    obtain ⟨k, fs, -, -, hstatus, hflow⟩ := processLine_of_runsAlone hrun hmod
    rw [hstatus]
    rcases hflow with hflow | ⟨-, hflow⟩
    · rw [hflow]
      exact Builtin.run_status_lt _ fs _ hs
    · rw [hflow]
      decide
  · obtain ⟨-, -, hstatus, n, hflow, hn⟩ := processLine_of_not_runsAlone halone
    rw [hstatus, hflow]
    exact hn.elim id (· ▸ hs)

/-- A line that runs `exit` alone ends as `exit` asks, given the last status. -/
theorem processLine_of_runsAlone_exit {args : List String} (h : RunsAlone sh w line "exit" args) :
    ExitRequest sh.status args (processLine sh w line).2.2 := by
  obtain ⟨k, fs, -, -, -, hflow⟩ := processLine_of_runsAlone h (by decide)
  rw [Builtin.run_exit] at hflow
  rcases hflow with hflow | ⟨hout, -⟩
  · rw [hflow]
    exact Builtin.exitCommand_request ({ sh with history := sh.history.add line }.withHeredocs k)
      "exit" args
  · exact absurd (Builtin.exitCommand_quiet _ _).2 hout

/-- A line asks the shell to exit exactly when it runs `exit` alone, with what `exit` asks
for given the last status. -/
theorem processLine_exit_iff (code : Nat) :
    (processLine sh w line).2.2 = .exit code ↔
      ∃ args, RunsAlone sh w line "exit" args ∧ ExitRequest sh.status args (.exit code) := by
  constructor
  · intro hexit
    by_cases halone : ∃ name args, RunsAlone sh w line name args ∧
        Builtin.modifiesShell name = true
    · obtain ⟨name, args, hrun, hmod⟩ := halone
      obtain ⟨k, fs, -, -, -, hflow⟩ := processLine_of_runsAlone hrun hmod
      rw [hexit] at hflow
      rcases hflow with hflow | ⟨-, hflow⟩
      · -- only `exit` asks to exit
        rcases Builtin.run_cases _ fs (name :: args) with ⟨rest, hargs⟩ | ⟨n, hn, -⟩
        · obtain ⟨rfl, rfl⟩ := List.cons.inj hargs
          exact ⟨args, hrun, hexit ▸ processLine_of_runsAlone_exit hrun⟩
        · rw [hn] at hflow
          cases hflow
      · cases hflow
    · obtain ⟨-, -, -, n, hflow, -⟩ := processLine_of_not_runsAlone halone
      rw [hexit] at hflow
      cases hflow
  · rintro ⟨args, hrun, hreq⟩
    exact (processLine_of_runsAlone_exit hrun).unique hreq

/-- The status a line leaves is the one it ends with, and the last status for a blank line. -/
theorem processLine_status_eq :
    (processLine sh w line).1.status =
      if Text.isBlankText line then sh.status else (processLine sh w line).2.2.status := by
  split
  · next hblank => rw [processLine_of_blank hblank]
  · exact processLine_status_eq_flow sh w line

end Line

/-! ## Along a run -/

/-- The status of the last line of `turns` that is not blank, or `start` if there is none. -/
def lastStatus (start : Nat) (turns : List Turn) : Nat :=
  (((turns.filter fun t => !Text.isBlankText t.line).getLast?).map
    fun t => t.result.2.2.status).getD start

@[simp] theorem lastStatus_nil (start : Nat) : lastStatus start [] = start := rfl

theorem lastStatus_cons (start : Nat) (t : Turn) (turns : List Turn) :
    lastStatus start (t :: turns) =
      lastStatus (if Text.isBlankText t.line then start else t.result.2.2.status) turns := by
  unfold lastStatus
  by_cases hblank : Text.isBlankText t.line = true
  · simp [hblank]
  · simp only [List.filter_cons, hblank, Bool.not_false, if_true, List.getLast?_cons]
    cases (turns.filter fun t => !Text.isBlankText t.line).getLast? <;> simp

namespace Steps

variable {sh sh' : Shell} {w w' : World} {turns : List Turn}

/-- Along a run the status is that of the last line that was not blank. -/
theorem status_eq (h : Steps sh w turns sh' w') : sh'.status = lastStatus sh.status turns := by
  induction h with
  | nil => rfl
  | @cons sh sh₂ sh' w w₁ w₂ w' line n turns _ hline _ ih =>
      rw [ih, lastStatus_cons]
      have hstatus := @processLine_status_eq sh w₁ line
      rw [hline] at hstatus
      simp only [Turn.result, hline]
      rw [hstatus]

/-- Along a run every status is a byte. -/
theorem status_lt (h : Steps sh w turns sh' w') (hs : sh.status < 256) : sh'.status < 256 := by
  induction h with
  | nil => exact hs
  | @cons sh sh₂ sh' w w₁ w₂ w' line n turns _ hline _ ih =>
      have hnext := @processLine_status_lt sh w₁ line hs
      rw [hline] at hnext
      exact ih hnext

/-- An `exit` that a line of a run runs alone is one with more arguments than the integer it
starts with: it ends the line with 1. -/
theorem exit_refused (h : Steps sh w turns sh' w') :
    ∀ t ∈ turns, ∀ args, RunsAlone t.shell t.world t.line "exit" args →
      ExitRequest t.shell.status args t.result.2.2 ∧ t.result.2.2 = .next 1 := by
  induction h with
  | nil => simp
  | @cons sh sh₂ sh' w w₁ w₂ w' line n turns _ hline _ ih =>
      intro t ht args hrun
      rcases List.mem_cons.1 ht with rfl | ht
      · have hreq := processLine_of_runsAlone_exit hrun
        simp only [Turn.result] at hreq ⊢
        rw [hline] at hreq ⊢
        exact ⟨hreq, by rw [hreq.eq_one_of_next]⟩
      · exact ih t ht args hrun

end Steps

theorem ExitKind.code_ofCode (code : Nat) : (ExitKind.ofCode code).code = code := by
  unfold ExitKind.ofCode
  split <;> rfl

/-! ## The status of a run -/

/-- The status the shell exits with.  With no arguments the shell runs lines none of which runs
`exit` alone asking to exit, and then either its input ends, and it exits with the status of the
last line that was not blank (0 if none); or the next line runs `exit` alone asking to exit,
and the shell runs no other line and exits with what `exit` asked for given that status; or
more than `feedLimit` of its lines have written into its own input, and it stops with that
status.  `exit` reads its argument as `Text.IsInt64` says (`ExitRequest`), and a status keeps
its number through its name. -/
theorem exit_status_of_run (l : Launch) (hargs : l.args = []) :
    ∃ turns sh w, Steps l.shell.1 l.shell.2 turns sh w ∧
      (∀ t ∈ turns, ∀ args, RunsAlone t.shell t.world t.line "exit" args →
        ExitRequest t.shell.status args t.result.2.2 ∧ t.result.2.2 = .next 1) ∧
      (w.nextLine = none ∧ l.run = Finish.ofLoop (sh, w, lastStatus 0 turns) ∨
        (∃ line w₁ args code sh' w', w.nextLine = some (line, w₁) ∧
          RunsAlone sh w₁ line "exit" args ∧
          ExitRequest (lastStatus 0 turns) args (.exit code) ∧
          processLine sh w₁ line = (sh', w', .exit code) ∧
          l.run = Finish.ofLoop (sh', w', code)) ∨
        (turns.filter Turn.feeds).length = feedLimit + 1 ∧
          l.run = Finish.ofLoop (sh, w, lastStatus 0 turns)) ∧
      ∀ code, (ExitKind.ofCode code).code = code := by
  obtain ⟨turns, sh, w, hsteps, hend⟩ := readLoop_cases feedLimit l.shell.1 l.shell.2
  have hstatus : sh.status = lastStatus 0 turns := by
    rw [hsteps.status_eq, Launch.status_shell]
  have hbyte : sh.status < 256 := hsteps.status_lt (by simp)
  refine ⟨turns, sh, w, hsteps, hsteps.exit_refused, ?_, ExitKind.code_ofCode⟩
  rw [Launch.run_of_args_nil hargs]
  generalize readLoop feedLimit l.shell.1 l.shell.2 = r at hend
  rcases hend with hstop | ⟨hcount, rfl⟩
  · cases hstop with
    | eof hnone => exact .inl ⟨hnone, by rw [hstatus]⟩
    | @exit sh' _ w₁ w' line code hnext hline =>
        -- the exit line asks for a byte, which the loop keeps as it is
        obtain ⟨args, hrun, hreq⟩ := (processLine_exit_iff code).1 (by rw [hline])
        have hcode : code < 256 := hreq.status_lt hbyte
        refine .inr (.inl
          ⟨line, w₁, args, code, sh', w', hnext, hrun, hstatus ▸ hreq, hline, ?_⟩)
        rw [Nat.mod_eq_of_lt hcode]
  · exact .inr (.inr ⟨hcount, by rw [hstatus]⟩)

/-- A shell whose script is `exit 3` exits with 3: its first line runs `exit` alone, so neither
the end of its input nor the cap on feeding lines ends the run, as `exit_status_of_run` says. -/
theorem exit_three_status :
    (Launch.mk [] [] "/" { entries := [("/", ⟨.directory, 0o755⟩)] } "exit 3\n" 0 [] false).run.status =
      3 := by
  generalize hl : Launch.mk [] [] "/" { entries := [("/", ⟨.directory, 0o755⟩)] } "exit 3\n" 0 [] false = l
  have hcalm := Launch.calm_shell l
  have hnext : l.shell.2.nextLine = some ("exit 3", l.shell.2.setPipe 0 "") := by
    have htake : takeLine (World.boot l.fs l.input).input = some ("exit 3", []) := by
      rw [← hl]
      cbv
    have htext : Octets.toText "exit 3" = "exit 3" := by cbv
    rw [World.nextLine_eq hcalm.streams, hcalm.input, htake, Option.map_some, htext]
  have hsh : l.shell.1 =
      { env := ((Env.ofPairs []).set "SHLVL" "1").set "PWD" "/", cwd := "/",
        history := l.shell.1.history, historyPath := l.shell.1.historyPath, pid := 0 } := by
    have hget : (Env.ofPairs ([] : List (String × String))).get "SHLVL" = none := by cbv
    have hlevel : nextLevel none = (1, none) := by decide +kernel
    have hone : toString (1 : Int64) = "1" := by decide +kernel
    rw [← hl]
    simp only [Launch.shell, hget, hlevel, hone]
  have hruns : RunsAlone l.shell.1 (l.shell.2.setPipe 0 "") "exit 3" "exit" ["3"] := by
    rw [hsh]
    generalize l.shell.1.history = history
    generalize l.shell.1.historyPath = path
    generalize l.shell.2.setPipe 0 "" = w₁
    have htok : Syntax.tokenize "exit 3" = .ok ((Syntax.tokenize "exit 3").toOption.getD []) := by
      cbv
    refine ⟨by cbv, _, _, _, { args := ["exit", "3"] }, by cbv, htok,
      Prod.ext rfl (Prod.ext rfl ?_), rfl, rfl⟩
    -- the words need nothing of the world or of the history
    dsimp only
    generalize history.add "exit 3" = history'
    cbv
  have hreq : ExitRequest l.shell.1.status ["3"] (.exit 3) := by
    have hint : Text.IsInt64 (Text.trim "3").toList 3 :=
      ⟨[], ['3'], by cbv, by simp, by simp, .inl ⟨.inl rfl, by cbv⟩, by norm_num, by norm_num⟩
    exact .number hint
  have hexit := (processLine_exit_iff 3).2 ⟨["3"], hruns, hreq⟩
  obtain ⟨turns, sh, w, hsteps, -, hend, -⟩ := exit_status_of_run l (by rw [← hl])
  cases hsteps with
  | nil =>
      rcases hend with ⟨hnone, -⟩ | ⟨line, w₁, args, code, sh', w', hnext', -, -, hproc, hrun⟩ |
          ⟨hcount, -⟩
      · rw [hnext] at hnone
        cases hnone
      · rw [hnext, Option.some.injEq, Prod.mk.injEq] at hnext'
        obtain ⟨rfl, rfl⟩ := hnext'
        rw [hproc] at hexit
        cases hexit
        rw [hrun]
        rfl
      · simp [feedLimit] at hcount
  | cons hnext' hproc _ =>
      -- a first turn would have gone on after the line that exits
      rw [hnext, Option.some.injEq, Prod.mk.injEq] at hnext'
      obtain ⟨rfl, rfl⟩ := hnext'
      rw [hproc] at hexit
      cases hexit

end Conch
