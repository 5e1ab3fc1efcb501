import Conch.Proofs.Heredocs
import Mathlib.Data.List.Forall2

/-!
# The commands of a line

A line is built into one command per stage, its stages being its tokens between the pipes
(`stages_eq_splitOnP`).  A stage's command is built token by token (`addToken`): a word that
is no redirection operand adds its fields to the arguments, and a redirection operand
redirects standard input (`<`, `<<`) or standard output (`>`, `>>`).  Everything one
redirection can do is said once (`applyRedirect_eq_ok`): read a here-document, whatever state
the command is in; leave a command that failed alone; fail the command with one message; or
open the target as the redirection asks.

From there, for every stage and from every shell, world and command:
* the arguments are those the command had, followed by the fields of the stage's plain words
  (`foldl_addToken_args`);
* a command that failed carries one message and one that did not none
  (`foldl_addToken_oneError`);
* once a command has failed, the rest of its stage only reads here-documents and adds
  arguments, opening and making no file (`foldl_addToken_of_failed`);
* a command that did not fail reads what the last `<` or `<<` of its stage opened, and writes
  to what the last `>` or `>>` opened (`foldl_addToken_stream`).
Opening a target for `>` empties the regular file it opens, and opening one for `>>` leaves
the octets of every file as they were (`World.openPath_writing`, `Redirect.openPath_target`).
Building a line fails only for its parentheses, for too many here-documents, or as a
here-document capture fails (`buildCommands_builds`).

Main statements: `commands_of_stages`, assembled from the above, and
`heredoc_file_abandons_line`: where a here-document's file cannot be made, building the line
gives no commands at all but the error.
-/

namespace Conch

/-! ## The stages of a line -/

/-- The stages of a line are its tokens split at the pipes. -/
theorem stages_eq_splitOnP (ts : List Token) :
    stages ts = ts.splitOnP (fun t => t.operator? == some .pipe) := by
  -- the stages done, then the one being built followed by the tokens left, split at the pipes
  have key : ∀ (ts : List Token) (done : List (List Token)) (current : List Token),
      (ts.foldl (fun (acc : List (List Token) × List Token) t =>
          if t.operator? == some .pipe then (acc.1 ++ [acc.2], []) else (acc.1, acc.2 ++ [t]))
        (done, current)).1 ++
      [(ts.foldl (fun (acc : List (List Token) × List Token) t =>
          if t.operator? == some .pipe then (acc.1 ++ [acc.2], []) else (acc.1, acc.2 ++ [t]))
        (done, current)).2] =
        done ++ List.splitOnPPrepend (fun t => t.operator? == some .pipe) ts current.reverse := by
    intro ts
    induction ts with
    | nil => intro done current; simp
    | cons t ts ih =>
        intro done current
        rw [List.foldl_cons]
        by_cases hp : (t.operator? == some .pipe) = true
        · rw [if_pos hp, ih,
            List.splitOnPPrepend_cons_pos (p := fun u : Token => u.operator? == some .pipe) hp]
          simp
        · rw [if_neg hp, ih, List.splitOnPPrepend_cons_neg
            (p := fun u : Token => u.operator? == some .pipe) (by simpa using hp)]
          simp
  simpa [stages] using key ts [] []

/-! ## What tokens and commands hold -/

namespace Token

/-- The arguments a token gives its command: the fields of a word that is no redirection
operand. -/
def argFields : Token → List String
  | .word wd _ => if wd.redirect = none then wd.fields else []
  | .op _ _ => []

/-- The redirection a token is the operand of. -/
def redirect? : Token → Option Redirect
  | .word wd _ => wd.redirect
  | .op _ _ => none

end Token

/-- Whether a redirection is of standard input (`<`, `<<`) rather than of standard output. -/
def Redirect.isInput : Redirect → Bool
  | .input | .heredoc => true
  | .output | .append => false

@[simp] theorem Redirection.isFailed_opened {α : Type} (a : α) :
    (Redirection.opened a).isFailed = false := rfl

namespace Command

/-- One direction of a command's redirections: its standard input, or its standard output. -/
def stream (c : Command) (input : Bool) : Redirection Nat := if input then c.input else c.output

/-- A command that failed carries one message, and one that did not none. -/
def OneError (c : Command) : Prop := c.errors.length = if c.isFailed then 1 else 0

variable (c : Command) (r : Redirect) (message : String)

@[simp] theorem args_fail : (c.fail r message).args = c.args := by
  cases r <;> rfl

@[simp] theorem errors_fail : (c.fail r message).errors = c.errors ++ [message] := by
  cases r <;> rfl

@[simp] theorem isFailed_fail : (c.fail r message).isFailed = true := by
  cases r <;> simp [fail, isFailed, Redirection.isFailed]

/-- Failing a redirection fails its own direction and leaves the other. -/
theorem stream_fail (d : Bool) :
    (c.fail r message).stream d = if r.isInput = d then .failed else c.stream d := by
  cases r <;> cases d <;> simp [fail, stream, Redirect.isInput]

theorem oneError_empty : OneError {} := rfl

end Command

/-- Reads the here-documents of these limiters one after the other and does nothing else,
stopping at the first whose file cannot be made. -/
def captureAll (sh : Shell) (w : World) : List Word → Shell × World × Except LineError Unit
  | [] => (sh, w, .ok ())
  | limiter :: rest =>
      match captureHeredoc sh w limiter with
      | (sh, w, .ok _) => captureAll sh w rest
      | (sh, w, .error e) => (sh, w, .error e)

/-- `ch` is what redirecting by `r` with the operand `operand` opens from the shell `sh` in the
world `w`: the file its here-document is read into, or its target opened as `r` asks. -/
def Opens (sh : Shell) (w : World) (r : Redirect) (operand : Word) (ch : Nat) : Prop :=
  if r = .heredoc then ∃ sh' w', captureHeredoc sh w operand = (sh', w', .ok ch)
  else ∃ f w', operand.ambiguous = false ∧ operand.resolvedFile = some f ∧
    w.openPath standardFds (sh.physicalCwd w.fs) (Octets.ofText f) r.opening = .ok (w', ch)

/-! ## One redirection, one token -/

/-- Everything applying a redirection can do when the line goes on: read a here-document,
whatever state the command is in; leave a command that failed alone; fail the command for an
ambiguous operand or a target that cannot be opened; or open the target as the redirection
asks and make it the command's stream in that direction. -/
theorem applyRedirect_eq_ok {sh sh' : Shell} {w w' : World} {c c' : Command} {r : Redirect}
    {operand : Word} (h : applyRedirect sh w c r operand = (sh', w', .ok c')) :
    (r = .heredoc ∧ ∃ src, captureHeredoc sh w operand = (sh', w', .ok src) ∧
        c' = if c.isFailed then c else { c with input := .opened src }) ∨
    (r ≠ .heredoc ∧ sh' = sh ∧ w' = w ∧ c.isFailed = true ∧ c' = c) ∨
    (r ≠ .heredoc ∧ sh' = sh ∧ w' = w ∧ c.isFailed = false ∧
        (operand.ambiguous = true ∨ operand.resolvedFile = none) ∧
        c' = c.fail r (operand.raw ++ ": ambiguous redirect")) ∨
    (r ≠ .heredoc ∧ sh' = sh ∧ w' = w ∧ c.isFailed = false ∧ ∃ f e,
        operand.ambiguous = false ∧ operand.resolvedFile = some f ∧
        w.openPath standardFds (sh.physicalCwd w.fs) (Octets.ofText f) r.opening = .error e ∧
        c' = c.fail r (f ++ ": " ++ e.describe)) ∨
    (r ≠ .heredoc ∧ sh' = sh ∧ c.isFailed = false ∧ ∃ f ch,
        operand.ambiguous = false ∧ operand.resolvedFile = some f ∧
        w.openPath standardFds (sh.physicalCwd w.fs) (Octets.ofText f) r.opening = .ok (w', ch) ∧
        c' = if r = .input then { c with input := .opened ch } else { c with output := .opened ch }) := by
  unfold applyRedirect at h
  split at h
  · -- a here-document
    left
    split at h
    · next sh₁ w₁ src hcap =>
        cases h
        exact ⟨rfl, src, hcap, rfl⟩
    · cases h
  · next hr =>
      right
      split at h
      · next hfailed =>
          cases h
          exact .inl ⟨hr, rfl, rfl, hfailed, rfl⟩
      · next hfailed =>
          have hok : c.isFailed = false := by simpa using hfailed
          right
          split at h
          · -- no single file to open
            next hnone =>
              cases h
              refine .inl ⟨hr, rfl, rfl, hok, ?_, rfl⟩
              cases ha : operand.ambiguous
              · simp [ha] at hnone
                exact .inr hnone
              · exact .inl rfl
          · next f hfile =>
              have ha : operand.ambiguous = false := by
                cases ha : operand.ambiguous <;> simp_all
              have hf : operand.resolvedFile = some f := by simpa [ha] using hfile
              right
              dsimp only at h
              split at h
              · next w₁ ch hopen =>
                  cases h
                  refine .inr ⟨hr, rfl, hok, f, ch, ha, hf, hopen, ?_⟩
                  by_cases hi : r = .input <;> simp [hi]
              · next e hopen =>
                  cases h
                  exact .inl ⟨hr, rfl, rfl, hok, f, e, ha, hf, hopen, rfl⟩

/-- Adding a token to a command that goes on either adds the fields of a plain word or an
operator's nothing, or applies the redirection the token is the operand of. -/
theorem addToken_eq_ok {sh sh' : Shell} {w w' : World} {c c' : Command} {t : Token}
    (h : addToken (sh, w, .ok c) t = (sh', w', .ok c')) :
    (t.redirect? = none ∧ sh' = sh ∧ w' = w ∧ c' = { c with args := c.args ++ t.argFields }) ∨
    (∃ wd k r, t = .word wd k ∧ wd.redirect = some r ∧
      applyRedirect sh w c r wd = (sh', w', .ok c')) := by
  cases t with
  | op o k =>
      cases h
      exact .inl ⟨rfl, rfl, rfl, by simp [Token.argFields]⟩
  | word wd k =>
      cases hr : wd.redirect with
      | none =>
          simp only [addToken, hr] at h
          cases h
          exact .inl ⟨hr, rfl, rfl, by simp [Token.argFields, hr]⟩
      | some r =>
          simp only [addToken, hr] at h
          exact .inr ⟨wd, k, r, rfl, hr, h⟩

@[simp] theorem foldl_addToken_error (ts : List Token) (sh : Shell) (w : World) (e : LineError) :
    ts.foldl addToken (sh, w, .error e) = (sh, w, .error e) := by
  induction ts with
  | nil => rfl
  | cons t ts ih => exact ih

/-- A stage's fold that ends with a command went through a command after its first token. -/
theorem foldl_addToken_cons_ok {t : Token} {ts : List Token} {sh sh' : Shell} {w w' : World}
    {c c' : Command} (h : (t :: ts).foldl addToken (sh, w, .ok c) = (sh', w', .ok c')) :
    ∃ sh₁ w₁ c₁, addToken (sh, w, .ok c) t = (sh₁, w₁, .ok c₁) ∧
      ts.foldl addToken (sh₁, w₁, .ok c₁) = (sh', w', .ok c') := by
  rw [List.foldl_cons] at h
  rcases hstep : addToken (sh, w, .ok c) t with ⟨sh₁, w₁, e | c₁⟩
  · rw [hstep, foldl_addToken_error] at h
    cases h
  · exact ⟨sh₁, w₁, c₁, rfl, by rwa [hstep] at h⟩

/-! ## What one token does to a command -/

section Step

variable {sh sh' : Shell} {w w' : World} {c c' : Command} {r : Redirect} {operand : Word}

theorem applyRedirect_args (h : applyRedirect sh w c r operand = (sh', w', .ok c')) :
    c'.args = c.args := by
  rcases applyRedirect_eq_ok h with ⟨-, src, -, rfl⟩ | ⟨-, -, -, -, rfl⟩ |
      ⟨-, -, -, -, -, rfl⟩ | ⟨-, -, -, -, f, e, -, -, -, rfl⟩ | ⟨-, -, -, f, ch, -, -, -, rfl⟩
  · split <;> rfl
  · rfl
  · simp
  · simp
  · split <;> rfl

/-- A redirection keeps a command carrying one message exactly when it failed. -/
theorem applyRedirect_oneError (hc : c.OneError)
    (h : applyRedirect sh w c r operand = (sh', w', .ok c')) : c'.OneError := by
  have clean : c.isFailed = false → c.errors = [] := fun hf => by
    simpa [Command.OneError, hf] using hc
  rcases applyRedirect_eq_ok h with ⟨-, src, -, rfl⟩ | ⟨-, -, -, -, rfl⟩ |
      ⟨-, -, -, hf, -, rfl⟩ | ⟨-, -, -, hf, f, e, -, -, -, rfl⟩ | ⟨hr, -, hf, f, ch, -, -, -, rfl⟩
  · by_cases hf : c.isFailed = true
    · rwa [if_pos hf]
    · -- reading the here-document opens standard input on a command that had not failed
      rw [if_neg hf]
      simp only [Bool.not_eq_true] at hf
      simp only [Command.isFailed, Bool.or_eq_false_iff] at hf
      simp [Command.OneError, Command.isFailed, hf, clean]
  · exact hc
  · simp [Command.OneError, clean hf]
  · simp [Command.OneError, clean hf]
  · -- the opened direction is not failed, and the other was not
    have hc := clean hf
    simp only [Command.isFailed, Bool.or_eq_false_iff] at hf
    split <;> simp [Command.OneError, Command.isFailed, hf, hc]

theorem applyRedirect_isFailed (hc : c.isFailed = true)
    (h : applyRedirect sh w c r operand = (sh', w', .ok c')) : c'.isFailed = true := by
  rcases applyRedirect_eq_ok h with ⟨-, src, -, rfl⟩ | ⟨-, -, -, -, rfl⟩ |
      ⟨-, -, -, hok, -, -⟩ | ⟨-, -, -, hok, -⟩ | ⟨-, -, hok, -⟩
  · rwa [if_pos hc]
  · exact hc
  all_goals simp [hc] at hok

theorem Redirect.isInput_of_ne {r : Redirect} (hh : r ≠ .heredoc) (hi : r ≠ .input) :
    r.isInput = false := by
  cases r <;> simp_all [Redirect.isInput]

theorem applyRedirect_stream_of_ne {d : Bool} (hd : r.isInput ≠ d)
    (h : applyRedirect sh w c r operand = (sh', w', .ok c')) : c'.stream d = c.stream d := by
  rcases applyRedirect_eq_ok h with ⟨rfl, src, -, rfl⟩ | ⟨-, -, -, -, rfl⟩ |
      ⟨-, -, -, -, -, rfl⟩ | ⟨-, -, -, -, f, e, -, -, -, rfl⟩ | ⟨hr, -, -, f, ch, -, -, -, rfl⟩
  · -- a here-document is of standard input, so `d` is standard output
    obtain rfl : d = false := by simpa [Redirect.isInput] using hd.symm
    split <;> rfl
  · rfl
  · simp [Command.stream_fail, hd]
  · simp [Command.stream_fail, hd]
  · split
    · next hi =>
        subst hi
        obtain rfl : d = false := by simpa [Redirect.isInput] using hd.symm
        rfl
    · next hi =>
        obtain rfl : d = true := by simpa [Redirect.isInput_of_ne hr hi] using hd.symm
        rfl

/-- A redirection of a direction that leaves the command unfailed makes what it opened the
command's stream in that direction. -/
theorem applyRedirect_stream_of_eq {d : Bool} (hd : r.isInput = d)
    (h : applyRedirect sh w c r operand = (sh', w', .ok c')) (hc' : c'.isFailed = false) :
    ∃ ch, c'.stream d = .opened ch ∧ Opens sh w r operand ch := by
  rcases applyRedirect_eq_ok h with ⟨rfl, src, hcap, rfl⟩ | ⟨-, -, -, hfail, rfl⟩ |
      ⟨-, -, -, -, -, rfl⟩ | ⟨-, -, -, -, f, e, -, -, -, rfl⟩ |
      ⟨hr, -, -, f, ch, ha, hf, hopen, rfl⟩
  · -- the here-document is read even for a failed command, which then stays failed
    subst hd
    by_cases hfail : c.isFailed = true
    · rw [if_pos hfail] at hc'
      simp [hfail] at hc'
    · rw [if_neg hfail]
      exact ⟨src, rfl, by simp only [Opens, if_true]; exact ⟨_, _, hcap⟩⟩
  · simp [hfail] at hc'
  · simp at hc'
  · simp at hc'
  · refine ⟨ch, ?_, by simp only [Opens, if_neg hr]; exact ⟨f, w', ha, hf, hopen⟩⟩
    subst hd
    split
    · next hi => subst hi; rfl
    · next hi => simp [Command.stream, Redirect.isInput_of_ne hr hi]

end Step

/-- Whether the token is the operand of a redirection of the direction `d` (`true` for standard
input). -/
def Token.redirects (t : Token) (d : Bool) : Bool := t.redirect?.any (·.isInput == d)

section Token

variable {sh sh' : Shell} {w w' : World} {c c' : Command} {t : Token}

theorem addToken_args (h : addToken (sh, w, .ok c) t = (sh', w', .ok c')) :
    c'.args = c.args ++ t.argFields := by
  rcases addToken_eq_ok h with ⟨-, -, -, rfl⟩ | ⟨wd, k, r, rfl, hr, happ⟩
  · rfl
  · simp [applyRedirect_args happ, Token.argFields, hr]

theorem addToken_oneError (hc : c.OneError) (h : addToken (sh, w, .ok c) t = (sh', w', .ok c')) :
    c'.OneError := by
  rcases addToken_eq_ok h with ⟨-, -, -, rfl⟩ | ⟨wd, k, r, rfl, hr, happ⟩
  · exact hc
  · exact applyRedirect_oneError hc happ

theorem addToken_isFailed (hc : c.isFailed = true)
    (h : addToken (sh, w, .ok c) t = (sh', w', .ok c')) : c'.isFailed = true := by
  rcases addToken_eq_ok h with ⟨-, -, -, rfl⟩ | ⟨wd, k, r, rfl, hr, happ⟩
  · exact hc
  · exact applyRedirect_isFailed hc happ

theorem addToken_stream_of_ne {d : Bool} (ht : t.redirects d = false)
    (h : addToken (sh, w, .ok c) t = (sh', w', .ok c')) : c'.stream d = c.stream d := by
  rcases addToken_eq_ok h with ⟨-, -, -, rfl⟩ | ⟨wd, k, r, rfl, hr, happ⟩
  · rfl
  · refine applyRedirect_stream_of_ne ?_ happ
    simpa [Token.redirects, Token.redirect?, hr] using ht

/-- The only tokens that touch a failed command are here-documents, which are still read, and
plain words, whose fields are still added. -/
theorem addToken_of_failed (hc : c.isFailed = true) (t : Token) :
    addToken (sh, w, .ok c) t =
      match t.limiter? with
      | some limiter =>
          match captureHeredoc sh w limiter with
          | (sh', w', .ok _) => (sh', w', .ok c)
          | (sh', w', .error e) => (sh', w', .error e)
      | none => (sh, w, .ok { c with args := c.args ++ t.argFields }) := by
  cases t with
  | op o k => simp [addToken, Token.limiter?, Token.argFields]
  | word wd k =>
      cases hr : wd.redirect with
      | none => simp [addToken, Token.limiter?, Token.argFields, hr]
      | some r =>
          cases r
          case heredoc =>
            -- both sides read the same capture; name its outcome so the two matches agree
            rcases hcap : captureHeredoc sh w wd with ⟨sh', w', _ | _⟩ <;>
              simp [addToken, applyRedirect, Token.limiter?, hr, hc, hcap]
          all_goals simp [addToken, applyRedirect, Token.limiter?, Token.argFields, hr, hc]

end Token

/-! ## What a stage's tokens do to its command -/

section Run

variable {ts : List Token} {sh sh' : Shell} {w w' : World} {c c' : Command}

/-- The command's arguments are the fields of the stage's plain words, in order. -/
theorem foldl_addToken_args (h : ts.foldl addToken (sh, w, .ok c) = (sh', w', .ok c')) :
    c'.args = c.args ++ ts.flatMap Token.argFields := by
  induction ts generalizing sh w c with
  | nil => cases h; simp
  | cons t ts ih =>
      obtain ⟨sh₁, w₁, c₁, hstep, hrest⟩ := foldl_addToken_cons_ok h
      rw [ih hrest, addToken_args hstep, List.flatMap_cons, List.append_assoc]

theorem foldl_addToken_oneError (hc : c.OneError)
    (h : ts.foldl addToken (sh, w, .ok c) = (sh', w', .ok c')) : c'.OneError := by
  induction ts generalizing sh w c with
  | nil => cases h; exact hc
  | cons t ts ih =>
      obtain ⟨sh₁, w₁, c₁, hstep, hrest⟩ := foldl_addToken_cons_ok h
      exact ih (addToken_oneError hc hstep) hrest

theorem foldl_addToken_isFailed (hc : c.isFailed = true)
    (h : ts.foldl addToken (sh, w, .ok c) = (sh', w', .ok c')) : c'.isFailed = true := by
  induction ts generalizing sh w c with
  | nil => cases h; exact hc
  | cons t ts ih =>
      obtain ⟨sh₁, w₁, c₁, hstep, hrest⟩ := foldl_addToken_cons_ok h
      exact ih (addToken_isFailed hc hstep) hrest

/-- After a failed redirection the rest of the stage reads its here-documents and adds its
words' fields, and does nothing else: the world is what capturing those here-documents makes
of it. -/
theorem foldl_addToken_of_failed (hc : c.isFailed = true) (ts : List Token) (sh : Shell)
    (w : World) :
    ts.foldl addToken (sh, w, .ok c) =
      match captureAll sh w (heredocLimiters ts) with
      | (sh', w', r) => (sh', w', r.map fun _ => { c with args := c.args ++ ts.flatMap Token.argFields }) := by
  induction ts generalizing sh w c with
  | nil => simp [captureAll, heredocLimiters, Except.map]
  | cons t ts ih =>
      rw [List.foldl_cons, addToken_of_failed hc, heredocLimiters_cons]
      cases hl : t.limiter? with
      | none =>
          have hc₁ : ({ c with args := c.args ++ t.argFields } : Command).isFailed = true := hc
          simp only [Option.toList_none, List.nil_append]
          rw [ih hc₁]
          simp [List.flatMap_cons, List.append_assoc]
      | some limiter =>
          obtain ⟨k, rfl, hr⟩ := eq_word_of_limiter hl
          simp only [Option.toList_some, List.singleton_append, captureAll]
          rcases captureHeredoc sh w limiter with ⟨sh₁, w₁, e | src⟩
          · simp [Except.map]
          · simp [ih hc, Token.argFields, hr]

/-- The last redirection of a direction wins: a command that did not fail has in that
direction either the stream it started with, when no token redirects it, or what the stage's
last redirection of it opened, from the shell and world its fold had reached. -/
theorem foldl_addToken_stream (d : Bool) (h : ts.foldl addToken (sh, w, .ok c) = (sh', w', .ok c'))
    (hc' : c'.isFailed = false) :
    (c'.stream d = c.stream d ∧ ∀ t ∈ ts, t.redirects d = false) ∨
    ∃ pre wd k r post sh₁ w₁ c₁ ch, ts = pre ++ .word wd k :: post ∧ wd.redirect = some r ∧
      r.isInput = d ∧ (∀ t ∈ post, t.redirects d = false) ∧
      pre.foldl addToken (sh, w, .ok c) = (sh₁, w₁, .ok c₁) ∧
      c'.stream d = .opened ch ∧ Opens sh₁ w₁ r wd ch := by
  induction ts generalizing sh w c with
  | nil => cases h; exact .inl ⟨rfl, by simp⟩
  | cons t ts ih =>
      obtain ⟨sh₁, w₁, c₁, hstep, hrest⟩ := foldl_addToken_cons_ok h
      have hc₁ : c₁.isFailed = false := by
        cases hf : c₁.isFailed
        · rfl
        · simp [foldl_addToken_isFailed hf hrest] at hc'
      rcases ih hrest with ⟨hs, hno⟩ | ⟨pre, wd, k, r, post, sh₂, w₂, c₂, ch, rfl, hr, hd, hpost,
          hpre, hs, hopens⟩
      · cases ht : t.redirects d
        · -- the first token does not redirect `d` either
          refine .inl ⟨hs.trans (addToken_stream_of_ne ht hstep), ?_⟩
          simpa [ht] using hno
        · -- the first token's redirection is the last of `d`
          rcases addToken_eq_ok hstep with ⟨hnone, -⟩ | ⟨wd, k, r, rfl, hr, happ⟩
          · simp [Token.redirects, hnone] at ht
          · have hd : r.isInput = d := by simpa [Token.redirects, Token.redirect?, hr] using ht
            obtain ⟨ch, hch, hopens⟩ := applyRedirect_stream_of_eq hd happ hc₁
            exact .inr ⟨[], wd, k, r, ts, sh, w, c, ch, rfl, hr, hd, hno, rfl, hs.trans hch,
              hopens⟩
      · refine .inr ⟨t :: pre, wd, k, r, post, sh₂, w₂, c₂, ch, rfl, hr, hd, hpost, ?_, hs,
          hopens⟩
        rw [List.foldl_cons, hstep, hpre]

end Run

/-! ## How a target is opened for writing -/

theorem Fs.serialAt_createFile_self (fs : Fs) (p : String) (text : Octets) (mode : Nat) :
    (fs.createFile p text mode).serialAt p = some fs.nextSerial := by
  simp [serialAt, find_createFile]

theorem Fs.contentOf_createFile_of_ne {fs : Fs} {n : Nat} (hn : n ≠ fs.nextSerial) (p : String)
    (text : Octets) (mode : Nat) : (fs.createFile p text mode).contentOf n = fs.contentOf n := by
  unfold createFile contentOf
  simp [newFile, List.lookup_cons, beq_false_of_ne hn]

/-- What opening a path for writing does to the files: the new open file is a regular file
written from its start (at its end when appending) that is empty when the opening empties, and
an opening that does not empty changes no file that was there. -/
theorem World.openPath_writing {w w' : World} {fds : Fds} {cwd path : Octets} {how : Opening}
    {c : Nat} (hw : how.write = true) (h : w.openPath fds cwd path how = .ok (w', c)) :
    ∃ fs ch, (w', c) = ({ w with fs } : World).addChannel ch ∧
      (∀ n o a, ch.endpoint = .file n o a →
        o = 0 ∧ a = how.append ∧ (how.truncate = true → fs.contentOf n = "")) ∧
      (how.truncate = false → ∀ n, n ≠ w.fs.nextSerial → fs.contentOf n = w.fs.contentOf n) := by
  have made : ∀ p mode n, (w.fs.createFile p "" mode).serialAt p = some n →
      ∃ fs ch, ({ w with fs := w.fs.createFile p "" mode } : World).addChannel
          ⟨.file n 0 how.append, how.read, how.write⟩ = ({ w with fs } : World).addChannel ch ∧
        (∀ n' o a, ch.endpoint = .file n' o a →
          o = 0 ∧ a = how.append ∧ (how.truncate = true → fs.contentOf n' = "")) ∧
        (how.truncate = false → ∀ n, n ≠ w.fs.nextSerial → fs.contentOf n = w.fs.contentOf n) := by
    intro p mode n hn
    rw [Fs.serialAt_createFile_self] at hn
    cases hn
    refine ⟨_, _, rfl, ?_, fun _ n hn => Fs.contentOf_createFile_of_ne hn _ _ _⟩
    rintro n' o a ⟨⟩
    simp
  have reopened : ∀ n, ∃ fs ch,
      (if how.truncate = true then { w with fs := w.fs.setContent n "" } else w).addChannel
          ⟨.file n 0 how.append, how.read, how.write⟩ = ({ w with fs } : World).addChannel ch ∧
        (∀ n' o a, ch.endpoint = .file n' o a →
          o = 0 ∧ a = how.append ∧ (how.truncate = true → fs.contentOf n' = "")) ∧
        (how.truncate = false → ∀ n, n ≠ w.fs.nextSerial → fs.contentOf n = w.fs.contentOf n) := by
    intro n
    split
    · next ht =>
        refine ⟨_, _, rfl, ?_, fun hf _ _ => by simp [hf] at ht⟩
        rintro n o a ⟨⟩
        exact ⟨rfl, rfl, fun _ => Fs.contentOf_setContent_self _ _ _⟩
    · next ht =>
        refine ⟨w.fs, _, rfl, ?_, fun _ _ _ => rfl⟩
        rintro n o a ⟨⟩
        exact ⟨rfl, rfl, fun htr => absurd htr ht⟩
  unfold openPath at h
  cases hc : how.create <;> simp only [hc] at h
  all_goals
    split at h
    · cases h
    · -- a free place: a new regular file is made there
      split at h
      · cases h
        exact made _ _ _ (by assumption)
      · cases h
    · -- an existing entry
      split at h
      · cases h
      · split at h
        · cases h
        · split at h
          · -- a directory cannot be opened for writing
            simp at h
          · -- a regular file, emptied when the opening empties
            rw [show (how.truncate && how.write) = how.truncate by rw [hw, Bool.and_true]] at h
            cases h
            exact reopened _
          · -- a program, replaced by a new regular file
            split at h
            · cases h
              exact made _ _ _ (by assumption)
            · cases h
          · -- the open file behind a stream device, opened again from its start
            split at h
            · next ch hch =>
                cases h
                unfold reopen
                split
                · exact reopened _
                · next e' he' =>
                    refine ⟨_, _, rfl, ?_, fun _ _ _ => rfl⟩
                    intro n o a hfile
                    exact absurd hfile (he' n o a)
            · cases h
          · cases h
            exact ⟨_, _, rfl, by simp, fun _ _ _ => rfl⟩
          · cases h

/-- How the target of a `>` or `>>` redirection is opened: the new open file is a regular file
written from its start, at its end for `>>`; `>` empties it, and `>>` changes no file that was
there. -/
theorem Redirect.openPath_target {w w' : World} {fds : Fds} {cwd path : Octets} {r : Redirect}
    {ch : Nat} (hi : r ≠ .input) (hh : r ≠ .heredoc)
    (h : w.openPath fds cwd path r.opening = .ok (w', ch)) :
    ∃ fs chan, (w', ch) = ({ w with fs } : World).addChannel chan ∧
      (∀ n o a, chan.endpoint = .file n o a →
        o = 0 ∧ a = (r == .append) ∧ (r = .output → fs.contentOf n = "")) ∧
      (r = .append → ∀ n, n ≠ w.fs.nextSerial → fs.contentOf n = w.fs.contentOf n) := by
  cases r
  case input => exact absurd rfl hi
  case heredoc => exact absurd rfl hh
  case output =>
    obtain ⟨fs, chan, heq, hfile, -⟩ := World.openPath_writing rfl h
    refine ⟨fs, chan, heq, fun n o a he => ?_, fun hr => by cases hr⟩
    obtain ⟨ho, ha, hempty⟩ := hfile n o a he
    exact ⟨ho, ha, fun _ => hempty rfl⟩
  case append =>
    obtain ⟨fs, chan, heq, hfile, hkeep⟩ := World.openPath_writing rfl h
    refine ⟨fs, chan, heq, fun n o a he => ?_, fun _ => hkeep rfl⟩
    obtain ⟨ho, ha, -⟩ := hfile n o a he
    exact ⟨ho, ha, fun hr => by cases hr⟩

/-- `c` is a command the tokens of `stage` build, from some shell and world. -/
def Builds (stage : List Token) (c : Command) : Prop :=
  ∃ sh w sh' w', stage.foldl addToken (sh, w, .ok {}) = (sh', w', .ok c)

theorem buildStage_eq {sh : Shell} {w : World} {stage : List Token} :
    buildStage sh w stage =
      match stage.foldl addToken (sh, w, .ok {}) with
      | (sh, w, .ok c) => (sh, c.errors.foldl World.report w, .ok c)
      | failure => failure := rfl

@[simp] theorem foldl_buildStep_error (sts : List (List Token)) (sh : Shell) (w : World)
    (e : LineError) : sts.foldl buildStep (sh, w, .error e) = (sh, w, .error e) := by
  induction sts with
  | nil => rfl
  | cons st sts ih => exact ih

/-- Building stage by stage that ends with commands gives one command per stage, in order, each
built by its stage's tokens. -/
theorem foldl_buildStep_eq_ok {sts : List (List Token)} {sh sh' : Shell} {w w' : World}
    {cs₀ cs : List Command} (h : sts.foldl buildStep (sh, w, .ok cs₀) = (sh', w', .ok cs)) :
    ∃ built, cs = cs₀ ++ built ∧ List.Forall₂ Builds sts built := by
  induction sts generalizing sh w cs₀ with
  | nil => cases h; exact ⟨[], by simp, .nil⟩
  | cons st sts ih =>
      rw [List.foldl_cons] at h
      rcases hfold : st.foldl addToken (sh, w, .ok {}) with ⟨sh₁, w₁, e | c⟩
      · have hstep : buildStep (sh, w, .ok cs₀) st = (sh₁, w₁, .error e) := by
          simp [buildStep, buildStage_eq, hfold]
        rw [hstep, foldl_buildStep_error] at h
        cases h
      · have hstep : buildStep (sh, w, .ok cs₀) st =
            (sh₁, c.errors.foldl World.report w₁, .ok (cs₀ ++ [c])) := by
          simp [buildStep, buildStage_eq, hfold]
        rw [hstep] at h
        obtain ⟨built, rfl, hbuilt⟩ := ih h
        exact ⟨c :: built, by simp, .cons ⟨sh, w, sh₁, w₁, hfold⟩ hbuilt⟩

/-! ## The commands of a line -/

/-- Building a line's commands.  Its stages are the tokens between its pipes.  A line with no
parenthesis, at most sixteen here-documents and a place for each of their files gives one
command per stage, in order, built by that stage's tokens, having captured every here-document
in the order they stand.  A stage's command has as arguments the fields of its plain words, in
order, its name first, and carries one message exactly when it failed.  Once a redirection of
it has failed, the rest of the stage only reads here-documents and adds arguments: the world
becomes what capturing those here-documents makes of it.  A command that did not fail reads,
and writes, what the last redirection of that direction opened, or its inherited stream when
there is none.  A `>` target is opened emptied and a `>>` target for appending with every file
kept.  Building fails for parentheses, too many here-documents or a failed here-document
capture (a file that cannot be made or opened again, a body that cannot be written, an
interrupted reader), and for nothing else. -/
theorem commands_of_stages :
    (∀ ts : List Token, stages ts = ts.splitOnP (fun t => t.operator? == some .pipe)) ∧
    (∀ (sh : Shell) (w : World) (ts : List Token) (dir : String),
      ts.any isParen = false → (ts.filter isHeredocOperator).length ≤ heredocLimit →
      Ready sh w dir (heredocLimiters ts).length →
      ∃ w' cs, buildCommands sh w ts = (sh.withHeredocs (heredocLimiters ts).length, w', .ok cs) ∧
        w.Captured ((heredocLimiters ts).map Word.text) w' ∧ List.Forall₂ Builds (stages ts) cs) ∧
    (∀ (ts : List Token) (sh sh' : Shell) (w w' : World) (c : Command),
      ts.foldl addToken (sh, w, .ok {}) = (sh', w', .ok c) →
      c.args = ts.flatMap Token.argFields ∧ c.name? = (ts.flatMap Token.argFields).head? ∧
        c.OneError) ∧
    (∀ (ts : List Token) (sh : Shell) (w : World) (c : Command), c.isFailed = true →
      ts.foldl addToken (sh, w, .ok c) =
        match captureAll sh w (heredocLimiters ts) with
        | (sh', w', r) =>
            (sh', w', r.map fun _ => { c with args := c.args ++ ts.flatMap Token.argFields })) ∧
    (∀ (d : Bool) (ts : List Token) (sh sh' : Shell) (w w' : World) (c : Command),
      ts.foldl addToken (sh, w, .ok {}) = (sh', w', .ok c) → c.isFailed = false →
      (c.stream d = .inherit ∧ ∀ t ∈ ts, t.redirects d = false) ∨
      ∃ pre wd k r post sh₁ w₁ c₁ ch, ts = pre ++ .word wd k :: post ∧ wd.redirect = some r ∧
        r.isInput = d ∧ (∀ t ∈ post, t.redirects d = false) ∧
        pre.foldl addToken (sh, w, .ok {}) = (sh₁, w₁, .ok c₁) ∧
        c.stream d = .opened ch ∧ Opens sh₁ w₁ r wd ch) ∧
    (∀ (w w' : World) (fds : Fds) (cwd path : Octets) (r : Redirect) (ch : Nat),
      r ≠ .input → r ≠ .heredoc → w.openPath fds cwd path r.opening = .ok (w', ch) →
      ∃ fs chan, (w', ch) = ({ w with fs } : World).addChannel chan ∧
        (∀ n o a, chan.endpoint = .file n o a →
          o = 0 ∧ a = (r == .append) ∧ (r = .output → fs.contentOf n = "")) ∧
        (r = .append → ∀ n, n ≠ w.fs.nextSerial → fs.contentOf n = w.fs.contentOf n)) ∧
    (∀ (sh sh' : Shell) (w w' : World) (ts : List Token) (e : LineError),
      buildCommands sh w ts = (sh', w', .error e) →
      e = .subshell ∨ e = .tooManyHeredocs ∨ e.FromCapture) := by
  refine ⟨stages_eq_splitOnP, ?_, ?_, fun ts sh w c hc => foldl_addToken_of_failed hc ts sh w,
    ?_, fun w w' fds cwd path r ch hi hh h => Redirect.openPath_target hi hh h,
    fun sh sh' w w' ts e h => (buildCommands_builds sh w ts).2 e (by rw [h])⟩
  · -- each stage, built from what the stages before it left, gives its command
    intro sh w ts dir hparen hlimit hready
    obtain ⟨w', cs, hbuild, hcap⟩ := buildCommands_of_ready sh w ts hparen hlimit hready
    refine ⟨w', cs, hbuild, hcap, ?_⟩
    rw [buildCommands_eq_foldl hparen hlimit] at hbuild
    obtain ⟨built, rfl, hbuilt⟩ := foldl_buildStep_eq_ok hbuild
    simpa using hbuilt
  · intro ts sh sh' w w' c h
    have hargs : c.args = ts.flatMap Token.argFields := by
      simpa using foldl_addToken_args h
    exact ⟨hargs, by rw [Command.name?, hargs], foldl_addToken_oneError Command.oneError_empty h⟩
  · -- a command starts with both streams inherited
    intro d ts sh sh' w w' c h hc
    have hstart : ({} : Command).stream d = .inherit := by cases d <;> rfl
    rcases foldl_addToken_stream d h hc with ⟨hs, hno⟩ | hlast
    · exact .inl ⟨hs.trans hstart, hno⟩
    · exact .inr hlast

/-- Where a directory already has the name of the first here-document file, building the
commands of `cat << E` fails: the line is abandoned instead of giving its one command. -/
theorem heredoc_file_abandons_line :
    let fs : Fs := { entries := [("/", ⟨.directory, 0o755⟩), ("/.heredoc_0", ⟨.directory, 0o755⟩)] }
    let w := World.boot fs "hi\nE\n"
    let sh : Shell :=
      { env := {}, cwd := "/", history := { capacity := 0 }, historyPath := none, pid := 1 }
    let cat : Word := { segments := [⟨.bare, "cat"⟩], raw := "cat", text := "cat", fields := ["cat"] }
    let limiter : Word :=
      { segments := [⟨.bare, "E"⟩], raw := "E", text := "E", fields := ["E"],
        redirect := some .heredoc }
    buildCommands sh w [.word cat 0, .op (.redirect .heredoc) 4, .word limiter 7] =
      (sh.withHeredocs 1, w, .error (.heredocFile .isDirectory)) := by
  intro fs w sh cat limiter
  have hroot : fs.find "/" = some ⟨.directory, 0o755⟩ := by decide
  have hdir : fs.find (Path.child "/" ".heredoc_0") = some ⟨.directory, 0o755⟩ := by
    rw [Path.child_root_first_heredoc]
    decide
  have hcwd : sh.physicalCwd w.fs = "/" := Shell.physicalCwd_of_resolve (Fs.resolve_root hroot)
  have hcap : captureHeredoc sh w limiter = (sh.withHeredocs 1, w, .error (.heredocFile .isDirectory)) := by
    refine captureHeredoc_of_directory limiter ?_ hdir
    rw [hcwd]
    exact Fs.locate_of_place_unlinked (Fs.place_first_heredoc hroot) hdir rfl
  have hstages : stages [.word cat 0, .op (.redirect .heredoc) 4, .word limiter 7] =
      [[.word cat 0, .op (.redirect .heredoc) 4, .word limiter 7]] := rfl
  have hcat : cat.redirect = none := rfl
  have hlimiter : limiter.redirect = some .heredoc := rfl
  rw [buildCommands_eq_foldl (by decide) (by decide), hstages]
  simp [buildStep, buildStage_eq, addToken, applyRedirect, hcat, hlimiter, hcap]

end Conch
