import Conch.Proofs.Reading

/-!
# How far the grammar check looks ahead

The check reads a line from left to right.  Where it stops or fails it has looked at no more
of what follows than one character, or two where the first is a bar (`afterBar` tells a
single bar from a doubled one).  This module states that as a law of each function of the
check, and the facts it rests on.

Each function stops or fails within its input; a failure at a character the line does not
allow is at no blank, and a quotation left open runs to the end of the input with no second
quote of its kind (`Within`, `pipeline_within`, ...).

Run a function on `u ++ r` and on `u ++ r'`.  Where the first run stops or fails in `u` or at
`r`, at `p ++ r`, the second stops or fails at `p ++ r'`, as long as the two rests there
start alike (`Follows`, `pipeline_follows`, ...).  A stop at `r` carries over to any rest that
closes, the end of the line or a closing parenthesis, since every phrase that may stop there
stops there (`Fits`).
-/

set_option autoImplicit false

namespace Conch.Syntax

/-! ## Where a run ends -/

/-- The rest at which the check failed. -/
def Stop.rest : Stop → List Char
  | .unexpected r => r
  | .unclosed _ r => r

/-- Where a run from `v` stopped or failed lies within `v`: a failure at an unexpected
character is at no blank, and a quotation left open runs to the end of `v` with no second
quote of its kind. -/
def Within (v : List Char) : Except Stop (List Char) → Prop
  | .ok r => r <:+ v
  | .error (.unexpected r) => r <:+ v ∧ ∀ c ∈ r.head?, isBlank c = false
  | .error (.unclosed q r) => r <:+ v ∧ ∃ body, r = q :: body ∧ q ∉ body

namespace Within

variable {v w : List Char} {x : Except Stop (List Char)}

theorem mono (h : Within w x) (hw : w <:+ v) : Within v x := by
  rcases x with (r | ⟨q, r⟩) | r
  · exact ⟨h.1.trans hw, h.2⟩
  · exact ⟨h.1.trans hw, h.2⟩
  · exact List.IsSuffix.trans h hw

theorem suffix_of_ok (h : Within v x) (hx : x = .ok w) : w <:+ v := by
  subst hx
  exact h

/-- A run that goes on from where a first run stopped ends within the input of the first. -/
theorem bind {g : List Char → Except Stop (List Char)} (hx : Within v x)
    (hg : ∀ w, x = .ok w → Within w (g w)) : Within v (x >>= g) := by
  rcases x with e | w
  · exact hx
  · exact (hg w rfl).mono hx

end Within

theorem skipBlanks_suffix (cs : List Char) : (skipBlanks cs).1 <:+ cs :=
  List.dropWhile_suffix _

theorem skipBare_suffix (cs : List Char) : (skipBare cs).1 <:+ cs :=
  List.dropWhile_suffix _

theorem head_skipBlanks (cs : List Char) : ∀ c ∈ (skipBlanks cs).1.head?, isBlank c = false := by
  intro c hc
  have h := List.head?_dropWhile_not isBlank cs
  simp only [skipBlanks] at hc
  rw [Option.mem_def] at hc
  rw [hc] at h
  exact h

/-- A quotation that closes leaves less than the text after its opening quote. -/
theorem closeQuotation_ok_suffix {q : Char} {rest w : List Char}
    (h : (closeQuotation q rest).map Subtype.val = .ok w) : w <:+ rest := by
  rcases hd : rest.dropWhile (· != q) with _ | ⟨d, after⟩
  · rw [closeQuotation_of_nil hd] at h
    cases h
  · rw [closeQuotation_of_cons hd] at h
    cases h
    exact (List.suffix_cons d w).trans (hd ▸ List.dropWhile_suffix _)

theorem closeQuotation_within (q : Char) (rest : List Char) :
    Within (q :: rest) ((closeQuotation q rest).map Subtype.val) := by
  rcases h : rest.dropWhile (· != q) with _ | ⟨d, after⟩
  · rw [closeQuotation_of_nil h]
    refine ⟨List.suffix_refl _, rest, rfl, fun hq => ?_⟩
    have := List.dropWhile_eq_nil_iff.1 h q hq
    simp at this
  · have hok := closeQuotation_of_cons h
    rw [hok]
    exact (closeQuotation_ok_suffix hok).trans (List.suffix_cons q rest)

theorem pieces_within (cs : List Char) : Within cs ((pieces cs).map Subtype.val) := by
  rcases cs with _ | ⟨c, rest⟩
  · rw [pieces_nil]
    exact List.suffix_refl _
  rw [pieces_cons]
  by_cases hq : isQuote c
  · rw [if_pos hq]
    exact (closeQuotation_within c rest).bind fun w hw => pieces_within w
  · rw [if_neg hq]
    by_cases hb : (!isSpecial c) = true
    · rw [if_pos hb]
      exact (pieces_within (skipBare rest).1).mono
        ((skipBare_suffix rest).trans (List.suffix_cons c rest))
    · rw [if_neg hb]
      exact List.suffix_refl _
termination_by cs.length
decreasing_by
  · have := (closeQuotation_ok_suffix hw).length_le
    simp only [List.length_cons]
    omega
  · simp only [List.length_cons]
    exact Nat.lt_succ_of_le (skipBare rest).2

theorem length_lt_of_shorter {cs r : List Char} {x : Except Stop (Shorter cs)}
    (h : x.map Subtype.val = .ok r) : r.length < cs.length := by
  rcases x with e | ⟨r', h'⟩
  · cases h
  · cases h
    exact h'

theorem length_le_of_rest {cs r : List Char} {x : Except Stop (Rest cs)}
    (h : x.map Subtype.val = .ok r) : r.length ≤ cs.length := by
  rcases x with e | ⟨r', h'⟩
  · cases h
  · cases h
    exact h'

theorem skipRedirectOperator_suffix (cs : List Char) : (skipRedirectOperator cs).1 <:+ cs := by
  unfold skipRedirectOperator
  split
  · exact (List.suffix_cons _ _).trans (List.suffix_cons _ _)
  · exact (List.suffix_cons _ _).trans (List.suffix_cons _ _)
  · exact List.suffix_cons _ _
  · exact List.suffix_refl _

/-- A word read where no blank stands. -/
theorem word_within {cs : List Char} (hb : ∀ c ∈ cs.head?, isBlank c = false) :
    Within cs ((word cs).map Subtype.val) := by
  rcases cs with _ | ⟨c, rest⟩
  · rw [word_nil]
    exact ⟨List.suffix_refl _, by simp⟩
  · rw [word_cons]
    split
    · exact pieces_within _
    · exact ⟨List.suffix_refl _, hb⟩

theorem redirection_within (cs : List Char) : Within cs ((redirection cs).map Subtype.val) := by
  rw [redirection_val]
  exact (word_within (head_skipBlanks _)).mono
    ((skipBlanks_suffix _).trans (skipRedirectOperator_suffix cs))

theorem simpleItems_within (seen : Nat) (cs : List Char) :
    Within cs ((simpleItems seen cs).map Subtype.val) := by
  have hs := skipBlanks_suffix cs
  have hb := head_skipBlanks cs
  rw [simpleItems_val]
  rcases hsk : (skipBlanks cs).1 with _ | ⟨c, r⟩
  · dsimp only
    split
    · exact ⟨List.nil_suffix, by simp⟩
    · exact List.nil_suffix
  · rw [hsk] at hs hb
    dsimp only
    split
    · exact ((redirection_within (c :: r)).bind fun r₁ h₁ =>
        simpleItems_within (seen + 1) r₁).mono hs
    · split
      · exact ((word_within hb).bind fun r₁ h₁ => simpleItems_within (seen + 1) r₁).mono hs
      · split
        · exact ⟨hs, hb⟩
        · exact hs
termination_by cs.length
decreasing_by
  all_goals
    have h1 := length_lt_of_shorter h₁
    have h2 := (skipBlanks_suffix cs).length_le
    rw [hsk] at h2
    simp only [List.length_cons] at h1 h2
    omega

theorem groupRedirections_within (cs : List Char) :
    Within cs ((groupRedirections cs).map Subtype.val) := by
  have hs := skipBlanks_suffix cs
  rw [groupRedirections_val]
  split
  · exact ((redirection_within _).bind fun r₁ h₁ => groupRedirections_within r₁).mono hs
  · exact hs
termination_by cs.length
decreasing_by
  have := length_lt_of_shorter h₁
  have := hs.length_le
  omega

theorem eq_of_afterBar {s a : List Char} (h : afterBar s = some a) : s = '|' :: a := by
  unfold afterBar at h
  split at h <;> simp_all

/-- A closing parenthesis and the redirections after it. -/
def closeGroup (v : List Char) : Except Stop (List Char) :=
  match afterChar ')' v with
  | some after => (groupRedirections after).map Subtype.val
  | none => .error (.unexpected v)

/-- The end of a parenthesised pipeline: blanks, its closing parenthesis and the redirections
after it. -/
def groupEnd (r : List Char) : Except Stop (List Char) := closeGroup (skipBlanks r).1

theorem closeGroup_within {v : List Char} (hb : ∀ c ∈ v.head?, isBlank c = false) :
    Within v (closeGroup v) := by
  unfold closeGroup
  rcases hc : afterChar ')' v with _ | after
  · exact ⟨List.suffix_refl v, hb⟩
  · exact (groupRedirections_within after).mono
      (afterChar_eq_some_iff.1 hc ▸ List.suffix_cons ')' after)

theorem groupEnd_within (r : List Char) : Within r (groupEnd r) :=
  (closeGroup_within (head_skipBlanks r)).mono (skipBlanks_suffix r)

mutual

theorem pipeline_within (cs : List Char) : Within cs ((pipeline cs).map Subtype.val) := by
  rw [pipeline_val]
  exact (command_within cs).bind fun r hr => pipelineTail_within r
termination_by (cs.length, 2)
decreasing_by
  · exact Prod.Lex.right _ (by omega)
  · rcases Nat.lt_or_eq_of_le (length_le_of_rest hr) with hlt | heq
    · exact Prod.Lex.left _ _ hlt
    · rw [heq]
      exact Prod.Lex.right _ (by omega)

theorem pipelineTail_within (cs : List Char) :
    Within cs ((pipelineTail cs).map Subtype.val) := by
  rw [pipelineTail_val]
  rcases hb : afterBar (skipBlanks cs).1 with _ | after
  · exact skipBlanks_suffix cs
  · have ha : after <:+ cs :=
      (List.suffix_cons '|' after).trans (eq_of_afterBar hb ▸ skipBlanks_suffix cs)
    exact ((command_within after).bind fun r hr => pipelineTail_within r).mono ha
termination_by (cs.length, 0)
decreasing_by
  all_goals
    have hlt := Nat.lt_of_lt_of_le (length_of_afterBar hb) (skipBlanks cs).2
  · exact Prod.Lex.left _ _ hlt
  · exact Prod.Lex.left _ _ (Nat.lt_of_le_of_lt (length_le_of_rest hr) hlt)

theorem command_within (cs : List Char) : Within cs ((command cs).map Subtype.val) := by
  rw [command_val]
  rcases ho : afterChar '(' (skipBlanks cs).1 with _ | inner
  · exact (simpleItems_within 0 _).mono (skipBlanks_suffix cs)
  · have hi : inner <:+ cs :=
      (List.suffix_cons '(' inner).trans (afterChar_eq_some_iff.1 ho ▸ skipBlanks_suffix cs)
    exact ((pipeline_within inner).bind fun r _ => groupEnd_within r).mono hi
termination_by (cs.length, 1)
decreasing_by
  exact Prod.Lex.left _ _ (Nat.lt_of_lt_of_le (length_of_afterChar ho) (skipBlanks cs).2)

end

/-! ## Replacing what follows -/

/-- A rest at which every phrase that may stop stops: the end of the line, or a closing
parenthesis. -/
def Closes (r : List Char) : Prop := r = [] ∨ r.head? = some ')'

/-- `b` starts as `a` does. -/
def SameHead (a b : List Char) : Prop := a.head? = b.head?

/-- `b` may stand for `a` where a run stopped at `a`: it closes, or starts as `a` does. -/
def Fits (a b : List Char) : Prop := Closes b ∨ SameHead a b

/-- `b` may stand for `a` where a pipeline stopped at `a`: it fits, and a bar doubled at `a`
is doubled at `b`. -/
def FitsBar (a b : List Char) : Prop := Fits a b ∧ (afterBar a = none → afterBar b = none)

/-- `b` may stand for `a` where a run failed at `a`: it starts as `a` does, and a bar doubled
at `a` is doubled at `b`. -/
def Alike (a b : List Char) : Prop := SameHead a b ∧ (afterBar a = none → afterBar b = none)

theorem SameHead.append {p : List Char} (hp : p ≠ []) (a b : List Char) :
    SameHead (p ++ a) (p ++ b) := by
  rcases p with _ | ⟨c, p⟩
  · exact absurd rfl hp
  · rfl

theorem Alike.fitsBar {a b : List Char} (h : Alike a b) : FitsBar a b := ⟨.inr h.1, h.2⟩

/-- How a run from `u ++ r'` follows a run `x` from `u ++ r`: where `x` stops, or fails at a
character, at `p ++ r`, the run from `u ++ r'` stops or fails at `p ++ r'`, provided the rests
there are related by `R` for a stop and by `S` for a failure. -/
def Follows (R S : List Char → List Char → Prop) (r r' : List Char) :
    Except Stop (List Char) → Except Stop (List Char) → Prop
  | .ok w, y => ∀ p, w = p ++ r → R (p ++ r) (p ++ r') → y = .ok (p ++ r')
  | .error (.unexpected w), y => ∀ p, w = p ++ r →
      S (p ++ r) (p ++ r') → y = .error (.unexpected (p ++ r'))
  | .error (.unclosed _ _), _ => True

section Follows

variable {R S S₁ : List Char → List Char → Prop} {r r' : List Char}

theorem eq_nil_of_suffix {p w : List Char} (h : w <:+ r) (hw : w = p ++ r) : p = [] := by
  have := h.length_le
  rw [hw, List.length_append] at this
  exact List.length_eq_zero_iff.1 (by omega)

/-- A run that stops and fails only before `r` says nothing about the rest that replaces
`r`. -/
theorem Follows.of_short {x y : Except Stop (List Char)}
    (hx : ∀ v, x = .ok v ∨ x = .error (.unexpected v) → v.length < r.length) :
    Follows R S r r' x y := by
  have hlen : ∀ p v, v.length < r.length → v ≠ p ++ r := by
    intro p v hv heq
    rw [heq, List.length_append] at hv
    omega
  rcases x with (v | ⟨q, v⟩) | v
  · exact fun p hv => absurd hv (hlen p v (hx v (.inr rfl)))
  · trivial
  · exact fun p hv => absurd hv (hlen p v (hx v (.inl rfl)))

/-- A run that ends before `r` says nothing about the rest that replaces `r`. -/
theorem Follows.of_shorter {w : List Char} {x y : Except Stop (List Char)} (hx : Within w x)
    (hw : w.length < r.length) : Follows R S r r' x y := by
  refine Follows.of_short fun v hv => ?_
  rcases hv with rfl | rfl
  · exact Nat.lt_of_le_of_lt hx.length_le hw
  · exact Nat.lt_of_le_of_lt hx.1.length_le hw

/-- A run that goes on from where a first run stopped follows as the two runs do.  The stop
of the first run at `p ++ r` has to be related by `R₁` wherever the whole stops or fails at a
rest related by `R` or `S`. -/
theorem Follows.bind_of {R₁ : List Char → List Char → Prop} {u : List Char}
    {x y : Except Stop (List Char)} {g : List Char → Except Stop (List Char)}
    (hx : Follows R₁ S₁ r r' x y) (hxw : ∀ w, x = .ok w → w <:+ u ++ r)
    (hg : ∀ p, x = .ok (p ++ r) → Follows R S r r' (g (p ++ r)) (g (p ++ r')))
    (hgw : ∀ w, x = .ok w → Within w (g w))
    (hR : ∀ p pf, x = .ok (p ++ r) → g (p ++ r) = .ok (pf ++ r) → R (pf ++ r) (pf ++ r') →
      R₁ (p ++ r) (p ++ r'))
    (hS : ∀ p pf, x = .ok (p ++ r) → g (p ++ r) = .error (.unexpected (pf ++ r)) →
      S (pf ++ r) (pf ++ r') → R₁ (p ++ r) (p ++ r'))
    (hS₁ : ∀ a b, S a b → S₁ a b) :
    Follows R S r r' (x >>= g) (y >>= g) := by
  rcases x with (w | ⟨q, w⟩) | w
  · -- the first run failed, and so did the whole
    intro p hw hSp
    show (y >>= g) = _
    rw [hx p hw (hS₁ _ _ hSp)]
    rfl
  · trivial
  · show Follows R S r r' (g w) (y >>= g)
    by_cases hrw : r <:+ w
    · obtain ⟨p, rfl⟩ := hrw
      have hy : R₁ (p ++ r) (p ++ r') → y >>= g = g (p ++ r') := fun h => by
        rw [hx p rfl h]
        rfl
      have hgf := hg p rfl
      rcases hz : g (p ++ r) with (v | ⟨q, v⟩) | v <;> rw [hz] at hgf
      · intro pf hv hSf
        rw [hy (hS p pf rfl (hv ▸ hz) hSf)]
        exact hgf pf hv hSf
      · trivial
      · intro pf hv hRf
        rw [hy (hR p pf rfl (hv ▸ hz) hRf)]
        exact hgf pf hv hRf
    · -- the first run stopped inside `r`, and the rest of the run stays there
      have hwr : w <:+ r := by
        rcases List.suffix_or_suffix_of_suffix (hxw w rfl) (List.suffix_append u r) with h | h
        · exact h
        · exact absurd h hrw
      have hlt : w.length < r.length := by
        rcases Nat.lt_or_eq_of_le hwr.length_le with h | h
        · exact h
        · rw [hwr.eq_of_length h] at hrw
          exact absurd (List.suffix_refl r) hrw
      exact Follows.of_shorter (hgw w rfl) hlt

/-- Where a run stops before `r` the rests there start alike; where it stops at `r` they are
related as the rests where a later run stops. -/
theorem fits_of_suffix {p pf : List Char} (hv : pf ++ r <:+ p ++ r)
    (hf : Fits (pf ++ r) (pf ++ r')) : Fits (p ++ r) (p ++ r') := by
  rcases p with _ | ⟨c, p⟩
  · rw [List.nil_append] at hv
    rw [eq_nil_of_suffix hv rfl] at hf
    exact hf
  · exact .inr (SameHead.append (List.cons_ne_nil c p) r r')

/-- `Follows.bind_of` for a first run whose stops need only fit. -/
theorem Follows.bind {u : List Char} {x y : Except Stop (List Char)}
    {g : List Char → Except Stop (List Char)}
    (hx : Follows Fits S₁ r r' x y) (hxw : ∀ w, x = .ok w → w <:+ u ++ r)
    (hg : ∀ p, x = .ok (p ++ r) → Follows R S r r' (g (p ++ r)) (g (p ++ r')))
    (hgw : ∀ w, x = .ok w → Within w (g w))
    (hR : ∀ a b, R a b → Fits a b) (hS : ∀ a b, S a b → Fits a b ∧ S₁ a b) :
    Follows R S r r' (x >>= g) (y >>= g) := by
  refine hx.bind_of hxw hg hgw (fun p pf hp hz hRf => ?_) (fun p pf hp hz hSf => ?_)
    (fun a b h => (hS a b h).2)
  · have hw := hgw _ hp
    rw [hz] at hw
    exact fits_of_suffix hw (hR _ _ hRf)
  · have hw := hgw _ hp
    rw [hz] at hw
    exact fits_of_suffix hw.1 (hS _ _ hSf).1

/-- `Follows.bind` after a step that always stops. -/
theorem Follows.step {u a b : List Char} {g : List Char → Except Stop (List Char)}
    (hx : Follows Fits S r r' (.ok a) (.ok b)) (ha : a <:+ u ++ r)
    (hg : ∀ p, a = p ++ r → Follows R S r r' (g (p ++ r)) (g (p ++ r')))
    (hgw : Within a (g a)) (hR : ∀ a b, R a b → Fits a b) (hS : ∀ a b, S a b → Fits a b) :
    Follows R S r r' (g a) (g b) :=
  Follows.bind (x := .ok a) hx (fun _ hw => by cases hw; exact ha)
    (fun p hp => hg p (by cases hp; rfl)) (fun _ hw => by cases hw; exact hgw) hR
    (fun a b h => ⟨hS a b h, h⟩)

/-- A run from `r` itself follows where it stops or fails at `r` at once. -/
theorem Follows.at_start {x y : Except Stop (List Char)} (hx : Within r x)
    (hok : x = .ok r → R r r' → y = .ok r')
    (herr : x = .error (.unexpected r) → S r r' → y = .error (.unexpected r')) :
    Follows R S r r' x y := by
  rcases x with (w | ⟨q, w⟩) | w
  · intro p hw hSp
    obtain rfl := eq_nil_of_suffix hx.1 hw
    rw [List.nil_append] at hw hSp ⊢
    exact herr (hw ▸ rfl) hSp
  · trivial
  · intro p hw hRp
    obtain rfl := eq_nil_of_suffix hx hw
    rw [List.nil_append] at hw hRp ⊢
    exact hok (hw ▸ rfl) hRp

/-- A run from `r` that stops or fails only at `r` itself follows from a run from `r'` that
agrees with the second where the rests fit. -/
theorem Follows.of_within_rest {x y y' : Except Stop (List Char)} (hx : Within r x)
    (hxy : Follows R S r r' x y') (hy : Fits r r' → y = y')
    (hR : ∀ a b, R a b → Fits a b) (hS : ∀ a b, S a b → Fits a b) : Follows R S r r' x y := by
  rcases x with (w | ⟨q, w⟩) | w
  · intro p hw hSp
    obtain rfl := eq_nil_of_suffix hx.1 hw
    rw [List.nil_append] at hSp
    rw [hy (hS _ _ hSp)]
    exact hxy [] hw (by rw [List.nil_append]; exact hSp)
  · trivial
  · intro p hw hRp
    obtain rfl := eq_nil_of_suffix hx hw
    rw [List.nil_append] at hRp
    rw [hy (hR _ _ hRp)]
    exact hxy [] hw (by rw [List.nil_append]; exact hRp)

theorem Follows.mono {R' S' : List Char → List Char → Prop} {x y : Except Stop (List Char)}
    (h : Follows R S r r' x y) (hR : ∀ a b, R' a b → R a b) (hS : ∀ a b, S' a b → S a b) :
    Follows R' S' r r' x y := by
  rcases x with (w | ⟨q, w⟩) | w
  · exact fun p hw hSp => h p hw (hS _ _ hSp)
  · trivial
  · exact fun p hw hRp => h p hw (hR _ _ hRp)

theorem Follows.ok_append (p : List Char) :
    Follows R S r r' (.ok (p ++ r)) (.ok (p ++ r')) := by
  intro pf hw _
  rw [List.append_cancel_right hw]

theorem Follows.error_append (p : List Char) :
    Follows R S r r' (.error (.unexpected (p ++ r))) (.error (.unexpected (p ++ r'))) := by
  intro pf hw _
  rw [List.append_cancel_right hw]

theorem Follows.ok_at {x y : Except Stop (List Char)} {m : List Char}
    (h : Follows R S r r' x y) (hx : x = .ok (m ++ r)) (hR : R (m ++ r) (m ++ r')) :
    y = .ok (m ++ r') := by
  subst hx
  exact h m rfl hR

theorem Follows.error_at {x y : Except Stop (List Char)} {m : List Char}
    (h : Follows R S r r' x y) (hx : x = .error (.unexpected (m ++ r)))
    (hS : S (m ++ r) (m ++ r')) : y = .error (.unexpected (m ++ r')) := by
  subst hx
  exact h m rfl hS

end Follows

/-! ## Single steps -/

theorem dropWhile_eq_self {P : Char → Bool} {l : List Char} (h : ∀ c ∈ l.head?, P c = false) :
    l.dropWhile P = l := by
  rcases l with _ | ⟨c, l⟩
  · rfl
  · exact List.dropWhile_cons_of_neg (by simp [h c rfl])

theorem head_of_dropWhile_eq_self {P : Char → Bool} {l : List Char} (h : l.dropWhile P = l) :
    ∀ c ∈ l.head?, P c = false := by
  intro c hc
  have := List.head?_dropWhile_not P l
  rw [h, Option.mem_def.1 hc] at this
  exact this

theorem skipBlanks_of_head {l : List Char} (h : ∀ c ∈ l.head?, isBlank c = false) :
    (skipBlanks l).1 = l :=
  dropWhile_eq_self h

theorem skipBlanks_skipBlanks (cs : List Char) :
    (skipBlanks (skipBlanks cs).1).1 = (skipBlanks cs).1 :=
  skipBlanks_of_head (head_skipBlanks cs)

theorem head_of_closes {t : List Char} (ht : Closes t) : ∀ c ∈ t.head?, c = ')' := by
  intro c hc
  rcases ht with rfl | ht
  · cases hc
  · rw [Option.mem_def, ht] at hc
    exact (Option.some.inj hc).symm

/-- A decision taken on the head of a rest where a run stopped is taken alike on a rest that
fits, if it is taken so on a closing parenthesis. -/
theorem Fits.head_false {P : Char → Bool} {a b : List Char} (h : Fits a b) (hP : P ')' = false)
    (ha : ∀ c ∈ a.head?, P c = false) : ∀ c ∈ b.head?, P c = false := by
  intro c hc
  rcases h with hcl | hsame
  · rw [head_of_closes hcl c hc]
    exact hP
  · exact ha c (by rw [hsame]; exact hc)

/-- A scan that stops at a character refused by `P` stops at the same place when the rest is
replaced by one related by `R`, as long as `R` keeps a head that `P` refuses. -/
theorem dropWhile_follows {P : Char → Bool} {R : List Char → List Char → Prop}
    (hR : ∀ a b, R a b → (∀ c ∈ a.head?, P c = false) → ∀ c ∈ b.head?, P c = false)
    (u : List Char) {S : List Char → List Char → Prop} {r r' : List Char} :
    Follows R S r r' (.ok ((u ++ r).dropWhile P)) (.ok ((u ++ r').dropWhile P)) := by
  intro p hw hrel
  rw [List.dropWhile_append] at hw ⊢
  by_cases hu : (u.dropWhile P).isEmpty
  · rw [if_pos hu] at hw ⊢
    obtain rfl := eq_nil_of_suffix (List.dropWhile_suffix P) hw
    simp only [List.nil_append] at hw hrel ⊢
    -- the scan stopped at `r`, so `r` starts with a character `P` refuses, as `r'` does
    rw [dropWhile_eq_self (hR _ _ hrel (head_of_dropWhile_eq_self hw))]
  · rw [if_neg hu] at hw ⊢
    rw [List.append_cancel_right hw]

theorem skipBlanks_follows (u : List Char) {S : List Char → List Char → Prop} {r r' : List Char} :
    Follows Fits S r r' (.ok (skipBlanks (u ++ r)).1) (.ok (skipBlanks (u ++ r')).1) :=
  dropWhile_follows (fun _ _ h ha => h.head_false rfl ha) u

/-- Blanks stop alike at any rest with no blank at its head. -/
theorem skipBlanks_follows_head (u : List Char) {S : List Char → List Char → Prop}
    {r r' : List Char} :
    Follows (fun _ b => ∀ c ∈ b.head?, isBlank c = false) S r r' (.ok (skipBlanks (u ++ r)).1)
      (.ok (skipBlanks (u ++ r')).1) :=
  dropWhile_follows (fun _ _ h _ => h) u

theorem skipBare_follows (u : List Char) {S : List Char → List Char → Prop} {r r' : List Char} :
    Follows Fits S r r' (.ok (skipBare (u ++ r)).1) (.ok (skipBare (u ++ r')).1) :=
  dropWhile_follows (fun _ _ h ha => h.head_false rfl ha) u

/-- A quotation that closes before `r` closes at the same place whatever follows. -/
theorem closeQuotation_follows (q : Char) (u : List Char) {S : List Char → List Char → Prop}
    {r r' : List Char} :
    Follows Fits S r r' ((closeQuotation q (u ++ r)).map Subtype.val)
      ((closeQuotation q (u ++ r')).map Subtype.val) := by
  rcases hd : u.dropWhile (· != q) with _ | ⟨d, after⟩
  · -- the quotation runs past `u`: it closes inside `r` or never
    have hin : (u ++ r).dropWhile (· != q) = r.dropWhile (· != q) := by
      rw [List.dropWhile_append, hd]
      rfl
    rcases hr : r.dropWhile (· != q) with _ | ⟨e, after'⟩
    · rw [closeQuotation_of_nil (hin.trans hr)]
      trivial
    · rw [closeQuotation_of_cons (hin.trans hr)]
      intro p hp
      have := (hr ▸ List.dropWhile_suffix (· != q) : e :: after' <:+ r).length_le
      rw [hp, List.length_cons, List.length_append] at this
      omega
  · have hin : ∀ t, (u ++ t).dropWhile (· != q) = d :: (after ++ t) := by
      intro t
      rw [List.dropWhile_append, hd]
      rfl
    rw [closeQuotation_of_cons (hin r), closeQuotation_of_cons (hin r')]
    intro p hp _
    rw [List.append_cancel_right hp]

theorem skipRedirectOperator_cons_cons (c d : Char) (l : List Char) :
    (skipRedirectOperator (c :: d :: l)).1 =
      if (c = '<' ∨ c = '>') ∧ d = c then l else d :: l := by
  by_cases hc : c = '<'
  · subst hc
    by_cases hd : d = '<'
    · subst hd
      rfl
    · simp [skipRedirectOperator, hd]
  · by_cases hc' : c = '>'
    · subst hc'
      by_cases hd : d = '>'
      · subst hd
        rfl
      · simp [skipRedirectOperator, hd]
    · simp [skipRedirectOperator, hc, hc']

theorem skipRedirectOperator_cons (c : Char) (l : List Char) :
    (skipRedirectOperator (c :: l)).1 =
      if (c = '<' ∨ c = '>') ∧ l.head? = some c then l.tail else l := by
  rcases l with _ | ⟨d, l⟩
  · unfold skipRedirectOperator
    split <;> simp_all
  · simp [skipRedirectOperator_cons_cons]

/-- A redirection operator ends alike before a rest related by `R`, as long as an operator
character at the head of the new rest stands at the head of the old one. -/
theorem skipRedirectOperator_follows {R : List Char → List Char → Prop}
    (hR : ∀ a b, R a b → ∀ d ∈ b.head?, (d = '<' ∨ d = '>') → a.head? = some d)
    {u : List Char} (hu : u ≠ []) {S : List Char → List Char → Prop} {r r' : List Char} :
    Follows R S r r' (.ok (skipRedirectOperator (u ++ r)).1)
      (.ok (skipRedirectOperator (u ++ r')).1) := by
  obtain ⟨c, u, rfl⟩ := List.exists_cons_of_ne_nil hu
  intro p hw hrel
  rcases u with _ | ⟨d, u⟩
  · -- the operator's first character ends `u`: whether it doubles rests on the head of `r`
    rw [List.singleton_append, skipRedirectOperator_cons] at hw
    by_cases hdouble : (c = '<' ∨ c = '>') ∧ r.head? = some c
    · rw [if_pos hdouble] at hw
      have hne : r ≠ [] := by
        rintro rfl
        simp at hdouble
      have := congrArg List.length hw
      simp only [List.length_tail, List.length_append] at this
      have := List.length_pos_iff.2 hne
      omega
    · rw [if_neg hdouble] at hw
      obtain rfl : p = [] := by simpa using congrArg List.length hw
      simp only [List.nil_append] at hrel ⊢
      rw [List.singleton_append, skipRedirectOperator_cons, if_neg]
      rintro ⟨hop, hhead⟩
      exact hdouble ⟨hop, hR _ _ hrel c hhead hop⟩
  · simp only [List.cons_append] at hw ⊢
    rw [skipRedirectOperator_cons_cons] at hw ⊢
    by_cases hdouble : (c = '<' ∨ c = '>') ∧ d = c
    · rw [if_pos hdouble] at hw ⊢
      rw [List.append_cancel_right hw]
    · rw [if_neg hdouble] at hw ⊢
      rw [← List.cons_append] at hw ⊢
      rw [List.append_cancel_right hw]

/-- An operator character at the head of a rest that fits stands at the head of the old one. -/
theorem Fits.operator_head {a b : List Char} (h : Fits a b) :
    ∀ d ∈ b.head?, (d = '<' ∨ d = '>') → a.head? = some d := by
  intro d hd hop
  rcases h with hcl | hsame
  · rw [head_of_closes hcl d hd] at hop
    simp at hop
  · rw [hsame]
    exact hd

/-! ## Readers -/

@[simp] theorem ok_bind {β : Type} (a : List Char) (g : List Char → Except Stop β) :
    (Except.ok a >>= g) = g a := rfl

@[simp] theorem error_bind {β : Type} (e : Stop) (g : List Char → Except Stop β) :
    ((Except.error e : Except Stop (List Char)) >>= g) = .error e := rfl

theorem SameHead.eq_nil {b : List Char} (h : SameHead [] b) : b = [] :=
  List.head?_eq_none_iff.1 h.symm

section Readers

variable {r r' : List Char}

theorem pieces_moves {c : Char} (hc : startsPiece c) (l : List Char) {w : List Char}
    (h : (pieces (c :: l)).map Subtype.val = .ok w) : w <:+ l := by
  rw [pieces_cons] at h
  by_cases hq : isQuote c
  · rw [if_pos hq] at h
    rcases hcq : (closeQuotation c l).map Subtype.val with e | v
    · rw [hcq] at h
      cases h
    · rw [hcq, ok_bind] at h
      have hw := pieces_within v
      rw [h] at hw
      exact hw.trans (closeQuotation_ok_suffix hcq)
  · have hb : (!isSpecial c) = true := by simpa [startsPiece_eq, hq] using hc
    rw [if_neg hq, if_pos hb] at h
    have hw := pieces_within (skipBare l).1
    rw [h] at hw
    exact hw.trans (skipBare_suffix l)

/-- Pieces fail only at a quotation left open. -/
theorem pieces_ne_unexpected (l w : List Char) :
    (pieces l).map Subtype.val ≠ .error (.unexpected w) := by
  rcases l with _ | ⟨c, l⟩
  · rw [pieces_nil]
    exact fun h => by cases h
  · rw [pieces_cons]
    split_ifs with hq hb
    · rcases hd : l.dropWhile (· != c) with _ | ⟨d, after⟩
      · rw [closeQuotation_of_nil hd]
        exact fun h => by cases h
      · rw [closeQuotation_of_cons hd, ok_bind]
        exact pieces_ne_unexpected after w
    · exact pieces_ne_unexpected _ w
    · exact fun h => by cases h
termination_by l.length
decreasing_by
  · have := (hd ▸ List.dropWhile_suffix (· != c) : d :: after <:+ l).length_le
    simp only [List.length_cons] at this ⊢
    omega
  · simp only [List.length_cons]
    exact Nat.lt_succ_of_le (skipBare l).2

theorem pieces_of_head {l : List Char} (h : ∀ c ∈ l.head?, startsPiece c = false) :
    (pieces l).map Subtype.val = .ok l := by
  rcases l with _ | ⟨c, l⟩
  · exact pieces_nil
  · have hc := h c rfl
    rw [startsPiece_eq, Bool.or_eq_false_iff, Bool.not_eq_false'] at hc
    rw [pieces_cons, if_neg (by simp [hc.1]), if_neg (by simp [hc.2])]

theorem head_of_pieces {l : List Char} (h : (pieces l).map Subtype.val = .ok l) :
    ∀ c ∈ l.head?, startsPiece c = false := by
  rcases l with _ | ⟨c, l⟩
  · intro _ hc
    cases hc
  · intro d hd
    cases hd
    cases hs : startsPiece c
    · rfl
    · have := (pieces_moves hs l h).length_le
      simp only [List.length_cons] at this
      omega

/-- Pieces stop where they stop whatever follows, provided the rest there fits. -/
theorem pieces_follows (u : List Char) :
    Follows Fits SameHead r r' ((pieces (u ++ r)).map Subtype.val)
      ((pieces (u ++ r')).map Subtype.val) := by
  rcases u with _ | ⟨c, u⟩
  · -- pieces stop at once only where no piece starts, and so at a rest that fits
    simp only [List.nil_append]
    refine Follows.at_start (pieces_within r) (fun h hfit => pieces_of_head ?_)
      (fun h => absurd h (pieces_ne_unexpected r r))
    exact hfit.head_false rfl (head_of_pieces h)
  · simp only [List.cons_append, pieces_cons]
    split_ifs with hq hb
    · exact Follows.bind (closeQuotation_follows c u) (fun _ hw => closeQuotation_ok_suffix hw)
        (fun p _ => pieces_follows p) (fun w _ => pieces_within w) (fun _ _ h => h)
        (fun _ _ h => ⟨.inr h, h⟩)
    · exact Follows.step (g := fun v => (pieces v).map Subtype.val) (skipBare_follows u)
        (skipBare_suffix _) (fun p _ => pieces_follows p) (pieces_within _) (fun _ _ h => h)
        (fun _ _ h => .inr h)
    · exact Follows.ok_append (c :: u)
termination_by u.length
decreasing_by
  · have := (closeQuotation_ok_suffix ‹_›).length_le
    simp only [List.length_append, List.length_cons] at this ⊢
    omega
  · have := (skipBare_suffix (u ++ r)).length_le
    rw [‹(skipBare (u ++ r)).1 = _›] at this
    simp only [List.length_append, List.length_cons] at this ⊢
    omega

/-- A word fails at a character only where it starts, at no piece. -/
theorem word_unexpected {v w : List Char} (h : (word v).map Subtype.val = .error (.unexpected w)) :
    w = v ∧ ∀ c ∈ v.head?, startsPiece c = false := by
  rcases v with _ | ⟨c, l⟩
  · rw [word_nil] at h
    cases h
    exact ⟨rfl, fun _ hc => by cases hc⟩
  · rw [word_cons] at h
    split_ifs at h with hc
    · exact absurd h (pieces_ne_unexpected _ _)
    · cases h
      exact ⟨rfl, fun _ hd => by cases hd; simpa using hc⟩

theorem word_follows (u : List Char) :
    Follows Fits SameHead r r' ((word (u ++ r)).map Subtype.val)
      ((word (u ++ r')).map Subtype.val) := by
  rcases u with _ | ⟨c, u⟩
  · -- at `r` itself a word fails at once where no piece starts, and reads into `r` otherwise
    simp only [List.nil_append]
    rcases r with _ | ⟨c, l⟩
    · rw [word_nil]
      intro p hw hsame
      obtain rfl := eq_nil_of_suffix (List.suffix_refl []) hw
      obtain rfl : r' = [] := SameHead.eq_nil hsame
      exact word_nil
    · rw [word_cons]
      split_ifs with hc
      · refine Follows.of_short fun v hv => ?_
        rcases hv with hv | hv
        · have := (pieces_moves hc l hv).length_le
          simp only [List.length_cons]
          omega
        · exact absurd hv (pieces_ne_unexpected _ _)
      · intro p hw hsame
        obtain rfl := eq_nil_of_suffix (List.suffix_refl _) hw
        rcases r' with _ | ⟨d, l'⟩
        · cases hsame
        · cases hsame
          rw [List.nil_append, word_cons, if_neg hc]
  · simp only [List.cons_append, word_cons]
    split_ifs
    · exact pieces_follows (c :: u)
    · exact Follows.error_append (c :: u)

theorem skipRedirectOperator_lt (c : Char) (l : List Char) :
    (skipRedirectOperator (c :: l)).1.length < (c :: l).length := by
  rw [skipRedirectOperator_cons]
  split_ifs
  · simp only [List.length_tail, List.length_cons]
    omega
  · simp

theorem redirection_follows (u : List Char) :
    Follows Fits SameHead r r' ((redirection (u ++ r)).map Subtype.val)
      ((redirection (u ++ r')).map Subtype.val) := by
  rw [redirection_val, redirection_val]
  rcases u with _ | ⟨c, u⟩
  · simp only [List.nil_append]
    rcases r with _ | ⟨c, l⟩
    · -- no operator: the word fails at the end of the input
      show Follows _ _ _ _ ((word []).map Subtype.val) _
      rw [word_nil]
      intro p hw hsame
      obtain rfl := eq_nil_of_suffix (List.suffix_refl []) hw
      obtain rfl : r' = [] := SameHead.eq_nil hsame
      exact word_nil
    · -- the operator is read from `r`, and the word after it too
      exact Follows.of_shorter ((word_within (head_skipBlanks _)).mono (skipBlanks_suffix _))
        (skipRedirectOperator_lt c l)
  · refine Follows.step (g := fun v => (word (skipBlanks v).1).map Subtype.val)
      (skipRedirectOperator_follows (fun _ _ h => h.operator_head) (List.cons_ne_nil c u))
      (skipRedirectOperator_suffix _)
      (fun p _ => ?_) ((word_within (head_skipBlanks _)).mono (skipBlanks_suffix _))
      (fun _ _ h => h) (fun _ _ h => .inr h)
    exact Follows.step (g := fun v => (word v).map Subtype.val) (skipBlanks_follows p)
      (skipBlanks_suffix _) (fun p₂ _ => word_follows p₂) (word_within (head_skipBlanks _))
      (fun _ _ h => h) (fun _ _ h => .inr h)

/-- The items of a simple command, read from where the blanks before them end. -/
def itemsAt (seen : Nat) : List Char → Except Stop (List Char)
  | [] => if seen = 0 then .error (.unexpected []) else .ok []
  | c :: r =>
      if startsRedirection (c :: r) then
        (redirection (c :: r)).map Subtype.val >>= fun r₁ =>
          (simpleItems (seen + 1) r₁).map Subtype.val
      else if startsPiece c then
        (word (c :: r)).map Subtype.val >>= fun r₁ => (simpleItems (seen + 1) r₁).map Subtype.val
      else if seen = 0 then .error (.unexpected (c :: r)) else .ok (c :: r)

theorem simpleItems_eq (seen : Nat) (cs : List Char) :
    (simpleItems seen cs).map Subtype.val = itemsAt seen (skipBlanks cs).1 := by
  rw [simpleItems_val]
  generalize (skipBlanks cs).1 = v
  rcases v with _ | ⟨c, r⟩ <;> rfl

theorem startsRedirection_cons (c : Char) (l : List Char) :
    startsRedirection (c :: l) = (c == '<' || c == '>') := by
  by_cases h₁ : c = '<'
  · subst h₁
    rfl
  · by_cases h₂ : c = '>'
    · subst h₂
      rfl
    · simp [startsRedirection, h₁, h₂]

/-- A redirection reads its operator before anything else. -/
theorem redirection_within_operator (cs : List Char) :
    Within (skipRedirectOperator cs).1 ((redirection cs).map Subtype.val) := by
  rw [redirection_val]
  exact (word_within (head_skipBlanks _)).mono (skipBlanks_suffix _)

/-- A character that starts an item of a simple command: a redirection or a word. -/
def startsItem (c : Char) : Bool := (c == '<' || c == '>') || startsPiece c

theorem itemsAt_of_head (seen : Nat) {l : List Char} (h : ∀ c ∈ l.head?, startsItem c = false) :
    itemsAt seen l = if seen = 0 then .error (.unexpected l) else .ok l := by
  rcases l with _ | ⟨c, l⟩
  · rfl
  · have hc := h c rfl
    simp only [startsItem, Bool.or_eq_false_iff] at hc
    simp only [itemsAt, startsRedirection_cons, hc.1.1, hc.1.2, hc.2, Bool.or_self,
      Bool.false_eq_true, if_false]

/-- The items stop or fail at once only where no item starts. -/
theorem head_of_itemsAt (seen : Nat) {l : List Char}
    (h : itemsAt seen l = .ok l ∨ itemsAt seen l = .error (.unexpected l)) :
    ∀ c ∈ l.head?, startsItem c = false := by
  rcases l with _ | ⟨c, l⟩
  · intro _ hc
    cases hc
  intro d hd
  cases hd
  have hshort : ∀ {x : Except Stop (List Char)} {w : List Char}, Within w x →
      w.length < (c :: l).length → x ≠ .ok (c :: l) ∧ x ≠ .error (.unexpected (c :: l)) := by
    intro x w hx hw
    constructor
    · rintro rfl
      exact absurd hx.length_le (by omega)
    · rintro rfl
      exact absurd hx.1.length_le (by omega)
  simp only [itemsAt, startsRedirection_cons] at h
  split_ifs at h with hred hc
  · exact absurd h (by
      have := hshort ((redirection_within_operator (c :: l)).bind fun w _ =>
        simpleItems_within (seen + 1) w) (skipRedirectOperator_lt c l)
      tauto)
  · rcases hw : (word (c :: l)).map Subtype.val with e | w
    · rw [hw] at h
      rcases h with h | h
      · cases h
      · cases h
        exact absurd (word_unexpected hw).2 (by simp [hc])
    · rw [hw, ok_bind] at h
      have hwl : w <:+ l := by
        rw [word_cons, if_pos hc] at hw
        exact pieces_moves hc l hw
      exact absurd h (by
        have := hshort (simpleItems_within (seen + 1) w)
          (Nat.lt_of_le_of_lt hwl.length_le (by simp))
        tauto)
  · simp [startsItem, hred, hc]
  · simp [startsItem, hred, hc]

/-- At a rest with no blank at its head, the items stop or fail there at once only where no
item starts, and then they do so alike at a rest that fits. -/
theorem itemsAt_at_start (seen : Nat) (hb : ∀ c ∈ r.head?, isBlank c = false) :
    Follows Fits SameHead r r' (itemsAt seen r) (itemsAt seen r') := by
  have hw : Within r (itemsAt seen r) := by
    have h := simpleItems_within seen r
    rwa [simpleItems_eq, skipBlanks_of_head hb] at h
  refine Follows.at_start hw (fun h hfit => ?_) (fun h hsame => ?_)
  · have hr := head_of_itemsAt seen (.inl h)
    rw [itemsAt_of_head seen hr] at h
    rw [itemsAt_of_head seen (hfit.head_false rfl hr)]
    split_ifs at h ⊢
    rfl
  · have hr := head_of_itemsAt seen (.inr h)
    rw [itemsAt_of_head seen hr] at h
    rw [itemsAt_of_head seen (Fits.head_false (.inr hsame) rfl hr)]
    split_ifs at h ⊢
    rfl

theorem simpleItems_follows (seen : Nat) (u : List Char) :
    Follows Fits SameHead r r' ((simpleItems seen (u ++ r)).map Subtype.val)
      ((simpleItems seen (u ++ r')).map Subtype.val) := by
  rw [simpleItems_eq, simpleItems_eq]
  have hgw : Within (skipBlanks (u ++ r)).1 (itemsAt seen (skipBlanks (u ++ r)).1) := by
    have h := simpleItems_within seen (skipBlanks (u ++ r)).1
    rwa [simpleItems_eq, skipBlanks_skipBlanks] at h
  refine Follows.step (g := itemsAt seen) (skipBlanks_follows u) (skipBlanks_suffix _)
    (fun p hp => ?_) hgw (fun _ _ h => h) (fun _ _ h => .inr h)
  have hb : ∀ c ∈ (p ++ r).head?, isBlank c = false := hp ▸ head_skipBlanks (u ++ r)
  rcases p with _ | ⟨c, p⟩
  · rw [List.nil_append] at hb ⊢
    exact itemsAt_at_start seen hb
  · simp only [List.cons_append, itemsAt, startsRedirection_cons]
    split_ifs
    · exact Follows.bind (u := c :: p) (redirection_follows (c :: p))
        (fun w hw => by have h := redirection_within (c :: (p ++ r)); rw [hw] at h; exact h)
        (fun p₁ _ => simpleItems_follows (seen + 1) p₁)
        (fun w _ => simpleItems_within (seen + 1) w) (fun _ _ h => h) (fun _ _ h => ⟨.inr h, h⟩)
    · exact Follows.bind (u := c :: p) (word_follows (c :: p))
        (fun w hw => by
          have h := @word_within (c :: (p ++ r)) hb
          rw [hw] at h
          exact h)
        (fun p₁ _ => simpleItems_follows (seen + 1) p₁)
        (fun w _ => simpleItems_within (seen + 1) w) (fun _ _ h => h) (fun _ _ h => ⟨.inr h, h⟩)
    · exact Follows.error_append (c :: p)
    · exact Follows.ok_append (c :: p)
termination_by u.length
decreasing_by
  all_goals
    have h₁ := (skipBlanks_suffix (u ++ r)).length_le
    rw [hp] at h₁
  · have h₂ := length_lt_of_shorter ‹(redirection _).map Subtype.val = _›
    simp only [List.length_append, List.length_cons] at h₁ h₂
    omega
  · have h₂ := length_lt_of_shorter ‹(word _).map Subtype.val = _›
    simp only [List.length_append, List.length_cons] at h₁ h₂
    omega

theorem startsRedirection_eq_false_iff {l : List Char} :
    startsRedirection l = false ↔ ∀ c ∈ l.head?, (c == '<' || c == '>') = false := by
  rcases l with _ | ⟨c, l⟩
  · simp [startsRedirection]
  · simp [startsRedirection_cons]

/-- The redirections after a group, read from where the blanks before them end. -/
def redirsAt (v : List Char) : Except Stop (List Char) :=
  if startsRedirection v then
    (redirection v).map Subtype.val >>= fun r => (groupRedirections r).map Subtype.val
  else .ok v

theorem groupRedirections_eq (cs : List Char) :
    (groupRedirections cs).map Subtype.val = redirsAt (skipBlanks cs).1 :=
  groupRedirections_val cs

theorem groupRedirections_follows (u : List Char) :
    Follows Fits SameHead r r' ((groupRedirections (u ++ r)).map Subtype.val)
      ((groupRedirections (u ++ r')).map Subtype.val) := by
  rw [groupRedirections_eq, groupRedirections_eq]
  have hgw : Within (skipBlanks (u ++ r)).1 (redirsAt (skipBlanks (u ++ r)).1) := by
    have h := groupRedirections_within (skipBlanks (u ++ r)).1
    rwa [groupRedirections_eq, skipBlanks_skipBlanks] at h
  refine Follows.step (g := redirsAt) (skipBlanks_follows u) (skipBlanks_suffix _)
    (fun p hp => ?_) hgw (fun _ _ h => h) (fun _ _ h => .inr h)
  rcases p with _ | ⟨c, p⟩
  · -- at `r` a redirection starts and reads into `r`, or the redirections stop there
    simp only [List.nil_append]
    unfold redirsAt
    cases hred : startsRedirection r
    · rw [if_neg (by simp)]
      intro pf hw hfit
      obtain rfl := eq_nil_of_suffix (List.suffix_refl r) hw
      rw [List.nil_append] at hfit ⊢
      have hred' : startsRedirection r' = false := startsRedirection_eq_false_iff.2
        (hfit.head_false rfl (startsRedirection_eq_false_iff.1 hred))
      rw [if_neg (by simp [hred'])]
    · rw [if_pos rfl]
      rcases r with _ | ⟨c, l⟩
      · cases hred
      · exact Follows.of_shorter ((redirection_within_operator _).bind fun w _ =>
          groupRedirections_within w) (skipRedirectOperator_lt c l)
  · simp only [List.cons_append, redirsAt, startsRedirection_cons]
    split_ifs
    · exact Follows.bind (u := c :: p) (redirection_follows (c :: p))
        (fun w hw => by have h := redirection_within (c :: (p ++ r)); rw [hw] at h; exact h)
        (fun p₁ _ => groupRedirections_follows p₁) (fun w _ => groupRedirections_within w)
        (fun _ _ h => h) (fun _ _ h => ⟨.inr h, h⟩)
    · exact Follows.ok_append (c :: p)
termination_by u.length
decreasing_by
  have h₁ := (skipBlanks_suffix (u ++ r)).length_le
  rw [hp] at h₁
  have h₂ := length_lt_of_shorter ‹(redirection _).map Subtype.val = _›
  simp only [List.length_append, List.length_cons] at h₁ h₂
  omega

theorem afterChar_eq_none_iff {ch : Char} {l : List Char} :
    afterChar ch l = none ↔ ∀ c ∈ l.head?, (c == ch) = false := by
  rcases l with _ | ⟨c, l⟩
  · simp [afterChar]
  · by_cases h : c = ch <;> simp [afterChar, h]

theorem groupEnd_follows (u : List Char) :
    Follows Fits Alike r r' (groupEnd (u ++ r)) (groupEnd (u ++ r')) := by
  refine Follows.step (g := closeGroup) (skipBlanks_follows u) (skipBlanks_suffix _)
    (fun p hp => ?_) (closeGroup_within (head_skipBlanks _)) (fun _ _ h => h)
    (fun _ _ h => .inr h.1)
  rcases p with _ | ⟨c, p⟩
  · simp only [List.nil_append]
    unfold closeGroup
    rcases hc : afterChar ')' r with _ | after
    · -- no closing parenthesis at `r`, nor at a rest that starts alike
      intro pf hw halike
      obtain rfl := eq_nil_of_suffix (List.suffix_refl r) hw
      rw [List.nil_append] at halike ⊢
      have hc' : afterChar ')' r' = none := by
        rw [afterChar_eq_none_iff] at hc ⊢
        exact fun d hd => hc d (halike.1 ▸ hd)
      rw [hc']
    · exact Follows.of_shorter (groupRedirections_within after)
        (by rw [afterChar_eq_some_iff.1 hc]; simp)
  · simp only [List.cons_append, closeGroup, afterChar]
    split_ifs
    · exact (groupRedirections_follows p).mono (fun _ _ h => h) (fun _ _ h => h.1)
    · exact Follows.error_append (c :: p)

/-- The end of a group reads past the head of its input only where that is a blank or the
closing parenthesis. -/
theorem head_of_groupEnd_moves {v w : List Char}
    (h : groupEnd v = .ok w ∨ groupEnd v = .error (.unexpected w)) (hw : w ≠ v) :
    ∀ c ∈ v.head?, isBlank c = true ∨ c = ')' := by
  rcases v with _ | ⟨c, l⟩
  · intro _ hc
    cases hc
  intro d hd
  cases hd
  cases hb : isBlank c
  · right
    unfold groupEnd closeGroup at h
    rw [skipBlanks_of_head (by intro d hd; cases hd; exact hb)] at h
    by_contra hc
    rw [show afterChar ')' (c :: l) = none by simp [afterChar, hc]] at h
    rcases h with h | h
    · cases h
    · cases h
      exact hw rfl
  · exact .inl rfl

theorem afterBar_of_ne {c : Char} (hc : c ≠ '|') (l : List Char) : afterBar (c :: l) = none := by
  unfold afterBar
  split <;> simp_all

/-- Where the end of a group reads past the head of the rest at which the pipeline in it
stopped, the pipeline stops alike at the rest that replaces `r`. -/
theorem fitsBar_of_groupEnd {p pf : List Char}
    (h : groupEnd (p ++ r) = .ok (pf ++ r) ∨ groupEnd (p ++ r) = .error (.unexpected (pf ++ r)))
    (hpf : pf ≠ p) : FitsBar (p ++ r) (p ++ r') := by
  have hp : p ≠ [] := by
    rintro rfl
    rw [List.nil_append] at h
    have hw := groupEnd_within r
    rcases h with h | h <;> rw [h] at hw
    · exact hpf (eq_nil_of_suffix hw rfl)
    · exact hpf (eq_nil_of_suffix hw.1 rfl)
  obtain ⟨c, p, rfl⟩ := List.exists_cons_of_ne_nil hp
  have hc := head_of_groupEnd_moves h (fun heq => hpf (List.append_cancel_right heq)) c rfl
  have hbar : c ≠ '|' := by
    rintro rfl
    simp [isBlank] at hc
  refine ⟨.inr (SameHead.append hp r r'), fun _ => ?_⟩
  exact afterBar_of_ne hbar _

/-- A command read from where the blanks before it end. -/
def commandAt (v : List Char) : Except Stop (List Char) :=
  match afterChar '(' v with
  | some inner => (pipeline inner).map Subtype.val >>= groupEnd
  | none => (simpleItems 0 v).map Subtype.val

theorem command_eq (cs : List Char) :
    (command cs).map Subtype.val = commandAt (skipBlanks cs).1 := by
  rw [command_val]
  rfl

/-- What continues a pipeline, read from where the blanks before it end: a single bar and a
pipeline, or nothing. -/
def tailAt (v : List Char) : Except Stop (List Char) :=
  match afterBar v with
  | some after => (pipeline after).map Subtype.val
  | none => .ok v

theorem pipelineTail_eq (cs : List Char) :
    (pipelineTail cs).map Subtype.val = tailAt (skipBlanks cs).1 := by
  rw [pipelineTail_val]
  unfold tailAt
  rcases afterBar (skipBlanks cs).1 with _ | after
  · rfl
  · exact (pipeline_val after).symm

theorem commandAt_within {v : List Char} (hb : ∀ c ∈ v.head?, isBlank c = false) :
    Within v (commandAt v) := by
  have h := command_within v
  rwa [command_eq, skipBlanks_of_head hb] at h

theorem tailAt_within {v : List Char} (hb : ∀ c ∈ v.head?, isBlank c = false) :
    Within v (tailAt v) := by
  have h := pipelineTail_within v
  rwa [pipelineTail_eq, skipBlanks_of_head hb] at h

theorem afterBar_cons_cons (c d : Char) (l : List Char) :
    afterBar (c :: d :: l) = if c = '|' ∧ d ≠ '|' then some (d :: l) else none := by
  by_cases hc : c = '|'
  · subst hc
    by_cases hd : d = '|'
    · subst hd
      rfl
    · simp [afterBar, hd]
  · simp [afterBar_of_ne hc, hc]

theorem afterBar_bar {l : List Char} (h : ∀ c ∈ l.head?, (c == '|') = false) :
    afterBar ('|' :: l) = some l := by
  rcases l with _ | ⟨d, l⟩
  · rfl
  · have hd : d ≠ '|' := by simpa using h d rfl
    simp [afterBar_cons_cons, hd]

theorem head_of_afterBar_bar {l a : List Char} (h : afterBar ('|' :: l) = some a) :
    ∀ c ∈ l.head?, (c == '|') = false := by
  rcases l with _ | ⟨d, l⟩
  · intro _ hc
    cases hc
  · intro c hc
    cases hc
    rw [afterBar_cons_cons] at h
    split_ifs at h with hd
    simpa using hd.2

mutual

theorem pipeline_follows (u : List Char) :
    Follows FitsBar Alike r r' ((pipeline (u ++ r)).map Subtype.val)
      ((pipeline (u ++ r')).map Subtype.val) := by
  rw [pipeline_val, pipeline_val]
  exact Follows.bind (command_follows u)
    (fun w hw => by have h := command_within (u ++ r); rw [hw] at h; exact h)
    (fun p _ => pipelineTail_follows p) (fun w _ => pipelineTail_within w) (fun _ _ h => h.1)
    (fun _ _ h => ⟨.inr h.1, h⟩)
termination_by (u.length, 2)
decreasing_by
  · exact Prod.Lex.right _ (by omega)
  · have h := command_within (u ++ r)
    rw [‹(command (u ++ r)).map Subtype.val = _›] at h
    have hle := h.length_le
    simp only [List.length_append] at hle
    rcases Nat.lt_or_eq_of_le (show p.length ≤ u.length by omega) with hlt | heq
    · exact Prod.Lex.left _ _ hlt
    · rw [heq]
      exact Prod.Lex.right _ (by omega)

theorem command_follows (u : List Char) :
    Follows Fits Alike r r' ((command (u ++ r)).map Subtype.val)
      ((command (u ++ r')).map Subtype.val) := by
  rw [command_eq, command_eq]
  refine Follows.step (g := commandAt) (skipBlanks_follows u) (skipBlanks_suffix _)
    (fun p hp => ?_) (commandAt_within (head_skipBlanks _)) (fun _ _ h => h)
    (fun _ _ h => .inr h.1)
  rcases p with _ | ⟨c, p⟩
  · simp only [List.nil_append]
    unfold commandAt
    rcases ho : afterChar '(' r with _ | inner
    · -- a simple command, read from `r'` as from `r` where the rests fit
      refine Follows.of_within_rest (simpleItems_within 0 r)
        ((simpleItems_follows 0 []).mono (fun _ _ h => h) (fun _ _ h => h.1)) (fun hfit => ?_)
        (fun _ _ h => h) (fun _ _ h => .inr h.1)
      have ho' : afterChar '(' r' = none := by
        rw [afterChar_eq_none_iff] at ho ⊢
        exact hfit.head_false rfl ho
      rw [ho']
      rfl
    · -- a group opens at `r`
      exact Follows.of_shorter ((pipeline_within inner).bind fun w _ => groupEnd_within w)
        (length_of_afterChar ho)
  · simp only [List.cons_append, commandAt, afterChar]
    split_ifs
    · -- a group: the pipeline in it stops alike where its end reads on or fails
      refine Follows.bind_of (pipeline_follows p)
        (fun w hw => by have h := pipeline_within (p ++ r); rw [hw] at h; exact h)
        (fun p₁ _ => groupEnd_follows p₁) (fun w _ => groupEnd_within w)
        (fun p₁ pf _ hz _ => fitsBar_of_groupEnd (.inl hz) ?_)
        (fun p₁ pf _ hz hS => ?_) (fun _ _ h => h)
      · -- the end of a group never stops where it starts
        rintro rfl
        have := ‹(pipeline (p ++ r)).map Subtype.val = _›
        unfold groupEnd closeGroup at hz
        split at hz
        · rename_i after hc
          have h₁ := groupRedirections_within after
          rw [hz] at h₁
          have h₂ := (skipBlanks_suffix (pf ++ r)).length_le
          rw [afterChar_eq_some_iff.1 hc] at h₂
          have := h₁.length_le
          simp only [List.length_cons] at h₂
          omega
        · cases hz
      · by_cases hpf : pf = p₁
        · subst hpf
          exact Alike.fitsBar hS
        · exact fitsBar_of_groupEnd (.inr hz) hpf
    · exact (simpleItems_follows 0 (c :: p)).mono (fun _ _ h => h) (fun _ _ h => h.1)
termination_by (u.length, 1)
decreasing_by
  have h₁ := (skipBlanks_suffix (u ++ r)).length_le
  rw [hp] at h₁
  simp only [List.length_append, List.length_cons] at h₁
  exact Prod.Lex.left _ _ (by omega)

theorem pipelineTail_follows (u : List Char) :
    Follows FitsBar Alike r r' ((pipelineTail (u ++ r)).map Subtype.val)
      ((pipelineTail (u ++ r')).map Subtype.val) := by
  rw [pipelineTail_eq, pipelineTail_eq]
  refine Follows.step (g := tailAt) (skipBlanks_follows u) (skipBlanks_suffix _)
    (fun p hp => ?_) (tailAt_within (head_skipBlanks _)) (fun _ _ h => h.1)
    (fun _ _ h => .inr h.1)
  rcases p with _ | ⟨c, _ | ⟨d, p⟩⟩
  · -- at `r` a single bar reads into `r`, or the pipeline stops there
    simp only [List.nil_append]
    unfold tailAt
    rcases hb : afterBar r with _ | after
    · intro pf hw hfit
      obtain rfl := eq_nil_of_suffix (List.suffix_refl r) hw
      simp only [List.nil_append] at hfit ⊢
      rw [hfit.2 hb]
    · exact Follows.of_shorter (pipeline_within after) (length_of_afterBar hb)
  · -- one character before `r`: a bar, doubled or not as `r` starts
    rw [List.singleton_append]
    unfold tailAt
    rcases hb : afterBar (c :: r) with _ | after
    · intro pf hw hfit
      obtain rfl : pf = [c] := List.append_cancel_right (hw.symm.trans List.singleton_append.symm)
      simp only [List.singleton_append] at hfit ⊢
      rw [hfit.2 hb]
    · obtain ⟨rfl, rfl⟩ := List.cons.inj (eq_of_afterBar hb)
      refine Follows.of_within_rest (pipeline_within r) (pipeline_follows [])
        (fun hfit => ?_) (fun _ _ h => h.1) (fun _ _ h => .inr h.1)
      simp only [List.singleton_append, List.nil_append]
      rw [afterBar_bar (hfit.head_false rfl (head_of_afterBar_bar hb))]
  · -- two characters before `r` decide the bar
    simp only [List.cons_append, tailAt, afterBar_cons_cons]
    split_ifs
    · exact pipeline_follows (d :: p)
    · exact Follows.ok_append (c :: d :: p)
termination_by (u.length, 0)
decreasing_by
  all_goals
    have h₁ := (skipBlanks_suffix (u ++ r)).length_le
    rw [hp] at h₁
    simp only [List.length_append, List.length_cons, List.length_nil] at h₁ ⊢
    exact Prod.Lex.left _ _ (by omega)

end

theorem SameHead.append_left (p : List Char) (h : SameHead r r') : SameHead (p ++ r) (p ++ r') := by
  rcases p with _ | ⟨c, p⟩
  · exact h
  · rfl

theorem head_of_skipBlanks_eq {q : List Char} (h : (skipBlanks (q ++ r)).1 = r) :
    ∀ c ∈ q.head?, isBlank c = true := by
  rcases q with _ | ⟨c, q⟩
  · intro _ hc
    cases hc
  · intro d hd
    cases hd
    by_contra hc
    rw [skipBlanks_of_head (by intro d hd; cases hd; simpa using hc)] at h
    have := congrArg List.length h
    simp only [List.cons_append, List.length_cons, List.length_append] at this
    omega

/-- Blanks before two rests that a pipeline may take for each other keep them so. -/
theorem fitsBar_of_blank {q : List Char} (hq : ∀ d ∈ q.head?, isBlank d = true)
    (hfit : FitsBar r r') : FitsBar (q ++ r) (q ++ r') := by
  rcases q with _ | ⟨d, q⟩
  · exact hfit
  · have hd : d ≠ '|' := by
      rintro rfl
      simp [isBlank] at hq
    exact ⟨.inr rfl, fun _ => afterBar_of_ne hd _⟩

/-- Where a line fails at a character, a line that agrees with it up to there and starts alike
there fails there too. -/
theorem line_follows {u : List Char} (h : line (u ++ r) = .error (.unexpected r))
    (halike : Alike r r') : line (u ++ r') = .error (.unexpected r') := by
  rcases r with _ | ⟨c, l⟩
  · obtain rfl : r' = [] := SameHead.eq_nil halike.1
    exact h
  have hne : r' ≠ [] := by
    rintro rfl
    cases halike.1
  rw [line_val] at h ⊢
  split_ifs at h with hsb
  obtain ⟨p, hp⟩ : c :: l <:+ (skipBlanks (u ++ c :: l)).1 := by
    have hpw := pipeline_within (skipBlanks (u ++ c :: l)).1
    rcases hrun : (pipeline (skipBlanks (u ++ c :: l)).1).map Subtype.val with (x | ⟨q, x⟩) | w
      <;> rw [hrun] at h hpw
    · cases h
      exact hpw.1
    · cases h
    · rw [ok_bind] at h
      split_ifs at h
      simp only [Except.error.injEq, Stop.unexpected.injEq] at h
      exact (h ▸ skipBlanks_suffix w).trans hpw
  have hsb' : (skipBlanks (u ++ r')).1 = p ++ r' := Except.ok.inj
    (Follows.ok_at (skipBlanks_follows (S := SameHead) u) (by rw [hp])
      (.inr (halike.1.append_left p)))
  rw [if_neg (by rw [hsb']; simp [hne]), hsb']
  rw [← hp] at h
  rcases hrun : (pipeline (p ++ c :: l)).map Subtype.val with (x | ⟨q, x⟩) | w
    <;> rw [hrun] at h
  · -- the pipeline failed at the character
    cases h
    rw [Follows.error_at (pipeline_follows p) (m := []) hrun halike, error_bind]
    rfl
  · cases h
  · -- the pipeline stopped, and only blanks stand between its stop and the character
    rw [ok_bind] at h
    split_ifs at h
    simp only [Except.error.injEq, Stop.unexpected.injEq] at h
    obtain ⟨q, rfl⟩ : c :: l <:+ w := h ▸ skipBlanks_suffix w
    have hq := head_of_skipBlanks_eq h
    have hsq : (skipBlanks (q ++ r')).1 = r' := Except.ok.inj
      (Follows.ok_at (skipBlanks_follows (S := SameHead) q) (m := []) (by rw [h]; rfl)
        (.inr halike.1))
    rw [Follows.ok_at (pipeline_follows p) hrun (fitsBar_of_blank hq halike.fitsBar), ok_bind, hsq]
    exact if_neg hne

end Readers

end Conch.Syntax
