/-
A text in lower case, and what stands around it.

A capital sigma is the one character that looks around before it goes into lower case: it has its
final form if there is a letter before it and none behind it, with apostrophes and the like passed
over.  So a part of a text in lower case is the part's own lower case, unless there is a capital
sigma near an end of the part.  Two kinds of parts are open in this way.  After a letter, a sigma
at the end is final, and is not any more if another letter follows.  At the start a sigma is not
final, and becomes so if a letter comes before it and it is not followed by one.

All other parts are closed.  And a part that is open is not found in lower case once the letter is
put there, since the forms of sigma do not come out even.
-/
import DeviceLint.Proofs.LowerCase
import Mathlib.Data.List.Basic

namespace DeviceLint.Text

/-! ### The nearest character -/

/-- Whether the first character that is not passed over has case, if there is one. -/
def nearestCase? : List Char → Option Bool
  | [] => none
  | c :: s => if isCaseIgnorable c then nearestCase? s else some (isCased c)

theorem nearestCase?_append (s t : List Char) :
    nearestCase? (s ++ t) = (nearestCase? s).or (nearestCase? t) := by
  induction s with
  | nil => rfl
  | cons c s ih =>
      rw [List.cons_append, nearestCase?, nearestCase?, ih]
      by_cases hc : isCaseIgnorable c = true
      · rw [if_pos hc, if_pos hc]
      · rw [if_neg hc, if_neg hc]
        rfl

theorem meetsCased_iff {s : List Char} : meetsCased s = true ↔ nearestCase? s = some true := by
  unfold meetsCased
  induction s with
  | nil => simp [nearestCase?]
  | cons c s ih =>
      rw [nearestCase?]
      by_cases hc : isCaseIgnorable c = true
      · rw [if_pos hc, List.dropWhile_cons_of_pos hc, ih]
      · rw [if_neg hc, List.dropWhile_cons_of_neg hc]
        simp

/-- Behind a text there is a letter if the text has it, or if it leaves it to what follows. -/
theorem meetsCased_append_iff {s t : List Char} : meetsCased (s ++ t) = true ↔
    nearestCase? s = some true ∨ nearestCase? s = none ∧ meetsCased t = true := by
  rw [meetsCased_iff, meetsCased_iff, nearestCase?_append]
  cases nearestCase? s with
  | none => simp
  | some cased => simp

/-- Whether a capital sigma has its final form between two texts, the first of them reversed. -/
def isFinal (before after : List Char) : Bool := meetsCased before && !meetsCased after

theorem isFinal_append_iff {u v a b : List Char} : isFinal (u ++ a) (v ++ b) = true ↔
    (nearestCase? u = some true ∨ nearestCase? u = none ∧ meetsCased a = true) ∧
      nearestCase? v ≠ some true ∧ (nearestCase? v = none → meetsCased b = false) := by
  unfold isFinal
  rw [Bool.and_eq_true, Bool.not_eq_true', Bool.eq_false_iff, ne_eq, meetsCased_append_iff,
    meetsCased_append_iff, not_or, not_and, Bool.not_eq_true]

/-- What a capital sigma becomes. -/
def lowerSigma (before after : List Char) : Char := if isFinal before after then 'ς' else 'σ'

/-! ### Parts of texts -/

/-- The lower case of a text between two others, the first of them reversed. -/
def lowerBetween (before after : List Char) : List Char → List Char
  | [] => []
  | c :: s =>
    (if c == 'Σ' then [lowerSigma before (s ++ after)] else lowerChar c)
      ++ lowerBetween (c :: before) after s

theorem lowerAfter_append (before s t : List Char) : lowerAfter before (s ++ t)
    = lowerBetween before t s ++ lowerAfter (s.reverse ++ before) t := by
  induction s generalizing before with
  | nil => rfl
  | cons c s ih =>
      rw [List.cons_append, lowerAfter, ih, lowerBetween, List.append_assoc, List.reverse_cons,
        List.append_assoc]
      rfl

theorem lowerAfter_eq (before s : List Char) : lowerAfter before s = lowerBetween before [] s := by
  have happend := lowerAfter_append before s []
  rwa [List.append_nil, lowerAfter, List.append_nil] at happend

theorem lower_eq (s : List Char) : lower s = lowerBetween [] [] s := lowerAfter_eq [] s

/-- A text in lower case, seen as a part of it between two others. -/
theorem lower_append (s p t : List Char) : lower (s ++ p ++ t)
    = lowerBetween [] (p ++ t) s ++ lowerBetween s.reverse t p
      ++ lowerBetween (p.reverse ++ s.reverse) [] t := by
  rw [lower, List.append_assoc, lowerAfter_append, lowerAfter_append, lowerAfter_eq,
    List.append_nil, List.append_assoc]

theorem lowerBetween_sigma (before after u v : List Char) :
    lowerBetween before after (u ++ 'Σ' :: v) = lowerBetween before ('Σ' :: v ++ after) u ++
      lowerSigma (u.reverse ++ before) (v ++ after)
        :: lowerBetween ('Σ' :: (u.reverse ++ before)) after v := by
  induction u generalizing before with
  | nil => rfl
  | cons c u ih =>
      rw [List.cons_append, lowerBetween, ih, lowerBetween, List.append_assoc, List.append_assoc,
        List.reverse_cons, List.append_assoc, List.cons_append]
      rfl

section

variable {a a' b b' : List Char}

/-- Only the capital sigmas of a text look around. -/
theorem lowerBetween_congr {s : List Char} (h : ∀ u v, s = u ++ 'Σ' :: v →
    isFinal (u.reverse ++ a) (v ++ b) = isFinal (u.reverse ++ a') (v ++ b')) :
    lowerBetween a b s = lowerBetween a' b' s := by
  induction s generalizing a a' with
  | nil => rfl
  | cons c s ih =>
      have hrest : lowerBetween (c :: a) b s = lowerBetween (c :: a') b' s := by
        apply ih
        intro u v hs
        have huv := h (c :: u) v (by rw [hs]; rfl)
        rwa [List.reverse_cons, List.append_assoc, List.append_assoc] at huv
      rw [lowerBetween, lowerBetween, hrest]
      by_cases hc : c = 'Σ'
      · subst hc
        have hhead : isFinal a (s ++ b) = isFinal a' (s ++ b') := h [] s rfl
        rw [lowerSigma, lowerSigma, hhead]
      · rw [if_neg (by simpa using hc), if_neg (by simpa using hc)]

/-- It makes no difference what stands around a text, as long as letters are met as before. -/
theorem lowerBetween_congr_surroundings (s : List Char) (ha : meetsCased a = meetsCased a')
    (hb : meetsCased b = meetsCased b') : lowerBetween a b s = lowerBetween a' b' s := by
  have hsame : ∀ {t t' : List Char} (u : List Char), meetsCased t = meetsCased t' →
      meetsCased (u ++ t) = meetsCased (u ++ t') := by
    intro t t' u ht
    rw [Bool.eq_iff_iff, meetsCased_append_iff, meetsCased_append_iff, ht]
  apply lowerBetween_congr
  intro u v _
  rw [isFinal, isFinal, hsame u.reverse ha, hsame v hb]

end

/-! ### Open and closed texts -/

/-- Whether a capital sigma is final only because the text ends behind it. -/
def EndsInSigma (p : List Char) : Prop :=
  ∃ u v, p = u ++ 'Σ' :: v ∧ nearestCase? u.reverse = some true ∧ nearestCase? v = none

/-- Whether a capital sigma is not final only because the text starts with it. -/
def StartsWithSigma (p : List Char) : Prop :=
  ∃ u v, p = u ++ 'Σ' :: v ∧ nearestCase? u.reverse = none ∧ nearestCase? v ≠ some true

/-- What follows a text makes no difference to it unless it ends in a sigma. -/
theorem lowerBetween_of_not_ends {p : List Char} (hend : ¬ EndsInSigma p) (after : List Char) :
    lowerBetween [] after p = lower p := by
  rw [lower_eq]
  apply lowerBetween_congr
  intro u v hp
  rw [Bool.eq_iff_iff, isFinal_append_iff, isFinal_append_iff]
  cases hv : nearestCase? v with
  | some cased => simp
  | none =>
      have hu : nearestCase? u.reverse ≠ some true := fun hu => hend ⟨u, v, hp, hu, hv⟩
      have hnil : meetsCased [] = false := rfl
      simp [hu, hnil]

/-- Nothing around a text makes a difference to it unless there is a sigma at one of its ends. -/
theorem lowerBetween_of_closed {p : List Char} (hend : ¬ EndsInSigma p)
    (hstart : ¬ StartsWithSigma p) (before after : List Char) :
    lowerBetween before after p = lower p := by
  rw [← lowerBetween_of_not_ends hend after]
  apply lowerBetween_congr
  intro u v hp
  rw [Bool.eq_iff_iff, isFinal_append_iff, isFinal_append_iff]
  cases hu : nearestCase? u.reverse with
  | some cased => simp
  | none =>
      have hv : nearestCase? v = some true := by
        by_contra hv
        exact hstart ⟨u, v, hp, hu, hv⟩
      simp [hv]

theorem lower_prefix {p s : List Char} (hend : ¬ EndsInSigma p) (h : p <+: s) :
    lower p <+: lower s := by
  obtain ⟨t, rfl⟩ := h
  have happend := lowerAfter_append [] p t
  rw [lowerBetween_of_not_ends hend] at happend
  exact ⟨_, happend.symm⟩

theorem lower_infix {p s : List Char} (hend : ¬ EndsInSigma p) (hstart : ¬ StartsWithSigma p)
    (h : p <:+: s) : lower p <:+: lower s := by
  obtain ⟨before, after, rfl⟩ := h
  rw [lower_append, lowerBetween_of_closed hend hstart]
  exact ⟨_, _, rfl⟩

/-! ### The forms of sigma in open texts -/

section

variable {a a' b b' : List Char}

theorem meetsCased_append_mono (s : List Char) (h : meetsCased a = true → meetsCased a' = true) :
    meetsCased (s ++ a) = true → meetsCased (s ++ a') = true := by
  rw [meetsCased_append_iff, meetsCased_append_iff]
  exact Or.imp_right (And.imp_right h)

theorem isFinal_mono (u v : List Char) (ha : meetsCased a = true → meetsCased a' = true)
    (hb : meetsCased b' = true → meetsCased b = true) (h : isFinal (u ++ a) (v ++ b) = true) :
    isFinal (u ++ a') (v ++ b') = true := by
  unfold isFinal at h ⊢
  rw [Bool.and_eq_true, Bool.not_eq_true', Bool.eq_false_iff] at h ⊢
  exact ⟨meetsCased_append_mono u ha h.1, fun hv => h.2 (meetsCased_append_mono v hb hv)⟩

/-- With more letters before a text and fewer behind it, more of its sigmas are final. -/
theorem count_lowerBetween_le (s : List Char) (ha : meetsCased a = true → meetsCased a' = true)
    (hb : meetsCased b' = true → meetsCased b = true) :
    (lowerBetween a b s).count 'ς' ≤ (lowerBetween a' b' s).count 'ς' ∧
      (lowerBetween a' b' s).count 'σ' ≤ (lowerBetween a b s).count 'σ' := by
  induction s generalizing a a' with
  | nil => simp [lowerBetween]
  | cons c s ih =>
      have hrest := ih (meetsCased_append_mono [c] ha)
      simp only [List.singleton_append] at hrest
      simp only [lowerBetween, List.count_append]
      by_cases hc : (c == 'Σ') = true
      · rw [if_pos hc, if_pos hc]
        have hfinal := isFinal_mono [] s ha hb
        simp only [List.nil_append] at hfinal
        have hle : [lowerSigma a (s ++ b)].count 'ς' ≤ [lowerSigma a' (s ++ b')].count 'ς' ∧
            [lowerSigma a' (s ++ b')].count 'σ' ≤ [lowerSigma a (s ++ b)].count 'σ' := by
          unfold lowerSigma
          by_cases hold : isFinal a (s ++ b) = true
          · rw [if_pos hold, if_pos (hfinal hold)]
            exact ⟨Nat.le_refl _, Nat.le_refl _⟩
          · rw [if_neg hold]
            split <;> decide
        omega
      · rw [if_neg hc, if_neg hc]
        omega

/-- If one more of them is final, the forms do not come out even. -/
theorem count_lowerBetween_lt {s u v : List Char} (hs : s = u ++ 'Σ' :: v)
    (ha : meetsCased a = true → meetsCased a' = true)
    (hb : meetsCased b' = true → meetsCased b = true)
    (hold : isFinal (u.reverse ++ a) (v ++ b) = false)
    (hnew : isFinal (u.reverse ++ a') (v ++ b') = true) :
    (lowerBetween a b s).count 'ς' < (lowerBetween a' b' s).count 'ς' ∧
      (lowerBetween a' b' s).count 'σ' < (lowerBetween a b s).count 'σ' := by
  have hbefore := count_lowerBetween_le u ha (meetsCased_append_mono ('Σ' :: v) hb)
  have hafter := count_lowerBetween_le v
    (meetsCased_append_mono ['Σ'] (meetsCased_append_mono u.reverse ha)) hb
  have hsigma : lowerSigma (u.reverse ++ a) (v ++ b) = 'σ' ∧
      lowerSigma (u.reverse ++ a') (v ++ b') = 'ς' := by
    unfold lowerSigma
    rw [hold, hnew]
    exact ⟨rfl, rfl⟩
  rw [hs, lowerBetween_sigma, lowerBetween_sigma, hsigma.1, hsigma.2]
  simp only [List.singleton_append] at hafter
  simp only [List.count_append, List.count_cons]
  simp only [beq_self_eq_true, if_true, show ('σ' == 'ς') = false from rfl,
    show ('ς' == 'σ') = false from rfl, Bool.false_eq_true, if_false]
  omega

end

theorem meetsCased_a : meetsCased ['a'] = true := by decide +kernel

/-- Once a letter follows it, a text that ends in a sigma is not found in lower case. -/
theorem not_lower_infix_of_ends {p : List Char} (hend : EndsInSigma p) :
    ¬ lower p <:+: lower (p ++ ['a']) := by
  obtain ⟨u, v, hp, hu, hv⟩ := hend
  have hold : isFinal (u.reverse ++ []) (v ++ ['a']) = false := by
    rw [Bool.eq_false_iff, ne_eq, isFinal_append_iff]
    simp [hv, meetsCased_a]
  have hnew : isFinal (u.reverse ++ []) (v ++ []) = true := by
    rw [isFinal_append_iff, hu, hv]
    simp [meetsCased]
  have hcount := (count_lowerBetween_lt hp id (fun _ => meetsCased_a) hold hnew).1
  have hlower : lower (p ++ ['a']) = lowerBetween [] ['a'] p ++ ['a'] := lowerAfter_append [] p ['a']
  intro hinfix
  have hle := hinfix.sublist.count_le 'ς'
  rw [hlower, List.count_append, lower_eq] at hle
  have hnone : ['a'].count 'ς' = 0 := by decide
  omega

/-- Once a letter comes before it, a text that starts with a sigma is not found in lower case. -/
theorem not_lower_infix_of_starts {p : List Char} (hstart : StartsWithSigma p) :
    ¬ lower p <:+: lower ('a' :: p) := by
  obtain ⟨u, v, hp, hu, hv⟩ := hstart
  have hnil : meetsCased [] = false := rfl
  have hold : isFinal (u.reverse ++ []) (v ++ []) = false := by
    rw [Bool.eq_false_iff, ne_eq, isFinal_append_iff]
    simp [hu, hnil]
  have hnew : isFinal (u.reverse ++ ['a']) (v ++ []) = true := by
    rw [isFinal_append_iff, hu]
    simp [hv, hnil, meetsCased_a]
  have hcount := (count_lowerBetween_lt hp (fun _ => meetsCased_a) id hold hnew).2
  have hlower : lower ('a' :: p) = 'a' :: lowerBetween ['a'] [] p := by
    rw [← lowerAfter_eq]
    rfl
  intro hinfix
  have hle := hinfix.sublist.count_le 'σ'
  rw [hlower, List.count_cons_of_ne (by decide), lower_eq] at hle
  omega

/-! ### What stays a part -/

theorem not_endsInSigma {p : List Char} (h : 'Σ' ∉ p) : ¬ EndsInSigma p := by
  rintro ⟨u, v, rfl, -, -⟩
  exact h (by simp)

theorem not_startsWithSigma {p : List Char} (h : 'Σ' ∉ p) : ¬ StartsWithSigma p := by
  rintro ⟨u, v, rfl, -, -⟩
  exact h (by simp)

/-- What starts with a text starts with it in lower case, unless the text ends in a sigma. -/
theorem lower_prefix_iff {p : List Char} :
    (∀ s, p <+: s → lower p <+: lower s) ↔ ¬ EndsInSigma p := by
  constructor
  · intro h hend
    exact not_lower_infix_of_ends hend (h _ (List.prefix_append p ['a'])).isInfix
  · intro hend s hs
    exact lower_prefix hend hs

/-- What a text is a part of it is a part of in lower case, unless there is a sigma at one of its
ends. -/
theorem lower_infix_iff {p : List Char} :
    (∀ s, p <:+: s → lower p <:+: lower s) ↔ ¬ EndsInSigma p ∧ ¬ StartsWithSigma p := by
  constructor
  · intro h
    constructor
    · intro hend
      exact not_lower_infix_of_ends hend (h _ (List.prefix_append p ['a']).isInfix)
    · intro hstart
      exact not_lower_infix_of_starts hstart (h _ (List.suffix_cons 'a' p).isInfix)
  · rintro ⟨hend, hstart⟩ s hs
    exact lower_infix hend hstart hs

end DeviceLint.Text
