/-
Texts in lower case.

A text in lower case stays as it is.  For single characters this is a property of the table: what
one run lands on is taken up by no other run, either because they lie apart or because both go by
twos and one is even where the other one is odd.  The only character for which its surroundings
count is the capital sigma, and none is left.

The case of ASCII letters makes no difference to what a text is in lower case, not even to the
sigmas between them.  Of their surroundings sigmas only notice what has case and what is passed
over, and in that two letters that differ in case are alike.
-/
import DeviceLint.Text.Ascii
import DeviceLint.Text.Case

namespace DeviceLint

namespace Text

namespace CaseTable

/-! ### The table -/

/-- Whether one run lands nowhere that another one starts from. -/
def Run.avoids (r r' : Run) : Bool :=
  Nat.blt r'.last r.image || Nat.blt (r.image + (r.last - r.first)) r'.first ||
    (r.stride == 2 || r.first == r.last) && r'.stride == 2 && (r.image + r'.first) % 2 == 1

theorem Run.image?_eq_some_iff {r : Run} {n m : Nat} :
    r.image? n = some m ↔ (r.first ≤ n ∧ n ≤ r.last ∧ (n - r.first) % r.stride = 0) ∧
      r.image + (n - r.first) = m := by
  simp [image?, and_assoc]

theorem Run.image?_eq_none_of_avoids {r r' : Run} (h : r.avoids r' = true) {n m : Nat}
    (hm : r.image? n = some m) : r'.image? m = none := by
  obtain ⟨⟨hfirst, hlast, hstride⟩, rfl⟩ := Run.image?_eq_some_iff.mp hm
  rw [Option.eq_none_iff_forall_ne_some]
  intro k hk
  obtain ⟨⟨hfirst', hlast', hstride'⟩, -⟩ := Run.image?_eq_some_iff.mp hk
  simp only [avoids, Bool.or_eq_true, Bool.and_eq_true, Nat.blt_eq, beq_iff_eq] at h
  rcases h with (h | h) | ⟨⟨hr, hr'⟩, hodd⟩
  · omega
  · omega
  · -- What the first run lands on is as even or odd as where it begins to.
    rw [hr'] at hstride'
    rcases hr with hr | hr
    · rw [hr] at hstride
      omega
    · omega

theorem lower_avoids : ∀ r ∈ lower, lower.all r.avoids = true := by decide +kernel

/-- No run lands on the one letter whose lower case has two characters. -/
theorem lower_avoids_dotted : ∀ r ∈ lower, r.avoids ⟨0x130, 0x130, 1, 0⟩ = true := by
  decide +kernel

theorem lower_valid : ∀ r ∈ lower, r.image + (r.last - r.first) < 0xD800 ∨
    0xDFFF < r.image ∧ r.image + (r.last - r.first) < 0x110000 := by decide +kernel

/-- The small ASCII letters are the first code points that runs land on. -/
theorem le_image_lower : ∀ r ∈ lower, 0x61 ≤ r.image := by decide +kernel

theorem image_cases (runs : List Run) (n : Nat) :
    (image runs n = n ∧ ∀ r ∈ runs, r.image? n = none) ∨
      ∃ r ∈ runs, r.image? n = some (image runs n) := by
  unfold image
  cases hfind : runs.findSome? (·.image? n) with
  | none => exact .inl ⟨rfl, List.findSome?_eq_none_iff.mp hfind⟩
  | some m =>
      obtain ⟨r, hr, hm⟩ := List.exists_of_findSome?_eq_some hfind
      exact .inr ⟨r, hr, hm⟩

theorem image_image (n : Nat) : image lower (image lower n) = image lower n := by
  rcases image_cases lower n with ⟨hsame, -⟩ | ⟨r, hr, hm⟩
  · rw [hsame]
    exact hsame
  · have hnone : lower.findSome? (·.image? (image lower n)) = none := by
      rw [List.findSome?_eq_none_iff]
      intro r' hr'
      exact Run.image?_eq_none_of_avoids (List.all_eq_true.mp (lower_avoids r hr) r' hr') hm
    rw [image, hnone]
    rfl

theorem image_ne_dotted {n : Nat} (hn : n ≠ 0x130) : image lower n ≠ 0x130 := by
  rcases image_cases lower n with ⟨hsame, -⟩ | ⟨r, hr, hm⟩
  · rwa [hsame]
  · intro hdotted
    rw [hdotted] at hm
    have hnone := Run.image?_eq_none_of_avoids (lower_avoids_dotted r hr) hm
    cases hnone

theorem isValidChar_image {n : Nat} (hn : n.isValidChar) : (image lower n).isValidChar := by
  rcases image_cases lower n with ⟨hsame, -⟩ | ⟨r, hr, hm⟩
  · rwa [hsame]
  · obtain ⟨⟨hfirst, hlast, -⟩, hm⟩ := Run.image?_eq_some_iff.mp hm
    have hvalid := lower_valid r hr
    unfold Nat.isValidChar
    omega

/-- Below the small letters there are only characters that are their own image. -/
theorem eq_of_image_lt {n : Nat} (h : image lower n < 0x61) : image lower n = n := by
  rcases image_cases lower n with ⟨hsame, -⟩ | ⟨r, hr, hm⟩
  · exact hsame
  · obtain ⟨-, hm⟩ := Run.image?_eq_some_iff.mp hm
    have hle := le_image_lower r hr
    omega

/-- Only the first run takes up ASCII characters. -/
theorem image_ascii {n : Nat} (hn : n < 0x80) : image lower n = image (lower.take 1) n := by
  have hrest : ∀ r ∈ lower.drop 1, 0x80 ≤ r.first := by decide +kernel
  have hnone : (lower.drop 1).findSome? (·.image? n) = none := by
    rw [List.findSome?_eq_none_iff]
    intro r hr
    rw [Option.eq_none_iff_forall_ne_some]
    intro m hm
    obtain ⟨⟨hfirst, -⟩, -⟩ := Run.image?_eq_some_iff.mp hm
    have hle := hrest r hr
    omega
  rw [image, image, ← List.take_append_drop 1 lower, List.findSome?_append, hnone, Option.or_none]
  rfl

end CaseTable

/-! ### Single characters -/

open CaseTable (image)

/-- What holds of all code points below `0x80` holds of all ASCII characters. -/
theorem ascii_induction {p : Char → Prop} (h : ∀ n < 0x80, p (Char.ofNat n)) {c : Char}
    (hc : c.toNat < 0x80) : p c := by
  rw [← Char.ofNat_toNat c]
  exact h c.toNat hc

/-- All letters but one go by the table. -/
theorem lowerChar_eq {c : Char} (hc : c.toNat ≠ 0x130) :
    lowerChar c = [Char.ofNat (image CaseTable.lower c.toNat)] := by
  unfold lowerChar
  split
  · rename_i hascii
    have htable : ∀ n < 0x80, (Char.ofNat n).toLower
        = Char.ofNat (image (CaseTable.lower.take 1) (Char.ofNat n).toNat) := by decide +kernel
    rw [CaseTable.image_ascii hascii]
    exact congrArg (fun d => [d])
      (ascii_induction (p := fun c => c.toLower = Char.ofNat (image _ c.toNat)) htable hascii)
  · rw [if_neg (by simpa using hc)]

theorem toNat_image (c : Char) :
    (Char.ofNat (image CaseTable.lower c.toNat)).toNat = image CaseTable.lower c.toNat := by
  have hvalid : (image CaseTable.lower c.toNat).isValidChar := CaseTable.isValidChar_image c.valid
  rw [Char.ofNat, dif_pos hvalid]
  rfl

theorem toNat_of_mem_lowerChar {c d : Char} (hc : c.toNat ≠ 0x130) (hd : d ∈ lowerChar c) :
    d.toNat = image CaseTable.lower c.toNat := by
  rw [lowerChar_eq hc, List.mem_singleton] at hd
  rw [hd, toNat_image]

/-- Whether a character stays as it is, whatever stands around it. -/
def IsSettled (c : Char) : Prop := c ≠ 'Σ' ∧ lowerChar c = [c]

instance (c : Char) : Decidable (IsSettled c) := inferInstanceAs (Decidable (_ ∧ _))

theorem isSettled_of_mem_lowerChar {c d : Char} (hd : d ∈ lowerChar c) : IsSettled d := by
  by_cases hdotted : c.toNat = 0x130
  · have heq : c = 'İ' := Char.toNat_inj.mp hdotted
    have hall : (lowerChar 'İ').all (fun d => decide (IsSettled d)) = true := by decide +kernel
    exact of_decide_eq_true (List.all_eq_true.mp hall d (heq ▸ hd))
  · have hnat := toNat_of_mem_lowerChar hdotted hd
    have himage : image CaseTable.lower d.toNat = d.toNat := by
      rw [hnat, CaseTable.image_image]
    refine ⟨?_, ?_⟩
    · rintro rfl
      exact absurd himage (by decide +kernel)
    · have hne : d.toNat ≠ 0x130 := hnat ▸ CaseTable.image_ne_dotted hdotted
      rw [lowerChar_eq hne, himage, Char.ofNat_toNat]

theorem eq_of_mem_lowerChar {c d : Char} (hd : d ∈ lowerChar c) (hlt : d.toNat < 0x61) : d = c := by
  by_cases hdotted : c.toNat = 0x130
  · have heq : c = 'İ' := Char.toNat_inj.mp hdotted
    have hall : (lowerChar 'İ').all (0x61 ≤ ·.toNat) = true := by decide +kernel
    exact absurd hlt (Nat.not_lt.mpr (of_decide_eq_true (List.all_eq_true.mp hall d (heq ▸ hd))))
  · have hnat := toNat_of_mem_lowerChar hdotted hd
    rw [hnat] at hlt
    rw [← Char.toNat_inj, hnat, CaseTable.eq_of_image_lt hlt]

/-! ### Texts -/

theorem isSettled_of_mem_lowerAfter {before s : List Char} {d : Char}
    (hd : d ∈ lowerAfter before s) : IsSettled d := by
  induction s generalizing before with
  | nil => cases hd
  | cons c s ih =>
      rw [lowerAfter] at hd
      rcases List.mem_append.mp hd with hd | hd
      · split at hd
        · split at hd
          · rw [List.mem_singleton.mp hd]
            decide +kernel
          · rw [List.mem_singleton.mp hd]
            decide +kernel
        · exact isSettled_of_mem_lowerChar hd
      · exact ih hd

theorem lowerAfter_of_isSettled (before : List Char) {s : List Char} (h : ∀ c ∈ s, IsSettled c) :
    lowerAfter before s = s := by
  induction s generalizing before with
  | nil => rfl
  | cons c s ih =>
      obtain ⟨⟨hsigma, hc⟩, hs⟩ := List.forall_mem_cons.mp h
      rw [lowerAfter, if_neg (by simpa using hsigma), hc, ih _ hs]
      rfl

theorem lower_lower (s : List Char) : lower (lower s) = lower s :=
  lowerAfter_of_isSettled [] fun _ hc => isSettled_of_mem_lowerAfter hc

/-- Below the small letters there is nothing in lower case that was not there before. -/
theorem mem_of_mem_lowerAfter {c : Char} (hlt : c.toNat < 0x61) {before s : List Char}
    (h : c ∈ lowerAfter before s) : c ∈ s := by
  induction s generalizing before with
  | nil => cases h
  | cons d s ih =>
      rw [lowerAfter] at h
      rcases List.mem_append.mp h with h | h
      · split at h
        · rw [List.mem_singleton.mp h] at hlt
          split at hlt <;> exact absurd hlt (by decide)
        · rw [eq_of_mem_lowerChar h hlt]
          exact List.mem_cons_self
      · exact List.mem_cons_of_mem d (ih h)

/-! ### The case of ASCII letters -/

/-- What is the same for an ASCII letter in either case is the same for all characters when the
case of ASCII letters is left aside. -/
theorem apply_toLower {α : Type} {f : Char → α}
    (h : ∀ n < 0x80, f (Char.ofNat n).toLower = f (Char.ofNat n)) (c : Char) :
    f c.toLower = f c := by
  by_cases hc : c.toNat < 0x80
  · exact ascii_induction (p := fun c => f c.toLower = f c) h hc
  · have hupper : ¬ (c.val ≥ 'A'.val ∧ c.val ≤ 'Z'.val) := by
      rintro ⟨-, hle⟩
      exact hc (Nat.lt_of_le_of_lt (UInt32.le_iff_toNat_le.mp hle) (by decide))
    rw [show c.toLower = c from dif_neg hupper]

/-- What is no letter is in a text in either case or in neither. -/
theorem mem_map_toLower_iff {c : Char} (hc : ∀ n < 0x80, ((Char.ofNat n).toLower == c)
    = (Char.ofNat n == c)) {s : List Char} : c ∈ s.map Char.toLower ↔ c ∈ s := by
  have hchar : ∀ d : Char, d.toLower = c ↔ d = c := by
    intro d
    rw [← beq_iff_eq, apply_toLower (f := (· == c)) hc, beq_iff_eq]
  simp [hchar]

theorem isCaseIgnorable_toLower (c : Char) : isCaseIgnorable c.toLower = isCaseIgnorable c :=
  apply_toLower (by decide +kernel) c

theorem isCased_toLower (c : Char) : isCased c.toLower = isCased c :=
  apply_toLower (by decide +kernel) c

theorem lowerChar_toLower (c : Char) : lowerChar c.toLower = lowerChar c :=
  apply_toLower (by decide +kernel) c

theorem beq_sigma_toLower (c : Char) : (c.toLower == 'Σ') = (c == 'Σ') :=
  apply_toLower (f := (· == 'Σ')) (by decide +kernel) c

theorem meetsCased_map_toLower (s : List Char) :
    meetsCased (s.map Char.toLower) = meetsCased s := by
  have hignorable : isCaseIgnorable ∘ Char.toLower = isCaseIgnorable :=
    funext isCaseIgnorable_toLower
  rw [meetsCased, meetsCased, List.dropWhile_map, hignorable]
  cases s.dropWhile isCaseIgnorable with
  | nil => rfl
  | cons c s => exact isCased_toLower c

theorem lowerAfter_map_toLower (before s : List Char) :
    lowerAfter (before.map Char.toLower) (s.map Char.toLower) = lowerAfter before s := by
  induction s generalizing before with
  | nil => rfl
  | cons c s ih =>
      rw [List.map_cons, lowerAfter, lowerAfter, ← List.map_cons, ih, beq_sigma_toLower,
        lowerChar_toLower, meetsCased_map_toLower, meetsCased_map_toLower]

theorem lower_congr {s t : List Char} (h : s.map Char.toLower = t.map Char.toLower) :
    lower s = lower t := by
  rw [lower, ← lowerAfter_map_toLower [] s, h, lowerAfter_map_toLower [] t, lower]

end Text

/-! ### Strings -/

@[simp] theorem lowerCase_lowerCase (s : String) : lowerCase (lowerCase s) = lowerCase s := by
  rw [lowerCase, lowerCase, String.toList_ofList, Text.lower_lower]

theorem lowerCase_congr {s t : String} (h : sameWord s t = true) : lowerCase s = lowerCase t := by
  rw [lowerCase, lowerCase, Text.lower_congr (beq_iff_eq.mp h)]

theorem not_mem_lowerCase {c : Char} (hc : c.toNat < 0x61) {s : String} (h : c ∉ s.toList) :
    c ∉ (lowerCase s).toList := by
  rw [lowerCase, String.toList_ofList]
  exact fun hmem => h (Text.mem_of_mem_lowerAfter hc hmem)

/-- What is no letter is in both of two words that only differ in case, or in neither. -/
theorem not_mem_of_sameWord {c : Char} (hc : ∀ n < 0x80, ((Char.ofNat n).toLower == c)
    = (Char.ofNat n == c)) {s t : String} (h : sameWord s t = true) (hs : c ∉ s.toList) :
    c ∉ t.toList := by
  rw [← Text.mem_map_toLower_iff hc] at hs ⊢
  exact beq_iff_eq.mp h ▸ hs

end DeviceLint
