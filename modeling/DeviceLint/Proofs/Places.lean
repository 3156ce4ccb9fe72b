/-
Where the words of a text stand.

A text is blank, or it begins with a word, after some blanks, and goes on with a text that
does not begin in the middle of that word.  This is what the induction is on here.  The words
of the text are this first word and the words of the rest, and word number `n + 1` stands in
the text where word number `n` stands in the rest.  A text that is cut before a word is cut
just there, and so is a command before its delimiter.
-/
import DeviceLint.Layout.Line
import DeviceLint.Proofs.Text

namespace DeviceLint

namespace Text

/-! ### The first word -/

/-- A word with the blanks before it and the rest of the text after it. -/
structure FirstWord (gap w rest : List Char) : Prop where
  gap_blank : ∀ c ∈ gap, isBlank c = true
  word : IsWord w
  ended : ∀ c ∈ rest.head?, isBlank c = true

variable {gap w rest : List Char}

theorem takeWhile_append_eq {p : Char → Bool} {run : List Char} (hrun : ∀ c ∈ run, p c = true)
    (hrest : ∀ c ∈ rest.head?, p c = false) : (run ++ rest).takeWhile p = run := by
  rw [List.takeWhile_append_of_pos hrun]
  cases rest with
  | nil => simp
  | cons c rest => simp [hrest c rfl]

theorem dropWhile_append_eq {p : Char → Bool} {run : List Char} (hrun : ∀ c ∈ run, p c = true)
    (hrest : ∀ c ∈ rest.head?, p c = false) : (run ++ rest).dropWhile p = rest := by
  rw [List.dropWhile_append_of_pos hrun, dropWhile_eq_self hrest]

namespace FirstWord

theorem takeWhile_gap (h : FirstWord gap w rest) : (gap ++ (w ++ rest)).takeWhile isBlank = gap := by
  refine takeWhile_append_eq h.gap_blank ?_
  rw [List.head?_append_of_ne_nil _ h.word.1]
  exact h.word.trimmed.head

theorem dropWhile_gap (h : FirstWord gap w rest) :
    (gap ++ (w ++ rest)).dropWhile isBlank = w ++ rest := by
  refine dropWhile_append_eq h.gap_blank ?_
  rw [List.head?_append_of_ne_nil _ h.word.1]
  exact h.word.trimmed.head

theorem takeWhile_word (h : FirstWord gap w rest) :
    (w ++ rest).takeWhile (fun c => !isBlank c) = w :=
  takeWhile_append_eq (fun c hc => by simp [h.word.2 c hc]) fun c hc => by simp [h.ended c hc]

theorem dropWhile_word (h : FirstWord gap w rest) :
    (w ++ rest).dropWhile (fun c => !isBlank c) = rest :=
  dropWhile_append_eq (fun c hc => by simp [h.word.2 c hc]) fun c hc => by simp [h.ended c hc]

theorem words_eq (h : FirstWord gap w rest) : words (gap ++ w ++ rest) = w :: words rest := by
  obtain ⟨hgap, hw, hended⟩ := h
  induction gap with
  | nil =>
      rw [List.nil_append]
      cases rest with
      | nil => rw [List.append_nil, hw.words_eq]; rfl
      | cons c rest =>
          have hc := hended c rfl
          rw [hw.words_append hc, words_cons_of_blank hc]
  | cons c gap ih =>
      rw [List.forall_mem_cons] at hgap
      rw [List.cons_append, List.cons_append, words_cons_of_blank hgap.1, ih hgap.2]

end FirstWord

/-- A text that is not blank begins with a word. -/
theorem exists_firstWord {s : List Char} (h : ¬ ∀ c ∈ s, isBlank c = true) :
    ∃ gap w rest, s = gap ++ w ++ rest ∧ FirstWord gap w rest := by
  obtain ⟨gap, hgap, hs⟩ := exists_append_trimStart s
  cases htail : trimStart s with
  | nil =>
      rw [htail, List.append_nil] at hs
      exact absurd (hs ▸ hgap) h
  | cons c tail =>
      have hc : isBlank c = false := by
        have hhead := List.head?_dropWhile_not isBlank s
        rw [← trimStart, htail] at hhead
        exact hhead
      refine ⟨gap, c :: tail.takeWhile fun c => !isBlank c, tail.dropWhile fun c => !isBlank c,
        ?_, hgap, ⟨List.cons_ne_nil _ _, ?_⟩, ?_⟩
      · rw [List.append_assoc, List.cons_append, List.takeWhile_append_dropWhile, ← htail, ← hs]
      · rw [List.forall_mem_cons]
        exact ⟨hc, fun d hd => by simpa using List.mem_takeWhile_imp hd⟩
      · intro d hd
        have hhead := List.head?_dropWhile_not (fun c => !isBlank c) tail
        rw [hd] at hhead
        simpa using hhead

/-- A text is gone through word by word. -/
theorem word_induction {motive : List Char → Prop}
    (blank : ∀ s, (∀ c ∈ s, isBlank c = true) → motive s)
    (word : ∀ gap w rest, FirstWord gap w rest → motive rest → motive (gap ++ w ++ rest))
    (s : List Char) : motive s := by
  induction h : s.length using Nat.strong_induction_on generalizing s with
  | _ n ih =>
      by_cases hblank : ∀ c ∈ s, isBlank c = true
      · exact blank s hblank
      · obtain ⟨gap, w, rest, rfl, hfirst⟩ := exists_firstWord hblank
        have hpos := List.length_pos_iff.mpr hfirst.word.1
        rw [List.length_append, List.length_append] at h
        exact word gap w rest hfirst (ih rest.length (by omega) rest rfl)

/-! ### Word number `n` -/

/-- Word number `n` of a text, between what is before it and after it. -/
structure Stands (n : Nat) (s before w after : List Char) : Prop where
  text : s = before ++ w ++ after
  words_eq : words s = words before ++ w :: words after
  count : (words before).length = n
  begun : ∀ c ∈ before.getLast?, isBlank c = true
  ended : ∀ c ∈ after.head?, isBlank c = true

variable {n : Nat} {s before after : List Char}

namespace Stands

theorem isWord (h : Stands n s before w after) : IsWord w :=
  isWord_of_mem_words s w (by simp [h.words_eq])

theorem takeWhile_word (h : Stands n s before w after) :
    (w ++ after).takeWhile (fun c => !isBlank c) = w := by
  have hfirst : FirstWord [] w after := ⟨by simp, h.isWord, h.ended⟩
  exact hfirst.takeWhile_word

theorem getElem? (h : Stands n s before w after) : (words s)[n]? = some w := by
  rw [h.words_eq, List.getElem?_append_right (Nat.le_of_eq h.count), h.count, Nat.sub_self,
    List.getElem?_cons_zero]

theorem first (h : FirstWord gap w rest) : Stands 0 (gap ++ w ++ rest) gap w rest where
  text := rfl
  words_eq := by rw [h.words_eq, words_eq_nil_iff.mpr h.gap_blank, List.nil_append]
  count := by rw [words_eq_nil_iff.mpr h.gap_blank, List.length_nil]
  begun := fun c hc => h.gap_blank c (List.mem_of_getLast? hc)
  ended := h.ended

theorem next {v : List Char} (h : Stands n rest before v after) (hfirst : FirstWord gap w rest) :
    Stands (n + 1) (gap ++ w ++ rest) (gap ++ w ++ before) v after := by
  -- The first word is over where the rest begins, so there is a blank before the other.
  obtain ⟨b, before, rfl⟩ : ∃ b bs, before = b :: bs := by
    refine List.exists_cons_of_ne_nil fun hnil => ?_
    obtain ⟨c, v, rfl⟩ := List.exists_cons_of_ne_nil h.isWord.1
    have hblank := hfirst.ended c (by simp [h.text, hnil])
    exact absurd hblank (by simp [h.isWord.2 c List.mem_cons_self])
  have hbefore : FirstWord gap w (b :: before) := by
    refine ⟨hfirst.gap_blank, hfirst.word, fun c hc => hfirst.ended c ?_⟩
    rw [h.text]
    exact hc
  refine ⟨?_, ?_, ?_, ?_, h.ended⟩
  · rw [h.text]
    simp only [List.append_assoc]
  · rw [hfirst.words_eq, hbefore.words_eq, h.words_eq, List.cons_append]
  · rw [hbefore.words_eq, List.length_cons, h.count]
  · rw [List.getLast?_append_of_ne_nil _ (List.cons_ne_nil b before)]
    exact h.begun

end Stands

end Text

/-! ### Cutting before a word -/

namespace LogicalLine

open Text

variable {n : Nat} {s before gap w rest tail : List Char}

theorem cutAtWord?_blank (h : ∀ c ∈ s, isBlank c = true) (n : Nat) : cutAtWord? n s = none := by
  cases n <;> simp [cutAtWord?, List.dropWhile_eq_nil_iff.mpr h]

theorem cutAtWord?_first (h : FirstWord gap w rest) :
    cutAtWord? 0 (gap ++ w ++ rest) = some (gap, w ++ rest) := by
  simp [cutAtWord?, h.takeWhile_gap, h.dropWhile_gap, h.word.1]

theorem cutAtWord?_next (h : FirstWord gap w rest) (n : Nat) :
    cutAtWord? (n + 1) (gap ++ w ++ rest)
      = (cutAtWord? n rest).map fun (before, tail) => (gap ++ w ++ before, tail) := by
  simp [cutAtWord?, h.takeWhile_gap, h.dropWhile_gap, h.takeWhile_word, h.dropWhile_word,
    h.word.1]

/-- A text is not cut before a word only if it does not have so many. -/
theorem cutAtWord?_eq_none_iff : cutAtWord? n s = none ↔ (words s).length ≤ n := by
  induction s using word_induction generalizing n with
  | blank s hs => simp [cutAtWord?_blank hs, words_eq_nil_iff.mpr hs]
  | word gap w rest h ih =>
      rw [h.words_eq, List.length_cons]
      cases n with
      | zero =>
          rw [cutAtWord?_first h]
          simp
      | succ n => rw [cutAtWord?_next h, Option.map_eq_none_iff, ih, Nat.succ_le_succ_iff]

/-- A text is cut where the word stands. -/
theorem exists_stands (h : cutAtWord? n s = some (before, tail)) :
    ∃ w after, tail = w ++ after ∧ Stands n s before w after := by
  induction s using word_induction generalizing n before with
  | blank s hs => simp [cutAtWord?_blank hs] at h
  | word gap w rest hfirst ih =>
      cases n with
      | zero =>
          rw [cutAtWord?_first hfirst] at h
          obtain ⟨rfl, rfl⟩ := Prod.mk.inj (Option.some.inj h)
          exact ⟨w, rest, rfl, .first hfirst⟩
      | succ n =>
          rw [cutAtWord?_next hfirst] at h
          obtain ⟨⟨before', tail'⟩, hcut, heq⟩ := Option.map_eq_some_iff.mp h
          obtain ⟨rfl, rfl⟩ := Prod.mk.inj heq
          obtain ⟨v, after, htail, hstands⟩ := ih hcut
          exact ⟨v, after, htail, hstands.next hfirst⟩

/-! ### Delimiters -/

theorem prefix_delimiterOf (w : List Char) : delimiterOf w <+: w := by
  unfold delimiterOf
  split
  · exact List.take_prefix 2 _
  · exact List.take_prefix 1 _

theorem isWord_delimiterOf (h : IsWord w) : IsWord (delimiterOf w) := by
  refine ⟨?_, fun c hc => h.2 c ((prefix_delimiterOf w).subset hc)⟩
  obtain ⟨c, w, rfl⟩ := List.exists_cons_of_ne_nil h.1
  unfold delimiterOf
  split <;> simp

/-- A delimited command is what is before its delimiter, the delimiter and what is after it. -/
theorem delimiter?_text {schema : Schema} {delimiter after : List Char}
    (h : delimiter? schema s = some (before, delimiter, after)) :
    s = before ++ delimiter ++ after ∧ IsWord delimiter := by
  simp only [delimiter?, Option.bind_eq_bind, Option.bind_eq_some_iff, Option.pure_def,
    Option.some.injEq, Prod.mk.injEq] at h
  obtain ⟨command, -, ⟨before, tail⟩, hcut, rfl, rfl, rfl⟩ := h
  obtain ⟨w, after, rfl, hstands⟩ := exists_stands hcut
  have hstart : delimiterOf w <+: w ++ after :=
    (prefix_delimiterOf w).trans (List.prefix_append w after)
  rw [hstands.takeWhile_word]
  refine ⟨?_, isWord_delimiterOf hstands.isWord⟩
  rw [List.append_assoc, List.prefix_iff_eq_append.mp hstart, ← List.append_assoc]
  exact hstands.text

end LogicalLine

end DeviceLint
