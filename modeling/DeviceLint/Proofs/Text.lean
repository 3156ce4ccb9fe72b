/-
Words, blanks and lines of texts.

A text is looked at in three ways: as words with blanks between them, as something between
blanks at its ends, and as lines.  Here is what each of these makes of a text that is put
together from others: single spaces between words, blanks around a text, lines written down
one after the other, a character before a text.  At the end are names, which are texts as a
whole and are put in order.
-/
import DeviceLint.Text.Ascii
import DeviceLint.Text.Blank
import DeviceLint.Text.Find
import DeviceLint.Text.Lines
import Mathlib.Data.List.Basic
import Mathlib.Data.List.TakeWhile

namespace DeviceLint.Text

/-! ### Words -/

/-- A word is not empty, and there is no blank in it. -/
def IsWord (w : List Char) : Prop := w ≠ [] ∧ ∀ c ∈ w, isBlank c = false

theorem IsWord.cons {c : Char} {w : List Char} (hc : isBlank c = false) (hw : IsWord w) :
    IsWord (c :: w) :=
  ⟨List.cons_ne_nil c w, List.forall_mem_cons.mpr ⟨hc, hw.2⟩⟩

theorem isWord_singleton {c : Char} (hc : isBlank c = false) : IsWord [c] :=
  ⟨List.cons_ne_nil c [], by simpa using hc⟩

theorem isWord_of_mem_words (s : List Char) : ∀ w ∈ words s, IsWord w := by
  induction s using words.induct with
  | case1 => simp [words]
  | case2 c hc => simp [words, hc]
  | case3 c hc =>
      have hc : isBlank c = false := by simpa using hc
      simpa [words, hc] using isWord_singleton hc
  | case4 c d s hc ih => simpa [words, hc] using ih
  | case5 c d s hc hd ih =>
      have hc : isBlank c = false := by simpa using hc
      rw [words, if_neg (by simp [hc]), if_pos hd, List.forall_mem_cons]
      exact ⟨isWord_singleton hc, ih⟩
  | case6 c d s hc hd hwords ih =>
      have hc : isBlank c = false := by simpa using hc
      rw [words, if_neg (by simp [hc]), if_neg hd, hwords]
      simpa using isWord_singleton hc
  | case7 c d s hc hd w ws hwords ih =>
      have hc : isBlank c = false := by simpa using hc
      rw [hwords, List.forall_mem_cons] at ih
      rw [words, if_neg (by simp [hc]), if_neg hd, hwords, List.forall_mem_cons]
      exact ⟨ih.1.cons hc, ih.2⟩

/-- A text without words is blank. -/
theorem blank_of_words_eq_nil {s : List Char} (h : words s = []) : ∀ c ∈ s, isBlank c = true := by
  induction s using words.induct with
  | case1 => simp
  | case2 c hc => simpa using hc
  | case3 c hc => simp [words, hc] at h
  | case4 c d s hc ih =>
      rw [words, if_pos hc] at h
      exact List.forall_mem_cons.mpr ⟨hc, ih h⟩
  | case5 c d s hc hd ih => simp [words, hc, hd] at h
  | case6 c d s hc hd hwords ih => simp [words, hc, hd, hwords] at h
  | case7 c d s hc hd w ws hwords ih => simp [words, hc, hd, hwords] at h

theorem eqIgnoreAsciiCase_iff {s t : List Char} :
    eqIgnoreAsciiCase s t = true ↔ s.map Char.toLower = t.map Char.toLower := by
  rw [eqIgnoreAsciiCase, beq_iff_eq]

/-! ### Single spaces -/

theorem unwords_nil : unwords [] = [] := rfl

theorem unwords_singleton (w : List Char) : unwords [w] = w := by
  simp [unwords, List.intercalate]

theorem unwords_cons_cons (w v : List Char) (ws : List (List Char)) :
    unwords (w :: v :: ws) = w ++ ' ' :: unwords (v :: ws) := by
  simp [unwords, List.intercalate]

/-- A text without blanks at its ends. -/
structure Trimmed (s : List Char) : Prop where
  head : ∀ c ∈ s.head?, isBlank c = false
  last : ∀ c ∈ s.getLast?, isBlank c = false

theorem IsWord.trimmed {w : List Char} (h : IsWord w) : Trimmed w :=
  ⟨fun c hc => h.2 c (List.mem_of_head? hc), fun c hc => h.2 c (List.mem_of_getLast? hc)⟩

theorem IsWord.getLast?_append {w : List Char} (h : IsWord w) (s : List Char) :
    ∀ c ∈ (s ++ w).getLast?, isBlank c = false := by
  rw [List.getLast?_append_of_ne_nil _ h.1]
  exact h.trimmed.last

/-- A text ends in a word as what follows its last blank does. -/
theorem IsWord.suffix_of_suffix_append {w s t : List Char} {c : Char} (h : IsWord w)
    (hc : isBlank c = true) (hsuffix : w <:+ s ++ c :: t) : w <:+ t := by
  rcases List.suffix_or_suffix_of_suffix hsuffix (List.suffix_append s (c :: t)) with hw | hw
  · rcases List.suffix_cons_iff.mp hw with rfl | hw
    · exact absurd hc (by simp [h.2 c List.mem_cons_self])
    · exact hw
  · exact absurd hc (by simp [h.2 c (hw.subset List.mem_cons_self)])

theorem IsWord.suffix_blanks_append_iff {w blanks : List Char} (hw : IsWord w)
    (h : ∀ c ∈ blanks, isBlank c = true) (s : List Char) : w <:+ blanks ++ s ↔ w <:+ s := by
  refine ⟨fun hsuffix => ?_, fun hsuffix => hsuffix.trans (List.suffix_append blanks s)⟩
  rcases List.eq_nil_or_concat' blanks with rfl | ⟨front, c, rfl⟩
  · exact hsuffix
  · rw [List.append_assoc] at hsuffix
    exact hw.suffix_of_suffix_append (h c (by simp)) hsuffix

theorem IsWord.infix_blanks_append_iff {w blanks : List Char} (hw : IsWord w)
    (h : ∀ c ∈ blanks, isBlank c = true) (s : List Char) : w <:+: blanks ++ s ↔ w <:+: s := by
  induction blanks with
  | nil => rfl
  | cons c blanks ih =>
      rw [List.forall_mem_cons] at h
      have hhead : ¬ w <+: c :: (blanks ++ s) := by
        intro hprefix
        obtain ⟨d, w, rfl⟩ := List.exists_cons_of_ne_nil hw.1
        obtain rfl : d = c := (List.cons_prefix_cons.mp hprefix).1
        exact absurd h.1 (by simp [hw.2 d List.mem_cons_self])
      rw [List.cons_append, List.infix_cons_iff, ih h.2, or_iff_right hhead]

theorem unwords_ne_nil {w : List Char} (h : IsWord w) (ws : List (List Char)) :
    unwords (w :: ws) ≠ [] := by
  cases ws with
  | nil =>
      rw [unwords_singleton]
      exact h.1
  | cons v ws => simp [unwords_cons_cons]

theorem trimmed_unwords {ws : List (List Char)} (h : ∀ w ∈ ws, IsWord w) :
    Trimmed (unwords ws) := by
  induction ws with
  | nil => exact ⟨by simp [unwords_nil], by simp [unwords_nil]⟩
  | cons w ws ih =>
      rw [List.forall_mem_cons] at h
      cases ws with
      | nil =>
          rw [unwords_singleton]
          exact h.1.trimmed
      | cons v ws =>
          have hrest := unwords_ne_nil (h.2 v List.mem_cons_self) ws
          rw [unwords_cons_cons]
          constructor
          · obtain ⟨c, cs, rfl⟩ := List.exists_cons_of_ne_nil h.1.1
            exact h.1.trimmed.head
          · rw [List.getLast?_append, List.getLast?_cons_of_ne_nil hrest,
              Option.or_of_isSome (by simpa using hrest)]
            exact (ih h.2).last

/-- Words with single spaces between them have no other blanks. -/
theorem eq_space_of_mem_unwords {ws : List (List Char)} (h : ∀ w ∈ ws, IsWord w) :
    ∀ c ∈ unwords ws, isBlank c = true → c = ' ' := by
  induction ws with
  | nil => simp [unwords_nil]
  | cons w ws ih =>
      rw [List.forall_mem_cons] at h
      have hw : ∀ c ∈ w, isBlank c = true → c = ' ' :=
        fun c hc hblank => absurd hblank (by simp [h.1.2 c hc])
      cases ws with
      | nil => rwa [unwords_singleton]
      | cons v ws =>
          rw [unwords_cons_cons, List.forall_mem_append, List.forall_mem_cons]
          exact ⟨hw, fun _ => rfl, ih h.2⟩

theorem unwords_append {us vs : List (List Char)} (hus : us ≠ []) (hvs : vs ≠ []) :
    unwords (us ++ vs) = unwords us ++ ' ' :: unwords vs := by
  induction us with
  | nil => exact absurd rfl hus
  | cons u us ih =>
      cases us with
      | nil =>
          obtain ⟨v, vs, rfl⟩ := List.exists_cons_of_ne_nil hvs
          rw [List.singleton_append, unwords_cons_cons, unwords_singleton]
      | cons u' us =>
          rw [List.cons_append, List.cons_append, unwords_cons_cons, unwords_cons_cons,
            ← List.cons_append, ih (List.cons_ne_nil u' us), List.append_assoc, List.cons_append]

theorem words_cons_of_blank {c : Char} (hc : isBlank c = true) (s : List Char) :
    words (c :: s) = words s := by
  cases s with
  | nil => simp [words, hc]
  | cons d s => rw [words, if_pos hc]

theorem words_eq_nil_iff {s : List Char} : words s = [] ↔ ∀ c ∈ s, isBlank c = true := by
  constructor
  · exact blank_of_words_eq_nil
  · intro h
    induction s with
    | nil => rfl
    | cons c s ih =>
        rw [List.forall_mem_cons] at h
        rw [words_cons_of_blank h.1, ih h.2]

theorem IsWord.words_append {w s : List Char} {c : Char} (h : IsWord w) (hc : isBlank c = true) :
    words (w ++ c :: s) = w :: words s := by
  obtain ⟨hne, hword⟩ := h
  induction w with
  | nil => exact absurd rfl hne
  | cons d w ih =>
      rw [List.forall_mem_cons] at hword
      have hd : ¬ isBlank d = true := by simp [hword.1]
      cases w with
      | nil =>
          rw [List.singleton_append, words, if_neg hd, if_pos hc, words_cons_of_blank hc]
      | cons e w =>
          have he : ¬ isBlank e = true := by simp [hword.2 e List.mem_cons_self]
          have hrest := ih (List.cons_ne_nil e w) hword.2
          rw [List.cons_append] at hrest
          rw [List.cons_append, List.cons_append, words, if_neg hd, if_neg he, hrest]

theorem IsWord.words_eq {w : List Char} (h : IsWord w) : words w = [w] := by
  obtain ⟨hne, hword⟩ := h
  induction w with
  | nil => exact absurd rfl hne
  | cons d w ih =>
      rw [List.forall_mem_cons] at hword
      have hd : ¬ isBlank d = true := by simp [hword.1]
      cases w with
      | nil => rw [words, if_neg hd]
      | cons e w =>
          have he : ¬ isBlank e = true := by simp [hword.2 e List.mem_cons_self]
          rw [words, if_neg hd, if_neg he, ih (List.cons_ne_nil e w) hword.2]

/-- Words are found again where they are put together with single spaces. -/
theorem words_unwords {ws : List (List Char)} (h : ∀ w ∈ ws, IsWord w) :
    words (unwords ws) = ws := by
  induction ws with
  | nil => rfl
  | cons w ws ih =>
      rw [List.forall_mem_cons] at h
      cases ws with
      | nil => rw [unwords_singleton, h.1.words_eq]
      | cons v ws => rw [unwords_cons_cons, h.1.words_append (by decide), ih h.2]

theorem collapse_collapse (s : List Char) : collapse (collapse s) = collapse s := by
  rw [collapse, collapse, words_unwords (isWord_of_mem_words s)]

/-! ### Trimming -/

theorem dropEnd_eq_nil_iff {p : Char → Bool} {s : List Char} :
    dropEnd p s = [] ↔ ∀ c ∈ s, p c = true := by
  simp [dropEnd, List.dropWhile_eq_nil_iff]

/-- Trimming leaves nothing only of what is blank throughout. -/
theorem trim_eq_nil_iff {s : List Char} : trim s = [] ↔ ∀ c ∈ s, isBlank c = true := by
  unfold trim trimEnd trimStart
  rw [dropEnd_eq_nil_iff]
  constructor
  · intro h c hc
    rw [← List.takeWhile_append_dropWhile (p := isBlank) (l := s)] at hc
    rcases List.mem_append.mp hc with hc | hc
    · exact List.mem_takeWhile_imp hc
    · exact h c hc
  · intro h c hc
    exact h c (List.dropWhile_subset isBlank hc)

theorem dropEnd_prefix (p : Char → Bool) (s : List Char) : dropEnd p s <+: s := by
  rw [dropEnd, ← List.reverse_suffix, List.reverse_reverse]
  exact List.dropWhile_suffix p

theorem dropWhile_eq_self {p : Char → Bool} {s : List Char} (h : ∀ c ∈ s.head?, p c = false) :
    s.dropWhile p = s := by
  cases s with
  | nil => rfl
  | cons c s => exact List.dropWhile_cons_of_neg (by simp [h c rfl])

theorem dropEnd_eq_self {p : Char → Bool} {s : List Char} (h : ∀ c ∈ s.getLast?, p c = false) :
    dropEnd p s = s := by
  rw [dropEnd, dropWhile_eq_self (by simpa using h), List.reverse_reverse]

theorem trimEnd_append {s t : List Char} (hs : ∀ c ∈ s.getLast?, isBlank c = false)
    (ht : ∀ c ∈ t, isBlank c = true) : trimEnd (s ++ t) = s := by
  rw [trimEnd, dropEnd, List.reverse_append, List.dropWhile_append_of_pos (by simpa using ht),
    ← dropEnd, dropEnd_eq_self hs]

theorem Trimmed.trim_eq {s : List Char} (h : Trimmed s) : trim s = s := by
  rw [trim, trimStart, dropWhile_eq_self h.head, trimEnd, dropEnd_eq_self h.last]

theorem trimStart_append {blanks : List Char} (h : ∀ c ∈ blanks, isBlank c = true) (s : List Char) :
    trimStart (blanks ++ s) = trimStart s := List.dropWhile_append_of_pos h

theorem trim_append {blanks : List Char} (h : ∀ c ∈ blanks, isBlank c = true) (s : List Char) :
    trim (blanks ++ s) = trim s := by
  rw [trim, trimStart_append h, trim]

theorem exists_append_trimStart (s : List Char) :
    ∃ blanks, (∀ c ∈ blanks, isBlank c = true) ∧ s = blanks ++ trimStart s :=
  ⟨s.takeWhile isBlank, fun _ => List.mem_takeWhile_imp, List.takeWhile_append_dropWhile.symm⟩

theorem trimEnd_blanks_append {blanks : List Char} (h : ∀ c ∈ blanks, isBlank c = true)
    (s : List Char) : trimEnd (blanks ++ s)
      = if trimEnd s = [] then [] else blanks ++ trimEnd s := by
  have hblanks : blanks.reverse.dropWhile isBlank = [] :=
    List.dropWhile_eq_nil_iff.mpr fun c hc => h c (List.mem_reverse.mp hc)
  simp only [trimEnd, dropEnd, List.reverse_append, List.dropWhile_append, hblanks,
    List.isEmpty_iff, List.reverse_eq_nil_iff]
  split
  · rfl
  · rw [List.reverse_append, List.reverse_reverse]

/-- Trimming takes away the blanks that were put around a text. -/
theorem Trimmed.trim_padded {s before after : List Char} (h : Trimmed s) (hs : s ≠ [])
    (hbefore : ∀ c ∈ before, isBlank c = true) (hafter : ∀ c ∈ after, isBlank c = true) :
    trim (before ++ s ++ after) = s := by
  have hstart : trimStart (before ++ s ++ after) = s ++ after := by
    rw [List.append_assoc, trimStart_append hbefore, trimStart]
    obtain ⟨c, cs, rfl⟩ := List.exists_cons_of_ne_nil hs
    exact dropWhile_eq_self h.head
  rw [trim, hstart, trimEnd_append h.last hafter]

/-! ### Lines -/

/-- A character that ends no line goes to the line that follows it. -/
theorem lines_cons {c : Char} {s : List Char} (hc : c ≠ '\n')
    (hreturn : c = '\r' → s.head? ≠ some '\n') :
    lines (c :: s) = (c :: (lines s).headD []) :: (lines s).tail := by
  rw [lines.eq_def]
  split
  · rename_i heq
    simp at heq
  · rename_i heq
    exact absurd (List.cons.inj heq).1 hc
  · rename_i heq
    obtain ⟨rfl, rfl⟩ := List.cons.inj heq
    exact absurd rfl (hreturn rfl)
  · rename_i heq
    obtain ⟨rfl, rfl⟩ := List.cons.inj heq
    cases lines s <;> rfl

theorem lines_return {s : List Char} (h : s.head? = some '\n') : lines ('\r' :: s) = lines s := by
  obtain ⟨s, rfl⟩ := List.head?_eq_some_iff.mp h
  rfl

/-- What no line ends in is the beginning of the line that follows it. -/
theorem lines_append_cons {l : List Char} (h : ∀ c ∈ l, c ≠ '\n' ∧ c ≠ '\r') (hne : l ≠ [])
    (s : List Char) : lines (l ++ s) = (l ++ (lines s).headD []) :: (lines s).tail := by
  induction l with
  | nil => exact absurd rfl hne
  | cons c l ih =>
      rw [List.forall_mem_cons] at h
      rw [List.cons_append, lines_cons h.1.1 fun heq => absurd heq h.1.2]
      by_cases hl : l = []
      · subst hl
        rfl
      · rw [ih h.2 hl]
        rfl

/-- A text that ends a line by a line feed. -/
theorem lines_append_newline {l : List Char} (h : ∀ c ∈ l, c ≠ '\n' ∧ c ≠ '\r') (s : List Char) :
    lines (l ++ '\n' :: s) = l :: lines s := by
  by_cases hl : l = []
  · subst hl
    rw [List.nil_append, lines]
  · rw [lines_append_cons h hl, lines, List.headD_cons, List.append_nil, List.tail_cons]

/-- Lines that are written down one after the other are read back. -/
theorem lines_flatMap {ls : List (List Char)} (h : ∀ l ∈ ls, ∀ c ∈ l, c ≠ '\n' ∧ c ≠ '\r') :
    lines (ls.flatMap (· ++ ['\n'])) = ls := by
  induction ls with
  | nil => rfl
  | cons l ls ih =>
      rw [List.forall_mem_cons] at h
      rw [List.flatMap_cons, List.append_assoc, List.singleton_append,
        lines_append_newline h.1, ih h.2]

theorem unlines_singleton (l : List Char) : unlines [l] = l := by
  simp [unlines, List.intercalate]

theorem unlines_cons {ls : List (List Char)} (h : ls ≠ []) (l : List Char) :
    unlines (l :: ls) = l ++ '\n' :: unlines ls := by
  obtain ⟨m, ms, rfl⟩ := List.exists_cons_of_ne_nil h
  simp [unlines, List.intercalate]

theorem lines_ne_nil {s : List Char} (h : s ≠ []) : lines s ≠ [] := by
  obtain ⟨c, s, rfl⟩ := List.exists_cons_of_ne_nil h
  by_cases hline : c = '\n'
  · subst hline
    simp [lines]
  by_cases hreturn : c = '\r' ∧ s.head? = some '\n'
  · obtain ⟨rfl, hs⟩ := hreturn
    obtain ⟨s, rfl⟩ := List.head?_eq_some_iff.mp hs
    simp [lines]
  · rw [lines_cons hline fun heq hs => hreturn ⟨heq, hs⟩]
    simp

/-- After a line feed the lines of a text go on with those of the next. -/
theorem lines_append {s : List Char} (h : s.getLast? = some '\n') (t : List Char) :
    lines (s ++ t) = lines s ++ lines t := by
  induction s with
  | nil => simp at h
  | cons c s ih =>
      by_cases hs : s = []
      · subst hs
        obtain rfl : c = '\n' := by simpa using h
        rfl
      rw [List.getLast?_cons_of_ne_nil hs] at h
      have hhead : (s ++ t).head? = s.head? := by
        rw [List.head?_append, Option.or_of_isSome (by simpa using hs)]
      by_cases hline : c = '\n'
      · subst hline
        rw [List.cons_append, lines, lines, ih h, List.cons_append]
      by_cases hreturn : c = '\r' ∧ s.head? = some '\n'
      · obtain ⟨rfl, hnext⟩ := hreturn
        rw [List.cons_append, lines_return (hhead.trans hnext), lines_return hnext, ih h]
      · have hkept : c = '\r' → s.head? ≠ some '\n' := fun heq hnext => hreturn ⟨heq, hnext⟩
        obtain ⟨l, ls, hlines⟩ := List.exists_cons_of_ne_nil (lines_ne_nil hs)
        rw [List.cons_append, lines_cons hline (by rwa [hhead]), lines_cons hline hkept, ih h, hlines]
        rfl

/-- A line is a part of the text, and the first line begins it. -/
theorem lines_infix (s : List Char) : (lines s).headD [] <+: s ∧ ∀ l ∈ lines s, l <:+: s := by
  induction s with
  | nil => simp [lines]
  | cons c s ih =>
      obtain ⟨hfirst, hlines⟩ := ih
      have hrest : ∀ l ∈ lines s, l <:+: c :: s := fun l hl => List.infix_cons (hlines l hl)
      by_cases hline : c = '\n'
      · subst hline
        rw [lines, List.forall_mem_cons]
        exact ⟨List.nil_prefix, List.nil_infix, hrest⟩
      by_cases hreturn : c = '\r' ∧ s.head? = some '\n'
      · obtain ⟨rfl, hs⟩ := hreturn
        rw [lines_return hs]
        obtain ⟨s, rfl⟩ := List.head?_eq_some_iff.mp hs
        exact ⟨List.nil_prefix, hrest⟩
      · have hstart : c :: (lines s).headD [] <+: c :: s := List.cons_prefix_cons.mpr ⟨rfl, hfirst⟩
        rw [lines_cons hline fun heq hs => hreturn ⟨heq, hs⟩, List.forall_mem_cons]
        exact ⟨hstart, hstart.isInfix, fun l hl => hrest l (List.mem_of_mem_tail hl)⟩

/-! ### Parts -/

theorem contains_iff {s pattern : List Char} : contains s pattern = true ↔ pattern <:+: s := by
  unfold contains
  induction s with
  | nil => simp [splitAt?]
  | cons c s ih =>
      rw [splitAt?, List.infix_cons_iff, ← ih]
      split
      · rename_i hstart
        simp [List.isPrefixOf_iff_prefix.mp hstart]
      · rename_i hstart
        simp [← List.isPrefixOf_iff_prefix, hstart]

theorem splitAt?_eq_some {pattern s before after : List Char}
    (h : splitAt? pattern s = some (before, after)) : s = before ++ pattern ++ after := by
  induction s generalizing before with
  | nil =>
      rw [splitAt?] at h
      split at h
      · rename_i hempty
        obtain ⟨rfl, rfl⟩ : [] = before ∧ [] = after := by simpa using h
        simpa using hempty
      · simp at h
  | cons c s ih =>
      rw [splitAt?] at h
      split at h
      · rename_i hstart
        obtain ⟨rest, hrest⟩ := List.isPrefixOf_iff_prefix.mp hstart
        rw [← hrest, List.drop_left' rfl] at h
        obtain ⟨rfl, rfl⟩ : [] = before ∧ rest = after := by simpa using h
        exact hrest.symm
      · obtain ⟨⟨before, after⟩, hs, heq⟩ := Option.map_eq_some_iff.mp h
        obtain ⟨rfl, rfl⟩ := Prod.mk.inj heq
        rw [ih hs]
        rfl

theorem length_after_splitAt? {pattern s before after : List Char} (hpattern : pattern ≠ [])
    (h : splitAt? pattern s = some (before, after)) : after.length < s.length := by
  have hpos := List.length_pos_iff.mpr hpattern
  have hs := congrArg List.length (splitAt?_eq_some h)
  simp only [List.length_append] at hs
  omega

theorem splitAt?_eq_none_iff {pattern s : List Char} :
    splitAt? pattern s = none ↔ ¬ pattern <:+: s := by
  rw [← contains_iff, contains, Bool.not_eq_true, Option.isSome_eq_false_iff,
    Option.isNone_iff_eq_none]

/-- What is found in a text is found at the same place if the text goes on. -/
theorem splitAt?_append {pattern s before after : List Char}
    (h : splitAt? pattern s = some (before, after)) (t : List Char) :
    splitAt? pattern (s ++ t) = some (before, after ++ t) := by
  induction s generalizing before with
  | nil =>
      rw [splitAt?] at h
      split at h
      · rename_i hempty
        obtain rfl : pattern = [] := by simpa using hempty
        obtain ⟨rfl, rfl⟩ : [] = before ∧ [] = after := by simpa using h
        cases t <;> simp [splitAt?]
      · simp at h
  | cons c s ih =>
      have hlength := congrArg List.length (splitAt?_eq_some h)
      rw [List.length_append, List.length_append] at hlength
      rw [splitAt?] at h
      rw [List.cons_append, splitAt?]
      split at h
      · rename_i hstart
        have hpart := List.isPrefixOf_iff_prefix.mp hstart
        obtain ⟨rfl, rfl⟩ : [] = before ∧ (c :: s).drop pattern.length = after := by simpa using h
        rw [← List.cons_append, if_pos, List.drop_append_of_le_length hpart.length_le]
        exact List.isPrefixOf_iff_prefix.mpr (hpart.trans (List.prefix_append _ _))
      · rename_i hstart
        obtain ⟨⟨before, after⟩, hs, heq⟩ := Option.map_eq_some_iff.mp h
        obtain ⟨rfl, rfl⟩ := Prod.mk.inj heq
        rw [if_neg, ih hs]
        · rfl
        · intro hlonger
          refine hstart (List.isPrefixOf_iff_prefix.mpr (List.prefix_of_prefix_length_le
            (List.isPrefixOf_iff_prefix.mp hlonger) (List.prefix_append (c :: s) t) ?_))
          omega

/-- A pattern that begins before a character it does not contain ends before it as well. -/
theorem prefix_of_prefix_append {pattern s t : List Char} {c : Char} (hc : c ∉ pattern)
    (h : pattern <+: s ++ c :: t) : pattern <+: s := by
  rcases Nat.lt_or_ge s.length pattern.length with hlt | hle
  · have hpart : s ++ [c] <+: pattern := by
      refine List.prefix_of_prefix_length_le ?_ h (by simpa using Nat.succ_le_of_lt hlt)
      exact ⟨t, by rw [List.append_assoc, List.singleton_append]⟩
    exact absurd (hpart.subset (by simp)) hc
  · exact List.prefix_of_prefix_length_le h (List.prefix_append _ _) hle

/-- A pattern is looked for before a character it does not contain, and then after it. -/
theorem splitAt?_foreign {pattern s : List Char} {c : Char} (h : splitAt? pattern s = none)
    (hc : c ∉ pattern) (t : List Char) : splitAt? pattern (s ++ c :: t)
      = (splitAt? pattern t).map fun (before, after) => (s ++ c :: before, after) := by
  have hne : ∀ u, ¬ pattern.isPrefixOf (c :: u) = true := by
    intro u hstart
    have hempty := prefix_of_prefix_append (s := []) hc (List.isPrefixOf_iff_prefix.mp hstart)
    obtain rfl : pattern = [] := List.prefix_nil.mp hempty
    cases s <;> simp [splitAt?] at h
  induction s with
  | nil => rw [List.nil_append, splitAt?, if_neg (hne t)]; rfl
  | cons d s ih =>
      rw [splitAt?] at h
      split at h
      · simp at h
      · rename_i hstart
        rw [List.cons_append, splitAt?, if_neg, ih (Option.map_eq_none_iff.mp h), Option.map_map]
        · rfl
        · intro hlonger
          exact hstart (List.isPrefixOf_iff_prefix.mpr
            (prefix_of_prefix_append hc (List.isPrefixOf_iff_prefix.mp hlonger)))

/-- A text is cut at the first place where a character stands. -/
theorem splitAt?_of_not_mem_before {c : Char} {s : List Char} (h : c ∉ s) (t : List Char) :
    splitAt? [c] (s ++ c :: t) = some (s, t) := by
  induction s with
  | nil => simp [splitAt?]
  | cons d s ih =>
      obtain ⟨hne, hs⟩ := not_or.mp (List.mem_cons.not.mp h)
      rw [List.cons_append, splitAt?, if_neg (by simpa using hne), ih hs]
      rfl

theorem splitAt?_of_not_mem {c : Char} {s : List Char} (h : c ∉ s) : splitAt? [c] s = none := by
  rw [← Option.not_isSome_iff_eq_none]
  exact fun hpart => h ((contains_iff.mp hpart).subset (List.mem_singleton_self c))

/-! ### First places -/

/-- A text that a pattern follows, and in which the pattern begins nowhere before that. -/
def UpToFirst (pattern before : List Char) : Prop :=
  ∀ s t, s ++ pattern ++ t = before ++ pattern → s = before

theorem UpToFirst.of_append {pattern s before : List Char} (h : UpToFirst pattern (s ++ before)) :
    UpToFirst pattern before := by
  intro u t htext
  have hu : s ++ u ++ pattern ++ t = s ++ before ++ pattern := by
    rw [List.append_assoc s, List.append_assoc s, htext, List.append_assoc]
  exact List.append_cancel_left (h (s ++ u) t hu)

theorem UpToFirst.not_infix {pattern s t : List Char} {c : Char}
    (h : UpToFirst pattern (s ++ c :: t)) : ¬ pattern <:+: s := by
  rintro ⟨u, v, rfl⟩
  have hu := h u (v ++ c :: t ++ pattern) (by simp)
  have hlength := congrArg List.length hu
  simp only [List.length_append, List.length_cons] at hlength
  omega

/-- A text is cut at the first place for a pattern. -/
theorem UpToFirst.splitAt? {pattern before : List Char} (h : UpToFirst pattern before)
    (after : List Char) : splitAt? pattern (before ++ pattern ++ after) = some (before, after) := by
  induction before with
  | nil =>
      cases pattern with
      | nil => cases after <;> simp [Text.splitAt?]
      | cons c pattern => simp [Text.splitAt?]
  | cons c before ih =>
      have hrest := ih (h.of_append (s := [c]))
      have hstart : ¬ pattern.isPrefixOf (c :: (before ++ pattern ++ after)) = true := by
        intro hstart
        have hpart : pattern <+: c :: before ++ pattern := by
          refine List.prefix_of_prefix_length_le (List.isPrefixOf_iff_prefix.mp hstart)
            (List.prefix_append _ after) ?_
          rw [List.length_append]
          omega
        obtain ⟨t, ht⟩ := hpart
        exact List.cons_ne_nil c before (h [] t (by simpa using ht)).symm
      rw [List.cons_append, List.cons_append, Text.splitAt?, if_neg hstart, hrest]
      rfl

/-- A text is cut nowhere else. -/
theorem upToFirst_of_splitAt? {pattern s before after : List Char}
    (h : splitAt? pattern s = some (before, after)) : UpToFirst pattern before := by
  induction s generalizing before with
  | nil =>
      obtain ⟨rfl, rfl, -⟩ : before = [] ∧ pattern = [] ∧ after = [] := by
        simpa using splitAt?_eq_some h
      intro u t htext
      rw [List.append_assoc] at htext
      exact (List.append_eq_nil_iff.mp htext).1
  | cons c s ih =>
      have hs := splitAt?_eq_some h
      intro u t htext
      rw [splitAt?] at h
      split at h
      · obtain ⟨rfl, -⟩ : [] = before ∧ (c :: s).drop pattern.length = after := by simpa using h
        have hlength := congrArg List.length htext
        simp only [List.length_append, List.length_nil] at hlength
        exact List.length_eq_zero_iff.mp (by omega)
      · rename_i hstart
        obtain ⟨⟨before, after⟩, hrest, heq⟩ := Option.map_eq_some_iff.mp h
        obtain ⟨rfl, rfl⟩ := Prod.mk.inj heq
        cases u with
        | nil =>
            refine absurd (List.isPrefixOf_iff_prefix.mpr ⟨t ++ after, ?_⟩) hstart
            rw [hs, ← htext, List.nil_append, List.append_assoc]
        | cons d u =>
            obtain ⟨rfl, hu⟩ := List.cons.inj htext
            rw [ih hrest u t hu]

/-- A character that a pattern does not contain stands before the pattern or after it. -/
theorem append_eq_append_cons {before pattern after s t : List Char} {c : Char} (hc : c ∉ pattern)
    (h : before ++ pattern ++ after = s ++ c :: t) :
    (∃ u, before = s ++ c :: u ∧ t = u ++ pattern ++ after) ∨
      ∃ u, s = before ++ pattern ++ u ∧ after = u ++ c :: t := by
  rcases List.append_eq_append_iff.mp h with ⟨u, rfl, hu⟩ | ⟨u, hu, hafter⟩
  · exact .inr ⟨u, rfl, hu⟩
  · cases u with
    | nil => exact .inr ⟨[], by simpa using hu.symm, hafter.symm⟩
    | cons d u =>
        obtain ⟨rfl, rfl⟩ := List.cons.inj hafter
        rcases List.append_eq_append_iff.mp hu with ⟨v, rfl, hpattern⟩ | ⟨v, rfl, hpattern⟩
        · exact absurd (by simp [hpattern]) hc
        · cases v with
          | nil =>
              obtain rfl : c :: u = pattern := hpattern
              exact absurd List.mem_cons_self hc
          | cons e v =>
              obtain ⟨rfl, rfl⟩ := List.cons.inj hpattern
              exact .inl ⟨v, rfl, rfl⟩

/-! ### Ends of texts -/

theorem dropEnd?_append (s pattern : List Char) : dropEnd? pattern (s ++ pattern) = some s := by
  rw [dropEnd?, if_pos (by simp), List.length_append, Nat.add_sub_cancel, List.take_left]

theorem dropEnd?_eq_none {pattern s : List Char} (h : ¬ pattern <:+ s) :
    dropEnd? pattern s = none :=
  if_neg (by simpa using h)

/-! ### Names in order -/

/-- Names of which no two are equal are in strict order once they are sorted. -/
theorem pairwise_lt_mergeSort {names : List String} (h : names.Nodup) :
    (names.mergeSort fun a b => decide (a ≤ b)).Pairwise (· < ·) := by
  have hsorted : (names.mergeSort fun a b => decide (a ≤ b)).Pairwise (· ≤ ·) := by
    refine (List.pairwise_mergeSort (fun a b c hab hbc => ?_) (fun a b => ?_) _).imp
      of_decide_eq_true
    · rw [decide_eq_true_iff] at hab hbc ⊢
      exact String.le_trans hab hbc
    · simpa using String.le_total a b
  have hnodup : (names.mergeSort fun a b => decide (a ≤ b)).Nodup :=
    (List.mergeSort_perm _ _).nodup_iff.mpr h
  exact (hsorted.and hnodup).imp fun h => Std.lt_of_le_of_ne h.1 h.2

end DeviceLint.Text
