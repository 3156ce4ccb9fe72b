/-
Texts that are in normal form already.

A label to be written down and read back has to be what the reader makes of it.  It is
when it is made of words with single spaces between them and does not end in punctuation:
such a text has no blanks at its ends and no line end inside, so that neither trimming nor
the blanks that are put around it change what it is taken for.
-/
import DeviceLint.Proofs.Text
import DeviceLint.Tree

namespace DeviceLint

namespace Statement

/-- A statement that is its own normal form. -/
structure IsNormal (s : List Char) : Prop where
  ne_nil : s ≠ []
  normalize_eq : normalize s = s

variable {s : List Char}

theorem IsNormal.trimmed (h : IsNormal s) : Text.Trimmed s := by
  rw [← h.normalize_eq]
  exact Text.trimmed_unwords (Text.isWord_of_mem_words _)

theorem IsNormal.trim_eq (h : IsNormal s) : Text.trim s = s := h.trimmed.trim_eq

/-- There are no blanks but spaces in it, so it lies on one line. -/
theorem IsNormal.no_line_end (h : IsNormal s) : ∀ c ∈ s, c ≠ '\n' ∧ c ≠ '\r' := by
  have hspace : ∀ c ∈ s, Text.isBlank c = true → c = ' ' := by
    rw [← h.normalize_eq]
    exact Text.eq_space_of_mem_unwords (Text.isWord_of_mem_words _)
  intro c hc
  constructor
  · rintro rfl
    exact absurd (hspace _ hc (by decide)) (by decide)
  · rintro rfl
    exact absurd (hspace _ hc (by decide)) (by decide)

/-- It has some word. -/
theorem IsNormal.words_ne_nil (h : IsNormal s) : Text.words s ≠ [] := by
  intro hwords
  obtain ⟨c, cs, rfl⟩ := List.exists_cons_of_ne_nil h.ne_nil
  have hblank := Text.blank_of_words_eq_nil hwords c List.mem_cons_self
  rw [h.trimmed.head c rfl] at hblank
  simp at hblank

/-- Blanks around a statement do not change what it is. -/
theorem IsNormal.normalize_padded (h : IsNormal s) {before after : List Char}
    (hbefore : ∀ c ∈ before, Text.isBlank c = true)
    (hafter : ∀ c ∈ after, Text.isBlank c = true) : normalize (before ++ s ++ after) = s := by
  have hself := h.normalize_eq
  rw [normalize, h.trim_eq] at hself
  rw [normalize, h.trimmed.trim_padded h.ne_nil hbefore hafter, hself]

theorem isNormal_of_collapse (hne : s ≠ []) (hcollapse : Text.collapse s = s)
    (hlast : ∀ c ∈ s, isTrailing c = true → Text.isBlank c = true) : IsNormal s := by
  have htrimmed : Text.Trimmed s := by
    rw [← hcollapse]
    exact Text.trimmed_unwords (Text.isWord_of_mem_words _)
  refine ⟨hne, ?_⟩
  have hend : Text.dropEnd isTrailing s = s := by
    apply Text.dropEnd_eq_self
    intro c hc
    by_contra htrailing
    have hblank := hlast c (List.mem_of_getLast? hc) (by simpa using htrailing)
    rw [htrimmed.last c hc] at hblank
    simp at hblank
  rw [normalize, htrimmed.trim_eq, hend, hcollapse]

end Statement

namespace Node

/-- The node of a label that stands for itself. -/
def ofLabel (kind : NodeKind) (label : List Char) (raw : String) (span : Span)
    (children : List Node) : Node where
  id := String.ofList label
  raw := raw
  params := (Statement.tokens label).map String.ofList
  kind := kind
  children := children
  span := span

theorem ofStatement_normal {label : List Char} (h : Statement.IsNormal label) (kind : NodeKind)
    (raw : String) (span : Span) :
    ofStatement kind label raw span = ofLabel kind label raw span [] := by
  simp only [ofStatement, ofLabel, h.normalize_eq]

theorem ofStatement_padded {label before after : List Char} (h : Statement.IsNormal label)
    (hbefore : ∀ c ∈ before, Text.isBlank c = true) (hafter : ∀ c ∈ after, Text.isBlank c = true)
    (kind : NodeKind) (raw : String) (span : Span) :
    ofStatement kind (before ++ label ++ after) raw span = ofLabel kind label raw span [] := by
  simp only [ofStatement, ofLabel, h.normalize_padded hbefore hafter]

end Node

end DeviceLint
