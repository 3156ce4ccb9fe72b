/-
Where logical lines stand.

Every logical line takes up some physical lines of its own, and these come in the order
of the text.  `gather` sees to that by dropping the lines it has used; the induction
follows it, with the number of the next physical line as the bound for all that is still
to come.
-/
import DeviceLint.Layout.Line

namespace DeviceLint

namespace LogicalLine

/-- Lines in the order of the text, which start at line `lo` at the earliest, end before line
`hi`, and share no physical line. -/
def Ordered (hi : Nat) : Nat → List LogicalLine → Prop
  | _, [] => True
  | lo, l :: ls => lo ≤ l.first ∧ l.first ≤ l.last ∧ l.last < hi ∧ Ordered hi (l.last + 1) ls

theorem Ordered.mono {hi lo lo' : Nat} {ls : List LogicalLine} (h : Ordered hi lo ls)
    (hlo : lo' ≤ lo) : Ordered hi lo' ls := by
  cases ls with
  | nil => trivial
  | cons l ls => exact ⟨Nat.le_trans hlo h.1, h.2⟩

theorem Ordered.bounds {hi : Nat} {ls : List LogicalLine} :
    ∀ {lo}, Ordered hi lo ls → ∀ l ∈ ls, lo ≤ l.first ∧ l.first ≤ l.last ∧ l.last < hi := by
  induction ls with
  | nil => intro lo _ l hl; simp at hl
  | cons l' ls ih =>
      intro lo h l hl
      obtain ⟨hfirst, hle, hlast, hrest⟩ := h
      rcases List.mem_cons.mp hl with rfl | hl
      · exact ⟨hfirst, hle, hlast⟩
      · obtain ⟨hfirst', hbounds⟩ := ih hrest l hl
        exact ⟨by omega, hbounds⟩

theorem Ordered.pairwise_first {hi : Nat} {ls : List LogicalLine} :
    ∀ {lo}, Ordered hi lo ls → ls.Pairwise fun l m => l.first < m.first := by
  induction ls with
  | nil => intro lo _; exact List.Pairwise.nil
  | cons l ls ih =>
      intro lo h
      obtain ⟨-, hle, -, hrest⟩ := h
      refine List.pairwise_cons.mpr ⟨fun m hm => ?_, ih hrest⟩
      have hbounds := hrest.bounds m hm
      omega

/-- Of two lines the one that starts first ends before the other starts. -/
theorem Ordered.apart {hi : Nat} {ls : List LogicalLine} :
    ∀ {lo}, Ordered hi lo ls → ∀ l ∈ ls, ∀ m ∈ ls, l.first < m.first → l.last < m.first := by
  induction ls with
  | nil => intro lo _ l hl; simp at hl
  | cons k ls ih =>
      intro lo h l hl m hm hlt
      obtain ⟨-, hle, -, hrest⟩ := h
      rw [List.mem_cons] at hl hm
      rcases hl with rfl | hl <;> rcases hm with rfl | hm
      · omega
      · have hbounds := hrest.bounds m hm
        omega
      · have hbounds := hrest.bounds l hl
        omega
      · exact ih hrest l hl m hm hlt

/-- What comes before a line ends before it does. -/
theorem Ordered.before {hi : Nat} {above below : List LogicalLine} {l : LogicalLine} :
    ∀ {lo}, Ordered hi lo (above ++ l :: below) → Ordered (l.last + 1) lo above := by
  induction above with
  | nil => exact fun _ => trivial
  | cons k above ih =>
      intro lo h
      obtain ⟨hfirst, hle, -, hrest⟩ := h
      have hbounds := hrest.bounds l (by simp)
      exact ⟨hfirst, hle, by omega, ih hrest⟩

theorem start_first (schema : Schema) (n : Nat) (line content : List Char)
    (rest : List (List Char)) : (start schema n line content rest).first = n := rfl

/-- A logical line takes up no more lines than there are. -/
theorem start_last (schema : Schema) (n : Nat) (line content : List Char)
    (rest : List (List Char)) :
    n ≤ (start schema n line content rest).last ∧
      (start schema n line content rest).last ≤ n + rest.length := by
  have hlast : ∃ more, (start schema n line content rest).last = n + min more rest.length :=
    ⟨_, rfl⟩
  obtain ⟨more, hmore⟩ := hlast
  omega

theorem gather_ordered (schema : Schema) (inside : Bool) (n : Nat) (physical : List (List Char)) :
    Ordered (n + physical.length) n (gather schema inside n physical) := by
  induction inside, n, physical using gather.induct schema with
  | case1 inside n => rw [gather]; trivial
  | case2 inside n line rest content inside' hcontent hskip ih =>
      rw [gather, hcontent]
      dsimp only
      rw [if_pos hskip, List.length_cons, show n + (rest.length + 1) = n + 1 + rest.length by omega]
      exact ih.mono (Nat.le_succ n)
  | case3 inside n line rest content inside' hcontent hskip l ih =>
      rw [gather, hcontent]
      dsimp only
      rw [if_neg hskip]
      obtain ⟨hlo, hhi⟩ := start_last schema n line content rest
      have hlength : l.last + 1 + (rest.drop (l.last - n)).length
          = n + (line :: rest).length := by
        have hl : l.last = (start schema n line content rest).last := rfl
        rw [List.length_drop, List.length_cons]
        omega
      rw [hlength] at ih
      refine ⟨Nat.le_refl n, hlo, ?_, ih⟩
      rw [List.length_cons]
      omega

/-- **Logical lines are in the order of the text and do not overlap.** -/
theorem ofText_ordered (schema : Schema) (text : String) :
    Ordered ((Text.lines text.toList).length + 1) 1 (ofText schema text) := by
  rw [Nat.add_comm]
  exact gather_ordered schema false 1 (Text.lines text.toList)

/-- Every logical line is started by some physical line. -/
theorem mem_gather {schema : Schema} {inside : Bool} {n : Nat} {physical : List (List Char)}
    {l : LogicalLine} (h : l ∈ gather schema inside n physical) :
    ∃ k line content rest, l = start schema k line content rest := by
  induction inside, n, physical using gather.induct schema with
  | case1 inside n => rw [gather] at h; simp at h
  | case2 inside n line rest content inside' hcontent hskip ih =>
      rw [gather, hcontent] at h
      dsimp only at h
      rw [if_pos hskip] at h
      exact ih h
  | case3 inside n line rest content inside' hcontent hskip l' ih =>
      rw [gather, hcontent] at h
      dsimp only at h
      rw [if_neg hskip] at h
      rcases List.mem_cons.mp h with rfl | h
      · exact ⟨n, line, content, rest, rfl⟩
      · exact ih h

end LogicalLine

namespace LogicalLine

/-- Without a continuation mark no statement is continued. -/
theorem continued_unmarked {schema : Schema} (h : schema.continuation.getD "" = "")
    (content : List Char) (rest : List (List Char)) :
    continued schema content rest = (content, 0) := by
  unfold continued
  cases hmark : schema.continuation with
  | none => rfl
  | some mark =>
      obtain rfl : mark = "" := by simpa [hmark] using h
      rfl

end LogicalLine

/-! ### Dialects whose statements stay on one physical line -/

/-- No statement of the dialect goes on in the next physical line. -/
def Schema.IsSingleLine (s : Schema) : Prop :=
  s.continuation.getD "" = "" ∧ s.delimitedCommands = []

namespace LogicalLine

theorem delimited_single {schema : Schema} (h : schema.IsSingleLine) (content : List Char)
    (rest : List (List Char)) : delimited schema content rest = 0 := by
  have hnone : delimiter? schema (Text.trim content) = none := by
    simp [delimiter?, h.2]
  rw [delimited, hnone]

theorem start_single {schema : Schema} (h : schema.IsSingleLine) (n : Nat)
    (line content : List Char) (rest : List (List Char)) :
    (start schema n line content rest).last = n := by
  unfold start
  rw [continued_unmarked h.1]
  dsimp only
  rw [delimited_single h, Nat.zero_add, Nat.zero_min, Nat.add_zero]

/-- In such a dialect a logical line is one physical line. -/
theorem ofText_single {schema : Schema} (h : schema.IsSingleLine) {text : String}
    {l : LogicalLine} (hl : l ∈ ofText schema text) : l.last = l.first := by
  obtain ⟨n, line, content, rest, rfl⟩ := mem_gather hl
  rw [start_single h, start_first]

end LogicalLine

end DeviceLint
