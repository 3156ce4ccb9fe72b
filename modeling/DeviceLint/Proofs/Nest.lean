/-
Which brace closes which.

All braces that are open lie on one stack here, and a closing brace takes the one on top,
which is the one it closes.  With each brace goes the section it opened, or nothing if it
opened none.  A section is told by the number of the statement that names it, and numbers
only grow, so a section that has been closed does not come back: what lies in it are the
pieces between its two braces.
-/
import DeviceLint.Proofs.Site

namespace DeviceLint

namespace Brace

/-! ### One stack for all braces -/

/-- What has been read of some pieces. -/
structure Nest where
  /-- The braces that are open, the innermost first: the numbers of the sections they opened, or
  nothing where they opened none. -/
  opened : List (Option Nat)
  /-- How many statements there have been. -/
  count : Nat
  /-- Whether the last of them is a leaf of the innermost section. -/
  leaf : Bool
  deriving DecidableEq, Repr

namespace Nest

def start : Nest := ⟨[], 0, false⟩

/-- The statements that are the sections around the next one, the innermost first. -/
def around (n : Nest) : List Nat := n.opened.filterMap id

/-- The number of the statement that an opening brace makes a section of: the text before the
brace, or else a leaf before it. -/
def section? (n : Nest) (p : Piece) : Option Nat :=
  if isBlank p.text then if n.leaf then some (n.count - 1) else none else some n.count

/-- Takes in the text of a piece, which is a leaf. -/
def read (n : Nest) (p : Piece) : Nest :=
  if isBlank p.text then n else { n with count := n.count + 1, leaf := true }

/-- Takes in an opening brace. -/
def push (n : Nest) (p : Piece) : Nest :=
  match n.section? p with
  | some k => ⟨some k :: n.opened, k + 1, false⟩
  | none => { n with opened := none :: n.opened }

/-- Takes in a closing brace. -/
def pop (n : Nest) : Nest :=
  match n.opened with
  | some _ :: outer => { n with opened := outer, leaf := false }
  | opened => { n with opened := opened.tail }

def step (n : Nest) (p : Piece) : Nest :=
  match p.mark with
  | .opens => n.push p
  | .ends => n.read p
  | .closes => (n.read p).pop

end Nest

/-- A piece and the line it is from. -/
abbrev Cut := LogicalLine × Piece

namespace Nest

def run (n : Nest) (cuts : List Cut) : Nest := cuts.foldl (fun n x => n.step x.2) n

/-- The site of the statement in a piece, if there is one. -/
def site (n : Nest) (x : Cut) : List Site :=
  if isBlank x.2.text then [] else [⟨x.1.entry x.2.text, n.around⟩]

/-- The sites of the statements in some pieces. -/
def sites (n : Nest) : List Cut → List Site
  | [] => []
  | x :: cuts => n.site x ++ (n.step x.2).sites cuts

/-- No section is opened while a brace that opened none is open. -/
def SectionsFirst (n : Nest) : List Cut → Prop
  | [] => True
  | x :: cuts => (x.2.mark = .opens → (n.section? x.2).isSome → none ∉ n.opened) ∧
    (n.step x.2).SectionsFirst cuts

instance decidableSectionsFirst : ∀ (n : Nest) (cuts : List Cut), Decidable (n.SectionsFirst cuts)
  | _, [] => inferInstanceAs (Decidable True)
  | n, x :: cuts =>
    have := decidableSectionsFirst (n.step x.2) cuts
    inferInstanceAs (Decidable ((x.2.mark = .opens → (n.section? x.2).isSome → none ∉ n.opened) ∧
      (n.step x.2).SectionsFirst cuts))

theorem run_nil (n : Nest) : n.run [] = n := rfl

theorem run_cons (n : Nest) (x : Cut) (cuts : List Cut) :
    n.run (x :: cuts) = (n.step x.2).run cuts := rfl

theorem run_append (n : Nest) (xs ys : List Cut) : n.run (xs ++ ys) = (n.run xs).run ys :=
  List.foldl_append

theorem sites_append (xs ys : List Cut) :
    ∀ n : Nest, n.sites (xs ++ ys) = n.sites xs ++ (n.run xs).sites ys := by
  induction xs with
  | nil => exact fun n => rfl
  | cons x xs ih =>
      intro n
      rw [List.cons_append, sites, ih, sites, List.append_assoc]
      rfl

theorem SectionsFirst.of_append {xs ys : List Cut} :
    ∀ {n : Nest}, n.SectionsFirst (xs ++ ys) → n.SectionsFirst xs := by
  induction xs with
  | nil => exact fun _ => trivial
  | cons x xs ih => exact fun h => ⟨h.1, ih h.2⟩

end Nest

/-! ### Pairs of braces -/

/-- Pieces whose braces come in pairs. -/
inductive Balanced : List Cut → Prop
  | nil : Balanced []
  | ends {x : Cut} {cuts : List Cut} (hx : x.2.mark = .ends) (h : Balanced cuts) :
      Balanced (x :: cuts)
  | pair {opening closing : Cut} (inner after : List Cut) (hopens : opening.2.mark = .opens)
      (hcloses : closing.2.mark = .closes) (hinner : Balanced inner) (hafter : Balanced after) :
      Balanced (opening :: (inner ++ closing :: after))

namespace Nest

variable {n : Nest} {p : Piece} {k : Nat}

@[simp] theorem opened_read (n : Nest) (p : Piece) : (n.read p).opened = n.opened := by
  unfold read
  split <;> rfl

@[simp] theorem opened_pop (n : Nest) : n.pop.opened = n.opened.tail := by
  unfold pop
  split
  · rename_i heq
    rw [heq]
    rfl
  · rfl

theorem push_section (h : n.section? p = some k) : n.push p = ⟨some k :: n.opened, k + 1, false⟩ := by
  rw [push, h]

theorem exists_opened_push (n : Nest) (p : Piece) : ∃ brace, (n.push p).opened = brace :: n.opened := by
  unfold push
  split
  · exact ⟨_, rfl⟩
  · exact ⟨none, rfl⟩

theorem mem_around : k ∈ n.around ↔ some k ∈ n.opened := by simp [around]

/-- The least number that a section may have that is opened from here on. -/
def next (n : Nest) : Nat := if n.leaf then n.count - 1 else n.count

theorem next_le_section (h : n.section? p = some k) : n.next ≤ k := by
  unfold section? at h
  unfold next
  split at h
  · split at h
    · obtain rfl : n.count - 1 = k := by simpa using h
      simp [*]
    · simp at h
  · obtain rfl : n.count = k := by simpa using h
    split <;> omega

theorem next_le_read (n : Nest) (p : Piece) : n.next ≤ (n.read p).next := by
  unfold read
  split
  · exact Nat.le_refl _
  · unfold next
    split <;> simp

theorem next_le_pop (n : Nest) : n.next ≤ n.pop.next := by
  unfold pop
  split
  · unfold next
    split <;> simp
  · exact Nat.le_refl _

theorem next_le_push (n : Nest) (p : Piece) : n.next ≤ (n.push p).next := by
  cases hsection : n.section? p with
  | none =>
      rw [push, hsection]
      exact Nat.le_refl _
  | some k =>
      rw [push_section hsection]
      exact Nat.le_succ_of_le (next_le_section hsection)

theorem next_le_step (n : Nest) (p : Piece) : n.next ≤ (n.step p).next := by
  unfold step
  split
  · exact next_le_push n p
  · exact next_le_read n p
  · exact Nat.le_trans (next_le_read n p) (next_le_pop _)

theorem next_le_run (cuts : List Cut) : ∀ n : Nest, n.next ≤ (n.run cuts).next := by
  induction cuts with
  | nil => exact fun n => Nat.le_refl _
  | cons x cuts ih => exact fun n => Nat.le_trans (next_le_step n x.2) (ih _)

/-- What is opened by a piece has a number that is still to come. -/
theorem mem_opened_step (h : some k ∈ (n.step p).opened) :
    some k ∈ n.opened ∨ n.next ≤ k ∧ k < (n.step p).next := by
  unfold step at h ⊢
  cases hmark : p.mark with
  | opens =>
      rw [hmark] at h
      dsimp only at h ⊢
      cases hsection : n.section? p with
      | none =>
          rw [push, hsection] at h
          exact Or.inl (by simpa using h)
      | some i =>
          rw [push_section hsection] at h ⊢
          rcases List.mem_cons.mp h with heq | hmem
          · obtain rfl : k = i := Option.some.inj heq
            exact Or.inr ⟨next_le_section hsection, Nat.lt_succ_self k⟩
          · exact Or.inl hmem
  | ends =>
      rw [hmark] at h
      exact Or.inl (by simpa using h)
  | closes =>
      rw [hmark] at h
      exact Or.inl (List.mem_of_mem_tail (by simpa using h))

/-- All sections that are open have numbers below those to come. -/
def Bounded (n : Nest) : Prop := ∀ k, some k ∈ n.opened → k < n.next

theorem Bounded.run (cuts : List Cut) : ∀ {n : Nest}, n.Bounded → (n.run cuts).Bounded := by
  induction cuts with
  | nil => exact fun h => h
  | cons x cuts ih =>
      refine fun h => ih fun k hk => ?_
      rcases mem_opened_step hk with hmem | hnew
      · exact Nat.lt_of_lt_of_le (h k hmem) (next_le_step _ x.2)
      · exact hnew.2

theorem bounded_start : start.Bounded := by simp [Bounded, start]

/-- A section that has been closed is not opened again. -/
theorem not_mem_run (cuts : List Cut) : ∀ {n : Nest}, k < n.next → some k ∉ n.opened →
    some k ∉ (n.run cuts).opened := by
  induction cuts with
  | nil => exact fun _ h => h
  | cons x cuts ih =>
      refine fun hlt h => ih (Nat.lt_of_lt_of_le hlt (next_le_step _ x.2)) fun hk => ?_
      rcases mem_opened_step hk with hmem | hnew
      · exact h hmem
      · exact absurd hlt (Nat.not_lt.mpr hnew.1)

/-- Whatever is open before paired braces is open among them, and it is all that is open after
them. -/
theorem run_balanced {cuts : List Cut} (h : Balanced cuts) : ∀ n : Nest,
    (n.run cuts).opened = n.opened ∧
      ∀ first rest, cuts = first ++ rest → n.opened <:+ (n.run first).opened := by
  induction h with
  | nil =>
      refine fun n => ⟨rfl, fun first rest hfirst => ?_⟩
      rw [(List.append_eq_nil_iff.mp hfirst.symm).1]
      exact List.suffix_rfl
  | ends hx h ih =>
      rename_i x cuts
      intro n
      have hstep : (n.step x.2).opened = n.opened := by simp [step, hx]
      obtain ⟨hrun, hparts⟩ := ih (n.step x.2)
      rw [hstep] at hrun hparts
      refine ⟨hrun, fun first rest hfirst => ?_⟩
      rcases List.cons_eq_append_iff.mp hfirst with ⟨rfl, -⟩ | ⟨first, rfl, hcuts⟩
      · exact List.suffix_rfl
      · exact hparts first rest hcuts
  | pair inner after hopens hcloses hinner hafter ihinner ihafter =>
      rename_i opening closing
      intro n
      obtain ⟨brace, hbrace⟩ := exists_opened_push n opening.2
      have hopening : (n.step opening.2).opened = brace :: n.opened := by
        rw [step, hopens]
        exact hbrace
      obtain ⟨hrun, hparts⟩ := ihinner (n.step opening.2)
      have hclosing : (((n.step opening.2).run inner).step closing.2).opened = n.opened := by
        rw [step, hcloses]
        simp [hrun, hopening]
      obtain ⟨hrun', hparts'⟩ := ihafter (((n.step opening.2).run inner).step closing.2)
      rw [hopening] at hparts
      rw [hclosing] at hrun' hparts'
      have hall : ∀ rest, n.run (opening :: (inner ++ closing :: rest))
          = (((n.step opening.2).run inner).step closing.2).run rest :=
        fun rest => run_append _ inner (closing :: rest)
      refine ⟨by rw [hall, hrun'], fun first rest hfirst => ?_⟩
      rcases List.cons_eq_append_iff.mp hfirst with ⟨rfl, -⟩ | ⟨first, rfl, hcuts⟩
      · exact List.suffix_rfl
      rcases List.append_eq_append_iff.mp hcuts with ⟨more, rfl, hmore⟩ | ⟨more, hinner, -⟩
      · rcases List.cons_eq_append_iff.mp hmore with ⟨rfl, -⟩ | ⟨more, rfl, hafter⟩
        · exact (List.suffix_cons brace _).trans (hparts _ [] (by simp))
        · rw [hall]
          exact hparts' more rest hafter
      · exact (List.suffix_cons brace _).trans (hparts first more hinner)

/-! Where statement `k` lies on the stack, seen from its opening brace. -/

section

variable {opening closing : Cut} {before inner : List Cut}

theorem step_section (hopens : opening.2.mark = .opens) (hsection : n.section? opening.2 = some k) :
    n.step opening.2 = ⟨some k :: n.opened, k + 1, false⟩ := by
  rw [step, hopens]
  exact push_section hsection

theorem not_mem_around_before (hn : n.Bounded) (hsection : (n.run before).section? p = some k) :
    k ∉ n.around := by
  intro hmem
  have hlt := hn k (mem_around.mp hmem)
  have hrun := next_le_run before n
  have hle := next_le_section hsection
  omega

theorem mem_around_inside (hopens : opening.2.mark = .opens)
    (hsection : n.section? opening.2 = some k) (hinner : Balanced inner) {first rest : List Cut}
    (hfirst : inner = first ++ rest) : k ∈ (n.run (opening :: first)).around := by
  have hsuffix := (run_balanced hinner (n.step opening.2)).2 first rest hfirst
  rw [step_section hopens hsection] at hsuffix
  rw [mem_around, run_cons, step_section hopens hsection]
  exact hsuffix.subset List.mem_cons_self

theorem not_mem_around_after (hn : n.Bounded) (hopens : opening.2.mark = .opens)
    (hcloses : closing.2.mark = .closes) (hsection : n.section? opening.2 = some k)
    (hinner : Balanced inner) (rest : List Cut) :
    k ∉ (n.run (opening :: (inner ++ closing :: rest))).around := by
  have hnew : k ∉ n.around :=
    not_mem_around_before hn (show (n.run []).section? opening.2 = some k from hsection)
  have hrun := (run_balanced hinner (n.step opening.2)).1
  have hle := next_le_run (inner ++ [closing]) (n.step opening.2)
  rw [run_append, run_cons, run_nil] at hle
  rw [mem_around, run_cons, run_append, run_cons]
  rw [step_section hopens hsection] at hrun hle ⊢
  refine not_mem_run rest (Nat.lt_of_lt_of_le (Nat.lt_succ_self k) hle) ?_
  rw [step, hcloses]
  simpa [hrun, mem_around] using hnew

end

end Nest

/-- Statement `k` is a section, with a pair of braces around some pieces that come after others. -/
structure IsSection (cuts before inner : List Cut) (k : Nat) : Prop where
  exists_pair : ∃ opening closing after, cuts = before ++ opening :: (inner ++ closing :: after) ∧
    opening.2.mark = .opens ∧ closing.2.mark = .closes ∧
    (Nest.start.run before).section? opening.2 = some k
  balanced : Balanced inner

/-- The pieces that lie in a section are those from its opening brace to its closing one, of which
the last has its text before the brace. -/
theorem IsSection.mem_around {cuts before inner : List Cut} {k : Nat}
    (h : IsSection cuts before inner k) {above below : List Cut} (hcuts : cuts = above ++ below) :
    k ∈ (Nest.start.run above).around ↔
      before.length < above.length ∧ above.length ≤ before.length + inner.length + 1 := by
  obtain ⟨⟨opening, closing, after, hpair, hopens, hcloses, hsection⟩, hbalanced⟩ := h
  have hbefore : ∀ more, before = above ++ more → k ∉ (Nest.start.run above).around := by
    rintro more rfl
    rw [Nest.run_append] at hsection
    exact Nest.not_mem_around_before (Nest.bounded_start.run above) hsection
  have hinside : ∀ first rest, inner = first ++ rest →
      k ∈ (Nest.start.run (before ++ opening :: first)).around := by
    intro first rest hfirst
    rw [Nest.run_append]
    exact Nest.mem_around_inside hopens hsection hbalanced hfirst
  have hafter : ∀ rest, k ∉
      (Nest.start.run (before ++ opening :: (inner ++ closing :: rest))).around := by
    intro rest
    rw [Nest.run_append]
    exact Nest.not_mem_around_after (Nest.bounded_start.run before) hopens hcloses hsection
      hbalanced rest
  -- The piece in question comes before the opening brace, between the two, or after both.
  rw [hpair] at hcuts
  rcases List.append_eq_append_iff.mp hcuts with ⟨more, habove, hmore⟩ | ⟨more, hmore, -⟩
  · rcases List.cons_eq_append_iff.mp hmore with ⟨rfl, -⟩ | ⟨first, rfl, hfirst⟩
    · rw [List.append_nil] at habove
      exact iff_of_false (hbefore [] (by simp [habove])) (by simp [habove])
    rw [habove]
    rcases List.append_eq_append_iff.mp hfirst with ⟨last, rfl, hlast⟩ | ⟨last, hinner, -⟩
    · rcases List.cons_eq_append_iff.mp hlast with ⟨rfl, -⟩ | ⟨last, rfl, -⟩
      · refine iff_of_true (hinside _ [] (by simp)) ?_
        simp only [List.length_append, List.length_cons, List.length_nil]
        omega
      · refine iff_of_false (hafter last) ?_
        simp only [List.length_append, List.length_cons]
        omega
    · refine iff_of_true (hinside first last hinner) ?_
      simp only [hinner, List.length_append, List.length_cons]
      omega
  · refine iff_of_false (hbefore more hmore) ?_
    simp only [hmore, List.length_append]
    omega

end Brace

end DeviceLint
