/-
Spans nest, and siblings do not overlap.

While a text is being read, the end of an open section is not known yet: its node only
learns how far its children reach when it is closed.  The invariant therefore asks less
of open sections than of finished nodes, and keeps instead what will be needed to finish
them: each starts no earlier than the section around it, after everything that is
finished there already, and before whatever is still to come.

Two line numbers bound what has been read.  No node reaches beyond line `last`, and no
node that may get more siblings or children starts after line `hi`.  A dialect in which a
line is one statement never needs the difference, for the next line is after both.  With
braces a statement may follow others of its own line, and that line may be long.

`apart` is what is asked of the span of a node and the start of a later sibling.  All that
matters about it is which lines it allows a new statement to start at.
-/
import DeviceLint.Layout.Parse
import DeviceLint.Proofs.Line
import DeviceLint.Proofs.Outline
import DeviceLint.Proofs.Walk

namespace DeviceLint

namespace Node

/-- What is right about a node of a text with a number of lines. -/
structure WellFormed (apart : Span → Nat → Prop) (lines : Nat) (n : Node) : Prop where
  /-- A leaf has no children. -/
  leaf : n.kind = .leaf → n.children = []
  one_le_first : 1 ≤ n.span.first
  first_le_last : n.span.first ≤ n.span.last
  last_le : n.span.last ≤ lines
  /-- The children lie in the node's span. -/
  within : ∀ c ∈ n.children, n.span.first ≤ c.span.first ∧ c.span.last ≤ n.span.last
  /-- The children are apart from each other. -/
  siblings : n.children.Pairwise fun a b => apart a.span b.span.first

variable {apart : Span → Nat → Prop} {lines : Nat} {n : Node}

theorem WellFormed.mono (h : n.WellFormed apart lines) {lines' : Nat} (hle : lines ≤ lines') :
    n.WellFormed apart lines' :=
  { h with last_le := Nat.le_trans h.last_le hle }

theorem WellFormed.reaching (h : n.WellFormed apart lines) {k : Nat} (hk : k ≤ lines) :
    (n.reaching k).WellFormed apart lines where
  leaf := h.leaf
  one_le_first := h.one_le_first
  first_le_last := Nat.le_trans h.first_le_last (Nat.le_max_left ..)
  last_le := Nat.max_le.mpr ⟨h.last_le, hk⟩
  within := fun c hc => ⟨(h.within c hc).1, Nat.le_trans (h.within c hc).2 (Nat.le_max_left ..)⟩
  siblings := h.siblings

theorem forall_preorder {p : Node → Prop} :
    (∀ m ∈ n.preorder, p m) ↔ p n ∧ ∀ m ∈ preorderAll n.children, p m := by
  rw [preorder_eq, List.forall_mem_cons]

/-- Nothing but the span can be wrong with a node without children. -/
theorem wellFormed_of_childless (hnone : n.children = []) (hone : 1 ≤ n.span.first)
    (hle : n.span.first ≤ n.span.last) (hlast : n.span.last ≤ lines) :
    ∀ m ∈ n.preorder, m.WellFormed apart lines := by
  rw [forall_preorder, hnone]
  exact ⟨⟨fun _ => hnone, hone, hle, hlast, by simp [hnone], by simp [hnone]⟩, by simp⟩

end Node

open Node

/-! ### Nodes next to each other -/

/-- Finished nodes of one section, none of which starts before line `lo` or after line `hi`. -/
structure Siblings (apart : Span → Nat → Prop) (lo hi last : Nat) (ns : List Node) : Prop where
  wellFormed : ∀ n ∈ preorderAll ns, n.WellFormed apart last
  starts : ∀ n ∈ ns, lo ≤ n.span.first ∧ n.span.first ≤ hi
  siblings : ns.Pairwise fun a b => apart a.span b.span.first

namespace Siblings

variable {apart : Span → Nat → Prop} {lo hi last : Nat} {ns : List Node} {n : Node}

theorem nil : Siblings apart lo hi last [] :=
  ⟨by simp, by simp, List.Pairwise.nil⟩

theorem mono (h : Siblings apart lo hi last ns) {hi' last' : Nat} (hhi : hi ≤ hi')
    (hlast : last ≤ last') : Siblings apart lo hi' last' ns where
  wellFormed := fun n hn => (h.wellFormed n hn).mono hlast
  starts := fun n hn => ⟨(h.starts n hn).1, Nat.le_trans (h.starts n hn).2 hhi⟩
  siblings := h.siblings

theorem last_le (h : Siblings apart lo hi last ns) (hn : n ∈ ns) : n.span.last ≤ last :=
  (h.wellFormed n (mem_preorderAll.mpr ⟨n, hn, mem_preorder_self n⟩)).last_le

theorem concat_iff : Siblings apart lo hi last (ns ++ [n]) ↔
    Siblings apart lo hi last ns ∧ (∀ m ∈ n.preorder, m.WellFormed apart last) ∧
      (lo ≤ n.span.first ∧ n.span.first ≤ hi) ∧ ∀ m ∈ ns, apart m.span n.span.first := by
  constructor
  · rintro ⟨hwf, hstarts, hsiblings⟩
    rw [preorderAll_append, preorderAll_singleton] at hwf
    rw [List.pairwise_append] at hsiblings
    refine ⟨⟨?_, ?_, hsiblings.1⟩, ?_, hstarts n (by simp), ?_⟩
    · exact fun m hm => hwf m (List.mem_append_left _ hm)
    · exact fun m hm => hstarts m (List.mem_append_left _ hm)
    · exact fun m hm => hwf m (List.mem_append_right _ hm)
    · exact fun m hm => hsiblings.2.2 m hm n (by simp)
  · rintro ⟨h, hwf, hstart, hapart⟩
    refine ⟨?_, ?_, ?_⟩
    · rw [preorderAll_append, preorderAll_singleton]
      exact List.forall_mem_append.mpr ⟨h.wellFormed, hwf⟩
    · exact List.forall_mem_append.mpr ⟨h.starts, by simpa using hstart⟩
    · rw [List.pairwise_append]
      exact ⟨h.siblings, List.pairwise_singleton _ _, by simpa using hapart⟩

end Siblings

/-! ### Outlines -/

namespace Outline

variable {α : Type}

/-- The first line of the innermost section; a text starts at line one. -/
def floor (o : Outline α) : Nat :=
  match o.opened with
  | [] => 1
  | g :: _ => g.node.span.first

/-- What is right about the node of an open section, seen from the outline around it. -/
structure Fits (apart : Span → Nat → Prop) (hi last : Nat) (outer : Outline α) (n : Node) :
    Prop where
  kind : n.kind = .group
  starts : outer.floor ≤ n.span.first ∧ n.span.first ≤ hi
  first_le_last : n.span.first ≤ n.span.last
  last_le : n.span.last ≤ last
  before : ∀ m ∈ outer.scope, apart m.span n.span.first
  children : Siblings apart n.span.first hi last n.children

/-- What is right about an outline of which all lines up to `last` have been read. -/
inductive Sound (apart : Span → Nat → Prop) (hi last : Nat) : Outline α → Prop
  | roots {ns : List Node} (h : Siblings apart 1 hi last ns) : Sound apart hi last ⟨ns, []⟩
  | opened {ns : List Node} {gs : List (OpenGroup α)} {g : OpenGroup α}
      (outer : Sound apart hi last ⟨ns, gs⟩) (fits : Fits apart hi last ⟨ns, gs⟩ g.node) :
      Sound apart hi last ⟨ns, g :: gs⟩

variable {apart : Span → Nat → Prop} {hi last : Nat} {o : Outline α} {n : Node}

theorem Fits.mono (h : Fits apart hi last o n) {hi' last' : Nat} (hhi : hi ≤ hi')
    (hlast : last ≤ last') : Fits apart hi' last' o n where
  kind := h.kind
  starts := ⟨h.starts.1, Nat.le_trans h.starts.2 hhi⟩
  first_le_last := h.first_le_last
  last_le := Nat.le_trans h.last_le hlast
  before := h.before
  children := h.children.mono hhi hlast

namespace Sound

theorem empty : Sound apart hi last (Outline.empty : Outline α) := roots Siblings.nil

theorem mono (h : Sound apart hi last o) {hi' last' : Nat} (hhi : hi ≤ hi')
    (hlast : last ≤ last') : Sound apart hi' last' o := by
  induction h with
  | roots h => exact roots (h.mono hhi hlast)
  | opened _ fits ih => exact opened ih (fits.mono hhi hlast)

theorem one_le_floor (h : Sound apart hi last o) : 1 ≤ o.floor := by
  induction h with
  | roots h => exact Nat.le_refl 1
  | opened _ fits ih => exact Nat.le_trans ih fits.starts.1

theorem floor_le (h : Sound apart hi last o) {k : Nat} (hone : 1 ≤ k) (hk : hi ≤ k) :
    o.floor ≤ k := by
  cases h with
  | roots h => exact hone
  | opened _ fits => exact Nat.le_trans fits.starts.2 hk

theorem scope (h : Sound apart hi last o) : Siblings apart o.floor hi last o.scope := by
  cases h with
  | roots h => exact h
  | opened _ fits => exact fits.children

/-! #### What changes the innermost section -/

theorem withScope (h : Sound apart hi last o) {ns : List Node}
    (hns : Siblings apart o.floor hi last ns) : Sound apart hi last (o.withScope ns) := by
  cases h with
  | roots h => exact roots hns
  | opened outer fits => exact opened outer { fits with children := hns }

theorem add (h : Sound apart hi last o) (hn : ∀ m ∈ n.preorder, m.WellFormed apart last)
    (hstart : o.floor ≤ n.span.first ∧ n.span.first ≤ hi)
    (hapart : ∀ m ∈ o.scope, apart m.span n.span.first) : Sound apart hi last (o.add n) := by
  rw [add_eq]
  exact h.withScope (Siblings.concat_iff.mpr ⟨h.scope, hn, hstart, hapart⟩)

/-- A node may be made to reach to any line that has been read. -/
theorem extendLast (h : Sound apart hi last o) {k : Nat} (hk : k ≤ last) :
    Sound apart hi last (o.extendLast k) := by
  rcases extendLast_eq o k with heq | ⟨ns, n, hscope, heq⟩
  · rw [heq]
    exact h
  · have hold := h.scope
    rw [hscope] at hold
    obtain ⟨hns, hwf, hstart, hapart⟩ := Siblings.concat_iff.mp hold
    rw [forall_preorder] at hwf
    rw [heq]
    refine h.withScope (Siblings.concat_iff.mpr ⟨hns, ?_, hstart, hapart⟩)
    exact forall_preorder.mpr ⟨hwf.1.reaching hk, hwf.2⟩

/-! #### Opening and closing -/

theorem push (h : Sound apart hi last o) (hn : Fits apart hi last o n) (tag : α) :
    Sound apart hi last (o.push n tag) := opened h hn

/-- A leaf that is taken back may be opened as a section. -/
theorem push_takeLastLeaf (h : Sound apart hi last o) {o' : Outline α}
    (htake : o.takeLastLeaf? = some (n, o')) (tag : α) :
    Sound apart hi last (o'.push { n with kind := .group } tag) := by
  obtain ⟨ns, hscope, hleaf, rfl⟩ := takeLastLeaf?_eq_some htake
  have hold := h.scope
  rw [hscope] at hold
  obtain ⟨hns, hwf, hstart, hapart⟩ := Siblings.concat_iff.mp hold
  have hn := hwf n (mem_preorder_self n)
  have hfloor : (o.withScope ns).floor = o.floor := by
    obtain ⟨roots, opened⟩ := o
    cases opened <;> rfl
  have hfits : Fits apart hi last (o.withScope ns) { n with kind := .group } := by
    refine ⟨rfl, ?_, hn.first_le_last, hn.last_le, ?_, ?_⟩
    · rw [hfloor]
      exact hstart
    · rw [scope_withScope]
      exact hapart
    · show Siblings apart n.span.first hi last n.children
      rw [hn.leaf hleaf]
      exact Siblings.nil
  exact (h.withScope hns).push hfits tag

/-- A section that fits is well formed once it encloses its children. -/
theorem wellFormed_enclosing (h : Sound apart hi last o) (hn : Fits apart hi last o n) :
    n.enclosing.WellFormed apart last := by
  obtain ⟨k, heq, hself, hchildren, hleast⟩ := enclosing_eq n
  rw [heq]
  refine ⟨?_, Nat.le_trans h.one_le_floor hn.starts.1, Nat.le_trans hn.first_le_last hself,
    hleast last hn.last_le fun c hc => hn.children.last_le hc, ?_, hn.children.siblings⟩
  · intro hleaf
    rw [hn.kind] at hleaf
    simp at hleaf
  · exact fun c hc => ⟨(hn.children.starts c hc).1, hchildren c hc⟩

theorem close (h : Sound apart hi last o) : Sound apart hi last o.close := by
  cases h with
  | roots h => exact roots h
  | opened outer fits =>
      rename_i ns gs g
      have hwf := outer.wellFormed_enclosing fits
      obtain ⟨k, heq, -⟩ := enclosing_eq g.node
      refine outer.add ?_ ?_ ?_
      · refine forall_preorder.mpr ⟨hwf, ?_⟩
        rw [heq]
        exact fits.children.wellFormed
      · rw [heq]
        exact fits.starts
      · rw [heq]
        exact fits.before

theorem closeAt (h : Sound apart hi last o) {k : Nat} (hk : k ≤ last) :
    Sound apart hi last (o.closeAt k) := by
  cases h with
  | roots h => exact roots h
  | opened outer fits =>
      rename_i ns gs g
      have hfits : Fits apart hi last ⟨ns, gs⟩ (g.node.reaching k) :=
        ⟨fits.kind, fits.starts, Nat.le_trans fits.first_le_last (Nat.le_max_left ..),
          Nat.max_le.mpr ⟨fits.last_le, hk⟩, fits.before, fits.children⟩
      have hopened : Sound apart hi last ⟨ns, { g with node := g.node.reaching k } :: gs⟩ :=
        opened outer hfits
      exact hopened.close

theorem closeMany (k : Nat) :
    ∀ {o : Outline α}, Sound apart hi last o → Sound apart hi last (Outline.closeMany k o) := by
  induction k with
  | zero => intro o h; exact h
  | succ k ih => intro o h; exact ih h.close

theorem closeManyAt {m : Nat} (hm : m ≤ last) (k : Nat) :
    ∀ {o : Outline α}, Sound apart hi last o → Sound apart hi last (Outline.closeManyAt m k o) := by
  induction k with
  | zero => intro o h; exact h
  | succ k ih => intro o h; exact ih (h.closeAt hm)

theorem finish (h : Sound apart hi last o) : Siblings apart 1 hi last o.finish := by
  have hall := (h.closeMany o.opened.length).scope
  have hnone := opened_closeMany_length o
  simp only [floor, Outline.scope, hnone] at hall
  exact hall

end Sound

end Outline

/-! ### Lines -/

namespace LogicalLine

/-- A line that comes after all lines up to `last`. -/
structure Follows (hi last : Nat) (l : LogicalLine) : Prop where
  one_le_first : 1 ≤ l.first
  hi_le_first : hi ≤ l.first
  last_lt_first : last < l.first
  first_le_last : l.first ≤ l.last

/-- A line at which one more node may start. -/
structure HasRoom (apart : Span → Nat → Prop) (hi last : Nat) (l : LogicalLine) : Prop where
  one_le_first : 1 ≤ l.first
  hi_le_first : hi ≤ l.first
  last_le_last : last ≤ l.last
  first_le_last : l.first ≤ l.last
  apart : ∀ s : Span, s.first ≤ hi → s.last ≤ last → apart s l.first

theorem span_eq {l : LogicalLine} (h : l.first ≤ l.last) : l.span = ⟨l.first, l.last⟩ := by
  rw [span, Span.between, Nat.max_eq_right h]

end LogicalLine

/-- A node may always be followed by one that starts on a line after it. -/
def Spaced (apart : Span → Nat → Prop) : Prop :=
  ∀ (s : Span) (first : Nat), s.first ≤ first → s.last < first → apart s first

theorem LogicalLine.Follows.hasRoom {apart : Span → Nat → Prop} (hspaced : Spaced apart)
    {hi last : Nat} {l : LogicalLine} (h : l.Follows hi last) : l.HasRoom apart hi last where
  one_le_first := h.one_le_first
  hi_le_first := h.hi_le_first
  last_le_last := Nat.le_trans (Nat.le_of_lt h.last_lt_first) h.first_le_last
  first_le_last := h.first_le_last
  apart := fun s hfirst hlast => hspaced s l.first (Nat.le_trans hfirst h.hi_le_first)
    (Nat.lt_of_le_of_lt hlast h.last_lt_first)

namespace Outline.Sound

variable {α : Type} {apart : Span → Nat → Prop} {hi last : Nat} {o : Outline α} {n : Node}
  {l : LogicalLine}

/-- Reading on to the end of a line. -/
theorem read (h : Sound apart hi last o) (hl : l.HasRoom apart hi last) :
    Sound apart l.first l.last o := h.mono hl.hi_le_first hl.last_le_last

theorem addAt (h : Sound apart hi last o) (hl : l.HasRoom apart hi last)
    (hspan : n.span = l.span) (hnone : n.children = []) :
    Sound apart l.first l.last (o.add n) := by
  rw [LogicalLine.span_eq hl.first_le_last] at hspan
  refine (h.read hl).add ?_ ?_ ?_
  · apply wellFormed_of_childless hnone
    · rw [hspan]
      exact hl.one_le_first
    · rw [hspan]
      exact hl.first_le_last
    · exact Nat.le_of_eq (by rw [hspan])
  · rw [hspan]
    exact ⟨h.floor_le hl.one_le_first hl.hi_le_first, Nat.le_refl _⟩
  · intro m hm
    rw [hspan]
    exact hl.apart _ (h.scope.starts m hm).2 (h.scope.last_le hm)

theorem pushAt (h : Sound apart hi last o) (hl : l.HasRoom apart hi last)
    (hspan : n.span = l.span) (hnone : n.children = []) (hkind : n.kind = .group) (tag : α) :
    Sound apart l.first l.last (o.push n tag) := by
  rw [LogicalLine.span_eq hl.first_le_last] at hspan
  refine (h.read hl).push ⟨hkind, ?_, ?_, ?_, ?_, ?_⟩ tag
  · rw [hspan]
    exact ⟨h.floor_le hl.one_le_first hl.hi_le_first, Nat.le_refl _⟩
  · rw [hspan]
    exact hl.first_le_last
  · exact Nat.le_of_eq (by rw [hspan])
  · intro m hm
    rw [hspan]
    exact hl.apart _ (h.scope.starts m hm).2 (h.scope.last_le hm)
  · rw [hnone]
    exact Siblings.nil

end Outline.Sound

open Outline (Sound)

variable {apart : Span → Nat → Prop}

/-- A reader that each line leaves sound is sound after all lines of a text. -/
theorem foldl_sound {α σ : Type} (step : σ → LogicalLine → σ) (view : σ → Outline α)
    (lines : Nat) (ls : List LogicalLine)
    (hstep : ∀ st hi last, ∀ l ∈ ls, Sound apart hi last (view st) → l.Follows hi last →
      Sound apart l.first l.last (view (step st l))) :
    ∀ (st : σ) (hi last : Nat), Sound apart hi last (view st) → hi ≤ last + 1 → last ≤ lines →
      LogicalLine.Ordered (lines + 1) (last + 1) ls →
      ∃ hi last, last ≤ lines ∧ Sound apart hi last (view (ls.foldl step st)) := by
  induction ls with
  | nil => intro st hi last h _ hlast _; exact ⟨hi, last, hlast, h⟩
  | cons l ls ih =>
      intro st hi last h hhi _ hordered
      obtain ⟨hfirst, hle, hend, hrest⟩ := hordered
      have hnext := hstep st hi last l List.mem_cons_self h
        ⟨by omega, by omega, by omega, hle⟩
      exact ih (fun st hi last l' hl' => hstep st hi last l' (List.mem_cons_of_mem _ hl'))
        (step st l) l.first l.last hnext (by omega) (by omega) hrest

/-! ### Indentation -/

namespace Indent

theorem sound_step (hspaced : Spaced apart) (schema : Schema) {o : Outline Nat} {hi last : Nat}
    {l : LogicalLine} (h : Sound apart hi last o) (hl : l.Follows hi last) (opening : Bool) :
    Sound apart l.first l.last (step schema o l opening) := by
  have hclosed := h.closeMany (shallower l.indent o)
  have hroom := hl.hasRoom hspaced
  have hread := hclosed.read hroom
  unfold step
  dsimp only
  split
  · split
    · exact hread.closeAt (Nat.le_refl _)
    · split
      · exact hread
      · exact hread.extendLast (Nat.le_refl _)
  · split
    · exact hclosed.pushAt hroom rfl rfl rfl _
    · exact hclosed.addAt hroom rfl rfl

theorem sound_steps (hspaced : Spaced apart) (schema : Schema) (lines : Nat)
    (ls : List LogicalLine) :
    ∀ (o : Outline Nat) (hi last : Nat), Sound apart hi last o → hi ≤ last + 1 → last ≤ lines →
      LogicalLine.Ordered (lines + 1) (last + 1) ls →
      ∃ hi last, last ≤ lines ∧ Sound apart hi last (steps schema o ls) := by
  induction ls with
  | nil => intro o hi last h _ hlast _; exact ⟨hi, last, hlast, h⟩
  | cons l ls ih =>
      intro o hi last h hhi _ hordered
      obtain ⟨hfirst, hle, hend, hrest⟩ := hordered
      have hnext := sound_step hspaced schema h ⟨by omega, by omega, by omega, hle⟩ (opens l ls)
      exact ih _ l.first l.last hnext (by omega) (by omega) hrest

end Indent

/-! ### Words -/

namespace Keyword

theorem sound_step (hspaced : Spaced apart) (schema : Schema) {o : Outline Nat} {hi last : Nat}
    {l : LogicalLine} (h : Sound apart hi last o) (hl : l.Follows hi last) :
    Sound apart l.first l.last (step schema o l) := by
  have hroom := hl.hasRoom hspaced
  have hread := h.read hroom
  unfold step
  cases closed? schema l with
  | some block =>
      dsimp only
      split
      · exact hread.closeManyAt (Nat.le_refl _) _
      · exact hread
  | none =>
      dsimp only
      split
      · exact h.pushAt hroom rfl rfl rfl _
      · exact h.addAt hroom rfl rfl

end Keyword

/-! ### Braces

A line may hold several statements, so a statement may follow others that reach to the
end of its own line.
-/

namespace Brace

variable {l : LogicalLine}

theorem sound_addLeaf (hl : l.HasRoom apart l.first l.last) {o : Outline Unit}
    (h : Sound apart l.first l.last o) (p : Piece) :
    Sound apart l.first l.last (addLeaf l o p) := by
  unfold addLeaf
  split
  · exact h
  · exact h.addAt hl rfl rfl

theorem sound_openGroup (hl : l.HasRoom apart l.first l.last) {st : State}
    (h : Sound apart l.first l.last st.outline) (p : Piece) :
    Sound apart l.first l.last (openGroup l st p).outline := by
  unfold openGroup
  split
  · split
    · rename_i htake
      exact h.push_takeLastLeaf htake ()
    · exact h
  · exact h.pushAt hl rfl rfl rfl ()

theorem sound_step (hl : l.HasRoom apart l.first l.last) {st : State}
    (h : Sound apart l.first l.last st.outline) (p : Piece) :
    Sound apart l.first l.last (step l st p).outline := by
  unfold step
  split
  · exact sound_openGroup hl h p
  · exact sound_addLeaf hl h p
  · have hleaf := sound_addLeaf hl h p
    dsimp only
    split
    · exact hleaf.closeAt (Nat.le_refl _)
    · exact hleaf

theorem sound_stepLine {hi last : Nat} (hspaced : Spaced apart) (hl : l.Follows hi last)
    (hown : ∀ s : Span, s.first ≤ l.first → s.last ≤ l.last → apart s l.first) {st : State}
    (h : Sound apart hi last st.outline) : Sound apart l.first l.last (stepLine st l).outline := by
  have hroom : l.HasRoom apart l.first l.last :=
    ⟨hl.one_le_first, Nat.le_refl _, Nat.le_refl _, hl.first_le_last, hown⟩
  have hpieces : ∀ (ps : List Piece) (st : State), Sound apart l.first l.last st.outline →
      Sound apart l.first l.last (ps.foldl (step l) st).outline := by
    intro ps
    induction ps with
    | nil => intro st h; exact h
    | cons p ps ih => intro st h; exact ih _ (sound_step hroom h p)
  exact hpieces (cut l.text) st (h.read (hl.hasRoom hspaced))

end Brace

/-! ### Any dialect -/

/-- Whether a node may have a later sibling that starts on line `first`.  With braces they may
share a line, and where one line may be many the second need only start no earlier. -/
def Schema.Apart (schema : Schema) (s : Span) (first : Nat) : Prop :=
  s.first ≤ first ∧
    match schema.blockStyle with
    | .brace => schema.IsSingleLine → s.last ≤ first
    | _ => s.last < first

theorem Schema.spaced_apart (schema : Schema) : Spaced schema.Apart := by
  intro s first hfirst hlast
  refine ⟨hfirst, ?_⟩
  split
  · exact fun _ => Nat.le_of_lt hlast
  · exact hlast

/-- What is right about a tree of a text with a number of lines. -/
structure Tree.WellFormed (apart : Span → Nat → Prop) (lines : Nat) (t : Tree) : Prop where
  nodes : ∀ n ∈ preorderAll t, n.WellFormed apart lines
  siblings : t.Pairwise fun a b => apart a.span b.span.first

theorem Siblings.wellFormed_tree {lo hi last lines : Nat} {t : Tree}
    (h : Siblings apart lo hi last t) (hlines : last ≤ lines) : t.WellFormed apart lines where
  nodes := fun n hn => (h.wellFormed n hn).mono hlines
  siblings := h.siblings

/-- The leaves of lines are siblings in order. -/
theorem flatTree_siblings (lines : Nat) (ls : List LogicalLine) :
    ∀ lo, 1 ≤ lo → LogicalLine.Ordered (lines + 1) lo ls →
      Siblings (fun s first => s.first ≤ first ∧ s.last < first) lo lines lines (flatTree ls) := by
  induction ls with
  | nil => intro lo _ _; exact Siblings.nil
  | cons l ls ih =>
      intro lo hlo hordered
      obtain ⟨hfirst, hle, hend, hrest⟩ := hordered
      obtain ⟨hwf, hstarts, hsiblings⟩ := ih (l.last + 1) (by omega) hrest
      have hspan : (l.node .leaf).span = ⟨l.first, l.last⟩ := LogicalLine.span_eq hle
      refine ⟨?_, ?_, ?_⟩
      · show ∀ n ∈ preorderAll (l.node .leaf :: flatTree ls), _
        rw [preorderAll_cons, List.forall_mem_append]
        refine ⟨wellFormed_of_childless rfl ?_ ?_ ?_, hwf⟩
        · rw [hspan]
          show 1 ≤ l.first
          omega
        · rw [hspan]
          exact hle
        · rw [hspan]
          show l.last ≤ lines
          omega
      · show ∀ n ∈ l.node .leaf :: flatTree ls, _
        rw [List.forall_mem_cons, hspan]
        refine ⟨⟨hfirst, ?_⟩, fun n hn => ?_⟩
        · show l.first ≤ lines
          omega
        · have := hstarts n hn
          omega
      · refine List.pairwise_cons.mpr ⟨fun n hn => ?_, hsiblings⟩
        have := (hstarts n hn).1
        rw [hspan]
        show l.first ≤ n.span.first ∧ l.last < n.span.first
        omega

/--
**Every tree is well formed.**

A leaf has no children, every span lies in the text and in the span of the node's
parent, and siblings are in source order and do not overlap.
-/
theorem parse_wellFormed (schema : Schema) (text : String) :
    (parse schema text).WellFormed schema.Apart (Text.lines text.toList).length := by
  have hordered := LogicalLine.ofText_ordered schema text
  have hspaced := schema.spaced_apart
  unfold parse treeOf
  cases hstyle : schema.blockStyle with
  | indent =>
      obtain ⟨hi, last, hlast, h⟩ := Indent.sound_steps hspaced schema _ _ Outline.empty 1 0
        Sound.empty (by omega) (by omega) hordered
      exact h.finish.wellFormed_tree hlast
  | brace =>
      have hstep : ∀ (st : Brace.State) (hi last : Nat), ∀ l ∈ LogicalLine.ofText schema text,
          Sound schema.Apart hi last st.outline → l.Follows hi last →
          Sound schema.Apart l.first l.last (Brace.stepLine st l).outline := by
        intro st hi last l hmem h hl
        refine Brace.sound_stepLine hspaced hl ?_ h
        intro s hfirst hend
        unfold Schema.Apart
        rw [hstyle]
        refine ⟨hfirst, fun hsingle => ?_⟩
        rw [LogicalLine.ofText_single hsingle hmem] at hend
        exact hend
      obtain ⟨hi, last, hlast, h⟩ := foldl_sound Brace.stepLine (·.outline) _ _ hstep
        ⟨Outline.empty, 0⟩ 1 0 Sound.empty (by omega) (by omega) hordered
      exact h.finish.wellFormed_tree hlast
  | keyword =>
      obtain ⟨hi, last, hlast, h⟩ := foldl_sound (Keyword.step schema) id _ _
        (fun o hi last l _ h hl => Keyword.sound_step hspaced schema h hl)
        Outline.empty 1 0 Sound.empty (by omega) (by omega) hordered
      exact h.finish.wellFormed_tree hlast
  | flat =>
      have h := flatTree_siblings _ _ 1 (Nat.le_refl 1) hordered
      have hapart : schema.Apart = fun s first => s.first ≤ first ∧ s.last < first := by
        funext s first
        unfold Schema.Apart
        rw [hstyle]
      rw [hapart]
      exact h.wellFormed_tree (Nat.le_refl _)

end DeviceLint
