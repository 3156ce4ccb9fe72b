/-
Nesting by indentation, without a stack.

The reader keeps the sections that are open, closes those a line is not deeper than, and
opens a section where the next line is deeper.  `forest` says the same by recursion: the
children of a line are made of the lines right after it that are deeper, and the rest
stands beside it.  The two agree because at every moment it is settled what will become
of the lines to come: those deeper than the innermost open section go into it, then it is
closed, and so on outwards.  `settled` says so, and a step of the reader only takes the
next line over to what has been read.

Induction on a forest goes by blocks: a line, the deeper lines after it, and lines of
which the first is not deeper.
-/
import DeviceLint.Layout.Parse
import DeviceLint.Proofs.Outline
import Mathlib.Data.List.TakeWhile

namespace DeviceLint

open Node

namespace Indent

/-! ### The forest of some lines -/

/-- Whether a line is deeper than a column. -/
def isDeeper (depth : Nat) (l : LogicalLine) : Bool := depth < l.indent

/-- The node of a line over the nodes below it. -/
def blockNode (l : LogicalLine) (below : List Node) : Node :=
  if below.isEmpty then l.node .leaf else enclosing { l.node .group with children := below }

/-- The nodes of some lines: each line stands over the deeper lines right after it. -/
def forest (ls : List LogicalLine) : List Node :=
  match ls with
  | [] => []
  | l :: ls =>
    blockNode l (forest (ls.takeWhile (isDeeper l.indent))) ::
      forest (ls.dropWhile (isDeeper l.indent))
termination_by ls.length
decreasing_by
  · exact Nat.lt_succ_of_le (List.takeWhile_sublist _).length_le
  · exact Nat.lt_succ_of_le (List.dropWhile_sublist _).length_le

@[simp] theorem forest_nil : forest [] = [] := by rw [forest]

/-- The lines after a line are the deeper ones right after it and the others. -/
structure IsBlock (l : LogicalLine) (inner outer : List LogicalLine) : Prop where
  inner : ∀ m ∈ inner, isDeeper l.indent m = true
  outer : ∀ m ∈ outer.head?, isDeeper l.indent m = false

variable {l : LogicalLine} {inner outer : List LogicalLine}

theorem exists_block (l : LogicalLine) (ls : List LogicalLine) :
    ∃ inner outer, ls = inner ++ outer ∧ IsBlock l inner outer := by
  refine ⟨ls.takeWhile (isDeeper l.indent), ls.dropWhile (isDeeper l.indent),
    List.takeWhile_append_dropWhile.symm, fun m hm => List.mem_takeWhile_imp hm, ?_⟩
  intro m hm
  have hhead := List.head?_dropWhile_not (isDeeper l.indent) ls
  rw [Option.mem_def] at hm
  simpa [hm] using hhead

theorem IsBlock.takeWhile (h : IsBlock l inner outer) :
    (inner ++ outer).takeWhile (isDeeper l.indent) = inner := by
  rw [List.takeWhile_append_of_pos h.inner]
  cases outer with
  | nil => simp
  | cons m ms => simp [h.outer m rfl]

theorem IsBlock.dropWhile (h : IsBlock l inner outer) :
    (inner ++ outer).dropWhile (isDeeper l.indent) = outer := by
  rw [List.dropWhile_append_of_pos h.inner]
  cases outer with
  | nil => rfl
  | cons m ms => simp [h.outer m rfl]

theorem forest_block (h : IsBlock l inner outer) :
    forest (l :: (inner ++ outer)) = blockNode l (forest inner) :: forest outer := by
  rw [forest, h.takeWhile, h.dropWhile]

/-- What holds of no lines, and of a block and the lines after it if it holds of the deeper lines
and of those, holds of all lines. -/
theorem block_induction {motive : List LogicalLine → Prop} (nil : motive [])
    (block : ∀ l inner outer, IsBlock l inner outer → motive inner → motive outer →
      motive (l :: (inner ++ outer))) (ls : List LogicalLine) : motive ls := by
  induction hlength : ls.length using Nat.strong_induction_on generalizing ls with
  | _ n ih =>
      cases ls with
      | nil => exact nil
      | cons l ls =>
          obtain ⟨inner, outer, rfl, hblock⟩ := exists_block l ls
          rw [List.length_cons, List.length_append] at hlength
          exact block l inner outer hblock (ih inner.length (by omega) inner rfl)
            (ih outer.length (by omega) outer rfl)

theorem forest_eq_nil_iff {ls : List LogicalLine} : forest ls = [] ↔ ls = [] := by
  cases ls with
  | nil => simp
  | cons l ls => simp [forest]

/-! ### What becomes of open sections -/

/-- The tree of which `opened` are the open sections when the nodes `more`, and after them some
lines, are still to come. -/
def settled (roots : List Node) : List (OpenGroup Nat) → List Node → List LogicalLine → List Node
  | [], more, ls => roots ++ more ++ forest ls
  | g :: gs, more, ls =>
    settled roots gs
      [enclosing { g.node with
        children := g.node.children ++ more ++ forest (ls.takeWhile (isDeeper g.tag)) }]
      (ls.dropWhile (isDeeper g.tag))

theorem settled_add (o : Outline Nat) (n : Node) (more : List Node) (ls : List LogicalLine) :
    settled (o.add n).roots (o.add n).opened more ls
      = settled o.roots o.opened (n :: more) ls := by
  obtain ⟨roots, opened⟩ := o
  cases opened with
  | nil => simp [Outline.add, settled]
  | cons g gs => simp [Outline.add, settled, append]

/-- A section that no more lines go into may as well be closed. -/
theorem settled_close {o : Outline Nat} {ls : List LogicalLine}
    (h : ∀ g ∈ o.opened.head?, ∀ m ∈ ls.head?, isDeeper g.tag m = false) :
    settled o.close.roots o.close.opened [] ls = settled o.roots o.opened [] ls := by
  obtain ⟨roots, opened⟩ := o
  cases opened with
  | nil => rfl
  | cons g gs =>
      have hnode : enclosing { g.node with children := g.node.children ++ [] ++ forest [] }
          = g.node.enclosing := by
        rw [forest_nil, List.append_nil, List.append_nil]
        cases g.node
        rfl
      have hnone : ls.takeWhile (isDeeper g.tag) = [] := by
        cases ls with
        | nil => rfl
        | cons m ms => exact List.takeWhile_cons_of_neg (by simp [h g rfl m rfl])
      have hall : ls.dropWhile (isDeeper g.tag) = ls := by
        cases ls with
        | nil => rfl
        | cons m ms => exact List.dropWhile_cons_of_neg (by simp [h g rfl m rfl])
      rw [Outline.close, settled_add, settled, hnone, hall, hnode]

/-- At the end of the text all open sections are closed. -/
theorem settled_finish (o : Outline Nat) : o.finish = settled o.roots o.opened [] [] := by
  have hmany : ∀ (k : Nat) (o : Outline Nat),
      settled (Outline.closeMany k o).roots (Outline.closeMany k o).opened [] []
        = settled o.roots o.opened [] [] := by
    intro k
    induction k with
    | zero => intro o; rfl
    | succ k ih => intro o; rw [Outline.closeMany, ih, settled_close (by simp)]
  rw [← hmany o.opened.length o, Outline.opened_closeMany_length, settled, Outline.finish]
  simp

theorem shallower_close {depth : Nat} {o : Outline Nat}
    (h : shallower depth o ≠ 0) : shallower depth o = shallower depth o.close + 1 := by
  obtain ⟨roots, opened⟩ := o
  cases opened with
  | nil => simp [shallower] at h
  | cons g gs =>
      have hg : depth ≤ g.tag := by
        by_contra hlt
        simp [shallower, hlt] at h
      cases gs with
      | nil => simp [shallower, hg, Outline.close, Outline.add]
      | cons g' gs =>
          by_cases hg' : depth ≤ g'.tag
          · simp [shallower, hg, hg', Outline.close, Outline.add]
          · simp [shallower, hg, hg', Outline.close, Outline.add]

/-- A line first closes the sections it is not deeper than, and then lies in the innermost that
is left. -/
theorem settled_closeMany (l : LogicalLine) (ls : List LogicalLine) (o : Outline Nat) :
    settled (Outline.closeMany (shallower l.indent o) o).roots
        (Outline.closeMany (shallower l.indent o) o).opened [] (l :: ls)
      = settled o.roots o.opened [] (l :: ls) ∧
    ∀ g ∈ (Outline.closeMany (shallower l.indent o) o).opened.head?,
      isDeeper g.tag l = true := by
  induction hk : shallower l.indent o generalizing o with
  | zero =>
      refine ⟨rfl, fun g hg => ?_⟩
      obtain ⟨roots, opened⟩ := o
      obtain ⟨gs, rfl⟩ : ∃ gs, opened = g :: gs := List.head?_eq_some_iff.mp hg
      by_contra hdeeper
      have hle : l.indent ≤ g.tag := by simpa [isDeeper] using hdeeper
      simp [shallower, hle] at hk
  | succ k ih =>
      have hclose := shallower_close (by omega : shallower l.indent o ≠ 0)
      obtain ⟨hsettled, hopened⟩ := ih o.close (by omega)
      refine ⟨?_, hopened⟩
      rw [Outline.closeMany, hsettled, settled_close]
      intro g hg m hm
      obtain rfl : l = m := by simpa using hm
      obtain ⟨roots, opened⟩ := o
      obtain ⟨gs, rfl⟩ : ∃ gs, opened = g :: gs := List.head?_eq_some_iff.mp hg
      by_contra hdeeper
      have hlt : ¬ l.indent ≤ g.tag := by simpa [isDeeper] using hdeeper
      simp [shallower, hlt] at hk

/-! ### Lines -/

/-- A line in the innermost section goes there together with the deeper lines after it. -/
theorem settled_block (h : IsBlock l inner outer) {o : Outline Nat}
    (hopened : ∀ g ∈ o.opened.head?, isDeeper g.tag l = true) :
    settled o.roots o.opened [] (l :: (inner ++ outer))
      = settled o.roots o.opened [blockNode l (forest inner)] outer := by
  obtain ⟨roots, opened⟩ := o
  cases opened with
  | nil => simp [settled, forest_block h]
  | cons g gs =>
      have hl : isDeeper g.tag l = true := hopened g rfl
      have hinner : ∀ m ∈ l :: inner, isDeeper g.tag m = true := by
        intro m hm
        rcases List.mem_cons.mp hm with rfl | hm
        · exact hl
        · have hm := h.inner m hm
          simp only [isDeeper, decide_eq_true_eq] at hl hm ⊢
          omega
      have hblock : IsBlock l inner (outer.takeWhile (isDeeper g.tag)) := by
        refine ⟨h.inner, fun m hm => h.outer m ?_⟩
        obtain ⟨ms, hms⟩ := List.head?_eq_some_iff.mp hm
        rw [← List.takeWhile_append_dropWhile (p := isDeeper g.tag) (l := outer), hms]
        rfl
      rw [settled, settled, ← List.cons_append, List.takeWhile_append_of_pos hinner,
        List.dropWhile_append_of_pos hinner, List.cons_append, forest_block hblock]
      simp

/-- **A step takes the next line over to what has been read.** -/
theorem settled_step {schema : Schema} {l : LogicalLine}
    (hterm : schema.isTerminator l.statement = false) (o : Outline Nat) (ls : List LogicalLine) :
    settled (step schema o l (opens l ls)).roots (step schema o l (opens l ls)).opened [] ls
      = settled o.roots o.opened [] (l :: ls) := by
  obtain ⟨hclosed, hopened⟩ := settled_closeMany l ls o
  obtain ⟨inner, outer, rfl, hblock⟩ := exists_block l ls
  rw [← hclosed, settled_block hblock hopened]
  unfold step
  dsimp only
  rw [if_neg (by simp [hterm])]
  cases inner with
  | nil =>
      have hleaf : opens l outer = false := by
        cases outer with
        | nil => rfl
        | cons m ms => exact hblock.outer m rfl
      rw [List.nil_append, if_neg (by simp [hleaf]), settled_add, forest_nil]
      rfl
  | cons m ms =>
      have hgroup : opens l (m :: ms ++ outer) = true := hblock.inner m List.mem_cons_self
      have hbelow : (forest (m :: ms)).isEmpty = false := by simp [forest_eq_nil_iff]
      rw [if_pos hgroup, Outline.push, settled, hblock.takeWhile, hblock.dropWhile, blockNode,
        hbelow]
      rfl

theorem settled_steps {schema : Schema} {ls : List LogicalLine}
    (hterm : ∀ l ∈ ls, schema.isTerminator l.statement = false) :
    ∀ o : Outline Nat, settled (steps schema o ls).roots (steps schema o ls).opened [] []
      = settled o.roots o.opened [] ls := by
  induction ls with
  | nil => intro o; rfl
  | cons l ls ih =>
      intro o
      rw [steps, ih (fun l' hl' => hterm l' (List.mem_cons_of_mem _ hl')),
        settled_step (hterm l List.mem_cons_self)]

/-- **Without terminators a line stands over the deeper lines right after it.** -/
theorem build_eq_forest {schema : Schema} {ls : List LogicalLine}
    (hterm : ∀ l ∈ ls, schema.isTerminator l.statement = false) : build schema ls = forest ls := by
  rw [build, settled_finish, settled_steps hterm]
  simp [settled, Outline.empty]

end Indent

end DeviceLint
