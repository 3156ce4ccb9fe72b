/-
Where sections end.

The last line of a section is settled when it is closed: by a word or a brace it is that
line, for all that lies in the section has been read by then.  From there on the node is
only moved about, into the section around it and at last into the tree, and its place among
all nodes in source order stays what it was when it was opened.  So it is enough to look at
the moment of closing.
-/
import DeviceLint.Proofs.Nesting
import DeviceLint.Proofs.Site

namespace DeviceLint

open Node

namespace Outline

variable {α : Type}

/-! ### The last lines of nodes -/

/-- The last lines of finished nodes and of all below them, in source order. -/
def ended (ns : List Node) : List (Option Nat) := (preorderAll ns).map fun n => some n.span.last

/-- The last lines of all nodes of some trees and of open sections; the open sections themselves
have none yet. -/
def endsOf (roots : List Node) : List (OpenGroup α) → List (Option Nat)
  | [] => ended roots
  | g :: gs => endsOf roots gs ++ none :: ended g.node.children

/-- The last lines of all nodes so far, each at its place. -/
def ends (o : Outline α) : List (Option Nat) := endsOf o.roots o.opened

theorem ended_append (ns ms : List Node) : ended (ns ++ ms) = ended ns ++ ended ms := by
  rw [ended, preorderAll_append, List.map_append, ended, ended]

theorem ended_singleton (n : Node) : ended [n] = some n.span.last :: ended n.children := by
  rw [ended, preorderAll_singleton, preorder_eq, List.map_cons, ended]

theorem length_ended (around : List Nat) (place : Nat) (ns : List Node) :
    (ended ns).length = (sitesAll around place ns).length := by
  have hlisting := congrArg List.length (entries_sitesAll around place ns)
  rw [List.length_map, listingAll, List.length_map] at hlisting
  rw [ended, List.length_map, hlisting]

/-- Each node has one last line at most, and its place is that of its site. -/
theorem length_endsOf (roots : List Node) (gs : List (OpenGroup α)) :
    (endsOf roots gs).length = (surveyOf roots gs).sites.length := by
  induction gs with
  | nil => exact length_ended [] 0 roots
  | cons g gs ih =>
      rw [endsOf, surveyOf, Survey.enter, List.length_append, List.length_append, sites_eq, ih,
        List.length_cons, List.length_cons, length_ended]

theorem ends_add (o : Outline α) (n : Node) : (o.add n).ends = o.ends ++ ended [n] := by
  obtain ⟨roots, opened⟩ := o
  cases opened with
  | nil => exact ended_append roots [n]
  | cons g gs =>
      show endsOf roots gs ++ none :: ended (g.node.children ++ [n]) = _
      rw [ended_append, ends, endsOf, List.append_assoc, List.cons_append]

theorem ends_push (o : Outline α) (n : Node) (tag : α) :
    (o.push n tag).ends = o.ends ++ none :: ended n.children := rfl

/-- A section that is closed has a last line from then on. -/
theorem ends_close (roots : List Node) (gs : List (OpenGroup α)) (g : OpenGroup α) :
    (close ⟨roots, g :: gs⟩).ends
      = endsOf roots gs ++ some g.node.enclosing.span.last :: ended g.node.children := by
  obtain ⟨last, heq, -⟩ := enclosing_eq g.node
  have hchildren : g.node.enclosing.children = g.node.children := by rw [heq]
  rw [close, ends_add, ended_singleton, hchildren]
  rfl

/-! ### Last lines do not change -/

/-- Nodes that have a last line keep it. -/
def Keeps (before after : List (Option Nat)) : Prop :=
  ∀ (i last : Nat), before[i]? = some (some last) → after[i]? = some (some last)

namespace Keeps

variable {a b c : List (Option Nat)}

theorem refl (a : List (Option Nat)) : Keeps a a := fun _ _ h => h

theorem trans (hab : Keeps a b) (hbc : Keeps b c) : Keeps a c :=
  fun i last h => hbc i last (hab i last h)

theorem append (a b : List (Option Nat)) : Keeps a (a ++ b) := by
  intro i last h
  rw [List.getElem?_append_left (List.getElem?_eq_some_iff.mp h).1, h]

/-- A node may come by a last line. -/
theorem settle (a b : List (Option Nat)) (last : Nat) :
    Keeps (a ++ none :: b) (a ++ some last :: b) := by
  intro i k h
  rcases Nat.lt_trichotomy i a.length with hlt | rfl | hlt
  · rwa [List.getElem?_append_left hlt] at h ⊢
  · simp at h
  · rw [List.getElem?_append_right (Nat.le_of_lt hlt)] at h ⊢
    obtain ⟨j, hj⟩ := Nat.exists_eq_add_of_lt hlt
    rw [hj, show a.length + j + 1 - a.length = j + 1 by omega, List.getElem?_cons_succ] at h ⊢
    exact h

end Keeps

theorem keeps_add (o : Outline α) (n : Node) : Keeps o.ends (o.add n).ends := by
  rw [ends_add]
  exact Keeps.append _ _

theorem keeps_push (o : Outline α) (n : Node) (tag : α) : Keeps o.ends (o.push n tag).ends := by
  rw [ends_push]
  exact Keeps.append _ _

theorem keeps_close (o : Outline α) : Keeps o.ends o.close.ends := by
  obtain ⟨roots, opened⟩ := o
  cases opened with
  | nil => exact Keeps.refl _
  | cons g gs =>
      rw [ends_close]
      exact Keeps.settle _ _ _

theorem keeps_closeAt (o : Outline α) (last : Nat) : Keeps o.ends (o.closeAt last).ends := by
  obtain ⟨roots, opened⟩ := o
  cases opened with
  | nil => exact Keeps.refl _
  | cons g gs => exact keeps_close ⟨roots, { g with node := g.node.reaching last } :: gs⟩

theorem keeps_closeMany (k : Nat) : ∀ o : Outline α, Keeps o.ends (closeMany k o).ends := by
  induction k with
  | zero => exact fun o => Keeps.refl _
  | succ k ih => exact fun o => (keeps_close o).trans (ih _)

theorem keeps_closeManyAt (last k : Nat) :
    ∀ o : Outline α, Keeps o.ends (closeManyAt last k o).ends := by
  induction k with
  | zero => exact fun o => Keeps.refl _
  | succ k ih => exact fun o => (keeps_closeAt o last).trans (ih _)

/-- Last lines are in the tree what they were. -/
theorem last_finish {o : Outline α} {i last : Nat} (h : o.ends[i]? = some (some last)) :
    ∃ n, (preorderAll o.finish)[i]? = some n ∧ n.span.last = last := by
  have hends : (closeMany o.opened.length o).ends = ended o.finish := by
    rw [closeMany_all]
    rfl
  have hi := keeps_closeMany o.opened.length o i last h
  rw [hends, ended, List.getElem?_map, Option.map_eq_some_iff] at hi
  obtain ⟨n, hn, hlast⟩ := hi
  exact ⟨n, hn, Option.some.inj hlast⟩

/-! ### Closing at a line -/

variable {apart : Span → Nat → Prop} {hi last : Nat}

/-- A section that is closed at the line that has been read last ends there. -/
theorem last_closeAt {roots : List Node} {gs : List (OpenGroup α)} {g : OpenGroup α}
    (h : Sound apart hi last ⟨roots, g :: gs⟩) :
    (g.node.reaching last).enclosing.span.last = last := by
  cases h with
  | opened outer fits =>
      obtain ⟨k, heq, hself, -, hleast⟩ := enclosing_eq (g.node.reaching last)
      have hreaching : (g.node.reaching last).span.last = last := Nat.max_eq_right fits.last_le
      have hk : k = last := by
        refine Nat.le_antisymm (hleast last (Nat.le_of_eq hreaching) fun c hc => ?_) ?_
        · exact fits.children.last_le hc
        · rwa [hreaching] at hself
      rw [heq, hk]

/-- Sections that are closed at the line that has been read last all end there. -/
theorem ends_closeManyAt (k : Nat) : ∀ {o : Outline α}, Sound apart hi last o →
    ∀ i ∈ o.survey.opened.take k, (closeManyAt last k o).ends[i]? = some (some last) := by
  induction k with
  | zero => simp
  | succ k ih =>
      intro o h i hi
      obtain ⟨roots, opened⟩ := o
      cases opened with
      | nil => simp [survey, surveyOf] at hi
      | cons g gs =>
          rw [survey, surveyOf, Survey.enter, List.take_succ_cons, List.mem_cons] at hi
          rcases hi with rfl | hi
          · refine keeps_closeManyAt last k _ _ _ ?_
            rw [← length_endsOf, closeAt, ends_close, last_closeAt h,
              List.getElem?_append_right (Nat.le_refl _), Nat.sub_self, List.getElem?_cons_zero]
          · refine ih (h.closeAt (Nat.le_refl last)) i ?_
            rw [survey_closeAt]
            exact hi

end Outline

end DeviceLint
