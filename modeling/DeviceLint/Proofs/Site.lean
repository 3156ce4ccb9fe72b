/-
Where each node stands in a tree.

A node's site is what is listed of it and which nodes it lies in.  Those are told by their
places in source order, counted from zero, the innermost first; entries would not do, for
two statements may look alike.

A survey of an outline holds the sites of all that has been read, and the places of the
sections that are open.  It is all that is to be known of an outline if the question is
what will lie in what: a node that is added or opened lies in the sections that are open,
and closing one only takes it off that list.
-/
import DeviceLint.Proofs.Listing
import Mathlib.Data.List.Nodup

namespace DeviceLint

/-- What is listed of a node and the places of the nodes it lies in, the innermost first. -/
structure Site where
  entry : Entry
  around : List Nat
  deriving DecidableEq, Repr

namespace Node

mutual

/-- The sites of a node at a place and of all nodes below it, in source order. -/
def sites (around : List Nat) (place : Nat) : Node → List Site
  | ⟨id, raw, _, _, children, span⟩ =>
    ⟨⟨id, raw, span.first⟩, around⟩ :: sitesAll (place :: around) (place + 1) children

/-- The sites of one tree after the other. -/
def sitesAll (around : List Nat) (place : Nat) : List Node → List Site
  | [] => []
  | n :: ns =>
    sites around place n ++ sitesAll around (place + (sites around place n).length) ns

end

variable {around : List Nat} {place : Nat}

theorem sites_eq (n : Node) : n.sites around place
    = ⟨n.entry, around⟩ :: sitesAll (place :: around) (place + 1) n.children := by
  cases n
  rw [sites]
  rfl

theorem sites_childless {n : Node} (h : n.children = []) :
    n.sites around place = [⟨n.entry, around⟩] := by
  rw [sites_eq, h, sitesAll]

/-- Only the entry of a node and its children are told by its sites. -/
theorem sites_congr {n m : Node} (hentry : n.entry = m.entry) (hchildren : n.children = m.children) :
    n.sites around place = m.sites around place := by
  rw [sites_eq, sites_eq, hentry, hchildren]

theorem sites_reaching (n : Node) (last : Nat) :
    (n.reaching last).sites around place = n.sites around place := sites_congr rfl rfl

theorem sites_enclosing (n : Node) : n.enclosing.sites around place = n.sites around place := by
  obtain ⟨last, heq, -⟩ := enclosing_eq n
  rw [heq]
  exact sites_congr rfl rfl

theorem sitesAll_append (ns ms : List Node) :
    ∀ place, sitesAll around place (ns ++ ms) = sitesAll around place ns ++
      sitesAll around (place + (sitesAll around place ns).length) ms := by
  induction ns with
  | nil => intro place; rfl
  | cons n ns ih =>
      intro place
      rw [List.cons_append, sitesAll, sitesAll, ih, List.length_append, List.append_assoc,
        Nat.add_assoc]

theorem sitesAll_singleton (n : Node) : sitesAll around place [n] = n.sites around place := by
  rw [sitesAll, sitesAll, List.append_nil]

mutual

/-- The entries of the sites are those of the nodes. -/
theorem entries_sites (around : List Nat) (place : Nat) (n : Node) :
    (n.sites around place).map (·.entry) = n.listing := by
  match n with
  | ⟨id, raw, params, kind, children, span⟩ =>
      rw [sites, List.map_cons, entries_sitesAll, listing_eq]
      rfl

theorem entries_sitesAll (around : List Nat) (place : Nat) (ns : List Node) :
    (sitesAll around place ns).map (·.entry) = listingAll ns := by
  match ns with
  | [] => rw [sitesAll, List.map_nil, listingAll_nil]
  | n :: ns =>
      rw [sitesAll, List.map_append, entries_sites, entries_sitesAll, ← listingAll_singleton,
        ← listingAll_append, List.singleton_append]

end

theorem length_sites (around : List Nat) (place : Nat) (n : Node) :
    (n.sites around place).length = n.preorder.length := by
  have hlisting := congrArg List.length (entries_sites around place n)
  rwa [List.length_map, listing, List.length_map] at hlisting

/-! ### Children

The first place a node's site tells is that of the node it is a child of.
-/

theorem mem_sitesAll_of_mem {ns : List Node} :
    ∀ place, ∀ c ∈ ns, ⟨c.entry, around⟩ ∈ sitesAll around place ns := by
  induction ns with
  | nil => simp
  | cons n ns ih =>
      intro place c hc
      rw [sitesAll, List.mem_append]
      rcases List.mem_cons.mp hc with rfl | hc
      · exact Or.inl (by simp [sites_eq])
      · exact Or.inr (ih _ c hc)

mutual

/-- All children of the node at a place have the same site around them. -/
theorem exists_around_children (around : List Nat) (place : Nat) (n : Node) {i : Nat} {h : Node}
    (hi : n.preorder[i]? = some h) :
    ∃ rest, ∀ c ∈ h.children, ⟨c.entry, (place + i) :: rest⟩ ∈ n.sites around place := by
  match n, i with
  | ⟨id, raw, params, kind, children, span⟩, 0 =>
      rw [preorder_eq, List.getElem?_cons_zero, Option.some.injEq] at hi
      subst hi
      refine ⟨around, fun c hc => ?_⟩
      rw [sites]
      exact List.mem_cons_of_mem _ (mem_sitesAll_of_mem _ c hc)
  | ⟨id, raw, params, kind, children, span⟩, i + 1 =>
      rw [preorder_eq, List.getElem?_cons_succ] at hi
      obtain ⟨rest, hrest⟩ := exists_around_childrenAll (place :: around) (place + 1) children hi
      refine ⟨rest, fun c hc => ?_⟩
      rw [sites, Nat.add_comm i 1, ← Nat.add_assoc]
      exact List.mem_cons_of_mem _ (hrest c hc)

theorem exists_around_childrenAll (around : List Nat) (place : Nat) (ns : List Node) {i : Nat}
    {h : Node} (hi : (preorderAll ns)[i]? = some h) :
    ∃ rest, ∀ c ∈ h.children, ⟨c.entry, (place + i) :: rest⟩ ∈ sitesAll around place ns := by
  match ns with
  | [] => simp at hi
  | n :: ns =>
      rw [preorderAll_cons] at hi
      rw [sitesAll]
      by_cases hlt : i < n.preorder.length
      · rw [List.getElem?_append_left hlt] at hi
        obtain ⟨rest, hrest⟩ := exists_around_children around place n hi
        exact ⟨rest, fun c hc => List.mem_append_left _ (hrest c hc)⟩
      · rw [List.getElem?_append_right (by omega)] at hi
        obtain ⟨rest, hrest⟩ :=
          exists_around_childrenAll around (place + n.preorder.length) ns hi
        refine ⟨rest, fun c hc => List.mem_append_right _ ?_⟩
        rw [length_sites]
        have hplace : place + n.preorder.length + (i - n.preorder.length) = place + i := by omega
        rw [← hplace]
        exact hrest c hc

end

mutual

/-- A site is that of a root, or that of a child of the node at the first place it tells. -/
theorem of_mem_sites (around : List Nat) (place : Nat) (n : Node) {s : Site}
    (hs : s ∈ n.sites around place) : s = ⟨n.entry, around⟩ ∨
      ∃ i h rest, n.preorder[i]? = some h ∧ s.around = (place + i) :: rest ∧
        ∃ c ∈ h.children, c.entry = s.entry := by
  match n with
  | ⟨id, raw, params, kind, children, span⟩ =>
      rw [sites, List.mem_cons] at hs
      rcases hs with rfl | hs
      · exact Or.inl rfl
      · refine Or.inr ?_
        rcases of_mem_sitesAll (place :: around) (place + 1) children hs with
          ⟨c, hc, rfl⟩ | ⟨i, h, rest, hi, haround, hchild⟩
        · exact ⟨0, _, around, by rw [preorder_eq]; rfl, rfl, c, hc, rfl⟩
        · refine ⟨i + 1, h, rest, by rwa [preorder_eq], ?_, hchild⟩
          rw [haround, Nat.add_assoc, Nat.add_comm 1 i]

theorem of_mem_sitesAll (around : List Nat) (place : Nat) (ns : List Node) {s : Site}
    (hs : s ∈ sitesAll around place ns) : (∃ c ∈ ns, s = ⟨c.entry, around⟩) ∨
      ∃ i h rest, (preorderAll ns)[i]? = some h ∧ s.around = (place + i) :: rest ∧
        ∃ c ∈ h.children, c.entry = s.entry := by
  match ns with
  | [] => simp [sitesAll] at hs
  | n :: ns =>
      rw [sitesAll, List.mem_append] at hs
      rcases hs with hs | hs
      · rcases of_mem_sites around place n hs with heq | ⟨i, h, rest, hi, haround, hchild⟩
        · exact Or.inl ⟨n, List.mem_cons_self, heq⟩
        · refine Or.inr ⟨i, h, rest, ?_, haround, hchild⟩
          rw [preorderAll_cons, List.getElem?_append_left (List.getElem?_eq_some_iff.mp hi).1]
          exact hi
      · rcases of_mem_sitesAll around _ ns hs with
          ⟨c, hc, heq⟩ | ⟨i, h, rest, hi, haround, hchild⟩
        · exact Or.inl ⟨c, List.mem_cons_of_mem _ hc, heq⟩
        · refine Or.inr ⟨n.preorder.length + i, h, rest, ?_, ?_, hchild⟩
          · rw [preorderAll_cons, List.getElem?_append_right (by omega), Nat.add_sub_cancel_left]
            exact hi
          · rw [haround, length_sites, Nat.add_assoc]

end

/-- In a tree of which no two nodes look alike: the children of a node are the nodes whose sites
begin with its place. -/
theorem exists_place {tree : List Node} (hnodup : ((sitesAll [] 0 tree).map (·.entry)).Nodup)
    {h : Node} (hh : h ∈ preorderAll tree) :
    ∃ i, ∀ s ∈ sitesAll [] 0 tree,
      (∃ c ∈ h.children, c.entry = s.entry) ↔ s.around.head? = some i := by
  obtain ⟨i, hi⟩ := List.getElem?_of_mem hh
  obtain ⟨rest, hrest⟩ := exists_around_childrenAll [] 0 tree hi
  rw [Nat.zero_add] at hrest
  refine ⟨i, fun s hs => ⟨?_, fun hhead => ?_⟩⟩
  · rintro ⟨c, hc, hentry⟩
    have heq := List.inj_on_of_nodup_map hnodup hs (hrest c hc) hentry.symm
    rw [heq]
    rfl
  · rcases of_mem_sitesAll [] 0 tree hs with ⟨c, -, rfl⟩ | ⟨j, h', rest', hj, haround, hchild⟩
    · simp at hhead
    · rw [haround, List.head?_cons, Option.some.injEq, Nat.zero_add] at hhead
      subst hhead
      obtain rfl : h' = h := Option.some.inj (hj.symm.trans hi)
      exact hchild

end Node

open Node

/-! ### Surveys -/

/-- What lies in what so far. -/
structure Survey where
  sites : List Site
  /-- The places of the open sections, the innermost first. -/
  opened : List Nat
  deriving DecidableEq

namespace Survey

/-- A finished node in the innermost section. -/
def put (s : Survey) (n : Node) : Survey :=
  { s with sites := s.sites ++ n.sites s.opened s.sites.length }

/-- A section opened inside the innermost one. -/
def enter (s : Survey) (n : Node) : Survey where
  sites := s.sites ++ n.sites s.opened s.sites.length
  opened := s.sites.length :: s.opened

/-- The innermost sections closed. -/
def leave (s : Survey) (k : Nat) : Survey := { s with opened := s.opened.drop k }

/-- The places of open sections are places of nodes, and an inner section comes after those it
lies in. -/
structure IsNested (s : Survey) : Prop where
  lt_length : ∀ i ∈ s.opened, i < s.sites.length
  descending : s.opened.Pairwise (· > ·)

theorem length_put_le (s : Survey) (n : Node) : s.sites.length < (s.put n).sites.length := by
  rw [put, List.length_append, sites_eq, List.length_cons]
  omega

theorem IsNested.enter {s : Survey} (h : s.IsNested) (n : Node) : (s.enter n).IsNested where
  lt_length := by
    intro i hi
    have hlength : s.sites.length < (s.enter n).sites.length := length_put_le s n
    rcases List.mem_cons.mp hi with rfl | hi
    · exact hlength
    · exact Nat.lt_trans (h.lt_length i hi) hlength
  descending := List.pairwise_cons.mpr ⟨h.lt_length, h.descending⟩

end Survey

namespace Outline

variable {α : Type}

/-- The survey of some trees and of open sections, which are given innermost first. -/
def surveyOf (roots : List Node) : List (OpenGroup α) → Survey
  | [] => ⟨sitesAll [] 0 roots, []⟩
  | g :: gs => (surveyOf roots gs).enter g.node

def survey (o : Outline α) : Survey := surveyOf o.roots o.opened

theorem survey_isNested (o : Outline α) : o.survey.IsNested := by
  obtain ⟨roots, opened⟩ := o
  induction opened with
  | nil => exact ⟨by simp [survey, surveyOf], List.Pairwise.nil⟩
  | cons g gs ih => exact ih.enter g.node

/-- Nodes in the innermost section stand last. -/
theorem survey_withScope (o : Outline α) : ∃ before, ∀ ns,
    (o.withScope ns).survey
      = ⟨before ++ sitesAll o.survey.opened before.length ns, o.survey.opened⟩ := by
  obtain ⟨roots, opened⟩ := o
  cases opened with
  | nil => exact ⟨[], fun ns => rfl⟩
  | cons g gs =>
      refine ⟨(surveyOf roots gs).sites ++ [⟨g.node.entry, (surveyOf roots gs).opened⟩],
        fun ns => ?_⟩
      simp only [survey, withScope, surveyOf, Survey.enter, sites_eq, List.length_append,
        List.length_singleton, List.append_assoc, List.singleton_append]
      rfl

theorem survey_eq_of_scope {o : Outline α} {before : List Site} {ns : List Node}
    (h : ∀ ns, (o.withScope ns).survey
      = ⟨before ++ sitesAll o.survey.opened before.length ns, o.survey.opened⟩)
    (hscope : o.scope = ns) :
    o.survey = ⟨before ++ sitesAll o.survey.opened before.length ns, o.survey.opened⟩ := by
  rw [← h, ← hscope, withScope_scope]

theorem survey_concat {o : Outline α} {ns : List Node} (hscope : o.scope = ns) (n : Node) :
    (o.withScope (ns ++ [n])).survey = o.survey.put n := by
  obtain ⟨before, h⟩ := survey_withScope o
  rw [h, sitesAll_append, sitesAll_singleton, ← List.append_assoc, ← List.length_append,
    Survey.put]
  have hsites := congrArg Survey.sites (survey_eq_of_scope h hscope)
  dsimp only at hsites
  rw [← hsites]

theorem survey_add (o : Outline α) (n : Node) : (o.add n).survey = o.survey.put n := by
  rw [add_eq, survey_concat rfl]

theorem survey_push (o : Outline α) (n : Node) (tag : α) :
    (o.push n tag).survey = o.survey.enter n := rfl

theorem survey_close (o : Outline α) : o.close.survey = o.survey.leave 1 := by
  obtain ⟨roots, opened⟩ := o
  cases opened with
  | nil => rfl
  | cons g gs =>
      rw [close, survey_add, Survey.put, sites_enclosing]
      rfl

theorem survey_closeAt (o : Outline α) (last : Nat) : (o.closeAt last).survey = o.survey.leave 1 := by
  obtain ⟨roots, opened⟩ := o
  cases opened with
  | nil => rfl
  | cons g gs =>
      rw [closeAt, survey_close]
      show ((surveyOf roots gs).enter (g.node.reaching last)).leave 1 = _
      rw [Survey.enter, sites_reaching]
      rfl

theorem survey_closeMany (k : Nat) :
    ∀ o : Outline α, (closeMany k o).survey = o.survey.leave k := by
  induction k with
  | zero => intro o; rfl
  | succ k ih =>
      intro o
      rw [closeMany, ih, survey_close]
      simp only [Survey.leave, List.drop_drop, Nat.add_comm]

theorem survey_closeManyAt (last k : Nat) :
    ∀ o : Outline α, (closeManyAt last k o).survey = o.survey.leave k := by
  induction k with
  | zero => intro o; rfl
  | succ k ih =>
      intro o
      rw [closeManyAt, ih, survey_closeAt]
      simp only [Survey.leave, List.drop_drop, Nat.add_comm]

theorem survey_extendLast (o : Outline α) (last : Nat) : (o.extendLast last).survey = o.survey := by
  rcases extendLast_eq o last with heq | ⟨ns, n, hscope, heq⟩
  · rw [heq]
  · obtain ⟨before, h⟩ := survey_withScope o
    rw [heq, h, survey_eq_of_scope h hscope, sitesAll_append, sitesAll_append, sitesAll_singleton,
      sitesAll_singleton, sites_reaching]

/-- A leaf that is taken back was put in last. -/
theorem survey_takeLastLeaf {o o' : Outline α} {n : Node}
    (h : o.takeLastLeaf? = some (n, o')) : o'.survey.put n = o.survey := by
  obtain ⟨ns, hscope, -, rfl⟩ := takeLastLeaf?_eq_some h
  have hconcat := survey_concat (o := o.withScope ns) (scope_withScope o ns) n
  rw [withScope_withScope, ← hscope, withScope_scope] at hconcat
  exact hconcat.symm

/-- At the end of the text nothing has moved. -/
theorem sitesAll_finish (o : Outline α) : sitesAll [] 0 o.finish = o.survey.sites := by
  have hclosed := congrArg Survey.sites (survey_closeMany o.opened.length o)
  rw [closeMany_all] at hclosed
  exact hclosed

end Outline

end DeviceLint
