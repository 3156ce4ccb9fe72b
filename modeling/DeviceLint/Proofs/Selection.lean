/-
Selectors, from the general to the particular.

All that matching sees of a selector or an id is its words, the case of ASCII letters aside.
A selector matches if it has words and they begin those of the other text.  So selectors are
ordered as the beginnings of lists are: one that matches another matches whatever that one
matches, and two that match each other have the same words.

A search goes through all nodes of a tree and keeps those that match, so the more general of two
selectors finds what the other one finds and maybe more, in source order both.  And there is no
other way for one selector to find in every tree what another one does, except that a blank one
finds nothing anywhere.
-/
import DeviceLint.Proofs.Text
import DeviceLint.Proofs.Walk
import DeviceLint.Schema.Builtin
import DeviceLint.Layout.Parse
import Mathlib.Data.List.Basic
import Mathlib.Data.List.Forall2

namespace DeviceLint

namespace Text

/-- Words that differ one by one in nothing but the case of ASCII letters. -/
def SameWords (us vs : List (List Char)) : Prop :=
  List.Forall₂ (fun u v => eqIgnoreAsciiCase u v = true) us vs

theorem sameWords_iff {us vs : List (List Char)} :
    SameWords us vs ↔ us.map (·.map Char.toLower) = vs.map (·.map Char.toLower) := by
  rw [← List.forall₂_eq_eq_eq, List.forall₂_map_left_iff, List.forall₂_map_right_iff, SameWords]
  simp only [eqIgnoreAsciiCase_iff]

end Text

namespace Selector

/-! ### What matching sees -/

/-- The words of a selector or an id, the case of ASCII letters aside. -/
def form (s : String) : List (List Char) := (Text.words s.toList).map (·.map Char.toLower)

theorem form_eq_nil_iff {s : String} : form s = [] ↔ ∀ c ∈ s.toList, Text.isBlank c = true := by
  rw [form, List.map_eq_nil_iff, Text.words_eq_nil_iff]

theorem leads_iff {wanted offered : List (List Char)} : leads wanted offered = true ↔
    wanted.map (·.map Char.toLower) <+: offered.map (·.map Char.toLower) := by
  induction wanted generalizing offered with
  | nil => simp [leads]
  | cons w ws ih =>
      cases offered with
      | nil => simp [leads]
      | cons o os =>
          rw [leads, Bool.and_eq_true, ih, List.map_cons, List.map_cons, List.cons_prefix_cons,
            Text.eqIgnoreAsciiCase_iff, eq_comm]

/-- What is matched begins with the words of the selector. -/
theorem exists_append_of_leads {wanted offered : List (List Char)}
    (h : leads wanted offered = true) :
    ∃ us vs, offered = us ++ vs ∧ Text.SameWords us wanted := by
  obtain ⟨us, ⟨vs, hoffered⟩, hwanted⟩ := List.prefix_map_iff.mp (leads_iff.mp h)
  exact ⟨us, vs, hoffered.symm, Text.sameWords_iff.mpr hwanted.symm⟩

theorem matchesId_iff {selector id : String} :
    matchesId selector id = true ↔ form selector ≠ [] ∧ form selector <+: form id := by
  simp [matchesId, leads_iff, form]

/-- A selector that is not blank matches itself. -/
theorem matchesId_self {s : String} (h : form s ≠ []) : matchesId s s = true :=
  matchesId_iff.mpr ⟨h, List.prefix_refl _⟩

theorem matchesId_trans {a b c : String} (hab : matchesId a b = true)
    (hbc : matchesId b c = true) : matchesId a c = true := by
  rw [matchesId_iff] at hab hbc ⊢
  exact ⟨hab.1, hab.2.trans hbc.2⟩

theorem matchesId_antisymm {a b : String} (hab : matchesId a b = true)
    (hba : matchesId b a = true) : form a = form b := by
  rw [matchesId_iff] at hab hba
  exact hab.2.eq_of_length_le hba.2.length_le

theorem matchesId_of_blank {a : String} (h : form a = []) (b : String) :
    matchesId a b = false := by
  rw [← Bool.not_eq_true, matchesId_iff]
  exact fun hmatch => hmatch.1 h

end Selector

/-! ### Searches -/

namespace Tree

open Selector

theorem mem_findAll_iff {t : Tree} {selector : String} {n : Node} :
    n ∈ t.findAll selector ↔ t.Has n ∧ matchesId selector n.id = true := by
  rw [findAll, List.mem_filter, mem_walk_iff]
  rfl

theorem findAll_of_blank {selector : String} (h : form selector = []) (t : Tree) :
    t.findAll selector = [] := by
  rw [findAll, List.filter_eq_nil_iff]
  intro n _
  simp [Node.isMatch, matchesId_of_blank h]

/-- The more general selector finds the more. -/
theorem findAll_sublist {a b : String} (h : matchesId a b = true) (t : Tree) :
    (t.findAll b).Sublist (t.findAll a) :=
  List.monotone_filter_right _ fun _ hn => matchesId_trans h hn

/-- **A selector finds all that another one finds, in every tree, exactly if it matches that one
or that one is blank.** -/
theorem findAll_sublist_iff {a b : String} :
    (∀ t : Tree, (t.findAll b).Sublist (t.findAll a)) ↔ matchesId a b = true ∨ form b = [] := by
  constructor
  · intro h
    by_cases hb : form b = []
    · exact .inr hb
    -- The other selector finds a node that has it for its id.
    let n : Node := ⟨b, "", [], .leaf, [], ⟨1, 1⟩⟩
    have hn : n ∈ findAll [n] b :=
      mem_findAll_iff.mpr ⟨.root (List.mem_singleton_self n), matchesId_self hb⟩
    exact .inl (mem_findAll_iff.mp ((h [n]).subset hn)).2
  · rintro (h | h) t
    · exact findAll_sublist h t
    · rw [findAll_of_blank h]
      exact List.nil_sublist _

end Tree

/--
**Selectors are ordered by what they match, and searches keep to that order.**

A selector matches itself unless it is blank, and a blank one matches nothing.  It matches what is
matched by a selector that it matches.  Two that match each other have the same words, the case of
ASCII letters aside.  And in every tree a selector finds, in the same order, all that is found by a
selector that it matches.
-/
theorem Selector.matchesId_preorder :
    (∀ a, (∃ c ∈ a.toList, Text.isBlank c = false) → matchesId a a = true) ∧
    (∀ a b c, matchesId a b = true → matchesId b c = true → matchesId a c = true) ∧
    (∀ a b, matchesId a b = true → matchesId b a = true →
      Text.SameWords (Text.words a.toList) (Text.words b.toList)) ∧
    (∀ a b, (∀ c ∈ a.toList, Text.isBlank c = true) → matchesId a b = false) ∧
    ∀ a b, matchesId a b = true → ∀ t : Tree, (t.findAll b).Sublist (t.findAll a) := by
  refine ⟨?_, fun a b c => matchesId_trans, ?_, ?_, fun a b h t => Tree.findAll_sublist h t⟩
  · rintro a ⟨c, hc, hword⟩
    refine matchesId_self fun hnone => ?_
    rw [form_eq_nil_iff.mp hnone c hc] at hword
    cases hword
  · intro a b hab hba
    exact Text.sameWords_iff.mpr (matchesId_antisymm hab hba)
  · intro a b hblank
    exact matchesId_of_blank (form_eq_nil_iff.mpr hblank) b

/-- Lines, and among them the ones for terminals. -/
theorem Selector.matchesId_preorder_terminals :
    let t := parse Schema.ciscoIos "line con 0\nLine  VTY 0 4\n transport input ssh\nline vty 5 15\n"
    matchesId "line" "line" = true ∧ matchesId "LINE" "line\tvty 0 4" = true ∧
      Text.SameWords (Text.words "line vty".toList) (Text.words " LINE\tVty".toList) ∧
      matchesId " \t" "line vty" = false ∧
      (t.findAll "line vty").Sublist (t.findAll "LINE") ∧
      (t.findAll "line vty").map (·.id) = ["Line VTY 0 4", "line vty 5 15"] ∧
      (t.findAll "LINE").map (·.id) = ["line con 0", "Line VTY 0 4", "line vty 5 15"] := by
  intro t
  obtain ⟨hself, htrans, hsame, hblank, hfind⟩ := matchesId_preorder
  refine ⟨hself _ ⟨'l', by decide, by decide⟩, ?_, ?_, hblank _ _ (by simp [Text.isBlank]), ?_, ?_, ?_⟩
  · exact htrans _ "line vty" _ (by decide +kernel) (by decide +kernel)
  · exact hsame _ _ (by decide +kernel) (by decide +kernel)
  · exact hfind _ _ (by decide +kernel) t
  · decide +kernel
  · decide +kernel

end DeviceLint
