/-
Two ways to look for a child.

A selector finds a child by its leading words, which are compared one by one and only up to the case
of ASCII letters.  Conditions look for a text that the id of some child starts with, in lower case
as a whole.  What is found in the first way is found in the second: words that differ in the case of
ASCII letters are the same in lower case, whatever sigmas stand in them, and where the id goes on
behind the words of the selector it does so with a space.  A space is no letter, and to what stands
before it this is as if the text ended there.

It takes the ids of statements, in which words have single spaces between them.  All nodes that are
read have such ids.
-/
import DeviceLint.Proofs.Descent
import DeviceLint.Proofs.Evaluation
import DeviceLint.Proofs.Listing
import DeviceLint.Proofs.Selection
import DeviceLint.Proofs.Surroundings
import DeviceLint.Proofs.Text
import DeviceLint.Schema.Builtin

namespace DeviceLint

namespace Text

/-! ### Words in lower case -/

theorem map_toLower_unwords (ws : List (List Char)) :
    (unwords ws).map Char.toLower = unwords (ws.map (·.map Char.toLower)) := by
  induction ws with
  | nil => rfl
  | cons w ws ih =>
      cases ws with
      | nil => rw [List.map_singleton, unwords_singleton, unwords_singleton]
      | cons v ws =>
          rw [unwords_cons_cons, List.map_append, List.map_cons, ih, List.map_cons, List.map_cons,
            List.map_cons, unwords_cons_cons]
          rfl

/-- Behind a space no letter is met. -/
theorem meetsCased_space (s : List Char) : meetsCased (' ' :: s) = false := by
  have hignorable : ¬ isCaseIgnorable ' ' = true := by decide +kernel
  unfold meetsCased
  rw [List.dropWhile_cons_of_neg hignorable]
  show isCased ' ' = false
  decide +kernel

/-- A text stays as it is in lower case if it goes on with a space. -/
theorem lower_prefix_of_space (s t : List Char) : lower s <+: lower (s ++ ' ' :: t) := by
  have happend := lowerAfter_append [] s (' ' :: t)
  have hend : meetsCased (' ' :: t) = meetsCased [] := meetsCased_space t
  rw [lowerBetween_congr_surroundings s rfl hend, ← lower_eq] at happend
  exact ⟨_, happend.symm⟩

theorem lower_unwords_prefix (us vs : List (List Char)) :
    lower (unwords us) <+: lower (unwords (us ++ vs)) := by
  by_cases hus : us = []
  · subst hus
    exact List.nil_prefix
  by_cases hvs : vs = []
  · subst hvs
    simp
  · rw [unwords_append hus hvs]
    exact lower_prefix_of_space _ _

end Text

/-! ### Selectors -/

namespace Selector

theorem lower_prefix_of_leads {wanted offered : List (List Char)}
    (h : leads wanted offered = true) :
    Text.lower (Text.unwords wanted) <+: Text.lower (Text.unwords offered) := by
  obtain ⟨us, vs, rfl, hus⟩ := exists_append_of_leads h
  have hfold : (Text.unwords wanted).map Char.toLower = (Text.unwords us).map Char.toLower := by
    rw [Text.map_toLower_unwords, Text.map_toLower_unwords, Text.sameWords_iff.mp hus]
  rw [Text.lower_congr hfold]
  exact Text.lower_unwords_prefix us vs

end Selector

/-! ### Ids of statements -/

namespace Node

/-- Whether a node has the id that some statement has. -/
def IsOfStatement (n : Node) : Prop :=
  ∃ statement, n.id = String.ofList (Statement.normalize statement)

theorem IsOfStatement.collapse_eq {n : Node} (h : n.IsOfStatement) :
    Text.collapse n.id.toList = n.id.toList := by
  obtain ⟨statement, hid⟩ := h
  rw [hid, String.toList_ofList]
  exact Text.collapse_collapse _

/-- Every node that is read has the id of a statement. -/
theorem isOfStatement_of_parse {schema : Schema} {text : String} {n : Node}
    (h : Tree.Has (parse schema text) n) : n.IsOfStatement := by
  rw [← Tree.mem_walk_iff, Tree.walk_eq] at h
  have hentry : n.entry ∈ listingAll (parse schema text) := List.mem_map_of_mem h
  have hlisting : listingAll (parse schema text)
      = (LogicalLine.ofText schema text).flatMap schema.entries := listing_treeOf _ _
  rw [hlisting, List.mem_flatMap] at hentry
  obtain ⟨l, -, hentry⟩ := hentry
  obtain ⟨statement, -, hstatement⟩ := List.mem_map.mp hentry
  exact ⟨statement, (congrArg Entry.id hstatement).symm⟩

/-! ### Children -/

theorem IsOfStatement.lower_prefix_of_isMatch {n : Node} {selector : String} (h : n.IsOfStatement)
    (hmatch : n.isMatch selector = true) :
    Text.lower (Text.collapse selector.toList) <+: Text.lower n.id.toList := by
  unfold isMatch Selector.matchesId at hmatch
  rw [Bool.and_eq_true] at hmatch
  have hprefix := Selector.lower_prefix_of_leads hmatch.2
  rwa [← Text.collapse, ← Text.collapse, h.collapse_eq] at hprefix

theorem hasChildStarting_iff {n : Node} {start : String} : n.hasChildStarting start = true ↔
    ∃ c ∈ n.children, Text.lower (Text.collapse start.toList) <+: Text.lower c.id.toList := by
  simp [hasChildStarting]

theorem child?_isSome_iff {n : Node} {selector : String} :
    (n.child? selector).isSome = true ↔ n.childrenMatching selector ≠ [] := by
  rw [child?_eq, List.isSome_head?]

theorem hasChildStarting_of_mem {n c : Node} {selector : String} (hc : c.IsOfStatement)
    (h : c ∈ n.childrenMatching selector) : n.hasChildStarting selector = true := by
  obtain ⟨hmem, hmatch⟩ := mem_childrenMatching.mp h
  exact hasChildStarting_iff.mpr ⟨c, hmem, hc.lower_prefix_of_isMatch hmatch⟩

end Node

namespace Condition

theorem answers_hasChild (engine : RegexEngine) (helpers : HelperRegistry) (n : Node) (c : Context)
    (selector : String) :
    (test false (.hasChild selector)).Answers engine helpers n c (n.hasChildStarting selector) :=
  ⟨_, rfl, rfl⟩

theorem answers_lacksChild (engine : RegexEngine) (helpers : HelperRegistry) (n : Node)
    (c : Context) (selector : String) :
    (test false (.lacksChild selector)).Answers engine helpers n c (!n.hasChildStarting selector) :=
  ⟨_, rfl, rfl⟩

end Condition

/--
**A child that a selector finds is a child that conditions find.**

The children of all nodes that are read have ids of statements, so for these it always holds.
-/
theorem Node.hasChildStarting_of_found :
    (∀ schema text n, Tree.Has (parse schema text) n → ∀ c ∈ n.children, c.IsOfStatement) ∧
      ∀ (n : Node) (selector : String), (∀ c ∈ n.children, c.IsOfStatement) →
        ((n.child? selector).isSome = true ∨ n.childrenMatching selector ≠ []) →
          n.hasChildStarting selector = true ∧ ∀ engine helpers c,
            (Condition.test false (.hasChild selector)).Answers engine helpers n c true ∧
              (Condition.test false (.lacksChild selector)).Answers engine helpers n c false := by
  constructor
  · intro schema text n hn c hc
    exact isOfStatement_of_parse (.child hn hc)
  · intro n selector hchildren hfound
    rw [child?_isSome_iff, or_self] at hfound
    obtain ⟨child, hchild⟩ := List.exists_mem_of_ne_nil _ hfound
    have hstatement := hchildren child (mem_childrenMatching.mp hchild).1
    have hstarting := hasChildStarting_of_mem hstatement hchild
    refine ⟨hstarting, ?_⟩
    intro engine helpers c
    have hhas := Condition.answers_hasChild engine helpers n c selector
    have hlacks := Condition.answers_lacksChild engine helpers n c selector
    rw [hstarting] at hhas hlacks
    exact ⟨hhas, hlacks⟩

/-- A port whose description has a street in capitals, with a sigma at the end of its name. -/
def streetPort : Node :=
  { Node.group "ge-0/0/0".toList "ge-0/0/0 \x7b" ⟨1, 3⟩ with
    children := [.leaf "description ΟΔΟΣ 7".toList "    description ΟΔΟΣ  7;" ⟨2, 2⟩] }

theorem Node.hasChildStarting_of_found_streetPort :
    let text := "ge-0/0/0 \x7b\n    description ΟΔΟΣ  7;\n\x7d\n"
    parse Schema.juniperJunos text = [streetPort] ∧
      (∀ c ∈ streetPort.children, c.IsOfStatement) ∧
      (streetPort.child? "DESCRIPTION ΟΔΟΣ").isSome = true ∧
      streetPort.hasChildStarting "DESCRIPTION ΟΔΟΣ" = true := by
  intro text
  have hparse : parse Schema.juniperJunos text = [streetPort] := by decide +kernel
  have hhas : Tree.Has (parse Schema.juniperJunos text) streetPort := by
    rw [hparse]
    exact .root (List.mem_singleton_self _)
  have hchildren : ∀ c ∈ streetPort.children, c.IsOfStatement :=
    hasChildStarting_of_found.1 _ _ _ hhas
  have hchild : (streetPort.child? "DESCRIPTION ΟΔΟΣ").isSome = true := by decide +kernel
  have hfound := hasChildStarting_of_found.2 streetPort _ hchildren (.inl hchild)
  exact ⟨hparse, hchildren, hchild, hfound.1⟩

end DeviceLint
