/-
Matches with case and with case aside.

With case aside the text that is looked for and the text that it is looked for in go into lower case,
each as a whole.  One would expect to find all that is found with case, and more.  Mostly this is so,
but the pattern is lower-cased without what it stands next to in the other text, and a capital sigma
at one of its ends may have another form there.  Then the match is lost.

Exactly these patterns lose matches.  The reason lies with the texts alone, and is the same for
patterns of conditions and for the beginnings of ids that children are looked for by.
-/
import DeviceLint.Proofs.ChildSearch

namespace DeviceLint

/-! ### Patterns -/

/-- A text as it is compared. -/
def Text.compared (ignoreCase : Bool) (s : List Char) : List Char :=
  if ignoreCase then lower s else s

theorem comparing_eq (test : List Char → List Char → Bool) (ignoreCase : Bool)
    (subject pattern : String) : comparing test ignoreCase subject pattern
      = test (Text.compared ignoreCase subject.toList) (Text.compared ignoreCase pattern.toList) := by
  cases ignoreCase <;> rfl

namespace MatchMode

variable {engine : RegexEngine} {target : MatchTarget} {pattern : String} {n : Node}
  {ignoreCase : Bool}

theorem holds_contains_iff : contains.holds engine target ignoreCase pattern n = true ↔
    Text.compared ignoreCase (target.pattern pattern).toList
      <:+: Text.compared ignoreCase (target.read n).toList := by
  show textContains _ _ _ = true ↔ _
  rw [textContains, comparing_eq, Text.contains_iff]

theorem holds_exact_iff : exact.holds engine target ignoreCase pattern n = true ↔
    Text.compared ignoreCase (target.read n).toList
      = Text.compared ignoreCase (target.pattern pattern).toList := by
  show textEquals _ _ _ = true ↔ _
  rw [textEquals, comparing_eq, beq_iff_eq]

theorem holds_start_iff : start.holds engine target ignoreCase pattern n = true ↔
    Text.compared ignoreCase (target.pattern pattern).toList
      <+: Text.compared ignoreCase (target.read n).toList := by
  show textStartsWith _ _ _ = true ↔ _
  rw [textStartsWith, comparing_eq, List.isPrefixOf_iff_prefix]

end MatchMode

/-- A blank pattern is looked for as it is written, or not at all. -/
theorem MatchTarget.pattern_empty (target : MatchTarget) : (target.pattern "").toList = [] := by
  cases target <;> rfl

/-- A node that says no more than some text. -/
def Node.saying (s : List Char) : Node where
  id := String.ofList s
  raw := String.ofList s
  params := []
  kind := .leaf
  children := []
  span := ⟨1, 1⟩

theorem MatchTarget.read_saying (target : MatchTarget) (s : List Char) :
    (target.read (Node.saying s)).toList = s := by
  cases target <;> exact String.toList_ofList

/-! ### Conditions -/

namespace Condition

variable {engine : RegexEngine} {helpers : HelperRegistry}
variable {mode : MatchMode} {target : MatchTarget} {pattern : String}

theorem answers_text_iff (hmode : mode ≠ .regex) {ignoreCase b : Bool} {n : Node} {c : Context} :
    (test false (.text pattern mode target (some ignoreCase))).Answers engine helpers n c b ↔
      pattern ≠ "" ∧ mode.holds engine target ignoreCase pattern n = b := by
  have hcompile :
      (∃ p, (test false (.text pattern mode target (some ignoreCase))).compile engine helpers
        = .ok p) ↔ pattern ≠ "" := by
    rw [compile, compileTest, compileText]
    by_cases hpattern : pattern = ""
    · subst hpattern
      simp
    · rw [if_neg (by simpa using hpattern)]
      cases mode with
      | regex => exact absurd rfl hmode
      | _ => simpa [textMatcher] using hpattern
  rw [answers_iff, hcompile, eval, Test.eval]
  simp [negatedValue]

/-- Whether a condition that looks for a pattern and holds with case also holds with case aside. -/
def KeepsMatches (engine : RegexEngine) (helpers : HelperRegistry) (mode : MatchMode)
    (target : MatchTarget) (pattern : String) : Prop :=
  ∀ n c, (test false (.text pattern mode target (some false))).Answers engine helpers n c true →
    (test false (.text pattern mode target (some true))).Answers engine helpers n c true

theorem keepsMatches_iff_holds (hmode : mode ≠ .regex) :
    KeepsMatches engine helpers mode target pattern ↔ (pattern ≠ "" → ∀ n,
      mode.holds engine target false pattern n = true →
        mode.holds engine target true pattern n = true) := by
  unfold KeepsMatches
  simp only [answers_text_iff hmode]
  constructor
  · intro h hpattern n hn
    exact (h n (.ofName "" []) ⟨hpattern, hn⟩).2
  · intro h n c hn
    exact ⟨hn.1, h hn.1 n hn.2⟩

/-- Where matches are a relation between texts, a pattern keeps them if the relation stays in lower
case, for every text. -/
theorem keepsMatches_iff_lower {related : List Char → List Char → Prop} (hmode : mode ≠ .regex)
    (hholds : ∀ ignoreCase n, mode.holds engine target ignoreCase pattern n = true ↔
      related (Text.compared ignoreCase (target.pattern pattern).toList)
        (Text.compared ignoreCase (target.read n).toList))
    (hempty : ∀ s, related [] s) :
    KeepsMatches engine helpers mode target pattern ↔
      ∀ s, related (target.pattern pattern).toList s →
        related (Text.lower (target.pattern pattern).toList) (Text.lower s) := by
  rw [keepsMatches_iff_holds hmode]
  constructor
  · intro h s hs
    by_cases hpattern : pattern = ""
    · subst hpattern
      rw [target.pattern_empty]
      exact hempty _
    · have hkept := h hpattern (Node.saying s)
      rw [hholds, hholds, target.read_saying] at hkept
      exact hkept hs
  · intro h _ n hn
    rw [hholds] at hn ⊢
    exact h _ hn

theorem keepsMatches_exact : KeepsMatches engine helpers .exact target pattern := by
  rw [keepsMatches_iff_holds (by decide)]
  intro _ n hn
  rw [MatchMode.holds_exact_iff] at hn ⊢
  exact congrArg Text.lower hn

theorem keepsMatches_start_iff : KeepsMatches engine helpers .start target pattern ↔
    ¬ Text.EndsInSigma (target.pattern pattern).toList := by
  rw [← Text.lower_prefix_iff]
  exact keepsMatches_iff_lower (by decide) (fun _ _ => MatchMode.holds_start_iff)
    (fun _ => List.nil_prefix)

theorem keepsMatches_contains_iff : KeepsMatches engine helpers .contains target pattern ↔
    ¬ Text.EndsInSigma (target.pattern pattern).toList ∧
      ¬ Text.StartsWithSigma (target.pattern pattern).toList := by
  rw [← Text.lower_infix_iff]
  exact keepsMatches_iff_lower (by decide) (fun _ _ => MatchMode.holds_contains_iff)
    (fun _ => List.nil_infix)

/-- Nothing is lost by a pattern without capital sigmas. -/
theorem keepsMatches_of_no_sigma (hmode : mode ≠ .regex)
    (hsigma : 'Σ' ∉ (target.pattern pattern).toList) :
    KeepsMatches engine helpers mode target pattern := by
  have hend := Text.not_endsInSigma hsigma
  cases mode with
  | contains => exact keepsMatches_contains_iff.mpr ⟨hend, Text.not_startsWithSigma hsigma⟩
  | exact => exact keepsMatches_exact
  | start => exact keepsMatches_start_iff.mpr hend
  | regex => exact absurd rfl hmode

end Condition

/-! ### Children -/

/-- Whether a child is still found if some child's id literally starts with the text. -/
def Node.KeepsChildren (start : String) : Prop :=
  ∀ n : Node, (∃ c ∈ n.children, Text.collapse start.toList <+: c.id.toList) →
    n.hasChildStarting start = true

theorem Node.keepsChildren_iff {start : String} :
    KeepsChildren start ↔ ¬ Text.EndsInSigma (Text.collapse start.toList) := by
  rw [← Text.lower_prefix_iff]
  unfold KeepsChildren
  simp only [hasChildStarting_iff]
  constructor
  · intro h s hs
    have hid : (Node.saying s).id.toList = s := String.toList_ofList
    have hfound := h { Node.saying [] with children := [Node.saying s] }
    simp only [List.mem_singleton, exists_eq_left, hid] at hfound
    exact hfound hs
  · rintro h n ⟨c, hc, hstart⟩
    exact ⟨c, hc, h _ hstart⟩

/--
**Only a capital sigma at an end of the pattern loses matches when case is ignored.**

It always does so, for some text.
-/
theorem Condition.keepsMatches_iff_sigma (engine : RegexEngine) (helpers : HelperRegistry)
    (target : MatchTarget) (pattern : String) :
    let wanted := (target.pattern pattern).toList
    KeepsMatches engine helpers .exact target pattern ∧
      (KeepsMatches engine helpers .start target pattern ↔ ¬ Text.EndsInSigma wanted) ∧
      (KeepsMatches engine helpers .contains target pattern ↔
        ¬ Text.EndsInSigma wanted ∧ ¬ Text.StartsWithSigma wanted) ∧
      (Node.KeepsChildren pattern ↔ ¬ Text.EndsInSigma (Text.collapse pattern.toList)) :=
  ⟨keepsMatches_exact, keepsMatches_start_iff, keepsMatches_contains_iff, Node.keepsChildren_iff⟩

/-- Ports with a name in capitals, a sigma among them. -/
def namedPorts : Node :=
  { Node.group "interfaces".toList "interfaces \x7b" ⟨1, 3⟩ with
    children := [.leaf "ΑΣΑ".toList "    ΑΣΑ;" ⟨2, 2⟩] }

/-- The first two letters of the name are found with case, and not with case aside. -/
theorem Condition.keepsMatches_namedPorts :
    let looking (ignoreCase : Bool) := test false (.text "ΑΣ" .contains .id (some ignoreCase))
    parse Schema.juniperJunos "interfaces \x7b\n    ΑΣΑ;\n\x7d\n" = [namedPorts] ∧
      (∃ port ∈ namedPorts.children, Text.collapse "ΑΣ".toList <+: port.id.toList ∧
        ∀ engine helpers c, (looking false).Answers engine helpers port c true ∧
          (looking true).Answers engine helpers port c false) ∧
      namedPorts.hasChildStarting "ΑΣ" = false := by
  intro looking
  refine ⟨by decide +kernel, ⟨_, List.mem_singleton_self _, by decide +kernel, ?_⟩,
    by decide +kernel⟩
  intro engine helpers c
  constructor
  · rw [answers_text_iff (by decide)]
    refine ⟨by decide, ?_⟩
    show textContains _ _ _ = true
    decide +kernel
  · rw [answers_text_iff (by decide)]
    refine ⟨by decide, ?_⟩
    show textContains _ _ _ = false
    decide +kernel

end DeviceLint
