/-
Ways down a configuration.

A path of selectors leads from a node to whatever is reached by going, for one selector after the
other, to some child that it matches.  The search goes to the first such child at every level and
never comes back, so what it finds is reached by the path, but it may miss what lies below a
second child: where a block occurs twice, what the second one holds is not seen.

There is nothing to miss where no way forks.  Below the last node but one it does not matter how
many children match, since any of them will do.
-/
import DeviceLint.Layout.Parse
import DeviceLint.Rule.Builtin
import DeviceLint.Schema.Builtin

namespace DeviceLint

namespace Node

/-- Whether a node is reached from another one by going, for every selector of a path, to a child
that it matches. -/
inductive Leads : Node → List String → Node → Prop
  | here (n : Node) : Leads n [] n
  | down {n c m : Node} {selector : String} {path : List String} (hc : c ∈ n.children)
      (hmatch : c.isMatch selector = true) (hrest : Leads c path m) :
      Leads n (selector :: path) m

theorem leads_nil_iff {n m : Node} : n.Leads [] m ↔ m = n := by
  constructor
  · intro h
    cases h
    rfl
  · rintro rfl
    exact .here m

theorem leads_cons_iff {n m : Node} {selector : String} {path : List String} :
    n.Leads (selector :: path) m
      ↔ ∃ c ∈ n.children, c.isMatch selector = true ∧ c.Leads path m := by
  constructor
  · intro h
    cases h with
    | down hc hmatch hrest => exact ⟨_, hc, hmatch, hrest⟩
  · rintro ⟨c, hc, hmatch, hrest⟩
    exact .down hc hmatch hrest

/-- Whether a path never leaves a choice between two children of a node, except for where it ends. -/
def IsUnforked : Node → List String → Prop
  | n, selector :: next :: path => (n.childrenMatching selector).length ≤ 1 ∧
      ∀ c ∈ n.childrenMatching selector, c.IsUnforked (next :: path)
  | _, _ => True

theorem mem_childrenMatching {n c : Node} {selector : String} :
    c ∈ n.childrenMatching selector ↔ c ∈ n.children ∧ c.isMatch selector = true :=
  List.mem_filter

/-- The first child that matches is the first of those that match. -/
theorem child?_eq (n : Node) (selector : String) :
    n.child? selector = (n.childrenMatching selector).head? :=
  List.head?_filter.symm

theorem descend?_cons (n : Node) (selector : String) (path : List String) :
    n.descend? (selector :: path) = (n.child? selector).bind (·.descend? path) := rfl

/-- What is found is reached. -/
theorem leads_of_descend? {n m : Node} {path : List String} (h : n.descend? path = some m) :
    n.Leads path m := by
  induction path generalizing n with
  | nil =>
      obtain rfl : n = m := Option.some.inj h
      exact .here n
  | cons selector path ih =>
      rw [descend?_cons, Option.bind_eq_some_iff] at h
      obtain ⟨c, hc, hrest⟩ := h
      rw [child?_eq] at hc
      obtain ⟨hmem, hmatch⟩ := mem_childrenMatching.mp (List.mem_of_mem_head? hc)
      exact .down hmem hmatch (ih hrest)

/-- Where only one child matches there is no other to choose. -/
theorem child?_eq_some_of_mem {n c : Node} {selector : String}
    (hone : (n.childrenMatching selector).length ≤ 1) (hc : c ∈ n.childrenMatching selector) :
    n.child? selector = some c := by
  rw [child?_eq]
  cases hlist : n.childrenMatching selector with
  | nil =>
      rw [hlist] at hc
      cases hc
  | cons d ds =>
      rw [hlist] at hone hc
      have hds : ds = [] := by
        rw [List.length_cons] at hone
        exact List.length_eq_zero_iff.mp (by omega)
      rw [hds, List.mem_singleton] at hc
      rw [hc]
      rfl

/-- Something is found if something is reached and no way forks. -/
theorem descend?_isSome_of_leads {n m : Node} {path : List String} (hpath : n.IsUnforked path)
    (h : n.Leads path m) : (n.descend? path).isSome = true := by
  induction h with
  | here n => rfl
  | @down n c m selector path hc hmatch hrest ih =>
      have hmem : c ∈ n.childrenMatching selector := mem_childrenMatching.mpr ⟨hc, hmatch⟩
      rw [descend?_cons]
      cases path with
      | nil =>
          have hfirst : n.child? selector ≠ none := by
            rw [child?_eq, ne_eq, List.head?_eq_none_iff]
            exact List.ne_nil_of_mem hmem
          obtain ⟨first, hfirst⟩ := Option.ne_none_iff_exists'.mp hfirst
          rw [hfirst]
          rfl
      | cons next path =>
          obtain ⟨hone, hbelow⟩ := hpath
          rw [child?_eq_some_of_mem hone hmem]
          exact ih (hbelow c hmem)

theorem descend?_eq_none_iff {n : Node} {path : List String} (hpath : n.IsUnforked path) :
    n.descend? path = none ↔ ∀ m, ¬ n.Leads path m := by
  constructor
  · intro h m hm
    have hsome := descend?_isSome_of_leads hpath hm
    rw [h] at hsome
    cases hsome
  · intro h
    rw [Option.eq_none_iff_forall_ne_some]
    intro m hm
    exact h m (leads_of_descend? hm)

end Node

namespace Rule

open Node

/-! ### Telnet -/

theorem noTelnet_pass_iff {n : Node} {c : Context} :
    (∃ message, noTelnet.check n c = .ok (.pass message))
      ↔ n.descend? ["services", "telnet"] = none := by
  show (∃ message, Except.ok (Verdict.check (n.descend? ["services", "telnet"]).isNone _ _)
    = Except.ok (.pass message)) ↔ _
  unfold Verdict.check
  cases n.descend? ["services", "telnet"] <;> simp

theorem leads_services_telnet {n t : Node} : n.Leads ["services", "telnet"] t ↔
    ∃ s ∈ n.children, s.isMatch "services" = true ∧ t ∈ s.children ∧ t.isMatch "telnet" = true := by
  simp only [leads_cons_iff, leads_nil_iff]
  constructor
  · rintro ⟨s, hs, hservices, t', ht, htelnet, rfl⟩
    exact ⟨s, hs, hservices, ht, htelnet⟩
  · rintro ⟨s, hs, hservices, ht, htelnet⟩
    exact ⟨s, hs, hservices, t, ht, htelnet, rfl⟩

/--
**Where no way forks, what is not found is not there.**

In particular the verdict that Telnet is not enabled is right of a system in which the services
stand in one block.
-/
theorem noTelnet_sound {n : Node} {path : List String} (hpath : n.IsUnforked path)
    (hservices : (n.childrenMatching "services").length ≤ 1) (c : Context) :
    (n.descend? path = none ↔ ∀ m, ¬ n.Leads path m) ∧
      ((∃ message, noTelnet.check n c = .ok (.pass message)) ↔
        ∀ s ∈ n.children, s.isMatch "services" = true →
          ∀ t ∈ s.children, t.isMatch "telnet" = false) := by
  have hunforked : n.IsUnforked ["services", "telnet"] := ⟨hservices, fun _ _ => trivial⟩
  refine ⟨descend?_eq_none_iff hpath, ?_⟩
  rw [noTelnet_pass_iff, descend?_eq_none_iff hunforked]
  constructor
  · intro hnone s hs hmatch t ht
    rw [Bool.eq_false_iff]
    intro htelnet
    exact hnone t (leads_services_telnet.mpr ⟨s, hs, hmatch, ht, htelnet⟩)
  · intro hall t hleads
    obtain ⟨s, hs, hmatch, ht, htelnet⟩ := leads_services_telnet.mp hleads
    rw [hall s hs hmatch t ht] at htelnet
    cases htelnet

/-- A system with other services than Telnet. -/
def sshSystem : Node :=
  { Node.group "system".toList "system \x7b" ⟨1, 6⟩ with
    children := [
      .leaf "host-name r1".toList "    host-name r1;" ⟨2, 2⟩,
      { Node.group "services".toList "    services \x7b" ⟨3, 5⟩ with
        children := [.leaf "ssh".toList "        ssh;" ⟨4, 4⟩] }] }

theorem noTelnet_sound_sshSystem :
    sshSystem.IsUnforked ["services", "telnet"] ∧
      (sshSystem.childrenMatching "services").length ≤ 1 ∧
      (∀ m, ¬ sshSystem.Leads ["services", "telnet"] m) ∧
      ∀ s ∈ sshSystem.children, s.isMatch "services" = true →
        ∀ t ∈ s.children, t.isMatch "telnet" = false := by
  have hone : (sshSystem.childrenMatching "services").length ≤ 1 := by decide +kernel
  have hpath : sshSystem.IsUnforked ["services", "telnet"] := ⟨hone, fun _ _ => trivial⟩
  obtain ⟨hdescend, hpass⟩ := noTelnet_sound hpath hone (.ofSchema Schema.juniperJunos [sshSystem])
  exact ⟨hpath, hone, hdescend.mp rfl, hpass.mp ⟨_, rfl⟩⟩

/-- A system in which the services stand in two blocks. -/
def splitSystem : Node :=
  { Node.group "system".toList "system \x7b" ⟨1, 8⟩ with
    children := [
      { Node.group "services".toList "    services \x7b" ⟨2, 4⟩ with
        children := [.leaf "ssh".toList "        ssh;" ⟨3, 3⟩] },
      { Node.group "services".toList "    services \x7b" ⟨5, 7⟩ with
        children := [.leaf "telnet".toList "        telnet;" ⟨6, 6⟩] }] }

/-- Telnet is enabled in the second block, and the rule passes. -/
theorem noTelnet_splitSystem :
    let text := "system \x7b\n    services \x7b\n        ssh;\n    \x7d\n" ++
      "    services \x7b\n        telnet;\n    \x7d\n\x7d\n"
    parse Schema.juniperJunos text = [splitSystem] ∧ splitSystem.isMatch "system" = true ∧
      noTelnet.check splitSystem (.ofSchema Schema.juniperJunos [splitSystem])
        = .ok (.pass "Telnet service is not enabled") ∧
      splitSystem.descend? ["services", "telnet"] = none ∧
      ∃ s ∈ splitSystem.children, s.isMatch "services" = true ∧
        ∃ t ∈ s.children, t.isMatch "telnet" = true := by
  refine ⟨by decide +kernel, by decide +kernel, rfl, rfl, ?_⟩
  exact ⟨_, .tail _ (.head _), by decide +kernel, _, .head _, by decide +kernel⟩

end Rule

end DeviceLint
