/-
Names without a family.

If there is no common helper of a name, the name stands for what the family of the scan has.  It
is looked up as the schema or the dialect's name spells it, but helpers stand under families in
lower case.  So the name does the same as the one with the family before it if the family is
spelt in lower case, and if not, it fails although that one succeeds.
-/
import DeviceLint.Proofs.Registration

namespace DeviceLint

namespace HelperRegistry

variable {gs : List Registration}

/-- What a family has of a name is what stands under the key of both. -/
theorem lookup_inFamilies (r : HelperRegistry) (family name : String) :
    (r.inFamilies name).lookup family = r.get? ⟨some family, name⟩ := by
  obtain ⟨entries⟩ := r
  rw [inFamilies, get?]
  induction entries with
  | nil => rfl
  | cons entry entries ih =>
      obtain ⟨⟨family' | family', name'⟩, body⟩ := entry
      · rw [List.filterMap_cons_none rfl, ih, List.lookup_cons]
        rfl
      · have hbeq : ((⟨some family, name⟩ : HelperKey) == ⟨some family', name'⟩)
            = (family == family' && name' == name) := by
          rw [Bool.eq_iff_iff]
          simp [@eq_comm _ name]
        rw [List.filterMap_cons, List.lookup_cons, hbeq]
        by_cases hname : name' = name
        · simp only [hname, beq_self_eq_true, if_true, List.lookup_cons, ih, Bool.and_true]
        · simp only [beq_eq_false_iff_ne.mpr hname, Bool.false_eq_true, if_false, ih, Bool.and_false]

/-- A name that some family has and that is not common waits for the family of the scan. -/
theorem resolve_dispatched {r : HelperRegistry} {name : String} (hname : '.' ∉ name.toList)
    (hne : name ≠ "") (hcommon : r.get? ⟨none, name⟩ = none) {family : String}
    (hsome : (r.get? ⟨some family, name⟩).isSome) :
    r.resolve name = .ok ⟨name, .dispatched (r.inFamilies name)⟩ := by
  have htarget : r.plainTarget? name = some (.dispatched (r.inFamilies name)) := by
    rw [plainTarget?, hcommon]
    cases hchoices : r.inFamilies name with
    | nil =>
        rw [← lookup_inFamilies, hchoices] at hsome
        cases hsome
    | cons choice choices => rfl
  rw [resolve, target?_plain r hname, if_neg hne, htarget]

theorem call_inFamilies (r : HelperRegistry) (name : String) (c : Context)
    (args : List Argument) :
    (⟨name, .dispatched (r.inFamilies name)⟩ : ResolvedHelper).call c args
      = match r.get? ⟨some c.family, name⟩ with
        | some body => body args
        | none => .error (.notInFamily name c.family) := by
  rw [← lookup_inFamilies]
  rfl

/-- Families are in lower case in all keys. -/
theorem get?_eq_none_of_upper {family : String} (h : lowerCase family ≠ family) (name : String) :
    (ofRegistrations gs).get? ⟨some family, name⟩ = none := by
  refine get?_eq_none fun g _ hkey => h ?_
  have hlower := lowerCase_key g
  rw [hkey] at hlower
  exact Option.some.inj hlower

/-- Without a common helper, a name in a family leads to what the family has. -/
theorem resolve_dotted_eq_ok {r : HelperRegistry} {family name : String}
    (hfamily : '.' ∉ family.toList) (hcommon : r.get? ⟨none, name⟩ = none) {h : ResolvedHelper}
    (hok : r.resolve s!"{family}.{name}" = .ok h) :
    name ≠ "" ∧ ∃ body, r.get? (.make (some family) name) = some body ∧
      h = ⟨s!"{family}.{name}", .fixed body⟩ := by
  rw [resolve, target?_dotted r hfamily, familyTarget?, hcommon, Option.or_none] at hok
  by_cases hempty : name = ""
  · rw [if_pos hempty] at hok
    cases hok
  · rw [if_neg hempty] at hok
    cases hget : r.get? (.make (some family) name) with
    | none =>
        rw [hget] at hok
        cases hok
    | some body =>
        rw [hget] at hok
        cases hok
        exact ⟨hempty, body, rfl, rfl⟩

/-- **A name without a family does what it does in the family of the scan, if that is spelt in lower
case.**  In any other spelling it is not found in the family, even where the name that has the
family before it leads to a helper. -/
theorem call_dispatched {name : String} (hname : '.' ∉ name.toList)
    (hcommon : ∀ g ∈ gs, g.key ≠ ⟨none, name⟩) {c : Context} (hfamily : '.' ∉ c.family.toList)
    {h : ResolvedHelper} (hok : (ofRegistrations gs).resolve s!"{c.family}.{name}" = .ok h) :
    ∃ h', (ofRegistrations gs).resolve name = .ok h' ∧ ∀ args, h'.call c args
      = if lowerCase c.family = c.family then h.call c args
        else .error (.notInFamily name c.family) := by
  have hnone := get?_eq_none hcommon
  obtain ⟨hne, body, hbody, rfl⟩ := resolve_dotted_eq_ok hfamily hnone hok
  refine ⟨_, resolve_dispatched hname hne hnone (Option.isSome_of_eq_some hbody), fun args => ?_⟩
  rw [call_inFamilies]
  split_ifs with hlower
  · rw [← HelperKey.make_of_lower hlower, hbody]
    rfl
  · rw [get?_eq_none_of_upper hlower]

/-- A scan of a dialect of which only the name is known. -/
def smallCisco : Context := .ofName "cisco-ios" []

theorem call_dispatched_cisco : ∃ h, builtin.resolve "isTrunkPort" = .ok h ∧
    ∀ args, h.call smallCisco args
      = Helper.ofPredicate "isTrunkPort" Node.isTrunkPort args := by
  have hname : '.' ∉ "isTrunkPort".toList := by decide
  have hcommon : ∀ g ∈ builtinCalls, g.key ≠ ⟨none, "isTrunkPort"⟩ := by decide +kernel
  have hfamily : '.' ∉ smallCisco.family.toList := by decide
  have hok : builtin.resolve s!"{smallCisco.family}.isTrunkPort" = .ok
      ⟨"cisco.isTrunkPort", .fixed (Helper.ofPredicate "isTrunkPort" Node.isTrunkPort)⟩ := by rfl
  rw [builtin_eq] at hok ⊢
  obtain ⟨h, hresolve, hcall⟩ := call_dispatched hname hcommon hfamily hok
  exact ⟨h, hresolve, fun args => (hcall args).trans (if_pos (by decide +kernel))⟩

/-- A port that carries several networks. -/
def trunkPort : Node :=
  { Node.group "interface Gi0/1".toList "interface Gi0/1" ⟨1, 2⟩ with
    children := [.leaf "switchport mode trunk".toList " switchport mode trunk" ⟨2, 2⟩] }

/-- A scan of a dialect whose schema spells the family `Cisco`. -/
def capitalCisco : Context := .ofSchema { id := "cisco-catos", family := "Cisco" } [trunkPort]

/-- The name with the family before it leads to a helper, the name alone does not. -/
theorem call_capitalCisco : builtin.get? ⟨none, "isTrunkPort"⟩ = none ∧
    (builtin.resolve s!"{capitalCisco.family}.isTrunkPort"
      >>= (·.call capitalCisco [.node trunkPort])) = .ok (.bool true) ∧
    (builtin.resolve "isTrunkPort" >>= (·.call capitalCisco [.node trunkPort]))
      = .error (.notInFamily "isTrunkPort" "Cisco") := by
  exact ⟨rfl, rfl, rfl⟩

end HelperRegistry

end DeviceLint
