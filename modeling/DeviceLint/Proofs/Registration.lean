/-
Helpers by their names.

A registry is what a sequence of calls has left in it, and `ofRegistrations` makes it from the
calls.  Under each key stands what was registered last.  Keys whose parts have no dots can be told
from their qualified names, so that such a name leads back to its key; and since families are in
lower case in all keys, they may be in any case in a name that is looked up.

A call changes what stands under one key.  A name in a family is looked for under two keys, the
family's and the common one, so that a call for another family does not change where it leads.
-/
import DeviceLint.Helper.Builtin
import DeviceLint.Proofs.LowerCase
import DeviceLint.Proofs.Tables
import DeviceLint.Proofs.Text
import Mathlib.Data.List.Induction
import Mathlib.Data.List.Nodup

namespace DeviceLint

/-! ### Keys -/

namespace HelperKey

/-- A name that is not empty, and a family if there is one, both without dots. -/
structure IsPlain (k : HelperKey) : Prop where
  family : ∀ family ∈ k.family, '.' ∉ family.toList
  name : '.' ∉ k.name.toList
  name_ne : k.name ≠ ""

instance (k : HelperKey) : Decidable k.IsPlain :=
  decidable_of_iff ((∀ family ∈ k.family, '.' ∉ family.toList) ∧ '.' ∉ k.name.toList ∧ k.name ≠ "")
    ⟨fun ⟨family, name, hne⟩ => ⟨family, name, hne⟩, fun h => ⟨h.family, h.name, h.name_ne⟩⟩

theorem toList_dotted (family name : String) :
    s!"{family}.{name}".toList = family.toList ++ '.' :: name.toList := by
  rw [String.toList_append, String.toList_append, List.append_assoc]
  rfl

theorem IsPlain.make {family : Option String} {name : String} (h : IsPlain ⟨family, name⟩) :
    (HelperKey.make family name).IsPlain where
  family lowered hlowered := by
    obtain ⟨family, hfamily, rfl⟩ := Option.map_eq_some_iff.mp hlowered
    exact not_mem_lowerCase (by decide) (h.family family hfamily)
  name := h.name
  name_ne := h.name_ne

theorem make_of_lower {family : String} (h : lowerCase family = family) (name : String) :
    HelperKey.make (some family) name = ⟨some family, name⟩ := by
  rw [HelperKey.make, Option.map_some, h]

/-- A common helper is never under the key of a family. -/
theorem common_ne_make (name name' family : String) :
    (⟨none, name⟩ : HelperKey) ≠ .make (some family) name' := by
  simp [HelperKey.make]

theorem IsPlain.splitAt?_qualified {k : HelperKey} (h : k.IsPlain) :
    Text.splitAt? ['.'] k.qualified.toList
      = k.family.map fun family => (family.toList, k.name.toList) := by
  obtain ⟨family | family, name⟩ := k
  · exact Text.splitAt?_of_not_mem h.name
  · rw [qualified, toList_dotted]
    exact Text.splitAt?_of_not_mem_before (h.family family rfl) name.toList

/-- Keys without dots are the same if their qualified names are. -/
theorem IsPlain.qualified_inj {k k' : HelperKey} (h : k.IsPlain) (h' : k'.IsPlain)
    (heq : k.qualified = k'.qualified) : k = k' := by
  have hsplit := h.splitAt?_qualified
  rw [heq, h'.splitAt?_qualified] at hsplit
  obtain ⟨family | family, name⟩ := k <;> obtain ⟨family' | family', name'⟩ := k'
  · rw [HelperKey.mk.injEq]
    exact ⟨rfl, heq⟩
  · simp at hsplit
  · simp at hsplit
  · simp only [Option.map_some, Option.some.injEq, Prod.mk.injEq, String.toList_inj] at hsplit
    rw [hsplit.1, hsplit.2]

end HelperKey

/-! ### One call -/

namespace HelperRegistry

theorem lookup_filter_ne {entries : List (HelperKey × Helper)} {key k : HelperKey} (h : k ≠ key) :
    (entries.filter (·.1 != key)).lookup k = entries.lookup k := by
  induction entries with
  | nil => rfl
  | cons entry entries ih =>
      obtain ⟨key', body⟩ := entry
      by_cases hkey : key' = key
      · rw [List.filter_cons_of_neg (by simpa using hkey), ih, List.lookup_cons,
          show (k == key') = false by simpa [hkey] using h]
      · rw [List.filter_cons_of_pos (by simpa using hkey), List.lookup_cons, List.lookup_cons, ih]

theorem get?_register (r : HelperRegistry) (key k : HelperKey) (body : Helper) :
    (r.register key body).get? k = if k = key then some body else r.get? k := by
  rw [get?, register, List.lookup_append]
  split
  · rename_i hkey
    subst hkey
    have hnone : (r.entries.filter (·.1 != k)).lookup k = none := by
      rw [List.lookup_eq_none_iff]
      intro entry hentry
      simpa [bne_comm] using (List.mem_filter.mp hentry).2
    rw [hnone, List.lookup_cons_self, Option.none_or]
  · rename_i hkey
    rw [lookup_filter_ne hkey, List.lookup_cons, show (k == key) = false by simpa using hkey,
      List.lookup_nil, Option.or_none]
    rfl

/-- The keys under which there are helpers. -/
def keys (r : HelperRegistry) : List HelperKey := r.entries.map (·.1)

theorem mem_keys_iff {r : HelperRegistry} {k : HelperKey} : k ∈ r.keys ↔ (r.get? k).isSome := by
  rw [get?, List.lookup_isSome_iff, keys, List.mem_map]
  simp only [beq_iff_eq, @eq_comm _ k]

theorem nodup_keys_register {r : HelperRegistry} (h : r.keys.Nodup) (key : HelperKey)
    (body : Helper) : (r.register key body).keys.Nodup := by
  have hkeys : (r.register key body).keys = r.keys.filter (· != key) ++ [key] := by
    rw [keys, register, List.map_append, keys, List.filter_map]
    rfl
  rw [hkeys, List.nodup_append]
  refine ⟨h.filter _, List.nodup_singleton key, fun k hk k' hk' => ?_⟩
  rw [List.mem_singleton.mp hk']
  simpa using (List.mem_filter.mp hk).2

theorem mem_names_iff {r : HelperRegistry} {s : String} :
    s ∈ r.names ↔ ∃ k ∈ r.keys, k.qualified = s := by
  rw [names, List.mem_mergeSort, keys]
  simp

end HelperRegistry

/-! ### Calls one after the other -/

/-- A call that registers a helper. -/
structure Registration where
  /-- None for a common helper. -/
  family : Option String
  name : String
  body : Helper

namespace Registration

def key (g : Registration) : HelperKey := .make g.family g.name

/-- Whether the names that the call is made with have no dots. -/
def IsPlain (g : Registration) : Prop := HelperKey.IsPlain ⟨g.family, g.name⟩

theorem IsPlain.key {g : Registration} (h : g.IsPlain) : g.key.IsPlain := h.make

/-- One of the calls is the last one under its key. -/
def IsLast (gs : List Registration) (g : Registration) : Prop :=
  ∃ before after, gs = before ++ g :: after ∧ ∀ g' ∈ after, g'.key ≠ g.key

end Registration

namespace HelperRegistry

/-- The registry after calls that register helpers. -/
def ofRegistrations (gs : List Registration) : HelperRegistry :=
  gs.foldl (fun r g => r.register g.key g.body) empty

variable {gs : List Registration}

theorem ofRegistrations_append (gs : List Registration) (g : Registration) :
    ofRegistrations (gs ++ [g]) = (ofRegistrations gs).register g.key g.body := by
  rw [ofRegistrations, List.foldl_append]
  rfl

theorem nodup_keys (gs : List Registration) : (ofRegistrations gs).keys.Nodup := by
  induction gs using List.reverseRecOn with
  | nil => exact List.nodup_nil
  | append_singleton gs g ih =>
      rw [ofRegistrations_append]
      exact nodup_keys_register ih g.key g.body

theorem get?_ofRegistrations (gs : List Registration) (k : HelperKey) :
    (ofRegistrations gs).get? k = (gs.reverse.find? (·.key == k)).map (·.body) := by
  induction gs using List.reverseRecOn with
  | nil => rfl
  | append_singleton gs g ih =>
      rw [ofRegistrations_append, get?_register, List.reverse_append, List.reverse_singleton,
        List.singleton_append, List.find?_cons]
      by_cases hkey : k = g.key
      · rw [if_pos hkey, show (g.key == k) = true by simpa using hkey.symm]
        rfl
      · rw [if_neg hkey, show (g.key == k) = false by simpa using Ne.symm hkey, ih]

/-- Under a key stands what was registered last. -/
theorem exists_isLast {k : HelperKey} {body : Helper}
    (h : (ofRegistrations gs).get? k = some body) :
    ∃ g, Registration.IsLast gs g ∧ g.key = k ∧ g.body = body := by
  rw [get?_ofRegistrations] at h
  obtain ⟨g, hfind, hbody⟩ := Option.map_eq_some_iff.mp h
  obtain ⟨hkey, before, after, hsplit, hafter⟩ := find?_reverse_eq_some_iff.mp hfind
  have hkey : g.key = k := by simpa using hkey
  refine ⟨g, ⟨before, after, hsplit, fun g' hg' => ?_⟩, hkey, hbody⟩
  simpa [hkey] using hafter g' hg'

theorem isSome_get?_iff {k : HelperKey} :
    ((ofRegistrations gs).get? k).isSome ↔ ∃ g ∈ gs, g.key = k := by
  rw [get?_ofRegistrations, Option.isSome_map, List.find?_isSome]
  simp

theorem get?_eq_none {k : HelperKey} (h : ∀ g ∈ gs, g.key ≠ k) :
    (ofRegistrations gs).get? k = none := by
  rw [← Option.not_isSome_iff_eq_none, isSome_get?_iff]
  rintro ⟨g, hg, hkey⟩
  exact h g hg hkey

theorem mem_names_ofRegistrations {s : String} :
    s ∈ (ofRegistrations gs).names ↔ ∃ g ∈ gs, g.key.qualified = s := by
  rw [mem_names_iff]
  simp only [mem_keys_iff, isSome_get?_iff]
  constructor
  · rintro ⟨_, ⟨g, hg, rfl⟩, rfl⟩
    exact ⟨g, hg, rfl⟩
  · rintro ⟨g, hg, rfl⟩
    exact ⟨g.key, ⟨g, hg, rfl⟩, rfl⟩

theorem pairwise_names (hplain : ∀ g ∈ gs, g.IsPlain) :
    (ofRegistrations gs).names.Pairwise (· < ·) := by
  have hkeys : ∀ k ∈ (ofRegistrations gs).keys, k.IsPlain := by
    intro k hk
    obtain ⟨g, hg, rfl⟩ := isSome_get?_iff.mp (mem_keys_iff.mp hk)
    exact (hplain g hg).key
  have hnodup : ((ofRegistrations gs).keys.map HelperKey.qualified).Nodup :=
    (nodup_keys gs).map_on fun k hk k' hk' => (hkeys k hk).qualified_inj (hkeys k' hk')
  rw [keys, List.map_map] at hnodup
  exact Text.pairwise_lt_mergeSort hnodup

/-! ### Where names lead -/

/-- A name leads to a helper. -/
def Answers (r : HelperRegistry) (qualified : String) (body : Helper) : Prop :=
  ∃ h, r.resolve qualified = .ok h ∧ ∀ c args, h.call c args = body args

theorem answers_of_target? {r : HelperRegistry} {qualified : String} {body : Helper}
    (h : r.target? qualified = some (.fixed body)) : r.Answers qualified body := by
  refine ⟨⟨qualified, .fixed body⟩, ?_, fun _ _ => rfl⟩
  rw [resolve, h]

theorem target?_dotted (r : HelperRegistry) {family : String} (hfamily : '.' ∉ family.toList)
    (name : String) : r.target? s!"{family}.{name}"
      = if name = "" then none else r.familyTarget? family name := by
  rw [target?, HelperKey.toList_dotted, Text.splitAt?_of_not_mem_before hfamily]
  split
  · rename_i hcut
    rw [if_pos]
    simpa using (Prod.mk.inj (Option.some.inj hcut)).2
  · rename_i before after hsome hcut
    obtain ⟨rfl, rfl⟩ := Prod.mk.inj (Option.some.inj hcut)
    have hne : name ≠ "" := by
      rintro rfl
      exact hsome rfl
    rw [if_neg hne, String.ofList_toList, String.ofList_toList]
  · rename_i hcut
    cases hcut

theorem target?_plain (r : HelperRegistry) {name : String} (hname : '.' ∉ name.toList) :
    r.target? name = if name = "" then none else r.plainTarget? name := by
  simp only [target?, Text.splitAt?_of_not_mem hname, String.isEmpty_iff]

/-- The qualified name of a key leads to the helper under that key. -/
theorem target?_qualified {r : HelperRegistry} {k : HelperKey} (hplain : k.IsPlain)
    (hlower : k.family.map lowerCase = k.family) {body : Helper} (h : r.get? k = some body) :
    r.target? k.qualified = some (.fixed body) := by
  obtain ⟨family | family, name⟩ := k
  · rw [HelperKey.qualified, target?_plain r hplain.name, if_neg hplain.name_ne, plainTarget?, h]
  · rw [HelperKey.qualified, target?_dotted r (hplain.family family rfl), if_neg hplain.name_ne,
      familyTarget?, HelperKey.make_of_lower (Option.some.inj hlower), h]
    rfl

theorem lowerCase_key (g : Registration) : g.key.family.map lowerCase = g.key.family := by
  obtain ⟨family | family, name, body⟩ := g
  · rfl
  · exact congrArg some (lowerCase_lowerCase family)

theorem answers_of_mem_names (hplain : ∀ g ∈ gs, g.IsPlain) {s : String}
    (h : s ∈ (ofRegistrations gs).names) :
    ∃ g, Registration.IsLast gs g ∧ g.key.qualified = s ∧
      (ofRegistrations gs).Answers s g.body := by
  obtain ⟨g₀, hg₀, rfl⟩ := mem_names_ofRegistrations.mp h
  obtain ⟨body, hbody⟩ := Option.isSome_iff_exists.mp (isSome_get?_iff.mpr ⟨g₀, hg₀, rfl⟩)
  obtain ⟨g, hlast, hkey, rfl⟩ := exists_isLast hbody
  exact ⟨g, hlast, congrArg _ hkey, answers_of_target?
    (target?_qualified (hplain g₀ hg₀).key (lowerCase_key g₀) hbody)⟩

/-- The common helper answers in place of one that a family does not have. -/
theorem answers_common (hplain : ∀ g ∈ gs, g.IsPlain) {family name : String}
    (hfamily : '.' ∉ family.toList) (hnone : ∀ g ∈ gs, g.key ≠ .make (some family) name)
    (hcommon : ∃ g ∈ gs, g.key = ⟨none, name⟩) :
    ∃ body, (ofRegistrations gs).Answers name body ∧
      (ofRegistrations gs).Answers s!"{family}.{name}" body := by
  obtain ⟨body, hbody⟩ := Option.isSome_iff_exists.mp (isSome_get?_iff.mpr hcommon)
  obtain ⟨g, hg, hkey⟩ := hcommon
  have hname : HelperKey.IsPlain ⟨none, name⟩ := hkey ▸ (hplain g hg).key
  refine ⟨body, answers_of_target? (target?_qualified hname rfl hbody), answers_of_target? ?_⟩
  rw [target?_dotted _ hfamily, if_neg hname.name_ne, familyTarget?, get?_eq_none hnone, hbody]
  rfl

theorem unknown_of_no_common {family name : String} (hfamily : '.' ∉ family.toList)
    (hnone : ∀ g ∈ gs, g.key ≠ .make (some family) name)
    (hcommon : ∀ g ∈ gs, g.key ≠ ⟨none, name⟩) :
    (ofRegistrations gs).resolve s!"{family}.{name}" = .error (.unknown s!"{family}.{name}") := by
  have htarget : (ofRegistrations gs).target? s!"{family}.{name}" = none := by
    rw [target?_dotted _ hfamily, familyTarget?, get?_eq_none hnone, get?_eq_none hcommon]
    exact ite_self none
  rw [resolve, htarget]

theorem target?_congr (r : HelperRegistry) {family folded : String}
    (hfamily : '.' ∉ family.toList) (h : sameWord family folded = true) (name : String) :
    r.target? s!"{family}.{name}" = r.target? s!"{folded}.{name}" := by
  rw [target?_dotted r hfamily, target?_dotted r (not_mem_of_sameWord (by decide) h hfamily)]
  simp only [familyTarget?, HelperKey.make, Option.map_some, lowerCase_congr h]

/-! ### What a call leaves as it was -/

theorem resolve_congr {r r' : HelperRegistry} {s : String} (h : r.target? s = r'.target? s) :
    r.resolve s = r'.resolve s := by
  rw [resolve, resolve, h]

theorem resolve_register_dotted (r : HelperRegistry) {family₀ : String} (name₀ : String)
    (body : Helper) {family : String} (hfamily : '.' ∉ family.toList)
    (hne : lowerCase family ≠ lowerCase family₀) (name : String) :
    (r.register (.make (some family₀) name₀) body).resolve s!"{family}.{name}"
      = r.resolve s!"{family}.{name}" := by
  have hfamilyKey : HelperKey.make (some family) name ≠ .make (some family₀) name₀ := by
    simp [HelperKey.make, hne]
  refine resolve_congr ?_
  rw [target?_dotted _ hfamily, target?_dotted _ hfamily, familyTarget?, familyTarget?,
    get?_register, get?_register, if_neg hfamilyKey,
    if_neg (HelperKey.common_ne_make name name₀ family₀)]

theorem resolve_register_plain (r : HelperRegistry) {family₀ : String} (name₀ : String)
    (body : Helper) {name : String} (hname : '.' ∉ name.toList)
    (hcommon : (r.get? ⟨none, name⟩).isSome) :
    (r.register (.make (some family₀) name₀) body).resolve name = r.resolve name := by
  obtain ⟨common, hget⟩ := Option.isSome_iff_exists.mp hcommon
  refine resolve_congr ?_
  rw [target?_plain _ hname, target?_plain _ hname, plainTarget?, plainTarget?, get?_register,
    if_neg (HelperKey.common_ne_make name name₀ family₀), hget]

/-! ### The built-in helpers -/

/-- The calls that register the built-in helpers. -/
def builtinCalls : List Registration :=
  common.map (fun (name, body) => ⟨none, name, body⟩) ++
    ofFamilies.map fun (family, name, p) => ⟨some family, name, .ofPredicate name p⟩

theorem builtin_eq : builtin = ofRegistrations builtinCalls := by
  rw [ofRegistrations, builtinCalls, List.foldl_append, List.foldl_map, List.foldl_map]
  rfl

theorem isPlain_builtinCalls : ∀ g ∈ builtinCalls, g.IsPlain := by
  have hcommon : ∀ name ∈ common.map (·.1), HelperKey.IsPlain ⟨none, name⟩ := by decide
  have hfamilies : ∀ p ∈ ofFamilies.map fun (family, name, _) => (family, name),
      HelperKey.IsPlain ⟨some p.1, p.2⟩ := by decide
  intro g hg
  rcases List.mem_append.mp hg with hg | hg
  · obtain ⟨⟨name, body⟩, hmem, rfl⟩ := List.mem_map.mp hg
    exact hcommon name (List.mem_map_of_mem hmem)
  · obtain ⟨⟨family, name, p⟩, hmem, rfl⟩ := List.mem_map.mp hg
    exact hfamilies (family, name) (List.mem_map_of_mem hmem)

/-! ### The registry -/

/-- **Names lead to what was registered.**  The registry lists each key once and in order, and the
name of a key leads to what was registered under it last.  A name in a family that does not have
it leads to the common helper, or nowhere if there is none.  The case of ASCII letters in the
family makes no difference.  What is registered for one family has no effect on names in another
one, and none on a name without a family that is common. -/
theorem ofRegistrations_lookup (hplain : ∀ g ∈ gs, g.IsPlain) :
    ((ofRegistrations gs).names.Pairwise (· < ·) ∧
      (∀ s, s ∈ (ofRegistrations gs).names ↔ ∃ g ∈ gs, g.key.qualified = s) ∧
      ∀ g ∈ gs, ∀ g' ∈ gs, g.key.qualified = g'.key.qualified → g.key = g'.key) ∧
    (∀ s ∈ (ofRegistrations gs).names, ∃ g, Registration.IsLast gs g ∧ g.key.qualified = s ∧
      (ofRegistrations gs).Answers s g.body) ∧
    (∀ family name : String, '.' ∉ family.toList → (∀ g ∈ gs, g.key ≠ .make (some family) name) →
      ((∃ g ∈ gs, g.key = ⟨none, name⟩) →
        ∃ body, (ofRegistrations gs).Answers name body ∧
          (ofRegistrations gs).Answers s!"{family}.{name}" body) ∧
      ((∀ g ∈ gs, g.key ≠ ⟨none, name⟩) →
        (ofRegistrations gs).resolve s!"{family}.{name}"
          = .error (.unknown s!"{family}.{name}"))) ∧
    (∀ family folded name : String, '.' ∉ family.toList → sameWord family folded = true →
      (ofRegistrations gs).target? s!"{family}.{name}"
        = (ofRegistrations gs).target? s!"{folded}.{name}") ∧
    ∀ family₀ name₀ body,
      (∀ family name : String, '.' ∉ family.toList → lowerCase family ≠ lowerCase family₀ →
        (ofRegistrations (gs ++ [⟨some family₀, name₀, body⟩])).resolve s!"{family}.{name}"
          = (ofRegistrations gs).resolve s!"{family}.{name}") ∧
      ∀ name : String, '.' ∉ name.toList → (∃ g ∈ gs, g.key = ⟨none, name⟩) →
        (ofRegistrations (gs ++ [⟨some family₀, name₀, body⟩])).resolve name
          = (ofRegistrations gs).resolve name := by
  refine ⟨⟨pairwise_names hplain, fun s => mem_names_ofRegistrations, fun g hg g' hg' => ?_⟩,
    fun s => answers_of_mem_names hplain,
    fun family name hfamily hnone => ⟨answers_common hplain hfamily hnone,
      unknown_of_no_common hfamily hnone⟩,
    fun family folded name hfamily h => target?_congr _ hfamily h name,
    fun family₀ name₀ body => ⟨fun family name hfamily hne => ?_, fun name hname hcommon => ?_⟩⟩
  · exact (hplain g hg).key.qualified_inj (hplain g' hg').key
  · rw [ofRegistrations_append]
    exact resolve_register_dotted _ name₀ body hfamily hne name
  · rw [ofRegistrations_append]
    exact resolve_register_plain _ name₀ body hname (isSome_get?_iff.mpr hcommon)

theorem builtin_lookup : builtin.names.Pairwise (· < ·) ∧
    (∃ body, builtin.Answers "isShutdown" body ∧ builtin.Answers "cisco.isShutdown" body) ∧
    builtin.resolve "cisco.frobnicate" = .error (.unknown "cisco.frobnicate") ∧
    builtin.target? "cisco.isTrunkPort" = builtin.target? "Cisco.isTrunkPort" := by
  rw [builtin_eq]
  obtain ⟨⟨hnames, -⟩, -, hfallback, hcase, -⟩ := ofRegistrations_lookup isPlain_builtinCalls
  refine ⟨hnames, (hfallback "cisco" "isShutdown" (by decide) ?_).1 ?_,
    (hfallback "cisco" "frobnicate" (by decide) ?_).2 ?_,
    hcase "cisco" "Cisco" "isTrunkPort" (by decide) (by decide)⟩ <;> decide +kernel

end HelperRegistry

end DeviceLint
