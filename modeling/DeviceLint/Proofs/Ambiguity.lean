/-
Names that mean more than one schema.

A name that is the id of some schema leads to that schema: there is one entry at most under each
key, so it does not matter where it stands.  Any other name is looked for among the other names
of the entries, from the first one on, and nothing keeps two schemas from having such a name in
common.  What it means then hangs on the order in which a registry happens to hold its entries,
and this is the only way in which the order is ever seen.
-/
import DeviceLint.Lint.Linter
import DeviceLint.Proofs.History

namespace DeviceLint

namespace SchemaRegistry

/-- Whether a name means the same in whatever order a registry holds its entries. -/
def IsSettled (r : SchemaRegistry) (name : String) : Prop :=
  ∀ r' : SchemaRegistry, r'.entries.Perm r.entries → r'.get? name = r.get? name

variable {r : SchemaRegistry} {name : String}

/-- A key is settled. -/
theorem isSettled_of_key (hnodup : (r.entries.map (·.1)).Nodup)
    (hkey : lowerCase name ∈ r.entries.map (·.1)) : r.IsSettled name := by
  intro r' hperm
  obtain ⟨s, hs⟩ := Option.isSome_iff_exists.mp (Fields.isSome_lookup_iff.mpr hkey)
  rw [get?, get?, Fields.get?, Fields.get?, Fields.lookup_eq_of_perm hnodup hperm, hs]
  rfl

/-- A name that is no key leads to the first entry that answers to it. -/
theorem get?_of_not_key (hkey : lowerCase name ∉ r.entries.map (·.1)) :
    r.get? name = (r.entries.map (·.2)).find? (·.answersTo name) := by
  have hnone : r.entries.lookup (lowerCase name) = none := by
    rw [← Option.not_isSome_iff_eq_none, Fields.isSome_lookup_iff]
    exact hkey
  rw [get?, Fields.get?, hnone]
  rfl

/-- A name to which at most one entry answers is settled. -/
theorem isSettled_of_unique (hkey : lowerCase name ∉ r.entries.map (·.1))
    (hunique : ∀ e ∈ r.entries, ∀ e' ∈ r.entries, e.2.answersTo name = true →
      e'.2.answersTo name = true → e = e') : r.IsSettled name := by
  have hfind : ∀ r' : SchemaRegistry, r'.entries.Perm r.entries → ∀ s,
      r'.get? name = some s ↔ ∃ e ∈ r.entries, e.2 = s ∧ s.answersTo name = true := by
    intro r' hperm s
    have hkey' : lowerCase name ∉ r'.entries.map (·.1) := by
      rwa [(hperm.map (·.1)).mem_iff]
    rw [get?_of_not_key hkey']
    constructor
    · intro hfound
      obtain ⟨e, he, rfl⟩ := List.mem_map.mp (List.mem_of_find?_eq_some hfound)
      have hanswers := List.find?_some hfound
      exact ⟨e, hperm.mem_iff.mp he, rfl, hanswers⟩
    · rintro ⟨e, he, rfl, hname⟩
      have hmem : e.2 ∈ r'.entries.map (·.2) := List.mem_map_of_mem (hperm.mem_iff.mpr he)
      have hsome : ((r'.entries.map (·.2)).find? (·.answersTo name)).isSome :=
        List.find?_isSome.mpr ⟨e.2, hmem, hname⟩
      obtain ⟨t, ht⟩ := Option.isSome_iff_exists.mp hsome
      obtain ⟨e', he', rfl⟩ := List.mem_map.mp (List.mem_of_find?_eq_some ht)
      have hanswers := List.find?_some ht
      rw [ht, hunique e' (hperm.mem_iff.mp he') e he hanswers hname]
  intro r' hperm
  ext s
  rw [hfind r' hperm, hfind r (List.Perm.refl _)]

/-- An entry that answers to a name is found first in some order. -/
theorem exists_perm_get? (hkey : lowerCase name ∉ r.entries.map (·.1)) {e : String × Schema}
    (he : e ∈ r.entries) (hname : e.2.answersTo name = true) :
    ∃ r' : SchemaRegistry, r'.entries.Perm r.entries ∧ r'.get? name = some e.2 := by
  obtain ⟨before, after, hsplit⟩ := List.append_of_mem he
  have hperm : (e :: (before ++ after)).Perm r.entries := by
    rw [hsplit]
    exact List.perm_middle.symm
  refine ⟨⟨e :: (before ++ after)⟩, hperm, ?_⟩
  rw [get?_of_not_key]
  · exact List.find?_cons_of_pos hname
  · rwa [(hperm.map (·.1)).mem_iff]

/--
**A name is settled if it is an id, or if one schema at most answers to it, and not otherwise.**

This is so after any calls.  Whatever a linter scans in a dialect with a settled name, the order
in which it holds the schemas makes no difference.
-/
theorem after_isSettled_iff (start : List Schema) (calls : List Call) (name : String) :
    let r := (ofSchemas start).after calls
    let added := start ++ calls.filterMap Call.schema?
    (r.IsSettled name ↔ (∃ s ∈ added, lowerCase s.id = lowerCase name) ∨
      ∀ s t : Schema, s.IsLast added → t.IsLast added →
        s.answersTo name = true → t.answersTo name = true → s = t) ∧
    (r.IsSettled name → ∀ r' : SchemaRegistry, r'.entries.Perm r.entries →
      ∀ (linter : Linter) (label text : String),
        ({ linter with schemas := r' } : Linter).lint label text name
          = ({ linter with schemas := r } : Linter).lint label text name) := by
  intro r added
  have hr : r = ofSchemas added := after_ofSchemas start calls
  have hkeys : lowerCase name ∈ r.entries.map (·.1)
      ↔ ∃ s ∈ added, lowerCase s.id = lowerCase name := by
    rw [hr, mem_keys_iff, List.mem_map]
    rfl
  refine ⟨⟨fun hsettled => ?_, ?_⟩, fun hsettled r' hperm linter label text => ?_⟩
  · rw [← hkeys, or_iff_not_imp_left]
    intro hkey s t hs ht hname hname'
    rw [hr] at hkey hsettled
    obtain ⟨r₁, hperm₁, hs₁⟩ := exists_perm_get? hkey (mem_entries_of_isLast hs) hname
    obtain ⟨r₂, hperm₂, ht₂⟩ := exists_perm_get? hkey (mem_entries_of_isLast ht) hname'
    rw [hsettled r₁ hperm₁, ← hsettled r₂ hperm₂, ht₂] at hs₁
    exact (Option.some.inj hs₁).symm
  · rw [← hkeys]
    by_cases hkey : lowerCase name ∈ r.entries.map (·.1)
    · intro _
      refine isSettled_of_key ?_ hkey
      rw [hr]
      exact (ascending_ofSchemas added).nodup_names
    · intro h
      refine isSettled_of_unique hkey fun e he e' he' hname hname' => ?_
      rw [hr] at he he'
      obtain ⟨hlast, heq⟩ := isLast_of_mem_entries he
      obtain ⟨hlast', heq'⟩ := isLast_of_mem_entries he'
      have hsame : e.2 = e'.2 := h.resolve_left hkey e.2 e'.2 hlast hlast' hname hname'
      exact Prod.ext (by rw [← heq, ← heq', hsame]) hsame
  · rw [Linter.lint, Linter.lint, hsettled r' hperm]
    rfl

/-- Two dialects that share a name and nest differently. -/
def sharedName : List Schema :=
  [{ id := "catos-nested", aliases := ["catos"] },
    { id := "catos-flat", aliases := ["catos"], blockStyle := .flat }]

/-- The name that both have means one dialect or the other as the order has it, and with it the text
of a section with one line is read as one tree or as two. -/
theorem sharedName_unsettled :
    let r := ofSchemas sharedName
    let r' : SchemaRegistry := ⟨r.entries.reverse⟩
    let roots (r : SchemaRegistry) : Option Nat :=
      (r.get? "catos").map fun s => (parse s "vlan 10\n name red\n").length
    (∀ s ∈ sharedName, s.fault? = none) ∧ r'.entries.Perm r.entries ∧
      (r.get? "catos").map (·.id) = some "catos-flat" ∧
      (r'.get? "catos").map (·.id) = some "catos-nested" ∧
      roots r = some 2 ∧ roots r' = some 1 ∧ ¬ r.IsSettled "catos" := by
  intro r r' roots
  have hperm : r'.entries.Perm r.entries := List.reverse_perm _
  have hids : (r.get? "catos").map (·.id) = some "catos-flat" := by decide +kernel
  have hids' : (r'.get? "catos").map (·.id) = some "catos-nested" := by decide +kernel
  refine ⟨by decide, hperm, hids, hids', by decide +kernel, by decide +kernel, fun h => ?_⟩
  rw [h r' hperm, hids] at hids'
  revert hids'
  decide

end SchemaRegistry

end DeviceLint
