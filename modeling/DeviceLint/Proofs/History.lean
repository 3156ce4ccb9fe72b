/-
What a registry of schemas has been through.

A registry starts with some schemas or with none.  Then schemas are added and schema files are
loaded, in any order.  A call that fails adds nothing, and one that succeeds adds one schema, so
a registry is what it would be had all these schemas been added one after the other: under each
key stands the last one that has it, and nothing else stands in it.
-/
import DeviceLint.Proofs.Outcome
import DeviceLint.Proofs.Tables
import DeviceLint.Proofs.Text
import DeviceLint.Schema.Load
import Mathlib.Data.List.Dedup
import Mathlib.Data.List.Induction

namespace DeviceLint

namespace Schema

/-- What a schema is kept under. -/
def key (s : Schema) : String := lowerCase s.id

/-- One of some schemas is the last one under its key. -/
def IsLast (ss : List Schema) (s : Schema) : Prop :=
  ∃ before after, ss = before ++ s :: after ∧ ∀ t ∈ after, t.key ≠ s.key

end Schema

namespace SchemaRegistry

variable {ss : List Schema} {s : Schema}

/-! ### Schemas added one after the other -/

/-- The registry of schemas that are added one after the other. -/
def ofSchemas (ss : List Schema) : SchemaRegistry := ss.foldl register empty

theorem ofSchemas_append (ss : List Schema) (s : Schema) :
    ofSchemas (ss ++ [s]) = (ofSchemas ss).register s := by
  rw [ofSchemas, List.foldl_append]
  rfl

theorem ascending_ofSchemas (ss : List Schema) : (ofSchemas ss).entries.Ascending := by
  induction ss using List.reverseRecOn with
  | nil => exact List.Pairwise.nil
  | append_singleton ss s ih =>
      rw [ofSchemas_append]
      exact Fields.ascending_insert s.key s ih

theorem lookup_ofSchemas (ss : List Schema) (key : String) :
    (ofSchemas ss).entries.lookup key = ss.reverse.find? (·.key == key) := by
  induction ss using List.reverseRecOn with
  | nil => rfl
  | append_singleton ss s ih =>
      have hregister : ((ofSchemas ss).register s).entries.lookup key
          = if key = s.key then some s else (ofSchemas ss).entries.lookup key :=
        Fields.lookup_insert s.key s _ key
      rw [ofSchemas_append, hregister, List.reverse_append, List.reverse_singleton,
        List.singleton_append, List.find?_cons]
      by_cases hkey : key = s.key
      · rw [if_pos hkey, show (s.key == key) = true by simpa using hkey.symm]
      · rw [if_neg hkey, show (s.key == key) = false by simpa using Ne.symm hkey, ih]

/-- Under a key stands the last schema that has it. -/
theorem mem_entries_iff {key : String} :
    (key, s) ∈ (ofSchemas ss).entries ↔ s.IsLast ss ∧ s.key = key := by
  rw [← (ascending_ofSchemas ss).lookup_eq_some_iff, lookup_ofSchemas, find?_reverse_eq_some_iff]
  constructor
  · rintro ⟨hkey, before, after, hsplit, hafter⟩
    obtain rfl : s.key = key := by simpa using hkey
    exact ⟨⟨before, after, hsplit, by simpa using hafter⟩, rfl⟩
  · rintro ⟨⟨before, after, hsplit, hafter⟩, rfl⟩
    exact ⟨by simp, before, after, hsplit, by simpa using hafter⟩

theorem isLast_of_mem_entries {e : String × Schema} (h : e ∈ (ofSchemas ss).entries) :
    e.2.IsLast ss ∧ e.2.key = e.1 :=
  mem_entries_iff.mp h

theorem mem_entries_of_isLast (h : s.IsLast ss) : (s.key, s) ∈ (ofSchemas ss).entries :=
  mem_entries_iff.mpr ⟨h, rfl⟩

/-- The keys of a registry are those of all schemas that were added. -/
theorem mem_keys_iff {key : String} :
    key ∈ (ofSchemas ss).entries.map (·.1) ↔ key ∈ ss.map Schema.key := by
  rw [← Fields.isSome_lookup_iff, lookup_ofSchemas, List.find?_isSome, List.mem_map]
  simp

/-- What may be done to a registry. -/
inductive Call where
  | register (s : Schema)
  /-- The schema in a file is added, by the files that there are at the time. -/
  | load (files : Files) (path : String)

namespace Call

/-- The schema that a call adds, unless it fails. -/
def schema? : Call → Option Schema
  | register s => some s
  | load files path => (Schema.load files path).toOption

/-- The registry after a call.  One that fails has nothing to put in its place. -/
def apply (r : SchemaRegistry) : Call → SchemaRegistry
  | register s => r.register s
  | load files path =>
    match r.load files path with
    | .ok (r', _) => r'
    | .error _ => r

end Call

/-- The registry after some calls. -/
def after (r : SchemaRegistry) (calls : List Call) : SchemaRegistry := calls.foldl Call.apply r

/-- A call adds its schema and does nothing else. -/
theorem apply_eq (r : SchemaRegistry) (call : Call) :
    call.apply r = (call.schema?.map r.register).getD r := by
  cases call with
  | register s => rfl
  | load files path =>
      rw [Call.apply, SchemaRegistry.load, Call.schema?]
      cases Schema.load files path with
      | error e => rfl
      | ok s => rfl

theorem after_ofSchemas (ss : List Schema) (calls : List Call) :
    (ofSchemas ss).after calls = ofSchemas (ss ++ calls.filterMap Call.schema?) := by
  induction calls generalizing ss with
  | nil => rw [List.filterMap_nil, List.append_nil]; rfl
  | cons call calls ih =>
      show (call.apply (ofSchemas ss)).after calls = _
      rw [apply_eq, List.filterMap_cons]
      cases call.schema? with
      | none => exact ih ss
      | some s =>
          show ((ofSchemas ss).register s).after calls = _
          rw [← ofSchemas_append, ih, List.append_assoc, List.singleton_append]

/-! ### Files -/

end SchemaRegistry

end DeviceLint
