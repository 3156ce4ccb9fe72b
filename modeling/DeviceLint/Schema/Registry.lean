/-
The schemas that are available, by name.

Entries are keyed by their schema's id in lower case, so that ids which differ in case
only are one entry.  A lookup tries the ids first; only a name that is no id is looked
for among the other names of the entries, from the first entry on.
-/
import DeviceLint.Schema.Builtin

namespace DeviceLint

/-- Schemas under the lower-case forms of their ids, in ascending order of those. -/
structure SchemaRegistry where
  entries : Fields Schema

namespace SchemaRegistry

def empty : SchemaRegistry := ⟨[]⟩

/-- Adds a schema, in place of one with the same id. -/
def register (r : SchemaRegistry) (s : Schema) : SchemaRegistry :=
  ⟨r.entries.insert (lowerCase s.id) s⟩

/-- The registry of the built-in schemas. -/
def builtin : SchemaRegistry := Schema.builtin.foldl register empty

/-- The schema with this id or other name. -/
def get? (r : SchemaRegistry) (name : String) : Option Schema :=
  (r.entries.get? (lowerCase name)).or ((r.entries.map (·.2)).find? (·.answersTo name))

/-- The ids of all schemas in ascending order. -/
def ids (r : SchemaRegistry) : List String :=
  (r.entries.map (·.2.id)).mergeSort (fun a b => decide (a ≤ b))

def size (r : SchemaRegistry) : Nat := r.entries.length

def isEmpty (r : SchemaRegistry) : Bool := r.entries.isEmpty

end SchemaRegistry

end DeviceLint
