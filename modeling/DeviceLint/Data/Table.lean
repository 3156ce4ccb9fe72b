/-
Tables: members under names, of which no two are equal.

The members are kept in ascending order of their names, and the order is part of the
type.  So a table is determined by what it holds, however it came about.
-/
import DeviceLint.Data.Value

namespace DeviceLint

namespace Fields

/-- In ascending order of the names, without repetitions. -/
def Ascending {α : Type} (fields : Fields α) : Prop := fields.Pairwise fun a b => a.1 < b.1

theorem mem_insert {α : Type} {name : String} {value : α} {m : String × α} {fields : Fields α} :
    m ∈ insert name value fields → m = (name, value) ∨ m ∈ fields := by
  induction fields with
  | nil => simp [insert]
  | cons head rest ih =>
    rw [insert]
    split
    · simp
    · split
      · intro h
        rcases List.mem_cons.1 h with h | h
        · exact .inl h
        · exact .inr (List.mem_cons_of_mem _ h)
      · intro h
        rcases List.mem_cons.1 h with h | h
        · exact .inr (h ▸ List.mem_cons_self)
        · exact (ih h).imp id (List.mem_cons_of_mem _)

theorem ascending_insert {α : Type} (name : String) (value : α) {fields : Fields α}
    (h : Ascending fields) : Ascending (insert name value fields) := by
  induction fields with
  | nil => simp [insert, Ascending]
  | cons head rest ih =>
    have ⟨first, others⟩ := List.pairwise_cons.1 h
    rw [insert]
    split
    case isTrue lt =>
      refine List.pairwise_cons.2 ⟨fun m hm => ?_, h⟩
      rcases List.mem_cons.1 hm with rfl | hm
      · exact lt
      · exact String.lt_trans lt (first m hm)
    case isFalse notLt =>
      split
      case isTrue same =>
        have same : name = head.1 := by simpa using same
        exact List.pairwise_cons.2 ⟨fun m hm => same ▸ first m hm, others⟩
      case isFalse different =>
        refine List.pairwise_cons.2 ⟨fun m hm => ?_, ih others⟩
        rcases mem_insert hm with rfl | hm
        · exact Std.lt_of_le_of_ne (String.not_lt.1 notLt)
            fun same => different (beq_iff_eq.2 same.symm)
        · exact first m hm

end Fields

structure Table (α : Type) where
  fields : Fields α
  ascending : fields.Ascending
  deriving DecidableEq

namespace Table

variable {α : Type}

def empty : Table α := ⟨[], List.Pairwise.nil⟩

instance : Inhabited (Table α) := ⟨empty⟩

instance : EmptyCollection (Table α) := ⟨empty⟩

/-- Adds a member, in place of one of the same name. -/
def insert (name : String) (value : α) (t : Table α) : Table α :=
  ⟨t.fields.insert name value, Fields.ascending_insert name value t.ascending⟩

def get? (name : String) (t : Table α) : Option α := t.fields.get? name

/-- Adds a member, together with one of the same name if there is one. -/
def insertWith (combine : α → α → α) (name : String) (value : α) (t : Table α) : Table α :=
  t.insert name (match t.get? name with
    | some earlier => combine earlier value
    | none => value)

/-- Two tables in one.  Members under a name that both have are combined. -/
def mergeWith (combine : α → α → α) (t u : Table α) : Table α :=
  u.fields.foldl (fun t (name, value) => t.insertWith combine name value) t

/-- A table of members in any order; of two with one name the later stays. -/
def ofList (members : List (String × α)) : Table α :=
  members.foldl (fun t (name, value) => t.insert name value) empty

theorem ascending_map {β : Type} (f : α → β) {fields : Fields α} (h : fields.Ascending) :
    Fields.Ascending (fields.map fun (name, a) => (name, f a)) := List.pairwise_map.2 h

def map {β : Type} (f : α → β) (t : Table α) : Table β :=
  ⟨t.fields.map fun (name, a) => (name, f a), ascending_map f t.ascending⟩

end Table

namespace Value

def ofTable (t : Table Value) : Value := .object t.fields

end Value

end DeviceLint
