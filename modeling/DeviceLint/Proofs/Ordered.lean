/-
Values in order.

A value is in order if at every depth the fields of its objects are.  What is read from a
document is in order, whatever the document was.  The other way round, nothing changes when a
value in order is read from the document that it makes; of other values it is still known that
they can be read.
-/
import DeviceLint.Data.Decode
import DeviceLint.Proofs.Tables
import Mathlib.Tactic.SplitIfs

namespace DeviceLint

/-! ### Fields from a list -/

namespace Fields

variable {α : Type}

theorem insert_of_forall_lt {name : String} {value : α} {fields : Fields α}
    (h : ∀ m ∈ fields, m.1 < name) : insert name value fields = fields ++ [(name, value)] := by
  induction fields with
  | nil => rfl
  | cons m rest ih =>
      obtain ⟨hm, hrest⟩ := List.forall_mem_cons.mp h
      have hne : (name == m.1) = false := by simpa using (String.ne_of_lt hm).symm
      rw [insert, if_neg (String.lt_asymm hm), hne, ih hrest]
      rfl

theorem ofList_of_ascending {fields : Fields α} (h : fields.Ascending) :
    ofList fields = fields := by
  have hfold : ∀ before : Fields α, Ascending (before ++ fields) →
      fields.foldl (fun fields m => insert m.1 m.2 fields) before = before ++ fields := by
    clear h
    induction fields with
    | nil => intro before _; simp
    | cons m rest ih =>
        intro before h
        obtain ⟨-, -, hcross⟩ := List.pairwise_append.mp h
        have hbefore : ∀ k ∈ before, k.1 < m.1 := fun k hk => hcross k hk m List.mem_cons_self
        rw [List.foldl_cons, insert_of_forall_lt hbefore, ih _ (by simpa using h),
          List.append_assoc, List.singleton_append]
  exact hfold [] h

theorem ascending_ofList (members : List (String × α)) : Ascending (ofList members) := by
  have hfold : ∀ fields : Fields α, fields.Ascending →
      Ascending (members.foldl (fun fields m => insert m.1 m.2 fields) fields) := by
    induction members with
    | nil => exact fun _ h => h
    | cons m rest ih => exact fun fields h => ih _ (ascending_insert m.1 m.2 h)
  exact hfold [] List.Pairwise.nil

theorem mem_of_mem_ofList {members : List (String × α)} {m : String × α}
    (h : m ∈ ofList members) : m ∈ members := by
  have hfold : ∀ fields : Fields α,
      m ∈ members.foldl (fun fields k => insert k.1 k.2 fields) fields →
        m ∈ members ∨ m ∈ fields := by
    clear h
    induction members with
    | nil => exact fun _ h => .inr h
    | cons k rest ih =>
        intro fields h
        rcases ih _ h with h | h
        · exact .inl (List.mem_cons_of_mem k h)
        · exact (mem_insert h).imp_left fun h => List.mem_cons.mpr (.inl h)
  exact (hfold [] h).resolve_right List.not_mem_nil

end Fields

/-! ### Values -/

/-- Whether the fields of all objects are in ascending order of their names. -/
inductive Value.IsOrdered : Value → Prop
  | null : IsOrdered .null
  | bool (b : Bool) : IsOrdered (.bool b)
  | number (n : Number) : IsOrdered (.number n)
  | text (s : String) : IsOrdered (.text s)
  | array {items : List Value} (h : ∀ v ∈ items, IsOrdered v) : IsOrdered (.array items)
  | object {fields : Fields Value} (hfields : fields.Ascending)
      (h : ∀ m ∈ fields, IsOrdered m.2) : IsOrdered (.object fields)

namespace Document

/-! ### Reading a value in order -/

theorem toValues?_ofItems {items : List Value} (h : ∀ v ∈ items, (ofValue v).toValue? = some v) :
    toValues? (ofItems items) = some items := by
  induction items with
  | nil => rw [ofItems, toValues?]
  | cons v rest ih =>
      obtain ⟨hv, hrest⟩ := List.forall_mem_cons.mp h
      rw [ofItems, toValues?, hv, ih hrest]
      rfl

theorem toFields?_ofFields {fields : Fields Value}
    (h : ∀ m ∈ fields, (ofValue m.2).toValue? = some m.2) :
    toFields? (ofFields fields) = some fields := by
  induction fields with
  | nil => rw [ofFields, toFields?]
  | cons m rest ih =>
      obtain ⟨hm, hrest⟩ := List.forall_mem_cons.mp h
      rw [ofFields, toFields?, hm, ih hrest]
      rfl

/-- A value in order is what is read from the document that it makes. -/
theorem toValue?_ofValue {v : Value} (h : v.IsOrdered) : (ofValue v).toValue? = some v := by
  induction h with
  | null | bool | number | text => rw [ofValue, toValue?]
  | array _ ih => rw [ofValue, toValue?, toValues?_ofItems ih]; rfl
  | object hfields _ ih =>
      rw [ofValue, toValue?, toFields?_ofFields ih, Option.map_some,
        Fields.ofList_of_ascending hfields]

/-! ### Reading any value -/

mutual

theorem exists_toValue?_ofValue : ∀ v : Value, ∃ w, (ofValue v).toValue? = some w
  | .null | .bool _ | .number _ | .text _ => ⟨_, by rw [ofValue, toValue?]⟩
  | .array items => by
      obtain ⟨ws, h⟩ := exists_toValues?_ofItems items
      exact ⟨.array ws, by rw [ofValue, toValue?, h]; rfl⟩
  | .object fields => by
      obtain ⟨ws, h⟩ := exists_toFields?_ofFields fields
      exact ⟨.object (Fields.ofList ws), by rw [ofValue, toValue?, h]; rfl⟩

theorem exists_toValues?_ofItems : ∀ items : List Value, ∃ ws, toValues? (ofItems items) = some ws
  | [] => ⟨[], by rw [ofItems, toValues?]⟩
  | v :: vs => by
      obtain ⟨w, hw⟩ := exists_toValue?_ofValue v
      obtain ⟨ws, hws⟩ := exists_toValues?_ofItems vs
      exact ⟨w :: ws, by rw [ofItems, toValues?, hw, hws]; rfl⟩

theorem exists_toFields?_ofFields :
    ∀ fields : List (String × Value), ∃ ws, toFields? (ofFields fields) = some ws
  | [] => ⟨[], by rw [ofFields, toFields?]⟩
  | (name, v) :: rest => by
      obtain ⟨w, hw⟩ := exists_toValue?_ofValue v
      obtain ⟨ws, hws⟩ := exists_toFields?_ofFields rest
      exact ⟨(name, w) :: ws, by rw [ofFields, toFields?, hw, hws]; rfl⟩

end

/-! ### What has been read -/

theorem isOrdered_floatValue (x : Binary64) : (Scalar.floatValue x).IsOrdered := by
  rw [Scalar.floatValue]
  split
  · exact .number _
  · exact .null

theorem isOrdered_of_wide? {s : List Char} {fits : Bool} {v : Value}
    (h : Scalar.wide? s fits = some v) : v.IsOrdered := by
  rw [Scalar.wide?] at h
  split at h
  · cases h
  · cases h
    split
    · exact isOrdered_floatValue _
    · exact .text _

theorem isOrdered_of_value? {s : String} {v : Value} (h : Scalar.value? s = some v) :
    v.IsOrdered := by
  simp only [Scalar.value?] at h
  split at h
  · cases h
    exact .null
  · split at h
    · cases h
      exact .bool _
    · split at h
      · split_ifs at h
        · cases h
          exact .number _
        · exact isOrdered_of_wide? h
      · split_ifs at h
        · cases h
          exact .number _
        · exact isOrdered_of_wide? h
      · split at h
        · cases h
          exact .text s
        · split at h
          · cases h
            exact isOrdered_floatValue _
          · cases h
            exact .text s

theorem isOrdered_of_taggedValue? {tag s : String} {v : Value}
    (h : taggedValue? tag s = some v) : v.IsOrdered := by
  simp only [taggedValue?] at h
  split_ifs at h
  · obtain ⟨b, -, rfl⟩ := Option.map_eq_some_iff.mp h
    exact .bool b
  · split at h
    · split_ifs at h
      cases h
      exact .number _
    · split_ifs at h
      cases h
      exact .number _
    · cases h
  · obtain ⟨x, -, rfl⟩ := Option.map_eq_some_iff.mp h
    exact isOrdered_floatValue x
  · cases h
    exact .null
  · cases h
    exact .text s

/-- A node under an explicit type is a scalar of that type or is read without it. -/
theorem toValue?_tagged {tag : String} {d : Document} {v : Value}
    (h : (tagged tag d).toValue? = some v) :
    (∃ s, taggedValue? tag s = some v) ∨ d.toValue? = some v := by
  cases d with
  | plain s | text s => exact .inl ⟨s, by rwa [toValue?] at h⟩
  | unfit => simp [toValue?] at h
  | _ =>
      right
      simp only [toValue?] at h
      split_ifs at h
      exact h

theorem toFields?_cons {key d : Document} {rest : List (Document × Document)}
    {fields : List (String × Value)} (h : toFields? ((key, d) :: rest) = some fields) :
    ∃ name v others, d.toValue? = some v ∧ toFields? rest = some others
      ∧ fields = (name, v) :: others := by
  cases key with
  | plain name | text name =>
      rw [toFields?] at h
      obtain ⟨v, hv, h⟩ := Option.bind_eq_some_iff.mp h
      obtain ⟨others, hothers, h⟩ := Option.bind_eq_some_iff.mp h
      cases h
      exact ⟨name, v, others, hv, hothers, rfl⟩
  | _ => simp [toFields?] at h

mutual

/-- What is read from a document is in order. -/
theorem isOrdered_of_toValue? : ∀ {d : Document} {v : Value}, d.toValue? = some v → v.IsOrdered
  | .null, _, h => by cases h; exact .null
  | .bool b, _, h => by cases h; exact .bool b
  | .number n, _, h => by cases h; exact .number n
  | .text s, _, h => by cases h; exact .text s
  | .plain _, _, h => isOrdered_of_value? h
  | .tagged _ d, _, h => by
      rcases toValue?_tagged h with ⟨_, h⟩ | h
      · exact isOrdered_of_taggedValue? h
      · exact isOrdered_of_toValue? h
  | .list items, _, h => by
      rw [toValue?] at h
      obtain ⟨vs, hvs, rfl⟩ := Option.map_eq_some_iff.mp h
      exact .array (isOrdered_of_toValues? hvs)
  | .map members, _, h => by
      rw [toValue?] at h
      obtain ⟨fields, hfields, rfl⟩ := Option.map_eq_some_iff.mp h
      exact .object (Fields.ascending_ofList fields) fun m hm =>
        isOrdered_of_toFields? hfields m (Fields.mem_of_mem_ofList hm)
  | .unfit, _, h => by cases h

theorem isOrdered_of_toValues? : ∀ {items : List Document} {vs : List Value},
    toValues? items = some vs → ∀ v ∈ vs, v.IsOrdered
  | [], _, h => by cases h; simp
  | d :: ds, _, h => by
      rw [toValues?] at h
      obtain ⟨v, hv, h⟩ := Option.bind_eq_some_iff.mp h
      obtain ⟨vs, hvs, h⟩ := Option.bind_eq_some_iff.mp h
      cases h
      exact List.forall_mem_cons.mpr ⟨isOrdered_of_toValue? hv, isOrdered_of_toValues? hvs⟩

theorem isOrdered_of_toFields? : ∀ {members : List (Document × Document)}
    {fields : List (String × Value)},
    toFields? members = some fields → ∀ m ∈ fields, m.2.IsOrdered
  | [], _, h => by cases h; simp
  | (key, d) :: rest, _, h => by
      obtain ⟨name, v, fields, hv, hfields, rfl⟩ := toFields?_cons h
      exact List.forall_mem_cons.mpr ⟨isOrdered_of_toValue? hv, isOrdered_of_toFields? hfields⟩

end

end Document

end DeviceLint
