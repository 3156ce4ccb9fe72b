/-
What fields and tables hold.

Fields are told apart by looking up names: each operation is described by what can be looked up
afterwards, and fields in ascending order are determined by what can be looked up in them.  So
tables, which are always in that order, are equal if they hold the same, however they came
about.
-/
import DeviceLint.Data.Table

namespace DeviceLint

namespace Fields

variable {α : Type}

/-! ### Looking up -/

theorem lookup_eq_none_of_lt {name : String} {fields : Fields α} (h : ∀ m ∈ fields, name < m.1) :
    fields.lookup name = none := by
  rw [List.lookup_eq_none_iff]
  intro m hm
  have hne : name ≠ m.1 := String.ne_of_lt (h m hm)
  simpa using hne

theorem mem_of_lookup {name : String} {value : α} {fields : Fields α}
    (h : fields.lookup name = some value) : (name, value) ∈ fields := by
  obtain ⟨before, after, rfl, -⟩ := List.lookup_eq_some_iff.mp h
  exact List.mem_append_right before List.mem_cons_self

theorem isSome_lookup_iff {name : String} {fields : Fields α} :
    (fields.lookup name).isSome = true ↔ name ∈ fields.map (·.1) := by
  rw [List.lookup_isSome_iff, List.mem_map]
  simp only [beq_iff_eq, @eq_comm _ name]

theorem lookup_cons_eq (name : String) (value : α) (fields : Fields α) (n : String) :
    List.lookup n ((name, value) :: fields) = if n = name then some value else fields.lookup n := by
  rw [List.lookup_cons]
  by_cases hn : n = name
  · rw [if_pos hn, beq_iff_eq.mpr hn]
  · rw [if_neg hn, beq_false_of_ne hn]

/-- Where no two names are equal, what is held under a name is the only member of that name. -/
theorem lookup_eq_some_iff_of_nodup {fields : Fields α} (h : (fields.map (·.1)).Nodup)
    {name : String} {value : α} :
    fields.lookup name = some value ↔ (name, value) ∈ fields := by
  refine ⟨mem_of_lookup, fun hmem => ?_⟩
  induction fields with
  | nil => cases hmem
  | cons m fields ih =>
      obtain ⟨first, other⟩ := m
      obtain ⟨hfirst, hrest⟩ := List.nodup_cons.mp h
      rw [lookup_cons_eq]
      rcases List.mem_cons.mp hmem with heq | hbehind
      · cases heq
        exact if_pos rfl
      · have hne : name ≠ first := by
          rintro rfl
          exact hfirst (List.mem_map.mpr ⟨_, hbehind, rfl⟩)
        rw [if_neg hne]
        exact ih hrest hbehind

/-- So their order makes no difference. -/
theorem lookup_eq_of_perm {fields others : Fields α} (h : (fields.map (·.1)).Nodup)
    (hperm : others.Perm fields) (name : String) : others.lookup name = fields.lookup name := by
  have h' : (others.map (·.1)).Nodup := (hperm.map (·.1)).nodup_iff.mpr h
  ext value
  rw [lookup_eq_some_iff_of_nodup h', lookup_eq_some_iff_of_nodup h, hperm.mem_iff]

theorem lookup_insert (name : String) (value : α) (fields : Fields α) (n : String) :
    (insert name value fields).lookup n = if n = name then some value else fields.lookup n := by
  induction fields with
  | nil => exact lookup_cons_eq name value [] n
  | cons head rest ih =>
      obtain ⟨first, other⟩ := head
      rw [insert]
      by_cases hlt : name < first
      · rw [if_pos hlt, lookup_cons_eq]
      · rw [if_neg hlt]
        by_cases hsame : name = first
        · rw [if_pos (beq_iff_eq.mpr hsame), lookup_cons_eq, lookup_cons_eq, hsame]
          split <;> rfl
        · rw [if_neg (by simpa using hsame), lookup_cons_eq, lookup_cons_eq, ih]
          by_cases hn : n = first
          · have hne : n ≠ name := fun h => hsame (h.symm.trans hn)
            rw [if_pos hn, if_neg hne, if_pos hn]
          · rw [if_neg hn, if_neg hn]

end Fields

/-- What is found in a list from its end is the last member of the kind. -/
theorem find?_reverse_eq_some_iff {α : Type} {p : α → Bool} {as : List α} {a : α} :
    as.reverse.find? p = some a
      ↔ p a = true ∧ ∃ before after, as = before ++ a :: after ∧ ∀ b ∈ after, p b = false := by
  rw [List.find?_eq_some_iff_append]
  refine and_congr_right fun _ => ?_
  constructor
  · rintro ⟨after, before, hreverse, hafter⟩
    refine ⟨before.reverse, after.reverse, ?_, fun b hb => ?_⟩
    · simpa using congrArg List.reverse hreverse
    · simpa using hafter b (List.mem_reverse.mp hb)
  · rintro ⟨before, after, rfl, hafter⟩
    refine ⟨after.reverse, before.reverse, by simp, fun b hb => ?_⟩
    simpa using hafter b (List.mem_reverse.mp hb)

namespace Fields

variable {α : Type}

/-! ### Fields in ascending order -/

theorem Ascending.nodup_names {fields : Fields α} (h : fields.Ascending) :
    (fields.map (·.1)).Nodup := by
  rw [List.Nodup, List.pairwise_map]
  exact h.imp fun hlt => String.ne_of_lt hlt

/-- The first of some fields is in other ones too, and does not stand behind their first. -/
theorem Ascending.head_not_lt {m k : String × α} {fields others : Fields α}
    (ho : Ascending (k :: others))
    (h : List.lookup m.1 (m :: fields) = List.lookup m.1 (k :: others)) : ¬ m.1 < k.1 := by
  intro hlt
  obtain ⟨hk, -⟩ := List.pairwise_cons.mp ho
  have hnone : List.lookup m.1 (k :: others) = none :=
    lookup_eq_none_of_lt (List.forall_mem_cons.mpr ⟨hlt, fun n hn => String.lt_trans hlt (hk n hn)⟩)
  rw [hnone, List.lookup_cons_self] at h
  cases h

/-- Fields are determined by what they hold. -/
theorem Ascending.eq_of_lookup {fields others : Fields α} (hf : fields.Ascending)
    (ho : others.Ascending) (h : ∀ name, fields.lookup name = others.lookup name) :
    fields = others := by
  induction fields generalizing others with
  | nil =>
      cases others with
      | nil => rfl
      | cons k others =>
          have hk := h k.1
          rw [List.lookup_cons_self] at hk
          cases hk
  | cons m fields ih =>
      cases others with
      | nil =>
          have hm := h m.1
          rw [List.lookup_cons_self] at hm
          cases hm
      | cons k others =>
          have hname : m.1 = k.1 := String.le_antisymm
            (String.not_lt.mp (hf.head_not_lt (h k.1).symm))
            (String.not_lt.mp (ho.head_not_lt (h m.1)))
          obtain ⟨name, value⟩ := m
          obtain ⟨_, value'⟩ := k
          cases hname
          obtain ⟨hm, hf⟩ := List.pairwise_cons.mp hf
          obtain ⟨hk, ho⟩ := List.pairwise_cons.mp ho
          have hvalue : value = value' := by simpa using h name
          have hrest : fields = others := by
            refine ih hf ho fun n => ?_
            by_cases hn : n = name
            · rw [hn, lookup_eq_none_of_lt hm, lookup_eq_none_of_lt hk]
            · simpa only [lookup_cons_eq, if_neg hn] using h n
          rw [hvalue, hrest]

/-- What is held under a name is the only member of that name. -/
theorem Ascending.lookup_eq_some_iff {fields : Fields α} (h : fields.Ascending) {name : String}
    {value : α} : fields.lookup name = some value ↔ (name, value) ∈ fields :=
  lookup_eq_some_iff_of_nodup h.nodup_names

end Fields

/-! ### Tables -/

namespace Table

variable {α : Type}

/-- Tables are determined by what they hold. -/
theorem ext_get? {t u : Table α} (h : ∀ name, t.get? name = u.get? name) : t = u := by
  obtain ⟨fields, hf⟩ := t
  obtain ⟨others, ho⟩ := u
  have heq : fields = others := hf.eq_of_lookup ho h
  subst heq
  rfl

theorem get?_insertWith (combine : α → α → α) (name : String) (value : α) (t : Table α)
    (n : String) : (t.insertWith combine name value).get? n
      = if n = name then Option.merge combine (t.get? name) (some value) else t.get? n := by
  rw [insertWith, insert, get?, Fields.get?, Fields.lookup_insert]
  cases t.get? name <;> rfl

/-- A merged table holds under each name what the two tables hold there, combined. -/
theorem get?_mergeWith (combine : α → α → α) (t u : Table α) (n : String) :
    (t.mergeWith combine u).get? n = Option.merge combine (t.get? n) (u.get? n) := by
  obtain ⟨fields, hf⟩ := u
  have hfold : ∀ t : Table α,
      (fields.foldl (fun t m => t.insertWith combine m.1 m.2) t).get? n
        = Option.merge combine (t.get? n) (fields.lookup n) := by
    induction fields with
    | nil => intro t; simp
    | cons m fields ih =>
        obtain ⟨name, value⟩ := m
        obtain ⟨hm, hf⟩ := List.pairwise_cons.mp hf
        intro t
        rw [List.foldl_cons, ih hf, get?_insertWith, Fields.lookup_cons_eq]
        by_cases hn : n = name
        · -- The names that follow are greater, so nothing is added under this one again.
          rw [if_pos hn, if_pos hn, hn, Fields.lookup_eq_none_of_lt hm]
          simp
        · rw [if_neg hn, if_neg hn]
  exact hfold t

theorem mergeWith_assoc (combine : α → α → α) [Std.Associative combine] (t u v : Table α) :
    (t.mergeWith combine u).mergeWith combine v = t.mergeWith combine (u.mergeWith combine v) := by
  refine ext_get? fun name => ?_
  simp only [get?_mergeWith]
  exact Std.Associative.assoc _ _ _

@[simp] theorem mergeWith_empty (combine : α → α → α) (t : Table α) :
    t.mergeWith combine {} = t := rfl

@[simp] theorem empty_mergeWith (combine : α → α → α) (t : Table α) :
    mergeWith combine {} t = t := by
  refine ext_get? fun name => ?_
  rw [get?_mergeWith]
  exact Option.merge_none_left

end Table

end DeviceLint
