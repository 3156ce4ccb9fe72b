/-
No member of a condition is passed over.

Members are read one after the other into a draft.  Whether one can be read does not depend on
the draft, and a draft holds what must be there exactly if a member of that name was among
those read.  So an object is a condition if its keys are those of one kind and each of its
members can be read by itself (`accepted_object_iff`), whatever their order.

A condition stands in another one at a place, and a place deep inside is reached through a path
of frames.  What can be said about the object at such a place follows from two lemmas, each
an induction on the path: what stands there is a condition, and any other condition may be put
in its place.
-/
import DeviceLint.Condition.Decode
import DeviceLint.Proofs.Ordered
import DeviceLint.Proofs.Evaluation

namespace DeviceLint

namespace Condition

/-! ### Kinds -/

namespace Kind

theorem name_inj {k l : Kind} (h : k.name = l.name) : k = l := by
  revert h
  cases k <;> cases l <;> decide

theorem lookup_choices_eq_some_iff {s : String} {k : Kind} :
    choices.lookup s = some k ↔ s = k.name := by
  constructor
  · intro h
    obtain ⟨l, -, hl⟩ := List.mem_map.mp (Fields.mem_of_lookup h)
    cases hl
    rfl
  · rintro rfl
    cases k <;> rfl

/-- A type is the name of a kind, and nothing else. -/
theorem ofValue_eq_ok_iff {v : Value} {k : Kind} : ofValue v = .ok k ↔ v = .text k.name := by
  cases v with
  | text s =>
      rw [Value.text.injEq, ← lookup_choices_eq_some_iff, ofValue]
      cases choices.lookup s <;> simp
  | _ => simp [ofValue]

theorem ne_of_mem_fields {k : Kind} {name : String} (h : name ∈ k.fields) :
    name ≠ "type" ∧ name ≠ "negate" := by
  constructor <;> rintro rfl <;> cases k <;> simp [fields] at h

theorem mem_fields_of_mem_required {k : Kind} {name : String} (h : name ∈ k.required) :
    name ∈ k.fields := by
  revert name
  cases k <;> simp [required, fields]

end Kind

/-! ### Reading one member -/

/-- Members that are not put into a draft as its subject. -/
def Draft.others : List String :=
  ["condition", "conditions", "mode", "target", "ignore_case", "args", "op", "value"]

/-- A draft before and after a member has been read. -/
inductive Reads (d : Draft) (v : Value) : String → Draft → Prop
  | condition {cond : Condition} (h : decode v = .ok cond) :
      Reads d v "condition" { d with conditions := some [cond] }
  | joined {cs : List Condition} (h : decodeJoined v = .ok cs) :
      Reads d v "conditions" { d with conditions := some cs }
  | mode {m : MatchMode} (h : MatchMode.decode (.ofValue v) = .ok m) :
      Reads d v "mode" { d with mode := m }
  | target {t : MatchTarget} (h : MatchTarget.decode (.ofValue v) = .ok t) :
      Reads d v "target" { d with target := t }
  | ignoreCase {b : Option Bool} (h : Decode.optional Decode.bool (.ofValue v) = .ok b) :
      Reads d v "ignore_case" { d with ignoreCase := b }
  | args {vs : Option (List Value)}
      (h : Decode.optional (Decode.listOf Decode.value) (.ofValue v) = .ok vs) :
      Reads d v "args" { d with args := vs }
  | op {o : Operator} (h : Operator.decode (.ofValue v) = .ok o) :
      Reads d v "op" { d with op := some o }
  | value {x : Option Value} (h : Decode.optional Decode.value (.ofValue v) = .ok x) :
      Reads d v "value" { d with value := x }
  | subject {name s : String} (hname : name ∉ Draft.others)
      (h : Decode.string (.ofValue v) = .ok s) : Reads d v name { d with subject := some s }

theorem decodeMember_eq_ok_iff {d d' : Draft} {name : String} {v : Value} :
    decodeMember d name v = .ok d' ↔ Reads d v name d' := by
  constructor
  · intro h
    rw [decodeMember] at h
    by_cases hcondition : name = "condition"
    · subst hcondition
      obtain ⟨cond, hcond, h⟩ := ok_of_bind h
      cases h
      exact .condition hcond
    rw [if_neg (by simpa using hcondition)] at h
    by_cases hjoined : name = "conditions"
    · subst hjoined
      obtain ⟨cs, hcs, h⟩ := ok_of_bind h
      cases h
      exact .joined hcs
    rw [if_neg (by simpa using hjoined), Draft.put] at h
    by_cases hmode : name = "mode"
    · subst hmode
      obtain ⟨m, hm, h⟩ := ok_of_bind h
      cases h
      exact .mode hm
    rw [if_neg (by simpa using hmode)] at h
    by_cases htarget : name = "target"
    · subst htarget
      obtain ⟨t, ht, h⟩ := ok_of_bind h
      cases h
      exact .target ht
    rw [if_neg (by simpa using htarget)] at h
    by_cases hignore : name = "ignore_case"
    · subst hignore
      obtain ⟨b, hb, h⟩ := ok_of_bind h
      cases h
      exact .ignoreCase hb
    rw [if_neg (by simpa using hignore)] at h
    by_cases hargs : name = "args"
    · subst hargs
      obtain ⟨vs, hvs, h⟩ := ok_of_bind h
      cases h
      exact .args hvs
    rw [if_neg (by simpa using hargs)] at h
    by_cases hop : name = "op"
    · subst hop
      obtain ⟨o, ho, h⟩ := ok_of_bind h
      cases h
      exact .op ho
    rw [if_neg (by simpa using hop)] at h
    by_cases hvalue : name = "value"
    · subst hvalue
      obtain ⟨x, hx, h⟩ := ok_of_bind h
      cases h
      exact .value hx
    rw [if_neg (by simpa using hvalue)] at h
    obtain ⟨s, hs, h⟩ := ok_of_bind h
    cases h
    exact .subject (by simp [Draft.others, *]) hs
  · intro h
    rw [decodeMember]
    cases h with
    | subject hname h =>
        simp only [Draft.others, List.mem_cons, List.not_mem_nil, not_or] at hname
        simp [Draft.put, hname, h, bind, Except.bind, pure, Except.pure]
    | _ h => simp [Draft.put, h, bind, Except.bind, pure, Except.pure]

/-- What was read before does not matter. -/
theorem Reads.from_any {d d' : Draft} {v : Value} {name : String} (h : Reads d v name d')
    (e : Draft) : ∃ e', Reads e v name e' := by
  cases h with
  | condition h => exact ⟨_, .condition h⟩
  | joined h => exact ⟨_, .joined h⟩
  | mode h => exact ⟨_, .mode h⟩
  | target h => exact ⟨_, .target h⟩
  | ignoreCase h => exact ⟨_, .ignoreCase h⟩
  | args h => exact ⟨_, .args h⟩
  | op h => exact ⟨_, .op h⟩
  | value h => exact ⟨_, .value h⟩
  | subject hname h => exact ⟨_, .subject hname h⟩

/-- Whether a member of this name can hold a value. -/
def Readable (name : String) (v : Value) : Prop := ∃ d, Reads {} v name d

/-! ### Reading all members -/

/-- A draft in which a member that must be there has been read. -/
def Draft.Holds (d : Draft) : String → Prop
  | "op" => d.op.isSome
  | "conditions" => d.conditions.isSome
  | "condition" => ∃ c, d.conditions = some [c]
  | _ => d.subject.isSome

theorem Draft.not_holds_empty {name : String} : ¬ Holds {} name := by
  rw [Holds.eq_def]
  split <;> simp

theorem Draft.exists_finish_iff {d : Draft} {negated : Bool} {kind : Kind} :
    (∃ c, d.finish negated kind = .ok c) ↔ ∀ name ∈ kind.required, d.Holds name := by
  obtain ⟨subject, mode, target, ignoreCase, args, op, value, conditions⟩ := d
  cases kind with
  | not =>
      simp only [Kind.required, List.forall_mem_singleton, Holds, finish]
      split
      · simp [pure, Except.pure]
      · simp_all
  | all | any =>
      cases conditions <;>
        simp [finish, Kind.required, Holds, Draft.required, bind, Except.bind, pure, Except.pure]
  | field =>
      cases subject <;> cases op <;>
        simp [finish, Kind.required, Holds, Draft.required, bind, Except.bind, pure, Except.pure]
  | _ =>
      cases subject <;>
        simp [finish, Kind.required, Holds, Draft.required, bind, Except.bind, pure, Except.pure]

theorem Reads.holds_iff {d d' : Draft} {v : Value} {name other : String} {kind : Kind}
    (h : Reads d v name d') (hname : name ∈ kind.fields) (hother : other ∈ kind.required) :
    d'.Holds other ↔ other = name ∨ d.Holds other := by
  -- A kind has few members, and of those that it must have no two are put in the same place.
  cases kind <;> simp only [Kind.required, List.mem_cons, List.not_mem_nil, or_false] at hother
  case field => rcases hother with rfl | rfl <;> cases h <;>
    simp_all [Draft.Holds, Kind.fields, Draft.others]
  all_goals subst hother; cases h <;> simp_all [Draft.Holds, Kind.fields, Draft.others]

/-- A member that a condition of this kind can have. -/
def Fits (kind : Kind) (m : String × Value) : Prop :=
  m.1 = "type" ∨ m.1 = "negate" ∨ m.1 ∈ kind.fields ∧ Readable m.1 m.2

theorem decodeMembers_nil (kind : Kind) (d : Draft) : decodeMembers kind d [] = .ok d := by
  rw [decodeMembers]

theorem decodeMembers_skip {kind : Kind} {d : Draft} {name : String} {v : Value}
    {rest : List (String × Value)} (h : name = "type" ∨ name = "negate") :
    decodeMembers kind d ((name, v) :: rest) = decodeMembers kind d rest := by
  rw [decodeMembers, if_pos (by simpa using h)]

/-- A member that says nothing about the condition besides its type is one of its kind's. -/
theorem decodeMembers_cons_eq_ok_iff {kind : Kind} {d d' : Draft} {name : String} {v : Value}
    {rest : List (String × Value)} (h : ¬ (name = "type" ∨ name = "negate")) :
    decodeMembers kind d ((name, v) :: rest) = .ok d' ↔
      name ∈ kind.fields ∧ ∃ e, Reads d v name e ∧ decodeMembers kind e rest = .ok d' := by
  rw [decodeMembers, if_neg (by simpa using h)]
  by_cases hfield : name ∈ kind.fields
  · rw [if_neg (by simpa using hfield)]
    simp only [hfield, true_and, ← decodeMember_eq_ok_iff]
    cases decodeMember d name v <;> simp [bind, Except.bind]
  · rw [if_pos (by simpa using hfield)]
    simp [hfield]

theorem exists_decodeMembers_iff {kind : Kind} {d : Draft} {fields : Fields Value} :
    (∃ d', decodeMembers kind d fields = .ok d') ↔ ∀ m ∈ fields, Fits kind m := by
  induction fields generalizing d with
  | nil => simp [decodeMembers_nil]
  | cons m rest ih =>
      obtain ⟨name, v⟩ := m
      rw [List.forall_mem_cons]
      by_cases hskip : name = "type" ∨ name = "negate"
      · rw [decodeMembers_skip hskip, ih]
        have hfits : Fits kind (name, v) := hskip.imp_right .inl
        simp [hfits]
      · simp only [decodeMembers_cons_eq_ok_iff hskip]
        constructor
        · rintro ⟨d', hfield, e, hreads, hrest⟩
          exact ⟨.inr (.inr ⟨hfield, hreads.from_any {}⟩), ih.mp ⟨d', hrest⟩⟩
        · rintro ⟨hfits, hrest⟩
          obtain ⟨hfield, _, hreads⟩ :=
            (hfits.resolve_left (hskip ∘ .inl)).resolve_left (hskip ∘ .inr)
          obtain ⟨e, hreads⟩ := hreads.from_any d
          obtain ⟨d', hrest⟩ := (ih (d := e)).mpr hrest
          exact ⟨d', hfield, e, hreads, hrest⟩

/-- What must be there has been read if it is there. -/
theorem holds_of_decodeMembers {kind : Kind} {d d' : Draft} {fields : Fields Value}
    (h : decodeMembers kind d fields = .ok d') {name : String} (hname : name ∈ kind.required) :
    d'.Holds name ↔ (∃ v, fields.lookup name = some v) ∨ d.Holds name := by
  induction fields generalizing d with
  | nil =>
      rw [decodeMembers_nil] at h
      cases h
      simp
  | cons m rest ih =>
      obtain ⟨first, v⟩ := m
      simp only [Fields.lookup_cons_eq]
      by_cases hskip : first = "type" ∨ first = "negate"
      · rw [decodeMembers_skip hskip] at h
        have hne : name ≠ first := by
          rintro rfl
          have hother := Kind.ne_of_mem_fields (Kind.mem_fields_of_mem_required hname)
          exact hskip.elim hother.1 hother.2
        rw [ih h]
        simp [hne]
      · obtain ⟨hfield, e, hreads, hrest⟩ := (decodeMembers_cons_eq_ok_iff hskip).mp h
        rw [ih hrest, hreads.holds_iff hfield hname]
        by_cases hsame : name = first <;> simp [hsame]

/-! ### Objects -/

/-- A value that is a condition. -/
def Accepted (v : Value) : Prop := ∃ c, decode v = .ok c

/-- The keys of a condition of this kind: its type, perhaps a switch that negates it, and
members that its kind has, none that it needs left out. -/
structure Keyed (kind : Kind) (fields : Fields Value) : Prop where
  typed : fields.lookup "type" = some (.text kind.name)
  negation : ∀ v, fields.lookup "negate" = some v → ∃ b, v = .bool b
  known : ∀ m ∈ fields, m.1 = "type" ∨ m.1 = "negate" ∨ m.1 ∈ kind.fields
  complete : ∀ name ∈ kind.required, ∃ v, fields.lookup name = some v

theorem exists_negationOf_iff {fields : Fields Value} :
    (∃ b, negationOf fields = .ok b) ↔ ∀ v, fields.lookup "negate" = some v → ∃ b, v = .bool b := by
  rw [negationOf]
  split
  · next h => simp [h]
  · next h => simp [h]
  · next v hbool h =>
    simp only [h, reduceCtorEq, exists_false, Option.some.injEq, forall_eq', false_iff]
    rintro ⟨b, rfl⟩
    exact hbool b rfl

theorem decode_object_eq_ok_iff {fields : Fields Value} {c : Condition} :
    decode (.object fields) = .ok c ↔ ∃ negated kind d, negationOf fields = .ok negated ∧
      fields.lookup "type" = some (.text (Kind.name kind)) ∧
      decodeMembers kind {} fields = .ok d ∧ d.finish negated kind = .ok c := by
  rw [decode]
  constructor
  · intro h
    obtain ⟨negated, hnegated, h⟩ := ok_of_bind h
    split at h
    · cases h
    · next v htype =>
      obtain ⟨kind, hkind, h⟩ := ok_of_bind h
      obtain ⟨d, hd, h⟩ := ok_of_bind h
      exact ⟨negated, kind, d, hnegated, by rw [htype, Kind.ofValue_eq_ok_iff.mp hkind], hd, h⟩
  · rintro ⟨negated, kind, d, hnegated, htype, hd, h⟩
    have hkind := Kind.ofValue_eq_ok_iff.mpr (rfl : Value.text kind.name = _)
    simp [hnegated, htype, hkind, hd, h, bind, Except.bind]

/-- An object is a condition if its keys are those of a kind and each member can be read. -/
theorem accepted_object_iff {fields : Fields Value} :
    Accepted (.object fields) ↔ ∃ kind, Keyed kind fields ∧ ∀ m ∈ fields, Fits kind m := by
  constructor
  · rintro ⟨c, h⟩
    obtain ⟨negated, kind, d, hnegated, htype, hd, h⟩ := decode_object_eq_ok_iff.mp h
    have hfits := exists_decodeMembers_iff.mp ⟨d, hd⟩
    have hholds := Draft.exists_finish_iff.mp ⟨c, h⟩
    refine ⟨kind, ⟨htype, exists_negationOf_iff.mp ⟨negated, hnegated⟩, fun m hm => ?_,
      fun name hname => ?_⟩, hfits⟩
    · exact (hfits m hm).imp_right (.imp_right And.left)
    · exact ((holds_of_decodeMembers hd hname).mp (hholds name hname)).resolve_right
        Draft.not_holds_empty
  · rintro ⟨kind, hkeyed, hfits⟩
    obtain ⟨negated, hnegated⟩ := exists_negationOf_iff.mpr hkeyed.negation
    obtain ⟨d, hd⟩ := exists_decodeMembers_iff.mpr hfits
    obtain ⟨c, hc⟩ := Draft.exists_finish_iff.mpr fun name hname =>
      (holds_of_decodeMembers hd hname).mpr (.inl (hkeyed.complete name hname))
    exact ⟨c, decode_object_eq_ok_iff.mpr ⟨negated, kind, d, hnegated, hkeyed.typed, hd, hc⟩⟩

/-! ### Conditions inside others -/

theorem readable_condition_iff {v : Value} : Readable "condition" v ↔ Accepted v := by
  simp only [Readable, Accepted, ← decodeMember_eq_ok_iff, decodeMember]
  cases decode v <;> simp [bind, Except.bind, pure, Except.pure]

theorem exists_decodeAll_iff {items : List Value} :
    (∃ cs, decodeAll items = .ok cs) ↔ ∀ v ∈ items, Accepted v := by
  induction items with
  | nil => simp [decodeAll]
  | cons v rest ih =>
      rw [List.forall_mem_cons, ← ih, decodeAll]
      constructor
      · rintro ⟨_, h⟩
        obtain ⟨c, hc, h⟩ := ok_of_bind h
        obtain ⟨cs, hcs, -⟩ := ok_of_bind h
        exact ⟨⟨c, hc⟩, cs, hcs⟩
      · rintro ⟨⟨c, hc⟩, cs, hcs⟩
        exact ⟨c :: cs, by simp [hc, hcs, bind, Except.bind, pure, Except.pure]⟩

theorem readable_conditions_iff {items : List Value} :
    Readable "conditions" (.array items) ↔ ∀ v ∈ items, Accepted v := by
  simp only [Readable, ← exists_decodeAll_iff, ← decodeMember_eq_ok_iff, decodeMember, decodeJoined]
  cases decodeAll items <;> simp [bind, Except.bind, pure, Except.pure]

/-- A list of a type and the only member of its kind. -/
theorem decode_list_eq_ok {kind : Kind} {name : String} {v : Value} {d : Draft} {c : Condition}
    (hfields : kind.fields = [name]) (hread : Reads {} v name d)
    (hfinish : d.finish false kind = .ok c) : decode (.array [.text kind.name, v]) = .ok c := by
  have hkind := Kind.ofValue_eq_ok_iff.mpr (rfl : Value.text kind.name = _)
  have hmember := decodeMember_eq_ok_iff.mpr hread
  have hlength : kind.shape.checkLength 1 (Decode.elements 1 ++ " in sequence") = .ok () := by
    simp [Decode.Shape.checkLength, Decode.Shape.lacking?, Kind.shape, hfields]
  rw [decode]
  simp [hkind, hfields, decodePositions, hmember, hlength, hfinish, bind, Except.bind]

theorem accepted_list_iff {kind : Kind} {name : String} {v : Value}
    (hfields : kind.fields = [name]) (hrequired : kind.required = [name]) :
    Accepted (.array [.text kind.name, v]) ↔ Readable name v := by
  constructor
  · rintro ⟨c, h⟩
    have hkind := Kind.ofValue_eq_ok_iff.mpr (rfl : Value.text kind.name = _)
    rw [decode] at h
    obtain ⟨kind', hkind', h⟩ := ok_of_bind h
    cases hkind.symm.trans hkind'
    obtain ⟨d, hd, h⟩ := ok_of_bind h
    rw [hfields, decodePositions] at hd
    obtain ⟨d', hd', -⟩ := ok_of_bind hd
    exact ⟨d', decodeMember_eq_ok_iff.mp hd'⟩
  · rintro ⟨d, h⟩
    have hholds : ∀ other ∈ kind.required, d.Holds other := fun other hother =>
      (h.holds_iff (by simp [hfields]) hother).mpr (.inl (by simpa [hrequired] using hother))
    obtain ⟨c, hc⟩ : ∃ c, d.finish false kind = .ok c := Draft.exists_finish_iff.mpr hholds
    exact ⟨c, decode_list_eq_ok hfields h hc⟩

/-- An object with a type and the only member of its kind. -/
theorem accepted_of_readable {kind : Kind} {name : String} {v : Value}
    (hfields : kind.fields = [name]) (hrequired : kind.required = [name]) (hv : Readable name v) :
    Accepted (.object [(name, v), ("type", .text kind.name)]) := by
  have hname : name ∈ kind.fields := by simp [hfields]
  obtain ⟨htype, hnegate⟩ := Kind.ne_of_mem_fields hname
  refine accepted_object_iff.mpr ⟨kind, ⟨?_, ?_, ?_, ?_⟩, ?_⟩
  · simp [Fields.lookup_cons_eq, htype.symm]
  · simp [Fields.lookup_cons_eq, hnegate.symm]
  · simp [hname]
  · simp [hrequired, Fields.lookup_cons_eq]
  · simp [Fits, hname, hv]

/-! ### Changing a member -/

/-- An object stays a condition if a member of its kind is given a value that it can hold,
whether the member was there before or not. -/
theorem Keyed.accepted_of_change {kind : Kind} {fields fields' : Fields Value} {name : String}
    {w : Value} (h : Keyed kind fields) (hfits : ∀ m ∈ fields, Fits kind m)
    (hname : name ∈ kind.fields) (hw : Readable name w)
    (hmem : ∀ m ∈ fields', m = (name, w) ∨ m ∈ fields)
    (hthere : ∃ v, fields'.lookup name = some v)
    (hlookup : ∀ other, other ≠ name → fields'.lookup other = fields.lookup other) :
    Accepted (.object fields') := by
  obtain ⟨htype, hnegate⟩ := Kind.ne_of_mem_fields hname
  have hfits' : ∀ m ∈ fields', Fits kind m := by
    intro m hm
    rcases hmem m hm with rfl | hm
    · exact .inr (.inr ⟨hname, hw⟩)
    · exact hfits m hm
  refine accepted_object_iff.mpr ⟨kind, ⟨?_, ?_, ?_, ?_⟩, hfits'⟩
  · rw [hlookup _ htype.symm, h.typed]
  · rw [hlookup _ hnegate.symm]
    exact h.negation
  · exact fun m hm => (hfits' m hm).imp_right (.imp_right And.left)
  · intro other hother
    by_cases hsame : other = name
    · rwa [hsame]
    · rw [hlookup _ hsame]
      exact h.complete other hother

theorem accepted_object_replace {before after : Fields Value} {name : String} {v w : Value}
    (h : Accepted (.object (before ++ (name, v) :: after)))
    (htype : name ≠ "type") (hnegate : name ≠ "negate") :
    Readable name v ∧ (Readable name w → Accepted (.object (before ++ (name, w) :: after))) := by
  obtain ⟨kind, hkeyed, hfits⟩ := accepted_object_iff.mp h
  have hv : Fits kind (name, v) := hfits _ (by simp)
  obtain ⟨hfield, hread⟩ := (hv.resolve_left htype).resolve_left hnegate
  refine ⟨hread, fun hw => hkeyed.accepted_of_change hfits hfield hw (fun m hm => ?_) ?_
    fun other hother => ?_⟩
  · rcases List.mem_append.mp hm with hm | hm
    · exact .inr (List.mem_append_left _ hm)
    · exact (List.mem_cons.mp hm).imp_right fun hm =>
        List.mem_append_right _ (List.mem_cons_of_mem _ hm)
  · rw [List.lookup_append, Fields.lookup_cons_eq, if_pos rfl]
    cases List.lookup name before <;> simp
  · simp only [List.lookup_append, Fields.lookup_cons_eq, if_neg hother]

theorem Keyed.accepted_insert {kind : Kind} {fields : Fields Value} {name : String} {w : Value}
    (h : Keyed kind fields) (hfits : ∀ m ∈ fields, Fits kind m) (hname : name ∈ kind.fields)
    (hw : Readable name w) : Accepted (.object (fields.insert name w)) := by
  refine h.accepted_of_change hfits hname hw (fun m hm => Fields.mem_insert hm) ?_
    fun other hother => ?_
  · rw [Fields.lookup_insert, if_pos rfl]
    exact ⟨w, rfl⟩
  · rw [Fields.lookup_insert, if_neg hother]

/-! ### Places -/

/-- What stands around a condition inside another one: the members before and after the one that
holds it, and the conditions before and after it in a list. -/
inductive Frame where
  /-- Among the conditions that an object joins. -/
  | joined (before after : Fields Value) (earlier later : List Value)
  /-- In an object that negates it. -/
  | opposed (before after : Fields Value)
  /-- Among the conditions that a list joins. -/
  | all (earlier later : List Value)
  | any (earlier later : List Value)
  /-- In a list that negates it. -/
  | not

namespace Frame

def fill (v : Value) : Frame → Value
  | joined before after earlier later =>
    .object (before ++ ("conditions", .array (earlier ++ v :: later)) :: after)
  | opposed before after => .object (before ++ ("condition", v) :: after)
  | all earlier later => .array [.text Kind.all.name, .array (earlier ++ v :: later)]
  | any earlier later => .array [.text Kind.any.name, .array (earlier ++ v :: later)]
  | not => .array [.text Kind.not.name, v]

/-- What stands in a condition as a condition is one. -/
theorem accepted_of_fill {F : Frame} {v : Value} (h : Accepted (F.fill v)) : Accepted v := by
  cases F with
  | joined before after earlier later =>
      have hread := (accepted_object_replace (w := v) h (by decide) (by decide)).1
      exact readable_conditions_iff.mp hread v (by simp)
  | opposed before after =>
      exact readable_condition_iff.mp
        (accepted_object_replace (w := v) h (by decide) (by decide)).1
  | all earlier later | any earlier later =>
      exact readable_conditions_iff.mp ((accepted_list_iff rfl rfl).mp h) v (by simp)
  | not => exact readable_condition_iff.mp ((accepted_list_iff rfl rfl).mp h)

/-- Any other condition may stand in its place. -/
theorem accepted_fill {F : Frame} {v w : Value} (h : Accepted (F.fill v)) (hw : Accepted w) :
    Accepted (F.fill w) := by
  have hlist : ∀ {earlier later : List Value},
      Readable "conditions" (.array (earlier ++ v :: later)) →
        Readable "conditions" (.array (earlier ++ w :: later)) := by
    simp only [readable_conditions_iff, List.mem_append, List.mem_cons]
    rintro earlier later hall u (hu | rfl | hu)
    · exact hall u (.inl hu)
    · exact hw
    · exact hall u (.inr (.inr hu))
  cases F with
  | joined before after earlier later =>
      obtain ⟨hread, hreplace⟩ := accepted_object_replace h (by decide) (by decide)
      exact hreplace (hlist hread)
  | opposed before after =>
      exact (accepted_object_replace h (by decide) (by decide)).2 (readable_condition_iff.mpr hw)
  | all earlier later | any earlier later =>
      exact (accepted_list_iff rfl rfl).mpr (hlist ((accepted_list_iff rfl rfl).mp h))
  | not => exact (accepted_list_iff rfl rfl).mpr (readable_condition_iff.mpr hw)

end Frame

/-- A condition at a place that is reached through others, the outermost first. -/
def plug (path : List Frame) (v : Value) : Value := path.foldr (fun F v => F.fill v) v

theorem accepted_of_plug {path : List Frame} {v : Value} (h : Accepted (plug path v)) :
    Accepted v := by
  induction path with
  | nil => exact h
  | cons F path ih => exact ih (Frame.accepted_of_fill h)

theorem accepted_plug {path : List Frame} {v w : Value} (h : Accepted (plug path v))
    (hw : Accepted w) : Accepted (plug path w) := by
  induction path with
  | nil => exact hw
  | cons F path ih => exact Frame.accepted_fill h (ih (Frame.accepted_of_fill h))

/-! ### Keys -/

theorem Keyed.kind_eq {k l : Kind} {fields others : Fields Value} (hk : Keyed k fields)
    (hl : Keyed l others) (h : others.lookup "type" = fields.lookup "type") : k = l := by
  rw [hk.typed, hl.typed, Option.some.injEq, Value.text.injEq] at h
  exact (Kind.name_inj h).symm

theorem exists_decodeValue (v : Value) : ∃ w, Decode.value (.ofValue v) = .ok w := by
  obtain ⟨w, hw⟩ := Document.exists_toValue?_ofValue v
  exact ⟨w, by rw [Decode.value, hw]⟩

theorem exists_mapM_decodeValue (data : List Value) :
    ∃ ws, (Document.ofItems data).mapM Decode.value = .ok ws := by
  induction data with
  | nil => exact ⟨[], rfl⟩
  | cons v rest ih =>
      obtain ⟨w, hw⟩ := exists_decodeValue v
      obtain ⟨ws, hws⟩ := ih
      exact ⟨w :: ws, by rw [Document.ofItems, List.mapM_cons, hw, hws]; rfl⟩

theorem readable_args (data : List Value) : Readable "args" (.array data) := by
  obtain ⟨ws, hws⟩ := exists_mapM_decodeValue data
  have hread : Decode.optional (Decode.listOf Decode.value) (.ofValue (.array data))
      = .ok (some ws) := by
    simp [Document.ofValue, Decode.optional, Document.isNull, Decode.listOf, hws, Except.map]
  exact ⟨_, .args hread⟩

theorem readable_value (v : Value) : Readable "value" v := by
  obtain ⟨w, hw⟩ := exists_decodeValue v
  refine ⟨_, .value (x := if (Document.ofValue v).isNull then none else some w) ?_⟩
  rw [Decode.optional, hw]
  split <;> rfl

/-- Wherever an object stands as a condition, its keys are those of one kind.  Under any other key
nothing can be added to it, and the switch that negates it can be nothing but a truth value,
without the whole value being rejected.  What is passed to a helper or compared with is data:
it may be anything. -/
theorem keyed_of_accepted {path : List Frame} {fields : Fields Value}
    (h : Accepted (plug path (.object fields))) :
    ∃ kind, Keyed kind fields
      ∧ (∀ name v, name ≠ "type" → name ≠ "negate" → name ∉ kind.fields →
          ¬ Accepted (plug path (.object (fields.insert name v))))
      ∧ (∀ v, (∀ b, v ≠ .bool b) → ¬ Accepted (plug path (.object (fields.insert "negate" v))))
      ∧ (kind = .helper → ∀ data,
          Accepted (plug path (.object (fields.insert "args" (.array data)))))
      ∧ (kind = .field → ∀ v, Accepted (plug path (.object (fields.insert "value" v)))) := by
  obtain ⟨kind, hkeyed, hfits⟩ := accepted_object_iff.mp (accepted_of_plug h)
  refine ⟨kind, hkeyed, fun name v htype hnegate hforeign hplug => ?_, fun v hv hplug => ?_,
    fun hkind data => ?_, fun hkind v => ?_⟩
  · obtain ⟨kind', hkeyed', -⟩ := accepted_object_iff.mp (accepted_of_plug hplug)
    have hsame : kind = kind' :=
      hkeyed.kind_eq hkeyed' (by rw [Fields.lookup_insert, if_neg htype.symm])
    have hlookup : (fields.insert name v).lookup name = some v := by
      rw [Fields.lookup_insert, if_pos rfl]
    rcases hkeyed'.known _ (Fields.mem_of_lookup hlookup) with hname | hname | hname
    · exact htype hname
    · exact hnegate hname
    · exact hforeign (hsame ▸ hname)
  · obtain ⟨_, hkeyed', -⟩ := accepted_object_iff.mp (accepted_of_plug hplug)
    obtain ⟨b, hb⟩ := hkeyed'.negation v (by rw [Fields.lookup_insert, if_pos rfl])
    exact hv b hb
  · subst hkind
    exact accepted_plug h (hkeyed.accepted_insert hfits (by decide) (readable_args data))
  · subst hkind
    exact accepted_plug h (hkeyed.accepted_insert hfits (by decide) (readable_value v))

/-- A helper whose arguments would be passed over if their key were misspelt. -/
theorem keyed_of_accepted_helper :
    let path := [Frame.all [] [], .joined [] [("type", .text "or")] [] [],
      .opposed [] [("type", .text "not")]]
    let fields := [("args", Value.array [.object [("arg", .null)]]), ("helper", .text "hasChild"),
      ("negate", .bool true), ("type", .text "helper")]
    Accepted (plug path (.object fields)) ∧ Keyed .helper fields
      ∧ ¬ Accepted (plug path (.object (Fields.insert "arg" (.array []) fields)))
      ∧ ¬ Accepted (plug path (.object (Fields.insert "negate" (.text "true") fields)))
      ∧ Accepted (plug path (.object (Fields.insert "args" (.array [.bool true]) fields))) := by
  intro path fields
  have hhelper : Accepted (.object fields) := by
    refine accepted_object_iff.mpr ⟨.helper, ⟨rfl, fun v hv => ⟨true, (Option.some.inj hv).symm⟩,
      by decide, List.forall_mem_singleton.mpr ⟨_, rfl⟩⟩, ?_⟩
    simp only [fields, List.forall_mem_cons]
    exact ⟨.inr (.inr ⟨by decide, readable_args _⟩),
      .inr (.inr ⟨by decide, _, .subject (by decide) rfl⟩), .inr (.inl rfl), .inl rfl, nofun⟩
  have hopposed :
      Accepted (.object [("condition", .object fields), ("type", .text Kind.not.name)]) :=
    accepted_of_readable rfl rfl (readable_condition_iff.mpr hhelper)
  have hjoined : Accepted (.object [("conditions", .array [_]), ("type", .text Kind.any.name)]) :=
    accepted_of_readable rfl rfl
      (readable_conditions_iff.mpr (List.forall_mem_singleton.mpr hopposed))
  have h : Accepted (plug path (.object fields)) :=
    (accepted_list_iff rfl rfl).mpr
      (readable_conditions_iff.mpr (List.forall_mem_singleton.mpr hjoined))
  obtain ⟨kind, hkeyed, hforeign, hnegate, hargs, -⟩ := keyed_of_accepted h
  have htype : Value.text Kind.helper.name = .text kind.name := Option.some.inj hkeyed.typed
  cases Kind.name_inj (Value.text.inj htype)
  exact ⟨h, hkeyed, hforeign "arg" (.array []) (by decide) (by decide) (by decide),
    hnegate (.text "true") (by simp), hargs rfl [.bool true]⟩

end Condition

end DeviceLint
