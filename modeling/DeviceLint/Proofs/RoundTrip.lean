/-
Rule files that are written and read again.

What is written and what is read go through the same members, in the order of their names.  So
for each kind of condition it is enough to read its members one after the other; conditions
inside others are read back by induction.  Data is read back as itself if it is in order, and
a value that may be left out if it is not the null that is written in its place: this is
`Test.IsWritable`.

Nothing that was read fails to be writable, from whatever document it was read.  A record is
started with what is writable, and every member that is put into it leaves it so.
-/
import DeviceLint.Rule.File
import DeviceLint.Proofs.Compilation
import DeviceLint.Proofs.Members

namespace DeviceLint

/-! ### Values that are written -/

namespace Value

theorem isOrdered_record {members : List (String × Value)} (h : ∀ m ∈ members, m.2.IsOrdered) :
    (record members).IsOrdered :=
  .object (Fields.ascending_ofList members) fun m hm => h m (Fields.mem_of_mem_ofList hm)

theorem isOrdered_texts (ss : List String) : (texts ss).IsOrdered := by
  refine .array fun v hv => ?_
  obtain ⟨s, -, rfl⟩ := List.mem_map.mp hv
  exact .text s

end Value

/-! ### Names, options and lists -/

theorem MatchMode.decode_name (m : MatchMode) : decode (.ofValue (.text m.name)) = .ok m := by
  cases m <;> rfl

theorem MatchTarget.decode_name (t : MatchTarget) : decode (.ofValue (.text t.name)) = .ok t := by
  cases t <;> rfl

theorem Operator.decode_name (op : Operator) : decode (.ofValue (.text op.name)) = .ok op := by
  cases op <;> rfl

theorem Severity.decode_name (s : Severity) : decode (.ofValue (.text s.name)) = .ok s := by
  cases s <;> rfl

namespace Decode

theorem string_ofValue (s : String) : string (.ofValue (.text s)) = .ok s := rfl

theorem bool_ofValue (b : Bool) : bool (.ofValue (.bool b)) = .ok b := rfl

theorem value_ofValue {v : Value} (h : v.IsOrdered) : value (.ofValue v) = .ok v := by
  rw [value, Document.toValue?_ofValue h]

theorem listOf_ofValue {α : Type} {decode : Decoder α} {encode : α → Value} {as : List α}
    (h : ∀ a ∈ as, decode (.ofValue (encode a)) = .ok a) :
    listOf decode (.ofValue (.array (as.map encode))) = .ok as := by
  show (Document.ofItems (as.map encode)).mapM decode = .ok as
  induction as with
  | nil => rfl
  | cons a rest ih =>
      obtain ⟨ha, hrest⟩ := List.forall_mem_cons.mp h
      rw [List.map_cons, Document.ofItems, List.mapM_cons, ha, ih hrest]
      rfl

theorem strings_ofValue (ss : List String) : strings (.ofValue (.texts ss)) = .ok ss :=
  listOf_ofValue fun s _ => string_ofValue s

theorem values_ofValue {vs : List Value} (h : ∀ v ∈ vs, v.IsOrdered) :
    listOf value (.ofValue (.array vs)) = .ok vs := by
  have hlist : listOf value (.ofValue (.array (vs.map id))) = .ok vs :=
    listOf_ofValue fun v hv => value_ofValue (h v hv)
  rwa [List.map_id] at hlist

/-- What may be left open is null where it is left open, and must not be null where it is not. -/
theorem optional_ofValue {α : Type} {decode : Decoder α} {encode : α → Value} {o : Option α}
    (h : ∀ a, o = some a → encode a ≠ .null ∧ decode (.ofValue (encode a)) = .ok a) :
    optional decode (.ofValue ((o.map encode).getD .null)) = .ok o := by
  cases o with
  | none => rfl
  | some a =>
      obtain ⟨hnull, ha⟩ := h a rfl
      have hsome : (Document.ofValue (encode a)).isNull = false := by
        cases hv : encode a <;> simp_all [Document.ofValue, Document.isNull]
      rw [Option.map_some, Option.getD_some, optional, hsome, ha]
      rfl

theorem optional_string_ofValue (o : Option String) :
    optional string (.ofValue (.ofOption o)) = .ok o := by
  have h := optional_ofValue (o := o) fun s _ => ⟨by simp, string_ofValue s⟩
  cases o <;> exact h

theorem optional_value_ofValue {o : Option Value} (h : ∀ v, o = some v → v.IsOrdered ∧ v ≠ .null) :
    optional value (.ofValue (o.getD .null)) = .ok o := by
  have hoption : optional value (.ofValue ((o.map id).getD .null)) = .ok o :=
    optional_ofValue fun v hv => ⟨(h v hv).2, value_ofValue (h v hv).1⟩
  rwa [Option.map_id] at hoption

/-! ### Records -/

/-- A member that has been read is put into the record; the others are read after it. -/
theorem members_step {σ : Type} {shape : Shape} {put : Put σ} {seen : List String} {r r' : σ}
    {name : String} {key d : Document} {rest : List (Document × Document)}
    (hkey : string key = .ok name) (hfield : shape.fields.contains name = true)
    (hseen : seen.contains name = false) (hput : put name d r = .ok r') :
    members shape put seen r ((key, d) :: rest) = members shape put (name :: seen) r' rest := by
  rw [members, hkey]
  show (if _ then _ else _) = _
  rw [if_pos hfield, if_neg (by simpa using hseen), hput]
  rfl

theorem put_eq_ok {α σ : Type} {x : Except DecodeError α} {a : α} (set : α → σ) (h : x = .ok a) :
    (x >>= fun a => pure (set a)) = .ok (set a) := by
  rw [h]
  rfl

end Decode

namespace Test

/-- Whether the data in a test is in order, as data always is, and what a field is compared with
is not the null that is written where nothing is there. -/
inductive IsWritable : Test → Prop
  | text (pattern : String) (mode : MatchMode) (target : MatchTarget) (ignoreCase : Option Bool) :
      IsWritable (.text pattern mode target ignoreCase)
  | hasChild (selector : String) : IsWritable (.hasChild selector)
  | lacksChild (selector : String) : IsWritable (.lacksChild selector)
  | helper (name : String) {args : Option (List Value)}
      (h : ∀ vs, args = some vs → ∀ v ∈ vs, v.IsOrdered) : IsWritable (.helper name args)
  | field (name : String) (op : Operator) {value : Option Value}
      (h : ∀ v, value = some v → v.IsOrdered ∧ v ≠ .null) : IsWritable (.field name op value)

end Test

namespace Condition

/-! ### Conditions -/

/-- The members by which a condition says what it looks for. -/
def content (fields : Fields Value) : Fields Value :=
  fields.filter fun m => !(m.1 == "type" || m.1 == "negate")

theorem decodeMembers_content (kind : Kind) (d : Draft) (fields : Fields Value) :
    decodeMembers kind d (content fields) = decodeMembers kind d fields := by
  induction fields generalizing d with
  | nil => rfl
  | cons m rest ih =>
      obtain ⟨name, v⟩ := m
      simp only [content] at ih ⊢
      by_cases hskip : name = "type" ∨ name = "negate"
      · rw [List.filter_cons_of_neg (by rcases hskip with rfl | rfl <;> simp),
          decodeMembers_skip hskip, ih]
      · rw [List.filter_cons_of_pos (by simpa using hskip)]
        simp only [decodeMembers, ih]

theorem decodeMembers_step {kind : Kind} {d e : Draft} {name : String} {v : Value}
    {rest : Fields Value} (hname : name ∈ kind.fields) (h : Reads d v name e) :
    decodeMembers kind d ((name, v) :: rest) = decodeMembers kind e rest := by
  obtain ⟨htype, hnegate⟩ := Kind.ne_of_mem_fields hname
  rw [decodeMembers, if_neg (by simp [htype, hnegate]), if_neg (by simpa using hname),
    decodeMember_eq_ok_iff.mpr h]
  rfl

/-- Members that say nothing about the content do not count for it. -/
theorem decode_object_eq_ok {kind : Kind} (negated : Bool) {fields rest : Fields Value} {d : Draft}
    {c : Condition} (hread : decodeMembers kind {} rest = .ok d)
    (hfinish : d.finish negated kind = .ok c) (hnegated : negationOf fields = .ok negated)
    (htype : fields.lookup "type" = some (.text kind.name)) (hrest : content fields = rest) :
    decode (.object fields) = .ok c := by
  rw [← hrest, decodeMembers_content] at hread
  exact decode_object_eq_ok_iff.mpr ⟨negated, kind, d, hnegated, htype, hread, hfinish⟩

theorem decode_encode_test (negated : Bool) {t : Test} (h : t.IsWritable) :
    decode (record negated (encodeTest t)) = .ok (.test negated t) := by
  -- The members are read in the order of their names, which is not the one they are given in.
  cases h with
  | text pattern mode target ignoreCase =>
      have hread : decodeMembers .text {} [("ignore_case", (ignoreCase.map Value.bool).getD .null),
            ("mode", .text mode.name), ("pattern", .text pattern), ("target", .text target.name)]
          = .ok { subject := pattern, mode, target, ignoreCase } := by
        have hignore := Decode.optional_ofValue fun b (_ : ignoreCase = some b) =>
          ⟨by simp, Decode.bool_ofValue b⟩
        rw [decodeMembers_step (by decide) (.ignoreCase hignore),
          decodeMembers_step (by decide) (.mode (MatchMode.decode_name _)),
          decodeMembers_step (by decide) (.subject (by decide) rfl),
          decodeMembers_step (by decide) (.target (MatchTarget.decode_name _)), decodeMembers_nil]
      refine decode_object_eq_ok negated hread rfl ?_ ?_ ?_ <;> cases negated <;> rfl
  | hasChild selector =>
      have hread : decodeMembers .hasChild {} [("selector", .text selector)]
          = .ok { subject := selector } := by
        rw [decodeMembers_step (by decide) (.subject (by decide) rfl), decodeMembers_nil]
      refine decode_object_eq_ok negated hread rfl ?_ ?_ ?_ <;> cases negated <;> rfl
  | lacksChild selector =>
      have hread : decodeMembers .lacksChild {} [("selector", .text selector)]
          = .ok { subject := selector } := by
        rw [decodeMembers_step (by decide) (.subject (by decide) rfl), decodeMembers_nil]
      refine decode_object_eq_ok negated hread rfl ?_ ?_ ?_ <;> cases negated <;> rfl
  | @helper name args hargs =>
      have hread : decodeMembers .helper {} [("args", (args.map Value.array).getD .null),
            ("helper", .text name)] = .ok { subject := name, args } := by
        have hvalues := Decode.optional_ofValue fun vs hvs =>
          ⟨by simp, Decode.values_ofValue (hargs vs hvs)⟩
        rw [decodeMembers_step (by decide) (.args hvalues),
          decodeMembers_step (by decide) (.subject (by decide) rfl), decodeMembers_nil]
      refine decode_object_eq_ok negated hread rfl ?_ ?_ ?_ <;> cases negated <;> rfl
  | @field name op value hvalue =>
      have hread : decodeMembers .field {} [("field", .text name), ("op", .text op.name),
            ("value", value.getD .null)] = .ok { subject := name, op, value } := by
        rw [decodeMembers_step (by decide) (.subject (by decide) rfl),
          decodeMembers_step (by decide) (.op (Operator.decode_name _)),
          decodeMembers_step (by decide) (.value (Decode.optional_value_ofValue hvalue)),
          decodeMembers_nil]
      refine decode_object_eq_ok negated hread rfl ?_ ?_ ?_ <;> cases negated <;> rfl

theorem decodeMembers_conditions (kind : Kind) {vs : List Value} {cs : List Condition}
    (hkind : kind.fields = ["conditions"]) (h : decodeAll vs = .ok cs) :
    decodeMembers kind {} [("conditions", .array vs)] = .ok { conditions := cs } := by
  rw [decodeMembers_step (by simp [hkind]) (.joined (by rwa [decodeJoined])), decodeMembers_nil]

/-- Whether all tests of a condition can be written. -/
def IsWritable (c : Condition) : Prop := ∀ t ∈ c.tests, t.IsWritable

mutual

theorem decode_encode : ∀ c : Condition, (∀ t ∈ c.tests, t.IsWritable) → decode c.encode = .ok c
  | .test negated t, h => decode_encode_test negated (h t (by simp [tests]))
  | .all negated cs, h => by
      have hread := decodeMembers_conditions .all rfl (decodeAll_encodeAll cs h)
      refine decode_object_eq_ok negated hread rfl ?_ ?_ ?_ <;> cases negated <;> rfl
  | .any negated cs, h => by
      have hread := decodeMembers_conditions .any rfl (decodeAll_encodeAll cs h)
      refine decode_object_eq_ok negated hread rfl ?_ ?_ ?_ <;> cases negated <;> rfl
  | .not negated c, h => by
      have hread : decodeMembers .not {} [("condition", c.encode)] = .ok { conditions := [c] } := by
        rw [decodeMembers_step (by decide) (.condition (decode_encode c h)), decodeMembers_nil]
      refine decode_object_eq_ok negated hread rfl ?_ ?_ ?_ <;> cases negated <;> rfl

theorem decodeAll_encodeAll :
    ∀ cs : List Condition, (∀ t ∈ testsAll cs, t.IsWritable) → decodeAll (encodeAll cs) = .ok cs
  | [], _ => by rw [encodeAll, decodeAll]
  | c :: cs, h => by
      rw [testsAll] at h
      obtain ⟨hc, hcs⟩ := List.forall_mem_append.mp h
      rw [encodeAll, decodeAll, decode_encode c hc, decodeAll_encodeAll cs hcs]
      rfl

end

theorem isOrdered_record {negated : Bool} {members : List (String × Value)}
    (h : ∀ m ∈ members, m.2.IsOrdered) : (record negated members).IsOrdered := by
  refine Value.isOrdered_record fun m hm => ?_
  rcases List.mem_append.mp hm with hm | hm
  · exact h m hm
  · cases negated
    · cases hm
    · cases List.mem_singleton.mp hm
      exact .bool true

theorem isOrdered_encodeTest {t : Test} (h : t.IsWritable) :
    ∀ m ∈ encodeTest t, m.2.IsOrdered := by
  cases h with
  | text pattern mode target ignoreCase =>
      have hignore : ((ignoreCase.map Value.bool).getD .null).IsOrdered := by
        cases ignoreCase with
        | none => exact .null
        | some b => exact .bool b
      simp [encodeTest, Value.IsOrdered.text, hignore]
  | hasChild | lacksChild => simp [encodeTest, Value.IsOrdered.text]
  | @helper name args hargs =>
      have hvalues : ((args.map Value.array).getD .null).IsOrdered := by
        cases args with
        | none => exact .null
        | some vs => exact .array (hargs vs rfl)
      simp [encodeTest, Value.IsOrdered.text, hvalues]
  | @field name op value hvalue =>
      have hvalue : (value.getD .null).IsOrdered := by
        cases value with
        | none => exact .null
        | some v => exact (hvalue v rfl).1
      simp [encodeTest, Value.IsOrdered.text, hvalue]

mutual

theorem isOrdered_encode :
    ∀ c : Condition, (∀ t ∈ c.tests, t.IsWritable) → c.encode.IsOrdered
  | .test _ t, h => isOrdered_record (isOrdered_encodeTest (h t (by simp [tests])))
  | .all _ cs, h | .any _ cs, h => by
      have hcs : (Value.array (encodeAll cs)).IsOrdered := .array (isOrdered_encodeAll cs h)
      exact isOrdered_record (by simp [Value.IsOrdered.text, hcs])
  | .not _ c, h => by
      have hc := isOrdered_encode c h
      exact isOrdered_record (by simp [Value.IsOrdered.text, hc])

theorem isOrdered_encodeAll :
    ∀ cs : List Condition, (∀ t ∈ testsAll cs, t.IsWritable) → ∀ v ∈ encodeAll cs, v.IsOrdered
  | [], _ => by simp [encodeAll]
  | c :: cs, h => by
      rw [testsAll] at h
      obtain ⟨hc, hcs⟩ := List.forall_mem_append.mp h
      rw [encodeAll]
      exact List.forall_mem_cons.mpr ⟨isOrdered_encode c hc, isOrdered_encodeAll cs hcs⟩

end

theorem decodeDocument_encode {c : Condition} (h : c.IsWritable) :
    decodeDocument (.ofValue c.encode) = .ok c := by
  rw [decodeDocument, Decode.value_ofValue (isOrdered_encode c h)]
  exact decode_encode c h

end Condition

/-! ### Rules -/

namespace Scope

theorem isOrdered_encode (s : Scope) : s.encode.IsOrdered := by
  cases s with
  | any => exact .null
  | one vendor => exact .text vendor
  | many vendors => exact Value.isOrdered_texts vendors

theorem mapM_text? (ss : List String) : (ss.map Value.text).mapM Value.text? = some ss := by
  induction ss with
  | nil => rfl
  | cons s rest ih =>
      rw [List.map_cons, List.mapM_cons, ih]
      rfl

theorem ofValue?_encode (s : Scope) : ofValue? s.encode = some s := by
  cases s with
  | any | one => rfl
  | many vendors =>
      rw [encode, Value.texts, ofValue?, mapM_text?]
      rfl

theorem decode_encode (s : Scope) : decode (.ofValue s.encode) = .ok s := by
  rw [decode, Document.toValue?_ofValue s.isOrdered_encode, Option.bind_eq_bind, Option.bind_some,
    ofValue?_encode]

end Scope

theorem RuleEntry.decode_encode {r : RuleEntry} (h : r.condition.IsWritable) :
    decode (.ofValue r.encode) = .ok r := by
  -- The members stand in the order of their names.
  have hfields : r.encode = .object [("category", .ofOption r.category),
      ("check", r.condition.encode), ("description", .ofOption r.description),
      ("enabled", .bool r.enabled), ("id", .text r.id), ("message", .text r.message),
      ("owners", .texts r.owners), ("pass_message", .ofOption r.passMessage),
      ("remediation", .ofOption r.remediation), ("selector", .text r.selector),
      ("severity", .text r.severity.name), ("tags", .texts r.tags), ("vendor", r.scope.encode)] :=
    rfl
  rw [hfields, Document.ofValue]
  simp only [Document.ofFields, decode, Decode.record]
  rw [Decode.members_step rfl rfl rfl (Decode.put_eq_ok _ (Decode.optional_string_ofValue r.category)),
    Decode.members_step rfl rfl rfl (Decode.put_eq_ok _ (Condition.decodeDocument_encode h)),
    Decode.members_step rfl rfl rfl (Decode.put_eq_ok _ (Decode.optional_string_ofValue r.description)),
    Decode.members_step rfl rfl rfl (Decode.put_eq_ok _ (Decode.bool_ofValue r.enabled)),
    Decode.members_step rfl rfl rfl (Decode.put_eq_ok _ (Decode.string_ofValue r.id)),
    Decode.members_step rfl rfl rfl (Decode.put_eq_ok _ (Decode.string_ofValue r.message)),
    Decode.members_step rfl rfl rfl (Decode.put_eq_ok _ (Decode.strings_ofValue r.owners)),
    Decode.members_step rfl rfl rfl (Decode.put_eq_ok _ (Decode.optional_string_ofValue r.passMessage)),
    Decode.members_step rfl rfl rfl (Decode.put_eq_ok _ (Decode.optional_string_ofValue r.remediation)),
    Decode.members_step rfl rfl rfl (Decode.put_eq_ok _ (Decode.string_ofValue r.selector)),
    Decode.members_step rfl rfl rfl (Decode.put_eq_ok _ (Severity.decode_name r.severity)),
    Decode.members_step rfl rfl rfl (Decode.put_eq_ok _ (Decode.strings_ofValue r.tags)),
    Decode.members_step rfl rfl rfl (Decode.put_eq_ok _ (Scope.decode_encode r.scope))]
  rfl

namespace RuleFile

/-- Whether all conditions of a file can be written. -/
def IsWritable (f : RuleFile) : Prop := ∀ r ∈ f.rules, r.condition.IsWritable

theorem decode_encode {f : RuleFile} (h : f.IsWritable) : decode (.ofValue f.encode) = .ok f := by
  have hfields : f.encode = .object [("rules", .array (f.rules.map RuleEntry.encode)),
      ("version", .ofOption f.version)] := rfl
  have hrules := Decode.listOf_ofValue fun r hr => RuleEntry.decode_encode (h r hr)
  rw [hfields, Document.ofValue]
  simp only [Document.ofFields, decode, Decode.record]
  rw [Decode.members_step rfl rfl rfl (Decode.put_eq_ok _ hrules),
    Decode.members_step rfl rfl rfl (Decode.put_eq_ok _ (Decode.optional_string_ofValue f.version))]
  rfl

end RuleFile

/-! ### What has been read -/

namespace Decode

theorem forall_of_mapM {α β ε : Type} {f : α → Except ε β} {P : β → Prop}
    (hf : ∀ a b, f a = .ok b → P b) {as : List α} {bs : List β} (h : as.mapM f = .ok bs) :
    ∀ b ∈ bs, P b := by
  induction as generalizing bs with
  | nil =>
      cases h
      simp
  | cons a rest ih =>
      rw [List.mapM_cons] at h
      obtain ⟨b, hb, h⟩ := ok_of_bind h
      obtain ⟨others, hothers, h⟩ := ok_of_bind h
      cases h
      exact List.forall_mem_cons.mpr ⟨hf a b hb, ih hothers⟩

theorem forall_of_listOf {α : Type} {decode : Decoder α} {P : α → Prop}
    (hdecode : ∀ d a, decode d = .ok a → P a) :
    ∀ {d : Document} {as : List α}, listOf decode d = .ok as → ∀ a ∈ as, P a
  | .list items, _, h => forall_of_mapM hdecode h
  | .tagged _ d, _, h => forall_of_listOf hdecode (d := d) h
  | .null, _, h | .bool _, _, h | .number _, _, h | .text _, _, h | .map _, _, h => by cases h
  | .plain s, as, h => by
      have h : (if (Document.plain s).isBlank then .ok [] else fail (.plain s) "a sequence")
          = Except.ok as := h
      split at h
      · cases h
        simp
      · cases h

theorem isOrdered_of_value {d : Document} {v : Value} (h : value d = .ok v) : v.IsOrdered := by
  rw [value] at h
  split at h
  · next hv =>
    cases h
    exact Document.isOrdered_of_toValue? hv
  · cases h

theorem ne_null_of_value {v w : Value} (hnull : (Document.ofValue v).isNull = false)
    (h : value (.ofValue v) = .ok w) : w ≠ .null := by
  rintro rfl
  cases v with
  | null => cases hnull
  | bool | number | text => cases h
  | array items =>
      obtain ⟨ws, hws⟩ := Document.exists_toValues?_ofItems items
      simp [value, Document.ofValue, Document.toValue?, hws] at h
  | object fields =>
      obtain ⟨ws, hws⟩ := Document.exists_toFields?_ofFields fields
      simp [value, Document.ofValue, Document.toValue?, hws] at h

theorem of_optional {α : Type} {decode : Decoder α} {d : Document} {a : α}
    (h : optional decode d = .ok (some a)) : d.isNull = false ∧ decode d = .ok a := by
  rw [optional] at h
  split at h
  · cases h
  · next hnull =>
    refine ⟨by simpa using hnull, ?_⟩
    cases hd : decode d with
    | error e => rw [hd] at h; cases h
    | ok b => rw [hd] at h; cases h; rfl

/-! What every put keeps holds of a record that has been read if it holds before. -/

section

variable {σ : Type} {shape : Shape} {put : Put σ} {P : σ → Prop}
  (hput : ∀ {name d r r'}, put name d r = .ok r' → P r → P r')

include hput

theorem members_keeps {ms : List (Document × Document)} {seen seen' : List String} {r r' : σ}
    (h : members shape put seen r ms = .ok (r', seen')) (hr : P r) : P r' := by
  induction ms generalizing seen r with
  | nil =>
      cases h
      exact hr
  | cons m rest ih =>
      obtain ⟨key, d⟩ := m
      rw [members] at h
      obtain ⟨name, -, h⟩ := ok_of_bind h
      split at h
      · split at h
        · cases h
        · obtain ⟨e, he, h⟩ := ok_of_bind h
          exact ih h (hput he hr)
      · split at h
        · cases h
        · exact ih h hr

theorem positions_keeps {names : List String} {ds : List Document} {r r' : σ}
    (h : positions put names r ds = .ok r') (hr : P r) : P r' := by
  induction names generalizing ds r with
  | nil =>
      cases h
      exact hr
  | cons name names ih =>
      cases ds with
      | nil =>
          cases h
          exact hr
      | cons d rest =>
          obtain ⟨e, he, h⟩ := ok_of_bind h
          exact ih h (hput he hr)

theorem record_keeps {start : σ} (hstart : P start) :
    ∀ {d : Document} {r : σ}, record shape put start d = .ok r → P r
  | .map ms, r, h => by
      obtain ⟨⟨r', seen⟩, hr', h⟩ := ok_of_bind h
      dsimp only at h
      split at h
      · cases h
      · cases h
        exact members_keeps hput hr' hstart
  | .list items, r, h => by
      obtain ⟨r', hr', h⟩ := ok_of_bind h
      obtain ⟨-, -, h⟩ := ok_of_bind h
      cases h
      exact positions_keeps hput hr' hstart
  | .tagged _ d, r, h => record_keeps hstart (d := d) h
  | .null, _, h | .bool _, _, h | .number _, _, h | .text _, _, h => by cases h
  | .plain s, r, h => by
      rw [record] at h
      split at h
      · split at h
        · cases h
        · cases h
          exact hstart
      · cases h
      all_goals simp

end

end Decode

/-! ### Files that have been read -/

namespace Condition

/-- Whether what has been read of a condition can be written. -/
structure Draft.IsWritable (d : Draft) : Prop where
  args : ∀ vs, d.args = some vs → ∀ v ∈ vs, v.IsOrdered
  value : ∀ v, d.value = some v → v.IsOrdered ∧ v ≠ .null
  conditions : ∀ cs, d.conditions = some cs → ∀ t ∈ testsAll cs, t.IsWritable

theorem Draft.required_eq_ok_iff {α : Type} {name : String} {o : Option α} {a : α} :
    required name o = .ok a ↔ o = some a := by
  cases o <;> simp [required]

theorem Draft.isWritable_empty : IsWritable {} where
  args := by simp
  value := by simp
  conditions := by simp

theorem isWritable_of_finish {d : Draft} {negated : Bool} {kind : Kind} {c : Condition}
    (hd : d.IsWritable) (h : d.finish negated kind = .ok c) : c.IsWritable := by
  have htest : ∀ {t : Test}, t.IsWritable → (test negated t).IsWritable := by
    intro t ht
    simpa [IsWritable, tests] using ht
  cases kind with
  | text =>
      obtain ⟨s, -, h⟩ := ok_of_bind h
      cases h
      exact htest (.text ..)
  | hasChild =>
      obtain ⟨s, -, h⟩ := ok_of_bind h
      cases h
      exact htest (.hasChild s)
  | lacksChild =>
      obtain ⟨s, -, h⟩ := ok_of_bind h
      cases h
      exact htest (.lacksChild s)
  | helper =>
      obtain ⟨s, -, h⟩ := ok_of_bind h
      cases h
      exact htest (.helper s hd.args)
  | field =>
      obtain ⟨s, -, h⟩ := ok_of_bind h
      obtain ⟨op, -, h⟩ := ok_of_bind h
      cases h
      exact htest (.field s op hd.value)
  | all | any =>
      obtain ⟨cs, hcs, h⟩ := ok_of_bind h
      cases h
      exact hd.conditions cs (Draft.required_eq_ok_iff.mp hcs)
  | not =>
      rw [Draft.finish] at h
      split at h
      · next c' hc' =>
        cases h
        simpa [IsWritable, tests, testsAll] using hd.conditions [c'] hc'
      · cases h

theorem Reads.isWritable {d d' : Draft} {v : Value} {name : String} (h : Reads d v name d')
    (hd : d.IsWritable) (hcondition : ∀ c, decode v = .ok c → c.IsWritable)
    (hjoined : ∀ cs, decodeJoined v = .ok cs → ∀ t ∈ testsAll cs, t.IsWritable) :
    d'.IsWritable := by
  cases h with
  | condition hc =>
      refine { hd with conditions := fun cs hcs => ?_ }
      cases hcs
      have hwritable : ∀ t ∈ tests _, t.IsWritable := hcondition _ hc
      simpa [testsAll] using hwritable
  | joined hcs =>
      refine { hd with conditions := fun cs hcs => ?_ }
      cases hcs
      exact hjoined _ ‹_›
  | args hargs =>
      refine { hd with args := fun vs hvs => ?_ }
      cases hvs
      exact Decode.forall_of_listOf (fun _ _ => Decode.isOrdered_of_value)
        (Decode.of_optional hargs).2
  | value hvalue =>
      refine { hd with value := fun w hw => ?_ }
      cases hw
      obtain ⟨hnull, hw⟩ := Decode.of_optional hvalue
      exact ⟨Decode.isOrdered_of_value hw, Decode.ne_null_of_value hnull hw⟩
  | mode | target | ignoreCase | op | subject => exact { hd with }

mutual

theorem isWritable_of_decode : ∀ {v : Value} {c : Condition}, decode v = .ok c → c.IsWritable
  | .object fields, c, h => by
      obtain ⟨negated, kind, d, -, -, hd, h⟩ := decode_object_eq_ok_iff.mp h
      exact isWritable_of_finish (isWritable_of_decodeMembers hd Draft.isWritable_empty) h
  | .array [], c, h => by
      rw [decode] at h
      cases h
  | .array (v :: items), c, h => by
      rw [decode] at h
      obtain ⟨kind, -, h⟩ := ok_of_bind h
      obtain ⟨d, hd, h⟩ := ok_of_bind h
      obtain ⟨-, -, h⟩ := ok_of_bind h
      exact isWritable_of_finish (isWritable_of_decodePositions hd Draft.isWritable_empty) h
  | .null, _, h | .bool _, _, h | .number _, _, h | .text _, _, h => by simp [decode] at h

theorem isWritable_of_decodeAll : ∀ {items : List Value} {cs : List Condition},
    decodeAll items = .ok cs → ∀ t ∈ testsAll cs, t.IsWritable
  | [], cs, h => by
      rw [decodeAll] at h
      cases h
      simp [testsAll]
  | v :: vs, cs, h => by
      rw [decodeAll] at h
      obtain ⟨c, hc, h⟩ := ok_of_bind h
      obtain ⟨others, hothers, h⟩ := ok_of_bind h
      cases h
      rw [testsAll]
      exact List.forall_mem_append.mpr ⟨isWritable_of_decode hc, isWritable_of_decodeAll hothers⟩

theorem isWritable_of_decodeJoined : ∀ {v : Value} {cs : List Condition},
    decodeJoined v = .ok cs → ∀ t ∈ testsAll cs, t.IsWritable
  | .array items, cs, h => by
      rw [decodeJoined] at h
      exact isWritable_of_decodeAll h
  | .null, _, h | .bool _, _, h | .number _, _, h | .text _, _, h | .object _, _, h => by
      simp [decodeJoined] at h

theorem isWritable_of_decodeMembers {kind : Kind} : ∀ {fields : Fields Value} {d d' : Draft},
    decodeMembers kind d fields = .ok d' → d.IsWritable → d'.IsWritable
  | [], d, d', h, hd => by
      rw [decodeMembers_nil] at h
      cases h
      exact hd
  | (name, v) :: rest, d, d', h, hd => by
      by_cases hskip : name = "type" ∨ name = "negate"
      · rw [decodeMembers_skip hskip] at h
        exact isWritable_of_decodeMembers h hd
      · obtain ⟨-, e, he, h⟩ := (decodeMembers_cons_eq_ok_iff hskip).mp h
        exact isWritable_of_decodeMembers h (he.isWritable hd (fun _ => isWritable_of_decode)
          (fun _ => isWritable_of_decodeJoined))

theorem isWritable_of_decodePositions : ∀ {names : List String} {items : List Value}
    {d d' : Draft}, decodePositions d names items = .ok d' → d.IsWritable → d'.IsWritable
  | [], _, d, d', h, hd => by
      rw [decodePositions] at h
      · cases h
        exact hd
      · simp
  | _ :: _, [], d, d', h, hd => by
      rw [decodePositions] at h
      · cases h
        exact hd
      · simp
  | name :: names, v :: rest, d, d', h, hd => by
      rw [decodePositions] at h
      obtain ⟨e, he, h⟩ := ok_of_bind h
      have he := decodeMember_eq_ok_iff.mp he
      exact isWritable_of_decodePositions h (he.isWritable hd (fun _ => isWritable_of_decode)
        (fun _ => isWritable_of_decodeJoined))

end

end Condition

namespace RuleEntry

/-- Only the member that holds the condition changes it. -/
theorem condition_of_put {name : String} {d : Document} {r r' : RuleEntry}
    (h : put name d r = .ok r') :
    r'.condition = r.condition ∨ Condition.decodeDocument d = .ok r'.condition := by
  unfold put at h
  -- The condition is what is read under the last of the names.
  iterate 12
    rcases ite_eq_iff.mp h with ⟨-, h⟩ | ⟨-, h⟩
    · obtain ⟨_, -, h⟩ := ok_of_bind h
      cases h
      exact .inl rfl
  obtain ⟨c, hc, h⟩ := ok_of_bind h
  cases h
  exact .inr hc

theorem isWritable_of_decode {d : Document} {r : RuleEntry} (h : decode d = .ok r) :
    r.condition.IsWritable := by
  refine Decode.record_keeps (P := fun r => r.condition.IsWritable) (fun hput hr => ?_) ?_ h
  · rcases condition_of_put hput with hsame | hcondition
    · rwa [hsame]
    · obtain ⟨v, -, hv⟩ := ok_of_bind hcondition
      exact Condition.isWritable_of_decode hv
  · simp [blank, Condition.IsWritable, Condition.tests, Condition.testsAll]

end RuleEntry

namespace RuleFile

theorem isWritable_of_decode {d : Document} {f : RuleFile} (h : decode d = .ok f) :
    f.IsWritable := by
  refine Decode.record_keeps (P := IsWritable) (fun hput hf => ?_) (by simp [IsWritable]) h
  unfold put at hput
  split at hput
  · obtain ⟨version, -, hput⟩ := ok_of_bind hput
    cases hput
    exact hf
  · obtain ⟨rules, hrules, hput⟩ := ok_of_bind hput
    cases hput
    exact Decode.forall_of_listOf (fun _ _ => RuleEntry.isWritable_of_decode) hrules

/-- A file that is written and read again is the same one, if it holds nothing that would be
written as if it were not there.  So it is the same one whenever it was read itself, from
whatever document. -/
theorem roundTrip :
    (∀ f : RuleFile, f.IsWritable → decode (.ofValue f.encode) = .ok f)
      ∧ ∀ (d : Document) (f : RuleFile), decode d = .ok f → decode (.ofValue f.encode) = .ok f :=
  ⟨fun _ => decode_encode, fun _ _ h => decode_encode (isWritable_of_decode h)⟩

/-- A file with a condition that is negated at two depths, and a document in which a condition
is a list. -/
theorem roundTrip_negated :
    let f : RuleFile := ⟨some "1", [{ RuleEntry.blank with
      id := "a", selector := "interface", message := "m", scope := .many ["cisco"]
      condition := .not true (.test true (.helper "hasChild" (some [.text "node", .null]))) }]⟩
    let d := Document.map [(.plain "rules", .list [.map [(.text "message", .text "n"),
      (.text "id", .plain "b"), (.text "selector", .text "vlan"), (.text "check", .map [
        (.text "type", .text "and"), (.text "negate", .plain "true"),
        (.text "conditions", .list [.list [.text "child_exists", .text "name"]])])]])]
    let g : RuleFile := ⟨none, [{ RuleEntry.blank with
      id := "b", selector := "vlan", message := "n"
      condition := .all true [.test false (.hasChild "name")] }]⟩
    f.IsWritable ∧ decode (.ofValue f.encode) = .ok f
      ∧ decode d = .ok g ∧ decode (.ofValue g.encode) = .ok g := by
  intro f d g
  have hargs : ∀ v ∈ [Value.text "node", .null], v.IsOrdered := by
    simp [Value.IsOrdered.text, Value.IsOrdered.null]
  have htest : (Test.helper "hasChild" (some [.text "node", .null])).IsWritable :=
    .helper _ fun _ hvs => Option.some.inj hvs ▸ hargs
  have hwritable : f.IsWritable := by
    simpa [f, IsWritable, Condition.IsWritable, Condition.tests] using htest
  have hlist : Condition.decode (.array [.text "child_exists", .text "name"])
      = .ok (.test false (.hasChild "name")) :=
    Condition.decode_list_eq_ok (rfl : Condition.Kind.hasChild.fields = _)
      (.subject (by decide) rfl) rfl
  have hall : Condition.decodeAll [.array [.text "child_exists", .text "name"]]
      = .ok [.test false (.hasChild "name")] := by
    rw [Condition.decodeAll, hlist, Condition.decodeAll]
    rfl
  have hcondition : Condition.decode (.object [
      ("conditions", .array [.array [.text "child_exists", .text "name"]]),
      ("negate", .bool true), ("type", .text "and")])
        = .ok (.all true [.test false (.hasChild "name")]) :=
    Condition.decode_object_eq_ok true (Condition.decodeMembers_conditions .all rfl hall)
      rfl rfl rfl rfl
  have hentry : RuleEntry.decode (.map [(.text "message", .text "n"), (.text "id", .plain "b"),
      (.text "selector", .text "vlan"), (.text "check", .map [(.text "type", .text "and"),
        (.text "negate", .plain "true"),
        (.text "conditions", .list [.list [.text "child_exists", .text "name"]])])])
      = .ok { RuleEntry.blank with
          id := "b", selector := "vlan", message := "n"
          condition := .all true [.test false (.hasChild "name")] } := by
    rw [RuleEntry.decode, Decode.record, Decode.members_step rfl rfl rfl rfl,
      Decode.members_step rfl rfl rfl rfl, Decode.members_step rfl rfl rfl rfl,
      Decode.members_step rfl rfl rfl (Decode.put_eq_ok _ hcondition)]
    rfl
  have hdecode : decode d = .ok g := by
    have hrules := (mapM_eq_ok_iff _ _).mpr (.cons hentry .nil)
    rw [decode, Decode.record, Decode.members_step rfl rfl rfl (Decode.put_eq_ok _ hrules)]
    rfl
  exact ⟨hwritable, roundTrip.1 f hwritable, hdecode, roundTrip.2 d g hdecode⟩

end RuleFile

end DeviceLint
