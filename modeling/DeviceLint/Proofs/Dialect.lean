/-
A dialect is the same by each of its names.

Both ways to run rules begin by looking up a dialect, each in a registry of its own, and from
then on go by the schema they found.  So they agree if a name can mean one schema only.  It
can, because no two entries of the built-in registry share a name, letter case aside, and all
names are in ASCII, where the two ways to ignore letter case are one.  Then nothing depends on
the order in which a registry happens to hold its entries, either.
-/
import DeviceLint.Lint.Tree
import DeviceLint.Proofs.Settings

namespace DeviceLint

/-! ### Letter case in ASCII -/

def IsAscii (cs : List Char) : Prop := ∀ c ∈ cs, c.toNat < 0x80

instance (cs : List Char) : Decidable (IsAscii cs) := List.decidableBAll _ cs

theorem lower_of_isAscii {cs : List Char} (h : IsAscii cs) :
    Text.lower cs = cs.map Char.toLower := by
  have hafter : ∀ before, Text.lowerAfter before cs = cs.map Char.toLower := by
    induction cs with
    | nil => intro before; rfl
    | cons c cs ih =>
        obtain ⟨hc, hcs⟩ := List.forall_mem_cons.mp h
        have hsigma : (c == 'Σ') = false := by
          rw [beq_eq_false_iff_ne]
          rintro rfl
          exact absurd hc (by decide)
        intro before
        rw [Text.lowerAfter, ih hcs, hsigma, Text.lowerChar, if_pos hc]
        rfl
  exact hafter []

/-- Only ASCII letters become ASCII letters. -/
theorem isAscii_of_map_toLower {cs : List Char} (h : IsAscii (cs.map Char.toLower)) :
    IsAscii cs := by
  intro c hc
  have hlower : c.toLower.toNat < 0x80 := h _ (List.mem_map_of_mem hc)
  by_cases hupper : c.val ≥ 'A'.val ∧ c.val ≤ 'Z'.val
  · exact Nat.lt_of_le_of_lt (UInt32.le_iff_toNat_le.mp hupper.2) (by decide)
  · have hsame : c.toLower = c := dif_neg hupper
    rwa [hsame] at hlower

namespace Schema

/-- A name without its letter case. -/
def caseless (name : String) : List Char := name.toList.map Char.toLower

/-- All names of a schema. -/
def names (s : Schema) : List (List Char) := (s.id :: s.aliases).map caseless

/-- Whether all names of a schema are in ASCII. -/
def IsAscii (s : Schema) : Prop := ∀ name ∈ s.names, DeviceLint.IsAscii name

instance (s : Schema) : Decidable s.IsAscii := List.decidableBAll _ s.names

/-- Whether two schemas have no name in common. -/
def NamedApart (s t : Schema) : Prop := ∀ name ∈ s.names, name ∉ t.names

instance (s t : Schema) : Decidable (s.NamedApart t) := List.decidableBAll _ s.names

theorem NamedApart.symm {s t : Schema} (h : s.NamedApart t) : t.NamedApart s :=
  fun name ht hs => h name hs ht

theorem answersTo_iff {s : Schema} {name : String} :
    s.answersTo name = true ↔ caseless name ∈ s.names := by
  have hsame : ∀ own : String, sameWord own name = true ↔ caseless name = caseless own := by
    intro own
    rw [sameWord, Text.eqIgnoreAsciiCase, beq_iff_eq, eq_comm]
    rfl
  rw [answersTo, Bool.or_eq_true, List.any_eq_true, names, List.map_cons, List.mem_cons,
    List.mem_map, hsame]
  simp only [hsame, eq_comm]

end Schema

namespace SchemaRegistry

/-- Whether every name means one schema. -/
structure IsClear (r : SchemaRegistry) : Prop where
  keyed : ∀ e ∈ r.entries, e.1 = lowerCase e.2.id
  ascii : ∀ e ∈ r.entries, e.2.IsAscii
  apart : ∀ e ∈ r.entries, ∀ e' ∈ r.entries, e ≠ e' → e.2.NamedApart e'.2

/-- A schema may join others if it shares no name with them. -/
theorem IsClear.register {r : SchemaRegistry} (h : r.IsClear) {s : Schema} (hascii : s.IsAscii)
    (hapart : ∀ e ∈ r.entries, e.2.NamedApart s) : (r.register s).IsClear := by
  have hentries : ∀ e ∈ (r.register s).entries, e = (lowerCase s.id, s) ∨ e ∈ r.entries :=
    fun e he => Fields.mem_insert he
  refine ⟨fun e he => ?_, fun e he => ?_, fun e he e' he' hne => ?_⟩
  · rcases hentries e he with rfl | he
    · rfl
    · exact h.keyed e he
  · rcases hentries e he with rfl | he
    · exact hascii
    · exact h.ascii e he
  · rcases hentries e he with rfl | he
    · rcases hentries e' he' with rfl | he'
      · exact absurd rfl hne
      · exact (hapart e' he').symm
    · rcases hentries e' he' with rfl | he'
      · exact hapart e he
      · exact h.apart e he e' he' hne

/-- So may several, if they share no name among themselves either. -/
theorem IsClear.registerAll (schemas : List Schema) (hascii : ∀ s ∈ schemas, s.IsAscii)
    (hapart : schemas.Pairwise Schema.NamedApart) :
    ∀ r : SchemaRegistry, r.IsClear → (∀ e ∈ r.entries, ∀ s ∈ schemas, e.2.NamedApart s) →
      (schemas.foldl SchemaRegistry.register r).IsClear := by
  induction schemas with
  | nil => intro r h _; exact h
  | cons s schemas ih =>
      intro r h hr
      obtain ⟨hs, hschemas⟩ := List.pairwise_cons.mp hapart
      have hregister : (r.register s).IsClear :=
        h.register (hascii s (by simp)) fun e he => hr e he s (by simp)
      refine ih (fun s' hs' => hascii s' (by simp [hs'])) hschemas _ hregister ?_
      intro e he s' hs'
      rcases Fields.mem_insert he with rfl | he
      · exact hs s' hs'
      · exact hr e he s' (by simp [hs'])

theorem builtin_isClear : builtin.IsClear := by
  have hascii : ∀ s ∈ Schema.builtin, s.IsAscii := by decide +kernel
  have hapart : Schema.builtin.Pairwise Schema.NamedApart := by decide +kernel
  have hempty : empty.IsClear :=
    ⟨List.forall_mem_nil _, List.forall_mem_nil _, List.forall_mem_nil _⟩
  exact .registerAll Schema.builtin hascii hapart empty hempty (List.forall_mem_nil _)

theorem IsClear.perm {r r' : SchemaRegistry} (h : r.IsClear) (hperm : r'.entries.Perm r.entries) :
    r'.IsClear where
  keyed := fun e he => h.keyed e (hperm.mem_iff.mp he)
  ascii := fun e he => h.ascii e (hperm.mem_iff.mp he)
  apart := fun e he e' he' => h.apart e (hperm.mem_iff.mp he) e' (hperm.mem_iff.mp he')

namespace IsClear

variable {r : SchemaRegistry}

theorem eq_of_mem_names (h : r.IsClear) {e e' : String × Schema} (he : e ∈ r.entries)
    (he' : e' ∈ r.entries) {name : List Char} (hname : name ∈ e.2.names)
    (hname' : name ∈ e'.2.names) : e = e' := by
  by_contra hne
  exact h.apart e he e' he' hne name hname hname'

/-- A name is looked for among the keys as it would be among the other names. -/
theorem lowerCase_mem_names (h : r.IsClear) {e : String × Schema} (he : e ∈ r.entries)
    {name : String} (hname : e.2.answersTo name = true) :
    (lowerCase name).toList ∈ e.2.names := by
  rw [Schema.answersTo_iff] at hname
  have hascii : IsAscii name.toList := isAscii_of_map_toLower (h.ascii e he _ hname)
  rw [lowerCase, String.toList_ofList, lower_of_isAscii hascii]
  exact hname

/-- An entry is kept under one of its names. -/
theorem key_mem_names (h : r.IsClear) {e : String × Schema} (he : e ∈ r.entries) :
    e.1.toList ∈ e.2.names := by
  rw [h.keyed e he]
  exact h.lowerCase_mem_names he (Schema.answersTo_iff.mpr List.mem_cons_self)

/-- What a name means does not depend on where an entry stands. -/
theorem get?_eq_some_iff (h : r.IsClear) {name : String} {s : Schema} :
    r.get? name = some s
      ↔ ∃ e ∈ r.entries, e.2 = s ∧ (e.1 = lowerCase name ∨ s.answersTo name = true) := by
  unfold get? Fields.get?
  cases hlookup : r.entries.lookup (lowerCase name) with
  | some found =>
      -- A schema that answers to the name is the one under the key, so the key may decide.
      obtain ⟨before, after, hentries, -⟩ := List.lookup_eq_some_iff.mp hlookup
      have hmem : (lowerCase name, found) ∈ r.entries := by rw [hentries]; simp
      have hkey := h.key_mem_names hmem
      rw [Option.some_or]
      constructor
      · intro hfound
        exact ⟨_, hmem, Option.some.inj hfound, .inl rfl⟩
      · rintro ⟨e, he, rfl, hname⟩
        have hlower : (lowerCase name).toList ∈ e.2.names := by
          rcases hname with hkeyed | hanswers
          · exact hkeyed ▸ h.key_mem_names he
          · exact h.lowerCase_mem_names he hanswers
        rw [← h.eq_of_mem_names hmem he hkey hlower]
  | none =>
      have hkeys : ∀ e ∈ r.entries, e.1 ≠ lowerCase name := fun e he heq => by
        simpa [heq] using List.lookup_eq_none_iff.mp hlookup e he
      rw [Option.none_or]
      constructor
      · intro hfound
        obtain ⟨e, he, rfl⟩ := List.mem_map.mp (List.mem_of_find?_eq_some hfound)
        have hname := List.find?_some hfound
        exact ⟨e, he, rfl, .inr hname⟩
      · rintro ⟨e, he, rfl, hname | hname⟩
        · exact absurd hname (hkeys e he)
        · cases hfind : (r.entries.map (·.2)).find? (·.answersTo name) with
          | none =>
              exact absurd hname (List.find?_eq_none.mp hfind e.2 (List.mem_map_of_mem he))
          | some found =>
              obtain ⟨e', he', rfl⟩ := List.mem_map.mp (List.mem_of_find?_eq_some hfind)
              have hfound := List.find?_some hfind
              have hsame := h.eq_of_mem_names he' he (Schema.answersTo_iff.mp hfound)
                (Schema.answersTo_iff.mp hname)
              rw [hsame]

/-- Registries with the same entries give the same answers, in whatever order they hold them. -/
theorem get?_eq_of_perm (h : r.IsClear) {r' : SchemaRegistry}
    (hperm : r'.entries.Perm r.entries) (name : String) : r'.get? name = r.get? name := by
  ext s
  rw [(h.perm hperm).get?_eq_some_iff, h.get?_eq_some_iff]
  simp only [hperm.mem_iff]

end IsClear

/-- A built-in schema is found by its id and its other names, in letters of any case. -/
theorem get?_builtin_of_answersTo {s : Schema} {name : String} (hs : builtin.get? name = some s)
    {other : String} (hother : s.answersTo other = true) : builtin.get? other = some s := by
  rw [builtin_isClear.get?_eq_some_iff] at hs ⊢
  obtain ⟨e, he, rfl, -⟩ := hs
  exact ⟨e, he, rfl, .inr hother⟩

end SchemaRegistry

namespace Linter

variable {ρ : Type} [Categorized ρ]

/--
**Rules find the same, whether a linter or nobody holds them.**

Take a name by which there is a built-in schema.  Rules on the tree of a text in this dialect
find what a linter finds that holds these rules and whose settings say nothing, with tallies or
without them.  Any other name of the same schema does as well, for both.  Such a name is the
schema's id or one of its other names, in letters of any case, and it means that schema in
every registry of the built-in schemas, in whatever order it holds them.
-/
theorem lint_builtin {vendor : String} {schema : Schema}
    (hvendor : SchemaRegistry.builtin.get? vendor = some schema) (rules : List ρ)
    (name text : String) (statistics : Bool) :
    let linter : Linter ρ := { new { engine := { statistics := statistics } } with rules := rules }
    let tree := parse schema text
    (∃ report, linter.lint name text vendor = .ok report ∧ report.vendor = schema.id ∧
        report.findings = DeviceLint.lint tree rules vendor) ∧
      (∀ other, SchemaRegistry.builtin.get? other = some schema →
        DeviceLint.lint tree rules other = DeviceLint.lint tree rules vendor ∧
          linter.lint name text other = linter.lint name text vendor) ∧
      (∀ other, schema.answersTo other = true →
        SchemaRegistry.builtin.get? other = some schema) ∧
      ∀ r : SchemaRegistry, r.entries.Perm SchemaRegistry.builtin.entries →
        ∀ other, r.get? other = SchemaRegistry.builtin.get? other := by
  intro linter tree
  have hlint : ∀ {other}, SchemaRegistry.builtin.get? other = some schema →
      DeviceLint.lint tree rules other = Engine.run (.ofSchema schema tree) rules := by
    intro other hother
    rw [DeviceLint.lint, SchemaRegistry.context, hother]
  have hlinter : ∀ {other}, SchemaRegistry.builtin.get? other = some schema →
      linter.lint name text other = .ok (linter.lintWith schema name text) :=
    fun hother => lint_eq linter hother name text
  have hfindings : (linter.lintWith schema name text).findings
      = Engine.run (.ofSchema schema tree) rules :=
    findings_lintWith_default linter { statistics := statistics } schema name text
  refine ⟨⟨_, hlinter hvendor, rfl, ?_⟩, fun other hother => ?_, fun other hother => ?_,
    fun r hperm other => SchemaRegistry.builtin_isClear.get?_eq_of_perm hperm other⟩
  · exact hfindings.trans (hlint hvendor).symm
  · exact ⟨(hlint hother).trans (hlint hvendor).symm,
      (hlinter hother).trans (hlinter hvendor).symm⟩
  · exact SchemaRegistry.get?_builtin_of_answersTo hvendor hother

/-- A rule for one dialect only, which it calls by its id. -/
def nexusRule : Rule :=
  { interfaceRule "mtu" "physical" with scope := .one "cisco-nxos" }

theorem lint_builtin_nexus :
    let linter : Linter := { new { engine := { statistics := true } } with rules := [nexusRule] }
    let text := "interface Eth1/1\n shutdown\n"
    ∃ report, linter.lint "n1" text "NX-OS" = .ok report ∧ report.vendor = "cisco-nxos" ∧
      report.findings.map (·.rule) = ["mtu"] ∧ linter.lint "n1" text "nxos" = .ok report := by
  intro linter text
  have hvendor : SchemaRegistry.builtin.get? "NX-OS" = some Schema.ciscoNxos := by decide +kernel
  obtain ⟨⟨report, hreport, hid, hfindings⟩, hsame, hnames, -⟩ :=
    lint_builtin hvendor [nexusRule] "n1" text true
  have hother := hsame "nxos" (hnames "nxos" (by decide +kernel))
  refine ⟨report, hreport, hid, ?_, hother.2.trans hreport⟩
  rw [hfindings]
  decide +kernel

end Linter

end DeviceLint
