/-
Every closing brace closes its own opening brace, nearly.

The reader keeps the sections that are open on a stack and beside it only counts the opening
braces that opened none, and a closing brace goes to these as long as there are any.  That
agrees with one stack of all braces as long as no section is opened while a brace that
opened none is open: then such braces lie on top of the stack, and how many they are is all
there is to know of them.  Otherwise the closing brace of the section is taken for that of
the brace around it.
-/
import DeviceLint.Proofs.Nest
import DeviceLint.Schema.Builtin

namespace DeviceLint

open Node

namespace Brace

/-! ### The reader and the stack -/

/-- The reader knows what the stack tells. -/
structure Follows (st : State) (n : Nest) : Prop where
  opened : n.opened = List.replicate st.unpaired none ++ st.outline.survey.opened.map some
  count : n.count = st.outline.survey.sites.length
  leaf : n.leaf = st.outline.takeLastLeaf?.isSome
  /-- A leaf that may be made a section has no children. -/
  childless : ∀ m o, st.outline.takeLastLeaf? = some (m, o) → m.children = []
  groups : ∀ kind ∈ st.outline.opened.map (·.node.kind), kind = .group

variable {st : State} {n : Nest} {p : Piece}

theorem Follows.around (h : Follows st n) : n.around = st.outline.survey.opened := by
  rw [Nest.around, h.opened, List.filterMap_append, List.filterMap_map]
  simp

theorem survey_addLeaf (l : LogicalLine) (o : Outline Unit) (p : Piece)
    (hne : isBlank p.text = false) : (addLeaf l o p).survey
      = ⟨o.survey.sites ++ [⟨l.entry p.text, o.survey.opened⟩], o.survey.opened⟩ := by
  rw [addLeaf, if_neg (by simp [hne]), Outline.survey_add, Survey.put, sites_childless rfl]
  rfl

/-- The text of a piece. -/
theorem Follows.read (h : Follows st n) (l : LogicalLine) (p : Piece) :
    Follows { st with outline := addLeaf l st.outline p } (n.read p) ∧
      (addLeaf l st.outline p).survey.sites = st.outline.survey.sites ++ n.site (l, p) := by
  by_cases hblank : isBlank p.text = true
  · have hleaf : addLeaf l st.outline p = st.outline := if_pos hblank
    rw [hleaf, Nest.read, if_pos hblank, Nest.site, if_pos hblank, List.append_nil]
    exact ⟨h, rfl⟩
  · have hne : isBlank p.text = false := by simpa using hblank
    have hsurvey := survey_addLeaf l st.outline p hne
    have hleaf : addLeaf l st.outline p = st.outline.add (p.node .leaf l) := if_neg hblank
    have htake : (addLeaf l st.outline p).takeLastLeaf? = some (p.node .leaf l, st.outline) := by
      rw [hleaf, Outline.takeLastLeaf?_add]
      rfl
    rw [Nest.read, if_neg hblank, Nest.site, if_neg hblank, h.around]
    refine ⟨⟨?_, ?_, ?_, ?_, ?_⟩, by rw [hsurvey]⟩
    · rw [hsurvey]
      exact h.opened
    · rw [hsurvey, List.length_append, ← h.count]
      rfl
    · rw [htake]
      rfl
    · intro m o hm
      obtain ⟨rfl, -⟩ := Prod.mk.inj (Option.some.inj (htake.symm.trans hm))
      rfl
    · rw [hleaf, Outline.map_opened_add (fun _ _ => rfl)]
      exact h.groups

/-- A section that is opened while no brace is open that opened none. -/
theorem follows_push {o : Outline Unit} {m : Node} (hchildless : m.children = [])
    (hkind : m.kind = .group) (hgroups : ∀ kind ∈ o.opened.map (·.node.kind), kind = .group) :
    Follows ⟨o.push m (), 0⟩
        ⟨some o.survey.sites.length :: o.survey.opened.map some, o.survey.sites.length + 1, false⟩ ∧
      (o.push m ()).survey.sites = o.survey.sites ++ [⟨m.entry, o.survey.opened⟩] := by
  have hsurvey : (o.push m ()).survey = ⟨o.survey.sites ++ [⟨m.entry, o.survey.opened⟩],
      o.survey.sites.length :: o.survey.opened⟩ := by
    rw [Outline.survey_push, Survey.enter, sites_childless hchildless]
  have htake : (o.push m ()).takeLastLeaf? = none := by
    have hscope : (o.push m ()).scope = [] := hchildless
    rw [Outline.takeLastLeaf?, hscope]
    rfl
  refine ⟨⟨?_, ?_, ?_, ?_, ?_⟩, by rw [hsurvey]⟩
  · rw [hsurvey]
    rfl
  · rw [hsurvey, List.length_append]
    rfl
  · rw [htake]
    rfl
  · rw [htake]
    exact fun m o hm => absurd hm (by simp)
  · exact List.forall_mem_cons.mpr ⟨hkind, hgroups⟩

/-- An opening brace; it opens a section only if no brace is open that opened none. -/
theorem Follows.push (h : Follows st n) (l : LogicalLine) (p : Piece)
    (hfirst : (n.section? p).isSome → none ∉ n.opened) :
    Follows (openGroup l st p) (n.push p) ∧
      (openGroup l st p).outline.survey.sites = st.outline.survey.sites ++ n.site (l, p) := by
  obtain ⟨outline, unpaired⟩ := st
  have hpaired : (n.section? p).isSome → unpaired = 0 ∧ n.opened = outline.survey.opened.map some := by
    intro hsome
    have hnone := hfirst hsome
    rw [h.opened] at hnone
    obtain rfl : unpaired = 0 := by simpa using hnone
    exact ⟨rfl, h.opened⟩
  by_cases hblank : isBlank p.text = true
  · rw [Nest.site, if_pos hblank, List.append_nil, openGroup, if_pos hblank]
    cases htake : outline.takeLastLeaf? with
    | none =>
        have hsection : n.section? p = none := by
          rw [Nest.section?, if_pos hblank, h.leaf, htake]
          rfl
        rw [Nest.push, hsection]
        refine ⟨⟨?_, h.count, h.leaf, h.childless, h.groups⟩, rfl⟩
        exact congrArg (none :: ·) h.opened
    | some taken =>
        obtain ⟨m, o⟩ := taken
        have hchildless := h.childless m o htake
        have hput := Outline.survey_takeLastLeaf htake
        rw [Survey.put, sites_childless hchildless] at hput
        have hsection : n.section? p = some o.survey.sites.length := by
          rw [Nest.section?, if_pos hblank, h.leaf, htake, h.count, ← hput, List.length_append]
          rfl
        obtain ⟨rfl, hopened⟩ := hpaired (by rw [hsection]; rfl)
        obtain ⟨ns, -, -, hwith⟩ := Outline.takeLastLeaf?_eq_some htake
        have hgroups : ∀ kind ∈ o.opened.map (·.node.kind), kind = .group := by
          rw [hwith, Outline.map_opened_withScope fun _ _ => rfl]
          exact h.groups
        have hpushed := follows_push (m := { m with kind := .group }) hchildless rfl hgroups
        rw [Nest.push, hsection, hopened, ← hput]
        exact ⟨hpushed.1, hpushed.2⟩
  · have hsection : n.section? p = some outline.survey.sites.length := by
      rw [Nest.section?, if_neg hblank, h.count]
    obtain ⟨rfl, hopened⟩ := hpaired (by rw [hsection]; rfl)
    have hpushed := follows_push (m := p.node .group l) rfl rfl h.groups
    rw [Nest.push, hsection, Nest.site, if_neg hblank, h.around, openGroup, if_neg hblank, hopened]
    exact hpushed

/-- A closing brace. -/
theorem Follows.pop (h : Follows st n) (last : Nat) :
    Follows (if st.unpaired == 0 then { st with outline := st.outline.closeAt last }
      else { st with unpaired := st.unpaired - 1 }) n.pop := by
  obtain ⟨⟨roots, opened⟩, unpaired⟩ := st
  cases unpaired with
  | succ u =>
      have hnone : n.opened = none :: (List.replicate u none ++
          (Outline.survey ⟨roots, opened⟩).opened.map some) := h.opened
      rw [if_neg (by simp), Nest.pop, hnone]
      exact ⟨rfl, h.count, h.leaf, h.childless, h.groups⟩
  | zero =>
      rw [if_pos (by rfl)]
      cases opened with
      | nil =>
          have hnone : n.opened = [] := h.opened
          rw [Nest.pop, hnone]
          exact ⟨rfl, h.count, h.leaf, h.childless, h.groups⟩
      | cons g gs =>
          have hsome : n.opened = some (Outline.surveyOf roots gs).sites.length ::
              (Outline.surveyOf roots gs).opened.map some := h.opened
          have hsurvey := Outline.survey_closeAt (⟨roots, g :: gs⟩ : Outline Unit) last
          have hgroup : g.node.kind = .group := h.groups _ List.mem_cons_self
          have htake : (Outline.closeAt ⟨roots, g :: gs⟩ last).takeLastLeaf? = none := by
            obtain ⟨k, heq, -⟩ := enclosing_eq (g.node.reaching last)
            show (Outline.add ⟨roots, gs⟩ (g.node.reaching last).enclosing).takeLastLeaf? = none
            rw [Outline.takeLastLeaf?_add, heq]
            exact if_neg (by simp [reaching, hgroup])
          rw [Nest.pop, hsome]
          refine ⟨?_, ?_, ?_, ?_, ?_⟩
          · rw [hsurvey]
            rfl
          · rw [hsurvey]
            exact h.count
          · rw [htake]
            rfl
          · rw [htake]
            exact fun m o hm => absurd hm (by simp)
          · rw [Outline.map_opened_closeAt fun _ _ => rfl]
            exact fun kind hkind => h.groups kind (List.mem_of_mem_drop hkind)

theorem sites_pop (st : State) (last : Nat) :
    (if st.unpaired == 0 then { st with outline := st.outline.closeAt last }
      else { st with unpaired := st.unpaired - 1 }).outline.survey.sites
      = st.outline.survey.sites := by
  split
  · rw [Outline.survey_closeAt]
    rfl
  · rfl

/-- One piece. -/
theorem Follows.step (h : Follows st n) (x : Cut)
    (hfirst : x.2.mark = .opens → (n.section? x.2).isSome → none ∉ n.opened) :
    Follows (Brace.step x.1 st x.2) (n.step x.2) ∧
      (Brace.step x.1 st x.2).outline.survey.sites = st.outline.survey.sites ++ n.site x := by
  obtain ⟨hread, hsites⟩ := h.read x.1 x.2
  unfold Brace.step Nest.step
  cases hmark : x.2.mark with
  | opens => exact h.push x.1 x.2 (hfirst hmark)
  | ends => exact ⟨hread, hsites⟩
  | closes =>
      have hpop := sites_pop { st with outline := addLeaf x.1 st.outline x.2 } x.1.last
      exact ⟨hread.pop x.1.last, hpop.trans hsites⟩

/-- The pieces of a text one after the other. -/
theorem Follows.run {cuts : List Cut} : ∀ {st : State} {n : Nest}, Follows st n →
    n.SectionsFirst cuts →
      Follows (cuts.foldl (fun st x => Brace.step x.1 st x.2) st) (n.run cuts) ∧
        (cuts.foldl (fun st x => Brace.step x.1 st x.2) st).outline.survey.sites
          = st.outline.survey.sites ++ n.sites cuts := by
  induction cuts with
  | nil => exact fun h _ => ⟨h, (List.append_nil _).symm⟩
  | cons x cuts ih =>
      intro st n h hfirst
      obtain ⟨hnext, hsites⟩ := h.step x hfirst.1
      obtain ⟨hlast, hrest⟩ := ih hnext hfirst.2
      refine ⟨hlast, ?_⟩
      rw [List.foldl_cons, hrest, hsites, List.append_assoc, Nest.sites]

theorem follows_start : Follows ⟨Outline.empty, 0⟩ Nest.start :=
  ⟨rfl, rfl, rfl, by simp [Outline.empty, Outline.takeLastLeaf?, Outline.scope],
    by simp [Outline.empty]⟩

/-- The pieces of a text, in order. -/
def cutsOf (schema : Schema) (text : String) : List Cut :=
  (LogicalLine.ofText schema text).flatMap fun l => (cut l.text).map fun p => (l, p)

/-- **The tree is that of one stack.** -/
theorem sites_parse {schema : Schema} (hstyle : schema.blockStyle = .brace) {text : String}
    (hfirst : Nest.start.SectionsFirst (cutsOf schema text)) :
    sitesAll [] 0 (parse schema text) = Nest.start.sites (cutsOf schema text) := by
  have hlines : (LogicalLine.ofText schema text).foldl stepLine ⟨Outline.empty, 0⟩
      = (cutsOf schema text).foldl (fun st x => Brace.step x.1 st x.2) ⟨Outline.empty, 0⟩ := by
    rw [cutsOf, List.foldl_flatMap]
    simp only [List.foldl_map]
    rfl
  rw [parse, treeOf, hstyle]
  dsimp only [build]
  rw [Outline.sitesAll_finish, hlines, (follows_start.run hfirst).2]
  rfl

namespace Nest

/-- The number of a statement is its place. -/
theorem getElem?_sites {above below : List Cut} {x : Cut}
    (hfirst : start.SectionsFirst (above ++ x :: below)) (hne : isBlank x.2.text = false) :
    (start.sites (above ++ x :: below))[(start.run above).count]?
      = some ⟨x.1.entry x.2.text, (start.run above).around⟩ := by
  obtain ⟨hfollows, hsites⟩ := follows_start.run hfirst.of_append
  have hcount : (start.run above).count = (start.sites above).length := by
    rw [hfollows.count, hsites]
    rfl
  have hsite : (start.run above).site x = [⟨x.1.entry x.2.text, (start.run above).around⟩] :=
    if_neg (by simp [hne])
  rw [sites_append, hcount, List.getElem?_append_right (Nat.le_refl _), Nat.sub_self, sites, hsite]
  rfl

end Nest

end Brace

open Brace

/--
**Every closing brace closes its own opening brace**, if no section is opened inside a brace
that opens none.

In a dialect with braces, a statement has its place in the order of the text, and it lies in
the sections whose braces are open at it on one stack of all braces.  A brace that opens no
section is left out there, so what stands in it lies in the sections around it.  And a
statement lies in a section if and only if its piece comes after the opening brace of that
section and no later than the piece that ends at the matching closing brace.
-/
theorem parse_pairs {schema : Schema} (hstyle : schema.blockStyle = .brace) {text : String}
    (hfirst : Nest.start.SectionsFirst (cutsOf schema text)) {above below : List Cut} {x : Cut}
    (hcuts : cutsOf schema text = above ++ x :: below) (hne : isBlank x.2.text = false) :
    (sitesAll [] 0 (parse schema text))[(Nest.start.run above).count]?
        = some ⟨x.1.entry x.2.text, (Nest.start.run above).around⟩ ∧
      ∀ before inner k, IsSection (cutsOf schema text) before inner k →
        (k ∈ (Nest.start.run above).around ↔
          before.length < above.length ∧ above.length ≤ before.length + inner.length + 1) := by
  refine ⟨?_, fun before inner k hsection => hsection.mem_around hcuts⟩
  rw [sites_parse hstyle hfirst]
  rw [hcuts] at hfirst ⊢
  exact Nest.getElem?_sites hfirst hne

/-- A piece of a text of one line. -/
def cutAt (text piece : String) (mark : Mark) : Cut :=
  (⟨text.toList, text.toList, 1, 1, 0⟩, ⟨piece.toList, mark⟩)

/-- A brace that opens nothing, and a section after its closing brace. -/
theorem parse_pairs_anonymous :
    let text := "a \x7b \x7b x; \x7d b \x7b y; \x7d z; \x7d"
    ∃ s, (sitesAll [] 0 (parse Schema.vyos text))[4]? = some s ∧ s.entry.id = "z" ∧
      0 ∈ s.around ∧ 2 ∉ s.around := by
  intro text
  let first := [cutAt text "a " .opens, cutAt text " " .opens, cutAt text " x" .ends,
    cutAt text " " .closes]
  let second := [cutAt text " b " .opens, cutAt text " y" .ends, cutAt text " " .closes]
  let third := [cutAt text " " .closes, cutAt text "" .ends]
  have hcuts : cutsOf Schema.vyos text = (first ++ second) ++ cutAt text " z" .ends :: third := by
    decide +kernel
  have hinner : IsSection (cutsOf Schema.vyos text) first [cutAt text " y" .ends] 2 :=
    ⟨⟨_, _, _, hcuts, rfl, rfl, by decide +kernel⟩, .ends rfl .nil⟩
  have houter : IsSection (cutsOf Schema.vyos text) []
      (first.tail ++ second ++ [cutAt text " z" .ends]) 0 :=
    ⟨⟨_, _, _, hcuts, rfl, rfl, by decide +kernel⟩,
      .pair [_] _ rfl rfl (.ends rfl .nil)
        (.pair [_] _ rfl rfl (.ends rfl .nil) (.ends rfl .nil))⟩
  obtain ⟨hsite, haround⟩ := parse_pairs rfl (by decide +kernel) hcuts (by decide +kernel)
  have hcount : (Nest.start.run (first ++ second)).count = 4 := by decide +kernel
  rw [hcount] at hsite
  exact ⟨_, hsite, by decide +kernel, (haround _ _ 0 houter).mpr (by decide),
    fun hmem => absurd ((haround _ _ 2 hinner).mp hmem) (by decide)⟩

/-- The closing brace of a section inside a brace that opens none is taken for that brace's own, and
the section goes on to the next. -/
theorem parse_section_in_anonymous :
    let text := "\x7b a \x7b b; \x7d c; \x7d"
    let before := [cutAt text "" .opens]
    let inner := [cutAt text " b" .ends]
    let above := before ++ cutAt text " a " .opens :: (inner ++ [cutAt text " " .closes])
    Balanced (cutsOf Schema.juniperJunos text) ∧
    IsSection (cutsOf Schema.juniperJunos text) before inner 0 ∧
    (∃ below, cutsOf Schema.juniperJunos text = above ++ cutAt text " c" .ends :: below) ∧
    ∃ s, (sitesAll [] 0 (parse Schema.juniperJunos text))[2]? = some s ∧ s.entry.id = "c" ∧
      0 ∈ s.around := by
  intro text before inner above
  have hcuts : cutsOf Schema.juniperJunos text = above ++ cutAt text " c" .ends ::
      [cutAt text " " .closes, cutAt text "" .ends] := by
    decide +kernel
  refine ⟨?_, ⟨⟨_, _, _, hcuts, rfl, rfl, by decide +kernel⟩, .ends rfl .nil⟩, ⟨_, hcuts⟩, ?_⟩
  · rw [hcuts]
    exact .pair [_, _, _, _] _ rfl rfl (.pair [_] _ rfl rfl (.ends rfl .nil) (.ends rfl .nil))
      (.ends rfl .nil)
  · decide +kernel

end DeviceLint
