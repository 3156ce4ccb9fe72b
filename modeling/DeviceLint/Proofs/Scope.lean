/-
A statement lies in the nearest one before it that is indented less.

The reader never looks for that statement, but the forest it makes of the lines tells.
In a block, that is a line with the deeper lines after it, the line is shallower than all
of the others, so it is the nearest for those that have none nearer within the block.
After a block nothing in it is shallower than a line that has no shallower line since:
such a line is no deeper than the first after the block, and this one is no deeper than
the block's own line.

Parents are given by the places of nodes in source order, at which the lines stand as
well.
-/
import DeviceLint.Proofs.Forest
import DeviceLint.Proofs.Line
import DeviceLint.Proofs.Listing
import DeviceLint.Schema.Builtin
import Mathlib.Data.List.GetD

namespace DeviceLint

open Node

namespace Indent

variable {l : LogicalLine} {inner outer : List LogicalLine}

/-! ### The nodes of a forest -/

theorem blockNode_eq (l : LogicalLine) (below : List Node) : ∃ last,
    blockNode l below = { l.node (if below.isEmpty then .leaf else .group) with
      children := below, span := ⟨l.first, last⟩ } ∧
    (l.span.last ≤ last) ∧ (∀ c ∈ below, c.span.last ≤ last) ∧
    ∀ k, l.span.last ≤ k → (∀ c ∈ below, c.span.last ≤ k) → last ≤ k := by
  have hspan : ∀ kind, (l.node kind).span = l.span := fun _ => rfl
  have hfirst : l.span.first = l.first := rfl
  unfold blockNode
  -- the node is made a variable before it is compared, for its id takes long to unfold
  cases below with
  | nil =>
      have hleaf : (l.node .leaf).children = [] := rfl
      rw [List.isEmpty_nil, if_pos rfl, if_pos rfl, ← hfirst, ← hspan .leaf]
      generalize l.node .leaf = n at *
      obtain ⟨id, raw, params, kind, children, span⟩ := n
      obtain rfl : children = [] := hleaf
      exact ⟨span.last, rfl, Nat.le_refl _, by simp, fun k hk _ => hk⟩
  | cons m ms =>
      rw [List.isEmpty_cons, if_neg (by simp), if_neg (by simp), ← hfirst, ← hspan .group]
      generalize l.node .group = n
      exact enclosing_eq { n with children := m :: ms }

theorem children_blockNode (l : LogicalLine) (below : List Node) :
    (blockNode l below).children = below := by
  obtain ⟨last, heq, -⟩ := blockNode_eq l below
  rw [heq]

theorem entry_blockNode (l : LogicalLine) (below : List Node) :
    (blockNode l below).entry = l.entry l.statement := by
  obtain ⟨last, heq, -⟩ := blockNode_eq l below
  rw [heq]
  rfl

theorem kind_blockNode (l : LogicalLine) (below : List Node) :
    (blockNode l below).kind = if below.isEmpty then .leaf else .group := by
  obtain ⟨last, heq, -⟩ := blockNode_eq l below
  rw [heq]
  rfl

/-- A block is listed as its line, the lines of its inside and the lines after it. -/
theorem preorderAll_block (h : IsBlock l inner outer) :
    preorderAll (forest (l :: (inner ++ outer)))
      = blockNode l (forest inner) ::
        (preorderAll (forest inner) ++ preorderAll (forest outer)) := by
  rw [forest_block h, preorderAll_cons, preorder_eq, children_blockNode, List.cons_append]

/-- The nodes are those of the lines in order. -/
theorem entries_forest (ls : List LogicalLine) :
    (preorderAll (forest ls)).map entry = ls.map fun l => l.entry l.statement := by
  induction ls using block_induction with
  | nil => simp
  | block l inner outer h hinner houter =>
      rw [preorderAll_block h, List.map_cons, List.map_append, hinner, houter, entry_blockNode,
        List.map_cons, List.map_append]

theorem length_preorderAll_forest (ls : List LogicalLine) :
    (preorderAll (forest ls)).length = ls.length := by
  have h := congrArg List.length (entries_forest ls)
  rwa [List.length_map, List.length_map] at h

/-! ### Sections -/

/-- The kinds of lines, each seen from the lines after it. -/
def kinds : List LogicalLine → List NodeKind
  | [] => []
  | l :: ls => (if opens l ls then .group else .leaf) :: kinds ls

/-- Lines that the last line before them does not open have no say in the kinds before them. -/
theorem kinds_append {ls ms : List LogicalLine}
    (h : ∀ l ∈ ls.getLast?, ∀ m ∈ ms.head?, m.indent ≤ l.indent) :
    kinds (ls ++ ms) = kinds ls ++ kinds ms := by
  induction ls with
  | nil => rfl
  | cons l ls ih =>
      cases ls with
      | nil =>
          have hopens : opens l ms = false := by
            cases ms with
            | nil => rfl
            | cons m ms => simpa [opens] using h l rfl m rfl
          rw [List.singleton_append, kinds, hopens]
          rfl
      | cons l' ls =>
          rw [List.cons_append, kinds, ih (fun x hx => h x (by simpa using hx)), kinds]
          rfl

theorem kinds_forest (ls : List LogicalLine) :
    (preorderAll (forest ls)).map (·.kind) = kinds ls := by
  induction ls using block_induction with
  | nil => simp [kinds]
  | block l inner outer h hinner houter =>
      have hopens : opens l (inner ++ outer) = !(forest inner).isEmpty := by
        cases inner with
        | nil =>
            cases outer with
            | nil => simp [opens]
            | cons m ms => simpa [opens, isDeeper] using h.outer m rfl
        | cons m ms =>
            have hbelow : (forest (m :: ms)).isEmpty = false := by simp [forest_eq_nil_iff]
            rw [hbelow]
            exact h.inner m List.mem_cons_self
      have hseam : ∀ m ∈ inner.getLast?, ∀ m' ∈ outer.head?, m'.indent ≤ m.indent := by
        intro m hm m' hm'
        have hdeeper := h.inner m (List.mem_of_getLast? hm)
        have hnot := h.outer m' hm'
        simp only [isDeeper, decide_eq_true_eq, decide_eq_false_iff_not] at hdeeper hnot
        omega
      rw [preorderAll_block h, List.map_cons, List.map_append, hinner, houter, kind_blockNode,
        kinds, kinds_append hseam, hopens]
      cases (forest inner).isEmpty <;> rfl

theorem kinds_getElem? (ls : List LogicalLine) :
    ∀ i, (kinds ls)[i]? = ls[i]?.map fun l =>
      if ls[i + 1]?.any (l.indent < ·.indent) then .group else .leaf := by
  induction ls with
  | nil => intro i; rfl
  | cons l ls ih =>
      intro i
      cases i with
      | zero => cases ls <;> simp [kinds, opens]
      | succ i => simp [kinds, ih]

/-! ### Where sections end -/

theorem last_blockNode {l : LogicalLine} {below : List Node} {last : Nat} (hl : l.span.last ≤ last)
    (hbelow : ∀ n ∈ below, n.span.last ≤ last) (hreach : ∃ n ∈ below, n.span.last = last) :
    (blockNode l below).span.last = last := by
  obtain ⟨k, heq, -, hge, hleast⟩ := blockNode_eq l below
  obtain ⟨n, hn, hlast⟩ := hreach
  have hle := hleast last hl hbelow
  have hn := hge n hn
  rw [heq]
  show k = last
  omega

/-- Lines that end one after the other. -/
def EndInOrder (ls : List LogicalLine) : Prop :=
  (∀ l ∈ ls, l.span.last = l.last) ∧ ls.Pairwise fun l m => l.last ≤ m.last

theorem endInOrder {hi : Nat} {ls : List LogicalLine} :
    ∀ {lo}, LogicalLine.Ordered hi lo ls → EndInOrder ls := by
  induction ls with
  | nil => intro lo _; exact ⟨by simp, List.Pairwise.nil⟩
  | cons l ls ih =>
      intro lo h
      obtain ⟨-, hle, -, hrest⟩ := h
      obtain ⟨hspan, hmono⟩ := ih hrest
      refine ⟨List.forall_mem_cons.mpr ⟨Nat.max_eq_right hle, hspan⟩,
        List.pairwise_cons.mpr ⟨?_, hmono⟩⟩
      intro m hm
      have hbounds := hrest.bounds m hm
      omega

theorem EndInOrder.block (h : EndInOrder (l :: (inner ++ outer))) :
    l.span.last = l.last ∧ EndInOrder inner ∧ EndInOrder outer ∧
      (∀ m ∈ inner, l.last ≤ m.last) ∧ ∀ k ∈ l :: inner, ∀ m ∈ outer, k.last ≤ m.last := by
  obtain ⟨hspan, hmono⟩ := h
  rw [List.forall_mem_cons, List.forall_mem_append] at hspan
  rw [← List.cons_append, List.pairwise_append, List.pairwise_cons] at hmono
  obtain ⟨⟨hfirst, hinner⟩, houter, hacross⟩ := hmono
  exact ⟨hspan.1, ⟨hspan.2.1, hinner⟩, ⟨hspan.2.2, houter⟩, hfirst, hacross⟩

/-- The nodes of lines reach to the end of the last of them and no further. -/
theorem forest_reaches {ls : List LogicalLine} (hls : EndInOrder ls) :
    ∀ m ∈ ls.getLast?, (∀ n ∈ forest ls, n.span.last ≤ m.last) ∧
      ∃ n ∈ forest ls, n.span.last = m.last := by
  induction ls using block_induction with
  | nil => simp
  | block l inner outer h hinner houter =>
      obtain ⟨hl, hin, hout, hfirst, hacross⟩ := hls.block
      have hinner := hinner hin
      have houter := houter hout
      -- The block ends where the last of its lines does.
      have hnode : ∃ k ∈ l :: inner, (blockNode l (forest inner)).span.last = k.last ∧
          (l :: inner).getLast? = some k := by
        cases hlast : inner.getLast? with
        | none =>
            obtain rfl : inner = [] := List.getLast?_eq_none_iff.mp hlast
            refine ⟨l, List.mem_cons_self, ?_, rfl⟩
            rw [forest_nil]
            exact hl
        | some k =>
            have hk : k ∈ inner := List.mem_of_getLast? hlast
            obtain ⟨hle, hreach⟩ := hinner k hlast
            refine ⟨k, List.mem_cons_of_mem _ hk, last_blockNode ?_ hle hreach, ?_⟩
            · rw [hl]
              exact hfirst k hk
            · rw [List.getLast?_cons, hlast]
              rfl
      obtain ⟨k, hk, hnode, hlast⟩ := hnode
      intro m hm
      rw [forest_block h, List.forall_mem_cons]
      rw [← List.cons_append, List.getLast?_append, hlast] at hm
      cases hrest : outer.getLast? with
      | none =>
          obtain rfl : outer = [] := List.getLast?_eq_none_iff.mp hrest
          obtain rfl : k = m := by simpa using hm
          exact ⟨⟨Nat.le_of_eq hnode, by simp⟩, _, List.mem_cons_self, hnode⟩
      | some k' =>
          obtain rfl : k' = m := by simpa [hrest] using hm
          obtain ⟨hle, n, hn, hreach⟩ := houter k' hrest
          have hkm := hacross k hk k' (List.mem_of_getLast? hrest)
          exact ⟨⟨by omega, hle⟩, n, List.mem_cons_of_mem _ hn, hreach⟩

/-- A section ends where the last line below it does. -/
theorem section_reaches {ls : List LogicalLine} (hls : EndInOrder ls) :
    ∀ n ∈ preorderAll (forest ls), n.kind = .group →
      ∃ d m, (preorderAll n.children).getLast? = some d ∧ m ∈ ls ∧
        d.entry = m.entry m.statement ∧ n.span.last = m.last := by
  induction ls using block_induction with
  | nil => simp
  | block l inner outer h hinner houter =>
      obtain ⟨hl, hin, hout, hfirst, -⟩ := hls.block
      rw [preorderAll_block h, List.forall_mem_cons, List.forall_mem_append]
      refine ⟨?_, ?_, ?_⟩
      · intro hkind
        rw [kind_blockNode] at hkind
        cases hlast : inner.getLast? with
        | none =>
            obtain rfl : inner = [] := List.getLast?_eq_none_iff.mp hlast
            simp at hkind
        | some m =>
            have hm : m ∈ inner := List.mem_of_getLast? hlast
            have hentries := congrArg List.getLast? (entries_forest inner)
            rw [List.getLast?_map, List.getLast?_map, hlast, Option.map_some,
              Option.map_eq_some_iff] at hentries
            obtain ⟨d, hd, hentry⟩ := hentries
            obtain ⟨hle, hreach⟩ := forest_reaches hin m hlast
            refine ⟨d, m, ?_, by simp [hm], hentry, last_blockNode ?_ hle hreach⟩
            · rw [children_blockNode]
              exact hd
            · rw [hl]
              exact hfirst m hm
      · intro n hn hkind
        obtain ⟨d, m, hd, hm, hrest⟩ := hinner hin n hn hkind
        exact ⟨d, m, hd, by simp [hm], hrest⟩
      · intro n hn hkind
        obtain ⟨d, m, hd, hm, hrest⟩ := houter hout n hn hkind
        exact ⟨d, m, hd, by simp [hm], hrest⟩

/-! ### Parents -/

/-- The last number before number `i` of a list that is smaller, by its place. -/
def nearestSmaller (ws : List Nat) (i : Nat) : Option Nat :=
  ((List.range i).filter fun j => ws.getD j 0 < ws.getD i 0).getLast?

theorem nearestSmaller_append_left (vs ws : List Nat) {i : Nat} (h : i < vs.length) :
    nearestSmaller (vs ++ ws) i = nearestSmaller vs i := by
  have hget : ∀ j ≤ i, (vs ++ ws).getD j 0 = vs.getD j 0 :=
    fun j hj => List.getD_append vs ws 0 j (by omega)
  unfold nearestSmaller
  congr 1
  apply List.filter_congr
  intro j hj
  rw [hget i (Nat.le_refl i), hget j (Nat.le_of_lt (List.mem_range.mp hj))]

/-- Beyond the numbers of a second list the search goes on in the first. -/
theorem nearestSmaller_append (vs ws : List Nat) (i : Nat) :
    nearestSmaller (vs ++ ws) (vs.length + i)
      = ((nearestSmaller ws i).map (vs.length + ·)).or
        ((List.range vs.length).filter fun j => vs.getD j 0 < ws.getD i 0).getLast? := by
  have hright : ∀ j, (vs ++ ws).getD (vs.length + j) 0 = ws.getD j 0 := by
    intro j
    rw [List.getD_append_right vs ws 0 _ (by omega), Nat.add_sub_cancel_left]
  unfold nearestSmaller
  rw [List.range_add, List.filter_append, List.getLast?_append, List.filter_map,
    List.getLast?_map]
  congr 2
  · congr 1
    apply List.filter_congr
    intro j _
    show decide ((vs ++ ws).getD (vs.length + j) 0 < (vs ++ ws).getD (vs.length + i) 0) = _
    rw [hright, hright]
  · apply List.filter_congr
    intro j hj
    rw [hright, List.getD_append vs ws 0 j (List.mem_range.mp hj)]

theorem nearestSmaller_eq_none_iff {ws : List Nat} {i : Nat} :
    nearestSmaller ws i = none ↔ ∀ j < i, ws.getD i 0 ≤ ws.getD j 0 := by
  simp [nearestSmaller]

end Indent

namespace Node

mutual

/-- The parents of a node and of all nodes below it.  Nodes are told by their place in source
order, which starts with `place` here, and `above` is the parent of the node itself. -/
def parents (above : Option Nat) (place : Nat) : Node → List (Option Nat)
  | ⟨_, _, _, _, children, _⟩ => above :: parentsAll (some place) (place + 1) children

/-- The parents of all nodes of one tree after the other. -/
def parentsAll (above : Option Nat) (place : Nat) : List Node → List (Option Nat)
  | [] => []
  | n :: ns => parents above place n ++ parentsAll above (place + n.preorder.length) ns

end

theorem parents_eq (above : Option Nat) (place : Nat) (n : Node) :
    n.parents above place = above :: parentsAll (some place) (place + 1) n.children := by
  cases n
  rw [parents]

end Node

namespace Indent

variable {l : LogicalLine} {inner outer : List LogicalLine}

/-- In a block the line itself is the parent where there is none nearer. -/
theorem nearestSmaller_inner (h : IsBlock l inner outer) {i : Nat} (hi : i < inner.length) :
    nearestSmaller ((l :: (inner ++ outer)).map (·.indent)) (i + 1)
      = ((nearestSmaller (inner.map (·.indent)) i).map (1 + ·)).or (some 0) := by
  have hlength : i < (inner.map (·.indent)).length := by simpa using hi
  have hget : ((inner ++ outer).map (·.indent)).getD i 0 = (inner[i]).indent := by
    rw [List.map_append, List.getD_append _ _ _ _ hlength, List.getD_eq_getElem _ _ hlength,
      List.getElem_map]
  have hdeeper : l.indent < (inner[i]).indent := by
    simpa [isDeeper] using h.inner inner[i] (List.getElem_mem hi)
  have happend := nearestSmaller_append [l.indent] ((inner ++ outer).map (·.indent)) i
  rw [hget, List.map_append, nearestSmaller_append_left _ _ hlength] at happend
  rw [List.map_cons, List.map_append, Nat.add_comm i 1]
  refine happend.trans ?_
  simp [hdeeper]

/-- After a block nothing in it is a parent any more. -/
theorem nearestSmaller_outer (h : IsBlock l inner outer) {i : Nat} (hi : i < outer.length) :
    nearestSmaller ((l :: (inner ++ outer)).map (·.indent)) (inner.length + 1 + i)
      = (nearestSmaller (outer.map (·.indent)) i).map (inner.length + 1 + ·) := by
  have happend := nearestSmaller_append ((l :: inner).map (·.indent)) (outer.map (·.indent)) i
  rw [List.length_map, List.length_cons] at happend
  rw [← List.cons_append, List.map_append, happend]
  cases hnearest : nearestSmaller (outer.map (·.indent)) i with
  | some j => rfl
  | none =>
      rw [nearestSmaller_eq_none_iff] at hnearest
      -- The line is not deeper than the first after the block, hence than any line of it.
      have hle : (outer.map (·.indent)).getD i 0 ≤ l.indent := by
        obtain ⟨m, ms, rfl⟩ := List.exists_cons_of_length_pos (Nat.zero_lt_of_lt hi)
        have hm : m.indent ≤ l.indent := by simpa [isDeeper] using h.outer m rfl
        cases i with
        | zero => exact hm
        | succ i => exact Nat.le_trans (hnearest 0 (Nat.zero_lt_succ i)) hm
      have hnone : (List.range (inner.length + 1)).filter (fun j =>
          ((l :: inner).map (·.indent)).getD j 0 < (outer.map (·.indent)).getD i 0) = [] := by
        rw [List.filter_eq_nil_iff]
        intro j hj
        have hlength : j < ((l :: inner).map (·.indent)).length := by simpa using hj
        have hmem := List.getElem_mem hlength
        rw [List.getD_eq_getElem _ _ hlength, decide_eq_true_eq]
        obtain ⟨m, hm, hindent⟩ := List.mem_map.mp hmem
        rw [← hindent]
        rcases List.mem_cons.mp hm with rfl | hm
        · omega
        · have hdeeper : l.indent < m.indent := by simpa [isDeeper] using h.inner m hm
          omega
      rw [hnone]
      rfl

/-- **A line's parent is the nearest line before it that is indented less.** -/
theorem parentsAll_forest (ls : List LogicalLine) :
    ∀ (above : Option Nat) (place : Nat), parentsAll above place (forest ls)
      = (List.range ls.length).map fun i =>
        ((nearestSmaller (ls.map (·.indent)) i).map (place + ·)).or above := by
  induction ls using block_induction with
  | nil => intro above place; simp [parentsAll]
  | block l inner outer h hinner houter =>
      intro above place
      rw [forest_block h, parentsAll, parents_eq, children_blockNode, preorder_eq,
        children_blockNode, hinner, houter, List.length_cons, length_preorderAll_forest,
        List.length_cons, List.length_append, List.range_succ_eq_map, List.map_cons,
        List.cons_append]
      congr 1
      rw [List.map_map, List.range_add, List.map_append, List.map_map]
      congr 1
      · apply List.map_congr_left
        intro i hi
        show _ = ((nearestSmaller _ (i + 1)).map (place + ·)).or above
        rw [nearestSmaller_inner h (List.mem_range.mp hi), Option.map_or, Option.map_map]
        cases nearestSmaller (inner.map (·.indent)) i with
        | none => rfl
        | some j => simp [Nat.add_assoc]
      · apply List.map_congr_left
        intro i hi
        show _ = ((nearestSmaller _ (inner.length + i + 1)).map (place + ·)).or above
        rw [Nat.add_right_comm, nearestSmaller_outer h (List.mem_range.mp hi), Option.map_map]
        cases nearestSmaller (outer.map (·.indent)) i with
        | none => rfl
        | some j => simp [Nat.add_assoc]

end Indent

open LogicalLine Indent

/--
**A statement lies in the nearest one before it that is indented less.**

Under a schema that nests by indentation, for a text without terminators: the nodes are
those of the logical lines in order; the parent of each is the last line before it whose
indentation is smaller, if there is one; a node is a section if and only if the next line
is deeper; and a section ends where the line of the last node below it ends.
-/
theorem parse_nearest_shallower {schema : Schema} (hstyle : schema.blockStyle = .indent)
    {text : String} (hterm : ∀ l ∈ ofText schema text, schema.isTerminator l.statement = false) :
    let lines := ofText schema text
    let tree := parse schema text
    (preorderAll tree).map Node.entry = lines.map (fun l => l.entry l.statement) ∧
    parentsAll none 0 tree
      = (List.range lines.length).map (nearestSmaller (lines.map (·.indent))) ∧
    (∀ i n l, (preorderAll tree)[i]? = some n → lines[i]? = some l →
      (n.kind = .group ↔ ∃ next, lines[i + 1]? = some next ∧ l.indent < next.indent)) ∧
    ∀ n ∈ preorderAll tree, n.kind = .group →
      ∃ d m, (preorderAll n.children).getLast? = some d ∧ m ∈ lines ∧
        d.entry = m.entry m.statement ∧ n.span.last = m.last := by
  have htree : parse schema text = forest (ofText schema text) := by
    rw [parse, treeOf, hstyle]
    exact build_eq_forest hterm
  dsimp only
  rw [htree]
  refine ⟨entries_forest _, ?_, ?_, section_reaches ?_⟩
  · rw [parentsAll_forest]
    apply List.map_congr_left
    intro i _
    cases nearestSmaller ((ofText schema text).map (·.indent)) i with
    | none => rfl
    | some j => simp
  · intro i n l hn hl
    have hkind := congrArg (·[i]?) (kinds_forest (ofText schema text))
    simp only [List.getElem?_map, hn, kinds_getElem?, hl, Option.map_some,
      Option.some.injEq] at hkind
    rw [hkind]
    simp [Option.any_eq_true]
  · exact endInOrder (ofText_ordered schema text)

/-- Lines with dedents to columns that no line before them has. -/
def unevenPorts : String :=
  "interface Gi0/2\n    mode access\n  vlan 10\n   no shutdown\nhostname r2\n"

theorem parse_nearest_shallower_uneven :
    (∀ l ∈ ofText Schema.ciscoIos unevenPorts,
      Schema.ciscoIos.isTerminator l.statement = false) ∧
    parentsAll none 0 (parse Schema.ciscoIos unevenPorts)
      = [none, some 0, some 0, some 2, none] := by
  have hterm : ((ofText Schema.ciscoIos unevenPorts).all fun l =>
      !Schema.ciscoIos.isTerminator l.statement) = true := by decide +kernel
  have hterm : ∀ l ∈ ofText Schema.ciscoIos unevenPorts,
      Schema.ciscoIos.isTerminator l.statement = false := by simpa using hterm
  have hindents : (ofText Schema.ciscoIos unevenPorts).map (·.indent) = [0, 4, 2, 3, 0] := by
    decide +kernel
  obtain ⟨-, hparents, -⟩ := parse_nearest_shallower rfl hterm
  refine ⟨hterm, hparents.trans ?_⟩
  rw [hindents, ← List.length_map (·.indent), hindents]
  decide

end DeviceLint
