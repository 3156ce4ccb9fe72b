/-
What comes after the terminator of an indented block.

A terminator in the column of the block before it ends that block and nothing else: the
block has been closed by its own indentation, and the terminator finds it so.  For this the
block has to be open.  A statement without deeper lines after it is a leaf, the terminator
then finds nothing that its column closes, and closes the section that the statement lies
in.  So the next statement in that column lies where the block's own statement does if
there are lines in the block, and outside of that section if there are none.

The reader is followed on what it has open: the places of the sections and their columns.
-/
import DeviceLint.Proofs.Line
import DeviceLint.Proofs.Site
import DeviceLint.Schema.Builtin

namespace DeviceLint

open Node

/-! ### Columns of open sections -/

namespace Outline

/-- The columns, or other tags, of the open sections, the innermost first. -/
def columns {α : Type} (o : Outline α) : List α := o.opened.map (·.tag)

variable {α : Type}

theorem columns_add (o : Outline α) (n : Node) : (o.add n).columns = o.columns :=
  map_opened_add (fun _ _ => rfl) o n

theorem columns_extendLast (o : Outline α) (last : Nat) :
    (o.extendLast last).columns = o.columns := by
  rcases extendLast_eq o last with heq | ⟨ns, n, -, heq⟩
  · rw [heq]
  · rw [heq, columns, map_opened_withScope (fun _ _ => rfl), columns]

theorem columns_closeAt (o : Outline α) (last : Nat) :
    (o.closeAt last).columns = o.columns.drop 1 :=
  map_opened_closeAt (fun _ _ => rfl) o last

theorem columns_closeMany (k : Nat) (o : Outline α) :
    (closeMany k o).columns = o.columns.drop k :=
  map_opened_closeMany (fun _ _ => rfl) k o

end Outline

namespace Indent

/-- How many of the sections that are open at some columns a line at `depth` lies outside of. -/
def outside (depth : Nat) (columns : List Nat) : Nat :=
  (columns.takeWhile (decide <| depth ≤ ·)).length

theorem shallower_eq (depth : Nat) (o : Outline Nat) :
    shallower depth o = outside depth o.columns := by
  rw [shallower, outside, Outline.columns, List.takeWhile_map, List.length_map]
  rfl

/-- What is known of an outline: where the nodes stand, and the places and columns of the open
sections. -/
structure Stands (o : Outline Nat) (sites : List Site) (places columns : List Nat) : Prop where
  survey : o.survey = ⟨sites, places⟩
  columns : o.columns = columns

variable {schema : Schema} {o : Outline Nat} {sites : List Site} {places columns : List Nat}
  {l : LogicalLine}

theorem stands_self (o : Outline Nat) : Stands o o.survey.sites o.survey.opened o.columns :=
  ⟨rfl, rfl⟩

theorem Stands.closeMany (h : Stands o sites places columns) (k : Nat) :
    Stands (Outline.closeMany k o) sites (places.drop k) (columns.drop k) where
  survey := by
    rw [Outline.survey_closeMany, h.survey]
    rfl
  columns := by rw [Outline.columns_closeMany, h.columns]

theorem sites_node (l : LogicalLine) (kind : NodeKind) (around : List Nat) (place : Nat) :
    (l.node kind).sites around place = [⟨l.entry l.statement, around⟩] :=
  sites_childless rfl

/-- A statement lies in the sections that its column leaves open. -/
theorem Stands.statement (h : Stands o sites places columns)
    (hl : schema.isTerminator l.statement = false) (opening : Bool) :
    let k := outside l.indent columns
    Stands (step schema o l opening) (sites ++ [⟨l.entry l.statement, places.drop k⟩])
      (if opening then sites.length :: places.drop k else places.drop k)
      (if opening then l.indent :: columns.drop k else columns.drop k) := by
  have hclosed := h.closeMany (outside l.indent columns)
  unfold step
  rw [shallower_eq, h.columns]
  dsimp only
  rw [if_neg (by simp [hl])]
  generalize Outline.closeMany (outside l.indent columns) o = o at hclosed
  cases opening with
  | true =>
      constructor
      · simp only [if_pos, Outline.survey_push, hclosed.survey, Survey.enter, sites_node]
      · simp only [if_pos]
        rw [← hclosed.columns]
        rfl
  | false =>
      constructor
      · simp only [Bool.false_eq_true, if_false, Outline.survey_add, hclosed.survey, Survey.put,
          sites_node]
      · simp only [Bool.false_eq_true, if_false, Outline.columns_add, hclosed.columns]

/-- A terminator closes the sections its column closes, and the innermost if it closes none. -/
theorem Stands.terminator (h : Stands o sites places columns)
    (hl : schema.isTerminator l.statement = true) (opening : Bool) :
    let k := max 1 (outside l.indent columns)
    Stands (step schema o l opening) sites (places.drop k) (columns.drop k) := by
  have hclosed := h.closeMany (outside l.indent columns)
  unfold step
  rw [shallower_eq, h.columns]
  dsimp only
  rw [if_pos hl]
  cases hk : outside l.indent columns with
  | zero =>
      rw [hk] at hclosed
      constructor
      · rw [if_pos (by rfl), Outline.survey_closeAt, hclosed.survey]
        rfl
      · rw [if_pos (by rfl), Outline.columns_closeAt, hclosed.columns]
        rfl
  | succ k =>
      rw [hk] at hclosed
      rw [if_neg (by simp), Nat.max_eq_right (by omega)]
      split
      · exact hclosed
      · exact ⟨by rw [Outline.survey_extendLast, hclosed.survey],
          by rw [Outline.columns_extendLast, hclosed.columns]⟩

/-! ### Lines of a block -/

/-- A line lies in the sections around one that it is deeper than. -/
theorem outside_le {depth d : Nat} (h : d < depth) (inner columns : List Nat) :
    outside depth (inner ++ d :: columns) ≤ inner.length := by
  unfold outside
  induction inner with
  | nil => simp [List.takeWhile_cons_of_neg, h]
  | cons e inner ih =>
      rw [List.cons_append, List.takeWhile_cons, List.length_cons]
      split
      · exact Nat.succ_le_succ ih
      · exact Nat.zero_le _

theorem outside_append {depth : Nat} {inner columns : List Nat} (hinner : ∀ d ∈ inner, depth ≤ d)
    (hcolumns : ∀ d ∈ columns.head?, d < depth) :
    outside depth (inner ++ columns) = inner.length := by
  have hnone : columns.takeWhile (decide <| depth ≤ ·) = [] := by
    cases columns with
    | nil => rfl
    | cons d columns => exact List.takeWhile_cons_of_neg (by simpa using hcolumns d rfl)
  rw [outside, List.takeWhile_append_of_pos (by simpa using hinner), hnone, List.append_nil]

/-- The sections that a line leaves open are indented less. -/
theorem head?_drop_outside (depth : Nat) (columns : List Nat) :
    ∀ d ∈ (columns.drop (outside depth columns)).head?, d < depth := by
  have hsplit := List.takeWhile_append_dropWhile (p := (decide <| depth ≤ ·)) (l := columns)
  have hdrop : columns.drop (outside depth columns) = columns.dropWhile (decide <| depth ≤ ·) := by
    conv_lhs => arg 2; rw [← hsplit]
    exact List.drop_left' rfl
  intro d hd
  have hnot := List.head?_dropWhile_not (decide <| depth ≤ ·) columns
  rw [hdrop, Option.mem_def] at hd
  simpa [hd] using hnot

theorem outside_drop_outside (depth : Nat) (columns : List Nat) :
    outside depth (columns.drop (outside depth columns)) = 0 :=
  outside_append (List.forall_mem_nil _) (head?_drop_outside depth columns)

/-- The outline is in a section at a place and a column, within others or not. -/
def InBlock (depth place : Nat) (places columns : List Nat) (o : Outline Nat) : Prop :=
  ∃ sites inner deeper, inner.length = deeper.length ∧ (∀ d ∈ deeper, depth ≤ d) ∧
    Stands o sites (inner ++ place :: places) (deeper ++ depth :: columns)

theorem InBlock.step {depth place : Nat} (h : InBlock depth place places columns o)
    (hl : schema.isTerminator l.statement = false) (hdeeper : depth < l.indent)
    (opening : Bool) : InBlock depth place places columns (step schema o l opening) := by
  obtain ⟨sites, inner, deeper, hlength, hle, hstands⟩ := h
  have hk := outside_le hdeeper deeper columns
  have hnext := hstands.statement hl opening
  dsimp only at hnext
  generalize outside l.indent (deeper ++ depth :: columns) = k at hk hnext
  rw [List.drop_append_of_le_length (by omega), List.drop_append_of_le_length hk] at hnext
  have hdrop : (inner.drop k).length = (deeper.drop k).length := by simp [hlength]
  have hrest : ∀ d ∈ deeper.drop k, depth ≤ d := fun d hd => hle d (List.mem_of_mem_drop hd)
  cases opening with
  | true =>
      refine ⟨_, sites.length :: inner.drop k, l.indent :: deeper.drop k, by simp [hlength], ?_,
        by simpa using hnext⟩
      exact List.forall_mem_cons.mpr ⟨Nat.le_of_lt hdeeper, hrest⟩
  | false => exact ⟨_, inner.drop k, deeper.drop k, hdrop, hrest, by simpa using hnext⟩

/-- Deeper lines stay in a block. -/
theorem InBlock.steps {depth place : Nat} {body : List LogicalLine}
    (hbody : ∀ l ∈ body, depth < l.indent ∧ schema.isTerminator l.statement = false)
    (rest : List LogicalLine) :
    ∀ {o : Outline Nat}, InBlock depth place places columns o →
      ∃ o', steps schema o (body ++ rest) = steps schema o' rest ∧
        InBlock depth place places columns o' := by
  induction body with
  | nil => exact fun h => ⟨_, rfl, h⟩
  | cons l body ih =>
      intro o h
      rw [List.forall_mem_cons] at hbody
      rw [List.cons_append, Indent.steps]
      exact ih hbody.2 (h.step hbody.1.2 hbody.1.1 _)

/-- A terminator in the column of a block ends it. -/
theorem InBlock.exit {depth place : Nat} (h : InBlock depth place places columns o)
    (hcolumns : ∀ d ∈ columns.head?, d < depth) (hl : schema.isTerminator l.statement = true)
    (hcolumn : l.indent = depth) (opening : Bool) :
    ∃ sites, Stands (Indent.step schema o l opening) sites places columns := by
  obtain ⟨sites, inner, deeper, hlength, hle, hstands⟩ := h
  have hk : outside l.indent ((deeper ++ [depth]) ++ columns) = (deeper ++ [depth]).length := by
    rw [hcolumn]
    refine outside_append ?_ hcolumns
    rw [List.forall_mem_append, List.forall_mem_singleton]
    exact ⟨hle, Nat.le_refl depth⟩
  have hnext := hstands.terminator hl opening
  dsimp only at hnext
  rw [List.append_cons inner, List.append_cons deeper, hk, Nat.max_eq_right (by simp),
    List.drop_left' rfl, List.drop_left' (by simp [hlength])] at hnext
  exact ⟨sites, hnext⟩

/-! ### After the terminator -/

theorem sites_prefix_step (o : Outline Nat) (l : LogicalLine) (opening : Bool) :
    o.survey.sites <+: (step schema o l opening).survey.sites := by
  cases hl : schema.isTerminator l.statement with
  | true =>
      have hsurvey := ((stands_self o).terminator hl opening).survey
      exact ⟨[], (List.append_nil _).trans (congrArg Survey.sites hsurvey).symm⟩
  | false =>
      rw [((stands_self o).statement hl opening).survey]
      exact List.prefix_append _ _

theorem sites_prefix_steps (ls : List LogicalLine) :
    ∀ o : Outline Nat, o.survey.sites <+: (steps schema o ls).survey.sites := by
  induction ls with
  | nil => exact fun o => List.prefix_rfl
  | cons l ls ih => exact fun o => (sites_prefix_step o l _).trans (ih _)

theorem exists_steps (schema : Schema) (ls rest : List LogicalLine) :
    ∀ o : Outline Nat, ∃ o', steps schema o (ls ++ rest) = steps schema o' rest := by
  induction ls with
  | nil => exact fun o => ⟨o, rfl⟩
  | cons l ls ih => exact fun o => ih _

/-- A statement stands in the sections that its column leaves open, whatever comes after it. -/
theorem Stands.mem_sites (h : Stands o sites places columns)
    (hl : schema.isTerminator l.statement = false) (ls : List LogicalLine) :
    (⟨l.entry l.statement, places.drop (outside l.indent columns)⟩ : Site)
      ∈ (steps schema o (l :: ls)).survey.sites := by
  refine (sites_prefix_steps ls _).subset ?_
  rw [(h.statement hl (opens l ls)).survey]
  simp

variable {block exit next : LogicalLine} {body : List LogicalLine}

/-- After a block and its terminator the sections are open that the block lies in. -/
theorem Stands.exit_block (h : Stands o sites places columns)
    (hblock : schema.isTerminator block.statement = false)
    (hbody : ∀ l ∈ body, block.indent < l.indent ∧ schema.isTerminator l.statement = false)
    (hne : body ≠ []) (hexit : schema.isTerminator exit.statement = true)
    (hcolumn : exit.indent = block.indent) (rest : List LogicalLine) :
    let k := outside block.indent columns
    ∃ o' sites', Stands o' sites' (places.drop k) (columns.drop k) ∧
      steps schema o (block :: (body ++ exit :: rest)) = steps schema o' rest := by
  have hopens : opens block (body ++ exit :: rest) = true := by
    obtain ⟨l, ls, rfl⟩ := List.exists_cons_of_ne_nil hne
    simpa [opens] using (hbody l List.mem_cons_self).1
  obtain ⟨o', hsteps, hinside⟩ := InBlock.steps hbody (exit :: rest)
    ⟨_, [], [], rfl, List.forall_mem_nil _, h.statement hblock true⟩
  obtain ⟨sites', hexit⟩ :=
    hinside.exit (head?_drop_outside _ _) hexit hcolumn (opens exit rest)
  rw [steps, hopens, hsteps, steps]
  exact ⟨_, sites', hexit, rfl⟩

/-- After a leaf and a terminator in its column one section less is open. -/
theorem Stands.exit_leaf (h : Stands o sites places columns)
    (hblock : schema.isTerminator block.statement = false)
    (hexit : schema.isTerminator exit.statement = true) (hcolumn : exit.indent = block.indent)
    (rest : List LogicalLine) :
    let k := outside block.indent columns
    ∃ o' sites', Stands o' sites' ((places.drop k).drop 1) ((columns.drop k).drop 1) ∧
      steps schema o (block :: exit :: rest) = steps schema o' rest := by
  have hopens : opens block (exit :: rest) = false := by simp [opens, hcolumn]
  have hlast := (h.statement hblock false).terminator hexit (opens exit rest)
  simp only [Bool.false_eq_true, if_false, hcolumn, outside_drop_outside] at hlast
  rw [steps, hopens, steps]
  exact ⟨_, _, hlast, rfl⟩

/-- A statement, deeper lines, a terminator and another statement, these two in the column of the
first: the second statement stands where the first does if there are deeper lines, and otherwise
outside of the section that the first stands in. -/
theorem steps_block (hblock : schema.isTerminator block.statement = false)
    (hbody : ∀ l ∈ body, block.indent < l.indent ∧ schema.isTerminator l.statement = false)
    (hexit : schema.isTerminator exit.statement = true) (hexitColumn : exit.indent = block.indent)
    (hnext : schema.isTerminator next.statement = false) (hnextColumn : next.indent = block.indent)
    (below : List LogicalLine) (o : Outline Nat) :
    let sites := (steps schema o (block :: (body ++ exit :: next :: below))).survey.sites
    ∃ around k, (⟨block.entry block.statement, around⟩ : Site) ∈ sites ∧
      (⟨next.entry next.statement, around.drop k⟩ : Site) ∈ sites ∧ (k = 0 ↔ body ≠ []) ∧
      around.Pairwise (· > ·) := by
  have h := stands_self o
  have hmem := h.mem_sites hblock (body ++ exit :: next :: below)
  have hdescending := o.survey_isNested.descending.sublist (List.drop_sublist
    (outside block.indent o.columns) _)
  by_cases hne : body = []
  · subst hne
    obtain ⟨o', sites', hstands, hsteps⟩ :=
      h.exit_leaf hblock hexit hexitColumn (next :: below)
    have hlater := hstands.mem_sites hnext below
    rw [← hsteps, List.drop_drop] at hlater
    exact ⟨_, _, hmem, hlater, by simp, hdescending⟩
  · obtain ⟨o', sites', hstands, hsteps⟩ :=
      h.exit_block hblock hbody hne hexit hexitColumn (next :: below)
    have hlater := hstands.mem_sites hnext below
    rw [← hsteps, hnextColumn, outside_drop_outside] at hlater
    exact ⟨_, 0, hmem, hlater, by simp [hne], hdescending⟩

end Indent

open LogicalLine

/-- Where a line holds at most one statement, no two nodes look alike, for each starts at a line
of its own. -/
theorem nodup_entries {schema : Schema} (hstyle : schema.blockStyle = .indent) (text : String) :
    ((sitesAll [] 0 (parse schema text)).map (·.entry)).Nodup := by
  have hfirst : ∀ l : LogicalLine, ∀ e ∈ schema.entries l, e.first = l.first := by
    intro l e he
    obtain ⟨s, -, rfl⟩ := List.mem_map.mp he
    rfl
  rw [entries_sitesAll, parse, listing_treeOf, List.nodup_flatMap]
  refine ⟨fun l _ => ?_, (ofText_ordered schema text).pairwise_first.imp ?_⟩
  · simp only [Schema.entries, Schema.statements, hstyle]
    split <;> simp
  · intro l m hlt e hl hm
    have := hfirst l e hl
    have := hfirst m e hm
    omega

theorem isTerminator_addressFamily {statement : List Char}
    (h : "address-family".toList <+: statement) :
    Schema.ciscoIos.isTerminator statement = false := by
  obtain ⟨rest, rfl⟩ := h
  simp [Schema.isTerminator, Schema.ciscoIos, Text.eqIgnoreAsciiCase]

theorem isTerminator_exitAddressFamily {statement : List Char}
    (h : Text.eqIgnoreAsciiCase statement "exit-address-family".toList = true) :
    Schema.ciscoIos.isTerminator statement = true :=
  List.any_eq_true.mpr ⟨"exit-address-family", by simp [Schema.ciscoIos], h⟩

/--
**What comes after the exit of an address family stays in the section if the address family
has lines of its own.**

In a text of the dialect, let an address family be a child of a section, and deeper lines
without terminators, its exit and another statement follow it, these two in its own column.
That statement is a child of the same section if and only if there are such deeper lines.
-/
theorem parse_addressFamily_exit {text : String} {above body below : List LogicalLine}
    {family exit next : LogicalLine}
    (hlines : ofText Schema.ciscoIos text = above ++ family :: (body ++ exit :: next :: below))
    (hfamily : "address-family".toList <+: family.statement)
    (hbody : ∀ l ∈ body, family.indent < l.indent ∧
      Schema.ciscoIos.isTerminator l.statement = false)
    (hexit : Text.eqIgnoreAsciiCase exit.statement "exit-address-family".toList = true)
    (hexitColumn : exit.indent = family.indent)
    (hnext : Schema.ciscoIos.isTerminator next.statement = false)
    (hnextColumn : next.indent = family.indent)
    {h : Node} (hh : h ∈ preorderAll (parse Schema.ciscoIos text))
    (hchild : ∃ c ∈ h.children, c.entry = family.entry family.statement) :
    (∃ c ∈ h.children, c.entry = next.entry next.statement) ↔ body ≠ [] := by
  obtain ⟨o, ho⟩ := Indent.exists_steps Schema.ciscoIos above
    (family :: (body ++ exit :: next :: below)) Outline.empty
  have htree : sitesAll [] 0 (parse Schema.ciscoIos text)
      = (Indent.steps Schema.ciscoIos o
          (family :: (body ++ exit :: next :: below))).survey.sites := by
    rw [← ho, ← hlines, ← Outline.sitesAll_finish]
    rfl
  obtain ⟨around, k, hfirst, hsecond, hk, hdescending⟩ := Indent.steps_block
    (isTerminator_addressFamily hfamily) hbody (isTerminator_exitAddressFamily hexit) hexitColumn
    hnext hnextColumn below o
  rw [← htree] at hfirst hsecond
  obtain ⟨i, hi⟩ := exists_place (nodup_entries rfl text) hh
  have hplace := (hi _ hfirst).mp hchild
  rw [← hk, hi _ hsecond]
  obtain ⟨outer, rfl⟩ := List.head?_eq_some_iff.mp hplace
  rw [List.pairwise_cons] at hdescending
  constructor
  · intro hhead
    by_contra hne
    obtain ⟨k, rfl⟩ := Nat.exists_eq_succ_of_ne_zero hne
    rw [List.drop_succ_cons] at hhead
    exact Nat.lt_irrefl i (hdescending.1 i (List.mem_of_mem_drop (List.mem_of_mem_head? hhead)))
  · rintro rfl
    exact hplace

/-- An address family with a line of its own. -/
def filledFamily : String :=
  "router bgp 65000\n address-family ipv4\n  maximum-paths 2\n exit-address-family\n timers 3 9\n"

/-- A line of its own. -/
def plainLine (text : String) (n column : Nat) : LogicalLine :=
  ⟨text.toList, text.toList, n, n, column⟩

theorem parse_addressFamily_exit_filled :
    let family := plainLine " address-family ipv4" 2 1
    let next := plainLine " timers 3 9" 5 1
    ∃ h ∈ preorderAll (parse Schema.ciscoIos filledFamily),
      (∃ c ∈ h.children, c.entry = family.entry family.statement) ∧
      ∃ c ∈ h.children, c.entry = next.entry next.statement := by
  intro family next
  have hlines : ofText Schema.ciscoIos filledFamily = [plainLine "router bgp 65000" 1 0] ++
      family :: ([plainLine "  maximum-paths 2" 3 2] ++
        plainLine " exit-address-family" 4 1 :: next :: []) := by
    decide +kernel
  have hsection : ∃ h ∈ preorderAll (parse Schema.ciscoIos filledFamily),
      ∃ c ∈ h.children, c.entry = family.entry family.statement := by
    decide +kernel
  obtain ⟨h, hh, hchild⟩ := hsection
  have hfollows := parse_addressFamily_exit hlines (by decide +kernel) (by decide +kernel)
    (by decide +kernel) (by decide +kernel) (by decide +kernel) (by decide +kernel) hh hchild
  exact ⟨h, hh, hchild, hfollows.mpr (List.cons_ne_nil _ _)⟩

/-- Two address families, the first without a line of its own. -/
def emptyFamily : String :=
  "vrf definition red\n address-family ipv4\n exit-address-family\n address-family ipv6\n"

/-- The exit of an address family without lines ends the section around it. -/
theorem parse_emptyFamily :
    (ofText Schema.ciscoIos emptyFamily).map (fun l => (l.indent, String.ofList l.statement))
      = [(0, "vrf definition red"), (1, "address-family ipv4"), (1, "exit-address-family"),
        (1, "address-family ipv6")] ∧
    (sitesAll [] 0 (parse Schema.ciscoIos emptyFamily)).map (fun s => (s.entry.id, s.around))
      = [("vrf definition red", []), ("address-family ipv4", [0]), ("address-family ipv6", [])] := by
  decide +kernel

end DeviceLint
