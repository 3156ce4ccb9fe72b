/-
Which sections a closing word closes.

Each open section is told by its place in source order and by the block whose word opened
it.  A closing word is declared by some blocks, maybe by several, and it is meant for the
innermost section of any of these: it closes that section and all sections inside it, and
it is passed over only where no open section's block declares it.

The reader decides on a block before it looks at the open sections: it takes the first
block of the schema that declares the word.  So the two agree on a text in which the
innermost section that declares a closing word was opened by that block, as it always is
where no two blocks declare the same word.
-/
import DeviceLint.Proofs.Ending
import DeviceLint.Schema.Builtin

namespace DeviceLint

open Node

namespace Keyword

/-- An open section: its place in source order and the block that opened it. -/
structure Opened where
  place : Nat
  block : Nat
  deriving DecidableEq, Repr

/-- Whether the block of a section declares the word of a line as its closer. -/
def declares (schema : Schema) (l : LogicalLine) (x : Opened) : Bool :=
  (schema.keywordBlocks[x.block]?).any fun b =>
    Text.eqIgnoreAsciiCase (keyword l) b.closer.toList

/-- What has been read of some lines. -/
structure Scopes where
  /-- The open sections, the innermost first. -/
  opened : List Opened
  /-- How many statements there have been. -/
  count : Nat
  deriving DecidableEq, Repr

namespace Scopes

def start : Scopes := ⟨[], 0⟩

/-- Takes in a closing word: it closes the innermost section that declares it and the sections
inside that, or none if there is no such section. -/
def close (schema : Schema) (s : Scopes) (l : LogicalLine) : Scopes :=
  if s.opened.any (declares schema l) then
    { s with opened := (s.opened.dropWhile fun x => !declares schema l x).tail }
  else s

/-- Takes in one line. -/
def step (schema : Schema) (s : Scopes) (l : LogicalLine) : Scopes :=
  if schema.isCloser l then s.close schema l
  else
    match opened? schema l with
    | some block => ⟨⟨s.count, block⟩ :: s.opened, s.count + 1⟩
    | none => { s with count := s.count + 1 }

def run (schema : Schema) (s : Scopes) (ls : List LogicalLine) : Scopes :=
  ls.foldl (step schema) s

/-- The site of the statement of a line, if it is one. -/
def site (schema : Schema) (s : Scopes) (l : LogicalLine) : List Site :=
  if schema.isCloser l then [] else [⟨l.entry l.statement, s.opened.map (·.place)⟩]

/-- The sites of the statements of some lines. -/
def sites (schema : Schema) (s : Scopes) : List LogicalLine → List Site
  | [] => []
  | l :: ls => s.site schema l ++ (s.step schema l).sites schema ls

/-- The innermost section that declares a closing word was always opened by the first block of the
schema that declares it. -/
def ClosersFirst (schema : Schema) (s : Scopes) : List LogicalLine → Prop
  | [] => True
  | l :: ls => (∀ block ∈ closed? schema l, ∀ x ∈ s.opened.find? (declares schema l),
      x.block = block) ∧ (s.step schema l).ClosersFirst schema ls

instance decidableClosersFirst (schema : Schema) :
    ∀ (s : Scopes) (ls : List LogicalLine), Decidable (s.ClosersFirst schema ls)
  | _, [] => inferInstanceAs (Decidable True)
  | s, l :: ls =>
    have := decidableClosersFirst schema (s.step schema l) ls
    inferInstanceAs (Decidable ((∀ block ∈ closed? schema l,
      ∀ x ∈ s.opened.find? (declares schema l), x.block = block) ∧
        (s.step schema l).ClosersFirst schema ls))

variable {schema : Schema} {s : Scopes} {l : LogicalLine}

theorem close_split {inner outer : List Opened} {x : Opened}
    (hopened : s.opened = inner ++ x :: outer) (hx : declares schema l x = true)
    (hinner : ∀ y ∈ inner, declares schema l y = false) :
    s.close schema l = { s with opened := outer } := by
  have hany : s.opened.any (declares schema l) = true :=
    List.any_eq_true.mpr ⟨x, by simp [hopened], hx⟩
  rw [close, if_pos hany, hopened, List.dropWhile_append_of_pos (by simpa using hinner),
    List.dropWhile_cons_of_neg (by simp [hx]), List.tail_cons]

theorem close_none (h : ∀ y ∈ s.opened, declares schema l y = false) : s.close schema l = s := by
  rw [close, if_neg (by simpa using h)]

/-- Either no open section declares a word, or there is an innermost one. -/
theorem split_cases (schema : Schema) (s : Scopes) (l : LogicalLine) :
    (∀ y ∈ s.opened, declares schema l y = false) ∨
      ∃ inner x outer, s.opened = inner ++ x :: outer ∧ declares schema l x = true ∧
        (∀ y ∈ inner, declares schema l y = false) ∧
        s.opened.find? (declares schema l) = some x := by
  cases hfind : s.opened.find? (declares schema l) with
  | none => exact Or.inl (by simpa using hfind)
  | some x =>
      obtain ⟨hx, inner, outer, hopened, hinner⟩ := List.find?_eq_some_iff_append.mp hfind
      exact Or.inr ⟨inner, x, outer, hopened, hx, by simpa using hinner, rfl⟩

theorem ClosersFirst.of_append {above below : List LogicalLine} :
    ∀ {s : Scopes}, s.ClosersFirst schema (above ++ below) →
      s.ClosersFirst schema above ∧ (s.run schema above).ClosersFirst schema below := by
  induction above with
  | nil => exact fun h => ⟨trivial, h⟩
  | cons l above ih => exact fun h => ⟨⟨h.1, (ih h.2).1⟩, (ih h.2).2⟩

end Scopes

/-! ### Blocks that declare a word -/

variable {schema : Schema} {l : LogicalLine} {block : Nat}

theorem declares_iff {x : Opened} : declares schema l x = true ↔
    ∃ b, schema.keywordBlocks[x.block]? = some b ∧
      (keyword l).map Char.toLower = b.closer.toList.map Char.toLower := by
  simp [declares, Option.any_eq_true, Text.eqIgnoreAsciiCase]

/-- The block that a word closes declares it. -/
theorem declares_closed? (h : closed? schema l = some block) (place : Nat) :
    declares schema l ⟨place, block⟩ = true := by
  unfold closed? at h
  split at h
  · obtain ⟨hlt, hword, -⟩ := List.findIdx?_eq_some_iff_getElem.mp h
    rw [declares, List.getElem?_eq_getElem hlt, Option.any_some]
    exact hword
  · simp at h

theorem block_ne {x : Opened} (hclosed : closed? schema l = some block)
    (hx : declares schema l x = false) : x.block ≠ block := by
  rintro rfl
  rw [declares_closed? hclosed x.place] at hx
  simp at hx

/-- No two blocks declare the same closing word. -/
def ClosersDistinct (schema : Schema) : Prop :=
  schema.keywordBlocks.Pairwise fun b c =>
    Text.eqIgnoreAsciiCase b.closer.toList c.closer.toList = false

theorem ClosersDistinct.eq_of_declares (h : ClosersDistinct schema) {x y : Opened}
    (hx : declares schema l x = true) (hy : declares schema l y = true) : x.block = y.block := by
  obtain ⟨b, hb, hbword⟩ := declares_iff.mp hx
  obtain ⟨c, hc, hcword⟩ := declares_iff.mp hy
  obtain ⟨hi, rfl⟩ := List.getElem?_eq_some_iff.mp hb
  obtain ⟨hj, rfl⟩ := List.getElem?_eq_some_iff.mp hc
  rw [ClosersDistinct, List.pairwise_iff_getElem] at h
  rw [hbword] at hcword
  rcases Nat.lt_trichotomy x.block y.block with hlt | heq | hlt
  · have hne := h _ _ hi hj hlt
    simp [Text.eqIgnoreAsciiCase, hcword] at hne
  · exact heq
  · have hne := h _ _ hj hi hlt
    simp [Text.eqIgnoreAsciiCase, hcword] at hne

/-- Where no two blocks declare the same word there is nothing to decide. -/
theorem ClosersDistinct.closersFirst (h : ClosersDistinct schema) (ls : List LogicalLine) :
    ∀ s : Scopes, s.ClosersFirst schema ls := by
  induction ls with
  | nil => exact fun s => trivial
  | cons l ls ih =>
      refine fun s => ⟨fun block hclosed x hx => ?_, ih _⟩
      exact h.eq_of_declares (List.find?_some hx) (declares_closed? hclosed x.place)

example : ∀ schema ∈ Schema.builtin, ClosersDistinct schema := by
  unfold ClosersDistinct
  decide

/-! ### The reader and its scopes -/

/-- What the reader has read, seen as scopes. -/
structure Follows (o : Outline Nat) (s : Scopes) : Prop where
  blocks : o.opened.map (·.tag) = s.opened.map (·.block)
  places : o.survey.opened = s.opened.map (·.place)
  count : o.survey.sites.length = s.count

namespace Follows

variable {o : Outline Nat} {s : Scopes}

theorem start : Follows Outline.empty Scopes.start := ⟨rfl, rfl, rfl⟩

theorem findIdx?_eq (h : Follows o s) (block : Nat) :
    o.opened.findIdx? (·.tag == block) = s.opened.findIdx? (·.block == block) := by
  have htags := congrArg (List.findIdx? (· == block)) h.blocks
  rw [List.findIdx?_map, List.findIdx?_map] at htags
  exact htags

/-- A closing word that an open section declares. -/
theorem step_closes (h : Follows o s) (hclosed : closed? schema l = some block)
    {inner outer : List Opened} {x : Opened} (hopened : s.opened = inner ++ x :: outer)
    (hx : x.block = block) (hinner : ∀ y ∈ inner, declares schema l y = false) :
    Keyword.step schema o l = Outline.closeManyAt l.last (inner.length + 1) o := by
  have hnone : inner.findIdx? (·.block == block) = none :=
    List.findIdx?_eq_none_iff.mpr fun y hy => by simpa using block_ne hclosed (hinner y hy)
  have hfind : o.opened.findIdx? (·.tag == block) = some inner.length := by
    rw [h.findIdx?_eq, hopened, List.findIdx?_append, hnone, List.findIdx?_cons]
    simp [hx]
  rw [Keyword.step, hclosed]
  dsimp only
  rw [hfind]

/-- A closing word that no open section declares. -/
theorem step_passes (h : Follows o s) (hclosed : closed? schema l = some block)
    (hnone : ∀ y ∈ s.opened, declares schema l y = false) : Keyword.step schema o l = o := by
  have hfind : o.opened.findIdx? (·.tag == block) = none := by
    rw [h.findIdx?_eq, List.findIdx?_eq_none_iff]
    exact fun y hy => by simpa using block_ne hclosed (hnone y hy)
  rw [Keyword.step, hclosed]
  dsimp only
  rw [hfind]

/-- Sections are closed. -/
theorem closeManyAt (h : Follows o s) (last : Nat) {inner outer : List Opened} {x : Opened}
    (hopened : s.opened = inner ++ x :: outer) :
    Follows (Outline.closeManyAt last (inner.length + 1) o) { s with opened := outer } where
  blocks := by
    rw [Outline.map_opened_closeManyAt fun _ _ => rfl, h.blocks, ← List.map_drop, hopened,
      List.append_cons, List.drop_left' (by simp)]
  places := by
    rw [Outline.survey_closeManyAt, Survey.leave, h.places, ← List.map_drop, hopened,
      List.append_cons, List.drop_left' (by simp)]
  count := by
    rw [Outline.survey_closeManyAt]
    exact h.count

/-- A statement is put where the open sections are. -/
theorem sites_put (h : Follows o s) (kind : NodeKind) : (l.node kind).sites o.survey.opened
    o.survey.sites.length = [⟨l.entry l.statement, s.opened.map (·.place)⟩] := by
  rw [sites_childless rfl, h.places]
  rfl

/-- One line. -/
theorem step (h : Follows o s) (hfirst : ∀ block ∈ closed? schema l,
      ∀ x ∈ s.opened.find? (declares schema l), x.block = block) :
    Follows (Keyword.step schema o l) (s.step schema l) ∧
      (Keyword.step schema o l).survey.sites = o.survey.sites ++ s.site schema l := by
  rw [Scopes.step, Scopes.site, ← closed?_isSome]
  cases hclosed : closed? schema l with
  | some block =>
      rw [if_pos (by simp), if_pos (by simp), List.append_nil]
      rcases s.split_cases schema l with hnone | ⟨inner, x, outer, hopened, hx, hinner, hfind⟩
      · rw [h.step_passes hclosed hnone, Scopes.close_none hnone]
        exact ⟨h, rfl⟩
      · have hblock := hfirst block hclosed x hfind
        rw [h.step_closes hclosed hopened hblock hinner, Scopes.close_split hopened hx hinner]
        refine ⟨h.closeManyAt l.last hopened, ?_⟩
        rw [Outline.survey_closeManyAt]
        rfl
  | none =>
      rw [if_neg (by simp), if_neg (by simp), Keyword.step, hclosed]
      dsimp only
      cases hopener : opened? schema l with
      | some block =>
          refine ⟨⟨?_, ?_, ?_⟩, ?_⟩
          · exact congrArg (block :: ·) h.blocks
          · rw [Outline.survey_push, Survey.enter, h.places, h.count]
            rfl
          · rw [Outline.survey_push, Survey.enter, h.sites_put, List.length_append, h.count]
            rfl
          · rw [Outline.survey_push, Survey.enter, h.sites_put]
      | none =>
          refine ⟨⟨?_, ?_, ?_⟩, ?_⟩
          · rw [Outline.map_opened_add fun _ _ => rfl, h.blocks]
          · rw [Outline.survey_add]
            exact h.places
          · rw [Outline.survey_add, Survey.put, h.sites_put, List.length_append, h.count]
            rfl
          · rw [Outline.survey_add, Survey.put, h.sites_put]

/-- The lines of a text one after the other. -/
theorem run {ls : List LogicalLine} : ∀ {o : Outline Nat} {s : Scopes}, Follows o s →
    s.ClosersFirst schema ls →
      Follows (ls.foldl (Keyword.step schema) o) (s.run schema ls) ∧
        (ls.foldl (Keyword.step schema) o).survey.sites
          = o.survey.sites ++ s.sites schema ls := by
  induction ls with
  | nil => exact fun h _ => ⟨h, (List.append_nil _).symm⟩
  | cons l ls ih =>
      intro o s h hfirst
      obtain ⟨hnext, hsites⟩ := h.step hfirst.1
      obtain ⟨hlast, hrest⟩ := ih hnext hfirst.2
      refine ⟨hlast, ?_⟩
      rw [List.foldl_cons, hrest, hsites, List.append_assoc, Scopes.sites]

end Follows

/-! ### Where sections end -/

theorem keeps_step (schema : Schema) (o : Outline Nat) (l : LogicalLine) :
    Outline.Keeps o.ends (step schema o l).ends := by
  unfold step
  split
  · split
    · exact Outline.keeps_closeManyAt _ _ _
    · exact Outline.Keeps.refl _
  · split
    · exact Outline.keeps_push _ _ _
    · exact Outline.keeps_add _ _

theorem keeps_foldl (schema : Schema) (ls : List LogicalLine) :
    ∀ o : Outline Nat, Outline.Keeps o.ends (ls.foldl (step schema) o).ends := by
  induction ls with
  | nil => exact fun o => Outline.Keeps.refl _
  | cons l ls ih => exact fun o => (keeps_step schema o l).trans (ih _)

/-- Before a line is read the outline is sound, for a reader that stands at the end of it. -/
theorem exists_sound {text : String} {above below : List LogicalLine}
    (hlines : LogicalLine.ofText schema text = above ++ l :: below) :
    ∃ hi, Outline.Sound schema.Apart hi l.last (above.foldl (step schema) Outline.empty) := by
  have hordered := LogicalLine.ofText_ordered schema text
  rw [hlines] at hordered
  obtain ⟨hi, last, hle, hsound⟩ := foldl_sound (step schema) id l.last above
    (fun o hi last l _ h hl => sound_step schema.spaced_apart schema h hl) Outline.empty 1 0
    Outline.Sound.empty (by omega) (by omega) hordered.before
  exact ⟨hi, hsound.mono (Nat.le_refl _) hle⟩

end Keyword

open Keyword

/--
**A closing word closes the innermost section that declares it**, if that was always opened by
the first block that declares it.

In a dialect between words, the tree is that of the scopes: each statement has its place in
the order of the text and lies in the sections that are open at it.  A closing word closes
the innermost open section whose block declares it and all sections inside that one, which
all reach to the line of the word; it is passed over if no open section's block declares it.
-/
theorem parse_closers {schema : Schema} (hstyle : schema.blockStyle = .keyword) {text : String}
    (hfirst : Scopes.start.ClosersFirst schema (LogicalLine.ofText schema text)) :
    sitesAll [] 0 (parse schema text)
        = Scopes.start.sites schema (LogicalLine.ofText schema text) ∧
      ∀ above l below, LogicalLine.ofText schema text = above ++ l :: below →
        schema.isCloser l = true →
        let s := Scopes.start.run schema above
        (∀ inner x outer, s.opened = inner ++ x :: outer → declares schema l x = true →
          (∀ y ∈ inner, declares schema l y = false) →
          s.step schema l = { s with opened := outer } ∧
          ∀ y ∈ inner ++ [x], ∃ n, (preorderAll (parse schema text))[y.place]? = some n ∧
            n.span.last = l.last) ∧
        ((∀ y ∈ s.opened, declares schema l y = false) → s.step schema l = s) := by
  have hparse : parse schema text = ((LogicalLine.ofText schema text).foldl (Keyword.step schema)
      Outline.empty).finish := by
    rw [parse, treeOf, hstyle, build]
  refine ⟨?_, fun above l below hlines hcloser => ⟨?_, fun hnone => ?_⟩⟩
  · rw [hparse, Outline.sitesAll_finish, (Follows.start.run hfirst).2]
    rfl
  · intro inner x outer hopened hx hinner
    refine ⟨?_, fun y hy => ?_⟩
    · rw [Scopes.step, if_pos hcloser, Scopes.close_split hopened hx hinner]
    · rw [hlines] at hfirst
      obtain ⟨habove, hline, -⟩ := hfirst.of_append
      have hfollows := (Follows.start.run habove).1
      rw [← closed?_isSome, Option.isSome_iff_exists] at hcloser
      obtain ⟨block, hclosed⟩ := hcloser
      have hfind : (Scopes.start.run schema above).opened.find? (declares schema l) = some x :=
        List.find?_eq_some_iff_append.mpr ⟨hx, inner, outer, hopened, by simpa using hinner⟩
      have hstep := hfollows.step_closes hclosed hopened (hline block hclosed x hfind) hinner
      obtain ⟨hi, hsound⟩ := exists_sound hlines
      have hplace : y.place ∈ (above.foldl (Keyword.step schema) Outline.empty).survey.opened.take
          (inner.length + 1) := by
        rw [hfollows.places, ← List.map_take, hopened, List.append_cons,
          List.take_left' (by simp)]
        exact List.mem_map_of_mem hy
      have hends := Outline.ends_closeManyAt _ hsound y.place hplace
      rw [hparse, hlines, List.foldl_append, List.foldl_cons, hstep]
      exact Outline.last_finish (keeps_foldl schema below _ _ _ hends)
  · rw [Scopes.step, if_pos hcloser, Scopes.close_none hnone]

/-- Two blocks with one closing word. -/
def Schema.sharedCloser : Schema where
  id := "shared"
  blockStyle := .keyword
  keywordBlocks := [⟨"a", "end"⟩, ⟨"b", "end"⟩]

/-- The word closes the inner section, which was opened by the first block. -/
theorem parse_closers_inner :
    let text := "b\na\nx\nEND\ny\n"
    Scopes.start.ClosersFirst Schema.sharedCloser
        (LogicalLine.ofText Schema.sharedCloser text) ∧
      (sitesAll [] 0 (parse Schema.sharedCloser text)).map (·.around)
        = [[], [0], [1, 0], [0]] ∧
      ∃ n, (preorderAll (parse Schema.sharedCloser text))[1]? = some n ∧ n.span.last = 4 := by
  intro text
  let above : List LogicalLine := [⟨['b'], ['b'], 1, 1, 0⟩, ⟨['a'], ['a'], 2, 2, 0⟩,
    ⟨['x'], ['x'], 3, 3, 0⟩]
  have hlines : LogicalLine.ofText Schema.sharedCloser text = above ++
      ⟨"END".toList, "END".toList, 4, 4, 0⟩ :: [⟨['y'], ['y'], 5, 5, 0⟩] := by
    decide +kernel
  have hfirst : Scopes.start.ClosersFirst Schema.sharedCloser
      (LogicalLine.ofText Schema.sharedCloser text) := by
    decide +kernel
  have hstyle : Schema.sharedCloser.blockStyle = .keyword := rfl
  obtain ⟨hsites, hclosers⟩ := parse_closers hstyle hfirst
  obtain ⟨hcloses, -⟩ := hclosers above _ _ hlines (by decide +kernel)
  obtain ⟨-, hlast⟩ := hcloses [] ⟨1, 0⟩ [⟨0, 1⟩] (by decide +kernel) (by decide +kernel) (by simp)
  refine ⟨hfirst, ?_, hlast ⟨1, 0⟩ (by simp)⟩
  rw [hsites]
  decide +kernel

/-- The word closes no section where the second block opened the only one. -/
theorem parse_closer_passedOver :
    let text := "b\nend\nc\n"
    Schema.sharedCloser.fault? = none ∧
      (Scopes.start.sites Schema.sharedCloser
          (LogicalLine.ofText Schema.sharedCloser text)).map (·.around) = [[], []] ∧
      (sitesAll [] 0 (parse Schema.sharedCloser text)).map (·.around) = [[], [0]] := by
  decide +kernel

end DeviceLint
