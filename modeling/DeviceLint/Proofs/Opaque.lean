/-
Strings and comment lines are opaque.

A dialect with braces cuts a line at punctuation outside double quotes, and it skips lines
that begin with `#`.  So the text in a string or in such a comment changes no tree but in
the statement it is a part of.  Block comments come before that, though, and know neither
quotes nor `#`: a text that opens one goes on in the next line as a comment.  What is
said here is said of texts that close the block comments they open.

Two runs are compared by masking: all statements that start at the line in question are
made the same.  The pieces of a line are masked as well, and the reader takes a masked
piece in as the piece itself but for the node's label.
-/
import DeviceLint.Proofs.Scan
import DeviceLint.Proofs.Uniform
import DeviceLint.Schema.Builtin

namespace DeviceLint

/-! ### Block comments -/

namespace LogicalLine

variable {opener closer s : List Char}

/-- Nothing comes of a text that was not in it. -/
theorem outsideComments_subset (opener closer s : List Char) :
    (outsideComments opener closer s).1 ⊆ s := by
  fun_induction outsideComments opener closer s with
  | case1 s hopen => exact List.Subset.refl _
  | case2 s before rest hopen hclose =>
      rw [Text.splitAt?_eq_some hopen, List.append_assoc]
      exact List.subset_append_left _ _
  | case3 s before rest hopen between after hclose hlt kept inside heq ih =>
      rw [heq] at ih
      rw [Text.splitAt?_eq_some hopen, Text.splitAt?_eq_some hclose]
      intro c hc
      rcases List.mem_append.mp hc with hc | hc
      · simp [hc]
      · simp [ih hc]
  | case4 s before rest hopen between after hclose hge =>
      rw [Text.splitAt?_eq_some hopen, List.append_assoc]
      exact List.subset_append_left _ _

/-- A text that ends outside comments, a character that begins none, and a text after it. -/
theorem outsideComments_foreign {c : Char} (hopener : opener ≠ []) (hc : c ∉ opener)
    (hs : (outsideComments opener closer s).2 = false) (t : List Char) :
    outsideComments opener closer (s ++ c :: t)
      = ((outsideComments opener closer s).1 ++ c :: (outsideComments opener closer t).1,
        (outsideComments opener closer t).2) := by
  fun_induction outsideComments opener closer s with
  | case1 s hopen =>
      rw [outsideComments.eq_def opener closer (s ++ c :: t), Text.splitAt?_foreign hopen hc,
        outsideComments.eq_def opener closer t]
      cases hopen' : Text.splitAt? opener t with
      | none => rfl
      | some found =>
          obtain ⟨before, rest⟩ := found
          dsimp only [Option.map_some]
          cases hclose : Text.splitAt? closer rest with
          | none => rfl
          | some found =>
              obtain ⟨between, after⟩ := found
              have hlt := length_after_lt hopener hopen' hclose
              dsimp only
              rw [if_pos (by rw [List.length_append, List.length_cons]; omega), if_pos hlt,
                List.append_assoc, List.cons_append]
  | case2 s before rest hopen hclose => simp at hs
  | case3 s before rest hopen between after hclose hlt kept inside heq ih =>
      have hopen' := Text.splitAt?_append hopen (c :: t)
      have hclose' := Text.splitAt?_append hclose (c :: t)
      rw [heq] at ih
      rw [outsideComments.eq_def opener closer (s ++ c :: t), hopen']
      dsimp only
      rw [hclose']
      dsimp only
      rw [if_pos (length_after_lt hopener hopen' hclose'), ih hs, List.append_assoc]
  | case4 s before rest hopen between after hclose hge =>
      exact absurd (length_after_lt hopener hopen hclose) hge

theorem stripComments_foreign {d : Delimiters} {inside : Bool} {c : Char}
    (hopener : d.opener.toList ≠ []) (hc : c ∉ d.opener.toList) {kept : List Char}
    (hs : stripComments d inside s = (kept, false)) (t : List Char) :
    stripComments d inside (s ++ c :: t)
      = (kept ++ c :: (stripComments d false t).1, (stripComments d false t).2) := by
  cases inside with
  | false =>
      have hends := congrArg Prod.snd hs
      have hkept := congrArg Prod.fst hs
      rw [stripComments, if_neg (by simp)] at hends hkept
      rw [stripComments, if_neg (by simp), outsideComments_foreign hopener hc hends, hkept]
      rfl
  | true =>
      rw [stripComments, if_pos rfl] at hs ⊢
      cases hclose : Text.splitAt? d.closer.toList s with
      | none => simp [hclose] at hs
      | some found =>
          obtain ⟨between, after⟩ := found
          rw [hclose] at hs
          rw [Text.splitAt?_append hclose]
          have hends := congrArg Prod.snd hs
          have hkept := congrArg Prod.fst hs
          dsimp only at hends hkept ⊢
          rw [outsideComments_foreign hopener hc hends, hkept]
          rfl

end LogicalLine

/-! ### Pieces without their texts -/

namespace Brace

/-- What is left of a piece if its text is not told, but for whether there is one. -/
def Piece.mask (p : Piece) : Piece := ⟨if isBlank p.text then [] else ['*'], p.mark⟩

theorem mask_congr {s t : List Char} (h : isBlank s = isBlank t) (m : Mark) :
    Piece.mask ⟨s, m⟩ = Piece.mask ⟨t, m⟩ := by
  simp only [Piece.mask, h]

/-- Whether a double quote is open after a text. -/
def endsQuoted (quoted : Bool) (s : List Char) : Bool :=
  s.foldl (fun quoted c => quoted != (c == '"')) quoted

/-- How a line is cut hangs on what has been read only by whether that is blank. -/
theorem cutFrom_mask (s : List Char) : ∀ (quoted : Bool) {read read' : List Char},
    isBlank read.reverse = isBlank read'.reverse →
      (cutFrom quoted read s).map Piece.mask = (cutFrom quoted read' s).map Piece.mask := by
  induction s with
  | nil => exact fun quoted read read' h => congrArg ([·]) (mask_congr h .ends)
  | cons c s ih =>
      intro quoted read read' h
      have hnext : isBlank (c :: read).reverse = isBlank (c :: read').reverse := by
        rw [List.reverse_cons, List.reverse_cons, isBlank_append, isBlank_append, h]
      rw [cutFrom, cutFrom, h]
      simp only [apply_ite (List.map Piece.mask), List.map_cons, mask_congr h, ih _ hnext]

/-- Two lines that begin alike. -/
theorem cutFrom_append {s t : List Char} (u : List Char) : ∀ (quoted : Bool),
    (∀ read, (cutFrom (endsQuoted quoted u) read s).map Piece.mask
      = (cutFrom (endsQuoted quoted u) read t).map Piece.mask) →
    ∀ read, (cutFrom quoted read (u ++ s)).map Piece.mask
      = (cutFrom quoted read (u ++ t)).map Piece.mask := by
  induction u with
  | nil => exact fun quoted h => h
  | cons c u ih =>
      intro quoted h read
      have hrest := ih (quoted != (c == '"')) h
      rw [List.cons_append, List.cons_append, cutFrom, cutFrom]
      by_cases hquoted : quoted = true
      · subst hquoted
        simpa [bne] using hrest (c :: read)
      obtain rfl : quoted = false := by simpa using hquoted
      by_cases hquote : c = '"'
      · subst hquote
        simpa using hrest _
      have hnext : (false != (c == '"')) = false := by simpa using hquote
      rw [hnext] at hrest
      simp only [apply_ite (List.map Piece.mask), List.map_cons, hrest, hquote, beq_iff_eq,
        Bool.false_eq_true, if_false]

/-- A string is part of a piece whatever stands in it. -/
theorem cutFrom_string {content : List Char} (h : '"' ∉ content) (s : List Char) :
    ∀ read, cutFrom true read (content ++ '"' :: s)
      = cutFrom false ('"' :: (content.reverse ++ read)) s := by
  induction content with
  | nil => intro read; rfl
  | cons c content ih =>
      intro read
      rw [List.mem_cons, not_or] at h
      have hc : (c != '"') = true := by simpa using Ne.symm h.1
      rw [List.cons_append, cutFrom, if_pos rfl, hc, ih h.2, List.reverse_cons, List.append_assoc,
        List.singleton_append]

theorem cut_string {before content content' : List Char}
    (hbefore : endsQuoted false before = false) (h : '"' ∉ content) (h' : '"' ∉ content')
    (after : List Char) :
    (cut (before ++ '"' :: (content ++ '"' :: after))).map Piece.mask
      = (cut (before ++ '"' :: (content' ++ '"' :: after))).map Piece.mask := by
  refine cutFrom_append before false (fun read => ?_) []
  have hopen : ∀ content : List Char, '"' ∉ content →
      cutFrom false read ('"' :: (content ++ '"' :: after))
        = cutFrom false ('"' :: (content.reverse ++ '"' :: read)) after :=
    fun content h => cutFrom_string h after _
  rw [hbefore, hopen content h, hopen content' h']
  have hquote : ∀ s, isBlank ('"' :: s).reverse = false := by
    intro s
    rw [List.reverse_cons, isBlank_append]
    simp [isBlank_eq_all, Text.isBlank]
  exact cutFrom_mask after false ((hquote _).trans (hquote _).symm)

end Brace

/-! ### Nodes without their statements -/

namespace Node

mutual

/-- A node with the statements of all nodes that start at a line made the same. -/
def mask (line : Nat) : Node → Node
  | ⟨id, raw, params, kind, children, span⟩ =>
    if span.first = line then
      { ofStatement kind ['*'] "" span with children := maskAll line children }
    else ⟨id, raw, params, kind, maskAll line children, span⟩

def maskAll (line : Nat) : List Node → List Node
  | [] => []
  | n :: ns => mask line n :: maskAll line ns

end

theorem maskAll_eq (line : Nat) (ns : List Node) : maskAll line ns = ns.map (mask line) := by
  induction ns with
  | nil => rw [maskAll, List.map_nil]
  | cons n ns ih => rw [maskAll, ih, List.map_cons]

theorem mask_eq (line : Nat) (n : Node) : n.mask line
    = { (if n.span.first = line then ofStatement n.kind ['*'] "" n.span else n) with
        children := n.children.map (mask line) } := by
  cases n
  rw [mask, maskAll_eq]
  dsimp only
  split <;> rfl

theorem mask_isUniform (line : Nat) : IsUniform (fun i => i) (mask line) where
  kind := fun n => by
    rw [mask_eq]
    split <;> rfl
  span_last := fun n => by
    rw [mask_eq]
    split <;> rfl
  children := fun n ns => by
    rw [mask_eq, mask_eq]
    dsimp only
    split <;> rfl
  group := fun n => by
    rw [mask_eq, mask_eq]
    dsimp only
    split <;> rfl
  reaching := fun n last => by
    have hfirst : (n.reaching last).span.first = n.span.first := rfl
    rw [mask_eq, mask_eq, hfirst]
    split <;> rfl

end Node

open Node (mask_isUniform)

namespace LogicalLine

/-- A line of which nothing is told but where it stands. -/
def mask (l : LogicalLine) : LogicalLine := ⟨[], [], l.first, l.last, 0⟩

end LogicalLine

namespace Brace

variable {l : LogicalLine} {line : Nat}

/-- The pieces of the line that is masked are masked. -/
theorem foldl_mask (hl : l.first = line) (ps : List Piece) (st : State) :
    (ps.map Piece.mask).foldl (step l.mask) (st.map (Node.mask line))
      = (ps.foldl (step l) st).map (Node.mask line) := by
  rw [List.foldl_map]
  refine List.foldl_hom (State.map (Node.mask line)) fun st p => ?_
  refine step_map (mask_isUniform line) (show p.mask.mark = p.mark from rfl) ?_
    (show l.mask.last = l.last from rfl) ?_ st
  · rw [Piece.mask]
    split
    · rename_i hblank
      simp [hblank]
    · rename_i hne
      simp [hne, isBlank_eq_all, Text.isBlank]
  · intro hne kind
    have hfirst : (p.node kind l).span.first = line := hl
    rw [Node.mask_eq, if_pos hfirst]
    simp only [Piece.mask, hne]
    rfl

/-- Other lines are read as they stand. -/
theorem foldl_stepLine_mask {ls : List LogicalLine} (hls : ∀ l ∈ ls, l.first ≠ line) :
    ∀ st : State, ls.foldl stepLine (st.map (Node.mask line))
      = (ls.foldl stepLine st).map (Node.mask line) := by
  induction ls with
  | nil => exact fun st => rfl
  | cons l ls ih =>
      intro st
      rw [List.forall_mem_cons] at hls
      have hline : stepLine (st.map (Node.mask line)) l = (stepLine st l).map (Node.mask line) := by
        refine List.foldl_hom (State.map (Node.mask line)) fun st p => ?_
        refine step_map (mask_isUniform line) rfl rfl rfl (fun _ kind => ?_) st
        have hfirst : (p.node kind l).span.first ≠ line := hls.1
        rw [Node.mask_eq, if_neg hfirst]
        rfl
      rw [List.foldl_cons, hline, ih hls.2, List.foldl_cons]

end Brace

/-! ### Physical lines -/

namespace Brace

open LogicalLine

/-- A physical line is read as what is left of it without block comments, and then the lines
after it. -/
theorem IsDialect.foldl_gather_cons {schema : Schema} (h : IsDialect schema) (inside : Bool)
    (n : Nat) (line : List Char) (rest : List (List Char)) (st : State) :
    let (content, inside') := uncommented schema inside line
    (gather schema inside n (line :: rest)).foldl stepLine st
      = (gather schema inside' (n + 1) rest).foldl stepLine
          ((cut content).foldl (step (start schema n line content [])) st) := by
  dsimp only
  have hgather := gather_cons_single h.single_line inside n line rest
  dsimp only at hgather
  have htext : ∀ content, (start schema n line content []).text = content := by
    intro content
    rw [start, continued_unmarked h.single_line.1]
  rw [hgather, List.foldl_append]
  by_cases hskip : isSkipped schema (uncommented schema inside line).1 = true
  · rw [if_pos hskip, List.foldl_nil, h.foldl_skipped hskip]
  · rw [if_neg hskip, List.foldl_cons, List.foldl_nil, stepLine, htext]

end Brace

/-! ### Lines with another text in a string or a comment -/

/-- Two lines that are alike but for the text in a double-quoted string, or after the `#` of a
comment line, where no block comment is open.  They start inside one or not. -/
inductive Rewords (d : Delimiters) (inside : Bool) (content content' : List Char) :
    List Char → List Char → Prop
  | string {before kept : List Char} (after : List Char)
      (hbefore : LogicalLine.stripComments d inside before = (kept, false))
      (hquoted : Brace.endsQuoted false kept = false)
      (hcontent : '"' ∉ content) (hcontent' : '"' ∉ content') :
      Rewords d inside content content' (before ++ '"' :: (content ++ '"' :: after))
        (before ++ '"' :: (content' ++ '"' :: after))
  | comment {before kept : List Char}
      (hbefore : LogicalLine.stripComments d inside before = (kept, false))
      (hblank : Brace.isBlank kept = true) :
      Rewords d inside content content' (before ++ '#' :: content) (before ++ '#' :: content')

namespace Brace

open LogicalLine

theorem cut_hash {kept : List Char} (hblank : isBlank kept = true) (content : List Char) :
    (cut (kept ++ '#' :: content)).map Piece.mask = [⟨[], .ends⟩] := by
  have hstart : ∀ c ∈ (Text.trimStart (kept ++ '#' :: content)).head?, c = '#' := by
    rw [isBlank_eq_all, List.all_eq_true] at hblank
    rw [Text.trimStart_append hblank, Text.trimStart, List.dropWhile_cons_of_neg (by decide)]
    simp
  obtain ⟨text, htext, hcut⟩ := cutFrom_skipped _ hstart [] (by simp)
  rw [cut, hcut, List.map_singleton, Piece.mask, if_pos htext]

/-- A text with the statements of one line made the same: what that line says no longer matters,
but for its pieces and for where it ends. -/
theorem IsDialect.map_mask_parse {schema : Schema} (h : IsDialect schema) {text : String}
    {above below : List (List Char)} {line : List Char}
    (htext : Text.lines text.toList = above ++ line :: below) :
    let n := 1 + above.length
    let (content, inside) := uncommented schema (endsInside schema false above) line
    (parse schema text).map (Node.mask n)
      = ((gather schema inside (n + 1) below).foldl stepLine
          (((cut content).map Piece.mask).foldl (step ⟨[], [], n, n, 0⟩)
            (((gather schema false 1 above).foldl stepLine ⟨Outline.empty, 0⟩).map
              (Node.mask n)))).outline.finish := by
  have hseam := gather_append schema false 1 above (line :: below)
    (endsWaiting_single h.single_line false above)
  have hline := h.foldl_gather_cons (endsInside schema false above) (1 + above.length) line below
    ((gather schema false 1 above).foldl stepLine ⟨Outline.empty, 0⟩)
  rcases hcontent : uncommented schema (endsInside schema false above) line with ⟨content, inside⟩
  rw [hcontent] at hline
  dsimp only at hline ⊢
  have hlater : ∀ l ∈ gather schema inside (1 + above.length + 1) below,
      l.first ≠ 1 + above.length := by
    intro l hl
    have hbounds := (gather_ordered schema inside (1 + above.length + 1) below).bounds l hl
    omega
  have hmask : ⟨[], [], 1 + above.length, 1 + above.length, 0⟩
      = (start schema (1 + above.length) line content []).mask := by
    rw [mask, start_first, start_single h.single_line]
  rw [parse, treeOf, h.style, ofText, htext, hseam]
  dsimp only [build]
  rw [List.foldl_append, hline, ← Outline.finish_map (mask_isUniform _), hmask,
    foldl_mask (start_first ..), foldl_stepLine_mask hlater]
  rfl

end Brace

open LogicalLine Brace

/-- If both texts close the block comments they open, the lines end alike, and they have the same
pieces but for what these say. -/
theorem Rewords.pieces {d : Delimiters} {inside : Bool} {content content' line line' : List Char}
    (h : Rewords d inside content content' line line') (hopener : d.opener.toList ≠ [])
    (hquote : '"' ∉ d.opener.toList) (hhash : '#' ∉ d.opener.toList)
    (hcloses : (stripComments d false content).2 = false)
    (hcloses' : (stripComments d false content').2 = false) :
    (stripComments d inside line).2 = (stripComments d inside line').2 ∧
      (cut (stripComments d inside line).1).map Piece.mask
        = (cut (stripComments d inside line').1).map Piece.mask := by
  have hkept : ∀ {content : List Char}, (stripComments d false content).2 = false →
      stripComments d false content = ((stripComments d false content).1, false) :=
    fun h => Prod.ext rfl h
  cases h with
  | string after hbefore hquoted hcontent hcontent' =>
      have hnone : ∀ {content : List Char}, '"' ∉ content →
          '"' ∉ (stripComments d false content).1 := by
        intro content hcontent hmem
        rw [stripComments, if_neg (by simp)] at hmem
        exact hcontent (outsideComments_subset _ _ content hmem)
      rw [stripComments_foreign hopener hquote hbefore, stripComments_foreign hopener hquote hbefore,
        stripComments_foreign hopener hquote (hkept hcloses),
        stripComments_foreign hopener hquote (hkept hcloses')]
      exact ⟨rfl, cut_string hquoted (hnone hcontent) (hnone hcontent') _⟩
  | comment hbefore hblank =>
      rw [stripComments_foreign hopener hhash hbefore, stripComments_foreign hopener hhash hbefore]
      exact ⟨hcloses.trans hcloses'.symm, (cut_hash hblank _).trans (cut_hash hblank _).symm⟩

/--
**Strings and comment lines say nothing to the reader.**

Under the built-in dialects with braces, let two texts differ in one line only, and there in
the text of a double-quoted string or of a comment line, neither in a block comment.  If
each of these texts closes the block comments it opens itself, then the trees are the same
but for the statements that start at that line: with those masked they are equal.
-/
theorem parse_rewords {schema : Schema}
    (hschema : schema ∈ [Schema.juniperJunos, Schema.nokiaSros, Schema.vyos])
    {text text' : String} {above below : List (List Char)} {line line' content content' : List Char}
    (htext : Text.lines text.toList = above ++ line :: below)
    (htext' : Text.lines text'.toList = above ++ line' :: below)
    (hrewords : Rewords ⟨"/*", "*/"⟩ (endsInside schema false above) content content' line line')
    (hcloses : (stripComments ⟨"/*", "*/"⟩ false content).2 = false)
    (hcloses' : (stripComments ⟨"/*", "*/"⟩ false content').2 = false) :
    (parse schema text).map (Node.mask (1 + above.length))
      = (parse schema text').map (Node.mask (1 + above.length)) := by
  have hdialect : IsDialect schema ∧ schema.blockComment = some ⟨"/*", "*/"⟩ := by
    simp only [List.mem_cons, List.not_mem_nil, or_false] at hschema
    rcases hschema with rfl | rfl | rfl <;> exact ⟨⟨rfl, ⟨rfl, rfl⟩, rfl⟩, rfl⟩
  obtain ⟨hends, hpieces⟩ :=
    hrewords.pieces (by decide) (by decide) (by decide) hcloses hcloses'
  have hmasked := hdialect.1.map_mask_parse htext
  have hmasked' := hdialect.1.map_mask_parse htext'
  simp only [uncommented, hdialect.2, hends, hpieces] at hmasked hmasked'
  rw [hmasked, hmasked']

/-- A section with a message in quotes. -/
def withMessage (message : String) : String :=
  "system \x7b\n    login message \"" ++ message ++ "\";\n    host-name r1;\n\x7d\n"

theorem parse_rewords_message :
    (parse Schema.juniperJunos (withMessage "no access")).map (Node.mask 2)
        = (parse Schema.juniperJunos (withMessage "\x7d # /* none */ ;")).map (Node.mask 2) ∧
      (parse Schema.juniperJunos (withMessage "\x7d # /* none */ ;")).walk.map (·.span)
        = [⟨1, 4⟩, ⟨2, 2⟩, ⟨3, 3⟩] := by
  let above := ["system \x7b".toList]
  let below := ["    host-name r1;".toList, "\x7d".toList]
  let line (message : String) : List Char :=
    "    login message ".toList ++ '"' :: (message.toList ++ '"' :: ";".toList)
  have htext : Text.lines (withMessage "no access").toList = above ++ line "no access" :: below := by
    decide +kernel
  have htext' : Text.lines (withMessage "\x7d # /* none */ ;").toList
      = above ++ line "\x7d # /* none */ ;" :: below := by
    decide +kernel
  have hbefore : stripComments ⟨"/*", "*/"⟩ (endsInside Schema.juniperJunos false above)
      "    login message ".toList = ("    login message ".toList, false) := by
    decide +kernel
  have hrewords : Rewords ⟨"/*", "*/"⟩ (endsInside Schema.juniperJunos false above)
      "no access".toList "\x7d # /* none */ ;".toList (line "no access")
      (line "\x7d # /* none */ ;") :=
    .string ";".toList hbefore (by decide +kernel) (by decide +kernel) (by decide +kernel)
  exact ⟨parse_rewords List.mem_cons_self htext htext' hrewords (by decide +kernel)
    (by decide +kernel), by decide +kernel⟩

/-- A text in quotes that opens a block comment hides what is below it. -/
theorem parse_message_opensComment :
    Text.lines (withMessage "a").toList = ["system \x7b".toList, "    login message \"a\";".toList,
      "    host-name r1;".toList, "\x7d".toList] ∧
    Text.lines (withMessage "a /* b").toList = ["system \x7b".toList,
      "    login message \"a /* b\";".toList, "    host-name r1;".toList, "\x7d".toList] ∧
    (parse Schema.juniperJunos (withMessage "a")).walk.map (·.span)
      = [⟨1, 4⟩, ⟨2, 2⟩, ⟨3, 3⟩] ∧
    (parse Schema.juniperJunos (withMessage "a /* b")).walk.map (·.span)
      = [⟨1, 2⟩, ⟨2, 2⟩] := by
  decide +kernel

end DeviceLint
