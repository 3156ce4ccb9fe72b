/-
The body of a delimited command.

A command such as `banner motd ^C` takes up all lines down to the next one that contains its
delimiter.  No reader looks into these lines: they are kept word for word in the node of the
command, and that is all that becomes of them.  So whatever stands there, be it comments,
braces, terminators or another banner, the tree is the same but for the source text that
its nodes keep.

Lines without their source text are changed alike, and so are the nodes that are made of
them.  It remains to see that two bodies of equal length make the same lines.
-/
import DeviceLint.Proofs.Coverage
import DeviceLint.Proofs.Uniform
import DeviceLint.Schema.Builtin

namespace DeviceLint

/-! ### Source text -/

namespace Node

mutual

/-- A node without its source text, and without that of all nodes below it. -/
def eraseRaw : Node → Node
  | ⟨id, _, params, kind, children, span⟩ => ⟨id, "", params, kind, eraseRawAll children, span⟩

def eraseRawAll : List Node → List Node
  | [] => []
  | n :: ns => eraseRaw n :: eraseRawAll ns

end

theorem eraseRawAll_eq (ns : List Node) : eraseRawAll ns = ns.map eraseRaw := by
  induction ns with
  | nil => rw [eraseRawAll, List.map_nil]
  | cons n ns ih => rw [eraseRawAll, ih, List.map_cons]

theorem eraseRaw_eq (n : Node) :
    n.eraseRaw = { n with raw := "", children := n.children.map eraseRaw } := by
  cases n
  rw [eraseRaw, eraseRawAll_eq]

theorem eraseRaw_isUniform : IsUniform (fun i => i) eraseRaw where
  kind := fun n => by rw [eraseRaw_eq]
  span_last := fun n => by rw [eraseRaw_eq]
  children := fun n ns => by simp only [eraseRaw_eq]
  group := fun n => by simp only [eraseRaw_eq]
  reaching := fun n last => by simp only [eraseRaw_eq, reaching]

end Node

namespace LogicalLine

def eraseRaw (l : LogicalLine) : LogicalLine := { l with raw := [] }

theorem eraseRaw_isUniform : IsUniform (fun i => i) Node.eraseRaw eraseRaw where
  text := fun _ => rfl
  indent := fun _ => rfl
  last := fun _ => rfl
  ofStatement := fun l kind statement => by
    simp only [Node.ofStatement, Node.eraseRaw_eq, List.map_nil]
    rfl

/-- A statement that is not continued, but for its source text. -/
theorem eraseRaw_start {schema : Schema} (h : schema.continuation.getD "" = "") (n : Nat)
    (line content : List Char) (rest : List (List Char)) :
    (start schema n line content rest).eraseRaw
      = ⟨content, [], n, n + delimited schema content rest,
          indentWidth schema.tabWidth content⟩ := by
  have hle := delimited_le schema content rest
  unfold start
  rw [continued_unmarked h]
  simp only [eraseRaw, Nat.zero_add, List.drop_zero, Nat.min_eq_left hle]

/-! ### Bodies -/

/-- Whether a line opens a body that runs down to the next line that contains the delimiter. -/
def Opens (schema : Schema) (head delimiter : List Char) : Prop :=
  ∃ before after, delimiter? schema (Text.trim head) = some (before, delimiter, after) ∧
    Text.contains after delimiter = false

theorem bodyLength_body {delimiter : List Char} {body : List (List Char)}
    (h : ∀ line ∈ body, Text.contains line delimiter = false) (rest : List (List Char)) :
    bodyLength delimiter (body ++ rest) = body.length + bodyLength delimiter rest := by
  induction body with
  | nil => simp
  | cons line body ih =>
      rw [List.forall_mem_cons] at h
      rw [List.cons_append, bodyLength, if_neg (by simp [h.1]), ih h.2, List.length_cons]
      omega

theorem Opens.delimited {schema : Schema} {head delimiter : List Char}
    (hopens : Opens schema head delimiter) {body : List (List Char)}
    (hbody : ∀ line ∈ body, Text.contains line delimiter = false) (rest : List (List Char)) :
    delimited schema head (body ++ rest) = body.length + bodyLength delimiter rest := by
  obtain ⟨before, after, hdelimiter, hafter⟩ := hopens
  rw [LogicalLine.delimited, hdelimiter]
  dsimp only
  rw [if_neg (by simp [hafter]), bodyLength_body hbody]

/-- The lines of a command with a body, but for their source text: the body is told by its
length only. -/
theorem Opens.gather {schema : Schema} {inside : Bool} {head delimiter : List Char}
    (hopens : Opens schema head delimiter) (hcontinuation : schema.continuation.getD "" = "")
    (hcomment : schema.blockComment = none) (hhead : ¬ isSkipped schema head = true)
    {body : List (List Char)} (hbody : ∀ line ∈ body, Text.contains line delimiter = false)
    (n : Nat) (rest : List (List Char)) :
    (LogicalLine.gather schema inside n (head :: (body ++ rest))).map eraseRaw
      = ⟨head, [], n, n + (body.length + bodyLength delimiter rest),
          indentWidth schema.tabWidth head⟩ ::
        (LogicalLine.gather schema inside (n + (body.length + bodyLength delimiter rest) + 1)
          (rest.drop (bodyLength delimiter rest))).map eraseRaw := by
  have hextra : extra schema head (body ++ rest) = body.length + bodyLength delimiter rest := by
    have hstart := congrArg last (eraseRaw_start hcontinuation 0 [] head (body ++ rest))
    rw [hopens.delimited hbody, Nat.zero_add] at hstart
    exact hstart
  rw [gather_start_of_none hcomment hhead, List.map_cons, eraseRaw_start hcontinuation,
    hopens.delimited hbody, hextra, List.drop_append, List.drop_of_length_le (by omega),
    List.nil_append, Nat.add_sub_cancel_left]

end LogicalLine

open LogicalLine

/--
**What stands in the body of a delimited command changes no tree.**

Two texts are alike but for `body` and `body'`, which have the same number of lines and
follow a line that a logical line starts at and that opens a body.  If none of these lines
contains the delimiter, the trees are the same except for the source text of their nodes.
This holds for every dialect without continuation mark and block comments.
-/
theorem parse_delimitedBody {schema : Schema} (hcontinuation : schema.continuation.getD "" = "")
    (hcomment : schema.blockComment = none) {text text' : String} {head delimiter : List Char}
    {above body body' rest : List (List Char)}
    (htext : Text.lines text.toList = above ++ head :: (body ++ rest))
    (htext' : Text.lines text'.toList = above ++ head :: (body' ++ rest))
    (hlength : body'.length = body.length)
    (hhead : ∃ l ∈ ofText schema text, l.first = above.length + 1)
    (hopens : Opens schema head delimiter)
    (hbody : ∀ line ∈ body, Text.contains line delimiter = false)
    (hbody' : ∀ line ∈ body', Text.contains line delimiter = false) :
    (parse schema text').map Node.eraseRaw = (parse schema text).map Node.eraseRaw := by
  obtain ⟨l, hl, hfirst⟩ := hhead
  rw [ofText, htext] at hl
  rw [Nat.add_comm] at hfirst
  obtain ⟨hseam, hskip⟩ := not_isSkipped_of_first hl hfirst
  rw [uncommented, hcomment] at hskip
  have hlines : (ofText schema text').map eraseRaw = (ofText schema text).map eraseRaw := by
    rw [ofText, htext', ofText, htext, gather_append schema false 1 above _ hseam,
      gather_append schema false 1 above _ hseam, List.map_append, List.map_append,
      hopens.gather hcontinuation hcomment hskip hbody',
      hopens.gather hcontinuation hcomment hskip hbody, hlength]
  rw [parse, parse, ← treeOf_map Node.eraseRaw_isUniform eraseRaw_isUniform, hlines,
    treeOf_map Node.eraseRaw_isUniform eraseRaw_isUniform]

/-- A banner with statements, a comment, a terminator and another banner in its text. -/
theorem parse_delimitedBody_banner :
    let text := "hostname r1\nbanner motd #\nwelcome\n\n  to r1\n#\ninterface e0\n shutdown\n"
    let text' :=
      "hostname r1\nbanner motd #\n banner login ^C\n! x\nend\n#\ninterface e0\n shutdown\n"
    (parse Schema.ciscoIos text').map Node.eraseRaw
        = (parse Schema.ciscoIos text).map Node.eraseRaw ∧
      (parse Schema.ciscoIos text).walk.map (fun n => (n.id, n.span)) =
        [("hostname r1", ⟨1, 1⟩), ("banner motd #", ⟨2, 6⟩), ("interface e0", ⟨7, 8⟩),
          ("shutdown", ⟨8, 8⟩)] := by
  intro text text'
  have hcontinuation : Schema.ciscoIos.continuation.getD "" = "" := rfl
  have htext : Text.lines text.toList = ["hostname r1".toList] ++ "banner motd #".toList ::
      (["welcome".toList, [], "  to r1".toList] ++
        ["#".toList, "interface e0".toList, " shutdown".toList]) := by
    decide
  have htext' : Text.lines text'.toList = ["hostname r1".toList] ++ "banner motd #".toList ::
      ([" banner login ^C".toList, "! x".toList, "end".toList] ++
        ["#".toList, "interface e0".toList, " shutdown".toList]) := by
    decide
  have hopens : Opens Schema.ciscoIos "banner motd #".toList "#".toList :=
    ⟨"banner motd ".toList, [], by decide +kernel, by decide⟩
  refine ⟨parse_delimitedBody hcontinuation rfl htext htext' rfl (by decide +kernel) hopens
    (by decide) (by decide), by decide +kernel⟩

end DeviceLint
