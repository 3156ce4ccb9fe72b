/-
The tree a configuration is read into, whatever its dialect.

A node is one statement.  Its `id` is the statement in a normal form, without the
punctuation that ended it and with single spaces; its parameters are the tokens of that
id.  Text that stands between quotes is one token, so a description keeps its blanks.

Selectors pick nodes by their leading words: `line vty` matches `line vty 0 4` and
neither `line con 0` nor `lines vty`.  Matching ignores the case of ASCII letters.
-/
import DeviceLint.Finding
import DeviceLint.Text.Ascii
import DeviceLint.Text.Blank
import DeviceLint.Text.Case

namespace DeviceLint

/-! ### Statements -/

namespace Statement

/-- Statement punctuation: what a dialect with braces leaves at the end of a statement. -/
def isTrailing (c : Char) : Bool := c == ';' || c == '\x7b' || Text.isBlank c

/-- The normal form of a statement. -/
def normalize (s : List Char) : List Char :=
  Text.collapse (Text.dropEnd isTrailing (Text.trim s))

/-- What the reader of tokens is in the middle of. -/
inductive Reading where
  /-- Between tokens. -/
  | between
  /-- Inside a token whose characters so far are `token`, in reverse. -/
  | bare (token : List Char)
  /-- Inside quotes, which are part of a token. -/
  | quoted (quote : Char) (token : List Char)

namespace Reading

/-- One character on: the next state, and a token if it ended one.  A double quote always opens
quotes; a single one does so at the start of a token only, for it may be an apostrophe. -/
def step : Reading → Char → Reading × Option (List Char)
  | .quoted q token, c => if c == q then (.bare token, none) else (.quoted q (c :: token), none)
  | .bare token, c =>
    if c == '"' then (.quoted c token, none)
    else if Text.isBlank c then (.between, some token.reverse)
    else (.bare (c :: token), none)
  | .between, c =>
    if c == '"' || c == '\'' then (.quoted c [], none)
    else if Text.isBlank c then (.between, none)
    else (.bare [c], none)

/-- The token that the end of the text ends; quotes need not be closed. -/
def finish : Reading → List (List Char)
  | .between => []
  | .bare token => [token.reverse]
  | .quoted _ token => [token.reverse]

end Reading

/-- The tokens of a text, read on from a state. -/
def tokensFrom (r : Reading) : List Char → List (List Char)
  | [] => r.finish
  | c :: s =>
    let (next, token) := r.step c
    token.toList ++ tokensFrom next s

/-- The tokens of a text, without their quotes. -/
def tokens (s : List Char) : List (List Char) := tokensFrom .between s

end Statement

/-! ### Selectors -/

namespace Selector

/-- Whether the words of `wanted` are the first of the words `offered`. -/
def leads (wanted offered : List (List Char)) : Bool :=
  match wanted, offered with
  | [], _ => true
  | _, [] => false
  | w :: ws, o :: os => Text.eqIgnoreAsciiCase o w && leads ws os

/-- Whether a selector matches an id; a blank selector matches nothing. -/
def matchesId (selector id : String) : Bool :=
  let wanted := Text.words selector.toList
  !wanted.isEmpty && leads wanted (Text.words id.toList)

end Selector

/-! ### Nodes -/

/-- A section may hold other nodes, though it need not; a leaf never does. -/
inductive NodeKind where
  | group
  | leaf
  deriving DecidableEq, Repr

namespace NodeKind

def name : NodeKind → String
  | .group => "section"
  | .leaf => "leaf"

end NodeKind

structure Node where
  id : String
  /-- The source lines of the statement itself. -/
  raw : String
  params : List String
  kind : NodeKind
  children : List Node
  span : Span
  deriving Repr

/-- The top-level nodes of a configuration, in source order. -/
abbrev Tree := List Node

namespace Node

mutual

/-- Whether two nodes are the same, children and all. -/
def decEq : (n m : Node) → Decidable (n = m)
  | ⟨id, raw, params, kind, children, span⟩, ⟨id', raw', params', kind', children', span'⟩ =>
    if h : id = id' ∧ raw = raw' ∧ params = params' ∧ kind = kind' ∧ span = span' then
      match decEqAll children children' with
      | .isTrue hchildren => .isTrue (by simp [h, hchildren])
      | .isFalse hchildren => .isFalse (by simp [hchildren])
    else .isFalse (by
      rintro ⟨⟩
      exact h ⟨rfl, rfl, rfl, rfl, rfl⟩)

def decEqAll : (ns ms : List Node) → Decidable (ns = ms)
  | [], [] => .isTrue rfl
  | [], _ :: _ => .isFalse (by simp)
  | _ :: _, [] => .isFalse (by simp)
  | n :: ns, m :: ms =>
    match decEq n m, decEqAll ns ms with
    | .isTrue hn, .isTrue hns => .isTrue (by rw [hn, hns])
    | .isFalse hn, _ => .isFalse (by simp [hn])
    | _, .isFalse hns => .isFalse (by simp [hns])

end

instance : DecidableEq Node := decEq

/-- The node of a statement, so far without children. -/
def ofStatement (kind : NodeKind) (statement : List Char) (raw : String) (span : Span) : Node :=
  let id := Statement.normalize statement
  { id := String.ofList id
    raw := raw
    params := (Statement.tokens id).map String.ofList
    kind := kind
    children := []
    span := span }

def group (statement : List Char) (raw : String) (span : Span) : Node :=
  ofStatement .group statement raw span

def leaf (statement : List Char) (raw : String) (span : Span) : Node :=
  ofStatement .leaf statement raw span

def isGroup (n : Node) : Bool := n.kind == .group

/-- A parameter by its position; the one at zero is the command word. -/
def param? (n : Node) (i : Nat) : Option String := n.params[i]?

def isMatch (n : Node) (selector : String) : Bool := Selector.matchesId selector n.id

def childrenMatching (n : Node) (selector : String) : List Node :=
  n.children.filter (·.isMatch selector)

/-- The first child that matches. -/
def child? (n : Node) (selector : String) : Option Node :=
  n.children.find? (·.isMatch selector)

/-- Whether the id of some child begins with a text, case aside and with blanks collapsed. -/
def hasChildStarting (n : Node) (start : String) : Bool :=
  let wanted := Text.lower (Text.collapse start.toList)
  n.children.any fun c => wanted.isPrefixOf (Text.lower c.id.toList)

/-- Whether some child is exactly one of these statements, case aside. -/
def hasStatement (n : Node) (statements : List String) : Bool :=
  n.children.any fun c => statements.any fun s =>
    Text.eqIgnoreAsciiCase (Text.collapse s.toList) c.id.toList

/-- The node reached by going to the first matching child for one selector after the other. -/
def descend? (n : Node) : List String → Option Node
  | [] => some n
  | selector :: path => do (← n.child? selector).descend? path

theorem sizeOf_append_le (ms ns : List Node) : sizeOf (ms ++ ns) ≤ sizeOf ms + sizeOf ns := by
  induction ms with
  | nil => exact Nat.le_add_left _ _
  | cons m ms ih =>
      rw [List.cons_append, List.cons.sizeOf_spec, List.cons.sizeOf_spec]
      omega

theorem sizeOf_children_lt (n : Node) : sizeOf n.children < sizeOf n := by
  obtain ⟨id, raw, params, kind, children, span⟩ := n
  show sizeOf children < _
  rw [mk.sizeOf_spec]
  omega

/-- What a walk visits that has still to go through `stack`, the next node on top.  The nodes
directly below a node go on top of all others once it has been visited. -/
def walkFrom : List Node → List Node
  | [] => []
  | n :: stack => n :: walkFrom (n.children ++ stack)
termination_by stack => sizeOf stack
decreasing_by
  have happend := sizeOf_append_le n.children stack
  have hchildren := sizeOf_children_lt n
  rw [List.cons.sizeOf_spec]
  omega

/-- A node and all below it, in source order. -/
def walk (n : Node) : List Node := walkFrom [n]

mutual

def encode : Node → Value
  | ⟨id, raw, params, kind, children, span⟩ =>
    .record [("id", .text id), ("raw_text", .text raw), ("params", .texts params),
      ("type", .text kind.name), ("children", .array (encodeAll children)), ("loc", span.encode)]

def encodeAll : List Node → List Value
  | [] => []
  | n :: ns => encode n :: encodeAll ns

end

end Node

namespace Tree

/-- Every node of a tree, in source order. -/
def walk (t : Tree) : List Node := Node.walkFrom t

/-- The nodes that a selector matches, in source order. -/
def findAll (t : Tree) (selector : String) : List Node := t.walk.filter (·.isMatch selector)

end Tree

end DeviceLint
