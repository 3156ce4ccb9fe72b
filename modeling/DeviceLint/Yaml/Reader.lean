/-
Reading YAML.

A text holds one document, or none.  Nodes are read from the tokens; a node with nothing
in it is an unquoted scalar without text.  An alias stands for the node of its anchor, of
which the latest before it counts.  A node that holds itself is unfit where it does, and so
is what is nested too deep: it may only stand where nobody reads it.
-/
import DeviceLint.Data.Document
import DeviceLint.Yaml.Token

namespace DeviceLint.Yaml

structure State where
  tokens : List Token
  /-- The nodes under their anchors, latest first; none for a node that is still being read. -/
  anchors : List (String × Option Document) := []
  /-- What the handles of tags stand for. -/
  handles : List (String × String) := []

abbrev Reader (α : Type) := StateT State Option α

namespace Reader

def refuse {α : Type} : Reader α := fun _ => none

def peek? : Reader (Option Token) := do return (← get).tokens.head?

def drop : Reader Unit := modify fun s => { s with tokens := s.tokens.drop 1 }

/-- Passes a token if it comes next, and tells whether it does. -/
def accept (t : Token) : Reader Bool := do
  if (← peek?) == some t then
    drop
    return true
  else return false

def expect (t : Token) : Reader Unit := do
  if ← accept t then pure () else refuse

def bind (name : String) (d : Option Document) : Reader Unit :=
  modify fun s => { s with anchors := (name, d) :: s.anchors }

end Reader

open Reader

/-- A node with nothing in it. -/
def blank : Document := .plain ""

/-- What stands before a node. -/
structure Properties where
  anchor : Option String := none
  tag : Option String := none

namespace Properties

/-- The node with its tag. -/
def apply (p : Properties) (d : Document) : Document :=
  match p.tag with
  | some tag => .tagged tag d
  | none => d

def isEmpty (p : Properties) : Bool := p.anchor.isNone && p.tag.isNone

/-- A scalar with its tag, of which a mere mark means nothing. -/
def applyToScalar (p : Properties) (plain : Bool) (text : String) : Document :=
  let d := if plain then Document.plain text else .text text
  if p.tag == some "!" then d else p.apply d

end Properties

/-- A tag in full. -/
def resolveTag (handle suffix : String) : Reader String := do
  if handle.isEmpty then return suffix
  else
    let known := (← get).handles ++ [("!", "!"), ("!!", "tag:yaml.org,2002:")]
    match known.lookup handle with
    | some start => return start ++ suffix
    | none => refuse

/-- An anchor, if one comes next. -/
def readAnchor : Reader (Option String) := do
  match ← peek? with
  | some (.anchor name) =>
    drop
    return some name
  | _ => return none

/-- A tag, if one comes next. -/
def readTag : Reader (Option String) := do
  match ← peek? with
  | some (.tag handle suffix) =>
    drop
    return some (← resolveTag handle suffix)
  | _ => return none

/-- An anchor and a tag, in either order. -/
def readProperties : Reader Properties := do
  match ← readAnchor with
  | some name => return ⟨some name, ← readTag⟩
  | none =>
    let tag ← readTag
    if tag.isSome then return ⟨← readAnchor, tag⟩ else return {}

/-- The node of an anchor. -/
def resolveAlias (name : String) : Reader Document := do
  match (← get).anchors.lookup name with
  | some (some d) => return d
  | some none => return .unfit
  | none => refuse

/-- Whether the next token ends a node that has nothing in it; `enders` are such tokens. -/
def isMissing (enders : List Token) : Reader Bool := do
  match ← peek? with
  | some t => return enders.contains t
  | none => return false

/-- A collection, one level deeper, if there is room for it. -/
def collection {α : Type} (depth : Nat) (p : Properties) (make : α → Document)
    (read : Nat → Reader α) : Reader Document := do
  let a ← read (depth - 1)
  return if depth == 0 then .unfit else p.apply (make a)

mutual

/-- A node with its properties.  In a flow collection no block can begin; in a block mapping a
sequence need not be indented. -/
def readNode (fuel depth : Nat) (inBlock indentless : Bool) : Reader Document :=
  match fuel with
  | 0 => refuse
  | fuel + 1 => do
    match ← peek? with
    | some (.alias name) =>
      drop
      resolveAlias name
    | _ =>
      let properties ← readProperties
      match properties.anchor with
      | some name =>
        bind name none
        let d ← readContent fuel depth inBlock indentless properties
        bind name (some d)
        return d
      | none => readContent fuel depth inBlock indentless properties

/-- A node after its properties. -/
def readContent (fuel depth : Nat) (inBlock indentless : Bool) (p : Properties) :
    Reader Document :=
  match fuel with
  | 0 => refuse
  | fuel + 1 => do
    match ← peek? with
    | some (.scalar plain text) =>
      drop
      return p.applyToScalar plain text
    | some .blockEntry =>
      if indentless then collection depth p .list (readIndentless fuel)
      else if p.isEmpty then refuse
      else return p.apply blank
    | some .flowSequenceStart =>
      drop
      collection depth p .list (readFlowSequence fuel true)
    | some .flowMappingStart =>
      drop
      collection depth p .map (readFlowMapping fuel true)
    | some .blockSequenceStart =>
      if inBlock then
        drop
        collection depth p .list (readBlockSequence fuel)
      else if p.isEmpty then refuse
      else return p.apply blank
    | some .blockMappingStart =>
      if inBlock then
        drop
        collection depth p .map (readBlockMapping fuel)
      else if p.isEmpty then refuse
      else return p.apply blank
    | _ => if p.isEmpty then refuse else return p.apply blank

/-- The rest of a block sequence. -/
def readBlockSequence (fuel depth : Nat) : Reader (List Document) :=
  match fuel with
  | 0 => refuse
  | fuel + 1 => do
    if ← accept .blockEntry then
      let d ← if ← isMissing [.blockEntry, .blockEnd] then pure blank
        else readNode fuel depth true false
      return d :: (← readBlockSequence fuel depth)
    else
      expect .blockEnd
      return []

/-- The rest of a sequence that is not indented; it ends before the first other token. -/
def readIndentless (fuel depth : Nat) : Reader (List Document) :=
  match fuel with
  | 0 => refuse
  | fuel + 1 => do
    if ← accept .blockEntry then
      let d ← if ← isMissing [.blockEntry, .key, .value, .blockEnd] then pure blank
        else readNode fuel depth true false
      return d :: (← readIndentless fuel depth)
    else return []

/-- The rest of a block mapping. -/
def readBlockMapping (fuel depth : Nat) : Reader (List (Document × Document)) :=
  match fuel with
  | 0 => refuse
  | fuel + 1 => do
    let enders := [Token.key, .value, .blockEnd]
    if ← accept .key then
      let k ← if ← isMissing enders then pure blank else readNode fuel depth true true
      let v ← if ← accept .value then
          if ← isMissing enders then pure blank else readNode fuel depth true true
        else pure blank
      return (k, v) :: (← readBlockMapping fuel depth)
    else
      expect .blockEnd
      return []

/-- The rest of a flow sequence, in which a pair is a mapping of its own. -/
def readFlowSequence (fuel : Nat) (first : Bool) (depth : Nat) : Reader (List Document) :=
  match fuel with
  | 0 => refuse
  | fuel + 1 => do
    if ← accept .flowSequenceEnd then return []
    else
      if !first then expect .flowEntry
      if ← accept .flowSequenceEnd then return []
      else
        let d ← if ← accept .key then collection depth {} .map (readPair fuel)
          else readNode fuel depth false false
        return d :: (← readFlowSequence fuel false depth)

/-- The one pair of a mapping in a flow sequence, after the token of its key. -/
def readPair (fuel depth : Nat) : Reader (List (Document × Document)) :=
  match fuel with
  | 0 => refuse
  | fuel + 1 => do
    if ← isMissing [.value, .flowEntry, .flowSequenceEnd] then
      drop
      return [(blank, blank)]
    else
      let k ← readNode fuel depth false false
      let v ← if ← accept .value then
          if ← isMissing [.flowEntry, .flowSequenceEnd] then pure blank
          else readNode fuel depth false false
        else pure blank
      return [(k, v)]

/-- The rest of a flow mapping; a node that is no key has nothing as its value. -/
def readFlowMapping (fuel : Nat) (first : Bool) (depth : Nat) :
    Reader (List (Document × Document)) :=
  match fuel with
  | 0 => refuse
  | fuel + 1 => do
    if ← accept .flowMappingEnd then return []
    else
      if !first then expect .flowEntry
      if ← accept .flowMappingEnd then return []
      else
        let pair ← if ← accept .key then do
            let k ← if ← isMissing [.value, .flowEntry, .flowMappingEnd] then pure blank
              else readNode fuel depth false false
            let v ← if ← accept .value then
                if ← isMissing [.flowEntry, .flowMappingEnd] then pure blank
                else readNode fuel depth false false
              else pure blank
            pure (k, v)
          else pure (← readNode fuel depth false false, blank)
        return pair :: (← readFlowMapping fuel false depth)

end

/-- The deepest nesting that is read. -/
def deepest : Nat := 128

/-- Enough steps for every token. -/
def stepsFor (tokens : List Token) : Nat := 4 * tokens.length + 4

/-- The directives before a document, each of which may be there once. -/
def readDirectives (version : Bool) : Nat → Reader Bool
  | 0 => return version
  | fuel + 1 => do
    match ← peek? with
    | some (.versionDirective major minor) =>
      if version || major != 1 || (minor != 1 && minor != 2) then refuse
      else
        drop
        readDirectives true fuel
    | some (.tagDirective handle start) =>
      if ((← get).handles.lookup handle).isSome then refuse
      else
        drop
        modify fun s => { s with handles := (handle, start) :: s.handles }
        readDirectives version fuel
    | _ => return version

/-- Whether the next token begins a document that says so. -/
def startsExplicitly : Reader Bool := do
  match ← peek? with
  | some .documentStart => return true
  | some (.versionDirective _ _) => return true
  | some (.tagDirective _ _) => return true
  | _ => return false

/-- The only document of a text. -/
def readDocument : Reader Document := do
  let fuel := stepsFor (← get).tokens
  if (← peek?).isNone then return blank
  else if ← startsExplicitly then
    let _ ← readDirectives false fuel
    expect .documentStart
    if (← startsExplicitly) || (← isMissing [.documentEnd]) || (← peek?).isNone then return blank
    else readNode fuel deepest true false
  else readNode fuel deepest true false

/-- The document of a text; none if the text is not well formed or holds more than one. -/
def read? (text : String) : Option Document := do
  let cs := text.toList
  if !cs.all isAllowed then none
  else
    let (d, s) ← readDocument.run { tokens := ← tokens? cs }
    if s.tokens.all (· == .documentEnd) then some d else none

end DeviceLint.Yaml
