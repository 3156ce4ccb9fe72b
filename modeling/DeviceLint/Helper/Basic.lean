/-
Helpers: functions that conditions call by name.

A helper belongs to a family of dialects or is common to all.  A name with a dot before
it names the family, in letters of any case, and falls back to the common helper.  A
name without a dot means the common helper; only if there is none does it stand for
whichever helper of that name the family of the scan has, and then it is not known
before the scan whether there is one.
-/
import DeviceLint.Context

namespace DeviceLint

/-- What is wrong with the arguments of a helper. -/
inductive ArgumentFault where
  | noNode
  /-- There are not that many literals; the first one is number one. -/
  | noLiteral (position : Nat)
  | notText
  | notIndex
  /-- Whatever else a helper may object to. -/
  | other (text : String)
  deriving DecidableEq, Repr

namespace ArgumentFault

def message : ArgumentFault → String
  | noNode => "expected a node argument"
  | noLiteral position => s!"missing literal argument #{position}"
  | notText => "prefix must be a string"
  | notIndex => "index must be a non-negative integer"
  | other text => text

end ArgumentFault

inductive HelperError where
  | unknown (name : String)
  /-- The family of the scan has no helper of that name. -/
  | notInFamily (name family : String)
  | badArgument (name : String) (fault : ArgumentFault)
  deriving DecidableEq, Repr

namespace HelperError

def message : HelperError → String
  | unknown name => s!"Unknown helper: {name}"
  | notInFamily name family =>
    s!"Helper '{name}' has no implementation for vendor family '{family}'"
  | badArgument name fault => s!"Helper '{name}': {fault.message}"

end HelperError

inductive Argument where
  | node (n : Node)
  | context (c : Context)
  | value (v : Value)

abbrev Helper := List Argument → Except HelperError Value

namespace Argument

def node? : Argument → Option Node
  | node n => some n
  | _ => none

def value? : Argument → Option Value
  | value v => some v
  | _ => none

/-- The first node among the arguments of a helper. -/
def firstNode (helper : String) (args : List Argument) : Except HelperError Node :=
  match args.findSome? node? with
  | some n => .ok n
  | none => .error (.badArgument helper .noNode)

/-- A literal among the arguments of a helper, by its place among the literals. -/
def literal (helper : String) (args : List Argument) (i : Nat) : Except HelperError Value :=
  match (args.filterMap value?)[i]? with
  | some v => .ok v
  | none => .error (.badArgument helper (.noLiteral (i + 1)))

end Argument

/-- What a helper is registered under. -/
structure HelperKey where
  /-- None if the helper is common. -/
  family : Option String
  name : String
  deriving DecidableEq, Repr

namespace HelperKey

/-- The key under which a helper of a family is registered. -/
def make (family : Option String) (name : String) : HelperKey := ⟨family.map lowerCase, name⟩

def qualified (k : HelperKey) : String :=
  match k.family with
  | some family => s!"{family}.{k.name}"
  | none => k.name

end HelperKey

/-- Helpers by their keys, of which no two are equal. -/
structure HelperRegistry where
  entries : List (HelperKey × Helper)

/-- Where a name leads. -/
inductive Target where
  | fixed (body : Helper)
  /-- Whatever the family of the scan has; these are the choices. -/
  | dispatched (choices : List (String × Helper))

/-- A helper's name together with where it leads. -/
structure ResolvedHelper where
  name : String
  target : Target

namespace ResolvedHelper

def call (h : ResolvedHelper) (c : Context) (args : List Argument) : Except HelperError Value :=
  match h.target with
  | .fixed body => body args
  | .dispatched choices =>
    match choices.lookup c.family with
    | some body => body args
    | none => .error (.notInFamily h.name c.family)

end ResolvedHelper

namespace HelperRegistry

def empty : HelperRegistry := ⟨[]⟩

/-- Registers a helper, in place of one under the same key. -/
def register (r : HelperRegistry) (key : HelperKey) (body : Helper) : HelperRegistry :=
  ⟨r.entries.filter (·.1 != key) ++ [(key, body)]⟩

def get? (r : HelperRegistry) (key : HelperKey) : Option Helper := r.entries.lookup key

/-- The qualified names of all helpers in ascending order. -/
def names (r : HelperRegistry) : List String :=
  (r.entries.map (·.1.qualified)).mergeSort (fun a b => decide (a ≤ b))

/-- The helpers of one name in all families that have it. -/
def inFamilies (r : HelperRegistry) (name : String) : List (String × Helper) :=
  r.entries.filterMap fun (key, body) =>
    match key.family with
    | some family => if key.name == name then some (family, body) else none
    | none => none

/-- Where a name without a family leads. -/
def plainTarget? (r : HelperRegistry) (name : String) : Option Target :=
  match r.get? ⟨none, name⟩ with
  | some body => some (.fixed body)
  | none =>
    match r.inFamilies name with
    | [] => none
    | choices => some (.dispatched choices)

/-- Where a name in a family leads. -/
def familyTarget? (r : HelperRegistry) (family name : String) : Option Target :=
  ((r.get? (.make (some family) name)).or (r.get? ⟨none, name⟩)).map .fixed

/-- Where a name leads, qualified or not. -/
def target? (r : HelperRegistry) (qualified : String) : Option Target :=
  match Text.splitAt? ['.'] qualified.toList with
  | some (_, []) => none
  | some (family, name) => r.familyTarget? (String.ofList family) (String.ofList name)
  | none => if qualified.isEmpty then none else r.plainTarget? qualified

def resolve (r : HelperRegistry) (qualified : String) : Except HelperError ResolvedHelper :=
  match r.target? qualified with
  | some target => .ok ⟨qualified, target⟩
  | none => .error (.unknown qualified)

end HelperRegistry

end DeviceLint
