/-
What a rule may look at besides its own node.

A context is the whole tree together with the name of its dialect and, if it is a known
one, the schema.  The family of a dialect is the namespace in which its helpers live; a
dialect without a schema is in the family that its name begins with, so `cisco-catos`
is in `cisco`.
-/
import DeviceLint.Address
import DeviceLint.Schema.Basic

namespace DeviceLint

structure Context where
  tree : Tree
  vendor : String
  schema : Option Schema

/-- An address that is configured on an interface. -/
structure InterfaceAddress where
  interface : String
  address : Ipv4
  mask : Ipv4
  deriving DecidableEq, Repr

namespace Node

/-- The address and mask of an `ip address` statement. -/
def addressAndMask? (n : Node) : Option (Ipv4 × Ipv4) := do
  let address ← n.param? 2 >>= Ipv4.parse?
  let mask ← n.param? 3 >>= Ipv4.parse?
  return (address, mask)

/-- The addresses that stand directly in a section. -/
def interfaceAddresses (n : Node) : List InterfaceAddress :=
  (n.childrenMatching "ip address").filterMap fun c =>
    c.addressAndMask?.map fun (address, mask) => ⟨(n.param? 1).getD "", address, mask⟩

end Node

namespace Context

/-- The context of a tree in a dialect with a schema. -/
def ofSchema (s : Schema) (tree : Tree) : Context := ⟨tree, s.id, some s⟩

/-- The context of a tree in a dialect of which only the name is known. -/
def ofName (vendor : String) (tree : Tree) : Context := ⟨tree, vendor, none⟩

/-- The family that a dialect's name begins with. -/
def familyOfName (vendor : String) : String :=
  String.ofList (vendor.toList.takeWhile (· != '-'))

def family (c : Context) : String :=
  match c.schema with
  | some s => if s.family.isEmpty then familyOfName c.vendor else s.family
  | none => familyOfName c.vendor

/-- Whether letter case counts; it does not in a dialect without a schema. -/
def caseSensitive (c : Context) : Bool := c.schema.any (·.caseSensitive)

/-- The addresses of all interface sections of the tree, in source order. -/
def interfaceAddresses (c : Context) : List InterfaceAddress :=
  (c.tree.walk.filter fun n => n.isGroup && n.isMatch "interface").flatMap
    Node.interfaceAddresses

end Context

end DeviceLint
