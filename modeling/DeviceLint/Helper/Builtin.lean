/-
The helpers that are always there.

Most of them are predicates on a node.  Names of physical ports are recognised by what
they begin with, in full or abbreviated, up to the first digit.
-/
import DeviceLint.Helper.Basic
import DeviceLint.Text.Property

namespace DeviceLint

namespace Node

/-- Switched off by an administrator. -/
def isShutdown (n : Node) : Bool := n.hasStatement ["shutdown", "disable"]

/-- Whether some child is a description that says something. -/
def hasDescription (n : Node) : Bool :=
  (n.childrenMatching "description").any fun c =>
    (c.param? 1).any fun d => !(Text.trim d.toList).isEmpty

/-- The first address among the children, with the length of its prefix: from a statement with
an address and a mask, or from one with both in one word. -/
def ipv4Address? (n : Node) : Option (Ipv4 × Nat) :=
  n.children.findSome? fun c =>
    if c.isMatch "ip address" then
      c.addressAndMask?.map fun (address, mask) => (address, mask.prefixLength)
    else if c.isMatch "address" then c.param? 1 >>= Ipv4.parseCidr?
    else none

/-! ### Switch ports -/

def isTrunkPort (n : Node) : Bool := n.hasStatement ["switchport mode trunk"]

def isAccessPort (n : Node) : Bool := n.hasStatement ["switchport mode access"]

/-- Whether a port lists the networks it carries. -/
def hasAllowedVlans (n : Node) : Bool := n.hasChildStarting "switchport trunk allowed vlan"

/-- What the names of physical ports begin with. -/
def physicalNames : List String := ["GigabitEthernet", "FastEthernet", "TenGigabitEthernet",
  "TwentyFiveGigE", "FortyGigabitEthernet", "HundredGigE", "Ethernet", "Gi", "Fa", "Te", "Twe",
  "Fo", "Hu", "Eth", "Et"]

/-- Whether a text begins with a word, whatever the case of the letters, and a digit. -/
def isNumberedName (s : List Char) (word : String) : Bool :=
  let folded := fun t : List Char => t.map Text.foldedCase
  let n := word.length
  folded (s.take n) == folded word.toList && (s[n]?).any Text.isDecimalDigit

/-- An interface that is a physical port, not a loopback, a virtual network or a bundle. -/
def isPhysicalPort (n : Node) : Bool :=
  n.isMatch "interface" &&
    (n.param? 1).any fun name => physicalNames.any (isNumberedName name.toList)

/-- A port that tags networks, in the words of Aruba switches. -/
def isTaggedPort (n : Node) : Bool := !(n.childrenMatching "vlan trunk").isEmpty

/-- A port of the link type for several networks, in the words of Huawei switches. -/
def isTrunkLink (n : Node) : Bool := n.hasChildStarting "port link-type trunk"

/-! ### Statements without effect -/

/-- Disabled, or a statement that is marked as inactive. -/
def isDeactivated (n : Node) : Bool :=
  (n.param? 0).any (sameWord · "inactive:") || n.hasStatement ["disable"]

/-- Down by its administrative state, in either form that Nokia routers have for it. -/
def isAdminDown (n : Node) : Bool := n.hasStatement ["admin-state disable", "shutdown"]

end Node

namespace Helper

/-- A predicate on the node that is passed. -/
def ofPredicate (name : String) (p : Node → Bool) : Helper := fun args => do
  return .bool (p (← Argument.firstNode name args))

def hasChild : Helper := fun args => do
  let n ← Argument.firstNode "hasChild" args
  match ← Argument.literal "hasChild" args 0 with
  | .text start => return .bool (n.hasChildStarting start)
  | _ => .error (.badArgument "hasChild" .notText)

def childCount : Helper := fun args => do
  let n ← Argument.firstNode "childCount" args
  return .nat n.children.length

/-- A parameter of the node, or null if it has no such one. -/
def param : Helper := fun args => do
  let n ← Argument.firstNode "param" args
  match ← Argument.literal "param" args 0 with
  | .number (.int i) =>
    if 0 ≤ i then return .ofOption (n.param? i.toNat)
    else .error (.badArgument "param" .notIndex)
  | _ => .error (.badArgument "param" .notIndex)

/-- The address of the node as `address/length`, or null. -/
def ipv4Address : Helper := fun args => do
  let n ← Argument.firstNode "ipv4Address" args
  return .ofOption (n.ipv4Address?.map fun (address, length) => s!"{address.text}/{length}")

end Helper

namespace HelperRegistry

/-- Helpers for every dialect. -/
def common : List (String × Helper) := [
  ("isShutdown", .ofPredicate "isShutdown" Node.isShutdown),
  ("hasDescription", .ofPredicate "hasDescription" Node.hasDescription),
  ("hasChild", .hasChild),
  ("childCount", .childCount),
  ("param", .param),
  ("ipv4Address", .ipv4Address)]

/-- Predicates that one family of dialects has. -/
def ofFamilies : List (String × String × (Node → Bool)) := [
  ("cisco", "isTrunkPort", Node.isTrunkPort),
  ("cisco", "isAccessPort", Node.isAccessPort),
  ("cisco", "hasAllowedVlans", Node.hasAllowedVlans),
  ("cisco", "isPhysical", Node.isPhysicalPort),
  ("juniper", "isDisabled", Node.isDeactivated),
  ("huawei", "isTrunkPort", Node.isTrunkLink),
  ("aruba", "isTrunkPort", Node.isTaggedPort),
  ("nokia", "isAdminDisabled", Node.isAdminDown)]

/-- The registry of all built-in helpers. -/
def builtin : HelperRegistry :=
  ofFamilies.foldl (fun r (family, name, p) =>
      r.register (.make (some family) name) (Helper.ofPredicate name p))
    (common.foldl (fun r (name, body) => r.register (.make none name) body) empty)

end HelperRegistry

end DeviceLint
