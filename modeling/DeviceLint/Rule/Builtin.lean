/-
The rules that are always there.

Their ids begin with the family they are for, so that settings can pick them out by the
beginnings of ids.
-/
import DeviceLint.Helper.Builtin
import DeviceLint.Rule.Basic

namespace DeviceLint.Rule

/-! ### Interfaces of any vendor -/

/-- Interfaces in use should say what they are for. -/
def describedInterface : Rule where
  id := "interface-description"
  selector := "interface"
  scope := .many ["cisco-ios", "cisco-nxos", "cisco-iosxr", "arista-eos", "aruba-aoscx",
    "huawei-vrp"]
  category := "documentation"
  info := {
    severity := .info
    description := "Active interfaces should carry a description"
    remediation := "Add `description <text>` to the interface" }
  check := fun n _ => .ok <|
    if n.isShutdown then .informational s!"{n.id} is administratively down"
    else .check n.hasDescription s!"{n.id} has a description" s!"{n.id} has no description"

/-! ### Switches and routers with commands like those of IOS -/

def iosLike : Scope := .many ["cisco-ios", "cisco-nxos", "arista-eos"]

/-- An address that a statement should hold as its parameter number `i`. -/
def addressIn (statement : Node) (i : Nat) : Except Fault Ipv4 :=
  match statement.param? i with
  | none => .error (.failed [s!"incomplete statement '{statement.id}'"])
  | some text =>
    match Ipv4.parse? text with
    | some a => .ok a
    | none => .error (.failed [s!"invalid address '{text}' in '{statement.id}'",
        "invalid IPv4 address syntax"])

/-- The address and the wildcard of a network statement. -/
def networkOf (statement : Node) : Except Fault (Ipv4 × Ipv4) := do
  let network ← addressIn statement 1
  let wildcard ← addressIn statement 2
  return (network, wildcard)

/-- Whether a network holds the address of some interface. -/
def isCovered (addresses : List InterfaceAddress) (network : Ipv4 × Ipv4) : Bool :=
  addresses.any fun a => Ipv4.agreesOutside network.2 a.address network.1

/-- The verdict on the networks of a routing process. -/
def networkVerdict (id : String) (addresses : List InterfaceAddress)
    (networks : List (Ipv4 × Ipv4)) : Verdict :=
  let uncovered := networks.filter fun network => !isCovered addresses network
  if networks.isEmpty then .informational s!"{id} has no network statements"
  else if uncovered.isEmpty then
    .pass s!"All {networks.length} network statement(s) match a configured interface"
  else
    let listed := uncovered.map fun (network, wildcard) => s!"{network.text} {wildcard.text}"
    .fail ("OSPF network " ++ ", ".intercalate listed ++
      " does not match any configured interface")

/-- Every network of a routing process should hold the address of some interface. -/
def coveredNetworks : Rule where
  id := "cisco-ospf-network-match"
  selector := "router ospf"
  scope := .one "cisco-ios"
  category := "routing"
  info := {
    severity := .error
    description := "OSPF network statements should cover a configured interface address"
    remediation := "Fix the network/wildcard pair or remove the stale statement" }
  check := fun n c => do
    let networks ← (n.childrenMatching "network").mapM networkOf
    return networkVerdict n.id c.interfaceAddresses networks

/-- Trunks should list the networks they carry. -/
def restrictedTrunk : Rule where
  id := "cisco-trunk-allowed-vlans"
  selector := "interface"
  scope := iosLike
  category := "switching"
  info := {
    severity := .warning
    description := "Trunk ports should list their allowed VLANs"
    remediation := "Add `switchport trunk allowed vlan <list>`" }
  check := fun n _ => .ok <|
    if !n.isTrunkPort then .informational s!"{n.id} is not a trunk port"
    else .check n.hasAllowedVlans s!"{n.id} restricts allowed VLANs"
      s!"{n.id} trunk carries all VLANs"

/-- The verdict on a remote terminal line by what it lets in. -/
def terminalVerdict (n : Node) : Verdict :=
  match n.child? "transport input" with
  | none => .fail s!"{n.id} has no transport input restriction"
  | some transport =>
    let protocols := transport.params.drop 2
    .check (!protocols.isEmpty && protocols.all (sameWord · "ssh")) s!"{n.id} accepts SSH only"
      (n.id ++ " accepts '" ++ " ".intercalate protocols ++ "'")

/-- Remote terminal lines should let in nothing but SSH. -/
def secureTerminal : Rule where
  id := "cisco-vty-ssh-only"
  selector := "line vty"
  scope := iosLike
  category := "security"
  info := {
    severity := .error
    description := "Remote terminal lines should accept SSH only"
    remediation := "Set `transport input ssh` on every vty line" }
  check := fun n _ => .ok (terminalVerdict n)

def noPlainWebServer : Rule where
  id := "cisco-no-http-server"
  selector := "ip http server"
  scope := iosLike
  category := "security"
  info := {
    severity := .warning
    description := "The unencrypted HTTP server should be disabled"
    remediation := "Configure `no ip http server`" }
  check := fun _ _ => .ok (.fail "Plain-text HTTP management server is enabled")

def noReversiblePassword : Rule where
  id := "cisco-enable-secret"
  selector := "enable password"
  scope := iosLike
  category := "security"
  info := {
    severity := .error
    description := "Privileged access should use `enable secret`"
    remediation := "Replace `enable password` with `enable secret`" }
  check := fun _ _ => .ok (.fail "Enable password is stored with reversible encryption")

/-- The community strings that everybody knows. -/
def wellKnownCommunities : List String := ["public", "private"]

/-- Community strings should not be the ones that everybody knows. -/
def ownCommunity : Rule where
  id := "cisco-snmp-default-community"
  selector := "snmp-server community"
  scope := iosLike
  category := "security"
  info := {
    severity := .error
    description := "SNMP communities must not use default strings"
    remediation := "Use a unique community string, or move to SNMPv3" }
  check := fun n _ =>
    let community := (n.param? 2).getD ""
    .ok (.check (!wellKnownCommunities.contains (lowerCase community))
      "SNMP community is not a well-known default"
      s!"SNMP community '{community}' is a well-known default")

/-! ### Junos -/

/-- The verdict on the remote login of root under `system`. -/
def rootLoginVerdict (n : Node) : Verdict :=
  match n.descend? ["services", "ssh"] with
  | none => .informational "SSH service is not configured"
  | some ssh =>
    let setting := ((ssh.child? "root-login").bind (·.param? 1)).getD "allow"
    .check (sameWord setting "deny") "SSH denies root login" s!"SSH root-login is '{setting}'"

def noRootLogin : Rule where
  id := "juniper-ssh-root-login-deny"
  selector := "system"
  scope := .one "juniper-junos"
  category := "security"
  info := {
    severity := .error
    description := "Root must not log in over SSH"
    remediation := "Set `system services ssh root-login deny`" }
  check := fun n _ => .ok (rootLoginVerdict n)

def noTelnet : Rule where
  id := "juniper-no-telnet"
  selector := "system"
  scope := .one "juniper-junos"
  category := "security"
  info := {
    severity := .error
    description := "Telnet exposes credentials in clear text"
    remediation := "Delete `system services telnet`" }
  check := fun n _ =>
    .ok (.check (n.descend? ["services", "telnet"]).isNone "Telnet service is not enabled"
      "Telnet service is enabled")

/-! ### VRP and FortiOS -/

def noTelnetServer : Rule where
  id := "huawei-telnet-disabled"
  selector := "telnet server enable"
  scope := .one "huawei-vrp"
  category := "security"
  info := {
    severity := .error
    description := "Telnet exposes credentials in clear text"
    remediation := "Configure `undo telnet server enable` and use STelnet" }
  check := fun _ _ => .ok (.fail "Telnet server is enabled")

/-- Interfaces should be administered over encrypted protocols only. -/
def secureAdministration : Rule where
  id := "fortinet-admin-access-secure"
  selector := "set allowaccess"
  scope := .one "fortinet-fortios"
  category := "security"
  info := {
    severity := .error
    description := "Interfaces must not allow clear-text administrative access"
    remediation := "Remove telnet and http from `set allowaccess`" }
  check := fun n _ =>
    let insecure := (n.params.drop 2).filter fun p => ["telnet", "http"].any (sameWord p ·)
    .ok (.check insecure.isEmpty "Administrative access uses encrypted protocols"
      ("Administrative access allows " ++ ", ".intercalate insecure))

/-- All built-in rules, in the order they are run. -/
def builtin : List Rule := [describedInterface, coveredNetworks, restrictedTrunk, secureTerminal,
  noPlainWebServer, noReversiblePassword, ownCommunity, noRootLogin, noTelnet, noTelnetServer,
  secureAdministration]

end DeviceLint.Rule
