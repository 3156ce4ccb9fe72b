/-
The dialects that are known without any schema file.
-/
import DeviceLint.Schema.Basic

namespace DeviceLint.Schema

def ciscoIos : Schema where
  id := "cisco-ios"
  family := "cisco"
  description := "Cisco IOS / IOS-XE running-config"
  aliases := ["ios", "cisco", "ios-xe", "cisco-iosxe"]
  commentMarks := ["!"]
  terminators := ["exit", "exit-address-family", "exit-peer-policy", "exit-peer-session",
    "exit-vrf", "end"]
  delimitedCommands := ["banner"]

def ciscoNxos : Schema where
  id := "cisco-nxos"
  family := "cisco"
  description := "Cisco NX-OS running-config"
  aliases := ["nxos", "nx-os"]
  commentMarks := ["!"]
  terminators := ["exit"]
  delimitedCommands := ["banner"]

def ciscoIosxr : Schema where
  id := "cisco-iosxr"
  family := "cisco"
  description := "Cisco IOS-XR running-config"
  aliases := ["iosxr", "ios-xr"]
  commentMarks := ["!"]
  terminators := ["exit", "root", "end-policy", "end-set", "end-group", "end"]
  delimitedCommands := ["banner"]

def aristaEos : Schema where
  id := "arista-eos"
  family := "arista"
  description := "Arista EOS running-config"
  aliases := ["eos", "arista"]
  commentMarks := ["!"]
  terminators := ["exit", "end"]

def arubaAoscx : Schema where
  id := "aruba-aoscx"
  family := "aruba"
  description := "Aruba AOS-CX running-config"
  aliases := ["aoscx", "aruba", "aos-cx"]
  commentMarks := ["!"]
  terminators := ["exit"]

def huaweiVrp : Schema where
  id := "huawei-vrp"
  family := "huawei"
  description := "Huawei VRP current-configuration"
  aliases := ["vrp", "huawei"]
  commentMarks := ["#", "!"]
  terminators := ["quit", "return"]

def cumulusLinux : Schema where
  id := "cumulus-linux"
  family := "cumulus"
  description := "Cumulus Linux ifupdown2 interfaces file"
  aliases := ["cumulus", "ifupdown2"]
  commentMarks := ["#"]
  continuation := some "\\"
  caseSensitive := true

def cumulusNclu : Schema where
  id := "cumulus-nclu"
  family := "cumulus"
  description := "Cumulus NCLU `net add` command list"
  aliases := ["nclu"]
  blockStyle := .flat
  commentMarks := ["#"]
  caseSensitive := true

def juniperJunos : Schema where
  id := "juniper-junos"
  family := "juniper"
  description := "Juniper Junos hierarchical configuration"
  aliases := ["junos", "juniper"]
  blockStyle := .brace
  commentMarks := ["#"]
  blockComment := some ⟨"/*", "*/"⟩
  caseSensitive := true

def juniperSet : Schema where
  id := "juniper-set"
  family := "juniper"
  description := "Juniper Junos `display set` output"
  aliases := ["junos-set"]
  blockStyle := .flat
  commentMarks := ["#"]
  caseSensitive := true

def nokiaSros : Schema where
  id := "nokia-sros"
  family := "nokia"
  description := "Nokia SR OS MD-CLI configuration"
  aliases := ["sros", "nokia", "timos"]
  blockStyle := .brace
  commentMarks := ["#"]
  blockComment := some ⟨"/*", "*/"⟩
  caseSensitive := true

def vyos : Schema where
  id := "vyos"
  family := "vyos"
  description := "VyOS / EdgeOS config.boot"
  aliases := ["edgeos"]
  blockStyle := .brace
  commentMarks := ["#"]
  blockComment := some ⟨"/*", "*/"⟩
  caseSensitive := true

def fortinetFortios : Schema where
  id := "fortinet-fortios"
  family := "fortinet"
  description := "Fortinet FortiOS full-configuration"
  aliases := ["fortios", "fortigate", "fortinet"]
  blockStyle := .keyword
  commentMarks := ["#"]
  keywordBlocks := [⟨"config", "end"⟩, ⟨"edit", "next"⟩]

def builtin : List Schema := [ciscoIos, ciscoNxos, ciscoIosxr, aristaEos, arubaAoscx, huaweiVrp,
  cumulusLinux, cumulusNclu, juniperJunos, juniperSet, nokiaSros, vyos, fortinetFortios]

end DeviceLint.Schema
