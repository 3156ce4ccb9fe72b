/-
IPv4 addresses and netmasks.

An address is written as four decimal octets with dots between them and no leading
zeros.  A mask is an address too; its prefix length is the number of bits set in it,
wherever they stand, so `0.0.0.255` has length 8.
-/
import DeviceLint.Text.Numeral

namespace DeviceLint

structure Ipv4 where
  bits : BitVec 32
  deriving DecidableEq, Repr

namespace Ipv4

def ofOctets (a b c d : Nat) : Ipv4 :=
  ⟨BitVec.ofNat 32 (((a * 256 + b) * 256 + c) * 256 + d)⟩

/-- The octets, most significant first. -/
def octets (a : Ipv4) : List Nat :=
  let n := a.bits.toNat
  [n / Nat.pow 2 24, n / Nat.pow 2 16 % 256, n / Nat.pow 2 8 % 256, n % 256]

def text (a : Ipv4) : String := ".".intercalate (a.octets.map toString)

/-- One octet: at most 255, and `0` is the only one that begins with a zero. -/
def octet? (s : List Char) : Option Nat :=
  match s with
  | '0' :: _ :: _ => none
  | _ => (Text.digits? s).filter (· < 256)

def parse? (s : String) : Option Ipv4 :=
  match (Text.splitOn '.' s.toList).map octet? with
  | [some a, some b, some c, some d] => some (ofOctets a b c d)
  | _ => none

/-- How many bits of a mask are set. -/
def prefixLength (mask : Ipv4) : Nat :=
  (List.range 32).countP fun i => mask.bits.getLsbD i

/-- An address and a prefix length, as in `10.0.0.1/24`. -/
def parseCidr? (s : String) : Option (Ipv4 × Nat) := do
  let (address, length) ← Text.splitAt? ['/'] s.toList
  let length ← Text.numeral? 33 length
  return (← parse? (String.ofList address), length)

/-- Whether two addresses agree on every bit that `wildcard` leaves clear. -/
def agreesOutside (wildcard a b : Ipv4) : Bool :=
  a.bits &&& ~~~wildcard.bits == b.bits &&& ~~~wildcard.bits

end Ipv4

end DeviceLint
