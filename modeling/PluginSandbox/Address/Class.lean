import PluginSandbox.Address.Cidr

/-!
# Address classes

The kinds of addresses that do not lead to a public host. Each class has a
test on the written parts of an address, and the list of the blocks that
document it.

## Main definitions

* `AddressClass`: loopback, private, link-local, multicast and unspecified.
* `AddressClass.has`: the test.
* `AddressClass.blocks`: the blocks of a class.
-/

namespace PluginSandbox

/-- A kind of address that does not lead to a public host. -/
inductive AddressClass where
  /-- The host itself. -/
  | loopback
  /-- A private network, or IPv6 unique-local. -/
  | privateUse
  /-- The local link. -/
  | linkLocal
  /-- A group of hosts. -/
  | multicast
  /-- No address at all. -/
  | unspecified
  deriving DecidableEq

namespace AddressClass

/-- All classes, in the order in which they are tested. -/
def all : List AddressClass := [loopback, privateUse, linkLocal, multicast, unspecified]

/-- The name of a class in messages. -/
def name : AddressClass → String
  | loopback => "loopback"
  | privateUse => "private"
  | linkLocal => "link-local"
  | multicast => "multicast"
  | unspecified => "unspecified"

/-- The test of a class on the octets of an IPv4 address. -/
def hasOctets : AddressClass → List Nat → Bool
  | loopback, o => o.take 1 == [127]
  | privateUse, o =>
    o.take 1 == [10] || o.take 2 == [192, 168] ||
      (o.take 1 == [172] && ((o.drop 1).take 1).any fun b => 16 ≤ b && b ≤ 31)
  | linkLocal, o => o.take 2 == [169, 254]
  | multicast, o => (o.take 1).any fun a => 224 ≤ a && a ≤ 239
  | unspecified, o => o == [0, 0, 0, 0]

/-- The test of a class on the groups of an IPv6 address. -/
def hasGroups : AddressClass → List Nat → Bool
  | loopback, g => g == [0, 0, 0, 0, 0, 0, 0, 1]
  | privateUse, g => (g.take 1).any fun a => a &&& 0xFE00 == 0xFC00
  | linkLocal, g => (g.take 1).any fun a => a &&& 0xFFC0 == 0xFE80
  | multicast, g => (g.take 1).any fun a => a &&& 0xFF00 == 0xFF00
  | unspecified, g => g == [0, 0, 0, 0, 0, 0, 0, 0]

/-- The address, taken as it stands, belongs to the class. -/
def has (cls : AddressClass) : Ip → Bool
  | .v4 a => cls.hasOctets (Ip.octets a)
  | .v6 a => cls.hasGroups (Ip.groups a)

/-- A block of IPv4 addresses, by its octets. -/
def v4Block (octets : List Nat) (length : Nat) : Cidr := ⟨.v4 (Ip.ofOctets octets), length⟩

/-- A block of IPv6 addresses, by its groups. -/
def v6Block (groups : List Nat) (length : Nat) : Cidr := ⟨.v6 (Ip.ofGroups groups), length⟩

/-- The blocks that make up a class. -/
def blocks : AddressClass → List Cidr
  | loopback => [v4Block [127, 0, 0, 0] 8, v6Block [0, 0, 0, 0, 0, 0, 0, 1] 128]
  | privateUse =>
    [v4Block [10, 0, 0, 0] 8, v4Block [172, 16, 0, 0] 12, v4Block [192, 168, 0, 0] 16,
      v6Block [0xFC00, 0, 0, 0, 0, 0, 0, 0] 7]
  | linkLocal => [v4Block [169, 254, 0, 0] 16, v6Block [0xFE80, 0, 0, 0, 0, 0, 0, 0] 10]
  | multicast => [v4Block [224, 0, 0, 0] 4, v6Block [0xFF00, 0, 0, 0, 0, 0, 0, 0] 8]
  | unspecified => [v4Block [0, 0, 0, 0] 32, v6Block [0, 0, 0, 0, 0, 0, 0, 0] 128]

end AddressClass

end PluginSandbox
