import PluginSandbox.Address.Text

/-!
# Address blocks

A block is a network address and the number of leading bits that its members
share with it. Membership looks at the canonical form of an address, so an
IPv4-mapped IPv6 address belongs to IPv4 blocks and to no IPv6 block.

## Main definitions

* `Cidr`: a block of addresses.
* `Cidr.contains`: membership, by comparing masked words.
* `Cidr.read`, `Cidr.render`: the notation `network/length`.
* `CidrError`: why a text is no block.
-/

namespace PluginSandbox

open Text

/-- A block of addresses of one family. -/
structure Cidr where
  /-- An address of the block; the bits behind the shared ones play no part. -/
  network : Ip
  /-- How many leading bits the members share. -/
  length : Nat
  deriving DecidableEq

/-- Why a text is not an address block. -/
inductive CidrError where
  /-- There is no `/`. -/
  | missingLength
  /-- The part before the first `/` is not an address. -/
  | badNetwork
  /-- The part behind it is not a number up to 255. -/
  | badLength
  /-- The length is larger than the number of bits of the address. -/
  | tooLong (length max : Nat)
  deriving DecidableEq

/-- The message about a text that is not a block. -/
def CidrError.message (source : String) : CidrError → String
  | missingLength => s!"missing prefix length in CIDR '{source}'"
  | badNetwork => s!"invalid network address in CIDR '{source}'"
  | badLength => s!"invalid prefix length in CIDR '{source}'"
  | tooLong length max => s!"prefix length {length} exceeds {max} in CIDR '{source}'"

namespace Cidr

/-- The word whose `length` leading bits are set. -/
def mask (w length : Nat) : BitVec w :=
  if length = 0 then 0 else BitVec.allOnes w <<< (w - length)

/-- The address lies in the block. -/
def contains (block : Cidr) (ip : Ip) : Bool :=
  match block.network, ip.canonical with
  | .v4 net, .v4 a => net &&& mask 32 block.length == a &&& mask 32 block.length
  | .v6 net, .v6 a => net &&& mask 128 block.length == a &&& mask 128 block.length
  | _, _ => false

/-- The block that a text writes as `network/length`. -/
def read (cs : List Char) : Except CidrError Cidr :=
  match splitOnce '/' cs with
  | none => .error .missingLength
  | some (front, back) =>
    match Ip.read front with
    | none => .error .badNetwork
    | some network =>
      match readBounded 255 back with
      | none => .error .badLength
      | some length =>
        if length ≤ network.width then .ok ⟨network, length⟩
        else .error (.tooLong length network.width)

/-- The notation of a block. -/
def render (block : Cidr) : List Char := block.network.render ++ '/' :: showNat block.length

@[simp] theorem read_eq_ok_length {cs : List Char} {block : Cidr} (h : read cs = .ok block) :
    block.length ≤ block.network.width := by
  simp only [read] at h
  split at h <;> try contradiction
  split at h <;> try contradiction
  split at h <;> try contradiction
  split at h
  case isTrue hl =>
    cases h
    exact hl
  case isFalse => contradiction

end Cidr

end PluginSandbox
