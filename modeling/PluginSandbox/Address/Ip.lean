/-!
# IP addresses

An address is a word of 32 or 128 bits. An IPv4 address can also be written
inside IPv6, as `::ffff:a.b.c.d`; the canonical form of such an address is the
IPv4 address it carries.

## Main definitions

* `Ip`: an address of either family.
* `Ip.octets`, `Ip.groups`: the parts an address is written in.
* `Ip.canonical`: an address with the IPv4-mapped form removed.
-/

namespace PluginSandbox

/-- An IP address. -/
inductive Ip where
  /-- An IPv4 address. -/
  | v4 (bits : BitVec 32)
  /-- An IPv6 address. -/
  | v6 (bits : BitVec 128)
  deriving DecidableEq

namespace Ip

/-- The `count` least significant digits of `n` in a base, the most significant one first. -/
def wordsOf (base : Nat) : (count : Nat) → (n : Nat) → List Nat
  | 0, _ => []
  | count + 1, n => wordsOf base count (n / base) ++ [n % base]

/-- The number with the given digits in a base, the most significant one first. -/
def ofWords (base : Nat) (words : List Nat) : Nat := words.foldl (fun n w => n * base + w) 0

/-- The number of values of an octet. -/
def octetCount : Nat := 256

/-- The number of values of a group of 16 bits. -/
def groupCount : Nat := 65536

/-- The four octets of an IPv4 address. -/
def octets (a : BitVec 32) : List Nat := wordsOf octetCount 4 a.toNat

/-- The eight 16-bit groups of an IPv6 address. -/
def groups (a : BitVec 128) : List Nat := wordsOf groupCount 8 a.toNat

/-- The IPv4 address with the given octets. -/
def ofOctets (octets : List Nat) : BitVec 32 := BitVec.ofNat 32 (ofWords octetCount octets)

/-- The IPv6 address with the given groups. -/
def ofGroups (groups : List Nat) : BitVec 128 := BitVec.ofNat 128 (ofWords groupCount groups)

/-- The number of IPv4 addresses. -/
def v4Count : Nat := 4294967296

/-- What the upper 96 bits of an IPv4-mapped IPv6 address hold. -/
def mappedMark : Nat := 0xFFFF

/-- An IPv4 address in IPv4-mapped form. -/
def mapped (a : BitVec 32) : BitVec 128 := BitVec.ofNat 128 (mappedMark * v4Count + a.toNat)

/-- The IPv4 address that an IPv4-mapped IPv6 address carries. -/
def unmapped? (a : BitVec 128) : Option (BitVec 32) :=
  if a.toNat / v4Count = mappedMark then some (BitVec.ofNat 32 a.toNat) else none

/-- The address with the IPv4-mapped form removed. -/
def canonical : Ip → Ip
  | v4 a => v4 a
  | v6 a => match unmapped? a with
    | some b => v4 b
    | none => v6 a

/-- The number of bits of the address. -/
def width : Ip → Nat
  | v4 _ => 32
  | v6 _ => 128

@[simp] theorem canonical_v4 (a : BitVec 32) : (v4 a).canonical = v4 a := rfl

@[simp] theorem unmapped?_mapped (a : BitVec 32) : unmapped? (mapped a) = some a := by
  have ha : a.toNat < 2 ^ 32 := a.isLt
  have hm : (mapped a).toNat = mappedMark * v4Count + a.toNat := by
    simp only [mapped, BitVec.toNat_ofNat, mappedMark, v4Count]
    exact Nat.mod_eq_of_lt (by omega)
  have hdiv : (mapped a).toNat / v4Count = mappedMark := by rw [hm, mappedMark, v4Count]; omega
  have hmod : BitVec.ofNat 32 (mapped a).toNat = a := by
    apply BitVec.eq_of_toNat_eq
    rw [BitVec.toNat_ofNat, hm, mappedMark, v4Count]
    omega
  simp only [unmapped?, hdiv, if_true, hmod]

@[simp] theorem canonical_mapped (a : BitVec 32) : (v6 (mapped a)).canonical = v4 a := by
  simp [canonical]

theorem unmapped?_eq_some {a : BitVec 128} {b : BitVec 32} :
    unmapped? a = some b ↔ a = mapped b := by
  constructor
  · intro h
    simp only [unmapped?] at h
    split at h
    case isTrue hd =>
      simp only [Option.some.injEq] at h
      subst h
      apply BitVec.eq_of_toNat_eq
      have ha : a.toNat < 2 ^ 128 := a.isLt
      simp only [mapped, BitVec.toNat_ofNat, mappedMark, v4Count] at hd ⊢
      omega
    case isFalse => simp at h
  · rintro rfl
    simp

@[simp] theorem canonical_canonical (ip : Ip) : ip.canonical.canonical = ip.canonical := by
  cases ip with
  | v4 a => rfl
  | v6 a =>
    cases h : unmapped? a with
    | some b => simp [canonical, h]
    | none => simp [canonical, h]

theorem canonical_eq_v6_iff {ip : Ip} {a : BitVec 128} :
    ip.canonical = v6 a ↔ ip = v6 a ∧ unmapped? a = none := by
  cases ip with
  | v4 b => simp
  | v6 b =>
    cases h : unmapped? b with
    | some c =>
      simp only [canonical, h, v6.injEq, reduceCtorEq, false_iff, not_and]
      rintro rfl
      simp [h]
    | none =>
      simp only [canonical, h, v6.injEq, iff_self_and]
      rintro rfl
      exact h

end Ip

end PluginSandbox
