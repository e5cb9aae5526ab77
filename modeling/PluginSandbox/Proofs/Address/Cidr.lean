import Mathlib.Algebra.Group.Nat.Defs
import PluginSandbox.Address.Cidr

/-!
# Blocks as ranges of numbers

An address lies in a block if it has the leading bits of the block's network. The
program compares words under a mask; the bits that the mask keeps are the address as
a number, divided by the number of addresses in the block. The mask is made by a
shift that is only defined for less than the width of a word, and no block that can
be read asks for more.

## Main definitions

* `Ip.value`: an address as a number.
* `Cidr.Holds`: the addresses of a block, by their bits.
* `Cidr.mask?`: the mask, where the shift that makes it is defined.
* `Cidr.overlaps`: blocks that may have an address in common.

## Main statements

* `Cidr.contains_iff`: membership by bits.
* `Cidr.contains_iff_div`: membership by numbers.
* `Cidr.contains_of_longer`: blocks of one network.
* `Cidr.overlaps_of_contains`: an address in two blocks.
* `Cidr.quotient_of_read`: what a block that is read contains.
-/

namespace PluginSandbox

namespace Ip

/-- The number that the bits of an address write. -/
def value : Ip → Nat
  | .v4 a => a.toNat
  | .v6 a => a.toNat

theorem value_lt : (ip : Ip) → ip.value < 2 ^ ip.width
  | .v4 a => a.isLt
  | .v6 a => a.isLt

/-- Addresses of one family are told apart by their numbers. -/
theorem eq_of_value {ip ip' : Ip} (hwidth : ip.width = ip'.width) (hvalue : ip.value = ip'.value) :
    ip = ip' := by
  cases ip with
  | v4 a =>
    cases ip' with
    | v4 b => exact congrArg v4 (BitVec.eq_of_toNat_eq hvalue)
    | v6 b => simp [width] at hwidth
  | v6 a =>
    cases ip' with
    | v4 b => simp [width] at hwidth
    | v6 b => exact congrArg v6 (BitVec.eq_of_toNat_eq hvalue)

end Ip

namespace Cidr

/-! ## Bits -/

/-- The address has the leading bits of the block. Both are of one family, where an IPv4-mapped
address counts as the IPv4 address. -/
inductive Holds (block : Cidr) (ip : Ip) : Prop where
  | v4 (net a : BitVec 32) (hnet : block.network = .v4 net) (hip : ip.canonical = .v4 a)
    (hbits : ∀ i < block.length, net.getMsbD i = a.getMsbD i)
  | v6 (net a : BitVec 128) (hnet : block.network = .v6 net) (hip : ip.canonical = .v6 a)
    (hbits : ∀ i < block.length, net.getMsbD i = a.getMsbD i)

/-- The leading bits of a mask are set, and the others are not. -/
theorem getMsbD_mask {w i : Nat} (hi : i < w) (length : Nat) :
    (mask w length).getMsbD i = decide (i < length) := by
  rw [mask]
  split
  case isTrue h => simp [h]
  case isFalse h =>
    rw [BitVec.getMsbD_shiftLeft, BitVec.getMsbD_allOnes, decide_eq_decide]
    omega

/-- Words agree under a mask exactly if they agree on its leading bits. -/
theorem and_mask_eq_iff {w : Nat} (a b : BitVec w) (length : Nat) :
    a &&& mask w length = b &&& mask w length ↔ ∀ i < length, a.getMsbD i = b.getMsbD i := by
  constructor
  · intro h i hi
    by_cases hw : i < w
    · have hbit := congrArg (fun x => x.getMsbD i) h
      simpa [BitVec.getMsbD_and, getMsbD_mask hw, hi] using hbit
    · rw [BitVec.getMsbD_of_ge a i (by omega), BitVec.getMsbD_of_ge b i (by omega)]
  · intro h
    refine BitVec.eq_of_getMsbD_eq fun i hw => ?_
    rw [BitVec.getMsbD_and, BitVec.getMsbD_and, getMsbD_mask hw]
    by_cases hi : i < length
    · rw [h i hi]
    · simp [hi]

theorem contains_iff (block : Cidr) (ip : Ip) : block.contains ip = true ↔ block.Holds ip := by
  rw [contains]
  constructor
  · intro h
    split at h
    case h_1 net a hnet hip => exact .v4 net a hnet hip ((and_mask_eq_iff ..).1 (beq_iff_eq.1 h))
    case h_2 net a hnet hip => exact .v6 net a hnet hip ((and_mask_eq_iff ..).1 (beq_iff_eq.1 h))
    case h_3 => contradiction
  · rintro (⟨net, a, hnet, hip, hbits⟩ | ⟨net, a, hnet, hip, hbits⟩)
    · rw [hnet, hip]
      exact beq_iff_eq.2 ((and_mask_eq_iff ..).2 hbits)
    · rw [hnet, hip]
      exact beq_iff_eq.2 ((and_mask_eq_iff ..).2 hbits)

/-- A block has an address in both of its forms or in none. -/
theorem contains_canonical (block : Cidr) (ip : Ip) :
    block.contains ip.canonical = block.contains ip := by
  rw [contains, contains, Ip.canonical_canonical]

variable {block longer : Cidr} {ip : Ip}

/-- What has more leading bits of a network has fewer of them as well. -/
theorem Holds.of_longer (hnet : longer.network = block.network)
    (hlength : block.length ≤ longer.length) (h : longer.Holds ip) : block.Holds ip := by
  cases h with
  | v4 net a hnet' hip hbits =>
    exact .v4 net a (hnet.symm.trans hnet') hip fun i hi => hbits i (by omega)
  | v6 net a hnet' hip hbits =>
    exact .v6 net a (hnet.symm.trans hnet') hip fun i hi => hbits i (by omega)

/-- A block with more shared bits of the same network has no other addresses. -/
theorem contains_of_longer (hnet : longer.network = block.network)
    (hlength : block.length ≤ longer.length) (h : longer.contains ip = true) :
    block.contains ip = true :=
  (contains_iff block ip).2 (((contains_iff longer ip).1 h).of_longer hnet hlength)

/-- The blocks agree as far as the shorter one goes, so that an address may lie in both. -/
def overlaps (block block' : Cidr) : Bool :=
  let length := min block.length block'.length
  match block.network, block'.network with
  | .v4 a, .v4 b => a &&& mask 32 length == b &&& mask 32 length
  | .v6 a, .v6 b => a &&& mask 128 length == b &&& mask 128 length
  | _, _ => false

/-- An address lies in two blocks only if they overlap. -/
theorem overlaps_of_contains {block' : Cidr} (h : block.contains ip = true)
    (h' : block'.contains ip = true) : block.overlaps block' = true := by
  rw [overlaps]
  rcases (contains_iff block ip).1 h with ⟨net, a, hnet, hip, hbits⟩ | ⟨net, a, hnet, hip, hbits⟩ <;>
  rcases (contains_iff block' ip).1 h' with
    ⟨net', a', hnet', hip', hbits'⟩ | ⟨net', a', hnet', hip', hbits'⟩ <;>
  rw [hip] at hip' <;> cases hip' <;> rw [hnet, hnet'] <;>
  · refine beq_iff_eq.2 ((and_mask_eq_iff ..).2 fun i hi => ?_)
    rw [hbits i (by omega), hbits' i (by omega)]

/-! ## Numbers -/

/-- The leading bits of a word are the bits of the word divided by the range of the others. -/
theorem testBit_div {w length i : Nat} (a : BitVec w) (hlength : length ≤ w) (hi : i < length) :
    (a.toNat / 2 ^ (w - length)).testBit i = a.getMsbD (length - 1 - i) := by
  have hplace : w - 1 - (length - 1 - i) = i + (w - length) := by omega
  have hlt : length - 1 - i < w := by omega
  rw [BitVec.getMsbD_eq_getLsbD, Nat.testBit_div_two_pow, BitVec.testBit_toNat, hplace]
  simp [hlt]

/-- Words agree on their leading bits exactly if they agree as numbers once both are divided by the
range of the other bits. -/
theorem leading_eq_iff {w length : Nat} (hlength : length ≤ w) (a b : BitVec w) :
    (∀ i < length, a.getMsbD i = b.getMsbD i) ↔
      a.toNat / 2 ^ (w - length) = b.toNat / 2 ^ (w - length) := by
  have hbound (c : BitVec w) : c.toNat / 2 ^ (w - length) < 2 ^ length := by
    rw [Nat.div_lt_iff_lt_mul (Nat.two_pow_pos _), ← Nat.pow_add, Nat.add_sub_cancel' hlength]
    exact c.isLt
  constructor
  · intro h
    refine Nat.eq_of_testBit_eq fun i => ?_
    by_cases hi : i < length
    · rw [testBit_div a hlength hi, testBit_div b hlength hi, h _ (by omega)]
    · have hpow : 2 ^ length ≤ 2 ^ i := Nat.pow_le_pow_right (by decide) (by omega)
      rw [Nat.testBit_lt_two_pow (Nat.lt_of_lt_of_le (hbound a) hpow),
        Nat.testBit_lt_two_pow (Nat.lt_of_lt_of_le (hbound b) hpow)]
  · intro h i hi
    have hi' : length - 1 - i < length := by omega
    have hself : length - 1 - (length - 1 - i) = i := by omega
    rw [← hself, ← testBit_div a hlength hi', ← testBit_div b hlength hi', h]

theorem and_mask_eq_iff_div {w length : Nat} (hlength : length ≤ w) (a b : BitVec w) :
    a &&& mask w length = b &&& mask w length ↔
      a.toNat / 2 ^ (w - length) = b.toNat / 2 ^ (w - length) := by
  rw [and_mask_eq_iff, leading_eq_iff hlength]

/-- An address lies in a block exactly if it is of the family of the network and both are the same
number once they are divided by the number of addresses in the block. -/
theorem contains_iff_div (hlength : block.length ≤ block.network.width) :
    block.contains ip = true ↔
      ip.canonical.width = block.network.width ∧
        block.network.value / 2 ^ (block.network.width - block.length) =
          ip.canonical.value / 2 ^ (block.network.width - block.length) := by
  rw [contains]
  cases hnet : block.network with
  | v4 net =>
    rw [hnet, Ip.width] at hlength
    cases hip : ip.canonical with
    | v4 a => simp [Ip.width, Ip.value, and_mask_eq_iff_div hlength]
    | v6 a => simp [Ip.width]
  | v6 net =>
    rw [hnet, Ip.width] at hlength
    cases hip : ip.canonical with
    | v4 a => simp [Ip.width]
    | v6 a => simp [Ip.width, Ip.value, and_mask_eq_iff_div hlength]

theorem contains_v4 {net : BitVec 32} {length : Nat} (hlength : length ≤ 32) (a : BitVec 32) :
    (⟨.v4 net, length⟩ : Cidr).contains (.v4 a) = true ↔
      net.toNat / 2 ^ (32 - length) = a.toNat / 2 ^ (32 - length) := by
  rw [contains_iff_div hlength]
  simp [Ip.width, Ip.value]

theorem contains_v6 {net a : BitVec 128} {length : Nat} (h : Ip.unmapped? a = none)
    (hlength : length ≤ 128) :
    (⟨.v6 net, length⟩ : Cidr).contains (.v6 a) = true ↔
      net.toNat / 2 ^ (128 - length) = a.toNat / 2 ^ (128 - length) := by
  rw [contains_iff_div hlength]
  simp [Ip.width, Ip.value, Ip.canonical, h]

/-! ## Shifts -/

/-- A word shifted to the left; words are shifted by less than their width. -/
def shiftLeft? {w : Nat} (a : BitVec w) (count : Nat) : Option (BitVec w) :=
  if count < w then some (a <<< count) else none

/-- The word whose `length` leading bits are set, where its width is not less than `length` and the
shift that makes it is defined. -/
def mask? (w length : Nat) : Option (BitVec w) :=
  if length = 0 then some 0
  else if length ≤ w then shiftLeft? (BitVec.allOnes w) (w - length)
  else none

/-- A mask is defined for every length up to the width. -/
theorem mask?_eq_some {w length : Nat} (hlength : length ≤ w) :
    mask? w length = some (mask w length) := by
  rw [mask?, mask]
  by_cases hzero : length = 0
  · rw [if_pos hzero, if_pos hzero]
  · have hcount : w - length < w := by omega
    rw [if_neg hzero, if_neg hzero, if_pos hlength, shiftLeft?, if_pos hcount]

/-! ## Blocks that are read -/

/-- **A block is a range of numbers.** A block that is read has at most as many shared bits as its
addresses have bits, and its mask is defined. An address lies in it, whether it is written in
IPv4-mapped form or not, exactly if it is of the family of the network and both are the same number
once they are divided by the number of addresses in the block. A block of the same network with more
shared bits has no other addresses, and a block without shared bits has all of its family. -/
theorem quotient_of_read (text : String) {block : Cidr} (h : read text.toList = .ok block) :
    block.length ≤ block.network.width ∧
      mask? block.network.width block.length = some (mask block.network.width block.length) ∧
      (∀ ip : Ip, block.contains ip = true ↔
        ip.canonical.width = block.network.width ∧
          block.network.value / 2 ^ (block.network.width - block.length) =
            ip.canonical.value / 2 ^ (block.network.width - block.length)) ∧
      (∀ longer : Cidr, longer.network = block.network → block.length ≤ longer.length →
        ∀ ip, longer.contains ip = true → block.contains ip = true) ∧
      (block.length = 0 → ∀ ip : Ip,
        block.contains ip = true ↔ ip.canonical.width = block.network.width) := by
  have hlength : block.length ≤ block.network.width := read_eq_ok_length h
  refine ⟨hlength, mask?_eq_some hlength, fun ip => contains_iff_div hlength,
    fun longer hnet hmore ip => contains_of_longer hnet hmore, ?_⟩
  intro hzero ip
  have hall (other : Ip) (hwidth : other.width = block.network.width) :
      other.value / 2 ^ block.network.width = 0 := by
    rw [← hwidth]
    exact Nat.div_eq_of_lt other.value_lt
  rw [contains_iff_div hlength, hzero, Nat.sub_zero, hall block.network rfl]
  constructor
  · exact And.left
  · exact fun hwidth => ⟨hwidth, (hall ip.canonical hwidth).symm⟩

/-- A block whose network has bits behind the shared ones, with addresses at its end and behind it. -/
theorem quotient_of_read_host_bits :
    let block : Cidr := ⟨.v4 (Ip.ofOctets [172, 20, 7, 9]), 12⟩
    read "172.20.7.9/12".toList = .ok block ∧
      mask? 32 12 = some (Ip.ofOctets [255, 240, 0, 0]) ∧
      block.contains (.v6 (Ip.mapped (Ip.ofOctets [172, 31, 255, 255]))) = true ∧
      block.contains (.v4 (Ip.ofOctets [172, 32, 0, 0])) = false ∧
      block.contains (.v4 (Ip.ofOctets [172, 20, 7, 0])) = true ∧
      (⟨.v6 1, 0⟩ : Cidr).contains (.v6 (BitVec.allOnes 128)) = true := by
  intro block
  have hread : read "172.20.7.9/12".toList = .ok block := rfl
  have hzero : read "::1/0".toList = .ok ⟨.v6 1, 0⟩ := rfl
  obtain ⟨-, hmask, hdiv, hlonger, -⟩ := quotient_of_read "172.20.7.9/12" hread
  obtain ⟨-, -, -, -, hall⟩ := quotient_of_read "::1/0" hzero
  have hvalue : mask 32 12 = Ip.ofOctets [255, 240, 0, 0] := by decide
  refine ⟨hread, hmask.trans (congrArg some hvalue), (hdiv _).2 (by decide), ?_, ?_, ?_⟩
  · rw [Bool.eq_false_iff]
    exact fun hin => absurd ((hdiv _).1 hin) (by decide)
  · exact hlonger ⟨.v4 (Ip.ofOctets [172, 20, 7, 9]), 24⟩ rfl (by decide) _ (by decide)
  · exact (hall rfl _).2 (by decide)

end Cidr

end PluginSandbox
