import PluginSandbox.Proofs.Address.Cidr
import PluginSandbox.Proofs.Guard.Passage

/-!
# Classes and their blocks

The test of a class looks at the first parts of an address, at some of them under a
mask; what documents the class is a list of blocks. Both say the same about every
address. No two blocks of different classes overlap, so an address is in one class at
most, and the class that is reported does not depend on the order of the tests.

## Main statements

* `AddressClass.hasOctets_iff`, `AddressClass.hasGroups_iff`: the tests of one family.
* `AddressClass.has_iff`: the test of a class against its blocks.
* `AddressClass.eq_of_contains`: classes are disjoint.
* `GuardConfig.blockedClass?_documented`: the class that is reported.
-/

namespace PluginSandbox

/-! ## Parts of an address as numbers -/

namespace Ip

theorem octets_eq (a : BitVec 32) :
    octets a =
      [a.toNat / 2 ^ 24, a.toNat / 2 ^ 16 % 256, a.toNat / 2 ^ 8 % 256, a.toNat % 256] := by
  have ha : a.toNat < 2 ^ 32 := a.isLt
  simp only [octets, wordsOf, octetCount, Nat.div_div_eq_div_mul, List.nil_append,
    List.cons_append, List.cons.injEq, and_true]
  omega

theorem take_one_groups (a : BitVec 128) : (groups a).take 1 = [a.toNat / 2 ^ 112] := by
  have ha : a.toNat < 2 ^ 128 := a.isLt
  simp only [groups, wordsOf, groupCount, Nat.div_div_eq_div_mul, List.nil_append,
    List.cons_append, List.take_succ_cons, List.take_zero, List.cons.injEq, and_true]
  omega

theorem groups_eq_iff {a : BitVec 128} {gs : List Nat} (hgs : groups (ofGroups gs) = gs) :
    groups a = gs ↔ (ofGroups gs).toNat = a.toNat := by
  constructor
  · rintro rfl
    rw [ofGroups_groups]
  · intro h
    rw [← BitVec.eq_of_toNat_eq h, hgs]

theorem ofWords_append_zeros (base : Nat) (words : List Nat) (count : Nat) :
    ofWords base (words ++ List.replicate count 0) = ofWords base words * base ^ count := by
  induction count with
  | zero => simp
  | succ count ih =>
    have hsnoc (ws : List Nat) : ofWords base (ws ++ [0]) = ofWords base ws * base := by
      simp [ofWords]
    rw [List.replicate_succ', ← List.append_assoc, hsnoc, ih, Nat.pow_succ, Nat.mul_assoc]

/-- The first group is in front of 112 bits. -/
theorem toNat_ofGroups_zeros {g : Nat} (hg : g < 2 ^ 16) :
    (ofGroups [g, 0, 0, 0, 0, 0, 0, 0]).toNat = g * 2 ^ 112 := by
  have hzeros := ofWords_append_zeros groupCount [g] 7
  have hpow : groupCount ^ 7 = 2 ^ 112 := by decide
  have hone : ofWords groupCount [g] = g := by simp [ofWords]
  have hlist : [g] ++ List.replicate 7 0 = [g, 0, 0, 0, 0, 0, 0, 0] := by simp
  rw [hpow, hone, hlist] at hzeros
  rw [ofGroups, hzeros, BitVec.toNat_ofNat]
  exact Nat.mod_eq_of_lt (by omega)

end Ip

namespace AddressClass

/-! ## IPv4 -/

/-- The test of a class on octets says what its IPv4 blocks say. -/
theorem hasOctets_iff (cls : AddressClass) (a : BitVec 32) :
    cls.hasOctets (Ip.octets a) = true ↔ ∃ block ∈ cls.blocks, block.contains (.v4 a) = true := by
  have ha : a.toNat < 2 ^ 32 := a.isLt
  have h6 (gs : List Nat) (length : Nat) : (v6Block gs length).contains (.v4 a) = false := rfl
  -- Both sides compare leading parts of the number with constants, which differ by class.
  cases cls <;>
    simp [hasOctets, blocks, Ip.octets_eq, v4Block, Cidr.contains_v4, h6, Ip.ofOctets, Ip.ofWords,
      Ip.octetCount] <;>
    omega

/-! ## IPv6 -/

section Unmapped

variable {a : BitVec 128} (h : Ip.unmapped? a = none)
include h

/-- A block that shares bits of the first group only is told by that group under a mask. -/
theorem contains_firstGroup {g m length : Nat} (hlength : length ≤ 16) (hg : g < 2 ^ 16)
    (hmask : (Cidr.mask 16 length).toNat = m) (hgm : g &&& m = g) :
    (v6Block [g, 0, 0, 0, 0, 0, 0, 0] length).contains (.v6 a) = true ↔
      a.toNat / 2 ^ 112 &&& m = g := by
  have ha : a.toNat / 2 ^ 112 < 2 ^ 16 := by
    have := a.isLt
    omega
  have hpow : 2 ^ (128 - length) = 2 ^ 112 * 2 ^ (16 - length) := by
    rw [← Nat.pow_add]
    congr 1
    omega
  have hwords := Cidr.and_mask_eq_iff_div hlength (BitVec.ofNat 16 g)
    (BitVec.ofNat 16 (a.toNat / 2 ^ 112))
  rw [← BitVec.toNat_inj, BitVec.toNat_and, BitVec.toNat_and, hmask, BitVec.toNat_ofNat,
    BitVec.toNat_ofNat, Nat.mod_eq_of_lt hg, Nat.mod_eq_of_lt ha, hgm] at hwords
  rw [v6Block, Cidr.contains_v6 h (by omega), Ip.toNat_ofGroups_zeros hg, hpow,
    ← Nat.div_div_eq_div_mul, ← Nat.div_div_eq_div_mul, Nat.mul_div_cancel _ (Nat.two_pow_pos 112),
    ← hwords, eq_comm]

/-- The test of a class on groups says what its IPv6 blocks say. -/
theorem hasGroups_iff (cls : AddressClass) :
    cls.hasGroups (Ip.groups a) = true ↔ ∃ block ∈ cls.blocks, block.contains (.v6 a) = true := by
  have h4 (os : List Nat) (length : Nat) : (v4Block os length).contains (.v6 a) = false := by
    simp [v4Block, Cidr.contains, Ip.canonical, h]
  cases cls with
  | loopback =>
    rw [hasGroups, beq_iff_eq, Ip.groups_eq_iff (by decide)]
    simp [blocks, h4, v6Block, Cidr.contains_v6 h]
  | privateUse =>
    have hblock : (v6Block [0xFC00, 0, 0, 0, 0, 0, 0, 0] 7).contains (.v6 a) = true ↔
        a.toNat / 2 ^ 112 &&& 0xFE00 = 0xFC00 :=
      contains_firstGroup h (by decide) (by decide) (by decide) (by decide)
    simpa [hasGroups, Ip.take_one_groups, blocks, h4] using hblock.symm
  | linkLocal =>
    have hblock : (v6Block [0xFE80, 0, 0, 0, 0, 0, 0, 0] 10).contains (.v6 a) = true ↔
        a.toNat / 2 ^ 112 &&& 0xFFC0 = 0xFE80 :=
      contains_firstGroup h (by decide) (by decide) (by decide) (by decide)
    simpa [hasGroups, Ip.take_one_groups, blocks, h4] using hblock.symm
  | multicast =>
    have hblock : (v6Block [0xFF00, 0, 0, 0, 0, 0, 0, 0] 8).contains (.v6 a) = true ↔
        a.toNat / 2 ^ 112 &&& 0xFF00 = 0xFF00 :=
      contains_firstGroup h (by decide) (by decide) (by decide) (by decide)
    simpa [hasGroups, Ip.take_one_groups, blocks, h4] using hblock.symm
  | unspecified =>
    rw [hasGroups, beq_iff_eq, Ip.groups_eq_iff (by decide)]
    simp [blocks, h4, v6Block, Cidr.contains_v6 h]

end Unmapped

/-! ## Both families -/

variable {ip : Ip} {cls cls' : AddressClass}

/-- An address is of a class, without the IPv4-mapped form, exactly if it lies in a block of it. -/
theorem has_iff (cls : AddressClass) (ip : Ip) :
    cls.has ip.canonical = true ↔ ∃ block ∈ cls.blocks, block.contains ip = true := by
  simp only [← Cidr.contains_canonical _ ip]
  cases hip : ip.canonical with
  | v4 a => exact hasOctets_iff cls a
  | v6 a => exact hasGroups_iff (Ip.canonical_eq_v6_iff.1 hip).2 cls

/-- Blocks of different classes do not overlap. -/
theorem eq_of_overlaps : ∀ cls ∈ all, ∀ cls' ∈ all, ∀ block ∈ cls.blocks, ∀ block' ∈ cls'.blocks,
    block.overlaps block' = true → cls = cls' := by
  decide

/-- An address is in one class at most. -/
theorem eq_of_contains (h : ∃ block ∈ cls.blocks, block.contains ip = true)
    (h' : ∃ block ∈ cls'.blocks, block.contains ip = true) : cls = cls' := by
  obtain ⟨block, hblock, hip⟩ := h
  obtain ⟨block', hblock', hip'⟩ := h'
  exact eq_of_overlaps cls (GuardConfig.mem_allClasses cls) cls' (GuardConfig.mem_allClasses cls')
    block hblock block' hblock' (Cidr.overlaps_of_contains hip hip')

end AddressClass

namespace GuardConfig

variable {config : GuardConfig} {ip : Ip}

/-- The first class that is found, in whatever order the classes are tested. -/
theorem find?_eq_some_iff {order : List AddressClass} (horder : ∀ cls, cls ∈ order)
    (cls : AddressClass) :
    order.find? (fun cls => config.blocks cls && cls.has ip.canonical) = some cls ↔
      config.blocks cls = true ∧ ∃ block ∈ cls.blocks, block.contains ip = true := by
  have hfirst {found : AddressClass}
      (h : order.find? (fun cls => config.blocks cls && cls.has ip.canonical) = some found) :
      config.blocks found = true ∧ ∃ block ∈ found.blocks, block.contains ip = true := by
    have htest := List.find?_some h
    rwa [Bool.and_eq_true, AddressClass.has_iff] at htest
  constructor
  · exact hfirst
  · rintro ⟨hon, hblock⟩
    cases hfound : order.find? (fun cls => config.blocks cls && cls.has ip.canonical) with
    | none =>
      have hcls := List.find?_eq_none.1 hfound cls (horder cls)
      rw [Bool.and_eq_true, AddressClass.has_iff] at hcls
      exact absurd ⟨hon, hblock⟩ hcls
    | some found => rw [AddressClass.eq_of_contains (hfirst hfound).2 hblock]

/-- **The reported class is the documented one.** A class is reported for an address exactly if it is
blocked and the address lies in one of its blocks, where an IPv4-mapped address counts as the IPv4
address. No address lies in blocks of two classes, and what is reported does not depend on the order
in which the classes are tested. -/
theorem blockedClass?_documented (config : GuardConfig) (ip : Ip) :
    (∀ cls, config.blockedClass? ip = some cls ↔
      config.blocks cls = true ∧ ∃ block ∈ cls.blocks, block.contains ip = true) ∧
      (∀ cls cls' : AddressClass, (∃ block ∈ cls.blocks, block.contains ip = true) →
        (∃ block ∈ cls'.blocks, block.contains ip = true) → cls = cls') ∧
      ∀ order : List AddressClass, (∀ cls, cls ∈ order) →
        order.find? (fun cls => config.blocks cls && cls.has ip.canonical) =
          config.blockedClass? ip := by
  refine ⟨find?_eq_some_iff mem_allClasses, fun _ _ => AddressClass.eq_of_contains, ?_⟩
  intro order horder
  refine Option.ext fun cls => ?_
  rw [find?_eq_some_iff horder, blockedClass?, find?_eq_some_iff mem_allClasses]

/-- An IPv4-mapped address of the local link, with private networks let through. -/
theorem blockedClass?_documented_mapped :
    let config : GuardConfig := { blockPrivate := false }
    let ip : Ip := .v6 (Ip.mapped (Ip.ofOctets [169, 254, 169, 254]))
    config.blockedClass? ip = some .linkLocal ∧
      [.unspecified, .multicast, .linkLocal, .privateUse, .loopback].find?
        (fun cls => config.blocks cls && cls.has ip.canonical) = some .linkLocal ∧
      config.blockedClass? (.v4 (Ip.ofOctets [172, 31, 255, 255])) = none := by
  intro config ip
  obtain ⟨hclass, -, horder⟩ := blockedClass?_documented config ip
  have hlocal : config.blockedClass? ip = some .linkLocal :=
    (hclass _).2 ⟨rfl, _, List.mem_cons_self, by decide⟩
  refine ⟨hlocal, (horder _ fun cls => by cases cls <;> decide).trans hlocal, ?_⟩
  rw [Option.eq_none_iff_forall_ne_some]
  intro cls hcls
  obtain ⟨hon, hblock⟩ := ((blockedClass?_documented config _).1 cls).1 hcls
  have hprivate : cls = .privateUse :=
    (blockedClass?_documented config _).2.1 _ _ hblock
      ⟨AddressClass.v4Block [172, 16, 0, 0] 12, by decide, by decide⟩
  rw [hprivate] at hon
  contradiction

example :
    (AddressClass.all.map fun cls => cls.blocks.map fun block => String.ofList block.render) =
      [["127.0.0.0/8", "::1/128"],
        ["10.0.0.0/8", "172.16.0.0/12", "192.168.0.0/16", "fc00::/7"],
        ["169.254.0.0/16", "fe80::/10"], ["224.0.0.0/4", "ff00::/8"], ["0.0.0.0/32", "::/128"]] := by
  decide +kernel

end GuardConfig

end PluginSandbox
