import PluginSandbox.Proofs.Address.Cidr
import PluginSandbox.Proofs.Address.Target
import PluginSandbox.Proofs.Pattern.Address

/-!
# Blocks as host patterns

A block that shares all bits of an address stands for that address, and as a pattern
it fits the same hosts, with one exception. A pattern that is an address is compared
without the IPv4-mapped form on either side; a block takes that form off the tested
address only. So a block within the range of IPv4-mapped addresses has no address at
all, not even its own network, and fits no host.

## Main definitions

* `Ip.IsMapped`: addresses in IPv4-mapped form.
* `Ip.fullBlock`: the notation of the block that shares all bits of an address.
* `Cidr.InMapped`: blocks within the range of IPv4-mapped addresses.

## Main statements

* `Cidr.read_render`: a block is read back.
* `Cidr.exists_contains_iff`: the blocks that have an address.
* `hostMatches_fullBlock`: blocks that share all bits.
-/

namespace PluginSandbox

open Text

/-! ## The IPv4-mapped form -/

namespace Ip

/-- The address is an IPv4 address in IPv4-mapped form. -/
def IsMapped (ip : Ip) : Prop := ∃ b, ip = .v6 (mapped b)

theorem canonical_eq_self_iff (ip : Ip) : ip.canonical = ip ↔ ¬ip.IsMapped := by
  constructor
  · rintro h ⟨b, rfl⟩
    rw [canonical_mapped] at h
    contradiction
  · intro h
    cases ip with
    | v4 a => rfl
    | v6 a =>
      cases hmapped : unmapped? a with
      | none => simp [canonical, hmapped]
      | some b => exact absurd ⟨b, congrArg v6 (unmapped?_eq_some.1 hmapped)⟩ h

theorem isMapped_v6_iff (a : BitVec 128) :
    (v6 a).IsMapped ↔ a.toNat / v4Count = mappedMark := by
  rw [← not_iff_not, ← canonical_eq_self_iff, canonical_eq_v6_iff, unmapped?]
  simp

end Ip

/-! ## Addresses of a block -/

namespace Cidr

variable {block : Cidr}

/-- The block lies within the range of IPv4-mapped addresses. -/
def InMapped (block : Cidr) : Prop := block.network.IsMapped ∧ 96 ≤ block.length

/-- A block that shares all bits of an address has that address alone, in either form. -/
theorem contains_full_iff (ip a : Ip) :
    contains ⟨ip, ip.width⟩ a = true ↔ a.canonical = ip := by
  rw [contains_iff_div (Nat.le_refl _)]
  simp only [Nat.sub_self, Nat.pow_zero, Nat.div_one]
  constructor
  · rintro ⟨hwidth, hvalue⟩
    exact Ip.eq_of_value hwidth hvalue.symm
  · rintro rfl
    exact ⟨rfl, rfl⟩

/-- A network that is not in IPv4-mapped form lies in its block. -/
theorem contains_network (h : ¬block.network.IsMapped) : block.contains block.network = true := by
  rw [contains_iff]
  have hself := (Ip.canonical_eq_self_iff block.network).2 h
  cases hnet : block.network with
  | v4 net => exact .v4 net net hnet rfl fun _ _ => rfl
  | v6 net => exact .v6 net net hnet (by rwa [hnet] at hself) fun _ _ => rfl

theorem not_contains_of_inMapped (h : block.InMapped) (ip : Ip) : block.contains ip = false := by
  obtain ⟨⟨b, hnet⟩, hlong⟩ := h
  cases hcanonical : ip.canonical with
  | v4 a => simp [contains, hnet, hcanonical]
  | v6 a =>
    obtain ⟨rfl, hform⟩ := Ip.canonical_eq_v6_iff.1 hcanonical
    rw [Bool.eq_false_iff]
    intro hip
    -- The upper 96 bits are among those that are shared, and they make the IPv4-mapped form.
    have hupper : (⟨.v6 (Ip.mapped b), 96⟩ : Cidr).contains (.v6 a) = true :=
      contains_of_longer hnet hlong hip
    rw [contains_v6 hform (by decide)] at hupper
    have hmapped : (Ip.v6 a).IsMapped :=
      (Ip.isMapped_v6_iff a).2 (hupper.symm.trans ((Ip.isMapped_v6_iff _).1 ⟨b, rfl⟩))
    exact (Ip.canonical_eq_self_iff _).1 hcanonical hmapped

/-- A block that reaches beyond the IPv4-mapped addresses has the address in front of them. -/
theorem exists_contains_of_short (h : block.network.IsMapped) (hshort : block.length < 96) :
    ∃ ip, block.contains ip = true := by
  obtain ⟨b, hnet⟩ := h
  have hnumber : (Ip.mapped b).toNat / 2 ^ 33 = 0x7FFF := by
    have hb : b.toNat < 2 ^ 32 := b.isLt
    rw [Ip.mapped, BitVec.toNat_ofNat, Ip.mappedMark, Ip.v4Count]
    omega
  have hfront : (⟨.v6 (Ip.mapped b), 95⟩ : Cidr).contains (.v6 0xFFFEFFFFFFFF) = true := by
    rw [contains_v6 (by decide) (by decide)]
    exact hnumber.trans (by decide)
  exact ⟨_, contains_of_longer hnet.symm (Nat.le_of_lt_succ hshort) hfront⟩

/-- The blocks that have an address are those that reach beyond the IPv4-mapped ones. -/
theorem exists_contains_iff (block : Cidr) :
    (∃ ip, block.contains ip = true) ↔ ¬block.InMapped := by
  constructor
  · rintro ⟨ip, hip⟩ h
    rw [not_contains_of_inMapped h ip] at hip
    contradiction
  · intro h
    by_cases hmapped : block.network.IsMapped
    · exact exists_contains_of_short hmapped (Nat.lt_of_not_le fun hlong => h ⟨hmapped, hlong⟩)
    · exact ⟨block.network, contains_network hmapped⟩

/-! ## The notation of blocks -/

/-- A block is read back from its notation. -/
theorem read_render (hlength : block.length ≤ block.network.width) :
    read block.render = .ok block := by
  have hslash : '/' ∉ block.network.render := by
    intro hmem
    have hchar := Ip.isV6Char_of_read (Ip.read_render block.network) '/' hmem
    revert hchar
    decide
  have hbyte : block.length ≤ 255 := by
    cases hnet : block.network <;> rw [hnet, Ip.width] at hlength <;> omega
  rw [read, render, splitOnce_eq_some.2 ⟨rfl, hslash⟩]
  simp only [Ip.read_render, readBounded_showNat hbyte, if_pos hlength]

end Cidr

/-! ## Blocks of one address -/

/-- The notation of the block that shares all bits of an address. -/
def Ip.fullBlock (ip : Ip) : String :=
  match ip with
  | .v4 _ => ip.text ++ "/32"
  | .v6 _ => ip.text ++ "/128"

theorem Ip.read_fullBlock (ip : Ip) : Cidr.read ip.fullBlock.toList = .ok ⟨ip, ip.width⟩ := by
  have hrender : ip.fullBlock.toList = Cidr.render ⟨ip, ip.width⟩ := by
    cases ip with
    | v4 a =>
      have hwidth : "/32".toList = '/' :: showNat 32 := by decide
      rw [fullBlock, String.toList_append, text, String.toList_ofList, hwidth]
      rfl
    | v6 a =>
      have hwidth : "/128".toList = '/' :: showNat 128 := by decide
      rw [fullBlock, String.toList_append, text, String.toList_ofList, hwidth]
      rfl
  rw [hrender, Cidr.read_render (Nat.le_refl _)]

theorem HostPattern.read_of_block {cs : List Char} {block : Cidr} (h : Cidr.read cs = .ok block) :
    HostPattern.read cs = .block block := by
  have hslash : '/' ∈ cs := by
    refine Decidable.byContradiction fun hmem => ?_
    rw [Cidr.read, splitOnce_eq_none.2 hmem] at h
    contradiction
  have hany : cs ≠ ['*'] := by
    rintro rfl
    contradiction
  rw [HostPattern.read, if_neg hany, if_pos hslash, h]

theorem HostPattern.read_text (ip : Ip) : HostPattern.read ip.text.toList = .address ip := by
  have hchars := Ip.isV6Char_of_read (Ip.read_render ip)
  have hslash : '/' ∉ ip.render := fun hmem => absurd (hchars '/' hmem) (by decide)
  have hany : ip.render ≠ ['*'] := by
    intro heq
    exact absurd (hchars '*' (by simp [heq])) (by decide)
  rw [Ip.text, String.toList_ofList, HostPattern.read, if_neg hany, if_neg hslash, Ip.read_render]

/-- A block that shares all bits fits the addresses whose form without the IPv4-mapped one is its
network. -/
theorem hostMatches_fullBlock_iff (ip : Ip) (host : String) :
    hostMatches ip.fullBlock host = true ↔ ∃ a, Ip.read host.toList = some a ∧ a.canonical = ip := by
  rw [hostMatches, HostPattern.read_of_block ip.read_fullBlock, HostPattern.admits,
    Option.any_eq_true]
  simp only [Cidr.contains_full_iff]

theorem hostMatches_ownText_iff (ip : Ip) (host : String) :
    hostMatches ip.text host = true ↔
      ∃ a, Ip.read host.toList = some a ∧ a.canonical = ip.canonical := by
  rw [hostMatches, HostPattern.read_text, HostPattern.admits, Option.any_eq_true]
  simp only [beq_iff_eq]

/-- **Blocks of one address.** A block that shares all bits of an address fits the hosts that the
address itself fits, and it contains its network, exactly if the address is not in IPv4-mapped form.
If it is, the block fits no host. -/
theorem hostMatches_fullBlock (ip : Ip) :
    ((∀ host, hostMatches ip.fullBlock host = hostMatches ip.text host) ↔ ¬ip.IsMapped) ∧
      (Cidr.contains ⟨ip, ip.width⟩ ip = true ↔ ¬ip.IsMapped) ∧
      (ip.IsMapped → ∀ host, hostMatches ip.fullBlock host = false) := by
  have hself : hostMatches ip.text ip.text = true := by
    rw [hostMatches_ownText_iff]
    exact ⟨ip, by rw [Ip.text, String.toList_ofList, Ip.read_render], rfl⟩
  have hnone (hmapped : ip.IsMapped) (host : String) : hostMatches ip.fullBlock host = false := by
    rw [Bool.eq_false_iff, ne_eq, hostMatches_fullBlock_iff]
    rintro ⟨a, -, rfl⟩
    exact (Ip.canonical_eq_self_iff _).1 a.canonical_canonical hmapped
  refine ⟨⟨fun h hmapped => ?_, fun h host => ?_⟩, ?_, hnone⟩
  · rw [← h, hnone hmapped] at hself
    contradiction
  · rw [Bool.eq_iff_iff, hostMatches_fullBlock_iff, hostMatches_ownText_iff,
      (Ip.canonical_eq_self_iff ip).2 h]
  · rw [Cidr.contains_full_iff, Ip.canonical_eq_self_iff]

/-- An address in IPv4-mapped form fits its own text, and the block of all its bits does not. -/
theorem fullBlock_ne_text_mapped :
    let ip : Ip := .v6 (Ip.mapped (Ip.ofOctets [10, 0, 0, 1]))
    ip.text = "::ffff:10.0.0.1" ∧ ip.fullBlock = "::ffff:10.0.0.1/128" ∧
      hostMatches ip.fullBlock "::ffff:10.0.0.1" ≠ hostMatches ip.text "::ffff:10.0.0.1" ∧
      Cidr.contains ⟨ip, ip.width⟩ ip = false := by
  decide +kernel

end PluginSandbox
