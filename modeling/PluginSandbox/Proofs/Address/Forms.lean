import PluginSandbox.Proofs.Address.NormalForm

/-!
# The forms of a target

A target is written as a host, as a host and a port with a colon between them, or as an
IPv6 address by itself, in brackets or in brackets with a port. Hosts and ports that are
shown are among the spellings that are read, so what is printed in one of these forms is
read back. A colon separates a host from a port only if it is the only one: two colons
without brackets are those of an IPv6 address or of nothing.

## Main definitions

* `HostPort.Kept`: the hosts that are kept as they are written.

## Main statements

* `HostPort.Kept.readHost_eq`: such a host is read as itself.
* `HostPort.read_eq_error_manyColons`: several colons.
* `HostPort.read_forms`: what each form is read as.
-/

namespace PluginSandbox

open Text HostPattern

namespace Text

/-- Of several separators one stands behind the first. -/
theorem exists_splitOnce_of_count {sep : Char} {cs : List Char} (h : 2 ≤ cs.count sep) :
    ∃ front back, splitOnce sep cs = some (front, back) ∧ sep ∈ back := by
  have hmem : sep ∈ cs := List.count_pos_iff.1 (by omega)
  obtain ⟨⟨front, back⟩, hsplit⟩ :=
    Option.ne_none_iff_exists'.1 fun hnone => splitOnce_eq_none.1 hnone hmem
  refine ⟨front, back, hsplit, ?_⟩
  obtain ⟨rfl, hfront⟩ := splitOnce_eq_some.1 hsplit
  rw [List.count_append, List.count_eq_zero_of_not_mem hfront, List.count_cons_self] at h
  exact List.count_pos_iff.1 (by omega)

end Text

namespace HostPort

variable {host text : List Char}

/-! ## Hosts that are kept -/

/-- A host that is kept as it is written: an IPv4 address, or an accepted name in lower case without
a dot at its end. -/
inductive Kept (host : List Char) : Prop where
  | address (a : BitVec 32) (hread : Ip.readV4 host = some a)
  | name (haccepted : ∃ normal, readHost host = .ok normal) (hlower : lower host = host)
      (hdot : ¬['.'] <:+ host)

namespace Kept

theorem address_or_name (h : Kept host) : (∃ a, Ip.readV4 host = some a) ∨
    Ip.readV4 host = none ∧ IsName host ∧ lower host = host ∧ ¬['.'] <:+ host := by
  cases h4 : Ip.readV4 host with
  | some a => exact Or.inl ⟨a, rfl⟩
  | none =>
    cases h with
    | address a hread =>
      rw [h4] at hread
      contradiction
    | name haccepted hlower hdot =>
      obtain ⟨normal, hnormal⟩ := haccepted
      rw [readHost_eq_ok_iff h4, dropFinalDot_of_not_isSuffix hdot] at hnormal
      exact Or.inr ⟨rfl, hnormal.1, hlower, hdot⟩

theorem readHost_eq (h : Kept host) : readHost host = .ok host := by
  rcases h.address_or_name with ⟨a, h4⟩ | ⟨h4, hname, hlower, hdot⟩
  · rw [readHost_of_readV4 h4, Ip.showV4_of_readV4 h4]
  · rw [readHost_eq_ok_iff h4, dropFinalDot_of_not_isSuffix hdot, hlower]
    exact ⟨hname, rfl⟩

/-- The characters of such a host are neither blanks nor brackets nor colons. -/
theorem plain (h : Kept host) : ∀ c ∈ host, isVisible c = true ∧ c ≠ '[' ∧ c ≠ ':' := by
  rcases h.address_or_name with ⟨a, h4⟩ | ⟨-, hname, -, -⟩
  · exact plain_of_readV4 h4
  · exact fun c hc => plain_of_isHostChar (hname.chars c hc)

end Kept

/-! ## Several colons -/

/-- Several colons are refused, unless they are those of an IPv6 address or brackets are around
it. -/
theorem read_eq_error_manyColons (hbracket : ¬['['] <+: trim text)
    (hcolons : 2 ≤ (trim text).count ':') (h6 : Ip.readV6 (trim text) = none) :
    read text = .error (.manyColons (trim text)) := by
  have hplain : read text = readPlain (trim text) := by
    rw [read]
    split
    case h_1 hnil =>
      rw [hnil] at hcolons
      contradiction
    case h_2 rest hrest => exact absurd (hrest ▸ List.prefix_append ['['] rest) hbracket
    case h_3 => rfl
  obtain ⟨front, back, hsplit, hback⟩ := exists_splitOnce_of_count hcolons
  rw [hplain, readPlain, hsplit]
  simp only [if_pos hback, h6]

/-! ## All forms -/

/-- **Printing and reading agree.** Ports and addresses are read from what they are shown as. A host
that is kept is read as it is written, with a port and without, and an IPv6 address is read as it is
shown, however it is spelled: by itself, in brackets, and in brackets with a port. Any other text
with several colons is refused, unless it starts with a bracket, and blanks around a text make no
difference to what is read or to the reason why nothing is. -/
theorem read_forms :
    ((∀ q, readPort (showPort q).toList = some q) ∧
      (∀ a, Ip.readV4 (Ip.showV4 a) = some a) ∧ ∀ a, Ip.readV6 (Ip.showV6 a) = some a) ∧
    (∀ host, Kept host → read host = .ok ⟨host, none⟩ ∧
      ∀ port q, readPort port = some q → read (host ++ ':' :: port) = .ok ⟨host, some q⟩) ∧
    (∀ spelled a, Ip.readV6 spelled = some a →
      read spelled = .ok ⟨Ip.showV6 a, none⟩ ∧
      read ('[' :: (spelled ++ [']'])) = .ok ⟨Ip.showV6 a, none⟩ ∧
      ∀ port q, readPort port = some q →
        read ('[' :: (spelled ++ ']' :: ':' :: port)) = .ok ⟨Ip.showV6 a, some q⟩) ∧
    (∀ text, ¬['['] <+: trim text → 2 ≤ (trim text).count ':' → Ip.readV6 (trim text) = none →
      read text = .error (.manyColons (trim text))) ∧
    ∀ front text back, (∀ c ∈ front, isBlank c = true) → (∀ c ∈ back, isBlank c = true) →
      read (front ++ text ++ back) = read text := by
  refine ⟨⟨readPort_showPort, Ip.readV4_showV4, Ip.readV6_showV6⟩, ?_, ?_,
    fun text => read_eq_error_manyColons, ?_⟩
  · intro host hkept
    refine ⟨read_of_readHost hkept.plain hkept.readHost_eq, fun port q hport => ?_⟩
    exact read_of_readHost_port hkept.plain hkept.readHost_eq hport
  · intro spelled a h6
    exact ⟨read_of_readV6 h6, read_of_readV6_brackets h6, fun port q => read_of_readV6_port h6⟩
  · intro front text back hfront hback
    rw [read, read, trim_append_append hfront hback]

/-- A name with a port, an address whose last group could be a port, and colons of nothing. -/
theorem read_forms_hexadecimal :
    (Kept "xn--a_1.example".toList ∧
      read "xn--a_1.example:0443".toList = .ok ⟨"xn--a_1.example".toList, some 443⟩) ∧
    read "[2001:DB8:0::1:8080]".toList = .ok ⟨"2001:db8::1:8080".toList, none⟩ ∧
    read "[2001:DB8:0::1]:8080".toList = .ok ⟨"2001:db8::1".toList, some 8080⟩ ∧
    read "host:80:90".toList = .error (.manyColons "host:80:90".toList) ∧
    read "\u3000::FFFF:10.0.0.1\t".toList = .ok ⟨"::ffff:10.0.0.1".toList, none⟩ := by
  obtain ⟨-, hhosts, haddresses, hcolons, hblanks⟩ := read_forms
  have hkept : Kept "xn--a_1.example".toList :=
    .name ⟨"xn--a_1.example".toList, by decide +kernel⟩ (by decide) (by decide)
  have hlong : Ip.readV6 "2001:DB8:0::1:8080".toList =
      some (Ip.ofGroups [0x2001, 0xdb8, 0, 0, 0, 0, 1, 0x8080]) := by decide +kernel
  have hshort : Ip.readV6 "2001:DB8:0::1".toList =
      some (Ip.ofGroups [0x2001, 0xdb8, 0, 0, 0, 0, 0, 1]) := by decide +kernel
  have hmapped : Ip.readV6 "::FFFF:10.0.0.1".toList =
      some (Ip.mapped (Ip.ofOctets [10, 0, 0, 1])) := by decide +kernel
  refine ⟨⟨hkept, (hhosts _ hkept).2 "0443".toList 443 (by decide)⟩, ?_, ?_, ?_, ?_⟩
  · exact (haddresses _ _ hlong).2.1.trans (by decide +kernel)
  · exact ((haddresses _ _ hshort).2.2 "8080".toList 8080 (by decide)).trans (by decide +kernel)
  · exact hcolons "host:80:90".toList (by decide) (by decide +kernel) (by decide +kernel)
  · have htrimmed := hblanks ['\u3000'] "::FFFF:10.0.0.1".toList ['\t']
      (List.forall_mem_singleton.2 (by decide)) (List.forall_mem_singleton.2 (by decide))
    exact htrimmed.trans ((haddresses _ _ hmapped).1.trans (by decide +kernel))

end HostPort

end PluginSandbox
