import PluginSandbox.Address.HostPort
import PluginSandbox.Proofs.Address.RoundTrip
import PluginSandbox.Proofs.Text.Blank

/-!
# Targets that spell an address

An address is written in visible characters, none of which is a bracket, and an
IPv6 address has more than one colon. So a target is recognised as an address
with or without a port, in whichever of its spellings the address is written.

## Main definitions

* `Ip.IsV6Char`: the characters of IPv6 addresses.

## Main statements

* `Ip.isV6Char_of_readV6`, `Ip.exists_colons_of_readV6`: what an IPv6 address is
  written with.
* `HostPort.read_of_readHost`, `HostPort.read_of_readHost_port`: hosts of plain
  characters, of which IPv4 addresses are a kind.
* `HostPort.read_of_readV6`, `HostPort.read_of_readV6_brackets`,
  `HostPort.read_of_readV6_port`: IPv6 addresses, by themselves and in brackets.
-/

namespace PluginSandbox

open Text

/-! ## Characters of addresses -/

namespace Ip

variable {cs : List Char}

theorem isVisible_of_readV4 {a : BitVec 32} (h : readV4 cs = some a) :
    ∀ c ∈ cs, isVisible c = true := by
  intro c hc
  rcases isDigit_or_dot_of_readV4 h c hc with hd | rfl
  · exact isVisible_of_isDigit hd
  · rfl

/-- A group consists of hexadecimal digits. -/
theorem hexValue_isSome_of_readGroup {n : Nat} (h : readGroup cs = some n) :
    ∀ c ∈ cs, (hexValue c).isSome = true := by
  rw [readGroup] at h
  split at h
  · exact hexValue_isSome_of_readHex h
  · contradiction

/-- A character that an IPv6 address is written with. -/
def IsV6Char (c : Char) : Prop := (hexValue c).isSome = true ∨ c = ':' ∨ c = '.'

instance : DecidablePred IsV6Char := fun c =>
  inferInstanceAs (Decidable ((hexValue c).isSome = true ∨ c = ':' ∨ c = '.'))

theorem isV6Char_of_readV4 {a : BitVec 32} (h : readV4 cs = some a) : ∀ c ∈ cs, IsV6Char c := by
  intro c hc
  rcases isDigit_or_dot_of_readV4 h c hc with hd | rfl
  · left
    simp [hexValue, hd]
  · simp [IsV6Char]

/-- Groups, of which the last two may be an IPv4 address, are written with these characters. -/
theorem isV6Char_of_readTrailing {fields : List (List Char)} {gs : List Nat}
    (h : readTrailing fields = some gs) : ∀ f ∈ fields, ∀ c ∈ f, IsV6Char c := by
  induction fields generalizing gs with
  | nil => simp
  | cons f fs ih =>
    cases fs with
    | nil =>
      simp only [List.mem_singleton, forall_eq]
      rw [readTrailing] at h
      cases h4 : readV4 f with
      | some a => exact isV6Char_of_readV4 h4
      | none =>
        rw [h4] at h
        obtain ⟨n, hn, -⟩ := Option.map_eq_some_iff.1 h
        exact fun c hc => Or.inl (hexValue_isSome_of_readGroup hn c hc)
    | cons g gs' =>
      rw [readTrailing] at h
      · simp only [Option.bind_eq_bind, Option.bind_eq_some_iff] at h
        obtain ⟨n, hn, ms, hms, -⟩ := h
        intro e he
        rcases List.mem_cons.1 he with rfl | he
        · exact fun c hc => Or.inl (hexValue_isSome_of_readGroup hn c hc)
        · exact ih hms e he
      · simp

/-- The characters of a text are those of its fields, and colons. -/
theorem isV6Char_of_groupFields (h : ∀ f ∈ groupFields cs, ∀ c ∈ f, IsV6Char c) :
    ∀ c ∈ cs, IsV6Char c := by
  intro c hc
  have hne : cs ≠ [] := List.ne_nil_of_mem hc
  have hjoin : [':'].intercalate (cs.splitOn ':') = cs := List.intercalate_splitOn ':'
  rw [groupFields, if_neg hne] at h
  rw [← hjoin] at hc
  rcases mem_intercalate hc with rfl | ⟨f, hf, hcf⟩
  · simp [IsV6Char]
  · exact h f hf c hcf

/-- An IPv6 address is written with hexadecimal digits, colons and dots. -/
theorem isV6Char_of_readV6 {a : BitVec 128} (h : readV6 cs = some a) : ∀ c ∈ cs, IsV6Char c := by
  rw [readV6] at h
  cases hsplit : splitOnPair ':' cs with
  | none =>
    simp only [hsplit, Option.bind_eq_bind, Option.bind_eq_some_iff] at h
    obtain ⟨gs, hgs, -⟩ := h
    exact isV6Char_of_groupFields (isV6Char_of_readTrailing hgs)
  | some parts =>
    obtain ⟨front, back⟩ := parts
    simp only [hsplit, Option.bind_eq_bind, Option.bind_eq_some_iff] at h
    obtain ⟨hs, hhs, ts, hts, -⟩ := h
    have hfront : ∀ c ∈ front, IsV6Char c := by
      apply isV6Char_of_groupFields
      intro f hf c hc
      obtain ⟨n, hn⟩ := isSome_of_mapM hhs f hf
      exact Or.inl (hexValue_isSome_of_readGroup hn c hc)
    have hback : ∀ c ∈ back, IsV6Char c := isV6Char_of_groupFields (isV6Char_of_readTrailing hts)
    rw [splitOnPair_eq_some hsplit]
    intro c hc
    simp only [List.mem_append, List.mem_cons] at hc
    rcases hc with hc | rfl | rfl | hc
    · exact hfront c hc
    · simp [IsV6Char]
    · simp [IsV6Char]
    · exact hback c hc

/-- An address of either family is written with these characters. -/
theorem isV6Char_of_read {cs : List Char} {ip : Ip} (h : read cs = some ip) :
    ∀ c ∈ cs, IsV6Char c := by
  rw [read] at h
  cases h4 : readV4 cs with
  | some a => exact isV6Char_of_readV4 h4
  | none =>
    rw [h4] at h
    obtain ⟨a, ha, -⟩ := Option.map_eq_some_iff.1 h
    exact isV6Char_of_readV6 ha

theorem isVisible_of_readV6 {a : BitVec 128} (h : readV6 cs = some a) :
    ∀ c ∈ cs, isVisible c = true := by
  intro c hc
  rcases isV6Char_of_readV6 h c hc with hhex | rfl | rfl
  · exact isVisible_of_hexValue hhex
  · rfl
  · rfl

/-! ## Colons -/

/-- Only the last field gives two groups. -/
theorem length_le_of_readTrailing {fields : List (List Char)} {gs : List Nat}
    (h : readTrailing fields = some gs) : gs.length ≤ fields.length + 1 := by
  induction fields generalizing gs with
  | nil =>
    rw [readTrailing, Option.some.injEq] at h
    simp [← h]
  | cons f fs ih =>
    cases fs with
    | nil =>
      rw [readTrailing] at h
      split at h
      · simp [← Option.some.inj h]
      · obtain ⟨n, -, rfl⟩ := Option.map_eq_some_iff.1 h
        simp
    | cons g gs' =>
      rw [readTrailing] at h
      · simp only [Option.bind_eq_bind, Option.bind_eq_some_iff] at h
        obtain ⟨n, -, ms, hms, heq⟩ := h
        have hlen := ih hms
        simp only [← Option.some.inj heq, List.length_cons] at hlen ⊢
        omega
      · simp

/-- There is more than one colon in an IPv6 address. -/
theorem exists_colons_of_readV6 {a : BitVec 128} (h : readV6 cs = some a) :
    ∃ front back, splitOnce ':' cs = some (front, back) ∧ ':' ∈ back := by
  cases honce : splitOnce ':' cs with
  | none => exact absurd (colon_mem_of_readV6 h) (splitOnce_eq_none.1 honce)
  | some parts =>
    obtain ⟨front, back⟩ := parts
    refine ⟨front, back, rfl, ?_⟩
    obtain ⟨rfl, hfront⟩ := splitOnce_eq_some.1 honce
    apply Decidable.byContradiction
    intro hback
    -- With a single colon there are two fields, which are too few for eight groups.
    have hpair : splitOnPair ':' (front ++ ':' :: back) = none := splitOnPair_of_once hfront hback
    have hfields : groupFields (front ++ ':' :: back) = [front, back] := by
      rw [groupFields, if_neg (by simp), List.splitOn_append_cons_self_of_not_mem hfront,
        List.splitOn_eq_singleton hback]
    rw [readV6, hpair, hfields] at h
    simp only [Option.bind_eq_bind, Option.bind_eq_some_iff] at h
    obtain ⟨gs, hgs, hlen⟩ := h
    have htwo := length_le_of_readTrailing hgs
    split at hlen
    · simp only [List.length_cons, List.length_nil] at htwo
      omega
    · contradiction

end Ip

/-! ## Ports -/

namespace Text

/-- A port is written with digits, behind a sign or not. -/
theorem mem_of_readPort {cs : List Char} {port : UInt16} (h : readPort cs = some port) :
    ∀ c ∈ cs, c = '+' ∨ isDigit c = true := by
  obtain ⟨digits, hcs, -, hdigits, -⟩ := readPort_eq_some_iff.1 h
  rcases hcs with rfl | rfl
  · exact fun c hc => Or.inr (hdigits c hc)
  · exact List.forall_mem_cons.2 ⟨Or.inl rfl, fun c hc => Or.inr (hdigits c hc)⟩

theorem isVisible_of_readPort {cs : List Char} {port : UInt16} (h : readPort cs = some port) :
    ∀ c ∈ cs, isVisible c = true := by
  intro c hc
  rcases mem_of_readPort h c hc with rfl | hd
  · rfl
  · exact isVisible_of_isDigit hd

theorem colon_notMem_of_readPort {cs : List Char} {port : UInt16} (h : readPort cs = some port) :
    ':' ∉ cs := by
  intro hc
  have hcolon := mem_of_readPort h ':' hc
  revert hcolon
  decide

/-- The numeral of a port is read back. -/
theorem readPort_showPort (port : UInt16) : readPort (showPort port).toList = some port := by
  rw [showPort, String.toList_ofList, readPort_eq_some_iff]
  exact ⟨showNat port.toNat, Or.inl rfl, showNat_ne_nil _, isDigit_of_mem_showNat _,
    valueFrom_showNat _⟩

end Text

/-! ## Targets -/

namespace HostPort

variable {cs host port : List Char} {p : UInt16}

/-- A target of visible characters without brackets. -/
theorem read_eq_readPlain (hvisible : ∀ c ∈ cs, isVisible c = true ∧ c ≠ '[') (hne : cs ≠ []) :
    read cs = readPlain cs := by
  rw [read, trim_of_isVisible fun c hc => (hvisible c hc).1]
  cases cs with
  | nil => exact absurd rfl hne
  | cons c cs =>
    have hc : c ≠ '[' := (hvisible c (by simp)).2
    simp [hc]

/-- The characters of an IPv4 address. -/
theorem plain_of_readV4 {a : BitVec 32} (h : Ip.readV4 cs = some a) :
    ∀ c ∈ cs, isVisible c = true ∧ c ≠ '[' ∧ c ≠ ':' := by
  intro c hc
  refine ⟨Ip.isVisible_of_readV4 h c hc, ?_⟩
  have hchar := Ip.isDigit_or_dot_of_readV4 h c hc
  constructor
  · rintro rfl
    revert hchar
    decide
  · rintro rfl
    revert hchar
    decide

theorem host_ne_nil (h : readHost cs = .ok host) : cs ≠ [] := by
  rintro rfl
  contradiction

section Plain

variable (hplain : ∀ c ∈ cs, isVisible c = true ∧ c ≠ '[' ∧ c ≠ ':')
variable (hhost : readHost cs = .ok host)

include hplain hhost

/-- A host of such characters by itself. -/
theorem read_of_readHost : read cs = .ok ⟨host, none⟩ := by
  have hcolon : ':' ∉ cs := fun hc => (hplain ':' hc).2.2 rfl
  rw [read_eq_readPlain (fun c hc => ⟨(hplain c hc).1, (hplain c hc).2.1⟩) (host_ne_nil hhost),
    readPlain, splitOnce_eq_none.2 hcolon, hhost]
  rfl

/-- A host of such characters with a port. -/
theorem read_of_readHost_port (hport : readPort port = some p) :
    read (cs ++ ':' :: port) = .ok ⟨host, some p⟩ := by
  have hcolon : ':' ∉ cs := fun hc => (hplain ':' hc).2.2 rfl
  have hvisible : ∀ c ∈ cs ++ ':' :: port, isVisible c = true ∧ c ≠ '[' := by
    intro c hc
    simp only [List.mem_append, List.mem_cons] at hc
    rcases hc with hc | rfl | hc
    · exact ⟨(hplain c hc).1, (hplain c hc).2.1⟩
    · decide
    · refine ⟨isVisible_of_readPort hport c hc, ?_⟩
      rintro rfl
      have hchar := mem_of_readPort hport '[' hc
      revert hchar
      decide
  rw [read_eq_readPlain hvisible (by simp), readPlain, splitOnce_eq_some.2 ⟨rfl, hcolon⟩]
  simp only [if_neg (colon_notMem_of_readPort hport), hhost, readPortOf, hport]
  rfl

end Plain

theorem readHost_of_readV4 {a : BitVec 32} (h : Ip.readV4 cs = some a) :
    readHost cs = .ok (Ip.showV4 a) := by
  rw [readHost, h]

/-- An IPv4 address by itself. -/
theorem read_of_readV4 {a : BitVec 32} (h : Ip.readV4 cs = some a) :
    read cs = .ok ⟨Ip.showV4 a, none⟩ :=
  read_of_readHost (plain_of_readV4 h) (readHost_of_readV4 h)

/-- An IPv4 address with a port. -/
theorem read_of_readV4_port {a : BitVec 32} (h : Ip.readV4 cs = some a)
    (hport : readPort port = some p) :
    read (cs ++ ':' :: port) = .ok ⟨Ip.showV4 a, some p⟩ :=
  read_of_readHost_port (plain_of_readV4 h) (readHost_of_readV4 h) hport

/-- An IPv6 address by itself. -/
theorem read_of_readV6 {a : BitVec 128} (h : Ip.readV6 cs = some a) :
    read cs = .ok ⟨Ip.showV6 a, none⟩ := by
  obtain ⟨front, back, hsplit, hback⟩ := Ip.exists_colons_of_readV6 h
  have hne : cs ≠ [] := List.ne_nil_of_mem (Ip.colon_mem_of_readV6 h)
  have hvisible : ∀ c ∈ cs, isVisible c = true ∧ c ≠ '[' := by
    intro c hc
    refine ⟨Ip.isVisible_of_readV6 h c hc, ?_⟩
    rintro rfl
    have hchar := Ip.isV6Char_of_readV6 h '[' hc
    revert hchar
    decide
  rw [read_eq_readPlain hvisible hne, readPlain, hsplit]
  simp only [if_pos hback, h]

/-- An IPv6 address holds no bracket, so the first closing one stands behind it. -/
theorem splitOnce_bracket {a : BitVec 128} (h : Ip.readV6 cs = some a) (tail : List Char) :
    splitOnce ']' (cs ++ ']' :: tail) = some (cs, tail) := by
  refine splitOnce_eq_some.2 ⟨rfl, fun hc => ?_⟩
  have hchar := Ip.isV6Char_of_readV6 h ']' hc
  revert hchar
  decide

theorem read_eq_readBracketed {a : BitVec 128} {tail : List Char} (h : Ip.readV6 cs = some a)
    (htail : ∀ c ∈ tail, isVisible c = true) :
    read ('[' :: (cs ++ ']' :: tail)) =
      readBracketed ('[' :: (cs ++ ']' :: tail)) (cs ++ ']' :: tail) := by
  have hvisible : ∀ c ∈ '[' :: (cs ++ ']' :: tail), isVisible c = true := by
    intro c hc
    simp only [List.mem_cons, List.mem_append] at hc
    rcases hc with rfl | hc | rfl | hc
    · rfl
    · exact Ip.isVisible_of_readV6 h c hc
    · rfl
    · exact htail c hc
  rw [read, trim_of_isVisible hvisible]
  rfl

/-- An IPv6 address in brackets. -/
theorem read_of_readV6_brackets {a : BitVec 128} (h : Ip.readV6 cs = some a) :
    read ('[' :: (cs ++ [']'])) = .ok ⟨Ip.showV6 a, none⟩ := by
  rw [read_eq_readBracketed h (by simp)]
  simp only [readBracketed, splitOnce_bracket h, h]

/-- An IPv6 address in brackets, with a port. -/
theorem read_of_readV6_port {a : BitVec 128} (h : Ip.readV6 cs = some a)
    (hport : readPort port = some p) :
    read ('[' :: (cs ++ ']' :: ':' :: port)) = .ok ⟨Ip.showV6 a, some p⟩ := by
  have hvisible : ∀ c ∈ ':' :: port, isVisible c = true :=
    List.forall_mem_cons.2 ⟨rfl, isVisible_of_readPort hport⟩
  rw [read_eq_readBracketed h hvisible]
  simp only [readBracketed, splitOnce_bracket h, h, readPortOf, hport]
  rfl

end HostPort

end PluginSandbox
