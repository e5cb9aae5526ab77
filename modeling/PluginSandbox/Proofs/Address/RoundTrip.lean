import Mathlib.Algebra.Group.Nat.Defs
import Mathlib.Data.List.Induction
import PluginSandbox.Address.Text
import PluginSandbox.Proofs.Text.Fields
import PluginSandbox.Proofs.Text.Numeral

/-!
# Addresses read back

The text of an address is read as that address, in either family, with its
zeros left out or not, and in dotted form. What is decided about the text of an
address is therefore decided about the address.

## Main statements

* `Ip.readV4_showV4`, `Ip.readV6_showV6`: the text of one family.
* `Ip.read_render`: the text of any address.
* `Ip.showV4_of_readV4`: an IPv4 address has one spelling.
* `Ip.read_append_singleton`: which last character no address has.
-/

namespace PluginSandbox

open Text

namespace Ip

/-! ## Words -/

@[simp] theorem length_wordsOf (base count n : Nat) : (wordsOf base count n).length = count := by
  induction count generalizing n with
  | zero => rfl
  | succ count ih => simp [wordsOf, ih]

theorem lt_of_mem_wordsOf {base count n w : Nat} (hb : 0 < base) (h : w ∈ wordsOf base count n) :
    w < base := by
  induction count generalizing n with
  | zero => simp [wordsOf] at h
  | succ count ih =>
    rcases List.mem_append.1 h with h | h
    · exact ih h
    · rw [List.mem_singleton.1 h]
      exact Nat.mod_lt n hb

/-- A number that fits into the digits is the number of its digits. -/
theorem ofWords_wordsOf {base count n : Nat} (h : n < base ^ count) :
    ofWords base (wordsOf base count n) = n := by
  induction count generalizing n with
  | zero =>
    simp only [Nat.pow_zero, Nat.lt_one_iff] at h
    simp [wordsOf, ofWords, h]
  | succ count ih =>
    have hq : n / base < base ^ count := by
      rw [Nat.pow_succ, Nat.mul_comm] at h
      exact Nat.div_lt_of_lt_mul h
    have hr := ih hq
    simp only [ofWords] at hr
    simp only [wordsOf, ofWords, List.foldl_append, hr, List.foldl_cons, List.foldl_nil]
    exact Nat.div_add_mod' n base

/-- The number of digits is below the power of the base that they are as many as. -/
theorem ofWords_lt {base : Nat} {words : List Nat} (h : ∀ w ∈ words, w < base) :
    ofWords base words < base ^ words.length := by
  induction words using List.reverseRecOn with
  | nil => simp [ofWords]
  | append_singleton ws w ih =>
    have hw : w < base := h w (by simp)
    have hws : ofWords base ws + 1 ≤ base ^ ws.length := ih fun v hv => h v (by simp [hv])
    have hsnoc : ofWords base (ws ++ [w]) = ofWords base ws * base + w := by simp [ofWords]
    rw [hsnoc, List.length_append, List.length_singleton, Nat.pow_succ]
    calc ofWords base ws * base + w
        < ofWords base ws * base + base := Nat.add_lt_add_left hw _
      _ = (ofWords base ws + 1) * base := (Nat.succ_mul _ _).symm
      _ ≤ base ^ ws.length * base := Nat.mul_le_mul_right base hws

/-- The digits of the number of digits are those digits. -/
theorem wordsOf_ofWords {base : Nat} {words : List Nat} (h : ∀ w ∈ words, w < base) :
    wordsOf base words.length (ofWords base words) = words := by
  induction words using List.reverseRecOn with
  | nil => rfl
  | append_singleton ws w ih =>
    have hw : w < base := h w (by simp)
    have hsnoc : ofWords base (ws ++ [w]) = w + base * ofWords base ws := by
      simp [ofWords, Nat.mul_comm, Nat.add_comm]
    have hpos : 0 < base := Nat.lt_of_le_of_lt (Nat.zero_le w) hw
    rw [List.length_append, List.length_singleton, wordsOf, hsnoc, Nat.add_mul_div_left w _ hpos,
      Nat.add_mul_mod_self_left, Nat.div_eq_of_lt hw, Nat.mod_eq_of_lt hw, Nat.zero_add,
      ih fun v hv => h v (by simp [hv])]

theorem ofOctets_octets (a : BitVec 32) : ofOctets (octets a) = a := by
  have ha : a.toNat < octetCount ^ 4 := a.isLt
  rw [ofOctets, octets, ofWords_wordsOf ha, BitVec.ofNat_toNat, BitVec.setWidth_eq]

theorem ofGroups_groups (a : BitVec 128) : ofGroups (groups a) = a := by
  have ha : a.toNat < groupCount ^ 8 := a.isLt
  rw [ofGroups, groups, ofWords_wordsOf ha, BitVec.ofNat_toNat, BitVec.setWidth_eq]

/-! ## IPv4 -/

theorem readOctet_showNat {n : Nat} (h : n ≤ 255) : readOctet (showNat n) = some n := by
  have hlen : (showNat n).length ≤ 3 :=
    (Nat.length_toDigits_le_iff (by decide) (by decide)).2 (by omega)
  rw [readOctet, if_pos ⟨hlen, showNat_of_head?_eq_zero⟩, readNat_showNat]
  simp [Option.filter, h]

/-- An octet consists of digits, and there is at least one. -/
theorem isDigit_of_readOctet {cs : List Char} {n : Nat} (h : readOctet cs = some n) :
    cs ≠ [] ∧ ∀ c ∈ cs, isDigit c = true := by
  rw [readOctet] at h
  split at h
  case isTrue =>
    obtain ⟨hn, -⟩ := Option.filter_eq_some_iff.1 h
    obtain ⟨hne, hdigits, -⟩ := readNat_eq_some_iff.1 hn
    exact ⟨hne, hdigits⟩
  case isFalse => contradiction

/-- Reading back what was shown, item by item. -/
theorem mapM_map_eq_some {α β : Type} {f : β → α} {g : α → Option β} {xs : List β}
    (h : ∀ x ∈ xs, g (f x) = some x) : (xs.map f).mapM g = some xs := by
  induction xs with
  | nil => rfl
  | cons x xs ih =>
    obtain ⟨hx, hxs⟩ := List.forall_mem_cons.1 h
    simp [hx, ih hxs]

theorem isSome_of_mapM {α β : Type} {g : α → Option β} {xs : List α} {ys : List β}
    (h : xs.mapM g = some ys) : ∀ x ∈ xs, ∃ y, g x = some y := by
  induction xs generalizing ys with
  | nil => simp
  | cons x xs ih =>
    simp only [List.mapM_cons, Option.bind_eq_bind, Option.bind_eq_some_iff] at h
    obtain ⟨y, hy, zs, hzs, -⟩ := h
    intro z hz
    rcases List.mem_cons.1 hz with rfl | hz
    · exact ⟨y, hy⟩
    · exact ih hzs z hz

/-- The parts of an IPv4 address between its dots are octets. -/
theorem readOctet_of_readV4 {cs : List Char} {a : BitVec 32} (h : readV4 cs = some a) :
    ∀ f ∈ cs.splitOn '.', ∃ n, readOctet f = some n := by
  simp only [readV4, Option.bind_eq_bind, Option.bind_eq_some_iff] at h
  obtain ⟨octets, ho, -⟩ := h
  exact isSome_of_mapM ho

/-- An IPv4 address consists of digits and dots. -/
theorem isDigit_or_dot_of_readV4 {cs : List Char} {a : BitVec 32} (h : readV4 cs = some a) :
    ∀ c ∈ cs, isDigit c = true ∨ c = '.' := by
  intro c hc
  have hjoin : ['.'].intercalate (cs.splitOn '.') = cs := List.intercalate_splitOn '.'
  rw [← hjoin] at hc
  rcases mem_intercalate hc with rfl | ⟨f, hf, hcf⟩
  · exact Or.inr rfl
  · obtain ⟨n, hn⟩ := readOctet_of_readV4 h f hf
    exact Or.inl ((isDigit_of_readOctet hn).2 c hcf)

theorem readV4_eq_none_of_colon_mem {cs : List Char} (h : ':' ∈ cs) : readV4 cs = none := by
  rw [Option.eq_none_iff_forall_ne_some]
  intro a ha
  have := isDigit_or_dot_of_readV4 ha ':' h
  revert this
  decide

theorem readV4_eq_none_of_dot_notMem {cs : List Char} (h : '.' ∉ cs) : readV4 cs = none := by
  rw [readV4, List.splitOn_eq_singleton h]
  cases hr : readOctet cs <;> simp [hr]

theorem dot_notMem_showNat (n : Nat) : '.' ∉ showNat n := by
  intro h
  have := isDigit_of_mem_showNat n '.' h
  revert this
  decide

/-- The text of an IPv4 address is read back. -/
theorem readV4_showV4 (a : BitVec 32) : readV4 (showV4 a) = some a := by
  have hne : (octets a).map showNat ≠ [] := by
    intro h
    have := congrArg List.length h
    simp [octets] at this
  have hsplit : (showV4 a).splitOn '.' = (octets a).map showNat := by
    rw [showV4]
    refine List.splitOn_intercalate '.' ?_ hne
    intro f hf
    obtain ⟨n, -, rfl⟩ := List.mem_map.1 hf
    exact dot_notMem_showNat n
  have hread : ((octets a).map showNat).mapM readOctet = some (octets a) := by
    refine mapM_map_eq_some fun n hn => readOctet_showNat ?_
    have := lt_of_mem_wordsOf (by decide) hn
    rw [octetCount] at this
    omega
  have hlen : (octets a).length = 4 := length_wordsOf _ _ _
  simp [readV4, hsplit, hread, hlen, ofOctets_octets]

/-- An octet is what its value is shown as. -/
theorem showNat_of_readOctet {cs : List Char} {n : Nat} (h : readOctet cs = some n) :
    showNat n = cs ∧ n < octetCount := by
  rw [readOctet] at h
  split at h
  case isTrue hshape =>
    obtain ⟨hn, hle⟩ := Option.filter_eq_some_iff.1 h
    obtain ⟨hne, hdigits, rfl⟩ := readNat_eq_some_iff.1 hn
    exact ⟨showNat_valueFrom hne hdigits hshape.2, Nat.lt_succ_of_le (of_decide_eq_true hle)⟩
  case isFalse => contradiction

/-- Octets are read from what they are shown as, and from nothing else. -/
theorem map_showNat_of_mapM {fields : List (List Char)} {octets : List Nat}
    (h : fields.mapM readOctet = some octets) :
    octets.map showNat = fields ∧ ∀ n ∈ octets, n < octetCount := by
  induction fields generalizing octets with
  | nil =>
    simp only [List.mapM_nil, Option.pure_def, Option.some.injEq] at h
    subst h
    simp
  | cons f fs ih =>
    simp only [List.mapM_cons, Option.bind_eq_bind, Option.bind_eq_some_iff, Option.pure_def,
      Option.some.injEq] at h
    obtain ⟨n, hn, ns, hns, rfl⟩ := h
    obtain ⟨hshow, hlt⟩ := showNat_of_readOctet hn
    obtain ⟨hshows, hlts⟩ := ih hns
    exact ⟨by rw [List.map_cons, hshow, hshows], List.forall_mem_cons.2 ⟨hlt, hlts⟩⟩

/-- An IPv4 address is read from what it is shown as, and from nothing else. -/
theorem showV4_of_readV4 {cs : List Char} {a : BitVec 32} (h : readV4 cs = some a) :
    showV4 a = cs := by
  simp only [readV4, Option.bind_eq_bind, Option.bind_eq_some_iff] at h
  obtain ⟨os, hos, hlen⟩ := h
  obtain ⟨hshow, hlt⟩ := map_showNat_of_mapM hos
  split at hlen
  case isFalse => contradiction
  case isTrue hfour =>
    obtain rfl := Option.some.inj hlen
    have hbound : ofWords octetCount os < 2 ^ 32 := by
      have := ofWords_lt hlt
      rwa [hfour] at this
    have hoctets : octets (ofOctets os) = os := by
      rw [octets, ofOctets, BitVec.toNat_ofNat, Nat.mod_eq_of_lt hbound, ← hfour,
        wordsOf_ofWords hlt]
    rw [showV4, hoctets, hshow, List.intercalate_splitOn]

/-! ## IPv6 -/

theorem readGroup_showHex {n : Nat} (h : n < groupCount) : readGroup (showHex n) = some n := by
  rw [readGroup, if_pos ⟨showHex_ne_nil n, length_showHex_le h⟩, readHex_showHex]

/-- Neither a dot nor a colon stands in a hexadecimal numeral. -/
theorem notMem_showHex {c : Char} (hc : hexValue c = none) (n : Nat) : c ∉ showHex n := by
  intro h
  have := hexValue_isSome_of_readHex (readHex_showHex n) c h
  rw [hc] at this
  contradiction

theorem readTrailing_map_showHex {gs : List Nat} (h : ∀ g ∈ gs, g < groupCount) :
    readTrailing (gs.map showHex) = some gs := by
  induction gs with
  | nil => rfl
  | cons g gs ih =>
    obtain ⟨hg, hgs⟩ := List.forall_mem_cons.1 h
    have hread := readGroup_showHex hg
    cases gs with
    | nil =>
      have hv4 := readV4_eq_none_of_dot_notMem (notMem_showHex hexValue_dot g)
      simp [readTrailing, hv4, hread]
    | cons g' gs =>
      have ht := ih hgs
      rw [List.map_cons] at ht ⊢
      simp [readTrailing, hread, ht]

theorem forall_field_showHex (gs : List Nat) : ∀ f ∈ gs.map showHex, f ≠ [] ∧ ':' ∉ f := by
  intro f hf
  obtain ⟨n, -, rfl⟩ := List.mem_map.1 hf
  exact ⟨showHex_ne_nil n, notMem_showHex hexValue_colon n⟩

theorem groupFields_showGroups (gs : List Nat) :
    groupFields (showGroups gs) = gs.map showHex := by
  cases gs with
  | nil => rfl
  | cons g gs =>
    have hne : showGroups (g :: gs) ≠ [] := by
      intro h
      have := congrArg (List.splitOn ':') h
      rw [showGroups, List.splitOn_intercalate ':'
        (fun f hf => (forall_field_showHex _ f hf).2) (by simp)] at this
      simp [showHex_ne_nil] at this
    rw [groupFields, if_neg hne, showGroups, List.splitOn_intercalate ':'
      (fun f hf => (forall_field_showHex _ f hf).2) (by simp)]

theorem take_zeroRun (gs : List Nat) : gs.take (zeroRun gs) = List.replicate (zeroRun gs) 0 := by
  refine List.eq_replicate_iff.2 ⟨?_, ?_⟩
  · rw [List.length_take, zeroRun]
    exact Nat.min_eq_left (List.takeWhile_prefix _).length_le
  · intro g hg
    rw [zeroRun, ← List.prefix_iff_eq_take.1 (List.takeWhile_prefix _)] at hg
    simpa using List.all_eq_true.1 List.all_takeWhile g hg

/-- The groups that `::` stands for are zeros, so writing them out again gives all groups. -/
theorem expand_zeroRun (gs : List Nat) (start : Nat) :
    gs.take start ++ List.replicate (zeroRun (gs.drop start)) 0 ++
      gs.drop (start + zeroRun (gs.drop start)) = gs := by
  rw [← take_zeroRun, List.append_assoc, ← List.drop_drop, List.take_append_drop,
    List.take_append_drop]

/-- An address with `::` holds zeros in place of the groups that are missing. -/
theorem readV6_of_splitOnPair {cs front back : List Char} {hs ts : List Nat}
    (hsplit : splitOnPair ':' cs = some (front, back))
    (hfront : (groupFields front).mapM readGroup = some hs)
    (hback : readTrailing (groupFields back) = some ts) (hlen : hs.length + ts.length ≤ 7) :
    readV6 cs =
      some (ofGroups (hs ++ List.replicate (8 - hs.length - ts.length) 0 ++ ts)) := by
  rw [readV6, hsplit]
  simp only [hfront, hback, Option.bind_eq_bind, Option.bind_some, if_pos hlen]

/-- The text of eight groups is read back. -/
theorem readV6_showCompressed {gs : List Nat} (hlen : gs.length = 8)
    (h : ∀ g ∈ gs, g < groupCount) : readV6 (showCompressed gs) = some (ofGroups gs) := by
  rw [showCompressed]
  generalize longestZeroRun gs = start
  by_cases hrun : 1 < zeroRun (gs.drop start)
  · have hle : zeroRun (gs.drop start) ≤ (gs.drop start).length :=
      (List.takeWhile_prefix _).length_le
    have hall := expand_zeroRun gs start
    generalize zeroRun (gs.drop start) = run at hrun hle hall ⊢
    rw [List.length_drop, hlen] at hle
    have hsplit : splitOnPair ':'
        (showGroups (gs.take start) ++ ':' :: ':' :: showGroups (gs.drop (start + run))) =
          some (showGroups (gs.take start), showGroups (gs.drop (start + run))) :=
      (splitOnPair_intercalate (forall_field_showHex (gs.take start))).2 _
    have hfront : (groupFields (showGroups (gs.take start))).mapM readGroup =
        some (gs.take start) := by
      rw [groupFields_showGroups]
      exact mapM_map_eq_some fun g hg => readGroup_showHex (h g (List.mem_of_mem_take hg))
    have hback : readTrailing (groupFields (showGroups (gs.drop (start + run)))) =
        some (gs.drop (start + run)) := by
      rw [groupFields_showGroups]
      exact readTrailing_map_showHex fun g hg => h g (List.mem_of_mem_drop hg)
    have htake : (gs.take start).length = start := by rw [List.length_take]; omega
    have hdrop : (gs.drop (start + run)).length = 8 - (start + run) := by
      rw [List.length_drop, hlen]
    have hzeros : 8 - (gs.take start).length - (gs.drop (start + run)).length = run := by omega
    rw [if_pos hrun, readV6_of_splitOnPair hsplit hfront hback (by omega), hzeros, hall]
  · have hsplit : splitOnPair ':' (showGroups gs) = none :=
      (splitOnPair_intercalate (forall_field_showHex gs)).1
    rw [if_neg hrun, readV6, hsplit]
    simp [groupFields_showGroups, readTrailing_map_showHex h, hlen]

/-- The groups that an IPv4 address stands for behind the mark of the IPv4-mapped form. -/
theorem ofGroups_mapped (b : BitVec 32) :
    ofGroups (List.replicate 5 0 ++ mappedMark :: wordsOf groupCount 2 b.toNat) = mapped b := by
  have hb : b.toNat < 2 ^ 32 := b.isLt
  apply BitVec.eq_of_toNat_eq
  simp only [ofGroups, mapped, ofWords, wordsOf, groupCount, mappedMark, v4Count,
    BitVec.toNat_ofNat, List.replicate, List.foldl_cons, List.foldl_nil, List.nil_append,
    List.cons_append]
  omega

/-- The text of an IPv4-mapped address is read back. -/
theorem readV6_mapped_text (b : BitVec 32) :
    readV6 ("::ffff:".toList ++ showV4 b) = some (mapped b) := by
  have hcolon : ':' ∉ showV4 b := by
    intro h
    have := readV4_eq_none_of_colon_mem h
    rw [readV4_showV4] at this
    contradiction
  have hfields : groupFields ("ffff".toList ++ ':' :: showV4 b) = ["ffff".toList, showV4 b] := by
    rw [groupFields, if_neg (by simp), List.splitOn_append_cons_self_of_not_mem (by decide),
      List.splitOn_eq_singleton hcolon]
  have hmark : readGroup "ffff".toList = some mappedMark := by decide
  have hsplit : splitOnPair ':' ("::ffff:".toList ++ showV4 b) =
      some ([], "ffff".toList ++ ':' :: showV4 b) := rfl
  have htrail : readTrailing (groupFields ("ffff".toList ++ ':' :: showV4 b)) =
      some (mappedMark :: wordsOf groupCount 2 b.toNat) := by
    rw [hfields, readTrailing, hmark]
    · simp [readTrailing, readV4_showV4]
    · simp
  have hfront : (groupFields []).mapM readGroup = some [] := rfl
  rw [readV6_of_splitOnPair hsplit hfront htrail (by simp), ← ofGroups_mapped]
  simp

/-- The text of an IPv6 address is read back. -/
theorem readV6_showV6 (a : BitVec 128) : readV6 (showV6 a) = some a := by
  rw [showV6]
  cases h : unmapped? a with
  | some b =>
    rw [unmapped?_eq_some] at h
    subst h
    exact readV6_mapped_text b
  | none =>
    have hg : ∀ g ∈ groups a, g < groupCount := fun g hg => lt_of_mem_wordsOf (by decide) hg
    have hlen : (groups a).length = 8 := length_wordsOf _ _ _
    have hr : readV6 (showCompressed (groups a)) = some (ofGroups (groups a)) :=
      readV6_showCompressed hlen hg
    rw [hr, ofGroups_groups]

/-! ## Both families -/

/-- Every IPv6 address has a colon. -/
theorem colon_mem_of_readV6 {cs : List Char} {a : BitVec 128} (h : readV6 cs = some a) :
    ':' ∈ cs := by
  refine Decidable.byContradiction fun hc => ?_
  have hsplit : splitOnPair ':' cs = none := splitOnPair_of_notMem hc
  have hfields : groupFields cs = [] ∨ groupFields cs = [cs] := by
    rw [groupFields, List.splitOn_eq_singleton hc]
    split
    · exact Or.inl rfl
    · exact Or.inr rfl
  rw [readV6, hsplit] at h
  simp only [Option.bind_eq_bind, Option.bind_eq_some_iff] at h
  obtain ⟨gs, hgs, hlen⟩ := h
  split at hlen
  case isFalse => contradiction
  case isTrue h8 =>
    rcases hfields with hf | hf
    · rw [hf, readTrailing, Option.some.injEq] at hgs
      subst hgs
      contradiction
    · rw [hf, readTrailing] at hgs
      -- One field gives two groups at most.
      split at hgs
      · simp only [Option.some.injEq] at hgs
        subst hgs
        simp at h8
      · obtain ⟨g, -, rfl⟩ := Option.map_eq_some_iff.1 hgs
        simp at h8

/-- The text of an address is read as that address. -/
theorem read_render (ip : Ip) : read ip.render = some ip := by
  cases ip with
  | v4 a => rw [render, read, readV4_showV4]
  | v6 a =>
    have h6 := readV6_showV6 a
    have h4 := readV4_eq_none_of_colon_mem (colon_mem_of_readV6 h6)
    rw [render, read, h4, h6]
    rfl

/-! ## The last character

An address ends in a hexadecimal digit or a colon, so neither a text that ends in a dot nor a text
that ends in most letters spells one. -/

section LastCharacter

variable {c : Char} (hc : hexValue c = none)
include hc

theorem readV4_append_singleton (cs : List Char) : readV4 (cs ++ [c]) = none := by
  rw [Option.eq_none_iff_forall_ne_some]
  intro a ha
  rcases isDigit_or_dot_of_readV4 ha c (by simp) with hd | rfl
  · rw [hexValue, if_pos hd] at hc
    contradiction
  · have hempty : [] ∈ (cs ++ ['.']).splitOn '.' := by
      rw [List.splitOn_append_cons_self]
      simp
    obtain ⟨n, hn⟩ := readOctet_of_readV4 ha [] hempty
    exact (isDigit_of_readOctet hn).1 rfl

theorem readGroup_append_singleton (cs : List Char) : readGroup (cs ++ [c]) = none := by
  rw [Option.eq_none_iff_forall_ne_some]
  intro n hn
  rw [readGroup] at hn
  split at hn
  case isTrue =>
    have := hexValue_isSome_of_readHex hn c (by simp)
    rw [hc] at this
    contradiction
  case isFalse => contradiction

/-- Groups are none if the last one ends in such a character. -/
theorem readTrailing_append_singleton (fields : List (List Char)) (f : List Char) :
    readTrailing (fields ++ [f ++ [c]]) = none := by
  induction fields with
  | nil => simp [readTrailing, readV4_append_singleton hc, readGroup_append_singleton hc]
  | cons g gs ih =>
    obtain ⟨x, xs, hx⟩ := List.exists_cons_of_ne_nil
      (List.append_ne_nil_of_right_ne_nil gs (List.cons_ne_nil (f ++ [c]) []))
    rw [List.cons_append, hx, readTrailing, ← hx, ih]
    · cases readGroup g <;> rfl
    · simp

theorem readTrailing_groupFields_append_singleton (hcolon : c ≠ ':') (cs : List Char) :
    readTrailing (groupFields (cs ++ [c])) = none := by
  obtain ⟨fields, f, h⟩ := splitOn_append_singleton hcolon cs
  rw [groupFields, if_neg (by simp), h, readTrailing_append_singleton hc]

theorem readV6_append_singleton (hcolon : c ≠ ':') (cs : List Char) :
    readV6 (cs ++ [c]) = none := by
  rw [readV6, splitOnPair_append_singleton hcolon]
  cases splitOnPair ':' cs with
  | none => simp [readTrailing_groupFields_append_singleton hc hcolon]
  | some p =>
    simp only [Option.map_some, readTrailing_groupFields_append_singleton hc hcolon,
      Option.bind_eq_bind, Option.bind_none]
    cases (groupFields p.1).mapM readGroup <;> rfl

/-- A text that ends in neither a hexadecimal digit nor a colon spells no address. -/
theorem read_append_singleton (hcolon : c ≠ ':') (cs : List Char) : read (cs ++ [c]) = none := by
  rw [read, readV4_append_singleton hc, readV6_append_singleton hc hcolon]
  rfl

end LastCharacter

end Ip

end PluginSandbox
