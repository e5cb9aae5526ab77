import PluginSandbox.Proofs.Address.Spelling
import PluginSandbox.Proofs.Address.Target
import PluginSandbox.Proofs.Text.Bytes

/-!
# Hosts in normal form

A host in normal form has no empty label and no letter in upper case, and reading
it again gives it back. The host of a target is an address as it is shown, which is
in normal form, or a name without one dot at its end. A name is in normal form as
well unless two dots were spelled at its end: then one of them is left, and reading
the host once more takes it away.

## Main definitions

* `HostPort.Normal`: hosts in normal form.
* `HostPort.IsName`: the names that are read as hosts.

## Main statements

* `HostPort.readHost_eq_ok_iff`: what is read as a name.
* `HostPort.IsName.read_eq`: a name in lower case that is read again.
* `HostPort.normal_of_read`: which hosts of targets are in normal form.
-/

namespace PluginSandbox

open Text HostPattern

namespace HostPort

variable {host name spelled address : List Char} {target : HostPort}

/-- A host in normal form. -/
structure Normal (host : List Char) : Prop where
  nonempty : host ≠ []
  /-- There is no dot in front. -/
  front : ¬['.'] <+: host
  /-- There is no dot at the end. -/
  back : ¬['.'] <:+ host
  /-- No label is empty. -/
  labels : ∀ label ∈ host.splitOn '.', label ≠ []
  /-- There is no letter from `A` to `Z`. -/
  folded : ∀ c ∈ host, isUpper c = false
  /-- The host is read as itself, without a port. -/
  stable : read host = .ok ⟨host, none⟩

/-- Hosts without empty labels have no dots at their ends. -/
theorem Normal.of_labels (hlabels : ∀ label ∈ host.splitOn '.', label ≠ [])
    (hfolded : ∀ c ∈ host, isUpper c = false) (hstable : read host = .ok ⟨host, none⟩) :
    Normal host := by
  obtain ⟨hne, hfront, hback, -⟩ := not_sep_of_fields hlabels
  exact ⟨hne, hfront, hback, hlabels, hfolded, hstable⟩

/-! ## Addresses -/

theorem isUpper_of_isDigit {c : Char} (h : isDigit c = true) : isUpper c = false := by
  have hc := (isDigit_iff c).1 h
  rw [Bool.eq_false_iff]
  intro hupper
  have hc' := (isUpper_iff c).1 hupper
  omega

/-- An IPv4 address as it is shown is in normal form. -/
theorem normal_showV4 (a : BitVec 32) : Normal (Ip.showV4 a) := by
  have hread := Ip.readV4_showV4 a
  refine .of_labels ?_ ?_ (read_of_readV4 hread)
  · intro label hlabel
    obtain ⟨n, hn⟩ := Ip.readOctet_of_readV4 hread label hlabel
    exact (Ip.isDigit_of_readOctet hn).1
  · intro c hc
    rcases Ip.isDigit_or_dot_of_readV4 hread c hc with hdigit | rfl
    · exact isUpper_of_isDigit hdigit
    · rfl

/-- A character of groups as they are shown is a colon or a digit of a group. -/
theorem mem_showCompressed {gs : List Nat} {c : Char} (h : c ∈ Ip.showCompressed gs) :
    c = ':' ∨ ∃ n, c ∈ showHex n := by
  have hgroups {ns : List Nat} (hc : c ∈ Ip.showGroups ns) : c = ':' ∨ ∃ n, c ∈ showHex n := by
    rcases mem_intercalate hc with rfl | ⟨f, hf, hcf⟩
    · exact Or.inl rfl
    · obtain ⟨n, -, rfl⟩ := List.mem_map.1 hf
      exact Or.inr ⟨n, hcf⟩
  rw [Ip.showCompressed] at h
  split at h
  · simp only [List.mem_append, List.mem_cons] at h
    rcases h with hc | rfl | rfl | hc
    · exact hgroups hc
    · exact Or.inl rfl
    · exact Or.inl rfl
    · exact hgroups hc
  · exact hgroups h

theorem isUpper_of_mem_showHex {n : Nat} {c : Char} (h : c ∈ showHex n) : isUpper c = false := by
  induction n using Nat.strongRecOn with
  | ind n ih =>
    have hdigit : ∀ d < 16, isUpper d.digitChar = false := by decide
    rw [showHex_eq] at h
    by_cases hn : n < 16
    · rw [if_pos hn] at h
      rw [List.mem_singleton.1 h]
      exact hdigit n hn
    · rw [if_neg hn] at h
      rcases List.mem_append.1 h with h | h
      · exact ih (n / 16) (by omega) h
      · rw [List.mem_singleton.1 h]
        exact hdigit (n % 16) (by omega)

/-- An IPv6 address as it is shown is in normal form. -/
theorem normal_showV6 (a : BitVec 128) : Normal (Ip.showV6 a) := by
  have hread := Ip.readV6_showV6 a
  have hne : Ip.showV6 a ≠ [] := List.ne_nil_of_mem (Ip.colon_mem_of_readV6 hread)
  refine .of_labels ?_ ?_ (read_of_readV6 hread)
  · cases hmapped : Ip.unmapped? a with
    | some b =>
      have hshow : Ip.showV6 a = "::ffff:".toList ++ Ip.showV4 b := by rw [Ip.showV6, hmapped]
      have hmark : '.' ∉ "::ffff:".toList := by decide
      rw [hshow]
      exact field_ne_nil_append hmark (normal_showV4 b).labels
    | none =>
      have hshow : Ip.showV6 a = Ip.showCompressed (Ip.groups a) := by rw [Ip.showV6, hmapped]
      have hdot : '.' ∉ Ip.showV6 a := by
        rw [hshow]
        intro hmem
        rcases mem_showCompressed hmem with hcolon | ⟨n, hn⟩
        · exact absurd hcolon (by decide)
        · exact Ip.notMem_showHex hexValue_dot n hn
      simpa [List.splitOn_eq_singleton hdot] using hne
  · intro c hc
    rw [Ip.showV6] at hc
    split at hc
    · rcases List.mem_append.1 hc with hc | hc
      · have hmark : "::ffff:".toList.all (fun c => !isUpper c) = true := by decide
        simpa using List.all_eq_true.1 hmark c hc
      · exact (normal_showV4 _).folded c hc
    · rcases mem_showCompressed hc with rfl | ⟨n, hn⟩
      · rfl
      · exact isUpper_of_mem_showHex hn

/-! ## Names -/

/-- A name that is read as a host. -/
structure IsName (name : List Char) : Prop where
  nonempty : name ≠ []
  short : byteLength name ≤ maxHostLength
  chars : ∀ c ∈ name, isHostChar c = true
  front : ¬['.'] <+: name
  gap : ¬['.', '.'] <:+: name

theorem head?_eq_dot_iff (cs : List Char) : cs.head? = some '.' ↔ ['.'] <+: cs := by
  cases cs with
  | nil => simp
  | cons c cs => simp [List.prefix_cons_iff, eq_comm]

/-- What is no IPv4 address is read as a name, without one dot at its end and in lower case. -/
theorem readHost_eq_ok_iff (h4 : Ip.readV4 spelled = none) :
    readHost spelled = .ok host ↔
      IsName (dropFinalDot spelled) ∧ host = lower (dropFinalDot spelled) := by
  rw [readHost, h4]
  simp only
  generalize dropFinalDot spelled = name
  by_cases hne : name = []
  · rw [if_pos hne]
    exact iff_of_false (by simp) fun h => h.1.nonempty hne
  by_cases hshort : maxHostLength < byteLength name
  · rw [if_neg hne, if_pos hshort]
    exact iff_of_false (by simp) fun h => absurd h.1.short (Nat.not_le.2 hshort)
  have hvalid :
      (name.all isHostChar && name.head? != some '.' && !hasInfix ['.', '.'] name) = true ↔
        (∀ c ∈ name, isHostChar c = true) ∧ ¬['.'] <+: name ∧ ¬['.', '.'] <:+: name := by
    simp [← hasInfix_iff, ← head?_eq_dot_iff, and_assoc]
  rw [if_neg hne, if_neg hshort]
  split
  case isTrue hchars =>
    obtain ⟨hchars, hfront, hgap⟩ := hvalid.1 hchars
    have hname : IsName name := ⟨hne, Nat.not_lt.1 hshort, hchars, hfront, hgap⟩
    rw [Except.ok.injEq, eq_comm]
    exact ⟨fun h => ⟨hname, h⟩, fun h => h.2⟩
  case isFalse hchars =>
    exact iff_of_false (by simp) fun h => hchars (hvalid.2 ⟨h.1.chars, h.1.front, h.1.gap⟩)

/-- A character of a name is visible, and neither a bracket nor a colon. -/
theorem plain_of_isHostChar {c : Char} (h : isHostChar c = true) :
    isVisible c = true ∧ c ≠ '[' ∧ c ≠ ':' := by
  refine ⟨?_, ?_, ?_⟩
  · simp only [isHostChar, isAlnum, Bool.or_eq_true, decide_eq_true_eq, isLower_iff, isUpper_iff,
      isDigit_iff] at h
    simp only [isVisible, Bool.and_eq_true, decide_eq_true_eq]
    rcases h with ((((h | h) | h) | rfl) | rfl) | rfl
    · omega
    · omega
    · omega
    · decide
    · decide
    · decide
  · rintro rfl
    contradiction
  · rintro rfl
    contradiction

theorem isHostChar_toLower {c : Char} (h : isHostChar c = true) : isHostChar c.toLower = true := by
  rcases toLower_cases c with hself | ⟨hlo, hhi, hlower⟩
  · rw [hself]
    exact h
  · have hletter : isLower c.toLower = true := (isLower_iff _).2 (by omega)
    simp [isHostChar, isAlnum, hletter]

namespace IsName

/-- A name is one in lower case as well. -/
theorem folded (h : IsName name) : IsName (lower name) where
  nonempty := fun hnil => h.nonempty (List.map_eq_nil_iff.1 hnil)
  short := by
    rw [byteLength_lower]
    exact h.short
  chars c hc := by
    obtain ⟨d, hd, rfl⟩ := List.mem_map.1 hc
    exact isHostChar_toLower (h.chars d hd)
  front hfront := by
    obtain ⟨dots, hdots, heq⟩ := List.prefix_map_iff.1 hfront
    rw [eq_of_lower_eq ['.'] (by simp) heq.symm] at hdots
    exact h.front hdots
  gap hgap := by
    obtain ⟨dots, hdots, heq⟩ := List.infix_map_iff.1 hgap
    rw [eq_of_lower_eq ['.', '.'] (by simp) heq.symm] at hdots
    exact h.gap hdots

/-- Without a dot at its end a name is one as well. -/
theorem of_append_dot (h : IsName (name ++ ['.'])) : IsName name where
  nonempty := by
    rintro rfl
    exact h.front (List.prefix_refl _)
  short := by
    have hshort := h.short
    rw [byteLength_append] at hshort
    omega
  chars c hc := h.chars c (List.mem_append_left _ hc)
  front hfront := h.front (hfront.trans (List.prefix_append _ _))
  gap hgap := h.gap (hgap.trans (List.prefix_append _ _).isInfix)

/-- A name has at most one dot at its end. -/
theorem ends (h : IsName name) : ¬['.'] <:+ withoutFinalDots name ∧
    (name = withoutFinalDots name ∨ name = withoutFinalDots name ++ ['.']) := by
  rcases eq_append_dot_or name with ⟨front, rfl⟩ | ⟨hself, hdot⟩
  · have hfront : ¬['.'] <:+ front := by
      rintro ⟨front', rfl⟩
      exact h.gap ⟨front', [], by simp⟩
    have hself : withoutFinalDots (front ++ ['.']) = front :=
      (trimEndBy_append_dot front).trans (withoutFinalDots_eq_self hfront)
    rw [hself]
    exact ⟨hfront, Or.inr rfl⟩
  · rw [withoutFinalDots, hself]
    exact ⟨hdot, Or.inl rfl⟩

/-- Without the dot at its end a name is one as well. -/
theorem trimmed (h : IsName name) : IsName (withoutFinalDots name) := by
  rcases h.ends.2 with heq | heq
  · exact heq ▸ h
  · rw [heq] at h
    exact h.of_append_dot

theorem dropFinalDot_eq (h : IsName name) : dropFinalDot name = withoutFinalDots name := by
  obtain ⟨hdot, heq | heq⟩ := h.ends
  · rw [← heq] at hdot ⊢
    exact dropFinalDot_of_not_isSuffix hdot
  · conv_lhs => rw [heq]
    exact dropFinalDot_append_dot _

/-- A name in lower case is read without the dot at its end. -/
theorem read_eq (h : IsName name) (hlower : lower name = name) :
    read name = .ok ⟨withoutFinalDots name, none⟩ := by
  cases h4 : Ip.readV4 name with
  | some a =>
    have hread : Ip.read name = some (.v4 a) := by rw [Ip.read, h4]
    rw [read_of_readV4 h4, Ip.showV4_of_readV4 h4, Ip.withoutFinalDots_of_read hread]
  | none =>
    have hhost : readHost name = .ok (withoutFinalDots name) := by
      rw [readHost_eq_ok_iff h4, h.dropFinalDot_eq]
      refine ⟨h.trimmed, ?_⟩
      rw [withoutFinalDots, lower_trimEndBy_dot, hlower]
    exact read_of_readHost (fun c hc => plain_of_isHostChar (h.chars c hc)) hhost

/-- A name in lower case is in normal form without the dot at its end. -/
theorem normal (h : IsName name) (hlower : lower name = name) :
    Normal (withoutFinalDots name) := by
  have hdot := h.ends.1
  have hfolded : lower (withoutFinalDots name) = withoutFinalDots name := by
    rw [withoutFinalDots, lower_trimEndBy_dot, hlower]
  have hname := h.trimmed
  have hread := hname.read_eq hfolded
  rw [← hname.dropFinalDot_eq, dropFinalDot_of_not_isSuffix hdot] at hread
  refine .of_labels (field_ne_nil _ hname.nonempty hname.front hdot hname.gap) ?_ hread
  intro c hc
  rw [← hfolded] at hc
  obtain ⟨d, -, rfl⟩ := List.mem_map.1 hc
  exact isUpper_toLower d

end IsName

/-! ## Hosts of targets -/

/-- A host is in normal form without the dot at its end, if it has one, and is read without it. -/
theorem ReadsHost.normal (h : ReadsHost spelled host) :
    Normal (withoutFinalDots host) ∧ read host = .ok ⟨withoutFinalDots host, none⟩ ∧
      (['.'] <:+ host → host = withoutFinalDots host ++ ['.']) := by
  have haddress (hnormal : Normal host) : Normal (withoutFinalDots host) ∧
      read host = .ok ⟨withoutFinalDots host, none⟩ ∧
      (['.'] <:+ host → host = withoutFinalDots host ++ ['.']) := by
    rw [withoutFinalDots_eq_self hnormal.back]
    exact ⟨hnormal, hnormal.stable, fun hdot => absurd hdot hnormal.back⟩
  cases h with
  | v6 a _ hhost =>
    subst hhost
    exact haddress (normal_showV6 a)
  | plain _ hread =>
    cases h4 : Ip.readV4 spelled with
    | some a =>
      rw [readHost, h4] at hread
      obtain rfl := Except.ok.inj hread
      exact haddress (normal_showV4 a)
    | none =>
      obtain ⟨hname, rfl⟩ := (readHost_eq_ok_iff h4).1 hread
      have hname := hname.folded
      refine ⟨hname.normal (lower_lower _), hname.read_eq (lower_lower _), fun hdot => ?_⟩
      obtain ⟨hback, heq | heq⟩ := hname.ends
      · rw [← heq] at hback
        exact absurd hdot hback
      · exact heq

/-- The host of a target is in normal form exactly if two dots are not spelled at its end. Without
the dot that is left where they are, it is in normal form in any case, and this is what reading the
host again gives. -/
theorem normal_of_read (h : read address = .ok target) :
    Normal (withoutFinalDots target.host) ∧
      read target.host = .ok ⟨withoutFinalDots target.host, none⟩ ∧
      (Normal target.host ↔ ¬['.', '.'] <:+ spelledHost address) ∧
      (['.', '.'] <:+ spelledHost address →
        target.host = withoutFinalDots target.host ++ ['.']) := by
  obtain ⟨hnormal, hread, hdot⟩ := (readsHost_of_read h).normal
  have hdots := (normalizes_of_read h).dot_isSuffix_iff
  refine ⟨hnormal, hread, ?_, fun hspelled => hdot (hdots.2 hspelled)⟩
  constructor
  · exact fun hhost hspelled => hhost.back (hdots.2 hspelled)
  · intro hspelled
    have hself : withoutFinalDots target.host = target.host :=
      withoutFinalDots_eq_self (mt hdots.1 hspelled)
    exact hself ▸ hnormal

/-- Two dots at the end of a name and none at the end of an address. -/
theorem normal_of_read_dots :
    (read "EXAMPLE.com..:443".toList = .ok ⟨"example.com.".toList, some 443⟩ ∧
      Normal "example.com".toList ∧
      read "example.com.".toList = .ok ⟨"example.com".toList, none⟩) ∧
    read "[::FFFF:10.0.0.1]:80".toList = .ok ⟨"::ffff:10.0.0.1".toList, some 80⟩ ∧
      Normal "::ffff:10.0.0.1".toList := by
  have hname : read "EXAMPLE.com..:443".toList = .ok ⟨"example.com.".toList, some 443⟩ := by
    decide +kernel
  have hmapped : read "[::FFFF:10.0.0.1]:80".toList =
      .ok ⟨"::ffff:10.0.0.1".toList, some 80⟩ := by
    decide +kernel
  obtain ⟨hnormal, hread, -, -⟩ := normal_of_read hname
  refine ⟨⟨hname, hnormal, hread⟩, hmapped, ?_⟩
  have hspelled : ¬['.', '.'] <:+ spelledHost "[::FFFF:10.0.0.1]:80".toList := by decide +kernel
  exact (normal_of_read hmapped).2.2.1.2 hspelled

/-- A host with a dot at its end, which is not in normal form. -/
theorem not_normal_of_read : ¬∀ (address : List Char) (target : HostPort),
    read address = .ok target → Normal target.host := by
  intro h
  have hread : read "example.com..".toList = .ok ⟨"example.com.".toList, none⟩ := by decide +kernel
  have hdot : ['.'] <:+ "example.com.".toList := by decide
  exact (h _ _ hread).back hdot

end HostPort

end PluginSandbox
