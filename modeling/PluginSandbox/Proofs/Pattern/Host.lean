import PluginSandbox.Pattern.Host
import PluginSandbox.Proofs.Address.Cidr
import PluginSandbox.Proofs.Address.Spelling
import PluginSandbox.Proofs.Text.Bytes

/-!
# Hosts that fit a pattern

What a host pattern stands for is said here by one rule for each kind of pattern:
a block holds the addresses that share its leading bits, and a wildcard the names
that are equal to what stands behind it or end in it behind a dot. The program
masks words and cuts texts at bytes to decide the same. It cuts a name only behind
the byte of a dot, which lies in the name and between two characters.

## Main definitions

* `HostPattern.Fits`: the hosts that fit a pattern.
* `HostPattern.CutsInside`: a name is looked at and cut where it can be.

## Main statements

* `HostPattern.endsBelow_iff`: the end of a name, by bytes.
* `HostPattern.admits_iff`: the program decides what fits.
* `hostMatches_reference`: all of this for one pattern and host.
-/

namespace PluginSandbox

open Text

namespace HostPattern

/-! ## Names below a suffix -/

variable {suffix name : List Char}

/-- Behind the byte of a dot a name can be cut, and the dot is a character of the name. -/
theorem exists_dropBytes?_of_dotByte {n : Nat} (h : (utf8Bytes name)[n]? = some dotByte) :
    ∃ front back, name = front ++ '.' :: back ∧ byteLength front = n ∧
      dropBytes? (n + 1) name = some back := by
  obtain ⟨front, c, back, rfl, hfront, hc⟩ := exists_append_of_getElem?_utf8Bytes h (by decide)
  obtain rfl : c = '.' := Char.ext (UInt32.toNat_inj.1 hc)
  have hdrop := dropBytes?_byteLength (front ++ ['.']) back
  rw [List.append_assoc, byteLength_append, hfront] at hdrop
  exact ⟨front, back, rfl, hfront, hdrop⟩

/-- The byte behind the front of a text is the first one of its back. -/
theorem getElem?_utf8Bytes_dot (front back : List Char) :
    (utf8Bytes (front ++ '.' :: back))[byteLength front]? = some dotByte := by
  rw [utf8Bytes, List.flatMap_append, ← utf8Bytes, List.getElem?_append_right (by simp),
    length_utf8Bytes, Nat.sub_self]
  rfl

/-- The bytes at the end of a name are compared with the suffix as its characters are. -/
theorem endsBelow_iff : endsBelow suffix name = true ↔ '.' :: lower suffix <:+ lower name := by
  simp only [endsBelow, Bool.and_eq_true, decide_eq_true_eq, beq_iff_eq, Option.any_eq_true]
  constructor
  · rintro ⟨⟨hlt, hdot⟩, back, hback, hfolded⟩
    obtain ⟨front, back', rfl, -, hdrop⟩ := exists_dropBytes?_of_dotByte hdot
    rw [Nat.sub_add_cancel (by omega), hback] at hdrop
    obtain rfl := Option.some.inj hdrop
    rw [lower_append, lower_cons, (sameFolded_iff _ _).1 hfolded]
    exact List.suffix_append _ _
  · intro h
    obtain ⟨cs, ⟨front, rfl⟩, heq⟩ := List.suffix_map_iff.1 h
    obtain ⟨c, back, rfl, hc, hback⟩ := List.map_eq_cons_iff.1 heq.symm
    rw [toLower_eq_dot_iff] at hc
    subst hc
    have hlen : byteLength back = byteLength suffix := by
      rw [← byteLength_lower back, ← byteLength_lower suffix, lower, hback]
    have hall : byteLength (front ++ '.' :: back) = byteLength front + 1 + byteLength suffix := by
      rw [byteLength_append, byteLength, hlen, Nat.add_assoc]
      rfl
    rw [hall, Nat.add_sub_cancel, Nat.add_sub_cancel]
    refine ⟨⟨by omega, getElem?_utf8Bytes_dot front back⟩, back, ?_, ?_⟩
    · have hdrop := dropBytes?_byteLength (front ++ ['.']) back
      rwa [List.append_assoc, byteLength_append] at hdrop
    · exact (sameFolded_iff _ _).2 hback

/-- A name is compared with a suffix inside the name: what is left of it in front of as many bytes
as the suffix has is not empty, its last byte is a byte of the name, and if it is the one of a dot,
the name is cut between two characters. -/
structure CutsInside (suffix name : List Char) : Prop where
  front (h : byteLength suffix < byteLength name) : 0 < byteLength name - byteLength suffix
  byte (h : byteLength suffix < byteLength name) :
    byteLength name - byteLength suffix - 1 < (utf8Bytes name).length
  cut (h : byteLength suffix < byteLength name)
    (hdot : (utf8Bytes name)[byteLength name - byteLength suffix - 1]? = some dotByte) :
    ∃ front back, name = front ++ back ∧ byteLength front = byteLength name - byteLength suffix ∧
      dropBytes? (byteLength name - byteLength suffix) name = some back

theorem cutsInside (suffix name : List Char) : CutsInside suffix name where
  front := Nat.sub_pos_of_lt
  byte h := by
    rw [length_utf8Bytes]
    omega
  cut h hdot := by
    obtain ⟨front, back, hname, hfront, hdrop⟩ := exists_dropBytes?_of_dotByte hdot
    rw [Nat.sub_add_cancel (by omega)] at hdrop
    refine ⟨front ++ ['.'], back, by simpa using hname, ?_, hdrop⟩
    rw [byteLength_append, hfront]
    exact Nat.sub_add_cancel (by omega)

/-! ## What fits -/

/-- The host fits the pattern. Names are compared without the dots at the end of the host and
without regard to ASCII case. -/
inductive Fits (pattern host : List Char) : Prop where
  /-- Any host. -/
  | any (hpattern : pattern = ['*'])
  /-- An address of a block. -/
  | block (cidr : Cidr) (ip : Ip) (hslash : '/' ∈ pattern) (hpattern : Cidr.read pattern = .ok cidr)
    (hhost : Ip.read host = some ip) (hholds : cidr.Holds ip)
  /-- An address in either of its forms. -/
  | address (own ip : Ip) (hslash : '/' ∉ pattern) (hpattern : Ip.read pattern = some own)
    (hhost : Ip.read host = some ip) (heq : ip.canonical = own.canonical)
  /-- A name behind the wildcard, or one below it. -/
  | subdomain (suffix : List Char) (hslash : '/' ∉ pattern) (haddress : Ip.read pattern = none)
    (hpattern : pattern = '*' :: '.' :: suffix) (hhost : Ip.read host = none)
    (hbelow : lower (withoutFinalDots host) = lower suffix ∨
      '.' :: lower suffix <:+ lower (withoutFinalDots host))
  /-- A name. -/
  | name (hany : pattern ≠ ['*']) (hslash : '/' ∉ pattern) (haddress : Ip.read pattern = none)
    (hpattern : ¬['*', '.'] <+: pattern) (hhost : Ip.read host = none)
    (heq : lower (withoutFinalDots host) = lower pattern)

variable {pattern pattern' host host' : List Char}

theorem isBelow_iff : isBelow suffix name = true ↔
    lower name = lower suffix ∨ '.' :: lower suffix <:+ lower name := by
  rw [isBelow, Bool.or_eq_true, sameFolded_iff, endsBelow_iff]

/-- What a pattern admits fits it. -/
theorem fits_of_admits (h : (read pattern).admits host = true) : Fits pattern host := by
  rw [read] at h
  split at h
  case isTrue hany => exact .any hany
  case isFalse hany =>
    split at h
    case isTrue hslash =>
      split at h
      case h_1 cidr hcidr =>
        obtain ⟨ip, hip, hcontains⟩ := (Option.any_eq_true _ _).1 h
        exact .block cidr ip hslash hcidr hip ((cidr.contains_iff ip).1 hcontains)
      case h_2 => contradiction
    case isFalse hslash =>
      split at h
      case h_1 own hown =>
        obtain ⟨ip, hip, heq⟩ := (Option.any_eq_true _ _).1 h
        exact .address own ip hslash hown hip (beq_iff_eq.1 heq)
      case h_2 haddress =>
        split at h
        case h_1 suffix hsuffix =>
          obtain ⟨hhost, hbelow⟩ := Bool.and_eq_true_iff.1 h
          exact .subdomain suffix hslash haddress (stripPrefix?_eq_some.1 hsuffix)
            (Option.isNone_iff_eq_none.1 hhost) (isBelow_iff.1 hbelow)
        case h_2 hwild =>
          obtain ⟨hhost, heq⟩ := Bool.and_eq_true_iff.1 h
          exact .name hany hslash haddress (stripPrefix?_eq_none.1 hwild)
            (Option.isNone_iff_eq_none.1 hhost) ((sameFolded_iff _ _).1 heq)

theorem admits_of_fits (h : Fits pattern host) : (read pattern).admits host = true := by
  cases h with
  | any hpattern => rw [read, if_pos hpattern, admits]
  | block cidr ip hslash hpattern hhost hholds =>
    have hany : pattern ≠ ['*'] := by
      rintro rfl
      contradiction
    rw [read, if_neg hany, if_pos hslash, hpattern]
    simpa [admits, hhost] using (cidr.contains_iff ip).2 hholds
  | address own ip hslash hpattern hhost heq =>
    have hany : pattern ≠ ['*'] := by
      rintro rfl
      contradiction
    rw [read, if_neg hany, if_neg hslash, hpattern]
    simp [admits, hhost, heq]
  | subdomain suffix hslash haddress hpattern hhost hbelow =>
    have hany : pattern ≠ ['*'] := by simp [hpattern]
    have hstrip : stripPrefix? ['*', '.'] pattern = some suffix := stripPrefix?_eq_some.2 hpattern
    rw [read, if_neg hany, if_neg hslash, haddress]
    simpa [hstrip, admits, hhost] using isBelow_iff.2 hbelow
  | name hany hslash haddress hpattern hhost heq =>
    rw [read, if_neg hany, if_neg hslash, haddress]
    simpa [stripPrefix?_eq_none.2 hpattern, admits, hhost] using (sameFolded_iff _ _).2 heq

theorem admits_iff : (read pattern).admits host = true ↔ Fits pattern host :=
  ⟨fits_of_admits, admits_of_fits⟩

/-! ## Spellings that make no difference -/

theorem exists_wildcard_of_lower_eq (h : lower pattern' = lower pattern)
    (hpattern : pattern = '*' :: '.' :: suffix) :
    ∃ suffix', pattern' = '*' :: '.' :: suffix' ∧ lower suffix' = lower suffix := by
  subst hpattern
  exact exists_append_of_lower_eq ['*', '.'] suffix (by simp) h

/-- What fits does so however the letters of both are cased. -/
theorem Fits.of_lower_eq (h : Fits pattern host) (hpattern' : lower pattern' = lower pattern)
    (hhost' : lower host' = lower host) : Fits pattern' host' := by
  have hread : Ip.read host' = Ip.read host := by
    rw [← Ip.read_lower host', hhost', Ip.read_lower]
  have hread' : Ip.read pattern' = Ip.read pattern := by
    rw [← Ip.read_lower pattern', hpattern', Ip.read_lower]
  have hmem : '/' ∈ pattern' ↔ '/' ∈ pattern := by
    have hslash : '/'.toNat < 65 := by decide
    rw [← mem_lower_iff hslash pattern', hpattern', mem_lower_iff hslash]
  have hname : lower (withoutFinalDots host') = lower (withoutFinalDots host) := by
    rw [withoutFinalDots, withoutFinalDots, lower_trimEndBy_dot, lower_trimEndBy_dot, hhost']
  cases h with
  | any hpattern => exact .any (eq_of_lower_eq ['*'] (by simp) (hpattern ▸ hpattern'))
  | block cidr ip hslash hpattern hhost hholds =>
    refine .block cidr ip (hmem.2 hslash) ?_ (hread.trans hhost) hholds
    rw [← Cidr.read_lower, hpattern', Cidr.read_lower, hpattern]
  | address own ip hslash hpattern hhost heq =>
    exact .address own ip (mt hmem.1 hslash) (hread'.trans hpattern) (hread.trans hhost) heq
  | subdomain suffix hslash haddress hpattern hhost hbelow =>
    obtain ⟨suffix', hwild, hsuffix⟩ := exists_wildcard_of_lower_eq hpattern' hpattern
    refine .subdomain suffix' (mt hmem.1 hslash) (hread'.trans haddress) hwild
      (hread.trans hhost) ?_
    rwa [hname, hsuffix]
  | name hany hslash haddress hpattern hhost heq =>
    refine .name ?_ (mt hmem.1 hslash) (hread'.trans haddress) ?_ (hread.trans hhost) ?_
    · exact fun hany' => hany (eq_of_lower_eq ['*'] (by simp) (hany' ▸ hpattern'.symm))
    · rintro ⟨suffix', hsuffix'⟩
      obtain ⟨suffix, hwild, -⟩ := exists_wildcard_of_lower_eq hpattern'.symm hsuffix'.symm
      exact hpattern ⟨suffix, hwild.symm⟩
    · rw [hname, heq, hpattern']

/-- Patterns look at a host as an address or as a name without the dots at its end. -/
theorem admits_congr (form : HostPattern) (hread : Ip.read host' = Ip.read host)
    (hname : withoutFinalDots host' = withoutFinalDots host) :
    form.admits host' = form.admits host := by
  cases form <;> simp only [admits, hread, hname]

/-- Dots behind a host that is no address change nothing. -/
theorem admits_append_dots (form : HostPattern) (hhost : Ip.read host = none) (n : Nat) :
    form.admits (host ++ List.replicate n '.') = form.admits host := by
  refine admits_congr form ?_ (trimEndBy_append_of_all _ _ _ (by simp))
  cases n with
  | zero => simp
  | succ n =>
    rw [List.replicate_succ', ← List.append_assoc, hhost]
    exact Ip.read_append_singleton hexValue_dot (by decide) _

end HostPattern

open HostPattern

theorem hostMatches_iff (pattern host : String) :
    hostMatches pattern host = true ↔ Fits pattern.toList host.toList :=
  admits_iff

/-- A host matches a pattern exactly if it fits it. Nothing is looked at or cut where it cannot be,
and neither case, in the pattern or the host, nor dots behind a host that is no address make a
difference. -/
theorem hostMatches_reference (pattern host : String) :
    (hostMatches pattern host = true ↔ Fits pattern.toList host.toList) ∧
      (∀ suffix, pattern.toList = '*' :: '.' :: suffix →
        CutsInside suffix (withoutFinalDots host.toList)) ∧
      (∀ pattern' host' : String, lower pattern'.toList = lower pattern.toList →
        lower host'.toList = lower host.toList →
        hostMatches pattern' host' = hostMatches pattern host) ∧
      (Ip.read host.toList = none → ∀ n,
        hostMatches pattern (host ++ String.ofList (List.replicate n '.')) =
          hostMatches pattern host) := by
  refine ⟨hostMatches_iff pattern host, fun suffix _ => cutsInside suffix _, ?_, ?_⟩
  · intro pattern' host' hpattern hhost
    rw [Bool.eq_iff_iff, hostMatches_iff, hostMatches_iff]
    exact ⟨fun h => h.of_lower_eq hpattern.symm hhost.symm, fun h => h.of_lower_eq hpattern hhost⟩
  · intro hhost n
    rw [hostMatches, hostMatches, String.toList_append, String.toList_ofList]
    exact admits_append_dots _ hhost n

/-- A wildcard with a letter of two bytes, and a name that ends in it within a label. -/
theorem hostMatches_reference_two_bytes :
    Fits "*.ça.org".toList "x.ça.org".toList ∧
      ¬Fits "*.ça.org".toList "xça.org".toList ∧
      hostMatches "*.ça.ORG" "X.ça.org" = true ∧
      hostMatches "*.ça.org" ("x.ça.org" ++ String.ofList (List.replicate 3 '.')) = true := by
  have hmatch : hostMatches "*.ça.org" "x.ça.org" = true := by decide +kernel
  have hnone : Ip.read "x.ça.org".toList = none := by decide +kernel
  obtain ⟨hfits, -, hcase, hdots⟩ := hostMatches_reference "*.ça.org" "x.ça.org"
  refine ⟨hfits.1 hmatch, fun hlabel => ?_, ?_, ?_⟩
  · have hno : hostMatches "*.ça.org" "xça.org" = false := by decide +kernel
    rw [(hostMatches_reference "*.ça.org" "xça.org").1.2 hlabel] at hno
    contradiction
  · rw [hcase "*.ça.ORG" "X.ça.org" (by decide) (by decide), hmatch]
  · rw [hdots hnone 3, hmatch]

end PluginSandbox
