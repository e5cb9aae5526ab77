import PluginSandbox.Guard.Config
import PluginSandbox.Proofs.Pattern.Block
import PluginSandbox.Proofs.Pattern.Host

/-!
# Entries without effect

The validation of a list of hosts refuses blank entries, wildcards without a name and
texts with a slash that are no blocks. It reads entries for itself, apart from the
patterns that are made of them, and it lets two kinds of entries through that no host
fits. The dots at the end of a host are taken away before names are compared and those
at the end of an entry are not, so an entry with a dot at its end is never equal to
anything. And blocks within the range of IPv4-mapped addresses have no address. Every
other entry has a host.

## Main definitions

* `HostPattern.Inert`: the accepted entries that no host fits.

## Main statements

* `checkHostEntry_eq_ok_iff`, `checkHostList_eq_ok_iff`: the accepted entries and lists.
* `exists_hostMatches_iff_not_inert`: the accepted entries that some host fits.
-/

namespace PluginSandbox

open Text HostPattern

/-! ## What is accepted -/

theorem checkHostEntry_eq_ok_iff {entry : String} : checkHostEntry entry = .ok () ↔
    trim entry.toList ≠ [] ∧ entry.toList ≠ ['*', '.'] ∧
      ('/' ∈ entry.toList → ∃ block, Cidr.read entry.toList = .ok block) := by
  simp only [checkHostEntry]
  split
  case isTrue hblank => simp [hblank]
  case isFalse hblank =>
    split
    case isTrue hbare => simp [hbare]
    case isFalse hbare =>
      split
      case isTrue hslash => cases Cidr.read entry.toList <;> simp [hblank, hbare, hslash]
      case isFalse hslash => simp [hblank, hbare, hslash]

theorem checkHostList_eq_ok_iff {hosts : List String} :
    checkHostList hosts = .ok () ↔ ∀ host ∈ hosts, checkHostEntry host = .ok () := by
  induction hosts with
  | nil => simp [checkHostList]
  | cons host hosts ih =>
    rw [checkHostList, List.forall_mem_cons, ← ih]
    cases checkHostEntry host <;> simp

/-! ## Entries and their hosts -/

namespace HostPattern

variable {entry host : List Char}

/-- How an accepted entry is written that no host fits. -/
inductive Inert (entry : List Char) : Prop where
  /-- A name, or a wildcard, with a dot at its end. -/
  | dotted (hslash : '/' ∉ entry) (hdot : ['.'] <:+ entry)
  /-- A block within the range of IPv4-mapped addresses. -/
  | mapped (block : Cidr) (hread : Cidr.read entry = .ok block) (hblock : block.InMapped)

/-- Without a slash and without a dot at its end, an entry fits the text that it is. -/
theorem fits_self (hslash : '/' ∉ entry) (hdot : ¬['.'] <:+ entry) : Fits entry entry := by
  have hself : withoutFinalDots entry = entry := withoutFinalDots_eq_self hdot
  by_cases hany : entry = ['*']
  · exact .any hany
  cases haddress : Ip.read entry with
  | some own => exact .address own own hslash haddress haddress rfl
  | none =>
    by_cases hwild : ['*', '.'] <+: entry
    · obtain ⟨suffix, rfl⟩ := hwild
      refine .subdomain suffix hslash haddress rfl haddress (.inr ?_)
      rw [hself]
      exact List.suffix_cons _ _
    · exact .name hany hslash haddress hwild haddress (congrArg lower hself)

/-- No host fits an entry with a dot at its end, the wildcard without a name apart. -/
theorem not_fits_of_dotted (hbare : entry ≠ ['*', '.']) (hslash : '/' ∉ entry)
    (hdot : ['.'] <:+ entry) : ¬Fits entry host := by
  have hhost : ¬['.'] <:+ lower (withoutFinalDots host) := by
    rw [dot_isSuffix_lower_iff]
    exact not_dot_isSuffix_trimEndBy host
  rintro (hany | ⟨block, ip, hslash', -, -, -⟩ | ⟨own, ip, -, hown, -, -⟩ |
    ⟨suffix, -, -, hwild, -, hbelow⟩ | ⟨-, -, -, -, -, heq⟩)
  · rw [hany] at hdot
    revert hdot
    decide
  · exact hslash hslash'
  · exact Ip.not_dot_isSuffix_of_read hown hdot
  · subst hwild
    have hlength : ['.'].length ≤ suffix.length :=
      List.length_pos_iff.2 fun hnil => hbare (by rw [hnil])
    have hsuffix : ['.'] <:+ lower suffix := by
      rw [dot_isSuffix_lower_iff]
      exact List.suffix_of_suffix_length_le hdot (List.suffix_append ['*', '.'] suffix) hlength
    rcases hbelow with heq | hbelow
    · exact hhost (heq ▸ hsuffix)
    · exact hhost ((hsuffix.trans (List.suffix_cons _ _)).trans hbelow)
  · exact hhost (heq ▸ (dot_isSuffix_lower_iff entry).2 hdot)

/-- The hosts that fit a block are the texts of its addresses. -/
theorem exists_fits_iff_of_block {block : Cidr} (hread : Cidr.read entry = .ok block) :
    (∃ host, Fits entry host) ↔ ¬block.InMapped := by
  rw [← Cidr.exists_contains_iff block]
  simp only [← admits_iff, read_of_block hread, admits, Option.any_eq_true]
  constructor
  · rintro ⟨host, ip, -, hip⟩
    exact ⟨ip, hip⟩
  · rintro ⟨ip, hip⟩
    exact ⟨ip.render, ip, Ip.read_render ip, hip⟩

theorem exists_fits_iff_not_inert (hbare : entry ≠ ['*', '.'])
    (hblock : '/' ∈ entry → ∃ block, Cidr.read entry = .ok block) :
    (∃ host, Fits entry host) ↔ ¬Inert entry := by
  constructor
  · rintro ⟨host, hfits⟩ (⟨hslash, hdot⟩ | ⟨block, hread, hin⟩)
    · exact not_fits_of_dotted hbare hslash hdot hfits
    · exact (exists_fits_iff_of_block hread).1 ⟨host, hfits⟩ hin
  · intro h
    by_cases hslash : '/' ∈ entry
    · obtain ⟨block, hread⟩ := hblock hslash
      exact (exists_fits_iff_of_block hread).2 fun hin => h (.mapped block hread hin)
    · exact ⟨entry, fits_self hslash fun hdot => h (.dotted hslash hdot)⟩

end HostPattern

/-! ## Lists of entries -/

theorem exists_hostMatches_iff_of_checkHostEntry {entry : String}
    (h : checkHostEntry entry = .ok ()) :
    (∃ host, hostMatches entry host = true) ↔ ¬Inert entry.toList := by
  obtain ⟨-, hbare, hblock⟩ := checkHostEntry_eq_ok_iff.1 h
  rw [← exists_fits_iff_not_inert hbare hblock]
  simp only [hostMatches_iff]
  constructor
  · rintro ⟨host, hfits⟩
    exact ⟨host.toList, hfits⟩
  · rintro ⟨host, hfits⟩
    exact ⟨String.ofList host, by rwa [String.toList_ofList]⟩

/-- Without an entry that no host fits, a list finds what it finds with it. -/
theorem firstHostMatch?_filter_ne {entry : String} (h : ∀ host, hostMatches entry host = false)
    (entries : List String) (host : String) (ip : Option Ip) :
    firstHostMatch? (entries.filter (· ≠ entry)) host ip = firstHostMatch? entries host ip := by
  rw [firstHostMatch?, firstHostMatch?, List.find?_filter]
  congr 1
  funext other
  by_cases heq : other = entry
  · cases ip <;> simp [heq, h]
  · simp [heq]

/-- **Entries without effect.** In a list of hosts that is accepted, some host fits an entry exactly
if the entry neither has a dot at its end nor is a block within the range of IPv4-mapped addresses.
Where an entry has no host, the list decides as it does without the entry. -/
theorem exists_hostMatches_iff_not_inert {entries : List String}
    (haccepted : checkHostList entries = .ok ()) :
    ∀ entry ∈ entries,
      ((∃ host, hostMatches entry host = true) ↔ ¬Inert entry.toList) ∧
        (Inert entry.toList → ∀ host ip,
          firstHostMatch? (entries.filter (· ≠ entry)) host ip =
            firstHostMatch? entries host ip) := by
  intro entry hentry
  have hiff := exists_hostMatches_iff_of_checkHostEntry
    (checkHostList_eq_ok_iff.1 haccepted entry hentry)
  refine ⟨hiff, fun hinert host ip => firstHostMatch?_filter_ne (fun other => ?_) entries host ip⟩
  rw [Bool.eq_false_iff]
  exact fun hmatch => hiff.1 ⟨other, hmatch⟩ hinert

/-- A block of 95 shared bits around the IPv4-mapped addresses, a wildcard in front of an address,
and two entries without effect. -/
theorem exists_hostMatches_iff_not_inert_mixed :
    let entries := ["::fffe:0:0/95", "*.1.2.3.4", "::ffff:0:0/96", "*.."]
    checkHostList entries = .ok () ∧
      (∃ host, hostMatches "::fffe:0:0/95" host = true) ∧
      (∃ host, hostMatches "*.1.2.3.4" host = true) ∧
      (¬∃ host, hostMatches "*.." host = true) ∧
      ∀ host ip, firstHostMatch? (entries.filter (· ≠ "::ffff:0:0/96")) host ip =
        firstHostMatch? entries host ip := by
  intro entries
  have haccepted : checkHostList entries = .ok () := rfl
  have hentry := exists_hostMatches_iff_not_inert haccepted
  refine ⟨haccepted, ?_, ?_, ?_, ?_⟩
  · refine (hentry "::fffe:0:0/95" (by decide)).1.2 ?_
    rintro (⟨hslash, -⟩ | ⟨block, hread, -, hlong⟩)
    · exact hslash (by decide)
    · have hlength : (Cidr.read "::fffe:0:0/95".toList).toOption.map Cidr.length = some 95 := by
        decide
      rw [hread] at hlength
      have hshort : block.length = 95 := Option.some.inj hlength
      omega
  · refine (hentry "*.1.2.3.4" (by decide)).1.2 ?_
    rintro (⟨-, hdot⟩ | ⟨block, hread, -⟩)
    · revert hdot
      decide
    · contradiction
  · rw [(hentry "*.." (by decide)).1, not_not]
    exact .dotted (by decide) ⟨['*', '.'], rfl⟩
  · refine (hentry "::ffff:0:0/96" (by decide)).2 ?_
    exact .mapped ⟨.v6 (Ip.mapped 0), 96⟩ rfl ⟨⟨0, rfl⟩, by decide⟩

/-- Two accepted entries that no host fits, not even the text that they are. -/
theorem accepted_entries_without_host :
    checkHostList ["example.com.", "::ffff:10.0.0.1/128"] = .ok () ∧
      (¬∃ host, hostMatches "example.com." host = true) ∧
      ¬∃ host, hostMatches "::ffff:10.0.0.1/128" host = true := by
  refine ⟨rfl, ?_, ?_⟩
  · rw [exists_hostMatches_iff_of_checkHostEntry rfl, not_not]
    exact .dotted (by decide) ⟨"example.com".toList, rfl⟩
  · rw [exists_hostMatches_iff_of_checkHostEntry rfl, not_not]
    exact .mapped ⟨.v6 (Ip.mapped (Ip.ofOctets [10, 0, 0, 1])), 128⟩ rfl ⟨⟨_, rfl⟩, by decide⟩

end PluginSandbox
