import PluginSandbox.Pattern.Host
import PluginSandbox.Proofs.Address.RoundTrip

/-!
# Host patterns and addresses

A pattern is tried on a text. Where the text spells an address, the answer
depends on the canonical form of that address alone, so an address and its
printed form, and the two spellings of an IPv4 address, fit the same patterns.

## Main definitions

* `HostPattern.covers`: the addresses that a pattern stands for.
* `HostListed`: a host, or the address it spells, fits a list of patterns.
-/

namespace PluginSandbox

namespace HostPattern

/-- The address is one that the pattern stands for. Patterns of names stand for no address. -/
def covers (pattern : HostPattern) (ip : Ip) : Bool :=
  match pattern with
  | any => true
  | block cidr => cidr.contains ip
  | address own => ip.canonical == own.canonical
  | never | subdomains _ | name _ => false

/-- A text that spells an address is admitted by the patterns that stand for the address. -/
theorem admits_of_read {host : List Char} {ip : Ip} (h : Ip.read host = some ip)
    (pattern : HostPattern) : pattern.admits host = pattern.covers ip := by
  cases pattern <;> simp [admits, covers, h]

theorem covers_canonical (pattern : HostPattern) (ip : Ip) :
    pattern.covers ip.canonical = pattern.covers ip := by
  cases pattern <;> simp [covers, Cidr.contains]

end HostPattern

theorem hostMatches_of_read {host : List Char} {ip : Ip} (h : Ip.read host = some ip)
    (pattern : String) :
    hostMatches pattern (String.ofList host) = (HostPattern.read pattern.toList).covers ip := by
  rw [hostMatches, String.toList_ofList, HostPattern.admits_of_read h]

/-- The printed form of an address fits the patterns that stand for the address. -/
theorem hostMatches_text (pattern : String) (ip : Ip) :
    hostMatches pattern ip.text = (HostPattern.read pattern.toList).covers ip :=
  hostMatches_of_read (Ip.read_render ip) pattern

/-- An address fits the same patterns with and without the IPv4-mapped form. -/
theorem hostMatches_text_canonical (pattern : String) (ip : Ip) :
    hostMatches pattern ip.canonical.text = hostMatches pattern ip.text := by
  rw [hostMatches_text, hostMatches_text, HostPattern.covers_canonical]

/-! ## Lists of patterns -/

/-- The host fits an entry of the list, or it spells an address whose printed form does. -/
def HostListed (patterns : List String) (host : List Char) : Prop :=
  ∃ entry ∈ patterns, hostMatches entry (String.ofList host) = true ∨
    ∃ ip, Ip.read host = some ip ∧ hostMatches entry ip.text = true

theorem not_hostListed_nil (host : List Char) : ¬HostListed [] host := by
  rintro ⟨entry, he, -⟩
  contradiction

theorem firstHostMatch?_eq_none_iff (patterns : List String) (host : List Char) :
    firstHostMatch? patterns (String.ofList host) (Ip.read host) = none ↔
      ¬HostListed patterns host := by
  rw [firstHostMatch?, List.find?_eq_none, HostListed]
  cases hip : Ip.read host <;> simp

theorem exists_firstHostMatch?_of_hostListed {patterns : List String} {host : List Char}
    (h : HostListed patterns host) :
    ∃ entry, firstHostMatch? patterns (String.ofList host) (Ip.read host) = some entry := by
  rw [← Option.ne_none_iff_exists']
  exact fun hnone => (firstHostMatch?_eq_none_iff patterns host).1 hnone h

/-- No entry of the list fits the printed form of an address. -/
theorem firstHostMatch?_text_eq_none_iff (patterns : List String) (ip : Ip) :
    firstHostMatch? patterns ip.text none = none ↔
      ∀ entry ∈ patterns, hostMatches entry ip.text = false := by
  simp [firstHostMatch?]

end PluginSandbox
