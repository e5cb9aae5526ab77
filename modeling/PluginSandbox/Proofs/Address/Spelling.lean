import PluginSandbox.Address.HostPort
import PluginSandbox.Pattern.Host
import PluginSandbox.Proofs.Address.Case
import PluginSandbox.Proofs.Address.RoundTrip
import PluginSandbox.Proofs.Text.Ascii

/-!
# Hosts as they are spelled

Many texts spell one target, and decisions are made about the normal form of
the host. The normal form leads where the spelling leads once the dots at the
end are left out of account. It has a dot at its end itself exactly if the
spelling has two, because the normal form is made by taking one away.

## Main definitions

* `HostPort.spelledHost`: the host of a target as it is written.
* `HostPort.Normalizes`: what the normal form of a host is.
* `HostPort.ReadsHost`: how the host of a target is read.

## Main statements

* `HostPort.readsHost_of_read`, `HostPort.normalizes_of_read`: the host of a target.
* `HostPort.Normalizes.read_withoutFinalDots`: both spell the same address.
-/

namespace PluginSandbox

open Text HostPattern

/-- Taking the dots at the end away changes nothing where there are none. -/
theorem HostPattern.withoutFinalDots_eq_self {cs : List Char} (h : ¬['.'] <:+ cs) :
    withoutFinalDots cs = cs := by
  rcases eq_append_dot_or cs with ⟨front, rfl⟩ | ⟨hself, -⟩
  · exact absurd (List.suffix_append front ['.']) h
  · exact hself

/-! ## Addresses -/

namespace Ip

theorem read_of_colon_notMem {cs : List Char} (h : ':' ∉ cs) : read cs = (readV4 cs).map v4 := by
  have h6 : readV6 cs = none :=
    Option.eq_none_iff_forall_ne_some.2 fun a ha => h (colon_mem_of_readV6 ha)
  rw [read, h6]
  cases readV4 cs <;> rfl

/-- An address has no dot at its end. -/
theorem not_dot_isSuffix_of_read {cs : List Char} {ip : Ip} (h : read cs = some ip) :
    ¬['.'] <:+ cs := by
  rintro ⟨front, rfl⟩
  rw [read_append_singleton hexValue_dot (by decide)] at h
  contradiction

theorem withoutFinalDots_of_read {cs : List Char} {ip : Ip} (h : read cs = some ip) :
    withoutFinalDots cs = cs :=
  withoutFinalDots_eq_self (not_dot_isSuffix_of_read h)

end Ip

namespace HostPort

/-! ## One dot at the end -/

theorem dropFinalDot_append_dot (front : List Char) : dropFinalDot (front ++ ['.']) = front := by
  rw [dropFinalDot, stripSuffix?_eq_some.2 rfl, Option.getD_some]

theorem dropFinalDot_of_not_isSuffix {cs : List Char} (h : ¬['.'] <:+ cs) :
    dropFinalDot cs = cs := by
  have hnone : stripSuffix? ['.'] cs = none := by
    refine Option.eq_none_iff_forall_ne_some.2 fun rest hrest => h ?_
    exact ⟨rest, (stripSuffix?_eq_some.1 hrest).symm⟩
  rw [dropFinalDot, hnone, Option.getD_none]

theorem mem_of_mem_dropFinalDot {cs : List Char} {c : Char} (h : c ∈ dropFinalDot cs) : c ∈ cs := by
  rcases eq_append_dot_or cs with ⟨front, rfl⟩ | ⟨-, hdot⟩
  · rw [dropFinalDot_append_dot] at h
    exact List.mem_append_left _ h
  · rwa [dropFinalDot_of_not_isSuffix hdot] at h

theorem withoutFinalDots_lower_dropFinalDot (cs : List Char) :
    withoutFinalDots (lower (dropFinalDot cs)) = lower (withoutFinalDots cs) := by
  rw [withoutFinalDots, withoutFinalDots, ← lower_trimEndBy_dot]
  rcases eq_append_dot_or cs with ⟨front, rfl⟩ | ⟨-, hdot⟩
  · rw [dropFinalDot_append_dot, trimEndBy_append_dot]
  · rw [dropFinalDot_of_not_isSuffix hdot]

theorem dot_isSuffix_dropFinalDot_iff (cs : List Char) :
    ['.'] <:+ dropFinalDot cs ↔ ['.', '.'] <:+ cs := by
  rcases eq_append_dot_or cs with ⟨front, rfl⟩ | ⟨-, hdot⟩
  · rw [dropFinalDot_append_dot]
    have happend : ['.'] ++ ['.'] <:+ front ++ ['.'] ↔ ['.'] <:+ front :=
      List.suffix_append_self_iff
    exact happend.symm
  · rw [dropFinalDot_of_not_isSuffix hdot]
    constructor
    · exact fun h => absurd h hdot
    · exact fun h => absurd ((List.suffix_cons '.' ['.']).trans h) hdot

/-! ## The host of a target -/

/-- The host of a target as it is written, without brackets and without the port. -/
def spelledHost (address : List Char) : List Char :=
  match trim address with
  | '[' :: rest => ((splitOnce ']' rest).map Prod.fst).getD rest
  | text => match splitOnce ':' text with
    | none => text
    | some (host, port) => if ':' ∈ port then text else host

/-- What the normal form of a host is: the printed form of an address, or a name in lower case
without one dot at its end. -/
inductive Normalizes (spelled host : List Char) : Prop where
  /-- The host is an address. -/
  | address (ip : Ip) (hread : Ip.read spelled = some ip) (hhost : host = ip.render)
  /-- The host is a name. -/
  | name (hread : Ip.read spelled = none) (hcolon : ':' ∉ spelled)
    (hhost : host = lower (dropFinalDot spelled))

variable {spelled host address : List Char} {target : HostPort}

/-- Reading a port behind the host leaves the host alone. -/
theorem host_of_readPortOf {port : List Char}
    (h : (readPortOf port).map (fun p => ⟨host, some p⟩) = .ok target) : target.host = host := by
  cases hport : readPortOf port with
  | error e =>
    rw [hport] at h
    contradiction
  | ok p =>
    rw [hport] at h
    rw [← Except.ok.inj h]

theorem normalizes_of_readV6 {a : BitVec 128} (h : Ip.readV6 spelled = some a) :
    Normalizes spelled (Ip.showV6 a) := by
  have h4 : Ip.readV4 spelled = none :=
    Ip.readV4_eq_none_of_colon_mem (Ip.colon_mem_of_readV6 h)
  refine .address (.v6 a) ?_ rfl
  rw [Ip.read, h4, h]
  rfl

theorem normalizes_of_readHost (hcolon : ':' ∉ spelled) (h : readHost spelled = .ok host) :
    Normalizes spelled host := by
  have hread := Ip.read_of_colon_notMem hcolon
  rw [readHost] at h
  cases h4 : Ip.readV4 spelled with
  | some a =>
    rw [h4] at h hread
    exact .address (.v4 a) hread (Except.ok.inj h).symm
  | none =>
    simp only [h4] at h hread
    split at h
    · contradiction
    · split at h
      · contradiction
      · split at h
        · exact .name hread hcolon (Except.ok.inj h).symm
        · contradiction

/-- How the host of a target is read from what is spelled. -/
inductive ReadsHost (spelled host : List Char) : Prop where
  /-- As an IPv6 address. -/
  | v6 (a : BitVec 128) (hread : Ip.readV6 spelled = some a) (hhost : host = Ip.showV6 a)
  /-- As an IPv4 address or a name. -/
  | plain (hcolon : ':' ∉ spelled) (hread : readHost spelled = .ok host)

theorem ReadsHost.normalizes (h : ReadsHost spelled host) : Normalizes spelled host := by
  cases h with
  | v6 a hread hhost =>
    rw [hhost]
    exact normalizes_of_readV6 hread
  | plain hcolon hread => exact normalizes_of_readHost hcolon hread

theorem readsHost_of_readBracketed {rest : List Char}
    (h : readBracketed address rest = .ok target) :
    ReadsHost (((splitOnce ']' rest).map Prod.fst).getD rest) target.host := by
  rw [readBracketed] at h
  cases hsplit : splitOnce ']' rest with
  | none =>
    rw [hsplit] at h
    contradiction
  | some parts =>
    rw [hsplit] at h
    cases h6 : Ip.readV6 parts.1 with
    | none =>
      simp only [h6] at h
      contradiction
    | some a =>
      simp only [h6] at h
      refine .v6 a h6 ?_
      split at h
      · rw [← Except.ok.inj h]
      · exact host_of_readPortOf h
      · contradiction

theorem readsHost_of_readPlain (h : readPlain address = .ok target) :
    ReadsHost (match splitOnce ':' address with
      | none => address
      | some (host, port) => if ':' ∈ port then address else host) target.host := by
  rw [readPlain] at h
  cases hsplit : splitOnce ':' address with
  | none =>
    rw [hsplit] at h
    cases hhost : readHost address with
    | error e =>
      rw [hhost] at h
      contradiction
    | ok host =>
      rw [hhost] at h
      rw [← Except.ok.inj h]
      exact .plain (splitOnce_eq_none.1 hsplit) hhost
  | some parts =>
    rw [hsplit] at h
    by_cases hcolon : ':' ∈ parts.2
    · simp only [if_pos hcolon] at h ⊢
      cases h6 : Ip.readV6 address with
      | none =>
        rw [h6] at h
        contradiction
      | some a =>
        rw [h6] at h
        rw [← Except.ok.inj h]
        exact .v6 a h6 rfl
    · simp only [if_neg hcolon] at h ⊢
      cases hhost : readHost parts.1 with
      | error e =>
        rw [hhost] at h
        contradiction
      | ok host =>
        rw [hhost] at h
        have hsame : target.host = host := host_of_readPortOf h
        rw [hsame]
        exact .plain (splitOnce_eq_some.1 hsplit).2 hhost

/-- The host of a target is read from what is spelled. -/
theorem readsHost_of_read (h : read address = .ok target) :
    ReadsHost (spelledHost address) target.host := by
  rw [read] at h
  rw [spelledHost]
  split at h
  case h_1 => contradiction
  case h_2 rest hrest =>
    rw [hrest]
    exact readsHost_of_readBracketed h
  case h_3 text hnil hbracket =>
    split
    case h_1 rest hrest => exact absurd hrest (hbracket rest)
    case h_2 => exact readsHost_of_readPlain h

/-- The host of a target is the normal form of what is spelled. -/
theorem normalizes_of_read (h : read address = .ok target) :
    Normalizes (spelledHost address) target.host :=
  (readsHost_of_read h).normalizes

/-! ## What the normal form keeps -/

namespace Normalizes

/-- The normal form has a dot at its end exactly if two dots are spelled there. -/
theorem dot_isSuffix_iff (h : Normalizes spelled host) :
    ['.'] <:+ host ↔ ['.', '.'] <:+ spelled := by
  cases h with
  | address ip hread hhost =>
    have hdot : ¬['.'] <:+ spelled := Ip.not_dot_isSuffix_of_read hread
    have hdot' : ¬['.'] <:+ host := Ip.not_dot_isSuffix_of_read (hhost ▸ Ip.read_render ip)
    constructor
    · exact fun h => absurd h hdot'
    · exact fun h => absurd ((List.suffix_cons '.' ['.']).trans h) hdot
  | name hread hcolon hhost =>
    rw [← dot_isSuffix_dropFinalDot_iff, hhost, dot_isSuffix_lower_iff]

/-- Without the dots at their ends both spell the same address, if any. -/
theorem read_withoutFinalDots (h : Normalizes spelled host) :
    Ip.read (withoutFinalDots host) = Ip.read (withoutFinalDots spelled) := by
  cases h with
  | address ip hread hhost =>
    have hread' : Ip.read host = some ip := hhost ▸ Ip.read_render ip
    rw [Ip.withoutFinalDots_of_read hread, Ip.withoutFinalDots_of_read hread', hread, hread']
  | name hread hcolon hhost =>
    rw [hhost, withoutFinalDots_lower_dropFinalDot, Ip.read_lower]

/-- Without the dots at their ends both are the same text up to ASCII case, unless they spell an
address. -/
theorem lower_withoutFinalDots (h : Normalizes spelled host) :
    lower (withoutFinalDots host) = lower (withoutFinalDots spelled) ∨
      ∃ ip, Ip.read (withoutFinalDots host) = some ip := by
  cases h with
  | address ip hread hhost =>
    have hread' : Ip.read host = some ip := hhost ▸ Ip.read_render ip
    exact Or.inr ⟨ip, by rw [Ip.withoutFinalDots_of_read hread', hread']⟩
  | name hread hcolon hhost =>
    exact Or.inl (by rw [hhost, withoutFinalDots_lower_dropFinalDot, lower_lower])

/-- A normal form that spells an address is the printed form of that address. -/
theorem eq_render (h : Normalizes spelled host) {ip : Ip} (hip : Ip.read host = some ip) :
    host = ip.render := by
  cases h with
  | address own _ hhost =>
    rw [hhost, Ip.read_render] at hip
    rw [hhost, Option.some.inj hip]
  | name _ hcolon hhost =>
    -- A name holds no colon, so the address is one of IPv4, which has one spelling.
    have hfree : ':' ∉ host := by
      rw [hhost, mem_lower_iff (by decide)]
      exact fun hmem => hcolon (mem_of_mem_dropFinalDot hmem)
    rw [Ip.read_of_colon_notMem hfree] at hip
    obtain ⟨a, ha, rfl⟩ := Option.map_eq_some_iff.1 hip
    exact (Ip.showV4_of_readV4 ha).symm

/-- A name in normal form is in lower case. -/
theorem lower_eq_self (h : Normalizes spelled host) (hname : Ip.read host = none) :
    lower host = host := by
  cases h with
  | address ip hread hhost =>
    rw [hhost, Ip.read_render] at hname
    contradiction
  | name _ _ hhost => rw [hhost, lower_lower]

end Normalizes

end HostPort

end PluginSandbox
