import PluginSandbox.Policy.Glob
import PluginSandbox.Proofs.Address.Target
import PluginSandbox.Proofs.Guard.Passage

/-!
# IPv4 addresses inside IPv6

An IPv4 address can be written by itself or in IPv4-mapped form, and a resolver
may give it in either form. Classes, host patterns and rules look at its
canonical form only, so neither the guard nor the glob policy tells the two
apart.

## Main definitions

* `GuardConfig.letsThrough`: the decision about a target, as a truth value.

## Main statements

* `GuardConfig.letsThrough_congr`, `GuardConfig.letsThrough_congr_of_answer`: the
  decision depends on the canonical form of an address.
* `GuardConfig.letsThrough_mapped`: the two forms of an IPv4 address are decided
  about alike.
-/

namespace PluginSandbox

open Text

variable {ip mapped : Ip} {host spelled : List Char}

/-! ## Patterns -/

namespace HostPattern

theorem covers_congr (hsame : ip.canonical = mapped.canonical) (pattern : HostPattern) :
    pattern.covers ip = pattern.covers mapped := by
  rw [← covers_canonical, hsame, covers_canonical]

end HostPattern

theorem hostMatches_congr (hip : Ip.read host = some ip) (hmapped : Ip.read spelled = some mapped)
    (hsame : ip.canonical = mapped.canonical) (pattern : String) :
    hostMatches pattern (String.ofList host) = hostMatches pattern (String.ofList spelled) := by
  rw [hostMatches_of_read hip, hostMatches_of_read hmapped, HostPattern.covers_congr hsame]

/-- A host that spells an address is on the lists that cover the address. -/
theorem hostListed_iff_of_read (hip : Ip.read host = some ip) (patterns : List String) :
    HostListed patterns host ↔
      ∃ entry ∈ patterns, (HostPattern.read entry.toList).covers ip = true := by
  simp [HostListed, hostMatches_of_read hip, hip, hostMatches_text]

theorem hostListed_congr (hip : Ip.read host = some ip) (hmapped : Ip.read spelled = some mapped)
    (hsame : ip.canonical = mapped.canonical) (patterns : List String) :
    HostListed patterns host ↔ HostListed patterns spelled := by
  simp only [hostListed_iff_of_read hip, hostListed_iff_of_read hmapped,
    HostPattern.covers_congr hsame]

/-- A host that spells an address is not the one that stands for any host. -/
theorem isAnyHost_of_read (hip : Ip.read host = some ip) (port : Option UInt16) :
    Endpoint.isAnyHost ⟨String.ofList host, port⟩ = false := by
  rw [Endpoint.isAnyHost, beq_eq_false_iff_ne]
  intro hany
  have hnone : Ip.read "*".toList = none := by decide
  have hhost : (String.ofList host).toList = "*".toList := congrArg String.toList hany
  rw [String.toList_ofList] at hhost
  rw [hhost, hnone] at hip
  contradiction

/-- A rule covers connections to both or to neither. -/
theorem NetworkRule.covers_congr (hip : Ip.read host = some ip)
    (hmapped : Ip.read spelled = some mapped) (hsame : ip.canonical = mapped.canonical)
    (rule : NetworkRule) (port : Option UInt16) :
    rule.covers ⟨String.ofList host, port⟩ = rule.covers ⟨String.ofList spelled, port⟩ := by
  simp only [NetworkRule.covers, isAnyHost_of_read hip, isAnyHost_of_read hmapped,
    hostMatches_congr hip hmapped hsame]

namespace GuardConfig

variable {config : GuardConfig}

/-! ## Addresses -/

theorem clears_congr (hsame : ip.canonical = mapped.canonical) :
    config.Clears ip ↔ config.Clears mapped := by
  simp only [clears_iff, blockedClass?_eq_none_iff, firstHostMatch?_text_eq_none_iff,
    hostMatches_text, hsame, HostPattern.covers_congr hsame]

/-- What passes as an address: what is on the list of hosts that pass, and what neither is blocked
as a host nor has anything said against it. -/
theorem allowed_validateHost_iff_of_read (hip : Ip.read host = some ip)
    (resolver : Nat → String → LookupReply) (count : Nat) :
    ((config.validateHost host).trace resolver count).1.allowed = true ↔
      HostListed config.hostAllowList host ∨
        ¬HostListed config.hostBlockList host ∧ config.Clears ip := by
  by_cases hallow : HostListed config.hostAllowList host
  · obtain ⟨entry, heq⟩ := validateHost_of_allowListed hallow
    simp [heq, hallow, Validation.allow]
  by_cases hblock : HostListed config.hostBlockList host
  · obtain ⟨entry, heq⟩ := validateHost_of_blockListed hallow hblock
    simp [heq, hallow, hblock, Validation.deny]
  · simp [validateHost_of_literal hallow hblock hip, hallow, hblock, allowed_validateIp_iff]

/-- A name passes once it was looked up if nothing is said against its address. -/
theorem allowed_judge_iff (name : String) (reply : LookupReply) :
    (config.judge name reply).allowed = true ↔
      ∃ found, config.Answers reply found ∧ config.Clears found := by
  simp only [← answer_eq_ok_iff name, judge]
  cases config.answer name reply with
  | error e => simp [Validation.deny]
  | ok found => simp [allowed_validateIp_iff]

/-! ## Targets -/

/-- The guard lets the target through, with a resolver that was asked `count` times before. -/
def letsThrough (config : GuardConfig) (resolver : Nat → String → LookupReply) (count : Nat)
    (address : String) : Bool :=
  ((config.validate address).trace resolver count).1.allowed

variable {resolver resolver' : Nat → String → LookupReply} {count : Nat}
variable {address address' : String} {target : HostPort} {port : Option UInt16}

theorem letsThrough_iff (hread : HostPort.read address.toList = .ok ⟨host, port⟩) :
    config.letsThrough resolver count address = true ↔
      (∀ p, port = some p → config.PortPasses p) ∧
        ((config.validateHost host).trace resolver count).1.allowed = true := by
  rw [letsThrough, validate, hread]
  exact allowed_validateParts_iff resolver count

/-- Targets whose hosts spell an address in two forms, with the same port. -/
theorem letsThrough_congr (hread : HostPort.read address.toList = .ok ⟨host, port⟩)
    (hread' : HostPort.read address'.toList = .ok ⟨spelled, port⟩)
    (hip : Ip.read host = some ip) (hmapped : Ip.read spelled = some mapped)
    (hsame : ip.canonical = mapped.canonical) :
    config.letsThrough resolver count address = config.letsThrough resolver count address' := by
  rw [Bool.eq_iff_iff, letsThrough_iff hread, letsThrough_iff hread',
    allowed_validateHost_iff_of_read hip, allowed_validateHost_iff_of_read hmapped,
    hostListed_congr hip hmapped hsame, hostListed_congr hip hmapped hsame, clears_congr hsame]

/-- One target, for whose host two resolvers give an address in two forms. -/
theorem letsThrough_congr_of_answer (hread : HostPort.read address.toList = .ok target)
    {delayMs : Nat} {more more' : List Ip} (hsame : ip.canonical = mapped.canonical)
    (hreply : resolver count (String.ofList target.host) = ⟨delayMs, .ok (ip :: more)⟩)
    (hreply' : resolver' count (String.ofList target.host) = ⟨delayMs, .ok (mapped :: more')⟩) :
    config.letsThrough resolver count address = config.letsThrough resolver' count address := by
  rw [Bool.eq_iff_iff, letsThrough_iff hread, letsThrough_iff hread]
  rcases validateHost_cases config target.host with ⟨v, heq⟩ | heq
  · simp [heq]
  · simp only [heq, Lookup.trace, hreply, hreply', allowed_judge_iff, Answers, Except.ok.injEq,
      List.cons.injEq]
    constructor
    · rintro ⟨hports, found, ⟨hlate, rest, rfl, -⟩, hclear⟩
      exact ⟨hports, mapped, ⟨hlate, more', rfl, rfl⟩, (clears_congr hsame).1 hclear⟩
    · rintro ⟨hports, found, ⟨hlate, rest, rfl, -⟩, hclear⟩
      exact ⟨hports, ip, ⟨hlate, more, rfl, rfl⟩, (clears_congr hsame).2 hclear⟩

/-- **The IPv4-mapped form changes no decision.** However the IPv4-mapped form of an IPv4 address is
spelled, be it with the text of the address itself, the guard decides about it as about the address,
with a port and without one, and about a name that is looked up to it as about one that is looked up
to the address. A pattern fits both or neither, and grants cover connections to both or to neither. -/
theorem letsThrough_mapped (config : GuardConfig) (resolver : Nat → String → LookupReply)
    (count : Nat) (a : BitVec 32) :
    Ip.readV6 ("::ffff:" ++ (Ip.v4 a).text).toList = some (Ip.mapped a) ∧
    ∀ spelled : String, Ip.readV6 spelled.toList = some (Ip.mapped a) →
      (∀ port, config.letsThrough resolver count ((Ip.v4 a).text ++ ":" ++ showPort port) =
        config.letsThrough resolver count ("[" ++ spelled ++ "]:" ++ showPort port)) ∧
      config.letsThrough resolver count (Ip.v4 a).text =
        config.letsThrough resolver count spelled ∧
      (∀ (resolver' : Nat → String → LookupReply) (address : String) (target : HostPort)
        (delayMs : Nat) (more more' : List Ip),
        HostPort.read address.toList = .ok target →
        resolver count (String.ofList target.host) = ⟨delayMs, .ok (.v4 a :: more)⟩ →
        resolver' count (String.ofList target.host) =
          ⟨delayMs, .ok (.v6 (Ip.mapped a) :: more')⟩ →
        config.letsThrough resolver count address =
          config.letsThrough resolver' count address) ∧
      (∀ pattern, hostMatches pattern (Ip.v4 a).text = hostMatches pattern spelled) ∧
      ∀ (grants : Grants) (port : Option UInt16) (s s' : GlobCache),
        (Policy.glob.decide (.network ⟨(Ip.v4 a).text, port⟩) grants s).1 =
          (Policy.glob.decide (.network ⟨spelled, port⟩) grants s').1 := by
  have hsame : (Ip.v4 a).canonical = (Ip.v6 (Ip.mapped a)).canonical := by simp
  have hdotted : (Ip.v4 a).text.toList = Ip.showV4 a := by
    rw [Ip.text, String.toList_ofList, Ip.render]
  have h4 : Ip.readV4 (Ip.v4 a).text.toList = some a := by
    rw [hdotted, Ip.readV4_showV4]
  have hip : Ip.read (Ip.v4 a).render = some (.v4 a) := Ip.read_render _
  have hmapped : Ip.read (Ip.v6 (Ip.mapped a)).render = some (.v6 (Ip.mapped a)) :=
    Ip.read_render _
  have htext : Ip.readV6 ("::ffff:" ++ (Ip.v4 a).text).toList = some (Ip.mapped a) := by
    rw [String.toList_append, hdotted, Ip.readV6_mapped_text]
  refine ⟨htext, fun spelled hspelled => ?_⟩
  have hread : Ip.read spelled.toList = some (.v6 (Ip.mapped a)) := by
    rw [Ip.read, Ip.readV4_eq_none_of_colon_mem (Ip.colon_mem_of_readV6 hspelled), hspelled]
    rfl
  refine ⟨?_, ?_, ?_, ?_, ?_⟩
  · intro port
    have hport := readPort_showPort port
    have htarget : HostPort.read ((Ip.v4 a).text ++ ":" ++ showPort port).toList =
        .ok ⟨(Ip.v4 a).render, some port⟩ := by
      rw [String.toList_append, String.toList_append, List.append_assoc]
      exact HostPort.read_of_readV4_port h4 hport
    have htarget' : HostPort.read ("[" ++ spelled ++ "]:" ++ showPort port).toList =
        .ok ⟨(Ip.v6 (Ip.mapped a)).render, some port⟩ := by
      simp only [String.toList_append, List.append_assoc]
      exact HostPort.read_of_readV6_port hspelled hport
    exact letsThrough_congr htarget htarget' hip hmapped hsame
  · have htarget : HostPort.read (Ip.v4 a).text.toList = .ok ⟨(Ip.v4 a).render, none⟩ :=
      HostPort.read_of_readV4 h4
    have htarget' : HostPort.read spelled.toList = .ok ⟨(Ip.v6 (Ip.mapped a)).render, none⟩ :=
      HostPort.read_of_readV6 hspelled
    exact letsThrough_congr htarget htarget' hip hmapped hsame
  · intro resolver' address target delayMs more more' htarget hreply hreply'
    exact letsThrough_congr_of_answer htarget hsame hreply hreply'
  · intro pattern
    have hboth := hostMatches_congr hip hread hsame pattern
    rwa [String.ofList_toList] at hboth
  · intro grants port s s'
    have hboth := NetworkRule.covers_congr hip hread hsame
    simp only [String.ofList_toList] at hboth
    simp only [Policy.glob, globDecide, Ip.text, hboth]

/-- A blocked address in hexadecimal groups of the IPv4-mapped form, by itself, with a port, and as
the answer to a look-up. -/
theorem letsThrough_mapped_hexadecimal :
    let config : GuardConfig := { hostBlockList := ["203.0.113.0/24"] }
    let a : BitVec 32 := Ip.ofOctets [203, 0, 113, 7]
    let resolver : Nat → String → LookupReply := fun _ _ => ⟨10, .ok [.v4 a]⟩
    let resolver' : Nat → String → LookupReply := fun _ _ => ⟨10, .ok [.v6 (Ip.mapped a)]⟩
    Ip.readV6 "::FFFF:cb00:7107".toList = some (Ip.mapped a) ∧
      config.letsThrough resolver 0 "[::FFFF:cb00:7107]:443" = false ∧
      config.letsThrough resolver 0 "::FFFF:cb00:7107" = false ∧
      config.letsThrough resolver' 0 "Example.com" = false ∧
      hostMatches "203.0.113.7" "::FFFF:cb00:7107" = true := by
  intro config a resolver resolver'
  have hspelled : Ip.readV6 "::FFFF:cb00:7107".toList = some (Ip.mapped a) := by decide +kernel
  have hread : HostPort.read "Example.com".toList = .ok ⟨"example.com".toList, none⟩ :=
    eq_ok_of_toOption (by decide +kernel)
  obtain ⟨hport, hbare, hname, hpattern, -⟩ :=
    (letsThrough_mapped config resolver 0 a).2 "::FFFF:cb00:7107" hspelled
  refine ⟨hspelled, ?_, ?_, ?_, ?_⟩
  · exact (hport 443).symm.trans (by decide +kernel)
  · exact hbare.symm.trans (by decide +kernel)
  · exact (hname resolver' "Example.com" _ 10 [] [] hread rfl rfl).symm.trans (by decide +kernel)
  · exact (hpattern "203.0.113.7").symm.trans (by decide +kernel)

end GuardConfig

end PluginSandbox
