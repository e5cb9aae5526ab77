import PluginSandbox.Proofs.Guard.Passage

/-!
# Settings that block more

Settings that block more classes, hosts and ports let fewer targets through, and
decide about those that they still let through as before. Settings that list
more hosts as passing let more targets through. The guard consults the two lists
of hosts several times, so each way through it is followed on its own.

## Main definitions

* `GuardConfig.Hardens`: settings that block at least what others block.

## Main statements

* `GuardConfig.Hardens.trace_validate_eq`: what harder settings let through.
* `GuardConfig.allowed_of_hardened_or_relaxed`: both directions.
-/

namespace PluginSandbox

theorem HostListed.mono {patterns more : List String} {host : List Char} (hmore : patterns ⊆ more)
    (h : HostListed patterns host) : HostListed more host := by
  obtain ⟨entry, hentry, hmatch⟩ := h
  exact ⟨entry, hmore hentry, hmatch⟩

namespace GuardConfig

/-- The settings agree with others on the ports and hosts that pass and on how names are looked up,
and they block at least what the others block. -/
structure Hardens (strict config : GuardConfig) : Prop where
  resolveNames : strict.resolveNames = config.resolveNames
  lookupTimeoutMs : strict.lookupTimeoutMs = config.lookupTimeoutMs
  hostAllowList : strict.hostAllowList = config.hostAllowList
  portAllowList : strict.portAllowList = config.portAllowList
  classes : ∀ cls, config.blocks cls = true → strict.blocks cls = true
  hostBlockList : config.hostBlockList ⊆ strict.hostBlockList
  portBlockList : config.portBlockList ⊆ strict.portBlockList

variable {config strict : GuardConfig} {host : List Char} {ip : Ip} {address : String}
variable {resolver : Nat → String → LookupReply} {count : Nat}

/-- What an address that nothing speaks against passes by: an entry of the list of hosts that pass,
or no reason against it. -/
theorem validateIp_of_clears (h : config.Clears ip) :
    config.validateIp ip = match firstHostMatch? config.hostAllowList ip.text none with
      | some entry => .allow (.ipAllowed ip entry) (some ip)
      | none => .allow .passed (some ip) := by
  obtain ⟨hclass, hentry⟩ := (clears_iff ip).1 h
  cases hlisted : firstHostMatch? config.hostAllowList ip.text none <;>
    simp only [validateIp, hclass, hentry, hlisted]

/-! ## Blocking more -/

namespace Hardens

variable (h : strict.Hardens config)
include h

theorem portPasses {port : UInt16} (hport : strict.PortPasses port) : config.PortPasses port := by
  obtain ⟨hallow, hblock⟩ := hport
  rw [h.portAllowList] at hallow
  exact ⟨hallow, fun hmem => hblock (h.portBlockList hmem)⟩

theorem clears (hclear : strict.Clears ip) : config.Clears ip where
  classes cls hblocks := hclear.classes cls (h.classes cls hblocks)
  entries entry hentry := hclear.entries entry (h.hostBlockList hentry)

theorem not_allowListed (hallow : ¬HostListed strict.hostAllowList host) :
    ¬HostListed config.hostAllowList host := by
  rwa [← h.hostAllowList]

theorem not_blockListed (hblock : ¬HostListed strict.hostBlockList host) :
    ¬HostListed config.hostBlockList host := by
  intro hlisted
  exact hblock (hlisted.mono h.hostBlockList)

theorem not_localName (hlocal : ¬(strict.blockLoopback && isLocalName host) = true) :
    ¬(config.blockLoopback && isLocalName host) = true := by
  simp only [Bool.and_eq_true, not_and] at hlocal ⊢
  intro hblocks
  exact hlocal (h.classes .loopback hblocks)

/-- The decision about an address that the harder settings let through. -/
theorem validateIp_eq (hclear : strict.Clears ip) :
    config.validateIp ip = strict.validateIp ip := by
  rw [validateIp_of_clears hclear, validateIp_of_clears (h.clears hclear), h.hostAllowList]

/-- The decision about a name that is looked up to such an address. -/
theorem judge_eq {name : String} {reply : LookupReply} (hfound : strict.Answers reply ip)
    (hclear : strict.Clears ip) : config.judge name reply = strict.judge name reply := by
  have hanswer : strict.answer name reply = .ok ip := (answer_eq_ok_iff name reply ip).2 hfound
  have hsame : config.answer name reply = .ok ip := by
    rw [← hanswer, answer, answer, h.lookupTimeoutMs]
  rw [judge, judge, hanswer, hsame]
  exact h.validateIp_eq hclear

/-- A host that the harder settings let through is decided about alike, by the same look-ups. -/
theorem trace_validateHost_eq
    (hallowed : ((strict.validateHost host).trace resolver count).1.allowed = true) :
    (config.validateHost host).trace resolver count =
      (strict.validateHost host).trace resolver count := by
  cases passes_of_allowed_validateHost resolver count hallowed with
  | listed hallow _ _ =>
    obtain ⟨entry, he⟩ := exists_firstHostMatch?_of_hostListed hallow
    have he' := he
    rw [h.hostAllowList] at he'
    simp only [validateHost, he, he']
  | literal own hallow hblock hown hclear _ _ =>
    rw [validateHost_of_literal hallow hblock hown,
      validateHost_of_literal (h.not_allowListed hallow) (h.not_blockListed hblock) hown,
      h.validateIp_eq hclear]
  | resolved found hallow hblock hname hlocal hon hfound hclear _ _ =>
    have hon' : config.resolveNames = true := h.resolveNames.symm.trans hon
    rw [validateHost_of_resolve hallow hblock hname hlocal hon,
      validateHost_of_resolve (h.not_allowListed hallow) (h.not_blockListed hblock) hname
        (h.not_localName hlocal) hon']
    simp only [Lookup.trace, h.judge_eq hfound hclear]
  | unresolved hallow hblock hname hlocal hoff _ _ =>
    have hoff' : config.resolveNames = false := h.resolveNames.symm.trans hoff
    rw [validateHost_of_unresolved hallow hblock hname hlocal hoff,
      validateHost_of_unresolved (h.not_allowListed hallow) (h.not_blockListed hblock) hname
        (h.not_localName hlocal) hoff']

/-- A target that the harder settings let through is decided about alike, by the same look-ups. -/
theorem trace_validate_eq
    (hallowed : ((strict.validate address).trace resolver count).1.allowed = true) :
    (config.validate address).trace resolver count =
      (strict.validate address).trace resolver count := by
  rw [validate] at hallowed
  rw [validate, validate]
  cases hread : HostPort.read address.toList with
  | error e => rfl
  | ok target =>
    rw [hread] at hallowed
    obtain ⟨hports, hhost⟩ := (allowed_validateParts_iff resolver count).1 hallowed
    have hports' : ∀ p, target.port = some p → config.PortPasses p := by
      intro p hp
      exact h.portPasses (hports p hp)
    simp only [validateParts_of_portPasses hports, validateParts_of_portPasses hports']
    exact h.trace_validateHost_eq hhost

end Hardens

/-! ## Letting more hosts pass -/

/-- A host that is let through is let through if more hosts are listed as passing: by its entry if it
is one of them, and else in the way that it was. -/
theorem allowed_validateHost_of_relaxed {more : List String} (hmore : config.hostAllowList ⊆ more)
    (hallowed : ((config.validateHost host).trace resolver count).1.allowed = true) :
    ((validateHost { config with hostAllowList := more } host).trace resolver count).1.allowed =
      true := by
  by_cases hlisted : HostListed more host
  · obtain ⟨entry, heq⟩ :=
      @validateHost_of_allowListed { config with hostAllowList := more } host hlisted
    rw [heq]
    rfl
  have hlisted : ¬HostListed (hostAllowList { config with hostAllowList := more }) host := hlisted
  cases passes_of_allowed_validateHost resolver count hallowed with
  | listed hallow _ _ => exact absurd (hallow.mono hmore) hlisted
  | literal own _ hblock hown hclear _ _ =>
    rw [validateHost_of_literal hlisted hblock hown]
    exact (allowed_validateIp_iff own).2 ⟨hclear.classes, hclear.entries⟩
  | resolved found _ hblock hname hlocal hon hfound hclear _ _ =>
    rw [validateHost_of_resolve hlisted hblock hname hlocal hon]
    have hanswer : answer { config with hostAllowList := more } (String.ofList host)
        (resolver count (String.ofList host)) = .ok found := (answer_eq_ok_iff _ _ _).2 hfound
    simp only [Lookup.trace, judge, hanswer]
    exact (allowed_validateIp_iff found).2 ⟨hclear.classes, hclear.entries⟩
  | unresolved _ hblock hname hlocal hoff _ _ =>
    rw [validateHost_of_unresolved hlisted hblock hname hlocal hoff]
    rfl

theorem allowed_validate_of_relaxed {more : List String} (hmore : config.hostAllowList ⊆ more)
    (hallowed : ((config.validate address).trace resolver count).1.allowed = true) :
    ((validate { config with hostAllowList := more } address).trace resolver count).1.allowed =
      true := by
  rw [validate] at hallowed ⊢
  cases hread : HostPort.read address.toList with
  | error e =>
    rw [hread] at hallowed
    contradiction
  | ok target =>
    rw [hread] at hallowed
    obtain ⟨hports, hhost⟩ := (allowed_validateParts_iff resolver count).1 hallowed
    exact (allowed_validateParts_iff resolver count).2
      ⟨hports, allowed_validateHost_of_relaxed hmore hhost⟩

/-! ## Both directions -/

/-- **Hardening never opens the guard.** With fixed answers, a target that is let through by settings
that block more is let through by the others, by the very same decision and so with the same address;
and a target that is let through is still let through if more hosts are listed as passing. -/
theorem allowed_of_hardened_or_relaxed (config : GuardConfig) (resolver : String → LookupReply)
    (address : String) :
    (∀ strict : GuardConfig, strict.Hardens config →
      ((strict.validate address).run resolver).allowed = true →
      ((config.validate address).run resolver).allowed = true ∧
        (config.validate address).run resolver = (strict.validate address).run resolver) ∧
    ∀ more, config.hostAllowList ⊆ more →
      ((config.validate address).run resolver).allowed = true →
      ((validate { config with hostAllowList := more } address).run resolver).allowed = true := by
  constructor
  · intro strict hhard hallowed
    rw [← Lookup.trace_fixed_fst resolver 0] at hallowed
    have hsame := congrArg Prod.fst (hhard.trace_validate_eq hallowed)
    rw [Lookup.trace_fixed_fst, Lookup.trace_fixed_fst] at hsame
    rw [Lookup.trace_fixed_fst] at hallowed
    exact ⟨by rw [hsame, hallowed], hsame⟩
  · intro more hmore hallowed
    rw [← Lookup.trace_fixed_fst resolver 0] at hallowed ⊢
    exact allowed_validate_of_relaxed hmore hallowed

/-- A name that passes by its address although more ports, hosts and classes are blocked, and by
itself once it is listed. -/
theorem allowed_of_hardened_or_relaxed_name :
    let config : GuardConfig :=
      { blockPrivate := false, hostAllowList := ["db.internal"], hostBlockList := ["*.evil.test"] }
    let strict : GuardConfig :=
      { config with
        blockPrivate := true, hostBlockList := ["10.0.0.0/8", "*.evil.test"],
        portBlockList := [25] }
    let ip : Ip := .v4 (Ip.ofOctets [93, 184, 216, 34])
    let resolver : String → LookupReply := fun _ => { outcome := .ok [ip] }
    strict.Hardens config ∧
      (config.validate "example.com:443").run resolver = .allow .passed (some ip) ∧
      ((validate { config with hostAllowList := ["*.com", "db.internal"] } "example.com:443").run
        resolver).allowed = true := by
  intro config strict ip resolver
  have hhard : strict.Hardens config := by
    refine ⟨rfl, rfl, rfl, rfl, ?_, by simp [strict, config], by simp [strict, config]⟩
    intro cls
    cases cls <;> decide
  have hstrict : (strict.validate "example.com:443").run resolver = .allow .passed (some ip) := by
    decide +kernel
  obtain ⟨hhardened, hrelaxed⟩ := allowed_of_hardened_or_relaxed config resolver "example.com:443"
  obtain ⟨hallowed, hsame⟩ := hhardened strict hhard (by rw [hstrict]; rfl)
  exact ⟨hhard, hsame.trans hstrict, hrelaxed ["*.com", "db.internal"] (by simp [config]) hallowed⟩

end GuardConfig

end PluginSandbox
