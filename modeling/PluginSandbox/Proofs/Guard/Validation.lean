import PluginSandbox.Proofs.Guard.Passage

/-!
# What a validated target can be

Every way through the guard has passed every test that applies to it: a target
that is let through, and whose host is not on the list of hosts that pass, has
a port and a host that nothing speaks against, and an address that nothing
speaks against wherever an address is known.
-/

namespace PluginSandbox.GuardConfig

variable {config : GuardConfig} {resolver : Nat → String → LookupReply} {count : Nat}

/-- A target that is let through has a form, a port that passes, and a host that took one of the
ways through. -/
theorem passes_of_allowed {address : String} {v : Validation} {asked : List String}
    (hrun : (config.validate address).trace resolver count = (v, asked))
    (h : v.allowed = true) :
    ∃ target, HostPort.read address.toList = .ok target ∧
      (∀ port, target.port = some port → config.PortPasses port) ∧
      config.Passes target.host (resolver count (String.ofList target.host)) v.ip asked := by
  cases hread : HostPort.read address.toList with
  | error e =>
    rw [validate, hread] at hrun
    obtain ⟨rfl, -⟩ := Prod.mk.inj hrun
    contradiction
  | ok target =>
    rw [validate, hread] at hrun
    simp only at hrun
    have hallowed : ((config.validateParts target.host target.port).trace resolver count).1.allowed
        = true := by rw [hrun, h]
    obtain ⟨hports, hhost⟩ := (allowed_validateParts_iff resolver count).1 hallowed
    rw [validateParts_of_portPasses hports] at hrun
    have hpasses := passes_of_allowed_validateHost resolver count hhost
    rw [hrun] at hpasses
    exact ⟨target, rfl, hports, hpasses⟩

/-- **What is let through is safe.** A target that is let through, and whose host is not on the list
of hosts that pass, names no port that is refused and no host that is blocked. Its address is known
if names are looked up or the host spells one, and nothing speaks against an address that is
known. -/
theorem allowed_target_clears (config : GuardConfig) (resolver : Nat → String → LookupReply)
    (count : Nat) (address : String) {v : Validation} {asked : List String}
    (hrun : (config.validate address).trace resolver count = (v, asked))
    (hallowed : v.allowed = true) :
    ∃ target, HostPort.read address.toList = .ok target ∧
      (¬HostListed config.hostAllowList target.host →
        (∀ port, target.port = some port → config.PortPasses port) ∧
        ¬HostListed config.hostBlockList target.host ∧
        (config.resolveNames = true ∨ (Ip.read target.host).isSome = true →
          v.ip.isSome = true) ∧
        ∀ ip, v.ip = some ip → config.Clears ip) := by
  obtain ⟨target, hread, hports, hpasses⟩ := passes_of_allowed hrun hallowed
  refine ⟨target, hread, fun hallow => ⟨hports, ?_⟩⟩
  cases hpasses with
  | listed hlisted => exact absurd hlisted hallow
  | literal own _ hblock _ hclear hip =>
    refine ⟨hblock, fun _ => by rw [hip, Option.isSome_some], fun ip hv => ?_⟩
    obtain rfl := Option.some.inj (hip.symm.trans hv)
    exact hclear
  | resolved found _ hblock _ _ _ _ hclear hip =>
    refine ⟨hblock, fun _ => by rw [hip, Option.isSome_some], fun ip hv => ?_⟩
    obtain rfl := Option.some.inj (hip.symm.trans hv)
    exact hclear
  | unresolved _ hblock hname _ hoff hip =>
    refine ⟨hblock, fun h => ?_, fun ip hv => ?_⟩
    · -- Such a host is neither looked up nor an address.
      rw [hoff, hname] at h
      simp at h
    · rw [hip] at hv
      contradiction

/-- A name in mixed case with a dot and a port, which is looked up to a public address. -/
theorem allowed_target_clears_name :
    let config : GuardConfig :=
      { hostBlockList := ["*.evil.test", "10.0.0.0/8"], portAllowList := [443] }
    let ip : Ip := .v4 (Ip.ofOctets [93, 184, 216, 34])
    (config.validate " API.Example.COM.:443").trace (fun _ _ => { outcome := .ok [ip] }) 0 =
        (.allow .passed (some ip), ["api.example.com"]) ∧
      config.PortPasses 443 ∧ config.Clears ip := by
  intro config ip
  have hrun : (config.validate " API.Example.COM.:443").trace
      (fun _ _ => { outcome := .ok [ip] }) 0 =
        (.allow .passed (some ip), ["api.example.com"]) := by decide +kernel
  have hread : HostPort.read " API.Example.COM.:443".toList =
      .ok ⟨"api.example.com".toList, some 443⟩ := eq_ok_of_toOption (by decide +kernel)
  obtain ⟨target, htarget, hsafe⟩ := allowed_target_clears config _ 0 _ hrun rfl
  obtain rfl := Except.ok.inj (hread.symm.trans htarget)
  obtain ⟨hports, -, -, hclear⟩ := hsafe (not_hostListed_nil _)
  exact ⟨hrun, hports 443 rfl, hclear ip rfl⟩

end PluginSandbox.GuardConfig
