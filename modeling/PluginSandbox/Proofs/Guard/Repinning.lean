import PluginSandbox.Proofs.Address.Spelling
import PluginSandbox.Proofs.Address.Target
import PluginSandbox.Proofs.Guard.Mapped
import PluginSandbox.Proofs.Guard.Pinning

/-!
# Pinning again

A pinned target is printed as its address with its port, which is read as that address
and port. The address passes as a host because nothing spoke against it when the target
was pinned, or because it was on the list of hosts that pass under the same text. So
pinning the printed target binds it to the same address and port, and asks no resolver.
A name that passed by the list of hosts alone is left out: nothing was decided about
its address.

## Main statements

* `PinnedTarget.read_socket`: what a printed target is read as.
* `GuardConfig.pin_of_address`: addresses with a port that can be pinned.
* `GuardConfig.pin_stable`: a pinned target that is pinned again.
-/

namespace PluginSandbox

open Text

/-! ## Printed targets -/

/-- A target is printed as an address with a port. -/
theorem PinnedTarget.read_socket (t : PinnedTarget) :
    HostPort.read t.socket.toList = .ok ⟨t.ip.render, some t.port⟩ := by
  obtain ⟨name, ip, port⟩ := t
  have hport := readPort_showPort port
  cases ip with
  | v4 a =>
    have htext : (socket ⟨name, .v4 a, port⟩).toList =
        Ip.showV4 a ++ ':' :: (showPort port).toList := by
      simp [socket, toString, Ip.text, Ip.render]
    rw [htext]
    exact HostPort.read_of_readV4_port (Ip.readV4_showV4 a) hport
  | v6 a =>
    have htext : (socket ⟨name, .v6 a, port⟩).toList =
        '[' :: (Ip.showV6 a ++ ']' :: ':' :: (showPort port).toList) := by
      simp [socket, toString, Ip.text, Ip.render]
    rw [htext]
    exact HostPort.read_of_readV6_port (Ip.readV6_showV6 a) hport

namespace GuardConfig

variable {config : GuardConfig} {address : String} {ip : Ip} {port : UInt16}

/-! ## Addresses that pass -/

/-- An address that nothing speaks against is not blocked as a host. -/
theorem Clears.not_hostListed (h : config.Clears ip) :
    ¬HostListed config.hostBlockList ip.render := by
  rw [hostListed_iff_of_read (Ip.read_render ip)]
  rintro ⟨entry, hentry, hcovers⟩
  have hmatch := (h.entries entry hentry).1
  rw [hostMatches_text, hcovers] at hmatch
  contradiction

/-- The decision about such an address, or about one on the list of hosts that pass, takes no
look-up and names the address. -/
theorem validateHost_of_address
    (h : HostListed config.hostAllowList ip.render ∨ config.Clears ip) :
    ∃ v, config.validateHost ip.render = .done v ∧ v.allowed = true ∧ v.ip = some ip := by
  have hip := Ip.read_render ip
  by_cases hallow : HostListed config.hostAllowList ip.render
  · obtain ⟨entry, heq⟩ := validateHost_of_allowListed hallow
    exact ⟨_, heq, rfl, hip⟩
  · have hclear := h.resolve_left hallow
    have heq := validateHost_of_literal hallow hclear.not_hostListed hip
    exact ⟨_, heq, (allowed_validateIp_iff ip).2 hclear, ip_validateIp ip⟩

/-- A target that names such an address and a port that passes is bound to them. -/
theorem pin_of_address (hread : HostPort.read address.toList = .ok ⟨ip.render, some port⟩)
    (hport : config.PortPasses port)
    (h : HostListed config.hostAllowList ip.render ∨ config.Clears ip) (defaultPort : UInt16) :
    config.pin address defaultPort = .done (.ok ⟨ip.text, ip, port⟩) := by
  obtain ⟨v, hcheck, hallowed, hv⟩ := validateHost_of_address h
  have hports : ∀ p, some ((some port).getD defaultPort) = some p → config.PortPasses p := by
    rintro p ⟨⟩
    exact hport
  rw [pin_eq hread, validateParts_of_portPasses hports, hcheck]
  change config.pinnedIp ip.render v >>= _ = _
  rw [pinnedIp_of_known hallowed hv]
  rfl

/-! ## Pinned targets -/

/-- **Pinning is stable.** A target that was pinned with any resolver, whose host spells an address
or is not on the list of hosts that pass, is printed as a target that can be pinned again, with any
other port where none is named. It is bound to the same address and port, under the printed address
as its name, and no resolver is asked. -/
theorem pin_stable (config : GuardConfig) (address : String) (defaultPort : UInt16)
    (resolver : Nat → String → LookupReply) (count : Nat) {t : PinnedTarget} {asked : List String}
    {target : HostPort}
    (hrun : (config.pin address defaultPort).trace resolver count = (.ok t, asked))
    (hread : HostPort.read address.toList = .ok target)
    (hhost : (∃ ip, Ip.read target.host = some ip) ∨
      ¬HostListed config.hostAllowList target.host) (otherPort : UInt16) :
    config.pin t.socket otherPort = .done (.ok ⟨t.ip.text, t.ip, t.port⟩) := by
  obtain ⟨hport, -, hsame, v, checked, bound, hcheck, hbind, -⟩ := stages_of_pin_eq_ok hread hrun
  obtain ⟨-, -, hbound⟩ := boundTo_of_stages hcheck hbind
  rw [← hsame] at hport
  refine pin_of_address t.read_socket hport ?_ otherPort
  by_cases hlisted : HostListed config.hostAllowList target.host
  · obtain ⟨own, hown⟩ := hhost.resolve_right fun hnot => hnot hlisted
    rcases hbound.source with ⟨hip, -⟩ | ⟨hname, -⟩
    · rw [(HostPort.normalizes_of_read hread).eq_render hip] at hlisted
      exact Or.inl hlisted
    · rw [hown] at hname
      contradiction
  · exact Or.inr (hbound.clears hlisted)

/-- A name that is looked up to an IPv6 address, and an address in IPv4-mapped form that passes only
because it is listed. -/
theorem pin_stable_brackets :
    let config : GuardConfig := { hostAllowList := ["10.0.0.0/8"], portBlockList := [80] }
    let first : Ip := .v6 (Ip.ofGroups [0x2001, 0xdb8, 0, 0, 0, 0, 0, 1])
    let mapped : Ip := .v6 (Ip.mapped (Ip.ofOctets [10, 1, 2, 3]))
    let resolver : Nat → String → LookupReply := fun _ _ => { outcome := .ok [first] }
    let named : PinnedTarget := ⟨"api.example.com", first, 8443⟩
    let literal : PinnedTarget := ⟨"::ffff:10.1.2.3", mapped, 443⟩
    (((config.pin "API.Example.com.:8443" 443).trace resolver 0).1.toOption = some named ∧
      named.socket = "[2001:db8::1]:8443" ∧
      config.pin named.socket 80 = .done (.ok ⟨"2001:db8::1", first, 8443⟩)) ∧
    ((config.pin "[::FFFF:a01:203]" 443).trace resolver 0).1.toOption = some literal ∧
      literal.socket = "[::ffff:10.1.2.3]:443" ∧
      config.pin literal.socket 80 = .done (.ok literal) := by
  intro config first mapped resolver named literal
  have hnamed : ((config.pin "API.Example.com.:8443" 443).trace resolver 0).1.toOption =
      some named := by decide +kernel
  have hliteral : ((config.pin "[::FFFF:a01:203]" 443).trace resolver 0).1.toOption =
      some literal := by decide +kernel
  have hread : HostPort.read "API.Example.com.:8443".toList =
      .ok ⟨"api.example.com".toList, some 8443⟩ := eq_ok_of_toOption (by decide +kernel)
  have hread' : HostPort.read "[::FFFF:a01:203]".toList =
      .ok ⟨"::ffff:10.1.2.3".toList, none⟩ := eq_ok_of_toOption (by decide +kernel)
  have hunlisted : ¬HostListed config.hostAllowList "api.example.com".toList := by
    rw [← firstHostMatch?_eq_none_iff]
    decide +kernel
  have hown : Ip.read "::ffff:10.1.2.3".toList = some mapped := by decide +kernel
  refine ⟨⟨hnamed, by decide +kernel, ?_⟩, hliteral, by decide +kernel, ?_⟩
  · have htext : first.text = "2001:db8::1" := by decide +kernel
    rw [← htext]
    exact pin_stable config "API.Example.com.:8443" 443 resolver 0
      (Prod.ext (eq_ok_of_toOption hnamed) rfl) hread (Or.inr hunlisted) 80
  · have htext : mapped.text = literal.serverName := by decide +kernel
    have hagain := pin_stable config "[::FFFF:a01:203]" 443 resolver 0
      (Prod.ext (eq_ok_of_toOption hliteral) rfl) hread' (Or.inl ⟨mapped, hown⟩) 80
    rwa [htext] at hagain

-- The address of a listed name is not decided about, so it need not pass by itself.
example :
    let config : GuardConfig := { hostAllowList := ["db.internal"] }
    let inner : Ip := .v4 (Ip.ofOctets [10, 0, 0, 1])
    let resolver : Nat → String → LookupReply := fun _ _ => { outcome := .ok [inner] }
    ((config.pin "db.internal" 443).trace resolver 0).1.toOption =
        some ⟨"db.internal", inner, 443⟩ ∧
      ((config.pin "10.0.0.1:443" 443).trace resolver 0).1.toOption = none := by
  decide +kernel

end GuardConfig

end PluginSandbox
