import PluginSandbox.Policy.Glob

/-!
# Requests for many targets

A request for a connection may name any host, or no port in particular, and then stands
for a request for each host or for each port. The host and the port have to be covered by
one rule, and a rule covers any host only by the pattern for it, and no port in particular
only by the pattern for every port. So grants that cover such a request cover each of those
that it stands for.

## Main definitions

* `Endpoint.StandsFor`: a target that stands for another one.

## Main statements

* `Grants.covers_of_standsFor`: grants cover no more by a target that stands for others.
-/

namespace PluginSandbox

/-- A target stands for another one if it names any host or the same one, and no port or the same
one. -/
structure Endpoint.StandsFor (wide narrow : Endpoint) : Prop where
  host : wide.host = anyHost ∨ wide.host = narrow.host
  port : wide.port = none ∨ wide.port = narrow.port

variable {wide narrow : Endpoint}

/-! ## Ports -/

/-- A pattern that stands for no port in particular stands for every port. -/
theorem PortPattern.admits_of_none {pattern : PortPattern} (hnone : pattern.admits none = true)
    (port : Option UInt16) : pattern.admits port = true := by
  cases pattern with
  | any => rfl
  | range lo hi => contradiction
  | exact p => contradiction
  | never => contradiction

theorem portMatches_of_standsFor {pattern : String} (h : wide.StandsFor narrow)
    (hport : portMatches pattern wide.port = true) : portMatches pattern narrow.port = true := by
  rcases h.port with hnone | hsame
  · rw [hnone] at hport
    exact PortPattern.admits_of_none hport narrow.port
  · rwa [← hsame]

/-! ## Hosts -/

theorem hostMatches_anyHost (host : String) : hostMatches Endpoint.anyHost host = true := by
  have hread : HostPattern.read Endpoint.anyHost.toList = .any := by decide
  rw [hostMatches, hread]
  rfl

namespace NetworkRule

variable {rule : NetworkRule}

/-- A rule covers a request for any host only by the pattern for any host. -/
theorem anyHost_mem_of_covers {port : Option UInt16}
    (hcovers : rule.covers ⟨Endpoint.anyHost, port⟩ = true) : Endpoint.anyHost ∈ rule.hosts := by
  rw [covers, Bool.and_eq_true] at hcovers
  obtain ⟨hhosts, -⟩ := hcovers
  have hany : Endpoint.isAnyHost ⟨Endpoint.anyHost, port⟩ = true := beq_self_eq_true _
  rw [if_pos hany, List.any_eq_true] at hhosts
  obtain ⟨host, hmem, hhost⟩ := hhosts
  rw [beq_iff_eq] at hhost
  rwa [hhost] at hmem

/-- A rule with the pattern for any host covers every host, and any host, on its ports. -/
theorem covers_of_anyHost_mem (hmem : Endpoint.anyHost ∈ rule.hosts) (target : Endpoint) :
    rule.covers target = rule.ports.any fun p => portMatches p target.port := by
  rw [covers]
  by_cases hany : target.isAnyHost = true
  · have hhosts : (rule.hosts.any fun h => h == Endpoint.anyHost) = true :=
      List.any_eq_true.2 ⟨_, hmem, beq_self_eq_true _⟩
    rw [if_pos hany, hhosts, Bool.true_and]
  · have hhosts : (rule.hosts.any fun h => hostMatches h target.host) = true :=
      List.any_eq_true.2 ⟨_, hmem, hostMatches_anyHost target.host⟩
    rw [if_neg hany, hhosts, Bool.true_and]

theorem covers_of_standsFor (h : wide.StandsFor narrow) (hcovers : rule.covers wide = true) :
    rule.covers narrow = true := by
  obtain ⟨host, port⟩ := wide
  have hports : (rule.ports.any fun p => portMatches p port) = true →
      (rule.ports.any fun p => portMatches p narrow.port) = true := by
    simp only [List.any_eq_true]
    rintro ⟨p, hp, hport⟩
    exact ⟨p, hp, portMatches_of_standsFor h hport⟩
  rcases h.host with hany | hsame
  · obtain rfl : host = Endpoint.anyHost := hany
    have hmem := anyHost_mem_of_covers hcovers
    rw [covers_of_anyHost_mem hmem] at hcovers ⊢
    exact hports hcovers
  · obtain rfl : host = narrow.host := hsame
    rw [covers, Bool.and_eq_true] at hcovers ⊢
    exact ⟨hcovers.1, hports hcovers.2⟩

end NetworkRule

namespace Grants

variable {g : Grants}

/-- Grants cover a target only if they cover all that it stands for, each by the same rule. -/
theorem covers_of_standsFor (h : wide.StandsFor narrow)
    (hcovers : g.covers (.network wide) = true) : g.covers (.network narrow) = true := by
  rw [covers, List.any_eq_true] at hcovers ⊢
  obtain ⟨rule, hrule, hcovers⟩ := hcovers
  exact ⟨rule, hrule, NetworkRule.covers_of_standsFor h hcovers⟩

/-- Who may connect to a host on any port may connect to it on each. -/
theorem covers_somePort {host : String} (hcovers : g.covers (.network ⟨host, none⟩) = true)
    (port : UInt16) : g.covers (.network ⟨host, some port⟩) = true := by
  have h : Endpoint.StandsFor ⟨host, none⟩ ⟨host, some port⟩ := ⟨Or.inr rfl, Or.inl rfl⟩
  exact covers_of_standsFor h hcovers

/-- Who may connect to any host may connect to each. -/
theorem covers_host {port : Option UInt16}
    (hcovers : g.covers (.network ⟨Endpoint.anyHost, port⟩) = true) (host : String) :
    g.covers (.network ⟨host, port⟩) = true := by
  have h : Endpoint.StandsFor ⟨Endpoint.anyHost, port⟩ ⟨host, port⟩ := ⟨Or.inl rfl, Or.inr rfl⟩
  exact covers_of_standsFor h hcovers

end Grants

end PluginSandbox
