import PluginSandbox.Proofs.Checker.Wire

/-!
# Connections to any host or port

A capability for any host, or for a host on no port in particular, is not easier to get
than one for a single host and port. A policy that authorises it authorises every host
and port that it stands for; and on the wire, a port is for every host, and `*` is for
every host on one of the ports of the web.

## Main statements

* `Checker.isOk_checkRequest_of_outbound_port`: a port on the wire.
* `Checker.isOk_checkRequest_of_outbound_any`: any host on the wire.
* `Checker.outbound_conservative`: both, and the requests that stand for many.
-/

namespace PluginSandbox

open Text

namespace Checker

variable {registry : Registry} {plugin : String} {cache cache' : GlobCache}

/-- A port on the wire is granted only together with every host on it. -/
theorem isOk_checkRequest_of_outbound_port (hcache : cache.Sound) (hcache' : cache'.Sound)
    {text : String} {port : UInt16} (hread : readPort text.toList = some port)
    (hgranted : ((glob registry).check plugin "network" ("outbound:" ++ text) cache).1.isOk = true)
    (host : String) :
    ((glob registry).checkRequest plugin (.network ⟨host, some port⟩) cache').1.isOk = true := by
  have htext : text ≠ "" := by
    rintro rfl
    exact nomatch hread
  rw [isOk_check_outbound_iff hcache htext, targetsOf_port hread] at hgranted
  obtain ⟨g, hgrants, target, htarget, hcovers⟩ := hgranted
  obtain rfl : target = .onPort port := List.mem_singleton.1 htarget
  rw [isOk_checkRequest_iff hcache']
  exact ⟨g, hgrants, Grants.covers_host hcovers host⟩

/-- Any host on the wire is granted only together with every host on a port of the web. -/
theorem isOk_checkRequest_of_outbound_any (hcache : cache.Sound) (hcache' : cache'.Sound)
    (hgranted : ((glob registry).check plugin "network" "outbound:*" cache).1.isOk = true) :
    (∀ host,
      ((glob registry).checkRequest plugin (.network ⟨host, some 80⟩) cache').1.isOk = true) ∨
    ∀ host,
      ((glob registry).checkRequest plugin (.network ⟨host, some 443⟩) cache').1.isOk = true := by
  have htargets : targetsOf Endpoint.anyHost =
      [⟨Endpoint.anyHost, none⟩, ⟨Endpoint.anyHost, some 80⟩, ⟨Endpoint.anyHost, some 443⟩] :=
    targetsOf_host (by decide) (by decide)
  have htarget : Endpoint.anyHost ≠ "" := by decide
  obtain ⟨g, hgrants, target, htarget, hcovers⟩ :=
    (isOk_check_outbound_iff hcache htarget).1 hgranted
  rw [htargets] at htarget
  simp only [isOk_checkRequest_iff hcache']
  simp only [List.mem_cons, List.not_mem_nil, or_false] at htarget
  rcases htarget with rfl | rfl | rfl
  · -- Without a port in particular, each of the two would do.
    have hweb := Grants.covers_somePort hcovers 80
    exact Or.inl fun host => ⟨g, hgrants, Grants.covers_host hweb host⟩
  · exact Or.inl fun host => ⟨g, hgrants, Grants.covers_host hcovers host⟩
  · exact Or.inr fun host => ⟨g, hgrants, Grants.covers_host hcovers host⟩

/-- **Requests for many targets are conservative.** Whatever the policy was asked before: if it
authorises a host on no port in particular, it authorises the host on every port; if it authorises
any host on a port, or on no port in particular, it authorises every host on that port, or on every
port. A plugin that is granted a port on the wire may connect to every host on it, and one that is
granted any host may connect to every host on one of the ports of the web. -/
theorem outbound_conservative (grants : Grants) (registry : Registry) (plugin : String)
    (past past' : List Inquiry) (calls calls' : List (Registry × Call)) :
    let s := (Policy.glob.answerAll past {}).2
    let s' := (Policy.glob.answerAll past' {}).2
    (∀ host, (Policy.glob.decide (.network ⟨host, none⟩) grants s).1 = true →
      ∀ port, (Policy.glob.decide (.network ⟨host, some port⟩) grants s').1 = true) ∧
    (∀ port, (Policy.glob.decide (.network ⟨"*", some port⟩) grants s).1 = true →
      ∀ host, (Policy.glob.decide (.network ⟨host, some port⟩) grants s').1 = true) ∧
    ((Policy.glob.decide (.network ⟨"*", none⟩) grants s).1 = true →
      ∀ host port, (Policy.glob.decide (.network ⟨host, port⟩) grants s').1 = true) ∧
    (∀ text port, readPort text.toList = some port →
      ((glob registry).check plugin "network" ("outbound:" ++ text)
        (after calls {})).1.isOk = true →
      ∀ host, ((glob registry).checkRequest plugin (.network ⟨host, some port⟩)
        (after calls' {})).1.isOk = true) ∧
    (((glob registry).check plugin "network" "outbound:*" (after calls {})).1.isOk = true →
      (∀ host, ((glob registry).checkRequest plugin (.network ⟨host, some 80⟩)
        (after calls' {})).1.isOk = true) ∨
      ∀ host, ((glob registry).checkRequest plugin (.network ⟨host, some 443⟩)
        (after calls' {})).1.isOk = true) := by
  intro s s'
  have hs : s.Sound := Policy.sound_answerAll past
  have hs' : s'.Sound := Policy.sound_answerAll past'
  have hcache := sound_after calls GlobCache.sound_empty
  have hcache' := sound_after calls' GlobCache.sound_empty
  have hstands : ∀ wide narrow : Endpoint, wide.StandsFor narrow →
      (Policy.glob.decide (.network wide) grants s).1 = true →
      (Policy.glob.decide (.network narrow) grants s').1 = true := by
    intro wide narrow h hwide
    rw [Policy.realizes_glob.decide_fst _ _ s hs] at hwide
    rw [Policy.realizes_glob.decide_fst _ _ s' hs']
    exact Grants.covers_of_standsFor h hwide
  refine ⟨?_, ?_, ?_, ?_, ?_⟩
  · intro host hhost port
    exact hstands ⟨host, none⟩ ⟨host, some port⟩ ⟨Or.inr rfl, Or.inl rfl⟩ hhost
  · intro port hport host
    exact hstands (.onPort port) ⟨host, some port⟩ ⟨Or.inl rfl, Or.inr rfl⟩ hport
  · intro hany host port
    exact hstands ⟨"*", none⟩ ⟨host, port⟩ ⟨Or.inl rfl, Or.inl rfl⟩ hany
  · intro text port hread hgranted host
    exact isOk_checkRequest_of_outbound_port hcache hcache' hread hgranted host
  · intro hgranted
    exact isOk_checkRequest_of_outbound_any hcache hcache' hgranted

/-- Grants for any host on the secure port of the web and on some high ports, beside a rule for one
host on every port. -/
theorem outbound_conservative_secure :
    let grants : Grants := { network := some [⟨["api.example.org"], ["*"]⟩,
                                              ⟨["10.0.0.0/8", "*"], ["443", "8000-8999"]⟩] }
    let registry : Registry := [("mail", grants)]
    (∀ port, (Policy.glob.decide (.network ⟨"api.example.org", some port⟩) grants {}).1 = true) ∧
      (∀ host, (Policy.glob.decide (.network ⟨host, some 8080⟩) grants {}).1 = true) ∧
      (∀ host, ((glob registry).checkRequest "mail" (.network ⟨host, some 8443⟩) {}).1.isOk =
        true) ∧
      ((glob registry).check "mail" "network" "outbound:*" {}).1.isOk = true := by
  intro grants registry
  obtain ⟨hhost, hport, -, houtbound, -⟩ := outbound_conservative grants registry "mail" [] [] [] []
  refine ⟨hhost "api.example.org" (by decide +kernel), hport 8080 (by decide +kernel), ?_,
    by decide +kernel⟩
  exact houtbound "+08443" 8443 (by decide) (by decide +kernel)

end Checker

end PluginSandbox
