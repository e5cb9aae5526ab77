import PluginSandbox.Proofs.Checker.Call
import PluginSandbox.Proofs.Policy.Wildcard
import PluginSandbox.Proofs.Risk.Level

/-!
# The level of grants and what they authorize

The level is found from the patterns as they are written, and a request is decided by
what the patterns match. The two go together where the level makes a promise: grants
of a low level have no rule for a connection, a command or a change, so that none is
authorized, whatever the patterns look like; and only the pattern for any host covers
a request for any host, which is broad for every assessment.

## Main definitions

* `Request.acts`: the request is for more than looking at files, variables or keys.

## Main statements

* `RiskConfig.not_covers_of_assess_eq_low`: grants of a low level.
* `RiskConfig.assess_eq_high_of_covers_anyHost`: grants that reach any host.
* `RiskConfig.assess_sound`: both for what the glob policy decides.
-/

namespace PluginSandbox

/-- The request is for a connection, for a command, or for a change of files or of the store. -/
def Request.acts : Request → Bool
  | network _ | command _ => true
  | file _ access => access == .write
  | environment _ => false
  | key _ access => access.isWrite

/-- Only an access that changes the store covers a request to change it. -/
theorem KeyAccess.isWrite_of_permits {granted requested : KeyAccess}
    (hpermits : granted.permits requested = true) (hwrite : requested.isWrite = true) :
    granted.isWrite = true := by
  rw [permits, Bool.or_eq_true, beq_iff_eq, beq_iff_eq] at hpermits
  rcases hpermits with rfl | rfl
  · exact hwrite
  · rfl

namespace RiskConfig

variable {config : RiskConfig} {grants : Grants} {request : Request} {port : Option UInt16}

/-- Grants of a low level cover no request to act: there is no rule for one. -/
theorem not_covers_of_assess_eq_low (hlow : config.assess grants = .low)
    (hacts : request.acts = true) : grants.covers request = false := by
  have hbounds : config.Bounds grants .low := assess_le_iff.1 (le_of_eq hlow)
  cases request with
  | network target =>
    rw [Grants.covers, hbounds.network_eq_nil, List.any_nil]
  | command line =>
    rw [Grants.covers, hbounds.commands_eq_nil, List.any_nil]
  | environment name => contradiction
  | file path access =>
    obtain rfl : access = .write := beq_iff_eq.1 hacts
    -- Rules for files there may be, but none with a pattern for writing.
    have hnone : ((rulesOf grants.files).any fun rule => rule.covers path .write) = false := by
      rw [List.any_eq_false]
      intro rule hrule
      rw [FileRule.covers, FileRule.patterns, hbounds.write_eq_nil hrule]
      exact Bool.false_ne_true
    rw [Grants.covers, hnone, Bool.and_false]
  | key key access =>
    rw [Grants.covers, List.any_eq_false]
    intro rule hrule hcovers
    rw [KeyRule.covers, Bool.and_eq_true] at hcovers
    have hwrite := KeyAccess.isWrite_of_permits hcovers.1 hacts
    rw [hbounds.isWrite_eq_false hrule] at hwrite
    contradiction

/-- The pattern for any host is broad, with or without additional patterns. -/
theorem isBroad_anyHost (config : RiskConfig) :
    config.isBroad "network" broadHosts Endpoint.anyHost = true := by
  rw [isBroad, Bool.or_eq_true]
  exact Or.inl rfl

/-- Grants that cover a request for any host are of a high level. -/
theorem assess_eq_high_of_covers_anyHost
    (hcovers : grants.covers (.network ⟨Endpoint.anyHost, port⟩) = true) :
    config.assess grants = .high := by
  rw [Grants.covers, List.any_eq_true] at hcovers
  obtain ⟨rule, hrule, hcovers⟩ := hcovers
  have hhost := NetworkRule.anyHost_mem_of_covers hcovers
  exact assess_eq_high_of_isBroad hrule hhost (isBroad_anyHost config)

/-- **The level is sound for what is authorized.** Whatever additional patterns are configured, and
whatever the policy was asked before: under grants of a low level it authorizes no connection, no
command, no file to write and no change of keys; and if it authorizes a request for any host, on
some port or on any, the grants are of a high level. -/
theorem assess_sound (config : RiskConfig) (grants : Grants) (past : List Inquiry) :
    let cache := (Policy.glob.answerAll past {}).2
    (config.assess grants = .low → ∀ request : Request, request.acts = true →
      (Policy.glob.decide request grants cache).1 = false) ∧
    ∀ port, (Policy.glob.decide (.network ⟨Endpoint.anyHost, port⟩) grants cache).1 = true →
      config.assess grants = .high := by
  intro cache
  have hcache : cache.Sound := Policy.sound_answerAll past
  refine ⟨?_, ?_⟩
  · intro hlow request hacts
    rw [Policy.realizes_glob.decide_fst request grants cache hcache]
    exact not_covers_of_assess_eq_low hlow hacts
  · intro port hauthorized
    rw [Policy.realizes_glob.decide_fst _ grants cache hcache] at hauthorized
    exact assess_eq_high_of_covers_anyHost hauthorized

/-- Grants of a low level with a list of no rules, a rule of no patterns and a malformed glob; and
grants for any host on the ports of the web. -/
theorem assess_sound_sparse :
    let sparse : Grants := { network := some [], files := some [⟨["/data/[a"], []⟩, ⟨[], []⟩],
                             keys := some [⟨["*"], .read⟩] }
    let wide : Grants := { network := some [⟨["*"], ["80", "443"]⟩] }
    let past : List Inquiry := [⟨.file "/data/a" .read, sparse⟩, ⟨.key "a" .write, sparse⟩]
    let cache := (Policy.glob.answerAll past {}).2
    (Policy.glob.decide (.file "/data/[a" .write) sparse cache).1 = false ∧
      (Policy.glob.decide (.key "a" .readWrite) sparse cache).1 = false ∧
      assess ⟨[("network", ["example.org"])]⟩ wide = .high := by
  intro sparse wide past cache
  obtain ⟨hlow, -⟩ := assess_sound {} sparse past
  obtain ⟨-, hhigh⟩ := assess_sound ⟨[("network", ["example.org"])]⟩ wide past
  have hsparse : assess {} sparse = .low := by decide +kernel
  exact ⟨hlow hsparse _ (by rfl), hlow hsparse _ (by rfl), hhigh (some 443) (by decide +kernel)⟩

end RiskConfig

end PluginSandbox
