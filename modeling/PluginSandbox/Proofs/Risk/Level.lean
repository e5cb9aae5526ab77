import Mathlib.Order.Nat
import PluginSandbox.Risk.Basic

/-!
# The level of grants as the highest of their rules

Each rule has a level of its own, and the level of grants is the highest of them: it is
at most some level exactly if all rules are. The categories come to this in different
ways, by a test for any broad pattern or by a walk that stops early, and a category
without rules counts as low.

## Main definitions

* `RiskConfig.commandLevel` and the like: the levels of single rules.
* `RiskConfig.Bounds`: a level that no rule of the grants exceeds.

## Main statements

* `RiskConfig.assess_le_iff`: the level of grants is the least that bounds them.
* `RiskConfig.Bounds.network_eq_nil` and the like: what grants of a low level lack.
* `RiskConfig.assess_eq_high_of_isBroad`, `RiskConfig.assess_eq_high_of_runsCode`: a broad host,
  and a command that runs code.
-/

namespace PluginSandbox

/-! ## The order of levels -/

namespace RiskLevel

theorem rank_injective : Function.Injective rank := by
  intro a b h
  cases a <;> cases b <;> first | rfl | contradiction

instance : PartialOrder RiskLevel := PartialOrder.lift rank rank_injective

instance (a b : RiskLevel) : Decidable (a ≤ b) := inferInstanceAs (Decidable (a.rank ≤ b.rank))

theorem low_le (level : RiskLevel) : low ≤ level := by
  cases level <;> decide

theorem le_high (level : RiskLevel) : level ≤ high := by
  cases level <;> decide

theorem max_le_iff {a b level : RiskLevel} : a.max b ≤ level ↔ a ≤ level ∧ b ≤ level := by
  cases a <;> cases b <;> cases level <;> decide

/-- One of two levels, by whether some member of a list is the reason for the higher one, is the
highest of the levels that the members call for, if there is a member or else the lower one is
within the bound. -/
theorem any_le_iff {α : Type} (raises : α → Bool) {base raised level : RiskLevel}
    (hle : base ≤ raised) {members : List α} (hbase : members = [] → base ≤ level) :
    (if members.any raises then raised else base) ≤ level ↔
      ∀ x ∈ members, (if raises x then raised else base) ≤ level := by
  by_cases hany : members.any raises = true
  · rw [if_pos hany]
    obtain ⟨x, hx, hraises⟩ := List.any_eq_true.1 hany
    constructor
    · intro h y _
      split
      · exact h
      · exact hle.trans h
    · intro h
      have hlevel := h x hx
      rwa [if_pos hraises] at hlevel
  · rw [if_neg hany]
    have hnone : ∀ x ∈ members, (if raises x then raised else base) = base := by
      intro x hx
      exact if_neg fun hraises => hany (List.any_eq_true.2 ⟨x, hx, hraises⟩)
    constructor
    · intro h x hx
      rwa [hnone x hx]
    · intro h
      cases members with
      | nil => exact hbase rfl
      | cons x more =>
        rw [← hnone x List.mem_cons_self]
        exact h x List.mem_cons_self

end RiskLevel

namespace RiskConfig

open RiskLevel (low_le)

variable {config : RiskConfig} {grants : Grants} {level : RiskLevel}

/-! ## Levels of rules -/

/-- The level of a command. -/
def commandLevel (config : RiskConfig) (pattern : String) : RiskLevel :=
  if config.runsCode pattern then .high else .medium

/-- The level of a rule for connections. -/
def connectionLevel (config : RiskConfig) (rule : NetworkRule) : RiskLevel :=
  if rule.hosts.any (config.isBroad "network" broadHosts) then .high else .medium

/-- The level of a path pattern. -/
def pathLevel (config : RiskConfig) (access pattern : String) : RiskLevel :=
  if config.isDeepPath access pattern then .high
  else if access = "write" ∨ "/etc/".toList.isPrefixOf pattern.toList then .medium
  else .low

/-- The level of an environment variable. -/
def variableLevel (config : RiskConfig) (pattern : String) : RiskLevel :=
  if config.isBroad "environment" broadVariables pattern then .high else .low

/-- The level of a rule for keys. -/
def keyLevel (rule : KeyRule) : RiskLevel := if rule.access.isWrite then .medium else .low

/-- No rule of the grants exceeds the level. -/
structure Bounds (config : RiskConfig) (grants : Grants) (level : RiskLevel) : Prop where
  commands : ∀ pattern ∈ rulesOf grants.commands, config.commandLevel pattern ≤ level
  network : ∀ rule ∈ rulesOf grants.network, config.connectionLevel rule ≤ level
  reading : ∀ rule ∈ rulesOf grants.files, ∀ pattern ∈ rule.read,
    config.pathLevel "read" pattern ≤ level
  writing : ∀ rule ∈ rulesOf grants.files, ∀ pattern ∈ rule.write,
    config.pathLevel "write" pattern ≤ level
  environment : ∀ pattern ∈ rulesOf grants.environment, config.variableLevel pattern ≤ level
  keys : ∀ rule ∈ rulesOf grants.keys, keyLevel rule ≤ level

/-! ## Levels of categories -/

theorem commandRisk_le_iff : config.commandRisk grants ≤ level ↔
    ∀ pattern ∈ rulesOf grants.commands, config.commandLevel pattern ≤ level := by
  rw [commandRisk]
  cases rulesOf grants.commands with
  | nil => simp [low_le]
  | cons pattern patterns =>
    exact RiskLevel.any_le_iff config.runsCode (by decide) fun hnil => nomatch hnil

theorem networkRisk_le_iff : config.networkRisk grants ≤ level ↔
    ∀ rule ∈ rulesOf grants.network, config.connectionLevel rule ≤ level := by
  rw [networkRisk]
  cases rulesOf grants.network with
  | nil => simp [low_le]
  | cons rule rules =>
    simp only [reachesAnyHost, List.any_flatMap]
    exact RiskLevel.any_le_iff _ (by decide) fun hnil => nomatch hnil

/-- The walk through path patterns, as long as nothing has ended it. -/
theorem pathRisk_le_iff {current : RiskLevel} (hcurrent : current ≤ .medium)
    {patterns : List (String × String)} :
    config.pathRisk current patterns ≤ level ↔
      current ≤ level ∧ ∀ p ∈ patterns, config.pathLevel p.1 p.2 ≤ level := by
  induction patterns generalizing current with
  | nil => simp [pathRisk]
  | cons p patterns ih =>
    obtain ⟨access, pattern⟩ := p
    rw [pathRisk, List.forall_mem_cons]
    by_cases hdeep : config.isDeepPath access pattern = true
    · -- The walk ends at the highest level, which bounds whatever follows.
      have hlevel : config.pathLevel access pattern = .high := if_pos hdeep
      rw [if_pos hdeep, hlevel]
      constructor
      · intro h
        exact ⟨(RiskLevel.le_high _).trans h, h, fun q _ => (RiskLevel.le_high _).trans h⟩
      · intro h
        exact h.2.1
    · rw [if_neg hdeep]
      by_cases hraises : access = "write" ∨ "/etc/".toList.isPrefixOf pattern.toList
      · have hlevel : config.pathLevel access pattern = .medium := by
          rw [pathLevel, if_neg hdeep, if_pos hraises]
        rw [if_pos hraises, ih le_rfl, hlevel]
        exact ⟨fun h => ⟨hcurrent.trans h.1, h⟩, fun h => h.2⟩
      · have hlevel : config.pathLevel access pattern = .low := by
          rw [pathLevel, if_neg hdeep, if_neg hraises]
        rw [if_neg hraises, ih hcurrent, hlevel]
        exact ⟨fun h => ⟨h.1, low_le level, h.2⟩, fun h => ⟨h.1, h.2.2⟩⟩

theorem fileRisk_le_iff : config.fileRisk grants ≤ level ↔
    (∀ rule ∈ rulesOf grants.files, ∀ pattern ∈ rule.read,
      config.pathLevel "read" pattern ≤ level) ∧
    ∀ rule ∈ rulesOf grants.files, ∀ pattern ∈ rule.write,
      config.pathLevel "write" pattern ≤ level := by
  rw [fileRisk, pathRisk_le_iff (by decide), and_iff_right (low_le level), List.forall_mem_append]
  simp only [List.forall_mem_map, readPatterns, writePatterns, List.mem_flatMap,
    forall_exists_index, and_imp]
  constructor
  · rintro ⟨hread, hwrite⟩
    exact ⟨fun rule hrule p hp => hread p rule hrule hp,
      fun rule hrule p hp => hwrite p rule hrule hp⟩
  · rintro ⟨hread, hwrite⟩
    exact ⟨fun p rule hrule hp => hread rule hrule p hp,
      fun p rule hrule hp => hwrite rule hrule p hp⟩

theorem environmentRisk_le_iff : config.environmentRisk grants ≤ level ↔
    ∀ pattern ∈ rulesOf grants.environment, config.variableLevel pattern ≤ level :=
  RiskLevel.any_le_iff _ (by decide) fun _ => low_le level

theorem keyRisk_le_iff : keyRisk grants ≤ level ↔
    ∀ rule ∈ rulesOf grants.keys, keyLevel rule ≤ level :=
  RiskLevel.any_le_iff _ (by decide) fun _ => low_le level

/-- The level of grants is the least that no rule exceeds. -/
theorem assess_le_iff : config.assess grants ≤ level ↔ config.Bounds grants level := by
  simp only [assess, List.foldl_cons, List.foldl_nil, RiskLevel.max_le_iff, commandRisk_le_iff,
    networkRisk_le_iff, fileRisk_le_iff, environmentRisk_le_iff, keyRisk_le_iff, low_le, true_and]
  constructor
  · rintro ⟨⟨⟨⟨hcommands, hnetwork⟩, hread, hwrite⟩, henvironment⟩, hkeys⟩
    exact ⟨hcommands, hnetwork, hread, hwrite, henvironment, hkeys⟩
  · intro h
    exact ⟨⟨⟨⟨h.commands, h.network⟩, h.reading, h.writing⟩, h.environment⟩, h.keys⟩

/-- No rule exceeds the level of the grants. -/
theorem bounds_assess (config : RiskConfig) (grants : Grants) :
    config.Bounds grants (config.assess grants) :=
  assess_le_iff.1 le_rfl

/-! ## Low and high levels -/

/-- A rule that cannot be of a low level is missing where the low level is a bound. -/
theorem eq_nil_of_le_low {α : Type} {rules : List α} {raises : α → Bool}
    (h : ∀ rule ∈ rules, (if raises rule then RiskLevel.high else .medium) ≤ .low) :
    rules = [] := by
  rw [List.eq_nil_iff_forall_not_mem]
  intro rule hrule
  have hle := h rule hrule
  revert hle
  cases raises rule <;> decide

namespace Bounds

variable (hlow : config.Bounds grants .low)
include hlow

theorem commands_eq_nil : rulesOf grants.commands = [] := eq_nil_of_le_low hlow.commands

theorem network_eq_nil : rulesOf grants.network = [] := eq_nil_of_le_low hlow.network

theorem write_eq_nil {rule : FileRule} (hrule : rule ∈ rulesOf grants.files) : rule.write = [] := by
  have hle : ∀ pattern ∈ rule.write,
      (if config.isDeepPath "write" pattern then RiskLevel.high else .medium) ≤ .low := by
    intro pattern hpattern
    have hlevel := hlow.writing rule hrule pattern hpattern
    rwa [pathLevel, if_pos (Or.inl rfl)] at hlevel
  exact eq_nil_of_le_low hle

theorem isWrite_eq_false {rule : KeyRule} (hrule : rule ∈ rulesOf grants.keys) :
    rule.access.isWrite = false := by
  have hle := hlow.keys rule hrule
  rw [keyLevel] at hle
  revert hle
  cases rule.access.isWrite <;> decide

end Bounds

/-- Grants with a rule for a broad host are of a high level. -/
theorem assess_eq_high_of_isBroad {rule : NetworkRule} (hrule : rule ∈ rulesOf grants.network)
    {host : String} (hhost : host ∈ rule.hosts)
    (hbroad : config.isBroad "network" broadHosts host = true) : config.assess grants = .high := by
  have hle := (config.bounds_assess grants).network rule hrule
  rw [connectionLevel, if_pos (List.any_eq_true.2 ⟨host, hhost, hbroad⟩)] at hle
  exact le_antisymm (RiskLevel.le_high _) hle

/-- Grants with a command that raises the level are of a high level. -/
theorem assess_eq_high_of_runsCode {command : String} (hcommand : command ∈ rulesOf grants.commands)
    (hruns : config.runsCode command = true) : config.assess grants = .high := by
  have hle := (config.bounds_assess grants).commands command hcommand
  rw [commandLevel, if_pos hruns] at hle
  exact le_antisymm (RiskLevel.le_high _) hle

end RiskConfig

end PluginSandbox
