import PluginSandbox.Proofs.Grant.Inclusion
import PluginSandbox.Proofs.Risk.Level

/-!
# The level of merged grants

The level of grants depends on which rules there are and on nothing else, and it grows
with the rules and with the patterns that count as broad. For a level bounds merged
grants exactly if it bounds both parts, and a level that bounds grants bounds those
within them, and the same grants by settings with fewer patterns.

## Main statements

* `RiskConfig.bounds_merge_iff`, `RiskConfig.Bounds.mono`, `RiskConfig.Bounds.of_broader`:
  bounds of merged grants, of fewer rules and by fewer patterns.
* `RiskConfig.assess_joins`: the level of merged grants, and what raises a level.
-/

namespace PluginSandbox

namespace RiskLevel

/-- A level that is raised for more reasons is no lower. -/
theorem ite_le_ite {base raised : RiskLevel} (hle : base ≤ raised) {reason other : Bool}
    (h : reason = true → other = true) :
    (if reason then raised else base) ≤ if other then raised else base := by
  by_cases hreason : reason = true
  · rw [if_pos hreason, if_pos (h hreason)]
  · rw [if_neg hreason]
    split
    · exact hle
    · exact le_rfl

end RiskLevel

namespace RiskConfig

variable {config more : RiskConfig} {grants g h : Grants} {level : RiskLevel}

/-! ## Other grants -/

/-- A level that bounds grants bounds those that are within them. -/
theorem Bounds.mono (hbounds : config.Bounds h level) (hwithin : g.Within h) :
    config.Bounds g level where
  commands pattern hpattern := hbounds.commands pattern (hwithin.commands hpattern)
  network rule hrule := hbounds.network rule (hwithin.network hrule)
  reading rule hrule := hbounds.reading rule (hwithin.files hrule)
  writing rule hrule := hbounds.writing rule (hwithin.files hrule)
  environment pattern hpattern := hbounds.environment pattern (hwithin.environment hpattern)
  keys rule hrule := hbounds.keys rule (hwithin.keys hrule)

/-- A level bounds merged grants if it bounds both parts. -/
theorem bounds_merge_iff :
    config.Bounds (g.merge h) level ↔ config.Bounds g level ∧ config.Bounds h level := by
  constructor
  · intro hmerged
    exact ⟨hmerged.mono (Grants.within_merge_left g h),
      hmerged.mono (Grants.within_merge_right g h)⟩
  · rintro ⟨hg, hh⟩
    exact {
      commands := forall_mem_mergeRules hg.commands hh.commands
      network := forall_mem_mergeRules hg.network hh.network
      reading := forall_mem_mergeRules hg.reading hh.reading
      writing := forall_mem_mergeRules hg.writing hh.writing
      environment := forall_mem_mergeRules hg.environment hh.environment
      keys := forall_mem_mergeRules hg.keys hh.keys }

theorem assess_merge (config : RiskConfig) (g h : Grants) :
    config.assess (g.merge h) = (config.assess g).max (config.assess h) := by
  refine eq_of_forall_ge_iff fun level => ?_
  rw [assess_le_iff, bounds_merge_iff, RiskLevel.max_le_iff, assess_le_iff, assess_le_iff]

/-- Grants within others are of no higher level. -/
theorem assess_le_of_within (config : RiskConfig) (hwithin : g.Within h) :
    config.assess g ≤ config.assess h :=
  assess_le_iff.2 ((config.bounds_assess h).mono hwithin)

/-! ## Other settings -/

section Broader

variable (hmore : ∀ category, config.extra category ⊆ more.extra category)
include hmore

theorem isBroad_of_broader {category pattern : String} {builtIn : List String}
    (h : config.isBroad category builtIn pattern = true) :
    more.isBroad category builtIn pattern = true := by
  simp only [isBroad, Bool.or_eq_true, List.contains_iff_mem] at h ⊢
  exact h.imp_right fun hextra => hmore category hextra

theorem isDeepPath_of_broader {access pattern : String}
    (h : config.isDeepPath access pattern = true) : more.isDeepPath access pattern = true := by
  simp only [isDeepPath, isBroadPath, Bool.or_eq_true] at h ⊢
  rcases h with hinfix | hpattern | hprefixed
  · exact Or.inl hinfix
  · exact Or.inr (Or.inl (isBroad_of_broader hmore hpattern))
  · exact Or.inr (Or.inr (isBroad_of_broader hmore hprefixed))

theorem runsCode_of_broader {pattern : String} (h : config.runsCode pattern = true) :
    more.runsCode pattern = true := by
  simp only [runsCode, Bool.or_eq_true] at h ⊢
  exact h.imp_left fun h => h.imp_left fun hbroad => isBroad_of_broader hmore hbroad

/-- By fewer patterns, path patterns are of no higher level. -/
theorem pathLevel_le_of_broader (access pattern : String) :
    config.pathLevel access pattern ≤ more.pathLevel access pattern := by
  rw [pathLevel, pathLevel]
  by_cases hdeep : config.isDeepPath access pattern = true
  · rw [if_pos hdeep, if_pos (isDeepPath_of_broader hmore hdeep)]
  · rw [if_neg hdeep]
    by_cases hbroader : more.isDeepPath access pattern = true
    · rw [if_pos hbroader]
      exact RiskLevel.le_high _
    · rw [if_neg hbroader]

/-- A level that bounds grants by more patterns bounds them by fewer. -/
theorem Bounds.of_broader (hbounds : more.Bounds grants level) : config.Bounds grants level where
  commands pattern hpattern := by
    have hle : config.commandLevel pattern ≤ more.commandLevel pattern :=
      RiskLevel.ite_le_ite (by decide) (runsCode_of_broader hmore)
    exact hle.trans (hbounds.commands pattern hpattern)
  network rule hrule := by
    have hany : rule.hosts.any (config.isBroad "network" broadHosts) = true →
        rule.hosts.any (more.isBroad "network" broadHosts) = true := by
      simp only [List.any_eq_true]
      rintro ⟨host, hhost, hbroad⟩
      exact ⟨host, hhost, isBroad_of_broader hmore hbroad⟩
    have hle : config.connectionLevel rule ≤ more.connectionLevel rule :=
      RiskLevel.ite_le_ite (by decide) hany
    exact hle.trans (hbounds.network rule hrule)
  reading rule hrule pattern hpattern :=
    (pathLevel_le_of_broader hmore "read" pattern).trans
      (hbounds.reading rule hrule pattern hpattern)
  writing rule hrule pattern hpattern :=
    (pathLevel_le_of_broader hmore "write" pattern).trans
      (hbounds.writing rule hrule pattern hpattern)
  environment pattern hpattern := by
    have hle : config.variableLevel pattern ≤ more.variableLevel pattern :=
      RiskLevel.ite_le_ite (by decide) (isBroad_of_broader hmore)
    exact hle.trans (hbounds.environment pattern hpattern)
  keys := hbounds.keys

theorem assess_le_of_broader (grants : Grants) : config.assess grants ≤ more.assess grants :=
  assess_le_iff.2 ((more.bounds_assess grants).of_broader hmore)

end Broader

/-! ## Both -/

/-- **The level joins.** The level of merged grants is the higher one of the levels of the parts.
Grants that others contain are of no higher level than those, and grants with the same rules, in
whatever order and however often each is listed, are of the same level. Settings with at least the
same additional patterns in every category never find a lower level. -/
theorem assess_joins (config : RiskConfig) :
    (∀ g h : Grants, config.assess (g.merge h) = (config.assess g).max (config.assess h)) ∧
    (∀ g h : Grants, h.contains g = true → config.assess g ≤ config.assess h) ∧
    (∀ g h : Grants, g.Within h → h.Within g → config.assess g = config.assess h) ∧
    ∀ more : RiskConfig, (∀ category, config.extra category ⊆ more.extra category) →
      ∀ grants, config.assess grants ≤ more.assess grants := by
  refine ⟨assess_merge config, ?_, ?_, ?_⟩
  · intro g h hcontains
    exact assess_le_of_within config (Grants.contains_iff_within.1 hcontains)
  · intro g h hgh hhg
    exact le_antisymm (assess_le_of_within config hgh) (assess_le_of_within config hhg)
  · intro more hmore grants
    exact assess_le_of_broader hmore grants

/-- Files and commands in another order and twice, and a command that is broad by one of two
additional patterns only. -/
theorem assess_joins_reordered :
    let g : Grants := { files := some [⟨["/data/a"], []⟩, ⟨[], ["/data/b"]⟩],
                        commands := some ["docker run"] }
    let h : Grants := { files := some [⟨[], ["/data/b"]⟩, ⟨["/data/a"], []⟩, ⟨[], ["/data/b"]⟩],
                        commands := some ["docker run", "docker run"], keys := some [] }
    let config : RiskConfig := ⟨[("exec", ["kubectl"])]⟩
    let more : RiskConfig := ⟨[("network", ["*.com"]), ("exec", ["docker run", "kubectl"])]⟩
    config.assess g = config.assess h ∧ config.assess g ≤ config.assess (g.allowRead ["/**"]) ∧
      config.assess g ≤ more.assess g ∧ config.assess g = .medium ∧
      more.assess (g.merge h) = .high := by
  intro g h config more
  obtain ⟨-, hcontained, hsame, hbroader⟩ := assess_joins config
  obtain ⟨hjoin, -⟩ := assess_joins more
  have hgh : g.Within h := Grants.contains_iff_within.1 (by decide)
  have hhg : h.Within g := Grants.contains_iff_within.1 (by decide)
  have hextra : ∀ category, config.extra category ⊆ more.extra category := by
    intro category
    by_cases hexec : category = "exec"
    · subst hexec
      decide
    · have hnone : config.extra category = [] := by
        simp [extra, config, List.lookup_cons, beq_eq_false_iff_ne.2 hexec]
      rw [hnone]
      exact List.nil_subset _
  have hcontains : (g.allowRead ["/**"]).contains g = true := by decide
  refine ⟨hsame g h hgh hhg, hcontained g _ hcontains, hbroader more hextra g, by decide +kernel,
    ?_⟩
  rw [hjoin]
  decide +kernel

end RiskConfig

end PluginSandbox
