import PluginSandbox.Proofs.Risk.Level

/-!
# The notes about grants

The level and the notes are found by two passes over the rules. Whatever calls for a note
raises the level, so grants of a low level have no notes, and a note that speaks of a high
risk stands for a high level, unless it is the one about commands, which is made about any
command. The notes do not say as much as the level does: a broad variable other than the
pattern for all of them and a file to read below `/etc/` raise the level without a note.

## Main definitions

* `RiskNote.level`: the least level of the grants that a note is made about.
* `RiskConfig.Calls`: what in the grants calls for a note.
* `RiskConfig.Unexplained`: grants without notes whose level is raised all the same.

## Main statements

* `RiskConfig.mem_notes_iff`: the notes are those that are called for.
* `RiskConfig.level_le_assess`: grants are at least of the level of each note.
* `RiskConfig.describe_not_overstated`: what the level says about the notes.
* `RiskConfig.describe_explains_iff`: which raised levels are explained.
-/

namespace PluginSandbox

/-- The level that speaks from a note. -/
def RiskNote.level : RiskNote → RiskLevel
  | anyHost | readsDeeply | writesDeeply | allVariables => .high
  | runsCommands | someHosts | writesFiles | writesKeys => .medium

theorem RiskLevel.eq_high_iff {level : RiskLevel} : level = .high ↔ ¬level ≤ .medium := by
  cases level <;> decide

/-- What bounds one of the two upper levels bounds the lower of them. -/
theorem RiskLevel.medium_le_of_ite_le {raised : Bool} {level : RiskLevel}
    (h : (if raised then RiskLevel.high else .medium) ≤ level) : .medium ≤ level := by
  refine le_trans ?_ h
  cases raised <;> decide

theorem RiskNote.medium_le_level (note : RiskNote) : .medium ≤ note.level := by
  cases note <;> decide

/-- The texts speak of a high risk where the level is high, and about commands. -/
theorem RiskNote.level_eq_high {note : RiskNote}
    (htext : "(High Risk)".toList <:+: note.message.toList) (hnote : note ≠ runsCommands) :
    note.level = .high := by
  revert htext hnote
  cases note <;> decide +kernel

namespace RiskConfig

variable {config : RiskConfig} {grants : Grants} {note : RiskNote}

/-! ## Notes that are called for -/

/-- What in the grants calls for a note. -/
def Calls (config : RiskConfig) (grants : Grants) : RiskNote → Prop
  | .runsCommands => rulesOf grants.commands ≠ []
  | .anyHost => ∃ rule ∈ rulesOf grants.network, ∃ host ∈ rule.hosts,
      config.isBroad "network" broadHosts host = true
  | .someHosts => rulesOf grants.network ≠ [] ∧ ¬∃ rule ∈ rulesOf grants.network,
      ∃ host ∈ rule.hosts, config.isBroad "network" broadHosts host = true
  | .readsDeeply => ∃ rule ∈ rulesOf grants.files, ∃ pattern ∈ rule.read,
      config.isDeepPath "read" pattern = true
  | .writesDeeply => ∃ rule ∈ rulesOf grants.files, ∃ pattern ∈ rule.write,
      config.isDeepPath "write" pattern = true
  | .writesFiles => ∃ rule ∈ rulesOf grants.files, rule.write ≠ []
  | .allVariables => "*" ∈ rulesOf grants.environment
  | .writesKeys => ∃ rule ∈ rulesOf grants.keys, rule.access.isWrite = true

theorem mem_noteIf_iff {condition : Bool} {made : RiskNote} :
    note ∈ noteIf condition made ↔ condition = true ∧ note = made := by
  cases condition <;> simp [noteIf]

theorem reachesAnyHost_iff {rules : List NetworkRule} : config.reachesAnyHost rules = true ↔
    ∃ rule ∈ rules, ∃ host ∈ rule.hosts, config.isBroad "network" broadHosts host = true := by
  simp only [reachesAnyHost, List.any_flatMap, List.any_eq_true]

theorem mem_networkNotes_iff : note ∈ config.networkNotes grants ↔
    (config.Calls grants .anyHost ∧ note = .anyHost) ∨
      (config.Calls grants .someHosts ∧ note = .someHosts) := by
  rw [networkNotes, Calls, Calls, ← reachesAnyHost_iff]
  cases rulesOf grants.network with
  | nil => simp [reachesAnyHost]
  | cons rule rules =>
    by_cases hany : config.reachesAnyHost (rule :: rules) = true <;> simp [hany]

theorem keyRisk_ne_low_iff :
    keyRisk grants ≠ .low ↔ ∃ rule ∈ rulesOf grants.keys, rule.access.isWrite = true := by
  rw [keyRisk, ← List.any_eq_true]
  split <;> simp_all

/-- The notes that are made are those that are called for. -/
theorem mem_notes_iff : note ∈ config.notes grants ↔ config.Calls grants note := by
  simp only [notes, List.mem_append, mem_noteIf_iff, mem_networkNotes_iff, readPatterns,
    writePatterns, List.any_flatMap, List.any_eq_true, bne_iff_ne, keyRisk_ne_low_iff]
  cases note <;> simp [Calls]

theorem describe_eq_nil_iff :
    config.describe grants = [] ↔ ∀ note, ¬config.Calls grants note := by
  rw [describe, List.map_eq_nil_iff, List.eq_nil_iff_forall_not_mem]
  simp only [mem_notes_iff]

/-! ## Levels of notes -/

/-- Grants are at least of the level of each note about them. -/
theorem level_le_assess (hcalls : config.Calls grants note) :
    note.level ≤ config.assess grants := by
  have hbounds := config.bounds_assess grants
  cases note with
  | runsCommands =>
    obtain ⟨pattern, hpattern⟩ := List.exists_mem_of_ne_nil _ hcalls
    exact RiskLevel.medium_le_of_ite_le (hbounds.commands pattern hpattern)
  | anyHost =>
    obtain ⟨rule, hrule, host, hhost, hbroad⟩ := hcalls
    exact (assess_eq_high_of_isBroad hrule hhost hbroad).ge
  | someHosts =>
    obtain ⟨rule, hrule⟩ := List.exists_mem_of_ne_nil _ hcalls.1
    exact RiskLevel.medium_le_of_ite_le (hbounds.network rule hrule)
  | readsDeeply =>
    obtain ⟨rule, hrule, pattern, hpattern, hdeep⟩ := hcalls
    have hle := hbounds.reading rule hrule pattern hpattern
    rwa [pathLevel, if_pos hdeep] at hle
  | writesDeeply =>
    obtain ⟨rule, hrule, pattern, hpattern, hdeep⟩ := hcalls
    have hle := hbounds.writing rule hrule pattern hpattern
    rwa [pathLevel, if_pos hdeep] at hle
  | writesFiles =>
    obtain ⟨rule, hrule, hwrite⟩ := hcalls
    obtain ⟨pattern, hpattern⟩ := List.exists_mem_of_ne_nil _ hwrite
    have hle := hbounds.writing rule hrule pattern hpattern
    rw [pathLevel, if_pos (Or.inl rfl)] at hle
    exact RiskLevel.medium_le_of_ite_le hle
  | allVariables =>
    have hle := hbounds.environment "*" hcalls
    have hbroad : config.isBroad "environment" broadVariables "*" = true := by
      rw [isBroad, Bool.or_eq_true]
      exact Or.inl (by decide)
    rwa [variableLevel, if_pos hbroad] at hle
  | writesKeys =>
    obtain ⟨rule, hrule, hwrite⟩ := hcalls
    have hle := hbounds.keys rule hrule
    rwa [keyLevel, if_pos hwrite] at hle

theorem describe_eq_nil_of_assess_eq_low (hlow : config.assess grants = .low) :
    config.describe grants = [] := by
  rw [describe_eq_nil_iff]
  intro note hcalls
  have hle := note.medium_le_level.trans (level_le_assess hcalls)
  rw [hlow] at hle
  exact absurd hle (by decide)

/-- **The notes do not overstate.** Whatever additional patterns are configured, there is nothing to
say about grants of a low level; and if a line speaks of a high risk, and is not the one about
commands, the grants are of a high level. -/
theorem describe_not_overstated (config : RiskConfig) (grants : Grants) :
    (config.assess grants = .low → config.describe grants = []) ∧
    ∀ line ∈ config.describe grants, "(High Risk)".toList <:+: line.toList →
      line ≠ "Executes external commands (High Risk)" → config.assess grants = .high := by
  refine ⟨describe_eq_nil_of_assess_eq_low, ?_⟩
  intro line hline htext hother
  obtain ⟨note, hnote, rfl⟩ := List.mem_map.1 hline
  have hne : note ≠ .runsCommands := by
    rintro rfl
    exact hother rfl
  have hle := level_le_assess (mem_notes_iff.1 hnote)
  rw [RiskNote.level_eq_high htext hne] at hle
  exact le_antisymm (RiskLevel.le_high _) hle

/-- Grants of a low level with categories and rules that are empty, and a file to write that is
broad by an additional pattern for this access, beside a command. -/
theorem describe_not_overstated_by_access :
    let sparse : Grants := { network := some [], files := some [⟨["/srv/etc/hosts"], []⟩, ⟨[], []⟩],
                             environment := some ["HOME"], keys := some [⟨["*"], .read⟩] }
    let broad : Grants := { commands := some ["git"], files := some [⟨[], ["/srv"]⟩] }
    let config : RiskConfig := ⟨[("filesystem", ["write:/srv"])]⟩
    config.assess sparse = .low ∧ config.describe sparse = [] ∧
      "Recursive write access to filesystem (High Risk)" ∈ config.describe broad ∧
      config.assess broad = .high := by
  intro sparse broad config
  obtain ⟨hempty, -⟩ := describe_not_overstated config sparse
  obtain ⟨-, hhigh⟩ := describe_not_overstated config broad
  have hlow : config.assess sparse = .low := by decide +kernel
  have hline : "Recursive write access to filesystem (High Risk)" ∈ config.describe broad := by
    decide +kernel
  exact ⟨hlow, hempty hlow, hline, hhigh _ hline (by decide +kernel) (by decide)⟩

/-! ## Levels without notes -/

/-- Without notes, the level comes from files to read below `/etc/` and from broad variables. -/
theorem assess_le_iff_of_unnoted (hnone : ∀ note, ¬config.Calls grants note) {level : RiskLevel} :
    config.assess grants ≤ level ↔
      (∀ rule ∈ rulesOf grants.files, ∀ pattern ∈ rule.read,
        "/etc/".toList <+: pattern.toList → .medium ≤ level) ∧
      ∀ pattern ∈ rulesOf grants.environment,
        config.isBroad "environment" broadVariables pattern = true → .high ≤ level := by
  have hread : ∀ rule ∈ rulesOf grants.files, ∀ pattern ∈ rule.read,
      config.pathLevel "read" pattern =
        if "/etc/".toList <+: pattern.toList then .medium else .low := by
    intro rule hrule pattern hpattern
    have hdeep : ¬config.isDeepPath "read" pattern = true := fun hdeep =>
      hnone .readsDeeply ⟨rule, hrule, pattern, hpattern, hdeep⟩
    rw [pathLevel, if_neg hdeep]
    simp
  rw [assess_le_iff]
  constructor
  · intro hbounds
    refine ⟨fun rule hrule pattern hpattern hetc => ?_, fun pattern hpattern hbroad => ?_⟩
    · have hle := hbounds.reading rule hrule pattern hpattern
      rwa [hread rule hrule pattern hpattern, if_pos hetc] at hle
    · have hle := hbounds.environment pattern hpattern
      rwa [variableLevel, if_pos hbroad] at hle
  · rintro ⟨hreads, hvariables⟩
    have hcommands : rulesOf grants.commands = [] := not_not.1 (hnone .runsCommands)
    have hnetwork : rulesOf grants.network = [] := by
      by_contra hne
      exact hnone .someHosts ⟨hne, hnone .anyHost⟩
    refine ⟨?_, ?_, ?_, ?_, ?_, ?_⟩
    · simp [hcommands]
    · simp [hnetwork]
    · intro rule hrule pattern hpattern
      rw [hread rule hrule pattern hpattern]
      split
      · exact hreads rule hrule pattern hpattern ‹_›
      · exact RiskLevel.low_le level
    · intro rule hrule pattern hpattern
      exact absurd ⟨rule, hrule, List.ne_nil_of_mem hpattern⟩ (hnone .writesFiles)
    · intro pattern hpattern
      rw [variableLevel]
      split
      · exact hvariables pattern hpattern ‹_›
      · exact RiskLevel.low_le level
    · intro rule hrule
      rw [keyLevel, if_neg fun hwrite => hnone .writesKeys ⟨rule, hrule, hwrite⟩]
      exact RiskLevel.low_le level

/-- Grants about which there is nothing to say although their level is raised. -/
structure Unexplained (config : RiskConfig) (grants : Grants) : Prop where
  unnoted : ∀ note, ¬config.Calls grants note
  /-- A variable is broad, or a file to read is below `/etc/`. -/
  cause : (∃ pattern ∈ rulesOf grants.environment,
      config.isBroad "environment" broadVariables pattern = true) ∨
    ∃ rule ∈ rulesOf grants.files, ∃ pattern ∈ rule.read, "/etc/".toList <+: pattern.toList

theorem Unexplained.assess_ne_low (hunexplained : config.Unexplained grants) :
    config.assess grants ≠ .low := by
  intro hlow
  obtain ⟨hreads, hvariables⟩ := (assess_le_iff_of_unnoted hunexplained.unnoted).1 hlow.le
  rcases hunexplained.cause with ⟨pattern, hpattern, hbroad⟩ |
    ⟨rule, hrule, pattern, hpattern, hetc⟩
  · exact absurd (hvariables pattern hpattern hbroad) (by decide)
  · exact absurd (hreads rule hrule pattern hpattern hetc) (by decide)

/-- **Which raised levels are explained.** Whatever additional patterns are configured: if the level
of grants is above the low one there is something to say about them, unless they are unexplained;
and the level of unexplained grants is the high one exactly if a variable is broad. -/
theorem describe_explains_iff (config : RiskConfig) (grants : Grants) :
    ((config.assess grants ≠ .low → config.describe grants ≠ []) ↔ ¬config.Unexplained grants) ∧
    (config.Unexplained grants → (config.assess grants = .high ↔
      ∃ pattern ∈ rulesOf grants.environment,
        config.isBroad "environment" broadVariables pattern = true)) := by
  refine ⟨⟨?_, ?_⟩, ?_⟩
  · intro hexplained hunexplained
    exact hexplained hunexplained.assess_ne_low (describe_eq_nil_iff.2 hunexplained.unnoted)
  · intro hnot hraised hempty
    have hnone := describe_eq_nil_iff.1 hempty
    have hle : config.assess grants ≤ .low := by
      rw [assess_le_iff_of_unnoted hnone]
      refine ⟨fun rule hrule pattern hpattern hetc => ?_, fun pattern hpattern hbroad => ?_⟩
      · exact absurd ⟨hnone, Or.inr ⟨rule, hrule, pattern, hpattern, hetc⟩⟩ hnot
      · exact absurd ⟨hnone, Or.inl ⟨pattern, hpattern, hbroad⟩⟩ hnot
    exact hraised (le_antisymm hle (RiskLevel.low_le _))
  · intro hunexplained
    rw [RiskLevel.eq_high_iff, assess_le_iff_of_unnoted hunexplained.unnoted]
    constructor
    · intro hnot
      by_contra hnone
      refine hnot ⟨fun _ _ _ _ _ => le_rfl, fun pattern hpattern hbroad => ?_⟩
      exact absurd ⟨pattern, hpattern, hbroad⟩ hnone
    · rintro ⟨pattern, hpattern, hbroad⟩ ⟨-, hvariables⟩
      exact absurd (hvariables pattern hpattern hbroad) (by decide)

/-- A file to read below `/etc/` beside a variable that is broad by an additional pattern, and
the same with the pattern for all variables. -/
theorem describe_explains_iff_additional :
    let silent : Grants := { environment := some ["HOME"], files := some [⟨["/etc/hosts"], []⟩] }
    let noted := silent.allowEnvironment ["*"]
    let config : RiskConfig := ⟨[("environment", ["HOME"])]⟩
    (config.Unexplained silent ∧ config.assess silent = .high) ∧
      config.assess noted ≠ .low ∧ config.describe noted ≠ [] := by
  intro silent noted config
  have hbroad : ∃ pattern ∈ rulesOf silent.environment,
      config.isBroad "environment" broadVariables pattern = true := by decide +kernel
  have hunexplained : config.Unexplained silent := by
    refine ⟨describe_eq_nil_iff.1 ?_, Or.inl hbroad⟩
    decide +kernel
  have hraised : config.assess noted ≠ .low := by decide +kernel
  have hall : "*" ∈ rulesOf noted.environment := by decide
  refine ⟨⟨hunexplained, ?_⟩, hraised, ?_⟩
  · exact ((describe_explains_iff config silent).2 hunexplained).2 hbroad
  · exact (describe_explains_iff config noted).1.2 (fun h => h.unnoted .allVariables hall) hraised

/-- A high level for the variables of a provider, and a medium level for a file below `/etc/`, by
the built-in patterns alone, with nothing to say about either. -/
theorem raised_levels_without_notes :
    let keys : Grants := { environment := some ["AWS_*"] }
    let hosts : Grants := { files := some [⟨["/etc/hosts"], []⟩] }
    (assess {} keys = .high ∧ describe {} keys = []) ∧
      assess {} hosts = .medium ∧ describe {} hosts = [] := by
  decide +kernel

end RiskConfig

end PluginSandbox
