import PluginSandbox.Proofs.Command.Arguments
import PluginSandbox.Proofs.Risk.Note
import PluginSandbox.Proofs.Text.Blank

/-!
# The level of commands and their screening

The level of a command is found when it is granted, from the first word of the pattern, and
an invocation is screened when it is made, by the command as a whole and its arguments. For
a command of one word both look at the same name, so the level is the high one exactly if
some arguments make screening speak of a shell or of an interpreter. Patterns that are broad
are of the high level as well; by the built-in patterns only those for every command are.

## Main definitions

* `IsOneWord`: a command with blanks around it only.
* `Grants.HasOnlyCommand`: grants of a single command.

## Main statements

* `RiskConfig.runsCode_iff`: what makes a command of one word raise the level.
* `RiskConfig.risk_matches_screening`: the level against screening.
-/

namespace PluginSandbox

open Text

/-- There are no blanks in the command but those around it. -/
def IsOneWord (command : String) : Prop := ∀ c ∈ trim command.toList, isBlank c = false

-- Core's instance by name: that of a finite type would go through all characters there are.
instance (command : String) : Decidable (IsOneWord command) :=
  List.decidableBAll (fun c => isBlank c = false) (trim command.toList)

/-- Nothing is granted but one command. -/
structure Grants.HasOnlyCommand (grants : Grants) (command : String) : Prop where
  commands : rulesOf grants.commands = [command]
  network : rulesOf grants.network = []
  files : rulesOf grants.files = []
  environment : rulesOf grants.environment = []
  keys : rulesOf grants.keys = []

variable {command : String}

/-- The name of a command of one word is that of its first word. -/
theorem IsOneWord.baseName_firstWord (hword : IsOneWord command) :
    baseName (firstWord command.toList) = baseName command.toList := by
  rw [firstWord_eq_trim hword, baseName, baseName, trim_eq_self hword]

namespace RiskConfig

variable {config : RiskConfig} {grants : Grants}

/-- A command of one word raises the level if it is broad or can be told to run code. -/
theorem runsCode_iff (hword : IsOneWord command) : config.runsCode command = true ↔
    config.isBroad "exec" broadCommands command = true ∨ CanRunCode command := by
  rw [canRunCode_iff, runsCode, hword.baseName_firstWord, Bool.or_eq_true, Bool.or_eq_true,
    or_assoc]

/-- Grants of a single command are of a high level exactly if the command raises it. -/
theorem assess_eq_high_iff_of_only (honly : grants.HasOnlyCommand command) :
    config.assess grants = .high ↔ config.runsCode command = true := by
  constructor
  · intro hhigh
    by_contra hruns
    have hlevel : config.commandLevel command = .medium := if_neg hruns
    have hbounds : config.Bounds grants .medium :=
      { commands := by simp [honly.commands, hlevel]
        network := by simp [honly.network]
        reading := by simp [honly.files]
        writing := by simp [honly.files]
        environment := by simp [honly.environment]
        keys := by simp [honly.keys] }
    exact RiskLevel.eq_high_iff.1 hhigh (assess_le_iff.2 hbounds)
  · intro hruns
    have hcommand : command ∈ rulesOf grants.commands := by simp [honly.commands]
    exact assess_eq_high_of_runsCode hcommand hruns

/-- By the built-in patterns, only those for every command are broad. -/
theorem isBroad_default (hstar : command ≠ "*") (hstars : command ≠ "**") :
    isBroad {} "exec" broadCommands command = false := by
  simp [isBroad, broadCommands, extra, hstar, hstars]

/-- **The level matches screening.** For a command of one word that is not a pattern for every
command: by the built-in patterns, grants of nothing else are of a high level exactly if there are
arguments for which screening speaks of a shell or of an interpreter; and if there are, then grants
with this command among their rules are of a high level whatever patterns are configured. -/
theorem risk_matches_screening (hword : IsOneWord command) (hstar : command ≠ "*")
    (hstars : command ≠ "**") :
    (∀ grants : Grants, grants.HasOnlyCommand command →
      (assess {} grants = .high ↔
        ∃ args, classify command args = .shell ∨ classify command args = .interpreter)) ∧
    ∀ (config : RiskConfig) (grants : Grants), command ∈ rulesOf grants.commands →
      (∃ args, classify command args = .shell ∨ classify command args = .interpreter) →
      config.assess grants = .high := by
  refine ⟨?_, ?_⟩
  · intro grants honly
    rw [assess_eq_high_iff_of_only honly, runsCode_iff hword, isBroad_default hstar hstars]
    exact or_iff_right Bool.false_ne_true
  · intro config grants hcommand hflagged
    exact assess_eq_high_of_runsCode hcommand ((runsCode_iff hword).2 (Or.inr hflagged))

/-- An interpreter with a version, an extension and blanks around it, which is of a high level in a
category of its own and among other rules; and a shell with a version, which no arguments give
away. -/
theorem risk_matches_screening_versions :
    let python := "\t/opt/Python3.12.EXE "
    let shell := "/bin/zsh5.9"
    assess {} { commands := some [python], network := some [] } = .high ∧
      assess ⟨[("exec", ["git"])]⟩ { commands := some ["ls", python], keys := some [] } = .high ∧
      ¬∃ args, classify shell args = .shell ∨ classify shell args = .interpreter := by
  intro python shell
  obtain ⟨halone, hlisted⟩ := @risk_matches_screening python (by decide +kernel) (by decide)
    (by decide)
  obtain ⟨hversion, -⟩ := @risk_matches_screening shell (by decide +kernel) (by decide) (by decide)
  have hflagged : ∃ args, classify python args = .shell ∨ classify python args = .interpreter :=
    ⟨["-cimport os"], Or.inr (by decide +kernel)⟩
  refine ⟨(halone _ ⟨rfl, rfl, rfl, rfl, rfl⟩).2 hflagged, hlisted _ _ (by decide) hflagged, ?_⟩
  intro hshell
  have hhigh := (hversion { commands := some [shell] } ⟨rfl, rfl, rfl, rfl, rfl⟩).2 hshell
  exact absurd hhigh (by decide +kernel)

end RiskConfig

end PluginSandbox
