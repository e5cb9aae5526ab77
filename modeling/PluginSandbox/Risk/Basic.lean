import PluginSandbox.Command
import PluginSandbox.Grant.Basic
import PluginSandbox.Risk.Config

/-!
# The risk of grants

A coarse level for what a plugin may do, and the reasons behind it, from the
patterns of its grants as they are written. The level is the largest over the
categories; the reasons are found by a pass of their own.

## Main definitions

* `RiskLevel`: low, medium or high.
* `RiskConfig.assess`: the level of grants.
* `RiskConfig.describe`: the reasons.
-/

namespace PluginSandbox

open Text

/-- How dangerous grants are. -/
inductive RiskLevel where
  | low
  | medium
  | high
  deriving DecidableEq

namespace RiskLevel

/-- The place of a level in their order. -/
def rank : RiskLevel → Nat
  | low => 0
  | medium => 1
  | high => 2

/-- The higher of two levels. -/
def max (a b : RiskLevel) : RiskLevel := if a.rank ≤ b.rank then b else a

/-- The name of a level. -/
def name : RiskLevel → String
  | low => "low"
  | medium => "medium"
  | high => "high"

end RiskLevel

/-- Command patterns that are broad. -/
def broadCommands : List String := ["*", "**"]

/-- Host patterns that are broad. -/
def broadHosts : List String := ["*"]

/-- Path patterns that are broad, some only for one access. -/
def broadPaths : List String := ["/**", "/", "read:/etc/**", "write:/**"]

/-- Patterns of environment variables that are broad. -/
def broadVariables : List String := ["*", "AWS_*", "AZURE_*", "GCP_*"]

/-- What is said about grants. -/
inductive RiskNote where
  | runsCommands
  | anyHost
  | someHosts
  | readsDeeply
  | writesDeeply
  | writesFiles
  | allVariables
  | writesKeys
  deriving DecidableEq

/-- The text of a note. -/
def RiskNote.message : RiskNote → String
  | runsCommands => "Executes external commands (High Risk)"
  | anyHost => "Accesses any network host (High Risk)"
  | someHosts => "Accesses specific network hosts"
  | readsDeeply => "Recursive read access to filesystem (High Risk)"
  | writesDeeply => "Recursive write access to filesystem (High Risk)"
  | writesFiles => "Write access to filesystem"
  | allVariables => "Accesses all environment variables (High Risk)"
  | writesKeys => "Write access to Key-Value store"

namespace RiskConfig

variable (config : RiskConfig)

/-- A pattern is broad, by the built-in list or by the settings. -/
def isBroad (category : String) (builtIn : List String) (pattern : String) : Bool :=
  builtIn.contains pattern || (config.extra category).contains pattern

/-- A path pattern is broad, by itself or with the access in front. -/
def isBroadPath (access pattern : String) : Bool :=
  config.isBroad "filesystem" broadPaths pattern ||
    config.isBroad "filesystem" broadPaths s!"{access}:{pattern}"

/-- A path pattern reaches into directories below, or is broad. -/
def isDeepPath (access pattern : String) : Bool :=
  hasInfix ['*', '*'] pattern.toList || config.isBroadPath access pattern

/-- A command pattern lets code run. -/
def runsCode (pattern : String) : Bool :=
  let name := baseName (firstWord pattern.toList)
  config.isBroad "exec" broadCommands pattern || isShell name || isInterpreter name

/-- The level of commands. -/
def commandRisk (grants : Grants) : RiskLevel :=
  match rulesOf grants.commands with
  | [] => .low
  | commands => if commands.any config.runsCode then .high else .medium

/-- Some host pattern of the rules is broad. -/
def reachesAnyHost (rules : List NetworkRule) : Bool :=
  (rules.flatMap fun rule => rule.hosts).any (config.isBroad "network" broadHosts)

/-- The level of connections. -/
def networkRisk (grants : Grants) : RiskLevel :=
  match rulesOf grants.network with
  | [] => .low
  | rules => if config.reachesAnyHost rules then .high else .medium

/-- The level of file patterns, each with its access, given that of the patterns before. -/
def pathRisk (level : RiskLevel) : List (String × String) → RiskLevel
  | [] => level
  | (access, pattern) :: more =>
    if config.isDeepPath access pattern then .high
    else if access = "write" ∨ "/etc/".toList.isPrefixOf pattern.toList then pathRisk .medium more
    else pathRisk level more

/-- The patterns of files to read. -/
def readPatterns (rules : List FileRule) : List String := rules.flatMap fun rule => rule.read

/-- The patterns of files to write. -/
def writePatterns (rules : List FileRule) : List String := rules.flatMap fun rule => rule.write

/-- The level of files. -/
def fileRisk (grants : Grants) : RiskLevel :=
  let rules := rulesOf grants.files
  config.pathRisk .low ((readPatterns rules).map (Prod.mk "read") ++
    (writePatterns rules).map (Prod.mk "write"))

/-- The level of environment variables. -/
def environmentRisk (grants : Grants) : RiskLevel :=
  if (rulesOf grants.environment).any (config.isBroad "environment" broadVariables) then .high
  else .low

/-- The level of the key-value store. -/
def keyRisk (grants : Grants) : RiskLevel :=
  if (rulesOf grants.keys).any fun rule => rule.access.isWrite then .medium else .low

/-- The level of grants: the largest over the categories. -/
def assess (grants : Grants) : RiskLevel :=
  [config.commandRisk grants, config.networkRisk grants, config.fileRisk grants,
    config.environmentRisk grants, keyRisk grants].foldl .max .low

/-- A note that is made under a condition. -/
def noteIf (condition : Bool) (note : RiskNote) : List RiskNote := if condition then [note] else []

/-- The notes about connections. -/
def networkNotes (grants : Grants) : List RiskNote :=
  match rulesOf grants.network with
  | [] => []
  | rules => if config.reachesAnyHost rules then [.anyHost] else [.someHosts]

/-- What is to be said about grants, in the order of the categories. -/
def notes (grants : Grants) : List RiskNote :=
  let files := rulesOf grants.files
  noteIf (!(rulesOf grants.commands).isEmpty) .runsCommands ++
    config.networkNotes grants ++
    noteIf ((readPatterns files).any (config.isDeepPath "read")) .readsDeeply ++
    noteIf ((writePatterns files).any (config.isDeepPath "write")) .writesDeeply ++
    noteIf (files.any fun rule => !rule.write.isEmpty) .writesFiles ++
    noteIf ((rulesOf grants.environment).contains "*") .allVariables ++
    noteIf (keyRisk grants != .low) .writesKeys

/-- The reasons behind the level of grants. -/
def describe (grants : Grants) : List String := (config.notes grants).map RiskNote.message

end RiskConfig

end PluginSandbox
