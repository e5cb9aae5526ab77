/-!
# Settings of the risk assessment

Patterns that count as broad in addition to the built-in ones, by category.

## Main definitions

* `RiskConfig`: the additional patterns.
* `RiskConfig.withPatterns`: patterns added to a category.
* `RiskConfig.extra`: the additional patterns of a category.
-/

namespace PluginSandbox

/-- Additional broad patterns by the name of a category; each name occurs once. -/
structure RiskConfig where
  extraPatterns : List (String × List String) := []
  deriving DecidableEq

namespace RiskConfig

/-- Patterns put at the end of those of a category. -/
def addTo (category : String) (patterns : List String) :
    List (String × List String) → List (String × List String)
  | [] => [(category, patterns)]
  | (c, ps) :: rest =>
    if c = category then (c, ps ++ patterns) :: rest else (c, ps) :: addTo category patterns rest

/-- The settings with patterns added to a category. -/
def withPatterns (config : RiskConfig) (category : String) (patterns : List String) : RiskConfig :=
  ⟨addTo category patterns config.extraPatterns⟩

/-- The additional patterns of a category. -/
def extra (config : RiskConfig) (category : String) : List String :=
  (config.extraPatterns.lookup category).getD []

end RiskConfig

end PluginSandbox
