import PluginSandbox.Config.Variable
import PluginSandbox.Config.Wrapped
import PluginSandbox.Toml.Document

/-!
# Loading the settings of a host

The settings come in three layers: the defaults, a file, and environment
variables. The layers are joined as trees, so what one layer covers in another
need not have the right type; the joined tree must hold settings, and those of
the network guard must be usable.

## Main definitions

* `HostConfig.layered`: the joined tree.
* `HostConfig.load`: the settings, or why there are none.
* `LoadError`: why there are no settings.
-/

namespace PluginSandbox

/-- Why there are no settings. -/
inductive LoadError where
  /-- The file is not TOML, or the layers together do not hold settings. -/
  | malformed
  /-- The settings of the network guard cannot be used. -/
  | invalid (refusal : Refusal)
  deriving DecidableEq

/-- The message about settings; malformed ones have none of their own. -/
def LoadError.message : LoadError → Option String
  | malformed => none
  | invalid refusal => some ("invalid configuration: " ++ refusal.message)

namespace HostConfig

/-- The tree of a file, with its values unwrapped; without a file it is empty. -/
def fileLayer : (text : Option String) → Option Data
  | none => some (.table [])
  | some text => (Toml.read text).bind Setting.unwrapSections

/-- The defaults with the settings of a file and then those of variables laid over them. -/
def layered (file : Data) (env : List (String × String)) : Data :=
  ((toData {}).overlay file).overlay (Setting.tree env)

/-- The settings that a file, of which the text is given if there is one, and environment
variables make. -/
def load (file : Option String) (env : List (String × String)) :
    Except LoadError HostConfig :=
  match (fileLayer file).bind fun tree => ofData .layered (layered tree env) with
  | none => .error .malformed
  | some config =>
    match config.network.check with
    | .ok _ => .ok config
    | .error refusal => .error (.invalid refusal)

end HostConfig

end PluginSandbox
