import PluginSandbox.Guard.Config
import PluginSandbox.Risk.Config

/-!
# Settings of the host

The settings of a host that runs plugins, with their defaults.

## Main definitions

* `HostConfig`: all settings.
* `LogFormat`, `LogConfig`: the settings of the log.
-/

namespace PluginSandbox

/-- How log lines are written. -/
inductive LogFormat where
  | plain
  | json
  deriving DecidableEq

/-- The name of a format in data. -/
def LogFormat.code : LogFormat → String
  | plain => "plain"
  | json => "json"

/-- The settings of the log. -/
structure LogConfig where
  /-- The filter of log lines. -/
  level : String := "info"
  format : LogFormat := .plain
  deriving DecidableEq

/-- The budget of memory that guest and host share, unless another is set: 100 MiB. -/
def defaultBudget : UInt64 := 104857600

/-- All settings of a host. -/
structure HostConfig where
  network : GuardConfig := {}
  risk : RiskConfig := {}
  /-- The budget of memory that guest and host share, in bytes. -/
  memoryBudget : UInt64 := defaultBudget
  log : LogConfig := {}
  deriving DecidableEq

namespace HostConfig

/-- How long the resolution of one name may take, in whole seconds. -/
def lookupTimeoutSeconds (config : HostConfig) : Nat := config.network.lookupTimeoutMs.toNat / 1000

end HostConfig

end PluginSandbox
