import PluginSandbox.Config.Basic
import PluginSandbox.Data.Record

/-!
# Settings as data

Every setting may be missing and then has its default. The settings of the
host are closed: a section of an unknown name is an error.

## Main definitions

* `GuardConfig.ofData`, `RiskConfig.ofData`, `HostConfig.ofData`: reading.
* `GuardConfig.toData`, `RiskConfig.toData`, `HostConfig.toData`: writing.
-/

namespace PluginSandbox

namespace GuardConfig

/-- The names of the settings in data. -/
def fieldNames : List String :=
  ["resolve_dns", "dns_timeout_ms", "block_loopback", "block_private", "block_link_local",
    "block_multicast", "block_unspecified", "host_allow_list", "host_block_list",
    "port_allow_list", "port_block_list"]

/-- The settings that a tree holds. -/
def ofData (dialect : Dialect) (d : Data) : Option GuardConfig := do
  let record ← readRecord dialect false fieldNames d
  match record.values with
  | [resolve, timeout, loopback, priv, link, multicast, unspecified, allow, block, ports,
      noPorts] =>
    some {
      resolveNames := ← defaulted readBool true resolve
      lookupTimeoutMs := ← defaulted readWord64 5000 timeout
      blockLoopback := ← defaulted readBool true loopback
      blockPrivate := ← defaulted readBool true priv
      blockLinkLocal := ← defaulted readBool true link
      blockMulticast := ← defaulted readBool true multicast
      blockUnspecified := ← defaulted readBool true unspecified
      hostAllowList := ← defaulted readTexts [] allow
      hostBlockList := ← defaulted readTexts [] block
      portAllowList := ← defaulted (readList readPortNumber) [] ports
      portBlockList := ← defaulted (readList readPortNumber) [] noPorts }
  | _ => none

/-- Settings as a tree. -/
def toData (config : GuardConfig) : Data :=
  .table [
    ("resolve_dns", .bool config.resolveNames),
    ("dns_timeout_ms", .ofWord64 config.lookupTimeoutMs),
    ("block_loopback", .bool config.blockLoopback),
    ("block_private", .bool config.blockPrivate),
    ("block_link_local", .bool config.blockLinkLocal),
    ("block_multicast", .bool config.blockMulticast),
    ("block_unspecified", .bool config.blockUnspecified),
    ("host_allow_list", .ofTexts config.hostAllowList),
    ("host_block_list", .ofTexts config.hostBlockList),
    ("port_allow_list", .list (config.portAllowList.map .ofPort)),
    ("port_block_list", .list (config.portBlockList.map .ofPort))]

end GuardConfig

namespace RiskConfig

/-- The settings that a tree holds. -/
def ofData (dialect : Dialect) (d : Data) : Option RiskConfig := do
  let record ← readRecord dialect false ["extra_broad_patterns"] d
  match record.values with
  | [extra] => (defaulted (readMap readTexts) [] extra).map .mk
  | _ => none

/-- Settings as a tree. -/
def toData (config : RiskConfig) : Data :=
  .table [("extra_broad_patterns", .table (config.extraPatterns.map fun e => (e.1, .ofTexts e.2)))]

end RiskConfig

/-- The format that a tree names. -/
def LogFormat.ofData (dialect : Dialect) : Data → Option LogFormat :=
  readVariant dialect [(LogFormat.plain.code, .plain), (LogFormat.json.code, .json)]

namespace LogConfig

/-- The settings that a tree holds. -/
def ofData (dialect : Dialect) (d : Data) : Option LogConfig := do
  let record ← readRecord dialect false ["level", "format"] d
  match record.values with
  | [level, format] =>
    some ⟨← defaulted readText "info" level, ← defaulted (LogFormat.ofData dialect) .plain format⟩
  | _ => none

/-- Settings as a tree. -/
def toData (config : LogConfig) : Data :=
  .table [("level", .text config.level), ("format", .text config.format.code)]

end LogConfig

/-- The budget that the section of memory settings holds. -/
def readBudget (dialect : Dialect) (d : Data) : Option UInt64 := do
  let record ← readRecord dialect false ["max_allocation_bytes"] d
  match record.values with
  | [budget] => defaulted readWord64 defaultBudget budget
  | _ => none

namespace HostConfig

/-- The names of the sections. -/
def sectionNames : List String := ["network", "risk", "abi", "logging"]

/-- The settings that a tree holds. -/
def ofData (dialect : Dialect) (d : Data) : Option HostConfig := do
  let record ← readRecord dialect true sectionNames d
  match record.values with
  | [network, risk, memory, log] =>
    some {
      network := ← defaulted (GuardConfig.ofData dialect) {} network
      risk := ← defaulted (RiskConfig.ofData dialect) {} risk
      memoryBudget := ← defaulted (readBudget dialect) defaultBudget memory
      log := ← defaulted (LogConfig.ofData dialect) {} log }
  | _ => none

/-- Settings as a tree. -/
def toData (config : HostConfig) : Data :=
  .table [("network", config.network.toData), ("risk", config.risk.toData),
    ("abi", .table [("max_allocation_bytes", .ofWord64 config.memoryBudget)]),
    ("logging", config.log.toData)]

end HostConfig

end PluginSandbox
