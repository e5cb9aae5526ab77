import PluginSandbox.Address.Class
import PluginSandbox.Refusal
import PluginSandbox.Text.Blank
import PluginSandbox.Text.Quoted

/-!
# Settings of the network guard

The defaults block every address class and resolve names. Lists of hosts hold
host patterns; blank entries, wildcards without a name and malformed blocks are
refused before the settings are used.

## Main definitions

* `GuardConfig`: the settings.
* `GuardConfig.blocks`: the address classes that are blocked.
* `HostListError`, `checkHostList`: the validation of a list of hosts.
* `GuardConfig.check`: the validation of all settings.
* `GuardConfig.describe`: the settings on one line.
-/

namespace PluginSandbox

open Text

/-- What the network guard lets through. -/
structure GuardConfig where
  /-- Names are resolved before they are let through. -/
  resolveNames : Bool := true
  /-- How long the resolution of one name may take, in milliseconds. -/
  lookupTimeoutMs : UInt64 := 5000
  /-- Loopback addresses are blocked. -/
  blockLoopback : Bool := true
  /-- Addresses of private networks are blocked. -/
  blockPrivate : Bool := true
  /-- Addresses of the local link are blocked. -/
  blockLinkLocal : Bool := true
  /-- Multicast addresses are blocked. -/
  blockMulticast : Bool := true
  /-- The unspecified address is blocked. -/
  blockUnspecified : Bool := true
  /-- Hosts that pass every check but those of the port. -/
  hostAllowList : List String := []
  /-- Hosts that never pass. -/
  hostBlockList : List String := []
  /-- The only ports that pass, unless the list is empty. -/
  portAllowList : List UInt16 := []
  /-- Ports that never pass. -/
  portBlockList : List UInt16 := []
  deriving DecidableEq

/-- Why a list of hosts cannot be used. -/
inductive HostListError where
  /-- An entry is empty or blank. -/
  | blankEntry
  /-- An entry is a wildcard without a name. -/
  | bareWildcard (entry : String)
  /-- An entry has a slash and is no address block. -/
  | badBlock (entry : String) (error : CidrError)
  deriving DecidableEq

/-- The message about a list of hosts. -/
def HostListError.message : HostListError → String
  | blankEntry => "empty pattern in host list"
  | bareWildcard entry => s!"invalid wildcard pattern: {entry}"
  | badBlock entry error => error.message entry

/-- The validation of one entry of a list of hosts. -/
def checkHostEntry (entry : String) : Except HostListError Unit :=
  let cs := entry.toList
  if trim cs = [] then .error .blankEntry
  else if cs = ['*', '.'] then .error (.bareWildcard entry)
  else if '/' ∈ cs then
    match Cidr.read cs with
    | .ok _ => .ok ()
    | .error e => .error (.badBlock entry e)
  else .ok ()

/-- The validation of a list of hosts; the first entry at fault counts. -/
def checkHostList : List String → Except HostListError Unit
  | [] => .ok ()
  | entry :: entries =>
    match checkHostEntry entry with
    | .ok _ => checkHostList entries
    | .error e => .error e

namespace GuardConfig

/-- The address class is blocked. -/
def blocks (config : GuardConfig) : AddressClass → Bool
  | .loopback => config.blockLoopback
  | .privateUse => config.blockPrivate
  | .linkLocal => config.blockLinkLocal
  | .multicast => config.blockMulticast
  | .unspecified => config.blockUnspecified

/-- The validation of a list of hosts, as a refusal. -/
def checkHosts (hosts : List String) : Except Refusal Unit :=
  (checkHostList hosts).mapError fun e => .invalidConfig e.message

/-- The validation of all settings. -/
def check (config : GuardConfig) : Except Refusal Unit := do
  checkHosts config.hostAllowList
  checkHosts config.hostBlockList
  if config.resolveNames ∧ config.lookupTimeoutMs = 0 then
    .error (.invalidConfig "dns_timeout_ms must be greater than zero")

/-- A truth value in diagnostic output. -/
def flag : Bool → String
  | true => "true"
  | false => "false"

/-- Ports in diagnostic output. -/
def portList (ports : List UInt16) : String := bracketed (ports.map showPort)

/-- The settings on one line, as the guard shows them. -/
def describe (config : GuardConfig) : String :=
  let fields := [
    ("resolve_dns", flag config.resolveNames),
    ("dns_timeout_ms", String.ofList (showNat config.lookupTimeoutMs.toNat)),
    ("block_loopback", flag config.blockLoopback),
    ("block_private", flag config.blockPrivate),
    ("block_link_local", flag config.blockLinkLocal),
    ("block_multicast", flag config.blockMulticast),
    ("block_unspecified", flag config.blockUnspecified),
    ("host_allow_list", quotedList config.hostAllowList),
    ("host_block_list", quotedList config.hostBlockList),
    ("port_allow_list", portList config.portAllowList),
    ("port_block_list", portList config.portBlockList)]
  let body := ", ".intercalate (fields.map fun f => f.1 ++ ": " ++ f.2)
  "NetworkGuard \x7b config: NetworkGuardConfig \x7b " ++ body ++ " \x7d, .. \x7d"

end GuardConfig

end PluginSandbox
