import PluginSandbox.Address.HostPort
import PluginSandbox.Guard.Config
import PluginSandbox.Guard.Lookup
import PluginSandbox.Pattern.Host

/-!
# The network guard

The guard decides whether a target may be connected to. A name is looked up
once, and the address that was found is what the decision is about; a pinned
target carries that address, so that the connection goes where the decision
was made for.

## Main definitions

* `Reason`: what a decision rests on.
* `Validation`: a decision with its reason and address.
* `PinnedTarget`: a target bound to one address.
* `GuardConfig.validate`: the decision about a target.
* `GuardConfig.pin`: a target bound to the address that was decided about.
-/

namespace PluginSandbox

open Text

/-- Why a name has no usable address. -/
inductive LookupError where
  /-- The answer took too long. -/
  | late (limitMs : Nat)
  /-- The resolver failed. -/
  | failed (host cause : String)
  /-- The answer holds no address. -/
  | noAddress (host : String)
  deriving DecidableEq

/-- The message about a name without an address. -/
def LookupError.message : LookupError → String
  | late limitMs => s!"DNS resolution timed out after {limitMs}ms"
  | failed host cause => s!"DNS resolution failed for '{host}': {cause}"
  | noAddress host => s!"DNS resolution returned no addresses for '{host}'"

/-- What a decision about a target rests on. -/
inductive Reason where
  /-- The text is no target. -/
  | malformed (error : HostPort.Error)
  /-- The port is not among the only ones that pass. -/
  | portNotListed (port : UInt16)
  /-- The port never passes. -/
  | portBlocked (port : UInt16)
  /-- The host is on the list of hosts that pass. -/
  | hostAllowed (entry : String)
  /-- The host is on the list of hosts that never pass. -/
  | hostBlocked (entry : String)
  /-- The name always means the host itself. -/
  | localName (host : String)
  /-- The name has no usable address. -/
  | lookup (error : LookupError)
  /-- The name passes without being looked up. -/
  | unresolved
  /-- The address belongs to a blocked class. -/
  | inClass (ip : Ip) (cls : AddressClass)
  /-- The address is on the list of hosts that never pass. -/
  | ipBlocked (ip : Ip) (entry : String)
  /-- The address is on the list of hosts that pass. -/
  | ipAllowed (ip : Ip) (entry : String)
  /-- Nothing speaks against the address. -/
  | passed
  /-- A name cannot be bound to an address without being looked up. -/
  | notResolvable
  deriving DecidableEq

/-- The text of a reason. -/
def Reason.message : Reason → String
  | malformed error => s!"invalid address format: {error.message}"
  | portNotListed port => s!"port {showPort port} is not in the port allow list"
  | portBlocked port => s!"port {showPort port} is blocked"
  | hostAllowed entry => s!"host matches allow-list entry '{entry}'"
  | hostBlocked entry => s!"host matches block-list entry '{entry}'"
  | localName host => s!"'{host}' is a localhost (loopback) name"
  | lookup error => error.message
  | unresolved => "allowed (DNS resolution disabled)"
  | inClass ip cls => s!"{ip.text} is a {cls.name} address"
  | ipBlocked ip entry => s!"resolved address {ip.text} matches block-list entry '{entry}'"
  | ipAllowed ip entry => s!"resolved address {ip.text} matches allow-list entry '{entry}'"
  | passed => "allowed"
  | notResolvable => "cannot pin a hostname while DNS resolution is disabled"

/-- A decision about a target. -/
structure Validation where
  allowed : Bool
  reason : Reason
  /-- The address that the decision is about, if one is known. -/
  ip : Option Ip
  deriving DecidableEq

namespace Validation

/-- The target may be connected to. -/
def allow (reason : Reason) (ip : Option Ip) : Validation := ⟨true, reason, ip⟩

/-- The target may not be connected to. -/
def deny (reason : Reason) (ip : Option Ip) : Validation := ⟨false, reason, ip⟩

end Validation

/-- A target bound to one address. -/
structure PinnedTarget where
  /-- The host as it was named. -/
  serverName : String
  ip : Ip
  port : UInt16
  deriving DecidableEq

namespace PinnedTarget

/-- The address with the port; an IPv6 address stands in brackets. -/
def socket (target : PinnedTarget) : String :=
  match target.ip with
  | .v4 _ => s!"{target.ip.text}:{showPort target.port}"
  | .v6 _ => s!"[{target.ip.text}]:{showPort target.port}"

/-- The target on one line. -/
def render (target : PinnedTarget) : String := s!"{target.serverName} ({target.socket})"

end PinnedTarget

/-- The names that always mean the host itself. -/
def isLocalName (host : List Char) : Bool :=
  host == "localhost".toList || ".localhost".toList.isSuffixOf host

namespace GuardConfig

/-- The first blocked class that an address belongs to. -/
def blockedClass? (config : GuardConfig) (ip : Ip) : Option AddressClass :=
  AddressClass.all.find? fun cls => config.blocks cls && cls.has ip.canonical

/-- The first address of a name, within the time that a look-up may take. -/
def lookUp (config : GuardConfig) (host : String) : Lookup (Except LookupError Ip) :=
  .ask host fun reply => .done <|
    if config.lookupTimeoutMs.toNat < reply.delayMs then
      .error (.late config.lookupTimeoutMs.toNat)
    else match reply.outcome with
      | .error cause => .error (.failed host cause)
      | .ok [] => .error (.noAddress host)
      | .ok (ip :: _) => .ok ip

/-- What speaks against a port. -/
def portReason? (config : GuardConfig) (port : UInt16) : Option Reason :=
  if config.portAllowList ≠ [] ∧ port ∉ config.portAllowList then some (.portNotListed port)
  else if port ∈ config.portBlockList then some (.portBlocked port)
  else none

/-- The decision about an address that is neither listed by its host nor a local name. -/
def validateIp (config : GuardConfig) (ip : Ip) : Validation :=
  match config.blockedClass? ip with
  | some cls => .deny (.inClass ip cls) (some ip)
  | none =>
    match firstHostMatch? config.hostBlockList ip.text none with
    | some entry => .deny (.ipBlocked ip entry) (some ip)
    | none =>
      match firstHostMatch? config.hostAllowList ip.text none with
      | some entry => .allow (.ipAllowed ip entry) (some ip)
      | none => .allow .passed (some ip)

/-- The decision about a host whose port passes. -/
def validateHost (config : GuardConfig) (host : List Char) : Lookup Validation :=
  let name := String.ofList host
  let literal := Ip.read host
  match firstHostMatch? config.hostAllowList name literal with
  | some entry => .done (.allow (.hostAllowed entry) literal)
  | none =>
    match firstHostMatch? config.hostBlockList name literal with
    | some entry => .done (.deny (.hostBlocked entry) literal)
    | none =>
      match literal with
      | some ip => .done (config.validateIp ip)
      | none =>
        if config.blockLoopback && isLocalName host then .done (.deny (.localName name) none)
        else if config.resolveNames then do
          match ← config.lookUp name with
          | .ok ip => return config.validateIp ip
          | .error e => return .deny (.lookup e) none
        else .done (.allow .unresolved none)

/-- The decision about a host and a port. -/
def validateParts (config : GuardConfig) (host : List Char) (port : Option UInt16) :
    Lookup Validation :=
  match port.bind config.portReason? with
  | some reason => .done (.deny reason (Ip.read host))
  | none => config.validateHost host

/-- The decision about a target. -/
def validate (config : GuardConfig) (address : String) : Lookup Validation :=
  match HostPort.read address.toList with
  | .ok target => config.validateParts target.host target.port
  | .error e => .done (.deny (.malformed e) none)

/-- The address of a host that passes; a name that was let through unresolved is looked up now. -/
def pinnedIp (config : GuardConfig) (host : List Char) (validation : Validation) :
    Lookup (Except Reason Ip) :=
  if !validation.allowed then .done (.error validation.reason)
  else match validation.ip with
    | some ip => .done (.ok ip)
    | none =>
      if config.resolveNames then do
        match ← config.lookUp (String.ofList host) with
        | .ok ip => return .ok ip
        | .error e => return .error (.lookup e)
      else .done (.error .notResolvable)

/-- A target bound to an address that passes; the port is used where the target names none. -/
def pin (config : GuardConfig) (address : String) (defaultPort : UInt16) :
    Lookup (Except Refusal PinnedTarget) :=
  match HostPort.read address.toList with
  | .error e => .done (.error (.addressBlocked address (Reason.malformed e).message))
  | .ok target => do
    let port := target.port.getD defaultPort
    let validation ← config.validateParts target.host (some port)
    match ← config.pinnedIp target.host validation with
    | .ok ip => return .ok ⟨String.ofList target.host, ip, port⟩
    | .error reason => return .error (.addressBlocked address reason.message)

end GuardConfig

end PluginSandbox
