import PluginSandbox.Policy.Glob
import PluginSandbox.Refusal

/-!
# The capability checker

The checker holds the grants of all plugins and asks a policy about requests.
A plugin names what it wants either by a request or, on the wire, by a kind and
a pattern. A plugin without grants is refused before anything else is looked
at.

## Main definitions

* `Checker`: grants by plugin, and a policy.
* `Checker.check`: a capability by kind and pattern.
* `Checker.checkRequest`: a capability by request.
* `Checker.has`: a capability as one text `kind:pattern`.
* `Checker.getter`: the same for one plugin only.
-/

namespace PluginSandbox

open Text

/-- Grants by plugin, and the policy that is asked. -/
structure Checker (σ : Type) where
  grants : List (String × Grants)
  policy : Policy σ

namespace Checker

variable {σ : Type} (checker : Checker σ)

/-- The checker on one line; it does not show grants. -/
def describe : String :=
  "CapabilityChecker \x7b plugins: " ++ String.ofList (showNat checker.grants.length) ++ ", .. \x7d"

/-- The grants registered for a plugin. -/
def grantsOf (plugin : String) : Option Grants := checker.grants.lookup plugin

/-- The grants of a plugin, which must not be empty. -/
def activeGrants (plugin : String) : Except Refusal Grants :=
  match checker.grantsOf plugin with
  | some grants => if grants.isEmpty then .error (.noGrants plugin) else .ok grants
  | none => .error (.noGrants plugin)

/-- A capability passes if the policy covers one of the requests for it, asked in order. -/
def authorize (plugin kind pattern : String) (requests : List Request) (s : σ) :
    Except Refusal Unit × σ :=
  match checker.activeGrants plugin with
  | .error e => (.error e, s)
  | .ok grants =>
    match anyWith (fun request => checker.policy.decide request grants) requests s with
    | (true, s') => (.ok (), s')
    | (false, s') => (.error (.denied plugin kind pattern), s')

/-- The pattern that a request has on the wire. -/
def wirePattern : Request → String
  | .network target => target.render
  | .file path access => s!"{access.code}:{path}"
  | .environment name => name
  | .command line => line
  | .key key _ => key

/-- A capability by request. -/
def checkRequest (plugin : String) (request : Request) (s : σ) : Except Refusal Unit × σ :=
  checker.authorize plugin request.kind (wirePattern request) [request] s

/-- The ports tried for a host that is named without one. -/
def fallbackPorts : List UInt16 := [80, 443]

/-- The host that stands for the private network. -/
def privateHost : String := "127.0.0.1"

/-- What a target of an outgoing connection may be read as, in the order of trial. -/
def targetsOf (target : String) : List Endpoint :=
  if target = "private" then [⟨privateHost, none⟩]
  else match readPort target.toList with
    | some port => [.onPort port]
    | none => ⟨target, none⟩ :: fallbackPorts.map fun port => ⟨target, some port⟩

/-- The requests that a pattern of kind `network` stands for. -/
def readNetworkPattern (pattern : String) : Except Refusal (List Request) :=
  match stripPrefix? "outbound:".toList pattern.toList with
  | some (c :: cs) => .ok ((targetsOf (String.ofList (c :: cs))).map .network)
  | _ => .error (.invalidPattern "network" pattern "expected 'outbound:<host|port|private>'")

/-- The request that a pattern of kind `fs` stands for. -/
def readFilePattern (pattern : String) : Except Refusal Request :=
  match splitOnce ':' pattern.toList with
  | none => .error (.invalidPattern "fs" pattern "expected '<read|write>:<path>'")
  | some (_, []) => .error (.invalidPattern "fs" pattern "empty path")
  | some (access, path) =>
    match FileAccess.ofName (String.ofList access) with
    | .ok access => .ok (.file (String.ofList path) access)
    | .error fault => .error (.invalidPattern "fs" pattern fault.message)

/-- The requests that a kind and a pattern stand for. -/
def readCapability (kind pattern : String) : Except Refusal (List Request) :=
  if kind = "network" then readNetworkPattern pattern
  else if kind = "fs" then (readFilePattern pattern).map ([·])
  else if kind = "env" then .ok [.environment pattern]
  else if kind = "exec" then .ok [.command pattern]
  else .error (.unknownKind kind pattern)

/-- A capability by kind and pattern. -/
def check (plugin kind pattern : String) (s : σ) : Except Refusal Unit × σ :=
  match checker.activeGrants plugin with
  | .error e => (.error e, s)
  | .ok _ =>
    match readCapability kind pattern with
    | .error e => (.error e, s)
    | .ok requests => checker.authorize plugin kind pattern requests s

/-- A capability as one text. A variable may be granted as such, or as a command of that text. -/
def has (plugin capability : String) (s : σ) : Bool × σ :=
  match stripPrefix? "env:".toList capability.toList with
  | some name =>
    match checker.activeGrants plugin with
    | .error _ => (false, s)
    | .ok grants =>
      anyWith (fun request => checker.policy.decide request grants)
        [.command capability, .environment (String.ofList name)] s
  | none =>
    match splitOnce ':' capability.toList with
    | none => (false, s)
    | some (kind, pattern) =>
      let answer := checker.check plugin (String.ofList kind) (String.ofList pattern) s
      (answer.1.isOk, answer.2)

/-- A capability as one text, answered for one plugin only. -/
def getter (bound plugin capability : String) (s : σ) : Bool × σ :=
  if plugin = bound then checker.has plugin capability s else (false, s)

end Checker

end PluginSandbox
