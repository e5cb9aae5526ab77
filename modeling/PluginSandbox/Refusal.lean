import PluginSandbox.Fault

/-!
# Refusals

The errors of the checks that stand between a plugin and the outside: the
capability checker, the network guard and the validation of its settings.

## Main definitions

* `Refusal`: the causes, with the values that their messages name.
-/

namespace PluginSandbox

/-- Why the sandbox refuses. -/
inductive Refusal where
  /-- The plugin has no grants, or only empty ones. -/
  | noGrants (plugin : String)
  /-- A capability of a kind that does not exist. -/
  | unknownKind (kind pattern : String)
  /-- A capability whose pattern does not suit its kind. -/
  | invalidPattern (kind pattern reason : String)
  /-- No grant covers the capability. -/
  | denied (plugin kind pattern : String)
  /-- The network guard does not let an address through. -/
  | addressBlocked (address reason : String)
  /-- An operation took too long. -/
  | timedOut (operation : String) (limitMs : Nat)
  /-- A connection failed. -/
  | unreachable (address cause : String)
  /-- The settings of the guard cannot be used. -/
  | invalidConfig (reason : String)
  deriving DecidableEq

namespace Refusal

/-- What happened. -/
def message : Refusal → String
  | noGrants plugin => s!"no grants registered for plugin '{plugin}'"
  | unknownKind kind pattern => s!"unknown capability kind '{kind}' (pattern: '{pattern}')"
  | invalidPattern kind pattern reason => s!"invalid {kind} pattern '{pattern}': {reason}"
  | denied plugin kind pattern =>
    s!"capability denied for plugin '{plugin}': {kind} '{pattern}'"
  | addressBlocked address reason => s!"address '{address}' blocked: {reason}"
  | timedOut operation limitMs => s!"{operation} timed out after {limitMs}ms"
  | unreachable address cause => s!"failed to connect to {address}: {cause}"
  | invalidConfig reason => s!"invalid security config: {reason}"

/-- The kind of fault. -/
def kind : Refusal → FaultKind
  | noGrants _ => .notFound
  | unknownKind _ _ | invalidPattern _ _ _ | invalidConfig _ => .invalidInput
  | denied _ _ _ | addressBlocked _ _ => .permissionDenied
  | timedOut _ _ => .timeout
  | unreachable _ _ => .internal

/-- The likely cause. -/
def hint : Refusal → Option String
  | noGrants plugin => some s!"Plugin '{plugin}' was loaded without any [grants] section."
  | unknownKind kind _ => some s!"'{kind}' is not one of: network, fs, env, exec."
  | denied _ kind pattern =>
    some s!"The plugin requested {kind} access to '{pattern}' but no grant covers it."
  | addressBlocked address _ =>
    some s!"Outbound connection to '{address}' was refused by the network guard."
  | invalidConfig _ => some "The network guard configuration has invalid values."
  | timedOut _ _ => some "The remote side did not answer within the configured deadline."
  | invalidPattern _ _ _ | unreachable _ _ => none

/-- A remedy. -/
def fix : Refusal → Option String
  | noGrants _ =>
    some ("Add grants to plugin.toml, e.g.:\n  [grants.network]\n  rules = [\x7b hosts = " ++
      "[\"api.example.com\"], ports = [\"443\"] \x7d]")
  | denied _ kind _ =>
    if kind = "network" then some "Add a matching rule under [grants.network] in plugin.toml."
    else some s!"Grant the required '{kind}' capability in plugin.toml."
  | addressBlocked _ _ =>
    some "Add the host to [network] host_allow_list in the host config if it is trusted."
  | timedOut _ _ => some "Increase [network] dns_timeout_ms in the host config."
  | _ => none

instance : Diagnosable Refusal := ⟨kind, message, hint, fix⟩

end Refusal

end PluginSandbox
