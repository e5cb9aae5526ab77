import PluginSandbox.Text.Ascii
import PluginSandbox.Text.Split

/-!
# The environment of child processes

Variables by which code could be slipped into a child process never reach it.
Search paths and options of interpreters reach it only if the plugin holds the
capability `env:NAME`. Everything else passes unchanged. Names are compared
without regard to ASCII case.

## Main definitions

* `VariableTier`, `tierOf`: how a variable is treated.
* `sanitize`: the entries that reach a child process.
-/

namespace PluginSandbox

open Text

/-- How a variable is treated. -/
inductive VariableTier where
  /-- It never reaches a child process. -/
  | blocked
  /-- It does with the capability for it. -/
  | gated
  /-- It always does. -/
  | free
  deriving DecidableEq

/-- The name of a tier. -/
def VariableTier.name : VariableTier → String
  | blocked => "blocked"
  | gated => "gated"
  | free => "free"

/-- How blocked names start. -/
def blockedStarts : List String := ["LD_", "DYLD_"]

/-- Names that are blocked. -/
def blockedNames : List String := ["IFS", "LOCPATH", "BASH_ENV", "ENV"]

/-- Names that need a capability. -/
def gatedNames : List String :=
  ["PATH", "HOME", "PYTHONPATH", "PYTHONSTARTUP", "PYTHONHOME", "NODE_OPTIONS", "NODE_PATH",
    "RUBYLIB", "PERL5LIB", "LUA_PATH", "LUA_CPATH", "CDPATH", "PS4"]

/-- How a variable is treated. -/
def tierOf (name : List Char) : VariableTier :=
  let key := upper name
  if blockedStarts.any (fun s => s.toList.isPrefixOf key) || blockedNames.any (·.toList == key) then
    .blocked
  else if gatedNames.any (·.toList == key) then .gated
  else .free

/-- The capability for a variable. -/
def capabilityFor (name : List Char) : String := "env:" ++ String.ofList (upper name)

/-- The name of the variable that an entry `NAME=VALUE` sets. -/
def entryName? (entry : String) : Option (List Char) :=
  match splitOnce '=' entry.toList with
  | some (c :: cs, _) => some (c :: cs)
  | _ => none

/-- The entries that reach a child process, with the state of the one who holds capabilities. -/
def sanitize {σ : Type} (holds : Option (String → σ → Bool × σ)) :
    List String → σ → List String × σ
  | [], s => ([], s)
  | entry :: more, s =>
    match (entryName? entry).map fun name => (name, tierOf name) with
    | some (_, .free) =>
      let rest := sanitize holds more s
      (entry :: rest.1, rest.2)
    | some (name, .gated) =>
      match holds with
      | none => sanitize holds more s
      | some holder =>
        let answer := holder (capabilityFor name) s
        let rest := sanitize holds more answer.2
        (if answer.1 then entry :: rest.1 else rest.1, rest.2)
    | _ => sanitize holds more s

end PluginSandbox
