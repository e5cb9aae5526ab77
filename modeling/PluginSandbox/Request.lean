import PluginSandbox.Fault
import PluginSandbox.Grant.Basic
import PluginSandbox.Text.Numeral

/-!
# Requests

What a plugin asks for at the moment of a call, one case for each category of
grants.

## Main definitions

* `FileAccess`: reading or writing a file.
* `Endpoint`: a host, or any host, with a port, or any port.
* `Request`: a request of any category, with its name and its text.
-/

namespace PluginSandbox

/-- How a file is used. -/
inductive FileAccess where
  | read
  | write
  deriving DecidableEq

namespace FileAccess

/-- The name of an access. -/
def code : FileAccess → String
  | read => "read"
  | write => "write"

/-- The access that a name stands for. -/
def ofName (name : String) : Except Fault FileAccess :=
  if name = "read" then .ok read
  else if name = "write" then .ok write
  else .error (.invalidInput s!"unknown filesystem operation '{name}' (expected read or write)")

@[simp] theorem ofName_code (access : FileAccess) : ofName access.code = .ok access := by
  cases access <;> rfl

end FileAccess

/-- The target of a connection. -/
structure Endpoint where
  /-- The host; `*` stands for any. -/
  host : String
  /-- The port; nothing stands for any. -/
  port : Option UInt16
  deriving DecidableEq

namespace Endpoint

/-- The host that stands for any host. -/
def anyHost : String := "*"

/-- Any host on one port. -/
def onPort (port : UInt16) : Endpoint := ⟨anyHost, some port⟩

/-- The target is any host. -/
def isAnyHost (target : Endpoint) : Bool := target.host == anyHost

/-- The text of a target. -/
def render (target : Endpoint) : String :=
  match target.port with
  | some port => s!"{target.host}:{Text.showPort port}"
  | none => s!"{target.host}:*"

end Endpoint

/-- A request of any category. -/
inductive Request where
  /-- An outgoing connection. -/
  | network (target : Endpoint)
  /-- Access to a file. -/
  | file (path : String) (access : FileAccess)
  /-- The value of an environment variable. -/
  | environment (name : String)
  /-- The execution of a command. -/
  | command (line : String)
  /-- Access to the key-value store. -/
  | key (key : String) (access : KeyAccess)
  deriving DecidableEq

namespace Request

/-- The short name of the category. -/
def kind : Request → String
  | network _ => "network"
  | file _ _ => "fs"
  | environment _ => "env"
  | command _ => "exec"
  | key _ _ => "kv"

/-- The name of the category in data. -/
def tag : Request → String
  | network _ => "network"
  | file _ _ => "file_system"
  | environment _ => "environment"
  | command _ => "exec"
  | key _ _ => "key_value"

/-- The text of a request. -/
def render : Request → String
  | network target => s!"network:{target.render}"
  | file path access => s!"fs:{access.code}:{path}"
  | environment name => s!"env:{name}"
  | command line => s!"exec:{line}"
  | key k _ => s!"kv:{k}"

end Request

end PluginSandbox
