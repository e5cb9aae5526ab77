import PluginSandbox.Codec.Request
import PluginSandbox.Codec.Settings
import PluginSandbox.Json.Printer
import PluginSandbox.Json.Reader

/-!
# Payloads

The values that guest and host exchange, each of a known shape, and their JSON
texts. A payload of the shape `value` is any tree; its tables are kept sorted
by name, the last of several fields of one name winning.

## Main definitions

* `Shape`: the types of payloads.
* `Payload`: a value of any shape.
* `Payload.ofData`, `Payload.toData`: payloads as trees.
* `Payload.parse`, `Payload.text`: payloads as JSON.
-/

namespace PluginSandbox

/-- A type of payloads. -/
inductive Shape where
  | value
  | grants
  | networkRule
  | guardConfig
  | riskConfig
  | hostConfig
  | fault
  | request
  | endpoint
  | keyAccess
  | fileAccess
  deriving DecidableEq

/-- A value that guest and host exchange. -/
inductive Payload where
  | value (d : Data)
  | grants (g : Grants)
  | networkRule (rule : NetworkRule)
  | guardConfig (config : GuardConfig)
  | riskConfig (config : RiskConfig)
  | hostConfig (config : HostConfig)
  | fault (fault : Fault)
  | request (request : Request)
  | endpoint (target : Endpoint)
  | keyAccess (access : KeyAccess)
  | fileAccess (access : FileAccess)

namespace Payload

/-- The payload of a shape that a tree holds. -/
def ofData (shape : Shape) (d : Data) : Option Payload :=
  match shape with
  | .value => if d.isKeepable then some (value d.sorted) else none
  | .grants => (Grants.ofData .json d).map grants
  | .networkRule => (NetworkRule.ofData .json d).map networkRule
  | .guardConfig => (GuardConfig.ofData .json d).map guardConfig
  | .riskConfig => (RiskConfig.ofData .json d).map riskConfig
  | .hostConfig => (HostConfig.ofData .json d).map hostConfig
  | .fault => (Fault.ofData .json d).map Payload.fault
  | .request => (Request.ofData d).map Payload.request
  | .endpoint => (Endpoint.ofData .json d).map endpoint
  | .keyAccess => (KeyAccess.ofData .json d).map keyAccess
  | .fileAccess => (FileAccess.ofData .json d).map fileAccess

/-- A payload as a tree. -/
def toData : Payload → Data
  | value d => d
  | grants g => g.toData
  | networkRule rule => rule.toData
  | guardConfig config => config.toData
  | riskConfig config => config.toData
  | hostConfig config => config.toData
  | fault f => f.toData
  | request r => r.toData
  | endpoint target => target.toData
  | keyAccess access => access.toData
  | fileAccess access => access.toData

/-- The payload of a shape that a text spells. -/
def parse (shape : Shape) (text : String) : Option Payload := (Json.read text).bind (ofData shape)

/-- The payload of a shape that bytes spell. -/
def parseBytes (shape : Shape) (bytes : List UInt8) : Option Payload :=
  (Json.readBytes bytes).bind (ofData shape)

/-- The JSON text of a payload. -/
def text (payload : Payload) : String := Json.write payload.toData

/-- The bytes of the JSON text of a payload. -/
def bytes (payload : Payload) : List UInt8 := payload.text.toUTF8.data.toList

end Payload

end PluginSandbox
