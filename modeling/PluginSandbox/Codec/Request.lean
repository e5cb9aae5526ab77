import PluginSandbox.Codec.Grant
import PluginSandbox.Request

/-!
# Requests and faults as data

A request carries its category in the field `kind`, in any position among the
others; as a list it starts with the category. All parts of a request have to
be sound, also those that are not used.

## Main definitions

* `Endpoint.ofData`, `Request.ofData`, `Fault.ofData`: reading.
* `Endpoint.toData`, `Request.toData`, `Fault.toData`: writing.
* `maxDepth`: how deeply a tree may be nested that is kept as a whole.
-/

namespace PluginSandbox

/-- How deeply a tree may be nested that is kept as a whole. -/
def maxDepth : Nat := 127

/-- The tree can be kept as a whole. -/
def Data.isKeepable (d : Data) : Bool := d.isSound && d.depth ≤ maxDepth

/-- The access that a tree names. -/
def FileAccess.ofData (dialect : Dialect) : Data → Option FileAccess :=
  readVariant dialect [(FileAccess.read.code, .read), (FileAccess.write.code, .write)]

/-- An access as a tree. -/
def FileAccess.toData (access : FileAccess) : Data := .text access.code

namespace Endpoint

/-- The target that a tree holds. -/
def ofData (dialect : Dialect) (d : Data) : Option Endpoint := do
  let record ← readRecord dialect false ["host", "port"] d
  match record.values with
  | [host, port] => some ⟨← required readText host, ← record.optional readPortNumber port⟩
  | _ => none

/-- The fields of a target. -/
def fields (target : Endpoint) : List (String × Data) :=
  [("host", .text target.host), ("port", .ofOption .ofPort target.port)]

/-- A target as a tree. -/
def toData (target : Endpoint) : Data := .table target.fields

end Endpoint

namespace Request

/-- The name of the field that holds the category. -/
def tagField : String := "kind"

/-- A record of one text. -/
def readOneText (name : String) (make : String → Request) (d : Data) : Option Request := do
  let record ← readRecord .tagged false [name] d
  match record.values with
  | [s] => (required readText s).map make
  | _ => none

/-- A record of a text and an access. -/
def readTextAndAccess {α : Type} (name : String) (access : Data → Option α)
    (make : String → α → Request) (d : Data) : Option Request := do
  let record ← readRecord .tagged false [name, "operation"] d
  match record.values with
  | [s, a] => some (make (← required readText s) (← required access a))
  | _ => none

/-- The request of a category, from its fields. -/
def ofFields (tag : String) (d : Data) : Option Request :=
  if tag = "network" then (Endpoint.ofData .tagged d).map network
  else if tag = "file_system" then readTextAndAccess "path" (FileAccess.ofData .tagged) file d
  else if tag = "environment" then readOneText "variable" environment d
  else if tag = "exec" then readOneText "command" command d
  else if tag = "key_value" then readTextAndAccess "key" (KeyAccess.ofData .tagged) key d
  else none

/-- The request that a tree holds. -/
def ofData (d : Data) : Option Request :=
  if !d.isKeepable then none
  else match d with
    | .table fields =>
      match fields.filter fun f => f.1 = tagField with
      | [(_, .text tag)] => ofFields tag (.table (fields.filter fun f => f.1 ≠ tagField))
      | _ => none
    | .list (.text tag :: items) => ofFields tag (.list items)
    | _ => none

/-- The fields of a request behind its category. -/
def fields : Request → List (String × Data)
  | network target => target.fields
  | file path access => [("path", .text path), ("operation", access.toData)]
  | environment name => [("variable", .text name)]
  | command line => [("command", .text line)]
  | key k access => [("key", .text k), ("operation", access.toData)]

/-- A request as a tree, its category first. -/
def toData (request : Request) : Data :=
  .table ((tagField, .text request.tag) :: request.fields)

end Request

/-- The kind that a tree names. -/
def FaultKind.ofData (dialect : Dialect) : Data → Option FaultKind :=
  readVariant dialect (FaultKind.all.map fun k => (k.code, k))

/-- A kind as a tree. -/
def FaultKind.toData (kind : FaultKind) : Data := .text kind.code

namespace Fault

/-- The fault that a tree holds. -/
def ofData (dialect : Dialect) (d : Data) : Option Fault := do
  let record ← readRecord dialect false ["kind", "message", "context"] d
  match record.values with
  | [kind, message, context] =>
    some ⟨← required (FaultKind.ofData dialect) kind, ← required readText message,
      ← record.optional readText context⟩
  | _ => none

/-- A fault as a tree. -/
def toData (fault : Fault) : Data :=
  .table [("kind", fault.kind.toData), ("message", .text fault.message),
    ("context", .ofOption .text fault.context)]

end Fault

end PluginSandbox
