import PluginSandbox.Data.Record
import PluginSandbox.Grant.Basic

/-!
# Grants as data

Each category is a record with one list, so that a present but empty category
is kept apart from an absent one. Absent categories are left out.

## Main definitions

* `KeyAccess.ofData`, `NetworkRule.ofData`, `Grants.ofData`: reading.
* `KeyAccess.toData`, `NetworkRule.toData`, `Grants.toData`: writing.
-/

namespace PluginSandbox

/-- The access that a tree names. -/
def KeyAccess.ofData (dialect : Dialect) : Data → Option KeyAccess :=
  readVariant dialect
    [(KeyAccess.read.code, .read), (KeyAccess.write.code, .write),
      (KeyAccess.readWrite.code, .readWrite)]

/-- An access as a tree. -/
def KeyAccess.toData (access : KeyAccess) : Data := .text access.code

/-- A record of two lists of texts, both optional. -/
def readTwoLists {α : Type} (dialect : Dialect) (first second : String)
    (make : List String → List String → α) (d : Data) : Option α := do
  let record ← readRecord dialect false [first, second] d
  match record.values with
  | [a, b] => some (make (← defaulted readTexts [] a) (← defaulted readTexts [] b))
  | _ => none

/-- The rule that a tree holds. -/
def NetworkRule.ofData (dialect : Dialect) : Data → Option NetworkRule :=
  readTwoLists dialect "hosts" "ports" .mk

/-- A rule as a tree. -/
def NetworkRule.toData (rule : NetworkRule) : Data :=
  .table [("hosts", .ofTexts rule.hosts), ("ports", .ofTexts rule.ports)]

/-- The rule that a tree holds. -/
def FileRule.ofData (dialect : Dialect) : Data → Option FileRule :=
  readTwoLists dialect "read" "write" .mk

/-- A rule as a tree. -/
def FileRule.toData (rule : FileRule) : Data :=
  .table [("read", .ofTexts rule.read), ("write", .ofTexts rule.write)]

/-- The rule that a tree holds; its access must be given. -/
def KeyRule.ofData (dialect : Dialect) (d : Data) : Option KeyRule := do
  let record ← readRecord dialect false ["keys", "operation"] d
  match record.values with
  | [keys, access] =>
    some ⟨← defaulted readTexts [] keys, ← required (KeyAccess.ofData dialect) access⟩
  | _ => none

/-- A rule as a tree. -/
def KeyRule.toData (rule : KeyRule) : Data :=
  .table [("keys", .ofTexts rule.keys), ("operation", rule.access.toData)]

/-- The rules of a category, a record with one list. -/
def readCategory {α : Type} (dialect : Dialect) (name : String) (read : Data → Option α)
    (d : Data) : Option (List α) := do
  let record ← readRecord dialect false [name] d
  match record.values with
  | [rules] => defaulted (readList read) [] rules
  | _ => none

/-- The rules of a category as a tree. -/
def writeCategory {α : Type} (name : String) (write : α → Data) (rules : List α) : Data :=
  .table [(name, .list (rules.map write))]

/-- A category that may be absent, from a field that may be missing. -/
def readOptionalCategory {α : Type} (dialect : Dialect) (name : String) (read : Data → Option α) :
    Option Data → Option (Option (List α)) :=
  defaulted (nullable (readCategory dialect name read)) none

/-- A category as a field; none if it is absent. -/
def writeOptionalCategory {α : Type} (field name : String) (write : α → Data)
    (category : Option (List α)) : List (String × Data) :=
  match category with
  | some rules => [(field, writeCategory name write rules)]
  | none => []

namespace Grants

/-- The names of the categories in data. -/
def fieldNames : List String := ["network", "filesystem", "environment", "exec", "key_value"]

/-- The grants that a tree holds. -/
def ofData (dialect : Dialect) (d : Data) : Option Grants := do
  let record ← readRecord dialect false fieldNames d
  match record.values with
  | [network, files, environment, commands, keys] =>
    some {
      network := ← readOptionalCategory dialect "rules" (NetworkRule.ofData dialect) network
      files := ← readOptionalCategory dialect "rules" (FileRule.ofData dialect) files
      environment := ← readOptionalCategory dialect "variables" readText environment
      commands := ← readOptionalCategory dialect "commands" readText commands
      keys := ← readOptionalCategory dialect "rules" (KeyRule.ofData dialect) keys }
  | _ => none

/-- Grants as a tree. -/
def toData (g : Grants) : Data :=
  .table (writeOptionalCategory "network" "rules" NetworkRule.toData g.network ++
    writeOptionalCategory "filesystem" "rules" FileRule.toData g.files ++
    writeOptionalCategory "environment" "variables" .text g.environment ++
    writeOptionalCategory "exec" "commands" .text g.commands ++
    writeOptionalCategory "key_value" "rules" KeyRule.toData g.keys)

end Grants

end PluginSandbox
