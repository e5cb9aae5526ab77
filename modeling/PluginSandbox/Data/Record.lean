import PluginSandbox.Data.Basic

/-!
# Reading typed values from trees

A record is read from a table by name, or from a list by position. A field that
the type does not know is ignored unless the record is closed; a known field
must not be repeated. Formats differ in small ways, which a dialect collects.

## Main definitions

* `Dialect`: how a format writes records and variants.
* `Record`: the values of the known fields, and whether they were named.
* `readRecord`: the record that a tree holds.
* `required`, `defaulted`, `Record.optional`: fields that must be there, that
  have a default, or that may be absent.
* `readVariant`, `readText`, `readBool`, `readNatUpTo`, `readList`: values.
-/

namespace PluginSandbox

/-- How a format writes records and variants. -/
structure Dialect where
  /-- A list may be longer than the record that is read from it. -/
  surplusItems : Bool
  /-- What may stand beside the name of a variant in a table of its own. -/
  besideVariant : Data → Bool

namespace Dialect

/-- Payloads in JSON. -/
def json : Dialect where
  surplusItems := false
  besideVariant
    | .null => true
    | _ => false

/-- The fields of a tagged value, which were set aside while its tag was looked for. -/
def tagged : Dialect where
  surplusItems := false
  besideVariant
    | .null | .table [] => true
    | _ => false

/-- Manifests. -/
def manifest : Dialect where
  surplusItems := true
  besideVariant
    | .list [] | .table [] => true
    | _ => false

/-- Layered settings. -/
def layered : Dialect where
  surplusItems := true
  besideVariant _ := false

end Dialect

/-- The values of the known fields of a record. -/
structure Record where
  /-- The fields were named; otherwise they were given by position. -/
  named : Bool
  /-- The values in the order of the known fields. -/
  values : List (Option Data)

/-- How often a name occurs. -/
def occurrences (name : String) (fields : List (String × Data)) : Nat :=
  (fields.filter fun f => f.1 = name).length

/-- The record that a tree holds; `closed` records admit no unknown names. -/
def readRecord (dialect : Dialect) (closed : Bool) (names : List String) : Data → Option Record
  | .table fields =>
    if names.any fun n => 1 < occurrences n fields then none
    else if closed && fields.any fun f => !names.contains f.1 then none
    else some ⟨true, names.map fun n => Data.field? n fields⟩
  | .list items =>
    if names.length < items.length && !dialect.surplusItems then none
    else some ⟨false, names.mapIdx fun i _ => items[i]?⟩
  | _ => none

section Fields

variable {α : Type}

/-- A field that must be there. -/
def required (read : Data → Option α) : Option Data → Option α
  | some d => read d
  | none => none

/-- A field with a default. -/
def defaulted (read : Data → Option α) (fallback : α) : Option Data → Option α
  | some d => read d
  | none => some fallback

/-- A value that may be the absent one. -/
def nullable (read : Data → Option α) : Data → Option (Option α)
  | .null => some none
  | d => (read d).map some

/-- A field that may be absent where fields are named. -/
def Record.optional (record : Record) (read : Data → Option α) : Option Data → Option (Option α)
  | some d => nullable read d
  | none => if record.named then some none else none

/-- A list of values. -/
def readList (read : Data → Option α) : Data → Option (List α)
  | .list items => items.mapM read
  | _ => none

/-- One of some named variants. -/
def readVariant (dialect : Dialect) (variants : List (String × α)) : Data → Option α
  | .text s => variants.lookup s
  | .table [(s, d)] => if dialect.besideVariant d then variants.lookup s else none
  | _ => none

/-- A table from names to values, sorted by name; of several fields of one name the last counts. -/
def readMap (read : Data → Option α) : Data → Option (List (String × α))
  | .table fields =>
    fields.foldlM (fun acc f => (read f.2).map fun v => Data.insertField f.1 v acc) []
  | _ => none

end Fields

/-- A text. -/
def readText : Data → Option String
  | .text s => some s
  | _ => none

/-- A truth value. -/
def readBool : Data → Option Bool
  | .bool b => some b
  | _ => none

/-- A natural number up to a largest one. -/
def readNatUpTo (max : Nat) : Data → Option Nat
  | .int n => if 0 ≤ n ∧ n ≤ max then some n.toNat else none
  | _ => none

/-- A port. -/
def readPortNumber (d : Data) : Option UInt16 := (readNatUpTo 65535 d).map UInt16.ofNat

/-- A number of 64 bits. -/
def readWord64 (d : Data) : Option UInt64 := (readNatUpTo 18446744073709551615 d).map UInt64.ofNat

/-- Texts. -/
def readTexts : Data → Option (List String) := readList readText

namespace Data

/-- Texts as a tree. -/
def ofTexts (texts : List String) : Data := .list (texts.map .text)

/-- A port as a tree. -/
def ofPort (port : UInt16) : Data := .int port.toNat

/-- A number of 64 bits as a tree. -/
def ofWord64 (n : UInt64) : Data := .int n.toNat

/-- An optional value as a tree. -/
def ofOption {α : Type} (write : α → Data) : Option α → Data
  | some a => write a
  | none => .null

end Data

end PluginSandbox
