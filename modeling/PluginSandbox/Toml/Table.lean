import PluginSandbox.Data.Basic

/-!
# Tables in TOML

A table may be spelled in pieces: by headers, by dotted keys, and by being a
parent of either. How a table came about decides how it may still be extended.
A header opens a table once, dotted keys extend only tables that dotted keys
made, and every key of a table is assigned once.

## Main definitions

* `Toml.Origin`, `Toml.Node`: what a name stands for, and how a table came about.
* `Toml.assign`: a value put under a dotted key.
* `Toml.openTable`, `Toml.appendTable`: the effect of a header.
* `Toml.Node.toData`: the tree without the origins.
-/

namespace PluginSandbox.Toml

/-- How a table came about. -/
inductive Origin where
  /-- By a header of its own. -/
  | opened
  /-- As a parent in a header. -/
  | implied
  /-- As a parent in a dotted key. -/
  | dotted
  deriving DecidableEq

/-- What a name stands for. -/
inductive Node where
  /-- A value, which cannot be extended. -/
  | value (d : Data)
  /-- A table. -/
  | table (origin : Origin) (fields : List (String × Node))
  /-- A list of tables that headers opened, the last one first. -/
  | tables (items : List (List (String × Node)))

/-- Named nodes, each name once. -/
abbrev Fields := List (String × Node)

/-- A key, which may be dotted. -/
structure Key where
  /-- The parts before the last one. -/
  parents : List String
  /-- The last part. -/
  name : String

/-- Changes the fields of the table at the end of a path. `origin` is that of the tables that are
made on the way, and `here` that of the table where the path starts. Dotted keys do not lead into
a table that has a header of its own; a list of tables stands for its last table. -/
def descend (origin : Origin) (change : Origin → Fields → Option Fields) (here : Origin) :
    List String → Fields → Option Fields
  | [], fields => change here fields
  | name :: path, fields => do
    let node ← match Data.field? name fields with
      | none => (descend origin change origin path []).map (.table origin)
      | some (.table found inner) =>
        if origin = .dotted ∧ found = .opened then none
        else (descend origin change found path inner).map (.table found)
      | some (.tables (last :: others)) =>
        (descend origin change .opened path last).map fun fs => .tables (fs :: others)
      | some _ => none
    return Data.setField name node fields

/-- A value put under a key. The table that receives it is the one where the key starts or one
that dotted keys made, and does not have the name yet. -/
def assign (fields : Fields) (key : Key) (d : Data) : Option Fields :=
  descend .dotted
    (fun origin fs =>
      if origin = .dotted ∧ (Data.field? key.name fs).isNone then
        some (fs ++ [(key.name, .value d)])
      else none)
    .dotted key.parents fields

/-- Values put under their keys in turn. -/
def assignAll (fields : Fields) (assignments : List (Key × Data)) : Option Fields :=
  assignments.foldlM (fun fs a => assign fs a.1 a.2) fields

/-- A table of its own with the given assignments. It is new, or has so far been a parent in
headers only. -/
def openTable (root : Fields) (key : Key) (assignments : List (Key × Data)) : Option Fields :=
  descend .implied
    (fun _ fs => do
      let inner ← match Data.field? key.name fs with
        | none => some []
        | some (.table .implied inner) => some inner
        | some _ => none
      return Data.setField key.name (.table .opened (← assignAll inner assignments)) fs)
    .opened key.parents root

/-- One more table with the given assignments at the end of a list of tables, which may be new. -/
def appendTable (root : Fields) (key : Key) (assignments : List (Key × Data)) : Option Fields :=
  descend .implied
    (fun _ fs => do
      let others ← match Data.field? key.name fs with
        | none => some []
        | some (.tables items) => some items
        | some _ => none
      return Data.setField key.name (.tables ((← assignAll [] assignments) :: others)) fs)
    .opened key.parents root

mutual

/-- The tree that a node stands for. -/
def Node.toData : Node → Data
  | .value d => d
  | .table _ fields => .table (fieldsToData fields)
  | .tables items => .list (itemsToData items).reverse

/-- The trees of named nodes. -/
def fieldsToData : List (String × Node) → List (String × Data)
  | [] => []
  | (name, node) :: fs => (name, node.toData) :: fieldsToData fs

/-- The trees of tables. -/
def itemsToData : List (List (String × Node)) → List Data
  | [] => []
  | fields :: items => .table (fieldsToData fields) :: itemsToData items

end

end PluginSandbox.Toml
