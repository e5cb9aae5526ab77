/-!
# Data trees

The value that a configuration text or a payload spells, before any type is
asked of it. A table keeps its fields in the order of the text, repetitions
included; what a repetition means is for the reader of the table to say.

## Main definitions

* `Data`: trees of scalars, lists and tables.
* `Data.depth`: how deeply lists and tables are nested.
* `Data.isSound`: whether every part has a reading as a value.
* `Data.field?`, `Data.setField`: the fields of a table by name.
* `Data.sorted`: a tree whose tables are sorted by name, the last of several
  fields of one name kept.
-/

namespace PluginSandbox

/-- A tree of scalars, lists and tables. -/
inductive Data where
  /-- The absent value. -/
  | null
  /-- A truth value. -/
  | bool (b : Bool)
  /-- An integer. -/
  | int (n : Int)
  /-- The number `mantissa * 10 ^ exponent`, written as a fraction or with an exponent. -/
  | real (mantissa exponent : Int)
  /-- A text. -/
  | text (s : String)
  /-- Values in order. -/
  | list (items : List Data)
  /-- Named values in order. -/
  | table (fields : List (String × Data))
  /-- Well-formed text without a reading as a value, such as half a surrogate pair or a number
  that is not finite. -/
  | garbled
  deriving Inhabited

namespace Data

mutual

/-- How deeply lists and tables are nested; a scalar has depth zero. -/
def depth : Data → Nat
  | list items => 1 + depthList items
  | table fields => 1 + depthFields fields
  | _ => 0

/-- The largest depth of a list of values. -/
def depthList : List Data → Nat
  | [] => 0
  | d :: ds => max d.depth (depthList ds)

/-- The largest depth of a list of fields. -/
def depthFields : List (String × Data) → Nat
  | [] => 0
  | (_, d) :: fs => max d.depth (depthFields fs)

end

mutual

/-- Every part of the tree has a reading as a value. -/
def isSound : Data → Bool
  | list items => isSoundList items
  | table fields => isSoundFields fields
  | garbled => false
  | _ => true

/-- Every value of a list is sound. -/
def isSoundList : List Data → Bool
  | [] => true
  | d :: ds => d.isSound && isSoundList ds

/-- Every value of a list of fields is sound. -/
def isSoundFields : List (String × Data) → Bool
  | [] => true
  | (_, d) :: fs => d.isSound && isSoundFields fs

end

/-- Puts a field into fields sorted by name, in place of one of the same name. -/
def insertField {α : Type} (name : String) (value : α) : List (String × α) → List (String × α)
  | [] => [(name, value)]
  | (n, v) :: fs =>
    if name = n then (name, value) :: fs
    else if name < n then (name, value) :: (n, v) :: fs
    else (n, v) :: insertField name value fs

mutual

/-- The tree with every table sorted by name, the last of several fields of one name kept. -/
def sorted : Data → Data
  | list items => list (sortedList items)
  | table fields => table (sortedFields fields [])
  | d => d

/-- The values of a list, each sorted. -/
def sortedList : List Data → List Data
  | [] => []
  | d :: ds => d.sorted :: sortedList ds

/-- Fields put in turn into sorted ones. -/
def sortedFields : List (String × Data) → List (String × Data) → List (String × Data)
  | [], acc => acc
  | (n, d) :: fs, acc => sortedFields fs (insertField n d.sorted acc)

end

/-- The first value of a name. -/
def field? {α : Type} (name : String) : List (String × α) → Option α
  | [] => none
  | (n, v) :: fs => if n = name then some v else field? name fs

/-- Fields with a value in the place of a name, at the end if the name is new. -/
def setField {α : Type} (name : String) (value : α) : List (String × α) → List (String × α)
  | [] => [(name, value)]
  | (n, v) :: fs => if n = name then (name, value) :: fs else (n, v) :: setField name value fs

@[simp] theorem field?_setField {α : Type} (name : String) (value : α)
    (fields : List (String × α)) :
    field? name (setField name value fields) = some value := by
  induction fields with
  | nil => simp [setField, field?]
  | cons f fs ih => by_cases h : f.1 = name <;> simp [setField, field?, h, ih]

theorem field?_setField_of_ne {α : Type} {name other : String} (h : name ≠ other) (value : α)
    (fields : List (String × α)) :
    field? other (setField name value fields) = field? other fields := by
  induction fields with
  | nil => simp [setField, field?, h]
  | cons f fs ih =>
    by_cases hf : f.1 = name
    · simp [setField, field?, hf, h]
    · simp [setField, field?, hf, ih]

/-- A text as a value, from its characters. -/
def ofChars (cs : List Char) : Data := text (String.ofList cs)

end Data

end PluginSandbox
