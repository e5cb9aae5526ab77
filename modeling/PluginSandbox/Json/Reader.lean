import PluginSandbox.Json.Token

/-!
# Reading JSON

Tokens are consumed one by one against a stack of the lists and tables that
are still open, so reading is a fold over the tokens and nesting has no limit
of its own. A complete value is delivered to the innermost open container, or
is the result when none is open.

## Main definitions

* `Json.Frame`: an open list or table.
* `Json.State`: what may come next, above which open containers.
* `Json.step`: the effect of one token.
* `Json.read`, `Json.readBytes`: the tree that a text or a byte sequence spells.
-/

namespace PluginSandbox.Json

/-- Fields read so far, last first; nothing once a name spelled no text. -/
abbrev Fields := Option (List (String × Data))

/-- A container that is still open. -/
inductive Frame where
  /-- A list, with its items so far, last first. -/
  | list (items : List Data)
  /-- A table, with its fields so far and the name of the field being read. -/
  | table (fields : Fields) (name : Option String)

/-- What may come next. -/
inductive State where
  /-- A value. -/
  | value (stack : List Frame)
  /-- The first item of a list, or its end. -/
  | firstItem (stack : List Frame)
  /-- The first name of a table, or its end. -/
  | firstName (stack : List Frame)
  /-- A name. -/
  | name (fields : Fields) (stack : List Frame)
  /-- The colon behind a name. -/
  | colon (fields : Fields) (name : Option String) (stack : List Frame)
  /-- A comma or the end of a list. -/
  | afterItem (items : List Data) (stack : List Frame)
  /-- A comma or the end of a table. -/
  | afterField (fields : Fields) (stack : List Frame)
  /-- Nothing; the value is complete. -/
  | done (d : Data)

/-- A field added to the fields so far. -/
def addField (fields : Fields) (name : Option String) (d : Data) : Fields :=
  match fields, name with
  | some fs, some n => some ((n, d) :: fs)
  | _, _ => none

/-- The table with the given fields. -/
def closeFields : Fields → Data
  | some fs => .table fs.reverse
  | none => .garbled

/-- A complete value goes to the innermost open container. -/
def deliver (d : Data) : List Frame → State
  | [] => .done d
  | .list items :: stack => .afterItem (d :: items) stack
  | .table fields name :: stack => .afterField (addField fields name d) stack

/-- The value of a string. -/
def textValue : Option String → Data
  | some s => .text s
  | none => .garbled

/-- The start of a value. -/
def startValue (stack : List Frame) : Token → Option State
  | .scalar d => some (deliver d stack)
  | .text s => some (deliver (textValue s) stack)
  | .openList => some (.firstItem stack)
  | .openTable => some (.firstName stack)
  | _ => none

/-- The effect of one token. -/
def step : State → Token → Option State
  | .value stack, t => startValue stack t
  | .firstItem stack, .closeList => some (deliver (.list []) stack)
  | .firstItem stack, t => startValue (.list [] :: stack) t
  | .firstName stack, .closeTable => some (deliver (.table []) stack)
  | .firstName stack, .text s => some (.colon (some []) s stack)
  | .name fields stack, .text s => some (.colon fields s stack)
  | .colon fields name stack, .colon => some (.value (.table fields name :: stack))
  | .afterItem items stack, .comma => some (.value (.list items :: stack))
  | .afterItem items stack, .closeList => some (deliver (.list items.reverse) stack)
  | .afterField fields stack, .comma => some (.name fields stack)
  | .afterField fields stack, .closeTable => some (deliver (closeFields fields) stack)
  | _, _ => none

/-- The tree that symbols spell. -/
def readSymbols (input : List Symbol) : Option Data := do
  let ts ← tokens input
  match ← ts.foldlM step (.value []) with
  | .done d => some d
  | _ => none

/-- The tree that a text spells. -/
def read (text : String) : Option Data := readSymbols (symbols text)

/-- The symbols of a byte sequence from an index on; a byte that starts no character is a hole. -/
def decodeFrom (bytes : ByteArray) : (count : Nat) → (index : Nat) → List Symbol
  | 0, _ => []
  | count + 1, index =>
    if bytes.size ≤ index then []
    else match bytes.utf8DecodeChar? index with
      | some c => some c :: decodeFrom bytes count (index + c.utf8Size)
      | none => none :: decodeFrom bytes count (index + 1)

/-- The symbols of a byte sequence in UTF-8. -/
def decode (bytes : ByteArray) : List Symbol :=
  match String.fromUTF8? bytes with
  | some text => symbols text
  | none => decodeFrom bytes bytes.size 0

/-- The tree that a byte sequence spells. -/
def readBytes (bytes : List UInt8) : Option Data := readSymbols (decode ⟨bytes.toArray⟩)

end PluginSandbox.Json
