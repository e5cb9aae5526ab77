import PluginSandbox.Toml.Moment
import PluginSandbox.Toml.Number
import PluginSandbox.Toml.Table
import PluginSandbox.Toml.Text

/-!
# Keys and values in TOML

Lists may run over several lines and end in a comma; inline tables may do
neither. Both nest up to a fixed depth.

## Main definitions

* `Toml.key`: dotted keys.
* `Toml.valueWithin`: values up to a depth of nesting.
* `Toml.assignment`: a key and its value.
-/

namespace PluginSandbox.Toml

open Text Text.Reader

/-- Dotted keys have fewer parts than this, and lists and inline tables nest less deeply. -/
def depthLimit : Nat := 80

/-- Characters of a part of a key that is not quoted. -/
def isKeyChar (c : Char) : Bool := isAlnum c || c = '-' || c = '_'

/-- A part of a key. -/
def keyPart : Reader String := lineText <|> (String.ofList <$> someRun isKeyChar)

/-- A key, perhaps dotted, with blanks around its parts. -/
def key : Reader Key := do
  let parts ← sepBy (blanks *> keyPart <* blanks) (char '.')
  let name ← ofOption parts.getLast?
  if parts.length < depthLimit then return ⟨parts.dropLast, name⟩ else failure

/-- A truth value. -/
def truth : Reader Data :=
  (word "true" *> return .bool true) <|> (word "false" *> return .bool false)

/-- A value that is neither a list nor a table. -/
def scalar : Reader Data :=
  (Data.text <$> text) <|> truth <|> moment <|> fraction <|> integer

/-- A key, an equals sign and a value. -/
def assignment (value : Reader Data) : Reader (Key × Data) := do
  let name ← key
  discard (char '=' *> blanks)
  return (name, ← value)

/-- A list. -/
def list (item : Reader Data) : Reader Data := do
  discard (char '[')
  let items ← optional (sepBy (gap *> item <* gap) (char ',') <* optional (char ','))
  gap
  discard (char ']')
  return .list (items.getD [])

/-- A table on one line. -/
def inlineTable (value : Reader Data) : Reader Data := do
  discard (char '\x7b')
  let assignments ← optional (sepBy (assignment value <* blanks) (char ','))
  blanks
  discard (char '\x7d')
  let fields ← ofOption (assignAll [] (assignments.getD []))
  return .table (fieldsToData fields)

/-- A value in which lists and inline tables nest at most `depth` deep. -/
def valueWithin : (depth : Nat) → Reader Data
  | 0, cs => scalar cs
  | depth + 1, cs => (scalar <|> list (valueWithin depth) <|> inlineTable (valueWithin depth)) cs

/-- A value. -/
def value : Reader Data := valueWithin (depthLimit - 1)

end PluginSandbox.Toml
