import PluginSandbox.Text.Blank
import PluginSandbox.Text.Bytes
import PluginSandbox.Toml.Value

/-!
# Values of environment variables

A variable holds a truth value, a number, a text with or without quotes, a list
or a table. What follows none of these forms up to its end is a text as it
stands, so every variable has a value.

## Main definitions

* `Setting.bare`, `Setting.quoted`, `Setting.bracketed`: the forms of a value.
* `Setting.valueWithin`: values up to a depth of nesting.
* `Setting.readValue`: the value of a variable.
-/

namespace PluginSandbox.Setting

open Text Text.Reader

/-- Blanks around values; no others count. -/
def isSpace (c : Char) : Bool := c = ' ' || c = '\t' || c = '\n' || c = '\x0C' || c = '\x0d'

/-- Blanks. -/
def blanks : Reader Unit := discard (run isSpace)

/-- Characters that end a text without quotes. -/
def isDelimiter (c : Char) : Bool :=
  c = ',' || c = '\x7b' || c = '\x7d' || c = '[' || c = ']'

/-- An exponent, which may be missing. -/
def exponent : Reader Int := do
  match ← optional (one fun c => c = 'e' || c = 'E') with
  | none => return 0
  | some _ =>
    let negative ← sign
    let digits ← someRun isDigit
    let value : Int := valueFrom 10 digitValue 0 digits
    return if negative then -value else value

/-- A number with a point, and digits on at least one side of it. -/
def fraction : Reader Data := do
  let negative ← sign
  let whole ← run isDigit
  discard (char '.')
  let behind ← run isDigit
  let power ← exponent
  if whole.isEmpty && behind.isEmpty then failure
  return .ofReal negative (valueFrom 10 digitValue 0 (whole ++ behind)) (power - behind.length)

/-- An integer of 64 bits, with or without a sign. -/
def integer : List Char → Option Data
  | '-' :: cs => ((readNat cs).filter (· ≤ maxInt64 + 1)).map fun n => .int (-(n : Int))
  | cs => (readBounded maxNat64 cs).map fun n => .int n

/-- The value of a text without quotes: a number if it is one. -/
def bareValue (cs : List Char) : Data :=
  ((readAll fraction cs).or (integer cs)).getD (.ofChars cs)

/-- A number or a text without quotes. -/
def bare : Reader Data := do return bareValue (trim (← run fun c => !isDelimiter c))

/-- A text in quotes, with the escapes of a TOML string on one line. If there are any, then what
stands before the first is cut to as many bytes as it has characters. -/
def quotedChars : Reader (List Char) := do
  let (front, parts) ← Toml.escapedParts
  return if parts.isEmpty then front else takeBytes front.length front ++ parts.flatten

/-- A text in quotes as a value. -/
def quoted : Reader Data := .ofChars <$> quotedChars

/-- A text of one character. -/
def single : Reader Data := do
  discard (char '\'')
  let c ← one fun _ => true
  discard (char '\'')
  return .ofChars [c]

/-- Items between brackets, with commas between them and perhaps one behind the last. -/
def bracketed {α : Type} (first last : Char) (item : Reader α) : Reader (List α) :=
  (char first *> char last *> return []) <|> do
    discard (char first)
    let items ← sepBy item (char ',' *> notAt last)
    discard (optional (char ','))
    discard (char last)
    return items

/-- The name of a field. -/
def fieldName : Reader String :=
  String.ofList <$> (quotedChars <|> someRun fun c => isAlnum c || c = '-' || c = '_')

/-- A field of a table. -/
def namedField (value : Reader Data) : Reader (String × Data) := do
  let name ← blanks *> fieldName <* blanks
  discard (char '=')
  blanks
  return (name, ← value <* blanks)

/-- A table; of several fields of one name the last counts. -/
def tableOf (fields : List (String × Data)) : Data :=
  .table (fields.foldl (fun table f => Data.setField f.1 f.2 table) [])

/-- A value in which values nest less than `depth` deep. Its first character decides on its form. -/
def valueWithin : (depth : Nat) → Reader Data
  | 0, _ => none
  | depth + 1, cs =>
    let form := match (cs.dropWhile isSpace).head? with
      | some '[' => .list <$> bracketed '[' ']' (valueWithin depth)
      | some '\x7b' => tableOf <$> bracketed '\x7b' '\x7d' (namedField (valueWithin depth))
      | some '"' => quoted
      | some '\'' => single
      | _ => Toml.truth <|> bare
    (blanks *> form <* blanks) cs

/-- The value of a variable; the blanks around a text that has no form belong to it. -/
def readValue (text : String) : Data :=
  let cs := text.toList
  (readAll (valueWithin (cs.length + 1)) cs).getD (.text text)

end PluginSandbox.Setting
