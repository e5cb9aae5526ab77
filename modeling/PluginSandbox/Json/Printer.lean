import PluginSandbox.Data.Basic
import PluginSandbox.Text.Numeral

/-!
# Writing JSON

Trees are written without blanks and with fields in their order. In strings
only the quote, the backslash and the characters below U+0020 are escaped, by
the short escape where one exists.

## Main definitions

* `Json.escape`: the body of a string literal.
* `Json.print`: the text of a tree.
* `Json.write`: the same as a string.
-/

namespace PluginSandbox.Json

open Text

/-- A character in a string literal. -/
def escapeChar (c : Char) : List Char :=
  if c = '"' then ['\\', '"']
  else if c = '\\' then ['\\', '\\']
  else if 0x20 ≤ c.toNat then [c]
  else if c = '\x08' then ['\\', 'b']
  else if c = '\x0C' then ['\\', 'f']
  else if c = '\n' then ['\\', 'n']
  else if c = '\r' then ['\\', 'r']
  else if c = '\t' then ['\\', 't']
  else ['\\', 'u', '0', '0', Nat.digitChar (c.toNat / 16), Nat.digitChar (c.toNat % 16)]

/-- The body of a string literal. -/
def escape (cs : List Char) : List Char := cs.flatMap escapeChar

/-- A string literal. -/
def quote (s : String) : List Char := '"' :: escape s.toList ++ ['"']

/-- An integer in decimal digits. -/
def printInt : Int → List Char
  | .ofNat n => showNat n
  | .negSucc n => '-' :: showNat (n + 1)

mutual

/-- The text of a tree; a part without a reading is written like the absent value. -/
def print : Data → List Char
  | .null => "null".toList
  | .bool true => "true".toList
  | .bool false => "false".toList
  | .int n => printInt n
  | .real m x => printInt m ++ 'e' :: printInt x
  | .text s => quote s
  | .list [] => ['[', ']']
  | .list (d :: ds) => '[' :: print d ++ printItems ds
  | .table [] => ['\x7b', '\x7d']
  | .table ((n, d) :: fs) => '\x7b' :: quote n ++ ':' :: print d ++ printFields fs
  | .garbled => "null".toList

/-- The items behind the first, and the end of the list. -/
def printItems : List Data → List Char
  | [] => [']']
  | d :: ds => ',' :: print d ++ printItems ds

/-- The fields behind the first, and the end of the table. -/
def printFields : List (String × Data) → List Char
  | [] => ['\x7d']
  | (n, d) :: fs => ',' :: quote n ++ ':' :: print d ++ printFields fs

end

/-- The text of a tree. -/
def write (d : Data) : String := String.ofList (print d)

end PluginSandbox.Json
