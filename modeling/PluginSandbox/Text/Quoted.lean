import PluginSandbox.Text.Numeral
import PluginSandbox.Text.Printable

/-!
# Quoted texts

Texts in double quotes for diagnostic output: quotes and backslashes are
escaped, four controls have short escapes, and a character that cannot be
shown by itself is written by its code point.

## Main definitions

* `quotedChar`: one character between the quotes.
* `quoted`: a text with its quotes.
* `quotedList`: a list of texts in brackets.
-/

namespace PluginSandbox.Text

/-- One character between the quotes. -/
def quotedChar (c : Char) : List Char :=
  if c = '"' then ['\\', '"']
  else if c = '\\' then ['\\', '\\']
  else if c = '\n' then ['\\', 'n']
  else if c = '\r' then ['\\', 'r']
  else if c = '\t' then ['\\', 't']
  else if c = '\x00' then ['\\', '0']
  else if isHidden c then ['\\', 'u', '\x7b'] ++ showHex c.toNat ++ ['\x7d']
  else [c]

/-- A text in double quotes. -/
def quoted (s : String) : String := String.ofList ('"' :: s.toList.flatMap quotedChar ++ ['"'])

/-- Parts in brackets. -/
def bracketed (parts : List String) : String := "[" ++ ", ".intercalate parts ++ "]"

/-- Texts in double quotes, in brackets. -/
def quotedList (texts : List String) : String := bracketed (texts.map quoted)

end PluginSandbox.Text
