import PluginSandbox.Text.Numeral
import PluginSandbox.Text.Reader

/-!
# Texts in TOML

Line ends, comments, and the four forms of a string: with escapes or verbatim,
on one line or on several. A string of several lines drops a line end that
directly follows its opening quotes, and up to two of its own quotes may stand
directly before the closing ones.

## Main definitions

* `Toml.blanks`, `Toml.lineEnd`, `Toml.comment`: what stands between values.
* `Toml.lineText`: a string on one line.
* `Toml.text`: a string of any form.
-/

namespace PluginSandbox.Toml

open Text Text.Reader

/-- A space or a tab. -/
def isSpace (c : Char) : Bool := c = ' ' || c = '\t'

/-- A tab, or any character but the controls of ASCII. -/
def isPrintable (c : Char) : Bool := c = '\t' || (0x20 ≤ c.toNat && c.toNat ≠ 0x7F)

/-- Spaces and tabs. -/
def blanks : Reader Unit := discard (run isSpace)

/-- A line end; a carriage return counts only before a line feed. -/
def lineEnd : Reader Unit := word "\n" <|> word "\x0d\n"

/-- A comment up to the end of its line. -/
def comment : Reader Unit := char '#' *> discard (run isPrintable)

/-- The end of a line behind its last value, or the end of the text. -/
def lineTail : Reader Unit := blanks *> optional comment *> (lineEnd <|> finish)

/-- Spaces, comments and line ends. -/
def gap : Reader Unit :=
  discard (many (discard (someRun isSpace) <|> (optional comment *> lineEnd)))

/-- The character whose code point is given by `n` hexadecimal digits. -/
def codePoint (n : Nat) : Reader Char := do
  let digits ← times (fun c => (hexValue c).isSome) n
  let value ← ofOption (readHex digits)
  if value.isValidChar then return Char.ofNat value else failure

/-- A character written by a backslash and what follows. -/
def escape : Reader Char := do
  discard (char '\\')
  match ← one fun _ => true with
  | 'b' => return '\x08'
  | 'f' => return '\x0C'
  | 'n' => return '\n'
  | 'r' => return '\x0d'
  | 't' => return '\t'
  | 'u' => codePoint 4
  | 'U' => codePoint 8
  | c => if c = '"' || c = '\\' then return c else failure

/-- Characters of a string with escapes that stand for themselves. -/
def isPlain (c : Char) : Bool := isPrintable c && c ≠ '"' && c ≠ '\\'

/-- Characters of a verbatim string. -/
def isVerbatim (c : Char) : Bool := isPrintable c && c ≠ '\''

/-- The characters of a string on one line up to its first escape, and then its other parts. -/
def escapedParts : Reader (List Char × List (List Char)) := do
  discard (char '"')
  let front ← run isPlain
  let parts ← many (someRun isPlain <|> (do return [← escape]))
  discard (char '"')
  return (front, parts)

/-- A string with escapes on one line. -/
def escapedLine : Reader (List Char) := (fun s => s.1 ++ s.2.flatten) <$> escapedParts

/-- A verbatim string on one line. -/
def verbatimLine : Reader (List Char) := char '\'' *> run isVerbatim <* char '\''

/-- A string on one line. -/
def lineText : Reader String := String.ofList <$> (escapedLine <|> verbatimLine)

/-- One or two quotes inside a string of several lines. -/
def innerQuotes (quote : Char) : Reader (List Char) := do
  let quotes ← someRun (· == quote)
  if quotes.length ≤ 2 then return quotes else failure

/-- The quotes at the end of a string of several lines: the ones that belong to the string. -/
def closingQuotes (quote : Char) : Reader (List Char) := do
  let quotes ← run (· == quote)
  if 3 ≤ quotes.length && quotes.length ≤ 5 then return quotes.drop 3 else failure

/-- A line end inside a string, which is always a line feed. -/
def innerLineEnd : Reader (List Char) := lineEnd *> return ['\n']

/-- A backslash at the end of a line hides the blanks and line ends that follow. -/
def hiddenLineEnd : Reader (List Char) := do
  discard (char '\\')
  blanks
  lineEnd
  discard (many (discard (someRun isSpace) <|> lineEnd))
  return []

/-- A string of several lines, made of given parts. -/
def block (quote : Char) (part : Reader (List Char)) : Reader (List Char) := do
  discard (times (· == quote) 3)
  discard (optional lineEnd)
  let parts ← many (part <|> innerLineEnd <|> innerQuotes quote)
  let last ← closingQuotes quote
  return parts.flatten ++ last

/-- A string with escapes on several lines. -/
def escapedBlock : Reader (List Char) :=
  block '"' (someRun isPlain <|> hiddenLineEnd <|> (do return [← escape]))

/-- A verbatim string on several lines. -/
def verbatimBlock : Reader (List Char) := block '\'' (someRun isVerbatim)

/-- A string of any form. -/
def text : Reader String :=
  (String.ofList <$> (escapedBlock <|> verbatimBlock)) <|> lineText

end PluginSandbox.Toml
