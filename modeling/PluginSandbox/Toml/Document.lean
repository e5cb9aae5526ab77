import PluginSandbox.Toml.Value

/-!
# TOML documents

A document is a run of assignments followed by sections, each under a header.
A header in double brackets adds a table to a list of tables.

## Main definitions

* `Toml.Section`, `Toml.Document`: the parts of a document.
* `Toml.Document.fields`: the tables that a document describes.
* `Toml.read`: the tree that a text spells.
-/

namespace PluginSandbox.Toml

open Text Text.Reader

/-- A header with the assignments below it. -/
structure Section where
  /-- The header adds a table to a list. -/
  repeated : Bool
  header : Key
  assignments : List (Key × Data)

/-- A document. -/
structure Document where
  /-- The assignments above the first header. -/
  top : List (Key × Data)
  sections : List Section

/-- Blanks, comments and line ends between statements. -/
def betweenStatements : Reader Unit :=
  discard (many (discard (someRun isSpace) <|> lineEnd <|> (comment *> (lineEnd <|> finish))))

/-- An assignment on a line of its own. -/
def statement : Reader (Key × Data) := assignment value <* lineTail <* betweenStatements

/-- A header; whether it stands in double brackets. -/
def header : Reader (Bool × Key) :=
  (word "[[" *> ((true, ·) <$> key) <* word "]]") <|> (word "[" *> ((false, ·) <$> key) <* word "]")

/-- A header and the assignments below it. -/
def sectionText : Reader Section := do
  let (repeated, name) ← header
  lineTail
  betweenStatements
  return ⟨repeated, name, ← many statement⟩

/-- A document, perhaps behind a byte order mark. -/
def document : Reader Document := do
  discard (optional (char '\uFEFF'))
  betweenStatements
  let top ← many statement
  return ⟨top, ← many sectionText⟩

/-- The effect of a section. -/
def Section.addTo (part : Section) (root : Fields) : Option Fields :=
  if part.repeated then appendTable root part.header part.assignments
  else openTable root part.header part.assignments

/-- The fields that a document describes. -/
def Document.fields (doc : Document) : Option Fields := do
  doc.sections.foldlM (fun root part => part.addTo root) (← assignAll [] doc.top)

/-- The tree that a text spells. -/
def read (text : String) : Option Data := do
  let doc ← readAll document text.toList
  return .table (fieldsToData (← doc.fields))

end PluginSandbox.Toml
