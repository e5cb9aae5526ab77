/-!
# Globs

A glob matches texts cut into segments by `/`. A literal character stands for
itself, `?` for one character, `[..]` and `[!..]` for one character inside or
outside a class, and `*` for any run of characters; none of these but a literal
`/` ever crosses a segment. A segment `**` stands for any number of whole
segments, and at the end of a glob for everything that is left.

Matching is defined by trying the choices of each wildcard in turn
(`Glob.fits`), and computed one token at a time over all ends of the text
(`Glob.row`), which takes time proportional to tokens times characters.

## Main definitions

* `Glob.Token`: the parts of a glob.
* `Glob.read`: the tokens of a pattern; malformed patterns have none.
* `Glob.fits`: a text matches tokens.
* `Glob.row`, `Glob.accepts`: the same, computed by rows; `accepts_eq_fits`.
* `globMatches`: one pattern against one text.
-/

namespace PluginSandbox

namespace Glob

/-- A member of a character class: all characters between two, both included. -/
structure Span where
  first : Char
  last : Char
  deriving DecidableEq

/-- A part of a glob. -/
inductive Token where
  /-- One character, itself. -/
  | literal (c : Char)
  /-- One character of a segment. -/
  | anyChar
  /-- One character of a segment, inside or (`negated`) outside a class. -/
  | oneOf (negated : Bool) (members : List Span)
  /-- A run of characters within a segment. -/
  | anyText
  /-- A run of whole segments. -/
  | anyPath
  deriving DecidableEq

/-- The members of a class: `x-y` is a range, everything else a single character. -/
def spans : List Char → List Span
  | a :: '-' :: b :: cs => ⟨a, b⟩ :: spans cs
  | a :: cs => ⟨a, a⟩ :: spans cs
  | [] => []

/-- Where the reader stands. -/
inductive Mode where
  /-- Between tokens; `fresh` where a segment starts. -/
  | tokens (fresh : Bool)
  /-- Inside a class, with the members read so far in reverse. -/
  | members (negated : Bool) (read : List Char)

/-- The tokens of the rest of a pattern. -/
def readFrom : Mode → List Char → Option (List Token)
  | .tokens _, [] => some []
  | .tokens _, '?' :: cs => (readFrom (.tokens false) cs).map (.anyChar :: ·)
  | .tokens _, '*' :: '*' :: '*' :: _ => none
  | .tokens fresh, '*' :: '*' :: '/' :: cs =>
    if fresh then (readFrom (.tokens true) cs).map (.anyPath :: ·) else none
  | .tokens fresh, ['*', '*'] => if fresh then some [.anyPath] else none
  | .tokens _, '*' :: '*' :: _ :: _ => none
  | .tokens _, '*' :: cs => (readFrom (.tokens false) cs).map (.anyText :: ·)
  | .tokens _, '[' :: '!' :: cs => readFrom (.members true []) cs
  | .tokens _, '[' :: cs => readFrom (.members false []) cs
  | .tokens _, c :: cs => (readFrom (.tokens (c == '/')) cs).map (.literal c :: ·)
  | .members _ _, [] => none
  | .members negated read, c :: cs =>
    if c = ']' ∧ read ≠ [] then
      (readFrom (.tokens false) cs).map (.oneOf negated (spans read.reverse) :: ·)
    else readFrom (.members negated (c :: read)) cs

/-- The tokens of a pattern, unless it is malformed. -/
def read (pattern : List Char) : Option (List Token) := readFrom (.tokens true) pattern

/-- The character is in the class. -/
def inSpans (members : List Span) (c : Char) : Bool :=
  members.any fun s => s.first ≤ c && c ≤ s.last

/-- The single character that a token stands for; the runs stand for none. -/
def Token.admits : Token → Char → Bool
  | literal l, c => l == c
  | anyChar, c => c != '/'
  | oneOf negated members, c => c != '/' && (negated != inSpans members c)
  | anyText, _ => false
  | anyPath, _ => false

/-- Some continuation within the present segment satisfies `k`. -/
def withinSegment (k : List Char → Bool) : List Char → Bool
  | [] => k []
  | c :: cs => k (c :: cs) || (c != '/' && withinSegment k cs)

/-- The start of some later segment satisfies `k`. -/
def laterSegment (k : List Char → Bool) : List Char → Bool
  | [] => false
  | c :: cs => (c == '/' && k cs) || laterSegment k cs

/-- A text matches tokens from its start to its end. -/
def fits : List Token → List Char → Bool
  | [], cs => cs.isEmpty
  | .anyText :: ts, cs => withinSegment (fits ts) cs
  | .anyPath :: ts, cs => ts.isEmpty || fits ts cs || laterSegment (fits ts) cs
  | _ :: _, [] => false
  | t :: ts, c :: cs => t.admits c && fits ts cs

/-- The row of `[]`: only the empty end matches. -/
def lastRow (cs : List Char) : List Bool := cs.map (fun _ => false) ++ [true]

/-- The row of a token for one character, from the row of the tokens behind it. -/
def charRow (t : Token) : List Char → List Bool → List Bool
  | c :: cs, _ :: row => (t.admits c && row.headD false) :: charRow t cs row
  | _, _ => [false]

/-- The row of `anyText`, from the row of the tokens behind it. -/
def textRow : List Char → List Bool → List Bool
  | c :: cs, b :: row =>
    let rest := textRow cs row
    (b || (c != '/' && rest.headD false)) :: rest
  | _, row => row

/-- For every end of a text, whether a later segment matches. -/
def laterRow : List Char → List Bool → List Bool
  | c :: cs, _ :: row =>
    let rest := laterRow cs row
    ((c == '/' && row.headD false) || rest.headD false) :: rest
  | _, _ => [false]

/-- The row of `anyPath`, from the row of the tokens behind it. -/
def pathRow (final : Bool) (cs : List Char) (row : List Bool) : List Bool :=
  List.zipWith (fun here later => final || here || later) row (laterRow cs row)

/-- For every end of a text, longest first, whether it matches the tokens. -/
def row : List Token → List Char → List Bool
  | [], cs => lastRow cs
  | .anyText :: ts, cs => textRow cs (row ts cs)
  | .anyPath :: ts, cs => pathRow ts.isEmpty cs (row ts cs)
  | t :: ts, cs => charRow t cs (row ts cs)

/-- A text matches tokens from its start to its end, computed by rows. -/
def accepts (ts : List Token) (cs : List Char) : Bool := (row ts cs).headD false

theorem charRow_cons (t : Token) (c : Char) (cs : List Char) (b : Bool) (r : List Bool) :
    charRow t (c :: cs) (b :: r) = (t.admits c && r.headD false) :: charRow t cs r := rfl

/-- A row holds the answer for the whole text, and then the row of its tail. -/
theorem row_eq (ts : List Token) :
    (row ts [] = [fits ts []]) ∧
      ∀ c cs, row ts (c :: cs) = fits ts (c :: cs) :: row ts cs := by
  induction ts with
  | nil => exact ⟨rfl, fun _ _ => rfl⟩
  | cons t ts ih =>
    obtain ⟨h0, hs⟩ := ih
    have head (cs : List Char) : (row ts cs).headD false = fits ts cs := by
      cases cs with
      | nil => simp [h0]
      | cons c cs => simp [hs]
    have single (h1 : t ≠ .anyText) (h2 : t ≠ .anyPath) :
        (row (t :: ts) [] = [fits (t :: ts) []]) ∧
          ∀ c cs, row (t :: ts) (c :: cs) = fits (t :: ts) (c :: cs) :: row (t :: ts) cs := by
      have hr (cs : List Char) : row (t :: ts) cs = charRow t cs (row ts cs) := by
        cases t <;> simp_all [row]
      have hf (c : Char) (cs : List Char) :
          fits (t :: ts) (c :: cs) = (t.admits c && fits ts cs) := by
        cases t <;> simp_all [fits]
      constructor
      · rw [hr, h0]
        cases t <;> simp_all [charRow, fits]
      · intro c cs
        rw [hr, hs, hf, charRow_cons, head, hr]
    cases t with
    | literal l => exact single (by simp) (by simp)
    | anyChar => exact single (by simp) (by simp)
    | oneOf n m => exact single (by simp) (by simp)
    | anyText =>
      have hd (cs : List Char) :
          (textRow cs (row ts cs)).headD false = withinSegment (fits ts) cs := by
        induction cs with
        | nil => simp [textRow, h0, withinSegment]
        | cons c cs ih => simp [textRow, hs, withinSegment, ih, -List.headD_eq_head?_getD]
      constructor
      · simp [row, textRow, h0, fits, withinSegment]
      · intro c cs
        simp [row, hs, textRow, hd, fits, withinSegment, -List.headD_eq_head?_getD]
    | anyPath =>
      have hd (cs : List Char) :
          (laterRow cs (row ts cs)).headD false = laterSegment (fits ts) cs := by
        induction cs with
        | nil => simp [laterRow, laterSegment]
        | cons c cs ih => simp [laterRow, hs, laterSegment, ih, head, -List.headD_eq_head?_getD]
      constructor
      · simp [row, pathRow, laterRow, h0, fits, laterSegment]
      · intro c cs
        simp [row, pathRow, hs, laterRow, hd, head, fits, laterSegment, -List.headD_eq_head?_getD]

/-- Computing by rows gives the answer of the definition. -/
theorem accepts_eq_fits (ts : List Token) (cs : List Char) : accepts ts cs = fits ts cs := by
  cases cs with
  | nil => simp [accepts, row_eq]
  | cons c cs => simp [accepts, (row_eq ts).2]

end Glob

/-- The text matches the pattern; a malformed pattern matches nothing. -/
def globMatches (pattern text : String) : Bool :=
  (Glob.read pattern.toList).any fun ts => Glob.accepts ts text.toList

end PluginSandbox
