import PluginSandbox.Json.Number

/-!
# JSON tokens

The lexical level of JSON. Input is a list of symbols: characters, and holes
for bytes that belong to no character. A hole is tolerated inside a string,
which then spells no text, and nowhere else.

## Main definitions

* `Json.Symbol`: a character or a hole.
* `Json.Token`: brackets, separators, strings and other scalars.
* `Json.readScalar`: the value of a scalar other than a string.
* `Json.tokens`: the tokens of an input.
-/

namespace PluginSandbox.Json

open Text

/-- A character, or nothing for a byte that belongs to no character. -/
abbrev Symbol := Option Char

/-- The symbols of a text. -/
def symbols (text : String) : List Symbol := text.toList.map some

/-- A lexical unit of JSON. -/
inductive Token where
  | openList
  | closeList
  | openTable
  | closeTable
  | colon
  | comma
  /-- A string, with its text if it spells one. -/
  | text (s : Option String)
  /-- Any other scalar. -/
  | scalar (d : Data)

/-- A part of a string literal. -/
inductive Piece where
  /-- A character, written plainly or by a short escape. -/
  | char (c : Char)
  /-- A 16-bit unit, written as `\u` and four digits. -/
  | unit (n : Nat)
  /-- A byte that belongs to no character. -/
  | hole

/-- The character of a short escape. -/
def shortEscape : Char → Option Char
  | '"' => some '"'
  | '\\' => some '\\'
  | '/' => some '/'
  | 'b' => some '\x08'
  | 'f' => some '\x0C'
  | 'n' => some '\n'
  | 'r' => some '\r'
  | 't' => some '\t'
  | _ => none

/-- The value of four hexadecimal digits. -/
def readUnit (a b c d : Symbol) : Option Nat :=
  match a, b, c, d with
  | some a, some b, some c, some d => readHex [a, b, c, d]
  | _, _, _, _ => none

/-- The pieces of a string literal up to its closing quote, and the input behind it. -/
def readPieces : List Symbol → Option (List Piece × List Symbol)
  | [] => none
  | none :: cs => (readPieces cs).map fun p => (.hole :: p.1, p.2)
  | some '"' :: cs => some ([], cs)
  | some '\\' :: some 'u' :: a :: b :: c :: d :: cs =>
    match readUnit a b c d with
    | some n => (readPieces cs).map fun p => (.unit n :: p.1, p.2)
    | none => none
  | some '\\' :: some e :: cs =>
    match shortEscape e with
    | some c => (readPieces cs).map fun p => (.char c :: p.1, p.2)
    | none => none
  | some '\\' :: _ => none
  | some c :: cs =>
    if c.toNat < 0x20 then none else (readPieces cs).map fun p => (.char c :: p.1, p.2)

/-- A unit that starts a surrogate pair. -/
def isHighUnit (n : Nat) : Bool := 0xD800 ≤ n && n < 0xDC00

/-- A unit that ends a surrogate pair. -/
def isLowUnit (n : Nat) : Bool := 0xDC00 ≤ n && n < 0xE000

/-- The text that pieces spell; units of surrogate pairs have to come in pairs. -/
def spell : List Piece → Option (List Char)
  | [] => some []
  | .char c :: ps => (spell ps).map (c :: ·)
  | .hole :: _ => none
  | .unit h :: .unit l :: ps =>
    if isHighUnit h then
      if isLowUnit l then
        (spell ps).map (Char.ofNat (0x10000 + (h - 0xD800) * 0x400 + (l - 0xDC00)) :: ·)
      else none
    else if isLowUnit h then none
    else (spell (.unit l :: ps)).map (Char.ofNat h :: ·)
  | .unit n :: ps =>
    if isHighUnit n || isLowUnit n then none else (spell ps).map (Char.ofNat n :: ·)

/-- The value of a scalar other than a string. -/
def readScalar (cs : List Char) : Option Data :=
  if cs = "null".toList then some .null
  else if cs = "true".toList then some (.bool true)
  else if cs = "false".toList then some (.bool false)
  else readNumber cs

/-- Blanks between tokens. -/
def isSpace (c : Char) : Bool := c = ' ' || c = '\t' || c = '\n' || c = '\r'

/-- The token that a single character makes. -/
def punctuation? : Char → Option Token
  | '[' => some .openList
  | ']' => some .closeList
  | '\x7b' => some .openTable
  | '\x7d' => some .closeTable
  | ':' => some .colon
  | ',' => some .comma
  | _ => none

/-- Characters of scalars other than strings. -/
def isScalarChar (c : Char) : Bool := isAlnum c || c = '+' || c = '-' || c = '.'

/-- The longest run of scalar characters. -/
def takeScalar : List Symbol → List Char
  | some c :: cs => if isScalarChar c then c :: takeScalar cs else []
  | _ => []

/-- The input behind the longest run of scalar characters. -/
def dropScalar : List Symbol → List Symbol
  | some c :: cs => if isScalarChar c then dropScalar cs else some c :: cs
  | cs => cs

theorem length_dropScalar_le (cs : List Symbol) : (dropScalar cs).length ≤ cs.length := by
  fun_induction dropScalar cs with
  | case1 c cs _ ih =>
    simp only [List.length_cons]
    omega
  | case2 => exact Nat.le_refl _
  | case3 => exact Nat.le_refl _

theorem length_of_readPieces {cs rest : List Symbol} {ps : List Piece}
    (h : readPieces cs = some (ps, rest)) : rest.length < cs.length := by
  fun_induction readPieces cs generalizing ps rest <;> simp_all <;> grind

/-- The tokens of an input. -/
def tokens (input : List Symbol) : Option (List Token) :=
  match input with
  | [] => some []
  | none :: _ => none
  | some c :: cs =>
    if isSpace c then tokens cs
    else match punctuation? c with
      | some t => (tokens cs).map (t :: ·)
      | none =>
        if c = '"' then
          match _h : readPieces cs with
          | some (ps, rest) => (tokens rest).map (.text ((spell ps).map String.ofList) :: ·)
          | none => none
        else
          match readScalar (c :: takeScalar cs) with
          | some d => (tokens (dropScalar cs)).map (.scalar d :: ·)
          | none => none
termination_by input.length
decreasing_by
  · simp
  · simp
  · have := length_of_readPieces _h
    simp only [List.length_cons]
    omega
  · have := length_dropScalar_le cs
    simp only [List.length_cons]
    omega

end PluginSandbox.Json
