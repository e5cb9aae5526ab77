import PluginSandbox.Text.Split

/-!
# Readers

A reader takes a value from the front of a text and hands on what follows, or
fails. Readers run one after another in `do` blocks, and `a <|> b` tries `b`
where `a` fails, on the same text. Every reader is total: repetition stops as
soon as a round takes nothing from the text.

## Main definitions

* `Reader`: readers of the front of a text.
* `Reader.one`, `Reader.run`, `Reader.word`: characters, runs and given texts.
* `Reader.many`, `Reader.sepBy`: repetition.
* `Reader.readAll`: the value of a text that is read to its end.
-/

namespace PluginSandbox.Text

/-- A reader of the front of a text: a value and the text behind it, or nothing. -/
abbrev Reader := StateT (List Char) Option

namespace Reader

variable {α β : Type}

/-- One character of a class. -/
def one (p : Char → Bool) : Reader Char
  | c :: cs => if p c then some (c, cs) else none
  | [] => none

/-- A given character. -/
def char (c : Char) : Reader Char := one (· == c)

/-- The longest run of a class, which may be empty. -/
def run (p : Char → Bool) : Reader (List Char) := fun cs => some (cs.takeWhile p, cs.dropWhile p)

/-- The longest run of a class, which must not be empty. -/
def someRun (p : Char → Bool) : Reader (List Char) := do
  let c ← one p
  return c :: (← run p)

/-- Exactly `n` characters of a class. -/
def times (p : Char → Bool) : (n : Nat) → Reader (List Char)
  | 0 => return []
  | n + 1 => do
    let c ← one p
    return c :: (← times p n)

/-- A given text. -/
def word (text : String) : Reader Unit := fun cs =>
  (stripPrefix? text.toList cs).map fun rest => ((), rest)

/-- The items that are read one after another, and the text behind them. -/
def manyFrom (item : Reader α) (cs : List Char) : List α × List Char :=
  match item cs with
  | none => ([], cs)
  | some (a, rest) =>
    if rest.length < cs.length then
      let more := manyFrom item rest
      (a :: more.1, more.2)
    else ([], cs)
termination_by cs.length

/-- As many items as there are, which may be none. -/
def many (item : Reader α) : Reader (List α) := fun cs => some (manyFrom item cs)

/-- Items with separators between them, at least one. -/
def sepBy (item : Reader α) (separator : Reader β) : Reader (List α) := do
  let first ← item
  return first :: (← many (separator *> item))

/-- An optional sign; whether it is negative. -/
def sign : Reader Bool := (char '-' *> return true) <|> (char '+' *> return false) <|> return false

/-- Takes nothing, and fails in front of a given character. -/
def notAt (c : Char) : Reader Unit := fun cs => if cs.head? = some c then none else some ((), cs)

/-- A value that is there; takes nothing from the text. -/
def ofOption (value : Option α) : Reader α := fun cs => value.map fun a => (a, cs)

/-- Succeeds at the end of the text only. -/
def finish : Reader Unit
  | [] => some ((), [])
  | _ :: _ => none

/-- The value of a text that a reader takes to its end. -/
def readAll (item : Reader α) (cs : List Char) : Option α :=
  match item cs with
  | some (a, []) => some a
  | _ => none

end Reader

end PluginSandbox.Text
