/-!
# ASCII letters and digits

Case folding touches the twenty-six Latin letters and leaves every other
character alone, so folding never changes how many characters a text has or
where they stand.

## Main definitions

* `lower`, `upper`: a text with its ASCII letters folded.
* `sameFolded`: equality of texts up to ASCII case.
* `isLowerAlnum`, `isAlnum`: the character classes of names.
-/

namespace PluginSandbox.Text

/-- A text with `A` to `Z` replaced by `a` to `z`. -/
def lower (cs : List Char) : List Char := cs.map Char.toLower

/-- A text with `a` to `z` replaced by `A` to `Z`. -/
def upper (cs : List Char) : List Char := cs.map Char.toUpper

/-- Two texts are equal once ASCII case is ignored. -/
def sameFolded (a b : List Char) : Bool := lower a == lower b

/-- One of `0` to `9`. -/
def isDigit (c : Char) : Bool := '0' ≤ c && c ≤ '9'

/-- One of `a` to `z`. -/
def isLower (c : Char) : Bool := 'a' ≤ c && c ≤ 'z'

/-- One of `A` to `Z`. -/
def isUpper (c : Char) : Bool := 'A' ≤ c && c ≤ 'Z'

/-- A lower-case letter or a digit. -/
def isLowerAlnum (c : Char) : Bool := isLower c || isDigit c

/-- A letter of either case or a digit. -/
def isAlnum (c : Char) : Bool := isLower c || isUpper c || isDigit c

@[simp] theorem length_lower (cs : List Char) : (lower cs).length = cs.length := by simp [lower]

@[simp] theorem lower_nil : lower [] = [] := rfl

@[simp] theorem lower_cons (c : Char) (cs : List Char) :
    lower (c :: cs) = c.toLower :: lower cs := rfl

@[simp] theorem lower_append (a b : List Char) : lower (a ++ b) = lower a ++ lower b := by
  simp [lower]

theorem sameFolded_iff (a b : List Char) : sameFolded a b = true ↔ lower a = lower b := by
  simp [sameFolded]

end PluginSandbox.Text
