/-!
# White space

The Unicode property `White_Space`, and the trimming of texts by it.

## Main definitions

* `isBlank`: membership in the property.
* `trim`: a text without the blanks at its two ends.
* `firstWord`: the first run of characters that are not blank.
-/

namespace PluginSandbox.Text

/-- The ranges of the Unicode property `White_Space`, first and last code point. -/
def blankRanges : List (Nat × Nat) :=
  [(0x09, 0x0D), (0x20, 0x20), (0x85, 0x85), (0xA0, 0xA0), (0x1680, 0x1680), (0x2000, 0x200A),
    (0x2028, 0x2029), (0x202F, 0x202F), (0x205F, 0x205F), (0x3000, 0x3000)]

/-- The character has the property `White_Space`. -/
def isBlank (c : Char) : Bool :=
  blankRanges.any fun r => r.1 ≤ c.toNat && c.toNat ≤ r.2

/-- A text without the blanks in front. -/
def trimStart (cs : List Char) : List Char := cs.dropWhile isBlank

/-- A text without the characters of a class at its end. -/
def trimEndBy (p : Char → Bool) (cs : List Char) : List Char := (cs.reverse.dropWhile p).reverse

/-- A text without the blanks at its two ends. -/
def trim (cs : List Char) : List Char := trimEndBy isBlank (trimStart cs)

/-- The first run of characters that are not blank; empty if there is none. -/
def firstWord (cs : List Char) : List Char := (trimStart cs).takeWhile fun c => !isBlank c

theorem trimEndBy_append_of_all (p : Char → Bool) (cs ds : List Char) (h : ∀ d ∈ ds, p d = true) :
    trimEndBy p (cs ++ ds) = trimEndBy p cs := by
  have : (ds.reverse ++ cs.reverse).dropWhile p = cs.reverse.dropWhile p :=
    List.dropWhile_append_of_pos (by simpa using h)
  simp [trimEndBy, this]

end PluginSandbox.Text
