import Mathlib.Data.List.TakeWhile
import PluginSandbox.Proofs.Text.Ascii

/-!
# Blanks at the ends of a text

Trimming takes away the blanks at the ends and nothing else, so it leaves a text alone that
has none there, and it never reaches beyond a visible character. No letter is a blank, so
trimming and folding case can be done in either order.

## Main definitions

* `isVisible`: the characters of ASCII that are no blanks.

## Main statements

* `trim_append_append`: blanks around a text.
* `trimStart_append_cons`, `trimEndBy_append_cons`: where trimming stops.
* `firstWord_eq_trim`: a single word with blanks around it.
* `lower_trim`: trimming a folded text.
-/

namespace PluginSandbox.Text

variable {p : Char → Bool} {cs : List Char}

/-! ## Visible characters -/

/-- A visible character of ASCII, or one of those behind them up to U+0084. -/
def isVisible (c : Char) : Bool := 0x20 < c.toNat && c.toNat < 0x85

theorem isBlank_of_isVisible {c : Char} (h : isVisible c = true) : isBlank c = false := by
  rw [Bool.eq_false_iff]
  intro hblank
  simp only [isVisible, Bool.and_eq_true, decide_eq_true_eq] at h
  simp only [isBlank, blankRanges, List.any_cons, List.any_nil, Bool.or_eq_true,
    Bool.and_eq_true, decide_eq_true_eq, Bool.false_eq_true, or_false] at hblank
  omega

theorem isVisible_of_isDigit {c : Char} (h : isDigit c = true) : isVisible c = true := by
  rw [isDigit_iff] at h
  simp only [isVisible, Bool.and_eq_true, decide_eq_true_eq]
  omega

theorem isVisible_of_hexValue {c : Char} (h : (hexValue c).isSome = true) : isVisible c = true := by
  have hletter {lo hi : Char} (hc : (decide (lo ≤ c) && decide (c ≤ hi)) = true) :
      lo.toNat ≤ c.toNat ∧ c.toNat ≤ hi.toNat := by
    simp only [Bool.and_eq_true, decide_eq_true_eq, Char.le_def, UInt32.le_iff_toNat_le] at hc
    exact hc
  rw [hexValue] at h
  split at h
  · exact isVisible_of_isDigit ‹_›
  · simp only [isVisible, Bool.and_eq_true, decide_eq_true_eq]
    split at h
    · have hc := hletter ‹_›
      have ha : 'a'.toNat = 97 := rfl
      have hf : 'f'.toNat = 102 := rfl
      omega
    · split at h
      · have hc := hletter ‹_›
        have ha : 'A'.toNat = 65 := rfl
        have hf : 'F'.toNat = 70 := rfl
        omega
      · contradiction

@[simp] theorem isBlank_toLower (c : Char) : isBlank c.toLower = isBlank c := by
  rcases toLower_cases c with hself | ⟨hlo, hhi, hlower⟩
  · rw [hself]
  · have hletter : isVisible c = true := by simp [isVisible]; omega
    have hfolded : isVisible c.toLower = true := by simp [isVisible]; omega
    rw [isBlank_of_isVisible hletter, isBlank_of_isVisible hfolded]

/-! ## Texts that are left alone -/

theorem dropWhile_eq_self (h : ∀ c ∈ cs.head?, p c = false) : cs.dropWhile p = cs := by
  cases cs with
  | nil => rfl
  | cons c cs => exact List.dropWhile_cons_of_neg (by simp [h c rfl])

theorem trimStart_eq_self (h : ∀ c ∈ cs.head?, isBlank c = false) : trimStart cs = cs :=
  dropWhile_eq_self h

theorem trimEndBy_eq_self (h : ∀ c ∈ cs.getLast?, p c = false) : trimEndBy p cs = cs := by
  rw [trimEndBy, dropWhile_eq_self (by rwa [List.head?_reverse]), List.reverse_reverse]

/-- There is nothing to take away from a text without blanks. -/
theorem trim_eq_self (h : ∀ c ∈ cs, isBlank c = false) : trim cs = cs := by
  rw [trim, trimStart_eq_self fun c hc => h c (List.mem_of_mem_head? hc),
    trimEndBy_eq_self fun c hc => h c (List.mem_of_getLast? hc)]

theorem trim_of_isVisible (h : ∀ c ∈ cs, isVisible c = true) : trim cs = cs :=
  trim_eq_self fun c hc => isBlank_of_isVisible (h c hc)

/-! ## Where trimming stops -/

theorem dropWhile_append_cons {c : Char} (hc : p c = false) (front back : List Char) :
    (front ++ c :: back).dropWhile p = front.dropWhile p ++ c :: back := by
  rw [List.dropWhile_append, List.dropWhile_cons_of_neg (by simp [hc])]
  split
  case isTrue hfront => rw [List.isEmpty_iff.1 hfront, List.nil_append]
  case isFalse => rfl

theorem trimStart_append_cons {c : Char} (hc : isBlank c = false) (front back : List Char) :
    trimStart (front ++ c :: back) = trimStart front ++ c :: back :=
  dropWhile_append_cons hc front back

theorem trimEndBy_append_cons {c : Char} (hc : p c = false) (front back : List Char) :
    trimEndBy p (front ++ c :: back) = front ++ c :: trimEndBy p back := by
  have hreverse : (front ++ c :: back).reverse = back.reverse ++ c :: front.reverse := by simp
  rw [trimEndBy, hreverse, dropWhile_append_cons hc, trimEndBy]
  simp

theorem trim_append_append {front back : List Char} (hfront : ∀ c ∈ front, isBlank c = true)
    (hback : ∀ c ∈ back, isBlank c = true) (cs : List Char) :
    trim (front ++ cs ++ back) = trim cs := by
  have hdrop : trimStart (front ++ cs ++ back) = trimStart (cs ++ back) := by
    rw [trimStart, List.append_assoc, List.dropWhile_append_of_pos hfront, trimStart]
  rw [trim, hdrop, trim, trimStart, trimStart, List.dropWhile_append]
  split
  case isTrue hcs =>
    -- Nothing is visible, neither in the text nor behind it.
    have hnil : back.dropWhile isBlank = [] := List.dropWhile_eq_nil_iff.2 hback
    rw [List.isEmpty_iff.1 hcs, hnil]
  case isFalse => exact trimEndBy_append_of_all _ _ _ hback

/-! ## Single words -/

/-- What is taken away at the end of a text stands behind what is left of it. -/
theorem exists_eq_trimEndBy_append (p : Char → Bool) (cs : List Char) :
    ∃ back, (∀ c ∈ back, p c = true) ∧ cs = trimEndBy p cs ++ back := by
  refine ⟨(cs.reverse.takeWhile p).reverse, ?_, ?_⟩
  · intro c hc
    exact List.mem_takeWhile_imp (List.mem_reverse.1 hc)
  · rw [trimEndBy, ← List.reverse_append, List.takeWhile_append_dropWhile, List.reverse_reverse]

/-- The first word of a text that has blanks at its ends only is the text without them. -/
theorem firstWord_eq_trim (h : ∀ c ∈ trim cs, isBlank c = false) : firstWord cs = trim cs := by
  obtain ⟨back, hback, hcs⟩ := exists_eq_trimEndBy_append isBlank (trimStart cs)
  have hend : back.takeWhile (fun c => !isBlank c) = [] := by
    cases back with
    | nil => rfl
    | cons b back => exact List.takeWhile_cons_of_neg (by simp [hback b])
  rw [firstWord, hcs, List.takeWhile_append_of_pos (by simpa [trim] using h), hend,
    List.append_nil, trim]

/-! ## Folded texts -/

theorem lower_trim (cs : List Char) : lower (trim cs) = trim (lower cs) := by
  have hblank : ∀ c : Char, isBlank c.toLower = isBlank c := isBlank_toLower
  rw [trim, trim, trimStart, trimStart, lower_trimEndBy hblank, lower_dropWhile hblank]

end PluginSandbox.Text
