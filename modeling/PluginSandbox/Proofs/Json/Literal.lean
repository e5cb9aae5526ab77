import Mathlib.Data.List.TakeWhile
import PluginSandbox.Json.Printer
import PluginSandbox.Json.Token
import PluginSandbox.Proofs.Text.Numeral

/-!
# JSON literals read back

Every character of a text, whether it is escaped or not, is read back as one piece that
spells it, so a string literal spells the text that it was written for. An integer that
64 bits hold, with a sign or without, is read back as itself.

## Main definitions

* `Json.IsWord`: the integers that 64 bits hold.

## Main statements

* `Json.readPieces_escape`: the body of a string literal.
* `Json.readScalar_printInt`: integers.
-/

namespace PluginSandbox.Json

open Text

/-! ## Strings -/

/-- A unit that belongs to no surrogate pair spells a character of its own. -/
theorem spell_unit {n : Nat} (h : n < 0xD800) (ps : List Piece) :
    spell (.unit n :: ps) = (spell ps).map (Char.ofNat n :: ·) := by
  have hhigh : isHighUnit n = false := by
    simp only [isHighUnit, Bool.and_eq_false_iff, decide_eq_false_iff_not]
    omega
  have hlow : isLowUnit n = false := by
    simp only [isLowUnit, Bool.and_eq_false_iff, decide_eq_false_iff_not]
    omega
  cases ps with
  | nil => simp [spell, hhigh, hlow]
  | cons p ps => cases p <;> simp [spell, hhigh, hlow]

/-- The digits by which a character below U+0020 is escaped. -/
theorem readUnit_digits : ∀ n < 0x20,
    readUnit (some '0') (some '0') (some (Nat.digitChar (n / 16)))
      (some (Nat.digitChar (n % 16))) = some n := by
  decide

/-- A character is escaped by a letter, or stands for itself, or is escaped by its number. -/
theorem escapeChar_cases (c : Char) :
    (∃ e, e ≠ 'u' ∧ shortEscape e = some c ∧ escapeChar c = ['\\', e]) ∨
      (c ≠ '"' ∧ c ≠ '\\' ∧ 0x20 ≤ c.toNat ∧ escapeChar c = [c]) ∨
      (c.toNat < 0x20 ∧ escapeChar c =
        ['\\', 'u', '0', '0', Nat.digitChar (c.toNat / 16), Nat.digitChar (c.toNat % 16)]) := by
  by_cases hshort : c ∈ ['"', '\\', '\x08', '\x0C', '\n', '\r', '\t']
  · left
    simp only [List.mem_cons, List.not_mem_nil, or_false] at hshort
    rcases hshort with rfl | rfl | rfl | rfl | rfl | rfl | rfl
    · exact ⟨'"', by decide, rfl, rfl⟩
    · exact ⟨'\\', by decide, rfl, rfl⟩
    · exact ⟨'b', by decide, rfl, rfl⟩
    · exact ⟨'f', by decide, rfl, rfl⟩
    · exact ⟨'n', by decide, rfl, rfl⟩
    · exact ⟨'r', by decide, rfl, rfl⟩
    · exact ⟨'t', by decide, rfl, rfl⟩
  · right
    simp only [List.mem_cons, List.not_mem_nil, or_false, not_or] at hshort
    obtain ⟨hquote, hslash, hb, hf, hn, hr, ht⟩ := hshort
    by_cases hplain : 0x20 ≤ c.toNat
    · exact .inl ⟨hquote, hslash, hplain, by simp [escapeChar, hquote, hslash, hplain]⟩
    · exact .inr ⟨by omega, by simp [escapeChar, *]⟩

/-- A character in a string literal is read as one piece, which spells it. -/
theorem readPieces_escapeChar (c : Char) : ∃ piece,
    (∀ rest, readPieces ((escapeChar c).map some ++ rest) =
      (readPieces rest).map fun p => (piece :: p.1, p.2)) ∧
      ∀ ps, spell (piece :: ps) = (spell ps).map (c :: ·) := by
  rcases escapeChar_cases c with ⟨e, hu, he, h⟩ | ⟨hquote, hslash, hplain, h⟩ | ⟨hlow, h⟩
  · refine ⟨.char c, fun rest => ?_, fun ps => rfl⟩
    rw [h]
    simp [readPieces, hu, he]
  · refine ⟨.char c, fun rest => ?_, fun ps => rfl⟩
    have hlow : ¬ c.toNat < 0x20 := by omega
    rw [h]
    simp [readPieces, hslash, hlow]
  · refine ⟨.unit c.toNat, fun rest => ?_, fun ps => ?_⟩
    · rw [h]
      simp [readPieces, readUnit_digits c.toNat hlow]
    · rw [spell_unit (by omega), Char.ofNat_toNat]

/-- The body of a string literal, up to its quote, spells the text that it was written for. -/
theorem readPieces_escape (cs : List Char) (rest : List Symbol) :
    ∃ pieces, readPieces ((escape cs).map some ++ some '"' :: rest) = some (pieces, rest) ∧
      spell pieces = some cs := by
  induction cs with
  | nil => exact ⟨[], rfl, rfl⟩
  | cons c cs ih =>
    obtain ⟨pieces, hread, hspell⟩ := ih
    obtain ⟨piece, hpiece, hc⟩ := readPieces_escapeChar c
    refine ⟨piece :: pieces, ?_, ?_⟩
    · rw [escape, List.flatMap_cons, List.map_append, List.append_assoc, hpiece]
      exact congrArg _ hread
    · rw [hc, hspell]
      rfl

/-! ## Integers -/

/-- The integers that 64 bits hold, with a sign or without. -/
def IsWord (n : Int) : Prop := -(maxInt64 + 1 : Nat) ≤ n ∧ n ≤ maxNat64

instance (n : Int) : Decidable (IsWord n) :=
  inferInstanceAs (Decidable (-(maxInt64 + 1 : Nat) ≤ n ∧ n ≤ maxNat64))

theorem takeWhile_showNat (n : Nat) : (showNat n).takeWhile isDigit = showNat n :=
  List.takeWhile_eq_self_iff.2 (isDigit_of_mem_showNat n)

theorem dropWhile_showNat (n : Nat) : (showNat n).dropWhile isDigit = [] :=
  List.dropWhile_eq_nil_iff.2 (isDigit_of_mem_showNat n)

/-- The digits of a number are read as that integer, if it fits. -/
theorem readMagnitude_showNat {negative : Bool} {n : Nat} {d : Data}
    (h : integer? negative n = some d) : readMagnitude negative (showNat n) = some d := by
  have hlead : ¬ ((showNat n).head? = some '0' ∧ showNat n ≠ ['0']) := fun hzero =>
    hzero.2 (showNat_of_head?_eq_zero hzero.1)
  rw [readMagnitude, takeWhile_showNat, dropWhile_showNat,
    if_neg (not_or.2 ⟨showNat_ne_nil n, hlead⟩)]
  simp [readScaled, valueFrom_showNat, h]

/-- The digits of a number start with none of the other characters of scalars. -/
theorem showNat_ne_cons {c : Char} (hc : isDigit c = false) (n : Nat) (cs : List Char) :
    showNat n ≠ c :: cs := by
  intro h
  have hdigit := isDigit_of_mem_showNat n c (by rw [h]; exact List.mem_cons_self)
  rw [hc] at hdigit
  contradiction

theorem readNumber_showNat (n : Nat) :
    readNumber (showNat n) = readMagnitude false (showNat n) := by
  rw [readNumber]
  exact fun cs => showNat_ne_cons (by decide) n cs

/-- A word is read back as itself. -/
theorem readNumber_printInt {n : Int} (h : IsWord n) : readNumber (printInt n) = some (.int n) := by
  obtain ⟨hlow, hhigh⟩ := h
  cases n with
  | ofNat n =>
    rw [printInt, readNumber_showNat]
    refine readMagnitude_showNat ?_
    have hn : n ≤ maxNat64 := Int.ofNat_le.1 hhigh
    simp [integer?, hn]
  | negSucc n =>
    have hn : n + 1 ≤ maxInt64 + 1 := by omega
    refine @readMagnitude_showNat true _ _ ?_
    rw [Int.negSucc_eq]
    simp [integer?, hn]

/-- An integer starts like none of the words. -/
theorem printInt_ne_cons {c : Char} (hdigit : isDigit c = false) (hsign : c ≠ '-') (n : Int)
    (cs : List Char) : printInt n ≠ c :: cs := by
  cases n with
  | ofNat n => exact showNat_ne_cons hdigit n cs
  | negSucc n =>
    intro h
    exact hsign (List.cons.inj h).1.symm

theorem readScalar_printInt {n : Int} (h : IsWord n) : readScalar (printInt n) = some (.int n) := by
  have hnull : "null".toList = ['n', 'u', 'l', 'l'] := rfl
  have htrue : "true".toList = ['t', 'r', 'u', 'e'] := rfl
  have hfalse : "false".toList = ['f', 'a', 'l', 's', 'e'] := rfl
  rw [readScalar, hnull, htrue, hfalse, if_neg (printInt_ne_cons (by decide) (by decide) n _),
    if_neg (printInt_ne_cons (by decide) (by decide) n _),
    if_neg (printInt_ne_cons (by decide) (by decide) n _)]
  exact readNumber_printInt h

theorem isScalarChar_of_isDigit {c : Char} (h : isDigit c = true) : isScalarChar c = true := by
  simp [isScalarChar, isAlnum, h]

theorem isScalarChar_printInt (n : Int) : ∀ c ∈ printInt n, isScalarChar c = true := by
  have hdigits : ∀ m, ∀ c ∈ showNat m, isScalarChar c = true := fun m c hc =>
    isScalarChar_of_isDigit (isDigit_of_mem_showNat m c hc)
  cases n with
  | ofNat n => exact hdigits n
  | negSucc n =>
    intro c hc
    rcases List.mem_cons.1 hc with rfl | hc
    · decide
    · exact hdigits (n + 1) c hc

theorem printInt_ne_nil (n : Int) : printInt n ≠ [] := by
  cases n with
  | ofNat n => exact showNat_ne_nil n
  | negSucc n => exact List.cons_ne_nil _ _

end PluginSandbox.Json
