import Mathlib.Data.List.Induction
import PluginSandbox.Proofs.Text.Ascii
import PluginSandbox.Text.Numeral

/-!
# Numerals read back

The decimal and the hexadecimal digits of a number are read back as that
number. A numeral shows nothing but digits, so it contains none of the
separators that addresses are cut at. A port is read from any digits of its
value, with or without a plus sign in front of them.

## Main definitions

* `SpellsPort`: the spellings of a port.

## Main statements

* `readNat_eq_some_iff`, `readPort_eq_some_iff`: what is read from digits.
* `readNat_showNat`, `readHex_showHex`: numerals are read back.
* `showNat_valueFrom`: digits without zeros in front are what their value is shown as.
-/

namespace PluginSandbox.Text

/-! ## Single digits -/

theorem isDigit_digitChar {d : Nat} (hd : d < 10) : isDigit d.digitChar = true := by
  revert d
  decide

theorem digitValue_lt {c : Char} (h : isDigit c = true) : digitValue c < 10 := by
  have hc := (isDigit_iff c).1 h
  change c.toNat - 48 < 10
  omega

/-- A digit is what its value is shown as. -/
theorem digitChar_digitValue {c : Char} (h : isDigit c = true) : (digitValue c).digitChar = c := by
  have hshown : ∀ d < 10, d.digitChar.toNat = d + 48 := by decide
  have hc := (isDigit_iff c).1 h
  apply Char.toNat_inj.1
  rw [hshown _ (digitValue_lt h)]
  change c.toNat - 48 + 48 = c.toNat
  omega

theorem hexValue_digitChar {d : Nat} (hd : d < 16) : hexValue d.digitChar = some d := by
  revert d
  decide

theorem hexValue_dot : hexValue '.' = none := by decide

theorem hexValue_colon : hexValue ':' = none := by decide

/-! ## Decimal numerals -/

theorem showNat_ne_nil (n : Nat) : showNat n ≠ [] := Nat.toDigits_ne_nil

/-- The last digit comes off the end. -/
theorem showNat_eq (n : Nat) :
    showNat n = if n < 10 then [n.digitChar] else showNat (n / 10) ++ [(n % 10).digitChar] :=
  Nat.toDigits_eq_if (by decide)

theorem isDigit_of_mem_showNat (n : Nat) : ∀ c ∈ showNat n, isDigit c = true := by
  induction n using Nat.strongRecOn with
  | ind n ih =>
    rw [showNat_eq]
    by_cases h : n < 10
    · rw [if_pos h]
      exact List.forall_mem_singleton.2 (isDigit_digitChar h)
    · have hlast : isDigit (n % 10).digitChar = true := isDigit_digitChar (by omega)
      rw [if_neg h, List.forall_mem_append]
      exact ⟨ih (n / 10) (by omega), List.forall_mem_singleton.2 hlast⟩

/-- The value of digits is the one that core's own reader gives them. -/
theorem valueFrom_eq_ofDigitChars (acc : Nat) (cs : List Char) :
    valueFrom 10 digitValue acc cs = Nat.ofDigitChars 10 cs acc := by
  rw [valueFrom, Nat.ofDigitChars_eq_foldl]
  congr
  funext n c
  rw [digitValue, Nat.mul_comm]

theorem valueFrom_showNat (n : Nat) : valueFrom 10 digitValue 0 (showNat n) = n := by
  rw [valueFrom_eq_ofDigitChars, showNat, Nat.ofDigitChars_ten_toDigits]

/-- What is read from a text of digits is their value. -/
theorem readNat_eq_some_iff {cs : List Char} {n : Nat} :
    readNat cs = some n ↔
      cs ≠ [] ∧ (∀ c ∈ cs, isDigit c = true) ∧ valueFrom 10 digitValue 0 cs = n := by
  rw [readNat]
  split
  case isTrue h =>
    rw [Option.some.injEq]
    exact ⟨fun hn => ⟨h.1, List.all_eq_true.1 h.2, hn⟩, fun hn => hn.2.2⟩
  case isFalse h =>
    constructor
    · intro hn
      contradiction
    · rintro ⟨hne, hdigits, -⟩
      exact absurd ⟨hne, List.all_eq_true.2 hdigits⟩ h

/-- A decimal numeral is read back as its number. -/
theorem readNat_showNat (n : Nat) : readNat (showNat n) = some n :=
  readNat_eq_some_iff.2 ⟨showNat_ne_nil n, isDigit_of_mem_showNat n, valueFrom_showNat n⟩

/-- A numeral that starts with a zero is the numeral of zero. -/
theorem showNat_of_head?_eq_zero {n : Nat} (h : (showNat n).head? = some '0') :
    showNat n = ['0'] := by
  induction n using Nat.strongRecOn with
  | ind n ih =>
    rw [showNat_eq] at h ⊢
    by_cases hn : n < 10
    · rw [if_pos hn] at h ⊢
      simpa using h
    · obtain ⟨c, cs, hc⟩ := List.exists_cons_of_ne_nil (showNat_ne_nil (n / 10))
      rw [if_neg hn, hc, List.cons_append, List.head?_cons] at h
      -- The front part is the numeral of a number that is not zero.
      have hq : showNat (n / 10) = ['0'] := ih (n / 10) (by omega) (by rw [hc]; exact h)
      have hz := readNat_showNat (n / 10)
      have h0 : readNat ['0'] = some 0 := by decide
      rw [hq, h0, Option.some.injEq] at hz
      omega

/-- Digits that do not start with a zero, save for zero itself, are what their value is shown as. -/
theorem showNat_valueFrom {cs : List Char} (hne : cs ≠ []) (hdigits : ∀ c ∈ cs, isDigit c = true)
    (hzero : cs.head? = some '0' → cs = ['0']) :
    showNat (valueFrom 10 digitValue 0 cs) = cs := by
  induction cs using List.reverseRecOn with
  | nil => contradiction
  | append_singleton front c ih =>
    have hc : isDigit c = true := hdigits c (by simp)
    have hlt := digitValue_lt hc
    have hvalue : valueFrom 10 digitValue 0 (front ++ [c]) =
        valueFrom 10 digitValue 0 front * 10 + digitValue c := by simp [valueFrom]
    rw [hvalue, showNat_eq]
    by_cases hfront : front = []
    · subst hfront
      have hvalue : valueFrom 10 digitValue 0 [] * 10 + digitValue c = digitValue c := by
        simp [valueFrom]
      rw [hvalue, if_pos hlt, digitChar_digitValue hc, List.nil_append]
    · obtain ⟨d, ds, hds⟩ := List.exists_cons_of_ne_nil hfront
      have hhead : front.head? ≠ some '0' := by
        intro h
        rw [hds] at h hzero
        have hshort := congrArg List.length (hzero h)
        simp at hshort
      have hshow : showNat (valueFrom 10 digitValue 0 front) = front :=
        ih hfront (fun e he => hdigits e (by simp [he])) fun h => absurd h hhead
      -- The front part has a value that is not zero, so there is a digit in front of the last one.
      have hpos : valueFrom 10 digitValue 0 front ≠ 0 := by
        intro h
        rw [h] at hshow
        rw [← hshow] at hhead
        exact hhead rfl
      generalize valueFrom 10 digitValue 0 front = n at hshow hpos
      have hquot : (n * 10 + digitValue c) / 10 = n := by omega
      have hrem : (n * 10 + digitValue c) % 10 = digitValue c := by omega
      rw [if_neg (by omega), hquot, hrem, hshow, digitChar_digitValue hc]

/-! ## Ports -/

/-- Digits, with or without a plus sign in front of them, have the value of the port. -/
def SpellsPort (cs : List Char) (port : UInt16) : Prop :=
  ∃ digits, (cs = digits ∨ cs = '+' :: digits) ∧ digits ≠ [] ∧
    (∀ c ∈ digits, isDigit c = true) ∧ valueFrom 10 digitValue 0 digits = port.toNat

theorem dropPlus_cases (cs : List Char) : dropPlus cs = cs ∨ cs = '+' :: dropPlus cs := by
  unfold dropPlus
  split
  · exact Or.inr rfl
  · exact Or.inl rfl

/-- Digits have no plus sign to take away. -/
theorem dropPlus_of_digits {digits : List Char} (h : ∀ c ∈ digits, isDigit c = true) :
    dropPlus digits = digits := by
  rcases dropPlus_cases digits with heq | hplus
  · exact heq
  · have hmem : '+' ∈ digits := by
      rw [hplus]
      exact List.mem_cons_self
    exact absurd (h '+' hmem) (by decide)

/-- The port that is read is the port that is spelled. -/
theorem readPort_eq_some_iff {cs : List Char} {port : UInt16} :
    readPort cs = some port ↔ SpellsPort cs port := by
  simp only [readPort, readBounded, Option.map_eq_some_iff, Option.filter_eq_some_iff,
    readNat_eq_some_iff, decide_eq_true_eq]
  constructor
  · rintro ⟨n, ⟨⟨hne, hdigits, hvalue⟩, hle⟩, rfl⟩
    refine ⟨dropPlus cs, (dropPlus_cases cs).imp_left Eq.symm, hne, hdigits, ?_⟩
    rw [hvalue]
    exact (UInt16.toNat_ofNat_of_lt' (by change n < 65536; omega)).symm
  · rintro ⟨digits, hcs, hne, hdigits, hvalue⟩
    have hdrop : dropPlus cs = digits := by
      rcases hcs with rfl | rfl
      · exact dropPlus_of_digits hdigits
      · rfl
    rw [hdrop]
    exact ⟨port.toNat, ⟨⟨hne, hdigits, hvalue⟩, Nat.le_of_lt_succ port.toNat_lt⟩,
      UInt16.ofNat_toNat⟩

theorem readBounded_showNat {max n : Nat} (h : n ≤ max) : readBounded max (showNat n) = some n := by
  rw [readBounded, dropPlus_of_digits (isDigit_of_mem_showNat n), readNat_showNat]
  simp [Option.filter, h]

/-! ## Hexadecimal numerals -/

theorem showHex_ne_nil (n : Nat) : showHex n ≠ [] := Nat.toDigits_ne_nil

theorem showHex_eq (n : Nat) :
    showHex n = if n < 16 then [n.digitChar] else showHex (n / 16) ++ [(n % 16).digitChar] :=
  Nat.toDigits_eq_if (by decide)

/-- A hexadecimal numeral is read back as its number. -/
theorem readHex_showHex (n : Nat) : readHex (showHex n) = some n := by
  induction n using Nat.strongRecOn with
  | ind n ih =>
    rw [showHex_eq]
    by_cases h : n < 16
    · simp [h, readHex, hexValue_digitChar h]
    · have hq : readHex (showHex (n / 16)) = some (n / 16) := ih (n / 16) (by omega)
      have hr : hexValue (n % 16).digitChar = some (n % 16) := hexValue_digitChar (by omega)
      rw [if_neg h]
      simp only [readHex, List.foldlM_append] at hq ⊢
      rw [hq]
      simp only [Option.bind_eq_bind, Option.bind_some, List.foldlM_cons, List.foldlM_nil, hr,
        Option.map_some, Option.pure_def, Option.some.injEq]
      omega

/-- Every character of a text that has a hexadecimal value is a hexadecimal digit. -/
theorem hexValue_isSome_of_readHex {cs : List Char} {n : Nat} (h : readHex cs = some n) :
    ∀ c ∈ cs, (hexValue c).isSome := by
  rw [readHex] at h
  generalize 0 = acc at h
  induction cs generalizing acc with
  | nil => simp
  | cons c cs ih =>
    simp only [List.foldlM_cons, Option.bind_eq_bind, Option.bind_eq_some_iff,
      Option.map_eq_some_iff] at h
    obtain ⟨_, ⟨v, hv, _⟩, hcs⟩ := h
    intro d hd
    rcases List.mem_cons.1 hd with rfl | hd
    · simp [hv]
    · exact ih _ hcs d hd

theorem length_showHex_le {n : Nat} (h : n < 65536) : (showHex n).length ≤ 4 :=
  (Nat.length_toDigits_le_iff (by decide) (by decide)).2 h

end PluginSandbox.Text
