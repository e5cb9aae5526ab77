import PluginSandbox.Text.Ascii
import PluginSandbox.Text.Blank
import PluginSandbox.Text.Numeral
import PluginSandbox.Text.Split

/-!
# Folding case

Folding changes the letters `A` to `Z` and nothing else, so a digit, a dot or
any other character that is no letter is the folded form of itself alone. Fields
between such characters are folded one by one, and a numeral, also a hexadecimal
one, keeps its value.
-/

namespace PluginSandbox.Text

/-- A character is folded to itself, unless it is one of `A` to `Z`. -/
theorem toLower_cases (c : Char) :
    c.toLower = c ∨ (65 ≤ c.toNat ∧ c.toNat ≤ 90 ∧ c.toLower.toNat = c.toNat + 32) := by
  by_cases h : c.val ≥ 'A'.val ∧ c.val ≤ 'Z'.val
  · have hlo : 65 ≤ c.val.toNat := UInt32.le_iff_toNat_le.1 h.1
    have hhi : c.val.toNat ≤ 90 := UInt32.le_iff_toNat_le.1 h.2
    refine Or.inr ⟨hlo, hhi, ?_⟩
    have hval : c.toLower.val = c.val + 32 := congrArg Char.val (dif_pos h)
    rw [Char.toNat, Char.toNat, hval, UInt32.toNat_add]
    exact Nat.mod_eq_of_lt (by change c.val.toNat + 32 < 2 ^ 32; omega)
  · exact Or.inl (dif_neg h)

/-- A folded character that is no lower-case letter was not changed. -/
theorem toLower_eq_self {c : Char} (h : c.toLower.toNat < 97) : c.toLower = c := by
  rcases toLower_cases c with hc | ⟨hlo, -, hc⟩
  · exact hc
  · omega

theorem toLower_toLower (c : Char) : c.toLower.toLower = c.toLower := by
  rcases toLower_cases c with hc | ⟨hlo, -, hc⟩
  · rw [hc]
    exact hc
  · rcases toLower_cases c.toLower with hc' | ⟨-, hhi, -⟩
    · exact hc'
    · omega

@[simp] theorem lower_lower (cs : List Char) : lower (lower cs) = lower cs := by
  rw [lower, lower, List.map_map]
  exact List.map_congr_left fun c _ => toLower_toLower c

theorem isDigit_iff (c : Char) : isDigit c = true ↔ 48 ≤ c.toNat ∧ c.toNat ≤ 57 := by
  rw [isDigit, Bool.and_eq_true, decide_eq_true_eq, decide_eq_true_eq, Char.le_def, Char.le_def,
    UInt32.le_iff_toNat_le, UInt32.le_iff_toNat_le]
  rfl

theorem isUpper_iff (c : Char) : isUpper c = true ↔ 65 ≤ c.toNat ∧ c.toNat ≤ 90 := by
  rw [isUpper, Bool.and_eq_true, decide_eq_true_eq, decide_eq_true_eq, Char.le_def, Char.le_def,
    UInt32.le_iff_toNat_le, UInt32.le_iff_toNat_le]
  rfl

theorem isLower_iff (c : Char) : isLower c = true ↔ 97 ≤ c.toNat ∧ c.toNat ≤ 122 := by
  rw [isLower, Bool.and_eq_true, decide_eq_true_eq, decide_eq_true_eq, Char.le_def, Char.le_def,
    UInt32.le_iff_toNat_le, UInt32.le_iff_toNat_le]
  rfl

/-- No folded character is one of `A` to `Z`. -/
theorem isUpper_toLower (c : Char) : isUpper c.toLower = false := by
  rw [Bool.eq_false_iff]
  intro h
  have hupper : c.toLower.val ≥ 'A'.val ∧ c.toLower.val ≤ 'Z'.val := by
    obtain ⟨hlo, hhi⟩ := (isUpper_iff c.toLower).1 h
    exact ⟨UInt32.le_iff_toNat_le.2 hlo, UInt32.le_iff_toNat_le.2 hhi⟩
  have hmoved : c.toLower.toLower.val = c.toLower.val + 32 := congrArg Char.val (dif_pos hupper)
  rw [toLower_toLower] at hmoved
  simp at hmoved

/-- Nothing else is folded to a character below the letters. -/
theorem toLower_eq_iff {c d : Char} (hd : d.toNat < 65) : c.toLower = d ↔ c = d := by
  constructor
  · intro h
    have hself : c.toLower = c := toLower_eq_self (by rw [h]; omega)
    rw [← hself, h]
  · rintro rfl
    rcases toLower_cases c with hself | ⟨hlo, -, -⟩
    · exact hself
    · omega

theorem toLower_eq_dot_iff (c : Char) : c.toLower = '.' ↔ c = '.' := toLower_eq_iff (by decide)

/-- A character below the letters stands in a folded text where it stood. -/
theorem mem_lower_iff {d : Char} (hd : d.toNat < 65) (cs : List Char) : d ∈ lower cs ↔ d ∈ cs := by
  rw [lower, List.mem_map]
  constructor
  · rintro ⟨c, hc, heq⟩
    exact (toLower_eq_iff hd).1 heq ▸ hc
  · exact fun hd' => ⟨d, hd', (toLower_eq_iff hd).2 rfl⟩

/-- A front without letters stands in front of every text with the same folded form. -/
theorem exists_append_of_lower_eq (front rest : List Char) {cs : List Char}
    (hfront : ∀ c ∈ front, c.toNat < 65) (h : lower cs = lower (front ++ rest)) :
    ∃ rest', cs = front ++ rest' ∧ lower rest' = lower rest := by
  induction front generalizing cs with
  | nil => exact ⟨cs, rfl, h⟩
  | cons d front ih =>
    obtain ⟨hd, hfront⟩ := List.forall_mem_cons.1 hfront
    cases cs with
    | nil => simp at h
    | cons c cs =>
      obtain ⟨hc, hcs⟩ := List.cons.inj h
      obtain ⟨rest', rfl, hrest⟩ := ih hfront hcs
      have hself : d.toLower = d := (toLower_eq_iff hd).2 rfl
      obtain rfl : c = d := (toLower_eq_iff hd).1 (hc.trans hself)
      exact ⟨rest', rfl, hrest⟩

/-- A text without letters is the only one that is folded to it. -/
theorem eq_of_lower_eq (ds : List Char) {cs : List Char} (hds : ∀ d ∈ ds, d.toNat < 65)
    (h : lower cs = lower ds) : cs = ds := by
  obtain ⟨rest, rfl, hrest⟩ := exists_append_of_lower_eq ds [] hds (by rw [List.append_nil, h])
  rw [List.map_eq_nil_iff.1 hrest, List.append_nil]

theorem lower_reverse (cs : List Char) : lower cs.reverse = (lower cs).reverse := List.map_reverse

/-! ## Ends

A class of characters that does not tell apart the cases of a letter has the same members at the
ends of a folded text. -/

section Ends

variable {p : Char → Bool} (hp : ∀ c : Char, p c.toLower = p c)
include hp

theorem lower_dropWhile (cs : List Char) : lower (cs.dropWhile p) = (lower cs).dropWhile p := by
  have hcomp : p ∘ Char.toLower = p := funext hp
  rw [lower, lower, List.dropWhile_map, hcomp]

theorem lower_takeWhile (cs : List Char) : lower (cs.takeWhile p) = (lower cs).takeWhile p := by
  have hcomp : p ∘ Char.toLower = p := funext hp
  rw [lower, lower, List.takeWhile_map, hcomp]

theorem lower_trimEndBy (cs : List Char) : lower (trimEndBy p cs) = trimEndBy p (lower cs) := by
  rw [trimEndBy, trimEndBy, lower_reverse, lower_dropWhile hp, lower_reverse]

theorem lower_afterLast (cs : List Char) : lower (afterLast p cs) = afterLast p (lower cs) := by
  have hnot (c : Char) : (!p c.toLower) = !p c := by rw [hp]
  rw [afterLast, afterLast, lower_reverse, lower_takeWhile hnot, lower_reverse]

end Ends

/-! ## Dots at the end -/

/-- A text ends in a dot, or taking the dots at its end away changes nothing. -/
theorem eq_append_dot_or (cs : List Char) :
    (∃ front, cs = front ++ ['.']) ∨ (trimEndBy (· == '.') cs = cs ∧ ¬['.'] <:+ cs) := by
  rcases List.eq_nil_or_concat cs with rfl | ⟨front, c, rfl⟩
  · exact Or.inr ⟨rfl, by simp⟩
  · rw [List.concat_eq_append]
    by_cases hc : c = '.'
    · exact Or.inl ⟨front, by rw [hc]⟩
    · refine Or.inr ⟨by simp [trimEndBy, hc], ?_⟩
      rintro ⟨xs, hx⟩
      exact hc (List.append_inj_right' hx rfl |> List.cons.inj |>.1.symm)

theorem trimEndBy_append_dot (cs : List Char) :
    trimEndBy (· == '.') (cs ++ ['.']) = trimEndBy (· == '.') cs :=
  trimEndBy_append_of_all _ _ _ (by simp)

theorem not_dot_isSuffix_trimEndBy (cs : List Char) : ¬['.'] <:+ trimEndBy (· == '.') cs := by
  intro h
  obtain ⟨rest, hrest⟩ := List.reverse_prefix.2 h
  have hhead := List.head?_dropWhile_not (· == '.') cs.reverse
  rw [trimEndBy, List.reverse_reverse] at hrest
  rw [← hrest] at hhead
  simp at hhead

theorem dot_isSuffix_lower_iff (cs : List Char) : ['.'] <:+ lower cs ↔ ['.'] <:+ cs := by
  constructor
  · intro h
    obtain ⟨dots, hdots, heq⟩ := List.suffix_map_iff.1 h
    rwa [eq_of_lower_eq ['.'] (by simp) heq.symm] at hdots
  · rintro ⟨front, rfl⟩
    rw [lower_append]
    exact List.suffix_append _ _

theorem lower_trimEndBy_dot (cs : List Char) :
    lower (trimEndBy (· == '.') cs) = trimEndBy (· == '.') (lower cs) := by
  refine lower_trimEndBy (fun c => ?_) cs
  rw [Bool.eq_iff_iff, beq_iff_eq, beq_iff_eq, toLower_eq_dot_iff]

/-! ## Fields

Separators are no letters, so the fields of a folded text are the folded fields. -/

section Fields

variable {sep : Char} (hsep : sep.toNat < 65)
include hsep

theorem splitOn_lower (cs : List Char) : (lower cs).splitOn sep = (cs.splitOn sep).map lower := by
  induction cs with
  | nil => simp
  | cons c cs ih =>
    rw [lower_cons, List.splitOn_cons_eq_if_modifyHead, List.splitOn_cons_eq_if_modifyHead, ih]
    simp only [beq_iff_eq, toLower_eq_iff hsep]
    split
    · rfl
    · cases cs.splitOn sep <;> rfl

theorem splitOnce_lower (cs : List Char) :
    splitOnce sep (lower cs) = (splitOnce sep cs).map (Prod.map lower lower) := by
  induction cs with
  | nil => rfl
  | cons c cs ih =>
    rw [lower_cons, splitOnce, splitOnce, ih]
    simp only [toLower_eq_iff hsep]
    split
    · rfl
    · cases splitOnce sep cs <;> rfl

theorem splitOnPair_lower (cs : List Char) :
    splitOnPair sep (lower cs) = (splitOnPair sep cs).map (Prod.map lower lower) := by
  fun_induction splitOnPair sep cs with
  | case1 => rfl
  | case2 => rfl
  | case3 c d cs h => simp [splitOnPair, toLower_eq_iff hsep, h]
  | case4 c d cs h ih =>
    rw [lower_cons] at ih
    have h' : ¬(c.toLower = sep ∧ d.toLower = sep) := by
      rwa [toLower_eq_iff hsep, toLower_eq_iff hsep]
    rw [lower_cons, lower_cons, splitOnPair, if_neg h', ih]
    cases splitOnPair sep (d :: cs) <;> rfl

end Fields

/-! ## Numerals -/

@[simp] theorem isDigit_toLower (c : Char) : isDigit c.toLower = isDigit c := by
  rw [Bool.eq_iff_iff, isDigit_iff, isDigit_iff]
  rcases toLower_cases c with hself | ⟨hlo, -, hlower⟩
  · rw [hself]
  · omega

/-- There is no letter in a text of digits. -/
theorem lower_eq_self_of_isDigit {cs : List Char} (h : ∀ c ∈ cs, isDigit c = true) :
    lower cs = cs := by
  refine (List.map_congr_left fun c hc => ?_).trans (List.map_id cs)
  have hbelow : c.toNat < 65 := by
    have := (isDigit_iff c).1 (h c hc)
    omega
  exact (toLower_eq_iff hbelow).2 rfl

theorem readNat_lower (cs : List Char) : readNat (lower cs) = readNat cs := by
  have hall : (lower cs).all isDigit = cs.all isDigit := by
    simp [lower, List.all_map, Function.comp_def]
  by_cases hdigits : cs.all isDigit = true
  · rw [lower_eq_self_of_isDigit fun c hc => List.all_eq_true.1 hdigits c hc]
  · rw [readNat, readNat, hall, if_neg fun h => hdigits h.2, if_neg fun h => hdigits h.2]

theorem dropPlus_lower (cs : List Char) : dropPlus (lower cs) = lower (dropPlus cs) := by
  cases cs with
  | nil => rfl
  | cons c cs =>
    by_cases hc : c = '+'
    · subst hc
      rfl
    · have hc' : c.toLower ≠ '+' := fun h => hc ((toLower_eq_iff (by decide)).1 h)
      rw [lower_cons, dropPlus, dropPlus, lower_cons]
      · simpa using hc
      · simpa using hc'

theorem readBounded_lower (max : Nat) (cs : List Char) :
    readBounded max (lower cs) = readBounded max cs := by
  rw [readBounded, readBounded, dropPlus_lower, readNat_lower]

@[simp] theorem hexValue_toLower (c : Char) : hexValue c.toLower = hexValue c := by
  rcases toLower_cases c with hself | ⟨hlo, hhi, hlower⟩
  · rw [hself]
  · have hletters : ∀ n < 26, hexValue (Char.ofNat (65 + n)).toLower =
        hexValue (Char.ofNat (65 + n)) := by decide
    have hvalue := hletters (c.toNat - 65) (by omega)
    rwa [Nat.add_sub_cancel' hlo, Char.ofNat_toNat] at hvalue

theorem readHex_lower (cs : List Char) : readHex (lower cs) = readHex cs := by
  rw [readHex, readHex, lower, List.foldlM_map]
  simp only [hexValue_toLower]

end PluginSandbox.Text
