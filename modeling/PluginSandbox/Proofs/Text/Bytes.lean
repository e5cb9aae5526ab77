import PluginSandbox.Proofs.Text.Ascii
import PluginSandbox.Text.Bytes

/-!
# Bytes and characters

Only a character of ASCII has a byte below 128, and it has no other one. So a byte
of ASCII that is found in a text is a character of it, with the end of a character
in front of it and the start of one behind it.

## Main statements

* `exists_append_of_getElem?_utf8Bytes`: a byte of ASCII is a character of its own.
* `byteLength_lower`: folding changes no length.
-/

namespace PluginSandbox.Text

/-! ## Bytes of ASCII -/

/-- A byte below 128 is the only byte of its character. -/
theorem utf8EncodeChar_of_mem {c : Char} {b : UInt8} (h : b ∈ String.utf8EncodeChar c)
    (hb : b.toNat < 128) : c.toNat = b.toNat ∧ String.utf8EncodeChar c = [b] := by
  simp only [String.utf8EncodeChar] at h ⊢
  split at h
  case isTrue hc =>
    obtain rfl := List.mem_singleton.1 h
    have hvalue : c.val.toNat = (UInt8.ofNat c.val.toNat).toNat := by
      rw [UInt8.toNat_ofNat']
      exact (Nat.mod_eq_of_lt (by omega)).symm
    exact ⟨hvalue, by rw [if_pos hc]⟩
  case isFalse =>
    -- Every byte of a longer character has its first bit set.
    exfalso
    split at h
    · simp only [List.mem_cons, List.not_mem_nil, or_false] at h
      rcases h with rfl | rfl <;> rw [UInt8.toNat_ofNat'] at hb <;> omega
    · split at h
      · simp only [List.mem_cons, List.not_mem_nil, or_false] at h
        rcases h with rfl | rfl | rfl <;> rw [UInt8.toNat_ofNat'] at hb <;> omega
      · simp only [List.mem_cons, List.not_mem_nil, or_false] at h
        rcases h with rfl | rfl | rfl | rfl <;> rw [UInt8.toNat_ofNat'] at hb <;> omega

/-- A byte of ASCII in a text is a character of it, behind as many bytes as stand in front. -/
theorem exists_append_of_getElem?_utf8Bytes {cs : List Char} {n : Nat} {b : UInt8}
    (h : (utf8Bytes cs)[n]? = some b) (hb : b.toNat < 128) :
    ∃ front c back, cs = front ++ c :: back ∧ byteLength front = n ∧ c.toNat = b.toNat := by
  induction cs generalizing n with
  | nil => simp [utf8Bytes] at h
  | cons c cs ih =>
    rw [utf8Bytes_cons, List.getElem?_append] at h
    split at h
    case isTrue hn =>
      obtain ⟨hc, hsingle⟩ := utf8EncodeChar_of_mem (List.mem_of_getElem? h) hb
      rw [hsingle, List.length_singleton, Nat.lt_one_iff] at hn
      exact ⟨[], c, cs, rfl, hn.symm, hc⟩
    case isFalse hn =>
      obtain ⟨front, d, back, rfl, hfront, hd⟩ := ih h
      rw [String.length_utf8EncodeChar] at hn hfront
      refine ⟨c :: front, d, back, rfl, ?_, hd⟩
      rw [byteLength, hfront]
      omega

/-! ## Folding -/

theorem utf8Size_toLower (c : Char) : c.toLower.utf8Size = c.utf8Size := by
  rcases toLower_cases c with hself | ⟨-, hhi, hlower⟩
  · rw [hself]
  · have hsize (d : Char) (hd : d.toNat ≤ 127) : d.utf8Size = 1 :=
      Char.utf8Size_eq_one_iff.2 (UInt32.le_iff_toNat_le.2 hd)
    rw [hsize c (by omega), hsize c.toLower (by omega)]

/-- Folding changes no length. -/
@[simp] theorem byteLength_lower (cs : List Char) : byteLength (lower cs) = byteLength cs := by
  induction cs with
  | nil => rfl
  | cons c cs ih => rw [lower_cons, byteLength, byteLength, utf8Size_toLower, ih]

end PluginSandbox.Text
