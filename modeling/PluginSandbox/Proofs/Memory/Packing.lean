import PluginSandbox.Memory.Packed

/-!
# Packing and unpacking

The word of a pointer and a length is the number with the pointer above the
lower 32 bits and the length in them, so both can be taken out of it again. The
null pointer with a length is refused on both sides, with the same error, and nothing
else is.

## Main definitions

* `IsCorrupt`: a pointer and a length that describe no buffer.
* `upperHalf`, `lowerHalf`: the halves of a word, by the number that it is.

## Main statements

* `toNat_packed`: the number that the word is.
* `unpack_pack`: what is packed is unpacked.
* `pack_unpack`: what is unpacked is packed again.
* `pack_eq_error_iff`, `unpack_eq_error_iff`: what is refused.
* `packing_bijective`: all of this together.
-/

namespace PluginSandbox

variable {ptr len : UInt32} {packed : UInt64}

theorem toNat_packed (ptr len : UInt32) :
    (ptr.toUInt64 <<< 32 ||| len.toUInt64).toNat = ptr.toNat * UInt32.size + len.toNat := by
  have hptr : ptr.toNat < UInt32.size := ptr.toNat_lt
  have hlen : len.toNat < UInt32.size := len.toNat_lt
  have hshift : (ptr.toUInt64 <<< 32).toNat = ptr.toNat <<< 32 := by
    rw [UInt64.toNat_shiftLeft, Nat.mod_eq_of_lt]
    · rfl
    · change ptr.toNat <<< 32 < UInt64.size
      rw [Nat.shiftLeft_eq]
      change ptr.toNat * UInt32.size < UInt64.size
      simp only [UInt32.size, UInt64.size] at hptr ⊢
      omega
  rw [UInt64.toNat_or, hshift, UInt32.toNat_toUInt64, ← Nat.shiftLeft_add_eq_or_of_lt hlen,
    Nat.shiftLeft_eq]

/-- The pointer is above the lower half of the word. -/
theorem pointer_packed (ptr len : UInt32) :
    ((ptr.toUInt64 <<< 32 ||| len.toUInt64) >>> 32).toUInt32 = ptr := by
  have hlen : len.toNat < UInt32.size := len.toNat_lt
  apply UInt32.toNat_inj.1
  rw [UInt64.toNat_toUInt32, UInt64.toNat_shiftRight, toNat_packed, Nat.shiftRight_eq_div_pow]
  change (ptr.toNat * UInt32.size + len.toNat) / UInt32.size % UInt32.size = ptr.toNat
  rw [Nat.mul_comm, Nat.mul_add_div (by decide), Nat.div_eq_of_lt hlen, Nat.add_zero,
    Nat.mod_eq_of_lt ptr.toNat_lt]

/-- The length is the lower half of the word. -/
theorem length_packed (ptr len : UInt32) :
    (ptr.toUInt64 <<< 32 ||| len.toUInt64).toUInt32 = len := by
  apply UInt32.toNat_inj.1
  rw [UInt64.toNat_toUInt32, toNat_packed]
  change (ptr.toNat * UInt32.size + len.toNat) % UInt32.size = len.toNat
  rw [Nat.mul_add_mod', Nat.mod_eq_of_lt len.toNat_lt]

/-- Only the null pointer cannot be packed with a length. -/
theorem pack_of_ne_zero (hptr : ptr ≠ 0) :
    pack ptr len = .ok (ptr.toUInt64 <<< 32 ||| len.toUInt64) := by
  rw [pack, if_neg fun h => hptr h.1]

/-- What is packed is unpacked. -/
theorem unpack_pack (h : pack ptr len = .ok packed) : unpack packed = .ok (ptr, len) := by
  rw [pack] at h
  split at h
  case isTrue => contradiction
  case isFalse hnull =>
    obtain rfl := Except.ok.inj h
    simp only [unpack, pointer_packed, length_packed, if_neg hnull]

/-- A word is that of its upper and its lower half. -/
theorem packed_halves (packed : UInt64) :
    (packed >>> 32).toUInt32.toUInt64 <<< 32 ||| packed.toUInt32.toUInt64 = packed := by
  have hword : packed.toNat < UInt32.size * UInt32.size := packed.toNat_lt
  have hupper : packed.toNat / UInt32.size < UInt32.size := Nat.div_lt_of_lt_mul hword
  apply UInt64.toNat_inj.1
  rw [toNat_packed, UInt64.toNat_toUInt32, UInt64.toNat_toUInt32, UInt64.toNat_shiftRight,
    Nat.shiftRight_eq_div_pow]
  change packed.toNat / UInt32.size % UInt32.size * UInt32.size + packed.toNat % UInt32.size = _
  rw [Nat.mod_eq_of_lt hupper, Nat.div_add_mod']

/-- What is unpacked is packed again. -/
theorem pack_unpack (h : unpack packed = .ok (ptr, len)) : pack ptr len = .ok packed := by
  simp only [unpack] at h
  split at h
  case isTrue => contradiction
  case isFalse hnull =>
    obtain ⟨rfl, rfl⟩ := Prod.mk.inj (Except.ok.inj h)
    rw [pack, if_neg hnull, packed_halves]

/-! ## Refusals -/

/-- The null pointer with a length, which describes no buffer. -/
def IsCorrupt (ptr len : UInt32) : Prop := ptr = 0 ∧ 0 < len

instance (ptr len : UInt32) : Decidable (IsCorrupt ptr len) :=
  inferInstanceAs (Decidable (ptr = 0 ∧ 0 < len))

/-- The upper half of a word. -/
def upperHalf (packed : UInt64) : UInt32 := .ofNat (packed.toNat / UInt32.size)

/-- The lower half of a word. -/
def lowerHalf (packed : UInt64) : UInt32 := .ofNat (packed.toNat % UInt32.size)

variable {error : BoundaryError}

theorem toUInt32_shiftRight (packed : UInt64) : (packed >>> 32).toUInt32 = upperHalf packed := by
  apply UInt32.toNat_inj.1
  rw [UInt64.toNat_toUInt32, UInt64.toNat_shiftRight, Nat.shiftRight_eq_div_pow, upperHalf,
    UInt32.toNat_ofNat']
  rfl

theorem toUInt32_eq_lowerHalf (packed : UInt64) : packed.toUInt32 = lowerHalf packed := by
  apply UInt32.toNat_inj.1
  rw [UInt64.toNat_toUInt32, lowerHalf, UInt32.toNat_ofNat']
  exact (Nat.mod_mod packed.toNat UInt32.size).symm

/-- What is refused under a condition and only then. -/
theorem ite_eq_error_iff {α : Type} {condition : Prop} [Decidable condition]
    {refusal : BoundaryError} {value : α} :
    (if condition then Except.error refusal else .ok value) = .error error ↔
      condition ∧ error = refusal := by
  by_cases h : condition
  · rw [if_pos h, and_iff_right h, Except.error.injEq, eq_comm]
  · simp [h]

theorem pack_eq_error_iff :
    pack ptr len = .error error ↔ IsCorrupt ptr len ∧ error = .nullWithLength len :=
  ite_eq_error_iff

theorem unpack_eq_error_iff : unpack packed = .error error ↔
    IsCorrupt (upperHalf packed) (lowerHalf packed) ∧
      error = .nullWithLength (lowerHalf packed) := by
  rw [unpack, toUInt32_shiftRight, toUInt32_eq_lowerHalf]
  exact ite_eq_error_iff

/-- A pair that is not corrupt has a word. -/
theorem exists_pack_eq_ok (h : ¬IsCorrupt ptr len) : ∃ packed, pack ptr len = .ok packed := by
  cases hpack : pack ptr len with
  | ok packed => exact ⟨packed, rfl⟩
  | error error => exact absurd (pack_eq_error_iff.1 hpack).1 h

/-- A word whose halves are not corrupt has a pair. -/
theorem exists_unpack_eq_ok (h : ¬IsCorrupt (upperHalf packed) (lowerHalf packed)) :
    ∃ ptr len, unpack packed = .ok (ptr, len) := by
  cases hunpack : unpack packed with
  | ok pair => exact ⟨pair.1, pair.2, rfl⟩
  | error error => exact absurd (unpack_eq_error_iff.1 hunpack).1 h

/-- **Packing is a bijection.** A pointer and a length are refused exactly if they are the null
pointer and a length that is not zero, and else they have a word from which both are unpacked. A
word is refused exactly if its upper half is zero and its lower half is not, with the error that
packing the halves gives, which names the lower half as the length; and else what is unpacked from
it is packed to the same word. -/
theorem packing_bijective :
    (∀ ptr len : UInt32,
      (∀ error, pack ptr len = .error error ↔
        IsCorrupt ptr len ∧ error = .nullWithLength len) ∧
      (¬IsCorrupt ptr len →
        ∃ packed, pack ptr len = .ok packed ∧ unpack packed = .ok (ptr, len))) ∧
    ∀ packed : UInt64,
      (∀ error, unpack packed = .error error ↔
        IsCorrupt (upperHalf packed) (lowerHalf packed) ∧
          error = .nullWithLength (lowerHalf packed)) ∧
      (∀ error, unpack packed = .error error ↔
        pack (upperHalf packed) (lowerHalf packed) = .error error) ∧
      (¬IsCorrupt (upperHalf packed) (lowerHalf packed) →
        ∃ ptr len, unpack packed = .ok (ptr, len) ∧ pack ptr len = .ok packed) := by
  constructor
  · intro ptr len
    refine ⟨fun error => pack_eq_error_iff, fun hvalid => ?_⟩
    obtain ⟨packed, hpack⟩ := exists_pack_eq_ok hvalid
    exact ⟨packed, hpack, unpack_pack hpack⟩
  · intro packed
    refine ⟨fun error => unpack_eq_error_iff, fun error => ?_, fun hvalid => ?_⟩
    · rw [unpack_eq_error_iff, pack_eq_error_iff]
    · obtain ⟨ptr, len, hunpack⟩ := exists_unpack_eq_ok hvalid
      exact ⟨ptr, len, hunpack, pack_unpack hunpack⟩

/-- The largest pointer with no length, and a word of all ones. -/
theorem packing_bijective_extremes :
    (∃ packed, pack 0xFFFFFFFF 0 = .ok packed ∧ unpack packed = .ok (0xFFFFFFFF, 0)) ∧
      ∃ ptr len, unpack 0xFFFFFFFFFFFFFFFF = .ok (ptr, len) ∧
        pack ptr len = .ok 0xFFFFFFFFFFFFFFFF := by
  obtain ⟨hpairs, hwords⟩ := packing_bijective
  exact ⟨(hpairs 0xFFFFFFFF 0).2 (by decide), (hwords 0xFFFFFFFFFFFFFFFF).2.2 (by decide)⟩

end PluginSandbox
