import Mathlib.Order.Bounds.Defs
import PluginSandbox.Proofs.Memory.Budget
import PluginSandbox.Proofs.Memory.Lookup

/-!
# The first place that fits

The search for a place tries one place for each gap between live buffers, the
lowest aligned one, and it stops at the first gap that is large enough. No lower
place is left out by that: a place that is apart from the buffers passed so far,
and not below the place that is tried, is either the end of the search or lies
behind the next buffer as well. So the place that is found is the least of all that
there are, and where none is found there is none.

## Main definitions

* `Arena.HasRoom`: the places for a buffer of a size.

## Main statements

* `Arena.firstFit_le_of_apart`: the search passes over no place.
* `Arena.Valid.assign_eq_ok_iff_isLeast`, `Arena.Valid.assign_eq_noAddresses_iff`:
  the address that is assigned.
* `Arena.reachable_allocate_least`: the address of a new buffer within the budget.
-/

namespace PluginSandbox.Arena

open Text

variable {a : Arena} {blocks : List Block} {base : UInt32} {size candidate place : Nat}

/-- A buffer of the size can be put at the place: the place is a multiple of eight other than zero,
the buffer ends within the addresses of 32 bits, and no address in it lies in a live buffer. -/
structure HasRoom (a : Arena) (size place : Nat) : Prop where
  aligned : 8 ∣ place
  notNull : 0 < place
  bounded : place + size ≤ maxNat32
  apart : ∀ b ∈ a.blocks, ∀ address, place ≤ address → address < place + size →
    b.covers address = false

/-! ## The search -/

/-- No aligned place from an address on lies below that address aligned. -/
theorem alignUp_le_of_dvd {n : Nat} (hdvd : 8 ∣ place) (hle : n ≤ place) : alignUp n ≤ place := by
  rw [alignUp, alignment]
  omega

/-- The search ends at or before every aligned place that is apart from the buffers. -/
theorem firstFit_le_of_apart (hdvd : 8 ∣ place) (hle : candidate ≤ place)
    (hapart : ∀ b ∈ blocks, place + size ≤ b.start ∨ b.stop ≤ place) :
    firstFit size candidate blocks ≤ place := by
  induction blocks generalizing candidate with
  | nil => exact hle
  | cons b bs ih =>
    obtain ⟨hb, hbs⟩ := List.forall_mem_cons.1 hapart
    rw [firstFit]
    split
    case isTrue => exact hle
    case isFalse hfits =>
      -- The gap before the buffer is too small for every place in it.
      have hbehind : b.stop ≤ place := hb.resolve_left (by omega)
      exact ih (Nat.max_le.2 ⟨hle, alignUp_le_of_dvd hdvd hbehind⟩) hbs

/-! ## Places -/

/-- A range that is not empty has no address in a live buffer if it ends before the buffer or starts
behind it. -/
theorem Valid.forall_covers_eq_false_iff (h : a.Valid) (hsize : 0 < size) {b : Block}
    (hb : b ∈ a.blocks) :
    (∀ address, place ≤ address → address < place + size → b.covers address = false) ↔
      place + size ≤ b.start ∨ b.stop ≤ place := by
  have hstop : b.start < b.stop := Nat.lt_add_of_pos_right (h.bounded b hb).1
  simp only [← Bool.not_eq_true, Block.covers_iff]
  constructor
  · intro hapart
    -- Otherwise the larger one of both starts lies in both.
    have hmax := hapart (max place b.start) (Nat.le_max_left _ _)
    omega
  · intro hapart address hle hlt
    omega

/-- The place that the search ends at has room, if the buffer does not end too late. -/
theorem Valid.hasRoom_firstFit (h : a.Valid) (hsize : 0 < size)
    (hbound : firstFit size alignment a.blocks + size ≤ maxNat32) :
    a.HasRoom size (firstFit size alignment a.blocks) where
  aligned := Nat.dvd_of_mod_eq_zero (firstFit_mod (by decide))
  notNull := Nat.lt_of_lt_of_le (by decide) (le_firstFit size alignment a.blocks)
  bounded := hbound
  apart b hb := (h.forall_covers_eq_false_iff hsize hb).2 (firstFit_apart h.separated b hb)

/-- The search ends at or before every place that has room. -/
theorem Valid.firstFit_le_of_hasRoom (h : a.Valid) (hsize : 0 < size)
    (hroom : a.HasRoom size place) : firstFit size alignment a.blocks ≤ place :=
  firstFit_le_of_apart hroom.aligned (Nat.le_of_dvd hroom.notNull hroom.aligned)
    fun b hb => (h.forall_covers_eq_false_iff hsize hb).1 (hroom.apart b hb)

/-- The address that is assigned is the least place that has room. -/
theorem Valid.assign_eq_ok_iff_isLeast (h : a.Valid) (hsize : 0 < size) :
    a.assign size = .ok base ↔ IsLeast {place | a.HasRoom size place} base.toNat := by
  constructor
  · intro hplace
    have hbase := toNat_of_assign hplace
    obtain ⟨hbound, -⟩ := assign_eq_ok_iff.1 hplace
    rw [hbase]
    exact ⟨h.hasRoom_firstFit hsize hbound, fun place hroom => h.firstFit_le_of_hasRoom hsize hroom⟩
  · rintro ⟨hroom, hleast⟩
    have hle := h.firstFit_le_of_hasRoom hsize hroom
    have hbound : firstFit size alignment a.blocks + size ≤ maxNat32 :=
      Nat.le_trans (Nat.add_le_add_right hle size) hroom.bounded
    have hge : base.toNat ≤ firstFit size alignment a.blocks :=
      hleast (h.hasRoom_firstFit hsize hbound)
    refine assign_eq_ok_iff.2 ⟨hbound, ?_⟩
    rw [← Nat.le_antisymm hge hle, UInt32.ofNat_toNat]

/-- An address is refused exactly if no place has room. -/
theorem Valid.assign_eq_noAddresses_iff (h : a.Valid) (hsize : 0 < size) :
    a.assign size = .error (.noAddresses size) ↔ ¬∃ place, a.HasRoom size place := by
  by_cases hbound : maxNat32 < firstFit size alignment a.blocks + size
  · have hnone : ¬∃ place, a.HasRoom size place := by
      rintro ⟨place, hroom⟩
      have hle := h.firstFit_le_of_hasRoom hsize hroom
      have hend := hroom.bounded
      omega
    simp only [assign, if_pos hbound, hnone, not_false_eq_true]
  · have hroom := h.hasRoom_firstFit hsize (Nat.not_lt.1 hbound)
    simp only [assign, if_neg hbound, reduceCtorEq, false_iff, not_not]
    exact ⟨_, hroom⟩

/-! ## New buffers -/

/-- Within the budget the request for a buffer is answered by the address that is assigned. -/
theorem Valid.allocate_fst (h : a.Valid) {size : UInt32} (hsize : size ≠ 0)
    (hbudget : a.total + size.toNat ≤ a.limit.toNat) :
    (a.allocate size).1 = a.assign size.toNat := by
  cases allocation a size with
  | empty hzero _ => contradiction
  | overBudget _ hlimit _ =>
    rw [h.limit_lt_iff] at hlimit
    exact absurd hbudget (Nat.not_le.2 hlimit)
  | noPlace _ _ hplace heq | placed _ _ _ hplace heq => rw [heq, hplace]

/-- **New buffers go to the least place that fits.** In every arena that operations lead to, a
buffer within the budget is given the least address at which it has room, and it is refused for want
of addresses exactly if there is none; nothing that is computed on the way is cut off. -/
theorem reachable_allocate_least (h : Reachable a) (size : UInt32) (hsize : size ≠ 0)
    (hbudget : a.total + size.toNat ≤ a.limit.toNat) :
    (∀ base : UInt32, (a.allocate size).1 = .ok base ↔
      IsLeast {place | a.HasRoom size.toNat place} base.toNat) ∧
    ((a.allocate size).1 = .error (.noAddresses size.toNat) ↔
      ¬∃ place, a.HasRoom size.toNat place) ∧
    a.Exact := by
  have hpos := toNat_pos hsize
  rw [h.valid.allocate_fst hsize hbudget]
  exact ⟨fun _ => h.valid.assign_eq_ok_iff_isLeast hpos,
    h.valid.assign_eq_noAddresses_iff hpos, h.valid.exact⟩

/-- Eight bytes go to the gap in front and fifteen to the end of the addresses; sixteen have no room
anywhere. -/
theorem reachable_allocate_least_end :
    let actions : List Action := [.allocate 5, .allocate 4294967264, .deallocate 8 5]
    let a := (Action.runAll false actions (Arena.new 8589934592)).2
    a.blocks.map (fun b => (b.start, b.stop)) = [(16, 4294967280)] ∧
      IsLeast {place | a.HasRoom 8 place} 8 ∧ IsLeast {place | a.HasRoom 15 place} 4294967280 ∧
      ¬∃ place, a.HasRoom 16 place := by
  intro actions a
  have hreachable : Reachable a := (Reachable.new 8589934592).runAll false actions
  refine ⟨by decide +kernel, ?_, ?_, ?_⟩
  · exact ((reachable_allocate_least hreachable 8 (by decide) (by decide +kernel)).1 8).1 (by rfl)
  · exact ((reachable_allocate_least hreachable 15 (by decide) (by decide +kernel)).1 4294967280).1
      (by rfl)
  · exact (reachable_allocate_least hreachable 16 (by decide) (by decide +kernel)).2.1.1 (by rfl)

end PluginSandbox.Arena
