import PluginSandbox.Memory.Arena

/-!
# Where buffers are placed

The search for a place goes through the live buffers by address. The place that
it ends at is aligned and apart from every live buffer, so a buffer that is put
there overlaps none and takes the place of none. On the way there no sum is
larger than what 64 bits hold.

## Main definitions

* `Arena.Allocation`: how the request for a new buffer is answered.

## Main statements

* `Arena.firstFit_apart`: the place is before or behind every live buffer.
* `Arena.insertBlock_perm`, `Arena.separated_insertBlock`: a buffer put there.
* `Arena.perm_of_find?`: a buffer taken away.
-/

namespace PluginSandbox.Arena

open Text

variable {blocks : List Block} {block : Block} {size candidate : Nat}

/-! ## Alignment -/

theorem le_alignUp (n : Nat) : n ≤ alignUp n := by
  rw [alignUp, alignment]
  omega

theorem alignUp_mod (n : Nat) : alignUp n % alignment = 0 := Nat.mul_mod_left _ _

/-- An address of 32 bits is aligned to at most the number of such addresses. -/
theorem alignUp_le {n : Nat} (h : n ≤ maxNat32) : alignUp n ≤ maxNat32 + 1 := by
  rw [maxNat32] at h ⊢
  rw [alignUp, alignment]
  omega

/-! ## The search for a place -/

theorem le_firstFit (size candidate : Nat) (blocks : List Block) :
    candidate ≤ firstFit size candidate blocks := by
  induction blocks generalizing candidate with
  | nil => exact Nat.le_refl candidate
  | cons b bs ih =>
    rw [firstFit]
    split
    · exact Nat.le_refl candidate
    · exact Nat.le_trans (Nat.le_max_left _ _) (ih _)

/-- The place is aligned, as every place that is tried. -/
theorem firstFit_mod (h : candidate % alignment = 0) :
    firstFit size candidate blocks % alignment = 0 := by
  induction blocks generalizing candidate with
  | nil => exact h
  | cons b bs ih =>
    rw [firstFit]
    split
    · exact h
    · refine ih ?_
      rcases Nat.le_total candidate (alignUp b.stop) with hle | hle
      · rw [Nat.max_eq_right hle]
        exact alignUp_mod b.stop
      · rw [Nat.max_eq_left hle]
        exact h

/-- No place is tried beyond the addresses of 32 bits by more than one. -/
theorem firstFit_le (hbound : ∀ b ∈ blocks, b.stop ≤ maxNat32) (h : candidate ≤ maxNat32 + 1) :
    firstFit size candidate blocks ≤ maxNat32 + 1 := by
  induction blocks generalizing candidate with
  | nil => exact h
  | cons b bs ih =>
    obtain ⟨hb, hbs⟩ := List.forall_mem_cons.1 hbound
    rw [firstFit]
    split
    · exact h
    · exact ih hbs (Nat.max_le.2 ⟨h, alignUp_le hb⟩)

/-- A buffer that starts at the place ends before every live buffer, or starts behind it. -/
theorem firstFit_apart (hsep : blocks.Pairwise fun b c => b.stop ≤ c.start) :
    ∀ b ∈ blocks, firstFit size candidate blocks + size ≤ b.start ∨
      b.stop ≤ firstFit size candidate blocks := by
  induction blocks generalizing candidate with
  | nil => simp
  | cons b bs ih =>
    obtain ⟨hb, hbs⟩ := List.pairwise_cons.1 hsep
    intro c hc
    rw [firstFit]
    split
    case isTrue hfits =>
      rcases List.mem_cons.1 hc with rfl | hc
      · exact Or.inl hfits
      · have hbc : b.stop ≤ c.start := hb c hc
        have hbb : b.start ≤ b.stop := Nat.le_add_right _ _
        exact Or.inl (by omega)
    case isFalse =>
      rcases List.mem_cons.1 hc with rfl | hc
      · have hle := le_firstFit size (max candidate (alignUp c.stop)) bs
        have hup := le_alignUp c.stop
        exact Or.inr (by omega)
      · exact ih hbs c hc

/-- What an address that is assigned is. -/
theorem assign_eq_ok_iff {a : Arena} {base : UInt32} :
    a.assign size = .ok base ↔
      firstFit size alignment a.blocks + size ≤ maxNat32 ∧
        base = UInt32.ofNat (firstFit size alignment a.blocks) := by
  rw [assign]
  by_cases h : maxNat32 < firstFit size alignment a.blocks + size
  · simp only [if_pos h, reduceCtorEq, false_iff]
    omega
  · simp only [if_neg h, Except.ok.injEq]
    constructor
    · rintro rfl
      exact ⟨by omega, rfl⟩
    · rintro ⟨-, rfl⟩
      rfl

/-- The address that is assigned is the place that was found. -/
theorem toNat_of_assign {a : Arena} {base : UInt32} (h : a.assign size = .ok base) :
    base.toNat = firstFit size alignment a.blocks := by
  obtain ⟨hle, rfl⟩ := assign_eq_ok_iff.1 h
  rw [maxNat32] at hle
  exact UInt32.toNat_ofNat_of_lt' (by change _ < 4294967296; omega)

/-- A size other than zero is a positive number. -/
theorem toNat_pos {size : UInt32} (h : size ≠ 0) : 0 < size.toNat :=
  Nat.pos_of_ne_zero fun hzero => h (UInt32.toNat_inj.1 hzero)

/-! ## A buffer put among others -/

/-- Of two buffers in order one ends before the other one starts. -/
theorem eq_or_apart (hsep : blocks.Pairwise fun b c => b.stop ≤ c.start) {b c : Block}
    (hb : b ∈ blocks) (hc : c ∈ blocks) : b = c ∨ b.stop ≤ c.start ∨ c.stop ≤ b.start := by
  induction blocks with
  | nil => contradiction
  | cons d ds ih =>
    obtain ⟨hd, hds⟩ := List.pairwise_cons.1 hsep
    rcases List.mem_cons.1 hb with rfl | hb'
    · rcases List.mem_cons.1 hc with rfl | hc'
      · exact Or.inl rfl
      · exact Or.inr (Or.inl (hd c hc'))
    · rcases List.mem_cons.1 hc with rfl | hc'
      · exact Or.inr (Or.inr (hd b hb'))
      · exact ih hds hb' hc'

/-- A buffer that is not empty and is apart from others has an address of its own. -/
theorem base_ne_of_apart {b : Block} (hsize : 0 < block.buffer.size) (hb : 0 < b.buffer.size)
    (h : block.stop ≤ b.start ∨ b.stop ≤ block.start) : block.base ≠ b.base := by
  intro heq
  simp only [Block.stop, Block.start, heq] at h
  omega

/-- A buffer with an address of its own is put among others in place of none. -/
theorem insertBlock_perm (hfresh : ∀ b ∈ blocks, block.base ≠ b.base) :
    (insertBlock block blocks).Perm (block :: blocks) := by
  induction blocks with
  | nil => exact List.Perm.refl _
  | cons b bs ih =>
    obtain ⟨hb, hbs⟩ := List.forall_mem_cons.1 hfresh
    rw [insertBlock, if_neg hb]
    split
    · exact List.Perm.refl _
    · exact ((ih hbs).cons b).trans (List.Perm.swap block b bs)

/-- Buffers stay in order if one is put among them that is apart from all of them. -/
theorem separated_insertBlock (hsep : blocks.Pairwise fun b c => b.stop ≤ c.start)
    (hfresh : ∀ b ∈ blocks, block.base ≠ b.base)
    (hapart : ∀ b ∈ blocks, block.stop ≤ b.start ∨ b.stop ≤ block.start) :
    (insertBlock block blocks).Pairwise fun b c => b.stop ≤ c.start := by
  induction blocks with
  | nil => exact List.pairwise_singleton _ _
  | cons b bs ih =>
    obtain ⟨hb, hbs⟩ := List.pairwise_cons.1 hsep
    obtain ⟨hne, hfresh⟩ := List.forall_mem_cons.1 hfresh
    obtain ⟨hab, hapart⟩ := List.forall_mem_cons.1 hapart
    have hstop : block.start ≤ block.stop := Nat.le_add_right _ _
    have hstopb : b.start ≤ b.stop := Nat.le_add_right _ _
    rw [insertBlock, if_neg hne]
    split
    case isTrue hlt =>
      have hlt : block.start < b.start := UInt32.lt_iff_toNat_lt.1 hlt
      have hbefore : block.stop ≤ b.start := by omega
      refine List.pairwise_cons.2 ⟨?_, hsep⟩
      intro c hc
      rcases List.mem_cons.1 hc with rfl | hc
      · exact hbefore
      · have hbc : b.stop ≤ c.start := hb c hc
        omega
    case isFalse hlt =>
      have hlt : ¬block.start < b.start := fun h => hlt (UInt32.lt_iff_toNat_lt.2 h)
      have hneq : block.start ≠ b.start := fun h => hne (UInt32.toNat_inj.1 h)
      have hbehind : b.stop ≤ block.start := by omega
      refine List.pairwise_cons.2 ⟨?_, ih hbs hfresh hapart⟩
      intro c hc
      rcases List.mem_cons.1 ((insertBlock_perm hfresh).mem_iff.1 hc) with rfl | hc
      · exact hbehind
      · exact hb c hc

/-! ## New buffers -/

/-- How the request for a new buffer is answered. -/
inductive Allocation (a : Arena) (size : UInt32) : Prop where
  /-- There is no buffer of size zero. -/
  | empty (hsize : size = 0) (heq : a.allocate size = (.ok 0, a))
  /-- The buffer would not keep to the budget. -/
  | overBudget (hsize : size ≠ 0) (hlimit : a.limit.toNat < min (a.total + size.toNat) maxNat64)
    (heq : a.allocate size = (.error (.overBudget size.toNat a.total a.limit.toNat), a))
  /-- There is no place for the buffer. -/
  | noPlace (hsize : size ≠ 0) (hlimit : ¬a.limit.toNat < min (a.total + size.toNat) maxNat64)
    (hplace : a.assign size.toNat = .error (.noAddresses size.toNat))
    (heq : a.allocate size = (.error (.noAddresses size.toNat), a))
  /-- The buffer is put at the address that is assigned. -/
  | placed (base : UInt32) (hsize : size ≠ 0)
    (hlimit : ¬a.limit.toNat < min (a.total + size.toNat) maxNat64)
    (hplace : a.assign size.toNat = .ok base)
    (heq : a.allocate size = (.ok base, { a with
      blocks := insertBlock ⟨base, .zeros size.toNat⟩ a.blocks
      total := a.total + size.toNat }))

theorem allocation (a : Arena) (size : UInt32) : a.Allocation size := by
  by_cases hsize : size = 0
  · exact .empty hsize (by rw [allocate, if_pos hsize])
  by_cases hlimit : a.limit.toNat < min (a.total + size.toNat) maxNat64
  · exact .overBudget hsize hlimit (by simp only [allocate, if_neg hsize, if_pos hlimit])
  cases hplace : a.assign size.toNat with
  | ok base =>
    refine .placed base hsize hlimit hplace ?_
    simp only [allocate, if_neg hsize, if_neg hlimit, hplace]
  | error e =>
    have he : e = .noAddresses size.toNat := by
      rw [assign] at hplace
      split at hplace
      · exact (Except.error.inj hplace).symm
      · contradiction
    rw [he] at hplace
    refine .noPlace hsize hlimit hplace ?_
    simp only [allocate, if_neg hsize, if_neg hlimit, hplace]

/-! ## A buffer taken away -/

/-- Taking away the buffer at an address takes away that buffer only. -/
theorem perm_of_find? {ptr : UInt32} (hbases : blocks.Pairwise fun b c => b.base ≠ c.base)
    (h : blocks.find? (fun b => b.base = ptr) = some block) :
    blocks.Perm (block :: blocks.filter fun b => b.base ≠ ptr) := by
  induction blocks with
  | nil => contradiction
  | cons b bs ih =>
    obtain ⟨hb, hbs⟩ := List.pairwise_cons.1 hbases
    by_cases hptr : b.base = ptr
    · have hkeep : bs.filter (fun b => b.base ≠ ptr) = bs := by
        refine List.filter_eq_self.2 fun c hc => decide_eq_true ?_
        rw [← hptr]
        exact (hb c hc).symm
      rw [List.find?_cons_of_pos (by simpa using hptr), Option.some.injEq] at h
      rw [List.filter_cons_of_neg (by simpa using hptr), hkeep, h]
    · rw [List.find?_cons_of_neg (by simpa using hptr)] at h
      rw [List.filter_cons_of_pos (by simpa using hptr)]
      exact ((ih hbs h).cons b).trans (List.Perm.swap block b _)

/-! ## Sizes -/

/-- The sum of the sizes does not depend on the order. -/
theorem sizeOfAll_perm {others : List Block} (h : blocks.Perm others) :
    sizeOfAll blocks = sizeOfAll others := by
  induction h with
  | nil => rfl
  | cons b _ ih => rw [sizeOfAll, sizeOfAll, ih]
  | swap b c bs =>
    simp only [sizeOfAll]
    omega
  | trans _ _ ih ih' => rw [ih, ih']

theorem sizeOfAll_map {f : Block → Block} (hsize : ∀ b, (f b).buffer.size = b.buffer.size)
    (blocks : List Block) : sizeOfAll (blocks.map f) = sizeOfAll blocks := by
  induction blocks with
  | nil => rfl
  | cons b bs ih => rw [List.map_cons, sizeOfAll, sizeOfAll, ih, hsize]

theorem size_le_sizeOfAll {b : Block} (hb : b ∈ blocks) : b.buffer.size ≤ sizeOfAll blocks := by
  induction blocks with
  | nil => contradiction
  | cons c cs ih =>
    rw [sizeOfAll]
    rcases List.mem_cons.1 hb with rfl | hb
    · exact Nat.le_add_right _ _
    · exact Nat.le_trans (ih hb) (Nat.le_add_left _ _)

/-- Buffers that do not overlap have no more room than there is between two addresses. -/
theorem add_sizeOfAll_le {low high : Nat} (hsep : blocks.Pairwise fun b c => b.stop ≤ c.start)
    (hlow : ∀ b ∈ blocks, low ≤ b.start) (hhigh : ∀ b ∈ blocks, b.stop ≤ high)
    (hle : low ≤ high) : low + sizeOfAll blocks ≤ high := by
  induction blocks generalizing low with
  | nil => exact hle
  | cons b bs ih =>
    obtain ⟨hb, hbs⟩ := List.pairwise_cons.1 hsep
    obtain ⟨hlowb, -⟩ := List.forall_mem_cons.1 hlow
    obtain ⟨hhighb, hhigh⟩ := List.forall_mem_cons.1 hhigh
    have hrest : b.stop + sizeOfAll bs ≤ high := ih hbs hb hhigh hhighb
    rw [Block.stop] at hrest
    rw [sizeOfAll]
    omega

end PluginSandbox.Arena
