import PluginSandbox.Proofs.Memory.Placement
import PluginSandbox.Proofs.Memory.Reachable

/-!
# The invariant of the arena

Every operation keeps the live buffers aligned, within the addresses of 32 bits,
apart from each other, and in accord with the total. The sums that the arena
computes are then exact: none of them is cut off at a bound.

## Main definitions

* `Arena.Exact`: what the arena computes is not cut off.

## Main statements

* `Arena.Reachable.valid`: the invariant holds of every reachable arena.
* `Arena.reachable_valid_exact`: so do its consequences.
-/

namespace PluginSandbox.Arena

open Text

variable {a : Arena} {size : Nat} {base : UInt32}

/-! ## Consequences -/

/-- No two buffers have the same address. -/
theorem Valid.bases (h : a.Valid) : a.blocks.Pairwise fun b c => b.base ≠ c.base := by
  refine h.separated.imp_of_mem ?_
  intro b c hb hc hbc
  exact base_ne_of_apart (h.bounded b hb).1 (h.bounded c hc).1 (Or.inl hbc)

/-- The total fits into 32 bits. -/
theorem Valid.total_le (h : a.Valid) : a.total ≤ maxNat32 := by
  have hle := add_sizeOfAll_le h.separated (fun b _ => Nat.zero_le b.start)
    (fun b hb => (h.bounded b hb).2) (Nat.zero_le maxNat32)
  rw [h.total_eq]
  omega

theorem Valid.size_le_total (h : a.Valid) {b : Block} (hb : b ∈ a.blocks) :
    b.buffer.size ≤ a.total := by
  rw [h.total_eq]
  exact size_le_sizeOfAll hb

/-- No address lies in two buffers. -/
theorem Valid.eq_of_covers (h : a.Valid) {b c : Block} (hb : b ∈ a.blocks) (hc : c ∈ a.blocks)
    {address : Nat} (hab : b.covers address = true) (hac : c.covers address = true) : b = c := by
  simp only [Block.covers, Bool.and_eq_true, decide_eq_true_eq] at hab hac
  rcases eq_or_apart h.separated hb hc with heq | hsep
  · exact heq
  · omega

/-! ## New buffers -/

/-- A buffer at an address that is assigned is apart from the live ones. -/
theorem Valid.apart_of_assign (h : a.Valid) (hplace : a.assign size = .ok base) :
    ∀ b ∈ a.blocks, base.toNat + size ≤ b.start ∨ b.stop ≤ base.toNat := by
  rw [toNat_of_assign hplace]
  exact firstFit_apart h.separated

/-- An address that is assigned is not that of a live buffer. -/
theorem Valid.base_ne_of_assign (h : a.Valid) (hsize : 0 < size)
    (hplace : a.assign size = .ok base) : ∀ b ∈ a.blocks, base ≠ b.base := by
  intro b hb heq
  have hb0 := (h.bounded b hb).1
  have hapart := h.apart_of_assign hplace b hb
  rw [heq, Block.stop, Block.start] at hapart
  omega

theorem Valid.place (h : a.Valid) (hsize : 0 < size) (hplace : a.assign size = .ok base) :
    Valid { a with
      blocks := insertBlock ⟨base, .zeros size⟩ a.blocks
      total := a.total + size } := by
  have hfresh := h.base_ne_of_assign hsize hplace
  have hperm : (insertBlock ⟨base, .zeros size⟩ a.blocks).Perm (⟨base, .zeros size⟩ :: a.blocks) :=
    insertBlock_perm hfresh
  have hstart := toNat_of_assign hplace
  obtain ⟨hbound, -⟩ := assign_eq_ok_iff.1 hplace
  refine ⟨?_, ?_, ?_, ?_⟩
  · intro b hb
    rcases List.mem_cons.1 (hperm.mem_iff.1 hb) with rfl | hb
    · have hle := le_firstFit size alignment a.blocks
      have hpos : 0 < alignment := by decide
      rw [Block.start, hstart]
      exact ⟨by omega, firstFit_mod (by decide)⟩
    · exact h.aligned b hb
  · intro b hb
    rcases List.mem_cons.1 (hperm.mem_iff.1 hb) with rfl | hb
    · refine ⟨hsize, ?_⟩
      rw [Block.stop, Block.start, hstart, Buffer.size_zeros]
      exact hbound
    · exact h.bounded b hb
  · exact separated_insertBlock h.separated hfresh (h.apart_of_assign hplace)
  · simp only [sizeOfAll_perm hperm, sizeOfAll, Buffer.size_zeros, h.total_eq]
    omega

/-! ## Operations -/

theorem Valid.allocate (h : a.Valid) (size : UInt32) : (a.allocate size).2.Valid := by
  cases allocation a size with
  | empty _ heq | overBudget _ _ heq | noPlace _ _ _ heq =>
    rw [heq]
    exact h
  | placed base hsize _ hplace heq =>
    rw [heq]
    exact h.place (toNat_pos hsize) hplace

theorem Valid.deallocate (h : a.Valid) (ptr size : UInt32) : (a.deallocate ptr size).Valid := by
  rw [Arena.deallocate]
  cases hfind : a.blocks.find? fun b => b.base = ptr with
  | none => exact h
  | some block =>
    have hperm := perm_of_find? h.bases hfind
    refine ⟨?_, ?_, ?_, ?_⟩
    · exact fun b hb => h.aligned b (List.mem_filter.1 hb).1
    · exact fun b hb => h.bounded b (List.mem_filter.1 hb).1
    · exact h.separated.filter _
    · simp only [h.total_eq, sizeOfAll_perm hperm, sizeOfAll]
      omega

/-- Writing into buffers changes neither where they are nor how large they are. -/
theorem Valid.map (h : a.Valid) {f : Block → Block} (hbase : ∀ b, (f b).base = b.base)
    (hsize : ∀ b, (f b).buffer.size = b.buffer.size) :
    Valid { a with blocks := a.blocks.map f } := by
  have hstart : ∀ b, (f b).start = b.start := fun b => by rw [Block.start, Block.start, hbase]
  have hstop : ∀ b, (f b).stop = b.stop := fun b => by rw [Block.stop, Block.stop, hstart, hsize]
  refine ⟨?_, ?_, ?_, ?_⟩
  · intro b hb
    obtain ⟨c, hc, rfl⟩ := List.mem_map.1 hb
    rw [hstart]
    exact h.aligned c hc
  · intro b hb
    obtain ⟨c, hc, rfl⟩ := List.mem_map.1 hb
    rw [hstop, hsize]
    exact h.bounded c hc
  · simp only [List.pairwise_map, hstart, hstop]
    exact h.separated
  · rw [sizeOfAll_map hsize, h.total_eq]

theorem Valid.write (h : a.Valid) (ptr : UInt32) (bytes : List UInt8) :
    (a.write ptr bytes).2.Valid := by
  rw [Arena.write]
  split
  · exact h
  · cases a.locate ptr bytes.length with
    | error e => exact h
    | ok found =>
      refine h.map (fun b => ?_) (fun b => ?_)
      · split <;> rfl
      · split <;> rfl

theorem closed_valid : Closed Valid where
  allocate _ size h := h.allocate size
  deallocate _ ptr size h := h.deallocate ptr size
  releaseAll a _ := valid_releaseAll a
  setLimit _ limit h := h.setLimit limit
  write _ ptr bytes h := h.write ptr bytes

/-- The invariant holds of every arena that operations lead to. -/
theorem Reachable.valid (h : Reachable a) : a.Valid := h.induct closed_valid valid_new

/-! ## Exact sums -/

/-- Nothing that the arena computes is cut off: not the total when a buffer is added or taken away,
and not the places that are tried for a new buffer. -/
structure Exact (a : Arena) : Prop where
  /-- No buffer is larger than the total that it is taken from. -/
  taken : ∀ b ∈ a.blocks, b.buffer.size ≤ a.total
  /-- The total with any new buffer fits into 64 bits. -/
  added : ∀ size : UInt32, a.total + size.toNat ≤ maxNat64
  /-- The end of a new buffer fits into 64 bits at each place that is tried: the places are those
  found among the first buffers. -/
  tried : ∀ (size : UInt32) (first : List Block), first <+: a.blocks →
    firstFit size.toNat alignment first + size.toNat ≤ maxNat64
  /-- The end of a buffer fits into 64 bits, also when it is aligned. -/
  aligned : ∀ b ∈ a.blocks, alignUp b.stop ≤ maxNat64
  /-- The address of a new buffer is the place that was found, in full. -/
  assigned : ∀ (size : UInt32) (base : UInt32), a.assign size.toNat = .ok base →
    base.toNat = firstFit size.toNat alignment a.blocks
  /-- No buffer is put in place of another one. -/
  fresh : ∀ (size : UInt32) (base : UInt32), size ≠ 0 → a.assign size.toNat = .ok base →
    ∀ b ∈ a.blocks, base ≠ b.base

theorem Valid.exact (h : a.Valid) : a.Exact where
  taken b hb := h.size_le_total hb
  added size := by
    have htotal := h.total_le
    have hsize : size.toNat < 2 ^ 32 := size.toNat_lt
    rw [maxNat32] at htotal
    rw [maxNat64]
    omega
  tried size first hfirst := by
    have hplace : firstFit size.toNat alignment first ≤ maxNat32 + 1 :=
      firstFit_le (fun b hb => (h.bounded b (hfirst.subset hb)).2) (by decide)
    have hsize : size.toNat < 2 ^ 32 := size.toNat_lt
    rw [maxNat32] at hplace
    rw [maxNat64]
    omega
  aligned b hb := by
    have hle := alignUp_le (h.bounded b hb).2
    rw [maxNat32] at hle
    rw [maxNat64]
    omega
  assigned _ _ hplace := toNat_of_assign hplace
  fresh _ _ hsize hplace := h.base_ne_of_assign (toNat_pos hsize) hplace

/-- **The arena stays sound.** In every arena that operations lead to, the live buffers are aligned,
not empty, within the addresses of 32 bits and apart from each other, the total is the sum of their
sizes, and nothing that the arena computes next is cut off. -/
theorem reachable_valid_exact (h : Reachable a) :
    a.Valid ∧ a.Exact ∧
      ∀ b ∈ a.blocks, ∀ c ∈ a.blocks, ∀ address,
        b.covers address = true → c.covers address = true → b = c :=
  ⟨h.valid, h.valid.exact, fun _ hb _ hc _ hab hac => h.valid.eq_of_covers hb hc hab hac⟩

/-- A released range is used again, in a call that is recovered. -/
theorem reachable_valid_exact_reuse :
    let actions : List Action := [.allocate 5, .allocate 16, .deallocate 8 5,
      .recover [.put [1, 2, 3]] ⟨true, none⟩]
    let a := (Action.runAll false actions (Arena.new 64)).2
    a.blocks.map (fun b => (b.start, b.stop)) = [(8, 11), (16, 32)] ∧ a.Valid ∧ a.Exact := by
  intro actions a
  have hreachable : Reachable a := (Reachable.new 64).runAll false actions
  obtain ⟨hvalid, hexact, -⟩ := reachable_valid_exact hreachable
  exact ⟨by decide +kernel, hvalid, hexact⟩

end PluginSandbox.Arena
