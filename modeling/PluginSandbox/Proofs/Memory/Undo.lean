import PluginSandbox.Proofs.Memory.Budget

/-!
# Releasing what was allocated

Whatever buffers are asked for in turn, releasing all of them leads back to where
it began, in whatever order they are released, how often, and with whichever sizes.
A new buffer has an address of its own, so that taking away what stands there
leaves the buffers of before; and what is left after several releases is known from
the addresses alone, not from their order.

## Main definitions

* `Action.allocations`, `Action.releases`: requests for buffers, and their releases.

## Main statements

* `Arena.runAll_releases`: what is left after releases.
* `Arena.Valid.filter_runAll_allocations`: what is left of new buffers without what
  stands at their addresses.
* `Arena.reachable_releases_undo`: releases undo allocations.
-/

namespace PluginSandbox

namespace Action

/-- Requests for buffers of some sizes. -/
def allocations (sizes : List UInt32) : List Action := sizes.map .allocate

/-- Releases of the buffers at some addresses, with some sizes. -/
def releases (items : List (UInt32 × UInt32)) : List Action :=
  items.map fun item => .deallocate item.1 item.2

end Action

namespace Arena

variable {a a' : Arena} {blocks : List Block} {block : Block} {ptr size : UInt32}
  {sizes ptrs : List UInt32}

/-- An arena is known from its buffers and its budget. -/
theorem Valid.eq_of_blocks (h : a.Valid) (h' : a'.Valid) (hblocks : a.blocks = a'.blocks)
    (hlimit : a.limit = a'.limit) : a = a' := by
  have htotal : a.total = a'.total := by rw [h.total_eq, h'.total_eq, hblocks]
  cases a
  cases a'
  simp_all

/-! ## Releases -/

/-- What is left after a release are the buffers with other addresses. -/
theorem blocks_deallocate (a : Arena) (ptr size : UInt32) :
    (a.deallocate ptr size).blocks = a.blocks.filter fun b => b.base ≠ ptr := by
  rw [deallocate]
  split
  case h_1 => rfl
  case h_2 hnone =>
    refine (List.filter_eq_self.2 fun b hb => ?_).symm
    simpa using List.find?_eq_none.1 hnone b hb

theorem limit_deallocate (a : Arena) (ptr size : UInt32) :
    (a.deallocate ptr size).limit = a.limit := by
  rw [deallocate]
  split <;> rfl

/-- Releases succeed, and leave the buffers with none of the addresses. -/
theorem runAll_releases (items : List (UInt32 × UInt32)) (a : Arena) :
    ∃ a', Action.runAll false (Action.releases items) a =
        ((items.map fun _ => .nothing, .returned ()), a') ∧
      a'.blocks = a.blocks.filter (fun b => b.base ∉ items.map Prod.fst) ∧ a'.limit = a.limit := by
  induction items generalizing a with
  | nil =>
    have hkeep : a.blocks.filter (fun b => b.base ∉ ([] : List UInt32)) = a.blocks :=
      List.filter_eq_self.2 (by simp)
    exact ⟨a, by simp [Action.releases, Action.runAll], hkeep.symm, rfl⟩
  | cons item more ih =>
    obtain ⟨a', hrun, hblocks, hlimit⟩ := ih (a.deallocate item.1 item.2)
    refine ⟨a', ?_, ?_, by rw [hlimit, limit_deallocate]⟩
    · rw [Action.releases, List.map_cons, ← Action.releases, Action.runAll, Action.run]
      simp [hrun]
    · rw [hblocks, blocks_deallocate, List.filter_filter]
      refine List.filter_congr fun b _ => ?_
      by_cases hb : b.base = item.1 <;> simp [hb]

/-! ## New buffers -/

/-- A buffer with an address of its own that is put among others can be taken away again. -/
theorem filter_insertBlock (hfresh : ∀ b ∈ blocks, block.base ≠ b.base) :
    (insertBlock block blocks).filter (fun b => b.base ≠ block.base) = blocks := by
  have hkeep (bs : List Block) (hbs : ∀ b ∈ bs, block.base ≠ b.base) :
      bs.filter (fun b => b.base ≠ block.base) = bs :=
    List.filter_eq_self.2 fun b hb => decide_eq_true (hbs b hb).symm
  induction blocks with
  | nil => simp [insertBlock]
  | cons b bs ih =>
    obtain ⟨hb, hbs⟩ := List.forall_mem_cons.1 hfresh
    rw [insertBlock, if_neg hb]
    split
    · rw [List.filter_cons_of_neg (by simp), hkeep _ hfresh]
    · rw [List.filter_cons_of_pos (by simpa using hb.symm), ih hbs]

/-- Without what stands at the address of a new buffer, the buffers of before are left. -/
theorem Valid.filter_allocate (h : a.Valid) (hok : (a.allocate size).1 = .ok ptr) :
    (a.allocate size).2.blocks.filter (fun b => b.base ≠ ptr) = a.blocks := by
  cases allocation a size with
  | empty _ heq =>
    rw [heq] at hok ⊢
    obtain rfl := Except.ok.inj hok
    -- No buffer stands at the null pointer.
    refine List.filter_eq_self.2 fun b hb => decide_eq_true fun hzero => ?_
    have hstart := (h.aligned b hb).1
    rw [Block.start, hzero] at hstart
    exact absurd hstart (by decide)
  | overBudget _ _ heq | noPlace _ _ _ heq =>
    rw [heq] at hok
    contradiction
  | placed base hsize _ hplace heq =>
    rw [heq] at hok ⊢
    obtain rfl := Except.ok.inj hok
    have hfresh : ∀ b ∈ a.blocks, Block.base ⟨base, .zeros size.toNat⟩ ≠ b.base :=
      h.base_ne_of_assign (toNat_pos hsize) hplace
    exact filter_insertBlock hfresh

/-- Requests that all succeed begin with one that does. -/
theorem runAll_allocations_cons
    (hrun : Action.runAll false (Action.allocations (size :: sizes)) a =
      ((ptrs.map .pointer, .returned ()), a')) :
    ∃ ptr more, ptrs = ptr :: more ∧ (a.allocate size).1 = .ok ptr ∧
      Action.runAll false (Action.allocations sizes) (a.allocate size).2 =
        ((more.map .pointer, .returned ()), a') := by
  rw [Action.allocations, List.map_cons, ← Action.allocations, Action.runAll, Action.run] at hrun
  simp only [Bool.false_eq_true, if_false, Prod.mk.injEq] at hrun
  obtain ⟨⟨hreplies, houtcome⟩, hafter⟩ := hrun
  cases ptrs with
  | nil => contradiction
  | cons ptr more =>
    obtain ⟨hfirst, hmore⟩ := List.cons.inj hreplies
    cases hnew : (a.allocate size).1 with
    | ok base =>
      rw [hnew] at hfirst
      obtain rfl := Reply.pointer.inj hfirst
      exact ⟨base, more, rfl, rfl, by rw [← hmore, ← houtcome, ← hafter]⟩
    | error e =>
      rw [hnew] at hfirst
      contradiction

/-- Without what stands at the addresses of new buffers, the buffers of before are left. -/
theorem Valid.filter_runAll_allocations (h : a.Valid)
    (hrun : Action.runAll false (Action.allocations sizes) a =
      ((ptrs.map .pointer, .returned ()), a')) :
    a'.blocks.filter (fun b => b.base ∉ ptrs) = a.blocks ∧ a'.limit = a.limit := by
  induction sizes generalizing a ptrs with
  | nil =>
    simp only [Action.allocations, List.map_nil, Action.runAll, Prod.mk.injEq] at hrun
    obtain ⟨⟨hreplies, -⟩, rfl⟩ := hrun
    have hptrs : ptrs = [] := List.map_eq_nil_iff.1 hreplies.symm
    exact ⟨List.filter_eq_self.2 (by simp [hptrs]), rfl⟩
  | cons size sizes ih =>
    obtain ⟨ptr, more, rfl, hok, hmore⟩ := runAll_allocations_cons hrun
    obtain ⟨hblocks, hlimit⟩ := ih (h.allocate size) hmore
    refine ⟨?_, by rw [hlimit, limit_allocate]⟩
    rw [← h.filter_allocate hok, ← hblocks, List.filter_filter]
    refine List.filter_congr fun b _ => ?_
    by_cases hb : b.base = ptr <;> simp [hb]

/-! ## Both together -/

/-- **Releases undo allocations.** If buffers of some sizes are asked for in turn and all of them
are given, releases of all the pointers, in any order, each at least once and with any sizes, lead
back to the arena of before: the same buffers with the same bytes, the same total and the same
budget. -/
theorem reachable_releases_undo (h : Reachable a) {sizes ptrs : List UInt32} {a' : Arena}
    (hgiven : Action.runAll false (Action.allocations sizes) a =
      ((ptrs.map .pointer, .returned ()), a'))
    {items : List (UInt32 × UInt32)} (hitems : ∀ ptr, ptr ∈ items.map Prod.fst ↔ ptr ∈ ptrs) :
    Action.runAll false (Action.releases items) a' =
      ((items.map fun _ => .nothing, .returned ()), a) := by
  have hvalid' : a'.Valid := by
    have hreachable := h.runAll false (Action.allocations sizes)
    rw [hgiven] at hreachable
    exact hreachable.valid
  obtain ⟨a'', hrun, hblocks, hlimit⟩ := runAll_releases items a'
  have hvalid'' : a''.Valid := by
    have hclosed := closed_valid.runAll false (Action.releases items) a' hvalid'
    rwa [hrun] at hclosed
  obtain ⟨hkept, hlimit'⟩ := h.valid.filter_runAll_allocations hgiven
  have hsame : a''.blocks = a.blocks := by
    rw [hblocks, ← hkept]
    exact List.filter_congr fun b _ => by simp only [hitems]
  rw [hrun, hvalid''.eq_of_blocks h.valid hsame (hlimit.trans hlimit')]

/-- Four buffers, one of them of no size and one in a gap in front of a buffer that was written to,
are released out of order, one of them twice, and with sizes that are not theirs. -/
theorem reachable_releases_undo_twice :
    let a : Arena := ⟨[⟨16, ⟨3, [⟨0, [4, 5, 6]⟩]⟩⟩], 3, 64⟩
    let a' : Arena :=
      ⟨[⟨8, ⟨3, []⟩⟩, ⟨16, ⟨3, [⟨0, [4, 5, 6]⟩]⟩⟩, ⟨24, ⟨20, []⟩⟩, ⟨48, ⟨1, []⟩⟩], 27, 64⟩
    let items : List (UInt32 × UInt32) := [(24, 0), (0, 7), (8, 99), (24, 20), (48, 1)]
    Action.runAll false (Action.allocations [0, 3, 20, 1]) a =
        (([0, 8, 24, 48].map .pointer, .returned ()), a') ∧
      Action.runAll false (Action.releases items) a' =
        ((List.replicate 5 .nothing, .returned ()), a) := by
  intro a a' items
  have hreachable : Reachable a := by
    have hrun : (Action.runAll false [.allocate 3, .put [4, 5, 6], .deallocate 8 3]
        (Arena.new 64)).2 = a := by decide +kernel
    exact hrun ▸ (Reachable.new 64).runAll false _
  have hgiven : Action.runAll false (Action.allocations [0, 3, 20, 1]) a =
      (([0, 8, 24, 48].map .pointer, .returned ()), a') := by
    simp only [a, a']
    rfl
  have hitems : ∀ ptr, ptr ∈ items.map Prod.fst ↔ ptr ∈ [0, 8, 24, 48] := by
    intro ptr
    simp only [items, List.map_cons, List.map_nil, List.mem_cons, List.not_mem_nil]
    tauto
  exact ⟨hgiven, reachable_releases_undo hreachable hgiven hitems⟩

end Arena

end PluginSandbox
