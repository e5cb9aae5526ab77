import PluginSandbox.Proofs.Memory.Lookup
import PluginSandbox.Proofs.Memory.Packing

/-!
# The arena as flat memory

An arena stands for a memory of single bytes: those in its live buffers, each at
its address, and nothing elsewhere. Writing, reading, allocating and releasing do
to that memory what their names say, at the addresses of their range and at no
other. Where one buffer ends and the next one begins is not seen in the memory,
but an access keeps to one buffer, also where another one follows at once.

## Main definitions

* `Memory`, `Memory.store`, `Memory.load`, `Memory.erase`: memories of bytes and
  what is done to them.
* `Arena.Access`: how the access to a range ends.
* `Arena.RefinesMemory`: the operations in terms of the memory.

## Main statements

* `Arena.Valid.byteAt?_write`, `Arena.Valid.load_of_read`,
  `Arena.Valid.byteAt?_allocate`, `Arena.Valid.byteAt?_deallocate`: one operation
  each.
* `Arena.reachable_refinesMemory`: every arena that operations lead to acts as the
  memory that it stands for.
-/

namespace PluginSandbox

/-- The bytes of a memory: at each address one, or none. -/
abbrev Memory := Nat → Option UInt8

namespace Memory

/-- The memory with bytes put from an address on. -/
def store (memory : Memory) (start : Nat) (bytes : List UInt8) : Memory := fun address =>
  if start ≤ address ∧ address < start + bytes.length then bytes[address - start]?
  else memory address

/-- What is at the addresses of a range. -/
def load (memory : Memory) (start len : Nat) : List (Option UInt8) :=
  (List.range len).map fun i => memory (start + i)

/-- The memory with nothing left in a range. -/
def erase (memory : Memory) (start len : Nat) : Memory := fun address =>
  if start ≤ address ∧ address < start + len then none else memory address

@[simp] theorem store_nil (memory : Memory) (start : Nat) : memory.store start [] = memory := by
  funext address
  rw [store, if_neg]
  rw [List.length_nil]
  omega

end Memory

namespace Arena

variable {a : Arena} {b : Block} {ptr size : UInt32} {bytes : List UInt8} {len : Nat}

/-- The memory of an arena is known from its buffers: what the buffers have at their addresses, and
nothing at those that lie in none. -/
theorem Valid.byteAt?_eq (h : a.Valid) {memory : Memory}
    (hlive : ∀ b ∈ a.blocks, ∀ address, b.covers address = true →
      memory address = some (b.buffer.byteAt (address - b.start)))
    (hdead : ∀ address, (∀ b ∈ a.blocks, b.covers address = false) → memory address = none) :
    a.byteAt? = memory := by
  funext address
  cases hat : a.byteAt? address with
  | none => exact (hdead address (byteAt?_eq_none_iff.1 hat)).symm
  | some byte =>
    obtain ⟨b, hb, hcov⟩ : ∃ b ∈ a.blocks, b.covers address = true := by
      rw [byteAt?, Option.map_eq_some_iff] at hat
      obtain ⟨b, hfind, -⟩ := hat
      exact ⟨b, List.mem_of_find?_eq_some hfind,
        List.find?_some (p := fun d : Block => d.covers address) hfind⟩
    rw [hlive b hb address hcov, ← hat, h.byteAt?_of_covers hb hcov]

/-! ## Access to a range -/

/-- How the access to a range ends. -/
structure Access {α : Type} (a : Arena) (ptr : UInt32) (len : Nat)
    (result : Except BoundaryError α) : Prop where
  /-- It succeeds exactly if a single live buffer contains the range. -/
  ok_iff : (∃ r, result = .ok r) ↔ ∃ b ∈ a.blocks, b.Encloses ptr.toNat len
  /-- If it fails, the pointer is unknown exactly if there is no byte at it. -/
  unknown_iff : ∀ e, result = .error e →
    (e = .unknownPointer ptr ↔ a.byteAt? ptr.toNat = none)
  /-- If it fails although there is one, the range is longer than what is left of the buffer. -/
  outOfBounds : ∀ e, result = .error e → a.byteAt? ptr.toNat ≠ none →
    ∃ b ∈ a.blocks, b.covers ptr.toNat = true ∧
      e = .outOfBounds ptr len (b.stop - ptr.toNat)

/-- An operation that fails exactly as the search for its range does is an access to the range. -/
theorem Valid.access {α : Type} (h : a.Valid) (hlen : 0 < len) {result : Except BoundaryError α}
    (hok : ∀ found, a.locate ptr len = .ok found → ∃ r, result = .ok r)
    (herror : ∀ e, a.locate ptr len = .error e → result = .error e) : a.Access ptr len result := by
  cases h.location ptr len with
  | inside b hb hcov hstop heq =>
    obtain ⟨r, rfl⟩ := hok _ heq
    refine ⟨?_, ?_, ?_⟩
    · exact iff_of_true ⟨r, rfl⟩ ⟨b, hb, (Block.covers_iff.1 hcov).1, hstop⟩
    · intro e he
      contradiction
    · intro e he
      contradiction
  | beyond b hb hcov hstop heq =>
    obtain rfl := herror _ heq
    have hbyte : a.byteAt? ptr.toNat ≠ none := by
      rw [h.byteAt?_of_covers hb hcov]
      exact Option.some_ne_none _
    refine ⟨iff_of_false (fun ⟨_, hr⟩ => nomatch hr) ?_, ?_, ?_⟩
    · rintro ⟨c, hc, hin⟩
      have hcov' : c.covers ptr.toNat = true := hin.covers (Nat.le_refl _) (by omega)
      rw [h.eq_of_covers hc hb hcov' hcov] at hin
      exact absurd hin.2 (by omega)
    · intro e he
      obtain rfl := Except.error.inj he
      exact iff_of_false (fun heq => nomatch heq) hbyte
    · intro e he _
      exact ⟨b, hb, hcov, (Except.error.inj he).symm⟩
  | nowhere hnone heq =>
    obtain rfl := herror _ heq
    have hbyte : a.byteAt? ptr.toNat = none := byteAt?_eq_none_iff.2 hnone
    refine ⟨iff_of_false (fun ⟨_, hr⟩ => nomatch hr) ?_, ?_, fun _ _ hne => absurd hbyte hne⟩
    · rintro ⟨c, hc, hin⟩
      have hcov : c.covers ptr.toNat = true := hin.covers (Nat.le_refl _) (by omega)
      rw [hnone c hc] at hcov
      contradiction
    · intro e he
      exact iff_of_true (Except.error.inj he).symm hbyte

/-! ## Writing -/

/-- Writing in one buffer is storing at its addresses. -/
theorem Valid.byteAt?_map_write (h : a.Valid) (hb : b ∈ a.blocks)
    (hin : b.Encloses ptr.toNat bytes.length) :
    byteAt? { a with blocks := a.blocks.map fun c =>
      if c.base = b.base then ⟨c.base, c.buffer.write (ptr.toNat - b.start) bytes⟩ else c } =
      Memory.store a.byteAt? ptr.toNat bytes := by
  have hvalid : Valid { a with blocks := a.blocks.map fun c =>
      if c.base = b.base then ⟨c.base, c.buffer.write (ptr.toNat - b.start) bytes⟩ else c } := by
    refine h.map (fun c => ?_) (fun c => ?_)
    · split <;> rfl
    · split <;> rfl
  have hstart : b.start ≤ ptr.toNat := hin.1
  refine hvalid.byteAt?_eq ?_ ?_
  -- Buffers keep their places, so a byte is one of the buffer that is written in or one of another,
  -- and no address of another one is in the range.
  · intro c' hc' address hcov
    obtain ⟨c, hc, rfl⟩ := List.mem_map.1 hc'
    by_cases hbase : c.base = b.base
    · obtain rfl := h.eq_of_base hc hb hbase
      rw [if_pos rfl] at hcov ⊢
      have hcov : c.covers address = true := hcov
      have hle : c.start ≤ address := (Block.covers_iff.1 hcov).1
      change _ = some ((c.buffer.write (ptr.toNat - c.start) bytes).byteAt (address - c.start))
      rw [Memory.store, Buffer.byteAt_write]
      by_cases hrange : ptr.toNat ≤ address ∧ address < ptr.toNat + bytes.length
      · have hindex : address - c.start - (ptr.toNat - c.start) = address - ptr.toNat := by omega
        have hlt : address - ptr.toNat < bytes.length := by omega
        rw [if_pos hrange, if_pos (by omega), hindex, List.getElem?_eq_getElem hlt,
          Option.getD_some]
      · rw [if_neg hrange, if_neg (by omega), h.byteAt?_of_covers hc hcov]
    · rw [if_neg hbase] at hcov ⊢
      rw [Memory.store, if_neg, h.byteAt?_of_covers hc hcov]
      rintro ⟨hle, hlt⟩
      have hcb : c = b := h.eq_of_covers hc hb hcov (hin.covers hle hlt)
      exact hbase (congrArg Block.base hcb)
  · intro address hnone
    have hnone : ∀ c ∈ a.blocks, c.covers address = false := by
      intro c hc
      have hmap := hnone _ (List.mem_map_of_mem hc)
      split at hmap <;> exact hmap
    rw [Memory.store, if_neg, byteAt?_eq_none_iff.2 hnone]
    rintro ⟨hle, hlt⟩
    have hcov := hin.covers hle hlt
    rw [hnone b hb] at hcov
    contradiction

/-- Writing is storing at the addresses of the range. -/
theorem Valid.byteAt?_write (h : a.Valid) (hok : (a.write ptr bytes).1 = .ok ()) :
    (a.write ptr bytes).2.byteAt? = Memory.store a.byteAt? ptr.toNat bytes := by
  by_cases hempty : bytes = []
  · rw [Arena.write, if_pos hempty, hempty, Memory.store_nil]
  rw [Arena.write, if_neg hempty] at hok ⊢
  cases hlocate : a.locate ptr bytes.length with
  | error e =>
    rw [hlocate] at hok
    contradiction
  | ok found =>
    obtain ⟨b, offset⟩ := found
    obtain ⟨hb, hin, rfl⟩ := h.encloses_of_locate hlocate
    exact h.byteAt?_map_write hb hin

theorem Valid.access_write (h : a.Valid) (hbytes : bytes ≠ []) :
    a.Access ptr bytes.length (a.write ptr bytes).1 := by
  refine h.access (List.length_pos_iff.2 hbytes) ?_ ?_
  · intro found hfound
    refine ⟨(), ?_⟩
    simp only [Arena.write, if_neg hbytes, hfound]
  · intro e he
    simp only [Arena.write, if_neg hbytes, he]

/-- A write that fails changes nothing. -/
theorem write_of_error {e : BoundaryError} (he : (a.write ptr bytes).1 = .error e) :
    (a.write ptr bytes).2 = a := by
  rw [write] at he ⊢
  split
  · rfl
  · rename_i hbytes
    rw [if_neg hbytes] at he
    cases hlocate : a.locate ptr bytes.length with
    | error e => rfl
    | ok found =>
      rw [hlocate] at he
      contradiction

/-! ## Reading -/

/-- Reading a packed range is a search for it. -/
theorem read_eq {packed : UInt64} {range : UInt32} (hpacked : pack ptr range = .ok packed)
    (hrange : range ≠ 0) :
    a.read packed = (a.locate ptr range.toNat).map fun found =>
      found.1.buffer.read found.2 range.toNat := by
  simp only [read, unpack_pack hpacked, if_neg hrange]
  cases a.locate ptr range.toNat <;> rfl

theorem Valid.access_read (h : a.Valid) {packed : UInt64} {range : UInt32}
    (hpacked : pack ptr range = .ok packed) (hrange : range ≠ 0) :
    a.Access ptr range.toNat (a.read packed) := by
  rw [read_eq hpacked hrange]
  refine h.access (toNat_pos hrange) ?_ ?_
  · intro found hfound
    rw [hfound]
    exact ⟨_, rfl⟩
  · intro e he
    rw [he]
    rfl

/-- Reading gives what is at the addresses of the range. -/
theorem Valid.load_of_read (h : a.Valid) {packed : UInt64} {range : UInt32}
    (hpacked : pack ptr range = .ok packed) (hrange : range ≠ 0) (hok : a.read packed = .ok bytes) :
    bytes.map some = Memory.load a.byteAt? ptr.toNat range.toNat := by
  rw [read_eq hpacked hrange] at hok
  cases hlocate : a.locate ptr range.toNat with
  | error e =>
    rw [hlocate] at hok
    contradiction
  | ok found =>
    obtain ⟨b, offset⟩ := found
    obtain ⟨hb, hin, rfl⟩ := h.encloses_of_locate hlocate
    rw [hlocate] at hok
    obtain rfl := Except.ok.inj hok
    change (b.buffer.read (ptr.toNat - b.start) range.toNat).map some = _
    rw [Buffer.read, List.map_map, Memory.load]
    refine List.map_congr_left fun i hi => ?_
    have hlt : i < range.toNat := List.mem_range.1 hi
    have hoffset : ptr.toNat - b.start + i = ptr.toNat + i - b.start := by
      have hstart := hin.1
      omega
    rw [h.byteAt?_of_covers hb (hin.covers (Nat.le_add_right _ _) (by omega))]
    exact congrArg (fun offset => some (b.buffer.byteAt offset)) hoffset

/-! ## Allocating -/

/-- The buffer at an address that is assigned is put among the live ones in place of none. -/
theorem Valid.perm_of_assign (h : a.Valid) {base : UInt32} (hsize : size ≠ 0)
    (hplace : a.assign size.toNat = .ok base) :
    (insertBlock ⟨base, .zeros size.toNat⟩ a.blocks).Perm
      (⟨base, .zeros size.toNat⟩ :: a.blocks) :=
  insertBlock_perm (h.base_ne_of_assign (toNat_pos hsize) hplace)

/-- A new buffer comes to the live ones, and nothing else does. -/
theorem Valid.perm_of_allocate (h : a.Valid) (hok : (a.allocate size).1 = .ok ptr)
    (hsize : size ≠ 0) :
    (a.allocate size).2.blocks.Perm (⟨ptr, .zeros size.toNat⟩ :: a.blocks) := by
  cases allocation a size with
  | empty hzero heq => contradiction
  | overBudget _ hlimit heq | noPlace _ hlimit hplace heq =>
    rw [heq] at hok
    contradiction
  | placed base _ hlimit hplace heq =>
    rw [heq] at hok ⊢
    obtain rfl := Except.ok.inj hok
    exact h.perm_of_assign hsize hplace

/-- What is allocated is one live buffer. -/
theorem Valid.live_of_allocate (h : a.Valid) (hok : (a.allocate size).1 = .ok ptr)
    (hsize : size ≠ 0) : ⟨ptr, .zeros size.toNat⟩ ∈ (a.allocate size).2.blocks :=
  (h.perm_of_allocate hok hsize).mem_iff.2 List.mem_cons_self

/-- The addresses of a new buffer had no bytes before. -/
theorem Valid.fresh_of_allocate (h : a.Valid) (hok : (a.allocate size).1 = .ok ptr)
    {address : Nat} (hle : ptr.toNat ≤ address) (hlt : address < ptr.toNat + size.toNat) :
    a.byteAt? address = none := by
  cases allocation a size with
  | empty hsize heq =>
    have hzero : size.toNat = 0 := by rw [hsize]; rfl
    omega
  | overBudget hsize hlimit heq | noPlace hsize hlimit hplace heq =>
    rw [heq] at hok
    contradiction
  | placed base hsize hlimit hplace heq =>
    rw [heq] at hok
    obtain rfl := Except.ok.inj hok
    refine byteAt?_eq_none_iff.2 fun b hb => Bool.eq_false_iff.2 fun hcov => ?_
    have hb' := Block.covers_iff.1 hcov
    have hapart := h.apart_of_assign hplace b hb
    omega

/-- Allocating is storing zero bytes at the addresses of the new buffer. -/
theorem Valid.byteAt?_allocate (h : a.Valid) (hok : (a.allocate size).1 = .ok ptr) :
    (a.allocate size).2.byteAt? =
      Memory.store a.byteAt? ptr.toNat (List.replicate size.toNat 0) := by
  have hvalid := h.allocate size
  cases allocation a size with
  | empty hsize heq =>
    have hzero : size.toNat = 0 := by rw [hsize]; rfl
    rw [heq, hzero, List.replicate_zero, Memory.store_nil]
  | overBudget hsize hlimit heq | noPlace hsize hlimit hplace heq =>
    rw [heq] at hok
    contradiction
  | placed base hsize hlimit hplace heq =>
    have hperm := h.perm_of_assign hsize hplace
    have hapart := h.apart_of_assign hplace
    rw [heq] at hok hvalid ⊢
    obtain rfl := Except.ok.inj hok
    refine hvalid.byteAt?_eq ?_ ?_
    · intro b hb address hcov
      rcases List.mem_cons.1 (hperm.mem_iff.1 hb) with rfl | hb
      · obtain ⟨hle, hlt⟩ : base.toNat ≤ address ∧ address < base.toNat + size.toNat :=
          Block.covers_iff.1 hcov
        rw [Memory.store, List.length_replicate, if_pos ⟨hle, hlt⟩, Buffer.byteAt_zeros]
        exact List.getElem?_replicate_of_lt (by omega)
      · obtain ⟨hle, hlt⟩ := Block.covers_iff.1 hcov
        have hb' := hapart b hb
        rw [Memory.store, List.length_replicate, if_neg (by omega), h.byteAt?_of_covers hb hcov]
    · intro address hnone
      have hnew := hnone _ (hperm.mem_iff.2 List.mem_cons_self)
      have hold : ∀ b ∈ a.blocks, b.covers address = false := fun b hb =>
        hnone b (hperm.mem_iff.2 (List.mem_cons_of_mem _ hb))
      rw [Memory.store, List.length_replicate, if_neg, byteAt?_eq_none_iff.2 hold]
      intro hrange
      rw [Block.covers_iff.2 hrange] at hnew
      contradiction

/-- A request for a buffer that fails changes nothing. -/
theorem allocate_of_error {e : BoundaryError} (he : (a.allocate size).1 = .error e) :
    (a.allocate size).2 = a := by
  cases allocation a size with
  | empty _ heq | overBudget _ _ heq | noPlace _ _ _ heq => rw [heq]
  | placed base hsize hlimit hplace heq =>
    rw [heq] at he
    contradiction

/-! ## Releasing -/

/-- Releasing a buffer leaves nothing at its addresses. -/
theorem Valid.byteAt?_deallocate (h : a.Valid) (hb : b ∈ a.blocks) (size : UInt32) :
    (a.deallocate b.base size).byteAt? = Memory.erase a.byteAt? b.start b.buffer.size := by
  have hvalid := h.deallocate b.base size
  cases hfind : a.blocks.find? fun c => c.base = b.base with
  | none =>
    have hne := List.find?_eq_none.1 hfind b hb
    simp only [decide_true, not_true_eq_false] at hne
  | some c =>
    simp only [Arena.deallocate, hfind] at hvalid ⊢
    refine hvalid.byteAt?_eq ?_ ?_
    · intro d hd address hcov
      obtain ⟨hd, hne⟩ := List.mem_filter.1 hd
      rw [Memory.erase, if_neg, h.byteAt?_of_covers hd hcov]
      intro hrange
      have hdb : d = b := h.eq_of_covers hd hb hcov (Block.covers_iff.2 hrange)
      exact of_decide_eq_true hne (congrArg Block.base hdb)
    · intro address hnone
      rw [Memory.erase]
      split
      · rfl
      · rename_i hrange
        refine byteAt?_eq_none_iff.2 fun d hd => ?_
        by_cases hbase : d.base = b.base
        · rw [h.eq_of_base hd hb hbase]
          exact Bool.eq_false_iff.2 fun hcov => hrange (Block.covers_iff.1 hcov)
        · exact hnone d (List.mem_filter.2 ⟨hd, decide_eq_true hbase⟩)

/-- Only the address of a live buffer can be released. -/
theorem deallocate_of_untracked (hptr : ∀ b ∈ a.blocks, b.base ≠ ptr) (size : UInt32) :
    a.deallocate ptr size = a := by
  have hnone : a.blocks.find? (fun b => b.base = ptr) = none :=
    List.find?_eq_none.2 fun b hb => by simpa only [decide_eq_true_eq] using hptr b hb
  rw [deallocate, hnone]

/-! ## All operations -/

/-- The operations of an arena are those of the memory that it stands for. -/
structure RefinesMemory (a : Arena) : Prop where
  /-- A write that is not empty is an access to its range. -/
  access_write : ∀ ptr bytes, bytes ≠ [] → a.Access ptr bytes.length (a.write ptr bytes).1
  /-- It stores the bytes. -/
  write : ∀ ptr bytes, (a.write ptr bytes).1 = .ok () →
    (a.write ptr bytes).2.byteAt? = Memory.store a.byteAt? ptr.toNat bytes
  /-- A write that fails changes nothing. -/
  write_error : ∀ ptr bytes e, (a.write ptr bytes).1 = .error e → (a.write ptr bytes).2 = a
  /-- A pointer that is not null can be packed with any length, and reading the packed range is an
  access to it, which gives what is stored there. -/
  read : ∀ ptr len, ptr ≠ 0 → len ≠ 0 → ∃ packed, pack ptr len = .ok packed ∧
    a.Access ptr len.toNat (a.read packed) ∧
    ∀ bytes, a.read packed = .ok bytes →
      bytes.map some = Memory.load a.byteAt? ptr.toNat len.toNat
  /-- What is allocated is one live buffer. -/
  live : ∀ size ptr, (a.allocate size).1 = .ok ptr → size ≠ 0 →
    ⟨ptr, .zeros size.toNat⟩ ∈ (a.allocate size).2.blocks
  /-- There was nothing in its range. -/
  fresh : ∀ size ptr, (a.allocate size).1 = .ok ptr →
    ∀ address, ptr.toNat ≤ address → address < ptr.toNat + size.toNat → a.byteAt? address = none
  /-- Zero bytes are stored in its range. -/
  allocate : ∀ size ptr, (a.allocate size).1 = .ok ptr →
    (a.allocate size).2.byteAt? =
      Memory.store a.byteAt? ptr.toNat (List.replicate size.toNat 0)
  /-- A request for a buffer that fails changes nothing. -/
  allocate_error : ∀ size e, (a.allocate size).1 = .error e → (a.allocate size).2 = a
  /-- Releasing a buffer by its address erases its range. -/
  deallocate : ∀ b ∈ a.blocks, ∀ size,
    (a.deallocate b.base size).byteAt? = Memory.erase a.byteAt? b.start b.buffer.size
  /-- Releasing by any other pointer, be it one into a buffer, changes nothing. -/
  deallocate_untracked : ∀ ptr, (∀ b ∈ a.blocks, b.base ≠ ptr) → ∀ size, a.deallocate ptr size = a

theorem Valid.refinesMemory (h : a.Valid) : a.RefinesMemory where
  access_write _ _ hbytes := h.access_write hbytes
  write _ _ hok := h.byteAt?_write hok
  write_error _ _ _ he := write_of_error he
  read _ _ hptr hlen :=
    ⟨_, pack_of_ne_zero hptr, h.access_read (pack_of_ne_zero hptr) hlen,
      fun _ hok => h.load_of_read (pack_of_ne_zero hptr) hlen hok⟩
  live _ _ hok hsize := h.live_of_allocate hok hsize
  fresh _ _ hok _ hle hlt := h.fresh_of_allocate hok hle hlt
  allocate _ _ hok := h.byteAt?_allocate hok
  allocate_error _ _ he := allocate_of_error he
  deallocate _ hb size := h.byteAt?_deallocate hb size
  deallocate_untracked _ hptr size := deallocate_of_untracked hptr size

/-- **The arena is a memory of bytes.** Every arena that operations lead to acts as the memory that
it stands for: an access succeeds exactly if one live buffer contains its range, and each operation
changes the memory at the addresses of its range and at no other. -/
theorem reachable_refinesMemory (h : Reachable a) : a.RefinesMemory := h.valid.refinesMemory

/-- A buffer that takes a released range holds zero bytes, and a range that crosses from one buffer
into the next is not written to although there are bytes all along it. -/
theorem reachable_refinesMemory_touching :
    let actions : List Action := [.allocate 8, .write 8 [7], .deallocate 8 8, .allocate 8,
      .allocate 8]
    let a := (Action.runAll false actions (Arena.new 64)).2
    a.blocks.map (fun b => (b.start, b.stop)) = [(8, 16), (16, 24)] ∧
      Memory.load a.byteAt? 12 8 = List.replicate 8 (some 0) ∧
      (a.write 12 (List.replicate 8 1)).1 = .error (.outOfBounds 12 8 4) ∧ a.RefinesMemory := by
  intro actions a
  have hreachable : Reachable a := (Reachable.new 64).runAll false actions
  exact ⟨by decide +kernel, by decide +kernel, by rfl,
    reachable_refinesMemory hreachable⟩

end Arena

end PluginSandbox
