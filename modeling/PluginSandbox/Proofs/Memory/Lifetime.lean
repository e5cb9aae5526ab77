import PluginSandbox.Proofs.Memory.History
import PluginSandbox.Proofs.Memory.Storing

/-!
# The life of a buffer

A buffer that is made of bytes stays where it is, as large as it is, until it is
released, and its bytes stay the same as long as nothing is written to it: whatever
else is done, other buffers are put, written to and released in places of their
own. When it is released nothing is left at its address, and there is nothing until
a new buffer is put over that address. What is said of one change is carried
through the histories of runs.

## Main definitions

* `Change.Releases`, `Change.WritesTo`, `Change.Spares`: what a change is to a
  buffer.
* `Change.Covers`, `Change.NoneCovers`: a new buffer over an address, and a history
  without one.
* `Arena.Lifetime`: what becomes of a buffer that was made of bytes.

## Main statements

* `Arena.Valid.mem_apply`, `Arena.Valid.byteAt?_apply_eq_none`: one change.
* `Arena.Valid.mem_applyAll_of_spares`, `Arena.Valid.exists_mem_applyAll`,
  `Arena.Valid.byteAt?_applyAll_eq_none`: histories.
* `Arena.reachable_lifetime`: a word that `put` gives has the bytes for the whole
  life of its buffer, and none afterwards.
-/

namespace PluginSandbox

namespace Change

/-- The change releases the buffer at an address, if there is one. -/
def Releases (ptr : UInt32) : Change → Prop
  | deallocate released _ => released = ptr
  | releaseAll => True
  | allocate _ | setLimit _ | write _ _ | put _ => False

instance (ptr : UInt32) : (c : Change) → Decidable (c.Releases ptr)
  | deallocate released _ => inferInstanceAs (Decidable (released = ptr))
  | releaseAll => inferInstanceAs (Decidable True)
  | allocate _ | setLimit _ | write _ _ | put _ => inferInstanceAs (Decidable False)

/-- The change writes within the range of a buffer. -/
def WritesTo (ptr : UInt32) (size : Nat) : Change → Prop
  | write target bytes =>
    bytes ≠ [] ∧ ptr.toNat ≤ target.toNat ∧ target.toNat + bytes.length ≤ ptr.toNat + size
  | allocate _ | deallocate _ _ | releaseAll | setLimit _ | put _ => False

instance (ptr : UInt32) (size : Nat) : (c : Change) → Decidable (c.WritesTo ptr size)
  | write target bytes => inferInstanceAs (Decidable (bytes ≠ [] ∧ ptr.toNat ≤ target.toNat ∧
      target.toNat + bytes.length ≤ ptr.toNat + size))
  | allocate _ | deallocate _ _ | releaseAll | setLimit _ | put _ =>
    inferInstanceAs (Decidable False)

/-- The change is not to the buffer of an address and a size. -/
def Spares (ptr : UInt32) (size : Nat) (c : Change) : Prop :=
  ¬c.Releases ptr ∧ ¬c.WritesTo ptr size

instance (ptr : UInt32) (size : Nat) (c : Change) : Decidable (c.Spares ptr size) :=
  inferInstanceAs (Decidable (¬c.Releases ptr ∧ ¬c.WritesTo ptr size))

/-- The address and the size of the buffer that a change puts, if it puts one. -/
def newRange? (a : Arena) : Change → Option (UInt32 × UInt32)
  | allocate size => (a.allocate size).1.toOption.map fun ptr => (ptr, size)
  | put bytes => ((a.put bytes).1.bind unpack).toOption
  | deallocate _ _ | releaseAll | setLimit _ | write _ _ => none

/-- The change puts a new buffer where the address lies. -/
def Covers (address : Nat) (a : Arena) (c : Change) : Prop :=
  ∃ range ∈ c.newRange? a, range.1.toNat ≤ address ∧ address < range.1.toNat + range.2.toNat

instance (address : Nat) (a : Arena) (c : Change) : Decidable (c.Covers address a) :=
  inferInstanceAs (Decidable (∃ range ∈ c.newRange? a,
    range.1.toNat ≤ address ∧ address < range.1.toNat + range.2.toNat))

/-- No change of a history puts a new buffer where the address lies. -/
def NoneCovers (address : Nat) : List Change → Arena → Prop
  | [], _ => True
  | c :: more, a => ¬c.Covers address a ∧ NoneCovers address more (c.apply a)

instance (address : Nat) : (changes : List Change) → (a : Arena) →
    Decidable (NoneCovers address changes a)
  | [], _ => inferInstanceAs (Decidable True)
  | c :: more, a =>
    have : Decidable (NoneCovers address more (c.apply a)) := instDecidableNoneCovers address more _
    inferInstanceAs (Decidable (¬c.Covers address a ∧ NoneCovers address more (c.apply a)))

end Change

/-- Bytes that fill a buffer are what is read from it. -/
theorem Buffer.read_write_zeros (bytes : List UInt8) :
    ((zeros bytes.length).write 0 bytes).read 0 bytes.length = bytes := by
  apply List.ext_getElem?
  intro i
  by_cases hi : i < bytes.length
  · rw [getElem?_read _ _ _ _ hi, Nat.zero_add, byteAt_write, if_pos (by omega), Nat.sub_zero,
      List.getElem?_eq_getElem hi, Option.getD_some]
  · have hle : bytes.length ≤ i := Nat.not_lt.1 hi
    simp [hle]

namespace Arena

open Change

variable {a a' : Arena} {b : Block} {c : Change} {changes : List Change} {address : Nat}
  {ptr len : UInt32} {packed : UInt64} {bytes : List UInt8}

/-! ## A live buffer -/

/-- A live buffer stays where a new one is put. -/
theorem Valid.mem_allocate (h : a.Valid) (hb : b ∈ a.blocks) (size : UInt32) :
    b ∈ (a.allocate size).2.blocks := by
  cases allocation a size with
  | empty _ heq | overBudget _ _ heq | noPlace _ _ _ heq => rwa [heq]
  | placed base hsize _ hplace heq =>
    rw [heq]
    exact (h.perm_of_assign hsize hplace).mem_iff.2 (List.mem_cons_of_mem _ hb)

theorem Valid.mem_put (h : a.Valid) (hb : b ∈ a.blocks) (bytes : List UInt8) :
    b ∈ (a.put bytes).2.blocks := by
  cases h.putting bytes with
  | empty _ heq | tooLong _ heq | refused _ _ _ _ heq => rwa [heq]
  | stored _ _ _ _ _ _ _ _ hperm heq =>
    rw [heq]
    exact hperm.mem_iff.2 (List.mem_cons_of_mem _ hb)

theorem mem_deallocate (hb : b ∈ a.blocks) (hne : ptr ≠ b.base) (size : UInt32) :
    b ∈ (a.deallocate ptr size).blocks := by
  rw [deallocate]
  split
  · exact List.mem_filter.2 ⟨hb, decide_eq_true hne.symm⟩
  · exact hb

/-- A live buffer is the one that is written to, or stays as it is. -/
theorem Valid.mem_write (h : a.Valid) (hb : b ∈ a.blocks) (ptr : UInt32) (bytes : List UInt8) :
    ∃ buffer, ⟨b.base, buffer⟩ ∈ (a.write ptr bytes).2.blocks ∧ buffer.size = b.buffer.size ∧
      (bytes ≠ [] ∧ b.Encloses ptr.toNat bytes.length ∨ buffer = b.buffer) := by
  cases h.writing ptr bytes with
  | empty _ heq | refused _ _ heq =>
    rw [heq]
    exact ⟨b.buffer, hb, rfl, Or.inr rfl⟩
  | inside d hd hbytes hin heq =>
    rw [heq]
    by_cases hbase : b.base = d.base
    · obtain rfl := h.eq_of_base hb hd hbase
      refine ⟨b.buffer.write (ptr.toNat - b.start) bytes, ?_, rfl, Or.inl ⟨hbytes, hin⟩⟩
      exact List.mem_map.2 ⟨b, hb, if_pos rfl⟩
    · refine ⟨b.buffer, ?_, rfl, Or.inr rfl⟩
      exact List.mem_map.2 ⟨b, hb, if_neg hbase⟩

/-- A change that does not release a live buffer leaves it where it is and as large as it is, and
with its bytes unless it writes to it. -/
theorem Valid.mem_apply (h : a.Valid) (hb : b ∈ a.blocks) (hkeeps : ¬c.Releases b.base) :
    ∃ buffer, ⟨b.base, buffer⟩ ∈ (c.apply a).blocks ∧ buffer.size = b.buffer.size ∧
      (c.WritesTo b.base b.buffer.size ∨ buffer = b.buffer) := by
  cases c with
  | allocate size => exact ⟨b.buffer, h.mem_allocate hb size, rfl, Or.inr rfl⟩
  | deallocate ptr size => exact ⟨b.buffer, mem_deallocate hb hkeeps size, rfl, Or.inr rfl⟩
  | releaseAll => exact absurd trivial hkeeps
  | setLimit limit => exact ⟨b.buffer, hb, rfl, Or.inr rfl⟩
  | write ptr bytes => exact h.mem_write hb ptr bytes
  | put bytes => exact ⟨b.buffer, h.mem_put hb bytes, rfl, Or.inr rfl⟩

/-- A history that spares a live buffer leaves it as it is. -/
theorem Valid.mem_applyAll_of_spares (h : a.Valid) (hb : b ∈ a.blocks)
    (hspares : ∀ c ∈ changes, c.Spares b.base b.buffer.size) : b ∈ (applyAll changes a).blocks := by
  induction changes generalizing a with
  | nil => exact hb
  | cons c more ih =>
    obtain ⟨hc, hmore⟩ := List.forall_mem_cons.1 hspares
    obtain ⟨buffer, hmem, -, hsame⟩ := h.mem_apply hb hc.1
    obtain rfl := hsame.resolve_left hc.2
    exact ih (closed_valid.apply c a h) hmem hmore

/-- A history that does not release a live buffer leaves it where it is. -/
theorem Valid.exists_mem_applyAll (h : a.Valid) (hb : b ∈ a.blocks)
    (hkeeps : ∀ c ∈ changes, ¬c.Releases b.base) :
    ∃ buffer, ⟨b.base, buffer⟩ ∈ (applyAll changes a).blocks := by
  induction changes generalizing a b with
  | nil => exact ⟨b.buffer, hb⟩
  | cons c more ih =>
    obtain ⟨hc, hmore⟩ := List.forall_mem_cons.1 hkeeps
    obtain ⟨buffer, hmem, -, -⟩ := h.mem_apply hb hc
    exact ih (b := ⟨b.base, buffer⟩) (closed_valid.apply c a h) hmem hmore

/-! ## A released buffer -/

/-- Nothing is left at the address of a buffer that is released. -/
theorem Valid.byteAt?_apply_of_releases (h : a.Valid) (hb : b ∈ a.blocks)
    (hreleases : c.Releases b.base) : (c.apply a).byteAt? b.start = none := by
  cases c with
  | deallocate ptr size =>
    obtain rfl : ptr = b.base := hreleases
    have hsize := (h.bounded b hb).1
    change (a.deallocate b.base size).byteAt? b.start = none
    rw [h.byteAt?_deallocate hb, Memory.erase, if_pos (by omega)]
  | releaseAll => rfl
  | allocate _ | setLimit _ | write _ _ | put _ => exact absurd hreleases id

theorem Valid.byteAt?_allocate_eq_none (h : a.Valid) {size : UInt32}
    (hdead : a.byteAt? address = none) (hcovers : ¬(Change.allocate size).Covers address a) :
    (a.allocate size).2.byteAt? address = none := by
  cases hnew : (a.allocate size).1 with
  | error e => rwa [allocate_of_error hnew]
  | ok ptr =>
    rw [h.byteAt?_allocate hnew, Memory.store, List.length_replicate, if_neg]
    · exact hdead
    · intro hrange
      refine hcovers ⟨(ptr, size), ?_, hrange⟩
      rw [newRange?, hnew]
      rfl

theorem byteAt?_deallocate_eq_none (hdead : a.byteAt? address = none) (ptr size : UInt32) :
    (a.deallocate ptr size).byteAt? address = none := by
  rw [byteAt?_eq_none_iff] at hdead ⊢
  intro b hb
  rw [deallocate] at hb
  split at hb
  · exact hdead b (List.mem_filter.1 hb).1
  · exact hdead b hb

theorem Valid.byteAt?_write_eq_none (h : a.Valid) (hdead : a.byteAt? address = none)
    (ptr : UInt32) (bytes : List UInt8) : (a.write ptr bytes).2.byteAt? address = none := by
  cases h.writing ptr bytes with
  | empty _ heq | refused _ _ heq => rwa [heq]
  | inside b hb hbytes hin heq =>
    rw [heq, h.byteAt?_map_write hb hin, Memory.store, if_neg]
    · exact hdead
    · rintro ⟨hle, hlt⟩
      have hcov := hin.covers hle hlt
      rw [byteAt?_eq_none_iff.1 hdead b hb] at hcov
      contradiction

theorem Valid.byteAt?_put_eq_none (h : a.Valid) (hdead : a.byteAt? address = none)
    (hcovers : ¬(Change.put bytes).Covers address a) :
    (a.put bytes).2.byteAt? address = none := by
  cases h.putting bytes with
  | empty _ heq | tooLong _ heq | refused _ _ _ _ heq => rwa [heq]
  | stored ptr packed a' _ hlen _ _ hpack hperm heq =>
    rw [heq, byteAt?_eq_none_iff]
    intro b hb
    rcases List.mem_cons.1 (hperm.mem_iff.1 hb) with rfl | hb
    · refine Bool.eq_false_iff.2 fun hcov => hcovers ?_
      obtain ⟨hle, hlt⟩ : ptr.toNat ≤ address ∧ address < ptr.toNat + bytes.length :=
        Block.covers_iff.1 hcov
      rw [← toNat_length hlen] at hlt
      refine ⟨(ptr, UInt32.ofNat bytes.length), ?_, hle, hlt⟩
      rw [newRange?, heq]
      change (unpack packed).toOption = _
      rw [unpack_pack hpack]
      rfl
    · exact byteAt?_eq_none_iff.1 hdead b hb

/-- Only a new buffer puts something at an address where there is nothing. -/
theorem Valid.byteAt?_apply_eq_none (h : a.Valid) (hdead : a.byteAt? address = none)
    (hcovers : ¬c.Covers address a) : (c.apply a).byteAt? address = none := by
  cases c with
  | allocate size => exact h.byteAt?_allocate_eq_none hdead hcovers
  | deallocate ptr size => exact byteAt?_deallocate_eq_none hdead ptr size
  | releaseAll => rfl
  | setLimit limit => exact hdead
  | write ptr bytes => exact h.byteAt?_write_eq_none hdead ptr bytes
  | put bytes => exact h.byteAt?_put_eq_none hdead hcovers

theorem Valid.byteAt?_applyAll_eq_none (h : a.Valid) (hdead : a.byteAt? address = none)
    (hnone : NoneCovers address changes a) : (applyAll changes a).byteAt? address = none := by
  induction changes generalizing a with
  | nil => exact hdead
  | cons c more ih =>
    exact ih (closed_valid.apply c a h) (h.byteAt?_apply_eq_none hdead hnone.1) hnone.2

/-! ## Reading -/

/-- The word of a live buffer gives all that is in it. -/
theorem Valid.read_of_mem (h : a.Valid) (hb : b ∈ a.blocks) (hpack : pack b.base len = .ok packed)
    (hlen : len.toNat = b.buffer.size) : a.read packed = .ok (b.buffer.read 0 b.buffer.size) := by
  have hsize := (h.bounded b hb).1
  have hne : len ≠ 0 := by
    rintro rfl
    exact absurd hlen (Nat.ne_of_lt hsize)
  have hin : b.Encloses b.base.toNat b.buffer.size := ⟨Nat.le_refl _, Nat.le_refl _⟩
  rw [read_eq hpack hne, hlen, h.locate_of_encloses hb hsize hin, Block.start, Nat.sub_self]
  rfl

/-- A pointer to nothing is not known. -/
theorem Valid.read_of_dead (h : a.Valid) (hpack : pack ptr len = .ok packed) (hlen : len ≠ 0)
    (hdead : a.byteAt? ptr.toNat = none) : a.read packed = .error (.unknownPointer ptr) := by
  rw [byteAt?_eq_none_iff] at hdead
  rw [read_eq hpack hlen]
  cases h.location ptr len.toNat with
  | inside b hb hcov _ _ | beyond b hb hcov _ _ =>
    rw [hdead b hb] at hcov
    contradiction
  | nowhere _ heq =>
    rw [heq]
    rfl

/-! ## The whole life -/

/-- What becomes of a buffer that was made of bytes. -/
structure Lifetime (a : Arena) (packed : UInt64) (ptr : UInt32) (bytes : List UInt8) : Prop where
  /-- The word is that of its address and its size. -/
  word : ∃ len, unpack packed = .ok (ptr, len) ∧ len.toNat = bytes.length
  /-- The bytes are read from it. -/
  read : a.read packed = .ok bytes
  /-- They are still read from it after operations that neither release it nor write to it. -/
  kept : ∀ panicOnError actions,
    (∀ c ∈ Action.changesAll panicOnError actions a, c.Spares ptr bytes.length) →
    (Action.runAll panicOnError actions a).2.read packed = .ok bytes
  /-- Once operations have released it, the pointer is unknown unless a new buffer was put over its
  address afterwards. -/
  released : bytes ≠ [] → ∀ panicOnError actions before release after,
    Action.changesAll panicOnError actions a = before ++ release :: after →
    (∀ c ∈ before, ¬c.Releases ptr) → release.Releases ptr →
    NoneCovers ptr.toNat after (release.apply (applyAll before a)) →
    (Action.runAll panicOnError actions a).2.read packed = .error (.unknownPointer ptr)

theorem read_zero (a : Arena) : a.read 0 = .ok [] := rfl

/-- Without bytes there is no buffer, and the word reads as no bytes whatever is done. -/
theorem lifetime_nil (a : Arena) : a.Lifetime 0 0 [] where
  word := ⟨0, rfl, rfl⟩
  read := read_zero a
  kept _ _ _ := read_zero _
  released hne := absurd rfl hne

/-- A live buffer with bytes in all of it has a whole life before it. -/
theorem Valid.lifetime (h : a.Valid) (hbytes : bytes ≠ [])
    (hlive : ⟨ptr, (Buffer.zeros bytes.length).write 0 bytes⟩ ∈ a.blocks)
    (hpack : pack ptr len = .ok packed) (hlen : len.toNat = bytes.length) :
    a.Lifetime packed ptr bytes := by
  have hread : ∀ {a : Arena}, a.Valid →
      ⟨ptr, (Buffer.zeros bytes.length).write 0 bytes⟩ ∈ a.blocks → a.read packed = .ok bytes := by
    intro a h hlive
    have hall := h.read_of_mem hlive hpack hlen
    rwa [Buffer.size_write, Buffer.size_zeros, Buffer.read_write_zeros] at hall
  refine ⟨⟨len, unpack_pack hpack, hlen⟩, hread h hlive, ?_, ?_⟩
  · intro panicOnError actions hspares
    rw [Action.runAll_snd]
    exact hread (closed_valid.applyAll _ a h) (h.mem_applyAll_of_spares hlive hspares)
  · intro _ panicOnError actions before release after hhistory hbefore hrelease hnone
    rw [Action.runAll_snd, hhistory, applyAll_append, applyAll_cons]
    have hmiddle := closed_valid.applyAll before a h
    obtain ⟨buffer, hmem⟩ := h.exists_mem_applyAll hlive hbefore
    have hdead := hmiddle.byteAt?_apply_of_releases hmem hrelease
    have hend := closed_valid.apply release _ hmiddle
    refine (closed_valid.applyAll after _ hend).read_of_dead hpack ?_
      (hend.byteAt?_applyAll_eq_none hdead hnone)
    rintro rfl
    exact hbytes (List.length_eq_zero_iff.1 hlen.symm)

/-- **A buffer keeps its bytes until it is released.** In every arena that operations lead to, a
word that is given for bytes reads as these bytes after any operations that neither release the
buffer nor write to it, and as an unknown pointer from the release on until its address is used
again. -/
theorem reachable_lifetime (h : Reachable a) (hput : a.put bytes = (.ok packed, a')) :
    ∃ ptr, a'.Lifetime packed ptr bytes := by
  cases h.valid.putting bytes with
  | empty hbytes heq =>
    obtain ⟨hpacked, rfl⟩ := Prod.mk.inj (hput.symm.trans heq)
    obtain rfl := Except.ok.inj hpacked
    rw [hbytes]
    exact ⟨0, lifetime_nil a'⟩
  | tooLong _ heq | refused _ _ _ _ heq => cases hput.symm.trans heq
  | stored ptr packed' a'' hbytes hlen _ _ hpack hperm heq =>
    have hvalid : a'.Valid := by
      have := closed_valid.put a bytes h.valid
      rwa [hput] at this
    obtain ⟨hpacked, rfl⟩ := Prod.mk.inj (hput.symm.trans heq)
    obtain rfl := Except.ok.inj hpacked
    exact ⟨ptr, hvalid.lifetime hbytes (hperm.mem_iff.2 List.mem_cons_self) hpack
      (toNat_length hlen)⟩

/-- The buffer at 16 outlives one below it and a write that is too long. In a call that panics it is
released, and the buffer that is put next lies below its address. -/
theorem reachable_lifetime_above :
    let a := ((Arena.new 64).allocate 8).2
    let a' := (a.put [1, 2, 3]).2
    let others : List Action := [.deallocate 8 8, .put [9], .write 8 [7], .write 17 [5, 5, 5],
      .recover [.put [4]] ⟨true, none⟩]
    let failing : List Action := [.write 16 [0], .recover [.put [4]] ⟨false, some .other⟩,
      .allocate 8]
    a.put [1, 2, 3] = (.ok 0x1000000003, a') ∧
      (Action.runAll false others a').2.read 0x1000000003 = .ok [1, 2, 3] ∧
      (Action.runAll false failing a').2.read 0x1000000003 = .error (.unknownPointer 16) := by
  intro a a' others failing
  have hreachable : Reachable a := Reachable.closed.allocate _ 8 (Reachable.new 64)
  have hok : (((Arena.new 64).allocate 8).2.put [1, 2, 3]).1 = .ok 0x1000000003 := by rfl
  have hput : a.put [1, 2, 3] = (.ok 0x1000000003, a') := Prod.ext hok rfl
  obtain ⟨ptr, hlife⟩ := reachable_lifetime hreachable hput
  obtain ⟨len, hword, -⟩ := hlife.word
  have hunpack : unpack 0x1000000003 = .ok (16, 3) := by rfl
  obtain ⟨rfl, -⟩ := Prod.mk.inj (Except.ok.inj (hunpack.symm.trans hword))
  refine ⟨hput, hlife.kept false others (by decide +kernel), ?_⟩
  exact hlife.released (by decide) false failing [.write 16 [0], .put [4]] .releaseAll
    [.allocate 8] (by decide +kernel) (by decide +kernel) (by decide +kernel) (by decide +kernel)

end Arena

end PluginSandbox
