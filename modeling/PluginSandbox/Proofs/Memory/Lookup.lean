import PluginSandbox.Proofs.Memory.Invariant

/-!
# The buffer of an address

An address lies in one live buffer at most. The arena looks for it in the last
buffer that does not start behind it: since buffers are apart, no other one can
contain it. So a range is found exactly if one buffer contains all of it.

## Main definitions

* `Block.Encloses`: a buffer contains a whole range.
* `Arena.Location`: how the search for a range is answered.

## Main statements

* `Arena.Valid.blockBelow?_of_covers`: the search ends at the right buffer.
* `Arena.Valid.location`, `Arena.Valid.encloses_of_locate`,
  `Arena.Valid.locate_of_encloses`: the answers, with what each of them says.
* `Arena.Valid.byteAt?_of_covers`, `Arena.byteAt?_eq_none_iff`: the byte at an
  address.
-/

namespace PluginSandbox

/-- The buffer contains a whole range. -/
def Block.Encloses (block : Block) (start len : Nat) : Prop :=
  block.start ≤ start ∧ start + len ≤ block.stop

theorem Block.covers_iff {block : Block} {address : Nat} :
    block.covers address = true ↔ block.start ≤ address ∧ address < block.stop := by
  simp only [covers, Bool.and_eq_true, decide_eq_true_eq]

theorem Block.Encloses.covers {block : Block} {start len address : Nat}
    (h : block.Encloses start len) (hle : start ≤ address) (hlt : address < start + len) :
    block.covers address = true :=
  Block.covers_iff.2 ⟨Nat.le_trans h.1 hle, Nat.lt_of_lt_of_le hlt h.2⟩

namespace Arena

variable {a : Arena} {b c : Block} {ptr : UInt32} {len address : Nat}

theorem base_le_iff : b.base ≤ ptr ↔ b.start ≤ ptr.toNat := UInt32.le_iff_toNat_le

/-! ## The byte at an address -/

theorem Valid.eq_of_base (h : a.Valid) (hb : b ∈ a.blocks) (hc : c ∈ a.blocks)
    (hbase : b.base = c.base) : b = c := by
  rcases eq_or_apart h.separated hb hc with heq | hapart
  · exact heq
  · exact absurd hbase (base_ne_of_apart (h.bounded b hb).1 (h.bounded c hc).1 hapart)

/-- The byte at an address is that of the buffer in which the address lies. -/
theorem Valid.byteAt?_of_covers (h : a.Valid) (hb : b ∈ a.blocks)
    (hcov : b.covers address = true) :
    a.byteAt? address = some (b.buffer.byteAt (address - b.start)) := by
  rw [byteAt?]
  cases hfind : a.blocks.find? fun c => c.covers address with
  | none => exact absurd hcov (List.find?_eq_none.1 hfind b hb)
  | some c =>
    have hcov' : c.covers address = true :=
      List.find?_some (p := fun d : Block => d.covers address) hfind
    have hcb : c = b := h.eq_of_covers (List.mem_of_find?_eq_some hfind) hb hcov' hcov
    rw [hcb, Option.map_some]

/-- There is no byte at an address that lies in no buffer. -/
theorem byteAt?_eq_none_iff :
    a.byteAt? address = none ↔ ∀ b ∈ a.blocks, b.covers address = false := by
  rw [byteAt?, Option.map_eq_none_iff, List.find?_eq_none]
  simp only [Bool.not_eq_true]

/-! ## The search for a range -/

/-- Buffers that follow in order one that contains an address start behind it. -/
theorem getLast?_filter_of_covers {blocks : List Block}
    (hsep : blocks.Pairwise fun b c => b.stop ≤ c.start) (hb : b ∈ blocks)
    (hcov : b.covers ptr.toNat = true) :
    (blocks.filter fun c => c.base ≤ ptr).getLast? = some b := by
  obtain ⟨hstart, hstop⟩ := Block.covers_iff.1 hcov
  induction blocks with
  | nil => contradiction
  | cons c cs ih =>
    obtain ⟨hc, hcs⟩ := List.pairwise_cons.1 hsep
    -- The buffer is the first one, and none of the others is kept, or it is among the others, and
    -- the first one, which ends before it, does not become the last.
    rcases List.mem_cons.1 hb with rfl | hb
    · have hbehind : cs.filter (fun c => c.base ≤ ptr) = [] := by
        refine List.filter_eq_nil_iff.2 fun d hd => ?_
        have hbd : b.stop ≤ d.start := hc d hd
        rw [decide_eq_true_eq, base_le_iff]
        omega
      have hbelow : b.base ≤ ptr := base_le_iff.2 hstart
      rw [List.filter_cons, if_pos (decide_eq_true hbelow), hbehind, List.getLast?_singleton]
    · have hcb : c.stop ≤ b.start := hc b hb
      have hcc : c.start ≤ c.stop := Nat.le_add_right _ _
      have hbefore : c.base ≤ ptr := base_le_iff.2 (by omega)
      rw [List.filter_cons, if_pos (decide_eq_true hbefore), List.getLast?_cons, ih hcs hb,
        Option.getD_some]

/-- The search for the buffer of a pointer ends at the buffer in which the pointer lies. -/
theorem Valid.blockBelow?_of_covers (h : a.Valid) (hb : b ∈ a.blocks)
    (hcov : b.covers ptr.toNat = true) : a.blockBelow? ptr = some b :=
  getLast?_filter_of_covers h.separated hb hcov

theorem mem_of_blockBelow? (h : a.blockBelow? ptr = some b) :
    b ∈ a.blocks ∧ b.start ≤ ptr.toNat := by
  obtain ⟨hmem, hle⟩ := List.mem_filter.1 (List.mem_of_getLast? h)
  exact ⟨hmem, base_le_iff.1 (of_decide_eq_true hle)⟩

/-- How the search for a range is answered. -/
inductive Location (a : Arena) (ptr : UInt32) (len : Nat) : Prop
  /-- The pointer lies in a buffer, and so does the range. -/
  | inside (b : Block) (hb : b ∈ a.blocks) (hcov : b.covers ptr.toNat = true)
      (hstop : ptr.toNat + len ≤ b.stop)
      (heq : a.locate ptr len = .ok (b, ptr.toNat - b.start))
  /-- The pointer lies in a buffer that ends before the range does. -/
  | beyond (b : Block) (hb : b ∈ a.blocks) (hcov : b.covers ptr.toNat = true)
      (hstop : b.stop < ptr.toNat + len)
      (heq : a.locate ptr len = .error (.outOfBounds ptr len (b.stop - ptr.toNat)))
  /-- The pointer lies in no buffer. -/
  | nowhere (hnone : ∀ b ∈ a.blocks, b.covers ptr.toNat = false)
      (heq : a.locate ptr len = .error (.unknownPointer ptr))

theorem Valid.location (h : a.Valid) (ptr : UInt32) (len : Nat) : a.Location ptr len := by
  by_cases hcovered : ∃ b ∈ a.blocks, b.covers ptr.toNat = true
  · obtain ⟨b, hb, hcov⟩ := hcovered
    obtain ⟨hstart, hbelow⟩ := Block.covers_iff.1 hcov
    have hoffset : ¬b.buffer.size ≤ ptr.toNat - b.start := by
      rw [Block.stop] at hbelow
      omega
    have havailable : b.buffer.size - (ptr.toNat - b.start) = b.stop - ptr.toNat := by
      rw [Block.stop]
      omega
    by_cases hlen : b.stop - ptr.toNat < len
    · refine .beyond b hb hcov (by omega) ?_
      simp only [locate, h.blockBelow?_of_covers hb hcov, if_neg hoffset, havailable, if_pos hlen]
    · refine .inside b hb hcov (by omega) ?_
      simp only [locate, h.blockBelow?_of_covers hb hcov, if_neg hoffset, havailable, if_neg hlen]
  · have hnone : ∀ b ∈ a.blocks, b.covers ptr.toNat = false := by
      intro b hb
      exact Bool.eq_false_iff.2 fun hcov => hcovered ⟨b, hb, hcov⟩
    refine .nowhere hnone ?_
    cases hbelow : a.blockBelow? ptr with
    | none => simp only [locate, hbelow]
    | some b =>
      obtain ⟨hb, hstart⟩ := mem_of_blockBelow? hbelow
      have hstop : ¬ptr.toNat < b.stop := by
        intro hlt
        have hcov := Block.covers_iff.2 ⟨hstart, hlt⟩
        rw [hnone b hb] at hcov
        contradiction
      have hoffset : b.buffer.size ≤ ptr.toNat - b.start := by
        rw [Block.stop] at hstop
        omega
      simp only [locate, hbelow, if_pos hoffset]

/-- A range that is found lies in the buffer that it is found in. -/
theorem Valid.encloses_of_locate (h : a.Valid) {offset : Nat}
    (hlocate : a.locate ptr len = .ok (b, offset)) :
    b ∈ a.blocks ∧ b.Encloses ptr.toNat len ∧ offset = ptr.toNat - b.start := by
  cases h.location ptr len with
  | inside c hc hcov hstop heq =>
    obtain ⟨rfl, rfl⟩ := Prod.mk.inj (Except.ok.inj (hlocate.symm.trans heq))
    exact ⟨hc, ⟨(Block.covers_iff.1 hcov).1, hstop⟩, rfl⟩
  | beyond c hc hcov hstop heq => cases hlocate.symm.trans heq
  | nowhere hnone heq => cases hlocate.symm.trans heq

/-- A range in a live buffer is found there. -/
theorem Valid.locate_of_encloses (h : a.Valid) (hb : b ∈ a.blocks) (hlen : 0 < len)
    (hin : b.Encloses ptr.toNat len) : a.locate ptr len = .ok (b, ptr.toNat - b.start) := by
  have hcov : b.covers ptr.toNat = true := hin.covers (Nat.le_refl _) (by omega)
  cases h.location ptr len with
  | inside c hc hcov' hstop heq => rw [heq, h.eq_of_covers hc hb hcov' hcov]
  | beyond c hc hcov' hstop heq =>
    rw [h.eq_of_covers hc hb hcov' hcov] at hstop
    exact absurd hin.2 (by omega)
  | nowhere hnone heq =>
    rw [hnone b hb] at hcov
    contradiction

end Arena

end PluginSandbox
