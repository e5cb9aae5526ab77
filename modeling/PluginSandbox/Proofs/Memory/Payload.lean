import PluginSandbox.Proofs.Codec.RoundTrip
import PluginSandbox.Proofs.Memory.Lifetime

/-!
# Payloads in the arena

A payload that is written to the arena is read back as itself. Its text is laid into a new
buffer, which the word that comes out of it finds again, and what lay in other buffers is
found there as before.

## Main definitions

* `Arena.Keeps`: what was live is live, with the same bytes.

## Main statements

* `Arena.Valid.read_of_put`: the word of a new buffer gives the bytes put into it.
* `Arena.Valid.keeps_put`: a new buffer changes nothing of the others.
* `Arena.reachable_payload`: payloads go through the arena unchanged.
-/

namespace PluginSandbox.Arena

variable {a a' : Arena} {payload : Payload} {packed : UInt64} {bytes : List UInt8}

/-- The word that is given for bytes gives them. -/
theorem Valid.read_of_put (h : a.Valid) (hput : a.put bytes = (.ok packed, a')) :
    a'.read packed = .ok bytes := by
  cases h.putting bytes with
  | empty hbytes heq =>
    obtain ⟨hpacked, rfl⟩ := Prod.mk.inj (hput.symm.trans heq)
    obtain rfl := Except.ok.inj hpacked
    rw [hbytes, read_zero]
  | tooLong _ heq | refused _ _ _ _ heq => cases hput.symm.trans heq
  | stored ptr packed' a'' hbytes hlen _ _ hpack hperm heq =>
    have hvalid := closed_valid.put a bytes h
    rw [hput] at hvalid
    obtain ⟨hpacked, rfl⟩ := Prod.mk.inj (hput.symm.trans heq)
    obtain rfl := Except.ok.inj hpacked
    exact (hvalid.lifetime hbytes (hperm.mem_iff.2 List.mem_cons_self) hpack
      (toNat_length hlen)).read

/-! ## What was live before -/

/-- Every buffer that was live is live, and what was read is read. -/
structure Keeps (a a' : Arena) : Prop where
  /-- The buffers are where they were, with the same contents. -/
  blocks : ∀ b ∈ a.blocks, b ∈ a'.blocks
  /-- The bytes at the addresses in them are the same. -/
  byteAt? : ∀ address byte, a.byteAt? address = some byte → a'.byteAt? address = some byte
  /-- A word that gave bytes gives the same. -/
  read : ∀ packed bytes, a.read packed = .ok bytes → a'.read packed = .ok bytes

theorem Valid.byteAt?_of_subset (h : a.Valid) (h' : a'.Valid)
    (hblocks : ∀ b ∈ a.blocks, b ∈ a'.blocks) {address : Nat} {byte : UInt8}
    (hbyte : a.byteAt? address = some byte) : a'.byteAt? address = some byte := by
  by_cases hcovered : ∃ b ∈ a.blocks, b.covers address = true
  · obtain ⟨b, hb, hcov⟩ := hcovered
    rw [h.byteAt?_of_covers hb hcov] at hbyte
    rw [h'.byteAt?_of_covers (hblocks b hb) hcov, hbyte]
  · have hnone : a.byteAt? address = none := byteAt?_eq_none_iff.2 fun b hb =>
      Bool.eq_false_iff.2 fun hcov => hcovered ⟨b, hb, hcov⟩
    rw [hnone] at hbyte
    contradiction

theorem Valid.read_of_subset (h : a.Valid) (h' : a'.Valid)
    (hblocks : ∀ b ∈ a.blocks, b ∈ a'.blocks) (hread : a.read packed = .ok bytes) :
    a'.read packed = .ok bytes := by
  rw [Arena.read] at hread ⊢
  cases hword : unpack packed with
  | error e =>
    rw [hword] at hread
    contradiction
  | ok range =>
    obtain ⟨ptr, len⟩ := range
    simp only [hword] at hread ⊢
    split at hread
    case isTrue hzero => rwa [if_pos hzero]
    case isFalse hzero =>
      rw [if_neg hzero]
      cases hlocate : a.locate ptr len.toNat with
      | error e =>
        rw [hlocate] at hread
        contradiction
      | ok found =>
        obtain ⟨b, offset⟩ := found
        obtain ⟨hb, hin, rfl⟩ := h.encloses_of_locate hlocate
        rw [hlocate] at hread
        rw [h'.locate_of_encloses (hblocks b hb) (toNat_pos hzero) hin]
        exact hread

/-- Where all live buffers stay, all that was read is read. -/
theorem Valid.keeps_of_subset (h : a.Valid) (h' : a'.Valid)
    (hblocks : ∀ b ∈ a.blocks, b ∈ a'.blocks) : a.Keeps a' where
  blocks := hblocks
  byteAt? _ _ hbyte := h.byteAt?_of_subset h' hblocks hbyte
  read _ _ hread := h.read_of_subset h' hblocks hread

/-- A new buffer made of bytes changes nothing of the others. -/
theorem Valid.keeps_put (h : a.Valid) (bytes : List UInt8) : a.Keeps (a.put bytes).2 :=
  h.keeps_of_subset (closed_valid.put a bytes h) fun _ hb => h.mem_put hb bytes

/-! ## Payloads -/

/-- **Payloads go through the arena unchanged.** In every arena that operations lead to, the word
that is given for grants, a request, a fault or settings of the guard is read, as the same type, as
an equal value, and every buffer that was live before is live and unchanged. -/
theorem reachable_payload (h : Reachable a) (hshape : payload.shape.keepsOrder = true)
    (hwrite : (a.writePayload payload).1 = .ok packed) :
    let a' := (a.writePayload payload).2
    a'.readPayload payload.shape packed = .ok payload ∧ a.Keeps a' := by
  intro a'
  have hput : a.put payload.bytes = (.ok packed, a') := Prod.ext hwrite rfl
  refine ⟨?_, h.valid.keeps_put payload.bytes⟩
  simp only [readPayload, h.valid.read_of_put hput, Payload.parseBytes_bytes hshape]

/-- A category without rules is told apart from one that is absent, and characters that have to be
escaped come back, next to a buffer that was live before. -/
theorem reachable_payload_escaped :
    let payload : Payload := .grants {
      network := some [], environment := some ["A\"\n\x01é"], keys := some [⟨["k*"], .readWrite⟩] }
    let a := ((Arena.new 256).put [1, 2, 3]).2
    let a' := (a.writePayload payload).2
    (a.writePayload payload).1 = .ok 0x1000000087 ∧
      a'.readPayload .grants 0x1000000087 = .ok payload ∧
      a'.read 0x800000003 = .ok [1, 2, 3] := by
  intro payload a a'
  have hreachable : Reachable a := Reachable.closed.put _ [1, 2, 3] (.new 256)
  have hwrite : (a.writePayload payload).1 = .ok 0x1000000087 := by decide +kernel
  obtain ⟨hread, hkeeps⟩ := reachable_payload hreachable rfl hwrite
  exact ⟨hwrite, hread, hkeeps.read _ _ (by rfl)⟩

end PluginSandbox.Arena
