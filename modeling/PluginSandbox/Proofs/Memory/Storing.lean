import PluginSandbox.Proofs.Memory.Flat

/-!
# Operations that fail

An operation on the arena that fails has done nothing. This is plain where an
operation looks before it changes anything. A buffer made of bytes, however, takes
three steps, each of which may fail on its own: the new buffer, the copy and the
packing. In an arena that operations lead to the last two do not fail once the
first is done, since the range of the copy is that of the new buffer, and the
address of a buffer is not zero. So no buffer is left behind.

## Main definitions

* `Arena.Writing`, `Arena.Putting`: how a write ends, and how the request for a
  buffer made of bytes does.
* `Arena.AllOrNothing`: an operation that fails has done nothing, and a buffer made
  of bytes is refused for want of a new buffer only.

## Main statements

* `Arena.Valid.writing`, `Arena.Valid.putting`: the endings, with what each of them
  says.
* `Arena.reachable_allOrNothing`: operations are all or nothing in every arena that
  operations lead to.
-/

namespace PluginSandbox

open Text

/-- Only an error is a failure. -/
theorem Reply.eq_error_of_failed {α : Type} {make : α → Reply}
    (hmake : ∀ x e, make x ≠ .failed e) {result : Except BoundaryError α} {e : BoundaryError}
    (h : Reply.ofExcept make result = .failed e) : result = .error e := by
  cases result with
  | ok x => exact absurd h (hmake x e)
  | error e' =>
    obtain rfl := Reply.failed.inj h
    rfl

/-- The failure of a recovered call is not a failure of the recovery. -/
theorem Action.recovered_ne_failed {e : BoundaryError} (run : Action.Run) (a : Arena) :
    (Action.recovered run a).1 ≠ .returned (.failed e) := by
  rw [recovered, PluginSandbox.recover]
  cases run.2 <;> simp

namespace Arena

variable {a a' : Arena} {ptr size : UInt32} {bytes : List UInt8} {e : BoundaryError}

/-! ## Writing -/

/-- How a write ends. -/
inductive Writing (a : Arena) (ptr : UInt32) (bytes : List UInt8) : Prop where
  /-- There is nothing to write. -/
  | empty (hbytes : bytes = []) (heq : a.write ptr bytes = (.ok (), a))
  /-- The bytes are written in the buffer that contains the range. -/
  | inside (b : Block) (hb : b ∈ a.blocks) (hbytes : bytes ≠ [])
      (hin : b.Encloses ptr.toNat bytes.length)
      (heq : a.write ptr bytes = (.ok (), { a with
        blocks := a.blocks.map fun c =>
          if c.base = b.base then ⟨c.base, c.buffer.write (ptr.toNat - b.start) bytes⟩ else c }))
  /-- No buffer contains the range. -/
  | refused (e : BoundaryError) (hbytes : bytes ≠ []) (heq : a.write ptr bytes = (.error e, a))

theorem Valid.writing (h : a.Valid) (ptr : UInt32) (bytes : List UInt8) :
    a.Writing ptr bytes := by
  by_cases hbytes : bytes = []
  · exact .empty hbytes (by rw [Arena.write, if_pos hbytes])
  cases hlocate : a.locate ptr bytes.length with
  | error e => exact .refused e hbytes (by simp only [Arena.write, if_neg hbytes, hlocate])
  | ok found =>
    obtain ⟨b, offset⟩ := found
    obtain ⟨hb, hin, rfl⟩ := h.encloses_of_locate hlocate
    exact .inside b hb hbytes hin (by simp only [Arena.write, if_neg hbytes, hlocate])

/-! ## A buffer made of bytes -/

/-- As many bytes as 32 bits count are counted. -/
theorem toNat_length (hlen : bytes.length ≤ maxNat32) :
    (UInt32.ofNat bytes.length).toNat = bytes.length := by
  rw [maxNat32] at hlen
  exact UInt32.toNat_ofNat_of_lt' (by change _ < 4294967296; omega)

theorem length_ne_zero (hbytes : bytes ≠ []) (hlen : bytes.length ≤ maxNat32) :
    UInt32.ofNat bytes.length ≠ 0 := by
  intro hzero
  have hlength := toNat_length hlen
  rw [hzero] at hlength
  exact hbytes (List.length_eq_zero_iff.1 hlength.symm)

/-- Once there is a new buffer for bytes, it has an address other than zero, and they are copied
to it. -/
theorem Valid.copied (h : a.Valid) (hbytes : bytes ≠ []) (hlen : bytes.length ≤ maxNat32)
    (hnew : a.allocate (UInt32.ofNat bytes.length) = (.ok ptr, a')) :
    ptr ≠ 0 ∧ (a'.write ptr bytes).1 = .ok () ∧
      (a'.write ptr bytes).2.blocks.Perm
        (⟨ptr, (Buffer.zeros bytes.length).write 0 bytes⟩ :: a.blocks) := by
  have hvalid : a'.Valid := by
    have := h.allocate (UInt32.ofNat bytes.length)
    rwa [hnew] at this
  have hperm : a'.blocks.Perm (⟨ptr, .zeros bytes.length⟩ :: a.blocks) := by
    have := h.perm_of_allocate (congrArg Prod.fst hnew) (length_ne_zero hbytes hlen)
    rwa [hnew, toNat_length hlen] at this
  have hlive : ⟨ptr, .zeros bytes.length⟩ ∈ a'.blocks := hperm.mem_iff.2 List.mem_cons_self
  have hlocate : a'.locate ptr bytes.length =
      .ok (⟨ptr, .zeros bytes.length⟩, ptr.toNat - ptr.toNat) :=
    hvalid.locate_of_encloses hlive (List.length_pos_iff.2 hbytes)
      ⟨Nat.le_refl _, Nat.le_refl _⟩
  rw [Nat.sub_self] at hlocate
  have hothers : ∀ b ∈ a.blocks, ptr ≠ b.base :=
    (List.pairwise_cons.1 ((hperm.pairwise_iff fun hne => Ne.symm hne).1 hvalid.bases)).1
  refine ⟨?_, ?_, ?_⟩
  · rintro rfl
    exact absurd (hvalid.aligned _ hlive).1 (Nat.lt_irrefl 0)
  · simp only [Arena.write, if_neg hbytes, hlocate]
  · simp only [Arena.write, if_neg hbytes, hlocate]
    have hkept : a.blocks.map (fun c =>
        if c.base = ptr then ⟨c.base, c.buffer.write 0 bytes⟩ else c) = a.blocks := by
      refine Eq.trans (List.map_congr_left (g := id) fun c hc => ?_) (List.map_id a.blocks)
      rw [if_neg (hothers c hc).symm, id]
    refine (hperm.map _).trans ?_
    rw [List.map_cons, hkept, if_pos rfl]

/-- How the request for a buffer made of bytes is answered. -/
inductive Putting (a : Arena) (bytes : List UInt8) : Prop where
  /-- Without bytes there is no buffer, and the word is zero. -/
  | empty (hbytes : bytes = []) (heq : a.put bytes = (.ok 0, a))
  /-- There are more bytes than 32 bits count. -/
  | tooLong (hlong : maxNat32 < bytes.length)
      (heq : a.put bytes = (.error (.overBudget bytes.length a.total a.limit.toNat), a))
  /-- There is no new buffer. -/
  | refused (e : BoundaryError) (hbytes : bytes ≠ []) (hlen : bytes.length ≤ maxNat32)
      (hnew : a.allocate (UInt32.ofNat bytes.length) = (.error e, a))
      (heq : a.put bytes = (.error e, a))
  /-- There is a new buffer, and it holds the bytes. -/
  | stored (ptr : UInt32) (packed : UInt64) (a' : Arena) (hbytes : bytes ≠ [])
      (hlen : bytes.length ≤ maxNat32)
      (hnew : a.allocate (UInt32.ofNat bytes.length) = (.ok ptr, a'))
      (hcopy : (a'.write ptr bytes).1 = .ok ())
      (hpack : pack ptr (UInt32.ofNat bytes.length) = .ok packed)
      (hperm : (a'.write ptr bytes).2.blocks.Perm
        (⟨ptr, (Buffer.zeros bytes.length).write 0 bytes⟩ :: a.blocks))
      (heq : a.put bytes = (.ok packed, (a'.write ptr bytes).2))

theorem Valid.putting (h : a.Valid) (bytes : List UInt8) : a.Putting bytes := by
  by_cases hbytes : bytes = []
  · exact .empty hbytes (by rw [Arena.put, if_pos hbytes])
  by_cases hlong : maxNat32 < bytes.length
  · exact .tooLong hlong (by rw [Arena.put, if_neg hbytes, if_pos hlong])
  have hlen : bytes.length ≤ maxNat32 := Nat.not_lt.1 hlong
  cases hnew : a.allocate (UInt32.ofNat bytes.length) with
  | mk result a' =>
    cases result with
    | error e =>
      obtain rfl : a' = a := by
        have := allocate_of_error (congrArg Prod.fst hnew)
        rwa [hnew] at this
      refine .refused e hbytes hlen hnew ?_
      simp only [Arena.put, if_neg hbytes, if_neg hlong, hnew]
    | ok ptr =>
      obtain ⟨hptr, hcopy, hperm⟩ := h.copied hbytes hlen hnew
      refine .stored ptr _ a' hbytes hlen hnew hcopy (pack_of_ne_zero hptr) hperm ?_
      simp only [Arena.put, if_neg hbytes, if_neg hlong, hnew]
      cases hdone : a'.write ptr bytes with
      | mk result a'' =>
        rw [hdone] at hcopy
        obtain rfl : result = .ok () := hcopy
        simp only [pack_of_ne_zero hptr]

/-- If a word is given out for bytes, it is that of a new buffer, which holds them. -/
theorem Valid.stored_of_put (h : a.Valid) (hbytes : bytes ≠ []) {packed : UInt64}
    (hok : (a.put bytes).1 = .ok packed) :
    bytes.length ≤ maxNat32 ∧ ∃ ptr a',
      a.allocate (UInt32.ofNat bytes.length) = (.ok ptr, a') ∧
        pack ptr (UInt32.ofNat bytes.length) = .ok packed ∧
        (a.put bytes).2 = (a'.write ptr bytes).2 := by
  cases h.putting bytes with
  | empty hnil _ => contradiction
  | tooLong _ heq | refused _ _ _ _ heq =>
    rw [heq] at hok
    contradiction
  | stored ptr packed' a' _ hlen hnew _ hpack _ heq =>
    rw [heq] at hok ⊢
    obtain rfl := Except.ok.inj hok
    exact ⟨hlen, ptr, a', hnew, hpack, rfl⟩

/-! ## All or nothing -/

/-- Operations do all of what they are for, or nothing. -/
structure AllOrNothing (a : Arena) : Prop where
  /-- An operation that fails leaves the arena as it was. -/
  failed : ∀ (action : Action) e, (action.run a).1 = .returned (.failed e) → (action.run a).2 = a
  /-- So does a value that has no text, or for whose text there is no buffer. -/
  writeText_failed : ∀ text e, (a.writeText text).1 = .error e → (a.writeText text).2 = a
  /-- A new buffer is refused because of the budget or for want of addresses. -/
  allocate_error : ∀ size e, (a.allocate size).1 = .error e →
    e = .overBudget size.toNat a.total a.limit.toNat ∨ e = .noAddresses size.toNat
  /-- Once there is a new buffer for bytes, they are copied to it, and its word is the result. -/
  put_ok : ∀ bytes ptr a', bytes ≠ [] → bytes.length ≤ maxNat32 →
    a.allocate (UInt32.ofNat bytes.length) = (.ok ptr, a') →
    (a'.write ptr bytes).1 = .ok () ∧
      ∃ packed, pack ptr (UInt32.ofNat bytes.length) = .ok packed ∧
        a.put bytes = (.ok packed, (a'.write ptr bytes).2)
  /-- A buffer made of bytes is refused for the reasons for which a new buffer is, and only if
  there are more bytes than a buffer can have, or if the new buffer is refused. -/
  put_error : ∀ bytes e, (a.put bytes).1 = .error e →
    (e = .overBudget bytes.length a.total a.limit.toNat ∨ e = .noAddresses bytes.length) ∧
      (maxNat32 < bytes.length ∨ a.allocate (UInt32.ofNat bytes.length) = (.error e, a))
  /-- For a value it is refused if there is no text, or if a buffer made of the text is. -/
  writeText_error : ∀ text e, (a.writeText text).1 = .error e →
    (∃ reason, text = .error reason ∧ e = .badPayload reason) ∨
      ∃ bytes, text = .ok bytes ∧ (a.put bytes).1 = .error e

/-- An error of a request for a buffer is about the budget or about addresses. -/
theorem allocate_error (he : (a.allocate size).1 = .error e) :
    e = .overBudget size.toNat a.total a.limit.toNat ∨ e = .noAddresses size.toNat := by
  cases allocation a size with
  | empty _ heq | placed _ _ _ _ heq =>
    rw [heq] at he
    contradiction
  | overBudget _ _ heq =>
    rw [heq] at he
    exact Or.inl (Except.error.inj he).symm
  | noPlace _ _ _ heq =>
    rw [heq] at he
    exact Or.inr (Except.error.inj he).symm

/-- A buffer made of bytes is refused before there is a new buffer, or with it. -/
theorem Valid.put_error (h : a.Valid) (he : (a.put bytes).1 = .error e) :
    (e = .overBudget bytes.length a.total a.limit.toNat ∨ e = .noAddresses bytes.length) ∧
      (maxNat32 < bytes.length ∨ a.allocate (UInt32.ofNat bytes.length) = (.error e, a)) := by
  cases h.putting bytes with
  | empty _ heq | stored _ _ _ _ _ _ _ _ _ heq =>
    rw [heq] at he
    contradiction
  | tooLong hlong heq =>
    rw [heq] at he
    exact ⟨Or.inl (Except.error.inj he).symm, Or.inl hlong⟩
  | refused e' _ hlen hnew heq =>
    rw [heq] at he
    obtain rfl := Except.error.inj he
    have hkind := allocate_error (congrArg Prod.fst hnew)
    rw [toNat_length hlen] at hkind
    exact ⟨hkind, Or.inr hnew⟩

/-- A request for a buffer made of bytes that fails changes nothing. -/
theorem Valid.put_of_error (h : a.Valid) (he : (a.put bytes).1 = .error e) :
    (a.put bytes).2 = a := by
  cases h.putting bytes with
  | empty _ heq | tooLong _ heq | refused _ _ _ _ heq => rw [heq]
  | stored _ _ _ _ _ _ _ _ _ heq =>
    rw [heq] at he
    contradiction

theorem Valid.writeText_of_error (h : a.Valid) {text : Except String (List UInt8)}
    (he : (a.writeText text).1 = .error e) : (a.writeText text).2 = a := by
  cases text with
  | ok bytes => exact h.put_of_error he
  | error reason => rfl

theorem deallocatePacked_of_error {packed : UInt64} (he : (a.deallocatePacked packed).1 = .error e) :
    (a.deallocatePacked packed).2 = a := by
  rw [deallocatePacked] at he ⊢
  cases hword : unpack packed with
  | error e => rfl
  | ok range =>
    rw [hword] at he
    contradiction

/-- An operation that fails changes nothing. -/
theorem Valid.run_of_failed (h : a.Valid) {action : Action}
    (he : (action.run a).1 = .returned (.failed e)) : (action.run a).2 = a := by
  cases action with
  | allocate size =>
    rw [Action.run] at he ⊢
    exact allocate_of_error (Reply.eq_error_of_failed (by simp) (Outcome.returned.inj he))
  | write ptr bytes =>
    rw [Action.run] at he ⊢
    exact write_of_error (Reply.eq_error_of_failed (by simp) (Outcome.returned.inj he))
  | put bytes =>
    rw [Action.run] at he ⊢
    exact h.put_of_error (Reply.eq_error_of_failed (by simp) (Outcome.returned.inj he))
  | deallocatePacked packed =>
    rw [Action.run] at he ⊢
    exact deallocatePacked_of_error (Reply.eq_error_of_failed (by simp) (Outcome.returned.inj he))
  | writeJson payload =>
    cases payload with
    | none => rw [Action.run]
    | some payload =>
      rw [Action.run] at he ⊢
      exact h.writeText_of_error (Reply.eq_error_of_failed (by simp) (Outcome.returned.inj he))
  | read packed | readAt ptr len | readJson shape packed | describe => rw [Action.run]
  | allocateOrAbort size =>
    rw [Action.run] at he
    cases hnew : a.allocate size with
    | mk result a' =>
      rw [hnew] at he
      cases result <;> simp at he
  | deallocate ptr size | releaseAll | setLimit limit =>
    rw [Action.run] at he
    simp at he
  | recover body ending =>
    rw [Action.run] at he
    exact absurd he (Action.recovered_ne_failed _ _)

theorem Valid.allOrNothing (h : a.Valid) : a.AllOrNothing where
  failed _ _ he := h.run_of_failed he
  writeText_failed _ _ he := h.writeText_of_error he
  allocate_error _ _ he := allocate_error he
  put_ok bytes ptr a' hbytes hlen hnew := by
    cases h.putting bytes with
    | empty hnil _ => contradiction
    | tooLong hlong _ => exact absurd hlen (Nat.not_le.2 hlong)
    | refused e _ _ hnew' _ => simp [hnew] at hnew'
    | stored ptr' packed a'' _ _ hnew' hcopy hpack _ heq =>
      obtain ⟨hptr, rfl⟩ := Prod.mk.inj (hnew.symm.trans hnew')
      obtain rfl := Except.ok.inj hptr
      exact ⟨hcopy, packed, hpack, heq⟩
  put_error _ _ he := h.put_error he
  writeText_error text e he := by
    cases text with
    | ok bytes => exact Or.inr ⟨bytes, rfl, he⟩
    | error reason => exact Or.inl ⟨reason, rfl, (Except.error.inj he).symm⟩

/-- **Operations are all or nothing.** In every arena that operations lead to, an operation that
fails leaves all buffers, their contents, the total and the budget as they were, and once there is
a new buffer for bytes, neither the copy nor the packing fails. -/
theorem reachable_allOrNothing (h : Reachable a) : a.AllOrNothing := h.valid.allOrNothing

/-- With three of four bytes in use, two more are refused and one is not, and what does not fit into
the live buffer is not written. -/
theorem reachable_allOrNothing_full :
    let actions : List Action := [.put [1, 2, 3], .setLimit 4]
    let a := (Action.runAll false actions (Arena.new 64)).2
    a.put [4, 5] = (.error (.overBudget 2 3 4), a) ∧
      (a.put [4]).1.toOption = some 0x1000000001 ∧ (a.put [4]).2.total = 4 ∧
      a.write 9 [6, 7, 8] = (.error (.outOfBounds 9 3 2), a) ∧
      a.writeText (.error "no text") = (.error (.badPayload "no text"), a) ∧ a.AllOrNothing := by
  intro actions a
  have hreachable : Reachable a := (Reachable.new 64).runAll false actions
  exact ⟨by rfl, by decide +kernel, by decide +kernel, by rfl, by rfl,
    reachable_allOrNothing hreachable⟩

end Arena

end PluginSandbox
