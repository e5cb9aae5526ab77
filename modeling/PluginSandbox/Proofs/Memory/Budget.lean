import Mathlib.Data.List.Induction
import PluginSandbox.Proofs.Memory.Storing

/-!
# The budget

A new buffer is refused for the sake of the budget exactly if the live buffers and
the new one together were larger than the budget. The budget may be changed at any
time, also to less than what is in use; that is the only way in which more can be in
use than the budget allows. While it is so, nothing makes the total larger. All of
it follows from what one change does: it leaves the total no larger, or it keeps to
the budget.

## Main definitions

* `Arena.Overdrawn`: more is in use than the budget allows.
* `Change.lastLimit`: the budget in force after changes.
* `Change.Throughout`: what holds before each change of a history.
* `Arena.Budgeting`, `Arena.BudgetKept`: what holds of the budget in an arena, and at
  a moment of a history.

## Main statements

* `Arena.limit_applyAll`: the budget after a history.
* `Arena.Valid.total_apply`: one change.
* `Arena.Valid.total_applyAll_le`, `Arena.exists_lowering`: histories.
* `Arena.runAll_budgetKept`: the budget at every moment of every run.
-/

namespace PluginSandbox

open Text

namespace Change

/-- The budget that a change sets, if it sets one. -/
def newLimit? : Change → Option UInt64
  | setLimit limit => some limit
  | allocate _ | deallocate _ _ | releaseAll | write _ _ | put _ => none

/-- The budget in force after changes, given the one before them. -/
def lastLimit (limit : UInt64) : List Change → UInt64
  | [] => limit
  | c :: more => lastLimit (c.newLimit?.getD limit) more

/-- Before each change of a history the property holds. -/
def Throughout (P : Arena → Prop) : List Change → Arena → Prop
  | [], _ => True
  | c :: more, a => P a ∧ Throughout P more (c.apply a)

theorem throughout_append_singleton {P : Arena → Prop} {changes : List Change} {c : Change}
    {a : Arena} :
    Throughout P (changes ++ [c]) a ↔ Throughout P changes a ∧ P (applyAll changes a) := by
  induction changes generalizing a with
  | nil => simp [Throughout]
  | cons d more ih =>
    rw [List.cons_append, Throughout, Throughout, ih, applyAll_cons, and_assoc]

end Change

namespace Arena

open Change

variable {a : Arena} {c : Change} {changes : List Change} {ptr size : UInt32} {bytes : List UInt8}
  {packed : UInt64}

/-- The live buffers together are larger than the budget. -/
def Overdrawn (a : Arena) : Prop := a.limit.toNat < a.total

instance (a : Arena) : Decidable a.Overdrawn := inferInstanceAs (Decidable (_ < _))

/-! ## The budget in force -/

theorem limit_allocate (a : Arena) (size : UInt32) : (a.allocate size).2.limit = a.limit := by
  cases allocation a size with
  | empty _ heq | overBudget _ _ heq | noPlace _ _ _ heq | placed _ _ _ _ heq => rw [heq]

theorem limit_write (a : Arena) (ptr : UInt32) (bytes : List UInt8) :
    (a.write ptr bytes).2.limit = a.limit := by
  rw [write]
  split
  · rfl
  · cases a.locate ptr bytes.length <;> rfl

/-- A buffer made of bytes is a new buffer, written to if there is one; or there is none. -/
theorem put_snd (a : Arena) (bytes : List UInt8) :
    (a.put bytes).2 = a ∨ (a.put bytes).2 = (a.allocate (UInt32.ofNat bytes.length)).2 ∨
      ∃ ptr, (a.put bytes).2 = ((a.allocate (UInt32.ofNat bytes.length)).2.write ptr bytes).2 := by
  rw [put]
  split
  · exact Or.inl rfl
  · split
    · exact Or.inl rfl
    · cases hnew : a.allocate (UInt32.ofNat bytes.length) with
      | mk result a' =>
        simp only [hnew]
        cases result with
        | error e => exact Or.inr (Or.inl rfl)
        | ok ptr =>
          refine Or.inr (Or.inr ⟨ptr, ?_⟩)
          simp only
          cases a'.write ptr bytes with
          | mk result a'' => cases result <;> rfl

theorem limit_put (a : Arena) (bytes : List UInt8) : (a.put bytes).2.limit = a.limit := by
  rcases put_snd a bytes with heq | heq | ⟨ptr, heq⟩
  · rw [heq]
  · rw [heq, limit_allocate]
  · rw [heq, limit_write, limit_allocate]

/-- Only a new budget changes the budget. -/
theorem limit_apply (c : Change) (a : Arena) : (c.apply a).limit = c.newLimit?.getD a.limit := by
  cases c with
  | allocate size => exact limit_allocate a size
  | deallocate ptr size =>
    change (a.deallocate ptr size).limit = a.limit
    rw [deallocate]
    split <;> rfl
  | releaseAll | setLimit limit => rfl
  | write ptr bytes => exact limit_write a ptr bytes
  | put bytes => exact limit_put a bytes

/-- The budget after a history is the last one that was set. -/
theorem limit_applyAll (changes : List Change) (a : Arena) :
    (applyAll changes a).limit = lastLimit a.limit changes := by
  induction changes generalizing a with
  | nil => rfl
  | cons c more ih => rw [applyAll_cons, ih, limit_apply, lastLimit]

/-! ## New buffers -/

/-- The total with a new buffer is compared with the budget as it is. -/
theorem Valid.limit_lt_iff (h : a.Valid) (size : UInt32) :
    a.limit.toNat < min (a.total + size.toNat) maxNat64 ↔
      a.limit.toNat < a.total + size.toNat := by
  rw [Nat.min_eq_left (h.exact.added size)]

/-- A new buffer is over the budget exactly if the total with it would be larger. -/
theorem Valid.allocate_eq_overBudget_iff (h : a.Valid) (hsize : size ≠ 0)
    {requested current bound : Nat} :
    (a.allocate size).1 = .error (.overBudget requested current bound) ↔
      a.limit.toNat < a.total + size.toNat ∧ requested = size.toNat ∧ current = a.total ∧
        bound = a.limit.toNat := by
  cases allocation a size with
  | empty hzero _ => contradiction
  | overBudget _ hlimit heq =>
    rw [h.limit_lt_iff] at hlimit
    rw [heq]
    simp [hlimit, eq_comm]
  | noPlace _ hlimit _ heq | placed _ _ hlimit _ heq =>
    rw [h.limit_lt_iff] at hlimit
    rw [heq]
    simp [hlimit]

/-- A new buffer adds its size to the total, which keeps to the budget. -/
theorem Valid.total_allocate (h : a.Valid) (hsize : size ≠ 0)
    (hok : (a.allocate size).1 = .ok ptr) :
    (a.allocate size).2.total = a.total + size.toNat ∧
      a.total + size.toNat ≤ a.limit.toNat := by
  cases allocation a size with
  | empty hzero _ => contradiction
  | overBudget _ _ heq | noPlace _ _ _ heq =>
    rw [heq] at hok
    contradiction
  | placed base _ hlimit _ heq =>
    rw [h.limit_lt_iff, Nat.not_lt] at hlimit
    rw [heq]
    exact ⟨rfl, hlimit⟩

theorem total_write (a : Arena) (ptr : UInt32) (bytes : List UInt8) :
    (a.write ptr bytes).2.total = a.total := by
  rw [write]
  split
  · rfl
  · cases a.locate ptr bytes.length <;> rfl

/-- So does a buffer made of bytes. -/
theorem Valid.total_put (h : a.Valid) (hbytes : bytes ≠ [])
    (hok : (a.put bytes).1 = .ok packed) :
    (a.put bytes).2.total = a.total + bytes.length ∧
      a.total + bytes.length ≤ a.limit.toNat := by
  obtain ⟨hlen, ptr, a', hnew, -, hafter⟩ := h.stored_of_put hbytes hok
  have hsum := h.total_allocate (length_ne_zero hbytes hlen) (congrArg Prod.fst hnew)
  rw [hnew, toNat_length hlen] at hsum
  rw [hafter, total_write]
  exact hsum

/-! ## One change -/

/-- A change leaves the total no larger, or keeps to the budget, which it does not change. -/
theorem Valid.total_apply (h : a.Valid) (c : Change) :
    (c.apply a).total ≤ a.total ∨
      (c.apply a).total ≤ a.limit.toNat ∧ (c.apply a).limit = a.limit := by
  cases c with
  | allocate size =>
    change (a.allocate size).2.total ≤ _ ∨ (a.allocate size).2.total ≤ _ ∧ _
    by_cases hsize : size = 0
    · rw [Arena.allocate, if_pos hsize]
      exact Or.inl (Nat.le_refl _)
    cases hnew : (a.allocate size).1 with
    | error e =>
      rw [allocate_of_error hnew]
      exact Or.inl (Nat.le_refl _)
    | ok ptr =>
      obtain ⟨htotal, hle⟩ := h.total_allocate hsize hnew
      rw [htotal]
      exact Or.inr ⟨hle, limit_allocate a size⟩
  | deallocate ptr size =>
    change (a.deallocate ptr size).total ≤ _ ∨ _
    rw [Arena.deallocate]
    split
    · exact Or.inl (Nat.sub_le _ _)
    · exact Or.inl (Nat.le_refl _)
  | releaseAll => exact Or.inl (Nat.zero_le _)
  | setLimit limit => exact Or.inl (Nat.le_refl _)
  | write ptr bytes => exact Or.inl (Nat.le_of_eq (total_write a ptr bytes))
  | put bytes =>
    change (a.put bytes).2.total ≤ _ ∨ (a.put bytes).2.total ≤ _ ∧ _
    by_cases hbytes : bytes = []
    · rw [Arena.put, if_pos hbytes]
      exact Or.inl (Nat.le_refl _)
    cases hnew : (a.put bytes).1 with
    | error e =>
      rw [h.put_of_error hnew]
      exact Or.inl (Nat.le_refl _)
    | ok packed =>
      obtain ⟨htotal, hle⟩ := h.total_put hbytes hnew
      rw [htotal]
      exact Or.inr ⟨hle, limit_put a bytes⟩

/-- What makes the total larger keeps to the budget. -/
theorem Valid.not_overdrawn_of_lt (h : a.Valid) (hlt : a.total < (c.apply a).total) :
    ¬(c.apply a).Overdrawn := by
  rw [Overdrawn]
  rcases h.total_apply c with hle | ⟨hle, hlimit⟩
  · omega
  · rw [hlimit]
    omega

/-- While more is in use than the budget allows, no change makes the total larger. -/
theorem Valid.total_apply_le (h : a.Valid) (hover : a.Overdrawn) :
    (c.apply a).total ≤ a.total := by
  rw [Overdrawn] at hover
  rcases h.total_apply c with hle | ⟨hle, -⟩ <;> omega

/-- Only a budget lower than the total makes more be in use than the budget allows. -/
theorem Valid.eq_setLimit_of_overdrawn (h : a.Valid) (hbefore : ¬a.Overdrawn)
    (hafter : (c.apply a).Overdrawn) : ∃ bound : UInt64, c = .setLimit bound ∧
      bound.toNat < a.total := by
  have hkept : (c.apply a).limit ≠ a.limit := by
    intro hlimit
    rw [Overdrawn] at hbefore hafter
    rw [hlimit] at hafter
    rcases h.total_apply c with hle | ⟨hle, -⟩ <;> omega
  cases c with
  | setLimit bound => exact ⟨bound, rfl, hafter⟩
  | allocate _ | deallocate _ _ | releaseAll | write _ _ | put _ =>
    rw [limit_apply] at hkept
    exact absurd rfl hkept

/-! ## Histories -/

/-- As long as more is in use than the budget allows, the total does not become larger. -/
theorem Valid.total_applyAll_le (h : a.Valid) (hover : Throughout Overdrawn changes a) :
    (applyAll changes a).total ≤ a.total := by
  induction changes generalizing a with
  | nil => exact Nat.le_refl _
  | cons c more ih =>
    exact Nat.le_trans (ih (closed_valid.apply c a h) hover.2) (h.total_apply_le hover.1)

/-- If more is in use than the budget allows, the budget was set to less than was in use then, and
it has been so ever since. -/
theorem exists_lowering (limit : UInt64) (hover : (applyAll changes (new limit)).Overdrawn) :
    ∃ before bound since, changes = before ++ .setLimit bound :: since ∧
      ¬(applyAll before (new limit)).Overdrawn ∧
      bound.toNat < (applyAll before (new limit)).total ∧
      Throughout Overdrawn since ((applyAll before (new limit)).setLimit bound) := by
  -- From the end: if it was so before the last change already, the lowering is further back.
  induction changes using List.reverseRecOn with
  | nil => exact absurd hover (Nat.not_lt_zero _)
  | append_singleton changes c ih =>
    rw [applyAll_append] at hover
    by_cases hbefore : (applyAll changes (new limit)).Overdrawn
    · obtain ⟨before, bound, since, rfl, hfits, hlt, hsince⟩ := ih hbefore
      refine ⟨before, bound, since ++ [c], by simp, hfits, hlt, ?_⟩
      rw [applyAll_append, applyAll_cons] at hbefore
      exact throughout_append_singleton.2 ⟨hsince, hbefore⟩
    · have hvalid := closed_valid.applyAll changes (new limit) (valid_new limit)
      obtain ⟨bound, rfl, hlt⟩ := hvalid.eq_setLimit_of_overdrawn hbefore hover
      exact ⟨changes, bound, [], rfl, hbefore, hlt, trivial⟩

/-! ## The budget in every run -/

/-- What holds of the budget in an arena. -/
structure Budgeting (a : Arena) : Prop where
  /-- The total is the sum of the sizes of the live buffers. -/
  total_eq : a.total = sizeOfAll a.blocks
  /-- A new buffer is over the budget exactly if the sum of the total and its size is, and the error
  says which size was requested, what is in use and what the budget is. -/
  overBudget_iff : ∀ size : UInt32, size ≠ 0 → ∀ requested current bound,
    (a.allocate size).1 = .error (.overBudget requested current bound) ↔
      a.limit.toNat < a.total + size.toNat ∧ requested = size.toNat ∧ current = a.total ∧
        bound = a.limit.toNat
  /-- With a new buffer the total keeps to the budget. -/
  allocated : ∀ size ptr, size ≠ 0 → (a.allocate size).1 = .ok ptr →
    (a.allocate size).2.total = a.total + size.toNat ∧
      (a.allocate size).2.total ≤ (a.allocate size).2.limit.toNat
  /-- So it does with a buffer made of bytes. -/
  stored : ∀ bytes packed, bytes ≠ [] → (a.put bytes).1 = .ok packed →
    (a.put bytes).2.total = a.total + bytes.length ∧
      (a.put bytes).2.total ≤ (a.put bytes).2.limit.toNat
  /-- So it does after whatever makes it larger. -/
  grown : ∀ c : Change, a.total < (c.apply a).total → ¬(c.apply a).Overdrawn
  /-- While more is in use than the budget allows, operations do not make the total larger, those of
  nested calls included. -/
  falls : ∀ panicOnError actions,
    Throughout Overdrawn (Action.changesAll panicOnError actions a) a →
    (Action.runAll panicOnError actions a).2.total ≤ a.total

theorem Valid.budgeting (h : a.Valid) : a.Budgeting where
  total_eq := h.total_eq
  overBudget_iff _ hsize _ _ _ := h.allocate_eq_overBudget_iff hsize
  allocated size _ hsize hok := by
    obtain ⟨htotal, hle⟩ := h.total_allocate hsize hok
    rw [htotal, limit_allocate]
    exact ⟨rfl, hle⟩
  stored bytes _ hbytes hok := by
    obtain ⟨htotal, hle⟩ := h.total_put hbytes hok
    rw [htotal, limit_put]
    exact ⟨rfl, hle⟩
  grown _ hlt := h.not_overdrawn_of_lt hlt
  falls panicOnError actions hover := by
    rw [Action.runAll_snd]
    exact h.total_applyAll_le hover

/-- What holds of the budget at the end of a history that begins without buffers. -/
structure BudgetKept (limit : UInt64) (history : List Change) : Prop where
  budgeting : (applyAll history (new limit)).Budgeting
  /-- The budget in force is the last one that was set. -/
  limit_eq : (applyAll history (new limit)).limit = lastLimit limit history
  /-- If more is in use than it allows, it was lowered to less than was in use then; it has been so
  ever since, and the total has not become larger. -/
  lowered : (applyAll history (new limit)).Overdrawn →
    ∃ before bound since, history = before ++ .setLimit bound :: since ∧
      ¬(applyAll before (new limit)).Overdrawn ∧
      bound.toNat < (applyAll before (new limit)).total ∧
      Throughout Overdrawn since ((applyAll before (new limit)).setLimit bound) ∧
      (applyAll history (new limit)).total ≤ (applyAll before (new limit)).total

theorem budgetKept (limit : UInt64) (history : List Change) : BudgetKept limit history := by
  have hvalid := closed_valid.applyAll history (new limit) (valid_new limit)
  refine ⟨hvalid.budgeting, limit_applyAll history (new limit), ?_⟩
  intro hover
  obtain ⟨before, bound, since, rfl, hfits, hlt, hsince⟩ := exists_lowering limit hover
  refine ⟨before, bound, since, rfl, hfits, hlt, hsince, ?_⟩
  have hmoment := closed_valid.applyAll before (new limit) (valid_new limit)
  rw [applyAll_append, applyAll_cons]
  exact (hmoment.setLimit bound).total_applyAll_le hsince

/-- **Runs keep to the budget.** At every moment of every run, those in nested calls included, a new
buffer is over the budget exactly if it would make more be in use than the budget in force allows,
and more is in use than it allows only since it was lowered to less than was in use; until it fits
again nothing makes the total larger. -/
theorem runAll_budgetKept (limit : UInt64) (panicOnError : Bool) (actions : List Action) :
    (Action.runAll panicOnError actions (new limit)).2 =
        applyAll (Action.changesAll panicOnError actions (new limit)) (new limit) ∧
      ∀ history, BudgetKept limit history :=
  ⟨Action.runAll_snd panicOnError actions (new limit), budgetKept limit⟩

/-- With five bytes in use the budget is lowered to four in a call, which then fails to get one more
byte; afterwards the same request still fails, and says so. -/
theorem runAll_budgetKept_lowered :
    let actions : List Action := [.put [1, 2, 3, 4, 5],
      .recover [.setLimit 4, .allocate 1] ⟨false, none⟩, .write 8 [0]]
    let history := Action.changesAll false actions (new 64)
    let a := (Action.runAll false actions (new 64)).2
    a.Overdrawn ∧ (a.allocate 1).1 = .error (.overBudget 1 5 4) ∧
      ∃ before bound since, history = before ++ .setLimit bound :: since ∧
        bound.toNat < (applyAll before (new 64)).total := by
  intro actions history a
  obtain ⟨hend, hmoments⟩ := runAll_budgetKept 64 false actions
  have hkept : BudgetKept 64 history := hmoments history
  have hover : a.Overdrawn := by decide +kernel
  have hend : a = applyAll history (new 64) := hend
  refine ⟨hover, ?_, ?_⟩
  · have hbudget : a.Budgeting := hend ▸ hkept.budgeting
    exact (hbudget.overBudget_iff 1 (by decide) 1 5 4).2
      ⟨by decide +kernel, rfl, by decide +kernel, by decide +kernel⟩
  · obtain ⟨before, bound, since, heq, -, hlt, -⟩ := hkept.lowered (hend ▸ hover)
    exact ⟨before, bound, since, heq, hlt⟩

end Arena

end PluginSandbox
