import PluginSandbox.Proofs.Memory.History

/-!
# What operations lead to

All changes of an arena come down to five operations: a new buffer, a buffer
released, all buffers released, a new budget, and bytes written. What these five
preserve is preserved by every history, so by every operation, and holds of every
arena that operations lead to.

## Main definitions

* `Arena.Closed`: what the five operations preserve.
* `Arena.Reachable`: the arenas that operations lead to.

## Main statements

* `Arena.Closed.run`, `Arena.Closed.runAll`: what they preserve, all preserve.
* `Arena.Reachable.induct`: what they preserve holds of all reachable arenas.
-/

namespace PluginSandbox.Arena

variable {P : Arena → Prop}

/-! ## Closure -/

/-- The five operations preserve the property. -/
structure Closed (P : Arena → Prop) : Prop where
  allocate : ∀ a size, P a → P (a.allocate size).2
  deallocate : ∀ a ptr size, P a → P (a.deallocate ptr size)
  releaseAll : ∀ a, P a → P a.releaseAll
  setLimit : ∀ a limit, P a → P (a.setLimit limit)
  write : ∀ a ptr bytes, P a → P (a.write ptr bytes).2

namespace Closed

theorem put (h : Closed P) (a : Arena) (bytes : List UInt8) (ha : P a) : P (a.put bytes).2 := by
  rw [Arena.put]
  split
  · exact ha
  · split
    · exact ha
    · have hallocate := h.allocate a (UInt32.ofNat bytes.length) ha
      cases hnew : a.allocate (UInt32.ofNat bytes.length) with
      | mk result a' =>
        rw [hnew] at hallocate
        simp only [hnew]
        cases result with
        | error e => exact hallocate
        | ok ptr =>
          have hwrite := h.write a' ptr bytes hallocate
          simp only
          cases hdone : a'.write ptr bytes with
          | mk result a'' =>
            rw [hdone] at hwrite
            cases result <;> exact hwrite

theorem apply (h : Closed P) (change : Change) (a : Arena) (ha : P a) : P (change.apply a) := by
  cases change with
  | allocate size => exact h.allocate a size ha
  | deallocate ptr size => exact h.deallocate a ptr size ha
  | releaseAll => exact h.releaseAll a ha
  | setLimit limit => exact h.setLimit a limit ha
  | write ptr bytes => exact h.write a ptr bytes ha
  | put bytes => exact h.put a bytes ha

theorem applyAll (h : Closed P) (changes : List Change) (a : Arena) (ha : P a) :
    P (Change.applyAll changes a) := by
  induction changes generalizing a with
  | nil => exact ha
  | cons change more ih => exact ih _ (h.apply change a ha)

/-- What the five operations preserve, every operation preserves. -/
theorem run (h : Closed P) (action : Action) (a : Arena) (ha : P a) : P (action.run a).2 := by
  rw [Action.run_snd]
  exact h.applyAll _ a ha

/-- What the five operations preserve, every run of operations preserves. -/
theorem runAll (h : Closed P) (panicOnError : Bool) (actions : List Action) (a : Arena)
    (ha : P a) : P (Action.runAll panicOnError actions a).2 := by
  rw [Action.runAll_snd]
  exact h.applyAll _ a ha

end Closed

/-! ## Reachable arenas -/

/-- The arenas that operations lead to from an arena without buffers. -/
inductive Reachable : Arena → Prop where
  | new (limit : UInt64) : Reachable (new limit)
  | step {a : Arena} (action : Action) (h : Reachable a) : Reachable (action.run a).2

namespace Reachable

/-- What holds without buffers and is preserved by the five operations holds of all. -/
theorem induct (hclosed : Closed P) (hnew : ∀ limit, P (Arena.new limit)) {a : Arena}
    (h : Reachable a) : P a := by
  induction h with
  | new limit => exact hnew limit
  | step action _ ih => exact hclosed.run action _ ih

theorem closed : Closed Reachable where
  allocate a size h := by
    have := h.step (.allocate size)
    rwa [Action.run] at this
  deallocate a ptr size h := by
    have := h.step (.deallocate ptr size)
    rwa [Action.run] at this
  releaseAll a h := by
    have := h.step .releaseAll
    rwa [Action.run] at this
  setLimit a limit h := by
    have := h.step (.setLimit limit)
    rwa [Action.run] at this
  write a ptr bytes h := by
    have := h.step (.write ptr bytes)
    rwa [Action.run] at this

/-- An arena in the middle of a call is reachable as well. -/
theorem runAll {a : Arena} (h : Reachable a) (panicOnError : Bool) (actions : List Action) :
    Reachable (Action.runAll panicOnError actions a).2 :=
  closed.runAll panicOnError actions a h

end Reachable

end PluginSandbox.Arena
