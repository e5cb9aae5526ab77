import PluginSandbox.Memory.Call

/-!
# What operations change

Whatever an operation does, the nested calls included, it does to the arena by
changes of six kinds, in an order that depends on the arena. An operation that
only looks makes no change, one that a panic has kept from being run makes none
either, and the recovery from a panic is the release of all buffers. A run is
therefore known by its history, the list of its changes.

## Main definitions

* `Change`, `Change.apply`: a change, and the arena after it.
* `Change.applyAll`: the arena after a history.
* `Action.changes`, `Action.changesAll`: the history of an operation, and of a
  run of operations.

## Main statements

* `Action.run_snd`, `Action.runAll_snd`: a run leads where its history leads.
-/

namespace PluginSandbox

/-- A change of an arena. -/
inductive Change where
  | allocate (size : UInt32)
  | deallocate (ptr size : UInt32)
  | releaseAll
  | setLimit (limit : UInt64)
  | write (ptr : UInt32) (bytes : List UInt8)
  | put (bytes : List UInt8)
  deriving DecidableEq

namespace Change

/-- The arena after a change; one that fails leaves it as it was. -/
def apply : Change → Arena → Arena
  | allocate size, a => (a.allocate size).2
  | deallocate ptr size, a => a.deallocate ptr size
  | releaseAll, a => a.releaseAll
  | setLimit limit, a => a.setLimit limit
  | write ptr bytes, a => (a.write ptr bytes).2
  | put bytes, a => (a.put bytes).2

/-- The arena after changes in turn. -/
def applyAll (changes : List Change) (a : Arena) : Arena := changes.foldl (fun a c => c.apply a) a

@[simp] theorem applyAll_nil (a : Arena) : applyAll [] a = a := rfl

@[simp] theorem applyAll_cons (c : Change) (more : List Change) (a : Arena) :
    applyAll (c :: more) a = applyAll more (c.apply a) := rfl

@[simp] theorem applyAll_append (first more : List Change) (a : Arena) :
    applyAll (first ++ more) a = applyAll more (applyAll first a) := List.foldl_append

end Change

namespace Action

open Change

/-- The release of the buffer that a packed word describes. -/
def releaseOf (packed : UInt64) : List Change :=
  match unpack packed with
  | .ok (ptr, len) => [.deallocate ptr len]
  | .error _ => []

/-- What the recovery of a call adds to its history. -/
def recoveryOf : Outcome Unit → List Change
  | .panicked _ => [.releaseAll]
  | .returned _ | .aborted => []

mutual

/-- The history of an operation. -/
def changes : Action → Arena → List Change
  | .allocate size, _ | .allocateOrAbort size, _ => [.allocate size]
  | .deallocate ptr size, _ => [.deallocate ptr size]
  | .releaseAll, _ => [.releaseAll]
  | .setLimit limit, _ => [.setLimit limit]
  | .write ptr bytes, _ => [.write ptr bytes]
  | .put bytes, _ => [.put bytes]
  | .deallocatePacked packed, _ => releaseOf packed
  | .writeJson (some payload), _ => [.put payload.bytes]
  | .writeJson none, _ | .read _, _ | .readAt _ _, _ | .readJson _ _, _ | .describe, _ => []
  | .recover body ending, a =>
    changesAll ending.panicOnError body a ++
      recoveryOf (finish ending (runAll ending.panicOnError body a).1).2

/-- The history of operations in turn, as far as they go. -/
def changesAll (panicOnError : Bool) : List Action → Arena → List Change
  | [], _ => []
  | action :: more, a =>
    changes action a ++
      match run action a with
      | (.returned reply, a') =>
        match if panicOnError then reply.panic? else none with
        | some _ => []
        | none => changesAll panicOnError more a'
      | (.panicked _, _) | (.aborted, _) => []

end

/-- The end of a recovered call. -/
theorem recovered_snd (run : Run) (a : Arena) :
    (recovered run a).2 = applyAll (recoveryOf run.2) a := by
  rw [recovered, PluginSandbox.recover]
  cases run.2 <;> rfl

mutual

/-- An operation leads where its history leads. -/
theorem run_snd : ∀ (action : Action) (a : Arena),
    (action.run a).2 = applyAll (action.changes a) a
  | .allocate _, _ | .deallocate _ _, _ | .releaseAll, _ | .setLimit _, _ | .write _ _, _
  | .put _, _ | .writeJson (some _), _ => by
    rw [run, changes]
    rfl
  | .read _, _ | .readAt _ _, _ | .readJson _ _, _ | .writeJson none, _ | .describe, _ => by
    rw [run, changes]
    rfl
  | .allocateOrAbort size, a => by
    rw [run, changes]
    simp only [applyAll_cons, applyAll_nil, apply]
    cases hnew : a.allocate size with
    | mk result a' => cases result <;> rfl
  | .deallocatePacked packed, a => by
    rw [run, changes, releaseOf]
    simp only [Arena.deallocatePacked]
    cases unpack packed <;> rfl
  | .recover body ending, a => by
    rw [run, changes]
    simp only [recovered_snd, applyAll_append, runAll_snd ending.panicOnError body a]

/-- Operations in turn lead where their history leads. -/
theorem runAll_snd (panicOnError : Bool) : ∀ (actions : List Action) (a : Arena),
    (runAll panicOnError actions a).2 = applyAll (changesAll panicOnError actions a) a
  | [], a => by
    rw [runAll, changesAll]
    rfl
  | action :: more, a => by
    have hfirst := run_snd action a
    rw [runAll, changesAll, applyAll_append, ← hfirst]
    cases hresult : action.run a with
    | mk outcome a' =>
      cases outcome with
      | panicked p => rfl
      | aborted => rfl
      | returned reply =>
        simp only
        cases if panicOnError then reply.panic? else none with
        | some p => rfl
        | none => exact runAll_snd panicOnError more a'

end

end Action

end PluginSandbox
