import PluginSandbox.Proofs.Memory.Budget
import PluginSandbox.Proofs.Memory.Lifetime

/-!
# Recovery from panics

A guest call goes through operations on the arena, may recover from the panics of
calls that it makes itself, and at any point completes with a value or panics. What
comes next may depend on all results so far. If the recovered call completes, the
arena is as the call left it. If it panics, no buffer is left, whoever made it; the
budget is the one that was set last, and from then on the arena is a new one: what
was given out before is unknown until its address is used again.

## Main definitions

* `GuestCall`: a call, as the tree of what it may do.
* `GuestCall.run`, `GuestCall.changes`: its effect, and its history.
* `GuestCall.ofActions`: the call that a list of operations makes.
* `GuestCall.Recovered`: what its recovery comes to.

## Main statements

* `GuestCall.run_snd`: a call leads where its history leads.
* `GuestCall.run_recover_snd`: operations that are recovered from are such a call.
* `GuestCall.recovered`: its recovery, whatever the call does and however it ends.
-/

namespace PluginSandbox

open Change

/-! ## What follows a result -/

namespace Outcome

variable {α β : Type}

/-- Goes on with the result of a computation, if there is one. -/
def andThen (next : α → Arena → Outcome β × Arena) : Outcome α × Arena → Outcome β × Arena
  | (returned x, a) => next x a
  | (panicked p, a) => (panicked p, a)
  | (aborted, a) => (aborted, a)

/-- The history of what goes on with the result of a computation. -/
def changesAfter (next : α → Arena → List Change) : Outcome α × Arena → List Change
  | (returned x, a) => next x a
  | (panicked _, _) | (aborted, _) => []

/-- How a computation ends, whatever its result. -/
def ending : Outcome α → Outcome Unit
  | returned _ => returned ()
  | panicked p => panicked p
  | aborted => aborted

theorem andThen_snd {next : α → Arena → Outcome β × Arena} {history : α → Arena → List Change}
    (hnext : ∀ x a, (next x a).2 = applyAll (history x a) a) (r : Outcome α × Arena) :
    (andThen next r).2 = applyAll (changesAfter history r) r.2 := by
  obtain ⟨outcome, a⟩ := r
  cases outcome with
  | returned x => exact hnext x a
  | panicked p | aborted => rfl

end Outcome

open Outcome in
/-- After a recovered call, the arena is as the call left it, unless the call panicked. -/
theorem recover_snd {α : Type} (call : Arena → Outcome α × Arena) (a : Arena) :
    (recover call a).2 = applyAll (Action.recoveryOf (call a).1.ending) (call a).2 := by
  rw [recover]
  obtain ⟨outcome, a'⟩ := call a
  cases outcome <;> rfl

/-! ## Calls -/

/-- A guest call, with values of some type. -/
inductive GuestCall : Type → Type 1 where
  /-- The call completes. -/
  | finish {α : Type} (value : α) : GuestCall α
  /-- The call panics. -/
  | panic {α : Type} (p : Panic) : GuestCall α
  /-- An operation, and what the call does with its result. -/
  | perform {α : Type} (action : Action) (next : Reply → GuestCall α) : GuestCall α
  /-- A call made and recovered from, and what the call does with its result. -/
  | recovering {α β : Type} (inner : GuestCall β)
      (next : Except BoundaryError β → GuestCall α) : GuestCall α

namespace GuestCall

/-- The effect of a call. -/
def run {α : Type} : GuestCall α → Arena → Outcome α × Arena
  | finish value, a => (.returned value, a)
  | panic p, a => (.panicked p, a)
  | perform action next, a => Outcome.andThen (fun reply => (next reply).run) (action.run a)
  | recovering inner next, a =>
    Outcome.andThen (fun result => (next result).run) (recover inner.run a)

/-- The history of a call. -/
def changes {α : Type} : GuestCall α → Arena → List Change
  | finish _, _ | panic _, _ => []
  | perform action next, a =>
    action.changes a ++ Outcome.changesAfter (fun reply => (next reply).changes) (action.run a)
  | recovering inner next, a =>
    inner.changes a ++ Action.recoveryOf (inner.run a).1.ending ++
      Outcome.changesAfter (fun result => (next result).changes) (recover inner.run a)

/-- A call leads where its history leads. -/
theorem run_snd {α : Type} (call : GuestCall α) (a : Arena) :
    (call.run a).2 = applyAll (call.changes a) a := by
  induction call generalizing a with
  | finish value | panic p => rfl
  | perform action next ih =>
    rw [run, changes, applyAll_append, ← Action.run_snd]
    exact Outcome.andThen_snd ih (action.run a)
  | recovering inner next ihinner ihnext =>
    rw [run, changes, applyAll_append, applyAll_append, ← ihinner, ← recover_snd]
    exact Outcome.andThen_snd ihnext (recover inner.run a)

variable {α : Type} {call : GuestCall α} {a : Arena} {p : Panic}

theorem limit_run (call : GuestCall α) (a : Arena) :
    (call.run a).2.limit = lastLimit a.limit (call.changes a) := by
  rw [run_snd, Arena.limit_applyAll]

/-- A call keeps to what the operations keep to. -/
theorem reachable_run (h : a.Reachable) : (call.run a).2.Reachable := by
  rw [run_snd]
  exact Arena.Reachable.closed.applyAll _ a h

/-! ## Calls that operations make -/

/-- The call that runs operations in turn and then ends in the given way. -/
def ofActions (ending : Ending) : List Action → GuestCall Unit
  | [] =>
    match ending.panic with
    | some p => .panic p
    | none => .finish ()
  | action :: more =>
    .perform action fun reply =>
      match if ending.panicOnError then reply.panic? else none with
      | some p => .panic p
      | none => ofActions ending more

/-- How operations end does not depend on their results. -/
theorem finish_snd (ending : Ending) (outcome : Outcome Unit) (replies replies' : List Reply) :
    (Action.finish ending (replies, outcome)).2 = (Action.finish ending (replies', outcome)).2 := by
  cases outcome <;> rfl

theorem run_ofActions (ending : Ending) (actions : List Action) (a : Arena) :
    (ofActions ending actions).run a =
      ((Action.finish ending (Action.runAll ending.panicOnError actions a).1).2,
        (Action.runAll ending.panicOnError actions a).2) := by
  induction actions generalizing a with
  | nil =>
    rw [ofActions, Action.runAll, Action.finish]
    cases ending.panic <;> rfl
  | cons action more ih =>
    rw [ofActions, run, Action.runAll]
    cases hresult : action.run a with
    | mk outcome a' =>
      cases outcome with
      | panicked p | aborted => rfl
      | returned reply =>
        simp only [Outcome.andThen]
        cases if ending.panicOnError then reply.panic? else none with
        | some p => rfl
        | none =>
          rw [ih a']
          exact Prod.ext (finish_snd ending _ _ _) rfl

/-- The operation that recovers from operations is the recovery of the call that they make. -/
theorem run_recover_snd (body : List Action) (ending : Ending) (a : Arena) :
    ((Action.recover body ending).run a).2 = (recover (ofActions ending body).run a).2 := by
  rw [Action.run, recover_snd, run_ofActions, Action.recovered_snd]
  cases (Action.finish ending (Action.runAll ending.panicOnError body a).1).2 <;> rfl

/-! ## Recovery -/

theorem recover_of_returned {value : α} (h : (call.run a).1 = .returned value) :
    recover call.run a = (.returned (.ok value), (call.run a).2) := by
  rw [recover]
  cases hrun : call.run a with
  | mk outcome a' =>
    rw [hrun] at h
    obtain rfl : outcome = _ := h
    rfl

/-- After a panic the arena is a new one. -/
theorem recover_of_panicked (h : (call.run a).1 = .panicked p) :
    recover call.run a =
      (.returned (.error (.panicked p.message)), Arena.new (call.run a).2.limit) := by
  rw [recover]
  cases hrun : call.run a with
  | mk outcome a' =>
    rw [hrun] at h
    obtain rfl : outcome = _ := h
    rfl

theorem recover_of_aborted (h : (call.run a).1 = .aborted) :
    recover call.run a = (.aborted, (call.run a).2) := by
  rw [recover]
  cases hrun : call.run a with
  | mk outcome a' =>
    rw [hrun] at h
    obtain rfl : outcome = _ := h
    rfl

theorem reachable_recover (h : a.Reachable) : (recover call.run a).2.Reachable := by
  cases hend : (call.run a).1 with
  | returned value =>
    rw [recover_of_returned hend]
    exact reachable_run h
  | panicked p =>
    rw [recover_of_panicked hend]
    exact Arena.Reachable.new _
  | aborted =>
    rw [recover_of_aborted hend]
    exact reachable_run h

/-- In a new arena a word with a length is unknown until a buffer is put over its address. -/
theorem read_of_new {limit : UInt64} {packed : UInt64} {ptr len : UInt32}
    (hword : unpack packed = .ok (ptr, len)) (hlen : len ≠ 0)
    (hnone : NoneCovers ptr.toNat (call.changes (Arena.new limit)) (Arena.new limit)) :
    (call.run (Arena.new limit)).2.read packed = .error (.unknownPointer ptr) := by
  have hvalid := Arena.valid_new limit
  have hdead : (Arena.new limit).byteAt? ptr.toNat = none := rfl
  rw [run_snd]
  exact (Arena.closed_valid.applyAll _ _ hvalid).read_of_dead (pack_unpack hword) hlen
    (hvalid.byteAt?_applyAll_eq_none hdead hnone)

/-- What the recovery of a call comes to. -/
structure Recovered (call : GuestCall α) (a : Arena) : Prop where
  /-- The call does to the arena what its history says. -/
  history : (call.run a).2 = applyAll (call.changes a) a
  /-- The budget that it leaves is the last one that was set, by itself or by a call it made. -/
  limit_eq : (call.run a).2.limit = lastLimit a.limit (call.changes a)
  /-- A call that completes gives its value, and the arena is as the call left it. -/
  completed : ∀ value, (call.run a).1 = .returned value →
    recover call.run a = (.returned (.ok value), (call.run a).2)
  /-- A call that panics gives the text of the panic, and the arena is a new one with the budget
  that was last in force. -/
  panicked : ∀ p, (call.run a).1 = .panicked p →
    recover call.run a =
      (.returned (.error (.panicked p.message)), Arena.new (call.run a).2.limit)
  /-- An abort is not recovered from. -/
  aborted : (call.run a).1 = .aborted → recover call.run a = (.aborted, (call.run a).2)
  /-- After a panic every word with a length is unknown, whatever else is done, until a buffer is
  put over its address. -/
  unknown : ∀ p, (call.run a).1 = .panicked p →
    ∀ packed ptr len, unpack packed = .ok (ptr, len) → len ≠ 0 →
    ∀ (β : Type) (later : GuestCall β),
      NoneCovers ptr.toNat (later.changes (recover call.run a).2) (recover call.run a).2 →
      (later.run (recover call.run a).2).2.read packed = .error (.unknownPointer ptr)
  /-- Operations lead to the arena after the recovery if they lead to the one before. -/
  reachable : a.Reachable → (recover call.run a).2.Reachable

/-- **Recovery from a panic starts the arena anew.** Whatever a call does, the calls that it
recovers from itself included: if it completes, its recovery gives its value and leaves the arena as
it is; if it panics, at whatever point, its recovery gives the text of the panic and a new arena
with the budget last in force. Every word that was given out for bytes is one of those that are
unknown then. The operation that recovers from others is such a recovery. -/
theorem recovered (call : GuestCall α) (a : Arena) :
    Recovered call a ∧
      (∀ earlier : Arena, earlier.Reachable → ∀ bytes packed, bytes ≠ [] →
        (earlier.put bytes).1 = .ok packed →
        ∃ ptr len, unpack packed = .ok (ptr, len) ∧ len ≠ 0) ∧
      ∀ body ending,
        ((Action.recover body ending).run a).2 = (recover (ofActions ending body).run a).2 := by
  refine ⟨⟨run_snd call a, limit_run call a, fun _ h => recover_of_returned h,
    fun _ h => recover_of_panicked h, recover_of_aborted, ?_, reachable_recover⟩, ?_,
    fun body ending => run_recover_snd body ending a⟩
  · intro p hp packed ptr len hword hlen β later
    rw [recover_of_panicked hp]
    exact read_of_new hword hlen
  · intro earlier hearlier bytes packed hbytes hput
    obtain ⟨hlen, ptr, -, -, hpack, -⟩ := hearlier.valid.stored_of_put hbytes hput
    exact ⟨ptr, _, unpack_pack hpack, Arena.length_ne_zero hbytes hlen⟩

/-- A call puts bytes in the arena, recovers from a call that lowers the budget and panics, and
panics itself after it has put others where the first ones were. -/
theorem recovered_nested :
    let inner : GuestCall Unit := .perform (.setLimit 32) fun _ => .panic (.text "inner")
    let call : GuestCall Nat := .perform (.put [1, 2, 3]) fun _ =>
      .recovering inner fun _ => .perform (.put [4]) fun _ => .panic .other
    let later : GuestCall Unit := .perform (.setLimit 64) fun _ => .finish ()
    recover call.run (Arena.new 100) =
        (.returned (.error (.panicked "non-string panic payload")), Arena.new 32) ∧
      (later.run (recover call.run (Arena.new 100)).2).2.read 0x800000003 =
        .error (.unknownPointer 8) := by
  intro inner call later
  obtain ⟨hrecovered, -⟩ := recovered call (Arena.new 100)
  have hpanic : (call.run (Arena.new 100)).1 = .panicked .other := by decide +kernel
  have hlimit : (call.run (Arena.new 100)).2.limit = 32 := by decide +kernel
  have hresult := hrecovered.panicked .other hpanic
  rw [hlimit] at hresult
  refine ⟨hresult, ?_⟩
  refine hrecovered.unknown .other hpanic 0x800000003 8 3 (by rfl) (by decide) Unit later ?_
  rw [hresult]
  decide +kernel

end GuestCall

end PluginSandbox
