import PluginSandbox.Guard.Lookup

/-!
# Traces of look-ups

What a computation does with a resolver whose answers may change is seen in its
trace: the result, and the names that were asked for. Traces compose, and a
resolver with fixed answers is the special case that `Lookup.run` is about.
-/

namespace PluginSandbox.Lookup

variable {α β : Type}

@[simp] theorem trace_done (resolver : Nat → String → LookupReply) (count : Nat) (a : α) :
    (done a).trace resolver count = (a, []) := rfl

@[simp] theorem trace_pure (resolver : Nat → String → LookupReply) (count : Nat) (a : α) :
    (pure a : Lookup α).trace resolver count = (a, []) := rfl

/-- The second computation meets a resolver that the first one has asked before. -/
theorem trace_bind (resolver : Nat → String → LookupReply) (count : Nat) (p : Lookup α)
    (f : α → Lookup β) :
    (p >>= f).trace resolver count =
      let first := p.trace resolver count
      let next := (f first.1).trace resolver (count + first.2.length)
      (next.1, first.2 ++ next.2) := by
  induction p generalizing count with
  | done a => rfl
  | ask host next ih =>
    have hstep := ih (resolver count host) (count + 1)
    change ((ask host fun reply => next reply >>= f).trace resolver count) = _
    simp only [trace, hstep, List.length_cons, List.cons_append, Nat.add_assoc, Nat.add_comm 1]

/-- With fixed answers the result is that of a run. -/
theorem trace_fixed_fst (resolver : String → LookupReply) (count : Nat) (p : Lookup α) :
    (p.trace (fun _ => resolver) count).1 = p.run resolver := by
  induction p generalizing count with
  | done a => rfl
  | ask host next ih => exact ih (resolver host) (count + 1)

end PluginSandbox.Lookup
