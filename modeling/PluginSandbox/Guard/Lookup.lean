import PluginSandbox.Address.Ip

/-!
# Looking names up

A computation that may have to look names up is a tree: it is finished, or it
asks for one name and goes on with the answer. What a resolver can influence,
and how often it is asked, is visible in the tree.

## Main definitions

* `LookupReply`: what a resolver answers, and how long it takes.
* `Lookup`: a computation that may look names up.
* `Lookup.run`: its result with a resolver whose answers are fixed.
* `Lookup.trace`: its result with answers that depend on how often the resolver
  was asked before, together with the names asked for.
-/

namespace PluginSandbox

/-- What a resolver answers. -/
structure LookupReply where
  /-- How long the answer takes, in milliseconds. -/
  delayMs : Nat := 0
  /-- The addresses of the name in order of preference, or the text of a failure. -/
  outcome : Except String (List Ip)

/-- A computation that may look names up. -/
inductive Lookup (α : Type) where
  /-- The result. -/
  | done (result : α)
  /-- A name to look up, and how to go on. -/
  | ask (host : String) (next : LookupReply → Lookup α)

namespace Lookup

variable {α β : Type}

/-- One computation after another. -/
def bind : Lookup α → (α → Lookup β) → Lookup β
  | done a, f => f a
  | ask host next, f => ask host fun reply => (next reply).bind f

instance : Monad Lookup where
  pure := done
  bind := bind

/-- The result with a resolver whose answers are fixed. -/
def run (resolver : String → LookupReply) : Lookup α → α
  | done a => a
  | ask host next => (next (resolver host)).run resolver

/-- The result and the names asked for, with a resolver that was asked `count` times before. -/
def trace (resolver : Nat → String → LookupReply) : (count : Nat) → Lookup α → α × List String
  | _, done a => (a, [])
  | count, ask host next =>
    let rest := (next (resolver count host)).trace resolver (count + 1)
    (rest.1, host :: rest.2)

@[simp] theorem run_done (resolver : String → LookupReply) (a : α) :
    (done a).run resolver = a := rfl

@[simp] theorem run_ask (resolver : String → LookupReply) (host : String)
    (next : LookupReply → Lookup α) :
    (ask host next).run resolver = (next (resolver host)).run resolver := rfl

@[simp] theorem run_bind (resolver : String → LookupReply) (p : Lookup α) (f : α → Lookup β) :
    (p >>= f).run resolver = (f (p.run resolver)).run resolver := by
  induction p with
  | done a => rfl
  | ask host next ih => exact ih (resolver host)

end Lookup

end PluginSandbox
