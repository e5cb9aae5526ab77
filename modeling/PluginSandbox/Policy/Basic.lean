import PluginSandbox.Grant.Basic
import PluginSandbox.Request

/-!
# Policies

A policy decides whether grants cover a request. It may keep a state between
decisions, which it passes on; a policy that keeps none decides by a predicate.

## Main definitions

* `Policy`: a decision with a state.
* `Policy.recording`: a policy that also keeps the requests it was asked.
* `anyWith`: whether some member of a list passes a test with a state; later
  members are not tried once one passes.
-/

namespace PluginSandbox

/-- A decision whether grants cover a request, with a state of type `σ`. -/
structure Policy (σ : Type) where
  decide : Request → Grants → σ → Bool × σ

namespace Policy

variable {σ : Type}

/-- The policy that keeps no state and decides by a predicate. -/
def ofPredicate (covers : Request → Grants → Bool) : Policy Unit :=
  ⟨fun request grants s => (covers request grants, s)⟩

/-- A policy that also keeps the requests it was asked, in order. -/
def recording (policy : Policy σ) : Policy (σ × List Request) :=
  ⟨fun request grants s =>
    let answer := policy.decide request grants s.1
    (answer.1, (answer.2, s.2 ++ [request]))⟩

end Policy

/-- Some member passes a test that carries a state along; tests stop at the first that does. -/
def anyWith {α σ : Type} (test : α → σ → Bool × σ) : List α → σ → Bool × σ
  | [], s => (false, s)
  | a :: more, s =>
    match test a s with
    | (true, s') => (true, s')
    | (false, s') => anyWith test more s'

@[simp] theorem anyWith_nil {α σ : Type} (test : α → σ → Bool × σ) (s : σ) :
    anyWith test [] s = (false, s) := rfl

/-- A test whose answer does not depend on the state is a plain search. -/
theorem anyWith_fst {α σ : Type} {test : α → σ → Bool × σ} {p : α → Bool} {inv : σ → Prop}
    (hp : ∀ a s, inv s → (test a s).1 = p a) (hs : ∀ a s, inv s → inv (test a s).2)
    (members : List α) (s : σ) (h : inv s) :
    (anyWith test members s).1 = members.any p ∧ inv (anyWith test members s).2 := by
  induction members generalizing s with
  | nil => exact ⟨rfl, h⟩
  | cons a more ih =>
    have ha := hp a s h
    have hi := hs a s h
    simp only [anyWith, List.any_cons]
    cases ht : test a s with
    | mk b s' =>
      rw [ht] at ha hi
      cases b with
      | true => simp_all
      | false =>
        have := ih s' hi
        simp_all

end PluginSandbox
