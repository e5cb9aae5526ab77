import PluginSandbox.Checker
import PluginSandbox.Proofs.Policy.Cache

/-!
# Calls of the capability checker

Whatever a plugin asks the checker comes down to some requests of which the grants
of the plugin have to cover one. A policy that keeps a state may be asked by any
plugin at any time; as long as its answers do not depend on the state, neither do
those of the checker.

## Main definitions

* `Policy.Realizes`: a policy that decides by what the grants cover.
* `Registry`, `Checker.glob`: grants by plugin, and the checker that asks the glob
  policy about them.
* `Checker.Call`, `Checker.Answer`, `Checker.Call.run`: what can be asked, and the
  answers.
* `Checker.after`: the cache after calls of plugins in turn.

## Main statements

* `Checker.anyCovered`, `Checker.authorize_fst`: the answers by what the grants cover.
* `Checker.Call.run_inv`: no call breaks what the answers of the policy rest on.
-/

namespace PluginSandbox

/-! ## Policies that decide by what the grants cover -/

namespace Policy

/-- While its state keeps to a condition, the policy decides by what the grants cover, and the
state goes on keeping to the condition. -/
structure Realizes {σ : Type} (policy : Policy σ) (inv : σ → Prop) : Prop where
  decide_fst : ∀ request grants s, inv s →
    (policy.decide request grants s).1 = grants.covers request
  decide_inv : ∀ request grants s, inv s → inv (policy.decide request grants s).2

theorem realizes_glob : Policy.glob.Realizes GlobCache.Sound where
  decide_fst request grants s hs := by
    have hanswer := answer_glob ⟨request, grants⟩ hs
    exact congrArg Prod.fst hanswer
  decide_inv request grants s hs := by
    have hanswer := answer_glob ⟨request, grants⟩ hs
    rw [answer] at hanswer
    rw [hanswer]
    exact hs.learnAll _

end Policy

/-- The grants of plugins by name. -/
abbrev Registry := List (String × Grants)

namespace Checker

/-- The checker that asks the glob policy. -/
def glob (registry : Registry) : Checker GlobCache := ⟨registry, Policy.glob⟩

/-! ## What is asked and answered -/

/-- A call of the checker. -/
inductive Call where
  /-- A capability by kind and pattern. -/
  | check (plugin kind pattern : String)
  /-- A capability by request. -/
  | request (plugin : String) (wanted : Request)
  /-- A capability as one text. -/
  | has (plugin capability : String)
  /-- A capability as one text, of what answers for one plugin only. -/
  | getter (bound plugin capability : String)

/-- The answer to a call. -/
inductive Answer where
  | result (result : Except Refusal Unit)
  | holds (answer : Bool)

/-- The answer to a call, and the state of the policy after it. -/
def Call.run {σ : Type} (checker : Checker σ) : Call → σ → Answer × σ
  | .check plugin kind pattern, s =>
    let answer := checker.check plugin kind pattern s
    (.result answer.1, answer.2)
  | .request plugin wanted, s =>
    let answer := checker.checkRequest plugin wanted s
    (.result answer.1, answer.2)
  | .has plugin capability, s =>
    let answer := checker.has plugin capability s
    (.holds answer.1, answer.2)
  | .getter bound plugin capability, s =>
    let answer := checker.getter bound plugin capability s
    (.holds answer.1, answer.2)

/-- The cache that calls lead to, each of any checker that asks the same policy. -/
def after : List (Registry × Call) → GlobCache → GlobCache
  | [], cache => cache
  | (registry, call) :: more, cache => after more (call.run (glob registry) cache).2

/-! ## Answers by what the grants cover -/

section Covers

variable {σ : Type} {policy : Policy σ} {inv : σ → Prop} {s : σ} {registry : Registry}
  {plugin kind pattern capability bound : String} {requests : List Request}

/-- Asking a policy about requests in turn is asking whether one of them is covered. -/
theorem anyCovered (h : policy.Realizes inv) (grants : Grants) (requests : List Request)
    (hs : inv s) :
    (anyWith (fun request => policy.decide request grants) requests s).1 =
        requests.any grants.covers ∧
      inv (anyWith (fun request => policy.decide request grants) requests s).2 :=
  anyWith_fst (fun request s hs => h.decide_fst request grants s hs)
    (fun request s hs => h.decide_inv request grants s hs) requests s hs

/-- A capability passes if the grants of the plugin cover one of the requests for it. -/
theorem authorize_fst (h : policy.Realizes inv) (hs : inv s) :
    (authorize ⟨registry, policy⟩ plugin kind pattern requests s).1 =
      (activeGrants ⟨registry, policy⟩ plugin).bind fun grants =>
        if requests.any grants.covers then .ok () else .error (.denied plugin kind pattern) := by
  rw [authorize]
  cases hactive : activeGrants ⟨registry, policy⟩ plugin with
  | error e => rfl
  | ok grants =>
    obtain ⟨hfst, -⟩ := anyCovered h grants requests hs
    simp only [Except.bind, ← hfst]
    cases anyWith (fun request => policy.decide request grants) requests s with
    | mk passed s' => cases passed <;> rfl

theorem authorize_inv (h : policy.Realizes inv) (hs : inv s) :
    inv (authorize ⟨registry, policy⟩ plugin kind pattern requests s).2 := by
  rw [authorize]
  cases hactive : activeGrants ⟨registry, policy⟩ plugin with
  | error e => exact hs
  | ok grants =>
    obtain ⟨-, hinv⟩ := anyCovered h grants requests hs
    simp only
    cases hany : anyWith (fun request => policy.decide request grants) requests s with
    | mk passed s' =>
      rw [hany] at hinv
      cases passed <;> exact hinv

theorem check_inv (h : policy.Realizes inv) (hs : inv s) :
    inv (check ⟨registry, policy⟩ plugin kind pattern s).2 := by
  rw [check]
  cases activeGrants ⟨registry, policy⟩ plugin with
  | error e => exact hs
  | ok grants =>
    cases readCapability kind pattern with
    | error e => exact hs
    | ok requests => exact authorize_inv h hs

theorem has_inv (h : policy.Realizes inv) (hs : inv s) :
    inv (has ⟨registry, policy⟩ plugin capability s).2 := by
  rw [has]
  split
  · split
    · exact hs
    · exact (anyCovered h _ _ hs).2
  · split
    · exact hs
    · exact check_inv h hs

/-- No call breaks what the answers of the policy rest on. -/
theorem Call.run_inv (h : policy.Realizes inv) (call : Call) (hs : inv s) :
    inv (call.run ⟨registry, policy⟩ s).2 := by
  cases call with
  | check plugin kind pattern => exact check_inv h hs
  | request plugin wanted => exact authorize_inv h hs
  | has plugin capability => exact has_inv h hs
  | getter bound plugin capability =>
    rw [run, Checker.getter]
    split
    · exact has_inv h hs
    · exact hs

end Covers

/-- Every cache that calls lead to is sound. -/
theorem sound_after (past : List (Registry × Call)) {cache : GlobCache} (h : cache.Sound) :
    (after past cache).Sound := by
  induction past generalizing cache with
  | nil => exact h
  | cons entry more ih => exact ih (entry.2.run_inv Policy.realizes_glob h)

end Checker

end PluginSandbox
