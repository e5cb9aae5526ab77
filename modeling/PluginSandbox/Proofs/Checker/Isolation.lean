import PluginSandbox.Proofs.Checker.Call

/-!
# Isolation of plugins

What a plugin is answered depends on its own grants and on what it asks. Neither
the grants of other plugins nor earlier calls, its own or those of others, change
it, although all calls share the cache of one policy. An answerer for one plugin
never confirms anything for another.

## Main statements

* `Checker.Call.run_congr`: two runs of one call agree.
* `Checker.isolated`: they agree after any earlier calls.
-/

namespace PluginSandbox.Checker

variable {σ τ : Type} {policy : Policy σ} {policy' : Policy τ} {inv : σ → Prop} {inv' : τ → Prop}
  {s : σ} {s' : τ} {registry registry' : Registry} {plugin : String}

/-! ## Two runs of one call -/

/-- The grants of a plugin are those registered for it. -/
theorem activeGrants_congr (policy : Policy σ) (policy' : Policy τ)
    (hagree : registry.lookup plugin = registry'.lookup plugin) :
    activeGrants ⟨registry, policy⟩ plugin = activeGrants ⟨registry', policy'⟩ plugin := by
  simp only [activeGrants, grantsOf, hagree]

section Runs

variable (h : policy.Realizes inv) (h' : policy'.Realizes inv') (hs : inv s) (hs' : inv' s')
  (hagree : registry.lookup plugin = registry'.lookup plugin)
include h h' hs hs' hagree

theorem authorize_congr (kind pattern : String) (requests : List Request) :
    (authorize ⟨registry, policy⟩ plugin kind pattern requests s).1 =
      (authorize ⟨registry', policy'⟩ plugin kind pattern requests s').1 := by
  rw [authorize_fst h hs, authorize_fst h' hs', activeGrants_congr policy policy' hagree]

theorem check_congr (kind pattern : String) :
    (check ⟨registry, policy⟩ plugin kind pattern s).1 =
      (check ⟨registry', policy'⟩ plugin kind pattern s').1 := by
  rw [check, check, activeGrants_congr policy policy' hagree]
  cases activeGrants ⟨registry', policy'⟩ plugin with
  | error e => rfl
  | ok grants =>
    cases readCapability kind pattern with
    | error e => rfl
    | ok requests => exact authorize_congr h h' hs hs' hagree kind pattern requests

theorem has_congr (capability : String) :
    (has ⟨registry, policy⟩ plugin capability s).1 =
      (has ⟨registry', policy'⟩ plugin capability s').1 := by
  rw [has, has, activeGrants_congr policy policy' hagree]
  cases Text.stripPrefix? "env:".toList capability.toList with
  | some name =>
    cases activeGrants ⟨registry', policy'⟩ plugin with
    | error e => rfl
    | ok grants =>
      have hleft := (anyCovered h grants
        [.command capability, .environment (String.ofList name)] hs).1
      have hright := (anyCovered h' grants
        [.command capability, .environment (String.ofList name)] hs').1
      exact hleft.trans hright.symm
  | none =>
    cases Text.splitOnce ':' capability.toList with
    | none => rfl
    | some parts =>
      exact congrArg Except.isOk
        (check_congr h h' hs hs' hagree (String.ofList parts.1) (String.ofList parts.2))

end Runs

/-! ## Calls for a plugin -/

/-- The call is about the capabilities of a plugin, or is made of the answerer for it. -/
def Call.IsFor (plugin : String) : Call → Prop
  | .check asking _ _ | .request asking _ | .has asking _ => asking = plugin
  | .getter bound asking _ => asking = plugin ∨ bound = plugin

/-- An answerer for one plugin confirms nothing for another. -/
theorem getter_of_ne {checker : Checker σ} {bound asking : String} (hne : asking ≠ bound)
    (capability : String) : checker.getter bound asking capability s = (false, s) := by
  rw [getter, if_neg hne]

/-- A call for a plugin is answered alike wherever the plugin has the same grants. -/
theorem Call.run_congr (h : policy.Realizes inv) (h' : policy'.Realizes inv') (hs : inv s)
    (hs' : inv' s') (hagree : registry.lookup plugin = registry'.lookup plugin) {call : Call}
    (hfor : call.IsFor plugin) :
    (call.run ⟨registry, policy⟩ s).1 = (call.run ⟨registry', policy'⟩ s').1 := by
  cases call with
  | check asking kind pattern =>
    obtain rfl := hfor
    exact congrArg Answer.result (check_congr h h' hs hs' hagree kind pattern)
  | request asking wanted =>
    obtain rfl := hfor
    exact congrArg Answer.result (authorize_congr h h' hs hs' hagree _ _ _)
  | has asking capability =>
    obtain rfl := hfor
    exact congrArg Answer.holds (has_congr h h' hs hs' hagree capability)
  | getter bound asking capability =>
    refine congrArg Answer.holds ?_
    by_cases hbound : asking = bound
    · have hasking : asking = plugin := hfor.elim id hbound.trans
      obtain rfl := hasking
      rw [Checker.getter, Checker.getter, if_pos hbound, if_pos hbound]
      exact has_congr h h' hs hs' hagree capability
    · rw [getter_of_ne hbound, getter_of_ne hbound]

/-- **Plugins do not see each other.** Two checkers that hold the same grants for a plugin answer
its calls alike, whatever grants they hold for other plugins and whatever was asked before of the
policies that they share with others; and an answerer for one plugin never confirms anything for
another. -/
theorem isolated (hagree : registry.lookup plugin = registry'.lookup plugin)
    (past past' : List (Registry × Call)) :
    (∀ call : Call, call.IsFor plugin →
      (call.run (glob registry) (after past {})).1 =
        (call.run (glob registry') (after past' {})).1) ∧
      ∀ (ρ : Type) (checker : Checker ρ) (bound asking capability : String) (state : ρ),
        (checker.getter bound asking capability state).1 = true → asking = bound := by
  refine ⟨?_, ?_⟩
  · intro call hfor
    exact Call.run_congr Policy.realizes_glob Policy.realizes_glob
      (sound_after past GlobCache.sound_empty) (sound_after past' GlobCache.sound_empty) hagree hfor
  · intro ρ checker bound asking capability state htrue
    by_contra hne
    rw [getter_of_ne hne] at htrue
    contradiction

/-- A plugin that shares globs with another one is answered after the calls of that one, which fill
the cache, as it is alone. -/
theorem isolated_shared_globs :
    let own : Grants := { environment := some ["AWS_*"] }
    let registry : Registry := [("mail", own), ("build", { environment := some ["AWS_*", "[a"] })]
    let registry' : Registry := [("mail", own)]
    let past : List (Registry × Call) :=
      [(registry, .has "build" "env:AWS_REGION"), (registry, .check "build" "env" "HOME")]
    (after past {}).size = 2 ∧ registry.lookup "mail" = registry'.lookup "mail" ∧
      ((Call.check "mail" "env" "HOME").run (glob registry) (after past {})).1 =
        ((Call.check "mail" "env" "HOME").run (glob registry') (after [] {})).1 := by
  intro own registry registry' past
  have hagree : registry.lookup "mail" = registry'.lookup "mail" := by rfl
  obtain ⟨halike, -⟩ := isolated hagree past []
  exact ⟨by decide +kernel, hagree, halike (.check "mail" "env" "HOME") rfl⟩

end PluginSandbox.Checker
