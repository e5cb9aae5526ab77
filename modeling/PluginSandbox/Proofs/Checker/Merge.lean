import PluginSandbox.Proofs.Checker.Call
import PluginSandbox.Proofs.Grant.Coverage

/-!
# Decisions under merged grants

A request is authorised under merged grants exactly if it is authorised under one
of the parts, and the checker passes a capability of a plugin with merged grants
exactly if it passes it with one of the parts. This holds whatever the policy was
asked before.

## Main statements

* `Checker.isOk_authorize`, `Checker.isOk_check`, `Checker.has_fst`: the checker
  passes what the grants of the plugin cover.
* `Checker.glob_merge_homomorphism`: decisions under merged grants.
-/

namespace PluginSandbox

namespace Grants

/-- One of several requests is covered by merged grants if one of them is by a part. -/
theorem any_covers_merge (g h : Grants) (requests : List Request) :
    requests.any (g.merge h).covers = (requests.any g.covers || requests.any h.covers) := by
  rw [Bool.eq_iff_iff]
  simp only [Bool.or_eq_true, List.any_eq_true, covers_merge, and_or_left, exists_or]

theorem any_covers_of_isEmpty {g : Grants} (hempty : g.isEmpty = true) (requests : List Request) :
    requests.any g.covers = false :=
  List.any_eq_false.2 fun request _ => Bool.eq_false_iff.1 (covers_of_isEmpty hempty request)

end Grants

namespace Checker

/-- The requests that a kind and a pattern stand for; a malformed pattern stands for none. -/
def requestsFor (kind pattern : String) : List Request :=
  match readCapability kind pattern with
  | .ok requests => requests
  | .error _ => []

/-- The requests that one text stands for. -/
def requestsForText (capability : String) : List Request :=
  match Text.stripPrefix? "env:".toList capability.toList with
  | some name => [.command capability, .environment (String.ofList name)]
  | none =>
    match Text.splitOnce ':' capability.toList with
    | none => []
    | some (kind, pattern) => requestsFor (String.ofList kind) (String.ofList pattern)

section Passes

variable {σ : Type} {policy : Policy σ} {inv : σ → Prop} {s : σ} {registry : Registry}
  {plugin : String} {g : Grants}

/-- Empty grants count as none. -/
theorem activeGrants_eq (policy : Policy σ) (hgrants : registry.lookup plugin = some g) :
    activeGrants ⟨registry, policy⟩ plugin =
      if g.isEmpty then .error (.noGrants plugin) else .ok g := by
  simp only [activeGrants, grantsOf, hgrants]

variable (h : policy.Realizes inv) (hs : inv s) (hgrants : registry.lookup plugin = some g)
include h hs hgrants

theorem isOk_authorize (kind pattern : String) (requests : List Request) :
    (authorize ⟨registry, policy⟩ plugin kind pattern requests s).1.isOk =
      requests.any g.covers := by
  rw [authorize_fst h hs, activeGrants_eq policy hgrants]
  by_cases hempty : g.isEmpty = true
  · rw [if_pos hempty, Grants.any_covers_of_isEmpty hempty]
    rfl
  · rw [if_neg hempty]
    change Except.isOk (if requests.any g.covers then _ else _) = _
    cases requests.any g.covers <;> rfl

theorem isOk_check (kind pattern : String) :
    (check ⟨registry, policy⟩ plugin kind pattern s).1.isOk =
      (requestsFor kind pattern).any g.covers := by
  rw [check, activeGrants_eq policy hgrants, requestsFor]
  by_cases hempty : g.isEmpty = true
  · rw [if_pos hempty, Grants.any_covers_of_isEmpty hempty]
    rfl
  · rw [if_neg hempty]
    cases readCapability kind pattern with
    | error e => rfl
    | ok requests => exact isOk_authorize h hs hgrants kind pattern requests

theorem has_fst (capability : String) :
    (has ⟨registry, policy⟩ plugin capability s).1 =
      (requestsForText capability).any g.covers := by
  rw [has, requestsForText]
  cases Text.stripPrefix? "env:".toList capability.toList with
  | some name =>
    simp only [activeGrants_eq policy hgrants]
    by_cases hempty : g.isEmpty = true
    · rw [if_pos hempty, Grants.any_covers_of_isEmpty hempty]
    · rw [if_neg hempty]
      exact (anyCovered h g _ hs).1
  | none =>
    cases Text.splitOnce ':' capability.toList with
    | none => rfl
    | some parts =>
      exact isOk_check h hs hgrants (String.ofList parts.1) (String.ofList parts.2)

end Passes

/-- **Merging grants merges authority.** Whatever the policies were asked before, a request is
authorised under merged grants exactly if it is under one of the parts; grants that contain others
authorise what those do; and what other grants do not authorise, the difference to them does. A
plugin with merged grants passes the checks that it passes with one of the parts, and no others. -/
theorem glob_merge_homomorphism (g h : Grants) (past past₁ past₂ : List Inquiry) :
    let s := (Policy.glob.answerAll past {}).2
    let s₁ := (Policy.glob.answerAll past₁ {}).2
    let s₂ := (Policy.glob.answerAll past₂ {}).2
    (∀ request, (Policy.glob.decide request (g.merge h) s).1 = true ↔
      (Policy.glob.decide request g s₁).1 = true ∨ (Policy.glob.decide request h s₂).1 = true) ∧
    (h.contains g = true → ∀ request, (Policy.glob.decide request g s₁).1 = true →
      (Policy.glob.decide request h s₂).1 = true) ∧
    (∀ request, (Policy.glob.decide request g s₁).1 = true →
      (Policy.glob.decide request h s₂).1 = true ∨
        (Policy.glob.decide request (g.difference h) s).1 = true) ∧
    ∀ (merged left right : Registry) (plugin : String),
      merged.lookup plugin = some (g.merge h) → left.lookup plugin = some g →
      right.lookup plugin = some h →
      (∀ kind pattern, ((glob merged).check plugin kind pattern s).1.isOk = true ↔
        ((glob left).check plugin kind pattern s₁).1.isOk = true ∨
          ((glob right).check plugin kind pattern s₂).1.isOk = true) ∧
      (∀ request, ((glob merged).checkRequest plugin request s).1.isOk = true ↔
        ((glob left).checkRequest plugin request s₁).1.isOk = true ∨
          ((glob right).checkRequest plugin request s₂).1.isOk = true) ∧
      ∀ capability, ((glob merged).has plugin capability s).1 = true ↔
        ((glob left).has plugin capability s₁).1 = true ∨
          ((glob right).has plugin capability s₂).1 = true := by
  intro s s₁ s₂
  have hs : s.Sound := Policy.sound_answerAll past
  have hs₁ : s₁.Sound := Policy.sound_answerAll past₁
  have hs₂ : s₂.Sound := Policy.sound_answerAll past₂
  have hdecide := Policy.realizes_glob.decide_fst
  refine ⟨?_, ?_, ?_, ?_⟩
  · intro request
    rw [hdecide _ _ s hs, hdecide _ _ s₁ hs₁, hdecide _ _ s₂ hs₂, Grants.covers_merge,
      Bool.or_eq_true]
  · intro hcontains request hrequest
    rw [hdecide _ _ s₁ hs₁] at hrequest
    rw [hdecide _ _ s₂ hs₂]
    exact Grants.covers_of_contains hcontains hrequest
  · intro request hrequest
    rw [hdecide _ _ s₁ hs₁] at hrequest
    rw [hdecide _ _ s₂ hs₂, hdecide _ _ s hs, ← Bool.or_eq_true, Grants.covers_difference,
      hrequest, Bool.or_true]
  · intro merged left right plugin hmerged hleft hright
    have hglob := Policy.realizes_glob
    refine ⟨?_, ?_, ?_⟩
    · intro kind pattern
      rw [glob, glob, glob, isOk_check hglob hs hmerged, isOk_check hglob hs₁ hleft,
        isOk_check hglob hs₂ hright, Grants.any_covers_merge, Bool.or_eq_true]
    · intro request
      rw [checkRequest, checkRequest, checkRequest, glob, glob, glob,
        isOk_authorize hglob hs hmerged, isOk_authorize hglob hs₁ hleft,
        isOk_authorize hglob hs₂ hright, Grants.any_covers_merge, Bool.or_eq_true]
    · intro capability
      rw [glob, glob, glob, has_fst hglob hs hmerged, has_fst hglob hs₁ hleft,
        has_fst hglob hs₂ hright, Grants.any_covers_merge, Bool.or_eq_true]

/-- Grants for a command, and grants for it and another one and for files, with a cache that has
read the command already. -/
theorem glob_merge_homomorphism_files :
    let g : Grants := { commands := some ["ls"] }
    let h : Grants := { commands := some ["ls", "cat"], files := some [⟨["/data/**"], []⟩] }
    let past : List Inquiry := [⟨.command "ls", g⟩]
    let s := (Policy.glob.answerAll past {}).2
    h.contains g = true ∧ (g.merge h).commands = some ["ls", "cat"] ∧
      (Policy.glob.decide (.command "ls") h s).1 = true ∧
      ((glob [("mail", g.merge h)]).check "mail" "fs" "read:/data/inbox/1" s).1.isOk = true := by
  intro g h past s
  have hcontains : h.contains g = true := by decide +kernel
  obtain ⟨-, hcovered, -, hchecker⟩ := glob_merge_homomorphism g h past past past
  obtain ⟨hcheck, -⟩ := hchecker [("mail", g.merge h)] [("mail", g)] [("mail", h)] "mail" rfl rfl rfl
  exact ⟨hcontains, by decide +kernel, hcovered hcontains (.command "ls") (by decide +kernel),
    (hcheck "fs" "read:/data/inbox/1").2 (Or.inr (by decide +kernel))⟩

end Checker

end PluginSandbox
