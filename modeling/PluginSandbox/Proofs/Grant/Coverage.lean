import PluginSandbox.Grant.Algebra
import PluginSandbox.Policy.Glob

/-!
# What merged grants cover

Grants cover a request if some rule of one category does. Rules are compared as
they are written when grants are merged, but which requests a rule covers depends
on the rule alone; so merged grants cover what one of the parts covers, and taking
away rules that other grants have as well takes away nothing that those do not
cover.

## Main statements

* `Grants.covers_merge`, `Grants.covers_difference`: the requests that grants
  cover, for each operation on grants.
* `Grants.covers_of_contains`: grants that contain others cover what those cover.
* `Grants.covers_of_isEmpty`: empty grants cover nothing.
-/

namespace PluginSandbox

section Rules

variable {α : Type} [DecidableEq α]

/-- A rule of a union that passes a test is one of a part. -/
theorem any_mergeRules (passes : α → Bool) (a b : Option (List α)) :
    (rulesOf (mergeRules a b)).any passes = ((rulesOf a).any passes || (rulesOf b).any passes) := by
  rw [Bool.eq_iff_iff]
  simp only [Bool.or_eq_true, List.any_eq_true, mem_rulesOf_mergeRules, or_and_right, exists_or]

/-- A rule that passes a test is not lost in a difference, except to the rules taken away. -/
theorem any_differenceRules (passes : α → Bool) (a b : Option (List α)) :
    ((rulesOf b).any passes || (rulesOf (differenceRules a b)).any passes) =
      ((rulesOf b).any passes || (rulesOf a).any passes) := by
  rw [Bool.eq_iff_iff, rulesOf_differenceRules]
  simp only [Bool.or_eq_true, List.any_eq_true, List.mem_filter, decide_eq_true_eq]
  constructor
  · rintro (hb | ⟨x, ⟨hx, -⟩, hpass⟩)
    · exact Or.inl hb
    · exact Or.inr ⟨x, hx, hpass⟩
  · rintro (hb | ⟨x, hx, hpass⟩)
    · exact Or.inl hb
    · by_cases hxb : x ∈ rulesOf b
      · exact Or.inl ⟨x, hxb, hpass⟩
      · exact Or.inr ⟨x, ⟨hx, hxb⟩, hpass⟩

end Rules

namespace Grants

variable {g h : Grants} {request : Request}

/-- Merged grants cover what one of the parts covers. -/
theorem covers_merge (g h : Grants) (request : Request) :
    (g.merge h).covers request = (g.covers request || h.covers request) := by
  cases request with
  | file path access => simp only [covers, merge, any_mergeRules, Bool.and_or_distrib_left]
  | network _ | environment _ | command _ | key _ _ =>
    simp only [covers, merge, any_mergeRules]

/-- What a difference no longer covers, the grants taken away cover. -/
theorem covers_difference (g h : Grants) (request : Request) :
    (h.covers request || (g.difference h).covers request) =
      (h.covers request || g.covers request) := by
  cases request with
  | file path access =>
    simp only [covers, difference, ← Bool.and_or_distrib_left, any_differenceRules]
  | network _ | environment _ | command _ | key _ _ =>
    simp only [covers, difference, any_differenceRules]

/-- Empty grants cover nothing. -/
theorem covers_of_isEmpty (hempty : g.isEmpty = true) (request : Request) :
    g.covers request = false := by
  simp only [isEmpty, Bool.and_eq_true, List.isEmpty_iff] at hempty
  obtain ⟨⟨⟨⟨hnetwork, hfiles⟩, henvironment⟩, hcommands⟩, hkeys⟩ := hempty
  cases request with
  | network target => rw [covers, hnetwork, List.any_nil]
  | file path access => rw [covers, hfiles, List.any_nil, Bool.and_false]
  | environment name => rw [covers, henvironment, List.any_nil]
  | command line => rw [covers, hcommands, List.any_nil]
  | key key access => rw [covers, hkeys, List.any_nil]

/-- Grants that contain others cover what those cover: nothing is left in the difference. -/
theorem covers_of_contains (hcontains : h.contains g = true) (hcovers : g.covers request = true) :
    h.covers request = true := by
  have hdifference := covers_difference g h request
  rw [covers_of_isEmpty hcontains, hcovers, Bool.or_false, Bool.or_true] at hdifference
  exact hdifference

end Grants

end PluginSandbox
