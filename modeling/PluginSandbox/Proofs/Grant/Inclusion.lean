import PluginSandbox.Grant.Algebra

/-!
# Grants within others

Grants are within others if each of their rules is one of the others, whatever the order
of the rules and however often each is listed. This is what the difference of grants
decides, and both parts of a union are within it.

## Main definitions

* `Grants.Within`: every rule is one of the other grants.

## Main statements

* `Grants.contains_iff_within`: the difference decides it.
* `Grants.within_merge_left`, `Grants.within_merge_right`: the parts of a union.
-/

namespace PluginSandbox

/-- Every rule of `g` is a rule of `h`. -/
structure Grants.Within (g h : Grants) : Prop where
  network : rulesOf g.network ⊆ rulesOf h.network
  files : rulesOf g.files ⊆ rulesOf h.files
  environment : rulesOf g.environment ⊆ rulesOf h.environment
  commands : rulesOf g.commands ⊆ rulesOf h.commands
  keys : rulesOf g.keys ⊆ rulesOf h.keys

/-- Nothing is left of a category that is within another one. -/
theorem isEmpty_differenceRules_iff {α : Type} [DecidableEq α] {a b : Option (List α)} :
    (rulesOf (differenceRules a b)).isEmpty = true ↔ rulesOf a ⊆ rulesOf b := by
  rw [List.isEmpty_iff, rulesOf_differenceRules, List.filter_eq_nil_iff]
  constructor
  · intro h x hx
    exact Decidable.byContradiction fun hmissing => h x hx (decide_eq_true hmissing)
  · intro h x hx hmissing
    exact of_decide_eq_true hmissing (h hx)

theorem subset_mergeRules_left {α : Type} [DecidableEq α] (a b : Option (List α)) :
    rulesOf a ⊆ rulesOf (mergeRules a b) := by
  intro x hx
  exact mem_rulesOf_mergeRules.2 (Or.inl hx)

theorem subset_mergeRules_right {α : Type} [DecidableEq α] (a b : Option (List α)) :
    rulesOf b ⊆ rulesOf (mergeRules a b) := by
  intro x hx
  exact mem_rulesOf_mergeRules.2 (Or.inr hx)

/-- What holds of the rules of both categories holds of those of their union. -/
theorem forall_mem_mergeRules {α : Type} [DecidableEq α] {p : α → Prop} {a b : Option (List α)}
    (ha : ∀ x ∈ rulesOf a, p x) (hb : ∀ x ∈ rulesOf b, p x) :
    ∀ x ∈ rulesOf (mergeRules a b), p x := by
  intro x hx
  rcases mem_rulesOf_mergeRules.1 hx with hx | hx
  · exact ha x hx
  · exact hb x hx

namespace Grants

variable {g h : Grants}

theorem within_merge_left (g h : Grants) : g.Within (g.merge h) where
  network := subset_mergeRules_left g.network h.network
  files := subset_mergeRules_left g.files h.files
  environment := subset_mergeRules_left g.environment h.environment
  commands := subset_mergeRules_left g.commands h.commands
  keys := subset_mergeRules_left g.keys h.keys

theorem within_merge_right (g h : Grants) : h.Within (g.merge h) where
  network := subset_mergeRules_right g.network h.network
  files := subset_mergeRules_right g.files h.files
  environment := subset_mergeRules_right g.environment h.environment
  commands := subset_mergeRules_right g.commands h.commands
  keys := subset_mergeRules_right g.keys h.keys

theorem contains_iff_within : h.contains g = true ↔ g.Within h := by
  simp only [contains, isEmpty, difference, Bool.and_eq_true, isEmpty_differenceRules_iff]
  constructor
  · rintro ⟨⟨⟨⟨hnetwork, hfiles⟩, henvironment⟩, hcommands⟩, hkeys⟩
    exact ⟨hnetwork, hfiles, henvironment, hcommands, hkeys⟩
  · intro h
    exact ⟨⟨⟨⟨h.network, h.files⟩, h.environment⟩, h.commands⟩, h.keys⟩

end Grants

end PluginSandbox
