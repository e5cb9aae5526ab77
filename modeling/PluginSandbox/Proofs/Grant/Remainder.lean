import PluginSandbox.Proofs.Grant.Union

/-!
# The difference of grants

A difference holds the rules that are missing from other grants, as often and in the
order as they are listed, and no category without rules. It is the least that has to be
added to the other grants for them to contain the first ones, and adding it gives the
rules, in the order, that adding all of the first ones gives.

## Main definitions

* `IsRemainder`: what the difference of two categories is.

## Main statements

* `isRemainder_differenceRules`: the difference of categories is one.
* `differenceRules_subset_iff`: what contains a difference.
* `Grants.difference_residual`: the difference of grants.
-/

namespace PluginSandbox

section Rules

variable {α : Type} [DecidableEq α] {a b c : Option (List α)}

/-- What is left of a category without the rules of another one. -/
structure IsRemainder (all taken left : Option (List α)) : Prop where
  /-- The rules are some of the category, in their order. -/
  sublist : List.Sublist (rulesOf left) (rulesOf all)
  /-- No rule of the other category is among them. -/
  disjoint : ∀ x ∈ rulesOf left, x ∉ rulesOf taken
  /-- The others occur as often as before. -/
  count : ∀ x, x ∉ rulesOf taken → (rulesOf left).count x = (rulesOf all).count x
  /-- A category without rules is absent. -/
  shown : left ≠ some []

theorem isRemainder_differenceRules (a b : Option (List α)) :
    IsRemainder a b (differenceRules a b) where
  sublist := by
    rw [rulesOf_differenceRules]
    exact List.filter_sublist
  disjoint x hx := by
    rw [rulesOf_differenceRules, List.mem_filter] at hx
    exact of_decide_eq_true hx.2
  count x hx := by
    rw [rulesOf_differenceRules]
    exact List.count_filter (decide_eq_true hx)
  shown := by
    rw [differenceRules]
    split
    case isTrue => simp
    case isFalse hleft => exact fun h => hleft (Option.some.inj h)

/-- A difference is within the categories that have to be added for a union to include all. -/
theorem differenceRules_subset_iff :
    rulesOf (differenceRules a b) ⊆ rulesOf c ↔ rulesOf a ⊆ rulesOf (mergeRules b c) := by
  rw [rulesOf_differenceRules]
  constructor
  · intro hleft x hx
    rw [mem_rulesOf_mergeRules]
    by_cases hb : x ∈ rulesOf b
    · exact Or.inl hb
    · exact Or.inr (hleft (List.mem_filter.2 ⟨hx, decide_eq_true hb⟩))
  · intro hall x hx
    obtain ⟨ha, hb⟩ := List.mem_filter.1 hx
    exact (mem_rulesOf_mergeRules.1 (hall ha)).resolve_left (of_decide_eq_true hb)

/-- Adding what is missing gives the rules that adding everything gives. -/
theorem rulesOf_mergeRules_differenceRules (a b : Option (List α)) :
    rulesOf (mergeRules b (differenceRules a b)) = rulesOf (mergeRules b a) := by
  rw [rulesOf_mergeRules, rulesOf_mergeRules, rulesOf_differenceRules, distinct_append_filter]

end Rules

namespace Grants

variable {g h k : Grants}

theorem contains_trans (hgh : g.contains h = true) (hhk : h.contains k = true) :
    g.contains k = true := by
  rw [contains_iff] at hgh hhk ⊢
  exact fun c => List.Subset.trans (hhk c) (hgh c)

/-- Grants contain a difference exactly if they make up what the others lack. -/
theorem contains_difference_iff :
    k.contains (g.difference h) = true ↔ (h.merge k).contains g = true := by
  simp only [contains_iff, category_difference, category_merge, differenceRules_subset_iff]

/-- **The difference is the residual of the union.** It is within the grants that have to be merged
with the ones taken away for them to contain all, containment being reflexive and transitive. Each
category of it is what is left of that category, and merging it gives each category the rules that
merging all would give it, in the same order. -/
theorem difference_residual (g h k : Grants) :
    (k.contains (g.difference h) = true ↔ (h.merge k).contains g = true) ∧
    g.contains g = true ∧
    (g.contains h = true → h.contains k = true → g.contains k = true) ∧
    (∀ category,
      IsRemainder (g.category category) (h.category category)
        ((g.difference h).category category)) ∧
    ∀ category,
      rulesOf ((h.merge (g.difference h)).category category) =
        rulesOf ((h.merge g).category category) := by
  refine ⟨contains_difference_iff, contains_refl g, contains_trans, fun category => ?_,
    fun category => ?_⟩
  · rw [category_difference]
    exact isRemainder_differenceRules _ _
  · rw [category_merge, category_merge, category_difference, rulesOf_mergeRules_differenceRules]

/-- Repeated commands of which one is granted, and an empty category that the other grants lack. -/
theorem difference_residual_repeated :
    let g : Grants := { commands := some ["ls", "cat", "ls", "rm"], environment := some [] }
    let h : Grants := { commands := some ["cat", "git", "cat"] }
    let k : Grants := { commands := some ["git"] }
    (g.difference h = { commands := some ["ls", "ls", "rm"] } ∧
      (h.merge (g.difference h)).commands = some ["cat", "git", "ls", "rm"]) ∧
    (g.merge h).contains h = true ∧ h.contains k = true ∧ (g.merge h).contains k = true := by
  intro g h k
  have hgh : (g.merge h).contains h = true := by decide
  have hhk : h.contains k = true := by decide
  exact ⟨by decide, hgh, hhk, (difference_residual (g.merge h) h k).2.2.1 hgh hhk⟩

end Grants

end PluginSandbox
