import PluginSandbox.Proofs.Grant.Category
import PluginSandbox.Proofs.Grant.Distinct

/-!
# The union of grants

A category of a union is there if it is in one of the parts, and lists each rule once:
those of the first part in the order in which they first occur there, and behind them
the new ones of the second part in the order in which they first occur there. So the
union is associative, adding a part again changes nothing, and the order of the parts
matters for the order of the rules only.

## Main definitions

* `IsUnion`: what a union of two categories is.

## Main statements

* `isUnion_mergeRules`: the union of categories is one.
* `mergeRules_assoc`, `mergeRules_mergeRules_self`, `mergeRules_self_iff`: its laws.
* `Grants.merge_laws`: the union of grants.
-/

namespace PluginSandbox

section Rules

variable {α : Type} [DecidableEq α] {a b : Option (List α)}

/-- What the union of two categories is. -/
structure IsUnion (a b merged : Option (List α)) : Prop where
  /-- It is absent only if both categories are. -/
  absent : merged = none ↔ a = none ∧ b = none
  /-- No rule occurs twice. -/
  once : (rulesOf merged).Nodup
  /-- The rules are those of both categories. -/
  members : ∀ x, x ∈ rulesOf merged ↔ x ∈ rulesOf a ∨ x ∈ rulesOf b
  /-- The rules of the first category stand in front, then the new ones of the second, each in the
  order in which they first occur in their category. -/
  order : ∃ front back, rulesOf merged = front ++ back ∧
    (∀ x, x ∈ front ↔ x ∈ rulesOf a) ∧
    (front.Pairwise fun x y => (rulesOf a).idxOf x < (rulesOf a).idxOf y) ∧
    (∀ x, x ∈ back ↔ x ∈ rulesOf b ∧ x ∉ rulesOf a) ∧
    (back.Pairwise fun x y => (rulesOf b).idxOf x < (rulesOf b).idxOf y)

/-- A category is known from whether it is there and from its rules. -/
theorem eq_of_rulesOf_eq {α : Type} {a b : Option (List α)} (hnone : a = none ↔ b = none)
    (hrules : rulesOf a = rulesOf b) : a = b := by
  cases a with
  | none => exact (hnone.1 rfl).symm
  | some xs =>
    cases b with
    | none => exact hnone.2 rfl
    | some ys => exact congrArg some hrules

theorem mergeRules_eq_none_iff : mergeRules a b = none ↔ a = none ∧ b = none := by
  cases a <;> cases b <;> simp [mergeRules]

theorem rulesOf_mergeRules (a b : Option (List α)) :
    rulesOf (mergeRules a b) = distinct (rulesOf a ++ rulesOf b) := by
  cases a <;> cases b <;> rfl

theorem isUnion_mergeRules (a b : Option (List α)) : IsUnion a b (mergeRules a b) where
  absent := mergeRules_eq_none_iff
  once := by
    rw [rulesOf_mergeRules]
    exact nodup_distinct _
  members _ := mem_rulesOf_mergeRules
  order := by
    have hrules := (rulesOf_mergeRules a b).trans (distinct_append _ _)
    refine ⟨_, _, hrules, fun _ => mem_distinct, pairwise_idxOf_distinct _, ?_,
      (pairwise_idxOf_distinct _).filter _⟩
    intro x
    rw [List.mem_filter, mem_distinct, decide_eq_true_iff]

theorem mergeRules_assoc (a b c : Option (List α)) :
    mergeRules (mergeRules a b) c = mergeRules a (mergeRules b c) := by
  apply eq_of_rulesOf_eq
  · simp only [mergeRules_eq_none_iff, and_assoc]
  · simp only [rulesOf_mergeRules, distinct_distinct_append, distinct_append_distinct,
      List.append_assoc]

/-- Adding a category again changes nothing. -/
theorem mergeRules_mergeRules_self (a b : Option (List α)) :
    mergeRules (mergeRules a b) b = mergeRules a b := by
  apply eq_of_rulesOf_eq
  · simp only [mergeRules_eq_none_iff, and_assoc, and_self]
  · simp only [rulesOf_mergeRules, distinct_distinct_append]
    exact distinct_append_of_subset (List.subset_append_right _ _)

/-- The union of a category with itself is that category if it lists no rule twice. -/
theorem mergeRules_self_iff : mergeRules a a = a ↔ (rulesOf a).Nodup := by
  have hself : rulesOf (mergeRules a a) = distinct (rulesOf a) := by
    rw [rulesOf_mergeRules, distinct_append_of_subset (List.Subset.refl _)]
  rw [← distinct_eq_self_iff, ← hself]
  constructor
  · exact fun h => congrArg rulesOf h
  · exact eq_of_rulesOf_eq (by rw [mergeRules_eq_none_iff, and_self])

end Rules

namespace Grants

variable {a b k : Grants}

theorem merge_assoc (a b c : Grants) : (a.merge b).merge c = a.merge (b.merge c) := by
  refine eq_of_category fun category => ?_
  simp only [category_merge, mergeRules_assoc]

theorem merge_merge_self (a b : Grants) : (a.merge b).merge b = a.merge b := by
  refine eq_of_category fun category => ?_
  simp only [category_merge, mergeRules_mergeRules_self]

theorem merge_self_iff : a.merge a = a ↔ ∀ c, (rulesOf (a.category c)).Nodup := by
  constructor
  · intro hself c
    rw [← mergeRules_self_iff, ← category_merge, hself]
  · intro hnodup
    refine eq_of_category fun c => ?_
    rw [category_merge, mergeRules_self_iff]
    exact hnodup c

theorem isEmpty_merge_iff : (a.merge b).isEmpty = true ↔ a.isEmpty = true ∧ b.isEmpty = true := by
  simp only [isEmpty_iff, category_merge, rulesOf_mergeRules, distinct_eq_nil,
    List.append_eq_nil_iff, forall_and]

/-- Grants contain a union if they contain both parts. -/
theorem contains_merge_iff :
    k.contains (a.merge b) = true ↔ k.contains a = true ∧ k.contains b = true := by
  simp only [contains_iff, category_merge, ← forall_and]
  refine forall_congr' fun c => ⟨fun hmerged => ⟨?_, ?_⟩, ?_⟩
  · exact List.Subset.trans (subset_mergeRules_left _ _) hmerged
  · exact List.Subset.trans (subset_mergeRules_right _ _) hmerged
  · rintro ⟨ha, hb⟩
    exact forall_mem_mergeRules (fun _ hx => ha hx) (fun _ hx => hb hx)

/-- A union contains its parts, so it contains their union in the other order. -/
theorem contains_merge_comm (a b : Grants) : (a.merge b).contains (b.merge a) = true := by
  obtain ⟨ha, hb⟩ := contains_merge_iff.1 (contains_refl (a.merge b))
  exact contains_merge_iff.2 ⟨hb, ha⟩

/-- **Merging is an ordered union.** It is associative, and a part that was added before adds
nothing. Each category lists the rules of both parts once, in order. Grants merged with themselves
are the same exactly if they list no rule twice, a union is empty exactly if both parts are, and it
is the least that contains both, whichever of them comes first. -/
theorem merge_laws (a b c k : Grants) :
    (a.merge b).merge c = a.merge (b.merge c) ∧
    (a.merge b).merge b = a.merge b ∧
    (∀ category,
      IsUnion (a.category category) (b.category category) ((a.merge b).category category)) ∧
    (a.merge a = a ↔ ∀ category, (rulesOf (a.category category)).Nodup) ∧
    ((a.merge b).isEmpty = true ↔ a.isEmpty = true ∧ b.isEmpty = true) ∧
    (k.contains (a.merge b) = true ↔ k.contains a = true ∧ k.contains b = true) ∧
    (a.merge b).contains (b.merge a) = true ∧ (b.merge a).contains (a.merge b) = true := by
  refine ⟨merge_assoc a b c, merge_merge_self a b, fun category => ?_, merge_self_iff,
    isEmpty_merge_iff, contains_merge_iff, contains_merge_comm a b, contains_merge_comm b a⟩
  rw [category_merge]
  exact isUnion_mergeRules _ _

end Grants

end PluginSandbox
