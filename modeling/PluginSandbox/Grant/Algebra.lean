import PluginSandbox.Grant.Basic

/-!
# Union, difference and inclusion of grants

Grants are compared rule by rule as they are written: a wildcard does not
include what it matches. A union keeps the order of the rules, those of the
first operand in front, and each rule once. A difference leaves categories out
that have no rule left.

## Main definitions

* `distinct`: a list with later repetitions removed.
* `Grants.merge`: the union.
* `Grants.difference`: the rules of one that the other lacks.
* `Grants.contains`: every rule of one is a rule of the other.
-/

namespace PluginSandbox

/-- A list with the first of several equal members kept. -/
def distinct {α : Type} [DecidableEq α] : List α → List α
  | [] => []
  | x :: xs => x :: (distinct xs).filter fun y => decide (y ≠ x)

@[simp] theorem mem_distinct {α : Type} [DecidableEq α] {x : α} {xs : List α} :
    x ∈ distinct xs ↔ x ∈ xs := by
  induction xs with
  | nil => simp [distinct]
  | cons y ys ih =>
    by_cases h : x = y <;> simp [distinct, ih, h]

@[simp] theorem distinct_eq_nil {α : Type} [DecidableEq α] {xs : List α} :
    distinct xs = [] ↔ xs = [] := by
  cases xs <;> simp [distinct]

/-- The union of two categories; absent only if both are. -/
def mergeRules {α : Type} [DecidableEq α] (a b : Option (List α)) : Option (List α) :=
  match a, b with
  | none, none => none
  | _, _ => some (distinct (rulesOf a ++ rulesOf b))

/-- The rules of one category that another lacks; absent if there is none. -/
def differenceRules {α : Type} [DecidableEq α] (a b : Option (List α)) : Option (List α) :=
  let left := (rulesOf a).filter fun x => decide (x ∉ rulesOf b)
  if left = [] then none else some left

@[simp] theorem mem_rulesOf_mergeRules {α : Type} [DecidableEq α] {a b : Option (List α)} {x : α} :
    x ∈ rulesOf (mergeRules a b) ↔ x ∈ rulesOf a ∨ x ∈ rulesOf b := by
  cases a <;> cases b <;> simp [mergeRules]

@[simp] theorem rulesOf_differenceRules {α : Type} [DecidableEq α] (a b : Option (List α)) :
    rulesOf (differenceRules a b) = (rulesOf a).filter fun x => decide (x ∉ rulesOf b) := by
  by_cases h : ((rulesOf a).filter fun x => decide (x ∉ rulesOf b)) = []
  · simp only [differenceRules, h, if_true, rulesOf_none]
  · simp only [differenceRules, h, if_false, rulesOf_some]

namespace Grants

/-- The union of two grants. -/
def merge (a b : Grants) : Grants where
  network := mergeRules a.network b.network
  files := mergeRules a.files b.files
  environment := mergeRules a.environment b.environment
  commands := mergeRules a.commands b.commands
  keys := mergeRules a.keys b.keys

/-- The rules of `a` that `b` lacks. -/
def difference (a b : Grants) : Grants where
  network := differenceRules a.network b.network
  files := differenceRules a.files b.files
  environment := differenceRules a.environment b.environment
  commands := differenceRules a.commands b.commands
  keys := differenceRules a.keys b.keys

/-- Every rule of `b` is a rule of `a`. -/
def contains (a b : Grants) : Bool := (b.difference a).isEmpty

end Grants

end PluginSandbox
