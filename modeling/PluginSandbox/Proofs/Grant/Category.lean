import PluginSandbox.Proofs.Grant.Inclusion

/-!
# Grants category by category

Union and difference treat the five categories alike. Here a category has a name, and
what is stated of grants is stated of the rules of every category: the operations act
on each by itself, and grants are equal, empty or contained in others if they are so
in each.

## Main definitions

* `Grants.Category`: the names of the categories.
* `Grants.category`: the rules of the category with a name.

## Main statements

* `Grants.category_merge`, `Grants.category_difference`: the operations.
* `Grants.eq_of_category`, `Grants.isEmpty_iff`, `Grants.contains_iff`: what is decided in
  each category.
-/

namespace PluginSandbox.Grants

/-- The names of the categories. -/
inductive Category where
  | network
  | files
  | environment
  | commands
  | keys

/-- What a rule of the category is. -/
def Category.Rule : Category → Type
  | network => NetworkRule
  | files => FileRule
  | environment | commands => String
  | keys => KeyRule

instance : (c : Category) → DecidableEq c.Rule
  | .network => inferInstanceAs (DecidableEq NetworkRule)
  | .files => inferInstanceAs (DecidableEq FileRule)
  | .environment | .commands => inferInstanceAs (DecidableEq String)
  | .keys => inferInstanceAs (DecidableEq KeyRule)

/-- The rules of the category with the name, unless it is absent. -/
def category (g : Grants) : (c : Category) → Option (List c.Rule)
  | .network => g.network
  | .files => g.files
  | .environment => g.environment
  | .commands => g.commands
  | .keys => g.keys

variable {g h : Grants}

theorem category_merge (g h : Grants) (c : Category) :
    (g.merge h).category c = mergeRules (g.category c) (h.category c) := by
  cases c <;> rfl

theorem category_difference (g h : Grants) (c : Category) :
    (g.difference h).category c = differenceRules (g.category c) (h.category c) := by
  cases c <;> rfl

theorem eq_of_category (heq : ∀ c, g.category c = h.category c) : g = h := by
  obtain ⟨network, files, environment, commands, keys⟩ := g
  obtain ⟨network', files', environment', commands', keys'⟩ := h
  obtain rfl : network = network' := heq .network
  obtain rfl : files = files' := heq .files
  obtain rfl : environment = environment' := heq .environment
  obtain rfl : commands = commands' := heq .commands
  obtain rfl : keys = keys' := heq .keys
  rfl

theorem isEmpty_iff : g.isEmpty = true ↔ ∀ c, rulesOf (g.category c) = [] := by
  simp only [isEmpty, Bool.and_eq_true, List.isEmpty_iff]
  constructor
  · rintro ⟨⟨⟨⟨hnetwork, hfiles⟩, henvironment⟩, hcommands⟩, hkeys⟩ c
    cases c with
    | network => exact hnetwork
    | files => exact hfiles
    | environment => exact henvironment
    | commands => exact hcommands
    | keys => exact hkeys
  · intro hempty
    exact ⟨⟨⟨⟨hempty .network, hempty .files⟩, hempty .environment⟩, hempty .commands⟩,
      hempty .keys⟩

theorem contains_iff :
    h.contains g = true ↔ ∀ c, rulesOf (g.category c) ⊆ rulesOf (h.category c) := by
  simp only [contains, isEmpty_iff, category_difference, ← List.isEmpty_iff,
    isEmpty_differenceRules_iff]

theorem contains_refl (g : Grants) : g.contains g = true :=
  contains_iff.2 fun _ => List.Subset.refl _

end PluginSandbox.Grants
