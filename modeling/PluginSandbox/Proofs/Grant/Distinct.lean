import Mathlib.Data.List.Perm.Subperm
import PluginSandbox.Grant.Algebra

/-!
# Lists without repetitions

What remains of a list when later repetitions are removed has the same members,
each of them once and in the order of their first occurrences. Its length is the
number of different members. Of two lists one behind the other, what remains is that
of the first, and then what is new in the second.

## Main statements

* `nodup_distinct`: no member is there twice.
* `pairwise_idxOf_distinct`: the members are in the order of their first occurrences.
* `length_eq_length_distinct`: every list without repetitions that has the same
  members is as long.
* `length_distinct_le`: a list has at most as many different members as one that
  includes it.
* `distinct_append`: what remains of two lists.
-/

namespace PluginSandbox

variable {α : Type} [DecidableEq α] {xs ys : List α}

theorem nodup_distinct (xs : List α) : (distinct xs).Nodup := by
  induction xs with
  | nil => exact List.nodup_nil
  | cons x xs ih =>
    rw [distinct, List.nodup_cons]
    refine ⟨?_, ih.sublist List.filter_sublist⟩
    intro hmem
    exact of_decide_eq_true (List.mem_filter.1 hmem).2 rfl

theorem length_eq_length_distinct (hnodup : xs.Nodup) (hmem : ∀ x, x ∈ xs ↔ x ∈ ys) :
    xs.length = (distinct ys).length := by
  refine ((List.perm_ext_iff_of_nodup hnodup (nodup_distinct ys)).2 fun x => ?_).length_eq
  rw [hmem, mem_distinct]

theorem length_distinct_le (h : xs ⊆ ys) : (distinct xs).length ≤ (distinct ys).length := by
  refine (List.subperm_of_subset (nodup_distinct xs) fun x hx => ?_).length_le
  exact mem_distinct.2 (h (mem_distinct.1 hx))

/-! ## The order of what remains -/

/-- A member that first occurs in front of another one remains in front of it. -/
theorem pairwise_idxOf_distinct (xs : List α) :
    (distinct xs).Pairwise fun x y => xs.idxOf x < xs.idxOf y := by
  induction xs with
  | nil => exact List.Pairwise.nil
  | cons x xs ih =>
    rw [distinct, List.pairwise_cons]
    have hne {y : α} (hy : y ∈ (distinct xs).filter fun y => decide (y ≠ x)) : x ≠ y := by
      intro heq
      exact of_decide_eq_true (List.mem_filter.1 hy).2 heq.symm
    constructor
    · intro y hy
      rw [List.idxOf_cons_self, List.idxOf_cons_ne _ (hne hy)]
      exact Nat.succ_pos _
    · refine (ih.sublist List.filter_sublist).imp_of_mem fun hy hz hlt => ?_
      rw [List.idxOf_cons_ne _ (hne hy), List.idxOf_cons_ne _ (hne hz)]
      exact Nat.succ_lt_succ hlt

theorem distinct_of_nodup (h : xs.Nodup) : distinct xs = xs := by
  induction xs with
  | nil => rfl
  | cons x xs ih =>
    obtain ⟨hx, hxs⟩ := List.nodup_cons.1 h
    rw [distinct, ih hxs, List.filter_eq_self.2]
    intro y hy
    exact decide_eq_true fun heq => hx (heq ▸ hy)

theorem distinct_eq_self_iff : distinct xs = xs ↔ xs.Nodup :=
  ⟨fun h => h ▸ nodup_distinct xs, distinct_of_nodup⟩

/-! ## Parts of lists -/

theorem filter_distinct (p : α → Bool) (xs : List α) :
    (distinct xs).filter p = distinct (xs.filter p) := by
  induction xs with
  | nil => rfl
  | cons x xs ih =>
    by_cases hx : p x = true
    · rw [List.filter_cons_of_pos hx, distinct, distinct, List.filter_cons_of_pos hx, ← ih,
        List.filter_filter, List.filter_filter]
      simp only [Bool.and_comm]
    · -- Where `x` is left out, its repetitions are left out as well.
      have hsame : ∀ y ∈ distinct xs, (p y && decide (y ≠ x)) = p y := by
        intro y _
        by_cases hy : y = x
        · simp [hy, hx]
        · simp [hy]
      rw [List.filter_cons_of_neg hx, distinct, List.filter_cons_of_neg hx, ← ih,
        List.filter_filter, List.filter_congr hsame]

/-- What remains of a list, and then what is new in another one. -/
theorem distinct_append (xs ys : List α) :
    distinct (xs ++ ys) = distinct xs ++ (distinct ys).filter fun y => decide (y ∉ xs) := by
  induction xs with
  | nil => simp [distinct]
  | cons x xs ih =>
    rw [List.cons_append, distinct, distinct, ih, List.filter_append, List.filter_filter,
      List.cons_append]
    congr 3
    funext y
    simp

theorem distinct_append_of_subset (h : ys ⊆ xs) : distinct (xs ++ ys) = distinct xs := by
  rw [distinct_append, List.filter_eq_nil_iff.2, List.append_nil]
  intro y hy hnew
  exact of_decide_eq_true hnew (h (mem_distinct.1 hy))

/-- Members of the first list need not be looked for in the second. -/
theorem distinct_append_filter (xs ys : List α) :
    distinct (xs ++ ys.filter fun y => decide (y ∉ xs)) = distinct (xs ++ ys) := by
  rw [distinct_append, distinct_append, ← filter_distinct, List.filter_filter]
  simp only [Bool.and_self]

@[simp] theorem distinct_distinct_append (xs ys : List α) :
    distinct (distinct xs ++ ys) = distinct (xs ++ ys) := by
  rw [distinct_append, distinct_append, distinct_of_nodup (nodup_distinct xs)]
  simp only [mem_distinct]

@[simp] theorem distinct_append_distinct (xs ys : List α) :
    distinct (xs ++ distinct ys) = distinct (xs ++ ys) := by
  rw [distinct_append, distinct_append, distinct_of_nodup (nodup_distinct ys)]

end PluginSandbox
