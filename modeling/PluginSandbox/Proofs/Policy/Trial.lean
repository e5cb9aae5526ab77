import PluginSandbox.Policy.Glob

/-!
# Decisions and the globs they try

A decision goes through the patterns of a category in the order of the rules and
stops at the first one that matches. So it is known which globs it tries: those up
to the first match. What becomes of a state that is carried along depends on these
globs only, if the state does not change the answers.

## Main definitions

* `upTo`: the members of a list up to the first one that passes a test.
* `Inquiry`: a request with the grants that are to cover it.
* `Inquiry.tried`: the globs that the decision about it tries.
* `GlobTrial.Faithful`: a way to try globs that answers as the globs do.
* `GlobTrial.oneShot`, `GlobTrial.logged`: a trial that keeps nothing, and one that
  keeps the globs it was given.

## Main statements

* `anyWith_eq`: a search with a state, as a search and a walk through the members
  that are tried.
* `GlobTrial.Faithful.globDecide_eq`: the same for a decision.
-/

namespace PluginSandbox

/-- The members up to the first one that passes, that one included. -/
def upTo {α : Type} (passes : α → Bool) : List α → List α
  | [] => []
  | a :: more => if passes a then [a] else a :: upTo passes more

theorem upTo_subset {α : Type} {passes : α → Bool} (members : List α) :
    upTo passes members ⊆ members := by
  induction members with
  | nil => exact List.Subset.refl []
  | cons a more ih =>
    rw [upTo]
    split
    · exact List.cons_subset_cons a (List.nil_subset more)
    · exact List.cons_subset_cons a ih

/-! ## Searches with a state -/

section Search

variable {α β σ : Type} {test : α → σ → Bool × σ}

theorem anyWith_append (front back : List α) (s : σ) :
    anyWith test (front ++ back) s =
      if (anyWith test front s).1 then anyWith test front s
      else anyWith test back (anyWith test front s).2 := by
  induction front generalizing s with
  | nil => rfl
  | cons a more ih =>
    rw [List.cons_append, anyWith, anyWith]
    cases hfirst : test a s with
    | mk passed s' =>
      cases passed with
      | true => rfl
      | false => exact ih s'

/-- A search in each of several lists is a search in all of them. -/
theorem anyWith_flatMap (parts : β → List α) (wholes : List β) (s : σ) :
    anyWith (fun whole => anyWith test (parts whole)) wholes s =
      anyWith test (wholes.flatMap parts) s := by
  induction wholes generalizing s with
  | nil => rfl
  | cons whole more ih =>
    rw [List.flatMap_cons, anyWith_append, anyWith]
    cases hfirst : anyWith test (parts whole) s with
    | mk passed s' =>
      cases passed with
      | true => rfl
      | false => exact ih s'

/-- Members that are passed over need not be there. -/
theorem anyWith_filter (keeps : α → Bool) (members : List α) (s : σ) :
    anyWith (fun a s => if keeps a then test a s else (false, s)) members s =
      anyWith test (members.filter keeps) s := by
  induction members generalizing s with
  | nil => rfl
  | cons a more ih =>
    rw [anyWith]
    by_cases hkeeps : keeps a = true
    · rw [List.filter_cons_of_pos hkeeps, if_pos hkeeps, anyWith]
      cases hfirst : test a s with
      | mk passed s' =>
        cases passed with
        | true => rfl
        | false => exact ih s'
    · rw [List.filter_cons_of_neg hkeeps, if_neg hkeeps]
      exact ih s

/-- If the state does not change the answers, a search finds what a search without a state finds,
and leads the state through the members that are tried. -/
theorem anyWith_eq {passes : α → Bool} {step : α → σ → σ} {inv : σ → Prop}
    (htest : ∀ a s, inv s → test a s = (passes a, step a s))
    (hinv : ∀ a s, inv s → inv (step a s)) (members : List α) {s : σ} (hs : inv s) :
    anyWith test members s =
      (members.any passes, (upTo passes members).foldl (fun s a => step a s) s) := by
  induction members generalizing s with
  | nil => rfl
  | cons a more ih =>
    rw [anyWith, htest a s hs, upTo, List.any_cons]
    cases hpasses : passes a with
    | true => rfl
    | false =>
      simp only [Bool.false_eq_true, if_false, List.foldl_cons, Bool.false_or]
      exact ih (hinv a s hs)

end Search

/-! ## The globs of a decision -/

/-- A request with the grants that are to cover it. -/
structure Inquiry where
  request : Request
  grants : Grants

/-- The globs that the decision tries, in order. A connection is decided without globs, and a
command pattern that stands for every command is not tried as one. -/
def Inquiry.tried (inquiry : Inquiry) : List String :=
  match inquiry.request with
  | .network _ => []
  | .file path access =>
    if climbs path then []
    else upTo (fun p => globMatches p path)
      ((rulesOf inquiry.grants.files).flatMap fun rule => rule.patterns access)
  | .environment name => upTo (fun p => globMatches p name) (rulesOf inquiry.grants.environment)
  | .command line =>
    (upTo (fun p => isAnyCommand p || globMatches p line) (rulesOf inquiry.grants.commands)).filter
      fun p => !isAnyCommand p
  | .key key access =>
    upTo (fun p => globMatches p key)
      (((rulesOf inquiry.grants.keys).filter fun rule => rule.access.permits access).flatMap
        KeyRule.keys)

namespace GlobTrial

/-- A trial that answers as the glob does while the state keeps to a condition, and that changes
the state without regard to the text. -/
structure Faithful {σ : Type} (trial : GlobTrial σ) (inv : σ → Prop) (step : String → σ → σ) :
    Prop where
  trial_eq : ∀ pattern text s, inv s →
    trial pattern text s = (globMatches pattern text, step pattern s)
  step_inv : ∀ pattern s, inv s → inv (step pattern s)

/-- The trial that reads every glob anew and keeps nothing. -/
def oneShot : GlobTrial Unit := fun pattern text s => (globMatches pattern text, s)

/-- The trial that reads every glob anew and keeps a list of those it was given. -/
def logged : GlobTrial (List String) := fun pattern text log =>
  (globMatches pattern text, log ++ [pattern])

theorem faithful_oneShot : Faithful oneShot (fun _ => True) (fun _ s => s) where
  trial_eq _ _ _ _ := rfl
  step_inv _ _ _ := trivial

theorem faithful_logged : Faithful logged (fun _ => True) (fun pattern log => log ++ [pattern]) where
  trial_eq _ _ _ _ := rfl
  step_inv _ _ _ := trivial

variable {σ : Type} {trial : GlobTrial σ} {inv : σ → Prop} {step : String → σ → σ}

/-- A decision by a faithful trial is the one by the globs themselves, and leads the state through
the globs that are tried. -/
theorem Faithful.globDecide_eq (h : Faithful trial inv step) (inquiry : Inquiry) {s : σ}
    (hs : inv s) :
    globDecide trial inquiry.request inquiry.grants s =
      (inquiry.grants.covers inquiry.request,
        inquiry.tried.foldl (fun s pattern => step pattern s) s) := by
  obtain ⟨request, grants⟩ := inquiry
  -- Files, variables and keys are one search each, once rules are cut into patterns; commands are
  -- not, since a pattern for every command passes without being tried.
  have hsearch (text : String) (patterns : List String) :
      anyWith (fun p => trial p text) patterns s =
        (patterns.any fun p => globMatches p text,
          (upTo (fun p => globMatches p text) patterns).foldl (fun s p => step p s) s) :=
    anyWith_eq (fun p s hs => h.trial_eq p text s hs) h.step_inv patterns hs
  cases request with
  | network target => rfl
  | file path access =>
    simp only [globDecide, Grants.covers, Inquiry.tried]
    cases hclimbs : climbs path with
    | true => rfl
    | false =>
      simp only [Bool.false_eq_true, if_false, Bool.not_false, Bool.true_and]
      rw [anyWith_flatMap, hsearch, List.any_flatMap]
      rfl
  | environment name => exact hsearch name _
  | command line =>
    simp only [globDecide, Grants.covers, Inquiry.tried]
    rw [List.foldl_filter]
    refine anyWith_eq (fun p s hs => ?_) (fun p s hs => ?_) _ hs
    · cases hany : isAnyCommand p with
      | true => rfl
      | false => exact h.trial_eq p line s hs
    · split
      · exact h.step_inv p s hs
      · exact hs
  | key key access =>
    simp only [globDecide, Grants.covers, Inquiry.tried]
    rw [anyWith_filter, anyWith_flatMap, hsearch, List.any_flatMap, List.any_filter]
    rfl

end GlobTrial

end PluginSandbox
