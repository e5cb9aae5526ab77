/-!
# Cutting texts at separators

## Main definitions

* `splitOnce`: the two parts around the first occurrence of a character.
* `stripPrefix?`, `stripSuffix?`: what is left once a given end is removed.
* `splitOnPair`: the two parts around the first doubled character.
* `afterLast`: the part behind the last character of a class.
-/

namespace PluginSandbox.Text

/-- The parts before and after the first `sep`; nothing if `sep` does not occur. -/
def splitOnce (sep : Char) : List Char → Option (List Char × List Char)
  | [] => none
  | c :: cs =>
    if c = sep then some ([], cs)
    else (splitOnce sep cs).map fun p => (c :: p.1, p.2)

/-- The parts before and after the first two neighbouring `sep`. -/
def splitOnPair (sep : Char) : List Char → Option (List Char × List Char)
  | [] => none
  | [_] => none
  | c :: d :: cs =>
    if c = sep ∧ d = sep then some ([], cs)
    else (splitOnPair sep (d :: cs)).map fun p => (c :: p.1, p.2)

/-- What follows `front` in a text that starts with it. -/
def stripPrefix? : (front : List Char) → List Char → Option (List Char)
  | [], cs => some cs
  | _ :: _, [] => none
  | p :: ps, c :: cs => if p = c then stripPrefix? ps cs else none

/-- What comes before `back` in a text that ends with it. -/
def stripSuffix? (back cs : List Char) : Option (List Char) :=
  (stripPrefix? back.reverse cs.reverse).map List.reverse

/-- The part behind the last character of the class, or the whole text if there is none. -/
def afterLast (p : Char → Bool) (cs : List Char) : List Char :=
  (cs.reverse.takeWhile fun c => !p c).reverse

/-- The text contains `part` as neighbouring characters. -/
def hasInfix (part : List Char) : List Char → Bool
  | [] => part.isEmpty
  | c :: cs => part.isPrefixOf (c :: cs) || hasInfix part cs

theorem splitOnce_eq_some {sep : Char} {cs a b : List Char} :
    splitOnce sep cs = some (a, b) ↔ cs = a ++ sep :: b ∧ sep ∉ a := by
  induction cs generalizing a b with
  | nil => simp [splitOnce]
  | cons c cs ih =>
    simp only [splitOnce]
    split
    case isTrue h =>
      subst h
      constructor
      · rintro ⟨⟩
        simp
      · rintro ⟨h, hn⟩
        cases a with
        | nil => simp_all
        | cons x xs => simp_all
    case isFalse h =>
      constructor
      · intro hm
        simp only [Option.map_eq_some_iff, Prod.mk.injEq] at hm
        obtain ⟨⟨x, y⟩, hxy, rfl, rfl⟩ := hm
        obtain ⟨rfl, hn⟩ := ih.1 hxy
        simp only [List.cons_append, List.mem_cons, not_or, true_and]
        exact ⟨fun e => h e.symm, hn⟩
      · rintro ⟨he, hn⟩
        cases a with
        | nil => simp_all
        | cons x xs =>
          simp only [List.cons_append, List.cons.injEq] at he
          obtain ⟨rfl, rfl⟩ := he
          simp only [List.mem_cons, not_or] at hn
          rw [ih.2 ⟨rfl, hn.2⟩]
          rfl

theorem splitOnce_eq_none {sep : Char} {cs : List Char} :
    splitOnce sep cs = none ↔ sep ∉ cs := by
  induction cs with
  | nil => simp [splitOnce]
  | cons c cs ih =>
    simp only [splitOnce, List.mem_cons, not_or]
    split
    case isTrue h => simp [h]
    case isFalse h => simp [ih, Ne.symm h]

theorem stripPrefix?_eq_some {front cs rest : List Char} :
    stripPrefix? front cs = some rest ↔ cs = front ++ rest := by
  induction front generalizing cs with
  | nil => simp [stripPrefix?, eq_comm]
  | cons p ps ih =>
    cases cs with
    | nil => simp [stripPrefix?]
    | cons c cs =>
      simp only [stripPrefix?, List.cons_append, List.cons.injEq]
      split
      case isTrue h => simp [ih, h]
      case isFalse h => simp [Ne.symm h]

theorem stripPrefix?_eq_none {front cs : List Char} :
    stripPrefix? front cs = none ↔ ¬front <+: cs := by
  rw [Option.eq_none_iff_forall_ne_some]
  constructor
  · rintro h ⟨rest, hrest⟩
    exact h rest (stripPrefix?_eq_some.2 hrest.symm)
  · intro h rest hrest
    exact h ⟨rest, (stripPrefix?_eq_some.1 hrest).symm⟩

theorem stripSuffix?_eq_some {back cs rest : List Char} :
    stripSuffix? back cs = some rest ↔ cs = rest ++ back := by
  simp only [stripSuffix?, Option.map_eq_some_iff, stripPrefix?_eq_some]
  constructor
  · rintro ⟨a, h, rfl⟩
    have := congrArg List.reverse h
    simpa using this
  · rintro rfl
    exact ⟨rest.reverse, by simp, by simp⟩

theorem afterLast_eq_self {p : Char → Bool} {cs : List Char} (h : ∀ c ∈ cs, p c = false) :
    afterLast p cs = cs := by
  have hreverse : ∀ c ∈ cs.reverse, (!p c) = true := by simpa using h
  have htake : (cs.reverse ++ []).takeWhile (fun c => !p c) = cs.reverse ++ [] :=
    List.takeWhile_append_of_pos hreverse
  rw [List.append_nil] at htake
  rw [afterLast, htake, List.reverse_reverse]

theorem afterLast_append_cons {p : Char → Bool} {c : Char} {back : List Char} (hc : p c = true)
    (hback : ∀ d ∈ back, p d = false) (front : List Char) :
    afterLast p (front ++ c :: back) = back := by
  have hreverse : (front ++ c :: back).reverse = back.reverse ++ c :: front.reverse := by simp
  rw [afterLast, hreverse, List.takeWhile_append_of_pos (by simpa using hback),
    List.takeWhile_cons_of_neg (by simp [hc]), List.append_nil, List.reverse_reverse]

end PluginSandbox.Text
