import Mathlib.Data.List.Forall2
import Mathlib.Data.List.Infix
import PluginSandbox.Proofs.Pattern.Glob
import PluginSandbox.Proofs.Text.Fields

/-!
# Globs without segments `**`

A glob without classes and without a segment `**` is read character by character: `*`
stands for a run within a segment, `?` for one character of a segment, and everything else
for itself. So only a `/` stands for a `/`, whatever the runs are chosen to be. The glob and
a text that it matches have the same number of them, and the glob matches the text exactly
if its segments match those of the text one by one.

## Main definitions

* `Glob.IsSimple`: a pattern without classes and without `**`.
* `Glob.StandsFor`: what such a pattern stands for, character by character.

## Main statements

* `Glob.StandsFor.count_eq`: a pattern and what it stands for have as many `/`.
* `Glob.standsFor_iff_segments`: a pattern stands for a text segment by segment.
* `globMatches_iff_standsFor`: the matching of a simple pattern.
* `globMatches_iff_segments`: the same by segments.
* `globMatches_iff_eq`: a pattern without wildcards.
-/

namespace PluginSandbox

open Text

namespace Glob

/-- The pattern has no class and no `**` in it. -/
structure IsSimple (pattern : List Char) : Prop where
  noClass : '[' ∉ pattern
  noPath : ¬['*', '*'] <:+: pattern

instance (pattern : List Char) : Decidable (IsSimple pattern) :=
  decidable_of_iff ('[' ∉ pattern ∧ ¬['*', '*'] <:+: pattern)
    ⟨fun h => ⟨h.1, h.2⟩, fun h => ⟨h.noClass, h.noPath⟩⟩

/-- A pattern of literal characters, `?` and `*` stands for a text. -/
inductive StandsFor : (pattern text : List Char) → Prop where
  /-- Nothing stands for nothing. -/
  | done : StandsFor [] []
  /-- A star stands for a run within a segment. -/
  | run {pattern text front : List Char} (hfront : '/' ∉ front) (h : StandsFor pattern text) :
    StandsFor ('*' :: pattern) (front ++ text)
  /-- A question mark stands for one character of a segment. -/
  | mark {pattern text : List Char} {c : Char} (hc : c ≠ '/') (h : StandsFor pattern text) :
    StandsFor ('?' :: pattern) (c :: text)
  /-- Any other character stands for itself. -/
  | itself {pattern text : List Char} {c : Char} (hstar : c ≠ '*') (hmark : c ≠ '?')
    (h : StandsFor pattern text) : StandsFor (c :: pattern) (c :: text)

variable {pattern text : List Char}

/-! ## Simple patterns -/

theorem IsSimple.of_isInfix {part : List Char} (h : IsSimple pattern) (hpart : part <:+: pattern) :
    IsSimple part where
  noClass hmem := h.noClass (hpart.subset hmem)
  noPath hstars := h.noPath (hstars.trans hpart)

/-- The token of a character in a simple pattern. -/
def wildcard (c : Char) : Token :=
  if c = '*' then .anyText else if c = '?' then .anyChar else .literal c

/-- A simple pattern is read character by character, wherever it stands. -/
theorem readFrom_eq (h : IsSimple pattern) (fresh : Bool) :
    readFrom (.tokens fresh) pattern = some (pattern.map wildcard) := by
  induction pattern generalizing fresh with
  | nil => rfl
  | cons c cs ih =>
    have hcs : IsSimple cs := h.of_isInfix (List.suffix_cons c cs).isInfix
    have hclass : c ≠ '[' := by
      rintro rfl
      exact h.noClass List.mem_cons_self
    by_cases hstar : c = '*'
    · subst hstar
      -- What follows is no second star, so this one is read by itself.
      have hread : readFrom (.tokens fresh) ('*' :: cs) =
          (readFrom (.tokens false) cs).map (.anyText :: ·) := by
        cases cs with
        | nil => rfl
        | cons d ds =>
          have hd : d ≠ '*' := by
            rintro rfl
            exact h.noPath ⟨[], ds, rfl⟩
          simp [readFrom, hd]
      rw [hread, ih hcs]
      rfl
    · by_cases hmark : c = '?'
      · subst hmark
        have hread : readFrom (.tokens fresh) ('?' :: cs) =
            (readFrom (.tokens false) cs).map (.anyChar :: ·) := by simp [readFrom]
        rw [hread, ih hcs]
        rfl
      · rw [readFrom_cons ⟨hstar, hmark, hclass⟩, ih hcs]
        simp [wildcard, hstar, hmark]

/-- A run within the segment in which a text starts, and what is behind it. -/
theorem withinSegment_iff {k : List Char → Bool} : withinSegment k text = true ↔
    ∃ front back, text = front ++ back ∧ '/' ∉ front ∧ k back = true := by
  induction text with
  | nil => simp [withinSegment]
  | cons c cs ih =>
    rw [withinSegment, Bool.or_eq_true, Bool.and_eq_true, bne_iff_ne, ih]
    constructor
    · rintro (hk | ⟨hc, front, back, rfl, hfront, hk⟩)
      · exact ⟨[], c :: cs, rfl, List.not_mem_nil, hk⟩
      · exact ⟨c :: front, back, rfl, by simp [Ne.symm hc, hfront], hk⟩
    · rintro ⟨front, back, htext, hfront, hk⟩
      cases front with
      | nil =>
        rw [List.nil_append] at htext
        exact Or.inl (htext ▸ hk)
      | cons d front =>
        obtain ⟨rfl, rfl⟩ := List.cons.inj htext
        obtain ⟨hd, hfront⟩ := not_or.1 (List.mem_cons.not.1 hfront)
        exact Or.inr ⟨Ne.symm hd, front, back, rfl, hfront, hk⟩

/-- A token that stands for a single character takes it off the text. -/
theorem fits_single_iff {token : Token} (hrun : token ≠ .anyText) (hpath : token ≠ .anyPath)
    {tokens : List Token} : fits (token :: tokens) text = true ↔
      ∃ c rest, text = c :: rest ∧ token.admits c = true ∧ fits tokens rest = true := by
  have hnil : fits (token :: tokens) [] = false := by
    cases token <;> first | rfl | contradiction
  have hcons (c : Char) (cs : List Char) :
      fits (token :: tokens) (c :: cs) = (token.admits c && fits tokens cs) := by
    cases token <;> first | rfl | contradiction
  cases text with
  | nil => simp [hnil]
  | cons c cs =>
    rw [hcons, Bool.and_eq_true]
    constructor
    · intro h
      exact ⟨c, cs, rfl, h⟩
    · rintro ⟨d, rest, htext, h⟩
      obtain ⟨rfl, rfl⟩ := List.cons.inj htext
      exact h

/-! ## What simple patterns stand for -/

theorem standsFor_run_iff : StandsFor ('*' :: pattern) text ↔
    ∃ front back, text = front ++ back ∧ '/' ∉ front ∧ StandsFor pattern back := by
  constructor
  · intro h
    cases h with
    | run hfront h => exact ⟨_, _, rfl, hfront, h⟩
    | itself hstar => contradiction
  · rintro ⟨front, back, rfl, hfront, h⟩
    exact .run hfront h

theorem standsFor_mark_iff : StandsFor ('?' :: pattern) text ↔
    ∃ c rest, text = c :: rest ∧ c ≠ '/' ∧ StandsFor pattern rest := by
  constructor
  · intro h
    cases h with
    | mark hc h => exact ⟨_, _, rfl, hc, h⟩
    | itself _ hmark => contradiction
  · rintro ⟨c, rest, rfl, hc, h⟩
    exact .mark hc h

theorem standsFor_itself_iff {c : Char} (hstar : c ≠ '*') (hmark : c ≠ '?') :
    StandsFor (c :: pattern) text ↔ ∃ rest, text = c :: rest ∧ StandsFor pattern rest := by
  constructor
  · intro h
    cases h with
    | run => contradiction
    | mark => contradiction
    | itself _ _ h => exact ⟨_, rfl, h⟩
  · rintro ⟨rest, rfl, h⟩
    exact .itself hstar hmark h

/-- The tokens of a simple pattern match what the pattern stands for. -/
theorem fits_iff_standsFor :
    fits (pattern.map wildcard) text = true ↔ StandsFor pattern text := by
  induction pattern generalizing text with
  | nil =>
    rw [List.map_nil, fits, List.isEmpty_iff]
    constructor
    · rintro rfl
      exact .done
    · rintro ⟨⟩
      rfl
  | cons c cs ih =>
    rw [List.map_cons]
    by_cases hstar : c = '*'
    · have hrun : wildcard c = .anyText := if_pos hstar
      rw [hrun, hstar, fits, withinSegment_iff, standsFor_run_iff]
      simp only [ih]
    · by_cases hmark : c = '?'
      · have hany : wildcard c = .anyChar := by simp [wildcard, hmark]
        rw [hany, hmark, fits_single_iff (by decide) (by decide), standsFor_mark_iff]
        simp only [ih, Token.admits, bne_iff_ne]
      · have hliteral : wildcard c = .literal c := by simp [wildcard, hstar, hmark]
        rw [hliteral, fits_single_iff (by simp) (by simp), standsFor_itself_iff hstar hmark]
        simp [ih, Token.admits]

namespace StandsFor

/-- **Only a slash stands for a slash.** A pattern and a text that it stands for have as many. -/
theorem count_eq (h : StandsFor pattern text) : pattern.count '/' = text.count '/' := by
  induction h with
  | done => rfl
  | run hfront _ ih =>
    rw [List.count_cons_of_ne (by decide), List.count_append, List.count_eq_zero_of_not_mem hfront,
      ih, Nat.zero_add]
  | mark hc _ ih => rw [List.count_cons_of_ne (by decide), List.count_cons_of_ne hc, ih]
  | itself _ _ _ ih => rw [List.count_cons, List.count_cons, ih]

/-- A segment stands for texts within a segment. -/
theorem slash_notMem (h : StandsFor pattern text) (hpattern : '/' ∉ pattern) : '/' ∉ text := by
  rw [← List.count_eq_zero, ← h.count_eq]
  exact List.count_eq_zero_of_not_mem hpattern

theorem append {more rest : List Char} (h : StandsFor pattern text) (hmore : StandsFor more rest) :
    StandsFor (pattern ++ more) (text ++ rest) := by
  induction h with
  | done => exact hmore
  | run hfront _ ih =>
    rw [List.append_assoc]
    exact .run hfront ih
  | mark hc _ ih => exact .mark hc ih
  | itself hstar hmark _ ih => exact .itself hstar hmark ih

/-- What two patterns stand for together is what each of them does. -/
theorem exists_of_append {more : List Char} (h : StandsFor (pattern ++ more) text) :
    ∃ front back, text = front ++ back ∧ StandsFor pattern front ∧ StandsFor more back := by
  induction pattern generalizing text with
  | nil => exact ⟨[], text, rfl, .done, h⟩
  | cons c cs ih =>
    rw [List.cons_append] at h
    cases h with
    | run hfront h =>
      obtain ⟨front, back, rfl, hcs, hmore⟩ := ih h
      exact ⟨_, back, (List.append_assoc _ _ _).symm, .run hfront hcs, hmore⟩
    | mark hc h =>
      obtain ⟨front, back, rfl, hcs, hmore⟩ := ih h
      exact ⟨_ :: front, back, rfl, .mark hc hcs, hmore⟩
    | itself hstar hmark h =>
      obtain ⟨front, back, rfl, hcs, hmore⟩ := ih h
      exact ⟨_ :: front, back, rfl, .itself hstar hmark hcs, hmore⟩

end StandsFor

/-! ## Segments -/

/-- A segment in front of a pattern stands for the first segment of a text. -/
theorem standsFor_append_slash_iff {segment : List Char} (hsegment : '/' ∉ segment) :
    StandsFor (segment ++ '/' :: pattern) text ↔
      ∃ front back, text = front ++ '/' :: back ∧ '/' ∉ front ∧
        StandsFor segment front ∧ StandsFor pattern back := by
  constructor
  · intro h
    obtain ⟨front, behind, rfl, hfront, hbehind⟩ := h.exists_of_append
    obtain ⟨back, rfl, hback⟩ := (standsFor_itself_iff (by decide) (by decide)).1 hbehind
    exact ⟨front, back, rfl, hfront.slash_notMem hsegment, hfront, hback⟩
  · rintro ⟨front, back, rfl, -, hfront, hback⟩
    exact hfront.append (.itself (by decide) (by decide) hback)

/-- A pattern stands for a text segment by segment. -/
theorem standsFor_iff_segments : StandsFor pattern text ↔
    List.Forall₂ StandsFor (pattern.splitOn '/') (text.splitOn '/') := by
  induction pattern using fields_induction generalizing text with
  | last segment hsegment =>
    rw [List.splitOn_eq_singleton hsegment, List.forall₂_cons_left_iff]
    simp only [List.forall₂_nil_left_iff]
    constructor
    · intro h
      exact ⟨text, [], h, rfl, List.splitOn_eq_singleton (h.slash_notMem hsegment)⟩
    · rintro ⟨part, _, h, rfl, hparts⟩
      have htext : ['/'].intercalate (text.splitOn '/') = text := List.intercalate_splitOn '/'
      rw [hparts, List.intercalate_singleton] at htext
      rwa [← htext]
  | more segment cs hsegment ih =>
    rw [standsFor_append_slash_iff hsegment,
      List.splitOn_append_cons_self_of_not_mem hsegment, List.forall₂_cons_left_iff]
    constructor
    · rintro ⟨front, back, rfl, hslash, hfront, hback⟩
      exact ⟨front, back.splitOn '/', hfront, ih.1 hback,
        List.splitOn_append_cons_self_of_not_mem hslash back⟩
    · rintro ⟨part, parts, hpart, hparts, htext⟩
      cases hsplit : splitOnce '/' text with
      | none =>
        -- The text is a single segment, and there is none for the rest of the pattern.
        rw [List.splitOn_eq_singleton (splitOnce_eq_none.1 hsplit)] at htext
        obtain ⟨-, rfl⟩ := List.cons.inj htext
        exact absurd (List.forall₂_nil_right_iff.1 hparts) (List.splitOn_ne_nil '/' cs)
      | some pieces =>
        obtain ⟨rfl, hslash⟩ := splitOnce_eq_some.1 hsplit
        rw [List.splitOn_append_cons_self_of_not_mem hslash] at htext
        obtain ⟨rfl, rfl⟩ := List.cons.inj htext
        exact ⟨pieces.1, pieces.2, rfl, hslash, hpart, ih.2 hparts⟩

end Glob

/-! ## Matching -/

section Matching

variable {pattern : String}

/-- A simple pattern matches what it stands for. -/
theorem globMatches_iff_standsFor (h : Glob.IsSimple pattern.toList) (text : String) :
    globMatches pattern text = true ↔ Glob.StandsFor pattern.toList text.toList := by
  rw [globMatches, Glob.read, Glob.readFrom_eq h, Option.any_some, Glob.accepts_eq_fits,
    Glob.fits_iff_standsFor]

/-- A simple pattern matches texts with as many slashes. -/
theorem count_eq_of_globMatches {text : String} (h : Glob.IsSimple pattern.toList)
    (hmatch : globMatches pattern text = true) :
    pattern.toList.count '/' = text.toList.count '/' :=
  ((globMatches_iff_standsFor h text).1 hmatch).count_eq

/-- A simple pattern matches a text segment by segment. -/
theorem globMatches_iff_segments (h : Glob.IsSimple pattern.toList) (text : String) :
    globMatches pattern text = true ↔
      List.Forall₂ (fun segment part => globMatches (.ofList segment) (.ofList part) = true)
        (pattern.toList.splitOn '/') (text.toList.splitOn '/') := by
  have hsimple : ∀ segment ∈ pattern.toList.splitOn '/', Glob.IsSimple segment :=
    fun segment hsegment => h.of_isInfix (isInfix_of_mem_splitOn hsegment)
  have hone (segment part : List Char) (hsegment : Glob.IsSimple segment) :
      Glob.StandsFor segment part ↔ globMatches (.ofList segment) (.ofList part) = true := by
    rw [globMatches_iff_standsFor (by rwa [String.toList_ofList]), String.toList_ofList,
      String.toList_ofList]
  have hboth : (fun segment part => Glob.IsSimple segment ∧ Glob.StandsFor segment part) =
      fun segment part => Glob.IsSimple segment ∧
        globMatches (.ofList segment) (.ofList part) = true := by
    funext segment part
    exact propext (and_congr_right (hone segment part))
  calc globMatches pattern text = true ↔
        List.Forall₂ Glob.StandsFor (pattern.toList.splitOn '/') (text.toList.splitOn '/') := by
        rw [globMatches_iff_standsFor h, Glob.standsFor_iff_segments]
    _ ↔ List.Forall₂ (fun segment part => Glob.IsSimple segment ∧ Glob.StandsFor segment part)
          (pattern.toList.splitOn '/') (text.toList.splitOn '/') := by
        rw [List.forall₂_and_left, and_iff_right hsimple]
    _ ↔ _ := by
        rw [hboth, List.forall₂_and_left, and_iff_right hsimple]

/-- A pattern without wildcards matches itself and nothing else. -/
theorem globMatches_iff_eq (h : Glob.IsPlain pattern.toList) (text : String) :
    globMatches pattern text = true ↔ text = pattern := by
  have hread : Glob.read pattern.toList = some (Glob.literals pattern.toList ++ []) := by
    simpa [Glob.read, Glob.readFrom] using Glob.readFrom_append h true []
  rw [globMatches, hread, Option.any_some, Glob.accepts_eq_fits, Glob.fits_literals_append]
  simp [Glob.fits, String.toList_inj]

end Matching

end PluginSandbox
