import PluginSandbox.Config.Load
import PluginSandbox.Proofs.Text.Fields

/-!
# Names of variables

The name of a variable that sets something is made of the mark, a section, two underscores
and the levels below the section. Two underscores or a point stand between levels, and both
are taken as early as they occur. Blanks around a name do not count, nor does the case of
its letters.

## Main definitions

* `Setting.IsNamed`: a name by its section and what stands behind that.
* `Setting.Spells`: levels with separators between them.
* `Setting.Names`: the place that a name stands for.

## Main statements

* `Setting.spells_iff`: the levels of a text.
* `Setting.path?_eq_some_iff`: the names of variables that set something.
* `Setting.names_pair_iff`: names with a single level behind the section.
-/

namespace PluginSandbox.Setting

open Text

/-- The name of a variable, without the blanks around it and with its letters in lower case, is
that of a section with a text behind it: `moat_<part>__<text>`. -/
def IsNamed (name part : String) (text : List Char) : Prop :=
  lower (trim name.toList) = "moat_".toList ++ (part.toList ++ '_' :: '_' :: text)

instance (name part : String) (text : List Char) : Decidable (IsNamed name part text) :=
  inferInstanceAs (Decidable (_ = _))

/-- There is no separator in the level. -/
structure IsLevel (level : List Char) : Prop where
  noPoint : '.' ∉ level
  noPair : ¬['_', '_'] <:+: level

/-- A text consists of levels with a separator between them. -/
inductive Spells : (levels : List (List Char)) → (text : List Char) → Prop where
  /-- A single level. -/
  | last {level : List Char} (hlevel : IsLevel level) : Spells [level] level
  /-- A level in front of a point. -/
  | point {level text : List Char} {levels : List (List Char)} (hlevel : IsLevel level)
    (hrest : Spells levels text) : Spells (level :: levels) (level ++ '.' :: text)
  /-- A level in front of two underscores, which are the first two: none stands before them. -/
  | pair {level text : List Char} {levels : List (List Char)} (hlevel : IsLevel level)
    (hend : ¬['_'] <:+ level) (hrest : Spells levels text) :
    Spells (level :: levels) (level ++ '_' :: '_' :: text)

/-- The name of a variable stands for a place: a section and, behind it, levels that are not
empty. -/
def Names (name : String) : (path : List String) → Prop
  | [] => False
  | part :: path => part ∈ ["network", "risk", "abi", "logging"] ∧ "" ∉ path ∧
      ∃ text, IsNamed name part text ∧ Spells (path.map String.toList) text

/-! ## Levels -/

section Levels

variable {level cs text : List Char} {others : List (List Char)}

theorem IsLevel.of_cons {c : Char} (h : IsLevel (c :: level)) : IsLevel level where
  noPoint hmem := h.noPoint (List.mem_cons_of_mem c hmem)
  noPair hpair := h.noPair (hpair.trans (List.suffix_cons c level).isInfix)

/-- A character in front of a level belongs to it, unless it is a point or the first of two
underscores. -/
theorem levels_cons {c : Char} (hpoint : c ≠ '.') (hpair : ¬(c = '_' ∧ ['_'] <+: cs))
    (h : levels cs = level :: others) : levels (c :: cs) = (c :: level) :: others := by
  rw [levels, h]
  · rintro back rfl rfl
    exact hpair ⟨rfl, List.prefix_append ['_'] back⟩
  · exact hpoint

/-- A level in front of a separator, or at the end, is read as it stands. -/
theorem levels_append (hlevel : IsLevel level) {tail : List Char}
    (hend : ['_'] <:+ level → ¬['_'] <+: tail) (htail : levels tail = [] :: others) :
    levels (level ++ tail) = level :: others := by
  induction level with
  | nil => exact htail
  | cons c level ih =>
    have hpoint : c ≠ '.' := by
      rintro rfl
      exact hlevel.noPoint List.mem_cons_self
    have hrest := ih hlevel.of_cons fun hsuffix => hend (hsuffix.trans (List.suffix_cons c level))
    refine levels_cons hpoint ?_ hrest
    rintro ⟨rfl, hunderscore⟩
    -- The second underscore would be in the level, or the first one of what follows.
    cases level with
    | nil => exact hend List.suffix_rfl hunderscore
    | cons d level =>
      obtain rfl : '_' = d := (List.cons_prefix_cons.1 hunderscore).1
      exact hlevel.noPair ⟨[], level, rfl⟩

theorem Spells.cons {c : Char} (hpoint : c ≠ '.') (hpair : ¬(c = '_' ∧ ['_'] <+: cs))
    (h : Spells (level :: others) cs) : Spells ((c :: level) :: others) (c :: cs) := by
  have hlevel (hlevel : IsLevel level) (hfront : level <+: cs) : IsLevel (c :: level) := by
    refine ⟨?_, ?_⟩
    · simpa [Ne.symm hpoint] using hlevel.noPoint
    · intro hinfix
      rcases List.infix_cons_iff.1 hinfix with hprefix | hinfix
      · obtain ⟨hc, hunderscore⟩ := List.cons_prefix_cons.1 hprefix
        exact hpair ⟨hc.symm, hunderscore.trans hfront⟩
      · exact hlevel.noPair hinfix
  cases h with
  | last h => exact .last (hlevel h List.prefix_rfl)
  | point h hrest => exact .point (hlevel h (List.prefix_append _ _)) hrest
  | pair h hend hrest =>
    refine .pair (hlevel h (List.prefix_append _ _)) ?_ hrest
    intro hsuffix
    rcases List.suffix_cons_iff.1 hsuffix with heq | hsuffix
    · obtain ⟨rfl, rfl⟩ := List.cons.inj heq
      exact hpair ⟨rfl, List.prefix_append ['_'] _⟩
    · exact hend hsuffix

theorem spells_levels (cs : List Char) : Spells (levels cs) cs := by
  have hnil : IsLevel [] := ⟨List.not_mem_nil, by decide⟩
  fun_induction levels cs with
  | case1 => exact .last hnil
  | case2 cs ih => exact .pair hnil (by decide) ih
  | case3 cs ih => exact .point hnil ih
  | case4 c cs hpair hpoint level others hlevels ih =>
    rw [hlevels] at ih
    refine ih.cons hpoint ?_
    rintro ⟨rfl, back, rfl⟩
    exact hpair back rfl rfl
  | case5 c cs hpair hpoint hlevels ih =>
    rw [hlevels] at ih
    nomatch ih

/-- A text has exactly the levels that it consists of. -/
theorem spells_iff {parts : List (List Char)} : Spells parts text ↔ levels text = parts := by
  constructor
  · intro h
    induction h with
    | @last level hlevel =>
      have hread : levels (level ++ []) = [level] :=
        levels_append hlevel (fun _ => by decide) rfl
      rwa [List.append_nil] at hread
    | @point level text parts hlevel _ ih =>
      have htail : levels ('.' :: text) = [] :: parts := by rw [levels, ih]
      exact levels_append hlevel (fun _ => by simp) htail
    | @pair level text parts hlevel hend _ ih =>
      have htail : levels ('_' :: '_' :: text) = [] :: parts := by rw [levels, ih]
      exact levels_append hlevel (fun hsuffix => absurd hsuffix hend) htail
  · rintro rfl
    exact spells_levels text

end Levels

/-! ## Places -/

section Places

variable {name part : String} {path : List String}

theorem Spells.ne_nil {parts : List (List Char)} {text : List Char} (h : Spells parts text) :
    parts ≠ [] := by
  cases h <;> exact List.cons_ne_nil _ _

theorem plain_of_mem_sectionNames (h : part ∈ HostConfig.sectionNames) :
    '_' ∉ part.toList ∧ '.' ∉ part.toList := by
  revert part
  decide

/-- A section is known exactly if it stands before the first two underscores. -/
theorem namesSection_iff {rest : List Char} : namesSection rest = true ↔
    ∃ part ∈ HostConfig.sectionNames, ∃ text, rest = part.toList ++ '_' :: '_' :: text := by
  constructor
  · intro h
    rw [namesSection] at h
    split at h
    case h_1 front text hsplit =>
      refine ⟨String.ofList front, List.contains_iff_mem.1 h, text, ?_⟩
      rw [String.toList_ofList]
      exact splitOnPair_eq_some hsplit
    case h_2 => contradiction
  · rintro ⟨part, hpart, text, rfl⟩
    rw [namesSection, splitOnPair_append_of_notMem (plain_of_mem_sectionNames hpart).1]
    simpa [splitOnPair] using hpart

/-- The levels of a name are its section and those behind it. -/
theorem levels_section (hpart : part ∈ HostConfig.sectionNames) (text : List Char) :
    levels (part.toList ++ '_' :: '_' :: text) = part.toList :: levels text := by
  obtain ⟨hunderscore, hpoint⟩ := plain_of_mem_sectionNames hpart
  have hlevel : IsLevel part.toList :=
    ⟨hpoint, fun hpair => hunderscore (hpair.subset List.mem_cons_self)⟩
  refine levels_append hlevel (fun hend => ?_) (by rw [levels])
  exact absurd (hend.subset List.mem_cons_self) hunderscore

theorem path?_eq_some : path? name = some path ↔ ∃ part ∈ HostConfig.sectionNames, ∃ text,
    IsNamed name part text ∧ (∀ level ∈ levels text, level ≠ []) ∧
      path = part :: (levels text).map String.ofList := by
  have hnonempty : ∀ part ∈ HostConfig.sectionNames, part.toList ≠ [] := by decide
  simp only [path?, unmarked?, Option.bind_eq_bind, Option.bind_eq_some_iff, stripPrefix?_eq_some,
    Option.ite_none_right_eq_some, Option.some.injEq, Bool.and_eq_true, List.all_eq_true,
    decide_eq_true_eq, namesSection_iff]
  constructor
  · rintro ⟨_, hname, ⟨⟨part, hpart, text, rfl⟩, hlevels⟩, rfl⟩
    rw [levels_section hpart] at hlevels ⊢
    exact ⟨part, hpart, text, hname, (List.forall_mem_cons.1 hlevels).2, by simp⟩
  · rintro ⟨part, hpart, text, hname, hlevels, rfl⟩
    refine ⟨_, hname, ⟨⟨part, hpart, text, rfl⟩, ?_⟩, ?_⟩
    · rw [levels_section hpart]
      exact List.forall_mem_cons.2 ⟨hnonempty part hpart, hlevels⟩
    · rw [levels_section hpart]
      simp

/-- The names of variables that set something. -/
theorem path?_eq_some_iff : path? name = some path ↔ Names name path := by
  have htexts (levels : List (List Char)) :
      (levels.map String.ofList).map String.toList = levels := by simp
  have hchars (levels : List String) : (levels.map String.toList).map String.ofList = levels := by
    simp
  rw [path?_eq_some]
  constructor
  · rintro ⟨part, hpart, text, hname, hlevels, rfl⟩
    refine ⟨hpart, ?_, text, hname, ?_⟩
    · intro hempty
      obtain ⟨level, hlevel, hnil⟩ := List.mem_map.1 hempty
      exact hlevels level hlevel (String.ofList_eq_empty_iff.1 hnil)
    · rw [htexts]
      exact spells_levels text
  · intro h
    cases path with
    | nil => exact absurd h id
    | cons part path =>
      obtain ⟨hpart, hempty, text, hname, hspells⟩ := h
      have hlevels := spells_iff.1 hspells
      refine ⟨part, hpart, text, hname, ?_, ?_⟩
      · rw [hlevels]
        intro level hlevel
        obtain ⟨name, hmem, rfl⟩ := List.mem_map.1 hlevel
        rintro hnil
        exact hempty (String.toList_eq_nil_iff.1 hnil ▸ hmem)
      · rw [hlevels, hchars]

instance (name : String) (path : List String) : Decidable (Names name path) :=
  decidable_of_iff _ path?_eq_some_iff

theorem Names.eq {other : List String} (h : Names name path) (hother : Names name other) :
    path = other :=
  Option.some.inj ((path?_eq_some_iff.2 h).symm.trans (path?_eq_some_iff.2 hother))

/-- A name with a single level behind the section. -/
theorem names_pair_iff {level : String} (hpart : part ∈ HostConfig.sectionNames)
    (hnonempty : level ≠ "") (hlevel : IsLevel level.toList) :
    Names name [part, level] ↔ IsNamed name part level.toList := by
  constructor
  · rintro ⟨-, -, text, hname, hspells⟩
    cases hspells with
    | last => exact hname
    | point _ hrest => exact absurd rfl hrest.ne_nil
    | pair _ _ hrest => exact absurd rfl hrest.ne_nil
  · intro hname
    exact ⟨hpart, by simpa using hnonempty.symm, level.toList, hname, .last hlevel⟩

/-- A variable that sets something names a section and at least one level below it. -/
theorem Names.exists_cons (h : Names name path) :
    ∃ part first more, path = part :: first :: more := by
  cases path with
  | nil => exact absurd h id
  | cons part path =>
    obtain ⟨-, -, text, -, hspells⟩ := h
    cases path with
    | nil => exact absurd rfl hspells.ne_nil
    | cons first more => exact ⟨part, first, more, rfl⟩

end Places

end PluginSandbox.Setting
