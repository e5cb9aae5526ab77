import Mathlib.Data.List.Induction
import PluginSandbox.Proofs.Config.Name
import PluginSandbox.Proofs.Toml.Distinct

/-!
# What variables set

A variable gives a value to the place that it names, and with a table also to places below
that one. The last variable that does so counts. A value that is no table leaves no room for
places below it, so it takes away what earlier variables have given to those. Variables that
name no place leave the tree of all variables as it is.

## Main definitions

* `Setting.Gives`: a variable gives a place a value.
* `Setting.CutsOff`: a variable puts a value that is no table above a place.
* `Setting.LastGives`: the last variable that does one or the other gives a place a value.
* `Setting.Touches`: a variable sets something in a section.

## Main statements

* `Setting.distinct_tree`: no name twice in the tree of variables.
* `Setting.at?_tree_eq_some_iff`: what the tree holds at a place.
* `Setting.isSome_at?_tree`: the sections that are touched.
-/

namespace PluginSandbox.Setting

open Text Text.Reader

/-! ## Values of variables -/

theorem distinct_integer {cs : List Char} {d : Data} (h : integer cs = some d) : d.Distinct := by
  unfold integer at h
  split at h
  · obtain ⟨n, -, rfl⟩ := Option.map_eq_some_iff.1 h
    exact .int _
  · obtain ⟨n, -, rfl⟩ := Option.map_eq_some_iff.1 h
    exact .int _

theorem yields_fraction : fraction.Yields Data.Distinct := by
  refine .after fun negative => .after fun whole => .after fun _ => .after fun behind =>
    .after fun power => ?_
  have hreal := Toml.distinct_ofReal negative (valueFrom 10 digitValue 0 (whole ++ behind))
    (power - behind.length)
  dsimp only
  split
  · exact .after fun _ => .pure hreal
  · exact .pure hreal

theorem distinct_bareValue (cs : List Char) : (bareValue cs).Distinct := by
  rw [bareValue]
  cases hfraction : readAll fraction cs with
  | some d => exact yields_fraction.readAll hfraction
  | none =>
    cases hinteger : integer cs with
    | some d => exact distinct_integer hinteger
    | none => exact .text _

theorem distinct_tableOf {fields : List (String × Data)} (h : ∀ f ∈ fields, f.2.Distinct) :
    (tableOf fields).Distinct := by
  have hfold (inner : List (String × Data)) (hinner : (Data.table inner).Distinct) :
      (Data.table (fields.foldl (fun table f => Data.setField f.1 f.2 table) inner)).Distinct := by
    induction fields generalizing inner with
    | nil => exact hinner
    | cons f fields ih =>
      obtain ⟨hf, hfields⟩ := List.forall_mem_cons.1 h
      exact ih hfields _ (hinner.setField f.1 hf)
  exact hfold [] Toml.noRepeats_nil

theorem yields_bracketed {α : Type} {P : α → Prop} {item : Reader α} (hitem : item.Yields P)
    (first last : Char) : (bracketed first last item).Yields fun items => ∀ a ∈ items, P a := by
  refine .orElse (.seqRight _ (.pure fun a ha => absurd ha List.not_mem_nil)) ?_
  exact .after fun _ => .bind (.sepBy hitem _) fun items hitems =>
    .after fun _ => .after fun _ => .pure hitems

theorem yields_namedField {value : Reader Data} (hvalue : value.Yields Data.Distinct) :
    (namedField value).Yields fun f => f.2.Distinct :=
  .after fun _ => .after fun _ => .after fun _ => .bind (.seqLeft hvalue _) fun _ hd => .pure hd

theorem yields_valueWithin (depth : Nat) : (valueWithin depth).Yields Data.Distinct := by
  induction depth with
  | zero => exact fun cs d rest hread => nomatch hread
  | succ depth ih =>
    intro cs d rest hread
    rw [valueWithin] at hread
    refine Yields.seqLeft (.seqRight blanks ?_) blanks cs d rest hread
    split
    · exact .map fun cs items rest hitems => .list (yields_bracketed ih _ _ cs items rest hitems)
    · exact .map fun cs fields rest hfields =>
        distinct_tableOf (yields_bracketed (yields_namedField ih) _ _ cs fields rest hfields)
    · exact .map fun cs chars rest _ => .text _
    · exact .after fun _ => .after fun c => .after fun _ => .pure (.text _)
    · exact .orElse Toml.yields_truth (.after fun _ => .pure (distinct_bareValue _))

theorem distinct_readValue (text : String) : (readValue text).Distinct := by
  rw [readValue]
  cases hread : readAll (valueWithin (text.toList.length + 1)) text.toList with
  | some d => exact (yields_valueWithin _).readAll hread
  | none => exact .text text

/-! ## Variables that count -/

/-- A variable gives a place a value: its own at the place that it names, or what its own has
there. -/
def Gives (v : String × String) (place : List String) (d : Data) : Prop :=
  ∃ path rest, Names v.1 path ∧ place = path ++ rest ∧ Data.at? rest (readValue v.2) = some d

/-- A variable leaves no room for a place, since a value that is no table comes to stand above
it. -/
def CutsOff (v : String × String) (place : List String) : Prop :=
  ∃ path rest, Names v.1 path ∧ place = path ++ rest ∧ ¬Data.LeadsTo rest (readValue v.2)

/-- The value that variables give a place: no later one gives it a value or cuts it off. -/
def LastGives (env : List (String × String)) (place : List String) (d : Data) : Prop :=
  ∃ before v after, env = before ++ v :: after ∧ Gives v place d ∧
    ∀ w ∈ after, ¬CutsOff w place ∧ ∀ other, ¬Gives w place other

/-- A variable sets something in a section. -/
def Touches (env : List (String × String)) (part : String) : Prop :=
  ∃ v ∈ env, ∃ path, Names v.1 (part :: path)

instance (name part : String) : Decidable (∃ path, Names name (part :: path)) :=
  decidable_of_iff ((path? name).bind List.head? = some part) <| by
    simp only [Option.bind_eq_some_iff, List.head?_eq_some_iff, path?_eq_some_iff]
    constructor
    · rintro ⟨_, hname, path, rfl⟩
      exact ⟨path, hname⟩
    · rintro ⟨path, hname⟩
      exact ⟨_, hname, path, rfl⟩

instance (env : List (String × String)) (part : String) : Decidable (Touches env part) :=
  inferInstanceAs (Decidable (∃ v ∈ env, _))

variable {env : List (String × String)} {v : String × String} {place : List String} {d : Data}

/-- A variable gives the place of its name its own value. -/
theorem Names.gives (h : Names v.1 place) : Gives v place (readValue v.2) :=
  ⟨place, [], h, (List.append_nil place).symm, rfl⟩

/-- A place with one level behind the section is given by variables of its name only. -/
theorem gives_pair_iff {part name : String} :
    Gives v [part, name] d ↔ Names v.1 [part, name] ∧ readValue v.2 = d := by
  constructor
  · rintro ⟨path, rest, hname, hplace, hvalue⟩
    obtain ⟨first, second, more, rfl⟩ := hname.exists_cons
    obtain ⟨rfl, rfl, rfl, rfl⟩ : part = first ∧ name = second ∧ more = [] ∧ rest = [] := by
      simpa using hplace
    exact ⟨hname, Option.some.inj hvalue⟩
  · rintro ⟨hname, rfl⟩
    exact hname.gives

/-- A variable counts only for places at and below the place of its name. -/
theorem Names.silent {path : List String} (h : Names v.1 path) (hplace : ¬path <+: place) :
    ¬CutsOff v place ∧ ∀ d, ¬Gives v place d := by
  constructor
  · rintro ⟨own, rest, hown, rfl, -⟩
    exact hplace (hown.eq h ▸ List.prefix_append own rest)
  · rintro d ⟨own, rest, hown, rfl, -⟩
    exact hplace (hown.eq h ▸ List.prefix_append own rest)

/-- A variable that names no place counts for none. -/
theorem silent_of_forall_not_names (h : ∀ path, ¬Names v.1 path) :
    ¬CutsOff v place ∧ ∀ d, ¬Gives v place d := by
  constructor
  · rintro ⟨path, rest, hname, -⟩
    exact h path hname
  · rintro d ⟨path, rest, hname, -⟩
    exact h path hname

theorem not_lastGives_of_forall (h : ∀ v ∈ env, ∀ d, ¬Gives v place d) (d : Data) :
    ¬LastGives env place d := by
  rintro ⟨before, v, after, rfl, hgives, -⟩
  exact h v (List.mem_append_right before List.mem_cons_self) d hgives

theorem not_lastGives_nil : ¬LastGives [] place d :=
  not_lastGives_of_forall (fun _ hv => absurd hv List.not_mem_nil) d

theorem lastGives_append_singleton_iff : LastGives (env ++ [v]) place d ↔ Gives v place d ∨
    LastGives env place d ∧ ¬CutsOff v place ∧ ∀ other, ¬Gives v place other := by
  constructor
  · rintro ⟨before, w, after, henv, hgives, hafter⟩
    cases after using List.reverseRecOn with
    | nil =>
      obtain ⟨-, rfl⟩ := List.append_singleton_inj.1 henv
      exact Or.inl hgives
    | append_singleton after u =>
      rw [← List.cons_append, ← List.append_assoc] at henv
      obtain ⟨hfront, rfl⟩ := List.append_singleton_inj.1 henv
      have hlast := hafter v (List.mem_append_right after (List.mem_singleton_self v))
      exact Or.inr ⟨⟨before, w, after, hfront, hgives,
        fun x hx => hafter x (List.mem_append_left _ hx)⟩, hlast⟩
  · rintro (hgives | ⟨⟨before, w, after, rfl, hgives, hafter⟩, hlast⟩)
    · exact ⟨env, v, [], rfl, hgives, fun x hx => absurd hx List.not_mem_nil⟩
    · refine ⟨before, w, after ++ [v], by simp, hgives, ?_⟩
      intro x hx
      rcases List.mem_append.1 hx with hx | hx
      · exact hafter x hx
      · rwa [List.mem_singleton.1 hx]

/-! ## The tree of variables -/

/-- A variable that names a place makes a tree of its value there, and no other makes one. -/
theorem ofVariable_cases (v : String × String) :
    ((∀ path, ¬Names v.1 path) ∧ ofVariable v = none) ∨
      ∃ path, Names v.1 path ∧ ofVariable v = some (.nest path (readValue v.2)) := by
  rw [ofVariable]
  cases hpath : path? v.1 with
  | none => exact Or.inl ⟨fun path h => by simp [path?_eq_some_iff.2 h] at hpath, rfl⟩
  | some path => exact Or.inr ⟨path, path?_eq_some_iff.1 hpath, rfl⟩

theorem tree_append_of_none (h : ofVariable v = none) : tree (env ++ [v]) = tree env := by
  simp [tree, h]

theorem tree_append_of_some (h : ofVariable v = some d) :
    tree (env ++ [v]) = (tree env).overlay d := by
  simp [tree, h]

/-- What is true of the empty table and stays true under the tree of each variable is true of all
variables together. -/
theorem tree_induction {P : Data → Prop} (env : List (String × String)) (hempty : P (.table []))
    (hnext : ∀ d part first more text, P d →
      P (d.overlay (.nest (part :: first :: more) (readValue text)))) : P (tree env) := by
  induction env using List.reverseRecOn with
  | nil => exact hempty
  | append_singleton env v ih =>
    rcases ofVariable_cases v with ⟨-, hnone⟩ | ⟨path, hname, hsome⟩
    · rwa [tree_append_of_none hnone]
    · obtain ⟨part, first, more, rfl⟩ := hname.exists_cons
      rw [tree_append_of_some hsome]
      exact hnext _ part first more v.2 ih

theorem exists_tree_table (env : List (String × String)) : ∃ fields, tree env = .table fields := by
  refine tree_induction (P := fun d => ∃ fields, d = .table fields) env ⟨[], rfl⟩ ?_
  rintro d part first more text ⟨fields, rfl⟩
  exact ⟨_, rfl⟩

/-- No name twice in the tree of variables. -/
theorem distinct_tree (env : List (String × String)) : (tree env).Distinct :=
  tree_induction env Toml.noRepeats_nil fun _ part first more text hd =>
    hd.overlay ((distinct_readValue text).nest (part :: first :: more))

/-- Nothing but tables lies on a path of two levels in the tree of variables. -/
theorem leadsTo_tree (env : List (String × String)) (part name : String) :
    Data.LeadsTo [part, name] (tree env) := by
  refine tree_induction env (fun _ hd => nomatch hd) fun d other first more text hd => ?_
  refine hd.overlay ?_
  rw [Data.leadsTo_nest_cons_iff]
  exact fun _ => Data.leadsTo_table name _

/-! ## Places in the tree -/

section Places

variable {path : List String} (hname : Names v.1 path)
include hname

/-- A variable cuts off what its tree does not lead to. -/
theorem cutsOff_iff : CutsOff v place ↔ ¬Data.LeadsTo place (.nest path (readValue v.2)) := by
  constructor
  · rintro ⟨own, rest, hown, rfl, hcut⟩
    rwa [hown.eq hname, Data.leadsTo_nest_append_iff]
  · intro hcut
    by_cases hprefix : path <+: place
    · obtain ⟨rest, rfl⟩ := hprefix
      exact ⟨path, rest, hname, rfl, fun h => hcut (Data.leadsTo_nest_append_iff.2 h)⟩
    · exact absurd (Data.nest_of_not_prefix hprefix _).1 hcut

theorem at?_of_gives (hgives : Gives v place d) :
    Data.at? place (.nest path (readValue v.2)) = some d := by
  obtain ⟨own, rest, hown, rfl, hvalue⟩ := hgives
  rwa [hown.eq hname, Data.at?_nest_append]

/-- What the tree of a variable has at a place is given by it, or a table in which more lies. -/
theorem gives_or_table (hd : Data.at? place (.nest path (readValue v.2)) = some d) :
    Gives v place d ∨ ∃ fields, d = .table fields := by
  by_cases hprefix : path <+: place
  · obtain ⟨rest, rfl⟩ := hprefix
    rw [Data.at?_nest_append] at hd
    exact Or.inl ⟨path, rest, hname, rfl, hd⟩
  · exact Or.inr ((Data.nest_of_not_prefix hprefix _).2 d hd)

/-- A place that a variable cuts off has nothing, whatever is below. -/
theorem at?_overlay_of_cutsOff (hcuts : CutsOff v place) (below : Data) :
    Data.at? place (below.overlay (.nest path (readValue v.2))) = none :=
  Data.at?_overlay_of_not_leadsTo ((cutsOff_iff hname).1 hcuts)

variable {below : Data} (htable : ∀ fields,
  Data.at? place (below.overlay (.nest path (readValue v.2))) ≠ some (.table fields))
include htable

/-- Unless tables are joined, the value that a variable gives a place replaces what is below. -/
theorem at?_overlay_of_gives (hgives : Gives v place d) :
    Data.at? place (below.overlay (.nest path (readValue v.2))) = some d := by
  have hown := at?_of_gives hname hgives
  have hleads : Data.LeadsTo place (.nest path (readValue v.2)) := by
    by_contra hcut
    rw [Data.at?_eq_none_of_not_leadsTo hcut] at hown
    contradiction
  rw [Data.at?_overlay hleads] at htable ⊢
  rw [Data.overlay?_eq_or htable, hown, Option.some_or]

/-- Unless tables are joined, a variable that gives a place no value leaves there what is below. -/
theorem at?_overlay_of_silent (hcuts : ¬CutsOff v place) (hgives : ∀ d, ¬Gives v place d) :
    Data.at? place (below.overlay (.nest path (readValue v.2))) = Data.at? place below := by
  have hleads : Data.LeadsTo place (.nest path (readValue v.2)) :=
    Classical.not_not.1 fun hcut => hcuts ((cutsOff_iff hname).2 hcut)
  rw [Data.at?_overlay hleads] at htable ⊢
  cases hown : Data.at? place (.nest path (readValue v.2)) with
  | none => rw [Data.overlay?_none]
  | some d =>
    obtain ⟨fields, rfl⟩ := (gives_or_table hname hown).resolve_left (hgives d)
    obtain ⟨joined, hjoined⟩ := Data.exists_overlay?_table (Data.at? place below) fields
    rw [hown] at htable
    exact absurd hjoined (htable joined)

end Places

/-- **The last variable counts.** What stands at a place in the tree of variables, unless it is a
table, is the value that they give the place. -/
theorem at?_tree_eq_some_iff (h : ∀ fields, Data.at? place (tree env) ≠ some (.table fields)) :
    Data.at? place (tree env) = some d ↔ LastGives env place d := by
  induction env using List.reverseRecOn with
  | nil =>
    cases place with
    | nil => exact absurd rfl (h [])
    | cons name place => exact iff_of_false (fun heq => nomatch heq) not_lastGives_nil
  | append_singleton env v ih =>
    rw [lastGives_append_singleton_iff]
    rcases ofVariable_cases v with ⟨hnames, hnone⟩ | ⟨path, hname, hsome⟩
    · have hsilent : ¬CutsOff v place ∧ ∀ other, ¬Gives v place other :=
        silent_of_forall_not_names hnames
      rw [tree_append_of_none hnone] at h ⊢
      rw [ih h, or_iff_right (hsilent.2 d), and_iff_left hsilent]
    · rw [tree_append_of_some hsome] at h ⊢
      by_cases hgives : ∃ value, Gives v place value
      · obtain ⟨value, hvalue⟩ := hgives
        rw [at?_overlay_of_gives hname h hvalue, Option.some.injEq]
        constructor
        · rintro rfl
          exact Or.inl hvalue
        · rintro (hd | ⟨-, -, hnone⟩)
          · exact Option.some.inj ((at?_of_gives hname hvalue).symm.trans (at?_of_gives hname hd))
          · exact absurd hvalue (hnone value)
      · have hnone := not_exists.1 hgives
        rw [or_iff_right (hnone d)]
        by_cases hcuts : CutsOff v place
        · rw [at?_overlay_of_cutsOff hname hcuts]
          exact iff_of_false (fun heq => nomatch heq) fun hlast => hlast.2.1 hcuts
        · have hsilent := at?_overlay_of_silent hname h hcuts hnone
          rw [hsilent] at h ⊢
          rw [ih h, and_iff_left ⟨hcuts, hnone⟩]

/-! ## Sections in the tree -/

theorem touches_append_singleton_iff {part : String} : Touches (env ++ [v]) part ↔
    Touches env part ∨ ∃ path, Names v.1 (part :: path) := by
  simp [Touches, or_and_right, exists_or]

theorem isSome_at?_nest_iff {path : List String} (hname : Names v.1 path) (part : String)
    (d : Data) : (Data.at? [part] (.nest path d)).isSome = true ↔
      ∃ more, Names v.1 (part :: more) := by
  obtain ⟨first, second, more, rfl⟩ := hname.exists_cons
  rw [Data.at?_nest_cons]
  constructor
  · intro h
    split at h
    case isTrue hfirst => exact ⟨second :: more, hfirst ▸ hname⟩
    case isFalse => contradiction
  · rintro ⟨other, hother⟩
    rw [if_pos (List.cons.inj (hname.eq hother)).1]
    rfl

/-- A section is in the tree exactly if a variable sets something in it. -/
theorem isSome_at?_tree (env : List (String × String)) (part : String) :
    (Data.at? [part] (tree env)).isSome = true ↔ Touches env part := by
  induction env using List.reverseRecOn with
  | nil => simp [tree, Touches, Data.at?, Data.field?]
  | append_singleton env v ih =>
    rw [touches_append_singleton_iff]
    rcases ofVariable_cases v with ⟨hnames, hnone⟩ | ⟨path, hname, hsome⟩
    · rw [tree_append_of_none hnone, ih, or_iff_left]
      exact not_exists.2 fun path => hnames (part :: path)
    · have hleads : Data.LeadsTo [part] (.nest path (readValue v.2)) := by
        obtain ⟨first, second, more, rfl⟩ := hname.exists_cons
        exact Data.leadsTo_table part _
      rw [tree_append_of_some hsome, Data.at?_overlay hleads, Data.isSome_overlay?,
        Bool.or_eq_true, ih, isSome_at?_nest_iff hname, or_comm]

/-- A variable sets nothing whose name is not that of a section with a text behind it. -/
theorem ofVariable_of_unrelated {v : String × String}
    (h : ∀ part ∈ ["network", "risk", "abi", "logging"], ∀ text, ¬IsNamed v.1 part text) :
    ofVariable v = none := by
  rcases ofVariable_cases v with ⟨-, hnone⟩ | ⟨path, hname, -⟩
  · exact hnone
  · obtain ⟨part, first, more, rfl⟩ := hname.exists_cons
    obtain ⟨hpart, -, text, hnamed, -⟩ := hname
    exact absurd hnamed (h part hpart text)

end PluginSandbox.Setting
