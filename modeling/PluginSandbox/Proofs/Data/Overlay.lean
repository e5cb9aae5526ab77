import PluginSandbox.Data.Overlay

/-!
# Values of layered trees

What stands at the end of a path in a tree with another one laid over it depends on what
stands there in the two trees, provided that nothing but tables of the upper tree lie on
the path; otherwise the upper tree cuts the path off. Names are not repeated in a layered
tree if they are not in its layers.

## Main definitions

* `Data.overlay?`: a value laid over another one, where either may be missing.
* `Data.LeadsTo`: nothing but tables of a tree lie on a path.
* `Data.Distinct`: no table in a tree has a name twice.

## Main statements

* `Data.at?_overlay`, `Data.at?_overlay_of_not_leadsTo`: the values of a layered tree.
* `Data.Distinct.overlay`: layers without repeated names make a tree without them.
-/

namespace PluginSandbox.Data

variable {path : List String} {lower upper d : Data} {name : String}

/-! ## Values over one another -/

/-- A value laid over another one, where either may be missing. -/
def overlay? : Option Data → Option Data → Option Data
  | some lower, some upper => some (overlay lower upper)
  | none, upper => upper
  | lower, none => lower

@[simp] theorem overlay?_none (lower : Option Data) : overlay? lower none = lower := by
  cases lower <;> rfl

@[simp] theorem none_overlay? (upper : Option Data) : overlay? none upper = upper := by
  cases upper <;> rfl

theorem overlay_of_not_table (h : ∀ fields, upper ≠ table fields) :
    overlay lower upper = upper := by
  cases upper with
  | table fields => exact absurd rfl (h fields)
  | _ => rw [overlay]; exact h

/-- A table laid over anything is a table. -/
theorem exists_overlay?_table (lower : Option Data) (fields : List (String × Data)) :
    ∃ joined, overlay? lower (some (table fields)) = some (table joined) := by
  cases lower with
  | none => exact ⟨fields, rfl⟩
  | some d =>
    cases d with
    | table inner => exact ⟨overlayFields inner fields, rfl⟩
    | _ => exact ⟨fields, rfl⟩

theorem overlay?_of_not_table (h : ∀ fields, upper ≠ table fields) (lower : Option Data) :
    overlay? lower (some upper) = some upper := by
  cases lower with
  | none => rfl
  | some covered => rw [overlay?, overlay_of_not_table h]

/-- Unless tables are joined, the upper value counts where there is one. -/
theorem overlay?_eq_or {lower upper : Option Data}
    (h : ∀ fields, overlay? lower upper ≠ some (table fields)) :
    overlay? lower upper = upper.or lower := by
  cases upper with
  | none => rw [overlay?_none, Option.none_or]
  | some d =>
    have hd : ∀ fields, d ≠ table fields := by
      rintro fields rfl
      obtain ⟨joined, heq⟩ := exists_overlay?_table lower fields
      exact h joined heq
    rw [overlay?_of_not_table hd, Option.some_or]

theorem field?_overlayFields_eq (name : String) (lower upper : List (String × Data)) :
    field? name (overlayFields lower upper) =
      overlay? (field? name lower) (field? name upper) := by
  rw [field?_overlayFields]
  cases field? name upper with
  | none => rw [overlay?_none]
  | some d => cases field? name lower <;> rfl

/-! ## Paths -/

/-- Nothing but tables of the tree lie on the path, as far as the tree goes. -/
def LeadsTo : (path : List String) → Data → Prop
  | [], _ => True
  | name :: path, table fields => ∀ d, field? name fields = some d → LeadsTo path d
  | _ :: _, _ => False

theorem at?_append (front back : List String) (d : Data) :
    at? (front ++ back) d = (at? front d).bind (at? back) := by
  induction front generalizing d with
  | nil => rfl
  | cons name front ih =>
    cases d with
    | table fields =>
      rw [List.cons_append, at?, at?, Option.bind_assoc]
      exact congrArg _ (funext ih)
    | _ => rfl

theorem at?_cons_eq_bind (name : String) (path : List String) (d : Data) :
    at? (name :: path) d = (at? [name] d).bind (at? path) := at?_append [name] path d

theorem leadsTo_table (name : String) (fields : List (String × Data)) :
    LeadsTo [name] (table fields) := fun _ _ => trivial

/-- A path leads as far as one name more if what stands before the name is a table. -/
theorem leadsTo_concat_iff (path : List String) (name : String) (d : Data) :
    LeadsTo (path ++ [name]) d ↔
      LeadsTo path d ∧ ∀ inner, at? path d = some inner → ∃ fields, inner = table fields := by
  induction path generalizing d with
  | nil =>
    constructor
    · intro h
      refine ⟨trivial, fun inner hinner => ?_⟩
      obtain rfl := Option.some.inj hinner
      cases d with
      | table fields => exact ⟨fields, rfl⟩
      | _ => exact absurd h id
    · rintro ⟨-, htable⟩
      obtain ⟨fields, rfl⟩ := htable d rfl
      exact leadsTo_table name fields
  | cons first path ih =>
    cases d with
    | table fields =>
      rw [List.cons_append, LeadsTo, LeadsTo, at?]
      cases field? first fields with
      | none => simp
      | some d => simpa using ih d
    | _ => exact ⟨fun h => absurd h id, fun h => absurd h.1 id⟩

theorem at?_eq_none_of_not_leadsTo (h : ¬LeadsTo path d) : at? path d = none := by
  induction path generalizing d with
  | nil => exact absurd trivial h
  | cons name path ih =>
    cases d with
    | table fields =>
      obtain ⟨d, hd⟩ := Classical.not_forall.1 h
      obtain ⟨hfield, hcut⟩ := Classical.not_imp.1 hd
      rw [at?, hfield]
      exact ih hcut
    | _ => rfl

/-- The values of a layered tree are values laid over one another. -/
theorem at?_overlay (h : LeadsTo path upper) :
    at? path (overlay lower upper) = overlay? (at? path lower) (at? path upper) := by
  induction path generalizing lower upper with
  | nil => rfl
  | cons name path ih =>
    cases upper with
    | table fields =>
      cases lower with
      | table inner =>
        rw [overlay, at?, at?, at?, field?_overlayFields_eq]
        cases hupper : field? name fields with
        | none => simp
        | some d =>
          cases field? name inner with
          | none => rfl
          | some covered => exact ih (h d hupper)
      | _ => exact (none_overlay? _).symm
    | _ => exact absurd h id

/-- A path that the upper tree cuts off leads nowhere. -/
theorem at?_overlay_of_not_leadsTo (h : ¬LeadsTo path upper) :
    at? path (overlay lower upper) = none := by
  induction path generalizing lower upper with
  | nil => exact absurd trivial h
  | cons name path ih =>
    cases upper with
    | table fields =>
      cases lower with
      | table inner =>
        obtain ⟨d, hd⟩ := Classical.not_forall.1 h
        obtain ⟨hfield, hcut⟩ := Classical.not_imp.1 hd
        rw [overlay, at?, field?_overlayFields_eq, hfield]
        cases field? name inner with
        | none => exact at?_eq_none_of_not_leadsTo hcut
        | some covered => exact ih hcut
      | _ => exact at?_eq_none_of_not_leadsTo h
    | _ =>
      rw [overlay_of_not_table fun _ => Data.noConfusion]
      rfl

theorem LeadsTo.overlay (hlower : LeadsTo path lower) (hupper : LeadsTo path upper) :
    LeadsTo path (Data.overlay lower upper) := by
  induction path generalizing lower upper with
  | nil => trivial
  | cons name path ih =>
    cases upper with
    | table fields =>
      cases lower with
      | table inner =>
        intro d hd
        rw [field?_overlayFields_eq] at hd
        cases hinner : field? name inner with
        | none =>
          rw [hinner, none_overlay?] at hd
          exact hupper d hd
        | some covered =>
          cases hfield : field? name fields with
          | none =>
            rw [hinner, hfield] at hd
            obtain rfl := Option.some.inj hd
            exact hlower _ hinner
          | some above =>
            rw [hinner, hfield] at hd
            obtain rfl := Option.some.inj hd
            exact ih (hlower _ hinner) (hupper _ hfield)
      | _ => exact hupper
    | _ => exact absurd hupper id

/-- A tree of one value has at and below the place of the value what the value has. -/
theorem at?_nest_append (path rest : List String) (d : Data) :
    at? (path ++ rest) (nest path d) = at? rest d := by
  rw [at?_append, at?_nest, Option.bind_some]

theorem at?_nest_cons (name first : String) (path more : List String) (d : Data) :
    at? (name :: path) (nest (first :: more) d) =
      if first = name then at? path (nest more d) else none := by
  change (field? name [(first, nest more d)]).bind _ = _
  rw [field?, field?]
  split <;> rfl

theorem leadsTo_nest_cons_iff {first : String} {more : List String} :
    LeadsTo (name :: path) (nest (first :: more) d) ↔
      (first = name → LeadsTo path (nest more d)) := by
  change (∀ inner, field? name [(first, nest more d)] = some inner → LeadsTo path inner) ↔ _
  by_cases h : first = name <;> simp [field?, h]

theorem leadsTo_nest_append_iff {rest : List String} :
    LeadsTo (path ++ rest) (nest path d) ↔ LeadsTo rest d := by
  induction path with
  | nil => rfl
  | cons name path ih => rw [List.cons_append, leadsTo_nest_cons_iff, ih, forall_prop_of_true rfl]

/-- A tree of one value has nothing at other places but tables, on the way to the value. -/
theorem nest_of_not_prefix {place : List String} (h : ¬path <+: place) (d : Data) :
    LeadsTo place (nest path d) ∧
      ∀ inner, at? place (nest path d) = some inner → ∃ fields, inner = table fields := by
  induction path generalizing place with
  | nil => exact absurd (List.nil_prefix) h
  | cons first more ih =>
    cases place with
    | nil => exact ⟨trivial, fun inner hinner => ⟨_, (Option.some.inj hinner).symm⟩⟩
    | cons name place =>
      rw [leadsTo_nest_cons_iff, at?_nest_cons]
      by_cases hname : first = name
      · rw [forall_prop_of_true hname, if_pos hname]
        exact ih fun hprefix => h (List.cons_prefix_cons.2 ⟨hname, hprefix⟩)
      · exact ⟨fun heq => absurd heq hname, fun inner hinner => by simp [hname] at hinner⟩

theorem isSome_overlay? (lower upper : Option Data) :
    (overlay? lower upper).isSome = (upper.isSome || lower.isSome) := by
  cases lower <;> cases upper <;> rfl

/-! ## Names that are not repeated -/

/-- No table in the tree has a name twice. -/
inductive Distinct : Data → Prop where
  | null : Distinct null
  | bool (b : Bool) : Distinct (bool b)
  | int (n : Int) : Distinct (int n)
  | real (mantissa exponent : Int) : Distinct (real mantissa exponent)
  | text (s : String) : Distinct (text s)
  | garbled : Distinct garbled
  | list {items : List Data} (hitems : ∀ d ∈ items, Distinct d) : Distinct (list items)
  | table {fields : List (String × Data)} (hnames : (fields.map Prod.fst).Nodup)
      (hfields : ∀ f ∈ fields, Distinct f.2) : Distinct (table fields)

theorem mem_of_field?_eq_some {α : Type} {name : String} {fields : List (String × α)} {value : α}
    (h : field? name fields = some value) : (name, value) ∈ fields := by
  induction fields with
  | nil => contradiction
  | cons f fs ih =>
    obtain ⟨n, v⟩ := f
    by_cases hn : n = name
    · rw [field?, if_pos hn] at h
      obtain rfl := Option.some.inj h
      exact hn ▸ List.mem_cons_self
    · rw [field?, if_neg hn] at h
      exact List.mem_cons_of_mem _ (ih h)

theorem mem_setField {α : Type} {name : String} {value : α} {fields : List (String × α)}
    {f : String × α} (h : f ∈ setField name value fields) : f = (name, value) ∨ f ∈ fields := by
  induction fields with
  | nil => exact Or.inl (List.mem_singleton.1 h)
  | cons g fs ih =>
    obtain ⟨n, v⟩ := g
    rw [setField] at h
    split at h
    · rcases List.mem_cons.1 h with rfl | hmem
      · exact Or.inl rfl
      · exact Or.inr (List.mem_cons_of_mem _ hmem)
    · rcases List.mem_cons.1 h with rfl | hmem
      · exact Or.inr List.mem_cons_self
      · exact (ih hmem).imp_right (List.mem_cons_of_mem _)

/-- A name that is set keeps its place, or comes to the end. -/
theorem map_fst_setField {α : Type} (name : String) (value : α) (fields : List (String × α)) :
    (setField name value fields).map Prod.fst =
      if name ∈ fields.map Prod.fst then fields.map Prod.fst
      else fields.map Prod.fst ++ [name] := by
  induction fields with
  | nil => rfl
  | cons f fs ih =>
    obtain ⟨n, v⟩ := f
    by_cases hn : n = name
    · simp [setField, hn]
    · rw [setField, if_neg hn, List.map_cons, ih]
      by_cases hmem : name ∈ fs.map Prod.fst
      · simp [hmem]
      · simp [hmem, Ne.symm hn]

theorem nodup_setField {α : Type} {fields : List (String × α)} (h : (fields.map Prod.fst).Nodup)
    (name : String) (value : α) : ((setField name value fields).map Prod.fst).Nodup := by
  rw [map_fst_setField]
  split
  case isTrue hmem => exact h
  case isFalse hmem =>
    rw [List.nodup_append]
    refine ⟨h, List.pairwise_singleton _ name, ?_⟩
    intro other hother name' hname'
    rw [List.mem_singleton.1 hname']
    rintro rfl
    exact hmem hother

namespace Distinct

variable {fields inner : List (String × Data)}

theorem of_field? (h : (Data.table fields).Distinct) (hd : field? name fields = some d) :
    d.Distinct := by
  cases h with
  | table hnames hfields => exact hfields _ (mem_of_field?_eq_some hd)

theorem of_at? (h : d.Distinct) {inner : Data} (hinner : at? path d = some inner) :
    inner.Distinct := by
  induction path generalizing d with
  | nil =>
    obtain rfl := Option.some.inj hinner
    exact h
  | cons name path ih =>
    cases d with
    | table fields =>
      obtain ⟨d, hd, hrest⟩ := Option.bind_eq_some_iff.1 hinner
      exact ih (h.of_field? hd) hrest
    | _ => contradiction

theorem setField (h : (Data.table fields).Distinct) (name : String) (hd : d.Distinct) :
    (Data.table (Data.setField name d fields)).Distinct := by
  cases h with
  | table hnames hfields =>
    refine .table (nodup_setField hnames name d) fun f hf => ?_
    rcases mem_setField hf with rfl | hf
    · exact hd
    · exact hfields f hf

theorem nest (hd : d.Distinct) (path : List String) : (Data.nest path d).Distinct := by
  induction path with
  | nil => exact hd
  | cons name path ih =>
    refine .table (List.pairwise_singleton _ name) fun f hf => ?_
    rw [List.mem_singleton.1 hf]
    exact ih

/-- Layers without repeated names make a tree without them. -/
theorem overlay (hlower : lower.Distinct) (hupper : upper.Distinct) :
    (Data.overlay lower upper).Distinct := by
  induction hupper generalizing lower with
  | @table fields hnames hfields ih =>
    cases lower with
    | table inner =>
      rw [Data.overlay]
      clear hnames
      induction fields with
      | nil => exact hlower
      | cons f fs ihfields =>
        obtain ⟨hf, hfs⟩ := List.forall_mem_cons.1 hfields
        obtain ⟨ihf, ihfs⟩ := List.forall_mem_cons.1 ih
        refine (ihfields hfs ihfs).setField f.1 ?_
        cases hcovered : field? f.1 inner with
        | none => exact hf
        | some covered => exact ihf (hlower.of_field? hcovered)
    | _ => exact .table hnames hfields
  | list hitems _ =>
    rw [overlay_of_not_table fun _ => Data.noConfusion]
    exact .list hitems
  | _ =>
    rw [overlay_of_not_table fun _ => Data.noConfusion]
    constructor

end Distinct

end PluginSandbox.Data
