import PluginSandbox.Proofs.Config.Section
import PluginSandbox.Proofs.Config.Variable

/-!
# The layers of settings

A setting has the value that variables give it, or else the value that the file has for it,
or else its default; extra patterns are layered entry by entry. What is no table counts as a
whole: a section that the file writes as a list has its settings by position, but nothing is
left of the list once a variable sets anything in the section. Variables that name no section
count for nothing.

## Main definitions

* `HostConfig.IsSetting`: the places of single values.
* `HostConfig.fileValue?`: what counts of a file.

## Main statements

* `HostConfig.section_cases`: how a layered section comes about.
* `HostConfig.setting_of_layered`, `HostConfig.entry_of_layered`: what is in a layered section.
* `HostConfig.value_of_load`: the values of all settings, by the tree of variables.
* `HostConfig.load_layers`: the same by single variables.
* `HostConfig.layers_replaced`: lists in the place of sections, and numbers in that of patterns.
-/

namespace PluginSandbox.HostConfig

open Data Text

/-- The names of the settings of a section, in their order. -/
def settingNames : (part : String) → List String
  | "network" => GuardConfig.fieldNames
  | "risk" => ["extra_broad_patterns"]
  | "abi" => ["max_allocation_bytes"]
  | "logging" => ["level", "format"]
  | _ => []

/-- The places of single values: those of settings, and of the entries of the extra patterns. -/
inductive IsSetting : (part : String) → (path : List String) → Prop where
  | named {part name : String} (hpart : part ≠ "risk") (hname : name ∈ settingNames part) :
    IsSetting part [name]
  | entry (category : String) : IsSetting "risk" ["extra_broad_patterns", category]

/-- What a file gives for the setting at the end of a path in a section. A section that is a list
gives its settings by position, unless a variable sets something in the section. -/
def fileValue? (file : Data) (env : List (String × String)) (part : String)
    (path : List String) : Option Data :=
  if Setting.Touches env part then at? (part :: path) file
  else (at? [part] file).bind fun d => at? path (d.named (settingNames part))

variable {file d : Data} {env : List (String × String)} {part : String} {path : List String}

/-! ## Layered sections -/

theorem exists_default_table (hpart : part ∈ sectionNames) :
    ∃ fields, at? [part] (toData {}) = some (table fields) := by
  simp only [sectionNames, List.mem_cons, List.not_mem_nil, or_false] at hpart
  rcases hpart with rfl | rfl | rfl | rfl <;> exact ⟨_, rfl⟩

theorem distinct_defaults : (toData {}).Distinct := by
  have hlist : (list []).Distinct := .list fun d hd => absurd hd List.not_mem_nil
  have htable : (table []).Distinct := Toml.noRepeats_nil
  have hnetwork : (GuardConfig.toData {}).Distinct := by
    refine .table (by decide) ?_
    simp [Distinct.bool, Distinct.int, ofWord64, ofTexts, hlist]
  have hrisk : (RiskConfig.toData {}).Distinct := by
    refine .table (by decide) ?_
    simp [htable]
  have hmemory : (table [("max_allocation_bytes", ofWord64 defaultBudget)]).Distinct := by
    refine .table (by decide) ?_
    simp [Distinct.int, ofWord64]
  have hlog : (LogConfig.toData {}).Distinct := by
    refine .table (by decide) ?_
    simp [Distinct.text]
  refine .table (by decide) ?_
  simp [hnetwork, hrisk, hmemory, hlog]

theorem exists_layered_table (hfile : ∃ fields, file = table fields) :
    ∃ fields, layered file env = table fields := by
  obtain ⟨fields, rfl⟩ := hfile
  obtain ⟨above, habove⟩ := Setting.exists_tree_table env
  rw [layered, habove]
  exact ⟨_, rfl⟩

/-- A section of the layered tree is that of the variables over that of the file over the
defaults. -/
theorem at?_layered (hfile : ∃ fields, file = table fields) (env : List (String × String))
    (part : String) : at? [part] (layered file env) =
      overlay? (overlay? (at? [part] (toData {})) (at? [part] file))
        (at? [part] (Setting.tree env)) := by
  obtain ⟨fields, rfl⟩ := hfile
  obtain ⟨above, habove⟩ := Setting.exists_tree_table env
  rw [layered, habove, at?_overlay (leadsTo_table part above),
    at?_overlay (leadsTo_table part fields)]

/-- Where the file has no list for a section, its settings are found by their names. -/
theorem fileValue?_of_not_list (h : ∀ items, at? [part] file ≠ some (list items))
    (path : List String) : fileValue? file env part path = at? (part :: path) file := by
  rw [fileValue?]
  split
  · rfl
  · rw [at?_cons_eq_bind part path]
    cases hsection : at? [part] file with
    | none => rfl
    | some d =>
      have hlist : ∀ items, d ≠ list items := by
        rintro items rfl
        exact h items hsection
      rw [Option.bind_some, Option.bind_some, named_of_not_list hlist]

/-- A layered section is the list that the file has, if no variable sets anything in the section;
otherwise settings of all layers are found by their names. -/
theorem section_cases (hfile : ∃ fields, file = table fields) (hpart : part ∈ sectionNames)
    (hd : at? [part] (layered file env) = some d) :
    (at? [part] (Setting.tree env) = none ∧
      ∀ path, fileValue? file env part path = at? path (d.named (settingNames part))) ∨
    ∀ path, at? path (d.named (settingNames part)) = at? (part :: path) (layered file env) ∧
      fileValue? file env part path = at? (part :: path) file := by
  have hlayers := at?_layered hfile env part
  rw [hd] at hlayers
  have hpath (path : List String) : at? path d = at? (part :: path) (layered file env) := by
    rw [at?_cons_eq_bind, hd, Option.bind_some]
  have htouches := Setting.isSome_at?_tree env part
  cases hvars : at? [part] (Setting.tree env) with
  | some above =>
    -- What variables set in a section is a table, and so is the section.
    obtain ⟨fields, rfl⟩ := ((leadsTo_concat_iff [part] part _).1
      (Setting.leadsTo_tree env part part)).2 above hvars
    obtain ⟨joined, hjoined⟩ := exists_overlay?_table
      (overlay? (at? [part] (toData {})) (at? [part] file)) fields
    rw [hvars, hjoined] at hlayers
    obtain rfl := Option.some.inj hlayers
    rw [hvars] at htouches
    exact Or.inr fun path => ⟨hpath path, if_pos (htouches.1 rfl)⟩
  | none =>
    obtain ⟨fields, hdefault⟩ := exists_default_table hpart
    rw [hvars, overlay?_none, hdefault] at hlayers
    by_cases hlist : ∃ items, at? [part] file = some (list items)
    · obtain ⟨items, hitems⟩ := hlist
      rw [hitems, overlay?, overlay_of_not_table fun _ => Data.noConfusion] at hlayers
      obtain rfl := Option.some.inj hlayers
      refine Or.inl ⟨rfl, fun path => ?_⟩
      rw [hvars] at htouches
      have hnone : ¬Setting.Touches env part := fun h => Bool.false_ne_true (htouches.2 h)
      rw [fileValue?, if_neg hnone, hitems]
      rfl
    · have hnot : ∀ items, at? [part] file ≠ some (list items) := fun items h => hlist ⟨items, h⟩
      refine Or.inr fun path => ⟨?_, fileValue?_of_not_list hnot path⟩
      rw [named_of_not_list, hpath]
      rintro items rfl
      cases hsection : at? [part] file with
      | none =>
        rw [hsection] at hlayers
        exact Data.noConfusion (Option.some.inj hlayers)
      | some f =>
        rw [hsection] at hlayers
        by_cases htable : ∃ inner, f = table inner
        · obtain ⟨inner, rfl⟩ := htable
          exact Data.noConfusion (Option.some.inj hlayers)
        · rw [overlay?, overlay_of_not_table fun inner h => htable ⟨inner, h⟩] at hlayers
          exact hnot items (hsection.trans hlayers.symm)

/-- What the file has at a place that its layer does not lead to is nothing, and so is what it lays
over the defaults there. -/
theorem at?_over_defaults (path : List String) (file : Data) :
    at? path ((toData {}).overlay file) = overlay? (at? path (toData {})) (at? path file) ∨
      at? path ((toData {}).overlay file) = none ∧ at? path file = none := by
  by_cases hleads : LeadsTo path file
  · exact Or.inl (at?_overlay hleads)
  · exact Or.inr ⟨at?_overlay_of_not_leadsTo hleads, at?_eq_none_of_not_leadsTo hleads⟩

/-! ## Settings of one value -/

/-- A setting that is no table has the value that the tree of variables has for it, or else that of
the file, or else its default. -/
theorem setting_of_layered (hfile : ∃ fields, file = table fields) (hpart : part ∈ sectionNames)
    (hd : at? [part] (layered file env) = some d) {name : String}
    (htable : ∀ fields, at? [name] (d.named (settingNames part)) ≠ some (table fields)) :
    (at? [name] (d.named (settingNames part))).or (at? [part, name] (toData {})) =
      (at? [part, name] (Setting.tree env)).or
        ((fileValue? file env part [name]).or (at? [part, name] (toData {}))) := by
  rcases section_cases hfile hpart hd with ⟨hvars, hvalue⟩ | hnamed
  · rw [at?_cons_eq_bind part [name] (Setting.tree env), hvars, Option.bind_none, Option.none_or,
      hvalue]
  · obtain ⟨hlayered, hvalue⟩ := hnamed [name]
    rw [hvalue]
    rw [hlayered] at htable ⊢
    rw [layered, at?_overlay (Setting.leadsTo_tree env part name)] at htable ⊢
    rw [overlay?_eq_or htable, Option.or_assoc]
    cases hvars : at? [part, name] (Setting.tree env) with
    | some value => rfl
    | none =>
      rw [hvars, overlay?_none] at htable
      rw [Option.none_or, Option.none_or]
      rcases at?_over_defaults [part, name] file with hover | ⟨hover, hnone⟩
      · rw [hover] at htable ⊢
        rw [overlay?_eq_or htable, Option.or_assoc, Option.or_self]
      · rw [hover, hnone, Option.none_or]

/-! ## Extra patterns -/

/-- Extra patterns are layered entry by entry. -/
theorem entry_of_layered (hfile : ∃ fields, file = table fields)
    (hd : at? ["risk"] (layered file env) = some d) {name : String}
    (hextra : ∀ extra, at? [name] (d.named (settingNames "risk")) = some extra →
      ∃ fields, extra = table fields)
    (category : String) (hdefault : at? ["risk", name, category] (toData {}) = none)
    (htable : ∀ fields, at? [name, category] (d.named (settingNames "risk")) ≠
      some (table fields)) :
    at? [name, category] (d.named (settingNames "risk")) =
      (at? ["risk", name, category] (Setting.tree env)).or
        (fileValue? file env "risk" [name, category]) := by
  rcases section_cases hfile (by decide) hd with ⟨hvars, hvalue⟩ | hnamed
  · rw [at?_cons_eq_bind "risk", hvars, Option.bind_none, Option.none_or, hvalue]
  · obtain ⟨hlayered, hvalue⟩ := hnamed [name, category]
    have hleads : LeadsTo ["risk", name, category] (Setting.tree env) := by
      refine (leadsTo_concat_iff ["risk", name] category _).2
        ⟨Setting.leadsTo_tree env "risk" name, fun inner hinner => ?_⟩
      refine Classical.byContradiction fun hnot => hnot (hextra inner ?_)
      rw [(hnamed [name]).1, layered, at?_overlay (Setting.leadsTo_tree env "risk" name), hinner]
      exact overlay?_of_not_table (fun fields heq => hnot ⟨fields, heq⟩) _
    rw [hvalue]
    rw [hlayered, layered, at?_overlay hleads] at htable ⊢
    rw [overlay?_eq_or htable]
    rcases at?_over_defaults ["risk", name, category] file with hover | ⟨hover, hnone⟩
    · rw [hover, hdefault, none_overlay?]
    · rw [hover, hnone]

/-! ## Settings -/

/-- What the settings that a layered tree holds say about its sections. -/
theorem exists_sections (hlayered : ∃ fields, d = table fields) {config : HostConfig}
    (h : ofData .layered d = some config) :
    defaulted (GuardConfig.ofData .layered) {} (at? ["network"] d) = some config.network ∧
      defaulted (RiskConfig.ofData .layered) {} (at? ["risk"] d) = some config.risk ∧
      defaulted (readBudget .layered) defaultBudget (at? ["abi"] d) = some config.memoryBudget ∧
      defaulted (LogConfig.ofData .layered) {} (at? ["logging"] d) = some config.log := by
  obtain ⟨fields, rfl⟩ := hlayered
  obtain ⟨record, hrecord, h⟩ := Option.bind_eq_some_iff.1 h
  rw [values_readRecord (by decide) hrecord] at h
  simp only [sectionNames, List.map_cons, List.map_nil, Option.bind_eq_bind,
    Option.bind_eq_some_iff, Option.some.injEq] at h
  obtain ⟨network, hnetwork, risk, hrisk, memory, hmemory, log, hlog, rfl⟩ := h
  exact ⟨hnetwork, hrisk, hmemory, hlog⟩

theorem exists_section (hfile : ∃ fields, file = table fields) (env : List (String × String))
    (hpart : part ∈ sectionNames) : ∃ d, at? [part] (layered file env) = some d := by
  obtain ⟨fields, hdefault⟩ := exists_default_table hpart
  rw [← Option.isSome_iff_exists, at?_layered hfile, isSome_overlay?, isSome_overlay?, hdefault]
  simp

/-- Every setting of one value is layered if its section keeps it and it is no table. -/
theorem setting_of_section (hfile : ∃ fields, file = table fields) (hpart : part ∈ sectionNames)
    (hd : at? [part] (layered file env) = some d) {kept : Data} {name : String}
    (hkept : at? [name] kept =
      (at? [name] (d.named (settingNames part))).or (at? [part, name] (toData {})))
    (htable : ∀ fields, at? [name] kept ≠ some (table fields)) :
    at? [name] kept = (at? [part, name] (Setting.tree env)).or
      ((fileValue? file env part [name]).or (at? [part, name] (toData {}))) := by
  rw [hkept]
  refine setting_of_layered hfile hpart hd fun fields h => htable fields ?_
  rw [hkept, h, Option.some_or]

theorem mem_sectionNames_of_mem_settingNames {name : String} (hname : name ∈ settingNames part) :
    part ∈ sectionNames := by
  unfold settingNames at hname
  split at hname
  case h_5 => exact absurd hname List.not_mem_nil
  all_goals decide

/-- No setting of one value is a table. -/
theorem toData_ne_table (config : HostConfig) (hsetting : IsSetting part path)
    (fields : List (String × Data)) : at? (part :: path) config.toData ≠ some (table fields) := by
  cases hsetting with
  | entry category => exact RiskConfig.toData_ne_table config.risk category fields
  | @named part name hrisk hname =>
    have hpart := mem_sectionNames_of_mem_settingNames hname
    simp only [sectionNames, List.mem_cons, List.not_mem_nil, or_false] at hpart
    rcases hpart with rfl | rfl | rfl | rfl
    · exact GuardConfig.toData_ne_table config.network name fields
    · exact absurd rfl hrisk
    · obtain rfl := List.mem_singleton.1 hname
      exact fun h => nomatch h
    · exact LogConfig.toData_ne_table config.log name fields

theorem setting_of_load (hfile : ∃ fields, file = table fields) {config : HostConfig}
    (h : ofData .layered (layered file env) = some config) (hrisk : part ≠ "risk") {name : String}
    (hname : name ∈ settingNames part) :
    at? [part, name] config.toData = (at? [part, name] (Setting.tree env)).or
      ((fileValue? file env part [name]).or (at? [part, name] (toData {}))) := by
  have hpart := mem_sectionNames_of_mem_settingNames hname
  have htable := toData_ne_table config (.named hrisk hname)
  obtain ⟨hnetwork, -, hmemory, hlog⟩ := exists_sections (exists_layered_table hfile) h
  obtain ⟨d, hd⟩ := exists_section hfile env hpart
  simp only [sectionNames, List.mem_cons, List.not_mem_nil, or_false] at hpart
  rcases hpart with rfl | rfl | rfl | rfl
  · rw [hd] at hnetwork
    have hkept := GuardConfig.at?_toData hnetwork name hname
    exact setting_of_section hfile (by decide) hd hkept htable
  · exact absurd rfl hrisk
  · rw [hd] at hmemory
    obtain rfl := List.mem_singleton.1 hname
    have hkept := some_ofWord64_of_readBudget hmemory
    exact setting_of_section hfile (by decide) hd hkept htable
  · rw [hd] at hlog
    have hkept := LogConfig.at?_toData hlog name hname
    exact setting_of_section hfile (by decide) hd hkept htable

theorem entry_of_load (hfile : ∃ fields, file = table fields) (hdistinct : file.Distinct)
    {config : HostConfig} (h : ofData .layered (layered file env) = some config)
    (category : String) :
    at? ["risk", "extra_broad_patterns", category] config.toData =
      (at? ["risk", "extra_broad_patterns", category] (Setting.tree env)).or
        (fileValue? file env "risk" ["extra_broad_patterns", category]) := by
  obtain ⟨-, hrisk, -, -⟩ := exists_sections (exists_layered_table hfile) h
  have hpart : "risk" ∈ sectionNames := by decide
  obtain ⟨d, hd⟩ := exists_section hfile env hpart
  rw [hd] at hrisk
  have hsection : d.Distinct := by
    have hlayered : (layered file env).Distinct :=
      (distinct_defaults.overlay hdistinct).overlay (Setting.distinct_tree env)
    exact hlayered.of_at? hd
  have hkept := RiskConfig.at?_toData hrisk hsection category
  have hentry := entry_of_layered hfile hd
    (fun extra => RiskConfig.exists_table_of_ofData hrisk) category rfl fun fields htable =>
      RiskConfig.toData_ne_table config.risk category fields (hkept.trans htable)
  exact hkept.trans hentry

/-- Every setting has the value that the tree of variables has for it, or else that of the file, or
else its default. -/
theorem value_of_load (hfile : ∃ fields, file = table fields) (hdistinct : file.Distinct)
    {config : HostConfig} (h : ofData .layered (layered file env) = some config)
    (hsetting : IsSetting part path) :
    at? (part :: path) config.toData = (at? (part :: path) (Setting.tree env)).or
      ((fileValue? file env part path).or (at? (part :: path) (toData {}))) := by
  cases hsetting with
  | named hpart hname => exact setting_of_load hfile h hpart hname
  | entry category =>
    have hdefault : at? ["risk", "extra_broad_patterns", category] (toData {}) = none := rfl
    rw [hdefault, Option.or_none]
    exact entry_of_load hfile hdistinct h category

/-- A setting is given by variables of its name, and by no others. -/
theorem gives_setting_iff {name : String} (hname : name ∈ settingNames part)
    {v : String × String} {d : Data} : Setting.Gives v [part, name] d ↔
      Setting.IsNamed v.1 part name.toList ∧ Setting.readValue v.2 = d := by
  have hlevels : ∀ part ∈ sectionNames, ∀ name ∈ settingNames part,
      name ≠ "" ∧ '.' ∉ name.toList ∧ ¬['_', '_'] <:+: name.toList := by decide +kernel
  have hpart := mem_sectionNames_of_mem_settingNames hname
  obtain ⟨hnonempty, hpoint, hpair⟩ := hlevels part hpart name hname
  rw [Setting.gives_pair_iff, Setting.names_pair_iff hpart hnonempty ⟨hpoint, hpair⟩]

theorem load_eq_ok_iff {text : Option String} {config : HostConfig} :
    load text env = .ok config ↔ ∃ file, fileLayer text = some file ∧
      ofData .layered (layered file env) = some config ∧ config.network.check = .ok () := by
  rw [load]
  constructor
  · intro h
    split at h
    case h_1 => contradiction
    case h_2 held hheld =>
      obtain ⟨file, hfile, hread⟩ := Option.bind_eq_some_iff.1 hheld
      split at h
      case h_1 done hcheck =>
        obtain rfl := Except.ok.inj h
        exact ⟨file, hfile, hread, hcheck⟩
      case h_2 => contradiction
  · rintro ⟨file, hfile, hread, hcheck⟩
    rw [hfile, Option.bind_some, hread]
    dsimp only
    rw [hcheck]

/-- **Loading layers settings.** A setting is given by the variables of its name; an entry of the
extra patterns also by those with a table of all entries, and one with no table for them cuts it
off. Every setting that is loaded has the value that the last variable gives it, unless a later one
cuts it off, or else that of the file, or else its default; and the network settings are usable. A
variable whose name does not start with the mark, a section and two underscores never makes a
difference, to the settings or to the error. -/
theorem load_layers (source : Option String) :
    (∀ (part name : String), name ∈ settingNames part → ∀ (v : String × String) (d : Data),
      Setting.Gives v [part, name] d ↔
        Setting.IsNamed v.1 part name.toList ∧ Setting.readValue v.2 = d) ∧
    (∀ (env : List (String × String)) (config : HostConfig), load source env = .ok config →
      ∃ file, fileLayer source = some file ∧
        (∀ part path, IsSetting part path →
          (∀ d, Setting.LastGives env (part :: path) d →
            at? (part :: path) config.toData = some d) ∧
          ((∀ d, ¬Setting.LastGives env (part :: path) d) →
            at? (part :: path) config.toData =
              (fileValue? file env part path).or (at? (part :: path) (toData {})))) ∧
        config.network.check = .ok ()) ∧
    ∀ (before after : List (String × String)) (v : String × String),
      (∀ part ∈ ["network", "risk", "abi", "logging"], ∀ text, ¬Setting.IsNamed v.1 part text) →
      load source (before ++ v :: after) = load source (before ++ after) := by
  refine ⟨fun part name hname v d => gives_setting_iff hname, ?_, ?_⟩
  · intro env config hload
    obtain ⟨file, hfile, hread, hcheck⟩ := load_eq_ok_iff.1 hload
    obtain ⟨hdistinct, htable⟩ := distinct_of_fileLayer hfile
    refine ⟨file, hfile, fun part path hsetting => ?_, hcheck⟩
    have hvalue := value_of_load htable hdistinct hread hsetting
    have htree (fields : List (String × Data)) :
        at? (part :: path) (Setting.tree env) ≠ some (table fields) := by
      intro hvars
      rw [hvars, Option.some_or] at hvalue
      exact toData_ne_table config hsetting fields hvalue
    have hlast (d : Data) : at? (part :: path) (Setting.tree env) = some d ↔
        Setting.LastGives env (part :: path) d := Setting.at?_tree_eq_some_iff htree
    constructor
    · intro d hgives
      rw [hvalue, (hlast d).2 hgives, Option.some_or]
    · intro hnone
      have hvars : at? (part :: path) (Setting.tree env) = none :=
        Option.eq_none_iff_forall_ne_some.2 fun d hd => hnone d ((hlast d).1 hd)
      rw [hvalue, hvars, Option.none_or]
  · intro before after v hunrelated
    have htree : Setting.tree (before ++ v :: after) = Setting.tree (before ++ after) := by
      rw [Setting.tree, Setting.tree, List.filterMap_append, List.filterMap_append,
        List.filterMap_cons_none (Setting.ofVariable_of_unrelated hunrelated)]
    simp only [load, layered, htree]

/-- A file with parts of two sections, two variables for one setting, one for an entry beside that
of the file, and one that names no section. -/
theorem load_layers_partial_sections :
    let source := "[network]\nblock_private = false\n[risk.extra_broad_patterns]\nexec = [\"sh\"]\n"
    let first := ("MOAT_NETWORK__RESOLVE_DNS", "false")
    let second := (" moat_Network__resolve_dns", "true")
    let entry := ("MOAT_RISK__EXTRA_BROAD_PATTERNS.READ", "[\"/srv\"]")
    let config : HostConfig :=
      { network := { blockPrivate := false }, risk := ⟨[("exec", ["sh"]), ("read", ["/srv"])]⟩ }
    load (some source) ([first, second, entry] ++ [("MOAT_PLUGIN_DIR", "/opt")]) = .ok config ∧
      config.network.check = .ok () ∧
      at? ["network", "resolve_dns"] config.toData = some (Setting.readValue second.2) ∧
      at? ["risk", "extra_broad_patterns", "read"] config.toData =
        some (Setting.readValue entry.2) ∧
      ∃ file, fileLayer (some source) = some file ∧
        at? ["network", "block_private"] config.toData =
          (fileValue? file [first, second, entry] "network" ["block_private"]).or
            (at? ["network", "block_private"] (toData {})) := by
  intro source first second entry config
  have hheld : ((fileLayer (some source)).bind fun file =>
      ofData .layered (layered file [first, second, entry])) = some config := by decide +kernel
  obtain ⟨file, hfile, hread⟩ := Option.bind_eq_some_iff.1 hheld
  have hload : load (some source) [first, second, entry] = .ok config :=
    load_eq_ok_iff.2 ⟨file, hfile, hread, rfl⟩
  obtain ⟨hgives, hlayers, hunrelated⟩ := load_layers (some source)
  obtain ⟨file, hfile, hvalue, hcheck⟩ := hlayers _ config hload
  have hfirst : Setting.Names first.1 ["network", "resolve_dns"] := by decide +kernel
  have hsecond : Setting.Names second.1 ["network", "resolve_dns"] := by decide +kernel
  have hentry : Setting.Names entry.1 ["risk", "extra_broad_patterns", "read"] := by
    decide +kernel
  refine ⟨?_, hcheck, ?_, ?_, file, hfile, ?_⟩
  · rw [hunrelated _ [] ("MOAT_PLUGIN_DIR", "/opt"), List.append_nil, hload]
    have hname : lower (trim "MOAT_PLUGIN_DIR".toList) = "moat_plugin_dir".toList := by
      decide +kernel
    intro part hpart text h
    rw [Setting.IsNamed, hname] at h
    simp only [List.mem_cons, List.not_mem_nil, or_false] at hpart
    rcases hpart with rfl | rfl | rfl | rfl <;> simp at h
  · refine (hvalue "network" ["resolve_dns"] (.named (by decide) (by decide))).1 _ ?_
    have hnamed : Setting.IsNamed second.1 "network" "resolve_dns".toList := by decide +kernel
    refine ⟨[first], second, [entry], rfl, (hgives _ _ (by decide) _ _).2 ⟨hnamed, rfl⟩, ?_⟩
    exact List.forall_mem_singleton.2 (hentry.silent (by decide +kernel))
  · refine (hvalue "risk" _ (.entry "read")).1 _ ?_
    refine ⟨[first, second], entry, [], rfl, hentry.gives, ?_⟩
    exact fun v hv => absurd hv List.not_mem_nil
  · refine (hvalue "network" ["block_private"] (.named (by decide) (by decide))).2 ?_
    refine Setting.not_lastGives_of_forall (List.forall_mem_cons.2 ⟨?_, ?_⟩)
    · exact (hfirst.silent (by decide +kernel)).2
    · refine List.forall_mem_cons.2 ⟨(hsecond.silent (by decide +kernel)).2, ?_⟩
      exact List.forall_mem_singleton.2 (hentry.silent (by decide +kernel)).2

/-- What is no table is replaced as a whole. A section that is a list is lost once a variable sets
something in it, whether its items count as values that the file gives, as that of the network
section shows, or not, as that of the log shows. And a variable that gives the extra patterns a
number takes away what an earlier one has given an entry, although no later one sets that entry. -/
theorem layers_replaced :
    (let source := "network = [false]\nlogging = [\"debug\"]\n"
      let env := [("MOAT_NETWORK__BLOCK_PRIVATE", "false")]
      ∃ file config, fileLayer (some source) = some file ∧ load (some source) env = .ok config ∧
        (∀ v ∈ env, ¬Setting.IsNamed v.1 "network" "resolve_dns".toList ∧
          ¬Setting.IsNamed v.1 "logging" "level".toList) ∧
        at? ["network", "resolve_dns"] config.toData ≠
          ((at? ["network"] file).bind fun d =>
            at? ["resolve_dns"] (d.named GuardConfig.fieldNames)).or
              (at? ["network", "resolve_dns"] (toData {})) ∧
        at? ["logging", "level"] config.toData ≠
          (at? ["logging", "level"] file).or (at? ["logging", "level"] (toData {}))) ∧
    (let source := "[risk.extra_broad_patterns]\nexec = [\"ls\"]\n"
      let setter := ("MOAT_RISK__EXTRA_BROAD_PATTERNS__EXEC", "[\"sh\"]")
      let others := [("MOAT_RISK__EXTRA_BROAD_PATTERNS", "5"),
        ("MOAT_RISK__EXTRA_BROAD_PATTERNS__READ", "[\"/srv\"]")]
      ∃ config, load (some source) (setter :: others) = .ok config ∧
        Setting.IsNamed setter.1 "risk" "extra_broad_patterns__exec".toList ∧
        (∀ v ∈ others, ¬Setting.IsNamed v.1 "risk" "extra_broad_patterns__exec".toList) ∧
        at? ["risk", "extra_broad_patterns", "exec"] config.toData ≠
          some (Setting.readValue setter.2)) := by
  constructor
  · intro source env
    let config : HostConfig := { network := { blockPrivate := false }, log := { level := "debug" } }
    have hheld : ((fileLayer (some source)).bind fun file => ofData .layered (layered file env)) =
        some config := by decide +kernel
    have hitem : ((fileLayer (some source)).bind fun file => ((at? ["network"] file).bind fun d =>
        at? ["resolve_dns"] (d.named GuardConfig.fieldNames)).bind readBool) = some false := by
      decide +kernel
    have hlevel : ((fileLayer (some source)).map fun file =>
        (at? ["logging", "level"] file).isNone) = some true := by decide +kernel
    obtain ⟨file, hfile, hitem⟩ := Option.bind_eq_some_iff.1 hitem
    obtain ⟨d, hd, hfalse⟩ := Option.bind_eq_some_iff.1 hitem
    rw [isExactReader_readBool d false hfalse] at hd
    rw [hfile, Option.map_some, Option.some.injEq, Option.isNone_iff_eq_none] at hlevel
    rw [hfile, Option.bind_some] at hheld
    refine ⟨file, config, hfile, load_eq_ok_iff.2 ⟨file, hfile, hheld, rfl⟩, ?_, ?_, ?_⟩
    · decide +kernel
    · rw [hd]
      exact fun h => nomatch h
    · rw [hlevel]
      exact fun h => absurd (Data.text.inj (Option.some.inj h)) (by decide)
  · intro source setter others
    let config : HostConfig := { risk := ⟨[("exec", ["ls"]), ("read", ["/srv"])]⟩ }
    have hheld : ((fileLayer (some source)).bind fun file =>
        ofData .layered (layered file (setter :: others))) = some config := by decide +kernel
    have hvalue : readTexts (Setting.readValue setter.2) = some ["sh"] := by decide +kernel
    obtain ⟨file, hfile, hread⟩ := Option.bind_eq_some_iff.1 hheld
    refine ⟨config, load_eq_ok_iff.2 ⟨file, hfile, hread, rfl⟩, by decide +kernel,
      by decide +kernel, ?_⟩
    intro h
    have hlists : readTexts (ofTexts ["ls"]) = readTexts (Setting.readValue setter.2) :=
      congrArg readTexts (Option.some.inj h)
    rw [hvalue] at hlists
    exact absurd hlists (by decide)

end PluginSandbox.HostConfig
