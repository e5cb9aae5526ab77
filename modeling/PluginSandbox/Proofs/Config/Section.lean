import PluginSandbox.Codec.Settings
import PluginSandbox.Proofs.Codec.Record
import PluginSandbox.Proofs.Data.Overlay

/-!
# Reading sections

A section is read from a table by name or from a list by position. Either way a setting that
is there is kept as it is, and one that is missing has its default. The extra patterns are
kept entry by entry, in the order of their names.

## Main definitions

* `Data.named`: a list as the table that it stands for.

## Main statements

* `values_readRecord`: a record from a list is one from a table.
* `GuardConfig.at?_toData`, `LogConfig.at?_toData`, `at?_of_readBudget`: the settings of a section.
* `RiskConfig.at?_toData`: the extra patterns.
-/

namespace PluginSandbox

open Data

/-! ## Records -/

/-- A list of values stands for the table that has them under the names of fields in order. -/
def Data.named (names : List String) : Data → Data
  | list items => table (names.zip items)
  | d => d

theorem Data.named_of_not_list {d : Data} (h : ∀ items, d ≠ list items) (names : List String) :
    d.named names = d := by
  cases d with
  | list items => exact absurd rfl (h items)
  | _ => rfl

theorem at?_singleton (name : String) (fields : List (String × Data)) :
    at? [name] (table fields) = field? name fields := by
  rw [at?]
  cases field? name fields <;> rfl

theorem Data.Distinct.named {names : List String} (hnames : names.Nodup) {d : Data}
    (hd : d.Distinct) : (d.named names).Distinct := by
  cases hd with
  | @list items hitems =>
    have hsub : ((names.zip items).map Prod.fst).Sublist names := by
      rw [← fieldsOf_map_some]
      exact map_fst_fieldsOf_sublist names _
    exact .table (hsub.nodup hnames) fun f hf => hitems f.2 (List.of_mem_zip hf).2
  | table hfieldNames hfields => exact .table hfieldNames hfields
  | _ => constructor

/-- Items by position are the values of their names. -/
theorem mapIdx_getElem? {names : List String} (hnames : names.Nodup) (items : List Data) :
    (names.mapIdx fun i _ => items[i]?) = names.map fun name => field? name (names.zip items) := by
  induction names generalizing items with
  | nil => rfl
  | cons name names ih =>
    obtain ⟨hname, hnames⟩ := List.nodup_cons.1 hnames
    rw [List.mapIdx_cons, List.map_cons]
    cases items with
    | nil =>
      rw [List.zip_nil_right]
      exact congrArg _ (List.ext_getElem (by simp) (by simp [field?]))
    | cons d items =>
      have hothers : names.map (fun other => field? other ((name, d) :: names.zip items)) =
          names.map fun other => field? other (names.zip items) := by
        refine List.map_congr_left fun other hother => if_neg ?_
        rintro rfl
        exact hname hother
      rw [List.zip_cons_cons, hothers, ← ih hnames]
      simp [field?]

/-- A record from a list is one from the table that the list stands for. -/
theorem values_readRecord {dialect : Dialect} {closed : Bool} {names : List String}
    (hnames : names.Nodup) {d : Data} {record : Record}
    (h : readRecord dialect closed names d = some record) :
    record.values = names.map fun name => at? [name] (d.named names) := by
  cases d with
  | table fields =>
    rw [readRecord] at h
    split at h
    · contradiction
    split at h
    · contradiction
    obtain rfl := Option.some.inj h
    exact List.map_congr_left fun name _ => (at?_singleton name fields).symm
  | list items =>
    rw [readRecord] at h
    split at h
    · contradiction
    obtain rfl := Option.some.inj h
    rw [mapIdx_getElem? hnames]
    exact List.map_congr_left fun name _ => (at?_singleton name _).symm
  | _ => contradiction

/-! ## Values -/

section Values

variable {α : Type} {read : Data → Option α} {write : α → Data}

/-- Nothing but what is written for a value is read as it. -/
def IsExactReader (read : Data → Option α) (write : α → Data) : Prop :=
  ∀ d a, read d = some a → d = write a

/-- A setting that is there is kept, and one that is missing has its default. -/
theorem some_write_of_defaulted (hexact : IsExactReader read write) {value : Option Data}
    {fallback a : α} (h : defaulted read fallback value = some a) :
    some (write a) = value.or (some (write fallback)) := by
  cases value with
  | none =>
    obtain rfl := Option.some.inj h
    rfl
  | some d => rw [Option.some_or, hexact d a h]

theorem isExactReader_readBool : IsExactReader readBool .bool := by
  intro d b h
  cases d with
  | bool own => rw [Option.some.inj h]
  | _ => contradiction

theorem isExactReader_readText : IsExactReader readText .text := by
  intro d s h
  cases d with
  | text own => rw [Option.some.inj h]
  | _ => contradiction

theorem isExactReader_readNatUpTo (max : Nat) :
    IsExactReader (readNatUpTo max) fun n => .int n := by
  intro d n h
  cases d with
  | int m =>
    rw [readNatUpTo] at h
    split at h
    case isTrue hbounds =>
      obtain rfl := Option.some.inj h
      exact congrArg Data.int (Int.toNat_of_nonneg hbounds.1).symm
    case isFalse => contradiction
  | _ => contradiction

theorem le_of_readNatUpTo {max n : Nat} {d : Data} (h : readNatUpTo max d = some n) : n ≤ max := by
  cases d with
  | int m =>
    rw [readNatUpTo] at h
    split at h
    case isTrue hbounds =>
      rw [← Option.some.inj h]
      omega
    case isFalse => contradiction
  | _ => contradiction

theorem isExactReader_readWord64 : IsExactReader readWord64 .ofWord64 := by
  intro d w h
  obtain ⟨n, hn, rfl⟩ := Option.map_eq_some_iff.1 h
  have hle := le_of_readNatUpTo hn
  rw [isExactReader_readNatUpTo _ d n hn, ofWord64,
    UInt64.toNat_ofNat_of_lt' (Nat.lt_succ_of_le hle)]

theorem isExactReader_readPortNumber : IsExactReader readPortNumber .ofPort := by
  intro d port h
  obtain ⟨n, hn, rfl⟩ := Option.map_eq_some_iff.1 h
  have hle := le_of_readNatUpTo hn
  rw [isExactReader_readNatUpTo _ d n hn, ofPort,
    UInt16.toNat_ofNat_of_lt' (Nat.lt_succ_of_le hle)]

theorem IsExactReader.readList (hexact : IsExactReader read write) :
    IsExactReader (readList read) fun as => .list (as.map write) := by
  intro d as h
  cases d with
  | list items =>
    have hitems : items = as.map write := by
      rw [PluginSandbox.readList] at h
      induction items generalizing as with
      | nil =>
        obtain rfl := Option.some.inj h
        rfl
      | cons d items ih =>
        rw [List.mapM_cons] at h
        obtain ⟨a, ha, hrest⟩ := Option.bind_eq_some_iff.1 h
        obtain ⟨others, hothers, heq⟩ := Option.bind_eq_some_iff.1 hrest
        obtain rfl := Option.some.inj heq
        rw [List.map_cons, ← ih others hothers, hexact d a ha]
    rw [hitems]
  | _ => contradiction

theorem isExactReader_readTexts : IsExactReader readTexts .ofTexts :=
  isExactReader_readText.readList

/-- Layered settings name a variant by its name alone. -/
theorem isExactReader_readVariant {variants : List (String × α)} {code : α → String}
    (hcode : ∀ v ∈ variants, v.1 = code v.2) :
    IsExactReader (readVariant .layered variants) fun a => .text (code a) := by
  intro d a h
  cases d with
  | text s =>
    obtain ⟨front, back, heq, -⟩ := List.lookup_eq_some_iff.1 h
    have hmem : (s, a) ∈ variants := by
      rw [heq]
      exact List.mem_append_right front List.mem_cons_self
    exact congrArg Data.text (hcode (s, a) hmem)
  | table fields =>
    unfold readVariant at h
    split at h <;> contradiction
  | _ => contradiction

theorem isExactReader_logFormat :
    IsExactReader (LogFormat.ofData .layered) fun format => .text format.code :=
  isExactReader_readVariant (by simp)

/-! ## Maps -/

theorem field?_insertField_self (name : String) (value : α) (fields : List (String × α)) :
    field? name (insertField name value fields) = some value := by
  fun_induction insertField name value fields with
  | case1 => exact if_pos rfl
  | case2 => exact if_pos rfl
  | case3 => exact if_pos rfl
  | case4 n v fs hne _ ih => rw [field?, if_neg (Ne.symm hne), ih]

theorem field?_insertField_of_ne {name other : String} (h : name ≠ other) (value : α)
    (fields : List (String × α)) :
    field? other (insertField name value fields) = field? other fields := by
  fun_induction insertField name value fields with
  | case1 => exact if_neg h
  | case2 v fs => rw [field?, field?, if_neg h, if_neg h]
  | case3 n v fs _ _ => rw [field?, if_neg h]
  | case4 n v fs _ _ ih => rw [field?, field?, ih]

/-- The entries of a map are those of the table, if that has no name twice. -/
theorem field?_foldlM_insertField (hexact : IsExactReader read write)
    {fields : List (String × Data)} (hnames : (fields.map Prod.fst).Nodup)
    {acc entries : List (String × α)}
    (h : fields.foldlM (fun acc f => (read f.2).map fun v => insertField f.1 v acc) acc =
      some entries) (name : String) :
    (field? name entries).map write =
      (field? name fields).or ((field? name acc).map write) := by
  induction fields generalizing acc with
  | nil =>
    obtain rfl := Option.some.inj h
    rfl
  | cons f fields ih =>
    obtain ⟨n, d⟩ := f
    obtain ⟨hn, hnames⟩ := List.nodup_cons.1 hnames
    obtain ⟨next, hnext, hrest⟩ := Option.bind_eq_some_iff.1 h
    obtain ⟨a, ha, rfl⟩ := Option.map_eq_some_iff.1 hnext
    rw [ih hnames hrest, field?]
    by_cases hname : n = name
    · subst hname
      rw [if_pos rfl, field?_eq_none hn, field?_insertField_self, Option.map_some, hexact d a ha]
      rfl
    · rw [if_neg hname, field?_insertField_of_ne hname]

theorem field?_map_snd (name : String) (entries : List (String × α)) :
    field? name (entries.map fun e => (e.1, write e.2)) = (field? name entries).map write := by
  induction entries with
  | nil => rfl
  | cons e entries ih =>
    rw [List.map_cons, field?, field?]
    split
    · rfl
    · exact ih

/-- A map without names given twice is kept entry by entry. -/
theorem field?_of_readMap (hexact : IsExactReader read write) {d : Data} (hd : d.Distinct)
    {entries : List (String × α)} (h : readMap read d = some entries) (name : String) :
    field? name (entries.map fun e => (e.1, write e.2)) = at? [name] d := by
  rw [field?_map_snd]
  cases hd with
  | table hnames _ =>
    rw [field?_foldlM_insertField hexact hnames h, at?_singleton]
    exact Option.or_none
  | _ => contradiction

end Values

/-! ## Sections -/

section Sections

variable {d : Data}

/-- What the network section keeps. -/
theorem GuardConfig.at?_toData {dialect : Dialect} {config : GuardConfig}
    (h : GuardConfig.ofData dialect d = some config) :
    ∀ name ∈ fieldNames,
      at? [name] config.toData = (at? [name] (d.named fieldNames)).or (at? [name] (toData {})) := by
  obtain ⟨record, hrecord, h⟩ := Option.bind_eq_some_iff.1 h
  rw [values_readRecord (by decide) hrecord] at h
  generalize d.named fieldNames = table at h ⊢
  simp only [fieldNames, List.map_cons, List.map_nil, Option.bind_eq_bind,
    Option.bind_eq_some_iff, Option.some.injEq] at h
  obtain ⟨resolve, hresolve, timeout, htimeout, loopback, hloopback, priv, hpriv, link, hlink,
    multicast, hmulticast, unspecified, hunspecified, allow, hallow, block, hblock, ports, hports,
    noPorts, hnoPorts, rfl⟩ := h
  have hflag := isExactReader_readBool
  have htexts := isExactReader_readTexts
  have hlist := isExactReader_readPortNumber.readList
  simp only [fieldNames, List.forall_mem_cons]
  refine ⟨some_write_of_defaulted hflag hresolve,
    some_write_of_defaulted isExactReader_readWord64 htimeout,
    some_write_of_defaulted hflag hloopback, some_write_of_defaulted hflag hpriv,
    some_write_of_defaulted hflag hlink, some_write_of_defaulted hflag hmulticast,
    some_write_of_defaulted hflag hunspecified, some_write_of_defaulted htexts hallow,
    some_write_of_defaulted htexts hblock, some_write_of_defaulted hlist hports,
    some_write_of_defaulted hlist hnoPorts, ?_⟩
  exact fun name hname => absurd hname List.not_mem_nil

/-- No network setting is a table. -/
theorem GuardConfig.toData_ne_table (config : GuardConfig) (name : String)
    (fields : List (String × Data)) : at? [name] config.toData ≠ some (table fields) := by
  rw [toData, at?_singleton]
  intro h
  have hmem := mem_of_field?_eq_some h
  simp [ofWord64, ofTexts] at hmem

/-- What the section of the log keeps. -/
theorem LogConfig.at?_toData {config : LogConfig} (h : LogConfig.ofData .layered d = some config) :
    ∀ name ∈ ["level", "format"],
      at? [name] config.toData =
        (at? [name] (d.named ["level", "format"])).or (at? [name] (toData {})) := by
  obtain ⟨record, hrecord, h⟩ := Option.bind_eq_some_iff.1 h
  rw [values_readRecord (by decide) hrecord] at h
  simp only [List.map_cons, List.map_nil, Option.bind_eq_bind, Option.bind_eq_some_iff,
    Option.some.injEq] at h
  obtain ⟨level, hlevel, format, hformat, rfl⟩ := h
  simp only [List.forall_mem_cons]
  refine ⟨some_write_of_defaulted isExactReader_readText hlevel,
    some_write_of_defaulted isExactReader_logFormat hformat, ?_⟩
  exact fun name hname => absurd hname List.not_mem_nil

theorem LogConfig.toData_ne_table (config : LogConfig) (name : String)
    (fields : List (String × Data)) : at? [name] config.toData ≠ some (table fields) := by
  rw [toData, at?_singleton]
  intro h
  have hmem := mem_of_field?_eq_some h
  simp at hmem

/-- What the section of memory settings keeps. -/
theorem some_ofWord64_of_readBudget {dialect : Dialect} {budget : UInt64}
    (h : readBudget dialect d = some budget) :
    some (ofWord64 budget) = (at? ["max_allocation_bytes"] (d.named ["max_allocation_bytes"])).or
      (some (ofWord64 defaultBudget)) := by
  obtain ⟨record, hrecord, h⟩ := Option.bind_eq_some_iff.1 h
  rw [values_readRecord (by decide) hrecord] at h
  exact some_write_of_defaulted isExactReader_readWord64 h

/-- What the section of extra patterns keeps, unless it gives names twice. -/
theorem RiskConfig.at?_toData {dialect : Dialect} {config : RiskConfig}
    (h : RiskConfig.ofData dialect d = some config) (hd : d.Distinct) (category : String) :
    at? ["extra_broad_patterns", category] config.toData =
      at? ["extra_broad_patterns", category] (d.named ["extra_broad_patterns"]) := by
  obtain ⟨record, hrecord, h⟩ := Option.bind_eq_some_iff.1 h
  rw [values_readRecord (by decide) hrecord] at h
  obtain ⟨entries, hentries, rfl⟩ := Option.map_eq_some_iff.1 h
  dsimp only at hentries
  have hkept : at? ["extra_broad_patterns", category] (toData ⟨entries⟩) =
      field? category (entries.map fun e => (e.1, ofTexts e.2)) := at?_singleton category _
  rw [hkept, at?_cons_eq_bind]
  cases hextra : at? ["extra_broad_patterns"] (d.named ["extra_broad_patterns"]) with
  | none =>
    rw [hextra] at hentries
    obtain rfl := Option.some.inj hentries
    rfl
  | some extra =>
    rw [hextra] at hentries
    have hdistinct : extra.Distinct := (hd.named (by simp)).of_at? hextra
    exact field?_of_readMap isExactReader_readTexts hdistinct hentries category

/-- Extra patterns are read from a table. -/
theorem RiskConfig.exists_table_of_ofData {dialect : Dialect} {config : RiskConfig}
    (h : RiskConfig.ofData dialect d = some config) {extra : Data}
    (hextra : at? ["extra_broad_patterns"] (d.named ["extra_broad_patterns"]) = some extra) :
    ∃ fields, extra = table fields := by
  obtain ⟨record, hrecord, h⟩ := Option.bind_eq_some_iff.1 h
  rw [values_readRecord (by decide) hrecord] at h
  obtain ⟨entries, hentries, -⟩ := Option.map_eq_some_iff.1 h
  dsimp only at hentries
  rw [hextra] at hentries
  cases extra with
  | table fields => exact ⟨fields, rfl⟩
  | _ => contradiction

theorem RiskConfig.toData_ne_table (config : RiskConfig) (category : String)
    (fields : List (String × Data)) :
    at? ["extra_broad_patterns", category] config.toData ≠ some (table fields) := by
  have hkept : at? ["extra_broad_patterns", category] config.toData =
      field? category (config.extraPatterns.map fun e => (e.1, ofTexts e.2)) :=
    at?_singleton category _
  rw [hkept, field?_map_snd]
  cases field? category config.extraPatterns with
  | none => exact fun h => nomatch h
  | some texts => exact fun h => nomatch h

end Sections

end PluginSandbox
