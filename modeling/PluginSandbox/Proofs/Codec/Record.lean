import PluginSandbox.Codec.Grant
import PluginSandbox.Codec.Request
import PluginSandbox.Proofs.Json.RoundTrip

/-!
# Records read back

A record is written as a table of the fields that are there, in the order of the known
names. Read with the same names it has its values again, and those of the fields that were
left out are missing again. What is written with exact values is exact.

## Main definitions

* `fieldsOf`: the fields of a record that are there.

## Main statements

* `readRecord_fieldsOf`, `readRecord_zip`: a record is read back.
* `readList_map`, `readTexts_ofTexts`, `nullable_ofOption`: lists and optional values are
  read back.
* `Data.isExactFields_iff`, `Data.isExactList_iff`: exactness, part by part.
-/

namespace PluginSandbox

/-! ## Fields -/

/-- The fields of a record that are there. -/
def fieldsOf : (names : List String) → (values : List (Option Data)) → List (String × Data)
  | name :: names, some d :: values => (name, d) :: fieldsOf names values
  | _ :: names, none :: values => fieldsOf names values
  | _, _ => []

/-- Where no value is missing, every name has its field. -/
theorem fieldsOf_map_some (names : List String) (values : List Data) :
    fieldsOf names (values.map some) = names.zip values := by
  induction names generalizing values with
  | nil => rfl
  | cons name names ih =>
    cases values with
    | nil => rfl
    | cons d values => rw [List.map_cons, fieldsOf, ih, List.zip_cons_cons]

theorem map_fst_fieldsOf_sublist (names : List String) (values : List (Option Data)) :
    ((fieldsOf names values).map Prod.fst).Sublist names := by
  fun_induction fieldsOf names values with
  | case1 name names d values ih => exact ih.cons_cons name
  | case2 name names values ih => exact ih.cons name
  | case3 names values => exact List.nil_sublist names

theorem occurrences_eq_count (name : String) (fields : List (String × Data)) :
    occurrences name fields = (fields.map Prod.fst).count name := by
  rw [occurrences, List.count, List.countP_map, List.countP_eq_length_filter]
  rfl

theorem field?_cons_self (name : String) (d : Data) (fields : List (String × Data)) :
    Data.field? name ((name, d) :: fields) = some d := if_pos rfl

theorem field?_cons_of_ne {name other : String} (h : other ≠ name) (d : Data)
    (fields : List (String × Data)) :
    Data.field? name ((other, d) :: fields) = Data.field? name fields := if_neg h

theorem field?_eq_none {name : String} {fields : List (String × Data)}
    (h : name ∉ fields.map Prod.fst) : Data.field? name fields = none := by
  induction fields with
  | nil => rfl
  | cons f fs ih =>
    obtain ⟨hf, hfs⟩ := not_or.1 (List.mem_cons.not.1 h)
    rw [field?_cons_of_ne (Ne.symm hf), ih hfs]

/-- The values of the fields are found by their names. -/
theorem map_field?_fieldsOf {names : List String} (hnames : names.Nodup)
    {values : List (Option Data)} (hlen : values.length = names.length) :
    names.map (fun name => Data.field? name (fieldsOf names values)) = values := by
  induction names generalizing values with
  | nil => exact (List.length_eq_zero_iff.1 hlen).symm
  | cons name names ih =>
    obtain ⟨hname, hnames⟩ := List.nodup_cons.1 hnames
    obtain ⟨value, values, rfl⟩ := List.exists_cons_of_length_eq_add_one hlen
    have hrest := ih hnames (Nat.succ.inj hlen)
    cases value with
    | none =>
      have hmissing : name ∉ (fieldsOf names values).map Prod.fst := fun hmem =>
        hname ((map_fst_fieldsOf_sublist names values).subset hmem)
      rw [fieldsOf, List.map_cons, field?_eq_none hmissing, hrest]
    | some d =>
      have hothers : names.map (fun other =>
          Data.field? other ((name, d) :: fieldsOf names values)) =
            names.map fun other => Data.field? other (fieldsOf names values) := by
        refine List.map_congr_left fun other hother => field?_cons_of_ne ?_ _ _
        rintro rfl
        exact hname hother
      rw [fieldsOf, List.map_cons, field?_cons_self, hothers, hrest]

/-- A record is read back from the fields that are there. -/
theorem readRecord_fieldsOf (dialect : Dialect) (names : List String)
    (values : List (Option Data)) (hnames : names.Nodup) (hlen : values.length = names.length) :
    readRecord dialect false names (.table (fieldsOf names values)) = some ⟨true, values⟩ := by
  have hsub := map_fst_fieldsOf_sublist names values
  have honce : (names.any fun name => 1 < occurrences name (fieldsOf names values)) = false := by
    rw [List.any_eq_false]
    intro name _
    rw [occurrences_eq_count, decide_eq_true_eq, Nat.not_lt]
    exact List.nodup_iff_count.1 (hsub.nodup hnames) name
  simp only [readRecord, honce, Bool.false_and, Bool.false_eq_true, if_false,
    map_field?_fieldsOf hnames hlen]

/-- A record of which no field is missing is read back. -/
theorem readRecord_zip (dialect : Dialect) (names : List String) (values : List Data)
    (hnames : names.Nodup) (hlen : values.length = names.length) :
    readRecord dialect false names (.table (names.zip values)) =
      some ⟨true, values.map some⟩ := by
  rw [← fieldsOf_map_some]
  exact readRecord_fieldsOf dialect names _ hnames (by rw [List.length_map, hlen])

/-! ## Values -/

section Values

variable {α : Type} (read : Data → Option α) (write : α → Data)

/-- A list is read back if its values are. -/
theorem readList_map (h : ∀ a, read (write a) = some a) (as : List α) :
    readList read (.list (as.map write)) = some as := by
  have hsome : read ∘ write = fun a => pure (id a) := funext h
  rw [readList, List.mapM_map, hsome, List.mapM_pure, List.map_id]
  rfl

theorem readText_text (s : String) : readText (.text s) = some s := rfl

theorem readTexts_ofTexts (texts : List String) : readTexts (.ofTexts texts) = some texts :=
  readList_map readText .text readText_text texts

/-- A value that is not the absent one is read back as being there. -/
theorem nullable_of_ne_null {d : Data} (hd : d ≠ .null) :
    nullable read d = (read d).map some := by
  cases d
  case null => exact absurd rfl hd
  all_goals rfl

/-- An optional value is read back. -/
theorem nullable_ofOption (h : ∀ a, read (write a) = some a) (hnull : ∀ a, write a ≠ .null)
    (value : Option α) : nullable read (.ofOption write value) = some value := by
  cases value with
  | none => rfl
  | some a =>
    rw [Data.ofOption, nullable_of_ne_null read (hnull a), h]
    rfl

theorem readPortNumber_ofPort (port : UInt16) : readPortNumber (.ofPort port) = some port := by
  have hle : (port.toNat : Int) ≤ (65535 : Nat) := Int.ofNat_le.2 (Nat.le_of_lt_succ port.toNat_lt)
  rw [readPortNumber, Data.ofPort, readNatUpTo, if_pos ⟨Int.natCast_nonneg _, hle⟩]
  simp

theorem readWord64_ofWord64 (n : UInt64) : readWord64 (.ofWord64 n) = some n := by
  have hle : (n.toNat : Int) ≤ (18446744073709551615 : Nat) :=
    Int.ofNat_le.2 (Nat.le_of_lt_succ n.toNat_lt)
  rw [readWord64, Data.ofWord64, readNatUpTo, if_pos ⟨Int.natCast_nonneg _, hle⟩]
  simp

end Values

/-! ## Exactness -/

namespace Data

theorem isExactList_iff {items : List Data} :
    IsExactList items ↔ ∀ d ∈ items, d.IsExact := by
  induction items with
  | nil => simp [IsExactList]
  | cons d ds ih => rw [IsExactList, ih, List.forall_mem_cons]

theorem isExactFields_iff {fields : List (String × Data)} :
    IsExactFields fields ↔ ∀ f ∈ fields, f.2.IsExact := by
  induction fields with
  | nil => simp [IsExactFields]
  | cons f fs ih => rw [IsExactFields, ih, List.forall_mem_cons]

theorem isExact_table_iff {fields : List (String × Data)} :
    (table fields).IsExact ↔ ∀ f ∈ fields, f.2.IsExact := isExactFields_iff

theorem isExact_bool (b : Bool) : (bool b).IsExact := trivial

theorem isExact_text (s : String) : (text s).IsExact := trivial

theorem isExact_natCast {n : Nat} (h : n ≤ Text.maxNat64) : (int n).IsExact :=
  ⟨by omega, Int.ofNat_le.2 h⟩

theorem isExact_ofPort (port : UInt16) : (ofPort port).IsExact := by
  have hlt : port.toNat < 65536 := port.toNat_lt
  exact isExact_natCast (by rw [Text.maxNat64]; omega)

theorem isExact_ofWord64 (n : UInt64) : (ofWord64 n).IsExact :=
  isExact_natCast (Nat.le_of_lt_succ n.toNat_lt)

theorem isExact_list_map {α : Type} {write : α → Data} (h : ∀ a, (write a).IsExact)
    (as : List α) : (list (as.map write)).IsExact := by
  refine isExactList_iff.2 fun d hd => ?_
  obtain ⟨a, -, rfl⟩ := List.mem_map.1 hd
  exact h a

theorem isExact_ofTexts (texts : List String) : (ofTexts texts).IsExact :=
  isExact_list_map isExact_text texts

theorem isExact_ofOption {α : Type} {write : α → Data} (h : ∀ a, (write a).IsExact)
    (value : Option α) : (ofOption write value).IsExact := by
  cases value with
  | none => trivial
  | some a => exact h a

end Data

theorem isExact_fieldsOf (names : List String) {values : List (Option Data)}
    (h : ∀ value ∈ values, ∀ d ∈ value, d.IsExact) :
    (Data.table (fieldsOf names values)).IsExact := by
  rw [Data.isExact_table_iff]
  fun_induction fieldsOf names values with
  | case1 name names d values ih =>
    obtain ⟨hd, hvalues⟩ := List.forall_mem_cons.1 h
    exact List.forall_mem_cons.2 ⟨hd d rfl, ih hvalues⟩
  | case2 name names values ih => exact ih (List.forall_mem_cons.1 h).2
  | case3 names values => exact fun f hf => absurd hf List.not_mem_nil

end PluginSandbox
