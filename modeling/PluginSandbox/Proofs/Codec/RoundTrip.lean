import PluginSandbox.Codec.Payload
import PluginSandbox.Proofs.Codec.Record

/-!
# Payloads read back

Grants, requests, faults and settings of the guard are read back from their trees as what
they were, and their trees hold nothing that JSON does not keep, so they are read back from
their texts as well.

## Main definitions

* `Payload.shape`: the shape of a payload.
* `Shape.keepsOrder`: the shapes of what is not rearranged when it is read.
* `Grants.categories`, `GuardConfig.settings`: values in the order of their names.

## Main statements

* `Grants.ofData_toData`, `Request.ofData_toData`, `Fault.ofData_toData`,
  `GuardConfig.ofData_toData`: values are read back from their trees.
* `Payload.parseBytes_bytes`: payloads are read back from the bytes of their texts.
-/

namespace PluginSandbox

variable (dialect : Dialect)

/-! ## Names of variants -/

theorem KeyAccess.ofData_toData (access : KeyAccess) :
    KeyAccess.ofData dialect access.toData = some access := by
  cases access <;> rfl

theorem FileAccess.ofData_toData (access : FileAccess) :
    FileAccess.ofData dialect access.toData = some access := by
  cases access <;> rfl

theorem FaultKind.ofData_toData (kind : FaultKind) :
    FaultKind.ofData dialect kind.toData = some kind := by
  cases kind <;> rfl

/-! ## Grants -/

theorem readTwoLists_table {α : Type} {first second : String} (hne : first ≠ second)
    (make : List String → List String → α) (a b : List String) :
    readTwoLists dialect first second make
      (.table [(first, .ofTexts a), (second, .ofTexts b)]) = some (make a b) := by
  have hrecord := readRecord_zip dialect [first, second] [.ofTexts a, .ofTexts b]
    (by simp [hne]) rfl
  simp only [List.zip_cons_cons, List.zip_nil_right] at hrecord
  simp [readTwoLists, hrecord, defaulted, readTexts_ofTexts]

theorem NetworkRule.ofData_toData (rule : NetworkRule) :
    NetworkRule.ofData dialect rule.toData = some rule :=
  readTwoLists_table dialect (by decide) NetworkRule.mk rule.hosts rule.ports

theorem FileRule.ofData_toData (rule : FileRule) :
    FileRule.ofData dialect rule.toData = some rule :=
  readTwoLists_table dialect (by decide) FileRule.mk rule.read rule.write

theorem KeyRule.ofData_toData (rule : KeyRule) :
    KeyRule.ofData dialect rule.toData = some rule := by
  have hrecord := readRecord_zip dialect ["keys", "operation"]
    [.ofTexts rule.keys, rule.access.toData] (by decide) rfl
  simp only [List.zip_cons_cons, List.zip_nil_right] at hrecord
  simp [KeyRule.ofData, toData, hrecord, defaulted, required, readTexts_ofTexts,
    KeyAccess.ofData_toData]

section Category

variable {α : Type} {read : Data → Option α} {write : α → Data}

theorem readCategory_writeCategory (name : String) (h : ∀ a, read (write a) = some a)
    (rules : List α) :
    readCategory dialect name read (writeCategory name write rules) = some rules := by
  have hrecord := readRecord_zip dialect [name] [.list (rules.map write)] (by simp) rfl
  simp only [List.zip_cons_cons, List.zip_nil_right] at hrecord
  simp [readCategory, writeCategory, hrecord, defaulted, readList_map read write h]

/-- A category is read back as being there or not. -/
theorem readOptionalCategory_map (name : String) (h : ∀ a, read (write a) = some a)
    (category : Option (List α)) :
    readOptionalCategory dialect name read (category.map (writeCategory name write)) =
      some category := by
  cases category with
  | none => rfl
  | some rules =>
    have hnull : writeCategory name write rules ≠ .null := nofun
    rw [Option.map_some, readOptionalCategory, defaulted, nullable_of_ne_null _ hnull,
      readCategory_writeCategory dialect name h]
    rfl

/-- A category that is absent is no field. -/
theorem writeOptionalCategory_append (field name : String) (category : Option (List α))
    (names : List String) (values : List (Option Data)) :
    writeOptionalCategory field name write category ++ fieldsOf names values =
      fieldsOf (field :: names) (category.map (writeCategory name write) :: values) := by
  cases category <;> rfl

end Category

/-- The values of the categories, those that are absent left out. -/
def Grants.categories (g : Grants) : List (Option Data) :=
  [g.network.map (writeCategory "rules" NetworkRule.toData),
    g.files.map (writeCategory "rules" FileRule.toData),
    g.environment.map (writeCategory "variables" .text),
    g.commands.map (writeCategory "commands" .text),
    g.keys.map (writeCategory "rules" KeyRule.toData)]

theorem Grants.toData_eq (g : Grants) : g.toData = .table (fieldsOf fieldNames g.categories) := by
  have hend : writeOptionalCategory "key_value" "rules" KeyRule.toData g.keys =
      writeOptionalCategory "key_value" "rules" KeyRule.toData g.keys ++ fieldsOf [] [] :=
    (List.append_nil _).symm
  rw [toData, hend]
  simp only [List.append_assoc, writeOptionalCategory_append]
  rfl

/-- Grants are read back, with the same categories absent, empty or full. -/
theorem Grants.ofData_toData (g : Grants) : Grants.ofData dialect g.toData = some g := by
  have hrecord := readRecord_fieldsOf dialect fieldNames g.categories (by decide) rfl
  rw [toData_eq, ofData, hrecord]
  simp [categories, readOptionalCategory_map, NetworkRule.ofData_toData, FileRule.ofData_toData,
    KeyRule.ofData_toData, readOptionalCategory_map dialect _ readText_text]

/-! ## Requests and faults -/

theorem Endpoint.ofData_toData (target : Endpoint) :
    Endpoint.ofData dialect target.toData = some target := by
  have hrecord := readRecord_zip dialect ["host", "port"]
    [.text target.host, .ofOption .ofPort target.port] (by decide) rfl
  simp only [List.zip_cons_cons, List.zip_nil_right] at hrecord
  have hnull : ∀ port, Data.ofPort port ≠ .null := nofun
  simp [Endpoint.ofData, toData, fields, hrecord, required, readText_text, Record.optional,
    nullable_ofOption _ _ readPortNumber_ofPort hnull]

namespace Request

theorem readOneText_table (name : String) (make : String → Request) (s : String) :
    readOneText name make (.table [(name, .text s)]) = some (make s) := by
  have hrecord := readRecord_zip .tagged [name] [.text s] (by simp) rfl
  simp only [List.zip_cons_cons, List.zip_nil_right] at hrecord
  simp [readOneText, hrecord, required, readText_text]

theorem readTextAndAccess_table {α : Type} {name : String} (hne : name ≠ "operation")
    {access : Data → Option α} (make : String → α → Request) (s : String) {d : Data} {a : α}
    (h : access d = some a) :
    readTextAndAccess name access make (.table [(name, .text s), ("operation", d)]) =
      some (make s a) := by
  have hrecord := readRecord_zip .tagged [name, "operation"] [.text s, d] (by simp [hne]) rfl
  simp only [List.zip_cons_cons, List.zip_nil_right] at hrecord
  simp [readTextAndAccess, hrecord, required, readText_text, h]

/-- The fields of a request say, with its category, what it is. -/
theorem ofFields_fields (r : Request) : ofFields r.tag (.table r.fields) = some r := by
  cases r with
  | network target =>
    change (Endpoint.ofData .tagged target.toData).map network = _
    rw [Endpoint.ofData_toData]
    rfl
  | file path access =>
    exact readTextAndAccess_table (by decide) file path (FileAccess.ofData_toData .tagged access)
  | environment name => exact readOneText_table "variable" environment name
  | command line => exact readOneText_table "command" command line
  | key k access =>
    exact readTextAndAccess_table (by decide) key k (KeyAccess.ofData_toData .tagged access)

/-- No other field is named like that of the category. -/
theorem ne_tagField_of_mem_fields (r : Request) : ∀ f ∈ r.fields, f.1 ≠ tagField := by
  have hnames : ∀ name ∈ r.fields.map Prod.fst, name ≠ tagField := by
    cases r with
    | network target => exact (by decide : ∀ name ∈ ["host", "port"], name ≠ tagField)
    | file path access => exact (by decide : ∀ name ∈ ["path", "operation"], name ≠ tagField)
    | environment name => exact (by decide : ∀ name ∈ ["variable"], name ≠ tagField)
    | command line => exact (by decide : ∀ name ∈ ["command"], name ≠ tagField)
    | key k access => exact (by decide : ∀ name ∈ ["key", "operation"], name ≠ tagField)
  exact fun f hf => hnames f.1 (List.mem_map_of_mem hf)

theorem isKeepable_toData (r : Request) : r.toData.isKeepable = true := by
  cases r with
  | network target =>
    obtain ⟨host, port⟩ := target
    cases port <;> rfl
  | file path access => rfl
  | environment name => rfl
  | command line => rfl
  | key k access => rfl

/-- A request is read back, of the same category. -/
theorem ofData_toData (r : Request) : ofData r.toData = some r := by
  have hne := ne_tagField_of_mem_fields r
  have htag : ((tagField, Data.text r.tag) :: r.fields).filter (fun f => f.1 = tagField) =
      [(tagField, .text r.tag)] := by
    rw [List.filter_cons_of_pos (by simp), List.filter_eq_nil_iff.2 (by simpa using hne)]
  have hothers : ((tagField, Data.text r.tag) :: r.fields).filter (fun f => f.1 ≠ tagField) =
      r.fields := by
    rw [List.filter_cons_of_neg (by simp), List.filter_eq_self.2 (by simpa using hne)]
  have hkeepable := isKeepable_toData r
  rw [toData] at hkeepable ⊢
  simp only [ofData, hkeepable, htag, hothers, ofFields_fields, Bool.not_true, Bool.false_eq_true,
    if_false]

end Request

theorem Fault.ofData_toData (fault : Fault) : Fault.ofData dialect fault.toData = some fault := by
  have hrecord := readRecord_zip dialect ["kind", "message", "context"]
    [fault.kind.toData, .text fault.message, .ofOption .text fault.context] (by decide) rfl
  simp only [List.zip_cons_cons, List.zip_nil_right] at hrecord
  have hnull : ∀ s, Data.text s ≠ .null := nofun
  simp [Fault.ofData, toData, hrecord, required, readText_text, FaultKind.ofData_toData,
    Record.optional, nullable_ofOption _ _ readText_text hnull]

/-! ## Settings of the guard -/

/-- The values of the settings, in the order of their names. -/
def GuardConfig.settings (config : GuardConfig) : List Data :=
  [.bool config.resolveNames, .ofWord64 config.lookupTimeoutMs, .bool config.blockLoopback,
    .bool config.blockPrivate, .bool config.blockLinkLocal, .bool config.blockMulticast,
    .bool config.blockUnspecified, .ofTexts config.hostAllowList, .ofTexts config.hostBlockList,
    .list (config.portAllowList.map .ofPort), .list (config.portBlockList.map .ofPort)]

theorem GuardConfig.toData_eq (config : GuardConfig) :
    config.toData = .table (fieldNames.zip config.settings) := rfl

theorem GuardConfig.ofData_toData (config : GuardConfig) :
    GuardConfig.ofData dialect config.toData = some config := by
  have hports := readList_map readPortNumber .ofPort readPortNumber_ofPort
  rw [toData_eq, ofData, readRecord_zip dialect fieldNames config.settings (by decide) rfl]
  simp [settings, defaulted, readBool, readWord64_ofWord64, readTexts_ofTexts, hports]

/-! ## Exactness -/

theorem NetworkRule.isExact_toData (rule : NetworkRule) : rule.toData.IsExact := by
  simp [toData, Data.isExact_table_iff, Data.isExact_ofTexts]

theorem FileRule.isExact_toData (rule : FileRule) : rule.toData.IsExact := by
  simp [toData, Data.isExact_table_iff, Data.isExact_ofTexts]

theorem KeyRule.isExact_toData (rule : KeyRule) : rule.toData.IsExact := by
  simp [toData, Data.isExact_table_iff, Data.isExact_ofTexts, KeyAccess.toData, Data.isExact_text]

/-- A category is exact if its rules are. -/
theorem isExact_category {α : Type} {write : α → Data} (name : String)
    (h : ∀ a, (write a).IsExact) (category : Option (List α)) :
    ∀ d ∈ category.map (writeCategory name write), d.IsExact := by
  intro d hd
  obtain ⟨rules, -, rfl⟩ := Option.map_eq_some_iff.1 hd
  simp [writeCategory, Data.isExact_table_iff, Data.isExact_list_map h]

theorem Grants.isExact_toData (g : Grants) : g.toData.IsExact := by
  rw [toData_eq]
  refine isExact_fieldsOf fieldNames ?_
  simp only [categories, List.forall_mem_cons, List.not_mem_nil, false_imp_iff, implies_true,
    and_true]
  exact ⟨isExact_category _ NetworkRule.isExact_toData _,
    isExact_category _ FileRule.isExact_toData _, isExact_category _ Data.isExact_text _,
    isExact_category _ Data.isExact_text _, isExact_category _ KeyRule.isExact_toData _⟩

theorem Endpoint.isExact_fields (target : Endpoint) : ∀ f ∈ target.fields, f.2.IsExact := by
  simp [fields, Data.isExact_text, Data.isExact_ofOption Data.isExact_ofPort]

theorem Request.isExact_toData (r : Request) : r.toData.IsExact := by
  rw [toData, Data.isExact_table_iff, List.forall_mem_cons]
  refine ⟨Data.isExact_text _, ?_⟩
  cases r with
  | network target => exact target.isExact_fields
  | file path access => simp [fields, Data.isExact_text, FileAccess.toData]
  | environment name => simp [fields, Data.isExact_text]
  | command line => simp [fields, Data.isExact_text]
  | key k access => simp [fields, Data.isExact_text, KeyAccess.toData]

theorem Fault.isExact_toData (fault : Fault) : fault.toData.IsExact := by
  simp [toData, Data.isExact_table_iff, FaultKind.toData, Data.isExact_text,
    Data.isExact_ofOption Data.isExact_text]

theorem GuardConfig.isExact_toData (config : GuardConfig) : config.toData.IsExact := by
  have hports := Data.isExact_list_map Data.isExact_ofPort
  simp [toData, Data.isExact_table_iff, Data.isExact_bool, Data.isExact_ofWord64,
    Data.isExact_ofTexts, hports]

/-! ## Payloads -/

/-- Nothing of the shape has a map in it, whose names would be put in order. -/
def Shape.keepsOrder : Shape → Bool
  | .value | .riskConfig | .hostConfig => false
  | .grants | .networkRule | .guardConfig | .fault | .request | .endpoint | .keyAccess
  | .fileAccess => true

namespace Payload

/-- The shape of a payload. -/
def shape : Payload → Shape
  | value _ => .value
  | grants _ => .grants
  | networkRule _ => .networkRule
  | guardConfig _ => .guardConfig
  | riskConfig _ => .riskConfig
  | hostConfig _ => .hostConfig
  | fault _ => .fault
  | request _ => .request
  | endpoint _ => .endpoint
  | keyAccess _ => .keyAccess
  | fileAccess _ => .fileAccess

/-- A payload without maps is read back from its tree. -/
theorem ofData_toData : ∀ {payload : Payload}, payload.shape.keepsOrder = true →
    ofData payload.shape payload.toData = some payload
  | grants g, _ => congrArg (Option.map grants) (g.ofData_toData .json)
  | networkRule rule, _ => congrArg (Option.map networkRule) (rule.ofData_toData .json)
  | guardConfig config, _ => congrArg (Option.map guardConfig) (config.ofData_toData .json)
  | fault f, _ => congrArg (Option.map Payload.fault) (f.ofData_toData .json)
  | request r, _ => congrArg (Option.map Payload.request) r.ofData_toData
  | endpoint target, _ => congrArg (Option.map endpoint) (target.ofData_toData .json)
  | keyAccess access, _ => congrArg (Option.map keyAccess) (access.ofData_toData .json)
  | fileAccess access, _ => congrArg (Option.map fileAccess) (access.ofData_toData .json)

/-- The tree of a payload without maps is exact. -/
theorem isExact_toData : ∀ {payload : Payload}, payload.shape.keepsOrder = true →
    payload.toData.IsExact
  | grants g, _ => g.isExact_toData
  | networkRule rule, _ => rule.isExact_toData
  | guardConfig config, _ => config.isExact_toData
  | fault f, _ => f.isExact_toData
  | request r, _ => r.isExact_toData
  | endpoint target, _ => Data.isExact_table_iff.2 target.isExact_fields
  | keyAccess _, _ => Data.isExact_text _
  | fileAccess _, _ => Data.isExact_text _

/-- A payload without maps is read back from the bytes of its text. -/
theorem parseBytes_bytes {payload : Payload} (h : payload.shape.keepsOrder = true) :
    parseBytes payload.shape payload.bytes = some payload := by
  rw [parseBytes, bytes, text, Json.readBytes_write (isExact_toData h), Option.bind_some,
    ofData_toData h]

end Payload

end PluginSandbox
