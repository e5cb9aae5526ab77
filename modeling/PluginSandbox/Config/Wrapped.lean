import PluginSandbox.Data.Basic

/-!
# Wrapped values in settings files

Below the sections of a settings file, a table with a field of a reserved name
stands for the value of that field; its other fields are dropped. A second
reserved name is kept for a label of the wrapped value. No value that a file can
write is a label, so a file that uses this name holds no settings.

## Main definitions

* `Setting.wrappedName`, `Setting.labelName`: the reserved names.
* `Setting.unwrap`: a value with every wrapped value in the place of its wrapper.
* `Setting.unwrapSections`: the same for the sections of a file.
-/

namespace PluginSandbox.Setting

/-- The name of the field that holds a wrapped value. -/
def wrappedName : String := "___figment_value_value"

/-- The name of the field that labels a wrapped value. -/
def labelName : String := "___figment_value_id"

mutual

/-- A value with every wrapped value in the place of its wrapper; nothing if there is a label. -/
def unwrap : Data → Option Data
  | .list items => (unwrapItems items).map .list
  | .table fields =>
    if fields.any (·.1 = labelName) then none
    else (unwrapFields fields).map fun inner =>
      (Data.field? wrappedName inner).getD (.table inner)
  | d => some d

/-- Items, each unwrapped. -/
def unwrapItems : List Data → Option (List Data)
  | [] => some []
  | d :: ds => do return (← unwrap d) :: (← unwrapItems ds)

/-- Fields, each with its value unwrapped. -/
def unwrapFields : List (String × Data) → Option (List (String × Data))
  | [] => some []
  | (name, d) :: fs => do return (name, ← unwrap d) :: (← unwrapFields fs)

end

/-- The sections of a file, each unwrapped. At the top of a file no name is reserved. -/
def unwrapSections : Data → Option Data
  | .table sections => (unwrapFields sections).map .table
  | d => some d

/-- Unwrapping keeps the names of fields. -/
theorem map_fst_unwrapFields {fields inner : List (String × Data)}
    (h : unwrapFields fields = some inner) : inner.map Prod.fst = fields.map Prod.fst := by
  induction fields generalizing inner with
  | nil => simp_all [unwrapFields]
  | cons f fs ih =>
    obtain ⟨name, d⟩ := f
    simp only [unwrapFields, Option.bind_eq_bind, Option.bind_eq_some_iff, Option.pure_def,
      Option.some.injEq] at h
    obtain ⟨_, _, rest, hrest, rfl⟩ := h
    simp [ih hrest]

end PluginSandbox.Setting
