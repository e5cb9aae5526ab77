import PluginSandbox.Data.Basic

/-!
# Laying trees over one another

Settings come in layers. Where two layers both have a table, the tables are
joined name by name; anything else in the upper layer replaces what it covers.

## Main definitions

* `Data.overlay`: a tree with another one laid over it.
* `Data.nest`: a tree with a value at the end of a path.
* `Data.at?`: the value at the end of a path.

The main statement `field?_overlayFields` says what a joined table has under a name.
-/

namespace PluginSandbox.Data

mutual

/-- A tree with another one laid over it. -/
def overlay (lower : Data) : (upper : Data) → Data
  | table upper =>
    match lower with
    | table fields => table (overlayFields fields upper)
    | _ => table upper
  | d => d

/-- Fields with others laid over them. -/
def overlayFields (lower : List (String × Data)) : (upper : List (String × Data)) →
    List (String × Data)
  | [] => lower
  | (name, d) :: upper =>
    let joined := match field? name lower with
      | some covered => overlay covered d
      | none => d
    setField name joined (overlayFields lower upper)

end

/-- The tree whose only value stands at the end of a path. -/
def nest (path : List String) (d : Data) : Data :=
  path.foldr (fun name inner => table [(name, inner)]) d

/-- The value at the end of a path. -/
def at? : (path : List String) → Data → Option Data
  | [], d => some d
  | name :: path, table fields => (field? name fields).bind (at? path)
  | _ :: _, _ => none

@[simp] theorem at?_nest (path : List String) (d : Data) : at? path (nest path d) = some d := by
  induction path with
  | nil => rfl
  | cons name path ih => simpa [nest, at?, field?] using ih

/-- What a name has in joined tables: the value above, laid over the one below if there is one. -/
theorem field?_overlayFields (name : String) (lower upper : List (String × Data)) :
    field? name (overlayFields lower upper) =
      match field? name upper with
      | some d => some (match field? name lower with
        | some covered => overlay covered d
        | none => d)
      | none => field? name lower := by
  induction upper with
  | nil => simp [overlayFields, field?]
  | cons f fs ih =>
    obtain ⟨n, d⟩ := f
    by_cases h : n = name
    · subst h
      simp [overlayFields, field?]
    · rw [overlayFields, field?_setField_of_ne h, ih]
      simp [field?, h]

end PluginSandbox.Data
