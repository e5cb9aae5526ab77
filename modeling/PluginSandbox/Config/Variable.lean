import PluginSandbox.Codec.Settings
import PluginSandbox.Config.Value
import PluginSandbox.Data.Overlay
import PluginSandbox.Text.Split

/-!
# Settings in environment variables

A variable `MOAT_<SECTION>__<NAME>` sets one value. Two underscores, or a point,
separate the levels of a name; case does not count. Variables of other names,
among them those of unknown sections, set nothing.

## Main definitions

* `Setting.path?`: the place in the settings that a variable names.
* `Setting.tree`: all settings that variables make.
-/

namespace PluginSandbox.Setting

open Text

/-- What the names of variables start with, in lower case. -/
def mark : String := "moat_"

/-- What follows the mark in the name of a variable, in lower case. -/
def unmarked? (name : List Char) : Option (List Char) :=
  stripPrefix? mark.toList (lower (trim name))

/-- The part of a name before its first two underscores is a known section. -/
def namesSection (rest : List Char) : Bool :=
  match splitOnPair '_' rest with
  | some (front, _) => HostConfig.sectionNames.contains (String.ofList front)
  | none => false

/-- The levels of a name, separated by two underscores or a point. -/
def levels : List Char → List (List Char)
  | [] => [[]]
  | '_' :: '_' :: cs => [] :: levels cs
  | '.' :: cs => [] :: levels cs
  | c :: cs =>
    match levels cs with
    | level :: others => (c :: level) :: others
    | [] => [[c]]

/-- The place in the settings that a variable names; nothing if a level is empty. -/
def path? (name : String) : Option (List String) := do
  let rest ← unmarked? name.toList
  let parts := levels rest
  if namesSection rest && parts.all (· ≠ []) then some (parts.map String.ofList) else none

/-- The setting that a variable makes. -/
def ofVariable (v : String × String) : Option Data :=
  (path? v.1).map fun path => .nest path (readValue v.2)

/-- All settings that variables make; later ones are laid over earlier ones. -/
def tree (env : List (String × String)) : Data :=
  (env.filterMap ofVariable).foldl Data.overlay (.table [])

end PluginSandbox.Setting
