import PluginSandbox.Codec.Grant
import PluginSandbox.Guard.Config
import PluginSandbox.Text.Blank
import PluginSandbox.Text.Numeral
import PluginSandbox.Text.Split
import PluginSandbox.Toml.Document

/-!
# Plugin manifests

A manifest names a plugin and declares its grants. Its text is TOML with a
section `plugin` and an optional section `grants`. A manifest is accepted if its
name is well formed and all hosts and ports that its network rules name can be
used; the grants are then those of the text.

## Main definitions

* `Manifest`, `Manifest.ofData`: manifests, and how a tree holds one.
* `Manifest.check`: the validation of a manifest.
* `Manifest.parse`, `Manifest.load`: manifests from texts and from files.
* `ManifestError`: why there is no manifest.
-/

namespace PluginSandbox

open Text

/-- A plugin and its grants. -/
structure Manifest where
  name : String
  grants : Grants
  deriving DecidableEq

/-- Why a file has no text. -/
inductive FileError where
  /-- There is no such file. -/
  | missing
  /-- The bytes are not UTF-8. -/
  | notText
  deriving DecidableEq

/-- The message about a file. -/
def FileError.message : FileError → String
  | missing => "No such file or directory (os error 2)"
  | notText => "stream did not contain valid UTF-8"

/-- Why there is no manifest. -/
inductive ManifestError where
  /-- The file cannot be read. -/
  | unreadable (path : String) (error : FileError)
  /-- The text is not TOML, or does not hold a manifest. -/
  | malformed
  /-- The name of the plugin is empty or has other characters than those of names. -/
  | badName (name : String)
  /-- A list of hosts cannot be used. -/
  | badHosts (refusal : Refusal)
  /-- A port pattern stands for no port. -/
  | badPort (pattern : String)
  deriving DecidableEq

namespace ManifestError

/-- What is wrong with the contents of a manifest, if more is known than that it is malformed. -/
def detail : ManifestError → Option String
  | badName name =>
    some s!"plugin name '{name}' must be non-empty lowercase letters, digits, '-', '_' or '.'"
  | badHosts refusal => some refusal.message
  | badPort pattern => some s!"invalid port pattern '{pattern}' (expected '*', a port, or 'lo-hi')"
  | unreadable _ _ | malformed => none

/-- The message about a manifest; a malformed one has none of its own. -/
def message : ManifestError → Option String
  | unreadable path error => some s!"cannot read manifest at '{path}': {error.message}"
  | error => error.detail.map ("invalid plugin.toml: " ++ ·)

end ManifestError

/-- A character of the names of plugins. -/
def isPluginNameChar (c : Char) : Bool := isLowerAlnum c || c = '-' || c = '_' || c = '.'

/-- The name may stand for a plugin. -/
def isPluginName (name : String) : Bool := name ≠ "" && name.toList.all isPluginNameChar

/-- The text is `*`, a port, or a range of ports that does not run backwards. -/
def isPortPattern (pattern : String) : Bool :=
  let cs := trim pattern.toList
  if cs = ['*'] then true
  else match splitOnce '-' cs with
    | some (front, back) =>
      match readPort (trim front), readPort (trim back) with
      | some lo, some hi => lo ≤ hi
      | _, _ => false
    | none => (readPort cs).isSome

/-- The validation of port patterns; the first one at fault counts. -/
def checkPorts : List String → Except ManifestError Unit
  | [] => .ok ()
  | pattern :: patterns =>
    if isPortPattern pattern then checkPorts patterns else .error (.badPort pattern)

/-- The validation of network rules, each with its hosts before its ports. -/
def checkNetworkRules : List NetworkRule → Except ManifestError Unit
  | [] => .ok ()
  | rule :: rules => do
    (GuardConfig.checkHosts rule.hosts).mapError .badHosts
    checkPorts rule.ports
    checkNetworkRules rules

namespace Manifest

/-- The validation of a manifest. -/
def check (manifest : Manifest) : Except ManifestError Unit :=
  if isPluginName manifest.name then checkNetworkRules (manifest.grants.network.getD [])
  else .error (.badName manifest.name)

/-- The name that the section about the plugin holds. -/
def readName (d : Data) : Option String := do
  let record ← readRecord .manifest false ["name"] d
  match record.values with
  | [name] => required readText name
  | _ => none

/-- The manifest that a tree holds. -/
def ofData (d : Data) : Option Manifest := do
  let record ← readRecord .manifest false ["plugin", "grants"] d
  match record.values with
  | [plugin, grants] =>
    some ⟨← required readName plugin, ← defaulted (Grants.ofData .manifest) .empty grants⟩
  | _ => none

/-- The manifest that a text spells. -/
def parse (text : String) : Except ManifestError Manifest :=
  match (Toml.read text).bind ofData with
  | none => .error .malformed
  | some manifest => do
    manifest.check
    return manifest

/-- The manifest in a file of which the bytes are given, if there is such a file. -/
def load (path : String) (content : Option (List UInt8)) : Except ManifestError Manifest :=
  match content with
  | none => .error (.unreadable path .missing)
  | some bytes =>
    match String.fromUTF8? ⟨bytes.toArray⟩ with
    | none => .error (.unreadable path .notText)
    | some text => parse text

/-- A manifest as a tree. -/
def toData (manifest : Manifest) : Data :=
  .table [("name", .text manifest.name), ("grants", manifest.grants.toData)]

end Manifest

end PluginSandbox
