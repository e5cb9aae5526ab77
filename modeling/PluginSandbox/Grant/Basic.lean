/-!
# Grants

What a plugin may do, in five categories. A category is a list of rules, or
absent; an absent category and an empty list both grant nothing, but they are
told apart where grants are shown.

## Main definitions

* `KeyAccess`: how a key-value store may be used.
* `NetworkRule`, `FileRule`, `KeyRule`: the rules of three categories; the
  other two consist of bare patterns.
* `Grants`: the five categories.
* `Grants.isEmpty`: nothing is granted.
-/

namespace PluginSandbox

/-- How a key-value store is used. -/
inductive KeyAccess where
  | read
  | write
  | readWrite
  deriving DecidableEq

namespace KeyAccess

/-- A grant of one access covers a request for another. -/
def permits (granted requested : KeyAccess) : Bool := granted == requested || granted == readWrite

/-- The access changes the store. -/
def isWrite : KeyAccess → Bool
  | read => false
  | write | readWrite => true

/-- The name of an access in data. -/
def code : KeyAccess → String
  | read => "read"
  | write => "write"
  | readWrite => "read-write"

end KeyAccess

/-- Connections to any of some hosts on any of some ports. -/
structure NetworkRule where
  hosts : List String
  ports : List String
  deriving DecidableEq

/-- Files that may be read and files that may be written. -/
structure FileRule where
  read : List String
  write : List String
  deriving DecidableEq

/-- Keys of the store that may be used in one way. -/
structure KeyRule where
  keys : List String
  access : KeyAccess
  deriving DecidableEq

/-- Everything that a plugin may do. -/
structure Grants where
  /-- Outgoing connections. -/
  network : Option (List NetworkRule) := none
  /-- Files. -/
  files : Option (List FileRule) := none
  /-- Environment variables, by pattern. -/
  environment : Option (List String) := none
  /-- Commands, by pattern. -/
  commands : Option (List String) := none
  /-- The key-value store. -/
  keys : Option (List KeyRule) := none
  deriving DecidableEq

/-- The rules of a category; none if it is absent. -/
def rulesOf {α : Type} (category : Option (List α)) : List α := category.getD []

@[simp] theorem rulesOf_none {α : Type} : rulesOf (none : Option (List α)) = [] := rfl

@[simp] theorem rulesOf_some {α : Type} (rules : List α) : rulesOf (some rules) = rules := rfl

namespace Grants

/-- No category at all. -/
def empty : Grants := {}

/-- No category grants anything. -/
def isEmpty (g : Grants) : Bool :=
  (rulesOf g.network).isEmpty && (rulesOf g.files).isEmpty && (rulesOf g.environment).isEmpty &&
    (rulesOf g.commands).isEmpty && (rulesOf g.keys).isEmpty

/-- A category with rules added at its end. -/
def extend {α : Type} (category : Option (List α)) (rules : List α) : Option (List α) :=
  some (rulesOf category ++ rules)

/-- Grants with connections added. -/
def allowNetwork (g : Grants) (hosts ports : List String) : Grants :=
  { g with network := extend g.network [⟨hosts, ports⟩] }

/-- Grants with files to read added. -/
def allowRead (g : Grants) (paths : List String) : Grants :=
  { g with files := extend g.files [⟨paths, []⟩] }

/-- Grants with files to write added. -/
def allowWrite (g : Grants) (paths : List String) : Grants :=
  { g with files := extend g.files [⟨[], paths⟩] }

/-- Grants with environment variables added. -/
def allowEnvironment (g : Grants) (names : List String) : Grants :=
  { g with environment := extend g.environment names }

/-- Grants with commands added. -/
def allowCommands (g : Grants) (commands : List String) : Grants :=
  { g with commands := extend g.commands commands }

/-- Grants with keys of the store added. -/
def allowKeys (g : Grants) (keys : List String) (access : KeyAccess) : Grants :=
  { g with keys := extend g.keys [⟨keys, access⟩] }

end Grants

/-- Missing grants are empty. -/
def isEmptyGrants (grants : Option Grants) : Bool := grants.all Grants.isEmpty

end PluginSandbox
