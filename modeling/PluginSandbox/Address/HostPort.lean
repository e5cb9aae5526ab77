import PluginSandbox.Address.Text
import PluginSandbox.Text.Ascii
import PluginSandbox.Text.Blank
import PluginSandbox.Text.Bytes

/-!
# Targets of connections

A target is a host with an optional port: `host`, `host:port`, an IPv6 address
by itself, or one in brackets with an optional port. The host of a target is
kept in normal form: addresses as they are shown, names in lower case and
without a dot at the end.

## Main definitions

* `HostPort`: a host in normal form with an optional port.
* `HostPort.Error`: why a text is no target.
* `HostPort.read`: the target that a text spells.
-/

namespace PluginSandbox

open Text

/-- A host in normal form with an optional port. -/
structure HostPort where
  host : List Char
  port : Option UInt16
  deriving DecidableEq

namespace HostPort

/-- Why a text is no target. -/
inductive Error where
  /-- There is nothing but blanks. -/
  | emptyAddress
  /-- A bracket is not closed. -/
  | unclosedBracket (address : List Char)
  /-- What stands in brackets is no IPv6 address. -/
  | notIpv6 (host : List Char)
  /-- Something other than a port follows a bracket. -/
  | strayText (tail : List Char)
  /-- A port is no number up to 65535. -/
  | badPort (port : List Char)
  /-- Several colons, and no IPv6 address. -/
  | manyColons (address : List Char)
  /-- There is no host. -/
  | emptyHost
  /-- A name is too long. -/
  | longHost
  /-- A name has a character or a label that names cannot have. -/
  | badHost (host : List Char)
  deriving DecidableEq

/-- The longest name, in bytes. -/
def maxHostLength : Nat := 253

/-- The message about a text that is no target. -/
def Error.message : Error → String
  | emptyAddress => "empty address"
  | unclosedBracket address => "unterminated '[' in '" ++ String.ofList address ++ "'"
  | notIpv6 host => "'" ++ String.ofList host ++ "' is not an IPv6 literal"
  | strayText tail => "unexpected '" ++ String.ofList tail ++ "' after ']'"
  | badPort port => "invalid port '" ++ String.ofList port ++ "'"
  | manyColons address =>
    "'" ++ String.ofList address ++
      "' has multiple colons; IPv6 literals with a port must be bracketed"
  | emptyHost => "empty host"
  | longHost => "hostname longer than " ++ String.ofList (showNat maxHostLength) ++ " characters"
  | badHost host => "invalid hostname '" ++ String.ofList host ++ "'"

/-- A character of a name. -/
def isHostChar (c : Char) : Bool := isAlnum c || c = '-' || c = '.' || c = '_'

/-- A text without one dot at its end. -/
def dropFinalDot (cs : List Char) : List Char := (stripSuffix? ['.'] cs).getD cs

/-- A host other than an IPv6 address, in normal form. -/
def readHost (host : List Char) : Except Error (List Char) :=
  match Ip.readV4 host with
  | some a => .ok (Ip.showV4 a)
  | none =>
    let name := dropFinalDot host
    if name = [] then .error .emptyHost
    else if maxHostLength < byteLength name then .error .longHost
    else if name.all isHostChar && name.head? != some '.' && !hasInfix ['.', '.'] name then
      .ok (lower name)
    else .error (.badHost name)

/-- The port that a target names. -/
def readPortOf (cs : List Char) : Except Error UInt16 :=
  match readPort cs with
  | some port => .ok port
  | none => .error (.badPort cs)

/-- An IPv6 address in brackets, from behind the opening one. -/
def readBracketed (address rest : List Char) : Except Error HostPort :=
  match splitOnce ']' rest with
  | none => .error (.unclosedBracket address)
  | some (host, tail) =>
    match Ip.readV6 host with
    | none => .error (.notIpv6 host)
    | some a =>
      match tail with
      | [] => .ok ⟨Ip.showV6 a, none⟩
      | ':' :: port => (readPortOf port).map fun p => ⟨Ip.showV6 a, some p⟩
      | _ => .error (.strayText tail)

/-- A target without brackets. -/
def readPlain (address : List Char) : Except Error HostPort :=
  match splitOnce ':' address with
  | none => (readHost address).map fun host => ⟨host, none⟩
  | some (host, port) =>
    if ':' ∈ port then
      match Ip.readV6 address with
      | some a => .ok ⟨Ip.showV6 a, none⟩
      | none => .error (.manyColons address)
    else do
      let host ← readHost host
      let port ← readPortOf port
      .ok ⟨host, some port⟩

/-- The target that a text spells; blanks around it are ignored. -/
def read (address : List Char) : Except Error HostPort :=
  match trim address with
  | [] => .error .emptyAddress
  | '[' :: rest => readBracketed ('[' :: rest) rest
  | address => readPlain address

end HostPort

end PluginSandbox
