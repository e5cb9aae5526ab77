import PluginSandbox.Address.Cidr
import PluginSandbox.Text.Ascii
import PluginSandbox.Text.Blank
import PluginSandbox.Text.Bytes

/-!
# Host patterns

A host pattern is `*` for any host, an address block, a literal address, a
wildcard `*.suffix` for a name and everything below it, or a literal name.
Names are compared without regard to ASCII case and to dots at the end of the
host. A host that is an address never fits a name pattern, so no wildcard
reaches an address.

## Main definitions

* `HostPattern`: the forms of a pattern.
* `HostPattern.read`: the form that a text has.
* `HostPattern.admits`: the hosts of a pattern.
* `hostMatches`, `firstHostMatch?`: the same on strings and lists of patterns.
-/

namespace PluginSandbox

open Text

/-- What a host pattern stands for. -/
inductive HostPattern where
  /-- Any host. -/
  | any
  /-- The addresses of a block. -/
  | block (cidr : Cidr)
  /-- A text with a slash that is no block; it stands for no host. -/
  | never
  /-- One address, in either of its spellings. -/
  | address (ip : Ip)
  /-- A name and all names below it. -/
  | subdomains (suffix : List Char)
  /-- One name. -/
  | name (own : List Char)
  deriving DecidableEq

namespace HostPattern

/-- The form of a pattern. -/
def read (cs : List Char) : HostPattern :=
  if cs = ['*'] then any
  else if '/' ∈ cs then
    match Cidr.read cs with
    | .ok cidr => block cidr
    | .error _ => never
  else match Ip.read cs with
    | some ip => address ip
    | none => match stripPrefix? ['*', '.'] cs with
      | some suffix => subdomains suffix
      | none => name cs

/-- The host without the dots at its end. -/
def withoutFinalDots (host : List Char) : List Char := trimEndBy (· == '.') host

/-- The byte of a dot. -/
def dotByte : UInt8 := 0x2E

/-- A name ends in a suffix with a dot in front of it. What is compared with the suffix is the end
of the name that has as many bytes, and it is looked at only behind the byte of a dot. -/
def endsBelow (suffix host : List Char) : Bool :=
  let cut := byteLength host - byteLength suffix
  byteLength suffix < byteLength host && (utf8Bytes host)[cut - 1]? == some dotByte &&
    (dropBytes? cut host).any fun back => sameFolded back suffix

/-- A name lies at or below a suffix, label by label. -/
def isBelow (suffix host : List Char) : Bool := sameFolded host suffix || endsBelow suffix host

/-- The host is one that the pattern stands for. -/
def admits (pattern : HostPattern) (host : List Char) : Bool :=
  match pattern with
  | any => true
  | never => false
  | block cidr => (Ip.read host).any cidr.contains
  | address ip => (Ip.read host).any fun a => a.canonical == ip.canonical
  | subdomains suffix => (Ip.read host).isNone && isBelow suffix (withoutFinalDots host)
  | name own => (Ip.read host).isNone && sameFolded (withoutFinalDots host) own

end HostPattern

/-- The host fits the pattern. -/
def hostMatches (pattern host : String) : Bool :=
  (HostPattern.read pattern.toList).admits host.toList

/-- The first pattern that fits the host or its address. -/
def firstHostMatch? (patterns : List String) (host : String) (ip : Option Ip) : Option String :=
  patterns.find? fun p => hostMatches p host || ip.any fun a => hostMatches p a.text

end PluginSandbox
