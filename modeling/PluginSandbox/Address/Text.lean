import PluginSandbox.Address.Ip
import PluginSandbox.Text.Numeral
import PluginSandbox.Text.Split

/-!
# The text of an IP address

IPv4 addresses are four decimal octets without leading zeros. IPv6 addresses
are hexadecimal groups of one to four digits, of which the last two may be
written as an IPv4 address, and one `::` may stand for one or more zero groups.
An address is shown with its first longest run of at least two zero groups
left out, and in dotted form when it is IPv4-mapped.

## Main definitions

* `Ip.read`: the address that a text spells.
* `Ip.render`: the text of an address.
-/

namespace PluginSandbox

open Text

namespace Ip

/-- An octet: one to three digits without a leading zero, at most 255. -/
def readOctet (cs : List Char) : Option Nat :=
  if cs.length ≤ 3 ∧ (cs.head? = some '0' → cs = ['0']) then (readNat cs).filter (· ≤ 255)
  else none

/-- An IPv4 address: four octets between dots. -/
def readV4 (cs : List Char) : Option (BitVec 32) := do
  let octets ← (cs.splitOn '.').mapM readOctet
  if octets.length = 4 then some (ofOctets octets) else none

/-- A group: one to four hexadecimal digits. -/
def readGroup (cs : List Char) : Option Nat :=
  if cs ≠ [] ∧ cs.length ≤ 4 then readHex cs else none

/-- The groups between colons of a text that holds no `::`; an empty text holds none. -/
def groupFields (cs : List Char) : List (List Char) := if cs = [] then [] else cs.splitOn ':'

/-- Groups of which the last two may be written as an IPv4 address. -/
def readTrailing : List (List Char) → Option (List Nat)
  | [] => some []
  | [cs] => match readV4 cs with
    | some a => some (wordsOf groupCount 2 a.toNat)
    | none => (readGroup cs).map ([·])
  | cs :: more => do
    let g ← readGroup cs
    let gs ← readTrailing more
    some (g :: gs)

/-- An IPv6 address: eight groups, or fewer with one `::` in place of the missing zeros. -/
def readV6 (cs : List Char) : Option (BitVec 128) :=
  match splitOnPair ':' cs with
  | none => do
    let gs ← readTrailing (groupFields cs)
    if gs.length = 8 then some (ofGroups gs) else none
  | some (front, back) => do
    let hs ← (groupFields front).mapM readGroup
    let ts ← readTrailing (groupFields back)
    if hs.length + ts.length ≤ 7 then
      some (ofGroups (hs ++ List.replicate (8 - hs.length - ts.length) 0 ++ ts))
    else none

/-- The address that a text spells. -/
def read (cs : List Char) : Option Ip :=
  match readV4 cs with
  | some a => some (v4 a)
  | none => (readV6 cs).map v6

/-- Four decimal octets between dots. -/
def showV4 (a : BitVec 32) : List Char := ['.'].intercalate ((octets a).map showNat)

/-- Hexadecimal groups between colons. -/
def showGroups (gs : List Nat) : List Char := [':'].intercalate (gs.map showHex)

/-- The number of zero groups in front. -/
def zeroRun (gs : List Nat) : Nat := (gs.takeWhile (· = 0)).length

/-- Where the first longest run of zero groups starts. -/
def longestZeroRun (gs : List Nat) : Nat :=
  (List.range gs.length).foldl
    (fun best i => if zeroRun (gs.drop best) < zeroRun (gs.drop i) then i else best) 0

/-- Groups with the first longest run of at least two zeros written as `::`. -/
def showCompressed (gs : List Nat) : List Char :=
  let start := longestZeroRun gs
  let run := zeroRun (gs.drop start)
  if 1 < run then showGroups (gs.take start) ++ ':' :: ':' :: showGroups (gs.drop (start + run))
  else showGroups gs

/-- The text of an IPv6 address. -/
def showV6 (a : BitVec 128) : List Char :=
  match unmapped? a with
  | some b => "::ffff:".toList ++ showV4 b
  | none => showCompressed (groups a)

/-- The text of an address. -/
def render : Ip → List Char
  | v4 a => showV4 a
  | v6 a => showV6 a

/-- The text of an address, as a string. -/
def text (ip : Ip) : String := String.ofList ip.render

end Ip

end PluginSandbox
