import PluginSandbox.Address.Cidr
import PluginSandbox.Proofs.Text.Ascii

/-!
# Addresses in either case

The letters of an address are hexadecimal digits, whose value does not depend on
case, and what stands between the digits is no letter. So a text spells the same
address, and the same block of addresses, however its letters are cased.

## Main statements

* `Ip.read_lower`: addresses.
* `Cidr.read_lower`: blocks.
-/

namespace PluginSandbox

open Text

namespace Ip

/-- A reader of fields that takes no notice of case reads folded fields as it reads the fields. -/
theorem mapM_map_lower {α : Type} {reader : List Char → Option α}
    (h : ∀ cs, reader (lower cs) = reader cs) (fields : List (List Char)) :
    (fields.map lower).mapM reader = fields.mapM reader := by
  induction fields with
  | nil => rfl
  | cons f fs ih => simp [h, ih]

theorem readOctet_lower (cs : List Char) : readOctet (lower cs) = readOctet cs := by
  have hzero {c : Char} : c.toLower = '0' ↔ c = '0' := toLower_eq_iff (by decide)
  rw [readOctet, readOctet, readNat_lower, length_lower]
  cases cs with
  | nil => rfl
  | cons c cs => simp [hzero, lower]

theorem readV4_lower (cs : List Char) : readV4 (lower cs) = readV4 cs := by
  rw [readV4, readV4, splitOn_lower (by decide), mapM_map_lower readOctet_lower]

theorem readGroup_lower (cs : List Char) : readGroup (lower cs) = readGroup cs := by
  have hnil : lower cs = [] ↔ cs = [] := List.map_eq_nil_iff
  rw [readGroup, readGroup, readHex_lower, length_lower]
  simp only [ne_eq, hnil]

theorem groupFields_lower (cs : List Char) :
    groupFields (lower cs) = (groupFields cs).map lower := by
  rw [groupFields, groupFields, splitOn_lower (by decide)]
  cases cs <;> simp

theorem readTrailing_map_lower (fields : List (List Char)) :
    readTrailing (fields.map lower) = readTrailing fields := by
  fun_induction readTrailing fields with
  | case1 => rfl
  | case2 cs a h => simp [readTrailing, readV4_lower, h]
  | case3 cs h => simp [readTrailing, readV4_lower, readGroup_lower, h]
  | case4 cs more hmore ih =>
    rw [List.map_cons, readTrailing, readGroup_lower, ih]
    simpa using hmore

theorem readV6_lower (cs : List Char) : readV6 (lower cs) = readV6 cs := by
  rw [readV6, readV6, splitOnPair_lower (by decide)]
  cases splitOnPair ':' cs with
  | none => simp only [Option.map_none, groupFields_lower, readTrailing_map_lower]
  | some parts =>
    simp only [Option.map_some, Prod.map, groupFields_lower, readTrailing_map_lower,
      mapM_map_lower readGroup_lower]

/-- A text spells the same address in lower case. -/
theorem read_lower (cs : List Char) : read (lower cs) = read cs := by
  rw [read, read, readV4_lower, readV6_lower]

end Ip

/-- A text spells the same block in lower case. -/
theorem Cidr.read_lower (cs : List Char) : read (lower cs) = read cs := by
  rw [read, read, splitOnce_lower (by decide)]
  cases splitOnce '/' cs with
  | none => rfl
  | some parts => simp only [Option.map_some, Prod.map, Ip.read_lower, readBounded_lower]

end PluginSandbox
