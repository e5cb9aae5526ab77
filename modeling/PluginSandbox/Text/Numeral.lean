import PluginSandbox.Text.Ascii

/-!
# Unsigned numerals

Decimal numerals as they are read from patterns, ports and mask lengths: an
optional `+`, then at least one digit, leading zeros allowed, and a value
within a bound. Hexadecimal numerals carry no sign.

## Main definitions

* `maxNat32`, `maxNat64`, `maxInt64`: the bounds of words.
* `readNat`: the value of a run of decimal digits.
* `readBounded`: a signed-style decimal numeral up to a largest value.
* `readPort`, `showPort`: the numerals of ports.
* `hexValue`, `showHex`: hexadecimal digits.
-/

namespace PluginSandbox.Text

/-- The largest number of 32 bits. -/
def maxNat32 : Nat := 4294967295

/-- The largest number of 64 bits. -/
def maxNat64 : Nat := 18446744073709551615

/-- The largest number of 64 bits of which one is the sign. -/
def maxInt64 : Nat := 9223372036854775807

/-- The value of a decimal digit. -/
def digitValue (c : Char) : Nat := c.toNat - '0'.toNat

/-- The value of digits in a base, most significant first, after `acc` has been read. -/
def valueFrom (base : Nat) (value : Char → Nat) (acc : Nat) (cs : List Char) : Nat :=
  cs.foldl (fun n c => n * base + value c) acc

/-- The value of a text that consists of decimal digits, at least one. -/
def readNat (cs : List Char) : Option Nat :=
  if cs ≠ [] ∧ cs.all isDigit then some (valueFrom 10 digitValue 0 cs) else none

/-- The digits of a numeral behind its optional `+`. -/
def dropPlus : List Char → List Char
  | '+' :: cs => cs
  | cs => cs

/-- The value of a decimal numeral, if it is at most `max`. -/
def readBounded (max : Nat) (cs : List Char) : Option Nat :=
  (readNat (dropPlus cs)).filter (· ≤ max)

/-- The decimal digits of a number, without leading zeros. -/
def showNat (n : Nat) : List Char := Nat.toDigits 10 n

/-- A port number. -/
def readPort (cs : List Char) : Option UInt16 :=
  (readBounded 65535 cs).map UInt16.ofNat

/-- The decimal digits of a port. -/
def showPort (port : UInt16) : String := String.ofList (showNat port.toNat)

/-- The value of a hexadecimal digit of either case. -/
def hexValue (c : Char) : Option Nat :=
  if isDigit c then some (digitValue c)
  else if 'a' ≤ c && c ≤ 'f' then some (c.toNat - 'a'.toNat + 10)
  else if 'A' ≤ c && c ≤ 'F' then some (c.toNat - 'A'.toNat + 10)
  else none

/-- The value of hexadecimal digits of either case. -/
def readHex (cs : List Char) : Option Nat :=
  cs.foldlM (fun n c => (hexValue c).map (n * 16 + ·)) 0

/-- The lower-case hexadecimal digits of a number, without leading zeros. -/
def showHex (n : Nat) : List Char := Nat.toDigits 16 n

end PluginSandbox.Text
