import PluginSandbox.Data.Basic

/-!
# Decimal fractions in data

Fractions are kept exactly, as a mantissa and a decimal exponent. Formats admit
those that round to a finite number of double precision.

## Main definitions

* `isFiniteReal`: whether a decimal fraction rounds to a finite number.
* `nearestDouble`: a natural number rounded to double precision.
* `Data.ofReal`: a decimal fraction as a tree.
-/

namespace PluginSandbox

/-- Magnitudes below this bound round to a finite number of double precision. -/
def realBound : Nat := (1 <<< 1024) - (1 <<< 970)

/-- The magnitude `mantissa * 10 ^ exponent` rounds to a finite number of double precision. -/
def isFiniteReal (mantissa : Nat) (exponent : Int) : Bool :=
  let digits : Int := (Nat.toDigits 10 mantissa).length
  if mantissa = 0 || digits + exponent < 300 then true
  else if 320 < digits + exponent then false
  else if 0 ≤ exponent then mantissa * Nat.pow 10 exponent.toNat < realBound
  else mantissa < realBound * Nat.pow 10 (-exponent).toNat

/-- The multiple of a power of two with 53 bits in front of it that is nearest to a number; of two
the even one. -/
def nearestDouble (n : Nat) : Nat :=
  let unit := 1 <<< (n.log2 - 52)
  let below := n / unit
  let rest := n % unit
  if unit < 2 * rest || (2 * rest = unit && below % 2 = 1) then (below + 1) * unit
  else below * unit

/-- A decimal fraction as a tree; one that is not finite has no reading. -/
def Data.ofReal (negative : Bool) (mantissa : Nat) (exponent : Int) : Data :=
  if isFiniteReal mantissa exponent then
    .real (if negative then -(mantissa : Int) else mantissa) exponent
  else .garbled

end PluginSandbox
