import PluginSandbox.Data.Real
import PluginSandbox.Text.Numeral

/-!
# JSON numbers

Integers of 64 bits are kept as they are. Every other number has a significand,
made of the leading digits as far as 64 bits hold them, and a power of ten. It
has a reading if the product of the two is finite, where both and then the
product are rounded to double precision. Numbers near the bound of double
precision therefore depend on where their point stands.

## Main definitions

* `Json.takeDigits`: the digits that a significand of 64 bits holds.
* `Json.Scientific`: a significand with a power of ten.
* `Json.Scientific.isFinite`: whether their product is finite.
* `Json.readNumber`: the value of a number.
-/

namespace PluginSandbox.Json

open Text

/-- The significand `n` with digits put behind it as far as 64 bits hold it, and their number. -/
def takeDigits (n : Nat) : List Char → Nat × Nat
  | [] => (n, 0)
  | c :: cs =>
    if n * 10 + digitValue c ≤ maxNat64 then
      let taken := takeDigits (n * 10 + digitValue c) cs
      (taken.1, taken.2 + 1)
    else (n, 0)

/-- The number `significand * 10 ^ power`. -/
structure Scientific where
  significand : Nat
  power : Int
  deriving DecidableEq

namespace Scientific

/-- The number with these digits before and behind the point, times `10 ^ exponent`. A digit before
the point that finds no place in the significand counts in the power; one behind it is dropped. -/
def ofDigits (whole fraction : List Char) (exponent : Int) : Scientific :=
  let front := takeDigits 0 whole
  let all := takeDigits front.1 fraction
  ⟨all.1, (whole.length : Int) - front.2 - all.2 + exponent⟩

/-- The product of the significand and the power of ten is finite in double precision. -/
def isFinite (x : Scientific) : Bool :=
  if x.significand = 0 || x.power < 0 then true
  else if 308 < x.power then false
  else nearestDouble x.significand * nearestDouble (Nat.pow 10 x.power.toNat) < realBound

/-- The number as a tree; one that is not finite has no reading. -/
def toData (negative : Bool) (x : Scientific) : Data :=
  if x.isFinite then .real (if negative then -(x.significand : Int) else x.significand) x.power
  else .garbled

end Scientific

/-- An integer, if it fits 64 bits signed or unsigned; negative zero is no integer. -/
def integer? (negative : Bool) (n : Nat) : Option Data :=
  if negative then
    if 0 < n && n ≤ maxInt64 + 1 then some (.int (-(n : Int))) else none
  else if n ≤ maxNat64 then some (.int n) else none

/-- The digits of an exponent behind `e`, with their sign. -/
def readExponent : List Char → Option Int
  | '+' :: cs => (readNat cs).map Int.ofNat
  | '-' :: cs => (readNat cs).map fun n => -(n : Int)
  | cs => (readNat cs).map Int.ofNat

/-- A number with these digits before and behind its point, and the text of its exponent. -/
def readScaled (negative : Bool) (whole fraction : List Char) : List Char → Option Data
  | [] =>
    let number := (Scientific.ofDigits whole fraction 0).toData negative
    if fraction.isEmpty then
      some ((integer? negative (valueFrom 10 digitValue 0 whole)).getD number)
    else some number
  | e :: cs =>
    if e = 'e' ∨ e = 'E' then
      (readExponent cs).map fun x => (Scientific.ofDigits whole fraction x).toData negative
    else none

/-- A number without its sign. -/
def readMagnitude (negative : Bool) (cs : List Char) : Option Data :=
  let whole := cs.takeWhile isDigit
  let rest := cs.dropWhile isDigit
  if whole = [] ∨ (whole.head? = some '0' ∧ whole ≠ ['0']) then none
  else match rest with
    | '.' :: more =>
      let fraction := more.takeWhile isDigit
      if fraction = [] then none
      else readScaled negative whole fraction (more.dropWhile isDigit)
    | _ => readScaled negative whole [] rest

/-- The value of a number. -/
def readNumber : List Char → Option Data
  | '-' :: cs => readMagnitude true cs
  | cs => readMagnitude false cs

end PluginSandbox.Json
