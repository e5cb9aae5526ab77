import PluginSandbox.Data.Real
import PluginSandbox.Text.Numeral
import PluginSandbox.Text.Reader

/-!
# Numbers in TOML

Digits may be grouped by single underscores between them. Decimal integers have
an optional sign and no leading zeros; the other bases have neither sign nor
restriction on zeros. Integers fit 64 bits with sign.

## Main definitions

* `Toml.integer`: integers.
* `Toml.fraction`: numbers with a point or an exponent, and the special ones.
-/

namespace PluginSandbox.Toml

open Text Text.Reader

/-- Digits of a class, grouped by underscores. -/
def groupedDigits (p : Char → Bool) : Reader (List Char) := do
  let first ← one p
  return first :: (← many (one p <|> (char '_' *> one p)))

/-- The digits of a decimal integer; a leading zero stands alone. -/
def wholeDigits : Reader (List Char) := do
  let digits ← groupedDigits isDigit
  if digits.head? = some '0' && digits.length ≠ 1 then failure else return digits

/-- An integer of 64 bits with sign. -/
def ofSigned (negative : Bool) (n : Nat) : Reader Data :=
  if negative then
    if n ≤ maxInt64 + 1 then return .int (-(n : Int)) else failure
  else if n ≤ maxInt64 then return .int n else failure

/-- An integer in a base other than ten, behind the letter of the base. -/
def basedInteger (letter : Char) (base : Nat) : Reader Data := do
  discard (char '0' *> char letter)
  let isBaseDigit (c : Char) : Bool := (hexValue c).any (· < base)
  let digits ← groupedDigits isBaseDigit
  ofSigned false (valueFrom base (fun c => (hexValue c).getD 0) 0 digits)

/-- A decimal integer. -/
def decimalInteger : Reader Data := do
  let negative ← sign
  let digits ← wholeDigits
  ofSigned negative (valueFrom 10 digitValue 0 digits)

/-- An integer. -/
def integer : Reader Data :=
  basedInteger 'x' 16 <|> basedInteger 'o' 8 <|> basedInteger 'b' 2 <|> decimalInteger

/-- The digits behind a point. -/
def fractionDigits : Reader (List Char) := char '.' *> groupedDigits isDigit

/-- The exponent behind `e`. -/
def exponent : Reader Int := do
  discard (one fun c => c = 'e' || c = 'E')
  let negative ← sign
  let digits ← groupedDigits isDigit
  let value : Int := valueFrom 10 digitValue 0 digits
  return if negative then -value else value

/-- A number with a point or an exponent; it must not exceed the finite ones. -/
def decimalFraction : Reader Data := do
  let negative ← sign
  let whole ← wholeDigits
  let behind ← optional fractionDigits
  let power ← if behind.isSome then optional exponent else some <$> exponent
  let digits := behind.getD []
  let mantissa := valueFrom 10 digitValue 0 (whole ++ digits)
  let scale := power.getD 0 - digits.length
  if negative || isFiniteReal mantissa scale then return .ofReal negative mantissa scale
  else failure

/-- Infinity or no number at all. -/
def specialFraction : Reader Data := do
  discard sign
  word "inf" <|> word "nan"
  return .garbled

/-- A number that is no integer. -/
def fraction : Reader Data := decimalFraction <|> specialFraction

end PluginSandbox.Toml
