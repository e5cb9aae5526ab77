import PluginSandbox.Data.Basic
import PluginSandbox.Text.Numeral
import PluginSandbox.Text.Reader

/-!
# Dates and times in TOML

A moment is a date, a time of day, or a date with a time of day and perhaps a
distance from universal time. Data knows no moments: one appears as a table with
a single reserved field, so that it is neither a text nor a list.

## Main definitions

* `Toml.daysIn`: the length of a month.
* `Toml.moment`: dates and times.
-/

namespace PluginSandbox.Toml

open Text Text.Reader

/-- A number of exactly `n` digits between two bounds. -/
def numberOf (n low high : Nat) : Reader Nat := do
  let value := valueFrom 10 digitValue 0 (← times isDigit n)
  if low ≤ value && value ≤ high then return value else failure

/-- The year has a leap day. -/
def isLeapYear (year : Nat) : Bool := year % 4 = 0 && (year % 100 ≠ 0 || year % 400 = 0)

/-- The number of days of a month. -/
def daysIn (year month : Nat) : Nat :=
  if month = 2 then if isLeapYear year then 29 else 28
  else if month = 4 || month = 6 || month = 9 || month = 11 then 30
  else 31

/-- A date. -/
def date : Reader Unit := do
  let year ← numberOf 4 0 9999
  discard (char '-')
  let month ← numberOf 2 1 12
  discard (char '-')
  discard (numberOf 2 1 (daysIn year month))

/-- Hours and minutes. -/
def hoursAndMinutes : Reader Unit := numberOf 2 0 23 *> char ':' *> discard (numberOf 2 0 59)

/-- A time of day; the last minute of a day may have a leap second. -/
def time : Reader Unit := do
  hoursAndMinutes
  discard (char ':' *> numberOf 2 0 60)
  discard (optional (char '.' *> someRun isDigit))

/-- The distance of a time from universal time. -/
def offset : Reader Unit :=
  discard (one fun c => c = 'Z' || c = 'z') <|>
    ((one fun c => c = '+' || c = '-') *> hoursAndMinutes)

/-- The time of day behind a date. -/
def timeOfDate : Reader Unit := do
  discard (one fun c => c = 'T' || c = 't' || c = ' ')
  time
  discard (optional offset)

/-- A date or a time of day, or both. -/
def momentText : Reader Unit := (date *> discard (optional timeOfDate)) <|> time

/-- The name of the field that holds a moment. -/
def momentField : String := "$__toml_private_datetime"

/-- A moment, with its text under the reserved name. -/
def moment : Reader Data := fun cs =>
  (momentText cs).map fun read =>
    (.table [(momentField, .ofChars (cs.take (cs.length - read.2.length)))], read.2)

end PluginSandbox.Toml
