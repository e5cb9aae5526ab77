import PluginSandbox.Text.Blank
import PluginSandbox.Text.Numeral
import PluginSandbox.Text.Split

/-!
# Port patterns

A port pattern is `*`, a range `lo-hi`, or one port; blanks around it and
around the ends of a range are ignored. A request that names no port is
admitted by `*` alone.

## Main definitions

* `PortPattern`: the forms of a pattern.
* `PortPattern.admits`: the ports of a pattern.
* `PortPattern.isUsable`: the patterns that stand for at least one port.
-/

namespace PluginSandbox

open Text

/-- What a port pattern stands for. -/
inductive PortPattern where
  /-- Any port. -/
  | any
  /-- The ports between two ends, both included. -/
  | range (lo hi : UInt16)
  /-- One port. -/
  | exact (port : UInt16)
  /-- A text of no known form; it stands for no port. -/
  | never
  deriving DecidableEq

namespace PortPattern

/-- The form of a pattern. -/
def read (source : List Char) : PortPattern :=
  let cs := trim source
  if cs = ['*'] then any
  else match splitOnce '-' cs with
    | some (front, back) =>
      match readPort (trim front), readPort (trim back) with
      | some lo, some hi => range lo hi
      | _, _ => never
    | none =>
      match readPort cs with
      | some port => exact port
      | none => never

/-- The pattern stands for the port, or for any port if the request names none. -/
def admits : PortPattern → Option UInt16 → Bool
  | any, _ => true
  | _, none => false
  | range lo hi, some port => lo ≤ port && port ≤ hi
  | exact p, some port => p == port
  | never, some _ => false

/-- The pattern is well formed, and a range does not run backwards. -/
def isUsable : PortPattern → Bool
  | any => true
  | range lo hi => lo ≤ hi
  | exact _ => true
  | never => false

/-- The usable patterns are those that stand for some port. -/
theorem isUsable_iff (pattern : PortPattern) :
    pattern.isUsable = true ↔ ∃ port, pattern.admits (some port) = true := by
  cases pattern with
  | any => simp [isUsable, admits]
  | exact p => simp [isUsable, admits]
  | never => simp [isUsable, admits]
  | range lo hi =>
    simp only [isUsable, admits, decide_eq_true_eq, Bool.and_eq_true]
    exact ⟨fun h => ⟨lo, UInt16.le_refl lo, h⟩, fun ⟨_, h, k⟩ => UInt16.le_trans h k⟩

end PortPattern

/-- The port fits the pattern. -/
def portMatches (pattern : String) (port : Option UInt16) : Bool :=
  (PortPattern.read pattern.toList).admits port

end PluginSandbox
