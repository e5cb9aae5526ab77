import PluginSandbox.Pattern.Port
import PluginSandbox.Proofs.Text.Numeral

/-!
# The grammar of port patterns

What fits a port pattern, said of its text: `*` is fit by every port, a text with a dash by
the ports between the two that its parts spell, and any other text by the port that it
spells. A port is spelled by digits with or without a plus sign in front of them, and
blanks around a part do not count.

## Main definitions

* `PortPattern.Fits`: the ports that fit a pattern.

## Main statements

* `portMatches_iff`: the ports that are admitted are those that fit.
-/

namespace PluginSandbox

open Text

/-- The port fits the pattern. -/
inductive PortPattern.Fits (pattern : String) (port : UInt16) : Prop
  /-- The pattern is `*`. -/
  | any (hstar : trim pattern.toList = ['*'])
  /-- The pattern is a range in which the port lies; it is cut at its first dash. -/
  | range (front back : List Char) (lo hi : UInt16)
      (hdash : trim pattern.toList = front ++ '-' :: back) (hfirst : '-' ∉ front)
      (hlo : SpellsPort (trim front) lo) (hhi : SpellsPort (trim back) hi)
      (hle : lo ≤ port) (hge : port ≤ hi)
  /-- The pattern spells the port. -/
  | exact (hdash : '-' ∉ trim pattern.toList) (hport : SpellsPort (trim pattern.toList) port)

section Admitted

variable {pattern : String} {port : UInt16} (hstar : trim pattern.toList ≠ ['*'])

include hstar

/-- A pattern without a dash admits the port that it is read as. -/
theorem portMatches_of_single (hdash : '-' ∉ trim pattern.toList) :
    portMatches pattern (some port) = true ↔ readPort (trim pattern.toList) = some port := by
  rw [portMatches, PortPattern.read]
  simp only [hstar, if_false, splitOnce_eq_none.2 hdash]
  cases readPort (trim pattern.toList) <;> simp [PortPattern.admits]

/-- A pattern with a dash admits the ports between the two that its parts are read as. -/
theorem portMatches_of_dash {front back : List Char}
    (hends : splitOnce '-' (trim pattern.toList) = some (front, back)) :
    portMatches pattern (some port) = true ↔ ∃ lo hi,
      readPort (trim front) = some lo ∧ readPort (trim back) = some hi ∧ lo ≤ port ∧ port ≤ hi := by
  rw [portMatches, PortPattern.read]
  simp only [hstar, if_false, hends]
  cases readPort (trim front) with
  | none => simp [PortPattern.admits]
  | some lo => cases readPort (trim back) <;> simp [PortPattern.admits]

end Admitted

/-- The ports that a pattern admits are those that fit it. -/
theorem portMatches_iff {pattern : String} {port : UInt16} :
    portMatches pattern (some port) = true ↔ PortPattern.Fits pattern port := by
  by_cases hstar : trim pattern.toList = ['*']
  · have hany : portMatches pattern (some port) = true := by
      rw [portMatches, PortPattern.read]
      simp only [hstar, if_true]
      rfl
    exact ⟨fun _ => .any hstar, fun _ => hany⟩
  constructor
  · intro h
    cases hends : splitOnce '-' (trim pattern.toList) with
    | none =>
      have hdash := splitOnce_eq_none.1 hends
      exact .exact hdash (readPort_eq_some_iff.1 ((portMatches_of_single hstar hdash).1 h))
    | some ends =>
      obtain ⟨front, back⟩ := ends
      obtain ⟨hcut, hfirst⟩ := splitOnce_eq_some.1 hends
      obtain ⟨lo, hi, hlo, hhi, hle, hge⟩ := (portMatches_of_dash hstar hends).1 h
      exact .range front back lo hi hcut hfirst (readPort_eq_some_iff.1 hlo)
        (readPort_eq_some_iff.1 hhi) hle hge
  · intro h
    cases h with
    | any hany => exact absurd hany hstar
    | range front back lo hi hdash hfirst hlo hhi hle hge =>
      exact (portMatches_of_dash hstar (splitOnce_eq_some.2 ⟨hdash, hfirst⟩)).2
        ⟨lo, hi, readPort_eq_some_iff.2 hlo, readPort_eq_some_iff.2 hhi, hle, hge⟩
    | exact hdash hport =>
      exact (portMatches_of_single hstar hdash).2 (readPort_eq_some_iff.2 hport)

end PluginSandbox
