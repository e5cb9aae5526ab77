import PluginSandbox.Manifest
import PluginSandbox.Proofs.Guard.HostList
import PluginSandbox.Proofs.Pattern.Port

/-!
# Which manifests are accepted

A manifest reads the port patterns of its rules to see whether they can be used, and the
policy reads them anew for each connection. Both read the same: what the manifest accepts
are the patterns that some port fits. With a name of the allowed characters and with hosts
that pass their own validation, that is all a manifest needs, and it is handed on as it was
decoded.

## Main definitions

* `Manifest.WellFormed`: what a manifest needs.

## Main statements

* `isPortPattern_eq`: the two readings of a port pattern agree.
* `checkPorts_eq_ok_iff`, `GuardConfig.checkHosts_eq_ok_iff`,
  `checkNetworkRules_eq_ok_iff`: the validations, entry by entry.
* `Manifest.accepts_usable`: the accepted manifests and port patterns.
-/

namespace PluginSandbox

open Text

/-! ## Port patterns -/

/-- What the manifest takes for a port pattern is what the policy reads as a usable one. -/
theorem isPortPattern_eq (pattern : String) :
    isPortPattern pattern = (PortPattern.read pattern.toList).isUsable := by
  rw [isPortPattern, PortPattern.read]
  by_cases hany : trim pattern.toList = ['*']
  · simp only [hany, if_true]
    rfl
  · simp only [hany, if_false]
    cases splitOnce '-' (trim pattern.toList) with
    | none => cases readPort (trim pattern.toList) <;> rfl
    | some ends =>
      obtain ⟨front, back⟩ := ends
      simp only
      cases readPort (trim front) with
      | none => rfl
      | some lo => cases readPort (trim back) <;> rfl

/-- The patterns that the manifest accepts are those that some port fits. -/
theorem isPortPattern_iff (pattern : String) :
    isPortPattern pattern = true ↔ ∃ port, portMatches pattern (some port) = true := by
  rw [isPortPattern_eq, PortPattern.isUsable_iff]
  rfl

theorem checkPorts_eq_ok_iff {patterns : List String} :
    checkPorts patterns = .ok () ↔ ∀ pattern ∈ patterns, isPortPattern pattern = true := by
  induction patterns with
  | nil => simp [checkPorts]
  | cons pattern patterns ih =>
    rw [checkPorts, List.forall_mem_cons, ← ih]
    by_cases h : isPortPattern pattern = true
    · simp [h]
    · simp [h]

/-! ## Hosts -/

/-- A result with another error is a success if it was one. -/
theorem mapError_eq_ok_iff {ε ε' α : Type} {f : ε → ε'} {result : Except ε α} {a : α} :
    result.mapError f = .ok a ↔ result = .ok a := by
  cases result with
  | error e => exact iff_of_false (fun h => nomatch h) (fun h => nomatch h)
  | ok b =>
    constructor
    · intro h
      rw [Except.ok.inj h]
    · intro h
      rw [Except.ok.inj h]
      rfl

/-- A list of hosts passes if each of its entries does, on its own. -/
theorem GuardConfig.checkHosts_eq_ok_iff {hosts : List String} :
    checkHosts hosts = .ok () ↔ ∀ host ∈ hosts, checkHosts [host] = .ok () := by
  simp only [checkHosts, mapError_eq_ok_iff, checkHostList_eq_ok_iff, List.mem_singleton,
    forall_eq]

/-! ## Manifests -/

/-- Two validations in turn succeed if both do. -/
theorem then_eq_ok_iff {ε α : Type} {first : Except ε Unit} {second : Except ε α} {a : α} :
    (do first; second) = .ok a ↔ first = .ok () ∧ second = .ok a := by
  cases first with
  | error e => simp [bind, Except.bind]
  | ok u => simp [bind, Except.bind]

theorem checkNetworkRules_eq_ok_iff {rules : List NetworkRule} :
    checkNetworkRules rules = .ok () ↔ ∀ rule ∈ rules,
      GuardConfig.checkHosts rule.hosts = .ok () ∧ checkPorts rule.ports = .ok () := by
  induction rules with
  | nil => simp [checkNetworkRules]
  | cons rule rules ih =>
    rw [checkNetworkRules, List.forall_mem_cons, ← ih, then_eq_ok_iff, then_eq_ok_iff,
      mapError_eq_ok_iff, and_assoc]

namespace Manifest

/-- What a manifest needs to be accepted. -/
structure WellFormed (manifest : Manifest) : Prop where
  name_ne : manifest.name ≠ ""
  /-- The name consists of lower-case letters, digits and three other characters. -/
  name_chars : ∀ c ∈ manifest.name.toList,
    ('a' ≤ c ∧ c ≤ 'z') ∨ ('0' ≤ c ∧ c ≤ '9') ∨ c = '-' ∨ c = '_' ∨ c = '.'
  /-- Every host that a rule names passes the validation of lists of hosts. -/
  hosts : ∀ rule ∈ rulesOf manifest.grants.network, ∀ host ∈ rule.hosts,
    GuardConfig.checkHosts [host] = .ok ()
  /-- Every port pattern that a rule names is one that some port fits. -/
  ports : ∀ rule ∈ rulesOf manifest.grants.network, ∀ pattern ∈ rule.ports,
    ∃ port, portMatches pattern (some port) = true

variable {manifest : Manifest}

theorem isPluginName_iff {name : String} : isPluginName name = true ↔ name ≠ "" ∧
    ∀ c ∈ name.toList,
      ('a' ≤ c ∧ c ≤ 'z') ∨ ('0' ≤ c ∧ c ≤ '9') ∨ c = '-' ∨ c = '_' ∨ c = '.' := by
  simp [isPluginName, isPluginNameChar, isLowerAlnum, isLower, isDigit, or_assoc]

theorem check_eq_ok_iff : manifest.check = .ok () ↔ manifest.WellFormed := by
  by_cases hname : isPluginName manifest.name = true
  · obtain ⟨hne, hchars⟩ := isPluginName_iff.1 hname
    rw [check, if_pos hname]
    change checkNetworkRules (rulesOf manifest.grants.network) = .ok () ↔ _
    rw [checkNetworkRules_eq_ok_iff]
    constructor
    · intro h
      refine ⟨hne, hchars, fun rule hrule => ?_, fun rule hrule pattern hpattern => ?_⟩
      · exact GuardConfig.checkHosts_eq_ok_iff.1 (h rule hrule).1
      · exact (isPortPattern_iff pattern).1 (checkPorts_eq_ok_iff.1 (h rule hrule).2 _ hpattern)
    · intro h rule hrule
      refine ⟨GuardConfig.checkHosts_eq_ok_iff.2 (h.hosts rule hrule), ?_⟩
      refine checkPorts_eq_ok_iff.2 fun pattern hpattern => ?_
      exact (isPortPattern_iff pattern).2 (h.ports rule hrule pattern hpattern)
  · rw [check, if_neg hname]
    constructor
    · intro h
      contradiction
    · intro h
      exact absurd (isPluginName_iff.2 ⟨h.name_ne, h.name_chars⟩) hname

/-- What is accepted is what was decoded, and it is well formed. -/
theorem parse_eq_ok_iff {text : String} : parse text = .ok manifest ↔
    (Toml.read text).bind ofData = some manifest ∧ manifest.WellFormed := by
  rw [parse]
  cases hdecoded : (Toml.read text).bind ofData with
  | none => simp
  | some decoded =>
    rw [then_eq_ok_iff, check_eq_ok_iff, and_comm]
    constructor
    · rintro ⟨hok, hwell⟩
      obtain rfl := Except.ok.inj hok
      exact ⟨rfl, hwell⟩
    · rintro ⟨hsome, hwell⟩
      obtain rfl := Option.some.inj hsome
      exact ⟨rfl, hwell⟩

/-- **Manifests are accepted for what can be used.** A text is accepted exactly if it decodes to a
manifest with a name of the allowed characters, all hosts of which pass the validation of hosts, and
all port patterns of which admit some port; what is handed on is what was decoded, with its grants
unchanged. The manifest and the policy read port patterns alike, and by the same grammar. -/
theorem accepts_usable :
    (∀ text manifest, parse text = .ok manifest ↔
      (Toml.read text).bind ofData = some manifest ∧ manifest.WellFormed) ∧
      (∀ pattern, isPortPattern pattern = true ↔
        ∃ port, portMatches pattern (some port) = true) ∧
      ∀ pattern port, portMatches pattern (some port) = true ↔ PortPattern.Fits pattern port :=
  ⟨fun _ _ => parse_eq_ok_iff, isPortPattern_iff, fun _ _ => portMatches_iff⟩

example :
    let manifest ports :=
      parse ("[plugin]\nname = 'a-1'\n[[grants.network.rules]]\nports = " ++ ports)
    (manifest "[' 80 - +443']").isOk = true ∧ (manifest "['443-80']").isOk = false := by
  decide +kernel

end Manifest

end PluginSandbox
