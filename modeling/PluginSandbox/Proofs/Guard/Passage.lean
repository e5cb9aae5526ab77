import PluginSandbox.Guard.Basic
import PluginSandbox.Proofs.Guard.Trace
import PluginSandbox.Proofs.Pattern.Address

/-!
# The ways through the guard

The guard decides by a sequence of tests, each of which may end the decision.
Here each ending is one equation, and what they have in common is one case
distinction: a host that passes is on the list of hosts that pass, or spells an
address that nothing speaks against, or was looked up to such an address, or is
a name that is not looked up at all.

## Main definitions

* `GuardConfig.PortPasses`: nothing speaks against a port.
* `GuardConfig.Clears`: nothing speaks against an address.
* `GuardConfig.Answers`: what makes a reply give an address.
* `GuardConfig.Passes`: the ways through the guard.
-/

namespace PluginSandbox.GuardConfig

variable {config : GuardConfig} {host : List Char}

/-! ## Ports -/

/-- The port is among the only ones that pass, if there are such, and not among those that never
pass. -/
def PortPasses (config : GuardConfig) (port : UInt16) : Prop :=
  (config.portAllowList ≠ [] → port ∈ config.portAllowList) ∧ port ∉ config.portBlockList

theorem portReason?_eq_none_iff (port : UInt16) :
    config.portReason? port = none ↔ config.PortPasses port := by
  rw [portReason?, PortPasses]
  by_cases hallow : config.portAllowList ≠ [] ∧ port ∉ config.portAllowList
  · simp [hallow]
  · have hmem : config.portAllowList ≠ [] → port ∈ config.portAllowList := by
      intro hne
      exact Decidable.byContradiction fun h => hallow ⟨hne, h⟩
    by_cases hblock : port ∈ config.portBlockList
    · simp [hallow, hblock]
    · simp only [if_neg hallow, if_neg hblock, true_iff]
      exact ⟨hmem, hblock⟩

theorem bind_portReason?_eq_none_iff (port : Option UInt16) :
    port.bind config.portReason? = none ↔ ∀ p, port = some p → config.PortPasses p := by
  cases port <;> simp [portReason?_eq_none_iff]

/-! ## Addresses -/

/-- No blocked class has the address, and no entry of the list of hosts that never pass fits it, in
the form it has and without the IPv4-mapped form. -/
structure Clears (config : GuardConfig) (ip : Ip) : Prop where
  classes : ∀ cls, config.blocks cls = true → cls.has ip.canonical = false
  entries : ∀ entry ∈ config.hostBlockList,
    hostMatches entry ip.text = false ∧ hostMatches entry ip.canonical.text = false

theorem mem_allClasses (cls : AddressClass) : cls ∈ AddressClass.all := by
  cases cls <;> decide

theorem blockedClass?_eq_none_iff (ip : Ip) :
    config.blockedClass? ip = none ↔
      ∀ cls, config.blocks cls = true → cls.has ip.canonical = false := by
  simp [blockedClass?, mem_allClasses]

theorem clears_iff (ip : Ip) :
    config.Clears ip ↔ config.blockedClass? ip = none ∧
      firstHostMatch? config.hostBlockList ip.text none = none := by
  rw [blockedClass?_eq_none_iff, firstHostMatch?_text_eq_none_iff]
  constructor
  · intro h
    exact ⟨h.classes, fun entry he => (h.entries entry he).1⟩
  · rintro ⟨hclasses, hentries⟩
    refine ⟨hclasses, fun entry he => ⟨hentries entry he, ?_⟩⟩
    rw [hostMatches_text_canonical]
    exact hentries entry he

theorem ip_validateIp (ip : Ip) : (config.validateIp ip).ip = some ip := by
  rw [validateIp]
  split
  · rfl
  · split
    · rfl
    · split <;> rfl

/-- An address passes exactly if nothing speaks against it. -/
theorem allowed_validateIp_iff (ip : Ip) :
    (config.validateIp ip).allowed = true ↔ config.Clears ip := by
  rw [clears_iff, validateIp]
  cases config.blockedClass? ip with
  | some cls => simp [Validation.deny]
  | none =>
    cases firstHostMatch? config.hostBlockList ip.text none with
    | some entry => simp [Validation.deny]
    | none =>
      simp only [and_self, iff_true]
      cases firstHostMatch? config.hostAllowList ip.text none <;> rfl

/-! ## Replies -/

/-- The reply comes in time, and the address is its first one. -/
def Answers (config : GuardConfig) (reply : LookupReply) (ip : Ip) : Prop :=
  reply.delayMs ≤ config.lookupTimeoutMs.toNat ∧ ∃ more, reply.outcome = .ok (ip :: more)

/-- What the guard makes of a reply. -/
def answer (config : GuardConfig) (host : String) (reply : LookupReply) : Except LookupError Ip :=
  if config.lookupTimeoutMs.toNat < reply.delayMs then
    .error (.late config.lookupTimeoutMs.toNat)
  else match reply.outcome with
    | .error cause => .error (.failed host cause)
    | .ok [] => .error (.noAddress host)
    | .ok (ip :: _) => .ok ip

theorem lookUp_eq (config : GuardConfig) (name : String) :
    config.lookUp name = .ask name fun reply => .done (config.answer name reply) := rfl

theorem answer_eq_ok_iff (name : String) (reply : LookupReply) (ip : Ip) :
    config.answer name reply = .ok ip ↔ config.Answers reply ip := by
  rw [answer, Answers]
  by_cases hlate : config.lookupTimeoutMs.toNat < reply.delayMs
  · have : ¬reply.delayMs ≤ config.lookupTimeoutMs.toNat := by omega
    simp [hlate, this]
  · have : reply.delayMs ≤ config.lookupTimeoutMs.toNat := by omega
    rw [if_neg hlate]
    cases reply.outcome with
    | error cause => simp
    | ok ips => cases ips <;> simp [this]

/-- The decision about a name that was looked up. -/
def judge (config : GuardConfig) (name : String) (reply : LookupReply) : Validation :=
  match config.answer name reply with
  | .ok ip => config.validateIp ip
  | .error e => .deny (.lookup e) none

/-- A result is what is left of it once errors are left out. -/
theorem eq_ok_of_toOption {ε α : Type} {r : Except ε α} {a : α} (h : r.toOption = some a) :
    r = .ok a := by
  cases r with
  | ok b => rw [Option.some.inj h]
  | error e => contradiction

/-! ## The endings of a decision -/

theorem validateHost_of_allowListed (hallow : HostListed config.hostAllowList host) :
    ∃ entry, config.validateHost host = .done (.allow (.hostAllowed entry) (Ip.read host)) := by
  obtain ⟨entry, he⟩ := exists_firstHostMatch?_of_hostListed hallow
  exact ⟨entry, by simp only [validateHost, he]⟩

section Unlisted

variable (hallow : ¬HostListed config.hostAllowList host)

include hallow

theorem validateHost_of_blockListed (hblock : HostListed config.hostBlockList host) :
    ∃ entry, config.validateHost host = .done (.deny (.hostBlocked entry) (Ip.read host)) := by
  have ha := (firstHostMatch?_eq_none_iff _ _).2 hallow
  obtain ⟨entry, he⟩ := exists_firstHostMatch?_of_hostListed hblock
  exact ⟨entry, by simp only [validateHost, ha, he]⟩

variable (hblock : ¬HostListed config.hostBlockList host)

include hblock

theorem validateHost_of_literal {ip : Ip} (hip : Ip.read host = some ip) :
    config.validateHost host = .done (config.validateIp ip) := by
  have ha := (firstHostMatch?_eq_none_iff _ _).2 hallow
  have hb := (firstHostMatch?_eq_none_iff _ _).2 hblock
  rw [hip] at ha hb
  simp only [validateHost, hip, ha, hb]

variable (hname : Ip.read host = none)

include hname

theorem validateHost_of_localName (hlocal : (config.blockLoopback && isLocalName host) = true) :
    config.validateHost host = .done (.deny (.localName (String.ofList host)) none) := by
  have ha := (firstHostMatch?_eq_none_iff _ _).2 hallow
  have hb := (firstHostMatch?_eq_none_iff _ _).2 hblock
  rw [hname] at ha hb
  simp only [validateHost, hname, ha, hb, if_pos hlocal]

variable (hlocal : ¬(config.blockLoopback && isLocalName host) = true)

include hlocal

theorem validateHost_of_resolve (hon : config.resolveNames = true) :
    config.validateHost host =
      .ask (String.ofList host) fun reply => .done (config.judge (String.ofList host) reply) := by
  have ha := (firstHostMatch?_eq_none_iff _ _).2 hallow
  have hb := (firstHostMatch?_eq_none_iff _ _).2 hblock
  rw [hname] at ha hb
  simp only [validateHost, hname, ha, hb, if_neg hlocal, hon, if_true, lookUp_eq]
  change Lookup.ask _ _ = _
  congr 1
  funext reply
  change (Lookup.done (config.answer (String.ofList host) reply)).bind _ = _
  rw [judge]
  cases config.answer (String.ofList host) reply <;> rfl

theorem validateHost_of_unresolved (hoff : config.resolveNames = false) :
    config.validateHost host = .done (.allow .unresolved none) := by
  have ha := (firstHostMatch?_eq_none_iff _ _).2 hallow
  have hb := (firstHostMatch?_eq_none_iff _ _).2 hblock
  rw [hname] at ha hb
  simp only [validateHost, hname, ha, hb, if_neg hlocal, hoff, Bool.false_eq_true, if_false]

end Unlisted

/-- A decision about a host looks the host up once, or nothing. -/
theorem validateHost_cases (config : GuardConfig) (host : List Char) :
    (∃ v, config.validateHost host = .done v) ∨
      config.validateHost host =
        .ask (String.ofList host) fun reply => .done (config.judge (String.ofList host) reply) := by
  by_cases hallow : HostListed config.hostAllowList host
  · obtain ⟨entry, heq⟩ := validateHost_of_allowListed hallow
    exact Or.inl ⟨_, heq⟩
  by_cases hblock : HostListed config.hostBlockList host
  · obtain ⟨entry, heq⟩ := validateHost_of_blockListed hallow hblock
    exact Or.inl ⟨_, heq⟩
  cases hname : Ip.read host with
  | some own => exact Or.inl ⟨_, validateHost_of_literal hallow hblock hname⟩
  | none =>
    by_cases hlocal : (config.blockLoopback && isLocalName host) = true
    · exact Or.inl ⟨_, validateHost_of_localName hallow hblock hname hlocal⟩
    cases hon : config.resolveNames with
    | false => exact Or.inl ⟨_, validateHost_of_unresolved hallow hblock hname hlocal hon⟩
    | true => exact Or.inr (validateHost_of_resolve hallow hblock hname hlocal hon)

/-! ## The ways through -/

/-- How a host passes the guard, with the address that the decision names and the names that are
looked up for it; `reply` is the answer to a look-up. -/
inductive Passes (config : GuardConfig) (host : List Char) (reply : LookupReply) (ip : Option Ip)
    (asked : List String) : Prop where
  /-- The host is on the list of hosts that pass. -/
  | listed (hallow : HostListed config.hostAllowList host) (hip : ip = Ip.read host)
      (hasked : asked = [])
  /-- The host spells an address that nothing speaks against. -/
  | literal (own : Ip) (hallow : ¬HostListed config.hostAllowList host)
      (hblock : ¬HostListed config.hostBlockList host) (hown : Ip.read host = some own)
      (hclear : config.Clears own) (hip : ip = some own) (hasked : asked = [])
  /-- The host is a name for which an address is found that nothing speaks against. -/
  | resolved (found : Ip) (hallow : ¬HostListed config.hostAllowList host)
      (hblock : ¬HostListed config.hostBlockList host) (hname : Ip.read host = none)
      (hlocal : ¬(config.blockLoopback && isLocalName host) = true)
      (hon : config.resolveNames = true) (hfound : config.Answers reply found)
      (hclear : config.Clears found) (hip : ip = some found) (hasked : asked = [String.ofList host])
  /-- The host is a name, and names are not looked up. -/
  | unresolved (hallow : ¬HostListed config.hostAllowList host)
      (hblock : ¬HostListed config.hostBlockList host) (hname : Ip.read host = none)
      (hlocal : ¬(config.blockLoopback && isLocalName host) = true)
      (hoff : config.resolveNames = false) (hip : ip = none) (hasked : asked = [])

variable (resolver : Nat → String → LookupReply) (count : Nat)

/-- A host that is let through has taken one of the ways. -/
theorem passes_of_allowed_validateHost
    (h : ((config.validateHost host).trace resolver count).1.allowed = true) :
    config.Passes host (resolver count (String.ofList host))
      ((config.validateHost host).trace resolver count).1.ip
      ((config.validateHost host).trace resolver count).2 := by
  by_cases hallow : HostListed config.hostAllowList host
  · obtain ⟨entry, heq⟩ := validateHost_of_allowListed hallow
    rw [heq]
    exact .listed hallow rfl rfl
  by_cases hblock : HostListed config.hostBlockList host
  · obtain ⟨entry, heq⟩ := validateHost_of_blockListed hallow hblock
    rw [heq] at h
    contradiction
  cases hname : Ip.read host with
  | some own =>
    rw [validateHost_of_literal hallow hblock hname] at h ⊢
    have hclear : config.Clears own := (allowed_validateIp_iff own).1 h
    exact .literal own hallow hblock hname hclear (ip_validateIp own) rfl
  | none =>
    by_cases hlocal : (config.blockLoopback && isLocalName host) = true
    · rw [validateHost_of_localName hallow hblock hname hlocal] at h
      contradiction
    cases hon : config.resolveNames with
    | false =>
      rw [validateHost_of_unresolved hallow hblock hname hlocal hon]
      exact .unresolved hallow hblock hname hlocal hon rfl rfl
    | true =>
      rw [validateHost_of_resolve hallow hblock hname hlocal hon] at h ⊢
      simp only [Lookup.trace, judge] at h ⊢
      cases hanswer : config.answer (String.ofList host) (resolver count (String.ofList host)) with
      | error e =>
        rw [hanswer] at h
        contradiction
      | ok found =>
        rw [hanswer] at h
        have hfound : config.Answers (resolver count (String.ofList host)) found :=
          (answer_eq_ok_iff _ _ _).1 hanswer
        have hclear : config.Clears found := (allowed_validateIp_iff found).1 h
        exact .resolved found hallow hblock hname hlocal hon hfound hclear (ip_validateIp found) rfl

theorem validateParts_of_portPasses {port : Option UInt16}
    (h : ∀ p, port = some p → config.PortPasses p) :
    config.validateParts host port = config.validateHost host := by
  rw [validateParts, (bind_portReason?_eq_none_iff port).2 h]

/-- A target passes exactly if its port does and its host does. -/
theorem allowed_validateParts_iff {port : Option UInt16} :
    ((config.validateParts host port).trace resolver count).1.allowed = true ↔
      (∀ p, port = some p → config.PortPasses p) ∧
      ((config.validateHost host).trace resolver count).1.allowed = true := by
  constructor
  · intro h
    have hports : ∀ p, port = some p → config.PortPasses p := by
      rw [← bind_portReason?_eq_none_iff]
      cases hp : port.bind config.portReason? with
      | none => rfl
      | some reason =>
        rw [validateParts, hp] at h
        contradiction
    rw [validateParts_of_portPasses hports] at h
    exact ⟨hports, h⟩
  · rintro ⟨hports, h⟩
    rw [validateParts_of_portPasses hports]
    exact h

end PluginSandbox.GuardConfig
