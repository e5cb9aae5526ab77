import PluginSandbox.Proofs.Address.Spelling
import PluginSandbox.Proofs.Guard.Passage

/-!
# Targets that are not looked up

Where names are not looked up, the spelling of the host is all there is to
decide about. A host that means a blocked address is refused, whatever its case
and brackets, with one exception: the guard takes away one dot at the end of a
host, and a host with two is neither an address nor a local name to it.

## Main definitions

* `GuardConfig.NamesBlocked`: a host means a blocked address by its spelling.

## Main statements

* `GuardConfig.namesBlocked_and_allowed_iff`: which of these hosts pass.
-/

namespace PluginSandbox

open Text HostPattern

namespace GuardConfig

variable {config : GuardConfig} {host : List Char}

/-! ## Local names -/

/-- A local name ends in the letter `t`. -/
theorem isSuffix_of_isLocalName (h : isLocalName host = true) : ['t'] <:+ host := by
  rw [isLocalName, Bool.or_eq_true, beq_iff_eq, List.isSuffixOf_iff_suffix] at h
  rcases h with rfl | hdomain
  · exact ⟨"localhos".toList, rfl⟩
  · exact List.IsSuffix.trans ⟨".localhos".toList, rfl⟩ hdomain

/-- No address is a local name. -/
theorem isLocalName_lower_of_read {ip : Ip} (h : Ip.read host = some ip) :
    isLocalName (lower host) = false := by
  rw [Bool.eq_false_iff]
  intro hlocal
  obtain ⟨front, hfront⟩ := isSuffix_of_isLocalName hlocal
  have hletter : hexValue 't' = none := by decide
  rw [← Ip.read_lower, ← hfront, Ip.read_append_singleton hletter (by decide)] at h
  contradiction

/-- No local name has a dot at its end. -/
theorem isLocalName_append_dot (front : List Char) : isLocalName (front ++ ['.']) = false := by
  rw [Bool.eq_false_iff]
  intro hlocal
  obtain ⟨front', heq⟩ := isSuffix_of_isLocalName hlocal
  have hlast : 't' = '.' := (List.cons.inj (List.append_inj_right' heq rfl)).1
  contradiction

/-! ## The decision about a name -/

/-- By its spelling the host means an address of a blocked class, or the loopback address where that
is blocked. -/
def NamesBlocked (config : GuardConfig) (host : List Char) : Prop :=
  (∃ ip cls, Ip.read (withoutFinalDots host) = some ip ∧ config.blocks cls = true ∧
    cls.has ip.canonical = true) ∨
  (config.blockLoopback = true ∧ isLocalName (lower (withoutFinalDots host)) = true)

/-- The normal form of a host means a blocked address exactly if the spelling does. -/
theorem namesBlocked_congr {spelled : List Char} (h : HostPort.Normalizes spelled host) :
    config.NamesBlocked spelled ↔ config.NamesBlocked host := by
  rw [NamesBlocked, NamesBlocked, h.read_withoutFinalDots]
  rcases h.lower_withoutFinalDots with hsame | ⟨ip, hip⟩
  · rw [hsame]
  · have hspelled := isLocalName_lower_of_read (h.read_withoutFinalDots ▸ hip)
    rw [isLocalName_lower_of_read hip, hspelled]

section Unresolved

variable (hoff : config.resolveNames = false)
variable (resolver : Nat → String → LookupReply) (count : Nat)
include hoff

/-- What passes without a look-up: a host that is not blocked, and neither an address that something
speaks against nor a blocked local name. -/
theorem allowed_validateHost_iff_of_unresolved (hallow : ¬HostListed config.hostAllowList host) :
    ((config.validateHost host).trace resolver count).1.allowed = true ↔
      ¬HostListed config.hostBlockList host ∧
      (∀ ip, Ip.read host = some ip → config.Clears ip) ∧
      (Ip.read host = none → ¬(config.blockLoopback && isLocalName host) = true) := by
  by_cases hblock : HostListed config.hostBlockList host
  · obtain ⟨entry, heq⟩ := validateHost_of_blockListed hallow hblock
    rw [heq]
    exact iff_of_false Bool.false_ne_true (fun h => h.1 hblock)
  cases hname : Ip.read host with
  | some own =>
    rw [validateHost_of_literal hallow hblock hname]
    simp only [Lookup.trace_done, allowed_validateIp_iff]
    constructor
    · intro hclear
      refine ⟨hblock, ?_, fun h => by contradiction⟩
      rintro ip ⟨⟩
      exact hclear
    · rintro ⟨-, hclear, -⟩
      exact hclear own rfl
  | none =>
    by_cases hlocal : (config.blockLoopback && isLocalName host) = true
    · rw [validateHost_of_localName hallow hblock hname hlocal]
      exact iff_of_false Bool.false_ne_true (fun h => h.2.2 rfl hlocal)
    · rw [validateHost_of_unresolved hallow hblock hname hlocal hoff]
      refine iff_of_true rfl ⟨hblock, fun ip h => ?_, fun _ => hlocal⟩
      contradiction

/-- What passes with a dot at its end in normal form is refused by name only. -/
theorem allowed_validateHost_append_dot {front : List Char} (hhost : host = front ++ ['.'])
    (hallow : ¬HostListed config.hostAllowList host) :
    ((config.validateHost host).trace resolver count).1.allowed = true ↔
      ¬HostListed config.hostBlockList host := by
  rw [allowed_validateHost_iff_of_unresolved hoff resolver count hallow]
  have hname : Ip.read host = none := by
    rw [hhost]
    exact Ip.read_append_singleton hexValue_dot (by decide) front
  have hlocal : isLocalName host = false := hhost ▸ isLocalName_append_dot front
  constructor
  · exact fun h => h.1
  · intro hblock
    refine ⟨hblock, fun ip h => ?_, fun _ => ?_⟩
    · rw [hname] at h
      contradiction
    · simp [hlocal]

/-- What passes without a dot at its end in normal form means no blocked address. -/
theorem not_namesBlocked_of_allowed (hdots : withoutFinalDots host = host)
    (hfold : Ip.read host = none → lower host = host)
    (hallow : ¬HostListed config.hostAllowList host)
    (h : ((config.validateHost host).trace resolver count).1.allowed = true) :
    ¬config.NamesBlocked host := by
  obtain ⟨-, hclear, hname⟩ :=
    (allowed_validateHost_iff_of_unresolved hoff resolver count hallow).1 h
  rw [NamesBlocked, hdots]
  rintro (⟨ip, cls, hip, hblocks, hhas⟩ | ⟨hloopback, hlocal⟩)
  · rw [(hclear ip hip).classes cls hblocks] at hhas
    contradiction
  · cases hip : Ip.read host with
    | some ip =>
      rw [isLocalName_lower_of_read hip] at hlocal
      contradiction
    | none =>
      rw [hfold hip] at hlocal
      exact hname hip (by rw [hloopback, hlocal, Bool.and_self])

end Unresolved

/-! ## Targets -/

/-- **What passes without a look-up.** Where names are not looked up, and the host is not on the
list of hosts that pass, a target that is let through means a blocked address exactly if its host is
spelled with two dots at the end; nothing but its port and the list of hosts that never pass can
then stop it. A host means a blocked address as it is spelled exactly if it does in normal form. -/
theorem namesBlocked_and_allowed_iff (config : GuardConfig) (hoff : config.resolveNames = false)
    (resolver : Nat → String → LookupReply) (count : Nat) {address : String} {target : HostPort}
    (hread : HostPort.read address.toList = .ok target)
    (hallow : ¬HostListed config.hostAllowList target.host) {v : Validation} {asked : List String}
    (hrun : (config.validate address).trace resolver count = (v, asked)) :
    (config.NamesBlocked (HostPort.spelledHost address.toList) ↔ config.NamesBlocked target.host) ∧
    (config.NamesBlocked (HostPort.spelledHost address.toList) ∧ v.allowed = true ↔
      config.NamesBlocked (HostPort.spelledHost address.toList) ∧
      ['.', '.'] <:+ HostPort.spelledHost address.toList ∧
      (∀ port, target.port = some port → config.PortPasses port) ∧
      ¬HostListed config.hostBlockList target.host) := by
  have hnormal := HostPort.normalizes_of_read hread
  have hallowed : v.allowed = true ↔ (∀ port, target.port = some port → config.PortPasses port) ∧
      ((config.validateHost target.host).trace resolver count).1.allowed = true := by
    rw [← allowed_validateParts_iff resolver count]
    simp only [validate, hread] at hrun
    rw [hrun]
  refine ⟨namesBlocked_congr hnormal, ?_⟩
  rw [namesBlocked_congr hnormal, hallowed, ← hnormal.dot_isSuffix_iff]
  rcases eq_append_dot_or target.host with ⟨front, hhost⟩ | ⟨hdots, hdot⟩
  · have hsuffix : ['.'] <:+ target.host := ⟨front, hhost.symm⟩
    rw [allowed_validateHost_append_dot hoff resolver count hhost hallow]
    constructor
    · rintro ⟨hblocked, hports, hblock⟩
      exact ⟨hblocked, hsuffix, hports, hblock⟩
    · rintro ⟨hblocked, -, hports, hblock⟩
      exact ⟨hblocked, hports, hblock⟩
  · constructor
    · rintro ⟨hblocked, -, h⟩
      exact absurd hblocked
        (not_namesBlocked_of_allowed hoff resolver count hdots hnormal.lower_eq_self hallow h)
    · rintro ⟨-, hsuffix, -⟩
      exact absurd hsuffix hdot

/-- A loopback address with two dots and a port is let through, and one in brackets is not. -/
theorem namesBlocked_and_allowed_two_dots :
    let config : GuardConfig := { resolveNames := false, portAllowList := [80] }
    let resolver : Nat → String → LookupReply := fun _ _ => { outcome := .error "no resolver" }
    ((config.validate "127.0.0.1..:80").trace resolver 0).1.allowed = true ∧
      ¬((config.validate "[::1]:80").trace resolver 0).1.allowed = true := by
  intro config resolver
  have hports : ∀ port, some (80 : UInt16) = some port → config.PortPasses port := by
    rintro port ⟨⟩
    exact ⟨fun _ => by decide, by decide⟩
  have hread : HostPort.read "127.0.0.1..:80".toList =
      .ok ⟨"127.0.0.1.".toList, some 80⟩ := eq_ok_of_toOption (by decide +kernel)
  have hread' : HostPort.read "[::1]:80".toList = .ok ⟨"::1".toList, some 80⟩ :=
    eq_ok_of_toOption (by decide +kernel)
  have hblocked : config.NamesBlocked (HostPort.spelledHost "127.0.0.1..:80".toList) :=
    Or.inl ⟨.v4 (Ip.ofOctets [127, 0, 0, 1]), .loopback, by decide +kernel, rfl, by decide +kernel⟩
  have hblocked' : config.NamesBlocked (HostPort.spelledHost "[::1]:80".toList) :=
    Or.inl ⟨.v6 (Ip.ofGroups [0, 0, 0, 0, 0, 0, 0, 1]), .loopback, by decide +kernel, rfl,
      by decide +kernel⟩
  constructor
  · exact ((namesBlocked_and_allowed_iff config rfl resolver 0 hread (not_hostListed_nil _) rfl).2.2
      ⟨hblocked, by decide +kernel, hports, not_hostListed_nil _⟩).2
  · intro hallowed
    obtain ⟨-, hdots, -⟩ :=
      (namesBlocked_and_allowed_iff config rfl resolver 0 hread' (not_hostListed_nil _) rfl).2.1
        ⟨hblocked', hallowed⟩
    revert hdots
    decide +kernel

/-- The local name with two dots is let through, though it means the loopback address. -/
theorem localName_two_dots_allowed :
    let config : GuardConfig := { resolveNames := false }
    HostPort.read "localhost..".toList = .ok ⟨"localhost.".toList, none⟩ ∧
      ¬HostListed config.hostAllowList "localhost.".toList ∧
      (∀ resolver, (config.validate "localhost..").run resolver = .allow .unresolved none) ∧
      config.blockLoopback = true ∧ withoutFinalDots "localhost.".toList = "localhost".toList := by
  intro config
  have hread : HostPort.read "localhost..".toList = .ok ⟨"localhost.".toList, none⟩ :=
    eq_ok_of_toOption (by decide +kernel)
  have hname : Ip.read "localhost.".toList = none := by decide +kernel
  have hlocal : ¬(config.blockLoopback && isLocalName "localhost.".toList) = true := by
    decide +kernel
  refine ⟨hread, not_hostListed_nil _, fun resolver => ?_, rfl, by decide +kernel⟩
  rw [validate, hread]
  simp only [validateParts, Option.bind_none,
    validateHost_of_unresolved (not_hostListed_nil _) (not_hostListed_nil _) hname hlocal rfl]
  rfl

end GuardConfig

end PluginSandbox
