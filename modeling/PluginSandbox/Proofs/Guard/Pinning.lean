import PluginSandbox.Proofs.Guard.Passage

/-!
# Pinned targets

Pinning decides about the host of a target and then binds the target to an
address. The two stages look at most one name up between them: a host whose
address the decision has found is not looked up again, and a host that passes by
its name alone is looked up in the second stage only. So the address that a
target is bound to is the one that was decided about.

## Main definitions

* `GuardConfig.BoundTo`: where the address of a pinned target comes from.

## Main statements

* `GuardConfig.pin_safe`: what pinning ends in.
-/

namespace PluginSandbox.GuardConfig

variable {config : GuardConfig} {host : List Char} {validation : Validation}

/-! ## The address of a host that passes -/

theorem pinnedIp_of_denied (h : validation.allowed = false) :
    config.pinnedIp host validation = .done (.error validation.reason) := by
  rw [pinnedIp, h]
  rfl

theorem pinnedIp_of_known (h : validation.allowed = true) {ip : Ip}
    (hip : validation.ip = some ip) : config.pinnedIp host validation = .done (.ok ip) := by
  rw [pinnedIp, h, hip]
  rfl

theorem pinnedIp_of_unresolved (h : validation.allowed = true) (hip : validation.ip = none)
    (hoff : config.resolveNames = false) :
    config.pinnedIp host validation = .done (.error .notResolvable) := by
  rw [pinnedIp, h, hip, hoff]
  rfl

theorem pinnedIp_of_resolve (h : validation.allowed = true) (hip : validation.ip = none)
    (hon : config.resolveNames = true) :
    config.pinnedIp host validation = .ask (String.ofList host) fun reply =>
      .done ((config.answer (String.ofList host) reply).mapError .lookup) := by
  rw [pinnedIp, h, hip, hon, lookUp_eq]
  change Lookup.ask _ _ = _
  congr 1
  funext reply
  change (Lookup.done (config.answer (String.ofList host) reply)).bind _ = _
  cases config.answer (String.ofList host) reply <;> rfl

/-- An address that is found was known from the decision, or a look-up gave it. -/
theorem source_of_pinnedIp {resolver : Nat → String → LookupReply} {count : Nat} {ip : Ip}
    {found : List String}
    (h : (config.pinnedIp host validation).trace resolver count = (.ok ip, found)) :
    validation.allowed = true ∧
      (validation.ip = some ip ∧ found = [] ∨
        validation.ip = none ∧ config.resolveNames = true ∧
          config.Answers (resolver count (String.ofList host)) ip ∧
          found = [String.ofList host]) := by
  have hallowed : validation.allowed = true := by
    rw [← Bool.not_eq_false]
    intro hdenied
    rw [pinnedIp_of_denied hdenied] at h
    simp at h
  refine ⟨hallowed, ?_⟩
  cases hip : validation.ip with
  | some known =>
    rw [pinnedIp_of_known hallowed hip] at h
    obtain ⟨heq, hfound⟩ := Prod.mk.inj h
    exact Or.inl ⟨by rw [Except.ok.inj heq], hfound.symm⟩
  | none =>
    cases hon : config.resolveNames with
    | false =>
      rw [pinnedIp_of_unresolved hallowed hip hon] at h
      simp at h
    | true =>
      rw [pinnedIp_of_resolve hallowed hip hon] at h
      obtain ⟨heq, hfound⟩ := Prod.mk.inj h
      refine Or.inr ⟨rfl, rfl, ?_, hfound.symm⟩
      rw [← answer_eq_ok_iff (String.ofList host)]
      rw [Lookup.trace_done] at heq
      cases hanswer : config.answer _ (resolver count (String.ofList host)) with
      | error e =>
        rw [hanswer] at heq
        contradiction
      | ok first =>
        rw [hanswer] at heq
        rw [Except.ok.inj heq]

/-! ## Both stages -/

/-- Where the address of a pinned target comes from, with the names that were looked up for it;
`reply` is the answer to a look-up. -/
structure BoundTo (config : GuardConfig) (host : List Char) (reply : LookupReply) (ip : Ip)
    (asked : List String) : Prop where
  /-- The host spells the address, or the address is the first one of a single answer. -/
  source : Ip.read host = some ip ∧ asked = [] ∨
    Ip.read host = none ∧ config.Answers reply ip ∧ asked = [String.ofList host]
  /-- Nothing speaks against the address, unless the host is on the list of hosts that pass. -/
  clears : ¬HostListed config.hostAllowList host → config.Clears ip

section Stages

variable {resolver : Nat → String → LookupReply} {count : Nat}
variable {asked found : List String} {bound : Except Reason Ip}
variable (hcheck : (config.validateHost host).trace resolver count = (validation, asked))
include hcheck

theorem length_asked_le : asked.length ≤ 1 := by
  rcases validateHost_cases config host with ⟨v, heq⟩ | heq
  · rw [heq] at hcheck
    rw [← (Prod.mk.inj hcheck).2]
    exact Nat.zero_le 1
  · rw [heq] at hcheck
    rw [← (Prod.mk.inj hcheck).2]
    exact Nat.le_refl 1

theorem passes_of_stage (hallowed : validation.allowed = true) :
    config.Passes host (resolver count (String.ofList host)) validation.ip asked := by
  have hfirst : ((config.validateHost host).trace resolver count).1.allowed = true := by
    rw [hcheck, hallowed]
  have hpasses := passes_of_allowed_validateHost resolver count hfirst
  rw [hcheck] at hpasses
  exact hpasses

/-- A host that passes without an address was not looked up. -/
theorem asked_eq_nil_of_ip_eq_none (hallowed : validation.allowed = true)
    (hip : validation.ip = none) : asked = [] := by
  cases passes_of_stage hcheck hallowed with
  | listed _ _ hasked => exact hasked
  | literal own _ _ _ _ hown =>
    rw [hip] at hown
    contradiction
  | resolved first _ _ _ _ _ _ _ hfirst =>
    rw [hip] at hfirst
    contradiction
  | unresolved _ _ _ _ _ _ hasked => exact hasked

/-- The address that is found is the one that was decided about. -/
theorem boundTo_of_stages {ip : Ip}
    (hbind : (config.pinnedIp host validation).trace resolver (count + asked.length) =
      (.ok ip, found)) :
    validation.allowed = true ∧ (∀ known, validation.ip = some known → known = ip) ∧
      config.BoundTo host (resolver count (String.ofList host)) ip (asked ++ found) := by
  obtain ⟨hallowed, ⟨hip, rfl⟩ | ⟨hip, hon, hanswer, rfl⟩⟩ := source_of_pinnedIp hbind
  · refine ⟨hallowed, fun known hknown => Option.some.inj (hknown.symm.trans hip), ?_⟩
    rw [List.append_nil]
    cases passes_of_stage hcheck hallowed with
    | listed hlisted hread hasked =>
      exact ⟨Or.inl ⟨hread.symm.trans hip, hasked⟩, fun hallow => absurd hlisted hallow⟩
    | literal own _ _ hown hclear hsame hasked =>
      obtain rfl := Option.some.inj (hsame.symm.trans hip)
      exact ⟨Or.inl ⟨hown, hasked⟩, fun _ => hclear⟩
    | resolved first _ _ hname _ _ hfirst hclear hsame hasked =>
      obtain rfl := Option.some.inj (hsame.symm.trans hip)
      exact ⟨Or.inr ⟨hname, hfirst, hasked⟩, fun _ => hclear⟩
    | unresolved _ _ _ _ _ hsame _ =>
      rw [hip] at hsame
      contradiction
  · have hasked := asked_eq_nil_of_ip_eq_none hcheck hallowed hip
    subst hasked
    refine ⟨hallowed, fun known hknown => by rw [hip] at hknown; contradiction, ?_⟩
    cases passes_of_stage hcheck hallowed with
    | listed hlisted hread _ =>
      exact ⟨Or.inr ⟨hread.symm.trans hip, hanswer, rfl⟩, fun hallow => absurd hlisted hallow⟩
    | literal own _ _ _ _ hsame _ | resolved own _ _ _ _ _ _ _ hsame _ =>
      rw [hip] at hsame
      contradiction
    | unresolved _ _ _ _ hoff _ _ =>
      rw [hon] at hoff
      contradiction

/-- Both stages together look one name up at most. -/
theorem length_asked_of_stages
    (hbind : (config.pinnedIp host validation).trace resolver (count + asked.length) =
      (bound, found)) : (asked ++ found).length ≤ 1 := by
  have hasked := length_asked_le hcheck
  rw [List.length_append]
  cases hallowed : validation.allowed with
  | false =>
    rw [pinnedIp_of_denied hallowed] at hbind
    rw [← (Prod.mk.inj hbind).2]
    exact hasked
  | true =>
    cases hip : validation.ip with
    | some known =>
      rw [pinnedIp_of_known hallowed hip] at hbind
      rw [← (Prod.mk.inj hbind).2]
      exact hasked
    | none =>
      rw [asked_eq_nil_of_ip_eq_none hcheck hallowed hip]
      cases hon : config.resolveNames with
      | false =>
        rw [pinnedIp_of_unresolved hallowed hip hon] at hbind
        rw [← (Prod.mk.inj hbind).2]
        exact Nat.zero_le 1
      | true =>
        rw [pinnedIp_of_resolve hallowed hip hon] at hbind
        rw [← (Prod.mk.inj hbind).2]
        exact Nat.le_refl 1

end Stages

/-! ## Pinned targets -/

variable {address : String} {defaultPort : UInt16} {target : HostPort}
variable {resolver : Nat → String → LookupReply} {count : Nat}

/-- What pinning makes of the address of a host, or of what speaks against it. -/
def pinOutcome (address : String) (host : List Char) (port : UInt16) :
    Except Reason Ip → Except Refusal PinnedTarget
  | .ok ip => .ok ⟨String.ofList host, ip, port⟩
  | .error reason => .error (.addressBlocked address reason.message)

theorem pin_eq (hread : HostPort.read address.toList = .ok target) :
    config.pin address defaultPort =
      config.validateParts target.host (some (target.port.getD defaultPort)) >>= fun v =>
        config.pinnedIp target.host v >>= fun bound =>
          pure (pinOutcome address target.host (target.port.getD defaultPort) bound) := by
  rw [pin, hread]
  refine congrArg (_ >>= ·) (funext fun v => congrArg (_ >>= ·) (funext fun bound => ?_))
  cases bound <;> rfl

/-- The trace of pinning is that of its two stages. -/
theorem trace_pin (hread : HostPort.read address.toList = .ok target) :
    let port := target.port.getD defaultPort
    let checked := (config.validateParts target.host (some port)).trace resolver count
    let bound := (config.pinnedIp target.host checked.1).trace resolver (count + checked.2.length)
    (config.pin address defaultPort).trace resolver count =
      (pinOutcome address target.host port bound.1, checked.2 ++ bound.2) := by
  simp only [pin_eq hread, Lookup.trace_bind, Lookup.trace_pure, List.append_nil]

theorem pinOutcome_eq_ok {port : UInt16} {bound : Except Reason Ip} {t : PinnedTarget}
    (h : pinOutcome address host port bound = .ok t) :
    bound = .ok t.ip ∧ t.serverName = String.ofList host ∧ t.port = port := by
  cases bound with
  | ok ip =>
    obtain rfl := Except.ok.inj h
    exact ⟨rfl, rfl, rfl⟩
  | error reason => contradiction

/-- A pinned target has gone through both stages with a port that passes. -/
theorem stages_of_pin_eq_ok (hread : HostPort.read address.toList = .ok target) {t : PinnedTarget}
    {asked : List String}
    (hrun : (config.pin address defaultPort).trace resolver count = (.ok t, asked)) :
    config.PortPasses (target.port.getD defaultPort) ∧ t.serverName = String.ofList target.host ∧
      t.port = target.port.getD defaultPort ∧
      ∃ v checked bound, (config.validateHost target.host).trace resolver count = (v, checked) ∧
        (config.pinnedIp target.host v).trace resolver (count + checked.length) =
          (.ok t.ip, bound) ∧ asked = checked ++ bound := by
  rw [trace_pin hread] at hrun
  obtain ⟨hok, rfl⟩ := Prod.mk.inj hrun
  obtain ⟨hbound, hname, hport⟩ := pinOutcome_eq_ok hok
  have hallowed : ((config.validateParts target.host (some (target.port.getD defaultPort))).trace
      resolver count).1.allowed = true := by
    rw [← Bool.not_eq_false]
    intro hdenied
    rw [pinnedIp_of_denied hdenied] at hbound
    contradiction
  obtain ⟨hports, -⟩ := (allowed_validateParts_iff resolver count).1 hallowed
  rw [validateParts_of_portPasses hports] at hbound ⊢
  exact ⟨hports _ rfl, hname, hport, _, _, _, rfl, Prod.ext hbound rfl, rfl⟩

/-- Whatever becomes of the target, one name is looked up at most. -/
theorem length_asked_pin_le :
    ((config.pin address defaultPort).trace resolver count).2.length ≤ 1 := by
  cases hread : HostPort.read address.toList with
  | error e =>
    rw [pin, hread]
    exact Nat.zero_le 1
  | ok target =>
    rw [trace_pin hread, validateParts]
    cases (some (target.port.getD defaultPort)).bind config.portReason? with
    | some reason =>
      exact Nat.zero_le 1
    | none => exact length_asked_of_stages rfl rfl

theorem addressBlocked_of_pin_eq_error {e : Refusal}
    (h : ((config.pin address defaultPort).trace resolver count).1 = .error e) :
    ∃ reason, e = .addressBlocked address reason := by
  cases hread : HostPort.read address.toList with
  | error malformed =>
    rw [pin, hread] at h
    exact ⟨_, (Except.error.inj h).symm⟩
  | ok target =>
    rw [trace_pin hread] at h
    simp only at h
    revert h
    cases ((config.pinnedIp target.host _).trace resolver _).1 with
    | ok ip => intro h; contradiction
    | error reason => intro h; exact ⟨_, (Except.error.inj h).symm⟩

/-- What is pinned with fixed answers is let through with the same answers, and by no other
address. -/
theorem allowed_validate_of_run_pin (fixed : String → LookupReply) {t : PinnedTarget}
    (h : (config.pin address defaultPort).run fixed = .ok t) :
    ((config.validate address).run fixed).allowed = true ∧
      ∀ ip, ((config.validate address).run fixed).ip = some ip → ip = t.ip := by
  rw [← Lookup.trace_fixed_fst fixed 0] at h
  rw [← Lookup.trace_fixed_fst fixed 0]
  cases hread : HostPort.read address.toList with
  | error e =>
    rw [pin, hread] at h
    contradiction
  | ok target =>
    obtain ⟨hport, -, -, v, checked, bound, hcheck, hbind, -⟩ :=
      stages_of_pin_eq_ok hread (Prod.ext h rfl)
    obtain ⟨hallowed, hknown, -⟩ := boundTo_of_stages hcheck hbind
    have hports : ∀ port, target.port = some port → config.PortPasses port := by
      intro port hsome
      rw [hsome] at hport
      exact hport
    have hvalidate : (config.validate address).trace (fun _ => fixed) 0 = (v, checked) := by
      rw [validate, hread]
      simp only [validateParts_of_portPasses hports, hcheck]
    rw [hvalidate]
    exact ⟨hallowed, hknown⟩

/-- **Pinning is safe.** Pinning looks one name up at most, whatever the answers are, and fails with
nothing but a blocked address. A pinned target has a port that passes, and an address that the host
spells or that is the first one of the single answer; nothing speaks against the address, unless the
host is on the list of hosts that pass. With fixed answers, a target that can be pinned is let
through, and by no other address. -/
theorem pin_safe (config : GuardConfig) (address : String) (defaultPort : UInt16)
    (resolver : Nat → String → LookupReply) (count : Nat)
    {result : Except Refusal PinnedTarget} {asked : List String}
    (hrun : (config.pin address defaultPort).trace resolver count = (result, asked)) :
    asked.length ≤ 1 ∧
    (∀ e, result = .error e → ∃ reason, e = .addressBlocked address reason) ∧
    (∀ t, result = .ok t → ∃ target, HostPort.read address.toList = .ok target ∧
      t.serverName = String.ofList target.host ∧ t.port = target.port.getD defaultPort ∧
      config.PortPasses t.port ∧
      config.BoundTo target.host (resolver count t.serverName) t.ip asked) ∧
    ∀ (fixed : String → LookupReply) (t : PinnedTarget),
      (config.pin address defaultPort).run fixed = .ok t →
      ((config.validate address).run fixed).allowed = true ∧
        ∀ ip, ((config.validate address).run fixed).ip = some ip → ip = t.ip := by
  refine ⟨?_, ?_, ?_, fun fixed t h => allowed_validate_of_run_pin fixed h⟩
  · have hasked : asked = ((config.pin address defaultPort).trace resolver count).2 := by rw [hrun]
    rw [hasked]
    exact length_asked_pin_le
  · rintro e rfl
    exact addressBlocked_of_pin_eq_error (by rw [hrun])
  · rintro t rfl
    cases hread : HostPort.read address.toList with
    | error e =>
      rw [pin, hread] at hrun
      obtain ⟨h, -⟩ := Prod.mk.inj hrun
      contradiction
    | ok target =>
      obtain ⟨hport, hname, hsame, v, checked, bound, hcheck, hbind, rfl⟩ :=
        stages_of_pin_eq_ok hread hrun
      obtain ⟨-, -, hbound⟩ := boundTo_of_stages hcheck hbind
      rw [hsame, hname]
      exact ⟨target, rfl, rfl, rfl, hport, hbound⟩

/-- A resolver that gives a public address first and the loopback address ever after. -/
theorem pin_safe_changing_answers :
    let config : GuardConfig := { portAllowList := [443] }
    let ip : Ip := .v4 (Ip.ofOctets [93, 184, 216, 34])
    let resolver : Nat → String → LookupReply := fun n _ =>
      { outcome := .ok [if n = 0 then ip else .v4 (Ip.ofOctets [127, 0, 0, 1])] }
    let run := (config.pin "API.Example.COM." 443).trace resolver 0
    run.1.toOption = some ⟨"api.example.com", ip, 443⟩ ∧ run.2 = ["api.example.com"] ∧
      config.PortPasses 443 ∧ config.Clears ip := by
  intro config ip resolver run
  have hresult : run.1.toOption = some ⟨"api.example.com", ip, 443⟩ := by decide +kernel
  have hok : run.1 = .ok ⟨"api.example.com", ip, 443⟩ := eq_ok_of_toOption hresult
  obtain ⟨-, -, hpinned, -⟩ := pin_safe config "API.Example.COM." 443 resolver 0 rfl
  obtain ⟨target, -, -, -, hport, hbound⟩ := hpinned _ hok
  exact ⟨hresult, by decide +kernel, hport, hbound.clears (not_hostListed_nil _)⟩

end PluginSandbox.GuardConfig
