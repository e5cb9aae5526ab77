import PluginSandbox.Proofs.Guard.Pinning

/-!
# What a resolver can influence

A decision about a target, and the address that it is pinned to, depend on a resolver by
one reply at most: that to the host of the target, of which nothing counts but whether it
comes in time and either its failure or its first address. Both stages of pinning together
ask no more than that. Where the host spells an address or the target is denied by what it
says itself, no resolver is asked at all.

## Main definitions

* `LookupReply.SameOutcome`: two replies between which a look-up makes no difference.
* `GuardConfig.LooksUp`: a computation that asks for one name at most.
* `Lookup.IsSilent`: a computation that asks for none.
* `GuardConfig.Settled`: what settles a target without a look-up.

## Main statements

* `GuardConfig.looksUp_validate`, `GuardConfig.looksUp_pin`: one name at most.
* `GuardConfig.trace_eq_of_sameOutcome`: what is left of the resolver.
* `GuardConfig.resolver_influence`: all of it.
-/

namespace PluginSandbox

/-- Two replies are both late for a look-up that may take so long, or both come in time and fail for
the same reason, hold no address, or have the same first address. -/
inductive LookupReply.SameOutcome (limitMs : Nat) (reply other : LookupReply) : Prop where
  | late (hreply : limitMs < reply.delayMs) (hother : limitMs < other.delayMs)
  | failed (cause : String) (hreply : reply.delayMs ≤ limitMs) (hother : other.delayMs ≤ limitMs)
      (hcause : reply.outcome = .error cause) (hcause' : other.outcome = .error cause)
  | empty (hreply : reply.delayMs ≤ limitMs) (hother : other.delayMs ≤ limitMs)
      (hempty : reply.outcome = .ok []) (hempty' : other.outcome = .ok [])
  | found (ip : Ip) (more more' : List Ip) (hreply : reply.delayMs ≤ limitMs)
      (hother : other.delayMs ≤ limitMs) (hfound : reply.outcome = .ok (ip :: more))
      (hfound' : other.outcome = .ok (ip :: more'))

/-- The result is the same with every resolver, and no resolver is asked. -/
def Lookup.IsSilent {α : Type} (p : Lookup α) : Prop :=
  ∃ a, ∀ resolver count, p.trace resolver count = (a, [])

namespace Lookup

variable {α : Type} {p : Lookup α} {a : α}

theorem isSilent_of_eq_done (h : p = .done a) : p.IsSilent := by
  rw [h]
  exact ⟨a, fun _ _ => rfl⟩

end Lookup

namespace GuardConfig

variable {α : Type} {config : GuardConfig} {host : List Char} {port : Option UInt16}
  {address name : String} {defaultPort : UInt16}

/-! ## One look-up -/

/-- The guard makes the same of replies with the same outcome. -/
theorem answer_eq_of_sameOutcome {reply other : LookupReply}
    (h : reply.SameOutcome config.lookupTimeoutMs.toNat other) (name : String) :
    config.answer name reply = config.answer name other := by
  cases h with
  | late hreply hother => rw [answer, answer, if_pos hreply, if_pos hother]
  | failed cause hreply hother hcause hcause' =>
    rw [answer, answer, if_neg (by omega), if_neg (by omega), hcause, hcause']
  | empty hreply hother hempty hempty' =>
    rw [answer, answer, if_neg (by omega), if_neg (by omega), hempty, hempty']
  | found ip more more' hreply hother hfound hfound' =>
    rw [answer, answer, if_neg (by omega), if_neg (by omega), hfound, hfound']

/-- The computation is finished, or it looks one name up and is then finished, and nothing counts of
the reply but what the guard makes of it. -/
inductive LooksUp (config : GuardConfig) (name : String) : Lookup α → Prop where
  | done (a : α) : LooksUp config name (.done a)
  | ask (finish : LookupReply → α)
      (hfinish : ∀ reply other, config.answer name reply = config.answer name other →
        finish reply = finish other) :
    LooksUp config name (.ask name fun reply => .done (finish reply))

theorem trace_eq_of_sameOutcome {p : Lookup α} (hp : config.LooksUp name p)
    {resolver resolver' : Nat → String → LookupReply} {count count' : Nat}
    (h : (resolver count name).SameOutcome config.lookupTimeoutMs.toNat
      (resolver' count' name)) :
    p.trace resolver count = p.trace resolver' count' := by
  cases hp with
  | done a => rfl
  | ask finish hfinish =>
    rw [Lookup.trace, Lookup.trace, hfinish _ _ (answer_eq_of_sameOutcome h name)]
    rfl

theorem looksUp_validateHost (config : GuardConfig) (host : List Char) :
    config.LooksUp (String.ofList host) (config.validateHost host) := by
  rcases validateHost_cases config host with ⟨v, heq⟩ | heq
  · rw [heq]
    exact .done v
  · rw [heq]
    exact .ask _ fun reply other hsame => by rw [judge, judge, hsame]

theorem looksUp_validateParts (config : GuardConfig) (host : List Char) (port : Option UInt16) :
    config.LooksUp (String.ofList host) (config.validateParts host port) := by
  rw [validateParts]
  cases port.bind config.portReason? with
  | some reason => exact .done _
  | none => exact looksUp_validateHost config host

/-! ## Both stages of pinning -/

/-- The address that a name is bound to once it was looked up. -/
def bindFound (config : GuardConfig) : Except LookupError Ip → Except Reason Ip
  | .error e => .error (.lookup e)
  | .ok ip =>
    if (config.validateIp ip).allowed then .ok ip else .error (config.validateIp ip).reason

/-- A name that was looked up for the decision is not looked up again. -/
theorem pinnedIp_judge (config : GuardConfig) (host : List Char) (name : String)
    (reply : LookupReply) :
    config.pinnedIp host (config.judge name reply) =
      .done (config.bindFound (config.answer name reply)) := by
  rw [judge]
  cases config.answer name reply with
  | error e => rfl
  | ok ip =>
    simp only [bindFound]
    by_cases hallowed : (config.validateIp ip).allowed = true
    · rw [if_pos hallowed, pinnedIp_of_known hallowed (ip_validateIp ip)]
    · rw [if_neg hallowed, pinnedIp_of_denied (eq_false_of_ne_true hallowed)]

theorem looksUp_pinnedIp (config : GuardConfig) (host : List Char) (v : Validation)
    (finish : Except Reason Ip → α) :
    config.LooksUp (String.ofList host) (config.pinnedIp host v >>= fun b => pure (finish b)) := by
  cases hallowed : v.allowed with
  | false =>
    rw [pinnedIp_of_denied hallowed]
    exact .done _
  | true =>
    cases hip : v.ip with
    | some ip =>
      rw [pinnedIp_of_known hallowed hip]
      exact .done _
    | none =>
      cases hon : config.resolveNames with
      | false =>
        rw [pinnedIp_of_unresolved hallowed hip hon]
        exact .done _
      | true =>
        rw [pinnedIp_of_resolve hallowed hip hon]
        exact .ask (fun reply => finish ((config.answer _ reply).mapError .lookup))
          fun reply other hsame => by rw [hsame]

/-- What is decided about a host and then bound to an address is looked up in one of the two stages
at most. -/
theorem looksUp_stages (config : GuardConfig) (host : List Char) (port : Option UInt16)
    (finish : Except Reason Ip → α) :
    config.LooksUp (String.ofList host) (config.validateParts host port >>= fun v =>
      config.pinnedIp host v >>= fun bound => pure (finish bound)) := by
  rw [validateParts]
  cases port.bind config.portReason? with
  | some reason => exact looksUp_pinnedIp config host _ finish
  | none =>
    rcases validateHost_cases config host with ⟨v, heq⟩ | heq
    · simp only [heq]
      exact looksUp_pinnedIp config host v finish
    · simp only [heq]
      have hask : (Lookup.ask (String.ofList host) fun reply =>
          .done (config.judge (String.ofList host) reply)) >>= (fun v =>
            config.pinnedIp host v >>= fun bound => pure (finish bound)) =
          .ask (String.ofList host) fun reply =>
            .done (finish (config.bindFound (config.answer (String.ofList host) reply))) := by
        change Lookup.ask _ _ = _
        congr 1
        funext reply
        change (config.pinnedIp host (config.judge _ reply) >>= fun bound =>
          pure (finish bound)) = _
        rw [pinnedIp_judge]
        rfl
      rw [hask]
      exact .ask _ fun reply other hsame => by rw [hsame]

/-! ## No look-up -/

/-- What a target says itself settles it: the host spells an address, or the port does not pass, or
the host is a local name or on the list of hosts that never pass, and not on that of hosts that
pass. -/
inductive Settled (config : GuardConfig) (host : List Char) (port : Option UInt16) : Prop where
  | literal (ip : Ip) (hip : Ip.read host = some ip)
  | port (p : UInt16) (hport : port = some p) (hdenied : ¬config.PortPasses p)
  | localName (hallow : ¬HostListed config.hostAllowList host) (hloop : config.blockLoopback = true)
      (hlocal : isLocalName host = true)
  | blockListed (hallow : ¬HostListed config.hostAllowList host)
      (hblock : HostListed config.hostBlockList host)

/-- A port that does not pass ends the decision before the host is looked at. -/
theorem validateParts_of_not_portPasses {p : UInt16} (h : ¬config.PortPasses p) :
    ∃ reason, config.validateParts host (some p) = .done (.deny reason (Ip.read host)) := by
  rw [← portReason?_eq_none_iff, ← ne_eq, Option.ne_none_iff_exists'] at h
  obtain ⟨reason, hreason⟩ := h
  exact ⟨reason, by rw [validateParts, Option.bind_some, hreason]⟩

/-- The decision about a host that settles itself needs no look-up, and leaves none to be made: if
the host passes, its address is known. -/
theorem validateHost_of_literal_or_denied
    (h : (∃ ip, Ip.read host = some ip) ∨ ¬HostListed config.hostAllowList host ∧
      (HostListed config.hostBlockList host ∨ (config.blockLoopback && isLocalName host) = true)) :
    ∃ v, config.validateHost host = .done v ∧ (v.allowed = true → ∃ ip, v.ip = some ip) := by
  by_cases hallow : HostListed config.hostAllowList host
  · obtain ⟨ip, hip⟩ := h.resolve_right fun hdenied => hdenied.1 hallow
    obtain ⟨entry, heq⟩ := validateHost_of_allowListed hallow
    exact ⟨_, heq, fun _ => ⟨ip, hip⟩⟩
  by_cases hblock : HostListed config.hostBlockList host
  · obtain ⟨entry, heq⟩ := validateHost_of_blockListed hallow hblock
    exact ⟨_, heq, fun hallowed => nomatch hallowed⟩
  cases hname : Ip.read host with
  | some ip =>
    have heq := validateHost_of_literal hallow hblock hname
    exact ⟨_, heq, fun _ => ⟨ip, ip_validateIp ip⟩⟩
  | none =>
    have hlocal : (config.blockLoopback && isLocalName host) = true := by
      rcases h with ⟨ip, hip⟩ | ⟨-, hblocked | hlocal⟩
      · rw [hname] at hip
        contradiction
      · exact absurd hblocked hblock
      · exact hlocal
    have heq := validateHost_of_localName hallow hblock hname hlocal
    exact ⟨_, heq, fun hallowed => nomatch hallowed⟩

theorem Settled.validateParts_eq (h : config.Settled host port) :
    ∃ v, config.validateParts host port = .done v ∧ (v.allowed = true → ∃ ip, v.ip = some ip) := by
  by_cases hports : ∀ p, port = some p → config.PortPasses p
  · rw [validateParts_of_portPasses hports]
    refine validateHost_of_literal_or_denied ?_
    cases h with
    | literal ip hip => exact Or.inl ⟨ip, hip⟩
    | port p hport hdenied => exact absurd (hports p hport) hdenied
    | localName hallow hloop hlocal => exact Or.inr ⟨hallow, Or.inr (by rw [hloop, hlocal]; rfl)⟩
    | blockListed hallow hblock => exact Or.inr ⟨hallow, Or.inl hblock⟩
  · obtain ⟨p, hp⟩ := Classical.not_forall.1 hports
    obtain ⟨rfl, hdenied⟩ := Classical.not_imp.1 hp
    obtain ⟨reason, heq⟩ := validateParts_of_not_portPasses hdenied
    exact ⟨_, heq, fun hallowed => nomatch hallowed⟩

/-- A host is not looked up to decide about it if it is listed as passing, or if names are not
looked up. -/
theorem validateHost_of_listed_or_unresolved
    (h : HostListed config.hostAllowList host ∨ config.resolveNames = false) :
    ∃ v, config.validateHost host = .done v := by
  by_cases hallow : HostListed config.hostAllowList host
  · obtain ⟨entry, heq⟩ := validateHost_of_allowListed hallow
    exact ⟨_, heq⟩
  by_cases hsettled : (∃ ip, Ip.read host = some ip) ∨ ¬HostListed config.hostAllowList host ∧
      (HostListed config.hostBlockList host ∨ (config.blockLoopback && isLocalName host) = true)
  · obtain ⟨v, heq, -⟩ := validateHost_of_literal_or_denied hsettled
    exact ⟨v, heq⟩
  obtain ⟨hliteral, hdenied⟩ := not_or.1 hsettled
  have hname : Ip.read host = none :=
    Option.eq_none_iff_forall_ne_some.2 fun ip hip => hliteral ⟨ip, hip⟩
  have hblock : ¬HostListed config.hostBlockList host :=
    fun hlisted => hdenied ⟨hallow, Or.inl hlisted⟩
  have hlocal : ¬(config.blockLoopback && isLocalName host) = true :=
    fun hlocal => hdenied ⟨hallow, Or.inr hlocal⟩
  exact ⟨_, validateHost_of_unresolved hallow hblock hname hlocal (h.resolve_left hallow)⟩

theorem validateParts_of_listed_or_unresolved
    (h : HostListed config.hostAllowList host ∨ config.resolveNames = false)
    (port : Option UInt16) : ∃ v, config.validateParts host port = .done v := by
  rw [validateParts]
  cases port.bind config.portReason? with
  | some reason => exact ⟨_, rfl⟩
  | none => exact validateHost_of_listed_or_unresolved h

/-! ## Targets -/

variable {target : HostPort}

theorem looksUp_validate (hread : HostPort.read address.toList = .ok target) :
    config.LooksUp (String.ofList target.host) (config.validate address) := by
  rw [validate, hread]
  exact looksUp_validateParts config target.host target.port

theorem looksUp_pin (hread : HostPort.read address.toList = .ok target) :
    config.LooksUp (String.ofList target.host) (config.pin address defaultPort) := by
  rw [pin_eq hread]
  exact looksUp_stages config target.host _ _

theorem Settled.isSilent_validate (hread : HostPort.read address.toList = .ok target)
    (h : config.Settled target.host target.port) : (config.validate address).IsSilent := by
  obtain ⟨v, heq, -⟩ := h.validateParts_eq
  refine Lookup.isSilent_of_eq_done (a := v) ?_
  rw [validate, hread]
  exact heq

theorem Settled.isSilent_pin (hread : HostPort.read address.toList = .ok target)
    (h : config.Settled target.host (some (target.port.getD defaultPort))) :
    (config.pin address defaultPort).IsSilent := by
  obtain ⟨v, heq, hknown⟩ := h.validateParts_eq
  have hbound : ∃ bound, config.pinnedIp target.host v = .done bound := by
    cases hallowed : v.allowed with
    | false => exact ⟨_, pinnedIp_of_denied hallowed⟩
    | true =>
      obtain ⟨ip, hip⟩ := hknown hallowed
      exact ⟨_, pinnedIp_of_known hallowed hip⟩
  obtain ⟨bound, hbound⟩ := hbound
  refine Lookup.isSilent_of_eq_done
    (a := pinOutcome address target.host (target.port.getD defaultPort) bound) ?_
  rw [pin_eq hread, heq]
  change config.pinnedIp target.host v >>= _ = _
  rw [hbound]
  rfl

/-- **What a resolver can influence.** Two resolvers with the same outcome for the host of a target
lead to the same decision and the same pinned target, with the same names looked up. Where the
target is malformed, or what it says itself settles it, all resolvers do, and none is asked; pinning
takes its own port for a target that names none. No decision asks for a host that is listed as
passing, or for any if names are not to be looked up. -/
theorem resolver_influence (config : GuardConfig) (address : String) (defaultPort : UInt16) :
    (∀ (resolver resolver' : Nat → String → LookupReply) (count count' : Nat),
      (∀ target, HostPort.read address.toList = .ok target →
        (resolver count (String.ofList target.host)).SameOutcome config.lookupTimeoutMs.toNat
          (resolver' count' (String.ofList target.host))) →
      (config.validate address).trace resolver count =
          (config.validate address).trace resolver' count' ∧
        (config.pin address defaultPort).trace resolver count =
          (config.pin address defaultPort).trace resolver' count') ∧
    (∀ e, HostPort.read address.toList = .error e →
      (config.validate address).IsSilent ∧ (config.pin address defaultPort).IsSilent) ∧
    ∀ target, HostPort.read address.toList = .ok target →
      (config.Settled target.host target.port → (config.validate address).IsSilent) ∧
      (config.Settled target.host (some (target.port.getD defaultPort)) →
        (config.pin address defaultPort).IsSilent) ∧
      (HostListed config.hostAllowList target.host ∨ config.resolveNames = false →
        (config.validate address).IsSilent) := by
  refine ⟨?_, ?_, ?_⟩
  · intro resolver resolver' count count' hsame
    cases hread : HostPort.read address.toList with
    | error e =>
      rw [validate, pin, hread]
      exact ⟨rfl, rfl⟩
    | ok target =>
      have houtcome := hsame target hread
      exact ⟨trace_eq_of_sameOutcome (looksUp_validate hread) houtcome,
        trace_eq_of_sameOutcome (looksUp_pin hread) houtcome⟩
  · intro e hread
    rw [validate, pin, hread]
    exact ⟨Lookup.isSilent_of_eq_done rfl, Lookup.isSilent_of_eq_done rfl⟩
  · intro target hread
    refine ⟨fun h => h.isSilent_validate hread, fun h => h.isSilent_pin hread, fun h => ?_⟩
    obtain ⟨v, heq⟩ := validateParts_of_listed_or_unresolved h target.port
    refine Lookup.isSilent_of_eq_done (a := v) ?_
    rw [validate, hread]
    exact heq

/-- Two resolvers that agree on nothing but the first address of a name, one of them in its fourth
round only and at the last moment; a target that cannot be read; an address; a local name; a port
that pinning takes; and a name that is listed as passing. -/
theorem resolver_influence_first_address :
    let config : GuardConfig := { hostAllowList := ["*.corp.test"], portBlockList := [25] }
    let ip : Ip := .v4 (Ip.ofOctets [93, 184, 216, 34])
    let resolver : Nat → String → LookupReply := fun _ _ => { outcome := .ok [ip] }
    let rebinding : Nat → String → LookupReply := fun n _ =>
      { delayMs := 5000, outcome := .ok [if n = 3 then ip else .v4 (Ip.ofOctets [127, 0, 0, 1])] }
    (config.pin "API.Example.com." 443).trace resolver 0 =
        (config.pin "API.Example.com." 443).trace rebinding 3 ∧
      ((config.pin "API.Example.com." 443).trace resolver 0).1.toOption =
        some ⟨"api.example.com", ip, 443⟩ ∧
      (config.validate "api.example.com:https").IsSilent ∧
      (config.pin "[::ffff:127.0.0.1]:80" 443).IsSilent ∧
      (config.validate "app.localhost").IsSilent ∧
      (config.pin "example.com" 25).IsSilent ∧
      (config.validate "mail.corp.test:443").IsSilent := by
  intro config ip resolver rebinding
  refine ⟨?_, by decide +kernel, ?_, ?_, ?_, ?_, ?_⟩
  · refine ((resolver_influence config "API.Example.com." 443).1 resolver rebinding 0 3 ?_).2
    intro target _
    exact .found ip [] [] (by decide) (by decide) rfl rfl
  · cases herror : HostPort.read "api.example.com:https".toList with
    | error e => exact ((resolver_influence config _ 443).2.1 e herror).1
    | ok target =>
      have hnone : (HostPort.read "api.example.com:https".toList).toOption = none := by
        decide +kernel
      rw [herror] at hnone
      contradiction
  · have htarget : HostPort.read "[::ffff:127.0.0.1]:80".toList =
        .ok ⟨"::ffff:127.0.0.1".toList, some 80⟩ := eq_ok_of_toOption (by decide +kernel)
    obtain ⟨ip, hip⟩ := Option.isSome_iff_exists.1
      (show (Ip.read "::ffff:127.0.0.1".toList).isSome = true by decide +kernel)
    exact ((resolver_influence config _ 443).2.2 _ htarget).2.1 (.literal ip hip)
  · have htarget : HostPort.read "app.localhost".toList = .ok ⟨"app.localhost".toList, none⟩ :=
      eq_ok_of_toOption (by decide +kernel)
    have hallow : ¬HostListed config.hostAllowList "app.localhost".toList := by
      rw [← firstHostMatch?_eq_none_iff]
      decide +kernel
    exact ((resolver_influence config _ 443).2.2 _ htarget).1 (.localName hallow rfl (by decide))
  · have htarget : HostPort.read "example.com".toList = .ok ⟨"example.com".toList, none⟩ :=
      eq_ok_of_toOption (by decide +kernel)
    have hdenied : ¬config.PortPasses 25 := fun hpasses => hpasses.2 (by simp [config])
    exact ((resolver_influence config _ 25).2.2 _ htarget).2.1 (.port 25 rfl hdenied)
  · have htarget : HostPort.read "mail.corp.test:443".toList =
        .ok ⟨"mail.corp.test".toList, some 443⟩ := eq_ok_of_toOption (by decide +kernel)
    have hallow : HostListed config.hostAllowList "mail.corp.test".toList :=
      ⟨"*.corp.test", by simp [config], Or.inl (by decide +kernel)⟩
    exact ((resolver_influence config _ 443).2.2 _ htarget).2.2 (Or.inl hallow)

end GuardConfig

end PluginSandbox
