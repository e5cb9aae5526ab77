import PluginSandbox.Proofs.Checker.Merge
import PluginSandbox.Proofs.Policy.Wildcard

/-!
# Capabilities on the wire

A capability is asked for by a request, or on the wire by a kind and a pattern, which
is read as requests first. Where the pattern is read as one request, both ways give
the same result, errors included. A plugin without grants is refused in either way
before anything else is looked at, and every refusal but a denial is made without the
policy. A host on the wire names no port; it is asked about with no port and with
those of the web, and the glob policy covers no more by the first than by the others.

## Main definitions

* `Checker.recorded`: the checker that keeps what its policy is asked.
* `Checker.WireAgrees`: what holds of the two ways under any policy.
* `Checker.OutboundAgrees`: what holds of connections under the glob policy.

## Main statements

* `Checker.check_eq_authorize`: a pattern that is read is as good as its requests.
* `Checker.wireAgrees`: both for every plugin.
-/

namespace PluginSandbox

open Text

namespace Checker

variable {σ : Type} {checker : Checker σ} {plugin kind pattern : String} {requests : List Request}
  {s : σ}

/-! ## Patterns and their requests -/

theorem colon_notMem_code (access : FileAccess) : ':' ∉ access.code.toList := by
  cases access <;> decide

/-- An access and a path are read back; only the first colon separates them. -/
theorem readFilePattern_code (access : FileAccess) {path : String} (hpath : path ≠ "") :
    readFilePattern s!"{access.code}:{path}" = .ok (.file path access) := by
  have htext : s!"{access.code}:{path}".toList = access.code.toList ++ ':' :: path.toList := by
    change (access.code ++ ":" ++ path).toList = _
    simp
  have hsplit := splitOnce_eq_some.2 ⟨htext, colon_notMem_code access⟩
  rw [readFilePattern, hsplit]
  cases hchars : path.toList with
  | nil => exact absurd (String.toList_eq_nil_iff.1 hchars) hpath
  | cons c cs =>
    simp only [String.ofList_toList, FileAccess.ofName_code, ← hchars]

/-- What follows the prefix is read as the targets of a connection. -/
theorem readNetworkPattern_outbound {target : String} (htarget : target ≠ "") :
    readNetworkPattern ("outbound:" ++ target) = .ok ((targetsOf target).map .network) := by
  have hstrip : stripPrefix? "outbound:".toList ("outbound:" ++ target).toList =
      some target.toList := by
    rw [stripPrefix?_eq_some, String.toList_append]
  rw [readNetworkPattern, hstrip]
  cases hchars : target.toList with
  | nil => exact absurd (String.toList_eq_nil_iff.1 hchars) htarget
  | cons c cs => simp only [← hchars, String.ofList_toList]

theorem targetsOf_port {target : String} {port : UInt16}
    (hread : readPort target.toList = some port) : targetsOf target = [.onPort port] := by
  have hprivate : target ≠ "private" := by
    intro hprivate
    have hword : readPort "private".toList = none := by decide
    rw [hprivate, hword] at hread
    contradiction
  rw [targetsOf, if_neg hprivate, hread]

theorem targetsOf_host {target : String} (hprivate : target ≠ "private")
    (hread : readPort target.toList = none) :
    targetsOf target = [⟨target, none⟩, ⟨target, some 80⟩, ⟨target, some 443⟩] := by
  rw [targetsOf, if_neg hprivate, hread]
  rfl

/-! ## Both ways, under any policy -/

/-- Without grants there is nothing to authorize. -/
theorem activeGrants_of_isEmpty (hempty : isEmptyGrants (checker.grantsOf plugin) = true) :
    checker.activeGrants plugin = .error (.noGrants plugin) := by
  rw [activeGrants]
  cases hgrants : checker.grantsOf plugin with
  | none => rfl
  | some grants =>
    rw [hgrants] at hempty
    exact if_pos hempty

theorem authorize_of_isEmpty (hempty : isEmptyGrants (checker.grantsOf plugin) = true) :
    checker.authorize plugin kind pattern requests s = (.error (.noGrants plugin), s) := by
  rw [authorize, activeGrants_of_isEmpty hempty]

theorem check_of_isEmpty (hempty : isEmptyGrants (checker.grantsOf plugin) = true) :
    checker.check plugin kind pattern s = (.error (.noGrants plugin), s) := by
  rw [check, activeGrants_of_isEmpty hempty]

/-- A pattern that is read is as good as its requests. -/
theorem check_eq_authorize (hread : readCapability kind pattern = .ok requests) :
    checker.check plugin kind pattern s = checker.authorize plugin kind pattern requests s := by
  rw [check, hread]
  cases hactive : checker.activeGrants plugin with
  | error e => rw [authorize, hactive]
  | ok grants => rfl

theorem check_file {path : String} (access : FileAccess) (hpath : path ≠ "") :
    checker.check plugin "fs" s!"{access.code}:{path}" s =
      checker.checkRequest plugin (.file path access) s := by
  have hread : readCapability "fs" s!"{access.code}:{path}" = .ok [.file path access] := by
    change (readFilePattern s!"{access.code}:{path}").map ([·]) = _
    rw [readFilePattern_code access hpath]
    rfl
  exact check_eq_authorize hread

/-! ## What the policy is asked -/

/-- The checker that keeps what its policy is asked. -/
def recorded (checker : Checker σ) : Checker (σ × List Request) :=
  ⟨checker.grants, checker.policy.recording⟩

/-- Records change neither the answers of a policy nor its state. -/
theorem anyWith_recording (policy : Policy σ) (grants : Grants) (requests : List Request) (s : σ)
    (log : List Request) :
    let plain := anyWith (fun request => policy.decide request grants) requests s
    let logged := anyWith (fun request => policy.recording.decide request grants) requests (s, log)
    logged.1 = plain.1 ∧ logged.2.1 = plain.2 := by
  induction requests generalizing s log with
  | nil => exact ⟨rfl, rfl⟩
  | cons request more ih =>
    simp only [anyWith, Policy.recording]
    cases policy.decide request grants s with
    | mk passed s' =>
      cases passed with
      | true => exact ⟨rfl, rfl⟩
      | false => exact ih s' (log ++ [request])

theorem authorize_recorded (log : List Request) :
    (checker.recorded.authorize plugin kind pattern requests (s, log)).1 =
        (checker.authorize plugin kind pattern requests s).1 ∧
      (checker.recorded.authorize plugin kind pattern requests (s, log)).2.1 =
        (checker.authorize plugin kind pattern requests s).2 := by
  have hactive : checker.recorded.activeGrants plugin = checker.activeGrants plugin := rfl
  rw [authorize, authorize, hactive]
  cases checker.activeGrants plugin with
  | error e => exact ⟨rfl, rfl⟩
  | ok grants =>
    obtain ⟨hanswer, hstate⟩ := anyWith_recording checker.policy grants requests s log
    simp only [recorded]
    generalize anyWith _ requests (s, log) = logged at hanswer hstate ⊢
    generalize anyWith _ requests s = plain at hanswer hstate ⊢
    obtain ⟨passed, s', log'⟩ := logged
    obtain ⟨passed', s''⟩ := plain
    obtain rfl : passed = passed' := hanswer
    obtain rfl : s' = s'' := hstate
    cases passed <;> exact ⟨rfl, rfl⟩

theorem check_recorded (log : List Request) :
    (checker.recorded.check plugin kind pattern (s, log)).1 =
        (checker.check plugin kind pattern s).1 ∧
      (checker.recorded.check plugin kind pattern (s, log)).2.1 =
        (checker.check plugin kind pattern s).2 := by
  have hactive : checker.recorded.activeGrants plugin = checker.activeGrants plugin := rfl
  rw [check, check, hactive]
  cases checker.activeGrants plugin with
  | error e => exact ⟨rfl, rfl⟩
  | ok grants =>
    cases readCapability kind pattern with
    | error e => exact ⟨rfl, rfl⟩
    | ok requests => exact authorize_recorded log

/-- Requests are refused otherwise than by a denial only before the policy is asked. -/
theorem authorize_unasked {e : Refusal}
    (herror : (checker.authorize plugin kind pattern requests s).1 = .error e)
    (hdenied : e ≠ .denied plugin kind pattern) :
    (checker.authorize plugin kind pattern requests s).2 = s := by
  rw [authorize] at herror ⊢
  cases hactive : checker.activeGrants plugin with
  | error e => rfl
  | ok grants =>
    simp only [hactive] at herror
    cases hany : anyWith (fun request => checker.policy.decide request grants) requests s with
    | mk passed s' =>
      rw [hany] at herror
      cases passed with
      | true => contradiction
      | false => exact absurd (Except.error.inj herror).symm hdenied

theorem check_unasked {e : Refusal} (herror : (checker.check plugin kind pattern s).1 = .error e)
    (hdenied : e ≠ .denied plugin kind pattern) : (checker.check plugin kind pattern s).2 = s := by
  rw [check] at herror ⊢
  cases hactive : checker.activeGrants plugin with
  | error e => rfl
  | ok grants =>
    simp only [hactive] at herror
    cases hread : readCapability kind pattern with
    | error e => rfl
    | ok requests =>
      rw [hread] at herror
      exact authorize_unasked herror hdenied

/-- What holds of a capability on the wire and of the request for it, under any policy. -/
structure WireAgrees (checker : Checker σ) (plugin : String) (s : σ) : Prop where
  /-- A variable on the wire is the request for it, with the same result. -/
  environment : ∀ name,
    checker.check plugin "env" name s = checker.checkRequest plugin (.environment name) s
  /-- So is a command. -/
  command : ∀ line,
    checker.check plugin "exec" line s = checker.checkRequest plugin (.command line) s
  /-- So is a file, whatever its path, if there is one. -/
  file : ∀ (access : FileAccess) path, path ≠ "" →
    checker.check plugin "fs" s!"{access.code}:{path}" s =
      checker.checkRequest plugin (.file path access) s
  /-- Without grants, or with empty ones, every capability is refused for this. -/
  noGrants : isEmptyGrants (checker.grantsOf plugin) = true →
    (∀ kind pattern, checker.check plugin kind pattern s = (.error (.noGrants plugin), s)) ∧
      ∀ request, checker.checkRequest plugin request s = (.error (.noGrants plugin), s)
  /-- The record of what the policy is asked changes nothing. -/
  recorded : ∀ kind pattern log,
    (checker.recorded.check plugin kind pattern (s, log)).1 =
        (checker.check plugin kind pattern s).1 ∧
      (checker.recorded.check plugin kind pattern (s, log)).2.1 =
        (checker.check plugin kind pattern s).2
  recorded_request : ∀ request log,
    (checker.recorded.checkRequest plugin request (s, log)).1 =
        (checker.checkRequest plugin request s).1 ∧
      (checker.recorded.checkRequest plugin request (s, log)).2.1 =
        (checker.checkRequest plugin request s).2
  /-- If a capability is refused otherwise than by a denial, the policy was not asked. -/
  unasked : ∀ kind pattern log e,
    (checker.recorded.check plugin kind pattern (s, log)).1 = .error e →
    e ≠ .denied plugin kind pattern →
    (checker.recorded.check plugin kind pattern (s, log)).2 = (s, log)
  /-- Nor was it if a request is. -/
  unasked_request : ∀ request log e,
    (checker.recorded.checkRequest plugin request (s, log)).1 = .error e →
    e ≠ .denied plugin request.kind (wirePattern request) →
    (checker.recorded.checkRequest plugin request (s, log)).2 = (s, log)

/-! ## Connections under the glob policy -/

section Glob

variable {registry : Registry} {cache : GlobCache}

/-- A capability passes if the plugin has grants that cover one of the requests for it. -/
theorem isOk_authorize_iff (hcache : cache.Sound) :
    ((glob registry).authorize plugin kind pattern requests cache).1.isOk = true ↔
      ∃ g, registry.lookup plugin = some g ∧ ∃ request ∈ requests, g.covers request = true := by
  cases hgrants : registry.lookup plugin with
  | none =>
    have hempty : isEmptyGrants ((glob registry).grantsOf plugin) = true := by
      change isEmptyGrants (registry.lookup plugin) = true
      rw [hgrants]
      rfl
    rw [authorize_of_isEmpty hempty]
    exact iff_of_false Bool.false_ne_true (by simp)
  | some g =>
    rw [glob, isOk_authorize Policy.realizes_glob hcache hgrants, List.any_eq_true]
    simp

theorem isOk_checkRequest_iff (hcache : cache.Sound) {request : Request} :
    ((glob registry).checkRequest plugin request cache).1.isOk = true ↔
      ∃ g, registry.lookup plugin = some g ∧ g.covers request = true := by
  rw [checkRequest, isOk_authorize_iff hcache]
  simp

theorem isOk_check_outbound_iff (hcache : cache.Sound) {target : String} (htarget : target ≠ "") :
    ((glob registry).check plugin "network" ("outbound:" ++ target) cache).1.isOk = true ↔
      ∃ g, registry.lookup plugin = some g ∧
        ∃ endpoint ∈ targetsOf target, g.covers (.network endpoint) = true := by
  have hread : readCapability "network" ("outbound:" ++ target) =
      .ok ((targetsOf target).map .network) := readNetworkPattern_outbound htarget
  rw [check_eq_authorize hread, isOk_authorize_iff hcache]
  simp

end Glob

/-- What holds of connections on the wire and of the requests for them under the glob policy,
whatever it was asked before by whomever. -/
structure OutboundAgrees (registry : Registry) (plugin : String)
    (past past₁ past₂ : List (Registry × Call)) : Prop where
  /-- A host passes if it does on one of the ports of the web. -/
  host : ∀ host, host ≠ "" → host ≠ "private" → readPort host.toList = none →
    (((glob registry).check plugin "network" ("outbound:" ++ host) (after past {})).1.isOk = true ↔
      ((glob registry).checkRequest plugin (.network ⟨host, some 80⟩)
        (after past₁ {})).1.isOk = true ∨
      ((glob registry).checkRequest plugin (.network ⟨host, some 443⟩)
        (after past₂ {})).1.isOk = true)
  /-- A port passes if any host does on it. -/
  port : ∀ text port, readPort text.toList = some port →
    (((glob registry).check plugin "network" ("outbound:" ++ text) (after past {})).1.isOk = true ↔
      ((glob registry).checkRequest plugin (.network ⟨"*", some port⟩)
        (after past₁ {})).1.isOk = true)

/-- **The wire and the requests agree.** Under any policy a variable, a command or a file that is
asked for on the wire gets the result that the request for it gets, a plugin without grants is
refused for this before anything else, and every refusal but a denial comes before the policy is
asked; under the glob policy a host that is named without a port passes exactly if it passes on a
port of the web, and a port exactly if any host does on it. -/
theorem wireAgrees (registry : Registry) (plugin : String) :
    (∀ (σ : Type) (policy : Policy σ) (s : σ), WireAgrees ⟨registry, policy⟩ plugin s) ∧
      ∀ past past₁ past₂ : List (Registry × Call),
        OutboundAgrees registry plugin past past₁ past₂ := by
  refine ⟨?_, ?_⟩
  · intro σ policy s
    exact {
      environment := fun name => check_eq_authorize rfl
      command := fun line => check_eq_authorize rfl
      file := fun access path hpath => check_file access hpath
      noGrants := fun hempty =>
        ⟨fun kind pattern => check_of_isEmpty hempty, fun request => authorize_of_isEmpty hempty⟩
      recorded := fun kind pattern log => check_recorded log
      recorded_request := fun request log => authorize_recorded log
      unasked := fun kind pattern log e herror hdenied => check_unasked herror hdenied
      unasked_request := fun request log e herror hdenied => authorize_unasked herror hdenied }
  · intro past past₁ past₂
    have hcache := sound_after past GlobCache.sound_empty
    have hcache₁ := sound_after past₁ GlobCache.sound_empty
    have hcache₂ := sound_after past₂ GlobCache.sound_empty
    refine ⟨?_, ?_⟩
    · intro host hhost hprivate hread
      rw [isOk_check_outbound_iff hcache hhost, targetsOf_host hprivate hread,
        isOk_checkRequest_iff hcache₁, isOk_checkRequest_iff hcache₂]
      simp only [List.mem_cons, List.not_mem_nil, or_false, exists_eq_or_imp, exists_eq_left]
      constructor
      · rintro ⟨g, hgrants, hnone | hweb | hsecure⟩
        · exact Or.inl ⟨g, hgrants, Grants.covers_somePort hnone 80⟩
        · exact Or.inl ⟨g, hgrants, hweb⟩
        · exact Or.inr ⟨g, hgrants, hsecure⟩
      · rintro (⟨g, hgrants, hweb⟩ | ⟨g, hgrants, hsecure⟩)
        · exact ⟨g, hgrants, Or.inr (Or.inl hweb)⟩
        · exact ⟨g, hgrants, Or.inr (Or.inr hsecure)⟩
    · intro text port hread
      have htext : text ≠ "" := by
        rintro rfl
        exact nomatch hread
      rw [isOk_check_outbound_iff hcache htext, targetsOf_port hread,
        isOk_checkRequest_iff hcache₁]
      simp only [List.mem_singleton, exists_eq_left]
      rfl

/-- A host with a rule for one port, a path with colons, and a plugin without grants. -/
theorem wireAgrees_fallback :
    let registry : Registry := [("mail", { network := some [⟨["*.example.org"], ["443"]⟩],
                                           files := some [⟨["/data/**"], []⟩] }),
                                ("chat", { network := some [] })]
    ((glob registry).check "mail" "network" "outbound:api.example.org" {}).1.isOk = true ∧
      (glob registry).check "mail" "fs" "read:/data/a:b" {} =
        (glob registry).checkRequest "mail" (.file "/data/a:b" .read) {} ∧
      (glob registry).check "chat" "dns" "" {} = (.error (.noGrants "chat"), {}) := by
  intro registry
  obtain ⟨hwire, houtbound⟩ := wireAgrees registry "mail"
  obtain ⟨hother, -⟩ := wireAgrees registry "chat"
  have hhost := (houtbound [] [] []).host "api.example.org" (by decide) (by decide) (by decide)
  have hempty : isEmptyGrants ((glob registry).grantsOf "chat") = true := by decide
  refine ⟨hhost.2 (Or.inr (by decide +kernel)), ?_, ?_⟩
  · exact (hwire GlobCache Policy.glob {}).file .read "/data/a:b" (by decide)
  · exact ((hother GlobCache Policy.glob {}).noGrants hempty).1 "dns" ""

end Checker

end PluginSandbox
