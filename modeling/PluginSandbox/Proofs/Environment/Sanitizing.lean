import PluginSandbox.Environment
import PluginSandbox.Proofs.Checker.Merge

/-!
# What reaches a child process

The entries that reach a child process are some of the given ones, in their order and
as they are. Each entry is judged by the name that it sets: a blocked name never
passes, whoever answers for capabilities; a gated one passes if its capability is
confirmed; all others pass. Who answers may keep a state from one entry to the next,
but where the answers do not depend on it, neither does what passes.

The answerer of the glob checker confirms the capability of a variable for the plugin
that it is bound to, if the grants of that plugin cover the variable or a command of
the name of the capability.

## Main definitions

* `Sets`: the name that an entry sets.
* `IsBlockedName`, `IsGatedName`: the names of two tiers, in upper case.
* `passes`: an entry passes, as far as names are confirmed.
* `Checker.grantsVariable`: a plugin is granted a variable by the answerer of another.

## Main statements

* `passes_iff`: the entries that pass, by the names that they set.
* `sanitize_eq_filter`: what reaches a child process, by what passes.
* `mem_of_mem_sanitize`: whoever answers, only entries of names that are not blocked do.
* `Checker.sanitize_enforces_tiers`: both for the answerer of the glob checker.
-/

namespace PluginSandbox

open Text

/-! ## Names and tiers -/

/-- The entry has the form `NAME=VALUE` with this name, which is not empty. -/
def Sets (entry : String) (name : List Char) : Prop :=
  name ≠ [] ∧ '=' ∉ name ∧ ∃ value, entry.toList = name ++ '=' :: value

/-- A name in upper case that no child process is given. -/
def IsBlockedName (key : List Char) : Prop :=
  "LD_".toList <+: key ∨ "DYLD_".toList <+: key ∨
    String.ofList key ∈ ["IFS", "LOCPATH", "BASH_ENV", "ENV"]

/-- A name in upper case that a child process is given with the capability for it. -/
def IsGatedName (key : List Char) : Prop := String.ofList key ∈ gatedNames

theorem entryName?_eq_some_iff {entry : String} {name : List Char} :
    entryName? entry = some name ↔ Sets entry name := by
  rw [entryName?, Sets]
  cases hsplit : splitOnce '=' entry.toList with
  | none =>
    refine iff_of_false (fun h => nomatch h) ?_
    rintro ⟨-, -, value, hentry⟩
    have hnone := splitOnce_eq_none.1 hsplit
    rw [hentry] at hnone
    simp at hnone
  | some parts =>
    obtain ⟨front, back⟩ := parts
    obtain ⟨hentry, hfront⟩ := splitOnce_eq_some.1 hsplit
    have hname (h : '=' ∉ name ∧ ∃ value, entry.toList = name ++ '=' :: value) : name = front := by
      obtain ⟨hname, value, hentry⟩ := h
      have hparts := splitOnce_eq_some.2 ⟨hentry, hname⟩
      rw [hsplit] at hparts
      exact (Prod.mk.inj (Option.some.inj hparts)).1.symm
    cases front with
    | nil =>
      refine iff_of_false (fun h => nomatch h) ?_
      rintro ⟨hne, h⟩
      exact hne (hname h)
    | cons c cs =>
      constructor
      · intro h
        obtain rfl := Option.some.inj h
        exact ⟨List.cons_ne_nil c cs, hfront, back, hentry⟩
      · rintro ⟨-, h⟩
        rw [hname h]

/-- To look for the characters of a key is to look for its text. -/
theorem any_toList_eq_iff (names : List String) (key : List Char) :
    (names.any fun n => n.toList == key) = true ↔ String.ofList key ∈ names := by
  rw [List.any_eq_true]
  constructor
  · rintro ⟨n, hn, hkey⟩
    rwa [← eq_of_beq hkey, String.ofList_toList]
  · intro h
    exact ⟨_, h, by rw [String.toList_ofList, beq_self_eq_true]⟩

theorem tierOf_eq_blocked_iff (name : List Char) :
    tierOf name = .blocked ↔ IsBlockedName (upper name) := by
  have hstarts : (blockedStarts.any fun s => s.toList.isPrefixOf (upper name)) = true ↔
      "LD_".toList <+: upper name ∨ "DYLD_".toList <+: upper name := by
    simp [blockedStarts]
  have hnames := any_toList_eq_iff blockedNames (upper name)
  rw [tierOf, IsBlockedName, ← or_assoc, ← hstarts]
  change _ ↔ _ ∨ String.ofList (upper name) ∈ blockedNames
  rw [← hnames, ← Bool.or_eq_true]
  split
  case isTrue h => exact iff_of_true rfl h
  case isFalse h => exact iff_of_false (by split <;> simp) h

theorem tierOf_eq_gated_iff (name : List Char) :
    tierOf name = .gated ↔ ¬IsBlockedName (upper name) ∧ IsGatedName (upper name) := by
  rw [← tierOf_eq_blocked_iff, IsGatedName, ← any_toList_eq_iff, tierOf]
  split
  case isTrue => simp
  case isFalse => split <;> simp_all

/-! ## The entries that pass -/

/-- The entry reaches a child process if these names are confirmed. -/
def passes (confirmed : List Char → Bool) (entry : String) : Bool :=
  match (entryName? entry).map fun name => (name, tierOf name) with
  | some (_, .free) => true
  | some (name, .gated) => confirmed (upper name)
  | _ => false

theorem passes_iff {confirmed : List Char → Bool} {entry : String} :
    passes confirmed entry = true ↔ ∃ name, Sets entry name ∧ ¬IsBlockedName (upper name) ∧
      (IsGatedName (upper name) → confirmed (upper name) = true) := by
  simp only [← entryName?_eq_some_iff]
  rw [passes]
  cases hentry : entryName? entry with
  | none => simp
  | some name =>
    have hblocked := tierOf_eq_blocked_iff name
    have hgated := tierOf_eq_gated_iff name
    cases htier : tierOf name with
    | blocked => simp_all
    | gated => simp_all
    | free => simp_all

variable {σ : Type} {s : σ} {entries : List String}

/-- Where the answers about variables do not depend on the state, what reaches a child process are
the entries that pass by these answers. -/
theorem sanitize_eq_filter {holder : String → σ → Bool × σ} {confirmed : List Char → Bool}
    {inv : σ → Prop}
    (hanswer : ∀ name s, inv s → (holder (capabilityFor name) s).1 = confirmed (upper name))
    (hinv : ∀ name s, inv s → inv (holder (capabilityFor name) s).2) (hs : inv s) :
    (sanitize (some holder) entries s).1 = entries.filter (passes confirmed) := by
  induction entries generalizing s with
  | nil => rfl
  | cons entry more ih =>
    rw [sanitize, List.filter_cons, passes]
    cases (entryName? entry).map fun name => (name, tierOf name) with
    | none => exact ih hs
    | some found =>
      obtain ⟨name, tier⟩ := found
      cases tier with
      | blocked => exact ih hs
      | free => exact congrArg (entry :: ·) (ih hs)
      | gated =>
        have hrest := ih (hinv name s hs)
        simp only [hanswer name s hs, hrest]

/-- With nobody to answer, no variable is confirmed. -/
theorem sanitize_none_eq_filter :
    (sanitize none entries s).1 = entries.filter (passes fun _ => false) := by
  induction entries with
  | nil => rfl
  | cons entry more ih =>
    rw [sanitize, List.filter_cons, passes]
    cases (entryName? entry).map fun name => (name, tierOf name) with
    | none => exact ih
    | some found =>
      obtain ⟨name, tier⟩ := found
      cases tier with
      | blocked => exact ih
      | free => exact congrArg (entry :: ·) ih
      | gated => exact ih

/-- Whoever answers, and however, what reaches a child process are entries whose names are not
blocked, in their order. -/
theorem sanitize_sublist (holds : Option (String → σ → Bool × σ)) (entries : List String) (s : σ) :
    (sanitize holds entries s).1.Sublist (entries.filter (passes fun _ => true)) := by
  induction entries generalizing s with
  | nil => exact List.Sublist.refl []
  | cons entry more ih =>
    rw [sanitize, List.filter_cons, passes]
    cases (entryName? entry).map fun name => (name, tierOf name) with
    | none => exact ih s
    | some found =>
      obtain ⟨name, tier⟩ := found
      cases tier with
      | blocked => exact ih s
      | free => exact (ih s).cons_cons entry
      | gated =>
        cases holds with
        | none => exact (ih s).cons entry
        | some holder =>
          simp only [if_true]
          split
          · exact (ih _).cons_cons entry
          · exact (ih _).cons entry

/-! ## The answerer of the glob checker -/

namespace Checker

/-- The plugin is granted a variable by the answerer for `bound`: it is that plugin, and its grants
cover the command of the name of the capability, or the variable. -/
def grantsVariable (registry : Registry) (bound plugin : String) (key : List Char) : Bool :=
  plugin == bound && (registry.lookup bound).any fun g =>
    g.covers (.command ("env:" ++ String.ofList key)) || g.covers (.environment (String.ofList key))

theorem stripPrefix?_capabilityFor (name : List Char) :
    stripPrefix? "env:".toList (capabilityFor name).toList = some (upper name) := by
  rw [stripPrefix?_eq_some]
  simp [capabilityFor]

/-- The capability for a variable stands for a command and for the variable. -/
theorem requestsForText_capabilityFor (name : List Char) :
    requestsForText (capabilityFor name) =
      [.command ("env:" ++ String.ofList (upper name)),
        .environment (String.ofList (upper name))] := by
  rw [requestsForText, stripPrefix?_capabilityFor]
  rfl

theorem getter_capabilityFor (registry : Registry) (bound plugin : String) (name : List Char)
    {cache : GlobCache} (hcache : cache.Sound) :
    ((glob registry).getter bound plugin (capabilityFor name) cache).1 =
      grantsVariable registry bound plugin (upper name) := by
  by_cases hplugin : plugin = bound
  · obtain rfl := hplugin
    rw [getter, if_pos rfl, grantsVariable, beq_self_eq_true, Bool.true_and]
    cases hgrants : registry.lookup plugin with
    | none =>
      have hactive : (glob registry).activeGrants plugin = .error (.noGrants plugin) := by
        rw [activeGrants, grantsOf, glob, hgrants]
      rw [has, stripPrefix?_capabilityFor]
      simp only [hactive]
      rfl
    | some g =>
      rw [glob, has_fst Policy.realizes_glob hcache hgrants, requestsForText_capabilityFor]
      simp
  · rw [getter, if_neg hplugin, grantsVariable, beq_eq_false_iff_ne.2 hplugin, Bool.false_and]

theorem getter_inv (registry : Registry) (bound plugin capability : String) {cache : GlobCache}
    (hcache : cache.Sound) :
    ((glob registry).getter bound plugin capability cache).2.Sound :=
  Call.run_inv Policy.realizes_glob (.getter bound plugin capability) hcache

/-- **The tiers of variables are kept.** Whatever was asked before, what reaches a child process of
a plugin with the answerer for a plugin are exactly the entries of the form `NAME=VALUE`, in their
order and as they are, whose name is not blocked and, if it is gated, is granted to that very
plugin as a variable or as a command. Whoever answers, a blocked name never passes; and with nobody
to answer, neither does a gated one. -/
theorem sanitize_enforces_tiers (registry : Registry) (bound plugin : String)
    (past : List (Registry × Call)) (entries : List String) :
    let keeps := passes (grantsVariable registry bound plugin)
    (sanitize (some ((glob registry).getter bound plugin)) entries (after past {})).1 =
        entries.filter keeps ∧
      (∀ entry, keeps entry = true ↔ ∃ name, Sets entry name ∧ ¬IsBlockedName (upper name) ∧
        (IsGatedName (upper name) → plugin = bound ∧ ∃ g, registry.lookup bound = some g ∧
          (g.covers (.command ("env:" ++ String.ofList (upper name))) = true ∨
            g.covers (.environment (String.ofList (upper name))) = true))) ∧
      (∀ (σ : Type) (holds : Option (String → σ → Bool × σ)) (s : σ),
        (sanitize holds entries s).1.Sublist entries ∧
          ∀ entry ∈ (sanitize holds entries s).1, ∃ name, Sets entry name ∧
            ¬IsBlockedName (upper name)) ∧
      ∀ (σ : Type) (s : σ) (entry : String), entry ∈ (sanitize none entries s).1 ↔
        entry ∈ entries ∧ ∃ name, Sets entry name ∧ ¬IsBlockedName (upper name) ∧
          ¬IsGatedName (upper name) := by
  intro keeps
  refine ⟨?_, ?_, ?_, ?_⟩
  · exact sanitize_eq_filter
      (fun name cache hcache => getter_capabilityFor registry bound plugin name hcache)
      (fun name cache hcache => getter_inv registry bound plugin _ hcache)
      (sound_after past GlobCache.sound_empty)
  · intro entry
    simp only [keeps, passes_iff, grantsVariable, Bool.and_eq_true, beq_iff_eq, Option.any_eq_true,
      Bool.or_eq_true]
  · intro σ holds s
    have hsub := sanitize_sublist holds entries s
    refine ⟨hsub.trans List.filter_sublist, ?_⟩
    intro entry hentry
    obtain ⟨name, hsets, hblocked, -⟩ := passes_iff.1 (List.mem_filter.1 (hsub.subset hentry)).2
    exact ⟨name, hsets, hblocked⟩
  · intro σ s entry
    rw [sanitize_none_eq_filter, List.mem_filter, passes_iff]
    simp only [Bool.false_eq_true, imp_false]

example :
    let registry : Registry := [("p", { commands := some ["env:P*"] })]
    let run plugin := (sanitize (some ((glob registry).getter "p" plugin))
      ["Path=/bin", "ld_preload=x", "=y", "TERM=t", "HOME=/"] {}).1
    run "p" = ["Path=/bin", "TERM=t"] ∧ run "q" = ["TERM=t"] := by
  decide +kernel

end Checker

end PluginSandbox
