import PluginSandbox.Proofs.Grant.Distinct
import PluginSandbox.Proofs.Policy.Trial

/-!
# The cache of globs

The glob policy keeps the globs that it has read by their text, the malformed ones
as such. What it keeps is what reading gives, so its decisions are those of a
policy that reads every glob anew; and it holds each glob that was tried once and
no other. A glob is tried only if it stands in the grants, so the cache is bounded
by the grants, whatever is requested.

## Main definitions

* `Policy.answerAll`: the answers to inquiries that are made one after another.
* `Grants.globs`: the patterns of grants that are globs.
* `GlobCache.Sound`: the invariant of the cache.

## Main statements

* `GlobCache.faithful_test`: the cache answers as the globs do.
* `Policy.answerAll_glob`: the answers and the cache after any inquiries.
* `Policy.glob_transparent_bounded`: the cache does not show in the answers, and it
  holds what was tried.
-/

namespace PluginSandbox

/-! ## Inquiries -/

namespace Policy

variable {σ : Type}

/-- The policy that tries globs in a given way. -/
def ofTrial (trial : GlobTrial σ) : Policy σ := ⟨globDecide trial⟩

/-- The answer to an inquiry. -/
def answer (policy : Policy σ) (inquiry : Inquiry) (s : σ) : Bool × σ :=
  policy.decide inquiry.request inquiry.grants s

/-- The answers to inquiries in turn. -/
def answerAll (policy : Policy σ) : List Inquiry → σ → List Bool × σ
  | [], s => ([], s)
  | inquiry :: more, s =>
    let first := policy.answer inquiry s
    let rest := policy.answerAll more first.2
    (first.1 :: rest.1, rest.2)

/-- Inquiries to a policy with a faithful trial are answered by the globs themselves. -/
theorem answerAll_ofTrial {trial : GlobTrial σ} {inv : σ → Prop} {step : String → σ → σ}
    (h : GlobTrial.Faithful trial inv step) (inquiries : List Inquiry) {s : σ} (hs : inv s) :
    (ofTrial trial).answerAll inquiries s =
      (inquiries.map fun inquiry => inquiry.grants.covers inquiry.request,
        (inquiries.flatMap Inquiry.tried).foldl (fun s pattern => step pattern s) s) := by
  induction inquiries generalizing s with
  | nil => rfl
  | cons inquiry more ih =>
    have hfirst : (ofTrial trial).answer inquiry s =
        (inquiry.grants.covers inquiry.request,
          inquiry.tried.foldl (fun s pattern => step pattern s) s) := h.globDecide_eq inquiry hs
    have hinv : inv (inquiry.tried.foldl (fun s pattern => step pattern s) s) :=
      List.foldlRecOn _ _ hs fun s hs pattern _ => h.step_inv pattern s hs
    rw [answerAll, hfirst, ih hinv, List.map_cons, List.flatMap_cons, List.foldl_append]

end Policy

/-- The patterns that are globs. -/
def Grants.globs (grants : Grants) : List String :=
  ((rulesOf grants.files).flatMap fun rule => rule.read ++ rule.write) ++
    rulesOf grants.environment ++ rulesOf grants.commands ++
    (rulesOf grants.keys).flatMap KeyRule.keys

/-- Only globs of the grants are tried. -/
theorem Inquiry.tried_subset (inquiry : Inquiry) : inquiry.tried ⊆ inquiry.grants.globs := by
  obtain ⟨request, grants⟩ := inquiry
  intro p hp
  simp only [Grants.globs, List.mem_append, List.mem_flatMap]
  cases request with
  | network target => exact absurd hp List.not_mem_nil
  | file path access =>
    simp only [Inquiry.tried] at hp
    split at hp
    · exact absurd hp List.not_mem_nil
    · obtain ⟨rule, hrule, hp⟩ := List.mem_flatMap.1 (upTo_subset _ hp)
      refine Or.inl (Or.inl (Or.inl ⟨rule, hrule, ?_⟩))
      cases access with
      | read => exact Or.inl hp
      | write => exact Or.inr hp
  | environment name => exact Or.inl (Or.inl (Or.inr (upTo_subset _ hp)))
  | command line => exact Or.inl (Or.inr (upTo_subset _ (List.mem_filter.1 hp).1))
  | key key access =>
    obtain ⟨rule, hrule, hp⟩ := List.mem_flatMap.1 (upTo_subset _ hp)
    exact Or.inr ⟨rule, (List.mem_filter.1 hrule).1, hp⟩

/-! ## The cache -/

namespace GlobCache

variable {cache : GlobCache} {pattern : String}

/-- The texts of the globs read so far. -/
def patterns (cache : GlobCache) : List String := cache.entries.map Prod.fst

/-- The cache with a glob in it. -/
def learn (pattern : String) (cache : GlobCache) : GlobCache :=
  if pattern ∈ cache.patterns then cache
  else ⟨(pattern, Glob.read pattern.toList) :: cache.entries⟩

/-- What holds of every cache that decisions lead to. -/
structure Sound (cache : GlobCache) : Prop where
  /-- What is kept for a text is what reading it gives. -/
  read_eq : ∀ entry ∈ cache.entries, entry.2 = Glob.read entry.1.toList
  /-- No text is kept twice. -/
  nodup : cache.patterns.Nodup

theorem sound_empty : Sound {} where
  read_eq := by
    intro entry hentry
    exact absurd hentry List.not_mem_nil
  nodup := List.nodup_nil

@[simp] theorem length_patterns (cache : GlobCache) : cache.patterns.length = cache.size :=
  List.length_map _

theorem learn_of_mem (h : pattern ∈ cache.patterns) : cache.learn pattern = cache := if_pos h

theorem mem_patterns_learn {p : String} :
    p ∈ (cache.learn pattern).patterns ↔ p = pattern ∨ p ∈ cache.patterns := by
  rw [learn]
  split
  case isTrue hmem =>
    constructor
    · exact Or.inr
    · rintro (rfl | hp)
      · exact hmem
      · exact hp
  case isFalse => exact List.mem_cons

theorem Sound.learn (h : cache.Sound) (pattern : String) : (cache.learn pattern).Sound := by
  rw [GlobCache.learn]
  split
  case isTrue => exact h
  case isFalse hfresh =>
    refine ⟨?_, List.nodup_cons.2 ⟨hfresh, h.nodup⟩⟩
    intro entry hentry
    rcases List.mem_cons.1 hentry with rfl | hentry
    · rfl
    · exact h.read_eq entry hentry

/-- The cache answers as the globs do, and learns those that it is asked about. -/
theorem faithful_test : GlobTrial.Faithful test Sound learn where
  trial_eq pattern text cache h := by
    rw [test]
    cases hfound : cache.entries.lookup pattern with
    | some glob =>
      obtain ⟨before, after, hentries, -⟩ := List.lookup_eq_some_iff.1 hfound
      have hentry : (pattern, glob) ∈ cache.entries := by
        rw [hentries]
        exact List.mem_append_right before List.mem_cons_self
      have hmem : pattern ∈ cache.patterns := List.mem_map_of_mem hentry
      obtain rfl : glob = Glob.read pattern.toList := h.read_eq _ hentry
      rw [learn_of_mem hmem]
      rfl
    | none =>
      have hfresh : pattern ∉ cache.patterns := by
        intro hmem
        obtain ⟨entry, hentry, rfl⟩ := List.mem_map.1 hmem
        have hne := List.lookup_eq_none_iff.1 hfound entry hentry
        rw [bne_self_eq_false] at hne
        contradiction
      rw [learn, if_neg hfresh]
      rfl
  step_inv pattern _ h := h.learn pattern

/-! ### Learning many globs -/

/-- The cache with globs in it, in turn. -/
def learnAll (patterns : List String) (cache : GlobCache) : GlobCache :=
  patterns.foldl (fun cache pattern => cache.learn pattern) cache

theorem Sound.learnAll (h : cache.Sound) (ps : List String) : (cache.learnAll ps).Sound :=
  List.foldlRecOn _ _ h fun _ h pattern _ => h.learn pattern

theorem mem_patterns_learnAll {ps : List String} {p : String} :
    p ∈ (cache.learnAll ps).patterns ↔ p ∈ ps ∨ p ∈ cache.patterns := by
  induction ps generalizing cache with
  | nil => exact ⟨Or.inr, fun h => h.resolve_left List.not_mem_nil⟩
  | cons q qs ih =>
    change p ∈ ((cache.learn q).learnAll qs).patterns ↔ _
    rw [ih, mem_patterns_learn, List.mem_cons]
    exact or_left_comm.trans or_assoc.symm

/-- Globs that are in the cache already leave it as it is. -/
theorem learnAll_of_subset {ps : List String} (h : ps ⊆ cache.patterns) :
    cache.learnAll ps = cache := by
  induction ps with
  | nil => rfl
  | cons q qs ih =>
    obtain ⟨hq, hqs⟩ := List.cons_subset.1 h
    change (cache.learn q).learnAll qs = cache
    rw [learn_of_mem hq, ih hqs]

theorem size_le_size_learn (pattern : String) (cache : GlobCache) :
    cache.size ≤ (cache.learn pattern).size := by
  rw [learn]
  split
  · exact Nat.le_refl _
  · exact Nat.le_succ _

theorem size_le_size_learnAll (ps : List String) (cache : GlobCache) :
    cache.size ≤ (cache.learnAll ps).size := by
  induction ps generalizing cache with
  | nil => exact Nat.le_refl _
  | cons q qs ih => exact Nat.le_trans (size_le_size_learn q cache) (ih (cache.learn q))

/-- A cache that learned globs from the start holds each of them once. -/
theorem size_learnAll_empty (ps : List String) :
    (learnAll ps {}).size = (distinct ps).length := by
  rw [← length_patterns]
  refine length_eq_length_distinct (sound_empty.learnAll ps).nodup fun p => ?_
  rw [mem_patterns_learnAll]
  exact or_iff_left List.not_mem_nil

end GlobCache

/-! ## The glob policy -/

namespace Policy

/-- The answers of the glob policy are those of the globs, and its cache learns what is tried. -/
theorem answerAll_glob (inquiries : List Inquiry) {cache : GlobCache} (h : cache.Sound) :
    Policy.glob.answerAll inquiries cache =
      (inquiries.map fun inquiry => inquiry.grants.covers inquiry.request,
        cache.learnAll (inquiries.flatMap Inquiry.tried)) :=
  answerAll_ofTrial GlobCache.faithful_test inquiries h

/-- Every cache that inquiries lead to is sound. -/
theorem sound_answerAll (inquiries : List Inquiry) :
    (Policy.glob.answerAll inquiries {}).2.Sound := by
  rw [answerAll_glob inquiries GlobCache.sound_empty]
  exact GlobCache.sound_empty.learnAll _

theorem answer_glob (inquiry : Inquiry) {cache : GlobCache} (h : cache.Sound) :
    Policy.glob.answer inquiry cache =
      (inquiry.grants.covers inquiry.request, cache.learnAll inquiry.tried) :=
  GlobCache.faithful_test.globDecide_eq inquiry h

/-- **The cache does not show, and is bounded by the grants.** However many inquiries are made, the
answers are those of the same decision without a cache, and say what the grants cover; the cache
then holds as many globs as different ones were tried; no inquiry makes it smaller, none that was
made before changes it, and it holds no more globs than the grants have different ones. -/
theorem glob_transparent_bounded (inquiries : List Inquiry) :
    let run := Policy.glob.answerAll inquiries {}
    run.1 = ((ofTrial GlobTrial.oneShot).answerAll inquiries ()).1 ∧
      run.1 = inquiries.map (fun inquiry => inquiry.grants.covers inquiry.request) ∧
      ((ofTrial GlobTrial.logged).answerAll inquiries []).2 = inquiries.flatMap Inquiry.tried ∧
      run.2.size = (distinct (inquiries.flatMap Inquiry.tried)).length ∧
      (∀ more, run.2.size ≤ (Policy.glob.answerAll more run.2).2.size) ∧
      (∀ inquiry ∈ inquiries, (Policy.glob.answer inquiry run.2).2 = run.2) ∧
      run.2.size ≤
        (distinct (inquiries.flatMap fun inquiry => inquiry.grants.globs)).length := by
  have hsound := GlobCache.sound_empty.learnAll (inquiries.flatMap Inquiry.tried)
  simp only [answerAll_glob inquiries GlobCache.sound_empty]
  refine ⟨?_, trivial, ?_, GlobCache.size_learnAll_empty _, ?_, ?_, ?_⟩
  · rw [answerAll_ofTrial GlobTrial.faithful_oneShot inquiries trivial]
  · rw [answerAll_ofTrial GlobTrial.faithful_logged inquiries trivial,
      List.foldl_append_eq_append, List.nil_append, ← List.flatMap_def, List.flatMap_singleton']
  · intro more
    rw [answerAll_glob more hsound]
    exact GlobCache.size_le_size_learnAll _ _
  · intro inquiry hinquiry
    rw [answer_glob inquiry hsound]
    refine GlobCache.learnAll_of_subset fun p hp => ?_
    exact GlobCache.mem_patterns_learnAll.2
      (Or.inl (List.mem_flatMap.2 ⟨inquiry, hinquiry, hp⟩))
  · rw [GlobCache.size_learnAll_empty]
    refine length_distinct_le fun p hp => ?_
    obtain ⟨inquiry, hinquiry, hp⟩ := List.mem_flatMap.1 hp
    exact List.mem_flatMap.2 ⟨inquiry, hinquiry, inquiry.tried_subset hp⟩

/-- Inquiries about variables and commands by globs of which one is malformed and one stands for
every command. -/
theorem glob_transparent_bounded_malformed :
    let grants : Grants := { environment := some ["AWS_*", "HOME", "[a"], commands := some ["*"] }
    let inquiries : List Inquiry := [⟨.environment "AWS_REGION", grants⟩,
      ⟨.environment "PATH", grants⟩, ⟨.command "ls -l", grants⟩, ⟨.environment "HOME", grants⟩]
    let run := Policy.glob.answerAll inquiries {}
    run.1 = [true, false, true, true] ∧ run.2.size = 3 ∧
      (Policy.glob.answer ⟨.environment "PATH", grants⟩ run.2).2 = run.2 := by
  intro grants inquiries run
  obtain ⟨-, -, -, -, -, hrepeated, -⟩ := glob_transparent_bounded inquiries
  exact ⟨by decide +kernel, by decide +kernel,
    hrepeated _ (List.mem_cons_of_mem _ List.mem_cons_self)⟩

end Policy

end PluginSandbox
