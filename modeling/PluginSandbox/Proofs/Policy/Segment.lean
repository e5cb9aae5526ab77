import PluginSandbox.Proofs.Pattern.Segment
import PluginSandbox.Proofs.Policy.Confinement

/-!
# Grants by segments

Files, variables and keys are authorised by globs alone. A glob without classes and without
a segment `**` keeps to the segments of a text, so that a request is authorised by such a
glob only if it has as many segments, whatever the policy was asked before.

## Main definitions

* `Request.globText?`: the text that decides a request by globs alone.
* `Grants.globsFor`: the globs that decide a request.

## Main statements

* `Grants.exists_globMatches_of_covers`: a request is authorised by a glob that matches.
* `Policy.glob_by_segments`: simple globs, and what is authorised by them.
-/

namespace PluginSandbox

/-- The text that decides a request by globs alone: a path, or the name of a variable or a key. -/
def Request.globText? : Request → Option String
  | .file path _ => some path
  | .environment name => some name
  | .key name _ => some name
  | .network _ | .command _ => none

namespace Grants

variable {g : Grants} {request : Request} {text : String}

/-- The globs that decide a request by themselves. -/
def globsFor (g : Grants) : Request → List String
  | .file _ access => g.filePatterns access
  | .environment _ => rulesOf g.environment
  | .key _ access =>
    ((rulesOf g.keys).filter fun rule => rule.access.permits access).flatMap KeyRule.keys
  | .network _ | .command _ => []

/-- A file, a variable or a key is authorised only by a glob that matches it. -/
theorem exists_globMatches_of_covers (htext : request.globText? = some text)
    (hcovers : g.covers request = true) :
    ∃ pattern ∈ g.globsFor request, globMatches pattern text = true := by
  cases request with
  | network target => contradiction
  | command line => contradiction
  | file path access =>
    obtain rfl : path = text := Option.some.inj htext
    exact (covers_file_iff.1 hcovers).2
  | environment name =>
    obtain rfl : name = text := Option.some.inj htext
    exact List.any_eq_true.1 hcovers
  | key key access =>
    obtain rfl : key = text := Option.some.inj htext
    obtain ⟨rule, hrule, hcovers⟩ := List.any_eq_true.1 hcovers
    rw [KeyRule.covers, Bool.and_eq_true, List.any_eq_true] at hcovers
    obtain ⟨hpermits, pattern, hpattern, hmatch⟩ := hcovers
    have hkept : rule ∈ (rulesOf g.keys).filter fun rule => rule.access.permits access :=
      List.mem_filter.2 ⟨hrule, hpermits⟩
    exact ⟨pattern, List.mem_flatMap.2 ⟨rule, hkept, hpattern⟩, hmatch⟩

end Grants

/-- **Globs work segment by segment.** A pattern without a class and without `**` matches a text
exactly if both have the same number of segments and each segment of the pattern matches that of
the text; and exactly if the pattern stands for the text, where a star stands for a run without a
slash, a question mark for one character that is no slash, and everything else for itself. Without
any wildcard it matches itself and nothing else. So whatever the policy was asked before, a file, a
variable or a key is authorised only by a glob that matches it, and if that is a pattern of this
kind, the text has as many slashes as the pattern. -/
theorem Policy.glob_by_segments :
    (∀ pattern text : String, Glob.IsSimple pattern.toList →
      (globMatches pattern text = true ↔
        List.Forall₂ (fun segment part => globMatches (.ofList segment) (.ofList part) = true)
          (segments pattern) (segments text)) ∧
      (globMatches pattern text = true ↔ Glob.StandsFor pattern.toList text.toList)) ∧
    (∀ pattern text : String, Glob.IsPlain pattern.toList →
      (globMatches pattern text = true ↔ text = pattern)) ∧
    ∀ (inquiries : List Inquiry) (grants : Grants) (request : Request) (text : String),
      request.globText? = some text →
      (Policy.glob.decide request grants (Policy.glob.answerAll inquiries {}).2).1 = true →
      ∃ pattern ∈ grants.globsFor request, globMatches pattern text = true ∧
        (Glob.IsSimple pattern.toList →
          pattern.toList.count '/' = text.toList.count '/') := by
  refine ⟨?_, ?_, ?_⟩
  · intro pattern text hsimple
    exact ⟨globMatches_iff_segments hsimple text, globMatches_iff_standsFor hsimple text⟩
  · intro pattern text hplain
    exact globMatches_iff_eq hplain text
  · intro inquiries grants request text htext hauthorised
    have hanswer := congrArg Prod.fst
      (answer_glob ⟨request, grants⟩ (sound_answerAll inquiries))
    have hcovers : grants.covers request = true := hanswer.symm.trans hauthorised
    obtain ⟨pattern, hpattern, hmatch⟩ := Grants.exists_globMatches_of_covers htext hcovers
    exact ⟨pattern, hpattern, hmatch, fun hsimple => count_eq_of_globMatches hsimple hmatch⟩

/-- A star for nothing and one at an end, a pattern without wildcards beside a text that goes on,
and a path with one segment more than the pattern. -/
theorem Policy.glob_by_segments_stars :
    let grants : Grants := { files := some [⟨["/var/*/l?g*"], []⟩] }
    globMatches "/var/*/l?g*" "/var//log" = true ∧
      globMatches "cache:a" "cache:a/" = false ∧
      (Policy.glob.decide (.file "/var/a/b/log" .read) grants {}).1 = false := by
  intro grants
  obtain ⟨hsegments, hplain, hauthorised⟩ := Policy.glob_by_segments
  refine ⟨?_, ?_, ?_⟩
  · exact (hsegments "/var/*/l?g*" "/var//log" (by decide +kernel)).1.2 (by decide +kernel)
  · rw [← Bool.not_eq_true, hplain "cache:a" "cache:a/" (by decide +kernel)]
    decide
  · rw [← Bool.not_eq_true]
    intro hread
    obtain ⟨pattern, hpattern, -, hcount⟩ := hauthorised [] grants _ "/var/a/b/log" rfl hread
    obtain rfl : pattern = "/var/*/l?g*" := List.mem_singleton.1 hpattern
    exact absurd (hcount (by decide +kernel)) (by decide +kernel)

end PluginSandbox
