import PluginSandbox.Proofs.Pattern.Glob
import PluginSandbox.Proofs.Policy.Cache
import PluginSandbox.Proofs.Text.Fields

/-!
# Confinement to a directory

A glob reads a path by its characters, and whoever opens the file by its segments: he
passes over empty ones and those that are a dot, and climbs at two dots. Since a path
with two dots in a segment is never authorised, both readings agree on where the path
leads. A grant for everything below a directory authorises the paths that go on with
the directory and a slash, and all of them lead below the place of the directory.

## Main definitions

* `enter`, `placeOf`: where a path leads, segment by segment.
* `isRooted`: a path starts at the root.
* `Grants.filePatterns`: the patterns that decide about an access to files.

## Main statements

* `placeOf_eq_filter`: a path without two dots leads where its named segments say.
* `Grants.covers_below_iff`: what a grant for a directory authorises.
* `Grants.covers_file_congr`: only the patterns for an access decide about it.
* `Policy.glob_confines`: confinement, whatever the policy was asked before.
-/

namespace PluginSandbox

open Text

/-! ## Where a path leads -/

/-- Where a segment leads from a place, which is given by its names from the outermost one. -/
def enter (place : List (List Char)) (segment : List Char) : List (List Char) :=
  if segment = [] ∨ segment = ['.'] then place
  else if segment = ['.', '.'] then place.dropLast
  else place ++ [segment]

/-- The segments of a path. -/
def segments (path : String) : List (List Char) := path.toList.splitOn '/'

/-- Where a path leads from where it starts. -/
def placeOf (path : String) : List (List Char) := (segments path).foldl enter []

/-- The segment is the name of something. -/
def namesPart (segment : List Char) : Bool := segment ≠ [] && segment ≠ ['.']

/-- A path starts at the root. -/
def isRooted (path : String) : Bool := path.toList.head? = some '/'

theorem climbs_iff {path : String} : climbs path = true ↔ ['.', '.'] ∈ segments path := by
  simp [climbs, segments]

/-- Segments of which none is two dots lead on by their names. -/
theorem foldl_enter {parts : List (List Char)} (h : ['.', '.'] ∉ parts) (place : List (List Char)) :
    parts.foldl enter place = place ++ parts.filter namesPart := by
  induction parts generalizing place with
  | nil => simp
  | cons part more ih =>
    obtain ⟨hpart, hmore⟩ := not_or.1 (List.mem_cons.not.1 h)
    rw [List.foldl_cons, ih hmore, List.filter_cons, enter, namesPart]
    by_cases hskip : part = [] ∨ part = ['.']
    · rcases hskip with rfl | rfl <;> simp
    · obtain ⟨hempty, hdot⟩ := not_or.1 hskip
      simp [hempty, hdot, Ne.symm hpart]

/-- A path without two dots leads where its named segments say. -/
theorem placeOf_eq_filter {path : String} (h : ['.', '.'] ∉ segments path) :
    placeOf path = (segments path).filter namesPart := foldl_enter h []

theorem splitOn_append_cons (front back : List Char) :
    (front ++ '/' :: back).splitOn '/' = front.splitOn '/' ++ back.splitOn '/' :=
  List.splitOnP_append_cons front back (beq_self_eq_true '/')

/-- What goes on with a directory and a slash has the segments of the directory in front. -/
theorem segments_of_isPrefix {dir path : String} (h : dir.toList ++ ['/'] <+: path.toList) :
    segments dir <+: segments path := by
  obtain ⟨rest, hpath⟩ := h
  refine ⟨rest.splitOn '/', ?_⟩
  rw [segments, segments, ← hpath, List.append_assoc]
  exact (splitOn_append_cons dir.toList rest).symm

/-- What goes on with a directory and a slash, without two dots, leads below its place. -/
theorem placeOf_of_isPrefix {dir path : String} (h : dir.toList ++ ['/'] <+: path.toList)
    (hdots : ['.', '.'] ∉ segments path) : placeOf dir <+: placeOf path := by
  have hparts := segments_of_isPrefix h
  have hdir : ['.', '.'] ∉ segments dir := fun hmem => hdots (hparts.subset hmem)
  rw [placeOf_eq_filter hdots, placeOf_eq_filter hdir]
  exact hparts.filter namesPart

/-- What goes on with a directory and a slash starts where they do. -/
theorem isRooted_of_isPrefix {dir path : String} (h : dir.toList ++ ['/'] <+: path.toList) :
    isRooted path = isRooted (dir ++ "/") := by
  obtain ⟨rest, hpath⟩ := h
  rw [isRooted, isRooted, ← hpath]
  cases hdir : dir.toList <;> simp [hdir]

/-! ## What file grants authorise -/

namespace Grants

variable {g : Grants} {path : String} {access : FileAccess}

/-- The patterns of all file rules for one access. -/
def filePatterns (g : Grants) (access : FileAccess) : List String :=
  (rulesOf g.files).flatMap fun rule => rule.patterns access

/-- A path is authorised for an access by the patterns for that access, and none by two dots. -/
theorem covers_file_iff :
    g.covers (.file path access) = true ↔
      ['.', '.'] ∉ segments path ∧ ∃ p ∈ g.filePatterns access, globMatches p path = true := by
  have hany : (∃ p ∈ g.filePatterns access, globMatches p path = true) ↔
      ((rulesOf g.files).any fun rule => rule.covers path access) = true := by
    simp only [filePatterns, FileRule.covers, List.any_eq_true, List.mem_flatMap]
    constructor
    · rintro ⟨p, ⟨rule, hrule, hp⟩, hmatch⟩
      exact ⟨rule, hrule, p, hp, hmatch⟩
    · rintro ⟨rule, hrule, p, hp, hmatch⟩
      exact ⟨p, ⟨rule, hrule, hp⟩, hmatch⟩
  rw [covers, Bool.and_eq_true, Bool.not_eq_true', ← Bool.not_eq_true, climbs_iff, hany]

/-- Only the patterns for an access decide about it. -/
theorem covers_file_congr {g' : Grants} (h : g.filePatterns access = g'.filePatterns access) :
    g.covers (.file path access) = g'.covers (.file path access) := by
  rw [Bool.eq_iff_iff, covers_file_iff, covers_file_iff, h]

/-- The only pattern for what is below a directory authorises what goes on with it. -/
theorem covers_below_iff {dir : String} (hdir : Glob.IsPlain dir.toList)
    (h : g.filePatterns access = [dir ++ "/**"]) :
    g.covers (.file path access) = true ↔
      dir.toList ++ ['/'] <+: path.toList ∧ ['.', '.'] ∉ segments path := by
  rw [covers_file_iff, h, and_comm]
  simp only [List.mem_singleton, exists_eq_left, globMatches_below_iff hdir]

end Grants

/-- **Files are confined.** Whatever the policy was asked before: where the only pattern for reading
is that for everything below a directory, the paths that may be read are those that go on with the
directory and a slash and have no segment of two dots, and each of them leads, by the names in it,
to a place below that of the directory. Whatever the grants, a path with a segment of two dots may
be neither read nor written, and what may be done is decided by the patterns for it alone. -/
theorem Policy.glob_confines {dir : String} {grants : Grants} (hdir : Glob.IsPlain dir.toList)
    (hgrants : grants.filePatterns .read = [dir ++ "/**"]) (inquiries : List Inquiry) :
    let authorises := fun (g : Grants) (path : String) (access : FileAccess) =>
      (Policy.glob.decide (.file path access) g (Policy.glob.answerAll inquiries {}).2).1
    (∀ path, authorises grants path .read = true ↔
        dir.toList ++ ['/'] <+: path.toList ∧ ['.', '.'] ∉ segments path) ∧
      (∀ path, authorises grants path .read = true →
        isRooted path = isRooted (dir ++ "/") ∧ placeOf dir <+: placeOf path ∧
          placeOf path = (segments path).filter namesPart) ∧
      (∀ g path access, ['.', '.'] ∈ segments path → authorises g path access = false) ∧
      (∀ g g' path access, g.filePatterns access = g'.filePatterns access →
        authorises g path access = authorises g' path access) ∧
      ∀ g path access, g.filePatterns access = [] → authorises g path access = false := by
  intro authorises
  have hsound := sound_answerAll inquiries
  have hcovers : ∀ g path access, authorises g path access = g.covers (.file path access) := by
    intro g path access
    exact congrArg Prod.fst (answer_glob ⟨.file path access, g⟩ hsound)
  have hread : ∀ path, authorises grants path .read = true ↔
      dir.toList ++ ['/'] <+: path.toList ∧ ['.', '.'] ∉ segments path := by
    intro path
    rw [hcovers]
    exact Grants.covers_below_iff hdir hgrants
  refine ⟨hread, ?_, ?_, ?_, ?_⟩
  · intro path hpath
    obtain ⟨hbelow, hdots⟩ := (hread path).1 hpath
    exact ⟨isRooted_of_isPrefix hbelow, placeOf_of_isPrefix hbelow hdots,
      placeOf_eq_filter hdots⟩
  · intro g path access hdots
    rw [hcovers, ← Bool.not_eq_true, Grants.covers_file_iff]
    exact fun h => h.1 hdots
  · intro g g' path access h
    rw [hcovers, hcovers]
    exact Grants.covers_file_congr h
  · intro g path access h
    rw [hcovers, ← Bool.not_eq_true, Grants.covers_file_iff, h]
    rintro ⟨-, p, hp, -⟩
    exact absurd hp List.not_mem_nil

/-- Paths with empty segments and dots lead below the directory; two dots are refused. -/
theorem Policy.glob_confines_data :
    let g := Grants.empty.allowRead ["/data/**"]
    (Policy.glob.decide (.file "/data//./a.txt/" .read) g {}).1 = true ∧
      placeOf "/data//./a.txt/" = ["data".toList, "a.txt".toList] ∧
      (Policy.glob.decide (.file "/data/../etc" .read) g {}).1 = false ∧
      (Policy.glob.decide (.file "/data" .read) g {}).1 = false := by
  intro g
  have hconfined := @Policy.glob_confines "/data" g (by decide +kernel) (by decide +kernel) []
  obtain ⟨hread, -, hdots, -, -⟩ := hconfined
  refine ⟨(hread _).2 (by decide +kernel), by decide +kernel, hdots g _ _ (by decide +kernel), ?_⟩
  rw [← Bool.not_eq_true]
  exact fun h => absurd ((hread _).1 h) (by decide +kernel)

end PluginSandbox
