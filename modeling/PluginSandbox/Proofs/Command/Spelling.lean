import PluginSandbox.Command
import PluginSandbox.Proofs.Text.Blank

/-!
# Spellings of commands

A command is spelled in many ways: in a directory, in either case, with or without `.exe`
and with blanks around it. They all have the same name, so that screening does not tell them
apart. A version behind the name of an interpreter is part of its name, and is taken away only
where options are looked up; no name that is known ends like a version, so that none is found
by chance.

## Main definitions

* `PlainName`: names that are written as they are.
* `Spells`: the spellings of a command.
* `IsVersion`, `IsUnversioned`: versions, and names that do not end like one.

## Main statements

* `baseName_congr`, `baseName_append_append`: case, and blanks around a command.
* `PlainName.baseName_append`, `PlainName.baseName_append_exe`: directories and extensions.
* `Spells.baseName_eq`: the name in a spelling.
* `classifyName_append_version`: versions.
* `classify_spelling`: the class of a spelling, and of a version.
-/

namespace PluginSandbox

open Text

/-! ## The name in a spelling -/

theorem isPathSeparator_iff (c : Char) : isPathSeparator c = true ↔ c = '/' ∨ c = '\\' := by
  simp [isPathSeparator]

@[simp] theorem isPathSeparator_toLower (c : Char) :
    isPathSeparator c.toLower = isPathSeparator c := by
  rcases toLower_cases c with hself | ⟨hlo, hhi, hlower⟩
  · rw [hself]
  · have hletter {d : Char} (hd : 65 ≤ d.toNat ∧ d.toNat ≤ 90 ∨ 97 ≤ d.toNat) :
        isPathSeparator d = false := by
      rw [Bool.eq_false_iff, ne_eq, isPathSeparator_iff]
      rintro (rfl | rfl) <;> revert hd <;> decide
    rw [hletter (Or.inl ⟨hlo, hhi⟩), hletter (Or.inr (by omega))]

theorem isBlank_of_isPathSeparator {c : Char} (h : isPathSeparator c = true) :
    isBlank c = false := by
  rcases (isPathSeparator_iff c).1 h with rfl | rfl <;> decide

/-- The name of a program does not depend on the case of the command. -/
theorem baseName_congr {command other : List Char} (h : lower command = lower other) :
    baseName command = baseName other := by
  have hlast (cs : List Char) : lower (afterLast isPathSeparator (trim cs)) =
      afterLast isPathSeparator (trim (lower cs)) := by
    rw [lower_afterLast isPathSeparator_toLower, lower_trim]
  rw [baseName, baseName, hlast, hlast, h]

/-- The name of a program does not depend on blanks around the command. -/
theorem baseName_append_append {before after : List Char}
    (hbefore : ∀ c ∈ before, isBlank c = true) (hafter : ∀ c ∈ after, isBlank c = true)
    (command : List Char) : baseName (before ++ command ++ after) = baseName command := by
  rw [baseName, baseName, trim_append_append hbefore hafter]

/-- A part of a path, without blanks at its ends. -/
structure IsPart (part : List Char) : Prop where
  unbroken : ∀ c ∈ part, isPathSeparator c = false
  front : ∀ c ∈ part.head?, isBlank c = false
  back : ∀ c ∈ part.getLast?, isBlank c = false

/-- A name that is written as it is: a part of a path without `.exe` at its end in any case. -/
structure PlainName (name : List Char) : Prop extends IsPart name where
  bare : ¬".exe".toList <:+ lower name

/-- What may stand in front of a name: nothing, or a text that ends in a separator. -/
def IsDirectory (front : List Char) : Prop :=
  front = [] ∨ ∃ path sep, isPathSeparator sep = true ∧ front = path ++ [sep]

variable {name directory : List Char}

theorem IsPart.append_exe (hpart : IsPart name) : IsPart (name ++ ".exe".toList) where
  unbroken c hc := by
    rcases List.mem_append.1 hc with hc | hc
    · exact hpart.unbroken c hc
    · have hexe : ".exe".toList.any isPathSeparator = false := by decide
      exact Bool.eq_false_iff.2 (List.any_eq_false.1 hexe c hc)
  front c hc := by
    cases name with
    | nil =>
      obtain rfl : '.' = c := Option.some.inj hc
      rfl
    | cons d ds => exact hpart.front c hc
  back c hc := by
    have hlast : (name ++ ".exe".toList).getLast? = some 'e' := by
      rw [List.getLast?_append]
      rfl
    obtain rfl : 'e' = c := Option.some.inj (hlast.symm.trans hc)
    rfl

/-- The last part of a path is what stands behind its directory. -/
theorem IsPart.afterLast_trim (hpart : IsPart name) (hdirectory : IsDirectory directory) :
    afterLast isPathSeparator (trim (directory ++ name)) = name := by
  rcases hdirectory with rfl | ⟨path, sep, hsep, rfl⟩
  · rw [List.nil_append, trim, trimStart_eq_self hpart.front, trimEndBy_eq_self hpart.back,
      afterLast_eq_self hpart.unbroken]
  · have hblank := isBlank_of_isPathSeparator hsep
    rw [List.append_assoc, List.singleton_append, trim, trimStart_append_cons hblank,
      trimEndBy_append_cons hblank, trimEndBy_eq_self hpart.back,
      afterLast_append_cons hsep hpart.unbroken]

namespace PlainName

variable (hplain : PlainName name) (hdirectory : IsDirectory directory)
include hplain hdirectory

theorem baseName_append : baseName (directory ++ name) = lower name := by
  have hnone : stripSuffix? ".exe".toList (lower name) = none := by
    rw [Option.eq_none_iff_forall_ne_some]
    intro rest hrest
    exact hplain.bare ⟨rest, (stripSuffix?_eq_some.1 hrest).symm⟩
  rw [baseName, hplain.afterLast_trim hdirectory, hnone, Option.getD_none]

theorem baseName_append_exe : baseName (directory ++ (name ++ ".exe".toList)) = lower name := by
  have hsome : stripSuffix? ".exe".toList (lower (name ++ ".exe".toList)) = some (lower name) := by
    rw [stripSuffix?_eq_some, lower_append]
    rfl
  rw [baseName, hplain.append_exe.afterLast_trim hdirectory, hsome, Option.getD_some]

end PlainName

/-- The spellings of a command: in a directory or in none, in any case, with or without `.exe`, and
with blanks around it or not. -/
inductive Spells (name : List Char) : List Char → Prop where
  | intro {before directory cased extension after : List Char}
    (hbefore : ∀ c ∈ before, isBlank c = true) (hdirectory : IsDirectory directory)
    (hcased : lower cased = lower name)
    (hextension : extension = [] ∨ lower extension = ".exe".toList)
    (hafter : ∀ c ∈ after, isBlank c = true) :
    Spells name (before ++ (directory ++ (cased ++ extension)) ++ after)

/-- The name in every spelling is the name in lower case. -/
theorem Spells.baseName_eq {command : List Char} (hspells : Spells name command)
    (hplain : PlainName name) : baseName command = lower name := by
  obtain ⟨hbefore, hdirectory, hcased, rfl | hextension, hafter⟩ := hspells
  · rw [baseName_append_append hbefore hafter, ← hplain.baseName_append hdirectory]
    refine baseName_congr ?_
    rw [List.append_nil, lower_append, lower_append, hcased]
  · rw [baseName_append_append hbefore hafter, ← hplain.baseName_append_exe hdirectory]
    refine baseName_congr ?_
    simp only [lower_append, hcased, hextension]
    rfl

theorem PlainName.baseName_eq (hplain : PlainName name) : baseName name = lower name := by
  simpa using hplain.baseName_append (Or.inl rfl)

/-! ## Versions -/

/-- A version: digits and dots. -/
def IsVersion (version : List Char) : Prop := ∀ c ∈ version, isVersionChar c = true

/-- The name does not end like a version. -/
def IsUnversioned (name : List Char) : Prop := trimEndBy isVersionChar name = name

instance (name : List Char) : Decidable (IsUnversioned name) :=
  inferInstanceAs (Decidable (trimEndBy isVersionChar name = name))

variable {version : List Char}

theorem trimEndBy_append_version (hname : IsUnversioned name) (hversion : IsVersion version) :
    trimEndBy isVersionChar (name ++ version) = name := by
  rw [trimEndBy_append_of_all _ _ _ hversion, hname]

/-- A name with a version that is a name without one has the empty version. -/
theorem append_version_eq (hname : IsUnversioned name) (hversion : IsVersion version)
    (h : IsUnversioned (name ++ version)) : name ++ version = name := by
  rw [← h, trimEndBy_append_version hname hversion]

theorem isUnversioned_of_optionsOf? {options : List String} (h : optionsOf? name = some options) :
    IsUnversioned name := by
  have htable : ∀ i ∈ interpreters, IsUnversioned i.1.toList := by decide
  obtain ⟨i, hi, -⟩ := Option.map_eq_some_iff.1 h
  have hname := List.find?_some hi
  rw [← beq_iff_eq.1 hname]
  exact htable i (List.mem_of_find?_eq_some hi)

theorem interpreterOptions?_of_isUnversioned (hname : IsUnversioned name) :
    interpreterOptions? name = optionsOf? name := by
  rw [interpreterOptions?, hname]
  cases optionsOf? name <;> rfl

/-- The options of an interpreter are found with or without a version. -/
theorem interpreterOptions?_append_version (hname : IsUnversioned name)
    (hversion : IsVersion version) :
    interpreterOptions? (name ++ version) = interpreterOptions? name := by
  cases hoptions : optionsOf? (name ++ version) with
  | none =>
    rw [interpreterOptions?_of_isUnversioned hname, interpreterOptions?, hoptions,
      trimEndBy_append_version hname hversion]
  | some options =>
    rw [append_version_eq hname hversion (isUnversioned_of_optionsOf? hoptions)]

/-- No version makes a name one of a list whose names do not end like a version. -/
theorem isNamed_append_version {names : List String} (hnames : ∀ n ∈ names, IsUnversioned n.toList)
    (hname : IsUnversioned name) (hversion : IsVersion version) (h : isNamed names name = false) :
    isNamed names (name ++ version) = false := by
  rw [Bool.eq_false_iff, isNamed, ne_eq, List.any_eq_true]
  rintro ⟨n, hn, heq⟩
  have hunversioned := hnames n hn
  rw [beq_iff_eq.1 heq] at hunversioned
  rw [append_version_eq hname hversion hunversioned] at heq
  rw [isNamed, List.any_eq_false] at h
  exact h n hn heq

/-- A version makes no difference behind a name that is neither that of a shell nor of a program
whose code is an argument of its own. -/
theorem classifyName_append_version (hname : IsUnversioned name) (hversion : IsVersion version)
    (hshell : isShell name = false) (hawk : isNamed awkFamily name = false) (args : List String) :
    classifyName (name ++ version) args = classifyName name args := by
  have hshell' : isShell (name ++ version) = false :=
    isNamed_append_version (by decide) hname hversion hshell
  have hawk' := isNamed_append_version (by decide) hname hversion hawk
  rw [classifyName, classifyName, hshell, hshell', hawk, hawk',
    interpreterOptions?_append_version hname hversion]

/-! ## Names of interpreters -/

/-- A name of small letters with a version behind it. -/
structure IsVersioned (name version : List Char) : Prop where
  letters : ∀ c ∈ name, isLower c = true
  version : IsVersion version

namespace IsVersioned

variable (h : IsVersioned name version)
include h

theorem toNat_cases {c : Char} (hc : c ∈ name ++ version) :
    c.toNat = 46 ∨ (48 ≤ c.toNat ∧ c.toNat ≤ 57) ∨ (97 ≤ c.toNat ∧ c.toNat ≤ 122) := by
  rcases List.mem_append.1 hc with hc | hc
  · exact Or.inr (Or.inr ((isLower_iff c).1 (h.letters c hc)))
  · have hversion := h.version c hc
    rw [isVersionChar, Bool.or_eq_true, decide_eq_true_eq] at hversion
    rcases hversion with hdigit | rfl
    · exact Or.inr (Or.inl ((isDigit_iff c).1 hdigit))
    · exact Or.inl rfl

theorem lower_eq_self : lower (name ++ version) = name ++ version := by
  refine (List.map_congr_left fun c hc => ?_).trans (List.map_id _)
  have hrange := h.toNat_cases hc
  rcases toLower_cases c with hself | ⟨hlo, hhi, -⟩
  · exact hself
  · omega

theorem not_exe_isSuffix : ¬".exe".toList <:+ name ++ version := by
  rintro ⟨rest, hrest⟩
  rcases List.eq_nil_or_concat version with rfl | ⟨front, d, rfl⟩
  · have hdot : '.' ∈ name := by
      rw [List.append_nil] at hrest
      rw [← hrest]
      exact List.mem_append_right _ (by decide)
    exact absurd (h.letters '.' hdot) (by decide)
  · have hlast := congrArg List.getLast? hrest
    rw [List.concat_eq_append, ← List.append_assoc, List.getLast?_append,
      List.getLast?_append] at hlast
    obtain rfl : 'e' = d := Option.some.inj hlast
    exact absurd (h.version 'e' (by simp)) (by decide)

theorem plainName : PlainName (name ++ version) where
  unbroken c hc := by
    have hrange := h.toNat_cases hc
    rw [Bool.eq_false_iff, ne_eq, isPathSeparator_iff]
    rintro (rfl | rfl) <;> revert hrange <;> decide
  front c hc := by
    have hrange := h.toNat_cases (List.mem_of_mem_head? hc)
    exact isBlank_of_isVisible (by simp [isVisible]; omega)
  back c hc := by
    have hrange := h.toNat_cases (List.mem_of_getLast? hc)
    exact isBlank_of_isVisible (by simp [isVisible]; omega)
  bare := by
    rw [h.lower_eq_self]
    exact h.not_exe_isSuffix

theorem baseName_eq : baseName (name ++ version) = name ++ version := by
  rw [h.plainName.baseName_eq, h.lower_eq_self]

end IsVersioned

section Letters

variable (hname : ∀ c ∈ name, isLower c = true)
include hname

theorem isVersioned_nil : IsVersioned name [] := ⟨hname, by simp [IsVersion]⟩

theorem plainName_of_letters : PlainName name := by
  simpa using (isVersioned_nil hname).plainName

theorem baseName_of_letters : baseName name = name := by
  simpa using (isVersioned_nil hname).baseName_eq

end Letters

/-- **No spelling hides a command.** In whatever directory, in whatever case, with or without `.exe`
and with or without blanks around it, a command is of the same class with the same arguments; and so
is an interpreter with and without a version of digits and dots behind its name. -/
theorem classify_spelling (args : List String) :
    (∀ name command : String, PlainName name.toList → Spells name.toList command.toList →
      classify command args = classify name args) ∧
    ∀ entry ∈ interpreters, ∀ version : String, IsVersion version.toList →
      classify (entry.1 ++ version) args = classify entry.1 args := by
  refine ⟨?_, ?_⟩
  · intro name command hplain hspells
    rw [classify, classify, hspells.baseName_eq hplain, hplain.baseName_eq]
  · intro entry hentry version hversion
    have hletters : ∀ i ∈ interpreters, i.1.toList.all isLower = true := by decide
    have hunversioned : ∀ i ∈ interpreters, IsUnversioned i.1.toList := by decide
    have hnamed : ∀ i ∈ interpreters,
        isShell i.1.toList = false ∧ isNamed awkFamily i.1.toList = false := by decide
    have hname := List.all_eq_true.1 (hletters entry hentry)
    have hlong : IsVersioned entry.1.toList version.toList := ⟨hname, hversion⟩
    obtain ⟨hshell, hawk⟩ := hnamed entry hentry
    rw [classify, classify, String.toList_append, hlong.baseName_eq, baseName_of_letters hname]
    exact classifyName_append_version (hunversioned entry hentry) hversion hshell hawk args

/-- A shell in a directory with blanks, in capitals and with an extension, and an interpreter with a
version that ends in a dot. -/
theorem classify_spelling_capitals :
    classify "\t C:\\Program Files/Git\\BASH.Exe " ["-e", "exit"] = .shell ∧
      classify ("lua" ++ "5.4.") ["-e", "exit"] = .interpreter := by
  obtain ⟨hspelling, hversion⟩ := classify_spelling ["-e", "exit"]
  have hplain : PlainName "bash".toList := plainName_of_letters (List.all_eq_true.1 (by decide))
  have hspells : Spells "bash".toList ("\t ".toList ++ ("C:\\Program Files/Git\\".toList ++
      ("BASH".toList ++ ".Exe".toList)) ++ " ".toList) :=
    .intro (List.all_eq_true.1 (by decide))
      (Or.inr ⟨"C:\\Program Files/Git".toList, '\\', rfl, rfl⟩) rfl (Or.inr rfl)
      (List.all_eq_true.1 (by decide))
  have hdigits : IsVersion "5.4.".toList := List.all_eq_true.1 (by decide)
  have hshell := hspelling "bash" "\t C:\\Program Files/Git\\BASH.Exe " hplain hspells
  have hinterpreter := hversion ("lua", ["-e"]) (by decide) "5.4." hdigits
  rw [hshell, hinterpreter]
  decide +kernel

end PluginSandbox
