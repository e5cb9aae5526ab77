import PluginSandbox.Command

/-!
# Arguments of invocations

The program alone decides which class its dangerous invocations have, and single arguments
decide whether an invocation is one of them: it is as soon as one of its arguments gives it
away. So the class depends on the set of the arguments, and more of them never make an
invocation look harmless. Every shell and every interpreter has an argument that gives it
away, so the name alone decides whether a command can be told to run code.

## Main definitions

* `alarm`: the class of the dangerous invocations of a program.
* `givesAway`: the arguments that make them dangerous.
* `CanRunCode`: a command that is a shell or an interpreter with some arguments.

## Main statements

* `classifyName_eq`: the class of an invocation by its single arguments.
* `canRunCode_iff`: which commands can be told to run code.
* `classify_arguments`: more, other and reordered arguments.
-/

namespace PluginSandbox

open Text

/-- The class of the dangerous invocations of a program by name. -/
def alarm (name : List Char) : CommandClass :=
  if isShell name then .shell else if isInterpreter name then .interpreter else .suspicious

/-- An argument that makes an invocation of a program by name dangerous. -/
def givesAway (name : List Char) (arg : String) : Bool :=
  if isShell name then true
  else if isNamed awkFamily name then startsWithAny awkStarts (trim arg.toList)
  else match interpreterOptions? name with
    | some options => startsWithAny options arg.toList
    | none => codeOptions.contains arg

/-- An invocation without arguments is safe, whatever the program. -/
theorem classifyName_nil (name : List Char) : classifyName name [] = .safe := by
  simp only [classifyName, List.isEmpty_nil, List.any_nil, Bool.not_true, Bool.and_false]
  cases interpreterOptions? name <;> simp

/-- An invocation is dangerous exactly if one of its arguments gives it away. -/
theorem classifyName_eq (name : List Char) (args : List String) :
    classifyName name args = if args.any (givesAway name) then alarm name else .safe := by
  cases args with
  | nil => exact classifyName_nil name
  | cons arg args =>
    by_cases hshell : isShell name = true
    · simp [classifyName, givesAway, alarm, hshell]
    · by_cases hawk : isNamed awkFamily name = true
      · simp [classifyName, givesAway, alarm, hshell, hawk, isInterpreter]
      · cases hoptions : interpreterOptions? name <;>
          simp [classifyName, givesAway, alarm, hshell, hawk, isInterpreter, hoptions]

/-! ## Commands that can run code -/

section Names

variable {name : List Char}

/-- Every interpreter has an option in front of code. -/
theorem options_ne_nil {options : List String} (h : interpreterOptions? name = some options) :
    options ≠ [] := by
  have htable : ∀ i ∈ interpreters, i.2 ≠ [] := by decide
  have hknown {n : List Char} (hn : optionsOf? n = some options) : options ≠ [] := by
    obtain ⟨i, hi, rfl⟩ := Option.map_eq_some_iff.1 hn
    exact htable i (List.mem_of_find?_eq_some hi)
  rw [interpreterOptions?] at h
  split at h
  · obtain rfl := Option.some.inj h
    exact hknown ‹_›
  · exact hknown h

theorem startsWithAny_of_mem {starts : List String} {start : String} (h : start ∈ starts) :
    startsWithAny starts start.toList = true :=
  List.any_eq_true.2 ⟨start, h, List.isPrefixOf_iff_prefix.2 (List.prefix_refl _)⟩

/-- Every shell and every interpreter is given away by some argument: whatever it is, a program as
text, or an option in front of code. -/
theorem exists_givesAway (h : isShell name = true ∨ isInterpreter name = true) :
    ∃ arg, givesAway name arg = true := by
  by_cases hshell : isShell name = true
  · exact ⟨"", if_pos hshell⟩
  · have hinterpreter := h.resolve_left hshell
    rw [isInterpreter, Bool.or_eq_true] at hinterpreter
    by_cases hawk : isNamed awkFamily name = true
    · refine ⟨"BEGIN\x7b", ?_⟩
      rw [givesAway, if_neg hshell, if_pos hawk]
      decide
    · obtain ⟨options, hoptions⟩ := Option.isSome_iff_exists.1 (hinterpreter.resolve_left hawk)
      obtain ⟨option, hoption⟩ := List.exists_mem_of_ne_nil _ (options_ne_nil hoptions)
      refine ⟨option, ?_⟩
      rw [givesAway, if_neg hshell, if_neg hawk, hoptions]
      exact startsWithAny_of_mem hoption

theorem alarm_eq_iff : (alarm name = .shell ∨ alarm name = .interpreter) ↔
    isShell name = true ∨ isInterpreter name = true := by
  rw [alarm]
  by_cases hshell : isShell name = true
  · simp [hshell]
  · by_cases hinterpreter : isInterpreter name = true <;> simp [hshell, hinterpreter]

end Names

variable {command : String} {a b : List String}

/-- With some arguments the command is a shell that is given something to do, or an interpreter
that is given code. -/
def CanRunCode (command : String) : Prop :=
  ∃ args, classify command args = .shell ∨ classify command args = .interpreter

/-- The commands that can be told to run code are those with the name of a shell or of an
interpreter. -/
theorem canRunCode_iff : CanRunCode command ↔
    isShell (baseName command.toList) = true ∨ isInterpreter (baseName command.toList) = true := by
  rw [← alarm_eq_iff]
  constructor
  · rintro ⟨args, hclass⟩
    rw [classify, classifyName_eq] at hclass
    by_cases hany : args.any (givesAway (baseName command.toList)) = true
    · rwa [if_pos hany] at hclass
    · rw [if_neg hany] at hclass
      rcases hclass with hclass | hclass <;> contradiction
  · intro halarm
    obtain ⟨arg, harg⟩ := exists_givesAway (alarm_eq_iff.1 halarm)
    refine ⟨[arg], ?_⟩
    have hany : [arg].any (givesAway (baseName command.toList)) = true :=
      List.any_eq_true.2 ⟨arg, List.mem_singleton_self arg, harg⟩
    rwa [classify, classifyName_eq, if_pos hany]

/-! ## More arguments -/

/-- Any of the arguments of a dangerous invocation may be the one that gives it away, and it still
does so among others. -/
theorem classify_eq_of_subset (hsub : a ⊆ b) (hdangerous : classify command a ≠ .safe) :
    classify command b = classify command a := by
  rw [classify, classifyName_eq] at hdangerous
  by_cases ha : a.any (givesAway (baseName command.toList)) = true
  · obtain ⟨arg, harg, hgives⟩ := List.any_eq_true.1 ha
    have hb : b.any (givesAway (baseName command.toList)) = true :=
      List.any_eq_true.2 ⟨arg, hsub harg, hgives⟩
    rw [classify, classify, classifyName_eq, classifyName_eq, if_pos ha, if_pos hb]
  · exact absurd (if_neg ha) hdangerous

/-- **More arguments hide nothing.** If every argument of a dangerous invocation is among others, in
whatever order and however often, then the program with the others is of the same class; and if
these are no more arguments than those, the class is the same in any case. -/
theorem classify_arguments (command : String) (a b : List String) (hsub : a ⊆ b) :
    (classify command a ≠ .safe → classify command b = classify command a) ∧
    (b ⊆ a → classify command b = classify command a) := by
  refine ⟨classify_eq_of_subset hsub, fun hback => ?_⟩
  by_cases ha : classify command a = .safe
  · by_cases hb : classify command b = .safe
    · rw [ha, hb]
    · exact (classify_eq_of_subset hback hb).symm
  · exact classify_eq_of_subset hsub ha

/-- Code in front of and behind other arguments, and a script with its arguments reordered. -/
theorem classify_arguments_surrounded :
    classify "/usr/bin/Python3.12" ["-B", "-cimport os", "--", "-B"] = .interpreter ∧
      classify "gawk" ["f", "{print}", "f"] = classify "gawk" ["{print}", "f"] := by
  have hcode := classify_arguments "/usr/bin/Python3.12" ["-cimport os"]
    ["-B", "-cimport os", "--", "-B"] (by decide)
  have hscript := classify_arguments "gawk" ["{print}", "f"] ["f", "{print}", "f"] (by decide)
  have hinterpreter : classify "/usr/bin/Python3.12" ["-cimport os"] = .interpreter := by
    decide +kernel
  refine ⟨(hcode.1 ?_).trans hinterpreter, hscript.2 (by decide)⟩
  rw [hinterpreter]
  decide

end PluginSandbox
