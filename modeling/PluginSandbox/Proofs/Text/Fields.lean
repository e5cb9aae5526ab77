import PluginSandbox.Text.Split

/-!
# Texts made of fields

A text is often a list of fields with a separator between them. Cutting such a
text at the separator gives the fields back, and a doubled separator is found
where one was put. No field is empty exactly if separators stand neither at the
ends nor next to each other. What holds of a single field, and of a text behind one
more field, holds of every text.
-/

namespace PluginSandbox.Text

variable {sep : Char}

/-- Induction over the fields of a text: it is a single field, or goes on behind one. -/
theorem fields_induction {motive : List Char → Prop} (last : ∀ f, sep ∉ f → motive f)
    (more : ∀ f cs, sep ∉ f → motive cs → motive (f ++ sep :: cs)) (cs : List Char) :
    motive cs := by
  cases hsplit : splitOnce sep cs with
  | none => exact last cs (splitOnce_eq_none.1 hsplit)
  | some parts =>
    obtain ⟨hcs, hfield⟩ := splitOnce_eq_some.1 hsplit
    have hshort : parts.2.length < cs.length := by
      rw [hcs, List.length_append, List.length_cons]
      omega
    rw [hcs]
    exact more parts.1 parts.2 hfield (fields_induction last more parts.2)
  termination_by cs.length

/-- The fields of a text are parts of it. -/
theorem isInfix_of_mem_splitOn {f cs : List Char} (h : f ∈ cs.splitOn sep) : f <:+: cs := by
  induction cs using fields_induction with
  | last g hg =>
    rw [List.splitOn_eq_singleton hg] at h
    obtain rfl := List.mem_singleton.1 h
    exact List.infix_rfl
  | more g cs hg ih =>
    rw [List.splitOn_append_cons_self_of_not_mem hg] at h
    rcases List.mem_cons.1 h with rfl | h
    · exact (List.prefix_append f (sep :: cs)).isInfix
    · exact (ih h).trans ⟨g ++ [sep], [], by simp⟩

/-- A character of joined fields separates them or belongs to one. -/
theorem mem_intercalate {fields : List (List Char)} {c : Char}
    (h : c ∈ [sep].intercalate fields) : c = sep ∨ ∃ f ∈ fields, c ∈ f := by
  induction fields with
  | nil => simp at h
  | cons f fs ih =>
    cases fs with
    | nil =>
      rw [List.intercalate_singleton] at h
      exact Or.inr ⟨f, by simp, h⟩
    | cons g gs =>
      rw [List.intercalate_cons_cons] at h
      simp only [List.append_assoc, List.mem_append, List.mem_singleton] at h
      rcases h with h | rfl | h
      · exact Or.inr ⟨f, by simp, h⟩
      · exact Or.inl rfl
      · rcases ih h with rfl | ⟨x, hx, hc⟩
        · exact Or.inl rfl
        · exact Or.inr ⟨x, List.mem_cons_of_mem _ hx, hc⟩

theorem splitOnPair_cons_of_ne {c : Char} (hc : c ≠ sep) (cs : List Char) :
    splitOnPair sep (c :: cs) = (splitOnPair sep cs).map fun p => (c :: p.1, p.2) := by
  cases cs with
  | nil => rfl
  | cons d cs => rw [splitOnPair, if_neg (fun h => hc h.1)]

/-- The two parts and the doubled separator between them are the text. -/
theorem splitOnPair_eq_some {cs front back : List Char}
    (h : splitOnPair sep cs = some (front, back)) : cs = front ++ sep :: sep :: back := by
  fun_induction splitOnPair sep cs generalizing front with
  | case1 => contradiction
  | case2 => contradiction
  | case3 c d cs hsep =>
    obtain ⟨rfl, rfl⟩ := hsep
    obtain ⟨rfl, rfl⟩ := Prod.mk.inj (Option.some.inj h)
    rfl
  | case4 c d cs _ ih =>
    obtain ⟨parts, hparts, heq⟩ := Option.map_eq_some_iff.1 h
    obtain ⟨rfl, rfl⟩ := Prod.mk.inj heq
    rw [ih hparts]
    rfl

theorem splitOnPair_append_of_notMem {front : List Char} (h : sep ∉ front) (cs : List Char) :
    splitOnPair sep (front ++ cs) = (splitOnPair sep cs).map fun p => (front ++ p.1, p.2) := by
  induction front with
  | nil => simp
  | cons c front ih =>
    simp only [List.mem_cons, not_or] at h
    rw [List.cons_append, splitOnPair_cons_of_ne (Ne.symm h.1), ih h.2]
    simp [Function.comp_def]

theorem splitOnPair_of_notMem {cs : List Char} (h : sep ∉ cs) : splitOnPair sep cs = none := by
  have hsplit := splitOnPair_append_of_notMem h []
  rwa [List.append_nil, splitOnPair, Option.map_none] at hsplit

/-- A separator by itself is not doubled. -/
theorem splitOnPair_of_once {front back : List Char} (hfront : sep ∉ front) (hback : sep ∉ back) :
    splitOnPair sep (front ++ sep :: back) = none := by
  rw [splitOnPair_append_of_notMem hfront]
  cases back with
  | nil => rfl
  | cons c back =>
    have hc : c ≠ sep := by
      rintro rfl
      simp at hback
    rw [splitOnPair, if_neg fun h => hc h.2, splitOnPair_of_notMem hback]
    rfl

/-- Joined fields without an empty one hold no doubled separator, and do not end in one: the first
doubled separator of a text that goes on with one is the one behind the fields. -/
theorem splitOnPair_intercalate {fields : List (List Char)}
    (h : ∀ f ∈ fields, f ≠ [] ∧ sep ∉ f) :
    splitOnPair sep ([sep].intercalate fields) = none ∧
      ∀ back, splitOnPair sep ([sep].intercalate fields ++ sep :: sep :: back) =
        some ([sep].intercalate fields, back) := by
  induction fields with
  | nil => simp [splitOnPair]
  | cons f fs ih =>
    obtain ⟨hf, hfs⟩ := List.forall_mem_cons.1 h
    cases fs with
    | nil =>
      rw [List.intercalate_singleton]
      refine ⟨?_, fun back => ?_⟩
      · exact splitOnPair_of_notMem hf.2
      · simp [splitOnPair_append_of_notMem hf.2, splitOnPair]
    | cons g gs =>
      obtain ⟨hnone, hsome⟩ := ih hfs
      obtain ⟨hg, -⟩ := List.forall_mem_cons.1 hfs
      obtain ⟨d, g', rfl⟩ := List.exists_cons_of_ne_nil hg.1
      have hd : d ≠ sep := fun e => hg.2 (by simp [e])
      -- The fields behind the first one start with a character of their own.
      obtain ⟨rest, hrest⟩ : ∃ rest, [sep].intercalate ((d :: g') :: gs) = d :: rest := by
        cases gs with
        | nil => exact ⟨g', by rw [List.intercalate_singleton]⟩
        | cons x xs => exact ⟨_, by rw [List.intercalate_cons_cons]; rfl⟩
      rw [List.intercalate_cons_cons, hrest]
      rw [hrest] at hnone hsome
      have hstep (cs : List Char) : splitOnPair sep (sep :: d :: cs) =
          (splitOnPair sep (d :: cs)).map fun p => (sep :: p.1, p.2) := by
        rw [splitOnPair, if_neg (fun h => hd h.2)]
      refine ⟨?_, fun back => ?_⟩
      · simp only [List.append_assoc, List.singleton_append]
        rw [splitOnPair_append_of_notMem hf.2, hstep, hnone]
        rfl
      · have hb := hsome back
        simp only [List.append_assoc, List.nil_append, List.cons_append] at hb ⊢
        rw [splitOnPair_append_of_notMem hf.2, hstep, hb]
        rfl

/-- A character other than the separator behind a text stands behind its last field. -/
theorem splitOn_append_singleton {c : Char} (hc : c ≠ sep) (cs : List Char) :
    ∃ fields f, (cs ++ [c]).splitOn sep = fields ++ [f ++ [c]] := by
  induction cs with
  | nil => exact ⟨[], [], List.splitOn_eq_singleton (by simpa using Ne.symm hc)⟩
  | cons d cs ih =>
    obtain ⟨fields, f, h⟩ := ih
    rw [List.cons_append, List.splitOn_cons_eq_if_modifyHead, h]
    split
    · exact ⟨[] :: fields, f, rfl⟩
    · cases fields with
      | nil => exact ⟨[], d :: f, rfl⟩
      | cons g gs => exact ⟨(d :: g) :: gs, f, rfl⟩

theorem splitOnPair_append_singleton {c : Char} (hc : c ≠ sep) (cs : List Char) :
    splitOnPair sep (cs ++ [c]) = (splitOnPair sep cs).map fun p => (p.1, p.2 ++ [c]) := by
  fun_induction splitOnPair sep cs with
  | case1 => rfl
  | case2 d => simp [splitOnPair, hc]
  | case3 d e cs h => simp [splitOnPair, h]
  | case4 d e cs h ih =>
    rw [List.cons_append] at ih
    rw [List.cons_append, List.cons_append, splitOnPair, if_neg h, ih]
    simp [Function.comp_def]

/-! ## Empty fields -/

theorem hasInfix_iff {part cs : List Char} : hasInfix part cs = true ↔ part <:+: cs := by
  induction cs with
  | nil => simp [hasInfix]
  | cons c cs ih =>
    rw [hasInfix, Bool.or_eq_true, List.isPrefixOf_iff_prefix, ih, List.infix_cons_iff]

/-- A text of which no field is empty is not empty, and separators stand neither at its ends nor
next to each other. -/
theorem not_sep_of_fields {cs : List Char} (h : ∀ f ∈ cs.splitOn sep, f ≠ []) :
    cs ≠ [] ∧ ¬[sep] <+: cs ∧ ¬[sep] <:+ cs ∧ ¬[sep, sep] <:+: cs := by
  have hnil : [] ∉ cs.splitOn sep := fun hmem => h [] hmem rfl
  refine ⟨?_, ?_, ?_, ?_⟩
  · rintro rfl
    simp at hnil
  · rintro ⟨back, rfl⟩
    simp [List.splitOn_cons_eq_if_modifyHead] at hnil
  · rintro ⟨front, rfl⟩
    simp [List.splitOn_append_cons_self] at hnil
  · rintro ⟨front, back, rfl⟩
    simp [List.splitOn_append_cons_self, List.splitOn_cons_eq_if_modifyHead] at hnil

/-- Characters other than the separator in front of a text make no field empty. -/
theorem field_ne_nil_append {front cs : List Char} (hfront : sep ∉ front)
    (h : ∀ f ∈ cs.splitOn sep, f ≠ []) : ∀ f ∈ (front ++ cs).splitOn sep, f ≠ [] := by
  induction front with
  | nil => exact h
  | cons c front ih =>
    simp only [List.mem_cons, not_or] at hfront
    obtain ⟨hc, hfront⟩ := hfront
    have hrest := ih hfront
    rw [List.cons_append, List.splitOn_cons_eq_if_modifyHead, if_neg (by simpa using Ne.symm hc)]
    cases hfields : (front ++ cs).splitOn sep with
    | nil => simp
    | cons g gs =>
      rw [hfields] at hrest
      simp only [List.modifyHead_cons, List.mem_cons, forall_eq_or_imp]
      exact ⟨List.cons_ne_nil c g, (List.forall_mem_cons.1 hrest).2⟩

/-- No field is empty if separators stand neither at the ends nor next to each other. -/
theorem field_ne_nil (cs : List Char) (hne : cs ≠ []) (hfront : ¬[sep] <+: cs)
    (hback : ¬[sep] <:+ cs) (hgap : ¬[sep, sep] <:+: cs) : ∀ f ∈ cs.splitOn sep, f ≠ [] := by
  match cs with
  | [] => contradiction
  | [c] =>
    have hc : sep ∉ [c] := by
      rintro hmem
      obtain rfl := List.mem_singleton.1 hmem
      exact hfront (List.prefix_refl _)
    simp [List.splitOn_eq_singleton hc]
  | c :: d :: ds =>
    have hc : sep ∉ [c] := by
      rintro hmem
      obtain rfl := List.mem_singleton.1 hmem
      exact hfront ⟨d :: ds, rfl⟩
    by_cases hd : d = sep
    · -- The first field ends here, and the others are those of the text behind the separator.
      rw [hd] at hback hgap ⊢
      have hrest : ∀ f ∈ ds.splitOn sep, f ≠ [] := by
        refine field_ne_nil ds ?_ ?_ ?_ ?_
        · rintro rfl
          exact hback ⟨[c], rfl⟩
        · rintro ⟨back, rfl⟩
          exact hgap ⟨[c], back, rfl⟩
        · exact fun h => hback (h.trans ⟨[c, sep], rfl⟩)
        · exact fun h => hgap (h.trans ⟨[c, sep], [], by simp⟩)
      have hsplit : (c :: sep :: ds).splitOn sep = [c] :: ds.splitOn sep :=
        List.splitOn_append_cons_self_of_not_mem hc ds
      rw [hsplit]
      exact List.forall_mem_cons.2 ⟨List.cons_ne_nil c [], hrest⟩
    · have hrest : ∀ f ∈ (d :: ds).splitOn sep, f ≠ [] := by
        refine field_ne_nil (d :: ds) (List.cons_ne_nil d ds) ?_ ?_ ?_
        · rintro ⟨back, heq⟩
          exact hd (List.cons.inj heq).1.symm
        · exact fun h => hback (h.trans (List.suffix_cons c _))
        · exact fun h => hgap (h.trans (List.suffix_cons c _).isInfix)
      exact field_ne_nil_append hc hrest
  termination_by cs.length

end PluginSandbox.Text
