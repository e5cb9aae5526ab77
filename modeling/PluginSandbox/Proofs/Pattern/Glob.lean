import PluginSandbox.Pattern.Glob

/-!
# Globs that name a directory

A text without `*`, `?` and `[` is a glob of literal characters, which stand for
themselves. Followed by a segment `**` it stands for everything below the directory
that the text names.

## Main definitions

* `Glob.IsPlain`: a text that has no wildcard in it.
* `Glob.literals`: the tokens of a plain text.

## Main statements

* `Glob.readFrom_append`: a plain text in front of a pattern is read on its own.
* `Glob.fits_literals_append`: literal characters are taken off the text.
* `globMatches_below_iff`: the texts that a directory stands for.
-/

namespace PluginSandbox

namespace Glob

/-- No character of the text starts a wildcard. -/
def IsPlain (cs : List Char) : Prop := ∀ c ∈ cs, c ≠ '*' ∧ c ≠ '?' ∧ c ≠ '['

-- Core's instance by name: that of a finite type would go through all characters there are.
instance (cs : List Char) : Decidable (IsPlain cs) :=
  List.decidableBAll (fun c => c ≠ '*' ∧ c ≠ '?' ∧ c ≠ '[') cs

/-- The tokens of a plain text. -/
def literals (cs : List Char) : List Token := cs.map .literal

/-- Whether a segment starts behind a text, if one does in front of it. -/
def freshAfter (fresh : Bool) (cs : List Char) : Bool := cs.foldl (fun _ c => c == '/') fresh

theorem readFrom_cons {c : Char} (hc : c ≠ '*' ∧ c ≠ '?' ∧ c ≠ '[') (fresh : Bool)
    (cs : List Char) :
    readFrom (.tokens fresh) (c :: cs) =
      (readFrom (.tokens (c == '/')) cs).map (.literal c :: ·) := by
  obtain ⟨hstar, hmark, hclass⟩ := hc
  simp [readFrom, hstar, hclass]

/-- A plain text in front of a pattern is read as its characters. -/
theorem readFrom_append {cs : List Char} (h : IsPlain cs) (fresh : Bool) (rest : List Char) :
    readFrom (.tokens fresh) (cs ++ rest) =
      (readFrom (.tokens (freshAfter fresh cs)) rest).map (literals cs ++ ·) := by
  induction cs generalizing fresh with
  | nil => simp [freshAfter, literals]
  | cons c cs ih =>
    obtain ⟨hc, hcs⟩ := List.forall_mem_cons.1 h
    rw [List.cons_append, readFrom_cons hc, ih hcs, Option.map_map]
    rfl

/-- Literal characters are taken off the front of a text. -/
theorem fits_literals_append (cs : List Char) (ts : List Token) (text : List Char) :
    fits (literals cs ++ ts) text = true ↔ ∃ rest, text = cs ++ rest ∧ fits ts rest = true := by
  induction cs generalizing text with
  | nil => simp [literals]
  | cons c cs ih =>
    cases text with
    | nil => simp [literals, fits]
    | cons d text =>
      have hstep : fits (literals (c :: cs) ++ ts) (d :: text) =
          (c == d && fits (literals cs ++ ts) text) := rfl
      rw [hstep, Bool.and_eq_true, beq_iff_eq, ih]
      constructor
      · rintro ⟨rfl, rest, rfl, hrest⟩
        exact ⟨rest, rfl, hrest⟩
      · rintro ⟨rest, htext, hrest⟩
        obtain ⟨rfl, rfl⟩ := List.cons.inj htext
        exact ⟨rfl, rest, rfl, hrest⟩

/-- A plain text before a segment `**` is read as its characters and that segment. -/
theorem read_below {cs : List Char} (h : IsPlain cs) :
    read (cs ++ ['/', '*', '*']) = some (literals (cs ++ ['/']) ++ [.anyPath]) := by
  have hslash : IsPlain (cs ++ ['/']) := by
    intro c hc
    rcases List.mem_append.1 hc with hc | hc
    · exact h c hc
    · rw [List.mem_singleton.1 hc]
      decide
  have hsplit : cs ++ ['/', '*', '*'] = cs ++ ['/'] ++ ['*', '*'] := by simp
  have hfresh : freshAfter true (cs ++ ['/']) = true := by simp [freshAfter]
  rw [read, hsplit, readFrom_append hslash, hfresh]
  rfl

end Glob

/-- A directory followed by a segment `**` stands for what goes on with it and a slash. -/
theorem globMatches_below_iff {dir : String} (h : Glob.IsPlain dir.toList) (text : String) :
    globMatches (dir ++ "/**") text = true ↔ dir.toList ++ ['/'] <+: text.toList := by
  have hpattern : (dir ++ "/**").toList = dir.toList ++ ['/', '*', '*'] := by simp
  rw [globMatches, hpattern, Glob.read_below h, Option.any_some, Glob.accepts_eq_fits,
    Glob.fits_literals_append]
  constructor
  · rintro ⟨rest, htext, -⟩
    exact ⟨rest, htext.symm⟩
  · rintro ⟨rest, htext⟩
    exact ⟨rest, htext.symm, rfl⟩

end PluginSandbox
