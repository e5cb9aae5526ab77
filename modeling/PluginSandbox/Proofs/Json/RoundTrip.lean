import PluginSandbox.Json.Reader
import PluginSandbox.Proofs.Json.Literal

/-!
# JSON read back

What is written for a tree leads the reader, from wherever it waits for a value, to where
it has that value, so the text of a tree is read back as the tree. Numbers have to be
integers of 64 bits for that, since others are not kept exactly.

## Main definitions

* `Data.IsExact`: trees of which JSON keeps every part.
* `Json.resume`: where an input leads from a state.
* `Json.Awaits`: states in which a value may come.

## Main statements

* `Json.resume_print`: where the text of a tree leads.
* `Json.read_write`, `Json.readBytes_write`: the text of a tree and its bytes are read back.
-/

namespace PluginSandbox

namespace Data

mutual

/-- Every part of the tree is kept in its text. -/
def IsExact : Data → Prop
  | .int n => Json.IsWord n
  | .list items => IsExactList items
  | .table fields => IsExactFields fields
  | .null | .bool _ | .text _ => True
  | .real _ _ | .garbled => False

/-- Every value of a list is exact. -/
def IsExactList : List Data → Prop
  | [] => True
  | d :: ds => d.IsExact ∧ IsExactList ds

/-- Every value of a list of fields is exact. -/
def IsExactFields : List (String × Data) → Prop
  | [] => True
  | (_, d) :: fs => d.IsExact ∧ IsExactFields fs

end

end Data

namespace Json

open Text

variable {s : State} {stack : List Frame}

/-! ## From tokens to states -/

/-- Where an input leads from a state. -/
def resume (s : State) (input : List Symbol) : Option State :=
  (tokens input).bind fun ts => ts.foldlM step s

/-- An input that starts with a token leads on from where the token leads. -/
theorem resume_of_tokens {input rest : List Symbol} {t : Token}
    (h : tokens input = (tokens rest).map (t :: ·)) (s : State) :
    resume s input = (step s t).bind fun s' => resume s' rest := by
  rw [resume, h]
  cases hrest : tokens rest with
  | none => simp [resume, hrest]
  | some ts => simp [resume, hrest]

theorem tokens_punctuation {c : Char} {t : Token} (hspace : isSpace c = false)
    (ht : punctuation? c = some t) (rest : List Symbol) :
    tokens (some c :: rest) = (tokens rest).map (t :: ·) := by
  rw [tokens]
  simp [hspace, ht]

/-- A string literal is one token. -/
theorem tokens_quote (text : String) (rest : List Symbol) :
    tokens ((quote text).map some ++ rest) = (tokens rest).map (.text (some text) :: ·) := by
  obtain ⟨pieces, hread, hspell⟩ := readPieces_escape text.toList rest
  have hquote : (quote text).map some ++ rest =
      some '"' :: ((escape text.toList).map some ++ some '"' :: rest) := by simp [quote]
  have hspace : isSpace '"' = false := by decide
  have hmark : punctuation? '"' = none := rfl
  rw [hquote, tokens]
  simp only [hspace, hmark, Bool.false_eq_true, if_false, if_true]
  split
  case h_1 pieces' rest' h =>
    obtain ⟨rfl, rfl⟩ : pieces = pieces' ∧ rest = rest' := by simpa [hread] using h
    rw [hspell, Option.map_some, String.ofList_toList]
  case h_2 h =>
    rw [hread] at h
    contradiction

/-! ### Runs of scalar characters -/

theorem takeScalar_append {cs : List Char} (h : ∀ c ∈ cs, isScalarChar c = true)
    {rest : List Symbol} (hrest : takeScalar rest = []) :
    takeScalar (cs.map some ++ rest) = cs := by
  induction cs with
  | nil => exact hrest
  | cons c cs ih =>
    obtain ⟨hc, hcs⟩ := List.forall_mem_cons.1 h
    simp [takeScalar, hc, ih hcs]

theorem dropScalar_of_takeScalar {rest : List Symbol} (h : takeScalar rest = []) :
    dropScalar rest = rest := by
  match rest with
  | [] => rfl
  | none :: _ => rfl
  | some c :: cs =>
    by_cases hc : isScalarChar c = true
    · simp [takeScalar, hc] at h
    · simp [dropScalar, hc]

theorem dropScalar_append {cs : List Char} (h : ∀ c ∈ cs, isScalarChar c = true)
    {rest : List Symbol} (hrest : takeScalar rest = []) :
    dropScalar (cs.map some ++ rest) = rest := by
  induction cs with
  | nil => exact dropScalar_of_takeScalar hrest
  | cons c cs ih =>
    obtain ⟨hc, hcs⟩ := List.forall_mem_cons.1 h
    simp [dropScalar, hc, ih hcs]

/-- A character of a scalar is no blank and starts no other token. -/
theorem not_blank_of_isScalarChar {c : Char} (hc : isScalarChar c = true) :
    isSpace c = false ∧ punctuation? c = none ∧ c ≠ '"' := by
  have hne : ∀ x, isScalarChar x = false → c ≠ x := by
    rintro x hx rfl
    exact Bool.false_ne_true (hx.symm.trans hc)
  refine ⟨?_, ?_, hne _ (by decide)⟩
  · simp [isSpace, hne ' ' (by decide), hne '\t' (by decide), hne '\n' (by decide),
      hne '\r' (by decide)]
  · rw [punctuation?]
    all_goals
      rintro rfl
      exact absurd hc (by decide)

/-- A scalar that is no string is one token, if what follows does not go on with it. -/
theorem tokens_scalar {cs : List Char} {d : Data} (hne : cs ≠ [])
    (h : ∀ c ∈ cs, isScalarChar c = true) (hd : readScalar cs = some d) {rest : List Symbol}
    (hrest : takeScalar rest = []) :
    tokens (cs.map some ++ rest) = (tokens rest).map (.scalar d :: ·) := by
  obtain ⟨c, cs, rfl⟩ := List.exists_cons_of_ne_nil hne
  obtain ⟨hc, hcs⟩ := List.forall_mem_cons.1 h
  obtain ⟨hspace, hmark, hquote⟩ := not_blank_of_isScalarChar hc
  rw [List.map_cons, List.cons_append, tokens]
  simp only [hspace, hmark, hquote, takeScalar_append hcs hrest, dropScalar_append hcs hrest, hd,
    Bool.false_eq_true, if_false]

/-! ## Where the text of a tree leads -/

/-- A value may come, for the innermost of the open containers. -/
def Awaits (s : State) (stack : List Frame) : Prop :=
  ∀ t, t ≠ .closeList → step s t = startValue stack t

theorem awaits_value (stack : List Frame) : Awaits (.value stack) stack := fun _ _ => rfl

theorem awaits_firstItem (stack : List Frame) :
    Awaits (.firstItem stack) (.list [] :: stack) := by
  intro t ht
  cases t
  case closeList => exact absurd rfl ht
  all_goals rfl

/-- A scalar is delivered where a value may come. -/
theorem resume_scalar (hs : Awaits s stack) (cs : List Char) {d : Data} (hne : cs ≠ [])
    (h : ∀ c ∈ cs, isScalarChar c = true) (hd : readScalar cs = some d) {rest : List Symbol}
    (hrest : takeScalar rest = []) :
    resume s (cs.map some ++ rest) = resume (deliver d stack) rest := by
  rw [resume_of_tokens (tokens_scalar hne h hd hrest), hs (.scalar d) nofun]
  rfl

theorem resume_quote (s : State) (text : String) (rest : List Symbol) :
    resume s ((quote text).map some ++ rest) =
      (step s (.text (some text))).bind fun s' => resume s' rest :=
  resume_of_tokens (tokens_quote text rest) s

theorem resume_punctuation (c : Char) {t : Token} (hspace : isSpace c = false)
    (ht : punctuation? c = some t) (s : State) (rest : List Symbol) :
    resume s (some c :: rest) = (step s t).bind fun s' => resume s' rest :=
  resume_of_tokens (tokens_punctuation hspace ht rest) s

/-- A name and its colon lead to the value of the field. -/
theorem resume_name {s : State} {fields : Fields} {name : String}
    (hs : step s (.text (some name)) = some (.colon fields (some name) stack))
    (rest : List Symbol) :
    resume s ((quote name).map some ++ some ':' :: rest) =
      resume (.value (.table fields (some name) :: stack)) rest := by
  rw [resume_quote, hs, Option.bind_some, resume_punctuation ':' (by decide) rfl]
  rfl

/-- No text of further items goes on with a scalar. -/
theorem takeScalar_printItems (ds : List Data) (rest : List Symbol) :
    takeScalar ((printItems ds).map some ++ rest) = [] := by
  cases ds <;> rw [printItems] <;> rfl

/-- No text of further fields goes on with a scalar. -/
theorem takeScalar_printFields (fs : List (String × Data)) (rest : List Symbol) :
    takeScalar ((printFields fs).map some ++ rest) = [] := by
  cases fs <;> rw [printFields] <;> rfl

-- By recursion on the tree. The rest of the input and the open containers are arbitrary, so that
-- each part can be taken off in front of the text of the parts behind it.
mutual

/-- The text of a tree leads to where the tree is delivered. -/
theorem resume_print : ∀ (d : Data), d.IsExact → ∀ {s : State} {stack : List Frame},
    Awaits s stack → ∀ {rest : List Symbol}, takeScalar rest = [] →
    resume s ((print d).map some ++ rest) = resume (deliver d stack) rest
  | .null, _, s, stack, hs, rest, hrest =>
    resume_scalar hs "null".toList (by decide) (List.all_eq_true.1 rfl) rfl hrest
  | .bool true, _, s, stack, hs, rest, hrest =>
    resume_scalar hs "true".toList (by decide) (List.all_eq_true.1 rfl) rfl hrest
  | .bool false, _, s, stack, hs, rest, hrest =>
    resume_scalar hs "false".toList (by decide) (List.all_eq_true.1 rfl) rfl hrest
  | .int n, hd, s, stack, hs, rest, hrest =>
    resume_scalar hs (printInt n) (printInt_ne_nil n) (isScalarChar_printInt n)
      (readScalar_printInt hd) hrest
  | .text t, _, s, stack, hs, rest, hrest => by
    rw [print, resume_quote, hs (.text (some t)) nofun]
    rfl
  | .list [], _, s, stack, hs, rest, hrest => by
    rw [print, List.map_cons, List.cons_append, resume_punctuation '[' (by decide) rfl,
      hs .openList nofun]
    exact resume_punctuation ']' (by decide) rfl _ rest
  | .list (d :: ds), hd, s, stack, hs, rest, hrest => by
    have hsplit : (print (.list (d :: ds))).map some ++ rest =
        some '[' :: ((print d).map some ++ ((printItems ds).map some ++ rest)) := by simp [print]
    rw [hsplit, resume_punctuation '[' (by decide) rfl, hs .openList nofun]
    change resume (.firstItem stack) _ = _
    rw [resume_print d hd.1 (awaits_firstItem stack) (takeScalar_printItems ds rest)]
    exact resume_printItems ds hd.2 [d] stack hrest
  | .table [], _, s, stack, hs, rest, hrest => by
    rw [print, List.map_cons, List.cons_append, resume_punctuation '\x7b' (by decide) rfl,
      hs .openTable nofun]
    exact resume_punctuation '\x7d' (by decide) rfl _ rest
  | .table ((n, d) :: fs), hd, s, stack, hs, rest, hrest => by
    have hsplit : (print (.table ((n, d) :: fs))).map some ++ rest = some '\x7b' ::
        ((quote n).map some ++ some ':' ::
          ((print d).map some ++ ((printFields fs).map some ++ rest))) := by simp [print]
    rw [hsplit, resume_punctuation '\x7b' (by decide) rfl, hs .openTable nofun]
    change resume (.firstName stack) _ = _
    rw [resume_name rfl, resume_print d hd.1 (awaits_value _) (takeScalar_printFields fs rest)]
    exact resume_printFields fs hd.2 [(n, d)] stack hrest

/-- The text of further items leads to where the list is delivered. -/
theorem resume_printItems : ∀ (ds : List Data), Data.IsExactList ds →
    ∀ (items : List Data) (stack : List Frame) {rest : List Symbol}, takeScalar rest = [] →
    resume (.afterItem items stack) ((printItems ds).map some ++ rest) =
      resume (deliver (.list (items.reverse ++ ds)) stack) rest
  | [], _, items, stack, rest, hrest => by
    rw [printItems, List.append_nil]
    exact resume_punctuation ']' (by decide) rfl _ rest
  | d :: ds, hds, items, stack, rest, hrest => by
    have hsplit : (printItems (d :: ds)).map some ++ rest =
        some ',' :: ((print d).map some ++ ((printItems ds).map some ++ rest)) := by
      simp [printItems]
    rw [hsplit, resume_punctuation ',' (by decide) rfl]
    change resume (.value (.list items :: stack)) _ = _
    rw [resume_print d hds.1 (awaits_value _) (takeScalar_printItems ds rest),
      deliver, resume_printItems ds hds.2 (d :: items) stack hrest]
    simp

/-- The text of further fields leads to where the table is delivered. -/
theorem resume_printFields : ∀ (fs : List (String × Data)), Data.IsExactFields fs →
    ∀ (fields : List (String × Data)) (stack : List Frame) {rest : List Symbol},
    takeScalar rest = [] →
    resume (.afterField (some fields) stack) ((printFields fs).map some ++ rest) =
      resume (deliver (.table (fields.reverse ++ fs)) stack) rest
  | [], _, fields, stack, rest, hrest => by
    rw [printFields, List.append_nil]
    exact resume_punctuation '\x7d' (by decide) rfl _ rest
  | (n, d) :: fs, hfs, fields, stack, rest, hrest => by
    have hsplit : (printFields ((n, d) :: fs)).map some ++ rest = some ',' ::
        ((quote n).map some ++ some ':' ::
          ((print d).map some ++ ((printFields fs).map some ++ rest))) := by simp [printFields]
    rw [hsplit, resume_punctuation ',' (by decide) rfl]
    change resume (.name (some fields) stack) _ = _
    rw [resume_name rfl, resume_print d hfs.1 (awaits_value _) (takeScalar_printFields fs rest),
      deliver, addField, resume_printFields fs hfs.2 ((n, d) :: fields) stack hrest]
    simp

end

/-! ## Texts and bytes -/

/-- The text of an exact tree is read back as the tree. -/
theorem readSymbols_print {d : Data} (hd : d.IsExact) :
    readSymbols ((print d).map some) = some d := by
  have hlead : resume (.value []) ((print d).map some ++ []) = resume (deliver d []) [] :=
    resume_print d hd (awaits_value []) rfl
  have hend : resume (deliver d []) [] = some (.done d) := by
    rw [resume, tokens]
    rfl
  rw [List.append_nil, hend, resume, Option.bind_eq_some_iff] at hlead
  obtain ⟨ts, hts, hfold⟩ := hlead
  simp [readSymbols, hts, hfold]

theorem read_write {d : Data} (hd : d.IsExact) : read (write d) = some d := by
  rw [read, symbols, write, String.toList_ofList, readSymbols_print hd]

/-- The bytes of a text are decoded as the text. -/
theorem decode_toUTF8 (text : String) : decode text.toUTF8 = symbols text := by
  have htext : String.fromUTF8? text.toUTF8 = some text := dif_pos text.isValidUTF8
  rw [decode, htext]

theorem readBytes_write {d : Data} (hd : d.IsExact) :
    readBytes (write d).toUTF8.data.toList = some d := by
  rw [readBytes, Array.toArray_toList, decode_toUTF8]
  exact read_write hd

end Json

end PluginSandbox
