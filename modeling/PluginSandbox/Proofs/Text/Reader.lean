import PluginSandbox.Text.Reader

/-!
# What readers yield

A property of all values that a reader can take from a text follows from the way the
reader is put together, whatever the text is.

## Main definitions

* `Reader.Yields`: every value that a reader takes from a text has a property.

## Main statements

* `Reader.Yields.bind`, `Reader.Yields.orElse`, `Reader.Yields.many`, `Reader.Yields.sepBy` and the
  like: one lemma for each way to put readers together.
-/

namespace PluginSandbox.Text.Reader

variable {α β : Type} {P : α → Prop} {Q : β → Prop} {p q : Reader α}

/-- Every value that the reader takes from a text has the property. -/
def Yields (p : Reader α) (P : α → Prop) : Prop := ∀ cs a rest, p cs = some (a, rest) → P a

/-- Every value is what it is. -/
theorem yields_any (p : Reader α) : p.Yields fun _ => True := fun _ _ _ _ => trivial

namespace Yields

theorem pure {a : α} (h : P a) : Yields (Pure.pure a) P := by
  intro cs b rest hread
  obtain ⟨rfl, -⟩ := Prod.mk.inj (Option.some.inj hread)
  exact h

theorem failure : Yields (Alternative.failure : Reader α) P := fun _ _ _ hread => nomatch hread

theorem bind {f : α → Reader β} (hp : p.Yields P) (hf : ∀ a, P a → (f a).Yields Q) :
    (p >>= f).Yields Q := by
  intro cs b rest hread
  obtain ⟨⟨a, behind⟩, hfirst, hsecond⟩ := Option.bind_eq_some_iff.1 hread
  exact hf a (hp cs a behind hfirst) behind b rest hsecond

/-- A reader after one whose value does not count. -/
theorem after {f : α → Reader β} (hf : ∀ a, (f a).Yields Q) : (p >>= f).Yields Q :=
  bind (yields_any p) fun a _ => hf a

theorem map {f : α → β} (hp : p.Yields fun a => Q (f a)) : (f <$> p).Yields Q := by
  rw [map_eq_pure_bind]
  exact bind hp fun a ha => pure ha

theorem orElse (hp : p.Yields P) (hq : q.Yields P) : (p <|> q).Yields P := by
  intro cs a rest hread
  change (p cs).orElse (fun _ => q cs) = some (a, rest) at hread
  cases hfirst : p cs with
  | none =>
    rw [hfirst] at hread
    exact hq cs a rest hread
  | some read =>
    rw [hfirst] at hread
    exact hp cs a rest (hfirst.trans hread)

theorem seqLeft (hp : p.Yields P) (next : Reader β) : (p <* next).Yields P := by
  rw [seqLeft_eq_bind]
  exact bind hp fun a ha => after fun _ => pure ha

theorem seqRight (first : Reader α) {next : Reader β} (hnext : next.Yields Q) :
    (first *> next).Yields Q := by
  rw [seqRight_eq_bind]
  exact after fun _ => hnext

/-- Every item that is read has the property of the reader of items. -/
theorem many (hp : p.Yields P) : (Reader.many p).Yields fun items => ∀ a ∈ items, P a := by
  intro cs items rest hread
  obtain ⟨rfl, -⟩ := Prod.mk.inj (Option.some.inj hread)
  clear hread
  fun_induction manyFrom p cs with
  | case1 => exact fun a ha => absurd ha List.not_mem_nil
  | case2 cs a behind hfirst _ more ih =>
    exact List.forall_mem_cons.2 ⟨hp cs a behind hfirst, ih⟩
  | case3 => exact fun a ha => absurd ha List.not_mem_nil

theorem sepBy (hp : p.Yields P) (separator : Reader β) :
    (Reader.sepBy p separator).Yields fun items => ∀ a ∈ items, P a := by
  refine bind hp fun first hfirst => bind (many (seqRight separator hp)) fun more hmore => ?_
  exact pure (List.forall_mem_cons.2 ⟨hfirst, hmore⟩)

theorem optional (hp : p.Yields P) : (optional p).Yields fun value => ∀ a ∈ value, P a := by
  refine orElse (map ?_) (pure ?_)
  · intro cs a rest hread b hb
    obtain rfl := Option.some.inj hb
    exact hp cs a rest hread
  · exact fun a ha => nomatch ha

/-- A value that is there takes nothing from the text. -/
theorem ofOption {value : Option α} (h : ∀ a, value = some a → P a) :
    (Reader.ofOption value).Yields P := by
  intro cs a rest hread
  obtain ⟨b, hb, heq⟩ := Option.map_eq_some_iff.1 hread
  obtain ⟨rfl, -⟩ := Prod.mk.inj heq
  exact h b hb

theorem readAll (hp : p.Yields P) {cs : List Char} {a : α} (h : Reader.readAll p cs = some a) :
    P a := by
  rw [Reader.readAll] at h
  split at h
  case h_1 b hread =>
    obtain rfl := Option.some.inj h
    exact hp cs b [] hread
  case h_2 => contradiction

end Yields

end PluginSandbox.Text.Reader
