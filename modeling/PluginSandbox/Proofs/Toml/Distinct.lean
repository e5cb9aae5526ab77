import PluginSandbox.Config.Load
import PluginSandbox.Proofs.Data.Overlay
import PluginSandbox.Proofs.Text.Reader

/-!
# No name twice in a document

A document in which a key is assigned twice, a table opened twice or a value extended is no
document. So however its tables are spelled, by headers, by dotted keys or on one line, none
of them has a name twice; and none has one twice once wrapped values are unwrapped.

## Main definitions

* `Toml.NoRepeats`: the trees of named nodes have no name twice.

## Main statements

* `Toml.noRepeats_descend`: a change at the end of a path.
* `Toml.distinct_of_read`: no name twice in a document.
* `HostConfig.distinct_of_fileLayer`: no name twice in a settings file.
-/

namespace PluginSandbox

open Text.Reader

namespace Toml

variable {fields changed : Fields} {key : Key} {assignments : List (Key × Data)}

/-! ## Tables -/

/-- The trees of named nodes have no name twice. -/
def NoRepeats (fields : Fields) : Prop := (Data.table (fieldsToData fields)).Distinct

theorem noRepeats_nil : NoRepeats [] := .table List.nodup_nil fun _ hf => absurd hf List.not_mem_nil

theorem field?_fieldsToData (name : String) (fields : Fields) :
    Data.field? name (fieldsToData fields) = (Data.field? name fields).map Node.toData := by
  induction fields with
  | nil => rfl
  | cons f fs ih =>
    obtain ⟨n, node⟩ := f
    rw [fieldsToData, Data.field?, Data.field?]
    split
    · rfl
    · exact ih

theorem fieldsToData_setField (name : String) (node : Node) (fields : Fields) :
    fieldsToData (Data.setField name node fields) =
      Data.setField name node.toData (fieldsToData fields) := by
  induction fields with
  | nil => rfl
  | cons f fs ih =>
    obtain ⟨n, other⟩ := f
    rw [fieldsToData, Data.setField, Data.setField]
    split
    · rfl
    · rw [fieldsToData, ih]

/-- A value under a name that is new comes to the end. -/
theorem append_eq_setField {α : Type} {name : String} {fields : List (String × α)}
    (h : (Data.field? name fields).isNone = true) (value : α) :
    fields ++ [(name, value)] = Data.setField name value fields := by
  induction fields with
  | nil => rfl
  | cons f fs ih =>
    obtain ⟨n, v⟩ := f
    rw [Data.field?] at h
    split at h
    · contradiction
    case isFalse hn => rw [Data.setField, if_neg hn, List.cons_append, ih h]

theorem NoRepeats.setField (h : NoRepeats fields) (name : String) {node : Node}
    (hnode : node.toData.Distinct) : NoRepeats (Data.setField name node fields) := by
  rw [NoRepeats, fieldsToData_setField]
  exact Data.Distinct.setField h name hnode

theorem NoRepeats.of_field? (h : NoRepeats fields) {name : String} {node : Node}
    (hnode : Data.field? name fields = some node) : node.toData.Distinct := by
  have hdata : Data.field? name (fieldsToData fields) = some node.toData := by
    rw [field?_fieldsToData, hnode, Option.map_some]
  exact Data.Distinct.of_field? h hdata

theorem mem_itemsToData {items : List Fields} {d : Data} :
    d ∈ itemsToData items ↔ ∃ fields ∈ items, d = .table (fieldsToData fields) := by
  induction items with
  | nil => simp [itemsToData]
  | cons fields items ih => simp [itemsToData, ih]

theorem distinct_tables_iff {items : List Fields} :
    (Node.tables items).toData.Distinct ↔ ∀ fields ∈ items, NoRepeats fields := by
  rw [Node.toData]
  constructor
  · intro h fields hfields
    cases h with
    | list hitems => exact hitems _ (List.mem_reverse.2 (mem_itemsToData.2 ⟨fields, hfields, rfl⟩))
  · intro h
    refine .list fun d hd => ?_
    obtain ⟨fields, hfields, rfl⟩ := mem_itemsToData.1 (List.mem_reverse.1 hd)
    exact h fields hfields

/-- Names are not repeated after a change at the end of a path if the change repeats none. -/
theorem noRepeats_descend {origin : Origin} {change : Origin → Fields → Option Fields}
    (hchange : ∀ here fs gs, NoRepeats fs → change here fs = some gs → NoRepeats gs)
    {path : List String} {here : Origin} (hfields : NoRepeats fields)
    (h : descend origin change here path fields = some changed) : NoRepeats changed := by
  induction path generalizing here fields changed with
  | nil => exact hchange here fields changed hfields h
  | cons name path ih =>
    have hset {found : Option Node} (hfound : (found.bind fun node =>
        some (Data.setField name node fields)) = some changed)
        (hnode : ∀ node, found = some node → node.toData.Distinct) : NoRepeats changed := by
      obtain ⟨node, hsome, heq⟩ := Option.bind_eq_some_iff.1 hfound
      obtain rfl := Option.some.inj heq
      exact hfields.setField name (hnode node hsome)
    rw [descend] at h
    dsimp only at h
    split at h
    case h_1 =>
      refine hset h fun node hnode => ?_
      obtain ⟨inner, hinner, rfl⟩ := Option.map_eq_some_iff.1 hnode
      exact ih noRepeats_nil hinner
    case h_2 found inner hfound =>
      split at h
      · exact hset h fun node hnode => nomatch hnode
      · refine hset h fun node hnode => ?_
        obtain ⟨gs, hgs, rfl⟩ := Option.map_eq_some_iff.1 hnode
        exact ih (hfields.of_field? hfound) hgs
    case h_3 last others hfound =>
      refine hset h fun node hnode => ?_
      obtain ⟨gs, hgs, rfl⟩ := Option.map_eq_some_iff.1 hnode
      obtain ⟨hlast, hothers⟩ :=
        List.forall_mem_cons.1 (distinct_tables_iff.1 (hfields.of_field? hfound))
      exact distinct_tables_iff.2 (List.forall_mem_cons.2 ⟨ih hlast hgs, hothers⟩)
    case h_4 => exact hset h fun node hnode => nomatch hnode

theorem noRepeats_assign {d : Data} (hfields : NoRepeats fields) (hd : d.Distinct)
    (h : assign fields key d = some changed) : NoRepeats changed := by
  refine noRepeats_descend (fun here fs gs hfs hgs => ?_) hfields h
  split at hgs
  case isTrue hnew =>
    obtain rfl := Option.some.inj hgs
    rw [append_eq_setField hnew.2]
    exact hfs.setField key.name hd
  case isFalse => contradiction

theorem noRepeats_assignAll (hfields : NoRepeats fields) (hvalues : ∀ a ∈ assignments, a.2.Distinct)
    (h : assignAll fields assignments = some changed) : NoRepeats changed := by
  induction assignments generalizing fields with
  | nil =>
    obtain rfl := Option.some.inj h
    exact hfields
  | cons a assignments ih =>
    obtain ⟨ha, hvalues⟩ := List.forall_mem_cons.1 hvalues
    obtain ⟨next, hnext, hrest⟩ := Option.bind_eq_some_iff.1 h
    exact ih (noRepeats_assign hfields ha hnext) hvalues hrest

theorem noRepeats_openTable (hfields : NoRepeats fields)
    (hvalues : ∀ a ∈ assignments, a.2.Distinct)
    (h : openTable fields key assignments = some changed) : NoRepeats changed := by
  refine noRepeats_descend (fun here fs gs hfs hgs => ?_) hfields h
  have hopen {inner : Fields} (hinner : NoRepeats inner)
      (hset : ((assignAll inner assignments).bind fun opened =>
        some (Data.setField key.name (.table .opened opened) fs)) = some gs) : NoRepeats gs := by
    obtain ⟨opened, hopened, heq⟩ := Option.bind_eq_some_iff.1 hset
    obtain rfl := Option.some.inj heq
    exact hfs.setField key.name (noRepeats_assignAll hinner hvalues hopened)
  dsimp only at hgs
  split at hgs
  case h_1 => exact hopen noRepeats_nil hgs
  case h_2 inner hfound => exact hopen (hfs.of_field? hfound) hgs
  case h_3 => contradiction

theorem noRepeats_appendTable (hfields : NoRepeats fields)
    (hvalues : ∀ a ∈ assignments, a.2.Distinct)
    (h : appendTable fields key assignments = some changed) : NoRepeats changed := by
  refine noRepeats_descend (fun here fs gs hfs hgs => ?_) hfields h
  have hadd {others : List Fields} (hothers : ∀ inner ∈ others, NoRepeats inner)
      (hset : ((assignAll [] assignments).bind fun last =>
        some (Data.setField key.name (.tables (last :: others)) fs)) = some gs) : NoRepeats gs := by
    obtain ⟨last, hlast, heq⟩ := Option.bind_eq_some_iff.1 hset
    obtain rfl := Option.some.inj heq
    have hlast : NoRepeats last := noRepeats_assignAll noRepeats_nil hvalues hlast
    exact hfs.setField key.name (distinct_tables_iff.2 (List.forall_mem_cons.2 ⟨hlast, hothers⟩))
  dsimp only at hgs
  split at hgs
  case h_1 => exact hadd (fun inner hinner => absurd hinner List.not_mem_nil) hgs
  case h_2 items hfound => exact hadd (distinct_tables_iff.1 (hfs.of_field? hfound)) hgs
  case h_3 => contradiction

/-! ## Values -/

theorem distinct_ofReal (negative : Bool) (mantissa : Nat) (exponent : Int) :
    (Data.ofReal negative mantissa exponent).Distinct := by
  rw [Data.ofReal]
  split
  · exact .real _ _
  · exact .garbled

theorem yields_truth : truth.Yields Data.Distinct :=
  .orElse (.seqRight _ (.pure (.bool true))) (.seqRight _ (.pure (.bool false)))

theorem yields_moment : moment.Yields Data.Distinct := by
  intro cs d rest hread
  obtain ⟨read, -, heq⟩ := Option.map_eq_some_iff.1 hread
  obtain ⟨rfl, -⟩ := Prod.mk.inj heq
  refine .table (List.pairwise_singleton _ _) fun f hf => ?_
  rw [List.mem_singleton.1 hf]
  exact .text _

theorem yields_ofSigned (negative : Bool) (n : Nat) :
    (ofSigned negative n).Yields Data.Distinct := by
  rw [ofSigned]
  split <;> split
  · exact .pure (.int _)
  · exact .failure
  · exact .pure (.int _)
  · exact .failure

theorem yields_integer : integer.Yields Data.Distinct := by
  have hbased (letter : Char) (base : Nat) : (basedInteger letter base).Yields Data.Distinct :=
    .after fun _ => .after fun digits => yields_ofSigned false _
  exact .orElse (hbased 'x' 16) (.orElse (hbased 'o' 8) (.orElse (hbased 'b' 2)
    (.after fun negative => .after fun digits => yields_ofSigned negative _)))

theorem yields_fraction : fraction.Yields Data.Distinct := by
  refine .orElse ?_ (.after fun _ => .after fun _ => .pure .garbled)
  refine .after fun negative => .after fun whole => .after fun behind => ?_
  have hfinite (mantissa : Nat) (scale : Int) :
      (if negative || isFiniteReal mantissa scale then
        Pure.pure (Data.ofReal negative mantissa scale) else failure : Text.Reader Data).Yields
          Data.Distinct := by
    split
    · exact .pure (distinct_ofReal _ _ _)
    · exact .failure
  dsimp only
  split
  · exact .after fun power => hfinite _ _
  · exact .after fun power => hfinite _ _

theorem yields_scalar : scalar.Yields Data.Distinct := by
  have htext : (Data.text <$> text).Yields Data.Distinct := by
    rw [map_eq_pure_bind]
    exact .after fun s => .pure (.text s)
  exact .orElse htext (.orElse yields_truth (.orElse yields_moment
    (.orElse yields_fraction yields_integer)))

variable {item : Text.Reader Data}

theorem yields_list (hitem : item.Yields Data.Distinct) : (list item).Yields Data.Distinct := by
  have hitems : (sepBy (gap *> item <* gap) (char ',') <* optional (char ',')).Yields
      fun items => ∀ d ∈ items, Data.Distinct d :=
    .seqLeft (.sepBy (.seqLeft (.seqRight _ hitem) _) _) _
  refine .after fun _ => .bind (.optional hitems) fun found hfound => ?_
  refine .after fun _ => .after fun _ => .pure (.list ?_)
  cases found with
  | none => exact fun d hd => absurd hd List.not_mem_nil
  | some items => exact hfound items rfl

theorem yields_assignment (hitem : item.Yields Data.Distinct) :
    (assignment item).Yields fun a => a.2.Distinct :=
  .after fun _ => .after fun _ => .bind hitem fun _ hd => .pure hd

theorem yields_inlineTable (hitem : item.Yields Data.Distinct) :
    (inlineTable item).Yields Data.Distinct := by
  refine .after fun _ => .bind (.optional (.sepBy (.seqLeft (yields_assignment hitem) _) _))
    fun found hfound => .after fun _ => .after fun _ => ?_
  refine .bind (.ofOption (P := NoRepeats) fun fields hfields => ?_) fun fields hfields =>
    .pure hfields
  refine noRepeats_assignAll noRepeats_nil ?_ hfields
  cases found with
  | none => exact fun a ha => absurd ha List.not_mem_nil
  | some assignments => exact hfound assignments rfl

/-- No name twice in a value, however deep its parts nest. -/
theorem yields_valueWithin (depth : Nat) : (valueWithin depth).Yields Data.Distinct := by
  induction depth with
  | zero => exact yields_scalar
  | succ depth ih => exact .orElse yields_scalar (.orElse (yields_list ih) (yields_inlineTable ih))

/-! ## Documents -/

theorem yields_statement : statement.Yields fun a => a.2.Distinct :=
  .seqLeft (.seqLeft (yields_assignment (yields_valueWithin _)) _) _

theorem yields_sectionText :
    sectionText.Yields fun part => ∀ a ∈ part.assignments, a.2.Distinct :=
  .after fun _ => .after fun _ => .after fun _ => .bind (.many yields_statement) fun _ h => .pure h

/-- No value that is assigned in the document has a name twice. -/
def Document.HasDistinctValues (doc : Document) : Prop :=
  (∀ a ∈ doc.top, a.2.Distinct) ∧ ∀ part ∈ doc.sections, ∀ a ∈ part.assignments, a.2.Distinct

theorem yields_document : document.Yields Document.HasDistinctValues :=
  .after fun _ => .after fun _ => .bind (.many yields_statement) fun _ htop =>
    .bind (.many yields_sectionText) fun _ hsections => .pure ⟨htop, hsections⟩

theorem noRepeats_addTo {part : Section} (hfields : NoRepeats fields)
    (hvalues : ∀ a ∈ part.assignments, a.2.Distinct) (h : part.addTo fields = some changed) :
    NoRepeats changed := by
  rw [Section.addTo] at h
  split at h
  · exact noRepeats_appendTable hfields hvalues h
  · exact noRepeats_openTable hfields hvalues h

theorem noRepeats_addSections {parts : List Section} (hfields : NoRepeats fields)
    (hvalues : ∀ part ∈ parts, ∀ a ∈ part.assignments, a.2.Distinct)
    (h : parts.foldlM (fun root part => part.addTo root) fields = some changed) :
    NoRepeats changed := by
  induction parts generalizing fields with
  | nil =>
    obtain rfl := Option.some.inj h
    exact hfields
  | cons part parts ih =>
    obtain ⟨hpart, hvalues⟩ := List.forall_mem_cons.1 hvalues
    obtain ⟨next, hnext, hrest⟩ := Option.bind_eq_some_iff.1 h
    exact ih (noRepeats_addTo hfields hpart hnext) hvalues hrest

/-- No name twice in a document. -/
theorem distinct_of_read {text : String} {d : Data} (h : read text = some d) : d.Distinct := by
  obtain ⟨doc, hdoc, hrest⟩ := Option.bind_eq_some_iff.1 h
  obtain ⟨fields, hfields, heq⟩ := Option.bind_eq_some_iff.1 hrest
  obtain rfl := Option.some.inj heq
  obtain ⟨htop, hsections⟩ := yields_document.readAll hdoc
  obtain ⟨root, hroot, hadd⟩ := Option.bind_eq_some_iff.1 hfields
  exact noRepeats_addSections (noRepeats_assignAll noRepeats_nil htop hroot) hsections hadd

end Toml

/-! ## Settings files -/

namespace Setting

theorem exists_of_mem_unwrapItems {items inner : List Data} (h : unwrapItems items = some inner)
    {d : Data} (hd : d ∈ inner) : ∃ item ∈ items, unwrap item = some d := by
  induction items generalizing inner with
  | nil =>
    obtain rfl := Option.some.inj h
    exact absurd hd List.not_mem_nil
  | cons item items ih =>
    obtain ⟨first, hfirst, hrest⟩ := Option.bind_eq_some_iff.1 h
    obtain ⟨others, hothers, heq⟩ := Option.bind_eq_some_iff.1 hrest
    obtain rfl := Option.some.inj heq
    rcases List.mem_cons.1 hd with rfl | hmem
    · exact ⟨item, List.mem_cons_self, hfirst⟩
    · obtain ⟨other, hother, hunwrap⟩ := ih hothers hmem
      exact ⟨other, List.mem_cons_of_mem _ hother, hunwrap⟩

theorem exists_of_mem_unwrapFields {fields inner : List (String × Data)}
    (h : unwrapFields fields = some inner) {f : String × Data} (hf : f ∈ inner) :
    ∃ g ∈ fields, unwrap g.2 = some f.2 := by
  induction fields generalizing inner with
  | nil =>
    obtain rfl := Option.some.inj h
    exact absurd hf List.not_mem_nil
  | cons g fields ih =>
    obtain ⟨first, hfirst, hrest⟩ := Option.bind_eq_some_iff.1 h
    obtain ⟨others, hothers, heq⟩ := Option.bind_eq_some_iff.1 hrest
    obtain rfl := Option.some.inj heq
    rcases List.mem_cons.1 hf with rfl | hmem
    · exact ⟨g, List.mem_cons_self, hfirst⟩
    · obtain ⟨other, hother, hunwrap⟩ := ih hothers hmem
      exact ⟨other, List.mem_cons_of_mem _ hother, hunwrap⟩

/-- Fields whose names are not repeated keep them when their values are unwrapped. -/
theorem distinct_of_unwrapFields {fields inner : List (String × Data)}
    (hnames : (fields.map Prod.fst).Nodup)
    (hvalues : ∀ f ∈ fields, ∀ d, unwrap f.2 = some d → d.Distinct)
    (h : unwrapFields fields = some inner) : (Data.table inner).Distinct := by
  refine .table (by rw [map_fst_unwrapFields h]; exact hnames) fun f hf => ?_
  obtain ⟨g, hg, hunwrap⟩ := exists_of_mem_unwrapFields h hf
  exact hvalues g hg f.2 hunwrap

theorem distinct_of_unwrap {d inner : Data} (hd : d.Distinct) (h : unwrap d = some inner) :
    inner.Distinct := by
  induction hd generalizing inner with
  | list hitems ih =>
    obtain ⟨items, hunwrapped, rfl⟩ := Option.map_eq_some_iff.1 h
    refine .list fun d hd => ?_
    obtain ⟨item, hitem, hunwrap⟩ := exists_of_mem_unwrapItems hunwrapped hd
    exact ih item hitem hunwrap
  | table hnames hfields ih =>
    rw [unwrap] at h
    split at h
    · contradiction
    · obtain ⟨fields, hunwrapped, rfl⟩ := Option.map_eq_some_iff.1 h
      have htable := distinct_of_unwrapFields hnames (fun f hf d hd => ih f hf hd) hunwrapped
      cases hwrapped : Data.field? wrappedName fields with
      | none => exact htable
      | some value => exact htable.of_field? hwrapped
  | _ =>
    obtain rfl := Option.some.inj h
    constructor

end Setting

/-- A settings file is a table, and no name stands twice in it. -/
theorem HostConfig.distinct_of_fileLayer {file : Option String} {layer : Data}
    (h : fileLayer file = some layer) :
    layer.Distinct ∧ ∃ fields, layer = .table fields := by
  cases file with
  | none =>
    obtain rfl := Option.some.inj h
    exact ⟨Toml.noRepeats_nil, [], rfl⟩
  | some text =>
    obtain ⟨d, hread, hunwrap⟩ := Option.bind_eq_some_iff.1 h
    have hdistinct := Toml.distinct_of_read hread
    obtain ⟨doc, -, hrest⟩ := Option.bind_eq_some_iff.1 hread
    obtain ⟨fields, -, heq⟩ := Option.bind_eq_some_iff.1 hrest
    obtain rfl := Option.some.inj heq
    obtain ⟨inner, hinner, rfl⟩ := Option.map_eq_some_iff.1 hunwrap
    cases hdistinct with
    | table hnames hfields =>
      exact ⟨Setting.distinct_of_unwrapFields hnames
        (fun f hf d hd => Setting.distinct_of_unwrap (hfields f hf) hd) hinner, inner, rfl⟩

end PluginSandbox
