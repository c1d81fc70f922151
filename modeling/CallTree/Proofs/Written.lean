import CallTree.Proofs.Nodes

/-!
# Written trees are read back

Reading a tree is a recursion over the value it is written as; writing is a recursion over the tree.
The two meet in `nodeOfValue_toValue`. The form cannot say a tool or a leaf without a name, so what
is written is read back only for trees in which all names are filled, and what is read is always
such a tree.

A value that is read as a tree is taken apart in two steps. `Assembled` says what the fields of a
mapping are for each kind of node, and `nodeOfValue_induct` carries what holds of the fields to the
whole value.
-/

namespace CallTree

namespace Node

variable {α : Type}

/-- The name that a node must have is not empty. -/
def IsNamed : Node α → Prop
  | .value name _ => name ≠ ""
  | .call tool _ => tool ≠ ""
  | _ => True

/-- All names that the nodes of a tree must have are not empty. -/
def AllNamed (t : Node α) : Prop := ∀ n ∈ t.nodes, n.IsNamed

instance (n : Node α) : Decidable n.IsNamed :=
  match n with
  | .value name _ => inferInstanceAs (Decidable (name ≠ ""))
  | .call tool _ => inferInstanceAs (Decidable (tool ≠ ""))
  | .program _ _ | .cond _ _ _ | .lambda _ _ _ | .over _ _ _ _ _ | .bare => .isTrue trivial

instance (t : Node α) : Decidable t.AllNamed :=
  inferInstanceAs (Decidable (∀ n ∈ t.nodes, n.IsNamed))

theorem allNamed_iff {t : Node α} :
    t.AllNamed ↔ t.IsNamed ∧ ∀ c ∈ t.children, c.AllNamed :=
  forall_mem_nodes_iff

end Node

/-! ## Reading what was written -/

/-- A value as a field of a mapping. -/
def FormField.of (v : Value) : FormField :=
  ⟨v, fun kind ↦ nodeOfValue v kind, nodesOfValue v⟩

/-- Values as the fields of a mapping. -/
def FormFields.of (fields : List (String × Value)) : FormFields :=
  fields.map fun f ↦ (f.1, .of f.2)

theorem fieldsOf_record (fields : List (String × Value)) :
    fieldsOf (fields.map fun f ↦ (.str f.1, f.2)) = some (.of fields) := by
  induction fields with
  | nil => rfl
  | cons f fields ih =>
    rw [List.map_cons, fieldsOf, ih]
    rfl

theorem nodeOfValue_record {fields : List (String × Value)} {kind : Option NodeKind}
    {k : NodeKind} {t : Tree} (hkind : (FormFields.of fields).kind? kind = some k)
    (hfields : (FormFields.of fields).all
      (fun f ↦ f.1 = "type" || k.fields.contains f.1) = true)
    (ht : (FormFields.of fields).assembleAs k = some t) :
    nodeOfValue (.record fields) kind = some t := by
  rw [Value.record, nodeOfValue, fieldsOf_record]
  change FormFields.assemble _ kind = some t
  rw [FormFields.assemble, hkind]
  exact (if_pos hfields).trans ht

private theorem mapM_str?_map_str (ss : List String) :
    (ss.map Value.str).mapM Value.str? = some ss := by
  induction ss with
  | nil => rfl
  | cons s ss ih =>
    rw [List.map_cons, List.mapM_cons, ih]
    rfl

namespace FormFields

variable {fs : FormFields} {key : String}

theorem name?_of_lookup {s : String} (h : fs.lookup key = some (.of (.str s))) (hs : s ≠ "") :
    fs.name? key = some s := by
  rw [name?, h]
  exact if_neg hs

theorem text?_of_lookup {s : Option String} (h : fs.lookup key = some (.of (.text? s))) :
    fs.text? key = some s := by
  rw [text?, h]
  cases s <;> rfl

theorem texts?_of_lookup {ss : List String} (h : fs.lookup key = some (.of (.texts ss))) :
    fs.texts? key = some ss := by
  rw [texts?, h]
  exact mapM_str?_map_str ss

theorem node?_of_lookup {v : Value} {kind : Option NodeKind} {t : Tree}
    (h : fs.lookup key = some (.of v)) (hv : nodeOfValue v kind = some t) :
    fs.node? key kind = some t := by
  rw [node?, h]
  exact hv

theorem nodes?_of_lookup {vs : List Value} {ts : List Tree}
    (h : fs.lookup key = some (.of (.list vs))) (hvs : nodesOfValues vs = some ts) :
    fs.nodes? key = some ts := by
  rw [nodes?, h]
  exact hvs

end FormFields

theorem nodeOfValue_callForm {tool : String} {args : List Tree} {forms : List Value}
    {kind : Option NodeKind} (htool : tool ≠ "") (hargs : nodesOfValues forms = some args) :
    nodeOfValue (callForm tool forms) kind = some (.call tool args) := by
  refine nodeOfValue_record (k := .call) rfl rfl ?_
  rw [FormFields.assembleAs, FormFields.name?_of_lookup rfl htool,
    FormFields.nodes?_of_lookup rfl hargs]
  rfl

theorem nodeOfValue_lambdaForm {params : List String} {tool : String} {args : List Tree}
    {forms : List Value} {kind : Option NodeKind} (htool : tool ≠ "")
    (hargs : nodesOfValues forms = some args) :
    nodeOfValue (lambdaForm params tool forms) kind = some (.lambda params tool args) := by
  refine nodeOfValue_record (k := .lambda) rfl rfl ?_
  rw [FormFields.assembleAs, FormFields.texts?_of_lookup rfl,
    FormFields.node?_of_lookup rfl (nodeOfValue_callForm htool hargs)]
  rfl

private theorem nodesOfValues_formAll {ts : List Tree}
    (h : ∀ t ∈ ts, nodeOfValue t.toValue none = some t) :
    nodesOfValues (formAll ts) = some ts := by
  induction ts with
  | nil => rfl
  | cons t ts ih =>
    obtain ⟨ht, hts⟩ := List.forall_mem_cons.mp h
    rw [formAll, nodesOfValues, ht, ih hts]
    rfl

theorem Node.toValue_eq_map (t : Tree) : ∃ es, t.toValue = .map es := by
  cases t with
  | cond test yes no => cases no <;> exact ⟨_, rfl⟩
  | _ => exact ⟨_, rfl⟩

/-- **What is written is read back**, whatever kind the place of the node suggests. -/
theorem nodeOfValue_toValue {t : Tree} (ht : t.AllNamed)
    (kind : Option NodeKind) : nodeOfValue t.toValue kind = some t := by
  induction t using Node.induct generalizing kind with
  | value name literal =>
    have hname : name ≠ "" := ht _ List.mem_cons_self
    refine nodeOfValue_record (k := .value) rfl rfl ?_
    rw [FormFields.assembleAs, FormFields.name?_of_lookup rfl hname]
    rfl
  | call tool args ih =>
    obtain ⟨htool, hargs⟩ := Node.allNamed_iff.mp ht
    rw [Node.toValue]
    exact nodeOfValue_callForm htool
      (nodesOfValues_formAll fun t hmem ↦ ih t hmem (hargs t hmem) none)
  | program heading body ih =>
    obtain ⟨-, hbody⟩ := Node.allNamed_iff.mp ht
    have hforms : nodesOfValues (formAll body) = some body :=
      nodesOfValues_formAll fun t hmem ↦ ih t hmem (hbody t hmem) none
    have hword : heading.mode.word ≠ "" := by cases heading.mode <;> decide
    have hmode : Mode.ofWord? heading.mode.word = some heading.mode := by
      cases heading.mode <;> rfl
    refine nodeOfValue_record (k := .program) rfl rfl ?_
    rw [FormFields.assembleAs, FormFields.heading?, FormFields.name?_of_lookup rfl hword,
      FormFields.text?_of_lookup (s := heading.name) rfl,
      FormFields.text?_of_lookup (s := heading.description) rfl,
      FormFields.nodes?_of_lookup rfl hforms]
    change ((Mode.ofWord? heading.mode.word).bind _).bind _ = _
    rw [hmode]
    rfl
  | cond test yes iht ihy =>
    obtain ⟨-, hparts⟩ := Node.allNamed_iff.mp ht
    simp only [Node.children, Option.toList_none, List.forall_mem_cons] at hparts
    obtain ⟨htest, hyes, -⟩ := hparts
    refine nodeOfValue_record (k := .cond) rfl rfl ?_
    rw [FormFields.assembleAs, FormFields.node?_of_lookup rfl (iht htest none),
      FormFields.node?_of_lookup rfl (ihy hyes none)]
    rfl
  | condElse test yes no iht ihy ihn =>
    obtain ⟨-, hparts⟩ := Node.allNamed_iff.mp ht
    simp only [Node.children, Option.toList_some, List.forall_mem_cons] at hparts
    obtain ⟨htest, hyes, hno, -⟩ := hparts
    -- a branch that is there is written as a mapping, never as null
    obtain ⟨es, hes⟩ := Node.toValue_eq_map no
    have hread : nodeOfValue (.map es) none = some no := hes ▸ ihn hno none
    rw [Node.toValue, hes]
    refine nodeOfValue_record (k := .cond) rfl rfl ?_
    rw [FormFields.assembleAs, FormFields.node?_of_lookup rfl (iht htest none),
      FormFields.node?_of_lookup rfl (ihy hyes none)]
    change (nodeOfValue (.map es) none).bind _ = _
    rw [hread]
    rfl
  | lambda params tool args ih =>
    obtain ⟨-, hparts⟩ := Node.allNamed_iff.mp ht
    obtain ⟨htool, hargs⟩ := Node.allNamed_iff.mp (hparts (.call tool args) List.mem_cons_self)
    rw [Node.toValue]
    exact nodeOfValue_lambdaForm htool
      (nodesOfValues_formAll fun t hmem ↦ ih t hmem (hargs t hmem) none)
  | listOp op params tool args items ih ihi =>
    obtain ⟨-, hparts⟩ := Node.allNamed_iff.mp ht
    simp only [Node.children, List.forall_mem_cons] at hparts
    obtain ⟨hlambda, hitems, -⟩ := hparts
    obtain ⟨-, hbody⟩ := Node.allNamed_iff.mp hlambda
    obtain ⟨htool, hargs⟩ := Node.allNamed_iff.mp (hbody (.call tool args) List.mem_cons_self)
    have hforms : nodesOfValues (formAll args) = some args :=
      nodesOfValues_formAll fun t hmem ↦ ih t hmem (hargs t hmem) none
    have hkind : NodeKind.ofWord? op.word = some (.over op) := by cases op <;> rfl
    refine nodeOfValue_record (k := .over op) hkind rfl ?_
    rw [FormFields.assembleAs, FormFields.lambda?,
      FormFields.node?_of_lookup rfl (nodeOfValue_lambdaForm htool hforms),
      FormFields.node?_of_lookup rfl (ihi hitems none)]
    rfl
  | bare => exact nodeOfValue_record (k := .bare) rfl rfl rfl

/-! ## What a node is put together from -/

/-- What the fields of a mapping are for each kind of node that is put together from them. -/
inductive Assembled (fs : FormFields) : NodeKind → Tree → Prop where
  | value {name : String} {field : FormField} (hname : fs.name? "name" = some name)
      (hvalue : fs.lookup "value" = some field) : Assembled fs .value (.value name field.raw)
  | call {tool : String} {args : List Tree} (htool : fs.name? "name" = some tool)
      (hargs : fs.nodes? "params" = some args) : Assembled fs .call (.call tool args)
  | program {heading : Heading} {body : List Tree} (hheading : fs.heading? = some heading)
      (hbody : fs.nodes? "body" = some body) : Assembled fs .program (.program heading body)
  | cond {test yes : Tree} (htest : fs.node? "condition" none = some test)
      (hyes : fs.node? "true_branch" none = some yes)
      (hno : ∀ f, fs.lookup "false_branch" = some f → f.raw = .null) :
      Assembled fs .cond (.cond test yes none)
  | condElse {test yes no : Tree} {field : FormField}
      (htest : fs.node? "condition" none = some test)
      (hyes : fs.node? "true_branch" none = some yes)
      (hfield : fs.lookup "false_branch" = some field) (hno : field.node? none = some no) :
      Assembled fs .cond (.cond test yes (some no))
  | lambda {params : List String} {tool : String} {args : List Tree}
      (hparams : fs.texts? "params" = some params)
      (hbody : fs.node? "body" (some .call) = some (.call tool args)) :
      Assembled fs .lambda (.lambda params tool args)
  | listOp {op : ListOp} {params : List String} {tool : String} {args : List Tree} {items : Tree}
      (hfunction : fs.node? "function" (some .lambda) = some (.lambda params tool args))
      (hitems : fs.node? "iterable" none = some items) :
      Assembled fs (.over op) (.over op params tool args items)
  | bare : Assembled fs .bare .bare

theorem assembled_of_assembleAs {fs : FormFields} {k : NodeKind} {t : Tree}
    (ht : fs.assembleAs k = some t) : Assembled fs k t := by
  cases k with
  | value =>
    simp only [FormFields.assembleAs, Option.bind_eq_bind, Option.bind_eq_some_iff] at ht
    obtain ⟨name, hname, field, hvalue, ht⟩ := ht
    obtain rfl := Option.some.inj ht
    exact .value hname hvalue
  | call =>
    simp only [FormFields.assembleAs, Option.bind_eq_bind, Option.bind_eq_some_iff] at ht
    obtain ⟨tool, htool, args, hargs, ht⟩ := ht
    obtain rfl := Option.some.inj ht
    exact .call htool hargs
  | program =>
    simp only [FormFields.assembleAs, Option.bind_eq_bind, Option.bind_eq_some_iff] at ht
    obtain ⟨heading, hheading, body, hbody, ht⟩ := ht
    obtain rfl := Option.some.inj ht
    exact .program hheading hbody
  | cond =>
    simp only [FormFields.assembleAs, Option.bind_eq_bind, Option.bind_eq_some_iff] at ht
    obtain ⟨test, htest, yes, hyes, ht⟩ := ht
    split at ht
    · next hnone =>
      obtain rfl := Option.some.inj ht
      refine .cond htest hyes fun f hf ↦ ?_
      rw [hnone] at hf
      cases hf
    · next hnull =>
      obtain rfl := Option.some.inj ht
      refine .cond htest hyes fun f hf ↦ ?_
      rw [hnull] at hf
      rw [← Option.some.inj hf]
    · next field hfield =>
      obtain ⟨no, hno, ht⟩ := Option.bind_eq_some_iff.mp ht
      obtain rfl := Option.some.inj ht
      exact .condElse htest hyes hfield hno
  | lambda =>
    simp only [FormFields.assembleAs, Option.bind_eq_bind, Option.bind_eq_some_iff] at ht
    obtain ⟨params, hparams, body, hbody, ht⟩ := ht
    split at ht
    · obtain rfl := Option.some.inj ht
      exact .lambda hparams hbody
    · cases ht
  | «over» op =>
    simp only [FormFields.assembleAs, Option.bind_eq_bind, Option.bind_eq_some_iff] at ht
    obtain ⟨l, hl, items, hitems, ht⟩ := ht
    obtain rfl := Option.some.inj ht
    rw [FormFields.lambda?] at hl
    split at hl
    · next hfunction =>
      obtain rfl := Option.some.inj hl
      exact .listOp hfunction hitems
    · cases hl
  | bare =>
    obtain rfl := Option.some.inj ht
    exact .bare

/-! ## What the fields hold -/

/-- The kinds have different words. -/
theorem NodeKind.ofWord?_inj {s s' : String} {k : NodeKind} (h : NodeKind.ofWord? s = some k)
    (h' : NodeKind.ofWord? s' = some k) : s = s' := by
  rw [NodeKind.ofWord?.eq_def] at h
  split at h <;> cases h <;> (rw [NodeKind.ofWord?.eq_def] at h'; split at h' <;> cases h'; rfl)

theorem eq_map_str_of_mapM_str? {xs : List Value} {ss : List String}
    (h : xs.mapM Value.str? = some ss) : xs = ss.map .str := by
  induction xs generalizing ss with
  | nil =>
    obtain rfl := Option.some.inj h
    rfl
  | cons x xs ih =>
    rw [List.mapM_cons] at h
    obtain ⟨s, hs, h⟩ := Option.bind_eq_some_iff.mp h
    obtain ⟨ts, hts, h⟩ := Option.bind_eq_some_iff.mp h
    obtain rfl := Option.some.inj h
    rw [ih hts, List.map_cons]
    congr
    cases x with
    | str s' => rw [Option.some.inj hs]
    | _ => cases hs

theorem Assembled.ofWord?_kind {fs : FormFields} {k : NodeKind} {t : Tree}
    (h : Assembled fs k t) : NodeKind.ofWord? t.kind = some k := by
  cases h with
  | @listOp op => cases op <;> rfl
  | _ => rfl

namespace FormFields

section

variable {fs : FormFields} {key : String} {f : FormField} (hf : fs.lookup key = some f)

include hf

theorem raw_of_name? {s : String} (h : fs.name? key = some s) : f.raw = .str s := by
  rw [name?, hf] at h
  split at h
  · next s' _ _ heq =>
    obtain rfl := Option.some.inj heq
    split at h
    · cases h
    · rw [Option.some.inj h]
  · cases h

theorem raw_of_text? {s : Option String} (h : fs.text? key = some s) : f.raw = .text? s := by
  rw [text?, hf] at h
  split at h
  · next heq => cases heq
  · next heq =>
    obtain rfl := Option.some.inj heq
    rw [← Option.some.inj h]
    rfl
  · next heq =>
    obtain rfl := Option.some.inj heq
    rw [← Option.some.inj h]
    rfl
  · cases h

theorem raw_of_texts? {ss : List String} (h : fs.texts? key = some ss) : f.raw = .texts ss := by
  rw [texts?, hf] at h
  split at h
  · next xs _ _ heq =>
    obtain rfl := Option.some.inj heq
    rw [Value.texts, ← eq_map_str_of_mapM_str? h]
  · cases h

theorem node?_of_node? {kind : Option NodeKind} {t : Tree} (h : fs.node? key kind = some t) :
    f.node? kind = some t := by
  rwa [node?, hf] at h

theorem nodes?_of_nodes? {ts : List Tree} (h : fs.nodes? key = some ts) :
    f.nodes? = some ts := by
  rwa [nodes?, hf] at h

end

variable {fs : FormFields}

theorem mem_of_lookup {key : String} {f : FormField} (h : fs.lookup key = some f) :
    (key, f) ∈ fs := by
  obtain ⟨before, after, rfl, -⟩ := List.lookup_eq_some_iff.mp h
  simp

theorem name?_ne_empty {key name : String} (h : fs.name? key = some name) : name ≠ "" := by
  rw [name?] at h
  split at h
  · split at h
    · cases h
    · next hs =>
      obtain rfl := Option.some.inj h
      exact hs
  · cases h

theorem heading?_eq_some {heading : Heading} (h : fs.heading? = some heading) :
    fs.name? "mode" = some heading.mode.word ∧ fs.text? "name" = some heading.name ∧
      fs.text? "description" = some heading.description ∧
      ∀ f, fs.lookup "schema_version" = some f → f.raw = .str formVersion := by
  have hword : ∀ {s : String} {mode : Mode}, Mode.ofWord? s = some mode → s = mode.word := by
    intro s mode hmode
    rw [Mode.ofWord?.eq_def] at hmode
    split at hmode <;> cases hmode <;> rfl
  simp only [heading?, Option.bind_eq_bind, Option.bind_eq_some_iff] at h
  obtain ⟨s, hs, mode, hmode, name, hname, description, hdescription, h⟩ := h
  obtain rfl := hword hmode
  split at h
  · next hnone =>
    obtain rfl := Option.some.inj h
    refine ⟨hs, hname, hdescription, fun f hf ↦ ?_⟩
    rw [hnone] at hf
    cases hf
  · next hversion =>
    split at h
    · next heq =>
      obtain rfl := Option.some.inj h
      refine ⟨hs, hname, hdescription, fun f hf ↦ ?_⟩
      rw [hversion] at hf
      rw [← Option.some.inj hf, heq]
    · cases h
  · cases h

end FormFields

/-! ## Induction along the reader -/

/-- Something holds between the value of a field, the kind that its place says and the tree that it
is read as, and between the members of a list and the trees that they are read as. -/
structure FormField.Reads (P : Value → Option NodeKind → Tree → Prop) (f : FormField) : Prop where
  node : ∀ {kind t}, f.node? kind = some t → P f.raw kind t
  nodes : ∀ {ts}, f.nodes? = some ts →
    ∃ vs, f.raw = .list vs ∧ List.Forall₂ (fun v t ↦ P v none t) vs ts

theorem eq_map_of_fieldsOf {es : List (Value × Value)} {fs : FormFields}
    (h : fieldsOf es = some fs) : es = fs.map fun f ↦ (.str f.1, f.2.raw) := by
  induction es generalizing fs with
  | nil =>
    rw [fieldsOf] at h
    obtain rfl := Option.some.inj h
    rfl
  | cons e es ih =>
    obtain ⟨k, v⟩ := e
    cases k with
    | str k =>
      rw [fieldsOf] at h
      obtain ⟨gs, hgs, h⟩ := Option.bind_eq_some_iff.mp h
      obtain rfl := Option.some.inj h
      rw [List.map_cons, ← ih hgs]
    | _ =>
      rw [fieldsOf] at h
      · cases h
      · rintro k' v' ⟨⟩

private theorem reading_induct {P : Value → Option NodeKind → Tree → Prop}
    (h : ∀ es fs kind t, fieldsOf es = some fs → (∀ f ∈ fs, f.2.Reads P) →
      FormFields.assemble fs kind = some t → P (.map es) kind t) :
    (∀ v kind, ∀ t, nodeOfValue v kind = some t → P v kind t) ∧
    (∀ es fs, fieldsOf es = some fs → ∀ f ∈ fs, f.2.Reads P) ∧
    (∀ v ts, nodesOfValue v = some ts →
      ∃ vs, v = .list vs ∧ List.Forall₂ (fun v t ↦ P v none t) vs ts) ∧
    ∀ vs ts, nodesOfValues vs = some ts → List.Forall₂ (fun v t ↦ P v none t) vs ts := by
  refine nodeOfValue.mutual_induct _ _ _ _ ?_ ?_ ?_ ?_ ?_ ?_ ?_ ?_ ?_
  · intro entries kind ih t ht
    rw [nodeOfValue] at ht
    obtain ⟨fs, hfs, ht⟩ := Option.bind_eq_some_iff.mp ht
    exact h entries fs kind t hfs (ih fs hfs) ht
  · intro v kind hv t ht
    rw [nodeOfValue.eq_2 _ _ hv] at ht
    cases ht
  · intro vs ih ts hts
    exact ⟨vs, rfl, ih ts hts⟩
  · intro v hv ts hts
    rw [nodesOfValue.eq_2 _ hv] at hts
    cases hts
  · intro ts hts
    obtain rfl := Option.some.inj hts
    exact .nil
  · intro v vs ihv ihvs ts hts
    rw [nodesOfValues] at hts
    obtain ⟨t, ht, hts⟩ := Option.bind_eq_some_iff.mp hts
    obtain ⟨us, hus, hts⟩ := Option.bind_eq_some_iff.mp hts
    obtain rfl := Option.some.inj hts
    exact .cons (ihv t ht) (ihvs us hus)
  · intro fs hfs
    obtain rfl := Option.some.inj hfs
    exact fun f h ↦ absurd h List.not_mem_nil
  · intro k v es ihes ihv ihvs fs hfs
    rw [fieldsOf] at hfs
    obtain ⟨gs, hgs, hfs⟩ := Option.bind_eq_some_iff.mp hfs
    obtain rfl := Option.some.inj hfs
    exact List.forall_mem_cons.mpr ⟨⟨ihv _ _, ihvs _⟩, ihes gs hgs⟩
  · intro e es he fs hfs
    rw [fieldsOf.eq_3 _ _ he] at hfs
    cases hfs

/-- **Induction along the reader.** What holds between a mapping and the tree that is put together
from its fields, as soon as it holds for the fields, holds between every value and the tree that it
is read as. -/
theorem nodeOfValue_induct {P : Value → Option NodeKind → Tree → Prop}
    (h : ∀ es fs kind t, fieldsOf es = some fs → (∀ f ∈ fs, f.2.Reads P) →
      FormFields.assemble fs kind = some t → P (.map es) kind t)
    {v : Value} {kind : Option NodeKind} {t : Tree} (ht : nodeOfValue v kind = some t) :
    P v kind t :=
  (reading_induct h).1 v kind t ht

theorem exists_mem_of_forall₂ {α β : Type} {R : α → β → Prop} {xs : List α} {ys : List β}
    (h : List.Forall₂ R xs ys) {x : α} (hx : x ∈ xs) : ∃ y ∈ ys, R x y := by
  induction h with
  | nil => exact absurd hx List.not_mem_nil
  | cons hr _ ih =>
    rcases List.mem_cons.mp hx with rfl | hx
    · exact ⟨_, List.mem_cons_self, hr⟩
    · obtain ⟨y, hy, hr⟩ := ih hx
      exact ⟨y, List.mem_cons_of_mem _ hy, hr⟩

/-! ## What is read has names -/

namespace FormFields

variable {fs : FormFields}

theorem node?_allNamed (h : ∀ f ∈ fs, f.2.Reads fun _ _ t ↦ t.AllNamed) {key : String}
    {kind : Option NodeKind} {t : Tree} (ht : fs.node? key kind = some t) : t.AllNamed := by
  obtain ⟨f, hf, ht⟩ := Option.bind_eq_some_iff.mp ht
  exact (h _ (mem_of_lookup hf)).node ht

theorem nodes?_allNamed (h : ∀ f ∈ fs, f.2.Reads fun _ _ t ↦ t.AllNamed) {key : String}
    {ts : List Tree} (hts : fs.nodes? key = some ts) : ∀ t ∈ ts, t.AllNamed := by
  obtain ⟨f, hf, hts⟩ := Option.bind_eq_some_iff.mp hts
  obtain ⟨vs, -, hread⟩ := (h _ (mem_of_lookup hf)).nodes hts
  intro t ht
  obtain ⟨v, -, hnamed⟩ := exists_mem_of_forall₂ hread.flip ht
  exact hnamed

/-- One case for each kind of node. -/
theorem assemble_allNamed (h : ∀ f ∈ fs, f.2.Reads fun _ _ t ↦ t.AllNamed)
    {kind : Option NodeKind} {t : Tree} (ht : fs.assemble kind = some t) : t.AllNamed := by
  obtain ⟨k, -, ht⟩ := Option.bind_eq_some_iff.mp ht
  split at ht
  case isFalse => cases ht
  rw [Node.allNamed_iff]
  cases assembled_of_assembleAs ht with
  | value hname _ => exact ⟨name?_ne_empty hname, by simp [Node.children]⟩
  | call htool hargs => exact ⟨name?_ne_empty htool, nodes?_allNamed h hargs⟩
  | program _ hbody => exact ⟨trivial, nodes?_allNamed h hbody⟩
  | cond htest hyes _ =>
    have htest := node?_allNamed h htest
    have hyes := node?_allNamed h hyes
    exact ⟨trivial, by simp [Node.children, htest, hyes]⟩
  | condElse htest hyes hfield hno =>
    have htest := node?_allNamed h htest
    have hyes := node?_allNamed h hyes
    have hno := (h _ (mem_of_lookup hfield)).node hno
    exact ⟨trivial, by simp [Node.children, htest, hyes, hno]⟩
  | lambda _ hbody => exact ⟨trivial, by simpa [Node.children] using node?_allNamed h hbody⟩
  | listOp hfunction hitems =>
    have hlambda := node?_allNamed h hfunction
    have hitems := node?_allNamed h hitems
    exact ⟨trivial, by simp [Node.children, hlambda, hitems]⟩
  | bare => exact ⟨trivial, by simp [Node.children]⟩

end FormFields

/-- **What is read has names.** -/
theorem allNamed_of_ofValue? {v : Value} {t : Tree} (h : Node.ofValue? v = some t) : t.AllNamed :=
  nodeOfValue_induct (fun _ _ _ _ _ hreads ht ↦ FormFields.assemble_allNamed hreads ht) h

end CallTree
