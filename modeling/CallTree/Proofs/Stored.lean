import CallTree.Proofs.Accepted
import CallTree.Proofs.Definitions

/-!
# Stored programs

A program is stored with all its declared fields. What was read may have had fewer: optional fields
may be left out, and the kind of a node where its place says it. So the stored form is seldom what
was read, and the two are compared by the declared fields alone (`Completed`): a stored node has
exactly the fields of its kind, in their order; a field that was given stays as it was, up to the
nodes in it, and a field that was left out has its default. This says nothing of reading or writing
a tree, and it leaves no choice: what was read has one completion (`Completed.unique`).

That a tree is read back from its stored form is `nodeOfValue_toValue`. The rules of a program are
checked again when it is read back, on the same tree.
-/

namespace CallTree

/-! ## Declared fields -/

/-- The word for a kind. -/
def NodeKind.word : NodeKind → String
  | .value => "value"
  | .call => "function"
  | .program => "program"
  | .cond => "conditional"
  | .lambda => "lambda"
  | .over op => op.word
  | .bare => "node"

/-- What stands in a field: a value as it is, a node whose place may say its kind, the branch of a
conditional that may be null, a list of nodes, or a program or list of what is so. -/
inductive Slot where
  | plain
  | node (place : Option NodeKind)
  | branch
  | nodes
  | programs

/-- A field of a kind of node, with what it has where it is left out. -/
structure Declared where
  key : String
  slot : Slot
  default? : Option Value

/-- The field for the kind of a node, which its place may say. -/
def kindField (place : Option NodeKind) : Declared :=
  ⟨"type", .plain, place.map fun k ↦ .str k.word⟩

/-- The fields of a kind of node, its kind apart. -/
def NodeKind.declared : NodeKind → List Declared
  | .value => [⟨"name", .plain, none⟩, ⟨"value", .plain, none⟩]
  | .call => [⟨"name", .plain, none⟩, ⟨"params", .nodes, none⟩]
  | .program =>
    [⟨"body", .nodes, none⟩, ⟨"mode", .plain, none⟩, ⟨"name", .plain, some .null⟩,
      ⟨"description", .plain, some .null⟩, ⟨"schema_version", .plain, some (.str formVersion)⟩]
  | .cond =>
    [⟨"condition", .node none, none⟩, ⟨"true_branch", .node none, none⟩,
      ⟨"false_branch", .branch, some .null⟩]
  | .lambda => [⟨"params", .plain, none⟩, ⟨"body", .node (some .call), none⟩]
  | .over _ => [⟨"function", .node (some .lambda), none⟩, ⟨"iterable", .node none, none⟩]
  | .bare => []

theorem keys_declared (k : NodeKind) : k.declared.map Declared.key = k.fields := by
  cases k <;> rfl

theorem NodeKind.ofWord?_word (k : NodeKind) : NodeKind.ofWord? k.word = some k := by
  cases k with
  | «over» op => cases op <;> rfl
  | _ => rfl

/-- What was read, beside what is stored for it. All fields of what was read are declared, and each
declared field is stored: what it was given as, completed in its turn, or what it has by default.
The kind of a node is one of its fields, and tells which others there are. -/
inductive Completed : Slot → Value → Value → Prop where
  | plain (v : Value) : Completed .plain v v
  | node {place : Option NodeKind} {k : NodeKind} {es : List (Value × Value)} {ws : List Value}
      (hkeys : ∀ e ∈ es, ∃ d ∈ kindField place :: k.declared, e.1 = .str d.key)
      (hlength : (kindField place :: k.declared).length = (Value.str k.word :: ws).length)
      (hgiven : ∀ d w, (d, w) ∈ (kindField place :: k.declared).zip (.str k.word :: ws) →
        ∀ v, Value.entry? d.key es = some v → Completed d.slot v w)
      (hleft : ∀ d w, (d, w) ∈ (kindField place :: k.declared).zip (.str k.word :: ws) →
        Value.entry? d.key es = none → d.default? = some w) :
      Completed (.node place) (.map es)
        (.record (((kindField place :: k.declared).map Declared.key).zip (.str k.word :: ws)))
  | noBranch : Completed .branch .null .null
  | branch {v w : Value} (h : Completed (.node none) v w) : Completed .branch v w
  | nodes {vs ws : List Value} (hlength : vs.length = ws.length)
      (h : ∀ v w, (v, w) ∈ vs.zip ws → Completed (.node none) v w) :
      Completed .nodes (.list vs) (.list ws)
  | program {v w : Value} (h : Completed (.node (some .program)) v w) : Completed .programs v w
  | programs {vs ws : List Value} (hlength : vs.length = ws.length)
      (h : ∀ v w, (v, w) ∈ vs.zip ws → Completed .programs v w) :
      Completed .programs (.list vs) (.list ws)

/-- What is stored for a field of a mapping. -/
structure FilledIn (es : List (Value × Value)) (d : Declared) (w : Value) : Prop where
  given : ∀ v, Value.entry? d.key es = some v → Completed d.slot v w
  left : Value.entry? d.key es = none → d.default? = some w

theorem Completed.of_forall₂ {place : Option NodeKind} {k : NodeKind} {es : List (Value × Value)}
    {ws : List Value} (hkeys : ∀ e ∈ es, ∃ d ∈ kindField place :: k.declared, e.1 = .str d.key)
    (h : List.Forall₂ (FilledIn es) (kindField place :: k.declared) (.str k.word :: ws)) :
    Completed (.node place) (.map es)
      (.record (((kindField place :: k.declared).map Declared.key).zip (.str k.word :: ws))) := by
  obtain ⟨hlength, h⟩ := List.forall₂_iff_zip.mp h
  exact .node hkeys hlength (fun _ _ hmem ↦ (h hmem).given) fun _ _ hmem ↦ (h hmem).left

/-! ## One completion -/

theorem eq_of_forall₂ {α β : Type} {Q : α → β → Prop} {xs : List α} {ys ys' : List β}
    (h : List.Forall₂ (fun x y ↦ ∀ y', Q x y' → y = y') xs ys) (h' : List.Forall₂ Q xs ys') :
    ys = ys' := by
  induction h generalizing ys' with
  | nil => cases h'; rfl
  | cons hy _ ih =>
    cases h' with
    | cons hq h' => rw [hy _ hq, ih h']

theorem Completed.unique {s : Slot} {v w : Value} (h : Completed s v w) :
    ∀ w', Completed s v w' → w = w' := by
  induction h with
  | plain v =>
    rintro w' ⟨⟩
    rfl
  | @node place k es ws hkeys hlength hgiven hleft ih =>
    intro w' h'
    cases h' with
    | @node _ k' _ ws' hkeys' hlength' hgiven' hleft' =>
      -- the kind is a field like the others, and tells which fields there are
      have hkind : k = k' := by
        have hword : Value.str k.word = .str k'.word := by
          cases hv : Value.entry? "type" es with
          | none =>
            have hw := hleft _ _ List.mem_cons_self hv
            have hw' := hleft' _ _ List.mem_cons_self hv
            exact Option.some.inj (hw.symm.trans hw')
          | some v => exact ih _ _ List.mem_cons_self v hv _ (hgiven' _ _ List.mem_cons_self v hv)
        have hread := NodeKind.ofWord?_word k
        rw [Value.str.inj hword, NodeKind.ofWord?_word] at hread
        exact (Option.some.inj hread).symm
      subst hkind
      have hstored : List.Forall₂ (FilledIn es) (kindField place :: k.declared)
          (.str k.word :: ws') :=
        List.forall₂_iff_zip.mpr
          ⟨hlength', fun hmem ↦ ⟨hgiven' _ _ hmem, hleft' _ _ hmem⟩⟩
      have hsame : List.Forall₂ (fun d w ↦ ∀ w', FilledIn es d w' → w = w')
          (kindField place :: k.declared) (.str k.word :: ws) := by
        refine List.forall₂_iff_zip.mpr ⟨hlength, fun {d w} hmem w' hw' ↦ ?_⟩
        cases hv : Value.entry? d.key es with
        | none => exact Option.some.inj ((hleft d w hmem hv).symm.trans (hw'.left hv))
        | some v => exact ih d w hmem v hv w' (hw'.given v hv)
      rw [(List.cons.inj (eq_of_forall₂ hsame hstored)).2]
  | noBranch =>
    intro w' h'
    cases h' with
    | noBranch => rfl
    | branch h' => cases h'
  | branch h ih =>
    intro w' h'
    cases h' with
    | noBranch => cases h
    | branch h' => exact ih w' h'
  | nodes hlength h ih =>
    intro w' h'
    cases h' with
    | nodes hlength' h' =>
      have hsame := List.forall₂_iff_zip.mpr ⟨hlength, fun {v w} hmem ↦ ih v w hmem⟩
      rw [eq_of_forall₂ hsame (List.forall₂_iff_zip.mpr ⟨hlength', fun {v w} ↦ h' v w⟩)]
  | program h ih =>
    intro w' h'
    cases h' with
    | program h' => exact ih w' h'
    | programs => cases h
  | programs hlength h ih =>
    intro w' h'
    cases h' with
    | program h' => cases h'
    | programs hlength' h' =>
      have hsame := List.forall₂_iff_zip.mpr ⟨hlength, fun {v w} hmem ↦ ih v w hmem⟩
      rw [eq_of_forall₂ hsame (List.forall₂_iff_zip.mpr ⟨hlength', fun {v w} ↦ h' v w⟩)]

/-! ## Reading completes -/

theorem entry?_map_raw (fs : FormFields) (key : String) :
    Value.entry? key (fs.map fun f ↦ (.str f.1, f.2.raw)) = (fs.lookup key).map (·.raw) := by
  induction fs with
  | nil => rfl
  | cons f fs ih =>
    rw [List.map_cons, Value.entry?, List.lookup_cons, ih]
    by_cases h : f.1 = key
    · rw [if_pos h, h, beq_self_eq_true]
      rfl
    · rw [if_neg h, beq_eq_false_iff_ne.mpr (Ne.symm h)]

theorem formAll_eq_map (ts : List Tree) : formAll ts = ts.map Node.toValue := by
  induction ts with
  | nil => rfl
  | cons t ts ih => rw [formAll, ih, List.map_cons]

namespace FormFields

variable {fs : FormFields} {d : Declared}

/-- The fields as the entries of a mapping. -/
def entries (fs : FormFields) : List (Value × Value) := fs.map fun f ↦ (.str f.1, f.2.raw)

/-- A field is filled in if it is looked up as what it is stored as, or has it by default. -/
theorem filledIn {w : Value} (hgiven : ∀ f, fs.lookup d.key = some f → Completed d.slot f.raw w)
    (hleft : fs.lookup d.key = none → d.default? = some w) : FilledIn fs.entries d w := by
  constructor
  · intro v hv
    rw [entries, entry?_map_raw] at hv
    obtain ⟨f, hf, rfl⟩ := Option.map_eq_some_iff.mp hv
    exact hgiven f hf
  · intro hv
    rw [entries, entry?_map_raw] at hv
    exact hleft (Option.map_eq_none_iff.mp hv)

theorem filledIn_plain {w : Value} {key : String} {default? : Option Value}
    (hgiven : ∀ f, fs.lookup key = some f → f.raw = w)
    (hleft : fs.lookup key = none → default? = some w) :
    FilledIn fs.entries ⟨key, .plain, default?⟩ w := by
  refine filledIn (fun f hf ↦ ?_) hleft
  rw [hgiven f hf]
  exact .plain w

theorem filledIn_kind {place : Option NodeKind} {k : NodeKind} (h : fs.kind? place = some k) :
    FilledIn fs.entries (kindField place) (.str k.word) := by
  refine filledIn_plain (fun f hf ↦ ?_) fun hnone ↦ ?_
  · rw [kind?, hf] at h
    split at h
    · next heq => cases heq
    · next heq =>
      obtain rfl := Option.some.inj heq
      rw [NodeKind.ofWord?_inj h (NodeKind.ofWord?_word k)]
    · cases h
  · rw [kind?, hnone] at h
    rw [show place = some k from h]
    rfl

theorem filledIn_name {key s : String} {default? : Option Value} (h : fs.name? key = some s) :
    FilledIn fs.entries ⟨key, .plain, default?⟩ (.str s) := by
  refine filledIn_plain (fun f hf ↦ raw_of_name? hf h) fun hnone ↦ ?_
  rw [name?, hnone] at h
  cases h

theorem filledIn_text {key : String} {s : Option String} (h : fs.text? key = some s) :
    FilledIn fs.entries ⟨key, .plain, some .null⟩ (.text? s) := by
  refine filledIn_plain (fun f hf ↦ raw_of_text? hf h) fun hnone ↦ ?_
  rw [text?, hnone] at h
  obtain rfl := Option.some.inj h
  rfl

theorem filledIn_texts {key : String} {ss : List String} {default? : Option Value}
    (h : fs.texts? key = some ss) :
    FilledIn fs.entries ⟨key, .plain, default?⟩ (.texts ss) := by
  refine filledIn_plain (fun f hf ↦ raw_of_texts? hf h) fun hnone ↦ ?_
  rw [texts?, hnone] at h
  cases h

section

variable (hreads : ∀ f ∈ fs, f.2.Reads fun v place t ↦ Completed (.node place) v t.toValue)

include hreads

theorem filledIn_node {key : String} {place : Option NodeKind} {t : Tree}
    {default? : Option Value} (h : fs.node? key place = some t) :
    FilledIn fs.entries ⟨key, .node place, default?⟩ t.toValue := by
  refine filledIn (fun f hf ↦ ?_) fun hnone ↦ ?_
  · exact (hreads _ (mem_of_lookup hf)).node (node?_of_node? hf h)
  · rw [node?, hnone] at h
    cases h

theorem filledIn_nodes {key : String} {ts : List Tree} {default? : Option Value}
    (h : fs.nodes? key = some ts) :
    FilledIn fs.entries ⟨key, .nodes, default?⟩ (.list (formAll ts)) := by
  refine filledIn (fun f hf ↦ ?_) fun hnone ↦ ?_
  · obtain ⟨vs, hraw, hread⟩ := (hreads _ (mem_of_lookup hf)).nodes (nodes?_of_nodes? hf h)
    have hstored : List.Forall₂ (Completed (.node none)) vs (ts.map Node.toValue) :=
      List.forall₂_map_right_iff.mpr hread
    obtain ⟨hlength, hstored⟩ := List.forall₂_iff_zip.mp hstored
    rw [hraw, formAll_eq_map]
    exact .nodes hlength fun v w hmem ↦ hstored hmem
  · rw [nodes?, hnone] at h
    cases h

/-- The stored fields of a node, beside the fields that it was put together from. One case for each
kind of node. -/
theorem exists_filledIn {k : NodeKind} {t : Tree} (h : Assembled fs k t) :
    ∃ ws, t.toValue = .record (("type", .str k.word) :: (k.declared.map Declared.key).zip ws) ∧
      List.Forall₂ (FilledIn fs.entries) k.declared ws := by
  cases h with
  | value hname hvalue =>
    refine ⟨_, rfl, .cons (filledIn_name hname) (.cons (filledIn_plain ?_ ?_) .nil)⟩
    · intro f hf
      rw [Option.some.inj (hvalue.symm.trans hf)]
    · intro hnone
      cases hvalue.symm.trans hnone
  | call htool hargs =>
    exact ⟨_, rfl, .cons (filledIn_name htool) (.cons (filledIn_nodes hreads hargs) .nil)⟩
  | program hheading hbody =>
    obtain ⟨hmode, hname, hdescription, hversion⟩ := heading?_eq_some hheading
    exact ⟨_, rfl, .cons (filledIn_nodes hreads hbody) (.cons (filledIn_name hmode)
      (.cons (filledIn_text hname) (.cons (filledIn_text hdescription)
        (.cons (filledIn_plain hversion fun _ ↦ rfl) .nil))))⟩
  | cond htest hyes hno =>
    refine ⟨_, rfl, .cons (filledIn_node hreads htest) (.cons (filledIn_node hreads hyes)
      (.cons (filledIn ?_ fun _ ↦ rfl) .nil))⟩
    intro f hf
    rw [hno f hf]
    exact .noBranch
  | condElse htest hyes hfield hno =>
    refine ⟨_, rfl, .cons (filledIn_node hreads htest) (.cons (filledIn_node hreads hyes)
      (.cons (filledIn ?_ ?_) .nil))⟩
    · intro f hf
      obtain rfl := Option.some.inj (hfield.symm.trans hf)
      exact .branch ((hreads _ (mem_of_lookup hfield)).node hno)
    · intro hnone
      cases hfield.symm.trans hnone
  | lambda hparams hbody =>
    exact ⟨_, rfl, .cons (filledIn_texts hparams) (.cons (filledIn_node hreads hbody) .nil)⟩
  | listOp hfunction hitems =>
    exact ⟨_, rfl, .cons (filledIn_node hreads hfunction)
      (.cons (filledIn_node hreads hitems) .nil)⟩
  | bare => exact ⟨[], rfl, .nil⟩

end

end FormFields

/-- **Reading completes.** What a tree is stored as completes what the tree was read from. -/
theorem completed_of_nodeOfValue {v : Value} {place : Option NodeKind} {t : Tree}
    (h : nodeOfValue v place = some t) : Completed (.node place) v t.toValue := by
  refine nodeOfValue_induct (P := fun v place t ↦ Completed (.node place) v t.toValue) ?_ h
  intro es fs place t hfs hreads ht
  obtain rfl := eq_map_of_fieldsOf hfs
  obtain ⟨k, hk, ht⟩ := Option.bind_eq_some_iff.mp ht
  split at ht
  case isFalse => cases ht
  case isTrue hfields =>
    obtain ⟨ws, hstored, hfilled⟩ :=
      FormFields.exists_filledIn hreads (assembled_of_assembleAs ht)
    rw [hstored]
    refine .of_forall₂ ?_ (.cons (FormFields.filledIn_kind hk) hfilled)
    intro e he
    obtain ⟨f, hf, rfl⟩ := List.mem_map.mp he
    have hkey : f.1 = "type" ∨ f.1 ∈ k.fields := by
      simpa using List.all_eq_true.mp hfields f hf
    have hkey : f.1 ∈ (kindField place :: k.declared).map Declared.key := by
      rw [List.map_cons, keys_declared]
      exact List.mem_cons.mpr hkey
    obtain ⟨d, hd, hkey⟩ := List.mem_map.mp hkey
    exact ⟨d, hd, congrArg Value.str hkey.symm⟩

/-! ## Storing and reading back -/

mutual

/-- What was read, with all declared fields. -/
def Parsed.toValue : Parsed → Value
  | .tree t => t.toValue
  | .many items => .list (storedAll items)

/-- The members of a list of programs and lists, with all declared fields. -/
def storedAll : List Parsed → List Value
  | [] => []
  | p :: ps => p.toValue :: storedAll ps

end

/-- What is stored of a value: it is read and written with all declared fields. -/
def stored (v : Value) : Except ParseFault Value := (parseNested v).map Parsed.toValue

theorem parseWith_toValue_of_parseWith {known : Signatures} {v : Value} {t : Tree}
    (h : parseWith known v = .ok t) : parseWith known t.toValue = .ok t := by
  obtain ⟨hread, hshape, hcheck⟩ := parseWith_eq_ok_iff.mp h
  exact parseWith_toValue (allNamed_of_ofValue? hread) hshape hcheck

theorem parseNested_toValue {t : Tree} (h : parse t.toValue = .ok t) :
    parseNested t.toValue = .ok (.tree t) := by
  obtain ⟨es, hes⟩ := Node.toValue_eq_map t
  rw [hes] at h ⊢
  rw [parseNested, h]
  · rfl
  · rintro vs ⟨⟩

private theorem nested_kept :
    (∀ v p, parseNested v = .ok p →
      Completed .programs v p.toValue ∧ parseNested p.toValue = .ok p) ∧
    ∀ vs ps, parseNestedAll vs = .ok ps →
      List.Forall₂ (Completed .programs) vs (storedAll ps) ∧
        parseNestedAll (storedAll ps) = .ok ps := by
  refine parseNested.mutual_induct _ _ ?_ ?_ ?_ ?_
  · intro vs ih p hp
    rw [parseNested] at hp
    obtain ⟨ps, hps, hp⟩ := except_bind_eq_ok_iff.mp hp
    obtain rfl := Except.ok.inj hp
    obtain ⟨hcompleted, hback⟩ := ih ps hps
    obtain ⟨hlength, hcompleted⟩ := List.forall₂_iff_zip.mp hcompleted
    refine ⟨.programs hlength fun v w hmem ↦ hcompleted hmem, ?_⟩
    rw [Parsed.toValue, parseNested, hback]
    rfl
  · intro v hv p hp
    rw [parseNested.eq_2 v hv] at hp
    obtain ⟨t, ht, hp⟩ := except_bind_eq_ok_iff.mp hp
    obtain rfl := Except.ok.inj hp
    exact ⟨.program (completed_of_nodeOfValue (parse_eq_ok_iff.mp ht).1),
      parseNested_toValue (parseWith_toValue_of_parseWith ht)⟩
  · intro ps hps
    obtain rfl := Except.ok.inj hps
    exact ⟨.nil, rfl⟩
  · intro v vs ihv ihvs ps hps
    rw [parseNestedAll] at hps
    obtain ⟨q, hq, hps⟩ := except_bind_eq_ok_iff.mp hps
    obtain ⟨qs, hqs, hps⟩ := except_bind_eq_ok_iff.mp hps
    obtain rfl := Except.ok.inj hps
    obtain ⟨hv, hbackv⟩ := ihv q hq
    obtain ⟨hvs, hbackvs⟩ := ihvs qs hqs
    refine ⟨.cons hv hvs, ?_⟩
    rw [storedAll, parseNestedAll, hbackv, hbackvs]
    rfl

/-- **Stored programs are kept.** A program that is accepted is read back from its stored form, with
the same parameters of tools known or none, and so are lists of programs. What is stored is the one
completion of what was read, and storing it again changes nothing. -/
theorem stored_programs_kept (v : Value) :
    (∀ known t, parseWith known v = .ok t → parseWith known t.toValue = .ok t) ∧
    (∀ p, parseNested v = .ok p → parseNested p.toValue = .ok p) ∧
    ∀ w, stored v = .ok w →
      (∀ w', Completed .programs v w' ↔ w' = w) ∧ stored w = .ok w := by
  refine ⟨fun known t ↦ parseWith_toValue_of_parseWith, fun p hp ↦ (nested_kept.1 v p hp).2,
    fun w hw ↦ ?_⟩
  obtain ⟨p, hp, rfl⟩ := exists_eq_ok_of_map hw
  obtain ⟨hcompleted, hback⟩ := nested_kept.1 v p hp
  refine ⟨fun w' ↦ ⟨fun hw' ↦ (hcompleted.unique w' hw').symm, ?_⟩, ?_⟩
  · rintro rfl
    exact hcompleted
  · rw [stored, hback]
    rfl

/-- A list of one program with most of what may be left out left out: it maps a lambda over a list,
and the literals look like nodes. -/
def sparseProgram : Value :=
  .list [.record [("mode", .str "single"), ("body", .list [
    .record [("type", .str "conditional"),
      ("true_branch", .record [("iterable",
          .record [("value", .list [.record [("type", .str "value")]]), ("type", .str "value"),
            ("name", .str "items")]),
        ("function", .record [("params", .texts ["x"]),
          ("body", .record [("name", .str "size"),
            ("params", .list [.record [("type", .str "value"), ("name", .str "x"),
              ("value", .null)]])])]),
        ("type", .str "map")]),
      ("condition", .record [("type", .str "value"), ("name", .str "test"),
        ("value", .bool true)])]])]]

/-- The program that it is. -/
def sparseTree : Tree :=
  .program ⟨.single, none, none⟩ [.cond (.value "test" (.bool true))
    (.over .map ["x"] "size" [.value "x" .null]
      (.value "items" (.list [.record [("type", .str "value")]]))) none]

theorem parseNested_sparseProgram : parseNested sparseProgram = .ok (.many [.tree sparseTree]) := by
  cbv

theorem stored_programs_kept_sparse :
    stored sparseProgram = .ok (.list [sparseTree.toValue]) ∧
      (∀ w, Completed .programs sparseProgram w ↔ w = .list [sparseTree.toValue]) ∧
      stored (.list [sparseTree.toValue]) = .ok (.list [sparseTree.toValue]) := by
  have hstored : stored sparseProgram = .ok (.list [sparseTree.toValue]) := by
    rw [stored, parseNested_sparseProgram]
    rfl
  exact ⟨hstored, (stored_programs_kept sparseProgram).2.2 _ hstored⟩

end CallTree
