import CallTree.Proofs.Coherence
import CallTree.Proofs.FirstOrder
import CallTree.Proofs.Names
import CallTree.Proofs.Pieces
import CallTree.Proofs.Written

/-!
# Words that a program has to use

A case lists words that its program has to use: kinds of nodes, or tools. Whether it does is looked
up in the text of the program. The pieces of that text are not only the kinds and tools of nodes.
They are also the names of fields, what a program says about itself, the names and literals of
leaves and the parameters of lambdas; and part of a piece need not be all of it. So a word that is
found may have been used, or may only have been mentioned.

Reading a tree takes every field of a mapping to a part of a node, and the fields of a mapping that
was read from a text have different names. So each piece belongs to a node of the tree
(`shows_of_mentions`).
-/

namespace CallTree

open Json Value Report

variable {word : List Char}

/-! ## Values that were read -/

/-- The mappings of a value have texts as keys, each of them once. -/
inductive Keyed : Value → Prop where
  | plain {v : Value} (hlist : ∀ xs, v ≠ .list xs) (hmap : ∀ es, v ≠ .map es) : Keyed v
  | list {xs : List Value} (h : ∀ x ∈ xs, Keyed x) : Keyed (.list xs)
  | map {es : List (Value × Value)} (htexts : TextKeys es) (hdistinct : (es.map Prod.fst).Nodup)
      (h : ∀ e ∈ es, Keyed e.2) : Keyed (.map es)

theorem keyed_put {s : String} {v : Value} {es : List (Value × Value)} (hv : Keyed v)
    (hes : Keyed (.map es)) : Keyed (.map (put (.str s) v es)) := by
  have hs : IsText (.str s) := ⟨s, rfl⟩
  cases hes with
  | plain _ hmap => exact absurd rfl (hmap es)
  | map htexts hdistinct h =>
    refine .map (Entries.keysIn_put tells_isText hs htexts)
      (Entries.nodup_put tells_isText hs htexts hdistinct) fun e he ↦ ?_
    rcases Entries.mem_of_mem_put tells_isText hs htexts he with rfl | he
    · exact hv
    · exact h e he

theorem keyed_of_read {s : String} {v : Value} (h : Json.read s = .ok v) : Keyed v := by
  have hplain : ∀ {v : Value}, (∀ xs, v ≠ .list xs) → (∀ es, v ≠ .map es) → Keyed v := .plain
  have hempty : Keyed (.map []) :=
    .map (fun _ h ↦ absurd h List.not_mem_nil) List.nodup_nil fun _ h ↦ absurd h List.not_mem_nil
  have hkeyed : Gathers Keyed :=
    { null := hplain (by simp) (by simp)
      bool := fun _ ↦ hplain (by simp) (by simp)
      int := fun _ _ ↦ hplain (by simp) (by simp)
      float := fun _ ↦ hplain (by simp) (by simp)
      str := fun _ ↦ hplain (by simp) (by simp)
      list := .list
      empty := hempty
      put := keyed_put }
  exact hkeyed.of_read h

/-! ## Words in a tree -/

namespace Node

/-- What a node can be asked for by: the word for its kind, and the tool that it calls. -/
def constructs (n : Tree) : List String := n.kind :: n.tool?.toList

/-- What the form of a node says beside its kind, its tool and the nodes below it. -/
def asides : Tree → List Value
  | .value name literal => [.str name, literal]
  | .program heading _ =>
    [.str heading.mode.word, .text? heading.name, .text? heading.description, .str formVersion]
  | .cond _ _ none => [.null]
  | .lambda params _ _ => [.texts params]
  | _ => []

/-- The names of the fields of a node. -/
def fieldNames (n : Tree) : List String :=
  "type" :: ((NodeKind.ofWord? n.kind).map NodeKind.fields).getD []

/-- A node is of the kind that a word asks for, or calls the tool. -/
def Uses (word : List Char) (n : Tree) : Prop := ∃ s ∈ n.constructs, folded s = word

/-- A word is part of the form of a node without being used: part of the name of a field, of what
is said beside, or of a longer kind or tool. -/
def Mentions (word : List Char) (n : Tree) : Prop :=
  (∃ key ∈ n.fieldNames, (Value.str key).Mentions word) ∨ (∃ v ∈ n.asides, v.Mentions word) ∨
    ∃ s ∈ n.constructs, folded s ≠ word ∧ (Value.str s).Mentions word

/-- A word is used or mentioned by a node of a tree. -/
def Shows (word : List Char) (t : Tree) : Prop := ∃ n ∈ t.nodes, n.Uses word ∨ n.Mentions word

theorem shows_of_fieldName {t : Tree} {key : String} (hkey : key ∈ t.fieldNames)
    (h : (Value.str key).Mentions word) : t.Shows word :=
  ⟨t, self_mem_nodes t, Or.inr (Or.inl ⟨key, hkey, h⟩)⟩

theorem shows_of_aside {t : Tree} {v : Value} (hv : v ∈ t.asides) (h : v.Mentions word) :
    t.Shows word :=
  ⟨t, self_mem_nodes t, Or.inr (Or.inr (Or.inl ⟨v, hv, h⟩))⟩

theorem shows_of_construct {t : Tree} {s : String} (hs : s ∈ t.constructs)
    (h : (Value.str s).Mentions word) : t.Shows word := by
  by_cases heq : folded s = word
  · exact ⟨t, self_mem_nodes t, Or.inl ⟨s, hs, heq⟩⟩
  · exact ⟨t, self_mem_nodes t, Or.inr (Or.inr (Or.inr ⟨s, hs, heq, h⟩))⟩

theorem Shows.of_child {c t : Tree} (h : c.Shows word) (hc : c ∈ t.children) : t.Shows word := by
  obtain ⟨n, hn, h⟩ := h
  refine ⟨n, ?_, h⟩
  rw [nodes_eq_cons]
  exact List.mem_cons_of_mem _ (mem_nodesAll_of_mem hc hn)

end Node

/-! ## Words in the form of a tree -/

/-- What the nodes in a field show is all that its value mentions. -/
structure FormField.Passes (word : List Char) (f : FormField) : Prop where
  node : ∀ {kind t}, f.node? kind = some t → f.raw.Mentions word → t.Shows word
  nodes : ∀ {ts}, f.nodes? = some ts → f.raw.Mentions word → ∃ t ∈ ts, t.Shows word

namespace Assembled

variable {fs : FormFields} {k : NodeKind} {t : Tree}

/-- What is mentioned in a field of a node is shown by the node. -/
theorem shows_of_field (h : Assembled fs k t) {key : String} {f : FormField}
    (hkey : key ∈ k.fields) (hf : fs.lookup key = some f) (hpasses : f.Passes word)
    (hmentions : f.raw.Mentions word) : t.Shows word := by
  cases h with
  | value hname hvalue =>
    simp only [NodeKind.fields, List.mem_cons, List.not_mem_nil, or_false] at hkey
    rcases hkey with rfl | rfl
    · rw [FormFields.raw_of_name? hf hname] at hmentions
      exact Node.shows_of_aside List.mem_cons_self hmentions
    · rw [hvalue] at hf
      obtain rfl := Option.some.inj hf
      exact Node.shows_of_aside (List.mem_cons_of_mem _ List.mem_cons_self) hmentions
  | call htool hargs =>
    simp only [NodeKind.fields, List.mem_cons, List.not_mem_nil, or_false] at hkey
    rcases hkey with rfl | rfl
    · rw [FormFields.raw_of_name? hf htool] at hmentions
      exact Node.shows_of_construct (List.mem_cons_of_mem _ List.mem_cons_self) hmentions
    · obtain ⟨arg, harg, hshows⟩ := hpasses.nodes (FormFields.nodes?_of_nodes? hf hargs) hmentions
      exact hshows.of_child harg
  | program hheading hbody =>
    obtain ⟨hmode, hname, hdescription, hversion⟩ := FormFields.heading?_eq_some hheading
    simp only [NodeKind.fields, List.mem_cons, List.not_mem_nil, or_false] at hkey
    rcases hkey with rfl | rfl | rfl | rfl | rfl
    · obtain ⟨n, hn, hshows⟩ := hpasses.nodes (FormFields.nodes?_of_nodes? hf hbody) hmentions
      exact hshows.of_child hn
    · rw [FormFields.raw_of_name? hf hmode] at hmentions
      exact Node.shows_of_aside (by simp [Node.asides]) hmentions
    · rw [FormFields.raw_of_text? hf hname] at hmentions
      exact Node.shows_of_aside (by simp [Node.asides]) hmentions
    · rw [FormFields.raw_of_text? hf hdescription] at hmentions
      exact Node.shows_of_aside (by simp [Node.asides]) hmentions
    · rw [hversion f hf] at hmentions
      exact Node.shows_of_aside (by simp [Node.asides]) hmentions
  | cond htest hyes hno =>
    simp only [NodeKind.fields, List.mem_cons, List.not_mem_nil, or_false] at hkey
    rcases hkey with rfl | rfl | rfl
    · have hshows := hpasses.node (FormFields.node?_of_node? hf htest) hmentions
      exact hshows.of_child List.mem_cons_self
    · have hshows := hpasses.node (FormFields.node?_of_node? hf hyes) hmentions
      exact hshows.of_child (List.mem_cons_of_mem _ List.mem_cons_self)
    · rw [hno f hf] at hmentions
      exact Node.shows_of_aside List.mem_cons_self hmentions
  | condElse htest hyes hfield hno =>
    simp only [NodeKind.fields, List.mem_cons, List.not_mem_nil, or_false] at hkey
    rcases hkey with rfl | rfl | rfl
    · have hshows := hpasses.node (FormFields.node?_of_node? hf htest) hmentions
      exact hshows.of_child List.mem_cons_self
    · have hshows := hpasses.node (FormFields.node?_of_node? hf hyes) hmentions
      exact hshows.of_child (List.mem_cons_of_mem _ List.mem_cons_self)
    · rw [hfield] at hf
      obtain rfl := Option.some.inj hf
      have hshows := hpasses.node hno hmentions
      exact hshows.of_child (List.mem_cons_of_mem _ (List.mem_cons_of_mem _ List.mem_cons_self))
  | lambda hparams hbody =>
    simp only [NodeKind.fields, List.mem_cons, List.not_mem_nil, or_false] at hkey
    rcases hkey with rfl | rfl
    · rw [FormFields.raw_of_texts? hf hparams] at hmentions
      exact Node.shows_of_aside List.mem_cons_self hmentions
    · have hshows := hpasses.node (FormFields.node?_of_node? hf hbody) hmentions
      exact hshows.of_child List.mem_cons_self
  | listOp hfunction hitems =>
    simp only [NodeKind.fields, List.mem_cons, List.not_mem_nil, or_false] at hkey
    rcases hkey with rfl | rfl
    · have hshows := hpasses.node (FormFields.node?_of_node? hf hfunction) hmentions
      exact hshows.of_child List.mem_cons_self
    · have hshows := hpasses.node (FormFields.node?_of_node? hf hitems) hmentions
      exact hshows.of_child (List.mem_cons_of_mem _ List.mem_cons_self)
  | bare => exact absurd hkey List.not_mem_nil

end Assembled

/-- What the fields of a mapping mention, names and values, is shown by the node that is put
together from them. -/
theorem FormFields.shows_of_assemble {fs : FormFields} (hdistinct : (fs.map Prod.fst).Nodup)
    {kind : Option NodeKind} {t : Tree} (ht : fs.assemble kind = some t) {key : String}
    {f : FormField} (hf : (key, f) ∈ fs) (hpasses : f.Passes word)
    (hmentions : (Value.str key).Mentions word ∨ f.raw.Mentions word) : t.Shows word := by
  obtain ⟨k, hk, ht⟩ := Option.bind_eq_some_iff.mp ht
  split at ht
  case isFalse => cases ht
  case isTrue hfields =>
    have hassembled := assembled_of_assembleAs ht
    have hlookup : fs.lookup key = some f := lookup_eq_some_of_mem hdistinct hf
    have hkey : key = "type" ∨ key ∈ k.fields := by
      simpa using List.all_eq_true.mp hfields (key, f) hf
    rcases hmentions with hmentions | hmentions
    · refine Node.shows_of_fieldName ?_ hmentions
      rw [Node.fieldNames, hassembled.ofWord?_kind]
      exact List.mem_cons.mpr hkey
    · rcases hkey with rfl | hkey
      · -- the kind is named by the only word for it
        rw [kind?, hlookup] at hk
        split at hk
        · next heq => cases heq
        · next heq =>
          obtain rfl := Option.some.inj heq
          rw [NodeKind.ofWord?_inj hk hassembled.ofWord?_kind] at hmentions
          exact Node.shows_of_construct List.mem_cons_self hmentions
        · cases hk
      · exact hassembled.shows_of_field hkey hlookup hpasses hmentions

theorem FormField.Reads.passes {f : FormField} (hkeyed : Keyed f.raw)
    (h : f.Reads fun v _ t ↦ Keyed v → v.Mentions word → t.Shows word) : f.Passes word where
  node ht := h.node ht hkeyed
  nodes hts hmentions := by
    obtain ⟨vs, hraw, hread⟩ := h.nodes hts
    rw [hraw] at hkeyed hmentions
    cases hkeyed with
    | plain hlist _ => exact absurd rfl (hlist vs)
    | list hvalues =>
      obtain ⟨v, hv, hmentions⟩ := mentions_list_iff.mp hmentions
      obtain ⟨t, ht, hshows⟩ := exists_mem_of_forall₂ hread hv
      exact ⟨t, ht, hshows (hvalues v hv) hmentions⟩

/-- Each field passes on what its value mentions. -/
theorem shows_of_nodeOfValue {v : Value} {kind : Option NodeKind} {t : Tree}
    (ht : nodeOfValue v kind = some t) : Keyed v → v.Mentions word → t.Shows word := by
  refine nodeOfValue_induct
    (P := fun v _ t ↦ Keyed v → v.Mentions word → t.Shows word) ?_ ht
  intro es fs kind t hfs hreads hassemble hkeyed hmentions
  cases hkeyed with
  | plain _ hmap => exact absurd rfl (hmap es)
  | map _ hdistinct hvalues =>
    obtain rfl := eq_map_of_fieldsOf hfs
    rw [mentions_map_iff] at hmentions
    obtain ⟨e, he, hmentions⟩ := hmentions
    obtain ⟨⟨key, f⟩, hf, rfl⟩ := List.mem_map.mp he
    -- no two fields have one name, so the field that is found is the one that was looked up
    have hnames : (fs.map Prod.fst).Nodup := by
      rw [List.map_map] at hdistinct
      refine List.Nodup.of_map Value.str ?_
      rwa [List.map_map]
    refine FormFields.shows_of_assemble hnames hassemble hf ((hreads _ hf).passes ?_) ?_
    · exact hvalues _ he
    · rwa [mentions_str_iff]

/-- **A word in the form of a tree is used or mentioned** by a node of the tree. -/
theorem shows_of_mentions {source : String} {v : Value} {t : Tree}
    (hread : Json.read source = .ok v) (ht : Node.ofValue? v = some t)
    (h : v.Mentions word) : t.Shows word :=
  shows_of_nodeOfValue ht (keyed_of_read hread) h

/-- What is found in the written form of a valid program is used or mentioned by one of its
nodes. -/
theorem shows_of_found {source text : String} {form : Value} {t : Tree}
    (hvalid : Valid source form t) (hwritten : Json.write .compact form = .ok text)
    (hword : IsWord word) (h : word <:+: folded text) : t.Shows word := by
  have hmentions := (infix_folded_iff_mentions hvalid.read hwritten hword).mp h
  exact shows_of_mentions hvalid.read (parse_eq_ok_iff.mp hvalid.parsed).1 hmentions

/-! ## Reports -/

theorem Verdict.Stopped.not_executed {v : Verdict} (h : v.Stopped) :
    v.checks.executed = false ∧ v.checks.toolsUsed = false := by
  obtain ⟨cause, hv, h⟩ := h
  cases h <;> exact ⟨congrArg Checks.executed hv, congrArg Checks.toolsUsed hv⟩

/-- The words of a case are looked up in the written form of a program that has run. -/
theorem toolsUsed_of_ofRun {v v' : Verdict} (hv : v.Running) {c : Case}
    {written : Except Fault String} {r : Except EvalFault Value}
    (h : v.ofRun c written r = .ok v') :
    v'.checks.toolsUsed = true ↔ v'.checks.executed = true ∧
      ∃ text, written = .ok text ∧ ∀ word ∈ c.mustUse, folded word <:+: folded text := by
  rw [Verdict.ofRun.eq_def] at h
  split at h
  · next actual =>
    rcases written with f | text
    · cases h
    · obtain rfl := Except.ok.inj h
      show usesAll c.mustUse text = true ↔ _
      rw [usesAll_iff]
      constructor
      · exact fun hall ↦ ⟨rfl, text, rfl, hall⟩
      · rintro ⟨-, _, htext, hall⟩
        rwa [← Except.ok.inj htext] at hall
  · cases h
  · obtain rfl := Except.ok.inj h
    show v.checks.toolsUsed = true ↔ v.checks.executed = true ∧ _
    rw [hv.checks]
    exact iff_of_false Bool.false_ne_true fun h ↦ Bool.false_ne_true h.1

theorem valid_of_programOf {account : Account} {text : String} {form : Value} {t : Tree}
    (hread : Json.read text = .ok form) (ht : programOf account form = .ok t) :
    Valid text form t := by
  cases form with
  | map es =>
    have hparse : parse (.map es) = .ok t :=
      Effect.mapError_eq_ok_iff.mp (Effect.mapError_eq_ok_iff.mp ht)
    exact ⟨hread, ⟨es, rfl⟩, hparse⟩
  | _ => cases ht

section

variable {σ θ τ κ υ : Type} [Measure κ] {r : CaseReport κ}

/-- The words of an offline case are looked up in the text that its program is read from. -/
theorem toolsUsed_offline_iff {account : Account} {p : Provider σ} {clock : Clock κ υ}
    {model provider : String} {c : OfflineCase} {s : Timed σ υ}
    (h : ((offlineRunner account p clock model provider).runCase c s).result = .ok r) :
    r.checks.toolsUsed = true ↔ r.checks.executed = true ∧
      ∃ text form t, c.text = .ok text ∧ Valid text form t ∧
        ∀ word ∈ c.mustUse, folded word <:+: folded text := by
  obtain ⟨j, hjudge, hchecks, -⟩ := exists_verdict_of_runCase h
  rw [hchecks]
  rcases judgeOffline_stops_or_runs (judgeOffline_of_judge hjudge) with
    hstopped | ⟨text, form, t, htext, hread, ht, hrun⟩
  · obtain ⟨hexecuted, hused⟩ := hstopped.not_executed
    rw [hexecuted, hused]
    exact iff_of_false Bool.false_ne_true fun h ↦ Bool.false_ne_true h.1
  · rw [toolsUsed_of_ofRun running_parsed_valid hrun]
    refine and_congr_right fun _ ↦ ?_
    constructor
    · rintro ⟨_, htext', hall⟩
      rw [← Except.ok.inj htext'] at hall
      exact ⟨text, form, t, htext, valid_of_programOf hread ht, hall⟩
    · rintro ⟨text', _, _, htext', -, hall⟩
      rw [htext] at htext'
      rw [← Except.ok.inj htext'] at hall
      exact ⟨text, rfl, hall⟩

/-- The words of a live case are looked up in the written form of what the model has made. -/
theorem toolsUsed_live_iff {g : Generator σ θ τ} {takeUsage : θ → Usage × θ} {prices : Prices κ}
    {clock : Clock κ υ} {service : String} {c : Case} {w : Timed (World σ θ τ) υ}
    (h : ((liveRunner g takeUsage prices clock service).runCase c w).result = .ok r) :
    r.checks.toolsUsed = true ↔ r.checks.executed = true ∧
      ∃ text json t, (g.generate c.question w.world).result = .ok (json, t) ∧
        Json.write .compact json = .ok text ∧
        ∀ word ∈ c.mustUse, folded word <:+: folded text := by
  have hstop : false = true ↔ false = true ∧
      ∃ text json t, (g.generate c.question w.world).result = .ok (json, t) ∧
        Json.write .compact json = .ok text ∧
        ∀ word ∈ c.mustUse, folded word <:+: folded text :=
    iff_of_false Bool.false_ne_true fun h ↦ Bool.false_ne_true h.1
  obtain ⟨j, hjudge, hchecks, -⟩ := exists_verdict_of_runCase h
  rw [hchecks]
  rcases judgeLive_stops_or_runs (judgeLive_of_judge hjudge) with
    hstopped | ⟨json, t, hmade, ⟨-, hrun⟩ | ⟨-, hv⟩⟩
  · obtain ⟨hexecuted, hused⟩ := hstopped.not_executed
    rw [hexecuted, hused]
    exact hstop
  · rw [toolsUsed_of_ofRun running_parsed_valid hrun]
    refine and_congr_right fun _ ↦ ?_
    constructor
    · rintro ⟨text, htext, hall⟩
      exact ⟨text, json, t, hmade, Effect.mapError_eq_ok_iff.mp htext, hall⟩
    · rintro ⟨text, json', t', hmade', htext, hall⟩
      rw [hmade] at hmade'
      obtain ⟨rfl, rfl⟩ := Prod.mk.inj (Except.ok.inj hmade')
      exact ⟨text, Effect.mapError_eq_ok_iff.mpr htext, hall⟩
  · rw [hv]
    exact hstop

end

/-- **Required words are found, not used.** A report says that all required words are used exactly
if the program has run and all of them are found in its text. A word without marks that is found in
the written form of a program is used or mentioned by a node of the program. The text of an offline
case is such a form if writing what is read from it gives the text again; what a model has made is
always written before it is searched. -/
theorem toolsUsed_iff_found {σ θ τ κ υ : Type} [Measure κ] :
    (∀ (account : Account) (p : Provider σ) (clock : Clock κ υ) (model provider : String)
      (c : OfflineCase) (s : Timed σ υ) (r : CaseReport κ),
      ((offlineRunner account p clock model provider).runCase c s).result = .ok r →
        (r.checks.toolsUsed = true ↔ r.checks.executed = true ∧
          ∃ text form t, c.text = .ok text ∧ Valid text form t ∧
            ∀ word ∈ c.mustUse, folded word <:+: folded text) ∧
        ∀ text form t, r.checks.toolsUsed = true → c.text = .ok text → Valid text form t →
          Json.write .compact form = .ok text →
          ∀ word ∈ c.mustUse, IsWord (folded word) → t.Shows (folded word)) ∧
    ∀ (g : Generator σ θ τ) (takeUsage : θ → Usage × θ) (prices : Prices κ) (clock : Clock κ υ)
      (service : String) (c : Case) (w : Timed (World σ θ τ) υ) (r : CaseReport κ),
      ((liveRunner g takeUsage prices clock service).runCase c w).result = .ok r →
        (r.checks.toolsUsed = true ↔ r.checks.executed = true ∧
          ∃ text json t, (g.generate c.question w.world).result = .ok (json, t) ∧
            Json.write .compact json = .ok text ∧
            ∀ word ∈ c.mustUse, folded word <:+: folded text) ∧
        (r.checks.toolsUsed = true → ∃ json u t,
          (g.generate c.question w.world).result = .ok (json, t) ∧ parse json = .ok u ∧
            g.prune u = .ok t ∧
            ∀ word ∈ c.mustUse, IsWord (folded word) → u.Shows (folded word)) := by
  refine ⟨fun account p clock model provider c s r hr ↦ ⟨toolsUsed_offline_iff hr, ?_⟩,
    fun g takeUsage prices clock service c w r hr ↦ ⟨toolsUsed_live_iff hr, fun hused ↦ ?_⟩⟩
  · intro text form t hused htext hvalid hwritten word hmem hword
    obtain ⟨-, text', _, _, htext', -, hall⟩ := (toolsUsed_offline_iff hr).mp hused
    rw [htext] at htext'
    rw [← Except.ok.inj htext'] at hall
    exact shows_of_found hvalid hwritten hword (hall word hmem)
  · obtain ⟨-, text, json, t, hmade, hwritten, hall⟩ := (toolsUsed_live_iff hr).mp hused
    obtain ⟨source, u, hvalid, hpruned⟩ := exists_valid_of_generate hmade
    refine ⟨json, u, t, hmade, hvalid.parsed, hpruned, fun word hmem hword ↦ ?_⟩
    exact shows_of_found hvalid hwritten hword (hall word hmem)

/-- The text of a program that is one leaf and mentions several constructs. -/
def mentioningText : String :=
  "\x7b\"mode\": \"single\", \"name\": \"map\", \"body\": " ++
  "[\x7b\"type\": \"value\", \"name\": \"lambda\", \"value\": \"filter\"\x7d]\x7d"

/-- Words that this text has and that its program does not use. -/
def mentionedWords : List String := ["MAP", "lambda", "filter", "body"]

/-- A case that asks for them. -/
def mentioningCase : Case := ⟨"mention", "Which one?", .str "filter", mentionedWords⟩

/-- The report on this program where it is given. -/
def givenMention : Except Fault (CaseReport ℚ) :=
  ((offlineRunner .reasons noTools (.prepared 0)).runCase
    { mentioningCase with program := .str mentioningText } ⟨(), []⟩).result

/-- The report on this program where a generator is told it. -/
def toldMention : Except Fault (CaseReport ℚ) :=
  ((liveRunner told (fun texts ↦ ({}, texts)) ⟨0, 0⟩ (.prepared 0)).runCase mentioningCase
    ⟨⟨(), [mentioningText], []⟩, []⟩).result

theorem checks_givenMention :
    givenMention.map (·.checks) = .ok ⟨true, true, true, true, true⟩ := by
  decide +kernel

theorem checks_toldMention :
    toldMention.map (·.checks) = .ok ⟨true, true, true, true, true⟩ := by
  decide +kernel

/-- This text is written as it is read, and its program is one leaf. -/
theorem exists_valid_mentioningText : ∃ form t, Valid mentioningText form t ∧
    Json.write .compact form = .ok mentioningText ∧
    t.nodes.flatMap Node.constructs = ["program", "value"] := by
  have hjudge : (judge .reasons mentioningText).map (fun found ↦
      (Json.write .compact found.1, found.2.nodes.flatMap Node.constructs)) =
        .ok (.ok mentioningText, ["program", "value"]) := by decide +kernel
  obtain ⟨form, t, hfound, hvalid⟩ | ⟨f, hfound, -⟩ := judge_cases .reasons mentioningText
  · rw [hfound] at hjudge
    obtain ⟨hwritten, hconstructs⟩ := Prod.mk.inj (Except.ok.inj hjudge)
    exact ⟨form, t, hvalid, hwritten, hconstructs⟩
  · rw [hfound] at hjudge
    cases hjudge

theorem folded_mentionedWords : mentionedWords.map folded =
    ["map".toList, "lambda".toList, "filter".toList, "body".toList] := by
  simp only [mentionedWords, List.map_cons, List.map_nil]
  rw [folded_of_ascii (s := "MAP") (by simp [Ascii]),
    folded_of_ascii (s := "lambda") (by simp [Ascii]),
    folded_of_ascii (s := "filter") (by simp [Ascii]),
    folded_of_ascii (s := "body") (by simp [Ascii])]
  rfl

theorem toolsUsed_iff_found_mentioning :
    (∀ word ∈ mentionedWords, IsWord (folded word)) ∧
    (∃ r form t, givenMention = .ok r ∧ r.checks.toolsUsed = true ∧
      Valid mentioningText form t ∧ Json.write .compact form = .ok mentioningText ∧
      ∀ word ∈ mentionedWords, t.Shows (folded word)) ∧
    ∃ r json t, toldMention = .ok r ∧ r.checks.toolsUsed = true ∧ parse json = .ok t ∧
      ∀ word ∈ mentionedWords, t.Shows (folded word) := by
  have hwords : ∀ word ∈ mentionedWords, IsWord (folded word) := by
    rw [← List.forall_mem_map, folded_mentionedWords]
    simp [IsWord, marks]
  obtain ⟨hoffline, hlive⟩ :=
    toolsUsed_iff_found (σ := Unit) (θ := List String) (τ := List Float) (υ := List ℚ) (κ := ℚ)
  refine ⟨hwords, ?_, ?_⟩
  · obtain ⟨r, hr, hchecks⟩ := exists_eq_ok_of_map checks_givenMention
    have hused : r.checks.toolsUsed = true := by rw [hchecks]
    obtain ⟨form, t, hvalid, hwritten, -⟩ := exists_valid_mentioningText
    have hshows := (hoffline _ _ _ _ _ _ _ r hr).2 mentioningText form t hused rfl hvalid hwritten
    exact ⟨r, form, t, hr, hused, hvalid, hwritten, fun word h ↦ hshows word h (hwords word h)⟩
  · obtain ⟨r, hr, hchecks⟩ := exists_eq_ok_of_map checks_toldMention
    have hused : r.checks.toolsUsed = true := by rw [hchecks]
    obtain ⟨json, u, t, -, hparse, -, hshows⟩ := (hlive _ _ _ _ _ _ _ r hr).2 hused
    exact ⟨r, json, u, hr, hused, hparse, fun word h ↦ hshows word h (hwords word h)⟩

/-- Words that are only mentioned count as used, in both kinds of benchmark. -/
theorem mentioned_words_counted :
    givenMention.map (·.checks) = .ok ⟨true, true, true, true, true⟩ ∧
      toldMention.map (·.checks) = .ok ⟨true, true, true, true, true⟩ ∧
      ∃ form t, Valid mentioningText form t ∧
        ∀ word ∈ mentionedWords, ∀ n ∈ t.nodes, ¬ n.Uses (folded word) := by
  refine ⟨checks_givenMention, checks_toldMention, ?_⟩
  obtain ⟨form, t, hvalid, -, hconstructs⟩ := exists_valid_mentioningText
  have hprogram : folded "program" = "program".toList := folded_of_ascii (by simp [Ascii])
  have hvalue : folded "value" = "value".toList := folded_of_ascii (by simp [Ascii])
  -- the only constructs of the program are its own kind and that of its leaf
  have hother : ∀ s ∈ ["program", "value"], folded s ∉ mentionedWords.map folded := by
    rw [folded_mentionedWords]
    simp [hprogram, hvalue]
  refine ⟨form, t, hvalid, fun word hword n hn ↦ ?_⟩
  rintro ⟨s, hs, heq⟩
  have hmem : s ∈ ["program", "value"] := by
    rw [← hconstructs]
    exact List.mem_flatMap.mpr ⟨n, hn, hs⟩
  have hnot := hother s hmem
  rw [heq] at hnot
  exact hnot (List.mem_map_of_mem hword)

end CallTree
