import CallTree.Proofs.FirstOrder

/-!
# Where the types of parameters come from

The parameter of a leaf ought to have the type that the leaf's name has in the definition of the
tool it is an argument of. Compiling sees the leaves in one long row, though, and knows of their
calls only by a stack. A call is put on top when it is met; nothing marks its end. A leaf takes the
topmost call away if that has no property of its name, one call at most, and then takes its type
from what is on top. This file says when that comes out right.

## The stack

`openAfter` is the stack after a row of nodes and `given` the types that the leaves in a row get.
A visit that comes to its end gives those types (`visitEach_collect_given`), and it does come to its
end if each of them is there (`visitEach_collect_succeeds`).

## What a call leaves open

A leaf never takes away the call that it is an argument of. So what is on the stack below a tree
plays no part in it and is still there afterwards (`openAfter_nodes`), and the type of a leaf
depends on nothing but its own call and what the arguments before it have left open. If that is the
right type for every leaf then the program is `Settled`, and so it is when each call has its plain
values first.
-/

namespace CallTree

/-! ## Names with numbers -/

theorem Text.isIdentifierPart_of_isDigit {c : Char} (h : c.isDigit = true) :
    isIdentifierPart c = true := by
  have hsmall : c.toNat < 0x80 := by
    have hbounds : c.val ≥ 48 ∧ c.val ≤ 57 := by simpa [Char.isDigit] using h
    have hle : c.val.toNat ≤ 57 := UInt32.le_iff_toNat_le.mp hbounds.2
    rw [Char.toNat]
    omega
  rw [isIdentifierPart, if_pos hsmall, Char.isAlphanum, h, Bool.or_true, Bool.true_or]

/-- An identifier with a number behind it is an identifier, and there is no reserved word with an
underscore. -/
theorem isParameterName_numbered {name : String} (h : Text.isParameterName name = true) (k : Nat) :
    Text.isParameterName (numbered name k) = true := by
  have htext : (numbered name k).toList = name.toList ++ '_' :: Nat.toDigits 10 k := by
    simp [numbered]
  rw [Text.isParameterName, Bool.and_eq_true, Bool.not_eq_true', ← Bool.not_eq_true,
    List.contains_iff_mem] at h ⊢
  refine ⟨?_, fun hmem ↦ ?_⟩
  · have hidentifier := h.1
    rw [Text.isIdentifier] at hidentifier ⊢
    rw [htext]
    cases hname : name.toList with
    | nil => rw [hname] at hidentifier; cases hidentifier
    | cons c cs =>
      rw [hname] at hidentifier
      simp only [Bool.and_eq_true, List.cons_append, List.all_append, List.all_cons]
        at hidentifier ⊢
      refine ⟨hidentifier.1, hidentifier.2, by decide, List.all_eq_true.mpr fun d hd ↦ ?_⟩
      exact Text.isIdentifierPart_of_isDigit
        (Nat.isDigit_of_mem_toDigits (by decide) (by decide) hd)
  · have hwords : ∀ w ∈ Text.reservedWords, '_' ∉ w.toList := by decide
    refine hwords _ hmem ?_
    rw [htext]
    simp

theorem isParameterName_uniqueName {name : String} (h : Text.isParameterName name = true)
    (taken : List String) : Text.isParameterName (uniqueName name taken) = true := by
  have hfree : ∀ fuel k, Text.isParameterName (firstFree name taken fuel k) = true := by
    intro fuel
    induction fuel with
    | zero => exact isParameterName_numbered h
    | succ fuel ih =>
      intro k
      rw [firstFree]
      split
      · exact ih (k + 1)
      · exact isParameterName_numbered h k
  rw [uniqueName]
  split
  · exact hfree _ _
  · exact h

/-! ## Homes -/

namespace Node

variable {α : Type}

mutual

/-- The leaves of a tree in the order of a visit, each with its home: the tool that it is an
argument of, or none if it stands right below anything but a call. The tree itself is below what is
given. -/
def homesUnder (home : Option String) : Node α → List (Option String × String)
  | .value name _ => [(home, name)]
  | .call tool args => homesUnderAll (some tool) args
  | .program _ body => homesUnderAll none body
  | .cond test yes none => homesUnder none test ++ homesUnder none yes
  | .cond test yes (some no) =>
    homesUnder none test ++ (homesUnder none yes ++ homesUnder none no)
  | .lambda _ tool args => homesUnderAll (some tool) args
  | .over _ _ tool args items => homesUnderAll (some tool) args ++ homesUnder none items
  | .bare => []

/-- The leaves of trees that are all below the same, with their homes. -/
def homesUnderAll (home : Option String) : List (Node α) → List (Option String × String)
  | [] => []
  | t :: ts => homesUnder home t ++ homesUnderAll home ts

end

/-- The leaves of a tree with their homes. -/
def homes (t : Node α) : List (Option String × String) := t.homesUnder none

theorem eq_value_of_mem_leaf? {t : Node α} {l : String × α} (h : l ∈ t.leaf?) :
    t = .value l.1 l.2 := by
  cases t with
  | value name literal =>
    obtain rfl := Option.some.inj h
    rfl
  | _ => cases h

theorem mem_homesUnderAll {home : Option String} {h : Option String × String}
    {ts : List (Node α)} : h ∈ homesUnderAll home ts ↔ ∃ t ∈ ts, h ∈ t.homesUnder home := by
  induction ts with
  | nil => simp [homesUnderAll]
  | cons t ts ih => simp [homesUnderAll, ih]

/-- The homes in a tree are those in the trees right below it, which are at home with its call if it
is one. -/
theorem homesUnder_eq {t : Node α} (ht : t.leaf? = none) (home : Option String) :
    t.homesUnder home = homesUnderAll t.tool? t.children := by
  cases t with
  | value name literal => cases ht
  | cond test yes no => cases no <;> simp [homesUnder, homesUnderAll, children, tool?]
  | _ => simp [homesUnder, homesUnderAll, children, tool?]

theorem homesUnder_eq_homes {t : Node α} (ht : t.leaf? = none) (home : Option String) :
    t.homesUnder home = t.homes := by rw [homes, homesUnder_eq ht, homesUnder_eq ht]

/-- Every leaf has one home. -/
theorem map_snd_homesUnder (t : Node α) (home : Option String) :
    (t.homesUnder home).map Prod.snd = (t.nodes.filterMap leaf?).map Prod.fst := by
  induction t using Node.induct_children generalizing home with
  | h t ih =>
    cases hleaf : t.leaf? with
    | some l =>
      obtain rfl := eq_value_of_mem_leaf? hleaf
      rfl
    | none =>
      have hall : ∀ ts : List (Node α), (∀ u ∈ ts, u ∈ t.children) →
          (homesUnderAll t.tool? ts).map Prod.snd =
            ((nodesAll ts).filterMap leaf?).map Prod.fst := by
        intro ts
        induction ts with
        | nil => exact fun _ ↦ rfl
        | cons u ts ihts =>
          intro hts
          obtain ⟨hu, hts⟩ := List.forall_mem_cons.mp hts
          rw [homesUnderAll, nodesAll, List.map_append, List.filterMap_append, List.map_append,
            ih u hu, ihts hts]
      rw [homesUnder_eq hleaf, nodes_eq_cons, List.filterMap_cons_none hleaf,
        hall t.children fun _ hu ↦ hu]

theorem length_homesUnder (t : Node α) (home : Option String) :
    (t.homesUnder home).length = (t.nodes.filterMap leaf?).length := by
  simpa using congrArg List.length (t.map_snd_homesUnder home)

end Node

/-! ## The stack -/

section

variable (known : String → Option Definition)

/-- The properties of a tool, if it is known. -/
def toolProperties (tool : String) : Properties := (known tool).elim [] (·.properties)

/-- The stack from which a leaf takes its type: without its top if that has no property of the
leaf's name. -/
def inForce (name : String) : List Properties → List Properties
  | [] => []
  | top :: rest => if (top.lookup name).isSome then top :: rest else rest

/-- The type that a leaf takes from a stack, if there is one. -/
def typeAt (name : String) (stack : List Properties) : Option Annotation :=
  ((inForce name stack).head?.bind (·.lookup name)).map annotationOf

/-- The stack after a node. -/
def openStep (stack : List Properties) : Tree → List Properties
  | .call tool _ => toolProperties known tool :: stack
  | .value name _ => inForce name stack
  | _ => stack

/-- The stack after some nodes. -/
def openAfter (stack : List Properties) (ns : List Tree) : List Properties :=
  ns.foldl (openStep known) stack

/-- The types that the leaves among some nodes take. -/
def given : List Properties → List Tree → List (Option Annotation)
  | _, [] => []
  | stack, n :: ns =>
    n.leaf?.toList.map (fun l ↦ typeAt l.1 stack) ++ given (openStep known stack n) ns

theorem openAfter_append (stack : List Properties) (ns ms : List Tree) :
    openAfter known stack (ns ++ ms) = openAfter known (openAfter known stack ns) ms :=
  List.foldl_append

theorem given_append (stack : List Properties) (ns ms : List Tree) :
    given known stack (ns ++ ms) =
      given known stack ns ++ given known (openAfter known stack ns) ms := by
  induction ns generalizing stack with
  | nil => rfl
  | cons n ns ih => rw [List.cons_append, given, given, ih, List.append_assoc]; rfl

theorem length_given (stack : List Properties) (ns : List Tree) :
    (given known stack ns).length = (ns.filterMap Node.leaf?).length := by
  induction ns generalizing stack with
  | nil => rfl
  | cons n ns ih =>
    rw [given, List.length_append, ih, List.length_map]
    cases hleaf : n.leaf? with
    | none => rw [List.filterMap_cons_none hleaf]; simp
    | some l => rw [List.filterMap_cons_some hleaf]; simp [Nat.add_comm]

/-- A node that is no leaf puts its own properties on the stack if it is a call, and does nothing
otherwise. -/
theorem openStep_of_not_leaf {t : Tree} (ht : t.leaf? = none) (stack : List Properties) :
    openStep known stack t = (t.tool?.map (toolProperties known)).toList ++ stack := by
  cases t with
  | value name literal => cases ht
  | _ => rfl

end

/-! ## Collecting follows the stack -/

/-- The definition that a lookup gives, if it gives one that is well formed. -/
def Provider.definition? {σ : Type} (p : Provider σ) (name : String) (s : σ) :
    Option Definition :=
  (p.define name s).1.toOption.bind fun raw ↦ (Definition.ofValue (some name) raw).toOption

/-- In the states of `I`, which it does not leave, a provider has a fixed definition for every tool
that it knows. -/
structure Provider.Knows {σ : Type} (p : Provider σ) (I : σ → Prop)
    (known : String → Option Definition) : Prop where
  definition : ∀ name s, I s → p.definition? name s = known name
  keeps : ∀ name s, I s → I (p.define name s).2

section

variable {program name : String} {c c' : Collected}

theorem Collected.leaf_of_typeAt (program : String) {a : Annotation}
    (h : typeAt name c.stack = some a)
    (hname : Text.isParameterName (uniqueName name c.names) = true) :
    c.leaf program name =
      .ok ⟨c.parameters ++ [⟨uniqueName name c.names, a⟩], inForce name c.stack⟩ := by
  obtain ⟨metadata, hmetadata, rfl⟩ := Option.map_eq_some_iff.mp h
  obtain ⟨top, htop, hlookup⟩ := Option.bind_eq_some_iff.mp hmetadata
  obtain ⟨rest, hforce⟩ : ∃ rest, inForce name c.stack = top :: rest := by
    rw [List.head?_eq_some_iff] at htop
    exact htop
  have hat : c.atLeaf name = .ok (top :: rest) := by
    rw [← hforce, atLeaf]
    cases hstack : c.stack with
    | nil => rw [hstack] at hforce; cases hforce
    | cons _ _ => rfl
  simp only [leaf, hat, bind, Except.bind, hlookup, if_pos hname, hforce]
  rfl

theorem Collected.typeAt_of_leaf (h : c.leaf program name = .ok c') :
    ∃ a, typeAt name c.stack = some a ∧
      c' = ⟨c.parameters ++ [⟨uniqueName name c.names, a⟩], inForce name c.stack⟩ := by
  obtain ⟨stack, hat, h⟩ := except_bind_eq_ok_iff.mp h
  have hforce : inForce name c.stack = stack := by
    rw [atLeaf] at hat
    cases hstack : c.stack with
    | nil => rw [hstack] at hat; cases hat
    | cons top rest => rw [hstack] at hat; exact Except.ok.inj hat
  cases stack with
  | nil => cases h
  | cons top rest =>
    cases hlookup : top.lookup name with
    | none => simp only [hlookup] at h; cases h
    | some metadata =>
      simp only [hlookup] at h
      split at h
      · refine ⟨annotationOf metadata, ?_, ?_⟩
        · simp [typeAt, hforce, hlookup]
        · rw [hforce]
          exact (Except.ok.inj h).symm
      · cases h

end

section

variable {σ : Type} {p : Provider σ} {I : σ → Prop} {known : String → Option Definition}
  {program : String} {s s' : σ} {c c' : Collected}

/-- A call is collected if its tool is known. -/
theorem collect_call (program : String) (hp : p.Knows I known) (hs : I s) (tool : String)
    (args : List Tree) (c : Collected) : ∃ s', I s' ∧
      ((known tool).isSome ∧ collect p program (.call tool args) (s, c) =
          (.ok (), (s', { c with stack := toolProperties known tool :: c.stack })) ∨
        known tool = none ∧ ∃ e, collect p program (.call tool args) (s, c) =
          (.error e, (s', c))) := by
  refine ⟨(p.define tool s).2, hp.keeps tool s hs, ?_⟩
  have hknown := hp.definition tool s hs
  rcases hdefine : p.define tool s with ⟨e | raw, s'⟩
  · simp only [Provider.definition?, hdefine, Except.toOption, Option.bind_none] at hknown
    exact Or.inr ⟨hknown.symm, _, collect_call_of_error hdefine⟩
  · simp only [Provider.definition?, hdefine, Except.toOption, Option.bind_some] at hknown
    rcases hd : Definition.ofValue (some tool) raw with e | d
    · rw [hd] at hknown
      exact Or.inr ⟨hknown.symm, _, collect_call_of_malformed hdefine hd⟩
    · rw [hd] at hknown
      have hproperties : toolProperties known tool = d.properties := by
        rw [toolProperties, ← hknown]
        rfl
      refine Or.inl ⟨by rw [← hknown]; rfl, ?_⟩
      rw [hproperties, collect_call_of_ok hdefine hd]

/-- One step: what a node that is collected does to the stack, and the type that it gives if it is a
leaf. -/
theorem collect_given (hp : p.Knows I known) (hs : I s) {n : Tree}
    (h : collect p program n (s, c) = (.ok (), (s', c'))) :
    I s' ∧ c'.stack = openStep known c.stack n ∧
      c'.parameters.map (fun q ↦ some q.annotation) =
        c.parameters.map (fun q ↦ some q.annotation) ++
          n.leaf?.toList.map (fun l ↦ typeAt l.1 c.stack) ∧
      ∀ tool ∈ n.tool?, (known tool).isSome := by
  cases n with
  | value name literal =>
    simp only [collect] at h
    split at h
    · next c₁ hleaf =>
      obtain ⟨a, ha, rfl⟩ := Collected.typeAt_of_leaf hleaf
      obtain ⟨rfl, rfl⟩ := Prod.mk.inj (congrArg Prod.snd h)
      exact ⟨hs, rfl, by simp [Node.leaf?, ha], fun _ htool ↦ (by cases htool)⟩
    · cases h
  | call tool args =>
    obtain ⟨s₁, hs₁, ⟨hknown, hok⟩ | ⟨-, e, herror⟩⟩ := collect_call program hp hs tool args c
    · rw [hok] at h
      obtain ⟨rfl, rfl⟩ := Prod.mk.inj (congrArg Prod.snd h)
      refine ⟨hs₁, rfl, (List.append_nil _).symm, fun tool' htool ↦ ?_⟩
      obtain rfl := Option.some.inj htool
      exact hknown
    · rw [herror] at h
      cases h
  | lambda params tool args => cases h
  | «over» op params tool args items =>
    cases op with
    | map => cases h
    | _ =>
      obtain ⟨rfl, rfl⟩ := Prod.mk.inj (congrArg Prod.snd h)
      exact ⟨hs, rfl, (List.append_nil _).symm, fun _ htool ↦ (by cases htool)⟩
  | _ =>
    obtain ⟨rfl, rfl⟩ := Prod.mk.inj (congrArg Prod.snd h)
    exact ⟨hs, rfl, (List.append_nil _).symm, fun _ htool ↦ (by cases htool)⟩

/-- A whole visit that comes to its end: all tools are known, and the leaves have the types that
they take from the stack. -/
theorem visitEach_collect_given (hp : p.Knows I known) (hs : I s) {ns : List Tree}
    (h : visitEach (collect p program) ns (s, c) = (.ok (), (s', c'))) :
    c'.parameters.map (fun q ↦ some q.annotation) =
        c.parameters.map (fun q ↦ some q.annotation) ++ given known c.stack ns ∧
      ∀ n ∈ ns, ∀ tool ∈ n.tool?, (known tool).isSome := by
  induction ns generalizing s c with
  | nil =>
    obtain ⟨rfl, rfl⟩ := Prod.mk.inj (congrArg Prod.snd h)
    exact ⟨(List.append_nil _).symm, fun n hn ↦ absurd hn List.not_mem_nil⟩
  | cons n ns ih =>
    obtain ⟨⟨s₁, c₁⟩, hn, hns⟩ := thenVisit_eq_ok_iff.mp h
    obtain ⟨hs₁, hstack, htypes, hknown⟩ := collect_given hp hs hn
    obtain ⟨htypess, hknowns⟩ := ih hs₁ hns
    refine ⟨?_, List.forall_mem_cons.mpr ⟨hknown, hknowns⟩⟩
    rw [htypess, htypes, hstack, given, List.append_assoc]

/-- One step: what is enough for a node to be collected. -/
theorem collect_succeeds (program : String) (hp : p.Knows I known) (hs : I s) {n : Tree}
    (hfirst : n.IsFirstOrder) (htool : ∀ tool ∈ n.tool?, (known tool).isSome)
    (hname : ∀ l ∈ n.leaf?, Text.isParameterName l.1 = true)
    (htype : ∀ l ∈ n.leaf?, (typeAt l.1 c.stack).isSome) :
    ∃ s' c', collect p program n (s, c) = (.ok (), (s', c')) := by
  cases n with
  | value name literal =>
    obtain ⟨a, ha⟩ := Option.isSome_iff_exists.mp (htype (name, literal) rfl)
    have hleaf := Collected.leaf_of_typeAt program ha
      (isParameterName_uniqueName (hname (name, literal) rfl) c.names)
    exact ⟨s, _, by simp only [collect, hleaf]; rfl⟩
  | call tool args =>
    obtain ⟨s₁, -, ⟨-, hok⟩ | ⟨hnone, -⟩⟩ := collect_call program hp hs tool args c
    · exact ⟨s₁, _, hok⟩
    · have hsome := htool tool rfl
      rw [hnone] at hsome
      cases hsome
  | lambda params tool args => exact hfirst.elim
  | «over» op params tool args items => exact hfirst.elim
  | _ => exact ⟨s, c, rfl⟩

/-- A whole visit comes to its end if the tools are known and every leaf finds a type. -/
theorem visitEach_collect_succeeds (program : String) (hp : p.Knows I known) (hs : I s)
    {ns : List Tree} (hfirst : ∀ n ∈ ns, n.IsFirstOrder)
    (htools : ∀ n ∈ ns, ∀ tool ∈ n.tool?, (known tool).isSome)
    (hnames : ∀ n ∈ ns, ∀ l ∈ n.leaf?, Text.isParameterName l.1 = true)
    (htypes : ∀ a ∈ given known c.stack ns, a.isSome) :
    ∃ s' c', visitEach (collect p program) ns (s, c) = (.ok (), (s', c')) := by
  induction ns generalizing s c with
  | nil => exact ⟨s, c, rfl⟩
  | cons n ns ih =>
    rw [given, List.forall_mem_append] at htypes
    rw [List.forall_mem_cons] at hfirst htools hnames
    have htype : ∀ l ∈ n.leaf?, (typeAt l.1 c.stack).isSome := fun l h ↦
      htypes.1 _ (List.mem_map.mpr ⟨l, Option.mem_toList.mpr h, rfl⟩)
    obtain ⟨s₁, c₁, hcollect⟩ :=
      collect_succeeds program hp hs hfirst.1 htools.1 hnames.1 htype
    obtain ⟨hs₁, hstack, -, -⟩ := collect_given hp hs hcollect
    rw [← hstack] at htypes
    obtain ⟨s', c', hvisit⟩ := ih hs₁ hfirst.2 htools.2 hnames.2 htypes.2
    exact ⟨s', c', thenVisit_eq_ok_iff.mpr ⟨(s₁, c₁), hcollect, hvisit⟩⟩

end

/-! ## What a call leaves open -/

/-- The type that a leaf should have, by the definition of the tool that is run for its home. -/
def homeType (known : String → Option Definition) (h : Option String × String) :
    Option Annotation :=
  (h.1.bind fun tool ↦ (known (toolName tool)).bind (·.properties.lookup h.2)).map annotationOf

/-- The tool that a leaf is an argument of has a property of its name. -/
def Served (known : String → Option Definition) (h : Option String × String) : Prop :=
  ∃ tool, h.1 = some tool ∧ ((toolProperties known tool).lookup h.2).isSome

/-- Each plain value among the arguments of a call finds the type that it should have, with nothing
on the stack but the call and what the arguments before it have left open. -/
def SettledCall (known : String → Option Definition) (tool : String) (args : List Tree) : Prop :=
  ∀ before name literal after, args = before ++ .value name literal :: after →
    typeAt name (openAfter known [] (Node.nodesAll before) ++ [toolProperties known tool]) =
      homeType known (some tool, name)

/-- All calls of a tree are settled. -/
def Settled (known : String → Option Definition) (t : Tree) : Prop :=
  ∀ tool args, .call tool args ∈ t.nodes → SettledCall known tool args

section

variable {known : String → Option Definition}

/-- What a leaf does not take away from the rest of a stack it does not take away from the whole. -/
theorem inForce_append {name : String} {base : List Properties} (h : inForce name base = base)
    (above : List Properties) : inForce name (above ++ base) = inForce name above ++ base := by
  cases above with
  | nil => exact h
  | cons top rest =>
    simp only [List.cons_append, inForce]
    split <;> rfl

/-- Of the rest of such a stack only the top matters. -/
theorem typeAt_append {name : String} {base : List Properties} (h : inForce name base = base)
    (above : List Properties) : typeAt name (above ++ base) =
      (((inForce name above).head?.or base.head?).bind (·.lookup name)).map annotationOf := by
  rw [typeAt, inForce_append h, List.head?_append]

theorem Served.inForce_eq {home : Option String} {name : String} (h : Served known (home, name))
    (stack : List Properties) : inForce name ((home.map (toolProperties known)).toList ++ stack) =
      (home.map (toolProperties known)).toList ++ stack := by
  obtain ⟨tool, rfl, hlookup⟩ := h
  exact if_pos hlookup

/-- Of what lies below a call only its own properties matter to its arguments. -/
theorem Served.typeAt_eq {home : Option String} {name : String} (h : Served known (home, name))
    (above stack : List Properties) :
    typeAt name (above ++ ((home.map (toolProperties known)).toList ++ stack)) =
      typeAt name (above ++ (home.map (toolProperties known)).toList) := by
  have hown := h.inForce_eq []
  rw [List.append_nil] at hown
  rw [typeAt_append (h.inForce_eq stack), typeAt_append hown]
  obtain ⟨tool, rfl, -⟩ := h
  rfl

/-- The leaves right below a tree are at home with it; the other trees there have homes of their
own. -/
theorem homes_children {P : Option String × String → Prop} {t : Tree} (hleaf : t.leaf? = none)
    (h : ∀ h ∈ t.homes, P h) : ∀ u ∈ t.children,
      (u.leaf? = none → ∀ h ∈ u.homes, P h) ∧ ∀ l ∈ u.leaf?, P (t.tool?, l.1) := by
  rw [Node.homes, Node.homesUnder_eq hleaf] at h
  intro u hu
  have hmem : ∀ h' ∈ u.homesUnder t.tool?, P h' := fun h' hh ↦
    h h' (Node.mem_homesUnderAll.mpr ⟨u, hu, hh⟩)
  refine ⟨fun huleaf ↦ ?_, fun l hl ↦ ?_⟩
  · rwa [← Node.homesUnder_eq_homes huleaf t.tool?]
  · obtain rfl := Node.eq_value_of_mem_leaf? hl
    exact hmem _ (List.mem_singleton.mpr rfl)

/-- The homes in the nodes of a tree are homes in the tree. -/
theorem homes_of_mem_nodes {P : Option String × String → Prop} {t : Tree} (hleaf : t.leaf? = none)
    (h : ∀ h ∈ t.homes, P h) {n : Tree} (hn : n ∈ t.nodes) (hnleaf : n.leaf? = none) :
    ∀ h ∈ n.homes, P h := by
  induction t using Node.induct_children with
  | h t ih =>
    rw [Node.nodes_eq_cons, List.mem_cons] at hn
    obtain rfl | hn := hn
    · exact h
    · obtain ⟨u, hu, hn⟩ := Node.mem_nodesAll.mp hn
      cases huleaf : u.leaf? with
      | none => exact ih u hu huleaf ((homes_children hleaf h u hu).1 huleaf) hn
      | some l =>
        obtain rfl := Node.eq_value_of_mem_leaf? huleaf
        obtain rfl := List.mem_singleton.mp hn
        cases hnleaf

/-- An argument leaves alone what lies below it, if it is a tree that does so anywhere or a plain
value that finds its name there. -/
theorem openAfter_arg {t : Tree} {base : List Properties}
    (htree : t.leaf? = none → ∀ stack,
      openAfter known stack t.nodes = openAfter known [] t.nodes ++ stack)
    (hvalue : ∀ l ∈ t.leaf?, inForce l.1 base = base) (above : List Properties) :
    openAfter known (above ++ base) t.nodes = openAfter known above t.nodes ++ base := by
  cases hleaf : t.leaf? with
  | none => rw [htree hleaf (above ++ base), htree hleaf above, List.append_assoc]
  | some l =>
    obtain rfl := Node.eq_value_of_mem_leaf? hleaf
    exact inForce_append (hvalue l rfl) above

/-- So do all arguments together. -/
theorem openAfter_args (ts : List Tree) (base : List Properties)
    (htrees : ∀ t ∈ ts, t.leaf? = none → ∀ stack,
      openAfter known stack t.nodes = openAfter known [] t.nodes ++ stack)
    (hvalues : ∀ t ∈ ts, ∀ l ∈ t.leaf?, inForce l.1 base = base) (above : List Properties) :
    openAfter known (above ++ base) (Node.nodesAll ts) =
      openAfter known above (Node.nodesAll ts) ++ base := by
  induction ts generalizing above with
  | nil => rfl
  | cons t ts ih =>
    rw [List.forall_mem_cons] at htrees hvalues
    rw [Node.nodesAll, openAfter_append, openAfter_append, openAfter_arg htrees.1 hvalues.1,
      ih htrees.2 hvalues.2]

/-- **The stack below a tree.** A tree that is no leaf takes away nothing but what it has put on the
stack itself. -/
theorem openAfter_nodes {t : Tree} (hleaf : t.leaf? = none)
    (hserved : ∀ h ∈ t.homes, Served known h) (stack : List Properties) :
    openAfter known stack t.nodes = openAfter known [] t.nodes ++ stack := by
  induction t using Node.induct_children generalizing stack with
  | h t ih =>
    have hargs := homes_children hleaf hserved
    -- the trees below are visited with the properties of this call on top
    have hbelow : ∀ stack, openAfter known stack t.nodes =
        openAfter known [] (Node.nodesAll t.children) ++
          ((t.tool?.map (toolProperties known)).toList ++ stack) := by
      intro stack
      have hframe := openAfter_args t.children
        ((t.tool?.map (toolProperties known)).toList ++ stack)
        (fun u hu huleaf ↦ ih u hu huleaf ((hargs u hu).1 huleaf))
        (fun u hu l hl ↦ ((hargs u hu).2 l hl).inForce_eq stack) []
      rw [← hframe, List.nil_append, ← openStep_of_not_leaf known hleaf, Node.nodes_eq_cons]
      rfl
    rw [hbelow stack, hbelow [], List.append_nil, List.append_assoc]

/-- Something holds of all places in a list if it holds of the first and of all later ones. -/
theorem forall_split_cons_iff {α : Type} (Q : List α → α → Prop) (x : α) (xs : List α) :
    (∀ before y after, x :: xs = before ++ y :: after → Q before y) ↔
      Q [] x ∧ ∀ before y after, xs = before ++ y :: after → Q (x :: before) y := by
  constructor
  · intro h
    refine ⟨h [] x xs rfl, fun before y after hxs ↦ h (x :: before) y after ?_⟩
    rw [hxs, List.cons_append]
  · rintro ⟨hx, hxs⟩ before y after h
    cases before with
    | nil =>
      obtain ⟨rfl, -⟩ := List.cons.inj h
      exact hx
    | cons z before =>
      obtain ⟨hz, htail⟩ := List.cons.inj h
      rw [← hz]
      exact hxs before y after htail

/-- The types that arguments take are those they should have if the plain values among them find
these, each with what the arguments before it have left open, and the other arguments are
settled. -/
theorem given_args_iff (ts : List Tree) (home : Option String) (base : List Properties)
    (htrees : ∀ t ∈ ts, t.leaf? = none → ∀ stack,
      openAfter known stack t.nodes = openAfter known [] t.nodes ++ stack)
    (hsettled : ∀ t ∈ ts, t.leaf? = none → ∀ stack,
      (given known stack t.nodes = t.homes.map (homeType known) ↔ Settled known t))
    (hvalues : ∀ t ∈ ts, ∀ l ∈ t.leaf?, inForce l.1 base = base) (above : List Properties) :
    given known (above ++ base) (Node.nodesAll ts) =
        (Node.homesUnderAll home ts).map (homeType known) ↔
      (∀ before t after, ts = before ++ t :: after → ∀ l ∈ t.leaf?,
        typeAt l.1 (openAfter known above (Node.nodesAll before) ++ base) =
          homeType known (home, l.1)) ∧
      ∀ t ∈ ts, t.leaf? = none → Settled known t := by
  induction ts generalizing above with
  | nil => simp [Node.nodesAll, Node.homesUnderAll, given]
  | cons t ts ih =>
    rw [List.forall_mem_cons] at htrees hsettled hvalues
    -- the first argument by itself
    have hfirst : given known (above ++ base) t.nodes = (t.homesUnder home).map (homeType known) ↔
        (∀ l ∈ t.leaf?, typeAt l.1 (above ++ base) = homeType known (home, l.1)) ∧
          (t.leaf? = none → Settled known t) := by
      cases hleaf : t.leaf? with
      | none =>
        rw [Node.homesUnder_eq_homes hleaf]
        simpa using hsettled.1 hleaf (above ++ base)
      | some l =>
        obtain rfl := Node.eq_value_of_mem_leaf? hleaf
        simp [Node.nodes, Node.homesUnder, given, Node.leaf?]
    have hlength : (given known (above ++ base) t.nodes).length =
        ((t.homesUnder home).map (homeType known)).length := by
      rw [length_given, List.length_map, Node.length_homesUnder]
    have happend : ∀ {types types' : List (Option Annotation)},
        given known (above ++ base) t.nodes ++ types =
            (t.homesUnder home).map (homeType known) ++ types' ↔
          given known (above ++ base) t.nodes = (t.homesUnder home).map (homeType known) ∧
            types = types' := by
      intro types types'
      exact ⟨fun h ↦ List.append_inj h hlength, fun h ↦ by rw [h.1, h.2]⟩
    have hsplit := forall_split_cons_iff (fun before t ↦ ∀ l ∈ t.leaf?,
      typeAt l.1 (openAfter known above (Node.nodesAll before) ++ base) =
        homeType known (home, l.1)) t ts
    have hrest := ih htrees.2 hsettled.2 hvalues.2 (openAfter known above t.nodes)
    rw [Node.nodesAll, given_append, Node.homesUnderAll, List.map_append,
      happend, hfirst, openAfter_arg htrees.1 hvalues.1, hrest,
      hsplit, List.forall_mem_cons, and_and_and_comm]
    simp only [Node.nodesAll, openAfter_append]
    rfl

/-- A settled tree is one whose root is settled, if it is a call, and the trees below too. -/
theorem settled_iff {t : Tree} : Settled known t ↔
    (∀ tool args, t = .call tool args → SettledCall known tool args) ∧
      ∀ u ∈ t.children, u.leaf? = none → Settled known u := by
  have hnodes : ∀ u : Tree, Settled known u ↔
      ∀ n ∈ u.nodes, ∀ tool args, n = .call tool args → SettledCall known tool args := by
    intro u
    constructor
    · rintro h n hn tool args rfl
      exact h tool args hn
    · exact fun h tool args hn ↦ h _ hn tool args rfl
  rw [hnodes, Node.forall_mem_nodes_iff]
  refine and_congr_right fun _ ↦ forall₂_congr fun u _ ↦ ?_
  rw [← hnodes]
  refine ⟨fun h _ ↦ h, fun h ↦ ?_⟩
  cases hleaf : u.leaf? with
  | none => exact h hleaf
  | some l =>
    obtain rfl := Node.eq_value_of_mem_leaf? hleaf
    intro tool args hmem
    cases List.mem_singleton.mp hmem

/-- A call is settled or not whatever lies below it on the stack. -/
theorem settledCall_iff {t : Tree}
    (hserved : ∀ u ∈ t.children, ∀ l ∈ u.leaf?, Served known (t.tool?, l.1))
    (stack : List Properties) :
    (∀ before u after, t.children = before ++ u :: after → ∀ l ∈ u.leaf?,
      typeAt l.1 (openAfter known [] (Node.nodesAll before) ++
        ((t.tool?.map (toolProperties known)).toList ++ stack)) =
          homeType known (t.tool?, l.1)) ↔
      ∀ tool args, t = .call tool args → SettledCall known tool args := by
  constructor
  · rintro h tool args rfl before name literal after rfl
    have hhome := hserved (.value name literal) (by simp [Node.children]) (name, literal) rfl
    have htype := h before (.value name literal) after rfl (name, literal) rfl
    rwa [hhome.typeAt_eq] at htype
  · intro h before u after hchildren l hl
    have hhome := hserved u (by simp [hchildren]) l hl
    obtain rfl := Node.eq_value_of_mem_leaf? hl
    rw [hhome.typeAt_eq]
    -- a leaf that has a home stands below a call
    obtain ⟨tool, htool, -⟩ := hhome
    cases t with
    | call tool args => exact h tool args rfl before l.1 l.2 after hchildren
    | _ => cases htool

/-- **Types come out right in a settled tree.** Whatever lies below on the stack, the leaves of a
tree take the types they should have just if the tree is settled. -/
theorem given_nodes_iff {t : Tree} (hleaf : t.leaf? = none)
    (hserved : ∀ h ∈ t.homes, Served known h) (stack : List Properties) :
    given known stack t.nodes = t.homes.map (homeType known) ↔ Settled known t := by
  induction t using Node.induct_children generalizing stack with
  | h t ih =>
    have hargs := homes_children hleaf hserved
    have hbelow := given_args_iff t.children t.tool?
      ((t.tool?.map (toolProperties known)).toList ++ stack)
      (fun u hu huleaf ↦ openAfter_nodes huleaf ((hargs u hu).1 huleaf))
      (fun u hu huleaf ↦ ih u hu huleaf ((hargs u hu).1 huleaf))
      (fun u hu l hl ↦ ((hargs u hu).2 l hl).inForce_eq stack) []
    have hgiven : given known stack t.nodes = given known
        ([] ++ ((t.tool?.map (toolProperties known)).toList ++ stack))
        (Node.nodesAll t.children) := by
      rw [Node.nodes_eq_cons, given, hleaf, openStep_of_not_leaf known hleaf]
      rfl
    rw [hgiven, Node.homes, Node.homesUnder_eq hleaf, hbelow, settled_iff]
    refine and_congr_left fun _ ↦ ?_
    exact settledCall_iff (fun u hu ↦ (hargs u hu).2) stack

end

/-! ## Plain values first -/

/-- In a list of arguments nothing but plain values comes before a plain value. -/
def ValuesFirst (args : List Tree) : Prop :=
  ∀ before name literal after, args = before ++ .value name literal :: after →
    ∀ t ∈ before, t.leaf?.isSome

section

variable {known : String → Option Definition}

/-- Plain values leave nothing open. -/
theorem openAfter_values {ts : List Tree} (h : ∀ t ∈ ts, t.leaf?.isSome) :
    openAfter known [] (Node.nodesAll ts) = [] := by
  induction ts with
  | nil => rfl
  | cons t ts ih =>
    obtain ⟨ht, hts⟩ := List.forall_mem_cons.mp h
    obtain ⟨l, hl⟩ := Option.isSome_iff_exists.mp ht
    obtain rfl := Node.eq_value_of_mem_leaf? hl
    exact ih hts

/-- A tool that is known is known under the name by which it is run. -/
def NamedAlike (known : String → Option Definition) (tool : String) : Prop :=
  ∀ d, known tool = some d → known (toolName tool) = some d

/-- A tool that is known alike has the properties that its leaves should have their types from. -/
theorem homeType_eq {tool : String} (hknown : (known tool).isSome) (halike : NamedAlike known tool)
    (name : String) : homeType known (some tool, name) =
      ((toolProperties known tool).lookup name).map annotationOf := by
  obtain ⟨d, hd⟩ := Option.isSome_iff_exists.mp hknown
  simp [homeType, toolProperties, hd, halike d hd]

theorem settledCall_of_valuesFirst {tool : String} {args : List Tree}
    (hknown : (known tool).isSome) (halike : NamedAlike known tool)
    (htypes : ∀ u ∈ args, ∀ l ∈ u.leaf?, (homeType known (some tool, l.1)).isSome)
    (h : ValuesFirst args) : SettledCall known tool args := by
  rintro before name literal after rfl
  have hsome := htypes (.value name literal) (by simp) (name, literal) rfl
  rw [homeType_eq hknown halike, Option.isSome_map] at hsome
  rw [openAfter_values (h before name literal after rfl), homeType_eq hknown halike]
  simp [typeAt, inForce, hsome]

end

/-! ## Programs -/

/-- The home of a leaf is a tool that the tree calls, or the one that the tree itself is below. -/
theorem Node.home_mem_tools {α : Type} {t : Node α} {home : Option String}
    {h : Option String × String} (hh : h ∈ t.homesUnder home) {tool : String}
    (htool : h.1 = some tool) : home = some tool ∨ tool ∈ t.tools := by
  induction t using Node.induct_children generalizing home with
  | h t ih =>
    cases hleaf : t.leaf? with
    | some l =>
      obtain rfl := eq_value_of_mem_leaf? hleaf
      obtain rfl := List.mem_singleton.mp hh
      exact Or.inl htool
    | none =>
      rw [homesUnder_eq hleaf] at hh
      obtain ⟨u, hu, hh⟩ := mem_homesUnderAll.mp hh
      right
      rcases ih u hu hh with hself | hbelow
      · exact List.mem_filterMap.mpr ⟨t, self_mem_nodes t, hself⟩
      · obtain ⟨n, hn, hntool⟩ := List.mem_filterMap.mp hbelow
        refine List.mem_filterMap.mpr ⟨n, ?_, hntool⟩
        rw [nodes_eq_cons]
        exact List.mem_cons_of_mem t (mem_nodesAll_of_mem hu hn)

/-- A program is compiled to a tool with a parameter for each of its leaves, in order, of the type
that the leaf should have. -/
def CompilesTyped {σ : Type} (p : Provider σ) (known : String → Option Definition) (t : Tree)
    (s : σ) : Prop :=
  ∃ c s', compile p t s = (.ok c, s') ∧ c.names = parameterNames [] (t.homes.map Prod.snd) ∧
    c.parameters.map (fun q ↦ some q.annotation) = t.homes.map (homeType known)

section

variable {σ : Type} {p : Provider σ} {I : σ → Prop} {known : String → Option Definition} {s : σ}
  {mode : Mode} {name description : String} {body : List Tree} {t : Tree}

/-- Compiling gives the leaves the types that they take from the stack, so what is to be shown of it
is a matter of the stack. -/
theorem compilesTyped_iff_given (hp : p.Knows I known) (hs : I s)
    (ht : t = .program ⟨mode, some name, some description⟩ body) (hname : name ≠ "")
    (hdescription : description ≠ "") (hfirst : ∀ n ∈ t.nodes, n.IsFirstOrder)
    (hhomes : ∀ h ∈ t.homes, Text.isParameterName h.2 = true ∧ (homeType known h).isSome) :
    CompilesTyped p known t s ↔ (∀ tool ∈ t.tools, (known tool).isSome) ∧
      given known [] t.nodes = t.homes.map (homeType known) := by
  have hname' : Text.filled? (some name) = some name := if_neg hname
  have hdescription' : Text.filled? (some description) = some description := if_neg hdescription
  have hleaves : t.homes.map Prod.snd = t.leaves.map Prod.fst := t.map_snd_homesUnder none
  have htools : (∀ tool ∈ t.tools, (known tool).isSome) ↔
      ∀ n ∈ t.nodes, ∀ tool ∈ n.tool?, (known tool).isSome := by
    simp only [Node.tools, List.mem_filterMap]
    exact ⟨fun h n hn tool htool ↦ h tool ⟨n, hn, htool⟩, fun h tool ⟨n, hn, htool⟩ ↦
      h n hn tool htool⟩
  rw [htools]
  constructor
  · rintro ⟨c, s', hc, -, htypes⟩
    rcases hvisit : visitEach (collect p name) t.nodes (s, {}) with ⟨e | u, s₁, c₁⟩
    · subst ht
      rw [compile_of_visit_error hname' hdescription' hvisit] at hc
      cases hc
    · obtain ⟨hgiven, hknown⟩ := visitEach_collect_given hp hs hvisit
      subst ht
      rw [compile_of_visit_ok hname' hdescription' hvisit] at hc
      obtain rfl := Except.ok.inj (congrArg Prod.fst hc)
      exact ⟨hknown, hgiven.symm.trans htypes⟩
  · rintro ⟨hknown, hgiven⟩
    have hnames : ∀ n ∈ t.nodes, ∀ l ∈ n.leaf?, Text.isParameterName l.1 = true := by
      intro n hn l hl
      have hmem : l.1 ∈ t.homes.map Prod.snd := by
        rw [hleaves]
        exact List.mem_map_of_mem (List.mem_filterMap.mpr ⟨n, hn, hl⟩)
      obtain ⟨h, hh, heq⟩ := List.mem_map.mp hmem
      rw [← heq]
      exact (hhomes h hh).1
    have hsome : ∀ a ∈ given known [] t.nodes, a.isSome := by
      rw [hgiven]
      intro a ha
      obtain ⟨h, hh, rfl⟩ := List.mem_map.mp ha
      exact (hhomes h hh).2
    obtain ⟨s', c, hvisit⟩ :=
      visitEach_collect_succeeds (c := {}) name hp hs hfirst hknown hnames hsome
    obtain ⟨htypes, -⟩ := visitEach_collect_given hp hs hvisit
    have hc : compile p t s = (.ok ⟨name, description, c.parameters, t⟩, s') := by
      subst ht
      exact compile_of_visit_ok hname' hdescription' hvisit
    refine ⟨_, s', hc, ?_, htypes.trans hgiven⟩
    rw [(compile_ok hc).2.1, hleaves]

/-- **When the types of parameters come out right.** Let every leaf of a program of first order be
an argument of a call whose tool, the one that is run, has a property of its name. Then the program
is compiled with the type of that property for each of its leaves exactly if all its calls are known
under the names that they give to their tools, and each call is settled. That is so if in each call
the plain values come before the other arguments. -/
theorem compile_types_iff_settled (hp : p.Knows I known) (hs : I s)
    (ht : t = .program ⟨mode, some name, some description⟩ body) (hname : name ≠ "")
    (hdescription : description ≠ "") (hfirst : ∀ n ∈ t.nodes, n.IsFirstOrder)
    (hhomes : ∀ h ∈ t.homes, Text.isParameterName h.2 = true ∧ (homeType known h).isSome)
    (halike : ∀ tool ∈ t.tools, NamedAlike known tool) :
    (CompilesTyped p known t s ↔
      (∀ tool ∈ t.tools, (known tool).isSome) ∧ Settled known t) ∧
    ((∀ tool ∈ t.tools, (known tool).isSome) →
      (∀ tool args, .call tool args ∈ t.nodes → ValuesFirst args) → CompilesTyped p known t s) := by
  have hleaf : t.leaf? = none := by rw [ht]; rfl
  have htools : ∀ h ∈ t.homes, ∀ tool, h.1 = some tool → tool ∈ t.tools := fun h hh tool htool ↦
    (Node.home_mem_tools hh htool).resolve_left (by simp)
  have hserved : (∀ tool ∈ t.tools, (known tool).isSome) → ∀ h ∈ t.homes, Served known h := by
    rintro hknown ⟨home, name⟩ hh
    have hsome := (hhomes _ hh).2
    cases home with
    | none => cases hsome
    | some tool =>
      have htool := htools _ hh tool rfl
      rw [homeType_eq (hknown tool htool) (halike tool htool), Option.isSome_map] at hsome
      exact ⟨tool, rfl, hsome⟩
  have hiff : CompilesTyped p known t s ↔
      (∀ tool ∈ t.tools, (known tool).isSome) ∧ Settled known t := by
    rw [compilesTyped_iff_given hp hs ht hname hdescription hfirst hhomes]
    exact and_congr_right fun hknown ↦ given_nodes_iff hleaf (hserved hknown) []
  refine ⟨hiff, fun hknown hvalues ↦ hiff.mpr ⟨hknown, fun tool args hcall ↦ ?_⟩⟩
  have htool : tool ∈ t.tools := List.mem_filterMap.mpr ⟨_, hcall, rfl⟩
  have htypes := homes_children rfl (homes_of_mem_nodes hleaf hhomes hcall rfl)
  exact settledCall_of_valuesFirst (hknown tool htool) (halike tool htool)
    (fun u hu l hl ↦ ((htypes u hu).2 l hl).2) (hvalues tool args hcall)

end

/-- The definitions of a toolbox, as they are first looked up. -/
def Toolbox.known (b : Toolbox) (tool : String) : Option Definition :=
  b.provider.definition? tool none

/-- A toolbox with a registry knows its tools alike before and after the first lookup. -/
theorem Toolbox.provider_knows {b : Toolbox} (h : b.lookUp = .registry) :
    b.provider.Knows (fun s ↦ s = none ∨ s = some b.registry) b.known := by
  have hdefine : ∀ tool, b.provider.define tool = CallTree.lookUp id b.list tool := by
    intro tool
    simp only [provider, h]
  have hfills : ∀ tool, b.provider.define tool none = b.provider.define tool (some b.registry) := by
    intro tool
    simp [hdefine, CallTree.lookUp, ensureListed, list, h]
  have hstays : ∀ tool, (b.provider.define tool (some b.registry)).2 = some b.registry := by
    intro tool
    rw [hdefine]
    exact (lookUp_of_registry (id_eq (some b.registry)) tool).1
  constructor
  · rintro tool s (rfl | rfl)
    · rfl
    · rw [known, Provider.definition?, Provider.definition?, hfills]
  · rintro tool s (rfl | rfl)
    · rw [hfills, hstays]
      exact Or.inr rfl
    · rw [hstays]
      exact Or.inr rfl

/-- Four tools, two of which have a property of the same name with different types. -/
def making : Toolbox where
  tools := [⟨"size", SmallTool.metadataOf "size" [("of", some "string")], .len⟩,
    ⟨"pad", SmallTool.metadataOf "pad" [("count", some "integer"), ("of", some "array")], .echo⟩,
    ⟨"half", SmallTool.metadataOf "half" [("x", some "number")], .echo⟩,
    ⟨"label", SmallTool.metadataOf "label" [("text", some "string"), ("n", some "integer")], .echo⟩]

/-- A program of the given calls. -/
def madeOf (body : List Tree) : Tree :=
  .program ⟨.single, some "made", some "Made of calls."⟩ body

/-- Two calls with a call before a plain value, each of which is settled. -/
def labelThenPad : Tree := madeOf [
  .call "label" [.call "size" [.value "of" (.str "abc")], .value "n" (.int 1)],
  .call "pad" [.call "half" [.value "x" (.int 1)], .value "of" (.list [.int 1])]]

theorem compile_types_iff_settled_labelThenPad :
    CompilesTyped making.provider making.known labelThenPad none ∧
      Settled making.known labelThenPad := by
  have hfirst : ∀ n ∈ labelThenPad.nodes, n.IsFirstOrder := by
    simp [labelThenPad, madeOf, Node.nodes, Node.nodesAll, Node.IsFirstOrder]
  have hhomes : ∀ h ∈ labelThenPad.homes,
      Text.isParameterName h.2 = true ∧ (homeType making.known h).isSome := by decide +kernel
  have hplain : ∀ tool ∈ labelThenPad.tools, toolName tool = tool := by decide +kernel
  have halike : ∀ tool ∈ labelThenPad.tools, NamedAlike making.known tool := by
    intro tool htool d hd
    rwa [hplain tool htool]
  have hiff := (compile_types_iff_settled (Toolbox.provider_knows rfl) (Or.inl rfl) rfl (by decide)
    (by decide) hfirst hhomes halike).1
  have hcompiles : CompilesTyped making.provider making.known labelThenPad none :=
    ⟨_, _, rfl, by cbv, by cbv⟩
  exact ⟨hcompiles, (hiff.mp hcompiles).2⟩

/-- The plain value has the name of a property of the call before it. -/
def padSize : Tree := madeOf [
  .call "pad" [.call "size" [.value "of" (.str "abc")], .value "of" (.list [.int 1])]]

/-- Before the plain value two calls are left open. -/
def labelHalf : Tree := madeOf [
  .call "label" [.call "half" [.call "size" [.value "of" (.str "abc")]], .value "n" (.int 1)]]

/-- The tool is known, but not with the mark in front of its name. -/
def markedHalf : Tree := madeOf [.call "functions.half" [.value "x" (.int 1)]]

/-- **Types that come out wrong.** In three programs every leaf is an argument of a call whose tool
has a property of its name, but one is compiled with the type of another call's property and the
other two are not compiled. -/
theorem types_of_other_calls :
    (∀ t ∈ [padSize, labelHalf, markedHalf], (∀ n ∈ t.nodes, n.IsFirstOrder) ∧
      ∀ h ∈ t.homes, Text.isParameterName h.2 = true ∧ (homeType making.known h).isSome) ∧
    padSize.homes.map (homeType making.known) = [some .text, some .list] ∧
    (compile making.provider padSize none).1.toOption.map (·.parameters) =
      some [⟨"of", .text⟩, ⟨"of_2", .text⟩] ∧
    (compile making.provider labelHalf none).1 = .error .noProperty ∧
    (compile making.provider markedHalf none).1 =
      .error (.raised (.toolMissing "functions.half")) := by
  refine ⟨?_, by cbv, by cbv, by cbv, by cbv⟩
  have hfirst : ∀ t ∈ [padSize, labelHalf, markedHalf], ∀ n ∈ t.nodes, n.IsFirstOrder := by
    simp [padSize, labelHalf, markedHalf, madeOf, Node.nodes, Node.nodesAll, Node.IsFirstOrder]
  have hhomes : ∀ t ∈ [padSize, labelHalf, markedHalf], ∀ h ∈ t.homes,
      Text.isParameterName h.2 = true ∧ (homeType making.known h).isSome := by decide +kernel
  exact fun t ht ↦ ⟨hfirst t ht, hhomes t ht⟩

end CallTree
