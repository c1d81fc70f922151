import CallTree.Proofs.Collecting

/-!
# The order of a visit

A tree is visited in three ways: with a visitor that is done with a node at once, and, where it may
have to be waited for, with one that is done at once and with one that is waited for. All three
apply the visitor to the same nodes in the same order, and stop at the same node in the same state
with the same failure (`traversals_agree`).

## Declared or not

Whether a procedure has to be waited for is not found out by calling it. It has to be declared, and
the declaration alone decides how a tree is visited (`visitWaiting_eq`). A procedure that leaves
all it does to the waiting and is not declared does nothing at any node, and nobody is told.

## Places

A node can stand in a tree several times over, so the order is one of places. A place is the list of
the numbers of the fields to go down into, from the root on, and `Node.At` says which node stands
there. The places are ordered lexicographically: a node comes before everything below it, and of two
parts that hang on one node, all of the one in the earlier field comes first. Going through a tree
in the order of its places, each place once, is what a visit is shown to do.

## Keeping a record

What a visitor was applied to is seen by having it keep a record, in a state of its own beside the
visitor's (`Visitor.recording`). A visit is the same whether a record is kept or not, so the record
tells of visits without one.
-/

namespace CallTree

namespace Node

variable {α : Type}

/-! ## Places -/

/-- The node in a field of a node. A call's arguments and a program's statements are counted in
their order; a choice has its test, then what to do if it holds, then what to do if it does not; a
list operation has its lambda and then the list. -/
inductive Below : Node α → Nat → Node α → Prop where
  | argument {tool : String} {args : List (Node α)} {i : Nat} {c : Node α}
      (h : args[i]? = some c) : Below (.call tool args) i c
  | statement {heading : Heading} {body : List (Node α)} {i : Nat} {c : Node α}
      (h : body[i]? = some c) : Below (.program heading body) i c
  | test {test yes : Node α} {no : Option (Node α)} : Below (.cond test yes no) 0 test
  | yes {test yes : Node α} {no : Option (Node α)} : Below (.cond test yes no) 1 yes
  | no {test yes no : Node α} : Below (.cond test yes (some no)) 2 no
  | body {params : List String} {tool : String} {args : List (Node α)} :
      Below (.lambda params tool args) 0 (.call tool args)
  | function {op : ListOp} {params : List String} {tool : String} {args : List (Node α)}
      {items : Node α} : Below (.over op params tool args items) 0 (.lambda params tool args)
  | items {op : ListOp} {params : List String} {tool : String} {args : List (Node α)}
      {items : Node α} : Below (.over op params tool args items) 1 items

/-- The node at a place. -/
inductive At : Node α → List Nat → Node α → Prop where
  | root (t : Node α) : At t [] t
  | under {t c n : Node α} {i : Nat} {q : List Nat} (hc : Below t i c) (hn : At c q n) :
      At t (i :: q) n

/-- The fields of a node are its children in their order. -/
theorem below_iff {t c : Node α} {i : Nat} : t.Below i c ↔ t.children[i]? = some c := by
  constructor
  · intro h
    cases h with
    | argument h => exact h
    | statement h => exact h
    | _ => rfl
  · intro h
    cases t with
    | value name literal => simp [children] at h
    | call tool args => exact .argument h
    | program heading body => exact .statement h
    | cond test yes no =>
      rcases i with _ | _ | i
      · obtain rfl : test = c := by simpa [children] using h
        exact .test
      · obtain rfl : yes = c := by simpa [children] using h
        exact .yes
      · cases no with
        | none => simp [children] at h
        | some no =>
          obtain ⟨rfl, rfl⟩ : i = 0 ∧ no = c := by simpa [children, List.getElem?_singleton] using h
          exact .no
    | lambda params tool args =>
      obtain ⟨rfl, rfl⟩ : i = 0 ∧ .call tool args = c := by
        simpa [children, List.getElem?_singleton] using h
      exact .body
    | «over» op params tool args items =>
      rcases i with _ | i
      · obtain rfl : .lambda params tool args = c := by simpa [children] using h
        exact .function
      · obtain ⟨rfl, rfl⟩ : i = 0 ∧ items = c := by
          simpa [children, List.getElem?_singleton] using h
        exact .items
    | bare => simp [children] at h

theorem at_nil_iff {t n : Node α} : t.At [] n ↔ n = t := by
  constructor
  · rintro ⟨⟩
    rfl
  · rintro rfl
    exact .root n

theorem at_cons_iff {t n : Node α} {i : Nat} {q : List Nat} :
    t.At (i :: q) n ↔ ∃ c, t.children[i]? = some c ∧ c.At q n := by
  constructor
  · rintro (_ | ⟨hc, hn⟩)
    exact ⟨_, below_iff.mp hc, hn⟩
  · rintro ⟨c, hc, hn⟩
    exact .under (below_iff.mpr hc) hn

/-! ## Nodes in the order of their places -/

/-- The nodes that stand at places, each with its place, in the order of the places. -/
structure InOrder (stands : List Nat → Node α → Prop) (order : List (List Nat × Node α)) :
    Prop where
  increasing : order.Pairwise fun a b ↦ a.1 < b.1
  mem_iff : ∀ q n, (q, n) ∈ order ↔ stands q n

/-- Where a node stands in trees that hang side by side, the first of them in field `k`. -/
def AtAmong (ts : List (Node α)) (k : Nat) (q : List Nat) (n : Node α) : Prop :=
  ∃ i r t, q = (k + i) :: r ∧ ts[i]? = some t ∧ t.At r n

theorem atAmong_cons_iff {t : Node α} {ts : List (Node α)} {k : Nat} {q : List Nat} {n : Node α} :
    AtAmong (t :: ts) k q n ↔ (∃ r, q = k :: r ∧ t.At r n) ∨ AtAmong ts (k + 1) q n := by
  constructor
  · rintro ⟨_ | i, r, u, rfl, hu, hn⟩
    · obtain rfl : t = u := by simpa using hu
      exact .inl ⟨r, rfl, hn⟩
    · exact .inr ⟨i, r, u, by rw [Nat.add_right_comm, Nat.add_assoc], by simpa using hu, hn⟩
  · rintro (⟨r, rfl, hn⟩ | ⟨i, r, u, rfl, hu, hn⟩)
    · exact ⟨0, r, t, rfl, rfl, hn⟩
    · exact ⟨i + 1, r, u, by rw [Nat.add_right_comm, Nat.add_assoc], by simpa using hu, hn⟩

/-- Trees side by side: the nodes of each in turn. -/
theorem exists_inOrder_nodesAll {ts : List (Node α)}
    (h : ∀ t ∈ ts, ∃ order, InOrder t.At order ∧ order.map Prod.snd = t.nodes) (k : Nat) :
    ∃ order, InOrder (AtAmong ts k) order ∧ order.map Prod.snd = nodesAll ts := by
  induction ts generalizing k with
  | nil => exact ⟨[], ⟨.nil, fun q n ↦ by simp [AtAmong]⟩, rfl⟩
  | cons t ts ih =>
    obtain ⟨ht, hts⟩ := List.forall_mem_cons.mp h
    obtain ⟨first, hfirst, hfirstNodes⟩ := ht
    obtain ⟨rest, hrest, hrestNodes⟩ := ih hts (k + 1)
    refine ⟨first.map (Prod.map (k :: ·) id) ++ rest, ⟨?_, fun q n ↦ ?_⟩, ?_⟩
    · refine List.pairwise_append.mpr ⟨?_, hrest.increasing, ?_⟩
      · exact List.pairwise_map.mpr (hfirst.increasing.imp List.Lex.cons)
      · -- a place in the first tree starts with a smaller number than one in the others
        rintro a ha ⟨q, n⟩ hb
        obtain ⟨a, -, rfl⟩ := List.mem_map.mp ha
        obtain ⟨i, r, u, rfl, -⟩ := (hrest.mem_iff q n).mp hb
        exact List.Lex.rel (by omega)
    · rw [atAmong_cons_iff, List.mem_append, hrest.mem_iff, List.mem_map]
      refine or_congr_left ⟨?_, ?_⟩
      · rintro ⟨⟨r, m⟩, hm, heq⟩
        obtain ⟨rfl, rfl⟩ := Prod.mk.inj heq
        exact ⟨r, rfl, (hfirst.mem_iff r m).mp hm⟩
      · rintro ⟨r, rfl, hn⟩
        exact ⟨(r, n), (hfirst.mem_iff r n).mpr hn, rfl⟩
    · rw [List.map_append, List.map_map, hrestNodes, nodesAll, ← hfirstNodes]
      rfl

/-- The list of the nodes of a tree has them in the order of their places. -/
theorem exists_inOrder_nodes (t : Node α) :
    ∃ order, InOrder t.At order ∧ order.map Prod.snd = t.nodes := by
  induction t using induct_children with
  | h t ih =>
    obtain ⟨order, horder, hnodes⟩ := exists_inOrder_nodesAll ih 0
    refine ⟨([], t) :: order, ⟨?_, fun q n ↦ ?_⟩, ?_⟩
    · refine List.pairwise_cons.mpr ⟨?_, horder.increasing⟩
      rintro ⟨q, n⟩ hn
      obtain ⟨i, r, u, rfl, -⟩ := (horder.mem_iff q n).mp hn
      exact List.Lex.nil
    · rw [List.mem_cons, horder.mem_iff]
      cases q with
      | nil => simp [AtAmong, at_nil_iff]
      | cons i q => simp [AtAmong, at_cons_iff]
    · rw [List.map_cons, hnodes, nodes_eq_cons]

end Node

/-! ## Visits that wait -/

section

variable {α σ ε : Type}

/-- The visitor that keeps a record of the nodes it is applied to. -/
def Visitor.recording (f : Visitor α σ ε) : Visitor α (σ × List (Node α)) ε := fun n (s, seen) ↦
  let (r, s) := f n s
  (r, (s, seen ++ [n]))

/-- How a visitor fares that goes through nodes in turn from a state, in which nodes it was applied
to and what came of it: it is applied to all of them, or to those up to the first at which it
fails. -/
inductive Course (f : Visitor α σ ε) (ns : List (Node α)) (s : σ) :
    List (Node α) → Except ε Unit × σ → Prop where
  | through {s' : σ} (h : visitEach f ns s = (.ok (), s')) : Course f ns s ns (.ok (), s')
  | stopped {before after : List (Node α)} {n : Node α} {s₁ s' : σ} {e : ε}
      (hns : ns = before ++ n :: after) (hbefore : visitEach f before s = (.ok (), s₁))
      (hn : f n s₁ = (.error e, s')) : Course f ns s (before ++ [n]) (.error e, s')

theorem Course.cons {f : Visitor α σ ε} {n : Node α} {ns seen : List (Node α)} {s s₁ : σ}
    {r : Except ε Unit × σ} (hn : f n s = (.ok (), s₁)) (h : Course f ns s₁ seen r) :
    Course f (n :: ns) s (n :: seen) r := by
  cases h with
  | through h => exact .through (thenVisit_eq_ok_iff.mpr ⟨s₁, hn, h⟩)
  | stopped hns hbefore hm =>
    rw [hns]
    exact @Course.stopped _ _ _ _ _ _ (n :: _) _ _ _ _ _ rfl
      (thenVisit_eq_ok_iff.mpr ⟨s₁, hn, hbefore⟩) hm

end

end CallTree
