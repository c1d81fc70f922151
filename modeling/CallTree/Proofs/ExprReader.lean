import CallTree.Proofs.Scanners

/-!
# What is read as an expression

The readers of expressions are given some end of a text and leave a shorter one. An expression that
they give is `Grown` from the text: its whole numbers are no longer than the text, and it has
members of sets and entries of mappings only if the text has an opening brace.

The readers count down one bound together. `Reading` has what each of them gives with one bound, and
is carried from one bound to the next, one lemma for each reader.
-/

namespace CallTree.Code

variable {T : List Char}

/-! ## Expressions -/

/-- An expression has whole numbers that are no longer than the text, and members of sets and
entries of mappings only if the text has an opening brace. -/
inductive Grown (T : List Char) : Expr → Prop where
  | atom {v : Value} (h : Small T v) : Grown T (.atom v)
  | name (s : String) : Grown T (.name s)
  | signed {neg : Bool} {e : Expr} (h : Grown T e) : Grown T (.signed neg e)
  | sum {left right : Expr} {neg : Bool} (hl : Grown T left) (hr : Grown T right) :
      Grown T (.sum left neg right)
  | list {es : List Expr} (h : ∀ e ∈ es, Grown T e) : Grown T (.list es)
  | tuple {es : List Expr} (h : ∀ e ∈ es, Grown T e) : Grown T (.tuple es)
  | emptySet : Grown T (.set [])
  | set {es : List Expr} (hbrace : '\x7b' ∈ T) (h : ∀ e ∈ es, Grown T e) : Grown T (.set es)
  | map {es : List (Expr × Expr)} (hbrace : '\x7b' ∈ T) (hkeys : ∀ e ∈ es, Grown T e.1)
      (h : ∀ e ∈ es, Grown T e.2) : Grown T (.map es)
  | starred (target : Bool) : Grown T (.starred target)
  | other (target : Bool) : Grown T (.other target)

/-- What stands between two brackets is grown from the text. -/
def GrownContents (T : List Char) : Contents → Prop
  | .items es _ => ∀ e ∈ es, Grown T e
  | .clauses => True

theorem grown_joined {first : Expr} {more : List (Option Bool × Expr)} (h : Grown T first)
    (hmore : ∀ e ∈ more, Grown T e.2) : Grown T (first.joined more) := by
  rw [Expr.joined.eq_def]
  split
  · exact h
  · exact .sum h (hmore _ List.mem_cons_self)
  · exact .other false

theorem grown_called (noArguments : Bool) (e : Expr) : Grown T (e.called noArguments) := by
  rw [Expr.called.eq_def]
  split
  · split
    · exact .emptySet
    · exact .other false
  · exact .other false

/-- The reader gives an expression that is grown from the text. -/
abbrev Gives (T : List Char) (x : Option (Read Expr)) : Prop := Sure x (Yields T (Grown T))

/-- The reader leaves an end of the text. -/
abbrev Ends (T : List Char) (x : Option (List Char)) : Prop := Sure x (· <:+ T)

/-- The reader gives something and leaves an end of the text. -/
abbrev EndsBehind {α : Type} (T : List Char) (x : Option (Read α)) : Prop := Sure x (·.2 <:+ T)

/-- What the readers give with this bound, from an end of the text. -/
structure Reading (T : List Char) (fuel : Nat) : Prop where
  named : ∀ {depth cs}, cs <:+ T → Gives T (readNamed fuel depth cs)
  choice : ∀ {depth cs}, cs <:+ T → Gives T (readChoice fuel depth cs)
  chain : ∀ {depth logic cs}, cs <:+ T → Gives T (readChain fuel depth logic cs)
  joined : ∀ {depth logic cs}, cs <:+ T →
    Sure (readJoined fuel depth logic cs) (Yields T fun es ↦ ∀ e ∈ es, Grown T e.2)
  operand : ∀ {depth cs}, cs <:+ T → Gives T (readOperand fuel depth cs)
  primary : ∀ {depth cs}, cs <:+ T → Gives T (readPrimary fuel depth cs)
  trailers : ∀ {depth e cs}, Grown T e → cs <:+ T → Gives T (readTrailers fuel depth e cs)
  atom : ∀ {depth cs}, cs <:+ T → Gives T (readAtom fuel depth cs)
  item : ∀ {depth cs}, cs <:+ T → Gives T (readItem fuel depth cs)
  items : ∀ {depth close first cs}, cs <:+ T →
    Sure (readItems fuel depth close first cs) (Yields T (GrownContents T))
  group : ∀ {depth cs}, cs <:+ T → Gives T (readGroup fuel depth cs)
  yielded : ∀ {depth cs}, cs <:+ T → Ends T (readYielded fuel depth cs)
  handed : ∀ {depth cs}, cs <:+ T → Ends T (readHanded fuel depth cs)
  braces : ∀ {depth cs}, '\x7b' ∈ T → cs <:+ T → Gives T (readBraces fuel depth cs)
  entries : ∀ {depth cs}, cs <:+ T →
    Sure (readEntries fuel depth cs) (Yields T fun es ↦ ∀ e ∈ es, Grown T e.1 ∧ Grown T e.2)
  entry : ∀ {depth cs}, cs <:+ T →
    Sure (readEntry fuel depth cs) (Yields T fun e ↦ Grown T e.1 ∧ Grown T e.2)
  clauses : ∀ {depth cs}, cs <:+ T → Ends T (readClauses fuel depth cs)
  targets : ∀ {depth cs}, cs <:+ T → Ends T (readTargets fuel depth cs)
  conditions : ∀ {depth cs}, cs <:+ T → Ends T (readConditions fuel depth cs)
  arguments : ∀ {depth before cs}, cs <:+ T → EndsBehind T (readArguments fuel depth before cs)
  argument : ∀ {depth before cs}, cs <:+ T → EndsBehind T (readArgument fuel depth before cs)
  slices : ∀ {depth cs}, cs <:+ T → Ends T (readSlices fuel depth cs)
  slice : ∀ {depth cs}, cs <:+ T → Ends T (readSlice fuel depth cs)
  bounds : ∀ {depth count cs}, cs <:+ T → Ends T (readBounds fuel depth count cs)
  parameters : ∀ {depth before cs}, cs <:+ T → Ends T (readParameters fuel depth before cs)
  parameter : ∀ {depth before cs}, cs <:+ T → EndsBehind T (readParameter fuel depth before cs)
  quotes : ∀ {depth bytes cs}, cs <:+ T → EndsBehind T (readQuotes fuel depth bytes cs)

namespace Reading

variable {fuel depth : Nat} {cs : List Char}

theorem named_succ (ih : Reading T fuel) (h : cs <:+ T) :
    Gives T (readNamed (fuel + 1) depth cs) := by
  rw [readNamed]
  split
  · next rest heq =>
    refine (ih.choice (behindNaming?_end h depth rest heq)).bind fun r hr ↦ ?_
    exact sure_some ⟨.other false, hr.2⟩
  · exact ih.choice h

theorem choice_succ (ih : Reading T fuel) (h : cs <:+ T) :
    Gives T (readChoice (fuel + 1) depth cs) := by
  rw [readChoice]
  split
  · next rest heq =>
    have hend := trimmed_end (behindWord?_end h _ rest heq) depth
    refine (ih.parameters hend).bind fun rest hrest ↦ ?_
    exact (ih.choice hrest).bind fun r hr ↦ sure_some ⟨.other false, hr.2⟩
  · refine (ih.chain h).bind ?_
    rintro ⟨e, rest⟩ he
    dsimp only
    split
    · exact sure_some he
    · next left heq =>
      have hleft := trimmed_end (behindWord?_end he.2 _ left heq) depth
      refine (ih.chain hleft).bind fun r hr ↦ ?_
      refine (behindWord?_end hr.2 "else").bind fun rest hrest ↦ ?_
      exact (ih.choice (trimmed_end hrest depth)).bind fun r hr ↦ sure_some ⟨.other false, hr.2⟩

theorem chain_succ (ih : Reading T fuel) {logic : Bool} (h : cs <:+ T) :
    Gives T (readChain (fuel + 1) depth logic cs) := by
  rw [readChain]
  split
  · next rest heq =>
    have hrest : rest <:+ T := by
      split at heq
      · exact behindWord?_end h _ rest heq
      · cases heq
    exact (ih.chain (trimmed_end hrest depth)).bind fun r hr ↦ sure_some ⟨.other false, hr.2⟩
  · refine (ih.operand h).bind fun r hr ↦ ?_
    refine (ih.joined hr.2).bind fun more hmore ↦ ?_
    exact sure_some ⟨grown_joined hr.1 hmore.1, hmore.2⟩

theorem joined_succ (ih : Reading T fuel) {logic : Bool} (h : cs <:+ T) :
    Sure (readJoined (fuel + 1) depth logic cs) (Yields T fun es ↦ ∀ e ∈ es, Grown T e.2) := by
  rw [readJoined]
  split
  · exact sure_some ⟨List.forall_mem_nil _, h⟩
  · next o rest heq =>
    have hrest := trimmed_end (operator?_end h _ logic _ heq) depth
    split
    · exact (ih.chain hrest).bind fun r hr ↦
        sure_some ⟨List.forall_mem_singleton.mpr hr.1, hr.2⟩
    · -- the operators before are kept, although only a single sum has a value
      refine (ih.operand hrest).bind fun r hr ↦ ?_
      refine (ih.joined hr.2).bind fun more hmore ↦ ?_
      exact sure_some ⟨List.forall_mem_cons.mpr ⟨hr.1, hmore.1⟩, hmore.2⟩

theorem operand_succ (ih : Reading T fuel) (h : cs <:+ T) :
    Gives T (readOperand (fuel + 1) depth cs) := by
  rw [readOperand.eq_def]
  dsimp only
  split
  · exact (ih.operand (trimmed_end (tail_end h) depth)).bind fun r hr ↦
      sure_some ⟨.signed hr.1, hr.2⟩
  · exact (ih.operand (trimmed_end (tail_end h) depth)).bind fun r hr ↦
      sure_some ⟨.signed hr.1, hr.2⟩
  · exact (ih.operand (trimmed_end (tail_end h) depth)).bind fun r hr ↦
      sure_some ⟨.other false, hr.2⟩
  · split
    · next rest heq =>
      have hrest := trimmed_end (behindWord?_end h _ rest heq) depth
      exact (ih.primary hrest).bind fun r hr ↦ sure_some ⟨.other false, hr.2⟩
    · exact ih.primary h

theorem primary_succ (ih : Reading T fuel) (h : cs <:+ T) :
    Gives T (readPrimary (fuel + 1) depth cs) := by
  rw [readPrimary]
  exact (ih.atom h).bind fun r hr ↦ ih.trailers hr.1 hr.2

theorem trailers_succ (ih : Reading T fuel) {e : Expr} (he : Grown T e) (h : cs <:+ T) :
    Gives T (readTrailers (fuel + 1) depth e cs) := by
  rw [readTrailers.eq_def]
  dsimp only
  split
  · refine (name?_end (trimmed_end (tail_end h) depth)).bind fun r hr ↦ ?_
    exact ih.trailers (.other true) (trimmed_end hr depth)
  · split
    · exact sure_none
    · -- what is called has no value, the empty set apart, so that `he` is of no use here
      refine (ih.arguments (trimmed_end (tail_end h) _)).bind fun r hr ↦ ?_
      exact ih.trailers (grown_called _ e) (trimmed_end hr depth)
  · split
    · exact sure_none
    · refine (ih.slices (trimmed_end (tail_end h) _)).bind fun rest hrest ↦ ?_
      exact ih.trailers (.other true) (trimmed_end hrest depth)
  · exact sure_some ⟨he, h⟩

theorem atom_succ (ih : Reading T fuel) (h : cs <:+ T) :
    Gives T (readAtom (fuel + 1) depth cs) := by
  rw [readAtom.eq_def]
  dsimp only
  split
  · split
    · exact sure_none
    · refine (ih.group (trimmed_end (tail_end h) _)).bind fun r hr ↦ ?_
      exact sure_some ⟨hr.1, trimmed_end hr.2 depth⟩
  · split
    · exact sure_none
    · refine (ih.items (trimmed_end (tail_end h) _)).bind ?_
      rintro ⟨contents, rest⟩ hr
      cases contents with
      | items es comma => exact sure_some ⟨.list hr.1, trimmed_end hr.2 depth⟩
      | clauses => exact sure_some ⟨.other false, trimmed_end hr.2 depth⟩
  · split
    · exact sure_none
    · -- the one place where an opening brace is passed outside of quotes
      have hbrace : '\x7b' ∈ T := h.subset List.mem_cons_self
      refine (ih.braces hbrace (trimmed_end (tail_end h) _)).bind fun r hr ↦ ?_
      exact sure_some ⟨hr.1, trimmed_end hr.2 depth⟩
  · refine sure_some ⟨.atom ?_, trimmed_end (tail_end (tail_end (tail_end h))) depth⟩
    rintro n ⟨⟩
  · split
    · refine (ih.quotes h).bind ?_
      rintro ⟨⟨ns, formatted⟩, rest⟩ hrest
      cases formatted with
      | true => exact sure_some ⟨.other false, hrest⟩
      | false => exact sure_some ⟨.atom (small_quotedValue _ ns), hrest⟩
    · have hword : ∀ {w rest}, word? cs = some (w, rest) → rest <:+ T :=
        fun heq ↦ word?_end h _ heq
      split
      · next heq => exact sure_some ⟨.atom (by rintro n ⟨⟩), trimmed_end (hword heq) depth⟩
      · next heq => exact sure_some ⟨.atom (by rintro n ⟨⟩), trimmed_end (hword heq) depth⟩
      · next heq => exact sure_some ⟨.atom (by rintro n ⟨⟩), trimmed_end (hword heq) depth⟩
      · exact (name?_end h).map fun r hr ↦ ⟨.name _, trimmed_end hr depth⟩
      · exact (readNumber_end h).map fun r hr ↦ ⟨.atom hr.1, trimmed_end hr.2 depth⟩

theorem item_succ (ih : Reading T fuel) (h : cs <:+ T) :
    Gives T (readItem (fuel + 1) depth cs) := by
  rw [readItem.eq_def]
  dsimp only
  split
  · exact (ih.chain (trimmed_end (tail_end h) depth)).bind fun r hr ↦
      sure_some ⟨.starred _, hr.2⟩
  · exact ih.named h

theorem items_succ (ih : Reading T fuel) {close : Char} {first : Bool} (h : cs <:+ T) :
    Sure (readItems (fuel + 1) depth close first cs) (Yields T (GrownContents T)) := by
  rw [readItems]
  split
  · next rest heq => exact sure_some ⟨List.forall_mem_nil _, closed?_end h close rest heq⟩
  · refine (ih.item h).bind ?_
    rintro ⟨e, rest⟩ ⟨he, hrest⟩
    dsimp only at he hrest ⊢
    split
    · exact sure_none
    · split
      · refine (ih.clauses hrest).bind fun left hleft ↦ ?_
        exact (closed?_end hleft close).bind fun left hleft ↦ sure_some ⟨trivial, hleft⟩
      · exact sure_none
    · split
      · refine (ih.items (trimmed_end (tail_end hrest) depth)).bind ?_
        rintro ⟨contents, rest⟩ hr
        cases contents with
        | items es comma => exact sure_some ⟨List.forall_mem_cons.mpr ⟨he, hr.1⟩, hr.2⟩
        | clauses => exact sure_none
      · exact (closed?_end hrest close).bind fun left hleft ↦
          sure_some ⟨List.forall_mem_singleton.mpr he, hleft⟩

theorem group_succ (ih : Reading T fuel) (h : cs <:+ T) :
    Gives T (readGroup (fuel + 1) depth cs) := by
  rw [readGroup]
  split
  · next rest heq =>
    have hrest := trimmed_end (behindWord?_end h _ rest heq) depth
    exact (ih.yielded hrest).bind fun left hleft ↦ sure_some ⟨.other false, hleft⟩
  · refine (ih.items h).bind ?_
    rintro ⟨contents, rest⟩ ⟨hes, hrest⟩
    dsimp only at hes hrest ⊢
    split
    · exact sure_some ⟨.other false, hrest⟩
    · exact sure_none
    · exact sure_some ⟨hes _ List.mem_cons_self, hrest⟩
    · exact sure_some ⟨.tuple hes, hrest⟩

theorem yielded_succ (ih : Reading T fuel) (h : cs <:+ T) :
    Ends T (readYielded (fuel + 1) depth cs) := by
  rw [readYielded]
  split
  · next rest _ heq => exact sure_some (closed?_end h _ _ heq)
  · next rest _ heq =>
    refine (ih.choice (trimmed_end (behindWord?_end h _ rest heq) depth)).bind fun r hr ↦ ?_
    exact closed?_end hr.2 _
  · exact ih.handed h

theorem handed_succ (ih : Reading T fuel) (h : cs <:+ T) :
    Ends T (readHanded (fuel + 1) depth cs) := by
  rw [readHanded.eq_def]
  dsimp only
  split
  · refine (ih.chain (trimmed_end (tail_end h) depth)).bind ?_
    rintro ⟨e, rest⟩ ⟨-, hrest⟩
    dsimp only at hrest ⊢
    split
    · have hnext := trimmed_end (tail_end hrest) depth
      exact (closed?_end hnext _).or (ih.handed hnext)
    · exact closed?_end hrest _
  · refine (ih.choice h).bind ?_
    rintro ⟨e, rest⟩ ⟨-, hrest⟩
    dsimp only at hrest ⊢
    split
    · have hnext := trimmed_end (tail_end hrest) depth
      exact (closed?_end hnext _).or (ih.handed hnext)
    · exact closed?_end hrest _

theorem braces_succ (ih : Reading T fuel) (hbrace : '\x7b' ∈ T) (h : cs <:+ T) :
    Gives T (readBraces (fuel + 1) depth cs) := by
  have hmap : ∀ {es : List (Expr × Expr)}, (∀ e ∈ es, Grown T e.1 ∧ Grown T e.2) →
      Grown T (.map es) := fun hes ↦ .map hbrace (fun e he ↦ (hes e he).1) fun e he ↦ (hes e he).2
  rw [readBraces.eq_def]
  dsimp only
  split
  · exact sure_some ⟨hmap (List.forall_mem_nil _), tail_end h⟩
  · exact (ih.entries h).bind fun r hr ↦ sure_some ⟨hmap hr.1, hr.2⟩
  · -- what follows the first item tells a mapping from a set, which is then read from its start
    refine (ih.item h).bind ?_
    rintro ⟨e, rest⟩ ⟨he, hrest⟩
    dsimp only at he hrest ⊢
    split
    · exact sure_none
    · split
      · exact sure_none
      · refine (ih.choice (trimmed_end (tail_end hrest) depth)).bind ?_
        rintro ⟨v, rest⟩ ⟨hv, hrest⟩
        dsimp only at hv hrest ⊢
        split
        · refine (ih.clauses hrest).bind fun left hleft ↦ ?_
          exact (closed?_end hleft _).bind fun left hleft ↦ sure_some ⟨.other false, hleft⟩
        · refine (ih.entries (trimmed_end (tail_end hrest) depth)).bind fun r hr ↦ ?_
          exact sure_some ⟨hmap (List.forall_mem_cons.mpr ⟨⟨he, hv⟩, hr.1⟩), hr.2⟩
        · exact (closed?_end hrest _).bind fun left hleft ↦
            sure_some ⟨hmap (List.forall_mem_singleton.mpr ⟨he, hv⟩), hleft⟩
    · refine (ih.items h).bind ?_
      rintro ⟨contents, rest⟩ hr
      cases contents with
      | items es comma => exact sure_some ⟨.set hbrace hr.1, hr.2⟩
      | clauses => exact sure_some ⟨.other false, hr.2⟩

theorem entries_succ (ih : Reading T fuel) (h : cs <:+ T) :
    Sure (readEntries (fuel + 1) depth cs)
      (Yields T fun es ↦ ∀ e ∈ es, Grown T e.1 ∧ Grown T e.2) := by
  rw [readEntries]
  split
  · next rest heq => exact sure_some ⟨List.forall_mem_nil _, closed?_end h _ rest heq⟩
  · refine (ih.entry h).bind ?_
    rintro ⟨entry, rest⟩ ⟨hentry, hrest⟩
    dsimp only at hentry hrest ⊢
    split
    · refine (ih.entries (trimmed_end (tail_end hrest) depth)).bind fun r hr ↦ ?_
      exact sure_some ⟨List.forall_mem_cons.mpr ⟨hentry, hr.1⟩, hr.2⟩
    · exact (closed?_end hrest _).bind fun left hleft ↦
        sure_some ⟨List.forall_mem_singleton.mpr hentry, hleft⟩

theorem entry_succ (ih : Reading T fuel) (h : cs <:+ T) :
    Sure (readEntry (fuel + 1) depth cs) (Yields T fun e ↦ Grown T e.1 ∧ Grown T e.2) := by
  rw [readEntry.eq_def]
  dsimp only
  split
  · exact (ih.chain (trimmed_end (tail_end (tail_end h)) depth)).bind fun r hr ↦
      sure_some ⟨⟨.other false, .other false⟩, hr.2⟩
  · refine (ih.choice h).bind fun k hk ↦ ?_
    refine (closed?_end hk.2 _).bind fun rest hrest ↦ ?_
    exact (ih.choice (trimmed_end hrest depth)).bind fun v hv ↦ sure_some ⟨⟨hk.1, hv.1⟩, hv.2⟩

theorem clauses_succ (ih : Reading T fuel) (h : cs <:+ T) :
    Ends T (readClauses (fuel + 1) depth cs) := by
  rw [readClauses]
  refine (behindFor?_end h depth).bind fun rest hrest ↦ ?_
  refine (ih.targets hrest).bind fun rest hrest ↦ ?_
  refine (ih.chain hrest).bind fun r hr ↦ ?_
  refine (ih.conditions hr.2).bind fun rest hrest ↦ ?_
  split
  · exact ih.clauses hrest
  · exact sure_some hrest

theorem targets_succ (ih : Reading T fuel) (h : cs <:+ T) :
    Ends T (readTargets (fuel + 1) depth cs) := by
  rw [readTargets.eq_def]
  dsimp only
  refine Sure.bind (ih.primary ?_) ?_
  · split
    · exact trimmed_end (tail_end h) depth
    · exact h
  · rintro ⟨e, rest⟩ ⟨-, hrest⟩
    dsimp only at hrest ⊢
    split
    · exact sure_none
    · split
      · have hnext := trimmed_end (tail_end hrest) depth
        split
        · next left heq => exact sure_some (trimmed_end (behindWord?_end hnext _ left heq) depth)
        · exact ih.targets hnext
      · exact (behindWord?_end hrest _).bind fun left hleft ↦ sure_some (trimmed_end hleft depth)

theorem conditions_succ (ih : Reading T fuel) (h : cs <:+ T) :
    Ends T (readConditions (fuel + 1) depth cs) := by
  rw [readConditions]
  split
  · next rest heq =>
    refine (ih.chain (trimmed_end (behindWord?_end h _ rest heq) depth)).bind fun r hr ↦ ?_
    exact ih.conditions hr.2
  · exact sure_some h

theorem arguments_succ (ih : Reading T fuel) {before : Arguments} (h : cs <:+ T) :
    EndsBehind T (readArguments (fuel + 1) depth before cs) := by
  rw [readArguments]
  split
  · next rest heq => exact sure_some (closed?_end h _ rest heq)
  · refine (ih.argument h).bind ?_
    rintro ⟨now, rest⟩ hrest
    dsimp only at hrest ⊢
    split
    · exact ih.arguments (trimmed_end (tail_end hrest) depth)
    · exact (closed?_end hrest _).bind fun left hleft ↦ sure_some hleft

theorem argument_succ (ih : Reading T fuel) {before : Arguments} (h : cs <:+ T) :
    EndsBehind T (readArgument (fuel + 1) depth before cs) := by
  rw [readArgument.eq_def]
  dsimp only
  split
  · exact (ih.choice (trimmed_end (tail_end (tail_end h)) depth)).bind fun r hr ↦ sure_some hr.2
  · split
    · exact sure_none
    · exact (ih.choice (trimmed_end (tail_end h) depth)).bind fun r hr ↦ sure_some hr.2
  · next rest _ _ heq =>
    exact (ih.choice (behindArgument?_end h depth rest heq)).bind fun r hr ↦ sure_some hr.2
  · split
    · exact sure_none
    · refine (ih.named h).bind ?_
      rintro ⟨e, rest⟩ ⟨-, hrest⟩
      dsimp only at hrest ⊢
      split
      · refine (ih.clauses hrest).bind fun left hleft ↦ ?_
        split
        · exact sure_some hleft
        · exact sure_none
      · exact sure_some hrest

theorem slices_succ (ih : Reading T fuel) (h : cs <:+ T) :
    Ends T (readSlices (fuel + 1) depth cs) := by
  rw [readSlices]
  refine (ih.slice h).bind fun rest hrest ↦ ?_
  split
  · have hnext := trimmed_end (tail_end hrest) depth
    exact (closed?_end hnext _).or (ih.slices hnext)
  · exact closed?_end hrest _

theorem slice_succ (ih : Reading T fuel) (h : cs <:+ T) :
    Ends T (readSlice (fuel + 1) depth cs) := by
  rw [readSlice.eq_def]
  dsimp only
  split
  · exact ih.bounds (trimmed_end (tail_end h) depth)
  · exact (ih.choice (trimmed_end (tail_end h) depth)).bind fun r hr ↦ sure_some hr.2
  · refine (ih.named h).bind ?_
    rintro ⟨e, rest⟩ ⟨-, hrest⟩
    dsimp only at hrest ⊢
    split
    · exact ih.bounds (trimmed_end (tail_end hrest) depth)
    · exact sure_some hrest

theorem bounds_succ (ih : Reading T fuel) {count : Nat} (h : cs <:+ T) :
    Ends T (readBounds (fuel + 1) depth count cs) := by
  rw [readBounds.eq_def]
  dsimp only
  split
  · exact sure_some h
  · exact sure_some h
  · refine Sure.bind (P := (· <:+ T)) (sure_some h) fun rest hrest ↦ ?_
    split
    · exact ih.bounds (trimmed_end (tail_end hrest) depth)
    · exact sure_some hrest
  · have hchoice : Ends T ((readChoice fuel depth cs).map Prod.snd) :=
      (ih.choice h).map fun r hr ↦ hr.2
    refine hchoice.bind fun rest hrest ↦ ?_
    split
    · exact ih.bounds (trimmed_end (tail_end hrest) depth)
    · exact sure_some hrest

theorem parameters_succ (ih : Reading T fuel) {before : Parameters} (h : cs <:+ T) :
    Ends T (readParameters (fuel + 1) depth before cs) := by
  rw [readParameters.eq_def]
  dsimp only
  split
  · split
    · exact sure_none
    · exact sure_some (trimmed_end (tail_end h) depth)
  · split
    · exact sure_none
    · refine (name?_end (trimmed_end (tail_end (tail_end h)) depth)).bind ?_
      rintro ⟨w, rest⟩ hrest
      have hend := trimmed_end hrest depth
      dsimp only at hend ⊢
      generalize trimmed depth rest = left at hend ⊢
      split
      · exact (closed?_end (trimmed_end (tail_end hend) depth) _).map fun left hleft ↦
          trimmed_end hleft depth
      · exact (closed?_end hend _).map fun left hleft ↦ trimmed_end hleft depth
  · refine (ih.parameter h).bind ?_
    rintro ⟨now, rest⟩ hrest
    dsimp only at hrest ⊢
    split
    · exact ih.parameters (trimmed_end (tail_end hrest) depth)
    · exact ih.parameters hrest
    · exact sure_none

theorem parameter_succ (ih : Reading T fuel) {before : Parameters} (h : cs <:+ T) :
    EndsBehind T (readParameter (fuel + 1) depth before cs) := by
  rw [readParameter.eq_def]
  dsimp only
  split
  · split
    · exact sure_none
    · exact sure_some (trimmed_end (tail_end h) depth)
  · split
    · exact sure_none
    · have hrest := trimmed_end (tail_end h) depth
      split
      · next heq => exact sure_some (trimmed_end (name?_end hrest _ heq) depth)
      · exact sure_some hrest
  · split
    · next rest heq =>
      exact (ih.choice (behindArgument?_end h depth rest heq)).bind fun r hr ↦ sure_some hr.2
    · refine (name?_end h).bind fun r hr ↦ ?_
      split
      · exact sure_none
      · exact sure_some (trimmed_end hr depth)

theorem formatted_end (style : QuoteStyle) (h : cs <:+ T) :
    EndsBehind T (readFormatted fuel style cs) := by
  cases fuel with
  | zero =>
    rw [readFormatted]
    exact sure_none
  | succ fuel =>
    rw [readFormatted]
    refine (splitQuoted_end style [] h).bind ?_
    rintro ⟨text, rest⟩ hrest
    -- the fields lie inside the quotes, and nothing is kept of them
    refine Sure.bind (P := fun _ ↦ True) (fun _ _ ↦ trivial) fun left _ ↦ ?_
    split
    · exact sure_some hrest
    · exact sure_none

theorem quotes_succ (ih : Reading T fuel) {bytes : Bool} (h : cs <:+ T) :
    EndsBehind T (readQuotes (fuel + 1) depth bytes cs) := by
  rw [readQuotes]
  split
  · exact sure_some h
  · next style body heq =>
    have hbody : body <:+ T := openQuote?_end h _ heq
    dsimp only
    split
    · exact sure_none
    · split
      · refine (formatted_end style hbody).bind fun r hr ↦ ?_
        exact (ih.quotes (trimmed_end hr depth)).bind fun more hmore ↦ sure_some hmore
      · refine (readQuoted_end style hbody).bind fun r hr ↦ ?_
        exact (ih.quotes (trimmed_end hr depth)).bind fun more hmore ↦ sure_some hmore

end Reading

theorem reading (T : List Char) (fuel : Nat) : Reading T fuel := by
  induction fuel with
  | zero =>
    -- without a bound no reader gives anything
    constructor <;> intros
    all_goals
      simp only [readNamed, readChoice, readChain, readJoined, readOperand, readPrimary,
        readTrailers, readAtom, readItem, readItems, readGroup, readYielded, readHanded, readBraces,
        readEntries, readEntry, readClauses, readTargets, readConditions, readArguments,
        readArgument, readSlices, readSlice, readBounds, readParameters, readParameter, readQuotes]
      exact sure_none
  | succ fuel ih =>
    exact ⟨ih.named_succ, ih.choice_succ, ih.chain_succ, ih.joined_succ, ih.operand_succ,
      ih.primary_succ, ih.trailers_succ, ih.atom_succ, ih.item_succ, ih.items_succ, ih.group_succ,
      ih.yielded_succ, ih.handed_succ, ih.braces_succ, ih.entries_succ, ih.entry_succ,
      ih.clauses_succ, ih.targets_succ, ih.conditions_succ, ih.arguments_succ, ih.argument_succ,
      ih.slices_succ, ih.slice_succ, ih.bounds_succ, ih.parameters_succ, ih.parameter_succ,
      ih.quotes_succ⟩

/-! ## Whole texts -/

/-- What is grown from a text is grown from any text that is as long and has its braces. -/
theorem Grown.mono {T' : List Char} (hlength : T.length ≤ T'.length)
    (hbraces : '\x7b' ∈ T → '\x7b' ∈ T') {e : Expr} (h : Grown T e) : Grown T' e := by
  induction h with
  | atom h =>
    refine .atom fun n hn ↦ ?_
    exact (h n hn).trans_le (Nat.pow_le_pow_right (by decide) hlength)
  | name s => exact .name s
  | signed _ ih => exact .signed ih
  | sum _ _ ihl ihr => exact .sum ihl ihr
  | list _ ih => exact .list ih
  | tuple _ ih => exact .tuple ih
  | emptySet => exact .emptySet
  | set hbrace _ ih => exact .set (hbraces hbrace) ih
  | map hbrace _ _ ihk ihv => exact .map (hbraces hbrace) ihk ihv
  | starred t => exact .starred t
  | other t => exact .other t

end CallTree.Code
