import CallTree.Proofs.ReadData

/-!
# What the JSON reader passes over

The reader takes a text apart by functions that call each other. What they have passed over can be
said without them, by a machine with three states: outside of strings, in a string, and behind a
backslash. Outside there are only gaps and visible ASCII characters; in a string there is anything
but control characters, and a quote ends it. Whenever a part of the reader begins or ends, the
machine is outside (`Watching`). So a text that can be read takes the machine from outside to
outside (`runs_of_read`), and a text that ends within a string cannot be read.

A numeral with more digits than are read is a fault of its own kind, and it is followed along: its
digits stand in the text in a row.
-/

namespace CallTree.Json

open CallTree.Decimal CallTree.Report CallTree.Text

/-! ## The machine -/

/-- Where a character stands. -/
inductive Place where
  | outside
  | inside
  | escape
  deriving DecidableEq, Repr

/-- Whether a character may stand between strings, and is no quote. -/
def isOuter (c : Char) : Bool := c != '"' && (isGap c || (0x20 < c.toNat && c.toNat < 0x7f))

/-- The place behind a character, if the character may stand where it does. -/
def Place.step (p : Place) (c : Char) : Option Place :=
  match p with
  | .outside => if c = '"' then some .inside else if isOuter c then some .outside else none
  | .inside =>
    if c = '"' then some .outside
    else if c = '\\' then some .escape
    else if c.toNat < 0x20 then none
    else some .inside
  | .escape => if c = 'u' || (escaped? c).isSome then some .inside else none

/-- The place behind some characters. -/
def Place.run (p : Place) (cs : List Char) : Option Place := cs.foldlM Place.step p

theorem Place.run_append (p : Place) (xs ys : List Char) :
    p.run (xs ++ ys) = (p.run xs).bind (·.run ys) :=
  List.foldlM_append

/-- The reader has come to a place in the text, and this is left. -/
def Reached (T : List Char) (p : Place) (cs : List Char) : Prop :=
  ∃ before, T = before ++ cs ∧ Place.run .outside before = some p

section

variable {T cs : List Char} {p q : Place} {c : Char}

theorem reached_start (T : List Char) : Reached T .outside T := ⟨[], rfl, rfl⟩

theorem Reached.suffix (h : Reached T p cs) : cs <:+ T := by
  obtain ⟨before, rfl, -⟩ := h
  exact List.suffix_append before cs

theorem Reached.tail (h : Reached T p (c :: cs)) (hc : p.step c = some q) : Reached T q cs := by
  obtain ⟨before, rfl, hrun⟩ := h
  refine ⟨before ++ [c], by simp, ?_⟩
  rw [Place.run_append, hrun]
  simpa [Place.run] using hc

theorem step_of_isOuter (h : isOuter c = true) : Place.step .outside c = some .outside := by
  have hquote : c ≠ '"' := by
    rintro rfl
    exact absurd h (by decide)
  rw [Place.step, if_neg hquote, if_pos h]

theorem isOuter_of_isGap (h : isGap c = true) : isOuter c = true := by
  have hquote : c ≠ '"' := by
    rintro rfl
    exact absurd h (by decide)
  simp [isOuter, h, hquote]

theorem isOuter_of_isDigit (h : c.isDigit = true) : isOuter c = true := by
  have hlt : c.toNat < 128 := toNat_lt_of_isAlphanum (by rw [Char.isAlphanum, h, Bool.or_true])
  revert h
  exact forall_char_lt (P := fun c ↦ c.isDigit = true → isOuter c = true) (by decide) hlt

/-- Characters that may stand outside are passed over outside. -/
theorem Reached.dropWhile (h : Reached T .outside cs) {f : Char → Bool}
    (hf : ∀ c, f c = true → isOuter c = true) : Reached T .outside (cs.dropWhile f) := by
  induction cs with
  | nil => exact h
  | cons c cs ih =>
    rw [List.dropWhile_cons]
    split
    · next hc => exact ih (h.tail (step_of_isOuter (hf c hc)))
    · exact h

theorem skip_eq_dropWhile (pos : Nat) (cs : List Char) : (skip pos cs).2 = cs.dropWhile isGap := by
  induction cs generalizing pos with
  | nil => rfl
  | cons c cs ih =>
    rw [skip, List.dropWhile_cons]
    split
    · exact ih (pos + 1)
    · rfl

theorem Reached.skip (h : Reached T .outside cs) (pos : Nat) :
    Reached T .outside (skip pos cs).2 := by
  rw [skip_eq_dropWhile]
  exact h.dropWhile fun _ ↦ isOuter_of_isGap

theorem Reached.takeDigits (h : Reached T .outside cs) : Reached T .outside (takeDigits cs).2 :=
  h.dropWhile fun _ ↦ isOuter_of_isDigit

theorem Reached.takeSign (h : Reached T .outside cs) : Reached T .outside (takeSign cs).2 := by
  rw [Decimal.takeSign.eq_def]
  split
  · exact h.tail rfl
  · exact h.tail rfl
  · exact h

theorem Reached.takeFraction (h : Reached T .outside cs) :
    Reached T .outside (takeFraction cs).2 := by
  rw [Json.takeFraction.eq_def]
  split
  · split
    · exact h
    · exact (h.tail rfl).takeDigits
  · exact h

theorem Reached.takePower (h : Reached T .outside cs) : Reached T .outside (takePower cs).2 := by
  rw [Json.takePower.eq_def]
  split
  · next c cs =>
    split
    · next hmark =>
      have hc : Place.step .outside c = some .outside := by
        rw [Bool.or_eq_true, beq_iff_eq, beq_iff_eq] at hmark
        rcases hmark with rfl | rfl <;> rfl
      have hdigits := (h.tail hc).takeSign.takeDigits
      dsimp only
      generalize Decimal.takeDigits (Decimal.takeSign cs).2 = r at hdigits ⊢
      split
      · exact h
      · exact hdigits
    · exact h
  · exact h

end

/-! ## The parts of the reader -/

/-- The text has this many digits in a row, which are more than are read. -/
def HasLongNumeral (T : List Char) (n : Nat) : Prop :=
  ∃ ds, ds <:+: T ∧ ds.length = n ∧ maxWholeDigits < n ∧ ∀ c ∈ ds, c.isDigit = true

/-- What is left is reached outside, and a numeral that is too long stands in the text. -/
structure Careful {α : Type} (T : List Char) (x : Except ReadFault (Read α)) : Prop where
  rest : ∀ {r}, x = .ok r → Reached T .outside r.2.2
  numeral : ∀ {n}, x = .error (.longNumeral n) → HasLongNumeral T n

section

variable {α β : Type} {T : List Char}

theorem careful_ok {r : Read α} (h : Reached T .outside r.2.2) : Careful T (.ok r) := by
  constructor
  · rintro _ ⟨⟩
    exact h
  · rintro n ⟨⟩

theorem careful_malformed (what : Complaint) (offset : Nat) :
    Careful T (.error (.malformed what offset) : Except ReadFault (Read α)) := by
  constructor
  · rintro r ⟨⟩
  · rintro n ⟨⟩

theorem Careful.bind {x : Except ReadFault (Read α)} {f : Read α → Except ReadFault (Read β)}
    (hx : Careful T x) (hf : ∀ r, Reached T .outside r.2.2 → Careful T (f r)) :
    Careful T (x >>= f) := by
  cases x with
  | ok r => exact hf r (hx.rest rfl)
  | error e =>
    constructor
    · rintro r ⟨⟩
    · rintro n ⟨⟩
      exact hx.numeral rfl

end

section

variable {T cs : List Char}

theorem step_of_hexDigit? {c : Char} {n : Nat} (h : hexDigit? c = some n) :
    Place.step .inside c = some .inside := by
  have hlt : c.toNat < 128 := by
    rw [hexDigit?] at h
    split at h
    · next hc => exact toNat_lt_of_isAlphanum (by rw [Char.isAlphanum, hc, Bool.or_true])
    · split at h
      · next hc => exact lt_of_le_of_lt (Char.le_def.mp hc.2) (by decide)
      · split at h
        · next hc => exact lt_of_le_of_lt (Char.le_def.mp hc.2) (by decide)
        · cases h
  have hsome : (hexDigit? c).isSome = true := by rw [h]; rfl
  revert hsome
  exact forall_char_lt
    (P := fun c ↦ (hexDigit? c).isSome = true → Place.step .inside c = some .inside)
    (by decide) hlt

theorem careful_readString (h : Reached T .inside cs) (start pos : Nat) (high : Option Nat)
    (acc : List Char) : Careful T (readString start pos high acc cs) := by
  fun_induction readString start pos high acc cs with
  | case1 => exact careful_malformed _ _
  | case2 => exact careful_ok (h.tail rfl)
  | case3 => exact careful_malformed _ _
  | case4 => exact careful_malformed _ _
  | case5 _ _ _ a b c d _ n hn _ ih =>
    simp only [hex4?, Option.bind_eq_bind, Option.bind_eq_some_iff] at hn
    obtain ⟨_, ha, _, hb, _, hc, _, hd, -⟩ := hn
    exact ih ((((((h.tail rfl).tail rfl).tail (step_of_hexDigit? ha)).tail
      (step_of_hexDigit? hb)).tail (step_of_hexDigit? hc)).tail (step_of_hexDigit? hd))
  | case6 => exact careful_malformed _ _
  | case7 => exact careful_malformed _ _
  | case8 _ _ _ c _ _ _ e he ih =>
    have hstep : Place.step .escape c = some .inside := by
      rw [Place.step, he]
      simp
    exact ih ((h.tail rfl).tail hstep)
  | case9 => exact careful_malformed _ _
  | case10 => exact careful_malformed _ _
  | case11 _ _ _ c cs hquote _ _ hend hmore hcontrol ih =>
    have hbackslash : c ≠ '\\' := by
      intro hc
      cases cs with
      | nil => exact hend hc rfl
      | cons d cs => exact hmore d cs hc rfl
    have hstep : Place.step .inside c = some .inside := by
      rw [Place.step, if_neg hquote, if_neg hbackslash, if_neg hcontrol]
    exact ih (h.tail hstep)

theorem length_takeDigits (cs : List Char) :
    (takeDigits cs).1.length = (cs.takeWhile Char.isDigit).length := by
  have hdigit : ∀ c ∈ cs.takeWhile Char.isDigit,
      asciiDigit? c = (some ∘ fun c : Char ↦ c.toNat - 48) c := by
    intro c hc
    rw [asciiDigit?, if_pos (List.mem_takeWhile_imp hc)]
    rfl
  rw [takeDigits, List.filterMap_congr hdigit]
  show (List.filterMap (some ∘ fun c : Char ↦ c.toNat - 48) _).length = _
  rw [List.filterMap_eq_map, List.length_map]

/-- The digits before a point are those of the text. -/
theorem takeWhole_spec {whole : List Nat} {rest : List Char} (h : Reached T .outside cs)
    (heq : takeWhole cs = (whole, rest)) :
    Reached T .outside rest ∧
      (maxWholeDigits < whole.length → HasLongNumeral T whole.length) := by
  rw [takeWhole.eq_def] at heq
  split at heq
  · cases heq
    exact ⟨h.tail rfl, fun hlong ↦ absurd hlong (by decide)⟩
  · have hlength := length_takeDigits cs
    have hrest := h.takeDigits
    rw [heq] at hlength hrest
    refine ⟨hrest, fun hlong ↦ ⟨cs.takeWhile Char.isDigit, ?_, hlength.symm, hlong, fun c ↦ ?_⟩⟩
    · exact (List.takeWhile_prefix _).isInfix.trans h.suffix.isInfix
    · exact List.mem_takeWhile_imp

theorem careful_readNumber (h : Reached T .outside cs) (pos : Nat) :
    Careful T (readNumber pos cs) := by
  rw [readNumber.eq_def]
  dsimp only
  split
  · exact careful_malformed _ _
  · next whole rest _ heq =>
    -- a sign in front is passed over first
    obtain ⟨hrest, hlong⟩ : Reached T .outside rest ∧
        (maxWholeDigits < whole.length → HasLongNumeral T whole.length) := by
      split at heq
      · exact takeWhole_spec (h.tail rfl) heq
      · exact takeWhole_spec h heq
    have hend := hrest.takeFraction.takePower
    split
    · split
      · next hlength =>
        constructor
        · rintro r ⟨⟩
        · rintro n ⟨⟩
          exact hlong hlength
      · exact careful_ok hend
    · exact careful_ok hend

/-- What the parts of the reader give with this bound, from outside of strings. -/
structure Watching (T : List Char) (fuel : Nat) : Prop where
  value : ∀ {cs pos}, Reached T .outside cs → Careful T (readValue fuel pos cs)
  items : ∀ {cs acc pos}, Reached T .outside cs → Careful T (readItems fuel acc pos cs)
  entries : ∀ {cs acc pos}, Reached T .outside cs → Careful T (readEntries fuel acc pos cs)

variable {fuel pos : Nat}

/-- Some visible characters are passed over outside. -/
theorem Reached.word {w : List Char} (h : Reached T .outside (w ++ cs))
    (hw : w.all isOuter = true) : Reached T .outside cs := by
  induction w with
  | nil => exact h
  | cons c w ih =>
    rw [List.all_cons, Bool.and_eq_true] at hw
    exact ih (h.tail (step_of_isOuter hw.1)) hw.2

theorem Watching.value_succ (ih : Watching T fuel) (h : Reached T .outside cs) :
    Careful T (readValue (fuel + 1) pos cs) := by
  rw [readValue.eq_def]
  dsimp only
  -- the cases are those of the first characters, in the order in which they are tried
  split
  · refine (careful_readString (h.tail rfl) _ _ _ _).bind fun r hr ↦ ?_
    exact careful_ok hr
  · next rest =>
    have hskip := (h.tail rfl : Reached T .outside rest).skip (pos + 1)
    generalize skip (pos + 1) rest = r at hskip ⊢
    split
    · exact careful_ok (hskip.tail rfl)
    · exact ih.entries hskip
  · next rest =>
    have hskip := (h.tail rfl : Reached T .outside rest).skip (pos + 1)
    generalize skip (pos + 1) rest = r at hskip ⊢
    split
    · exact careful_ok (hskip.tail rfl)
    · exact ih.items hskip
  · exact careful_ok (Reached.word (w := ['n', 'u', 'l', 'l']) h rfl)
  · exact careful_ok (Reached.word (w := ['t', 'r', 'u', 'e']) h rfl)
  · exact careful_ok (Reached.word (w := ['f', 'a', 'l', 's', 'e']) h rfl)
  · exact careful_ok (Reached.word (w := ['N', 'a', 'N']) h rfl)
  · exact careful_ok (Reached.word (w := ['I', 'n', 'f', 'i', 'n', 'i', 't', 'y']) h rfl)
  · exact careful_ok (Reached.word (w := ['-', 'I', 'n', 'f', 'i', 'n', 'i', 't', 'y']) h rfl)
  · exact careful_readNumber h pos

theorem Watching.items_succ (ih : Watching T fuel) {acc : List Value}
    (h : Reached T .outside cs) : Careful T (readItems (fuel + 1) acc pos cs) := by
  rw [readItems]
  refine (ih.value h).bind ?_
  rintro ⟨v, stop, rest⟩ hrest
  have hskip := hrest.skip stop
  dsimp only at hskip ⊢
  generalize skip stop rest = r at hskip ⊢
  split
  · exact careful_ok (hskip.tail rfl)
  · exact ih.items ((hskip.tail rfl).skip _)
  · exact careful_malformed _ _

theorem Watching.entries_succ (ih : Watching T fuel) {acc : List (Value × Value)}
    (h : Reached T .outside cs) : Careful T (readEntries (fuel + 1) acc pos cs) := by
  rw [readEntries.eq_def]
  dsimp only
  split
  · refine (careful_readString (h.tail rfl) _ _ _ _).bind ?_
    rintro ⟨k, stop, rest⟩ hrest
    have hskip := hrest.skip stop
    dsimp only at hskip ⊢
    generalize skip stop rest = r at hskip ⊢
    split
    · refine (ih.value ((hskip.tail rfl).skip _)).bind ?_
      rintro ⟨v, stop, rest⟩ hrest
      have hskip := hrest.skip stop
      dsimp only at hskip ⊢
      generalize skip stop rest = r at hskip ⊢
      split
      · exact careful_ok (hskip.tail rfl)
      · exact ih.entries ((hskip.tail rfl).skip _)
      · exact careful_malformed _ _
    · exact careful_malformed _ _
  · exact careful_malformed _ _

theorem watching (T : List Char) (fuel : Nat) : Watching T fuel := by
  induction fuel with
  | zero =>
    refine ⟨fun _ ↦ ?_, fun _ ↦ ?_, fun _ ↦ ?_⟩
    · rw [readValue]
      exact careful_malformed _ _
    · rw [readItems]
      exact careful_malformed _ _
    · rw [readEntries]
      exact careful_malformed _ _
  | succ fuel ih => exact ⟨ih.value_succ, ih.items_succ, ih.entries_succ⟩

/-- **A text that can be read** takes the machine from outside to outside. -/
theorem runs_of_read {s : String} {v : Value} (h : read s = .ok v) :
    Place.run .outside s.toList = some .outside := by
  rw [read, readChars] at h
  split at h
  · cases h
  · dsimp only at h
    split at h
    · cases h
    · next v' pos rest heq =>
      have hrest := ((watching s.toList _).value ((reached_start s.toList).skip 0)).rest heq
      have hend := hrest.skip pos
      dsimp only at hend
      generalize Json.skip pos rest = r at hend h
      split at h
      · obtain ⟨before, hs, hrun⟩ := hend
        rw [hs, List.append_nil, hrun]
      · cases h

end

end CallTree.Json
