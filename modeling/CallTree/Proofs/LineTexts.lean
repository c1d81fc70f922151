import CallTree.Json.Write
import CallTree.Proofs.Secrets

/-!
# Texts in a line of JSON

A line of JSON is made of punctuation, of numbers and words, and of texts in quotes. None of the
first can be part of a secret that a text does not have by itself: quotes, brackets, commas and
colons are in no secret, and a blank behind a comma begins none. So a written value shows a secret
exactly when one of its texts does, as it is written (`shows_writeChars_iff`).

What is written between the quotes is not always the text itself. An escape begins with a backslash,
which is in no secret, so a secret in the text that has an escaped blank in it is taken apart. On
the other hand the escapes of three control characters end with the letter `b`, and this may be the
first letter of a bearer token that goes on behind it, although the text has no such token
(`shows_written_iff`).
-/

namespace CallTree.Report

open CallTree.Json CallTree.Value CallTree.Text

/-! ## Numbers -/

/-- Whether numbers are written with the character, what is no number but has a name among them. -/
def isNumberChar (c : Char) : Bool :=
  c.isDigit || c == '+' || c == '-' || c == '.' || c == 'e' || c == 'N' || c == 'a' || c == 'I' ||
    c == 'n' || c == 'f' || c == 'i' || c == 't' || c == 'y'

theorem toNat_lt_of_isNumberChar {c : Char} (h : isNumberChar c = true) : c.toNat < 128 := by
  by_cases hdigit : c.isDigit = true
  · exact toNat_lt_of_isAlphanum (by rw [Char.isAlphanum, hdigit, Bool.or_true])
  · rw [isNumberChar, Bool.eq_false_of_not_eq_true hdigit] at h
    simp only [Bool.or_eq_true, beq_iff_eq, Bool.false_eq_true, false_or, or_assoc] at h
    rcases h with rfl | rfl | rfl | rfl | rfl | rfl | rfl | rfl | rfl | rfl | rfl | rfl <;> decide

theorem isNumberChar_of_mem_toDigits {n : Nat} {c : Char} (h : c ∈ Nat.toDigits 10 n) :
    isNumberChar c = true := by
  rw [isNumberChar, Nat.isDigit_of_mem_toDigits (by decide) (by decide) h]
  rfl

/-- A text of characters of numbers. -/
def Numeric (s : String) : Prop := ∀ c ∈ s.toList, isNumberChar c = true

/-- No secret begins in a number. -/
theorem Numeric.quiet {s : String} (h : Numeric s) : ∀ c ∈ s.toList, beginsSecret c = false := by
  intro c hc
  have hnumber := h c hc
  have hlt := toNat_lt_of_isNumberChar hnumber
  revert hnumber
  exact forall_char_lt (P := fun c ↦ isNumberChar c = true → beginsSecret c = false) (by decide) hlt

theorem numeric_append {s t : String} (hs : Numeric s) (ht : Numeric t) : Numeric (s ++ t) := by
  intro c hc
  rw [String.toList_append, List.mem_append] at hc
  exact hc.elim (hs c) (ht c)

theorem numeric_ofList {cs : List Char} (h : ∀ c ∈ cs, isNumberChar c = true) :
    Numeric (String.ofList cs) := by
  rwa [Numeric, String.toList_ofList]

theorem numeric_ite {p : Prop} [Decidable p] {s t : String} (hs : Numeric s) (ht : Numeric t) :
    Numeric (if p then s else t) := by
  split
  · exact hs
  · exact ht

theorem numeric_natText (n : Nat) : Numeric (Decimal.natText n) :=
  numeric_ofList fun _ ↦ isNumberChar_of_mem_toDigits

theorem numeric_zeroText (n : Nat) : Numeric (Decimal.zeroText n) := by
  refine numeric_ofList fun c hc ↦ ?_
  rw [List.eq_of_mem_replicate hc]
  decide

theorem numeric_int (n : Int) : Numeric (toString n) := by
  cases n with
  | ofNat n => exact numeric_natText n
  | negSucc n => exact numeric_append (by simp [Numeric, isNumberChar]) (numeric_natText (n + 1))

theorem numeric_decimal (f : Decimal.Format) (s : Decimal.Scientific) : Numeric (f.decimal s) := by
  have hdigits : ∀ c ∈ Nat.toDigits 10 s.digits, isNumberChar c = true :=
    fun _ ↦ isNumberChar_of_mem_toDigits
  have htake : ∀ n, Numeric (String.ofList ((Nat.toDigits 10 s.digits).take n)) :=
    fun n ↦ numeric_ofList fun c hc ↦ hdigits c (List.mem_of_mem_take hc)
  have hdrop : ∀ n, Numeric (String.ofList ((Nat.toDigits 10 s.digits).drop n)) :=
    fun n ↦ numeric_ofList fun c hc ↦ hdigits c (List.mem_of_mem_drop hc)
  have hall : Numeric (String.ofList (Nat.toDigits 10 s.digits)) := numeric_ofList hdigits
  rw [Decimal.Format.decimal]
  refine numeric_ite ?_ (numeric_ite (numeric_ite ?_ (numeric_ite ?_ ?_)) ?_)
  · simp [Numeric, isNumberChar]
  · exact numeric_append (numeric_append (by simp [Numeric, isNumberChar])
      (numeric_zeroText _)) hall
  · exact numeric_append (numeric_append hall (numeric_zeroText _))
      (by simp [Numeric, isNumberChar])
  · exact numeric_append (numeric_append (htake _) (by simp [Numeric, isNumberChar])) (hdrop _)
  · refine numeric_append (numeric_append (numeric_append (htake _) (numeric_ite ?_ ?_)) ?_) ?_
    · exact numeric_append (by simp [Numeric, isNumberChar]) (hdrop _)
    · simp [Numeric]
    · exact numeric_ite (by simp [Numeric, isNumberChar]) (by simp [Numeric, isNumberChar])
    · exact numeric_ite (numeric_append (by simp [Numeric, isNumberChar]) (numeric_natText _))
        (numeric_natText _)

theorem numeric_float (x : Float) : Numeric (Decimal.inJson.float x) := by
  have hsign : ∀ neg : Bool, Numeric (if neg then "-" else "") :=
    fun neg ↦ numeric_ite (by simp [Numeric, isNumberChar]) (by simp [Numeric])
  rw [Decimal.Format.float]
  split
  · simp [Numeric, Decimal.inJson, isNumberChar]
  · exact numeric_append (hsign _) (by simp [Numeric, Decimal.inJson, isNumberChar])
  · exact numeric_append (hsign _) (numeric_decimal _ _)

/-! ## Escapes -/

/-- The characters of a text as they are written between quotes. -/
def written (cs : List Char) : List Char := cs.flatMap (escapeChar false)

/-- Whether a character is written as itself. -/
def isVerbatim (c : Char) : Bool := 0x20 ≤ c.toNat && c != '"' && c != '\\'

/-- Whether the escape of a character ends with the letter `b`. -/
def escapeEndsInB (c : Char) : Bool := c == '\x08' || c == '\x0b' || c == '\x1b'

/-- A part of the text is a secret and is written as it is. -/
def ShowsVerbatim (cs : List Char) : Prop :=
  ∃ m, IsSecret m ∧ (∀ c ∈ m, isVerbatim c = true) ∧ m <:+: cs

/-- A control character whose escape ends with `b` is in the text, and behind it what makes a bearer
token of that letter. -/
def CompletesBearer (cs : List Char) : Prop :=
  ∃ c m, escapeEndsInB c = true ∧ IsBearer ('b' :: m) ∧ (∀ x ∈ m, isVerbatim x = true) ∧
    c :: m <:+: cs

theorem escapeChar_of_isVerbatim {c : Char} (h : isVerbatim c = true) :
    escapeChar false c = [c] := by
  simp only [isVerbatim, Bool.and_eq_true, decide_eq_true_eq, bne_iff_ne, ne_eq] at h
  obtain ⟨⟨hlow, hquote⟩, hslash⟩ := h
  have hne : ∀ d : Char, d.toNat < 0x20 → c ≠ d := by
    rintro d hd rfl
    omega
  simp [escapeChar, hquote, hslash, hne '\n' (by decide), hne '\r' (by decide),
    hne '\t' (by decide), hne '\x0c' (by decide), hne '\x08' (by decide), Nat.not_lt.mpr hlow]

/-- What stands in an escape behind the backslash, without a last `b`. -/
def escapeLetters (c : Char) : List Char :=
  if escapeEndsInB c then ((escapeChar false c).drop 1).dropLast else (escapeChar false c).drop 1

theorem escapeChar_of_not_isVerbatim {c : Char} (h : isVerbatim c = false) :
    escapeChar false c = '\\' :: (escapeLetters c ++ if escapeEndsInB c then ['b'] else []) ∧
      ∀ x ∈ escapeLetters c, beginsSecret x = false := by
  have hletters : ∀ {cs : List Char}, cs.all (fun x ↦ !beginsSecret x) = true →
      ∀ x ∈ cs, beginsSecret x = false := fun hall x hx ↦
    Bool.not_eq_true' _ ▸ List.all_eq_true.mp hall x hx
  have hshape : escapeChar false c =
        '\\' :: (escapeLetters c ++ if escapeEndsInB c then ['b'] else []) ∧
      (escapeLetters c).all (fun x ↦ !beginsSecret x) = true := by
    by_cases hlow : c.toNat < 0x20
    · exact forall_char_lt (P := fun c ↦ escapeChar false c =
          '\\' :: (escapeLetters c ++ if escapeEndsInB c then ['b'] else []) ∧
        (escapeLetters c).all (fun x ↦ !beginsSecret x) = true) (by decide) hlow
    · simp only [isVerbatim, Nat.not_lt.mp hlow, decide_true, Bool.true_and,
        Bool.and_eq_false_iff, bne_eq_false_iff_eq] at h
      rcases h with rfl | rfl <;> decide
  exact ⟨hshape.1, hletters hshape.2⟩

theorem isVerbatim_eq_false_of_escapeEndsInB {c : Char} (h : escapeEndsInB c = true) :
    isVerbatim c = false := by
  simp only [escapeEndsInB, Bool.or_eq_true, beq_iff_eq] at h
  rcases h with (rfl | rfl) | rfl <;> decide

theorem written_cons (c : Char) (cs : List Char) :
    written (c :: cs) = escapeChar false c ++ written cs := List.flatMap_cons

/-- What is at the front of a written text and has no backslash in it is at the front of the text,
and written as it is. -/
theorem prefix_written_iff {m cs : List Char} (hm : '\\' ∉ m) :
    m <+: written cs ↔ m <+: cs ∧ ∀ c ∈ m, isVerbatim c = true := by
  induction cs generalizing m with
  | nil =>
    rw [written, List.flatMap_nil, List.prefix_nil]
    constructor
    · rintro rfl
      exact ⟨rfl, fun c hc ↦ absurd hc List.not_mem_nil⟩
    · exact fun h ↦ h.1
  | cons c cs ih =>
    rw [written_cons]
    cases m with
    | nil => simp
    | cons d m =>
      have hm' : '\\' ∉ m := fun hmem ↦ hm (List.mem_cons_of_mem _ hmem)
      rw [List.cons_prefix_cons, List.forall_mem_cons]
      by_cases hc : isVerbatim c = true
      · rw [escapeChar_of_isVerbatim hc, List.singleton_append, List.cons_prefix_cons, ih hm']
        constructor
        · rintro ⟨rfl, h, hall⟩
          exact ⟨⟨rfl, h⟩, hc, hall⟩
        · rintro ⟨⟨rfl, h⟩, -, hall⟩
          exact ⟨rfl, h, hall⟩
      · have hesc := (escapeChar_of_not_isVerbatim (Bool.eq_false_of_not_eq_true hc)).1
        rw [hesc, List.cons_append, List.cons_prefix_cons]
        constructor
        · rintro ⟨rfl, -⟩
          exact absurd List.mem_cons_self hm
        · rintro ⟨⟨rfl, -⟩, hd, -⟩
          exact absurd hd hc

theorem IsSecret.backslash_not_mem {m : List Char} (h : IsSecret m) : '\\' ∉ m := fun hmem ↦
  absurd (h.breaksSecret_eq_false hmem) (by decide)

/-- A secret that begins with `b` is a bearer token. -/
theorem isSecret_cons_b_iff {m : List Char} : IsSecret ('b' :: m) ↔ IsBearer ('b' :: m) := by
  refine or_iff_right ?_
  rintro ⟨body, h, -⟩
  exact absurd (List.cons.inj h).1 (by decide)

theorem showsVerbatim_cons_iff {c : Char} {cs : List Char} :
    ShowsVerbatim (c :: cs) ↔
      (∃ m, IsSecret m ∧ (∀ x ∈ m, isVerbatim x = true) ∧ m <+: c :: cs) ∨ ShowsVerbatim cs := by
  simp only [ShowsVerbatim, List.infix_cons_iff, and_or_left, exists_or]

theorem completesBearer_cons_iff {c : Char} {cs : List Char} :
    CompletesBearer (c :: cs) ↔
      (escapeEndsInB c = true ∧ ∃ m, IsBearer ('b' :: m) ∧ (∀ x ∈ m, isVerbatim x = true) ∧
        m <+: cs) ∨ CompletesBearer cs := by
  simp only [CompletesBearer, List.infix_cons_iff, List.cons_prefix_cons, and_or_left, exists_or]
  refine or_congr_left ?_
  constructor
  · rintro ⟨d, m, hd, hm, hall, rfl, hpre⟩
    exact ⟨hd, m, hm, hall, hpre⟩
  · rintro ⟨hc, m, hm, hall, hpre⟩
    exact ⟨c, m, hc, hm, hall, rfl, hpre⟩

theorem shows_written_cons_of_isVerbatim {c : Char} (hc : isVerbatim c = true) {cs : List Char} :
    Shows (written (c :: cs)) ↔
      (∃ m, IsSecret m ∧ (∀ x ∈ m, isVerbatim x = true) ∧ m <+: c :: cs) ∨ Shows (written cs) := by
  have hcons : written (c :: cs) = c :: written cs := by
    rw [written_cons, escapeChar_of_isVerbatim hc, List.singleton_append]
  rw [hcons, shows_cons_iff, ← hcons]
  refine or_congr_left (exists_congr fun m ↦ and_congr_right fun hm ↦ ?_)
  rw [prefix_written_iff hm.backslash_not_mem, and_comm]

theorem shows_written_cons_of_not_isVerbatim {c : Char} (hc : isVerbatim c = false)
    {cs : List Char} :
    Shows (written (c :: cs)) ↔
      (escapeEndsInB c = true ∧ ∃ m, IsBearer ('b' :: m) ∧ (∀ x ∈ m, isVerbatim x = true) ∧
        m <+: cs) ∨ Shows (written cs) := by
  obtain ⟨hesc, hletters⟩ := escapeChar_of_not_isVerbatim hc
  rw [written_cons, hesc, List.cons_append, shows_cons_iff_of_not_begins (by decide),
    List.append_assoc, shows_append_iff_of_not_begins hletters]
  cases escapeEndsInB c with
  | false => simp
  | true =>
    rw [if_pos rfl, List.singleton_append, shows_cons_iff]
    refine or_congr_left ?_
    rw [eq_self_iff_true, true_and]
    -- a secret that begins with the last letter of the escape goes on in the text
    have hslash : ∀ {m}, IsSecret ('b' :: m) → '\\' ∉ m := fun hm hmem ↦
      hm.backslash_not_mem (List.mem_cons_of_mem _ hmem)
    constructor
    · rintro ⟨m, hm, h⟩
      obtain ⟨d, rest, rfl, -⟩ := hm.exists_eq_cons
      obtain ⟨rfl, hrest⟩ := List.cons_prefix_cons.mp h
      obtain ⟨hpre, hall⟩ := (prefix_written_iff (hslash hm)).mp hrest
      exact ⟨rest, isSecret_cons_b_iff.mp hm, hall, hpre⟩
    · rintro ⟨m, hm, hall, hpre⟩
      have hm := isSecret_cons_b_iff.mpr hm
      have hrest := (prefix_written_iff (hslash hm)).mpr ⟨hpre, hall⟩
      exact ⟨'b' :: m, hm, List.cons_prefix_cons.mpr ⟨rfl, hrest⟩⟩

/-- **When a written text shows a secret:** a part of the text is one and is written as it is, or
the last letter of an escape is completed to one. -/
theorem shows_written_iff {cs : List Char} :
    Shows (written cs) ↔ ShowsVerbatim cs ∨ CompletesBearer cs := by
  induction cs with
  | nil =>
    refine iff_of_false (not_shows_of_length_lt (by decide)) ?_
    rintro (⟨m, hm, -, h⟩ | ⟨c, m, -, -, -, h⟩)
    · exact not_shows_of_length_lt (by decide) ⟨m, hm, h⟩
    · exact absurd (List.infix_nil.mp h) (List.cons_ne_nil c m)
  | cons c cs ih =>
    rw [showsVerbatim_cons_iff, completesBearer_cons_iff]
    by_cases hc : isVerbatim c = true
    · have hb : escapeEndsInB c ≠ true := fun hb ↦
        absurd (hc.symm.trans (isVerbatim_eq_false_of_escapeEndsInB hb)) (by decide)
      rw [shows_written_cons_of_isVerbatim hc, ih, eq_false hb, false_and, false_or, or_assoc]
    · have hnone : ¬ ∃ m, IsSecret m ∧ (∀ x ∈ m, isVerbatim x = true) ∧ m <+: c :: cs := by
        rintro ⟨m, hm, hall, h⟩
        obtain ⟨d, rest, rfl, -⟩ := hm.exists_eq_cons
        rw [(List.cons_prefix_cons.mp h).1] at hall
        exact hc (hall c List.mem_cons_self)
      rw [shows_written_cons_of_not_isVerbatim (Bool.eq_false_of_not_eq_true hc), ih,
        or_iff_right hnone, or_left_comm]

/-- A text without secrets shows one in its written form only by completing an escape. -/
theorem shows_written_iff_of_not_shows {cs : List Char} (h : ¬ Shows cs) :
    Shows (written cs) ↔ CompletesBearer cs := by
  rw [shows_written_iff, or_iff_right]
  rintro ⟨m, hm, -, hpart⟩
  exact h ⟨m, hm, hpart⟩

/-! ## The texts of a value -/

/-- A text in a value: the key of a mapping, or one that stands elsewhere. -/
inductive TextIn where
  | key (s : String)
  | item (s : String)

/-- The characters of a text. -/
def TextIn.chars : TextIn → List Char
  | .key s => s.toList
  | .item s => s.toList

/-- A text is in a value, at any depth. A key counts as the text that it is shown as. -/
inductive Has : TextIn → Value → Prop where
  | str (s : String) : Has (.item s) (.str s)
  | list {t : TextIn} {x : Value} {xs : List Value} (hx : x ∈ xs) (h : Has t x) :
      Has t (.list xs)
  | tuple {t : TextIn} {x : Value} {xs : List Value} (hx : x ∈ xs) (h : Has t x) :
      Has t (.tuple xs)
  | key {e : Value × Value} {es : List (Value × Value)} (he : e ∈ es) :
      Has (.key e.1.plainText) (.map es)
  | entry {t : TextIn} {e : Value × Value} {es : List (Value × Value)} (he : e ∈ es)
      (h : Has t e.2) : Has t (.map es)

/-- A value is made of mappings, lists, tuples, texts, numbers, truth values and null, and the keys
of its mappings satisfy `K`. -/
inductive Data (K : Value → Prop) : Value → Prop where
  | null : Data K .null
  | bool (b : Bool) : Data K (.bool b)
  | int (n : Int) : Data K (.int n)
  | float (x : Float) : Data K (.float x)
  | str (s : String) : Data K (.str s)
  | list {xs : List Value} (h : ∀ x ∈ xs, Data K x) : Data K (.list xs)
  | tuple {xs : List Value} (h : ∀ x ∈ xs, Data K x) : Data K (.tuple xs)
  | map {es : List (Value × Value)} (hkeys : ∀ e ∈ es, K e.1) (h : ∀ e ∈ es, Data K e.2) :
      Data K (.map es)

/-- A value is a text. -/
def IsText (v : Value) : Prop := ∃ s, v = .str s

theorem has_str_iff {t : TextIn} {s : String} : Has t (.str s) ↔ t = .item s := by
  constructor
  · rintro ⟨⟩
    rfl
  · rintro rfl
    exact .str s

theorem has_list_iff {t : TextIn} {xs : List Value} :
    Has t (.list xs) ↔ ∃ x ∈ xs, Has t x := by
  constructor
  · intro h
    cases h with
    | list hx h => exact ⟨_, hx, h⟩
  · rintro ⟨x, hx, h⟩
    exact .list hx h

theorem has_tuple_iff {t : TextIn} {xs : List Value} :
    Has t (.tuple xs) ↔ ∃ x ∈ xs, Has t x := by
  constructor
  · intro h
    cases h with
    | tuple hx h => exact ⟨_, hx, h⟩
  · rintro ⟨x, hx, h⟩
    exact .tuple hx h

theorem has_map_iff {t : TextIn} {es : List (Value × Value)} :
    Has t (.map es) ↔ ∃ e ∈ es, t = .key e.1.plainText ∨ Has t e.2 := by
  constructor
  · intro h
    cases h with
    | key he => exact ⟨_, he, Or.inl rfl⟩
    | entry he h => exact ⟨_, he, Or.inr h⟩
  · rintro ⟨e, he, rfl | h⟩
    · exact .key he
    · exact .entry he h

/-- A text in a value shows a secret when it is written. -/
def ShowsWritten (v : Value) : Prop := ∃ t, Has t v ∧ Shows (written t.chars)

theorem showsWritten_str_iff {s : String} :
    ShowsWritten (.str s) ↔ Shows (written s.toList) := by
  simp only [ShowsWritten, has_str_iff, exists_eq_left, TextIn.chars]

theorem showsWritten_iff_of_members {v : Value} {xs : List Value}
    (h : ∀ t, Has t v ↔ ∃ x ∈ xs, Has t x) : ShowsWritten v ↔ ∃ x ∈ xs, ShowsWritten x := by
  simp only [ShowsWritten, h]
  constructor
  · rintro ⟨t, ⟨x, hx, ht⟩, hshows⟩
    exact ⟨x, hx, t, ht, hshows⟩
  · rintro ⟨x, hx, t, ht, hshows⟩
    exact ⟨t, ⟨x, hx, ht⟩, hshows⟩

theorem showsWritten_map_iff {es : List (Value × Value)} :
    ShowsWritten (.map es) ↔
      ∃ e ∈ es, Shows (written e.1.plainText.toList) ∨ ShowsWritten e.2 := by
  simp only [ShowsWritten, has_map_iff]
  constructor
  · rintro ⟨t, ⟨e, he, rfl | h⟩, hshows⟩
    · exact ⟨e, he, Or.inl hshows⟩
    · exact ⟨e, he, Or.inr ⟨t, h, hshows⟩⟩
  · rintro ⟨e, he, hshows | ⟨t, h, hshows⟩⟩
    · exact ⟨.key e.1.plainText, ⟨e, he, Or.inl rfl⟩, hshows⟩
    · exact ⟨t, ⟨e, he, Or.inr h⟩, hshows⟩

/-! ## Writing a value -/

theorem shows_writeString_iff {s : String} :
    Shows (writeString false s) ↔ Shows (written s.toList) := by
  show Shows ('"' :: (written s.toList ++ '"' :: [])) ↔ _
  rw [shows_cons_iff_of_not_begins (by decide), shows_append_cons_iff (by decide),
    or_iff_left (not_shows_of_length_lt (by decide))]

/-- What cannot reach over a comma is among several items exactly if it is in one of them. -/
theorem separate_iff {P : List Char → Prop} (hnil : ¬ P [])
    (hcomma : ∀ {a b : List Char}, P (a ++ ',' :: ' ' :: b) ↔ P a ∨ P b) {xs : List (List Char)} :
    P (separate xs) ↔ ∃ x ∈ xs, P x := by
  induction xs with
  | nil => exact iff_of_false hnil (by simp)
  | cons x xs ih =>
    cases xs with
    | nil => simp [separate]
    | cons y ys =>
      rw [List.exists_mem_cons_iff, ← ih]
      exact hcomma

theorem shows_separate_iff {xs : List (List Char)} :
    Shows (separate xs) ↔ ∃ x ∈ xs, Shows x := by
  refine separate_iff (not_shows_of_length_lt (by decide)) fun {a b} ↦ ?_
  rw [shows_append_cons_iff (by decide), shows_cons_iff_of_not_begins (by decide)]

/-- What stands between two brackets. -/
theorem shows_bracketed_iff {cs : List Char} {a b : Char} (ha : beginsSecret a = false)
    (hb : breaksSecret b = true) : Shows (a :: (cs ++ [b])) ↔ Shows cs := by
  rw [shows_cons_iff_of_not_begins ha, shows_append_cons_iff hb,
    or_iff_left (not_shows_of_length_lt (by decide))]

/-- A list whose members can all be worked on. -/
theorem exists_mapM_eq_ok {ε α β : Type} {f : α → Except ε β} {R : α → β → Prop} {xs : List α}
    (h : ∀ x ∈ xs, ∃ y, f x = .ok y ∧ R x y) :
    ∃ ys, xs.mapM f = .ok ys ∧ List.Forall₂ R xs ys := by
  induction xs with
  | nil => exact ⟨[], rfl, .nil⟩
  | cons x xs ih =>
    obtain ⟨⟨y, hy, hR⟩, hxs⟩ := List.forall_mem_cons.mp h
    obtain ⟨ys, hys, hRs⟩ := ih hxs
    refine ⟨y :: ys, ?_, .cons hR hRs⟩
    rw [List.mapM_cons, hy, hys]
    rfl

theorem exists_mem_iff_of_forall₂ {α β : Type} {P : α → Prop} {Q : β → Prop} {xs : List α}
    {ys : List β} (h : List.Forall₂ (fun x y ↦ P x ↔ Q y) xs ys) :
    (∃ x ∈ xs, P x) ↔ ∃ y ∈ ys, Q y := by
  induction h with
  | nil => simp
  | cons hxy _ ih => rw [List.exists_mem_cons_iff, List.exists_mem_cons_iff, hxy, ih]

theorem writeAll_eq_mapM (style : Style) (xs : List Value) :
    writeAll style xs = xs.mapM (writeChars style) := by
  induction xs with
  | nil => rfl
  | cons x xs ih => rw [writeAll, List.mapM_cons, ih]

/-- The values of a list in brackets, when each of them can be written. -/
theorem exists_writeAll_eq_ok {xs : List Value}
    (h : ∀ x ∈ xs, ∃ cs, writeChars .log x = .ok cs ∧ (ShowsWritten x ↔ Shows cs)) :
    ∃ ys, writeAll .log xs = .ok ys ∧
      ((∃ x ∈ xs, ShowsWritten x) ↔ Shows ('[' :: (separate ys ++ [']']))) := by
  obtain ⟨ys, hys, hiff⟩ := exists_mapM_eq_ok h
  refine ⟨ys, (writeAll_eq_mapM .log xs).trans hys, ?_⟩
  rw [shows_bracketed_iff (by decide) (by decide), shows_separate_iff,
    exists_mem_iff_of_forall₂ hiff]

/-- The values of a mapping, when each of them can be written. -/
theorem exists_writeValues_eq_ok {es : List (Value × Value)} (hkeys : ∀ e ∈ es, IsText e.1)
    (h : ∀ e ∈ es, ∃ cs, writeChars .log e.2 = .ok cs ∧ (ShowsWritten e.2 ↔ Shows cs)) :
    ∃ fs, writeValues .log es = .ok fs ∧ (∀ f ∈ fs, IsText f.1) ∧
      ((∃ e ∈ es, Shows (written e.1.plainText.toList) ∨ ShowsWritten e.2) ↔
        ∃ f ∈ fs, Shows (written f.1.plainText.toList) ∨ Shows f.2) := by
  induction es with
  | nil => exact ⟨[], rfl, by simp, by simp⟩
  | cons e es ih =>
    obtain ⟨⟨cs, hcs, hiff⟩, hes⟩ := List.forall_mem_cons.mp h
    obtain ⟨hkey, hkeys⟩ := List.forall_mem_cons.mp hkeys
    obtain ⟨fs, hfs, htexts, hall⟩ := ih hkeys hes
    refine ⟨(e.1, cs) :: fs, ?_, List.forall_mem_cons.mpr ⟨hkey, htexts⟩, ?_⟩
    · rw [writeValues, hcs, hfs]
      rfl
    · rw [List.exists_mem_cons_iff, List.exists_mem_cons_iff, hiff, hall]

/-- Entries with texts as keys can be sorted. -/
theorem sortEntries_eq_ok {α : Type} {es : List (Value × α)} (h : ∀ e ∈ es, IsText e.1) :
    sortEntries es = .ok (es.mergeSort fun e f ↦ (keyLe? e.1 f.1).getD true) := by
  refine if_pos ?_
  rw [Bool.or_eq_true]
  refine Or.inl (List.all_eq_true.mpr fun e he ↦ List.all_eq_true.mpr fun f hf ↦ ?_)
  obtain ⟨s, hs⟩ := h e he
  obtain ⟨t, ht⟩ := h f hf
  rw [hs, ht]
  rfl

theorem exists_sortEntries_eq_ok {α : Type} {es : List (Value × α)} (h : ∀ e ∈ es, IsText e.1) :
    ∃ fs, sortEntries es = .ok fs ∧ ∀ e, e ∈ fs ↔ e ∈ es :=
  ⟨_, sortEntries_eq_ok h, fun _ ↦ List.mem_mergeSort⟩

theorem exists_writeEntry_eq_ok {e : Value × List Char} (h : IsText e.1) :
    ∃ cs, writeEntry .log e = .ok cs ∧
      ((Shows (written e.1.plainText.toList) ∨ Shows e.2) ↔ Shows cs) := by
  obtain ⟨k, cs⟩ := e
  obtain ⟨s, rfl⟩ := h
  refine ⟨writeString false s ++ ':' :: ' ' :: cs, rfl, ?_⟩
  rw [shows_append_cons_iff (by decide), shows_cons_iff_of_not_begins (by decide),
    shows_writeString_iff]
  rfl

/-- A value with texts as keys can be written, and its line shows a secret exactly where one of its
texts does: nothing comes in between the texts that could begin a secret or go on with one. -/
theorem shows_writeChars_iff {v : Value} (h : Data IsText v) :
    ∃ cs, writeChars .log v = .ok cs ∧ (ShowsWritten v ↔ Shows cs) := by
  induction h with
  | null =>
    refine ⟨_, rfl, iff_of_false ?_ (not_shows_of_length_lt (by decide))⟩
    rintro ⟨_, ⟨⟩, _⟩
  | bool b =>
    refine ⟨(if b then "true" else "false").toList, by cases b <;> rfl, iff_of_false ?_ ?_⟩
    · rintro ⟨_, ⟨⟩, _⟩
    · exact not_shows_of_length_lt (by cases b <;> decide)
  | int n =>
    refine ⟨_, rfl, iff_of_false ?_ (not_shows_of_not_begins (numeric_int n).quiet)⟩
    rintro ⟨_, ⟨⟩, _⟩
  | float x =>
    refine ⟨_, rfl, iff_of_false ?_ (not_shows_of_not_begins (numeric_float x).quiet)⟩
    rintro ⟨_, ⟨⟩, _⟩
  | str s => exact ⟨_, rfl, showsWritten_str_iff.trans shows_writeString_iff.symm⟩
  | list _ ih =>
    obtain ⟨ys, hys, hiff⟩ := exists_writeAll_eq_ok ih
    refine ⟨_, ?_, (showsWritten_iff_of_members fun _ ↦ has_list_iff).trans hiff⟩
    rw [writeChars, hys]
    rfl
  | tuple _ ih =>
    obtain ⟨ys, hys, hiff⟩ := exists_writeAll_eq_ok ih
    refine ⟨_, ?_, (showsWritten_iff_of_members fun _ ↦ has_tuple_iff).trans hiff⟩
    rw [writeChars, hys]
    rfl
  | @map es hkeys _ ih =>
    -- the values are written first, then the entries are sorted, and only then are keys written
    obtain ⟨fs, hfs, htexts, hvalues⟩ := exists_writeValues_eq_ok hkeys ih
    obtain ⟨gs, hgs, hmem⟩ := exists_sortEntries_eq_ok htexts
    obtain ⟨lines, hlines, hentries⟩ := exists_mapM_eq_ok
      fun f hf ↦ exists_writeEntry_eq_ok (htexts f ((hmem f).mp hf))
    refine ⟨'\x7b' :: (separate lines ++ ['\x7d']), ?_, ?_⟩
    · rw [writeChars, hfs]
      show (sortEntries fs >>= _) = _
      rw [hgs]
      show (gs.mapM (writeEntry .log) >>= _) = _
      rw [hlines]
      rfl
    · rw [showsWritten_map_iff, shows_bracketed_iff (by decide) (by decide), shows_separate_iff,
        ← exists_mem_iff_of_forall₂ hentries, hvalues]
      simp only [hmem]

end CallTree.Report
