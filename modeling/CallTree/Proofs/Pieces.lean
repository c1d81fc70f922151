import CallTree.Benchmark.Case
import CallTree.Proofs.ReadData

/-!
# Searching the text of a value

Words are looked up in the text of a value, as parts of it and without regard to letter case. The
text of a written value is ASCII, so that its characters are made small one by one, and it is made
of pieces with marks between them: quotes, commas, colons, blanks and brackets. A word without marks
cannot reach from one piece into another. So it is part of the text exactly if it is part of a piece
(`exists_searchable`). Data with texts as keys can always be written, and so can what was read.
-/

namespace CallTree

open Json Value Report

/-! ## Searching without regard to letter case -/

/-- A text in lower case. -/
def folded (s : String) : List Char := (Text.lower s).toList

/-- A word in lower case is part of a text. -/
def Finds (word cs : List Char) : Prop := word <:+: cs.map Char.toLower

/-- All characters are in the ASCII range. -/
def Ascii (cs : List Char) : Prop := ∀ c ∈ cs, c.toNat < 128

theorem occursIn_iff (part whole : String) :
    Text.occursIn part whole = true ↔ part.toList <:+: whole.toList := by
  rw [Text.occursIn]
  induction whole.toList with
  | nil => simp [Text.occursInList]
  | cons c cs ih =>
    rw [Text.occursInList, Bool.or_eq_true, ih, List.isPrefixOf_iff_prefix, List.infix_cons_iff]

theorem usesAll_iff {mustUse : List String} {text : String} :
    usesAll mustUse text = true ↔ ∀ word ∈ mustUse, folded word <:+: folded text := by
  rw [usesAll, List.all_eq_true]
  simp only [occursIn_iff, folded]

/-- In the ASCII range the characters are made small one by one. -/
theorem folded_of_ascii {s : String} (h : Ascii s.toList) :
    folded s = s.toList.map Char.toLower := by
  have hfrom : ∀ (cs before : List Char), Ascii cs →
      Text.lowerFrom before cs = cs.map Char.toLower := by
    intro cs
    induction cs with
    | nil => exact fun _ _ ↦ rfl
    | cons c cs ih =>
      intro before hcs
      obtain ⟨hc, hcs⟩ := List.forall_mem_cons.mp hcs
      rw [Text.lowerFrom, Text.lowerChar, if_pos hc, ih _ hcs]
      rfl
  rw [folded, Text.lower, String.toList_ofList, hfrom _ _ h]

/-! ## Words and marks -/

/-- The characters between the pieces of a written value. -/
def marks : List Char := ['"', ',', ':', ' ', '[', ']', '\x7b', '\x7d']

/-- A word is not empty and has no marks in it. -/
def IsWord (word : List Char) : Prop := word ≠ [] ∧ ∀ d ∈ marks, d ∉ word

instance (word : List Char) : Decidable (IsWord word) :=
  inferInstanceAs (Decidable (word ≠ [] ∧ ∀ d ∈ marks, d ∉ word))

section

variable {word : List Char} (hword : IsWord word)

include hword

theorem not_finds_nil : ¬ Finds word [] := fun h ↦ hword.1 (List.infix_nil.mp h)

/-- A word is on one side of each mark. -/
theorem finds_append_cons_iff {d : Char} (hd : d ∈ marks) {a b : List Char} :
    Finds word (a ++ d :: b) ↔ Finds word a ∨ Finds word b := by
  have hsame : ∀ d ∈ marks, d.toLower = d := by simp [marks, Char.toLower]
  rw [Finds, List.map_append, List.map_cons, hsame d hd,
    infix_append_cons_iff (hword.2 d hd)]
  rfl

theorem finds_cons_iff {d : Char} (hd : d ∈ marks) {cs : List Char} :
    Finds word (d :: cs) ↔ Finds word cs := by
  have h := finds_append_cons_iff hword hd (a := []) (b := cs)
  rwa [List.nil_append, or_iff_right (not_finds_nil hword)] at h

/-- What stands between two marks. -/
theorem finds_between_iff {d e : Char} (hd : d ∈ marks) (he : e ∈ marks) {cs : List Char} :
    Finds word (d :: (cs ++ [e])) ↔ Finds word cs := by
  rw [finds_cons_iff hword hd, finds_append_cons_iff hword he,
    or_iff_left (not_finds_nil hword)]

theorem finds_separate_iff {xs : List (List Char)} :
    Finds word (separate xs) ↔ ∃ x ∈ xs, Finds word x := by
  refine separate_iff (not_finds_nil hword) fun {a b} ↦ ?_
  rw [finds_append_cons_iff hword (by decide), finds_cons_iff hword (by decide)]

end

/-! ## The pieces of a value -/

/-- A text as it stands between quotes. -/
def quoted (s : String) : List Char := s.toList.flatMap (escapeChar true)

/-- The pieces of a written value, at any depth. A key counts as the text that it is shown as. -/
inductive Piece : List Char → Value → Prop where
  | null : Piece "null".toList .null
  | bool (b : Bool) : Piece (if b then "true" else "false").toList (.bool b)
  | int (n : Int) : Piece (toString n).toList (.int n)
  | float (x : Float) : Piece (Decimal.inJson.float x).toList (.float x)
  | str (s : String) : Piece (quoted s) (.str s)
  | list {p : List Char} {x : Value} {xs : List Value} (hx : x ∈ xs) (h : Piece p x) :
      Piece p (.list xs)
  | tuple {p : List Char} {x : Value} {xs : List Value} (hx : x ∈ xs) (h : Piece p x) :
      Piece p (.tuple xs)
  | key {e : Value × Value} {es : List (Value × Value)} (he : e ∈ es) :
      Piece (quoted e.1.plainText) (.map es)
  | entry {p : List Char} {e : Value × Value} {es : List (Value × Value)} (he : e ∈ es)
      (h : Piece p e.2) : Piece p (.map es)

/-- A word is part of a piece of a value. -/
def Value.Mentions (word : List Char) (v : Value) : Prop := ∃ p, Piece p v ∧ Finds word p

variable {word : List Char}

theorem mentions_str_iff {s : String} : (Value.str s).Mentions word ↔ Finds word (quoted s) := by
  constructor
  · rintro ⟨p, hp, h⟩
    cases hp
    exact h
  · exact fun h ↦ ⟨_, .str s, h⟩

theorem mentions_list_iff {xs : List Value} :
    (Value.list xs).Mentions word ↔ ∃ x ∈ xs, x.Mentions word := by
  constructor
  · rintro ⟨p, hp, h⟩
    cases hp with
    | list hx hp => exact ⟨_, hx, p, hp, h⟩
  · rintro ⟨x, hx, p, hp, h⟩
    exact ⟨p, .list hx hp, h⟩

theorem mentions_tuple_iff {xs : List Value} :
    (Value.tuple xs).Mentions word ↔ ∃ x ∈ xs, x.Mentions word := by
  constructor
  · rintro ⟨p, hp, h⟩
    cases hp with
    | tuple hx hp => exact ⟨_, hx, p, hp, h⟩
  · rintro ⟨x, hx, p, hp, h⟩
    exact ⟨p, .tuple hx hp, h⟩

theorem mentions_map_iff {es : List (Value × Value)} :
    (Value.map es).Mentions word ↔
      ∃ e ∈ es, Finds word (quoted e.1.plainText) ∨ e.2.Mentions word := by
  constructor
  · rintro ⟨p, hp, h⟩
    cases hp with
    | key he => exact ⟨_, he, Or.inl h⟩
    | entry he hp => exact ⟨_, he, Or.inr ⟨p, hp, h⟩⟩
  · rintro ⟨e, he, h | ⟨p, hp, h⟩⟩
    · exact ⟨_, .key he, h⟩
    · exact ⟨p, .entry he hp, h⟩

/-! ## Searching a written value -/

theorem ascii_append {a b : List Char} (ha : Ascii a) (hb : Ascii b) : Ascii (a ++ b) :=
  fun c hc ↦ (List.mem_append.mp hc).elim (ha c) (hb c)

theorem ascii_singleton {c : Char} (h : c.toNat < 128) : Ascii [c] := by
  intro d hd
  rwa [List.mem_singleton.mp hd]

theorem ascii_hexText (width n : Nat) : Ascii (hexText width n) := by
  have hdigit : ∀ d < 16, (hexChar d).toNat < 128 := by decide
  induction width generalizing n with
  | zero => exact fun c hc ↦ absurd hc List.not_mem_nil
  | succ width ih =>
    rw [hexText]
    exact ascii_append (ih _) (ascii_singleton (hdigit _ (Nat.mod_lt n (by decide))))

theorem ascii_unicodeEscape (n : Nat) : Ascii (unicodeEscape n) :=
  List.forall_mem_cons.mpr ⟨by decide, List.forall_mem_cons.mpr ⟨by decide, ascii_hexText 4 n⟩⟩

theorem ascii_ite {p : Prop} [Decidable p] {a b : List Char} (ha : p → Ascii a) (hb : Ascii b) :
    Ascii (if p then a else b) := by
  split
  · next hp => exact ha hp
  · exact hb

theorem ascii_escapeChar (c : Char) : Ascii (escapeChar true c) := by
  have hshort : ∀ d : Char, d.toNat < 128 → Ascii ['\\', d] := fun d hd ↦
    List.forall_mem_cons.mpr ⟨by decide, ascii_singleton hd⟩
  rw [escapeChar]
  refine ascii_ite (fun _ ↦ hshort '"' (by decide)) ?_
  refine ascii_ite (fun _ ↦ hshort '\\' (by decide)) ?_
  refine ascii_ite (fun _ ↦ hshort 'n' (by decide)) ?_
  refine ascii_ite (fun _ ↦ hshort 'r' (by decide)) ?_
  refine ascii_ite (fun _ ↦ hshort 't' (by decide)) ?_
  refine ascii_ite (fun _ ↦ hshort 'f' (by decide)) ?_
  refine ascii_ite (fun _ ↦ hshort 'b' (by decide)) ?_
  refine ascii_ite (fun _ ↦ ascii_unicodeEscape _) ?_
  refine ascii_ite (fun hplain ↦ ascii_singleton ?_) ?_
  · have hlt : c.toNat < 127 := by simpa using hplain
    omega
  · refine ascii_ite (fun _ ↦ ascii_unicodeEscape _) ?_
    exact ascii_append (ascii_unicodeEscape _) (ascii_unicodeEscape _)

theorem ascii_writeString (s : String) : Ascii (writeString true s) := by
  refine List.forall_mem_cons.mpr ⟨by decide, ascii_append (fun c hc ↦ ?_) ?_⟩
  · obtain ⟨d, -, hd⟩ := List.mem_flatMap.mp hc
    exact ascii_escapeChar d c hd
  · exact ascii_singleton (by decide)

theorem ascii_separate {xs : List (List Char)} (h : ∀ x ∈ xs, Ascii x) : Ascii (separate xs) := by
  induction xs with
  | nil => exact fun c hc ↦ absurd hc List.not_mem_nil
  | cons x xs ih =>
    obtain ⟨hx, hxs⟩ := List.forall_mem_cons.mp h
    cases xs with
    | nil => exact hx
    | cons y ys =>
      refine ascii_append hx (List.forall_mem_cons.mpr ⟨by decide, ?_⟩)
      exact List.forall_mem_cons.mpr ⟨by decide, ih hxs⟩

/-- Items between two marks. -/
theorem ascii_between {d e : Char} (hd : d.toNat < 128) (he : e.toNat < 128)
    {xs : List (List Char)} (h : ∀ x ∈ xs, Ascii x) : Ascii (d :: (separate xs ++ [e])) := by
  exact List.forall_mem_cons.mpr ⟨hd, ascii_append (ascii_separate h) (ascii_singleton he)⟩

theorem finds_writeString_iff (hword : IsWord word) {s : String} :
    Finds word (writeString true s) ↔ Finds word (quoted s) :=
  finds_between_iff hword (by decide) (by decide)

/-- What a value is written as, with what is found in it. -/
structure Searchable (v : Value) (cs : List Char) : Prop where
  written : writeChars .compact v = .ok cs
  ascii : Ascii cs
  finds : ∀ {word}, IsWord word → (v.Mentions word ↔ Finds word cs)

/-- A value that is written as one piece. -/
theorem searchable_piece {v : Value} {cs : List Char} (hwritten : writeChars .compact v = .ok cs)
    (hpiece : Piece cs v) (honly : ∀ p, Piece p v → p = cs) (hascii : Ascii cs) :
    Searchable v cs := by
  refine ⟨hwritten, hascii, fun _ ↦ ⟨?_, fun h ↦ ⟨cs, hpiece, h⟩⟩⟩
  rintro ⟨p, hp, h⟩
  rwa [honly p hp] at h

theorem ascii_of_numeric {s : String} (h : Numeric s) : Ascii s.toList :=
  fun c hc ↦ toNat_lt_of_isNumberChar (h c hc)

theorem forall_mem_of_forall₂ {α β : Type} {R : α → β → Prop} {Q : β → Prop} {xs : List α}
    {ys : List β} (h : List.Forall₂ R xs ys) (hQ : ∀ x y, R x y → Q y) : ∀ y ∈ ys, Q y :=
  ((List.forall₂_and_left ys xs).mp (h.flip.imp fun y x hxy ↦ ⟨hQ x y hxy, hxy⟩)).1

/-- The values of a list in brackets, when each of them can be written. -/
theorem exists_writeAll_compact {xs : List Value} (h : ∀ x ∈ xs, ∃ cs, Searchable x cs) :
    ∃ ys, writeAll .compact xs = .ok ys ∧ Ascii ('[' :: (separate ys ++ [']'])) ∧
      ∀ {word}, IsWord word →
        ((∃ x ∈ xs, x.Mentions word) ↔ Finds word ('[' :: (separate ys ++ [']']))) := by
  obtain ⟨ys, hys, hall⟩ := exists_mapM_eq_ok (R := Searchable)
    fun x hx ↦ (h x hx).imp fun _ hcs ↦ ⟨hcs.written, hcs⟩
  refine ⟨ys, (writeAll_eq_mapM .compact xs).trans hys, ?_, fun hword ↦ ?_⟩
  · exact ascii_between (by decide) (by decide) (forall_mem_of_forall₂ hall fun _ _ h ↦ h.ascii)
  · rw [finds_between_iff hword (by decide) (by decide), finds_separate_iff hword]
    exact exists_mem_iff_of_forall₂ (hall.imp fun _ _ hxy ↦ hxy.finds hword)

/-- An entry of a mapping, its key and its value written. -/
structure SearchableEntry (e : Value × Value) (line : List Char) : Prop where
  ascii : Ascii line
  finds : ∀ {word}, IsWord word →
    (Finds word (quoted e.1.plainText) ∨ e.2.Mentions word ↔ Finds word line)

/-- The entries of a mapping, when each of its values can be written: the values are written first,
and then the entries. -/
theorem exists_writeEntries {es : List (Value × Value)} (hkeys : TextKeys es)
    (h : ∀ e ∈ es, ∃ cs, Searchable e.2 cs) :
    ∃ fs lines, writeValues .compact es = .ok fs ∧ fs.mapM (writeEntry .compact) = .ok lines ∧
      List.Forall₂ SearchableEntry es lines := by
  induction es with
  | nil => exact ⟨[], [], rfl, rfl, .nil⟩
  | cons e es ih =>
    obtain ⟨k, v⟩ := e
    obtain ⟨⟨cs, hcs⟩, hes⟩ := List.forall_mem_cons.mp h
    obtain ⟨⟨s, rfl⟩, hrest⟩ := List.forall_mem_cons.mp hkeys
    obtain ⟨fs, lines, hfs, hlines, hall⟩ := ih hrest hes
    refine ⟨(.str s, cs) :: fs, (writeString true s ++ ':' :: ' ' :: cs) :: lines, ?_, ?_,
      .cons ⟨?_, fun hword ↦ ?_⟩ hall⟩
    · rw [writeValues, hcs.written, hfs]
      rfl
    · rw [List.mapM_cons, hlines]
      rfl
    · refine ascii_append (ascii_writeString s) (List.forall_mem_cons.mpr ⟨by decide, ?_⟩)
      exact List.forall_mem_cons.mpr ⟨by decide, hcs.ascii⟩
    · rw [finds_append_cons_iff hword (by decide), finds_cons_iff hword (by decide),
        finds_writeString_iff hword, hcs.finds hword]
      rfl

/-- **A written value is searched piece by piece.** -/
theorem exists_searchable {v : Value} (h : Data IsText v) : ∃ cs, Searchable v cs := by
  induction h with
  | null => exact ⟨_, searchable_piece rfl .null (by rintro _ ⟨⟩; rfl) (by simp [Ascii])⟩
  | bool b =>
    have hascii : Ascii (if b then "true" else "false").toList := by cases b <;> simp [Ascii]
    exact ⟨_, searchable_piece (by cases b <;> rfl) (.bool b) (by rintro _ ⟨⟩; rfl) hascii⟩
  | int n =>
    exact ⟨_, searchable_piece rfl (.int n) (by rintro _ ⟨⟩; rfl)
      (ascii_of_numeric (numeric_int n))⟩
  | float x =>
    have hascii := ascii_of_numeric (numeric_float x)
    exact ⟨_, searchable_piece rfl (.float x) (by rintro _ ⟨⟩; rfl) hascii⟩
  | str s =>
    exact ⟨_, rfl, ascii_writeString s, fun hword ↦
      mentions_str_iff.trans (finds_writeString_iff hword).symm⟩
  | list _ ih =>
    obtain ⟨ys, hys, hascii, hfinds⟩ := exists_writeAll_compact ih
    exact ⟨_, by rw [writeChars, hys]; rfl, hascii, fun hword ↦
      mentions_list_iff.trans (hfinds hword)⟩
  | tuple _ ih =>
    obtain ⟨ys, hys, hascii, hfinds⟩ := exists_writeAll_compact ih
    exact ⟨_, by rw [writeChars, hys]; rfl, hascii, fun hword ↦
      mentions_tuple_iff.trans (hfinds hword)⟩
  | map hkeys _ ih =>
    obtain ⟨fs, lines, hfs, hlines, hall⟩ := exists_writeEntries hkeys ih
    refine ⟨'\x7b' :: (separate lines ++ ['\x7d']), ?_, ?_, fun hword ↦ ?_⟩
    · rw [writeChars, hfs]
      show (fs.mapM (writeEntry .compact) >>= _) = _
      rw [hlines]
      rfl
    · exact ascii_between (by decide) (by decide) (forall_mem_of_forall₂ hall fun _ _ h ↦ h.ascii)
    · rw [mentions_map_iff, finds_between_iff hword (by decide) (by decide),
        finds_separate_iff hword]
      exact exists_mem_iff_of_forall₂ (hall.imp fun _ _ hline ↦ hline.finds hword)

/-- **What is read can be written.** -/
theorem exists_write_of_read {s : String} {v : Value} (h : Json.read s = .ok v) :
    ∃ t, Json.write .compact v = .ok t := by
  obtain ⟨cs, hcs⟩ := exists_searchable (data_of_read h)
  refine ⟨String.ofList cs, ?_⟩
  rw [Json.write, unlessLong, hasLong_of_read h, hcs.written]
  rfl

/-- A word is part of the text of a value that was read exactly if it is part of a piece. -/
theorem infix_folded_iff_mentions {source text : String} {v : Value}
    (hread : Json.read source = .ok v) (hwritten : Json.write .compact v = .ok text)
    (hword : IsWord word) : word <:+: folded text ↔ v.Mentions word := by
  obtain ⟨cs, hcs⟩ := exists_searchable (data_of_read hread)
  rw [Json.write, unlessLong, hasLong_of_read hread, hcs.written] at hwritten
  obtain rfl := Except.ok.inj hwritten
  rw [folded_of_ascii (by rw [String.toList_ofList]; exact hcs.ascii), String.toList_ofList,
    hcs.finds hword]
  rfl

end CallTree
