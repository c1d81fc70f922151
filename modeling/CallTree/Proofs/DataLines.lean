import CallTree.Benchmark.Dataset
import CallTree.Proofs.Lexing
import CallTree.Proofs.Written
import CallTree.Text.Newline

/-!
# Datasets in lines

A live dataset has one case to a line, and a line ends with a line feed. The loader splits its text
at further characters that stand for the end of a line. Three of them may stand in a JSON string as
they are. A text with one of them is taken apart, and its first piece ends within a string: it is
not blank, and it is no JSON. So the loader recovers the cases of a file exactly if none of them has
such a character in its text, and fails otherwise.

How a line is turned into a case is left open. All that is needed of it is that it takes nothing for
a case that is no JSON (`ReadsJson`).
-/

namespace CallTree

/-! ## Lines and their pieces -/

namespace Text

/-- The pieces of the rest of a line between characters that end lines, given the piece so far in
reverse. -/
def piecesFrom (piece : List Char) : List Char → List String
  | [] => [String.ofList piece.reverse]
  | c :: cs =>
    if endsLine c then String.ofList piece.reverse :: piecesFrom [] cs
    else piecesFrom (c :: piece) cs

/-- The texts that are not blank. -/
def written (ss : List String) : List String := ss.filter fun s ↦ !isBlankText s

/-- A text has neither a line feed nor a carriage return in it. -/
def IsLine (s : String) : Prop := '\n' ∉ s.toList ∧ '\r' ∉ s.toList

/-- A file of some lines, with or without an end of the last one. -/
def ofLines (ls : List String) (ended : Bool) : String :=
  "\n".intercalate ls ++ if ended then "\n" else ""

section

variable {xs : List Char}

theorem linesFrom_append_feed (hfeed : '\n' ∉ xs) (hreturn : '\r' ∉ xs) (piece ys : List Char) :
    linesFrom piece false (xs ++ '\n' :: ys) = piecesFrom piece xs ++ linesFrom [] false ys := by
  induction xs generalizing piece with
  | nil => rfl
  | cons c xs ih =>
    rw [List.mem_cons, not_or] at hfeed hreturn
    rw [List.cons_append, linesFrom, piecesFrom, Bool.false_and, if_neg Bool.false_ne_true]
    split
    · have hc : (c == '\r') = false := beq_eq_false_iff_ne.mpr (Ne.symm hreturn.1)
      rw [hc, ih hfeed.2 hreturn.2, List.cons_append]
    · exact ih hfeed.2 hreturn.2 (c :: piece)

theorem written_linesFrom (hreturn : '\r' ∉ xs) (piece : List Char) :
    written (linesFrom piece false xs) = written (piecesFrom piece xs) := by
  induction xs generalizing piece with
  | nil =>
    rw [linesFrom, piecesFrom]
    split
    · next hempty =>
      rw [List.isEmpty_iff.mp hempty]
      rfl
    · rfl
  | cons c xs ih =>
    rw [List.mem_cons, not_or] at hreturn
    rw [linesFrom, piecesFrom, Bool.false_and, if_neg Bool.false_ne_true]
    split
    · have hc : (c == '\r') = false := beq_eq_false_iff_ne.mpr (Ne.symm hreturn.1)
      rw [hc, written, written, List.filter_cons, List.filter_cons]
      have htail := ih hreturn.2 []
      rw [written, written] at htail
      rw [htail]
    · exact ih hreturn.2 (c :: piece)

/-- What is written in a file is what is written in its lines, one after another. -/
theorem written_lines_ofLines {ls : List String} (h : ∀ l ∈ ls, IsLine l) (ended : Bool) :
    written (lines (ofLines ls ended)) = ls.flatMap fun l ↦ written (piecesFrom [] l.toList) := by
  rw [lines, ofLines, String.toList_append, String.toList_intercalate]
  induction ls with
  | nil => cases ended <;> rfl
  | cons l ls ih =>
    obtain ⟨⟨hfeed, hreturn⟩, hls⟩ := List.forall_mem_cons.mp h
    cases ls with
    | nil =>
      rw [List.map_singleton, List.intercalate_singleton, List.flatMap_singleton]
      cases ended with
      | false =>
        show written (linesFrom [] false (l.toList ++ [])) = _
        rw [List.append_nil]
        exact written_linesFrom hreturn []
      | true =>
        show written (linesFrom [] false (l.toList ++ '\n' :: [])) = _
        rw [linesFrom_append_feed hfeed hreturn]
        exact congrArg written (List.append_nil _)
    | cons l' ls =>
      rw [List.map_cons, List.map_cons, List.intercalate_cons_cons, List.flatMap_cons]
      have hrest := ih hls
      rw [List.map_cons] at hrest
      rw [List.append_assoc, List.append_assoc]
      show written (linesFrom [] false (l.toList ++ '\n' :: _)) = _
      rw [linesFrom_append_feed hfeed hreturn, written, List.filter_append]
      exact congrArg _ hrest

theorem withLineFeeds_of_not_mem {s : String} (h : '\r' ∉ s.toList) : withLineFeeds s = s := by
  have hfeeds : ∀ cs : List Char, '\r' ∉ cs → feedsFrom false cs = cs := by
    intro cs hcs
    induction cs with
    | nil => rfl
    | cons c cs ih =>
      rw [List.mem_cons, not_or] at hcs
      have hc : (c == '\r') = false := beq_eq_false_iff_ne.mpr (Ne.symm hcs.1)
      rw [feedsFrom, hc, Bool.false_and, if_neg Bool.false_ne_true, if_neg Bool.false_ne_true,
        ih hcs.2]
  rw [withLineFeeds, hfeeds _ h, String.ofList_toList]

theorem return_not_mem_ofLines {ls : List String} (h : ∀ l ∈ ls, IsLine l) (ended : Bool) :
    '\r' ∉ (ofLines ls ended).toList := by
  have hfinal : '\r' ∉ (if ended then "\n" else "").toList := by cases ended <;> decide
  rw [ofLines, String.toList_append, String.toList_intercalate, List.mem_append, not_or]
  refine ⟨?_, hfinal⟩
  induction ls with
  | nil => exact List.not_mem_nil
  | cons l ls ih =>
    obtain ⟨⟨-, hreturn⟩, hls⟩ := List.forall_mem_cons.mp h
    cases ls with
    | nil => rwa [List.map_singleton, List.intercalate_singleton]
    | cons l' ls =>
      rw [List.map_cons, List.map_cons, List.intercalate_cons_cons, List.mem_append,
        List.mem_append, not_or, not_or]
      exact ⟨⟨hreturn, by decide⟩, ih hls⟩

theorem piecesFrom_append {as bs : List Char} (h : ∀ c ∈ as, endsLine c = false)
    (piece : List Char) : piecesFrom piece (as ++ bs) = piecesFrom (as.reverse ++ piece) bs := by
  induction as generalizing piece with
  | nil => rfl
  | cons c as ih =>
    obtain ⟨hc, has⟩ := List.forall_mem_cons.mp h
    rw [List.cons_append, piecesFrom, hc, if_neg Bool.false_ne_true, ih has, List.reverse_cons,
      List.append_assoc, List.singleton_append]

/-- A line without characters that end lines is one piece. -/
theorem piecesFrom_of_plain {s : String} (h : ∀ c ∈ s.toList, endsLine c = false) :
    piecesFrom [] s.toList = [s] := by
  rw [← s.toList.append_nil, piecesFrom_append h, piecesFrom]
  simp

/-- The first piece of a line goes up to the first character that ends lines. -/
theorem piecesFrom_of_break {as bs : List Char} {c : Char} (h : ∀ c ∈ as, endsLine c = false)
    (hc : endsLine c = true) :
    piecesFrom [] (as ++ c :: bs) = String.ofList as :: piecesFrom [] bs := by
  rw [piecesFrom_append h, piecesFrom, if_pos hc]
  simp

theorem written_piecesFrom_of_blank (h : ∀ c ∈ xs, isBlank c = true) (piece : List Char)
    (hpiece : ∀ c ∈ piece, isBlank c = true) : written (piecesFrom piece xs) = [] := by
  have hblank : ∀ cs : List Char, (∀ c ∈ cs, isBlank c = true) →
      isBlankText (String.ofList cs.reverse) = true := by
    intro cs hcs
    rw [isBlankText, String.toList_ofList, List.all_reverse, List.all_eq_true]
    exact hcs
  induction xs generalizing piece with
  | nil =>
    rw [piecesFrom, written, List.filter_singleton, hblank piece hpiece]
    rfl
  | cons c xs ih =>
    obtain ⟨hc, hxs⟩ := List.forall_mem_cons.mp h
    rw [piecesFrom]
    split
    · rw [written, List.filter_cons, hblank piece hpiece]
      exact ih hxs [] fun _ hmem ↦ absurd hmem List.not_mem_nil
    · exact ih hxs (c :: piece) (List.forall_mem_cons.mpr ⟨hc, hpiece⟩)

end

end Text

/-! ## Ends of lines in JSON texts -/

namespace Json

open CallTree.Text

/-- The characters that end lines and may stand in a JSON string as they are. -/
def separators : List Char := ['\u0085', '\u2028', '\u2029']

theorem endsLine_of_mem_separators {c : Char} (h : c ∈ separators) : endsLine c = true := by
  simp only [separators, List.mem_cons, List.not_mem_nil, or_false] at h
  rcases h with rfl | rfl | rfl <;> decide

theorem endsLine_iff {c : Char} : endsLine c = true ↔
    (10 ≤ c.toNat ∧ c.toNat ≤ 13) ∨ (28 ≤ c.toNat ∧ c.toNat ≤ 30) ∨ c.toNat = 0x85 ∨
      c.toNat = 0x2028 ∨ c.toNat = 0x2029 := by
  simp only [endsLine, Bool.or_eq_true, Bool.and_eq_true, decide_eq_true_eq, beq_iff_eq, or_assoc]

/-- A character that ends lines is passed over in a string only, line feeds and carriage returns
apart. -/
theorem inside_of_step {p q : Place} {c : Char} (hstep : p.step c = some q)
    (hc : endsLine c = true) (hfeed : c ≠ '\n') (hreturn : c ≠ '\r') :
    p = .inside ∧ c ∈ separators := by
  rw [endsLine_iff] at hc
  have hne : ∀ d : Char, d.toNat ≠ c.toNat → c ≠ d := fun d hd heq ↦ hd (congrArg _ heq.symm)
  cases p with
  | outside =>
    rw [Place.step, if_neg (hne _ (by show 34 ≠ c.toNat; omega))] at hstep
    split at hstep
    · next houter =>
      exfalso
      simp only [isOuter, isGap, Bool.and_eq_true, Bool.or_eq_true, beq_iff_eq,
        decide_eq_true_eq] at houter
      rcases houter.2 with (((rfl | rfl) | rfl) | rfl) | hvisible
      · exact absurd hc (by decide)
      · exact absurd hc (by decide)
      · exact hfeed rfl
      · exact hreturn rfl
      · omega
    · cases hstep
  | inside =>
    refine ⟨rfl, ?_⟩
    rw [Place.step, if_neg (hne _ (by show 34 ≠ c.toNat; omega)),
      if_neg (hne _ (by show 92 ≠ c.toNat; omega))] at hstep
    split at hstep
    · cases hstep
    · have hlarge : c.toNat = 0x85 ∨ c.toNat = 0x2028 ∨ c.toNat = 0x2029 := by omega
      simp only [separators, List.mem_cons, List.not_mem_nil, or_false, ← Char.toNat_inj]
      exact hlarge
  | escape =>
    exfalso
    rw [Place.step] at hstep
    split at hstep
    · next hletter =>
      rw [Bool.or_eq_true, decide_eq_true_eq] at hletter
      rcases hletter with rfl | hletter
      · exact absurd hc (by decide)
      · rw [escaped?.eq_def] at hletter
        split at hletter
        case h_9 => cases hletter
        all_goals exact absurd hc (by decide)
    · cases hstep

variable {s : String} {v : Value}

theorem exists_step_of_read (h : read s = .ok v) {before after : List Char} {c : Char}
    (hs : s.toList = before ++ c :: after) :
    ∃ p q, Place.run .outside before = some p ∧ p.step c = some q := by
  have hrun := runs_of_read h
  rw [hs, Place.run_append] at hrun
  obtain ⟨p, hp, hrun⟩ := Option.bind_eq_some_iff.mp hrun
  obtain ⟨q, hq, -⟩ := Option.bind_eq_some_iff.mp hrun
  exact ⟨p, q, hp, hq⟩

/-- The characters of a readable line that end lines are separators. -/
theorem plain_of_read (h : read s = .ok v) (hline : IsLine s)
    (hnone : ∀ c ∈ separators, c ∉ s.toList) : ∀ c ∈ s.toList, endsLine c = false := by
  intro c hc
  by_contra hends
  obtain ⟨before, after, hs⟩ := List.append_of_mem hc
  obtain ⟨p, q, -, hstep⟩ := exists_step_of_read h hs
  obtain ⟨-, hmem⟩ := inside_of_step hstep (Bool.eq_true_of_not_eq_false hends)
    (fun heq ↦ hline.1 (heq ▸ hc)) (fun heq ↦ hline.2 (heq ▸ hc))
  exact hnone c hmem hc

theorem mem_of_run_inside {cs : List Char} (h : Place.run .outside cs = some .inside) :
    '"' ∈ cs := by
  by_contra hquote
  have hout : ∀ cs : List Char, '"' ∉ cs → ∀ p, Place.run .outside cs = some p → p = .outside := by
    intro cs
    induction cs with
    | nil =>
      rintro - p ⟨⟩
      rfl
    | cons c cs ih =>
      intro hcs p hp
      rw [List.mem_cons, not_or] at hcs
      obtain ⟨q, hq, hp⟩ := Option.bind_eq_some_iff.mp hp
      rw [Place.step, if_neg (Ne.symm hcs.1)] at hq
      split at hq
      · obtain rfl := Option.some.inj hq
        exact ih hcs.2 p hp
      · cases hq
  cases hout cs hquote _ h

/-- Blanks that are passed over outside are gaps. -/
theorem gaps_of_run {cs : List Char} (hblank : ∀ c ∈ cs, isBlank c = true) {p : Place}
    (h : Place.run .outside cs = some p) : ∀ c ∈ cs, isGap c = true := by
  induction cs with
  | nil => exact fun _ hc ↦ absurd hc List.not_mem_nil
  | cons c cs ih =>
    obtain ⟨hc, hcs⟩ := List.forall_mem_cons.mp hblank
    obtain ⟨q, hq, h⟩ := Option.bind_eq_some_iff.mp h
    have hquote : c ≠ '"' := by
      rintro rfl
      exact absurd hc (by decide)
    rw [Place.step, if_neg hquote] at hq
    split at hq
    · next houter =>
      obtain rfl := Option.some.inj hq
      refine List.forall_mem_cons.mpr ⟨?_, ih hcs h⟩
      simp only [isOuter, Bool.and_eq_true, Bool.or_eq_true, decide_eq_true_eq] at houter
      rcases houter.2 with hgap | hvisible
      · exact hgap
      · exfalso
        simp only [isBlank, Bool.or_eq_true, Bool.and_eq_true, decide_eq_true_eq,
          beq_iff_eq] at hc
        omega
    · cases hq

/-- What can be read is not blank. -/
theorem not_blank_of_read (h : read s = .ok v) : isBlankText s = false := by
  by_contra hblank
  rw [Bool.not_eq_false, isBlankText, List.all_eq_true] at hblank
  have hgaps := gaps_of_run hblank (runs_of_read h)
  rw [read, readChars] at h
  split at h
  · cases h
  · have hskip : (skip 0 s.toList).2 = [] := by
      rw [skip_eq_dropWhile, List.dropWhile_eq_nil_iff]
      exact hgaps
    dsimp only at h
    rw [hskip] at h
    cases h

/-- A text that can be read, up to a character that ends lines, is not blank and cannot be read. -/
theorem broken_of_read (h : read s = .ok v) {before after : List Char} {c : Char}
    (hs : s.toList = before ++ c :: after) (hline : IsLine s) (hc : endsLine c = true) :
    isBlankText (String.ofList before) = false ∧ ∀ w, read (String.ofList before) ≠ .ok w := by
  obtain ⟨p, q, hp, hq⟩ := exists_step_of_read h hs
  have hmem : c ∈ s.toList := by rw [hs]; simp
  obtain ⟨rfl, -⟩ := inside_of_step hq hc (fun heq ↦ hline.1 (heq ▸ hmem))
    (fun heq ↦ hline.2 (heq ▸ hmem))
  constructor
  · rw [isBlankText, String.toList_ofList, List.all_eq_false]
    exact ⟨'"', mem_of_run_inside hp, by decide⟩
  · intro w hw
    have hrun := runs_of_read hw
    rw [String.toList_ofList, hp] at hrun
    cases hrun

end Json

/-! ## Loading -/

theorem mapM_eq_some_iff_forall₂ {α β : Type} {f : α → Option β} {xs : List α} {ys : List β} :
    xs.mapM f = some ys ↔ List.Forall₂ (fun x y ↦ f x = some y) xs ys := by
  induction xs generalizing ys with
  | nil =>
    rw [List.mapM_nil, List.forall₂_nil_left_iff]
    exact ⟨fun h ↦ (Option.some.inj h).symm, fun h ↦ congrArg some h.symm⟩
  | cons x xs ih =>
    rw [List.mapM_cons, List.forall₂_cons_left_iff]
    constructor
    · intro h
      obtain ⟨y, hy, h⟩ := Option.bind_eq_some_iff.mp h
      obtain ⟨zs, hzs, h⟩ := Option.bind_eq_some_iff.mp h
      exact ⟨y, zs, hy, ih.mp hzs, (Option.some.inj h).symm⟩
    · rintro ⟨y, zs, hy, hzs, rfl⟩
      rw [hy, ih.mpr hzs]
      rfl

theorem mapM_eq_none_of_mem {α β : Type} {f : α → Option β} {xs : List α} {x : α} (hx : x ∈ xs)
    (h : f x = none) : xs.mapM f = none := by
  rw [Option.eq_none_iff_forall_ne_some]
  intro ys hys
  obtain ⟨y, -, hy⟩ := exists_mem_of_forall₂ (mapM_eq_some_iff_forall₂.mp hys) hx
  rw [h] at hy
  cases hy

/-- A reader of cases takes nothing for a case that is no JSON. -/
def ReadsJson (readCase : String → Option Case) : Prop :=
  ∀ text c, readCase text = some c → ∃ v, Json.read text = .ok v

theorem readsJson_ofLine? : ReadsJson Case.ofLine? := by
  intro text c h
  obtain ⟨v, hv, -⟩ := Option.bind_eq_some_iff.mp h
  cases hread : Json.read text with
  | ok w => exact ⟨w, rfl⟩
  | error e =>
    rw [hread] at hv
    cases hv

/-- The lines are some texts in their order, with blank lines between them. -/
inductive Spaced : List String → List String → Prop where
  | nil : Spaced [] []
  | text {t : String} {ts ls : List String} (h : Spaced ts ls) : Spaced (t :: ts) (t :: ls)
  | blank {b : String} {ts ls : List String} (hline : Text.IsLine b)
      (hblank : ∀ c ∈ b.toList, Text.isBlank c = true) (h : Spaced ts ls) : Spaced ts (b :: ls)

namespace Spaced

variable {ts ls : List String}

theorem isLine (h : Spaced ts ls) (hts : ∀ t ∈ ts, Text.IsLine t) : ∀ l ∈ ls, Text.IsLine l := by
  induction h with
  | nil => exact hts
  | text _ ih =>
    obtain ⟨ht, hts⟩ := List.forall_mem_cons.mp hts
    exact List.forall_mem_cons.mpr ⟨ht, ih hts⟩
  | blank hline _ _ ih => exact List.forall_mem_cons.mpr ⟨hline, ih hts⟩

/-- Blank lines have no pieces that are written. -/
theorem flatMap_pieces (h : Spaced ts ls) :
    (ls.flatMap fun l ↦ Text.written (Text.piecesFrom [] l.toList)) =
      ts.flatMap fun t ↦ Text.written (Text.piecesFrom [] t.toList) := by
  induction h with
  | nil => rfl
  | text _ ih => rw [List.flatMap_cons, List.flatMap_cons, ih]
  | blank _ hblank _ ih =>
    have hnone := Text.written_piecesFrom_of_blank hblank []
      fun _ hmem ↦ absurd hmem List.not_mem_nil
    rw [List.flatMap_cons, hnone, List.nil_append, ih]

end Spaced

/-- A text that can be read is written in one piece. -/
theorem written_pieces_of_read {text : String} {v : Value} (h : Json.read text = .ok v)
    (hplain : ∀ c ∈ text.toList, Text.endsLine c = false) :
    Text.written (Text.piecesFrom [] text.toList) = [text] := by
  rw [Text.piecesFrom_of_plain hplain, Text.written, List.filter_singleton,
    Json.not_blank_of_read h]
  rfl

/-- A text that can be read and has a separator in it has a first piece that is no JSON. -/
theorem exists_unreadable_piece {text : String} {v : Value} (h : Json.read text = .ok v)
    (hline : Text.IsLine text) {d : Char} (hd : d ∈ text.toList) (hends : Text.endsLine d = true) :
    ∃ piece ∈ Text.written (Text.piecesFrom [] text.toList), ∀ w, Json.read piece ≠ .ok w := by
  -- the text up to the first character that ends lines
  obtain ⟨before, c, after, hc, hplain, heq⟩ :
      ∃ before c after, Text.endsLine c = true ∧ (∀ c ∈ before, Text.endsLine c = false) ∧
        text.toList = before ++ c :: after := by
    obtain ⟨c, hfind⟩ := Option.isSome_iff_exists.mp (List.find?_isSome.mpr ⟨d, hd, hends⟩)
    obtain ⟨hc, before, after, heq, hbefore⟩ := List.find?_eq_some_iff_append.mp hfind
    exact ⟨before, c, after, hc, fun e he ↦ by simpa using hbefore e he, heq⟩
  obtain ⟨hblank, hread⟩ := Json.broken_of_read h heq hline hc
  refine ⟨String.ofList before, ?_, hread⟩
  rw [heq, Text.piecesFrom_of_break hplain hc, Text.written, List.mem_filter, hblank]
  exact ⟨List.mem_cons_self, rfl⟩

/-- **Datasets in lines.** A file has some lines that are cases, none of them with a line feed or
carriage return in it, and blank lines anywhere; its last line may be ended or not. The cases are
recovered in their order if none of their lines has a separator in it, and nothing is loaded
otherwise. This is so for every reader of cases that takes nothing but JSON. -/
theorem live_dataset_recovered {readCase : String → Option Case} (hreader : ReadsJson readCase)
    {version : String} (hversion : isVersion version = true)
    {texts lines : List String} {cases : List Case}
    (hcases : List.Forall₂ (fun text c ↦ readCase text = some c) texts cases)
    (htexts : ∀ text ∈ texts, Text.IsLine text) (hlines : Spaced texts lines) (ended : Bool) :
    liveDataset? readCase version (Text.withLineFeeds (Text.ofLines lines ended)) =
      if ∀ text ∈ texts, ∀ c ∈ Json.separators, c ∉ text.toList then some ⟨version, cases⟩
      else none := by
  have hall := hlines.isLine htexts
  have hwritten : ((Text.lines (Text.ofLines lines ended)).filter fun l ↦ !Text.isBlankText l) =
      texts.flatMap fun t ↦ Text.written (Text.piecesFrom [] t.toList) :=
    (Text.written_lines_ofLines hall ended).trans hlines.flatMap_pieces
  have hread : ∀ text ∈ texts, ∃ v, Json.read text = .ok v := by
    intro text htext
    obtain ⟨c, -, hc⟩ := exists_mem_of_forall₂ hcases htext
    exact hreader text c hc
  rw [liveDataset?, Text.withLineFeeds_of_not_mem (Text.return_not_mem_ofLines hall ended),
    hwritten, if_pos hversion]
  split
  · next hnone =>
    have hpieces : (texts.flatMap fun t ↦ Text.written (Text.piecesFrom [] t.toList)) = texts := by
      refine (List.flatMap_congr fun text htext ↦ ?_).trans (List.flatMap_singleton' texts)
      obtain ⟨v, hv⟩ := hread text htext
      exact written_pieces_of_read hv (Json.plain_of_read hv (htexts text htext) (hnone text htext))
    rw [hpieces, mapM_eq_some_iff_forall₂.mpr hcases]
    rfl
  · next hsome =>
    push Not at hsome
    obtain ⟨text, htext, c, hc, hmem⟩ := hsome
    obtain ⟨v, hv⟩ := hread text htext
    obtain ⟨piece, hpiece, hbroken⟩ := exists_unreadable_piece hv (htexts text htext) hmem
      (Json.endsLine_of_mem_separators hc)
    have hnone : readCase piece = none := by
      rw [Option.eq_none_iff_forall_ne_some]
      intro c hc
      obtain ⟨w, hw⟩ := hreader piece c hc
      exact hbroken w hw
    rw [mapM_eq_none_of_mem (List.mem_flatMap.mpr ⟨text, htext, hpiece⟩) hnone]
    rfl

/-- A line with a case. -/
def sumLine : String := "\x7b\"id\": \"a\", \"q\": \"1+1?\", \"a\": 2\x7d"

/-- A line with a case whose question has a separator in it. -/
def brokenLine : String := "\x7b\"id\": \"a\", \"q\": \"x\u2028y\", \"a\": 2\x7d"

theorem ofLine?_sumLine : Case.ofLine? sumLine = some ⟨"a", "1+1?", .int 2, []⟩ := by cbv

theorem ofLine?_brokenLine :
    Case.ofLine? brokenLine = some ⟨"a", "x\u2028y", .int 2, []⟩ := by cbv

/-- Two lines with cases, a blank line between them. -/
def spacedLines : List String := [sumLine, "\t", sumLine]

theorem live_dataset_recovered_spaced :
    ReadsJson Case.ofLine? ∧ isVersion liveVersion = true ∧
      Case.ofLine? sumLine = some ⟨"a", "1+1?", .int 2, []⟩ ∧
      Spaced [sumLine, sumLine] spacedLines ∧ (∀ text ∈ [sumLine, sumLine], Text.IsLine text) ∧
      liveDataset? Case.ofLine? liveVersion (Text.withLineFeeds (Text.ofLines spacedLines true)) =
        some ⟨liveVersion, [⟨"a", "1+1?", .int 2, []⟩, ⟨"a", "1+1?", .int 2, []⟩]⟩ := by
  have hversion : isVersion liveVersion = true := by decide +kernel
  have hspaced : Spaced [sumLine, sumLine] spacedLines := by
    refine .text (.blank ?_ ?_ (.text .nil))
    · exact ⟨by decide, by decide⟩
    · simp [Text.isBlank]
  have hline : Text.IsLine sumLine := ⟨by decide +kernel, by decide +kernel⟩
  have htexts : ∀ text ∈ [sumLine, sumLine], Text.IsLine text := by simp [hline]
  have hsmall : ∀ c ∈ sumLine.toList, c.toNat < 128 := by simp [sumLine]
  have hlarge : ∀ c ∈ Json.separators, 128 ≤ c.toNat := by simp [Json.separators]
  have hnone : ∀ text ∈ [sumLine, sumLine], ∀ c ∈ Json.separators, c ∉ text.toList := by
    intro text htext c hc hmem
    obtain rfl : text = sumLine := by simpa using htext
    exact absurd (hsmall c hmem) (Nat.not_lt.mpr (hlarge c hc))
  refine ⟨readsJson_ofLine?, hversion, ofLine?_sumLine, hspaced, htexts, ?_⟩
  rw [live_dataset_recovered readsJson_ofLine? hversion
    (.cons ofLine?_sumLine (.cons ofLine?_sumLine .nil)) htexts hspaced true, if_pos hnone]

/-- A file of one line with a case is not loaded. -/
theorem broken_line_not_loaded :
    Text.IsLine brokenLine ∧ Case.ofLine? brokenLine = some ⟨"a", "x\u2028y", .int 2, []⟩ ∧
      liveDataset? Case.ofLine? liveVersion (Text.withLineFeeds (Text.ofLines [brokenLine] true)) =
        none := by
  refine ⟨⟨by decide +kernel, by decide +kernel⟩, ofLine?_brokenLine, ?_⟩
  cbv

end CallTree
