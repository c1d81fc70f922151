import Mathlib
import CallTree.Code.Literal

/-!
# Scanning code

What the readers of expressions take off the front of a text before they look at its structure:
gaps, words, signs, quoted texts and numbers. Each of them leaves an end of the text. Fixing the
text once and speaking of its ends keeps the statements free of what was passed over before.

`Sure` is what a result has if there is one, with a lemma for each way in which readers are put
together, so that a reader's proof follows its definition.
-/

namespace CallTree.Code

open CallTree.Decimal

/-! ## Ends of a text -/

/-- What is left behind a character is an end of the text, if what the character begins is one. -/
theorem tail_end {T : List Char} {c : Char} {cs : List Char} (h : c :: cs <:+ T) : cs <:+ T :=
  (List.suffix_cons c cs).trans h

theorem takeSign_end {T cs : List Char} (h : cs <:+ T) : (takeSign cs).2 <:+ T := by
  rw [takeSign.eq_def]
  split
  · exact tail_end h
  · exact tail_end h
  · exact h

/-! ## Results that there may be -/

/-- If there is a result, it has the property. -/
def Sure {α : Type} (x : Option α) (P : α → Prop) : Prop := ∀ a, x = some a → P a

section

variable {α β : Type} {P : α → Prop} {Q : β → Prop}

theorem sure_none : Sure none P := by
  rintro a ⟨⟩

theorem sure_some {a : α} (h : P a) : Sure (some a) P := by
  rintro b ⟨⟩
  exact h

theorem Sure.bind {x : Option α} {f : α → Option β} (hx : Sure x P)
    (hf : ∀ a, P a → Sure (f a) Q) : Sure (x >>= f) Q := by
  cases x with
  | none => exact sure_none
  | some a => exact hf a (hx a rfl)

theorem Sure.map {x : Option α} {f : α → β} (hx : Sure x P) (hf : ∀ a, P a → Q (f a)) :
    Sure (x.map f) Q := by
  cases x with
  | none => exact sure_none
  | some a => exact sure_some (hf a (hx a rfl))

theorem Sure.or {x y : Option α} (hx : Sure x P) (hy : Sure y P) : Sure (x.or y) P := by
  cases x with
  | none => exact hy
  | some a => exact hx

end

/-! ## Gaps, words and signs -/

theorem skipGap_suffix (inside comment : Bool) (cs : List Char) :
    skipGap inside comment cs <:+ cs := by
  fun_induction skipGap inside comment cs with
  | case1 => exact List.suffix_rfl
  | case2 _ _ ih => exact ih.trans (List.suffix_cons _ _)
  | case3 => exact List.suffix_rfl
  | case4 _ _ _ ih => exact ih.trans (List.suffix_cons _ _)
  | case5 _ ih => exact ih.trans (List.suffix_cons _ _)
  | case6 _ ih => exact ih.trans ((List.suffix_cons _ _).trans (List.suffix_cons _ _))
  | case7 _ _ _ _ _ ih => exact ih.trans (List.suffix_cons _ _)
  | case8 => exact List.suffix_rfl

variable {T : List Char}

/-- Taking off gaps in front leaves an end of the text. -/
theorem trimmed_end {cs : List Char} (h : cs <:+ T) (depth : Nat) : trimmed depth cs <:+ T :=
  (skipGap_suffix _ _ cs).trans h

theorem closed?_end {cs : List Char} (h : cs <:+ T) (close : Char) :
    Sure (closed? close cs) (· <:+ T) := by
  cases cs with
  | nil => exact sure_none
  | cons c cs =>
    rw [closed?]
    split
    · exact sure_some (tail_end h)
    · exact sure_none

theorem word?_end {cs : List Char} (h : cs <:+ T) : Sure (word? cs) (·.2 <:+ T) := by
  cases cs with
  | nil => exact sure_none
  | cons c cs =>
    rw [word?]
    split
    · exact sure_some ((List.dropWhile_suffix _).trans h)
    · exact sure_none

theorem behindWord?_end {cs : List Char} (h : cs <:+ T) (word : String) :
    Sure (behindWord? word cs) (· <:+ T) := by
  rw [behindWord?]
  split
  · next w rest heq =>
    split
    · exact sure_some (word?_end h _ heq)
    · exact sure_none
  · exact sure_none

theorem name?_end {cs : List Char} (h : cs <:+ T) : Sure (name? cs) (·.2 <:+ T) := by
  rw [name?]
  split
  · next w rest heq =>
    split
    · exact sure_none
    · exact sure_some (word?_end h _ heq)
  · exact sure_none

theorem behindNaming?_end {cs : List Char} (h : cs <:+ T) (depth : Nat) :
    Sure (behindNaming? depth cs) (· <:+ T) := by
  refine (name?_end h).bind ?_
  rintro ⟨w, rest⟩ hrest
  have hend := trimmed_end hrest depth
  dsimp only at hend ⊢
  generalize trimmed depth rest = left at hend ⊢
  split
  · exact sure_some (trimmed_end (tail_end (tail_end hend)) depth)
  · exact sure_none

theorem behindArgument?_end {cs : List Char} (h : cs <:+ T) (depth : Nat) :
    Sure (behindArgument? depth cs) (· <:+ T) := by
  refine (name?_end h).bind ?_
  rintro ⟨w, rest⟩ hrest
  have hend := trimmed_end hrest depth
  dsimp only at hend ⊢
  generalize trimmed depth rest = left at hend ⊢
  split
  · exact sure_none
  · exact sure_some (trimmed_end (tail_end hend) depth)
  · exact sure_none

theorem behindFor?_end {cs : List Char} (h : cs <:+ T) (depth : Nat) :
    Sure (behindFor? depth cs) (· <:+ T) := by
  refine Sure.map (Sure.or (behindWord?_end h "for") ?_) fun rest hrest ↦ trimmed_end hrest depth
  exact (behindWord?_end h "async").bind fun rest hrest ↦
    behindWord?_end (trimmed_end hrest depth) "for"

theorem findSome?_sure {α β : Type} {f : α → Option β} {P : β → Prop} (h : ∀ a, Sure (f a) P)
    (xs : List α) : Sure (xs.findSome? f) P := by
  intro b hb
  obtain ⟨a, -, ha⟩ := List.exists_of_findSome?_eq_some hb
  exact h a b ha

theorem behindSign?_end {cs : List Char} (h : cs <:+ T) (sign : String) :
    Sure (behindSign? cs sign) (· <:+ T) := by
  rw [behindSign?]
  split
  · exact sure_some ((List.drop_suffix _ _).trans h)
  · exact sure_none

theorem signOperator?_end {cs : List Char} (h : cs <:+ T) (logic : Bool) :
    Sure (signOperator? logic cs) (·.2 <:+ T) := by
  have hsigns : ∀ signs : List String, Sure (signs.findSome? (behindSign? cs)) (· <:+ T) :=
    findSome?_sure (behindSign?_end h)
  rw [signOperator?.eq_def]
  split
  · exact sure_some (tail_end h)
  · exact sure_some (tail_end h)
  · refine Sure.map (Sure.or (hsigns _) ?_) fun rest hrest ↦ hrest
    split
    · exact hsigns _
    · exact sure_none

theorem wordOperator?_end {cs : List Char} (h : cs <:+ T) (inside : Bool) :
    Sure (wordOperator? inside cs) (·.2 <:+ T) := by
  have hword := word?_end h
  have hgap : ∀ {rest}, rest <:+ T → skipGap inside false rest <:+ T :=
    fun hrest ↦ (skipGap_suffix _ _ _).trans hrest
  rw [wordOperator?]
  split
  · next heq => exact sure_some (hword _ heq)
  · next heq => exact sure_some (hword _ heq)
  · next heq => exact sure_some (hword _ heq)
  · next rest heq =>
    refine sure_some ?_
    cases hnot : behindWord? "not" (skipGap inside false rest) with
    | none => exact hword _ heq
    | some left => exact behindWord?_end (hgap (hword _ heq)) "not" left hnot
  · next heq => exact (behindWord?_end (hgap (hword _ heq)) "in").map fun left hleft ↦ hleft
  · exact sure_none

theorem operator?_end {cs : List Char} (h : cs <:+ T) (inside logic : Bool) :
    Sure (operator? inside logic cs) (·.2 <:+ T) := by
  rw [operator?]
  split
  · exact sure_none
  · refine (signOperator?_end h logic).or ?_
    split
    · exact wordOperator?_end h inside
    · exact sure_none

/-! ## Quotes -/

theorem openQuote?_end {cs : List Char} (h : cs <:+ T) : Sure (openQuote? cs) (·.2 <:+ T) := by
  have hend : cs.dropWhile Char.isAlpha <:+ T := (List.dropWhile_suffix _).trans h
  rw [openQuote?]
  generalize cs.dropWhile Char.isAlpha = rest at hend ⊢
  split
  · next q rest =>
    have hrest : rest <:+ T := tail_end hend
    split
    · refine Sure.bind (P := fun _ ↦ True) (fun _ _ ↦ trivial) fun marks _ ↦ ?_
      dsimp only
      split
      · exact sure_some ((List.drop_suffix _ _).trans hrest)
      · exact sure_some hrest
    · exact sure_none
  · exact sure_none

theorem splitQuoted_end (style : QuoteStyle) (acc : List Char) {cs : List Char} (h : cs <:+ T) :
    Sure (splitQuoted style acc cs) (·.2 <:+ T) := by
  fun_induction splitQuoted style acc cs with
  | case1 => exact sure_none
  | case2 _ _ _ ih => exact ih (tail_end (tail_end h))
  | case3 => exact sure_some (tail_end h)
  | case4 => exact sure_some ((List.drop_suffix _ _).trans (tail_end h))
  | case5 _ _ _ _ _ _ _ ih => exact ih (tail_end h)
  | case6 => exact sure_none
  | case7 _ _ _ _ _ _ ih => exact ih (tail_end h)

theorem readQuoted_end (style : QuoteStyle) {cs : List Char} (h : cs <:+ T) :
    Sure (readQuoted style cs) (·.2 <:+ T) := by
  refine (splitQuoted_end style [] h).bind fun r hr ↦ ?_
  dsimp only
  split
  · exact sure_none
  · split
    · exact sure_some hr
    · exact Sure.bind (P := fun _ ↦ True) (fun _ _ ↦ trivial) fun _ _ ↦ sure_some hr

/-! ## Numbers -/

theorem foldl_digits_lt {base : Nat} (hbase : base ≤ 16) {ds : List Nat} (hds : ∀ d ∈ ds, d < 16)
    (n : Nat) : ds.foldl (fun n d ↦ base * n + d) n < (n + 1) * 16 ^ ds.length := by
  induction ds generalizing n with
  | nil => simp
  | cons d ds ih =>
    obtain ⟨hd, hds⟩ := List.forall_mem_cons.mp hds
    have hstep : base * n + d + 1 ≤ (n + 1) * 16 := by
      have : base * n ≤ 16 * n := Nat.mul_le_mul_right n hbase
      omega
    calc (d :: ds).foldl (fun n d ↦ base * n + d) n
        < (base * n + d + 1) * 16 ^ ds.length := ih hds (base * n + d)
      _ ≤ (n + 1) * 16 * 16 ^ ds.length := Nat.mul_le_mul_right _ hstep
      _ = (n + 1) * 16 ^ (d :: ds).length := by
        rw [List.length_cons, Nat.pow_succ', Nat.mul_assoc]

/-- Digits in front of a text: they are fewer than its characters, and what is left is its end. -/
structure TakesDigits (cs : List Char) (r : List Nat × List Char) : Prop where
  rest : r.2 <:+ cs
  length : r.1.length ≤ cs.length
  digits : ∀ d ∈ r.1, d < 16

theorem TakesDigits.lt {cs : List Char} {r : List Nat × List Char} (h : TakesDigits cs r)
    {base : Nat} (hbase : base ≤ 16) : Text.ofDigits base r.1 < 16 ^ cs.length := by
  have hlt := foldl_digits_lt hbase h.digits 0
  rw [Nat.zero_add, Nat.one_mul] at hlt
  exact hlt.trans_le (Nat.pow_le_pow_right (by decide) h.length)

theorem takesDigits_nil (cs : List Char) : TakesDigits cs ([], cs) :=
  ⟨List.suffix_rfl, Nat.zero_le _, List.forall_mem_nil _⟩

theorem TakesDigits.cons {cs cs' rest : List Char} {d : Nat} {ds : List Nat}
    (h : TakesDigits cs (ds, rest)) (hd : d < 16) (hend : cs <:+ cs')
    (hlt : cs.length < cs'.length) : TakesDigits cs' (d :: ds, rest) :=
  ⟨h.rest.trans hend, h.length.trans_lt hlt, List.forall_mem_cons.mpr ⟨hd, h.digits⟩⟩

theorem takesDigits_takeGroups {digit? : Char → Option Nat} (hdigit : ∀ c, Sure (digit? c) (· < 16))
    (cs : List Char) : TakesDigits cs (takeGroups digit? cs) := by
  fun_induction takeGroups digit? cs with
  | case1 c cs d hd ds rest heq ih =>
    rw [heq] at ih
    exact ih.cons (hdigit c d hd) (tail_end (List.suffix_cons _ _)) (by simp)
  | case2 => exact takesDigits_nil _
  | case3 c cs _ d hd ds rest heq ih =>
    rw [heq] at ih
    exact ih.cons (hdigit c d hd) (List.suffix_cons _ _) (by simp)
  | case4 => exact takesDigits_nil _
  | case5 => exact takesDigits_nil _

theorem takesDigits_takeNumeral {digit? : Char → Option Nat}
    (hdigit : ∀ c, Sure (digit? c) (· < 16)) (cs : List Char) :
    TakesDigits cs (takeNumeral digit? cs) := by
  rw [takeNumeral.eq_def]
  split
  · exact takesDigits_nil _
  · exact takesDigits_takeGroups hdigit cs

theorem sure_asciiDigit? (c : Char) : Sure (Text.asciiDigit? c) (· < 16) := by
  rw [Text.asciiDigit?]
  split
  · next h =>
    have hle : c.toNat ≤ 57 := (Char.isDigit_iff_toNat.mp h).2
    exact sure_some (by omega)
  · exact sure_none

theorem sure_baseDigit? (base : Nat) (c : Char) : Sure (baseDigit? base c) (· < 16) := by
  have hhex : Sure (Text.hexDigit? c) (· < 16) := by
    rw [Text.hexDigit?]
    split
    · next h =>
      have hle : c.toNat ≤ 57 := (Char.isDigit_iff_toNat.mp h).2
      exact sure_some (by omega)
    · split
      · next h =>
        have hle : c.toNat ≤ 102 := h.2
        exact sure_some (by omega)
      · split
        · next h =>
          have hle : c.toNat ≤ 70 := h.2
          exact sure_some (by omega)
        · exact sure_none
  intro d hd
  exact hhex d (Option.filter_eq_some_iff.mp hd).1

theorem takeFraction_end {cs : List Char} (h : cs <:+ T) : (takeFraction cs).2 <:+ T := by
  rw [takeFraction.eq_def]
  split
  · exact ((takesDigits_takeNumeral sure_asciiDigit? _).rest.trans (List.suffix_cons _ _)).trans h
  · exact h

theorem takeExponent_end {cs : List Char} (h : cs <:+ T) : (takeExponent cs).2 <:+ T := by
  rw [takeExponent.eq_def]
  split
  · next c cs =>
    split
    · have hnumeral := (takesDigits_takeNumeral sure_asciiDigit? (takeSign cs).2).rest
      have hend := hnumeral.trans (takeSign_end (tail_end h))
      dsimp only
      split
      · exact h
      · next heq =>
        rw [heq] at hend
        exact hend
    · exact h
  · exact h

/-- What a reader gives has a property, and what it leaves is an end of the text. -/
def Yields {α : Type} (T : List Char) (P : α → Prop) (r : Read α) : Prop := P r.1 ∧ r.2 <:+ T

/-- A value that is a whole number is smaller than one of as many digits as the text has. -/
def Small (T : List Char) (v : Value) : Prop := ∀ n, v = .int n → n.natAbs < 16 ^ T.length

theorem small_int {n : Nat} (h : n < 16 ^ T.length) : Small T (.int n) := by
  rintro m ⟨⟩
  exact h

theorem readDecimal_end {cs : List Char} (h : cs <:+ T) :
    Sure (readDecimal cs) (Yields T (Small T)) := by
  have hwhole := takesDigits_takeNumeral sure_asciiDigit? cs
  have hlt : Text.ofDigits 10 (takeNumeral Text.asciiDigit? cs).1 < 16 ^ T.length :=
    (hwhole.lt (by decide)).trans_le (Nat.pow_le_pow_right (by decide) h.length_le)
  have hrest := takeExponent_end (takeFraction_end (hwhole.rest.trans h))
  have hother : ∀ {v : Value} {rest}, (∀ n, v ≠ .int n) → rest <:+ T →
      Sure (some (v, rest)) (Yields T (Small T)) :=
    fun hv hrest ↦ sure_some ⟨fun n hn ↦ absurd hn (hv n), hrest⟩
  rw [readDecimal]
  dsimp only
  generalize (takeExponent (takeFraction (takeNumeral Text.asciiDigit? cs).2).2).2 = rest at hrest ⊢
  split
  · exact sure_none
  · split
    · exact hother (fun _ h ↦ by cases h) (tail_end hrest)
    · exact hother (fun _ h ↦ by cases h) (tail_end hrest)
    · split
      · exact hother (fun _ h ↦ by cases h) hrest
      · split
        · exact sure_none
        · split
          · exact sure_none
          · exact sure_some ⟨small_int hlt, hrest⟩

theorem sure_baseOf? (c : Char) : Sure (baseOf? c) (· ≤ 16) := by
  rw [baseOf?]
  split
  · exact sure_some (by decide)
  · split
    · exact sure_some (by decide)
    · split
      · exact sure_some (by decide)
      · exact sure_none

theorem readNumber_end {cs : List Char} (h : cs <:+ T) :
    Sure (readNumber cs) (Yields T (Small T)) := by
  -- what follows the number is looked at last, whatever its notation
  have hstop : ∀ r, Yields T (Small T) r →
      Sure (if runsOn r.2 then none else some (r.1, r.2)) (Yields T (Small T)) := by
    intro r hr
    split
    · exact sure_none
    · exact sure_some hr
  rw [readNumber.eq_def]
  dsimp only
  split
  · next c tail =>
    split
    · next base hbase =>
      have hle : base ≤ 16 := sure_baseOf? c base hbase
      have hdigits := takesDigits_takeGroups (sure_baseDigit? base) tail
      have hlt : Text.ofDigits base (takeGroups (baseDigit? base) tail).1 < 16 ^ T.length :=
        (hdigits.lt hle).trans_le
          (Nat.pow_le_pow_right (by decide) (tail_end (tail_end h)).length_le)
      have hrest := hdigits.rest.trans (tail_end (tail_end h))
      generalize takeGroups (baseDigit? base) tail = r at hlt hrest ⊢
      split
      · exact sure_none
      · exact hstop (_, _) ⟨small_int hlt, hrest⟩
    · exact (readDecimal_end h).bind hstop
  · exact (readDecimal_end h).bind hstop

theorem small_quotedValue (bytes : Bool) (ns : List Nat) : Small T (quotedValue bytes ns) := by
  intro n hn
  rw [quotedValue] at hn
  split at hn <;> cases hn

end CallTree.Code
