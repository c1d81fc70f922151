import Mathlib
import CallTree.Report.Redact

/-!
# Secrets in texts

Two shapes of text count as secrets, and redaction replaces them from left to right, first all keys
and then all tokens. The functions that do this say how long the secret at the front of a text is;
`IsKey` and `IsBearer` say what a secret is, and `Shows` that a text has one somewhere in it.

A text without secrets may get one by a replacement, if something before the replaced part and
something behind it make one together with what is put in its place. That does not happen because no
secret has a bracket in it. So whatever of a secret is found after the replacement was there before,
at a place where the search found none (`exists_suffix_of_infix_replaceMatches`). Both that keys
stay away while tokens are replaced and that nothing is left in the end follow from this.
-/

namespace CallTree.Report

open CallTree.Text

/-! ## Shapes of secrets -/

/-- A secret key: its mark and at least eight characters. -/
def IsKey (m : List Char) : Prop :=
  ∃ body, m = 's' :: 'k' :: '-' :: body ∧ 8 ≤ body.length ∧ ∀ c ∈ body, isKeyChar c = true

/-- A bearer token: its word in small or capital letters, blanks, and the token. -/
def IsBearer (m : List Char) : Prop :=
  ∃ word blanks token, m = word ++ (blanks ++ token) ∧ word.map Char.toLower = bearerWord ∧
    blanks ≠ [] ∧ (∀ c ∈ blanks, isBlank c = true) ∧
    token ≠ [] ∧ ∀ c ∈ token, isTokenChar c = true

/-- A secret. -/
def IsSecret (m : List Char) : Prop := IsKey m ∨ IsBearer m

/-- A text shows a secret if a part of it has the shape of one. -/
def Shows (cs : List Char) : Prop := ∃ m, IsSecret m ∧ m <:+: cs

/-! ## Characters of secrets -/

/-- Whether a secret can begin with the character. -/
def beginsSecret (c : Char) : Bool := c == 's' || c == 'b' || c == 'B'

/-- Whether the character is in no secret. -/
def breaksSecret (c : Char) : Bool := !isTokenChar c && !isBlank c

/-- What holds of the first characters by number holds of every character with a small number. -/
theorem forall_char_lt {P : Char → Prop} {n : Nat} (h : ∀ i < n, P (Char.ofNat i)) {c : Char}
    (hc : c.toNat < n) : P c := by
  have hP := h c.toNat hc
  rwa [Char.ofNat_toNat] at hP

theorem isTokenChar_of_isKeyChar {c : Char} (h : isKeyChar c = true) : isTokenChar c = true := by
  simp only [isKeyChar, isTokenChar, Bool.or_eq_true] at h ⊢
  tauto

theorem toNat_lt_of_isAlphanum {c : Char} (h : c.isAlphanum = true) : c.toNat < 128 := by
  simp only [Char.isAlphanum, Char.isAlpha, Char.isUpper, Char.isLower, Char.isDigit,
    Bool.or_eq_true, Bool.and_eq_true, decide_eq_true_eq, UInt32.le_iff_toNat_le, ge_iff_le] at h
  have hc : c.toNat = c.val.toNat := rfl
  have hZ : 'Z'.val.toNat = 90 := rfl
  have hz : 'z'.val.toNat = 122 := rfl
  have h9 : '9'.val.toNat = 57 := rfl
  omega

theorem isBlank_eq_false_of_isTokenChar {c : Char} (h : isTokenChar c = true) :
    isBlank c = false := by
  by_cases hc : c.toNat < 128
  · revert h
    exact forall_char_lt (P := fun c ↦ isTokenChar c = true → isBlank c = false) (by decide) hc
  · have halnum : c.isAlphanum = false := by
      by_contra hne
      exact hc (toNat_lt_of_isAlphanum (Bool.eq_true_of_not_eq_false hne))
    have hne : ∀ d : Char, d.toNat < 128 → (c == d) = false := by
      intro d hd
      rw [beq_eq_false_iff_ne]
      rintro rfl
      exact hc hd
    simp only [isTokenChar, halnum, hne '.' (by decide), hne '_' (by decide), hne '~' (by decide),
      hne '+' (by decide), hne '/' (by decide), hne '=' (by decide), hne '-' (by decide),
      Bool.false_or, Bool.or_eq_true, beq_iff_eq] at h
    simp only [isBlank]
    rcases h with ((h | h) | h) | h <;> rw [h] <;> decide

/-- Letters are made small in the ASCII range only. -/
theorem toNat_lt_of_toLower {c : Char} (h : c.toLower.toNat < 128) : c.toNat < 128 := by
  rw [Char.toLower] at h
  split at h
  · next hc =>
    have hZ : 'Z'.val.toNat = 90 := rfl
    have hle := UInt32.le_iff_toNat_le.mp hc.2
    have hval : c.toNat = c.val.toNat := rfl
    omega
  · exact h

theorem isTokenChar_of_toLower_mem {c : Char} (h : c.toLower ∈ bearerWord) :
    isTokenChar c = true := by
  have hsmall : ∀ d ∈ bearerWord, d.toNat < 128 := by simp [bearerWord]
  have hc := toNat_lt_of_toLower (hsmall _ h)
  revert h
  exact forall_char_lt (P := fun c ↦ c.toLower ∈ bearerWord → isTokenChar c = true) (by decide) hc

theorem beginsSecret_of_toLower_eq {c : Char} (h : c.toLower = 'b') : beginsSecret c = true := by
  have hc : c.toNat < 128 := by
    apply toNat_lt_of_toLower
    rw [h]
    decide
  revert h
  exact forall_char_lt (P := fun c ↦ c.toLower = 'b' → beginsSecret c = true) (by decide) hc

theorem IsSecret.breaksSecret_eq_false {m : List Char} (h : IsSecret m) {c : Char} (hc : c ∈ m) :
    breaksSecret c = false := by
  have htoken : isTokenChar c = true → breaksSecret c = false := by
    intro htoken
    rw [breaksSecret, htoken]
    rfl
  rcases h with ⟨body, rfl, -, hbody⟩ | ⟨word, blanks, token, rfl, hword, -, hblanks, -, htokens⟩
  · simp only [List.mem_cons] at hc
    rcases hc with rfl | rfl | rfl | hc
    · decide
    · decide
    · decide
    · exact htoken (isTokenChar_of_isKeyChar (hbody c hc))
  · simp only [List.mem_append] at hc
    rcases hc with hc | hc | hc
    · exact htoken (isTokenChar_of_toLower_mem (hword ▸ List.mem_map_of_mem hc))
    · rw [breaksSecret, hblanks c hc, Bool.not_true, Bool.and_false]
    · exact htoken (htokens c hc)

theorem IsSecret.exists_eq_cons {m : List Char} (h : IsSecret m) :
    ∃ c rest, m = c :: rest ∧ beginsSecret c = true := by
  rcases h with ⟨body, rfl, -, -⟩ | ⟨word, blanks, token, rfl, hword, -, -, -, -⟩
  · exact ⟨'s', _, rfl, rfl⟩
  · cases word with
    | nil => cases hword
    | cons c word =>
      rw [List.map_cons, bearerWord, List.cons.injEq] at hword
      exact ⟨c, _, rfl, beginsSecret_of_toLower_eq hword.1⟩

theorem IsSecret.eight_le_length {m : List Char} (h : IsSecret m) : 8 ≤ m.length := by
  rcases h with ⟨body, rfl, hbody, -⟩ |
    ⟨word, blanks, token, rfl, hword, hblanks, -, htoken, -⟩
  · simp only [List.length_cons]
    omega
  · have hlength : word.length = 6 := by
      have hlength := congrArg List.length hword
      rwa [List.length_map] at hlength
    have hb := List.length_pos_iff.mpr hblanks
    have ht := List.length_pos_iff.mpr htoken
    simp only [List.length_append]
    omega

/-! ## Where a secret can be -/

/-- A part of a list without a member `d` is on one side of each `d`. -/
theorem infix_append_cons_iff {α : Type} {m a b : List α} {d : α} (hd : d ∉ m) :
    m <:+: a ++ d :: b ↔ m <:+: a ∨ m <:+: b := by
  constructor
  · intro h
    rcases List.infix_append_iff.mp h with h | h | ⟨l, l', rfl, hl, hl'⟩
    · exact Or.inl h
    · rcases List.infix_cons_iff.mp h with h | h
      · rcases List.prefix_cons_iff.mp h with rfl | ⟨t, rfl, -⟩
        · exact Or.inl (List.nil_infix)
        · exact absurd List.mem_cons_self hd
      · exact Or.inr h
    · rcases List.prefix_cons_iff.mp hl' with rfl | ⟨t, rfl, -⟩
      · rw [List.append_nil]
        exact Or.inl hl.isInfix
      · exact absurd (List.mem_append_right l List.mem_cons_self) hd
  · rintro (h | h)
    · exact h.trans (List.prefix_append a _).isInfix
    · exact h.trans ((List.suffix_cons d b).trans (List.suffix_append a _)).isInfix

theorem shows_append_cons_iff {a b : List Char} {d : Char} (hd : breaksSecret d = true) :
    Shows (a ++ d :: b) ↔ Shows a ∨ Shows b := by
  have hnot : ∀ {m}, IsSecret m → d ∉ m := fun hm hmem ↦
    Bool.false_ne_true ((hm.breaksSecret_eq_false hmem).symm.trans hd)
  constructor
  · rintro ⟨m, hm, h⟩
    exact ((infix_append_cons_iff (hnot hm)).mp h).imp (fun h ↦ ⟨m, hm, h⟩) fun h ↦ ⟨m, hm, h⟩
  · rintro (⟨m, hm, h⟩ | ⟨m, hm, h⟩)
    · exact ⟨m, hm, (infix_append_cons_iff (hnot hm)).mpr (Or.inl h)⟩
    · exact ⟨m, hm, (infix_append_cons_iff (hnot hm)).mpr (Or.inr h)⟩

theorem shows_cons_iff {c : Char} {cs : List Char} :
    Shows (c :: cs) ↔ (∃ m, IsSecret m ∧ m <+: c :: cs) ∨ Shows cs := by
  simp only [Shows, List.infix_cons_iff, and_or_left, exists_or]

theorem shows_cons_iff_of_not_begins {c : Char} (hc : beginsSecret c = false) {cs : List Char} :
    Shows (c :: cs) ↔ Shows cs := by
  rw [shows_cons_iff, or_iff_right]
  rintro ⟨m, hm, h⟩
  obtain ⟨d, rest, rfl, hd⟩ := hm.exists_eq_cons
  rw [(List.cons_prefix_cons.mp h).1, hc] at hd
  exact Bool.false_ne_true hd

/-- A text of characters that no secret begins with can be put in front. -/
theorem shows_append_iff_of_not_begins {cs : List Char} (hcs : ∀ c ∈ cs, beginsSecret c = false)
    (rest : List Char) : Shows (cs ++ rest) ↔ Shows rest := by
  induction cs with
  | nil => exact Iff.rfl
  | cons c cs ih =>
    obtain ⟨hc, hcs⟩ := List.forall_mem_cons.mp hcs
    rw [List.cons_append, shows_cons_iff_of_not_begins hc, ih hcs]

theorem not_shows_of_length_lt {cs : List Char} (h : cs.length < 8) : ¬ Shows cs := by
  rintro ⟨m, hm, hpart⟩
  have hle := hm.eight_le_length
  have hlength := hpart.length_le
  omega

theorem not_shows_of_not_begins {cs : List Char} (hcs : ∀ c ∈ cs, beginsSecret c = false) :
    ¬ Shows cs := by
  have h := shows_append_iff_of_not_begins hcs []
  rw [List.append_nil] at h
  exact fun hshows ↦ not_shows_of_length_lt (by decide) (h.mp hshows)

/-! ## Replacing -/

section

variable {length : List Char → Nat}

/-- What is at the front of a text after replacements, up to the first of them, was there
before. -/
theorem prefix_of_prefix_replaceMatches {m cs : List Char} (hm : '[' ∉ m)
    (h : m <+: replaceMatches length 0 cs) : m <+: cs := by
  induction cs generalizing m with
  | nil => rwa [replaceMatches] at h
  | cons c cs ih =>
    rw [replaceMatches] at h
    split at h
    · rcases List.prefix_cons_iff.mp h with rfl | ⟨t, rfl, ht⟩
      · exact List.nil_prefix
      · refine List.cons_prefix_cons.mpr ⟨rfl, ih (fun hmem ↦ hm ?_) ht⟩
        exact List.mem_cons_of_mem _ hmem
    · rcases List.prefix_cons_iff.mp h with rfl | ⟨t, rfl, -⟩
      · exact List.nil_prefix
      · exact absurd List.mem_cons_self hm

/-- What is found in a text after replacements, and is not of the marks put in, was there before at
a place where there was nothing to replace. -/
theorem exists_suffix_of_infix_replaceMatches {m : List Char} (hopen : '[' ∉ m) (hclose : ']' ∉ m)
    (hmark : ¬ m <:+: "REDACTED".toList) {skip : Nat} {cs : List Char}
    (h : m <:+: replaceMatches length skip cs) :
    ∃ rest, rest <:+ cs ∧ length rest = 0 ∧ m <+: rest := by
  have hnil : ∀ l : List Char, m <:+: [] → m <:+: l := by
    intro l hm
    rw [List.infix_nil.mp hm]
    exact List.nil_infix
  induction cs generalizing skip with
  | nil =>
    cases skip <;> exact absurd (hnil _ h) hmark
  | cons c cs ih =>
    cases skip with
    | succ skip =>
      obtain ⟨rest, hrest, hlength, hm⟩ := ih h
      exact ⟨rest, hrest.trans (List.suffix_cons c cs), hlength, hm⟩
    | zero =>
      rw [replaceMatches] at h
      split at h
      · next hlength =>
        rcases List.infix_cons_iff.mp h with h | h
        · refine ⟨c :: cs, List.suffix_refl _, hlength, ?_⟩
          rcases List.prefix_cons_iff.mp h with rfl | ⟨t, rfl, ht⟩
          · exact List.nil_prefix
          · have ht' := prefix_of_prefix_replaceMatches
              (fun hmem ↦ hopen (List.mem_cons_of_mem _ hmem)) ht
            exact List.cons_prefix_cons.mpr ⟨rfl, ht'⟩
        · obtain ⟨rest, hrest, hlength, hm⟩ := ih h
          exact ⟨rest, hrest.trans (List.suffix_cons c cs), hlength, hm⟩
      · next n hlength =>
        -- the mark is a word between two brackets
        have hsplit : redacted.toList ++ replaceMatches length n cs =
            [] ++ '[' :: ("REDACTED".toList ++ ']' :: replaceMatches length n cs) := rfl
        rw [hsplit, infix_append_cons_iff hopen, infix_append_cons_iff hclose] at h
        rcases h with h | h | h
        · exact absurd (hnil _ h) hmark
        · exact absurd h hmark
        · obtain ⟨rest, hrest, hlength, hm⟩ := ih h
          exact ⟨rest, hrest.trans (List.suffix_cons c cs), hlength, hm⟩

theorem IsSecret.exists_suffix {m : List Char} (hm : IsSecret m) {skip : Nat} {cs : List Char}
    (h : m <:+: replaceMatches length skip cs) :
    ∃ rest, rest <:+ cs ∧ length rest = 0 ∧ m <+: rest := by
  have hnot : ∀ {d}, breaksSecret d = true → d ∉ m := fun hd hmem ↦
    Bool.false_ne_true ((hm.breaksSecret_eq_false hmem).symm.trans hd)
  refine exists_suffix_of_infix_replaceMatches (hnot (by decide)) (hnot (by decide)) ?_ h
  intro hmark
  exact not_shows_of_not_begins (by simp [beginsSecret]) ⟨m, hm, hmark⟩

end

/-! ## Nothing is left -/

theorem keyLength_ne_zero {m cs : List Char} (hm : IsKey m) (h : m <+: cs) : keyLength cs ≠ 0 := by
  obtain ⟨body, rfl, hlength, hbody⟩ := hm
  obtain ⟨rest, rfl⟩ := h
  have hle : 8 ≤ ((body ++ rest).takeWhile isKeyChar).length := by
    rw [List.takeWhile_append_of_pos hbody, List.length_append]
    omega
  show (if 8 ≤ ((body ++ rest).takeWhile isKeyChar).length then _ else 0) ≠ 0
  rw [if_pos hle]
  omega

theorem bearerLength_ne_zero {m cs : List Char} (hm : IsBearer m) (h : m <+: cs) :
    bearerLength cs ≠ 0 := by
  obtain ⟨word, blanks, token, rfl, hword, hblanks, hblank, htoken, htokens⟩ := hm
  obtain ⟨rest, rfl⟩ := h
  have hsix : word.length = 6 := by
    have hlength := congrArg List.length hword
    rwa [List.length_map] at hlength
  -- the blanks end where the token begins
  have hend : (token ++ rest).takeWhile isBlank = [] := by
    cases token with
    | nil => exact absurd rfl htoken
    | cons c token =>
      have hc := isBlank_eq_false_of_isTokenChar (htokens c List.mem_cons_self)
      rw [List.cons_append, List.takeWhile_cons, hc]
      rfl
  have htake : (word ++ (blanks ++ token) ++ rest).take 6 = word := by
    rw [List.append_assoc, List.take_left' hsix]
  have hdrop : (word ++ (blanks ++ token) ++ rest).drop 6 = blanks ++ (token ++ rest) := by
    rw [List.append_assoc, List.drop_left' hsix, List.append_assoc]
  have hgap : (blanks ++ (token ++ rest)).takeWhile isBlank = blanks := by
    rw [List.takeWhile_append_of_pos hblank, hend, List.append_nil]
  have hpos := List.length_pos_iff.mpr hblanks
  have hpos' := List.length_pos_iff.mpr htoken
  simp only [bearerLength, htake, hword, beq_self_eq_true, if_true, hdrop, hgap, List.drop_left,
    List.takeWhile_append_of_pos htokens, List.length_append, Bool.or_eq_true, beq_iff_eq]
  rw [if_neg (by omega)]
  omega

/-- **A scrubbed text shows no secret.** -/
theorem not_shows_scrub (s : String) : ¬ Shows (scrub s).toList := by
  rw [scrub, String.toList_ofList]
  rintro ⟨m, hm, h⟩
  obtain ⟨rest, hrest, hnone, hfront⟩ := hm.exists_suffix h
  rcases hm with hkey | hbearer
  · -- a key was not put together by replacing tokens, so it is left over from replacing keys
    have hbefore := hfront.isInfix.trans hrest.isInfix
    obtain ⟨rest', -, hnone', hfront'⟩ := IsSecret.exists_suffix (Or.inl hkey) hbefore
    exact keyLength_ne_zero hkey hfront' hnone'
  · exact bearerLength_ne_zero hbearer hfront hnone

end CallTree.Report
