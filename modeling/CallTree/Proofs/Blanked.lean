import CallTree.Proofs.LogLines

/-!
# Redacting twice

Redaction of what is redacted already changes nothing. `Blanked` says what a redacted value looks
like, without mention of how it came about: its keys are distinct texts, under the keys of
credentials there is the mark, under those of content the mark or null, and no other text shows a
secret. Redaction gives such values (`blanked_redact`), and leaves them as they are
(`Blanked.redact_eq`).

For texts this needs the other half of what the search for secrets means. That nothing is left was
shown by finding every secret; that nothing more is taken away follows because only secrets are
found (`scrub_eq_self`), and the marks that were put in are none.
-/

namespace CallTree.Report

open CallTree.Text CallTree.Value

/-! ## Only secrets are found -/

theorem exists_isKey_of_keyLength {cs : List Char} (h : keyLength cs ≠ 0) :
    ∃ m, IsKey m ∧ m <+: cs := by
  rw [keyLength.eq_def] at h
  split at h
  · next rest =>
    simp only at h
    split at h
    · next hle =>
      refine ⟨_, ⟨rest.takeWhile isKeyChar, rfl, hle, fun c ↦ List.mem_takeWhile_imp⟩, ?_⟩
      simpa using List.takeWhile_prefix isKeyChar
    · exact absurd rfl h
  · exact absurd rfl h

theorem exists_isBearer_of_bearerLength {cs : List Char} (h : bearerLength cs ≠ 0) :
    ∃ m, IsBearer m ∧ m <+: cs := by
  rw [bearerLength] at h
  split at h
  · next hword =>
    simp only at h
    split at h
    · exact absurd rfl h
    · next hparts =>
      simp only [Bool.or_eq_true, beq_iff_eq, not_or, List.length_eq_zero_iff] at hparts
      set rest := cs.drop 6 with hrest
      set blanks := rest.takeWhile isBlank with hblanks
      set token := (rest.drop blanks.length).takeWhile isTokenChar with htoken
      refine ⟨cs.take 6 ++ (blanks ++ token), ⟨_, blanks, token, rfl, beq_iff_eq.mp hword,
        hparts.1, fun c ↦ List.mem_takeWhile_imp, hparts.2, fun c ↦ List.mem_takeWhile_imp⟩, ?_⟩
      -- what is found is put together from the front of the text
      have hgap : blanks ++ rest.drop blanks.length = rest :=
        List.prefix_iff_eq_append.mp (List.takeWhile_prefix isBlank)
      have hfront : blanks ++ token <+: rest := by
        conv_rhs => rw [← hgap]
        exact (List.prefix_append_right_inj blanks).mpr (List.takeWhile_prefix _)
      calc cs.take 6 ++ (blanks ++ token) <+: cs.take 6 ++ rest :=
            (List.prefix_append_right_inj _).mpr hfront
        _ = cs := List.take_append_drop 6 cs
  · exact absurd rfl h

/-- A text in which nothing is found stays as it is. -/
theorem replaceMatches_eq_self {length : List Char → Nat} {cs : List Char}
    (h : ∀ rest, rest <:+ cs → length rest = 0) : replaceMatches length 0 cs = cs := by
  induction cs with
  | nil => rfl
  | cons c cs ih =>
    have htail : replaceMatches length 0 cs = cs :=
      ih fun rest hrest ↦ h rest (hrest.trans (List.suffix_cons c cs))
    rw [replaceMatches, h _ (List.suffix_refl _), htail]

/-- **A text without secrets is not changed.** -/
theorem scrub_eq_self {s : String} (h : ¬ Shows s.toList) : scrub s = s := by
  have hkeys : replaceMatches keyLength 0 s.toList = s.toList := by
    refine replaceMatches_eq_self fun rest hrest ↦ ?_
    by_contra hfound
    obtain ⟨m, hm, hpre⟩ := exists_isKey_of_keyLength hfound
    exact h ⟨m, Or.inl hm, hpre.isInfix.trans hrest.isInfix⟩
  have hbearers : replaceMatches bearerLength 0 s.toList = s.toList := by
    refine replaceMatches_eq_self fun rest hrest ↦ ?_
    by_contra hfound
    obtain ⟨m, hm, hpre⟩ := exists_isBearer_of_bearerLength hfound
    exact h ⟨m, Or.inr hm, hpre.isInfix.trans hrest.isInfix⟩
  rw [scrub, hkeys, hbearers, String.ofList_toList]

theorem not_shows_redacted : ¬ Shows redacted.toList :=
  not_shows_of_not_begins (by simp [redacted, beginsSecret])

/-! ## Values before and after -/

/-- A value without parts: null, a truth value, a number or bytes. -/
def IsScalar : Value → Prop
  | .null => True
  | .bool _ => True
  | .int _ => True
  | .float _ => True
  | .complex _ _ => True
  | .bytes _ => True
  | _ => False

/-- A value is made of texts, lists, tuples and mappings, of scalars that satisfy `S`, and of keys
that satisfy `K`. -/
inductive Plain (S K : Value → Prop) : Value → Prop where
  | scalar {v : Value} (h : S v) : Plain S K v
  | str (s : String) : Plain S K (.str s)
  | list {xs : List Value} (h : ∀ x ∈ xs, Plain S K x) : Plain S K (.list xs)
  | tuple {xs : List Value} (h : ∀ x ∈ xs, Plain S K x) : Plain S K (.tuple xs)
  | map {es : List (Value × Value)} (hkeys : ∀ e ∈ es, K e.1) (h : ∀ e ∈ es, Plain S K e.2) :
      Plain S K (.map es)

/-- A value in which nothing is left to blank. -/
inductive Blanked (S : Value → Prop) (allowContent : Bool) : Value → Prop where
  | scalar {v : Value} (h : S v) : Blanked S allowContent v
  | str {s : String} (h : ¬ Shows s.toList) : Blanked S allowContent (.str s)
  | list {xs : List Value} (h : ∀ x ∈ xs, Blanked S allowContent x) :
      Blanked S allowContent (.list xs)
  | map {es : List (Value × Value)} (htexts : TextKeys es) (hdistinct : (es.map Prod.fst).Nodup)
      (hcredentials : ∀ e ∈ es, NamedBy credentialKeys e.1 → e.2 = .str redacted)
      (hcontent : allowContent = false → ∀ e ∈ es, NamedBy contentKeys e.1 →
        e.2 = .null ∨ e.2 = .str redacted)
      (h : ∀ e ∈ es, Blanked S allowContent e.2) : Blanked S allowContent (.map es)

section

variable {S : Value → Prop} {allowContent : Bool}

theorem redact_of_isScalar {v : Value} (h : IsScalar v) : redact allowContent v = v := by
  cases v with
  | null => rfl
  | bool b => rfl
  | int n => rfl
  | float x => rfl
  | complex re im => rfl
  | bytes bs => rfl
  | _ => exact h.elim

/-! ## Redaction blanks -/

theorem redactItem_content {key item : Value} (h : NamedBy contentKeys key) :
    redactItem false key item = .null ∨ redactItem false key item = .str redacted := by
  rw [redactItem]
  split
  · exact Or.inr rfl
  · rw [matchesKey_iff.mpr h]
    cases item.isNull with
    | true => exact Or.inl rfl
    | false => exact Or.inr rfl

theorem blanked_redactItem (hnull : S .null) {key item : Value}
    (h : Blanked S allowContent (redact allowContent item)) :
    Blanked S allowContent (redactItem allowContent key item) := by
  rw [redactItem]
  split
  · exact .str not_shows_redacted
  · split
    · split
      · exact .scalar hnull
      · exact .str not_shows_redacted
    · exact h

/-- A list or a tuple, redacted. -/
theorem blanked_redactAll {xs : List Value}
    (h : ∀ x ∈ xs, Blanked S allowContent (redact allowContent x)) :
    Blanked S allowContent (.list (redactAll allowContent xs)) := by
  rw [redactAll_eq_map]
  refine .list fun y hy ↦ ?_
  obtain ⟨x, hx, rfl⟩ := List.mem_map.mp hy
  exact h x hx

/-- **Redaction leaves nothing to blank.** -/
theorem blanked_redact (hS : ∀ {v}, S v → IsScalar v) (hnull : S .null) {K : Value → Prop}
    {v : Value} (h : Plain S K v) : Blanked S allowContent (redact allowContent v) := by
  induction h with
  | scalar h =>
    rw [redact_of_isScalar (hS h)]
    exact .scalar h
  | str s => exact .str (not_shows_scrub s)
  | list _ ih => exact blanked_redactAll ih
  | tuple _ ih => exact blanked_redactAll ih
  | @map es _ _ ih =>
    -- an entry that is left is that of some entry, under the text of its key
    have htexts := textKeys_redactEntries allowContent es
    obtain ⟨hdistinct, hmem, -⟩ := Entries.ofPairs_spec tells_isText htexts
    have hentry : ∀ f ∈ ofPairs (redactEntries allowContent es),
        ∃ e ∈ es, (∀ names, NamedBy names f.1 → NamedBy names e.1) ∧
          f.2 = redactItem allowContent e.1 e.2 := by
      intro f hf
      obtain ⟨e, he, heq⟩ := exists_of_mem_redactEntries (hmem f hf)
      refine ⟨e, he, fun names hnamed ↦ ?_, by rw [heq]⟩
      rw [heq] at hnamed
      exact hnamed
    rw [redact]
    refine .map (fun f hf ↦ htexts f (hmem f hf)) hdistinct ?_ ?_ ?_
    · intro f hf hnamed
      obtain ⟨e, -, hnames, hitem⟩ := hentry f hf
      rw [hitem, redactItem_of_credential (hnames _ hnamed)]
    · rintro rfl f hf hnamed
      obtain ⟨e, -, hnames, hitem⟩ := hentry f hf
      rw [hitem]
      exact redactItem_content (hnames _ hnamed)
    · intro f hf
      obtain ⟨e, he, -, hitem⟩ := hentry f hf
      rw [hitem]
      exact blanked_redactItem hnull (ih e he)

/-! ## What is blanked stays -/

theorem redactItem_eq_self {key item : Value}
    (hcredential : NamedBy credentialKeys key → item = .str redacted)
    (hcontent : allowContent = false → NamedBy contentKeys key →
      item = .null ∨ item = .str redacted)
    (hitem : redact allowContent item = item) : redactItem allowContent key item = item := by
  rw [redactItem]
  split
  · next hmatch => exact (hcredential (matchesKey_iff.mp hmatch)).symm
  · split
    · next hmatch =>
      rw [Bool.and_eq_true, Bool.not_eq_true'] at hmatch
      rcases hcontent hmatch.1 (matchesKey_iff.mp hmatch.2) with rfl | rfl <;> rfl
    · exact hitem

theorem redactEntries_eq_self {es : List (Value × Value)} (htexts : TextKeys es)
    (h : ∀ e ∈ es, redactItem allowContent e.1 e.2 = e.2) : redactEntries allowContent es = es := by
  induction es with
  | nil => rfl
  | cons e es ih =>
    obtain ⟨⟨k, hk⟩, htexts⟩ := List.forall_mem_cons.mp htexts
    obtain ⟨he, hes⟩ := List.forall_mem_cons.mp h
    have hkey : Value.str e.1.plainText = e.1 := by rw [hk, plainText_str]
    rw [redactEntries_cons, hkey, he, ih htexts hes]

/-- **What is blanked is not changed by redaction.** -/
theorem Blanked.redact_eq (hS : ∀ {v}, S v → IsScalar v) {w : Value}
    (h : Blanked S allowContent w) : redact allowContent w = w := by
  induction h with
  | scalar h => exact redact_of_isScalar (hS h)
  | str h => rw [redact, scrub_eq_self h]
  | list _ ih => rw [redact, redactAll_eq_map, List.map_congr_left ih, List.map_id']
  | @map es htexts hdistinct hcredentials hcontent _ ih =>
    have hentries : redactEntries allowContent es = es :=
      redactEntries_eq_self htexts fun e he ↦
        redactItem_eq_self (hcredentials e he) (fun hallow ↦ hcontent hallow e he) (ih e he)
    have hpairs : ofPairs es = es :=
      Entries.ofPairs_of_nodup tells_isText htexts hdistinct
    rw [redact, hentries, hpairs]

theorem Blanked.not_shows (hS : ∀ {v}, S v → IsScalar v) {w : Value}
    (h : Blanked S allowContent w) {s : String} (hs : Has (.item s) w) : ¬ Shows s.toList := by
  induction h with
  | scalar h => cases hs <;> exact (hS h).elim
  | str h =>
    cases hs with
    | str => exact h
  | list _ ih =>
    obtain ⟨x, hx, hs⟩ := has_list_iff.mp hs
    exact ih x hx hs
  | map _ _ _ _ _ ih =>
    obtain ⟨e, he, hkey | hs⟩ := has_map_iff.mp hs
    · cases hkey
    · exact ih e he hs

end

/-- **Redaction is idempotent.** Redacting a value of null, truth values, numbers, bytes, texts,
lists, tuples and mappings with any keys a second time changes nothing, whether content is allowed
or not; and of the texts that are left, the keys of mappings apart, none shows a secret. -/
theorem redact_idempotent {v : Value} (h : Plain IsScalar (fun _ ↦ True) v)
    (allowContent : Bool) :
    redact allowContent (redact allowContent v) = redact allowContent v ∧
      ∀ s, Has (.item s) (redact allowContent v) → ¬ Shows s.toList := by
  have hblanked : Blanked IsScalar allowContent (redact allowContent v) :=
    blanked_redact id trivial h
  exact ⟨hblanked.redact_eq id, fun s hs ↦ hblanked.not_shows id hs⟩

/-- Secrets that overlap or stand next to a mark, and two keys that become the same text. -/
def crowdedSecrets : Value :=
  .map [(.int 1, .str "sk-sk-abcdefgh[REDACTED]bearer bearer x"),
    (.str "1", .tuple [.str "sk-abcdefgh/Bearer a b", .bytes [115, 107], .float 0.5]),
    (.str "X-Token", .list [.null])]

theorem redact_idempotent_crowdedSecrets :
    Plain IsScalar (fun _ ↦ True) crowdedSecrets ∧
      redact true (redact true crowdedSecrets) = redact true crowdedSecrets ∧
      ∀ s, Has (.item s) (redact true crowdedSecrets) → ¬ Shows s.toList := by
  have hplain : Plain IsScalar (fun _ ↦ True) crowdedSecrets := by
    refine .map (fun _ _ ↦ trivial) ?_
    refine List.forall_mem_cons.mpr ⟨.str _, List.forall_mem_cons.mpr ⟨.tuple ?_, ?_⟩⟩
    · exact List.forall_mem_cons.mpr ⟨.str _, List.forall_mem_cons.mpr
        ⟨.scalar trivial, List.forall_mem_singleton.mpr (.scalar trivial)⟩⟩
    · exact List.forall_mem_singleton.mpr (.list (List.forall_mem_singleton.mpr (.scalar trivial)))
  exact ⟨hplain, redact_idempotent hplain true⟩

end CallTree.Report
