import CallTree.Report.Event
import CallTree.Proofs.Entries
import CallTree.Proofs.LineTexts
import CallTree.Proofs.Redaction

/-!
# Secrets in a log line

An event is redacted before it is written as a line of JSON, and of the texts that redaction leaves
only the keys of mappings may still have a secret in them: all others are without one
(`redacts_redact`). In the line the record's texts stand apart from each other, so the line shows a
secret exactly when a text of it does as it is written. That happens in two ways
(`shows_line_iff`): a key has a secret, which redaction does not look for, or a text has a control
character whose escape ends with the letter `b`, and behind it the rest of a bearer token. Where
neither occurs in an event, its line shows no secret.
-/

namespace CallTree.Report

open CallTree.Json CallTree.Value

/-! ## Entries with texts as keys -/

/-- The keys of some entries are texts. -/
abbrev TextKeys (es : List (Value × Value)) : Prop := Entries.KeysIn IsText es

theorem plainText_str (s : String) : (Value.str s).plainText = s := rfl

theorem str_equal_str (s t : String) : (Value.str s).equal (.str t) = (s == t) := by
  simp [Value.equal]

theorem equal_iff_of_isText {k k' : Value} (hk : IsText k) (hk' : IsText k') :
    k.equal k' = true ↔ k = k' := by
  obtain ⟨s, rfl⟩ := hk
  obtain ⟨t, rfl⟩ := hk'
  rw [str_equal_str, beq_iff_eq, Value.str.injEq]

theorem tells_isText : Entries.Tells Value.equal IsText := fun _ _ ↦ equal_iff_of_isText

/-! ## What remains of a value -/

/-- A text that redaction may leave of a value: a key as it is, any other text without its secrets,
and the mark that stands for what was blanked. -/
inductive Remains (v : Value) : TextIn → Prop where
  | key {k : String} (h : Has (.key k) v) : Remains v (.key k)
  | item {s : String} (h : Has (.item s) v) : Remains v (.item (scrub s))
  | mark : Remains v (.item redacted)

/-- The second value can be written, and has no texts but those that remain of the first. -/
structure Redacts (v w : Value) : Prop where
  data : Data IsText w
  remains : ∀ t, Has t w → Remains v t

theorem Remains.mono {v w : Value} {t : TextIn} (h : Remains v t) (hvw : ∀ t, Has t v → Has t w) :
    Remains w t := by
  cases h with
  | key h => exact .key (hvw _ h)
  | item h => exact .item (hvw _ h)
  | mark => exact .mark

theorem redactAll_eq_map (allowContent : Bool) (xs : List Value) :
    redactAll allowContent xs = xs.map (redact allowContent) := by
  induction xs with
  | nil => rfl
  | cons x xs ih => rw [redactAll, ih, List.map_cons]

theorem redactEntries_eq_map (allowContent : Bool) (es : List (Value × Value)) :
    redactEntries allowContent es =
      es.map fun e ↦ (.str e.1.plainText, redactItem allowContent e.1 e.2) := by
  induction es with
  | nil => rfl
  | cons e es ih => rw [redactEntries_cons, ih, List.map_cons]

theorem exists_of_mem_redactEntries {allowContent : Bool} {es : List (Value × Value)}
    {f : Value × Value} (hf : f ∈ redactEntries allowContent es) :
    ∃ e ∈ es, f = (.str e.1.plainText, redactItem allowContent e.1 e.2) := by
  rw [redactEntries_eq_map] at hf
  obtain ⟨e, he, rfl⟩ := List.mem_map.mp hf
  exact ⟨e, he, rfl⟩

theorem textKeys_redactEntries (allowContent : Bool) (es : List (Value × Value)) :
    TextKeys (redactEntries allowContent es) := by
  intro f hf
  obtain ⟨e, _, rfl⟩ := exists_of_mem_redactEntries hf
  exact ⟨e.1.plainText, rfl⟩

theorem redacts_mark (v : Value) : Redacts v (.str redacted) := by
  refine ⟨.str _, fun t ht ↦ ?_⟩
  cases ht with
  | str => exact .mark

/-- A value without texts. -/
theorem redacts_of_not_has {v w : Value} (hdata : Data IsText w) (h : ∀ t, ¬ Has t w) :
    Redacts v w :=
  ⟨hdata, fun t ht ↦ absurd ht (h t)⟩

theorem redacts_redactItem {allowContent : Bool} {key item : Value}
    (h : Redacts item (redact allowContent item)) :
    Redacts item (redactItem allowContent key item) := by
  rw [redactItem]
  split
  · exact redacts_mark item
  · split
    · split
      · exact redacts_of_not_has .null (by rintro t ⟨⟩)
      · exact redacts_mark item
    · exact h

/-- Lists and tuples both become lists. -/
theorem redacts_redactAll {allowContent : Bool} {v : Value} {xs : List Value}
    (hv : ∀ t, Has t v ↔ ∃ x ∈ xs, Has t x)
    (h : ∀ x ∈ xs, Redacts x (redact allowContent x)) :
    Redacts v (.list (redactAll allowContent xs)) := by
  rw [redactAll_eq_map]
  refine ⟨.list fun y hy ↦ ?_, fun t ht ↦ ?_⟩
  · obtain ⟨x, hx, rfl⟩ := List.mem_map.mp hy
    exact (h x hx).data
  · obtain ⟨y, hy, ht⟩ := has_list_iff.mp ht
    obtain ⟨x, hx, rfl⟩ := List.mem_map.mp hy
    exact ((h x hx).remains t ht).mono fun t ht ↦ (hv t).mpr ⟨x, hx, ht⟩

/-- **Redaction leaves no secret but in keys.** What it gives can be written, and its texts are the
keys of the value, its other texts without their secrets, and marks. -/
theorem redacts_redact {K : Value → Prop} {v : Value} (h : Data K v) (allowContent : Bool) :
    Redacts v (redact allowContent v) := by
  induction h with
  | null => exact redacts_of_not_has .null (by rintro t ⟨⟩)
  | bool b => exact redacts_of_not_has (.bool b) (by rintro t ⟨⟩)
  | int n => exact redacts_of_not_has (.int n) (by rintro t ⟨⟩)
  | float x => exact redacts_of_not_has (.float x) (by rintro t ⟨⟩)
  | str s =>
    refine ⟨.str _, fun t ht ↦ ?_⟩
    cases ht with
    | str => exact .item (.str s)
  | list _ ih =>
    rw [redact]
    exact redacts_redactAll (fun _ ↦ has_list_iff) ih
  | tuple _ ih =>
    rw [redact]
    exact redacts_redactAll (fun _ ↦ has_tuple_iff) ih
  | @map es _ _ ih =>
    -- two keys may become the same text, so an entry that is left is that of some entry, not more
    have hentry : ∀ f ∈ ofPairs (redactEntries allowContent es), ∃ e ∈ es, ∃ item,
        f = (.str e.1.plainText, item) ∧ Redacts e.2 item := by
      intro f hf
      have hkeys := textKeys_redactEntries allowContent es
      have hmem := (Entries.ofPairs_spec tells_isText hkeys).2.1 f hf
      obtain ⟨e, he, hf⟩ := exists_of_mem_redactEntries hmem
      exact ⟨e, he, _, hf, redacts_redactItem (ih e he)⟩
    rw [redact]
    refine ⟨.map (fun f hf ↦ ?_) (fun f hf ↦ ?_), fun t ht ↦ ?_⟩
    · obtain ⟨e, _, item, rfl, _⟩ := hentry f hf
      exact ⟨_, rfl⟩
    · obtain ⟨e, _, item, rfl, hitem⟩ := hentry f hf
      exact hitem.data
    · obtain ⟨f, hf, ht⟩ := has_map_iff.mp ht
      obtain ⟨e, he, item, rfl, hitem⟩ := hentry f hf
      rcases ht with rfl | ht
      · rw [plainText_str]
        exact .key (.key he)
      · exact (hitem.remains t ht).mono fun t ht ↦ .entry he ht

/-! ## The line of an event -/

/-- A text that shows a secret in a log line although it went through redaction: a key that has one
or completes an escape, or another text that completes an escape. -/
def Leaks : TextIn → Prop
  | .key k => ShowsVerbatim k.toList ∨ CompletesBearer k.toList
  | .item s => CompletesBearer s.toList

theorem shows_written_iff_leaks {v : Value} {t : TextIn} (h : Remains v t) :
    Shows (written t.chars) ↔ Leaks t := by
  cases h with
  | key => exact shows_written_iff
  | item => exact shows_written_iff_of_not_shows (not_shows_scrub _)
  | mark =>
    refine shows_written_iff_of_not_shows (not_shows_of_not_begins ?_)
    simp [TextIn.chars, redacted, beginsSecret]

/-- The record of an event has texts as keys, which are distinct names of its attributes, each with
what redaction leaves of one of that name. -/
theorem record_attributes (allowContent : Bool) (e : Event) :
    TextKeys (e.record allowContent).attributes ∧
      ((e.record allowContent).attributes.map Prod.fst).Nodup ∧
      ∀ f ∈ (e.record allowContent).attributes, ∃ a ∈ e.attributes,
        f = (.str a.1, redactItem allowContent (.str a.1) a.2) := by
  have htexts := textKeys_redactEntries allowContent
    (e.attributes.map fun a ↦ (.str a.1, a.2))
  obtain ⟨hnodup, hmem, -⟩ := Entries.ofPairs_spec tells_isText htexts
  refine ⟨fun f hf ↦ htexts f (hmem f hf), hnodup, fun f hf ↦ ?_⟩
  obtain ⟨g, hg, rfl⟩ := exists_of_mem_redactEntries (hmem f hf)
  obtain ⟨a, ha, rfl⟩ := List.mem_map.mp hg
  exact ⟨a, ha, rfl⟩

/-- An event whose attributes have distinct names keeps each of them, with what redaction leaves of
it. -/
theorem mem_attributes_record {e : Event} (hdistinct : (e.attributes.map Prod.fst).Nodup)
    {a : String × Value} (ha : a ∈ e.attributes) (allowContent : Bool) :
    (.str a.1, redactItem allowContent (.str a.1) a.2) ∈ (e.record allowContent).attributes := by
  have hredacted : redactEntries allowContent (e.attributes.map fun a ↦ (.str a.1, a.2)) =
      e.attributes.map fun a ↦ (.str a.1, redactItem allowContent (.str a.1) a.2) := by
    rw [redactEntries_eq_map, List.map_map]
    rfl
  have hkeys : ((redactEntries allowContent
      (e.attributes.map fun a ↦ (.str a.1, a.2))).map Prod.fst).Nodup := by
    rw [hredacted, List.map_map]
    have hnames := hdistinct.map (f := Value.str) fun _ _ h ↦ Value.str.inj h
    rwa [List.map_map] at hnames
  have hall : (e.record allowContent).attributes =
      redactEntries allowContent (e.attributes.map fun a ↦ (.str a.1, a.2)) :=
    Entries.ofPairs_of_nodup tells_isText (textKeys_redactEntries allowContent _) hkeys
  rw [hall, hredacted]
  exact List.mem_map_of_mem ha

/-- No attribute of a record takes the place of the name. -/
theorem event_not_mem_attributes {allowContent : Bool} {e : Event}
    (hnames : ∀ a ∈ e.attributes, a.1 ∉ reservedNames) :
    Value.str "event" ∉ (e.record allowContent).attributes.map Prod.fst := by
  intro hmem
  obtain ⟨-, -, hkeys⟩ := record_attributes allowContent e
  obtain ⟨f, hf, hevent⟩ := List.mem_map.mp hmem
  obtain ⟨a, ha, rfl⟩ := hkeys f hf
  have heq : a.1 = "event" := Value.str.inj hevent
  refine hnames a ha ?_
  rw [heq]
  decide

/-- The line of a record puts its name first and then its attributes, before they are sorted. -/
theorem line_eq_write {allowContent : Bool} {e : Event}
    (hnames : ∀ a ∈ e.attributes, a.1 ∉ reservedNames) :
    (e.record allowContent).line =
      write .log (.map ((.str "event", .str e.name) :: (e.record allowContent).attributes)) := by
  obtain ⟨htexts, hnodup, -⟩ := record_attributes allowContent e
  rw [Record.line, Entries.foldl_put_of_nodup tells_isText]
  · rfl
  · exact List.forall_mem_cons.mpr ⟨⟨"event", rfl⟩, htexts⟩
  · exact List.nodup_cons.mpr ⟨event_not_mem_attributes hnames, hnodup⟩

/-- Whether a whole number that is met when an event is sent out is too long to be written: in a key
of the event, or in what redaction leaves of it. -/
def Event.isLong (allowContent : Bool) (e : Event) : Bool :=
  hasLongKey allowContent (.record e.attributes) ||
    (Value.map (e.record allowContent).attributes).hasLong

theorem isLong_eq_false_iff {n : Int} :
    Decimal.isLong n = false ↔ n.natAbs < 10 ^ Decimal.maxWholeDigits := by
  rw [Decimal.isLong, decide_eq_false_iff_not, Nat.not_lt]
  exact Nat.length_toDigits_le_iff (by decide) (by decide)

theorem hasLong_list_iff {xs : List Value} :
    (Value.list xs).hasLong = false ↔ ∀ x ∈ xs, x.hasLong = false := by
  rw [hasLong]
  induction xs with
  | nil => simp [anyLong]
  | cons x xs ih => rw [anyLong, Bool.or_eq_false_iff, ih, List.forall_mem_cons]

theorem hasLong_map_iff {es : List (Value × Value)} :
    (Value.map es).hasLong = false ↔ ∀ e ∈ es, e.1.hasLong = false ∧ e.2.hasLong = false := by
  rw [hasLong]
  induction es with
  | nil => simp [anyLongEntry]
  | cons e es ih =>
    rw [anyLongEntry, Bool.or_eq_false_iff, Bool.or_eq_false_iff, ih, List.forall_mem_cons]

theorem anyLongKey_eq_false {allowContent : Bool} {es : List (Value × Value)}
    (hkeys : ∀ e ∈ es, e.1.hasLong = false)
    (h : ∀ e ∈ es, hasLongKey allowContent e.2 = false) : anyLongKey allowContent es = false := by
  induction es with
  | nil => rfl
  | cons e es ih =>
    obtain ⟨hkey, hkeys⟩ := List.forall_mem_cons.mp hkeys
    obtain ⟨he, hes⟩ := List.forall_mem_cons.mp h
    rw [anyLongKey, hkey, he, ih hkeys hes, Bool.and_false]
    rfl

/-- Attributes with short numbers make a short event. -/
theorem isLong_eq_false {allowContent : Bool} {e : Event}
    (h : ∀ a ∈ e.attributes,
      hasLongKey allowContent a.2 = false ∧ (redact allowContent a.2).hasLong = false) :
    e.isLong allowContent = false := by
  refine Bool.or_eq_false_iff.mpr ⟨?_, hasLong_map_iff.mpr fun f hf ↦ ?_⟩
  · exact anyLongKey_eq_false (List.forall_mem_map.mpr fun _ _ ↦ rfl)
      (List.forall_mem_map.mpr fun a ha ↦ (h a ha).1)
  · obtain ⟨a, ha, rfl⟩ := (record_attributes allowContent e).2.2 f hf
    refine ⟨rfl, ?_⟩
    rw [redactItem]
    split
    · rfl
    · split
      · split <;> rfl
      · exact (h a ha).2

/-- An event whose name and attributes can be written is sent out, unless it has a number that is
too long. -/
theorem emit_eq {allowContent : Bool} {e : Event} {cs : List Char}
    (hnames : ∀ a ∈ e.attributes, a.1 ∉ reservedNames)
    (hcs : writeChars .log
      (.map ((.str "event", .str e.name) :: (e.record allowContent).attributes)) = .ok cs) :
    emit allowContent e = if e.isLong allowContent then .error .badValue
      else .ok (String.ofList cs, e.record allowContent) := by
  have hfree : ¬ (e.attributes.any fun a ↦ reservedNames.contains a.1) = true := by
    intro hany
    obtain ⟨a, ha, hreserved⟩ := List.any_eq_true.mp hany
    exact hnames a ha (List.contains_iff_mem.mp hreserved)
  have hlong : (Value.map ((.str "event", .str e.name) ::
      (e.record allowContent).attributes)).hasLong =
        (Value.map (e.record allowContent).attributes).hasLong := by
    simp [hasLong, anyLongEntry]
  rw [emit, if_neg hfree, Event.isLong]
  simp only [line_eq_write hnames, write, hcs, unlessLong, hlong]
  cases hasLongKey allowContent (.record e.attributes) with
  | true => rfl
  | false => cases (Value.map (e.record allowContent).attributes).hasLong <;> rfl

/-- An event of data is sent out unless it has a number that is too long, and its line shows a
secret exactly where its name or a text of its record does. -/
theorem exists_emit_eq {K : Value → Prop} {e : Event}
    (hnames : ∀ a ∈ e.attributes, a.1 ∉ reservedNames) (hdata : Data K (.record e.attributes))
    (allowContent : Bool) :
    ∃ line, emit allowContent e = (if e.isLong allowContent then .error .badValue
        else .ok (line, e.record allowContent)) ∧
      (Shows line.toList ↔ Shows (written e.name.toList) ∨
        ShowsWritten (.map (e.record allowContent).attributes)) := by
  have hredacts : Redacts (.record e.attributes) (.map (e.record allowContent).attributes) :=
    redacts_redact hdata allowContent
  have hline : Data IsText
      (.map ((.str "event", .str e.name) :: (e.record allowContent).attributes)) := by
    cases hredacts.data with
    | map hkeys hitems =>
      exact .map (List.forall_mem_cons.mpr ⟨⟨"event", rfl⟩, hkeys⟩)
        (List.forall_mem_cons.mpr ⟨.str e.name, hitems⟩)
  obtain ⟨cs, hcs, hshows⟩ := shows_writeChars_iff hline
  refine ⟨String.ofList cs, emit_eq hnames hcs, ?_⟩
  have hevent : ¬ Shows (written (Value.str "event").plainText.toList) :=
    not_shows_of_length_lt (by decide)
  rw [String.toList_ofList, ← hshows, showsWritten_map_iff, showsWritten_map_iff,
    List.exists_mem_cons_iff, or_iff_right hevent, showsWritten_str_iff]

theorem not_completesBearer {cs : List Char} (h : ∀ c ∈ cs, escapeEndsInB c = false) :
    ¬ CompletesBearer cs := by
  rintro ⟨c, m, hc, -, -, hpart⟩
  rw [h c (hpart.subset List.mem_cons_self)] at hc
  exact Bool.false_ne_true hc

theorem mark_escapes : ∀ c ∈ redacted.toList, escapeEndsInB c = false := by
  simp [redacted, escapeEndsInB]

theorem mem_of_mem_replaceMatches {length : List Char → Nat} {skip : Nat} {cs : List Char}
    {c : Char} (h : c ∈ replaceMatches length skip cs) : c ∈ cs ∨ c ∈ redacted.toList := by
  fun_induction replaceMatches length skip cs with
  | case1 => exact absurd h List.not_mem_nil
  | case2 skip x cs ih => exact (ih h).imp_left (List.mem_cons_of_mem _)
  | case3 x cs _ ih =>
    rcases List.mem_cons.mp h with rfl | h
    · exact Or.inl List.mem_cons_self
    · exact (ih h).imp_left (List.mem_cons_of_mem _)
  | case4 x cs n _ ih =>
    rcases List.mem_append.mp h with h | h
    · exact Or.inr h
    · exact (ih h).imp_left (List.mem_cons_of_mem _)

theorem mem_of_mem_scrub {s : String} {c : Char} (h : c ∈ (scrub s).toList) :
    c ∈ s.toList ∨ c ∈ redacted.toList := by
  rw [scrub, String.toList_ofList] at h
  rcases mem_of_mem_replaceMatches h with h | h
  · exact mem_of_mem_replaceMatches h
  · exact Or.inr h

theorem not_leaks_of_remains {v : Value} {t : TextIn} (h : Remains v t)
    (hkeys : ∀ k, Has (.key k) v → ¬ Shows k.toList)
    (hescapes : ∀ t, Has t v → ∀ c ∈ t.chars, escapeEndsInB c = false) : ¬ Leaks t := by
  cases h with
  | @key k hk =>
    rintro (⟨m, hm, -, hpart⟩ | hcompletes)
    · exact hkeys k hk ⟨m, hm, hpart⟩
    · exact not_completesBearer (hescapes _ hk) hcompletes
  | @item s hs =>
    refine not_completesBearer fun c hc ↦ ?_
    rcases mem_of_mem_scrub hc with hc | hc
    · exact hescapes _ hs c hc
    · exact mark_escapes c hc
  | mark => exact not_completesBearer mark_escapes

/-- **Which secrets get into a log line.** An event of data whose name shows no secret is sent out,
whether content is allowed or not, unless a number of it is too long to be written. Its line shows a
secret exactly when a key of its record has one as it is written, or when its name or a text of its
record completes an escape. In particular there is none where no key of the event has a secret and
none of its texts has a control character whose escape ends with the letter `b`. -/
theorem shows_line_iff {e : Event} (hnames : ∀ a ∈ e.attributes, a.1 ∉ reservedNames)
    (hdata : Data (fun _ ↦ True) (.record e.attributes)) (hname : ¬ Shows e.name.toList)
    (allowContent : Bool) :
    ∃ line, emit allowContent e = (if e.isLong allowContent then .error .badValue
        else .ok (line, e.record allowContent)) ∧
      (Shows line.toList ↔ CompletesBearer e.name.toList ∨
        ∃ t, Has t (.map (e.record allowContent).attributes) ∧ Leaks t) ∧
      ((∀ k, Has (.key k) (.record e.attributes) → ¬ Shows k.toList) →
        (∀ t, t = .item e.name ∨ Has t (.record e.attributes) →
          ∀ c ∈ t.chars, escapeEndsInB c = false) → ¬ Shows line.toList) := by
  obtain ⟨line, hemit, hshows⟩ := exists_emit_eq hnames hdata allowContent
  have hremains : ∀ t, Has t (.map (e.record allowContent).attributes) →
      Remains (.record e.attributes) t :=
    (redacts_redact hdata allowContent).remains
  have hiff : Shows line.toList ↔ CompletesBearer e.name.toList ∨
      ∃ t, Has t (.map (e.record allowContent).attributes) ∧ Leaks t := by
    rw [hshows, shows_written_iff_of_not_shows hname]
    exact or_congr_right (exists_congr fun t ↦
      and_congr_right fun ht ↦ shows_written_iff_leaks (hremains t ht))
  refine ⟨line, hemit, hiff, fun hkeys hescapes hline ↦ ?_⟩
  rcases hiff.mp hline with hcompletes | ⟨t, ht, hleaks⟩
  · exact not_completesBearer (hescapes _ (Or.inl rfl)) hcompletes
  · exact not_leaks_of_remains (hremains t ht) hkeys (fun t ht ↦ hescapes t (Or.inr ht)) hleaks

/-- An event with secrets in nested items. -/
def nestedSecrets : Event :=
  ⟨"tool.done", [("notes", .tuple [.str "Bearer abc", .map [(.int 7, .str "sk-abcdefgh")]])]⟩

theorem shows_line_iff_nestedSecrets :
    (∀ a ∈ nestedSecrets.attributes, a.1 ∉ reservedNames) ∧
      Data (fun _ ↦ True) (.record nestedSecrets.attributes) ∧
      ¬ Shows nestedSecrets.name.toList ∧
      ∃ line, emit true nestedSecrets = .ok (line, nestedSecrets.record true) ∧
        ¬ Shows line.toList := by
  have hnames : ∀ a ∈ nestedSecrets.attributes, a.1 ∉ reservedNames := by decide
  have hdata : Data (fun _ ↦ True) (.record nestedSecrets.attributes) := by
    refine .map (fun _ _ ↦ trivial) (List.forall_mem_singleton.mpr (.tuple ?_))
    refine List.forall_mem_cons.mpr ⟨.str _, List.forall_mem_singleton.mpr ?_⟩
    exact .map (fun _ _ ↦ trivial) (List.forall_mem_singleton.mpr (.str _))
  have hname : ¬ Shows nestedSecrets.name.toList :=
    not_shows_of_not_begins (by simp [nestedSecrets, beginsSecret])
  obtain ⟨line, hemit, -, hline⟩ := shows_line_iff hnames hdata hname true
  have htexts : ∀ t, Has t (.record nestedSecrets.attributes) →
      t = .key "notes" ∨ t = .item "Bearer abc" ∨ t = .key "7" ∨ t = .item "sk-abcdefgh" := by
    intro t ht
    have hseven : (Value.int 7).plainText = "7" := by rfl
    simpa [nestedSecrets, Value.record, has_map_iff, has_tuple_iff, has_str_iff, plainText_str,
      hseven] using ht
  have hshort : nestedSecrets.isLong true = false := by decide +kernel
  rw [hshort] at hemit
  refine ⟨hnames, hdata, hname, line, hemit, hline ?_ ?_⟩
  · intro k hk
    rcases htexts _ hk with h | h | h | h <;> cases h <;>
      exact not_shows_of_length_lt (by decide)
  · rintro t (rfl | ht)
    · simp [nestedSecrets, TextIn.chars, escapeEndsInB]
    · rcases htexts t ht with rfl | rfl | rfl | rfl <;> simp [TextIn.chars, escapeEndsInB]

/-- An attribute whose name is a secret. -/
def keyedBySecret : Event := ⟨"e", [("sk-abcdefgh", .int 1)]⟩

/-- A note in which a control character stands in the place of a bearer token's first letter. -/
def behindBackspace : Event := ⟨"e", [("note", .str "\x08earer abc")]⟩

/-- The line of an event with one attribute. -/
theorem exists_line_single (name : String) {key : String} {item : Value}
    (hkey : key ∉ reservedNames) (hitem : Data (fun _ ↦ True) item) (allowContent : Bool) :
    ∃ line r, emit allowContent ⟨name, [(key, item)]⟩ =
        (if Event.isLong allowContent ⟨name, [(key, item)]⟩ then .error .badValue
          else .ok (line, r)) ∧
      (Shows line.toList ↔ Shows (written name.toList) ∨ Shows (written key.toList) ∨
        ShowsWritten (redactItem allowContent (.str key) item)) := by
  have hrecord : (Event.record allowContent ⟨name, [(key, item)]⟩).attributes =
      [(.str key, redactItem allowContent (.str key) item)] := by
    show ofPairs (redactEntries allowContent [(.str key, item)]) = _
    rw [redactEntries_cons]
    generalize redactItem allowContent (.str key) item = new
    rfl
  have hdata : Data (fun _ ↦ True) (.record [(key, item)]) :=
    .map (fun _ _ ↦ trivial) (List.forall_mem_singleton.mpr hitem)
  obtain ⟨line, hemit, hline⟩ := exists_emit_eq (e := ⟨name, [(key, item)]⟩)
    (List.forall_mem_singleton.mpr hkey) hdata allowContent
  refine ⟨line, _, hemit, hline.trans (or_congr_right ?_)⟩
  rw [hrecord, showsWritten_map_iff, List.exists_mem_cons_iff, plainText_str,
    or_iff_left (by simp)]

theorem showsVerbatim_key : ShowsVerbatim "sk-abcdefgh".toList := by
  refine ⟨_, Or.inl ⟨"abcdefgh".toList, rfl, by decide, ?_⟩, ?_, List.infix_rfl⟩
  · simp [isKeyChar]
  · simp [isVerbatim]

theorem completesBearer_backspace : CompletesBearer "\x08earer abc".toList := by
  have hbearer : IsBearer ('b' :: "earer abc".toList) := by
    refine ⟨bearerWord, [' '], "abc".toList, rfl, rfl, by simp, ?_, by simp, ?_⟩
    · exact List.forall_mem_singleton.mpr (by decide)
    · simp [isTokenChar]
  refine ⟨'\x08', "earer abc".toList, by decide, hbearer, ?_, List.infix_rfl⟩
  simp [isVerbatim]

/-- Redaction finds nothing to take away in the note. -/
theorem redactItem_note :
    redactItem false (.str "note") (.str "\x08earer abc") = .str "\x08earer abc" := by
  have hcredential :
      matchesKey (normalKey (Value.str "note").plainText) credentialKeys = false := by cbv
  have hcontent : matchesKey (normalKey (Value.str "note").plainText) contentKeys = false := by
    cbv
  have hscrub : scrub "\x08earer abc" = "\x08earer abc" := by cbv
  rw [redactItem, hcredential, hcontent, Bool.and_false, redact, hscrub]
  rfl

/-- Two ways in which a secret gets into the line of an event whose name has none. -/
theorem lines_show_secrets :
    (¬ Shows keyedBySecret.name.toList ∧
      ∃ line r, emit false keyedBySecret = .ok (line, r) ∧ Shows line.toList) ∧
    (¬ Shows behindBackspace.name.toList ∧
      ∃ line r, emit false behindBackspace = .ok (line, r) ∧ Shows line.toList) := by
  refine ⟨⟨not_shows_of_length_lt (by decide), ?_⟩, ⟨not_shows_of_length_lt (by decide), ?_⟩⟩
  · have hkey : "sk-abcdefgh" ∉ reservedNames := by decide
    obtain ⟨line, r, hemit, hline⟩ := exists_line_single "e" hkey (.int 1) false
    have hshows := shows_written_iff.mpr (Or.inl showsVerbatim_key)
    have hshort : keyedBySecret.isLong false = false := by decide +kernel
    rw [show (⟨"e", [("sk-abcdefgh", .int 1)]⟩ : Event) = keyedBySecret from rfl, hshort] at hemit
    exact ⟨line, r, hemit, hline.mpr (Or.inr (Or.inl hshows))⟩
  · have hkey : "note" ∉ reservedNames := by decide
    obtain ⟨line, r, hemit, hline⟩ := exists_line_single "e" hkey (.str "\x08earer abc") false
    have hshows := shows_written_iff.mpr (Or.inr completesBearer_backspace)
    rw [redactItem_note, showsWritten_str_iff] at hline
    have hshort : behindBackspace.isLong false = false := by decide +kernel
    rw [show (⟨"e", [("note", .str "\x08earer abc")]⟩ : Event) = behindBackspace from rfl,
      hshort] at hemit
    exact ⟨line, r, hemit, hline.mpr (Or.inr (Or.inr hshows))⟩

end CallTree.Report
