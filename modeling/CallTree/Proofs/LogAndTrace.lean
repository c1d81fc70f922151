import CallTree.Proofs.Blanked
import CallTree.Proofs.ReadBack

/-!
# The log and the trace of an event

An event goes two ways after it was redacted, as a line of JSON and as it is, and both carry the
same attributes: the line is read as the name of the event and the attributes of the trace. What
makes the line readable is redaction itself. It leaves lists and mappings with distinct texts as
keys (`Blanked`), whatever the keys were before, and such values are read back from what is written
of them (`Legible`).
-/

namespace CallTree.Report

open CallTree.Json CallTree.Value

/-- Null, a truth value, or a whole number that is not too long to be read. -/
def IsReadable : Value → Prop
  | .null => True
  | .bool _ => True
  | .int n => ReadsWhole n
  | _ => False

theorem isReadable_of_small {n : Int} (h : n.natAbs < 10) : IsReadable (.int n) :=
  readsWhole_iff.mpr (isLong_eq_false_iff.mpr (h.trans_le (Nat.le_self_pow (by decide) 10)))

theorem isScalar_of_isReadable {v : Value} (h : IsReadable v) : IsScalar v := by
  cases v with
  | null => trivial
  | bool b => trivial
  | int n => trivial
  | _ => exact h.elim

theorem legible_of_isReadable {v : Value} (h : IsReadable v) : Legible v := by
  cases v with
  | null => exact .null
  | bool b => exact .bool b
  | int n => exact .int h
  | _ => exact h.elim

/-- A value of which nothing is left to blank is read back from what is written of it. -/
theorem Blanked.legible {allowContent : Bool} {w : Value} (h : Blanked IsReadable allowContent w) :
    Legible w := by
  induction h with
  | scalar h => exact legible_of_isReadable h
  | str _ => exact .str _
  | list _ ih => exact .list ih
  | map htexts hdistinct _ _ _ ih => exact .map htexts hdistinct ih

/-- Null, truth values, whole numbers that are not too long, texts, lists, tuples, and mappings with
any of the scalars or texts as keys. -/
def Attribute : Value → Prop := Plain IsReadable fun k ↦ IsReadable k ∨ IsText k

theorem anyHasLongKey_eq_false {allowContent : Bool} {xs : List Value}
    (h : ∀ x ∈ xs, hasLongKey allowContent x = false) : anyHasLongKey allowContent xs = false := by
  induction xs with
  | nil => rfl
  | cons x xs ih =>
    obtain ⟨hx, hxs⟩ := List.forall_mem_cons.mp h
    rw [anyHasLongKey, hx, ih hxs]
    rfl

/-- Redaction meets no key whose digits are too many in such data. -/
theorem hasLongKey_of_attribute {v : Value} (h : Attribute v) (allowContent : Bool) :
    hasLongKey allowContent v = false := by
  induction h with
  | @scalar v h => cases v <;> first | rfl | exact h.elim
  | str _ => rfl
  | list _ ih => exact anyHasLongKey_eq_false ih
  | tuple _ ih => exact anyHasLongKey_eq_false ih
  | map hkeys _ ih =>
    refine anyLongKey_eq_false (fun e he ↦ ?_) ih
    rcases hkeys e he with hkey | ⟨s, hs⟩
    · exact (legible_of_isReadable hkey).hasLong_eq_false
    · rw [hs]
      rfl

/-- The name of a record and its attributes in one mapping. -/
def Record.toValue (r : Record) : Value := .map ((.str "event", .str r.name) :: r.attributes)

theorem attribute_record {e : Event} (h : ∀ a ∈ e.attributes, Attribute a.2) :
    Attribute (.record e.attributes) := by
  refine .map (List.forall_mem_map.mpr fun a _ ↦ Or.inr ⟨a.1, rfl⟩) ?_
  exact List.forall_mem_map.mpr h

theorem legible_record {e : Event} (hnames : ∀ a ∈ e.attributes, a.1 ∉ reservedNames)
    (h : ∀ a ∈ e.attributes, Attribute a.2) (allowContent : Bool) :
    Legible (e.record allowContent).toValue := by
  obtain ⟨htexts, hdistinct, -⟩ := record_attributes allowContent e
  have hplain := attribute_record h
  have hblanked : Blanked IsReadable allowContent (.map (e.record allowContent).attributes) :=
    blanked_redact isScalar_of_isReadable trivial hplain
  have hitems : ∀ f ∈ (e.record allowContent).attributes, Legible f.2 := by
    cases hblanked.legible with
    | map _ _ hitems => exact hitems
  refine .map (List.forall_mem_cons.mpr ⟨⟨"event", rfl⟩, htexts⟩) ?_
    (List.forall_mem_cons.mpr ⟨.str e.name, hitems⟩)
  exact List.nodup_cons.mpr ⟨event_not_mem_attributes hnames, hdistinct⟩

/-- **The log and the trace carry the same event.** An event whose attributes are such data, and
none of which has a name that events keep for themselves, is sent out, whether content is allowed or
not. Its line is read as the name of the event together with the attributes that the trace gets: the
same mapping, with its entries in the order of their keys at every depth. -/
theorem log_reads_as_trace {e : Event} (hnames : ∀ a ∈ e.attributes, a.1 ∉ reservedNames)
    (h : ∀ a ∈ e.attributes, Attribute a.2) (allowContent : Bool) :
    ∃ line r, emit allowContent e = .ok (line, r) ∧ r = e.record allowContent ∧
      Json.read line = .ok (sortKeys r.toValue) ∧ (sortKeys r.toValue).equal r.toValue = true := by
  have hlegible := legible_record hnames h allowContent
  obtain ⟨cs, hwrite, hread⟩ := read_write hlegible
  refine ⟨String.ofList cs, e.record allowContent, ?_, rfl, hread, equal_sortKeys hlegible⟩
  have hlong := hlegible.hasLong_eq_false
  rw [Record.toValue, hasLong_map_iff, List.forall_mem_cons, ← hasLong_map_iff] at hlong
  rw [emit_eq hnames hwrite, Event.isLong,
    hasLongKey_of_attribute (attribute_record h) allowContent, hlong.2]
  rfl

/-- Keys of every kind, among them two that become the same text, control characters and characters
past the ASCII range, and texts and entries that are blanked. -/
def mixedEvent : Event :=
  ⟨"tool.call",
    [("zeta", .tuple [.int (-7), .null, .str "a\x08\x1f\"\\é"]),
      ("nested", .map [(.int 1, .bool true), (.null, .list []), (.str "1", .str "Bearer x"),
        (.bool false, .map [])]),
      ("api_key", .str "sk-abcdefgh")]⟩

theorem log_reads_as_trace_mixedEvent :
    (∀ a ∈ mixedEvent.attributes, a.1 ∉ reservedNames) ∧
      (∀ a ∈ mixedEvent.attributes, Attribute a.2) ∧
      ∃ line r, emit false mixedEvent = .ok (line, r) ∧ r = mixedEvent.record false ∧
        Json.read line = .ok (sortKeys r.toValue) ∧
        (sortKeys r.toValue).equal r.toValue = true := by
  have hnames : ∀ a ∈ mixedEvent.attributes, a.1 ∉ reservedNames := by decide
  have hdata : ∀ a ∈ mixedEvent.attributes, Attribute a.2 := by
    refine List.forall_mem_cons.mpr ⟨.tuple ?_, List.forall_mem_cons.mpr ⟨.map ?_ ?_, ?_⟩⟩
    · exact List.forall_mem_cons.mpr ⟨.scalar (isReadable_of_small (by decide)),
        List.forall_mem_cons.mpr ⟨.scalar trivial, List.forall_mem_singleton.mpr (.str _)⟩⟩
    · refine List.forall_mem_cons.mpr ⟨Or.inl (isReadable_of_small (by decide)), ?_⟩
      exact List.forall_mem_cons.mpr ⟨Or.inl trivial, List.forall_mem_cons.mpr
        ⟨Or.inr ⟨"1", rfl⟩, List.forall_mem_singleton.mpr (Or.inl trivial)⟩⟩
    · refine List.forall_mem_cons.mpr ⟨.scalar trivial, List.forall_mem_cons.mpr
        ⟨.list (List.forall_mem_nil _), List.forall_mem_cons.mpr ⟨.str _, ?_⟩⟩⟩
      exact List.forall_mem_singleton.mpr (.map (List.forall_mem_nil _) (List.forall_mem_nil _))
    · exact List.forall_mem_singleton.mpr (.str _)
  exact ⟨hnames, hdata, log_reads_as_trace hnames hdata false⟩

/-- An attribute under the other name that events keep for themselves. -/
def selfNamed : Event := ⟨"e", [("self", .int 1)]⟩

/-- That no attribute is named `event` is not enough: the event cannot be sent, and sending events
one after another ends with it. -/
theorem selfNamed_refused :
    (∀ a ∈ selfNamed.attributes, a.1 ≠ "event" ∧ Attribute a.2) ∧
      emit false selfNamed = .error .wrongKind ∧
      emitAll false [selfNamed] = .error .wrongKind := by
  refine ⟨List.forall_mem_singleton.mpr ⟨by decide, ?_⟩, rfl, rfl⟩
  exact .scalar (isReadable_of_small (by decide))

end CallTree.Report
