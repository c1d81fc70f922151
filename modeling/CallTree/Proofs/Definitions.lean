import Mathlib
import CallTree.Tool.Provider

/-!
# What normalising a tool's metadata keeps

A provider may answer with metadata of any shape. `ofValue_eq_ok_iff` says exactly which shapes are
normalised, and to what: the properties stand in the answer as they stand in the definition, in the
same order and with the same metadata.

A provider that keeps a registry normalises what it hands out, and the evaluator normalises it again
under the name it asked for. Nothing is changed the second time (`ofValue_toValue`), so the
parameters that a call is checked against are those of the registry (`lookUp_of_registry`).
-/

namespace CallTree

theorem except_bind_eq_ok_iff {ε α β : Type} {x : Except ε α} {f : α → Except ε β} {b : β} :
    x >>= f = .ok b ↔ ∃ a, x = .ok a ∧ f a = .ok b := by
  cases x with
  | error e =>
    constructor
    · intro h
      cases h
    · rintro ⟨a, h, -⟩
      cases h
  | ok a =>
    constructor
    · intro h
      exact ⟨a, rfl, h⟩
    · rintro ⟨a', h, hf⟩
      exact Except.ok.inj h ▸ hf

theorem exists_eq_ok_of_map {ε α β : Type} {x : Except ε α} {f : α → β} {b : β}
    (h : x.map f = .ok b) : ∃ a, x = .ok a ∧ f a = b := by
  cases x with
  | error e => cases h
  | ok a => exact ⟨a, rfl, Except.ok.inj h⟩

namespace Definition

/-! ## Properties -/

/-- A property of a definition is well formed: it has a name, and its metadata has a text for its
type, a text for its description and a list for its choices, as far as it has them. -/
structure WellFormed (q : String × List (Value × Value)) : Prop where
  name : q.1 ≠ ""
  type : fieldOk q.2 "type" (·.str?.isSome) = true
  description : fieldOk q.2 "description" (·.str?.isSome) = true
  enum : fieldOk q.2 "enum" (·.list?.isSome) = true

/-- A property as an entry of a mapping. -/
def entry (q : String × List (Value × Value)) : Value × Value := (.str q.1, .map q.2)

theorem property_eq_ok_iff {tool : String} {e : Value × Value}
    {q : String × List (Value × Value)} :
    property tool e = .ok q ↔ e = entry q ∧ WellFormed q := by
  constructor
  · intro h
    rw [property.eq_def] at h
    split at h
    · next name raw =>
      split at h
      · cases h
      · next hname =>
        split at h
        · next m =>
          split at h
          · cases h
          · next htype =>
            split at h
            · cases h
            · next hdescription =>
              split at h
              · cases h
              · next henum =>
                cases h
                exact ⟨rfl, hname, by simpa using htype, by simpa using hdescription,
                  by simpa using henum⟩
        · cases h
    · cases h
  · rintro ⟨rfl, h⟩
    simp [entry, property, h.name, h.type, h.description, h.enum]

/-- Reading properties one by one changes nothing about them. -/
theorem mapM_property_eq_ok_iff {tool : String} {raw : List (Value × Value)}
    {qs : List (String × List (Value × Value))} :
    raw.mapM (property tool) = .ok qs ↔ raw = qs.map entry ∧ ∀ q ∈ qs, WellFormed q := by
  induction raw generalizing qs with
  | nil =>
    rw [List.mapM_nil]
    constructor
    · intro h
      cases h
      exact ⟨rfl, fun _ hq ↦ absurd hq List.not_mem_nil⟩
    · rintro ⟨h, -⟩
      rw [List.map_eq_nil_iff.mp h.symm]
      rfl
  | cons e raw ih =>
    rw [List.mapM_cons]
    constructor
    · intro h
      obtain ⟨q, hq, h⟩ := except_bind_eq_ok_iff.mp h
      obtain ⟨rest, hrest, h⟩ := except_bind_eq_ok_iff.mp h
      cases h
      obtain ⟨rfl, hwf⟩ := property_eq_ok_iff.mp hq
      obtain ⟨rfl, hall⟩ := ih.mp hrest
      exact ⟨rfl, List.forall_mem_cons.mpr ⟨hwf, hall⟩⟩
    · rintro ⟨h, hqs⟩
      obtain ⟨q, rest, rfl, rfl, rfl⟩ := List.map_eq_cons_iff.mp h.symm
      obtain ⟨hwf, hall⟩ := List.forall_mem_cons.mp hqs
      rw [property_eq_ok_iff.mpr ⟨rfl, hwf⟩, ih.mpr ⟨rfl, hall⟩]
      rfl

/-! ## Definitions -/

/-- What is normalised to a definition: a mapping with the definition's name, its description, and
its properties as they are, all of them well formed. -/
theorem ofValue_eq_ok_iff {expected : Option String} {raw : Value} {d : Definition} :
    ofValue expected raw = .ok d ↔ ∃ entries, raw = .map entries ∧
      nameOf expected entries = .ok d.name ∧ descriptionOf d.name entries = .ok d.description ∧
      Value.entry? "properties" entries = some (.map (d.properties.map entry)) ∧
      ∀ q ∈ d.properties, WellFormed q := by
  constructor
  · intro h
    rw [ofValue.eq_def] at h
    split at h
    · next entries =>
      obtain ⟨name, hname, h⟩ := except_bind_eq_ok_iff.mp h
      obtain ⟨description, hdescription, h⟩ := except_bind_eq_ok_iff.mp h
      split at h
      · next props hprops =>
        obtain ⟨properties, hproperties, h⟩ := except_bind_eq_ok_iff.mp h
        cases h
        obtain ⟨rfl, hwf⟩ := mapM_property_eq_ok_iff.mp hproperties
        exact ⟨entries, rfl, hname, hdescription, hprops, hwf⟩
      · cases h
    · cases h
  · rintro ⟨entries, rfl, hname, hdescription, hprops, hwf⟩
    rw [ofValue, hname]
    refine except_bind_eq_ok_iff.mpr ⟨d.name, rfl, ?_⟩
    rw [hdescription]
    refine except_bind_eq_ok_iff.mpr ⟨d.description, rfl, ?_⟩
    simp only [hprops, mapM_property_eq_ok_iff.mpr ⟨rfl, hwf⟩]
    rfl

theorem nameOf_eq_ok {expected : Option String} {entries : List (Value × Value)} {name : String}
    (h : nameOf expected entries = .ok name) : name ≠ "" ∧ ∀ e ∈ expected, e = name := by
  rw [nameOf] at h
  split at h
  · next given _ =>
    split at h
    · cases h
    · next hgiven =>
      split at h
      · next e =>
        split at h
        · next heq =>
          cases h
          exact ⟨hgiven, by simp [heq]⟩
        · cases h
      · cases h
        exact ⟨hgiven, by simp⟩
  · cases h

/-- The tool that was asked for is the tool that is described. -/
theorem name_of_ofValue {name : String} {raw : Value} {d : Definition}
    (h : ofValue (some name) raw = .ok d) : d.name = name := by
  obtain ⟨entries, -, hname, -⟩ := ofValue_eq_ok_iff.mp h
  exact ((nameOf_eq_ok hname).2 name rfl).symm

/-- A mapping that has every key once gives a definition that has every parameter once. -/
theorem nodup_parameters {expected : Option String} {raw : Value} {d : Definition}
    (h : ofValue expected raw = .ok d) {props : List (Value × Value)}
    (hprops : raw.get? "properties" = some (.map props)) (hkeys : (props.map Prod.fst).Nodup) :
    d.parameters.Nodup := by
  obtain ⟨entries, rfl, -, -, hentry, -⟩ := ofValue_eq_ok_iff.mp h
  obtain rfl : d.properties.map entry = props := by simpa [Value.get?, hentry] using hprops
  refine List.Nodup.of_map Value.str ?_
  simpa [parameters, entry, Function.comp_def] using hkeys

/-- **Normalising twice changes nothing.** A definition is normalised to itself, under its own name
and under no particular one. -/
theorem ofValue_toValue {expected : Option String} {raw : Value} {d : Definition}
    (h : ofValue expected raw = .ok d) {again : Option String} (hagain : ∀ e ∈ again, e = d.name) :
    ofValue again d.toValue = .ok d := by
  obtain ⟨entries, -, hname, -, -, hwf⟩ := ofValue_eq_ok_iff.mp h
  obtain ⟨hne, -⟩ := nameOf_eq_ok hname
  refine ofValue_eq_ok_iff.mpr ⟨_, rfl, ?_, ?_, ?_, hwf⟩
  · rw [nameOf]
    cases again with
    | none => simp [Value.entry?, hne]
    | some e => simp [Value.entry?, hne, hagain e rfl]
  · cases hd : d.description with
    | none => simp [descriptionOf, Value.entry?]
    | some t => cases t <;> simp [descriptionOf, Value.entry?, Value.text?]
  · simp [Value.entry?, Value.record, entry, Function.comp_def]

end Definition

/-! ## Looking a tool up in a registry -/

/-- A registry that is filled answers from what it holds, and looking a tool up leaves the provider
as it was. -/
theorem lookUp_of_registry {σ : Type} {registry : σ → Option (Registry Value)}
    {list : Attempt σ Fault (List Value)} {s : σ} {r : Registry Value} (hr : registry s = some r)
    (name : String) :
    (lookUp registry list name s).2 = s ∧
    ∀ raw, (lookUp registry list name s).1 = .ok raw → ∃ v d, r.lookup name = some v ∧
      Definition.ofValue (some name) v = .ok d ∧ raw = d.toValue := by
  have hlisted : ensureListed (fun s ↦ (registry s).isSome) list s = (.ok (), s) := by
    simp [ensureListed, hr]
  simp only [lookUp, hlisted, hr]
  split
  · exact ⟨rfl, fun raw h ↦ by cases h⟩
  · next v hv =>
    split
    · exact ⟨rfl, fun raw h ↦ by cases h⟩
    · next d hd =>
      refine ⟨rfl, fun raw h ↦ ⟨v, d, hv, hd, ?_⟩⟩
      exact (Except.ok.inj h).symm

end CallTree
