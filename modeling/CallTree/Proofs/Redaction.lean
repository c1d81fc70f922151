import Mathlib
import CallTree.Report.Redact

/-!
# What redaction hides

Redaction is meant to leave nothing of what it blanks. That is a statement about two values and not
about one: whatever is exchanged under the keys of credentials, the result is the same.

`Alike` compares two values that have the same shape and the same scalars, except for some items of
mappings; which items those may be is a parameter, given the key and the two items. A step of
redaction depends on an item in two ways, by its own redaction and by whether it is null
(`redactItem`), so it is enough to know of the exchanged items that they are blanked alike. From
there one recursion along the comparison does the rest (`redact_eq_of_alike`). Keys do not have to
be texts, and two keys of a mapping may become the same text; what comes of them is settled after
all items are redacted, by the keys alone.
-/

namespace CallTree.Report

/-! ## Keys and items -/

/-- A key is named by one of some names: its normal form is the name, or ends with an underscore and
the name. -/
def NamedBy (names : List String) (key : Value) : Prop :=
  ∃ name ∈ names, normalKey key.plainText = name.toList ∨
    ∃ before, normalKey key.plainText = before ++ '_' :: name.toList

theorem matchesKey_iff {names : List String} {key : Value} :
    matchesKey (normalKey key.plainText) names = true ↔ NamedBy names key := by
  rw [matchesKey, List.any_eq_true, NamedBy]
  refine exists_congr fun name ↦ and_congr_right fun _ ↦ ?_
  rw [Bool.or_eq_true, beq_iff_eq, List.isSuffixOf_iff_suffix]
  exact or_congr_right (exists_congr fun _ ↦ eq_comm)

/-- What stands under a key after redaction. -/
def redactItem (allowContent : Bool) (key item : Value) : Value :=
  if matchesKey (normalKey key.plainText) credentialKeys then .str redacted
  else if !allowContent && matchesKey (normalKey key.plainText) contentKeys then
    (if item.isNull then .null else .str redacted)
  else redact allowContent item

theorem redactEntries_cons (allowContent : Bool) (key item : Value) (es : List (Value × Value)) :
    redactEntries allowContent ((key, item) :: es) =
      (.str key.plainText, redactItem allowContent key item) :: redactEntries allowContent es :=
  rfl

theorem redactItem_of_credential {key : Value} (h : NamedBy credentialKeys key)
    (allowContent : Bool) (item : Value) : redactItem allowContent key item = .str redacted := by
  rw [redactItem, if_pos (matchesKey_iff.mpr h)]

/-- Of an item under a content key, only whether it is null is left. -/
theorem redactItem_of_content {key item item' : Value} (h : NamedBy contentKeys key)
    (hnull : item = .null ↔ item' = .null) :
    redactItem false key item = redactItem false key item' := by
  have hisNull : ∀ v : Value, v.isNull = true ↔ v = .null := by
    intro v
    cases v <;> simp [Value.isNull]
  have heq : item.isNull = item'.isNull := by
    rw [Bool.eq_iff_iff, hisNull, hisNull, hnull]
  simp only [redactItem, matchesKey_iff.mpr h, heq, Bool.not_false, Bool.and_self, if_true]

/-! ## Values that differ in some items -/

section

variable (hides : Value → Value → Value → Prop)

mutual

/-- Two values have the same shape and the same scalars, except for items that may differ under
their key. -/
inductive Alike : Value → Value → Prop where
  | same (v : Value) : Alike v v
  | list {xs ys : List Value} (h : AlikeAll xs ys) : Alike (.list xs) (.list ys)
  | tuple {xs ys : List Value} (h : AlikeAll xs ys) : Alike (.tuple xs) (.tuple ys)
  | map {es fs : List (Value × Value)} (h : AlikeEntries es fs) : Alike (.map es) (.map fs)

/-- The values of two lists are alike, one by one. -/
inductive AlikeAll : List Value → List Value → Prop where
  | nil : AlikeAll [] []
  | cons {x y : Value} {xs ys : List Value} (h : Alike x y) (hs : AlikeAll xs ys) :
      AlikeAll (x :: xs) (y :: ys)

/-- Two mappings have the same keys in the same order, and the items under a key are alike or may
differ. -/
inductive AlikeEntries : List (Value × Value) → List (Value × Value) → Prop where
  | nil : AlikeEntries [] []
  | seen {key v w : Value} {es fs : List (Value × Value)} (h : Alike v w)
      (hs : AlikeEntries es fs) : AlikeEntries ((key, v) :: es) ((key, w) :: fs)
  | hidden {key v w : Value} {es fs : List (Value × Value)} (h : hides key v w)
      (hs : AlikeEntries es fs) : AlikeEntries ((key, v) :: es) ((key, w) :: fs)

end

end

/-- What is stored under the keys of credentials may differ. -/
def hidesCredentials (key _ _ : Value) : Prop := NamedBy credentialKeys key

/-- What is stored under the keys of credentials may differ, and under those of content what is not
null. -/
def hidesContent (key item item' : Value) : Prop :=
  NamedBy credentialKeys key ∨ NamedBy contentKeys key ∧ (item = .null ↔ item' = .null)

/-! ## Redaction of alike values -/

section

variable {hides : Value → Value → Value → Prop} {allowContent : Bool}

theorem Alike.isNull_eq {v w : Value} (h : Alike hides v w) : v.isNull = w.isNull := by
  cases h <;> rfl

theorem redactItem_congr {v w : Value} (hnull : v.isNull = w.isNull)
    (hredact : redact allowContent v = redact allowContent w) (key : Value) :
    redactItem allowContent key v = redactItem allowContent key w := by
  rw [redactItem, redactItem, hnull, hredact]

/-- The items that may differ are blanked alike. -/
def BlanksAlike (hides : Value → Value → Value → Prop) (allowContent : Bool) : Prop :=
  ∀ {key v w}, hides key v w → redactItem allowContent key v = redactItem allowContent key w

mutual

/-- **Redaction does not show what is hidden.** -/
theorem redact_eq_of_alike (hhides : BlanksAlike hides allowContent) :
    ∀ {v w : Value}, Alike hides v w → redact allowContent v = redact allowContent w
  | _, _, .same _ => rfl
  | _, _, .list h => by rw [redact, redact, redactAll_eq_of_alike hhides h]
  | _, _, .tuple h => by rw [redact, redact, redactAll_eq_of_alike hhides h]
  | _, _, .map h => by rw [redact, redact, redactEntries_eq_of_alike hhides h]

theorem redactAll_eq_of_alike (hhides : BlanksAlike hides allowContent) :
    ∀ {xs ys : List Value},
      AlikeAll hides xs ys → redactAll allowContent xs = redactAll allowContent ys
  | _, _, .nil => rfl
  | _, _, .cons h hs => by
    rw [redactAll, redactAll, redact_eq_of_alike hhides h, redactAll_eq_of_alike hhides hs]

theorem redactEntries_eq_of_alike (hhides : BlanksAlike hides allowContent) :
    ∀ {es fs : List (Value × Value)},
      AlikeEntries hides es fs → redactEntries allowContent es = redactEntries allowContent fs
  | _, _, .nil => rfl
  | _, _, .seen h hs => by
    have hitem := redactItem_congr h.isNull_eq (redact_eq_of_alike hhides h)
    rw [redactEntries_cons, redactEntries_cons, hitem, redactEntries_eq_of_alike hhides hs]
  | _, _, .hidden h hs => by
    rw [redactEntries_cons, redactEntries_cons, hhides h, redactEntries_eq_of_alike hhides hs]

end

end

section

variable {hides : Value → Value → Value → Prop} {allowContent : Bool}

/-- The items that may differ are hidden whatever they are. -/
def Hides (hides : Value → Value → Value → Prop) (allowContent : Bool) : Prop :=
  ∀ {key v w}, hides key v w → hidesUnder allowContent key = true

mutual

/-- Redaction looks for no key in what is hidden. -/
theorem hasLongKey_eq_of_alike (hhides : Hides hides allowContent) :
    ∀ {v w : Value}, Alike hides v w → hasLongKey allowContent v = hasLongKey allowContent w
  | _, _, .same _ => rfl
  | _, _, .list h => by rw [hasLongKey, hasLongKey, anyHasLongKey_eq_of_alike hhides h]
  | _, _, .tuple h => by rw [hasLongKey, hasLongKey, anyHasLongKey_eq_of_alike hhides h]
  | _, _, .map h => by rw [hasLongKey, hasLongKey, anyLongKey_eq_of_alike hhides h]

theorem anyHasLongKey_eq_of_alike (hhides : Hides hides allowContent) :
    ∀ {xs ys : List Value},
      AlikeAll hides xs ys → anyHasLongKey allowContent xs = anyHasLongKey allowContent ys
  | _, _, .nil => rfl
  | _, _, .cons h hs => by
    rw [anyHasLongKey, anyHasLongKey, hasLongKey_eq_of_alike hhides h,
      anyHasLongKey_eq_of_alike hhides hs]

theorem anyLongKey_eq_of_alike (hhides : Hides hides allowContent) :
    ∀ {es fs : List (Value × Value)},
      AlikeEntries hides es fs → anyLongKey allowContent es = anyLongKey allowContent fs
  | _, _, .nil => rfl
  | _, _, .seen h hs => by
    rw [anyLongKey, anyLongKey, hasLongKey_eq_of_alike hhides h, anyLongKey_eq_of_alike hhides hs]
  | _, _, .hidden h hs => by
    rw [anyLongKey, anyLongKey, hhides h, anyLongKey_eq_of_alike hhides hs]
    rfl

end

end

theorem hides_hidesContent : Hides hidesContent false := by
  intro key v w h
  rw [hidesUnder, Bool.not_false, Bool.true_and, Bool.or_eq_true, matchesKey_iff, matchesKey_iff]
  exact h.imp_right And.left

theorem blanksAlike_hidesCredentials (allowContent : Bool) :
    BlanksAlike hidesCredentials allowContent := by
  intro key v w h
  rw [redactItem_of_credential h, redactItem_of_credential h]

theorem blanksAlike_hidesContent : BlanksAlike hidesContent false := by
  rintro key v w (h | ⟨h, hnull⟩)
  · exact blanksAlike_hidesCredentials false h
  · exact redactItem_of_content h hnull

/-- **Redaction is noninterfering.** Two values that differ only in what is stored under the keys of
credentials, at any depth, have the same redaction, whether content is allowed or not. Where it is
not, they may also differ in what is stored under the keys of content, as long as that is null in
both or in neither. -/
theorem redact_noninterfering {v w : Value} :
    (Alike hidesCredentials v w →
      ∀ allowContent, redact allowContent v = redact allowContent w) ∧
    (Alike hidesContent v w → redact false v = redact false w) :=
  ⟨fun h allowContent ↦ redact_eq_of_alike (blanksAlike_hidesCredentials allowContent) h,
    redact_eq_of_alike blanksAlike_hidesContent⟩

/-- A request with headers in a tuple; the two keys of its last mapping become the same text. -/
def requestWith (key messages : Value) : Value :=
  .record [("model", .str "small"),
    ("headers", .tuple [.record [("X-Api-Key", key), ("Accept", .str "text")]]),
    ("messages", messages),
    ("limits", .map [(.int 1, .record [("token", key)]), (.str "1", .int 2)])]

theorem redact_noninterfering_requestWith :
    (∀ allowContent,
      redact allowContent (requestWith (.str "sk-first") (.list [.str "Hello"])) =
        redact allowContent (requestWith (.list [.null]) (.list [.str "Hello"]))) ∧
    redact false (requestWith (.str "sk-first") (.list [.str "Hello"])) =
      redact false (requestWith .null (.str "Goodbye")) := by
  have hkey : NamedBy credentialKeys (.str "X-Api-Key") := matchesKey_iff.mp (by cbv)
  have htoken : NamedBy credentialKeys (.str "token") := matchesKey_iff.mp (by cbv)
  have hmessages : NamedBy contentKeys (.str "messages") := matchesKey_iff.mp (by cbv)
  refine ⟨redact_noninterfering.1 ?_, redact_noninterfering.2 ?_⟩
  · exact .map (.seen (.same _) (.seen (.tuple (.cons (.map (.hidden hkey
      (.seen (.same _) .nil))) .nil)) (.seen (.same _)
      (.seen (.map (.seen (.map (.hidden htoken .nil)) (.seen (.same _) .nil))) .nil))))
  · exact .map (.seen (.same _) (.seen (.tuple (.cons (.map (.hidden (Or.inl hkey)
      (.seen (.same _) .nil))) .nil)) (.hidden (Or.inr ⟨hmessages, by simp⟩)
      (.seen (.map (.seen (.map (.hidden (Or.inl htoken) .nil)) (.seen (.same _) .nil))) .nil))))

end CallTree.Report
