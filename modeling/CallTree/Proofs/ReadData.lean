import CallTree.Json.Read
import CallTree.Proofs.Definitions
import CallTree.Proofs.LogLines

/-!
# What is read is data

The reader recurses on a bound that all its three parts count down. `Reads` says of one bound what
each part gives, and is carried from one bound to the next. It does so for every property of values
that the reader's own steps keep (`Gathers`), so that the recursion is opened only once. One such
property is to be data with texts as keys (`data_of_read`).
-/

namespace CallTree.Report

open CallTree.Json CallTree.Value

/-- Digits stand for less than a one with as many zeros. -/
theorem ofDigits_lt {ds : List Nat} (h : ∀ d ∈ ds, d < 10) :
    Text.ofDigits 10 ds < 10 ^ ds.length := by
  suffices hfold : ∀ n, ds.foldl (fun n d ↦ 10 * n + d) n < (n + 1) * 10 ^ ds.length by
    simpa [Text.ofDigits] using hfold 0
  induction ds with
  | nil => exact fun n ↦ by simp
  | cons d ds ih =>
    obtain ⟨hd, hds⟩ := List.forall_mem_cons.mp h
    intro n
    calc (d :: ds).foldl (fun n d ↦ 10 * n + d) n
        < (10 * n + d + 1) * 10 ^ ds.length := ih hds (10 * n + d)
      _ ≤ (10 * (n + 1)) * 10 ^ ds.length := Nat.mul_le_mul_right _ (by omega)
      _ = (n + 1) * 10 ^ (d :: ds).length := by rw [List.length_cons, Nat.pow_succ]; ring

theorem lt_of_mem_takeWhole {cs : List Char} {d : Nat} (h : d ∈ (takeWhole cs).1) : d < 10 := by
  rw [takeWhole.eq_def] at h
  split at h
  · rw [List.mem_singleton.mp h]
    decide
  · obtain ⟨c, hc, hd⟩ := List.mem_filterMap.mp h
    rw [Text.asciiDigit?] at hd
    split at hd
    · next hdigit =>
      have hle : c.toNat ≤ 57 := (Char.isDigit_iff_toNat.mp hdigit).2
      obtain rfl := Option.some.inj hd
      omega
    · cases hd

/-- A property of values holds of what has no parts, where whole numbers are not too long to be
written, and every step in which the reader puts a list or a mapping together keeps it. -/
structure Gathers (P : Value → Prop) : Prop where
  null : P .null
  bool : ∀ b, P (.bool b)
  int : ∀ n, Decimal.isLong n = false → P (.int n)
  float : ∀ x, P (.float x)
  str : ∀ s, P (.str s)
  list : ∀ {xs}, (∀ x ∈ xs, P x) → P (.list xs)
  empty : P (.map [])
  put : ∀ {s v es}, P v → P (.map es) → P (.map (put (.str s) v es))

/-- With this bound every part of the reader gives values with the property, from values with the
property that were read before. -/
structure Reads (P : Value → Prop) (fuel : Nat) : Prop where
  value : ∀ {pos cs r}, readValue fuel pos cs = .ok r → P r.1
  items : ∀ {acc pos cs r}, (∀ v ∈ acc, P v) → readItems fuel acc pos cs = .ok r → P r.1
  entries : ∀ {acc pos cs r}, P (.map acc) → readEntries fuel acc pos cs = .ok r → P r.1

namespace Gathers

variable {P : Value → Prop} {fuel pos : Nat} {cs : List Char} {r : Read Value}

theorem of_readNumber (hP : Gathers P) (h : readNumber pos cs = .ok r) : P r.1 := by
  rw [readNumber.eq_def] at h
  simp only at h
  split at h
  · cases h
  · next whole _ _ hwhole =>
    split at h
    · split at h
      · cases h
      · next hlength =>
        cases h
        have hlt : Text.ofDigits 10 whole < 10 ^ whole.length :=
          ofDigits_lt fun d hd ↦ lt_of_mem_takeWhole (by rwa [hwhole])
        have habs : ∀ neg : Bool, (if neg then -(Text.ofDigits 10 whole : Int)
            else Text.ofDigits 10 whole).natAbs = Text.ofDigits 10 whole := by
          intro neg
          cases neg with
          | true => exact (Int.natAbs_neg _).trans (Int.natAbs_natCast _)
          | false => exact Int.natAbs_natCast _
        refine hP.int _ (isLong_eq_false_iff.mpr ((habs _).trans_lt ?_))
        exact hlt.trans_le (Nat.pow_le_pow_right (by decide) (Nat.not_lt.mp hlength))
    · cases h
      exact hP.float _

theorem value_succ (hP : Gathers P) (ih : Reads P fuel)
    (h : readValue (fuel + 1) pos cs = .ok r) : P r.1 := by
  rw [readValue.eq_def] at h
  simp only at h
  -- the cases are those of the first character, in the order in which they are tried
  split at h
  · obtain ⟨s, -, h⟩ := except_bind_eq_ok_iff.mp h
    cases h
    exact hP.str _
  · split at h
    · cases h
      exact hP.empty
    · exact ih.entries hP.empty h
  · split at h
    · cases h
      exact hP.list fun _ h ↦ absurd h List.not_mem_nil
    · exact ih.items (fun _ h ↦ absurd h List.not_mem_nil) h
  · cases h
    exact hP.null
  · cases h
    exact hP.bool _
  · cases h
    exact hP.bool _
  · cases h
    exact hP.float _
  · cases h
    exact hP.float _
  · cases h
    exact hP.float _
  · exact hP.of_readNumber h

theorem items_succ (hP : Gathers P) (ih : Reads P fuel) {acc : List Value}
    (hacc : ∀ v ∈ acc, P v) (h : readItems (fuel + 1) acc pos cs = .ok r) : P r.1 := by
  rw [readItems] at h
  obtain ⟨v, hv, h⟩ := except_bind_eq_ok_iff.mp h
  have hall : ∀ x ∈ v.1 :: acc, P x := List.forall_mem_cons.mpr ⟨ih.value hv, hacc⟩
  simp only at h
  split at h
  · cases h
    exact hP.list fun x hx ↦ hall x (List.mem_reverse.mp hx)
  · exact ih.items hall h
  · cases h

theorem entries_succ (hP : Gathers P) (ih : Reads P fuel) {acc : List (Value × Value)}
    (hacc : P (.map acc)) (h : readEntries (fuel + 1) acc pos cs = .ok r) : P r.1 := by
  rw [readEntries.eq_def] at h
  simp only at h
  split at h
  · obtain ⟨k, -, h⟩ := except_bind_eq_ok_iff.mp h
    split at h
    · obtain ⟨v, hv, h⟩ := except_bind_eq_ok_iff.mp h
      have hput : P (.map (Value.put (.str (String.ofList k.1)) v.1 acc)) :=
        hP.put (ih.value hv) hacc
      split at h
      · cases h
        exact hput
      · exact ih.entries hput h
      · cases h
    · cases h
  · cases h

theorem reads (hP : Gathers P) (fuel : Nat) : Reads P fuel := by
  induction fuel with
  | zero =>
    refine ⟨fun h ↦ ?_, fun _ h ↦ ?_, fun _ h ↦ ?_⟩
    · rw [readValue] at h
      cases h
    · rw [readItems] at h
      cases h
    · rw [readEntries] at h
      cases h
  | succ fuel ih => exact ⟨hP.value_succ ih, hP.items_succ ih, hP.entries_succ ih⟩

/-- **What every step of the reader keeps holds of what is read.** -/
theorem of_read (hP : Gathers P) {s : String} {v : Value} (h : Json.read s = .ok v) : P v := by
  rw [Json.read, readChars] at h
  split at h
  · cases h
  · simp only at h
    split at h
    · cases h
    · next hv =>
      split at h
      · cases h
        exact (hP.reads _).value hv
      · cases h

end Gathers

theorem data_nil : Data IsText (.map []) :=
  .map (fun _ h ↦ absurd h List.not_mem_nil) fun _ h ↦ absurd h List.not_mem_nil

theorem data_put {s : String} {v : Value} {es : List (Value × Value)} (hv : Data IsText v)
    (hes : Data IsText (.map es)) : Data IsText (.map (put (.str s) v es)) := by
  have hs : IsText (.str s) := ⟨s, rfl⟩
  cases hes with
  | map hkeys hitems =>
    refine .map (Entries.keysIn_put tells_isText hs hkeys) fun e he ↦ ?_
    rcases Entries.mem_of_mem_put tells_isText hs hkeys he with rfl | he
    · exact hv
    · exact hitems e he

/-- **What is read is data**, with texts as keys. -/
theorem data_of_read {s : String} {v : Value} (h : Json.read s = .ok v) : Data IsText v :=
  have hdata : Gathers (Data IsText) :=
    ⟨.null, .bool, fun n _ ↦ .int n, .float, .str, .list, data_nil, data_put⟩
  hdata.of_read h

/-- The numbers in what is read are not too long to be written. -/
theorem hasLong_of_read {s : String} {v : Value} (h : Json.read s = .ok v) : v.hasLong = false := by
  have hshort : Gathers fun v ↦ Data IsText v ∧ v.hasLong = false := by
    refine ⟨⟨.null, rfl⟩, fun b ↦ ⟨.bool b, rfl⟩, fun n hn ↦ ⟨.int n, hn⟩, fun x ↦ ⟨.float x, rfl⟩,
      fun s ↦ ⟨.str s, rfl⟩, fun hxs ↦ ?_, ⟨data_nil, rfl⟩, fun {s v es} hv hes ↦ ?_⟩
    · exact ⟨.list fun x hx ↦ (hxs x hx).1, hasLong_list_iff.mpr fun x hx ↦ (hxs x hx).2⟩
    · refine ⟨data_put hv.1 hes.1, hasLong_map_iff.mpr fun e he ↦ ?_⟩
      cases hes.1 with
      | map hkeys _ =>
        rcases Entries.mem_of_mem_put tells_isText ⟨s, rfl⟩ hkeys he with rfl | he
        · exact ⟨rfl, hv.2⟩
        · exact hasLong_map_iff.mp hes.2 e he
  exact (hshort.of_read h).2

end CallTree.Report
