import CallTree.Proofs.Definitions
import CallTree.Proofs.Effects
import CallTree.Proofs.Pieces
import CallTree.Proofs.ReadBack
import CallTree.Release.Check

/-!
# Release tags

The version in a tag is three numerals, and a numeral is a zero or begins with another digit. Only
the first digit has to be one of the usual ten: behind it, digits of all scripts count. Which
scripts have digits is left open, everything here holds for every class of digits. So there are two
kinds of versions, the canonical ones, which are written with the numbers that they stand for, and
those with a digit of another script in them. A version is never both, and it is canonical exactly
if all its characters are in the ASCII range.

A release that is in order has its version in the settings of the project and the heading for it in
the changelog. The heading is looked up anywhere in the changelog, also within a line.
-/

namespace CallTree.Release

open CallTree.Files

/-! ## Versions -/

/-- Characters are a zero, or a digit other than zero and digits of the class. -/
inductive Numeral (digits : Text.DigitClass) : List Char → Prop where
  | zero : Numeral digits ['0']
  | digits {c : Char} {cs : List Char} (hc : '1' ≤ c ∧ c ≤ '9')
      (hcs : ∀ d ∈ cs, digits.holds d = true) : Numeral digits (c :: cs)

/-- A text is three numerals with points between them. -/
def IsStable (digits : Text.DigitClass) (version : String) : Prop :=
  ∃ x y z, Numeral digits x ∧ Numeral digits y ∧ Numeral digits z ∧
    version.toList = x ++ '.' :: (y ++ '.' :: z)

/-- A text is the decimal numerals of three numbers with points between them. -/
def IsCanonical (version : String) : Prop :=
  ∃ x y z : Nat, version = toString x ++ "." ++ toString y ++ "." ++ toString z

/-- A version has a digit of another script in it. -/
def IsForeign (digits : Text.DigitClass) (version : String) : Prop :=
  IsStable digits version ∧ ¬ Ascii version.toList

variable {digits : Text.DigitClass}

theorem isNumeral_iff {cs : List Char} : isNumeral digits cs = true ↔ Numeral digits cs := by
  constructor
  · intro h
    cases cs with
    | nil => cases h
    | cons c cs =>
      simp only [isNumeral, Bool.or_eq_true, Bool.and_eq_true, beq_iff_eq, decide_eq_true_eq,
        List.isEmpty_iff, List.all_eq_true] at h
      rcases h with ⟨rfl, rfl⟩ | ⟨hc, hcs⟩
      · exact .zero
      · exact .digits hc hcs
  · intro h
    cases h with
    | zero => rfl
    | digits hc hcs =>
      simp only [isNumeral, Bool.or_eq_true, Bool.and_eq_true, decide_eq_true_eq,
        List.all_eq_true]
      exact Or.inr ⟨hc, hcs⟩

theorem Numeral.point_not_mem {cs : List Char} (h : Numeral digits cs) : '.' ∉ cs := by
  cases h with
  | zero => decide
  | @digits c cs hc hcs =>
    intro hmem
    rcases List.mem_cons.mp hmem with rfl | hmem
    · exact absurd hc (by decide)
    · have hpoint := hcs _ hmem
      rw [digits.ascii (by decide)] at hpoint
      exact absurd hpoint (by decide)

theorem span_point {x rest : List Char} (hx : '.' ∉ x) :
    (x ++ '.' :: rest).span (· != '.') = (x, '.' :: rest) := by
  have hall : ∀ c ∈ x, (c != '.') = true := by
    intro c hc
    rw [bne_iff_ne]
    rintro rfl
    exact hx hc
  rw [List.span_eq_takeWhile_dropWhile, List.takeWhile_append_of_pos hall,
    List.dropWhile_append_of_pos hall]
  simp

theorem areNumerals_iff {n : Nat} {cs : List Char} : areNumerals digits (n + 2) cs = true ↔
    ∃ x rest, Numeral digits x ∧ areNumerals digits (n + 1) rest = true ∧
      cs = x ++ '.' :: rest := by
  rw [areNumerals.eq_3 digits cs (n + 1) (by omega)]
  constructor
  · intro h
    split at h
    · next x rest hspan =>
      rw [Bool.and_eq_true, isNumeral_iff] at h
      refine ⟨x, rest, h.1, h.2, ?_⟩
      rw [List.span_eq_takeWhile_dropWhile, Prod.mk.injEq] at hspan
      rw [← hspan.1, ← hspan.2, List.takeWhile_append_dropWhile]
    · cases h
  · rintro ⟨x, rest, hx, hrest, rfl⟩
    rw [span_point hx.point_not_mem]
    simp only [isNumeral_iff.mpr hx, hrest, Bool.and_self]

/-- The version of a tag is what stands behind its mark, if that is a version. -/
theorem version?_eq_some_iff {tag version : String} :
    version? digits tag = some version ↔ tag = "v" ++ version ∧ IsStable digits version := by
  have hstable : ∀ {cs : List Char},
      areNumerals digits 3 cs = true ↔ IsStable digits (String.ofList cs) := by
    intro cs
    rw [IsStable, String.toList_ofList, areNumerals_iff]
    constructor
    · rintro ⟨x, rest, hx, hrest, rfl⟩
      obtain ⟨y, z, hy, hz, rfl⟩ := areNumerals_iff.mp hrest
      exact ⟨x, y, z, hx, hy, isNumeral_iff.mp hz, rfl⟩
    · rintro ⟨x, y, z, hx, hy, hz, rfl⟩
      exact ⟨x, _, hx, areNumerals_iff.mpr ⟨y, z, hy, isNumeral_iff.mpr hz, rfl⟩, rfl⟩
  rw [version?, ← String.toList_inj, String.toList_append]
  constructor
  · intro h
    split at h
    · next cs htag =>
      split at h
      · next hcs =>
        obtain rfl := Option.some.inj h
        refine ⟨?_, hstable.mp hcs⟩
        rw [htag, String.toList_ofList, String.toList_ofList, List.singleton_append]
      · cases h
    · cases h
  · rintro ⟨htag, h⟩
    rw [htag]
    rw [← version.ofList_toList] at h
    show (if areNumerals digits 3 version.toList then some (String.ofList version.toList)
      else none) = _
    rw [if_pos (hstable.mpr h), String.ofList_toList]

/-! ## Canonical versions -/

theorem isDigit_iff {c : Char} : c.isDigit = true ↔ 48 ≤ c.toNat ∧ c.toNat < 58 := by
  rw [Char.isDigit, Bool.and_eq_true, decide_eq_true_eq, decide_eq_true_eq, ge_iff_le,
    UInt32.le_iff_toNat_le, UInt32.le_iff_toNat_le]
  show 48 ≤ c.toNat ∧ c.toNat ≤ 57 ↔ _
  omega

theorem exists_digitChar {c : Char} (h : c.isDigit = true) : ∃ d < 10, c = d.digitChar := by
  obtain ⟨hle, hlt⟩ := isDigit_iff.mp h
  refine ⟨c.toNat - 48, by omega, ?_⟩
  rw [← Char.toNat_inj, Nat.toNat_digitChar_of_lt_ten (by omega)]
  omega

/-- Digits behind the numeral of a number make the numeral of another. -/
theorem exists_toDigits_append {n : Nat} (hn : 0 < n) {cs : List Char}
    (hcs : ∀ c ∈ cs, c.isDigit = true) : ∃ m, Nat.toDigits 10 n ++ cs = Nat.toDigits 10 m := by
  induction cs generalizing n with
  | nil => exact ⟨n, List.append_nil _⟩
  | cons c cs ih =>
    rw [List.forall_mem_cons] at hcs
    obtain ⟨d, hd, rfl⟩ := exists_digitChar hcs.1
    obtain ⟨m, hm⟩ := ih (n := 10 * n + d) (by omega) hcs.2
    refine ⟨m, ?_⟩
    rw [← hm, ← Nat.toDigits_append_toDigits (by decide) hn hd, Nat.toDigits_of_lt_base hd,
      List.append_assoc, List.singleton_append]

theorem one_le_and_le_nine_iff {c : Char} : '1' ≤ c ∧ c ≤ '9' ↔ 49 ≤ c.toNat ∧ c.toNat < 58 := by
  rw [Char.le_def, Char.le_def, UInt32.le_iff_toNat_le, UInt32.le_iff_toNat_le]
  show 49 ≤ c.toNat ∧ c.toNat ≤ 57 ↔ _
  omega

/-- The numerals in the ASCII range are those of the numbers. -/
theorem numeral_and_ascii_iff {cs : List Char} :
    Numeral digits cs ∧ Ascii cs ↔ ∃ n, cs = Nat.toDigits 10 n := by
  constructor
  · rintro ⟨h, hascii⟩
    cases h with
    | zero => exact ⟨0, rfl⟩
    | @digits c cs hc hcs =>
      obtain ⟨-, htail⟩ := List.forall_mem_cons.mp hascii
      rw [one_le_and_le_nine_iff] at hc
      obtain ⟨d, hd, rfl⟩ := exists_digitChar (isDigit_iff.mpr ⟨by omega, hc.2⟩)
      rw [Nat.toNat_digitChar_of_lt_ten hd] at hc
      have hdigits : ∀ e ∈ cs, e.isDigit = true :=
        fun e he ↦ (digits.ascii (htail e he)).symm.trans (hcs e he)
      obtain ⟨m, hm⟩ := exists_toDigits_append (n := d) (by omega) hdigits
      refine ⟨m, ?_⟩
      rw [← hm, Nat.toDigits_of_lt_base hd, List.singleton_append]
  · rintro ⟨n, rfl⟩
    have hdigits : ∀ c ∈ Nat.toDigits 10 n, c.isDigit = true :=
      fun c ↦ Nat.isDigit_of_mem_toDigits (by decide) (by decide)
    have hascii : Ascii (Nat.toDigits 10 n) := by
      intro c hc
      have := isDigit_iff.mp (hdigits c hc)
      omega
    refine ⟨?_, hascii⟩
    by_cases hn : n = 0
    · subst hn
      exact .zero
    · obtain ⟨c, cs, hcs⟩ := List.exists_cons_of_ne_nil (Nat.toDigits_ne_nil (n := n) (b := 10))
      have hhead := Json.head?_toDigits hn
      rw [hcs] at hdigits hascii hhead ⊢
      obtain ⟨hc, hdigits⟩ := List.forall_mem_cons.mp hdigits
      obtain ⟨-, hascii⟩ := List.forall_mem_cons.mp hascii
      refine .digits ?_ fun d hd ↦ (digits.ascii (hascii d hd)).trans (hdigits d hd)
      -- it is one of the usual digits, and not zero
      have hne : c.toNat ≠ 48 := fun h ↦ hhead (congrArg some (Char.toNat_inj.mp h))
      have := isDigit_iff.mp hc
      rw [one_le_and_le_nine_iff]
      omega

theorem ascii_append_iff {as bs : List Char} : Ascii (as ++ bs) ↔ Ascii as ∧ Ascii bs :=
  List.forall_mem_append

theorem ascii_point_cons_iff {cs : List Char} : Ascii ('.' :: cs) ↔ Ascii cs := by
  rw [Ascii, List.forall_mem_cons]
  exact and_iff_right (by decide)

/-- The canonical versions are those in the ASCII range. -/
theorem isCanonical_iff (digits : Text.DigitClass) {version : String} :
    IsCanonical version ↔ IsStable digits version ∧ Ascii version.toList := by
  have htext : ∀ x y z : Nat, (toString x ++ "." ++ toString y ++ "." ++ toString z).toList =
      Nat.toDigits 10 x ++ '.' :: (Nat.toDigits 10 y ++ '.' :: Nat.toDigits 10 z) := by
    intro x y z
    simp
  constructor
  · rintro ⟨x, y, z, rfl⟩
    obtain ⟨hx, hx'⟩ := numeral_and_ascii_iff.mpr ⟨x, rfl⟩
    obtain ⟨hy, hy'⟩ := numeral_and_ascii_iff.mpr ⟨y, rfl⟩
    obtain ⟨hz, hz'⟩ := numeral_and_ascii_iff.mpr ⟨z, rfl⟩
    refine ⟨⟨_, _, _, hx, hy, hz, htext x y z⟩, ?_⟩
    rw [htext, ascii_append_iff, ascii_point_cons_iff, ascii_append_iff, ascii_point_cons_iff]
    exact ⟨hx', hy', hz'⟩
  · rintro ⟨⟨as, bs, cs, has, hbs, hcs, hversion⟩, hascii⟩
    rw [hversion, ascii_append_iff, ascii_point_cons_iff, ascii_append_iff,
      ascii_point_cons_iff] at hascii
    obtain ⟨x, rfl⟩ := numeral_and_ascii_iff.mp ⟨has, hascii.1⟩
    obtain ⟨y, rfl⟩ := numeral_and_ascii_iff.mp ⟨hbs, hascii.2.1⟩
    obtain ⟨z, rfl⟩ := numeral_and_ascii_iff.mp ⟨hcs, hascii.2.2⟩
    refine ⟨x, y, z, ?_⟩
    rw [← String.toList_inj, htext, hversion]

theorem isStable_iff {version : String} :
    IsStable digits version ↔ IsCanonical version ∨ IsForeign digits version := by
  rw [isCanonical_iff digits, IsForeign, ← and_or_left]
  exact (and_iff_left (em _)).symm

theorem IsForeign.not_isCanonical {version : String} (h : IsForeign digits version) :
    ¬ IsCanonical version :=
  fun hcanonical ↦ h.2 ((isCanonical_iff digits).mp hcanonical).2

/-! ## Releases in order -/

/-- The settings of a project give a version. -/
def HasVersion (f : Folder) (root : Path) (version : String) : Prop :=
  ∃ settings, f.read (root.child "pyproject.toml") = .ok settings ∧
    projectVersion settings = .ok (.text version)

/-- The changelog of a project has the heading for a version somewhere in its text. -/
def HasMark (f : Folder) (root : Path) (version : String) : Prop :=
  ∃ log, f.read (root.child "CHANGELOG.md") = .ok log ∧
    (sectionMark version).toList <:+: log.toList

/-- What follows stands at the start of a line. -/
def StartsLine (before : List Char) : Prop := before = [] ∨ before.getLast? = some '\n'

/-- The changelog of a project has a section for a version: a line that starts with the heading. -/
def HasSection (f : Folder) (root : Path) (version : String) : Prop :=
  ∃ log, f.read (root.child "CHANGELOG.md") = .ok log ∧ ∃ before after,
    log.toList = before ++ (sectionMark version).toList ++ after ∧ StartsLine before

theorem HasSection.hasMark {f : Folder} {root : Path} {version : String}
    (h : HasSection f root version) : HasMark f root version := by
  obtain ⟨log, hlog, before, after, heq, -⟩ := h
  exact ⟨log, hlog, before, after, heq.symm⟩

theorem isText_iff {s : String} {item : Toml.Item} : isText s item = true ↔ item = .text s := by
  cases item with
  | text t => rw [isText, beq_iff_eq, Toml.Item.text.injEq]
  | _ => simp [isText]

/-- **A release is in order** exactly if its tag has a version that the settings give and the
changelog has the heading for. -/
theorem validateIn_eq_ok_iff {f : Folder} {root : Path} {tag version : String} :
    validateIn digits f root tag = .ok version ↔
      version? digits tag = some version ∧ HasVersion f root version ∧ HasMark f root version := by
  constructor
  · intro h
    rw [validateIn, validate] at h
    split at h
    · next v hv =>
      obtain ⟨settings, hsettings, h⟩ := except_bind_eq_ok_iff.mp h
      obtain ⟨found, hfound, h⟩ := except_bind_eq_ok_iff.mp h
      dsimp only at h
      split at h
      · cases h
      · next htext =>
        obtain ⟨log, hlog, h⟩ := except_bind_eq_ok_iff.mp h
        split at h
        · cases h
        · next hmark =>
          obtain rfl := Except.ok.inj h
          rw [Bool.not_eq_true', Bool.not_eq_false] at htext hmark
          rw [isText_iff] at htext
          rw [occursIn_iff] at hmark
          rw [Effect.mapError_eq_ok_iff] at hsettings hlog
          exact ⟨hv, ⟨settings, hsettings, htext ▸ hfound⟩, log, hlog, hmark⟩
    · cases h
  · rintro ⟨hversion, ⟨settings, hsettings, hfound⟩, log, hlog, hmark⟩
    have htext : isText version (.text version) = true := isText_iff.mpr rfl
    rw [← occursIn_iff] at hmark
    rw [validateIn, validate, hversion, hsettings, hlog]
    simp only [Except.mapError, bind, Except.bind, hfound, htext, hmark]
    rfl

theorem validateIn_of_no_version {f : Folder} {root : Path} {tag : String}
    (h : version? digits tag = none) : validateIn digits f root tag = .error .badTag := by
  rw [validateIn, validate, h]
  rfl

/-- What is behind the mark of a tag, and all of a tag without a mark. -/
def unmarked (tag : String) : String :=
  match tag.toList with
  | 'v' :: cs => String.ofList cs
  | _ => tag

theorem unmarked_append (version : String) : unmarked ("v" ++ version) = version := by
  have htag : ("v" ++ version).toList = 'v' :: version.toList := by
    rw [String.toList_append]
    rfl
  rw [unmarked, htag]
  exact String.ofList_toList

/-- **Tags of releases.** A release is in order exactly if its tag is a mark and a version, the
settings of the project give this version and the changelog has its heading; no other tag is taken,
whatever the files are. A version is canonical or has a digit of another script, and not both. So in
a project that agrees with a tag, the tag is taken exactly if it is canonical, unless it has a digit
of another script: then it is not canonical, and is taken. The heading starts a section of the
changelog if such headings stand nowhere but at the start of lines. -/
theorem releases_accepted (digits : Text.DigitClass) (f : Folder) (root : Path) (tag : String) :
    (∀ version, validateIn digits f root tag = .ok version ↔
      tag = "v" ++ version ∧ IsStable digits version ∧ HasVersion f root version ∧
        HasMark f root version) ∧
    ((∀ version, tag = "v" ++ version → ¬ IsStable digits version) →
      validateIn digits f root tag = .error .badTag) ∧
    (∀ version, (IsStable digits version ↔ IsCanonical version ∨ IsForeign digits version) ∧
      ¬ (IsCanonical version ∧ IsForeign digits version)) ∧
    (HasVersion f root (unmarked tag) → HasSection f root (unmarked tag) →
      ((∀ version, validateIn digits f root tag = .ok version ↔
          tag = "v" ++ version ∧ IsCanonical version) ↔
        ¬ (tag = "v" ++ unmarked tag ∧ IsForeign digits (unmarked tag)))) ∧
    ∀ version log, validateIn digits f root tag = .ok version →
      f.read (root.child "CHANGELOG.md") = .ok log →
      (∀ before after, log.toList = before ++ "## [".toList ++ after → StartsLine before) →
        HasSection f root version := by
  have haccepted : ∀ version, validateIn digits f root tag = .ok version ↔
      tag = "v" ++ version ∧ IsStable digits version ∧ HasVersion f root version ∧
        HasMark f root version := by
    intro version
    rw [validateIn_eq_ok_iff, version?_eq_some_iff, and_assoc]
  refine ⟨haccepted, ?_, ?_, ?_, ?_⟩
  · intro h
    refine validateIn_of_no_version (Option.eq_none_iff_forall_ne_some.mpr ?_)
    intro version hversion
    obtain ⟨htag, hstable⟩ := version?_eq_some_iff.mp hversion
    exact h version htag hstable
  · exact fun version ↦ ⟨isStable_iff, fun h ↦ h.2.not_isCanonical h.1⟩
  · intro hversion hsection
    constructor
    · rintro h ⟨htag, hforeign⟩
      have hok := (haccepted _).mpr ⟨htag, hforeign.1, hversion, hsection.hasMark⟩
      exact hforeign.not_isCanonical ((h _).mp hok).2
    · intro hforeign version
      rw [haccepted]
      constructor
      · rintro ⟨rfl, hstable, -, -⟩
        rw [unmarked_append] at hforeign
        refine ⟨rfl, ?_⟩
        rcases isStable_iff.mp hstable with hcanonical | hother
        · exact hcanonical
        · exact absurd ⟨rfl, hother⟩ hforeign
      · rintro ⟨rfl, hcanonical⟩
        rw [unmarked_append] at hversion hsection
        exact ⟨rfl, ((isCanonical_iff digits).mp hcanonical).1, hversion, hsection.hasMark⟩
  · intro version log hok hlog hheads
    obtain ⟨-, -, -, log', hlog', before, after, heq⟩ := (haccepted version).mp hok
    obtain rfl := Except.ok.inj (hlog'.symm.trans hlog)
    refine ⟨log', hlog, before, after, heq.symm, ?_⟩
    refine hheads before (version.toList ++ ']' :: after) ?_
    rw [← heq]
    simp [sectionMark]

/-- A project with the given settings and changelog, in the folder that it is looked up in. -/
def projectFolder (settings changelog : String) : Folder :=
  .ofFiles [(⟨false, ["pyproject.toml"]⟩, settings), (⟨false, ["CHANGELOG.md"]⟩, changelog)]

/-- A project at a release in the usual digits. -/
def plainProject : Folder :=
  projectFolder "[project]\nversion = \"1.20.0\"\n" "## [1.20.0]\n"

theorem plainProject_log :
    plainProject.read (Path.child ⟨false, []⟩ "CHANGELOG.md") = .ok "## [1.20.0]\n" := by cbv

theorem plainProject_agrees :
    HasVersion plainProject ⟨false, []⟩ "1.20.0" ∧ HasSection plainProject ⟨false, []⟩ "1.20.0" :=
  ⟨⟨"[project]\nversion = \"1.20.0\"\n", by cbv, by cbv⟩,
    "## [1.20.0]\n", plainProject_log, [], ['\n'], by cbv, Or.inl rfl⟩

/-- The only heading of this project is at the start of its changelog. -/
theorem plainProject_headings (before after : List Char)
    (h : "## [1.20.0]\n".toList = before ++ "## [".toList ++ after) : StartsLine before := by
  have hfirst : ∀ n < 13,
      "## [".toList.isPrefixOf ("## [1.20.0]\n".toList.drop n) = true → n = 0 := by
    decide +kernel
  have hlength : before.length < 13 := by
    have := congrArg List.length h
    simp only [List.length_append] at this
    have hlog : "## [1.20.0]\n".toList.length = 12 := by decide +kernel
    omega
  refine Or.inl (List.eq_nil_of_length_eq_zero (hfirst _ hlength ?_))
  rw [List.isPrefixOf_iff_prefix, h, List.append_assoc, List.drop_left]
  exact List.prefix_append _ _

theorem releases_accepted_plain :
    HasVersion plainProject ⟨false, []⟩ "1.20.0" ∧ HasSection plainProject ⟨false, []⟩ "1.20.0" ∧
      IsCanonical "1.20.0" ∧
      validateIn Text.decimalDigits plainProject ⟨false, []⟩ "v1.20.0" = .ok "1.20.0" ∧
      (∀ version, validateIn Text.decimalDigits plainProject ⟨false, []⟩ "v1.20.0" = .ok version ↔
        "v1.20.0" = "v" ++ version ∧ IsCanonical version) ∧
      (∀ before after, "## [1.20.0]\n".toList = before ++ "## [".toList ++ after →
        StartsLine before) ∧
      HasSection plainProject ⟨false, []⟩ "1.20.0" ∧
      version? Text.decimalDigits "v01.20.0" = none ∧
      validateIn Text.decimalDigits plainProject ⟨false, []⟩ "v01.20.0" = .error .badTag := by
  obtain ⟨hversion, hsection⟩ := plainProject_agrees
  obtain ⟨-, -, -, hiff, hheads⟩ :=
    releases_accepted Text.decimalDigits plainProject ⟨false, []⟩ "v1.20.0"
  obtain ⟨-, hrefused, -⟩ :=
    releases_accepted Text.decimalDigits plainProject ⟨false, []⟩ "v01.20.0"
  have hcanonical : IsCanonical "1.20.0" := ⟨1, 20, 0, by decide +kernel⟩
  have hnone : version? Text.decimalDigits "v01.20.0" = none := by cbv
  have hunmarked : unmarked "v1.20.0" = "1.20.0" := by cbv
  rw [hunmarked] at hiff
  have htag : ∀ version,
      validateIn Text.decimalDigits plainProject ⟨false, []⟩ "v1.20.0" = .ok version ↔
      "v1.20.0" = "v" ++ version ∧ IsCanonical version :=
    (hiff hversion hsection).mpr fun h ↦ h.2.not_isCanonical hcanonical
  have hok : validateIn Text.decimalDigits plainProject ⟨false, []⟩ "v1.20.0" = .ok "1.20.0" :=
    (htag _).mpr ⟨by decide +kernel, hcanonical⟩
  refine ⟨hversion, hsection, hcanonical, hok, htag, plainProject_headings, ?_, hnone, ?_⟩
  · exact hheads _ _ hok plainProject_log plainProject_headings
  · refine hrefused fun version htag hstable ↦ ?_
    rw [version?_eq_some_iff.mpr ⟨htag, hstable⟩] at hnone
    cases hnone

/-- A project at a release in the digits of two scripts. -/
def mixedProject : Folder :=
  projectFolder "[project]\nversion = \"1\u0663.0.0\"\n" "## [1\u0663.0.0]\n"

/-- A project whose changelog mentions a section that it does not have. -/
def mentioningProject : Folder :=
  projectFolder "[project]\nversion = \"1.2.3\"\n" "See ## [1.2.3]"

/-- A tag with a digit of another script is taken, and so is a release without a section. -/
theorem other_digits_and_mentions_accepted :
    (HasVersion mixedProject ⟨false, []⟩ "1\u0663.0.0" ∧
      HasSection mixedProject ⟨false, []⟩ "1\u0663.0.0" ∧
      validateIn Text.decimalDigits mixedProject ⟨false, []⟩ "v1\u0663.0.0" = .ok "1\u0663.0.0" ∧
      ¬ IsCanonical "1\u0663.0.0") ∧
    validateIn Text.decimalDigits mentioningProject ⟨false, []⟩ "v1.2.3" = .ok "1.2.3" ∧
      ¬ HasSection mentioningProject ⟨false, []⟩ "1.2.3" := by
  have hversion : HasVersion mixedProject ⟨false, []⟩ "1\u0663.0.0" :=
    ⟨"[project]\nversion = \"1\u0663.0.0\"\n", by cbv, by cbv⟩
  have hsection : HasSection mixedProject ⟨false, []⟩ "1\u0663.0.0" :=
    ⟨"## [1\u0663.0.0]\n", by cbv, [], ['\n'], by cbv, Or.inl rfl⟩
  have hlog : mentioningProject.read (Path.child ⟨false, []⟩ "CHANGELOG.md") =
      .ok "See ## [1.2.3]" := by cbv
  refine ⟨⟨hversion, hsection, ?_, ?_⟩, ?_, ?_⟩
  · exact validateIn_eq_ok_iff.mpr ⟨by decide +kernel, hversion, hsection.hasMark⟩
  · rw [isCanonical_iff Text.decimalDigits]
    rintro ⟨-, hascii⟩
    exact absurd (hascii '\u0663' (by decide +kernel)) (by decide)
  · have hversion : HasVersion mentioningProject ⟨false, []⟩ "1.2.3" :=
      ⟨"[project]\nversion = \"1.2.3\"\n", by cbv, by cbv⟩
    exact validateIn_eq_ok_iff.mpr
      ⟨by decide +kernel, hversion, _, hlog, "See ".toList, [], by decide +kernel⟩
  · rintro ⟨log, hlog', before, after, heq, hstarts⟩
    obtain rfl := Except.ok.inj (hlog.symm.trans hlog')
    -- the changelog is one line, which starts with something else
    rcases hstarts with rfl | hlast
    · have hhead := congrArg List.head? heq
      revert hhead
      simp [sectionMark]
    · have hmem : '\n' ∈ "See ## [1.2.3]".toList := by
        rw [heq]
        simp [List.mem_of_getLast? hlast]
      revert hmem
      decide +kernel

end CallTree.Release
