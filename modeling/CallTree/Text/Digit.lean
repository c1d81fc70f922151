/-!
# Decimal digits of all scripts

Every script with decimal digits has them in a row of ten code points that starts at its zero.
Numerals accept the digits of any script. So do version tags, which leave open how many scripts have
been given digits so far (`DigitClass`).
-/

namespace CallTree.Text

/-- The code points of the zeros. -/
def zeros : List Nat := [
  0x30, 0x660, 0x6f0, 0x7c0, 0x966, 0x9e6, 0xa66, 0xae6, 0xb66, 0xbe6, 0xc66, 0xce6, 0xd66, 0xde6,
  0xe50, 0xed0, 0xf20, 0x1040, 0x1090, 0x17e0, 0x1810, 0x1946, 0x19d0, 0x1a80, 0x1a90, 0x1b50,
  0x1bb0, 0x1c40, 0x1c50, 0xa620, 0xa8d0, 0xa900, 0xa9d0, 0xa9f0, 0xaa50, 0xabf0, 0xff10, 0x104a0,
  0x10d30, 0x11066, 0x110f0, 0x11136, 0x111d0, 0x112f0, 0x11450, 0x114d0, 0x11650, 0x116c0, 0x11730,
  0x118e0, 0x11950, 0x11c50, 0x11d50, 0x11da0, 0x11f50, 0x16a60, 0x16ac0, 0x16b50, 0x1d7ce, 0x1d7d8,
  0x1d7e2, 0x1d7ec, 0x1d7f6, 0x1e140, 0x1e2f0, 0x1e4f0, 0x1e950, 0x1fbf0]

/-- The value of a decimal digit of any script. -/
def digitValue? (c : Char) : Option Nat :=
  (zeros.find? fun z ↦ z ≤ c.toNat && c.toNat < z + 10).map (c.toNat - ·)

/-- Whether the character is a decimal digit of some script. -/
def isDigit (c : Char) : Bool := (digitValue? c).isSome

theorem isDigit_eq_of_ascii {c : Char} (h : c.toNat < 128) : isDigit c = c.isDigit := by
  have hzeros : ∀ z ∈ zeros, z = 48 ∨ 128 ≤ z := by decide
  have hbounds : c.isDigit = true ↔ 48 ≤ c.toNat ∧ c.toNat ≤ 57 := Char.isDigit_iff_toNat
  rw [Bool.eq_iff_iff, isDigit, digitValue?, Option.isSome_map, List.find?_isSome, hbounds]
  simp only [Bool.and_eq_true, decide_eq_true_eq]
  constructor
  · intro ⟨z, hz, hle, hlt⟩
    have := hzeros z hz
    omega
  · intro hc
    exact ⟨48, by decide, hc.1, Nat.lt_succ_of_le hc.2⟩

/-- A class of digits: the ten of ASCII, and any others past the ASCII range. -/
structure DigitClass where
  holds : Char → Bool
  ascii : ∀ {c : Char}, c.toNat < 128 → holds c = c.isDigit

/-- The decimal digits of the scripts listed here. -/
def decimalDigits : DigitClass := ⟨isDigit, isDigit_eq_of_ascii⟩

/-- The value of an ASCII digit. -/
def asciiDigit? (c : Char) : Option Nat :=
  if c.isDigit then some (c.toNat - 48) else none

/-- The value of a hexadecimal digit in either case. -/
def hexDigit? (c : Char) : Option Nat :=
  if c.isDigit then some (c.toNat - 48)
  else if 'a' ≤ c ∧ c ≤ 'f' then some (c.toNat - 87)
  else if 'A' ≤ c ∧ c ≤ 'F' then some (c.toNat - 55)
  else none

/-- The number a list of digits stands for in the given base, most significant digit first. -/
def ofDigits (base : Nat) (ds : List Nat) : Nat :=
  ds.foldl (fun n d ↦ base * n + d) 0

end CallTree.Text
