/-!
# Digits

Numbers as strings of digits and back, in base ten and in base sixteen.
-/

namespace Conductor

namespace Digits

/-- The digits of a natural number in base ten, without leading zeros. -/
def ofNat (n : Nat) : List Char :=
  Nat.toDigits 10 n

/-- The value of a decimal digit. -/
def value (c : Char) : Nat :=
  c.toNat - 48

/-- The value of a string of decimal digits. -/
def toNat (ds : List Char) : Nat :=
  ds.foldl (fun n c => n * 10 + value c) 0

theorem isDigit_of_mem_ofNat {n : Nat} {c : Char} (h : c ∈ ofNat n) : c.isDigit = true :=
  Nat.isDigit_of_mem_toDigits (by decide) (by decide) h

theorem not_mem_ofNat {c : Char} (h : c.isDigit = false) (n : Nat) : c ∉ ofNat n := by
  intro hc
  simp [isDigit_of_mem_ofNat hc] at h

/-- The digits of a number tell the number. -/
theorem toNat_ofNat (n : Nat) : toNat (ofNat n) = n := by
  have hfold : toNat (ofNat n) = Nat.ofDigitChars 10 (ofNat n) 0 := by
    simp only [toNat, Nat.ofDigitChars_eq_foldl, value, Nat.mul_comm]
    rfl
  rw [hfold]
  exact Nat.ofDigitChars_ten_toDigits

theorem ofNat_injective {m n : Nat} (h : ofNat m = ofNat n) : m = n := by
  rw [← toNat_ofNat m, h, toNat_ofNat]

/-- The value of a digit of base sixteen, in either case. -/
def hexValue? (c : Char) : Option Nat :=
  if '0' ≤ c ∧ c ≤ '9' then some (c.toNat - 48)
  else if 'a' ≤ c ∧ c ≤ 'f' then some (c.toNat - 87)
  else if 'A' ≤ c ∧ c ≤ 'F' then some (c.toNat - 55)
  else none

/-- The value of a string of digits of base sixteen. -/
def hexToNat? (ds : List Char) : Option Nat :=
  (ds.mapM hexValue?).map fun values => values.foldl (fun n d => n * 16 + d) 0

end Digits

end Conductor
