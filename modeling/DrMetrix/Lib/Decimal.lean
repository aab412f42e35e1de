import DrMetrix.Lib.Text
import Mathlib.Algebra.Group.Int.Defs
import Mathlib.Algebra.Group.Nat.Defs

/-! # Decimal integers

The language of Rust's `from_str` for `i64` and `u32`: an optional sign, at
least one ASCII digit, and a value inside the type. `Display` prints without
leading zeros, and reading a printed integer gives it back.
-/

namespace Decimal

/-- The value of a nonempty run of ASCII digits. -/
def digits (t : Text) : Option Nat :=
  if t ≠ [] ∧ t.all Char.isDigit then some (Nat.ofDigitChars 10 t 0) else none

/-- Optional `+` or `-`, then digits. -/
def signed : Text → Option Int
  | '+' :: t => (digits t).map Int.ofNat
  | '-' :: t => (digits t).map fun n => -Int.ofNat n
  | t => (digits t).map Int.ofNat

/-- Optional `+`, then digits. -/
def unsigned : Text → Option Nat
  | '+' :: t => digits t
  | t => digits t

/-- `str::parse::<i64>`. -/
def parseI64 (t : Text) : Option Int64 :=
  (signed t).bind fun n => if -2 ^ 63 ≤ n ∧ n < 2 ^ 63 then some (Int64.ofInt n) else none

/-- `str::parse::<u32>`. -/
def parseU32 (t : Text) : Option UInt32 :=
  (unsigned t).bind fun n => if n < 2 ^ 32 then some (UInt32.ofNat n) else none

/-- `Display` of an `i64`. -/
def showI64 (n : Int64) : Text := (toString n).toList

/-- `Display` of a `u32`. -/
def showU32 (n : UInt32) : Text := (toString n).toList

theorem digits_toDigits (n : Nat) : digits (Nat.toDigits 10 n) = some n := by
  have allDigits : (Nat.toDigits 10 n).all Char.isDigit = true :=
    List.all_eq_true.mpr fun c member =>
      Nat.isDigit_of_mem_toDigits (by decide) (by decide) member
  rw [digits, if_pos ⟨Nat.toDigits_ne_nil, allDigits⟩, Nat.ofDigitChars_ten_toDigits]

/-- Digits never look like a sign. -/
theorem toDigits_cons (n : Nat) : ∃ c t, Nat.toDigits 10 n = c :: t ∧ c.isDigit = true := by
  cases shape : Nat.toDigits 10 n with
  | nil => exact absurd shape Nat.toDigits_ne_nil
  | cons c t =>
      have member : c ∈ Nat.toDigits 10 n := shape ▸ List.mem_cons_self
      exact ⟨c, t, rfl, Nat.isDigit_of_mem_toDigits (by decide) (by decide) member⟩

theorem signed_of_digit {c : Char} (digit : c.isDigit = true) (t : Text) :
    signed (c :: t) = (digits (c :: t)).map Int.ofNat := by
  unfold signed
  split
  · next same => cases same; cases digit
  · next same => cases same; cases digit
  · rfl

theorem unsigned_of_digit {c : Char} (digit : c.isDigit = true) (t : Text) :
    unsigned (c :: t) = digits (c :: t) := by
  unfold unsigned
  split
  · next same => cases same; cases digit
  · rfl

theorem showU32_eq (n : UInt32) : showU32 n = Nat.toDigits 10 n.toNat := Nat.toList_repr

theorem showI64_nonneg {n : Int64} {m : Nat} (value : n.toInt = m) :
    showI64 n = Nat.toDigits 10 m := by
  have shown : showI64 n = (toString n.toInt).toList := rfl
  rw [shown, value]
  exact Nat.toList_repr

theorem showI64_neg {n : Int64} {m : Nat} (value : n.toInt = Int.negSucc m) :
    showI64 n = '-' :: Nat.toDigits 10 (m + 1) := by
  have shown : showI64 n = (toString n.toInt).toList := rfl
  have printed : toString (Int.negSucc m) = "-" ++ Nat.repr (m + 1) := rfl
  rw [shown, value, printed, String.toList_append, Nat.toList_repr]
  rfl

theorem signed_showI64 (n : Int64) : signed (showI64 n) = some n.toInt := by
  cases value : n.toInt with
  | ofNat m =>
      obtain ⟨c, t, shape, digit⟩ := toDigits_cons m
      rw [showI64_nonneg value, shape, signed_of_digit digit, ← shape, digits_toDigits]
      rfl
  | negSucc m =>
      rw [showI64_neg value, signed, digits_toDigits]
      rfl

/-- Reading a printed `i64` gives it back. -/
@[simp] theorem parseI64_showI64 (n : Int64) : parseI64 (showI64 n) = some n := by
  have inside : -2 ^ 63 ≤ n.toInt ∧ n.toInt < 2 ^ 63 := ⟨n.le_toInt, n.toInt_lt⟩
  rw [parseI64, signed_showI64, Option.bind_some, if_pos inside, Int64.ofInt_toInt]

/-- Reading a printed `u32` gives it back. -/
@[simp] theorem parseU32_showU32 (n : UInt32) : parseU32 (showU32 n) = some n := by
  obtain ⟨c, t, shape, digit⟩ := toDigits_cons n.toNat
  have read : unsigned (showU32 n) = some n.toNat := by
    rw [showU32_eq, shape, unsigned_of_digit digit, ← shape, digits_toDigits]
  rw [parseU32, read, Option.bind_some, if_pos n.toNat_lt, UInt32.ofNat_toNat]

theorem showU32_injective {m n : UInt32} (same : showU32 m = showU32 n) : m = n := by
  have read : some m = some n := by rw [← parseU32_showU32 m, same, parseU32_showU32]
  exact Option.some.inj read

/-! ## Printed integers contain nothing but digits and a leading sign -/

theorem mem_showU32 {n : UInt32} {c : Char} (member : c ∈ showU32 n) : c.isDigit = true := by
  rw [showU32_eq] at member
  exact Nat.isDigit_of_mem_toDigits (by decide) (by decide) member

theorem mem_showI64 {n : Int64} {c : Char} (member : c ∈ showI64 n) :
    c = '-' ∨ c.isDigit = true := by
  cases value : n.toInt with
  | ofNat m =>
      rw [showI64_nonneg value] at member
      exact .inr (Nat.isDigit_of_mem_toDigits (by decide) (by decide) member)
  | negSucc m =>
      rw [showI64_neg value, List.mem_cons] at member
      exact member.imp id (Nat.isDigit_of_mem_toDigits (by decide) (by decide))

theorem solid_of_isDigit {c : Char} (digit : c.isDigit = true) : Text.isWhitespace c = false := by
  simp only [Char.isDigit, Bool.and_eq_true, decide_eq_true_eq, UInt32.le_iff_toNat_le] at digit
  simp only [Text.isWhitespace, Bool.or_eq_false_iff, Bool.and_eq_false_iff, decide_eq_false_iff_not,
    beq_eq_false_iff_ne, ne_eq, Char.toNat]
  have low : '0'.val.toNat = 48 := rfl
  have high : '9'.val.toNat = 57 := rfl
  omega

theorem solid_showI64 (n : Int64) : ∀ c ∈ showI64 n, Text.isWhitespace c = false := by
  intro c member
  rcases mem_showI64 member with rfl | digit
  · rfl
  · exact solid_of_isDigit digit

end Decimal
