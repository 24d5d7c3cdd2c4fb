import Mathlib

/-!
# Machine numbers

Integers are modelled as `ℕ`/`ℤ` with the conversions of the C++ code written out:

- `toInt32` is `static_cast<int>` (modular since C++20);
- `toSize` is `static_cast<size_t>` / `static_cast<std::uint64_t>`, and `toInt64` is
  `static_cast<int64_t>` of such a value;
- `InInt64` says that a mathematical result is representable in a signed 64-bit
  word; a signed operation whose result is not is undefined in C++, so a model of
  one takes the value it then has as a parameter (`signed64`).

`Double` is an IEEE-754 double taken as the exact rational it denotes, with the two
infinities and NaN; `0.0` and `-0.0` are one value here. Comparisons are the IEEE
ones: any comparison with NaN is false.
-/

namespace Holonight

/-! ## Integer conversions -/

/-- `static_cast<int>(n)`. -/
def toInt32 (n : ℤ) : ℤ := n.bmod (2 ^ 32)

/-- `static_cast<size_t>(n)` for a signed `n`. -/
def toSize (n : ℤ) : ℕ := (n % 2 ^ 64).toNat

/-- `static_cast<int64_t>(n)` for an unsigned 64-bit `n`. -/
def toInt64 (n : ℕ) : ℤ := (n : ℤ).bmod (2 ^ 64)

/-- `n` is representable in a signed 64-bit word. -/
def InInt64 (n : ℤ) : Prop := -2 ^ 63 ≤ n ∧ n < 2 ^ 63

instance (n : ℤ) : Decidable (InInt64 n) := inferInstanceAs (Decidable (_ ∧ _))

/-- `n` is a value of the type `int`. -/
def InInt32 (n : ℤ) : Prop := -2 ^ 31 ≤ n ∧ n < 2 ^ 31

instance (n : ℤ) : Decidable (InInt32 n) := inferInstanceAs (Decidable (_ ∧ _))

/-- The result of a signed 64-bit operation whose exact result is `exact`. When
that does not fit, the operation is undefined: `overflow` stands for whatever the
compiled program then computes. -/
def signed64 (overflow : ℤ → ℤ) (exact : ℤ) : ℤ :=
  if InInt64 exact then exact else overflow exact

theorem signed64_of_fits {overflow : ℤ → ℤ} {n : ℤ} (h : InInt64 n) :
    signed64 overflow n = n := if_pos h

theorem signed64_of_overflow {overflow : ℤ → ℤ} {n : ℤ} (h : ¬ InInt64 n) :
    signed64 overflow n = overflow n := if_neg h

theorem toInt32_of_fits {n : ℤ} (hlo : -2 ^ 31 ≤ n) (hhi : n < 2 ^ 31) : toInt32 n = n := by
  unfold toInt32
  apply Int.bmod_eq_of_le <;> omega

/-- Narrowing a non-negative number never increases it. -/
theorem toInt32_natCast_le (n : ℕ) : toInt32 n ≤ n := by
  unfold toInt32
  rw [Int.bmod_def]
  split <;> omega

theorem toInt32_eq_zero_iff {n : ℤ} : toInt32 n = 0 ↔ 2 ^ 32 ∣ n := by
  unfold toInt32
  rw [Int.bmod_def]
  constructor
  · intro h
    apply Int.dvd_of_emod_eq_zero
    split at h <;> omega
  · intro h
    have hmod : n % 2 ^ 32 = 0 := Int.emod_eq_zero_of_dvd h
    split <;> omega

theorem toSize_of_fits {n : ℤ} (hlo : 0 ≤ n) (hhi : n < 2 ^ 64) : toSize n = n.toNat := by
  unfold toSize
  rw [Int.emod_eq_of_lt hlo hhi]

theorem toInt64_toNat {n : ℤ} (hlo : 0 ≤ n) (hhi : n < 2 ^ 63) : toInt64 n.toNat = n := by
  unfold toInt64
  rw [Int.toNat_of_nonneg hlo]
  apply Int.bmod_eq_of_le <;> omega

/-! ## Doubles -/

/-- A double, by the value it denotes. -/
inductive Double where
  | finite (q : ℚ)
  | posInf
  | negInf
  | nan
  deriving DecidableEq

namespace Double

/-- `a <= b`. -/
def le : Double → Double → Bool
  | .nan, _ => false
  | _, .nan => false
  | .negInf, _ => true
  | _, .posInf => true
  | .finite a, .finite b => decide (a ≤ b)
  | _, _ => false

/-- `a < b`. -/
def lt : Double → Double → Bool
  | .nan, _ => false
  | _, .nan => false
  | .negInf, .negInf => false
  | .negInf, _ => true
  | .posInf, _ => false
  | .finite _, .posInf => true
  | .finite a, .finite b => decide (a < b)
  | .finite _, .negInf => false

/-- `a == b`. -/
def eq : Double → Double → Bool
  | .nan, _ => false
  | a, b => decide (a = b)

/-- `std::isfinite`. -/
def isFinite : Double → Bool
  | .finite _ => true
  | _ => false

end Double

end Holonight
