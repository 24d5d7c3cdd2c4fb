import Holonight.Base.CppLib

/-!
# Decimal notation

The two ways in which a number stands in a text:

- `decimalValue` reads decimal notation: a sign, digits, and after a point more digits;
- `fixedSix` writes fixed notation with six decimals, the text of `std::to_string(double)`. The
  number is first rounded to a millionth (`roundSix`), a number halfway between two to the
  even one.

`decimalValue_fixedSix` connects them: **what is read from the text is the rounded number.**
-/

namespace Holonight

/-! ## Reading -/

/-- The value of digits with an optional fraction; 46 is the point. There is a digit before it or
after it. -/
def unsignedDecimal (s : Bytes) : Option ℚ :=
  let whole := s.takeWhile isDigitByte
  match s.dropWhile isDigitByte with
  | [] => if whole = [] then none else some (digitsValue whole)
  | 46 :: fraction =>
    if whole ++ fraction ≠ [] ∧ fraction.all isDigitByte = true then
      some (digitsValue whole + digitsValue fraction / 10 ^ fraction.length)
    else none
  | _ => none

/-- The number that a text denotes in decimal notation; 45 is `-` and 43 is `+`. -/
def decimalValue : Bytes → Option ℚ
  | 45 :: rest => (unsignedDecimal rest).map fun x => -x
  | 43 :: rest => unsignedDecimal rest
  | s => unsignedDecimal s

/-! ## Writing -/

/-- The integer nearest to a number that is not negative, and of two the even one. -/
def roundHalfEven (x : ℚ) : ℕ :=
  let below := x.floor.toNat
  if x - below < 1 / 2 then below
  else if 1 / 2 < x - below then below + 1
  else if below % 2 = 0 then below else below + 1

/-- Six digits, with zeros in front. -/
def sixDigits (k : ℕ) : Bytes := List.replicate (6 - (decimalNat k).length) 48 ++ decimalNat k

/-- A count of millionths in fixed notation. -/
def fixedText (k : ℕ) : Bytes := decimalNat (k / 10 ^ 6) ++ 46 :: sixDigits (k % 10 ^ 6)

/-- The millionths that are written of a number. -/
def millionths (q : ℚ) : ℕ := roundHalfEven (|q| * 10 ^ 6)

/-- Fixed notation with six decimals; a negative number keeps its sign when it is rounded to
zero. -/
def fixedSix (q : ℚ) : Bytes := (if q < 0 then [45] else []) ++ fixedText (millionths q)

/-- The number rounded to six decimals. -/
def roundSix (q : ℚ) : ℚ := (if q < 0 then -1 else 1) * (millionths q / 10 ^ 6)

/-! ## What is rounded -/

theorem abs_sub_roundHalfEven {x : ℚ} (h : 0 ≤ x) : |x - roundHalfEven x| ≤ 1 / 2 := by
  have hnonneg : 0 ≤ x.floor := Int.floor_nonneg.mpr h
  have hfloor : ((x.floor.toNat : ℕ) : ℚ) = (x.floor : ℚ) := by
    rw [← Int.cast_natCast, Int.toNat_of_nonneg hnonneg]
  have hle : (x.floor : ℚ) ≤ x := Int.floor_le x
  have hlt : x < (x.floor : ℚ) + 1 := Int.lt_floor_add_one x
  unfold roundHalfEven
  simp only
  rw [abs_le]
  split_ifs
  all_goals push_cast [hfloor] at *
  all_goals constructor <;> linarith

theorem abs_sub_roundSix (q : ℚ) : |q - roundSix q| ≤ 1 / 2 / 10 ^ 6 := by
  have hround := abs_sub_roundHalfEven (show 0 ≤ |q| * 10 ^ 6 by positivity)
  have hscaled : |q| * 10 ^ 6 - millionths q = (|q| - millionths q / 10 ^ 6) * 10 ^ 6 := by ring
  rw [show roundHalfEven (|q| * 10 ^ 6) = millionths q from rfl, hscaled, abs_mul,
    abs_of_nonneg (show (0 : ℚ) ≤ 10 ^ 6 by positivity)] at hround
  have hdist : |q - roundSix q| = |(|q| - millionths q / 10 ^ 6)| := by
    unfold roundSix
    split
    · rename_i hneg
      rw [abs_of_neg hneg, ← abs_neg]
      congr 1
      ring
    · rename_i hneg
      rw [abs_of_nonneg (not_lt.mp hneg), one_mul]
  rw [hdist, le_div_iff₀ (by positivity)]
  exact hround

/-- A rounded number is a count of millionths. -/
theorem exists_roundSix_eq (q : ℚ) : ∃ k : ℤ, roundSix q = k / 10 ^ 6 := by
  unfold roundSix
  split
  · exact ⟨-millionths q, by push_cast; ring⟩
  · exact ⟨millionths q, by push_cast; ring⟩

/-- Multiples of a step that are less than a step apart are equal. -/
theorem eq_of_abs_sub_lt_step {g : ℚ} (hg : 0 < g) {m n : ℤ} (h : |(m : ℚ) * g - n * g| < g) :
    m = n := by
  rw [← sub_mul, abs_mul, abs_of_pos hg, mul_lt_iff_lt_one_left hg] at h
  have hzero : m - n = 0 := Int.abs_lt_one_iff.mp (by exact_mod_cast h)
  omega

/-- The only count of millionths closer than half a millionth is the rounded number. -/
theorem roundSix_eq_of_close {q : ℚ} {k : ℤ} (h : |q - k / 10 ^ 6| < 1 / 2 / 10 ^ 6) :
    roundSix q = k / 10 ^ 6 := by
  obtain ⟨m, hm⟩ := exists_roundSix_eq q
  have hround := abs_sub_roundSix q
  rw [hm, div_eq_mul_one_div] at hround
  rw [hm]
  rw [div_eq_mul_one_div] at h
  have hclose : |(m : ℚ) * (1 / 10 ^ 6) - k * (1 / 10 ^ 6)| < 1 / 10 ^ 6 := by
    have htriangle := abs_sub_le ((m : ℚ) * (1 / 10 ^ 6)) q (k * (1 / 10 ^ 6))
    rw [abs_sub_comm _ q] at htriangle
    linarith
  rw [eq_of_abs_sub_lt_step (by norm_num) hclose]

theorem roundSix_intCast (n : ℤ) : roundSix n = n := by
  have hmillionths : ((n * 10 ^ 6 : ℤ) : ℚ) / 10 ^ 6 = n := by
    push_cast
    ring
  have hround := @roundSix_eq_of_close n (n * 10 ^ 6) (by rw [hmillionths, sub_self]; norm_num)
  rwa [hmillionths] at hround

/-! ## What is read back -/

section Reading

variable {whole fraction : Bytes}

theorem unsignedDecimal_digits (hwhole : ∀ b ∈ whole, isDigitByte b = true) (hne : whole ≠ []) :
    unsignedDecimal whole = some (digitsValue whole : ℚ) := by
  have htake : whole.takeWhile isDigitByte = whole := List.takeWhile_eq_self_iff.mpr hwhole
  have hdrop : whole.dropWhile isDigitByte = [] := List.dropWhile_eq_nil_iff.mpr hwhole
  unfold unsignedDecimal
  simp only [htake, hdrop, if_neg hne]

theorem unsignedDecimal_point (hwhole : ∀ b ∈ whole, isDigitByte b = true) (hne : whole ≠ [])
    (hfraction : ∀ b ∈ fraction, isDigitByte b = true) :
    unsignedDecimal (whole ++ 46 :: fraction)
      = some (digitsValue whole + digitsValue fraction / 10 ^ fraction.length : ℚ) := by
  have htake : (whole ++ 46 :: fraction).takeWhile isDigitByte = whole := by
    rw [List.takeWhile_append_of_pos hwhole, List.takeWhile_cons_of_neg (by decide),
      List.append_nil]
  have hdrop : (whole ++ 46 :: fraction).dropWhile isDigitByte = 46 :: fraction := by
    rw [List.dropWhile_append_of_pos hwhole, List.dropWhile_cons_of_neg (by decide)]
  unfold unsignedDecimal
  simp only [htake, hdrop]
  rw [if_pos ⟨List.append_ne_nil_of_left_ne_nil hne _, List.all_eq_true.mpr hfraction⟩]

/-- A text that starts with a digit has no sign. -/
theorem decimalValue_of_digit {s : Bytes} {b : UInt8} (hhead : s.head? = some b)
    (hb : isDigitByte b = true) : decimalValue s = unsignedDecimal s := by
  unfold decimalValue
  split
  · cases hhead
    cases hb
  · cases hhead
    cases hb
  · rfl

end Reading

theorem exists_head_decimalNat (n : ℕ) (rest : Bytes) :
    ∃ b, (decimalNat n ++ rest).head? = some b ∧ isDigitByte b = true := by
  obtain ⟨b, digits, hdigits⟩ := List.exists_cons_of_ne_nil (decimalNat_ne_nil n)
  exact ⟨b, by rw [hdigits]; rfl, isDigitByte_of_mem_decimalNat (hdigits ▸ List.mem_cons_self)⟩

/-- **The text of an integer denotes it.** -/
theorem decimalValue_decimal (n : ℤ) : decimalValue (decimal n) = some (n : ℚ) := by
  have hdigits : unsignedDecimal (decimalNat n.natAbs) = some ((n.natAbs : ℕ) : ℚ) := by
    rw [unsignedDecimal_digits (fun b hb => isDigitByte_of_mem_decimalNat hb)
      (decimalNat_ne_nil _), digitsValue_decimalNat]
  unfold decimal
  split
  · rename_i hneg
    have hvalue : -((n.natAbs : ℕ) : ℚ) = n := by
      rw [← Int.cast_natCast, ← Int.cast_neg, show -((n.natAbs : ℕ) : ℤ) = n by omega]
    show (unsignedDecimal (decimalNat n.natAbs)).map _ = _
    rw [hdigits, Option.map_some, hvalue]
  · rename_i hneg
    have hvalue : ((n.natAbs : ℕ) : ℚ) = n := by
      rw [← Int.cast_natCast, show ((n.natAbs : ℕ) : ℤ) = n by omega]
    obtain ⟨b, hhead, hb⟩ := exists_head_decimalNat n.natAbs []
    rw [List.append_nil] at hhead
    rw [decimalValue_of_digit hhead hb, hdigits, hvalue]

theorem digitsValue_zeros (n : ℕ) (ds : Bytes) :
    digitsValue (List.replicate n 48 ++ ds) = digitsValue ds := by
  induction n with
  | zero => rfl
  | succ n ih => exact ih

theorem length_decimalNat_le {k : ℕ} (hk : k < 10 ^ 6) : (decimalNat k).length ≤ 6 := by
  unfold decimalNat
  split
  · decide
  · rw [List.length_reverse, List.length_map]
    exact (Nat.digits_length_le_iff (by decide) k).mpr hk

theorem length_sixDigits {k : ℕ} (hk : k < 10 ^ 6) : (sixDigits k).length = 6 := by
  have hlength := length_decimalNat_le hk
  unfold sixDigits
  rw [List.length_append, List.length_replicate]
  omega

theorem isDigitByte_of_mem_sixDigits {k : ℕ} {b : UInt8} (hb : b ∈ sixDigits k) :
    isDigitByte b = true := by
  rcases List.mem_append.mp hb with hzero | hdigit
  · rw [List.eq_of_mem_replicate hzero]
    rfl
  · exact isDigitByte_of_mem_decimalNat hdigit

theorem unsignedDecimal_fixedText (k : ℕ) :
    unsignedDecimal (fixedText k) = some (k / 10 ^ 6 : ℚ) := by
  have hlt : k % 10 ^ 6 < 10 ^ 6 := Nat.mod_lt _ (by decide)
  have hsplit : ((k / 10 ^ 6 : ℕ) : ℚ) * 10 ^ 6 + ((k % 10 ^ 6 : ℕ) : ℚ) = k := by
    exact_mod_cast (by omega : k / 10 ^ 6 * 10 ^ 6 + k % 10 ^ 6 = k)
  unfold fixedText
  rw [unsignedDecimal_point (fun b hb => isDigitByte_of_mem_decimalNat hb) (decimalNat_ne_nil _)
      (fun b hb => isDigitByte_of_mem_sixDigits hb), length_sixDigits hlt, digitsValue_decimalNat,
    sixDigits, digitsValue_zeros, digitsValue_decimalNat, ← hsplit]
  congr 1
  ring

/-- **What is read from the fixed notation is the rounded number.** -/
theorem decimalValue_fixedSix (q : ℚ) : decimalValue (fixedSix q) = some (roundSix q) := by
  unfold fixedSix roundSix
  split
  · show (unsignedDecimal (fixedText (millionths q))).map _ = _
    rw [unsignedDecimal_fixedText, Option.map_some, neg_one_mul]
  · obtain ⟨b, hhead, hb⟩ := exists_head_decimalNat (millionths q / 10 ^ 6)
      (46 :: sixDigits (millionths q % 10 ^ 6))
    rw [List.nil_append, one_mul, ← unsignedDecimal_fixedText]
    exact decimalValue_of_digit hhead hb

/-- The fixed notation consists of a sign, digits and a point. -/
theorem zero_not_mem_fixedSix (q : ℚ) : (0 : UInt8) ∉ fixedSix q := by
  have hdigits : ∀ {s : Bytes}, (∀ b ∈ s, isDigitByte b = true) → (0 : UInt8) ∉ s :=
    fun hs hmem => absurd (hs 0 hmem) (by decide)
  have htext : (0 : UInt8) ∉ fixedText (millionths q) := by
    unfold fixedText
    rw [List.mem_append, List.mem_cons]
    rintro (hwhole | hpoint | hfraction)
    · exact hdigits (fun b hb => isDigitByte_of_mem_decimalNat hb) hwhole
    · exact absurd hpoint (by decide)
    · exact hdigits (fun b hb => isDigitByte_of_mem_sixDigits hb) hfraction
  unfold fixedSix
  rw [List.mem_append]
  rintro (hsign | hmem)
  · split at hsign
    · exact absurd hsign (by decide)
    · cases hsign
  · exact htext hmem

end Holonight
