import Holonight.Base.Bytes
import Holonight.Base.Numbers

/-!
# The parts of the C++ library the models call

`std::stoll` and the `std::chrono` conversions are written out. What cannot be (the
digits `std::to_string` prints for a double, `std::stod`, rounding of a 64-bit
integer to a double, ECMAScript regular expressions, the shortest digits JSON prints)
is collected in `CppLib`, which the models take as a parameter.

Time points are counts of nanoseconds since the clock's epoch (`system_clock` and
`steady_clock` both tick in nanoseconds).
-/

namespace Holonight

/-! ## Time -/

/-- A point of a clock, in nanoseconds since its epoch. -/
abbrev TimePoint := ℤ

/-- `duration_cast<microseconds>`: truncation towards zero. -/
def toMicros (t : TimePoint) : ℤ := t.tdiv 1000

theorem toMicros_mono {s t : TimePoint} (h : s ≤ t) : toMicros s ≤ toMicros t :=
  Int.tdiv_le_tdiv (by decide) h

theorem toMicros_nonneg {t : TimePoint} (h : 0 ≤ t) : 0 ≤ toMicros t :=
  Int.tdiv_nonneg h (by decide)

/-- The truncation loses less than a microsecond, in either direction. -/
theorem toMicros_bounds (t : TimePoint) :
    toMicros t * 1000 < t + 1000 ∧ t < toMicros t * 1000 + 1000 := by
  have hsplit : t.tmod 1000 + 1000 * t.tdiv 1000 = t := Int.tmod_add_mul_tdiv t 1000
  have hlow : -1000 < t.tmod 1000 := Int.lt_tmod_of_pos t (by decide)
  have hhigh : t.tmod 1000 < 1000 := Int.tmod_lt_of_pos t (by decide)
  unfold toMicros
  constructor
  · linarith
  · linarith

/-- Nanoseconds in a second. -/
def nanosPerSecond : ℤ := 1000000000

/-- Nanoseconds in a day. -/
def nanosPerDay : ℤ := 86400 * nanosPerSecond

/-! ## Integers from text -/

/-- `std::isspace` in the C locale. -/
def isSpaceByte (b : UInt8) : Bool := b == 32 || (decide (9 ≤ b) && decide (b ≤ 13))

/-- `std::isdigit`. -/
def isDigitByte (b : UInt8) : Bool := decide (48 ≤ b) && decide (b ≤ 57)

/-- The number a run of digits denotes. -/
def digitsValue (ds : Bytes) : ℕ := ds.foldl (fun acc b => acc * 10 + (b.toNat - 48)) 0

/-- `std::stoll`: `none` when it throws (no digits, or out of range). Leading space
is skipped, one sign is accepted, and text after the digits is ignored. -/
def stoll (s : Bytes) : Option ℤ :=
  let body := s.dropWhile isSpaceByte
  let signed : Bool × Bytes :=
    match body with
    -- 45 is `-`, 43 is `+`
    | 45 :: rest => (true, rest)
    | 43 :: rest => (false, rest)
    | rest => (false, rest)
  let digits := signed.2.takeWhile isDigitByte
  if digits = [] then none
  else
    let value : ℤ := if signed.1 then -(digitsValue digits : ℤ) else digitsValue digits
    if InInt64 value then some value else none

/-- What `stoll` returns fits, and so does the 0 that stands for a failure. -/
theorem inInt64_stoll (s : Bytes) : InInt64 ((stoll s).getD 0) := by
  cases h : stoll s with
  | none => exact ⟨by decide, by decide⟩
  | some n =>
    simp only [stoll] at h
    rw [ite_eq_iff, ite_eq_iff] at h
    rcases h with ⟨-, h⟩ | ⟨-, ⟨hfits, h⟩ | ⟨-, h⟩⟩
    · cases h
    · exact Option.some.inj h ▸ hfits
    · cases h

/-- Reading digits, least significant first. -/
theorem foldr_digitByte {ds : List ℕ} (h : ∀ d ∈ ds, d < 10) :
    (ds.map digitByte).foldr (fun b acc => acc * 10 + (b.toNat - 48)) 0 = Nat.ofDigits 10 ds := by
  induction ds with
  | nil => rfl
  | cons d ds ih =>
    have hd : d < 10 := h d List.mem_cons_self
    rw [List.map_cons, List.foldr_cons, ih fun e he => h e (List.mem_cons_of_mem _ he),
      toNat_digitByte hd, Nat.ofDigits_cons]
    omega

theorem digitsValue_decimalNat (n : ℕ) : digitsValue (decimalNat n) = n := by
  unfold digitsValue decimalNat
  split
  · rename_i hn
    subst hn
    rfl
  · rw [List.foldl_reverse, foldr_digitByte fun d hd => Nat.digits_lt_base (by decide) hd,
      Nat.ofDigits_digits]

theorem isDigitByte_of_mem_decimalNat {n : ℕ} {b : UInt8} (hb : b ∈ decimalNat n) :
    isDigitByte b = true := by
  obtain ⟨hlo, hhi⟩ := mem_decimalNat hb
  unfold isDigitByte
  rw [Bool.and_eq_true, decide_eq_true_iff, decide_eq_true_iff, UInt8.le_iff_toNat_le,
    UInt8.le_iff_toNat_le]
  exact ⟨hlo, hhi⟩

/-- A digit is no space. -/
theorem isSpaceByte_of_mem_decimalNat {n : ℕ} {b : UInt8} (hb : b ∈ decimalNat n) :
    isSpaceByte b = false := by
  have hlo := (mem_decimalNat hb).1
  have h13 : UInt8.toNat 13 = 13 := rfl
  unfold isSpaceByte
  rw [Bool.or_eq_false_iff, beq_eq_false_iff_ne, Bool.and_eq_false_iff, decide_eq_false_iff_not,
    decide_eq_false_iff_not, UInt8.le_iff_toNat_le, UInt8.le_iff_toNat_le]
  refine ⟨?_, Or.inr (by omega)⟩
  rintro rfl
  exact absurd hlo (by decide)

theorem takeWhile_decimalNat (n : ℕ) : (decimalNat n).takeWhile isDigitByte = decimalNat n :=
  List.takeWhile_eq_self_iff.mpr fun _ hb => isDigitByte_of_mem_decimalNat hb

/-- The decimal text of a 64-bit integer reads back as that integer. -/
theorem stoll_decimal {n : ℤ} (h : InInt64 n) : stoll (decimal n) = some n := by
  by_cases hneg : n < 0
  · have htext : decimal n = 45 :: decimalNat n.natAbs := if_pos hneg
    have hvalue : -((n.natAbs : ℕ) : ℤ) = n := by omega
    have hspace : (45 :: decimalNat n.natAbs).dropWhile isSpaceByte = 45 :: decimalNat n.natAbs :=
      rfl
    rw [htext, stoll, hspace]
    simp only [takeWhile_decimalNat, decimalNat_ne_nil, if_false, digitsValue_decimalNat, if_true,
      hvalue, h]
  · have htext : decimal n = decimalNat n.natAbs := if_neg hneg
    have hvalue : ((n.natAbs : ℕ) : ℤ) = n := by omega
    obtain ⟨d, rest, hdigits⟩ := List.exists_cons_of_ne_nil (decimalNat_ne_nil n.natAbs)
    have hmem : d ∈ decimalNat n.natAbs := hdigits ▸ List.mem_cons_self
    -- a digit is no sign
    have hother : ∀ b : UInt8, isDigitByte b = false → d ≠ b := by
      rintro b hb rfl
      rw [isDigitByte_of_mem_decimalNat hmem] at hb
      cases hb
    have hdrop : (d :: rest).dropWhile isSpaceByte = d :: rest := by
      rw [List.dropWhile_cons, isSpaceByte_of_mem_decimalNat hmem]
      rfl
    rw [htext, stoll, hdigits, hdrop]
    simp only
    split
    · rename_i tail heq
      exact absurd (List.cons.inj heq).1 (hother 45 rfl)
    · rename_i tail heq
      exact absurd (List.cons.inj heq).1 (hother 43 rfl)
    · rw [← hdigits]
      simp only [takeWhile_decimalNat, decimalNat_ne_nil, if_false, digitsValue_decimalNat,
        Bool.false_eq_true, hvalue, h, if_true]

/-! ## Library functions kept as parameters -/

/-- Functions of the C++ library whose text or rounding is not written out. -/
structure CppLib where
  /-- `std::to_string(double)`: fixed notation with six decimals. -/
  doubleToString : Double → Bytes
  /-- `std::stod`; `none` when it throws. -/
  stod : Bytes → Option Double
  /-- `static_cast<double>` of a 64-bit integer. -/
  intToDouble : ℤ → Double
  /-- `std::regex_search(text, std::regex(pattern))`; `none` when it throws. -/
  regexSearch : Bytes → Bytes → Option Bool
  /-- The digits `nlohmann::json` prints for a finite double. -/
  jsonNumber : ℚ → Bytes

/-- An instance for concrete inputs: on doubles with an integral value below `2 ^ 53`
it prints and reads what the C++ library does. -/
def CppLib.integral : CppLib where
  doubleToString
    | .finite q => decimal q.floor ++ ".000000"
    | .posInf => "inf"
    | .negInf => "-inf"
    | .nan => "nan"
  stod s := (stoll s).map fun n => .finite n
  intToDouble n := .finite n
  regexSearch _ _ := none
  jsonNumber q := decimal q.floor ++ ".0"

end Holonight
