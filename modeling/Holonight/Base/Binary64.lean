import Holonight.Base.Decimal

/-!
# Doubles and decimal notation

The finite doubles as rational numbers (`IsBinary64`), rounding to the nearest of them
(`RoundsToNearest`), and what the C++ library makes of the two when it writes and reads
decimals (`DecimalLibrary`).

A double that is written with six decimals and read again is itself exactly when it is the
double nearest to some number with six decimals (`nearest_roundSix_iff`): that number is then
the one that was written. Below `2 ^ 33` the doubles are so close to each other that no other
count of millionths is as near, and from there on they are so far apart that the rounding to a
millionth does not reach the next one.
-/

namespace Holonight

/-! ## The format -/

/-- A finite double: 53 binary digits and an exponent. -/
def IsBinary64 (q : ℚ) : Prop :=
  ∃ m e : ℤ, q = m * 2 ^ e ∧ |m| < 2 ^ 53 ∧ -1074 ≤ e ∧ e ≤ 971

/-- `std::numeric_limits<double>::max()`. -/
def maxFinite : ℚ := (2 ^ 53 - 1) * 2 ^ 971

/-- The digits may also be a power of two of one digit more. -/
theorem isBinary64_of_abs_le {m e : ℤ} (hm : |m| ≤ 2 ^ 53) (hlow : -1074 ≤ e) (hhigh : e ≤ 970) :
    IsBinary64 (m * 2 ^ e) := by
  rcases lt_or_eq_of_le hm with hlt | heq
  · exact ⟨m, e, rfl, hlt, hlow, by omega⟩
  · -- one digit moves to the exponent
    obtain ⟨n, hn⟩ : ∃ n : ℤ, m = n * 2 := by
      rcases (abs_eq (by positivity)).mp heq with h | h
      · exact ⟨2 ^ 52, by rw [h]; norm_num⟩
      · exact ⟨-2 ^ 52, by rw [h]; norm_num⟩
    refine ⟨n, e + 1, ?_, ?_, by omega, by omega⟩
    · rw [hn, zpow_add_one₀ (by norm_num)]
      push_cast
      ring
    · rw [hn, abs_mul] at heq
      norm_num at heq ⊢
      omega

theorem isBinary64_intCast {n : ℤ} (h : |n| ≤ 2 ^ 53) : IsBinary64 n := by
  have hdouble := @isBinary64_of_abs_le n 0 h (by decide) (by decide)
  rwa [zpow_zero, mul_one] at hdouble

theorem IsBinary64.neg {q : ℚ} (h : IsBinary64 q) : IsBinary64 (-q) := by
  obtain ⟨m, e, rfl, hm, hlow, hhigh⟩ := h
  exact ⟨-m, e, by push_cast; ring, by rwa [abs_neg], hlow, hhigh⟩

theorem IsBinary64.abs_le_maxFinite {q : ℚ} (h : IsBinary64 q) : |q| ≤ maxFinite := by
  obtain ⟨m, e, rfl, hm, hlow, hhigh⟩ := h
  have hdigits : |(m : ℚ)| ≤ 2 ^ 53 - 1 := by
    have hle : |m| ≤ 2 ^ 53 - 1 := by omega
    exact_mod_cast hle
  have hexp : (2 : ℚ) ^ e ≤ 2 ^ (971 : ℤ) := zpow_le_zpow_right₀ (by norm_num) hhigh
  have hpos : (0 : ℚ) < 2 ^ e := zpow_pos (by norm_num) e
  rw [abs_mul, abs_of_pos hpos]
  exact mul_le_mul hdigits hexp hpos.le (by norm_num)

/-- A large double is a multiple of the distance between the doubles of its size. -/
theorem IsBinary64.exists_multiple {q : ℚ} (h : IsBinary64 q) {j : ℤ}
    (hlarge : 2 ^ (j + 53) ≤ |q|) : ∃ n : ℤ, q = n * 2 ^ (j + 1) := by
  obtain ⟨m, e, rfl, hm, hlow, hhigh⟩ := h
  have hdigits : |(m : ℚ)| < 2 ^ 53 := by exact_mod_cast hm
  have hpos : (0 : ℚ) < 2 ^ e := zpow_pos (by norm_num) e
  have hexp : (2 : ℚ) ^ (j + 53) < 2 ^ (53 + e) := by
    calc (2 : ℚ) ^ (j + 53) ≤ |(m : ℚ)| * 2 ^ e := by rwa [abs_mul, abs_of_pos hpos] at hlarge
      _ < 2 ^ 53 * 2 ^ e := mul_lt_mul_of_pos_right hdigits hpos
      _ = 2 ^ (53 + e) := by rw [zpow_add₀ (by norm_num)]; norm_num
  have hlt : j + 53 < 53 + e := (zpow_lt_zpow_iff_right₀ (by norm_num)).mp hexp
  obtain ⟨i, hi⟩ := Int.eq_ofNat_of_zero_le (show 0 ≤ e - (j + 1) by omega)
  refine ⟨m * 2 ^ i, ?_⟩
  have hsplit : e = (i : ℤ) + (j + 1) := by omega
  rw [hsplit, zpow_add₀ (by norm_num), zpow_natCast]
  push_cast
  ring

/-! ## Rounding to the nearest double -/

/-- Every number goes to a double as near as any; which of two equally near is left open. -/
structure RoundsToNearest (nearest : ℚ → ℚ) : Prop where
  isBinary64 : ∀ x, IsBinary64 (nearest x)
  le : ∀ x d, IsBinary64 d → |x - nearest x| ≤ |x - d|

theorem finite_isBinary64 : {q | IsBinary64 q}.Finite := by
  have hbox : (Set.Icc (-2 ^ 53 : ℤ) (2 ^ 53) ×ˢ Set.Icc (-1074 : ℤ) 971).Finite :=
    (Set.finite_Icc _ _).prod (Set.finite_Icc _ _)
  refine (hbox.image fun p => (p.1 : ℚ) * 2 ^ p.2).subset ?_
  rintro q ⟨m, e, rfl, hm, hlow, hhigh⟩
  have hm' := abs_lt.mp hm
  exact ⟨(m, e), ⟨⟨hm'.1.le, hm'.2.le⟩, hlow, hhigh⟩, rfl⟩

theorem exists_roundsToNearest : ∃ nearest, RoundsToNearest nearest := by
  have hmin : ∀ x : ℚ, ∃ d, IsBinary64 d ∧ ∀ d', IsBinary64 d' → |x - d| ≤ |x - d'| := fun x =>
    Set.exists_min_image _ (fun d => |x - d|) finite_isBinary64
      ⟨((0 : ℤ) : ℚ), isBinary64_intCast (by norm_num)⟩
  choose nearest hdouble hle using hmin
  exact ⟨nearest, hdouble, hle⟩

namespace RoundsToNearest

variable {nearest : ℚ → ℚ} (hnearest : RoundsToNearest nearest)

include hnearest

/-- A double stays. -/
theorem eq_self {q : ℚ} (hq : IsBinary64 q) : nearest q = q := by
  have hle := hnearest.le q q hq
  rw [sub_self, abs_zero] at hle
  have hzero := abs_eq_zero.mp (le_antisymm hle (abs_nonneg _))
  linarith

/-- Rounding keeps the order. -/
theorem monotone : Monotone nearest := by
  intro x y hxy
  by_contra hlt
  rw [not_le] at hlt
  -- the middle between the two doubles is not above `x` and not below `y`
  have hx := sq_le_sq.mpr (hnearest.le x (nearest y) (hnearest.isBinary64 y))
  have hy := sq_le_sq.mpr (hnearest.le y (nearest x) (hnearest.isBinary64 x))
  have hmiddle : y ≤ x := by nlinarith
  rw [le_antisymm hxy hmiddle] at hlt
  exact lt_irrefl _ hlt

theorem natCast {n : ℕ} (h : n ≤ 2 ^ 53) : nearest n = n := by
  have hdouble := @isBinary64_intCast n (by rw [Nat.abs_cast]; exact_mod_cast h)
  exact hnearest.eq_self (by exact_mod_cast hdouble)

theorem zero : nearest 0 = 0 := by
  have hzero := hnearest.natCast (Nat.zero_le (2 ^ 53))
  rwa [Nat.cast_zero] at hzero

theorem nonneg {x : ℚ} (h : 0 ≤ x) : 0 ≤ nearest x :=
  hnearest.zero.symm.le.trans (hnearest.monotone h)

/-- A bound that is a double itself holds after rounding. -/
theorem le_natCast {x : ℚ} {n : ℕ} (hn : n ≤ 2 ^ 53) (h : x ≤ n) : nearest x ≤ n :=
  (hnearest.monotone h).trans_eq (hnearest.natCast hn)

/-- Up to `2 ^ 33` a double is less than half a millionth away. -/
theorem abs_sub_lt {x : ℚ} (hx : |x| ≤ 2 ^ 33) : |x - nearest x| < 1 / 2 / 10 ^ 6 := by
  obtain ⟨n, hround⟩ : ∃ n : ℤ, |x * 2 ^ 20 - n| ≤ 1 / 2 :=
    ⟨round (x * 2 ^ 20), abs_sub_round (x * 2 ^ 20)⟩
  have hdigits : |n| ≤ 2 ^ 53 := by
    have hscaled : |x * 2 ^ 20| ≤ 2 ^ 53 := by
      rw [abs_mul, abs_of_pos (show (0 : ℚ) < 2 ^ 20 by norm_num)]
      linarith
    have hbelow : |(n : ℚ)| < 2 ^ 53 + 1 := by
      obtain ⟨hround, hround'⟩ := abs_le.mp hround
      obtain ⟨hscaled, hscaled'⟩ := abs_le.mp hscaled
      rw [abs_lt]
      constructor
      · linarith
      · linarith
    have hint : |n| < 2 ^ 53 + 1 := by exact_mod_cast hbelow
    omega
  have hdouble := isBinary64_of_abs_le hdigits (show -1074 ≤ -20 by decide) (by decide)
  have hcloser := hnearest.le x _ hdouble
  have hdist : |x - n * 2 ^ (-20 : ℤ)| ≤ 1 / 2 / 2 ^ 20 := by
    have hsplit : x - n * 2 ^ (-20 : ℤ)
        = (x * 2 ^ 20 - n) / 2 ^ 20 := by
      rw [zpow_neg]
      norm_num
      ring
    rw [hsplit, abs_div, abs_of_pos (show (0 : ℚ) < 2 ^ 20 by norm_num)]
    exact div_le_div_of_nonneg_right hround (by norm_num)
  calc |x - nearest x| ≤ 1 / 2 / 2 ^ 20 := hcloser.trans hdist
    _ < 1 / 2 / 10 ^ 6 := by norm_num

/-- What is rounded to less than a double is less than it. -/
theorem abs_lt_of_abs_lt {x : ℚ} {n : ℤ} (hn : |n| ≤ 2 ^ 53) (h : |nearest x| < n) : |x| < n := by
  have habove := hnearest.le x n (isBinary64_intCast hn)
  have hbelow := hnearest.le x (-n) (isBinary64_intCast hn).neg
  rw [abs_lt] at h ⊢
  by_contra hout
  rw [not_and_or, not_lt, not_lt] at hout
  rcases hout with hout | hout
  · rw [abs_of_nonpos (by linarith), abs_of_nonpos (show x - -(n : ℚ) ≤ 0 by linarith)] at hbelow
    linarith
  · rw [abs_of_nonneg (by linarith), abs_of_nonneg (show 0 ≤ x - (n : ℚ) by linarith)] at habove
    linarith

/-- From `2 ^ 33` on a double is the one nearest to every number that is close to it. -/
theorem eq_of_abs_sub_le {q x : ℚ} (hq : IsBinary64 q) (hlarge : 2 ^ 33 < |q|)
    (hclose : |q - x| ≤ 1 / 2 / 10 ^ 6) : nearest x = q := by
  have hcloser : |x - nearest x| ≤ 1 / 2 / 10 ^ 6 := by
    refine (hnearest.le x q hq).trans ?_
    rwa [abs_sub_comm]
  have hdist : |q - nearest x| ≤ 1 / 10 ^ 6 := by
    have htriangle := abs_sub_le q x (nearest x)
    linarith
  -- `q` is a multiple of `2 ^ -19` above `2 ^ 33`, so that the other is not below it
  obtain ⟨n, hn⟩ := @IsBinary64.exists_multiple q hq (-20) (by norm_num; linarith)
  have hstep : (0 : ℚ) < 2 ^ (-20 + 1 : ℤ) := zpow_pos (by norm_num) _
  have habove : 2 ^ 33 + 2 ^ (-20 + 1 : ℤ) ≤ |q| := by
    by_contra hbelow
    have habs : |q| = ((|n| : ℤ) : ℚ) * 2 ^ (-20 + 1 : ℤ) := by
      rw [hn, abs_mul, Int.cast_abs, abs_of_pos hstep]
    have hpower : (2 : ℚ) ^ 33 = ((2 ^ 52 : ℤ) : ℚ) * 2 ^ (-20 + 1 : ℤ) := by norm_num
    have hsame : |n| = 2 ^ 52 := by
      refine eq_of_abs_sub_lt_step hstep ?_
      rw [← habs, ← hpower, abs_of_pos (by linarith)]
      linarith
    rw [hsame, ← hpower] at habs
    exact absurd habs hlarge.ne'
  have hlarge' : 2 ^ 33 ≤ |nearest x| := by
    have htriangle := abs_sub_abs_le_abs_sub q (nearest x)
    norm_num at habove
    linarith
  obtain ⟨n', hn'⟩ :=
    @IsBinary64.exists_multiple _ (hnearest.isBinary64 x) (-20) (by norm_num; linarith)
  have hsame : n = n' := by
    refine eq_of_abs_sub_lt_step hstep ?_
    rw [← hn, ← hn']
    exact hdist.trans_lt (by norm_num)
  rw [hn', hn, hsame]

/-- **A double survives six decimals exactly when it is the one nearest to a number with six
decimals.** -/
theorem nearest_roundSix_iff {q : ℚ} (hq : IsBinary64 q) :
    nearest (roundSix q) = q ↔ ∃ k : ℤ, nearest (k / 10 ^ 6) = q := by
  constructor
  · intro h
    obtain ⟨k, hk⟩ := exists_roundSix_eq q
    exact ⟨k, hk ▸ h⟩
  · rintro ⟨k, hk⟩
    rcases lt_trichotomy |q| (2 ^ 33) with hsmall | hequal | hlarge
    · -- the count of millionths is the one that is written
      have hbelow : |(k : ℚ) / 10 ^ 6| < ((2 ^ 33 : ℤ) : ℚ) :=
        hnearest.abs_lt_of_abs_lt (by norm_num) (by rw [hk]; exact_mod_cast hsmall)
      have hclose := hnearest.abs_sub_lt (x := (k : ℚ) / 10 ^ 6) (by exact_mod_cast hbelow.le)
      rw [hk, abs_sub_comm] at hclose
      rw [roundSix_eq_of_close hclose, hk]
    · obtain ⟨n, rfl⟩ : ∃ n : ℤ, q = n := by
        rcases (abs_eq (by norm_num)).mp hequal with h | h
        · exact ⟨2 ^ 33, by rw [h]; norm_num⟩
        · exact ⟨-2 ^ 33, by rw [h]; norm_num⟩
      rw [roundSix_intCast, hnearest.eq_self hq]
    · exact hnearest.eq_of_abs_sub_le hq hlarge (abs_sub_roundSix q)

end RoundsToNearest

/-- Rounding to six decimals does not leave the range of the doubles. -/
theorem IsBinary64.abs_roundSix_le {q : ℚ} (hq : IsBinary64 q) : |roundSix q| ≤ maxFinite := by
  by_cases hlarge : 2 ^ 53 ≤ |q|
  · -- it is an integer
    obtain ⟨n, hn⟩ := @IsBinary64.exists_multiple q hq 0 (by norm_num; linarith)
    have hint : q = ((n * 2 : ℤ) : ℚ) := by
      rw [hn]
      push_cast
      norm_num
    rw [hint, roundSix_intCast, ← hint]
    exact hq.abs_le_maxFinite
  · have htriangle := abs_sub_abs_le_abs_sub (roundSix q) q
    have hround := abs_sub_roundSix q
    rw [abs_sub_comm] at hround
    calc |roundSix q| ≤ 2 ^ 53 + 1 := by linarith
      _ ≤ (2 ^ 53 - 1) * 2 ^ 2 := by norm_num
      _ ≤ maxFinite := mul_le_mul_of_nonneg_left (pow_le_pow_right₀ (by norm_num) (by norm_num))
          (by norm_num)

/-! ## The library -/

/-- What the C++ library promises about numbers in decimal notation. `std::stod` throws when the
number is out of the range of the doubles; where the range ends is left open, but it contains 0
and all that lies between a millionth and the largest double. `Double` has one zero, which is
printed as the positive one. -/
structure DecimalLibrary (lib : CppLib) where
  nearest : ℚ → ℚ
  rounds : RoundsToNearest nearest
  InRange : ℚ → Prop
  inRange_zero : InRange 0
  inRange_of_abs : ∀ {x}, 1 / 10 ^ 6 ≤ |x| → |x| ≤ maxFinite → InRange x
  doubleToString_finite : ∀ {q}, IsBinary64 q → lib.doubleToString (.finite q) = fixedSix q
  stod_of_inRange : ∀ {text x}, decimalValue text = some x → InRange x →
    lib.stod text = some (.finite (nearest x))
  stod_of_not_inRange : ∀ {text x}, decimalValue text = some x → ¬ InRange x → lib.stod text = none
  intToDouble_eq : ∀ {n}, InInt64 n → lib.intToDouble n = .finite (nearest n)

namespace DecimalLibrary

variable {lib : CppLib} (D : DecimalLibrary lib)

/-- The number is the double nearest to a number with six decimals. -/
def SixDecimals (q : ℚ) : Prop := ∃ k : ℤ, D.nearest (k / 10 ^ 6) = q

theorem inRange_roundSix {q : ℚ} (hq : IsBinary64 q) : D.InRange (roundSix q) := by
  obtain ⟨k, hk⟩ := exists_roundSix_eq q
  by_cases hzero : k = 0
  · rw [hk, hzero, Int.cast_zero, zero_div]
    exact D.inRange_zero
  · refine D.inRange_of_abs ?_ hq.abs_roundSix_le
    have hone : (1 : ℚ) ≤ |(k : ℚ)| := by exact_mod_cast Int.one_le_abs hzero
    rw [hk, abs_div, abs_of_pos (show (0 : ℚ) < 10 ^ 6 by norm_num)]
    exact div_le_div_of_nonneg_right hone (by norm_num)

/-- What is read from the text of a double. -/
theorem stod_fixedSix {q : ℚ} (hq : IsBinary64 q) :
    lib.stod (fixedSix q) = some (.finite (D.nearest (roundSix q))) :=
  D.stod_of_inRange (decimalValue_fixedSix q) (D.inRange_roundSix hq)

theorem nearest_roundSix_iff_sixDecimals {q : ℚ} (hq : IsBinary64 q) :
    D.nearest (roundSix q) = q ↔ D.SixDecimals q :=
  D.rounds.nearest_roundSix_iff hq

/-- An integer needs no decimals, and neither does the double that stands for it. -/
theorem sixDecimals_nearest (n : ℤ) : D.SixDecimals (D.nearest n) := by
  refine ⟨n * 10 ^ 6, ?_⟩
  rw [show ((n * 10 ^ 6 : ℤ) : ℚ) / 10 ^ 6 = n by push_cast; ring]

end DecimalLibrary

/-! ## An instance -/

/-- Rounding to the nearest double. -/
noncomputable def nearestDouble : ℚ → ℚ := exists_roundsToNearest.choose

theorem roundsToNearest_nearestDouble : RoundsToNearest nearestDouble :=
  exists_roundsToNearest.choose_spec

/-- From the least normal double to the largest. -/
def NormalRange (x : ℚ) : Prop := x = 0 ∨ 1 / 2 ^ 1022 ≤ |x| ∧ |x| ≤ maxFinite

instance : DecidablePred NormalRange := fun _ => inferInstanceAs (Decidable (_ ∨ _))

theorem normalRange_of_abs {x : ℚ} (hlow : 1 / 10 ^ 6 ≤ |x|) (hhigh : |x| ≤ maxFinite) :
    NormalRange x := by
  have hpow : (10 : ℚ) ^ 6 ≤ 2 ^ 1022 := by
    calc (10 : ℚ) ^ 6 ≤ 2 ^ 20 := by norm_num
      _ ≤ 2 ^ 1022 := pow_le_pow_right₀ (by norm_num) (by norm_num)
  exact Or.inr ⟨(one_div_le_one_div_of_le (by norm_num) hpow).trans hlow, hhigh⟩

/-- An instance for concrete inputs: on texts in decimal notation and on finite doubles it reads
and prints what the C++ library does. -/
noncomputable def CppLib.binary64 : CppLib where
  doubleToString
    | .finite q => fixedSix q
    | .posInf => "inf"
    | .negInf => "-inf"
    | .nan => "nan"
  stod s := (decimalValue s).bind fun x =>
    if NormalRange x then some (.finite (nearestDouble x)) else none
  intToDouble n := .finite (nearestDouble n)
  regexSearch _ _ := none
  jsonNumber q := fixedSix q

/-- The instance keeps the promises. -/
noncomputable def DecimalLibrary.binary64 : DecimalLibrary .binary64 where
  nearest := nearestDouble
  rounds := roundsToNearest_nearestDouble
  InRange := NormalRange
  inRange_zero := Or.inl rfl
  inRange_of_abs := normalRange_of_abs
  doubleToString_finite := fun _ => rfl
  stod_of_inRange := fun hvalue hrange => by
    show (decimalValue _).bind _ = _
    rw [hvalue, Option.bind_some, if_pos hrange]
  stod_of_not_inRange := fun hvalue hrange => by
    show (decimalValue _).bind _ = _
    rw [hvalue, Option.bind_some, if_neg hrange]
  intToDouble_eq := fun _ => rfl

end Holonight
