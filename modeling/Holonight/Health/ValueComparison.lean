import Holonight.Base.Binary64
import Holonight.Health.RuleEngine

/-!
# Comparing a payload with a number (`matchValueOperator`)

Four of the six comparison operators compare numbers, the payload with what `std::stod` reads in
the target. `Equals` and `NotEquals` compare texts, `std::to_string` of the payload with the
target: the two branches of `evaluateNumericComparison` for them are never taken.

`coherent_iff` says when the operators agree with each other all the same. They disagree on a
target out of the range of the doubles, which every ordering rejects; on a target that is the
number of the payload in another spelling; and on a double whose text with six decimals is no
longer its number.
-/

namespace Holonight

namespace RuleEngine

/-- The comparison operators agree on a payload and a target. -/
structure Coherent (lib : CppLib) (value : EventValue) (target : Bytes) : Prop where
  equals_iff : matchValueOperator lib value target .equals = true ↔
    matchValueOperator lib value target .greaterThanOrEqual = true ∧
      matchValueOperator lib value target .lessThanOrEqual = true
  notEquals_iff : matchValueOperator lib value target .notEquals = true ↔
    ¬ matchValueOperator lib value target .equals = true
  exactly_one :
    (matchValueOperator lib value target .lessThan,
      matchValueOperator lib value target .equals,
      matchValueOperator lib value target .greaterThan)
        ∈ [(true, false, false), (false, true, false), (false, false, true)]

/-- The payload is an `int64_t` or a finite double. -/
def IsNumber : EventValue → Prop
  | .int n => InInt64 n
  | .double (.finite q) => IsBinary64 q
  | _ => False

/-- The text of such a payload, as `std::to_string` prints it. -/
def spelling : EventValue → Bytes
  | .int n => decimal n
  | .double (.finite q) => fixedSix q
  | _ => []

/-- The double that stands for it in a comparison. -/
def numberOf {lib : CppLib} (D : DecimalLibrary lib) : EventValue → ℚ
  | .int n => D.nearest n
  | .double (.finite q) => q
  | _ => 0

theorem isNumber_cases {value : EventValue} (h : IsNumber value) :
    (∃ n, value = .int n ∧ InInt64 n) ∨ ∃ q, value = .double (.finite q) ∧ IsBinary64 q := by
  cases value with
  | none => exact h.elim
  | bool b => exact h.elim
  | int n => exact Or.inl ⟨n, rfl, h⟩
  | double d =>
    cases d with
    | finite q => exact Or.inr ⟨q, rfl, h⟩
    | posInf => exact h.elim
    | negInf => exact h.elim
    | nan => exact h.elim
  | string s => exact h.elim

section Operators

variable {lib : CppLib} (D : DecimalLibrary lib) {value : EventValue} {target : Bytes} {x : ℚ}
  {operatorVal : MatchOperator}

include D

theorem valueParts_eq (hvalue : IsNumber value) :
    valueParts lib value = (spelling value, some (.finite (numberOf D value))) := by
  obtain ⟨n, rfl, hn⟩ | ⟨q, rfl, hq⟩ := isNumber_cases hvalue
  · show (decimal n, some (lib.intToDouble n)) = _
    rw [D.intToDouble_eq hn]
    rfl
  · show (lib.doubleToString (.finite q), some (Double.finite q)) = _
    rw [D.doubleToString_finite hq]
    rfl

/-- The equality operators compare texts. -/
theorem matchValueOperator_equals (hvalue : IsNumber value) :
    matchValueOperator lib value target .equals = decide (spelling value = target) := by
  unfold matchValueOperator
  rw [valueParts_eq D hvalue]
  rfl

theorem matchValueOperator_notEquals (hvalue : IsNumber value) :
    matchValueOperator lib value target .notEquals = decide (spelling value ≠ target) := by
  unfold matchValueOperator
  rw [valueParts_eq D hvalue]
  rfl

/-- The other four compare numbers. -/
theorem matchValueOperator_ordering (hvalue : IsNumber value) (hx : decimalValue target = some x)
    (hrange : D.InRange x) (hop : operatorVal.isOrdering = true) :
    matchValueOperator lib value target operatorVal
      = evaluateNumericComparison (.finite (numberOf D value)) (.finite (D.nearest x))
          operatorVal := by
  unfold matchValueOperator
  rw [valueParts_eq D hvalue, hop, D.stod_of_inRange hx hrange]

/-- A number that `std::stod` rejects fails them. -/
theorem matchValueOperator_outOfRange (hvalue : IsNumber value)
    (hx : decimalValue target = some x) (hrange : ¬ D.InRange x)
    (hop : operatorVal.isOrdering = true) :
    matchValueOperator lib value target operatorVal = false := by
  unfold matchValueOperator
  rw [valueParts_eq D hvalue, hop, D.stod_of_not_inRange hx hrange]

/-- A target that is spelled as the payload is its number, but for a double that six decimals do
not hold. -/
theorem nearest_eq_numberOf_iff (hvalue : IsNumber value)
    (hx : decimalValue (spelling value) = some x) :
    D.nearest x = numberOf D value ↔ D.SixDecimals (numberOf D value) := by
  obtain ⟨n, rfl, -⟩ | ⟨q, rfl, hq⟩ := isNumber_cases hvalue
  · have hn : (n : ℚ) = x := Option.some.inj ((decimalValue_decimal n).symm.trans hx)
    rw [← hn]
    exact iff_of_true rfl (D.sixDecimals_nearest n)
  · have hround : roundSix q = x := Option.some.inj ((decimalValue_fixedSix q).symm.trans hx)
    rw [← hround]
    exact D.nearest_roundSix_iff_sixDecimals hq

/-- In range, the operators agree when the texts are equal just as the numbers are. -/
theorem coherent_iff_of_inRange (hvalue : IsNumber value) (hx : decimalValue target = some x)
    (hrange : D.InRange x) :
    Coherent lib value target ↔ (spelling value = target ↔ D.nearest x = numberOf D value) := by
  have hequals : matchValueOperator lib value target .equals = decide (spelling value = target) :=
    matchValueOperator_equals D hvalue
  have hnotEquals : matchValueOperator lib value target .notEquals
      = decide (spelling value ≠ target) := matchValueOperator_notEquals D hvalue
  have hge : matchValueOperator lib value target .greaterThanOrEqual
      = decide (D.nearest x ≤ numberOf D value) :=
    matchValueOperator_ordering D hvalue hx hrange rfl
  have hle : matchValueOperator lib value target .lessThanOrEqual
      = decide (numberOf D value ≤ D.nearest x) :=
    matchValueOperator_ordering D hvalue hx hrange rfl
  have hgt : matchValueOperator lib value target .greaterThan
      = decide (D.nearest x < numberOf D value) :=
    matchValueOperator_ordering D hvalue hx hrange rfl
  have hlt : matchValueOperator lib value target .lessThan
      = decide (numberOf D value < D.nearest x) :=
    matchValueOperator_ordering D hvalue hx hrange rfl
  constructor
  · rintro ⟨hiff, -, -⟩
    rw [hequals, hge, hle, decide_eq_true_iff, decide_eq_true_iff, decide_eq_true_iff] at hiff
    rw [hiff, le_antisymm_iff]
  · intro hsame
    refine ⟨?_, ?_, ?_⟩
    · rw [hequals, hge, hle, decide_eq_true_iff, decide_eq_true_iff, decide_eq_true_iff, hsame,
        le_antisymm_iff]
    · rw [hequals, hnotEquals, decide_eq_true_iff, decide_eq_true_iff]
    · have hdecide : decide (spelling value = target) = decide (D.nearest x = numberOf D value) :=
        decide_eq_decide.mpr hsame
      rw [hlt, hequals, hgt, hdecide]
      rcases lt_trichotomy (D.nearest x) (numberOf D value) with h | h | h
      · simp [h, h.ne, h.not_gt]
      · simp [h]
      · simp [h, h.ne', h.not_gt]

end Operators

/-- **When the comparison operators agree**: exactly when the target is in the range of the
doubles, is spelled as the payload if it is its number, and is its number if it is spelled so,
which fails only for doubles that six decimals do not hold. -/
theorem coherent_iff (lib : CppLib) (D : DecimalLibrary lib) (value : EventValue)
    (hvalue : IsNumber value) (target : Bytes) (x : ℚ) (hx : decimalValue target = some x) :
    Coherent lib value target ↔
      D.InRange x ∧ (D.nearest x = numberOf D value → spelling value = target) ∧
        (spelling value = target → D.SixDecimals (numberOf D value)) := by
  by_cases hrange : D.InRange x
  · rw [coherent_iff_of_inRange D hvalue hx hrange]
    constructor
    · intro hsame
      refine ⟨hrange, hsame.mpr, ?_⟩
      intro hspelled
      rw [← nearest_eq_numberOf_iff D hvalue (hspelled ▸ hx)]
      exact hsame.mp hspelled
    · rintro ⟨-, hnumber, hspelling⟩
      refine ⟨?_, hnumber⟩
      intro hspelled
      exact (nearest_eq_numberOf_iff D hvalue (hspelled ▸ hx)).mpr (hspelling hspelled)
  · -- no ordering holds, so equality may neither hold nor fail
    refine iff_of_false ?_ (fun h => hrange h.1)
    rintro ⟨hiff, -, hone⟩
    have hfalse : ∀ operatorVal, operatorVal.isOrdering = true →
        matchValueOperator lib value target operatorVal = false := fun _ hop =>
      matchValueOperator_outOfRange D hvalue hx hrange hop
    rw [hfalse .greaterThanOrEqual rfl] at hiff
    have hequals : matchValueOperator lib value target .equals = false :=
      Bool.eq_false_iff.mpr fun h => Bool.false_ne_true (hiff.mp h).1
    rw [hfalse .lessThan rfl, hfalse .greaterThan rfl, hequals] at hone
    exact absurd hone (by decide)

/-- An integer and its own text. -/
theorem coherent_five : Coherent .binary64 (.int 5) "5" := by
  have hrange : NormalRange 5 :=
    normalRange_of_abs (by norm_num) (isBinary64_intCast (n := 5) (by norm_num)).abs_le_maxFinite
  refine (coherent_iff .binary64 .binary64 (.int 5) (show InInt64 5 by decide) "5" 5
    (by decide +kernel)).mpr ⟨hrange, ?_, ?_⟩
  · intro _
    show decimal 5 = "5"
    decide +kernel
  · intro _
    exact DecimalLibrary.binary64.sixDecimals_nearest 5

/-- The number 96.5 and its text with one decimal: neither is less than the other, and they are
not equal. -/
theorem not_coherent_one_decimal : ¬ Coherent .binary64 (.double (.finite (193 / 2))) "96.5" := by
  have hdouble : IsBinary64 (193 / 2) := ⟨193, -1, by norm_num, by norm_num, by decide, by decide⟩
  have hrange : NormalRange (193 / 2) := normalRange_of_abs (by norm_num) hdouble.abs_le_maxFinite
  have htarget : decimalValue "96.5" = some (193 / 2) := by decide +kernel
  have hvalue : IsNumber (.double (.finite (193 / 2))) := hdouble
  intro hcoherent
  have hsame := (coherent_iff_of_inRange .binary64 hvalue htarget hrange).mp hcoherent
  have hspelled : fixedSix (193 / 2) = "96.5" :=
    hsame.mpr (roundsToNearest_nearestDouble.eq_self hdouble)
  exact absurd hspelled (by decide +kernel)

end RuleEngine

end Holonight
