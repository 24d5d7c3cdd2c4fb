import Holonight.Base.Binary64
import Holonight.Storage.Query

/-!
# Doubles in the store (`EventStore::insert`, `parseValuePayload`)

A payload that is a double is written to its row by `std::to_string`, which prints six decimals
whatever the size of the number, and is read again by `std::stod`. What comes back is the double
nearest to the number rounded to a millionth (`parseRow_double`): the payload itself exactly when
it is the double nearest to some number with six decimals (`stored_double_comes_back_iff`). What
has been through the store once is of this kind (`readBack_readBack`).
-/

namespace Holonight

namespace EventStore

section Doubles

variable {lib : CppLib} {event : ObservationEvent} {q : ℚ}

/-- The payload after one pass through the store. -/
def readBack (D : DecimalLibrary lib) (q : ℚ) : ℚ := D.nearest (roundSix q)

/-- A second pass changes nothing. -/
theorem readBack_readBack (D : DecimalLibrary lib) (q : ℚ) :
    readBack D (readBack D q) = readBack D q := by
  obtain ⟨k, hk⟩ := exists_roundSix_eq q
  have hdecimals : D.SixDecimals (readBack D q) := ⟨k, by rw [readBack, hk]⟩
  exact (D.nearest_roundSix_iff_sixDecimals (D.rounds.isBinary64 _)).mpr hdecimals

/-- The payload that `parseRow` makes of the row of a double. -/
theorem parseRow_double (D : DecimalLibrary lib) (hvalue : event.value = .double (.finite q))
    (hq : IsBinary64 q) (k : ℤ) :
    (parseRow lib { bindRow lib event with id := k }).value = .double (.finite (readBack D q)) := by
  have hplain : cString (fixedSix q) = fixedSix q := cString_of_plain (zero_not_mem_fixedSix q)
  have htext : (bindRow lib event).valueText = some (fixedSix q) := by
    show some (cString (encodeValue lib event.value).2) = _
    rw [hvalue]
    show some (cString (lib.doubleToString (.finite q))) = _
    rw [D.doubleToString_finite hq, hplain]
  have htype : (bindRow lib event).valueType = "double" := by
    show cString (encodeValue lib event.value).1 = _
    rw [hvalue]
    rfl
  show parseValuePayload lib (readColumnString (some (bindRow lib event).valueType))
    (readColumnString (bindRow lib event).valueText) = _
  rw [htext, htype]
  show EventValue.double ((lib.stod (cString (fixedSix q))).getD (.finite 0)) = _
  rw [hplain, D.stod_fixedSix hq]
  rfl

end Doubles

/-- **A double comes back from the store exactly when it is the double nearest to a number with
six decimals**: after a successful `insert`, in every query that the event satisfies and whose
limit leaves room for it. -/
theorem stored_double_comes_back_iff (lib : CppLib) (D : DecimalLibrary lib) (order : OrderBy Row)
    (db after : Db) (event : ObservationEvent) (o : InsertOutcome) (k : ℤ)
    (hinsert : insert lib db event o = (after, .ok k)) (q : ℚ)
    (hvalue : event.value = .double (.finite q)) (hq : IsBinary64 q) (filter : EventQuery)
    (hmatches : MatchesEvent filter event)
    (hlimit : ∀ n ∈ filter.limit, (matchingRows filter after.view).length ≤ n ∧ n < 2 ^ 64) :
    (∃ events, sqlQuery lib order after filter {} = .ok events ∧
      (events.filter fun e => decide (e.id = k)).map ObservationEvent.value = [event.value]) ↔
    D.SixDecimals q := by
  obtain ⟨events, hquery, hfound⟩ := query_after_insert order hinsert hmatches hlimit
  have hvalues : (events.filter fun e => decide (e.id = k)).map ObservationEvent.value
      = [.double (.finite (readBack D q))] := by
    rw [hfound, List.map_singleton, parseRow_double D hvalue hq]
  rw [← D.nearest_roundSix_iff_sixDecimals hq]
  constructor
  · rintro ⟨events', hquery', hsame⟩
    obtain rfl : events = events' := Except.ok.inj (hquery.symm.trans hquery')
    rw [hvalues, hvalue] at hsame
    exact Double.finite.inj (EventValue.double.inj (List.singleton_inj.mp hsame))
  · intro hstable
    refine ⟨events, hquery, ?_⟩
    rw [hvalues, hvalue, readBack, hstable]

/-- A storage event with the given percentage. -/
def percentEvent (q : ℚ) : ObservationEvent where
  timestamp := 0
  source := "statvfs"
  category := "storage"
  subject := "/"
  signal := "space_pressure"
  value := .double (.finite q)

/-- Whole percents come back. -/
theorem stored_double_comes_back_whole :
    ∃ events, sqlQuery .binary64 .stable
        (insert .binary64 ⟨Table.empty, none⟩ (percentEvent 97) {}).1
          { source := some "statvfs" } {} = .ok events ∧
      (events.filter fun e => decide (e.id = 1)).map ObservationEvent.value
        = [.double (.finite 97)] := by
  have hdouble : IsBinary64 97 := isBinary64_intCast (n := 97) (by norm_num)
  refine (stored_double_comes_back_iff .binary64 .binary64 .stable ⟨Table.empty, none⟩ _
    (percentEvent 97) {} 1 rfl 97 rfl hdouble { source := some "statvfs" } (by decide) ?_).mpr ?_
  · rintro n hn
    cases hn
  · have hdecimals := DecimalLibrary.binary64.sixDecimals_nearest 97
    rwa [Int.cast_ofNat, DecimalLibrary.binary64.rounds.eq_self hdouble] at hdecimals

/-- One 128th has seven decimals: the last one is lost. -/
theorem stored_double_loses_digit :
    ¬ ∃ events, sqlQuery .binary64 .stable
        (insert .binary64 ⟨Table.empty, none⟩ (percentEvent (1 / 128)) {}).1
          { source := some "statvfs" } {} = .ok events ∧
      (events.filter fun e => decide (e.id = 1)).map ObservationEvent.value
        = [.double (.finite (1 / 128))] := by
  have hdouble : IsBinary64 (1 / 128) := ⟨1, -7, by norm_num, by norm_num, by decide, by decide⟩
  have hwritten : roundSix (1 / 128) = 7812 / 10 ^ 6 := by decide +kernel
  obtain ⟨events, hquery, hfound⟩ := query_after_insert .stable
    (show insert .binary64 ⟨Table.empty, none⟩ (percentEvent (1 / 128)) {} = (_, .ok 1) from rfl)
    (show MatchesEvent { source := some "statvfs" } (percentEvent (1 / 128)) by decide)
    (fun n hn => by cases hn)
  rintro ⟨events', hquery', hsame⟩
  obtain rfl : events = events' := Except.ok.inj (hquery.symm.trans hquery')
  rw [hfound, List.map_singleton, parseRow_double .binary64 rfl hdouble] at hsame
  have hback : nearestDouble (7812 / 10 ^ 6) = 1 / 128 := by
    rw [← hwritten]
    exact Double.finite.inj (EventValue.double.inj (List.singleton_inj.mp hsame))
  -- a double that is nearer to what was written
  have hcloser := roundsToNearest_nearestDouble.le (7812 / 10 ^ 6) (131066 / 2 ^ 24)
    ⟨131066, -24, by norm_num, by norm_num, by decide, by decide⟩
  rw [hback] at hcloser
  norm_num [abs_of_neg, abs_of_pos] at hcloser

end EventStore

end Holonight
