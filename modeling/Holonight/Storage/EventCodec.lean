import Holonight.Base.JsonLiterals
import Holonight.Base.JsonObjects
import Holonight.Storage.ObservationJson

/-!
# Decoding what was encoded

`fromJson` undoes `toJson` for every event of valid texts, whatever its clock reads: the time
comes back in whole microseconds, the attributes in the library's spelling, and everything
else as it was. What comes back has the same JSON text again (`fromJson_undoes_toJson`).

A text that was not written by `toJson` may have integers of any size. `fromJson` reports none
of those it cannot represent: **the integers it decodes are those in the text exactly when they
fit**, the id and the value in 64 bits and the time in the 64 bits of a clock that counts
nanoseconds (`fromJson_integers_iff`).
-/

namespace Holonight

namespace ObservationEvent

open Json

section Codec

variable {lib : CppLib} (J : JsonLibrary lib)

/-- An event that can be written as JSON: UTF-8 texts, no infinity and no NaN, attributes that
are an object; the rest are the ranges of the types. -/
structure Exportable (event : ObservationEvent) : Prop where
  texts : utf8Texts event = true
  id : InInt64 event.id
  timestamp : InInt64 event.timestamp
  value : PortableValue J event.value
  finite : ∀ d, event.value = .double d → d.isFinite = true
  attributes : ∃ fields, attributesOf J event.attributesJson = .obj fields

/-- The event that is decoded: its time in whole microseconds and its attributes in the
library's spelling. -/
def decoded (event : ObservationEvent) : ObservationEvent :=
  { event with
    timestamp := toMicros event.timestamp * 1000
    attributesJson := canonicalAttributes J event.attributesJson }

section RoundTrip

variable {J} {event : ObservationEvent}

theorem toMicros_mul (n : ℤ) : toMicros (n * 1000) = n :=
  Int.mul_tdiv_cancel n (by decide)

/-- Truncation towards zero stays in the range of the clock. -/
theorem inInt64_toMicros_mul {t : TimePoint} (h : InInt64 t) : InInt64 (toMicros t * 1000) := by
  obtain ⟨hlo, hhi⟩ := h
  have hsplit : toMicros t * 1000 = t - t.tmod 1000 := Int.tdiv_mul_self t 1000
  rcases Int.le_total 0 t with hsign | hsign
  · have hmod : 0 ≤ t.tmod 1000 := Int.tmod_nonneg 1000 hsign
    have hmicros : 0 ≤ toMicros t := toMicros_nonneg hsign
    exact ⟨by omega, by omega⟩
  · have hmod : 0 ≤ (-t).tmod 1000 := Int.tmod_nonneg 1000 (by omega)
    have hmicros : toMicros t ≤ 0 := toMicros_mono hsign
    rw [Int.neg_tmod] at hmod
    exact ⟨by omega, by omega⟩

/-- `toJson` writes only the microseconds. -/
theorem toJson_micros (event : ObservationEvent) :
    toJson J { event with timestamp := toMicros event.timestamp * 1000 } = toJson J event := by
  unfold toJson eventJson
  congr 3
  unfold idField dataFields
  rw [toMicros_mul]

/-- The text of an object is not empty. -/
theorem dump_obj_ne_nil {fmt : ℚ → Bytes} {fields : List (Bytes × Json)} {text : Bytes}
    (h : (Json.obj fields).dump fmt = .ok text) : text ≠ [] := by
  rw [dump] at h
  obtain ⟨parts, -, h⟩ := bind_eq_ok.mp h
  cases h
  simp

/-- The library's spelling of the attributes is read as the attributes. -/
theorem attributesOf_canonical {fields : List (Bytes × Json)} {attributes : Bytes}
    (h : attributesOf J attributes = .obj fields) :
    attributesOf J (canonicalAttributes J attributes) = reread (.obj fields) := by
  have hsound : Sound J.IsDouble (.obj fields) := h ▸ attributesOf_sound _
  obtain ⟨text, htext⟩ := dump_eq_ok lib.jsonNumber hsound.2
  have hcanonical : canonicalAttributes J attributes = text := by
    rw [canonicalAttributes, h, htext]
  rw [hcanonical, attributesOf, if_neg (dump_obj_ne_nil htext), J.parse_dump hsound.1 htext]

/-- Other attributes of the same text do not change the text of the event. -/
theorem toJson_attributes {attributes : Bytes}
    (h : (attributesOf J attributes).dump lib.jsonNumber
      = (attributesOf J event.attributesJson).dump lib.jsonNumber) :
    toJson J { event with attributesJson := attributes } = toJson J event := by
  have hsame : ∀ f : Bytes × Json, SameText lib.jsonNumber f f := fun _ => ⟨rfl, rfl⟩
  refine dump_assignFields_eq (List.rel_append ?_ ?_)
  · exact List.forall₂_same.mpr fun f _ => hsame f
  · unfold dataFields
    -- only the last of the eight assignments differs
    exact .cons (hsame _) (.cons (hsame _) (.cons (hsame _) (.cons (hsame _) (.cons (hsame _)
      (.cons (hsame _) (.cons (hsame _) (.cons ⟨rfl, h⟩ .nil)))))))

/-- **JSON decoding undoes encoding**: `toJson` returns a text, `fromJson` of it is the event in
every field but for the time, in whole microseconds, and the spelling of the attributes, and
that event has the same text again. -/
theorem fromJson_undoes_toJson (event : ObservationEvent) (h : Exportable J event)
    (overflow : ℤ → ℤ) (now : TimePoint) :
    ∃ text, toJson J event = .ok text ∧
      fromJson J overflow now text = .ok (decoded J event) ∧
      toJson J (decoded J event) = .ok text := by
  obtain ⟨text, htext⟩ := toJson_eq_ok h.texts
  have hportable : Portable J { event with timestamp := toMicros event.timestamp * 1000 } :=
    { texts := h.texts
      id := h.id
      micros := by rw [toMicros_mul]
      timestamp := inInt64_toMicros_mul h.timestamp
      value := h.value
      attributes := h.attributes }
  refine ⟨text, htext, ?_, ?_⟩
  · rw [fromJson_toJson hportable overflow now ((toJson_micros event).trans htext)]
    simp only [rereadValue_of_finite h.finite]
    rfl
  · obtain ⟨fields, hfields⟩ := h.attributes
    have hsame : (attributesOf J (canonicalAttributes J event.attributesJson)).dump lib.jsonNumber
        = (attributesOf J event.attributesJson).dump lib.jsonNumber := by
      rw [attributesOf_canonical hfields, dump_reread, hfields]
    rw [← htext, ← toJson_attributes hsame]
    exact toJson_micros { event with attributesJson := canonicalAttributes J event.attributesJson }

end RoundTrip

end Codec

/-- An event before the epoch, between two microseconds, with a space in its attributes. -/
def earlySample : ObservationEvent where
  timestamp := -1234567
  source := "storage"
  category := "storage"
  subject := "/"
  signal := "space_pressure"
  value := .double (.finite 97)
  severity := .warning
  attributesJson := "\x7b \x7d"

theorem fromJson_undoes_toJson_early :
    ∃ text, toJson JsonLibrary.integral earlySample = .ok text ∧
      fromJson JsonLibrary.integral (fun _ => 0) 0 text
        = .ok (decoded JsonLibrary.integral earlySample) ∧
      toJson JsonLibrary.integral (decoded JsonLibrary.integral earlySample) = .ok text :=
  @fromJson_undoes_toJson _ JsonLibrary.integral earlySample
    { texts := by decide +kernel
      id := by decide
      timestamp := by decide
      value := ⟨97, rfl⟩
      finite := by
        intro d hd
        cases hd
        rfl
      attributes := ⟨[], rfl⟩ } (fun _ => 0) 0

/-! ## Integers of any size -/

section Integers

variable {lib : CppLib} {J : JsonLibrary lib} {root value : Json} {n : ℤ}

theorem inInt64_toInt64 (n : ℕ) : InInt64 (toInt64 n) := by
  have hle := @Int.bmod_lt (n : ℤ) (2 ^ 64) (by decide)
  have hge := @Int.le_bmod (n : ℤ) (2 ^ 64) (by decide)
  unfold toInt64 InInt64
  constructor
  · omega
  · omega

/-- What `fromJson` takes from the document. -/
theorem fromJson_eq_ok {overflow : ℤ → ℤ} {now : TimePoint} {text : Bytes}
    {event : ObservationEvent} (h : fromJson J overflow now text = .ok event) :
    ∃ root, J.parse text = .ok root ∧ event.id = readId J root ∧
      event.timestamp = readTimestamp J overflow now root ∧
      event.value = parseEventValue J root := by
  unfold fromJson at h
  cases hparse : J.parse text with
  | error what =>
    rw [hparse] at h
    cases h
  | ok root =>
    rw [hparse] at h
    refine ⟨root, rfl, ?_⟩
    cases hattributes : readAttributes J root with
    | error what =>
      simp only [bind, Except.bind, hattributes, Except.mapError] at h
      cases h
    | ok attributes =>
      simp only [bind, Except.bind, hattributes, Except.mapError, pure, Except.pure] at h
      cases h
      exact ⟨rfl, rfl, rfl⟩

/-- A value of the document is one the library can hold. -/
theorem wellFormed_field {text key : Bytes} (hparse : J.parse text = .ok root)
    (hfield : root.field key = some value) : WellFormed J.IsDouble value := by
  have hroot := J.wellFormed_parse hparse
  cases root with
  | obj fields => exact wellFormedFields_iff.mp hroot.2 _ (mem_of_lookup hfield)
  | _ => cases hfield

/-- Whatever is read as an integer is one of 64 bits. -/
theorem inInt64_getInt64 (hwf : WellFormed J.IsDouble value) (hint : isInteger value = true) :
    InInt64 (getInt64 J value) := by
  cases value with
  | int m => exact hwf
  | uint m => exact inInt64_toInt64 m
  | _ => cases hint

/-- A literal of 64 bits is read as the integer it is. -/
theorem getInt64_of_keepsInteger (hkeeps : KeepsInteger n value) (hfits : InInt64 n) :
    isInteger value = true ∧ getInt64 J value = n ∧ valueOf J value = .int n := by
  cases value with
  | int m =>
    obtain rfl : m = n := hkeeps
    exact ⟨rfl, rfl, rfl⟩
  | uint m =>
    have hm : (m : ℤ) = n := hkeeps
    have hread : toInt64 m = n := by
      rw [← @toInt64_toNat n (by omega) hfits.2, ← hm, Int.toNat_natCast]
    exact ⟨rfl, hread, congrArg EventValue.int hread⟩
  | float d =>
    have hout : n < -2 ^ 63 ∨ 2 ^ 64 ≤ n := hkeeps
    obtain ⟨hlo, hhi⟩ := hfits
    omega
  | _ => exact hkeeps.elim

theorem readId_eq_iff {text : Bytes} (hreads : ReadsIntegers J.parse)
    (hparse : J.parse text = .ok root) (hliteral : integerLiteral text "id" = some n) :
    readId J root = n ↔ InInt64 n := by
  obtain ⟨value, hfield, hkeeps⟩ := hreads hparse hliteral
  unfold readId
  rw [hfield]
  simp only
  constructor
  · intro hid
    rw [← hid]
    split
    · rename_i hint
      exact inInt64_getInt64 (wellFormed_field hparse hfield) hint
    · exact ⟨by decide, by decide⟩
  · intro hfits
    obtain ⟨hint, hread, -⟩ := @getInt64_of_keepsInteger _ J _ _ hkeeps hfits
    rw [if_pos hint, hread]

theorem parseEventValue_eq_iff {text : Bytes} (hreads : ReadsIntegers J.parse)
    (hparse : J.parse text = .ok root) (hliteral : integerLiteral text "value" = some n) :
    parseEventValue J root = .int n ↔ InInt64 n := by
  obtain ⟨value, hfield, hkeeps⟩ := hreads hparse hliteral
  have hwf := wellFormed_field hparse hfield
  unfold parseEventValue
  rw [hfield]
  simp only
  constructor
  · intro hvalue
    cases value with
    | int m =>
      cases hvalue
      exact hwf
    | uint m =>
      have hread : toInt64 m = n := EventValue.int.inj hvalue
      exact hread ▸ inInt64_toInt64 m
    | _ => cases hvalue
  · intro hfits
    exact (@getInt64_of_keepsInteger _ J _ _ hkeeps hfits).2.2

/-- The clock of the decoded event stays in its range, so only a count of microseconds that fits
it can be decoded. -/
theorem readTimestamp_eq_iff {text : Bytes} {overflow : ℤ → ℤ} (now : TimePoint)
    (hoverflow : ∀ n, InInt64 (overflow n)) (hreads : ReadsIntegers J.parse)
    (hparse : J.parse text = .ok root)
    (hliteral : integerLiteral text "timestamp_us" = some n) :
    readTimestamp J overflow now root = n * 1000 ↔ InInt64 (n * 1000) := by
  obtain ⟨value, hfield, hkeeps⟩ := hreads hparse hliteral
  have hnumber : isNumber value = true := by
    cases value with
    | int m => rfl
    | uint m => rfl
    | float d => rfl
    | _ => exact hkeeps.elim
  unfold readTimestamp
  rw [hfield]
  simp only [if_pos hnumber]
  constructor
  · intro htime
    rw [← htime, signed64]
    split
    · assumption
    · exact hoverflow _
  · intro hfits
    have hfits' : InInt64 n := by
      obtain ⟨hlo, hhi⟩ := hfits
      exact ⟨by omega, by omega⟩
    rw [(@getInt64_of_keepsInteger _ J _ _ hkeeps hfits').2.1, signed64_of_fits hfits]

/-- **Decoded integers are the integers in the document exactly when these can be
represented**: for every text that `fromJson` accepts, the id and the value where they are
integer literals, and the microseconds of the time. -/
theorem fromJson_integers_iff (J : JsonLibrary lib) (hreads : ReadsIntegers J.parse)
    (overflow : ℤ → ℤ) (hoverflow : ∀ n, InInt64 (overflow n)) (now : TimePoint) (text : Bytes)
    (event : ObservationEvent) (h : fromJson J overflow now text = .ok event) :
    ((∀ n, integerLiteral text "id" = some n → event.id = n) ∧
      (∀ n, integerLiteral text "value" = some n → event.value = .int n) ∧
      ∀ n, integerLiteral text "timestamp_us" = some n → event.timestamp = n * 1000) ↔
    (∀ n, integerLiteral text "id" = some n → InInt64 n) ∧
      (∀ n, integerLiteral text "value" = some n → InInt64 n) ∧
      ∀ n, integerLiteral text "timestamp_us" = some n → InInt64 (n * 1000) := by
  obtain ⟨root, hparse, hid, htime, hvalue⟩ := fromJson_eq_ok h
  rw [hid, htime, hvalue]
  refine and_congr ?_ (and_congr ?_ ?_)
  · exact forall_congr' fun n => imp_congr_right fun hliteral =>
      readId_eq_iff hreads hparse hliteral
  · exact forall_congr' fun n => imp_congr_right fun hliteral =>
      parseEventValue_eq_iff hreads hparse hliteral
  · exact forall_congr' fun n => imp_congr_right fun hliteral =>
      readTimestamp_eq_iff now hoverflow hreads hparse hliteral

end Integers

/-- An id and a time that fit. -/
theorem fromJson_integers_small :
    ∃ event, fromJson JsonLibrary.integral (fun _ => 0) 0
        "\x7b\"id\":7,\"timestamp_us\":-5\x7d" = .ok event ∧ event.id = 7 ∧
      event.timestamp = -5000 := by
  have hevent : fromJson JsonLibrary.integral (fun _ => 0) 0
      "\x7b\"id\":7,\"timestamp_us\":-5\x7d"
        = .ok { id := 7, timestamp := -5000, source := [], category := [], subject := [],
                signal := [] } := by
    decide +kernel
  have hid : integerLiteral "\x7b\"id\":7,\"timestamp_us\":-5\x7d" "id" = some 7 := by
    decide +kernel
  have hvalue : integerLiteral "\x7b\"id\":7,\"timestamp_us\":-5\x7d" "value" = none := by
    decide +kernel
  have htime : integerLiteral "\x7b\"id\":7,\"timestamp_us\":-5\x7d" "timestamp_us"
      = some (-5) := by
    decide +kernel
  have hread := (fromJson_integers_iff JsonLibrary.integral (readsIntegers_parseWith _) (fun _ => 0)
    (fun _ => ⟨by decide, by decide⟩) 0 _ _ hevent).mpr
    (by simp [hid, hvalue, htime, InInt64])
  exact ⟨_, hevent, hread.1 7 hid, hread.2.2 (-5) htime⟩

/-- An id of `2 ^ 64 - 1` is decoded as `-1`. -/
theorem fromJson_wraps_id :
    ¬∀ (text : Bytes) (event : ObservationEvent),
      fromJson JsonLibrary.integral (fun _ => 0) 0 text = .ok event →
      ∀ n, integerLiteral text "id" = some n → event.id = n := by
  intro h
  have hevent : fromJson JsonLibrary.integral (fun _ => 0) 0
      "\x7b\"id\":18446744073709551615\x7d"
        = .ok { id := -1, timestamp := 0, source := [], category := [], subject := [],
                signal := [] } := by
    decide +kernel
  have hid : integerLiteral "\x7b\"id\":18446744073709551615\x7d" "id"
      = some 18446744073709551615 := by
    decide +kernel
  exact absurd (h _ _ hevent _ hid) (by decide)

end ObservationEvent

end Holonight
