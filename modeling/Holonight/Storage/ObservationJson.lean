import Holonight.Base.JsonLibrary
import Holonight.Storage.ObservationEvent

/-!
# Events as JSON texts (`ObservationEvent::toJson`, `ObservationEvent::fromJson`)

`toJson` writes one object on one line; `fromJson` takes from an object what it finds there
and leaves the rest at the defaults. `fromJson_toJson` is the round trip, for every event
that JSON can carry (`Portable`): the attributes come back in the library's own spelling,
and an infinity or NaN comes back as no value (`rereadValue`).

An event whose texts are not UTF-8 has no JSON text: `toJson` throws (`toJson_isOk_iff`).
-/

namespace Holonight

namespace ObservationEvent

open Json

section Codec

variable {lib : CppLib} (J : JsonLibrary lib)

/-! ## Writing -/

/-- The JSON value of a payload (ObservationEvent.cpp:65–74). -/
def valueJson : EventValue → Json
  | .none => .null
  | .bool b => .bool b
  | .int n => .int n
  | .double d => .float d
  | .string s => .str s

/-- The attributes of an event; a text that does not parse counts as an empty object
(ObservationEvent.cpp:76–80). -/
def attributesOf (attributes : Bytes) : Json :=
  match J.parse (if attributes = [] then "\x7b\x7d" else attributes) with
  | .ok j => j
  | .error _ => .obj []

/-- An event that was not stored has no id (ObservationEvent.cpp:52–54). -/
def idField (event : ObservationEvent) : List (Bytes × Json) :=
  if event.id ≠ 0 then [("id", .int event.id)] else []

/-- The other assignments of `toJson`, in their order (ObservationEvent.cpp:56–80). -/
def dataFields (event : ObservationEvent) : List (Bytes × Json) :=
  [("timestamp_us", .int (toMicros event.timestamp)),
    ("source", .str event.source),
    ("category", .str event.category),
    ("subject", .str event.subject),
    ("signal", .str event.signal),
    ("severity", .str (severityToString event.severity)),
    ("value", valueJson event.value),
    ("attributes", attributesOf J event.attributesJson)]

/-- The object that `toJson` builds. -/
def eventJson (event : ObservationEvent) : Json :=
  .obj (assignFields (idField event ++ dataFields J event) [])

/-- `ObservationEvent::toJson` (ObservationEvent.cpp:50–83). -/
def toJson (event : ObservationEvent) : Except Exn Bytes :=
  (eventJson J event).dump lib.jsonNumber

/-! ## Reading -/

/-- `get<int64_t>()` of a number: an unsigned one is converted modulo `2 ^ 64`. -/
def getInt64 : Json → ℤ
  | .int n => n
  | .uint n => toInt64 n
  | .float d => J.castInt64 d
  | _ => 0

/-- `is_number_integer()`. -/
def isInteger : Json → Bool
  | .int _ => true
  | .uint _ => true
  | _ => false

/-- `is_number()`. -/
def isNumber : Json → Bool
  | .float _ => true
  | j => isInteger j

/-- A string field, empty when there is none (ObservationEvent.cpp:85–98). -/
def stringField (key : Bytes) (j : Json) : Bytes :=
  match j.field key with
  | some (.str s) => s
  | _ => []

/-- The id of an event that is read (ObservationEvent.cpp:122–124). -/
def readId (j : Json) : ℤ :=
  match j.field "id" with
  | some value => if isInteger value then getInt64 J value else 0
  | none => 0

/-- The time of an event that is read (ObservationEvent.cpp:126–129): microseconds become
nanoseconds in signed arithmetic. -/
def readTimestamp (overflow : ℤ → ℤ) (now : TimePoint) (j : Json) : TimePoint :=
  match j.field "timestamp_us" with
  | some value => if isNumber value then signed64 overflow (getInt64 J value * 1000) else now
  | none => now

/-- The severity of an event that is read (ObservationEvent.cpp:133–138). -/
def readSeverity (j : Json) : Severity :=
  match j.field "severity" with
  | some (.str s) =>
    match severityFromString s with
    | .ok severity => severity
    | .error _ => .info
  | _ => .info

/-- The payload of a JSON value (ObservationEvent.cpp:105–115). -/
def valueOf : Json → EventValue
  | .bool b => .bool b
  | .int n => .int n
  | .uint n => .int (getInt64 J (.uint n))
  | .float d => .double d
  | .str s => .string s
  | _ => .none

/-- `parseEventValue` (ObservationEvent.cpp:100–116). -/
def parseEventValue (j : Json) : EventValue :=
  match j.field "value" with
  | some value => valueOf J value
  | none => .none

/-- The attributes of an event that is read; an exception is its text
(ObservationEvent.cpp:142–146). -/
def readAttributes (j : Json) : Except Bytes Bytes :=
  match j.field "attributes" with
  | some (.obj fields) =>
    match (Json.obj fields).dump lib.jsonNumber with
    | .ok text => .ok text
    | .error _ => .error (J.dumpWhat (.obj fields))
  | _ => .ok "\x7b\x7d"

/-- `ObservationEvent::fromJson` (ObservationEvent.cpp:118–152); `now` is the clock, which a new
event reads. -/
def fromJson (overflow : ℤ → ℤ) (now : TimePoint) (text : Bytes) :
    Except Bytes ObservationEvent :=
  let event : Except Bytes ObservationEvent := do
    let j ← J.parse text
    let attributes ← readAttributes J j
    return {
      id := readId J j
      timestamp := readTimestamp J overflow now j
      source := stringField "source" j
      category := stringField "category" j
      subject := stringField "subject" j
      signal := stringField "signal" j
      value := parseEventValue J j
      severity := readSeverity j
      attributesJson := attributes }
  event.mapError fun what => Bytes.ofString "Failed to parse ObservationEvent JSON: " ++ what

/-! ## The fields of the object -/

section Fields

variable {J} {event : ObservationEvent}

theorem field_eventJson (key : Bytes) :
    (eventJson J event).field key = (idField event ++ dataFields J event).reverse.lookup key := by
  show (assignFields _ []).lookup key = _
  rw [lookup_assignFields, List.lookup_nil, Option.or_none]

/-- A key of the data has the value that was assigned to it. -/
theorem field_of_data {key : Bytes} {j : Json}
    (h : (dataFields J event).reverse.lookup key = some j) :
    (eventJson J event).field key = some j := by
  rw [field_eventJson, List.reverse_append, List.lookup_append, h, Option.some_or]

theorem field_id : (eventJson J event).field "id"
    = if event.id ≠ 0 then some (.int event.id) else none := by
  have hdata : (dataFields J event).reverse.lookup (Bytes.ofString "id") = none := rfl
  rw [field_eventJson, List.reverse_append, List.lookup_append, hdata, Option.none_or, idField]
  split <;> rfl

/-- A property of every assigned field is one of every field of the object. -/
theorem forall_fields {p : Bytes × Json → Prop} (hid : p ("id", .int event.id))
    (hdata : ∀ f ∈ dataFields J event, p f) :
    ∀ f ∈ assignFields (idField event ++ dataFields J event) [], p f := by
  intro f hf
  rcases mem_assignFields hf with hf | hf
  · cases hf
  · rcases List.mem_append.mp hf with hf | hf
    · unfold idField at hf
      split at hf
      · rw [List.mem_singleton.mp hf]
        exact hid
      · cases hf
    · exact hdata f hf

end Fields

/-! ## Texts that are not UTF-8 -/

/-- The texts of an event that go into its JSON text as they are. -/
def utf8Texts (event : ObservationEvent) : Bool :=
  validUtf8 event.source && validUtf8 event.category && validUtf8 event.subject
    && validUtf8 event.signal && (valueJson event.value).utf8

section Utf8

variable {J} {event : ObservationEvent}

theorem attributesOf_sound (attributes : Bytes) : Sound J.IsDouble (attributesOf J attributes) := by
  unfold attributesOf
  split
  · rename_i j hparse
    exact ⟨J.wellFormed_parse hparse, J.utf8_parse hparse⟩
  · exact sound_obj List.Pairwise.nil (by simp)

theorem validUtf8_severityToString (severity : Severity) :
    validUtf8 (severityToString severity) = true := by
  cases severity <;> rfl

/-- The object of an event is UTF-8 exactly when its texts are. -/
theorem utf8_eventJson : (eventJson J event).utf8 = utf8Texts event := by
  rw [Bool.eq_iff_iff]
  show utf8Fields _ = true ↔ _
  rw [utf8Fields_iff]
  unfold utf8Texts
  simp only [Bool.and_eq_true]
  constructor
  · intro h
    have hfield : ∀ (key : Bytes) (j : Json),
        (dataFields J event).reverse.lookup key = some j → utf8 j = true := fun key j hkey =>
      (h _ (mem_of_lookup (field_of_data hkey))).2
    exact ⟨⟨⟨⟨hfield "source" _ rfl, hfield "category" _ rfl⟩, hfield "subject" _ rfl⟩,
      hfield "signal" _ rfl⟩, hfield "value" _ rfl⟩
  · rintro ⟨⟨⟨⟨hsource, hcategory⟩, hsubject⟩, hsignal⟩, hvalue⟩
    refine forall_fields ⟨rfl, rfl⟩ ?_
    unfold dataFields
    simp only [List.forall_mem_cons]
    exact ⟨⟨rfl, rfl⟩, ⟨rfl, hsource⟩, ⟨rfl, hcategory⟩, ⟨rfl, hsubject⟩, ⟨rfl, hsignal⟩,
      ⟨rfl, validUtf8_severityToString _⟩, ⟨rfl, hvalue⟩, ⟨rfl, (attributesOf_sound _).2⟩, by simp⟩

/-- **`toJson` returns a text exactly when the texts of the event are UTF-8.** -/
theorem toJson_isOk_iff : (toJson J event).isOk = utf8Texts event := by
  rw [toJson, dump_isOk_iff, utf8_eventJson]

theorem toJson_eq_ok (h : utf8Texts event = true) : ∃ text, toJson J event = .ok text :=
  dump_eq_ok lib.jsonNumber (utf8_eventJson.trans h)

theorem toJson_eq_error (h : utf8Texts event = false) : toJson J event = .error .jsonUtf8 := by
  have hok := @toJson_isOk_iff _ J event
  rw [h] at hok
  cases htext : toJson J event with
  | error e => cases e; rfl
  | ok text =>
    rw [htext] at hok
    cases hok

/-- The JSON text of an event is one line. -/
theorem not_mem_toJson {text : Bytes} (h : toJson J event = .ok text) : (10 : UInt8) ∉ text :=
  not_mem_dump J.not_mem_jsonNumber h

end Utf8

/-! ## Round trip -/

/-- A payload of the types of the variant: 64-bit integers and doubles. -/
def PortableValue : EventValue → Prop
  | .int n => InInt64 n
  | .double (.finite q) => J.IsDouble q
  | _ => True

/-- The payload that comes back: infinities and NaN are written as `null`. -/
def rereadValue : EventValue → EventValue
  | .double d => if d.isFinite then .double d else .none
  | value => value

/-- An event that JSON can carry. -/
structure Portable (event : ObservationEvent) : Prop where
  texts : utf8Texts event = true
  id : InInt64 event.id
  /-- The clock of the event ticks in whole microseconds. -/
  micros : toMicros event.timestamp * 1000 = event.timestamp
  timestamp : InInt64 event.timestamp
  value : PortableValue J event.value
  attributes : ∃ fields, attributesOf J event.attributesJson = .obj fields

/-- The library's own spelling of the attributes. -/
def canonicalAttributes (attributes : Bytes) : Bytes :=
  match (attributesOf J attributes).dump lib.jsonNumber with
  | .ok text => text
  | .error _ => "{}"

section RoundTrip

variable {J} {event : ObservationEvent}

theorem wellFormed_valueJson {value : EventValue} (h : PortableValue J value) :
    WellFormed J.IsDouble (valueJson value) := by
  cases value with
  | none => trivial
  | bool b => trivial
  | int n => exact h
  | double d =>
    cases d with
    | finite q => exact h
    | posInf => trivial
    | negInf => trivial
    | nan => trivial
  | string s => trivial

theorem Portable.inInt64_toMicros (h : Portable J event) : InInt64 (toMicros event.timestamp) := by
  obtain ⟨hlo, hhi⟩ := h.timestamp
  rw [← h.micros] at hlo hhi
  exact ⟨by omega, by omega⟩

theorem wellFormed_eventJson (h : Portable J event) : WellFormed J.IsDouble (eventJson J event) := by
  refine ⟨sorted_assignFields _ List.Pairwise.nil, wellFormedFields_iff.mpr ?_⟩
  refine forall_fields h.id ?_
  unfold dataFields
  simp only [List.forall_mem_cons]
  exact ⟨h.inInt64_toMicros, trivial, trivial, trivial, trivial, trivial, wellFormed_valueJson h.value,
    (attributesOf_sound _).1, by simp⟩

theorem getInt64_reread {n : ℤ} (h : InInt64 n) : getInt64 J (reread (.int n)) = n := by
  by_cases hneg : n < 0
  · rw [reread, if_pos hneg, getInt64]
  · rw [reread, if_neg hneg, getInt64, toInt64_toNat (by omega) h.2]

theorem isInteger_reread (n : ℤ) : isInteger (reread (.int n)) = true := by
  rw [reread]
  split <;> rfl

theorem field_reread (key : Bytes) (fields : List (Bytes × Json)) :
    (reread (.obj fields)).field key = ((Json.obj fields).field key).map reread := by
  rw [reread]
  exact lookup_rereadFields key fields

/-- What `fromJson` finds under a key of the data. -/
theorem readField {key : Bytes} {j : Json}
    (h : (dataFields J event).reverse.lookup key = some j) :
    (reread (eventJson J event)).field key = some (reread j) := by
  rw [eventJson, field_reread]
  show ((eventJson J event).field key).map reread = _
  rw [field_of_data h, Option.map_some]

theorem readId_reread (h : InInt64 event.id) : readId J (reread (eventJson J event)) = event.id := by
  have hfield : (reread (eventJson J event)).field "id"
      = ((eventJson J event).field "id").map reread := field_reread _ _
  rw [readId, hfield, field_id]
  by_cases hid : event.id = 0
  · rw [if_neg (not_not.mpr hid), hid]
    rfl
  · rw [if_pos hid, Option.map_some]
    simp only [isInteger_reread, if_true]
    exact getInt64_reread h

theorem readTimestamp_reread (h : Portable J event) (overflow : ℤ → ℤ) (now : TimePoint) :
    readTimestamp J overflow now (reread (eventJson J event)) = event.timestamp := by
  have hfield : (reread (eventJson J event)).field "timestamp_us"
      = some (reread (.int (toMicros event.timestamp))) := readField rfl
  have hnumber : isNumber (reread (.int (toMicros event.timestamp))) = true := by
    rw [reread]
    split <;> rfl
  rw [readTimestamp, hfield]
  simp only [hnumber, if_true]
  rw [getInt64_reread h.inInt64_toMicros, h.micros, signed64_of_fits h.timestamp]

theorem stringField_reread {key s : Bytes}
    (h : (dataFields J event).reverse.lookup key = some (.str s)) :
    stringField key (reread (eventJson J event)) = s := by
  rw [stringField, readField h]
  rfl

theorem readSeverity_reread : readSeverity (reread (eventJson J event)) = event.severity := by
  have hfield : (reread (eventJson J event)).field "severity"
      = some (reread (.str (severityToString event.severity))) := readField rfl
  rw [readSeverity, hfield]
  cases event.severity <;> rfl

theorem valueOf_reread {value : EventValue} (h : PortableValue J value) :
    valueOf J (reread (valueJson value)) = rereadValue value := by
  cases value with
  | none => rfl
  | bool b => rfl
  | int n =>
    have hint : getInt64 J (reread (.int n)) = n := getInt64_reread h
    by_cases hneg : n < 0
    · rw [valueJson, reread, if_pos hneg]
      rfl
    · rw [reread, if_neg hneg] at hint
      rw [valueJson, reread, if_neg hneg, valueOf, hint]
      rfl
  | double d =>
    cases d with
    | finite q => rfl
    | posInf => rfl
    | negInf => rfl
    | nan => rfl
  | string s => rfl

/-- A payload without infinity and NaN comes back as it was. -/
theorem rereadValue_of_finite {value : EventValue}
    (h : ∀ d, value = .double d → d.isFinite = true) : rereadValue value = value := by
  cases value with
  | double d => rw [rereadValue, if_pos (h d rfl)]
  | none => rfl
  | bool b => rfl
  | int n => rfl
  | string s => rfl

theorem parseEventValue_reread (h : PortableValue J event.value) :
    parseEventValue J (reread (eventJson J event)) = rereadValue event.value := by
  have hfield : (reread (eventJson J event)).field "value"
      = some (reread (valueJson event.value)) := readField rfl
  rw [parseEventValue, hfield]
  exact valueOf_reread h

theorem readAttributes_reread (h : Portable J event) :
    readAttributes J (reread (eventJson J event))
      = .ok (canonicalAttributes J event.attributesJson) := by
  have hfield : (reread (eventJson J event)).field "attributes"
      = some (reread (attributesOf J event.attributesJson)) := readField rfl
  obtain ⟨fields, hfields⟩ := h.attributes
  have hsound : Sound J.IsDouble (.obj fields) := hfields ▸ attributesOf_sound _
  obtain ⟨text, htext⟩ := dump_eq_ok lib.jsonNumber hsound.2
  have hagain : dump lib.jsonNumber (.obj (rereadFields fields)) = .ok text :=
    (dump_reread (.obj fields)).trans htext
  rw [hfields, reread] at hfield
  rw [readAttributes, hfield, canonicalAttributes, hfields, htext]
  simp only [hagain]

/-- **The round trip of an event.** -/
theorem fromJson_toJson (h : Portable J event) (overflow : ℤ → ℤ) (now : TimePoint) {text : Bytes}
    (htext : toJson J event = .ok text) :
    fromJson J overflow now text
      = .ok { event with
          value := rereadValue event.value
          attributesJson := canonicalAttributes J event.attributesJson } := by
  have hparse : J.parse text = .ok (reread (eventJson J event)) :=
    J.parse_dump (wellFormed_eventJson h) htext
  have htexts : ∀ key s, (dataFields J event).reverse.lookup key = some (.str s) →
      stringField key (reread (eventJson J event)) = s := fun key s => stringField_reread
  unfold fromJson
  rw [hparse]
  show Except.mapError _ (readAttributes J (reread (eventJson J event)) >>= fun _ => _) = _
  rw [readAttributes_reread h, readId_reread h.id, readTimestamp_reread h,
    htexts "source" event.source rfl, htexts "category" event.category rfl,
    htexts "subject" event.subject rfl, htexts "signal" event.signal rfl,
    parseEventValue_reread h.value, readSeverity_reread]
  rfl

end RoundTrip

end Codec

end ObservationEvent

end Holonight
