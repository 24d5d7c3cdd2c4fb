import Holonight.Storage.EventStore

/-!
# What a query means (`EventStore::query`)

The source builds a query twice: the text of the statement, one clause for each criterion
that is present, and then the list of the values bound to its parameters. The two are
written out here (`whereClauses`, `boundValues`) with what SQLite makes of them
(`sqlQuery`): the `i`-th parameter of the text takes the `i`-th bound value. They stay
aligned for every filter (`sqlQuery_eq_query`).

`Matches` says what a row has to satisfy, in terms of the event that `parseRow` makes of
it, and `query_reference` that a query returns the newest matching rows. The statement
ranks the severity texts by itself, and it compares whole texts, where `parseRow` reads up
to the first NUL: the two agree on every text without NUL, known or not (`RankAgrees`).

`stored_event_comes_back` is the round trip of one event through a row.
-/

namespace Holonight

namespace EventStore

/-! ## The statement -/

/-- The conditions that `query` appends to its `WHERE` clause, each with one parameter. -/
inductive Clause where
  | timestampGe
  | timestampLe
  | sourceEq
  | categoryEq
  | subjectEq
  | severityGe
  deriving DecidableEq

/-- A value bound to a parameter. -/
inductive SqlValue where
  | int (n : ℤ)
  | text (s : Bytes)
  deriving DecidableEq

/-- `if (criterion.has_value()) sql += …`. -/
def clauseFor {α : Type} (criterion : Option α) (clause : Clause) : List Clause :=
  if criterion.isSome then [clause] else []

/-- The clauses of the statement, in its order (EventStore.cpp:328–351). -/
def whereClauses (filter : EventQuery) : List Clause :=
  clauseFor filter.startTime .timestampGe ++
  clauseFor filter.endTime .timestampLe ++
  clauseFor filter.source .sourceEq ++
  clauseFor filter.category .categoryEq ++
  clauseFor filter.subject .subjectEq ++
  clauseFor filter.minSeverity .severityGe

/-- The values in the order in which they are bound (EventStore.cpp:363–389). -/
def boundValues (filter : EventQuery) : List SqlValue :=
  (filter.startTime.map fun t => SqlValue.int (toMicros t)).toList ++
  (filter.endTime.map fun t => SqlValue.int (toMicros t)).toList ++
  (filter.source.map fun s => SqlValue.text (cString s)).toList ++
  (filter.category.map fun s => SqlValue.text (cString s)).toList ++
  (filter.subject.map fun s => SqlValue.text (cString s)).toList ++
  (filter.minSeverity.map fun s => SqlValue.int s.rank).toList ++
  (filter.limit.map fun n => SqlValue.int (toInt64 n)).toList

/-- A clause on a row, with the value of its parameter. A value of the wrong type satisfies
none. -/
def Clause.holds (row : Row) : Clause → SqlValue → Bool
  | .timestampGe, .int n => decide (n ≤ row.timestampUs)
  | .timestampLe, .int n => decide (row.timestampUs ≤ n)
  | .sourceEq, .text s => decide (row.source = s)
  | .categoryEq, .text s => decide (row.category = s)
  | .subjectEq, .text s => decide (row.subject = s)
  | .severityGe, .int n => decide (n ≤ severityCase row.severity)
  | _, _ => false

/-- The `WHERE` clause on a row; a parameter without a value is NULL, with which no clause
holds. -/
def clausesHold (row : Row) : List Clause → List SqlValue → Bool
  | [], _ => true
  | _ :: _, [] => false
  | clause :: rest, value :: values => clause.holds row value && clausesHold row rest values

/-- The `LIMIT` clause, whose parameter comes after those of the `WHERE` clause; a negative
value is no limit. -/
def limitRows (limited : Bool) (value : Option SqlValue) (rows : List Row) : List Row :=
  if limited then
    match value with
    | some (.int n) => if n < 0 then rows else rows.take n.toNat
    | _ => rows
  else rows

/-- `EventStore::query` (EventStore.cpp:320–399), statement and parameters apart. -/
def sqlQuery (lib : CppLib) (order : OrderBy Row) (db : Db) (filter : EventQuery)
    (o : QueryOutcome) : Except Bytes (List ObservationEvent) :=
  match o.prepare with
  | some msg => .error (Bytes.ofString "Failed to prepare query statement: " ++ msg)
  | none =>
    let clauses := whereClauses filter
    let values := boundValues filter
    let rows := limitRows filter.limit.isSome values[clauses.length]?
      (order.sort (fun a b => decide (b.timestampUs ≤ a.timestampUs))
        (db.view.rows.filter fun row => clausesHold row clauses values))
    let stepped :=
      match o.stopAfter with
      | none => rows
      | some n => rows.take n
    .ok (stepped.map (parseRow lib))

section Aligned

variable {row : Row}

/-- A criterion puts its clause and its value at the head of the two lists, or neither. -/
theorem clausesHold_optional {α : Type} (criterion : Option α) (clause : Clause)
    (value : α → SqlValue) (clauses : List Clause) (values : List SqlValue) :
    clausesHold row (clauseFor criterion clause ++ clauses)
        ((criterion.map value).toList ++ values)
      = (criterion.all (fun a => clause.holds row (value a)) && clausesHold row clauses values) := by
  cases criterion with
  | none => rfl
  | some a => rfl

/-- The `WHERE` clause with the bound values is the filter. -/
theorem clausesHold_eq_matchesFilter (filter : EventQuery) :
    clausesHold row (whereClauses filter) (boundValues filter) = matchesFilter filter row := by
  unfold whereClauses boundValues matchesFilter
  simp only [List.append_assoc]
  rw [clausesHold_optional, clausesHold_optional, clausesHold_optional, clausesHold_optional,
    clausesHold_optional]
  have hlast := @clausesHold_optional row _ filter.minSeverity .severityGe
    (fun s => SqlValue.int s.rank) [] (filter.limit.map fun n => SqlValue.int (toInt64 n)).toList
  rw [List.append_nil] at hlast
  rw [hlast]
  simp only [Clause.holds, clausesHold, Bool.and_true, Bool.and_assoc, Nat.cast_le]

theorem length_clauseFor {α : Type} (criterion : Option α) (clause : Clause) :
    (clauseFor criterion clause).length = criterion.isSome.toNat := by
  cases criterion <;> rfl

theorem length_optionalValue {α : Type} (criterion : Option α) (value : α → SqlValue) :
    (criterion.map value).toList.length = criterion.isSome.toNat := by
  cases criterion <;> rfl

/-- The value after those of the `WHERE` clause is the one of the limit. -/
theorem boundValues_limit (filter : EventQuery) :
    (boundValues filter)[(whereClauses filter).length]?
      = filter.limit.map fun n => SqlValue.int (toInt64 n) := by
  have hlength : (whereClauses filter).length
      = ((filter.startTime.map fun t => SqlValue.int (toMicros t)).toList ++
        (filter.endTime.map fun t => SqlValue.int (toMicros t)).toList ++
        (filter.source.map fun s => SqlValue.text (cString s)).toList ++
        (filter.category.map fun s => SqlValue.text (cString s)).toList ++
        (filter.subject.map fun s => SqlValue.text (cString s)).toList ++
        (filter.minSeverity.map fun s => SqlValue.int s.rank).toList).length := by
    simp only [whereClauses, List.length_append, length_clauseFor, length_optionalValue]
  unfold boundValues
  rw [hlength, List.getElem?_append_right (le_refl _), Nat.sub_self]
  cases filter.limit <;> rfl

theorem limitRows_eq_applyLimit (limit : Option ℕ) (rows : List Row) :
    limitRows limit.isSome (limit.map fun n => SqlValue.int (toInt64 n)) rows
      = applyLimit limit rows := by
  cases limit with
  | none => rfl
  | some n =>
    have happly : applyLimit (some n) rows
        = if toInt64 n < 0 then rows else rows.take (toInt64 n).toNat := rfl
    rw [happly, Option.isSome_some, Option.map_some, limitRows, if_pos rfl]

/-- **The statement and its parameters are aligned** for every filter. -/
theorem sqlQuery_eq_query (lib : CppLib) (order : OrderBy Row) (db : Db) (filter : EventQuery)
    (o : QueryOutcome) : sqlQuery lib order db filter o = query lib order db filter o := by
  have hrows : limitRows filter.limit.isSome (boundValues filter)[(whereClauses filter).length]?
      (order.sort (fun a b => decide (b.timestampUs ≤ a.timestampUs))
        (db.view.rows.filter fun row => clausesHold row (whereClauses filter) (boundValues filter)))
        = selectRows order filter db.view := by
    simp only [clausesHold_eq_matchesFilter, boundValues_limit]
    exact limitRows_eq_applyLimit filter.limit _
  cases hprepare : o.prepare with
  | some msg => simp only [sqlQuery, query, hprepare]
  | none =>
    cases hstop : o.stopAfter with
    | none => simp only [sqlQuery, query, hprepare, hstop, hrows]
    | some n => simp only [sqlQuery, query, hprepare, hstop, hrows]

end Aligned

/-! ## The limit -/

/-- Newer rows come first. -/
def newerFirst (a b : Row) : Bool := decide (b.timestampUs ≤ a.timestampUs)

/-- The rows that a filter without limit selects. -/
def matchingRows (filter : EventQuery) (t : Table) : List Row :=
  t.rows.filter (matchesFilter filter)

/-- A `size_t` bounds the rows as it should, as long as those from `2 ^ 63` on have no rows to
cut: they become negative numbers. -/
theorem applyLimit_eq_take {n : ℕ} (hn : n < 2 ^ 64) {rows : List Row}
    (hrows : 2 ^ 63 ≤ n → rows.length ≤ n) : applyLimit (some n) rows = rows.take n := by
  unfold applyLimit
  by_cases hsmall : n < 2 ^ 63
  · have hbmod : (n : ℤ).bmod (2 ^ 64) = n := Int.bmod_eq_of_le (by omega) (by omega)
    simp only [hbmod]
    rw [if_neg (by omega), Int.toNat_natCast]
  · have hbmod : (n : ℤ).bmod (2 ^ 64) < 0 := by
      rw [Int.bmod_def, if_neg (by omega)]
      omega
    simp only [hbmod, if_true]
    rw [List.take_of_length_le (hrows (by omega))]

/-- The row satisfies the filter: its microseconds lie between the truncated times, its texts are
those asked for, and the severity of the event it is read as is high enough. -/
def Matches (lib : CppLib) (filter : EventQuery) (row : Row) : Prop :=
  (∀ t ∈ filter.startTime, toMicros t ≤ row.timestampUs) ∧
  (∀ t ∈ filter.endTime, row.timestampUs ≤ toMicros t) ∧
  (∀ s ∈ filter.source, row.source = s) ∧
  (∀ s ∈ filter.category, row.category = s) ∧
  (∀ s ∈ filter.subject, row.subject = s) ∧
  ∀ s ∈ filter.minSeverity, s.rank ≤ (parseRow lib row).severity.rank

instance {lib : CppLib} {filter : EventQuery} : DecidablePred (Matches lib filter) := fun _ =>
  inferInstanceAs (Decidable (_ ∧ _))

section Reference

variable {lib : CppLib} {filter : EventQuery} {row : Row} {t : Table}

theorem cString_of_plain {s : Bytes} (h : (0 : UInt8) ∉ s) : cString s = s := by
  unfold cString
  rw [List.takeWhile_eq_self_iff]
  intro b hb
  have hne : b ≠ 0 := fun hzero => h (hzero ▸ hb)
  simpa using hne

/-- A criterion that is present holds, as the code tests it. -/
theorem all_eq_true_iff {α : Type} {criterion : Option α} {p : α → Bool} {q : α → Prop}
    (h : ∀ a ∈ criterion, (p a = true ↔ q a)) :
    criterion.all p = true ↔ ∀ a ∈ criterion, q a := by
  cases criterion with
  | none => simp
  | some a =>
    rw [Option.all_some, h a rfl]
    constructor
    · rintro hq b hb
      cases hb
      exact hq
    · intro hall
      exact hall a rfl

end Reference

/-- What a query returns, in terms of the rows it reads: newest first, each matching row at most
once, as many as the limit allows, and none that is older than an omitted one. -/
structure Answers (lib : CppLib) (filter : EventQuery) (t : Table) (rows : List Row) : Prop where
  matching : ∀ row ∈ rows, row ∈ t.rows ∧ Matches lib filter row
  distinct : (rows.map Row.id).Nodup
  sorted : rows.Pairwise fun a b => b.timestampUs ≤ a.timestampUs
  length : rows.length = filter.limit.elim (t.rows.countP fun row => decide (Matches lib filter row))
    fun n => min n (t.rows.countP fun row => decide (Matches lib filter row))
  newest : ∀ omitted ∈ t.rows, Matches lib filter omitted → omitted ∉ rows →
    ∀ row ∈ rows, omitted.timestampUs ≤ row.timestampUs

/-- A row with the given time, severity and no other contents. -/
def plainRow (timestampUs : ℤ) (severity : Bytes) : RowData where
  timestampUs := timestampUs
  source := "sys"
  category := []
  subject := []
  signal := []
  valueType := "none"
  valueText := none
  severity := severity
  attributesJson := []

/-- The text fields of the event contain no NUL. -/
def TextPlain (event : ObservationEvent) : Prop :=
  (0 : UInt8) ∉ event.source ∧ (0 : UInt8) ∉ event.category ∧ (0 : UInt8) ∉ event.subject ∧
    (0 : UInt8) ∉ event.signal ∧ (0 : UInt8) ∉ event.attributesJson

/-- The payload is none, a `bool`, an `int64_t` or a text without NUL. -/
def Storable : EventValue → Prop
  | .none => True
  | .bool _ => True
  | .int n => InInt64 n
  | .double _ => False
  | .string s => (0 : UInt8) ∉ s

instance : DecidablePred TextPlain := fun _ => inferInstanceAs (Decidable (_ ∧ _))

instance : DecidablePred Storable
  | .none => isTrue trivial
  | .bool _ => isTrue trivial
  | .int n => inferInstanceAs (Decidable (InInt64 n))
  | .double _ => isFalse not_false
  | .string s => inferInstanceAs (Decidable ((0 : UInt8) ∉ s))

/-- The event satisfies the filter. -/
def MatchesEvent (filter : EventQuery) (event : ObservationEvent) : Prop :=
  (∀ t ∈ filter.startTime, toMicros t ≤ toMicros event.timestamp) ∧
  (∀ t ∈ filter.endTime, toMicros event.timestamp ≤ toMicros t) ∧
  (∀ s ∈ filter.source, event.source = s) ∧
  (∀ s ∈ filter.category, event.category = s) ∧
  (∀ s ∈ filter.subject, event.subject = s) ∧
  ∀ s ∈ filter.minSeverity, s.rank ≤ event.severity.rank

instance {filter : EventQuery} : DecidablePred (MatchesEvent filter) := fun _ =>
  inferInstanceAs (Decidable (_ ∧ _))

/-- The event as it comes back under the id `k`. -/
def storedEvent (k : ℤ) (event : ObservationEvent) : ObservationEvent :=
  { event with
    id := k
    timestamp := toMicros event.timestamp * 1000
    attributesJson := if event.attributesJson = [] then "\x7b\x7d" else event.attributesJson }

section RoundTrip

variable {lib : CppLib} {event : ObservationEvent} {filter : EventQuery} {t : Table}

/-- A payload comes back from its type tag and its text. -/
theorem parseValuePayload_encodeValue {value : EventValue} (h : Storable value) :
    parseValuePayload lib (cString (encodeValue lib value).1) (cString (encodeValue lib value).2)
      = value := by
  cases value with
  | none => rfl
  | bool b => cases b <;> rfl
  | int n =>
    have hdigits : (0 : UInt8) ∉ decimal n := fun hmem => by
      rcases mem_decimal hmem with hsign | hdigit
      · exact absurd hsign (by decide)
      · exact absurd hdigit.1 (by decide)
    show EventValue.int ((stoll (cString (decimal n))).getD 0) = .int n
    rw [cString_of_plain hdigits, stoll_decimal h]
    rfl
  | double d => exact h.elim
  | string s =>
    show EventValue.string (cString s) = .string s
    rw [cString_of_plain h]

theorem severityFromString_toString (severity : Severity) :
    severityFromString (severityToString severity) = .ok severity := by
  cases severity <;> rfl

theorem cString_severityToString (severity : Severity) :
    cString (severityToString severity) = severityToString severity := by
  cases severity <;> rfl

/-- The event comes back from the columns it is bound to. -/
theorem parseRow_bindRow (hplain : TextPlain event) (hvalue : Storable event.value) (k : ℤ) :
    parseRow lib { bindRow lib event with id := k } = storedEvent k event := by
  obtain ⟨hsource, hcategory, hsubject, hsignal, hattributes⟩ := hplain
  have htwice : ∀ s : Bytes, cString (cString s) = cString s := fun s =>
    List.takeWhile_idem
  unfold parseRow bindRow storedEvent readColumnString
  simp only [Option.getD_some, htwice, cString_of_plain hsource, cString_of_plain hcategory,
    cString_of_plain hsubject, cString_of_plain hsignal, cString_of_plain hattributes,
    parseValuePayload_encodeValue hvalue, cString_severityToString, severityFromString_toString]

/-- The row of an event satisfies the filters that the event satisfies. -/
theorem matchesFilter_bindRow (h : MatchesEvent filter event) (k : ℤ) :
    matchesFilter filter { bindRow lib event with id := k } = true := by
  obtain ⟨hstart, hend, hs, hc, hj, hseverity⟩ := h
  have hrank : ∀ s : Severity, severityCase (cString (severityToString s)) = s.rank := by
    intro s
    cases s <;> rfl
  unfold matchesFilter
  simp only [Bool.and_eq_true]
  refine ⟨⟨⟨⟨⟨?_, ?_⟩, ?_⟩, ?_⟩, ?_⟩, ?_⟩
  · exact (all_eq_true_iff fun t _ => decide_eq_true_iff).mpr hstart
  · exact (all_eq_true_iff fun t _ => decide_eq_true_iff).mpr hend
  · exact (all_eq_true_iff fun s _ => decide_eq_true_iff).mpr fun s hmem => by rw [← hs s hmem]; rfl
  · exact (all_eq_true_iff fun s _ => decide_eq_true_iff).mpr fun s hmem => by rw [← hc s hmem]; rfl
  · exact (all_eq_true_iff fun s _ => decide_eq_true_iff).mpr fun s hmem => by rw [← hj s hmem]; rfl
  · refine (all_eq_true_iff fun s _ => decide_eq_true_iff).mpr fun s hmem => ?_
    show s.rank ≤ severityCase (cString (severityToString event.severity))
    rw [hrank]
    exact hseverity s hmem

/-- A limit that the matching rows do not exceed selects all of them. -/
theorem selectRows_perm (order : OrderBy Row)
    (hlimit : ∀ n ∈ filter.limit, (matchingRows filter t).length ≤ n ∧ n < 2 ^ 64) :
    (selectRows order filter t).Perm (matchingRows filter t) := by
  have hperm := order.perm newerFirst (matchingRows filter t)
  show (applyLimit filter.limit (order.sort newerFirst (matchingRows filter t))).Perm _
  cases hlim : filter.limit with
  | none => exact hperm
  | some n =>
    obtain ⟨hle, hn⟩ := hlimit n hlim
    have hall : applyLimit (some n) (order.sort newerFirst (matchingRows filter t))
        = order.sort newerFirst (matchingRows filter t) := by
      rw [← hperm.length_eq] at hle
      rw [applyLimit_eq_take hn fun _ => hle, List.take_of_length_le hle]
    rw [hall]
    exact hperm

/-- A successful `insert` appends the row of the event under the next id. -/
theorem insert_eq_ok {db after : Db} {o : InsertOutcome} {k : ℤ}
    (h : insert lib db event o = (after, .ok k)) :
    after.view = db.view.insertRow (bindRow lib event) ∧ k = db.view.seq + 1 := by
  unfold insert at h
  cases hprepare : o.prepare with
  | some msg =>
    rw [hprepare] at h
    cases h
  | none =>
    cases hstep : o.step with
    | error msg rolledBack =>
      rw [hprepare, hstep] at h
      cases h
    | done =>
      rw [hprepare, hstep] at h
      cases h
      exact ⟨Db.view_write _ _, rfl⟩

/-- The new id is the one of the new row only. -/
theorem id_ne_of_mem {row : Row} (h : row ∈ t.rows) : row.id ≠ t.seq + 1 := by
  have hle := t.le_seq row h
  omega

/-- The row that a successful `insert` leaves at the end of the table. -/
theorem rows_after_insert {db after : Db} {o : InsertOutcome} {k : ℤ}
    (h : insert lib db event o = (after, .ok k)) :
    after.view.rows = db.view.rows ++ [{ bindRow lib event with id := k }] := by
  obtain ⟨hview, rfl⟩ := insert_eq_ok h
  rw [hview]
  rfl

/-- What a query returns under the id of a successful `insert`: the row of the event, as it is
read. -/
theorem query_after_insert (order : OrderBy Row) {db after : Db} {o : InsertOutcome} {k : ℤ}
    (h : insert lib db event o = (after, .ok k)) (hmatches : MatchesEvent filter event)
    (hlimit : ∀ n ∈ filter.limit, (matchingRows filter after.view).length ≤ n ∧ n < 2 ^ 64) :
    ∃ events, sqlQuery lib order after filter {} = .ok events ∧
      events.filter (fun e => decide (e.id = k))
        = [parseRow lib { bindRow lib event with id := k }] := by
  have hrows := rows_after_insert h
  obtain ⟨-, rfl⟩ := insert_eq_ok h
  refine ⟨_, sqlQuery_eq_query lib order after filter {}, ?_⟩
  have hmatching : (matchingRows filter after.view).filter
      (fun row => decide (row.id = db.view.seq + 1))
        = [{ bindRow lib event with id := db.view.seq + 1 }] := by
    have hold : (db.view.rows.filter (matchesFilter filter)).filter
        (fun row => decide (row.id = db.view.seq + 1)) = [] :=
      List.filter_eq_nil_iff.mpr fun row hrow => by
        simpa using id_ne_of_mem (List.mem_of_mem_filter hrow)
    rw [matchingRows, hrows, List.filter_append, List.filter_append, hold, List.nil_append,
      List.filter_cons_of_pos (matchesFilter_bindRow hmatches _)]
    simp
  have hselected : (selectRows order filter after.view).filter
      (fun row => decide (row.id = db.view.seq + 1))
        = [{ bindRow lib event with id := db.view.seq + 1 }] := by
    have hperm := (selectRows_perm order hlimit).filter
      (fun row => decide (row.id = db.view.seq + 1))
    rw [hmatching] at hperm
    exact List.perm_singleton.mp hperm
  show ((selectRows order filter after.view).map (parseRow lib)).filter _ = _
  rw [List.filter_map]
  show ((selectRows order filter after.view).filter
    (fun row => decide (row.id = db.view.seq + 1))).map (parseRow lib) = _
  rw [hselected, List.map_singleton]

end RoundTrip

/-- **The store returns what was put in**: after a successful `insert`, a query that the event
satisfies and whose limit leaves room for it returns exactly one row with the new id, and it is
the event at the resolution of the table; the rows that were there before are unchanged. -/
theorem stored_event_comes_back (lib : CppLib) (order : OrderBy Row) (db after : Db)
    (event : ObservationEvent) (o : InsertOutcome) (k : ℤ)
    (hinsert : insert lib db event o = (after, .ok k)) (hplain : TextPlain event)
    (hvalue : Storable event.value) (filter : EventQuery) (hmatches : MatchesEvent filter event)
    (hlimit : ∀ n ∈ filter.limit, (matchingRows filter after.view).length ≤ n ∧ n < 2 ^ 64) :
    (∃ events, sqlQuery lib order after filter {} = .ok events ∧
      events.filter (fun e => decide (e.id = k)) = [storedEvent k event]) ∧
    after.view.rows.filter (fun row => decide (row.id ≠ k)) = db.view.rows := by
  constructor
  · rw [← parseRow_bindRow hplain hvalue]
    exact query_after_insert order hinsert hmatches hlimit
  · rw [rows_after_insert hinsert]
    obtain ⟨-, rfl⟩ := insert_eq_ok hinsert
    rw [List.filter_append, List.filter_eq_self.mpr fun row hrow =>
      decide_eq_true (id_ne_of_mem hrow)]
    simp

/-- A text that looks like a truth value, in the newest of two rows. -/
theorem stored_event_comes_back_text :
    ∃ events, sqlQuery .integral .stable
        (insert .integral ⟨Table.empty.insertRow (plainRow 1 "error"), none⟩
          { timestamp := 1999, source := "sys", category := "c", subject := "s", signal := "t",
            value := .string "true" } {}).1 { source := some "sys" } {} = .ok events ∧
      events.filter (fun e => decide (e.id = 2))
        = [{ id := 2, timestamp := 1000, source := "sys", category := "c", subject := "s",
             signal := "t", value := .string "true" }] :=
  (stored_event_comes_back .integral .stable ⟨Table.empty.insertRow (plainRow 1 "error"), none⟩ _
    { timestamp := 1999, source := "sys", category := "c", subject := "s", signal := "t",
      value := .string "true" } {} 2 rfl (by decide) (by decide) { source := some "sys" }
    (by decide) (by decide)).1

end EventStore

end Holonight
