import Holonight.Storage.Table

/-!
# The event store (`EventStore.cpp`)

Every operation of `EventStore` as a function of the connection. SQLite's part in a
call is an argument: which of its statements fail and with which message (the
`…Outcome` structures), and for the capacity prune how many pages the file has after
each deletion. The database mutex makes the calls atomic.

Two details of the source are kept although they are easy to miss:

- `insertBatch` reads `sqlite3_errmsg` only after its `ROLLBACK`, so the message it
  reports is the one of the rollback (`rollbackMsg`);
- row counts come back through the `int` of `sqlite3_changes`.

The capacity prune also returns the batches it executed, which the C++ function
does not; they are what the statements about it speak of.
-/

namespace Holonight

namespace EventStore

/-! ## Rows from events and back -/

/-- A C string passed with length `-1` ends at its first NUL. -/
def cString (s : Bytes) : Bytes := s.takeWhile fun b => b != 0

/-- The `value_type` and `value_text` of a payload (EventStore.cpp:195–215). -/
def encodeValue (lib : CppLib) : EventValue → Bytes × Bytes
  | .none => ("none", [])
  | .bool b => ("bool", if b then "1" else "0")
  | .int n => ("int", decimal n)
  | .double d => ("double", lib.doubleToString d)
  | .string s => ("string", s)

/-- The values bound to the `INSERT` statement (EventStore.cpp:193–227, 263–299). -/
def bindRow (lib : CppLib) (event : ObservationEvent) : RowData :=
  let payload := encodeValue lib event.value
  { timestampUs := toMicros event.timestamp
    source := cString event.source
    category := cString event.category
    subject := cString event.subject
    signal := cString event.signal
    valueType := cString payload.1
    valueText := some (cString payload.2)
    severity := cString (severityToString event.severity)
    attributesJson := cString event.attributesJson }

/-- `readColumnString`: a NULL column reads as the empty string. -/
def readColumnString (column : Option Bytes) : Bytes := cString (column.getD [])

/-- `parseValuePayload` (EventStore.cpp:127–149). -/
def parseValuePayload (lib : CppLib) (valType valText : Bytes) : EventValue :=
  if valType = "bool" then
    .bool (decide (valText = Bytes.ofString "1" ∨ valText = Bytes.ofString "true"))
  else if valType = "int" then .int ((stoll valText).getD 0)
  else if valType = "double" then .double ((lib.stod valText).getD (.finite 0))
  else if valType = "string" then .string valText
  else .none

/-- `parseRow` (EventStore.cpp:151–177). -/
def parseRow (lib : CppLib) (row : Row) : ObservationEvent :=
  let attributes := readColumnString (some row.attributesJson)
  { id := row.id
    timestamp := row.timestampUs * 1000
    source := readColumnString (some row.source)
    category := readColumnString (some row.category)
    subject := readColumnString (some row.subject)
    signal := readColumnString (some row.signal)
    value := parseValuePayload lib (readColumnString (some row.valueType))
      (readColumnString row.valueText)
    severity :=
      match severityFromString (readColumnString (some row.severity)) with
      | .ok severity => severity
      | .error _ => .info
    attributesJson := if attributes = [] then "\x7b\x7d" else attributes }

/-! ## Insertion -/

/-- SQLite's part in `insert`. -/
structure InsertOutcome where
  prepare : Option Bytes := none
  step : StepOutcome := .done

/-- `EventStore::insert` (EventStore.cpp:179–237). -/
def insert (lib : CppLib) (db : Db) (event : ObservationEvent) (o : InsertOutcome) :
    Db × Except Bytes ℤ :=
  match o.prepare with
  | some msg => (db, .error (Bytes.ofString "Failed to prepare INSERT statement: " ++ msg))
  | none =>
    match o.step with
    | .error msg rolledBack =>
      (db.afterError rolledBack, .error (Bytes.ofString "Failed to execute INSERT: " ++ msg))
    | .done =>
      let t := db.view.insertRow (bindRow lib event)
      (db.write t, .ok t.seq)

/-- SQLite's part in `insertBatch`: the `i`-th `step` is the one of the `i`-th
event, and `rollbackMsg` is what `sqlite3_errmsg` says after a `ROLLBACK`. -/
structure BatchOutcome where
  begin : ExecOutcome := .ok
  prepare : Option Bytes := none
  step : ℕ → StepOutcome := fun _ => .done
  commit : CommitOutcome := .ok
  rollbackMsg : Bytes := "not an error"

/-- The insertion loop of `insertBatch` inside its transaction; `none` when a step
fails. -/
def insertAll (lib : CppLib) (step : ℕ → StepOutcome) :
    ℕ → Table → List ObservationEvent → Option Table
  | _, t, [] => some t
  | i, t, event :: rest =>
    match step i with
    | .done => insertAll lib step (i + 1) (t.insertRow (bindRow lib event)) rest
    | .error _ _ => none

/-- `EventStore::insertBatch` (EventStore.cpp:239–318). `BEGIN` inside an open
transaction fails; a `ROLLBACK` restores the table the transaction started from. -/
def insertBatch (lib : CppLib) (db : Db) (events : List ObservationEvent) (o : BatchOutcome) :
    Db × Except Bytes ℕ :=
  match o.begin with
  | .error msg =>
    (db, .error (Bytes.ofString "Failed to begin transaction: "
      ++ msg.getD "Transaction start error"))
  | .ok =>
    if db.autocommit = false then
      (db, .error (Bytes.ofString "Failed to begin transaction: "
        ++ "cannot start a transaction within a transaction"))
    else
      match o.prepare with
      -- this path and the next roll back before they return
      | some _ =>
        (db, .error (Bytes.ofString "Failed to prepare INSERT statement: " ++ o.rollbackMsg))
      | none =>
        match insertAll lib o.step 0 db.committed events with
        | none =>
          (db, .error (Bytes.ofString "Failed batch insert step: " ++ o.rollbackMsg))
        | some t =>
          match o.commit with
          | .ok => ({ committed := t, txn := none }, .ok events.length)
          -- no ROLLBACK on this path: a transaction that COMMIT left open stays open
          | .error msg stillOpen =>
            (if stillOpen then { db with txn := some t } else db,
              .error (Bytes.ofString "Failed to commit transaction: "
                ++ msg.getD "Commit error"))

/-! ## Queries -/

/-- SQLite's part in `query`: with `stopAfter = some n` the `n + 1`-st
`sqlite3_step` returns an error. -/
structure QueryOutcome where
  prepare : Option Bytes := none
  stopAfter : Option ℕ := none

/-- The `WHERE` clause built from the filter (EventStore.cpp:328–351). -/
def matchesFilter (filter : EventQuery) (row : Row) : Bool :=
  filter.startTime.all (fun t => decide (toMicros t ≤ row.timestampUs)) &&
  filter.endTime.all (fun t => decide (row.timestampUs ≤ toMicros t)) &&
  filter.source.all (fun s => decide (row.source = cString s)) &&
  filter.category.all (fun s => decide (row.category = cString s)) &&
  filter.subject.all (fun s => decide (row.subject = cString s)) &&
  filter.minSeverity.all (fun s => decide (s.rank ≤ severityCase row.severity))

/-- `LIMIT` bound through `static_cast<int64_t>`: a negative limit is no limit. -/
def applyLimit (limit : Option ℕ) (rows : List Row) : List Row :=
  match limit with
  | none => rows
  | some n =>
    -- `static_cast<int64_t>` of a `size_t`
    let bound := (n : ℤ).bmod (2 ^ 64)
    if bound < 0 then rows else rows.take bound.toNat

/-- The rows `query` steps through, newest first. -/
def selectRows (order : OrderBy Row) (filter : EventQuery) (t : Table) : List Row :=
  applyLimit filter.limit
    (order.sort (fun a b => decide (b.timestampUs ≤ a.timestampUs))
      (t.rows.filter (matchesFilter filter)))

/-- `EventStore::query` (EventStore.cpp:320–399). The row loop ends at the first
`sqlite3_step` that is not a row, whatever the reason. -/
def query (lib : CppLib) (order : OrderBy Row) (db : Db) (filter : EventQuery)
    (o : QueryOutcome) : Except Bytes (List ObservationEvent) :=
  match o.prepare with
  | some msg => .error (Bytes.ofString "Failed to prepare query statement: " ++ msg)
  | none =>
    let rows := selectRows order filter db.view
    let stepped :=
      match o.stopAfter with
      | none => rows
      -- the rows before the error are returned as if they were all
      | some n => rows.take n
    .ok (stepped.map (parseRow lib))

/-! ## Pruning by age -/

/-- SQLite's part in `pruneEvents`. -/
structure PruneOutcome where
  prepare : Option Bytes := none
  step : StepOutcome := .done

/-- The rows the age prune deletes (EventStore.cpp:404, 410). -/
def olderThan (cutoff : TimePoint) (row : Row) : Bool :=
  decide (row.timestampUs < toMicros cutoff)

/-- `EventStore::pruneEvents` (EventStore.cpp:401–421). -/
def pruneEvents (db : Db) (cutoff : TimePoint) (o : PruneOutcome) : Db × Except Bytes ℕ :=
  match o.prepare with
  | some msg => (db, .error (Bytes.ofString "Failed to prepare DELETE statement: " ++ msg))
  | none =>
    match o.step with
    | .error msg rolledBack =>
      (db.afterError rolledBack, .error (Bytes.ofString "Failed to prune events: " ++ msg))
    | .done =>
      let t := db.view.deleteWhere (olderThan cutoff)
      (db.write t, .ok (toSize (sqlite3Changes (db.view.count - t.count))))

/-- `EventStore::pruneEventsByAge` (EventStore.cpp:423–425). -/
def pruneEventsByAge (db : Db) (cutoff : TimePoint) (o : PruneOutcome) :
    Db × Except Bytes ℕ :=
  pruneEvents db cutoff o

/-! ## Pruning by capacity -/

/-- What the two `PRAGMA`s report. SQLite has at most 4294967294 pages of at most
65536 bytes; a failing `PRAGMA` reads as 0. -/
structure PageReading where
  pageCount : Fin 4294967295
  pageSize : Fin 65537

/-- `getSizeBytes` (EventStore.cpp:93–112), in `size_t` arithmetic. -/
def PageReading.sizeBytes (p : PageReading) : ℕ :=
  p.pageCount.val * p.pageSize.val % 2 ^ 64

/-- SQLite's part in `pruneEventsByCapacity`: the readings at entry, and for each
number `k` of deletions executed so far the readings at the top of the loop and how
the next deletion ends. A failing `SELECT COUNT(*)` reads as 0. -/
structure CapacityOutcome where
  entryCounted : Bool := true
  entryPages : PageReading
  prepare : Option Bytes := none
  counted : ℕ → Bool := fun _ => true
  pages : ℕ → PageReading
  step : ℕ → StepOutcome := fun _ => .done

/-- All statements succeed, and `pages k` is the page accounting after `k`
deletions. -/
def CapacityOutcome.ofPages (pages : ℕ → PageReading) : CapacityOutcome :=
  { entryPages := pages 0, pages := pages }

/-- Which limit a batch was chosen for. -/
inductive BatchKind where
  | count
  | bytes
  deriving DecidableEq, Repr

/-- One executed `DELETE`: why it was run and its `LIMIT`. -/
structure Batch where
  kind : BatchKind
  limit : ℕ
  deriving DecidableEq, Repr

/-- `limit * 9 / 10` in `size_t` arithmetic. -/
def watermark (limit : ℕ) : ℕ := limit * 9 % 2 ^ 64 / 10

/-- The limits and targets of one prune. -/
structure CapacityLimits where
  maxBytes : ℕ
  maxEvents : ℕ
  targetCount : ℕ
  targetBytes : ℕ

/-- The targets fixed at entry from the first readings (EventStore.cpp:440–441). -/
def CapacityLimits.ofEntry (maxBytes maxEvents count bytes : ℕ) : CapacityLimits where
  maxBytes := maxBytes
  maxEvents := maxEvents
  targetCount := if 0 < maxEvents then watermark maxEvents else count
  targetBytes := if 0 < maxBytes then watermark maxBytes else bytes

/-- Choice of the next batch (EventStore.cpp:472–481); `none` is `to_delete == 0`.
The caller has checked that the table is not empty. -/
def chooseBatch (lim : CapacityLimits) (count bytes : ℕ) : Option Batch :=
  if 0 < lim.maxEvents ∧ lim.targetCount < count then
    -- all rows above the target at once
    some ⟨.count, count - lim.targetCount⟩
  else if 0 < lim.maxBytes ∧ lim.targetBytes < bytes then
    some ⟨.bytes, min 100 count⟩
  else none

/-- What a capacity prune leaves: the table, the batches executed and the result. -/
structure PruneRun where
  table : Table
  batches : List Batch
  rolledBack : Bool
  result : Except Bytes ℕ

/-- The loop of `pruneEventsByCapacity` (EventStore.cpp:464–497) after `k`
deletions. -/
def pruneLoop (order : OrderBy Row) (o : CapacityOutcome) (lim : CapacityLimits)
    (k : ℕ) (t : Table) (total : ℕ) : PruneRun :=
  let count := if o.counted k then t.count else 0
  if count = 0 then ⟨t, [], false, .ok total⟩
  else
    match chooseBatch lim count (o.pages k).sizeBytes with
    | none => ⟨t, [], false, .ok total⟩
    | some batch =>
      match o.step k with
      | .error msg rolledBack =>
        ⟨t, [], rolledBack,
          .error (Bytes.ofString "Failed to execute capacity prune deletion: " ++ msg)⟩
      | .done =>
        let t' := t.deleteLowest order batch.limit
        let changes := sqlite3Changes (t.count - t'.count)
        -- a deletion that reports no row ends the loop
        if h : changes = 0 then ⟨t', [batch], false, .ok total⟩
        else
          let rest := pruneLoop order o lim (k + 1) t' ((total + toSize changes) % 2 ^ 64)
          { rest with batches := batch :: rest.batches }
termination_by t.count
decreasing_by
  -- a deletion that reports a change removed a row
  by_contra hlt
  have hzero : t.count - (t.deleteLowest order batch.limit).count = 0 :=
    Nat.sub_eq_zero_of_le (Nat.le_of_not_lt hlt)
  exact h (by show sqlite3Changes _ = 0; rw [hzero]; rfl)

/-- `EventStore::pruneEventsByCapacity` (EventStore.cpp:427–501) on the table the
connection sees. -/
def pruneByCapacity (order : OrderBy Row) (o : CapacityOutcome) (maxBytes maxEvents : ℕ)
    (t : Table) : PruneRun :=
  let count := if o.entryCounted then t.count else 0
  let bytes := o.entryPages.sizeBytes
  -- the entry test is against the limits, not against the watermarks
  if ¬ (0 < maxEvents ∧ maxEvents < count) ∧ ¬ (0 < maxBytes ∧ maxBytes < bytes) then
    ⟨t, [], false, .ok 0⟩
  else
    match o.prepare with
    | some msg =>
      ⟨t, [], false,
        .error (Bytes.ofString "Failed to prepare capacity prune statement: " ++ msg)⟩
    | none => pruneLoop order o (.ofEntry maxBytes maxEvents count bytes) 0 t 0

/-- `EventStore::pruneEventsByCapacity` on the connection: each deletion is a
statement of its own. -/
def pruneEventsByCapacity (order : OrderBy Row) (db : Db) (maxBytes maxEvents : ℕ)
    (o : CapacityOutcome) : Db × Except Bytes ℕ :=
  let run := pruneByCapacity order o maxBytes maxEvents db.view
  ((db.write run.table).afterError run.rolledBack, run.result)

/-! ## Checkpoints -/

/-- `EventStore::checkpointWal` (EventStore.cpp:503–514). -/
def checkpointWal (db : Db) (o : ExecOutcome) : Db × Except Bytes Unit :=
  match o with
  | .ok => (db, .ok ())
  | .error msg =>
    (db, .error (Bytes.ofString "Failed WAL checkpoint: " ++ msg.getD "WAL checkpoint error"))

end EventStore

end Holonight
