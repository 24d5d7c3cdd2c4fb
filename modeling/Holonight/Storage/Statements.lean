import Holonight.Storage.EventStore

/-!
# Prepared statements

`insert` and `insertBatch` each encode an event and bind the nine parameters of the same
`INSERT` text, but `insert` prepares a statement per event while `insertBatch` keeps one:
`sqlite3_reset` leaves the bindings of the event before in place. Here both functions are
written out down to the bindings (`insertWithStmt`, `insertBatchWithStmt`), with the copy of
the encoding that each of them has.

`insertWithStmt_eq` and `insertBatchWithStmt_eq` connect them to `insert` and `insertBatch`,
which work on whole rows. The main result is `insertBatch_eq_inserts`: a batch leaves the
table that single insertions leave.
-/

namespace Holonight

/-! ## Statements and their bindings -/

/-- A value bound to a parameter. -/
inductive SqlValue where
  | null
  | integer (n : ℤ)
  | text (s : Bytes)
  deriving DecidableEq

/-- A prepared statement, by what is bound to its parameters (numbered from 1). -/
structure Stmt where
  params : ℕ → SqlValue

namespace Stmt

/-- `sqlite3_prepare_v2`: every parameter is NULL. -/
def prepare : Stmt := ⟨fun _ => .null⟩

/-- `sqlite3_reset` keeps the bindings. -/
def reset (stmt : Stmt) : Stmt := stmt

/-- `sqlite3_bind_int64`. -/
def bindInt64 (stmt : Stmt) (i : ℕ) (n : ℤ) : Stmt :=
  ⟨fun j => if j = i then .integer n else stmt.params j⟩

/-- `sqlite3_bind_text` with length `-1`. -/
def bindText (stmt : Stmt) (i : ℕ) (s : Bytes) : Stmt :=
  ⟨fun j => if j = i then .text (EventStore.cString s) else stmt.params j⟩

/-- An `INTEGER NOT NULL` column. The store binds integers to it, so that its affinity
converts nothing. -/
def integerColumn (stmt : Stmt) (i : ℕ) : Option ℤ :=
  match stmt.params i with
  | .integer n => some n
  | _ => none

/-- A `TEXT NOT NULL` column, likewise. -/
def textColumn (stmt : Stmt) (i : ℕ) : Option Bytes :=
  match stmt.params i with
  | .text s => some s
  | _ => none

/-- The row of `INSERT INTO observation_events (…) VALUES (?, ?, ?, ?, ?, ?, ?, ?, ?)`
(EventStore.cpp:182–186, 249–253); `none` when a `NOT NULL` constraint fails. -/
def row (stmt : Stmt) : Option RowData := do
  let timestampUs ← stmt.integerColumn 1
  let source ← stmt.textColumn 2
  let category ← stmt.textColumn 3
  let subject ← stmt.textColumn 4
  let signal ← stmt.textColumn 5
  let valueType ← stmt.textColumn 6
  let severity ← stmt.textColumn 8
  let attributesJson ← stmt.textColumn 9
  return {
    timestampUs, source, category, subject, signal, valueType
    -- the one column that may be NULL
    valueText := stmt.textColumn 7
    severity, attributesJson }

end Stmt

namespace EventStore

/-! ## Single insertion -/

/-- The bindings of `insert` (EventStore.cpp:219–227). -/
def bindInsert (lib : CppLib) (stmt : Stmt) (event : ObservationEvent) : Stmt :=
  let payload := encodeValue lib event.value
  stmt
    |>.bindInt64 1 (toMicros event.timestamp)
    |>.bindText 2 event.source
    |>.bindText 3 event.category
    |>.bindText 4 event.subject
    |>.bindText 5 event.signal
    |>.bindText 6 payload.1
    |>.bindText 7 payload.2
    |>.bindText 8 (severityToString event.severity)
    |>.bindText 9 event.attributesJson

/-- The message of a row that breaks a constraint. -/
def constraintMsg : Bytes := "NOT NULL constraint failed"

/-- `EventStore::insert` with its statement (EventStore.cpp:179–237). -/
def insertWithStmt (lib : CppLib) (db : Db) (event : ObservationEvent) (o : InsertOutcome) :
    Db × Except Bytes ℤ :=
  match o.prepare with
  | some msg => (db, .error (Bytes.ofString "Failed to prepare INSERT statement: " ++ msg))
  | none =>
    let stmt := bindInsert lib Stmt.prepare event
    match o.step, stmt.row with
    | .error msg rolledBack, _ =>
      (db.afterError rolledBack, .error (Bytes.ofString "Failed to execute INSERT: " ++ msg))
    | .done, none =>
      (db, .error (Bytes.ofString "Failed to execute INSERT: " ++ constraintMsg))
    | .done, some data =>
      let t := db.view.insertRow data
      (db.write t, .ok t.seq)

/-! ## Batch insertion -/

/-- The payload encoding of `insertBatch`, a second copy of the one in `insert`
(EventStore.cpp:266–287). -/
def encodeBatchValue (lib : CppLib) : EventValue → Bytes × Bytes
  | .none => ("none", [])
  | .bool b => ("bool", if b then "1" else "0")
  | .int n => ("int", decimal n)
  | .double d => ("double", lib.doubleToString d)
  | .string s => ("string", s)

/-- The bindings of one turn of the loop of `insertBatch`, on the statement of the turn
before (EventStore.cpp:290–299). -/
def bindBatch (lib : CppLib) (stmt : Stmt) (event : ObservationEvent) : Stmt :=
  let payload := encodeBatchValue lib event.value
  stmt.reset
    |>.bindInt64 1 (toMicros event.timestamp)
    |>.bindText 2 event.source
    |>.bindText 3 event.category
    |>.bindText 4 event.subject
    |>.bindText 5 event.signal
    |>.bindText 6 payload.1
    |>.bindText 7 payload.2
    |>.bindText 8 (severityToString event.severity)
    |>.bindText 9 event.attributesJson

/-- The loop of `insertBatch` (EventStore.cpp:262–308) with its statement and its counter;
`none` when a step fails. -/
def insertLoop (lib : CppLib) (step : ℕ → StepOutcome) :
    ℕ → Stmt → Table → List ObservationEvent → Option (Table × ℕ)
  | inserted, _, t, [] => some (t, inserted)
  | inserted, stmt, t, event :: rest =>
    let stmt := bindBatch lib stmt event
    match step inserted, stmt.row with
    | .done, some data => insertLoop lib step (inserted + 1) stmt (t.insertRow data) rest
    | _, _ => none

/-- `EventStore::insertBatch` with its statement (EventStore.cpp:239–318). -/
def insertBatchWithStmt (lib : CppLib) (db : Db) (events : List ObservationEvent)
    (o : BatchOutcome) : Db × Except Bytes ℕ :=
  match o.begin with
  | .error msg =>
    (db, .error (Bytes.ofString "Failed to begin transaction: "
      ++ msg.getD "Transaction start error"))
  | .ok =>
    if db.autocommit = false then
      (db, .error (Bytes.ofString "Failed to begin transaction: "
        ++ "cannot start a transaction within a transaction"))
    else
      match o.prepare with
      | some _ =>
        (db, .error (Bytes.ofString "Failed to prepare INSERT statement: " ++ o.rollbackMsg))
      | none =>
        match insertLoop lib o.step 0 Stmt.prepare db.committed events with
        | none =>
          (db, .error (Bytes.ofString "Failed batch insert step: " ++ o.rollbackMsg))
        | some (t, inserted) =>
          match o.commit with
          | .ok => ({ committed := t, txn := none }, .ok inserted)
          | .error msg stillOpen =>
            (if stillOpen then { db with txn := some t } else db,
              .error (Bytes.ofString "Failed to commit transaction: "
                ++ msg.getD "Commit error"))

/-! ## Bindings and rows -/

/-- Each event overwrites all nine parameters: what was bound before does not matter. -/
theorem bindInsert_row (lib : CppLib) (stmt : Stmt) (event : ObservationEvent) :
    (bindInsert lib stmt event).row = some (bindRow lib event) := rfl

theorem encodeBatchValue_eq (lib : CppLib) (value : EventValue) :
    encodeBatchValue lib value = encodeValue lib value := by
  cases value <;> rfl

/-- The second copy of the encoding binds the same row. -/
theorem bindBatch_row (lib : CppLib) (stmt : Stmt) (event : ObservationEvent) :
    (bindBatch lib stmt event).row = some (bindRow lib event) := by
  have hsame : bindBatch lib stmt event = bindInsert lib stmt event := by
    unfold bindBatch bindInsert
    rw [encodeBatchValue_eq]
    rfl
  rw [hsame, bindInsert_row]

/-! ## The row-level functions are the same -/

/-- `insert` with its statement is the `insert` on rows: no constraint can fail. -/
theorem insertWithStmt_eq (lib : CppLib) (db : Db) (event : ObservationEvent)
    (o : InsertOutcome) : insertWithStmt lib db event o = insert lib db event o := by
  unfold insertWithStmt insert
  simp only [bindInsert_row]
  cases o.prepare with
  | some msg => rfl
  | none => cases o.step <;> rfl

/-- One statement carried through the loop inserts the rows that fresh ones would. -/
theorem insertLoop_eq (lib : CppLib) (step : ℕ → StepOutcome) (inserted : ℕ) (stmt : Stmt)
    (t : Table) (events : List ObservationEvent) :
    insertLoop lib step inserted stmt t events
      = (insertAll lib step inserted t events).map fun t' => (t', inserted + events.length) := by
  induction events generalizing inserted stmt t with
  | nil => rfl
  | cons event rest ih =>
    rw [insertLoop, insertAll]
    simp only [bindBatch_row]
    cases step inserted with
    | error msg rolledBack => rfl
    | done =>
      simp only
      rw [ih, List.length_cons, Nat.add_right_comm, Nat.add_assoc]

/-- `insertBatch` with its statement is the `insertBatch` on rows. -/
theorem insertBatchWithStmt_eq (lib : CppLib) (db : Db) (events : List ObservationEvent)
    (o : BatchOutcome) : insertBatchWithStmt lib db events o = insertBatch lib db events o := by
  unfold insertBatchWithStmt insertBatch
  rw [insertLoop_eq, Nat.zero_add]
  cases insertAll lib o.step 0 db.committed events <;> rfl

/-! ## Batches and single insertions -/

/-- `insert` on each event in order, every SQLite call succeeding. -/
def insertEach (lib : CppLib) : Db → List ObservationEvent → Db
  | db, [] => db
  | db, event :: rest => insertEach lib (insertWithStmt lib db event {}).1 rest

/-- Outside a transaction the single insertions commit the table of the batch's loop. -/
theorem insertEach_eq_insertAll (lib : CppLib) (t : Table) (i : ℕ)
    (events : List ObservationEvent) :
    ∃ t', insertAll lib (fun _ => .done) i t events = some t' ∧
      insertEach lib ⟨t, none⟩ events = ⟨t', none⟩ := by
  induction events generalizing t i with
  | nil => exact ⟨t, rfl, rfl⟩
  | cons event rest ih =>
    obtain ⟨t', hall, heach⟩ := ih (t.insertRow (bindRow lib event)) (i + 1)
    refine ⟨t', hall, ?_⟩
    rw [insertEach, insertWithStmt_eq]
    exact heach

/-- **Batch insertion agrees with single insertion**: with every SQLite call succeeding
(`BEGIN` does exactly outside a transaction), a batch returns the number of its events and
leaves the rows, keys and counter that inserting them one by one leaves. -/
theorem insertBatch_eq_inserts (lib : CppLib) (db : Db) (events : List ObservationEvent)
    (hbegin : db.autocommit = true) :
    insertBatchWithStmt lib db events {}
      = (insertEach lib db events, .ok events.length) := by
  obtain ⟨committed, txn⟩ := db
  cases txn with
  | some t => cases hbegin
  | none =>
    obtain ⟨t', hall, heach⟩ := insertEach_eq_insertAll lib committed 0 events
    have hrow : insertBatch lib ⟨committed, none⟩ events {} = (⟨t', none⟩, .ok events.length) := by
      unfold insertBatch
      simp only [hall]
      rfl
    rw [insertBatchWithStmt_eq, heach, hrow]

/-- An event without a payload after one with a text: the rows get the keys 1 and 2. -/
theorem insertBatch_eq_inserts_mixed :
    (⟨.empty, none⟩ : Db).autocommit = true ∧
      (insertBatchWithStmt .integral ⟨.empty, none⟩
        [ { timestamp := 0, source := "a", category := "b", subject := "c", signal := "d",
            value := .string "text" },
          { timestamp := 1, source := "a", category := "b", subject := "c", signal := "d" } ]
        {}).1.committed.rows.map Row.id = [1, 2] := by
  refine ⟨rfl, ?_⟩
  rw [insertBatch_eq_inserts _ _ _ rfl]
  rfl

end EventStore

end Holonight
