import Holonight.Base.Machine
import Holonight.Storage.EventStore

/-!
# No transaction is left behind

The store as a machine over its calls, with SQLite's outcomes as part of each call.
`insertBatch` has four points at which it can fail; `BEGIN`, the preparation and any
insertion step restore the state, and a failing `COMMIT` is reported without a
`ROLLBACK`. `calls_clean_iff` says that this is the only way a run goes wrong: every
call of a run ends in autocommit mode and every failed batch leaves the table as it
was, if and only if no `COMMIT` of the run fails with its transaction left open.
-/

namespace Holonight

namespace EventStore

/-! ## The store as a machine -/

/-- A call of the store with SQLite's part in it. -/
inductive Call where
  | insert (event : ObservationEvent) (o : InsertOutcome)
  | insertBatch (events : List ObservationEvent) (o : BatchOutcome)
  | query (filter : EventQuery) (o : QueryOutcome)
  | pruneEvents (cutoff : TimePoint) (o : PruneOutcome)
  | pruneEventsByCapacity (maxBytes maxEvents : ℕ) (o : CapacityOutcome)
  | checkpointWal (o : ExecOutcome)

/-- What a call returns. -/
inductive Reply where
  | rowid (r : Except Bytes ℤ)
  | count (r : Except Bytes ℕ)
  | events (r : Except Bytes (List ObservationEvent))
  | unit (r : Except Bytes Unit)

/-- One call. -/
def step (lib : CppLib) (order : OrderBy Row) (db : Db) : Call → Db × List Reply
  | .insert event o =>
    let r := insert lib db event o
    (r.1, [.rowid r.2])
  | .insertBatch events o =>
    let r := insertBatch lib db events o
    (r.1, [.count r.2])
  | .query filter o => (db, [.events (query lib order db filter o)])
  | .pruneEvents cutoff o =>
    let r := pruneEvents db cutoff o
    (r.1, [.count r.2])
  | .pruneEventsByCapacity maxBytes maxEvents o =>
    let r := pruneEventsByCapacity order db maxBytes maxEvents o
    (r.1, [.count r.2])
  | .checkpointWal o =>
    let r := checkpointWal db o
    (r.1, [.unit r.2])

/-- The event store of one process. -/
def machine (lib : CppLib) (order : OrderBy Row) : Machine Db Call Reply := ⟨step lib order⟩

/-! ## What a call may leave behind -/

/-- After the call the connection is in autocommit mode, and a batch that returned an
error left the table as it was. -/
def CallClean (lib : CppLib) (order : OrderBy Row) (db : Db) (call : Call) : Prop :=
  ((machine lib order).step db call).1.autocommit = true ∧
  ∀ events o, call = .insertBatch events o → (insertBatch lib db events o).2.isOk = false →
    ((machine lib order).step db call).1.view = db.view

/-- The call is a batch whose `COMMIT` is reached and fails with the transaction left
open. -/
def LeavesOpen : Call → Prop
  | .insertBatch events o =>
    o.begin = .ok ∧ o.prepare = none ∧ (∀ i < events.length, o.step i = .done) ∧
      ∃ msg, o.commit = .error msg true
  | _ => False

/-! ## `insertBatch` -/

/-- The insertion loop succeeds exactly when all its steps do. -/
theorem insertAll_isSome_iff (lib : CppLib) (steps : ℕ → StepOutcome)
    (events : List ObservationEvent) : ∀ (i : ℕ) (t : Table),
    (insertAll lib steps i t events).isSome = true
      ↔ ∀ j < events.length, steps (i + j) = .done := by
  induction events with
  | nil =>
    intro i t
    simp [insertAll]
  | cons event rest ih =>
    intro i t
    rw [insertAll]
    cases hstep : steps i with
    | done =>
      simp only
      rw [ih]
      constructor
      · intro h j hj
        cases j with
        | zero => exact hstep
        | succ j =>
          have hj' := h j (by simpa using hj)
          rwa [show i + (j + 1) = i + 1 + j from by omega]
      · intro h j hj
        have hj' := h (j + 1) (by simpa using hj)
        rwa [show i + 1 + j = i + (j + 1) from by omega]
    | error msg rolledBack =>
      simp only [Option.isSome_none, Bool.false_eq_true, false_iff]
      intro h
      have hzero := h 0 (by simp)
      rw [Nat.add_zero, hstep] at hzero
      cases hzero

/-- From autocommit mode, a batch is clean unless its `COMMIT` leaves the transaction
open; then it ends inside that transaction. -/
theorem insertBatch_autocommit_iff (lib : CppLib) {db : Db} (hauto : db.autocommit = true)
    (events : List ObservationEvent) (o : BatchOutcome) :
    (insertBatch lib db events o).1.autocommit = true
      ↔ ¬ LeavesOpen (.insertBatch events o) := by
  have hall := insertAll_isSome_iff lib o.step events 0 db.committed
  simp only [Nat.zero_add] at hall
  unfold insertBatch
  simp only [LeavesOpen]
  -- one case for each point at which the call can return
  cases hbegin : o.begin with
  | error msg => simp [hauto]
  | ok =>
    simp only [hauto, Bool.true_eq_false, if_false, true_and]
    cases hprepare : o.prepare with
    | some msg => simp [hauto]
    | none =>
      simp only [true_and]
      cases hinsert : insertAll lib o.step 0 db.committed events with
      | none =>
        rw [hinsert] at hall
        simp only [hauto, true_iff]
        rintro ⟨hdone, -⟩
        exact absurd (hall.mpr hdone) (by simp)
      | some t =>
        rw [hinsert] at hall
        have hdone := hall.mp rfl
        simp only
        cases hcommit : o.commit with
        | ok => simp [Db.autocommit]
        | error msg stillOpen =>
          cases stillOpen with
          | false => simp [hauto]
          | true =>
            simp only [if_true, Db.autocommit, Option.isNone_some, Bool.false_eq_true, false_iff,
              not_not]
            exact ⟨hdone, msg, rfl⟩

/-- From autocommit mode, a failed batch that ends in autocommit mode restored the
table: only a successful `COMMIT` publishes rows. -/
theorem insertBatch_error_view (lib : CppLib) {db : Db} (hauto : db.autocommit = true)
    {events : List ObservationEvent} {o : BatchOutcome}
    (hafter : (insertBatch lib db events o).1.autocommit = true)
    (herror : (insertBatch lib db events o).2.isOk = false) :
    (insertBatch lib db events o).1.view = db.view := by
  unfold insertBatch at hafter herror ⊢
  cases hbegin : o.begin with
  | error msg => rfl
  | ok =>
    simp only [hbegin, hauto, Bool.true_eq_false, if_false] at hafter herror ⊢
    cases hprepare : o.prepare with
    | some msg => rfl
    | none =>
      simp only [hprepare] at hafter herror ⊢
      cases hinsert : insertAll lib o.step 0 db.committed events with
      | none => rfl
      | some t =>
        simp only [hinsert] at hafter herror ⊢
        cases hcommit : o.commit with
        | ok =>
          rw [hcommit] at herror
          cases herror
        | error msg stillOpen =>
          rw [hcommit] at hafter
          cases stillOpen with
          | false => rfl
          | true => cases hafter

/-! ## The other calls -/

theorem insert_autocommit (lib : CppLib) {db : Db} (hauto : db.autocommit = true)
    (event : ObservationEvent) (o : InsertOutcome) :
    (insert lib db event o).1.autocommit = true := by
  unfold insert
  cases o.prepare with
  | some msg => exact hauto
  | none =>
    cases o.step with
    | done => exact (db.write_autocommit _).trans hauto
    | error msg rolledBack => exact Db.afterError_of_autocommit hauto rolledBack

theorem pruneEvents_autocommit {db : Db} (hauto : db.autocommit = true) (cutoff : TimePoint)
    (o : PruneOutcome) : (pruneEvents db cutoff o).1.autocommit = true := by
  unfold pruneEvents
  cases o.prepare with
  | some msg => exact hauto
  | none =>
    cases o.step with
    | done => exact (db.write_autocommit _).trans hauto
    | error msg rolledBack => exact Db.afterError_of_autocommit hauto rolledBack

theorem pruneEventsByCapacity_autocommit (order : OrderBy Row) {db : Db}
    (hauto : db.autocommit = true) (maxBytes maxEvents : ℕ) (o : CapacityOutcome) :
    (pruneEventsByCapacity order db maxBytes maxEvents o).1.autocommit = true := by
  have hwrite := db.write_autocommit (pruneByCapacity order o maxBytes maxEvents db.view).table
  exact Db.afterError_of_autocommit (hwrite.trans hauto) _

theorem checkpointWal_autocommit {db : Db} (hauto : db.autocommit = true) (o : ExecOutcome) :
    (checkpointWal db o).1.autocommit = true := by
  cases o <;> exact hauto

/-- From autocommit mode a call is clean exactly when it leaves no transaction open. -/
theorem callClean_iff (lib : CppLib) (order : OrderBy Row) {db : Db}
    (hauto : db.autocommit = true) (call : Call) :
    CallClean lib order db call ↔ ¬ LeavesOpen call := by
  cases call with
  | insertBatch events o =>
    have hiff := insertBatch_autocommit_iff lib hauto events o
    constructor
    · intro h
      exact hiff.mp h.1
    · intro h
      have hafter := hiff.mpr h
      refine ⟨hafter, ?_⟩
      rintro events' o' heq herror
      cases heq
      exact insertBatch_error_view lib hauto hafter herror
  | insert event o =>
    exact ⟨fun _ h => h, fun _ => ⟨insert_autocommit lib hauto event o, fun _ _ h => nomatch h⟩⟩
  | query filter o =>
    exact ⟨fun _ h => h, fun _ => ⟨hauto, fun _ _ h => nomatch h⟩⟩
  | pruneEvents cutoff o =>
    exact ⟨fun _ h => h, fun _ => ⟨pruneEvents_autocommit hauto cutoff o, fun _ _ h => nomatch h⟩⟩
  | pruneEventsByCapacity maxBytes maxEvents o =>
    exact ⟨fun _ h => h, fun _ =>
      ⟨pruneEventsByCapacity_autocommit order hauto maxBytes maxEvents o, fun _ _ h => nomatch h⟩⟩
  | checkpointWal o =>
    exact ⟨fun _ h => h, fun _ => ⟨checkpointWal_autocommit hauto o, fun _ _ h => nomatch h⟩⟩

/-- **No call leaves a transaction behind**, over every run of a store opened on any
table and every assignment of outcomes: all calls are clean if and only if no batch of
the run has a `COMMIT` that fails with its transaction left open. -/
theorem calls_clean_iff (lib : CppLib) (order : OrderBy Row) (t : Table) (calls : List Call) :
    (machine lib order).AllSteps (CallClean lib order) ⟨t, none⟩ calls
      ↔ ∀ call ∈ calls, ¬ LeavesOpen call := by
  suffices h : ∀ db : Db, db.autocommit = true →
      ((machine lib order).AllSteps (CallClean lib order) db calls
        ↔ ∀ call ∈ calls, ¬ LeavesOpen call) from h _ rfl
  induction calls with
  | nil =>
    intro db _
    simp [Machine.AllSteps]
  | cons call rest ih =>
    intro db hauto
    -- a clean call ends in autocommit mode, which is what the rest of the run needs
    rw [Machine.AllSteps, List.forall_mem_cons, callClean_iff lib order hauto]
    refine and_congr_right fun hclean => ih _ ?_
    exact ((callClean_iff lib order hauto call).mpr hclean).1

/-- An event as a collector emits it. -/
def spacePressure : ObservationEvent :=
  { timestamp := 1700000000000000000, source := "storage_collector", category := "storage",
    subject := "/", signal := "space_pressure", severity := .warning }

/-- A batch of one event whose `COMMIT` finds the database locked leaves its transaction
open: the call is not clean. -/
theorem busy_commit_leaves_transaction :
    ¬ (machine .integral .stable).AllSteps (CallClean .integral .stable) ⟨.empty, none⟩
      [.insertBatch [spacePressure] { commit := .error (some "database is locked") true }] := by
  rintro ⟨⟨hauto, -⟩, -⟩
  cases hauto

end EventStore

end Holonight
