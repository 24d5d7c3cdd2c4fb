import Holonight.Storage.ObservationEvent

/-!
# The `observation_events` table and its connection

What the event store relies on of SQLite, as a state:

- `Table`: the rows of `observation_events` with the `AUTOINCREMENT` counter. The
  primary key makes the ids distinct and the counter bounds them; both facts are
  fields, so every table of the development has them.
- `OrderBy`: what an SQL `ORDER BY` promises — a permutation that is sorted by the
  key, in no particular order among ties.
- `Db`: the connection. Outside a transaction every statement commits by itself
  (autocommit mode); inside one the statements act on a working table that `COMMIT`
  publishes and `ROLLBACK` drops.
-/

namespace Holonight

/-! ## Rows -/

/-- The columns of `observation_events` other than the key (EventStore.cpp:54–65).
Only `value_text` may be NULL. -/
structure RowData where
  timestampUs : ℤ
  source : Bytes
  category : Bytes
  subject : Bytes
  signal : Bytes
  valueType : Bytes
  valueText : Option Bytes
  severity : Bytes
  attributesJson : Bytes
  deriving DecidableEq

/-- A row: its columns and its key. -/
structure Row extends RowData where
  id : ℤ
  deriving DecidableEq

/-- The `CASE severity …` expression of both SQL statements that rank rows
(EventStore.cpp:344–350, 448–454). -/
def severityCase (severity : Bytes) : ℕ :=
  if severity = "debug" then 0
  else if severity = "info" then 1
  else if severity = "warning" then 2
  else if severity = "error" then 3
  else if severity = "critical" then 4
  else 1

/-! ## Tables -/

/-- The table with its `sqlite_sequence` counter. -/
structure Table where
  rows : List Row
  seq : ℤ
  nodup : (rows.map Row.id).Nodup
  le_seq : ∀ r ∈ rows, r.id ≤ seq

namespace Table

/-- `SELECT COUNT(*)`. -/
def count (t : Table) : ℕ := t.rows.length

/-- The empty table of a new database. -/
def empty : Table := ⟨[], 0, List.nodup_nil, by simp⟩

/-- A table of `n` rows with the given columns, as `n` insertions leave it. -/
def replicate (n : ℕ) (data : RowData) : Table where
  rows := (List.range n).map fun i : ℕ => { data with id := (i : ℤ) + 1 }
  seq := n
  nodup := by
    rw [List.map_map]
    refine List.Nodup.map ?_ List.nodup_range
    intro i j hij
    have hij' : (i : ℤ) + 1 = (j : ℤ) + 1 := hij
    omega
  le_seq := by
    intro r hr
    obtain ⟨i, hi, rfl⟩ := List.mem_map.mp hr
    have hlt := List.mem_range.mp hi
    show (i : ℤ) + 1 ≤ n
    omega

@[simp] theorem count_replicate (n : ℕ) (data : RowData) : (replicate n data).count = n := by
  simp [replicate, count]

/-- `INSERT`: the key is the next value of the counter. -/
def insertRow (t : Table) (data : RowData) : Table where
  rows := t.rows ++ [{ data with id := t.seq + 1 }]
  seq := t.seq + 1
  nodup := by
    rw [List.map_append, List.nodup_append]
    refine ⟨t.nodup, by simp, ?_⟩
    intro a ha b hb
    obtain ⟨r, hr, rfl⟩ := List.mem_map.mp ha
    have hle := t.le_seq r hr
    simp only [List.map_cons, List.map_nil, List.mem_singleton] at hb
    omega
  le_seq := by
    intro r hr
    rcases List.mem_append.mp hr with h | h
    · exact le_trans (t.le_seq r h) (by omega)
    · rw [List.mem_singleton] at h
      subst h
      exact le_refl _

/-- `DELETE … WHERE p`: the counter is kept. -/
def deleteWhere (t : Table) (p : Row → Bool) : Table where
  rows := t.rows.filter fun r => !p r
  seq := t.seq
  nodup := t.nodup.sublist (List.filter_sublist.map _)
  le_seq := fun r hr => t.le_seq r (List.mem_of_mem_filter hr)

end Table

/-! ## `ORDER BY` -/

/-- What `ORDER BY` gives: the same rows, sorted; the order of ties is whatever the
query plan makes it. -/
structure OrderBy (α : Type) where
  sort : (α → α → Bool) → List α → List α
  perm : ∀ le l, (sort le l).Perm l
  sorted : ∀ le l, (∀ a b c, le a b = true → le b c = true → le a c = true) →
    (∀ a b, (le a b || le b a) = true) → (sort le l).Pairwise fun a b => le a b = true

/-- A concrete `ORDER BY` that keeps ties in table order. -/
def OrderBy.stable {α : Type} : OrderBy α where
  sort le l := l.mergeSort le
  perm le l := List.mergeSort_perm l le
  sorted _ l htrans htotal := List.pairwise_mergeSort htrans htotal l

/-- The key of the capacity prune: severity rank, then time (EventStore.cpp:448–454). -/
def pruneLe (a b : Row) : Bool :=
  decide (severityCase a.severity < severityCase b.severity) ||
    (decide (severityCase a.severity = severityCase b.severity) &&
      decide (a.timestampUs ≤ b.timestampUs))

namespace Table

/-- `DELETE … WHERE id IN (SELECT id … ORDER BY pruneLe LIMIT n)`
(EventStore.cpp:445–457). -/
def deleteLowest (order : OrderBy Row) (t : Table) (n : ℕ) : Table :=
  let victims := ((order.sort pruneLe t.rows).take n).map Row.id
  t.deleteWhere fun r => decide (r.id ∈ victims)

/-- What remains of the table is what remains of the sorted rows: the keys are
distinct, so deleting by id removes exactly the selected rows. -/
theorem deleteLowest_rows_perm (order : OrderBy Row) (t : Table) (n : ℕ) :
    (t.deleteLowest order n).rows.Perm ((order.sort pruneLe t.rows).drop n) := by
  set sorted := order.sort pruneLe t.rows with hsorted
  have hperm : sorted.Perm t.rows := order.perm pruneLe t.rows
  have hnodup : (sorted.map Row.id).Nodup := (hperm.map Row.id).nodup_iff.mpr t.nodup
  rw [← List.take_append_drop n sorted, List.map_append, List.nodup_append] at hnodup
  obtain ⟨-, -, hdisj⟩ := hnodup
  set keep : Row → Bool := fun r => !decide (r.id ∈ (sorted.take n).map Row.id) with hkeep
  -- the victims are dropped by their ids, and no row that is kept has one of these
  have htake : (sorted.take n).filter keep = [] := by
    refine List.filter_eq_nil_iff.mpr fun r hr => ?_
    have hmem : r.id ∈ (sorted.take n).map Row.id := List.mem_map_of_mem hr
    simpa [hkeep] using hmem
  have hdrop : (sorted.drop n).filter keep = sorted.drop n := by
    refine List.filter_eq_self.mpr fun r hr => ?_
    have hnot : r.id ∉ (sorted.take n).map Row.id :=
      fun hmem => hdisj r.id hmem r.id (List.mem_map_of_mem hr) rfl
    simpa [hkeep] using hnot
  have hfilter : (t.rows.filter keep).Perm (sorted.filter keep) := hperm.symm.filter _
  have hsplit : sorted.filter keep = sorted.drop n := by
    conv_lhs => rw [← List.take_append_drop n sorted]
    rw [List.filter_append, htake, hdrop, List.nil_append]
  rw [hsplit] at hfilter
  exact hfilter

/-- A `LIMIT n` delete removes `min n count` rows. -/
@[simp] theorem deleteLowest_count (order : OrderBy Row) (t : Table) (n : ℕ) :
    (t.deleteLowest order n).count = t.count - n := by
  have h := (t.deleteLowest_rows_perm order n).length_eq
  rw [List.length_drop, (order.perm pruneLe t.rows).length_eq] at h
  exact h

end Table

/-! ## The connection -/

/-- How one `sqlite3_step` of a writing statement ends. An error undoes the
statement; some errors also roll back the transaction it runs in. -/
inductive StepOutcome where
  | done
  | error (msg : Bytes) (rolledBack : Bool)
  deriving DecidableEq

/-- How one `sqlite3_exec` ends; an error may come without a message. -/
inductive ExecOutcome where
  | ok
  | error (msg : Option Bytes)
  deriving DecidableEq

/-- How `COMMIT` ends: a failing commit may leave its transaction open (as on
`SQLITE_BUSY`) or have rolled it back. -/
inductive CommitOutcome where
  | ok
  | error (msg : Option Bytes) (stillOpen : Bool)
  deriving DecidableEq

/-- The connection: the committed table, and the working table of an open
transaction. -/
structure Db where
  committed : Table
  txn : Option Table

namespace Db

/-- `sqlite3_get_autocommit`. -/
def autocommit (db : Db) : Bool := db.txn.isNone

/-- The table statements of this connection see. -/
def view (db : Db) : Table := db.txn.getD db.committed

/-- Replace the table the connection sees: committed at once in autocommit mode. -/
def write (db : Db) (t : Table) : Db :=
  match db.txn with
  | none => { db with committed := t }
  | some _ => { db with txn := some t }

/-- A statement failed; with `rolledBack` the open transaction is gone too. -/
def afterError (db : Db) (rolledBack : Bool) : Db :=
  if rolledBack then { db with txn := none } else db

@[simp] theorem write_autocommit (db : Db) (t : Table) :
    (db.write t).autocommit = db.autocommit := by
  obtain ⟨committed, txn⟩ := db
  cases txn <;> rfl

@[simp] theorem view_write (db : Db) (t : Table) : (db.write t).view = t := by
  obtain ⟨committed, txn⟩ := db
  cases txn <;> rfl

/-- Outside a transaction there is nothing a failed statement could roll back. -/
theorem afterError_of_autocommit {db : Db} (h : db.autocommit = true) (rolledBack : Bool) :
    (db.afterError rolledBack).autocommit = true := by
  unfold afterError
  split
  · rfl
  · exact h

end Db

/-- `sqlite3_changes`: the number of rows the last statement changed, as an `int`. -/
def sqlite3Changes (n : ℕ) : ℤ := toInt32 n

end Holonight
