import Holonight.Config.Application
import Holonight.Storage.EventStore

/-!
# Retention of events (`Daemon::runIteration`)

Every iteration deletes the events older than `retention_days`. The number of days goes
through a cast to `int`, a multiplication into nanoseconds and a subtraction from the
clock, all in fixed-width arithmetic; a signed operation that overflows is undefined, so
its result is an argument here and the statements hold for every value it may have.

`age_prune_safe_iff` says for which values the prune spares every event that is younger
than the configured number of days: those whose nanoseconds fit a signed 64-bit word,
at clock times from which they can be subtracted.
-/

namespace Holonight

namespace Daemon

open EventStore

/-- `retention_days_` (Daemon.cpp:111). -/
def retentionDays (config : Config) : ℤ := config.database.retentionDays.getD 30

/-- `system_clock::now() - std::chrono::days(retention_days_)` (Daemon.cpp:265): the days
are converted to nanoseconds and subtracted, both in `int64_t`. -/
def retentionCutoff (overflow : ℤ → ℤ) (now : TimePoint) (days : ℤ) : TimePoint :=
  signed64 overflow (now - signed64 overflow (days * nanosPerDay))

/-- The age prune of an iteration (Daemon.cpp:265–266), on a connection in autocommit
mode. -/
def agePrune (overflow : ℤ → ℤ) (now : TimePoint) (config : Config) (t : Table)
    (o : PruneOutcome) : Table :=
  (pruneEvents { committed := t, txn := none }
    (retentionCutoff overflow now (retentionDays config)) o).1.view

/-- Whatever an overflowing operation yields, only rows more than `days` days before `now`
are deleted. -/
def AgePruneSafe (config : Config) (now : TimePoint) (days : ℤ) : Prop :=
  ∀ overflow : ℤ → ℤ, (∀ n, InInt64 (overflow n)) → ∀ (t : Table) (o : PruneOutcome),
    ∀ row ∈ t.rows, row ∉ (agePrune overflow now config t o).rows →
      row.timestampUs * 1000 < now - days * nanosPerDay

section Prune

variable {overflow : ℤ → ℤ} {now : TimePoint} {config : Config} {t : Table} {o : PruneOutcome}

/-- A deleted row is older than the cutoff: a statement that fails deletes nothing. -/
theorem olderThan_of_deleted {row : Row} (hrow : row ∈ t.rows)
    (hdeleted : row ∉ (agePrune overflow now config t o).rows) :
    row.timestampUs < toMicros (retentionCutoff overflow now (retentionDays config)) := by
  unfold agePrune pruneEvents at hdeleted
  cases hprepare : o.prepare with
  | some msg =>
    rw [hprepare] at hdeleted
    exact absurd hrow hdeleted
  | none =>
    cases hstep : o.step with
    | error msg rolledBack =>
      rw [hprepare, hstep] at hdeleted
      cases rolledBack with
      | false => exact absurd hrow hdeleted
      | true => exact absurd hrow hdeleted
    | done =>
      rw [hprepare, hstep] at hdeleted
      by_contra hyoung
      refine hdeleted (List.mem_filter.mpr ⟨hrow, ?_⟩)
      unfold olderThan
      rw [decide_eq_false hyoung]
      rfl

/-- A row with the given time, deleted when it is older than the cutoff. -/
theorem exists_deleted {timestampUs : ℤ}
    (h : timestampUs < toMicros (retentionCutoff overflow now (retentionDays config))) :
    ∃ (t : Table) (o : PruneOutcome), ∃ row ∈ t.rows,
      row.timestampUs = timestampUs ∧ row ∉ (agePrune overflow now config t o).rows := by
  refine ⟨Table.empty.insertRow
    { timestampUs := timestampUs, source := [], category := [], subject := [], signal := []
      valueType := [], valueText := none, severity := [], attributesJson := [] }, {}, _,
    List.mem_singleton_self _, rfl, ?_⟩
  intro hkept
  have hyoung := (List.mem_filter.mp hkept).2
  unfold olderThan at hyoung
  rw [decide_eq_true h] at hyoung
  cases hyoung

end Prune

/-! ## The cutoff -/

section Cutoff

variable {overflow : ℤ → ℤ} {now : TimePoint} {config : Config} {days : ℤ}

/-- A prune that spares young events has a cutoff at the configured distance, up to the
resolution of the table. -/
theorem cutoff_lt_of_safe (hsafe : AgePruneSafe config now days)
    (hoverflow : ∀ n, InInt64 (overflow n)) :
    retentionCutoff overflow now (retentionDays config) < now - days * nanosPerDay + 2000 := by
  obtain ⟨t, o, row, hrow, htime, hdeleted⟩ := @exists_deleted overflow now config
    (toMicros (retentionCutoff overflow now (retentionDays config)) - 1) (by omega)
  have hold := hsafe overflow hoverflow t o row hrow hdeleted
  rw [htime] at hold
  have hround := (toMicros_bounds (retentionCutoff overflow now (retentionDays config))).2
  linarith

/-- An exact cutoff spares young events. -/
theorem safe_of_exact_cutoff
    (hexact : ∀ overflow, retentionCutoff overflow now (retentionDays config)
      = now - days * nanosPerDay) :
    AgePruneSafe config now days := by
  intro overflow _ t o row hrow hdeleted
  have hold := olderThan_of_deleted hrow hdeleted
  rw [hexact overflow] at hold
  have hround := (toMicros_bounds (now - days * nanosPerDay)).1
  have hstep : row.timestampUs + 1 ≤ toMicros (now - days * nanosPerDay) := hold
  linarith

/-- A cutoff at the current time spares nothing. -/
theorem not_safe_of_cutoff_now (hdays : 0 < days) (hoverflow : ∀ n, InInt64 (overflow n))
    (hcutoff : retentionCutoff overflow now (retentionDays config) = now) :
    ¬ AgePruneSafe config now days := by
  intro hsafe
  have hlt := cutoff_lt_of_safe hsafe hoverflow
  rw [hcutoff] at hlt
  have hday : nanosPerDay ≤ days * nanosPerDay := by
    have hone : 1 * nanosPerDay ≤ days * nanosPerDay :=
      mul_le_mul_of_nonneg_right hdays (by decide)
    linarith
  have hvalue : nanosPerDay = 86400000000000 := rfl
  linarith

/-- The narrowed number of days decides: the prune is safe if and only if it is the number
of days itself and neither operation overflows. -/
theorem safe_iff_of_retentionDays (hnow : InInt64 now) (hdays : 0 < days)
    (hconfig : retentionDays config = toInt32 days) :
    AgePruneSafe config now days
      ↔ toInt32 days = days ∧ InInt64 (days * nanosPerDay)
          ∧ InInt64 (now - days * nanosPerDay) := by
  constructor
  · intro hsafe
    by_cases hproduct : InInt64 (toInt32 days * nanosPerDay)
    · by_cases hdifference : InInt64 (now - toInt32 days * nanosPerDay)
      · -- nothing overflows: a smaller number of days would give a later cutoff
        have hlt := @cutoff_lt_of_safe (fun _ => 0) now config days hsafe fun _ => by decide
        rw [hconfig, retentionCutoff, signed64_of_fits hproduct,
          signed64_of_fits hdifference] at hlt
        have hvalue : nanosPerDay = 86400000000000 := rfl
        have hle : toInt32 days ≤ days := by
          obtain ⟨n, rfl⟩ := Int.eq_ofNat_of_zero_le hdays.le
          exact toInt32_natCast_le n
        have hsame : toInt32 days = days := by
          rw [hvalue] at hlt
          have hgap : days * 86400000000000 < toInt32 days * 86400000000000 + 2000 := by
            linarith
          omega
        rw [hsame] at hproduct hdifference
        exact ⟨hsame, hproduct, hdifference⟩
      · -- the subtraction overflows: it may give the current time
        refine absurd hsafe (@not_safe_of_cutoff_now (fun _ => now) now config days hdays
          (fun _ => hnow) ?_)
        rw [hconfig, retentionCutoff, signed64_of_fits hproduct, signed64_of_overflow hdifference]
    · -- the multiplication overflows: it may give zero
      refine absurd hsafe (@not_safe_of_cutoff_now (fun _ => 0) now config days hdays
        (fun _ => by decide) ?_)
      rw [hconfig, retentionCutoff, signed64_of_overflow hproduct, sub_zero, signed64_of_fits hnow]
  · rintro ⟨hsame, hproduct, hdifference⟩
    refine safe_of_exact_cutoff fun overflow => ?_
    rw [hconfig, hsame, retentionCutoff, signed64_of_fits hproduct, signed64_of_fits hdifference]

end Cutoff

/-! ## Accepted configurations -/

/-- Days whose nanoseconds fit 64 bits fit the `int` they are narrowed to. -/
theorem toInt32_of_product_fits {days : ℤ} (hdays : 0 < days)
    (h : InInt64 (days * nanosPerDay)) : toInt32 days = days := by
  have hvalue : nanosPerDay = 86400000000000 := rfl
  have hbound := h.2
  rw [hvalue] at hbound
  exact toInt32_of_fits (by omega) (by omega)

/-- **Young events are spared** by the age prune of every configuration that is accepted
with a `retention_days`, if and only if that many days in nanoseconds fit a signed 64-bit
word and can be subtracted from the current time. -/
theorem age_prune_safe_iff (lib : CppLib) (path : Bytes) (tbl db : TomlTable) (days : Int64)
    (result : Config × List Bytes)
    (haccepted : Config.fromFile lib path (.parsed tbl) = .ok result)
    (hdb : tbl.getTable "database" = some db) (hdays : db.getInt "retention_days" = some days)
    (now : TimePoint) (hnow : InInt64 now) :
    AgePruneSafe result.1 now days.toInt
      ↔ InInt64 (days.toInt * nanosPerDay) ∧ InInt64 (now - days.toInt * nanosPerDay) := by
  obtain ⟨hpos, hretention⟩ := Config.fromTable_retentionDays haccepted hdb hdays
  have hconfig : retentionDays result.1 = toInt32 days.toInt := by
    unfold retentionDays
    rw [hretention]
    rfl
  rw [safe_iff_of_retentionDays hnow hpos hconfig]
  constructor
  · exact And.right
  · intro h
    exact ⟨toInt32_of_product_fits hpos h.1, h⟩

/-- A document with the required keys and a number of days. -/
def retentionDocument (days : Int64) : TomlTable :=
  [ ("general", .table [("interval_seconds", .int 300), ("scan_root", .str "/home")]),
    ("database", .table [("retention_days", .int days)]) ]

/-- The configuration such a document gives. -/
def retentionConfig (days : ℤ) : Config :=
  { interval := 300, scanRoot := "/home", database := { retentionDays := some days } }

/-- Thirty days, in the year 2026. -/
theorem age_prune_safe_thirty_days :
    AgePruneSafe (retentionConfig 30) 1780000000000000000 30 := by
  refine (age_prune_safe_iff CppLib.integral [] (retentionDocument 30) _ 30
    (retentionConfig 30, []) rfl rfl rfl _ (by decide)).mpr ⟨by decide, by decide⟩

/-- A document with 4294967297 days is accepted and gives one day: events from two days
ago are deleted. -/
theorem young_event_pruned :
    Config.fromFile CppLib.integral [] (.parsed (retentionDocument 4294967297))
        = .ok (retentionConfig 1, []) ∧
      ¬ AgePruneSafe (retentionConfig 1) 1780000000000000000 4294967297 := by
  refine ⟨rfl, fun hsafe => ?_⟩
  have hlt := @cutoff_lt_of_safe (fun _ => 0) _ _ _ hsafe fun _ => by decide
  revert hlt
  decide

end Daemon

end Holonight
