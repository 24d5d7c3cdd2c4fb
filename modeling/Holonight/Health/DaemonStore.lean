import Holonight.Health.DaemonLoop
import Holonight.Health.StatusCheck
import Holonight.Storage.History

/-!
# The store under the daemon loop (`Daemon::run`, `Daemon::runIteration`)

The loop makes three calls of the store in each iteration: it inserts what the collectors report,
prunes by age, and prunes by capacity. Whether and when iterations are taken is up to the commands,
the sleep and the stop request; `run_db` says that none of it touches the store otherwise. So the
store of a run of the daemon is a run of the store.

- `daemon_keeps_history`: the rows are among those of the start and the events of the iterations, in
  the order in which they were collected. The events of an iteration are stored together or not at
  all, and the log has one error line for each iteration whose events are not.
- `daemon_within_limits`: after an iteration whose prunes succeed, no row is older than the retention
  time and the number of rows is within its limit, until the next iteration.
-/

namespace Holonight

namespace EventStore

section Limits

variable {order : OrderBy Row} {o : CapacityOutcome} {lim : CapacityLimits}

/-- Counting and deleting succeed throughout a capacity prune. -/
structure CapacityDone (o : CapacityOutcome) : Prop where
  entry : o.entryCounted = true
  prepare : o.prepare = none
  counted : ∀ k, o.counted k = true
  step : ∀ k, o.step k = .done

/-- The loop of a capacity prune ends with the count at its target. -/
theorem count_pruneLoop_le (hdone : CapacityDone o) (hpos : 0 < lim.maxEvents) (k : ℕ) (t : Table)
    (total : ℕ) : (pruneLoop order o lim k t total).table.count ≤ lim.targetCount := by
  fun_induction pruneLoop order o lim k t total with
  | case1 k t total count hzero =>
    have hcount : t.count = 0 := (if_pos (hdone.counted k)).symm.trans hzero
    show t.count ≤ _
    omega
  | case2 k t total count hne hnone =>
    have hcount : count = t.count := if_pos (hdone.counted k)
    unfold chooseBatch at hnone
    by_contra hover
    rw [if_pos ⟨hpos, by rw [hcount]; exact not_le.mp hover⟩] at hnone
    cases hnone
  | case3 k t total count hne batch hbatch msg rolledBack hstep =>
    rw [hdone.step k] at hstep
    cases hstep
  | case4 k t total count hne batch hbatch hstep t' changes hchanges =>
    have hcount : count = t.count := if_pos (hdone.counted k)
    show (t.deleteLowest order batch.limit).count ≤ _
    rw [Table.deleteLowest_count]
    unfold chooseBatch at hbatch
    rw [hcount] at hbatch
    by_cases hover : lim.targetCount < t.count
    · rw [if_pos ⟨hpos, hover⟩] at hbatch
      cases hbatch
      show t.count - (t.count - lim.targetCount) ≤ _
      omega
    · omega
  | case5 k t total count hne batch hbatch hstep t' changes hchanges rest ih => exact ih

/-- **A capacity prune that succeeds leaves no more events than its limit.** -/
theorem count_pruneByCapacity_le (hdone : CapacityDone o) {maxEvents : ℕ} (hpos : 0 < maxEvents)
    (maxBytes : ℕ) (t : Table) :
    (pruneByCapacity order o maxBytes maxEvents t).table.count ≤ maxEvents := by
  unfold pruneByCapacity
  rw [if_pos hdone.entry, hdone.prepare]
  dsimp only
  split
  case isTrue hwithin =>
    show t.count ≤ maxEvents
    by_contra hover
    exact hwithin.1 ⟨hpos, not_le.mp hover⟩
  case isFalse =>
    refine (count_pruneLoop_le hdone hpos 0 t 0).trans ?_
    show (if 0 < maxEvents then watermark maxEvents else _) ≤ maxEvents
    rw [if_pos hpos]
    exact watermark_le maxEvents

/-- A deletion that succeeds is not rolled back. -/
theorem rolledBack_pruneLoop (hdone : CapacityDone o) (k : ℕ) (t : Table) (total : ℕ) :
    (pruneLoop order o lim k t total).rolledBack = false := by
  fun_induction pruneLoop order o lim k t total with
  | case1 | case2 | case4 => rfl
  | case3 k t total count hne batch hbatch msg rolledBack hstep =>
    rw [hdone.step k] at hstep
    cases hstep
  | case5 k t total count hne batch hbatch hstep t' changes hchanges rest ih => exact ih

/-- A capacity prune that succeeds leaves the table it computes. -/
theorem view_pruneEventsByCapacity (hdone : CapacityDone o) {db : Db} {maxBytes maxEvents : ℕ} :
    (pruneEventsByCapacity order db maxBytes maxEvents o).1.view
      = (pruneByCapacity order o maxBytes maxEvents db.view).table := by
  have hkept : (pruneByCapacity order o maxBytes maxEvents db.view).rolledBack = false := by
    unfold pruneByCapacity
    rw [if_pos hdone.entry, hdone.prepare]
    dsimp only
    split
    case isTrue => rfl
    case isFalse => exact rolledBack_pruneLoop hdone _ _ _
  unfold pruneEventsByCapacity
  dsimp only
  rw [hkept]
  exact Db.view_write db _

end Limits

end EventStore

namespace Daemon

open RuleEngine EventStore
open HealthCheckJob (CommandResult)

/-! ## The steps of the loop -/

/-- What one step of the program can do: the phase it leads to, the store it leaves and the lines it
logs. -/
inductive Moves (setup : Setup) (s : LoopState) (o : StepOutcome) :
    Phase → Db → List LogLine → Prop
  | skipped (hphase : s.phase = .iteration) (hcommands : setup.config.commands = []) :
      Moves setup s o .iterationDone (iterationWork setup s.db o.iteration).1
        ((iterationWork setup s.db o.iteration).2
          ++ [⟨.info, "health check skipped: no commands configured"⟩])
  | begun (hphase : s.phase = .iteration) (hcommands : setup.config.commands ≠ []) :
      Moves setup s o (.nextCommand setup.config.commands [])
        (iterationWork setup s.db o.iteration).1 (iterationWork setup s.db o.iteration).2
  | summed {results : List CommandResult} (hphase : s.phase = .nextCommand [] results) :
      Moves setup s o .iterationDone s.db [logSummary results]
  | cancelled {command : Bytes} {rest : List Bytes} {results : List CommandResult}
      (hphase : s.phase = .nextCommand (command :: rest) results) (hstop : s.stopRequested = true) :
      Moves setup s o .iterationDone s.db
        [⟨.info, "health check cancelled: daemon stop requested"⟩, logSummary results]
  | announced {command : Bytes} {rest : List Bytes} {results : List CommandResult}
      (hphase : s.phase = .nextCommand (command :: rest) results) (hgo : s.stopRequested = false) :
      Moves setup s o (.starting command rest results) s.db
        [⟨.info, Bytes.ofString "running: " ++ command⟩]
  | spawned {command : Bytes} {rest : List Bytes} {results : List CommandResult}
      {state : CommandRunner.RunState} (hphase : s.phase = .starting command rest results)
      (hspawn : CommandRunner.spawn {} o.spawn = .ok state) :
      Moves setup s o (.running command state rest results) s.db []
  | notSpawned {command : Bytes} {rest : List Bytes} {results : List CommandResult} {what : Bytes}
      (hphase : s.phase = .starting command rest results) :
      Moves setup s o (.threw what) s.db []
  | waited {command : Bytes} {rest : List Bytes} {results : List CommandResult}
      {state state' : CommandRunner.RunState}
      (hphase : s.phase = .running command state rest results)
      (hround : CommandRunner.round {} state s.stopRequested o.round = .ok state')
      (hmore : state'.finished = false) :
      Moves setup s o (.running command state' rest results) s.db []
  | finished {command : Bytes} {rest : List Bytes} {results : List CommandResult}
      {state state' : CommandRunner.RunState}
      (hphase : s.phase = .running command state rest results)
      (hround : CommandRunner.round {} state s.stopRequested o.round = .ok state')
      (hfinished : state'.finished = true) :
      Moves setup s o (.nextCommand rest (results ++ [CommandRunner.result command state'])) s.db
        [logFinished (CommandRunner.result command state')]
  | notWaited {command : Bytes} {rest : List Bytes} {results : List CommandResult}
      {state : CommandRunner.RunState} {what : Bytes}
      (hphase : s.phase = .running command state rest results) :
      Moves setup s o (.threw what) s.db []
  | done (hphase : s.phase = .iterationDone)
      (hleave : setup.mode = .once ∨ s.stopRequested = true) :
      Moves setup s o .returned s.db [⟨.info, "daemon stopped"⟩]
  | rests (hphase : s.phase = .iterationDone)
      (hstay : ¬ (setup.mode = .once ∨ s.stopRequested = true)) :
      Moves setup s o (.sleeping (signed64 setup.overflow (setup.config.interval * 1000))) s.db []
  | slept {remaining : ℤ} (hphase : s.phase = .sleeping remaining) (hpos : 0 < remaining)
      (hgo : s.stopRequested = false) :
      Moves setup s o (.sleeping (remaining - min remaining 100)) s.db []
  | woke {remaining : ℤ} (hphase : s.phase = .sleeping remaining)
      (hwake : ¬ (0 < remaining ∧ s.stopRequested = false)) : Moves setup s o .woken s.db []
  | left (hphase : s.phase = .woken) (hstop : s.stopRequested = true) :
      Moves setup s o .returned s.db [⟨.info, "daemon stopped"⟩]
  | again (hphase : s.phase = .woken) (hgo : s.stopRequested = false) :
      Moves setup s o .iteration s.db []
  | ended (hended : s.phase.Ended) : Moves setup s o s.phase s.db []

/-- **The steps of the program** are these. -/
theorem program_moves (setup : Setup) (s : LoopState) (o : StepOutcome) :
    ∃ phase db lines, program setup s o = ({ s with phase := phase, db := db }, lines) ∧
      Moves setup s o phase db lines := by
  unfold program
  cases hphase : s.phase with
  | iteration =>
    by_cases hcommands : setup.config.commands = []
    · exact ⟨_, _, _, if_pos hcommands, .skipped hphase hcommands⟩
    · exact ⟨_, _, _, if_neg hcommands, .begun hphase hcommands⟩
  | nextCommand rest results =>
    cases rest with
    | nil => exact ⟨_, _, _, rfl, .summed hphase⟩
    | cons command rest =>
      cases hstop : s.stopRequested with
      | true => exact ⟨_, _, _, rfl, .cancelled hphase hstop⟩
      | false => exact ⟨_, _, _, rfl, .announced hphase hstop⟩
  | starting command rest results =>
    dsimp only
    cases hspawn : CommandRunner.spawn {} o.spawn with
    | ok state => exact ⟨_, _, _, rfl, .spawned hphase hspawn⟩
    | error what => exact ⟨_, _, _, rfl, .notSpawned hphase⟩
  | running command state rest results =>
    dsimp only
    cases hround : CommandRunner.round {} state s.stopRequested o.round with
    | error what => exact ⟨_, _, _, rfl, .notWaited hphase⟩
    | ok state' =>
      cases hfinished : state'.finished with
      | true => exact ⟨_, _, _, if_pos hfinished, .finished hphase hround hfinished⟩
      | false =>
        exact ⟨_, _, _, if_neg (ne_true_of_eq_false hfinished), .waited hphase hround hfinished⟩
  | iterationDone =>
    by_cases hleave : setup.mode = .once ∨ s.stopRequested = true
    · exact ⟨_, _, _, if_pos hleave, .done hphase hleave⟩
    · exact ⟨_, _, _, if_neg hleave, .rests hphase hleave⟩
  | sleeping remaining =>
    by_cases hsleep : 0 < remaining ∧ s.stopRequested = false
    · exact ⟨_, _, _, if_pos hsleep, .slept hphase hsleep.1 hsleep.2⟩
    · exact ⟨_, _, _, if_neg hsleep, .woke hphase hsleep⟩
  | woken =>
    cases hstop : s.stopRequested with
    | true => exact ⟨_, _, _, rfl, .left hphase hstop⟩
    | false => exact ⟨_, _, _, rfl, .again hphase hstop⟩
  | returned | threw what =>
    have hended : s.phase.Ended := by
      rw [hphase]
      trivial
    exact ⟨s.phase, s.db, [], rfl, .ended hended⟩

/-! ## The calls of an iteration -/

/-- The events of an iteration. -/
def IterationOutcome.events (o : IterationOutcome) : List ObservationEvent :=
  (collectAllEvents id o.collectors).1

/-- The time before which an iteration prunes. -/
def cutoff (setup : Setup) (o : IterationOutcome) : TimePoint :=
  retentionCutoff setup.overflow o.now (retentionDays setup.config)

/-- The number of events the store may hold. -/
def maxEvents (setup : Setup) : ℕ := setup.config.database.maxEvents.getD 100000

/-- The calls of the store in an iteration (Daemon.cpp:253–277). -/
def storeCalls (setup : Setup) (o : IterationOutcome) : List Call :=
  [.insertBatch o.events o.batch, .pruneEvents (cutoff setup o) o.prune,
    .pruneEventsByCapacity (setup.config.database.maxBytes.getD 52428800) (maxEvents setup)
      o.capacity]

/-- The iteration that a step takes, if any. -/
def iterationOf (s : LoopState) : Input → List IterationOutcome
  | .stop => []
  | .step o =>
    match s.phase with
    | .iteration => [o.iteration]
    | _ => []

/-- The iterations of a run. -/
def iterations (setup : Setup) (s : LoopState) (inputs : List Input) : List IterationOutcome :=
  ((daemonLoop setup).traced.run s inputs).2.flatMap fun p => iterationOf p.1 p.2

section Steps

variable {setup : Setup} {s : LoopState} {o : StepOutcome}

/-- A step takes no iteration, or it is at the start of one. -/
theorem iterationOf_cases (s : LoopState) (input : Input) :
    iterationOf s input = [] ∨ ∃ o : StepOutcome, input = .step o ∧ s.phase = .iteration ∧
      iterationOf s input = [o.iteration] := by
  cases input with
  | stop => exact Or.inl rfl
  | step o =>
    unfold iterationOf
    cases hphase : s.phase with
    | iteration => exact Or.inr ⟨o, rfl, rfl, rfl⟩
    | _ => exact Or.inl rfl

/-- An iteration leaves the store as its three calls leave it. -/
theorem iterationWork_db (db : Db) (o : IterationOutcome) :
    (iterationWork setup db o).1
      = ((EventStore.machine setup.lib setup.order).run db (storeCalls setup o)).1 := rfl

/-- Only the step of an iteration touches the store. -/
theorem step_db (s : LoopState) (input : Input) :
    ((daemonLoop setup).step s input).1.db
      = ((EventStore.machine setup.lib setup.order).run s.db
          ((iterationOf s input).flatMap (storeCalls setup))).1 := by
  cases input with
  | stop => rfl
  | step o =>
    obtain ⟨phase, db, lines, hprogram, hmoves⟩ := program_moves setup s o
    show (program setup s o).1.db = _
    rw [hprogram]
    unfold iterationOf
    cases hmoves with
    | skipped hphase | begun hphase =>
      rw [hphase]
      exact iterationWork_db s.db o.iteration
    | summed hphase | cancelled hphase | announced hphase | spawned hphase | notSpawned hphase
    | waited hphase | finished hphase | notWaited hphase | done hphase | rests hphase | slept hphase
    | woke hphase | left hphase | again hphase =>
      rw [hphase]
      rfl
    | ended hended =>
      cases hphase : s.phase with
      | returned | threw => rfl
      | _ => rw [hphase] at hended; exact hended.elim

/-- **The store of a run of the daemon is a run of the store** on the calls of the iterations. -/
theorem run_db (setup : Setup) (s : LoopState) (inputs : List Input) :
    ((daemonLoop setup).run s inputs).1.db
      = ((EventStore.machine setup.lib setup.order).run s.db
          ((iterations setup s inputs).flatMap (storeCalls setup))).1 := by
  rw [iterations, List.flatMap_assoc]
  exact Machine.run_drives step_db s inputs

end Steps

/-! ## What an iteration stores -/

/-- All calls of a batch succeed. -/
def batchDone (count : ℕ) (o : BatchOutcome) : Bool :=
  match o.begin, o.prepare, o.commit with
  | .ok, none, .ok => (List.range count).all fun i =>
      match o.step i with
      | .done => true
      | .error _ _ => false
  | _, _, _ => false

/-- The events of an iteration are not stored. -/
def IterationOutcome.lost (o : IterationOutcome) : Bool := !batchDone o.events.length o.batch

/-- The events that an iteration stores. -/
def IterationOutcome.stored (o : IterationOutcome) : List ObservationEvent :=
  if o.lost then [] else o.events

/-- The iteration's `COMMIT` does not fail with its transaction left open. -/
def IterationOutcome.Closed (o : IterationOutcome) : Prop :=
  ¬ LeavesOpen (.insertBatch o.events o.batch)

/-- The line for events that could not be stored (Daemon.cpp:254–256). -/
def insertFailed : Bytes := "failed to insert event batch into EventStore: "

/-- The line is the one about events that could not be stored. -/
def IsInsertFailed (line : LogLine) : Bool :=
  line.level == .error && insertFailed.isPrefixOf line.message

section Store

variable {setup : Setup} {t : Table} {o : IterationOutcome} {events : List ObservationEvent}
  {b : BatchOutcome}

theorem batchDone_iff {count : ℕ} : batchDone count b = true ↔
    b.begin = .ok ∧ b.prepare = none ∧ (∀ i < count, b.step i = .done) ∧ b.commit = .ok := by
  unfold batchDone
  split
  case h_1 hbegin hprepare hcommit =>
    rw [List.all_eq_true]
    simp only [hbegin, hprepare, hcommit, List.mem_range, true_and, and_true]
    refine forall₂_congr fun i _ => ?_
    cases b.step i <;> simp
  case h_2 hnot =>
    refine iff_of_false Bool.false_ne_true ?_
    rintro ⟨hbegin, hprepare, -, hcommit⟩
    exact hnot hbegin hprepare hcommit

/-- Outside a transaction a batch is stored when all its calls succeed, and fails otherwise. -/
theorem insertBatch_idle (lib : CppLib) (hclosed : ¬ LeavesOpen (.insertBatch events b)) :
    if batchDone events.length b then
      ∃ t', insertBatch lib ⟨t, none⟩ events b = (⟨t', none⟩, .ok events.length) ∧
        t'.rows = t.rows ++ numbered lib t.seq events ∧ t'.seq = t.seq + events.length
    else ∃ message, insertBatch lib ⟨t, none⟩ events b = (⟨t, none⟩, .error message) := by
  have hall := insertAll_isSome_iff lib b.step events 0 t
  simp only [Nat.zero_add] at hall
  rcases @insertBatch_cases lib t events b hclosed with ⟨message, hbatch⟩ | ⟨t', hinsert, hbatch⟩
  · rw [if_neg]
    · exact ⟨message, hbatch⟩
    · rw [batchDone_iff]
      rintro ⟨hbegin, hprepare, hsteps, hcommit⟩
      obtain ⟨t', hinsert⟩ := Option.isSome_iff_exists.mp (hall.mpr hsteps)
      unfold insertBatch at hbatch
      simp [hbegin, hprepare, hcommit, hinsert, Db.autocommit] at hbatch
  · have hdone : batchDone events.length b = true := by
      rw [hinsert] at hall
      unfold insertBatch at hbatch
      rw [batchDone_iff]
      cases hbegin : b.begin with
      | error message => simp [hbegin] at hbatch
      | ok =>
        cases hprepare : b.prepare with
        | some message => simp [hbegin, hprepare, Db.autocommit] at hbatch
        | none =>
          cases hcommit : b.commit with
          | error message stillOpen =>
            simp [hbegin, hprepare, hcommit, hinsert, Db.autocommit] at hbatch
          | ok => exact ⟨rfl, rfl, hall.mp rfl, rfl⟩
    rw [if_pos hdone]
    exact ⟨t', hbatch, rows_insertAll hinsert⟩

/-- A call that stores nothing leaves a part of the rows, and the counter. -/
theorem prunes_of_effect {lib : CppLib} {t' : Table} {call : Call} {reply : Reply}
    (h : Effect lib t t' call reply) (hnone : acceptedBy call reply = []) :
    t'.rows.Sublist t.rows ∧ t'.seq = t.seq := by
  have hrows := h.rows
  have hseq := h.seq
  rw [hnone] at hrows hseq
  rw [numbered, List.append_nil] at hrows
  exact ⟨hrows, hseq.trans (add_zero _)⟩

/-- **One iteration**, outside a transaction: the rows it leaves are among those before and the
events it stores. -/
theorem iteration_effect (hclosed : o.Closed) :
    ∃ t', ((EventStore.machine setup.lib setup.order).run ⟨t, none⟩ (storeCalls setup o)).1
        = ⟨t', none⟩ ∧
      t'.rows.Sublist (t.rows ++ numbered setup.lib t.seq o.stored) ∧
      t'.seq = t.seq + o.stored.length := by
  have hinsert : ∃ t₁, (insertBatch setup.lib ⟨t, none⟩ o.events o.batch).1 = ⟨t₁, none⟩ ∧
      t₁.rows = t.rows ++ numbered setup.lib t.seq o.stored ∧
      t₁.seq = t.seq + o.stored.length := by
    have hidle := @insertBatch_idle t o.events o.batch setup.lib hclosed
    unfold IterationOutcome.stored IterationOutcome.lost
    cases hdone : batchDone o.events.length o.batch with
    | true =>
      obtain ⟨t₁, hbatch, hrows, hseq⟩ := (if_pos hdone).mp hidle
      exact ⟨t₁, congrArg Prod.fst hbatch, hrows, hseq⟩
    | false =>
      rw [if_neg (by rw [hdone]; exact Bool.false_ne_true)] at hidle
      obtain ⟨message, hbatch⟩ := hidle
      exact ⟨t, congrArg Prod.fst hbatch, (List.append_nil _).symm, (add_zero _).symm⟩
  obtain ⟨t₁, hdb₁, hrows₁, hseq₁⟩ := hinsert
  obtain ⟨t₂, hdb₂, heffect₂⟩ := @pruneEvents_effect setup.lib t₁ (cutoff setup o) o.prune
  obtain ⟨t₃, hdb₃, heffect₃⟩ := @pruneEventsByCapacity_effect setup.lib t₂ setup.order o.capacity
    (setup.config.database.maxBytes.getD 52428800) (maxEvents setup)
  obtain ⟨hrows₂, hseq₂⟩ := prunes_of_effect heffect₂ rfl
  obtain ⟨hrows₃, hseq₃⟩ := prunes_of_effect heffect₃ rfl
  refine ⟨t₃, ?_, ?_, ?_⟩
  · show (pruneEventsByCapacity setup.order (pruneEvents (insertBatch setup.lib ⟨t, none⟩ o.events
      o.batch).1 (cutoff setup o) o.prune).1 _ _ _).1 = _
    rw [hdb₁, hdb₂, hdb₃]
  · rw [← hrows₁]
    exact hrows₃.trans hrows₂
  · rw [hseq₃, hseq₂, hseq₁]

/-! ## What the log says of it -/

/-- A text that begins in another way does not have the prefix. -/
theorem isPrefixOf_append_eq_false {pre start : Bytes} (rest : Bytes)
    (hstart : (pre.take start.length).isPrefixOf start = false) :
    pre.isPrefixOf (start ++ rest) = false := by
  rw [Bool.eq_false_iff, ne_eq, List.isPrefixOf_iff_prefix] at hstart ⊢
  intro hprefix
  exact hstart (List.prefix_of_prefix_length_le ((List.take_prefix _ _).trans hprefix)
    (List.prefix_append _ _) (List.length_take_le _ _))

/-- A line that begins in another way than the one about lost events is not that line. -/
theorem not_isInsertFailed {line : LogLine} {start rest : Bytes}
    (hmessage : line.message = start ++ rest)
    (hstart : (insertFailed.take start.length).isPrefixOf start = false) :
    IsInsertFailed line = false := by
  unfold IsInsertFailed
  rw [hmessage, isPrefixOf_append_eq_false rest hstart, Bool.and_false]

theorem not_isInsertFailed_of_level {line : LogLine} (h : line.level ≠ .error) :
    IsInsertFailed line = false := by
  unfold IsInsertFailed
  rw [Bool.and_eq_false_iff]
  exact Or.inl (beq_false_of_ne h)

/-- A list of other lines has none about lost events. -/
theorem countP_eq_zero_of_level {lines : List LogLine} (h : ∀ line ∈ lines, line.level ≠ .error) :
    lines.countP IsInsertFailed = 0 :=
  List.countP_eq_zero.mpr fun line hline => by
    rw [not_isInsertFailed_of_level (h line hline)]
    exact Bool.false_ne_true

/-- A store operation logs its own error, or lines of a lower level. -/
theorem countP_logStore {failure : Bytes} {success : ℕ → List LogLine} {reply : Except Bytes ℕ}
    (hstart : (insertFailed.take failure.length).isPrefixOf failure = false)
    (hsuccess : ∀ count, ∀ line ∈ success count, line.level ≠ .error) :
    (logStore failure success reply).countP IsInsertFailed = 0 := by
  cases reply with
  | error message =>
    show [(⟨.error, failure ++ message⟩ : LogLine)].countP IsInsertFailed = 0
    rw [List.countP_singleton, not_isInsertFailed rfl hstart]
    rfl
  | ok count => exact countP_eq_zero_of_level (hsuccess count)

theorem level_logPruned {suffix : Bytes} (count : ℕ) :
    ∀ line ∈ logPruned suffix count, line.level ≠ .error := by
  intro line hline
  obtain ⟨-, hline⟩ := List.mem_ite_nil_right.mp hline
  rw [List.mem_singleton.mp hline]
  exact LogLevel.noConfusion

theorem level_logDebug {debug : Bool} {message : Bytes} :
    ∀ line ∈ logDebug debug message, line.level ≠ .error := by
  intro line hline
  obtain ⟨-, hline⟩ := List.mem_ite_nil_right.mp hline
  rw [List.mem_singleton.mp hline]
  exact LogLevel.noConfusion

/-- The line of a collector that fails begins with its name. -/
theorem countP_runCollector {name : Bytes} {outcome : Except Bytes (List ObservationEvent)}
    (hstart : (insertFailed.take name.length).isPrefixOf name = false) :
    ((runCollector id name outcome).2.map (LogLine.mk .error)).countP IsInsertFailed = 0 := by
  cases outcome with
  | ok events => rfl
  | error err =>
    show [(⟨.error, name ++ Bytes.ofString " failed: " ++ err⟩ : LogLine)].countP IsInsertFailed = 0
    rw [List.countP_singleton, not_isInsertFailed (List.append_assoc _ _ _) hstart]
    rfl

theorem countP_collectAllEvents (outcomes : CollectorOutcomes Bytes) :
    ((collectAllEvents id outcomes).2.map (LogLine.mk .error)).countP IsInsertFailed = 0 := by
  unfold collectAllEvents
  simp only [List.map_append, List.countP_append]
  rw [countP_runCollector (by decide +kernel), countP_runCollector (by decide +kernel),
    countP_runCollector (by decide +kernel), countP_runCollector (by decide +kernel)]

/-- An iteration outside a transaction logs lost events exactly when it loses them. -/
theorem countP_iterationWork (hclosed : o.Closed) :
    (iterationWork setup ⟨t, none⟩ o).2.countP IsInsertFailed = if o.lost then 1 else 0 := by
  have hinsert : (logStore insertFailed
      (fun count => logDebug setup.debug (List.flatten ["[metrics] inserted ", decimalNat count,
        " events into EventStore"])) (insertBatch setup.lib ⟨t, none⟩ o.events o.batch).2).countP
      IsInsertFailed = if o.lost then 1 else 0 := by
    have hidle := @insertBatch_idle t o.events o.batch setup.lib hclosed
    unfold IterationOutcome.lost
    cases hdone : batchDone o.events.length o.batch with
    | true =>
      obtain ⟨t₁, hbatch, -, -⟩ := (if_pos hdone).mp hidle
      rw [hbatch]
      exact countP_eq_zero_of_level level_logDebug
    | false =>
      rw [if_neg (by rw [hdone]; exact Bool.false_ne_true)] at hidle
      obtain ⟨message, hbatch⟩ := hidle
      rw [hbatch]
      have hline : IsInsertFailed ⟨.error, insertFailed ++ message⟩ = true := by
        unfold IsInsertFailed
        rw [Bool.and_eq_true]
        exact ⟨rfl, List.isPrefixOf_iff_prefix.mpr (List.prefix_append _ _)⟩
      show [(⟨.error, insertFailed ++ message⟩ : LogLine)].countP IsInsertFailed = 1
      rw [List.countP_singleton, hline]
      rfl
  have hfindings : ∀ line ∈ (evaluate setup.lib o.stamp setup.rules
      (collectAllEvents id o.collectors).1).map logFinding, line.level ≠ .error := by
    intro line hline
    obtain ⟨finding, -, rfl⟩ := List.mem_map.mp hline
    exact LogLevel.noConfusion
  unfold iterationWork
  simp only [List.countP_append]
  rw [countP_collectAllEvents, countP_eq_zero_of_level level_logDebug,
    countP_logStore (by decide +kernel) level_logPruned,
    countP_logStore (by decide +kernel) level_logPruned,
    countP_eq_zero_of_level hfindings]
  simp only [add_zero]
  exact (Nat.zero_add _).trans hinsert

/-- A step that takes no iteration logs nothing about lost events. -/
theorem countP_of_iterationOf_nil {s : LoopState} {o : StepOutcome} {phase : Phase} {db : Db}
    {lines : List LogLine} (hmoves : Moves setup s o phase db lines)
    (hnone : iterationOf s (.step o) = []) : lines.countP IsInsertFailed = 0 := by
  refine countP_eq_zero_of_level fun line hline => ?_
  unfold iterationOf at hnone
  cases hmoves with
  | skipped hphase | begun hphase =>
    rw [hphase] at hnone
    cases hnone
  | summed | announced | finished | done | left =>
    rw [List.mem_singleton.mp hline]
    exact LogLevel.noConfusion
  | cancelled =>
    rcases List.mem_pair.mp hline with rfl | rfl
    · exact LogLevel.noConfusion
    · exact LogLevel.noConfusion
  | spawned | notSpawned | waited | notWaited | rests | slept | woke | again | ended => cases hline

/-- The store of a state has no open transaction, and its table is this one. -/
def LoopState.Idle (s : LoopState) (t : Table) : Prop := s.db = ⟨t, none⟩

/-- **One step**: what it leaves of the rows, and what it logs of lost events. -/
theorem step_account {s : LoopState} (hidle : s.Idle t) (input : Input)
    (hclosed : ∀ o ∈ iterationOf s input, o.Closed) :
    ∃ t', ((daemonLoop setup).step s input).1.Idle t' ∧
      t'.rows.Sublist (t.rows ++
        numbered setup.lib t.seq ((iterationOf s input).flatMap IterationOutcome.stored)) ∧
      t'.seq = t.seq + ((iterationOf s input).flatMap IterationOutcome.stored).length ∧
      ((daemonLoop setup).step s input).2.countP IsInsertFailed
        = (iterationOf s input).countP IterationOutcome.lost := by
  have hquiet : iterationOf s input = [] → ((daemonLoop setup).step s input).2.countP
      IsInsertFailed = 0 := by
    intro hnone
    cases input with
    | stop => rfl
    | step o =>
      obtain ⟨phase, db, lines, hprogram, hmoves⟩ := program_moves setup s o
      show (program setup s o).2.countP IsInsertFailed = 0
      rw [hprogram]
      exact countP_of_iterationOf_nil hmoves hnone
  have hdb := @step_db setup s input
  rw [hidle] at hdb
  rcases iterationOf_cases s input with hnone | ⟨o, rfl, hphase, hone⟩
  · rw [hnone] at hdb ⊢
    exact ⟨t, hdb, List.sublist_append_left _ _, (add_zero _).symm, hquiet hnone⟩
  · rw [hone] at hdb hclosed ⊢
    have hiteration : o.iteration.Closed := hclosed o.iteration (List.mem_singleton_self _)
    obtain ⟨t', hcalls, hrows, hseq⟩ := @iteration_effect setup t o.iteration hiteration
    rw [List.flatMap_singleton] at hdb ⊢
    refine ⟨t', hdb.trans hcalls, hrows, hseq, ?_⟩
    have hlost := @countP_iterationWork setup t o.iteration hiteration
    rw [List.countP_singleton]
    show (program setup s o).2.countP IsInsertFailed = _
    obtain ⟨phase, db, lines, hprogram, hmoves⟩ := program_moves setup s o
    rw [hprogram]
    cases hmoves with
    | skipped =>
      dsimp only
      rw [List.countP_append, hidle, hlost]
      exact add_zero _
    | begun =>
      rw [hidle]
      exact hlost
    | summed h | cancelled h | announced h | spawned h | notSpawned h | waited h | finished h
    | notWaited h | done h | rests h | slept h | woke h | left h | again h =>
      rw [hphase] at h
      cases h
    | ended h =>
      rw [hphase] at h
      exact h.elim

end Store

/-! ## Runs -/

/-- What a run leaves of the store, and what it logs of it. -/
structure StoreAccount (setup : Setup) (t : Table) (run : LoopState × List LogLine)
    (iterations : List IterationOutcome) : Prop where
  rows : run.1.db.view.rows.Sublist
    (t.rows ++ numbered setup.lib t.seq (iterations.flatMap IterationOutcome.stored))
  seq : run.1.db.view.seq = t.seq + (iterations.flatMap IterationOutcome.stored).length
  lost : run.2.countP IsInsertFailed = iterations.countP IterationOutcome.lost

section Runs

variable {setup : Setup}

theorem iterations_cons (setup : Setup) (s : LoopState) (input : Input) (inputs : List Input) :
    iterations setup s (input :: inputs)
      = iterationOf s input ++ iterations setup ((daemonLoop setup).step s input).1 inputs := rfl

theorem run_account (t : Table) (s : LoopState) (hidle : s.Idle t) (inputs : List Input)
    (hclosed : ∀ o ∈ iterations setup s inputs, o.Closed) :
    StoreAccount setup t ((daemonLoop setup).run s inputs) (iterations setup s inputs) := by
  induction inputs generalizing t s with
  | nil =>
    have hview : s.db.view = t := congrArg Db.view hidle
    exact ⟨by rw [Machine.run_nil, hview]; exact List.sublist_append_left _ _,
      by rw [Machine.run_nil, hview]; exact (add_zero _).symm, rfl⟩
  | cons input inputs ih =>
    rw [iterations_cons] at hclosed ⊢
    rw [List.forall_mem_append] at hclosed
    obtain ⟨t', hidle', hrows, hseq, hlost⟩ := step_account hidle input hclosed.1
    obtain ⟨hrows', hseq', hlost'⟩ := ih t' _ hidle' hclosed.2
    constructor
    · rw [List.flatMap_append, numbered_append, ← hseq, ← List.append_assoc]
      exact hrows'.trans (hrows.append_right _)
    · rw [List.flatMap_append, List.length_append]
      refine hseq'.trans ?_
      rw [hseq]
      push_cast
      omega
    · rw [List.countP_append, Machine.run_cons, List.countP_append, hlost, hlost']

end Runs

/-- **The daemon keeps what it observed.** In every run in which no `COMMIT` fails with its
transaction left open, whatever else fails in the iterations, in the commands or in the store, and
whenever a stop is requested: the rows of the store are, in order, among those of the start and the
events of the iterations, under the keys after the counter; an iteration's events are stored
together or not at all, and each time they are not, the log has a line that says so. -/
theorem daemon_keeps_history (setup : Setup) (t : Table) (inputs : List Input)
    (hclosed : ∀ o ∈ iterations setup (.initial ⟨t, none⟩) inputs, o.Closed) :
    StoreAccount setup t ((daemonLoop setup).run (.initial ⟨t, none⟩) inputs)
      (iterations setup (.initial ⟨t, none⟩) inputs) :=
  run_account t (.initial ⟨t, none⟩) rfl inputs hclosed

/-- An iteration in which a unit is reported as failed, the disk is full, and a stop is requested
while a command runs. -/
def fullDisk : List Input :=
  [.step
      { iteration :=
          { (quietStep (.started 0) {}).iteration with
            collectors :=
              { systemd := .ok [unitFailed]
                storage := .ok []
                memory := .ok []
                pacman := .error "permission denied" }
            batch := { commit := .error (some "database or disk is full") false } }
        spawn := .started 0
        round := {} },
    .step (quietStep (.started 0) {}), .step (quietStep (.started 0) {}), .stop,
    .step (quietStep (.started 0) { read := .endOfFile })]

theorem daemon_keeps_history_full_disk :
    StoreAccount oneCommand .empty
      ((daemonLoop oneCommand).run (.initial ⟨.empty, none⟩) fullDisk)
      (iterations oneCommand (.initial ⟨.empty, none⟩) fullDisk) := by
  refine daemon_keeps_history oneCommand .empty fullDisk fun o ho => ?_
  obtain rfl := List.mem_singleton.mp ho
  rintro ⟨-, -, -, message, hcommit⟩
  cases hcommit

/-! ## The limits of the store -/

/-- Both prunes of an iteration succeed. -/
structure IterationOutcome.PrunesDone (o : IterationOutcome) : Prop where
  prepare : o.prune.prepare = none
  step : o.prune.step = .done
  capacity : CapacityDone o.capacity

/-- What the limits of the configuration ask of a table after an iteration. -/
structure WithinLimits (setup : Setup) (o : IterationOutcome) (t : Table) : Prop where
  young : ∀ row ∈ t.rows, olderThan (cutoff setup o) row = false
  count : 0 < maxEvents setup → t.count ≤ maxEvents setup

section Limits

variable {setup : Setup} {o : IterationOutcome}

/-- An iteration whose prunes succeed leaves the store within its limits. -/
theorem withinLimits_storeCalls (db : Db) (hdone : o.PrunesDone) :
    WithinLimits setup o
      ((EventStore.machine setup.lib setup.order).run db (storeCalls setup o)).1.view := by
  show WithinLimits setup o (pruneEventsByCapacity setup.order (pruneEvents (insertBatch setup.lib db
    o.events o.batch).1 (cutoff setup o) o.prune).1 _ _ o.capacity).1.view
  generalize (insertBatch setup.lib db o.events o.batch).1 = inserted
  have hpruned : (pruneEvents inserted (cutoff setup o) o.prune).1.view
      = inserted.view.deleteWhere (olderThan (cutoff setup o)) := by
    unfold pruneEvents
    rw [hdone.prepare, hdone.step]
    exact Db.view_write inserted _
  rw [view_pruneEventsByCapacity hdone.capacity, hpruned]
  constructor
  · intro row hrow
    have hmem := (pruneByCapacity_effect setup.order o.capacity _ _).1.subset hrow
    exact Bool.eq_false_iff.mpr (by simpa using (List.mem_filter.mp hmem).2)
  · intro hpos
    exact count_pruneByCapacity_le hdone.capacity hpos _ _

end Limits

/-- **The store stays within its limits.** In every run, once an iteration's prunes have succeeded,
no event is older than its retention time and there are no more events than allowed, until the next
iteration. -/
theorem daemon_within_limits (setup : Setup) (db : Db) (inputs : List Input) (o : IterationOutcome)
    (hlast : (iterations setup (.initial db) inputs).getLast? = some o) (hdone : o.PrunesDone) :
    WithinLimits setup o ((daemonLoop setup).run (.initial db) inputs).1.db.view := by
  obtain ⟨before, hbefore⟩ := List.getLast?_eq_some_iff.mp hlast
  rw [run_db, hbefore, List.flatMap_append, List.flatMap_singleton, Machine.run_append]
  exact withinLimits_storeCalls _ hdone

theorem daemon_within_limits_one_iteration :
    WithinLimits oneCommand (quietStep (.started 0) {}).iteration
      ((daemonLoop oneCommand).run (.initial ⟨.empty, none⟩)
        [.step (quietStep (.started 0) {}), .stop]).1.db.view :=
  daemon_within_limits oneCommand ⟨.empty, none⟩ [.step (quietStep (.started 0) {}), .stop] _ rfl
    ⟨rfl, rfl, rfl, rfl, fun _ => rfl, fun _ => rfl⟩

end Daemon

end Holonight
