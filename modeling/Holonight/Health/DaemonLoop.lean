import Holonight.Base.Machine
import Holonight.Health.Daemon
import Holonight.Health.Retention
import Holonight.Process.CommandRunner

/-!
# The daemon loop (`Daemon::run`, `HealthCheckJob::run`)

An iteration scans a directory, collects events, stores and prunes them, evaluates the
rules and then runs the configured commands. Collectors that throw are caught one by one,
the store reports its errors as values and the rule engine throws nothing; the commands
are run without a handler, in the job as in the loop.

The loop is a machine whose state says where the program is (`Phase`). A step executes the
program up to its next reading of the stop flag, its next system call that may throw or
the end of a command, and a stop request may come between any two steps. What a step gets
from outside is its `StepOutcome`, of which it reads the part it needs.

`loop_survives_iff` says which runs end before a stop was requested: those in which a
`pipe`, a `fork` or a `waitpid` fails before.
-/

namespace Holonight

namespace Daemon

open RuleEngine EventStore
open HealthCheckJob (CommandResult)

/-! ## The parts of the loop -/

/-- `enum class RunMode`. -/
inductive RunMode where
  | loop
  | once
  deriving DecidableEq

/-- The levels at which the daemon logs. -/
inductive LogLevel where
  | debug
  | info
  | error
  deriving DecidableEq

/-- A call of the logger. -/
structure LogLine where
  level : LogLevel
  message : Bytes

/-- `struct ScanSummary`. -/
structure ScanSummary where
  files : ℕ
  directories : ℕ
  errors : ℕ

/-- What the members of the daemon are fixed to at its construction, with the parts of the
libraries its computations depend on. -/
structure Setup where
  lib : CppLib
  order : OrderBy Row
  overflow : ℤ → ℤ
  config : Config
  rules : List DiagnosticRule
  debug : Bool
  mode : RunMode

/-- Where `Daemon::run` is. -/
inductive Phase where
  /-- At the start of `runIteration`. -/
  | iteration
  /-- At the head of the loop of `HealthCheckJob::run`. -/
  | nextCommand (rest : List Bytes) (results : List CommandResult)
  /-- At the start of `CommandRunner::run`. -/
  | starting (command : Bytes) (rest : List Bytes) (results : List CommandResult)
  /-- In the loop of `CommandRunner::run`. -/
  | running (command : Bytes) (state : CommandRunner.RunState) (rest : List Bytes)
      (results : List CommandResult)
  /-- Back in `run`, after `runIteration`. -/
  | iterationDone
  /-- At the head of the sleep, with the milliseconds that remain. -/
  | sleeping (remaining : ℤ)
  /-- After the sleep. -/
  | woken
  | returned
  | threw (what : Bytes)

/-- `run` has ended, by return or by an exception. -/
def Phase.Ended : Phase → Prop
  | .returned => True
  | .threw _ => True
  | _ => False

/-- The daemon: where it is, its connection, and whether a stop was requested. -/
structure LoopState where
  phase : Phase
  db : Db
  stopRequested : Bool

/-- What an iteration gets from outside before its commands. -/
structure IterationOutcome where
  scan : ScanSummary
  collectors : CollectorOutcomes Bytes
  batch : BatchOutcome := {}
  now : TimePoint
  prune : PruneOutcome := {}
  capacity : CapacityOutcome
  stamp : ℕ → Bytes × Bytes

/-- What a step gets from outside. -/
structure StepOutcome where
  iteration : IterationOutcome
  spawn : CommandRunner.SpawnOutcome
  round : CommandRunner.Round

/-- What happens next: a stop request, or a step of the program. -/
inductive Input where
  | stop
  | step (outcome : StepOutcome)

/-! ## One iteration -/

/-- The log line of a store operation of `runIteration`: an error, or the number of events it
counts. -/
def logStore (failure : Bytes) (success : ℕ → List LogLine) : Except Bytes ℕ → List LogLine
  | .error message => [⟨.error, failure ++ message⟩]
  | .ok count => success count

/-- The line that a prune logs, unless it removed nothing. -/
def logPruned (suffix : Bytes) (count : ℕ) : List LogLine :=
  if 0 < count then [⟨.info, Bytes.ofString "pruned " ++ decimalNat count ++ suffix⟩] else []

/-- A line that is logged only with `--debug`. -/
def logDebug (debug : Bool) (message : Bytes) : List LogLine :=
  if debug then [⟨.debug, message⟩] else []

/-- The line of a finding (Daemon.cpp:281–282); 34 is the quotation mark. -/
def logFinding (finding : DiagnosticFinding) : LogLine :=
  ⟨.info, List.flatten ["[diagnostic] rule=", finding.ruleId, " title=", [34], finding.title, [34],
    " severity=", severityToString finding.severity]⟩

/-- `Daemon::runIteration` up to its commands (Daemon.cpp:243–283). -/
def iterationWork (setup : Setup) (db : Db) (o : IterationOutcome) : Db × List LogLine :=
  let collected := collectAllEvents id o.collectors
  let events := collected.1
  let inserted := insertBatch setup.lib db events o.batch
  let pruned := pruneEvents inserted.1
    (retentionCutoff setup.overflow o.now (retentionDays setup.config)) o.prune
  let capped := pruneEventsByCapacity setup.order pruned.1
    (setup.config.database.maxBytes.getD 52428800)
    (setup.config.database.maxEvents.getD 100000) o.capacity
  let findings := evaluate setup.lib o.stamp setup.rules events
  (capped.1,
    [⟨.info, List.flatten ["scan root=", setup.config.scanRoot, " files=", decimalNat o.scan.files,
        " directories=", decimalNat o.scan.directories]⟩]
      ++ collected.2.map (LogLine.mk .error)
      ++ logDebug setup.debug (List.flatten ["[telemetry] collected ", decimalNat events.length,
        " events across collectors"])
      ++ logStore "failed to insert event batch into EventStore: "
        (fun count => logDebug setup.debug (List.flatten ["[metrics] inserted ",
          decimalNat count, " events into EventStore"])) inserted.2
      ++ logStore "failed to prune expired events from EventStore: "
        (logPruned " expired events from EventStore") pruned.2
      ++ logStore "failed to enforce EventStore capacity limits: "
        (logPruned " events to enforce capacity limits") capped.2
      ++ findings.map logFinding)

/-- The line after a command (HealthCheckJob.cpp:45–47). -/
def logFinished (result : CommandResult) : LogLine :=
  ⟨.info, List.flatten ["finished: ", result.command, " exit=", decimal result.exitCode,
    if result.timedOut then " timed_out=true" else [],
    if result.cancelled then " cancelled=true" else [],
    if result.outputTruncated then " output_truncated=true" else []]⟩

/-- The line after the commands (HealthCheckJob.cpp:51). -/
def logSummary (results : List CommandResult) : LogLine :=
  ⟨.info, HealthCheckJob.summarize (HealthCheckJob.resultsToText results)⟩

/-! ## The loop -/

/-- One step of the program (Daemon.cpp:218–241, HealthCheckJob.cpp:27–50). -/
def program (setup : Setup) (s : LoopState) (o : StepOutcome) : LoopState × List LogLine :=
  match s.phase with
  | .iteration =>
    let work := iterationWork setup s.db o.iteration
    if setup.config.commands = [] then
      ({ s with phase := .iterationDone, db := work.1 },
        work.2 ++ [⟨.info, "health check skipped: no commands configured"⟩])
    else ({ s with phase := .nextCommand setup.config.commands [], db := work.1 }, work.2)
  | .nextCommand [] results => ({ s with phase := .iterationDone }, [logSummary results])
  | .nextCommand (command :: rest) results =>
    if s.stopRequested then
      -- `break`: the results so far are summarised
      ({ s with phase := .iterationDone },
        [⟨.info, "health check cancelled: daemon stop requested"⟩, logSummary results])
    else
      ({ s with phase := .starting command rest results },
        [⟨.info, Bytes.ofString "running: " ++ command⟩])
  | .starting command rest results =>
    match CommandRunner.spawn {} o.spawn with
    | .ok state => ({ s with phase := .running command state rest results }, [])
    -- no handler here, in the iteration or in the loop
    | .error what => ({ s with phase := .threw what }, [])
  | .running command state rest results =>
    match CommandRunner.round {} state s.stopRequested o.round with
    | .error what => ({ s with phase := .threw what }, [])
    | .ok state =>
      if state.finished then
        let result := CommandRunner.result command state
        ({ s with phase := .nextCommand rest (results ++ [result]) }, [logFinished result])
      else ({ s with phase := .running command state rest results }, [])
  | .iterationDone =>
    if setup.mode = .once ∨ s.stopRequested = true then
      ({ s with phase := .returned }, [⟨.info, "daemon stopped"⟩])
    else ({ s with phase := .sleeping (signed64 setup.overflow (setup.config.interval * 1000)) }, [])
  | .sleeping remaining =>
    if 0 < remaining ∧ s.stopRequested = false then
      ({ s with phase := .sleeping (remaining - min remaining 100) }, [])
    else ({ s with phase := .woken }, [])
  | .woken =>
    if s.stopRequested then ({ s with phase := .returned }, [⟨.info, "daemon stopped"⟩])
    else ({ s with phase := .iteration }, [])
  | .returned => (s, [])
  | .threw _ => (s, [])

/-- The loop as a machine. -/
def daemonLoop (setup : Setup) : Machine LoopState Input LogLine where
  step s
    | .stop => ({ s with stopRequested := true }, [])
    | .step outcome => program setup s outcome

/-- The loop at its start. -/
def LoopState.initial (db : Db) : LoopState :=
  { phase := .iteration, db := db, stopRequested := false }

/-! ## Surviving -/

/-- `run` has not ended, or a stop was requested. -/
def NotEndedEarly (s : LoopState) : Prop := s.phase.Ended → s.stopRequested = true

/-- As long as no stop is requested, a command can be started, and it can be waited for. -/
def CommandsRun (s : LoopState) : Input → Prop
  | .stop => True
  | .step outcome =>
    s.stopRequested = true ∨
      match s.phase with
      | .starting _ _ _ => ∃ now, outcome.spawn = .started now
      | .running _ state _ _ =>
        state.childFinished = true ∨ ∀ message, outcome.round.wait ≠ .failed message
      | _ => True

section Steps

variable {setup : Setup} {s : LoopState} {o : StepOutcome}

/-- The program does not touch the flag. -/
theorem program_stopRequested : (program setup s o).1.stopRequested = s.stopRequested := by
  unfold program
  split <;> (try split) <;> (try rfl)
  · split <;> rfl

/-- Without a stop request, a step ends `run` exactly when a command cannot be started or
waited for. -/
theorem program_ended_iff (hmode : setup.mode = .loop) (hstop : s.stopRequested = false)
    (hactive : ¬ s.phase.Ended) :
    ¬ (program setup s o).1.phase.Ended ↔ CommandsRun s (.step o) := by
  unfold CommandsRun program
  rw [hstop]
  simp only [Bool.false_eq_true, false_or]
  cases hphase : s.phase with
  | iteration =>
    refine iff_of_true ?_ trivial
    by_cases hcommands : setup.config.commands = []
    · simp [hcommands, Phase.Ended]
    · simp [hcommands, Phase.Ended]
  | nextCommand rest results =>
    refine iff_of_true ?_ trivial
    cases rest with
    | nil => exact not_false
    | cons command rest => simp [Phase.Ended]
  | starting command rest results =>
    simp only
    rw [← CommandRunner.spawn_isOk_iff {} o.spawn]
    cases CommandRunner.spawn {} o.spawn with
    | ok state => exact iff_of_true not_false rfl
    | error what => exact iff_of_false (fun h => h trivial) Bool.false_ne_true
  | running command state rest results =>
    simp only
    rw [← CommandRunner.round_isOk_iff {} state false o.round]
    cases CommandRunner.round {} state false o.round with
    | error what => exact iff_of_false (fun h => h trivial) Bool.false_ne_true
    | ok state =>
      refine iff_of_true ?_ rfl
      by_cases hfinished : state.finished = true
      · simp [hfinished, Phase.Ended]
      · simp [hfinished, Phase.Ended]
  | iterationDone =>
    -- in loop mode only the flag leaves the loop here
    refine iff_of_true ?_ trivial
    simp [hmode, Phase.Ended]
  | sleeping remaining =>
    refine iff_of_true ?_ trivial
    by_cases hremaining : 0 < remaining
    · simp [hremaining, Phase.Ended]
    · simp [hremaining, Phase.Ended]
  | woken => exact iff_of_true not_false trivial
  | returned =>
    rw [hphase] at hactive
    exact absurd trivial hactive
  | threw what =>
    rw [hphase] at hactive
    exact absurd trivial hactive

/-- One input: a loop that has not ended early still has not, exactly when the command can be
started and waited for. -/
theorem notEndedEarly_step_iff (hmode : setup.mode = .loop) (h : NotEndedEarly s)
    (input : Input) :
    NotEndedEarly ((daemonLoop setup).step s input).1 ↔ CommandsRun s input := by
  cases input with
  | stop => exact iff_of_true (fun _ => rfl) trivial
  | step o =>
    show NotEndedEarly (program setup s o).1 ↔ _
    unfold NotEndedEarly
    rw [program_stopRequested]
    cases hstop : s.stopRequested with
    | true => exact iff_of_true (fun _ => rfl) (Or.inl hstop)
    | false =>
      have hactive : ¬ s.phase.Ended := fun hended => by
        have hset := h hended
        rw [hstop] at hset
        cases hset
      rw [← program_ended_iff hmode hstop hactive]
      simp

end Steps

/-- **The daemon loop survives** a run in `Loop` mode, on any store and under any
interleaving with the stop request, if and only if no `pipe`, `fork` or `waitpid` of a
command fails before the request. -/
theorem loop_survives_iff (setup : Setup) (hmode : setup.mode = .loop) (db : Db)
    (inputs : List Input) :
    (∀ taken, taken <+: inputs →
        NotEndedEarly ((daemonLoop setup).run (LoopState.initial db) taken).1)
      ↔ (daemonLoop setup).AllSteps CommandsRun (LoopState.initial db) inputs := by
  have hinit : NotEndedEarly (LoopState.initial db) := fun hended => hended.elim
  have hstep : ∀ (log : List LogLine) s input, NotEndedEarly s →
      (NotEndedEarly ((daemonLoop setup).step s input).1 ↔ CommandsRun s input) :=
    fun _ _ input h => notEndedEarly_step_iff hmode h input
  exact @Machine.forall_prefix_iff _ _ _ (daemonLoop setup) CommandsRun (fun _ s => NotEndedEarly s)
    hstep [] _ inputs hinit

/-- A daemon with one command. -/
def oneCommand : Setup where
  lib := .integral
  order := .stable
  overflow := fun _ => 0
  config := { commands := ["systemctl --failed"] }
  rules := builtInRules
  debug := false
  mode := .loop

/-- An iteration in which nothing is found and every call succeeds, except as given. -/
def quietStep (spawn : CommandRunner.SpawnOutcome) (round : CommandRunner.Round) : StepOutcome where
  iteration :=
    { scan := ⟨0, 0, 0⟩
      collectors := { systemd := .ok [], storage := .ok [], memory := .ok [], pacman := .ok [] }
      now := 0
      capacity := .ofPages fun _ => ⟨⟨1, by decide⟩, ⟨4096, by decide⟩⟩
      stamp := fun _ => ([], []) }
  spawn := spawn
  round := round

/-- One iteration of it: the command finishes, then a stop is requested. -/
theorem loop_survives_one_iteration :
    oneCommand.mode = .loop ∧
      ∀ taken, taken <+:
          [.step (quietStep (.started 0) {}), .step (quietStep (.started 0) {}),
            .step (quietStep (.started 0) {}),
            .step (quietStep (.started 0) { read := .endOfFile, wait := .child (.exited 0) }),
            .stop, .step (quietStep (.started 0) {})] →
        NotEndedEarly ((daemonLoop oneCommand).run (LoopState.initial ⟨.empty, none⟩) taken).1 := by
  refine ⟨rfl, (loop_survives_iff oneCommand rfl ⟨.empty, none⟩ _).mpr ?_⟩
  refine ⟨Or.inr trivial, Or.inr trivial, Or.inr ⟨0, rfl⟩, Or.inr (Or.inr ?_), trivial, Or.inl rfl,
    trivial⟩
  exact fun _ => CommandRunner.WaitResult.noConfusion

/-- The process has no free descriptor for the pipe of a command: the exception leaves the
loop, and nobody has asked for a stop. -/
theorem failed_pipe_ends_loop :
    ¬ ∀ inputs taken : List Input, taken <+: inputs →
      NotEndedEarly ((daemonLoop oneCommand).run (LoopState.initial ⟨.empty, none⟩) taken).1 := by
  intro hall
  have hearly := hall
    [.step (quietStep (.started 0) {}), .step (quietStep (.started 0) {}),
      .step (quietStep (.pipeFailed "Too many open files") {})] _ (List.prefix_refl _)
  have hstop := hearly trivial
  cases hstop

end Daemon

end Holonight
