import Holonight.Health.DaemonStore
import Holonight.Process.CommandLoop

/-!
# The turns of the daemon loop (`Daemon::run`, `HealthCheckJob::run`)

An iteration runs the configured commands one after the other, then the loop sleeps for the
configured interval in pieces of 100 ms. A stop request may come between any two steps. This file
says what a whole run looks like.

- `health_checks_in_turn`: what the health-check job logs is one turn after the other. A complete
  turn starts and finishes every command once, in the order of the configuration, and sums up
  exactly their results; only the last turn can be incomplete, and where it stands is where the
  program stands.
- `stop_ends_run`: after a stop request, at most four steps are left besides those that wait for the
  output of the command that is running.
- `sleeps_add_up`: when an iteration begins, the loop has slept exactly once the interval for each
  iteration before it.
-/

namespace Holonight

namespace Daemon

open RuleEngine EventStore
open HealthCheckJob (CommandResult)

/-! ## What the job logs -/

/-- The line before a command (HealthCheckJob.cpp:43). -/
def logRunning (command : Bytes) : LogLine := ⟨.info, Bytes.ofString "running: " ++ command⟩

/-- The line of a job without commands (HealthCheckJob.cpp:29). -/
def logSkipped : LogLine := ⟨.info, "health check skipped: no commands configured"⟩

/-- The line of a job that is cut short (HealthCheckJob.cpp:40). -/
def logCancelled : LogLine := ⟨.info, "health check cancelled: daemon stop requested"⟩

/-- The lines of a command that has finished. -/
def commandLines (result : CommandResult) : List LogLine :=
  [logRunning result.command, logFinished result]

/-- The lines of a complete job with these results. -/
def turnLines (commands : List Bytes) (results : List CommandResult) : List LogLine :=
  if commands = [] then [logSkipped] else results.flatMap commandLines ++ [logSummary results]

/-- How the lines of the job begin. -/
def jobStarts : List Bytes := ["running: ", "finished: ", "local summary: ", "health check "]

/-- A line of the health-check job. -/
def IsJobLine (line : LogLine) : Bool :=
  line.level == .info && jobStarts.any fun start => start.isPrefixOf line.message

/-- Where the program is within a job: what the job has logged, and 1 when a job has begun that is
not complete. -/
inductive Standing (commands : List Bytes) : Phase → Bool → List LogLine → ℕ → Prop
  | apart {phase : Phase} {stop : Bool} (h : phase = .iteration ∨ phase = .iterationDone ∨
      (∃ remaining, phase = .sleeping remaining) ∨ phase = .woken ∨ phase = .returned) :
      Standing commands phase stop [] 0
  | between {results : List CommandResult} {rest : List Bytes} {stop : Bool}
      (h : results.map CommandResult.command ++ rest = commands) (hcommands : commands ≠ []) :
      Standing commands (.nextCommand rest results) stop (results.flatMap commandLines) 1
  | starting {results : List CommandResult} {command : Bytes} {rest : List Bytes} {stop : Bool}
      (h : results.map CommandResult.command ++ command :: rest = commands) :
      Standing commands (.starting command rest results) stop
        (results.flatMap commandLines ++ [logRunning command]) 1
  | running {results : List CommandResult} {command : Bytes} {rest : List Bytes} {stop : Bool}
      {state : CommandRunner.RunState}
      (h : results.map CommandResult.command ++ command :: rest = commands) :
      Standing commands (.running command state rest results) stop
        (results.flatMap commandLines ++ [logRunning command]) 1
  | threw {results : List CommandResult} {command : Bytes} {rest : List Bytes} {stop : Bool}
      {what : Bytes} (h : results.map CommandResult.command ++ command :: rest = commands) :
      Standing commands (.threw what) stop
        (results.flatMap commandLines ++ [logRunning command]) 1
  | cancelled {results : List CommandResult} {command : Bytes} {rest : List Bytes} {phase : Phase}
      (hphase : phase = .iterationDone ∨ phase = .returned)
      (h : results.map CommandResult.command ++ command :: rest = commands) :
      Standing commands phase true
        (results.flatMap commandLines ++ [logCancelled, logSummary results]) 1

/-- The lines of the job in a log, turn after turn: the complete turns, and where the program stands
in the last one. -/
def InTurn (commands : List Bytes) (begun : ℕ) (s : LoopState) (log : List LogLine) : Prop :=
  ∃ (turns : List (List CommandResult)) (last : List LogLine) (unfinished : ℕ),
    log.filter IsJobLine = turns.flatMap (turnLines commands) ++ last ∧
      (∀ results ∈ turns, results.map CommandResult.command = commands) ∧
      Standing commands s.phase s.stopRequested last unfinished ∧
      begun = turns.length + unfinished

section JobLines

variable {line : LogLine} {start rest : Bytes}

theorem isJobLine_of_start (hlevel : line.level = .info) (hmessage : line.message = start ++ rest)
    (hstart : start ∈ jobStarts) : IsJobLine line = true := by
  unfold IsJobLine
  rw [Bool.and_eq_true]
  refine ⟨beq_iff_eq.mpr hlevel, List.any_eq_true.mpr ⟨start, hstart, ?_⟩⟩
  rw [hmessage]
  exact List.isPrefixOf_iff_prefix.mpr (List.prefix_append _ _)

/-- A line that begins like none of the job is none of it. -/
theorem not_isJobLine (hmessage : line.message = start ++ rest)
    (hstart : (jobStarts.all fun job => !(job.take start.length).isPrefixOf start) = true) :
    IsJobLine line = false := by
  unfold IsJobLine
  rw [Bool.and_eq_false_iff]
  right
  refine List.any_eq_false.mpr fun job hjob => ?_
  have hother : (job.take start.length).isPrefixOf start = false := by
    simpa using List.all_eq_true.mp hstart job hjob
  rw [hmessage, isPrefixOf_append_eq_false rest hother]
  exact Bool.false_ne_true

theorem not_isJobLine_of_level (h : line.level ≠ .info) : IsJobLine line = false := by
  unfold IsJobLine
  rw [Bool.and_eq_false_iff]
  exact Or.inl (beq_false_of_ne h)

theorem isJobLine_logRunning (command : Bytes) : IsJobLine (logRunning command) = true :=
  isJobLine_of_start rfl rfl (by simp [jobStarts])

theorem isJobLine_logFinished (result : CommandResult) : IsJobLine (logFinished result) = true :=
  isJobLine_of_start rfl (List.flatten_cons ..) (by simp [jobStarts])

theorem isJobLine_logSummary (results : List CommandResult) :
    IsJobLine (logSummary results) = true := by
  have hsummary : ∀ text : Bytes, ∃ rest,
      HealthCheckJob.summarize text = Bytes.ofString "local summary: " ++ rest := by
    intro text
    unfold HealthCheckJob.summarize
    dsimp only
    split
    · exact ⟨"maintenance commands completed successfully", by decide +kernel⟩
    · exact ⟨_, List.append_assoc _ _ _⟩
  obtain ⟨rest, hrest⟩ := hsummary (HealthCheckJob.resultsToText results)
  exact isJobLine_of_start rfl hrest (by simp [jobStarts])

theorem isJobLine_logSkipped : IsJobLine logSkipped = true := by decide +kernel

theorem isJobLine_logCancelled : IsJobLine logCancelled = true := by decide +kernel

/-- All lines of a command are the job's. -/
theorem filter_commandLines (results : List CommandResult) :
    (results.flatMap commandLines).filter IsJobLine = results.flatMap commandLines := by
  refine List.filter_eq_self.mpr fun line hline => ?_
  obtain ⟨result, -, hline⟩ := List.mem_flatMap.mp hline
  rcases List.mem_pair.mp hline with rfl | rfl
  · exact isJobLine_logRunning _
  · exact isJobLine_logFinished _

/-- The store operations of an iteration log no line of the job. -/
theorem filter_logStore {failure : Bytes} {success : ℕ → List LogLine} {reply : Except Bytes ℕ}
    (hsuccess : ∀ count, (success count).filter IsJobLine = []) :
    (logStore failure success reply).filter IsJobLine = [] := by
  cases reply with
  | error message =>
    refine List.filter_eq_nil_iff.mpr fun line hline => ?_
    rw [List.mem_singleton.mp hline, not_isJobLine_of_level LogLevel.noConfusion]
    exact Bool.false_ne_true
  | ok count => exact hsuccess count

theorem filter_logDebug (debug : Bool) (message : Bytes) :
    (logDebug debug message).filter IsJobLine = [] := by
  refine List.filter_eq_nil_iff.mpr fun line hline => ?_
  obtain ⟨-, hline⟩ := List.mem_ite_nil_right.mp hline
  rw [List.mem_singleton.mp hline, not_isJobLine_of_level LogLevel.noConfusion]
  exact Bool.false_ne_true

theorem filter_logPruned (suffix : Bytes) (count : ℕ) :
    (logPruned suffix count).filter IsJobLine = [] := by
  refine List.filter_eq_nil_iff.mpr fun line hline => ?_
  obtain ⟨-, hline⟩ := List.mem_ite_nil_right.mp hline
  rw [List.mem_singleton.mp hline,
    not_isJobLine (List.append_assoc _ _ _) (by decide +kernel)]
  exact Bool.false_ne_true

/-- An iteration logs no line of the job before its commands. -/
theorem filter_iterationWork (setup : Setup) (db : Db) (o : IterationOutcome) :
    (iterationWork setup db o).2.filter IsJobLine = [] := by
  have hscan : ∀ rest : List Bytes,
      [(⟨.info, List.flatten (Bytes.ofString "scan root=" :: rest)⟩ : LogLine)].filter IsJobLine
        = [] := by
    intro rest
    refine List.filter_cons_of_neg ?_
    rw [not_isJobLine (List.flatten_cons ..) (by decide +kernel)]
    exact Bool.false_ne_true
  have herrors : ∀ messages : List Bytes,
      (messages.map (LogLine.mk .error)).filter IsJobLine = [] := by
    intro messages
    refine List.filter_eq_nil_iff.mpr fun line hline => ?_
    obtain ⟨message, -, rfl⟩ := List.mem_map.mp hline
    rw [not_isJobLine_of_level LogLevel.noConfusion]
    exact Bool.false_ne_true
  have hfindings : ∀ findings : List DiagnosticFinding,
      (findings.map logFinding).filter IsJobLine = [] := by
    intro findings
    refine List.filter_eq_nil_iff.mpr fun line hline => ?_
    obtain ⟨finding, -, rfl⟩ := List.mem_map.mp hline
    rw [not_isJobLine (List.flatten_cons ..) (by decide +kernel)]
    exact Bool.false_ne_true
  unfold iterationWork
  simp only [List.filter_append]
  rw [hscan, herrors, filter_logDebug, filter_logStore fun count => filter_logDebug _ _,
    filter_logStore fun count => filter_logPruned _ count,
    filter_logStore fun count => filter_logPruned _ count, hfindings]
  rfl

end JobLines

/-! ## One turn after the other -/

section Turns

variable {setup : Setup} {commands : List Bytes} {phase : Phase} {stop : Bool}
  {last : List LogLine} {unfinished begun : ℕ} {s : LoopState} {log : List LogLine}

/-- A stop request does not move the program. -/
theorem Standing.requested (h : Standing commands phase stop last unfinished) :
    Standing commands phase true last unfinished := by
  cases h with
  | apart h => exact .apart h
  | between h hcommands => exact .between h hcommands
  | starting h => exact .starting h
  | running h => exact .running h
  | threw h => exact .threw h
  | cancelled hphase h => exact .cancelled hphase h

/-- Outside a job, and not at its end, nothing of a job is left open. -/
theorem Standing.closed (h : Standing commands phase stop last unfinished)
    (hphase : phase = .iteration ∨ (∃ remaining, phase = .sleeping remaining) ∨ phase = .woken) :
    last = [] ∧ unfinished = 0 := by
  cases h with
  | apart => exact ⟨rfl, rfl⟩
  | cancelled hend =>
    rcases hend with rfl | rfl <;> rcases hphase with h | ⟨_, h⟩ | h <;> cases h
  | between | starting | running | threw =>
    rcases hphase with h | ⟨_, h⟩ | h <;> cases h

/-- A job that is cut short is left open at the end of `run`. -/
theorem Standing.returned (h : Standing commands .iterationDone stop last unfinished) :
    Standing commands .returned stop last unfinished := by
  cases h with
  | apart => exact .apart (Or.inr (Or.inr (Or.inr (Or.inr rfl))))
  | cancelled hphase h => exact .cancelled (Or.inr rfl) h

/-- Only a stop request cuts a job short. -/
theorem Standing.of_done (h : Standing commands .iterationDone false last unfinished) :
    last = [] ∧ unfinished = 0 := by
  cases h with
  | apart => exact ⟨rfl, rfl⟩

theorem Standing.of_nextCommand {rest : List Bytes} {results : List CommandResult}
    (h : Standing commands (.nextCommand rest results) stop last unfinished) :
    results.map CommandResult.command ++ rest = commands ∧ commands ≠ [] ∧
      last = results.flatMap commandLines ∧ unfinished = 1 := by
  cases h with
  | apart h => rcases h with h | h | ⟨_, h⟩ | h | h <;> cases h
  | between h hcommands => exact ⟨h, hcommands, rfl, rfl⟩
  | cancelled hphase => rcases hphase with h | h <;> cases h

theorem Standing.of_starting {command : Bytes} {rest : List Bytes} {results : List CommandResult}
    (h : Standing commands (.starting command rest results) stop last unfinished) :
    results.map CommandResult.command ++ command :: rest = commands ∧
      last = results.flatMap commandLines ++ [logRunning command] ∧ unfinished = 1 := by
  cases h with
  | apart h => rcases h with h | h | ⟨_, h⟩ | h | h <;> cases h
  | starting h => exact ⟨h, rfl, rfl⟩
  | cancelled hphase => rcases hphase with h | h <;> cases h

theorem Standing.of_running {command : Bytes} {rest : List Bytes} {results : List CommandResult}
    {state : CommandRunner.RunState}
    (h : Standing commands (.running command state rest results) stop last unfinished) :
    results.map CommandResult.command ++ command :: rest = commands ∧
      last = results.flatMap commandLines ++ [logRunning command] ∧ unfinished = 1 := by
  cases h with
  | apart h => rcases h with h | h | ⟨_, h⟩ | h | h <;> cases h
  | running h => exact ⟨h, rfl, rfl⟩
  | cancelled hphase => rcases hphase with h | h <;> cases h

/-- The program goes on in the turn it is in. -/
theorem InTurn.goesOn {s' : LoopState} {lines added : List LogLine} {now : ℕ}
    (h : InTurn commands begun s log) (hadded : lines.filter IsJobLine = added)
    (hstanding : ∀ last unfinished, Standing commands s.phase s.stopRequested last unfinished →
      Standing commands s'.phase s'.stopRequested (last ++ added) (unfinished + now)) :
    InTurn commands (begun + now) s' (log ++ lines) := by
  obtain ⟨turns, last, unfinished, hlog, hall, hlast, hbegun⟩ := h
  refine ⟨turns, last ++ added, unfinished + now, ?_, hall, hstanding last unfinished hlast, ?_⟩
  · rw [List.filter_append, hlog, hadded, List.append_assoc]
  · rw [hbegun, Nat.add_assoc]

/-- The program completes a turn. -/
theorem InTurn.completes {s' : LoopState} {lines added : List LogLine} {now : ℕ}
    (h : InTurn commands begun s log) (hadded : lines.filter IsJobLine = added)
    (hphase : s'.phase = .iterationDone)
    (hstanding : ∀ last unfinished, Standing commands s.phase s.stopRequested last unfinished →
      unfinished + now = 1 ∧ ∃ results : List CommandResult,
        results.map CommandResult.command = commands ∧ last ++ added = turnLines commands results) :
    InTurn commands (begun + now) s' (log ++ lines) := by
  obtain ⟨turns, last, unfinished, hlog, hall, hlast, hbegun⟩ := h
  obtain ⟨hone, results, hcommands, hlines⟩ := hstanding last unfinished hlast
  refine ⟨turns ++ [results], [], 0, ?_, ?_, hphase ▸ .apart (Or.inr (Or.inl rfl)), ?_⟩
  · rw [List.filter_append, hlog, hadded, List.flatMap_append, List.flatMap_singleton,
      List.append_assoc, hlines, List.append_nil]
  · intro turn hturn
    rcases List.mem_append.mp hturn with hturn | hturn
    · exact hall turn hturn
    · rw [List.mem_singleton.mp hturn]
      exact hcommands
  · rw [hbegun, List.length_append, List.length_singleton, Nat.add_assoc, hone]

/-- The program moves on without a line of the job. -/
theorem InTurn.moves {s' : LoopState} {lines : List LogLine} (h : InTurn commands begun s log)
    (hadded : lines.filter IsJobLine = [])
    (hstanding : ∀ last unfinished, Standing commands s.phase s.stopRequested last unfinished →
      Standing commands s'.phase s'.stopRequested last unfinished) :
    InTurn commands begun s' (log ++ lines) :=
  @InTurn.goesOn commands begun s log s' lines [] 0 h hadded fun last unfinished hlast => by
    rw [List.append_nil]
    exact hstanding last unfinished hlast

theorem filter_singleton {line : LogLine} (h : IsJobLine line = true) :
    [line].filter IsJobLine = [line] := List.filter_cons_of_pos h

theorem filter_stopped : [(⟨.info, "daemon stopped"⟩ : LogLine)].filter IsJobLine = [] := by
  decide +kernel

/-- **One step** keeps the turns. -/
theorem InTurn.step (h : InTurn setup.config.commands begun s log) (input : Input) :
    InTurn setup.config.commands (begun + (iterationOf s input).length)
      ((daemonLoop setup).step s input).1 (log ++ ((daemonLoop setup).step s input).2) := by
  cases input with
  | stop => exact h.moves rfl fun last unfinished hstanding => hstanding.requested
  | step o =>
    obtain ⟨phase, db, lines, hprogram, hmoves⟩ := program_moves setup s o
    show InTurn _ (begun + (iterationOf s (.step o)).length) (program setup s o).1
      (log ++ (program setup s o).2)
    rw [hprogram]
    unfold iterationOf
    cases hmoves with
    | skipped hphase hcommands =>
      rw [hphase]
      have hlines : ((iterationWork setup s.db o.iteration).2 ++ [logSkipped]).filter IsJobLine
          = [logSkipped] := by
        rw [List.filter_append, filter_iterationWork]
        exact filter_singleton isJobLine_logSkipped
      refine h.completes hlines rfl fun last unfinished hstanding => ?_
      obtain ⟨rfl, rfl⟩ := hstanding.closed (Or.inl hphase)
      refine ⟨rfl, [], hcommands.symm, ?_⟩
      rw [turnLines, if_pos hcommands]
      rfl
    | begun hphase hcommands =>
      rw [hphase]
      refine h.goesOn (filter_iterationWork setup s.db o.iteration) fun last unfinished hstanding => ?_
      obtain ⟨rfl, rfl⟩ := hstanding.closed (Or.inl hphase)
      exact .between (List.nil_append _) hcommands
    | summed hphase =>
      rw [hphase]
      refine h.completes (filter_singleton (isJobLine_logSummary _)) rfl
        fun last unfinished hstanding => ?_
      rw [hphase] at hstanding
      obtain ⟨hcommands, hne, rfl, rfl⟩ := hstanding.of_nextCommand
      refine ⟨rfl, _, (List.append_nil _).symm.trans hcommands, ?_⟩
      rw [turnLines, if_neg hne]
    | @cancelled command rest results hphase hstop =>
      rw [hphase]
      have hlines : [logCancelled, logSummary results].filter IsJobLine
          = [logCancelled, logSummary results] := by
        rw [List.filter_cons_of_pos isJobLine_logCancelled]
        exact congrArg _ (filter_singleton (isJobLine_logSummary _))
      refine h.goesOn hlines fun last unfinished hstanding => ?_
      rw [hphase] at hstanding
      obtain ⟨hcommands, -, rfl, rfl⟩ := hstanding.of_nextCommand
      show Standing _ .iterationDone s.stopRequested _ 1
      rw [hstop]
      exact .cancelled (Or.inl rfl) hcommands
    | announced hphase hgo =>
      rw [hphase]
      refine h.goesOn (filter_singleton (isJobLine_logRunning _)) fun last unfinished hstanding => ?_
      rw [hphase] at hstanding
      obtain ⟨hcommands, -, rfl, rfl⟩ := hstanding.of_nextCommand
      exact .starting hcommands
    | spawned hphase =>
      rw [hphase]
      refine h.moves rfl fun last unfinished hstanding => ?_
      rw [hphase] at hstanding
      obtain ⟨hcommands, rfl, rfl⟩ := hstanding.of_starting
      exact .running hcommands
    | notSpawned hphase =>
      rw [hphase]
      refine h.moves rfl fun last unfinished hstanding => ?_
      rw [hphase] at hstanding
      obtain ⟨hcommands, rfl, rfl⟩ := hstanding.of_starting
      exact .threw hcommands
    | waited hphase =>
      rw [hphase]
      refine h.moves rfl fun last unfinished hstanding => ?_
      rw [hphase] at hstanding
      obtain ⟨hcommands, rfl, rfl⟩ := hstanding.of_running
      exact .running hcommands
    | @finished command rest results state state' hphase =>
      rw [hphase]
      refine h.goesOn (filter_singleton (isJobLine_logFinished _)) fun last unfinished hstanding => ?_
      rw [hphase] at hstanding
      obtain ⟨hcommands, rfl, rfl⟩ := hstanding.of_running
      have hlines : results.flatMap commandLines ++ [logRunning command]
            ++ [logFinished (CommandRunner.result command state')]
          = (results ++ [CommandRunner.result command state']).flatMap commandLines := by
        rw [List.flatMap_append, List.flatMap_singleton, List.append_assoc]
        rfl
      rw [hlines]
      refine .between ?_ ?_
      · rw [List.map_append, List.append_assoc]
        exact hcommands
      · rw [← hcommands]
        exact List.append_ne_nil_of_right_ne_nil _ (List.cons_ne_nil _ _)
    | notWaited hphase =>
      rw [hphase]
      refine h.moves rfl fun last unfinished hstanding => ?_
      rw [hphase] at hstanding
      obtain ⟨hcommands, rfl, rfl⟩ := hstanding.of_running
      exact .threw hcommands
    | done hphase =>
      rw [hphase]
      refine h.moves filter_stopped fun last unfinished hstanding => ?_
      rw [hphase] at hstanding
      exact hstanding.returned
    | rests hphase hstay =>
      rw [hphase]
      refine h.moves rfl fun last unfinished hstanding => ?_
      have hgo : s.stopRequested = false := Bool.eq_false_iff.mpr fun hstop => hstay (Or.inr hstop)
      rw [hphase, hgo] at hstanding
      obtain ⟨rfl, rfl⟩ := hstanding.of_done
      exact .apart (Or.inr (Or.inr (Or.inl ⟨_, rfl⟩)))
    | slept hphase =>
      rw [hphase]
      refine h.moves rfl fun last unfinished hstanding => ?_
      obtain ⟨rfl, rfl⟩ := hstanding.closed (Or.inr (Or.inl ⟨_, hphase⟩))
      exact .apart (Or.inr (Or.inr (Or.inl ⟨_, rfl⟩)))
    | woke hphase =>
      rw [hphase]
      refine h.moves rfl fun last unfinished hstanding => ?_
      obtain ⟨rfl, rfl⟩ := hstanding.closed (Or.inr (Or.inl ⟨_, hphase⟩))
      exact .apart (Or.inr (Or.inr (Or.inr (Or.inl rfl))))
    | left hphase =>
      rw [hphase]
      refine h.moves filter_stopped fun last unfinished hstanding => ?_
      obtain ⟨rfl, rfl⟩ := hstanding.closed (Or.inr (Or.inr hphase))
      exact .apart (Or.inr (Or.inr (Or.inr (Or.inr rfl))))
    | again hphase =>
      rw [hphase]
      refine h.moves rfl fun last unfinished hstanding => ?_
      obtain ⟨rfl, rfl⟩ := hstanding.closed (Or.inr (Or.inr hphase))
      exact .apart (Or.inl rfl)
    | ended hended =>
      have hnone : iterationOf s (.step o) = [] := by
        rcases iterationOf_cases s (.step o) with hnone | ⟨-, -, hphase, -⟩
        · exact hnone
        · rw [hphase] at hended
          exact hended.elim
      unfold iterationOf at hnone
      rw [hnone]
      exact h.moves rfl fun last unfinished hstanding => hstanding

end Turns

/-- **The health checks of a run come in turn.** In every run, whatever the commands do and whenever
a stop is requested, the lines of the health-check job are those of complete turns, one for each
iteration but perhaps the last: each starts and finishes all commands once, in the order of the
configuration, and sums up exactly their results. A last turn that is not complete is one the program
is in, was thrown out of, or was told to stop. -/
theorem health_checks_in_turn (setup : Setup) (db : Db) (inputs : List Input) :
    InTurn setup.config.commands (iterations setup (.initial db) inputs).length
      ((daemonLoop setup).run (.initial db) inputs).1
      ((daemonLoop setup).run (.initial db) inputs).2 := by
  rw [iterations, (daemonLoop setup).run_snd_eq_traced]
  have hstep : ∀ (trace : List (LoopState × Input)) s input,
      InTurn setup.config.commands (trace.flatMap fun p => iterationOf p.1 p.2).length s
        (trace.flatMap fun p => ((daemonLoop setup).step p.1 p.2).2) →
      InTurn setup.config.commands
        ((trace ++ [(s, input)]).flatMap fun p => iterationOf p.1 p.2).length
        ((daemonLoop setup).step s input).1
        ((trace ++ [(s, input)]).flatMap fun p => ((daemonLoop setup).step p.1 p.2).2) := by
    intro trace s input h
    rw [List.flatMap_append, List.flatMap_append, List.flatMap_singleton, List.flatMap_singleton,
      List.length_append]
    exact h.step input
  have hinit : InTurn setup.config.commands 0 (.initial db) [] :=
    ⟨[], [], 0, rfl, fun _ h => absurd h List.not_mem_nil, .apart (Or.inl rfl), rfl⟩
  exact @Machine.trace_induction _ _ _ (daemonLoop setup) (fun trace s =>
    InTurn setup.config.commands (trace.flatMap fun p => iterationOf p.1 p.2).length s
      (trace.flatMap fun p => ((daemonLoop setup).step p.1 p.2).2)) hstep _ hinit inputs

/-! ## After a stop request -/

/-- How many steps a stop request leaves, besides waiting for the output of a command. -/
def stepsLeft : Phase → ℕ
  | .starting _ _ _ => 4
  | .running _ _ _ _ => 3
  | .iteration => 3
  | .nextCommand _ _ => 2
  | .sleeping _ => 2
  | .iterationDone => 1
  | .woken => 1
  | .returned => 0
  | .threw _ => 0

/-- The input is a step of the program. -/
def Input.isStep : Input → Bool
  | .stop => false
  | .step _ => true

/-- The program takes the step: `run` has not ended. -/
def Takes (p : LoopState × Input) : Bool :=
  match p.1.phase with
  | .returned => false
  | .threw _ => false
  | _ => p.2.isStep

/-- The step is a round of a running command whose output goes on. -/
def Waits (p : LoopState × Input) : Bool :=
  match p.1.phase, p.2 with
  | .running _ state _ _, .step o => !state.pipeFinished && !o.round.read.ends
  | _, _ => false

section Stop

variable {setup : Setup} {s : LoopState}

theorem takes_iff {input : Input} :
    Takes (s, input) = true ↔ ¬ s.phase.Ended ∧ input.isStep = true := by
  unfold Takes
  cases hphase : s.phase with
  | returned | threw => exact iff_of_false Bool.false_ne_true fun h => h.1 trivial
  | _ => exact ⟨fun h => ⟨not_false, h⟩, fun h => h.2⟩

theorem stepsLeft_le (phase : Phase) : stepsLeft phase ≤ 4 := by
  unfold stepsLeft
  split <;> omega

/-- A round after the request sees the child collected. -/
theorem childFinished_of_stop {options : CommandRunner.CommandOptions}
    {state state' : CommandRunner.RunState} {r : CommandRunner.Round}
    (h : CommandRunner.round options state true r = .ok state') : state'.childFinished = true := by
  obtain ⟨seen, -, h⟩ := bind_eq_ok.mp h
  split at h
  case isTrue =>
    cases h
    exact CommandRunner.terminate_childFinished
  case isFalse hdone =>
    cases h
    have hfinished : state'.finished = true := by
      by_contra hmore
      exact hdone ⟨Bool.eq_false_iff.mpr hmore, Or.inl rfl⟩
    rw [CommandRunner.RunState.finished, Bool.and_eq_true] at hfinished
    exact hfinished.1

/-- **One step after the request** uses up one of those that are left, or waits for output. -/
theorem stepsLeft_step (hstop : s.stopRequested = true) (input : Input) :
    stepsLeft ((daemonLoop setup).step s input).1.phase + (if Takes (s, input) then 1 else 0)
      ≤ stepsLeft s.phase + (if Waits (s, input) then 1 else 0) := by
  cases input with
  | stop =>
    have hnot : Takes (s, .stop) = false := by
      rw [Bool.eq_false_iff, ne_eq, takes_iff]
      exact fun h => Bool.false_ne_true h.2
    rw [hnot]
    exact Nat.le_add_right _ _
  | step o =>
    have hone : (if Takes (s, .step o) then 1 else 0) ≤ 1 := by
      split <;> omega
    obtain ⟨phase, db, lines, hprogram, hmoves⟩ := program_moves setup s o
    show stepsLeft (program setup s o).1.phase + _ ≤ _
    rw [hprogram]
    cases hmoves with
    | skipped hphase | begun hphase | summed hphase | cancelled hphase | spawned hphase
    | notSpawned hphase | finished hphase | notWaited hphase | done hphase | woke hphase
    | left hphase =>
      rw [hphase]
      simp only [stepsLeft]
      omega
    | announced _ hgo | slept _ _ hgo | again _ hgo =>
      rw [hstop] at hgo
      cases hgo
    | rests _ hstay => exact absurd (Or.inr hstop) hstay
    | @waited command rest results state state' hphase hround hmore =>
      rw [hstop] at hround
      have hpipe : state'.pipeFinished = false := by
        rw [CommandRunner.RunState.finished, childFinished_of_stop hround, Bool.true_and] at hmore
        exact hmore
      rw [(CommandRunner.round_eq_ok hround).1, Bool.or_eq_false_iff] at hpipe
      have hwaits : Waits (s, .step o) = true := by
        simp only [Waits, hphase, hpipe.1, hpipe.2]
        rfl
      rw [hwaits, hphase]
      exact Nat.add_le_add_left hone _
    | ended hended =>
      have hnot : Takes (s, .step o) = false := by
        rw [Bool.eq_false_iff, ne_eq, takes_iff]
        exact fun h => h.1 hended
      rw [hnot]
      exact Nat.le_add_right _ _

/-- A stop request stays. -/
theorem stopRequested_step (hstop : s.stopRequested = true) (input : Input) :
    ((daemonLoop setup).step s input).1.stopRequested = true := by
  cases input with
  | stop => rfl
  | step o => exact program_stopRequested.trans hstop

/-- `run` ends once. -/
theorem ended_step (hended : s.phase.Ended) (input : Input) :
    ((daemonLoop setup).step s input).1.phase.Ended := by
  cases input with
  | stop => exact hended
  | step o =>
    show (program setup s o).1.phase.Ended
    unfold program
    cases hphase : s.phase with
    | returned | threw =>
      show s.phase.Ended
      exact hended
    | _ =>
      rw [hphase] at hended
      exact hended.elim

theorem ended_run (hended : s.phase.Ended) (inputs : List Input) :
    ((daemonLoop setup).run s inputs).1.phase.Ended := by
  induction inputs generalizing s with
  | nil => exact hended
  | cons input inputs ih => exact ih (ended_step hended input)

/-- As long as `run` has not ended, it takes every step. -/
theorem countP_takes {inputs : List Input}
    (hactive : ¬ ((daemonLoop setup).run s inputs).1.phase.Ended) :
    ((daemonLoop setup).traced.run s inputs).2.countP Takes = inputs.countP Input.isStep := by
  induction inputs generalizing s with
  | nil => rfl
  | cons input inputs ih =>
    have hstart : ¬ s.phase.Ended := fun h => hactive (ended_run h (input :: inputs))
    have htakes : Takes (s, input) = input.isStep := by
      rw [Bool.eq_iff_iff, takes_iff]
      exact and_iff_right hstart
    show ((s, input) :: ((daemonLoop setup).traced.run _ inputs).2).countP Takes = _
    rw [List.countP_cons, List.countP_cons, htakes]
    exact congrArg (· + _) (ih hactive)

end Stop

/-- **A stop request ends the run.** From any state of any run, and whatever happens afterwards,
`run` has ended when the program has taken four steps after the request, not counting those that wait
for the output of the command that is running. -/
theorem stop_ends_run (setup : Setup) (db : Db) (before after : List Input) :
    let s := ((daemonLoop setup).run (.initial db) (before ++ [.stop])).1
    ((daemonLoop setup).run s after).1.phase.Ended ∨
      after.countP Input.isStep ≤ 4 + ((daemonLoop setup).traced.run s after).2.countP Waits := by
  intro s
  have hstop : s.stopRequested = true := by
    show ((daemonLoop setup).run (.initial db) (before ++ [.stop])).1.stopRequested = true
    rw [Machine.run_append]
    rfl
  by_cases hended : ((daemonLoop setup).run s after).1.phase.Ended
  · exact Or.inl hended
  · right
    have hpaid := @Machine.countP_le_of_potential _ _ _ (daemonLoop setup)
      (fun s => s.stopRequested = true) (fun s => stepsLeft s.phase) Takes Waits
      (fun _ input h => stopRequested_step h input) (fun _ input h => stepsLeft_step h input) s hstop
      after
    rw [countP_takes hended] at hpaid
    have hfour := stepsLeft_le s.phase
    omega

/-! ## The sleep -/

/-- The milliseconds for which a step sleeps. -/
def slept (p : LoopState × Input) : ℤ :=
  match p.1.phase, p.2 with
  | .sleeping remaining, .step _ =>
    if 0 < remaining ∧ p.1.stopRequested = false then min remaining 100 else 0
  | _, _ => 0

/-- The interval between two iterations in milliseconds. -/
def intervalMs (setup : Setup) : ℤ := max (signed64 setup.overflow (setup.config.interval * 1000)) 0

/-- What is left to sleep until the next iteration. -/
def toSleep (setup : Setup) : Phase → ℤ
  | .iteration => 0
  | .sleeping remaining => max remaining 0
  | .woken => 0
  | _ => intervalMs setup

section Sleep

variable {setup : Setup} {s : LoopState}

/-- The account of the sleep: until a stop is requested, what was slept and what is left make up the
interval once for each iteration. -/
def SleepAccount (setup : Setup) (begun : ℕ) (asleep : ℤ) (s : LoopState) : Prop :=
  s.stopRequested = false → ¬ s.phase.Ended →
    asleep + toSleep setup s.phase = begun * intervalMs setup

/-- **One step** keeps the account. -/
theorem sleepAccount_step {begun : ℕ} {asleep : ℤ} (h : SleepAccount setup begun asleep s)
    (input : Input) :
    SleepAccount setup (begun + (iterationOf s input).length) (asleep + slept (s, input))
      ((daemonLoop setup).step s input).1 := by
  cases input with
  | stop =>
    intro hgo
    cases hgo
  | step o =>
    intro hgo hactive
    have hgo' : s.stopRequested = false := program_stopRequested.symm.trans hgo
    have hbefore := h hgo'
    obtain ⟨phase, db, lines, hprogram, hmoves⟩ := program_moves setup s o
    replace hactive : ¬ (program setup s o).1.phase.Ended := hactive
    show asleep + slept (s, .step o) + toSleep setup (program setup s o).1.phase = _
    rw [hprogram] at hactive ⊢
    unfold iterationOf slept
    cases hmoves with
    | skipped hphase | begun hphase =>
      rw [hphase] at hbefore ⊢
      have hslept := hbefore not_false
      simp only [toSleep, List.length_singleton] at hslept ⊢
      push_cast
      linarith
    | summed hphase | announced hphase | spawned hphase | waited hphase | finished hphase
    | rests hphase =>
      rw [hphase] at hbefore ⊢
      have hslept := hbefore not_false
      simp only [toSleep, List.length_nil, add_zero] at hslept ⊢
      exact hslept
    | @slept remaining hphase hpos =>
      rw [hphase] at hbefore ⊢
      have hslept := hbefore not_false
      simp only [toSleep, List.length_nil, add_zero] at hslept ⊢
      rw [if_pos ⟨hpos, hgo'⟩]
      omega
    | @woke remaining hphase hwake =>
      rw [hphase] at hbefore ⊢
      have hslept := hbefore not_false
      have hdone : remaining ≤ 0 := by
        by_contra hpos
        exact hwake ⟨not_le.mp hpos, hgo'⟩
      simp only [toSleep, List.length_nil, add_zero] at hslept ⊢
      rw [if_neg hwake]
      omega
    | again hphase =>
      rw [hphase] at hbefore ⊢
      have hslept := hbefore not_false
      simp only [toSleep, List.length_nil, add_zero] at hslept ⊢
      exact hslept
    | cancelled _ hstop | left _ hstop =>
      rw [hgo'] at hstop
      cases hstop
    | notSpawned | notWaited | done => exact absurd trivial hactive
    | ended hended => exact absurd hended hactive

/-- A step sleeps for 100 ms at most. -/
theorem slept_le (p : LoopState × Input) : 0 ≤ slept p ∧ slept p ≤ 100 := by
  unfold slept
  split
  case h_1 remaining o hphase hinput =>
    split
    case isTrue hpos =>
      have hremaining := hpos.1
      omega
    case isFalse => omega
  case h_2 => omega

/-- The account of a run. -/
theorem sleepAccount_run (setup : Setup) (db : Db) (inputs : List Input) :
    SleepAccount setup (iterations setup (.initial db) inputs).length
      (((daemonLoop setup).traced.run (.initial db) inputs).2.map slept).sum
      ((daemonLoop setup).run (.initial db) inputs).1 := by
  have hstep : ∀ (trace : List (LoopState × Input)) s input,
      SleepAccount setup (trace.flatMap fun p => iterationOf p.1 p.2).length (trace.map slept).sum s →
      SleepAccount setup ((trace ++ [(s, input)]).flatMap fun p => iterationOf p.1 p.2).length
        ((trace ++ [(s, input)]).map slept).sum ((daemonLoop setup).step s input).1 := by
    intro trace s input h
    rw [List.flatMap_append, List.flatMap_singleton, List.length_append, List.map_append,
      List.sum_append, List.map_singleton, List.sum_singleton]
    exact sleepAccount_step h input
  have hinit : SleepAccount setup 0 0 (.initial db) := fun _ _ => by simp [toSleep, LoopState.initial]
  exact @Machine.trace_induction _ _ _ (daemonLoop setup) (fun trace s =>
    SleepAccount setup (trace.flatMap fun p => iterationOf p.1 p.2).length (trace.map slept).sum s)
    hstep _ hinit inputs

end Sleep

/-- **The sleeps add up.** In every run, when an iteration is about to begin and no stop is requested,
the loop has slept exactly the interval once for each iteration before, in pieces of 100 ms at most. -/
theorem sleeps_add_up (setup : Setup) (db : Db) (inputs : List Input)
    (hgo : ((daemonLoop setup).run (.initial db) inputs).1.stopRequested = false)
    (hphase : ((daemonLoop setup).run (.initial db) inputs).1.phase = .iteration) :
    (((daemonLoop setup).traced.run (.initial db) inputs).2.map slept).sum
        = (iterations setup (.initial db) inputs).length * intervalMs setup ∧
      ∀ p ∈ ((daemonLoop setup).traced.run (.initial db) inputs).2, 0 ≤ slept p ∧ slept p ≤ 100 := by
  refine ⟨?_, fun p _ => slept_le p⟩
  have haccount := sleepAccount_run setup db inputs hgo (by rw [hphase]; exact not_false)
  rw [hphase] at haccount
  exact (add_zero _).symm.trans haccount

/-- A daemon without commands, that sleeps for one second. -/
def everySecond : Setup := { oneCommand with config := { interval := 1 } }

theorem sleeps_add_up_one_second :
    (((daemonLoop everySecond).traced.run (.initial ⟨.empty, none⟩)
        (List.replicate 14 (.step (quietStep (.started 0) {})))).2.map slept).sum
      = (iterations everySecond (.initial ⟨.empty, none⟩)
          (List.replicate 14 (.step (quietStep (.started 0) {})))).length * intervalMs everySecond ∧
    ∀ p ∈ ((daemonLoop everySecond).traced.run (.initial ⟨.empty, none⟩)
      (List.replicate 14 (.step (quietStep (.started 0) {})))).2, 0 ≤ slept p ∧ slept p ≤ 100 :=
  sleeps_add_up everySecond ⟨.empty, none⟩ (List.replicate 14 (.step (quietStep (.started 0) {})))
    rfl rfl

end Daemon

end Holonight
