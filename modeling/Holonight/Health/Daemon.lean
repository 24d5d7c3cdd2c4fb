import Holonight.Health.RuleEngine

/-!
# The daemon's diagnostic pass (`Daemon.cpp`)

`collectAllEvents` concatenates what the four collectors return and logs the ones that
throw; `runStatusCheck` evaluates the rules on the result, prints a report and turns
the severities of the findings into an exit code.

The exit code depends on the built-in rules through two of them only
(`runStatusCheck_builtIn_iff`): the others have severity `warning`.
-/

namespace Holonight

namespace Daemon

open RuleEngine

/-! ## Collecting -/

/-- What the four collectors of a pass do: return events, or throw. -/
structure CollectorOutcomes (ε : Type) where
  systemd : Except ε (List ObservationEvent)
  storage : Except ε (List ObservationEvent)
  memory : Except ε (List ObservationEvent)
  pacman : Except ε (List ObservationEvent)

section Collect

variable {ε : Type}

/-- One `try` block of `collectAllEvents`: the events and the error lines it logs. -/
def runCollector (what : ε → Bytes) (name : Bytes) :
    Except ε (List ObservationEvent) → List ObservationEvent × List Bytes
  | .ok events => (events, [])
  | .error err => ([], [name ++ Bytes.ofString " failed: " ++ what err])

/-- `Daemon::collectAllEvents` (Daemon.cpp:125–159). -/
def collectAllEvents (what : ε → Bytes) (outcomes : CollectorOutcomes ε) :
    List ObservationEvent × List Bytes :=
  let systemd := runCollector what "SystemdCollector" outcomes.systemd
  let storage := runCollector what "StorageCollector" outcomes.storage
  let memory := runCollector what "MemoryCollector" outcomes.memory
  let pacman := runCollector what "PacmanCollector" outcomes.pacman
  (systemd.1 ++ storage.1 ++ memory.1 ++ pacman.1,
    systemd.2 ++ storage.2 ++ memory.2 ++ pacman.2)

end Collect

/-! ## The status report -/

/-- `struct SeverityCounts`. -/
structure SeverityCounts where
  critical : ℕ := 0
  error : ℕ := 0
  warning : ℕ := 0

/-- `countFindingSeverities` (Daemon.cpp:40–52). -/
def countFindingSeverities (findings : List DiagnosticFinding) : SeverityCounts :=
  findings.foldl
    (fun counts finding =>
      match finding.severity with
      | .critical => { counts with critical := counts.critical + 1 }
      | .error => { counts with error := counts.error + 1 }
      | .warning => { counts with warning := counts.warning + 1 }
      | _ => counts)
    {}

/-- A bulleted list under a heading, or nothing when it is empty. -/
def formatList (heading : Bytes) (items : List Bytes) : Bytes :=
  if items = [] then []
  else heading ++ items.flatMap fun item => Bytes.ofString "    * " ++ item ++ [10]

/-- `formatSingleFinding` (Daemon.cpp:54–75). -/
def formatSingleFinding (finding : DiagnosticFinding) : Bytes :=
  let eventLine (event : ObservationEvent) : Bytes :=
    List.flatten ["    - [", event.source, "] ", event.signal, " on ", event.subject, "\n"]
  List.flatten
    [ "[", severityToString finding.severity, "] ", finding.ruleId, ": ", finding.title, "\n",
      "  Category: ", finding.category, "\n",
      "  Matched Events (", decimalNat finding.matchedEvents.length, "):\n",
      finding.matchedEvents.flatMap eventLine,
      formatList "  Candidate Root Causes:\n" finding.candidateCauses,
      formatList "  Suggested Remediation Actions:\n" finding.suggestedActions,
      "\n" ]

/-- A line of eighty times the same byte. -/
def ruler (b : UInt8) : Bytes := List.replicate 80 b ++ [10]

/-- The verdict after `Overall Status: ` (Daemon.cpp:176–183). -/
def statusVerdict (counts : SeverityCounts) : Bytes :=
  if 0 < counts.critical ∨ 0 < counts.error then
    List.flatten ["UNHEALTHY", " (", decimalNat counts.critical, " Critical, ",
      decimalNat counts.error, " Error)"]
  else if 0 < counts.warning then
    List.flatten ["OK", " (", decimalNat counts.warning, " Warning)"]
  else "OK"

/-- `Daemon::formatStatusReport` (Daemon.cpp:161–201) at the formatted time `time`; 61 is
`=` and 45 is `-`. -/
def formatStatusReport (time : Bytes) (findings : List DiagnosticFinding) : Bytes :=
  List.flatten
    [ ruler 61, "                       holonightd System Status Report\n", ruler 61,
      "Timestamp: ", time, "\n",
      "Overall Status: ", statusVerdict (countFindingSeverities findings), "\n\n",
      ruler 45, "ACTIVE DIAGNOSTIC FINDINGS (", decimalNat findings.length, ")\n", ruler 45, "\n",
      if findings.isEmpty then
        "No active diagnostic issues detected across system collectors.\n\n"
      else findings.flatMap formatSingleFinding,
      ruler 61,
      "Summary: ", decimalNat findings.length, " findings detected across 4 system collectors.\n",
      ruler 61 ]

/-- The severity makes the status check fail (Daemon.cpp:211). -/
def Severity.isFailure (severity : Severity) : Bool :=
  decide (severity = .error ∨ severity = .critical)

/-- `Daemon::runStatusCheck` (Daemon.cpp:203–216): the exit code and the printed report,
on the events of `collectAllEvents`. -/
def runStatusCheck (lib : CppLib) (stamp : ℕ → Bytes × Bytes) (time : Bytes)
    (rules : List DiagnosticRule) (events : List ObservationEvent) : ℤ × Bytes :=
  let findings := evaluate lib stamp rules events
  (if findings.any (fun finding => Severity.isFailure finding.severity) then 1 else 0,
    formatStatusReport time findings ++ [10])

/-! ## The exit code under the built-in rules -/

section ExitCode

variable {lib : CppLib} {stamp : ℕ → Bytes × Bytes} {time : Bytes}
  {rules : List DiagnosticRule} {events : List ObservationEvent}

/-- The exit code is 1 exactly when a rule of failing severity fires. -/
theorem runStatusCheck_iff :
    (runStatusCheck lib stamp time rules events).1 = 1
      ↔ ∃ rule ∈ rules, Fires lib events rule ∧ Severity.isFailure rule.severity = true := by
  have hcode : (runStatusCheck lib stamp time rules events).1 = 1
      ↔ ∃ finding ∈ evaluate lib stamp rules events,
          Severity.isFailure finding.severity = true := by
    show (if _ then (1 : ℤ) else 0) = 1 ↔ _
    rw [← List.any_eq_true]
    split
    · rename_i h
      exact iff_of_true rfl h
    · rename_i h
      exact iff_of_false (by decide) h
  rw [hcode]
  constructor
  · rintro ⟨finding, hmem, hseverity⟩
    obtain ⟨rule, hrule, hfires, k, rfl⟩ := mem_evaluateFrom hmem
    exact ⟨rule, hrule, hfires, hseverity⟩
  · rintro ⟨rule, hrule, hfires, hseverity⟩
    obtain ⟨k, hk⟩ := @exists_finding_of_fires lib stamp events 0 _ _ hrule hfires
    exact ⟨_, hk, hseverity⟩

/-- **Exit code of the built-in rules**: only the memory and the systemd rule fail a
status check. -/
theorem runStatusCheck_builtIn_iff :
    (runStatusCheck lib stamp time builtInRules events).1 = 1
      ↔ ∃ event ∈ events, Reports "memory" ["oom_kill", "memory_pressure"] event
          ∨ Reports "systemd" ["unit_failed"] event := by
  rw [runStatusCheck_iff]
  have hfailing : ∀ rule ∈ builtInRules, Severity.isFailure rule.severity = true →
      rule = memoryRule ∨ rule = systemdRule := by
    intro rule hrule hseverity
    simp only [builtInRules, List.mem_cons, List.not_mem_nil, or_false] at hrule
    -- the kernel, lock and storage rules have severity `warning`
    rcases hrule with rfl | rfl | rfl | rfl | rfl
    · exact absurd hseverity (by decide)
    · exact absurd hseverity (by decide)
    · exact absurd hseverity (by decide)
    · exact Or.inl rfl
    · exact Or.inr rfl
  constructor
  · rintro ⟨rule, hrule, hfires, hseverity⟩
    rcases hfailing rule hrule hseverity with rfl | rfl
    · obtain ⟨event, hmem, hreports⟩ := fires_memoryRule_iff.mp hfires
      exact ⟨event, hmem, Or.inl hreports⟩
    · obtain ⟨event, hmem, hreports⟩ := fires_systemdRule_iff.mp hfires
      exact ⟨event, hmem, Or.inr hreports⟩
  · rintro ⟨event, hmem, hreports | hreports⟩
    · exact ⟨memoryRule, by simp [builtInRules], fires_memoryRule_iff.mpr ⟨event, hmem, hreports⟩,
        rfl⟩
    · exact ⟨systemdRule, by simp [builtInRules],
        fires_systemdRule_iff.mpr ⟨event, hmem, hreports⟩, rfl⟩

end ExitCode

end Daemon

end Holonight
