import Holonight.Health.Daemon
import Holonight.Health.MemoryCollector
import Holonight.Health.SystemdCollector

/-!
# From collectors to findings

A collector and the rule written for it agree only through the texts of their events.
This file composes them: the systemd collector with RULE-SYSTEMD-001 and the exit code
of the status check, and the memory collector with RULE-MEMORY-001.

Neither pair agrees. The collector writes the category `systemd.unit` where the rule
asks for `systemd`, and the memory collector's four signals are none of the rule's two.
-/

namespace Holonight

open RuleEngine

/-! ## Failed units -/

namespace SystemdCollector

variable {lib : CppLib} {options : SystemdCollectorOptions} {now : TimePoint}

/-- The category a failed unit is reported under. -/
theorem unitFailedEvent_category {unit : UnitInfo} {event : ObservationEvent}
    (h : unitFailedEvent lib now unit = .ok event) :
    event.category = Bytes.ofString "systemd.unit" := by
  obtain ⟨attributes, -, heq⟩ := bind_eq_ok.mp h
  cases heq
  rfl

/-- The events of a pass: this scan, and whatever the other three collectors do. -/
def passEvents (lib : CppLib) (what : Exn → Bytes) (options : SystemdCollectorOptions)
    (state : FlappingState) (scan : Scan) (others : Daemon.CollectorOutcomes Exn) :
    List ObservationEvent :=
  (Daemon.collectAllEvents what
    { others with systemd := (collect lib (construct options) state scan).2 }).1

/-- Every failed unit that is not ignored has its event in a finding of
RULE-SYSTEMD-001, and the status check of the pass returns 1. -/
def FailedUnitsDiagnosed (lib : CppLib) (what : Exn → Bytes) (stamp : ℕ → Bytes × Bytes)
    (time : Bytes) (options : SystemdCollectorOptions) (state : FlappingState) (scan : Scan)
    (others : Daemon.CollectorOutcomes Exn) : Prop :=
  ∀ unit ∈ scan.unitsSeen, reported (construct options) unit = true →
    (∃ finding ∈ evaluate lib stamp builtInRules
        (passEvents lib what options state scan others),
      finding.ruleId = Bytes.ofString "RULE-SYSTEMD-001" ∧
      ∃ event, unitFailedEvent lib scan.now unit = .ok event ∧ event ∈ finding.matchedEvents) ∧
    (Daemon.runStatusCheck lib stamp time builtInRules
      (passEvents lib what options state scan others)).1 = 1

/-- The event of a failed unit is in no finding of RULE-SYSTEMD-001, whatever else the
pass collects. -/
theorem unitFailedEvent_not_matched {stamp : ℕ → Bytes × Bytes} {unit : UnitInfo}
    {event : ObservationEvent} (hevent : unitFailedEvent lib now unit = .ok event)
    {events : List ObservationEvent} {finding : DiagnosticFinding}
    (hfinding : finding ∈ evaluate lib stamp builtInRules events)
    (hid : finding.ruleId = Bytes.ofString "RULE-SYSTEMD-001") :
    event ∉ finding.matchedEvents := by
  intro hmem
  have hmatch := (@matches_of_mem_finding lib stamp events finding systemdRule event
    (by simp [builtInRules]) hfinding hid hmem).2
  rw [matches_systemdRule_iff] at hmatch
  -- the rule asks for the category systemd, the collector writes systemd.unit
  have hcategory := (unitFailedEvent_category hevent).symm.trans hmatch.1
  exact absurd hcategory (by decide)

/-- A failed unit that is not ignored is not diagnosed. -/
theorem not_diagnosed_of_reported {what : Exn → Bytes} {stamp : ℕ → Bytes × Bytes} {time : Bytes}
    {state : FlappingState} {scan : Scan} {others : Daemon.CollectorOutcomes Exn}
    {unit : UnitInfo} (hseen : unit ∈ scan.unitsSeen)
    (hreported : reported (construct options) unit = true) :
    ¬ FailedUnitsDiagnosed lib what stamp time options state scan others := by
  intro h
  obtain ⟨⟨finding, hfinding, hid, event, hevent, hmem⟩, -⟩ := h unit hseen hreported
  exact unitFailedEvent_not_matched hevent hfinding hid hmem

/-- **Failed units are diagnosed** exactly when there is none to diagnose. -/
theorem failed_units_diagnosed_iff (lib : CppLib) (what : Exn → Bytes)
    (stamp : ℕ → Bytes × Bytes) (time : Bytes) (options : SystemdCollectorOptions)
    (state : FlappingState) (scan : Scan) (others : Daemon.CollectorOutcomes Exn) :
    FailedUnitsDiagnosed lib what stamp time options state scan others
      ↔ ∀ unit ∈ scan.unitsSeen, reported (construct options) unit = false := by
  constructor
  · intro h unit hseen
    by_contra hreported
    rw [Bool.not_eq_false] at hreported
    exact not_diagnosed_of_reported hseen hreported h
  · intro h unit hseen hreported
    rw [h unit hseen] at hreported
    cases hreported

/-- A listing with one failed unit, under the default options. -/
def failedNginx : Scan where
  now := 1000000000
  bus := .units
    { units := [{ name := "nginx.service", loadState := "loaded", activeState := "failed",
                  subState := "failed" }]
      nodup := List.nodup_singleton _ }

/-- With one failed unit and nothing else, the unit is not diagnosed. -/
theorem failed_unit_not_diagnosed :
    ¬ FailedUnitsDiagnosed CppLib.integral (fun _ => []) (fun _ => ([], [])) [] {}
        FlappingState.empty failedNginx
        { systemd := .ok [], storage := .ok [], memory := .ok [], pacman := .ok [] } :=
  not_diagnosed_of_reported List.mem_cons_self (by decide)

end SystemdCollector

/-! ## Memory trouble -/

namespace MemoryCollector

variable {lib : CppLib} {options : MemoryCollectorOptions} {metrics : MemoryMetrics}
  {clock : ℕ → TimePoint} {stamp : ℕ → Bytes × Bytes} {before after : List ObservationEvent}

/-- If the collector emits something, RULE-MEMORY-001 has a finding on its events
together with those collected before and after. -/
def TroubleDiagnosed (lib : CppLib) (stamp : ℕ → Bytes × Bytes) (options : MemoryCollectorOptions)
    (clock : ℕ → TimePoint) (metrics : MemoryMetrics) (before after : List ObservationEvent) :
    Prop :=
  ∀ events, collect lib options clock metrics = .ok events → events ≠ [] →
    ∃ finding ∈ evaluate lib stamp builtInRules (before ++ events ++ after),
      finding.ruleId = Bytes.ofString "RULE-MEMORY-001"

/-- No event of the collector is one that RULE-MEMORY-001 matches. -/
theorem not_reports_of_mem_collect {events : List ObservationEvent}
    (h : collect lib options clock metrics = .ok events) {event : ObservationEvent}
    (hevent : event ∈ events) :
    ¬ Reports "memory" ["oom_kill", "memory_pressure"] event := by
  rintro ⟨-, hsignal, -⟩
  have hdisjoint : ∀ signal ∈ ([ "memory_pressure_some", "memory_pressure_full",
      "memory_used_high", "oom_killer_invoked" ] : List Bytes),
      signal ∉ ([ "oom_kill", "memory_pressure" ] : List Bytes) := by decide
  exact hdisjoint _ (mem_collect h hevent).2 hsignal

/-- The collector's events never decide whether the rule has a finding. -/
theorem finding_memory_iff {events : List ObservationEvent}
    (h : collect lib options clock metrics = .ok events) :
    (∃ finding ∈ evaluate lib stamp builtInRules (before ++ events ++ after),
        finding.ruleId = Bytes.ofString "RULE-MEMORY-001")
      ↔ ∃ event ∈ before ++ after, Reports "memory" ["oom_kill", "memory_pressure"] event := by
  have hrule : memoryRule ∈ builtInRules := by simp [builtInRules]
  rw [show Bytes.ofString "RULE-MEMORY-001" = memoryRule.ruleId from rfl,
    finding_builtIn_iff hrule, fires_memoryRule_iff]
  constructor
  · rintro ⟨event, hmem, hreports⟩
    rw [List.mem_append, List.mem_append] at hmem
    rcases hmem with (hmem | hmem) | hmem
    · exact ⟨event, List.mem_append_left _ hmem, hreports⟩
    · exact absurd hreports (not_reports_of_mem_collect h hmem)
    · exact ⟨event, List.mem_append_right _ hmem, hreports⟩
  · rintro ⟨event, hmem, hreports⟩
    rcases List.mem_append.mp hmem with hmem | hmem
    · exact ⟨event, List.mem_append_left _ (List.mem_append_left _ hmem), hreports⟩
    · exact ⟨event, List.mem_append_right _ hmem, hreports⟩

/-- **Memory trouble is diagnosed** exactly when nothing is emitted, or an event of
another origin carries what the rule asks for. -/
theorem memory_trouble_diagnosed_iff (lib : CppLib) (stamp : ℕ → Bytes × Bytes)
    (options : MemoryCollectorOptions) (clock : ℕ → TimePoint) (metrics : MemoryMetrics)
    (before after : List ObservationEvent) :
    TroubleDiagnosed lib stamp options clock metrics before after
      ↔ (Trouble options metrics → ¬ Serialisable metrics) ∨
        ∃ event ∈ before ++ after, Reports "memory" ["oom_kill", "memory_pressure"] event := by
  constructor
  · intro h
    by_cases hemits : Trouble options metrics ∧ Serialisable metrics
    · obtain ⟨events, hok, hne⟩ := (@collect_emits_iff lib options metrics clock).mpr hemits
      exact Or.inr ((finding_memory_iff hok).mp (h events hok hne))
    · exact Or.inl (not_and.mp hemits)
  · rintro (hquiet | hother) events hok hne
    · obtain ⟨htrouble, hserialisable⟩ := collect_emits_iff.mp ⟨events, hok, hne⟩
      exact absurd hserialisable (hquiet htrouble)
    · exact (finding_memory_iff hok).mpr hother

/-- Half of all tasks stalled on memory, with the default thresholds. -/
def pressureHalf : MemoryMetrics where
  psiSuccess := true
  psiSomeAvg10 := some (.finite 50)

/-- Pressure far above its threshold, and no finding. -/
theorem pressure_not_diagnosed :
    ¬ TroubleDiagnosed CppLib.integral (fun _ => ([], [])) {} (fun _ => 0) pressureHalf [] [] := by
  intro h
  have htrouble : Trouble {} pressureHalf := by
    refine Or.inl ⟨rfl, Or.inl ⟨_, rfl, ?_⟩⟩
    show decide ((10 : ℚ) ≤ 50) = true
    exact decide_eq_true (by norm_num)
  have hserialisable : Serialisable pressureHalf := by
    intro delta hdelta
    cases hdelta
  obtain ⟨events, hok, hne⟩ :=
    (@collect_emits_iff CppLib.integral {} pressureHalf fun _ => 0).mpr ⟨htrouble, hserialisable⟩
  obtain ⟨event, hmem, -⟩ := (finding_memory_iff hok).mp (h events hok hne)
  exact absurd hmem List.not_mem_nil

end MemoryCollector

end Holonight
