import Holonight.Base.Machine
import Holonight.Health.SystemdCollector

/-!
# Flapping units

The collector records a time for a unit at every scan that finds the unit failed, and
reports flapping when the recorded times of the last window reach the threshold. A
restart is something else: a scan at which the unit is failed and was not failed at the
scan before (`newFailures`).

The two agree as long as no reported unit is found failed at two scans in a row. Then
the recorded times are part of the restarts (`FlappingInv`, kept by every such scan), and
each `unit_flapping` event stands for at least `flapping_threshold` restarts within the
window (`flapping_means_restarts`). A unit that fails once and stays failed breaks the
agreement (`long_failure_reported_as_flapping`).
-/

namespace Holonight

namespace SystemdCollector

/-! ## Restarts -/

/-- The scan finds the unit failed. -/
def Scan.failedAt (scan : Scan) (unit : Bytes) : Bool :=
  scan.unitsSeen.any fun info => decide (info.name = unit) && info.failed

/-- The times of the scans at which the unit is failed and was not at the scan before;
`before` tells whether it was before the first of them. -/
def failuresFrom (unit : Bytes) : Bool → List Scan → List TimePoint
  | _, [] => []
  | before, scan :: rest =>
    (if scan.failedAt unit && !before then [scan.now] else [])
      ++ failuresFrom unit (scan.failedAt unit) rest

/-- The restarts of a unit over a list of scans, oldest first. -/
def newFailures (unit : Bytes) (scans : List Scan) : List TimePoint :=
  failuresFrom unit false scans

/-- The unit was failed at the last of the scans. -/
def lastFailed (unit : Bytes) (scans : List Scan) : Bool :=
  scans.getLast?.any fun scan => scan.failedAt unit

theorem failuresFrom_append (unit : Bytes) (before : Bool) (scans : List Scan) (scan : Scan) :
    failuresFrom unit before (scans ++ [scan])
      = failuresFrom unit before scans
        ++ if scan.failedAt unit
            && !(scans.getLast?.elim before fun last => last.failedAt unit) then [scan.now]
          else [] := by
  induction scans generalizing before with
  | nil => simp [failuresFrom]
  | cons first rest ih =>
    -- the scan before the new one is the last of `rest`, or `first` when `rest` is empty
    have hlast : ((first :: rest).getLast?.elim before fun last => last.failedAt unit)
        = rest.getLast?.elim (first.failedAt unit) fun last => last.failedAt unit := by
      cases hrest : rest.getLast? with
      | none => simp [List.getLast?_eq_none_iff.mp hrest]
      | some last => simp [List.getLast?_cons, hrest]
    show _ ++ failuresFrom unit (first.failedAt unit) (rest ++ [scan]) = _
    rw [ih, hlast, ← List.append_assoc]
    rfl

/-- One more scan adds its time when the unit is failed and was not before. -/
theorem newFailures_append (unit : Bytes) (scans : List Scan) (scan : Scan) :
    newFailures unit (scans ++ [scan])
      = newFailures unit scans
        ++ if scan.failedAt unit && !lastFailed unit scans then [scan.now] else [] := by
  unfold newFailures lastFailed
  rw [failuresFrom_append]
  cases scans.getLast? with
  | none => rfl
  | some last => rfl

/-- The restarts that are at most a window older than the scan. -/
def restartsWithin (options : SystemdCollectorOptions) (unit : Bytes) (past : List Scan)
    (scan : Scan) : ℕ :=
  (newFailures unit (past ++ [scan])).countP fun t => decide (scan.now - window options ≤ t)

/-! ## Runs of the collector -/

/-- The collector between two scans, with the scans it has made. -/
structure Memory where
  state : FlappingState
  past : List Scan

/-- A collector that has not scanned yet. -/
def Memory.fresh : Memory := { state := FlappingState.empty, past := [] }

/-- What a scan returned, and the scans before it. -/
structure Report where
  past : List Scan
  scan : Scan
  result : Except Exn (List ObservationEvent)

/-- The collector as a machine that reads scans. -/
def collector (lib : CppLib) (options : SystemdCollectorOptions) : Machine Memory Scan Report where
  step memory scan :=
    let outcome := collect lib options memory.state scan
    ({ state := outcome.1, past := memory.past ++ [scan] },
      [{ past := memory.past, scan := scan, result := outcome.2 }])

/-- The result contains a `unit_flapping` event for the unit. -/
def Report.Flapping (report : Report) (unit : Bytes) : Prop :=
  ∃ events, report.result = .ok events ∧
    ∃ event ∈ events, event.signal = Bytes.ofString "unit_flapping" ∧ event.subject = unit

/-- Every `unit_flapping` event of the report stands for as many restarts in its window
as the threshold says. -/
def Report.Justified (options : SystemdCollectorOptions) (report : Report) : Prop :=
  ∀ unit, report.Flapping unit →
    options.flappingThreshold ≤ restartsWithin options unit report.past report.scan

/-- The scan finds no reported unit failed that was failed at the scan before. -/
def NoLastingFailure (options : SystemdCollectorOptions) (memory : Memory) (scan : Scan) : Prop :=
  ∀ unit ∈ scan.unitsSeen, reported options unit = true →
    lastFailed unit.name memory.past = false

/-! ## What a scan does to the recorded times -/

section Units

variable {lib : CppLib} {options : SystemdCollectorOptions} {now : TimePoint}
  {state : FlappingState} {events : List ObservationEvent}

/-- A reported unit leaves the times of the others alone and gets at most this one. -/
theorem reportUnit_recentStarts (unit : UnitInfo) (state : FlappingState) (name : Bytes) :
    (reportUnit lib options now unit state).1.recentStarts name = state.recentStarts name ∨
    (name = unit.name ∧ (reportUnit lib options now unit state).1.recentStarts name
      = state.recentStarts name ++ [now]) := by
  unfold reportUnit
  cases unitFailedEvent lib now unit with
  | error exn => exact Or.inl rfl
  | ok event =>
    show (state.record unit.name now).recentStarts name = _ ∨
      name = unit.name ∧ (state.record unit.name now).recentStarts name = _
    by_cases hname : name = unit.name
    · subst hname
      exact Or.inr ⟨rfl, recentStarts_record_self _ _ _⟩
    · exact Or.inl (recentStarts_record_of_ne hname)

theorem unitFlappingEvent_fields {name : Bytes} {restartCount : ℤ} {event : ObservationEvent}
    (h : unitFlappingEvent lib options now name restartCount = .ok event) :
    event.signal = Bytes.ofString "unit_flapping" ∧ event.subject = name ∧
      event.value = .string (decimal restartCount) := by
  obtain ⟨attributes, -, heq⟩ := bind_eq_ok.mp h
  cases heq
  exact ⟨rfl, rfl, rfl⟩

/-- The flapping events of a reported unit: one when its times with the new one reach the
threshold. -/
theorem mem_reportUnit_flapping_iff {unit : UnitInfo}
    (h : (reportUnit lib options now unit state).2 = .ok events) {event : ObservationEvent} :
    event ∈ events ∧ event.signal = Bytes.ofString "unit_flapping" ↔
      options.flappingThreshold ≤ toInt32 (state.recentStarts unit.name ++ [now]).length ∧
        unitFlappingEvent lib options now unit.name
          (toInt32 (state.recentStarts unit.name ++ [now]).length) = .ok event := by
  constructor
  · rintro ⟨hmem, hsignal⟩
    rcases mem_reportUnit h hmem with hfailed | hflap
    · obtain ⟨attributes, -, heq⟩ := bind_eq_ok.mp hfailed
      cases heq
      exact absurd (show Bytes.ofString "unit_failed" = _ from hsignal) (by decide)
    · exact hflap
  · rintro ⟨hthreshold, hflap⟩
    refine ⟨?_, (unitFlappingEvent_fields hflap).1⟩
    rw [reportUnit] at h
    cases hfailed : unitFailedEvent lib now unit with
    | error exn =>
      rw [hfailed] at h
      cases h
    | ok failed =>
      rw [hfailed] at h
      simp only [recentStarts_record_self] at h
      rw [if_pos hthreshold, hflap] at h
      cases h
      exact List.mem_cons_of_mem _ List.mem_cons_self

/-- A unit that could be reported has its time recorded. -/
theorem reportUnit_of_ok {unit : UnitInfo}
    (h : (reportUnit lib options now unit state).2 = .ok events) :
    (reportUnit lib options now unit state).1 = state.record unit.name now := by
  rw [reportUnit] at h ⊢
  cases hfailed : unitFailedEvent lib now unit with
  | error exn =>
    rw [hfailed] at h
    cases h
  | ok failed => rfl

/-- Over a whole listing every unit gets at most one time, and only a reported one. -/
theorem collectUnitEvents_recentStarts {units : List UnitInfo}
    (hnodup : (units.map UnitInfo.name).Nodup) (state : FlappingState) (name : Bytes) :
    (collectUnitEvents lib options now units state).1.recentStarts name
        = state.recentStarts name ∨
    ∃ unit ∈ units, unit.name = name ∧ reported options unit = true ∧
      (collectUnitEvents lib options now units state).1.recentStarts name
        = state.recentStarts name ++ [now] := by
  induction units generalizing state with
  | nil => exact Or.inl rfl
  | cons unit rest ih =>
    obtain ⟨hfresh, hnodup'⟩ := List.nodup_cons.mp hnodup
    unfold collectUnitEvents
    split
    · rename_i hreported
      rcases hfirst : reportUnit lib options now unit state with ⟨next, result⟩
      have hstarts := @reportUnit_recentStarts lib options now unit state name
      rw [hfirst] at hstarts
      cases result with
      | error exn =>
        rcases hstarts with h | ⟨hname, h⟩
        · exact Or.inl h
        · exact Or.inr ⟨unit, List.mem_cons_self, hname.symm, hreported, h⟩
      | ok events =>
        simp only at hstarts ⊢
        rcases hstarts with h | ⟨hname, h⟩
        · rcases ih hnodup' next with h' | ⟨other, hother, hname, hrep, h'⟩
          · exact Or.inl (h'.trans h)
          · exact Or.inr ⟨other, List.mem_cons_of_mem _ hother, hname, hrep, by rw [h', h]⟩
        · -- the name occurs only once in the listing
          rcases ih hnodup' next with h' | ⟨other, hother, hname', -, -⟩
          · exact Or.inr ⟨unit, List.mem_cons_self, hname.symm, hreported, h'.trans h⟩
          · refine absurd ?_ hfresh
            rw [← hname, ← hname']
            exact List.mem_map_of_mem hother
    · rcases ih hnodup' state with h | ⟨other, hother, hrest⟩
      · exact Or.inl h
      · exact Or.inr ⟨other, List.mem_cons_of_mem _ hother, hrest⟩

/-- What the loop does at a reported unit when it does not throw. -/
theorem collectUnitEvents_cons_of_ok {unit : UnitInfo} {rest : List UnitInfo}
    (hreported : reported options unit = true)
    (h : (collectUnitEvents lib options now (unit :: rest) state).2 = .ok events) :
    ∃ first later, (reportUnit lib options now unit state).2 = .ok first ∧
      (collectUnitEvents lib options now rest (state.record unit.name now)).2 = .ok later ∧
      events = first ++ later ∧
      (collectUnitEvents lib options now (unit :: rest) state).1
        = (collectUnitEvents lib options now rest (state.record unit.name now)).1 := by
  rw [collectUnitEvents, if_pos hreported] at h ⊢
  rcases hreport : reportUnit lib options now unit state with ⟨next, result⟩
  rw [hreport] at h
  cases result with
  | error exn => cases h
  | ok first =>
    obtain ⟨later, hlater, rfl⟩ := map_eq_ok.mp h
    have hnext := @reportUnit_of_ok lib options now state first unit (by rw [hreport])
    rw [hreport] at hnext
    dsimp only at hnext hlater ⊢
    rw [hnext] at hlater ⊢
    exact ⟨first, later, rfl, hlater, rfl, rfl⟩

/-- What a loop that does not throw leaves and returns: every reported unit has its time, and the
flapping events are those of the reported units that reach the threshold with it. -/
theorem collectUnitEvents_of_ok {units : List UnitInfo}
    (hnodup : (units.map UnitInfo.name).Nodup)
    (h : (collectUnitEvents lib options now units state).2 = .ok events) :
    (∀ unit ∈ units, reported options unit = true →
      (collectUnitEvents lib options now units state).1.recentStarts unit.name
        = state.recentStarts unit.name ++ [now]) ∧
    ∀ event, event ∈ events ∧ event.signal = Bytes.ofString "unit_flapping" ↔
      ∃ unit ∈ units, reported options unit = true ∧
        options.flappingThreshold ≤ toInt32 (state.recentStarts unit.name ++ [now]).length ∧
        unitFlappingEvent lib options now unit.name
          (toInt32 (state.recentStarts unit.name ++ [now]).length) = .ok event := by
  induction units generalizing state events with
  | nil =>
    cases h
    exact ⟨fun unit hmem => absurd hmem List.not_mem_nil, fun event => by simp⟩
  | cons unit rest ih =>
    rw [List.map_cons, List.nodup_cons] at hnodup
    by_cases hreported : reported options unit = true
    · obtain ⟨first, later, hfirst, hlater, rfl, hstate⟩ := collectUnitEvents_cons_of_ok hreported h
      obtain ⟨hstarts, hevents⟩ := ih hnodup.2 hlater
      -- the units after it have other names, and find their times as they were
      have hother : ∀ other ∈ rest, (state.record unit.name now).recentStarts other.name
          = state.recentStarts other.name := by
        intro other hmem
        refine recentStarts_record_of_ne fun heq => hnodup.1 ?_
        rw [← heq]
        exact List.mem_map_of_mem hmem
      rw [hstate]
      refine ⟨List.forall_mem_cons.mpr ⟨fun _ => ?_, fun other hmem hrep => ?_⟩, fun event => ?_⟩
      · rcases @collectUnitEvents_recentStarts lib options now rest hnodup.2
          (state.record unit.name now) unit.name with hsame | ⟨other, hmem, hname, -, -⟩
        · rw [hsame, recentStarts_record_self]
        · exact absurd (hname ▸ List.mem_map_of_mem hmem) hnodup.1
      · rw [← hother other hmem]
        exact hstarts other hmem hrep
      · rw [List.mem_append, or_and_right, mem_reportUnit_flapping_iff hfirst, hevents event,
          List.exists_mem_cons_iff]
        refine or_congr ⟨fun hflap => ⟨hreported, hflap⟩, And.right⟩ ?_
        exact exists_congr fun other => and_congr_right fun hmem => by rw [hother other hmem]
    · rw [collectUnitEvents, if_neg hreported] at h ⊢
      obtain ⟨hstarts, hevents⟩ := ih hnodup.2 h
      refine ⟨List.forall_mem_cons.mpr ⟨fun hrep => absurd hrep hreported, hstarts⟩, fun event => ?_⟩
      rw [hevents event, List.exists_mem_cons_iff]
      exact (or_iff_right fun hfirst => hreported hfirst.1).symm

/-- Coredumps are reported under another signal. -/
theorem signal_of_mem_coredumps {journal : Option (List JournalEntry)}
    {events : List ObservationEvent}
    (h : collectCoredumpEvents lib options now journal = .ok events) {event : ObservationEvent}
    (hevent : event ∈ events) : event.signal = Bytes.ofString "coredump" := by
  obtain ⟨entry, hbuilt⟩ := mem_collectCoredumpEvents h hevent
  obtain ⟨attributes, -, heq⟩ := bind_eq_ok.mp hbuilt
  rw [← Except.ok.inj heq]

end Units

/-! ## One scan -/

section Step

variable {lib : CppLib} {options : SystemdCollectorOptions} {state : FlappingState}
  {events : List ObservationEvent} {scan : Scan}

/-- A scan prunes the times of a unit and adds at most its own, for a reported unit. -/
theorem collect_recentStarts (name : Bytes) :
    (collect lib options state scan).1.recentStarts name
        = (pruneOldTimestamps options scan.now state).recentStarts name ∨
    ∃ unit ∈ scan.unitsSeen, unit.name = name ∧ reported options unit = true ∧
      (collect lib options state scan).1.recentStarts name
        = (pruneOldTimestamps options scan.now state).recentStarts name ++ [scan.now] := by
  unfold collect Scan.unitsSeen
  cases scan.bus with
  | unavailable => exact Or.inl rfl
  | callFailed => exact Or.inl rfl
  | units listing =>
    have hstarts := @collectUnitEvents_recentStarts lib options scan.now listing.units listing.nodup
      (pruneOldTimestamps options scan.now state) name
    rcases hunits : collectUnitEvents lib options scan.now listing.units
      (pruneOldTimestamps options scan.now state) with ⟨next, result⟩
    rw [hunits] at hstarts
    simp only [hunits]
    cases result with
    | error exn => exact hstarts
    | ok events => exact hstarts

/-- What a scan that does not throw leaves and returns. -/
theorem collect_of_ok (h : (collect lib options state scan).2 = .ok events) :
    (∀ unit ∈ scan.unitsSeen, reported options unit = true →
      (collect lib options state scan).1.recentStarts unit.name
        = (pruneOldTimestamps options scan.now state).recentStarts unit.name ++ [scan.now]) ∧
    ∀ event, event ∈ events ∧ event.signal = Bytes.ofString "unit_flapping" ↔
      ∃ unit ∈ scan.unitsSeen, reported options unit = true ∧
        options.flappingThreshold ≤ toInt32 ((pruneOldTimestamps options scan.now
          state).recentStarts unit.name ++ [scan.now]).length ∧
        unitFlappingEvent lib options scan.now unit.name (toInt32 ((pruneOldTimestamps options
          scan.now state).recentStarts unit.name ++ [scan.now]).length) = .ok event := by
  rw [collect, Scan.unitsSeen] at *
  cases hbus : scan.bus with
  | unavailable =>
    rw [hbus] at h
    cases h
    exact ⟨fun unit hmem => absurd hmem List.not_mem_nil, fun event => by simp⟩
  | callFailed =>
    rw [hbus] at h
    refine ⟨fun unit hmem => absurd hmem List.not_mem_nil, fun event => ?_⟩
    have hnone : ¬(event ∈ events ∧ event.signal = Bytes.ofString "unit_flapping") := by
      rintro ⟨hmem, hsignal⟩
      have hother := signal_of_mem_coredumps h hmem
      rw [hsignal] at hother
      exact absurd hother (by decide)
    exact iff_of_false hnone (by simp)
  | units listing =>
    rw [hbus] at h
    dsimp only at h ⊢
    rcases hunits : collectUnitEvents lib options scan.now listing.units
      (pruneOldTimestamps options scan.now state) with ⟨next, result⟩
    rw [hunits] at h
    cases result with
    | error exn => cases h
    | ok first =>
      obtain ⟨later, hlater, rfl⟩ := map_eq_ok.mp h
      obtain ⟨hstarts, hevents⟩ :=
        @collectUnitEvents_of_ok lib options scan.now _ first listing.units listing.nodup
          (by rw [hunits])
      rw [hunits] at hstarts
      refine ⟨hstarts, fun event => ?_⟩
      rw [← hevents event, List.mem_append, or_and_right]
      refine or_iff_left ?_
      -- coredumps have another signal
      rintro ⟨hmem, hsignal⟩
      have hother := signal_of_mem_coredumps hlater hmem
      rw [hsignal] at hother
      exact absurd hother (by decide)

/-- A `unit_flapping` event is for a reported unit whose pruned times, with the time of
the scan, reach the threshold. -/
theorem collect_flapping (h : (collect lib options state scan).2 = .ok events)
    {event : ObservationEvent} (hevent : event ∈ events)
    (hsignal : event.signal = Bytes.ofString "unit_flapping") :
    ∃ unit ∈ scan.unitsSeen, reported options unit = true ∧ event.subject = unit.name ∧
      options.flappingThreshold ≤ toInt32
        ((pruneOldTimestamps options scan.now state).recentStarts unit.name
          ++ [scan.now]).length := by
  obtain ⟨unit, hseen, hreported, hthreshold, hflap⟩ :=
    ((collect_of_ok h).2 event).mp ⟨hevent, hsignal⟩
  exact ⟨unit, hseen, hreported, (unitFlappingEvent_fields hflap).2.1, hthreshold⟩

end Step

/-! ## Whole runs -/

section Runs

variable {lib : CppLib} {options : SystemdCollectorOptions}

/-- The recorded times are restarts, and every report so far is justified. -/
structure FlappingInv (options : SystemdCollectorOptions) (log : List Report) (memory : Memory) :
    Prop where
  starts : ∀ unit, (memory.state.recentStarts unit).Sublist (newFailures unit memory.past)
  justified : ∀ report ∈ log, report.Justified options

/-- A reported unit that was not failed before adds a restart. -/
theorem newFailures_of_reported {memory : Memory} {scan : Scan}
    (hgood : NoLastingFailure options memory scan) {unit : UnitInfo}
    (hseen : unit ∈ scan.unitsSeen) (hreported : reported options unit = true) :
    newFailures unit.name (memory.past ++ [scan])
      = newFailures unit.name memory.past ++ [scan.now] := by
  have hfailed : scan.failedAt unit.name = true := by
    unfold Scan.failedAt
    rw [List.any_eq_true]
    refine ⟨unit, hseen, ?_⟩
    unfold reported at hreported
    rw [Bool.and_eq_true] at hreported
    rw [hreported.2, decide_eq_true rfl]
    rfl
  rw [newFailures_append, hfailed, hgood unit hseen hreported]
  rfl

/-- The pruned times of a unit are still restarts. -/
theorem pruned_sublist {memory : Memory}
    (hstarts : ∀ unit, (memory.state.recentStarts unit).Sublist (newFailures unit memory.past))
    (now : TimePoint) (unit : Bytes) :
    ((pruneOldTimestamps options now memory.state).recentStarts unit).Sublist
      (newFailures unit memory.past) :=
  List.filter_sublist.trans (hstarts unit)

/-- A scan that meets the condition is justified. -/
theorem justified_of_noLastingFailure (hwindow : 0 ≤ window options) {memory : Memory}
    (hstarts : ∀ unit, (memory.state.recentStarts unit).Sublist (newFailures unit memory.past))
    {scan : Scan} (hgood : NoLastingFailure options memory scan) :
    Report.Justified options
      { past := memory.past, scan := scan, result := (collect lib options memory.state scan).2 } := by
  rintro name ⟨events, hok, event, hevent, hsignal, rfl⟩
  obtain ⟨unit, hseen, hreported, hsubject, hthreshold⟩ := collect_flapping hok hevent hsignal
  rw [hsubject]
  -- every time that was counted is a restart inside the window
  have hsub : ((pruneOldTimestamps options scan.now memory.state).recentStarts unit.name
      ++ [scan.now]).Sublist (newFailures unit.name (memory.past ++ [scan])) := by
    rw [newFailures_of_reported hgood hseen hreported]
    exact (pruned_sublist hstarts scan.now unit.name).append (List.Sublist.refl _)
  have hinside : ∀ t ∈ (pruneOldTimestamps options scan.now memory.state).recentStarts unit.name
      ++ [scan.now], decide (scan.now - window options ≤ t) = true := by
    intro t ht
    rw [decide_eq_true_iff]
    rcases List.mem_append.mp ht with ht | ht
    · have hkept := (List.mem_filter.mp ht).2
      rw [Bool.not_eq_true', decide_eq_false_iff_not, not_lt] at hkept
      exact hkept
    · rw [List.mem_singleton.mp ht]
      exact sub_le_self _ hwindow
  calc options.flappingThreshold
      ≤ toInt32 ((pruneOldTimestamps options scan.now memory.state).recentStarts unit.name
          ++ [scan.now]).length := hthreshold
    _ ≤ ((pruneOldTimestamps options scan.now memory.state).recentStarts unit.name
          ++ [scan.now]).length := toInt32_natCast_le _
    _ ≤ restartsWithin options unit.name memory.past scan := by
      rw [← List.countP_eq_length.mpr hinside]
      exact_mod_cast hsub.countP_le

/-- Every scan that meets the condition keeps the invariant. -/
theorem flappingInv_step (hwindow : 0 ≤ window options) (log : List Report) (memory : Memory)
    (scan : Scan) (hinv : FlappingInv options log memory)
    (hgood : NoLastingFailure options memory scan) :
    FlappingInv options (log ++ ((collector lib options).step memory scan).2)
      ((collector lib options).step memory scan).1 := by
  refine ⟨fun name => ?_, fun report hreport => ?_⟩
  · show ((collect lib options memory.state scan).1.recentStarts name).Sublist
      (newFailures name (memory.past ++ [scan]))
    have hkept := @pruned_sublist options memory hinv.starts scan.now name
    rcases @collect_recentStarts lib options memory.state scan name with h | h
    · rw [h, newFailures_append]
      exact hkept.trans (List.sublist_append_left _ _)
    · obtain ⟨unit, hseen, rfl, hreported, h⟩ := h
      rw [h, newFailures_of_reported hgood hseen hreported]
      exact hkept.append (List.Sublist.refl _)
  · rcases List.mem_append.mp hreport with hold | hnew
    · exact hinv.justified report hold
    · rw [List.mem_singleton.mp hnew]
      exact justified_of_noLastingFailure hwindow hinv.starts hgood

/-- **Flapping means restarts**: in every run in which no reported unit is found failed at
two scans in a row, each `unit_flapping` event stands for at least `flapping_threshold`
restarts of its unit within the window. -/
theorem flapping_means_restarts (lib : CppLib) (options : SystemdCollectorOptions)
    (scans : List Scan)
    (hgood : (collector lib (construct options)).AllSteps (NoLastingFailure (construct options))
      Memory.fresh scans) :
    ∀ report ∈ ((collector lib (construct options)).run Memory.fresh scans).2,
      report.Justified (construct options) := by
  have hinit : FlappingInv (construct options) [] Memory.fresh :=
    ⟨fun _ => List.Sublist.refl _, fun _ h => absurd h List.not_mem_nil⟩
  have hrun := Machine.run_induction (collector lib (construct options))
    (flappingInv_step (window_construct_nonneg options)) hinit hgood
  rw [List.nil_append] at hrun
  exact hrun.justified

/-- A scan of one unit in the given state, at a number of seconds. -/
def nginxScan (seconds : ℤ) (activeState : Bytes) : Scan where
  now := seconds * nanosPerSecond
  bus := .units
    { units := [{ name := "nginx.service", loadState := "loaded", activeState := activeState,
                  subState := "dead" }]
      nodup := List.nodup_singleton _ }

/-- Whether a result has a `unit_flapping` event for the unit. -/
def flappingIn (unit : Bytes) : Except Exn (List ObservationEvent) → Bool
  | .ok events => events.any fun event =>
      decide (event.signal = Bytes.ofString "unit_flapping") && decide (event.subject = unit)
  | .error _ => false

theorem flapping_of_flappingIn {report : Report} {unit : Bytes}
    (h : flappingIn unit report.result = true) : report.Flapping unit := by
  unfold flappingIn at h
  split at h
  · rename_i events hok
    obtain ⟨event, hmem, hevent⟩ := List.any_eq_true.mp h
    rw [Bool.and_eq_true, decide_eq_true_iff, decide_eq_true_iff] at hevent
    exact ⟨events, hok, event, hmem, hevent⟩
  · cases h

/-- A unit that fails three times within two minutes and recovers in between. -/
def restarting : List Scan :=
  [ nginxScan 1000 "failed", nginxScan 1030 "active", nginxScan 1060 "failed",
    nginxScan 1090 "active", nginxScan 1120 "failed" ]

/-- The restarting unit is reported as flapping at the last scan, rightly. -/
theorem restarting_flaps_rightly :
    flappingIn "nginx.service" (collect CppLib.integral (construct {})
        ((collector CppLib.integral (construct {})).run Memory.fresh
          (restarting.take 4)).1.state (nginxScan 1120 "failed")).2 = true ∧
      ∀ report ∈ ((collector CppLib.integral (construct {})).run Memory.fresh restarting).2,
        report.Justified (construct {}) := by
  refine ⟨by decide +kernel, flapping_means_restarts _ _ _ ?_⟩
  refine ⟨?_, ?_, ?_, ?_, ?_, trivial⟩
  all_goals
    intro unit hseen
    rw [List.mem_singleton.mp hseen]
    decide +kernel

/-- **One long failure**: failed at three scans in a row, a minute apart, the unit is
reported as flapping under the default options, with one restart in the window. -/
theorem long_failure_reported_as_flapping :
    ¬ ∀ report ∈ ((collector CppLib.integral (construct {})).run Memory.fresh
        [ nginxScan 1000 "failed", nginxScan 1060 "failed", nginxScan 1120 "failed" ]).2,
      report.Justified (construct {}) := by
  intro h
  have hthird := h _ (List.mem_cons_of_mem _ (List.mem_cons_of_mem _ List.mem_cons_self))
    "nginx.service" (flapping_of_flappingIn (by decide +kernel))
  revert hthird
  decide +kernel

end Runs

end SystemdCollector

end Holonight
