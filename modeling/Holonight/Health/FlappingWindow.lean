import Holonight.Base.JsonLibrary
import Holonight.Base.UnorderedMap
import Holonight.Health.Coredumps
import Holonight.Health.Flapping

/-!
# The window of recorded times (`SystemdCollector.cpp`)

`flapping_state_` is a map from unit names to lists of times. Every scan first drops the times older
than the window, and the entries that have none left, and then adds its own time to the units it
reports. The model of `SystemdCollector.lean` reads the map as a function (`Recorder.times_abs`
connects the two); here it has entries.

Dropping times scan by scan loses nothing as long as the times of the scans do not decrease: **what
is kept is the part of everything ever recorded that lies in the window** (`window_exact`). The
events are exact as long as no scan with a flapping unit throws: a coredump entry whose text is not
UTF-8 takes the `unit_flapping` events of its scan with it (`flapping_lost_to_coredump`).
-/

namespace Holonight

namespace SystemdCollector

/-! ## The code, with the entries of the map -/

/-- `flapping_state_`, and everything that was ever recorded, in order. Nothing reads the latter. -/
structure Recorder where
  table : UnorderedMap Bytes (List TimePoint)
  history : List (Bytes × TimePoint)

namespace Recorder

/-- A collector that has not scanned yet. -/
def fresh : Recorder := { table := .empty, history := [] }

/-- `flapping_state_[name].recent_starts`; `operator[]` creates an empty entry. -/
def starts (recorder : Recorder) (name : Bytes) : List TimePoint :=
  (recorder.table.find name).getD []

/-- The times ever recorded for a unit. -/
def times (recorder : Recorder) (name : Bytes) : List TimePoint :=
  (recorder.history.filter fun entry => decide (entry.1 = name)).map Prod.snd

/-- `flapping_state_[name].recent_starts.push_back(now)` (SystemdCollector.cpp:176). -/
def record (recorder : Recorder) (name : Bytes) (now : TimePoint) : Recorder where
  table := recorder.table.insertOrAssign name (recorder.starts name ++ [now])
  history := recorder.history ++ [(name, now)]

/-- `pruneOldTimestamps` (SystemdCollector.cpp:70–83). -/
def prune (options : SystemdCollectorOptions) (now : TimePoint) (recorder : Recorder) : Recorder :=
  let cutoff := now - window options
  { recorder with
    table := recorder.table.filterMapValues fun starts =>
      let kept := starts.filter fun timepoint => !decide (timepoint < cutoff)
      if kept = [] then none else some kept }

/-- One reported unit (SystemdCollector.cpp:157–194). -/
def reportUnit (lib : CppLib) (options : SystemdCollectorOptions) (now : TimePoint)
    (unit : UnitInfo) (recorder : Recorder) : Recorder × Except Exn (List ObservationEvent) :=
  match unitFailedEvent lib now unit with
  | .error exn => (recorder, .error exn)
  | .ok event =>
    let next := recorder.record unit.name now
    let restartCount := toInt32 (next.starts unit.name).length
    (next,
      if options.flappingThreshold ≤ restartCount then
        (unitFlappingEvent lib options now unit.name restartCount).map fun flap => [event, flap]
      else .ok [event])

/-- The loop of `collectUnitEvents` (SystemdCollector.cpp:132–200). -/
def collectUnitEvents (lib : CppLib) (options : SystemdCollectorOptions) (now : TimePoint) :
    List UnitInfo → Recorder → Recorder × Except Exn (List ObservationEvent)
  | [], recorder => (recorder, .ok [])
  | unit :: rest, recorder =>
    if reported options unit then
      match reportUnit lib options now unit recorder with
      | (next, .error exn) => (next, .error exn)
      | (next, .ok events) =>
        let later := collectUnitEvents lib options now rest next
        (later.1, later.2.map (events ++ ·))
    else collectUnitEvents lib options now rest recorder

/-- `SystemdCollector::collect` (SystemdCollector.cpp:85–109). -/
def collect (lib : CppLib) (options : SystemdCollectorOptions) (recorder : Recorder) (scan : Scan) :
    Recorder × Except Exn (List ObservationEvent) :=
  let pruned := recorder.prune options scan.now
  match scan.bus with
  | .unavailable => (pruned, .ok [])
  | .callFailed => (pruned, collectCoredumpEvents lib options scan.now scan.journal)
  | .units listing =>
    match collectUnitEvents lib options scan.now listing.units pruned with
    | (next, .error exn) => (next, .error exn)
    | (next, .ok events) =>
      (next, (collectCoredumpEvents lib options scan.now scan.journal).map (events ++ ·))

/-! ## The map as a function -/

/-- The lists of the map, empty where there is no entry. -/
def abs (recorder : Recorder) : FlappingState := ⟨recorder.starts⟩

section Simulation

variable {lib : CppLib} {options : SystemdCollectorOptions} {now : TimePoint}
  {recorder : Recorder}

theorem abs_record (name : Bytes) : (recorder.record name now).abs = recorder.abs.record name now := by
  rw [abs, FlappingState.record]
  congr 1
  funext unit
  by_cases h : unit = name
  · rw [if_pos h, h, starts, record, UnorderedMap.find_insertOrAssign_self]
    rfl
  · rw [if_neg h, starts, record, UnorderedMap.find_insertOrAssign_of_ne h]
    rfl

/-- After the prune a unit has an entry exactly when times of it are left. -/
theorem find_prune (name : Bytes) :
    (recorder.prune options now).table.find name
      = if (pruneOldTimestamps options now recorder.abs).recentStarts name = [] then none
        else some ((pruneOldTimestamps options now recorder.abs).recentStarts name) := by
  show (recorder.table.filterMapValues _).find name = _
  rw [UnorderedMap.find_filterMapValues]
  show _ = if List.filter _ (recorder.starts name) = [] then none
    else some (List.filter _ (recorder.starts name))
  rw [starts]
  cases recorder.table.find name with
  | none => rfl
  | some starts => rfl

theorem abs_prune : (recorder.prune options now).abs = pruneOldTimestamps options now recorder.abs := by
  rw [abs]
  show FlappingState.mk _ = FlappingState.mk _
  congr 1
  funext unit
  rw [starts, find_prune]
  split
  case isTrue h => exact h.symm
  case isFalse => rfl

/-- The reading of the map as a function commutes with reporting a unit. -/
theorem abs_reportUnit (unit : UnitInfo) :
    (SystemdCollector.reportUnit lib options now unit recorder.abs)
      = ((recorder.reportUnit lib options now unit).1.abs,
          (recorder.reportUnit lib options now unit).2) := by
  rw [SystemdCollector.reportUnit, reportUnit]
  cases unitFailedEvent lib now unit with
  | error exn => rfl
  | ok event =>
    dsimp only
    rw [← abs_record]
    rfl

theorem abs_collectUnitEvents (units : List UnitInfo) :
    (SystemdCollector.collectUnitEvents lib options now units recorder.abs)
      = ((recorder.collectUnitEvents lib options now units).1.abs,
          (recorder.collectUnitEvents lib options now units).2) := by
  induction units generalizing recorder with
  | nil => rfl
  | cons unit rest ih =>
    rw [SystemdCollector.collectUnitEvents, collectUnitEvents]
    split
    case isFalse => exact ih
    case isTrue =>
      rw [abs_reportUnit]
      rcases recorder.reportUnit lib options now unit with ⟨next, result⟩
      cases result with
      | error exn => rfl
      | ok events =>
        dsimp only
        rw [ih]

/-- **The map and the function agree**: a scan has the same events, and leaves maps that read as
the same function. -/
theorem abs_collect (scan : Scan) :
    (SystemdCollector.collect lib options recorder.abs scan)
      = ((recorder.collect lib options scan).1.abs, (recorder.collect lib options scan).2) := by
  rw [SystemdCollector.collect, collect]
  cases scan.bus with
  | unavailable => rw [abs_prune]
  | callFailed => rw [abs_prune]
  | units listing =>
    dsimp only
    rw [← abs_prune, abs_collectUnitEvents]
    rcases (recorder.prune options scan.now).collectUnitEvents lib options scan.now listing.units
      with ⟨next, result⟩
    cases result with
    | error exn => rfl
    | ok events => rfl

end Simulation

/-! ## What is kept, against what was ever recorded -/

/-- Every unit has the same number of new times in both records, all of them this one. -/
def Appends (now : TimePoint) (before after : Recorder) : Prop :=
  ∀ name, ∃ k, after.starts name = before.starts name ++ List.replicate k now ∧
    after.times name = before.times name ++ List.replicate k now

/-- The kept times of every unit are those ever recorded from the cutoff on. -/
def Keeps (cutoff : TimePoint) (recorder : Recorder) : Prop :=
  ∀ name, recorder.starts name
    = (recorder.times name).filter fun timepoint => decide (cutoff ≤ timepoint)

section History

variable {lib : CppLib} {options : SystemdCollectorOptions} {now cutoff : TimePoint}
  {before after recorder : Recorder}

theorem Appends.refl (now : TimePoint) (recorder : Recorder) : Appends now recorder recorder :=
  fun _ => ⟨0, (List.append_nil _).symm, (List.append_nil _).symm⟩

theorem Appends.trans {last : Recorder} (h : Appends now before after) (h' : Appends now after last) :
    Appends now before last := by
  intro name
  obtain ⟨k, hstarts, htimes⟩ := h name
  obtain ⟨l, hstarts', htimes'⟩ := h' name
  refine ⟨k + l, ?_, ?_⟩
  · rw [hstarts', hstarts, List.append_assoc, List.replicate_append_replicate]
  · rw [htimes', htimes, List.append_assoc, List.replicate_append_replicate]

theorem appends_record (recorder : Recorder) (name : Bytes) (now : TimePoint) :
    Appends now recorder (recorder.record name now) := by
  intro unit
  by_cases h : name = unit
  · subst h
    refine ⟨1, ?_, ?_⟩
    · rw [starts, record, UnorderedMap.find_insertOrAssign_self]
      rfl
    · simp [times, record]
  · refine ⟨0, ?_, ?_⟩
    · rw [starts, record, UnorderedMap.find_insertOrAssign_of_ne (Ne.symm h)]
      exact (List.append_nil _).symm
    · simp [times, record, h]

theorem appends_reportUnit (unit : UnitInfo) (recorder : Recorder) :
    Appends now recorder (recorder.reportUnit lib options now unit).1 := by
  rw [reportUnit]
  cases unitFailedEvent lib now unit with
  | error exn => exact Appends.refl now recorder
  | ok event => exact appends_record recorder unit.name now

theorem appends_collectUnitEvents (units : List UnitInfo) (recorder : Recorder) :
    Appends now recorder (recorder.collectUnitEvents lib options now units).1 := by
  induction units generalizing recorder with
  | nil => exact Appends.refl now recorder
  | cons unit rest ih =>
    rw [collectUnitEvents]
    split
    case isFalse => exact ih recorder
    case isTrue =>
      have hfirst := @appends_reportUnit lib options now unit recorder
      rcases hreport : recorder.reportUnit lib options now unit with ⟨next, result⟩
      rw [hreport] at hfirst
      cases result with
      | error exn => exact hfirst
      | ok events => exact hfirst.trans (ih next)

/-- A scan adds its own time to what the prune has left. -/
theorem appends_collect (scan : Scan) :
    Appends scan.now (recorder.prune options scan.now) (recorder.collect lib options scan).1 := by
  rw [collect]
  cases scan.bus with
  | unavailable => exact Appends.refl _ _
  | callFailed => exact Appends.refl _ _
  | units listing =>
    have hunits := @appends_collectUnitEvents lib options scan.now listing.units
      (recorder.prune options scan.now)
    dsimp only
    rcases hlisting : (recorder.prune options scan.now).collectUnitEvents lib options scan.now
      listing.units with ⟨next, result⟩
    rw [hlisting] at hunits
    cases result with
    | error exn => exact hunits
    | ok events => exact hunits

/-- New times inside the window are kept. -/
theorem Keeps.of_appends (h : Keeps cutoff before) (happends : Appends now before after)
    (hnow : cutoff ≤ now) : Keeps cutoff after := by
  intro name
  obtain ⟨k, hstarts, htimes⟩ := happends name
  have hnew : (List.replicate k now).filter (fun timepoint => decide (cutoff ≤ timepoint))
      = List.replicate k now :=
    List.filter_eq_self.mpr fun t ht => decide_eq_true (by rwa [(List.mem_replicate.mp ht).2])
  rw [hstarts, htimes, List.filter_append, hnew, h name]

/-- **Pruning twice is pruning once**: what an earlier cutoff has dropped is before every later
one. -/
theorem Keeps.prune (h : Keeps cutoff recorder) (hcutoff : cutoff ≤ now - window options) :
    Keeps (now - window options) (recorder.prune options now) := by
  intro name
  have hstarts : (recorder.prune options now).starts name
      = (recorder.starts name).filter fun timepoint =>
          decide (now - window options ≤ timepoint) := by
    have habs := congrArg (fun state => state.recentStarts name)
      (@abs_prune options now recorder)
    refine habs.trans (List.filter_congr fun t _ => ?_)
    rw [Bool.eq_iff_iff, Bool.not_eq_true', decide_eq_false_iff_not, not_lt, decide_eq_true_iff]
  rw [hstarts, h name, List.filter_filter]
  refine List.filter_congr fun t _ => ?_
  rw [← Bool.decide_and]
  exact decide_eq_decide.mpr ⟨And.left, fun hle => ⟨hle, hcutoff.trans hle⟩⟩

theorem keeps_fresh (cutoff : TimePoint) : Keeps cutoff fresh := fun _ => rfl

end History

end Recorder

/-! ## Scans that do not throw -/

section Events

variable {lib : CppLib} {options : SystemdCollectorOptions} {now : TimePoint}

/-- The `unit_flapping` event has numbers only, so that it can always be built. -/
theorem unitFlappingEvent_eq_ok (lib : CppLib) (options : SystemdCollectorOptions) (now : TimePoint)
    (name : Bytes) (restartCount : ℤ) :
    ∃ event, unitFlappingEvent lib options now name restartCount = .ok event := by
  have hutf8 : (Json.object [("restart_count", .int restartCount),
      ("flapping_window_seconds", .int options.flappingWindowSeconds)]).utf8 = true :=
    Json.utf8_object (by simp only [List.forall_mem_cons]; exact ⟨⟨rfl, rfl⟩, ⟨rfl, rfl⟩, by simp⟩)
  obtain ⟨attributes, hattributes⟩ := Json.dump_eq_ok lib.jsonNumber hutf8
  exact ⟨_, bind_eq_ok.mpr ⟨attributes, hattributes, rfl⟩⟩

theorem unitFailedEvent_eq_ok {unit : UnitInfo} (hactive : validUtf8 unit.activeState = true)
    (hsub : validUtf8 unit.subState = true) (hload : validUtf8 unit.loadState = true) :
    ∃ event, unitFailedEvent lib now unit = .ok event := by
  have hutf8 : (Json.object [("active_state", .str unit.activeState),
      ("sub_state", .str unit.subState), ("load_state", .str unit.loadState)]).utf8 = true :=
    Json.utf8_object (by
      simp only [List.forall_mem_cons]
      exact ⟨⟨rfl, hactive⟩, ⟨rfl, hsub⟩, ⟨rfl, hload⟩, by simp⟩)
  obtain ⟨attributes, hattributes⟩ := Json.dump_eq_ok lib.jsonNumber hutf8
  exact ⟨_, bind_eq_ok.mpr ⟨attributes, hattributes, rfl⟩⟩

/-- The texts of the unit are UTF-8, as the bus guarantees. -/
structure UnitInfo.Utf8 (unit : UnitInfo) : Prop where
  activeState : validUtf8 unit.activeState = true
  subState : validUtf8 unit.subState = true
  loadState : validUtf8 unit.loadState = true

theorem reportUnit_eq_ok {unit : UnitInfo} (h : unit.Utf8) (state : FlappingState) :
    ∃ events, (reportUnit lib options now unit state).2 = .ok events := by
  obtain ⟨failed, hfailed⟩ :=
    @unitFailedEvent_eq_ok lib now unit h.activeState h.subState h.loadState
  obtain ⟨flap, hflap⟩ := unitFlappingEvent_eq_ok lib options now unit.name
    (toInt32 ((state.record unit.name now).recentStarts unit.name).length)
  rw [reportUnit, hfailed]
  dsimp only
  rw [hflap]
  split
  · exact ⟨_, rfl⟩
  · exact ⟨_, rfl⟩

/-- The loop over a listing with UTF-8 texts does not throw. -/
theorem collectUnitEvents_eq_ok {units : List UnitInfo}
    (h : ∀ unit ∈ units, reported options unit = true → unit.Utf8) (state : FlappingState) :
    ∃ events, (collectUnitEvents lib options now units state).2 = .ok events := by
  induction units generalizing state with
  | nil => exact ⟨[], rfl⟩
  | cons unit rest ih =>
    rw [List.forall_mem_cons] at h
    rw [collectUnitEvents]
    split
    case isFalse => exact ih h.2 state
    case isTrue hreported =>
      obtain ⟨first, hfirst⟩ := @reportUnit_eq_ok lib options now unit (h.1 hreported) state
      rcases hreport : reportUnit lib options now unit state with ⟨next, result⟩
      rw [hreport] at hfirst
      cases hfirst
      obtain ⟨later, hlater⟩ := ih h.2 next
      exact ⟨first ++ later, map_eq_ok.mpr ⟨later, hlater, rfl⟩⟩

/-- Every text that a scan serialises is UTF-8: those of the reported units, and those of the
coredump entries it visits. -/
structure ScanReadable (options : SystemdCollectorOptions) (scan : Scan) : Prop where
  units : ∀ unit ∈ scan.unitsSeen, reported options unit = true → unit.Utf8
  journal : ∀ entries, scan.journal = some entries →
    Readable options (entries.filter fun entry =>
      decide (cutoffUs options scan.now ≤ entry.realtimeUs))

theorem collectCoredumpEvents_eq_ok {scan : Scan} (h : ScanReadable options scan) :
    ∃ events, collectCoredumpEvents lib options scan.now scan.journal = .ok events := by
  cases hjournal : scan.journal with
  | none => exact ⟨[], rfl⟩
  | some entries =>
    obtain ⟨tagged, htagged, -⟩ :=
      @coredumpsOf_readable lib options scan.now _ (h.journal entries hjournal)
    exact ⟨_, map_eq_ok.mpr ⟨tagged, htagged, rfl⟩⟩

/-- A readable scan does not throw. -/
theorem collect_eq_ok {scan : Scan} (h : ScanReadable options scan) (state : FlappingState) :
    ∃ events, (collect lib options state scan).2 = .ok events := by
  obtain ⟨later, hlater⟩ := @collectCoredumpEvents_eq_ok lib options scan h
  have hunits := h.units
  rw [Scan.unitsSeen] at hunits
  rw [collect]
  cases hbus : scan.bus with
  | unavailable => exact ⟨[], rfl⟩
  | callFailed => exact ⟨later, hlater⟩
  | units listing =>
    rw [hbus] at hunits
    obtain ⟨first, hfirst⟩ := @collectUnitEvents_eq_ok lib options scan.now listing.units hunits
      (pruneOldTimestamps options scan.now state)
    dsimp only
    rcases hlisting : collectUnitEvents lib options scan.now listing.units
      (pruneOldTimestamps options scan.now state) with ⟨next, result⟩
    rw [hlisting] at hfirst
    cases hfirst
    exact ⟨first ++ later, map_eq_ok.mpr ⟨later, hlater, rfl⟩⟩

end Events

/-! ## Whole runs -/

/-- What a scan did: the map after its prune and at its end, and the result. -/
structure WindowReport where
  scan : Scan
  pruned : Recorder
  after : Recorder
  result : Except Exn (List ObservationEvent)

/-- The collector between two scans, with the scans it has made. -/
structure WindowMemory where
  recorder : Recorder
  past : List Scan

def WindowMemory.fresh : WindowMemory := { recorder := .fresh, past := [] }

/-- The collector as a machine that reads scans. -/
def windowCollector (lib : CppLib) (options : SystemdCollectorOptions) :
    Machine WindowMemory Scan WindowReport where
  step memory scan :=
    let outcome := memory.recorder.collect lib options scan
    ({ recorder := outcome.1, past := memory.past ++ [scan] },
      [{ scan := scan
         pruned := memory.recorder.prune options scan.now
         after := outcome.1
         result := outcome.2 }])

/-- The times ever recorded for a unit, this scan included, that are not older than the window. -/
def WindowReport.recent (options : SystemdCollectorOptions) (report : WindowReport) (name : Bytes) :
    List TimePoint :=
  (report.after.times name).filter fun timepoint =>
    decide (report.scan.now - window options ≤ timepoint)

/-- The scan returned the event, and it is a `unit_flapping` event. -/
def WindowReport.Flapped (report : WindowReport) (event : ObservationEvent) : Prop :=
  ∃ events, report.result = .ok events ∧ event ∈ events ∧
    event.signal = Bytes.ofString "unit_flapping"

/-- The map is the window of the history, and the events are those of the flapping units. -/
structure WindowReport.Exact (options : SystemdCollectorOptions) (report : WindowReport) : Prop where
  kept : ∀ name, report.after.starts name = report.recent options name
  noEntry : ∀ name, ((report.pruned.times name).filter fun timepoint =>
      decide (report.scan.now - window options ≤ timepoint)) = [] →
    report.pruned.table.find name = none
  flapping : ∀ name, (∃ event, report.Flapped event ∧ event.subject = name) ↔
    isUnitIgnored options name = false ∧ report.scan.failedAt name = true ∧
      options.flappingThreshold ≤ (report.recent options name).length
  carries : ∀ event, report.Flapped event →
    event.value = .string (decimal (report.recent options event.subject).length)

/-- The number of times a reported unit has when the scan records its own. -/
def countAt (options : SystemdCollectorOptions) (memory : WindowMemory) (scan : Scan)
    (name : Bytes) : ℕ :=
  ((memory.recorder.prune options scan.now).starts name).length + 1

/-- The counts are values of `int`, and when a unit is flapping the scan does not throw. -/
structure WindowGood (options : SystemdCollectorOptions) (memory : WindowMemory) (scan : Scan) :
    Prop where
  counted : ∀ unit ∈ scan.unitsSeen, reported options unit = true →
    countAt options memory scan unit.name < 2 ^ 31
  readable : (∃ unit ∈ scan.unitsSeen, reported options unit = true ∧
      options.flappingThreshold ≤ countAt options memory scan unit.name) →
    ScanReadable options scan

/-- Between two scans the map is the window of the last one; before the first it is that of every
window. -/
def WindowKept (options : SystemdCollectorOptions) (memory : WindowMemory) : Prop :=
  ∀ cutoff, (∀ last ∈ memory.past.getLast?, cutoff = last.now - window options) →
    memory.recorder.Keeps cutoff

section Step

variable {lib : CppLib} {options : SystemdCollectorOptions} {memory : WindowMemory} {scan : Scan}

/-- A unit that is not ignored and is failed is a reported one. -/
theorem exists_reported_iff {name : Bytes} :
    (∃ unit ∈ scan.unitsSeen, reported options unit = true ∧ unit.name = name) ↔
      isUnitIgnored options name = false ∧ scan.failedAt name = true := by
  rw [Scan.failedAt, List.any_eq_true]
  constructor
  · rintro ⟨unit, hmem, hreported, rfl⟩
    rw [reported, Bool.and_eq_true, Bool.not_eq_true'] at hreported
    exact ⟨hreported.1, unit, hmem, by simp [hreported.2]⟩
  · rintro ⟨hignored, unit, hmem, hfailed⟩
    rw [Bool.and_eq_true, decide_eq_true_iff] at hfailed
    refine ⟨unit, hmem, ?_, hfailed.1⟩
    rw [reported, hfailed.1, hignored, hfailed.2]
    rfl

/-- The times that the function model prunes are those of the map. -/
theorem recentStarts_prune (recorder : Recorder) (name : Bytes) :
    (pruneOldTimestamps options scan.now recorder.abs).recentStarts name
      = (recorder.prune options scan.now).starts name :=
  congrArg (fun state => state.recentStarts name) Recorder.abs_prune.symm

/-- A scan leaves at most one time more than it has pruned. -/
theorem length_starts_le (name : Bytes) :
    ((memory.recorder.collect lib options scan).1.starts name).length
      ≤ countAt options memory scan name := by
  have hstate := congrArg (fun outcome => outcome.1.recentStarts name)
    (@Recorder.abs_collect lib options memory.recorder scan)
  have hstarts := @collect_recentStarts lib options memory.recorder.abs scan name
  rw [show (collect lib options memory.recorder.abs scan).1.recentStarts name = _ from hstate,
    recentStarts_prune] at hstarts
  show (Recorder.starts _ name).length ≤ _
  rcases hstarts with hsame | ⟨-, -, -, -, hnew⟩
  · rw [show Recorder.starts _ name = _ from hsame, countAt]
    exact Nat.le_succ _
  · rw [show Recorder.starts _ name = _ from hnew, List.length_append, countAt]
    rfl

/-- What a scan leaves and returns when it does not throw and its counts are values of `int`. -/
theorem collect_counted {events : List ObservationEvent}
    (h : (memory.recorder.collect lib options scan).2 = .ok events)
    (hcounted : ∀ unit ∈ scan.unitsSeen, reported options unit = true →
      countAt options memory scan unit.name < 2 ^ 31) :
    (∀ unit ∈ scan.unitsSeen, reported options unit = true →
      ((memory.recorder.collect lib options scan).1.starts unit.name).length
        = countAt options memory scan unit.name) ∧
    ∀ event, event ∈ events ∧ event.signal = Bytes.ofString "unit_flapping" ↔
      ∃ unit ∈ scan.unitsSeen, reported options unit = true ∧
        options.flappingThreshold ≤ countAt options memory scan unit.name ∧
        unitFlappingEvent lib options scan.now unit.name (countAt options memory scan unit.name)
          = .ok event := by
  have habs := @Recorder.abs_collect lib options memory.recorder scan
  have hok : (collect lib options memory.recorder.abs scan).2 = .ok events := by
    rw [habs]
    exact h
  obtain ⟨hstarts, hevents⟩ := collect_of_ok hok
  have hlength : ∀ name, ((pruneOldTimestamps options scan.now memory.recorder.abs).recentStarts name
      ++ [scan.now]).length = countAt options memory scan name := by
    intro name
    rw [recentStarts_prune, List.length_append]
    rfl
  constructor
  · intro unit hmem hreported
    have hunit := hstarts unit hmem hreported
    rw [habs] at hunit
    rw [← hlength, ← hunit]
    rfl
  · intro event
    rw [hevents event]
    refine exists_congr fun unit => and_congr_right fun hmem => and_congr_right fun hreported => ?_
    have hlt := hcounted unit hmem hreported
    rw [hlength, toInt32_of_fits (by omega) (by exact_mod_cast hlt)]

/-- **One scan is exact** when its window goes on from the scan before and it meets the
condition. -/
theorem exact_of_good (hwindow : 0 ≤ window options)
    (hkeeps : Recorder.Keeps (scan.now - window options)
      (memory.recorder.prune options scan.now))
    (hgood : WindowGood options memory scan) :
    ∀ report ∈ ((windowCollector lib options).step memory scan).2, report.Exact options := by
  intro report hreport
  rw [windowCollector, List.mem_singleton] at hreport
  subst hreport
  have hafter : Recorder.Keeps (scan.now - window options)
      (memory.recorder.collect lib options scan).1 :=
    hkeeps.of_appends (@Recorder.appends_collect lib options memory.recorder scan)
      (sub_le_self _ hwindow)
  constructor
  case kept => exact hafter
  case noEntry =>
    intro name hnone
    rw [Recorder.find_prune, recentStarts_prune, hkeeps name, if_pos hnone]
  case flapping =>
    intro name
    show _ ↔ _ ∧ _ ∧ _ ≤ (((List.filter _ _).length : ℕ) : ℤ)
    rw [← hafter name, ← and_assoc, ← exists_reported_iff]
    cases hresult : (memory.recorder.collect lib options scan).2 with
    | ok events =>
      obtain ⟨hlength, hevents⟩ := collect_counted hresult hgood.counted
      constructor
      · rintro ⟨event, ⟨_, ⟨⟩, hmem, hsignal⟩, rfl⟩
        obtain ⟨unit, hseen, hreported, hthreshold, hflap⟩ := (hevents event).mp ⟨hmem, hsignal⟩
        rw [(unitFlappingEvent_fields hflap).2.1, hlength unit hseen hreported]
        exact ⟨⟨unit, hseen, hreported, rfl⟩, hthreshold⟩
      · rintro ⟨⟨unit, hseen, hreported, rfl⟩, hthreshold⟩
        rw [hlength unit hseen hreported] at hthreshold
        obtain ⟨event, hflap⟩ := unitFlappingEvent_eq_ok lib options scan.now unit.name
          (countAt options memory scan unit.name)
        obtain ⟨hmem, hsignal⟩ := (hevents event).mpr ⟨unit, hseen, hreported, hthreshold, hflap⟩
        exact ⟨event, ⟨events, rfl, hmem, hsignal⟩, (unitFlappingEvent_fields hflap).2.1⟩
    | error exn =>
      constructor
      · rintro ⟨event, ⟨events, hok, -⟩, -⟩
        cases hok
      · -- a unit that is flapping makes the scan readable, so that it does not throw
        rintro ⟨⟨unit, hseen, hreported, rfl⟩, hthreshold⟩
        have hle := @length_starts_le lib options memory scan unit.name
        have hreadable := hgood.readable
          ⟨unit, hseen, hreported, hthreshold.trans (by exact_mod_cast hle)⟩
        obtain ⟨events, hok⟩ := @collect_eq_ok lib options scan hreadable memory.recorder.abs
        rw [Recorder.abs_collect, hresult] at hok
        cases hok
  case carries =>
    rintro event ⟨events, hok, hmem, hsignal⟩
    obtain ⟨hlength, hevents⟩ := collect_counted hok hgood.counted
    obtain ⟨unit, hseen, hreported, -, hflap⟩ := (hevents event).mp ⟨hmem, hsignal⟩
    obtain ⟨-, hsubject, hvalue⟩ := unitFlappingEvent_fields hflap
    show event.value = .string (decimal (List.filter _ _).length)
    rw [← hafter event.subject, hvalue, hsubject, hlength unit hseen hreported]

end Step

section Runs

variable {lib : CppLib} {options : SystemdCollectorOptions}

/-- The scan is not earlier than the one before. -/
def InOrder (memory : WindowMemory) (scan : Scan) : Prop :=
  ∀ last ∈ memory.past.getLast?, last.now ≤ scan.now

/-- Scans at times that do not decrease are in order in every step. -/
theorem allSteps_inOrder {scans : List Scan} {memory : WindowMemory}
    (hfirst : ∀ scan ∈ scans, InOrder memory scan)
    (horder : scans.Pairwise fun scan later => scan.now ≤ later.now) :
    (windowCollector lib options).AllSteps InOrder memory scans := by
  induction scans generalizing memory with
  | nil => trivial
  | cons scan rest ih =>
    rw [List.forall_mem_cons] at hfirst
    rw [List.pairwise_cons] at horder
    refine ⟨hfirst.1, ih (fun later hlater last hlast => ?_) horder.2⟩
    have hlast : last ∈ (memory.past ++ [scan]).getLast? := hlast
    rw [List.getLast?_append, List.getLast?_singleton, Option.some_or, Option.mem_some_iff] at hlast
    rw [← hlast]
    exact horder.1 later hlater

/-- Every scan in order that meets the condition keeps the map the window of the history, and is
exact. -/
theorem windowInv_step (hwindow : 0 ≤ window options) (log : List WindowReport)
    (memory : WindowMemory) (scan : Scan)
    (hinv : WindowKept options memory ∧ ∀ report ∈ log, report.Exact options)
    (hgood : InOrder memory scan ∧ WindowGood options memory scan) :
    WindowKept options ((windowCollector lib options).step memory scan).1 ∧
      ∀ report ∈ log ++ ((windowCollector lib options).step memory scan).2,
        report.Exact options := by
  -- the window of this scan goes on from that of the one before
  have hkeeps : Recorder.Keeps (scan.now - window options)
      (memory.recorder.prune options scan.now) := by
    cases hlast : memory.past.getLast? with
    | none =>
      refine (hinv.1 (scan.now - window options) fun last h => ?_).prune le_rfl
      rw [hlast] at h
      cases h
    | some last =>
      refine (hinv.1 (last.now - window options) fun other h => ?_).prune ?_
      · rw [hlast, Option.mem_some_iff] at h
        rw [h]
      · exact sub_le_sub_right (hgood.1 last hlast) _
  refine ⟨fun cutoff hcutoff => ?_, List.forall_mem_append.mpr
    ⟨hinv.2, exact_of_good hwindow hkeeps hgood.2⟩⟩
  have hlast : cutoff = scan.now - window options :=
    hcutoff scan (by simp [windowCollector])
  rw [hlast]
  exact hkeeps.of_appends (@Recorder.appends_collect lib options memory.recorder scan)
    (sub_le_self _ hwindow)

/-- **Window pruning loses nothing**: in every run of scans at times that do not decrease, whose
counts are values of `int` and which do not throw while a unit is flapping, after every scan the
map holds exactly the recorded times of the window, and the events are those of the units that are
flapping. -/
theorem window_exact (lib : CppLib) (options : SystemdCollectorOptions) (scans : List Scan)
    (horder : scans.Pairwise fun scan later => scan.now ≤ later.now)
    (hgood : (windowCollector lib (construct options)).AllSteps (WindowGood (construct options))
      WindowMemory.fresh scans) :
    ∀ report ∈ ((windowCollector lib (construct options)).run WindowMemory.fresh scans).2,
      report.Exact (construct options) := by
  have hinOrder : (windowCollector lib (construct options)).AllSteps InOrder
      WindowMemory.fresh scans :=
    allSteps_inOrder (fun scan _ last hlast => by cases hlast) horder
  have hinit : WindowKept (construct options) WindowMemory.fresh ∧
      ∀ report ∈ ([] : List WindowReport), report.Exact (construct options) :=
    ⟨fun cutoff _ => Recorder.keeps_fresh cutoff, fun _ h => absurd h List.not_mem_nil⟩
  have hrun := Machine.run_induction (windowCollector lib (construct options))
    (windowInv_step (window_construct_nonneg options)) hinit (hinOrder.and _ hgood)
  rw [List.nil_append] at hrun
  exact hrun.2

end Runs

/-- Nginx is found failed, and the bus is gone at the next scan. -/
theorem window_exact_nginx :
    ((windowCollector CppLib.integral (construct { flappingThreshold := 1 })).run
        WindowMemory.fresh [nginxScan 10 "failed", { now := 20000000000, bus := .unavailable }]).2
      |>.Forall (WindowReport.Exact (construct { flappingThreshold := 1 })) := by
  refine List.forall_iff_forall_mem.mpr
    (window_exact CppLib.integral { flappingThreshold := 1 } _ (by decide) ⟨?_, ?_, trivial⟩)
  · refine ⟨by decide, fun _ => ⟨fun unit hmem _ => ?_, fun entries h => by cases h⟩⟩
    rw [List.mem_singleton.mp hmem]
    exact ⟨by decide, by decide, by decide⟩
  · exact ⟨fun unit hmem => absurd hmem List.not_mem_nil,
      fun ⟨unit, hmem, _⟩ => absurd hmem List.not_mem_nil⟩

/-- Nginx is failed, and the journal has a coredump of a program whose path is not UTF-8. -/
def nginxWithCoredump : Scan where
  now := 1000000000000
  bus := (nginxScan 1000 "failed").bus
  -- 61 is `=`
  journal := some [{ cursor := 0, realtimeUs := 999000000, coredumpExe := some [61, 0xff] }]

/-- The coredump takes the `unit_flapping` event with it. -/
theorem flapping_lost_to_coredump :
    ¬∀ (lib : CppLib) (options : SystemdCollectorOptions) (scans : List Scan),
      (scans.Pairwise fun scan later => scan.now ≤ later.now) →
      ∀ report ∈ ((windowCollector lib (construct options)).run WindowMemory.fresh scans).2,
        report.Exact (construct options) := by
  intro hall
  have hexact := hall CppLib.integral { flappingThreshold := 1 } [nginxWithCoredump]
    (List.pairwise_singleton _ _) _ List.mem_cons_self
  obtain ⟨event, ⟨events, hok, -⟩, -⟩ := (hexact.flapping "nginx.service").mpr
    ⟨by decide, by decide, by decide⟩
  cases hok

end SystemdCollector

end Holonight
