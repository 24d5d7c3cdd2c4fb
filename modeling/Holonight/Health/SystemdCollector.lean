import Holonight.Base.Json
import Holonight.Storage.ObservationEvent

/-!
# The systemd collector (`SystemdCollector.cpp`, built with `HOLONIGHTD_HAS_SYSTEMD`)

One scan reads the unit list of the service manager over D-Bus and the coredump
entries of the journal, and emits an event for every failed unit, for every unit whose
recorded failures reach the flapping threshold, and for every coredump of the last
`flapping_window_seconds`. The only state kept from scan to scan are the recorded
times of each unit (`FlappingState`).

What the two services answer is the argument `Scan`. `json::dump()` throws on text
that is not UTF-8; an exception discards the events of the scan but not the recorded
times.
-/

namespace Holonight

/-- `struct SystemdCollectorOptions`; the two numbers are of type `int`. -/
structure SystemdCollectorOptions where
  flappingThreshold : ℤ := 3
  flappingWindowSeconds : ℤ := 300
  ignoreUnits : List Bytes := []
  threshold_isInt : InInt32 flappingThreshold := by decide
  window_isInt : InInt32 flappingWindowSeconds := by decide

namespace SystemdCollector

/-- The constructor replaces options that are not positive
(SystemdCollector.cpp:55–64). -/
def construct (options : SystemdCollectorOptions) : SystemdCollectorOptions where
  flappingThreshold := if options.flappingThreshold ≤ 0 then 3 else options.flappingThreshold
  flappingWindowSeconds :=
    if options.flappingWindowSeconds ≤ 0 then 300 else options.flappingWindowSeconds
  ignoreUnits := options.ignoreUnits
  threshold_isInt := by
    split
    · decide
    · exact options.threshold_isInt
  window_isInt := by
    split
    · decide
    · exact options.window_isInt

/-- `isUnitIgnored` (SystemdCollector.cpp:66–68). -/
def isUnitIgnored (options : SystemdCollectorOptions) (unitName : Bytes) : Bool :=
  options.ignoreUnits.any fun ignored => decide (unitName = ignored)

/-- The lookback window in nanoseconds. -/
def window (options : SystemdCollectorOptions) : ℤ :=
  options.flappingWindowSeconds * nanosPerSecond

/-- The constructor leaves no negative window. -/
theorem window_construct_nonneg (options : SystemdCollectorOptions) :
    0 ≤ window (construct options) := by
  unfold window construct nanosPerSecond
  simp only
  split <;> omega

/-! ## Recorded times -/

/-- `flapping_state_`, as the `recent_starts` of each unit. A unit without an entry and
one with an empty list are the same here: `operator[]` creates the entry, and the prune
erases it when it is empty. -/
structure FlappingState where
  recentStarts : Bytes → List TimePoint

/-- No unit has an entry. -/
def FlappingState.empty : FlappingState := ⟨fun _ => []⟩

/-- `flapping_state_[name].recent_starts.push_back(now)`. -/
def FlappingState.record (state : FlappingState) (name : Bytes) (now : TimePoint) :
    FlappingState :=
  ⟨fun unit => if unit = name then state.recentStarts unit ++ [now] else state.recentStarts unit⟩

/-- `pruneOldTimestamps` (SystemdCollector.cpp:70–83). -/
def pruneOldTimestamps (options : SystemdCollectorOptions) (now : TimePoint)
    (state : FlappingState) : FlappingState :=
  let cutoff := now - window options
  ⟨fun unit => (state.recentStarts unit).filter fun timepoint => !decide (timepoint < cutoff)⟩

@[simp] theorem recentStarts_record_self (state : FlappingState) (name : Bytes)
    (now : TimePoint) :
    (state.record name now).recentStarts name = state.recentStarts name ++ [now] :=
  if_pos rfl

theorem recentStarts_record_of_ne {state : FlappingState} {name unit : Bytes}
    {now : TimePoint} (h : unit ≠ name) :
    (state.record name now).recentStarts unit = state.recentStarts unit :=
  if_neg h

/-! ## Units -/

/-- The fields of a `ListUnits` record that the collector uses. -/
structure UnitInfo where
  name : Bytes
  loadState : Bytes
  activeState : Bytes
  subState : Bytes
  deriving DecidableEq

/-- A `ListUnits` reply. The manager lists a unit once, under its primary name. -/
structure UnitListing where
  units : List UnitInfo
  nodup : (units.map UnitInfo.name).Nodup

/-- `active == "failed"`. -/
def UnitInfo.failed (unit : UnitInfo) : Bool := decide (unit.activeState = Bytes.ofString "failed")

/-- The unit is reported: not ignored, and failed (SystemdCollector.cpp:157). -/
def reported (options : SystemdCollectorOptions) (unit : UnitInfo) : Bool :=
  !isUnitIgnored options unit.name && unit.failed

/-- The `unit_failed` event of a unit (SystemdCollector.cpp:158–174). -/
def unitFailedEvent (lib : CppLib) (now : TimePoint) (unit : UnitInfo) :
    Except Exn ObservationEvent := do
  let attributes ← Json.dump lib.jsonNumber (Json.object
    [("active_state", .str unit.activeState),
     ("sub_state", .str unit.subState),
     ("load_state", .str unit.loadState)])
  return {
    timestamp := now
    source := "systemd"
    category := "systemd.unit"
    subject := unit.name
    severity := .error
    signal := "unit_failed"
    value := .string "failed"
    attributesJson := attributes }

/-- The `unit_flapping` event of a unit (SystemdCollector.cpp:179–193). -/
def unitFlappingEvent (lib : CppLib) (options : SystemdCollectorOptions) (now : TimePoint)
    (name : Bytes) (restartCount : ℤ) : Except Exn ObservationEvent := do
  let attributes ← Json.dump lib.jsonNumber (Json.object
    [("restart_count", .int restartCount),
     ("flapping_window_seconds", .int options.flappingWindowSeconds)])
  return {
    timestamp := now
    source := "systemd"
    category := "systemd.unit"
    subject := name
    severity := .warning
    signal := "unit_flapping"
    value := .string (decimal restartCount)
    attributesJson := attributes }

/-- One reported unit: its events, after the time has been recorded. -/
def reportUnit (lib : CppLib) (options : SystemdCollectorOptions) (now : TimePoint)
    (unit : UnitInfo) (state : FlappingState) :
    FlappingState × Except Exn (List ObservationEvent) :=
  match unitFailedEvent lib now unit with
  -- the event is built before the time is recorded
  | .error exn => (state, .error exn)
  | .ok event =>
    -- recorded at every scan that finds the unit failed, also when it was failed before
    let next := state.record unit.name now
    let restartCount := toInt32 (next.recentStarts unit.name).length
    (next,
      if options.flappingThreshold ≤ restartCount then
        (unitFlappingEvent lib options now unit.name restartCount).map fun flap => [event, flap]
      else .ok [event])

/-- The loop of `collectUnitEvents` over the records of the reply
(SystemdCollector.cpp:132–200). -/
def collectUnitEvents (lib : CppLib) (options : SystemdCollectorOptions) (now : TimePoint) :
    List UnitInfo → FlappingState → FlappingState × Except Exn (List ObservationEvent)
  | [], state => (state, .ok [])
  | unit :: rest, state =>
    if reported options unit then
      match reportUnit lib options now unit state with
      -- an exception drops the events but keeps the recorded times
      | (next, .error exn) => (next, .error exn)
      | (next, .ok events) =>
        let later := collectUnitEvents lib options now rest next
        (later.1, later.2.map (events ++ ·))
    else collectUnitEvents lib options now rest state

/-! ## Coredumps -/

/-- A journal entry with the coredump message id: its place in the journal, its time in
microseconds and the `FIELD=value` data of the two fields the collector reads. -/
structure JournalEntry where
  cursor : ℕ
  realtimeUs : ℕ
  coredumpExe : Option Bytes := none
  coredumpUnit : Option Bytes := none

/-- The text after the first `=` (61) of a field, `unknown` without one
(SystemdCollector.cpp:229–242). -/
def fieldValue : Option Bytes → Bytes
  | none => "unknown"
  | some data =>
    match data.dropWhile (fun b => b != 61) with
    | [] => "unknown"
    | _ :: value => value

def JournalEntry.exeName (entry : JournalEntry) : Bytes := fieldValue entry.coredumpExe

def JournalEntry.unitName (entry : JournalEntry) : Bytes := fieldValue entry.coredumpUnit

/-- The subject of a coredump (SystemdCollector.cpp:244). -/
def JournalEntry.subject (entry : JournalEntry) : Bytes :=
  if entry.unitName ≠ Bytes.ofString "unknown" ∧ entry.unitName ≠ [] then entry.unitName
  else entry.exeName

/-- The `coredump` event of an entry (SystemdCollector.cpp:247–260). -/
def coredumpEvent (lib : CppLib) (now : TimePoint) (entry : JournalEntry) :
    Except Exn ObservationEvent := do
  let attributes ← Json.dump lib.jsonNumber (Json.object
    [("executable", .str entry.exeName), ("unit", .str entry.unitName)])
  return {
    timestamp := now
    source := "systemd"
    category := "systemd.coredump"
    subject := entry.subject
    severity := .error
    signal := "coredump"
    value := .string entry.exeName
    attributesJson := attributes }

/-- The time the journal is searched from (SystemdCollector.cpp:216–219). -/
def cutoffUs (options : SystemdCollectorOptions) (now : TimePoint) : ℕ :=
  toSize (toMicros (now - window options))

/-- The loop over the visited entries; each event is kept with the place of the entry
it is for. -/
def coredumpsOf (lib : CppLib) (options : SystemdCollectorOptions) (now : TimePoint) :
    List JournalEntry → Except Exn (List (ℕ × ObservationEvent))
  | [] => .ok []
  | entry :: rest =>
    if isUnitIgnored options entry.subject then coredumpsOf lib options now rest
    else do
      let event ← coredumpEvent lib now entry
      let later ← coredumpsOf lib options now rest
      return (entry.cursor, event) :: later

/-- Every event of the loop is the event of an entry, and is kept with its place. -/
theorem mem_coredumpsOf {lib : CppLib} {options : SystemdCollectorOptions} {now : TimePoint}
    {entries : List JournalEntry} {tagged : List (ℕ × ObservationEvent)}
    (h : coredumpsOf lib options now entries = .ok tagged) {p : ℕ × ObservationEvent}
    (hp : p ∈ tagged) :
    ∃ entry ∈ entries, entry.cursor = p.1 ∧ coredumpEvent lib now entry = .ok p.2 := by
  induction entries generalizing tagged with
  | nil =>
    cases h
    exact absurd hp List.not_mem_nil
  | cons entry rest ih =>
    unfold coredumpsOf at h
    split at h
    · obtain ⟨other, hother, hevent⟩ := ih h hp
      exact ⟨other, List.mem_cons_of_mem _ hother, hevent⟩
    · obtain ⟨event, hevent, hrest⟩ := bind_eq_ok.mp h
      obtain ⟨later, hlater, heq⟩ := bind_eq_ok.mp hrest
      cases heq
      rcases List.mem_cons.mp hp with rfl | hp
      · exact ⟨entry, List.mem_cons_self, rfl, hevent⟩
      · obtain ⟨other, hother, hrest⟩ := ih hlater hp
        exact ⟨other, List.mem_cons_of_mem _ hother, hrest⟩

/-- The coredumps a scan reports, with their entries: seeking to the cutoff and stepping
forward visits the entries from there on. -/
def scanCoredumps (lib : CppLib) (options : SystemdCollectorOptions) (now : TimePoint)
    (journal : List JournalEntry) : Except Exn (List (ℕ × ObservationEvent)) :=
  coredumpsOf lib options now
    (journal.filter fun entry => decide (cutoffUs options now ≤ entry.realtimeUs))

/-- `collectCoredumpEvents` (SystemdCollector.cpp:203–264); `none` is a journal that
cannot be opened or matched. -/
def collectCoredumpEvents (lib : CppLib) (options : SystemdCollectorOptions) (now : TimePoint)
    (journal : Option (List JournalEntry)) : Except Exn (List ObservationEvent) :=
  match journal with
  | none => .ok []
  | some entries => (scanCoredumps lib options now entries).map fun tagged => tagged.map Prod.snd

/-! ## One scan -/

/-- What the system bus answers. -/
inductive BusOutcome where
  /-- `sd_bus_open_system` failed. -/
  | unavailable
  /-- The `ListUnits` call failed, or its reply is not an array. -/
  | callFailed
  | units (listing : UnitListing)

/-- The inputs of one call of `collect`. -/
structure Scan where
  now : TimePoint
  bus : BusOutcome
  journal : Option (List JournalEntry) := none

/-- The units a scan sees. -/
def Scan.unitsSeen (scan : Scan) : List UnitInfo :=
  match scan.bus with
  | .units listing => listing.units
  | _ => []

/-- `SystemdCollector::collect` (SystemdCollector.cpp:85–109). -/
def collect (lib : CppLib) (options : SystemdCollectorOptions) (state : FlappingState)
    (scan : Scan) : FlappingState × Except Exn (List ObservationEvent) :=
  let pruned := pruneOldTimestamps options scan.now state
  match scan.bus with
  -- without a bus the journal is not read either
  | .unavailable => (pruned, .ok [])
  | .callFailed => (pruned, collectCoredumpEvents lib options scan.now scan.journal)
  | .units listing =>
    match collectUnitEvents lib options scan.now listing.units pruned with
    | (next, .error exn) => (next, .error exn)
    | (next, .ok events) =>
      (next, (collectCoredumpEvents lib options scan.now scan.journal).map (events ++ ·))

/-! ## Where the events come from -/

section Origin

variable {lib : CppLib} {options : SystemdCollectorOptions} {now : TimePoint}
  {events : List ObservationEvent} {event : ObservationEvent}

/-- The events of a reported unit: that it failed, and when its times with the new one
reach the threshold that it is flapping. -/
theorem mem_reportUnit {unit : UnitInfo} {state : FlappingState}
    (h : (reportUnit lib options now unit state).2 = .ok events) (hevent : event ∈ events) :
    unitFailedEvent lib now unit = .ok event ∨
      (options.flappingThreshold ≤ toInt32 (state.recentStarts unit.name ++ [now]).length ∧
        unitFlappingEvent lib options now unit.name
          (toInt32 (state.recentStarts unit.name ++ [now]).length) = .ok event) := by
  unfold reportUnit at h
  cases hfailed : unitFailedEvent lib now unit with
  | error exn =>
    rw [hfailed] at h
    cases h
  | ok failed =>
    rw [hfailed] at h
    simp only [recentStarts_record_self] at h
    split at h
    · rename_i hthreshold
      obtain ⟨flap, hflap, rfl⟩ := map_eq_ok.mp h
      rcases List.mem_pair.mp hevent with rfl | rfl
      · exact Or.inl rfl
      · exact Or.inr ⟨hthreshold, hflap⟩
    · cases h
      rw [List.mem_singleton.mp hevent]
      exact Or.inl rfl

theorem mem_collectCoredumpEvents {journal : Option (List JournalEntry)}
    (h : collectCoredumpEvents lib options now journal = .ok events) (hevent : event ∈ events) :
    ∃ entry, coredumpEvent lib now entry = .ok event := by
  cases journal with
  | none =>
    cases h
    exact absurd hevent List.not_mem_nil
  | some entries =>
    obtain ⟨tagged, htagged, rfl⟩ := map_eq_ok.mp h
    obtain ⟨p, hp, rfl⟩ := List.mem_map.mp hevent
    obtain ⟨entry, -, -, hbuilt⟩ := mem_coredumpsOf htagged hp
    exact ⟨entry, hbuilt⟩

/-- An event of a scan is one of the listed units or a coredump. -/
theorem mem_collect_cases {state : FlappingState} {scan : Scan}
    (h : (collect lib options state scan).2 = .ok events) (hevent : event ∈ events) :
    (∃ listing first, scan.bus = .units listing ∧
      (collectUnitEvents lib options scan.now listing.units
        (pruneOldTimestamps options scan.now state)).2 = .ok first ∧ event ∈ first) ∨
    ∃ coredumps, collectCoredumpEvents lib options scan.now scan.journal = .ok coredumps ∧
      event ∈ coredumps := by
  unfold collect at h
  cases hbus : scan.bus with
  | unavailable =>
    rw [hbus] at h
    cases h
    exact absurd hevent List.not_mem_nil
  | callFailed =>
    rw [hbus] at h
    exact Or.inr ⟨events, h, hevent⟩
  | units listing =>
    rw [hbus] at h
    rcases hunits : collectUnitEvents lib options scan.now listing.units
      (pruneOldTimestamps options scan.now state) with ⟨next, result⟩
    simp only [hunits] at h
    cases result with
    | error exn => cases h
    | ok first =>
      obtain ⟨later, hlater, rfl⟩ := map_eq_ok.mp h
      rcases List.mem_append.mp hevent with hmem | hmem
      · exact Or.inl ⟨listing, first, rfl, by rw [hunits], hmem⟩
      · exact Or.inr ⟨later, hlater, hmem⟩

end Origin

end SystemdCollector

end Holonight
