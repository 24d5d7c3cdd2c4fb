import Holonight.Base.Json
import Holonight.Storage.ObservationEvent

/-!
# The memory collector (`MemoryCollector.cpp`)

`MemoryCollector::collect` turns the metrics of one pass into events: one each for
pressure (`some`, `full`) at or above its threshold, for used memory when pressure is not
available, and for a positive number of OOM kills since the last pass.

The events are written down first (`drafts`) and stamped and serialised afterwards; a
victim name that is not UTF-8 makes `json::dump()` throw, and then nothing is emitted
(`collect_emits_iff`).
-/

namespace Holonight

/-- `struct MemoryCollectorOptions`, without the path of `/proc`. -/
structure MemoryCollectorOptions where
  someWarningThreshold : Double := .finite 10
  fullCriticalThreshold : Double := .finite 25
  meminfoWarningThreshold : Double := .finite 85

/-- `struct MemoryMetrics`. -/
structure MemoryMetrics where
  psiSomeAvg10 : Option Double := none
  psiSomeAvg60 : Option Double := none
  psiSomeAvg300 : Option Double := none
  psiSomeTotal : Option Double := none
  psiFullAvg10 : Option Double := none
  psiFullAvg60 : Option Double := none
  psiFullAvg300 : Option Double := none
  psiFullTotal : Option Double := none
  totalBytes : UInt64 := 0
  availableBytes : UInt64 := 0
  usedBytes : UInt64 := 0
  percentUsed : Option Double := none
  oomKillCounter : Option UInt64 := none
  oomKillDelta : Option UInt64 := none
  victimPid : Option ℤ := none
  victimName : Option Bytes := none
  psiSuccess : Bool := false
  meminfoSuccess : Bool := false
  vmstatSuccess : Bool := false

namespace MemoryCollector

/-! ## Events -/

/-- An event before it is stamped and its attributes are serialised; source and category
are the same for all of them. -/
structure Draft where
  subject : Bytes
  signal : Bytes
  severity : Severity
  value : Double
  attributes : List (Bytes × Json)

/-- Pressure of some tasks (MemoryCollector.cpp:226–243). -/
def someDraft (metrics : MemoryMetrics) (avg10 : Double) : Draft where
  subject := "psi"
  signal := "memory_pressure_some"
  severity := .warning
  value := avg10
  attributes :=
    [("some_avg10", .float avg10),
     ("some_avg60", .float (metrics.psiSomeAvg60.getD (.finite 0))),
     ("some_avg300", .float (metrics.psiSomeAvg300.getD (.finite 0))),
     ("some_total", .float (metrics.psiSomeTotal.getD (.finite 0)))]

/-- Pressure of all tasks (MemoryCollector.cpp:245–262). -/
def fullDraft (metrics : MemoryMetrics) (avg10 : Double) : Draft where
  subject := "psi"
  signal := "memory_pressure_full"
  severity := .critical
  value := avg10
  attributes :=
    [("full_avg10", .float avg10),
     ("full_avg60", .float (metrics.psiFullAvg60.getD (.finite 0))),
     ("full_avg300", .float (metrics.psiFullAvg300.getD (.finite 0))),
     ("full_total", .float (metrics.psiFullTotal.getD (.finite 0)))]

/-- Used memory (MemoryCollector.cpp:263–280). -/
def meminfoDraft (metrics : MemoryMetrics) (percentUsed : Double) : Draft where
  subject := "meminfo"
  signal := "memory_used_high"
  severity := .warning
  value := percentUsed
  attributes :=
    [("total_bytes", .uint metrics.totalBytes.toNat),
     ("available_bytes", .uint metrics.availableBytes.toNat),
     ("used_bytes", .uint metrics.usedBytes.toNat),
     ("percent_used", .float percentUsed)]

/-- OOM kills since the last pass (MemoryCollector.cpp:282–299). -/
def oomDraft (lib : CppLib) (metrics : MemoryMetrics) (delta : UInt64) : Draft where
  subject := "oom_killer"
  signal := "oom_killer_invoked"
  severity := .error
  value := lib.intToDouble delta.toNat
  attributes :=
    [("delta", .uint delta.toNat),
     ("total_oom_kills", .uint (metrics.oomKillCounter.getD 0).toNat),
     ("victim_pid", .int (metrics.victimPid.getD 0)),
     ("victim_name", .str (metrics.victimName.getD "unknown"))]

/-- The draft of a reading at or above its threshold; no reading, or NaN, is none. -/
def alarm (threshold : Double) (reading : Option Double) (draft : Double → Draft) : List Draft :=
  match reading with
  | some value => if Double.le threshold value then [draft value] else []
  | none => []

/-- The drafts of one pass, in the order of the source. Used memory is looked at only
when there is no pressure information. -/
def drafts (lib : CppLib) (options : MemoryCollectorOptions) (metrics : MemoryMetrics) :
    List Draft :=
  (if metrics.psiSuccess then
    alarm options.someWarningThreshold metrics.psiSomeAvg10 (someDraft metrics)
      ++ alarm options.fullCriticalThreshold metrics.psiFullAvg10 (fullDraft metrics)
  -- the fallback for kernels without pressure information
  else if metrics.meminfoSuccess then
    alarm options.meminfoWarningThreshold metrics.percentUsed (meminfoDraft metrics)
  else []) ++
  match metrics.oomKillDelta with
  | some delta => if 0 < delta then [oomDraft lib metrics delta] else []
  | none => []

/-- An event from its draft; the time stamp is the clock reading at its construction. -/
def emit (lib : CppLib) (timestamp : TimePoint) (draft : Draft) : Except Exn ObservationEvent := do
  let attributes ← Json.dump lib.jsonNumber (Json.object draft.attributes)
  return {
    timestamp := timestamp
    source := "memory_collector"
    category := "memory"
    subject := draft.subject
    signal := draft.signal
    severity := draft.severity
    value := .double draft.value
    attributesJson := attributes }

/-- The events of a list of drafts; `made` events have been constructed before. -/
def emitAll (lib : CppLib) (clock : ℕ → TimePoint) :
    ℕ → List Draft → Except Exn (List ObservationEvent)
  | _, [] => .ok []
  | made, draft :: rest => do
    let event ← emit lib (clock made) draft
    let later ← emitAll lib clock (made + 1) rest
    return event :: later

/-- `MemoryCollector::collect` (MemoryCollector.cpp:221–303) on the metrics it has read. -/
def collect (lib : CppLib) (options : MemoryCollectorOptions) (clock : ℕ → TimePoint)
    (metrics : MemoryMetrics) : Except Exn (List ObservationEvent) :=
  emitAll lib clock 0 (drafts lib options metrics)

/-! ## When something is emitted -/

/-- The reading is there and at or above its threshold. -/
def Reaches (threshold : Double) (reading : Option Double) : Prop :=
  ∃ value, reading = some value ∧ Double.le threshold value = true

/-- There is something to report: pressure at or above a threshold, or without pressure
information used memory at or above its threshold, or new OOM kills. -/
def Trouble (options : MemoryCollectorOptions) (metrics : MemoryMetrics) : Prop :=
  (metrics.psiSuccess = true ∧
    (Reaches options.someWarningThreshold metrics.psiSomeAvg10 ∨
      Reaches options.fullCriticalThreshold metrics.psiFullAvg10)) ∨
  (metrics.psiSuccess = false ∧ metrics.meminfoSuccess = true ∧
    Reaches options.meminfoWarningThreshold metrics.percentUsed) ∨
  ∃ delta, metrics.oomKillDelta = some delta ∧ 0 < delta

/-- The name of an OOM victim can be serialised, or there is no OOM event. -/
def Serialisable (metrics : MemoryMetrics) : Prop :=
  ∀ delta, metrics.oomKillDelta = some delta → 0 < delta →
    validUtf8 (metrics.victimName.getD "unknown") = true

section Emission

variable {lib : CppLib} {options : MemoryCollectorOptions} {metrics : MemoryMetrics}
  {clock : ℕ → TimePoint}

theorem alarm_ne_nil {threshold : Double} {reading : Option Double} {draft : Double → Draft} :
    alarm threshold reading draft ≠ [] ↔ Reaches threshold reading := by
  unfold alarm Reaches
  cases reading with
  | none => simp
  | some value => simp

theorem mem_alarm {threshold : Double} {reading : Option Double} {draft : Double → Draft}
    {d : Draft} (h : d ∈ alarm threshold reading draft) : ∃ value, d = draft value := by
  unfold alarm at h
  cases reading with
  | none => exact absurd h List.not_mem_nil
  | some value =>
    simp only at h
    split at h
    · exact ⟨value, List.mem_singleton.mp h⟩
    · exact absurd h List.not_mem_nil

/-- The kinds of drafts there are. -/
theorem mem_drafts {d : Draft} (h : d ∈ drafts lib options metrics) :
    (∃ value, d = someDraft metrics value ∨ d = fullDraft metrics value
      ∨ d = meminfoDraft metrics value) ∨
    ∃ delta, metrics.oomKillDelta = some delta ∧ 0 < delta ∧ d = oomDraft lib metrics delta := by
  unfold drafts at h
  rcases List.mem_append.mp h with h | h
  · left
    split at h
    · rcases List.mem_append.mp h with h | h
      · obtain ⟨value, rfl⟩ := mem_alarm h
        exact ⟨value, Or.inl rfl⟩
      · obtain ⟨value, rfl⟩ := mem_alarm h
        exact ⟨value, Or.inr (Or.inl rfl)⟩
    · split at h
      · obtain ⟨value, rfl⟩ := mem_alarm h
        exact ⟨value, Or.inr (Or.inr rfl)⟩
      · exact absurd h List.not_mem_nil
  · right
    cases hdelta : metrics.oomKillDelta with
    | none =>
      rw [hdelta] at h
      exact absurd h List.not_mem_nil
    | some delta =>
      rw [hdelta] at h
      simp only at h
      split at h
      · rename_i hpos
        exact ⟨delta, rfl, hpos, List.mem_singleton.mp h⟩
      · exact absurd h List.not_mem_nil

theorem oomDraft_mem_drafts {delta : UInt64} (hdelta : metrics.oomKillDelta = some delta)
    (hpos : 0 < delta) : oomDraft lib metrics delta ∈ drafts lib options metrics := by
  refine List.mem_append_right _ ?_
  rw [hdelta]
  show _ ∈ if 0 < delta then _ else _
  rw [if_pos hpos]
  exact List.mem_singleton_self _

/-- Something is drafted exactly when there is trouble. -/
theorem drafts_ne_nil : drafts lib options metrics ≠ [] ↔ Trouble options metrics := by
  have hoom : (match metrics.oomKillDelta with
      | some delta => if 0 < delta then [oomDraft lib metrics delta] else []
      | none => []) ≠ [] ↔ ∃ delta, metrics.oomKillDelta = some delta ∧ 0 < delta := by
    cases metrics.oomKillDelta with
    | none => simp
    | some delta =>
      by_cases hpos : 0 < delta
      · simp [hpos]
      · simp [hpos]
  unfold drafts Trouble
  rw [ne_eq, List.append_eq_nil_iff, not_and_or, ← ne_eq, ← ne_eq, hoom, ← or_assoc]
  refine or_congr_left ?_
  cases metrics.psiSuccess with
  | true =>
    simp only [if_true, true_and]
    rw [ne_eq, List.append_eq_nil_iff, not_and_or, ← ne_eq, ← ne_eq, alarm_ne_nil, alarm_ne_nil]
    simp
  | false =>
    cases metrics.meminfoSuccess with
    | true =>
      rw [if_neg (by decide), if_pos rfl, alarm_ne_nil]
      simp
    | false => simp

/-- The signals of the collector. None of them is a signal of RULE-MEMORY-001. -/
theorem signal_of_mem_drafts {d : Draft} (h : d ∈ drafts lib options metrics) :
    d.signal ∈ ([ "memory_pressure_some", "memory_pressure_full", "memory_used_high",
      "oom_killer_invoked" ] : List Bytes) := by
  rcases mem_drafts h with ⟨value, rfl | rfl | rfl⟩ | ⟨delta, -, -, rfl⟩
  · exact List.mem_cons_self
  · exact List.mem_cons_of_mem _ List.mem_cons_self
  · exact List.mem_cons_of_mem _ (List.mem_cons_of_mem _ List.mem_cons_self)
  · exact List.mem_cons_of_mem _ (List.mem_cons_of_mem _ (List.mem_cons_of_mem _
      List.mem_cons_self))

theorem emit_isOk (timestamp : TimePoint) (draft : Draft) :
    (emit lib timestamp draft).isOk = Json.utf8 (Json.object draft.attributes) := by
  unfold emit
  rw [isOk_bind_pure, Json.dump_isOk_iff]

theorem emitAll_isOk {made : ℕ} {ds : List Draft} :
    (emitAll lib clock made ds).isOk = ds.all fun d => Json.utf8 (Json.object d.attributes) := by
  induction ds generalizing made with
  | nil => rfl
  | cons d rest ih =>
    rw [emitAll, isOk_bind _ _ (rest.all fun d => Json.utf8 (Json.object d.attributes)),
      emit_isOk, List.all_cons]
    intro event
    rw [isOk_bind_pure]
    exact ih

/-- The attributes of an OOM draft are UTF-8 when the name of the victim is. -/
theorem utf8_oomDraft (delta : UInt64) :
    Json.utf8 (Json.object (oomDraft lib metrics delta).attributes)
      = validUtf8 (metrics.victimName.getD "unknown") := by
  -- the fields in key order: delta, total_oom_kills, victim_name, victim_pid
  have hfields : Json.utf8 (Json.object (oomDraft lib metrics delta).attributes)
      = (true && true && (true && true
          && (true && validUtf8 (metrics.victimName.getD "unknown") && (true && true && true)))) :=
    rfl
  rw [hfields]
  simp

/-- Only the OOM draft carries a text from outside. -/
theorem collect_isOk :
    (collect lib options clock metrics).isOk = true ↔ Serialisable metrics := by
  unfold collect Serialisable
  rw [emitAll_isOk, List.all_eq_true]
  constructor
  · intro h delta hdelta hpos
    rw [← @utf8_oomDraft lib metrics delta]
    exact h _ (oomDraft_mem_drafts hdelta hpos)
  · intro h d hd
    rcases mem_drafts hd with ⟨value, rfl | rfl | rfl⟩ | ⟨delta, hdelta, hpos, rfl⟩
    · rfl
    · rfl
    · rfl
    · rw [utf8_oomDraft]
      exact h delta hdelta hpos

theorem emit_ok {timestamp : TimePoint} {draft : Draft} {event : ObservationEvent}
    (h : emit lib timestamp draft = .ok event) :
    event.category = Bytes.ofString "memory" ∧ event.signal = draft.signal := by
  obtain ⟨attributes, -, heq⟩ := bind_eq_ok.mp h
  cases heq
  exact ⟨rfl, rfl⟩

/-- Every event is made of one of the drafts. -/
theorem exists_draft {made : ℕ} {ds : List Draft}
    {events : List ObservationEvent} (h : emitAll lib clock made ds = .ok events)
    {event : ObservationEvent} (hevent : event ∈ events) :
    ∃ d ∈ ds, ∃ timestamp, emit lib timestamp d = .ok event := by
  induction ds generalizing made events with
  | nil =>
    cases h
    exact absurd hevent List.not_mem_nil
  | cons d rest ih =>
    obtain ⟨first, hfirst, hrest⟩ := bind_eq_ok.mp h
    obtain ⟨later, hlater, heq⟩ := bind_eq_ok.mp hrest
    cases heq
    rcases List.mem_cons.mp hevent with rfl | hmem
    · exact ⟨d, List.mem_cons_self, clock made, hfirst⟩
    · obtain ⟨d', hd', timestamp, hemit⟩ := ih hlater hmem
      exact ⟨d', List.mem_cons_of_mem _ hd', timestamp, hemit⟩

/-- Every event of the collector has the category `memory` and the signal of its draft. -/
theorem mem_emitAll {made : ℕ} {ds : List Draft} {events : List ObservationEvent}
    (h : emitAll lib clock made ds = .ok events) {event : ObservationEvent}
    (hevent : event ∈ events) :
    event.category = Bytes.ofString "memory" ∧ ∃ d ∈ ds, event.signal = d.signal := by
  obtain ⟨d, hd, timestamp, hemit⟩ := exists_draft h hevent
  obtain ⟨hcategory, hsignal⟩ := emit_ok hemit
  exact ⟨hcategory, d, hd, hsignal⟩

theorem emitAll_length {made : ℕ} {ds : List Draft} {events : List ObservationEvent}
    (h : emitAll lib clock made ds = .ok events) : events.length = ds.length := by
  induction ds generalizing made events with
  | nil =>
    cases h
    rfl
  | cons d rest ih =>
    obtain ⟨first, -, hrest⟩ := bind_eq_ok.mp h
    obtain ⟨later, hlater, heq⟩ := bind_eq_ok.mp hrest
    cases heq
    rw [List.length_cons, List.length_cons, ih hlater]

/-- **Something is emitted** exactly when there is trouble and it can be serialised. -/
theorem collect_emits_iff :
    (∃ events, collect lib options clock metrics = .ok events ∧ events ≠ [])
      ↔ Trouble options metrics ∧ Serialisable metrics := by
  rw [← @collect_isOk lib options metrics clock, ← @drafts_ne_nil lib options metrics]
  constructor
  · rintro ⟨events, hok, hne⟩
    have hlength := emitAll_length hok
    refine ⟨fun hnil => hne ?_, by rw [hok]; rfl⟩
    rw [hnil] at hlength
    exact List.length_eq_zero_iff.mp hlength
  · rintro ⟨hne, hisOk⟩
    cases hok : collect lib options clock metrics with
    | error exn =>
      rw [hok] at hisOk
      cases hisOk
    | ok events =>
      have hlength := emitAll_length hok
      refine ⟨events, rfl, fun hnil => hne ?_⟩
      rw [hnil] at hlength
      exact List.length_eq_zero_iff.mp hlength.symm

/-- Every event of the collector has the category `memory` and one of its signals. -/
theorem mem_collect {events : List ObservationEvent}
    (h : collect lib options clock metrics = .ok events) {event : ObservationEvent}
    (hevent : event ∈ events) :
    event.category = Bytes.ofString "memory" ∧
      event.signal ∈ ([ "memory_pressure_some", "memory_pressure_full", "memory_used_high",
        "oom_killer_invoked" ] : List Bytes) := by
  obtain ⟨hcategory, d, hd, hsignal⟩ := mem_emitAll h hevent
  rw [hsignal]
  exact ⟨hcategory, signal_of_mem_drafts hd⟩

end Emission

end MemoryCollector

end Holonight
