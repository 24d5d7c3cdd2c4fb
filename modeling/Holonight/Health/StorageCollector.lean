import Holonight.Health.EventDraft

/-!
# The storage collector (`StorageCollector.cpp`)

`StorageCollector::collect` on the metrics of the mounts it has inspected. A mount that
could not be inspected has one event that says so; any other has up to three: for a
read-only file system, and for space and inodes at or above the warning threshold. An
exception of `dump()` leaves the function, and all events of the pass are lost with it.
-/

namespace Holonight

/-- The thresholds of `struct StorageCollectorOptions`. -/
structure StorageCollectorOptions where
  warningThreshold : Double := .finite 85
  criticalThreshold : Double := .finite 95

/-- `struct StorageMetrics`. -/
structure StorageMetrics where
  mountPath : Bytes
  deviceNode : Bytes := []
  fstype : Bytes := []
  options : Bytes := []
  totalBytes : UInt64 := 0
  usedBytes : UInt64 := 0
  availableBytes : UInt64 := 0
  percentUsed : Double := .finite 0
  totalInodes : UInt64 := 0
  usedInodes : UInt64 := 0
  freeInodes : UInt64 := 0
  inodePercentUsed : Double := .finite 0
  isReadOnly : Bool := false
  statSuccess : Bool := true
  error : Bytes := []

namespace StorageCollector

/-- An event of a mount. -/
def mountDraft (metrics : StorageMetrics) (signal : Bytes) (value : EventValue)
    (severity : Severity) (attributes : List (Bytes × Json)) : EventDraft where
  source := "storage_collector"
  category := "storage"
  subject := metrics.mountPath
  signal := signal
  value := value
  severity := severity
  attributes := .object attributes

/-- StorageCollector.cpp:211–228. -/
def statFailureDraft (metrics : StorageMetrics) : EventDraft :=
  mountDraft metrics "stat_failure" .none .error
    [("fstype", .str metrics.fstype),
     ("device_node", .str metrics.deviceNode),
     ("error", .str metrics.error)]

/-- The attributes of all events of an inspected mount (StorageCollector.cpp:230–239). -/
def usageAttributes (metrics : StorageMetrics) : List (Bytes × Json) :=
  [("total_bytes", .uint metrics.totalBytes.toNat),
   ("used_bytes", .uint metrics.usedBytes.toNat),
   ("available_bytes", .uint metrics.availableBytes.toNat),
   ("total_inodes", .uint metrics.totalInodes.toNat),
   ("used_inodes", .uint metrics.usedInodes.toNat),
   ("free_inodes", .uint metrics.freeInodes.toNat),
   ("fstype", .str metrics.fstype),
   ("mount_flags", .str metrics.options)]

/-- StorageCollector.cpp:241–251. -/
def readOnlyDraft (metrics : StorageMetrics) : EventDraft :=
  mountDraft metrics "read_only_filesystem" .none .error (usageAttributes metrics)

/-- A percentage at or above the warning threshold, as an event; NaN is not. -/
def pressure (options : StorageCollectorOptions) (metrics : StorageMetrics) (signal : Bytes)
    (percent : Double) : List EventDraft :=
  if Double.le options.warningThreshold percent then
    [mountDraft metrics signal (.double percent)
      (if Double.le options.criticalThreshold percent then .critical else .warning)
      (usageAttributes metrics)]
  else []

/-- Space and inode pressure (StorageCollector.cpp:253–276). -/
def pressureDrafts (options : StorageCollectorOptions) (metrics : StorageMetrics) :
    List EventDraft :=
  pressure options metrics "space_pressure" metrics.percentUsed ++
    pressure options metrics "inode_pressure" metrics.inodePercentUsed

/-- The drafts of a mount, in the order of the source. -/
def drafts (options : StorageCollectorOptions) (metrics : StorageMetrics) : List EventDraft :=
  if metrics.statSuccess then
    (if metrics.isReadOnly then [readOnlyDraft metrics] else []) ++ pressureDrafts options metrics
  else [statFailureDraft metrics]

/-- `eventsFromMetrics` (StorageCollector.cpp:208–279). -/
def eventsFromMetrics (lib : CppLib) (options : StorageCollectorOptions) (clock : ℕ → TimePoint)
    (made : ℕ) (metrics : StorageMetrics) : Except Exn (List ObservationEvent) :=
  EventDraft.emitAll lib clock made (drafts options metrics)

/-- The loop of `collect` over the mounts, after `made` events. -/
def collectFrom (lib : CppLib) (options : StorageCollectorOptions) (clock : ℕ → TimePoint) :
    ℕ → List StorageMetrics → Except Exn (List ObservationEvent)
  | _, [] => .ok []
  | made, metrics :: rest => do
    let events ← eventsFromMetrics lib options clock made metrics
    let later ← collectFrom lib options clock (made + events.length) rest
    return events ++ later

/-- `StorageCollector::collect` (StorageCollector.cpp:157–167) on the metrics it has
read. -/
def collect (lib : CppLib) (options : StorageCollectorOptions) (clock : ℕ → TimePoint)
    (mounts : List StorageMetrics) : Except Exn (List ObservationEvent) :=
  collectFrom lib options clock 0 mounts

/-! ## Texts -/

/-- Every text of the metrics is UTF-8. -/
structure Utf8 (metrics : StorageMetrics) : Prop where
  mountPath : validUtf8 metrics.mountPath = true
  deviceNode : validUtf8 metrics.deviceNode = true
  fstype : validUtf8 metrics.fstype = true
  options : validUtf8 metrics.options = true
  error : validUtf8 metrics.error = true

section Texts

variable {metrics : StorageMetrics} {options : StorageCollectorOptions} {lib : CppLib}
  {clock : ℕ → TimePoint}

theorem utf8_usageAttributes (h : Utf8 metrics) :
    (Json.object (usageAttributes metrics)).utf8 = true := by
  refine Json.utf8_object ?_
  simp only [usageAttributes, List.forall_mem_cons]
  exact ⟨⟨rfl, rfl⟩, ⟨rfl, rfl⟩, ⟨rfl, rfl⟩, ⟨rfl, rfl⟩, ⟨rfl, rfl⟩, ⟨rfl, rfl⟩, ⟨rfl, h.fstype⟩,
    ⟨rfl, h.options⟩, by simp⟩

theorem mem_pressure {signal : Bytes} {percent : Double} {draft : EventDraft} :
    draft ∈ pressure options metrics signal percent
      ↔ Double.le options.warningThreshold percent = true ∧
        draft = mountDraft metrics signal (.double percent)
          (if Double.le options.criticalThreshold percent then .critical else .warning)
          (usageAttributes metrics) := by
  unfold pressure
  rw [List.mem_ite_nil_right, List.mem_singleton]

/-- Metrics with UTF-8 texts give drafts that can be serialised. -/
theorem utf8_drafts (h : Utf8 metrics) :
    ∀ draft ∈ drafts options metrics, draft.attributes.utf8 = true := by
  intro draft hmem
  unfold drafts at hmem
  split at hmem
  · simp only [pressureDrafts, List.mem_append, List.mem_ite_nil_right, List.mem_singleton,
      mem_pressure] at hmem
    rcases hmem with ⟨-, rfl⟩ | ⟨-, rfl⟩ | ⟨-, rfl⟩ <;> exact utf8_usageAttributes h
  · rw [List.mem_singleton.mp hmem]
    refine Json.utf8_object ?_
    simp only [List.forall_mem_cons]
    exact ⟨⟨rfl, h.fstype⟩, ⟨rfl, h.deviceNode⟩, ⟨rfl, h.error⟩, by simp⟩

/-- With UTF-8 texts the collector returns. -/
theorem collectFrom_eq_ok {mounts : List StorageMetrics} {made : ℕ}
    (h : ∀ metrics ∈ mounts, Utf8 metrics) :
    ∃ events, collectFrom lib options clock made mounts = .ok events := by
  induction mounts generalizing made with
  | nil => exact ⟨[], rfl⟩
  | cons metrics rest ih =>
    obtain ⟨hfirst, hrest⟩ := List.forall_mem_cons.mp h
    obtain ⟨events, hevents⟩ :=
      @EventDraft.emitAll_eq_ok lib clock _ made (@utf8_drafts metrics options hfirst)
    obtain ⟨later, hlater⟩ := @ih (made + events.length) hrest
    exact ⟨events ++ later, bind_eq_ok.mpr ⟨events, hevents, bind_eq_ok.mpr ⟨later, hlater, rfl⟩⟩⟩

/-- What the collector returns is one event for each draft of each mount. -/
theorem forall₂_collectFrom {mounts : List StorageMetrics} {made : ℕ}
    {events : List ObservationEvent}
    (h : collectFrom lib options clock made mounts = .ok events) :
    List.Forall₂ (EventDraft.Emits lib) (mounts.flatMap (drafts options)) events := by
  induction mounts generalizing made events with
  | nil =>
    cases h
    exact List.Forall₂.nil
  | cons metrics rest ih =>
    obtain ⟨first, hfirst, hrest⟩ := bind_eq_ok.mp h
    obtain ⟨later, hlater, heq⟩ := bind_eq_ok.mp hrest
    cases heq
    rw [List.flatMap_cons]
    exact List.rel_append (EventDraft.forall₂_emitAll hfirst) (ih hlater)

end Texts

end StorageCollector

end Holonight
