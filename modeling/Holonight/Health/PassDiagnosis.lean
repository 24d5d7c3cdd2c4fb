import Holonight.Health.Diagnosis
import Holonight.Health.PacmanCollector
import Holonight.Health.StatusCheck
import Holonight.Health.StorageCollector

/-!
# The warnings of a pass

The three rules of severity `warning` with the collectors they were written for, on the
events of a whole pass. Here the texts agree: RULE-KERNEL-001 and RULE-PACMAN-001 find the
events of the package collector, RULE-STORAGE-001 those of the storage collector, and no
rule finds an event of another collector, because each collector has categories of its own
(`SystemdCollector.category_of_mem_collect`, `MemoryCollector.mem_collect`).

The questions about events are moved to the drafts of the collectors
(`EventDraft.exists_emitted_iff`), where they are questions about the metrics.
-/

namespace Holonight

open RuleEngine

/-! ## Rules and drafts -/

namespace EventDraft

variable {lib : CppLib} {draft : EventDraft} {event : ObservationEvent}

/-- `RuleEngine.ReportsOn` for a draft. -/
def ReportsOn (category subject signal : Bytes) (draft : EventDraft) : Prop :=
  draft.category = category ∧ draft.subject = subject ∧ draft.signal = signal ∧
    2 ≤ draft.severity.rank

/-- `RuleEngine.Reports` for a draft. -/
def Reports (category : Bytes) (signals : List Bytes) (draft : EventDraft) : Prop :=
  draft.category = category ∧ draft.signal ∈ signals ∧ 2 ≤ draft.severity.rank

instance {category : Bytes} {signals : List Bytes} :
    Decidable (Reports category signals draft) :=
  inferInstanceAs (Decidable (_ ∧ _))

theorem Emits.reportsOn_iff (h : Emits lib draft event) {category subject signal : Bytes} :
    RuleEngine.ReportsOn category subject signal event
      ↔ draft.ReportsOn category subject signal := by
  obtain ⟨hcategory, hsubject, hsignal, hseverity⟩ := h.fields
  rw [RuleEngine.ReportsOn, ReportsOn, hcategory, hsubject, hsignal, hseverity]

theorem Emits.reports_iff (h : Emits lib draft event) {category : Bytes} {signals : List Bytes} :
    RuleEngine.Reports category signals event ↔ draft.Reports category signals := by
  obtain ⟨hcategory, -, hsignal, hseverity⟩ := h.fields
  rw [RuleEngine.Reports, Reports, hcategory, hsignal, hseverity]

end EventDraft

/-! ## Events of other categories -/

namespace SystemdCollector

variable {lib : CppLib} {options : SystemdCollectorOptions} {now : TimePoint}

/-- The categories of the collector. -/
def categories : List Bytes := [ "systemd.unit", "systemd.coredump" ]

theorem category_of_mem_reportUnit {unit : UnitInfo} {state : FlappingState}
    {events : List ObservationEvent} (h : (reportUnit lib options now unit state).2 = .ok events)
    {event : ObservationEvent} (hevent : event ∈ events) : event.category ∈ categories := by
  rcases mem_reportUnit h hevent with hfailed | ⟨-, hflap⟩
  · rw [unitFailedEvent_category hfailed]
    exact List.mem_cons_self
  · obtain ⟨attributes, -, heq⟩ := bind_eq_ok.mp hflap
    cases heq
    exact List.mem_cons_self

theorem category_of_mem_collectUnitEvents {units : List UnitInfo} {state : FlappingState}
    {events : List ObservationEvent}
    (h : (collectUnitEvents lib options now units state).2 = .ok events)
    {event : ObservationEvent} (hevent : event ∈ events) : event.category ∈ categories := by
  induction units generalizing state events with
  | nil =>
    cases h
    exact absurd hevent List.not_mem_nil
  | cons unit rest ih =>
    unfold collectUnitEvents at h
    split at h
    · rcases hunit : reportUnit lib options now unit state with ⟨next, exn | first⟩
      · rw [hunit] at h
        cases h
      · rw [hunit] at h
        obtain ⟨later, hlater, rfl⟩ := map_eq_ok.mp h
        rcases List.mem_append.mp hevent with hevent | hevent
        · exact category_of_mem_reportUnit (by rw [hunit]) hevent
        · exact ih hlater hevent
    · exact ih h hevent

/-- Every event of the collector is about a unit or a coredump. -/
theorem category_of_mem_collect {state : FlappingState} {scan : Scan}
    {events : List ObservationEvent} (h : (collect lib options state scan).2 = .ok events)
    {event : ObservationEvent} (hevent : event ∈ events) : event.category ∈ categories := by
  rcases mem_collect_cases h hevent with
    ⟨listing, first, -, hunits, hmem⟩ | ⟨coredumps, hcoredumps, hmem⟩
  · exact category_of_mem_collectUnitEvents hunits hmem
  · obtain ⟨entry, hbuilt⟩ := mem_collectCoredumpEvents hcoredumps hmem
    obtain ⟨attributes, -, heq⟩ := bind_eq_ok.mp hbuilt
    cases heq
    exact List.mem_cons_of_mem _ List.mem_cons_self

end SystemdCollector

/-! ## The package collector -/

namespace PacmanCollector

variable {metrics : PacmanCollectorMetrics} {overflow : ℤ → ℤ} {options : PacmanCollectorOptions}

theorem mem_drafts {draft : EventDraft} :
    draft ∈ drafts overflow options metrics
      ↔ (metrics.kernelMismatchDetected = true ∧ draft = kernelDraft metrics) ∨
        (metrics.lock.present = true ∧ draft = lockDraft metrics.lock) ∨
        (0 < signed64 overflow (metrics.pacnewCount + metrics.pacsaveCount) ∧
          draft = orphansDraft options metrics
            (signed64 overflow (metrics.pacnewCount + metrics.pacsaveCount))) ∨
        (metrics.interruptedTransactionDetected = true ∧ draft = transactionDraft metrics) := by
  simp only [drafts, List.mem_append, List.mem_ite_nil_right, List.mem_singleton, or_assoc]

theorem category_of_mem_drafts {draft : EventDraft} (h : draft ∈ drafts overflow options metrics) :
    draft.category = Bytes.ofString "package" := by
  rcases mem_drafts.mp h with ⟨-, rfl⟩ | ⟨-, rfl⟩ | ⟨-, rfl⟩ | ⟨-, rfl⟩
  · rfl
  · unfold lockDraft
    simp only
    split <;> rfl
  · rfl
  · rfl

theorem lockDraft_signal (lock : LockState) :
    (lockDraft lock).signal
      = if lock.isActive then Bytes.ofString "pacman.active_lock"
        else Bytes.ofString "pacman.stale_lock" := by
  unfold lockDraft
  cases lock.isActive <;> rfl

/-- The draft that RULE-KERNEL-001 asks for is there exactly on a mismatch. -/
theorem reports_kernel_iff :
    (∃ draft ∈ drafts overflow options metrics,
        draft.ReportsOn "package" "kernel" "pacman.kernel_mismatch")
      ↔ metrics.kernelMismatchDetected = true := by
  constructor
  · rintro ⟨draft, hmem, -, -, hsignal, -⟩
    rcases mem_drafts.mp hmem with ⟨hkernel, -⟩ | ⟨-, rfl⟩ | ⟨-, rfl⟩ | ⟨-, rfl⟩
    · exact hkernel
    · rw [lockDraft_signal] at hsignal
      split at hsignal
      · exact absurd hsignal (by decide)
      · exact absurd hsignal (by decide)
    · exact absurd (show Bytes.ofString "pacman.pacnew_files" = _ from hsignal) (by decide)
    · exact absurd (show Bytes.ofString "pacman.interrupted_transaction" = _ from hsignal)
        (by decide)
  · intro hkernel
    exact ⟨kernelDraft metrics, mem_drafts.mpr (Or.inl ⟨hkernel, rfl⟩), rfl, rfl, rfl, le_rfl⟩

/-- The draft that RULE-PACMAN-001 asks for is there exactly with a lock of no running
process. -/
theorem reports_lock_iff :
    (∃ draft ∈ drafts overflow options metrics,
        draft.ReportsOn "package" "pacman_db" "pacman.stale_lock")
      ↔ metrics.lock.present = true ∧ metrics.lock.isActive = false := by
  constructor
  · rintro ⟨draft, hmem, -, -, hsignal, -⟩
    rcases mem_drafts.mp hmem with ⟨-, rfl⟩ | ⟨hpresent, rfl⟩ | ⟨-, rfl⟩ | ⟨-, rfl⟩
    · exact absurd (show Bytes.ofString "pacman.kernel_mismatch" = _ from hsignal) (by decide)
    · refine ⟨hpresent, ?_⟩
      rw [lockDraft_signal] at hsignal
      cases hactive : metrics.lock.isActive with
      | false => rfl
      | true =>
        rw [hactive, if_pos rfl] at hsignal
        exact absurd hsignal (by decide)
    · exact absurd (show Bytes.ofString "pacman.pacnew_files" = _ from hsignal) (by decide)
    · exact absurd (show Bytes.ofString "pacman.interrupted_transaction" = _ from hsignal)
        (by decide)
  · rintro ⟨hpresent, hstale⟩
    refine ⟨lockDraft metrics.lock, mem_drafts.mpr (Or.inr (Or.inl ⟨hpresent, rfl⟩)), ?_⟩
    unfold lockDraft
    rw [hstale]
    exact ⟨rfl, rfl, rfl, le_rfl⟩

end PacmanCollector

/-! ## The storage collector -/

namespace StorageCollector

variable {metrics : StorageMetrics} {options : StorageCollectorOptions}

/-- The signals of RULE-STORAGE-001. -/
def pressureSignals : List Bytes := [ "space_pressure", "inode_pressure" ]

/-- The mount was inspected, and its space or its inodes are used up to the warning
threshold at least. -/
def Pressured (options : StorageCollectorOptions) (metrics : StorageMetrics) : Prop :=
  metrics.statSuccess = true ∧
    (Double.le options.warningThreshold metrics.percentUsed = true ∨
      Double.le options.warningThreshold metrics.inodePercentUsed = true)

/-- The pressure events of a mount: none when it was not inspected. -/
def mountPressure (options : StorageCollectorOptions) (metrics : StorageMetrics) :
    List EventDraft :=
  if metrics.statSuccess then pressureDrafts options metrics else []

theorem mountPressure_ne_nil_iff : mountPressure options metrics ≠ [] ↔ Pressured options metrics := by
  unfold mountPressure Pressured pressureDrafts pressure
  cases metrics.statSuccess with
  | false => simp
  | true =>
    simp only [if_true, true_and, ne_eq, List.append_eq_nil_iff, ite_eq_right_iff,
      List.cons_ne_nil, imp_false]
    tauto

theorem category_of_mem_drafts {draft : EventDraft} (h : draft ∈ drafts options metrics) :
    draft.category = Bytes.ofString "storage" := by
  unfold drafts at h
  split at h
  · simp only [pressureDrafts, List.mem_append, List.mem_ite_nil_right, List.mem_singleton,
      mem_pressure] at h
    rcases h with ⟨-, rfl⟩ | ⟨-, rfl⟩ | ⟨-, rfl⟩ <;> rfl
  · rw [List.mem_singleton.mp h]
    rfl

theorem reports_of_mem_pressure {signal : Bytes} {percent : Double} {draft : EventDraft}
    (hsignal : signal ∈ pressureSignals) (h : draft ∈ pressure options metrics signal percent) :
    draft.Reports "storage" pressureSignals := by
  obtain ⟨-, rfl⟩ := mem_pressure.mp h
  refine ⟨rfl, hsignal, ?_⟩
  show 2 ≤ (if _ then Severity.critical else Severity.warning).rank
  split
  · exact Nat.le_add_left 2 2
  · exact le_rfl

/-- Of the drafts of a mount, RULE-STORAGE-001 asks for exactly the pressure drafts. -/
theorem filter_drafts :
    ((drafts options metrics).filter fun draft =>
        decide (draft.Reports "storage" pressureSignals)) = mountPressure options metrics := by
  unfold drafts mountPressure
  split
  · have hpressure : ∀ draft ∈ pressureDrafts options metrics,
        decide (draft.Reports "storage" pressureSignals) = true := by
      intro draft hmem
      rcases List.mem_append.mp hmem with hmem | hmem
      · exact decide_eq_true (reports_of_mem_pressure List.mem_cons_self hmem)
      · exact decide_eq_true
          (reports_of_mem_pressure (List.mem_cons_of_mem _ List.mem_cons_self) hmem)
    rw [List.filter_append, List.filter_eq_self.mpr hpressure]
    have hreadOnly : ¬ (readOnlyDraft metrics).Reports "storage" pressureSignals := by
      rintro ⟨-, hsignal, -⟩
      exact absurd (show Bytes.ofString "read_only_filesystem" ∈ _ from hsignal) (by decide)
    split <;> simp [hreadOnly]
  · have hfailure : ¬ (statFailureDraft metrics).Reports "storage" pressureSignals := by
      rintro ⟨-, hsignal, -⟩
      exact absurd (show Bytes.ofString "stat_failure" ∈ _ from hsignal) (by decide)
    simp [hfailure]

end StorageCollector

/-! ## A whole pass -/

/-- What one pass of the four collectors reads, and under which options. -/
structure CollectorPass where
  systemdOptions : SystemdCollectorOptions := {}
  flapping : SystemdCollector.FlappingState := SystemdCollector.FlappingState.empty
  scan : SystemdCollector.Scan
  storageOptions : StorageCollectorOptions := {}
  mounts : List StorageMetrics
  memoryOptions : MemoryCollectorOptions := {}
  memory : MemoryMetrics
  pacmanOptions : PacmanCollectorOptions := {}
  packages : PacmanCollectorMetrics
  /-- What a signed addition gives when it does not fit. -/
  overflow : ℤ → ℤ
  storageClock : ℕ → TimePoint
  memoryClock : ℕ → TimePoint
  pacmanClock : ℕ → TimePoint

namespace CollectorPass

variable {lib : CppLib} {what : Exn → Bytes} {stamp : ℕ → Bytes × Bytes} {pass : CollectorPass}

/-- What the four collectors do. -/
def outcomes (lib : CppLib) (pass : CollectorPass) : Daemon.CollectorOutcomes Exn where
  systemd := (SystemdCollector.collect lib pass.systemdOptions pass.flapping pass.scan).2
  storage := StorageCollector.collect lib pass.storageOptions pass.storageClock pass.mounts
  memory := MemoryCollector.collect lib pass.memoryOptions pass.memoryClock pass.memory
  pacman := .ok
    (PacmanCollector.collect lib pass.overflow pass.pacmanOptions pass.pacmanClock pass.packages)

/-- The events of the pass. -/
def events (lib : CppLib) (what : Exn → Bytes) (pass : CollectorPass) : List ObservationEvent :=
  (Daemon.collectAllEvents what (pass.outcomes lib)).1

/-- The findings of the built-in rules on the events of the pass. -/
def findings (lib : CppLib) (what : Exn → Bytes) (stamp : ℕ → Bytes × Bytes)
    (pass : CollectorPass) : List DiagnosticFinding :=
  evaluate lib stamp builtInRules (pass.events lib what)

/-- Every text that the package and the storage collector have read is UTF-8. -/
structure Utf8 (pass : CollectorPass) : Prop where
  packages : PacmanCollector.Utf8 pass.packages
  mounts : ∀ mount ∈ pass.mounts, StorageCollector.Utf8 mount

/-- The events of the pass by collector. -/
theorem events_eq {storage : List ObservationEvent}
    (h : (pass.outcomes lib).storage = .ok storage) :
    pass.events lib what
      = (pass.outcomes lib).systemd.toOption.getD [] ++ (storage ++
        ((pass.outcomes lib).memory.toOption.getD [] ++
          PacmanCollector.collect lib pass.overflow pass.pacmanOptions pass.pacmanClock
            pass.packages)) := by
  rw [events, Daemon.collectAllEvents_fst]
  simp only [Daemon.CollectorOutcomes.survivors, Daemon.CollectorOutcomes.toList,
    List.flatMap_cons, List.flatMap_nil, List.append_nil, h]
  rfl

theorem mem_of_mem_getD {outcome : Except Exn (List ObservationEvent)} {event : ObservationEvent}
    (h : event ∈ outcome.toOption.getD []) : ∃ events, outcome = .ok events ∧ event ∈ events := by
  cases outcome with
  | error exn => exact absurd h List.not_mem_nil
  | ok events => exact ⟨events, rfl, h⟩

theorem category_of_mem_systemd {event : ObservationEvent}
    (h : event ∈ (pass.outcomes lib).systemd.toOption.getD []) :
    event.category ∈ SystemdCollector.categories := by
  obtain ⟨events, hok, hmem⟩ := mem_of_mem_getD h
  exact SystemdCollector.category_of_mem_collect hok hmem

theorem category_of_mem_memory {event : ObservationEvent}
    (h : event ∈ (pass.outcomes lib).memory.toOption.getD []) :
    event.category = Bytes.ofString "memory" := by
  obtain ⟨events, hok, hmem⟩ := mem_of_mem_getD h
  exact (MemoryCollector.mem_collect hok hmem).1

/-- Every event of the storage collector has the category `storage`. -/
theorem category_of_mem_storage {storage : List ObservationEvent}
    (h : (pass.outcomes lib).storage = .ok storage) {event : ObservationEvent}
    (hevent : event ∈ storage) : event.category = Bytes.ofString "storage" := by
  obtain ⟨draft, hmem, hemits⟩ :=
    EventDraft.exists_draft_of_mem (StorageCollector.forall₂_collectFrom h) hevent
  obtain ⟨mount, -, hdraft⟩ := List.mem_flatMap.mp hmem
  rw [hemits.fields.1, StorageCollector.category_of_mem_drafts hdraft]

/-- Every event of the package collector has the category `package`. -/
theorem category_of_mem_pacman (h : pass.Utf8) {event : ObservationEvent}
    (hevent : event ∈ PacmanCollector.collect lib pass.overflow pass.pacmanOptions
      pass.pacmanClock pass.packages) : event.category = Bytes.ofString "package" := by
  obtain ⟨draft, hmem, hemits⟩ :=
    EventDraft.exists_draft_of_mem (PacmanCollector.forall₂_collect h.packages) hevent
  rw [hemits.fields.1, PacmanCollector.category_of_mem_drafts hmem]

theorem storage_eq_ok (h : pass.Utf8) :
    ∃ storage, (pass.outcomes lib).storage = .ok storage :=
  StorageCollector.collectFrom_eq_ok h.mounts

/-- A question about events of the category `package` is one about the drafts of the
package collector. -/
theorem exists_package_iff (h : pass.Utf8) {subject signal : Bytes} :
    (∃ event ∈ pass.events lib what, ReportsOn "package" subject signal event)
      ↔ ∃ draft ∈ PacmanCollector.drafts pass.overflow pass.pacmanOptions pass.packages,
        draft.ReportsOn "package" subject signal := by
  obtain ⟨storage, hstorage⟩ := @storage_eq_ok lib pass h
  rw [← EventDraft.exists_emitted_iff
    (@PacmanCollector.forall₂_collect _ pass.overflow pass.pacmanOptions lib pass.pacmanClock
      h.packages) fun draft event hemits => hemits.reportsOn_iff, events_eq hstorage]
  constructor
  · rintro ⟨event, hmem, hreports⟩
    simp only [List.mem_append] at hmem
    rcases hmem with hmem | hmem | hmem | hmem
    · exact absurd (hreports.1 ▸ category_of_mem_systemd hmem) (by decide)
    · exact absurd (hreports.1.symm.trans (category_of_mem_storage hstorage hmem)) (by decide)
    · exact absurd (hreports.1.symm.trans (category_of_mem_memory hmem)) (by decide)
    · exact ⟨event, hmem, hreports⟩
  · rintro ⟨event, hmem, hreports⟩
    refine ⟨event, ?_, hreports⟩
    exact List.mem_append_right _ (List.mem_append_right _ (List.mem_append_right _ hmem))

/-- RULE-STORAGE-001 asks for events of the storage collector only. -/
theorem filter_events (h : pass.Utf8) {storage : List ObservationEvent}
    (hstorage : (pass.outcomes lib).storage = .ok storage) :
    ((pass.events lib what).filter fun event =>
        decide (Reports "storage" StorageCollector.pressureSignals event))
      = storage.filter fun event =>
        decide (Reports "storage" StorageCollector.pressureSignals event) := by
  have hnone : ∀ {other : List ObservationEvent},
      (∀ event ∈ other, event.category ≠ Bytes.ofString "storage") →
      (other.filter fun event =>
        decide (Reports "storage" StorageCollector.pressureSignals event)) = [] := by
    intro other hother
    refine List.filter_eq_nil_iff.mpr fun event hmem hreports => ?_
    exact hother event hmem (of_decide_eq_true hreports).1
  have hsystemd := hnone fun event (hmem : event ∈ (pass.outcomes lib).systemd.toOption.getD [])
    hcategory => absurd (hcategory ▸ category_of_mem_systemd hmem) (by decide)
  have hmemory := hnone fun event (hmem : event ∈ (pass.outcomes lib).memory.toOption.getD [])
    hcategory => absurd (hcategory.symm.trans (category_of_mem_memory hmem)) (by decide)
  have hpacman := hnone fun event (hmem : event ∈ PacmanCollector.collect lib pass.overflow
    pass.pacmanOptions pass.pacmanClock pass.packages) hcategory =>
      absurd (hcategory.symm.trans (category_of_mem_pacman h hmem)) (by decide)
  rw [events_eq hstorage, List.filter_append, List.filter_append, List.filter_append, hsystemd,
    hmemory, hpacman, List.nil_append, List.append_nil, List.append_nil]

/-- The pressure events that the storage collector returns are those of its mounts. -/
theorem forall₂_pressure {storage : List ObservationEvent}
    (hstorage : (pass.outcomes lib).storage = .ok storage) :
    List.Forall₂ (EventDraft.Emits lib)
      (pass.mounts.flatMap (StorageCollector.mountPressure pass.storageOptions))
      (storage.filter fun event =>
        decide (Reports "storage" StorageCollector.pressureSignals event)) := by
  have hfilter : (pass.mounts.flatMap (StorageCollector.drafts pass.storageOptions)).filter
      (fun draft => decide (draft.Reports "storage" StorageCollector.pressureSignals))
        = pass.mounts.flatMap (StorageCollector.mountPressure pass.storageOptions) := by
    rw [List.filter_flatMap]
    simp only [StorageCollector.filter_drafts]
  rw [← hfilter]
  refine List.rel_filter (fun draft event hemits => ?_)
    (StorageCollector.forall₂_collectFrom hstorage)
  simp only [decide_eq_true_eq]
  exact hemits.reports_iff.symm

/-- The findings of the pass contain one of the rule. -/
def Diagnosed (lib : CppLib) (what : Exn → Bytes) (stamp : ℕ → Bytes × Bytes)
    (pass : CollectorPass) (ruleId : Bytes) : Prop :=
  ∃ finding ∈ pass.findings lib what stamp, finding.ruleId = ruleId

/-- The three rules say what the metrics say. The matched events of RULE-STORAGE-001 are
those events of the storage collector that were made for space or inode pressure, one for
each mount and kind. -/
structure WarningsExact (lib : CppLib) (what : Exn → Bytes) (stamp : ℕ → Bytes × Bytes)
    (pass : CollectorPass) : Prop where
  kernel : pass.Diagnosed lib what stamp "RULE-KERNEL-001"
    ↔ pass.packages.kernelMismatchDetected = true
  lock : pass.Diagnosed lib what stamp "RULE-PACMAN-001"
    ↔ pass.packages.lock.present = true ∧ pass.packages.lock.isActive = false
  storage : pass.Diagnosed lib what stamp "RULE-STORAGE-001"
    ↔ ∃ mount ∈ pass.mounts, StorageCollector.Pressured pass.storageOptions mount
  matched : ∀ finding ∈ pass.findings lib what stamp,
    finding.ruleId = Bytes.ofString "RULE-STORAGE-001" →
    ∃ storageEvents pressureEvents, (pass.outcomes lib).storage = .ok storageEvents ∧
      pressureEvents.Sublist storageEvents ∧
      List.Forall₂ (EventDraft.Emits lib)
        (pass.mounts.flatMap (StorageCollector.mountPressure pass.storageOptions))
        pressureEvents ∧
      finding.matchedEvents.Perm pressureEvents

/-- A built-in rule is diagnosed exactly when it fires on the events. -/
theorem diagnosed_iff {rule : DiagnosticRule} (hrule : rule ∈ builtInRules) :
    pass.Diagnosed lib what stamp rule.ruleId ↔ Fires lib (pass.events lib what) rule :=
  finding_builtIn_iff hrule

/-- RULE-STORAGE-001 fires exactly when some mount is under pressure. -/
theorem fires_storage_iff (h : pass.Utf8) :
    Fires lib (pass.events lib what) storageRule
      ↔ ∃ mount ∈ pass.mounts, StorageCollector.Pressured pass.storageOptions mount := by
  obtain ⟨storage, hstorage⟩ := @storage_eq_ok lib pass h
  have hfilter : (∃ event ∈ pass.events lib what,
      Reports "storage" StorageCollector.pressureSignals event)
        ↔ ((pass.events lib what).filter fun event =>
          decide (Reports "storage" StorageCollector.pressureSignals event)) ≠ [] := by
    rw [ne_eq, List.filter_eq_nil_iff]
    simp only [decide_eq_true_eq, not_forall, not_not, exists_prop]
  have hnil : ∀ {drafts : List EventDraft} {events : List ObservationEvent},
      List.Forall₂ (EventDraft.Emits lib) drafts events → (events ≠ [] ↔ drafts ≠ []) := by
    intro drafts events hrel
    rw [ne_eq, ne_eq, ← List.length_eq_zero_iff, ← List.length_eq_zero_iff, hrel.length_eq]
  rw [fires_storageRule_iff]
  refine hfilter.trans ?_
  rw [filter_events h hstorage, hnil (forall₂_pressure hstorage), ne_eq, List.flatMap_eq_nil_iff]
  simp only [not_forall, ← ne_eq, StorageCollector.mountPressure_ne_nil_iff, exists_prop]

/-- **Kernel, package lock and storage are diagnosed exactly**, whatever the other
collectors have to say. -/
theorem warnings_exact (lib : CppLib) (what : Exn → Bytes) (stamp : ℕ → Bytes × Bytes)
    (pass : CollectorPass) (h : pass.Utf8) : WarningsExact lib what stamp pass where
  kernel := by
    have hrule : kernelRule ∈ builtInRules := by simp [builtInRules]
    refine (diagnosed_iff hrule).trans ?_
    rw [fires_kernelRule_iff, exists_package_iff h, PacmanCollector.reports_kernel_iff]
  lock := by
    have hrule : pacmanLockRule ∈ builtInRules := by simp [builtInRules]
    refine (diagnosed_iff hrule).trans ?_
    rw [fires_pacmanLockRule_iff, exists_package_iff h, PacmanCollector.reports_lock_iff]
  storage := by
    have hrule : storageRule ∈ builtInRules := by simp [builtInRules]
    exact (diagnosed_iff hrule).trans (fires_storage_iff h)
  matched := by
    intro finding hfinding hid
    have hrule : storageRule ∈ builtInRules := by simp [builtInRules]
    obtain ⟨storage, hstorage⟩ := @storage_eq_ok lib pass h
    refine ⟨storage, _, hstorage, List.filter_sublist, forall₂_pressure hstorage, ?_⟩
    rw [(mem_evaluate_builtIn hrule hfinding hid).2, ← @filter_events lib what pass h _ hstorage]
    exact evaluateRule_storageRule_perm

/-- A mismatched kernel, a lock of a dead process and a full disk, without a system bus. -/
def troubledPass : CollectorPass where
  scan := { now := 1000, bus := .unavailable }
  mounts := [{ mountPath := "/", fstype := "ext4", percentUsed := .finite 97 }]
  memory := {}
  packages :=
    { kernelMismatchDetected := true
      runningKernel := some "6.9.1-arch1-1"
      lock := { present := true, pid := some 42, invalidReason := "process_dead" } }
  overflow := id
  storageClock := fun _ => 1000
  memoryClock := fun _ => 1000
  pacmanClock := fun _ => 1000

/-- All three are diagnosed there. -/
theorem warnings_exact_troubled :
    WarningsExact CppLib.integral (fun _ => []) (fun _ => ([], [])) troubledPass ∧
      troubledPass.Diagnosed CppLib.integral (fun _ => []) (fun _ => ([], [])) "RULE-KERNEL-001" ∧
      StorageCollector.Pressured troubledPass.storageOptions
        { mountPath := "/", fstype := "ext4", percentUsed := .finite 97 } := by
  have hutf8 : troubledPass.Utf8 := by
    have hnone : ∀ text ∈ ([] : List Bytes), validUtf8 text = true :=
      fun _ hmem => absurd hmem List.not_mem_nil
    refine ⟨⟨fun text htext => ?_, hnone, hnone, fun text htext => ?_, rfl, hnone, hnone⟩,
      fun mount hmount => ?_⟩
    · cases htext
      rfl
    · cases htext
    · rw [List.mem_singleton.mp hmount]
      exact ⟨rfl, rfl, rfl, rfl, rfl⟩
  have hexact := warnings_exact CppLib.integral (fun _ => []) (fun _ => ([], [])) troubledPass hutf8
  refine ⟨hexact, hexact.kernel.mpr rfl, rfl, Or.inl ?_⟩
  show decide ((85 : ℚ) ≤ 97) = true
  exact decide_eq_true (by norm_num)

end CollectorPass

end Holonight
