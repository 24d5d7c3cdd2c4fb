import Holonight.Health.EventDraft

/-!
# The package collector (`PacmanCollector.cpp`)

`PacmanCollector::collect` on the metrics it has read: up to four events, for a kernel
without its modules, for a lock of the package database, for configuration files left by
upgrades and for an interrupted transaction. The function is `noexcept`: an exception of
`dump()` ends it with the events made so far.
-/

namespace Holonight

/-- The option of `struct PacmanCollectorOptions` that `collect` reads itself. -/
structure PacmanCollectorOptions where
  warningThreshold : UInt32 := 5

/-- `struct PacmanCollectorMetrics::LockState`; `present` is its `exists`. -/
structure LockState where
  present : Bool := false
  pid : Option ℤ := none
  isActive : Bool := false
  processName : Option Bytes := none
  lockAgeSeconds : Option UInt64 := none
  invalidReason : Bytes := []

/-- `struct PacmanCollectorMetrics`. -/
structure PacmanCollectorMetrics where
  runningKernel : Option Bytes := none
  kernelMismatchDetected : Bool := false
  installedModulesDirs : List Bytes := []
  installedKernelPackages : List Bytes := []
  lock : LockState := {}
  pacnewCount : ℤ := 0
  pacsaveCount : ℤ := 0
  orphanFiles : List Bytes := []
  interruptedTransactionDetected : Bool := false
  transactionArtifacts : List Bytes := []

namespace PacmanCollector

/-- An event of the collector. -/
def packageDraft (subject signal : Bytes) (value : EventValue) (severity : Severity)
    (attributes : List (Bytes × Json)) : EventDraft where
  source := "pacman_collector"
  category := "package"
  subject := subject
  signal := signal
  value := value
  severity := severity
  attributes := .object attributes

/-- A list of texts as a JSON array. -/
def texts (items : List Bytes) : Json := .arr (items.map Json.str)

/-- PacmanCollector.cpp:107–123. -/
def kernelDraft (metrics : PacmanCollectorMetrics) : EventDraft :=
  packageDraft "kernel" "pacman.kernel_mismatch" (.bool true) .warning
    [("running_kernel", .str (metrics.runningKernel.getD "unknown")),
     ("installed_modules_dirs", texts metrics.installedModulesDirs),
     ("installed_kernel_packages", texts metrics.installedKernelPackages)]

/-- The age of the lock, when it is known; the attribute is assigned after the others. -/
def lockAge (lock : LockState) : List (Bytes × Json) :=
  (lock.lockAgeSeconds.map fun age =>
    (Bytes.ofString "lock_age_seconds", Json.uint age.toNat)).toList

/-- PacmanCollector.cpp:125–159: the lock of a process that runs, or one that was left. -/
def lockDraft (lock : LockState) : EventDraft :=
  let pid := lock.pid.getD 0
  if lock.isActive then
    packageDraft "pacman_db" "pacman.active_lock" (.int pid) .info
      (("pid", .int pid) :: ("process_name", .str (lock.processName.getD "unknown")) ::
        lockAge lock)
  else
    packageDraft "pacman_db" "pacman.stale_lock" (.int pid) .warning
      (("pid", .int pid) :: ("reason", .str lock.invalidReason) :: lockAge lock)

/-- PacmanCollector.cpp:161–179. -/
def orphansDraft (options : PacmanCollectorOptions) (metrics : PacmanCollectorMetrics)
    (totalOrphans : ℤ) : EventDraft :=
  packageDraft "config_files" "pacman.pacnew_files" (.int totalOrphans)
    (if (options.warningThreshold.toNat : ℤ) ≤ totalOrphans then .warning else .info)
    [("pacnew_count", .int metrics.pacnewCount),
     ("pacsave_count", .int metrics.pacsaveCount),
     ("orphan_files", texts metrics.orphanFiles)]

/-- PacmanCollector.cpp:181–196. -/
def transactionDraft (metrics : PacmanCollectorMetrics) : EventDraft :=
  packageDraft "pacman_db" "pacman.interrupted_transaction" (.bool true) .warning
    [("reason", .str "temporary_transaction_artifacts_found"),
     ("transaction_artifacts", texts metrics.transactionArtifacts)]

/-- The drafts of one pass, in the order of the source. The sum of the two counts is a
signed addition: `overflow` is what it gives when it does not fit. -/
def drafts (overflow : ℤ → ℤ) (options : PacmanCollectorOptions)
    (metrics : PacmanCollectorMetrics) : List EventDraft :=
  let totalOrphans := signed64 overflow (metrics.pacnewCount + metrics.pacsaveCount)
  (if metrics.kernelMismatchDetected then [kernelDraft metrics] else []) ++
  (if metrics.lock.present then [lockDraft metrics.lock] else []) ++
  (if 0 < totalOrphans then [orphansDraft options metrics totalOrphans] else []) ++
  (if metrics.interruptedTransactionDetected then [transactionDraft metrics] else [])

/-- `PacmanCollector::collect` (PacmanCollector.cpp:101–202) on the metrics it has read. -/
def collect (lib : CppLib) (overflow : ℤ → ℤ) (options : PacmanCollectorOptions)
    (clock : ℕ → TimePoint) (metrics : PacmanCollectorMetrics) : List ObservationEvent :=
  EventDraft.emitUntilThrow lib clock 0 (drafts overflow options metrics)

/-! ## Texts -/

/-- Every text of the metrics is UTF-8. -/
structure Utf8 (metrics : PacmanCollectorMetrics) : Prop where
  runningKernel : ∀ text ∈ metrics.runningKernel, validUtf8 text = true
  installedModulesDirs : ∀ text ∈ metrics.installedModulesDirs, validUtf8 text = true
  installedKernelPackages : ∀ text ∈ metrics.installedKernelPackages, validUtf8 text = true
  processName : ∀ text ∈ metrics.lock.processName, validUtf8 text = true
  invalidReason : validUtf8 metrics.lock.invalidReason = true
  orphanFiles : ∀ text ∈ metrics.orphanFiles, validUtf8 text = true
  transactionArtifacts : ∀ text ∈ metrics.transactionArtifacts, validUtf8 text = true

section Texts

variable {metrics : PacmanCollectorMetrics} {overflow : ℤ → ℤ} {options : PacmanCollectorOptions}

theorem validUtf8_getD {text : Option Bytes} {default : Bytes}
    (h : ∀ t ∈ text, validUtf8 t = true) (hdefault : validUtf8 default = true) :
    validUtf8 (text.getD default) = true := by
  cases text with
  | none => exact hdefault
  | some t => exact h t rfl

theorem utf8_texts_iff {items : List Bytes} :
    (texts items).utf8 = true ↔ ∀ text ∈ items, validUtf8 text = true := by
  rw [texts, Json.utf8, Json.utf8Items_iff, List.forall_mem_map]
  exact Iff.rfl

theorem utf8_kernelDraft_iff :
    (kernelDraft metrics).attributes.utf8 = true ↔
      validUtf8 (metrics.runningKernel.getD "unknown") = true ∧
        (∀ text ∈ metrics.installedModulesDirs, validUtf8 text = true) ∧
        ∀ text ∈ metrics.installedKernelPackages, validUtf8 text = true := by
  -- the library keeps the fields of an object sorted by key
  have hfields : (kernelDraft metrics).attributes.utf8
      = (true && (texts metrics.installedKernelPackages).utf8
        && (true && (texts metrics.installedModulesDirs).utf8
        && (true && validUtf8 (metrics.runningKernel.getD "unknown") && true))) := rfl
  rw [hfields]
  simp only [Bool.true_and, Bool.and_true, Bool.and_eq_true, utf8_texts_iff]
  tauto

/-- The text of a lock is the process name of an active one and the reason of a stale one. -/
theorem utf8_lockDraft (lock : LockState) :
    (lockDraft lock).attributes.utf8
      = validUtf8 (if lock.isActive then lock.processName.getD "unknown"
          else lock.invalidReason) := by
  rw [lockDraft]
  cases lock.isActive with
  | true =>
    rw [if_pos rfl, if_pos rfl, lockAge]
    cases lock.lockAgeSeconds with
    | none =>
      show (true && (true && validUtf8 _ && true)) = _
      simp
    | some age =>
      show (true && true && (true && true && (true && validUtf8 _ && true))) = _
      simp
  | false =>
    rw [if_neg Bool.false_ne_true, if_neg Bool.false_ne_true, lockAge]
    cases lock.lockAgeSeconds with
    | none =>
      show (true && true && (true && validUtf8 _ && true)) = _
      simp
    | some age =>
      show (true && true && (true && true && (true && validUtf8 _ && true))) = _
      simp

theorem utf8_orphansDraft_iff {total : ℤ} :
    (orphansDraft options metrics total).attributes.utf8 = true ↔
      ∀ text ∈ metrics.orphanFiles, validUtf8 text = true := by
  have hfields : (orphansDraft options metrics total).attributes.utf8
      = (true && (texts metrics.orphanFiles).utf8 && (true && true && (true && true && true))) := rfl
  rw [hfields, ← utf8_texts_iff]
  simp

theorem utf8_transactionDraft_iff :
    (transactionDraft metrics).attributes.utf8 = true ↔
      ∀ text ∈ metrics.transactionArtifacts, validUtf8 text = true := by
  have hfields : (transactionDraft metrics).attributes.utf8
      = (true && (true && (texts metrics.transactionArtifacts).utf8 && true)) := rfl
  rw [hfields, ← utf8_texts_iff]
  simp

/-- Metrics with UTF-8 texts give drafts that can be serialised. -/
theorem utf8_drafts (h : Utf8 metrics) :
    ∀ draft ∈ drafts overflow options metrics, draft.attributes.utf8 = true := by
  intro draft hmem
  simp only [drafts, List.mem_append, List.mem_ite_nil_right, List.mem_singleton] at hmem
  rcases hmem with ((⟨-, rfl⟩ | ⟨-, rfl⟩) | ⟨-, rfl⟩) | ⟨-, rfl⟩
  · exact utf8_kernelDraft_iff.mpr ⟨validUtf8_getD h.runningKernel rfl, h.installedModulesDirs,
      h.installedKernelPackages⟩
  · rw [utf8_lockDraft]
    split
    case isTrue => exact validUtf8_getD h.processName rfl
    case isFalse => exact h.invalidReason
  · exact utf8_orphansDraft_iff.mpr h.orphanFiles
  · exact utf8_transactionDraft_iff.mpr h.transactionArtifacts

/-- With UTF-8 texts there is one event for each draft. -/
theorem forall₂_collect {lib : CppLib} {clock : ℕ → TimePoint} (h : Utf8 metrics) :
    List.Forall₂ (EventDraft.Emits lib) (drafts overflow options metrics)
      (collect lib overflow options clock metrics) :=
  EventDraft.forall₂_emitUntilThrow (utf8_drafts h)

end Texts

end PacmanCollector

end Holonight
