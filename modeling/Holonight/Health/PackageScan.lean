import Holonight.Base.Words
import Holonight.Health.OrphanScan
import Holonight.Health.PassDiagnosis

/-!
# The package scan (`PacmanCollector.cpp`)

`PacmanCollector::collectMetrics` reads the files of the system: the kernel that runs and the
modules and packages that are installed, the lock of the package database, the files that upgrades
have left, and what an interrupted transaction has left. It looks at nothing when the database is
missing, and the range loops over its directories throw when a directory cannot be read to its end;
`collect` then has no events at all.

`package_diagnosis_exact` follows the two built-in rules about packages from the files to the
diagnosis, with all that can come between: RULE-PACMAN-001 is diagnosed exactly when the lock file
is there and does not name a running process, and RULE-KERNEL-001 exactly when the running kernel
has no modules any more, both as long as no directory fails and no unreadable kernel name throws.
-/

namespace Holonight

namespace EventDraft

/-- `json::dump()` does not throw. -/
def serialisable (draft : EventDraft) : Bool := draft.attributes.utf8

/-- What is emitted are the drafts before the first that throws. -/
theorem forall₂_takeWhile {lib : CppLib} {clock : ℕ → TimePoint} {drafts : List EventDraft}
    {made : ℕ} :
    List.Forall₂ (Emits lib) (drafts.takeWhile serialisable)
      (emitUntilThrow lib clock made drafts) := by
  induction drafts generalizing made with
  | nil => exact .nil
  | cons draft rest ih =>
    by_cases hutf8 : draft.serialisable = true
    · obtain ⟨event, hevent⟩ := @emit_eq_ok lib draft (clock made) hutf8
      rw [List.takeWhile_cons_of_pos hutf8, emitUntilThrow, hevent]
      exact .cons ⟨clock made, hevent⟩ ih
    · have hempty := @emitUntilThrow_append lib clock draft [] made rest
        (Bool.not_eq_true _ ▸ hutf8)
      rw [List.nil_append] at hempty
      rw [List.takeWhile_cons_of_neg hutf8, hempty]
      exact .nil

end EventDraft

namespace PacmanCollector

/-! ## Files -/

/-- What is found at a path when links are followed. -/
inductive FileKind where
  | directory
  | other
  deriving DecidableEq

/-- An entry of a directory; whether it is one itself is asked through links. -/
structure DirEntry where
  name : Bytes
  isDirectory : Bool

/-- What a directory iterator yields, and whether it then throws. -/
structure DirRead where
  entries : List DirEntry
  fails : Bool := false

/-- The files of the system as one pass finds them: their kinds, the contents of those that can be
opened, their directories and times, and the trees that the orphan scan walks. -/
structure FileSystem where
  kind : Bytes → Option FileKind
  text : Bytes → Option Bytes := fun _ => none
  read : Bytes → DirRead := fun _ => { entries := [] }
  written : Bytes → Option ℤ := fun _ => none
  tree : Bytes → Option DirectoryTree := fun _ => none

namespace FileSystem

variable (files : FileSystem)

/-- `std::filesystem::exists`. -/
def present (path : Bytes) : Bool := (files.kind path).isSome

/-- `std::filesystem::is_directory`. -/
def isDirectory (path : Bytes) : Bool := decide (files.kind path = some .directory)

/-- The loop over a directory; `none` when its iterator throws. -/
def entries (path : Bytes) : Option (List DirEntry) :=
  if files.isDirectory path then
    if (files.read path).fails then none else some (files.read path).entries
  else some []

/-- A string that is extracted from a file, after `index` others. -/
def word (path : Bytes) (index : ℕ) : Option Bytes :=
  if files.present path then
    (files.text path).bind fun text => (wordsBy isSpaceByte text)[index]?
  else none

end FileSystem

/-- `path / name`: an absolute name replaces the path. -/
def appendPath (path name : Bytes) : Bytes :=
  if name.head? = some 47 then name else joinPath path name

/-! ## The code -/

/-- `readOsReleaseKernel` (PacmanCollector.cpp:37–47). -/
def readOsReleaseKernel (files : FileSystem) (path : Bytes) : Option Bytes := files.word path 0

/-- `readProcVersionKernel` (PacmanCollector.cpp:49–61). -/
def readProcVersionKernel (files : FileSystem) (path : Bytes) : Option Bytes := files.word path 2

/-- The release of the running kernel (PacmanCollector.cpp:208–211). -/
def runningKernel (files : FileSystem) (options : PacmanOptions) : Option Bytes :=
  (readOsReleaseKernel files (resolvePath options "proc/sys/kernel/osrelease")).or
    (readProcVersionKernel files (resolvePath options "proc/version"))

def modulesPath (options : PacmanOptions) : Bytes := resolvePath options "usr/lib/modules"

def localPath (options : PacmanOptions) : Bytes :=
  joinPath (resolvePath options options.dbPath) "local"

/-- `PacmanCollector::evaluateKernelState` (PacmanCollector.cpp:204–247). -/
def evaluateKernelState (files : FileSystem) (options : PacmanOptions)
    (metrics : PacmanCollectorMetrics) : Option PacmanCollectorMetrics := do
  let running := runningKernel files options
  let modules ← files.entries (modulesPath options)
  let packages ← files.entries (localPath options)
  let mismatch :=
    match running with
    | some release =>
      files.present (modulesPath options) &&
        !files.present (appendPath (modulesPath options) release)
    | none => false
  return { metrics with
    runningKernel := running
    installedModulesDirs := metrics.installedModulesDirs ++
      (modules.filter DirEntry.isDirectory).map DirEntry.name
    installedKernelPackages := metrics.installedKernelPackages ++
      (packages.filter fun entry =>
        entry.isDirectory && (Bytes.ofString "linux-").isPrefixOf entry.name).map DirEntry.name
    kernelMismatchDetected := metrics.kernelMismatchDetected || mismatch }

/-- `time_point_cast<seconds>`: towards zero. -/
def wholeSeconds (time : ℤ) : ℤ := time.tdiv 1000000000

/-- The age of the lock file, when it can be told and is not negative
(PacmanCollector.cpp:261–269). -/
def measureAge (written : Option ℤ) (now : ℤ) : Option UInt64 :=
  written.bind fun ftime =>
    if wholeSeconds ftime ≤ wholeSeconds now then
      some (UInt64.ofNat (wholeSeconds now - wholeSeconds ftime).toNat)
    else none

/-- `std::stoi`; `none` when it throws. -/
def stoi (s : Bytes) : Option ℤ := (stoll s).filter fun value => decide (InInt32 value)

def lockPath (options : PacmanOptions) : Bytes :=
  joinPath (resolvePath options options.dbPath) "db.lck"

/-- The directory of a process. -/
def procDir (options : PacmanOptions) (pid : ℤ) : Bytes :=
  joinPath (resolvePath options "proc") (decimal pid)

/-- What is read of the lock file (PacmanCollector.cpp:272–307). -/
def readLock (files : FileSystem) (options : PacmanOptions) (lock : LockState)
    (pidStr : Option Bytes) : LockState :=
  match pidStr with
  | none => { lock with invalidReason := "empty_or_unreadable_lock", isActive := false }
  | some pidStr =>
    match stoi pidStr with
    | none => { lock with invalidReason := "invalid_pid", isActive := false }
    | some pid =>
      let lock := { lock with pid := some pid }
      if pid ≤ 0 then { lock with invalidReason := "invalid_pid", isActive := false }
      else if files.isDirectory (procDir options pid) then
        { lock with
          isActive := true
          processName := (files.word (joinPath (procDir options pid) "comm") 0).or
            lock.processName }
      else { lock with isActive := false, invalidReason := "process_dead" }

/-- `PacmanCollector::evaluateLockState` (PacmanCollector.cpp:249–308). -/
def evaluateLockState (files : FileSystem) (options : PacmanOptions) (now : ℤ)
    (metrics : PacmanCollectorMetrics) : PacmanCollectorMetrics :=
  if files.present (lockPath options) then
    let lock := { metrics.lock with
      present := true
      lockAgeSeconds := (measureAge (files.written (lockPath options)) now).or
        metrics.lock.lockAgeSeconds }
    { metrics with lock := readLock files options lock (files.word (lockPath options) 0) }
  else { metrics with lock := { metrics.lock with present := false } }

/-- The name of what a transaction leaves (PacmanCollector.cpp:353). -/
def isArtifact (filename : Bytes) : Bool :=
  (Bytes.ofString ".tmp").isSuffixOf filename || (Bytes.ofString "ALPM_DB_").isPrefixOf filename

/-- `PacmanCollector::evaluateTransactions` (PacmanCollector.cpp:343–358). -/
def evaluateTransactions (files : FileSystem) (options : PacmanOptions)
    (metrics : PacmanCollectorMetrics) : Option PacmanCollectorMetrics := do
  let entries ← files.entries (localPath options)
  let artifacts := entries.filter fun entry => isArtifact entry.name
  return { metrics with
    interruptedTransactionDetected :=
      metrics.interruptedTransactionDetected || !artifacts.isEmpty
    transactionArtifacts := metrics.transactionArtifacts ++
      artifacts.map fun entry => joinPath (localPath options) entry.name }

/-- `PacmanCollector::collectMetrics` (PacmanCollector.cpp:75–99); `none` when it throws. -/
def collectMetrics (files : FileSystem) (options : PacmanOptions) (now : ℤ) :
    Option PacmanCollectorMetrics :=
  if files.present (resolvePath options options.dbPath) then
    (if options.checkKernel then evaluateKernelState files options {} else some {}).bind
      fun metrics =>
        let locked :=
          if options.checkLocks then evaluateLockState files options now metrics else metrics
        let scanned :=
          if options.checkOrphans then
            evaluateOrphanConfigs options (files.tree (resolvePath options options.etcPath)) locked
          else locked
        if options.checkTransactions then evaluateTransactions files options scanned
        else some scanned
  else some {}

/-- `PacmanCollector::collect` (PacmanCollector.cpp:101–202). -/
def collectPass (lib : CppLib) (overflow : ℤ → ℤ) (options : PacmanOptions) (files : FileSystem)
    (now : ℤ) (clock : ℕ → TimePoint) : List ObservationEvent :=
  match collectMetrics files options now with
  | none => []
  | some metrics => collect lib overflow options.toPacmanCollectorOptions clock metrics

/-! ## What is to be found -/

/-- The lock file names a process that runs. -/
def LockHeld (files : FileSystem) (options : PacmanOptions) : Prop :=
  ∃ pidStr pid, files.word (lockPath options) 0 = some pidStr ∧ stoi pidStr = some pid ∧ 0 < pid ∧
    files.kind (procDir options pid) = some .directory

/-- The lock file is there, and no process holds it. -/
def LockLeft (files : FileSystem) (options : PacmanOptions) : Prop :=
  files.present (lockPath options) = true ∧ ¬ LockHeld files options

/-- The modules of the running kernel are gone. -/
def ModulesGone (files : FileSystem) (options : PacmanOptions) : Prop :=
  ∃ release, runningKernel files options = some release ∧
    files.present (modulesPath options) = true ∧
    files.present (appendPath (modulesPath options) release) = false

/-- No directory that is looked at fails. -/
def Completes (files : FileSystem) (options : PacmanOptions) : Prop :=
  (options.checkKernel = true → (files.entries (modulesPath options)).isSome = true) ∧
    (options.checkKernel = true ∨ options.checkTransactions = true →
      (files.entries (localPath options)).isSome = true)

/-- The names in the event about the kernel are UTF-8. -/
def KernelReadable (files : FileSystem) (options : PacmanOptions) : Prop :=
  (∀ release ∈ runningKernel files options, validUtf8 release = true) ∧
    (∀ entries ∈ files.entries (modulesPath options), ∀ entry ∈ entries,
      entry.isDirectory = true → validUtf8 entry.name = true) ∧
    ∀ entries ∈ files.entries (localPath options), ∀ entry ∈ entries,
      entry.isDirectory = true → (Bytes.ofString "linux-").isPrefixOf entry.name = true →
        validUtf8 entry.name = true

section Metrics

variable {files : FileSystem} {options : PacmanOptions} {now : ℤ}
  {metrics after : PacmanCollectorMetrics}

/-- **A lock is active** exactly when a running process holds it. -/
theorem isActive_readLock (lock : LockState) :
    (readLock files options lock (files.word (lockPath options) 0)).isActive = true ↔
      LockHeld files options := by
  unfold readLock LockHeld
  cases hword : files.word (lockPath options) 0 with
  | none => simp
  | some pidStr =>
    cases hpid : stoi pidStr with
    | none => simp [hpid]
    | some pid =>
      simp only [hpid, Option.some.injEq, exists_eq_left', exists_and_left]
      by_cases hpos : pid ≤ 0
      · simp [hpos, not_lt.mpr hpos]
      · by_cases hdir : files.kind (procDir options pid) = some .directory
        · simp [hpos, not_le.mp hpos, FileSystem.isDirectory, hdir]
        · simp [hpos, FileSystem.isDirectory, hdir]

theorem present_readLock (lock : LockState) (pidStr : Option Bytes) :
    (readLock files options lock pidStr).present = lock.present := by
  unfold readLock
  cases pidStr with
  | none => rfl
  | some pidStr =>
    cases hpid : stoi pidStr with
    | none => simp only [hpid]
    | some pid =>
      simp only [hpid]
      by_cases hpos : pid ≤ 0
      · rw [if_pos hpos]
      · rw [if_neg hpos]
        by_cases hdir : files.isDirectory (procDir options pid) = true
        · rw [if_pos hdir]
        · rw [if_neg hdir]

/-- Why a lock is not active is always a plain text. -/
theorem utf8_invalidReason {lock : LockState} {pidStr : Option Bytes}
    (hleft : (readLock files options lock pidStr).isActive = false) :
    validUtf8 (readLock files options lock pidStr).invalidReason = true := by
  unfold readLock at hleft ⊢
  cases pidStr with
  | none => rfl
  | some pidStr =>
    cases hpid : stoi pidStr with
    | none =>
      simp only [hpid]
      rfl
    | some pid =>
      simp only [hpid] at hleft ⊢
      by_cases hpos : pid ≤ 0
      · rw [if_pos hpos]
        rfl
      · rw [if_neg hpos] at hleft ⊢
        by_cases hdir : files.isDirectory (procDir options pid) = true
        · rw [if_pos hdir] at hleft
          cases hleft
        · rw [if_neg hdir]
          rfl

/-- What the two events about the kernel and the lock are made of. -/
def basis (metrics : PacmanCollectorMetrics) : Bool × EventDraft × LockState :=
  (metrics.kernelMismatchDetected, kernelDraft metrics, metrics.lock)

theorem basis_noteFile (metrics : PacmanCollectorMetrics) (file : FileAt) :
    basis (noteFile metrics file) = basis metrics := by
  unfold noteFile
  split
  · rfl
  · split
    · rfl
    · rfl

theorem basis_foldl_noteFile (found : List FileAt) (metrics : PacmanCollectorMetrics) :
    basis (found.foldl noteFile metrics) = basis metrics := by
  induction found generalizing metrics with
  | nil => rfl
  | cons file rest ih => rw [List.foldl_cons, ih, basis_noteFile]

/-- The orphan scan leaves the rest of the metrics. -/
theorem basis_evaluateOrphanConfigs (etc : Option DirectoryTree) (metrics : PacmanCollectorMetrics) :
    basis (evaluateOrphanConfigs options etc metrics) = basis metrics := by
  unfold evaluateOrphanConfigs
  cases etc with
  | none => rfl
  | some tree =>
    dsimp only
    rw [scan_eq]
    exact basis_foldl_noteFile _ _

theorem basis_evaluateTransactions (h : evaluateTransactions files options metrics = some after) :
    basis after = basis metrics := by
  obtain ⟨entries, -, heq⟩ := Option.bind_eq_some_iff.mp h
  cases heq
  rfl

/-- What the kernel check leaves when no directory fails. -/
theorem evaluateKernelState_eq_some
    (h : evaluateKernelState files options {} = some after) :
    (after.kernelMismatchDetected = true ↔ ModulesGone files options) ∧
      ((kernelDraft after).attributes.utf8 = true ↔ KernelReadable files options) ∧
      after.lock = {} := by
  obtain ⟨modules, hmodules, hrest⟩ := Option.bind_eq_some_iff.mp h
  obtain ⟨packages, hpackages, heq⟩ := Option.bind_eq_some_iff.mp hrest
  cases heq
  refine ⟨?_, ?_, rfl⟩
  · unfold ModulesGone
    cases runningKernel files options with
    | none => simp
    | some release => simp
  · rw [utf8_kernelDraft_iff]
    unfold KernelReadable
    rw [hmodules, hpackages]
    refine and_congr ?_ (and_congr ?_ ?_)
    · cases runningKernel files options with
      | none => exact iff_of_true rfl fun release h => by cases h
      | some release => simp
    · simp only [List.nil_append, List.forall_mem_map, List.mem_filter, and_imp, Option.mem_def,
        Option.some.injEq, forall_eq']
    · simp only [List.nil_append, List.forall_mem_map, List.mem_filter, and_imp, Option.mem_def,
        Option.some.injEq, forall_eq', Bool.and_eq_true]

/-- The lock check. -/
theorem evaluateLockState_lock (hlock : metrics.lock = {}) :
    ((evaluateLockState files options now metrics).lock.present = true ∧
        (evaluateLockState files options now metrics).lock.isActive = false ↔
      LockLeft files options) ∧
    ((evaluateLockState files options now metrics).lock.isActive = false →
      validUtf8 (evaluateLockState files options now metrics).lock.invalidReason = true) := by
  unfold evaluateLockState LockLeft
  by_cases hpresent : files.present (lockPath options) = true
  · simp only [if_pos hpresent]
    refine ⟨?_, utf8_invalidReason⟩
    rw [present_readLock, ← Bool.not_eq_true, isActive_readLock]
    simp [hpresent]
  · simp only [if_neg hpresent]
    rw [hlock]
    exact ⟨by simp [hpresent], fun _ => rfl⟩

/-- It leaves the kernel's part. -/
theorem kernel_evaluateLockState (files : FileSystem) (options : PacmanOptions) (now : ℤ)
    (metrics : PacmanCollectorMetrics) :
    (evaluateLockState files options now metrics).kernelMismatchDetected
        = metrics.kernelMismatchDetected ∧
      kernelDraft (evaluateLockState files options now metrics) = kernelDraft metrics := by
  unfold evaluateLockState
  split
  · exact ⟨rfl, rfl⟩
  · exact ⟨rfl, rfl⟩

/-- What a pass that looks and is not ended has found. -/
structure Found (files : FileSystem) (options : PacmanOptions) (metrics : PacmanCollectorMetrics) :
    Prop where
  kernel : metrics.kernelMismatchDetected = true ↔
    options.checkKernel = true ∧ ModulesGone files options
  readable : options.checkKernel = true →
    ((kernelDraft metrics).attributes.utf8 = true ↔ KernelReadable files options)
  lock : metrics.lock.present = true ∧ metrics.lock.isActive = false ↔
    options.checkLocks = true ∧ LockLeft files options
  reason : metrics.lock.isActive = false → validUtf8 metrics.lock.invalidReason = true

theorem Found.of_basis (h : Found files options metrics) (hbasis : basis after = basis metrics) :
    Found files options after := by
  obtain ⟨hmismatch, hpair⟩ := Prod.mk.inj hbasis
  obtain ⟨hdraft, hlock⟩ := Prod.mk.inj hpair
  exact ⟨hmismatch ▸ h.kernel, hdraft ▸ h.readable, hlock ▸ h.lock, hlock ▸ h.reason⟩

/-- The first two checks. -/
theorem found_of_kernel
    (h : (if options.checkKernel then evaluateKernelState files options {} else some {})
      = some metrics) :
    Found files options
      (if options.checkLocks then evaluateLockState files options now metrics else metrics) := by
  -- the kernel check, which leaves the lock as it was
  have hkernel : (metrics.kernelMismatchDetected = true ↔
        options.checkKernel = true ∧ ModulesGone files options) ∧
      (options.checkKernel = true →
        ((kernelDraft metrics).attributes.utf8 = true ↔ KernelReadable files options)) ∧
      metrics.lock = {} := by
    by_cases hcheck : options.checkKernel = true
    · rw [if_pos hcheck] at h
      obtain ⟨hmismatch, hreadable, hlock⟩ := evaluateKernelState_eq_some h
      exact ⟨hmismatch.trans (and_iff_right hcheck).symm, fun _ => hreadable, hlock⟩
    · rw [if_neg hcheck] at h
      cases h
      exact ⟨iff_of_false Bool.false_ne_true fun hgone => hcheck hgone.1,
        fun hyes => absurd hyes hcheck, rfl⟩
  obtain ⟨hmismatch, hreadable, hlock⟩ := hkernel
  by_cases hcheck : options.checkLocks = true
  · rw [if_pos hcheck]
    obtain ⟨hsame, hdraft⟩ := kernel_evaluateLockState files options now metrics
    obtain ⟨hleft, hreason⟩ := @evaluateLockState_lock files options now metrics hlock
    exact ⟨hsame ▸ hmismatch, hdraft ▸ hreadable, hleft.trans (and_iff_right hcheck).symm, hreason⟩
  · rw [if_neg hcheck]
    refine ⟨hmismatch, hreadable, iff_of_false ?_ fun hleft => hcheck hleft.1, fun _ => ?_⟩
    · rw [hlock]
      exact fun hpresent => Bool.false_ne_true hpresent.1
    · rw [hlock]
      rfl

theorem isSome_evaluateKernelState :
    (evaluateKernelState files options metrics).isSome = true ↔
      (files.entries (modulesPath options)).isSome = true ∧
        (files.entries (localPath options)).isSome = true := by
  unfold evaluateKernelState
  cases files.entries (modulesPath options) with
  | none => simp
  | some modules =>
    cases files.entries (localPath options) with
    | none => simp
    | some packages => simp

theorem isSome_evaluateTransactions :
    (evaluateTransactions files options metrics).isSome = true ↔
      (files.entries (localPath options)).isSome = true := by
  unfold evaluateTransactions
  cases files.entries (localPath options) with
  | none => simp
  | some entries => simp

/-- **What a pass finds**: it is ended exactly when a directory fails. -/
theorem collectMetrics_spec (hpresent : files.present (resolvePath options options.dbPath) = true) :
    (collectMetrics files options now = none ∧ ¬ Completes files options) ∨
      ∃ metrics, collectMetrics files options now = some metrics ∧ Completes files options ∧
        Found files options metrics := by
  unfold collectMetrics Completes
  rw [if_pos hpresent]
  cases hkernel : (if options.checkKernel then evaluateKernelState files options {} else some {}) with
  | none =>
    refine Or.inl ⟨rfl, fun hcompletes => ?_⟩
    by_cases hcheck : options.checkKernel = true
    · rw [if_pos hcheck] at hkernel
      have hsome := (@isSome_evaluateKernelState files options {}).mpr
        ⟨hcompletes.1 hcheck, hcompletes.2 (Or.inl hcheck)⟩
      rw [hkernel] at hsome
      cases hsome
    · rw [if_neg hcheck] at hkernel
      cases hkernel
  | some metrics =>
    have hfound := @found_of_kernel files options now metrics hkernel
    have hentries : options.checkKernel = true →
        (files.entries (modulesPath options)).isSome = true ∧
          (files.entries (localPath options)).isSome = true := by
      intro hcheck
      rw [if_pos hcheck] at hkernel
      exact (@isSome_evaluateKernelState files options {}).mp (by rw [hkernel]; rfl)
    dsimp only [Option.bind_some]
    generalize (if options.checkLocks then evaluateLockState files options now metrics else metrics)
      = locked at hfound ⊢
    -- the orphan scan leaves what was found
    have hscanned : Found files options
        (if options.checkOrphans then
          evaluateOrphanConfigs options (files.tree (resolvePath options options.etcPath)) locked
        else locked) := by
      split
      · exact hfound.of_basis (basis_evaluateOrphanConfigs _ _)
      · exact hfound
    generalize (if options.checkOrphans then
      evaluateOrphanConfigs options (files.tree (resolvePath options options.etcPath)) locked
      else locked) = scanned at hscanned ⊢
    by_cases hcheck : options.checkTransactions = true
    · rw [if_pos hcheck]
      cases hdone : evaluateTransactions files options scanned with
      | none =>
        refine Or.inl ⟨rfl, fun hcompletes => ?_⟩
        have hsome := (@isSome_evaluateTransactions files options scanned).mpr
          (hcompletes.2 (Or.inr hcheck))
        rw [hdone] at hsome
        cases hsome
      | some after =>
        have hlocal : (files.entries (localPath options)).isSome = true :=
          (@isSome_evaluateTransactions files options scanned).mp (by rw [hdone]; rfl)
        exact Or.inr ⟨after, rfl, ⟨fun hyes => (hentries hyes).1, fun _ => hlocal⟩,
          hscanned.of_basis (basis_evaluateTransactions hdone)⟩
    · rw [if_neg hcheck]
      exact Or.inr ⟨scanned, rfl, ⟨fun hyes => (hentries hyes).1,
        fun heither => (hentries (heither.resolve_right hcheck)).2⟩, hscanned⟩

end Metrics

/-! ## The diagnosis -/

/-- The other three collectors of a pass, and the files of the package collector. -/
def passOutcomes (lib : CppLib) (pass : CollectorPass) (options : PacmanOptions)
    (files : FileSystem) (now : ℤ) : Daemon.CollectorOutcomes Exn :=
  { pass.outcomes lib with
    pacman := .ok (collectPass lib pass.overflow options files now pass.pacmanClock) }

/-- The findings of the built-in rules on all events of the pass contain one of the rule. -/
def DiagnosedOn (lib : CppLib) (what : Exn → Bytes) (stamp : ℕ → Bytes × Bytes)
    (outcomes : Daemon.CollectorOutcomes Exn) (ruleId : Bytes) : Prop :=
  ∃ finding ∈ RuleEngine.evaluate lib stamp RuleEngine.builtInRules
    (Daemon.collectAllEvents what outcomes).1, finding.ruleId = ruleId

/-- What the two rules say of the files. A kernel name that cannot be serialised takes both
events. -/
structure PackagesExact (lib : CppLib) (what : Exn → Bytes) (stamp : ℕ → Bytes × Bytes)
    (outcomes : Daemon.CollectorOutcomes Exn) (options : PacmanOptions) (files : FileSystem) :
    Prop where
  kernel : DiagnosedOn lib what stamp outcomes "RULE-KERNEL-001" ↔
    files.present (resolvePath options options.dbPath) = true ∧ Completes files options ∧
      options.checkKernel = true ∧ ModulesGone files options ∧ KernelReadable files options
  lock : DiagnosedOn lib what stamp outcomes "RULE-PACMAN-001" ↔
    files.present (resolvePath options options.dbPath) = true ∧ Completes files options ∧
      options.checkLocks = true ∧ LockLeft files options ∧
      (options.checkKernel = true → ModulesGone files options → KernelReadable files options)

section Diagnosis

variable {lib : CppLib} {what : Exn → Bytes} {stamp : ℕ → Bytes × Bytes} {pass : CollectorPass}
  {options : PacmanOptions} {files : FileSystem} {now : ℤ} {metrics : PacmanCollectorMetrics}
  {overflow : ℤ → ℤ} {collectorOptions : PacmanCollectorOptions}

/-- Only a mismatch gives the draft that RULE-KERNEL-001 asks for. -/
theorem eq_kernelDraft {draft : EventDraft} (hmem : draft ∈ drafts overflow collectorOptions metrics)
    (h : draft.ReportsOn "package" "kernel" "pacman.kernel_mismatch") :
    metrics.kernelMismatchDetected = true ∧ draft = kernelDraft metrics := by
  obtain ⟨-, hsubject, -, -⟩ := h
  rcases mem_drafts.mp hmem with ⟨hkernel, rfl⟩ | ⟨-, rfl⟩ | ⟨-, rfl⟩ | ⟨-, rfl⟩
  · exact ⟨hkernel, rfl⟩
  · unfold lockDraft at hsubject
    dsimp only at hsubject
    split at hsubject
    · exact absurd (show Bytes.ofString "pacman_db" = _ from hsubject) (by decide)
    · exact absurd (show Bytes.ofString "pacman_db" = _ from hsubject) (by decide)
  · exact absurd (show Bytes.ofString "config_files" = _ from hsubject) (by decide)
  · exact absurd (show Bytes.ofString "pacman_db" = _ from hsubject) (by decide)

/-- The only warning about the database beside an interrupted transaction is a lock that was left. -/
theorem eq_lockDraft {draft : EventDraft} (hmem : draft ∈ drafts overflow collectorOptions metrics)
    (h : draft.ReportsOn "package" "pacman_db" "pacman.stale_lock") :
    (metrics.lock.present = true ∧ metrics.lock.isActive = false) ∧
      draft = lockDraft metrics.lock := by
  obtain ⟨-, -, hsignal, -⟩ := h
  rcases mem_drafts.mp hmem with ⟨-, rfl⟩ | ⟨hpresent, rfl⟩ | ⟨-, rfl⟩ | ⟨-, rfl⟩
  · exact absurd (show Bytes.ofString "pacman.kernel_mismatch" = _ from hsignal) (by decide)
  · refine ⟨⟨hpresent, ?_⟩, rfl⟩
    rw [lockDraft_signal] at hsignal
    by_contra hactive
    rw [if_pos (Bool.not_eq_false _ ▸ hactive)] at hsignal
    exact absurd hsignal (by decide)
  · exact absurd (show Bytes.ofString "pacman.pacnew_files" = _ from hsignal) (by decide)
  · exact absurd (show Bytes.ofString "pacman.interrupted_transaction" = _ from hsignal)
      (by decide)

/-- The drafts of a pass that are emitted. -/
def emitted (overflow : ℤ → ℤ) (options : PacmanCollectorOptions)
    (metrics : PacmanCollectorMetrics) : List EventDraft :=
  (drafts overflow options metrics).takeWhile EventDraft.serialisable

theorem mem_emitted {draft : EventDraft} (h : draft ∈ emitted overflow collectorOptions metrics) :
    draft ∈ drafts overflow collectorOptions metrics ∧ draft.attributes.utf8 = true :=
  ⟨(List.takeWhile_sublist _).subset h,
    show draft.serialisable = true from List.mem_takeWhile_imp h⟩

/-- The kernel's draft comes first. -/
theorem emitted_of_mismatch (hkernel : metrics.kernelMismatchDetected = true) :
    (emitted overflow collectorOptions metrics ≠ [] →
        (kernelDraft metrics).attributes.utf8 = true) ∧
      ((kernelDraft metrics).attributes.utf8 = true →
        kernelDraft metrics ∈ emitted overflow collectorOptions metrics) := by
  have hfirst : ∃ rest, drafts overflow collectorOptions metrics = kernelDraft metrics :: rest := by
    unfold drafts
    rw [if_pos hkernel]
    exact ⟨_, rfl⟩
  obtain ⟨rest, hdrafts⟩ := hfirst
  unfold emitted
  rw [hdrafts]
  constructor
  · intro hne
    by_contra hutf8
    exact hne (List.takeWhile_cons_of_neg hutf8)
  · intro hutf8
    have hfirst : (kernelDraft metrics).serialisable = true := hutf8
    rw [List.takeWhile_cons_of_pos hfirst]
    exact List.mem_cons_self

/-- The lock's draft is emitted when the kernel's, if there is one, does not throw. -/
theorem lockDraft_mem_emitted (hpresent : metrics.lock.present = true)
    (hutf8 : (lockDraft metrics.lock).attributes.utf8 = true)
    (hkernel : metrics.kernelMismatchDetected = true →
      (kernelDraft metrics).attributes.utf8 = true) :
    lockDraft metrics.lock ∈ emitted overflow collectorOptions metrics := by
  unfold emitted drafts
  rw [if_pos hpresent]
  by_cases hmismatch : metrics.kernelMismatchDetected = true
  · rw [if_pos hmismatch]
    simp [EventDraft.serialisable, hutf8, hkernel hmismatch]
  · rw [if_neg hmismatch]
    simp [EventDraft.serialisable, hutf8]

/-- The events of a pass that was not ended are those of the emitted drafts. -/
theorem exists_collect_iff {clock : ℕ → TimePoint} {subject signal : Bytes} :
    (∃ event ∈ collect lib overflow collectorOptions clock metrics,
        RuleEngine.ReportsOn "package" subject signal event) ↔
      ∃ draft ∈ emitted overflow collectorOptions metrics,
        draft.ReportsOn "package" subject signal :=
  EventDraft.exists_emitted_iff EventDraft.forall₂_takeWhile
    fun _ _ hemits => hemits.reportsOn_iff

theorem reports_kernel_emitted_iff :
    (∃ draft ∈ emitted overflow collectorOptions metrics,
        draft.ReportsOn "package" "kernel" "pacman.kernel_mismatch") ↔
      metrics.kernelMismatchDetected = true ∧ (kernelDraft metrics).attributes.utf8 = true := by
  constructor
  · rintro ⟨draft, hmem, hreports⟩
    obtain ⟨hdraft, hutf8⟩ := mem_emitted hmem
    obtain ⟨hkernel, rfl⟩ := eq_kernelDraft hdraft hreports
    exact ⟨hkernel, hutf8⟩
  · rintro ⟨hkernel, hutf8⟩
    exact ⟨kernelDraft metrics, (emitted_of_mismatch hkernel).2 hutf8, rfl, rfl, rfl, le_rfl⟩

theorem reports_lock_emitted_iff
    (hreason : metrics.lock.isActive = false → validUtf8 metrics.lock.invalidReason = true) :
    (∃ draft ∈ emitted overflow collectorOptions metrics,
        draft.ReportsOn "package" "pacman_db" "pacman.stale_lock") ↔
      (metrics.lock.present = true ∧ metrics.lock.isActive = false) ∧
        (metrics.kernelMismatchDetected = true →
          (kernelDraft metrics).attributes.utf8 = true) := by
  constructor
  · rintro ⟨draft, hmem, hreports⟩
    obtain ⟨hdraft, -⟩ := mem_emitted hmem
    exact ⟨(eq_lockDraft hdraft hreports).1, fun hkernel =>
      (emitted_of_mismatch hkernel).1 (List.ne_nil_of_mem hmem)⟩
  · rintro ⟨⟨hpresent, hleft⟩, hkernel⟩
    have hutf8 : (lockDraft metrics.lock).attributes.utf8 = true := by
      rw [utf8_lockDraft, hleft]
      exact hreason hleft
    refine ⟨lockDraft metrics.lock, lockDraft_mem_emitted hpresent hutf8 hkernel, ?_⟩
    unfold lockDraft
    rw [hleft]
    exact ⟨rfl, rfl, rfl, le_rfl⟩

/-- A question about the category `package` is one about the package collector. -/
theorem exists_event_iff {subject signal : Bytes} :
    (∃ event ∈ (Daemon.collectAllEvents what (passOutcomes lib pass options files now)).1,
        RuleEngine.ReportsOn "package" subject signal event) ↔
      ∃ event ∈ collectPass lib pass.overflow options files now pass.pacmanClock,
        RuleEngine.ReportsOn "package" subject signal event := by
  have hevents : (Daemon.collectAllEvents what (passOutcomes lib pass options files now)).1
      = (pass.outcomes lib).systemd.toOption.getD [] ++
        ((pass.outcomes lib).storage.toOption.getD [] ++
          ((pass.outcomes lib).memory.toOption.getD [] ++
            collectPass lib pass.overflow options files now pass.pacmanClock)) := by
    rw [Daemon.collectAllEvents_fst]
    simp only [Daemon.CollectorOutcomes.survivors, Daemon.CollectorOutcomes.toList,
      List.flatMap_cons, List.flatMap_nil, List.append_nil]
    rfl
  rw [hevents]
  constructor
  · rintro ⟨event, hmem, hreports⟩
    simp only [List.mem_append] at hmem
    rcases hmem with hmem | hmem | hmem | hmem
    · exact absurd (hreports.1 ▸ CollectorPass.category_of_mem_systemd hmem) (by decide)
    · obtain ⟨storage, hstorage, hmem⟩ := CollectorPass.mem_of_mem_getD hmem
      exact absurd (hreports.1.symm.trans (CollectorPass.category_of_mem_storage hstorage hmem))
        (by decide)
    · exact absurd (hreports.1.symm.trans (CollectorPass.category_of_mem_memory hmem)) (by decide)
    · exact ⟨event, hmem, hreports⟩
  · rintro ⟨event, hmem, hreports⟩
    refine ⟨event, ?_, hreports⟩
    exact List.mem_append_right _ (List.mem_append_right _ (List.mem_append_right _ hmem))

/-- What a pass reports of the category `package`, from what it has found. -/
theorem exists_collectPass_iff {clock : ℕ → TimePoint} {subject signal : Bytes} :
    (∃ event ∈ collectPass lib overflow options files now clock,
        RuleEngine.ReportsOn "package" subject signal event) ↔
      ∃ metrics, files.present (resolvePath options options.dbPath) = true ∧
        Completes files options ∧ Found files options metrics ∧
        collectMetrics files options now = some metrics ∧
        ∃ draft ∈ emitted overflow options.toPacmanCollectorOptions metrics,
          draft.ReportsOn "package" subject signal := by
  unfold collectPass
  by_cases hpresent : files.present (resolvePath options options.dbPath) = true
  · rcases @collectMetrics_spec files options now hpresent with
      ⟨hnone, hfails⟩ | ⟨metrics, hsome, hcompletes, hfound⟩
    · rw [hnone]
      refine iff_of_false ?_ fun ⟨_, _, hcompletes, _⟩ => hfails hcompletes
      rintro ⟨event, hmem, -⟩
      cases hmem
    · rw [hsome]
      refine exists_collect_iff.trans ⟨fun h => ⟨metrics, hpresent, hcompletes, hfound, rfl, h⟩, ?_⟩
      rintro ⟨_, -, -, -, ⟨⟩, h⟩
      exact h
  · have hempty : collectMetrics files options now = some {} := if_neg hpresent
    rw [hempty]
    refine exists_collect_iff.trans (iff_of_false ?_ fun ⟨_, hyes, _⟩ => hpresent hyes)
    -- metrics that say nothing give no drafts
    rintro ⟨draft, hmem, hreports⟩
    rcases mem_drafts.mp (mem_emitted hmem).1 with ⟨hkernel, -⟩ | ⟨hlock, -⟩ | ⟨hpos, -⟩ | ⟨hdone, -⟩
    · cases hkernel
    · cases hlock
    · exact absurd (show (0 : ℤ) < 0 from hpos) (lt_irrefl 0)
    · cases hdone

/-- A pass that nothing ends has its metrics. -/
theorem exists_found (hpresent : files.present (resolvePath options options.dbPath) = true)
    (hcompletes : Completes files options) :
    ∃ metrics, collectMetrics files options now = some metrics ∧ Found files options metrics := by
  rcases @collectMetrics_spec files options now hpresent with
    ⟨-, hfails⟩ | ⟨metrics, hsome, -, hfound⟩
  · exact absurd hcompletes hfails
  · exact ⟨metrics, hsome, hfound⟩

/-- **Kernel and package lock are diagnosed exactly as the files say**, for all files, options and
states of the other collectors. -/
theorem package_diagnosis_exact (lib : CppLib) (what : Exn → Bytes) (stamp : ℕ → Bytes × Bytes)
    (pass : CollectorPass) (options : PacmanOptions) (files : FileSystem) (now : ℤ) :
    PackagesExact lib what stamp (passOutcomes lib pass options files now) options files where
  kernel := by
    have hrule : RuleEngine.kernelRule ∈ RuleEngine.builtInRules := by
      simp [RuleEngine.builtInRules]
    refine (RuleEngine.finding_builtIn_iff hrule).trans ?_
    rw [RuleEngine.fires_kernelRule_iff, exists_event_iff, exists_collectPass_iff]
    constructor
    · rintro ⟨metrics, hpresent, hcompletes, hfound, -, hreports⟩
      obtain ⟨hmismatch, hutf8⟩ := reports_kernel_emitted_iff.mp hreports
      obtain ⟨hcheck, hgone⟩ := hfound.kernel.mp hmismatch
      exact ⟨hpresent, hcompletes, hcheck, hgone, (hfound.readable hcheck).mp hutf8⟩
    · rintro ⟨hpresent, hcompletes, hcheck, hgone, hreadable⟩
      obtain ⟨metrics, hsome, hfound⟩ := @exists_found options files now hpresent hcompletes
      exact ⟨metrics, hpresent, hcompletes, hfound, hsome, reports_kernel_emitted_iff.mpr
        ⟨hfound.kernel.mpr ⟨hcheck, hgone⟩, (hfound.readable hcheck).mpr hreadable⟩⟩
  lock := by
    have hrule : RuleEngine.pacmanLockRule ∈ RuleEngine.builtInRules := by
      simp [RuleEngine.builtInRules]
    refine (RuleEngine.finding_builtIn_iff hrule).trans ?_
    rw [RuleEngine.fires_pacmanLockRule_iff, exists_event_iff, exists_collectPass_iff]
    constructor
    · rintro ⟨metrics, hpresent, hcompletes, hfound, -, hreports⟩
      obtain ⟨hlock, hkernel⟩ := (reports_lock_emitted_iff hfound.reason).mp hreports
      obtain ⟨hcheck, hleft⟩ := hfound.lock.mp hlock
      exact ⟨hpresent, hcompletes, hcheck, hleft, fun hcheckKernel hgone =>
        (hfound.readable hcheckKernel).mp (hkernel (hfound.kernel.mpr ⟨hcheckKernel, hgone⟩))⟩
    · rintro ⟨hpresent, hcompletes, hcheck, hleft, hreadable⟩
      obtain ⟨metrics, hsome, hfound⟩ := @exists_found options files now hpresent hcompletes
      refine ⟨metrics, hpresent, hcompletes, hfound, hsome,
        (reports_lock_emitted_iff hfound.reason).mpr ⟨hfound.lock.mpr ⟨hcheck, hleft⟩, ?_⟩⟩
      intro hmismatch
      obtain ⟨hcheckKernel, hgone⟩ := hfound.kernel.mp hmismatch
      exact (hfound.readable hcheckKernel).mpr (hreadable hcheckKernel hgone)

end Diagnosis

end PacmanCollector

end Holonight
