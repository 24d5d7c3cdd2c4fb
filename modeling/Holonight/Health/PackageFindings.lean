import Holonight.Health.PacmanCollector

/-!
# What the package collector finds, condition by condition (`PacmanCollector.cpp`)

`collect` builds its four events inside one `try`. A `Finding` is one detected condition with the
data of that condition only, so that an event made from it (`Finding.draft`) cannot depend on the
data of another. `collect` returns **one event for each finding** exactly when every text of every
finding is UTF-8 (`oneEventEach_iff`): the names come from the file system, which promises nothing
of the kind, and a name that is not takes the events of all later findings with it
(`stale_lock_lost_to_modules_dir`).
-/

namespace Holonight

namespace PacmanCollector

/-! ## Findings -/

/-- A detected condition, with its own data. -/
inductive Finding
  | kernelMismatch (runningKernel : Option Bytes)
      (installedModulesDirs installedKernelPackages : List Bytes)
  | lock (state : LockState)
  | orphans (pacnewCount pacsaveCount : ℤ) (orphanFiles : List Bytes)
  | interruptedTransaction (transactionArtifacts : List Bytes)

namespace Finding

/-- The event of a finding. -/
def draft (options : PacmanCollectorOptions) : Finding → EventDraft
  | .kernelMismatch runningKernel dirs packages =>
    kernelDraft { runningKernel := runningKernel, installedModulesDirs := dirs,
                  installedKernelPackages := packages }
  | .lock state => lockDraft state
  | .orphans pacnew pacsave files =>
    orphansDraft options { pacnewCount := pacnew, pacsaveCount := pacsave, orphanFiles := files }
      (pacnew + pacsave)
  | .interruptedTransaction artifacts => transactionDraft { transactionArtifacts := artifacts }

/-- The texts that the event of a finding serialises. -/
def texts : Finding → List Bytes
  | .kernelMismatch runningKernel dirs packages =>
    runningKernel.getD "unknown" :: (dirs ++ packages)
  | .lock state =>
    if state.isActive then [state.processName.getD "unknown"] else [state.invalidReason]
  | .orphans _ _ files => files
  | .interruptedTransaction artifacts => artifacts

/-- All texts of the finding are UTF-8. -/
def Readable (finding : Finding) : Prop := ∀ text ∈ finding.texts, validUtf8 text = true

end Finding

/-- The detected conditions, in the order of the source. -/
def findings (metrics : PacmanCollectorMetrics) : List Finding :=
  (if metrics.kernelMismatchDetected then
    [.kernelMismatch metrics.runningKernel metrics.installedModulesDirs
      metrics.installedKernelPackages]
  else []) ++
  (if metrics.lock.present then [.lock metrics.lock] else []) ++
  (if 0 < metrics.pacnewCount + metrics.pacsaveCount then
    [.orphans metrics.pacnewCount metrics.pacsaveCount metrics.orphanFiles]
  else []) ++
  (if metrics.interruptedTransactionDetected then
    [.interruptedTransaction metrics.transactionArtifacts]
  else [])

/-! ## The texts of an event -/

section Texts

variable {options : PacmanCollectorOptions} {metrics : PacmanCollectorMetrics}

theorem utf8_orphansDraft_eq_false_iff {total : ℤ} :
    (orphansDraft options metrics total).attributes.utf8 = false ↔
      ∃ file ∈ metrics.orphanFiles, validUtf8 file = false := by
  rw [← Bool.not_eq_true, utf8_orphansDraft_iff]
  simp only [not_forall, exists_prop, Bool.not_eq_true]

/-- An event of a finding can be serialised exactly when the finding's own texts are UTF-8. -/
theorem Finding.utf8_draft_iff (finding : Finding) :
    (finding.draft options).attributes.utf8 = true ↔ finding.Readable := by
  cases finding with
  | kernelMismatch runningKernel dirs packages =>
    rw [draft, utf8_kernelDraft_iff, Readable, texts, List.forall_mem_cons, List.forall_mem_append]
  | lock state =>
    rw [draft, utf8_lockDraft, Readable, texts]
    split
    case isTrue => rw [List.forall_mem_singleton]
    case isFalse => rw [List.forall_mem_singleton]
  | orphans pacnew pacsave files => exact utf8_orphansDraft_iff
  | interruptedTransaction artifacts => exact utf8_transactionDraft_iff

end Texts

/-! ## One event for each finding -/

/-- One event for each finding, in order and no others, each made from its own finding, whatever
an addition of counts that overflows gives. -/
def OneEventEach (lib : CppLib) (options : PacmanCollectorOptions) (clock : ℕ → TimePoint)
    (metrics : PacmanCollectorMetrics) : Prop :=
  ∀ overflow, List.Forall₂ (fun finding event => EventDraft.Emits lib (finding.draft options) event)
    (findings metrics) (collect lib overflow options clock metrics)

/-- The condition under which the findings do not get in each other's way. Counts of files do not
overflow; for counts that do, the second case is the one in which nothing is lost by it: their sum
is too small for a finding, and the event made instead throws with nothing to follow it. -/
structure Separate (metrics : PacmanCollectorMetrics) : Prop where
  readable : ∀ finding ∈ findings metrics, finding.Readable
  counts : InInt64 (metrics.pacnewCount + metrics.pacsaveCount) ∨
    metrics.pacnewCount + metrics.pacsaveCount < 0 ∧
      metrics.interruptedTransactionDetected = false ∧
      ∃ file ∈ metrics.orphanFiles, validUtf8 file = false

section Collect

variable {lib : CppLib} {options : PacmanCollectorOptions} {clock : ℕ → TimePoint}
  {metrics : PacmanCollectorMetrics} {overflow : ℤ → ℤ}

/-- The drafts of the findings before the orphan files. -/
def draftsBefore (metrics : PacmanCollectorMetrics) : List EventDraft :=
  (if metrics.kernelMismatchDetected then [kernelDraft metrics] else []) ++
  (if metrics.lock.present then [lockDraft metrics.lock] else [])

/-- The drafts when the two counts add up to `total`. -/
def draftsOfTotal (options : PacmanCollectorOptions) (metrics : PacmanCollectorMetrics)
    (total : ℤ) : List EventDraft :=
  draftsBefore metrics ++
  ((if 0 < total then [orphansDraft options metrics total] else []) ++
  (if metrics.interruptedTransactionDetected then [transactionDraft metrics] else []))

theorem drafts_eq : drafts overflow options metrics
    = draftsOfTotal options metrics
        (signed64 overflow (metrics.pacnewCount + metrics.pacsaveCount)) := by
  rw [drafts, draftsOfTotal, draftsBefore]
  simp only [List.append_assoc]

/-- The drafts of the findings are those of the sum that does not overflow. -/
theorem map_draft_findings : (findings metrics).map (Finding.draft options)
    = draftsOfTotal options metrics (metrics.pacnewCount + metrics.pacsaveCount) := by
  rw [findings, draftsOfTotal, draftsBefore]
  simp only [List.map_append, List.append_assoc, apply_ite (List.map (Finding.draft options)),
    List.map_cons, List.map_nil]
  rfl

theorem oneEventEach_iff_drafts : OneEventEach lib options clock metrics ↔
    ∀ overflow, List.Forall₂ (EventDraft.Emits lib)
      (draftsOfTotal options metrics (metrics.pacnewCount + metrics.pacsaveCount))
      (EventDraft.emitUntilThrow lib clock 0 (draftsOfTotal options metrics
        (signed64 overflow (metrics.pacnewCount + metrics.pacsaveCount)))) := by
  refine forall_congr' fun overflow => ?_
  rw [collect, drafts_eq, ← map_draft_findings, List.forall₂_map_left_iff]

theorem forall_readable_iff : (∀ finding ∈ findings metrics, finding.Readable) ↔
    ∀ draft ∈ draftsOfTotal options metrics (metrics.pacnewCount + metrics.pacsaveCount),
      draft.attributes.utf8 = true := by
  rw [← map_draft_findings, List.forall_mem_map]
  exact forall₂_congr fun finding _ => (Finding.utf8_draft_iff finding).symm

theorem oneEventEach_iff_of_fits (hfits : InInt64 (metrics.pacnewCount + metrics.pacsaveCount)) :
    OneEventEach lib options clock metrics ↔
      ∀ finding ∈ findings metrics, finding.Readable := by
  rw [oneEventEach_iff_drafts, @forall_readable_iff options metrics]
  simp only [signed64_of_fits hfits, EventDraft.forall₂_emitUntilThrow_iff, forall_const]

/-- A sum that overflows upwards loses its finding when the program computes no positive number. -/
theorem not_oneEventEach_of_overflow (hpos : 0 < metrics.pacnewCount + metrics.pacsaveCount)
    (hfits : ¬InInt64 (metrics.pacnewCount + metrics.pacsaveCount)) :
    ¬OneEventEach lib options clock metrics := by
  intro heach
  have hzero := oneEventEach_iff_drafts.mp heach fun _ => 0
  have hlength := hzero.length_eq
  have hle := @EventDraft.length_emitUntilThrow_le lib clock
    (draftsOfTotal options metrics 0) 0
  rw [signed64_of_overflow hfits] at hlength
  rw [← hlength] at hle
  simp only [draftsOfTotal, List.length_append, if_pos hpos, lt_irrefl, if_false, List.length_nil,
    List.length_singleton] at hle
  omega

/-- A sum that overflows downwards makes an event that is not of a finding, unless that event
throws and nothing follows. -/
theorem oneEventEach_iff_of_negative (hneg : metrics.pacnewCount + metrics.pacsaveCount < 0)
    (hfits : ¬InInt64 (metrics.pacnewCount + metrics.pacsaveCount))
    (hreadable : ∀ finding ∈ findings metrics, finding.Readable) :
    OneEventEach lib options clock metrics ↔
      metrics.interruptedTransactionDetected = false ∧
        ∃ file ∈ metrics.orphanFiles, validUtf8 file = false := by
  have hutf8 := (@forall_readable_iff options metrics).mp hreadable
  rw [draftsOfTotal, if_neg hneg.not_gt, List.nil_append] at hutf8
  rw [oneEventEach_iff_drafts, draftsOfTotal, if_neg hneg.not_gt, List.nil_append]
  constructor
  · intro heach
    -- what happens when the program computes a positive number
    have hone := heach fun _ => 1
    rw [signed64_of_overflow hfits, draftsOfTotal, if_pos zero_lt_one, List.singleton_append,
      EventDraft.forall₂_emitUntilThrow_insert_iff] at hone
    obtain ⟨-, horphans, hlast⟩ := hone
    refine ⟨?_, utf8_orphansDraft_eq_false_iff.mp horphans⟩
    cases htransaction : metrics.interruptedTransactionDetected with
    | false => rfl
    | true =>
      rw [htransaction, if_pos rfl] at hlast
      cases hlast
  · rintro ⟨htransaction, hfile⟩ overflow
    rw [htransaction, if_neg Bool.false_ne_true] at hutf8 ⊢
    rw [draftsOfTotal, htransaction, if_neg Bool.false_ne_true]
    split
    case isFalse => exact EventDraft.forall₂_emitUntilThrow hutf8
    case isTrue =>
      rw [List.append_nil] at hutf8
      exact EventDraft.forall₂_emitUntilThrow_insert_iff.mpr
        ⟨hutf8, utf8_orphansDraft_eq_false_iff.mpr hfile, rfl⟩

/-- **Findings do not get in each other's way** exactly when all texts of all findings are UTF-8
and the counts of the orphan files add up. -/
theorem oneEventEach_iff (lib : CppLib) (options : PacmanCollectorOptions) (clock : ℕ → TimePoint)
    (metrics : PacmanCollectorMetrics) :
    OneEventEach lib options clock metrics ↔ Separate metrics := by
  have hall : OneEventEach lib options clock metrics →
      ∀ finding ∈ findings metrics, finding.Readable := fun heach =>
    forall_readable_iff.mpr (EventDraft.utf8_of_forall₂ (oneEventEach_iff_drafts.mp heach id))
  by_cases hfits : InInt64 (metrics.pacnewCount + metrics.pacsaveCount)
  · have heach := @oneEventEach_iff_of_fits lib options clock metrics hfits
    exact ⟨fun h => ⟨heach.mp h, Or.inl hfits⟩, fun h => heach.mpr h.readable⟩
  · rcases lt_trichotomy (metrics.pacnewCount + metrics.pacsaveCount) 0 with hneg | hzero | hpos
    · constructor
      · intro heach
        obtain ⟨htransaction, hfile⟩ :=
          (oneEventEach_iff_of_negative hneg hfits (hall heach)).mp heach
        exact ⟨hall heach, Or.inr ⟨hneg, htransaction, hfile⟩⟩
      · rintro ⟨hreadable, hcounts⟩
        rcases hcounts with h | ⟨-, htransaction, hfile⟩
        · exact absurd h hfits
        · exact (oneEventEach_iff_of_negative hneg hfits hreadable).mpr ⟨htransaction, hfile⟩
    · exact absurd (hzero ▸ by decide) hfits
    · refine ⟨fun heach => absurd heach (not_oneEventEach_of_overflow hpos hfits), fun h => ?_⟩
      rcases h.counts with h | ⟨hneg, -⟩
      · exact absurd h hfits
      · exact absurd hneg hpos.not_gt

end Collect

/-- A kernel without its modules, beside a directory of modules whose name is not UTF-8, and a
lock of a process that is gone. -/
def modulesDirMetrics : PacmanCollectorMetrics where
  runningKernel := some "6.9.1-arch1-1"
  kernelMismatchDetected := true
  installedModulesDirs := [[0xff]]
  lock := { present := true, pid := some 4711, invalidReason := "process_dead" }

/-- The name of the directory takes the event of the stale lock with it. -/
theorem stale_lock_lost_to_modules_dir :
    ¬∀ (lib : CppLib) (options : PacmanCollectorOptions) (clock : ℕ → TimePoint)
      (metrics : PacmanCollectorMetrics), OneEventEach lib options clock metrics := by
  intro hall
  have hlength := (hall CppLib.integral {} (fun _ => 0) modulesDirMetrics id).length_eq
  have hfound : (findings modulesDirMetrics).length = 2 := rfl
  have hnone : collect CppLib.integral id {} (fun _ => 0) modulesDirMetrics = [] := rfl
  rw [hfound, hnone] at hlength
  cases hlength

end PacmanCollector

end Holonight
