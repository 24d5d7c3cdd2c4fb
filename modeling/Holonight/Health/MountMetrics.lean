import Holonight.Base.Binary64
import Holonight.Health.StorageCollector

/-!
# The usage of a mount (`StorageCollector::inspectMountMetrics`)

`inspectMountMetrics` turns the counters of `statvfs` into bytes and percentages, in unsigned
64-bit arithmetic and in doubles. The used bytes and the used inodes are guarded differences. The
space percentage has a difference of its own, of the total and the *available* bytes, which is not
guarded: when more is available than there is in total, it wraps.

The counters come from the file system, so nothing relates them to each other.
**The usage is a percentage exactly when the available bytes do not exceed the total**
(`usageIsPercentage_iff`); otherwise an empty volume is reported as full.

The rounding of the floating-point operations is a parameter: any rounding to a nearest double.
-/

namespace Holonight

/-- `struct MountInfo`. -/
structure MountInfo where
  mountPath : Bytes
  deviceNode : Bytes := []
  fstype : Bytes := []
  options : Bytes := []
  deriving DecidableEq

/-- The fields of `struct statvfs` that are read. -/
structure Statvfs where
  blocks : UInt64
  bavail : UInt64
  bfree : UInt64
  files : UInt64
  ffree : UInt64
  frsize : UInt64
  flag : UInt64 := 0

namespace StorageCollector

/-! ## The metrics -/

/-- `static_cast<double>(part) / static_cast<double>(whole) * 100.0`, and `0.0` of nothing. -/
def percentOf (nearest : ℚ → ℚ) (part whole : UInt64) : Double :=
  if 0 < whole then
    .finite (nearest (nearest (nearest part.toNat / nearest whole.toNat) * 100))
  else .finite 0

/-- The fields that are computed from the counters (StorageCollector.cpp:183–205). -/
def metricsOf (nearest : ℚ → ℚ) (info : MountInfo) (stat : Statvfs) : StorageMetrics :=
  let totalBytes := stat.blocks * stat.frsize
  let availableBytes := stat.bavail * stat.frsize
  let freeBytes := stat.bfree * stat.frsize
  let usedInodes := if stat.files > stat.ffree then stat.files - stat.ffree else 0
  { mountPath := info.mountPath
    deviceNode := info.deviceNode
    fstype := info.fstype
    options := info.options
    totalBytes := totalBytes
    availableBytes := availableBytes
    usedBytes := if totalBytes > freeBytes then totalBytes - freeBytes else 0
    -- the difference is not guarded
    percentUsed := percentOf nearest (totalBytes - availableBytes) totalBytes
    totalInodes := stat.files
    freeInodes := stat.ffree
    usedInodes := usedInodes
    inodePercentUsed := percentOf nearest usedInodes stat.files
    -- `ST_RDONLY` is 1
    isReadOnly := stat.flag &&& 1 != 0
    statSuccess := true }

/-- `inspectMountMetrics` (StorageCollector.cpp:169–206); an error of `statvfs` is given by its
text. -/
def inspectMountMetrics (nearest : ℚ → ℚ) (info : MountInfo) :
    Except Bytes Statvfs → StorageMetrics
  | .error text =>
    { mountPath := info.mountPath
      deviceNode := info.deviceNode
      fstype := info.fstype
      options := info.options
      statSuccess := false
      error := text }
  | .ok stat => metricsOf nearest info stat

/-! ## Percentages -/

/-- The number is a percentage. -/
def IsPercentage (percent : Double) : Prop := ∃ q : ℚ, percent = .finite q ∧ 0 ≤ q ∧ q ≤ 100

/-- What the metrics of a mount should satisfy, and the events that are made of them. -/
structure UsageIsPercentage (metrics : StorageMetrics) : Prop where
  used : metrics.usedBytes ≤ metrics.totalBytes
  usedInodes : metrics.usedInodes ≤ metrics.totalInodes
  /-- The numerator of the space percentage, where it has one. -/
  numerator : 0 < metrics.totalBytes →
    metrics.totalBytes - metrics.availableBytes ≤ metrics.totalBytes
  percent : IsPercentage metrics.percentUsed
  inodePercent : IsPercentage metrics.inodePercentUsed
  quiet : metrics.totalBytes ≤ metrics.availableBytes →
    ∀ (lib : CppLib) (options : StorageCollectorOptions) (clock : ℕ → TimePoint) (made : ℕ)
      (events : List ObservationEvent), Double.lt (.finite 0) options.warningThreshold = true →
      eventsFromMetrics lib options clock made metrics = .ok events →
      ∀ event ∈ events, event.signal ≠ Bytes.ofString "space_pressure"

section Rounding

variable {nearest : ℚ → ℚ} (hnearest : RoundsToNearest nearest) {part whole : UInt64}

include hnearest

/-- The part of a whole is a percentage, rounded or not. -/
theorem isPercentage_percentOf (h : part ≤ whole) : IsPercentage (percentOf nearest part whole) := by
  rw [percentOf]
  split
  case isFalse => exact ⟨0, rfl, le_rfl, by norm_num⟩
  case isTrue hpos =>
    have hle : nearest part.toNat ≤ nearest whole.toNat :=
      hnearest.monotone (by exact_mod_cast UInt64.le_iff_toNat_le.mp h)
    have hpart : 0 ≤ nearest part.toNat := hnearest.nonneg (by positivity)
    -- the quotient is between 0 and 1, the product between 0 and 100; both bounds are doubles
    have hlow := hnearest.nonneg (div_nonneg hpart (hpart.trans hle))
    have hone : nearest part.toNat / nearest whole.toNat ≤ (1 : ℕ) := by
      rw [Nat.cast_one]
      exact div_le_one_of_le₀ hle (hpart.trans hle)
    have hhigh := hnearest.le_natCast (by norm_num) hone
    rw [Nat.cast_one] at hhigh
    have hhundred : nearest (nearest part.toNat / nearest whole.toNat) * 100 ≤ (100 : ℕ) := by
      push_cast
      linarith
    refine ⟨_, rfl, hnearest.nonneg (by linarith), ?_⟩
    exact_mod_cast hnearest.le_natCast (by norm_num) hhundred

theorem percentOf_zero : percentOf nearest 0 whole = .finite 0 := by
  rw [percentOf]
  split
  case isFalse => rfl
  case isTrue => simp [hnearest.zero]

end Rounding

/-! ## When the usage is a percentage -/

/-- A guarded difference is at most what it is taken from. -/
theorem guarded_sub_le (total free : UInt64) :
    (if total > free then total - free else 0) ≤ total := by
  split
  case isFalse => exact UInt64.zero_le
  case isTrue h => exact UInt64.sub_le (UInt64.le_of_lt h)

/-- An unguarded one is too, unless it wraps. -/
theorem sub_le_self_iff {total available : UInt64} :
    total - available ≤ total ↔ available ≤ total := by
  constructor
  · intro h
    by_contra hlt
    rw [UInt64.le_iff_toNat_le, UInt64.toNat_sub] at h
    rw [UInt64.not_le, UInt64.lt_iff_toNat_lt] at hlt
    have hbound := available.toNat_lt
    omega
  · exact UInt64.sub_le

/-- The drafts that are not about space have another signal. -/
theorem not_spacePressure_of_quiet {options : StorageCollectorOptions} {metrics : StorageMetrics}
    (h : Double.le options.warningThreshold metrics.percentUsed = false) :
    ∀ draft ∈ drafts options metrics, draft.signal ≠ Bytes.ofString "space_pressure" := by
  intro draft hmem
  rw [drafts] at hmem
  split at hmem
  case isTrue =>
    simp only [pressureDrafts, List.mem_append, List.mem_ite_nil_right, List.mem_singleton,
      mem_pressure] at hmem
    rcases hmem with ⟨-, rfl⟩ | ⟨hle, -⟩ | ⟨-, rfl⟩
    · show Bytes.ofString "read_only_filesystem" ≠ Bytes.ofString "space_pressure"
      decide +kernel
    · rw [h] at hle
      cases hle
    · show Bytes.ofString "inode_pressure" ≠ Bytes.ofString "space_pressure"
      decide +kernel
  case isFalse =>
    rw [List.mem_singleton.mp hmem]
    show Bytes.ofString "stat_failure" ≠ Bytes.ofString "space_pressure"
    decide +kernel

/-- Metrics without used space give no event about space. -/
theorem quiet_of_percentUsed {metrics : StorageMetrics} (h : metrics.percentUsed = .finite 0)
    {lib : CppLib} {options : StorageCollectorOptions} {clock : ℕ → TimePoint} {made : ℕ}
    {events : List ObservationEvent}
    (hthreshold : Double.lt (.finite 0) options.warningThreshold = true)
    (hevents : eventsFromMetrics lib options clock made metrics = .ok events) :
    ∀ event ∈ events, event.signal ≠ Bytes.ofString "space_pressure" := by
  have hbelow : Double.le options.warningThreshold metrics.percentUsed = false := by
    rw [h]
    cases hwarning : options.warningThreshold with
    | finite q =>
      rw [hwarning] at hthreshold
      exact decide_eq_false (not_le.mpr (of_decide_eq_true hthreshold))
    | posInf => rfl
    | negInf =>
      rw [hwarning] at hthreshold
      cases hthreshold
    | nan => rfl
  intro event hmem
  obtain ⟨draft, hdraft, hemits⟩ :=
    EventDraft.exists_draft_of_mem (EventDraft.forall₂_emitAll hevents) hmem
  rw [hemits.fields.2.2.1]
  exact not_spacePressure_of_quiet hbelow draft hdraft

/-- **The usage is a percentage exactly when the available bytes do not exceed the total**, or the
total is 0: for every rounding to a nearest double, every mount and every counters of `statvfs`. -/
theorem usageIsPercentage_iff (nearest : ℚ → ℚ) (hnearest : RoundsToNearest nearest)
    (info : MountInfo) (stat : Statvfs) :
    UsageIsPercentage (inspectMountMetrics nearest info (.ok stat)) ↔
      stat.blocks * stat.frsize = 0 ∨ stat.bavail * stat.frsize ≤ stat.blocks * stat.frsize := by
  constructor
  · intro h
    by_cases hzero : stat.blocks * stat.frsize = 0
    · exact .inl hzero
    · exact .inr (sub_le_self_iff.mp (h.numerator (UInt64.pos_iff_ne_zero.mpr hzero)))
  · intro hfits
    constructor
    case used => exact guarded_sub_le _ _
    case usedInodes => exact guarded_sub_le _ _
    case numerator =>
      intro hpos
      rcases hfits with hzero | hle
      · exact absurd hzero (UInt64.pos_iff_ne_zero.mp hpos)
      · exact UInt64.sub_le hle
    case percent =>
      rcases hfits with hzero | hle
      · refine ⟨0, ?_, le_rfl, by norm_num⟩
        show percentOf nearest _ (stat.blocks * stat.frsize) = _
        rw [hzero]
        rfl
      · exact isPercentage_percentOf hnearest (UInt64.sub_le hle)
    case inodePercent => exact isPercentage_percentOf hnearest (guarded_sub_le _ _)
    case quiet =>
      intro hfull lib options clock made events hthreshold hevents
      refine quiet_of_percentUsed ?_ hthreshold hevents
      show percentOf nearest (stat.blocks * stat.frsize - stat.bavail * stat.frsize) _ = _
      rcases hfits with hzero | hle
      · rw [hzero]
        rfl
      · -- nothing is used
        have hsame : stat.blocks * stat.frsize = stat.bavail * stat.frsize :=
          UInt64.le_antisymm hfull hle
        rw [hsame, UInt64.sub_self]
        exact percentOf_zero hnearest

/-- A volume of a thousand blocks, of which the given number is available. -/
def thousandBlocks (bavail : UInt64) : Statvfs where
  blocks := 1000
  bavail := bavail
  bfree := 1000
  files := 0
  ffree := 0
  frsize := 4096

theorem usageIsPercentage_emptyVolume :
    UsageIsPercentage (inspectMountMetrics nearestDouble { mountPath := "/mnt" }
      (.ok (thousandBlocks 1000))) :=
  (usageIsPercentage_iff nearestDouble roundsToNearest_nearestDouble { mountPath := "/mnt" }
    (thousandBlocks 1000)).mpr (.inr (by decide))

/-- With one more block available than there are, the difference wraps. -/
theorem usage_wraps :
    ¬∀ (nearest : ℚ → ℚ), RoundsToNearest nearest → ∀ (info : MountInfo) (stat : Statvfs),
      UsageIsPercentage (inspectMountMetrics nearest info (.ok stat)) := by
  intro hall
  have h := hall nearestDouble roundsToNearest_nearestDouble { mountPath := "/mnt" }
    (thousandBlocks 1001)
  exact absurd (h.numerator (by decide)) (by decide)

end StorageCollector

end Holonight
