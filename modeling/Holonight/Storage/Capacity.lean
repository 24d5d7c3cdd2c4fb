import Holonight.Storage.EventStore

/-!
# What the capacity prune deletes

`pruneEventsByCapacity` decides whether to prune with the 100% limits, but its loop
compares against both 90% watermarks. The two theorems of this file say exactly what
follows from that.

- `limit_not_exceeded_ignored_iff`: a limit that is not exceeded causes no deletion
  exactly when the other dimension is already below its own watermark.
- `stops_when_fits_iff`: with SQLite's default page accounting the loop ends only
  on an empty table, so it stops in time exactly when the events never fit before.

Both rest on one description of the loop in its byte-driven phase (`BytePhase`),
proved by induction on the number of rows.
-/

namespace Holonight

namespace EventStore

/-! ## Arithmetic of the limits -/

theorem watermark_eq {limit : ℕ} (h : 9 * limit < 2 ^ 64) : watermark limit = 9 * limit / 10 := by
  unfold watermark
  rw [Nat.mul_comm, Nat.mod_eq_of_lt h]

/-- When `limit * 9` overflows the watermark is too low. -/
theorem watermark_lt_of_overflow {limit : ℕ} (h : 2 ^ 64 ≤ 9 * limit) :
    watermark limit < 9 * limit / 10 := by
  unfold watermark
  have hmod : limit * 9 % 2 ^ 64 ≤ limit * 9 - 2 ^ 64 := by
    rw [Nat.mod_eq_sub_mod (by omega)]
    exact Nat.mod_le _ _
  omega

theorem watermark_le (limit : ℕ) : watermark limit ≤ limit := by
  unfold watermark
  have hmod : limit * 9 % 2 ^ 64 ≤ limit * 9 := Nat.mod_le _ _
  omega

/-- The product of the two `PRAGMA` values is never truncated. -/
theorem PageReading.sizeBytes_eq (p : PageReading) :
    p.sizeBytes = p.pageCount.val * p.pageSize.val := by
  have hcount : p.pageCount.val ≤ 4294967294 := by omega
  have hsize : p.pageSize.val ≤ 65536 := by omega
  have hmul := Nat.mul_le_mul hcount hsize
  exact Nat.mod_eq_of_lt (by omega)

theorem PageReading.sizeBytes_lt (p : PageReading) : p.sizeBytes < 2 ^ 48 := by
  rw [p.sizeBytes_eq]
  have hcount : p.pageCount.val ≤ 4294967294 := by omega
  have hsize : p.pageSize.val ≤ 65536 := by omega
  have hmul := Nat.mul_le_mul hcount hsize
  omega

/-- A byte limit that a database file exceeds has an exact watermark. -/
theorem watermark_of_exceeded {limit : ℕ} {p : PageReading} (h : limit < p.sizeBytes) :
    watermark limit = 9 * limit / 10 := by
  have hlt := p.sizeBytes_lt
  exact watermark_eq (by omega)

/-! ## One turn of the loop

With every statement succeeding, a turn either stops, or executes one batch whose
row count is lost in the `int` of `sqlite3_changes`, or executes one batch and goes
on. -/

section Loop

variable (order : OrderBy Row) (pages : ℕ → PageReading) (lim : CapacityLimits)

theorem pruneLoop_stop {k : ℕ} {t : Table} {total : ℕ}
    (h : t.count = 0 ∨ chooseBatch lim t.count (pages k).sizeBytes = none) :
    pruneLoop order (.ofPages pages) lim k t total = ⟨t, [], false, .ok total⟩ := by
  rw [pruneLoop]
  simp only [CapacityOutcome.ofPages, if_true]
  rcases h with h | h
  · rw [if_pos h]
  · by_cases hzero : t.count = 0
    · rw [if_pos hzero]
    · rw [if_neg hzero, h]

theorem pruneLoop_lost {k : ℕ} {t : Table} {total : ℕ} {batch : Batch} (hne : t.count ≠ 0)
    (hbatch : chooseBatch lim t.count (pages k).sizeBytes = some batch)
    (hlost : sqlite3Changes (t.count - (t.deleteLowest order batch.limit).count) = 0) :
    pruneLoop order (.ofPages pages) lim k t total
      = ⟨t.deleteLowest order batch.limit, [batch], false, .ok total⟩ := by
  rw [pruneLoop]
  simp only [CapacityOutcome.ofPages, if_true]
  rw [if_neg hne, hbatch]
  simp only
  rw [dif_pos hlost]

theorem pruneLoop_next {k : ℕ} {t : Table} (total : ℕ) {batch : Batch} (hne : t.count ≠ 0)
    (hbatch : chooseBatch lim t.count (pages k).sizeBytes = some batch)
    (hseen : sqlite3Changes (t.count - (t.deleteLowest order batch.limit).count) ≠ 0) :
    ∃ total',
      (pruneLoop order (.ofPages pages) lim k t total).table
        = (pruneLoop order (.ofPages pages) lim (k + 1)
            (t.deleteLowest order batch.limit) total').table ∧
      (pruneLoop order (.ofPages pages) lim k t total).batches
        = batch :: (pruneLoop order (.ofPages pages) lim (k + 1)
            (t.deleteLowest order batch.limit) total').batches := by
  refine ⟨(total + toSize (sqlite3Changes
    (t.count - (t.deleteLowest order batch.limit).count))) % 2 ^ 64, ?_⟩
  rw [pruneLoop.eq_def order (.ofPages pages) lim k]
  simp only [CapacityOutcome.ofPages, if_true]
  rw [if_neg hne, hbatch]
  simp only
  rw [dif_neg hseen]
  exact ⟨rfl, rfl⟩

/-! ## The byte-driven phase -/

/-- The loop from `t` after `k` deletions, once the count target is met: it runs
batches of up to 100 rows while the size is above target and rows are left. -/
structure BytePhase (k : ℕ) (t : Table) (r : PruneRun) : Prop where
  kinds : ∀ b ∈ r.batches, b.kind = .bytes ∧ b.limit ≤ 100
  above : ∀ j < r.batches.length, lim.targetBytes < (pages (k + j)).sizeBytes
  rowsLeft : ∀ j < r.batches.length, 100 * j < t.count
  stopped : r.table.count = 0 ∨ (pages (k + r.batches.length)).sizeBytes ≤ lim.targetBytes
  count_eq : r.table.count = t.count - 100 * r.batches.length

/-- A batch of at most 100 rows is always seen in `sqlite3_changes`. -/
theorem changes_of_small_batch {t : Table} (hne : t.count ≠ 0) :
    sqlite3Changes (t.count - (t.deleteLowest order (min 100 t.count)).count) ≠ 0 := by
  rw [Table.deleteLowest_count]
  unfold sqlite3Changes
  rw [toInt32_of_fits (by omega) (by omega)]
  omega

variable {pages lim} {k : ℕ} {t : Table}

/-- A phase that has nothing to do. -/
theorem BytePhase.stop (total : ℕ)
    (h : t.count = 0 ∨ (pages k).sizeBytes ≤ lim.targetBytes) :
    BytePhase pages lim k t ⟨t, [], false, .ok total⟩ where
  kinds := by simp
  above := by simp
  rowsLeft := by simp
  stopped := by simpa using h
  count_eq := by simp

/-- A phase that starts with one batch. -/
theorem BytePhase.cons {t' : Table} {run rest : PruneRun} (hne : t.count ≠ 0)
    (habove : lim.targetBytes < (pages k).sizeBytes)
    (hcount : t'.count = t.count - min 100 t.count) (htable : run.table = rest.table)
    (hbatches : run.batches = ⟨.bytes, min 100 t.count⟩ :: rest.batches)
    (hrest : BytePhase pages lim (k + 1) t' rest) : BytePhase pages lim k t run := by
  refine { kinds := ?_, above := ?_, rowsLeft := ?_, stopped := ?_, count_eq := ?_ }
  · intro b hb
    rw [hbatches] at hb
    rcases List.mem_cons.mp hb with rfl | hb
    · exact ⟨rfl, Nat.min_le_left _ _⟩
    · exact hrest.kinds b hb
  -- the batch with number `j + 1` is the one with number `j` of the rest
  · intro j hj
    rw [hbatches, List.length_cons] at hj
    cases j with
    | zero => simpa using habove
    | succ j =>
      have hj' := hrest.above j (by omega)
      rwa [show k + (j + 1) = k + 1 + j from by omega]
  · intro j hj
    rw [hbatches, List.length_cons] at hj
    cases j with
    | zero => omega
    | succ j =>
      have hj' := hrest.rowsLeft j (by omega)
      omega
  · rw [htable, hbatches, List.length_cons,
      show k + (rest.batches.length + 1) = k + 1 + rest.batches.length from by omega]
    exact hrest.stopped
  · rw [htable, hbatches, List.length_cons]
    have hrestCount := hrest.count_eq
    omega

/-- The phase deletes nothing exactly when no row is left or the size is at its target. -/
theorem BytePhase.count_unchanged_iff {run : PruneRun} (h : BytePhase pages lim k t run) :
    run.table.count = t.count ↔ t.count = 0 ∨ (pages k).sizeBytes ≤ lim.targetBytes := by
  have hfinal := h.count_eq
  constructor
  · intro hsame
    by_cases hzero : t.count = 0
    · exact Or.inl hzero
    · have hlen : run.batches.length = 0 := by omega
      have hstopped := h.stopped
      rw [hlen] at hstopped
      exact hstopped.imp_left fun hnil => hsame.symm.trans hnil
  · intro hstop
    have hlen : run.batches.length = 0 := by
      by_contra hbatch
      have habove : _ < (pages k).sizeBytes := h.above 0 (Nat.pos_of_ne_zero hbatch)
      have hrows := h.rowsLeft 0 (Nat.pos_of_ne_zero hbatch)
      omega
    omega

/-- Once the count is at its target, the rest of the loop is a byte-driven phase. -/
theorem bytePhase (hbytes : 0 < lim.maxBytes) (k : ℕ) (t : Table) (total : ℕ)
    (hcount : lim.maxEvents = 0 ∨ t.count ≤ lim.targetCount) :
    BytePhase pages lim k t (pruneLoop order (.ofPages pages) lim k t total) := by
  -- strong induction on the number of rows, which every executed batch lowers
  induction hn : t.count using Nat.strong_induction_on generalizing k t total with
  | _ n ih =>
    have hnocount : ¬ (0 < lim.maxEvents ∧ lim.targetCount < t.count) := by omega
    by_cases hstop : t.count = 0 ∨ (pages k).sizeBytes ≤ lim.targetBytes
    · have hnone : t.count = 0 ∨ chooseBatch lim t.count (pages k).sizeBytes = none := by
        refine hstop.imp_right fun hle => ?_
        rw [chooseBatch, if_neg hnocount, if_neg (by omega)]
      rw [pruneLoop_stop order pages lim hnone]
      exact BytePhase.stop total hstop
    · push Not at hstop
      obtain ⟨hne, habove⟩ := hstop
      have hbatch : chooseBatch lim t.count (pages k).sizeBytes
          = some ⟨.bytes, min 100 t.count⟩ := by
        rw [chooseBatch, if_neg hnocount, if_pos ⟨hbytes, habove⟩]
      obtain ⟨total', htable, hbatches⟩ := pruneLoop_next order pages lim total hne hbatch
        (changes_of_small_batch order hne)
      have hfewer := t.deleteLowest_count order (min 100 t.count)
      have hrest := ih _ (by omega) (k + 1) (t.deleteLowest order (min 100 t.count)) total'
        (by omega) rfl
      exact hrest.cons hne habove hfewer htable hbatches

end Loop

/-! ## From entry to the byte-driven phase -/

section Entry

variable (order : OrderBy Row) (pages : ℕ → PageReading) (maxBytes maxEvents : ℕ) (t : Table)

/-- The targets of a prune of `t`. -/
def entryLimits : CapacityLimits :=
  .ofEntry maxBytes maxEvents t.count (pages 0).sizeBytes

/-- An exceeded limit enters the loop. -/
theorem pruneByCapacity_enter
    (h : (0 < maxEvents ∧ maxEvents < t.count) ∨ (0 < maxBytes ∧ maxBytes < (pages 0).sizeBytes)) :
    pruneByCapacity order (.ofPages pages) maxBytes maxEvents t
      = pruneLoop order (.ofPages pages) (entryLimits pages maxBytes maxEvents t) 0 t 0 := by
  unfold pruneByCapacity
  simp only [CapacityOutcome.ofPages, if_true]
  rw [if_neg (by omega)]
  rfl

theorem pruneByCapacity_skip
    (h : ¬ (0 < maxEvents ∧ maxEvents < t.count))
    (h' : ¬ (0 < maxBytes ∧ maxBytes < (pages 0).sizeBytes)) :
    pruneByCapacity order (.ofPages pages) maxBytes maxEvents t = ⟨t, [], false, .ok 0⟩ := by
  unfold pruneByCapacity
  simp only [CapacityOutcome.ofPages, if_true]
  rw [if_pos ⟨h, h'⟩]

theorem entryLimits_targetCount (h : 0 < maxEvents) :
    (entryLimits pages maxBytes maxEvents t).targetCount = watermark maxEvents := if_pos h

theorem entryLimits_targetBytes (h : 0 < maxBytes) :
    (entryLimits pages maxBytes maxEvents t).targetBytes = watermark maxBytes := if_pos h

variable {maxEvents t}

/-- The batch that brings the count down to its watermark. -/
def countBatch (maxEvents : ℕ) (t : Table) : Batch := ⟨.count, t.count - watermark maxEvents⟩

theorem deleteLowest_countBatch (hover : watermark maxEvents < t.count) :
    (t.deleteLowest order (countBatch maxEvents t).limit).count = watermark maxEvents := by
  rw [Table.deleteLowest_count]
  show t.count - (t.count - watermark maxEvents) = _
  omega

/-- The `int` of `sqlite3_changes` loses a count-driven batch exactly when its size
is a multiple of `2 ^ 32`. -/
theorem changes_of_countBatch (hover : watermark maxEvents < t.count) :
    sqlite3Changes (t.count - (t.deleteLowest order (countBatch maxEvents t).limit).count) = 0
      ↔ 2 ^ 32 ∣ t.count - watermark maxEvents := by
  rw [deleteLowest_countBatch order hover]
  unfold sqlite3Changes
  rw [toInt32_eq_zero_iff]
  exact_mod_cast Iff.rfl

/-- A table above its count watermark starts with the count-driven batch: the loop
then ends at once if the number of deleted rows is lost, and otherwise goes on. -/
theorem pruneLoop_countBatch (hpos : 0 < maxEvents) (hover : watermark maxEvents < t.count) :
    (2 ^ 32 ∣ t.count - watermark maxEvents →
      (pruneLoop order (.ofPages pages) (entryLimits pages maxBytes maxEvents t) 0 t 0).table.count
          = watermark maxEvents ∧
        (pruneLoop order (.ofPages pages) (entryLimits pages maxBytes maxEvents t) 0 t 0).batches
          = [countBatch maxEvents t]) ∧
    (¬ 2 ^ 32 ∣ t.count - watermark maxEvents →
      ∃ t' total', t'.count = watermark maxEvents ∧
        (pruneLoop order (.ofPages pages) (entryLimits pages maxBytes maxEvents t) 0 t 0).table
          = (pruneLoop order (.ofPages pages)
              (entryLimits pages maxBytes maxEvents t) 1 t' total').table ∧
        (pruneLoop order (.ofPages pages) (entryLimits pages maxBytes maxEvents t) 0 t 0).batches
          = countBatch maxEvents t :: (pruneLoop order (.ofPages pages)
              (entryLimits pages maxBytes maxEvents t) 1 t' total').batches) := by
  have hne : t.count ≠ 0 := by omega
  have hbatch : chooseBatch (entryLimits pages maxBytes maxEvents t) t.count
      (pages 0).sizeBytes = some (countBatch maxEvents t) := by
    have htarget := entryLimits_targetCount pages maxBytes maxEvents t hpos
    rw [chooseBatch, htarget, if_pos ⟨hpos, hover⟩]
    rfl
  constructor
  · intro hlost
    rw [pruneLoop_lost order pages _ hne hbatch ((changes_of_countBatch order hover).mpr hlost)]
    exact ⟨deleteLowest_countBatch order hover, rfl⟩
  · intro hseen
    obtain ⟨total', htable, hbatches⟩ := pruneLoop_next order pages
      (entryLimits pages maxBytes maxEvents t) 0 hne hbatch
      (fun h => hseen ((changes_of_countBatch order hover).mp h))
    exact ⟨_, total', deleteLowest_countBatch order hover, htable, hbatches⟩

end Entry

/-! ## A limit that is not exceeded -/

section Interaction

variable (order : OrderBy Row) (pages : ℕ → PageReading) (maxBytes maxEvents : ℕ) (t : Table)

/-- The prune starts with too many rows while the size is within its limit. -/
def OnlyCountExceeded : Prop :=
  0 < maxEvents ∧ maxEvents < t.count ∧ (pages 0).sizeBytes ≤ maxBytes

/-- The prune starts with too many bytes while the count is within its limit. -/
def OnlyBytesExceeded : Prop :=
  0 < maxBytes ∧ maxBytes < (pages 0).sizeBytes ∧ t.count ≤ maxEvents

/-- A limit that is not exceeded causes no deletion: an excess of rows removes
exactly the rows above 90% of `maxEvents`; an excess of bytes removes rows only in
byte-driven batches of at most 100 and stops at the first point where the size is at
most 90% of `maxBytes` (or no row is left). -/
def UnexceededLimitIgnored : Prop :=
  let run := pruneByCapacity order (.ofPages pages) maxBytes maxEvents t
  (OnlyCountExceeded pages maxBytes maxEvents t →
    t.count - run.table.count = t.count - 9 * maxEvents / 10) ∧
  (OnlyBytesExceeded pages maxBytes maxEvents t →
    (∀ b ∈ run.batches, b.kind = .bytes ∧ b.limit ≤ 100) ∧
    (∀ k < run.batches.length, 9 * maxBytes / 10 < (pages k).sizeBytes) ∧
    (run.table.count = 0 ∨ (pages run.batches.length).sizeBytes ≤ 9 * maxBytes / 10))

/-- The condition under which the two limits do not interact. With only the count
exceeded: nine times `maxEvents` fits in a `size_t`, and after the count-driven batch
no byte-driven one follows (no row is left, there is no byte limit, the size is at
most its watermark, or the batch is lost in `sqlite3_changes`). With only the bytes
exceeded: the count is at most its own watermark. -/
def LimitsIndependent : Prop :=
  (OnlyCountExceeded pages maxBytes maxEvents t →
    9 * maxEvents < 2 ^ 64 ∧
    (9 * maxEvents / 10 = 0 ∨ maxBytes = 0 ∨ (pages 1).sizeBytes ≤ watermark maxBytes ∨
      2 ^ 32 ∣ t.count - 9 * maxEvents / 10)) ∧
  (OnlyBytesExceeded pages maxBytes maxEvents t → t.count ≤ watermark maxEvents)

variable {pages maxBytes maxEvents t}

/-- After the count-driven batch, byte-driven batches follow exactly when rows are
left, a byte limit is set, its watermark is below the size, and the batch was seen. -/
theorem onlyCount_final (h : OnlyCountExceeded pages maxBytes maxEvents t) :
    (pruneByCapacity order (.ofPages pages) maxBytes maxEvents t).table.count
        ≤ watermark maxEvents ∧
    ((pruneByCapacity order (.ofPages pages) maxBytes maxEvents t).table.count
        = watermark maxEvents ↔
      watermark maxEvents = 0 ∨ maxBytes = 0 ∨ (pages 1).sizeBytes ≤ watermark maxBytes ∨
        2 ^ 32 ∣ t.count - watermark maxEvents) := by
  obtain ⟨hpos, hexceed, hbytes⟩ := h
  have hover : watermark maxEvents < t.count := lt_of_le_of_lt (watermark_le _) hexceed
  rw [pruneByCapacity_enter order pages maxBytes maxEvents t (Or.inl ⟨hpos, hexceed⟩)]
  obtain ⟨hlost, hseen⟩ := pruneLoop_countBatch order pages maxBytes hpos hover
  by_cases hdvd : 2 ^ 32 ∣ t.count - watermark maxEvents
  · rw [(hlost hdvd).1]
    exact ⟨le_refl _, fun _ => Or.inr (Or.inr (Or.inr hdvd)), fun _ => rfl⟩
  · obtain ⟨t', total', hcount', htable, -⟩ := hseen hdvd
    rw [htable]
    have htarget := entryLimits_targetCount pages maxBytes maxEvents t hpos
    by_cases hzero : maxBytes = 0
    · -- no byte limit: the second turn of the loop stops
      have hnone : chooseBatch (entryLimits pages maxBytes maxEvents t) t'.count
          (pages 1).sizeBytes = none := by
        rw [chooseBatch, htarget, if_neg (by omega), if_neg]
        rintro ⟨hpos', -⟩
        exact absurd hzero (Nat.pos_iff_ne_zero.mp hpos')
      rw [pruneLoop_stop order pages _ (Or.inr hnone)]
      exact ⟨le_of_eq hcount', by simp [hcount', hzero]⟩
    · have hphase := @bytePhase order pages (entryLimits pages maxBytes maxEvents t)
        (Nat.pos_of_ne_zero hzero) 1 t' total' (Or.inr (by rw [htarget]; omega))
      have hfinal := hphase.count_eq
      have hkept := hphase.count_unchanged_iff
      rw [entryLimits_targetBytes pages maxBytes maxEvents t (Nat.pos_of_ne_zero hzero),
        hcount'] at hkept
      refine ⟨by omega, ?_⟩
      rw [hkept, or_iff_left hdvd, or_iff_right hzero]

/-- With only the bytes exceeded, the run is the byte-driven phase exactly when the
count is at most its watermark; otherwise it starts with the count-driven batch. -/
theorem onlyBytes_batches (h : OnlyBytesExceeded pages maxBytes maxEvents t) :
    (t.count ≤ watermark maxEvents →
      BytePhase pages (entryLimits pages maxBytes maxEvents t) 0 t
        (pruneByCapacity order (.ofPages pages) maxBytes maxEvents t)) ∧
    (watermark maxEvents < t.count →
      countBatch maxEvents t
        ∈ (pruneByCapacity order (.ofPages pages) maxBytes maxEvents t).batches) := by
  obtain ⟨hpos, hexceed, hcount⟩ := h
  rw [pruneByCapacity_enter order pages maxBytes maxEvents t (Or.inr ⟨hpos, hexceed⟩)]
  constructor
  · intro hle
    refine bytePhase order hpos 0 t 0 ?_
    by_cases hzero : maxEvents = 0
    · exact Or.inl hzero
    · rw [entryLimits_targetCount pages maxBytes maxEvents t (Nat.pos_of_ne_zero hzero)]
      exact Or.inr hle
  · intro hover
    obtain ⟨hlost, hseen⟩ := pruneLoop_countBatch order pages maxBytes (by omega) hover
    by_cases hdvd : 2 ^ 32 ∣ t.count - watermark maxEvents
    · rw [(hlost hdvd).2]
      exact List.mem_singleton_self _
    · obtain ⟨t', total', -, -, hbatches⟩ := hseen hdvd
      rw [hbatches]
      exact List.mem_cons_self

end Interaction

/-- **The capacity limits interact**: a limit that is not exceeded causes no deletion
if and only if the limits are independent in the sense of `LimitsIndependent`. -/
theorem limit_not_exceeded_ignored_iff (order : OrderBy Row) (pages : ℕ → PageReading)
    (maxBytes maxEvents : ℕ) (t : Table) :
    UnexceededLimitIgnored order pages maxBytes maxEvents t
      ↔ LimitsIndependent pages maxBytes maxEvents t := by
  refine and_congr (forall_congr' fun hcount => ?_) (forall_congr' fun hbytes => ?_)
  · obtain ⟨hle, hiff⟩ := onlyCount_final order hcount
    have hexceed := hcount.2.1
    by_cases hover : 9 * maxEvents < 2 ^ 64
    · rw [watermark_eq hover] at hle hiff
      rw [← hiff]
      constructor
      · intro heq
        exact ⟨hover, by omega⟩
      · rintro ⟨-, heq⟩
        rw [heq]
    · -- the overflowed watermark already deletes too much
      have hlt := watermark_lt_of_overflow (Nat.le_of_not_lt hover)
      constructor
      · intro heq
        omega
      · rintro ⟨hfit, -⟩
        exact absurd hfit hover
  · obtain ⟨hphase, hfirst⟩ := onlyBytes_batches order hbytes
    have htarget := entryLimits_targetBytes pages maxBytes maxEvents t hbytes.1
    rw [watermark_of_exceeded hbytes.2.1] at htarget
    constructor
    · rintro ⟨hkinds, -, -⟩
      by_contra hover
      have hkind := (hkinds _ (hfirst (Nat.lt_of_not_le hover))).1
      cases hkind
    · intro hle
      have h := hphase hle
      refine ⟨h.kinds, ?_, ?_⟩
      · intro k hk
        have habove := h.above k hk
        rwa [htarget, Nat.zero_add] at habove
      · have hstopped := h.stopped
        rwa [htarget, Nat.zero_add] at hstopped

/-- The columns of an ordinary `info` event, for concrete tables. -/
def infoRow : RowData :=
  { timestampUs := 1700000000000000, source := "storage_collector", category := "storage",
    subject := "/", signal := "space_ok", valueType := "none", valueText := some [],
    severity := "info", attributesJson := "\x7b\x7d" }

/-- Three rows against a limit of two, in a file of 98304 bytes against a limit of
100000: the size is within its limit, yet all three rows are deleted where two were
to go. -/
theorem count_prune_empties_table :
    ¬ UnexceededLimitIgnored .stable (fun _ => ⟨24, 4096⟩) 100000 2 (.replicate 3 infoRow) := by
  intro h
  have hcount : (Table.replicate 3 infoRow).count = 3 := Table.count_replicate 3 infoRow
  have honly : OnlyCountExceeded (fun _ => ⟨24, 4096⟩) 100000 2 (.replicate 3 infoRow) :=
    ⟨by decide, by rw [hcount]; decide, by decide⟩
  have hdeleted := h.1 honly
  obtain ⟨hle, hiff⟩ := onlyCount_final .stable honly
  have hwatermark : watermark 2 = 1 := rfl
  rw [hcount] at hdeleted hiff
  rw [hwatermark] at hle hiff
  have hfinal := hiff.mp (by omega)
  revert hfinal
  decide

/-! ## Stopping when the events fit -/

/-- SQLite's page accounting over a sequence of deletions under `auto_vacuum = NONE`:
a deletion moves pages to the freelist and never lowers `page_count`. -/
structure PageAccounting where
  pageSize : Fin 65537
  pageCount : ℕ → Fin 4294967295
  freelist : ℕ → ℕ
  pageCount_mono : Monotone pageCount
  freelist_le : ∀ k, freelist k ≤ (pageCount k).val

namespace PageAccounting

/-- What the two `PRAGMA`s report after `k` deletions. -/
def readings (acc : PageAccounting) (k : ℕ) : PageReading := ⟨acc.pageCount k, acc.pageSize⟩

/-- The bytes of the pages still in use after `k` deletions. -/
def usedBytes (acc : PageAccounting) (k : ℕ) : ℕ :=
  ((acc.pageCount k).val - acc.freelist k) * acc.pageSize.val

/-- The accounting from the `n`-th deletion on. -/
def after (acc : PageAccounting) (n : ℕ) : PageAccounting where
  pageSize := acc.pageSize
  pageCount k := acc.pageCount (n + k)
  freelist k := acc.freelist (n + k)
  pageCount_mono := fun _ _ h => acc.pageCount_mono (Nat.add_le_add_left h n)
  freelist_le k := acc.freelist_le (n + k)

/-- The measured size never goes down. -/
theorem sizeBytes_mono (acc : PageAccounting) {j k : ℕ} (h : j ≤ k) :
    (acc.readings j).sizeBytes ≤ (acc.readings k).sizeBytes := by
  rw [PageReading.sizeBytes_eq, PageReading.sizeBytes_eq]
  exact Nat.mul_le_mul_right _ (acc.pageCount_mono h)

end PageAccounting

section Fits

variable (order : OrderBy Row) (acc : PageAccounting) (maxBytes maxEvents : ℕ) (t : Table)

/-- The pages still in use after `k` deletions are at most 90% of the limit. -/
def Fits (k : ℕ) : Prop := acc.usedBytes k ≤ 9 * maxBytes / 10

/-- Byte-limit pruning stops when the remaining events fit: no later than the first
batch after which they do; it does not empty a table that fitted with fewer rows
removed; and a second call deletes nothing. -/
def StopsWhenFits : Prop :=
  let run := pruneByCapacity order (.ofPages acc.readings) maxBytes maxEvents t
  (∀ k, 1 ≤ k → Fits acc maxBytes k → run.batches.length ≤ k) ∧
  ((∃ k < run.batches.length, Fits acc maxBytes k) → run.table.count ≠ 0) ∧
  (pruneByCapacity order (.ofPages (acc.after run.batches.length).readings) maxBytes maxEvents
    run.table).table = run.table

/-- The number of batches that empty a table of `count` rows: batches of 100, after
one count-driven batch when the count is above its watermark. -/
def batchesToEmpty (maxEvents count : ℕ) : ℕ :=
  if 0 < maxEvents ∧ watermark maxEvents < count then 1 + (watermark maxEvents + 99) / 100
  else (count + 99) / 100

/-- The count-driven batch leaves rows behind and is lost in `sqlite3_changes`. -/
def CountBatchLost (maxEvents count : ℕ) : Prop :=
  0 < maxEvents ∧ 0 < watermark maxEvents ∧ watermark maxEvents < count ∧
    2 ^ 32 ∣ count - watermark maxEvents

variable {acc maxBytes maxEvents t}

/-- A byte-driven phase that starts above the byte limit ends on the empty table. -/
theorem bytePhase_empties (hpos : 0 < maxBytes)
    (hexceed : maxBytes < (acc.readings 0).sizeBytes) {t₀ : Table} {k : ℕ} {t' : Table}
    {run : PruneRun}
    (h : BytePhase acc.readings (entryLimits acc.readings maxBytes maxEvents t₀) k t' run) :
    run.table.count = 0 ∧ run.batches.length = (t'.count + 99) / 100 := by
  have hcount := h.count_eq
  have hempty : run.table.count = 0 := by
    rcases h.stopped with hzero | hle
    · exact hzero
    -- the size never goes down, so it cannot have reached its target
    · rw [entryLimits_targetBytes acc.readings maxBytes maxEvents t₀ hpos] at hle
      have hmono := acc.sizeBytes_mono (Nat.zero_le (k + run.batches.length))
      have hwater := watermark_le maxBytes
      omega
  refine ⟨hempty, ?_⟩
  by_cases hlen : run.batches.length = 0
  · omega
  · have hlast := h.rowsLeft (run.batches.length - 1) (by omega)
    omega

/-- Above the byte limit every run that is not lost empties the table. -/
theorem pruneByCapacity_empties (hpos : 0 < maxBytes)
    (hexceed : maxBytes < (acc.readings 0).sizeBytes)
    (hseen : ¬ CountBatchLost maxEvents t.count) :
    (pruneByCapacity order (.ofPages acc.readings) maxBytes maxEvents t).table.count = 0 ∧
    (pruneByCapacity order (.ofPages acc.readings) maxBytes maxEvents t).batches.length
      = batchesToEmpty maxEvents t.count := by
  rw [pruneByCapacity_enter order acc.readings maxBytes maxEvents t (Or.inr ⟨hpos, hexceed⟩)]
  by_cases hover : 0 < maxEvents ∧ watermark maxEvents < t.count
  · rw [batchesToEmpty, if_pos hover]
    obtain ⟨hlost, hnext⟩ := pruneLoop_countBatch order acc.readings maxBytes hover.1 hover.2
    by_cases hdvd : 2 ^ 32 ∣ t.count - watermark maxEvents
    · -- a lost batch that leaves no row behind
      obtain ⟨hcount, hbatches⟩ := hlost hdvd
      have hzero : watermark maxEvents = 0 := by
        by_contra hne
        exact hseen ⟨hover.1, Nat.pos_of_ne_zero hne, hover.2, hdvd⟩
      rw [hcount, hbatches]
      exact ⟨hzero, by rw [hzero]; rfl⟩
    · obtain ⟨t', total', hcount, htable, hbatches⟩ := hnext hdvd
      have htarget := entryLimits_targetCount acc.readings maxBytes maxEvents t hover.1
      have hphase := @bytePhase order acc.readings
        (entryLimits acc.readings maxBytes maxEvents t) hpos 1 t' total'
        (Or.inr (by rw [htarget, hcount]))
      obtain ⟨hempty, hlen⟩ := bytePhase_empties hpos hexceed hphase
      rw [htable, hbatches, List.length_cons, hlen, hcount]
      exact ⟨hempty, by omega⟩
  · rw [batchesToEmpty, if_neg hover]
    refine bytePhase_empties hpos hexceed (bytePhase order hpos 0 t 0 ?_)
    by_cases hzero : maxEvents = 0
    · exact Or.inl hzero
    · rw [entryLimits_targetCount acc.readings maxBytes maxEvents t (Nat.pos_of_ne_zero hzero)]
      exact Or.inr (by omega)

/-- A prune of an empty table leaves it as it is. -/
theorem pruneByCapacity_of_empty {t : Table} (pages : ℕ → PageReading) (h : t.count = 0) :
    (pruneByCapacity order (.ofPages pages) maxBytes maxEvents t).table = t := by
  by_cases henter : (0 < maxEvents ∧ maxEvents < t.count) ∨
      (0 < maxBytes ∧ maxBytes < (pages 0).sizeBytes)
  · rw [pruneByCapacity_enter order pages maxBytes maxEvents t henter,
      pruneLoop_stop order pages _ (Or.inl h)]
  · push Not at henter
    rw [pruneByCapacity_skip order pages maxBytes maxEvents t (by omega) (by omega)]

/-- A lost count-driven batch leaves rows that the next call deletes. -/
theorem second_call_deletes (hpos : 0 < maxBytes)
    (hexceed : maxBytes < (acc.readings 0).sizeBytes) (hlost : CountBatchLost maxEvents t.count) :
    ¬ StopsWhenFits order acc maxBytes maxEvents t := by
  rintro ⟨-, -, hsecond⟩
  obtain ⟨hE, hwater, hover, hdvd⟩ := hlost
  have henter := pruneByCapacity_enter order acc.readings maxBytes maxEvents t
    (Or.inr ⟨hpos, hexceed⟩)
  obtain ⟨hcount, hbatches⟩ :=
    (pruneLoop_countBatch order acc.readings maxBytes hE hover).1 hdvd
  rw [← henter] at hcount hbatches
  rw [hbatches] at hsecond
  generalize pruneByCapacity order (.ofPages acc.readings) maxBytes maxEvents t = run
    at hcount hsecond
  -- the second call starts at the watermark, so it is byte-driven and empties the table
  have hexceed' : maxBytes < ((acc.after 1).readings 0).sizeBytes :=
    lt_of_lt_of_le hexceed (acc.sizeBytes_mono (Nat.zero_le 1))
  have hnotlost : ¬ CountBatchLost maxEvents run.table.count := by
    rw [hcount]
    rintro ⟨-, -, hlt, -⟩
    exact absurd hlt (lt_irrefl _)
  have hempty := (pruneByCapacity_empties order hpos hexceed' hnotlost).1
  rw [show (acc.after [countBatch maxEvents t].length) = acc.after 1 from rfl] at hsecond
  rw [hsecond, hcount] at hempty
  omega

end Fits

/-- **Byte-limit pruning empties the table**: above the byte limit, whatever the count
limit, the prune stops in time if and only if the events do not fit before the batch
that removes the last of them (and no count-driven batch is lost). -/
theorem stops_when_fits_iff (order : OrderBy Row) (acc : PageAccounting)
    (maxBytes maxEvents : ℕ) (t : Table) (hpos : 0 < maxBytes)
    (hexceed : maxBytes < (acc.readings 0).sizeBytes) :
    StopsWhenFits order acc maxBytes maxEvents t ↔
      (∀ k < batchesToEmpty maxEvents t.count, ¬ Fits acc maxBytes k) ∧
      ¬ CountBatchLost maxEvents t.count := by
  constructor
  · intro h
    have hseen : ¬ CountBatchLost maxEvents t.count :=
      fun hlost => second_call_deletes order hpos hexceed hlost h
    obtain ⟨hempty, hlen⟩ := pruneByCapacity_empties order hpos hexceed hseen
    refine ⟨fun k hk hfits => ?_, hseen⟩
    exact h.2.1 ⟨k, by rw [hlen]; exact hk, hfits⟩ hempty
  · rintro ⟨hfits, hseen⟩
    obtain ⟨hempty, hlen⟩ := pruneByCapacity_empties order hpos hexceed hseen
    refine ⟨?_, ?_, ?_⟩
    · intro k _ hk
      by_contra hlt
      rw [hlen] at hlt
      exact hfits k (Nat.lt_of_not_le hlt) hk
    · rintro ⟨k, hk, hk'⟩
      rw [hlen] at hk
      exact absurd hk' (hfits k hk)
    · exact pruneByCapacity_of_empty order _ hempty

/-- A file of 30 pages of which 20 are free after the first deletion. -/
def thirtyPages : PageAccounting where
  pageSize := 4096
  pageCount _ := 30
  freelist k := if k = 0 then 0 else 20
  pageCount_mono := monotone_const
  freelist_le k := by
    by_cases hk : k = 0
    · rw [if_pos hk]
      exact Nat.zero_le _
    · rw [if_neg hk]
      decide

/-- Fifty rows in that file go in one batch, and before it they do not fit. -/
theorem stops_when_fits_one_batch :
    100000 < (thirtyPages.readings 0).sizeBytes ∧
      StopsWhenFits .stable thirtyPages 100000 1000 (.replicate 50 infoRow) := by
  refine ⟨by decide, (stops_when_fits_iff _ _ _ _ _ (by decide) (by decide)).mpr ?_⟩
  rw [Table.count_replicate]
  refine ⟨fun k hk hfits => ?_, fun hlost => absurd hlost.2.2.1 (by decide)⟩
  have hone : batchesToEmpty 1000 50 = 1 := rfl
  have hzero : k = 0 := by omega
  subst hzero
  revert hfits
  unfold Fits
  decide

/-- With 150 rows, 40960 of the 100000 allowed bytes are in use after the first batch
of 100, and yet the second batch deletes the remaining 50. -/
theorem byte_prune_empties_table :
    ¬ StopsWhenFits .stable thirtyPages 100000 1000 (.replicate 150 infoRow) := by
  intro h
  have hcount := Table.count_replicate 150 infoRow
  have hseen : ¬ CountBatchLost 1000 (Table.replicate 150 infoRow).count := by
    rw [hcount]
    exact fun hlost => absurd hlost.2.2.1 (by decide)
  obtain ⟨hempty, hlen⟩ := pruneByCapacity_empties .stable
    (by decide : 0 < 100000) (by decide : 100000 < (thirtyPages.readings 0).sizeBytes) hseen
  rw [hcount, show batchesToEmpty 1000 150 = 2 from rfl] at hlen
  have hfits : Fits thirtyPages 100000 1 := by
    unfold Fits
    decide
  exact h.2.1 ⟨1, by omega, hfits⟩ hempty

end EventStore

end Holonight
