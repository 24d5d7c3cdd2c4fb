import Holonight.Storage.Capacity
import Holonight.Config.Application

/-!
# Which rows a capacity prune removes, and when

`Capacity.lean` follows the loop of `pruneEventsByCapacity` by its sizes. This file is
about the rows themselves, over all the batches of a call:

- `keeps_most_valuable_iff`: whatever the sizes read between the deletions, the rows
  removed lie below the rows kept; the number returned is the number removed exactly
  when the count-driven batch fits the `int` of `sqlite3_changes`.
- `watermark_exact_iff`: the 90% watermarks of the configured limits are exact, and no
  batch runs with both sizes at or below 90%, exactly when neither limit overflows
  when it is multiplied by 9.

Both rest on a step lemma for one batch and an induction on the rows left.
-/

namespace Holonight

/-! ## Upper segments

Removing rows from the front of a sorted list, sorting what is left anew and removing
again leaves an upper segment of the first list: nothing removed is above anything kept.
No property of the order is needed to compose two removals. -/

/-- `after` is what is left of `before` once a lower segment is removed. -/
structure KeepsTop {α : Type*} (le : α → α → Bool) (before after : List α) : Prop where
  sublist : after.Sublist before
  top : ∀ a ∈ before, a ∉ after → ∀ b ∈ after, le a b = true

namespace KeepsTop

variable {α : Type*} {le : α → α → Bool} {l₁ l₂ l₃ : List α}

theorem refl (l : List α) : KeepsTop le l l where
  sublist := List.Sublist.refl l
  top := fun _ ha hout => absurd ha hout

theorem trans (h₁₂ : KeepsTop le l₁ l₂) (h₂₃ : KeepsTop le l₂ l₃) : KeepsTop le l₁ l₃ where
  sublist := h₂₃.sublist.trans h₁₂.sublist
  top := by
    intro a ha hout b hb
    by_cases hmid : a ∈ l₂
    · exact h₂₃.top a hmid hout b hb
    · exact h₁₂.top a ha hmid b (h₂₃.sublist.subset hb)

/-- A removal of the first `n` elements in sorted order. -/
theorem of_sorted {sorted : List α} {n : ℕ} (hsub : l₂.Sublist l₁) (hsorted : sorted.Perm l₁)
    (hrest : l₂.Perm (sorted.drop n)) (hpair : sorted.Pairwise fun a b => le a b = true) :
    KeepsTop le l₁ l₂ where
  sublist := hsub
  top := by
    intro a ha hout b hb
    rw [← List.take_append_drop n sorted] at hpair hsorted
    have hmem : a ∈ sorted.take n ++ sorted.drop n := hsorted.mem_iff.mpr ha
    rcases List.mem_append.mp hmem with htake | hdrop
    · exact (List.pairwise_append.mp hpair).2.2 a htake b (hrest.mem_iff.mp hb)
    · exact absurd (hrest.mem_iff.mpr hdrop) hout

end KeepsTop

namespace EventStore

/-! ## The rows removed -/

theorem pruneLe_trans (a b c : Row) (hab : pruneLe a b = true) (hbc : pruneLe b c = true) :
    pruneLe a c = true := by
  simp only [pruneLe, Bool.or_eq_true, Bool.and_eq_true, decide_eq_true_eq] at *
  omega

theorem pruneLe_total (a b : Row) : (pruneLe a b || pruneLe b a) = true := by
  simp only [pruneLe, Bool.or_eq_true, Bool.and_eq_true, decide_eq_true_eq]
  omega

/-- One batch removes a lower segment of the table. -/
theorem deleteLowest_keepsTop (order : OrderBy Row) (t : Table) (n : ℕ) :
    KeepsTop pruneLe t.rows (t.deleteLowest order n).rows :=
  KeepsTop.of_sorted List.filter_sublist (order.perm pruneLe t.rows)
    (t.deleteLowest_rows_perm order n)
    (order.sorted pruneLe t.rows pruneLe_trans pruneLe_total)

/-- So do all batches of the loop together, also when a statement fails in between. -/
theorem pruneLoop_keepsTop (order : OrderBy Row) (o : CapacityOutcome) (lim : CapacityLimits)
    (k : ℕ) (t : Table) (total : ℕ) :
    KeepsTop pruneLe t.rows (pruneLoop order o lim k t total).table.rows := by
  -- the first three cases leave the table as it is
  fun_induction pruneLoop order o lim k t total with
  | case1 | case2 | case3 => exact KeepsTop.refl _
  | case4 => exact deleteLowest_keepsTop order _ _
  | case5 _ _ _ _ _ _ _ _ _ _ _ _ ih => exact (deleteLowest_keepsTop order _ _).trans ih

/-! ## The rows counted -/

/-- The rows that a list of batches removes. -/
def removedBy (batches : List Batch) : ℕ := (batches.map Batch.limit).sum

/-- The rows that `sqlite3_changes` reports for them, as the loop adds them up. -/
def reportedFor (batches : List Batch) : ℕ :=
  (batches.map fun b => toSize (sqlite3Changes b.limit)).sum

@[simp] theorem removedBy_nil : removedBy [] = 0 := rfl

@[simp] theorem removedBy_cons (b : Batch) (rest : List Batch) :
    removedBy (b :: rest) = b.limit + removedBy rest := rfl

@[simp] theorem reportedFor_nil : reportedFor [] = 0 := rfl

@[simp] theorem reportedFor_cons (b : Batch) (rest : List Batch) :
    reportedFor (b :: rest) = toSize (sqlite3Changes b.limit) + reportedFor rest := rfl

/-- A batch is never larger than the table it is chosen for. -/
theorem chooseBatch_limit_le {lim : CapacityLimits} {count bytes : ℕ} {batch : Batch}
    (h : chooseBatch lim count bytes = some batch) : batch.limit ≤ count := by
  unfold chooseBatch at h
  split at h
  · cases h
    exact Nat.sub_le _ _
  · split at h
    · cases h
      exact Nat.min_le_right _ _
    · cases h

/-- A batch removes as many rows as its `LIMIT` says: so many are there. -/
theorem count_add_limit (order : OrderBy Row) {lim : CapacityLimits} {bytes : ℕ} {t : Table}
    {batch : Batch} (h : chooseBatch lim t.count bytes = some batch) :
    (t.deleteLowest order batch.limit).count + batch.limit = t.count := by
  have hle : batch.limit ≤ t.count := chooseBatch_limit_le h
  have hcount := t.deleteLowest_count order batch.limit
  omega

/-- What the loop adds up: every batch removes its `LIMIT`, and the number returned is
the sum of what `sqlite3_changes` made of these numbers. -/
theorem pruneLoop_accounts (order : OrderBy Row) (pages : ℕ → PageReading)
    (lim : CapacityLimits) (k : ℕ) (t : Table) (total : ℕ) (htotal : total < 2 ^ 64) :
    let run := pruneLoop order (.ofPages pages) lim k t total
    run.table.count + removedBy run.batches = t.count ∧
      run.result = .ok ((total + reportedFor run.batches) % 2 ^ 64) := by
  fun_induction pruneLoop order (.ofPages pages) lim k t total with
  | case1 | case2 => exact ⟨rfl, by rw [reportedFor_nil, Nat.add_zero, Nat.mod_eq_of_lt htotal]⟩
  | case3 k t total count hne batch hbatch msg rolledBack hstep => cases hstep
  | case4 k t total count hne batch hbatch hstep t' changes hlost =>
    have hcount : t'.count + batch.limit = t.count := count_add_limit order hbatch
    have hdeleted : t.count - t'.count = batch.limit := by omega
    have hchanges : sqlite3Changes batch.limit = 0 := by rw [← hdeleted]; exact hlost
    refine ⟨?_, ?_⟩
    · rw [removedBy_cons, removedBy_nil]
      show t'.count + (batch.limit + 0) = t.count
      omega
    · have hzero : toSize 0 = 0 := by decide
      rw [reportedFor_cons, reportedFor_nil, hchanges, hzero, Nat.add_zero,
        Nat.mod_eq_of_lt htotal]
  | case5 k t total count hne batch hbatch hstep t' changes hseen rest ih =>
    have hcount : t'.count + batch.limit = t.count := count_add_limit order hbatch
    have hdeleted : t.count - t'.count = batch.limit := by omega
    have hchanges : changes = sqlite3Changes batch.limit := by rw [← hdeleted]
    obtain ⟨hremoved, hresult⟩ := ih (Nat.mod_lt _ (by decide))
    refine ⟨?_, ?_⟩
    · have hremoved' : rest.table.count + removedBy rest.batches = t'.count := hremoved
      show rest.table.count + removedBy (batch :: rest.batches) = t.count
      rw [removedBy_cons]
      omega
    · rw [reportedFor_cons]
      have hresult' : rest.result
          = .ok (((total + toSize changes) % 2 ^ 64 + reportedFor rest.batches) % 2 ^ 64) := hresult
      rw [hresult', hchanges, Nat.mod_add_mod, Nat.add_assoc]

/-- Once the count is at its target, all batches are small. -/
theorem pruneLoop_batches_small (order : OrderBy Row) (pages : ℕ → PageReading)
    (lim : CapacityLimits) (k : ℕ) (t : Table) (total : ℕ)
    (hcount : lim.maxEvents = 0 ∨ t.count ≤ lim.targetCount) :
    ∀ b ∈ (pruneLoop order (.ofPages pages) lim k t total).batches, b.limit ≤ 100 := by
  have hsmall : ∀ {t : Table} {bytes : ℕ} {batch : Batch},
      lim.maxEvents = 0 ∨ t.count ≤ lim.targetCount →
      chooseBatch lim t.count bytes = some batch → batch.limit ≤ 100 := by
    intro t bytes batch hcount h
    unfold chooseBatch at h
    rw [if_neg (by omega)] at h
    split at h
    · cases h
      exact Nat.min_le_left _ _
    · cases h
  fun_induction pruneLoop order (.ofPages pages) lim k t total with
  | case1 | case2 | case3 => exact fun b hb => absurd hb List.not_mem_nil
  | case4 k t total count hne batch hbatch hstep t' changes hlost =>
    intro b hb
    rw [List.mem_singleton] at hb
    exact hb ▸ hsmall hcount hbatch
  | case5 k t total count hne batch hbatch hstep t' changes hseen rest ih =>
    have hfewer : t'.count = t.count - batch.limit := t.deleteLowest_count order batch.limit
    intro b hb
    rcases List.mem_cons.mp hb with rfl | hb
    · exact hsmall hcount hbatch
    · exact ih (hcount.imp_right fun hle => by omega) b hb

/-- Small batches are reported as they are. -/
theorem reportedFor_small {batches : List Batch} (h : ∀ b ∈ batches, b.limit ≤ 100) :
    reportedFor batches = removedBy batches := by
  induction batches with
  | nil => rw [reportedFor_nil, removedBy_nil]
  | cons b rest ih =>
    have hb : b.limit ≤ 100 := h b List.mem_cons_self
    have hchanges : sqlite3Changes b.limit = b.limit :=
      toInt32_of_fits (by omega) (by omega)
    have hsize : toSize (b.limit : ℤ) = b.limit := by
      have hfits : (b.limit : ℤ) < 2 ^ 64 := by omega
      rw [toSize_of_fits (Int.natCast_nonneg _) hfits, Int.toNat_natCast]
    have hrest : reportedFor rest = removedBy rest :=
      ih fun b' hb' => h b' (List.mem_cons_of_mem _ hb')
    rw [reportedFor_cons, removedBy_cons, hchanges, hsize, hrest]

/-- The `int` of `sqlite3_changes` is the number of rows exactly below `2 ^ 31`. -/
theorem changes_exact_iff {n rest : ℕ} (h : n + rest < 2 ^ 63) :
    (toSize (sqlite3Changes n) + rest) % 2 ^ 64 = n + rest ↔ n < 2 ^ 31 := by
  unfold sqlite3Changes toInt32 toSize
  rw [Int.bmod_def]
  split <;> omega

/-- The keys of `observation_events` are positive signed 64-bit integers
(`INTEGER PRIMARY KEY AUTOINCREMENT`). -/
def RowIds (t : Table) : Prop := ∀ r ∈ t.rows, 0 < r.id ∧ r.id < 2 ^ 63

/-- Distinct keys leave room for fewer than `2 ^ 63` rows. -/
theorem RowIds.count_lt {t : Table} (h : RowIds t) : t.count < 2 ^ 63 := by
  have hsub : (t.rows.map Row.id).toFinset ⊆ Finset.Ioo (0 : ℤ) (2 ^ 63) := by
    intro id hid
    obtain ⟨r, hr, rfl⟩ := List.mem_map.mp (List.mem_toFinset.mp hid)
    exact Finset.mem_Ioo.mpr (h r hr)
  have hcard := Finset.card_le_card hsub
  rw [List.toFinset_card_of_nodup t.nodup, List.length_map, Int.card_Ioo] at hcard
  have hrange : ((2 : ℤ) ^ 63 - 0 - 1).toNat < 2 ^ 63 := by omega
  exact lt_of_le_of_lt hcard hrange

section Result

variable (order : OrderBy Row) (pages : ℕ → PageReading) (maxBytes maxEvents : ℕ) (t : Table)

/-- The call prunes at all. -/
def LimitExceeded : Prop :=
  (0 < maxEvents ∧ maxEvents < t.count) ∨ (0 < maxBytes ∧ maxBytes < (pages 0).sizeBytes)

/-- The call returns the number of rows it removed, and none of these is strictly above
a surviving row in severity or, with equal severity, in time. -/
def KeepsMostValuable : Prop :=
  let run := pruneByCapacity order (.ofPages pages) maxBytes maxEvents t
  run.table.rows.Sublist t.rows ∧
  run.result = .ok (t.count - run.table.count) ∧
  ∀ removed ∈ t.rows, removed ∉ run.table.rows → ∀ kept ∈ run.table.rows,
    ¬ (severityCase kept.severity < severityCase removed.severity ∨
      severityCase kept.severity = severityCase removed.severity ∧
        kept.timestampUs < removed.timestampUs)

/-- The rows above the count watermark fit an `int`, if the call removes them. -/
def CountBatchFits : Prop :=
  LimitExceeded pages maxBytes maxEvents t → 0 < maxEvents →
    t.count - watermark maxEvents < 2 ^ 31

variable {pages maxBytes maxEvents t}

theorem pruneByCapacity_keepsTop :
    KeepsTop pruneLe t.rows
      (pruneByCapacity order (.ofPages pages) maxBytes maxEvents t).table.rows := by
  by_cases henter : LimitExceeded pages maxBytes maxEvents t
  · rw [pruneByCapacity_enter order pages maxBytes maxEvents t henter]
    exact pruneLoop_keepsTop order _ _ _ _ _
  · rw [LimitExceeded, not_or] at henter
    rw [pruneByCapacity_skip order pages maxBytes maxEvents t henter.1 henter.2]
    exact KeepsTop.refl _

/-- A batch list of a call: a count-driven batch for all rows above the watermark, if
there are any, and small batches. -/
theorem pruneByCapacity_batches (henter : LimitExceeded pages maxBytes maxEvents t) :
    ∃ small : List Batch, (∀ b ∈ small, b.limit ≤ 100) ∧
      ((pruneByCapacity order (.ofPages pages) maxBytes maxEvents t).batches
        = if 0 < maxEvents ∧ watermark maxEvents < t.count then
            countBatch maxEvents t :: small
          else small) := by
  rw [pruneByCapacity_enter order pages maxBytes maxEvents t henter]
  by_cases hover : 0 < maxEvents ∧ watermark maxEvents < t.count
  · simp only [if_pos hover]
    have htarget := entryLimits_targetCount pages maxBytes maxEvents t hover.1
    obtain ⟨hlost, hseen⟩ := pruneLoop_countBatch order pages maxBytes hover.1 hover.2
    by_cases hdvd : 2 ^ 32 ∣ t.count - watermark maxEvents
    · exact ⟨[], fun b hb => absurd hb List.not_mem_nil, (hlost hdvd).2⟩
    · obtain ⟨t', total', hcount, -, hbatches⟩ := hseen hdvd
      refine ⟨_, ?_, hbatches⟩
      exact pruneLoop_batches_small order pages _ 1 t' total'
        (Or.inr (by rw [htarget, hcount]))
  · simp only [if_neg hover]
    refine ⟨_, pruneLoop_batches_small order pages _ 0 t 0 ?_, rfl⟩
    by_cases hzero : maxEvents = 0
    · exact Or.inl hzero
    · rw [entryLimits_targetCount pages maxBytes maxEvents t (Nat.pos_of_ne_zero hzero)]
      exact Or.inr (by omega)

/-- The number returned is the number removed exactly when the count-driven batch fits. -/
theorem pruneByCapacity_result_iff (hids : RowIds t) :
    (pruneByCapacity order (.ofPages pages) maxBytes maxEvents t).result
        = .ok (t.count
          - (pruneByCapacity order (.ofPages pages) maxBytes maxEvents t).table.count)
      ↔ CountBatchFits pages maxBytes maxEvents t := by
  have hrows := hids.count_lt
  by_cases henter : LimitExceeded pages maxBytes maxEvents t
  · obtain ⟨small, hsmall, hbatches⟩ := pruneByCapacity_batches order henter
    have haccounts := pruneLoop_accounts order pages (entryLimits pages maxBytes maxEvents t)
      0 t 0 (by decide)
    rw [← pruneByCapacity_enter order pages maxBytes maxEvents t henter] at haccounts
    obtain ⟨hremoved, hresult⟩ := haccounts
    rw [hresult, Nat.zero_add, Except.ok.injEq]
    have hreported := reportedFor_small hsmall
    by_cases hover : 0 < maxEvents ∧ watermark maxEvents < t.count
    · rw [hbatches, if_pos hover, removedBy_cons] at hremoved
      rw [hbatches, if_pos hover, reportedFor_cons, hreported]
      have hiff := @changes_exact_iff (countBatch maxEvents t).limit (removedBy small) (by omega)
      have hdiff : t.count
            - (pruneByCapacity order (.ofPages pages) maxBytes maxEvents t).table.count
          = (countBatch maxEvents t).limit + removedBy small := by omega
      rw [hdiff, hiff]
      exact ⟨fun hlt _ _ => hlt, fun hfits => hfits henter hover.1⟩
    · rw [hbatches, if_neg hover] at hremoved
      rw [hbatches, if_neg hover, hreported, Nat.mod_eq_of_lt (by omega)]
      refine ⟨fun _ _ hpos => by omega, fun _ => by omega⟩
  · have henter' := henter
    rw [LimitExceeded, not_or] at henter'
    rw [pruneByCapacity_skip order pages maxBytes maxEvents t henter'.1 henter'.2]
    exact ⟨fun _ hexceeded => absurd hexceeded henter, fun _ => by rw [Nat.sub_self]⟩

end Result

/-- **Capacity pruning keeps the most valuable events**: over all batches of a call and
whatever sizes are read between them, no removed row is above a surviving one; the number
of removed rows is returned if and only if the count-driven batch fits an `int`. -/
theorem keeps_most_valuable_iff (order : OrderBy Row) (pages : ℕ → PageReading)
    (maxBytes maxEvents : ℕ) (t : Table) (hids : RowIds t) :
    KeepsMostValuable order pages maxBytes maxEvents t
      ↔ CountBatchFits pages maxBytes maxEvents t := by
  have htop := @pruneByCapacity_keepsTop order pages maxBytes maxEvents t
  have hresult := @pruneByCapacity_result_iff order pages maxBytes maxEvents t hids
  constructor
  · rintro ⟨-, hcounted, -⟩
    exact hresult.mp hcounted
  · intro hfits
    refine ⟨htop.sublist, hresult.mpr hfits, ?_⟩
    intro removed hremoved hout kept hkept habove
    have hle := htop.top removed hremoved hout kept hkept
    simp only [pruneLe, Bool.or_eq_true, Bool.and_eq_true, decide_eq_true_eq] at hle
    omega

/-- The keys that insertions into an empty table give. -/
theorem rowIds_replicate {n : ℕ} (h : n < 2 ^ 63) (data : RowData) :
    RowIds (.replicate n data) := by
  intro r hr
  obtain ⟨i, hi, rfl⟩ := List.mem_map.mp hr
  have hlt := List.mem_range.mp hi
  refine ⟨?_, ?_⟩
  · show 0 < (i : ℤ) + 1
    omega
  · show (i : ℤ) + 1 < 2 ^ 63
    omega

/-- Three rows against a limit of two. -/
theorem keeps_most_valuable_three :
    RowIds (.replicate 3 infoRow) ∧
      KeepsMostValuable .stable (fun _ => ⟨24, 4096⟩) 100000 2 (.replicate 3 infoRow) := by
  have hids : RowIds (.replicate 3 infoRow) := rowIds_replicate (by decide) infoRow
  refine ⟨hids, (keeps_most_valuable_iff _ _ _ _ _ hids).mpr ?_⟩
  intro _ _
  rw [Table.count_replicate]
  decide

/-- With the default limit of 100000 rows and `2 ^ 31 + 90000` rows in the table, the
`2 ^ 31` rows of the count-driven batch are reported as a negative `int`. -/
theorem large_batch_miscounted :
    ¬ KeepsMostValuable .stable (fun _ => ⟨67108864, 4096⟩) 0 100000
      (.replicate (2 ^ 31 + 90000) infoRow) := by
  rintro ⟨-, hcounted, -⟩
  have hids : RowIds (.replicate (2 ^ 31 + 90000) infoRow) := rowIds_replicate (by decide) infoRow
  have hfits := (pruneByCapacity_result_iff .stable hids).mp hcounted
  have hcount := Table.count_replicate (2 ^ 31 + 90000) infoRow
  have hbatch := hfits (Or.inl ⟨by decide, by rw [hcount]; decide⟩) (by decide)
  rw [hcount] at hbatch
  exact absurd hbatch (by decide)

/-! ## The watermarks -/

theorem watermark_exact_iff_fits {limit : ℕ} :
    watermark limit = 9 * limit / 10 ↔ 9 * limit < 2 ^ 64 := by
  constructor
  · intro heq
    by_contra hover
    have hlt := watermark_lt_of_overflow (Nat.le_of_not_lt hover)
    omega
  · exact watermark_eq

/-- The rows left when the batch with number `j` is run. -/
def countBefore (t : Table) (batches : List Batch) (j : ℕ) : ℕ :=
  t.count - removedBy (batches.take j)

/-- A batch is chosen for a count or a size above its target. -/
theorem above_target_of_chooseBatch {lim : CapacityLimits} {count bytes : ℕ} {batch : Batch}
    (h : chooseBatch lim count bytes = some batch) :
    (0 < lim.maxEvents ∧ lim.targetCount < count) ∨
      (0 < lim.maxBytes ∧ lim.targetBytes < bytes) := by
  unfold chooseBatch at h
  split at h
  · rename_i hcount
    exact Or.inl hcount
  · split at h
    · rename_i hbytes
      exact Or.inr hbytes
    · cases h

/-- Every batch of the loop is run with the count or the size above its target. -/
theorem pruneLoop_above_target (order : OrderBy Row) (pages : ℕ → PageReading)
    (lim : CapacityLimits) (k : ℕ) (t : Table) (total : ℕ) :
    let run := pruneLoop order (.ofPages pages) lim k t total
    ∀ j < run.batches.length,
      (0 < lim.maxEvents ∧ lim.targetCount < countBefore t run.batches j) ∨
      (0 < lim.maxBytes ∧ lim.targetBytes < (pages (k + j)).sizeBytes) := by
  fun_induction pruneLoop order (.ofPages pages) lim k t total with
  | case1 | case2 | case3 => exact fun j hj => absurd hj (Nat.not_lt_zero j)
  | case4 k t total count hne batch hbatch hstep t' changes hlost =>
    intro run j hj
    have hzero : j = 0 := Nat.lt_one_iff.mp hj
    subst hzero
    exact above_target_of_chooseBatch hbatch
  | case5 k t total count hne batch hbatch hstep t' changes hseen rest ih =>
    have hfewer : t'.count = t.count - batch.limit := t.deleteLowest_count order batch.limit
    intro run j hj
    cases j with
    | zero => exact above_target_of_chooseBatch hbatch
    | succ j =>
      -- the batch with number `j + 1` is the one with number `j` of the rest
      have hrest := ih j (Nat.lt_of_succ_lt_succ hj)
      have hleft : countBefore t (batch :: rest.batches) (j + 1)
          = countBefore t' rest.batches j := by
        unfold countBefore
        rw [List.take_succ_cons, removedBy_cons, hfewer, Nat.sub_sub]
      show (0 < lim.maxEvents ∧ lim.targetCount < countBefore t (batch :: rest.batches) (j + 1)) ∨ _
      rw [hleft, show k + (j + 1) = k + 1 + j from by omega]
      exact hrest

/-- The watermarks of two limits are exact; hence no batch of any call is run while the
count and the size are both at or below 90% of their limits. -/
def WatermarksExact (maxBytes maxEvents : ℕ) : Prop :=
  watermark maxBytes = 9 * maxBytes / 10 ∧
  watermark maxEvents = 9 * maxEvents / 10 ∧
  ∀ (order : OrderBy Row) (pages : ℕ → PageReading) (t : Table),
    let run := pruneByCapacity order (.ofPages pages) maxBytes maxEvents t
    ∀ j < run.batches.length,
      9 * maxEvents / 10 < countBefore t run.batches j ∨
        9 * maxBytes / 10 < (pages j).sizeBytes

/-- Exact watermarks are all that the second part needs. -/
theorem watermarksExact_iff {maxBytes maxEvents : ℕ} :
    WatermarksExact maxBytes maxEvents ↔ 9 * maxBytes < 2 ^ 64 ∧ 9 * maxEvents < 2 ^ 64 := by
  constructor
  · rintro ⟨hbytes, hevents, -⟩
    exact ⟨watermark_exact_iff_fits.mp hbytes, watermark_exact_iff_fits.mp hevents⟩
  · rintro ⟨hbytes, hevents⟩
    refine ⟨watermark_eq hbytes, watermark_eq hevents, ?_⟩
    intro order pages t
    by_cases henter : LimitExceeded pages maxBytes maxEvents t
    · rw [pruneByCapacity_enter order pages maxBytes maxEvents t henter]
      intro run j hj
      have habove := pruneLoop_above_target order pages (entryLimits pages maxBytes maxEvents t)
        0 t 0 j hj
      refine habove.imp ?_ ?_
      · rintro ⟨hpos, hlt⟩
        rwa [entryLimits_targetCount pages maxBytes maxEvents t hpos, watermark_eq hevents] at hlt
      · rintro ⟨hpos, hlt⟩
        rwa [entryLimits_targetBytes pages maxBytes maxEvents t hpos, watermark_eq hbytes,
          Nat.zero_add] at hlt
    · rw [LimitExceeded, not_or] at henter
      rw [pruneByCapacity_skip order pages maxBytes maxEvents t henter.1 henter.2]
      exact fun j hj => absurd hj (Nat.not_lt_zero j)

/-- No limit of the document overflows when it is multiplied by 9. -/
def LimitsFit (tbl : TomlTable) : Prop :=
  ∀ key ∈ ([ "max_bytes", "max_events" ] : List Bytes), ∀ n : Int64,
    Config.databaseInt tbl key = some n → n.toInt ≤ 2049638230412172401

/-- A configured limit, or its default, fits exactly when the document's value does. -/
theorem limit_fits_iff {value : Option Int64} {default : ℕ} (hdefault : 9 * default < 2 ^ 64)
    (hpos : ∀ n : Int64, value = some n → 0 < n.toInt) :
    9 * (value.map fun n => toSize n.toInt).getD default < 2 ^ 64
      ↔ ∀ n : Int64, value = some n → n.toInt ≤ 2049638230412172401 := by
  cases value with
  | none => exact ⟨fun _ n hn => (nomatch hn), fun _ => hdefault⟩
  | some m =>
    have hm := hpos m rfl
    have hsize : toSize m.toInt = m.toInt.toNat :=
      toSize_of_fits (by omega) (lt_trans (Int64.toInt_lt m) (by norm_num))
    show 9 * toSize m.toInt < 2 ^ 64 ↔ _
    rw [hsize]
    constructor
    · rintro hfits n ⟨⟩
      omega
    · intro hle
      have hm' := hle m rfl
      omega

/-- **The 90% watermark**: with every configuration that is accepted, both watermarks are
exact and no batch is run without need if and only if no limit of the document is above
2049638230412172401, the last one whose ninefold fits 64 bits. -/
theorem watermark_exact_iff {lib : CppLib} {tbl : TomlTable} {result : Config × List Bytes}
    (h : Config.fromTable lib tbl = .ok result) :
    WatermarksExact (result.1.database.maxBytes.getD 52428800)
        (result.1.database.maxEvents.getD 100000)
      ↔ LimitsFit tbl := by
  obtain ⟨hbytes, hevents, hpos⟩ := Config.fromTable_limits h
  rw [watermarksExact_iff, hbytes, hevents, Option.getD_some, Option.getD_some,
    limit_fits_iff (by decide) (hpos _ (by decide)),
    limit_fits_iff (by decide) (hpos _ (by decide))]
  constructor
  · rintro ⟨hb, he⟩ key hkey
    rcases List.mem_pair.mp hkey with rfl | rfl
    · exact hb
    · exact he
  · intro hfit
    exact ⟨hfit _ (by decide), hfit _ (by decide)⟩

/-- A document with the required keys and the two limits. -/
def limitsDocument (maxBytes maxEvents : Int64) : TomlTable :=
  [ ("general", .table [("interval_seconds", .int 300), ("scan_root", .str "/home")]),
    ("database", .table [("max_bytes", .int maxBytes), ("max_events", .int maxEvents)]) ]

/-- The configuration such a document gives. -/
def limitsConfig (maxBytes maxEvents : ℕ) : Config :=
  { interval := 300, scanRoot := "/home",
    database := { maxBytes := some maxBytes, maxEvents := some maxEvents } }

/-- Limits of one gigabyte and a million events. -/
theorem watermark_exact_gigabyte :
    Config.fromTable CppLib.integral (limitsDocument 1000000000 1000000)
        = .ok (limitsConfig 1000000000 1000000, []) ∧
      WatermarksExact 1000000000 1000000 := by
  have haccepted : Config.fromTable CppLib.integral (limitsDocument 1000000000 1000000)
      = .ok (limitsConfig 1000000000 1000000, []) := rfl
  refine ⟨haccepted, (watermark_exact_iff haccepted).mpr ?_⟩
  intro key hkey n hn
  rcases List.mem_pair.mp hkey with rfl | rfl
  · have hvalue : n = 1000000000 := (Option.some.inj hn).symm
    subst hvalue
    decide
  · have hvalue : n = 1000000 := (Option.some.inj hn).symm
    subst hvalue
    decide

/-- A document whose `max_bytes` is two exabytes, meant as no limit, is accepted, but its
watermark is 0. With three rows against a limit of two, in a file of 98304 bytes, the prune
then empties the table. -/
theorem unlimited_bytes_watermark :
    Config.fromTable CppLib.integral (limitsDocument 2049638230412172402 2)
        = .ok (limitsConfig 2049638230412172402 2, []) ∧
      ¬ WatermarksExact 2049638230412172402 2 ∧
      (pruneByCapacity .stable (.ofPages fun _ => ⟨24, 4096⟩) 2049638230412172402 2
        (.replicate 3 infoRow)).table.count = 0 := by
  refine ⟨rfl, fun hexact => ?_, ?_⟩
  · have hbytes := hexact.1
    revert hbytes
    decide
  · have hcount : (Table.replicate 3 infoRow).count = 3 := Table.count_replicate 3 infoRow
    have honly : OnlyCountExceeded (fun _ => ⟨24, 4096⟩) 2049638230412172402 2
        (.replicate 3 infoRow) := ⟨by decide, by rw [hcount]; decide, by decide⟩
    obtain ⟨hle, hiff⟩ := onlyCount_final .stable honly
    have hwatermark : watermark 2 = 1 := rfl
    rw [hcount] at hiff
    rw [hwatermark] at hle hiff
    -- one row is left only if the size is at the watermark 0
    have hkept : (pruneByCapacity .stable (.ofPages fun _ => ⟨24, 4096⟩) 2049638230412172402 2
        (.replicate 3 infoRow)).table.count ≠ 1 := by
      intro hone
      have hfinal := hiff.mp hone
      revert hfinal
      decide
    omega

end EventStore

end Holonight
