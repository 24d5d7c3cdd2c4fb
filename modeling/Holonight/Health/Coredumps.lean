import Holonight.Base.Windows
import Holonight.Health.SystemdCollector

/-!
# Coredumps over a run of scans

Each scan looks back over the journal for `flapping_window_seconds`, whatever time has
passed since the scan before. A journal entry is reported by every scan whose lookback
contains its time, so it is reported exactly once by a run only if the lookbacks tile
the time line: each begins in the microsecond after the last one the scan before has
read (`coredumps_reported_once_iff`). With a fixed window and a variable distance between
scans they overlap or leave gaps.

A scan that runs when less than the window has passed since the epoch sees nothing: its
cutoff is negative and becomes a time far in the future when it is cast to `uint64_t`.
-/

namespace Holonight

namespace SystemdCollector

/-! ## Scans and journals -/

/-- One coredump scan: the time it was started, and the youngest time in the journal when
it was read. -/
structure CoredumpScan where
  now : TimePoint
  readUs : ℕ

/-- The time of the scan at the resolution of the journal. -/
def CoredumpScan.timeUs (scan : CoredumpScan) : ℤ := toMicros scan.now

/-- The scans of a daemon run: at non-negative times of the 64-bit clock, strictly one
after the other, each reading the journal before the next one starts. -/
structure ScanRun where
  scans : List CoredumpScan
  nonempty : scans ≠ []
  clock : ∀ scan ∈ scans, 0 ≤ scan.now
  read : ∀ scan ∈ scans, scan.timeUs ≤ scan.readUs ∧ scan.readUs < 2 ^ 63
  ordered : scans.Pairwise fun a b => a.now < b.now ∧ (a.readUs : ℤ) ≤ b.timeUs

/-- The time of the first scan. -/
def ScanRun.firstUs (run : ScanRun) : ℤ := (run.scans.head run.nonempty).timeUs

/-- The time of the last scan. -/
def ScanRun.lastUs (run : ScanRun) : ℤ := (run.scans.getLast run.nonempty).timeUs

/-- The coredump entries that are in the journal at the end of the run. -/
structure Journal where
  entries : List JournalEntry
  nodup : (entries.map JournalEntry.cursor).Nodup

/-- The entries that are there when a scan reads the journal. -/
def Journal.visibleTo (journal : Journal) (scan : CoredumpScan) : List JournalEntry :=
  journal.entries.filter fun entry => decide (entry.realtimeUs ≤ scan.readUs)

/-- The entries a scan reports; none when it throws. -/
def reportedBy (lib : CppLib) (options : SystemdCollectorOptions) (journal : Journal)
    (scan : CoredumpScan) : List ℕ :=
  match scanCoredumps lib options scan.now (journal.visibleTo scan) with
  | .ok tagged => tagged.map Prod.fst
  | .error _ => []

/-- The entries the scans of a run report, one after the other. -/
def reportedOver (lib : CppLib) (options : SystemdCollectorOptions) (journal : Journal)
    (scans : List CoredumpScan) : List ℕ :=
  scans.flatMap (reportedBy lib options journal)

/-- Every entry between the first and the last scan whose subject is not ignored is
reported exactly once. -/
def ReportedOnce (lib : CppLib) (options : SystemdCollectorOptions) (run : ScanRun)
    (journal : Journal) : Prop :=
  ∀ entry ∈ journal.entries, run.firstUs ≤ entry.realtimeUs → entry.realtimeUs ≤ run.lastUs →
    isUnitIgnored options entry.subject = false →
    (reportedOver lib options journal run.scans).count entry.cursor = 1

/-- The fields of the entry are UTF-8, so that serialising them does not throw. -/
def JournalEntry.Readable (entry : JournalEntry) : Prop :=
  validUtf8 entry.exeName = true ∧ validUtf8 entry.unitName = true

/-- Every entry that is not ignored is readable. -/
def Readable (options : SystemdCollectorOptions) (entries : List JournalEntry) : Prop :=
  ∀ entry ∈ entries, isUnitIgnored options entry.subject = false → entry.Readable

/-! ## Lookbacks -/

/-- The times a scan looks at, before the cast to `uint64_t`. -/
def lookback (options : SystemdCollectorOptions) (scan : CoredumpScan) : Window where
  first := toMicros (scan.now - window options)
  last := scan.readUs

/-- The cutoff of the scan survives the cast. -/
def sighted (options : SystemdCollectorOptions) (scan : CoredumpScan) : Bool :=
  decide (0 ≤ (lookback options scan).first)

/-- The lookbacks of the sighted scans reach back to the first scan and abut. -/
def Tiled (options : SystemdCollectorOptions) (run : ScanRun) : Prop :=
  ∃ scan rest, run.scans.filter (sighted options) = scan :: rest ∧
    (lookback options scan).first ≤ run.firstUs ∧
    ((scan :: rest).map (lookback options)).IsChain Window.Abuts

/-! ## What one scan reports -/

section OneScan

variable {lib : CppLib} {options : SystemdCollectorOptions} {now : TimePoint}

theorem coredumpEvent_isOk (entry : JournalEntry) :
    (coredumpEvent lib now entry).isOk
      = (validUtf8 entry.exeName && validUtf8 entry.unitName) := by
  unfold coredumpEvent
  rw [isOk_bind_pure, Json.dump_isOk_iff]
  have hfields : Json.utf8 (Json.object
      [("executable", .str entry.exeName), ("unit", .str entry.unitName)])
      = (true && validUtf8 entry.exeName && (true && validUtf8 entry.unitName && true)) := rfl
  rw [hfields]
  simp

/-- On readable entries the loop reports exactly those that are not ignored. -/
theorem coredumpsOf_readable {entries : List JournalEntry} (h : Readable options entries) :
    ∃ tagged, coredumpsOf lib options now entries = .ok tagged ∧
      tagged.map Prod.fst
        = (entries.filter fun entry => !isUnitIgnored options entry.subject).map
            JournalEntry.cursor := by
  induction entries with
  | nil => exact ⟨[], rfl, rfl⟩
  | cons entry rest ih =>
    obtain ⟨later, hlater, hcursors⟩ := ih fun e he => h e (List.mem_cons_of_mem _ he)
    unfold coredumpsOf
    cases hignored : isUnitIgnored options entry.subject with
    | true =>
      refine ⟨later, by rw [if_pos rfl, hlater], ?_⟩
      rw [hcursors, List.filter_cons_of_neg (by simp [hignored])]
    | false =>
      obtain ⟨hexe, hunit⟩ := h entry List.mem_cons_self hignored
      have hisOk := @coredumpEvent_isOk lib now entry
      rw [hexe, hunit] at hisOk
      cases hevent : coredumpEvent lib now entry with
      | error exn =>
        rw [hevent] at hisOk
        cases hisOk
      | ok event =>
        refine ⟨(entry.cursor, event) :: later, ?_, ?_⟩
        · rw [if_neg (by decide), hlater]
          rfl
        · rw [List.filter_cons_of_pos (by simp [hignored]), List.map_cons, List.map_cons, hcursors]

/-- An entry whose event is built is readable. -/
theorem readable_of_coredumpEvent {entry : JournalEntry} {event : ObservationEvent}
    (h : coredumpEvent lib now entry = .ok event) : entry.Readable := by
  have hisOk := @coredumpEvent_isOk lib now entry
  rw [h] at hisOk
  exact (Bool.and_eq_true _ _).mp hisOk.symm

/-- An entry that a run reports is readable. -/
theorem readable_of_mem_reportedOver {journal : Journal} {entry : JournalEntry}
    (hentry : entry ∈ journal.entries) {scans : List CoredumpScan}
    (h : entry.cursor ∈ reportedOver lib options journal scans) : entry.Readable := by
  obtain ⟨scan, -, hscan⟩ := List.mem_flatMap.mp h
  unfold reportedBy at hscan
  split at hscan
  · rename_i tagged htagged
    obtain ⟨p, hp, hcursor⟩ := List.mem_map.mp hscan
    obtain ⟨other, hother, hsame, hevent⟩ := mem_coredumpsOf htagged hp
    have hmem := List.mem_of_mem_filter (List.mem_of_mem_filter hother)
    obtain rfl := List.inj_on_of_nodup_map journal.nodup hmem hentry (hsame.trans hcursor)
    exact readable_of_coredumpEvent hevent
  · exact absurd hscan List.not_mem_nil

/-- The entries a scan reports of a readable journal. -/
theorem reportedBy_readable {journal : Journal} (h : Readable options journal.entries)
    (scan : CoredumpScan) :
    reportedBy lib options journal scan
      = ((((journal.visibleTo scan).filter fun entry =>
            decide (cutoffUs options scan.now ≤ entry.realtimeUs)).filter fun entry =>
          !isUnitIgnored options entry.subject).map JournalEntry.cursor) := by
  have hvisited : Readable options ((journal.visibleTo scan).filter fun entry =>
      decide (cutoffUs options scan.now ≤ entry.realtimeUs)) := by
    intro entry hentry
    exact h entry (List.mem_of_mem_filter (List.mem_of_mem_filter hentry))
  obtain ⟨tagged, hok, hcursors⟩ := @coredumpsOf_readable lib options scan.now _ hvisited
  unfold reportedBy scanCoredumps
  rw [hok]
  exact hcursors

/-- A scan visits an entry of the journal. -/
def visits (options : SystemdCollectorOptions) (realtimeUs : ℕ) (scan : CoredumpScan) : Bool :=
  decide (cutoffUs options scan.now ≤ realtimeUs) && decide (realtimeUs ≤ scan.readUs)

/-- A readable entry that is not ignored is reported once by each scan that visits it. -/
theorem count_reportedBy {journal : Journal} (h : Readable options journal.entries)
    {entry : JournalEntry} (hentry : entry ∈ journal.entries)
    (hignored : isUnitIgnored options entry.subject = false) (scan : CoredumpScan) :
    (reportedBy lib options journal scan).count entry.cursor
      = if visits options entry.realtimeUs scan then 1 else 0 := by
  rw [reportedBy_readable h]
  -- cursors are not repeated, so the count is membership
  have hsub : ((((journal.visibleTo scan).filter fun entry =>
      decide (cutoffUs options scan.now ≤ entry.realtimeUs)).filter fun entry =>
      !isUnitIgnored options entry.subject).map JournalEntry.cursor).Sublist
      (journal.entries.map JournalEntry.cursor) :=
    ((List.filter_sublist.trans List.filter_sublist).trans List.filter_sublist).map _
  rw [(hsub.nodup journal.nodup).count]
  refine if_congr ?_ rfl rfl
  rw [List.mem_map]
  unfold visits
  rw [Bool.and_eq_true, decide_eq_true_iff, decide_eq_true_iff]
  constructor
  · rintro ⟨other, hother, hcursor⟩
    rw [List.mem_filter, List.mem_filter] at hother
    obtain ⟨⟨hvisible, hcutoff⟩, -⟩ := hother
    obtain ⟨hmem, hread⟩ := List.mem_filter.mp hvisible
    obtain rfl := List.inj_on_of_nodup_map journal.nodup hmem hentry hcursor
    exact ⟨of_decide_eq_true hcutoff, of_decide_eq_true hread⟩
  · rintro ⟨hcutoff, hread⟩
    refine ⟨entry, ?_, rfl⟩
    rw [List.mem_filter, List.mem_filter]
    refine ⟨⟨List.mem_filter.mpr ⟨hentry, decide_eq_true hread⟩, decide_eq_true hcutoff⟩, ?_⟩
    rw [hignored]
    rfl

/-- Over a run it is reported as often as scans visit it. -/
theorem count_reportedOver {journal : Journal} (h : Readable options journal.entries)
    {entry : JournalEntry} (hentry : entry ∈ journal.entries)
    (hignored : isUnitIgnored options entry.subject = false) (scans : List CoredumpScan) :
    (reportedOver lib options journal scans).count entry.cursor
      = scans.countP (visits options entry.realtimeUs) := by
  induction scans with
  | nil => rfl
  | cons scan rest ih =>
    show (reportedBy lib options journal scan ++ reportedOver lib options journal rest).count _ = _
    rw [List.count_append, ih, count_reportedBy h hentry hignored, List.countP_cons, Nat.add_comm]

end OneScan

/-! ## From visits to lookbacks -/

section Lookbacks

variable {options : SystemdCollectorOptions}

/-- The window is an `int` of seconds, so the cutoff is far above the least `int64_t`. -/
theorem lookback_first_ge {scan : CoredumpScan} (hnow : 0 ≤ scan.now) :
    -2 ^ 63 < (lookback options scan).first := by
  have hwindow : window options ≤ 2147483648000000000 := by
    have hint := options.window_isInt.2
    unfold window nanosPerSecond
    omega
  have hstart : (0 : ℤ) ≤ scan.now := hnow
  have hbound : toMicros (-2147483648000000000) ≤ (lookback options scan).first :=
    toMicros_mono (show (-2147483648000000000 : ℤ) ≤ scan.now - window options by omega)
  have hvalue : toMicros (-2147483648000000000) = -2147483648000000 := by decide
  omega

/-- The lookback begins at most at the time of the scan. -/
theorem lookback_first_le {scan : CoredumpScan} (hwindow : 0 ≤ window options) :
    (lookback options scan).first ≤ scan.timeUs :=
  toMicros_mono (sub_le_self _ hwindow)

/-- A scan visits an entry exactly when it is sighted and its lookback sees it: the cast
of a negative cutoff lies after every time in the journal. -/
theorem visits_iff {scan : CoredumpScan} (hwindow : 0 ≤ window options) (hnow : 0 ≤ scan.now)
    (hread : scan.timeUs ≤ scan.readUs ∧ scan.readUs < 2 ^ 63) (realtimeUs : ℕ) :
    visits options realtimeUs scan = true
      ↔ (lookback options scan).sees realtimeUs = true ∧ sighted options scan = true := by
  have hge := @lookback_first_ge options scan hnow
  have hle := (@lookback_first_le options scan hwindow).trans hread.1
  have hlast : (lookback options scan).last = scan.readUs := rfl
  have hcutoff : cutoffUs options scan.now = toSize (lookback options scan).first := rfl
  unfold visits sighted
  rw [Window.sees_iff, Bool.and_eq_true, decide_eq_true_iff, decide_eq_true_iff,
    decide_eq_true_iff, hcutoff, hlast]
  by_cases hsighted : 0 ≤ (lookback options scan).first
  · rw [toSize_of_fits hsighted (by omega)]
    omega
  · have hcast : toSize (lookback options scan).first
        = ((lookback options scan).first + 2 ^ 64).toNat := by
      unfold toSize
      rw [← Int.add_emod_right, Int.emod_eq_of_lt (by omega) (by omega)]
    rw [hcast]
    omega

end Lookbacks

/-! ## Whole runs -/

section Runs

variable {lib : CppLib} {options : SystemdCollectorOptions} {run : ScanRun}

/-- The number of visits over a run, as windows. -/
theorem countP_visits (hwindow : 0 ≤ window options) (run : ScanRun) (realtimeUs : ℕ) :
    run.scans.countP (visits options realtimeUs)
      = ((run.scans.filter (sighted options)).map (lookback options)).countP
          (Window.sees realtimeUs) := by
  rw [List.countP_map, List.countP_filter]
  refine List.countP_congr fun scan hscan => ?_
  rw [visits_iff hwindow (run.clock scan hscan) (run.read scan hscan), Bool.and_eq_true]
  rfl

/-- Later scans have later times. -/
theorem ScanRun.timeUs_le {run : ScanRun} {scan : CoredumpScan} (hscan : scan ∈ run.scans) :
    run.firstUs ≤ scan.timeUs ∧ scan.timeUs ≤ run.lastUs := by
  have hmono : run.scans.Pairwise fun a b => a.timeUs ≤ b.timeUs :=
    run.ordered.imp fun h => toMicros_mono (le_of_lt h.1)
  constructor
  · exact hmono.rel_head hscan
  · exact hmono.rel_getLast hscan

/-- The lookbacks of the scans of a run move forward. -/
theorem advances_lookbacks (hwindow : 0 ≤ window options) (run : ScanRun) :
    ((run.scans.filter (sighted options)).map (lookback options)).Pairwise
      (Window.Advances run.lastUs) := by
  rw [List.pairwise_map]
  refine (List.Pairwise.filter _ run.ordered).imp_of_mem ?_
  intro a b ha hb hab
  have hb' := List.mem_of_mem_filter hb
  have hlast := (ScanRun.timeUs_le hb').2
  have hread := (run.read b hb').1
  refine ⟨toMicros_mono (sub_le_sub_right (le_of_lt hab.1) _), ?_, ?_, ?_⟩
  · exact hab.2.trans hread
  · exact hab.2.trans hlast
  · exact (lookback_first_le hwindow).trans hlast

/-- No lookback of a run is empty. -/
theorem lookback_le (hwindow : 0 ≤ window options) {scan : CoredumpScan}
    (hscan : scan ∈ run.scans) : (lookback options scan).first ≤ (lookback options scan).last :=
  (lookback_first_le hwindow).trans (run.read scan hscan).1

/-- The last scan is sighted when any is: its lookback begins latest. -/
theorem last_sighted {scan : CoredumpScan} (hscan : scan ∈ run.scans)
    (hsighted : sighted options scan = true) :
    run.scans.getLast run.nonempty ∈ run.scans.filter (sighted options) := by
  have hmono : run.scans.Pairwise fun a b =>
      (lookback options a).first ≤ (lookback options b).first :=
    run.ordered.imp fun h => toMicros_mono (sub_le_sub_right (le_of_lt h.1) _)
  have hfirst : 0 ≤ (lookback options scan).first := of_decide_eq_true hsighted
  exact List.mem_filter.mpr
    ⟨List.getLast_mem run.nonempty, decide_eq_true (hfirst.trans (hmono.rel_getLast hscan))⟩

/-- Every time between the first and the last scan is visited once if and only if the run
is tiled. -/
theorem visited_once_iff (hwindow : 0 ≤ window options) (run : ScanRun) :
    (∀ x : ℤ, run.firstUs ≤ x → x ≤ run.lastUs →
        ((run.scans.filter (sighted options)).map (lookback options)).countP (Window.sees x) = 1)
      ↔ Tiled options run := by
  have hrange : run.firstUs ≤ run.lastUs := (ScanRun.timeUs_le (List.head_mem run.nonempty)).2
  have hadv := @advances_lookbacks options hwindow run
  cases hsighted : run.scans.filter (sighted options) with
  | nil =>
    refine iff_of_false (fun h => ?_) ?_
    · have hzero := h _ (le_refl _) hrange
      rw [List.map_nil, List.countP_nil] at hzero
      omega
    · rintro ⟨scan, rest, heq, -⟩
      rw [hsighted] at heq
      cases heq
  | cons scan rest =>
    have hmem : ∀ s ∈ scan :: rest, s ∈ run.scans ∧ sighted options s = true := by
      intro s hs
      rw [← hsighted] at hs
      exact List.mem_filter.mp hs
    obtain ⟨hscan, hscan'⟩ := hmem scan List.mem_cons_self
    have hle : ∀ w ∈ (scan :: rest).map (lookback options), w.first ≤ w.last := by
      intro w hw
      obtain ⟨s, hs, rfl⟩ := List.mem_map.mp hw
      exact lookback_le hwindow (hmem s hs).1
    have hstart : run.firstUs ≤ (lookback options scan).last :=
      (ScanRun.timeUs_le hscan).1.trans (run.read scan hscan).1
    have hend : ∃ w ∈ (scan :: rest).map (lookback options), run.lastUs ≤ w.last := by
      have hlast := last_sighted hscan hscan'
      rw [hsighted] at hlast
      exact ⟨_, List.mem_map_of_mem hlast, (run.read _ (List.getLast_mem run.nonempty)).1⟩
    rw [hsighted] at hadv
    rw [List.map_cons] at hadv hle hend ⊢
    rw [Window.countP_sees_eq_one_iff hadv hle hstart hrange hend]
    constructor
    · rintro ⟨hfirst, hchain⟩
      exact ⟨scan, rest, hsighted, hfirst, hchain⟩
    · rintro ⟨scan', rest', heq, hfirst, hchain⟩
      rw [hsighted] at heq
      cases heq
      exact ⟨hfirst, hchain⟩

/-! ### A journal with one entry -/

/-- A unit name longer than every ignored one. -/
def freshUnit (options : SystemdCollectorOptions) : Bytes :=
  List.replicate ((options.ignoreUnits.map List.length).sum + 8) 97

theorem freshUnit_not_ignored (options : SystemdCollectorOptions) :
    isUnitIgnored options (freshUnit options) = false := by
  unfold isUnitIgnored
  rw [List.any_eq_false]
  intro ignored hmem heq
  have hlength : ignored.length ≤ (options.ignoreUnits.map List.length).sum :=
    List.le_sum_of_mem (List.mem_map_of_mem hmem)
  have hsame : (freshUnit options).length = ignored.length := by
    rw [of_decide_eq_true heq]
  unfold freshUnit at hsame
  rw [List.length_replicate] at hsame
  omega

/-- A coredump of the fresh unit. -/
def probeEntry (options : SystemdCollectorOptions) (realtimeUs : ℕ) : JournalEntry where
  cursor := 0
  realtimeUs := realtimeUs
  coredumpUnit := some (Bytes.ofString "COREDUMP_UNIT=" ++ freshUnit options)

theorem probeEntry_unitName (options : SystemdCollectorOptions) (realtimeUs : ℕ) :
    (probeEntry options realtimeUs).unitName = freshUnit options := rfl

theorem probeEntry_subject (options : SystemdCollectorOptions) (realtimeUs : ℕ) :
    (probeEntry options realtimeUs).subject = freshUnit options := by
  unfold JournalEntry.subject
  rw [probeEntry_unitName, if_pos]
  have hlength : 8 ≤ (freshUnit options).length := by
    unfold freshUnit
    rw [List.length_replicate]
    omega
  constructor
  · intro h
    rw [h] at hlength
    exact absurd hlength (by decide)
  · intro h
    rw [h] at hlength
    exact absurd hlength (by decide)

/-- A journal with that coredump only. -/
def probe (options : SystemdCollectorOptions) (realtimeUs : ℕ) : Journal where
  entries := [probeEntry options realtimeUs]
  nodup := List.nodup_singleton _

theorem readable_probe (options : SystemdCollectorOptions) (realtimeUs : ℕ) :
    Readable options (probe options realtimeUs).entries := by
  intro entry hentry _
  rw [List.mem_singleton.mp hentry]
  have hexe : (probeEntry options realtimeUs).exeName = Bytes.ofString "unknown" := rfl
  refine ⟨by rw [hexe]; decide, ?_⟩
  rw [probeEntry_unitName]
  refine validUtf8_of_ascii fun b hb => ?_
  rw [List.eq_of_mem_replicate hb]
  decide

/-! ### The run reports every entry once -/

/-- The entries a run reports once are readable. -/
theorem readable_of_reportedOnce {journal : Journal}
    (honce : ReportedOnce lib options run journal) :
    Readable options (journal.entries.filter fun entry =>
      decide (run.firstUs ≤ entry.realtimeUs) && decide (entry.realtimeUs ≤ run.lastUs)) := by
  intro entry hentry hignored
  obtain ⟨hmem, hrange⟩ := List.mem_filter.mp hentry
  rw [Bool.and_eq_true, decide_eq_true_iff, decide_eq_true_iff] at hrange
  have hcount := honce entry hmem hrange.1 hrange.2 hignored
  have hreported : entry.cursor ∈ reportedOver lib options journal run.scans := by
    rw [← List.count_pos_iff, hcount]
    exact Nat.one_pos
  exact readable_of_mem_reportedOver hmem hreported

/-- **Every coredump once**: whatever readable journal there is, a run of scans reports
each entry between its first and its last scan exactly once if and only if its lookbacks
tile the time line; and no run does so for an entry that is not readable. -/
theorem coredumps_reported_once_iff (lib : CppLib) (options : SystemdCollectorOptions)
    (run : ScanRun) :
    ((∀ journal : Journal, Readable (construct options) journal.entries →
        ReportedOnce lib (construct options) run journal)
      ↔ Tiled (construct options) run) ∧
    ∀ journal : Journal, ReportedOnce lib (construct options) run journal →
      Readable (construct options) (journal.entries.filter fun entry =>
        decide (run.firstUs ≤ entry.realtimeUs) && decide (entry.realtimeUs ≤ run.lastUs)) := by
  have hwindow := window_construct_nonneg options
  refine ⟨?_, fun journal honce => readable_of_reportedOnce honce⟩
  rw [← visited_once_iff hwindow]
  constructor
  · intro h x hfirst hlast
    -- ask for a single entry at the time `x`
    have hnonneg : 0 ≤ x := by
      have hclock : 0 ≤ run.firstUs := toMicros_nonneg (run.clock _ (List.head_mem run.nonempty))
      exact hclock.trans hfirst
    obtain ⟨realtimeUs, rfl⟩ := Int.eq_ofNat_of_zero_le hnonneg
    have hprobe : probeEntry (construct options) realtimeUs
        ∈ (probe (construct options) realtimeUs).entries := List.mem_cons_self
    have hignored : isUnitIgnored (construct options)
        (probeEntry (construct options) realtimeUs).subject = false := by
      rw [probeEntry_subject]
      exact freshUnit_not_ignored _
    have honce := h _ (readable_probe _ realtimeUs) _ hprobe hfirst hlast hignored
    rw [count_reportedOver (readable_probe _ _) hprobe hignored, countP_visits hwindow] at honce
    exact honce
  · intro h journal hreadable entry hentry hfirst hlast hignored
    rw [count_reportedOver hreadable hentry hignored, countP_visits hwindow]
    exact h entry.realtimeUs hfirst hlast

/-- Two scans a minute apart, each reading the journal at once. -/
def minuteApart : ScanRun where
  scans := [⟨1000 * nanosPerSecond, 1000000000⟩, ⟨1060 * nanosPerSecond, 1060000000⟩]
  nonempty := List.cons_ne_nil _ _
  clock := by decide
  read := by decide
  ordered := by
    refine List.pairwise_pair.mpr ?_
    decide

/-- With the default window of 300 seconds, a coredump at the first scan is reported by
both. -/
theorem coredump_reported_twice :
    ¬ ∀ journal : Journal, Readable (construct {}) journal.entries →
        ReportedOnce CppLib.integral (construct {}) minuteApart journal := by
  intro h
  have hprobe : probeEntry (construct {}) 1000000000
      ∈ (probe (construct {}) 1000000000).entries := List.mem_cons_self
  have honce := h _ (readable_probe _ 1000000000) _ hprobe (by decide) (by decide) (by decide)
  revert honce
  decide +kernel

end Runs

end SystemdCollector

end Holonight
