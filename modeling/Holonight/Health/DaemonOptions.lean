import Holonight.Config.Application
import Holonight.Health.PacmanCollector
import Holonight.Health.SystemdCollector

/-!
# Configuration numbers on their way to the collectors (`Daemon::Daemon`)

A number of the configuration file is a signed 64-bit integer. `Config::fromFile` checks its range
at that width and then casts it to the type of the field; `Daemon::Daemon` copies the field into
the options of a collector, and `SystemdCollector` replaces options that are not positive.

The fields of type `size_t` and `seconds` are as wide as the document's integers. The others are
not, and the number that was checked is kept exactly when it fits the field
(`numbersKept_iff`).
-/

namespace Holonight

/-- `struct PacmanCollectorOptions` with all its fields: the one that `collect` reads itself, and
those of the evaluations. -/
structure PacmanOptions extends PacmanCollectorOptions where
  sysRoot : Bytes := "/"
  dbPath : Bytes := "var/lib/pacman"
  etcPath : Bytes := "etc"
  maxDepth : UInt32 := 3
  checkKernel : Bool := true
  checkLocks : Bool := true
  checkOrphans : Bool := true
  checkTransactions : Bool := true

/-- The fields of `Config` of type `int` that a collector is constructed with. -/
structure Config.Ints (config : Config) : Prop where
  threshold : InInt32 config.systemd.flappingThreshold
  window : InInt32 config.systemd.flappingWindowSeconds

namespace Daemon

/-- The options `systemdCollector_` is constructed with (Daemon.cpp:83–87), after its constructor. -/
def systemdOptions (config : Config) (hints : config.Ints) : SystemdCollectorOptions :=
  SystemdCollector.construct
    { flappingThreshold := config.systemd.flappingThreshold
      flappingWindowSeconds := config.systemd.flappingWindowSeconds
      ignoreUnits := config.systemd.ignoreUnits
      threshold_isInt := hints.threshold
      window_isInt := hints.window }

/-- The options `pacmanCollector_` is constructed with (Daemon.cpp:99–109). -/
def pacmanOptions (config : Config) : PacmanOptions where
  sysRoot := config.pacman.sysRoot
  dbPath := config.pacman.dbPath
  etcPath := config.pacman.etcPath
  maxDepth := UInt32.ofNat config.pacman.maxDepth
  warningThreshold := UInt32.ofNat config.pacman.warningThreshold
  checkKernel := config.pacman.checkKernel
  checkLocks := config.pacman.checkLocks
  checkOrphans := config.pacman.checkOrphans
  checkTransactions := config.pacman.checkTransactions

/-! ## Numbers of the document -/

/-- An integer key of a section, if the document has it. -/
def sectionInt (tbl : TomlTable) (name key : Bytes) : Option Int64 :=
  (tbl.getTable name).bind fun fields => fields.getInt key

/-- Every accepted number is the value of its field, and of the option it becomes; the fields that
must be positive are, and the storage thresholds are ordered percentages. -/
structure NumbersKept (tbl : TomlTable) (config : Config) (hints : config.Ints) : Prop where
  interval : ∀ n, sectionInt tbl "general" "interval_seconds" = some n → 0 < n.toInt →
    config.interval = n.toInt
  retentionDays : ∀ n, sectionInt tbl "database" "retention_days" = some n → 0 < n.toInt →
    config.database.retentionDays = some n.toInt
  maxBytes : ∀ n, sectionInt tbl "database" "max_bytes" = some n → 0 < n.toInt →
    config.database.maxBytes = some n.toInt.toNat
  maxEvents : ∀ n, sectionInt tbl "database" "max_events" = some n → 0 < n.toInt →
    config.database.maxEvents = some n.toInt.toNat
  flappingThreshold : ∀ n, sectionInt tbl "systemd" "flapping_threshold" = some n → 0 < n.toInt →
    config.systemd.flappingThreshold = n.toInt ∧
      (systemdOptions config hints).flappingThreshold = n.toInt
  flappingWindow : ∀ n, sectionInt tbl "systemd" "flapping_window_seconds" = some n →
    0 < n.toInt → config.systemd.flappingWindowSeconds = n.toInt ∧
      (systemdOptions config hints).flappingWindowSeconds = n.toInt
  maxDepth : ∀ n, sectionInt tbl "pacman" "max_depth" = some n → 0 ≤ n.toInt →
    config.pacman.maxDepth = n.toInt.toNat ∧
      (pacmanOptions config).maxDepth.toNat = n.toInt.toNat
  warningThreshold : ∀ n, sectionInt tbl "pacman" "warning_threshold" = some n → 0 ≤ n.toInt →
    config.pacman.warningThreshold = n.toInt.toNat ∧
      (pacmanOptions config).warningThreshold.toNat = n.toInt.toNat
  positive : (∃ days, config.database.retentionDays = some days ∧ 0 < days) ∧
    0 < config.systemd.flappingThreshold ∧ 0 < config.systemd.flappingWindowSeconds
  storage : config.StorageThresholdsOrdered

/-- The accepted numbers fit the fields they are narrowed to: `int` three times, `unsigned int`
twice. -/
structure NumbersFit (tbl : TomlTable) : Prop where
  retentionDays : ∀ n, sectionInt tbl "database" "retention_days" = some n → n.toInt < 2 ^ 31
  flappingThreshold : ∀ n, sectionInt tbl "systemd" "flapping_threshold" = some n →
    n.toInt < 2 ^ 31
  flappingWindow : ∀ n, sectionInt tbl "systemd" "flapping_window_seconds" = some n →
    n.toInt < 2 ^ 31
  maxDepth : ∀ n, sectionInt tbl "pacman" "max_depth" = some n → n.toInt < 2 ^ 32
  warningThreshold : ∀ n, sectionInt tbl "pacman" "warning_threshold" = some n → n.toInt < 2 ^ 32

/-! ## Casts -/

theorem inInt32_toInt32 (n : ℤ) : InInt32 (toInt32 n) := by
  unfold InInt32 toInt32
  rw [Int.bmod_def]
  split <;> omega

/-- A positive number is kept by the cast to `int` exactly when it fits. -/
theorem toInt32_eq_self_iff {n : ℤ} (hpos : 0 < n) : toInt32 n = n ↔ n < 2 ^ 31 := by
  constructor
  · intro h
    have hrange := inInt32_toInt32 n
    rw [h] at hrange
    exact hrange.2
  · intro h
    exact toInt32_of_fits (by omega) h

theorem toSize_toInt {n : Int64} (hpos : 0 < n.toInt) : toSize n.toInt = n.toInt.toNat := by
  have hlt := n.toInt_lt
  exact toSize_of_fits hpos.le (by omega)

/-! ## What each parser keeps -/

open Config

/-- The table of a section; an absent one has no keys. -/
def sectionTable (tbl : TomlTable) (name : Bytes) : TomlTable := (tbl.getTable name).getD []

theorem getInt_sectionTable (tbl : TomlTable) (name key : Bytes) :
    (sectionTable tbl name).getInt key = sectionInt tbl name key := by
  rw [sectionTable, sectionInt]
  cases tbl.getTable name with
  | none => rfl
  | some fields => rfl

section Keys

variable {tbl : TomlTable} {key : Bytes} {n : Int64}

theorem flappingInt_accepted {name : Bytes} (default : ℤ) (h : sectionInt tbl name key = some n)
    (hpos : 0 < n.toInt) :
    (flappingInt (sectionTable tbl name) key default).1 = toInt32 n.toInt := by
  rw [flappingInt, getInt_sectionTable, h]
  dsimp only
  rw [if_neg (not_le.mpr hpos)]

/-- An accepted flapping number is kept exactly when it is an `int`. -/
theorem flappingInt_kept_iff {name : Bytes} {default : ℤ} (h : sectionInt tbl name key = some n)
    (hpos : 0 < n.toInt) :
    (flappingInt (sectionTable tbl name) key default).1 = n.toInt ↔ n.toInt < 2 ^ 31 := by
  rw [flappingInt_accepted default h hpos, toInt32_eq_self_iff hpos]

/-- A value that is not accepted leaves the default, one that is accepted is cast to `int`. -/
theorem inInt32_flappingInt {default : ℤ} (hdefault : InInt32 default) :
    InInt32 (flappingInt tbl key default).1 := by
  rw [flappingInt]
  cases tbl.getInt key with
  | none => exact hdefault
  | some n =>
    dsimp only
    split
    · exact hdefault
    · exact inInt32_toInt32 n.toInt

theorem flappingInt_pos {name : Bytes} {default : ℤ} (hdefault : 0 < default)
    (hfits : ∀ n, sectionInt tbl name key = some n → n.toInt < 2 ^ 31) :
    0 < (flappingInt (sectionTable tbl name) key default).1 := by
  cases hkey : sectionInt tbl name key with
  | none =>
    rw [flappingInt, getInt_sectionTable, hkey]
    exact hdefault
  | some n =>
    by_cases hpos : 0 < n.toInt
    · rw [(flappingInt_kept_iff hkey hpos).mpr (hfits n hkey)]
      exact hpos
    · rw [flappingInt, getInt_sectionTable, hkey]
      dsimp only
      rw [if_pos (not_lt.mp hpos)]
      exact hdefault

/-- An accepted number of the package section is kept exactly when it is an `unsigned int`. -/
theorem unsignedInt_kept_iff {name : Bytes} {default : ℕ} (h : sectionInt tbl name key = some n)
    (hpos : 0 ≤ n.toInt) :
    unsignedInt (sectionTable tbl name) key default = n.toInt.toNat ↔ n.toInt < 2 ^ 32 := by
  rw [unsignedInt, getInt_sectionTable, h]
  dsimp only
  rw [if_pos hpos]
  constructor
  · intro heq
    have hlt := Nat.mod_lt n.toInt.toNat (y := 2 ^ 32) (by norm_num)
    rw [heq] at hlt
    omega
  · intro hlt
    exact Nat.mod_eq_of_lt (by omega)

end Keys

section Sections

variable {lib : CppLib} {tbl : TomlTable} {result : Config × List Bytes}
  (h : fromTable lib tbl = .ok result)
include h

theorem fromTable_systemd :
    result.1.systemd.flappingThreshold
        = (flappingInt (sectionTable tbl "systemd") "flapping_threshold" 3).1 ∧
      result.1.systemd.flappingWindowSeconds
        = (flappingInt (sectionTable tbl "systemd") "flapping_window_seconds" 300).1 := by
  obtain ⟨-, -, -, ⟨before, hbefore, hsystemd⟩, -⟩ := fromTable_sections h
  rw [hsystemd, parseSystemdSection, sectionTable]
  cases tbl.getTable "systemd" with
  | none =>
    dsimp only
    rw [hbefore]
    exact ⟨rfl, rfl⟩
  | some fields =>
    dsimp only
    rw [hbefore]
    exact ⟨rfl, rfl⟩

theorem fromTable_pacman :
    result.1.pacman.maxDepth = unsignedInt (sectionTable tbl "pacman") "max_depth" 3 ∧
      result.1.pacman.warningThreshold
        = unsignedInt (sectionTable tbl "pacman") "warning_threshold" 5 := by
  obtain ⟨-, -, -, -, ⟨before, hbefore, hpacman⟩⟩ := fromTable_sections h
  rw [hpacman, parsePacmanSection, sectionTable]
  cases tbl.getTable "pacman" with
  | none =>
    dsimp only
    rw [hbefore]
    exact ⟨rfl, rfl⟩
  | some fields =>
    dsimp only
    rw [hbefore]
    exact ⟨rfl, rfl⟩

/-- The days that are kept, and that those of the document are positive. -/
theorem fromTable_retention :
    result.1.database.retentionDays
        = some (((sectionInt tbl "database" "retention_days").map fun n => toInt32 n.toInt).getD 30) ∧
      ∀ n, sectionInt tbl "database" "retention_days" = some n → 0 < n.toInt := by
  cases hdb : tbl.getTable "database" with
  | none =>
    obtain ⟨-, -, ⟨before, after, hdefault, hdatabase, hsame⟩, -, -⟩ := fromTable_sections h
    rw [parseDatabaseSection, hdb] at hdatabase
    cases hdatabase
    rw [hsame, hdefault, sectionInt, hdb]
    exact ⟨rfl, fun n hn => by cases hn⟩
  | some db =>
    rw [sectionInt, hdb, Option.bind_some]
    cases hdays : db.getInt "retention_days" with
    | none =>
      obtain ⟨-, -, ⟨before, after, hdefault, hdatabase, hsame⟩, -, -⟩ := fromTable_sections h
      rw [parseDatabaseSection, hdb] at hdatabase
      obtain ⟨retention, hretention, hdatabase⟩ := bind_eq_ok.mp hdatabase
      obtain ⟨_, -, hdatabase⟩ := bind_eq_ok.mp hdatabase
      obtain ⟨_, -, hdatabase⟩ := bind_eq_ok.mp hdatabase
      obtain ⟨rfl, -⟩ := positiveInt_ok hretention
      cases hdatabase
      rw [hsame]
      dsimp only
      rw [hdays, hdefault]
      exact ⟨rfl, fun n hn => by cases hn⟩
    | some n =>
      obtain ⟨hpos, heq⟩ := fromTable_retentionDays h hdb hdays
      refine ⟨heq, ?_⟩
      rintro m ⟨⟩
      exact hpos

/-- The configuration has values of the types of its fields. -/
theorem fromTable_ints : result.1.Ints where
  threshold := by
    rw [(fromTable_systemd h).1]
    exact inInt32_flappingInt (by decide)
  window := by
    rw [(fromTable_systemd h).2]
    exact inInt32_flappingInt (by decide)

end Sections

/-! ## Accepted numbers -/

/-- The options of the systemd collector are the fields when these are positive. -/
theorem systemdOptions_of_pos {config : Config} (hints : config.Ints)
    (hthreshold : 0 < config.systemd.flappingThreshold)
    (hwindow : 0 < config.systemd.flappingWindowSeconds) :
    (systemdOptions config hints).flappingThreshold = config.systemd.flappingThreshold ∧
      (systemdOptions config hints).flappingWindowSeconds
        = config.systemd.flappingWindowSeconds :=
  ⟨if_neg (not_le.mpr hthreshold), if_neg (not_le.mpr hwindow)⟩

/-- An `unsigned int` option is its field when the field is one. -/
theorem toNat_ofNat_field {field : ℕ} {n : ℤ} (h : field = n.toNat) (hlt : n < 2 ^ 32) :
    field = n.toNat ∧ (UInt32.ofNat field).toNat = n.toNat := by
  refine ⟨h, ?_⟩
  rw [h, UInt32.toNat_ofNat']
  exact Nat.mod_eq_of_lt (by omega)

section Accepted

variable {lib : CppLib} {tbl : TomlTable} {result : Config × List Bytes}
  (h : fromTable lib tbl = .ok result)
include h

theorem numbersFit_of_kept (hkept : NumbersKept tbl result.1 (fromTable_ints h)) :
    NumbersFit tbl := by
  obtain ⟨hthreshold, hwindow⟩ := fromTable_systemd h
  obtain ⟨hdepth, hwarning⟩ := fromTable_pacman h
  constructor
  case retentionDays =>
    intro n hn
    obtain ⟨heq, hpos⟩ := fromTable_retention h
    have hkeep := hkept.retentionDays n hn (hpos n hn)
    rw [heq, hn] at hkeep
    exact (toInt32_eq_self_iff (hpos n hn)).mp (Option.some.inj hkeep)
  -- a number that is not accepted is below every bound
  case flappingThreshold =>
    intro n hn
    rcases lt_or_ge 0 n.toInt with hpos | hneg
    · exact (flappingInt_kept_iff hn hpos).mp
        (hthreshold.symm.trans (hkept.flappingThreshold n hn hpos).1)
    · omega
  case flappingWindow =>
    intro n hn
    rcases lt_or_ge 0 n.toInt with hpos | hneg
    · exact (flappingInt_kept_iff hn hpos).mp
        (hwindow.symm.trans (hkept.flappingWindow n hn hpos).1)
    · omega
  case maxDepth =>
    intro n hn
    rcases le_or_gt 0 n.toInt with hpos | hneg
    · exact (unsignedInt_kept_iff hn hpos).mp (hdepth.symm.trans (hkept.maxDepth n hn hpos).1)
    · omega
  case warningThreshold =>
    intro n hn
    rcases le_or_gt 0 n.toInt with hpos | hneg
    · exact (unsignedInt_kept_iff hn hpos).mp
        (hwarning.symm.trans (hkept.warningThreshold n hn hpos).1)
    · omega

theorem numbersKept_of_fit (hfit : NumbersFit tbl) :
    NumbersKept tbl result.1 (fromTable_ints h) := by
  obtain ⟨⟨general, interval, hgeneral, hinterval, -, hkeep⟩, hstorage, -, -, -⟩ :=
    fromTable_sections h
  obtain ⟨hretention, hretentionPos⟩ := fromTable_retention h
  obtain ⟨hbytes, hevents, -⟩ := fromTable_limits h
  obtain ⟨hthreshold, hwindow⟩ := fromTable_systemd h
  obtain ⟨hdepth, hwarning⟩ := fromTable_pacman h
  have hthresholdPos : 0 < result.1.systemd.flappingThreshold := by
    rw [hthreshold]
    exact flappingInt_pos (by decide) hfit.flappingThreshold
  have hwindowPos : 0 < result.1.systemd.flappingWindowSeconds := by
    rw [hwindow]
    exact flappingInt_pos (by decide) hfit.flappingWindow
  -- so that the constructor of the collector replaces neither
  obtain ⟨hoptThreshold, hoptWindow⟩ :=
    systemdOptions_of_pos (fromTable_ints h) hthresholdPos hwindowPos
  constructor
  case interval =>
    intro n hn _
    rw [sectionInt, hgeneral, Option.bind_some, hinterval] at hn
    cases hn
    exact hkeep
  case retentionDays =>
    intro n hn hpos
    rw [hretention, hn]
    exact congrArg some ((toInt32_eq_self_iff hpos).mpr (hfit.retentionDays n hn))
  case maxBytes =>
    intro n hn hpos
    have hn : databaseInt tbl "max_bytes" = some n := hn
    rw [hbytes, hn, ← toSize_toInt hpos]
    rfl
  case maxEvents =>
    intro n hn hpos
    have hn : databaseInt tbl "max_events" = some n := hn
    rw [hevents, hn, ← toSize_toInt hpos]
    rfl
  case flappingThreshold =>
    intro n hn hpos
    rw [hoptThreshold, and_self, hthreshold]
    exact (flappingInt_kept_iff hn hpos).mpr (hfit.flappingThreshold n hn)
  case flappingWindow =>
    intro n hn hpos
    rw [hoptWindow, and_self, hwindow]
    exact (flappingInt_kept_iff hn hpos).mpr (hfit.flappingWindow n hn)
  case maxDepth =>
    intro n hn hpos
    have hlt := hfit.maxDepth n hn
    exact toNat_ofNat_field (hdepth.trans ((unsignedInt_kept_iff hn hpos).mpr hlt)) hlt
  case warningThreshold =>
    intro n hn hpos
    have hlt := hfit.warningThreshold n hn
    exact toNat_ofNat_field (hwarning.trans ((unsignedInt_kept_iff hn hpos).mpr hlt)) hlt
  case positive =>
    refine ⟨⟨_, hretention, ?_⟩, hthresholdPos, hwindowPos⟩
    cases hdays : sectionInt tbl "database" "retention_days" with
    | none => decide
    | some n =>
      show 0 < toInt32 n.toInt
      rw [(toInt32_eq_self_iff (hretentionPos n hdays)).mpr (hfit.retentionDays n hdays)]
      exact hretentionPos n hdays
  case storage => exact hstorage

end Accepted

/-- **Accepted numbers are kept exactly when they fit their fields**: for every document that is
read without an error, every accepted number is the value of its field and of the collector's
option, with the positive fields positive, if and only if the days, the two flapping numbers and
the two numbers of the package section fit the types they are narrowed to. -/
theorem numbersKept_iff (lib : CppLib) (path : Bytes) (tbl : TomlTable)
    (result : Config × List Bytes) (h : fromFile lib path (.parsed tbl) = .ok result) :
    NumbersKept tbl result.1 (fromTable_ints h) ↔ NumbersFit tbl :=
  ⟨numbersFit_of_kept h, numbersKept_of_fit h⟩

/-- A document with the required keys, a number of days and a flapping threshold. -/
def numbersDocument (days threshold : Int64) : TomlTable :=
  [ ("general", .table [("interval_seconds", .int 60), ("scan_root", .str "/home")]),
    ("database", .table [("retention_days", .int days)]),
    ("systemd", .table [("flapping_threshold", .int threshold)]) ]

/-- The configuration such a document gives. -/
def numbersConfig (days threshold : ℤ) : Config :=
  { interval := 60, scanRoot := "/home", database := { retentionDays := some days }
    systemd := { flappingThreshold := threshold } }

theorem numbersConfig_read :
    fromFile CppLib.integral [] (.parsed (numbersDocument 14 5)) = .ok (numbersConfig 14 5, []) :=
  rfl

theorem numbersKept_document :
    NumbersKept (numbersDocument 14 5) (numbersConfig 14 5)
      (fromTable_ints numbersConfig_read) := by
  refine (numbersKept_iff CppLib.integral [] (numbersDocument 14 5) _ numbersConfig_read).mpr ?_
  constructor
  case retentionDays =>
    rintro n ⟨⟩
    decide
  case flappingThreshold =>
    rintro n ⟨⟩
    decide
  case flappingWindow => exact fun n hn => nomatch hn
  case maxDepth => exact fun n hn => nomatch hn
  case warningThreshold => exact fun n hn => nomatch hn

/-- 2147483648 days are accepted as a positive number and kept as a negative one. -/
theorem retention_days_wrap :
    ¬∀ (lib : CppLib) (path : Bytes) (tbl : TomlTable) (result : Config × List Bytes)
      (h : fromFile lib path (.parsed tbl) = .ok result),
      NumbersKept tbl result.1 (fromTable_ints h) := by
  intro hall
  have hkept := hall CppLib.integral [] (numbersDocument 2147483648 5)
    (numbersConfig (-2147483648) 5, []) rfl
  have hdays := hkept.retentionDays 2147483648 rfl (by decide)
  exact absurd hdays (by decide)

end Daemon

end Holonight
