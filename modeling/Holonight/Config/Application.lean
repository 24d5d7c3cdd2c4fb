import Holonight.Base.CppLib
import Holonight.Base.Exceptions

/-!
# Configuration (`Application.cpp`)

`Config::fromFile` reads a TOML document section by section into `Config`. A document is
modelled by the table the TOML library parses it to; integers are 64-bit there and are
cast to the types of the configuration fields without a range check.

Each section has one lemma that says which fields it changes. The spec of the reader follows from
them: a section of the result is what its own parser made of the defaults (`fromTable_sections`).
-/

namespace Holonight

/-! ## TOML documents -/

/-- A TOML value; `date` stands for the four date and time types. -/
inductive Toml where
  | int (n : Int64)
  | float (d : Double)
  | bool (b : Bool)
  | str (s : Bytes)
  | date (text : Bytes)
  | array (items : List Toml)
  | table (fields : List (Bytes × Toml))

/-- A TOML table: its keys are distinct. -/
abbrev TomlTable := List (Bytes × Toml)

namespace TomlTable

/-- `get_as<int64_t>`. -/
def getInt (tbl : TomlTable) (key : Bytes) : Option Int64 :=
  match tbl.lookup key with
  | some (.int n) => some n
  | _ => none

/-- `get_as<double>`. -/
def getFloat (tbl : TomlTable) (key : Bytes) : Option Double :=
  match tbl.lookup key with
  | some (.float d) => some d
  | _ => none

/-- `get_as<bool>`. -/
def getBool (tbl : TomlTable) (key : Bytes) : Option Bool :=
  match tbl.lookup key with
  | some (.bool b) => some b
  | _ => none

/-- `get_as<std::string>`. -/
def getString (tbl : TomlTable) (key : Bytes) : Option Bytes :=
  match tbl.lookup key with
  | some (.str s) => some s
  | _ => none

/-- `get(key)->as_table()`. -/
def getTable (tbl : TomlTable) (key : Bytes) : Option TomlTable :=
  match tbl.lookup key with
  | some (.table fields) => some fields
  | _ => none

/-- The strings of an array; elements of other types are skipped. -/
def getStrings (tbl : TomlTable) (key : Bytes) : List Bytes :=
  match tbl.lookup key with
  | some (.array items) => items.filterMap fun
      | .str s => some s
      | _ => none
  | _ => []

end TomlTable

/-! ## The configuration -/

structure DatabaseConfig where
  path : Option Bytes := none
  retentionDays : Option ℤ := some 30
  maxBytes : Option ℕ := some 52428800
  maxEvents : Option ℕ := some 100000

structure SystemdConfig where
  flappingThreshold : ℤ := 3
  flappingWindowSeconds : ℤ := 300
  ignoreUnits : List Bytes := []

structure MemoryConfig where
  someWarningThreshold : Double := .finite 10
  fullCriticalThreshold : Double := .finite 25
  meminfoWarningThreshold : Double := .finite 85

structure PacmanConfig where
  sysRoot : Bytes := "/"
  dbPath : Bytes := "var/lib/pacman"
  etcPath : Bytes := "etc"
  maxDepth : ℕ := 3
  warningThreshold : ℕ := 5
  checkKernel : Bool := true
  checkLocks : Bool := true
  checkOrphans : Bool := true
  checkTransactions : Bool := true

/-- `struct Config`. -/
structure Config where
  interval : ℤ := 300
  scanRoot : Bytes := "."
  commands : List Bytes := []
  storageWarningThreshold : Double := .finite 85
  storageCriticalThreshold : Double := .finite 95
  storageMountPoints : List Bytes := []
  logLevel : Option Bytes := none
  database : DatabaseConfig := {}
  systemd : SystemdConfig := {}
  memory : MemoryConfig := {}
  pacman : PacmanConfig := {}
  rulesDir : Option Bytes := none

namespace Config

/-! ## Reading the sections -/

/-- `validatePercentage` (Application.cpp:40–44). -/
def validatePercentage (value : Double) (name : Bytes) : Except Bytes Unit :=
  if !value.isFinite || Double.lt value (.finite 0) || Double.lt (.finite 100) value then
    .error (name ++ Bytes.ofString " must be between 0 and 100")
  else .ok ()

/-- A floating-point key that also accepts an integer. -/
def numberOr (lib : CppLib) (tbl : TomlTable) (key : Bytes) (default : Double) : Double :=
  match tbl.getFloat key, tbl.getInt key with
  | some d, _ => d
  | none, some n => lib.intToDouble n.toInt
  | none, none => default

/-- An integer key that must be positive when it is there. -/
def positiveInt (tbl : TomlTable) (key : Bytes) : Except Bytes (Option Int64) :=
  match tbl.getInt key with
  | none => .ok none
  | some n =>
    if n.toInt ≤ 0 then .error (key ++ Bytes.ofString " must be a positive integer")
    else .ok (some n)

/-- `std::tolower` in the C locale. -/
def toLowerByte (b : UInt8) : UInt8 := if 65 ≤ b ∧ b ≤ 90 then b + 32 else b

/-- `parseLogLevel` as a check (Logger.cpp:31–50). -/
def parseLogLevel (levelStr : Bytes) : Except Bytes Unit :=
  if levelStr.map toLowerByte ∈ ([ "debug", "info", "warn", "warning", "error" ] : List Bytes) then
    .ok ()
  else .error (Bytes.ofString "invalid log level: " ++ levelStr)

/-- `parseGeneralSection` (Application.cpp:46–90). -/
def parseGeneralSection (tbl : TomlTable) (config : Config) : Except Bytes Config :=
  match tbl.getTable "general" with
  | none => .error "config is missing required [general] table"
  | some general => do
    let some interval := general.getInt "interval_seconds"
      | .error "config key 'interval_seconds' is required in [general] section"
    if interval.toInt ≤ 0 then
      .error "interval_seconds must be a positive integer"
    let some scanRoot := general.getString "scan_root"
      | .error "config key 'scan_root' is required in [general] section"
    if let some level := general.getString "log_level" then
      parseLogLevel level
    return { config with
      interval := interval.toInt
      scanRoot := scanRoot
      logLevel := (general.getString "log_level").or config.logLevel
      commands := config.commands ++ general.getStrings "commands" }

/-- `parseStorageSection` (Application.cpp:92–131). -/
def parseStorageSection (lib : CppLib) (tbl : TomlTable) (config : Config) :
    Except Bytes Config :=
  match tbl.getTable "storage" with
  | none => .ok config
  | some storage => do
    let warning := numberOr lib storage "warning_threshold" config.storageWarningThreshold
    let critical := numberOr lib storage "critical_threshold" config.storageCriticalThreshold
    validatePercentage warning "storage.warning_threshold"
    validatePercentage critical "storage.critical_threshold"
    if Double.lt critical warning then
      .error "storage.warning_threshold must not exceed storage.critical_threshold"
    return { config with
      storageWarningThreshold := warning
      storageCriticalThreshold := critical
      storageMountPoints := config.storageMountPoints ++ storage.getStrings "mount_points" }

/-- `parseDatabaseSection` (Application.cpp:133–169); the casts are `static_cast`s. -/
def parseDatabaseSection (tbl : TomlTable) (config : Config) : Except Bytes Config :=
  match tbl.getTable "database" with
  | none => .ok config
  | some db => do
    let retention ← positiveInt db "retention_days"
    let maxBytes ← positiveInt db "max_bytes"
    let maxEvents ← positiveInt db "max_events"
    return { config with
      database :=
        { path := (db.getString "path").or config.database.path
          -- narrowed to `int` without a check of its range
          retentionDays :=
            (retention.map fun n => toInt32 n.toInt).or config.database.retentionDays
          maxBytes := (maxBytes.map fun n => toSize n.toInt).or config.database.maxBytes
          maxEvents := (maxEvents.map fun n => toSize n.toInt).or config.database.maxEvents } }

/-- A key of `[systemd]`: a value that is not positive is replaced, with a warning. -/
def flappingInt (tbl : TomlTable) (key : Bytes) (default : ℤ) : ℤ × List Bytes :=
  match tbl.getInt key with
  | none => (default, [])
  | some n =>
    if n.toInt ≤ 0 then
      (default, [List.flatten ["warning: ", key, " must be positive; falling back to default ",
        decimal default]])
    else (toInt32 n.toInt, [])

/-- `parseSystemdSection` (Application.cpp:171–208), with the lines it writes to
`std::cerr`. -/
def parseSystemdSection (tbl : TomlTable) (config : Config) : Config × List Bytes :=
  match tbl.getTable "systemd" with
  | none => (config, [])
  | some systemd =>
    let threshold := flappingInt systemd "flapping_threshold" config.systemd.flappingThreshold
    let window :=
      flappingInt systemd "flapping_window_seconds" config.systemd.flappingWindowSeconds
    ({ config with
        systemd :=
          { flappingThreshold := threshold.1
            flappingWindowSeconds := window.1
            ignoreUnits := config.systemd.ignoreUnits ++ systemd.getStrings "ignore_units" } },
      threshold.2 ++ window.2)

/-- `parseMemorySection` (Application.cpp:210–241). -/
def parseMemorySection (lib : CppLib) (tbl : TomlTable) (config : Config) :
    Except Bytes Config :=
  match tbl.getTable "memory" with
  | none => .ok config
  | some mem => do
    let someWarning := numberOr lib mem "some_warning_threshold" config.memory.someWarningThreshold
    let fullCritical :=
      numberOr lib mem "full_critical_threshold" config.memory.fullCriticalThreshold
    let meminfoWarning :=
      numberOr lib mem "meminfo_warning_threshold" config.memory.meminfoWarningThreshold
    validatePercentage someWarning "memory.some_warning_threshold"
    validatePercentage fullCritical "memory.full_critical_threshold"
    validatePercentage meminfoWarning "memory.meminfo_warning_threshold"
    return { config with
      memory :=
        { someWarningThreshold := someWarning
          fullCriticalThreshold := fullCritical
          meminfoWarningThreshold := meminfoWarning } }

/-- A non-negative key of `[pacman]`, cast to `unsigned int`. -/
def unsignedInt (tbl : TomlTable) (key : Bytes) (default : ℕ) : ℕ :=
  match tbl.getInt key with
  | none => default
  | some n => if 0 ≤ n.toInt then n.toInt.toNat % 2 ^ 32 else default

/-- `parsePacmanSection` (Application.cpp:243–281). -/
def parsePacmanSection (tbl : TomlTable) (config : Config) : Config :=
  match tbl.getTable "pacman" with
  | none => config
  | some pacman =>
    { config with
      pacman :=
        { sysRoot := (pacman.getString "sys_root").getD config.pacman.sysRoot
          dbPath := (pacman.getString "db_path").getD config.pacman.dbPath
          etcPath := (pacman.getString "etc_path").getD config.pacman.etcPath
          maxDepth := unsignedInt pacman "max_depth" config.pacman.maxDepth
          warningThreshold := unsignedInt pacman "warning_threshold" config.pacman.warningThreshold
          checkKernel := (pacman.getBool "check_kernel").getD config.pacman.checkKernel
          checkLocks := (pacman.getBool "check_locks").getD config.pacman.checkLocks
          checkOrphans := (pacman.getBool "check_orphans").getD config.pacman.checkOrphans
          checkTransactions :=
            (pacman.getBool "check_transactions").getD config.pacman.checkTransactions } }

/-- `parseRulesSection` (Application.cpp:283–297). -/
def parseRulesSection (tbl : TomlTable) (config : Config) : Config :=
  match tbl.getTable "rules" with
  | none => config
  | some rules => { config with rulesDir := (rules.getString "rules_dir").or config.rulesDir }

/-- The sections in the order of `fromFile` (Application.cpp:350–358). -/
def fromTable (lib : CppLib) (tbl : TomlTable) : Except Bytes (Config × List Bytes) := do
  let config ← parseGeneralSection tbl {}
  let config ← parseStorageSection lib tbl config
  let config ← parseDatabaseSection tbl config
  -- the only section that warns instead of failing
  let systemd := parseSystemdSection tbl config
  let config ← parseMemorySection lib tbl systemd.1
  return (parseRulesSection tbl (parsePacmanSection tbl config), systemd.2)

/-- What the file system and the TOML parser make of the configuration file. -/
inductive FileOutcome where
  | missing
  | unreadable
  | malformed (what : Bytes)
  | parsed (tbl : TomlTable)

/-- `Config::fromFile` (Application.cpp:338–361). -/
def fromFile (lib : CppLib) (path : Bytes) : FileOutcome → Except Bytes (Config × List Bytes)
  | .missing => .error (Bytes.ofString "config file not found: " ++ path)
  | .unreadable => .error (Bytes.ofString "failed to open config file: " ++ path)
  | .malformed what => .error what
  | .parsed tbl => fromTable lib tbl

/-! ## What a section changes -/

section Frames

variable {lib : CppLib} {tbl : TomlTable} {config config' : Config}

theorem parseGeneralSection_frame (h : parseGeneralSection tbl config = .ok config') :
    ∃ general interval, tbl.getTable "general" = some general ∧
      general.getInt "interval_seconds" = some interval ∧ 0 < interval.toInt ∧
      ∃ scanRoot logLevel commands, config' = { config with
        interval := interval.toInt, scanRoot := scanRoot, logLevel := logLevel,
        commands := commands } := by
  unfold parseGeneralSection at h
  cases hgeneral : tbl.getTable "general" with
  | none =>
    rw [hgeneral] at h
    cases h
  | some general =>
    rw [hgeneral] at h
    simp only at h
    split at h
    · rename_i interval hinterval
      split at h
      · cases h
      · rename_i hpos
        refine ⟨general, interval, rfl, hinterval, not_le.mp hpos, ?_⟩
        split at h
        · split at h
          · obtain ⟨_, -, h⟩ := bind_eq_ok.mp h
            cases h
            exact ⟨_, _, _, rfl⟩
          · cases h
            exact ⟨_, _, _, rfl⟩
        · cases h
    · cases h

/-- A validated percentage is a number between 0 and 100. -/
theorem validatePercentage_ok {value : Double} {name : Bytes} {u : Unit}
    (h : validatePercentage value name = .ok u) :
    ∃ q : ℚ, value = .finite q ∧ 0 ≤ q ∧ q ≤ 100 := by
  unfold validatePercentage at h
  split at h
  · cases h
  · rename_i hvalid
    cases value with
    | finite q =>
      refine ⟨q, rfl, ?_⟩
      simpa [Double.isFinite, Double.lt] using hvalid
    | posInf => simp [Double.isFinite] at hvalid
    | negInf => simp [Double.isFinite] at hvalid
    | nan => simp [Double.isFinite] at hvalid

/-- The two thresholds of the storage section are percentages, the warning not above the
critical one. -/
def StorageThresholdsOrdered (config : Config) : Prop :=
  ∃ warning critical : ℚ, config.storageWarningThreshold = .finite warning ∧
    config.storageCriticalThreshold = .finite critical ∧
    0 ≤ warning ∧ warning ≤ critical ∧ critical ≤ 100

theorem parseStorageSection_frame (h : parseStorageSection lib tbl config = .ok config') :
    (∃ warning critical mountPoints, config' = { config with
      storageWarningThreshold := warning, storageCriticalThreshold := critical,
      storageMountPoints := mountPoints }) ∧
    (StorageThresholdsOrdered config → StorageThresholdsOrdered config') := by
  unfold parseStorageSection at h
  cases hstorage : tbl.getTable "storage" with
  | none =>
    rw [hstorage] at h
    cases h
    exact ⟨⟨_, _, _, rfl⟩, id⟩
  | some storage =>
    rw [hstorage] at h
    obtain ⟨_, hwarning, h⟩ := bind_eq_ok.mp h
    obtain ⟨_, hcritical, h⟩ := bind_eq_ok.mp h
    obtain ⟨warning, hw, hw0, -⟩ := validatePercentage_ok hwarning
    obtain ⟨critical, hc, -, hc100⟩ := validatePercentage_ok hcritical
    simp only at h
    rw [hw, hc] at h
    split at h
    · cases h
    · rename_i hle
      cases h
      refine ⟨⟨_, _, _, rfl⟩, fun _ => ⟨warning, critical, rfl, rfl, hw0, ?_, hc100⟩⟩
      simpa [Double.lt] using hle

theorem parseDatabaseSection_frame (h : parseDatabaseSection tbl config = .ok config') :
    ∃ database, config' = { config with database := database } := by
  unfold parseDatabaseSection at h
  cases hdb : tbl.getTable "database" with
  | none =>
    rw [hdb] at h
    cases h
    exact ⟨_, rfl⟩
  | some db =>
    rw [hdb] at h
    obtain ⟨_, -, h⟩ := bind_eq_ok.mp h
    obtain ⟨_, -, h⟩ := bind_eq_ok.mp h
    obtain ⟨_, -, h⟩ := bind_eq_ok.mp h
    cases h
    exact ⟨_, rfl⟩

theorem parseSystemdSection_frame :
    ∃ systemd, (parseSystemdSection tbl config).1 = { config with systemd := systemd } := by
  unfold parseSystemdSection
  cases tbl.getTable "systemd" with
  | none => exact ⟨_, rfl⟩
  | some systemd => exact ⟨_, rfl⟩

theorem parseMemorySection_frame (h : parseMemorySection lib tbl config = .ok config') :
    ∃ memory, config' = { config with memory := memory } := by
  unfold parseMemorySection at h
  cases hmem : tbl.getTable "memory" with
  | none =>
    rw [hmem] at h
    cases h
    exact ⟨_, rfl⟩
  | some mem =>
    rw [hmem] at h
    obtain ⟨_, -, h⟩ := bind_eq_ok.mp h
    obtain ⟨_, -, h⟩ := bind_eq_ok.mp h
    obtain ⟨_, -, h⟩ := bind_eq_ok.mp h
    cases h
    exact ⟨_, rfl⟩

theorem parsePacmanSection_frame :
    ∃ pacman, parsePacmanSection tbl config = { config with pacman := pacman } := by
  unfold parsePacmanSection
  cases tbl.getTable "pacman" with
  | none => exact ⟨_, rfl⟩
  | some pacman => exact ⟨_, rfl⟩

theorem parseRulesSection_frame :
    ∃ rulesDir, parseRulesSection tbl config = { config with rulesDir := rulesDir } := by
  unfold parseRulesSection
  cases tbl.getTable "rules" with
  | none => exact ⟨_, rfl⟩
  | some rules => exact ⟨_, rfl⟩

/-- **The spec of the reader**: the interval comes from the document, the storage thresholds are
ordered, and each other section is what its own parser made of the defaults. -/
theorem fromTable_sections {result : Config × List Bytes} (h : fromTable lib tbl = .ok result) :
    (∃ general interval, tbl.getTable "general" = some general ∧
      general.getInt "interval_seconds" = some interval ∧ 0 < interval.toInt ∧
      result.1.interval = interval.toInt) ∧
    StorageThresholdsOrdered result.1 ∧
    (∃ before after, before.database = {} ∧ parseDatabaseSection tbl before = .ok after ∧
      result.1.database = after.database) ∧
    (∃ before, before.systemd = {} ∧
      result.1.systemd = (parseSystemdSection tbl before).1.systemd) ∧
    ∃ before, before.pacman = {} ∧ result.1.pacman = (parsePacmanSection tbl before).pacman := by
  obtain ⟨afterGeneral, hgeneral, h⟩ := bind_eq_ok.mp h
  obtain ⟨afterStorage, hstorage, h⟩ := bind_eq_ok.mp h
  obtain ⟨afterDatabase, hdatabase, h⟩ := bind_eq_ok.mp h
  obtain ⟨afterMemory, hmemory, h⟩ := bind_eq_ok.mp h
  cases h
  obtain ⟨general, interval, htable, hinterval, hpos, _, _, _, hg⟩ :=
    parseGeneralSection_frame hgeneral
  obtain ⟨⟨_, _, _, hs⟩, hordered⟩ := parseStorageSection_frame hstorage
  obtain ⟨database, hd⟩ := parseDatabaseSection_frame hdatabase
  obtain ⟨systemd, hy⟩ := @parseSystemdSection_frame tbl afterDatabase
  obtain ⟨memory, hm⟩ := parseMemorySection_frame hmemory
  obtain ⟨pacman, hp⟩ := @parsePacmanSection_frame tbl afterMemory
  obtain ⟨rulesDir, hr⟩ := @parseRulesSection_frame tbl (parsePacmanSection tbl afterMemory)
  refine ⟨⟨general, interval, htable, hinterval, hpos, ?_⟩, ?_, ⟨_, _, ?_, hdatabase, ?_⟩,
    ⟨afterDatabase, ?_, ?_⟩, ⟨afterMemory, ?_, ?_⟩⟩
  · rw [hr, hp, hm, hy, hd, hs, hg]
  · -- the thresholds that the section leaves out are the defaults
    have hthresholds : StorageThresholdsOrdered afterStorage :=
      hordered (by rw [hg]; exact ⟨85, 95, rfl, rfl, by norm_num, by norm_num, by norm_num⟩)
    obtain ⟨warning, critical, hw, hc, hrange⟩ := hthresholds
    refine ⟨warning, critical, ?_, ?_, hrange⟩
    · rw [hr, hp, hm, hy, hd]
      exact hw
    · rw [hr, hp, hm, hy, hd]
      exact hc
  · rw [hs, hg]
  · rw [hr, hp, hm, hy]
  · rw [hd, hs, hg]
  · rw [hr, hp, hm]
  · rw [hm, hy, hd, hs, hg]
  · rw [hr]

end Frames

/-! ## The database section -/

section Database

variable {lib : CppLib} {tbl : TomlTable}

/-- The spec of a positive key: what the table has, and that it is positive. -/
theorem positiveInt_ok {key : Bytes} {value : Option Int64} (h : positiveInt tbl key = .ok value) :
    value = tbl.getInt key ∧ ∀ n, tbl.getInt key = some n → 0 < n.toInt := by
  unfold positiveInt at h
  cases hkey : tbl.getInt key with
  | none =>
    rw [hkey] at h
    cases h
    exact ⟨rfl, fun n hn => by cases hn⟩
  | some m =>
    rw [hkey] at h
    simp only at h
    split at h
    · cases h
    · rename_i hpos
      cases h
      refine ⟨rfl, ?_⟩
      rintro n ⟨⟩
      exact not_le.mp hpos

/-- An accepted `retention_days` is positive, and it is narrowed to an `int`. -/
theorem fromTable_retentionDays {result : Config × List Bytes}
    (h : fromTable lib tbl = .ok result) {db : TomlTable} {days : Int64}
    (hdb : tbl.getTable "database" = some db) (hdays : db.getInt "retention_days" = some days) :
    0 < days.toInt ∧ result.1.database.retentionDays = some (toInt32 days.toInt) := by
  obtain ⟨-, -, ⟨before, after, -, hdatabase, hsame⟩, -, -⟩ := fromTable_sections h
  unfold parseDatabaseSection at hdatabase
  rw [hdb] at hdatabase
  obtain ⟨retention, hretention, hdatabase⟩ := bind_eq_ok.mp hdatabase
  obtain ⟨_, -, hdatabase⟩ := bind_eq_ok.mp hdatabase
  obtain ⟨_, -, hdatabase⟩ := bind_eq_ok.mp hdatabase
  obtain ⟨rfl, hpos⟩ := positiveInt_ok hretention
  cases hdatabase
  refine ⟨hpos days hdays, ?_⟩
  rw [hsame]
  show ((db.getInt "retention_days").map fun n => toInt32 n.toInt).or _ = _
  rw [hdays]
  rfl

/-- An integer key of the `[database]` table, if the document has it. -/
def databaseInt (tbl : TomlTable) (key : Bytes) : Option Int64 :=
  (tbl.getTable "database").bind fun db => db.getInt key

/-- An accepted limit is positive and kept as it is; a limit that the document leaves out
has its default. -/
theorem fromTable_limits {result : Config × List Bytes} (h : fromTable lib tbl = .ok result) :
    result.1.database.maxBytes
        = some (((databaseInt tbl "max_bytes").map fun n => toSize n.toInt).getD 52428800) ∧
    result.1.database.maxEvents
        = some (((databaseInt tbl "max_events").map fun n => toSize n.toInt).getD 100000) ∧
    ∀ key ∈ ([ "max_bytes", "max_events" ] : List Bytes), ∀ n : Int64,
      databaseInt tbl key = some n → 0 < n.toInt := by
  obtain ⟨-, -, ⟨before, after, hdefault, hdatabase, hsame⟩, -, -⟩ := fromTable_sections h
  rw [hsame]
  unfold parseDatabaseSection at hdatabase
  unfold databaseInt
  cases hdb : tbl.getTable "database" with
  | none =>
    rw [hdb] at hdatabase
    cases hdatabase
    rw [hdefault]
    exact ⟨rfl, rfl, fun key _ n hn => by cases hn⟩
  | some db =>
    rw [hdb] at hdatabase
    obtain ⟨retention, -, hdatabase⟩ := bind_eq_ok.mp hdatabase
    obtain ⟨maxBytes, hbytes, hdatabase⟩ := bind_eq_ok.mp hdatabase
    obtain ⟨maxEvents, hevents, hdatabase⟩ := bind_eq_ok.mp hdatabase
    obtain ⟨rfl, hbytesPos⟩ := positiveInt_ok hbytes
    obtain ⟨rfl, heventsPos⟩ := positiveInt_ok hevents
    cases hdatabase
    refine ⟨?_, ?_, ?_⟩
    · show ((db.getInt "max_bytes").map fun n => toSize n.toInt).or before.database.maxBytes = _
      rw [hdefault, Option.bind_some]
      cases db.getInt "max_bytes" <;> rfl
    · show ((db.getInt "max_events").map fun n => toSize n.toInt).or before.database.maxEvents = _
      rw [hdefault, Option.bind_some]
      cases db.getInt "max_events" <;> rfl
    · intro key hkey
      rcases List.mem_pair.mp hkey with rfl | rfl
      · exact hbytesPos
      · exact heventsPos

end Database

end Config

end Holonight
