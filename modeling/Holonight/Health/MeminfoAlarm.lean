import Holonight.Base.Binary64
import Holonight.Health.OomAccount

/-!
# The meminfo alarm (`MemoryCollector.cpp`)

Without pressure information the collector reads `MemTotal` and `MemAvailable` from
`/proc/meminfo` and reports used memory at or above a threshold. Each field has a variable and a
flag. The flag is set when a line of the field could be read and stays set; the variable is also
written by a line that could not be read, and a field without a flag counts as 0 bytes.

**The alarm rests on measured values** exactly when the percentage that is computed from these
variables is not above the one of the values read last (`honest_iff`). It is far above when
`MemAvailable` is missing: then all memory counts as used (`missing_available_alarms`).

The rounding of the floating-point operations is a parameter.
-/

namespace Holonight

namespace MemoryCollector

/-! ## The lines of a field -/

/-- `stream >> kb`: what it stores, and whether it succeeds. Blanks alone store nothing, a text
without digits stores 0, and a number out of range the largest one. -/
def extractUInt64 (s : Bytes) : Option (UInt64 × Bool) :=
  let body := s.dropWhile isSpaceByte
  if body = [] then none
  else
    match readUInt64 s with
    | some (value, _) => some (value, true)
    | none =>
      some (if (readSign body).2.takeWhile isDigitByte = [] then 0 else UInt64.ofNat (2 ^ 64 - 1),
        false)

/-- The variable of a field and its flag. -/
structure FieldState where
  kb : UInt64 := 0
  found : Bool := false

/-- One line of a field. -/
def FieldState.read (f : FieldState) (s : Bytes) : FieldState :=
  match extractUInt64 s with
  | none => f
  | some (value, success) => { kb := value, found := f.found || success }

/-- The variables of the loop. -/
structure MeminfoState where
  total : FieldState := {}
  avail : FieldState := {}

def memTotal : Bytes := "MemTotal:"

def memAvailable : Bytes := "MemAvailable:"

/-- One pass of the loop (MemoryCollector.cpp:105–117). -/
def readLine (st : MeminfoState) (line : Bytes) : MeminfoState :=
  if memTotal.isPrefixOf line then { st with total := st.total.read (line.drop 9) }
  else if memAvailable.isPrefixOf line then { st with avail := st.avail.read (line.drop 13) }
  else st

/-- `(static_cast<double>(used) / static_cast<double>(total)) * 100.0`, rounded three times. -/
def roundedPercent (nearest : ℚ → ℚ) (used total : UInt64) : ℚ :=
  nearest (nearest (nearest used.toNat / nearest total.toNat) * 100)

/-- `parseMeminfo` (MemoryCollector.cpp:91–129) on the text of `/proc/meminfo`, if it could be
opened. -/
def parseMeminfo (nearest : ℚ → ℚ) (meminfo : Option Bytes) (metrics : MemoryMetrics) :
    MemoryMetrics :=
  match meminfo with
  | none => { metrics with meminfoSuccess := false }
  | some text =>
    let st := text |> Bytes.lines |>.foldl readLine {}
    if st.total.found = true ∧ 0 < st.total.kb then
      let totalBytes := st.total.kb * 1024
      let availableBytes := if st.avail.found then st.avail.kb * 1024 else 0
      let usedBytes := if totalBytes ≥ availableBytes then totalBytes - availableBytes else 0
      { metrics with
        totalBytes := totalBytes
        availableBytes := availableBytes
        usedBytes := usedBytes
        -- when the product has wrapped to 0, the used bytes are 0 too
        percentUsed :=
          some (if totalBytes = 0 then .nan else .finite (roundedPercent nearest usedBytes totalBytes))
        meminfoSuccess := true }
    else { metrics with meminfoSuccess := false }

/-- What `collectMetrics` reads before the OOM counter (MemoryCollector.cpp:212–216), when
`parsePsi` leaves the metrics `psi`. -/
def readMemory (nearest : ℚ → ℚ) (meminfo : Option Bytes) (psi : MemoryMetrics) : MemoryMetrics :=
  if psi.psiSuccess then psi else parseMeminfo nearest meminfo psi

/-! ## What the file says -/

/-- The texts behind the name of a field. -/
def fieldTexts (name : Bytes) (lines : List Bytes) : List Bytes :=
  lines.filterMap fun line => if name.isPrefixOf line then some (line.drop name.length) else none

/-- The value that is read from a text. -/
def readValue (s : Bytes) : Option UInt64 := (readUInt64 s).map Prod.fst

/-- The last value that was read of a field. -/
def lastRead (name text : Bytes) : Option UInt64 :=
  ((fieldTexts name (Bytes.lines text)).filterMap readValue).getLast?

/-- The value that is stored from a text. -/
def storedValue (s : Bytes) : Option UInt64 := (extractUInt64 s).map Prod.fst

/-- What the lines of a field leave in its variable. -/
def lastStored (name text : Bytes) : UInt64 :=
  ((fieldTexts name (Bytes.lines text)).filterMap storedValue).getLast?.getD 0

/-- The figures in bytes, modulo `2 ^ 64`. -/
def totalBytes (text : Bytes) : UInt64 := lastStored memTotal text * 1024

def availableBytes (text : Bytes) : UInt64 :=
  if (lastRead memAvailable text).isSome then lastStored memAvailable text * 1024 else 0

def usedBytes (text : Bytes) : UInt64 :=
  if totalBytes text ≥ availableBytes text then totalBytes text - availableBytes text else 0

section Reading

variable {name text : Bytes}

/-- What is stored with success is what is read. -/
theorem readValue_eq (s : Bytes) :
    readValue s = (extractUInt64 s).bind fun stored => if stored.2 then some stored.1 else none := by
  unfold readValue extractUInt64
  dsimp only
  split
  case isTrue hblank =>
    have hnone : readUInt64 s = none := by
      unfold readUInt64
      rw [hblank]
      rfl
    rw [hnone]
    rfl
  case isFalse =>
    cases readUInt64 s with
    | none => rfl
    | some value => rfl

/-- **One run** over the lines of a field. -/
theorem foldl_read (f : FieldState) (texts : List Bytes) :
    texts.foldl FieldState.read f
      = { kb := (texts.filterMap storedValue).getLast?.getD f.kb
          found := f.found || (texts.filterMap readValue).getLast?.isSome } := by
  induction texts generalizing f with
  | nil => exact (congrArg (FieldState.mk f.kb) (Bool.or_false _)).symm
  | cons s texts ih =>
    have hvalue := readValue_eq s
    rw [List.foldl_cons, ih, FieldState.read]
    cases hextract : extractUInt64 s with
    | none =>
      have hstored : storedValue s = none := by rw [storedValue, hextract]; rfl
      rw [hextract] at hvalue
      rw [List.filterMap_cons_none hstored, List.filterMap_cons_none hvalue]
    | some stored =>
      obtain ⟨value, success⟩ := stored
      have hstored : storedValue s = some value := by rw [storedValue, hextract]; rfl
      rw [hextract] at hvalue
      rw [List.filterMap_cons_some hstored, List.getLast?_cons, Option.getD_some]
      cases success with
      | true =>
        rw [List.filterMap_cons_some hvalue, List.getLast?_cons, Option.isSome_some, Bool.or_true]
        dsimp only
        rw [Bool.or_true, Bool.true_or]
      | false =>
        rw [List.filterMap_cons_none hvalue]
        dsimp only
        rw [Bool.or_false]

/-- A line is of one field. -/
theorem not_isPrefixOf_memAvailable {line : Bytes} (h : memTotal.isPrefixOf line = true) :
    ¬memAvailable.isPrefixOf line = true := by
  intro havail
  obtain ⟨rest, rfl⟩ := List.isPrefixOf_iff_prefix.mp h
  obtain ⟨rest', hrest⟩ := List.isPrefixOf_iff_prefix.mp havail
  -- the fourth bytes differ
  have hfourth := congrArg (fun s : Bytes => s[3]?) hrest
  rw [List.getElem?_append_left (by decide), List.getElem?_append_left (by decide)] at hfourth
  exact absurd hfourth (by decide)

/-- The two fields do not disturb each other. -/
theorem foldl_readLine (st : MeminfoState) (lines : List Bytes) :
    lines.foldl readLine st
      = { total := (fieldTexts memTotal lines).foldl FieldState.read st.total
          avail := (fieldTexts memAvailable lines).foldl FieldState.read st.avail } := by
  induction lines generalizing st with
  | nil => rfl
  | cons line lines ih =>
    rw [List.foldl_cons, ih, readLine]
    by_cases htotal : memTotal.isPrefixOf line = true
    · have havail := not_isPrefixOf_memAvailable htotal
      simp only [fieldTexts, List.filterMap_cons, htotal, havail, if_true, List.foldl_cons]
      rfl
    · by_cases havail : memAvailable.isPrefixOf line = true
      · simp only [fieldTexts, List.filterMap_cons, htotal, havail, if_true, List.foldl_cons]
        rfl
      · simp only [fieldTexts, List.filterMap_cons, htotal, havail]
        rfl

/-- What `parseMeminfo` makes of a text. -/
theorem parseMeminfo_some (nearest : ℚ → ℚ) (text : Bytes) (metrics : MemoryMetrics) :
    parseMeminfo nearest (some text) metrics
      = if (lastRead memTotal text).isSome = true ∧ 0 < lastStored memTotal text then
          { metrics with
            totalBytes := totalBytes text
            availableBytes := availableBytes text
            usedBytes := usedBytes text
            percentUsed :=
              some (if totalBytes text = 0 then .nan
                else .finite (roundedPercent nearest (usedBytes text) (totalBytes text)))
            meminfoSuccess := true }
        else { metrics with meminfoSuccess := false } := by
  have hfields : (Bytes.lines text).foldl readLine {}
      = { total := { kb := lastStored memTotal text, found := (lastRead memTotal text).isSome }
          avail := { kb := lastStored memAvailable text
                     found := (lastRead memAvailable text).isSome } } := by
    rw [foldl_readLine, foldl_read, foldl_read, Bool.false_or, Bool.false_or]
    rfl
  rw [parseMeminfo]
  dsimp only
  rw [hfields]
  rfl

end Reading

/-! ## What the alarm rests on -/

/-- The used part of the memory, in hundredths, is not below the threshold; in exact arithmetic,
and a negative difference is 0. -/
def ReachedBy (threshold : Double) (total available : UInt64) : Prop :=
  match threshold with
  | .finite q => q * total.toNat ≤ ((total.toNat - available.toNat : ℕ) : ℚ) * 100
  | .posInf => False
  | .negInf => True
  | .nan => False

/-- The attributes of an event about used memory. -/
def meminfoAttributes (total available used : ℕ) (percent : Double) : List (Bytes × Json) :=
  [("total_bytes", .uint total), ("available_bytes", .uint available), ("used_bytes", .uint used),
   ("percent_used", .float percent)]

/-- What an event about used memory promises of the values read and of the figures it reports. -/
structure Measured (lib : CppLib) (threshold : Double) (text : Bytes) (event : ObservationEvent) :
    Prop where
  values : ∃ total available, lastRead memTotal text = some total ∧
    lastRead memAvailable text = some available ∧ 0 < total ∧
    ReachedBy threshold total available
  figures : ∃ (total available used : ℕ) (percent : Double),
    Json.dump lib.jsonNumber (Json.object (meminfoAttributes total available used percent))
      = .ok event.attributesJson ∧
    (available ≤ total → used + available = total)

/-- Every alarm of a call that finds no pressure information and this text rests on measured
values. -/
def Honest (lib : CppLib) (nearest : ℚ → ℚ) (text : Bytes) : Prop :=
  ∀ (options : MemoryCollectorOptions) (baseline : Option UInt64) (psi : MemoryMetrics)
    (vmstat kmsg : Option Bytes) (clock : ℕ → TimePoint) (events : List ObservationEvent),
    psi.psiSuccess = false →
    ((collector lib options).step baseline
      { pressure := readMemory nearest (some text) psi, vmstat := vmstat, kmsg := kmsg,
        clock := clock }).2 = [.ok events] →
    ∀ event ∈ events, event.signal = Bytes.ofString "memory_used_high" →
      Measured lib options.meminfoWarningThreshold text event

/-- No total can be read or the total is 0 bytes, and nothing is computed; or both fields were
read and the rounded percentage of the bytes does not exceed the one of the values read. -/
def PercentHolds (nearest : ℚ → ℚ) (text : Bytes) : Prop :=
  lastRead memTotal text = none ∨ totalBytes text = 0 ∨
    ∃ total available, lastRead memTotal text = some total ∧
      lastRead memAvailable text = some available ∧ 0 < total ∧
      ReachedBy (.finite (roundedPercent nearest (usedBytes text) (totalBytes text))) total available

section Alarm

variable {lib : CppLib} {options : MemoryCollectorOptions} {metrics : MemoryMetrics}
  {nearest : ℚ → ℚ} {text : Bytes}

/-- A lower threshold is reached by the same values. -/
theorem ReachedBy.of_le {threshold : Double} {q : ℚ} {total available : UInt64}
    (h : ReachedBy (.finite q) total available) (hle : Double.le threshold (.finite q) = true) :
    ReachedBy threshold total available := by
  cases threshold with
  | finite p =>
    have hpq : p ≤ q := of_decide_eq_true hle
    calc p * total.toNat ≤ q * total.toNat := mul_le_mul_of_nonneg_right hpq (Nat.cast_nonneg _)
      _ ≤ ((total.toNat - available.toNat : ℕ) : ℚ) * 100 := h
  | posInf => cases hle
  | negInf => trivial
  | nan => cases hle

/-- The draft about used memory comes from a reading at or above its threshold. -/
theorem meminfoDraft_of_mem_drafts (hpsi : metrics.psiSuccess = false) {d : Draft}
    (hd : d ∈ drafts lib options metrics)
    (hsignal : d.signal = Bytes.ofString "memory_used_high") :
    metrics.meminfoSuccess = true ∧ ∃ value, metrics.percentUsed = some value ∧
      Double.le options.meminfoWarningThreshold value = true ∧ d = meminfoDraft metrics value := by
  unfold drafts at hd
  rcases List.mem_append.mp hd with hd | hd
  · rw [if_neg (by rw [hpsi]; exact Bool.false_ne_true)] at hd
    split at hd
    case isTrue hsuccess =>
      unfold alarm at hd
      split at hd
      case h_1 value hvalue =>
        split at hd
        case isTrue hle => exact ⟨hsuccess, value, hvalue, hle, List.mem_singleton.mp hd⟩
        case isFalse => exact absurd hd List.not_mem_nil
      case h_2 => exact absurd hd List.not_mem_nil
    case isFalse => exact absurd hd List.not_mem_nil
  · split at hd
    case h_1 delta hdelta =>
      split at hd
      case isTrue hpos =>
        rw [List.mem_singleton.mp hd] at hsignal
        exact absurd hsignal (by show Bytes.ofString "oom_killer_invoked" ≠ _; decide)
      case isFalse => exact absurd hd List.not_mem_nil
    case h_2 => exact absurd hd List.not_mem_nil

/-- The OOM counter does not touch what was read of the memory. -/
theorem collectMetrics_memory (baseline : Option UInt64) (pass : Pass) :
    (collectMetrics baseline pass).2.psiSuccess = pass.pressure.psiSuccess ∧
      (collectMetrics baseline pass).2.meminfoSuccess = pass.pressure.meminfoSuccess ∧
      (collectMetrics baseline pass).2.percentUsed = pass.pressure.percentUsed ∧
      meminfoDraft (collectMetrics baseline pass).2 = meminfoDraft pass.pressure := by
  unfold collectMetrics parseVmstatOom
  split
  case h_1 => exact ⟨rfl, rfl, rfl, rfl⟩
  case h_2 val hval =>
    dsimp only
    split
    case h_1 => exact ⟨rfl, rfl, rfl, rfl⟩
    case h_2 base =>
      split
      case isTrue =>
        dsimp only
        split
        case isTrue => exact ⟨rfl, rfl, rfl, rfl⟩
        case isFalse => exact ⟨rfl, rfl, rfl, rfl⟩
      case isFalse => exact ⟨rfl, rfl, rfl, rfl⟩

theorem emit_attributes {timestamp : TimePoint} {draft : Draft} {event : ObservationEvent}
    (h : emit lib timestamp draft = .ok event) :
    Json.dump lib.jsonNumber (Json.object draft.attributes) = .ok event.attributesJson := by
  obtain ⟨attributes, hdump, heq⟩ := bind_eq_ok.mp h
  cases heq
  exact hdump

/-- No threshold is below NaN. -/
theorem le_nan (threshold : Double) : Double.le threshold .nan = false := by
  cases threshold <;> rfl

/-- The guarded difference adds up. -/
theorem usedBytes_add_availableBytes
    (h : (availableBytes text).toNat ≤ (totalBytes text).toNat) :
    (usedBytes text).toNat + (availableBytes text).toNat = (totalBytes text).toNat := by
  have hle : availableBytes text ≤ totalBytes text := UInt64.le_iff_toNat_le.mpr h
  rw [usedBytes, if_pos hle, UInt64.toNat_sub_of_le _ _ hle]
  exact Nat.sub_add_cancel h

/-- What the metrics of a call hold of a text in which a total was found. -/
theorem parseMeminfo_success {psi : MemoryMetrics}
    (h : (parseMeminfo nearest (some text) psi).meminfoSuccess = true) :
    (lastRead memTotal text).isSome = true ∧
      (parseMeminfo nearest (some text) psi).percentUsed
        = some (if totalBytes text = 0 then .nan
            else .finite (roundedPercent nearest (usedBytes text) (totalBytes text))) ∧
      ∀ percent, (meminfoDraft (parseMeminfo nearest (some text) psi) percent).attributes
        = meminfoAttributes (totalBytes text).toNat (availableBytes text).toNat
            (usedBytes text).toNat percent := by
  rw [parseMeminfo_some] at h ⊢
  split at h
  case isTrue hfound =>
    rw [if_pos hfound]
    exact ⟨hfound.1, rfl, fun _ => rfl⟩
  case isFalse => cases h

theorem parseMeminfo_psiSuccess (nearest : ℚ → ℚ) (meminfo : Option Bytes) (psi : MemoryMetrics) :
    (parseMeminfo nearest meminfo psi).psiSuccess = psi.psiSuccess := by
  unfold parseMeminfo
  split
  case h_1 => rfl
  case h_2 text =>
    dsimp only
    split
    case isTrue => rfl
    case isFalse => rfl

/-- An event about used memory comes from a reading at or above the threshold. -/
theorem alarm_cases {baseline : Option UInt64} {pass : Pass} {events : List ObservationEvent}
    (hpsi : pass.pressure.psiSuccess = false)
    (hcall : collect lib options pass.clock (collectMetrics baseline pass).2 = .ok events)
    {event : ObservationEvent} (hevent : event ∈ events)
    (hsignal : event.signal = Bytes.ofString "memory_used_high") :
    pass.pressure.meminfoSuccess = true ∧ ∃ value, pass.pressure.percentUsed = some value ∧
      Double.le options.meminfoWarningThreshold value = true ∧
      Json.dump lib.jsonNumber (Json.object (meminfoDraft pass.pressure value).attributes)
        = .ok event.attributesJson := by
  obtain ⟨hsamePsi, hsameSuccess, hsamePercent, hsameDraft⟩ := collectMetrics_memory baseline pass
  obtain ⟨d, hd, timestamp, hemit⟩ := exists_draft hcall hevent
  obtain ⟨hsuccess, value, hvalue, hle, rfl⟩ := meminfoDraft_of_mem_drafts (hsamePsi.trans hpsi) hd
    ((emit_ok hemit).2.symm.trans hsignal)
  refine ⟨hsameSuccess.symm.trans hsuccess, value, hsamePercent.symm.trans hvalue, hle, ?_⟩
  rw [← hsameDraft]
  exact emit_attributes hemit

/-- Where the percentage holds, every alarm rests on measured values. -/
theorem honest_of_percentHolds (lib : CppLib) (h : PercentHolds nearest text) :
    Honest lib nearest text := by
  intro options baseline psi vmstat kmsg clock events hpsi hcall event hevent hsignal
  have hread : readMemory nearest (some text) psi = parseMeminfo nearest (some text) psi :=
    if_neg (by rw [hpsi]; exact Bool.false_ne_true)
  rw [hread] at hcall
  obtain ⟨hsuccess, value, hvalue, hle, hdump⟩ := alarm_cases
    ((parseMeminfo_psiSuccess nearest (some text) psi).trans hpsi) (List.singleton_inj.mp hcall)
    hevent hsignal
  obtain ⟨hfound, hpercent, hattributes⟩ := parseMeminfo_success hsuccess
  rw [hattributes] at hdump
  refine ⟨?_, _, _, _, _, hdump, usedBytes_add_availableBytes⟩
  have hcomputed := Option.some.inj (hpercent.symm.trans hvalue)
  rcases h with hnone | hzero | ⟨total, available, htotal, havailable, hpos, hreached⟩
  · rw [hnone] at hfound
    cases hfound
  · rw [if_pos hzero] at hcomputed
    rw [← hcomputed, le_nan] at hle
    cases hle
  · refine ⟨total, available, htotal, havailable, hpos, ?_⟩
    by_cases hzero : totalBytes text = 0
    · rw [if_pos hzero] at hcomputed
      rw [← hcomputed, le_nan] at hle
      cases hle
    · rw [if_neg hzero] at hcomputed
      rw [← hcomputed] at hle
      exact hreached.of_le hle

/-- A reading at or above the threshold raises the alarm; nothing else is reported when the OOM
counter cannot be read. -/
theorem alarm_raised (baseline : Option UInt64) {pass : Pass} {value : Double}
    (hvmstat : pass.vmstat = none) (hpsi : pass.pressure.psiSuccess = false)
    (hsuccess : pass.pressure.meminfoSuccess = true)
    (hvalue : pass.pressure.percentUsed = some value)
    (hle : Double.le options.meminfoWarningThreshold value = true) :
    ∃ event, collect lib options pass.clock (collectMetrics baseline pass).2 = .ok [event] ∧
      event.signal = Bytes.ofString "memory_used_high" := by
  have hdrafts : drafts lib options (collectMetrics baseline pass).2
      = [meminfoDraft pass.pressure value] := by
    have hquiet : (collectMetrics baseline pass).2.oomKillDelta = none := by
      unfold collectMetrics parseVmstatOom
      rw [hvmstat]
      rfl
    obtain ⟨hsamePsi, hsameSuccess, hsamePercent, hsameDraft⟩ :=
      collectMetrics_memory baseline pass
    unfold drafts alarm
    rw [hsamePsi, hsameSuccess, hsamePercent, hsameDraft, hquiet, hpsi, hsuccess, hvalue]
    simp [hle]
  have hok : (emit lib (pass.clock 0) (meminfoDraft pass.pressure value)).isOk = true :=
    emit_isOk (pass.clock 0) (meminfoDraft pass.pressure value)
  cases hemit : emit lib (pass.clock 0) (meminfoDraft pass.pressure value) with
  | error exn =>
    rw [hemit] at hok
    cases hok
  | ok event =>
    refine ⟨event, ?_, (emit_ok hemit).2⟩
    rw [collect, hdrafts, emitAll, hemit]
    rfl

/-- Where every alarm rests on measured values, the percentage holds: a threshold of just this
percentage raises the alarm. -/
theorem percentHolds_of_honest (h : Honest lib nearest text) : PercentHolds nearest text := by
  refine or_iff_not_imp_left.mpr fun hnone => or_iff_not_imp_left.mpr fun hzero => ?_
  have hstored : 0 < lastStored memTotal text := by
    rw [UInt64.pos_iff_ne_zero]
    intro hstored
    rw [totalBytes, hstored, UInt64.zero_mul] at hzero
    exact hzero rfl
  have hread := parseMeminfo_some nearest text {}
  rw [if_pos ⟨Option.isSome_iff_ne_none.mpr hnone, hstored⟩, if_neg hzero] at hread
  have hmemory : readMemory nearest (some text) {} = parseMeminfo nearest (some text) {} := rfl
  rw [hread] at hmemory
  generalize roundedPercent nearest (usedBytes text) (totalBytes text) = percent at hmemory ⊢
  have hle : Double.le (.finite percent) (.finite percent) = true := decide_eq_true le_rfl
  obtain ⟨event, hcall, hsignal⟩ := @alarm_raised lib
    { meminfoWarningThreshold := .finite percent } none
    { pressure := readMemory nearest (some text) {}, vmstat := none } _ rfl
    (by rw [hmemory]) (by rw [hmemory]) (by rw [hmemory]) hle
  exact (h _ none {} none none _ [event] rfl (congrArg (fun result => [result]) hcall) event
    List.mem_cons_self hsignal).values

end Alarm

/-- **The alarm rests on measured values** exactly where the computed percentage does not exceed
the one of the values read last. -/
theorem honest_iff (lib : CppLib) (nearest : ℚ → ℚ) (text : Bytes) :
    Honest lib nearest text ↔ PercentHolds nearest text :=
  ⟨percentHolds_of_honest, honest_of_percentHolds lib⟩

/-! ## What can go wrong -/

/-- The last line of a field that stores something is read, and the bytes fit. -/
structure WellRead (name text : Bytes) (value : UInt64) : Prop where
  read : lastRead name text = some value
  stored : lastStored name text = value
  fits : value.toNat * 1024 < 2 ^ 64

theorem WellRead.toNat_bytes {name text : Bytes} {value : UInt64} (h : WellRead name text value) :
    (lastStored name text * 1024).toNat = value.toNat * 1024 := by
  rw [h.stored, UInt64.toNat_mul]
  exact Nat.mod_eq_of_lt h.fits

/-- When both fields are well read only the rounding can lift the percentage. -/
theorem percentHolds_iff_of_wellRead {text : Bytes} {total available : UInt64}
    (nearest : ℚ → ℚ) (htotal : WellRead memTotal text total)
    (havailable : WellRead memAvailable text available) (hpos : 0 < total) :
    PercentHolds nearest text ↔
      ReachedBy (.finite (nearest (nearest
        (nearest ((total.toNat - available.toNat) * 1024 : ℕ) / nearest (total.toNat * 1024 : ℕ))
          * 100))) total available := by
  have htotalBytes : (totalBytes text).toNat = total.toNat * 1024 := htotal.toNat_bytes
  have havailableBytes : (availableBytes text).toNat = available.toNat * 1024 := by
    rw [availableBytes, havailable.read, Option.isSome_some, if_pos rfl]
    exact havailable.toNat_bytes
  have hused : (usedBytes text).toNat = (total.toNat - available.toNat) * 1024 := by
    rw [Nat.sub_mul, ← htotalBytes, ← havailableBytes]
    by_cases hle : (availableBytes text).toNat ≤ (totalBytes text).toNat
    · exact (Nat.sub_eq_of_eq_add (usedBytes_add_availableBytes hle).symm).symm
    · rw [usedBytes, if_neg fun h => hle (UInt64.le_iff_toNat_le.mp h)]
      exact (Nat.sub_eq_zero_of_le (Nat.le_of_not_le hle)).symm
  have hne : totalBytes text ≠ 0 := by
    intro hzero
    have hbytes : 0 = total.toNat * 1024 := (congrArg UInt64.toNat hzero).symm.trans htotalBytes
    have htoNat : 0 < total.toNat := UInt64.lt_iff_toNat_lt.mp hpos
    omega
  rw [PercentHolds, roundedPercent, hused, htotalBytes, htotal.read, havailable.read]
  constructor
  · rintro (hnone | hzero | ⟨total', available', ⟨⟩, ⟨⟩, -, hreached⟩)
    · cases hnone
    · exact absurd hzero hne
    · exact hreached
  · intro hreached
    exact Or.inr (Or.inr ⟨total, available, rfl, rfl, hpos, hreached⟩)

/-- Without `MemAvailable` the percentage never holds: all memory counts as used. -/
theorem not_percentHolds_of_missing {nearest : ℚ → ℚ} {text : Bytes}
    (htotal : lastRead memTotal text ≠ none) (hbytes : totalBytes text ≠ 0)
    (hmissing : lastRead memAvailable text = none) : ¬PercentHolds nearest text := by
  rintro (hnone | hzero | ⟨total, available, -, havailable, -⟩)
  · exact htotal hnone
  · exact hbytes hzero
  · rw [hmissing] at havailable
    cases havailable

/-- The fields of a kernel that does not know `MemAvailable`. -/
def withoutAvailable : Bytes := "MemTotal:       1000000 kB\nMemFree:         900000 kB\n"

/-- Such a file raises an alarm that rests on no measured value. -/
theorem missing_available_alarms :
    ¬∀ lib nearest text, RoundsToNearest nearest → Honest lib nearest text := fun h =>
  not_percentHolds_of_missing (by decide +kernel) (by decide +kernel) (by decide +kernel)
    (percentHolds_of_honest
      (h .integral nearestDouble withoutAvailable roundsToNearest_nearestDouble))

end MemoryCollector

end Holonight
