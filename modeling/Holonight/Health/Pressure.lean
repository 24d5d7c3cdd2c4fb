import Holonight.Base.Binary64
import Holonight.Base.Words
import Holonight.Health.MeminfoAlarm

/-!
# The pressure figures (`MemoryCollector.cpp`)

`/proc/pressure/memory` has a line `some` and a line `full`, each with four figures `name=value`.
`parsePsi` reads lines and figures in any order and any number: a figure that `std::stod` does not
read leaves the variable as it was, so that in the end each variable holds **the last figure that
could be read** (`parsePsi_eq`).

- `memory_alarms_reported`: whatever the files of `/proc` hold, the two pressure alarms are decided by the
  last readable `avg10` of their line alone, and used memory is reported only when no `avg10` was
  readable at all.
- `psi_reads_back`: on the text of the kernel the figures are the doubles nearest to its own.
-/

namespace Holonight

namespace MemoryCollector

/-! ## The code -/

/-- The four variables that a line sets. -/
structure PsiFigures where
  avg10 : Option Double := none
  avg60 : Option Double := none
  avg300 : Option Double := none
  total : Option Double := none

/-- `std::stod(token.substr(skip))`; what was there stays when it throws. -/
def readFigure (lib : CppLib) (token : Bytes) (skip : ℕ) (before : Option Double) :
    Option Double :=
  (lib.stod (token.drop skip)).or before

/-- One token (MemoryCollector.cpp:41–61). -/
def readToken (lib : CppLib) (figures : PsiFigures) (token : Bytes) : PsiFigures :=
  if (Bytes.ofString "avg10=").isPrefixOf token then
    { figures with avg10 := readFigure lib token 6 figures.avg10 }
  else if (Bytes.ofString "avg60=").isPrefixOf token then
    { figures with avg60 := readFigure lib token 6 figures.avg60 }
  else if (Bytes.ofString "avg300=").isPrefixOf token then
    { figures with avg300 := readFigure lib token 7 figures.avg300 }
  else if (Bytes.ofString "total=").isPrefixOf token then
    { figures with total := readFigure lib token 6 figures.total }
  else figures

/-- `parsePsiLine` (MemoryCollector.cpp:33–63); the first token is skipped. -/
def parsePsiLine (lib : CppLib) (line : Bytes) (figures : PsiFigures) : PsiFigures :=
  (wordsBy isSpaceByte line).tail.foldl (readToken lib) figures

/-- The variables of the loop. -/
structure PsiState where
  some : PsiFigures := {}
  full : PsiFigures := {}
  parsedSome : Bool := false
  parsedFull : Bool := false

def someLine : Bytes := "some "

def fullLine : Bytes := "full "

/-- One pass of the loop (MemoryCollector.cpp:77–85). -/
def readPsiLine (lib : CppLib) (st : PsiState) (line : Bytes) : PsiState :=
  if someLine.isPrefixOf line then
    let figures := parsePsiLine lib line st.some
    { st with some := figures, parsedSome := figures.avg10.isSome }
  else if fullLine.isPrefixOf line then
    let figures := parsePsiLine lib line st.full
    { st with full := figures, parsedFull := figures.avg10.isSome }
  else st

/-- `parsePsi` (MemoryCollector.cpp:65–89) on the text of `/proc/pressure/memory`, if it could be
opened. -/
def parsePsi (lib : CppLib) (psi : Option Bytes) (metrics : MemoryMetrics) : MemoryMetrics :=
  match psi with
  | none => { metrics with psiSuccess := false }
  | some text =>
    let st := (Bytes.lines text).foldl (readPsiLine lib)
      { some := ⟨metrics.psiSomeAvg10, metrics.psiSomeAvg60, metrics.psiSomeAvg300,
          metrics.psiSomeTotal⟩
        full := ⟨metrics.psiFullAvg10, metrics.psiFullAvg60, metrics.psiFullAvg300,
          metrics.psiFullTotal⟩ }
    { metrics with
      psiSomeAvg10 := st.some.avg10
      psiSomeAvg60 := st.some.avg60
      psiSomeAvg300 := st.some.avg300
      psiSomeTotal := st.some.total
      psiFullAvg10 := st.full.avg10
      psiFullAvg60 := st.full.avg60
      psiFullAvg300 := st.full.avg300
      psiFullTotal := st.full.total
      psiSuccess := st.parsedSome || st.parsedFull }

/-- The files of `/proc` that the collector reads, those that can be opened. -/
structure ProcFiles where
  psi : Option Bytes
  meminfo : Option Bytes
  vmstat : Option Bytes
  kmsg : Option Bytes := none

/-- One call (MemoryCollector.cpp:211–219). -/
def ProcFiles.pass (lib : CppLib) (nearest : ℚ → ℚ) (files : ProcFiles) (clock : ℕ → TimePoint) :
    Pass where
  pressure := readMemory nearest files.meminfo (parsePsi lib files.psi {})
  vmstat := files.vmstat
  kmsg := files.kmsg
  clock := clock

/-! ## What the file says -/

/-- The tokens of the lines of a family, without the first of each line. -/
def figureTokens (family : Bytes) (lines : List Bytes) : List Bytes :=
  (lines.filter family.isPrefixOf).flatMap fun line => (wordsBy isSpaceByte line).tail

/-- The value of a token, when it is of this name and can be read. -/
def valueOf (lib : CppLib) (name token : Bytes) : Option Double :=
  if name.isPrefixOf token then lib.stod (token.drop name.length) else none

/-- The last value of a name that can be read. -/
def lastValue (lib : CppLib) (name : Bytes) (tokens : List Bytes) : Option Double :=
  (tokens.filterMap (valueOf lib name)).getLast?

/-- The figure of a file, if it is open. -/
def figure (lib : CppLib) (family name : Bytes) (psi : Option Bytes) : Option Double :=
  psi.bind fun text => lastValue lib name (figureTokens family (Bytes.lines text))

/-- The names of the figures. -/
def figureNames : List Bytes := [ "avg10=", "avg60=", "avg300=", "total=" ]

section Reading

variable {lib : CppLib} {name token : Bytes} {figures : PsiFigures} {st : PsiState}

/-- A token is of one name. -/
theorem not_isPrefixOf_of_ne {other : Bytes} (hname : name ∈ figureNames)
    (hother : other ∈ figureNames) (hne : other ≠ name) (h : name.isPrefixOf token = true) :
    other.isPrefixOf token = false := by
  have hapart : ∀ p ∈ figureNames, ∀ q ∈ figureNames, p <+: q → p = q := by decide
  refine Bool.eq_false_iff.mpr fun h' => hne ?_
  rcases List.prefix_or_prefix_of_prefix (List.isPrefixOf_iff_prefix.mp h)
    (List.isPrefixOf_iff_prefix.mp h') with hle | hle
  · exact (hapart name hname other hother hle).symm
  · exact hapart other hother name hname hle

theorem valueOf_of_isPrefixOf (h : name.isPrefixOf token = true) :
    valueOf lib name token = lib.stod (token.drop name.length) := if_pos h

/-- So it has no value of another name. -/
theorem valueOf_eq_none (hname : name ∈ figureNames) (h : name.isPrefixOf token = true) :
    ∀ other ∈ figureNames, other ≠ name → valueOf lib other token = none := by
  intro other hother hne
  refine if_neg ?_
  rw [not_isPrefixOf_of_ne hname hother hne h]
  exact Bool.false_ne_true

/-- One token, figure by figure. -/
theorem readToken_eq (lib : CppLib) (figures : PsiFigures) (token : Bytes) :
    readToken lib figures token
      = { avg10 := (valueOf lib "avg10=" token).or figures.avg10
          avg60 := (valueOf lib "avg60=" token).or figures.avg60
          avg300 := (valueOf lib "avg300=" token).or figures.avg300
          total := (valueOf lib "total=" token).or figures.total } := by
  unfold readToken
  split
  case isTrue h =>
    have hothers := @valueOf_eq_none lib "avg10=" token (by decide) h
    rw [valueOf_of_isPrefixOf h, hothers "avg60=" (by decide) (by decide),
      hothers "avg300=" (by decide) (by decide), hothers "total=" (by decide) (by decide)]
    rfl
  case isFalse h10 =>
    have hnone10 : valueOf lib "avg10=" token = none := if_neg h10
    rw [hnone10]
    split
    case isTrue h =>
      have hothers := @valueOf_eq_none lib "avg60=" token (by decide) h
      rw [valueOf_of_isPrefixOf h, hothers "avg300=" (by decide) (by decide),
        hothers "total=" (by decide) (by decide)]
      rfl
    case isFalse h60 =>
      have hnone60 : valueOf lib "avg60=" token = none := if_neg h60
      rw [hnone60]
      split
      case isTrue h =>
        have hothers := @valueOf_eq_none lib "avg300=" token (by decide) h
        rw [valueOf_of_isPrefixOf h, hothers "total=" (by decide) (by decide)]
        rfl
      case isFalse h300 =>
        have hnone300 : valueOf lib "avg300=" token = none := if_neg h300
        rw [hnone300]
        split
        case isTrue h =>
          rw [valueOf_of_isPrefixOf h]
          rfl
        case isFalse htotal =>
          have hnone : valueOf lib "total=" token = none := if_neg htotal
          rw [hnone]
          rfl

theorem lastValue_cons (token : Bytes) (tokens : List Bytes) :
    lastValue lib name (token :: tokens)
      = (lastValue lib name tokens).or (valueOf lib name token) := by
  unfold lastValue
  cases hvalue : valueOf lib name token with
  | none => rw [List.filterMap_cons_none hvalue, Option.or_none]
  | some value =>
    rw [List.filterMap_cons_some hvalue, List.getLast?_cons]
    cases (tokens.filterMap (valueOf lib name)).getLast? with
    | none => rfl
    | some last => rfl

/-- The tokens of a line, or of several. -/
theorem foldl_readToken (tokens : List Bytes) (figures : PsiFigures) :
    tokens.foldl (readToken lib) figures
      = { avg10 := (lastValue lib "avg10=" tokens).or figures.avg10
          avg60 := (lastValue lib "avg60=" tokens).or figures.avg60
          avg300 := (lastValue lib "avg300=" tokens).or figures.avg300
          total := (lastValue lib "total=" tokens).or figures.total } := by
  induction tokens generalizing figures with
  | nil => rfl
  | cons token tokens ih =>
    rw [List.foldl_cons, ih, readToken_eq]
    simp only [lastValue_cons, Option.or_assoc]

/-- The state that has read these figures. -/
def PsiState.having (some full : PsiFigures) : PsiState where
  some := some
  full := full
  parsedSome := some.avg10.isSome
  parsedFull := full.avg10.isSome

theorem not_isPrefixOf_fullLine {line : Bytes} (h : someLine.isPrefixOf line = true) :
    fullLine.isPrefixOf line = false := by
  refine Bool.eq_false_iff.mpr fun h' => ?_
  rcases List.prefix_or_prefix_of_prefix (List.isPrefixOf_iff_prefix.mp h)
    (List.isPrefixOf_iff_prefix.mp h') with hle | hle
  · exact absurd hle (by decide)
  · exact absurd hle (by decide)

/-- **The loop**: each family has read its own lines. -/
theorem foldl_readPsiLine (lines : List Bytes) (some full : PsiFigures) :
    lines.foldl (readPsiLine lib) (.having some full)
      = .having ((figureTokens someLine lines).foldl (readToken lib) some)
          ((figureTokens fullLine lines).foldl (readToken lib) full) := by
  induction lines generalizing some full with
  | nil => rfl
  | cons line lines ih =>
    rw [List.foldl_cons]
    unfold figureTokens at ih ⊢
    by_cases hsome : someLine.isPrefixOf line = true
    · have hstep : readPsiLine lib (.having some full) line
          = .having (parsePsiLine lib line some) full := by
        unfold readPsiLine
        rw [if_pos hsome]
        rfl
      rw [hstep, ih, List.filter_cons_of_pos hsome, List.flatMap_cons, List.foldl_append,
        List.filter_cons_of_neg (by rw [not_isPrefixOf_fullLine hsome]; exact Bool.false_ne_true)]
      rfl
    · rw [List.filter_cons_of_neg hsome]
      by_cases hfull : fullLine.isPrefixOf line = true
      · have hstep : readPsiLine lib (.having some full) line
            = .having some (parsePsiLine lib line full) := by
          unfold readPsiLine
          rw [if_neg hsome, if_pos hfull]
          rfl
        rw [hstep, ih, List.filter_cons_of_pos hfull, List.flatMap_cons, List.foldl_append]
        rfl
      · have hstep : readPsiLine lib (.having some full) line = .having some full := by
          unfold readPsiLine
          rw [if_neg hsome, if_neg hfull]
        rw [hstep, ih, List.filter_cons_of_neg hfull]

/-- **What is read** of the file: each figure is the last one that could be read. -/
theorem parsePsi_eq (lib : CppLib) (psi : Option Bytes) :
    parsePsi lib psi {}
      = { psiSomeAvg10 := figure lib someLine "avg10=" psi
          psiSomeAvg60 := figure lib someLine "avg60=" psi
          psiSomeAvg300 := figure lib someLine "avg300=" psi
          psiSomeTotal := figure lib someLine "total=" psi
          psiFullAvg10 := figure lib fullLine "avg10=" psi
          psiFullAvg60 := figure lib fullLine "avg60=" psi
          psiFullAvg300 := figure lib fullLine "avg300=" psi
          psiFullTotal := figure lib fullLine "total=" psi
          psiSuccess := (figure lib someLine "avg10=" psi).isSome
            || (figure lib fullLine "avg10=" psi).isSome } := by
  cases psi with
  | none => rfl
  | some text =>
    have hloop := @foldl_readPsiLine lib (Bytes.lines text) {} {}
    rw [foldl_readToken, foldl_readToken] at hloop
    simp only [Option.or_none] at hloop
    unfold parsePsi
    dsimp only
    rw [show ({ some := ⟨none, none, none, none⟩, full := ⟨none, none, none, none⟩ } : PsiState)
      = .having {} {} from rfl, hloop]
    rfl

end Reading

/-! ## The alarms -/

/-- What an event says of the memory. -/
abbrev Alarm := Bytes × Severity × EventValue

/-- The alarm of a reading at or above its threshold. -/
def alarmAt (signal : Bytes) (severity : Severity) (threshold : Double) (reading : Option Double) :
    List Alarm :=
  (alarm threshold reading fun value =>
    { subject := [], signal := signal, severity := severity, value := value, attributes := [] }).map
      fun draft => (draft.signal, draft.severity, .double draft.value)

/-- The percentage of used memory, when it can be computed. -/
def usedPercent (nearest : ℚ → ℚ) (meminfo : Option Bytes) : Option Double :=
  let metrics := parseMeminfo nearest meminfo {}
  if metrics.meminfoSuccess then metrics.percentUsed else none

/-- The alarms that the files call for, beside those about OOM kills. -/
def memoryAlarms (lib : CppLib) (nearest : ℚ → ℚ) (options : MemoryCollectorOptions)
    (files : ProcFiles) : List Alarm :=
  let some10 := figure lib someLine "avg10=" files.psi
  let full10 := figure lib fullLine "avg10=" files.psi
  if some10.isSome || full10.isSome then
    alarmAt "memory_pressure_some" .warning options.someWarningThreshold some10 ++
      alarmAt "memory_pressure_full" .critical options.fullCriticalThreshold full10
  else
    alarmAt "memory_used_high" .warning options.meminfoWarningThreshold
      (usedPercent nearest files.meminfo)

/-- A call gives these alarms, in this order, beside those about OOM kills; it fails only for the
name of an OOM victim. -/
def Gives (alarms : List Alarm) (metrics : MemoryMetrics) :
    Except Exn (List ObservationEvent) → Prop
  | .ok events =>
    (events.filter fun event => !isOomEvent event).map
      (fun event => (event.signal, event.severity, event.value)) = alarms
  | .error _ => ¬ Serialisable metrics

section Alarms

variable {lib : CppLib} {options : MemoryCollectorOptions} {metrics : MemoryMetrics}
  {clock : ℕ → TimePoint} {nearest : ℚ → ℚ}

/-- The alarm of a draft. -/
def Draft.toAlarm (draft : Draft) : Alarm := (draft.signal, draft.severity, .double draft.value)

/-- The events say what their drafts say. -/
theorem map_emitAll {made : ℕ} {ds : List Draft} {events : List ObservationEvent}
    (h : emitAll lib clock made ds = .ok events) :
    events.map (fun event => (event.signal, event.severity, event.value))
      = ds.map Draft.toAlarm := by
  induction ds generalizing made events with
  | nil =>
    cases h
    rfl
  | cons d rest ih =>
    obtain ⟨first, hfirst, hrest⟩ := bind_eq_ok.mp h
    obtain ⟨later, hlater, heq⟩ := bind_eq_ok.mp hrest
    obtain ⟨attributes, -, hevent⟩ := bind_eq_ok.mp hfirst
    cases heq
    cases hevent
    rw [List.map_cons, List.map_cons, ih hlater]
    rfl

/-- The alarm of a reading is the one of its draft, whatever else the draft says. -/
theorem map_toAlarm_alarm {signal : Bytes} {severity : Severity} {threshold : Double}
    {reading : Option Double} {draft : Double → Draft}
    (hdraft : ∀ value, (draft value).toAlarm = (signal, severity, .double value)) :
    (alarm threshold reading draft).map Draft.toAlarm
      = alarmAt signal severity threshold reading := by
  unfold alarmAt alarm
  cases reading with
  | none => rfl
  | some value =>
    dsimp only
    split
    case isTrue =>
      rw [List.map_singleton, hdraft]
      rfl
    case isFalse => rfl

theorem signal_of_mem_alarmAt {signal : Bytes} {severity : Severity} {threshold : Double}
    {reading : Option Double} {a : Alarm} (h : a ∈ alarmAt signal severity threshold reading) :
    a.1 = signal := by
  obtain ⟨draft, hdraft, rfl⟩ := List.mem_map.mp h
  obtain ⟨value, rfl⟩ := mem_alarm hdraft
  rfl

/-- No alarm of the files is about OOM kills. -/
theorem signal_of_mem_memoryAlarms {files : ProcFiles} {a : Alarm}
    (h : a ∈ memoryAlarms lib nearest options files) :
    a.1 ≠ Bytes.ofString "oom_killer_invoked" := by
  unfold memoryAlarms at h
  dsimp only at h
  split at h
  · rcases List.mem_append.mp h with h | h
    · rw [signal_of_mem_alarmAt h]
      decide
    · rw [signal_of_mem_alarmAt h]
      decide
  · rw [signal_of_mem_alarmAt h]
    decide

/-- The OOM counter does not touch the figures. -/
theorem collectMetrics_psi (baseline : Option UInt64) (pass : Pass) :
    (collectMetrics baseline pass).2.psiSomeAvg10 = pass.pressure.psiSomeAvg10 ∧
      (collectMetrics baseline pass).2.psiFullAvg10 = pass.pressure.psiFullAvg10 := by
  unfold collectMetrics parseVmstatOom
  split
  case h_1 => exact ⟨rfl, rfl⟩
  case h_2 val hval =>
    dsimp only
    split
    case h_1 => exact ⟨rfl, rfl⟩
    case h_2 base =>
      split
      case isTrue =>
        dsimp only
        split
        case isTrue => exact ⟨rfl, rfl⟩
        case isFalse => exact ⟨rfl, rfl⟩
      case isFalse => exact ⟨rfl, rfl⟩

/-- The percentage does not depend on the pressure figures. -/
theorem parseMeminfo_used (nearest : ℚ → ℚ) (meminfo : Option Bytes) (metrics : MemoryMetrics) :
    (if (parseMeminfo nearest meminfo metrics).meminfoSuccess then
        (parseMeminfo nearest meminfo metrics).percentUsed else none)
      = usedPercent nearest meminfo := by
  unfold usedPercent
  dsimp only
  cases meminfo with
  | none => rfl
  | some text =>
    rw [parseMeminfo_some, parseMeminfo_some]
    split
    case isTrue => rfl
    case isFalse => rfl

/-- After the drafts about the memory come those about OOM kills. -/
theorem drafts_eq_append (metrics : MemoryMetrics) :
    ∃ ooms, drafts lib options metrics =
        (if metrics.psiSuccess then
          alarm options.someWarningThreshold metrics.psiSomeAvg10 (someDraft metrics)
            ++ alarm options.fullCriticalThreshold metrics.psiFullAvg10 (fullDraft metrics)
        else if metrics.meminfoSuccess then
          alarm options.meminfoWarningThreshold metrics.percentUsed (meminfoDraft metrics)
        else []) ++ ooms ∧
      ∀ draft ∈ ooms, draft.signal = Bytes.ofString "oom_killer_invoked" := by
  refine ⟨_, rfl, fun draft hdraft => ?_⟩
  split at hdraft
  case h_1 delta hdelta =>
    rw [List.mem_singleton.mp (List.mem_ite_nil_right.mp hdraft).2]
    rfl
  case h_2 => cases hdraft

/-- The drafts about the memory, as alarms. -/
theorem map_toAlarm_drafts (baseline : Option UInt64) (files : ProcFiles) :
    ∃ ooms : List Alarm, (∀ a ∈ ooms, a.1 = Bytes.ofString "oom_killer_invoked") ∧
      (drafts lib options (collectMetrics baseline (files.pass lib nearest clock)).2).map
          Draft.toAlarm = memoryAlarms lib nearest options files ++ ooms := by
  generalize hread : (collectMetrics baseline (files.pass lib nearest clock)).2 = metrics
  obtain ⟨ooms, hdrafts, hooms⟩ := @drafts_eq_append lib options metrics
  refine ⟨ooms.map Draft.toAlarm, ?_, ?_⟩
  · intro a ha
    obtain ⟨draft, hdraft, rfl⟩ := List.mem_map.mp ha
    exact hooms draft hdraft
  · obtain ⟨hpsi, hmeminfo, hpercent, -⟩ :=
      collectMetrics_memory baseline (files.pass lib nearest clock)
    obtain ⟨hsome, hfull⟩ := collectMetrics_psi baseline (files.pass lib nearest clock)
    rw [hread] at hpsi hmeminfo hpercent hsome hfull
    rw [hdrafts, List.map_append]
    refine congrArg (· ++ _) ?_
    have hparsed := parsePsi_eq lib files.psi
    by_cases hsuccess : (parsePsi lib files.psi {}).psiSuccess = true
    · have hmemory : (files.pass lib nearest clock).pressure = parsePsi lib files.psi {} :=
        if_pos hsuccess
      rw [hmemory] at hpsi hsome hfull
      have hfound : ((figure lib someLine "avg10=" files.psi).isSome
          || (figure lib fullLine "avg10=" files.psi).isSome) = true := by
        rw [hparsed] at hsuccess
        exact hsuccess
      have hsomeAlarm : ∀ threshold reading,
          (alarm threshold reading (someDraft metrics)).map Draft.toAlarm
            = alarmAt "memory_pressure_some" .warning threshold reading :=
        fun _ _ => map_toAlarm_alarm fun _ => rfl
      have hfullAlarm : ∀ threshold reading,
          (alarm threshold reading (fullDraft metrics)).map Draft.toAlarm
            = alarmAt "memory_pressure_full" .critical threshold reading :=
        fun _ _ => map_toAlarm_alarm fun _ => rfl
      rw [if_pos (hpsi.trans hsuccess), hsome, hfull, hparsed, List.map_append, hsomeAlarm,
        hfullAlarm, memoryAlarms, if_pos hfound]
    · have hmemory : (files.pass lib nearest clock).pressure
          = parseMeminfo nearest files.meminfo (parsePsi lib files.psi {}) := if_neg hsuccess
      rw [hmemory] at hpsi hmeminfo hpercent
      rw [parseMeminfo_psiSuccess] at hpsi
      have hfound : ¬ ((figure lib someLine "avg10=" files.psi).isSome
          || (figure lib fullLine "avg10=" files.psi).isSome) = true := by
        rw [hparsed] at hsuccess
        exact hsuccess
      have husedAlarm : ∀ threshold reading,
          (alarm threshold reading (meminfoDraft metrics)).map Draft.toAlarm
            = alarmAt "memory_used_high" .warning threshold reading :=
        fun _ _ => map_toAlarm_alarm fun _ => rfl
      have hnone : ¬ metrics.psiSuccess = true := by
        rw [hpsi]
        exact hsuccess
      rw [if_neg hnone, memoryAlarms, if_neg hfound,
        ← parseMeminfo_used nearest files.meminfo (parsePsi lib files.psi {}), ← hmeminfo,
        ← hpercent]
      split
      case isTrue => exact husedAlarm _ _
      case isFalse => rfl

/-- **What the files call for is reported**, and nothing else of the memory, whatever the files
hold, in every call of every run: the pressure alarms as the last readable averages say, and one
about used memory only when there is none. -/
theorem memory_alarms_reported (lib : CppLib) (nearest : ℚ → ℚ) (options : MemoryCollectorOptions)
    (files : ProcFiles) (clock : ℕ → TimePoint) (baseline : Option UInt64) :
    ∃ result, ((collector lib options).step baseline (files.pass lib nearest clock)).2 = [result] ∧
      Gives (memoryAlarms lib nearest options files)
        (collectMetrics baseline (files.pass lib nearest clock)).2 result := by
  refine ⟨_, rfl, ?_⟩
  obtain ⟨ooms, hooms, hdrafts⟩ := @map_toAlarm_drafts lib options clock nearest baseline files
  show Gives _ _ (collect lib options clock (collectMetrics baseline _).2)
  generalize (collectMetrics baseline (files.pass lib nearest clock)).2 = metrics at hdrafts ⊢
  cases hcall : collect lib options clock metrics with
  | error exn =>
    intro hserialisable
    have hok := (@collect_isOk lib options metrics clock).mpr hserialisable
    rw [hcall] at hok
    cases hok
  | ok events =>
    have hmap := (map_emitAll hcall).trans hdrafts
    show (events.filter fun event => !isOomEvent event).map _ = _
    have hfilter : (events.filter fun event => !isOomEvent event)
        = events.filter ((fun a : Alarm => !decide (a.1 = Bytes.ofString "oom_killer_invoked")) ∘
            fun event => (event.signal, event.severity, event.value)) :=
      List.filter_congr fun _ _ => rfl
    rw [hfilter, ← List.filter_map, hmap, List.filter_append]
    have hkept : (memoryAlarms lib nearest options files).filter
        (fun a => !decide (a.1 = Bytes.ofString "oom_killer_invoked"))
          = memoryAlarms lib nearest options files := by
      refine List.filter_eq_self.mpr fun a ha => ?_
      rw [decide_eq_false (signal_of_mem_memoryAlarms ha)]
      rfl
    have hdropped : ooms.filter (fun a => !decide (a.1 = Bytes.ofString "oom_killer_invoked"))
        = [] := by
      refine List.filter_eq_nil_iff.mpr fun a ha => ?_
      rw [decide_eq_true (hooms a ha)]
      exact Bool.false_ne_true
    rw [hkept, hdropped, List.append_nil]

end Alarms

/-! ## The text of the kernel -/

/-- The figures of a line as the kernel has them: averages in hundredths, a total in microseconds. -/
structure KernelFigures where
  avg10 : UInt64
  avg60 : UInt64
  avg300 : UInt64
  total : UInt64

/-- Two digits, with a zero in front. -/
def twoDigits (k : ℕ) : Bytes := List.replicate (2 - (decimalNat k).length) 48 ++ decimalNat k

/-- `%lu.%02lu`; 46 is the point. -/
def hundredths (n : UInt64) : Bytes :=
  decimalNat (n.toNat / 100) ++ 46 :: twoDigits (n.toNat % 100)

/-- The figures with their names. -/
def KernelFigures.fields (f : KernelFigures) : List (Bytes × Bytes) :=
  [ ("avg10=", hundredths f.avg10), ("avg60=", hundredths f.avg60),
    ("avg300=", hundredths f.avg300), ("total=", decimalNat f.total.toNat) ]

def KernelFigures.tokens (f : KernelFigures) : List Bytes :=
  f.fields.map fun field => field.1 ++ field.2

/-- A line without its newline: the name of the family and the figures, a space before each. -/
def pressureLine (family : Bytes) (f : KernelFigures) : Bytes :=
  family ++ f.tokens.flatMap fun token => 32 :: token

/-- The contents of `/proc/pressure/memory`. -/
def pressureText (someTasks allTasks : KernelFigures) : Bytes :=
  [ pressureLine "some" someTasks, pressureLine "full" allTasks ].flatMap fun line => line ++ [10]

section Kernel

variable {lib : CppLib} {f : KernelFigures}

theorem length_twoDigits {k : ℕ} (hk : k < 100) : (twoDigits k).length = 2 := by
  have hlength : (decimalNat k).length ≤ 2 := by
    unfold decimalNat
    split
    · decide
    · rw [List.length_reverse, List.length_map]
      exact (Nat.digits_length_le_iff (by decide) k).mpr hk
  unfold twoDigits
  rw [List.length_append, List.length_replicate]
  omega

theorem isDigitByte_of_mem_twoDigits {k : ℕ} {b : UInt8} (hb : b ∈ twoDigits k) :
    isDigitByte b = true := by
  rcases List.mem_append.mp hb with hzero | hdigit
  · rw [List.eq_of_mem_replicate hzero]
    rfl
  · exact isDigitByte_of_mem_decimalNat hdigit

/-- The text of an average denotes it. -/
theorem decimalValue_hundredths (n : UInt64) :
    decimalValue (hundredths n) = some (n.toNat / 100 : ℚ) := by
  have hsplit : ((n.toNat / 100 : ℕ) : ℚ) * 100 + ((n.toNat % 100 : ℕ) : ℚ) = n.toNat := by
    exact_mod_cast (by omega : n.toNat / 100 * 100 + n.toNat % 100 = n.toNat)
  obtain ⟨b, hhead, hb⟩ := exists_head_decimalNat (n.toNat / 100) (46 :: twoDigits (n.toNat % 100))
  rw [hundredths, decimalValue_of_digit hhead hb,
    unsignedDecimal_point (fun b hb => isDigitByte_of_mem_decimalNat hb) (decimalNat_ne_nil _)
      (fun b hb => isDigitByte_of_mem_twoDigits hb),
    length_twoDigits (Nat.mod_lt _ (by decide)), digitsValue_decimalNat, twoDigits,
    digitsValue_zeros, digitsValue_decimalNat, ← hsplit]
  congr 1
  ring

/-- A number that is a count of hundredths can be read. -/
theorem inRange_of_hundredths (D : DecimalLibrary lib) {x : ℚ} {n : ℕ} (hx : x = n / 100)
    (hn : n < 2 ^ 71) : D.InRange x := by
  subst hx
  rcases Nat.eq_zero_or_pos n with rfl | hpos
  · rw [Nat.cast_zero, zero_div]
    exact D.inRange_zero
  · have hone : (1 : ℚ) ≤ n := by exact_mod_cast hpos
    have hbound : (n : ℚ) ≤ 2 ^ 71 := by exact_mod_cast hn.le
    have habs : |(n / 100 : ℚ)| = n / 100 := abs_of_nonneg (by positivity)
    refine D.inRange_of_abs ?_ ?_
    · rw [habs]
      linarith
    · rw [habs]
      have hfinite : (2 : ℚ) ^ 71 ≤ maxFinite := by
        unfold maxFinite
        calc (2 : ℚ) ^ 71 ≤ (2 ^ 53 - 1) * 2 ^ 20 := by norm_num
          _ ≤ (2 ^ 53 - 1) * 2 ^ 971 :=
            mul_le_mul_of_nonneg_left (pow_le_pow_right₀ (by norm_num) (by norm_num)) (by norm_num)
      linarith

/-- What `std::stod` reads of an average. -/
theorem stod_hundredths (D : DecimalLibrary lib) (n : UInt64) :
    lib.stod (hundredths n) = some (.finite (D.nearest (n.toNat / 100))) :=
  D.stod_of_inRange (decimalValue_hundredths n)
    (inRange_of_hundredths D rfl (n.toNat_lt.trans (by decide)))

/-- What it reads of a total. -/
theorem stod_total (D : DecimalLibrary lib) (n : UInt64) :
    lib.stod (decimalNat n.toNat) = some (.finite (D.nearest n.toNat)) := by
  have hvalue : decimalValue (decimalNat n.toNat) = some (n.toNat : ℚ) := by
    obtain ⟨b, hhead, hb⟩ := exists_head_decimalNat n.toNat []
    rw [List.append_nil] at hhead
    rw [decimalValue_of_digit hhead hb,
      unsignedDecimal_digits (fun b hb => isDigitByte_of_mem_decimalNat hb) (decimalNat_ne_nil _),
      digitsValue_decimalNat]
  refine D.stod_of_inRange hvalue (@inRange_of_hundredths lib D _ (n.toNat * 100) ?_ ?_)
  · push_cast
    ring
  · have hlt := n.toNat_lt
    omega

/-- A field is read back when its text can be read. -/
theorem lastValue_fields {fields : List (Bytes × Bytes)}
    (hnames : ∀ field ∈ fields, field.1 ∈ figureNames) (hnodup : (fields.map Prod.fst).Nodup)
    {name text : Bytes} (hmem : (name, text) ∈ fields) {value : Double}
    (hvalue : lib.stod text = some value) :
    lastValue lib name (fields.map fun field => field.1 ++ field.2) = some value := by
  induction fields with
  | nil => cases hmem
  | cons field rest ih =>
    rw [List.forall_mem_cons] at hnames
    rw [List.map_cons, List.nodup_cons] at hnodup
    rw [List.map_cons, lastValue_cons]
    rcases List.mem_cons.mp hmem with rfl | hmem
    · -- the later fields have other names
      have hnone : lastValue lib name (rest.map fun field => field.1 ++ field.2) = none := by
        unfold lastValue
        rw [List.getLast?_eq_none_iff, List.filterMap_eq_nil_iff]
        intro token htoken
        obtain ⟨other, hother, rfl⟩ := List.mem_map.mp htoken
        have hprefix : other.1.isPrefixOf (other.1 ++ other.2) = true :=
          List.isPrefixOf_iff_prefix.mpr (List.prefix_append _ _)
        refine valueOf_eq_none (hnames.2 other hother) hprefix name hnames.1 ?_
        rintro rfl
        exact hnodup.1 (List.mem_map.mpr ⟨other, hother, rfl⟩)
      have hprefix : name.isPrefixOf (name ++ text) = true :=
        List.isPrefixOf_iff_prefix.mpr (List.prefix_append _ _)
      rw [hnone, Option.none_or, valueOf_of_isPrefixOf hprefix, List.drop_left, hvalue]
    · rw [ih hnames.2 hnodup.2 hmem, Option.some_or]

/-- Neither an average nor a total has a space in it. -/
theorem isSpaceByte_of_mem_fields {field : Bytes × Bytes} (hfield : field ∈ f.fields) {b : UInt8}
    (hb : b ∈ field.1 ++ field.2) : isSpaceByte b = false := by
  have hnames : ∀ name ∈ figureNames, ∀ b ∈ name, isSpaceByte b = false := by
    decide +kernel
  have hdigit : ∀ b : UInt8, isDigitByte b = true ∨ b = 46 → isSpaceByte b = false := by
    decide +kernel
  have haverage : ∀ n : UInt64, ∀ b ∈ hundredths n, isSpaceByte b = false := by
    intro n b hb
    rcases List.mem_append.mp hb with hb | hb
    · exact hdigit b (Or.inl (isDigitByte_of_mem_decimalNat hb))
    · rcases List.mem_cons.mp hb with rfl | hb
      · exact hdigit 46 (Or.inr rfl)
      · exact hdigit b (Or.inl (isDigitByte_of_mem_twoDigits hb))
  have hall : ∀ field ∈ f.fields, field.1 ∈ figureNames ∧
      ∀ b ∈ field.2, isSpaceByte b = false := by
    simp only [KernelFigures.fields, List.forall_mem_cons]
    exact ⟨⟨by decide, haverage _⟩, ⟨by decide, haverage _⟩, ⟨by decide, haverage _⟩,
      ⟨by decide, fun b hb => hdigit b (Or.inl (isDigitByte_of_mem_decimalNat hb))⟩,
      List.forall_mem_nil _⟩
  obtain ⟨hname, htext⟩ := hall field hfield
  rcases List.mem_append.mp hb with hb | hb
  · exact hnames field.1 hname b hb
  · exact htext b hb

theorem tokens_spec (f : KernelFigures) :
    ∀ token ∈ f.tokens, token ≠ [] ∧ ∀ b ∈ token, isSpaceByte b = false := by
  intro token htoken
  obtain ⟨field, hfield, rfl⟩ := List.mem_map.mp htoken
  refine ⟨List.append_ne_nil_of_left_ne_nil ?_ _, fun b hb => isSpaceByte_of_mem_fields hfield hb⟩
  have hnames : ∀ field ∈ f.fields, field.1 ≠ [] := by
    simp only [KernelFigures.fields, List.forall_mem_cons]
    exact ⟨by decide, by decide, by decide, by decide, List.forall_mem_nil _⟩
  exact hnames field hfield

/-- The words of a line are the name of its family and its figures. -/
theorem words_pressureLine {family : Bytes} (hne : family ≠ [])
    (hfamily : ∀ b ∈ family, isSpaceByte b = false) (f : KernelFigures) :
    wordsBy isSpaceByte (pressureLine family f) = family :: f.tokens :=
  wordsBy_record rfl (List.forall_mem_cons.mpr ⟨⟨hne, hfamily⟩, tokens_spec f⟩)

theorem newline_not_mem_pressureLine {family : Bytes}
    (hfamily : ∀ b ∈ family, isSpaceByte b = false) (f : KernelFigures) :
    (10 : UInt8) ∉ pressureLine family f := by
  intro hmem
  rcases List.mem_append.mp hmem with hmem | hmem
  · exact absurd (hfamily 10 hmem) (by decide)
  · obtain ⟨token, htoken, hmem⟩ := List.mem_flatMap.mp hmem
    rcases List.mem_cons.mp hmem with heq | hmem
    · cases heq
    · exact absurd ((tokens_spec f token htoken).2 10 hmem) (by decide)

/-- The tokens of each family are the figures of its line. -/
theorem figureTokens_pressureText (someTasks allTasks : KernelFigures) :
    figureTokens someLine (Bytes.lines (pressureText someTasks allTasks)) = someTasks.tokens ∧
      figureTokens fullLine (Bytes.lines (pressureText someTasks allTasks)) = allTasks.tokens := by
  have hlines : Bytes.lines (pressureText someTasks allTasks)
      = [ pressureLine "some" someTasks, pressureLine "full" allTasks ] := by
    refine Bytes.lines_flatMap ?_
    rw [List.forall_mem_cons, List.forall_mem_singleton]
    exact ⟨newline_not_mem_pressureLine (by decide +kernel) _,
      newline_not_mem_pressureLine (by decide +kernel) _⟩
  have hsome : (wordsBy isSpaceByte (pressureLine "some" someTasks)).tail = someTasks.tokens :=
    congrArg List.tail (words_pressureLine (by decide) (by decide +kernel) someTasks)
  have hfull : (wordsBy isSpaceByte (pressureLine "full" allTasks)).tail = allTasks.tokens :=
    congrArg List.tail (words_pressureLine (by decide) (by decide +kernel) allTasks)
  rw [hlines, ← hsome, ← hfull]
  exact ⟨List.append_nil _, List.append_nil _⟩

/-- What is read of the figures of a line. -/
theorem lastValue_tokens (D : DecimalLibrary lib) (f : KernelFigures) :
    lastValue lib "avg10=" f.tokens = some (.finite (D.nearest (f.avg10.toNat / 100))) ∧
      lastValue lib "avg60=" f.tokens = some (.finite (D.nearest (f.avg60.toNat / 100))) ∧
      lastValue lib "avg300=" f.tokens = some (.finite (D.nearest (f.avg300.toNat / 100))) ∧
      lastValue lib "total=" f.tokens = some (.finite (D.nearest f.total.toNat)) := by
  have hnames : ∀ field ∈ f.fields, field.1 ∈ figureNames := by
    simp only [KernelFigures.fields, List.forall_mem_cons]
    exact ⟨by decide, by decide, by decide, by decide, List.forall_mem_nil _⟩
  have hnodup : (f.fields.map Prod.fst).Nodup := show figureNames.Nodup by decide
  refine ⟨lastValue_fields hnames hnodup ?_ (stod_hundredths D f.avg10),
    lastValue_fields hnames hnodup ?_ (stod_hundredths D f.avg60),
    lastValue_fields hnames hnodup ?_ (stod_hundredths D f.avg300),
    lastValue_fields hnames hnodup ?_ (stod_total D f.total)⟩
  all_goals simp [KernelFigures.fields]

/-- **The figures of the kernel are read back**: for all its figures, each is the double nearest to
what the kernel wrote. -/
theorem psi_reads_back (D : DecimalLibrary lib) (someTasks allTasks : KernelFigures) :
    parsePsi lib (some (pressureText someTasks allTasks)) {}
      = { psiSomeAvg10 := some (.finite (D.nearest (someTasks.avg10.toNat / 100)))
          psiSomeAvg60 := some (.finite (D.nearest (someTasks.avg60.toNat / 100)))
          psiSomeAvg300 := some (.finite (D.nearest (someTasks.avg300.toNat / 100)))
          psiSomeTotal := some (.finite (D.nearest someTasks.total.toNat))
          psiFullAvg10 := some (.finite (D.nearest (allTasks.avg10.toNat / 100)))
          psiFullAvg60 := some (.finite (D.nearest (allTasks.avg60.toNat / 100)))
          psiFullAvg300 := some (.finite (D.nearest (allTasks.avg300.toNat / 100)))
          psiFullTotal := some (.finite (D.nearest allTasks.total.toNat))
          psiSuccess := true } := by
  obtain ⟨hsome, hfull⟩ := figureTokens_pressureText someTasks allTasks
  obtain ⟨hsome10, hsome60, hsome300, hsomeTotal⟩ := lastValue_tokens D someTasks
  obtain ⟨hfull10, hfull60, hfull300, hfullTotal⟩ := lastValue_tokens D allTasks
  rw [parsePsi_eq]
  simp only [figure, Option.bind_some, hsome, hfull, hsome10, hsome60, hsome300, hsomeTotal,
    hfull10, hfull60, hfull300, hfullTotal, Option.isSome_some, Bool.or_self]

end Kernel

end MemoryCollector

end Holonight
