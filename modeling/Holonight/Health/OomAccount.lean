import Holonight.Base.JsonRoundTrip
import Holonight.Base.Machine
import Holonight.Config.Application
import Holonight.Health.MemoryCollector

/-!
# The account of OOM kills (`MemoryCollector.cpp`)

The collector keeps the last value it read of the `oom_kill` counter in `/proc/vmstat`; a
pass that reads a larger one looks up the victim in the kernel log and reports the
difference. The baseline moves in `parseVmstatOom`, before the event is made: when making
it throws, the increase is in neither this pass's events nor a later one's.

`oom_account_balances_iff` says when the reported differences add up to the increase of the
counter: exactly when every pass that sees an increase finds a victim whose name is UTF-8
(the `"unknown"` of a log without a victim is). It rests on what one pass reports
(`reported_pass`) and on an induction over the passes.
-/

namespace Holonight

namespace MemoryCollector

/-! ## The counter in `/proc/vmstat` -/

/-- `input >> key`: the next word. -/
def readKey (s : Bytes) : Option (Bytes × Bytes) :=
  let body := s.dropWhile isSpaceByte
  if body = [] then none
  else some (body.takeWhile fun b => !isSpaceByte b, body.dropWhile fun b => !isSpaceByte b)

/-- A sign before the digits; whether it was a minus. -/
def readSign (body : Bytes) : Bool × Bytes :=
  match body with
  -- 45 is `-`, 43 is `+`
  | 45 :: rest => (true, rest)
  | 43 :: rest => (false, rest)
  | rest => (false, rest)

/-- `input >> val` into a `std::uint64_t`: a sign is accepted, and negative numbers wrap. No
digits and numbers out of range fail. -/
def readUInt64 (s : Bytes) : Option (UInt64 × Bytes) :=
  let signed := readSign (s.dropWhile isSpaceByte)
  let digits := signed.2.takeWhile isDigitByte
  let value := digitsValue digits
  if digits = [] ∨ 2 ^ 64 ≤ value then none
  else
    some (UInt64.ofNat (if signed.1 then 2 ^ 64 - value else value),
      signed.2.dropWhile isDigitByte)

/-- The loop of `parseVmstatOom` (MemoryCollector.cpp:143–149). A pair takes at least one
byte, so a fuel above the length of the text is enough (`oomKillFrom_fuel`). -/
def oomKillFrom : ℕ → Bytes → Option UInt64
  | 0, _ => none
  | fuel + 1, s =>
    match readKey s with
    | none => none
    | some (key, rest) =>
      match readUInt64 rest with
      | none => none
      | some (val, rest) => if key = "oom_kill" then some val else oomKillFrom fuel rest

/-- The counter in the text of `/proc/vmstat`. -/
def oomKillCounter (vmstat : Bytes) : Option UInt64 := oomKillFrom (vmstat.length + 1) vmstat

theorem length_readKey {s key rest : Bytes} (h : readKey s = some (key, rest)) :
    rest.length < s.length := by
  unfold readKey at h
  simp only at h
  split at h
  · cases h
  · rename_i hne
    cases h
    obtain ⟨b, tail, hbody⟩ := List.exists_cons_of_ne_nil hne
    have hb : isSpaceByte b = false := by
      have hhead := List.head_dropWhile_not isSpaceByte hne
      simpa [hbody] using hhead
    have hdropped : (s.dropWhile isSpaceByte).length ≤ s.length :=
      (List.dropWhile_suffix isSpaceByte).length_le
    have htail : (tail.dropWhile fun b => !isSpaceByte b).length ≤ tail.length :=
      (List.dropWhile_suffix _).length_le
    rw [hbody] at hdropped ⊢
    rw [List.dropWhile_cons_of_pos (by simp [hb])]
    rw [List.length_cons] at hdropped
    omega

theorem length_readSign (body : Bytes) : (readSign body).2.length ≤ body.length := by
  unfold readSign
  split
  · exact Nat.le_succ _
  · exact Nat.le_succ _
  · exact le_rfl

theorem length_readUInt64 {s rest : Bytes} {val : UInt64} (h : readUInt64 s = some (val, rest)) :
    rest.length ≤ s.length := by
  have hbody : (s.dropWhile isSpaceByte).length ≤ s.length :=
    (List.dropWhile_suffix isSpaceByte).length_le
  unfold readUInt64 at h
  simp only at h
  split at h
  · cases h
  · cases h
    exact le_trans (List.dropWhile_suffix _).length_le (le_trans (length_readSign _) hbody)

/-- Fuel beyond the length of the text changes nothing. -/
theorem oomKillFrom_fuel {s : Bytes} {fuel fuel' : ℕ} (h : s.length < fuel)
    (h' : s.length < fuel') : oomKillFrom fuel s = oomKillFrom fuel' s := by
  induction fuel generalizing s fuel' with
  | zero => exact absurd h (Nat.not_lt_zero _)
  | succ fuel ih =>
    cases fuel' with
    | zero => exact absurd h' (Nat.not_lt_zero _)
    | succ fuel' =>
      rw [oomKillFrom, oomKillFrom]
      cases hkey : readKey s with
      | none => rfl
      | some found =>
        have hshorter := length_readKey hkey
        simp only
        cases hval : readUInt64 found.2 with
        | none => rfl
        | some value =>
          have hrest := length_readUInt64 hval
          simp only
          rw [ih (by omega) (by omega : _ < fuel')]

/-! ## The victim in the kernel log

The pattern of `extractOomVictim` is matched by hand: each of its parts is followed by one
that cannot begin with a byte the part could have taken, so that the greedy match is the
only one at its position. -/

/-- A literal of the pattern, in any case (`std::regex::icase`): what follows it. -/
def stripWord (word s : Bytes) : Option Bytes :=
  if (s.take word.length).map Config.toLowerByte = word.map Config.toLowerByte then
    some (s.drop word.length)
  else none

/-- One or more bytes of a class: what follows them. -/
def stripMany (p : UInt8 → Bool) (s : Bytes) : Option Bytes :=
  if s.takeWhile p = [] then none else some (s.dropWhile p)

/-- The pattern at the start of a text (MemoryCollector.cpp:182):
`(?:Out of memory|Killed process)[:\s]+(?:Kill process\s+)?(\d+)\s+\(([^)]+)\)`.
The result are its two groups. -/
def matchOom (s : Bytes) : Option (Bytes × Bytes) := do
  let s ← (stripWord "Out of memory" s).or (stripWord "Killed process" s)
  -- 58 is the colon
  let s ← stripMany (fun b => b == 58 || isSpaceByte b) s
  let s ←
    match stripWord "Kill process" s with
    | some rest => stripMany isSpaceByte rest
    | none => some s
  let pid := s.takeWhile isDigitByte
  let s ← stripMany isDigitByte s
  let s ← stripMany isSpaceByte s
  -- 40 and 41 are the parentheses
  let 40 :: s := s | none
  let name := s.takeWhile fun b => b != 41
  let s ← stripMany (fun b => b != 41) s
  let 41 :: _ := s | none
  return (pid, name)

/-- `std::regex_search` for the pattern: its first match in a line. -/
def searchOom : Bytes → Option (Bytes × Bytes)
  | [] => none
  | b :: rest => (matchOom (b :: rest)).or (searchOom rest)

/-- What a line makes of the victim found so far. A number that `std::stoi` rejects leaves
it as it is. -/
def victimOfLine (last : Option (ℤ × Bytes)) (line : Bytes) : Option (ℤ × Bytes) :=
  match searchOom line with
  | none => last
  | some (digits, name) =>
    if digitsValue digits < 2 ^ 31 then some (digitsValue digits, name) else last

/-- `extractOomVictim` (MemoryCollector.cpp:171–209) on the text of `/proc/kmsg`, if it could
be opened. -/
def extractOomVictim (kmsg : Option Bytes) : ℤ × Bytes :=
  match kmsg with
  | none => (0, "unknown")
  | some text => (text |> Bytes.lines |>.foldl victimOfLine none).getD (0, "unknown")

/-! ## Passes -/

/-- `parseVmstatOom` (MemoryCollector.cpp:131–169): the new baseline and the metrics. -/
def parseVmstatOom (baseline : Option UInt64) (metrics : MemoryMetrics)
    (vmstat kmsg : Option Bytes) : Option UInt64 × MemoryMetrics :=
  match vmstat.bind oomKillCounter with
  | none => (baseline, { metrics with vmstatSuccess := false })
  | some val =>
    let metrics := { metrics with oomKillCounter := some val, vmstatSuccess := true }
    match baseline with
    | none => (some val, { metrics with oomKillDelta := some 0 })
    | some base =>
      if base ≤ val then
        let metrics := { metrics with oomKillDelta := some (val - base) }
        let victim := extractOomVictim kmsg
        -- the baseline moves here, whatever becomes of the event
        (some val,
          if 0 < val - base then
            { metrics with victimPid := some victim.1, victimName := some victim.2 }
          else metrics)
      else (baseline, metrics)

/-- What one call of `collect` reads: the metrics that `parsePsi` and `parseMeminfo` leave,
the two files, and the clock. -/
structure Pass where
  pressure : MemoryMetrics := {}
  vmstat : Option Bytes
  kmsg : Option Bytes := none
  clock : ℕ → TimePoint := fun _ => 0

/-- The counter, when the file can be read and has it. -/
def Pass.counter (pass : Pass) : Option UInt64 := pass.vmstat.bind oomKillCounter

/-- `collectMetrics` (MemoryCollector.cpp:211–219). The first two parts do not set the fields
of the OOM counter. -/
def collectMetrics (baseline : Option UInt64) (pass : Pass) : Option UInt64 × MemoryMetrics :=
  parseVmstatOom baseline
    { pass.pressure with
      oomKillCounter := none, oomKillDelta := none, victimPid := none, victimName := none }
    pass.vmstat pass.kmsg

/-- The collector as a machine: its state is the baseline, and each call gives its result. -/
def collector (lib : CppLib) (options : MemoryCollectorOptions) :
    Machine (Option UInt64) Pass (Except Exn (List ObservationEvent)) where
  step baseline pass :=
    let read := collectMetrics baseline pass
    (read.1, [collect lib options pass.clock read.2])

/-! ## What is reported -/

/-- The event reports OOM kills. -/
def isOomEvent (event : ObservationEvent) : Bool :=
  decide (event.signal = Bytes.ofString "oom_killer_invoked")

/-- The OOM events that a call returns. -/
def oomEvents : Except Exn (List ObservationEvent) → List ObservationEvent
  | .ok events => events.filter isOomEvent
  | .error _ => []

/-- The `delta` in the attributes of an event. -/
def deltaOf {lib : CppLib} (J : JsonLibrary lib) (event : ObservationEvent) : ℕ :=
  match J.parse event.attributesJson with
  | .ok attributes =>
    match attributes.field "delta" with
    | some (.uint n) => n
    | _ => 0
  | .error _ => 0

/-- The sum of the deltas over a run. -/
def reportedKills {lib : CppLib} (J : JsonLibrary lib)
    (log : List (Except Exn (List ObservationEvent))) : ℕ :=
  ((log.flatMap oomEvents).map (deltaOf J)).sum

section Reports

variable {lib : CppLib} (J : JsonLibrary lib) {options : MemoryCollectorOptions}
  {metrics : MemoryMetrics} {clock : ℕ → TimePoint}

/-- The events of two lists of drafts, one after the other. -/
theorem emitAll_append {made : ℕ} {ds ds' : List Draft} {events : List ObservationEvent}
    (h : emitAll lib clock made (ds ++ ds') = .ok events) :
    ∃ first later, emitAll lib clock made ds = .ok first ∧
      emitAll lib clock (made + ds.length) ds' = .ok later ∧ events = first ++ later := by
  induction ds generalizing made events with
  | nil => exact ⟨[], events, rfl, h, rfl⟩
  | cons d rest ih =>
    obtain ⟨event, hevent, h⟩ := bind_eq_ok.mp h
    obtain ⟨others, hothers, heq⟩ := bind_eq_ok.mp h
    cases heq
    obtain ⟨first, later, hfirst, hlater, rfl⟩ := ih hothers
    refine ⟨event :: first, later, ?_, ?_, rfl⟩
    · rw [emitAll, hevent]
      show (emitAll lib clock (made + 1) rest >>= _) = _
      rw [hfirst]
      rfl
    · rw [List.length_cons, Nat.add_comm rest.length, ← Nat.add_assoc]
      exact hlater

/-- The drafts about memory pressure, and then those about OOM kills. -/
theorem drafts_split (lib : CppLib) (options : MemoryCollectorOptions) (metrics : MemoryMetrics) :
    ∃ pressure, (∀ d ∈ pressure, d.signal ≠ Bytes.ofString "oom_killer_invoked") ∧
      drafts lib options metrics = pressure ++
        match metrics.oomKillDelta with
        | some delta => if 0 < delta then [oomDraft lib metrics delta] else []
        | none => [] := by
  refine ⟨_, ?_, rfl⟩
  intro d hd
  split at hd
  · rcases List.mem_append.mp hd with hd | hd
    · obtain ⟨value, rfl⟩ := mem_alarm hd
      show Bytes.ofString "memory_pressure_some" ≠ _
      decide
    · obtain ⟨value, rfl⟩ := mem_alarm hd
      show Bytes.ofString "memory_pressure_full" ≠ _
      decide
  · split at hd
    · obtain ⟨value, rfl⟩ := mem_alarm hd
      show Bytes.ofString "memory_used_high" ≠ _
      decide
    · exact absurd hd List.not_mem_nil

/-- The events of other drafts are no OOM events. -/
theorem filter_emitAll {made : ℕ} {ds : List Draft} {events : List ObservationEvent}
    (h : emitAll lib clock made ds = .ok events)
    (hds : ∀ d ∈ ds, d.signal ≠ Bytes.ofString "oom_killer_invoked") :
    events.filter isOomEvent = [] := by
  refine List.filter_eq_nil_iff.mpr fun event hevent => ?_
  obtain ⟨-, d, hd, hsignal⟩ := mem_emitAll h hevent
  simpa [isOomEvent, hsignal] using hds d hd

/-- Without new kills there is no OOM event. -/
theorem oomEvents_quiet
    (h : ∀ delta, metrics.oomKillDelta = some delta → ¬ 0 < delta) :
    oomEvents (collect lib options clock metrics) = [] := by
  obtain ⟨pressure, hother, hdrafts⟩ := drafts_split lib options metrics
  have hnone : drafts lib options metrics = pressure := by
    rw [hdrafts]
    cases hdelta : metrics.oomKillDelta with
    | none => exact List.append_nil _
    | some delta =>
      show pressure ++ (if 0 < delta then _ else _) = _
      rw [if_neg (h delta hdelta), List.append_nil]
  unfold collect
  rw [hnone]
  cases hevents : emitAll lib clock 0 pressure with
  | error exn => rfl
  | ok events => exact filter_emitAll hevents hother

/-- A victim name that is not UTF-8 loses all events of the pass. -/
theorem oomEvents_unreadable {delta : UInt64} (hdelta : metrics.oomKillDelta = some delta)
    (hpos : 0 < delta) (hname : validUtf8 (metrics.victimName.getD "unknown") = false) :
    oomEvents (collect lib options clock metrics) = [] := by
  cases hresult : collect lib options clock metrics with
  | error exn => rfl
  | ok events =>
    have hok : (collect lib options clock metrics).isOk = true := by
      rw [hresult]
      rfl
    have hserialisable := collect_isOk.mp hok delta hdelta hpos
    rw [hname] at hserialisable
    cases hserialisable

/-- The attributes of an OOM draft are a value that the library can hold. -/
theorem wellFormed_oomDraft (delta : UInt64) (hpid : InInt64 (metrics.victimPid.getD 0)) :
    (Json.object (oomDraft lib metrics delta).attributes).WellFormed J.IsDouble := by
  refine ⟨?_, ?_⟩
  · show List.Pairwise Json.KeyLt ([ "delta", "total_oom_kills", "victim_name", "victim_pid" ]
      : List Bytes)
    unfold Json.KeyLt
    decide
  · exact ⟨UInt64.toNat_lt _, UInt64.toNat_lt _, trivial, hpid, trivial⟩

/-- The delta can be read back from the event. -/
theorem deltaOf_emit {timestamp : TimePoint} {delta : UInt64} {event : ObservationEvent}
    (hpid : InInt64 (metrics.victimPid.getD 0))
    (h : emit lib timestamp (oomDraft lib metrics delta) = .ok event) :
    deltaOf J event = delta.toNat := by
  obtain ⟨text, htext, heq⟩ := bind_eq_ok.mp h
  cases heq
  have hparse : J.parse text = .ok _ := J.parse_dump (wellFormed_oomDraft J delta hpid) htext
  unfold deltaOf
  simp only
  rw [hparse]
  rfl

/-- New kills with a readable victim are one event with their number. -/
theorem oomEvents_readable {delta : UInt64} (hdelta : metrics.oomKillDelta = some delta)
    (hpos : 0 < delta) (hname : validUtf8 (metrics.victimName.getD "unknown") = true)
    (hpid : InInt64 (metrics.victimPid.getD 0)) :
    ∃ event, oomEvents (collect lib options clock metrics) = [event] ∧
      deltaOf J event = delta.toNat := by
  have hok : (collect lib options clock metrics).isOk = true := by
    refine collect_isOk.mpr fun delta' hdelta' _ => ?_
    exact hname
  cases hresult : collect lib options clock metrics with
  | error exn =>
    rw [hresult] at hok
    cases hok
  | ok events =>
    obtain ⟨pressure, hother, hdrafts⟩ := drafts_split lib options metrics
    rw [hdelta] at hdrafts
    have hall : emitAll lib clock 0 (pressure ++ [oomDraft lib metrics delta]) = .ok events := by
      rw [← hresult, collect, hdrafts]
      show _ = emitAll lib clock 0 (pressure ++ if 0 < delta then _ else _)
      rw [if_pos hpos]
    obtain ⟨first, later, hfirst, hlater, rfl⟩ := emitAll_append hall
    obtain ⟨event, hevent, hlater⟩ := bind_eq_ok.mp hlater
    cases hlater
    refine ⟨event, ?_, deltaOf_emit J hpid hevent⟩
    show (first ++ [event]).filter isOomEvent = [event]
    have hsignal : isOomEvent event = true := by
      simp [isOomEvent, (emit_ok hevent).2, oomDraft]
    rw [List.filter_append, filter_emitAll hfirst hother, List.nil_append]
    exact List.filter_eq_self.mpr fun other hother => by rw [List.mem_singleton.mp hother, hsignal]

theorem reportedKills_cons (result : Except Exn (List ObservationEvent))
    (log : List (Except Exn (List ObservationEvent))) :
    reportedKills J (result :: log)
      = ((oomEvents result).map (deltaOf J)).sum + reportedKills J log := by
  unfold reportedKills
  rw [List.flatMap_cons, List.map_append, List.sum_append]

end Reports

/-! ## One pass -/

/-- The number that a victim line carries fits an `int`. -/
theorem extractOomVictim_pid (kmsg : Option Bytes) : InInt64 (extractOomVictim kmsg).1 := by
  have hfold : ∀ (lines : List Bytes) (last : Option (ℤ × Bytes)),
      InInt64 (last.getD (0, "unknown")).1 →
      InInt64 ((lines.foldl victimOfLine last).getD (0, "unknown")).1 := by
    intro lines
    induction lines with
    | nil => exact fun last h => h
    | cons line rest ih =>
      intro last h
      refine ih (victimOfLine last line) ?_
      unfold victimOfLine
      split
      · exact h
      · split
        · rename_i hlt
          show InInt64 (digitsValue _ : ℤ)
          exact ⟨by omega, by omega⟩
        · exact h
  cases kmsg with
  | none => exact ⟨by decide, by decide⟩
  | some text => exact hfold _ none ⟨by decide, by decide⟩

/-- A pass that sees the counter increase finds a victim whose name is UTF-8. -/
def VictimReadable (baseline : Option UInt64) (pass : Pass) : Prop :=
  ∀ base val, baseline = some base → pass.counter = some val → base < val →
    validUtf8 (extractOomVictim pass.kmsg).2 = true

section OnePass

variable {lib : CppLib} (J : JsonLibrary lib) (options : MemoryCollectorOptions) {pass : Pass}

/-- The first reading sets the baseline and reports nothing. -/
theorem first_pass :
    (collectMetrics none pass).1 = pass.counter ∧
      oomEvents (collect lib options pass.clock (collectMetrics none pass).2) = [] := by
  have hmetrics : ∀ delta, (collectMetrics none pass).2.oomKillDelta = some delta →
      ¬ 0 < delta := by
    intro delta hdelta
    unfold collectMetrics parseVmstatOom at hdelta
    cases hcounter : pass.vmstat.bind oomKillCounter with
    | none =>
      rw [hcounter] at hdelta
      cases hdelta
    | some val =>
      rw [hcounter] at hdelta
      cases hdelta
      decide
  refine ⟨?_, oomEvents_quiet hmetrics⟩
  unfold collectMetrics parseVmstatOom Pass.counter
  cases pass.vmstat.bind oomKillCounter <;> rfl

/-- A pass without a reading changes and reports nothing. -/
theorem unread_pass {base : UInt64} (h : pass.counter = none) :
    (collectMetrics (some base) pass).1 = some base ∧
      oomEvents (collect lib options pass.clock (collectMetrics (some base) pass).2) = [] := by
  have hcounter : pass.vmstat.bind oomKillCounter = none := h
  unfold collectMetrics parseVmstatOom
  rw [hcounter]
  refine ⟨rfl, oomEvents_quiet fun delta hdelta => ?_⟩
  cases hdelta

/-- The metrics of a pass that reads a counter at or above the baseline. -/
theorem collectMetrics_reads {base val : UInt64} (h : pass.counter = some val) (hle : base ≤ val) :
    (collectMetrics (some base) pass).1 = some val ∧
      (collectMetrics (some base) pass).2.oomKillDelta = some (val - base) ∧
      (0 < val - base →
        (collectMetrics (some base) pass).2.victimName = some (extractOomVictim pass.kmsg).2 ∧
        (collectMetrics (some base) pass).2.victimPid = some (extractOomVictim pass.kmsg).1) := by
  have hcounter : pass.vmstat.bind oomKillCounter = some val := h
  unfold collectMetrics parseVmstatOom
  rw [hcounter]
  simp only
  rw [if_pos hle]
  split
  · exact ⟨rfl, rfl, fun _ => ⟨rfl, rfl⟩⟩
  · rename_i hzero
    exact ⟨rfl, rfl, fun hpos => absurd hpos hzero⟩

/-- The counter went up exactly when the difference is positive. -/
theorem delta_pos_iff {base val : UInt64} (hle : base ≤ val) : 0 < val - base ↔ base < val := by
  have hzero : (0 : UInt64).toNat = 0 := rfl
  rw [UInt64.lt_iff_toNat_lt, UInt64.lt_iff_toNat_lt, UInt64.toNat_sub_of_le _ _ hle]
  omega

/-- A pass that sees the counter go up reports the increase in one event, or nothing when
the victim's name is not UTF-8. -/
theorem reported_rise {base val : UInt64} (h : pass.counter = some val) (hlt : base < val) :
    let events := oomEvents (collect lib options pass.clock (collectMetrics (some base) pass).2)
    (validUtf8 (extractOomVictim pass.kmsg).2 = true ∧ events.length = 1 ∧
        (events.map (deltaOf J)).sum = val.toNat - base.toNat) ∨
      (validUtf8 (extractOomVictim pass.kmsg).2 = false ∧ events = []) := by
  have hle : base ≤ val := UInt64.le_of_lt hlt
  obtain ⟨-, hdelta, hvictim⟩ := collectMetrics_reads h hle
  have hpos : 0 < val - base := (delta_pos_iff hle).mpr hlt
  obtain ⟨hname, hpid⟩ := hvictim hpos
  cases hvalid : validUtf8 (extractOomVictim pass.kmsg).2 with
  | true =>
    obtain ⟨event, hevents, hvalue⟩ := @oomEvents_readable lib J options _ pass.clock _ hdelta
      hpos (by rw [hname]; exact hvalid) (by rw [hpid]; exact extractOomVictim_pid pass.kmsg)
    refine Or.inl ⟨rfl, ?_⟩
    rw [hevents, List.map_singleton, List.sum_singleton, hvalue, UInt64.toNat_sub_of_le _ _ hle]
    exact ⟨rfl, rfl⟩
  | false => exact Or.inr ⟨rfl, oomEvents_unreadable hdelta hpos (by rw [hname]; exact hvalid)⟩

/-- A pass that finds the counter where it was reports nothing. -/
theorem reported_still {base val : UInt64} (h : pass.counter = some val) (hle : base ≤ val)
    (hsame : ¬ base < val) :
    oomEvents (collect lib options pass.clock (collectMetrics (some base) pass).2) = [] := by
  obtain ⟨-, hdelta, -⟩ := collectMetrics_reads h hle
  refine oomEvents_quiet fun delta hsome hpos => ?_
  rw [hdelta, Option.some.injEq] at hsome
  rw [← hsome] at hpos
  exact hsame ((delta_pos_iff hle).mp hpos)

/-- **A pass that reads the counter** moves the baseline to it. It reports the increase in
one event, unless the victim's name is not UTF-8: then it reports nothing. -/
theorem reported_pass {base val : UInt64} (h : pass.counter = some val) (hle : base ≤ val) :
    let events := oomEvents (collect lib options pass.clock (collectMetrics (some base) pass).2)
    (collectMetrics (some base) pass).1 = some val ∧ events.length ≤ 1 ∧
      (events.map (deltaOf J)).sum ≤ val.toNat - base.toNat ∧
      ((events.map (deltaOf J)).sum = val.toNat - base.toNat
        ↔ VictimReadable (some base) pass) := by
  refine ⟨(collectMetrics_reads h hle).1, ?_⟩
  by_cases hlt : base < val
  · have hgap : 0 < val.toNat - base.toNat := by
      rw [UInt64.lt_iff_toNat_lt] at hlt
      omega
    rcases @reported_rise lib J options pass base val h hlt with
      ⟨hvalid, hone, hsum⟩ | ⟨hvalid, hnone⟩
    · exact ⟨hone.le, hsum.le, iff_of_true hsum fun _ _ _ _ _ => hvalid⟩
    · rw [hnone]
      refine ⟨Nat.zero_le _, Nat.zero_le _, iff_of_false hgap.ne ?_⟩
      intro hreadable
      rw [hreadable base val rfl h hlt] at hvalid
      cases hvalid
  · have hgap : val.toNat - base.toNat = 0 := by
      rw [UInt64.lt_iff_toNat_lt] at hlt
      omega
    rw [reported_still options h hle hlt, hgap]
    refine ⟨Nat.zero_le _, le_rfl, iff_of_true rfl ?_⟩
    rintro base' val' ⟨⟩ hval' hlt'
    rw [h] at hval'
    cases hval'
    exact absurd hlt' hlt

end OnePass

/-! ## Whole runs -/

section Runs

variable {lib : CppLib} (J : JsonLibrary lib) (options : MemoryCollectorOptions)

/-- The values of the counter that the passes read, in order. -/
def readings (passes : List Pass) : List UInt64 := passes.filterMap Pass.counter

/-- The deltas reported over a run add up to the last value read minus the first, and no
call returns two OOM events. -/
def OomAccountBalances (passes : List Pass) : Prop :=
  let log := ((collector lib options).run none passes).2
  reportedKills J log
      = ((readings passes).getLast?.getD 0).toNat - ((readings passes).head?.getD 0).toNat ∧
    ∀ result ∈ log, (oomEvents result).length ≤ 1

theorem collector_run_cons (baseline : Option UInt64) (pass : Pass) (rest : List Pass) :
    ((collector lib options).run baseline (pass :: rest)).2
      = collect lib options pass.clock (collectMetrics baseline pass).2
        :: ((collector lib options).run (collectMetrics baseline pass).1 rest).2 := rfl

theorem collector_allSteps_cons (baseline : Option UInt64) (pass : Pass) (rest : List Pass) :
    (collector lib options).AllSteps VictimReadable baseline (pass :: rest)
      ↔ VictimReadable baseline pass ∧
        (collector lib options).AllSteps VictimReadable (collectMetrics baseline pass).1 rest :=
  Iff.rfl

/-- A run from a baseline: it never reports more than the increase, and it reports all of it
exactly when every victim is readable. -/
theorem run_from_baseline {base : UInt64} {passes : List Pass}
    (hmono : (base :: readings passes).Pairwise (· ≤ ·)) :
    let log := ((collector lib options).run (some base) passes).2
    let last := (readings passes).getLast?.getD base
    base ≤ last ∧ reportedKills J log ≤ last.toNat - base.toNat ∧
      (reportedKills J log = last.toNat - base.toNat
        ↔ (collector lib options).AllSteps VictimReadable (some base) passes) ∧
      ∀ result ∈ log, (oomEvents result).length ≤ 1 := by
  induction passes generalizing base with
  | nil =>
    refine ⟨UInt64.le_refl _, Nat.zero_le _, ?_,
      fun result hresult => absurd hresult List.not_mem_nil⟩
    show 0 = base.toNat - base.toNat ↔ True
    simp
  | cons pass rest ih =>
    simp only [collector_run_cons, collector_allSteps_cons, reportedKills_cons,
      List.forall_mem_cons]
    cases hcounter : pass.counter with
    | none =>
      have hreadings : readings (pass :: rest) = readings rest := List.filterMap_cons_none hcounter
      obtain ⟨hbaseline, hevents⟩ := @unread_pass lib options pass base hcounter
      have hreadable : VictimReadable (some base) pass := by
        intro base' val' _ hval'
        rw [hcounter] at hval'
        cases hval'
      rw [hreadings] at hmono
      obtain ⟨hle, hbound, hiff, hone⟩ := ih hmono
      rw [hreadings, hbaseline, hevents, List.map_nil, List.sum_nil, Nat.zero_add, List.length_nil]
      exact ⟨hle, hbound, hiff.trans (iff_and_self.mpr fun _ => hreadable), Nat.zero_le _, hone⟩
    | some val =>
      have hreadings : readings (pass :: rest) = val :: readings rest :=
        List.filterMap_cons_some hcounter
      rw [hreadings] at hmono
      obtain ⟨hfirst, hmono'⟩ := List.pairwise_cons.mp hmono
      have hle : base ≤ val := hfirst val List.mem_cons_self
      obtain ⟨hbaseline, hsingle, hpass, hpassIff⟩ :=
        @reported_pass lib J options pass _ _ hcounter hle
      obtain ⟨hrest, hbound, hiff, hone⟩ := ih hmono'
      rw [hreadings, List.getLast?_cons, Option.getD_some, hbaseline, ← hpassIff, ← hiff]
      -- the increase of the run is that of the pass and that of the rest
      have hle' := UInt64.le_iff_toNat_le.mp hle
      have hrest' := UInt64.le_iff_toNat_le.mp hrest
      exact ⟨UInt64.le_trans hle hrest, by omega, by omega, hsingle, hone⟩

/-- **The account of OOM kills** balances over a run in which the counter does not go down,
if and only if every pass that sees it go up finds a victim whose name is UTF-8. -/
theorem oom_account_balances_iff (passes : List Pass)
    (hmono : (readings passes).Pairwise (· ≤ ·)) :
    OomAccountBalances J options passes
      ↔ (collector lib options).AllSteps VictimReadable none passes := by
  unfold OomAccountBalances
  induction passes with
  | nil => exact iff_of_true ⟨rfl, fun result hresult => absurd hresult List.not_mem_nil⟩ trivial
  | cons pass rest ih =>
    obtain ⟨hbaseline, hevents⟩ := @first_pass lib options pass
    have hreadable : VictimReadable none pass := fun base val hbase => by cases hbase
    simp only [collector_run_cons, collector_allSteps_cons, reportedKills_cons,
      List.forall_mem_cons]
    rw [hevents, List.map_nil, List.sum_nil, Nat.zero_add, List.length_nil, hbaseline]
    cases hcounter : pass.counter with
    | none =>
      have hreadings : readings (pass :: rest) = readings rest := List.filterMap_cons_none hcounter
      rw [hreadings] at hmono ⊢
      rw [and_iff_right hreadable, ← ih hmono, and_iff_right (Nat.zero_le 1)]
    | some val =>
      have hreadings : readings (pass :: rest) = val :: readings rest :=
        List.filterMap_cons_some hcounter
      rw [hreadings] at hmono ⊢
      obtain ⟨-, -, hiff, hone⟩ := @run_from_baseline lib J options val rest hmono
      rw [List.getLast?_cons, Option.getD_some, List.head?_cons, Option.getD_some,
        and_iff_right hreadable, ← hiff]
      exact and_iff_left ⟨Nat.zero_le 1, hone⟩

end Runs

/-- Two passes: the counter goes from 5 to 7, and then the log names a victim. -/
def twoPasses (name : Bytes) : List Pass :=
  [ { vmstat := some "nr_free_pages 12345\noom_kill 5\n" },
    { vmstat := some "nr_free_pages 12000\noom_kill 7\n",
      kmsg := some (Bytes.ofString "Out of memory: Kill process 1234 (" ++ name
        ++ Bytes.ofString ") score 500 or sacrifice child\n") } ]

theorem readings_twoPasses (name : Bytes) : readings (twoPasses name) = [5, 7] := rfl

/-- Two kills with a victim `python3`. -/
theorem oom_account_balances_python :
    (readings (twoPasses "python3")).Pairwise (· ≤ ·) ∧
      OomAccountBalances JsonLibrary.integral {} (twoPasses "python3") := by
  have hmono : (readings (twoPasses "python3")).Pairwise (· ≤ ·) := by
    rw [readings_twoPasses]
    decide
  refine ⟨hmono, (oom_account_balances_iff _ _ _ hmono).mpr ⟨?_, ?_, trivial⟩⟩
  · intro base val hbase
    cases hbase
  · intro base val _ _ _
    decide

/-- A victim whose name was cut inside a character: the two kills are not reported. -/
theorem cut_victim_name_loses_kills :
    (readings (twoPasses [99, 97, 102, 0xC3])).Pairwise (· ≤ ·) ∧
      ¬ OomAccountBalances JsonLibrary.integral {} (twoPasses [99, 97, 102, 0xC3]) := by
  refine ⟨by rw [readings_twoPasses]; decide, ?_⟩
  rintro ⟨hsum, -⟩
  rw [readings_twoPasses] at hsum
  have hlost : reportedKills JsonLibrary.integral
      ((collector .integral {}).run none (twoPasses [99, 97, 102, 0xC3])).2 = 0 := rfl
  rw [hlost] at hsum
  exact absurd hsum (by decide)

end MemoryCollector

end Holonight
