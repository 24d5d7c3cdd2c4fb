import Holonight.Base.Machine
import Holonight.Process.CommandLoop

/-!
# What a command run did (`CommandRunner.cpp`)

`CommandRunner::run` from the spawn to its result, as a run over the answers of the system, with
the calls that matter in order: the chunks read, the times a `waitpid` collected the child, and the
signals sent to the process group. Each signal comes with what only the system knows, whether a
process of the group is left at that moment.

**The result tells the truth** about these calls (`result_truthful`): output, truncation, the two
flags and the exit code agree with the trace of every run that returns.

**The signals are not always the runner's own**: a round that is overdue sends `SIGTERM` also when
only the pipe is still open. When the child was collected and its group is gone by then, the number
may belong to somebody else (`signalsOwn_iff`, `detached_process_signalled`).
-/

namespace Holonight

namespace CommandRunner

open HealthCheckJob (CommandResult)

/-! ## Rounds, call by call -/

/-- A call of the runner, with what the system made of it. -/
inductive Event where
  | chunk (chunk : Chunk)
  | reaped (status : WaitStatus)
  | kill (signal : Signal) (groupRemains : Bool)

/-- What one round gets from the system, call by call. In the grace period every pass reads the
clock and, while the period lasts, asks for the child; the blocking `waitpid` after `SIGKILL` fails
when it gives no status. -/
structure Answer where
  read : ReadResult := .again
  wait : WaitResult := .notYet
  stopRequested : Bool := false
  now : TimePoint := 0
  graceStart : TimePoint := 0
  polls : List (TimePoint × Option WaitStatus) := []
  killed : Option WaitStatus := none
  groupAtTerm : Bool := true
  groupAtKill : Bool := true

/-- `kTerminationGracePeriod`, in nanoseconds. -/
def terminationGracePeriod : ℤ := 250 * 1000000

/-- The loop of the grace period (CommandRunner.cpp:134–141). -/
def graceLoop (graceDeadline : TimePoint) :
    List (TimePoint × Option WaitStatus) → Option WaitStatus
  | [] => none
  | (now, wait) :: later =>
    if now < graceDeadline then
      match wait with
      | some status => some status
      | none => graceLoop graceDeadline later
    else none

/-- The answers of a round in short. -/
def Answer.round (a : Answer) : Round where
  read := a.read
  wait := a.wait
  now := a.now
  reaped := graceLoop (a.graceStart + terminationGracePeriod) a.polls
  killed := a.killed

/-- The calls of `terminate`. -/
def terminateEvents (s : RunState) (a : Answer) : List Event :=
  .kill .term a.groupAtTerm ::
    match a.round.reaped with
    | some status => [.reaped status]
    | none =>
      if s.childFinished then []
      else .kill .kill a.groupAtKill :: (a.killed.map Event.reaped).toList

/-- The call of `readPipe`. -/
def readEvents : ReadResult → List Event
  | .chunk chunk => [.chunk chunk]
  | _ => []

/-- The call of `waitChild`. -/
def waitEvents (s : RunState) (wait : WaitResult) : List Event :=
  if s.childFinished then []
  else
    match wait with
    | .child status => [.reaped status]
    | _ => []

/-- The round comes to end the process group. -/
def overdue (s : RunState) (a : Answer) : Prop :=
  s.finished = false ∧ (a.stopRequested = true ∨ s.deadline ≤ a.now)

instance (s : RunState) (a : Answer) : Decidable (overdue s a) :=
  inferInstanceAs (Decidable (_ ∧ _))

/-- The calls of a round, in order. -/
def roundEvents (options : CommandOptions) (s : RunState) (a : Answer) : List Event :=
  let read := readPipe options s a.read
  readEvents a.read ++ waitEvents read a.wait ++
    match waitChild read a.wait with
    | .error _ => []
    | .ok waited => if overdue waited a then terminateEvents waited a else []

/-! ## Runs -/

/-- The loop between two rounds, or what it has thrown; `reaped` tells whether a `waitpid` has
collected the child, and nothing reads it. -/
structure RunnerState where
  loop : Except Bytes RunState
  reaped : Bool := false

/-- The call collects the child. -/
def Event.reaps : Event → Bool
  | .reaped _ => true
  | _ => false

/-- The loop as a machine; one that was left, or has thrown, makes no more calls. -/
def runner (options : CommandOptions) : Machine RunnerState Answer Event where
  step s a :=
    match s.loop with
    | .error _ => (s, [])
    | .ok loop =>
      if loop.finished then (s, [])
      else
        let events := roundEvents options loop a
        ({ loop := round options loop a.stopRequested a.round
           reaped := s.reaped || events.any Event.reaps }, events)

/-- `CommandRunner::run`: what it returns or throws, if it comes to an end, and its calls. -/
def run (command : Bytes) (options : CommandOptions) (outcome : SpawnOutcome)
    (answers : List Answer) : Option (Except Bytes CommandResult) × List Event :=
  match spawn options outcome with
  | .error message => (some (.error message), [])
  | .ok start =>
    let ended := (runner options).run { loop := .ok start } answers
    (match ended.1.loop with
      | .error message => some (.error message)
      | .ok loop => if loop.finished then some (.ok (result command loop)) else none,
      ended.2)

/-! ## One step -/

/-- A step changes nothing and makes no call, or is a round of a loop that goes on. -/
theorem step_cases (options : CommandOptions) (s : RunnerState) (a : Answer) :
    ((∀ loop, s.loop = .ok loop → loop.finished = true) ∧ (runner options).step s a = (s, [])) ∨
      ∃ loop, s.loop = .ok loop ∧
        (runner options).step s a
          = ({ loop := round options loop a.stopRequested a.round
               reaped := s.reaped || (roundEvents options loop a).any Event.reaps },
              roundEvents options loop a) := by
  unfold runner
  dsimp only
  split
  case h_1 message hthrown =>
    refine Or.inl ⟨fun loop hloop => ?_, rfl⟩
    rw [hthrown] at hloop
    cases hloop
  case h_2 loop hloop =>
    split
    case isTrue hfinished =>
      refine Or.inl ⟨fun found hfound => ?_, rfl⟩
      rw [hloop] at hfound
      cases hfound
      exact hfinished
    case isFalse => exact Or.inr ⟨loop, hloop, rfl⟩

/-! ## One round -/

section Rounds

variable {options : CommandOptions} {s s' : RunState} {a : Answer}

/-- A round that does not throw reads, asks for the child, and ends the group when it is overdue. -/
theorem round_ok_cases (h : round options s a.stopRequested a.round = .ok s') :
    ∃ waited, waitChild (readPipe options s a.read) a.wait = .ok waited ∧
      roundEvents options s a
        = readEvents a.read ++ waitEvents (readPipe options s a.read) a.wait ++
          (if overdue waited a then terminateEvents waited a else []) ∧
      s' = if overdue waited a then terminate waited a.stopRequested a.round else waited := by
  obtain ⟨waited, hwaited, hrest⟩ := bind_eq_ok.mp h
  refine ⟨waited, hwaited, ?_, ?_⟩
  · have hsame : waitChild (readPipe options s a.read) a.wait = .ok waited := hwaited
    simp only [roundEvents, hsame]
  · by_cases hoverdue : overdue waited a
    · rw [if_pos hoverdue]
      exact (Except.ok.inj ((if_pos hoverdue).symm.trans hrest)).symm
    · rw [if_neg hoverdue]
      exact (Except.ok.inj ((if_neg hoverdue).symm.trans hrest)).symm

end Rounds

/-! ## The result tells the truth -/

/-- The bytes that a call has read. -/
def Event.data : Event → Bytes
  | .chunk piece => piece.data
  | _ => []

/-- The status with which a call has collected the child. -/
def Event.status : Event → Option WaitStatus
  | .reaped status => some status
  | _ => none

/-- All chunks read, one after the other. -/
def bytesRead (log : List Event) : Bytes := log.flatMap Event.data

/-- The statuses with which the child was collected. -/
def reapedWith (log : List Event) : List WaitStatus := log.filterMap Event.status

/-- The result agrees with the calls. -/
structure Truthful (options : CommandOptions) (result : CommandResult) (log : List Event) :
    Prop where
  output : result.output = (bytesRead log).take options.maxOutputBytes
  truncated : result.outputTruncated = true ↔ options.maxOutputBytes < (bytesRead log).length
  exclusive : ¬(result.timedOut = true ∧ result.cancelled = true)
  cancelled : result.cancelled = true → result.exitCode = 125
  timedOut : result.timedOut = true → result.exitCode = 124
  exited : result.cancelled = false → result.timedOut = false →
    ∃ status, reapedWith log = [status] ∧ result.exitCode = normalizedExitCode status

/-- The variables of the loop agree with the calls so far. -/
structure LoopTruthful (options : CommandOptions) (log : List Event) (s : RunState) : Prop where
  output : s.output = (bytesRead log).take options.maxOutputBytes
  truncated : s.outputTruncated = true ↔ options.maxOutputBytes < (bytesRead log).length
  exclusive : ¬(s.timedOut = true ∧ s.cancelled = true)
  status : s.cancelled = false → s.timedOut = false →
    reapedWith log = if s.childFinished then [s.status] else []

section Truth

variable {options : CommandOptions} {log : List Event} {s s' : RunState} {a : Answer}

theorem bytesRead_append (log events : List Event) :
    bytesRead (log ++ events) = bytesRead log ++ bytesRead events := List.flatMap_append

theorem reapedWith_append (log events : List Event) :
    reapedWith (log ++ events) = reapedWith log ++ reapedWith events := List.filterMap_append

/-- Taking what still fits of a chunk is taking from all chunks together. -/
theorem take_append_take {α : Type*} (limit : ℕ) (before data : List α) :
    before.take limit ++ data.take (min data.length (limit - (before.take limit).length))
      = (before ++ data).take limit := by
  rw [List.take_append, List.append_cancel_left_eq, List.take_eq_take_iff, List.length_take]
  omega

/-- The result says nothing of the pipe. -/
theorem LoopTruthful.pipe (h : LoopTruthful options log s) (pipeFinished : Bool) :
    LoopTruthful options log { s with pipeFinished := pipeFinished } :=
  ⟨h.output, h.truncated, h.exclusive, h.status⟩

theorem LoopTruthful.readPipe (h : LoopTruthful options log s) (read : ReadResult) :
    LoopTruthful options (log ++ readEvents read) (readPipe options s read) := by
  cases read with
  | chunk chunk =>
    have hbytes : bytesRead (log ++ readEvents (.chunk chunk)) = bytesRead log ++ chunk.data := by
      rw [bytesRead_append]
      show bytesRead log ++ (chunk.data ++ []) = _
      rw [List.append_nil]
    have hreaped : reapedWith (log ++ readEvents (.chunk chunk)) = reapedWith log := by
      rw [reapedWith_append]
      exact List.append_nil _
    constructor
    case output =>
      rw [hbytes, ← take_append_take, ← h.output]
      rfl
    case truncated =>
      rw [hbytes, List.length_append]
      show (s.outputTruncated || decide _) = true ↔ _
      rw [Bool.or_eq_true, h.truncated, decide_eq_true_iff, h.output, List.length_take]
      omega
    case exclusive => exact h.exclusive
    case status =>
      rw [hreaped]
      exact h.status
  | endOfFile =>
    show LoopTruthful options (log ++ []) _
    rw [List.append_nil]
    exact h.pipe true
  | again =>
    show LoopTruthful options (log ++ []) _
    rw [List.append_nil]
    exact h
  | failed =>
    show LoopTruthful options (log ++ []) _
    rw [List.append_nil]
    exact h.pipe true

/-- The child is collected in the loop at most once, and then with the status that is kept. -/
theorem LoopTruthful.waitChild (h : LoopTruthful options log s) {wait : WaitResult}
    (hwait : waitChild s wait = .ok s') :
    LoopTruthful options (log ++ waitEvents s wait) s' := by
  unfold CommandRunner.waitChild at hwait
  unfold waitEvents
  split at hwait
  case isTrue hfinished =>
    cases hwait
    rwa [if_pos hfinished, List.append_nil]
  case isFalse hrunning =>
    rw [if_neg hrunning]
    cases wait with
    | child status =>
      cases hwait
      have hbytes : bytesRead (log ++ [Event.reaped status]) = bytesRead log := by
        rw [bytesRead_append]
        exact List.append_nil _
      constructor
      case output =>
        rw [hbytes]
        exact h.output
      case truncated =>
        rw [hbytes]
        exact h.truncated
      case exclusive => exact h.exclusive
      case status =>
        intro hcancelled htimedOut
        rw [reapedWith_append, h.status hcancelled htimedOut, if_neg hrunning]
        rfl
    | notYet =>
      cases hwait
      rwa [List.append_nil]
    | interrupted =>
      cases hwait
      rwa [List.append_nil]
    | failed message => cases hwait

/-- Ending the group reads nothing. -/
theorem bytesRead_terminateEvents (s : RunState) (a : Answer) :
    bytesRead (terminateEvents s a) = [] := by
  rw [terminateEvents]
  cases a.round.reaped with
  | some status => rfl
  | none =>
    dsimp only
    split
    case isTrue => rfl
    case isFalse =>
      cases a.killed with
      | none => rfl
      | some status => rfl

theorem terminate_flags (s : RunState) (stopRequested : Bool) (r : Round) :
    (terminate s stopRequested r).cancelled = stopRequested ∧
      (terminate s stopRequested r).timedOut = !stopRequested ∧
      (terminate s stopRequested r).output = s.output ∧
      (terminate s stopRequested r).outputTruncated = s.outputTruncated := by
  unfold terminate
  cases r.reaped with
  | some status => exact ⟨rfl, rfl, rfl, rfl⟩
  | none =>
    dsimp only
    split
    case isTrue => exact ⟨rfl, rfl, rfl, rfl⟩
    case isFalse => exact ⟨rfl, rfl, rfl, rfl⟩

/-- Ending the group sets one of the two flags. -/
theorem LoopTruthful.terminate (h : LoopTruthful options log s) (a : Answer) :
    LoopTruthful options (log ++ terminateEvents s a) (terminate s a.stopRequested a.round) := by
  obtain ⟨hcancelled, htimedOut, houtput, htruncated⟩ := terminate_flags s a.stopRequested a.round
  have hbytes : bytesRead (log ++ terminateEvents s a) = bytesRead log := by
    rw [bytesRead_append, bytesRead_terminateEvents, List.append_nil]
  constructor
  case output =>
    rw [hbytes, houtput]
    exact h.output
  case truncated =>
    rw [hbytes, htruncated]
    exact h.truncated
  case exclusive =>
    rw [hcancelled, htimedOut]
    cases a.stopRequested with
    | false => simp
    | true => simp
  case status =>
    rw [hcancelled, htimedOut]
    intro hfalse htrue
    rw [hfalse] at htrue
    cases htrue

/-- **One round** keeps the variables in agreement with the calls. -/
theorem LoopTruthful.round (h : LoopTruthful options log s)
    (hround : round options s a.stopRequested a.round = .ok s') :
    LoopTruthful options (log ++ roundEvents options s a) s' := by
  obtain ⟨waited, hwaited, hevents, rfl⟩ := round_ok_cases hround
  have hkept := (h.readPipe a.read).waitChild hwaited
  rw [hevents, ← List.append_assoc, ← List.append_assoc]
  split
  case isTrue => exact hkept.terminate a
  case isFalse =>
    rw [List.append_nil]
    exact hkept

/-- Before the first round nothing was read and the child was not collected. -/
theorem LoopTruthful.start (options : CommandOptions) (deadline : TimePoint) :
    LoopTruthful options [] { deadline := deadline } where
  output := List.take_nil.symm
  truncated := iff_of_false Bool.false_ne_true (Nat.not_lt_zero _)
  exclusive := fun h => Bool.false_ne_true h.1
  status := fun _ _ => rfl

/-- The loop, as long as there is one, agrees with the calls. -/
def RunnerTruthful (options : CommandOptions) (log : List Event) (s : RunnerState) : Prop :=
  ∀ loop, s.loop = .ok loop → LoopTruthful options log loop

theorem RunnerTruthful.step {s : RunnerState} (h : RunnerTruthful options log s) (a : Answer) :
    RunnerTruthful options (log ++ ((runner options).step s a).2)
      ((runner options).step s a).1 := by
  obtain ⟨-, hstep⟩ | ⟨loop, hloop, hstep⟩ := step_cases options s a
  · rw [hstep, List.append_nil]
    exact h
  · rw [hstep]
    intro after hafter
    exact (h loop hloop).round hafter

/-- What is returned after the loop agrees with the calls. -/
theorem LoopTruthful.result (h : LoopTruthful options log s) (hfinished : s.finished = true)
    (command : Bytes) : Truthful options (result command s) log where
  output := h.output
  truncated := h.truncated
  exclusive := h.exclusive
  cancelled := fun hcancelled => if_pos hcancelled
  timedOut := fun htimedOut => by
    have hnot : ¬s.cancelled = true := fun hcancelled => h.exclusive ⟨htimedOut, hcancelled⟩
    exact (if_neg hnot).trans (if_pos htimedOut)
  exited := fun hcancelled htimedOut => by
    have hchild : s.childFinished = true := (Bool.and_eq_true_iff.mp hfinished).1
    refine ⟨s.status, ?_, ?_⟩
    · exact (h.status hcancelled htimedOut).trans (if_pos hchild)
    · exact (if_neg (ne_true_of_eq_false hcancelled)).trans
        (if_neg (ne_true_of_eq_false htimedOut))

end Truth

/-- No signal goes to a group without processes after the child was collected: from then on the
number of the group may be given to another one. -/
def SignalsOwn (log : List Event) : Prop :=
  ∀ before signal after, log = before ++ .kill signal false :: after →
    ∀ status, .reaped status ∉ before

/-- The same for the calls that are left, when the child may be collected already. -/
def OwnAfter (collected : Bool) (log : List Event) : Prop :=
  ∀ before signal after, log = before ++ .kill signal false :: after →
    (collected || before.any Event.reaps) = false

/-- The child is collected before a round or by its `waitpid`. -/
def CollectedBy (s : RunnerState) (loop : RunState) (a : Answer) : Prop :=
  s.reaped = true ∨ loop.childFinished = false ∧ ∃ status, a.wait = .child status

/-- A round that goes wrong, read off the loop before it and the answers: the child is collected,
the pipe stays open, the round is overdue, and no process of the group is left for `SIGTERM`. -/
def PipeOutlivesGroup (s : RunnerState) (a : Answer) : Prop :=
  ∃ loop, s.loop = .ok loop ∧
    CollectedBy s loop a ∧
    (loop.pipeFinished || a.read.ends) = false ∧
    (a.stopRequested = true ∨ loop.deadline ≤ a.now) ∧
    a.groupAtTerm = false

/-- A collected child is a finished one. -/
def CollectedFinished (s : RunnerState) : Prop :=
  ∀ loop, s.loop = .ok loop → s.reaped = true → loop.childFinished = true

section Own

variable {options : CommandOptions} {collected : Bool} {log : List Event} {s : RunnerState}
  {loop : RunState} {a : Answer}

theorem Event.reaps_eq_true_iff {event : Event} :
    event.reaps = true ↔ ∃ status, event = .reaped status := by
  cases event with
  | reaped status => exact iff_of_true rfl ⟨status, rfl⟩
  | chunk chunk => exact iff_of_false Bool.false_ne_true (by rintro ⟨status, ⟨⟩⟩)
  | kill signal groupRemains => exact iff_of_false Bool.false_ne_true (by rintro ⟨status, ⟨⟩⟩)

theorem signalsOwn_iff_ownAfter : SignalsOwn log ↔ OwnAfter false log := by
  have hnone : ∀ before : List Event, (false || before.any Event.reaps) = false
      ↔ ∀ status, .reaped status ∉ before := by
    intro before
    rw [Bool.false_or, List.any_eq_false]
    constructor
    · intro h status hmem
      exact h _ hmem rfl
    · intro h event hmem hreaps
      obtain ⟨status, rfl⟩ := Event.reaps_eq_true_iff.mp hreaps
      exact h status hmem
  constructor
  · intro h before signal after hlog
    exact (hnone before).mpr (h before signal after hlog)
  · intro h before signal after hlog
    exact (hnone before).mp (h before signal after hlog)

theorem ownAfter_nil : OwnAfter collected [] := by
  intro before signal after hlog
  exact absurd hlog.symm (List.append_ne_nil_of_right_ne_nil before (List.cons_ne_nil _ after))

/-- The first call counts by itself; the others come after it. -/
theorem ownAfter_cons (event : Event) :
    OwnAfter collected (event :: log)
      ↔ (∀ signal, event = .kill signal false → collected = false) ∧
        OwnAfter (collected || event.reaps) log := by
  constructor
  · intro h
    constructor
    · rintro signal rfl
      simpa using h [] signal log rfl
    · rintro before signal after rfl
      simpa [Bool.or_assoc] using h (event :: before) signal after rfl
  · rintro ⟨hfirst, hrest⟩ before signal after hlog
    cases before with
    | nil =>
      obtain ⟨rfl, rfl⟩ := List.cons.inj hlog
      simpa using hfirst signal rfl
    | cons found before =>
      obtain ⟨rfl, rfl⟩ := List.cons.inj hlog
      simpa [Bool.or_assoc] using hrest before signal after rfl

theorem ownAfter_append (events : List Event) :
    OwnAfter collected (events ++ log)
      ↔ OwnAfter collected events ∧ OwnAfter (collected || events.any Event.reaps) log := by
  induction events generalizing collected with
  | nil => simp [ownAfter_nil]
  | cons event events ih =>
    rw [List.cons_append, ownAfter_cons, ownAfter_cons, ih, and_assoc, List.any_cons,
      Bool.or_assoc]

theorem ownAfter_readEvents (read : ReadResult) : OwnAfter collected (readEvents read) := by
  cases read with
  | chunk chunk => exact (ownAfter_cons _).mpr ⟨(by rintro signal ⟨⟩), ownAfter_nil⟩
  | endOfFile => exact ownAfter_nil
  | again => exact ownAfter_nil
  | failed => exact ownAfter_nil

theorem readEvents_any_reaps (read : ReadResult) :
    (readEvents read).any Event.reaps = false := by
  cases read <;> rfl

theorem ownAfter_waitEvents (s : RunState) (wait : WaitResult) :
    OwnAfter collected (waitEvents s wait) := by
  unfold waitEvents
  split
  case isTrue => exact ownAfter_nil
  case isFalse =>
    split
    case h_1 status => exact (ownAfter_cons _).mpr ⟨(by rintro signal ⟨⟩), ownAfter_nil⟩
    case h_2 => exact ownAfter_nil

theorem waitEvents_any_reaps (s : RunState) (wait : WaitResult) :
    (waitEvents s wait).any Event.reaps = true
      ↔ s.childFinished = false ∧ ∃ status, wait = .child status := by
  unfold waitEvents
  cases s.childFinished with
  | true => simp
  | false => cases wait <;> simp [Event.reaps]

/-- `SIGTERM` is what can go wrong; `SIGKILL` and the `waitpid` next to it are for a child that
is not collected. -/
theorem ownAfter_terminateEvents {s : RunState}
    (hcollected : collected = true → s.childFinished = true) :
    OwnAfter collected (terminateEvents s a)
      ↔ ¬(collected = true ∧ a.groupAtTerm = false) := by
  have hrest : OwnAfter collected
      (match a.round.reaped with
        | some status => [.reaped status]
        | none =>
          if s.childFinished then []
          else .kill .kill a.groupAtKill :: (a.killed.map Event.reaped).toList) := by
    split
    case h_1 status => exact (ownAfter_cons _).mpr ⟨(by rintro signal ⟨⟩), ownAfter_nil⟩
    case h_2 =>
      split
      case isTrue => exact ownAfter_nil
      case isFalse hrunning =>
        refine (ownAfter_cons _).mpr ⟨fun _ _ => ?_, ?_⟩
        · exact Bool.eq_false_iff.mpr fun h => hrunning (hcollected h)
        · cases a.killed with
          | none => exact ownAfter_nil
          | some status =>
            exact (ownAfter_cons _).mpr ⟨(by rintro signal ⟨⟩), ownAfter_nil⟩
  have hkill : (Event.kill .term a.groupAtTerm).reaps = false := rfl
  rw [terminateEvents, ownAfter_cons, hkill, Bool.or_false, and_iff_left hrest]
  cases collected <;> cases a.groupAtTerm <;> simp

/-- What a round that does not throw knows of the child and of the pipe after its `waitpid`. -/
theorem waitChild_finished {s waited : RunState} {read : ReadResult} {wait : WaitResult}
    (h : waitChild (readPipe options s read) wait = .ok waited) :
    (waited.childFinished = true ↔
        s.childFinished = true ∨ ∃ status, wait = .child status) ∧
      waited.pipeFinished = (s.pipeFinished || read.ends) ∧
      waited.deadline = s.deadline := by
  have hpipe := (waitChild_eq_ok h).1
  rw [readPipe_pipeFinished] at hpipe
  have hdeadline : (readPipe options s read).deadline = s.deadline := by
    cases read <;> rfl
  unfold waitChild at h
  rw [readPipe_childFinished] at h
  split at h
  case isTrue hfinished =>
    cases h
    exact ⟨iff_of_true ((readPipe_childFinished options s read).trans hfinished)
      (Or.inl hfinished), hpipe, hdeadline⟩
  case isFalse hrunning =>
    have hstill : ¬(readPipe options s read).childFinished = true := by
      rwa [readPipe_childFinished]
    cases wait with
    | child status =>
      cases h
      exact ⟨iff_of_true rfl (Or.inr ⟨status, rfl⟩), hpipe, hdeadline⟩
    | notYet =>
      cases h
      exact ⟨iff_of_false hstill (by simp [hrunning]), hpipe, hdeadline⟩
    | interrupted =>
      cases h
      exact ⟨iff_of_false hstill (by simp [hrunning]), hpipe, hdeadline⟩
    | failed message => cases h

/-- The calls before `SIGTERM` show whether the child is collected. -/
theorem collectedBy_iff :
    (s.reaped || (readEvents a.read ++ waitEvents (readPipe options loop a.read) a.wait).any
        Event.reaps) = true ↔ CollectedBy s loop a := by
  rw [List.any_append, readEvents_any_reaps, Bool.false_or, Bool.or_eq_true,
    waitEvents_any_reaps, readPipe_childFinished, CollectedBy]

theorem CollectedBy.waitChild (h : CollectedBy s loop a)
    (hchild : s.reaped = true → loop.childFinished = true) :
    loop.childFinished = true ∨ ∃ status, a.wait = .child status := by
  rcases h with hreaped | ⟨-, hwait⟩
  · exact Or.inl (hchild hreaped)
  · exact Or.inr hwait

/-- A round goes wrong when it is overdue with a collected child whose group is gone. -/
theorem pipeOutlivesGroup_iff (hloop : s.loop = .ok loop)
    (hchild : s.reaped = true → loop.childFinished = true) {waited : RunState}
    (hwaited : waitChild (readPipe options loop a.read) a.wait = .ok waited) :
    PipeOutlivesGroup s a ↔ CollectedBy s loop a ∧ overdue waited a ∧ a.groupAtTerm = false := by
  obtain ⟨hwaitedChild, hwaitedPipe, hdeadline⟩ := waitChild_finished hwaited
  constructor
  · rintro ⟨found, hfound, hcollected, hopen, hdue, hgone⟩
    rw [hloop] at hfound
    cases hfound
    refine ⟨hcollected, ⟨?_, hdeadline ▸ hdue⟩, hgone⟩
    rw [RunState.finished, hwaitedPipe, hopen, Bool.and_false]
  · rintro ⟨hcollected, ⟨hrunning, hdue⟩, hgone⟩
    have hdone : waited.childFinished = true := hwaitedChild.mpr (hcollected.waitChild hchild)
    rw [RunState.finished, hdone, Bool.true_and, hwaitedPipe] at hrunning
    exact ⟨loop, hloop, hcollected, hrunning, hdeadline ▸ hdue, hgone⟩

/-- **One round** sends its signals to the runner's own processes unless it goes wrong. -/
theorem ownAfter_roundEvents (hfinished : CollectedFinished s) (hloop : s.loop = .ok loop) :
    OwnAfter s.reaped (roundEvents options loop a) ↔ ¬PipeOutlivesGroup s a := by
  have hchild := hfinished loop hloop
  have hbefore : OwnAfter s.reaped
      (readEvents a.read ++ waitEvents (readPipe options loop a.read) a.wait) :=
    (ownAfter_append _).mpr ⟨ownAfter_readEvents a.read, ownAfter_waitEvents _ _⟩
  unfold roundEvents
  dsimp only
  rw [ownAfter_append, and_iff_right hbefore]
  split
  case h_1 message hthrown =>
    refine iff_of_true ownAfter_nil ?_
    rintro ⟨found, hfound, hcollectedBy, -⟩
    rw [hloop] at hfound
    cases hfound
    have hok := (waitChild_isOk_iff (readPipe options loop a.read) a.wait).mpr (by
      rcases CollectedBy.waitChild hcollectedBy hchild with hdone | ⟨status, hwait⟩
      · exact Or.inl ((readPipe_childFinished options loop a.read).trans hdone)
      · exact Or.inr fun message => hwait ▸ WaitResult.noConfusion)
    rw [hthrown] at hok
    cases hok
  case h_2 waited hwaited =>
    rw [pipeOutlivesGroup_iff hloop hchild hwaited]
    split
    case isTrue hoverdue =>
      have hdone : CollectedBy s loop a → waited.childFinished = true := fun h =>
        (waitChild_finished hwaited).1.mpr (h.waitChild hchild)
      rw [ownAfter_terminateEvents fun h => hdone (collectedBy_iff.mp h), collectedBy_iff,
        and_iff_right hoverdue]
    case isFalse hintime =>
      exact iff_of_true ownAfter_nil fun h => hintime h.2.1

/-- A child that is collected, before a round or in it, is finished after the round. -/
theorem round_collected {s' : RunState} (hchild : s.reaped = true → loop.childFinished = true)
    (hround : round options loop a.stopRequested a.round = .ok s')
    (hcollected : (s.reaped || (roundEvents options loop a).any Event.reaps) = true) :
    s'.childFinished = true := by
  obtain ⟨waited, hwaited, hevents, rfl⟩ := round_ok_cases hround
  by_cases hoverdue : overdue waited a
  · rw [if_pos hoverdue]
    exact terminate_childFinished
  · rw [if_neg hoverdue]
    rw [hevents, if_neg hoverdue, List.append_nil] at hcollected
    exact (waitChild_finished hwaited).1.mpr ((collectedBy_iff.mp hcollected).waitChild hchild)

/-- A collected child stays a finished one. -/
theorem CollectedFinished.step (h : CollectedFinished s) (a : Answer) :
    CollectedFinished ((runner options).step s a).1 := by
  obtain ⟨-, hstep⟩ | ⟨loop, hloop, hstep⟩ := step_cases options s a
  · rw [hstep]
    exact h
  · rw [hstep]
    intro after hafter hreaped
    exact round_collected (h loop hloop) hafter hreaped

/-- **One step** sends its signals to the runner's own processes unless its round goes wrong. -/
theorem ownAfter_step (h : CollectedFinished s) :
    OwnAfter s.reaped ((runner options).step s a).2 ↔ ¬PipeOutlivesGroup s a := by
  obtain ⟨hfinished, hstep⟩ | ⟨loop, hloop, hstep⟩ := step_cases options s a
  · rw [hstep]
    refine iff_of_true ownAfter_nil ?_
    rintro ⟨loop, hloop, -, hopen, -⟩
    have hboth := (Bool.and_eq_true_iff.mp (hfinished loop hloop)).2
    rw [hboth] at hopen
    cases hopen
  · rw [hstep]
    exact ownAfter_roundEvents h hloop

theorem step_reaped :
    ((runner options).step s a).1.reaped
      = (s.reaped || ((runner options).step s a).2.any Event.reaps) := by
  obtain ⟨-, hstep⟩ | ⟨loop, hloop, hstep⟩ := step_cases options s a
  · rw [hstep]
    exact (Bool.or_false _).symm
  · rw [hstep]

/-- **One run** sends its signals to the runner's own processes exactly when no round goes
wrong. -/
theorem ownAfter_run (options : CommandOptions) (answers : List Answer)
    (h : CollectedFinished s) :
    OwnAfter s.reaped ((runner options).run s answers).2
      ↔ (runner options).AllSteps (fun s a => ¬PipeOutlivesGroup s a) s answers := by
  induction answers generalizing s with
  | nil => exact iff_of_true ownAfter_nil trivial
  | cons a answers ih =>
    rw [Machine.run_cons, ownAfter_append, ownAfter_step h, ← step_reaped, ih (h.step a)]
    exact Iff.rfl

end Own

/-- Nothing is collected before the first round. -/
theorem collectedFinished_start (deadline : TimePoint) :
    CollectedFinished { loop := .ok { deadline := deadline } } := by
  intro loop hloop hreaped
  cases hreaped

/-- **Signals go to the runner's own processes** exactly in the runs none of whose rounds finds
a collected child, an open pipe, a passed deadline or a stop request, and an empty group. -/
theorem signalsOwn_iff (command : Bytes) (options : CommandOptions) (outcome : SpawnOutcome)
    (answers : List Answer) :
    SignalsOwn (run command options outcome answers).2
      ↔ ∀ start, spawn options outcome = .ok start →
          (runner options).AllSteps (fun s a => ¬PipeOutlivesGroup s a) { loop := .ok start }
            answers := by
  rw [signalsOwn_iff_ownAfter]
  cases outcome with
  | pipeFailed message => exact iff_of_true ownAfter_nil (by rintro start ⟨⟩)
  | forkFailed message => exact iff_of_true ownAfter_nil (by rintro start ⟨⟩)
  | started now =>
    have hrun := ownAfter_run options answers
      (collectedFinished_start (now + options.timeout))
    constructor
    · rintro hown start ⟨⟩
      exact hrun.mp hown
    · intro hgood
      exact hrun.mpr (hgood _ rfl)

/-- `setsid sleep 1d &`: the shell is collected at once, the detached `sleep` keeps the pipe, and
after a minute `SIGTERM` goes to a group that is no longer there. -/
theorem detached_process_signalled :
    ¬∀ command options outcome answers, SignalsOwn (run command options outcome answers).2 := by
  intro h
  have hown := h (Bytes.ofString "setsid sleep 1d &") {} (.started 0)
    [{ wait := .child (.exited 0) }, { now := 60 * nanosPerSecond, groupAtTerm := false }]
  exact hown [.reaped (.exited 0)] .term [] rfl (.exited 0) (List.mem_singleton_self _)

end CommandRunner

end Holonight
