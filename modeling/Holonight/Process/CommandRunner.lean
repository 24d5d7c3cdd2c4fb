import Holonight.Base.CppLib
import Holonight.Base.Exceptions
import Holonight.Health.HealthCheckJob

/-!
# Running a command (`CommandRunner.cpp`)

`CommandRunner::run` forks a shell and then polls, in rounds of about ten milliseconds: it
reads from the pipe, asks for the child with a non-blocking `waitpid`, and, when a stop is
requested or the deadline has passed, ends the process group with `SIGTERM` and `SIGKILL`.
`spawn` is what comes before the loop and `round` one pass of it; what the system answers is
an argument of each. Three calls throw when they fail: `pipe`, `fork` and the `waitpid` of a
round.

The flag of a stop request is read once in a round, after the `waitpid`. It is an argument
of `round`, so that the caller decides when the request came.
-/

namespace Holonight

namespace CommandRunner

open HealthCheckJob (CommandResult)

/-! ## What the system answers -/

/-- A status from `waitpid`, by its macros `WIFEXITED` and `WIFSIGNALED`. -/
inductive WaitStatus where
  | exited (code : UInt8)
  | signaled (signal : ℕ)
  | other
  deriving DecidableEq

/-- The signals the runner sends to the process group. -/
inductive Signal where
  | term
  | kill
  deriving DecidableEq

/-- The bytes of one `read`, into a buffer of 4096. -/
structure Chunk where
  data : Bytes
  nonempty : data ≠ []
  fits : data.length ≤ 4096

/-- What a `read` from the pipe returns; `again` is `EAGAIN`, `EWOULDBLOCK` or `EINTR`. -/
inductive ReadResult where
  | chunk (chunk : Chunk)
  | endOfFile
  | again
  | failed

/-- What the non-blocking `waitpid` of a round returns. -/
inductive WaitResult where
  | child (status : WaitStatus)
  | notYet
  | interrupted
  | failed (message : Bytes)

/-- How `pipe` and `fork` end; `now` is the time from which the deadline counts. -/
inductive SpawnOutcome where
  | pipeFailed (message : Bytes)
  | forkFailed (message : Bytes)
  | started (now : TimePoint)

/-- What one round gets from the system. When the group is ended, `reaped` is the status with
which the child is collected within the grace period and `killed` the one of the blocking
`waitpid` after `SIGKILL`, `none` when it fails. -/
structure Round where
  read : ReadResult := .again
  wait : WaitResult := .notYet
  now : TimePoint := 0
  reaped : Option WaitStatus := none
  killed : Option WaitStatus := none

/-! ## The runner -/

/-- `struct CommandOptions` without its pointer to the flag. -/
structure CommandOptions where
  timeout : ℤ := 60 * nanosPerSecond
  maxOutputBytes : ℕ := 1024 * 1024

/-- The variables of the loop. -/
structure RunState where
  deadline : TimePoint
  output : Bytes := []
  outputTruncated : Bool := false
  -- `int status = 0` is a normal exit with code 0
  status : WaitStatus := .exited 0
  childFinished : Bool := false
  pipeFinished : Bool := false
  timedOut : Bool := false
  cancelled : Bool := false
  sent : List Signal := []

/-- The loop is left. -/
def RunState.finished (s : RunState) : Bool := s.childFinished && s.pipeFinished

/-- `normalizedExitCode` (CommandRunner.cpp:49–57). -/
def normalizedExitCode : WaitStatus → ℤ
  | .exited code => code.toNat
  | .signaled signal => 128 + signal
  | .other => 127

/-- `pipe` and `fork` (CommandRunner.cpp:67–76). -/
def spawn (options : CommandOptions) : SpawnOutcome → Except Bytes RunState
  | .pipeFailed message => .error (Bytes.ofString "failed to create command pipe: " ++ message)
  | .forkFailed message => .error (Bytes.ofString "failed to fork command: " ++ message)
  | .started now => .ok { deadline := now + options.timeout }

/-- The `read` of a round, with `appendBounded` (CommandRunner.cpp:42–47, 107–115). -/
def readPipe (options : CommandOptions) (s : RunState) : ReadResult → RunState
  | .chunk chunk =>
    let accepted := min chunk.data.length (options.maxOutputBytes - s.output.length)
    { s with
      output := s.output ++ chunk.data.take accepted
      outputTruncated := s.outputTruncated || decide (accepted < chunk.data.length) }
  | .endOfFile => { s with pipeFinished := true }
  | .again => s
  | .failed => { s with pipeFinished := true }

/-- The `waitpid` of a round (CommandRunner.cpp:117–124). -/
def waitChild (s : RunState) (wait : WaitResult) : Except Bytes RunState :=
  if s.childFinished then .ok s
  else
    match wait with
    | .child status => .ok { s with status := status, childFinished := true }
    | .notYet => .ok s
    | .interrupted => .ok s
    | .failed message => .error (Bytes.ofString "failed to wait for command: " ++ message)

/-- The end of the process group (CommandRunner.cpp:130–147). -/
def terminate (s : RunState) (stopRequested : Bool) (r : Round) : RunState :=
  let s : RunState :=
    { s with cancelled := stopRequested, timedOut := !stopRequested, sent := s.sent ++ [.term] }
  match r.reaped with
  | some status => { s with status := status, childFinished := true }
  | none =>
    if s.childFinished then s
    else
      { s with
        sent := s.sent ++ [.kill]
        -- a `waitpid` that fails leaves the status as it was
        status := r.killed.getD s.status
        childFinished := true }

/-- One pass of the loop (CommandRunner.cpp:106–153). -/
def round (options : CommandOptions) (s : RunState) (stopRequested : Bool) (r : Round) :
    Except Bytes RunState := do
  let s ← waitChild (readPipe options s r.read) r.wait
  if s.finished = false ∧ (stopRequested = true ∨ s.deadline ≤ r.now) then
    return terminate s stopRequested r
  else return s

/-- What is returned after the loop (CommandRunner.cpp:155–163). -/
def result (command : Bytes) (s : RunState) : CommandResult where
  command := command
  exitCode :=
    if s.cancelled then 125 else if s.timedOut then 124 else normalizedExitCode s.status
  output := s.output
  timedOut := s.timedOut
  cancelled := s.cancelled
  outputTruncated := s.outputTruncated

/-! ## When the runner throws -/

theorem spawn_isOk_iff (options : CommandOptions) (outcome : SpawnOutcome) :
    (spawn options outcome).isOk = true ↔ ∃ now, outcome = .started now := by
  cases outcome with
  | pipeFailed message => exact iff_of_false Bool.false_ne_true (by rintro ⟨now, ⟨⟩⟩)
  | forkFailed message => exact iff_of_false Bool.false_ne_true (by rintro ⟨now, ⟨⟩⟩)
  | started now => exact iff_of_true rfl ⟨now, rfl⟩

theorem waitChild_isOk_iff (s : RunState) (wait : WaitResult) :
    (waitChild s wait).isOk = true
      ↔ s.childFinished = true ∨ ∀ message, wait ≠ .failed message := by
  unfold waitChild
  cases hfinished : s.childFinished with
  | true => exact iff_of_true rfl (Or.inl rfl)
  | false =>
    cases wait with
    | failed message =>
      refine iff_of_false Bool.false_ne_true ?_
      rintro (h | h)
      · cases h
      · exact h message rfl
    | child status => exact iff_of_true rfl (Or.inr fun _ => WaitResult.noConfusion)
    | notYet => exact iff_of_true rfl (Or.inr fun _ => WaitResult.noConfusion)
    | interrupted => exact iff_of_true rfl (Or.inr fun _ => WaitResult.noConfusion)

theorem readPipe_childFinished (options : CommandOptions) (s : RunState) (read : ReadResult) :
    (readPipe options s read).childFinished = s.childFinished := by
  cases read <;> rfl

/-- **A round throws** exactly when the child is still waited for and `waitpid` fails with
something other than an interruption. -/
theorem round_isOk_iff (options : CommandOptions) (s : RunState) (stopRequested : Bool)
    (r : Round) :
    (round options s stopRequested r).isOk = true
      ↔ s.childFinished = true ∨ ∀ message, r.wait ≠ .failed message := by
  have hrest : ∀ s : RunState,
      (if s.finished = false ∧ (stopRequested = true ∨ s.deadline ≤ r.now) then
        (pure (terminate s stopRequested r) : Except Bytes RunState) else pure s).isOk = true := by
    intro s
    split <;> rfl
  rw [round, isOk_bind _ _ true hrest, Bool.and_true, waitChild_isOk_iff,
    readPipe_childFinished]

end CommandRunner

end Holonight
