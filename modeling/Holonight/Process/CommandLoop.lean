import Holonight.Process.CommandRunner

/-!
# The loop of the command runner (`CommandRunner.cpp`)

The loop of `CommandRunner::run` is left when the child has been reaped and the pipe is at
its end. Stop requests and the deadline act on the first condition only: the process group
is ended and the child collected, but the pipe stays open for as long as any process holds
its other side, and a descendant that left the group is not reached by the signals.

`rounds` iterates `round` over an endless supply of answers from the system.
`overdue_loop_ends_iff` says when a loop whose deadline has passed, or that was asked to
stop, and whose child is reaped, comes to an end: exactly when some `read` reports the end of
the pipe (or an error).
-/

namespace Holonight

namespace CommandRunner

/-! ## Rounds -/

/-- The answers of the system in each round, with the flag of a stop request. -/
abbrev Answers := ℕ → Bool × Round

/-- The loop after a number of rounds; a loop that is left stays as it is. -/
def rounds (options : CommandOptions) (s : RunState) (answers : Answers) :
    ℕ → Except Bytes RunState
  | 0 => .ok s
  | n + 1 => do
    let s ← rounds options s answers n
    if s.finished then return s
    else round options s (answers n).1 (answers n).2

/-- The loop has been left. -/
def LeftBy (options : CommandOptions) (s : RunState) (answers : Answers) (n : ℕ) : Prop :=
  ∃ left, rounds options s answers n = .ok left ∧ left.finished = true

/-- The `read` sets `pipe_finished`. -/
def ReadResult.ends : ReadResult → Bool
  | .endOfFile => true
  | .failed => true
  | _ => false

section Steps

variable {options : CommandOptions} {s s' : RunState} {stopRequested : Bool} {r : Round}

theorem terminate_pipeFinished :
    (terminate s stopRequested r).pipeFinished = s.pipeFinished := by
  unfold terminate
  cases r.reaped with
  | some status => rfl
  | none =>
    simp only
    split <;> rfl

theorem terminate_childFinished : (terminate s stopRequested r).childFinished = true := by
  unfold terminate
  cases r.reaped with
  | some status => rfl
  | none =>
    simp only
    split
    · rename_i hfinished
      exact hfinished
    · rfl

theorem waitChild_eq_ok {wait : WaitResult} (h : waitChild s wait = .ok s') :
    s'.pipeFinished = s.pipeFinished ∧ (s.childFinished = true → s'.childFinished = true) := by
  unfold waitChild at h
  split at h
  · cases h
    exact ⟨rfl, id⟩
  · rename_i hrunning
    cases wait with
    | child status =>
      cases h
      exact ⟨rfl, fun _ => rfl⟩
    | notYet =>
      cases h
      exact ⟨rfl, id⟩
    | interrupted =>
      cases h
      exact ⟨rfl, id⟩
    | failed message => cases h

theorem readPipe_pipeFinished (read : ReadResult) :
    (readPipe options s read).pipeFinished = (s.pipeFinished || read.ends) := by
  cases read with
  | chunk chunk => exact (Bool.or_false _).symm
  | endOfFile => exact (Bool.or_true _).symm
  | again => exact (Bool.or_false _).symm
  | failed => exact (Bool.or_true _).symm

/-- **One round**: only the `read` can end the pipe, and a reaped child stays reaped. -/
theorem round_eq_ok (h : round options s stopRequested r = .ok s') :
    s'.pipeFinished = (s.pipeFinished || r.read.ends) ∧
      (s.childFinished = true → s'.childFinished = true) := by
  obtain ⟨waited, hwaited, h⟩ := bind_eq_ok.mp h
  obtain ⟨hpipe, hchild⟩ := waitChild_eq_ok hwaited
  rw [readPipe_pipeFinished] at hpipe
  rw [readPipe_childFinished] at hchild
  split at h
  · cases h
    rw [terminate_pipeFinished]
    exact ⟨hpipe, fun _ => terminate_childFinished⟩
  · cases h
    exact ⟨hpipe, hchild⟩

end Steps

/-! ## Runs of the loop -/

section Runs

variable {options : CommandOptions} {s t : RunState} {answers : Answers} {n : ℕ}

/-- The pipe is at its end exactly when some `read` so far said so. -/
theorem rounds_pipeFinished (h : rounds options s answers n = .ok t) :
    t.pipeFinished = true
      ↔ s.pipeFinished = true ∨ ∃ k < n, (answers k).2.read.ends = true := by
  induction n generalizing t with
  | zero =>
    cases h
    refine ⟨Or.inl, ?_⟩
    rintro (hs | ⟨k, hk, -⟩)
    · exact hs
    · exact absurd hk (Nat.not_lt_zero k)
  | succ n ih =>
    obtain ⟨before, hbefore, h⟩ := bind_eq_ok.mp h
    have hlast : (∃ k < n + 1, (answers k).2.read.ends = true)
        ↔ (∃ k < n, (answers k).2.read.ends = true) ∨ (answers n).2.read.ends = true := by
      constructor
      · rintro ⟨k, hk, hends⟩
        rcases Nat.lt_succ_iff_lt_or_eq.mp hk with hlt | rfl
        · exact Or.inl ⟨k, hlt, hends⟩
        · exact Or.inr hends
      · rintro (⟨k, hk, hends⟩ | hends)
        · exact ⟨k, Nat.lt_succ_of_lt hk, hends⟩
        · exact ⟨n, Nat.lt_succ_self n, hends⟩
    rw [hlast, ← or_assoc, ← ih hbefore]
    split at h
    · -- a loop that was left has seen the end already
      rename_i hleft
      cases h
      rw [RunState.finished, Bool.and_eq_true] at hleft
      exact ⟨Or.inl, fun _ => hleft.2⟩
    · rw [(round_eq_ok h).1, Bool.or_eq_true]

/-- Once the child is reaped the loop never throws, and the child stays reaped. -/
theorem rounds_reaped (h : rounds options s answers n = .ok t) (hreaped : t.childFinished = true)
    {m : ℕ} (hle : n ≤ m) :
    ∃ later, rounds options s answers m = .ok later ∧ later.childFinished = true := by
  induction m, hle using Nat.le_induction with
  | base => exact ⟨t, h, hreaped⟩
  | succ m hle ih =>
    obtain ⟨before, hbefore, hchild⟩ := ih
    have hstep : rounds options s answers (m + 1)
        = if before.finished then .ok before
          else round options before (answers m).1 (answers m).2 := by
      rw [rounds, hbefore]
      rfl
    rw [hstep]
    split
    · exact ⟨before, rfl, hchild⟩
    · have hok := (round_isOk_iff options before (answers m).1 (answers m).2).mpr (Or.inl hchild)
      cases hround : round options before (answers m).1 (answers m).2 with
      | error message =>
        rw [hround] at hok
        cases hok
      | ok later => exact ⟨later, rfl, (round_eq_ok hround).2 hchild⟩

end Runs

/-! ## After the deadline -/

/-- A command that was started, after a number of rounds: its deadline has passed in one of
them, or a stop was requested, and its child has been reaped. -/
structure OverdueAt (options : CommandOptions) (started : TimePoint) (answers : Answers) (n : ℕ)
    (s : RunState) : Prop where
  spawned : spawn options (.started started) = .ok s
  overdue : ∃ k < n, (answers k).1 = true ∨ s.deadline ≤ (answers k).2.now
  reaped : ∃ t, rounds options s answers n = .ok t ∧ t.childFinished = true

/-- **The deadline does not end the loop**: once it has passed, or a stop was requested, and
the child is reaped, the loop is left after finitely many further rounds if and only if some
`read` reports the end of the pipe or fails. -/
theorem overdue_loop_ends_iff (options : CommandOptions) (started : TimePoint)
    (answers : Answers) (n : ℕ) (s : RunState) (h : OverdueAt options started answers n s) :
    (∃ m ≥ n, LeftBy options s answers m) ↔ ∃ k, (answers k).2.read.ends = true := by
  obtain ⟨t, ht, hreaped⟩ := h.reaped
  have hopen : s.pipeFinished = false := by
    have hspawned := h.spawned
    cases hspawned
    rfl
  constructor
  · rintro ⟨m, -, left, hleft, hfinished⟩
    rw [RunState.finished, Bool.and_eq_true] at hfinished
    rcases (rounds_pipeFinished hleft).mp hfinished.2 with hs | ⟨k, -, hends⟩
    · rw [hopen] at hs
      cases hs
    · exact ⟨k, hends⟩
  · rintro ⟨k, hends⟩
    obtain ⟨left, hleft, hchild⟩ := rounds_reaped ht hreaped (Nat.le_max_left n (k + 1))
    refine ⟨max n (k + 1), Nat.le_max_left n (k + 1), left, hleft, ?_⟩
    have hpipe := (rounds_pipeFinished hleft).mpr
      (Or.inr ⟨k, Nat.lt_of_succ_le (Nat.le_max_right n (k + 1)), hends⟩)
    rw [RunState.finished, hchild, hpipe]
    rfl

/-- A command that runs past its deadline and is ended; the pipe closes with it. -/
def endedCommand : Answers := fun k =>
  (false, { read := if k = 0 then .again else .endOfFile, now := 60 * nanosPerSecond,
            reaped := some (.signaled 15) })

/-- Its loop is left. -/
theorem ended_command_loop_ends :
    OverdueAt {} 0 endedCommand 1 { deadline := 60 * nanosPerSecond } ∧
      ∃ m ≥ 1, LeftBy {} { deadline := 60 * nanosPerSecond } endedCommand m := by
  have hoverdue : OverdueAt {} 0 endedCommand 1 { deadline := 60 * nanosPerSecond } :=
    ⟨rfl, ⟨0, by decide, Or.inr le_rfl⟩, ⟨_, rfl, rfl⟩⟩
  exact ⟨hoverdue, (overdue_loop_ends_iff _ _ _ _ _ hoverdue).mpr ⟨1, rfl⟩⟩

/-- A shell that leaves a process of its own session behind (`setsid sleep 1d &`) and ends
at once: the process keeps the pipe open and writes nothing. -/
def detachedProcess : Answers := fun _ =>
  (false, { read := .again, wait := .child (.exited 0), now := 60 * nanosPerSecond })

/-- The deadline has passed and the child is reaped after the first round, but the loop is
never left. -/
theorem detached_process_blocks_loop :
    OverdueAt {} 0 detachedProcess 1 { deadline := 60 * nanosPerSecond } ∧
      ∀ m, ¬ LeftBy {} { deadline := 60 * nanosPerSecond } detachedProcess m := by
  refine ⟨⟨rfl, ⟨0, by decide, Or.inr le_rfl⟩, ⟨_, rfl, rfl⟩⟩, ?_⟩
  rintro m ⟨left, hleft, hfinished⟩
  rw [RunState.finished, Bool.and_eq_true] at hfinished
  rcases (rounds_pipeFinished hleft).mp hfinished.2 with hs | ⟨k, -, hends⟩
  · cases hs
  · cases hends

end CommandRunner

end Holonight
