import Holonight.Agent.SessionHistory

/-!
# The main loop of the daemon (`agentd/main.cpp`)

`main` handles one message of the bus after the other. When there is none it looks at a steady clock,
prunes the stale sessions when a minute has passed since the last prune, and waits. So a prune comes
only in a round in which the bus is idle, and at most once a minute; what a prune removes is decided
by another clock, the one of the records.

- `mainLoop_ctx`: the loop runs the daemon (`agentd`) on its messages and prunes.
- `no_stale_sessions`: whenever the bus is idle, no session of the registry has been idle for more
  than a day and the minute between two prunes, as long as the two clocks go together.
-/

namespace Holonight

namespace Agent

/-! ## Rounds of the loop -/

/-- The input is a message of the bus. -/
def Input.isMessage : Input → Bool
  | .pruneStaleSessions _ => false
  | _ => true

/-- A message that a handler of the daemon takes. -/
abbrev Message := { input : Input // input.isMessage = true }

/-- What one pass of the loop gets from outside, or a signal between two passes. -/
inductive Round where
  /-- `sd_bus_process` has handled a message; `none` is one that is not for a handler. -/
  | processed (message : Option Message)
  /-- `sd_bus_process` has failed. -/
  | failed
  /-- There is no message: the steady clock at the test, and the readings of a prune. -/
  | idle (checked system again : TimePoint)
  | signalled

/-- The variables of `main`. -/
structure MainState where
  ctx : AppContext
  nextPrune : TimePoint
  running : Bool

/-- `std::chrono::minutes{1}`. -/
def nanosPerMinute : ℤ := 60 * nanosPerSecond

/-- `main` before its loop (main.cpp:239); `start` is the steady clock. -/
def MainState.initial (start : TimePoint) : MainState :=
  { ctx := .initial, nextPrune := start + nanosPerMinute, running := true }

/-- The calls of the daemon that a round makes. -/
def callsOf (s : MainState) : Round → List Input
  | .processed (some message) => if s.running then [message.val] else []
  | .idle checked system _ =>
    if s.running ∧ s.nextPrune ≤ checked then [.pruneStaleSessions system] else []
  | _ => []

/-- One pass of the loop (main.cpp:240–253). -/
def mainStep (env : Environment) (s : MainState) (round : Round) : MainState × List Output :=
  if s.running then
    match round with
    | .processed none => (s, [])
    | .processed (some message) =>
      let handled := handle env s.ctx message.val
      ({ s with ctx := handled.1 }, handled.2)
    -- `break`
    | .failed => ({ s with running := false }, [])
    | .idle checked system again =>
      if s.nextPrune ≤ checked then
        let pruned := handle env s.ctx (.pruneStaleSessions system)
        ({ s with ctx := pruned.1, nextPrune := again + nanosPerMinute }, pruned.2)
      else (s, [])
    | .signalled => ({ s with running := false }, [])
  else (s, [])

/-- The loop as a machine. -/
def mainLoop (env : Environment) : Machine MainState Round Output where
  step := mainStep env

section Loop

variable {env : Environment} {s : MainState}

/-- A round leaves the daemon as its calls leave it. -/
theorem mainStep_ctx (s : MainState) (round : Round) :
    ((mainLoop env).step s round).1.ctx = ((agentd env).run s.ctx (callsOf s round)).1 := by
  show (mainStep env s round).1.ctx = _
  unfold mainStep callsOf
  cases hrunning : s.running with
  | false => cases round with
    | processed message => cases message <;> rfl
    | failed | idle | signalled => simp
  | true =>
    cases round with
    | processed message => cases message <;> rfl
    | failed | signalled => rfl
    | idle checked system again =>
      by_cases hdue : s.nextPrune ≤ checked
      · simp only [hdue, if_true, and_self]
        rfl
      · simp only [hdue, and_false, if_false]
        rfl

/-- **The loop runs the daemon** on the calls of its rounds. -/
theorem mainLoop_ctx (s : MainState) (rounds : List Round) :
    ((mainLoop env).run s rounds).1.ctx
      = ((agentd env).run s.ctx
          (((mainLoop env).traced.run s rounds).2.flatMap fun p => callsOf p.1 p.2)).1 :=
  Machine.run_drives mainStep_ctx s rounds

end Loop

/-! ## Clocks -/

/-- The reading of the clock with which a call stamps a record, if it stamps one. -/
def stampOf : Input → List TimePoint
  | .registerSession _ _ _ _ _ _ now => [now]
  | .publishEvent _ now _ _ => [now]
  | _ => []

/-- The readings of a round in their order, all by the clock of the records, which is ahead of the
steady one by `offset`. -/
def readings (offset : ℤ) (s : MainState) : Round → List TimePoint
  | .processed (some message) => if s.running then stampOf message.val else []
  | .idle checked system again =>
    if s.running then
      if s.nextPrune ≤ checked then [checked + offset, system, again + offset]
      else [checked + offset]
    else []
  | _ => []

/-- The readings of a run. -/
def readingsOf (env : Environment) (offset : ℤ) (s : MainState) (rounds : List Round) :
    List TimePoint :=
  ((mainLoop env).traced.run s rounds).2.flatMap fun p => readings offset p.1 p.2

/-- The clocks go together and never back: all readings of the run are in order, beginning with the
one before the loop. -/
def ClocksAgree (env : Environment) (offset : ℤ) (start : TimePoint) (rounds : List Round) : Prop :=
  ((start + offset) :: readingsOf env offset (.initial start) rounds).Pairwise (· ≤ ·)

/-- A prune takes no longer than `slack`. -/
def PruneWithin (offset slack : ℤ) (round : Round) : Prop :=
  match round with
  | .idle _ system again => again + offset - system ≤ slack
  | _ => True

/-- Every record was stamped within the given time. -/
def StampedSince (registry : SessionRegistry) (since : TimePoint) : Prop :=
  ∀ id session, registry.find id = some session → since ≤ session.lastUpdateTime

section Clocks

variable {env : Environment} {offset slack : ℤ} {s : MainState} {ctx : AppContext}
  {since : TimePoint}

theorem lastUpdateTime_published (registry : SessionRegistry) (workingDirectory : Bytes)
    (event : AgentEvent) (now : TimePoint) :
    (registry.published workingDirectory event now).lastUpdateTime = now := by
  unfold SessionRegistry.published
  split <;> rfl

/-- A call leaves records that were there, or were stamped by it. -/
theorem StampedSince.handle (h : StampedSince ctx.registry since) {input : Input}
    (hstamp : ∀ now ∈ stampOf input, since ≤ now) :
    StampedSince (handle env ctx input).1.registry since := by
  intro id session hfind
  cases input with
  | registerSession provider given pid cwd metadata lineage now =>
    rcases UnorderedMap.find_insertOrAssign_iff.mp hfind with ⟨-, rfl⟩ | ⟨-, hold⟩
    · exact hstamp now (List.mem_singleton_self now)
    · exact h id session hold
  | publishEvent arguments now reply times =>
    replace hfind : (methodPublishEvent env ctx arguments now reply times).1.registry.find id
      = some session := hfind
    by_cases hid : id = arguments.sessionId
    · subst hid
      rw [find_methodPublishEvent_self] at hfind
      obtain rfl := Option.some.inj hfind
      exact (hstamp now (List.mem_singleton_self now)).trans
        (lastUpdateTime_published _ _ _ _).ge
    · rw [find_methodPublishEvent_of_ne hid] at hfind
      exact h id session hfind
  | endSession sessionId result => exact h id session (UnorderedMap.find_of_find_erase hfind)
  | pruneStaleSessions now =>
    replace hfind : (ctx.registry.pruneStaleSessions now).find id = some session := hfind
    rw [find_pruneStaleSessions, Option.filter_eq_some_iff] at hfind
    exact h id session hfind.1
  | activateSession | actionInvoked | notificationClosed => exact h id session hfind

/-- A prune leaves records stamped within a day. -/
theorem stampedSince_pruned (registry : SessionRegistry) (now : TimePoint) :
    StampedSince (registry.pruneStaleSessions now) (now - nanosPerDay) := by
  intro id session hfind
  rw [find_pruneStaleSessions, Option.filter_eq_some_iff, decide_eq_true_iff] at hfind
  have hage := hfind.2
  show now - nanosPerDay ≤ session.lastUpdateTime
  linarith

theorem StampedSince.mono {registry : SessionRegistry} {earlier : TimePoint}
    (h : StampedSince registry since) (hle : earlier ≤ since) : StampedSince registry earlier :=
  fun id session hfind => hle.trans (h id session hfind)

/-- The last prune, by the clock of the records: a minute before the next one is due. -/
def lastPrune (offset : ℤ) (s : MainState) : TimePoint := s.nextPrune + offset - nanosPerMinute

/-- What the loop knows between its rounds: all records were stamped less than a day before the last
prune, or since. -/
def Fresh (offset slack : ℤ) (s : MainState) : Prop :=
  StampedSince s.ctx.registry (lastPrune offset s - nanosPerDay - slack)

/-- **One round** keeps the records fresh. -/
theorem Fresh.step (h : Fresh offset slack s) (round : Round) (hslack : PruneWithin offset slack round)
    (hnonneg : 0 ≤ slack) (hafter : ∀ now ∈ readings offset s round, lastPrune offset s ≤ now) :
    Fresh offset slack ((mainLoop env).step s round).1 := by
  show Fresh offset slack (mainStep env s round).1
  unfold mainStep
  split
  case isFalse => exact h
  case isTrue hrunning =>
    cases round with
    | processed message =>
      cases message with
      | none => exact h
      | some message =>
        refine StampedSince.handle h fun now hnow => ?_
        have hlater : lastPrune offset s ≤ now := by
          refine hafter now ?_
          show now ∈ if s.running then stampOf message.val else []
          rw [if_pos hrunning]
          exact hnow
        have hday : 0 ≤ nanosPerDay := by decide
        show lastPrune offset s - nanosPerDay - slack ≤ now
        linarith
    | failed | signalled => exact h
    | idle checked system again =>
      dsimp only
      split
      case isFalse => exact h
      case isTrue hdue =>
        refine (stampedSince_pruned s.ctx.registry system).mono ?_
        show again + nanosPerMinute + offset - nanosPerMinute - nanosPerDay - slack
          ≤ system - nanosPerDay
        have hwithin : again + offset - system ≤ slack := hslack
        linarith

/-- A prune moves the time of the last prune to a reading of its own round. -/
theorem lastPrune_step (s : MainState) (round : Round) :
    lastPrune offset ((mainLoop env).step s round).1 = lastPrune offset s ∨
      lastPrune offset ((mainLoop env).step s round).1 ∈ readings offset s round := by
  show lastPrune offset (mainStep env s round).1 = _ ∨ lastPrune offset (mainStep env s round).1 ∈ _
  unfold mainStep
  split
  case isFalse => exact Or.inl rfl
  case isTrue hrunning =>
    cases round with
    | processed message => cases message <;> exact Or.inl rfl
    | failed | signalled => exact Or.inl rfl
    | idle checked system again =>
      dsimp only
      split
      case isFalse => exact Or.inl rfl
      case isTrue hdue =>
        right
        have hlast : again + nanosPerMinute + offset - nanosPerMinute = again + offset := by ring
        simp only [readings, hrunning, hdue, if_true, lastPrune, hlast, List.mem_cons, true_or,
          or_true]

theorem readingsOf_cons (s : MainState) (round : Round) (rounds : List Round) :
    readingsOf env offset s (round :: rounds)
      = readings offset s round ++ readingsOf env offset ((mainLoop env).step s round).1 rounds := rfl

theorem readingsOf_append_singleton (s : MainState) (rounds : List Round) (round : Round) :
    readingsOf env offset s (rounds ++ [round])
      = readingsOf env offset s rounds
        ++ readings offset ((mainLoop env).run s rounds).1 round := by
  unfold readingsOf
  rw [Machine.run_append, List.flatMap_append, Machine.run_traced_fst]
  exact congrArg _ (List.append_nil _)

/-- An idle round leaves no record that is stale by then. -/
theorem Fresh.idle (h : Fresh offset slack s) (hnonneg : 0 ≤ slack) (hrunning : s.running = true)
    {checked system again : TimePoint}
    (horder : (readings offset s (.idle checked system again)).Pairwise (· ≤ ·)) :
    StampedSince ((mainLoop env).step s (.idle checked system again)).1.ctx.registry
      (checked + offset - (nanosPerDay + nanosPerMinute + slack)) := by
  have hminute : 0 ≤ nanosPerMinute := by decide
  show StampedSince (mainStep env s (.idle checked system again)).1.ctx.registry _
  unfold mainStep
  rw [if_pos hrunning]
  dsimp only
  split
  case isTrue hdue =>
    have hsystem : checked + offset ≤ system := by
      simp only [readings, hrunning, hdue, if_true, List.pairwise_cons, List.mem_cons,
        forall_eq_or_imp] at horder
      exact horder.1.1
    refine (stampedSince_pruned s.ctx.registry system).mono ?_
    linarith
  case isFalse hnot =>
    refine StampedSince.mono h ?_
    unfold lastPrune
    linarith [not_le.mp hnot]

/-- A run keeps the records fresh. -/
theorem Fresh.run (h : Fresh offset slack s) (hnonneg : 0 ≤ slack) {rounds : List Round}
    (hslack : ∀ round ∈ rounds, PruneWithin offset slack round)
    (horder : (lastPrune offset s :: readingsOf env offset s rounds).Pairwise (· ≤ ·)) :
    Fresh offset slack ((mainLoop env).run s rounds).1 := by
  induction rounds generalizing s with
  | nil => exact h
  | cons round rounds ih =>
    rw [readingsOf_cons, List.pairwise_cons, List.pairwise_append, List.forall_mem_append] at horder
    obtain ⟨⟨hnow, hlater⟩, -, hrest, hbetween⟩ := horder
    rw [List.forall_mem_cons] at hslack
    refine ih (h.step round hslack.1 hnonneg hnow) hslack.2 (List.pairwise_cons.mpr ⟨?_, hrest⟩)
    rcases @lastPrune_step env offset s round with hsame | hmem
    · rw [hsame]
      exact hlater
    · exact hbetween _ hmem

end Clocks

/-- **No session stays when it is stale.** In every run of the loop, in whatever order the messages
come, while the clocks agree and a prune takes no longer than `slack`: whenever the bus is idle, every
session of the registry was registered or reported within the last day, the minute between two prunes
and the time of a prune. -/
theorem no_stale_sessions (env : Environment) (offset slack : ℤ) (start : TimePoint)
    (rounds : List Round) (checked system again : TimePoint)
    (hclocks : ClocksAgree env offset start (rounds ++ [.idle checked system again]))
    (hnonneg : 0 ≤ slack) (hslack : ∀ round ∈ rounds, PruneWithin offset slack round)
    (hrunning : ((mainLoop env).run (.initial start) rounds).1.running = true) :
    StampedSince
      ((mainLoop env).run (.initial start) (rounds ++ [.idle checked system again])).1.ctx.registry
      (checked + offset - (nanosPerDay + nanosPerMinute + slack)) := by
  have hempty : Fresh offset slack (.initial start) := fun _ _ hfind => by cases hfind
  have hstart : lastPrune offset (.initial start) = start + offset := by
    show start + nanosPerMinute + offset - nanosPerMinute = _
    ring
  unfold ClocksAgree at hclocks
  rw [readingsOf_append_singleton, ← hstart, ← List.cons_append, List.pairwise_append] at hclocks
  obtain ⟨hbefore, hlast, -⟩ := hclocks
  have hfresh : Fresh offset slack ((mainLoop env).run (.initial start) rounds).1 :=
    hempty.run hnonneg hslack hbefore
  rw [Machine.run_append]
  exact hfresh.idle hnonneg hrunning hlast

/-- A session is registered, a day passes without a message, and then the bus is idle: the session
is gone. -/
theorem no_stale_sessions_next_day :
    StampedSince
      ((mainLoop {}).run (.initial 0)
        ([.processed (some ⟨registerClaude, rfl⟩)] ++
          [.idle (2 * nanosPerDay) (2 * nanosPerDay + 3) (2 * nanosPerDay + 5)])).1.ctx.registry
      (2 * nanosPerDay + 0 - (nanosPerDay + nanosPerMinute + 2)) :=
  no_stale_sessions {} 0 2 0 [.processed (some ⟨registerClaude, rfl⟩)] (2 * nanosPerDay)
    (2 * nanosPerDay + 3) (2 * nanosPerDay + 5) (by unfold ClocksAgree; decide +kernel) (by decide)
    (fun round hround => by rw [List.mem_singleton.mp hround]; trivial) rfl

end Agent

end Holonight
