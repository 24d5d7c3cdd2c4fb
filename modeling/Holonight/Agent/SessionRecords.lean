import Holonight.Agent.Agentd

/-!
# The records of the registry over whole runs

Two properties of the session records, over every order of the calls that write them.

*One live notification.* The id of a session's notification is kept in its record, and the
next `Notify` replaces it. `ReplacesLatest` says so of a run, in terms of its steps only:
what the latest successful `Notify` for the session returned, unless the session was ended
or pruned since. An event keeps the id of the record it updates, but a registration writes
a new record over it (`KeepsRecord` excludes this).

*Identity.* Every record lies under a non-empty key, which is its session id
(`Identified`). A registration without an id gets one from its provider and process; an
event without an id is stored under the empty one, so that agents without a session id
share a record.
-/

namespace Holonight

namespace Agent

/-! ## What a call does to the records -/

section Find

variable {env : Environment} {ctx : AppContext} {arguments : PublishArguments} {now : TimePoint}
  {reply : Option UInt32} {times : NotificationBridge.ReplaceTimes}

/-- The id that is recorded after a `Notify`: the reply, or the old one when it failed. -/
theorem sendNotification_id (order : IterationOrder UInt32 Entry)
    (bindings : NotificationActionBindings) (session : AgentSession) (replacesId : UInt32) :
    (NotificationBridge.sendNotification order bindings session replacesId reply times).2
      = reply.getD replacesId := by
  unfold NotificationBridge.sendNotification
  cases reply with
  | none => rfl
  | some assigned =>
    cases session.activation with
    | none => rfl
    | some descriptor =>
      show (if assigned ≠ 0 then _ else _ : NotificationActionBindings × UInt32).2 = assigned
      split <;> rfl

namespace SessionRegistry

variable {registry : SessionRegistry} {key : Bytes}

theorem find_updateNotificationId_self {session : AgentSession} (notifId : UInt32)
    (h : registry.find key = some session) :
    (registry.updateNotificationId key notifId).find key
      = some { session with notificationId := notifId } := by
  unfold updateNotificationId
  rw [h]
  exact UnorderedMap.find_insertOrAssign_self

theorem find_updateNotificationId_of_ne {other : Bytes} (notifId : UInt32) (h : other ≠ key) :
    (registry.updateNotificationId key notifId).find other = registry.find other := by
  unfold updateNotificationId
  cases registry.find key with
  | none => rfl
  | some session => exact UnorderedMap.find_insertOrAssign_of_ne h

/-- An event keeps the notification of its session; an unknown session has none. -/
theorem published_notificationId {workingDirectory : Bytes} {event : AgentEvent} :
    (registry.published workingDirectory event now).notificationId
      = ((registry.find event.sessionId).map AgentSession.notificationId).getD 0 := by
  unfold published
  cases registry.find event.sessionId with
  | none => rfl
  | some session => rfl

end SessionRegistry

/-- The record of an event's session after the call. -/
theorem find_methodPublishEvent_self :
    (methodPublishEvent env ctx arguments now reply times).1.registry.find arguments.sessionId
      = some
        { ctx.registry.published env.workingDirectory arguments.event now with
          notificationId := reply.getD
            (ctx.registry.published env.workingDirectory arguments.event now).notificationId } := by
  show (SessionRegistry.updateNotificationId _ _ _).find _ = _
  rw [sendNotification_id]
  exact SessionRegistry.find_updateNotificationId_self _ UnorderedMap.find_insertOrAssign_self

/-- The other records are untouched. -/
theorem find_methodPublishEvent_of_ne {other : Bytes} (h : other ≠ arguments.sessionId) :
    (methodPublishEvent env ctx arguments now reply times).1.registry.find other
      = ctx.registry.find other := by
  show (SessionRegistry.updateNotificationId _ arguments.sessionId _).find _ = _
  rw [SessionRegistry.find_updateNotificationId_of_ne _ h]
  exact UnorderedMap.find_insertOrAssign_of_ne h

end Find

/-! ## One live notification -/

/-- The step is an event of the session whose `Notify` returned the id. -/
def NotifiedAs (sessionId : Bytes) (id : UInt32) (step : AppContext × Input) : Prop :=
  ∃ arguments now times,
    step.2 = .publishEvent arguments now (some id) times ∧ arguments.sessionId = sessionId

/-- The step is no later successful `Notify` for the session, and does not end or prune
it. -/
def LeavesSession (sessionId : Bytes) (step : AppContext × Input) : Prop :=
  match step.2 with
  | .publishEvent arguments _ (some _) _ => arguments.sessionId ≠ sessionId
  | .endSession ended _ => ended ≠ sessionId
  | .pruneStaleSessions now =>
    (step.1.registry.pruneStaleSessions now).find sessionId = step.1.registry.find sessionId
  | _ => True

/-- Every `Notify` of an event replaces the notification that the latest successful
`Notify` for its session returned, as long as the session was neither ended nor pruned
since. -/
def ReplacesLatest (env : Environment) (trace : List (AppContext × Input)) : Prop :=
  ∀ before ctx arguments now reply times after,
    trace = before ++ (ctx, .publishEvent arguments now reply times) :: after →
    ∀ id, Standing (NotifiedAs arguments.sessionId id) (LeavesSession arguments.sessionId) before →
    ∀ session call answer,
      Output.notified session call answer
        ∈ (handle env ctx (.publishEvent arguments now reply times)).2 → call.replacesId = id

/-- A registration does not write over a record with a notification. -/
def KeepsRecord (ctx : AppContext) : Input → Prop
  | .registerSession provider sessionId pid _ _ _ _ =>
    ∀ session, ctx.registry.find (SessionRegistry.assignedId provider sessionId pid) = some session →
      session.notificationId = 0
  | _ => True

/-- The records hold the ids that the steps so far say, and all `Notify` calls so far used
them. -/
structure RecordsInv (env : Environment) (trace : List (AppContext × Input)) (ctx : AppContext) :
    Prop where
  recorded : ∀ sessionId id,
    Standing (NotifiedAs sessionId id) (LeavesSession sessionId) trace →
    (ctx.registry.find sessionId).map AgentSession.notificationId = some id
  replaces : ReplacesLatest env trace

section Replaces

variable {env : Environment} {trace : List (AppContext × Input)} {ctx : AppContext}

/-- The only `Notify` of an event passes the id in the record of its session. -/
theorem replacesId_of_mem {arguments : PublishArguments} {now : TimePoint}
    {reply : Option UInt32} {times : NotificationBridge.ReplaceTimes} {session : AgentSession}
    {call : NotificationBridge.NotifyCall} {answer : Option UInt32}
    (hmem : Output.notified session call answer
      ∈ (handle env ctx (.publishEvent arguments now reply times)).2) :
    call.replacesId
      = (ctx.registry.published env.workingDirectory arguments.event now).notificationId := by
  simp only [handle, methodPublishEvent, List.mem_append, List.mem_cons, Output.notified.injEq,
    reduceCtorEq, List.not_mem_nil, or_false] at hmem
  rcases hmem with ⟨-, rfl, -⟩ | hmem
  · rfl
  · split at hmem
    · exact Output.noConfusion (List.mem_singleton.mp hmem)
    · exact absurd hmem List.not_mem_nil

/-- A registration that writes over no notification leaves the ids in the records. -/
theorem recorded_register {provider other : Bytes} {pid : UInt32} {cwd : Bytes} {metadata : Json}
    {lineage : List UInt32} {now : TimePoint} {sessionId : Bytes} {id : UInt32}
    (hkeeps : KeepsRecord ctx (.registerSession provider other pid cwd metadata lineage now))
    (hrecord : (ctx.registry.find sessionId).map AgentSession.notificationId = some id) :
    ((handle env ctx (.registerSession provider other pid cwd metadata lineage now)).1.registry.find
      sessionId).map AgentSession.notificationId = some id := by
  show Option.map _ (UnorderedMap.find (UnorderedMap.insertOrAssign _ _ _) sessionId) = _
  by_cases hid : sessionId = SessionRegistry.assignedId provider other pid
  · -- the record that is written over has the id 0, as the new one has
    obtain ⟨session, hfound, rfl⟩ := Option.map_eq_some_iff.mp hrecord
    subst hid
    rw [UnorderedMap.find_insertOrAssign_self, hkeeps session hfound]
    rfl
  · rw [UnorderedMap.find_insertOrAssign_of_ne hid]
    exact hrecord

/-- So does an event of another session, or one whose `Notify` failed. -/
theorem recorded_publish {arguments : PublishArguments} {now : TimePoint} {reply : Option UInt32}
    {times : NotificationBridge.ReplaceTimes} {sessionId : Bytes} {id : UInt32}
    (hleaves : LeavesSession sessionId (ctx, .publishEvent arguments now reply times))
    (hrecord : (ctx.registry.find sessionId).map AgentSession.notificationId = some id) :
    ((methodPublishEvent env ctx arguments now reply times).1.registry.find sessionId).map
      AgentSession.notificationId = some id := by
  by_cases hid : sessionId = arguments.sessionId
  · cases reply with
    | some assigned => exact absurd hid.symm hleaves
    | none =>
      subst hid
      rw [find_methodPublishEvent_self, Option.map_some, Option.getD_none,
        SessionRegistry.published_notificationId]
      show some ((Option.map _ (ctx.registry.find arguments.sessionId)).getD 0) = _
      rw [hrecord]
      rfl
  · rw [find_methodPublishEvent_of_ne hid]
    exact hrecord

/-- What the records hold after a step, case by case. -/
theorem RecordsInv.recorded_step (h : RecordsInv env trace ctx) {input : Input}
    (hkeeps : KeepsRecord ctx input) {sessionId : Bytes} {id : UInt32}
    (hstanding : Standing (NotifiedAs sessionId id) (LeavesSession sessionId)
      (trace ++ [(ctx, input)])) :
    ((handle env ctx input).1.registry.find sessionId).map AgentSession.notificationId
      = some id := by
  rcases standing_append_singleton.mp hstanding with
    ⟨arguments, now, times, rfl, rfl⟩ | ⟨hold, hleaves⟩
  · -- this very step notified
    show Option.map _ ((methodPublishEvent _ _ _ _ _ _).1.registry.find _) = _
    rw [find_methodPublishEvent_self]
    rfl
  · have hrecord := h.recorded sessionId id hold
    cases input with
    | registerSession provider other pid cwd metadata lineage now =>
      exact recorded_register hkeeps hrecord
    | publishEvent arguments now reply times => exact recorded_publish hleaves hrecord
    | endSession ended result =>
      show Option.map _ ((ctx.registry.erase ended).find sessionId) = _
      rw [UnorderedMap.find_erase_of_ne (Ne.symm hleaves)]
      exact hrecord
    | pruneStaleSessions now =>
      show Option.map _ ((ctx.registry.pruneStaleSessions now).find sessionId) = _
      rw [show (ctx.registry.pruneStaleSessions now).find sessionId = _ from hleaves]
      exact hrecord
    | activateSession other => exact hrecord
    | actionInvoked notificationId actionKey now => exact hrecord
    | notificationClosed notificationId => exact hrecord

/-- Every step that keeps the records with a notification keeps the invariant. -/
theorem RecordsInv.step (h : RecordsInv env trace ctx) {input : Input}
    (hkeeps : KeepsRecord ctx input) :
    RecordsInv env (trace ++ [(ctx, input)]) (handle env ctx input).1 where
  recorded _ _ hstanding := h.recorded_step hkeeps hstanding
  replaces := by
    intro before ctx' arguments now reply times after heq id hstanding session call answer hmem
    rcases append_singleton_eq heq with ⟨rfl, hlast, -⟩ | ⟨init, -, htrace⟩
    · -- the step itself: the record holds the id
      cases hlast
      rw [replacesId_of_mem hmem, SessionRegistry.published_notificationId]
      show (Option.map _ (ctx.registry.find arguments.sessionId)).getD 0 = id
      rw [h.recorded _ id hstanding]
      rfl
    · exact h.replaces before ctx' arguments now reply times init htrace id hstanding session call
        answer hmem

theorem recordsInv_initial : RecordsInv env [] AppContext.initial where
  recorded _ _ hstanding := absurd hstanding not_standing_nil
  replaces := by
    intro before ctx' arguments now reply times after heq
    exact absurd heq.symm (List.append_ne_nil_of_right_ne_nil before (List.cons_ne_nil _ after))

end Replaces

/-- **A session has one live notification**: in every run in which no registration writes
over a record with a notification, each `Notify` replaces the latest one of its session. -/
theorem notify_replaces_latest (env : Environment) (inputs : List Input)
    (hkeeps : (agentd env).AllSteps KeepsRecord AppContext.initial inputs) :
    ReplacesLatest env ((agentd env).traced.run AppContext.initial inputs).2 := by
  have hinv := (agentd env).traced.run_induction (fun _ _ _ h hgood => h.step hgood)
    (@recordsInv_initial env) ((agentd env).allSteps_traced hkeeps)
  exact hinv.replaces

/-- The second notification of a session replaces its first. -/
theorem notify_replaces_latest_twice :
    ReplacesLatest {} ((agentd {}).traced.run AppContext.initial
      [registerClaude, approvalOf "a" 2000, approvalOf "a" 3000]).2 ∧
    Standing (NotifiedAs "a" 5) (LeavesSession "a") ((agentd {}).traced.run AppContext.initial
      [registerClaude, approvalOf "a" 2000]).2 := by
  refine ⟨notify_replaces_latest {} _ ⟨fun session hfound => ?_, trivial, trivial, trivial⟩, ?_⟩
  · cases hfound
  · exact ⟨_, _, [], rfl, ⟨_, _, _, rfl, rfl⟩, fun _ hlater => absurd hlater List.not_mem_nil⟩

/-- The session is registered a second time between two events: the second notification
does not replace the first, which stays on the screen. -/
theorem registration_forgets_notification :
    ¬ ReplacesLatest {} ((agentd {}).traced.run AppContext.initial
      [registerClaude, approvalOf "a" 2000, registerClaude, approvalOf "a" 3000]).2 := by
  intro hreplaces
  have hstanding : Standing (NotifiedAs "a" 5) (LeavesSession "a")
      ((agentd {}).traced.run AppContext.initial
        [registerClaude, approvalOf "a" 2000, registerClaude]).2 := by
    refine ⟨[_], _, [_], rfl, ⟨_, _, _, rfl, rfl⟩, fun later hlater => ?_⟩
    rw [List.mem_singleton.mp hlater]
    trivial
  have hid := hreplaces
    ((agentd {}).traced.run AppContext.initial
      [registerClaude, approvalOf "a" 2000, registerClaude]).2
    ((agentd {}).traced.run AppContext.initial
      [registerClaude, approvalOf "a" 2000, registerClaude]).1
    { sessionId := "a", state := "WaitingForApproval" } 3000 (some 5)
    { pruneTime := 3000, insertTime := 3000 } [] rfl 5 hstanding _ _ _ List.mem_cons_self
  exact absurd hid (by decide)

/-! ## Identity -/

namespace SessionRegistry

/-- `pruneStaleSessions` (SessionRegistry.cpp:143–153) with any age, in seconds. -/
def pruneOlderThan (registry : SessionRegistry) (maxAge : ℤ) (now : TimePoint) :
    SessionRegistry :=
  registry.eraseIf fun _ session =>
    decide (maxAge * nanosPerSecond < now - session.lastUpdateTime)

/-- The daemon prunes with the default of 24 hours. -/
theorem pruneStaleSessions_eq (registry : SessionRegistry) (now : TimePoint) :
    registry.pruneStaleSessions now = registry.pruneOlderThan 86400 now := rfl

/-- A call of a member function that changes the registry. -/
inductive Call where
  | registerSession (provider sessionId : Bytes) (pid : UInt32) (cwd : Bytes) (metadata : Json)
      (lineage : List UInt32) (now : TimePoint)
  | publishEvent (event : AgentEvent) (now : TimePoint)
  | endSession (sessionId : Bytes)
  | updateNotificationId (sessionId : Bytes) (notifId : UInt32)
  | pruneStaleSessions (maxAge : ℤ) (now : TimePoint)

/-- The registry after a call. -/
def apply (workingDirectory : Bytes) (registry : SessionRegistry) : Call → SessionRegistry
  | .registerSession provider sessionId pid cwd metadata lineage now =>
    registry.registerSession workingDirectory provider sessionId pid cwd metadata lineage now
  | .publishEvent event now => registry.publishEvent workingDirectory event now
  | .endSession sessionId => (registry.endSession sessionId).1
  | .updateNotificationId sessionId notifId => registry.updateNotificationId sessionId notifId
  | .pruneStaleSessions maxAge now => registry.pruneOlderThan maxAge now

/-- The registry as a machine that its calls drive. -/
def calls (workingDirectory : Bytes) : Machine SessionRegistry Call Empty where
  step registry call := (apply workingDirectory registry call, [])

/-- Every record lies under a non-empty key, which is its session id. -/
def Identified (registry : SessionRegistry) : Prop :=
  ∀ key session, registry.find key = some session → key ≠ [] ∧ session.sessionId = key

/-- The call is no event without a session id. -/
def Call.Named : Call → Prop
  | .publishEvent event _ => event.sessionId ≠ []
  | _ => True

section Identity

variable {registry : SessionRegistry} {workingDirectory : Bytes}

/-- A registration never assigns the empty id. -/
theorem assignedId_ne_nil (provider sessionId : Bytes) (pid : UInt32) :
    assignedId provider sessionId pid ≠ [] := by
  unfold assignedId
  split
  · exact List.append_ne_nil_of_left_ne_nil
      (List.append_ne_nil_of_right_ne_nil provider (List.cons_ne_nil _ _)) _
  · assumption

/-- Setting a record keeps the identities exactly when the record has its own. -/
theorem identified_insertOrAssign_iff (h : registry.Identified) {key : Bytes}
    {session : AgentSession} :
    Identified (registry.insertOrAssign key session) ↔ key ≠ [] ∧ session.sessionId = key := by
  constructor
  · intro hall
    exact hall key session UnorderedMap.find_insertOrAssign_self
  · intro hnew other found hfound
    rcases UnorderedMap.find_insertOrAssign_iff.mp hfound with ⟨rfl, rfl⟩ | ⟨-, hold⟩
    · exact hnew
    · exact h other found hold

theorem Identified.eraseIf (h : registry.Identified) (p : Bytes → AgentSession → Bool) :
    Identified (registry.eraseIf p) := by
  intro key session hfound
  exact h key session (UnorderedMap.find_eraseIf.mp hfound).1

theorem Identified.published_sessionId (h : registry.Identified) (event : AgentEvent)
    (now : TimePoint) :
    (registry.published workingDirectory event now).sessionId = event.sessionId := by
  unfold published
  cases hfound : registry.find event.sessionId with
  | none => rfl
  | some session => exact (h _ session hfound).2

/-- A call keeps the identities exactly when it is no event without a session id. -/
theorem identified_apply_iff (h : registry.Identified) (call : Call) :
    Identified (apply workingDirectory registry call) ↔ call.Named := by
  cases call with
  | registerSession provider sessionId pid cwd metadata lineage now =>
    refine iff_of_true ?_ trivial
    exact (identified_insertOrAssign_iff h).mpr ⟨assignedId_ne_nil provider sessionId pid, rfl⟩
  | publishEvent event now =>
    show Identified (registry.insertOrAssign event.sessionId _) ↔ event.sessionId ≠ []
    rw [identified_insertOrAssign_iff h, h.published_sessionId, and_iff_left rfl]
  | endSession sessionId => exact iff_of_true (h.eraseIf _) trivial
  | updateNotificationId sessionId notifId =>
    refine iff_of_true ?_ trivial
    show Identified (updateNotificationId registry sessionId notifId)
    unfold updateNotificationId
    cases hfound : registry.find sessionId with
    | none => exact h
    | some session => exact (identified_insertOrAssign_iff h).mpr (h sessionId session hfound)
  | pruneStaleSessions maxAge now => exact iff_of_true (h.eraseIf _) trivial

/-- **Every record has its own identity** after each of a sequence of calls if and only if
none of them is an event without a session id. -/
theorem sessions_identified_iff (workingDirectory : Bytes) (sequence : List Call) :
    (∀ taken, taken <+: sequence →
        Identified ((calls workingDirectory).run UnorderedMap.empty taken).1)
      ↔ ∀ call ∈ sequence, call.Named := by
  have hempty : Identified (UnorderedMap.empty : SessionRegistry) := by
    intro key session hfound
    cases hfound
  have hstep : ∀ (log : List Empty) (registry : SessionRegistry) (call : Call),
      registry.Identified → (Identified ((calls workingDirectory).step registry call).1
        ↔ call.Named) :=
    fun _ _ call h => identified_apply_iff h call
  have hruns := @Machine.forall_prefix_iff _ _ _ (calls workingDirectory) _
    (fun _ registry => registry.Identified) hstep [] _ sequence hempty
  rw [hruns, Machine.allSteps_inputs_iff]

end Identity

/-- Two agents publish an event without a session id: the second is written into the
record of the first, under the empty key. -/
theorem anonymous_events_share_record :
    ¬ Identified ((calls "/").run UnorderedMap.empty
      [.publishEvent { provider := "claude", title := "Approve" } 1000,
        .publishEvent { provider := "codex" } 2000]).1 ∧
    (((calls "/").run UnorderedMap.empty
      [.publishEvent { provider := "claude", title := "Approve" } 1000,
        .publishEvent { provider := "codex" } 2000]).1.entries.map fun entry =>
          (entry.1, entry.2.provider, entry.2.lastTitle))
      = [(Bytes.ofString "", Bytes.ofString "codex", Bytes.ofString "Approve")] := by
  refine ⟨fun hall => ?_, by decide⟩
  exact (hall [] _ rfl).1 rfl

end SessionRegistry

end Agent

end Holonight
