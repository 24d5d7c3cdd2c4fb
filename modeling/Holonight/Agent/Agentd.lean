import Holonight.Agent.NotificationBridge
import Holonight.Base.Machine

/-!
# `holonight-agentd` (`main.cpp`)

The daemon handles one D-Bus message at a time: its four methods, the two signals of the
notification server, and in between the prune of stale sessions. Each is a step of the
machine `agentd`; what goes out (signals, `Notify` calls with their replies, calls of
`ActivationClient::activate`) are its observations.

An Open action must go to the terminal of the notification it was shown on. What was last
shown under an id is read off the observations (`shown`): the descriptor of the session
of the latest `Notify` that returned the id, and whether its action was used. The
bindings agree with it (`AgentdInv`) as long as no reply for a session without a
descriptor reuses an id that is still bound (`FreshReply`): such a reply leaves the
old binding in place, because the bridge only touches the table for a session with a
descriptor.
-/

namespace Holonight

namespace Agent

/-! ## Steps and observations -/

/-- What the daemon reads from its process: its working directory, and the order in which
its hash map is visited. -/
structure Environment where
  workingDirectory : Bytes := "/"
  order : IterationOrder UInt32 Entry := IterationOrder.insertion

/-- `struct AppContext`: the registry and the bindings of the bridge. -/
structure AppContext where
  registry : SessionRegistry
  bindings : NotificationActionBindings

/-- The daemon at its start. -/
def AppContext.initial : AppContext :=
  { registry := UnorderedMap.empty, bindings := UnorderedMap.empty }

/-- The arguments of a `PublishEvent` call. -/
structure PublishArguments where
  sessionId : Bytes
  provider : Bytes := []
  cwd : Bytes := []
  eventType : Bytes := []
  state : Bytes := []
  title : Bytes := []
  message : Bytes := []

/-- The event of a call (main.cpp:99–109): the type is not used, and a state that is not
known leaves the default. -/
def PublishArguments.event (arguments : PublishArguments) : AgentEvent where
  sessionId := arguments.sessionId
  provider := arguments.provider
  projectPath := arguments.cwd
  title := arguments.title
  message := arguments.message
  state := (agentStateFromString arguments.state).getD .working

/-- What the daemon handles. With each come the clock readings and, for an event, the
server's reply to `Notify`. The metadata of a registration is what its text parses to,
`null` when it does not parse. -/
inductive Input where
  | registerSession (provider sessionId : Bytes) (pid : UInt32) (cwd : Bytes) (metadata : Json)
      (lineage : List UInt32) (now : TimePoint)
  | publishEvent (arguments : PublishArguments) (now : TimePoint) (reply : Option UInt32)
      (times : NotificationBridge.ReplaceTimes)
  | endSession (sessionId result : Bytes)
  | activateSession (sessionId : Bytes)
  | pruneStaleSessions (now : TimePoint)
  | actionInvoked (notificationId : UInt32) (actionKey : Bytes) (now : TimePoint)
  | notificationClosed (notificationId : UInt32)

/-- Where a call of `ActivationClient::activate` comes from. -/
inductive Origin where
  | action (notificationId : UInt32)
  | method (sessionId : Bytes)
  deriving DecidableEq

/-- What the daemon sends. -/
inductive Output where
  | sessionAdded (sessionId provider cwd : Bytes)
  | sessionChanged (sessionId : Bytes) (state : AgentState) (title message : Bytes)
  | sessionRemoved (sessionId result : Bytes)
  | attentionRequested (sessionId provider title message : Bytes)
  | notified (session : AgentSession) (call : NotificationBridge.NotifyCall)
      (reply : Option UInt32)
  | activated (descriptor : ActivationDescriptor) (origin : Origin)

/-- `methodPublishEvent` (main.cpp:80–140). -/
def methodPublishEvent (env : Environment) (ctx : AppContext) (arguments : PublishArguments)
    (now : TimePoint) (reply : Option UInt32) (times : NotificationBridge.ReplaceTimes) :
    AppContext × List Output :=
  let event := arguments.event
  let registry := ctx.registry.publishEvent env.workingDirectory event now
  let session := ctx.registry.published env.workingDirectory event now
  let sent := NotificationBridge.sendNotification env.order ctx.bindings session
    session.notificationId reply times
  let attention : List Output :=
    if event.state = .waitingForApproval ∨ event.state = .waitingForInput then
      [.attentionRequested event.sessionId session.provider event.title event.message]
    else []
  ({ registry := registry.updateNotificationId event.sessionId sent.2, bindings := sent.1 },
    [.notified session (NotificationBridge.notifyCall session event session.notificationId) reply,
      .sessionChanged event.sessionId event.state event.title event.message] ++ attention)

/-- `activateSession` (AgentActivity.cpp:105–111): the descriptor that is activated. -/
def activateSession (registry : SessionRegistry) (sessionId : Bytes) :
    Option ActivationDescriptor :=
  ((registry.find sessionId).bind AgentSession.activation).filter ActivationDescriptor.valid

/-- One message, or one prune, of the main loop (main.cpp:41–181, 237–252). -/
def handle (env : Environment) (ctx : AppContext) : Input → AppContext × List Output
  | .registerSession provider sessionId pid cwd metadata lineage now =>
    let registry := ctx.registry.registerSession env.workingDirectory provider sessionId pid cwd
      metadata lineage now
    ({ ctx with registry := registry },
      [.sessionAdded (SessionRegistry.assignedId provider sessionId pid) provider cwd])
  | .publishEvent arguments now reply times =>
    methodPublishEvent env ctx arguments now reply times
  | .endSession sessionId result =>
    ({ ctx with registry := (ctx.registry.endSession sessionId).1 },
      [.sessionRemoved sessionId result])
  | .activateSession sessionId =>
    (ctx, ((activateSession ctx.registry sessionId).map fun descriptor =>
      Output.activated descriptor (.method sessionId)).toList)
  | .pruneStaleSessions now => ({ ctx with registry := ctx.registry.pruneStaleSessions now }, [])
  | .actionInvoked notificationId actionKey now =>
    let outcome := NotificationBridge.handleAction ctx.bindings now notificationId actionKey
    ({ ctx with bindings := outcome.1 },
      (outcome.2.map fun descriptor =>
        Output.activated descriptor (.action notificationId)).toList)
  | .notificationClosed notificationId =>
    ({ ctx with bindings := NotificationBridge.handleClosed ctx.bindings notificationId }, [])

/-- The daemon as a machine. -/
def agentd (env : Environment) : Machine AppContext Input Output where
  step := handle env

/-! ## What was shown -/

/-- The latest notification under an id: the descriptor of its session, and whether its
Open action has been used. -/
structure Shown where
  activation : Option ActivationDescriptor
  opened : Bool
  deriving DecidableEq

/-- What an observation changes for the id. -/
def shownStep (id : UInt32) (current : Option Shown) : Output → Option Shown
  | .notified session _ (some assigned) =>
    if assigned = id then some { activation := session.activation, opened := false } else current
  | .activated _ (.action notificationId) =>
    -- the action is used up until the next notification under the id
    if notificationId = id then current.map fun s => { s with opened := true } else current
  | _ => current

/-- What is shown under the id after the observations. -/
def shown (id : UInt32) (log : List Output) : Option Shown := log.foldl (shownStep id) none

/-- Every activation that comes from an action is the first one for the latest `Notify`
that returned its id, and is of the descriptor of that notification's session. -/
def OpensRight (log : List Output) : Prop :=
  ∀ before after id descriptor,
    log = before ++ .activated descriptor (.action id) :: after →
    shown id before = some { activation := some descriptor, opened := false }

/-- A reply for a session without a descriptor does not reuse an id that is still bound. -/
def FreshReply (env : Environment) (ctx : AppContext) : Input → Prop
  | .publishEvent arguments now (some assigned) _ =>
    (ctx.registry.published env.workingDirectory arguments.event now).activation = none →
      ctx.bindings.find assigned = none
  | _ => True

theorem shown_append (id : UInt32) (log : List Output) (output : Output) :
    shown id (log ++ [output]) = shownStep id (shown id log) output := by
  unfold shown
  rw [List.foldl_append]
  rfl

/-- One more observation that is no activation by an action. -/
theorem OpensRight.append_quiet {log : List Output} (h : OpensRight log) {output : Output}
    (hquiet : ∀ descriptor id, output ≠ .activated descriptor (.action id)) :
    OpensRight (log ++ [output]) := by
  intro before after id descriptor heq
  rcases append_singleton_eq heq with ⟨-, hlast, -⟩ | ⟨init, -, hlog⟩
  · exact absurd hlast (hquiet descriptor id)
  · exact h before init id descriptor hlog

/-- One more activation, of what is shown. -/
theorem OpensRight.append_activated {log : List Output} (h : OpensRight log) {id : UInt32}
    {descriptor : ActivationDescriptor}
    (hshown : shown id log = some { activation := some descriptor, opened := false }) :
    OpensRight (log ++ [.activated descriptor (.action id)]) := by
  intro before after id' descriptor' heq
  rcases append_singleton_eq heq with ⟨rfl, hlast, -⟩ | ⟨init, -, hlog⟩
  · cases hlast
    exact hshown
  · exact h before init id' descriptor' hlog

/-! ## The invariant -/

/-- Every binding is of what is shown under its id and not yet used, the id 0 is never
bound, the descriptors of the registry are valid, and all activations so far were right. -/
structure AgentdInv (log : List Output) (ctx : AppContext) : Prop where
  bound : ∀ id entry, ctx.bindings.find id = some entry →
    shown id log = some { activation := some entry.descriptor, opened := false }
  zero : ctx.bindings.find 0 = none
  valid : ctx.registry.ActivationsValid
  opens : OpensRight log

section Invariant

variable {env : Environment} {log : List Output} {ctx : AppContext}

/-- An observation that neither notifies nor activates by an action. -/
def Output.Quiet : Output → Prop
  | .notified _ _ _ => False
  | .activated _ (.action _) => False
  | _ => True

theorem shownStep_quiet {output : Output} (h : output.Quiet) (id : UInt32)
    (current : Option Shown) : shownStep id current output = current := by
  cases output with
  | notified session call reply => exact h.elim
  | activated descriptor origin =>
    cases origin with
    | action notificationId => exact h.elim
    | method sessionId => rfl
  | _ => rfl

theorem Output.Quiet.ne_activated {output : Output} (h : output.Quiet)
    (descriptor : ActivationDescriptor) (id : UInt32) :
    output ≠ .activated descriptor (.action id) := by
  rintro rfl
  exact h

/-- Quiet observations keep the invariant. -/
theorem AgentdInv.append_quiet (h : AgentdInv log ctx) {outputs : List Output}
    (hquiet : ∀ output ∈ outputs, output.Quiet) : AgentdInv (log ++ outputs) ctx := by
  induction outputs generalizing log with
  | nil => rwa [List.append_nil]
  | cons output rest ih =>
    have hfirst : output.Quiet := hquiet output List.mem_cons_self
    have hone : AgentdInv (log ++ [output]) ctx :=
      { bound := fun id entry hfound => by
          rw [shown_append, shownStep_quiet hfirst]
          exact h.bound id entry hfound
        zero := h.zero
        valid := h.valid
        opens := h.opens.append_quiet hfirst.ne_activated }
    rw [List.append_cons]
    exact ih hone fun other hother => hquiet other (List.mem_cons_of_mem _ hother)

/-- The registry may change as long as its descriptors stay valid. -/
theorem AgentdInv.setRegistry (h : AgentdInv log ctx) {registry : SessionRegistry}
    (hvalid : registry.ActivationsValid) : AgentdInv log { ctx with registry := registry } :=
  { h with valid := hvalid }

/-- Bindings may be dropped. -/
theorem AgentdInv.dropBindings (h : AgentdInv log ctx) {bindings : NotificationActionBindings}
    (hkept : ∀ id entry, bindings.find id = some entry → ctx.bindings.find id = some entry) :
    AgentdInv log { ctx with bindings := bindings } where
  bound id entry hfound := h.bound id entry (hkept id entry hfound)
  zero := by
    refine Option.eq_none_iff_forall_ne_some.mpr fun entry hfound => ?_
    have hold := hkept 0 entry hfound
    rw [h.zero] at hold
    cases hold
  valid := h.valid
  opens := h.opens

theorem shown_notified (id : UInt32) (session : AgentSession)
    (call : NotificationBridge.NotifyCall) (assigned : UInt32) :
    shown id (log ++ [.notified session call (some assigned)])
      = if assigned = id then some { activation := session.activation, opened := false }
        else shown id log :=
  shown_append id log _

/-- A reply whose id is not bound leaves the bindings right as they are. -/
theorem AgentdInv.notify_unbound (h : AgentdInv log ctx) {session : AgentSession}
    {call : NotificationBridge.NotifyCall} {assigned : UInt32}
    (hunbound : ctx.bindings.find assigned = none) :
    AgentdInv (log ++ [.notified session call (some assigned)]) ctx := by
  refine ⟨fun id entry hfound => ?_, h.zero, h.valid,
    h.opens.append_quiet fun _ _ => Output.noConfusion⟩
  have hne : assigned ≠ id := by
    rintro rfl
    rw [hunbound] at hfound
    cases hfound
  rw [shown_notified, if_neg hne]
  exact h.bound id entry hfound

/-- A reply for a session with a descriptor binds its id to that descriptor. -/
theorem AgentdInv.notify_bind (h : AgentdInv log ctx) {session : AgentSession}
    {call : NotificationBridge.NotifyCall} {assigned : UInt32} {descriptor : ActivationDescriptor}
    (hactivation : session.activation = some descriptor) (hvalid : descriptor.valid = true)
    (hzero : assigned ≠ 0) (pruneTime insertTime : TimePoint) (replacesId : UInt32) :
    AgentdInv (log ++ [.notified session call (some assigned)])
      { ctx with
        bindings := ctx.bindings.replace env.order pruneTime insertTime replacesId assigned
          descriptor } := by
  refine ⟨fun id entry hfound => ?_, ?_, h.valid,
    h.opens.append_quiet fun _ _ => Output.noConfusion⟩
  · rw [shown_notified]
    rcases NotificationActionBindings.find_replace hfound with
      ⟨rfl, -, hdescriptor⟩ | ⟨hother, hold⟩
    · rw [if_pos rfl, hactivation, hdescriptor]
    · rcases hother with hne | hassigned | hinvalid
      · rw [if_neg (Ne.symm hne)]
        exact h.bound id entry hold
      · exact absurd hassigned hzero
      · rw [hvalid] at hinvalid
        cases hinvalid
  · refine Option.eq_none_iff_forall_ne_some.mpr fun entry hfound => ?_
    rcases NotificationActionBindings.find_replace hfound with ⟨hid, hne, -⟩ | ⟨-, hold⟩
    · exact hne hid.symm
    · rw [h.zero] at hold
      cases hold

/-- A notification keeps the invariant, unless its session has no descriptor and its id is
still bound. -/
theorem AgentdInv.notify (h : AgentdInv log ctx) {session : AgentSession}
    {reply : Option UInt32} (call : NotificationBridge.NotifyCall) (replacesId : UInt32)
    (times : NotificationBridge.ReplaceTimes)
    (hvalid : ∀ descriptor, session.activation = some descriptor → descriptor.valid = true)
    (hfresh : ∀ assigned, reply = some assigned → session.activation = none →
      ctx.bindings.find assigned = none) :
    AgentdInv (log ++ [.notified session call reply])
      { ctx with
        bindings := (NotificationBridge.sendNotification env.order ctx.bindings session replacesId
          reply times).1 } := by
  unfold NotificationBridge.sendNotification
  cases reply with
  | none =>
    refine ⟨fun id entry hfound => ?_, h.zero, h.valid,
      h.opens.append_quiet fun _ _ => Output.noConfusion⟩
    rw [shown_append]
    exact h.bound id entry hfound
  | some assigned =>
    cases hactivation : session.activation with
    | none => exact h.notify_unbound (hfresh assigned rfl hactivation)
    | some descriptor =>
      by_cases hzero : assigned = 0
      · -- the id 0 is not bound, and the bridge does not bind it
        subst hzero
        exact h.notify_unbound h.zero
      · simp only [ne_eq, hzero, not_false_eq_true, if_true]
        exact h.notify_bind hactivation (hvalid descriptor hactivation) hzero _ _ _

/-- An action keeps the invariant: what it activates was bound, hence shown and unused. -/
theorem AgentdInv.act (h : AgentdInv log ctx) (now : TimePoint) (notificationId : UInt32)
    (actionKey : Bytes) :
    AgentdInv (log ++ (handle env ctx (.actionInvoked notificationId actionKey now)).2)
      (handle env ctx (.actionInvoked notificationId actionKey now)).1 := by
  simp only [handle, NotificationBridge.handleAction]
  by_cases hkey : actionKey = Bytes.ofString "open"
  · simp only [hkey, ne_eq, not_true_eq_false, if_false]
    obtain ⟨hconsumed, hgone, hkept⟩ :=
      @NotificationActionBindings.consume_spec ctx.bindings now notificationId
    have hdropped := h.dropBindings hkept
    cases houtcome : (ctx.bindings.consume now notificationId).2 with
    | none => exact hdropped.append_quiet fun _ hmem => absurd hmem List.not_mem_nil
    | some descriptor =>
      obtain ⟨entry, hbound, rfl⟩ := hconsumed descriptor houtcome
      -- the entry was bound, so it is what is shown, and it is not bound any more
      have hshown := h.bound notificationId entry hbound
      refine ⟨fun id other hfound => ?_, hdropped.zero, h.valid,
        h.opens.append_activated hshown⟩
      have hne : notificationId ≠ id := by
        rintro rfl
        rw [hgone] at hfound
        cases hfound
      show shown id (log ++ [.activated entry.descriptor (.action notificationId)]) = _
      rw [shown_append]
      show (if notificationId = id then _ else _) = _
      rw [if_neg hne]
      exact h.bound id other (hkept id other hfound)
  · simp only [ne_eq, hkey, not_false_eq_true, if_true]
    exact h.append_quiet fun _ hmem => absurd hmem List.not_mem_nil

/-- An event keeps the invariant under the condition. -/
theorem AgentdInv.publish (h : AgentdInv log ctx) {arguments : PublishArguments} {now : TimePoint}
    {reply : Option UInt32} {times : NotificationBridge.ReplaceTimes}
    (hfresh : FreshReply env ctx (.publishEvent arguments now reply times)) :
    AgentdInv (log ++ (methodPublishEvent env ctx arguments now reply times).2)
      (methodPublishEvent env ctx arguments now reply times).1 := by
  have hnotified := @AgentdInv.notify env log ctx h
    (ctx.registry.published env.workingDirectory arguments.event now) reply
    (NotificationBridge.notifyCall
      (ctx.registry.published env.workingDirectory arguments.event now) arguments.event
      (ctx.registry.published env.workingDirectory arguments.event now).notificationId)
    (ctx.registry.published env.workingDirectory arguments.event now).notificationId times
    (fun _ hactivation => h.valid.published hactivation)
    (fun assigned hreply => by
      subst hreply
      exact hfresh)
  -- The signals that follow are quiet, and the registry only records the id.
  have hvalid :
      (ctx.registry.publishEvent env.workingDirectory arguments.event now).ActivationsValid :=
    h.valid.publishEvent
  unfold methodPublishEvent
  simp only [List.cons_append, List.nil_append]
  rw [List.append_cons]
  refine (hnotified.setRegistry (hvalid.updateNotificationId _ _)).append_quiet
    fun output hmem => ?_
  rcases List.mem_cons.mp hmem with rfl | hmem
  · trivial
  · split at hmem
    · rw [List.mem_singleton.mp hmem]
      trivial
    · exact absurd hmem List.not_mem_nil

/-- Every step under the condition keeps the invariant. -/
theorem AgentdInv.step (h : AgentdInv log ctx) {input : Input} (hfresh : FreshReply env ctx input) :
    AgentdInv (log ++ ((agentd env).step ctx input).2) ((agentd env).step ctx input).1 := by
  show AgentdInv (log ++ (handle env ctx input).2) (handle env ctx input).1
  cases input with
  | registerSession provider sessionId pid cwd metadata lineage now =>
    refine (h.setRegistry (h.valid.registerSession provider sessionId pid cwd metadata
      lineage)).append_quiet fun output hmem => ?_
    rw [List.mem_singleton.mp hmem]
    trivial
  | publishEvent arguments now reply times =>
    exact h.publish hfresh
  | endSession sessionId result =>
    have hvalid : (ctx.registry.endSession sessionId).1.ActivationsValid := h.valid.eraseIf _
    refine (h.setRegistry hvalid).append_quiet fun output hmem => ?_
    rw [List.mem_singleton.mp hmem]
    trivial
  | activateSession sessionId =>
    refine h.append_quiet fun output hmem => ?_
    obtain ⟨descriptor, -, rfl⟩ := Option.map_eq_some_iff.mp (Option.mem_toList.mp hmem)
    trivial
  | pruneStaleSessions now =>
    exact (h.setRegistry (h.valid.eraseIf _)).append_quiet fun _ hmem =>
      absurd hmem List.not_mem_nil
  | actionInvoked notificationId actionKey now => exact h.act now notificationId actionKey
  | notificationClosed notificationId =>
    exact (h.dropBindings fun _ _ hfound => UnorderedMap.find_of_find_erase hfound).append_quiet
      fun _ hmem => absurd hmem List.not_mem_nil

theorem agentdInv_initial : AgentdInv [] AppContext.initial where
  bound := fun _ _ hfound => by cases hfound
  zero := rfl
  valid := fun _ _ _ hfound => by cases hfound
  opens := fun before after id descriptor heq => by
    have hlength := congrArg List.length heq
    rw [List.length_append, List.length_cons] at hlength
    exact absurd hlength (by simp)

end Invariant

/-! ## Open actions -/

/-- **An Open action goes to the right terminal, at most once**, in every run in which no
reply for a session without a descriptor reuses an id that is still bound. -/
theorem open_action_right (env : Environment) (inputs : List Input)
    (hfresh : (agentd env).AllSteps (FreshReply env) AppContext.initial inputs) :
    OpensRight ((agentd env).run AppContext.initial inputs).2 := by
  have hinv := (agentd env).run_induction (fun _ _ _ h hgood => h.step hgood)
    agentdInv_initial hfresh
  exact hinv.opens

/-- A session with a known lineage. -/
def registerClaude : Input :=
  .registerSession "claude" "a" 7 "/home/user/project" .null [7, 1] 1000

/-- An event of a session; the server replies with the id 5. -/
def approvalOf (sessionId : Bytes) (now : TimePoint) : Input :=
  .publishEvent { sessionId := sessionId, state := "WaitingForApproval" } now (some 5)
    { pruneTime := now, insertTime := now }

/-- The action of the first notification focuses its terminal. -/
theorem open_action_right_once :
    OpensRight ((agentd {}).run AppContext.initial
      [registerClaude, approvalOf "a" 2000, .actionInvoked 5 "open" 3000]).2 ∧
    ((agentd {}).run AppContext.initial
      [registerClaude, approvalOf "a" 2000, .actionInvoked 5 "open" 3000]).2.getLast?
        = some (.activated { processLineage := [7, 1] } (.action 5)) := by
  refine ⟨open_action_right {} _ ⟨trivial, fun hnone => ?_, trivial, trivial⟩, rfl⟩
  exact absurd hnone (by decide)

/-- The server starts again and returns 5 a second time, now for a session that was created
by its first event: the action on its notification focuses the terminal of the first
session. -/
theorem open_action_wrong_terminal :
    ¬ OpensRight ((agentd {}).run AppContext.initial
      [registerClaude, approvalOf "a" 2000, approvalOf "b" 3000,
        .actionInvoked 5 "open" 4000]).2 := by
  intro hright
  have hshown := hright
    (((agentd {}).run AppContext.initial
      [registerClaude, approvalOf "a" 2000, approvalOf "b" 3000]).2) [] 5
    { processLineage := [7, 1] } rfl
  exact absurd hshown (by decide)

end Agent

end Holonight
