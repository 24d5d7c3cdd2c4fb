import Holonight.Agent.SessionRecords

/-!
# What the daemon knows of a session (`SessionRegistry.cpp`, `agentd/main.cpp`)

The registry keeps one record for each session id, and every call names the session it is about;
only the prune of stale sessions looks at all of them. So the sessions do not meet in the registry:

- `session_noninterference`: the record of a session and all that is sent about it depend on the
  calls about this session and the prunes alone. Other sessions, whatever they do and whenever, do
  not show in it.
- `record_iff`: the record itself is what was told since it began. Each text is the last one that
  was not empty, the state is that of the last event, and the record is there until the session ends
  or a prune finds it idle for more than a day.
-/

namespace Holonight

namespace Agent

/-! ## The calls about a session -/

/-- The inputs that concern a session: the calls that name it, and the prunes. -/
def Concerns (id : Bytes) : Input → Bool
  | .registerSession provider given pid _ _ _ _ =>
    decide (SessionRegistry.assignedId provider given pid = id)
  | .publishEvent arguments _ _ _ => decide (arguments.sessionId = id)
  | .endSession sessionId _ => decide (sessionId = id)
  | .activateSession sessionId => decide (sessionId = id)
  | .pruneStaleSessions _ => true
  | .actionInvoked _ _ _ => false
  | .notificationClosed _ => false

/-- What is sent about a session: its signals, its notifications, and the activations that its own
`ActivateSession` calls ask for. -/
def IsAbout (id : Bytes) : Output → Bool
  | .sessionAdded sessionId _ _ => decide (sessionId = id)
  | .sessionChanged sessionId _ _ _ => decide (sessionId = id)
  | .sessionRemoved sessionId _ => decide (sessionId = id)
  | .attentionRequested sessionId _ _ _ => decide (sessionId = id)
  | .notified session _ _ => decide (session.sessionId = id)
  | .activated _ (.method sessionId) => decide (sessionId = id)
  | .activated _ (.action _) => false

/-- Each record is stored under its own id. -/
def Keyed (registry : SessionRegistry) : Prop :=
  ∀ id session, registry.find id = some session → session.sessionId = id

section Independence

variable {env : Environment} {ctx ctx' : AppContext} {input : Input} {id : Bytes}
  {registry : SessionRegistry}

theorem Keyed.insertOrAssign (h : Keyed registry) {session : AgentSession}
    (hkey : session.sessionId = id) : Keyed (registry.insertOrAssign id session) := by
  intro other found hfind
  rcases UnorderedMap.find_insertOrAssign_iff.mp hfind with ⟨rfl, rfl⟩ | ⟨-, hfound⟩
  · exact hkey
  · exact h other found hfound

theorem Keyed.eraseIf (h : Keyed registry) (p : Bytes → AgentSession → Bool) :
    Keyed (registry.eraseIf p) :=
  fun id session hfind => h id session (UnorderedMap.find_eraseIf.mp hfind).1

/-- An event is published under the id it names. -/
theorem Keyed.published_sessionId (h : Keyed registry) (workingDirectory : Bytes)
    (event : AgentEvent) (now : TimePoint) :
    (registry.published workingDirectory event now).sessionId = event.sessionId := by
  unfold SessionRegistry.published
  cases hold : registry.find event.sessionId with
  | none => rfl
  | some session => exact h event.sessionId session hold

theorem Keyed.updateNotificationId (h : Keyed registry) (notifId : UInt32) :
    Keyed (registry.updateNotificationId id notifId) := by
  unfold SessionRegistry.updateNotificationId
  cases hold : registry.find id with
  | none => exact h
  | some session => exact h.insertOrAssign (h id session hold)

theorem Keyed.handle (h : Keyed ctx.registry) (input : Input) :
    Keyed (handle env ctx input).1.registry := by
  cases input with
  | registerSession provider given pid cwd metadata lineage now => exact h.insertOrAssign rfl
  | publishEvent arguments now reply times =>
    exact (h.insertOrAssign (h.published_sessionId _ _ _)).updateNotificationId _
  | endSession sessionId result => exact h.eraseIf _
  | activateSession sessionId => exact h
  | pruneStaleSessions now => exact h.eraseIf _
  | actionInvoked notificationId actionKey now => exact h
  | notificationClosed notificationId => exact h

/-- What a prune leaves of a record. -/
theorem find_pruneStaleSessions (now : TimePoint) :
    (registry.pruneStaleSessions now).find id
      = (registry.find id).filter fun session =>
          decide (now - session.lastUpdateTime ≤ nanosPerDay) := by
  ext session
  rw [SessionRegistry.pruneStaleSessions, UnorderedMap.find_eraseIf, Option.filter_eq_some_iff,
    decide_eq_false_iff_not, decide_eq_true_iff, not_lt]

/-- The record that an event leaves depends on the record that was there. -/
theorem published_congr {other : SessionRegistry} {event : AgentEvent}
    (hsame : registry.find event.sessionId = other.find event.sessionId) (workingDirectory : Bytes)
    (now : TimePoint) :
    registry.published workingDirectory event now = other.published workingDirectory event now := by
  unfold SessionRegistry.published
  rw [hsame]

/-- A call about a session does the same where the record is the same. -/
theorem handle_respects (hsame : ctx.registry.find id = ctx'.registry.find id)
    (hconcerns : Concerns id input = true) :
    (handle env ctx input).1.registry.find id = (handle env ctx' input).1.registry.find id ∧
      (handle env ctx input).2 = (handle env ctx' input).2 := by
  cases input with
  | registerSession provider given pid cwd metadata lineage now =>
    obtain rfl := of_decide_eq_true hconcerns
    refine ⟨?_, rfl⟩
    exact UnorderedMap.find_insertOrAssign_self.trans UnorderedMap.find_insertOrAssign_self.symm
  | publishEvent arguments now reply times =>
    obtain rfl := of_decide_eq_true hconcerns
    have hpublished : ctx.registry.published env.workingDirectory arguments.event now
        = ctx'.registry.published env.workingDirectory arguments.event now :=
      published_congr hsame _ _
    constructor
    · show (methodPublishEvent env ctx arguments now reply times).1.registry.find _
        = (methodPublishEvent env ctx' arguments now reply times).1.registry.find _
      rw [find_methodPublishEvent_self, find_methodPublishEvent_self, hpublished]
    · show (methodPublishEvent env ctx arguments now reply times).2
        = (methodPublishEvent env ctx' arguments now reply times).2
      unfold methodPublishEvent
      dsimp only
      rw [hpublished]
  | endSession sessionId result =>
    obtain rfl := of_decide_eq_true hconcerns
    exact ⟨UnorderedMap.find_erase_self.trans UnorderedMap.find_erase_self.symm, rfl⟩
  | activateSession sessionId =>
    obtain rfl := of_decide_eq_true hconcerns
    refine ⟨hsame, ?_⟩
    show (Option.map _ (activateSession ctx.registry sessionId)).toList
      = (Option.map _ (activateSession ctx'.registry sessionId)).toList
    unfold activateSession
    rw [hsame]
  | pruneStaleSessions now =>
    refine ⟨?_, rfl⟩
    show (ctx.registry.pruneStaleSessions now).find id = (ctx'.registry.pruneStaleSessions now).find id
    rw [find_pruneStaleSessions, find_pruneStaleSessions, hsame]
  | actionInvoked notificationId actionKey now => cases hconcerns
  | notificationClosed notificationId => cases hconcerns

/-- A call that is not about a session leaves its record, and nothing is sent about it. -/
theorem handle_silent (hkeyed : Keyed ctx.registry) (hother : Concerns id input = false) :
    (handle env ctx input).1.registry.find id = ctx.registry.find id ∧
      (handle env ctx input).2.filter (IsAbout id) = [] := by
  cases input with
  | registerSession provider given pid cwd metadata lineage now =>
    have hne : SessionRegistry.assignedId provider given pid ≠ id := of_decide_eq_false hother
    refine ⟨UnorderedMap.find_insertOrAssign_of_ne (Ne.symm hne), ?_⟩
    exact List.filter_cons_of_neg fun habout => hne (of_decide_eq_true habout)
  | publishEvent arguments now reply times =>
    have hne : arguments.sessionId ≠ id := of_decide_eq_false hother
    refine ⟨find_methodPublishEvent_of_ne (Ne.symm hne), ?_⟩
    have hsession : (ctx.registry.published env.workingDirectory arguments.event now).sessionId ≠ id :=
      fun heq => hne ((hkeyed.published_sessionId _ arguments.event now).symm.trans heq)
    refine List.filter_eq_nil_iff.mpr fun output houtput => ?_
    rcases List.mem_append.mp houtput with houtput | houtput
    · rcases List.mem_cons.mp houtput with rfl | houtput
      · exact fun habout => hsession (of_decide_eq_true habout)
      · rw [List.mem_singleton.mp houtput]
        exact fun habout => hne (of_decide_eq_true habout)
    · obtain ⟨-, houtput⟩ := List.mem_ite_nil_right.mp houtput
      rw [List.mem_singleton.mp houtput]
      exact fun habout => hne (of_decide_eq_true habout)
  | endSession sessionId result =>
    have hne : sessionId ≠ id := of_decide_eq_false hother
    refine ⟨UnorderedMap.find_erase_of_ne (Ne.symm hne), ?_⟩
    exact List.filter_cons_of_neg fun habout => hne (of_decide_eq_true habout)
  | activateSession sessionId =>
    have hne : sessionId ≠ id := of_decide_eq_false hother
    refine ⟨rfl, List.filter_eq_nil_iff.mpr fun output houtput => ?_⟩
    obtain ⟨descriptor, -, rfl⟩ := Option.map_eq_some_iff.mp (Option.mem_toList.mp houtput)
    exact fun habout => hne (of_decide_eq_true habout)
  | pruneStaleSessions now => cases hother
  | actionInvoked notificationId actionKey now =>
    refine ⟨rfl, List.filter_eq_nil_iff.mpr fun output houtput => ?_⟩
    obtain ⟨descriptor, -, rfl⟩ := Option.map_eq_some_iff.mp (Option.mem_toList.mp houtput)
    exact Bool.false_ne_true
  | notificationClosed notificationId => exact ⟨rfl, rfl⟩

theorem agentd_unwinding (env : Environment) (id : Bytes) :
    (agentd env).Unwinding (fun ctx => Keyed ctx.registry) (fun ctx => ctx.registry.find id)
      (Concerns id) (IsAbout id) where
  keeps _ input h := h.handle input
  respects _ _ _ _ _ hsame hconcerns := by
    obtain ⟨hrecord, hsent⟩ := handle_respects hsame hconcerns
    exact ⟨hrecord, congrArg (List.filter (IsAbout id)) hsent⟩
  silent _ _ h hother := handle_silent h hother

theorem keyed_initial : Keyed AppContext.initial.registry := fun _ _ hfind => by cases hfind

/-- **Sessions do not interfere**: in two runs of the daemon with the same calls about a session and
the same prunes, in the same order, the session has the same record, and the same is sent about it,
whatever is called for other sessions, whatever becomes of notifications, and whenever. -/
theorem session_noninterference (env : Environment) (id : Bytes) (inputs inputs' : List Input)
    (hsame : inputs.filter (Concerns id) = inputs'.filter (Concerns id)) :
    ((agentd env).run AppContext.initial inputs).1.registry.find id
        = ((agentd env).run AppContext.initial inputs').1.registry.find id ∧
      ((agentd env).run AppContext.initial inputs).2.filter (IsAbout id)
        = ((agentd env).run AppContext.initial inputs').2.filter (IsAbout id) :=
  (agentd_unwinding env id).noninterference keyed_initial keyed_initial rfl hsame

/-- Another session's prompts, before and after, do not show in a session. -/
theorem session_noninterference_other_prompts :
    ((agentd {}).run AppContext.initial
          [approvalOf "b" 1, registerClaude, approvalOf "b" 3]).1.registry.find "a"
        = ((agentd {}).run AppContext.initial [registerClaude]).1.registry.find "a" ∧
      ((agentd {}).run AppContext.initial
          [approvalOf "b" 1, registerClaude, approvalOf "b" 3]).2.filter
            (IsAbout "a")
        = ((agentd {}).run AppContext.initial [registerClaude]).2.filter (IsAbout "a") :=
  session_noninterference {} "a" [approvalOf "b" 1, registerClaude, approvalOf "b" 3]
    [registerClaude] rfl

end Independence

/-! ## The record as it was told -/

/-- An event of a session, as the daemon handled it. -/
structure Published where
  event : AgentEvent
  now : TimePoint
  reply : Option UInt32

/-- The events of a session among the inputs. -/
def publishedOf (id : Bytes) (inputs : List Input) : List Published :=
  inputs.filterMap fun
    | .publishEvent arguments now reply _ =>
      if arguments.sessionId = id then some ⟨arguments.event, now, reply⟩ else none
    | _ => none

/-- What the last event tells that tells anything. -/
def latest {α : Type} (tells : Published → Option α) (events : List Published) (before : α) : α :=
  (events.filterMap tells).getLast?.getD before

/-- An empty text tells nothing. -/
def nonempty (text : Bytes) : Option Bytes := if text = [] then none else some text

/-- The record of a session after some more of its events. -/
def told (workingDirectory : Bytes) (record : AgentSession) (events : List Published) :
    AgentSession :=
  { record with
    currentState := latest (fun e => some e.event.state) events record.currentState
    provider := latest (fun e => nonempty e.event.provider) events record.provider
    projectPath := latest (fun e => nonempty e.event.projectPath) events record.projectPath
    projectName :=
      latest (fun e => (nonempty e.event.projectPath).map
        (SessionRegistry.extractProjectName workingDirectory)) events record.projectName
    lastTitle := latest (fun e => nonempty e.event.title) events record.lastTitle
    lastMessage := latest (fun e => nonempty e.event.message) events record.lastMessage
    lastUpdateTime := latest (fun e => some e.now) events record.lastUpdateTime
    notificationId := latest (fun e => e.reply) events record.notificationId }

/-- The input begins a record: it makes it without any other, and it is a registration or there was
no record. -/
def Begins (env : Environment) (id : Bytes) (old : Option AgentSession) (input : Input)
    (first : AgentSession) : Prop :=
  (handle env AppContext.initial input).1.registry.find id = some first ∧
    match input with
    | .registerSession _ _ _ _ _ _ _ => True
    | _ => old = none

/-- The input leaves a record there: it does not register the session anew, does not end it, and is
no prune that finds it idle for more than a day. -/
def Stays (id : Bytes) (record : AgentSession) : Input → Prop
  | .registerSession provider given pid _ _ _ _ => SessionRegistry.assignedId provider given pid ≠ id
  | .endSession sessionId _ => sessionId ≠ id
  | .pruneStaleSessions now => now - record.lastUpdateTime ≤ nanosPerDay
  | _ => True

/-- Each of the inputs leaves the record there, as it has become by then. -/
def Lasts (env : Environment) (id : Bytes) (first : AgentSession) (after : List Input) : Prop :=
  ∀ done input rest, after = done ++ input :: rest →
    Stays id (told env.workingDirectory first (publishedOf id done)) input

/-- The record is what was told since it began. -/
def ToldSince (env : Environment) (id : Bytes) (inputs : List Input) (session : AgentSession) :
    Prop :=
  ∃ before input after first, inputs = before ++ input :: after ∧
    Begins env id (((agentd env).run AppContext.initial before).1.registry.find id) input first ∧
    Lasts env id first after ∧
    session = told env.workingDirectory first (publishedOf id after)

section Told

variable {env : Environment} {ctx : AppContext} {input : Input} {id : Bytes}
  {session old first : AgentSession} {inputs : List Input}

theorem latest_append {α : Type} (tells : Published → Option α) (events more : List Published)
    (before : α) :
    latest tells (events ++ more) before = latest tells more (latest tells events before) := by
  unfold latest
  rw [List.filterMap_append, List.getLast?_append]
  cases (more.filterMap tells).getLast? with
  | none => rfl
  | some value => rfl

theorem latest_singleton {α : Type} (tells : Published → Option α) (event : Published)
    (before : α) : latest tells [event] before = (tells event).getD before := by
  unfold latest
  cases htells : tells event with
  | none => rw [List.filterMap_cons_none htells]; rfl
  | some value => rw [List.filterMap_cons_some htells]; rfl

theorem told_append (workingDirectory : Bytes) (record : AgentSession)
    (events more : List Published) :
    told workingDirectory record (events ++ more)
      = told workingDirectory (told workingDirectory record events) more := by
  simp only [told, latest_append]

theorem getD_nonempty (text before : Bytes) :
    (nonempty text).getD before = if text = [] then before else text := by
  unfold nonempty
  split <;> rfl

/-- One event, as the registry takes it in. -/
theorem told_singleton (workingDirectory : Bytes) (record : AgentSession) (event : Published) :
    told workingDirectory record [event]
      = { SessionRegistry.updated workingDirectory record event.event event.now with
          notificationId := event.reply.getD record.notificationId } := by
  have hname : ((nonempty event.event.projectPath).map
      (SessionRegistry.extractProjectName workingDirectory)).getD record.projectName
        = if event.event.projectPath = [] then record.projectName
          else SessionRegistry.extractProjectName workingDirectory event.event.projectPath := by
    unfold nonempty
    split <;> rfl
  simp only [told, latest_singleton, getD_nonempty, hname, SessionRegistry.updated,
    Option.getD_some]

theorem publishedOf_append (id : Bytes) (inputs more : List Input) :
    publishedOf id (inputs ++ more) = publishedOf id inputs ++ publishedOf id more :=
  List.filterMap_append

theorem told_nil (workingDirectory : Bytes) (record : AgentSession) :
    told workingDirectory record [] = record := rfl

/-- An input that makes no record alone leaves one only where it was. -/
theorem not_begins (hnone : (handle env AppContext.initial input).1.registry.find id = none)
    {record : Option AgentSession} : ¬ Begins env id record input session := by
  rintro ⟨hfind, -⟩
  rw [hnone] at hfind
  cases hfind

/-- The record of an event's session, from the one that was there. -/
theorem find_publish_of_some {arguments : PublishArguments} {now : TimePoint}
    {reply : Option UInt32} {times : NotificationBridge.ReplaceTimes}
    (hold : ctx.registry.find arguments.sessionId = some old) :
    (methodPublishEvent env ctx arguments now reply times).1.registry.find arguments.sessionId
      = some (told env.workingDirectory old [⟨arguments.event, now, reply⟩]) := by
  rw [find_methodPublishEvent_self, told_singleton]
  have hpublished : ctx.registry.published env.workingDirectory arguments.event now
      = SessionRegistry.updated env.workingDirectory old arguments.event now := by
    unfold SessionRegistry.published
    rw [show arguments.event.sessionId = arguments.sessionId from rfl, hold]
  rw [hpublished]
  rfl

/-- The record that an event begins. -/
theorem find_publish_of_none {arguments : PublishArguments} {now : TimePoint}
    {reply : Option UInt32} {times : NotificationBridge.ReplaceTimes}
    (hnone : ctx.registry.find arguments.sessionId = none) :
    (methodPublishEvent env ctx arguments now reply times).1.registry.find arguments.sessionId
      = (methodPublishEvent env AppContext.initial arguments now reply times).1.registry.find
          arguments.sessionId := by
  have hpublished := @published_congr ctx.registry AppContext.initial.registry arguments.event hnone
    env.workingDirectory now
  rw [find_methodPublishEvent_self, find_methodPublishEvent_self, hpublished]

/-- **One step**: a record is there after it exactly when the step began it, or when it was there,
was left there, and has taken in what the step told. -/
theorem find_handle_iff :
    (handle env ctx input).1.registry.find id = some session ↔
      Begins env id (ctx.registry.find id) input session ∨
        ∃ old, ctx.registry.find id = some old ∧ Stays id old input ∧
          session = told env.workingDirectory old (publishedOf id [input]) := by
  -- what neither begins a record nor tells anything
  have hquiet : (handle env AppContext.initial input).1.registry.find id = none →
      publishedOf id [input] = [] →
      ((handle env ctx input).1.registry.find id = some session ↔
        ∃ old, ctx.registry.find id = some old ∧ Stays id old input ∧ session = old) →
      ((handle env ctx input).1.registry.find id = some session ↔
        Begins env id (ctx.registry.find id) input session ∨
          ∃ old, ctx.registry.find id = some old ∧ Stays id old input ∧
            session = told env.workingDirectory old (publishedOf id [input])) := by
    intro hnone htold hfind
    rw [hfind, htold, or_iff_right (not_begins hnone)]
    rfl
  cases input with
  | registerSession provider given pid cwd metadata lineage now =>
    by_cases hid : SessionRegistry.assignedId provider given pid = id
    · subst hid
      have hself : ∀ c : AppContext, (handle env c
          (.registerSession provider given pid cwd metadata lineage now)).1.registry.find
            (SessionRegistry.assignedId provider given pid) = some _ :=
        fun c => UnorderedMap.find_insertOrAssign_self
      rw [Begins, hself, hself, and_iff_left trivial]
      refine (or_iff_left ?_).symm
      rintro ⟨old, -, hstays, -⟩
      exact hstays rfl
    · refine hquiet (UnorderedMap.find_insertOrAssign_of_ne (Ne.symm hid)) rfl ?_
      rw [show (handle env ctx (.registerSession provider given pid cwd metadata lineage
        now)).1.registry.find id = ctx.registry.find id from
          UnorderedMap.find_insertOrAssign_of_ne (Ne.symm hid)]
      refine ⟨fun h => ⟨session, h, hid, rfl⟩, ?_⟩
      rintro ⟨_, h, -, rfl⟩
      exact h
  | publishEvent arguments now reply times =>
    by_cases hid : arguments.sessionId = id
    · subst hid
      have htold : publishedOf arguments.sessionId [.publishEvent arguments now reply times]
          = [⟨arguments.event, now, reply⟩] := by simp [publishedOf]
      rw [htold]
      show (methodPublishEvent env ctx arguments now reply times).1.registry.find _ = _ ↔
        (methodPublishEvent env AppContext.initial arguments now reply times).1.registry.find _ = _ ∧
          ctx.registry.find _ = none ∨ _
      cases hold : ctx.registry.find arguments.sessionId with
      | none =>
        rw [find_publish_of_none hold]
        simp
      | some old =>
        rw [find_publish_of_some hold]
        simp [Stays, eq_comm]
    · refine hquiet ?_ (by simp [publishedOf, hid]) ?_
      · exact (find_methodPublishEvent_of_ne (Ne.symm hid)).trans rfl
      · rw [show (handle env ctx (.publishEvent arguments now reply times)).1.registry.find id
          = ctx.registry.find id from find_methodPublishEvent_of_ne (Ne.symm hid)]
        refine ⟨fun h => ⟨session, h, trivial, rfl⟩, ?_⟩
        rintro ⟨_, h, -, rfl⟩
        exact h
  | endSession sessionId result =>
    refine hquiet ?_ rfl ?_
    · cases hfind : (handle env AppContext.initial (.endSession sessionId result)).1.registry.find id with
      | none => rfl
      | some found => cases UnorderedMap.find_of_find_erase hfind
    · rw [show (handle env ctx (.endSession sessionId result)).1.registry.find id
        = (ctx.registry.erase sessionId).find id from rfl, UnorderedMap.find_erase_iff]
      constructor
      · rintro ⟨hne, h⟩
        exact ⟨session, h, Ne.symm hne, rfl⟩
      · rintro ⟨_, h, hne, rfl⟩
        exact ⟨Ne.symm hne, h⟩
  | activateSession sessionId =>
    refine hquiet rfl rfl ⟨fun h => ⟨session, h, trivial, rfl⟩, ?_⟩
    rintro ⟨_, h, -, rfl⟩
    exact h
  | pruneStaleSessions now =>
    refine hquiet ?_ rfl ?_
    · exact find_pruneStaleSessions now
    · rw [show (handle env ctx (.pruneStaleSessions now)).1.registry.find id
        = (ctx.registry.pruneStaleSessions now).find id from rfl, find_pruneStaleSessions,
        Option.filter_eq_some_iff, decide_eq_true_iff]
      constructor
      · rintro ⟨h, hstays⟩
        exact ⟨session, h, hstays, rfl⟩
      · rintro ⟨_, h, hstays, rfl⟩
        exact ⟨h, hstays⟩
  | actionInvoked notificationId actionKey now =>
    refine hquiet rfl rfl ⟨fun h => ⟨session, h, trivial, rfl⟩, ?_⟩
    rintro ⟨_, h, -, rfl⟩
    exact h
  | notificationClosed notificationId =>
    refine hquiet rfl rfl ⟨fun h => ⟨session, h, trivial, rfl⟩, ?_⟩
    rintro ⟨_, h, -, rfl⟩
    exact h

theorem lasts_nil : Lasts env id first [] := by
  intro done input rest h
  exact absurd h.symm (List.append_ne_nil_of_right_ne_nil done (List.cons_ne_nil input rest))

/-- One more input has to leave the record there too. -/
theorem lasts_append_singleton {after : List Input} :
    Lasts env id first (after ++ [input]) ↔
      Lasts env id first after ∧
        Stays id (told env.workingDirectory first (publishedOf id after)) input := by
  constructor
  · intro h
    refine ⟨fun done other rest hsplit => h done other (rest ++ [input]) ?_, h after input [] rfl⟩
    rw [hsplit, List.append_assoc, List.cons_append]
  · rintro ⟨hlasts, hlast⟩ done other rest hsplit
    rcases append_singleton_eq hsplit with ⟨rfl, rfl, -⟩ | ⟨init, -, hinit⟩
    · exact hlast
    · exact hlasts done other init hinit

/-- The step of what was told, as the step of the record. -/
theorem toldSince_append_singleton :
    ToldSince env id (inputs ++ [input]) session ↔
      Begins env id (((agentd env).run AppContext.initial inputs).1.registry.find id) input session ∨
        ∃ old, ToldSince env id inputs old ∧ Stays id old input ∧
          session = told env.workingDirectory old (publishedOf id [input]) := by
  constructor
  · rintro ⟨before, began, after, first, hsplit, hbegins, hlasts, rfl⟩
    rcases append_singleton_eq hsplit with ⟨rfl, rfl, rfl⟩ | ⟨init, rfl, hinit⟩
    · exact Or.inl hbegins
    · obtain ⟨hlasts, hstays⟩ := lasts_append_singleton.mp hlasts
      refine Or.inr ⟨_, ⟨before, began, init, first, hinit, hbegins, hlasts, rfl⟩, hstays, ?_⟩
      rw [publishedOf_append, told_append]
  · rintro (hbegins | ⟨old, ⟨before, began, after, first, rfl, hbegins, hlasts, rfl⟩, hstays, rfl⟩)
    · exact ⟨inputs, input, [], session, rfl, hbegins, lasts_nil, rfl⟩
    · refine ⟨before, began, after ++ [input], first, ?_, hbegins,
        lasts_append_singleton.mpr ⟨hlasts, hstays⟩, ?_⟩
      · rw [List.append_assoc, List.cons_append]
      · rw [publishedOf_append, told_append]

/-- **The registry is its history**: after every run of the daemon, a session has a record exactly
when one began and lasted, and the record is what was told since. -/
theorem record_iff (env : Environment) (id : Bytes) (inputs : List Input) (session : AgentSession) :
    ((agentd env).run AppContext.initial inputs).1.registry.find id = some session ↔
      ToldSince env id inputs session := by
  induction inputs using List.reverseRecOn generalizing session with
  | nil =>
    refine iff_of_false (fun h => by cases h) ?_
    rintro ⟨before, input, after, first, h, -⟩
    exact absurd h.symm (List.append_ne_nil_of_right_ne_nil before (List.cons_ne_nil input after))
  | append_singleton inputs input ih =>
    rw [toldSince_append_singleton, (agentd env).run_append]
    refine find_handle_iff.trans (or_congr_right ?_)
    exact exists_congr fun old => and_congr_left fun _ => ih old

end Told

end Agent

end Holonight
