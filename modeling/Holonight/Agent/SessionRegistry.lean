import Holonight.Base.CppLib
import Holonight.Base.Json
import Holonight.Base.UnorderedMap

/-!
# Agent sessions (`AgentActivity.cpp`, `SessionRegistry.cpp`)

The registry of `holonight-agentd`: one record per session id. A session gets an
activation descriptor only from `registerSession`, and only when the process lineage
could be read; a session that is created by its first event has none.

What the registry reads from outside is an argument: the clock, the lineage that the
ancestry reader returned for the process, and the working directory of the daemon, which
names the project of a session without a path.
-/

namespace Holonight

namespace Agent

/-! ## Activity -/

/-- `kMaximumActivationTitleBytes`. -/
def maximumActivationTitleBytes : ℕ := 512

/-- `struct ActivationDescriptor`. -/
structure ActivationDescriptor where
  processLineage : List UInt32
  titleHint : Bytes := []
  deriving DecidableEq

/-- `ActivationDescriptor::valid`. -/
def ActivationDescriptor.valid (descriptor : ActivationDescriptor) : Bool :=
  !descriptor.processLineage.isEmpty

/-- `enum class AgentState`. -/
inductive AgentState where
  | starting
  | working
  | waitingForApproval
  | waitingForInput
  | completed
  | failed
  | cancelled
  deriving DecidableEq, Repr

/-- `toString` (AgentActivity.cpp:15–33). -/
def AgentState.toBytes : AgentState → Bytes
  | .starting => "Starting"
  | .working => "Working"
  | .waitingForApproval => "WaitingForApproval"
  | .waitingForInput => "WaitingForInput"
  | .completed => "Completed"
  | .failed => "Failed"
  | .cancelled => "Cancelled"

/-- `agentStateFromString` (AgentActivity.cpp:35–58). -/
def agentStateFromString (str : Bytes) : Option AgentState :=
  if str ∈ ([ "Starting", "starting" ] : List Bytes) then some .starting
  else if str ∈ ([ "Working", "working" ] : List Bytes) then some .working
  else if str ∈ ([ "WaitingForApproval", "waiting_for_approval", "permission_prompt" ]
      : List Bytes) then some .waitingForApproval
  else if str ∈ ([ "WaitingForInput", "waiting_for_input", "idle_prompt" ] : List Bytes) then
    some .waitingForInput
  else if str ∈ ([ "Completed", "completed", "stop" ] : List Bytes) then some .completed
  else if str ∈ ([ "Failed", "failed", "error" ] : List Bytes) then some .failed
  else if str ∈ ([ "Cancelled", "cancelled" ] : List Bytes) then some .cancelled
  else none

/-- The fields of `struct AgentEvent` that a `PublishEvent` call sets. -/
structure AgentEvent where
  provider : Bytes := []
  sessionId : Bytes := []
  projectPath : Bytes := []
  state : AgentState := .working
  title : Bytes := []
  message : Bytes := []

/-- `struct AgentSession`. -/
structure AgentSession where
  sessionId : Bytes
  provider : Bytes := []
  projectName : Bytes := []
  projectPath : Bytes := []
  pid : UInt32 := 0
  windowAddress : Bytes := []
  currentState : AgentState := .starting
  lastTitle : Bytes := []
  lastMessage : Bytes := []
  startTime : TimePoint
  lastUpdateTime : TimePoint
  notificationId : UInt32 := 0
  activation : Option ActivationDescriptor := none

/-! ## The registry -/

/-- `sessions_`. -/
abbrev SessionRegistry := UnorderedMap Bytes AgentSession

namespace SessionRegistry

/-- `extractProjectName` (SessionRegistry.cpp:14–32): the part of the path after its last
`/` (47), or the whole path when that is empty. -/
def extractProjectName (workingDirectory pathStr : Bytes) : Bytes :=
  let target := if pathStr = [] then workingDirectory else pathStr
  if target = [] then "Global"
  else
    let filename := (target.reverse.takeWhile fun b => b != 47).reverse
    if filename = [] then target else filename

/-- `metadata[key]` when it is there and a string. -/
def metadataString (metadata : Json) (key : Bytes) : Option Bytes :=
  match metadata with
  | .obj fields =>
    match fields.lookup key with
    | some (.str s) => some s
    | _ => none
  | _ => none

/-- The id a session is registered under (SessionRegistry.cpp:44). -/
def assignedId (provider sessionId : Bytes) (pid : UInt32) : Bytes :=
  if sessionId = [] then provider ++ Bytes.ofString "-" ++ decimalNat pid.toNat else sessionId

/-- The descriptor of a registration (SessionRegistry.cpp:56–64). -/
def registeredActivation (lineage : List UInt32) (metadata : Json) :
    Option ActivationDescriptor :=
  let activation : ActivationDescriptor :=
    { processLineage := lineage
      titleHint :=
        ((metadataString metadata "terminal_title").getD []).take maximumActivationTitleBytes }
  if activation.valid then some activation else none

/-- `registerSession` (SessionRegistry.cpp:40–72). -/
def registerSession (registry : SessionRegistry) (workingDirectory provider sessionId : Bytes)
    (pid : UInt32) (cwd : Bytes) (metadata : Json) (lineage : List UInt32) (now : TimePoint) :
    SessionRegistry :=
  -- a new record: the notification of an earlier session with this id is forgotten
  registry.insertOrAssign (assignedId provider sessionId pid)
    { sessionId := assignedId provider sessionId pid
      provider := provider
      projectPath := cwd
      projectName := extractProjectName workingDirectory cwd
      pid := pid
      currentState := .starting
      startTime := now
      lastUpdateTime := now
      activation := registeredActivation lineage metadata
      windowAddress := (metadataString metadata "window_address").getD [] }

/-- The record of a session that is created by its first event
(SessionRegistry.cpp:79–90). -/
def autoRegistered (workingDirectory : Bytes) (event : AgentEvent) (now : TimePoint) :
    AgentSession where
  sessionId := event.sessionId
  provider := event.provider
  projectPath := event.projectPath
  projectName := extractProjectName workingDirectory event.projectPath
  currentState := event.state
  lastTitle := event.title
  lastMessage := event.message
  startTime := now
  lastUpdateTime := now

/-- What an event changes in the record of its session (SessionRegistry.cpp:93–107); empty
fields keep the old values. -/
def updated (workingDirectory : Bytes) (session : AgentSession) (event : AgentEvent)
    (now : TimePoint) : AgentSession :=
  { session with
    currentState := event.state
    provider := if event.provider = [] then session.provider else event.provider
    projectPath := if event.projectPath = [] then session.projectPath else event.projectPath
    projectName :=
      if event.projectPath = [] then session.projectName
      else extractProjectName workingDirectory event.projectPath
    lastTitle := if event.title = [] then session.lastTitle else event.title
    lastMessage := if event.message = [] then session.lastMessage else event.message
    lastUpdateTime := now }

/-- The record of the session of an event after it was published. -/
def published (registry : SessionRegistry) (workingDirectory : Bytes) (event : AgentEvent)
    (now : TimePoint) : AgentSession :=
  match registry.find event.sessionId with
  -- no lineage is read here, so the session has no descriptor
  | none => autoRegistered workingDirectory event now
  | some session => updated workingDirectory session event now

/-- `publishEvent` (SessionRegistry.cpp:74–109); it always returns `true`. -/
def publishEvent (registry : SessionRegistry) (workingDirectory : Bytes) (event : AgentEvent)
    (now : TimePoint) : SessionRegistry :=
  registry.insertOrAssign event.sessionId (published registry workingDirectory event now)

/-- `endSession` (SessionRegistry.cpp:111–114). -/
def endSession (registry : SessionRegistry) (sessionId : Bytes) : SessionRegistry × Bool :=
  (registry.erase sessionId, (registry.find sessionId).isSome)

/-- `updateNotificationId` (SessionRegistry.cpp:135–141). -/
def updateNotificationId (registry : SessionRegistry) (sessionId : Bytes) (notifId : UInt32) :
    SessionRegistry :=
  match registry.find sessionId with
  | none => registry
  | some session =>
    registry.insertOrAssign sessionId { session with notificationId := notifId }

/-- `pruneStaleSessions` (SessionRegistry.cpp:143–153) with its default age of 24 hours. -/
def pruneStaleSessions (registry : SessionRegistry) (now : TimePoint) : SessionRegistry :=
  registry.eraseIf fun _ session => decide (nanosPerDay < now - session.lastUpdateTime)

/-! ## Descriptors in the registry -/

/-- Every descriptor in the registry is valid. -/
def ActivationsValid (registry : SessionRegistry) : Prop :=
  ∀ id session descriptor, registry.find id = some session →
    session.activation = some descriptor → descriptor.valid = true

section Descriptors

variable {registry : SessionRegistry} {workingDirectory : Bytes} {event : AgentEvent}
  {now : TimePoint}

theorem registeredActivation_valid {lineage : List UInt32} {metadata : Json}
    {descriptor : ActivationDescriptor}
    (h : registeredActivation lineage metadata = some descriptor) : descriptor.valid = true := by
  unfold registeredActivation at h
  simp only at h
  split at h
  · rename_i hvalid
    cases h
    exact hvalid
  · cases h

/-- Setting one record keeps the descriptors valid when that record's is. -/
theorem ActivationsValid.insertOrAssign (h : ActivationsValid registry) {id : Bytes}
    {session : AgentSession}
    (hnew : ∀ descriptor, session.activation = some descriptor → descriptor.valid = true) :
    ActivationsValid (registry.insertOrAssign id session) := by
  intro other found descriptor hfound hactivation
  by_cases hid : other = id
  · subst hid
    rw [UnorderedMap.find_insertOrAssign_self] at hfound
    cases hfound
    exact hnew descriptor hactivation
  · rw [UnorderedMap.find_insertOrAssign_of_ne hid] at hfound
    exact h other found descriptor hfound hactivation

/-- Removing records keeps the descriptors valid. -/
theorem ActivationsValid.eraseIf (h : ActivationsValid registry) (p : Bytes → AgentSession → Bool) :
    ActivationsValid (registry.eraseIf p) := by
  intro id session descriptor hfound hactivation
  exact h id session descriptor (UnorderedMap.find_eraseIf.mp hfound).1 hactivation

theorem ActivationsValid.registerSession (h : ActivationsValid registry)
    (provider sessionId : Bytes) (pid : UInt32) (cwd : Bytes) (metadata : Json)
    (lineage : List UInt32) :
    ActivationsValid (registry.registerSession workingDirectory provider sessionId pid cwd metadata
      lineage now) :=
  h.insertOrAssign fun _ hactivation => registeredActivation_valid hactivation

/-- An event does not change the descriptor of its session; an unknown session gets
none. -/
theorem published_activation :
    (published registry workingDirectory event now).activation
      = (registry.find event.sessionId).bind AgentSession.activation := by
  unfold published
  cases registry.find event.sessionId with
  | none => rfl
  | some session => rfl

theorem ActivationsValid.published (h : ActivationsValid registry)
    {descriptor : ActivationDescriptor}
    (hactivation : (published registry workingDirectory event now).activation = some descriptor) :
    descriptor.valid = true := by
  rw [published_activation, Option.bind_eq_some_iff] at hactivation
  obtain ⟨session, hfound, hactivation⟩ := hactivation
  exact h _ session descriptor hfound hactivation

theorem ActivationsValid.publishEvent (h : ActivationsValid registry) :
    ActivationsValid (registry.publishEvent workingDirectory event now) :=
  h.insertOrAssign fun _ hactivation => h.published hactivation

theorem ActivationsValid.updateNotificationId (h : ActivationsValid registry) (sessionId : Bytes)
    (notifId : UInt32) : ActivationsValid (registry.updateNotificationId sessionId notifId) := by
  unfold SessionRegistry.updateNotificationId
  cases hfound : registry.find sessionId with
  | none => exact h
  | some session =>
    exact h.insertOrAssign fun descriptor hactivation =>
      h sessionId session descriptor hfound hactivation

end Descriptors

end SessionRegistry

end Agent

end Holonight
