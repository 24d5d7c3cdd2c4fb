import Holonight.Agent.SessionRecords
import Holonight.Base.JsonRoundTrip

/-!
# Provider events (`ProviderNormalizer.cpp`)

The hooks of the agents send texts in a format of their provider. A normalizer per provider
turns such a text into an event: the session and the path it names, a state, a title and a
message; a text that is not JSON becomes the message. All four write their own provider
into the event.

A name outside the four goes to the normalizer of `antigravity`, which writes `antigravity`
into the event as well, and `publishEvent` then writes it into the record of the session.
So a session keeps the provider it was registered under exactly when that is one of the
four, or when no payload is for the session (`session_keeps_provider_iff`).
-/

namespace Holonight

namespace Agent

/-! ## The normalizers -/

/-- `extractJsonStringField` (ProviderNormalizer.cpp:19–23): the new value of the target. -/
def extractJsonStringField (json : Json) (key target : Bytes) : Bytes :=
  match json.field key with
  | some (.str s) => s
  | _ => target

section Normalizers

variable {lib : CppLib} (J : JsonLibrary lib)

/-- What the normalizers share: the event of a provider, the two fields all of them read
first, and the event of a text that does not parse. -/
def normalizeWith (provider errorTitle : Bytes) (interpret : Json → AgentEvent → AgentEvent)
    (raw defaultSessionId : Bytes) : AgentEvent :=
  let event : AgentEvent := { provider := provider, sessionId := defaultSessionId }
  match J.parse raw with
  | .ok parsed =>
    interpret parsed
      { event with
        sessionId := extractJsonStringField parsed "session_id" event.sessionId
        projectPath := extractJsonStringField parsed "cwd" event.projectPath }
  | .error _ => { event with title := errorTitle, message := raw, state := .working }

/-- `if (target.empty())` the field is tried. -/
def extractIfEmpty (json : Json) (key target : Bytes) : Bytes :=
  if target = [] then extractJsonStringField json key target else target

/-- The title that is there, or the one of the state. -/
def titleOr (title default : Bytes) : Bytes := if title = [] then default else title

/-- ProviderNormalizer.cpp:38–68. -/
def claudeFields (parsed : Json) (event : AgentEvent) : AgentEvent :=
  let title := extractJsonStringField parsed "title" event.title
  let message := extractIfEmpty parsed "assistant_response"
    (extractJsonStringField parsed "message" event.message)
  let ntype := extractIfEmpty parsed "event" (extractIfEmpty parsed "notification_type"
    (extractJsonStringField parsed "hook_event_name" []))
  if ntype ∈ ([ "permission_prompt", "PermissionPrompt" ] : List Bytes) then
    { event with
      state := .waitingForApproval
      title := titleOr title "Permission needed"
      message := message }
  else if ntype ∈ ([ "idle_prompt", "IdlePrompt" ] : List Bytes) then
    { event with
      state := .waitingForInput
      title := titleOr title "Waiting for input"
      message := message }
  else if ntype ∈ ([ "completed", "stop", "AgentTurnComplete" ] : List Bytes) then
    { event with state := .completed, title := titleOr title "Task completed", message := message }
  else { event with title := title, message := message }

/-- ProviderNormalizer.cpp:92–105: the title follows from the event's name only. -/
def codexFields (parsed : Json) (event : AgentEvent) : AgentEvent :=
  let named : AgentEvent :=
    match parsed.field "event" with
    | some (.str name) =>
      if name ∈ ([ "stop", "completed" ] : List Bytes) then
        { event with state := .completed, title := "Task completed" }
      else if name ∈ ([ "approval", "pre_tool_use" ] : List Bytes) then
        { event with state := .waitingForApproval, title := "Approval required" }
      else if name = Bytes.ofString "start" then
        { event with state := .working, title := "Working..." }
      else event
    | _ => event
  { named with message := extractJsonStringField parsed "message" event.message }

/-- ProviderNormalizer.cpp:128–145. -/
def kiroFields (parsed : Json) (event : AgentEvent) : AgentEvent :=
  let trigger := extractIfEmpty parsed "trigger"
    (extractJsonStringField parsed "hook_event_name" [])
  let named : AgentEvent :=
    if trigger ∈ ([ "AgentTurnComplete", "stop", "completed" ] : List Bytes) then
      { event with state := .completed, title := "Task completed" }
    else if trigger ∈ ([ "ApprovalRequired", "permission_prompt" ] : List Bytes) then
      { event with state := .waitingForApproval, title := "Approval required" }
    else event
  { named with
    message := extractIfEmpty parsed "assistant_response"
      (extractJsonStringField parsed "message" event.message) }

/-- ProviderNormalizer.cpp:170–177. -/
def antigravityFields (parsed : Json) (event : AgentEvent) : AgentEvent :=
  { event with
    state :=
      match parsed.field "state" with
      | some (.str name) => (agentStateFromString name).getD event.state
      | _ => event.state
    title := extractJsonStringField parsed "title" event.title
    message := extractJsonStringField parsed "message" event.message }

/-- `ClaudeNormalizer::normalize` (ProviderNormalizer.cpp:27–78). -/
def claudeNormalize : Bytes → Bytes → AgentEvent :=
  normalizeWith J "claude" "Claude Code Notification" claudeFields

/-- `CodexNormalizer::normalize` (ProviderNormalizer.cpp:80–114). -/
def codexNormalize : Bytes → Bytes → AgentEvent :=
  normalizeWith J "codex" "Codex Notification" codexFields

/-- `KiroNormalizer::normalize` (ProviderNormalizer.cpp:116–155). -/
def kiroNormalize : Bytes → Bytes → AgentEvent :=
  normalizeWith J "kiro" "Kiro CLI Notification" kiroFields

/-- `AntigravityNormalizer::normalize` (ProviderNormalizer.cpp:157–186). -/
def antigravityNormalize : Bytes → Bytes → AgentEvent :=
  normalizeWith J "antigravity" "Antigravity Notification" antigravityFields

/-- `NormalizerFactory::normalize` (ProviderNormalizer.cpp:188–204). -/
def normalize (provider raw defaultSessionId : Bytes) : AgentEvent :=
  if provider = Bytes.ofString "claude" then claudeNormalize J raw defaultSessionId
  else if provider = Bytes.ofString "codex" then codexNormalize J raw defaultSessionId
  else if provider = Bytes.ofString "kiro" then kiroNormalize J raw defaultSessionId
  else if provider = Bytes.ofString "antigravity" then antigravityNormalize J raw defaultSessionId
  -- any other name: the event says `antigravity`, not the name
  else antigravityNormalize J raw defaultSessionId

/-! ## Whose event it is -/

/-- The providers with a normalizer. -/
def builtInProviders : List Bytes := [ "claude", "codex", "kiro", "antigravity" ]

/-- The provider of an event. -/
def eventProvider (provider : Bytes) : Bytes :=
  if provider ∈ builtInProviders then provider else "antigravity"

/-- The session of an event: the one the payload names, else the default. -/
def eventSession (raw defaultSessionId : Bytes) : Bytes :=
  match J.parse raw with
  | .ok parsed => extractJsonStringField parsed "session_id" defaultSessionId
  | .error _ => defaultSessionId

/-- The fields of a provider leave the provider and the session of the event. -/
def KeepsSender (interpret : Json → AgentEvent → AgentEvent) : Prop :=
  ∀ parsed event, (interpret parsed event).provider = event.provider ∧
    (interpret parsed event).sessionId = event.sessionId

theorem claudeFields_keepsSender : KeepsSender claudeFields := by
  intro parsed event
  unfold claudeFields
  simp only
  split_ifs <;> exact ⟨rfl, rfl⟩

theorem codexFields_keepsSender : KeepsSender codexFields := by
  intro parsed event
  unfold codexFields
  simp only
  split
  · split_ifs <;> exact ⟨rfl, rfl⟩
  · exact ⟨rfl, rfl⟩

theorem kiroFields_keepsSender : KeepsSender kiroFields := by
  intro parsed event
  unfold kiroFields
  simp only
  split_ifs <;> exact ⟨rfl, rfl⟩

theorem antigravityFields_keepsSender : KeepsSender antigravityFields :=
  fun _ _ => ⟨rfl, rfl⟩

variable {J}

theorem normalizeWith_sender {provider errorTitle raw id : Bytes}
    {interpret : Json → AgentEvent → AgentEvent} (h : KeepsSender interpret) :
    (normalizeWith J provider errorTitle interpret raw id).provider = provider ∧
      (normalizeWith J provider errorTitle interpret raw id).sessionId = eventSession J raw id := by
  unfold normalizeWith eventSession
  cases J.parse raw with
  | ok parsed => exact h parsed _
  | error what => exact ⟨rfl, rfl⟩

/-- **The sender of an event**: a built-in provider, or `antigravity` for every other
name. -/
theorem normalize_sender (provider raw id : Bytes) :
    (normalize J provider raw id).provider = eventProvider provider ∧
      (normalize J provider raw id).sessionId = eventSession J raw id := by
  by_cases hmem : provider ∈ builtInProviders
  · rw [eventProvider, if_pos hmem]
    simp only [builtInProviders, List.mem_cons, List.not_mem_nil, or_false] at hmem
    rcases hmem with rfl | rfl | rfl | rfl
    · exact normalizeWith_sender claudeFields_keepsSender
    · exact normalizeWith_sender codexFields_keepsSender
    · exact normalizeWith_sender kiroFields_keepsSender
    · exact normalizeWith_sender antigravityFields_keepsSender
  · -- none of the comparisons succeeds
    rw [eventProvider, if_neg hmem]
    simp only [builtInProviders, List.mem_cons, List.not_mem_nil, or_false, not_or] at hmem
    obtain ⟨hclaude, hcodex, hkiro, hantigravity⟩ := hmem
    rw [normalize, if_neg hclaude, if_neg hcodex, if_neg hkiro, if_neg hantigravity]
    exact normalizeWith_sender antigravityFields_keepsSender

theorem eventProvider_ne_nil (provider : Bytes) : eventProvider provider ≠ [] := by
  unfold eventProvider
  split
  · rename_i hmem
    rintro rfl
    exact absurd hmem (by decide)
  · decide

theorem eventProvider_eq_iff {provider : Bytes} :
    eventProvider provider = provider ↔ provider ∈ builtInProviders := by
  constructor
  · intro heq
    by_contra hnot
    rw [eventProvider, if_neg hnot] at heq
    rw [← heq] at hnot
    exact absurd hnot (by decide)
  · intro hmem
    rw [eventProvider, if_pos hmem]

/-- The payload is an object that names another session. -/
def NamesOther (J : JsonLibrary lib) (id raw : Bytes) : Prop :=
  ∃ parsed other, J.parse raw = .ok parsed ∧ parsed.field "session_id" = some (.str other) ∧
    other ≠ id

theorem eventSession_ne_iff {raw id : Bytes} : eventSession J raw id ≠ id ↔ NamesOther J id raw := by
  unfold eventSession NamesOther
  cases hparse : J.parse raw with
  | error what => simp
  | ok parsed =>
    simp only [Except.ok.injEq, exists_and_left, exists_eq_left']
    unfold extractJsonStringField
    split
    · rename_i s hfield
      simp [hfield]
    · rename_i hnone
      simp only [ne_eq, not_true_eq_false, false_iff]
      rintro ⟨other, hfield, -⟩
      exact hnone other hfield

end Normalizers

/-! ## The provider of a session -/

section Provider

variable {lib : CppLib} (J : JsonLibrary lib)

/-- The registry after the events of the payloads, each published at its time. -/
def publishPayloads (workingDirectory provider id : Bytes) (registry : SessionRegistry)
    (payloads : List (Bytes × TimePoint)) : SessionRegistry :=
  payloads.foldl
    (fun registry payload =>
      registry.publishEvent workingDirectory (normalize J provider payload.1 id) payload.2)
    registry

variable {J}

/-- An event with a provider writes it into the record of its session, and into no
other. -/
theorem SessionRegistry.provider_publishEvent {registry : SessionRegistry}
    {workingDirectory id : Bytes} {event : AgentEvent} {now : TimePoint} (h : event.provider ≠ []) :
    ((registry.publishEvent workingDirectory event now).find id).map AgentSession.provider
      = if event.sessionId = id then some event.provider
        else (registry.find id).map AgentSession.provider := by
  unfold publishEvent
  by_cases hid : event.sessionId = id
  · subst hid
    rw [if_pos rfl, UnorderedMap.find_insertOrAssign_self, Option.map_some]
    unfold published
    cases registry.find event.sessionId with
    | none => rfl
    | some session =>
      show some (if event.provider = [] then _ else _) = _
      rw [if_neg h]
  · rw [if_neg hid, UnorderedMap.find_insertOrAssign_of_ne (Ne.symm hid)]

/-- What one payload does to the provider of the session. -/
theorem provider_publishPayload {registry : SessionRegistry}
    {workingDirectory provider id raw : Bytes} {now : TimePoint} :
    ((registry.publishEvent workingDirectory (normalize J provider raw id) now).find id).map
        AgentSession.provider
      = if eventSession J raw id = id then some (eventProvider provider)
        else (registry.find id).map AgentSession.provider := by
  obtain ⟨hprovider, hsession⟩ := @normalize_sender lib J provider raw id
  rw [SessionRegistry.provider_publishEvent (hprovider ▸ eventProvider_ne_nil provider), hprovider,
    hsession]

/-- Once a session has the provider of the events, it keeps it. -/
theorem provider_publishPayloads {workingDirectory provider id : Bytes}
    {registry : SessionRegistry} (payloads : List (Bytes × TimePoint))
    (h : (registry.find id).map AgentSession.provider = some (eventProvider provider)) :
    ((publishPayloads J workingDirectory provider id registry payloads).find id).map
        AgentSession.provider = some (eventProvider provider) := by
  induction payloads generalizing registry with
  | nil => exact h
  | cons payload payloads ih =>
    refine ih ?_
    rw [provider_publishPayload]
    split
    · rfl
    · exact h

/-- A session keeps a provider name exactly when it is built in, or all payloads are for
other sessions. -/
theorem provider_publishPayloads_eq_iff {workingDirectory provider id : Bytes}
    {registry : SessionRegistry} (payloads : List (Bytes × TimePoint))
    (h : (registry.find id).map AgentSession.provider = some provider) :
    ((publishPayloads J workingDirectory provider id registry payloads).find id).map
        AgentSession.provider = some provider
      ↔ provider ∈ builtInProviders ∨ ∀ payload ∈ payloads, NamesOther J id payload.1 := by
  induction payloads generalizing registry with
  | nil => exact iff_of_true h (Or.inr fun _ hmem => absurd hmem List.not_mem_nil)
  | cons payload payloads ih =>
    rw [List.forall_mem_cons, ← eventSession_ne_iff]
    have hnext := @provider_publishPayload lib J registry workingDirectory provider id payload.1
      payload.2
    by_cases hsession : eventSession J payload.1 id = id
    · -- the payload is for the session: from here on its provider is that of the events
      rw [if_pos hsession] at hnext
      show Option.map _ ((publishPayloads J workingDirectory provider id _ payloads).find id) = _ ↔ _
      rw [provider_publishPayloads payloads hnext, Option.some.injEq, eventProvider_eq_iff]
      simp [hsession]
    · rw [if_neg hsession, h] at hnext
      rw [and_iff_right hsession]
      exact ih hnext

/-- **A session keeps its provider** through the events of any payloads if and only if the
provider is one of the four built-in ones, or every payload names another session. -/
theorem session_keeps_provider_iff (J : JsonLibrary lib) (registry : SessionRegistry)
    (workingDirectory provider sessionId : Bytes) (pid : UInt32) (cwd : Bytes) (metadata : Json)
    (lineage : List UInt32) (now : TimePoint) (payloads : List (Bytes × TimePoint)) :
    ((publishPayloads J workingDirectory provider
        (SessionRegistry.assignedId provider sessionId pid)
        (registry.registerSession workingDirectory provider sessionId pid cwd metadata lineage now)
        payloads).find (SessionRegistry.assignedId provider sessionId pid)).map
          AgentSession.provider = some provider
      ↔ provider ∈ builtInProviders ∨
        ∀ payload ∈ payloads,
          NamesOther J (SessionRegistry.assignedId provider sessionId pid) payload.1 := by
  refine provider_publishPayloads_eq_iff payloads ?_
  show Option.map _ (UnorderedMap.find (UnorderedMap.insertOrAssign _ _ _) _) = _
  rw [UnorderedMap.find_insertOrAssign_self]
  rfl

/-- `hn-agent-run agy` registers a session of `agy`; its first event turns it into one of
`antigravity`. -/
theorem agy_becomes_antigravity :
    ((publishPayloads JsonLibrary.integral "/" "agy" "agy-42"
        (SessionRegistry.registerSession UnorderedMap.empty "/" "agy" "agy-42" 42 "/repo" .null
          [42, 1] 1000)
        [("\x7b\x7d", 2000)]).find "agy-42").map AgentSession.provider
      ≠ some (Bytes.ofString "agy") := by
  have hparse : JsonLibrary.integral.parse "\x7b\x7d" = .ok (.obj []) := by rfl
  have hsession : eventSession JsonLibrary.integral "\x7b\x7d" "agy-42"
      = Bytes.ofString "agy-42" := by
    rw [eventSession, hparse]
    rfl
  have hprovider := @provider_publishPayload _ JsonLibrary.integral
    (SessionRegistry.registerSession UnorderedMap.empty "/" "agy" "agy-42" 42 "/repo" .null
      [42, 1] 1000) "/" "agy" "agy-42" "\x7b\x7d" 2000
  rw [if_pos hsession] at hprovider
  show Option.map _ (UnorderedMap.find (SessionRegistry.publishEvent _ _ _ _) _) ≠ _
  rw [hprovider]
  decide

end Provider

end Agent

end Holonight
