import Holonight.Agent.SessionRegistry
import Holonight.Base.JsonObjects

/-!
# Agent events as JSON (`AgentActivity.cpp`)

`AgentEvent::toJson` writes nine keys and `AgentEvent::fromJson` reads nine keys, each from its
own list. A key that is missing or has a value of another type leaves the default of the field
without an error, so that a difference between the two lists would lose a field silently.
There is none: **decoding undoes encoding** (`event_fromJson_toJson`) for every event whose metadata
are null or an object.
-/

namespace Holonight

namespace Agent

open Json

/-- `struct AgentEvent` with all its fields: those the daemon acts on, and three that only travel
with the event. -/
structure FullAgentEvent extends AgentEvent where
  terminalId : Bytes := []
  timestampMs : UInt64 := 0
  metadata : Json := .null

namespace FullAgentEvent

/-- The initialiser list of `toJson`. -/
def jsonFields (event : FullAgentEvent) : List (Bytes × Json) :=
  [("provider", .str event.provider), ("session_id", .str event.sessionId),
   ("project_path", .str event.projectPath), ("terminal_id", .str event.terminalId),
   ("state", .str event.state.toBytes), ("title", .str event.title),
   ("message", .str event.message), ("timestamp_ms", .uint event.timestampMs.toNat),
   ("metadata", event.metadata)]

/-- `AgentEvent::toJson` (AgentActivity.cpp:60–66). -/
def toJson (event : FullAgentEvent) : Json := .object event.jsonFields

/-- A string field of `fromJson`: empty unless the key has a string. -/
def stringOrEmpty (j : Json) (key : Bytes) : Bytes := (j.stringAt key).getD []

/-- `AgentEvent::fromJson` (AgentActivity.cpp:68–101). -/
def fromJson (j : Json) : FullAgentEvent where
  provider := stringOrEmpty j "provider"
  sessionId := stringOrEmpty j "session_id"
  projectPath := stringOrEmpty j "project_path"
  terminalId := stringOrEmpty j "terminal_id"
  -- a name that is not known leaves the default too
  state := ((j.stringAt "state").bind agentStateFromString).getD .working
  title := stringOrEmpty j "title"
  message := stringOrEmpty j "message"
  timestampMs :=
    match j.field "timestamp_ms" with
    | some (.uint n) => UInt64.ofNat n
    | _ => 0
  metadata :=
    match j.field "metadata" with
    | some (.obj fields) => .obj fields
    | _ => .null

/-! ## The round trip -/

theorem nodup_jsonKeys (event : FullAgentEvent) : (event.jsonFields.map Prod.fst).Nodup := by
  show ([ "provider", "session_id", "project_path", "terminal_id", "state", "title", "message",
    "timestamp_ms", "metadata" ] : List Bytes).Nodup
  decide +kernel

/-- What stands under a key of the document. -/
theorem field_toJson {event : FullAgentEvent} {key : Bytes} {value : Json}
    (h : (key, value) ∈ event.jsonFields) : event.toJson.field key = some value :=
  field_object (nodup_jsonKeys event) h

theorem stringAt_toJson {event : FullAgentEvent} {key s : Bytes}
    (h : (key, Json.str s) ∈ event.jsonFields) : event.toJson.stringAt key = some s :=
  stringAt_eq_some_iff.mpr (field_toJson h)

/-- Every state has a name of its own, and it is read back. -/
theorem agentStateFromString_toBytes (state : AgentState) :
    agentStateFromString state.toBytes = some state := by
  cases state <;> decide

/-- **Agent events survive JSON**: decoding undoes encoding in all nine fields, for every event
whose metadata are null or an object. -/
theorem event_fromJson_toJson (event : FullAgentEvent)
    (hmetadata : event.metadata = .null ∨ ∃ fields, event.metadata = .obj fields) :
    fromJson event.toJson = event := by
  have hstring : ∀ key s : Bytes, (key, Json.str s) ∈ event.jsonFields →
      stringOrEmpty event.toJson key = s := by
    intro key s h
    rw [stringOrEmpty, stringAt_toJson h, Option.getD_some]
  have hstate : (event.toJson.stringAt "state").bind agentStateFromString = some event.state := by
    rw [stringAt_toJson (s := event.state.toBytes) (by simp [jsonFields]), Option.bind_some,
      agentStateFromString_toBytes]
  have htime : event.toJson.field "timestamp_ms" = some (.uint event.timestampMs.toNat) :=
    field_toJson (by simp [jsonFields])
  have hdata : event.toJson.field "metadata" = some event.metadata :=
    field_toJson (by simp [jsonFields])
  unfold fromJson
  rw [hstate, htime, hdata, hstring "provider" event.provider (by simp [jsonFields]),
    hstring "session_id" event.sessionId (by simp [jsonFields]),
    hstring "project_path" event.projectPath (by simp [jsonFields]),
    hstring "terminal_id" event.terminalId (by simp [jsonFields]),
    hstring "title" event.title (by simp [jsonFields]),
    hstring "message" event.message (by simp [jsonFields])]
  -- the two type tests: the timestamp is written as an unsigned number, the metadata as they are
  rcases event with ⟨event, terminalId, timestampMs, metadata⟩
  rcases hmetadata with hnull | ⟨fields, hobject⟩
  · cases hnull
    simp
  · cases hobject
    simp

/-- An event whose text is not UTF-8 and whose timestamp is the largest one. -/
def loudEvent : FullAgentEvent where
  provider := "claude"
  sessionId := "s-1"
  projectPath := [0xff, 0x22]
  terminalId := "tty1"
  state := .waitingForInput
  title := "Claude Code"
  message := []
  timestampMs := 18446744073709551615
  metadata := .obj [("hook_event_name", .str "Notification")]

theorem event_fromJson_toJson_loud : fromJson loudEvent.toJson = loudEvent :=
  event_fromJson_toJson loudEvent (.inr ⟨_, rfl⟩)

end FullAgentEvent

end Agent

end Holonight
