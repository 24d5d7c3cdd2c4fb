import Holonight.Agent.ProviderNormalizer
import Holonight.Base.JsonObjects

/-!
# What is read from a payload (`ProviderNormalizer.cpp`)

Two questions about the texts that the hooks send.

- Which name a Claude payload gives to its event. Three keys are tried, and the first one with
  a non-empty string decides, also when the normalizer does not know that string. So **a name
  that the normalizer recognises is seen exactly when it stands under the first key with a
  non-empty string** (`claude_prompt_seen_iff`).
- What becomes of a text that is not an object. The message is the text only where
  `json::parse` throws, so **plain text is forwarded exactly when it is not JSON**
  (`normalize_forwards_text_iff`): a number or a quoted string on its own gives an event
  without a message.
-/

namespace Holonight

namespace Agent

open Json

/-! ## The name of a Claude event -/

/-- The keys under which a Claude payload names its event, in the order they are tried. -/
def claudeKeys : List Bytes := [ "hook_event_name", "notification_type", "event" ]

/-- The state of a name that the Claude normalizer recognises. -/
def claudeState (name : Bytes) : Option AgentState :=
  if name ∈ ([ "permission_prompt", "PermissionPrompt" ] : List Bytes) then
    some .waitingForApproval
  else if name ∈ ([ "idle_prompt", "IdlePrompt" ] : List Bytes) then some .waitingForInput
  else if name ∈ ([ "completed", "stop", "AgentTurnComplete" ] : List Bytes) then some .completed
  else none

/-- The name that is left when the keys have been tried from `name` on. -/
def nameFrom (parsed : Json) (name : Bytes) (keys : List Bytes) : Bytes :=
  keys.foldl (fun name key => extractIfEmpty parsed key name) name

/-- The name stands under one of the keys, and every key before it has no string but the
empty one. -/
def StandsFirst (parsed : Json) (keys : List Bytes) (name : Bytes) : Prop :=
  ∃ before key after, keys = before ++ key :: after ∧ parsed.stringAt key = some name ∧
    ∀ k ∈ before, ∀ other, parsed.stringAt k = some other → other = []

/-- The name stands under one of the keys, and no key before it has another name that is
recognised. -/
def Announces (parsed : Json) (keys : List Bytes) (name : Bytes) : Prop :=
  ∃ before key after, keys = before ++ key :: after ∧ parsed.stringAt key = some name ∧
    ∀ k ∈ before, ∀ other, parsed.stringAt k = some other → (claudeState other).isSome →
      other = name

section Names

variable {parsed : Json} {keys : List Bytes} {name : Bytes}

theorem extractJsonStringField_eq (key target : Bytes) :
    extractJsonStringField parsed key target = (parsed.stringAt key).getD target := by
  unfold extractJsonStringField stringAt
  cases hfield : parsed.field key with
  | none => rfl
  | some value => cases value <;> rfl

/-- Once there is a name, the other keys are not tried. -/
theorem nameFrom_of_ne_nil (h : name ≠ []) : nameFrom parsed name keys = name := by
  induction keys with
  | nil => rfl
  | cons key keys ih =>
    show nameFrom parsed (extractIfEmpty parsed key name) keys = name
    rw [extractIfEmpty, if_neg h]
    exact ih

theorem standsFirst_cons {key : Bytes} :
    StandsFirst parsed (key :: keys) name
      ↔ parsed.stringAt key = some name ∨
        ((parsed.stringAt key).getD [] = [] ∧ StandsFirst parsed keys name) := by
  constructor
  · rintro ⟨before, found, after, hkeys, hfound, hbefore⟩
    cases before with
    | nil =>
      cases hkeys
      exact Or.inl hfound
    | cons first before =>
      cases hkeys
      refine Or.inr ⟨?_, before, found, after, rfl, hfound,
        fun k hk => hbefore k (List.mem_cons_of_mem _ hk)⟩
      cases hfirst : parsed.stringAt key with
      | none => rfl
      | some other => exact hbefore key List.mem_cons_self other hfirst
  · rintro (hfound | ⟨hempty, before, found, after, rfl, hfound, hbefore⟩)
    · exact ⟨[], key, keys, rfl, hfound, fun k hk => absurd hk List.not_mem_nil⟩
    · refine ⟨key :: before, found, after, rfl, hfound, ?_⟩
      rintro k hk other hother
      rcases List.mem_cons.mp hk with rfl | hk
      · rwa [hother] at hempty
      · exact hbefore k hk other hother

/-- The name that is read is the one under the first key with a non-empty string. -/
theorem nameFrom_nil_eq_iff (h : name ≠ []) :
    nameFrom parsed [] keys = name ↔ StandsFirst parsed keys name := by
  induction keys with
  | nil =>
    refine iff_of_false (fun heq => h heq.symm) ?_
    rintro ⟨before, key, after, hkeys, -⟩
    exact absurd hkeys.symm (List.append_ne_nil_of_right_ne_nil _ (List.cons_ne_nil _ _))
  | cons key keys ih =>
    rw [standsFirst_cons]
    have hstep : nameFrom parsed [] (key :: keys)
        = nameFrom parsed ((parsed.stringAt key).getD []) keys := by
      show nameFrom parsed (extractIfEmpty parsed key []) keys = _
      rw [extractIfEmpty, if_pos rfl, extractJsonStringField_eq]
    rw [hstep]
    cases hread : parsed.stringAt key with
    | none =>
      rw [Option.getD_none, ih]
      simp
    | some other =>
      by_cases hother : other = []
      · subst hother
        rw [Option.getD_some, ih]
        simp [Ne.symm h]
      · rw [Option.getD_some, nameFrom_of_ne_nil hother]
        simp [hother]

theorem claudeState_ne_nil {state : AgentState} (h : claudeState name = some state) :
    name ≠ [] := by
  have hnil : claudeState [] = none := by decide
  rintro rfl
  rw [hnil] at h
  cases h

/-- No recognised name stands for `Working`. -/
theorem claudeState_ne_working : claudeState name ≠ some .working := by
  unfold claudeState
  split_ifs <;> simp

/-- The state that `claudeFields` sets. -/
theorem claudeFields_state (event : AgentEvent) :
    (claudeFields parsed event).state
      = (claudeState (nameFrom parsed [] claudeKeys)).getD event.state := by
  have hname : nameFrom parsed [] claudeKeys
      = extractIfEmpty parsed "event" (extractIfEmpty parsed "notification_type"
          (extractJsonStringField parsed "hook_event_name" [])) := by
    show extractIfEmpty parsed "event" (extractIfEmpty parsed "notification_type"
      (extractIfEmpty parsed "hook_event_name" [])) = _
    rw [extractIfEmpty.eq_def parsed "hook_event_name" [], if_pos rfl]
  rw [hname]
  unfold claudeFields claudeState
  simp only
  split_ifs <;> rfl

/-- A name that is announced and one that stands first are the same, when both are
recognised. -/
theorem eq_of_announces_of_standsFirst {first : Bytes} (hname : (claudeState name).isSome)
    (hfirst : (claudeState first).isSome) (hannounces : Announces parsed keys name)
    (hstands : StandsFirst parsed keys first) : first = name := by
  obtain ⟨before, key, after, hkeys, hkey, hbefore⟩ := hannounces
  obtain ⟨before', key', after', hkeys', hkey', hbefore'⟩ := hstands
  obtain ⟨state, hstate⟩ := Option.isSome_iff_exists.mp hname
  rw [hkeys] at hkeys'
  rcases List.append_eq_append_iff.mp hkeys' with ⟨middle, hmiddle, hrest⟩ | ⟨middle, hmiddle, hrest⟩
  · cases middle with
    | nil =>
      cases hrest
      exact Option.some.inj (hkey'.symm.trans hkey)
    | cons k middle =>
      -- the announced name would be an empty string before the first
      cases hrest
      have hempty := hbefore' key (hmiddle ▸ List.mem_append_right _ List.mem_cons_self) name hkey
      exact absurd hempty (claudeState_ne_nil hstate)
  · cases middle with
    | nil =>
      cases hrest
      exact Option.some.inj (hkey'.symm.trans hkey)
    | cons k middle =>
      cases hrest
      exact hbefore key' (hmiddle ▸ List.mem_append_right _ List.mem_cons_self) first hkey' hfirst

/-- A name that stands first is announced. -/
theorem StandsFirst.announces (h : StandsFirst parsed keys name) :
    Announces parsed keys name := by
  obtain ⟨before, key, after, hkeys, hkey, hbefore⟩ := h
  refine ⟨before, key, after, hkeys, hkey, ?_⟩
  intro k hk other hother hrecognised
  rw [hbefore k hk other hother] at hrecognised
  exact absurd hrecognised (by decide)

end Names

section Payloads

variable {lib : CppLib}

/-- The state of the event of a Claude payload. -/
theorem claudeNormalize_state {J : JsonLibrary lib} {raw : Bytes} {parsed : Json}
    (hparse : J.parse raw = .ok parsed) (defaultSessionId : Bytes) :
    (claudeNormalize J raw defaultSessionId).state
      = (claudeState (nameFrom parsed [] claudeKeys)).getD .working := by
  unfold claudeNormalize normalizeWith
  rw [hparse]
  exact claudeFields_state _

/-- **A Claude prompt is seen exactly when it stands first**: of a payload that announces a
recognised name, the event has the state of that name if and only if the name stands under the
first of the three keys with a non-empty string. -/
theorem claude_prompt_seen_iff (J : JsonLibrary lib) (raw defaultSessionId : Bytes)
    (fields : List (Bytes × Json)) (hparse : J.parse raw = .ok (.obj fields)) (name : Bytes)
    (state : AgentState) (hstate : claudeState name = some state)
    (hannounces : Announces (.obj fields) claudeKeys name) :
    (claudeNormalize J raw defaultSessionId).state = state ↔
      StandsFirst (.obj fields) claudeKeys name := by
  rw [claudeNormalize_state hparse, ← nameFrom_nil_eq_iff (claudeState_ne_nil hstate)]
  constructor
  · intro hgot
    cases hfirst : claudeState (nameFrom (.obj fields) [] claudeKeys) with
    | none =>
      rw [hfirst, Option.getD_none] at hgot
      rw [← hgot] at hstate
      exact absurd hstate claudeState_ne_working
    | some other =>
      have hstands := (nameFrom_nil_eq_iff (claudeState_ne_nil hfirst)).mp rfl
      exact eq_of_announces_of_standsFirst (by rw [hstate]; rfl) (by rw [hfirst]; rfl) hannounces
        hstands
  · intro hname
    rw [hname, hstate, Option.getD_some]

/-- The payload of the documentation, which names the event under the second key only. -/
theorem claude_prompt_seen_documented :
    (claudeNormalize JsonLibrary.integral
        "\x7b\"notification_type\":\"permission_prompt\"\x7d" "default").state
      = .waitingForApproval := by
  let payload : Json := .ofValues [("notification_type", some (.str "permission_prompt"))]
  have hparse : JsonLibrary.integral.parse "\x7b\"notification_type\":\"permission_prompt\"\x7d"
      = .ok payload :=
    parse_of_returns JsonLibrary.integral
      (returns_ofValues_str (by decide +kernel) (by decide +kernel)) (by decide +kernel)
  have hfirst : StandsFirst payload claudeKeys "permission_prompt" := by
    refine ⟨["hook_event_name"], "notification_type", ["event"], rfl, by decide +kernel, ?_⟩
    intro k hk other hother
    rw [List.mem_singleton.mp hk, show payload.stringAt "hook_event_name" = none by
      decide +kernel] at hother
    cases hother
  exact (claude_prompt_seen_iff JsonLibrary.integral _ _ _ hparse "permission_prompt" _ (by decide)
    hfirst.announces).mpr hfirst

/-- The text that a `Notification` hook sends: the name of the hook stands under the first key,
what it is about under the second. -/
def notificationText : Bytes :=
  "\x7b\"hook_event_name\":\"Notification\",\"notification_type\":\"permission_prompt\"\x7d"

/-- The prompt is announced, and it is missed. -/
theorem claude_prompt_missed :
    ∃ fields, JsonLibrary.integral.parse notificationText = .ok (.obj fields) ∧
      claudeState "permission_prompt" = some .waitingForApproval ∧
      Announces (.obj fields) claudeKeys "permission_prompt" ∧
      (claudeNormalize JsonLibrary.integral notificationText "default").state
        ≠ .waitingForApproval := by
  let payload : Json := .ofValues
    [("hook_event_name", some (.str "Notification")),
     ("notification_type", some (.str "permission_prompt"))]
  have hparse : JsonLibrary.integral.parse notificationText = .ok payload := by
    refine parse_of_returns JsonLibrary.integral (returns_ofValues (by decide +kernel) ?_)
      (by decide +kernel)
    simp only [List.forall_mem_cons]
    refine ⟨?_, ?_, fun _ h => absurd h List.not_mem_nil⟩
    all_goals
      rintro value ⟨⟩
      exact returns_str (by decide +kernel)
  have hannounces : Announces payload claudeKeys "permission_prompt" := by
    refine ⟨["hook_event_name"], "notification_type", ["event"], rfl, by decide +kernel, ?_⟩
    intro k hk other hother hrecognised
    rw [List.mem_singleton.mp hk, show payload.stringAt "hook_event_name" = some "Notification" by
      decide +kernel] at hother
    rw [← Option.some.inj hother] at hrecognised
    exact absurd hrecognised (by decide)
  refine ⟨_, hparse, by decide, hannounces, ?_⟩
  rw [claudeNormalize_state hparse]
  decide +kernel

/-! ## Texts that are not objects -/

/-- The text is no JSON object, and its event is the text as it is: a working session, the default
id and the text as the message. Of an object, the session and the path it names are in the
event. -/
structure ForwardsText (J : JsonLibrary lib) (provider raw defaultSessionId : Bytes) : Prop where
  text : (∀ fields, J.parse raw ≠ .ok (.obj fields)) →
    (normalize J provider raw defaultSessionId).state = .working ∧
    (normalize J provider raw defaultSessionId).sessionId = defaultSessionId ∧
    (normalize J provider raw defaultSessionId).message = raw
  sessionId : ∀ fields id, J.parse raw = .ok (.obj fields) →
    (Json.obj fields).field "session_id" = some (.str id) →
    (normalize J provider raw defaultSessionId).sessionId = id
  projectPath : ∀ fields path, J.parse raw = .ok (.obj fields) →
    (Json.obj fields).field "cwd" = some (.str path) →
    (normalize J provider raw defaultSessionId).projectPath = path

/-- What the fields of a provider do to an event: they leave its session and path, and of a value
without fields they take nothing. -/
structure ReadsFields (interpret : Json → AgentEvent → AgentEvent) : Prop where
  keepsSender : KeepsSender interpret
  projectPath : ∀ parsed event, (interpret parsed event).projectPath = event.projectPath
  nothing : ∀ parsed event, (∀ key, parsed.field key = none) →
    (interpret parsed event).state = event.state ∧ (interpret parsed event).message = event.message

theorem extractJsonStringField_of_none {parsed : Json} (h : ∀ key, parsed.field key = none)
    (key target : Bytes) : extractJsonStringField parsed key target = target := by
  rw [extractJsonStringField, h]

theorem extractIfEmpty_of_none {parsed : Json} (h : ∀ key, parsed.field key = none)
    (key target : Bytes) : extractIfEmpty parsed key target = target := by
  rw [extractIfEmpty, extractJsonStringField_of_none h, ite_self]

theorem readsFields_claude : ReadsFields claudeFields where
  keepsSender := claudeFields_keepsSender
  projectPath parsed event := by
    unfold claudeFields
    simp only
    split_ifs <;> rfl
  nothing parsed event h := by
    have hmessage : (claudeFields parsed event).message = event.message := by
      unfold claudeFields
      simp only [extractJsonStringField_of_none h, extractIfEmpty_of_none h]
      split_ifs <;> rfl
    have hname : nameFrom parsed [] claudeKeys = [] := by
      simp only [nameFrom, extractIfEmpty_of_none h, List.foldl_fixed]
    rw [claudeFields_state, hname]
    exact ⟨rfl, hmessage⟩

theorem readsFields_codex : ReadsFields codexFields where
  keepsSender := codexFields_keepsSender
  projectPath parsed event := by
    unfold codexFields
    simp only
    split
    · split_ifs <;> rfl
    · rfl
  nothing parsed event h := by
    unfold codexFields
    simp only [h, extractJsonStringField_of_none h, and_self]

theorem readsFields_kiro : ReadsFields kiroFields where
  keepsSender := kiroFields_keepsSender
  projectPath parsed event := by
    unfold kiroFields
    simp only
    split_ifs <;> rfl
  nothing parsed event h := by
    unfold kiroFields
    simp only [extractJsonStringField_of_none h, extractIfEmpty_of_none h]
    exact ⟨rfl, trivial⟩

theorem readsFields_antigravity : ReadsFields antigravityFields where
  keepsSender := antigravityFields_keepsSender
  projectPath _ _ := rfl
  nothing parsed event h := by
    unfold antigravityFields
    simp only [h, extractJsonStringField_of_none h, and_self]

/-- Every provider has one of the normalizers. -/
theorem exists_normalizeWith (J : JsonLibrary lib) (provider : Bytes) :
    ∃ name errorTitle interpret, ReadsFields interpret ∧
      normalize J provider = normalizeWith J name errorTitle interpret := by
  unfold normalize
  split_ifs
  · exact ⟨_, _, _, readsFields_claude, rfl⟩
  · exact ⟨_, _, _, readsFields_codex, rfl⟩
  · exact ⟨_, _, _, readsFields_kiro, rfl⟩
  · exact ⟨_, _, _, readsFields_antigravity, rfl⟩
  · exact ⟨_, _, _, readsFields_antigravity, rfl⟩

/-- **Plain text is forwarded exactly when it is not JSON**: for every provider, the event is the
text as it is, or has the session and the path of an object, if and only if the text does not
parse to a value without fields. -/
theorem normalize_forwards_text_iff (J : JsonLibrary lib) (hempty : ∀ j, J.parse [] ≠ .ok j)
    (provider raw defaultSessionId : Bytes) :
    ForwardsText J provider raw defaultSessionId ↔
      ∀ j, J.parse raw = .ok j → ∃ fields, j = .obj fields := by
  obtain ⟨name, errorTitle, interpret, hreads, hnormalize⟩ := exists_normalizeWith J provider
  have hparsed : ∀ j, J.parse raw = .ok j → normalize J provider raw defaultSessionId
      = interpret j
          { provider := name
            sessionId := extractJsonStringField j "session_id" defaultSessionId
            projectPath := extractJsonStringField j "cwd" [] } := by
    intro j hj
    rw [hnormalize, normalizeWith, hj]
  constructor
  · intro hforwards j hj
    by_contra hobject
    -- a value without fields leaves the message empty, and an empty text does not parse
    have hfield : ∀ key, j.field key = none := by
      intro key
      cases j with
      | obj fields => exact absurd ⟨fields, rfl⟩ hobject
      | _ => rfl
    obtain ⟨-, -, hmessage⟩ := hforwards.text fun fields hfields =>
      hobject ⟨fields, Except.ok.inj (hj.symm.trans hfields)⟩
    rw [hparsed j hj, (hreads.nothing j _ hfield).2] at hmessage
    have hnil : raw = [] := hmessage.symm
    exact hempty j (hnil ▸ hj)
  · intro hobject
    refine ⟨?_, ?_, ?_⟩
    · intro htext
      cases hraw : J.parse raw with
      | ok j =>
        obtain ⟨fields, rfl⟩ := hobject j hraw
        exact absurd hraw (htext fields)
      | error what =>
        rw [hnormalize, normalizeWith, hraw]
        exact ⟨rfl, rfl, rfl⟩
    · intro fields id hfields hid
      rw [hparsed _ hfields, (hreads.keepsSender _ _).2]
      show extractJsonStringField (.obj fields) "session_id" defaultSessionId = id
      rw [extractJsonStringField, hid]
    · intro fields path hfields hpath
      rw [hparsed _ hfields, hreads.projectPath]
      show extractJsonStringField (.obj fields) "cwd" [] = path
      rw [extractJsonStringField, hpath]

/-- A text that the parser rejects. -/
theorem parse_ne_ok {raw : Bytes} (h : (JsonLibrary.integral.parse raw).toOption.isSome = false)
    (j : Json) : JsonLibrary.integral.parse raw ≠ .ok j := by
  intro hj
  rw [hj] at h
  cases h

/-- A sentence is forwarded. -/
theorem normalize_forwards_sentence :
    (normalize JsonLibrary.integral "claude" "Plain text" "default").message
      = Bytes.ofString "Plain text" := by
  have hparse := @parse_ne_ok "Plain text" (by decide +kernel)
  have hforwards := (normalize_forwards_text_iff JsonLibrary.integral
    (parse_ne_ok (by decide +kernel)) "claude" "Plain text" "default").mpr
    fun j hj => absurd hj (hparse j)
  exact (hforwards.text fun fields => hparse _).2.2

/-- A number on its own is lost. -/
theorem normalize_loses_number :
    ¬ ForwardsText JsonLibrary.integral "claude" "42" "default" := by
  intro hforwards
  have hparse : JsonLibrary.integral.parse "42" = .ok (.uint 42) :=
    parse_of_returns JsonLibrary.integral ⟨⟨show 42 < 2 ^ 64 by decide, rfl⟩, rfl⟩ (by decide +kernel)
  have hmessage := (hforwards.text fun fields hfields => by
    cases hparse.symm.trans hfields).2.2
  have hempty : (normalize JsonLibrary.integral "claude" "42" "default").message = [] := by
    show (normalizeWith JsonLibrary.integral "claude" "Claude Code Notification" claudeFields "42"
      "default").message = []
    rw [normalizeWith, hparse]
    decide +kernel
  rw [hempty] at hmessage
  exact absurd hmessage (by decide)

end Payloads

end Agent

end Holonight
