import Holonight.Agent.Agentd

/-!
# The session signals and the registry

The bus interface of `holonight-agentd` has no method that lists the sessions, so a client
can only follow `SessionAdded` and `SessionRemoved`. `observed` is what such a client
holds. A session enters the registry on two paths and leaves it on two: a registration and
an `EndSession` are announced, the first event of an unknown session and the prune are not.
So the client and the registry agree after every step of a run if and only if no step of
it takes one of the silent paths (`session_signals_mirror_iff`).
-/

namespace Holonight

namespace Agent

/-! ## The ids of the registry -/

namespace SessionRegistry

/-- The ids of the sessions. -/
def ids (registry : SessionRegistry) : Finset Bytes :=
  (registry.entries.map Prod.fst).toFinset

variable {registry : SessionRegistry} {id other : Bytes}

theorem mem_ids_iff : id ∈ registry.ids ↔ ∃ session, registry.find id = some session := by
  unfold ids
  rw [List.mem_toFinset, List.mem_map]
  constructor
  · rintro ⟨⟨key, session⟩, hmem, rfl⟩
    exact ⟨session, UnorderedMap.find_eq_some_iff.mpr hmem⟩
  · rintro ⟨session, hfound⟩
    exact ⟨(id, session), UnorderedMap.find_eq_some_iff.mp hfound, rfl⟩

theorem ids_insertOrAssign (session : AgentSession) :
    ids (registry.insertOrAssign id session) = insert id registry.ids := by
  ext other
  rw [Finset.mem_insert, mem_ids_iff, mem_ids_iff]
  by_cases hid : other = id
  · subst hid
    simp
  · rw [UnorderedMap.find_insertOrAssign_of_ne hid]
    simp [hid]

theorem ids_erase : ids (registry.erase id) = registry.ids.erase id := by
  ext other
  rw [Finset.mem_erase, mem_ids_iff, mem_ids_iff]
  by_cases hid : other = id
  · subst hid
    simp [UnorderedMap.find_erase_self]
  · rw [UnorderedMap.find_erase_of_ne hid]
    simp [hid]

/-- A removal by a predicate keeps all ids exactly when no session satisfies it. -/
theorem ids_eraseIf_eq_iff {p : Bytes → AgentSession → Bool} :
    ids (registry.eraseIf p) = registry.ids
      ↔ ∀ id session, registry.find id = some session → p id session = false := by
  constructor
  · intro heq id session hfound
    have hmem : id ∈ ids (registry.eraseIf p) := heq ▸ mem_ids_iff.mpr ⟨session, hfound⟩
    obtain ⟨kept, hkept⟩ := mem_ids_iff.mp hmem
    obtain ⟨hsame, hp⟩ := UnorderedMap.find_eraseIf.mp hkept
    rw [hfound] at hsame
    cases hsame
    exact hp
  · intro hall
    ext id
    rw [mem_ids_iff, mem_ids_iff]
    constructor
    · rintro ⟨session, hkept⟩
      exact ⟨session, (UnorderedMap.find_eraseIf.mp hkept).1⟩
    · rintro ⟨session, hfound⟩
      exact ⟨session, UnorderedMap.find_eraseIf.mpr ⟨hfound, hall id session hfound⟩⟩

/-- Recording a notification id adds and removes no session. -/
theorem ids_updateNotificationId (notifId : UInt32) :
    ids (registry.updateNotificationId id notifId) = registry.ids := by
  unfold updateNotificationId
  cases hfound : registry.find id with
  | none => rfl
  | some session =>
    show ids (registry.insertOrAssign id _) = _
    rw [ids_insertOrAssign, Finset.insert_eq_self]
    exact mem_ids_iff.mpr ⟨session, hfound⟩

end SessionRegistry

/-! ## The client -/

/-- What a client that follows the signals does with one of them. -/
def observe (ids : Finset Bytes) : Output → Finset Bytes
  | .sessionAdded sessionId _ _ => insert sessionId ids
  | .sessionRemoved sessionId _ => ids.erase sessionId
  | _ => ids

/-- The ids the client holds after the signals. -/
def observed (log : List Output) : Finset Bytes := log.foldl observe ∅

/-- The client holds exactly the ids of the registry. -/
def Mirrors (log : List Output) (ctx : AppContext) : Prop := observed log = ctx.registry.ids

/-- The step takes no silent path: an event is of a session that is there, and a prune
removes nothing. -/
def Announced (ctx : AppContext) : Input → Prop
  | .publishEvent arguments _ _ _ => arguments.sessionId ∈ ctx.registry.ids
  | .pruneStaleSessions now =>
    ∀ id session, ctx.registry.find id = some session →
      now - session.lastUpdateTime ≤ nanosPerDay
  | _ => True

theorem observed_append (log outputs : List Output) :
    observed (log ++ outputs) = outputs.foldl observe (observed log) :=
  List.foldl_append

section Steps

variable {env : Environment} {log : List Output} {ctx : AppContext}

/-- An event is followed by signals that add and remove nothing, but its session is in
the registry afterwards. -/
theorem mirrors_publish_iff (h : Mirrors log ctx) (arguments : PublishArguments)
    (now : TimePoint) (reply : Option UInt32) (times : NotificationBridge.ReplaceTimes) :
    Mirrors (log ++ (methodPublishEvent env ctx arguments now reply times).2)
        (methodPublishEvent env ctx arguments now reply times).1
      ↔ arguments.sessionId ∈ ctx.registry.ids := by
  have hlog : observed (log ++ (methodPublishEvent env ctx arguments now reply times).2)
      = observed log := by
    rw [observed_append]
    unfold methodPublishEvent
    simp only [List.cons_append, List.nil_append, List.foldl_cons, observe]
    split <;> rfl
  have hids : (methodPublishEvent env ctx arguments now reply times).1.registry.ids
      = insert arguments.sessionId ctx.registry.ids := by
    show SessionRegistry.ids (SessionRegistry.updateNotificationId _ _ _) = _
    rw [SessionRegistry.ids_updateNotificationId]
    exact SessionRegistry.ids_insertOrAssign _
  unfold Mirrors
  rw [hlog, hids, h, eq_comm, Finset.insert_eq_self]

/-- A step keeps the agreement exactly when it takes no silent path. -/
theorem mirrors_step_iff (h : Mirrors log ctx) (input : Input) :
    Mirrors (log ++ ((agentd env).step ctx input).2) ((agentd env).step ctx input).1
      ↔ Announced ctx input := by
  show Mirrors (log ++ (handle env ctx input).2) (handle env ctx input).1 ↔ _
  cases input with
  | registerSession provider sessionId pid cwd metadata lineage now =>
    refine iff_of_true ?_ trivial
    show observed (log ++ [_]) = SessionRegistry.ids (UnorderedMap.insertOrAssign _ _ _)
    rw [observed_append, SessionRegistry.ids_insertOrAssign, ← h]
    rfl
  | publishEvent arguments now reply times =>
    exact mirrors_publish_iff h arguments now reply times
  | endSession sessionId result =>
    -- the signal of a session that is not there removes nothing on either side
    refine iff_of_true ?_ trivial
    show observed (log ++ [_]) = SessionRegistry.ids (UnorderedMap.erase _ _)
    rw [observed_append, SessionRegistry.ids_erase, ← h]
    rfl
  | activateSession sessionId =>
    refine iff_of_true ?_ trivial
    show observed (log ++ Option.toList _) = ctx.registry.ids
    rw [observed_append, ← h]
    cases activateSession ctx.registry sessionId <;> rfl
  | pruneStaleSessions now =>
    show observed (log ++ []) = SessionRegistry.ids (UnorderedMap.eraseIf _ _) ↔ _
    rw [List.append_nil, h, eq_comm, SessionRegistry.ids_eraseIf_eq_iff]
    simp only [decide_eq_false_iff_not, not_lt]
    rfl
  | actionInvoked notificationId actionKey now =>
    refine iff_of_true ?_ trivial
    show observed (log ++ Option.toList _) = ctx.registry.ids
    rw [observed_append, ← h]
    cases (NotificationBridge.handleAction ctx.bindings now notificationId actionKey).2 <;> rfl
  | notificationClosed notificationId =>
    refine iff_of_true ?_ trivial
    show observed (log ++ []) = ctx.registry.ids
    rw [List.append_nil, h]

end Steps

/-! ## Whole runs -/

/-- **The session signals mirror the registry** after every step of a run if and only if
every event of the run is of a session that is in the registry and no prune removes a
session. -/
theorem session_signals_mirror_iff (env : Environment) (inputs : List Input) :
    (∀ taken, taken <+: inputs →
        Mirrors ((agentd env).run AppContext.initial taken).2
          ((agentd env).run AppContext.initial taken).1)
      ↔ (agentd env).AllSteps Announced AppContext.initial inputs := by
  have hinit : Mirrors [] AppContext.initial := rfl
  have hstep : ∀ log ctx input, Mirrors log ctx →
      (Mirrors (log ++ ((agentd env).step ctx input).2) ((agentd env).step ctx input).1
        ↔ Announced ctx input) :=
    fun _ _ input h => mirrors_step_iff h input
  exact (agentd env).forall_prefix_iff hstep hinit

/-- The first event of an unknown session puts it into the registry, and no client hears
of it. -/
theorem first_event_not_announced :
    ¬ ∀ inputs taken : List Input, taken <+: inputs →
      Mirrors ((agentd {}).run AppContext.initial taken).2
        ((agentd {}).run AppContext.initial taken).1 := by
  intro hall
  have hmirrors := hall [approvalOf "b" 3000] _ (List.prefix_refl _)
  have hids : (Bytes.ofString "b") ∈ observed
      ((agentd {}).run AppContext.initial [approvalOf "b" 3000]).2 := by
    rw [hmirrors]
    decide
  exact absurd hids (by decide)

end Agent

end Holonight
