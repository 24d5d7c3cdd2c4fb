import Holonight.Agent.SessionRegistry

/-!
# Notifications and their actions (`NotificationActionBindings.cpp`,
`NotificationBridge.cpp`)

The bindings remember, for each notification id the server has returned, which terminal
its Open action is for. Bindings expire after 24 hours and there are at most 256 of them.
`sendNotification` calls the server's `Notify` and binds the id in its reply, but only for a
session that has a descriptor.

The clock readings and the reply of the server are arguments. Which of several oldest
bindings is evicted depends on the order in which the hash map is visited.
-/

namespace Holonight

namespace Agent

/-! ## Bindings -/

/-- `NotificationActionBindings::Entry`. -/
structure Entry where
  descriptor : ActivationDescriptor
  createdAt : TimePoint
  deriving DecidableEq

/-- `entries_`. -/
abbrev NotificationActionBindings := UnorderedMap UInt32 Entry

namespace NotificationActionBindings

/-- `kCapacity`. -/
def capacity : ℕ := 256

/-- `kLifetime`: 24 hours. -/
def lifetime : ℤ := nanosPerDay

/-- `prune` (NotificationActionBindings.cpp:10–13). -/
def prune (bindings : NotificationActionBindings) (now : TimePoint) :
    NotificationActionBindings :=
  bindings.eraseIf fun _ entry => decide (entry.createdAt < now - lifetime)

/-- `std::ranges::min_element` by creation time: the first of the smallest. -/
def oldest : List (UInt32 × Entry) → Option (UInt32 × Entry)
  | [] => none
  | item :: rest =>
    match oldest rest with
    | none => some item
    | some other => if other.2.createdAt < item.2.createdAt then some other else some item

/-- The first lines of `replace` (NotificationActionBindings.cpp:17–20). -/
def dropOld (bindings : NotificationActionBindings) (pruneTime : TimePoint) (oldId : UInt32) :
    NotificationActionBindings :=
  if oldId ≠ 0 then (bindings.prune pruneTime).erase oldId else bindings.prune pruneTime

/-- Evict the oldest entry when a new id would exceed the capacity
(NotificationActionBindings.cpp:24–27). -/
def makeRoom (order : IterationOrder UInt32 Entry) (bindings : NotificationActionBindings)
    (newId : UInt32) : NotificationActionBindings :=
  if (bindings.find newId).isNone ∧ capacity ≤ bindings.size then
    match oldest (order.visit bindings.entries) with
    | none => bindings
    | some item => bindings.erase item.1
  else bindings

/-- `replace` (NotificationActionBindings.cpp:15–29); the clock is read for the prune and
again for the new entry. -/
def replace (order : IterationOrder UInt32 Entry) (bindings : NotificationActionBindings)
    (pruneTime insertTime : TimePoint) (oldId newId : UInt32)
    (descriptor : ActivationDescriptor) : NotificationActionBindings :=
  let dropped := bindings.dropOld pruneTime oldId
  -- the old binding is gone even when no new one is made
  if newId = 0 ∨ descriptor.valid = false then dropped
  else
    (dropped.makeRoom order newId).insertOrAssign newId
      { descriptor := descriptor, createdAt := insertTime }

/-- `consume` (NotificationActionBindings.cpp:31–40). -/
def consume (bindings : NotificationActionBindings) (now : TimePoint) (notificationId : UInt32) :
    NotificationActionBindings × Option ActivationDescriptor :=
  let pruned := bindings.prune now
  match pruned.find notificationId with
  | none => (pruned, none)
  | some entry => (pruned.erase notificationId, some entry.descriptor)

/-- `close` (NotificationActionBindings.cpp:42). -/
def close (bindings : NotificationActionBindings) (notificationId : UInt32) :
    NotificationActionBindings :=
  bindings.erase notificationId

/-! ### What is bound after an update -/

section Updates

variable {order : IterationOrder UInt32 Entry} {bindings : NotificationActionBindings}
  {id : UInt32} {entry : Entry}

theorem find_of_find_prune {now : TimePoint} (h : (bindings.prune now).find id = some entry) :
    bindings.find id = some entry :=
  (UnorderedMap.find_eraseIf.mp h).1

theorem find_of_find_dropOld {pruneTime : TimePoint} {oldId : UInt32}
    (h : (bindings.dropOld pruneTime oldId).find id = some entry) :
    bindings.find id = some entry := by
  unfold dropOld at h
  split at h
  · exact find_of_find_prune (UnorderedMap.find_of_find_erase h)
  · exact find_of_find_prune h

theorem find_of_find_makeRoom {newId : UInt32}
    (h : (bindings.makeRoom order newId).find id = some entry) :
    bindings.find id = some entry := by
  unfold makeRoom at h
  split at h
  · split at h
    · exact h
    · exact UnorderedMap.find_of_find_erase h
  · exact h

/-- After a replacement the new id has the new descriptor, and every other binding was
there before. -/
theorem find_replace {pruneTime insertTime : TimePoint} {oldId newId : UInt32}
    {descriptor : ActivationDescriptor}
    (h : (bindings.replace order pruneTime insertTime oldId newId descriptor).find id
      = some entry) :
    (id = newId ∧ newId ≠ 0 ∧ entry.descriptor = descriptor) ∨
      ((id ≠ newId ∨ newId = 0 ∨ descriptor.valid = false) ∧ bindings.find id = some entry) := by
  unfold replace at h
  simp only at h
  split at h
  · rename_i hearly
    exact Or.inr ⟨Or.inr hearly, find_of_find_dropOld h⟩
  · rename_i hlate
    by_cases hid : id = newId
    · subst hid
      rw [UnorderedMap.find_insertOrAssign_self] at h
      cases h
      exact Or.inl ⟨rfl, fun hzero => hlate (Or.inl hzero), rfl⟩
    · rw [UnorderedMap.find_insertOrAssign_of_ne hid] at h
      exact Or.inr ⟨Or.inl hid, find_of_find_dropOld (find_of_find_makeRoom h)⟩

/-- A consumed descriptor was bound, and its id no longer is; everything bound afterwards
was bound before. -/
theorem consume_spec (now : TimePoint) (notificationId : UInt32) :
    (∀ descriptor, (bindings.consume now notificationId).2 = some descriptor →
      ∃ entry, bindings.find notificationId = some entry ∧ entry.descriptor = descriptor) ∧
    (bindings.consume now notificationId).1.find notificationId = none ∧
    ∀ id entry, (bindings.consume now notificationId).1.find id = some entry →
      bindings.find id = some entry := by
  unfold consume
  simp only
  cases hfound : (bindings.prune now).find notificationId with
  | none =>
    refine ⟨fun _ h => ?_, hfound, fun _ _ h => find_of_find_prune h⟩
    cases h
  | some entry =>
    refine ⟨fun _ h => ?_, UnorderedMap.find_erase_self, fun _ _ h => ?_⟩
    · cases h
      exact ⟨entry, find_of_find_prune hfound, rfl⟩
    · exact find_of_find_prune (UnorderedMap.find_of_find_erase h)

end Updates

end NotificationActionBindings

/-! ## The text of a notification -/

namespace NotificationBridge

/-- `formatProviderName` (NotificationBridge.cpp:23–43). -/
def formatProviderName (provider : Bytes) : Bytes :=
  if provider = "kiro" then "Kiro CLI"
  else if provider = "claude" then "Claude Code"
  else if provider = "codex" then "Codex"
  else if provider = "antigravity" then "Antigravity"
  else
    match provider with
    | [] => "Agent"
    | b :: rest => (if 97 ≤ b ∧ b ≤ 122 then b - 32 else b) :: rest

/-- The loop of `truncateMessage`: white space becomes single spaces, none at the start,
and the loop ends once `maxLen` bytes have been kept. -/
def cleanMessage (maxLen : ℕ) : Bytes → Bool → Bytes → Bytes
  | cleaned, _, [] => cleaned
  | cleaned, lastWasSpace, b :: rest =>
    let isSpace := decide (b = 32 ∨ b = 10 ∨ b = 13 ∨ b = 9)
    let next :=
      if isSpace then
        if !lastWasSpace && !cleaned.isEmpty then (cleaned ++ [32], true)
        else (cleaned, lastWasSpace)
      else (cleaned ++ [b], false)
    if maxLen ≤ next.1.length then next.1 else cleanMessage maxLen next.1 next.2 rest

/-- `truncateMessage` (NotificationBridge.cpp:78–111). -/
def truncateMessage (message : Bytes) (maxLen : ℕ) : Bytes :=
  if message = [] then []
  else
    let cleaned := cleanMessage maxLen [] false message
    if maxLen < message.length ∨ maxLen ≤ cleaned.length then
      (if maxLen - 3 < cleaned.length then cleaned.take (maxLen - 3) else cleaned) ++ "..."
    else cleaned

/-- The arguments of the `Notify` call that depend on the session and the event; the icon,
the actions and the timeout are left out. -/
structure NotifyCall where
  appName : Bytes
  replacesId : UInt32
  summary : Bytes
  body : Bytes

/-- The call for an event of a session (NotificationBridge.cpp:205–221). -/
def notifyCall (session : AgentSession) (event : AgentEvent) (replacesId : UInt32) :
    NotifyCall where
  appName := List.flatten ["HoloNight Agent (", formatProviderName session.provider, ")"]
  replacesId := replacesId
  summary := List.flatten
    [ formatProviderName session.provider, " · ",
      if session.projectName = [] then "Global" else session.projectName, " — ",
      if event.title = [] then event.state.toBytes else event.title ]
  body := if event.message = [] then event.state.toBytes else truncateMessage event.message 200

/-! ## The bridge -/

/-- The clock readings of one `replace`. -/
structure ReplaceTimes where
  pruneTime : TimePoint
  insertTime : TimePoint

/-- `sendNotification` (NotificationBridge.cpp:182–266) after its call: `reply` is the id the
server returned, `none` when the call or the reading of its reply failed. It returns the
new bindings and the id the caller records for the session. -/
def sendNotification (order : IterationOrder UInt32 Entry) (bindings : NotificationActionBindings)
    (session : AgentSession) (replacesId : UInt32) (reply : Option UInt32) (times : ReplaceTimes) :
    NotificationActionBindings × UInt32 :=
  match reply with
  | none => (bindings, replacesId)
  | some assigned =>
    match session.activation with
    -- a binding that the id may have from an earlier notification stays
    | none => (bindings, assigned)
    | some descriptor =>
      if assigned ≠ 0 then
        (bindings.replace order times.pruneTime times.insertTime replacesId assigned descriptor,
          assigned)
      else (bindings, assigned)

/-- `handleAction` (NotificationBridge.cpp:143–151): the descriptor that is passed to
`ActivationClient::activate`, if it is called. -/
def handleAction (bindings : NotificationActionBindings) (now : TimePoint)
    (notificationId : UInt32) (actionKey : Bytes) :
    NotificationActionBindings × Option ActivationDescriptor :=
  if actionKey ≠ Bytes.ofString "open" then (bindings, none)
  else bindings.consume now notificationId

/-- `handleClosed` (NotificationBridge.cpp:153). -/
def handleClosed (bindings : NotificationActionBindings) (notificationId : UInt32) :
    NotificationActionBindings :=
  bindings.close notificationId

end NotificationBridge

end Agent

end Holonight
