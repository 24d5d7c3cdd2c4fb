import Holonight.Agent.NotificationBridge
import Holonight.Base.Machine

/-!
# The history of the notification bindings

`NotificationActionBindings` forgets a binding for five reasons: it was consumed, closed,
replaced, it expired, or it was evicted. Here the table is driven by any sequence of its four
operations, and what it holds is read off the history of the calls:

- `Bound history id entry`: the latest `replace` that bound `id` made `entry`, and nothing
  since took it away;
- `HistoryInv`: the table holds exactly what is bound and not older than the last prune
  allows. One lemma per operation keeps it, and `run_historyInv` carries it through a run.

The main result, `bindings_refine_history`, says what `consume` returns after any run, how
large the table is and what an eviction removes.
-/

namespace Holonight

namespace Agent

namespace NotificationActionBindings

/-! ## Calls -/

/-- A call with the clock readings it makes. The order is the one in which the hash map is
visited during the call. -/
inductive Call where
  | replace (order : IterationOrder UInt32 Entry) (pruneTime insertTime : TimePoint)
      (oldId newId : UInt32) (descriptor : ActivationDescriptor)
  | consume (now : TimePoint) (notificationId : UInt32)
  | close (notificationId : UInt32)
  | prune (now : TimePoint)

/-- A call only brings valid descriptors. -/
def Call.Valid : Call → Prop
  | .replace _ _ _ _ _ descriptor => descriptor.valid = true
  | _ => True

/-- The clock never goes back: every reading is at least the one before, from `start` on. -/
def Chronological : TimePoint → List Call → Prop
  | _, [] => True
  | start, .replace _ pruneTime insertTime _ _ _ :: rest =>
    start ≤ pruneTime ∧ pruneTime ≤ insertTime ∧ Chronological insertTime rest
  | start, .consume now _ :: rest => start ≤ now ∧ Chronological now rest
  | start, .close _ :: rest => Chronological start rest
  | start, .prune now :: rest => start ≤ now ∧ Chronological now rest

/-- What happened in a call: for a replacement also when the entry was made and which id
was evicted for it. -/
inductive HistoryEvent where
  | replaced (oldId newId : UInt32) (entry : Entry) (evicted : Option UInt32)
  | consumed (notificationId : UInt32)
  | closed (notificationId : UInt32)
  | pruned

/-- The id that `makeRoom` evicts. -/
def evicted (order : IterationOrder UInt32 Entry) (bindings : NotificationActionBindings)
    (newId : UInt32) : Option UInt32 :=
  if (bindings.find newId).isNone ∧ capacity ≤ bindings.size then
    (oldest (order.visit bindings.entries)).map Prod.fst
  else none

/-- The id that a replacement evicts: none when it makes no entry. -/
def evictedBy (order : IterationOrder UInt32 Entry) (bindings : NotificationActionBindings)
    (pruneTime : TimePoint) (oldId newId : UInt32) : Option UInt32 :=
  if newId = 0 then none else (bindings.dropOld pruneTime oldId).evicted order newId

/-- The table as a machine that records its history. -/
def tracked : Machine NotificationActionBindings Call HistoryEvent where
  step bindings
    | .replace order pruneTime insertTime oldId newId descriptor =>
      (bindings.replace order pruneTime insertTime oldId newId descriptor,
        [.replaced oldId newId ⟨descriptor, insertTime⟩
          (bindings.evictedBy order pruneTime oldId newId)])
    | .consume now notificationId =>
      ((bindings.consume now notificationId).1, [.consumed notificationId])
    | .close notificationId => (bindings.close notificationId, [.closed notificationId])
    | .prune now => (bindings.prune now, [.pruned])

/-! ## What the history says -/

/-- The event binds the id to the entry. -/
def HistoryEvent.Binds (id : UInt32) (entry : Entry) : HistoryEvent → Prop
  | .replaced _ newId made _ => newId = id ∧ made = entry
  | _ => False

/-- The event takes no binding of the id away and makes no newer one. -/
def HistoryEvent.Spares (id : UInt32) : HistoryEvent → Prop
  | .replaced oldId newId _ evicted => oldId ≠ id ∧ newId ≠ id ∧ evicted ≠ some id
  | .consumed notificationId => notificationId ≠ id
  | .closed notificationId => notificationId ≠ id
  | .pruned => True

/-- The latest replacement for the id made the entry, and since then the id was not
consumed, closed, replaced or evicted. -/
def Bound (history : List HistoryEvent) (id : UInt32) (entry : Entry) : Prop :=
  id ≠ 0 ∧ Standing (HistoryEvent.Binds id entry) (HistoryEvent.Spares id) history

theorem bound_append {history : List HistoryEvent} {event : HistoryEvent} {id : UInt32}
    {entry : Entry} :
    Bound (history ++ [event]) id entry
      ↔ (id ≠ 0 ∧ event.Binds id entry) ∨ (Bound history id entry ∧ event.Spares id) := by
  unfold Bound
  rw [standing_append_singleton, and_or_left, and_assoc]

/-! ## Evictions -/

/-- A list with an element has an oldest one. -/
theorem eq_nil_of_oldest {items : List (UInt32 × Entry)} (h : oldest items = none) :
    items = [] := by
  cases items with
  | nil => rfl
  | cons head rest =>
    rw [oldest] at h
    split at h
    · cases h
    · split at h <;> cases h

/-- The oldest entry of a list is one of its elements, and none is older. -/
theorem oldest_spec {items : List (UInt32 × Entry)} {item : UInt32 × Entry}
    (h : oldest items = some item) :
    item ∈ items ∧ ∀ other ∈ items, item.2.createdAt ≤ other.2.createdAt := by
  induction items generalizing item with
  | nil => cases h
  | cons head rest ih =>
    rw [oldest] at h
    cases hrest : oldest rest with
    | none =>
      rw [hrest] at h
      cases h
      rw [eq_nil_of_oldest hrest]
      refine ⟨List.mem_singleton_self _, fun other hother => ?_⟩
      rw [List.mem_singleton.mp hother]
    | some best =>
      obtain ⟨hmem, hbest⟩ := ih hrest
      rw [hrest] at h
      simp only at h
      split at h
      · rename_i hlt
        cases h
        refine ⟨List.mem_cons_of_mem _ hmem, fun other hother => ?_⟩
        rcases List.mem_cons.mp hother with rfl | hother
        · exact hlt.le
        · exact hbest other hother
      · rename_i hle
        cases h
        refine ⟨List.mem_cons_self, fun other hother => ?_⟩
        rcases List.mem_cons.mp hother with rfl | hother
        · exact le_rfl
        · exact le_trans (not_lt.mp hle) (hbest other hother)

section Evictions

variable {order : IterationOrder UInt32 Entry} {bindings : NotificationActionBindings}
  {newId victim id : UInt32} {entry : Entry}

/-- An evicted id was bound, to an entry of which none is older. -/
theorem evicted_spec (h : bindings.evicted order newId = some victim) :
    bindings.find newId = none ∧ capacity ≤ bindings.size ∧
      ∃ entry, bindings.find victim = some entry ∧
        ∀ id other, bindings.find id = some other → entry.createdAt ≤ other.createdAt := by
  unfold evicted at h
  split at h
  · rename_i hfull
    obtain ⟨item, hitem, rfl⟩ := Option.map_eq_some_iff.mp h
    obtain ⟨hmem, hle⟩ := oldest_spec hitem
    have hperm := order.perm bindings.entries
    refine ⟨Option.isNone_iff_eq_none.mp hfull.1, hfull.2, item.2, ?_, ?_⟩
    · exact UnorderedMap.find_eq_some_iff.mpr (hperm.mem_iff.mp hmem)
    · intro id other hother
      exact hle (id, other) (hperm.mem_iff.mpr (UnorderedMap.find_eq_some_iff.mp hother))
  · cases h

theorem makeRoom_eq :
    bindings.makeRoom order newId
      = match bindings.evicted order newId with
        | none => bindings
        | some victim => bindings.erase victim := by
  unfold makeRoom evicted
  split
  · cases oldest (order.visit bindings.entries) <;> rfl
  · rfl

/-- What is left when room was made. -/
theorem find_makeRoom_iff :
    (bindings.makeRoom order newId).find id = some entry
      ↔ bindings.find id = some entry ∧ bindings.evicted order newId ≠ some id := by
  rw [makeRoom_eq]
  cases hvictim : bindings.evicted order newId with
  | none => simp
  | some victim =>
    show (bindings.erase victim).find id = some entry ↔ _
    rw [UnorderedMap.find_erase_iff, and_comm]
    refine and_congr_right fun _ => not_congr ?_
    rw [Option.some.injEq, eq_comm]

/-- A table that is full and has no binding of the new id loses an entry. -/
theorem evicted_of_full (hnew : bindings.find newId = none) (hfull : capacity ≤ bindings.size) :
    ∃ victim, bindings.evicted order newId = some victim := by
  unfold evicted
  rw [hnew, if_pos ⟨rfl, hfull⟩]
  cases hitem : oldest (order.visit bindings.entries) with
  | some item => exact ⟨item.1, rfl⟩
  | none =>
    have hlength := (order.perm bindings.entries).length_eq
    rw [eq_nil_of_oldest hitem] at hlength
    have hempty : bindings.size = 0 := hlength.symm
    rw [hempty] at hfull
    exact absurd hfull (by decide)

/-- Making room and inserting keeps the table within its capacity. -/
theorem size_insert_le (hsize : bindings.size ≤ capacity) :
    ((bindings.makeRoom order newId).insertOrAssign newId entry).size ≤ capacity := by
  rw [UnorderedMap.size_insertOrAssign]
  have herase : ((bindings.makeRoom order newId).erase newId).size
      ≤ (bindings.makeRoom order newId).size := UnorderedMap.size_eraseIf_le _
  rw [makeRoom_eq] at herase ⊢
  cases hvictim : bindings.evicted order newId with
  | some victim =>
    obtain ⟨-, -, old, hold, -⟩ := evicted_spec hvictim
    rw [hvictim] at herase
    have hfewer := UnorderedMap.size_erase_lt hold
    exact lt_of_le_of_lt herase (lt_of_lt_of_le hfewer hsize)
  | none =>
    show (bindings.erase newId).size < capacity
    rw [hvictim] at herase
    cases hnew : bindings.find newId with
    | some old => exact lt_of_lt_of_le (UnorderedMap.size_erase_lt hnew) hsize
    | none =>
      -- an id that is not bound and evicts nothing finds the table not yet full
      refine lt_of_le_of_lt herase (lt_of_not_ge fun hfull => ?_)
      obtain ⟨victim, hsome⟩ := @evicted_of_full order bindings newId hnew hfull
      rw [hvictim] at hsome
      cases hsome

end Evictions

/-! ## The invariant -/

/-- The table holds what the history says is bound, as far as it was made at or after the
cutoff. -/
def HoldsSince (history : List HistoryEvent) (bindings : NotificationActionBindings)
    (cutoff : TimePoint) : Prop :=
  ∀ id entry, bindings.find id = some entry
    ↔ Bound history id entry ∧ cutoff ≤ entry.createdAt

/-- The table is within its capacity, does not have the id 0, and holds what is bound and
was not expired at the last prune. -/
structure HistoryInv (history : List HistoryEvent) (bindings : NotificationActionBindings)
    (now : TimePoint) : Prop where
  size : bindings.size ≤ capacity
  holds : ∃ pruned ≤ now, HoldsSince history bindings (pruned - lifetime)

section Steps

variable {history : List HistoryEvent} {bindings : NotificationActionBindings}
  {start now : TimePoint}

theorem historyInv_empty (now : TimePoint) : HistoryInv [] UnorderedMap.empty now where
  size := Nat.zero_le _
  holds := by
    refine ⟨now, le_rfl, fun id entry => ?_⟩
    rw [UnorderedMap.find_empty]
    constructor
    · intro h
      cases h
    · rintro ⟨⟨-, hstanding⟩, -⟩
      exact absurd hstanding not_standing_nil

theorem HistoryInv.later (h : HistoryInv history bindings start) (hle : start ≤ now) :
    HistoryInv history bindings now where
  size := h.size
  holds := by
    obtain ⟨pruned, hpruned, hholds⟩ := h.holds
    exact ⟨pruned, le_trans hpruned hle, hholds⟩

/-- The id 0 is never bound. -/
theorem HistoryInv.zero (h : HistoryInv history bindings now) : bindings.find 0 = none := by
  obtain ⟨pruned, -, hholds⟩ := h.holds
  refine Option.eq_none_iff_forall_ne_some.mpr fun entry hfound => ?_
  exact ((hholds 0 entry).mp hfound).1.1 rfl

/-- A prune moves the cutoff. -/
theorem HistoryInv.holdsSince_prune (h : HistoryInv history bindings start) (hle : start ≤ now) :
    HoldsSince history (bindings.prune now) (now - lifetime) := by
  obtain ⟨pruned, hpruned, hholds⟩ := h.holds
  intro id entry
  unfold prune
  rw [UnorderedMap.find_eraseIf, hholds, and_assoc, decide_eq_false_iff_not, not_lt]
  refine and_congr_right fun _ => ⟨And.right, fun hnew => ⟨?_, hnew⟩⟩
  exact le_trans (sub_le_sub_right (le_trans hpruned hle) lifetime) hnew

/-- Removing one id, with the event that says so. -/
theorem HoldsSince.erase {cutoff : TimePoint} (h : HoldsSince history bindings cutoff)
    {event : HistoryEvent} {removed : UInt32} (hbinds : ∀ id entry, ¬ event.Binds id entry)
    (hspares : ∀ id, event.Spares id ↔ removed ≠ id) :
    HoldsSince (history ++ [event]) (bindings.erase removed) cutoff := by
  intro id entry
  rw [UnorderedMap.find_erase_iff, h, bound_append, hspares]
  constructor
  · rintro ⟨hne, hbound, hcutoff⟩
    exact ⟨Or.inr ⟨hbound, Ne.symm hne⟩, hcutoff⟩
  · rintro ⟨⟨-, hnew⟩ | ⟨hbound, hne⟩, hcutoff⟩
    · exact absurd hnew (hbinds id entry)
    · exact ⟨Ne.symm hne, hbound, hcutoff⟩

/-- A prune. -/
theorem HistoryInv.prune (h : HistoryInv history bindings start) (hle : start ≤ now) :
    HistoryInv (history ++ [.pruned]) (bindings.prune now) now where
  size := le_trans (UnorderedMap.size_eraseIf_le _) h.size
  holds := by
    refine ⟨now, le_rfl, fun id entry => ?_⟩
    rw [h.holdsSince_prune hle, bound_append]
    constructor
    · rintro ⟨hbound, hcutoff⟩
      exact ⟨Or.inr ⟨hbound, trivial⟩, hcutoff⟩
    · rintro ⟨⟨-, hnew⟩ | ⟨hbound, -⟩, hcutoff⟩
      · exact hnew.elim
      · exact ⟨hbound, hcutoff⟩

/-- A removal by the server. -/
theorem HistoryInv.close (h : HistoryInv history bindings now) (notificationId : UInt32) :
    HistoryInv (history ++ [.closed notificationId]) (bindings.close notificationId) now where
  size := le_trans (UnorderedMap.size_eraseIf_le _) h.size
  holds := by
    obtain ⟨pruned, hpruned, hholds⟩ := h.holds
    exact ⟨pruned, hpruned, hholds.erase (fun _ _ => id) fun _ => Iff.rfl⟩

/-- What is bound after a consumption, whether or not the id was there. -/
theorem find_consume_iff {notificationId id : UInt32} {entry : Entry} :
    (bindings.consume now notificationId).1.find id = some entry
      ↔ ((bindings.prune now).erase notificationId).find id = some entry := by
  unfold consume
  simp only
  cases hfound : (bindings.prune now).find notificationId with
  | some old => exact Iff.rfl
  | none =>
    rw [UnorderedMap.find_erase_iff]
    refine ⟨fun h => ⟨?_, h⟩, And.right⟩
    rintro rfl
    rw [hfound] at h
    cases h

theorem size_consume_le (notificationId : UInt32) :
    (bindings.consume now notificationId).1.size ≤ bindings.size := by
  have hprune : (bindings.prune now).size ≤ bindings.size := UnorderedMap.size_eraseIf_le _
  unfold consume
  simp only
  cases (bindings.prune now).find notificationId with
  | none => exact hprune
  | some entry => exact le_trans (UnorderedMap.size_eraseIf_le _) hprune

/-- A consumption. -/
theorem HistoryInv.consume (h : HistoryInv history bindings start) (hle : start ≤ now)
    (notificationId : UInt32) :
    HistoryInv (history ++ [.consumed notificationId]) (bindings.consume now notificationId).1
      now where
  size := le_trans (size_consume_le notificationId) h.size
  holds := by
    refine ⟨now, le_rfl, fun id entry => ?_⟩
    have herased : HoldsSince (history ++ [.consumed notificationId])
        ((bindings.prune now).erase notificationId) (now - lifetime) :=
      (h.holdsSince_prune hle).erase (fun _ _ hnew => hnew) fun _ => Iff.rfl
    rw [find_consume_iff]
    exact herased id entry

/-- What `consume` returns: the descriptor of the entry that is bound, unless it is older
than 24 hours. -/
theorem HistoryInv.consume_returns (h : HistoryInv history bindings start) (hle : start ≤ now)
    (notificationId : UInt32) (descriptor : ActivationDescriptor) :
    (bindings.consume now notificationId).2 = some descriptor
      ↔ ∃ createdAt, Bound history notificationId ⟨descriptor, createdAt⟩ ∧
        now - createdAt ≤ lifetime := by
  have hholds := h.holdsSince_prune hle
  have hreturned : (bindings.consume now notificationId).2
      = ((bindings.prune now).find notificationId).map Entry.descriptor := by
    unfold NotificationActionBindings.consume
    simp only
    cases (bindings.prune now).find notificationId <;> rfl
  rw [hreturned, Option.map_eq_some_iff]
  constructor
  · rintro ⟨⟨found, createdAt⟩, hfound, rfl⟩
    obtain ⟨hbound, hcutoff⟩ := (hholds _ _).mp hfound
    exact ⟨createdAt, hbound, sub_le_comm.mp hcutoff⟩
  · rintro ⟨createdAt, hbound, hage⟩
    exact ⟨⟨descriptor, createdAt⟩, (hholds _ _).mpr ⟨hbound, sub_le_comm.mp hage⟩, rfl⟩

/-- What is left of the pruned table when the old id is dropped. -/
theorem find_dropOld_iff {pruneTime : TimePoint} {oldId id : UInt32} {entry : Entry} :
    (bindings.dropOld pruneTime oldId).find id = some entry
      ↔ (oldId = 0 ∨ oldId ≠ id) ∧ (bindings.prune pruneTime).find id = some entry := by
  unfold dropOld
  split
  · rename_i hne
    rw [UnorderedMap.find_erase_iff]
    refine and_congr_left fun _ => ⟨fun h => Or.inr (Ne.symm h), ?_⟩
    rintro (hzero | hother)
    · exact absurd hzero hne
    · exact Ne.symm hother
  · rename_i hzero
    exact ⟨fun h => ⟨Or.inl (not_not.mp hzero), h⟩, And.right⟩

theorem size_dropOld_le (pruneTime : TimePoint) (oldId : UInt32) :
    (bindings.dropOld pruneTime oldId).size ≤ bindings.size := by
  have hprune : (bindings.prune pruneTime).size ≤ bindings.size := UnorderedMap.size_eraseIf_le _
  unfold dropOld
  split
  · exact le_trans (UnorderedMap.size_eraseIf_le _) hprune
  · exact hprune

/-- A replacement that makes no new entry: the old id is gone. -/
theorem HistoryInv.replace_zero (h : HistoryInv history bindings start)
    {pruneTime insertTime : TimePoint} (hprune : start ≤ pruneTime)
    (hinsert : pruneTime ≤ insertTime) (oldId : UInt32) (entry : Entry) :
    HistoryInv (history ++ [.replaced oldId 0 entry none]) (bindings.dropOld pruneTime oldId)
      insertTime where
  size := le_trans (size_dropOld_le pruneTime oldId) h.size
  holds := by
    refine ⟨pruneTime, hinsert, fun id found => ?_⟩
    rw [find_dropOld_iff, h.holdsSince_prune hprune, bound_append]
    constructor
    · rintro ⟨hold, hbound, hcutoff⟩
      have hne : oldId ≠ id := by
        rcases hold with rfl | hne
        · exact Ne.symm hbound.1
        · exact hne
      exact ⟨Or.inr ⟨hbound, hne, Ne.symm hbound.1, Option.some_ne_none id |>.symm⟩, hcutoff⟩
    · rintro ⟨⟨hid, hzero, -⟩ | ⟨hbound, hne, -, -⟩, hcutoff⟩
      · exact absurd hzero.symm hid
      · exact ⟨Or.inr hne, hbound, hcutoff⟩

/-- A replacement with a new entry. -/
theorem HistoryInv.replace_new (h : HistoryInv history bindings start)
    {order : IterationOrder UInt32 Entry} {pruneTime insertTime : TimePoint}
    (hprune : start ≤ pruneTime) (hinsert : pruneTime ≤ insertTime) (oldId : UInt32)
    {newId : UInt32} (hnew : newId ≠ 0) (descriptor : ActivationDescriptor) :
    HistoryInv
      (history ++ [.replaced oldId newId ⟨descriptor, insertTime⟩
        ((bindings.dropOld pruneTime oldId).evicted order newId)])
      (((bindings.dropOld pruneTime oldId).makeRoom order newId).insertOrAssign newId
        ⟨descriptor, insertTime⟩) insertTime where
  size := size_insert_le (le_trans (size_dropOld_le pruneTime oldId) h.size)
  holds := by
    refine ⟨pruneTime, hinsert, fun id found => ?_⟩
    rw [UnorderedMap.find_insertOrAssign_iff, find_makeRoom_iff, find_dropOld_iff,
      h.holdsSince_prune hprune, bound_append]
    constructor
    · rintro (⟨rfl, rfl⟩ | ⟨hother, ⟨hold, hbound, hcutoff⟩, hkept⟩)
      · refine ⟨Or.inl ⟨hnew, rfl, rfl⟩, ?_⟩
        have hpositive : (0 : ℤ) ≤ lifetime := by decide
        exact le_trans (sub_le_self pruneTime hpositive) hinsert
      · have hne : oldId ≠ id := by
          rcases hold with rfl | hne
          · exact Ne.symm hbound.1
          · exact hne
        exact ⟨Or.inr ⟨hbound, hne, Ne.symm hother, hkept⟩, hcutoff⟩
    · rintro ⟨⟨-, hid, hmade⟩ | ⟨hbound, hne, hother, hkept⟩, hcutoff⟩
      · exact Or.inl ⟨hid.symm, hmade.symm⟩
      · exact Or.inr ⟨Ne.symm hother, ⟨Or.inr hne, hbound, hcutoff⟩, hkept⟩

/-- **One step**: every call keeps the invariant, at the clock it leaves behind. -/
theorem HistoryInv.step (h : HistoryInv history bindings start) {call : Call} {rest : List Call}
    (hclock : Chronological start (call :: rest)) (hvalid : call.Valid) :
    ∃ now, HistoryInv (history ++ (tracked.step bindings call).2) (tracked.step bindings call).1 now
      ∧ Chronological now rest := by
  cases call with
  | replace order pruneTime insertTime oldId newId descriptor =>
    obtain ⟨hprune, hinsert, hrest⟩ := hclock
    refine ⟨insertTime, ?_, hrest⟩
    have hdescriptor : descriptor.valid = true := hvalid
    show HistoryInv (history ++ [.replaced oldId newId ⟨descriptor, insertTime⟩
        (bindings.evictedBy order pruneTime oldId newId)])
      (bindings.replace order pruneTime insertTime oldId newId descriptor) insertTime
    unfold NotificationActionBindings.replace evictedBy
    by_cases hzero : newId = 0
    · subst hzero
      rw [if_pos rfl, if_pos (Or.inl rfl)]
      exact h.replace_zero hprune hinsert oldId _
    · have hmakes : ¬ (newId = 0 ∨ descriptor.valid = false) := by
        rw [hdescriptor]
        simp [hzero]
      rw [if_neg hzero, if_neg hmakes]
      exact h.replace_new hprune hinsert oldId hzero descriptor
  | consume now notificationId => exact ⟨now, h.consume hclock.1 notificationId, hclock.2⟩
  | close notificationId => exact ⟨start, h.close notificationId, hclock⟩
  | prune now => exact ⟨now, h.prune hclock.1, hclock.2⟩

/-- **A whole run** keeps the invariant; the calls that follow it read a later clock. -/
theorem run_historyInv {calls rest : List Call} (h : HistoryInv history bindings start)
    (hclock : Chronological start (calls ++ rest)) (hvalid : ∀ call ∈ calls, call.Valid) :
    ∃ now, HistoryInv (history ++ (tracked.run bindings calls).2) (tracked.run bindings calls).1 now
      ∧ Chronological now rest := by
  induction calls generalizing history bindings start with
  | nil => exact ⟨start, by rwa [Machine.run_nil, List.append_nil], hclock⟩
  | cons call calls ih =>
    obtain ⟨now, hstep, hlater⟩ := h.step hclock (hvalid call List.mem_cons_self)
    rw [Machine.run_cons, ← List.append_assoc]
    exact ih hstep hlater fun other hother => hvalid other (List.mem_cons_of_mem _ hother)

end Steps

/-! ## The table refines its history -/

/-- What a replacement removes from the pruned table without the old id: nothing, or, when
the new id is not bound and 256 unexpired entries are left, one entry than which none is
older. -/
def EvictsOldest (order : IterationOrder UInt32 Entry) (bindings : NotificationActionBindings)
    (pruneTime insertTime : TimePoint) (oldId newId : UInt32) (descriptor : ActivationDescriptor) :
    Prop :=
  let dropped := bindings.dropOld pruneTime oldId
  let replaced := bindings.replace order pruneTime insertTime oldId newId descriptor
  let evictedId := bindings.evictedBy order pruneTime oldId newId
  (evictedId = none → ∀ id, id ≠ newId → replaced.find id = dropped.find id) ∧
  ∀ victim, evictedId = some victim →
    newId ≠ 0 ∧ dropped.find newId = none ∧ dropped.size = 256 ∧
    (∀ id entry, dropped.find id = some entry → pruneTime - entry.createdAt ≤ lifetime) ∧
    (∃ oldest, dropped.find victim = some oldest ∧
      ∀ id entry, dropped.find id = some entry → oldest.createdAt ≤ entry.createdAt) ∧
    ∀ id, id ≠ newId → replaced.find id = if id = victim then none else dropped.find id

section Replacement

variable {history : List HistoryEvent} {bindings : NotificationActionBindings}
  {start pruneTime : TimePoint} {order : IterationOrder UInt32 Entry} {oldId newId : UInt32}
  {descriptor : ActivationDescriptor}

/-- Ids other than the new one after a replacement. -/
theorem find_replace_of_ne (hvalid : descriptor.valid = true) (insertTime : TimePoint)
    {id : UInt32} (hid : id ≠ newId) {entry : Entry} :
    (bindings.replace order pruneTime insertTime oldId newId descriptor).find id = some entry
      ↔ (bindings.dropOld pruneTime oldId).find id = some entry ∧
        bindings.evictedBy order pruneTime oldId newId ≠ some id := by
  unfold replace evictedBy
  by_cases hzero : newId = 0
  · rw [if_pos hzero, if_pos (Or.inl hzero)]
    exact ⟨fun h => ⟨h, (Option.some_ne_none id).symm⟩, And.left⟩
  · have hmakes : ¬ (newId = 0 ∨ descriptor.valid = false) := by
      rw [hvalid]
      simp [hzero]
    rw [if_neg hzero, if_neg hmakes, UnorderedMap.find_insertOrAssign_of_ne hid,
      find_makeRoom_iff]

theorem HistoryInv.evictsOldest (h : HistoryInv history bindings start)
    (hprune : start ≤ pruneTime) (hvalid : descriptor.valid = true) (insertTime : TimePoint) :
    EvictsOldest order bindings pruneTime insertTime oldId newId descriptor := by
  refine ⟨fun hnone id hid => ?_, fun victim hvictim => ?_⟩
  · refine Option.ext fun entry => ?_
    show _ = some entry ↔ _ = some entry
    rw [find_replace_of_ne hvalid insertTime hid, hnone]
    exact ⟨And.left, fun hfound => ⟨hfound, (Option.some_ne_none id).symm⟩⟩
  · have hevicted := hvictim
    unfold evictedBy at hevicted
    split at hevicted
    · cases hevicted
    · rename_i hnew
      obtain ⟨hunbound, hfull, oldest, hold, hoverall⟩ := evicted_spec hevicted
      have hsize := le_trans (@size_dropOld_le bindings pruneTime oldId) h.size
      refine ⟨hnew, hunbound, le_antisymm hsize hfull, ?_, ⟨oldest, hold, hoverall⟩, ?_⟩
      · intro id entry hfound
        obtain ⟨-, hpruned⟩ := find_dropOld_iff.mp hfound
        exact sub_le_comm.mp ((h.holdsSince_prune hprune id entry).mp hpruned).2
      · intro id hid
        refine Option.ext fun entry => ?_
        show _ = some entry ↔ _ = some entry
        rw [find_replace_of_ne hvalid insertTime hid, hvictim, ne_eq, Option.some.injEq]
        by_cases hsame : id = victim
        · rw [if_pos hsame]
          exact ⟨fun hkept => absurd hsame.symm hkept.2, fun hnone => by cases hnone⟩
        · rw [if_neg hsame]
          exact ⟨And.left, fun hfound => ⟨hfound, Ne.symm hsame⟩⟩

end Replacement

/-- **The bindings refine their history**: after any calls with valid descriptors and a
clock that never goes back, the table has at most 256 entries and not the id 0; `consume`
returns the descriptor of the latest binding of the id that nothing took away, if it is at
most 24 hours old, and nothing otherwise; and a replacement evicts only from a full table,
and there an oldest entry. -/
theorem bindings_refine_history (start : TimePoint) (calls : List Call)
    (hclock : Chronological start calls) (hvalid : ∀ call ∈ calls, call.Valid) :
    let table := (tracked.run UnorderedMap.empty calls).1
    let history := (tracked.run UnorderedMap.empty calls).2
    table.size ≤ 256 ∧ table.find 0 = none ∧
    (∀ now id, Chronological start (calls ++ [.consume now id]) → ∀ descriptor,
      ((table.consume now id).2 = some descriptor
        ↔ ∃ createdAt, Bound history id ⟨descriptor, createdAt⟩ ∧ now - createdAt ≤ lifetime)) ∧
    ∀ order pruneTime insertTime oldId newId descriptor, descriptor.valid = true →
      Chronological start
        (calls ++ [.replace order pruneTime insertTime oldId newId descriptor]) →
      EvictsOldest order table pruneTime insertTime oldId newId descriptor := by
  have hempty := historyInv_empty start
  have hnow := @run_historyInv _ _ _ calls [] hempty (by rwa [List.append_nil]) hvalid
  rw [List.nil_append] at hnow
  obtain ⟨now, hinv, -⟩ := hnow
  refine ⟨hinv.size, hinv.zero, ?_, ?_⟩
  · intro now id hlater descriptor
    obtain ⟨before, hinv, hclock⟩ := run_historyInv hempty hlater hvalid
    rw [List.nil_append] at hinv
    exact hinv.consume_returns hclock.1 id descriptor
  · intro order pruneTime insertTime oldId newId descriptor hdescriptor hlater
    obtain ⟨before, hinv, hclock⟩ := run_historyInv hempty hlater hvalid
    rw [List.nil_append] at hinv
    exact hinv.evictsOldest hclock.1 hdescriptor insertTime

/-- The terminal of a process. -/
def terminal (pid : UInt32) : ActivationDescriptor := { processLineage := [pid] }

/-- An id that was bound once and then again, by a notification that replaced it, opens
the second terminal, 24 hours later. -/
theorem bindings_refine_history_twice :
    Chronological 0
        [ .replace .insertion 0 1 0 7 (terminal 41), .replace .insertion 2 3 7 7 (terminal 42) ] ∧
      (((tracked.run UnorderedMap.empty
          [ .replace .insertion 0 1 0 7 (terminal 41),
            .replace .insertion 2 3 7 7 (terminal 42) ]).1).consume (3 + lifetime) 7).2
        = some (terminal 42) := by
  have hclock : Chronological 0
      [ .replace .insertion 0 1 0 7 (terminal 41), .replace .insertion 2 3 7 7 (terminal 42) ] :=
    ⟨by decide, by decide, by decide, by decide, trivial⟩
  refine ⟨hclock, ?_⟩
  obtain ⟨-, -, hconsume, -⟩ := bindings_refine_history 0 _ hclock (by
    intro call hcall
    rcases List.mem_pair.mp hcall with rfl | rfl
    · exact rfl
    · exact rfl)
  refine (hconsume (3 + lifetime) 7 ⟨by decide, by decide, by decide, by decide, by decide, trivial⟩
    (terminal 42)).mpr ⟨3, ⟨by decide, ?_⟩, by decide⟩
  exact ⟨[_], _, [], rfl, ⟨rfl, rfl⟩, fun later hlater => absurd hlater List.not_mem_nil⟩

end NotificationActionBindings

end Agent

end Holonight
