import Holonight.Storage.PruneRuns
import Holonight.Storage.Query
import Holonight.Storage.Transactions

/-!
# The store as a history

What a client knows of the store are its calls and their replies. `acceptedBy` reads off a
reply which events the call has stored, and `numbered` gives events stored one after the other
the keys that follow the counter.

- `store_keeps_history`: whatever fails and whatever is pruned, the table is a part of what it
  was with the accepted events after it, in this order and under these keys. Nothing else gets
  in, no event gets in twice, and no key is given twice, not even after its row was pruned.
- `store_holds_history`: without a capacity limit this is exact. The rows are those that were
  there or were accepted, and that no later successful age prune has passed (`Stands`).

Both are about runs in which no `COMMIT` fails with its transaction left open. Each call is
described once (`Effect`), and the runs follow by induction on the calls.
-/

namespace Holonight

namespace EventStore

/-! ## What calls and replies say -/

/-- The events that a call has stored, by its reply. -/
def acceptedBy : Call → Reply → List ObservationEvent
  | .insert event _, .rowid (.ok _) => [event]
  | .insertBatch events _, .count (.ok _) => events
  | _, _ => []

/-- The events that were stored, in order. -/
def accepted (log : List (Call × Reply)) : List ObservationEvent :=
  log.flatMap fun entry => acceptedBy entry.1 entry.2

/-- The rows of events that are stored one after the other. -/
def numbered (lib : CppLib) : ℤ → List ObservationEvent → List Row
  | _, [] => []
  | seq, event :: rest => { bindRow lib event with id := seq + 1 } :: numbered lib (seq + 1) rest

/-- The call is an age prune past the row, and it succeeded. -/
def Removes (row : Row) : Call → Reply → Prop
  | .pruneEvents cutoff _, .count (.ok _) => olderThan cutoff row = true
  | _, _ => False

/-- The call sets no capacity limit. -/
def Unlimited : Call → Prop
  | .pruneEventsByCapacity maxBytes maxEvents _ => maxBytes = 0 ∧ maxEvents = 0
  | _ => True

/-- The row was stored, under the key that follows the counter, and not removed since. -/
inductive Stands (lib : CppLib) (row : Row) : ℤ → List (Call × Reply) → Prop
  | stored {seq : ℤ} {call : Call} {reply : Reply} {rest : List (Call × Reply)}
      (hrow : row ∈ numbered lib seq (acceptedBy call reply))
      (hkept : ∀ entry ∈ rest, ¬ Removes row entry.1 entry.2) :
      Stands lib row seq ((call, reply) :: rest)
  | later {seq : ℤ} {call : Call} {reply : Reply} {rest : List (Call × Reply)}
      (h : Stands lib row (seq + (acceptedBy call reply).length) rest) :
      Stands lib row seq ((call, reply) :: rest)

/-! ## Rows of accepted events -/

section Numbered

variable {lib : CppLib} {t : Table}

theorem numbered_append (seq : ℤ) (first second : List ObservationEvent) :
    numbered lib seq (first ++ second)
      = numbered lib seq first ++ numbered lib (seq + first.length) second := by
  induction first generalizing seq with
  | nil => simp [numbered]
  | cons event rest ih =>
    rw [List.cons_append, numbered, ih, numbered, List.cons_append, List.length_cons]
    congr 3
    omega

/-- The keys grow. -/
theorem id_of_mem_numbered {seq : ℤ} {events : List ObservationEvent} {row : Row}
    (h : row ∈ numbered lib seq events) : seq < row.id ∧ row.id ≤ seq + events.length := by
  induction events generalizing seq with
  | nil => cases h
  | cons event rest ih =>
    rw [List.length_cons]
    rcases List.mem_cons.mp h with rfl | hrest
    · show seq < seq + 1 ∧ seq + 1 ≤ _
      omega
    · have hbounds := ih hrest
      omega

/-- A batch stores its events one after the other. -/
theorem rows_insertAll {step : ℕ → StepOutcome} {i : ℕ} {events : List ObservationEvent}
    {t' : Table} (h : insertAll lib step i t events = some t') :
    t'.rows = t.rows ++ numbered lib t.seq events ∧ t'.seq = t.seq + events.length := by
  induction events generalizing i t with
  | nil =>
    cases h
    simp [numbered]
  | cons event rest ih =>
    rw [insertAll] at h
    cases hstep : step i with
    | error msg rolledBack =>
      rw [hstep] at h
      cases h
    | done =>
      rw [hstep] at h
      obtain ⟨hrows, hseq⟩ := ih h
      refine ⟨?_, ?_⟩
      · rw [hrows, Table.insertRow, List.append_assoc]
        rfl
      · rw [hseq, List.length_cons]
        show t.seq + 1 + (rest.length : ℤ) = _
        push_cast
        omega

end Numbered

/-! ## One call -/

/-- What a call does to the table, said by its reply. -/
structure Effect (lib : CppLib) (t t' : Table) (call : Call) (reply : Reply) : Prop where
  rows : t'.rows.Sublist (t.rows ++ numbered lib t.seq (acceptedBy call reply))
  seq : t'.seq = t.seq + (acceptedBy call reply).length
  exact : Unlimited call → ∀ row, row ∈ t'.rows ↔
    (row ∈ t.rows ∧ ¬ Removes row call reply) ∨ row ∈ numbered lib t.seq (acceptedBy call reply)

section Effects

variable {lib : CppLib} {t t' : Table} {call : Call} {reply : Reply}

/-- A call that stores and removes nothing. -/
theorem Effect.idle (haccepted : acceptedBy call reply = [])
    (hremoves : ∀ row, ¬ Removes row call reply) : Effect lib t t call reply where
  rows := List.sublist_append_left _ _
  seq := by simp [haccepted]
  exact _ row := by simp [haccepted, hremoves row, numbered]

/-- A call that stores events. -/
theorem Effect.stores (hrows : t'.rows = t.rows ++ numbered lib t.seq (acceptedBy call reply))
    (hseq : t'.seq = t.seq + (acceptedBy call reply).length)
    (hremoves : ∀ row, ¬ Removes row call reply) : Effect lib t t' call reply where
  rows := hrows ▸ List.Sublist.refl _
  seq := hseq
  exact _ row := by
    rw [hrows, List.mem_append]
    exact or_congr (by simp [hremoves row]) Iff.rfl

theorem insert_effect (event : ObservationEvent) (o : InsertOutcome) :
    ∃ t', (insert lib ⟨t, none⟩ event o).1 = ⟨t', none⟩ ∧
      Effect lib t t' (.insert event o) (.rowid (insert lib ⟨t, none⟩ event o).2) := by
  unfold insert
  cases o.prepare with
  | some msg => exact ⟨t, rfl, .idle rfl fun _ h => h⟩
  | none =>
    cases o.step with
    | error msg rolledBack =>
      refine ⟨t, ?_, .idle rfl fun _ h => h⟩
      cases rolledBack <;> rfl
    | done => exact ⟨t.insertRow (bindRow lib event), rfl, .stores rfl rfl fun _ h => h⟩

/-- Outside a transaction a batch fails and changes nothing, or all its events are stored. -/
theorem insertBatch_cases {events : List ObservationEvent} {o : BatchOutcome}
    (hclosed : ¬ LeavesOpen (.insertBatch events o)) :
    (∃ msg, insertBatch lib ⟨t, none⟩ events o = (⟨t, none⟩, .error msg)) ∨
      ∃ t', insertAll lib o.step 0 t events = some t' ∧
        insertBatch lib ⟨t, none⟩ events o = (⟨t', none⟩, .ok events.length) := by
  have hclean := (insertBatch_autocommit_iff lib (rfl : (⟨t, none⟩ : Db).autocommit = true)
    events o).mpr hclosed
  unfold insertBatch at hclean ⊢
  cases hbegin : o.begin with
  | error msg => exact Or.inl ⟨_, rfl⟩
  | ok =>
    simp only [hbegin, Db.autocommit, Option.isNone_none, Bool.true_eq_false, if_false] at hclean ⊢
    cases hprepare : o.prepare with
    | some msg => exact Or.inl ⟨_, rfl⟩
    | none =>
      simp only [hprepare] at hclean ⊢
      cases hinsert : insertAll lib o.step 0 t events with
      | none => exact Or.inl ⟨_, rfl⟩
      | some t' =>
        simp only [hinsert] at hclean ⊢
        cases hcommit : o.commit with
        | ok => exact Or.inr ⟨t', rfl, rfl⟩
        | error msg stillOpen =>
          rw [hcommit] at hclean
          cases stillOpen with
          | false => exact Or.inl ⟨_, rfl⟩
          | true => cases hclean

theorem insertBatch_effect {events : List ObservationEvent} {o : BatchOutcome}
    (hclosed : ¬ LeavesOpen (.insertBatch events o)) :
    ∃ t', (insertBatch lib ⟨t, none⟩ events o).1 = ⟨t', none⟩ ∧
      Effect lib t t' (.insertBatch events o) (.count (insertBatch lib ⟨t, none⟩ events o).2) := by
  rcases insertBatch_cases hclosed with ⟨msg, hbatch⟩ | ⟨t', hinsert, hbatch⟩
  · rw [hbatch]
    exact ⟨t, rfl, .idle rfl fun _ h => h⟩
  · rw [hbatch]
    obtain ⟨hrows, hseq⟩ := rows_insertAll hinsert
    exact ⟨t', rfl, .stores hrows hseq fun _ h => h⟩

theorem pruneEvents_effect (cutoff : TimePoint) (o : PruneOutcome) :
    ∃ t', (pruneEvents ⟨t, none⟩ cutoff o).1 = ⟨t', none⟩ ∧
      Effect lib t t' (.pruneEvents cutoff o) (.count (pruneEvents ⟨t, none⟩ cutoff o).2) := by
  unfold pruneEvents
  cases o.prepare with
  | some msg => exact ⟨t, rfl, .idle rfl fun _ h => h⟩
  | none =>
    cases o.step with
    | error msg rolledBack =>
      refine ⟨t, ?_, .idle rfl fun _ h => h⟩
      cases rolledBack <;> rfl
    | done =>
      refine ⟨t.deleteWhere (olderThan cutoff), rfl, ?_, ?_, fun _ row => ?_⟩
      · exact List.filter_sublist.trans (List.sublist_append_left _ _)
      · show t.seq = t.seq + (0 : ℕ)
        omega
      · show row ∈ t.rows.filter _ ↔ (row ∈ t.rows ∧ ¬ olderThan cutoff row = true) ∨ row ∈ []
        rw [List.mem_filter, Bool.not_eq_true', Bool.not_eq_true, or_iff_left List.not_mem_nil]

/-- The loop of a capacity prune leaves the counter. -/
theorem pruneLoop_seq (order : OrderBy Row) (o : CapacityOutcome) (lim : CapacityLimits) (k : ℕ)
    (t : Table) (total : ℕ) : (pruneLoop order o lim k t total).table.seq = t.seq := by
  fun_induction pruneLoop order o lim k t total with
  | case1 | case2 | case3 | case4 => rfl
  | case5 _ _ _ _ _ _ _ _ _ _ _ _ ih => exact ih

/-- A capacity prune removes rows, and none when it has no limit. -/
theorem pruneByCapacity_effect (order : OrderBy Row) (o : CapacityOutcome) (maxBytes maxEvents : ℕ) :
    (pruneByCapacity order o maxBytes maxEvents t).table.rows.Sublist t.rows ∧
      (pruneByCapacity order o maxBytes maxEvents t).table.seq = t.seq ∧
      (maxBytes = 0 ∧ maxEvents = 0 →
        (pruneByCapacity order o maxBytes maxEvents t).table = t) := by
  unfold pruneByCapacity
  generalize (if o.entryCounted then t.count else 0) = count
  simp only
  split
  · exact ⟨List.Sublist.refl _, rfl, fun _ => rfl⟩
  · rename_i hexceeded
    have hlimited : ¬ (maxBytes = 0 ∧ maxEvents = 0) := by
      rintro ⟨rfl, rfl⟩
      exact hexceeded ⟨fun h => absurd h.1 (lt_irrefl 0), fun h => absurd h.1 (lt_irrefl 0)⟩
    cases o.prepare with
    | some msg => exact ⟨List.Sublist.refl _, rfl, fun _ => rfl⟩
    | none =>
      exact ⟨(pruneLoop_keepsTop order o _ 0 t 0).sublist, pruneLoop_seq order o _ 0 t 0,
        fun hnone => absurd hnone hlimited⟩

theorem pruneEventsByCapacity_effect (order : OrderBy Row) (o : CapacityOutcome)
    (maxBytes maxEvents : ℕ) :
    ∃ t', (pruneEventsByCapacity order ⟨t, none⟩ maxBytes maxEvents o).1 = ⟨t', none⟩ ∧
      Effect lib t t' (.pruneEventsByCapacity maxBytes maxEvents o)
        (.count (pruneEventsByCapacity order ⟨t, none⟩ maxBytes maxEvents o).2) := by
  obtain ⟨hrows, hseq, hsame⟩ := @pruneByCapacity_effect t order o maxBytes maxEvents
  refine ⟨(pruneByCapacity order o maxBytes maxEvents t).table, ?_, ?_, ?_, fun hnone row => ?_⟩
  · -- there is no transaction that an error could roll back
    show Db.afterError ⟨_, none⟩ _ = _
    unfold Db.afterError
    split <;> rfl
  · exact hrows.trans (List.sublist_append_left _ _)
  · rw [hseq]
    show t.seq = t.seq + (0 : ℕ)
    omega
  · rw [hsame hnone]
    show row ∈ t.rows ↔ (row ∈ t.rows ∧ ¬ False) ∨ row ∈ []
    simp

/-- **One call**: outside a transaction it ends outside one, and its reply says what it did. -/
theorem step_effect (order : OrderBy Row) (hclosed : ¬ LeavesOpen call) :
    ∃ t' reply, step lib order ⟨t, none⟩ call = (⟨t', none⟩, [reply]) ∧
      Effect lib t t' call reply := by
  cases call with
  | insert event o =>
    obtain ⟨t', hdb, heffect⟩ := @insert_effect lib t event o
    exact ⟨t', _, congrArg (·, _) hdb, heffect⟩
  | insertBatch events o =>
    obtain ⟨t', hdb, heffect⟩ := @insertBatch_effect lib t events o hclosed
    exact ⟨t', _, congrArg (·, _) hdb, heffect⟩
  | query filter o => exact ⟨t, _, rfl, .idle rfl fun _ h => h⟩
  | pruneEvents cutoff o =>
    obtain ⟨t', hdb, heffect⟩ := @pruneEvents_effect lib t cutoff o
    exact ⟨t', _, congrArg (·, _) hdb, heffect⟩
  | pruneEventsByCapacity maxBytes maxEvents o =>
    obtain ⟨t', hdb, heffect⟩ := @pruneEventsByCapacity_effect lib t order o maxBytes maxEvents
    exact ⟨t', _, congrArg (·, _) hdb, heffect⟩
  | checkpointWal o =>
    cases o with
    | ok => exact ⟨t, _, rfl, .idle rfl fun _ h => h⟩
    | error msg => exact ⟨t, _, rfl, .idle rfl fun _ h => h⟩

end Effects

/-! ## Runs -/

/-- The calls of a run with their replies. -/
def logOf (lib : CppLib) (order : OrderBy Row) (t : Table) (calls : List Call) :
    List (Call × Reply) :=
  calls.zip ((machine lib order).run ⟨t, none⟩ calls).2

section Runs

variable {lib : CppLib} {order : OrderBy Row} {t t' : Table} {call : Call} {reply : Reply}
  {calls : List Call}

theorem accepted_cons (log : List (Call × Reply)) :
    accepted ((call, reply) :: log) = acceptedBy call reply ++ accepted log := rfl

/-- A run takes its first call, and goes on outside a transaction. -/
theorem run_cons_effect (hstep : step lib order ⟨t, none⟩ call = (⟨t', none⟩, [reply])) :
    ((machine lib order).run ⟨t, none⟩ (call :: calls)).1
        = ((machine lib order).run ⟨t', none⟩ calls).1 ∧
      logOf lib order t (call :: calls) = (call, reply) :: logOf lib order t' calls := by
  unfold logOf
  rw [Machine.run_cons]
  show ((machine lib order).run (step lib order ⟨t, none⟩ call).1 calls).1 = _ ∧ _
  rw [show (machine lib order).step ⟨t, none⟩ call = _ from hstep, hstep]
  exact ⟨rfl, rfl⟩

/-- **The table is a part of the history.** In every run in which no `COMMIT` fails with its
transaction left open, whatever else fails and whatever is pruned, the rows are, in order, among
those of the start and those of the accepted events, which have the keys after the counter. -/
theorem store_keeps_history (lib : CppLib) (order : OrderBy Row) (t : Table) (calls : List Call)
    (hclosed : ∀ call ∈ calls, ¬ LeavesOpen call) :
    ((machine lib order).run ⟨t, none⟩ calls).1.view.rows.Sublist
        (t.rows ++ numbered lib t.seq (accepted (logOf lib order t calls))) ∧
      ((machine lib order).run ⟨t, none⟩ calls).1.view.seq
        = t.seq + (accepted (logOf lib order t calls)).length := by
  induction calls generalizing t with
  | nil =>
    refine ⟨List.sublist_append_left _ _, ?_⟩
    show t.seq = t.seq + (0 : ℕ)
    omega
  | cons call rest ih =>
    rw [List.forall_mem_cons] at hclosed
    obtain ⟨t', reply, hstep, heffect⟩ := @step_effect lib t call order hclosed.1
    obtain ⟨hfinal, hlog⟩ := @run_cons_effect lib order t t' call reply rest hstep
    obtain ⟨hrows, hseq⟩ := ih t' hclosed.2
    rw [hfinal, hlog, accepted_cons, numbered_append, ← heffect.seq, ← List.append_assoc,
      List.length_append]
    refine ⟨hrows.trans (heffect.rows.append_right _), ?_⟩
    rw [hseq, heffect.seq]
    push_cast
    omega

/-- **The table is the history**, when no call sets a capacity limit: a row is there exactly when it
was there at the start and no successful age prune has passed it, or it was accepted and none has
passed it since. -/
theorem store_holds_history (lib : CppLib) (order : OrderBy Row) (t : Table) (calls : List Call)
    (hclosed : ∀ call ∈ calls, ¬ LeavesOpen call) (hunlimited : ∀ call ∈ calls, Unlimited call)
    (row : Row) :
    row ∈ ((machine lib order).run ⟨t, none⟩ calls).1.view.rows ↔
      (row ∈ t.rows ∧ ∀ entry ∈ logOf lib order t calls, ¬ Removes row entry.1 entry.2) ∨
        Stands lib row t.seq (logOf lib order t calls) := by
  induction calls generalizing t with
  | nil =>
    refine ⟨fun h => Or.inl ⟨h, fun _ hentry => absurd hentry List.not_mem_nil⟩, ?_⟩
    rintro (h | h)
    · exact h.1
    · cases h
  | cons call rest ih =>
    rw [List.forall_mem_cons] at hclosed hunlimited
    obtain ⟨t', reply, hstep, heffect⟩ := @step_effect lib t call order hclosed.1
    obtain ⟨hfinal, hlog⟩ := @run_cons_effect lib order t t' call reply rest hstep
    rw [hfinal, hlog, ih t' hclosed.2 hunlimited.2, heffect.exact hunlimited.1 row, heffect.seq,
      List.forall_mem_cons]
    constructor
    · rintro (⟨⟨hold, hkept⟩ | hnew, hrest⟩ | hlater)
      · exact Or.inl ⟨hold, hkept, hrest⟩
      · exact Or.inr (.stored hnew hrest)
      · exact Or.inr (.later hlater)
    · rintro (⟨hold, hkept, hrest⟩ | hstands)
      · exact Or.inl ⟨Or.inl ⟨hold, hkept⟩, hrest⟩
      · cases hstands with
        | stored hnew hrest => exact Or.inl ⟨Or.inr hnew, hrest⟩
        | later hlater => exact Or.inr hlater

/-- The keys that `insert` returned. -/
def returnedKeys (log : List (Call × Reply)) : List ℤ :=
  log.filterMap fun entry =>
    match entry.2 with
    | .rowid (.ok id) => some id
    | _ => none

/-- A key that is returned is the counter. -/
theorem seq_of_rowid {id : ℤ}
    (hstep : step lib order ⟨t, none⟩ call = (⟨t', none⟩, [.rowid (.ok id)])) :
    t'.seq = id ∧ t.seq < id := by
  cases call with
  | insert event o =>
    obtain ⟨hdb, hreply⟩ := Prod.mk.inj hstep
    have hresult : (insert lib ⟨t, none⟩ event o).2 = .ok id :=
      Reply.rowid.inj (List.singleton_inj.mp hreply)
    obtain ⟨hview, rfl⟩ := insert_eq_ok (Prod.ext hdb hresult :
      insert lib ⟨t, none⟩ event o = (⟨t', none⟩, .ok id))
    have hseq : t'.seq = t.seq + 1 := congrArg Table.seq hview
    exact ⟨hseq, by show t.seq < t.seq + 1; omega⟩
  | insertBatch events o => cases (Prod.mk.inj hstep).2
  | query filter o => cases (Prod.mk.inj hstep).2
  | pruneEvents cutoff o => cases (Prod.mk.inj hstep).2
  | pruneEventsByCapacity maxBytes maxEvents o => cases (Prod.mk.inj hstep).2
  | checkpointWal o => cases (Prod.mk.inj hstep).2

/-- **No key is returned twice**: over a whole run the keys that `insert` returns grow, whatever
was pruned in between. -/
theorem returned_keys_increase (lib : CppLib) (order : OrderBy Row) (t : Table) (calls : List Call)
    (hclosed : ∀ call ∈ calls, ¬ LeavesOpen call) :
    (∀ id ∈ returnedKeys (logOf lib order t calls), t.seq < id) ∧
      (returnedKeys (logOf lib order t calls)).Pairwise (· < ·) := by
  induction calls generalizing t with
  | nil => exact ⟨fun _ h => absurd h List.not_mem_nil, List.Pairwise.nil⟩
  | cons call rest ih =>
    rw [List.forall_mem_cons] at hclosed
    obtain ⟨t', reply, hstep, heffect⟩ := @step_effect lib t call order hclosed.1
    obtain ⟨-, hlog⟩ := @run_cons_effect lib order t t' call reply rest hstep
    obtain ⟨hlater, hpair⟩ := ih t' hclosed.2
    have hmono : t.seq ≤ t'.seq := by
      have hseq := heffect.seq
      omega
    rw [hlog, returnedKeys, List.filterMap_cons]
    split
    · exact ⟨fun id hid => lt_of_le_of_lt hmono (hlater id hid), hpair⟩
    · rename_i id hid
      -- only `insert` returns a key
      have hreply : reply = .rowid (.ok id) := by
        split at hid
        · rename_i id' hreply
          cases hid
          exact hreply
        · cases hid
      rw [hreply] at hstep
      obtain ⟨hseq, hfresh⟩ := seq_of_rowid hstep
      refine ⟨List.forall_mem_cons.mpr ⟨hfresh, fun other hother => ?_⟩, ?_⟩
      · exact lt_of_le_of_lt hmono (hlater other hother)
      · exact List.pairwise_cons.mpr ⟨fun other hother => hseq ▸ hlater other hother, hpair⟩

end Runs

/-- Two events a day apart; then the older one is pruned, and the capacity limits are off. -/
def twoDays : List Call :=
  [.insert spacePressure {},
    .insert { spacePressure with timestamp := spacePressure.timestamp + nanosPerDay } {},
    .pruneEvents (spacePressure.timestamp + 1000) {},
    .pruneEventsByCapacity 0 0 (.ofPages fun _ => ⟨⟨0, by decide⟩, ⟨0, by decide⟩⟩)]

theorem twoDays_closed : ∀ call ∈ twoDays, ¬ LeavesOpen call := by
  simp [twoDays, LeavesOpen]

/-- The younger event has the second key, and is the only one left. -/
theorem store_holds_history_two_days :
    ({ bindRow .integral
          { spacePressure with timestamp := spacePressure.timestamp + nanosPerDay } with id := 2 } : Row)
      ∈ ((machine .integral .stable).run ⟨.empty, none⟩ twoDays).1.view.rows := by
  refine (store_holds_history .integral .stable .empty twoDays twoDays_closed
    (by simp [twoDays, Unlimited]) _).mpr (Or.inr (.later (.stored List.mem_cons_self ?_)))
  exact List.forall_mem_cons.mpr ⟨fun h => Bool.false_ne_true h,
    List.forall_mem_cons.mpr ⟨fun h => h, fun _ h => absurd h List.not_mem_nil⟩⟩

theorem store_keeps_history_two_days :
    ((machine .integral .stable).run ⟨.empty, none⟩ twoDays).1.view.seq = 2 :=
  (store_keeps_history .integral .stable .empty twoDays twoDays_closed).2

theorem returned_keys_increase_two_days :
    (returnedKeys (logOf .integral .stable .empty twoDays)).Pairwise (· < ·) :=
  (returned_keys_increase .integral .stable .empty twoDays twoDays_closed).2

end EventStore

end Holonight
