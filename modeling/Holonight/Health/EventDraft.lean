import Holonight.Base.JsonLibrary
import Holonight.Storage.ObservationEvent

/-!
# Events under construction

A collector fills the fields of an event, serialises its attributes with `dump()`, which
throws on a text that is not UTF-8, and appends it to the events of the pass. An
`EventDraft` is such an event before the `dump()`. The two ways the collectors go on after
an exception are the two ways to emit a list of drafts: the exception leaves the function
(`emitAll`), or the events made so far are returned (`emitUntilThrow`).

When all attributes are UTF-8 both make one event for each draft (`Emits`), and what is
asked of the events can be asked of the drafts (`exists_emitted_iff`).
-/

namespace Holonight

/-- An event without its time stamp, its attributes not yet serialised. -/
structure EventDraft where
  source : Bytes
  category : Bytes
  subject : Bytes
  signal : Bytes
  value : EventValue := .none
  severity : Severity
  attributes : Json

namespace EventDraft

/-- The event of a draft; its time stamp is the clock reading at its construction. -/
def emit (lib : CppLib) (timestamp : TimePoint) (draft : EventDraft) :
    Except Exn ObservationEvent := do
  let attributes ← draft.attributes.dump lib.jsonNumber
  return {
    timestamp := timestamp
    source := draft.source
    category := draft.category
    subject := draft.subject
    signal := draft.signal
    value := draft.value
    severity := draft.severity
    attributesJson := attributes }

/-- The events of the drafts, or the first exception; `made` events have been constructed
before. -/
def emitAll (lib : CppLib) (clock : ℕ → TimePoint) :
    ℕ → List EventDraft → Except Exn (List ObservationEvent)
  | _, [] => .ok []
  | made, draft :: rest => do
    let event ← draft.emit lib (clock made)
    let later ← emitAll lib clock (made + 1) rest
    return event :: later

/-- The events before the first exception. -/
def emitUntilThrow (lib : CppLib) (clock : ℕ → TimePoint) :
    ℕ → List EventDraft → List ObservationEvent
  | _, [] => []
  | made, draft :: rest =>
    match draft.emit lib (clock made) with
    | .error _ => []
    | .ok event => event :: emitUntilThrow lib clock (made + 1) rest

/-- The event is one of the draft, whenever it was made. -/
def Emits (lib : CppLib) (draft : EventDraft) (event : ObservationEvent) : Prop :=
  ∃ timestamp, draft.emit lib timestamp = .ok event

section Emission

variable {lib : CppLib} {clock : ℕ → TimePoint} {draft : EventDraft} {event : ObservationEvent}
  {drafts : List EventDraft} {events : List ObservationEvent} {made : ℕ}

/-- What a rule can ask of an event is what its draft has. -/
theorem Emits.fields (h : Emits lib draft event) :
    event.category = draft.category ∧ event.subject = draft.subject ∧
      event.signal = draft.signal ∧ event.severity = draft.severity := by
  obtain ⟨timestamp, hemit⟩ := h
  obtain ⟨attributes, -, heq⟩ := bind_eq_ok.mp hemit
  cases heq
  exact ⟨rfl, rfl, rfl, rfl⟩

theorem emit_eq_ok (timestamp : TimePoint) (h : draft.attributes.utf8 = true) :
    ∃ event, draft.emit lib timestamp = .ok event := by
  obtain ⟨text, htext⟩ := Json.dump_eq_ok lib.jsonNumber h
  exact ⟨_, bind_eq_ok.mpr ⟨text, htext, rfl⟩⟩

theorem emit_isOk (timestamp : TimePoint) :
    (draft.emit lib timestamp).isOk = draft.attributes.utf8 := by
  rw [emit, isOk_bind_pure, Json.dump_isOk_iff]

/-- Only a draft that can be serialised is emitted. -/
theorem Emits.utf8 (h : Emits lib draft event) : draft.attributes.utf8 = true := by
  obtain ⟨timestamp, hemit⟩ := h
  rw [← emit_isOk, hemit]
  rfl

/-- Drafts that can be serialised are all emitted. -/
theorem emitAll_eq_ok (h : ∀ draft ∈ drafts, draft.attributes.utf8 = true) :
    ∃ events, emitAll lib clock made drafts = .ok events := by
  induction drafts generalizing made with
  | nil => exact ⟨[], rfl⟩
  | cons draft rest ih =>
    obtain ⟨hfirst, hrest⟩ := List.forall_mem_cons.mp h
    obtain ⟨event, hevent⟩ := @emit_eq_ok lib draft (clock made) hfirst
    obtain ⟨later, hlater⟩ := @ih (made + 1) hrest
    exact ⟨event :: later, bind_eq_ok.mpr ⟨event, hevent, bind_eq_ok.mpr ⟨later, hlater, rfl⟩⟩⟩

theorem forall₂_emitAll (h : emitAll lib clock made drafts = .ok events) :
    List.Forall₂ (Emits lib) drafts events := by
  induction drafts generalizing made events with
  | nil =>
    cases h
    exact List.Forall₂.nil
  | cons draft rest ih =>
    obtain ⟨event, hevent, hrest⟩ := bind_eq_ok.mp h
    obtain ⟨later, hlater, heq⟩ := bind_eq_ok.mp hrest
    cases heq
    exact List.Forall₂.cons ⟨clock made, hevent⟩ (ih hlater)

theorem forall₂_emitUntilThrow (h : ∀ draft ∈ drafts, draft.attributes.utf8 = true) :
    List.Forall₂ (Emits lib) drafts (emitUntilThrow lib clock made drafts) := by
  induction drafts generalizing made with
  | nil => exact List.Forall₂.nil
  | cons draft rest ih =>
    obtain ⟨hfirst, hrest⟩ := List.forall_mem_cons.mp h
    obtain ⟨event, hevent⟩ := @emit_eq_ok lib draft (clock made) hfirst
    rw [emitUntilThrow, hevent]
    exact List.Forall₂.cons ⟨clock made, hevent⟩ (ih hrest)

/-- Drafts with one event each can be serialised. -/
theorem utf8_of_forall₂ (h : List.Forall₂ (Emits lib) drafts events) :
    ∀ draft ∈ drafts, draft.attributes.utf8 = true := by
  induction h with
  | nil => exact fun _ hmem => absurd hmem List.not_mem_nil
  | cons hfirst _ ih => exact List.forall_mem_cons.mpr ⟨hfirst.utf8, ih⟩

/-- **One event for each draft** is emitted exactly when all of them can be serialised. -/
theorem forall₂_emitUntilThrow_iff :
    List.Forall₂ (Emits lib) drafts (emitUntilThrow lib clock made drafts) ↔
      ∀ draft ∈ drafts, draft.attributes.utf8 = true :=
  ⟨utf8_of_forall₂, forall₂_emitUntilThrow⟩

theorem length_emitUntilThrow_le :
    (emitUntilThrow lib clock made drafts).length ≤ drafts.length := by
  induction drafts generalizing made with
  | nil => exact le_rfl
  | cons draft rest ih =>
    rw [emitUntilThrow]
    cases draft.emit lib (clock made) with
    | error exn => exact Nat.zero_le _
    | ok event => exact Nat.succ_le_succ ih

/-- A draft that throws takes all later ones with it. -/
theorem emitUntilThrow_append {rest : List EventDraft} (h : draft.attributes.utf8 = false) :
    emitUntilThrow lib clock made (drafts ++ draft :: rest)
      = emitUntilThrow lib clock made drafts := by
  induction drafts generalizing made with
  | nil =>
    have hisOk := @emit_isOk lib draft (clock made)
    rw [h] at hisOk
    rw [List.nil_append]
    cases hemit : draft.emit lib (clock made) with
    | error exn => simp only [emitUntilThrow, hemit]
    | ok event =>
      rw [hemit] at hisOk
      cases hisOk
  | cons first later ih =>
    rw [List.cons_append, emitUntilThrow, emitUntilThrow]
    cases first.emit lib (clock made) with
    | error exn => rfl
    | ok event =>
      dsimp only
      rw [ih]

/-- A draft too many goes unnoticed only when it throws and nothing follows. -/
theorem forall₂_emitUntilThrow_insert_iff {rest : List EventDraft} :
    List.Forall₂ (Emits lib) (drafts ++ rest)
        (emitUntilThrow lib clock made (drafts ++ draft :: rest)) ↔
      (∀ draft ∈ drafts, draft.attributes.utf8 = true) ∧
        draft.attributes.utf8 = false ∧ rest = [] := by
  constructor
  · intro h
    have hlength := h.length_eq
    obtain ⟨hdrafts, hrest⟩ := List.forall_mem_append.mp (utf8_of_forall₂ h)
    cases hdraft : draft.attributes.utf8 with
    | true =>
      have hall : ∀ d ∈ drafts ++ draft :: rest, d.attributes.utf8 = true :=
        List.forall_mem_append.mpr ⟨hdrafts, List.forall_mem_cons.mpr ⟨hdraft, hrest⟩⟩
      have hemitted := (@forall₂_emitUntilThrow lib clock _ made hall).length_eq
      rw [← hlength, List.length_append, List.length_append, List.length_cons] at hemitted
      omega
    | false =>
      have hle := @length_emitUntilThrow_le lib clock drafts made
      rw [emitUntilThrow_append hdraft, List.length_append] at hlength
      exact ⟨hdrafts, rfl, List.length_eq_zero_iff.mp (by omega)⟩
  · rintro ⟨hdrafts, hdraft, rfl⟩
    rw [emitUntilThrow_append hdraft, List.append_nil]
    exact forall₂_emitUntilThrow hdrafts

/-- Every event has its draft. -/
theorem exists_draft_of_mem (h : List.Forall₂ (Emits lib) drafts events) (hevent : event ∈ events) :
    ∃ draft ∈ drafts, Emits lib draft event := by
  induction h with
  | nil => exact absurd hevent List.not_mem_nil
  | cons hfirst _ ih =>
    rcases List.mem_cons.mp hevent with rfl | hevent
    · exact ⟨_, List.mem_cons_self, hfirst⟩
    · obtain ⟨draft, hmem, hemits⟩ := ih hevent
      exact ⟨draft, List.mem_cons_of_mem _ hmem, hemits⟩

/-- A property of the events that can be read off the drafts. -/
theorem exists_emitted_iff {P : ObservationEvent → Prop} {Q : EventDraft → Prop}
    (h : List.Forall₂ (Emits lib) drafts events)
    (hPQ : ∀ draft event, Emits lib draft event → (P event ↔ Q draft)) :
    (∃ event ∈ events, P event) ↔ ∃ draft ∈ drafts, Q draft := by
  induction h with
  | nil => simp
  | cons hfirst _ ih => simp only [List.exists_mem_cons_iff, ih, hPQ _ _ hfirst]

end Emission

end EventDraft

end Holonight
