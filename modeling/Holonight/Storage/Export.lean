import Holonight.Base.JsonRoundTrip
import Holonight.Storage.ObservationJson
import Holonight.Storage.Query

/-!
# Exports (`EventStore::exportToJsonl`)

An export writes the events of a query, one JSON text a line, to a temporary file next to
its destination and renames it over the destination. The system's part is an argument
(`ExportOutcome`): each file operation may fail, and two of them throw when they do
(`create_directories` and `remove`).

Three properties of the whole:

- `export_all_or_nothing_iff`: an export that does not return a count leaves the destination
  and no temporary file, except where an exception escapes;
- `query_complete_iff`: the row loop of a query ends at any result of `sqlite3_step` that is
  not a row, so an error in the middle of the answer looks like its end;
- `export_rereads_query`: reading the lines back gives the events of the query.
-/

namespace Holonight

namespace EventStore

open ObservationEvent

/-! ## The export -/

/-- The destination of an export and its temporary file, with their contents. -/
structure Files where
  dest : Option Bytes
  tmp : Option Bytes
  deriving DecidableEq

/-- The system's part in an export. -/
structure ExportOutcome where
  query : QueryOutcome := {}
  /-- `create_directories` succeeds; otherwise it throws. -/
  directories : Bool := true
  opened : Bool := true
  /-- The stream is good after the `i`-th event is written. -/
  write : ℕ → Bool := fun _ => true
  /-- What of the text has reached a file that was not written to its end. -/
  flushed : Bytes → Bytes := fun text => text
  closed : Bool := true
  /-- The message of the error of `rename`. -/
  rename : Option Bytes := none
  /-- `remove` succeeds; otherwise it throws. -/
  removed : Bool := true

/-- How a call of `exportToJsonl` ends. -/
inductive ExportResult where
  | count (n : ℕ)
  | error (msg : Bytes)
  | threw
  deriving DecidableEq

/-- How the loop over the events ends, with the text written so far. -/
inductive WriteEnd where
  | written (text : Bytes)
  | failed (text : Bytes)
  | threw (text : Bytes)

/-- `has_parent_path()` of a POSIX path. -/
def hasParentPath (path : Bytes) : Bool := path.contains 47

def tmpPath (destPath : Bytes) : Bytes := destPath ++ Bytes.ofString ".tmp"

section Model

variable {lib : CppLib} (J : JsonLibrary lib)

/-- The loop over the events (EventStore.cpp:533–541), from the `i`-th one. -/
def writeEvents (write : ℕ → Bool) : ℕ → Bytes → List ObservationEvent → WriteEnd
  | _, text, [] => .written text
  | i, text, event :: rest =>
    match toJson J event with
    -- the exception leaves the function; the stream is closed on the way
    | .error _ => .threw text
    | .ok line =>
      if write i then writeEvents write (i + 1) (text ++ line ++ [10]) rest
      else .failed (text ++ line ++ [10])

/-- `std::filesystem::remove(tmp_path)` and the error that is returned after it. -/
def removeTmp (o : ExportOutcome) (files : Files) (msg : Bytes) : Files × ExportResult :=
  if o.removed then ({ files with tmp := none }, .error msg) else (files, .threw)

/-- What follows the loop (EventStore.cpp:543–559), and the two ways out of it. -/
def finishExport (destPath : Bytes) (o : ExportOutcome) (exported : ℕ) (files : Files) :
    WriteEnd → Files × ExportResult
  | .threw text => ({ files with tmp := some (o.flushed text) }, .threw)
  | .failed text =>
    removeTmp o { files with tmp := some (o.flushed text) }
      (Bytes.ofString "Failed writing event JSON to " ++ tmpPath destPath)
  | .written text =>
    if o.closed = false then
      removeTmp o { files with tmp := some (o.flushed text) }
        (Bytes.ofString "Failed closing temporary export file " ++ tmpPath destPath)
    else
      match o.rename with
      | none => (⟨some text, none⟩, .count exported)
      | some msg =>
        removeTmp o { files with tmp := some text }
          (Bytes.ofString "Failed atomic rename to destination file " ++ destPath
            ++ Bytes.ofString ": " ++ msg)

/-- `EventStore::exportToJsonl` (EventStore.cpp:516–560). -/
def exportToJsonl (order : OrderBy Row) (db : Db) (destPath : Bytes) (filter : EventQuery)
    (o : ExportOutcome) (files : Files) : Files × ExportResult :=
  match EventStore.query lib order db filter o.query with
  | .error msg => (files, .error msg)
  | .ok events =>
    if hasParentPath destPath = true ∧ o.directories = false then (files, .threw)
    else if o.opened = false then
      (files, .error (Bytes.ofString "Failed to open temporary file for export: "
        ++ tmpPath destPath))
    else finishExport destPath o events.length files (writeEvents J o.write 0 [] events)

end Model

/-! ## The loop over the events -/

/-- Every event that the loop reaches, up to the first write that fails, has UTF-8 texts. -/
def ReachedUtf8 (write : ℕ → Bool) (i : ℕ) (events : List ObservationEvent) : Prop :=
  ∀ k (hk : k < events.length), (∀ j < k, write (i + j) = true) → utf8Texts events[k] = true

theorem reachedUtf8_cons {write : ℕ → Bool} {i : ℕ} {event : ObservationEvent}
    {rest : List ObservationEvent} :
    ReachedUtf8 write i (event :: rest)
      ↔ utf8Texts event = true ∧ (write i = true → ReachedUtf8 write (i + 1) rest) := by
  constructor
  · intro h
    refine ⟨h 0 (Nat.succ_pos _) (by simp), fun hwrite k hk hbefore => ?_⟩
    refine h (k + 1) (Nat.succ_lt_succ hk) fun j hj => ?_
    cases j with
    | zero => exact hwrite
    | succ j =>
      have hj' := hbefore j (by omega)
      rwa [Nat.add_right_comm, Nat.add_assoc] at hj'
  · rintro ⟨hevent, hrest⟩ k hk hbefore
    cases k with
    | zero => exact hevent
    | succ k =>
      refine hrest (hbefore 0 (by omega)) k (Nat.lt_of_succ_lt_succ hk) fun j hj => ?_
      have hj' := hbefore (j + 1) (by omega)
      rwa [Nat.add_right_comm, Nat.add_assoc]

section Loop

variable {lib : CppLib}

/-- What each end of the loop tells: the text of every event with a newline after it was written,
or a write failed, or an event has no JSON text. -/
def WriteEnd.Tells (J : JsonLibrary lib) (write : ℕ → Bool) (i : ℕ) (text : Bytes)
    (events : List ObservationEvent) : WriteEnd → Prop
  | .written content =>
    ReachedUtf8 write i events ∧ (∀ k < events.length, write (i + k) = true) ∧
      ∃ texts : List Bytes, texts.map Except.ok = events.map (toJson J) ∧
        content = text ++ texts.flatMap fun text => text ++ [10]
  | .failed _ => ReachedUtf8 write i events ∧ ∃ k < events.length, write (i + k) = false
  | .threw _ => ¬ ReachedUtf8 write i events

variable {J : JsonLibrary lib} {write : ℕ → Bool}

/-- One event that is written. -/
theorem WriteEnd.Tells.cons {i : ℕ} {text line : Bytes} {event : ObservationEvent}
    {rest : List ObservationEvent} {ending : WriteEnd} (hline : toJson J event = .ok line)
    (hutf8 : utf8Texts event = true) (hwrite : write i = true)
    (h : ending.Tells J write (i + 1) (text ++ line ++ [10]) rest) :
    ending.Tells J write i text (event :: rest) := by
  have hreached : ReachedUtf8 write i (event :: rest) ↔ ReachedUtf8 write (i + 1) rest := by
    rw [reachedUtf8_cons]
    exact ⟨fun h => h.2 hwrite, fun h => ⟨hutf8, fun _ => h⟩⟩
  have hshift : ∀ k, write (i + 1 + k) = write (i + (k + 1)) := fun k => by
    rw [Nat.add_right_comm, Nat.add_assoc]
  cases ending with
  | written content =>
    obtain ⟨hrest, hwrites, texts, htexts, rfl⟩ := h
    refine ⟨hreached.mpr hrest, fun k hk => ?_, line :: texts, ?_, ?_⟩
    · cases k with
      | zero => exact hwrite
      | succ k => exact hshift k ▸ hwrites k (Nat.lt_of_succ_lt_succ hk)
    · rw [List.map_cons, List.map_cons, htexts, hline]
    · rw [List.flatMap_cons, List.append_assoc, List.append_assoc, List.append_assoc]
  | failed content =>
    obtain ⟨hrest, k, hk, hfail⟩ := h
    exact ⟨hreached.mpr hrest, k + 1, Nat.succ_lt_succ hk, hshift k ▸ hfail⟩
  | threw content => exact fun hall => h (hreached.mp hall)

/-- **The end of the loop tells what it did**, by induction on the events. -/
theorem writeEvents_tells (i : ℕ) (text : Bytes) (events : List ObservationEvent) :
    (writeEvents J write i text events).Tells J write i text events := by
  induction events generalizing i text with
  | nil =>
    exact ⟨fun k hk => absurd hk (Nat.not_lt_zero k), fun k hk => absurd hk (Nat.not_lt_zero k),
      [], rfl, (List.append_nil text).symm⟩
  | cons event rest ih =>
    by_cases hutf8 : utf8Texts event = true
    · obtain ⟨line, hline⟩ := toJson_eq_ok (J := J) hutf8
      rw [writeEvents, hline]
      by_cases hwrite : write i = true
      · simp only [hwrite, if_true]
        exact .cons hline hutf8 hwrite (ih _ _)
      · simp only [hwrite]
        refine ⟨reachedUtf8_cons.mpr ⟨hutf8, fun h => absurd h hwrite⟩, 0, Nat.succ_pos _, ?_⟩
        exact Bool.eq_false_iff.mpr hwrite
    · have hthrow := toJson_eq_error (J := J) (Bool.eq_false_iff.mpr hutf8)
      rw [writeEvents, hthrow]
      exact fun h => hutf8 (reachedUtf8_cons.mp h).1

/-- The texts of the events are the lines of what was written. -/
theorem lines_written {texts : List Bytes} {events : List ObservationEvent}
    (h : texts.map Except.ok = events.map (toJson J)) :
    Bytes.lines (texts.flatMap fun text => text ++ [10]) = texts := by
  refine Bytes.lines_flatMap fun text htext => ?_
  have hmem : Except.ok text ∈ events.map (toJson J) := h ▸ List.mem_map_of_mem htext
  obtain ⟨event, -, hevent⟩ := List.mem_map.mp hmem
  exact not_mem_toJson hevent

/-- What an export that returned a count has written. -/
def Holds (J : JsonLibrary lib) (events : List ObservationEvent) (n : ℕ) (dest : Option Bytes) :
    Prop :=
  ∃ content, dest = some content ∧ content.lines.map Except.ok = events.map (toJson J) ∧
    n = content.lines.length

theorem holds_written {events : List ObservationEvent} {texts : List Bytes}
    (h : texts.map Except.ok = events.map (toJson J)) :
    Holds J events events.length (some (texts.flatMap fun text => text ++ [10])) := by
  have hlines := lines_written h
  have hlength : texts.length = events.length := by simpa using congrArg List.length h
  exact ⟨_, rfl, hlines.symm ▸ h, by rw [hlines, hlength]⟩

theorem removeTmp_ne_count {o : ExportOutcome} {files after : Files} {msg : Bytes} {n : ℕ} :
    removeTmp o files msg ≠ (after, .count n) := by
  unfold removeTmp
  split
  · intro h
    cases h
  · intro h
    cases h

theorem finishExport_eq_count {destPath : Bytes} {o : ExportOutcome}
    {events : List ObservationEvent} {before after : Files} {ending : WriteEnd} {n : ℕ}
    (htells : ending.Tells J o.write 0 [] events)
    (h : finishExport destPath o events.length before ending = (after, .count n)) :
    Holds J events n after.dest := by
  cases ending with
  | threw text => cases h
  | failed text => exact absurd h removeTmp_ne_count
  | written text =>
    obtain ⟨-, -, texts, htexts, rfl⟩ := htells
    rw [finishExport] at h
    split at h
    · exact absurd h removeTmp_ne_count
    · split at h
      · cases h
        exact holds_written htexts
      · exact absurd h removeTmp_ne_count

/-- **A count is returned only when the destination holds the events of the query.** -/
theorem exportToJsonl_eq_count {order : OrderBy Row} {db : Db} {destPath : Bytes}
    {filter : EventQuery} {o : ExportOutcome} {before after : Files} {n : ℕ}
    (h : exportToJsonl J order db destPath filter o before = (after, .count n)) :
    ∃ events, EventStore.query lib order db filter o.query = .ok events ∧
      Holds J events n after.dest := by
  unfold exportToJsonl at h
  split at h
  · cases h
  · rename_i events hquery
    refine ⟨events, hquery, ?_⟩
    split at h
    · cases h
    · split at h
      · cases h
      · exact finishExport_eq_count (writeEvents_tells 0 [] events) h

end Loop

/-! ## All or nothing -/

section AllOrNothing

variable {lib : CppLib} (J : JsonLibrary lib)

/-- An export is all or nothing: it returns a count, and the destination has one line for each
event of the query, or it returns an error, and the destination is as before and there is no
temporary file. -/
def AllOrNothing (events : Except Bytes (List ObservationEvent)) (before : Files) :
    Files × ExportResult → Prop
  | (after, .count n) => ∃ list, events = .ok list ∧ Holds J list n after.dest
  | (after, .error _) => after.dest = before.dest ∧ after.tmp = none
  | (_, .threw) => False

/-- Some step of the export after the file was opened fails. -/
def StepFails (o : ExportOutcome) (events : List ObservationEvent) : Prop :=
  (∃ i < events.length, o.write i = false) ∨ o.closed = false ∨ o.rename ≠ none

/-- No exception escapes, and no temporary file of an earlier export is in the way of one that
does not get to write its own. -/
def Contained (events : Except Bytes (List ObservationEvent)) (destPath : Bytes)
    (o : ExportOutcome) (before : Files) : Prop :=
  match events with
  | .error _ => before.tmp = none
  | .ok events =>
    (hasParentPath destPath = true → o.directories = true) ∧
    (o.opened = false → before.tmp = none) ∧
    (o.opened = true →
      ReachedUtf8 o.write 0 events ∧ (StepFails o events → o.removed = true))

variable {J}

/-- A failed step leaves nothing exactly when the temporary file can be removed. -/
theorem allOrNothing_removeTmp {events : Except Bytes (List ObservationEvent)} {o : ExportOutcome}
    {before : Files} {tmp : Option Bytes} {msg : Bytes} :
    AllOrNothing J events before (removeTmp o { before with tmp := tmp } msg)
      ↔ o.removed = true := by
  unfold removeTmp
  split
  · rename_i hremoved
    exact ⟨fun _ => hremoved, fun _ => ⟨rfl, rfl⟩⟩
  · rename_i hremoved
    exact ⟨False.elim, fun h => absurd h hremoved⟩

theorem allOrNothing_finishExport {destPath : Bytes} {o : ExportOutcome}
    {events : List ObservationEvent} {before : Files} {ending : WriteEnd}
    (h : ending.Tells J o.write 0 [] events) :
    AllOrNothing J (.ok events) before (finishExport destPath o events.length before ending)
      ↔ ReachedUtf8 o.write 0 events ∧ (StepFails o events → o.removed = true) := by
  cases ending with
  | threw text => exact ⟨False.elim, fun hcond => h hcond.1⟩
  | failed text =>
    obtain ⟨hreached, i, hi, hwrite⟩ := h
    rw [Nat.zero_add] at hwrite
    have hfails : StepFails o events := Or.inl ⟨i, hi, hwrite⟩
    rw [finishExport, allOrNothing_removeTmp]
    exact ⟨fun hremoved => ⟨hreached, fun _ => hremoved⟩, fun hcond => hcond.2 hfails⟩
  | written text =>
    obtain ⟨hreached, hwrites, texts, htexts, rfl⟩ := h
    rw [List.nil_append]
    by_cases hclosed : o.closed = false
    · have hfails : StepFails o events := Or.inr (Or.inl hclosed)
      rw [finishExport, if_pos hclosed, allOrNothing_removeTmp]
      exact ⟨fun hremoved => ⟨hreached, fun _ => hremoved⟩, fun hcond => hcond.2 hfails⟩
    · rw [finishExport, if_neg hclosed]
      cases hrename : o.rename with
      | some msg =>
        have hfails : StepFails o events := Or.inr (Or.inr (by rw [hrename]; simp))
        rw [allOrNothing_removeTmp]
        exact ⟨fun hremoved => ⟨hreached, fun _ => hremoved⟩, fun hcond => hcond.2 hfails⟩
      | none =>
        have hnofail : ¬ StepFails o events := by
          rintro (⟨i, hi, hwrite⟩ | hclose | hren)
          · have hgood := hwrites i hi
            rw [Nat.zero_add, hwrite] at hgood
            cases hgood
          · exact hclosed hclose
          · exact hren hrename
        exact ⟨fun _ => ⟨hreached, fun hfails => absurd hfails hnofail⟩, fun _ =>
          ⟨events, rfl, holds_written htexts⟩⟩

/-- **An export is all or nothing exactly when no exception escapes from it**, for every store,
filter and outcome of the file operations. -/
theorem export_all_or_nothing_iff (order : OrderBy Row) (db : Db) (destPath : Bytes)
    (filter : EventQuery) (o : ExportOutcome) (before : Files) :
    AllOrNothing J (EventStore.query lib order db filter o.query) before
        (exportToJsonl J order db destPath filter o before)
      ↔ Contained (EventStore.query lib order db filter o.query) destPath o before := by
  unfold exportToJsonl Contained
  cases hquery : EventStore.query lib order db filter o.query with
  | error msg =>
    exact ⟨fun h => h.2, fun h => ⟨rfl, h⟩⟩
  | ok events =>
    simp only
    by_cases hdirs : hasParentPath destPath = true ∧ o.directories = false
    · rw [if_pos hdirs]
      refine ⟨False.elim, fun h => ?_⟩
      have hcreated := h.1 hdirs.1
      rw [hdirs.2] at hcreated
      cases hcreated
    · rw [if_neg hdirs]
      have hcreated : hasParentPath destPath = true → o.directories = true := fun hparent =>
        Bool.eq_true_of_not_eq_false fun hthrow => hdirs ⟨hparent, hthrow⟩
      cases hopened : o.opened with
      | false =>
        rw [if_pos rfl]
        exact ⟨fun h => ⟨hcreated, fun _ => h.2, by simp⟩, fun h => ⟨rfl, h.2.1 rfl⟩⟩
      | true =>
        rw [if_neg (by simp), allOrNothing_finishExport (writeEvents_tells 0 [] events)]
        exact ⟨fun h => ⟨hcreated, (by simp), fun _ => h⟩, fun h => h.2.2 rfl⟩

/-- Without criteria the only row of a table is the answer. -/
theorem query_singleton (order : OrderBy Row) {db : Db} {row : Row} (h : db.view.rows = [row]) :
    EventStore.query lib order db {} {} = .ok [parseRow lib row] := by
  have hmatching : matchingRows {} db.view = [row] := by
    rw [matchingRows, h]
    rfl
  have hperm : (selectRows order {} db.view).Perm (matchingRows {} db.view) :=
    selectRows_perm order (by simp)
  rw [hmatching, List.perm_singleton] at hperm
  show Except.ok ((selectRows order {} db.view).map (parseRow lib)) = _
  rw [hperm]
  rfl

/-- A store with one row. -/
def oneRow (data : RowData) : Db := ⟨Table.empty.insertRow data, none⟩

/-- A row whose source is not UTF-8: the exception leaves the temporary file behind. -/
theorem unreadable_text_escapes :
    exportToJsonl .integral .stable (oneRow { plainRow 1 "info" with source := [0xFF] })
        "out.jsonl" {} {} ⟨some "old", none⟩ = (⟨some "old", some []⟩, .threw) ∧
      ¬ AllOrNothing .integral
        (EventStore.query .integral .stable
          (oneRow { plainRow 1 "info" with source := [0xFF] }) {} {}) ⟨some "old", none⟩
        (exportToJsonl .integral .stable (oneRow { plainRow 1 "info" with source := [0xFF] })
          "out.jsonl" {} {} ⟨some "old", none⟩) := by
  have hexport : exportToJsonl .integral .stable
      (oneRow { plainRow 1 "info" with source := [0xFF] }) "out.jsonl" {} {} ⟨some "old", none⟩
        = (⟨some "old", some []⟩, .threw) := by
    rw [exportToJsonl, query_singleton .stable rfl]
    simp only
    rw [writeEvents, toJson_eq_error (by decide)]
    rfl
  exact ⟨hexport, by rw [hexport]; exact id⟩

end AllOrNothing

/-! ## The row loop -/

/-- What the last `sqlite3_step` of the row loop returned. -/
inductive LoopEnd where
  | done
  | error
  deriving DecidableEq

/-- The row loop (EventStore.cpp:392–395) over the rows of the statement, with the number of steps
that are left until one returns an error: the rows that were read, and why the loop ended. -/
def rowLoop : List Row → Option ℕ → List Row × LoopEnd
  | _, some 0 => ([], .error)
  | [], _ => ([], .done)
  | row :: rest, stop =>
    let tail := rowLoop rest (stop.map fun n => n - 1)
    (row :: tail.1, tail.2)

theorem rowLoop_none (rows : List Row) : rowLoop rows none = (rows, .done) := by
  induction rows with
  | nil => rfl
  | cons row rest ih => rw [rowLoop, Option.map_none, ih]; simp

/-- An error after the last row comes too late; one before it cuts the answer. -/
theorem rowLoop_some (rows : List Row) (n : ℕ) :
    rowLoop rows (some n) = (rows.take n, if rows.length < n then .done else .error) := by
  induction rows generalizing n with
  | nil =>
    cases n with
    | zero => rfl
    | succ n => rw [rowLoop] <;> simp
  | cons row rest ih =>
    cases n with
    | zero => rfl
    | succ n =>
      rw [rowLoop, Option.map_some, Nat.add_sub_cancel, ih]
      · simp
      · simp

theorem rowLoop_complete {rows : List Row} {stop : Option ℕ} (h : ∀ n ∈ stop, rows.length < n) :
    rowLoop rows stop = (rows, .done) := by
  cases stop with
  | none => exact rowLoop_none rows
  | some n =>
    have hlate := h n rfl
    rw [rowLoop_some, if_pos hlate, List.take_of_length_le hlate.le]

theorem mem_of_mem_rowLoop {rows : List Row} {stop : Option ℕ} {row : Row}
    (h : row ∈ (rowLoop rows stop).1) : row ∈ rows := by
  cases stop with
  | none => rwa [rowLoop_none] at h
  | some n =>
    rw [rowLoop_some] at h
    exact List.mem_of_mem_take h

section Complete

variable {lib : CppLib} (J : JsonLibrary lib)

/-- The value of `query` is what its row loop read. -/
theorem query_eq_rowLoop (order : OrderBy Row) (db : Db) (filter : EventQuery) {o : QueryOutcome}
    (h : o.prepare = none) : EventStore.query lib order db filter o
      = .ok ((rowLoop (selectRows order filter db.view) o.stopAfter).1.map (parseRow lib)) := by
  unfold EventStore.query
  rw [h]
  cases hstop : o.stopAfter with
  | none => rw [rowLoop_none]
  | some n => rw [rowLoop_some]

/-- A successful query is a complete one, and an export of it replaces the destination by a file
with all selected events. -/
def Complete (order : OrderBy Row) (db : Db) (filter : EventQuery) (qo : QueryOutcome) : Prop :=
  (∀ events, EventStore.query lib order db filter qo = .ok events →
    (rowLoop (selectRows order filter db.view) qo.stopAfter).2 = .done ∧
      events = (selectRows order filter db.view).map (parseRow lib)) ∧
  ∀ destPath o before after n, o.query = qo →
    exportToJsonl J order db destPath filter o before = (after, .count n) →
      ∃ content, after.dest = some content ∧ content.lines.map Except.ok
        = (selectRows order filter db.view).map fun row => toJson J (parseRow lib row)

variable {J}

/-- **A query that returns a value is complete exactly when no step of its row loop fails**, the
one that should report the end included; and so is the file of an export. -/
theorem query_complete_iff (order : OrderBy Row) (db : Db) (filter : EventQuery)
    (qo : QueryOutcome) :
    Complete J order db filter qo
      ↔ qo.prepare ≠ none ∨
        ∀ n ∈ qo.stopAfter, (selectRows order filter db.view).length < n := by
  constructor
  · rintro ⟨hquery, -⟩
    by_cases hprepare : qo.prepare = none
    · have hdone := (hquery _ (query_eq_rowLoop order db filter hprepare)).1
      refine Or.inr fun n hn => ?_
      rw [hn, rowLoop_some] at hdone
      by_contra hlate
      rw [if_neg hlate] at hdone
      cases hdone
    · exact Or.inl hprepare
  · intro hcond
    have hvalue : ∀ events, EventStore.query lib order db filter qo = .ok events →
        (rowLoop (selectRows order filter db.view) qo.stopAfter).2 = .done ∧
          events = (selectRows order filter db.view).map (parseRow lib) := by
      intro events hquery
      by_cases hprepare : qo.prepare = none
      · have hsteps := rowLoop_complete (hcond.resolve_left (not_not.mpr hprepare))
        rw [query_eq_rowLoop order db filter hprepare, hsteps] at hquery
        cases hquery
        exact ⟨congrArg Prod.snd hsteps, rfl⟩
      · obtain ⟨msg, hmsg⟩ := Option.ne_none_iff_exists'.mp hprepare
        rw [EventStore.query, hmsg] at hquery
        cases hquery
    refine ⟨hvalue, fun destPath o before after n ho hexport => ?_⟩
    obtain ⟨events, hquery, content, hdest, hlines, -⟩ := exportToJsonl_eq_count hexport
    rw [ho] at hquery
    refine ⟨content, hdest, hlines.trans ?_⟩
    rw [(hvalue events hquery).2, List.map_map]
    rfl

/-- A step that fails before the first row: the query returns no events, and an export of it
replaces the destination by an empty file. -/
theorem failed_step_empties_export :
    EventStore.query .integral .stable (oneRow (plainRow 1 "info")) {} { stopAfter := some 0 }
        = .ok [] ∧
      exportToJsonl .integral .stable (oneRow (plainRow 1 "info")) "out.jsonl" {}
          { query := { stopAfter := some 0 } } ⟨some "old", none⟩ = (⟨some [], none⟩, .count 0) ∧
      ¬ Complete .integral .stable (oneRow (plainRow 1 "info")) {} { stopAfter := some 0 } := by
  have hquery : EventStore.query .integral .stable (oneRow (plainRow 1 "info")) {}
      { stopAfter := some 0 } = .ok [] := rfl
  refine ⟨hquery, rfl, fun hcomplete => ?_⟩
  have hdone : (rowLoop _ (some 0)).2 = LoopEnd.done := (hcomplete.1 [] hquery).1
  rw [rowLoop_some, if_neg (Nat.not_lt_zero _)] at hdone
  cases hdone

end Complete

/-! ## Reading an export back -/

/-- The text columns of a row are valid UTF-8. -/
def TextColumnsUtf8 (row : Row) : Prop :=
  ∀ text ∈ [row.source, row.category, row.subject, row.signal, row.valueType,
    row.valueText.getD [], row.severity, row.attributesJson], validUtf8 text = true

instance : DecidablePred TextColumnsUtf8 := fun _ =>
  inferInstanceAs (Decidable (∀ _ ∈ _, _))

section Reread

variable {lib : CppLib} {J : JsonLibrary lib} {row : Row}

theorem utf8Texts_parseRow (h : TextColumnsUtf8 row) : utf8Texts (parseRow lib row) = true := by
  have hcolumn : ∀ text ∈ [row.source, row.category, row.subject, row.signal, row.valueType,
      row.valueText.getD [], row.severity, row.attributesJson], validUtf8 (cString text) = true :=
    fun text htext => validUtf8_beforeNul (h text htext)
  have hvalue : (valueJson (parseRow lib row).value).utf8 = true := by
    show (valueJson (parseValuePayload lib _ _)).utf8 = true
    unfold parseValuePayload
    split_ifs
    · rfl
    · rfl
    · rfl
    · exact hcolumn (row.valueText.getD []) (by simp)
    · rfl
  unfold utf8Texts
  rw [hvalue, Bool.and_true, Bool.and_eq_true, Bool.and_eq_true, Bool.and_eq_true]
  exact ⟨⟨⟨hcolumn row.source (by simp), hcolumn row.category (by simp)⟩,
    hcolumn row.subject (by simp)⟩, hcolumn row.signal (by simp)⟩

/-- What `parseRow` reads is a value of the variant. -/
theorem portableValue_parseRow : PortableValue J (parseRow lib row).value := by
  show PortableValue J (parseValuePayload lib _ _)
  unfold parseValuePayload
  split_ifs
  · trivial
  · exact inInt64_stoll _
  · cases hstod : lib.stod (readColumnString row.valueText) with
    | none => exact J.isDouble_zero
    | some d =>
      cases d with
      | finite q => exact J.isDouble_stod hstod
      | posInf => trivial
      | negInf => trivial
      | nan => trivial
  · trivial
  · trivial

/-- The attributes of the row are a JSON object, as `parseRow` reads them: an empty text counts as
an empty object. -/
def AttributesObject (J : JsonLibrary lib) (row : Row) : Prop :=
  ∃ fields, J.parse (parseRow lib row).attributesJson = .ok (.obj fields)

theorem attributesJson_parseRow_ne_nil : (parseRow lib row).attributesJson ≠ [] := by
  unfold parseRow
  simp only
  split
  · decide
  · assumption

theorem portable_parseRow (hid : InInt64 row.id) (htime : InInt64 (row.timestampUs * 1000))
    (htexts : TextColumnsUtf8 row) (hattributes : AttributesObject J row) :
    Portable J (parseRow lib row) where
  texts := utf8Texts_parseRow htexts
  id := hid
  micros := by
    show toMicros (row.timestampUs * 1000) * 1000 = row.timestampUs * 1000
    rw [toMicros, Int.mul_tdiv_cancel _ (by decide)]
  timestamp := htime
  value := portableValue_parseRow
  attributes := by
    obtain ⟨fields, hparse⟩ := hattributes
    exact ⟨fields, by rw [attributesOf, if_neg attributesJson_parseRow_ne_nil, hparse]⟩

/-- The event that a line of the export is read as. -/
def canonicalEvent (J : JsonLibrary lib) (event : ObservationEvent) : ObservationEvent :=
  { event with attributesJson := canonicalAttributes J event.attributesJson }

/-- Reading the lines of an export that returned a count gives the events of the query, with the
attributes in the library's spelling, and the count is the number of lines. -/
def RereadsQuery (J : JsonLibrary lib) (overflow : ℤ → ℤ) (now : TimePoint)
    (events : Except Bytes (List ObservationEvent)) (after : Files) (n : ℕ) : Prop :=
  ∃ list content, events = .ok list ∧ after.dest = some content ∧
    content.lines.map (fromJson J overflow now) = list.map (fun e => .ok (canonicalEvent J e)) ∧
    n = content.lines.length

theorem mem_of_mem_selectRows {order : OrderBy Row} {filter : EventQuery} {t : Table}
    (h : row ∈ selectRows order filter t) : row ∈ t.rows := by
  have hlimit : ∀ {rows : List Row}, row ∈ applyLimit filter.limit rows → row ∈ rows := by
    intro rows hrow
    unfold applyLimit at hrow
    split at hrow
    · exact hrow
    · simp only at hrow
      split at hrow
      · exact hrow
      · exact List.mem_of_mem_take hrow
  have hsorted := (order.perm newerFirst (matchingRows filter t)).mem_iff.mp (hlimit h)
  exact List.mem_of_mem_filter hsorted

/-- The events of a query are rows of the table. -/
theorem mem_of_mem_query {order : OrderBy Row} {db : Db} {filter : EventQuery} {o : QueryOutcome}
    {events : List ObservationEvent} (h : EventStore.query lib order db filter o = .ok events)
    {event : ObservationEvent} (hevent : event ∈ events) :
    ∃ row ∈ db.view.rows, event = parseRow lib row := by
  by_cases hprepare : o.prepare = none
  · rw [query_eq_rowLoop order db filter hprepare] at h
    cases h
    obtain ⟨row, hrow, rfl⟩ := List.mem_map.mp hevent
    exact ⟨row, mem_of_mem_selectRows (mem_of_mem_rowLoop hrow), rfl⟩
  · obtain ⟨msg, hmsg⟩ := Option.ne_none_iff_exists'.mp hprepare
    rw [EventStore.query, hmsg] at h
    cases h

theorem map_fromJson_lines {overflow : ℤ → ℤ} {now : TimePoint} {texts : List Bytes}
    {events : List ObservationEvent} (htexts : texts.map Except.ok = events.map (toJson J))
    (hevents : ∀ event ∈ events, Portable J event ∧ rereadValue event.value = event.value) :
    texts.map (fromJson J overflow now) = events.map fun e => .ok (canonicalEvent J e) := by
  induction events generalizing texts with
  | nil =>
    rw [List.map_nil, List.map_eq_nil_iff] at htexts
    rw [htexts]
    rfl
  | cons event events ih =>
    cases texts with
    | nil => cases htexts
    | cons text texts =>
      rw [List.forall_mem_cons] at hevents
      rw [List.map_cons, List.map_cons, List.cons.injEq] at htexts
      rw [List.map_cons, List.map_cons, ih htexts.2 hevents.2,
        fromJson_toJson hevents.1.1 overflow now htexts.1.symm, hevents.1.2]
      rfl

/-- **An export reads back as the query it was made from**, for every store whose texts are UTF-8
and whose attributes are JSON objects, as far as JSON can carry its values: finite doubles, and
times the clock can represent. -/
theorem export_rereads_query (J : JsonLibrary lib) (overflow : ℤ → ℤ) (now : TimePoint)
    (order : OrderBy Row) (db : Db) (destPath : Bytes) (filter : EventQuery) (o : ExportOutcome)
    (before after : Files) (n : ℕ)
    (htexts : ∀ row ∈ db.view.rows, TextColumnsUtf8 row)
    (hattributes : ∀ row ∈ db.view.rows, AttributesObject J row)
    (hids : ∀ row ∈ db.view.rows, InInt64 row.id)
    (htimes : ∀ row ∈ db.view.rows, InInt64 (row.timestampUs * 1000))
    (hdoubles : ∀ row ∈ db.view.rows, ∀ d, (parseRow lib row).value = .double d →
      d.isFinite = true)
    (hexport : exportToJsonl J order db destPath filter o before = (after, .count n)) :
    RereadsQuery J overflow now (EventStore.query lib order db filter o.query) after n := by
  obtain ⟨events, hquery, content, hdest, hlines, hcount⟩ := exportToJsonl_eq_count hexport
  refine ⟨events, content, hquery, hdest, map_fromJson_lines hlines fun event hevent => ?_, hcount⟩
  obtain ⟨row, hrow, rfl⟩ := mem_of_mem_query hquery hevent
  exact ⟨portable_parseRow (hids row hrow) (htimes row hrow) (htexts row hrow)
    (hattributes row hrow), rereadValue_of_finite (hdoubles row hrow)⟩

/-- With nothing failing, an export of events with UTF-8 texts returns their number. -/
theorem exportToJsonl_clean {order : OrderBy Row} {db : Db} {filter : EventQuery}
    {events : List ObservationEvent} (destPath : Bytes) (before : Files)
    (hquery : EventStore.query lib order db filter {} = .ok events)
    (hutf8 : ∀ event ∈ events, utf8Texts event = true) :
    ∃ after, exportToJsonl J order db destPath filter {} before = (after, .count events.length) := by
  have htells := @writeEvents_tells _ J (fun _ => true) 0 [] events
  unfold exportToJsonl
  rw [hquery]
  simp only
  rw [if_neg (by simp), if_neg (by simp)]
  cases hending : writeEvents J (fun _ => true) 0 [] events with
  | written text => exact ⟨_, rfl⟩
  | failed text =>
    rw [hending] at htells
    obtain ⟨-, k, -, hk⟩ := htells
    cases hk
  | threw text =>
    rw [hending] at htells
    exact absurd (fun k hk _ => hutf8 _ (List.getElem_mem hk)) htells

end Reread

/-- The braces of an empty object parse as one. -/
theorem attributesObject_plain {lib : CppLib} (J : JsonLibrary lib) {row : Row}
    (h : row.attributesJson = []) : AttributesObject J row := by
  have hparse : J.parse "\x7b\x7d" = .ok (Json.reread (.obj [])) :=
    J.parse_dump ⟨List.Pairwise.nil, trivial⟩ rfl
  refine ⟨[], ?_⟩
  rw [parseRow, h]
  exact hparse

/-- A text with a newline, a quotation mark and a control character. -/
theorem export_rereads_query_newline :
    ∃ after, exportToJsonl .integral .stable
        (oneRow { plainRow 1 "info" with source := [97, 10, 34, 1] }) "out.jsonl" {} {} ⟨none, none⟩
          = (after, .count 1) ∧
      RereadsQuery .integral (fun n => n) 0
        (EventStore.query .integral .stable
          (oneRow { plainRow 1 "info" with source := [97, 10, 34, 1] }) {} {}) after 1 := by
  obtain ⟨after, hafter⟩ := exportToJsonl_clean (J := .integral) "out.jsonl" ⟨none, none⟩
    (query_singleton .stable (rfl : (oneRow
      { plainRow 1 "info" with source := [97, 10, 34, 1] }).view.rows = [_])) (by decide)
  refine ⟨after, hafter, export_rereads_query .integral _ _ _ _ "out.jsonl" _ _ ⟨none, none⟩ _ _
    (by decide) ?_ (by decide) (by decide) ?_ hafter⟩
  · intro row hrow
    rw [List.mem_singleton.mp hrow]
    exact attributesObject_plain _ rfl
  · intro row hrow d hd
    rw [List.mem_singleton.mp hrow] at hd
    cases hd

/-- The C++ library of `CppLib.integral` with the infinity that `std::stod` reads. -/
def infiniteLib : CppLib :=
  { CppLib.integral with
    stod := fun s => if s = "inf" then some .posInf else CppLib.integral.stod s }

/-- A row with an infinite value. -/
def infiniteRow : RowData :=
  { plainRow 1 "info" with valueType := "double", valueText := some "inf" }

def infiniteJson : JsonLibrary infiniteLib :=
  .ofIntegral infiniteLib rfl fun {s q} h => by
    have hread : (if s = "inf" then some Double.posInf else CppLib.integral.stod s)
        = some (.finite q) := h
    split at hread
    · cases hread
    · exact JsonLibrary.integral.isDouble_stod hread

/-- An infinity is exported as `null` and comes back as no value. -/
theorem infinite_value_lost :
    (∀ row ∈ (oneRow infiniteRow).view.rows,
      TextColumnsUtf8 row ∧ AttributesObject infiniteJson row) ∧
    ∃ after, exportToJsonl infiniteJson .stable (oneRow infiniteRow) "out.jsonl" {} {} ⟨none, none⟩
        = (after, .count 1) ∧
      ¬ RereadsQuery infiniteJson (fun n => n) 0
        (EventStore.query infiniteLib .stable (oneRow infiniteRow) {} {}) after 1 := by
  have hquery : EventStore.query infiniteLib .stable (oneRow infiniteRow) {} {}
      = .ok [parseRow infiniteLib { infiniteRow with id := 1 }] := query_singleton .stable rfl
  have hattributes : AttributesObject infiniteJson { infiniteRow with id := 1 } :=
    attributesObject_plain _ rfl
  have hportable : Portable infiniteJson (parseRow infiniteLib { infiniteRow with id := 1 }) :=
    portable_parseRow (by decide) (by decide) (by decide) hattributes
  obtain ⟨after, hafter⟩ := exportToJsonl_clean (J := infiniteJson) "out.jsonl" ⟨none, none⟩ hquery
    (by decide)
  refine ⟨?_, after, hafter, ?_⟩
  · intro row hrow
    rw [List.mem_singleton.mp hrow]
    exact ⟨by decide, hattributes⟩
  · rintro ⟨events, content, hevents, hdest, hreread, -⟩
    obtain ⟨written, hwritten, content', hdest', hlines, -⟩ := exportToJsonl_eq_count hafter
    rw [hquery] at hevents
    cases hevents
    cases hquery.symm.trans hwritten
    cases hdest.symm.trans hdest'
    obtain ⟨text, hcontent, htext⟩ := List.map_eq_singleton_iff.mp hlines
    rw [hcontent, List.map_singleton, List.map_singleton,
      fromJson_toJson hportable _ _ htext.symm] at hreread
    have hvalue : rereadValue (.double .posInf) = .double .posInf :=
      congrArg ObservationEvent.value (Except.ok.inj (List.cons.inj hreread).1)
    cases hvalue

end EventStore

end Holonight
