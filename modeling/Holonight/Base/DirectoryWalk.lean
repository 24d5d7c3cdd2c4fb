import Mathlib

/-!
# Walking a directory tree

`std::filesystem::recursive_directory_iterator` with `skip_permission_denied`, for loops that use
its `increment(error_code&)`. Symbolic links are entries and are not followed.

The iterator is a stack of open directories (`Iterator`). `increment` enters the directory it
stands at, leaves those that are read to their end, and becomes the end iterator when it meets an
error: what is left of the tree is then not visited. A directory that may not be read is passed
over without one.

`visits` says which entries a whole walk stands at, as a recursion over the tree, and whether an
error ended it. `pending_increment` is the step lemma that a loop over the iterator needs:
before a step there is to visit the current entry, and then what is to visit after the step. By
`visits_ok_iff` and `visits_prefix` a walk visits the tree up to its first fault.
-/

namespace Holonight

namespace DirectoryWalk

variable {α : Type}

/-! ## Trees with faults -/

/-- What the reading of a directory yields, one entry after the other. A `leaf` is no directory; a
`closed` one may not be read, and a `barred` one cannot be opened for another reason. -/
inductive Entries (α : Type) where
  | done
  | fails
  | leaf (entry : α) (rest : Entries α)
  | closed (entry : α) (rest : Entries α)
  | barred (entry : α) (rest : Entries α)
  | directory (entry : α) (contents rest : Entries α)

/-- One walk, and if no error ended it the next. -/
def andThen (first second : List α × Bool) : List α × Bool :=
  if first.2 then first else (first.1 ++ second.1, second.2)

namespace Entries

/-- Every entry of the tree in the order of a walk. -/
def listing : Entries α → List α
  | done => []
  | fails => []
  | leaf entry rest => entry :: rest.listing
  | closed entry rest => entry :: rest.listing
  | barred entry rest => entry :: rest.listing
  | directory entry contents rest => entry :: (contents.listing ++ rest.listing)

/-- The entries that a walk visits, and whether an error ends it. -/
def visits : Entries α → List α × Bool
  | done => ([], false)
  | fails => ([], true)
  | leaf entry rest => andThen ([entry], false) rest.visits
  | closed entry rest => andThen ([entry], false) rest.visits
  | barred entry _ => ([entry], true)
  | directory entry contents rest =>
    andThen ([entry], false) (andThen contents.visits rest.visits)

/-- Nothing in the tree gives an error. -/
def Faultless : Entries α → Prop
  | done => True
  | fails => False
  | leaf _ rest => rest.Faultless
  | closed _ rest => rest.Faultless
  | barred _ _ => False
  | directory _ contents rest => contents.Faultless ∧ rest.Faultless

end Entries

/-! ## The iterator -/

/-- The rests of the open directories, the innermost first. It stands at the first entry of that
one; without open directories it is the end. -/
abbrev Iterator (α : Type) := List (Entries α)

/-- To the next entry of the innermost directory, or of one outside it; with an error to the
end. -/
def settle : Iterator α → Iterator α × Bool
  | [] => ([], false)
  | .done :: outer => settle outer
  | .fails :: _ => ([], true)
  | here :: outer => (here :: outer, false)

/-- The iterator of a directory that could be opened. -/
def start (entries : Entries α) : Iterator α × Bool := settle [entries]

/-- What is found at a path that is to be walked. -/
inductive Root (α : Type) where
  | missing
  /-- A directory that may not be read. -/
  | closed
  /-- No directory, or one that cannot be opened. -/
  | barred
  | opened (entries : Entries α)

/-- The iterator of a path, with whether the error is set. -/
def construct : Root α → Iterator α × Bool
  | .missing => ([], true)
  | .closed => ([], false)
  | .barred => ([], true)
  | .opened entries => start entries

/-- The entries that a walk of a path visits, and whether an error ends it. -/
def Root.visits : Root α → List α × Bool
  | .missing => ([], true)
  | .closed => ([], false)
  | .barred => ([], true)
  | .opened entries => entries.visits

/-- The entry that the iterator stands at. -/
def current : Iterator α → Option α
  | .leaf entry _ :: _ => some entry
  | .closed entry _ :: _ => some entry
  | .barred entry _ :: _ => some entry
  | .directory entry _ _ :: _ => some entry
  | _ => none

/-- `increment(error)`, with whether the error is set. -/
def increment : Iterator α → Iterator α × Bool
  | .leaf _ rest :: outer => settle (rest :: outer)
  | .closed _ rest :: outer => settle (rest :: outer)
  -- the directory is opened before its successor is looked for
  | .barred _ _ :: _ => ([], true)
  | .directory _ contents rest :: outer => settle (contents :: rest :: outer)
  | .done :: outer => settle outer
  | .fails :: _ => ([], true)
  | [] => ([], true)

/-- A bound for the steps that are left. -/
def weight : Iterator α → ℕ
  | [] => 0
  | here :: outer => entriesWeight here + 1 + weight outer
where
  entriesWeight : Entries α → ℕ
    | .done => 0
    | .fails => 0
    | .leaf _ rest => entriesWeight rest + 1
    | .closed _ rest => entriesWeight rest + 1
    | .barred _ rest => entriesWeight rest + 1
    | .directory _ contents rest => entriesWeight contents + entriesWeight rest + 2

theorem weight_settle_le (iter : Iterator α) : weight (settle iter).1 ≤ weight iter := by
  induction iter with
  | nil => exact le_rfl
  | cons here outer ih =>
    cases here with
    | done => exact ih.trans (Nat.le_add_left _ _)
    | fails => exact Nat.zero_le _
    | leaf entry rest => exact le_rfl
    | closed entry rest => exact le_rfl
    | barred entry rest => exact le_rfl
    | directory entry contents rest => exact le_rfl

/-- Every step leaves less. -/
theorem weight_increment_lt (here : Entries α) (outer : Iterator α) :
    weight (increment (here :: outer)).1 < weight (here :: outer) := by
  cases here with
  | done => exact (weight_settle_le outer).trans_lt (by simp [weight, weight.entriesWeight])
  | fails => exact Nat.lt_add_right _ (Nat.succ_pos _)
  | leaf entry rest => exact (weight_settle_le _).trans_lt (by simp [weight, weight.entriesWeight])
  | closed entry rest => exact (weight_settle_le _).trans_lt (by simp [weight, weight.entriesWeight])
  | barred entry rest => exact Nat.lt_add_right _ (Nat.succ_pos _)
  | directory entry contents rest =>
    refine (weight_settle_le _).trans_lt ?_
    simp only [weight, weight.entriesWeight]
    omega

/-! ## What a walk visits -/

theorem andThen_assoc (a b c : List α × Bool) :
    andThen (andThen a b) c = andThen a (andThen b c) := by
  unfold andThen
  rcases a with ⟨a, _ | _⟩
  · rcases b with ⟨b, _ | _⟩
    · simp
    · simp
  · simp

@[simp] theorem andThen_nil (b : List α × Bool) : andThen ([], false) b = b := rfl

@[simp] theorem andThen_failed (a : List α) (b : List α × Bool) :
    andThen (a, true) b = (a, true) := rfl

/-- Nothing comes after the end. -/
theorem andThen_done (a : List α × Bool) : andThen a ([], false) = a := by
  rcases a with ⟨a, _ | _⟩
  · simp [andThen]
  · rfl

/-- What is left to visit for an iterator. -/
def pending : Iterator α → List α × Bool
  | [] => ([], false)
  | here :: outer => andThen here.visits (pending outer)

/-- What is left to visit after a step, which may have set the error. -/
def pendingAfter (step : Iterator α × Bool) : List α × Bool :=
  if step.2 then ([], true) else pending step.1

theorem pending_settle (iter : Iterator α) : pendingAfter (settle iter) = pending iter := by
  induction iter with
  | nil => rfl
  | cons here outer ih =>
    cases here with
    | done => exact ih
    | fails => rfl
    | leaf entry rest => rfl
    | closed entry rest => rfl
    | barred entry rest => rfl
    | directory entry contents rest => rfl

/-- What a step leaves: with an error the end, and otherwise the end or an iterator that stands at an
entry. -/
structure Settled (step : Iterator α × Bool) : Prop where
  failed : step.2 = true → step.1 = []
  stands : ∀ here outer, step.1 = here :: outer → (current (here :: outer)).isSome

theorem settled_end (failed : Bool) : Settled (([], failed) : Iterator α × Bool) where
  failed _ := rfl
  stands _ _ h := by cases h

theorem settled_here {here : Entries α} {outer : Iterator α}
    (h : (current (here :: outer)).isSome) : Settled (here :: outer, false) where
  failed hfailed := by cases hfailed
  stands _ _ hsame := by
    cases hsame
    exact h

theorem settled_settle (iter : Iterator α) : Settled (settle iter) := by
  induction iter with
  | nil => exact settled_end false
  | cons first rest ih =>
    cases first with
    | done => exact ih
    | fails => exact settled_end true
    | leaf entry others => exact settled_here rfl
    | closed entry others => exact settled_here rfl
    | barred entry others => exact settled_here rfl
    | directory entry contents others => exact settled_here rfl

theorem settled_increment (iter : Iterator α) : Settled (increment iter) := by
  cases iter with
  | nil => exact settled_end true
  | cons first rest =>
    cases first with
    | done => exact settled_settle rest
    | fails => exact settled_end true
    | leaf entry others => exact settled_settle _
    | closed entry others => exact settled_settle _
    | barred entry others => exact settled_end true
    | directory entry contents others => exact settled_settle _

theorem settled_construct (root : Root α) : Settled (construct root) := by
  cases root with
  | missing => exact settled_end true
  | closed => exact settled_end false
  | barred => exact settled_end true
  | opened entries => exact settled_settle [entries]

/-- The walk of a path is what its iterator has to visit. -/
theorem pendingAfter_construct (root : Root α) : pendingAfter (construct root) = root.visits := by
  cases root with
  | missing => rfl
  | closed => rfl
  | barred => rfl
  | opened entries =>
    show pendingAfter (settle [entries]) = _
    rw [pending_settle]
    exact andThen_done entries.visits

/-- **One step of a walk**: the current entry, and then what the step leaves to visit. -/
theorem pending_increment {here : Entries α} {outer : Iterator α} {entry : α}
    (h : current (here :: outer) = some entry) :
    pending (here :: outer)
      = andThen ([entry], false) (pendingAfter (increment (here :: outer))) := by
  cases here with
  | done => cases h
  | fails => cases h
  | leaf first rest =>
    cases h
    rw [increment, pending_settle, pending, Entries.visits, andThen_assoc]
    rfl
  | closed first rest =>
    cases h
    rw [increment, pending_settle, pending, Entries.visits, andThen_assoc]
    rfl
  | barred first rest =>
    cases h
    rfl
  | directory first contents rest =>
    cases h
    rw [increment, pending_settle, pending, Entries.visits, andThen_assoc, andThen_assoc]
    rfl

/-! ## Up to the first fault -/

theorem andThen_ok_iff {first second : List α × Bool} :
    (andThen first second).2 = false ↔ first.2 = false ∧ second.2 = false := by
  rcases first with ⟨first, _ | _⟩
  · simp [andThen]
  · simp

theorem andThen_of_ok {first : List α × Bool} (second : List α × Bool) (h : first.2 = false) :
    (andThen first second).1 = first.1 ++ second.1 := by
  rw [andThen, h]
  rfl

/-- A walk ends without an error exactly when there is no fault. -/
theorem visits_ok_iff (entries : Entries α) : entries.visits.2 = false ↔ entries.Faultless := by
  induction entries with
  | done => exact iff_of_true rfl trivial
  | fails => exact iff_of_false (fun h => Bool.noConfusion (h : true = false)) id
  | leaf entry rest ih => exact (andThen_ok_iff.trans (and_iff_right rfl)).trans ih
  | closed entry rest ih => exact (andThen_ok_iff.trans (and_iff_right rfl)).trans ih
  | barred entry rest ih => exact iff_of_false (fun h => Bool.noConfusion (h : true = false)) id
  | directory entry contents rest ihContents ihRest =>
    refine (andThen_ok_iff.trans (and_iff_right rfl)).trans ?_
    exact andThen_ok_iff.trans (and_congr ihContents ihRest)

/-- Without a fault a walk visits the whole tree. -/
theorem visits_of_faultless {entries : Entries α} (h : entries.Faultless) :
    entries.visits.1 = entries.listing := by
  induction entries with
  | done => rfl
  | fails => exact h.elim
  | leaf entry rest ih => exact congrArg (entry :: ·) (ih h)
  | closed entry rest ih => exact congrArg (entry :: ·) (ih h)
  | barred entry rest ih => exact h.elim
  | directory entry contents rest ihContents ihRest =>
    have hcontents := (visits_ok_iff contents).mpr h.1
    refine congrArg (entry :: ·) ?_
    show (andThen contents.visits rest.visits).1 = _
    rw [andThen_of_ok _ hcontents, ihContents h.1, ihRest h.2]

/-- **A walk visits a first part of the tree**, whatever goes wrong. -/
theorem visits_prefix (entries : Entries α) : entries.visits.1 <+: entries.listing := by
  induction entries with
  | done => exact List.prefix_refl _
  | fails => exact List.prefix_refl _
  | leaf entry rest ih => exact (List.prefix_cons_inj entry).mpr ih
  | closed entry rest ih => exact (List.prefix_cons_inj entry).mpr ih
  | barred entry rest ih => exact (List.prefix_cons_inj entry).mpr List.nil_prefix
  | directory entry contents rest ihContents ihRest =>
    refine (List.prefix_cons_inj entry).mpr ?_
    show (andThen contents.visits rest.visits).1 <+: contents.listing ++ rest.listing
    cases hfailed : contents.visits.2 with
    | true =>
      rw [andThen, hfailed, if_pos rfl]
      exact ihContents.trans (List.prefix_append _ _)
    | false =>
      -- the contents were read to their end
      rw [andThen_of_ok _ hfailed, visits_of_faultless ((visits_ok_iff contents).mp hfailed)]
      exact (List.prefix_append_right_inj _).mpr ihRest

end DirectoryWalk

end Holonight
