import Holonight.Base.DirectoryWalk
import Holonight.Health.DaemonLoop

/-!
# The filesystem scan (`FilesystemScanner.cpp`)

`FilesystemScanner::scan` counts the directories and the regular files under a root; the daemon
logs the counts at every iteration. The loop has a branch that counts an error and goes on, but an
iterator that has met an error is the end: the branch is never taken, and a scan reports at most
one error (`scan_reports`). With none, the counts are those of the whole tree; with one, they are
those of a first part of it.
-/

namespace Holonight

namespace FilesystemScanner

open Daemon (ScanSummary)
open DirectoryWalk (Entries Iterator Root)

/-! ## The scan -/

/-- What an entry is, when links are followed. One that cannot be examined is `other`. -/
inductive EntryKind where
  | directory
  | file
  | other
  deriving DecidableEq

/-- One entry (FilesystemScanner.cpp:46–50). -/
def count (summary : ScanSummary) : EntryKind → ScanSummary
  | .directory => { summary with directories := summary.directories + 1 }
  | .file => { summary with files := summary.files + 1 }
  | .other => summary

/-- The loop (FilesystemScanner.cpp:38–53): the error and the summary at its end. Whatever
`is_directory` sets the error to, `increment` sets it anew. -/
def scanLoop (iter : Iterator EntryKind) (error : Bool) (summary : ScanSummary) :
    Bool × ScanSummary :=
  match iter with
  | [] => (error, summary)
  | here :: outer =>
    let next := DirectoryWalk.increment (here :: outer)
    if error then scanLoop next.1 next.2 { summary with errors := summary.errors + 1 }
    else
      scanLoop next.1 next.2 ((DirectoryWalk.current (here :: outer)).elim summary (count summary))
termination_by DirectoryWalk.weight iter
decreasing_by
  all_goals exact DirectoryWalk.weight_increment_lt here outer

/-- `FilesystemScanner::scan` (FilesystemScanner.cpp:24–60). -/
def scan (root : Root EntryKind) : ScanSummary :=
  match root with
  | .missing => { files := 0, directories := 0, errors := 1 }
  | found =>
    let started := DirectoryWalk.construct found
    let ended := scanLoop started.1 started.2 { files := 0, directories := 0, errors := 0 }
    if ended.1 then { ended.2 with errors := ended.2.errors + 1 } else ended.2

/-! ## What it reports -/

/-- The loop counts what is left to visit, and ends with the error of the walk. -/
theorem scanLoop_eq (iter : Iterator EntryKind) (error : Bool) (summary : ScanSummary)
    (hsettled : DirectoryWalk.Settled (iter, error)) :
    scanLoop iter error summary
      = ((DirectoryWalk.pendingAfter (iter, error)).2,
        (DirectoryWalk.pendingAfter (iter, error)).1.foldl count summary) := by
  induction iter, error, summary using scanLoop.induct with
  | case1 error summary =>
    rw [scanLoop]
    cases error <;> rfl
  | case2 summary here outer =>
    -- an iterator that has met an error is the end
    cases hsettled.failed rfl
  | case3 error summary here outer next hgoes ih =>
    rw [Bool.not_eq_true] at hgoes
    subst hgoes
    obtain ⟨entry, hentry⟩ := Option.isSome_iff_exists.mp (hsettled.stands here outer rfl)
    rw [scanLoop, if_neg Bool.false_ne_true, ih (DirectoryWalk.settled_increment _), hentry]
    show _ = ((DirectoryWalk.pending (here :: outer)).2,
      (DirectoryWalk.pending (here :: outer)).1.foldl count summary)
    rw [DirectoryWalk.pending_increment hentry]
    rfl

/-- What a summary says of a tree: it counts a first part, which is the whole tree when no error is
reported; and there is an error, one, exactly when the walk meets a fault. -/
structure Reports (entries : Entries EntryKind) (summary : ScanSummary) : Prop where
  counted : ∃ seen, seen <+: entries.listing ∧ (summary.errors = 0 → seen = entries.listing) ∧
    summary.files = seen.count .file ∧ summary.directories = seen.count .directory
  errors : summary.errors ≤ 1
  faultless : summary.errors = 0 ↔ entries.Faultless

theorem foldl_count (seen : List EntryKind) (summary : ScanSummary) :
    seen.foldl count summary
      = { files := summary.files + seen.count .file
          directories := summary.directories + seen.count .directory
          errors := summary.errors } := by
  induction seen generalizing summary with
  | nil => rfl
  | cons kind rest ih =>
    rw [List.foldl_cons, ih]
    cases kind with
    | directory => simp [count, Nat.add_assoc, Nat.add_comm 1]
    | file => simp [count, Nat.add_assoc, Nat.add_comm 1]
    | other => simp [count]

/-- **A scan says what it saw**: for every tree, with faults anywhere, it reports at most one error,
none exactly when there is no fault to meet, and counts a first part of the tree, all of it when it
reports none. -/
theorem scan_reports (entries : Entries EntryKind) : Reports entries (scan (.opened entries)) := by
  have hloop := scanLoop_eq (DirectoryWalk.start entries).1 (DirectoryWalk.start entries).2
    { files := 0, directories := 0, errors := 0 } (DirectoryWalk.settled_construct (.opened entries))
  have hvisits : DirectoryWalk.pendingAfter (DirectoryWalk.start entries) = entries.visits :=
    DirectoryWalk.pendingAfter_construct (.opened entries)
  have hscan : scan (.opened entries)
      = { files := entries.visits.1.count .file
          directories := entries.visits.1.count .directory
          errors := if entries.visits.2 then 1 else 0 } := by
    rw [hvisits, foldl_count] at hloop
    unfold scan
    simp only [DirectoryWalk.construct, hloop]
    cases entries.visits.2 with
    | false => simp
    | true => simp
  have herrors : (scan (.opened entries)).errors = 0 ↔ entries.Faultless := by
    rw [hscan, ← DirectoryWalk.visits_ok_iff]
    cases entries.visits.2 with
    | false => simp
    | true => simp
  refine ⟨⟨entries.visits.1, DirectoryWalk.visits_prefix entries, fun hzero => ?_, ?_, ?_⟩, ?_,
    herrors⟩
  · exact DirectoryWalk.visits_of_faultless (herrors.mp hzero)
  · rw [hscan]
  · rw [hscan]
  · rw [hscan]
    cases entries.visits.2 with
    | false => exact Nat.zero_le 1
    | true => exact le_rfl

end FilesystemScanner

end Holonight
