import Holonight.Base.Bytes

/-!
# The health-check summary (`HealthCheckJob.cpp`, `LlmClient.cpp`)

`HealthCheckJob::run` concatenates the results of its commands into one text
(`resultsToText`), and `LocalSummaryClient::summarize` recovers the verdict from that
text: success when it contains `exit=0` and not `exit=1`, and otherwise a number of
command blocks, which is the number of `$` signs.

`occursIn_resultsToText` says where a marker `exit=d` can come from, and
`summary_faithful_iff` what that makes of the verdict.
-/

namespace Holonight

namespace HealthCheckJob

/-- `struct CommandResult` (CommandRunner.h). -/
structure CommandResult where
  command : Bytes
  exitCode : ℤ
  output : Bytes
  timedOut : Bool := false
  cancelled : Bool := false
  outputTruncated : Bool := false

/-- The text of one result (HealthCheckJob.cpp:55–57). -/
def resultBlock (result : CommandResult) : Bytes :=
  Bytes.ofString "$ " ++ result.command ++ [10] ++
    (Bytes.ofString "exit=" ++ decimal result.exitCode ++ [10]) ++
    (result.output ++ [10])

/-- `HealthCheckJob::resultsToText` (HealthCheckJob.cpp:52–60). -/
def resultsToText (results : List CommandResult) : Bytes := results.flatMap resultBlock

/-- The verdict that all commands succeeded. -/
def successText : Bytes := "local summary: maintenance commands completed successfully"

/-- The verdict that names a number of command blocks. -/
def reviewedText (blocks : ℕ) : Bytes :=
  Bytes.ofString "local summary: reviewed " ++ decimalNat blocks ++
    " command blocks; inspect non-zero exits and tool output"

/-- `LocalSummaryClient::summarize` (LlmClient.cpp:24–32); 36 is `$`. -/
def summarize (input : Bytes) : Bytes :=
  let failureCount := input.count 36
  if Bytes.occursIn "exit=0" input && !Bytes.occursIn "exit=1" input then successText
  else reviewedText failureCount

/-! ## The two verdicts are different texts -/

theorem reviewedText_ne_success (blocks : ℕ) : reviewedText blocks ≠ successText := by
  intro h
  have hbyte := congrArg (fun text => text[15]?) h
  simp only [reviewedText, List.append_assoc] at hbyte
  rw [List.getElem?_append_left (by decide)] at hbyte
  revert hbyte
  decide

theorem reviewedText_injective : Function.Injective reviewedText := by
  intro m n h
  unfold reviewedText at h
  rw [List.append_assoc, List.append_assoc] at h
  exact decimalNat_injective (List.append_cancel_right (List.append_cancel_left h))

/-! ## Where the markers come from -/

/-- The text `exit=` followed by one digit. -/
def marker (digit : UInt8) : Bytes := Bytes.ofString "exit=" ++ [digit]

/-- The command or its output contains the marker. -/
def Mentions (digit : UInt8) (result : CommandResult) : Prop :=
  marker digit <:+: result.command ∨ marker digit <:+: result.output

/-- The marker comes from this result: from its text, or from its exit code. -/
def Shows (digit : UInt8) (result : CommandResult) : Prop :=
  Mentions digit result ∨ (decimal result.exitCode).head? = some digit

section Marker

variable {digit : UInt8}

theorem marker_ne_nil : marker digit ≠ [] := by simp [marker]

theorem not_mem_marker {b : UInt8} (hexit : b ∉ Bytes.ofString "exit=") (hb : b ≠ digit) :
    b ∉ marker digit := by
  unfold marker
  rw [List.mem_append, List.mem_singleton]
  rintro (h | h)
  · exact hexit h
  · exact hb h

/-- The `exit=` line shows the marker exactly when the code starts with the digit: the
letter `e` occurs only at its start. -/
theorem infix_exitLine {code : ℤ} :
    marker digit <:+: Bytes.ofString "exit=" ++ decimal code
      ↔ (decimal code).head? = some digit := by
  have hletter : (101 : UInt8) ∉ [120, 105, 116, 61] ++ decimal code := by
    rw [List.mem_append]
    rintro (h | h)
    · exact absurd h (by decide)
    · rcases mem_decimal h with h | h
      · exact absurd h (by decide)
      · exact absurd h.2 (by decide)
  show (101 : UInt8) :: ([120, 105, 116, 61] ++ [digit])
    <:+: (101 : UInt8) :: ([120, 105, 116, 61] ++ decimal code) ↔ _
  rw [infix_cons_iff_initial hletter, List.prefix_append_right_inj]
  cases hdec : decimal code with
  | nil => simp
  | cons b rest =>
    rw [List.cons_prefix_cons, List.head?_cons, Option.some.injEq]
    constructor
    · rintro ⟨rfl, -⟩
      rfl
    · rintro rfl
      exact ⟨rfl, List.nil_prefix⟩

/-- One block, followed by anything, shows the marker in its own parts or later. -/
theorem infix_block_append (hdigit : 48 ≤ digit.toNat) (result : CommandResult)
    (rest : Bytes) :
    marker digit <:+: resultBlock result ++ rest
      ↔ Shows digit result ∨ marker digit <:+: rest := by
  have hne (b : UInt8) (hb : b.toNat < 48) : b ≠ digit := by
    rintro rfl
    omega
  have hnewline : (10 : UInt8) ∉ marker digit :=
    not_mem_marker (by decide) (hne 10 (by decide))
  have hdollar : (36 : UInt8) ∉ marker digit :=
    not_mem_marker (by decide) (hne 36 (by decide))
  have hspace : (32 : UInt8) ∉ marker digit :=
    not_mem_marker (by decide) (hne 32 (by decide))
  have hshape : resultBlock result ++ rest
      = 36 :: 32 :: (result.command ++ 10 :: (Bytes.ofString "exit=" ++ decimal result.exitCode
          ++ 10 :: (result.output ++ 10 :: rest))) := by
    unfold resultBlock
    rw [show Bytes.ofString "$ " = [36, 32] from rfl]
    simp [List.append_assoc]
  rw [hshape, infix_cons_of_not_mem marker_ne_nil hdollar,
    infix_cons_of_not_mem marker_ne_nil hspace,
    infix_append_cons_of_not_mem marker_ne_nil hnewline,
    infix_append_cons_of_not_mem marker_ne_nil hnewline,
    infix_append_cons_of_not_mem marker_ne_nil hnewline, infix_exitLine]
  unfold Shows Mentions
  tauto

/-- A marker is in the text exactly when some result shows it. -/
theorem occursIn_resultsToText (hdigit : 48 ≤ digit.toNat) (results : List CommandResult) :
    marker digit <:+: resultsToText results ↔ ∃ r ∈ results, Shows digit r := by
  induction results with
  | nil => simp [resultsToText, marker]
  | cons r rest ih =>
    show marker digit <:+: resultBlock r ++ resultsToText rest ↔ _
    rw [infix_block_append hdigit, ih]
    simp

end Marker

/-- The number of `$` signs: one for each block and those in commands and outputs. -/
theorem count_resultsToText (results : List CommandResult) :
    (resultsToText results).count 36
      = results.length + (results.map fun r => r.command.count 36 + r.output.count 36).sum := by
  induction results with
  | nil => rfl
  | cons r rest ih =>
    have hcode : (decimal r.exitCode).count 36 = 0 := by
      refine List.count_eq_zero.mpr fun h => ?_
      rcases mem_decimal h with h | h
      · exact absurd h (by decide)
      · exact absurd h.1 (by decide)
    have hblock : (resultBlock r).count 36 = 1 + (r.command.count 36 + r.output.count 36) := by
      unfold resultBlock
      simp only [List.count_append, hcode]
      rw [show (Bytes.ofString "$ ").count 36 = 1 from rfl,
        show (Bytes.ofString "exit=").count 36 = 0 from rfl,
        show ([10] : Bytes).count 36 = 0 from rfl]
      omega
    show (resultBlock r ++ resultsToText rest).count 36 = _
    rw [List.count_append, hblock, ih, List.length_cons, List.map_cons, List.sum_cons]
    omega

/-! ## The verdict -/

/-- The summary is faithful: success is reported exactly when every command exited
with 0, and otherwise the number of commands is reported. -/
def SummaryFaithful (results : List CommandResult) : Prop :=
  (summarize (resultsToText results) = successText ↔ ∀ r ∈ results, r.exitCode = 0) ∧
  ((∃ r ∈ results, r.exitCode ≠ 0) →
    summarize (resultsToText results) = reviewedText results.length)

/-- When all commands succeeded, none of their texts contains `exit=1`. When one
failed, no text contains `$`, and either some result shows `exit=1` or none shows
`exit=0`. -/
def MarkersReliable (results : List CommandResult) : Prop :=
  ((∀ r ∈ results, r.exitCode = 0) → ∀ r ∈ results, ¬ Mentions 49 r) ∧
  ((∃ r ∈ results, r.exitCode ≠ 0) →
    (∀ r ∈ results, (36 : UInt8) ∉ r.command ∧ (36 : UInt8) ∉ r.output) ∧
    ((∃ r ∈ results, Shows 49 r) ∨ ∀ r ∈ results, ¬ Shows 48 r))

/-- Success is reported exactly when `exit=0` is shown and `exit=1` is not. -/
theorem summarize_eq_success_iff (results : List CommandResult) :
    summarize (resultsToText results) = successText
      ↔ (∃ r ∈ results, Shows 48 r) ∧ ¬ ∃ r ∈ results, Shows 49 r := by
  rw [← occursIn_resultsToText (by decide), ← occursIn_resultsToText (by decide)]
  have h48 : marker 48 = "exit=0" := rfl
  have h49 : marker 49 = "exit=1" := rfl
  rw [h48, h49, ← Bytes.occursIn_iff, ← Bytes.occursIn_iff]
  unfold summarize
  simp only [Bool.and_eq_true, Bool.not_eq_true']
  split
  · rename_i h
    simp [h]
  · rename_i h
    constructor
    · intro heq
      exact absurd heq (reviewedText_ne_success _)
    · rintro ⟨h0, h1⟩
      exact absurd ⟨h0, by simpa using h1⟩ h

/-- A summary that does not report success reports the number of `$` signs. -/
theorem summarize_of_not_success {input : Bytes} (h : summarize input ≠ successText) :
    summarize input = reviewedText (input.count 36) := by
  unfold summarize at h ⊢
  simp only at h ⊢
  split
  · rename_i hcond
    rw [if_pos hcond] at h
    exact absurd rfl h
  · rfl

/-- No `$` in the texts: the number of `$` signs is the number of blocks. -/
theorem count_eq_length_iff (results : List CommandResult) :
    (resultsToText results).count 36 = results.length
      ↔ ∀ r ∈ results, (36 : UInt8) ∉ r.command ∧ (36 : UInt8) ∉ r.output := by
  rw [count_resultsToText]
  constructor
  · intro h r hr
    have hsum : (results.map fun r => r.command.count 36 + r.output.count 36).sum = 0 := by omega
    have hzero := List.sum_eq_zero_iff.mp hsum _ (List.mem_map_of_mem hr)
    exact ⟨List.count_eq_zero.mp (by omega), List.count_eq_zero.mp (by omega)⟩
  · intro h
    have hsum : (results.map fun r => r.command.count 36 + r.output.count 36).sum = 0 := by
      refine List.sum_eq_zero_iff.mpr fun n hn => ?_
      obtain ⟨r, hr, rfl⟩ := List.mem_map.mp hn
      show r.command.count 36 + r.output.count 36 = 0
      have hcommand := List.count_eq_zero.mpr (h r hr).1
      have houtput := List.count_eq_zero.mpr (h r hr).2
      omega
    omega

/-- When all commands succeeded, the summary is faithful unless a text contains
`exit=1`. -/
theorem faithful_iff_of_success {results : List CommandResult} (hne : results ≠ [])
    (hall : ∀ r ∈ results, r.exitCode = 0) :
    SummaryFaithful results ↔ ∀ r ∈ results, ¬ Mentions 49 r := by
  have hfail : ¬ ∃ r ∈ results, r.exitCode ≠ 0 := by
    rintro ⟨r, hr, h⟩
    exact h (hall r hr)
  have hzero : ∃ r ∈ results, Shows 48 r := by
    obtain ⟨r, rest, rfl⟩ := List.exists_cons_of_ne_nil hne
    exact ⟨r, List.mem_cons_self, Or.inr (decimal_head_eq_zero.mpr (hall r List.mem_cons_self))⟩
  -- an exit code of 0 does not start with 1
  have hone : (∃ r ∈ results, Shows 49 r) ↔ ∃ r ∈ results, Mentions 49 r := by
    refine exists_congr fun r => and_congr_right fun hr => or_iff_left ?_
    rw [hall r hr]
    decide
  unfold SummaryFaithful
  rw [summarize_eq_success_iff, hone]
  constructor
  · rintro ⟨h, -⟩ r hr hmention
    exact (h.mpr hall).2 ⟨r, hr, hmention⟩
  · intro h
    refine ⟨⟨fun _ => hall, fun _ => ⟨hzero, ?_⟩⟩, fun hex => absurd hex hfail⟩
    rintro ⟨r, hr, hmention⟩
    exact h r hr hmention

/-- When a command failed, the summary is faithful exactly when it does not report
success and no text adds a `$`. -/
theorem faithful_iff_of_failure {results : List CommandResult}
    (hfail : ∃ r ∈ results, r.exitCode ≠ 0) :
    SummaryFaithful results
      ↔ (∀ r ∈ results, (36 : UInt8) ∉ r.command ∧ (36 : UInt8) ∉ r.output) ∧
        ((∃ r ∈ results, Shows 49 r) ∨ ∀ r ∈ results, ¬ Shows 48 r) := by
  have hall : ¬ ∀ r ∈ results, r.exitCode = 0 := by
    obtain ⟨r, hr, hcode⟩ := hfail
    exact fun h => hcode (h r hr)
  constructor
  · rintro ⟨hsuccess, hblocks⟩
    have hnot : summarize (resultsToText results) ≠ successText :=
      fun h => hall (hsuccess.mp h)
    have hcount : (resultsToText results).count 36 = results.length :=
      reviewedText_injective ((summarize_of_not_success hnot).symm.trans (hblocks hfail))
    refine ⟨(count_eq_length_iff results).mp hcount, ?_⟩
    rw [ne_eq, summarize_eq_success_iff] at hnot
    push Not at hnot
    by_cases hzero : ∃ r ∈ results, Shows 48 r
    · exact Or.inl (hnot hzero)
    · exact Or.inr fun r hr h => hzero ⟨r, hr, h⟩
  · rintro ⟨hdollar, hshown⟩
    have hnot : summarize (resultsToText results) ≠ successText := by
      rw [ne_eq, summarize_eq_success_iff]
      rintro ⟨⟨r, hr, h⟩, hone⟩
      rcases hshown with h' | h'
      · exact hone h'
      · exact h' r hr h
    refine ⟨⟨fun h => absurd h hnot, fun h => absurd h hall⟩, fun _ => ?_⟩
    rw [summarize_of_not_success hnot, (count_eq_length_iff results).mpr hdollar]

/-- **The summary is faithful** if and only if its markers are reliable. -/
theorem summary_faithful_iff (results : List CommandResult) (hne : results ≠ []) :
    SummaryFaithful results ↔ MarkersReliable results := by
  by_cases hall : ∀ r ∈ results, r.exitCode = 0
  · rw [faithful_iff_of_success hne hall]
    constructor
    · intro h
      refine ⟨fun _ => h, ?_⟩
      rintro ⟨r, hr, hcode⟩
      exact absurd (hall r hr) hcode
    · intro h
      exact h.1 hall
  · have hfail : ∃ r ∈ results, r.exitCode ≠ 0 := by
      push Not at hall
      exact hall
    rw [faithful_iff_of_failure hfail]
    constructor
    · intro h
      exact ⟨fun hzero => absurd hzero hall, fun _ => h⟩
    · intro h
      exact h.2 hfail

/-- Two commands, of which the second fails with 1. -/
theorem summary_faithful_one_failure :
    SummaryFaithful
      [ { command := "pacman -Qk", exitCode := 0, output := "ok" },
        { command := "systemctl --failed", exitCode := 1, output := "1 unit" } ] := by
  refine (summary_faithful_iff _ (by simp)).mpr ⟨fun h => ?_, fun _ => ⟨?_, Or.inl ?_⟩⟩
  · exact absurd (h _ (List.mem_cons_of_mem _ List.mem_cons_self)) (by decide)
  · intro r hr
    rcases List.mem_pair.mp hr with rfl | rfl
    all_goals decide
  · exact ⟨_, List.mem_cons_of_mem _ List.mem_cons_self, Or.inr (by decide)⟩

/-- A command that exits with 2 beside one that exits with 0 is summarised as success. -/
theorem exit_two_reported_as_success :
    ¬ SummaryFaithful
      [ { command := "pacman -Qk", exitCode := 0, output := "ok" },
        { command := "systemctl --failed", exitCode := 2, output := "1 unit" } ] := by
  rintro ⟨hsuccess, -⟩
  have hreported := (summarize_eq_success_iff
      [ { command := "pacman -Qk", exitCode := 0, output := "ok" },
        { command := "systemctl --failed", exitCode := 2, output := "1 unit" } ]).mpr
    ⟨⟨_, List.mem_cons_self, Or.inr (by decide)⟩, by
      rintro ⟨r, hr, hshows⟩
      rcases List.mem_pair.mp hr with rfl | rfl
      all_goals
        revert hshows
        unfold Shows Mentions
        decide⟩
  exact absurd (hsuccess.mp hreported _ (List.mem_cons_of_mem _ List.mem_cons_self)) (by decide)

end HealthCheckJob

end Holonight
