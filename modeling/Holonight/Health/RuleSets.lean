import Holonight.Base.DirectoryWalk
import Holonight.Health.RuleLoading
import Holonight.Health.StatusCheck

/-!
# Rule sets (`RuleEngine.cpp`, `Daemon.cpp`)

The daemon evaluates the built-in rules and, after them, those that it loads from the `.json` files
under `rules_dir`. Two results say how a diagnosis depends on what goes into it.

- `custom_rules_added`: the loaded rules are those of the files that are rules, in the order of the
  walk; a file that is none, or cannot be read, costs only itself. Whatever is loaded, the findings
  of the built-in rules stay as they are and come first, and the exit code can only go from 0 to 1.
- `evaluate_mono`: more events never lose a finding, nor an event that a finding lists. So a
  collector that fails can hide findings, and cannot make one.
-/

namespace Holonight

namespace RuleEngine

open DirectoryWalk (Entries Iterator Root)

/-! ## Rules from files -/

/-- A file under the rules directory, as it is found when it is loaded. -/
structure RuleFile where
  path : Bytes
  /-- A regular file, when links are followed. -/
  regular : Bool
  present : Bool := true
  /-- What it holds, when it can be opened. -/
  text : Option Bytes

/-- `path::extension`. 47 is the slash, 46 the point; a point at the start of the name begins no
extension. -/
def extension (path : Bytes) : Bytes :=
  let filename := (path.reverse.takeWhile fun b => b != 47).reverse
  let tail := (filename.reverse.takeWhile fun b => b != 46).reverse
  if filename.length ≤ tail.length + 1 then [] else 46 :: tail

/-- `RuleEngine::loadRuleFromFile` (RuleEngine.cpp:503–517). -/
def loadRuleFromFile {lib : CppLib} (J : JsonLibrary lib) (file : RuleFile) :
    Except Bytes DiagnosticRule :=
  if file.present then
    match file.text with
    | none => .error (Bytes.ofString "Could not open file: " ++ file.path)
    | some text => loadRuleFromJson J text
  else .error (Bytes.ofString "File does not exist: " ++ file.path)

/-- The rules of the engine, and how many the directory has added. -/
structure Loaded where
  rules : List DiagnosticRule
  count : ℕ := 0

/-- One entry (RuleEngine.cpp:532–538). -/
def visitFile {lib : CppLib} (J : JsonLibrary lib) (loaded : Loaded) (file : RuleFile) : Loaded :=
  if file.regular && decide (extension file.path = Bytes.ofString ".json") then
    match loadRuleFromFile J file with
    | .ok rule => { rules := loaded.rules ++ [rule], count := loaded.count + 1 }
    | .error _ => loaded
  else loaded

/-- The loop of `loadRulesFromDirectory` (RuleEngine.cpp:530–540). Whatever `is_regular_file` sets
the error to, `increment` sets it anew. -/
def loadLoop {lib : CppLib} (J : JsonLibrary lib) (iter : Iterator RuleFile) (error : Bool)
    (loaded : Loaded) : Loaded :=
  match iter with
  | [] => loaded
  | here :: outer =>
    if error then loaded
    else
      let next := DirectoryWalk.increment (here :: outer)
      loadLoop J next.1 next.2
        ((DirectoryWalk.current (here :: outer)).elim loaded (visitFile J loaded))
termination_by DirectoryWalk.weight iter
decreasing_by exact DirectoryWalk.weight_increment_lt here outer

/-- `RuleEngine::loadRulesFromDirectory` (RuleEngine.cpp:519–543), on an engine that has some
rules. -/
def loadRulesFromDirectory {lib : CppLib} (J : JsonLibrary lib) (dir : Root RuleFile)
    (rules : List DiagnosticRule) : Loaded :=
  let started := DirectoryWalk.construct dir
  loadLoop J started.1 started.2 { rules := rules }

/-- The rule of a file that is to be loaded. -/
def ruleOf {lib : CppLib} (J : JsonLibrary lib) (file : RuleFile) : Option DiagnosticRule :=
  if file.regular && decide (extension file.path = Bytes.ofString ".json") then
    (loadRuleFromFile J file).toOption
  else none

section Loading

variable {lib : CppLib} {J : JsonLibrary lib}

/-- The loop visits what is left to visit. -/
theorem loadLoop_eq (iter : Iterator RuleFile) (error : Bool) (loaded : Loaded)
    (hsettled : DirectoryWalk.Settled (iter, error)) :
    loadLoop J iter error loaded
      = (DirectoryWalk.pendingAfter (iter, error)).1.foldl (visitFile J) loaded := by
  induction iter, error, loaded using loadLoop.induct J with
  | case1 error loaded =>
    rw [loadLoop]
    cases error <;> rfl
  | case2 loaded here outer =>
    -- an iterator that has met an error is the end
    cases hsettled.failed rfl
  | case3 error loaded here outer hgoes next ih =>
    rw [Bool.not_eq_true] at hgoes
    subst hgoes
    obtain ⟨entry, hentry⟩ := Option.isSome_iff_exists.mp (hsettled.stands here outer rfl)
    rw [loadLoop, if_neg Bool.false_ne_true, ih (DirectoryWalk.settled_increment _), hentry]
    show _ = (DirectoryWalk.pending (here :: outer)).1.foldl (visitFile J) loaded
    rw [DirectoryWalk.pending_increment hentry]
    rfl

theorem foldl_visitFile (files : List RuleFile) (loaded : Loaded) :
    files.foldl (visitFile J) loaded
      = { rules := loaded.rules ++ files.filterMap (ruleOf J)
          count := loaded.count + (files.filterMap (ruleOf J)).length } := by
  induction files generalizing loaded with
  | nil => simp
  | cons file rest ih =>
    rw [List.foldl_cons, ih, List.filterMap_cons, visitFile, ruleOf]
    split
    · cases loadRuleFromFile J file with
      | ok rule => simp [Except.toOption, Nat.add_assoc, Nat.add_comm 1]
      | error message => rfl
    · rfl

/-- What a directory adds: the rules of the files that the walk visits. -/
theorem loadRulesFromDirectory_eq (dir : Root RuleFile) (rules : List DiagnosticRule) :
    loadRulesFromDirectory J dir rules
      = { rules := rules ++ dir.visits.1.filterMap (ruleOf J)
          count := (dir.visits.1.filterMap (ruleOf J)).length } := by
  have hloop := @loadLoop_eq lib J (DirectoryWalk.construct dir).1 (DirectoryWalk.construct dir).2
    { rules := rules } (DirectoryWalk.settled_construct dir)
  refine hloop.trans ?_
  show (DirectoryWalk.pendingAfter (DirectoryWalk.construct dir)).1.foldl _ _ = _
  rw [DirectoryWalk.pendingAfter_construct, foldl_visitFile]
  simp

end Loading

/-! ## More rules -/

section Rules

variable {lib : CppLib} {stamp : ℕ → Bytes × Bytes} {events : List ObservationEvent}

/-- The findings of rules that come later are those of these rules, numbered on. -/
theorem evaluateFrom_append (made : ℕ) (first second : List DiagnosticRule) :
    evaluateFrom lib stamp events made (first ++ second)
      = evaluateFrom lib stamp events made first ++
        evaluateFrom lib stamp events (made + (evaluateFrom lib stamp events made first).length)
          second := by
  induction first generalizing made with
  | nil => simp [evaluateFrom]
  | cons rule rest ih =>
    rw [List.cons_append, evaluateFrom, evaluateFrom]
    split
    · rw [ih, List.cons_append, List.length_cons, Nat.add_right_comm, Nat.add_assoc]
    · rw [ih]

/-- What loading a directory does to a diagnosis, for any events. -/
structure Adds (J : JsonLibrary lib) (stamp : ℕ → Bytes × Bytes) (time : Bytes)
    (dir : Root RuleFile) (rules custom : List DiagnosticRule) (events : List ObservationEvent) :
    Prop where
  /-- The findings of the rules that were there, and then those of the loaded ones. -/
  findings : evaluate lib stamp (loadRulesFromDirectory J dir rules).rules events
    = evaluate lib stamp rules events ++
      evaluateFrom lib stamp events (evaluate lib stamp rules events).length custom
  /-- A status check that failed still fails. -/
  exitCode : (Daemon.runStatusCheck lib stamp time rules events).1 = 1 →
    (Daemon.runStatusCheck lib stamp time (loadRulesFromDirectory J dir rules).rules events).1 = 1

/-- **Custom rules only add**: for every directory, whatever its files hold and whatever cannot be
read, the loaded rules are those of files of a first part of the tree, of all of it when the walk
meets no fault; and for all events the findings of the rules that were there stay and come first. -/
theorem custom_rules_added (J : JsonLibrary lib) (stamp : ℕ → Bytes × Bytes) (time : Bytes)
    (dir : Root RuleFile) (rules : List DiagnosticRule) :
    ∃ custom, (loadRulesFromDirectory J dir rules).rules = rules ++ custom ∧
      (loadRulesFromDirectory J dir rules).count = custom.length ∧
      (∀ entries, dir = .opened entries →
        (∃ seen, seen <+: entries.listing ∧ custom = seen.filterMap (ruleOf J)) ∧
        (entries.Faultless → custom = entries.listing.filterMap (ruleOf J))) ∧
      ∀ events, Adds J stamp time dir rules custom events := by
  have hload := @loadRulesFromDirectory_eq lib J dir rules
  refine ⟨dir.visits.1.filterMap (ruleOf J), ?_, ?_, ?_, fun events => ⟨?_, fun hfailed => ?_⟩⟩
  · rw [hload]
  · rw [hload]
  · rintro entries rfl
    refine ⟨⟨entries.visits.1, DirectoryWalk.visits_prefix entries, rfl⟩, fun hfaultless => ?_⟩
    rw [← DirectoryWalk.visits_of_faultless hfaultless]
    rfl
  · rw [hload]
    show evaluateFrom lib stamp events 0 _ = _
    rw [evaluateFrom_append, Nat.zero_add]
    rfl
  · obtain ⟨rule, hrule, hfires⟩ := Daemon.runStatusCheck_iff.mp hfailed
    rw [hload]
    exact Daemon.runStatusCheck_iff.mpr ⟨rule, List.mem_append_left _ hrule, hfires⟩

end Rules

/-! ## More events -/

section Events

variable {lib : CppLib} {stamp stampMore : ℕ → Bytes × Bytes}
  {events more : List ObservationEvent}

/-- The same finding, with more evidence. -/
structure Grows (finding later : DiagnosticFinding) : Prop where
  ruleId : later.ruleId = finding.ruleId
  title : later.title = finding.title
  category : later.category = finding.category
  severity : later.severity = finding.severity
  candidateCauses : later.candidateCauses = finding.candidateCauses
  suggestedActions : later.suggestedActions = finding.suggestedActions
  matchedEvents : finding.matchedEvents.Sublist later.matchedEvents

theorem matchedBy_sublist (h : events.Sublist more) (condition : RuleCondition) :
    (matchedBy lib events condition).Sublist (matchedBy lib more condition) :=
  h.filter _

theorem evaluateAnyLogic_sublist (h : events.Sublist more) (conditions : List RuleCondition) :
    (evaluateAnyLogic lib events conditions).2.Sublist
      (evaluateAnyLogic lib more conditions).2 := by
  induction conditions with
  | nil => exact List.Sublist.refl _
  | cons condition rest ih => exact (matchedBy_sublist h condition).append ih

/-- What `all` has collected when it leaves early is kept when it goes on. -/
theorem evaluateAllLogic_sublist (h : events.Sublist more) (conditions : List RuleCondition) :
    (evaluateAllLogic lib events conditions).2.Sublist
      (evaluateAllLogic lib more conditions).2 := by
  induction conditions with
  | nil => exact List.Sublist.refl _
  | cons condition rest ih =>
    have hmatched : (matchedBy lib events condition).Sublist (matchedBy lib more condition) :=
      matchedBy_sublist h condition
    unfold evaluateAllLogic
    simp only
    split
    · exact List.nil_sublist _
    · rename_i hsome
      have hmore : matchedBy lib more condition ≠ [] := fun hnone =>
        hsome (List.sublist_nil.mp (hnone ▸ hmatched))
      rw [if_neg hmore]
      exact hmatched.append ih

theorem evaluateRule_sublist (h : events.Sublist more) (rule : DiagnosticRule) :
    (evaluateRule lib events rule).2.Sublist (evaluateRule lib more rule).2 := by
  unfold evaluateRule
  cases rule.conditionLogic with
  | all => exact evaluateAllLogic_sublist h rule.conditions
  | any => exact evaluateAnyLogic_sublist h rule.conditions

theorem Witnessed.mono (h : events ⊆ more) {condition : RuleCondition}
    (hsome : Witnessed lib events condition) : Witnessed lib more condition := by
  obtain ⟨event, hevent, hmatch⟩ := hsome
  exact ⟨event, h hevent, hmatch⟩

/-- A rule that fires still fires. -/
theorem Fires.mono (h : events ⊆ more) {rule : DiagnosticRule} (hfires : Fires lib events rule) :
    Fires lib more rule := by
  rw [fires_iff_triggered] at hfires ⊢
  refine ⟨hfires.1, ?_⟩
  have hsatisfied := hfires.2
  unfold Satisfied at hsatisfied ⊢
  cases hlogic : rule.conditionLogic with
  | all =>
    rw [hlogic] at hsatisfied
    exact fun condition hcondition => (hsatisfied condition hcondition).mono h
  | any =>
    rw [hlogic] at hsatisfied
    obtain ⟨condition, hcondition, hsome⟩ := hsatisfied
    exact ⟨condition, hcondition, hsome.mono h⟩

/-- The loop over the rules, wherever the two counters of findings stand. -/
theorem evaluateFrom_mono (h : events.Sublist more) (rules : List DiagnosticRule)
    (made madeMore : ℕ) :
    List.SublistForall₂ Grows (evaluateFrom lib stamp events made rules)
      (evaluateFrom lib stampMore more madeMore rules) := by
  induction rules generalizing made madeMore with
  | nil => exact .nil
  | cons rule rest ih =>
    by_cases hfires : Fires lib events rule
    · have hmore : Fires lib more rule := hfires.mono h.subset
      have hstep : evaluateFrom lib stamp events made (rule :: rest)
          = makeFinding rule (evaluateRule lib events rule).2 (stamp made)
            :: evaluateFrom lib stamp events (made + 1) rest := if_pos hfires
      have hstepMore : evaluateFrom lib stampMore more madeMore (rule :: rest)
          = makeFinding rule (evaluateRule lib more rule).2 (stampMore madeMore)
            :: evaluateFrom lib stampMore more (madeMore + 1) rest := if_pos hmore
      rw [hstep, hstepMore]
      exact .cons ⟨rfl, rfl, rfl, rfl, rfl, rfl, evaluateRule_sublist h rule⟩ (ih _ _)
    · have hstep : evaluateFrom lib stamp events made (rule :: rest)
          = evaluateFrom lib stamp events made rest := if_neg hfires
      rw [hstep]
      by_cases hmore : Fires lib more rule
      · have hstepMore : evaluateFrom lib stampMore more madeMore (rule :: rest)
            = makeFinding rule (evaluateRule lib more rule).2 (stampMore madeMore)
              :: evaluateFrom lib stampMore more (madeMore + 1) rest := if_pos hmore
        rw [hstepMore]
        exact .cons_right (ih _ _)
      · have hstepMore : evaluateFrom lib stampMore more madeMore (rule :: rest)
            = evaluateFrom lib stampMore more madeMore rest := if_neg hmore
        rw [hstepMore]
        exact ih _ _

/-- **More events never lose a finding**: for all rules, and events among others in the same order,
each finding is there again, in the same order, with at least its evidence; and a failing exit code
stays. -/
theorem evaluate_mono (lib : CppLib) (stamp stampMore : ℕ → Bytes × Bytes) (time : Bytes)
    (rules : List DiagnosticRule) (events more : List ObservationEvent) (h : events.Sublist more) :
    List.SublistForall₂ Grows (evaluate lib stamp rules events) (evaluate lib stampMore rules more) ∧
      ((Daemon.runStatusCheck lib stamp time rules events).1 = 1 →
        (Daemon.runStatusCheck lib stampMore time rules more).1 = 1) := by
  refine ⟨evaluateFrom_mono h rules 0 0, fun hfailed => ?_⟩
  obtain ⟨rule, hrule, hfires, hseverity⟩ := Daemon.runStatusCheck_iff.mp hfailed
  exact Daemon.runStatusCheck_iff.mpr ⟨rule, hrule, hfires.mono h.subset, hseverity⟩

/-- A lock that was left. -/
def staleLock : ObservationEvent where
  timestamp := 1700000000000000000
  source := "pacman_collector"
  category := "package"
  subject := "pacman_db"
  signal := "pacman.stale_lock"
  severity := .warning

/-- The finding about a lock stays when a failed unit is observed too. -/
theorem evaluate_mono_stale_lock :
    List.SublistForall₂ Grows
        (evaluate .integral (fun _ => ([], [])) builtInRules [staleLock])
        (evaluate .integral (fun _ => ([], [])) builtInRules [Daemon.unitFailed, staleLock]) ∧
      ((Daemon.runStatusCheck .integral (fun _ => ([], [])) [] builtInRules [staleLock]).1 = 1 →
        (Daemon.runStatusCheck .integral (fun _ => ([], [])) [] builtInRules
          [Daemon.unitFailed, staleLock]).1 = 1) :=
  evaluate_mono .integral _ _ [] builtInRules [staleLock] [Daemon.unitFailed, staleLock]
    (List.sublist_cons_self _ _)

end Events

end RuleEngine

end Holonight
