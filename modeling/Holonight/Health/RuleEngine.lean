import Holonight.Storage.ObservationEvent

/-!
# The diagnostic rule engine (`RuleEngine.cpp`)

Rules, their conditions and `RuleEngine::evaluate`, with the five rules the
constructor registers. An event takes part in a diagnosis only through five free-text
fields and its severity, so the lemmas of this file say what a matched event looks
like (`matches_of_mem_finding`) and which events a built-in rule fires on
(`fires_systemdRule_iff`, `fires_memoryRule_iff`).

The identifier and the time stamp of a finding come from the clock and a process-wide
counter: they are the argument `stamp`, by the number of findings already made.
-/

namespace Holonight

namespace RuleEngine

/-! ## Rules -/

/-- `enum class MatchOperator`. -/
inductive MatchOperator where
  | equals
  | notEquals
  | greaterThan
  | greaterThanOrEqual
  | lessThan
  | lessThanOrEqual
  | contains
  | regex
  deriving DecidableEq, Repr

/-- `enum class LogicOperator`. -/
inductive LogicOperator where
  | all
  | any
  deriving DecidableEq, Repr

/-- `struct RuleCondition`: an absent field does not constrain. -/
structure RuleCondition where
  source : Option Bytes := none
  category : Option Bytes := none
  subject : Option Bytes := none
  signal : Option Bytes := none
  minSeverity : Option Severity := none
  targetValue : Option Bytes := none
  valueOperator : MatchOperator := .equals
  deriving DecidableEq

/-- `struct DiagnosticRule`. -/
structure DiagnosticRule where
  ruleId : Bytes
  title : Bytes
  category : Bytes
  severity : Severity := .warning
  conditionLogic : LogicOperator := .all
  conditions : List RuleCondition := []
  candidateCauses : List Bytes := []
  suggestedActions : List Bytes := []
  deriving DecidableEq

/-- `struct DiagnosticFinding`. -/
structure DiagnosticFinding where
  findingId : Bytes
  ruleId : Bytes
  title : Bytes
  category : Bytes
  severity : Severity := .warning
  matchedEvents : List ObservationEvent
  candidateCauses : List Bytes
  suggestedActions : List Bytes
  timestamp : Bytes

/-! ## Matching one event -/

/-- `evaluateNumericComparison` (RuleEngine.cpp:66–83). -/
def evaluateNumericComparison (eventNum targetNum : Double) : MatchOperator → Bool
  | .equals => Double.eq eventNum targetNum
  | .notEquals => !Double.eq eventNum targetNum
  | .greaterThan => Double.lt targetNum eventNum
  | .greaterThanOrEqual => Double.le targetNum eventNum
  | .lessThan => Double.lt eventNum targetNum
  | .lessThanOrEqual => Double.le eventNum targetNum
  | .contains => false
  | .regex => false

/-- One of the four operators that compare numbers. -/
def MatchOperator.isOrdering : MatchOperator → Bool
  | .greaterThan => true
  | .greaterThanOrEqual => true
  | .lessThan => true
  | .lessThanOrEqual => true
  | _ => false

/-- The text and, where there is one, the number of a payload (RuleEngine.cpp:86–109). -/
def valueParts (lib : CppLib) : EventValue → Bytes × Option Double
  | .none => ([], none)
  | .bool b => (if b then "true" else "false", none)
  | .int n => (decimal n, some (lib.intToDouble n))
  | .double d => (lib.doubleToString d, some d)
  | .string s => (s, lib.stod s)

/-- `matchValueOperator` (RuleEngine.cpp:85–141). A payload without a number falls
through to the text operators, where an ordering is false. -/
def matchValueOperator (lib : CppLib) (value : EventValue) (targetStr : Bytes)
    (operatorVal : MatchOperator) : Bool :=
  let parts := valueParts lib value
  match parts.2, operatorVal.isOrdering with
  | some eventNum, true =>
    -- a target that is not a number fails every ordering
    match lib.stod targetStr with
    | some targetNum => evaluateNumericComparison eventNum targetNum operatorVal
    | none => false
  | _, _ =>
    match operatorVal with
    | .equals => decide (parts.1 = targetStr)
    | .notEquals => decide (parts.1 ≠ targetStr)
    | .contains => Bytes.occursIn targetStr parts.1
    | .regex => (lib.regexSearch parts.1 targetStr).getD false
    | _ => false

/-- `matchEventToCondition` (RuleEngine.cpp:143–166). -/
def matchEventToCondition (lib : CppLib) (event : ObservationEvent) (condition : RuleCondition) :
    Bool :=
  condition.source.all (fun s => decide (event.source = s)) &&
  condition.category.all (fun s => decide (event.category = s)) &&
  condition.subject.all (fun s => decide (event.subject = s)) &&
  condition.signal.all (fun s => decide (event.signal = s)) &&
  condition.minSeverity.all (fun s => decide (s.rank ≤ event.severity.rank)) &&
  condition.targetValue.all (fun s => matchValueOperator lib event.value s condition.valueOperator)

/-! ## Evaluating a rule -/

/-- The events that match one condition, in their order. -/
def matchedBy (lib : CppLib) (events : List ObservationEvent) (condition : RuleCondition) :
    List ObservationEvent :=
  events.filter fun event => matchEventToCondition lib event condition

/-- `evaluateAllLogic` (RuleEngine.cpp:168–184): it returns at the first condition that
no event matches, with what it has collected until then. -/
def evaluateAllLogic (lib : CppLib) (events : List ObservationEvent) :
    List RuleCondition → Bool × List ObservationEvent
  | [] => (true, [])
  | condition :: rest =>
    let matched := matchedBy lib events condition
    -- what the conditions before this one have matched stays in the result
    if matched = [] then (false, [])
    else
      let later := evaluateAllLogic lib events rest
      (later.1, matched ++ later.2)

/-- `evaluateAnyLogic` (RuleEngine.cpp:186–199). -/
def evaluateAnyLogic (lib : CppLib) (events : List ObservationEvent) :
    List RuleCondition → Bool × List ObservationEvent
  | [] => (false, [])
  | condition :: rest =>
    let matched := matchedBy lib events condition
    let later := evaluateAnyLogic lib events rest
    (!matched.isEmpty || later.1, matched ++ later.2)

/-- Whether a rule is satisfied, and the events it matched (RuleEngine.cpp:541–547). -/
def evaluateRule (lib : CppLib) (events : List ObservationEvent) (rule : DiagnosticRule) :
    Bool × List ObservationEvent :=
  match rule.conditionLogic with
  | .all => evaluateAllLogic lib events rule.conditions
  | .any => evaluateAnyLogic lib events rule.conditions

/-- The finding of a satisfied rule (RuleEngine.cpp:550–560). -/
def makeFinding (rule : DiagnosticRule) (matched : List ObservationEvent) (stamp : Bytes × Bytes) :
    DiagnosticFinding :=
  { findingId := stamp.1
    ruleId := rule.ruleId
    title := rule.title
    category := rule.category
    severity := rule.severity
    matchedEvents := matched
    candidateCauses := rule.candidateCauses
    suggestedActions := rule.suggestedActions
    timestamp := stamp.2 }

/-- The loop of `evaluate` over the rules, after `made` findings. -/
def evaluateFrom (lib : CppLib) (stamp : ℕ → Bytes × Bytes) (events : List ObservationEvent) :
    ℕ → List DiagnosticRule → List DiagnosticFinding
  | _, [] => []
  | made, rule :: rest =>
    let result := evaluateRule lib events rule
    if rule.conditions ≠ [] ∧ result.1 = true ∧ result.2 ≠ [] then
      makeFinding rule result.2 (stamp made) :: evaluateFrom lib stamp events (made + 1) rest
    else evaluateFrom lib stamp events made rest

/-- `RuleEngine::evaluate` (RuleEngine.cpp:531–569). -/
def evaluate (lib : CppLib) (stamp : ℕ → Bytes × Bytes) (rules : List DiagnosticRule)
    (events : List ObservationEvent) : List DiagnosticFinding :=
  evaluateFrom lib stamp events 0 rules

/-! ## The built-in rules (RuleEngine.cpp:314–447) -/

def kernelRule : DiagnosticRule where
  ruleId := "RULE-KERNEL-001"
  title := "Kernel Version Mismatch"
  category := "kernel"
  severity := .warning
  conditionLogic := .all
  conditions :=
    [{ category := some "package"
       subject := some "kernel"
       signal := some "pacman.kernel_mismatch"
       minSeverity := some .warning }]
  candidateCauses :=
    ["Kernel package was upgraded via pacman/system update but system has not been rebooted."]
  suggestedActions :=
    ["action.system.reboot_recommended", "action.pacman.check_pending_updates"]

def pacmanLockRule : DiagnosticRule where
  ruleId := "RULE-PACMAN-001"
  title := "Stale Pacman Database Lock"
  category := "package"
  severity := .warning
  conditionLogic := .all
  conditions :=
    [{ category := some "package"
       subject := some "pacman_db"
       signal := some "pacman.stale_lock"
       minSeverity := some .warning }]
  candidateCauses :=
    ["Interrupted pacman transaction or dead process left orphan db.lck file."]
  suggestedActions := ["action.pacman.remove_stale_lock", "action.pacman.verify_db_integrity"]

def storageRule : DiagnosticRule where
  ruleId := "RULE-STORAGE-001"
  title := "Storage Pressure Warning"
  category := "storage"
  severity := .warning
  conditionLogic := .any
  conditions :=
    [{ category := some "storage", signal := some "space_pressure", minSeverity := some .warning },
     { category := some "storage", signal := some "inode_pressure", minSeverity := some .warning }]
  candidateCauses := ["Filesystem volume or inode pool is nearing full capacity."]
  suggestedActions := ["action.storage.clean_journal_logs", "action.storage.clean_pacman_cache"]

def memoryRule : DiagnosticRule where
  ruleId := "RULE-MEMORY-001"
  title := "Memory Pressure or OOM Event"
  category := "memory"
  severity := .error
  conditionLogic := .any
  conditions :=
    [{ category := some "memory", signal := some "oom_kill", minSeverity := some .warning },
     { category := some "memory", signal := some "memory_pressure", minSeverity := some .warning }]
  candidateCauses :=
    ["High memory allocation triggered kernel OOM killer or system memory pressure."]
  suggestedActions :=
    ["action.memory.identify_top_consumers", "action.memory.restart_leaking_services"]

def systemdRule : DiagnosticRule where
  ruleId := "RULE-SYSTEMD-001"
  title := "Systemd Unit Failure"
  category := "service"
  severity := .error
  conditionLogic := .all
  conditions :=
    [{ category := some "systemd", signal := some "unit_failed", minSeverity := some .warning }]
  candidateCauses := ["System service entered failed state."]
  suggestedActions := ["action.systemd.restart_unit", "action.systemd.inspect_unit_logs"]

/-- `registerBuiltInRules`. -/
def builtInRules : List DiagnosticRule :=
  [kernelRule, pacmanLockRule, storageRule, memoryRule, systemdRule]

/-! ## What a rule matches -/

section Matching

variable {lib : CppLib} {events : List ObservationEvent} {event : ObservationEvent}

theorem mem_matchedBy {condition : RuleCondition} :
    event ∈ matchedBy lib events condition
      ↔ event ∈ events ∧ matchEventToCondition lib event condition = true :=
  List.mem_filter

/-- Every matched event is an input event that matches a condition of the rule. -/
theorem mem_evaluateAllLogic {conditions : List RuleCondition}
    (h : event ∈ (evaluateAllLogic lib events conditions).2) :
    event ∈ events ∧ ∃ c ∈ conditions, matchEventToCondition lib event c = true := by
  induction conditions with
  | nil => exact absurd h List.not_mem_nil
  | cons c rest ih =>
    unfold evaluateAllLogic at h
    simp only at h
    split at h
    · exact absurd h List.not_mem_nil
    · rcases List.mem_append.mp h with h | h
      · obtain ⟨hmem, hmatch⟩ := mem_matchedBy.mp h
        exact ⟨hmem, c, List.mem_cons_self, hmatch⟩
      · obtain ⟨hmem, c', hc', hmatch⟩ := ih h
        exact ⟨hmem, c', List.mem_cons_of_mem _ hc', hmatch⟩

/-- `any` collects exactly the input events that match some condition. -/
theorem mem_evaluateAnyLogic {conditions : List RuleCondition} :
    event ∈ (evaluateAnyLogic lib events conditions).2
      ↔ event ∈ events ∧ ∃ c ∈ conditions, matchEventToCondition lib event c = true := by
  induction conditions with
  | nil => simp [evaluateAnyLogic]
  | cons c rest ih =>
    show event ∈ matchedBy lib events c ++ (evaluateAnyLogic lib events rest).2 ↔ _
    rw [List.mem_append, mem_matchedBy, ih]
    simp only [List.mem_cons, exists_eq_or_imp]
    tauto

/-- `any` is satisfied exactly when it collects something. -/
theorem evaluateAnyLogic_fst {conditions : List RuleCondition} :
    (evaluateAnyLogic lib events conditions).1 = true
      ↔ (evaluateAnyLogic lib events conditions).2 ≠ [] := by
  induction conditions with
  | nil => simp [evaluateAnyLogic]
  | cons c rest ih =>
    show (!(matchedBy lib events c).isEmpty || (evaluateAnyLogic lib events rest).1) = true
      ↔ matchedBy lib events c ++ (evaluateAnyLogic lib events rest).2 ≠ []
    rw [Bool.or_eq_true, ih, ne_eq, ne_eq, List.append_eq_nil_iff]
    cases matchedBy lib events c with
    | nil => simp
    | cons e es => simp

/-- Whatever the logic, a matched event matches a condition of the rule. -/
theorem matches_of_mem_evaluateRule {rule : DiagnosticRule}
    (h : event ∈ (evaluateRule lib events rule).2) :
    event ∈ events ∧ ∃ c ∈ rule.conditions, matchEventToCondition lib event c = true := by
  unfold evaluateRule at h
  split at h
  · exact mem_evaluateAllLogic h
  · exact mem_evaluateAnyLogic.mp h

end Matching

/-! ## What `evaluate` returns -/

section Findings

variable {lib : CppLib} {stamp : ℕ → Bytes × Bytes} {events : List ObservationEvent}

/-- The rule fires on the events: it yields a finding. -/
def Fires (lib : CppLib) (events : List ObservationEvent) (rule : DiagnosticRule) : Prop :=
  rule.conditions ≠ [] ∧ (evaluateRule lib events rule).1 = true ∧
    (evaluateRule lib events rule).2 ≠ []

instance {rule : DiagnosticRule} : Decidable (Fires lib events rule) :=
  inferInstanceAs (Decidable (_ ∧ _))

/-- Every finding is the finding of a rule that fires. -/
theorem mem_evaluateFrom {made : ℕ} {rules : List DiagnosticRule} {finding : DiagnosticFinding}
    (h : finding ∈ evaluateFrom lib stamp events made rules) :
    ∃ rule ∈ rules, Fires lib events rule ∧
      ∃ k, finding = makeFinding rule (evaluateRule lib events rule).2 (stamp k) := by
  induction rules generalizing made with
  | nil => exact absurd h List.not_mem_nil
  | cons rule rest ih =>
    unfold evaluateFrom at h
    simp only at h
    split at h
    · rename_i hfires
      rcases List.mem_cons.mp h with rfl | h
      · exact ⟨rule, List.mem_cons_self, hfires, made, rfl⟩
      · obtain ⟨r, hr, hrest⟩ := ih h
        exact ⟨r, List.mem_cons_of_mem _ hr, hrest⟩
    · obtain ⟨r, hr, hrest⟩ := ih h
      exact ⟨r, List.mem_cons_of_mem _ hr, hrest⟩

/-- A rule that fires has its finding. -/
theorem exists_finding_of_fires {made : ℕ} {rules : List DiagnosticRule} {rule : DiagnosticRule}
    (hrule : rule ∈ rules) (hfires : Fires lib events rule) :
    ∃ k, makeFinding rule (evaluateRule lib events rule).2 (stamp k)
      ∈ evaluateFrom lib stamp events made rules := by
  induction rules generalizing made with
  | nil => exact absurd hrule List.not_mem_nil
  | cons r rest ih =>
    unfold evaluateFrom
    simp only
    rcases List.mem_cons.mp hrule with rfl | hrest
    · refine ⟨made, ?_⟩
      unfold Fires at hfires
      rw [if_pos hfires]
      exact List.mem_cons_self
    · split
      · obtain ⟨k, hk⟩ := @ih (made + 1) hrest
        exact ⟨k, List.mem_cons_of_mem _ hk⟩
      · exact ih hrest

/-- The findings for one built-in rule: its identifier determines the rule. -/
theorem mem_evaluate_builtIn {finding : DiagnosticFinding} {rule : DiagnosticRule}
    (hrule : rule ∈ builtInRules)
    (h : finding ∈ evaluate lib stamp builtInRules events) (hid : finding.ruleId = rule.ruleId) :
    Fires lib events rule ∧ finding.matchedEvents = (evaluateRule lib events rule).2 := by
  -- the five identifiers differ
  have hunique : (builtInRules.map DiagnosticRule.ruleId).Nodup := by decide
  obtain ⟨r, hr, hfires, k, rfl⟩ := mem_evaluateFrom h
  obtain rfl := List.inj_on_of_nodup_map hunique hr hrule hid
  exact ⟨hfires, rfl⟩

/-- An event in a finding of a built-in rule matches a condition of that rule. -/
theorem matches_of_mem_finding {finding : DiagnosticFinding} {rule : DiagnosticRule}
    {event : ObservationEvent} (hrule : rule ∈ builtInRules)
    (h : finding ∈ evaluate lib stamp builtInRules events) (hid : finding.ruleId = rule.ruleId)
    (hevent : event ∈ finding.matchedEvents) :
    event ∈ events ∧ ∃ c ∈ rule.conditions, matchEventToCondition lib event c = true := by
  rw [(mem_evaluate_builtIn hrule h hid).2] at hevent
  exact matches_of_mem_evaluateRule hevent

/-- A built-in rule has a finding exactly when it fires. -/
theorem finding_builtIn_iff {rule : DiagnosticRule} (hrule : rule ∈ builtInRules) :
    (∃ finding ∈ evaluate lib stamp builtInRules events, finding.ruleId = rule.ruleId)
      ↔ Fires lib events rule := by
  constructor
  · rintro ⟨finding, hmem, hid⟩
    exact (mem_evaluate_builtIn hrule hmem hid).1
  · intro hfires
    obtain ⟨k, hk⟩ := @exists_finding_of_fires lib stamp events 0 _ _ hrule hfires
    exact ⟨_, hk, rfl⟩

/-- An `any` rule fires exactly when some event matches one of its conditions. -/
theorem fires_iff_of_any {rule : DiagnosticRule} (hany : rule.conditionLogic = .any) :
    Fires lib events rule
      ↔ ∃ event ∈ events, ∃ c ∈ rule.conditions, matchEventToCondition lib event c = true := by
  have heval : evaluateRule lib events rule = evaluateAnyLogic lib events rule.conditions := by
    unfold evaluateRule
    rw [hany]
  unfold Fires
  rw [heval, evaluateAnyLogic_fst, and_self]
  constructor
  · rintro ⟨-, hmatched⟩
    obtain ⟨event, hevent⟩ := List.exists_mem_of_ne_nil _ hmatched
    obtain ⟨hmem, hc⟩ := mem_evaluateAnyLogic.mp hevent
    exact ⟨event, hmem, hc⟩
  · rintro ⟨event, hmem, c, hc, hmatch⟩
    exact ⟨List.ne_nil_of_mem hc,
      List.ne_nil_of_mem (mem_evaluateAnyLogic.mpr ⟨hmem, c, hc, hmatch⟩)⟩

/-- So does an `all` rule with one condition. -/
theorem fires_iff_of_all_one {rule : DiagnosticRule} {c : RuleCondition}
    (hall : rule.conditionLogic = .all) (hone : rule.conditions = [c]) :
    Fires lib events rule
      ↔ ∃ event ∈ events, ∃ c ∈ rule.conditions, matchEventToCondition lib event c = true := by
  have heval : evaluateRule lib events rule = evaluateAllLogic lib events [c] := by
    unfold evaluateRule
    rw [hall, hone]
  constructor
  · rintro ⟨-, -, hmatched⟩
    obtain ⟨event, hevent⟩ := List.exists_mem_of_ne_nil _ hmatched
    obtain ⟨hmem, hc⟩ := matches_of_mem_evaluateRule hevent
    exact ⟨event, hmem, hc⟩
  · rintro ⟨event, hmem, c', hc', hmatch⟩
    rw [hone, List.mem_singleton] at hc'
    subst hc'
    have hne : matchedBy lib events c' ≠ [] :=
      List.ne_nil_of_mem (mem_matchedBy.mpr ⟨hmem, hmatch⟩)
    have hresult : evaluateRule lib events rule = (true, matchedBy lib events c') := by
      rw [heval, evaluateAllLogic]
      simp only
      rw [if_neg hne, evaluateAllLogic, List.append_nil]
    refine ⟨by rw [hone]; exact List.cons_ne_nil _ _, ?_, ?_⟩
    · rw [hresult]
    · rw [hresult]
      exact hne

end Findings

/-! ## The two rules of severity `error` -/

section BuiltIn

variable {lib : CppLib} {events : List ObservationEvent}

/-- The event carries a category, one of the signals and at least severity `warning`:
what a condition without source, subject and target value asks for. -/
def Reports (category : Bytes) (signals : List Bytes) (event : ObservationEvent) : Prop :=
  event.category = category ∧ event.signal ∈ signals ∧ 2 ≤ event.severity.rank

instance {category : Bytes} {signals : List Bytes} {event : ObservationEvent} :
    Decidable (Reports category signals event) :=
  inferInstanceAs (Decidable (_ ∧ _))

/-- A condition on category, signal and severity `warning` says `Reports`. -/
theorem matches_signal_iff {category signal : Bytes} {event : ObservationEvent} :
    matchEventToCondition lib event
        { category := some category, signal := some signal, minSeverity := some .warning } = true
      ↔ Reports category [signal] event := by
  have hrank : Severity.warning.rank = 2 := rfl
  unfold matchEventToCondition Reports
  simp [hrank, and_assoc]

/-- RULE-SYSTEMD-001 matches events of the category `systemd` with signal `unit_failed`. -/
theorem matches_systemdRule_iff {event : ObservationEvent} :
    (∃ c ∈ systemdRule.conditions, matchEventToCondition lib event c = true)
      ↔ Reports "systemd" ["unit_failed"] event := by
  rw [← @matches_signal_iff lib]
  simp [systemdRule]

/-- Two conditions that differ in their signal. -/
theorem matches_two_signals_iff {category first second : Bytes} {event : ObservationEvent} :
    (∃ c ∈ ([{ category := some category, signal := some first, minSeverity := some .warning },
        { category := some category, signal := some second, minSeverity := some .warning }]
          : List RuleCondition), matchEventToCondition lib event c = true)
      ↔ Reports category [first, second] event := by
  have hsplit : Reports category [first, second] event
      ↔ Reports category [first] event ∨ Reports category [second] event := by
    unfold Reports
    simp only [List.mem_cons, List.not_mem_nil, or_false]
    tauto
  rw [hsplit, ← @matches_signal_iff lib, ← @matches_signal_iff lib]
  simp

/-- RULE-MEMORY-001 matches the signals `oom_kill` and `memory_pressure` of the category
`memory`. -/
theorem matches_memoryRule_iff {event : ObservationEvent} :
    (∃ c ∈ memoryRule.conditions, matchEventToCondition lib event c = true)
      ↔ Reports "memory" ["oom_kill", "memory_pressure"] event :=
  matches_two_signals_iff

theorem fires_systemdRule_iff :
    Fires lib events systemdRule ↔ ∃ event ∈ events, Reports "systemd" ["unit_failed"] event := by
  rw [fires_iff_of_all_one rfl rfl]
  exact exists_congr fun event => and_congr_right fun _ => matches_systemdRule_iff

theorem fires_memoryRule_iff :
    Fires lib events memoryRule
      ↔ ∃ event ∈ events, Reports "memory" ["oom_kill", "memory_pressure"] event := by
  rw [fires_iff_of_any rfl]
  exact exists_congr fun event => and_congr_right fun _ => matches_memoryRule_iff

/-! ## The three rules of severity `warning` -/

/-- What a condition with a subject asks for as well. -/
def ReportsOn (category subject signal : Bytes) (event : ObservationEvent) : Prop :=
  event.category = category ∧ event.subject = subject ∧ event.signal = signal ∧
    2 ≤ event.severity.rank

theorem matches_subject_iff {category subject signal : Bytes} {event : ObservationEvent} :
    matchEventToCondition lib event
        { category := some category, subject := some subject, signal := some signal,
          minSeverity := some .warning } = true
      ↔ ReportsOn category subject signal event := by
  have hrank : Severity.warning.rank = 2 := rfl
  unfold matchEventToCondition ReportsOn
  simp [hrank, and_assoc]

theorem fires_kernelRule_iff :
    Fires lib events kernelRule
      ↔ ∃ event ∈ events, ReportsOn "package" "kernel" "pacman.kernel_mismatch" event := by
  rw [fires_iff_of_all_one rfl rfl]
  refine exists_congr fun event => and_congr_right fun _ => ?_
  rw [← @matches_subject_iff lib]
  simp [kernelRule]

theorem fires_pacmanLockRule_iff :
    Fires lib events pacmanLockRule
      ↔ ∃ event ∈ events, ReportsOn "package" "pacman_db" "pacman.stale_lock" event := by
  rw [fires_iff_of_all_one rfl rfl]
  refine exists_congr fun event => and_congr_right fun _ => ?_
  rw [← @matches_subject_iff lib]
  simp [pacmanLockRule]

theorem fires_storageRule_iff :
    Fires lib events storageRule
      ↔ ∃ event ∈ events, Reports "storage" ["space_pressure", "inode_pressure"] event := by
  rw [fires_iff_of_any rfl]
  exact exists_congr fun event => and_congr_right fun _ => matches_two_signals_iff

/-- The events of two signals, one after the other, are the events of either. -/
theorem matchedBy_two_signals_perm {category first second : Bytes} (hdiffer : second ≠ first) :
    (matchedBy lib events
        { category := some category, signal := some first, minSeverity := some .warning } ++
      matchedBy lib events
        { category := some category, signal := some second, minSeverity := some .warning }).Perm
      (events.filter fun event => decide (Reports category [first, second] event)) := by
  -- the two lists are the two halves of the matching events
  have hfirst : matchedBy lib events
      { category := some category, signal := some first, minSeverity := some .warning }
        = (events.filter fun event => decide (Reports category [first, second] event)).filter
            fun event => decide (event.signal = first) := by
    rw [matchedBy, List.filter_filter]
    refine List.filter_congr fun event _ => ?_
    rw [Bool.eq_iff_iff, matches_signal_iff]
    simp only [Reports, List.mem_cons, List.not_mem_nil, or_false, Bool.and_eq_true,
      decide_eq_true_eq]
    tauto
  have hsecond : matchedBy lib events
      { category := some category, signal := some second, minSeverity := some .warning }
        = (events.filter fun event => decide (Reports category [first, second] event)).filter
            fun event => !decide (event.signal = first) := by
    rw [matchedBy, List.filter_filter]
    refine List.filter_congr fun event _ => ?_
    rw [Bool.eq_iff_iff, matches_signal_iff]
    simp only [Reports, List.mem_cons, List.not_mem_nil, or_false, Bool.and_eq_true,
      Bool.not_eq_true', decide_eq_false_iff_not, decide_eq_true_eq]
    constructor
    · rintro ⟨hcategory, hsignal, hrank⟩
      exact ⟨hsignal ▸ hdiffer, hcategory, Or.inr hsignal, hrank⟩
    · rintro ⟨hne, hcategory, hsignal, hrank⟩
      exact ⟨hcategory, hsignal.resolve_left hne, hrank⟩
  rw [hfirst, hsecond]
  exact List.filter_append_perm _ _

/-- What RULE-STORAGE-001 collects. -/
theorem evaluateRule_storageRule_perm :
    (evaluateRule lib events storageRule).2.Perm
      (events.filter fun event =>
        decide (Reports "storage" ["space_pressure", "inode_pressure"] event)) := by
  show (matchedBy lib events _ ++ (matchedBy lib events _ ++ [])).Perm _
  rw [List.append_nil]
  exact matchedBy_two_signals_perm (by decide)

end BuiltIn

end RuleEngine

end Holonight
