import Holonight.Health.RuleEngine

/-!
# The logical meaning of a rule

`RuleEngine::evaluate` decides a rule with two nested loops that collect events on the way
and, for `all`, leave early; a finding also needs the collected list not to be empty. This
file says what the loops compute in terms of the conditions alone (`Satisfied`): an `all`
rule asks for an event for each of its conditions, an `any` rule for an event for one of
them. A rule without conditions never yields a finding, although the loop of `all` accepts
it.

`evaluate_meaning` is the whole of `evaluate`: its findings are, in the order of the rules,
one for each satisfied rule that has a condition.
-/

namespace Holonight

namespace RuleEngine

/-! ## Satisfaction -/

/-- Some event matches the condition. -/
def Witnessed (lib : CppLib) (events : List ObservationEvent) (condition : RuleCondition) : Prop :=
  ∃ event ∈ events, matchEventToCondition lib event condition = true

/-- The conditions hold in the logic of the rule. -/
def Satisfied (lib : CppLib) (events : List ObservationEvent) (rule : DiagnosticRule) : Prop :=
  match rule.conditionLogic with
  | .all => ∀ condition ∈ rule.conditions, Witnessed lib events condition
  | .any => ∃ condition ∈ rule.conditions, Witnessed lib events condition

/-- The rule has a condition and is satisfied. -/
def Triggered (lib : CppLib) (events : List ObservationEvent) (rule : DiagnosticRule) : Prop :=
  rule.conditions ≠ [] ∧ Satisfied lib events rule

instance {lib : CppLib} {events : List ObservationEvent} {condition : RuleCondition} :
    Decidable (Witnessed lib events condition) :=
  inferInstanceAs (Decidable (∃ event ∈ events, _))

instance {lib : CppLib} {events : List ObservationEvent} {rule : DiagnosticRule} :
    Decidable (Satisfied lib events rule) :=
  match h : rule.conditionLogic with
  | .all =>
    decidable_of_iff (∀ condition ∈ rule.conditions, Witnessed lib events condition)
      (by rw [Satisfied, h])
  | .any =>
    decidable_of_iff (∃ condition ∈ rule.conditions, Witnessed lib events condition)
      (by rw [Satisfied, h])

instance {lib : CppLib} {events : List ObservationEvent} {rule : DiagnosticRule} :
    Decidable (Triggered lib events rule) :=
  inferInstanceAs (Decidable (_ ∧ _))

/-- The rules that are triggered, in their order. -/
def triggeredRules (lib : CppLib) (events : List ObservationEvent) (rules : List DiagnosticRule) :
    List DiagnosticRule :=
  rules.filter fun rule => decide (Triggered lib events rule)

/-! ## What the loops decide -/

section Loops

variable {lib : CppLib} {events : List ObservationEvent} {condition : RuleCondition}
  {rule : DiagnosticRule}

theorem matchedBy_ne_nil_iff :
    matchedBy lib events condition ≠ [] ↔ Witnessed lib events condition := by
  constructor
  · intro hne
    obtain ⟨event, hmem⟩ := List.exists_mem_of_ne_nil _ hne
    obtain ⟨hevent, hmatch⟩ := mem_matchedBy.mp hmem
    exact ⟨event, hevent, hmatch⟩
  · rintro ⟨event, hevent, hmatch⟩
    exact List.ne_nil_of_mem (mem_matchedBy.mpr ⟨hevent, hmatch⟩)

/-- The loop of `all` reaches its end exactly when every condition has an event. -/
theorem evaluateAllLogic_fst {conditions : List RuleCondition} :
    (evaluateAllLogic lib events conditions).1 = true
      ↔ ∀ condition ∈ conditions, Witnessed lib events condition := by
  induction conditions with
  | nil => simp [evaluateAllLogic]
  | cons c rest ih =>
    rw [List.forall_mem_cons, ← matchedBy_ne_nil_iff, ← ih]
    by_cases hnone : matchedBy lib events c = []
    · simp [evaluateAllLogic, hnone]
    · simp [evaluateAllLogic, hnone]

/-- What `all` has collected when it reaches its end comes from its first condition at
least. -/
theorem evaluateAllLogic_snd_ne_nil {conditions : List RuleCondition} (hsome : conditions ≠ [])
    (h : ∀ condition ∈ conditions, Witnessed lib events condition) :
    (evaluateAllLogic lib events conditions).2 ≠ [] := by
  cases conditions with
  | nil => exact absurd rfl hsome
  | cons c rest =>
    have hfirst : matchedBy lib events c ≠ [] :=
      matchedBy_ne_nil_iff.mpr (h c List.mem_cons_self)
    unfold evaluateAllLogic
    simp only [hfirst, if_false]
    exact List.append_ne_nil_of_left_ne_nil hfirst _

theorem evaluateAnyLogic_snd_ne_nil_iff {conditions : List RuleCondition} :
    (evaluateAnyLogic lib events conditions).2 ≠ []
      ↔ ∃ condition ∈ conditions, Witnessed lib events condition := by
  constructor
  · intro hne
    obtain ⟨event, hmem⟩ := List.exists_mem_of_ne_nil _ hne
    obtain ⟨hevent, c, hc, hmatch⟩ := mem_evaluateAnyLogic.mp hmem
    exact ⟨c, hc, event, hevent, hmatch⟩
  · rintro ⟨c, hc, event, hevent, hmatch⟩
    exact List.ne_nil_of_mem (mem_evaluateAnyLogic.mpr ⟨hevent, c, hc, hmatch⟩)

/-- **A rule fires exactly when it is triggered**: the test of the collected list adds
nothing to the logic, and for `all` it is implied by it. -/
theorem fires_iff_triggered : Fires lib events rule ↔ Triggered lib events rule := by
  unfold Fires Triggered Satisfied evaluateRule
  refine and_congr_right fun hsome => ?_
  cases rule.conditionLogic with
  | all =>
    show (evaluateAllLogic lib events rule.conditions).1 = true
      ∧ (evaluateAllLogic lib events rule.conditions).2 ≠ [] ↔ _
    rw [evaluateAllLogic_fst]
    exact and_iff_left_of_imp (evaluateAllLogic_snd_ne_nil hsome)
  | any =>
    show (evaluateAnyLogic lib events rule.conditions).1 = true
      ∧ (evaluateAnyLogic lib events rule.conditions).2 ≠ [] ↔ _
    rw [evaluateAnyLogic_fst, and_self]
    exact evaluateAnyLogic_snd_ne_nil_iff

end Loops

/-! ## What `evaluate` returns -/

/-- The finding is one of the rule: it carries the rule's own data, and every matched event
is an input event that matches one of the rule's conditions. -/
structure FindingOf (lib : CppLib) (events : List ObservationEvent) (rule : DiagnosticRule)
    (finding : DiagnosticFinding) : Prop where
  ruleId : finding.ruleId = rule.ruleId
  title : finding.title = rule.title
  category : finding.category = rule.category
  severity : finding.severity = rule.severity
  candidateCauses : finding.candidateCauses = rule.candidateCauses
  suggestedActions : finding.suggestedActions = rule.suggestedActions
  matchedEvents : ∀ event ∈ finding.matchedEvents,
    event ∈ events ∧ ∃ condition ∈ rule.conditions, matchEventToCondition lib event condition = true

theorem findingOf_makeFinding (lib : CppLib) (events : List ObservationEvent)
    (rule : DiagnosticRule) (stamp : Bytes × Bytes) :
    FindingOf lib events rule (makeFinding rule (evaluateRule lib events rule).2 stamp) where
  ruleId := rfl
  title := rfl
  category := rfl
  severity := rfl
  candidateCauses := rfl
  suggestedActions := rfl
  matchedEvents := fun _ hmem => matches_of_mem_evaluateRule hmem

/-- The loop over the rules, from any number of findings already made: what holds between
every rule and the finding that is made for it holds between the triggered rules and the
findings, in their order. -/
theorem evaluateFrom_forall₂ {lib : CppLib} {stamp : ℕ → Bytes × Bytes}
    {events : List ObservationEvent} {related : DiagnosticRule → DiagnosticFinding → Prop}
    (h : ∀ rule stamp, Triggered lib events rule →
      related rule (makeFinding rule (evaluateRule lib events rule).2 stamp))
    (made : ℕ) (rules : List DiagnosticRule) :
    List.Forall₂ related (triggeredRules lib events rules)
      (evaluateFrom lib stamp events made rules) := by
  induction rules generalizing made with
  | nil => exact List.Forall₂.nil
  | cons rule rest ih =>
    by_cases htriggered : Triggered lib events rule
    · have hfires : Fires lib events rule := fires_iff_triggered.mpr htriggered
      have hstep : evaluateFrom lib stamp events made (rule :: rest)
          = makeFinding rule (evaluateRule lib events rule).2 (stamp made)
            :: evaluateFrom lib stamp events (made + 1) rest := if_pos hfires
      have hrules : triggeredRules lib events (rule :: rest)
          = rule :: triggeredRules lib events rest :=
        List.filter_cons_of_pos (decide_eq_true htriggered)
      rw [hstep, hrules]
      exact List.Forall₂.cons (h rule (stamp made) htriggered) (ih (made + 1))
    · have hquiet : ¬ Fires lib events rule := fun hfires =>
        htriggered (fires_iff_triggered.mp hfires)
      have hstep : evaluateFrom lib stamp events made (rule :: rest)
          = evaluateFrom lib stamp events made rest := if_neg hquiet
      have hrules : triggeredRules lib events (rule :: rest) = triggeredRules lib events rest :=
        List.filter_cons_of_neg (by simpa using htriggered)
      rw [hstep, hrules]
      exact ih made

theorem evaluateFrom_meaning (lib : CppLib) (stamp : ℕ → Bytes × Bytes)
    (events : List ObservationEvent) (made : ℕ) (rules : List DiagnosticRule) :
    List.Forall₂ (FindingOf lib events) (triggeredRules lib events rules)
      (evaluateFrom lib stamp events made rules) :=
  evaluateFrom_forall₂ (fun rule stamp _ => findingOf_makeFinding lib events rule stamp) made rules

/-- **Rule evaluation equals its logical meaning**: for all rules and events the findings
are, in rule order, exactly one for each rule that has a condition and is satisfied. -/
theorem evaluate_meaning (lib : CppLib) (stamp : ℕ → Bytes × Bytes)
    (rules : List DiagnosticRule) (events : List ObservationEvent) :
    List.Forall₂ (FindingOf lib events)
      (rules.filter fun rule => decide (rule.conditions ≠ [] ∧ Satisfied lib events rule))
      (evaluate lib stamp rules events) :=
  evaluateFrom_meaning lib stamp events 0 rules

end RuleEngine

end Holonight
