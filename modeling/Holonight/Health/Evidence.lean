import Holonight.Health.Evaluation

/-!
# The evidence of a finding

The loops of `evaluate` append, condition by condition, every event that matches. What a
finding lists is therefore the events of each condition one after the other, and an event
that matches two conditions of a satisfied rule is listed twice.

- `flatMap_filter_perm_iff` is the general fact: the parts that several tests select from a
  list, put together, are the elements that some test selects, each once, exactly when no
  element passes two tests;
- `matchedEvents_once_iff`: **a finding lists each piece of evidence once exactly when no
  input event matches two conditions of its rule.**
-/

namespace Holonight

/-! ## Selecting from a list by several tests -/

section Select

variable {α β : Type*} [DecidableEq α] {test : β → α → Bool}

/-- An element is selected once for each test it passes, at each of its positions. -/
theorem count_flatMap_filter (tests : List β) (l : List α) (a : α) :
    (tests.flatMap fun t => l.filter (test t)).count a
      = tests.countP (fun t => test t a) * l.count a := by
  induction tests with
  | nil => rw [List.flatMap_nil, List.count_nil, List.countP_nil, Nat.zero_mul]
  | cons t tests ih =>
    rw [List.flatMap_cons, List.count_append, ih, List.countP_cons]
    cases hpass : test t a with
    | true =>
      rw [List.count_filter hpass, if_pos rfl, Nat.add_mul, Nat.one_mul, Nat.add_comm]
    | false =>
      have hnone : (l.filter (test t)).count a = 0 := by
        rw [List.count_eq_zero, List.mem_filter, hpass]
        simp
      rw [hnone, if_neg Bool.false_ne_true, Nat.zero_add, Nat.add_zero]

/-- **Each element that some test selects is there once, and nothing else, exactly when no
element passes two tests.** -/
theorem flatMap_filter_perm_iff {tests : List β} {l : List α} :
    (tests.flatMap fun t => l.filter (test t)).Perm
        (l.filter fun a => tests.any fun t => test t a) ↔
      ∀ a ∈ l, tests.countP (fun t => test t a) ≤ 1 := by
  -- how often an element is selected by one of the tests
  have hselected : ∀ a, (l.filter fun a => tests.any fun t => test t a).count a
      = if tests.countP (fun t => test t a) = 0 then 0 else l.count a := by
    intro a
    split
    · rename_i hzero
      rw [List.count_eq_zero, List.mem_filter, List.any_eq_true]
      rintro ⟨-, t, ht, hpass⟩
      exact List.countP_eq_zero.mp hzero t ht hpass
    · rename_i hpos
      refine List.count_filter (List.any_eq_true.mpr ?_)
      exact List.countP_pos_iff.mp (Nat.pos_of_ne_zero hpos)
  rw [List.perm_iff_count]
  constructor
  · intro hcount a hmem
    have hpos : 0 < l.count a := List.count_pos_iff.mpr hmem
    have heq := hcount a
    rw [count_flatMap_filter, hselected] at heq
    split at heq
    · omega
    · exact (Nat.eq_of_mul_eq_mul_right hpos (heq.trans (Nat.one_mul _).symm)).le
  · intro hone a
    rw [count_flatMap_filter, hselected]
    by_cases hmem : a ∈ l
    · have hle := hone a hmem
      split
      · rename_i hzero
        rw [hzero, Nat.zero_mul]
      · rw [show tests.countP (fun t => test t a) = 1 by omega, Nat.one_mul]
    · rw [List.count_eq_zero.mpr hmem, Nat.mul_zero, ite_self]

end Select

namespace RuleEngine

/-! ## What a satisfied rule collects -/

section Collected

variable {lib : CppLib} {events : List ObservationEvent} {rule : DiagnosticRule}

theorem evaluateAnyLogic_snd (conditions : List RuleCondition) :
    (evaluateAnyLogic lib events conditions).2 = conditions.flatMap (matchedBy lib events) := by
  induction conditions with
  | nil => rfl
  | cons c rest ih =>
    rw [List.flatMap_cons, ← ih]
    rfl

/-- Where every condition has an event the loop of `all` does not leave early. -/
theorem evaluateAllLogic_snd {conditions : List RuleCondition}
    (h : ∀ condition ∈ conditions, Witnessed lib events condition) :
    (evaluateAllLogic lib events conditions).2 = conditions.flatMap (matchedBy lib events) := by
  induction conditions with
  | nil => rfl
  | cons c rest ih =>
    have hfirst : matchedBy lib events c ≠ [] := matchedBy_ne_nil_iff.mpr (h c List.mem_cons_self)
    rw [List.flatMap_cons, ← ih fun condition hc => h condition (List.mem_cons_of_mem _ hc),
      evaluateAllLogic]
    simp only [hfirst, if_false]

/-- A satisfied rule collects the events of its conditions, condition by condition. -/
theorem evaluateRule_snd (h : Satisfied lib events rule) :
    (evaluateRule lib events rule).2 = rule.conditions.flatMap (matchedBy lib events) := by
  unfold Satisfied at h
  unfold evaluateRule
  cases hlogic : rule.conditionLogic with
  | all =>
    rw [hlogic] at h
    exact evaluateAllLogic_snd h
  | any => exact evaluateAnyLogic_snd rule.conditions

end Collected

/-! ## Is each piece of evidence listed once? -/

/-- The event matches at least one condition of the rule. -/
def isEvidence (lib : CppLib) (rule : DiagnosticRule) (event : ObservationEvent) : Bool :=
  rule.conditions.any fun condition => matchEventToCondition lib event condition

/-- No event of the list matches two conditions of the rule. -/
def ConditionsDisjoint (lib : CppLib) (events : List ObservationEvent) (rule : DiagnosticRule) :
    Prop :=
  ∀ event ∈ events,
    rule.conditions.countP (fun condition => matchEventToCondition lib event condition) ≤ 1

/-- **Findings list each piece of evidence once exactly when no input event matches two
conditions**: for all rules and events, of each satisfied rule (in rule order) and its
finding, the matched events are, up to their order, the input events that match a condition,
position by position. -/
theorem matchedEvents_once_iff (lib : CppLib) (stamp : ℕ → Bytes × Bytes)
    (rules : List DiagnosticRule) (events : List ObservationEvent) :
    List.Forall₂
      (fun rule finding => finding.ruleId = rule.ruleId ∧
        (finding.matchedEvents.Perm (events.filter (isEvidence lib rule)) ↔
          ConditionsDisjoint lib events rule))
      (triggeredRules lib events rules) (evaluate lib stamp rules events) := by
  refine evaluateFrom_forall₂ (fun rule stamp htriggered => ⟨rfl, ?_⟩) 0 rules
  show (evaluateRule lib events rule).2.Perm _ ↔ _
  rw [evaluateRule_snd htriggered.2]
  exact flatMap_filter_perm_iff

/-- Two conditions for one event: full storage is listed by its category and again by its
severity. -/
theorem matchedEvents_lists_twice :
    ¬∀ (rules : List DiagnosticRule) (events : List ObservationEvent),
      List.Forall₂
        (fun rule finding => finding.matchedEvents.Perm (events.filter (isEvidence .integral rule)))
        (triggeredRules .integral events rules)
        (evaluate .integral (fun _ => ([], [])) rules events) := by
  intro h
  let rule : DiagnosticRule :=
    { ruleId := "R", title := "T", category := "storage", conditionLogic := .any
      conditions := [{ category := some "storage" }, { minSeverity := some .warning }] }
  let event : ObservationEvent :=
    { timestamp := 0, source := "storage", category := "storage", subject := "/"
      signal := "space_pressure", severity := .warning }
  have htriggered : triggeredRules .integral [event] [rule] = [rule] := by decide +kernel
  have hlengths : (evaluate .integral (fun _ => ([], [])) [rule] [event]).map
      (fun finding => finding.matchedEvents.length) = [2] := by decide +kernel
  have hevidence : ([event].filter (isEvidence .integral rule)).length = 1 := by decide +kernel
  have hlisted := h [rule] [event]
  rw [htriggered] at hlisted
  obtain ⟨finding, findings, hperm, -, hfindings⟩ := List.forall₂_cons_left_iff.mp hlisted
  rw [hfindings, List.map_cons, hperm.length_eq, hevidence] at hlengths
  cases hlengths

end RuleEngine

end Holonight
