import Holonight.Base.JsonObjects
import Holonight.Base.JsonRoundTrip
import Holonight.Health.Evaluation
import Holonight.Storage.ObservationJson

/-!
# Rules from JSON documents (`RuleEngine::loadRuleFromJson`)

The loader takes a document apart key by key. Three keys are required, the severity and the
logic of the rule must be known where they are strings, and of the conditions it takes what
it understands: a key of another type, an unknown severity or operator, and even a condition
that is no object are passed over.

- `Denotes` and `DenotesCondition` say which rule a document is meant to be, in the words of
  the published schema and with the names that `severityToString`, `logicOperatorToString` and
  `matchOperatorToString` give; `loadRule_of_denotes`: **the loader returns that rule.**
- `WellWritten` says what the schema asks of one condition. **A loaded rule reflects what its
  document says exactly when every condition is well written**
  (`loadRuleFromJson_reflects_iff`).
-/

namespace Holonight

namespace RuleEngine

/-! ## The names of the operators -/

/-- `matchOperatorToString` (RuleEngine.cpp:244–264). -/
def matchOperatorToString : MatchOperator → Bytes
  | .equals => "equals"
  | .notEquals => "not_equals"
  | .greaterThan => "greater_than"
  | .greaterThanOrEqual => "greater_than_or_equal"
  | .lessThan => "less_than"
  | .lessThanOrEqual => "less_than_or_equal"
  | .contains => "contains"
  | .regex => "regex"

/-- `matchOperatorFromString` (RuleEngine.cpp:266–292). -/
def matchOperatorFromString (str : Bytes) : Except Bytes MatchOperator :=
  if str = "equals" then .ok .equals
  else if str = "not_equals" then .ok .notEquals
  else if str = "greater_than" then .ok .greaterThan
  else if str = "greater_than_or_equal" then .ok .greaterThanOrEqual
  else if str = "less_than" then .ok .lessThan
  else if str = "less_than_or_equal" then .ok .lessThanOrEqual
  else if str = "contains" then .ok .contains
  else if str = "regex" then .ok .regex
  else .error (Bytes.ofString "Invalid MatchOperator: " ++ str)

/-- `logicOperatorToString` (RuleEngine.cpp:294–302). -/
def logicOperatorToString : LogicOperator → Bytes
  | .all => "all"
  | .any => "any"

/-- `logicOperatorFromString` (RuleEngine.cpp:304–312). -/
def logicOperatorFromString (str : Bytes) : Except Bytes LogicOperator :=
  if str = "all" then .ok .all
  else if str = "any" then .ok .any
  else .error (Bytes.ofString "Invalid LogicOperator: " ++ str)

/-! ## The loader -/

open Json

/-- `parseConditionItem` (RuleEngine.cpp:200–228): what a key does not give stays as it is
in `cond`. -/
def parseConditionItem (item : Json) (cond : RuleCondition) : RuleCondition where
  source := (item.stringAt "source").or cond.source
  category := (item.stringAt "category").or cond.category
  subject := (item.stringAt "subject").or cond.subject
  signal := (item.stringAt "signal").or cond.signal
  minSeverity :=
    -- an unknown severity is no constraint
    ((item.stringAt "min_severity").bind fun s => (severityFromString s).toOption).or
      cond.minSeverity
  targetValue := (item.stringAt "target_value").or cond.targetValue
  valueOperator :=
    ((item.stringAt "value_operator").bind fun s => (matchOperatorFromString s).toOption).getD
      cond.valueOperator

/-- `parseStringArray` (RuleEngine.cpp:230–240): items that are no strings are left out. -/
def parseStringArray (root : Json) (key : Bytes) : List Bytes :=
  match root.field key with
  | some (.arr items) => items.filterMap asString
  | _ => []

/-- A required string (RuleEngine.cpp:455–468). -/
def requiredString (key : Bytes) (root : Json) : Except Bytes Bytes :=
  match root.stringAt key with
  | some s => .ok s
  | none =>
    .error (Bytes.ofString "Missing or invalid '" ++ key ++ Bytes.ofString "' string")

/-- The elements of `conditions`; there are none where it is no array
(RuleEngine.cpp:486–487). -/
def writtenConditions (root : Json) : List Json :=
  match root.field "conditions" with
  | some (.arr items) => items
  | _ => []

/-- `loadRuleFromJson` after the document is parsed (RuleEngine.cpp:454–497). -/
def loadRule (root : Json) : Except Bytes DiagnosticRule := do
  let ruleId ← requiredString "rule_id" root
  let title ← requiredString "title" root
  let category ← requiredString "category" root
  -- a severity or a logic that is no string leaves the default
  let severity ← (root.stringAt "severity").elim (.ok .warning) severityFromString
  let conditionLogic ← (root.stringAt "condition_logic").elim (.ok .all) logicOperatorFromString
  .ok {
    ruleId, title, category, severity, conditionLogic
    conditions := (writtenConditions root).map fun item => parseConditionItem item {}
    candidateCauses := parseStringArray root "candidate_causes"
    suggestedActions := parseStringArray root "suggested_actions" }

/-- `RuleEngine::loadRuleFromJson` (RuleEngine.cpp:450–501). -/
def loadRuleFromJson {lib : CppLib} (J : JsonLibrary lib) (jsonStr : Bytes) :
    Except Bytes DiagnosticRule :=
  match J.parse jsonStr with
  | .ok root => loadRule root
  | .error what => .error (Bytes.ofString "JSON parse error: " ++ what)

/-! ## The names are read as they are written -/

theorem severityFromString_eq_ok_iff {str : Bytes} {severity : Severity} :
    severityFromString str = .ok severity ↔ str = severityToString severity := by
  constructor
  · intro h
    unfold severityFromString at h
    split_ifs at h with hdebug hinfo hwarning herror hcritical
    all_goals cases h
    · exact hdebug
    · exact hinfo
    · exact hwarning
    · exact herror
    · exact hcritical
  · rintro rfl
    cases severity <;> rfl

theorem logicOperatorFromString_eq_ok_iff {str : Bytes} {operatorVal : LogicOperator} :
    logicOperatorFromString str = .ok operatorVal ↔ str = logicOperatorToString operatorVal := by
  constructor
  · intro h
    unfold logicOperatorFromString at h
    split_ifs at h with hall hany
    all_goals cases h
    · exact hall
    · exact hany
  · rintro rfl
    cases operatorVal <;> rfl

theorem matchOperatorFromString_eq_ok_iff {str : Bytes} {operatorVal : MatchOperator} :
    matchOperatorFromString str = .ok operatorVal ↔ str = matchOperatorToString operatorVal := by
  constructor
  · intro h
    unfold matchOperatorFromString at h
    split_ifs at h
    all_goals cases h
    all_goals assumption
  · rintro rfl
    cases operatorVal <;> rfl

/-- A name as an optional value: what the conditions keep of it. -/
theorem toOption_eq_some_iff {ε α : Type} {result : Except ε α} {a : α} :
    result.toOption = some a ↔ result = .ok a := by
  cases result with
  | ok b => simp [Except.toOption]
  | error e => simp [Except.toOption]

/-! ## What a condition says -/

/-- The five keys of a condition whose values are any strings. -/
def stringKeys : List Bytes := ["source", "category", "subject", "signal", "target_value"]

/-- What the schema asks of one element of `conditions`: an object, with strings under the
keys it has, of which a severity and an operator must be known ones. -/
structure WellWritten (item : Json) : Prop where
  isObject : ∃ fields, item = .obj fields
  strings : ∀ key ∈ stringKeys, ∀ value, item.field key = some value → ∃ s, value = .str s
  minSeverity : ∀ value, item.field "min_severity" = some value →
    ∃ severity, value = .str (severityToString severity)
  valueOperator : ∀ value, item.field "value_operator" = some value →
    ∃ operatorVal, value = .str (matchOperatorToString operatorVal)

/-- The optional constraints of a condition as the values of their keys. -/
def constraintValues (condition : RuleCondition) : List (Bytes × Option Json) :=
  [("source", condition.source.map .str),
    ("category", condition.category.map .str),
    ("subject", condition.subject.map .str),
    ("signal", condition.signal.map .str),
    ("min_severity", condition.minSeverity.map fun severity => .str (severityToString severity)),
    ("target_value", condition.targetValue.map .str)]

/-- A condition as the values of its keys; the operator always has one. -/
def conditionValues (condition : RuleCondition) : List (Bytes × Option Json) :=
  ("value_operator", some (.str (matchOperatorToString condition.valueOperator))) ::
    constraintValues condition

/-- The element is an object, and whatever it says under one of the seven keys is the
condition's value there. -/
structure Reflects (item : Json) (condition : RuleCondition) : Prop where
  isObject : ∃ fields, item = .obj fields
  values : ∀ entry ∈ conditionValues condition, ∀ value,
    item.field entry.1 = some value → entry.2 = some value

/-- A key with any string: it is taken over exactly when it is one. -/
theorem map_stringAt_iff {item : Json} {key : Bytes} :
    (∀ value, item.field key = some value → (item.stringAt key).map Json.str = some value) ↔
      ∀ value, item.field key = some value → ∃ s, value = .str s := by
  refine forall_congr' fun value => imp_congr_right fun hfield => ?_
  rw [stringAt, hfield, Option.bind_some]
  cases value with
  | str s => simp [asString]
  | _ => simp [asString]

/-- A key with a name: it is taken over exactly when the name is known. -/
theorem map_named_iff {α : Type} {item : Json} {key : Bytes} {read : Bytes → Except Bytes α}
    {write : α → Bytes} (hcodec : ∀ {s a}, read s = .ok a ↔ s = write a) :
    (∀ value, item.field key = some value →
      ((item.stringAt key).bind fun s => (read s).toOption).map (fun a => Json.str (write a))
        = some value) ↔
      ∀ value, item.field key = some value → ∃ a, value = .str (write a) := by
  refine forall_congr' fun value => imp_congr_right fun hfield => ?_
  rw [stringAt, hfield, Option.bind_some]
  simp only [Option.map_eq_some_iff, Option.bind_eq_some_iff, asString_eq_some_iff,
    toOption_eq_some_iff, hcodec]
  constructor
  · rintro ⟨a, -, rfl⟩
    exact ⟨a, rfl⟩
  · rintro ⟨a, rfl⟩
    exact ⟨a, ⟨_, rfl, rfl⟩, rfl⟩

theorem getD_named_iff {item : Json} {key : Bytes} {default : MatchOperator} :
    (∀ value, item.field key = some value →
      some (Json.str (matchOperatorToString
        (((item.stringAt key).bind fun s => (matchOperatorFromString s).toOption).getD default)))
          = some value) ↔
      ∀ value, item.field key = some value →
        ∃ operatorVal, value = .str (matchOperatorToString operatorVal) := by
  refine forall_congr' fun value => imp_congr_right fun hfield => ?_
  constructor
  · intro h
    exact ⟨_, (Option.some_inj.mp h).symm⟩
  · rintro ⟨operatorVal, rfl⟩
    rw [stringAt_eq_some_iff.mpr hfield, Option.bind_some,
      matchOperatorFromString_eq_ok_iff.mpr rfl]
    rfl

/-- **A condition that is read reflects its element exactly when that is well written.** -/
theorem reflects_parseConditionItem_iff {item : Json} :
    Reflects item (parseConditionItem item {}) ↔ WellWritten item := by
  have hvalues : (∀ entry ∈ conditionValues (parseConditionItem item {}), ∀ value,
      item.field entry.1 = some value → entry.2 = some value) ↔
      (∀ key ∈ stringKeys, ∀ value, item.field key = some value → ∃ s, value = .str s) ∧
      (∀ value, item.field "min_severity" = some value →
        ∃ severity, value = .str (severityToString severity)) ∧
      ∀ value, item.field "value_operator" = some value →
        ∃ operatorVal, value = .str (matchOperatorToString operatorVal) := by
    rw [← map_named_iff severityFromString_eq_ok_iff, ← @getD_named_iff item _ .equals]
    simp only [conditionValues, constraintValues, parseConditionItem, stringKeys, Option.or_none,
      List.forall_mem_cons, List.not_mem_nil, false_implies, implies_true, and_true,
      map_stringAt_iff]
    constructor
    · rintro ⟨hoperator, hsource, hcategory, hsubject, hsignal, hseverity, htarget⟩
      exact ⟨⟨hsource, hcategory, hsubject, hsignal, htarget⟩, hseverity, hoperator⟩
    · rintro ⟨⟨hsource, hcategory, hsubject, hsignal, htarget⟩, hseverity, hoperator⟩
      exact ⟨hoperator, hsource, hcategory, hsubject, hsignal, hseverity, htarget⟩
  constructor
  · rintro ⟨hobject, h⟩
    obtain ⟨hstrings, hseverity, hoperator⟩ := hvalues.mp h
    exact ⟨hobject, hstrings, hseverity, hoperator⟩
  · rintro ⟨hobject, hstrings, hseverity, hoperator⟩
    exact ⟨hobject, hvalues.mpr ⟨hstrings, hseverity, hoperator⟩⟩

/-! ## What a loaded rule has of its document -/

theorem requiredString_eq_ok_iff {key s : Bytes} {root : Json} :
    requiredString key root = .ok s ↔ root.stringAt key = some s := by
  unfold requiredString
  cases root.stringAt key with
  | some t => simp
  | none => simp

/-- The loader succeeds exactly with this rule. -/
theorem loadRule_eq_ok_iff {root : Json} {rule : DiagnosticRule} :
    loadRule root = .ok rule ↔
      root.stringAt "rule_id" = some rule.ruleId ∧
      root.stringAt "title" = some rule.title ∧
      root.stringAt "category" = some rule.category ∧
      (root.stringAt "severity").elim (.ok .warning) severityFromString = .ok rule.severity ∧
      (root.stringAt "condition_logic").elim (.ok .all) logicOperatorFromString
        = .ok rule.conditionLogic ∧
      rule.conditions = (writtenConditions root).map (fun item => parseConditionItem item {}) ∧
      rule.candidateCauses = parseStringArray root "candidate_causes" ∧
      rule.suggestedActions = parseStringArray root "suggested_actions" := by
  unfold loadRule
  simp only [bind_eq_ok, requiredString_eq_ok_iff]
  constructor
  · rintro ⟨ruleId, hid, title, htitle, category, hcategory, severity, hseverity, logic, hlogic,
      hrule⟩
    cases hrule
    exact ⟨hid, htitle, hcategory, hseverity, hlogic, rfl, rfl, rfl⟩
  · rintro ⟨hid, htitle, hcategory, hseverity, hlogic, hconditions, hcauses, hactions⟩
    refine ⟨_, hid, _, htitle, _, hcategory, _, hseverity, _, hlogic, ?_⟩
    rw [← hconditions, ← hcauses, ← hactions]

/-! ## What a matched event satisfies -/

/-- The operator that an element writes; without one it is `equals`. -/
def OperatorWritten (item : Json) (operatorVal : MatchOperator) : Prop :=
  item.field "value_operator" = some (.str (matchOperatorToString operatorVal)) ∨
    (item.field "value_operator" = none ∧ operatorVal = .equals)

/-- The event satisfies every constraint that is written in the element. -/
structure MeetsWritten (lib : CppLib) (item : Json) (event : ObservationEvent) : Prop where
  isObject : ∃ fields, item = .obj fields
  source : ∀ value, item.field "source" = some value → value = .str event.source
  category : ∀ value, item.field "category" = some value → value = .str event.category
  subject : ∀ value, item.field "subject" = some value → value = .str event.subject
  signal : ∀ value, item.field "signal" = some value → value = .str event.signal
  minSeverity : ∀ value, item.field "min_severity" = some value →
    ∃ severity, value = .str (severityToString severity) ∧ severity.rank ≤ event.severity.rank
  targetValue : ∀ value, item.field "target_value" = some value →
    ∃ target operatorVal, value = .str target ∧ OperatorWritten item operatorVal ∧
      matchValueOperator lib event.value target operatorVal = true

/-- The operator that is read from a well-written element is the one it writes. -/
theorem operatorWritten_parse {item : Json} (h : WellWritten item) :
    OperatorWritten item (parseConditionItem item {}).valueOperator := by
  unfold parseConditionItem
  cases hfield : item.field "value_operator" with
  | none =>
    rw [stringAt_of_field_none hfield]
    exact Or.inr ⟨hfield, rfl⟩
  | some value =>
    obtain ⟨operatorVal, rfl⟩ := h.valueOperator value hfield
    rw [stringAt_eq_some_iff.mpr hfield, Option.bind_some,
      matchOperatorFromString_eq_ok_iff.mpr rfl]
    exact Or.inl hfield

/-- The parts of a match. -/
theorem matchEventToCondition_iff {lib : CppLib} {event : ObservationEvent}
    {condition : RuleCondition} :
    matchEventToCondition lib event condition = true ↔
      (∀ s ∈ condition.source, event.source = s) ∧
      (∀ s ∈ condition.category, event.category = s) ∧
      (∀ s ∈ condition.subject, event.subject = s) ∧
      (∀ s ∈ condition.signal, event.signal = s) ∧
      (∀ severity ∈ condition.minSeverity, severity.rank ≤ event.severity.rank) ∧
      ∀ s ∈ condition.targetValue,
        matchValueOperator lib event.value s condition.valueOperator = true := by
  unfold matchEventToCondition
  simp only [Bool.and_eq_true, Option.all_eq_true, decide_eq_true_eq, and_assoc, Option.mem_def]

/-- What matches the condition of a well-written element satisfies what it writes. -/
theorem meetsWritten_of_match {lib : CppLib} {item : Json} {event : ObservationEvent}
    (h : WellWritten item)
    (hmatch : matchEventToCondition lib event (parseConditionItem item {}) = true) :
    MeetsWritten lib item event := by
  obtain ⟨hsource, hcategory, hsubject, hsignal, hseverity, htarget⟩ :=
    matchEventToCondition_iff.mp hmatch
  -- a text constraint: the string that is written is the one that is compared
  have htext : ∀ key ∈ stringKeys, ∀ {text : Bytes},
      (∀ s ∈ (item.stringAt key).or none, text = s) →
      ∀ value, item.field key = some value → value = .str text := by
    intro key hkey text heq value hfield
    obtain ⟨s, rfl⟩ := h.strings key hkey value hfield
    have hread : s ∈ (item.stringAt key).or none := by
      rw [stringAt_eq_some_iff.mpr hfield]
      exact rfl
    rw [heq s hread]
  refine
    { isObject := h.isObject
      source := htext _ (by simp [stringKeys]) hsource
      category := htext _ (by simp [stringKeys]) hcategory
      subject := htext _ (by simp [stringKeys]) hsubject
      signal := htext _ (by simp [stringKeys]) hsignal
      minSeverity := ?_
      targetValue := ?_ }
  · intro value hfield
    obtain ⟨severity, rfl⟩ := h.minSeverity value hfield
    refine ⟨severity, rfl, hseverity severity ?_⟩
    show (Option.bind _ _).or none = _
    rw [stringAt_eq_some_iff.mpr hfield, Option.bind_some, severityFromString_eq_ok_iff.mpr rfl]
    rfl
  · intro value hfield
    obtain ⟨target, rfl⟩ := h.strings _ (by simp [stringKeys]) value hfield
    refine ⟨target, _, rfl, operatorWritten_parse h, htarget target ?_⟩
    show (item.stringAt _).or none = _
    rw [stringAt_eq_some_iff.mpr hfield]
    rfl

/-! ## The rule that a document denotes -/

/-- The element denotes the condition: its keys have the condition's values, and where there is
no operator it is `equals`. -/
structure DenotesCondition (item : Json) (condition : RuleCondition) : Prop where
  isObject : ∃ fields, item = .obj fields
  constraints : ∀ entry ∈ constraintValues condition, item.field entry.1 = entry.2
  valueOperator : OperatorWritten item condition.valueOperator

/-- The document denotes the rule; without a logic it is `all`. -/
structure Denotes (root : Json) (rule : DiagnosticRule) : Prop where
  ruleId : root.field "rule_id" = some (.str rule.ruleId)
  title : root.field "title" = some (.str rule.title)
  category : root.field "category" = some (.str rule.category)
  severity : root.field "severity" = some (.str (severityToString rule.severity))
  conditionLogic :
    root.field "condition_logic" = some (.str (logicOperatorToString rule.conditionLogic)) ∨
      (root.field "condition_logic" = none ∧ rule.conditionLogic = .all)
  conditions : ∃ items, root.field "conditions" = some (.arr items) ∧
    List.Forall₂ DenotesCondition items rule.conditions
  candidateCauses :
    root.field "candidate_causes" = some (.arr (rule.candidateCauses.map .str))
  suggestedActions :
    root.field "suggested_actions" = some (.arr (rule.suggestedActions.map .str))

/-- What the schema asks of a document (SPEC.md, section 2.2), but for the form of `rule_id` and
the lengths of the texts, which the loader does not need. -/
structure SchemaValid (root : Json) : Prop where
  isObject : ∃ fields, root = .obj fields
  required : ∀ key ∈ ([ "rule_id", "title", "category" ] : List Bytes),
    ∃ s, root.field key = some (.str s)
  severity : ∃ severity, root.field "severity" = some (.str (severityToString severity))
  conditionLogic : ∀ value, root.field "condition_logic" = some value →
    ∃ operatorVal, value = .str (logicOperatorToString operatorVal)
  conditions : ∃ items, root.field "conditions" = some (.arr items) ∧ items ≠ [] ∧
    ∀ item ∈ items, WellWritten item
  texts : ∀ key ∈ ([ "candidate_causes", "suggested_actions" ] : List Bytes),
    ∃ texts : List Bytes, root.field key = some (.arr (texts.map .str))

section Codecs

variable {item : Json} {key : Bytes} {α : Type} {read : Bytes → Except Bytes α} {write : α → Bytes}

theorem field_eq_map_stringAt
    (h : ∀ value, item.field key = some value → ∃ s, value = .str s) :
    item.field key = (item.stringAt key).map .str := by
  cases hfield : item.field key with
  | none => rw [stringAt_of_field_none hfield, Option.map_none]
  | some value =>
    obtain ⟨s, rfl⟩ := h value hfield
    rw [stringAt_eq_some_iff.mpr hfield, Option.map_some]

theorem field_eq_map_named (hcodec : ∀ {s a}, read s = .ok a ↔ s = write a)
    (h : ∀ value, item.field key = some value → ∃ a, value = .str (write a)) :
    item.field key = ((item.stringAt key).bind fun s => (read s).toOption).map
      fun a => .str (write a) := by
  cases hfield : item.field key with
  | none => rw [stringAt_of_field_none hfield, Option.bind_none, Option.map_none]
  | some value =>
    obtain ⟨a, rfl⟩ := h value hfield
    rw [stringAt_eq_some_iff.mpr hfield, Option.bind_some, hcodec.mpr rfl]
    rfl

theorem stringAt_of_field_map {text : Option Bytes} (h : item.field key = text.map .str) :
    item.stringAt key = text := by
  cases text with
  | none => exact stringAt_of_field_none h
  | some s => exact stringAt_eq_some_iff.mpr h

theorem read_of_field_map (hcodec : ∀ {s a}, read s = .ok a ↔ s = write a) {named : Option α}
    (h : item.field key = named.map fun a => .str (write a)) :
    ((item.stringAt key).bind fun s => (read s).toOption) = named := by
  cases named with
  | none => rw [stringAt_of_field_none h, Option.bind_none]
  | some a =>
    rw [stringAt_eq_some_iff.mpr h, Option.bind_some, hcodec.mpr rfl]
    rfl

end Codecs

/-- What is read from a well-written element is what it denotes. -/
theorem denotesCondition_parse {item : Json} (h : WellWritten item) :
    DenotesCondition item (parseConditionItem item {}) where
  isObject := h.isObject
  constraints := by
    have htext : ∀ key ∈ stringKeys, item.field key = (item.stringAt key).map .str :=
      fun key hkey => field_eq_map_stringAt (h.strings key hkey)
    have hseverity := field_eq_map_named severityFromString_eq_ok_iff h.minSeverity
    simp only [stringKeys, List.forall_mem_cons] at htext
    obtain ⟨hsource, hcategory, hsubject, hsignal, htarget, -⟩ := htext
    simp only [constraintValues, parseConditionItem, Option.or_none, List.forall_mem_cons]
    exact ⟨hsource, hcategory, hsubject, hsignal, hseverity, htarget, fun _ h => nomatch h⟩
  valueOperator := operatorWritten_parse h

/-- An element is read as the condition it denotes. -/
theorem parse_of_denotesCondition {item : Json} {condition : RuleCondition}
    (h : DenotesCondition item condition) : parseConditionItem item {} = condition := by
  have hconstraints := h.constraints
  simp only [constraintValues, List.forall_mem_cons] at hconstraints
  obtain ⟨hsource, hcategory, hsubject, hsignal, hseverity, htarget, -⟩ := hconstraints
  have hoperator : ((item.stringAt "value_operator").bind fun s =>
      (matchOperatorFromString s).toOption).getD .equals = condition.valueOperator := by
    rcases h.valueOperator with hfield | ⟨hfield, hequals⟩
    · rw [stringAt_eq_some_iff.mpr hfield, Option.bind_some,
        matchOperatorFromString_eq_ok_iff.mpr rfl]
      rfl
    · rw [stringAt_of_field_none hfield, hequals]
      rfl
  simp only [parseConditionItem, Option.or_none, stringAt_of_field_map hsource,
    stringAt_of_field_map hcategory, stringAt_of_field_map hsubject,
    stringAt_of_field_map hsignal, stringAt_of_field_map htarget,
    read_of_field_map severityFromString_eq_ok_iff hseverity, hoperator]

/-- One condition for each element, in their order. -/
theorem map_parse_of_denotes {items : List Json} {conditions : List RuleCondition}
    (h : List.Forall₂ DenotesCondition items conditions) :
    items.map (fun item => parseConditionItem item {}) = conditions := by
  induction h with
  | nil => rfl
  | cons hitem _ ih => rw [List.map_cons, parse_of_denotesCondition hitem, ih]

theorem parseStringArray_of_field {root : Json} {key : Bytes} {texts : List Bytes}
    (h : root.field key = some (.arr (texts.map .str))) : parseStringArray root key = texts := by
  have hread : (asString ∘ Json.str) = some := rfl
  rw [parseStringArray, h]
  show (texts.map Json.str).filterMap asString = texts
  rw [List.filterMap_map, hread, List.filterMap_some]

theorem writtenConditions_of_field {root : Json} {items : List Json}
    (h : root.field "conditions" = some (.arr items)) : writtenConditions root = items := by
  rw [writtenConditions, h]

/-- **A document is loaded as the rule it denotes.** -/
theorem loadRule_of_denotes {root : Json} {rule : DiagnosticRule} (h : Denotes root rule) :
    loadRule root = .ok rule := by
  obtain ⟨items, hitems, hdenotes⟩ := h.conditions
  refine loadRule_eq_ok_iff.mpr ⟨stringAt_eq_some_iff.mpr h.ruleId,
    stringAt_eq_some_iff.mpr h.title, stringAt_eq_some_iff.mpr h.category, ?_, ?_, ?_,
    (parseStringArray_of_field h.candidateCauses).symm,
    (parseStringArray_of_field h.suggestedActions).symm⟩
  · rw [stringAt_eq_some_iff.mpr h.severity]
    exact severityFromString_eq_ok_iff.mpr rfl
  · rcases h.conditionLogic with hfield | ⟨hfield, hall⟩
    · rw [stringAt_eq_some_iff.mpr hfield]
      exact logicOperatorFromString_eq_ok_iff.mpr rfl
    · rw [stringAt_of_field_none hfield, hall]
      rfl
  · rw [writtenConditions_of_field hitems, map_parse_of_denotes hdenotes]

/-- A document that satisfies the schema denotes a rule. -/
theorem exists_denotes {root : Json} (h : SchemaValid root) : ∃ rule, Denotes root rule := by
  obtain ⟨ruleId, hid⟩ := h.required "rule_id" (by simp)
  obtain ⟨title, htitle⟩ := h.required "title" (by simp)
  obtain ⟨category, hcategory⟩ := h.required "category" (by simp)
  obtain ⟨severity, hseverity⟩ := h.severity
  obtain ⟨items, hitems, -, hwritten⟩ := h.conditions
  obtain ⟨causes, hcauses⟩ := h.texts "candidate_causes" (by simp)
  obtain ⟨actions, hactions⟩ := h.texts "suggested_actions" (by simp)
  obtain ⟨logic, hlogic⟩ : ∃ logic, root.field "condition_logic"
        = some (.str (logicOperatorToString logic)) ∨
      (root.field "condition_logic" = none ∧ logic = .all) := by
    cases hfield : root.field "condition_logic" with
    | none => exact ⟨.all, Or.inr ⟨rfl, rfl⟩⟩
    | some value =>
      obtain ⟨operatorVal, rfl⟩ := h.conditionLogic value hfield
      exact ⟨operatorVal, Or.inl rfl⟩
  have hconditions : List.Forall₂ DenotesCondition items
      (items.map fun item => parseConditionItem item {}) := by
    rw [List.forall₂_map_right_iff, List.forall₂_same]
    exact fun item hitem => denotesCondition_parse (hwritten item hitem)
  exact ⟨{ ruleId, title, category, severity, conditionLogic := logic,
            conditions := items.map fun item => parseConditionItem item {},
            candidateCauses := causes, suggestedActions := actions },
    { ruleId := hid, title := htitle, category := hcategory, severity := hseverity,
      conditionLogic := hlogic, conditions := ⟨items, hitems, hconditions⟩,
      candidateCauses := hcauses, suggestedActions := hactions }⟩

/-! ## Writing a rule -/

/-- A condition as a document. -/
def conditionDocument (condition : RuleCondition) : Json := .ofValues (conditionValues condition)

/-- The keys of a rule and their values. -/
def ruleValues (rule : DiagnosticRule) (items : List Json) : List (Bytes × Option Json) :=
  [("rule_id", some (.str rule.ruleId)),
    ("title", some (.str rule.title)),
    ("category", some (.str rule.category)),
    ("severity", some (.str (severityToString rule.severity))),
    ("condition_logic", some (.str (logicOperatorToString rule.conditionLogic))),
    ("conditions", some (.arr items)),
    ("candidate_causes", some (.arr (rule.candidateCauses.map .str))),
    ("suggested_actions", some (.arr (rule.suggestedActions.map .str)))]

/-- A rule as a document. -/
def ruleDocument (rule : DiagnosticRule) : Json :=
  .ofValues (ruleValues rule (rule.conditions.map conditionDocument))

/-- The strings of a condition. -/
def conditionTexts (condition : RuleCondition) : List Bytes :=
  [condition.source, condition.category, condition.subject, condition.signal,
    condition.targetValue].filterMap id

/-- The strings of a rule. -/
def ruleTexts (rule : DiagnosticRule) : List Bytes :=
  rule.ruleId :: rule.title :: rule.category ::
    (rule.candidateCauses ++ rule.suggestedActions ++ rule.conditions.flatMap conditionTexts)

def conditionKeys : List Bytes :=
  ["value_operator", "source", "category", "subject", "signal", "min_severity", "target_value"]

def ruleKeys : List Bytes :=
  ["rule_id", "title", "category", "severity", "condition_logic", "conditions",
    "candidate_causes", "suggested_actions"]

theorem nodup_conditionKeys (condition : RuleCondition) :
    ((conditionValues condition).map Prod.fst).Nodup := by
  have hkeys : (conditionValues condition).map Prod.fst = conditionKeys := rfl
  rw [hkeys]
  decide +kernel

theorem nodup_ruleKeys (rule : DiagnosticRule) (items : List Json) :
    ((ruleValues rule items).map Prod.fst).Nodup := by
  have hkeys : (ruleValues rule items).map Prod.fst = ruleKeys := rfl
  rw [hkeys]
  decide +kernel

/-- The document of a condition denotes it. -/
theorem denotesCondition_document (condition : RuleCondition) :
    DenotesCondition (conditionDocument condition) condition where
  isObject := ⟨_, rfl⟩
  constraints := fun _ hentry =>
    field_ofValues (nodup_conditionKeys condition) (List.mem_cons_of_mem _ hentry)
  valueOperator := Or.inl (field_ofValues (nodup_conditionKeys condition) List.mem_cons_self)

/-- The document of a rule denotes it. -/
theorem denotes_ruleDocument (rule : DiagnosticRule) : Denotes (ruleDocument rule) rule := by
  have hfield : ∀ entry ∈ ruleValues rule (rule.conditions.map conditionDocument),
      (ruleDocument rule).field entry.1 = entry.2 :=
    fun _ hentry => field_ofValues (nodup_ruleKeys rule _) hentry
  simp only [ruleValues, List.forall_mem_cons] at hfield
  obtain ⟨hid, htitle, hcategory, hseverity, hlogic, hconditions, hcauses, hactions, -⟩ := hfield
  refine
    { ruleId := hid, title := htitle, category := hcategory, severity := hseverity,
      conditionLogic := Or.inl hlogic, conditions := ⟨_, hconditions, ?_⟩,
      candidateCauses := hcauses, suggestedActions := hactions }
  rw [List.forall₂_map_left_iff, List.forall₂_same]
  exact fun condition _ => denotesCondition_document condition

/-- The document of a condition satisfies the schema. -/
theorem wellWritten_document (condition : RuleCondition) :
    WellWritten (conditionDocument condition) := by
  have hdenotes := denotesCondition_document condition
  refine reflects_parseConditionItem_iff.mp ?_
  rw [parse_of_denotesCondition hdenotes]
  refine ⟨hdenotes.isObject, fun entry hentry value hvalue => ?_⟩
  rw [← hvalue]
  exact (field_ofValues (nodup_conditionKeys condition) hentry).symm

/-- The document of a rule with a condition satisfies the schema. -/
theorem schemaValid_ruleDocument {rule : DiagnosticRule} (h : rule.conditions ≠ []) :
    SchemaValid (ruleDocument rule) := by
  have hdenotes := denotes_ruleDocument rule
  refine
    { isObject := ⟨_, rfl⟩
      required := ?_
      severity := ⟨_, hdenotes.severity⟩
      conditionLogic := ?_
      conditions := ⟨rule.conditions.map conditionDocument,
        field_ofValues (nodup_ruleKeys rule _) (by simp [ruleValues]), by simpa using h, ?_⟩
      texts := ?_ }
  · intro key hkey
    simp only [List.mem_cons, List.not_mem_nil, or_false] at hkey
    rcases hkey with rfl | rfl | rfl
    · exact ⟨_, hdenotes.ruleId⟩
    · exact ⟨_, hdenotes.title⟩
    · exact ⟨_, hdenotes.category⟩
  · intro value hvalue
    rcases hdenotes.conditionLogic with hfield | ⟨hfield, -⟩
    · rw [hfield] at hvalue
      cases hvalue
      exact ⟨_, rfl⟩
    · rw [hfield] at hvalue
      cases hvalue
  · intro item hitem
    obtain ⟨condition, -, rfl⟩ := List.mem_map.mp hitem
    exact wellWritten_document condition
  · intro key hkey
    simp only [List.mem_cons, List.not_mem_nil, or_false] at hkey
    rcases hkey with rfl | rfl
    · exact ⟨_, hdenotes.candidateCauses⟩
    · exact ⟨_, hdenotes.suggestedActions⟩

/-! ## The texts of the documents -/

theorem validUtf8_matchOperatorToString (operatorVal : MatchOperator) :
    validUtf8 (matchOperatorToString operatorVal) = true := by
  cases operatorVal <;> decide +kernel

theorem validUtf8_logicOperatorToString (operatorVal : LogicOperator) :
    validUtf8 (logicOperatorToString operatorVal) = true := by
  cases operatorVal <;> decide +kernel

section Texts

variable {double : ℚ → Prop}

theorem returns_map_str {text : Option Bytes} (h : ∀ s, text = some s → validUtf8 s = true)
    (value : Json) (hvalue : text.map .str = some value) : Returns double value := by
  obtain ⟨s, hs, rfl⟩ := Option.map_eq_some_iff.mp hvalue
  exact returns_str (h s hs)

theorem returns_texts {texts : List Bytes} (h : ∀ s ∈ texts, validUtf8 s = true) :
    Returns double (.arr (texts.map .str)) := by
  refine returns_arr fun j hj => ?_
  obtain ⟨s, hs, rfl⟩ := List.mem_map.mp hj
  exact returns_str (h s hs)

theorem returns_conditionDocument {condition : RuleCondition}
    (h : ∀ s ∈ conditionTexts condition, validUtf8 s = true) :
    Returns double (conditionDocument condition) := by
  have hkeys : ∀ key ∈ conditionKeys, validUtf8 key = true := by decide +kernel
  refine returns_ofValues (fun entry hentry => hkeys _ (List.mem_map_of_mem hentry)) ?_
  have htext : ∀ {text : Option Bytes}, text ∈ [condition.source, condition.category,
      condition.subject, condition.signal, condition.targetValue] →
      ∀ s, text = some s → validUtf8 s = true := by
    intro text hmem s hs
    exact h s (List.mem_filterMap.mpr ⟨text, hmem, hs⟩)
  simp only [conditionValues, constraintValues, List.forall_mem_cons]
  refine ⟨?_, returns_map_str (htext (by simp)), returns_map_str (htext (by simp)),
    returns_map_str (htext (by simp)), returns_map_str (htext (by simp)), ?_,
    returns_map_str (htext (by simp)), fun _ h => nomatch h⟩
  · intro value hvalue
    cases hvalue
    exact returns_str (validUtf8_matchOperatorToString _)
  · intro value hvalue
    obtain ⟨severity, -, rfl⟩ := Option.map_eq_some_iff.mp hvalue
    exact returns_str (ObservationEvent.validUtf8_severityToString severity)

theorem returns_ruleValues {rule : DiagnosticRule} {items : List Json}
    (h : ∀ s ∈ ruleTexts rule, validUtf8 s = true) (hitems : ∀ item ∈ items, Returns double item) :
    Returns double (.ofValues (ruleValues rule items)) := by
  have hkeys : ∀ key ∈ ruleKeys, validUtf8 key = true := by decide +kernel
  refine returns_ofValues (fun entry hentry => hkeys _ (List.mem_map_of_mem hentry)) ?_
  simp only [ruleTexts, List.forall_mem_cons, List.forall_mem_append] at h
  obtain ⟨hid, htitle, hcategory, ⟨hcauses, hactions⟩, -⟩ := h
  simp only [ruleValues, List.forall_mem_cons, Option.some.injEq, forall_eq']
  exact ⟨returns_str hid, returns_str htitle, returns_str hcategory,
    returns_str (ObservationEvent.validUtf8_severityToString _),
    returns_str (validUtf8_logicOperatorToString _), returns_arr hitems, returns_texts hcauses,
    returns_texts hactions, fun _ h => nomatch h⟩

theorem returns_ruleDocument {rule : DiagnosticRule}
    (h : ∀ s ∈ ruleTexts rule, validUtf8 s = true) : Returns double (ruleDocument rule) := by
  refine returns_ruleValues h fun item hitem => ?_
  obtain ⟨condition, hcondition, rfl⟩ := List.mem_map.mp hitem
  refine returns_conditionDocument fun s hs => h s ?_
  simp only [ruleTexts, List.mem_cons, List.mem_append, List.mem_flatMap]
  exact Or.inr (Or.inr (Or.inr (Or.inr ⟨condition, hcondition, hs⟩)))

end Texts

/-- The text of a rule's document is loaded as the rule. -/
theorem exists_rule_text {lib : CppLib} (J : JsonLibrary lib) {rule : DiagnosticRule}
    (h : ∀ s ∈ ruleTexts rule, validUtf8 s = true) :
    ∃ text, (ruleDocument rule).dump lib.jsonNumber = .ok text ∧
      J.parse text = .ok (ruleDocument rule) ∧ loadRuleFromJson J text = .ok rule := by
  obtain ⟨text, htext, hparse⟩ := exists_text_of_returns J (returns_ruleDocument h)
  refine ⟨text, htext, hparse, ?_⟩
  rw [loadRuleFromJson, hparse]
  exact loadRule_of_denotes (denotes_ruleDocument rule)

/-- **Every valid rule document loads as the rule it denotes.** A document that satisfies the
schema denotes one rule, and `loadRuleFromJson` returns it; and every rule of UTF-8 strings with
a condition has a document that satisfies the schema and is loaded as that rule. -/
theorem loadRuleFromJson_faithful {lib : CppLib} (J : JsonLibrary lib) :
    (∀ text root, J.parse text = .ok root → SchemaValid root →
      ∃ rule, loadRuleFromJson J text = .ok rule ∧ Denotes root rule ∧
        ∀ other, Denotes root other → other = rule) ∧
    ∀ rule, (∀ s ∈ ruleTexts rule, validUtf8 s = true) → rule.conditions ≠ [] →
      SchemaValid (ruleDocument rule) ∧
      ∃ text, (ruleDocument rule).dump lib.jsonNumber = .ok text ∧
        loadRuleFromJson J text = .ok rule := by
  constructor
  · intro text root hparse hvalid
    obtain ⟨rule, hdenotes⟩ := exists_denotes hvalid
    have hload := loadRule_of_denotes hdenotes
    refine ⟨rule, ?_, hdenotes, fun other hother => ?_⟩
    · rw [loadRuleFromJson, hparse]
      exact hload
    · rw [loadRule_of_denotes hother] at hload
      exact Except.ok.inj hload
  · intro rule htexts hconditions
    obtain ⟨text, htext, -, hload⟩ := exists_rule_text J htexts
    exact ⟨schemaValid_ruleDocument hconditions, text, htext, hload⟩

/-- A built-in rule, written down and loaded again. -/
theorem loadRuleFromJson_storageRule :
    ∃ text, (ruleDocument storageRule).dump CppLib.integral.jsonNumber = .ok text ∧
      loadRuleFromJson JsonLibrary.integral text = .ok storageRule :=
  ((loadRuleFromJson_faithful JsonLibrary.integral).2 storageRule (by decide +kernel)
    (by decide)).2

/-! ## Is a loaded rule as strict as its document? -/

/-- **A loaded rule says what its document says, and its findings hold only events that satisfy
the constraints written in one of the conditions, exactly when every condition in the document
is well written.** -/
theorem loadRuleFromJson_reflects_iff {lib : CppLib} (J : JsonLibrary lib) (text : Bytes)
    (root : Json) (rule : DiagnosticRule) (hparse : J.parse text = .ok root)
    (hload : loadRuleFromJson J text = .ok rule) :
    ((∀ s, root.field "severity" = some (.str s) → s = severityToString rule.severity) ∧
      (∀ s, root.field "condition_logic" = some (.str s) →
        s = logicOperatorToString rule.conditionLogic) ∧
      List.Forall₂ Reflects (writtenConditions root) rule.conditions ∧
      ∀ stamp events, ∀ finding ∈ evaluate lib stamp [rule] events,
        ∀ event ∈ finding.matchedEvents,
          ∃ item ∈ writtenConditions root, MeetsWritten lib item event) ↔
      ∀ item ∈ writtenConditions root, WellWritten item := by
  rw [loadRuleFromJson, hparse] at hload
  obtain ⟨-, -, -, hseverity, hlogic, hconditions, -, -⟩ := loadRule_eq_ok_iff.mp hload
  have hreflects : List.Forall₂ Reflects (writtenConditions root) rule.conditions ↔
      ∀ item ∈ writtenConditions root, WellWritten item := by
    rw [hconditions, List.forall₂_map_right_iff, List.forall₂_same]
    simp only [reflects_parseConditionItem_iff]
  rw [hreflects]
  constructor
  · exact fun h => h.2.2.1
  · intro hwritten
    refine ⟨?_, ?_, hwritten, ?_⟩
    · intro s hfield
      rw [stringAt_eq_some_iff.mpr hfield] at hseverity
      exact severityFromString_eq_ok_iff.mp hseverity
    · intro s hfield
      rw [stringAt_eq_some_iff.mpr hfield] at hlogic
      exact logicOperatorFromString_eq_ok_iff.mp hlogic
    · intro stamp events finding hfinding event hevent
      obtain ⟨found, hfound, -, k, rfl⟩ := mem_evaluateFrom hfinding
      obtain rfl := List.mem_singleton.mp hfound
      obtain ⟨-, condition, hcondition, hmatch⟩ := matches_of_mem_evaluateRule hevent
      rw [hconditions] at hcondition
      obtain ⟨item, hitem, rfl⟩ := List.mem_map.mp hcondition
      exact ⟨item, hitem, meetsWritten_of_match (hwritten item hitem) hmatch⟩

/-- The document of a built-in rule has well-written conditions. -/
theorem loadRuleFromJson_reflects_storageRule :
    ∃ text root rule, JsonLibrary.integral.parse text = .ok root ∧
      loadRuleFromJson JsonLibrary.integral text = .ok rule ∧
      List.Forall₂ Reflects (writtenConditions root) rule.conditions := by
  obtain ⟨text, -, hparse, hload⟩ :=
    @exists_rule_text _ JsonLibrary.integral storageRule (by decide +kernel)
  have hwritten : ∀ item ∈ writtenConditions (ruleDocument storageRule), WellWritten item := by
    intro item hitem
    obtain ⟨items, hitems, -, hitems'⟩ := (@schemaValid_ruleDocument storageRule (by decide)).conditions
    rw [writtenConditions_of_field hitems] at hitem
    exact hitems' item hitem
  exact ⟨text, _, _, hparse, hload,
    ((loadRuleFromJson_reflects_iff JsonLibrary.integral text _ _ hparse hload).mpr
      hwritten).2.2.1⟩

/-- An unknown severity: the rule is loaded, and its condition has none. -/
theorem loadRuleFromJson_drops_severity :
    ¬∀ text root rule, JsonLibrary.integral.parse text = .ok root →
      loadRuleFromJson JsonLibrary.integral text = .ok rule →
      List.Forall₂ Reflects (writtenConditions root) rule.conditions := by
  intro h
  let item : Json := .ofValues [("min_severity", some (.str "high"))]
  let header : DiagnosticRule := { ruleId := "RULE-X", title := "X", category := "storage" }
  have hitem : ∀ j ∈ [item], Returns JsonLibrary.integral.IsDouble j := by
    intro j hj
    rw [List.mem_singleton.mp hj]
    exact returns_ofValues_str (by decide +kernel) (by decide +kernel)
  have htexts : ∀ s ∈ ruleTexts header, validUtf8 s = true := by decide +kernel
  obtain ⟨text, -, hparse⟩ :=
    exists_text_of_returns JsonLibrary.integral (returns_ruleValues htexts hitem)
  have hload : loadRuleFromJson JsonLibrary.integral text
      = .ok { header with conditions := [parseConditionItem item {}] } := by
    rw [loadRuleFromJson, hparse]
    show loadRule _ = _
    decide +kernel
  have hwritten : writtenConditions (.ofValues (ruleValues header [item])) = [item] :=
    writtenConditions_of_field (field_ofValues (nodup_ruleKeys header _) (by simp [ruleValues]))
  have hreflects := h text _ _ hparse hload
  rw [hwritten] at hreflects
  obtain ⟨_, _, hitem, -, heq⟩ := List.forall₂_cons_left_iff.mp hreflects
  cases heq
  obtain ⟨severity, hseverity⟩ := (reflects_parseConditionItem_iff.mp hitem).minSeverity _
    (field_ofValues (by simp) List.mem_cons_self)
  cases severity <;> exact absurd (Json.str.inj hseverity) (by decide +kernel)

end RuleEngine

end Holonight
