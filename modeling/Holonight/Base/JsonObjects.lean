import Holonight.Base.JsonLibrary

/-!
# Objects with optional fields

Documents are written with the fields that have a value and read key by key.

- `stringAt` is the test of the readers: the key is there and has a string;
- `ofValues` writes an object from keys with optional values, and `field_ofValues` says what
  is found under a key;
- `Returns`: the value can be printed and its text is read back as the same value, with no
  number in it that could come back as another one.
-/

namespace Holonight

namespace Json

/-! ## Strings in an object -/

/-- `is_string()`, and then `get<std::string>()`. -/
def asString : Json → Option Bytes
  | .str s => some s
  | _ => none

/-- `j.contains(key) && j[key].is_string()`, and then the string. -/
def stringAt (key : Bytes) (j : Json) : Option Bytes := (j.field key).bind asString

theorem asString_eq_some_iff {j : Json} {s : Bytes} : asString j = some s ↔ j = .str s := by
  cases j with
  | str t => simp [asString]
  | _ => simp [asString]

theorem stringAt_eq_some_iff {key s : Bytes} {j : Json} :
    j.stringAt key = some s ↔ j.field key = some (.str s) := by
  unfold stringAt
  rw [Option.bind_eq_some_iff]
  simp only [asString_eq_some_iff]
  exact ⟨fun ⟨_, hfield, hstr⟩ => hstr ▸ hfield, fun hfield => ⟨_, hfield, rfl⟩⟩

theorem stringAt_of_field_none {key : Bytes} {j : Json} (h : j.field key = none) :
    j.stringAt key = none := by
  rw [stringAt, h, Option.bind_none]

/-! ## Objects from an initialiser list -/

theorem lookup_insertField_of_ne {key : Bytes} {f : Bytes × Json} (h : key ≠ f.1)
    (fields : List (Bytes × Json)) : (insertField f fields).lookup key = fields.lookup key := by
  induction fields with
  | nil => exact lookup_cons_of_ne h []
  | cons g rest ih =>
    unfold insertField
    split_ifs
    · rfl
    · exact lookup_cons_of_ne h (g :: rest)
    · by_cases hg : key = g.1
      · rw [lookup_cons_of_eq hg, lookup_cons_of_eq hg]
      · rw [lookup_cons_of_ne hg, lookup_cons_of_ne hg, ih]

theorem lookup_insertField_self {f : Bytes × Json} {fields : List (Bytes × Json)}
    (h : fields.lookup f.1 = none) : (insertField f fields).lookup f.1 = some f.2 := by
  induction fields with
  | nil => exact lookup_cons_of_eq rfl []
  | cons g rest ih =>
    have hne : f.1 ≠ g.1 := by
      intro heq
      rw [lookup_cons_of_eq heq] at h
      cases h
    rw [lookup_cons_of_ne hne] at h
    unfold insertField
    rw [if_neg hne]
    split
    · exact lookup_cons_of_eq rfl (g :: rest)
    · rw [lookup_cons_of_ne hne, ih h]

/-- With each key once, the object has under a key what was given for it. -/
theorem field_object {fields : List (Bytes × Json)} (hnodup : (fields.map Prod.fst).Nodup)
    {key : Bytes} {value : Json} (hmem : (key, value) ∈ fields) :
    (object fields).field key = some value := by
  have hother : ∀ (fields built : List (Bytes × Json)), (∀ f ∈ fields, key ≠ f.1) →
      (fields.foldl (fun acc f => insertField f acc) built).lookup key = built.lookup key := by
    intro fields
    induction fields with
    | nil => exact fun built _ => rfl
    | cons f rest ih =>
      intro built hne
      rw [List.forall_mem_cons] at hne
      rw [List.foldl_cons, ih _ hne.2, lookup_insertField_of_ne hne.1]
  have hfound : ∀ (fields built : List (Bytes × Json)), (fields.map Prod.fst).Nodup →
      (key, value) ∈ fields → built.lookup key = none →
      (fields.foldl (fun acc f => insertField f acc) built).lookup key = some value := by
    intro fields
    induction fields with
    | nil => exact fun built _ hmem => absurd hmem List.not_mem_nil
    | cons f rest ih =>
      intro built hnodup hmem hbuilt
      rw [List.map_cons, List.nodup_cons] at hnodup
      rw [List.foldl_cons]
      rcases List.mem_cons.mp hmem with rfl | hmem
      · rw [hother rest _ fun g hg heq => hnodup.1 (List.mem_map.mpr ⟨g, hg, heq.symm⟩)]
        exact lookup_insertField_self (f := (key, value)) hbuilt
      · refine ih _ hnodup.2 hmem ?_
        rw [lookup_insertField_of_ne ?_, hbuilt]
        rintro rfl
        exact hnodup.1 (List.mem_map.mpr ⟨_, hmem, rfl⟩)
  exact hfound fields [] hnodup hmem rfl

/-! ## Objects with optional fields -/

/-- The fields that have a value. -/
def presentFields (values : List (Bytes × Option Json)) : List (Bytes × Json) :=
  values.filterMap fun entry => entry.2.map fun value => (entry.1, value)

/-- An object that is written field by field, without the fields that have no value. -/
def ofValues (values : List (Bytes × Option Json)) : Json :=
  .obj (assignFields (presentFields values) [])

theorem mem_presentFields {values : List (Bytes × Option Json)} {f : Bytes × Json} :
    f ∈ presentFields values ↔ (f.1, some f.2) ∈ values := by
  unfold presentFields
  rw [List.mem_filterMap]
  constructor
  · rintro ⟨⟨key, value⟩, hmem, heq⟩
    obtain ⟨v, rfl, rfl⟩ := Option.map_eq_some_iff.mp heq
    exact hmem
  · intro hmem
    exact ⟨_, hmem, rfl⟩

theorem lookup_eq_none_of_not_mem {key : Bytes} {fields : List (Bytes × Json)}
    (h : ∀ f ∈ fields, f.1 ≠ key) : fields.lookup key = none := by
  rw [List.lookup_eq_none_iff]
  intro f hf
  simpa using fun heq => h f hf heq.symm

/-- With each key once, the object has under a key what was given for it. -/
theorem field_ofValues {values : List (Bytes × Option Json)}
    (hnodup : (values.map Prod.fst).Nodup) {key : Bytes} {value : Option Json}
    (hmem : (key, value) ∈ values) : (ofValues values).field key = value := by
  show (assignFields (presentFields values) []).lookup key = _
  rw [lookup_assignFields, List.lookup_nil, Option.or_none]
  induction values with
  | nil => cases hmem
  | cons entry rest ih =>
    rw [List.map_cons, List.nodup_cons] at hnodup
    obtain ⟨hfresh, hnodup⟩ := hnodup
    have hsplit : (presentFields (entry :: rest)).reverse.lookup key
        = ((presentFields rest).reverse.lookup key).or
            ((presentFields [entry]).lookup key) := by
      cases hentry : entry.2 with
      | none => simp [presentFields, hentry]
      | some v => simp [presentFields, hentry, List.lookup_append]
    rw [hsplit]
    rcases List.mem_cons.mp hmem with rfl | hmem
    · have hnone : (presentFields rest).reverse.lookup key = none := by
        refine lookup_eq_none_of_not_mem fun f hf heq => hfresh ?_
        rw [← heq]
        exact List.mem_map.mpr ⟨_, mem_presentFields.mp (List.mem_reverse.mp hf), rfl⟩
      rw [hnone, Option.none_or]
      cases value with
      | none => rfl
      | some v => exact lookup_cons_of_eq (f := (key, v)) rfl []
    · have hne : entry.1 ≠ key := by
        rintro rfl
        exact hfresh (List.mem_map.mpr ⟨_, hmem, rfl⟩)
      have hnone : (presentFields [entry]).lookup key = none := by
        refine lookup_eq_none_of_not_mem fun f hf => ?_
        rw [mem_presentFields, List.mem_singleton] at hf
        rw [← hf] at hne
        exact hne
      rw [ih hnodup hmem, hnone, Option.or_none]

/-! ## Objects with the same text -/

section SameText

variable {fmt : ℚ → Bytes}

/-- The same key, and values of the same text. -/
def SameText (fmt : ℚ → Bytes) (f g : Bytes × Json) : Prop :=
  f.1 = g.1 ∧ f.2.dump fmt = g.2.dump fmt

theorem sameText_setField {f g : Bytes × Json} {fields others : List (Bytes × Json)}
    (hfg : SameText fmt f g) (h : List.Forall₂ (SameText fmt) fields others) :
    List.Forall₂ (SameText fmt) (setField f fields) (setField g others) := by
  induction h with
  | nil => exact List.Forall₂.cons hfg List.Forall₂.nil
  | cons hhead hrest ih =>
    unfold setField
    rw [hfg.1, hhead.1]
    split
    · exact List.Forall₂.cons hfg hrest
    · split
      · exact List.Forall₂.cons hfg (List.Forall₂.cons hhead hrest)
      · exact List.Forall₂.cons hhead ih

theorem sameText_assignFields {assigned others : List (Bytes × Json)}
    (h : List.Forall₂ (SameText fmt) assigned others) {fields fields' : List (Bytes × Json)}
    (hfields : List.Forall₂ (SameText fmt) fields fields') :
    List.Forall₂ (SameText fmt) (assignFields assigned fields) (assignFields others fields') := by
  induction h generalizing fields fields' with
  | nil => exact hfields
  | cons hhead _ ih => exact ih (sameText_setField hhead hfields)

theorem dumpFields_eq_of_sameText {fields others : List (Bytes × Json)}
    (h : List.Forall₂ (SameText fmt) fields others) :
    dumpFields fmt fields = dumpFields fmt others := by
  induction h with
  | nil => rfl
  | @cons f g _ _ hhead _ ih =>
    obtain ⟨key, j⟩ := f
    obtain ⟨key', j'⟩ := g
    obtain ⟨rfl, hdump⟩ := hhead
    rw [dumpFields, dumpFields, show j.dump fmt = j'.dump fmt from hdump, ih]

/-- Assigning values of the same texts to the same keys gives objects of one text. -/
theorem dump_assignFields_eq {assigned others : List (Bytes × Json)}
    (h : List.Forall₂ (SameText fmt) assigned others) :
    (Json.obj (assignFields assigned [])).dump fmt
      = (Json.obj (assignFields others [])).dump fmt := by
  rw [dump, dump, dumpFields_eq_of_sameText (sameText_assignFields h List.Forall₂.nil)]

end SameText

/-! ## Values without numbers -/

/-- A list of values that come back as they are comes back as it is. -/
theorem reread_arr {items : List Json} (h : ∀ j ∈ items, reread j = j) :
    reread (.arr items) = .arr items := by
  have hitems : rereadItems items = items := by
    induction items with
    | nil => rfl
    | cons j rest ih =>
      rw [rereadItems, h j List.mem_cons_self,
        ih fun j hj => h j (List.mem_cons_of_mem _ hj)]
  rw [reread, hitems]

theorem reread_obj {fields : List (Bytes × Json)} (h : ∀ f ∈ fields, reread f.2 = f.2) :
    reread (.obj fields) = .obj fields := by
  have hfields : rereadFields fields = fields := by
    induction fields with
    | nil => rfl
    | cons f rest ih =>
      rw [rereadFields, h f List.mem_cons_self, ih fun g hg => h g (List.mem_cons_of_mem _ hg)]
  rw [reread, hfields]

/-- A value that can be printed and comes back as it is. -/
def Returns (double : ℚ → Prop) (j : Json) : Prop := Sound double j ∧ reread j = j

theorem returns_str {double : ℚ → Prop} {s : Bytes} (h : validUtf8 s = true) :
    Returns double (.str s) :=
  ⟨⟨trivial, h⟩, by rw [reread]⟩

theorem returns_arr {double : ℚ → Prop} {items : List Json}
    (h : ∀ j ∈ items, Returns double j) : Returns double (.arr items) :=
  ⟨sound_arr fun j hj => (h j hj).1, reread_arr fun j hj => (h j hj).2⟩

theorem returns_ofValues {double : ℚ → Prop} {values : List (Bytes × Option Json)}
    (hkeys : ∀ entry ∈ values, validUtf8 entry.1 = true)
    (h : ∀ entry ∈ values, ∀ value, entry.2 = some value → Returns double value) :
    Returns double (ofValues values) := by
  have hfields : ∀ f ∈ presentFields values, validUtf8 f.1 = true ∧ Returns double f.2 := by
    intro f hf
    have hmem := mem_presentFields.mp hf
    exact ⟨hkeys _ hmem, h _ hmem f.2 rfl⟩
  refine ⟨sound_assignFields fun f hf => ⟨(hfields f hf).1, (hfields f hf).2.1⟩, reread_obj ?_⟩
  intro f hf
  rcases mem_assignFields hf with hf | hf
  · cases hf
  · exact (hfields f hf).2.2

/-- An object with one string. -/
theorem returns_ofValues_str {double : ℚ → Prop} {key s : Bytes} (hkey : validUtf8 key = true)
    (h : validUtf8 s = true) : Returns double (ofValues [(key, some (.str s))]) := by
  refine returns_ofValues ?_ ?_
  · intro entry hentry
    rw [List.mem_singleton.mp hentry]
    exact hkey
  · intro entry hentry value hvalue
    rw [List.mem_singleton.mp hentry] at hvalue
    cases hvalue
    exact returns_str h

/-- The text of such a value is read back as the value. -/
theorem parse_of_returns {lib : CppLib} (J : JsonLibrary lib) {j : Json} {text : Bytes}
    (h : Returns J.IsDouble j) (htext : j.dump lib.jsonNumber = .ok text) :
    J.parse text = .ok j := by
  have hparse := J.parse_dump h.1.1 htext
  rwa [h.2] at hparse

theorem exists_text_of_returns {lib : CppLib} (J : JsonLibrary lib) {j : Json}
    (h : Returns J.IsDouble j) : ∃ text, j.dump lib.jsonNumber = .ok text ∧ J.parse text = .ok j := by
  obtain ⟨text, htext⟩ := dump_eq_ok lib.jsonNumber h.1.2
  exact ⟨text, htext, parse_of_returns J h htext⟩

end Json

end Holonight
