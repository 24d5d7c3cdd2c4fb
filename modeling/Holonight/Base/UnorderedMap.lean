import Mathlib

/-!
# Finite maps

`UnorderedMap` is `std::unordered_map`: its elements, each key once. A map is read and
updated through `find`, `erase`, `eraseIf` and `insertOrAssign`, and each update comes with
the lemma that says what `find` returns afterwards. The order in which a loop visits the
elements is not specified by C++; a model whose result depends on it takes an
`IterationOrder`.
-/

namespace Holonight

/-- The elements of a map, each key once. -/
structure UnorderedMap (κ α : Type) where
  entries : List (κ × α)
  nodup : (entries.map Prod.fst).Nodup

/-- An order in which the elements are visited. -/
structure IterationOrder (κ α : Type) where
  visit : List (κ × α) → List (κ × α)
  perm : ∀ l, (visit l).Perm l

/-- The order of insertion. -/
def IterationOrder.insertion {κ α : Type} : IterationOrder κ α where
  visit l := l
  perm l := List.Perm.refl l

namespace UnorderedMap

variable {κ α : Type} [DecidableEq κ]

/-- The map without elements. -/
def empty : UnorderedMap κ α := ⟨[], List.nodup_nil⟩

/-- The number of elements. -/
def size (m : UnorderedMap κ α) : ℕ := m.entries.length

/-- The value of a key. -/
def find (m : UnorderedMap κ α) (key : κ) : Option α :=
  (m.entries.find? fun p => decide (p.1 = key)).map Prod.snd

/-- Remove the elements that satisfy a predicate (`std::erase_if`). -/
def eraseIf (p : κ → α → Bool) (m : UnorderedMap κ α) : UnorderedMap κ α where
  entries := m.entries.filter fun e => !p e.1 e.2
  nodup := m.nodup.sublist (List.filter_sublist.map _)

/-- Remove a key. -/
def erase (m : UnorderedMap κ α) (key : κ) : UnorderedMap κ α :=
  m.eraseIf fun k _ => decide (k = key)

/-- Set the value of a key (`insert_or_assign`, and assignment through `operator[]`). -/
def insertOrAssign (m : UnorderedMap κ α) (key : κ) (value : α) : UnorderedMap κ α where
  entries := (m.erase key).entries ++ [(key, value)]
  nodup := by
    rw [List.map_append, List.nodup_append]
    refine ⟨(m.erase key).nodup, List.nodup_singleton _, ?_⟩
    -- the key is new: it has just been erased
    intro k hk k' hk' heq
    obtain ⟨e, he, rfl⟩ := List.mem_map.mp hk
    rw [List.map_singleton, List.mem_singleton] at hk'
    have hne : (!decide (e.1 = key)) = true := (List.mem_filter.mp he).2
    rw [heq, hk', decide_eq_true rfl] at hne
    cases hne

/-- Replace every value, or remove it. -/
def filterMapValues (f : α → Option α) (m : UnorderedMap κ α) : UnorderedMap κ α where
  entries := m.entries.filterMap fun e => (f e.2).map fun value => (e.1, value)
  nodup := by
    refine m.nodup.sublist ?_
    have hkeys : ((m.entries.filterMap fun e => (f e.2).map fun value => (e.1, value)).map Prod.fst)
        = (m.entries.filter fun e => (f e.2).isSome).map Prod.fst := by
      rw [List.map_filterMap, ← List.filterMap_eq_filter, List.map_filterMap]
      refine List.filterMap_congr fun e _ => ?_
      cases hvalue : f e.2 with
      | none => simp [Option.guard, hvalue]
      | some value => simp [Option.guard, hvalue]
    rw [hkeys]
    exact List.filter_sublist.map _

/-! ## Reading after an update -/

variable {m : UnorderedMap κ α} {key k : κ} {value v : α}

/-- A key has a value exactly when the pair is an element. -/
theorem find_eq_some_iff : m.find key = some value ↔ (key, value) ∈ m.entries := by
  unfold find
  rw [Option.map_eq_some_iff]
  constructor
  · rintro ⟨e, he, rfl⟩
    have hkey : e.1 = key := by simpa using List.find?_some he
    rw [← hkey]
    exact List.mem_of_find?_eq_some he
  · intro hmem
    cases hfind : m.entries.find? fun p => decide (p.1 = key) with
    | none =>
      have hnone := List.find?_eq_none.mp hfind _ hmem
      exact absurd (decide_eq_true rfl) hnone
    | some e =>
      have hkey : e.1 = key := by simpa using List.find?_some hfind
      have hsame := List.inj_on_of_nodup_map m.nodup (List.mem_of_find?_eq_some hfind) hmem hkey
      exact ⟨e, rfl, by rw [hsame]⟩

@[simp] theorem find_empty : (empty : UnorderedMap κ α).find key = none := rfl

/-- What is found after `eraseIf` was there and is kept. -/
theorem find_eraseIf {p : κ → α → Bool} :
    (m.eraseIf p).find key = some value ↔ m.find key = some value ∧ p key value = false := by
  rw [find_eq_some_iff, find_eq_some_iff]
  show (key, value) ∈ m.entries.filter _ ↔ _
  rw [List.mem_filter, Bool.not_eq_true']

/-- What is found after `filterMapValues` is what the function makes of the value. -/
theorem find_filterMapValues {f : α → Option α} :
    (m.filterMapValues f).find key = (m.find key).bind f := by
  ext value
  rw [find_eq_some_iff, Option.bind_eq_some_iff]
  show (key, value) ∈ m.entries.filterMap _ ↔ _
  rw [List.mem_filterMap]
  constructor
  · rintro ⟨e, hmem, he⟩
    obtain ⟨v, hv, heq⟩ := Option.map_eq_some_iff.mp he
    cases heq
    exact ⟨e.2, find_eq_some_iff.mpr hmem, hv⟩
  · rintro ⟨v, hfind, hv⟩
    exact ⟨(key, v), find_eq_some_iff.mp hfind, by rw [hv]; rfl⟩

theorem find_erase_self : (m.erase key).find key = none := by
  cases hfind : (m.erase key).find key with
  | none => rfl
  | some value =>
    have hkept := (find_eraseIf.mp hfind).2
    rw [decide_eq_true rfl] at hkept
    cases hkept

theorem find_erase_of_ne (h : k ≠ key) : (m.erase key).find k = m.find k := by
  ext value
  show (m.erase key).find k = some value ↔ m.find k = some value
  rw [erase, find_eraseIf, decide_eq_false h]
  simp

/-- What is found after a removal was there before. -/
theorem find_of_find_erase (h : (m.erase key).find k = some v) : m.find k = some v :=
  (find_eraseIf.mp h).1

@[simp] theorem find_insertOrAssign_self : (m.insertOrAssign key value).find key = some value := by
  rw [find_eq_some_iff]
  exact List.mem_append_right _ (List.mem_singleton_self _)

theorem find_insertOrAssign_of_ne (h : k ≠ key) :
    (m.insertOrAssign key value).find k = m.find k := by
  rw [← @find_erase_of_ne κ α _ m key k h]
  ext v
  show (m.insertOrAssign key value).find k = some v ↔ (m.erase key).find k = some v
  rw [find_eq_some_iff, find_eq_some_iff]
  show (k, v) ∈ (m.erase key).entries ++ [(key, value)] ↔ _
  rw [List.mem_append, List.mem_singleton, Prod.mk.injEq]
  constructor
  · rintro (h' | ⟨h', -⟩)
    · exact h'
    · exact absurd h' h
  · exact Or.inl

/-- What is found after a removal. -/
theorem find_erase_iff : (m.erase key).find k = some v ↔ k ≠ key ∧ m.find k = some v := by
  rw [erase, find_eraseIf, decide_eq_false_iff_not, and_comm]

/-- What is found after an assignment. -/
theorem find_insertOrAssign_iff :
    (m.insertOrAssign key value).find k = some v
      ↔ (k = key ∧ v = value) ∨ (k ≠ key ∧ m.find k = some v) := by
  by_cases h : k = key
  · subst h
    rw [find_insertOrAssign_self, Option.some.injEq]
    simp [eq_comm]
  · rw [find_insertOrAssign_of_ne h]
    simp [h]

/-! ## Sizes -/

omit [DecidableEq κ] in
theorem size_eraseIf_le (p : κ → α → Bool) : (m.eraseIf p).size ≤ m.size :=
  List.length_filter_le _ _

/-- Removing a key that is there leaves fewer elements. -/
theorem size_erase_lt (h : m.find key = some value) : (m.erase key).size < m.size := by
  have hmem : (key, value) ∈ m.entries := find_eq_some_iff.mp h
  refine List.length_filter_lt_length_iff_exists.mpr ⟨(key, value), hmem, ?_⟩
  simp

theorem size_insertOrAssign : (m.insertOrAssign key value).size = (m.erase key).size + 1 := by
  show ((m.erase key).entries ++ [(key, value)]).length = _
  rw [List.length_append]
  rfl

end UnorderedMap

end Holonight
