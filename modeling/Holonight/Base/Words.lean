import Mathlib

/-!
# Words

The words of a list: its longest parts without a separator (`wordsBy`), as the extraction of
strings from a C++ stream finds them with white space as separators.

Two facts are enough to compute the words of a rendered record: a separator ends a word
(`wordsBy_append_cons`), and a rendering that works element by element and leaves the separators
alone renders the words (`wordsBy_flatMap`).
-/

namespace Holonight

variable {α : Type*} {p q : α → Bool}

/-- The longest nonempty parts of a list in which no element satisfies `p`, in order. -/
def wordsBy (p : α → Bool) (xs : List α) : List (List α) :=
  (xs.splitOnP p).filter fun word => !word.isEmpty

theorem wordsBy_append_cons (xs ys : List α) {sep : α} (hsep : p sep = true) :
    wordsBy p (xs ++ sep :: ys) = wordsBy p xs ++ wordsBy p ys := by
  rw [wordsBy, List.splitOnP_append_cons xs ys hsep, List.filter_append]
  rfl

/-- A nonempty list without separators is one word. -/
theorem wordsBy_of_forall {xs : List α} (h : ∀ x ∈ xs, p x = false) (hne : xs ≠ []) :
    wordsBy p xs = [xs] := by
  rw [wordsBy, List.splitOnP_eq_singleton h]
  simp [hne]

/-- Words with one separator before each but the first. -/
theorem wordsBy_record {sep : α} (hsep : p sep = true) {first : List α} {tokens : List (List α)}
    (h : ∀ token ∈ first :: tokens, token ≠ [] ∧ ∀ x ∈ token, p x = false) :
    wordsBy p (first ++ tokens.flatMap fun token => sep :: token) = first :: tokens := by
  induction tokens generalizing first with
  | nil =>
    obtain ⟨hne, hfirst⟩ := h first List.mem_cons_self
    rw [List.flatMap_nil, List.append_nil, wordsBy_of_forall hfirst hne]
  | cons token tokens ih =>
    obtain ⟨hne, hfirst⟩ := h first List.mem_cons_self
    rw [List.flatMap_cons, List.cons_append, wordsBy_append_cons first _ hsep,
      wordsBy_of_forall hfirst hne, ih (List.forall_mem_cons.mp h).2]
    rfl

theorem wordsBy_congr {xs : List α} (h : ∀ x ∈ xs, p x = q x) : wordsBy p xs = wordsBy q xs := by
  rw [wordsBy, wordsBy]
  congr 1
  induction xs with
  | nil => rfl
  | cons x xs ih =>
    rw [List.forall_mem_cons] at h
    rw [List.splitOnP_cons_eq_if_modifyHead, List.splitOnP_cons_eq_if_modifyHead, h.1, ih h.2]

/-! ## Renderings -/

theorem splitOnP_append_of_forall {xs : List α} (h : ∀ x ∈ xs, p x = false) (ys : List α) :
    (xs ++ ys).splitOnP p = (ys.splitOnP p).modifyHead (xs ++ ·) := by
  induction xs with
  | nil =>
    rw [List.nil_append]
    cases ys.splitOnP p with
    | nil => rfl
    | cons head tail => rfl
  | cons x xs ih =>
    rw [List.forall_mem_cons] at h
    rw [List.cons_append, List.splitOnP_cons_eq_if_modifyHead, if_neg (by simp [h.1]), ih h.2,
      List.modifyHead_modifyHead]
    rfl

section Rendering

variable {render : α → List α} (hsep : ∀ x, p x = true → render x = [x])
  (hother : ∀ x, p x = false → render x ≠ [] ∧ ∀ y ∈ render x, p y = false)
include hsep hother

theorem splitOnP_flatMap (xs : List α) :
    (xs.flatMap render).splitOnP p = (xs.splitOnP p).map fun word => word.flatMap render := by
  induction xs with
  | nil => rfl
  | cons x xs ih =>
    rw [List.flatMap_cons, List.splitOnP_cons_eq_if_modifyHead]
    cases hx : p x with
    | true =>
      rw [hsep x hx, List.singleton_append, List.splitOnP_cons_eq_if_modifyHead, hx, ih]
      rfl
    | false =>
      rw [splitOnP_append_of_forall (hother x hx).2, ih]
      cases xs.splitOnP p with
      | nil => rfl
      | cons head tail => rfl

/-- A rendering that leaves the separators alone, and introduces none, renders the words. -/
theorem wordsBy_flatMap (xs : List α) :
    wordsBy p (xs.flatMap render) = (wordsBy p xs).map fun word => word.flatMap render := by
  have hempty : ∀ word : List α, (word.flatMap render).isEmpty = word.isEmpty := by
    intro word
    cases word with
    | nil => rfl
    | cons x rest =>
      have hx : render x ≠ [] := by
        cases hp : p x with
        | true =>
          rw [hsep x hp]
          exact List.cons_ne_nil x []
        | false => exact (hother x hp).1
      simp [List.flatMap_cons, hx]
  rw [wordsBy, splitOnP_flatMap hsep hother, List.filter_map, wordsBy]
  congr 2
  funext word
  exact congrArg not (hempty word)

end Rendering

end Holonight
