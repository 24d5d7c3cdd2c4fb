import Holonight.Base.Json

/-!
# Where a text may be cut

A prefix of a UTF-8 text, taken by bytes, is UTF-8 exactly when the cut does not fall
inside a character: the byte after it, if there is one, starts a character
(`CharBoundary`).

- `Utf8State.next_continuation`: the automaton takes a continuation byte exactly where it
  is inside a character;
- `validUtf8_take_iff`: **the exact condition** for a cut;
- `validUtf8_append`: what follows a UTF-8 text is judged on its own.
-/

namespace Holonight

/-- A byte that continues a character: `10xxxxxx`. -/
def isContinuation (b : UInt8) : Bool := inRange 0x80 0xBF b

/-- No character of the text is split by a cut before byte `n`. -/
def CharBoundary (s : Bytes) (n : ℕ) : Prop := ∀ b ∈ s[n]?, isContinuation b = false

instance (s : Bytes) (n : ℕ) : Decidable (CharBoundary s n) :=
  inferInstanceAs (Decidable (∀ b ∈ s[n]?, isContinuation b = false))

theorem inRange_iff {lo hi b : UInt8} : inRange lo hi b = true ↔ lo ≤ b ∧ b ≤ hi := by
  simp [inRange]

/-- At the end of a text, and after it, there is nothing to split. -/
theorem charBoundary_of_length_le {s : Bytes} {n : ℕ} (h : s.length ≤ n) : CharBoundary s n := by
  intro b hb
  rw [List.getElem?_eq_none h] at hb
  cases hb

/-! ## One byte -/

namespace Utf8State

/-- Between two characters no continuation byte is taken. -/
theorem next_start_continuation {b : UInt8} (h : isContinuation b = true) :
    next .start b = none := by
  obtain ⟨hlo, hhi⟩ := inRange_iff.mp h
  have hrange : ∀ {lo hi : UInt8}, 0xBF < lo → ¬inRange lo hi b = true := by
    intro lo hi hlt hin
    exact UInt8.not_le.mpr hlt (UInt8.le_trans (inRange_iff.mp hin).1 hhi)
  have hne : ∀ {c : UInt8}, 0xBF < c → b ≠ c := by
    rintro c hlt rfl
    exact UInt8.not_le.mpr hlt hhi
  rw [next, if_neg (UInt8.not_lt.mpr hlo), if_neg (hrange (by decide)), if_neg (hne (by decide)),
    if_neg (hne (by decide)), if_neg (hrange (by decide)), if_neg (hne (by decide)),
    if_neg (hrange (by decide)), if_neg (hne (by decide))]

/-- Inside a character only a continuation byte is taken. -/
theorem isContinuation_of_next {state after : Utf8State} {b : UInt8} (hstate : state ≠ .start)
    (h : state.next b = some after) : isContinuation b = true := by
  have htail : ∀ {lo hi : UInt8} {s : Utf8State}, 0x80 ≤ lo → hi ≤ 0xBF →
      (if inRange lo hi b then some s else none) = some after → isContinuation b = true := by
    intro lo hi s hlo hhi htaken
    split at htaken
    · rename_i hin
      obtain ⟨h₁, h₂⟩ := inRange_iff.mp hin
      exact inRange_iff.mpr ⟨UInt8.le_trans hlo h₁, UInt8.le_trans h₂ hhi⟩
    · cases htaken
  cases state with
  | start => exact absurd rfl hstate
  | tail1 => exact htail (by decide) (by decide) h
  | tail2 => exact htail (by decide) (by decide) h
  | tail3 => exact htail (by decide) (by decide) h
  | afterE0 => exact htail (by decide) (by decide) h
  | afterED => exact htail (by decide) (by decide) h
  | afterF0 => exact htail (by decide) (by decide) h
  | afterF4 => exact htail (by decide) (by decide) h

/-- A continuation byte is taken exactly inside a character. -/
theorem next_continuation {state after : Utf8State} {b : UInt8} (h : state.next b = some after) :
    isContinuation b = false ↔ state = .start := by
  constructor
  · intro hb
    by_contra hstate
    rw [isContinuation_of_next hstate h] at hb
    cases hb
  · rintro rfl
    by_contra hb
    rw [next_start_continuation (Bool.eq_true_of_not_eq_false hb)] at h
    cases h

/-- An ASCII byte is a character of its own. -/
theorem next_ascii {state after : Utf8State} {b : UInt8} (hb : b < 0x80)
    (h : state.next b = some after) : state = .start ∧ after = .start := by
  have hstate : state = .start := by
    rw [← next_continuation h, isContinuation, inRange, decide_eq_false (UInt8.not_le.mpr hb),
      Bool.false_and]
  subst hstate
  rw [next, if_pos hb] at h
  cases h
  exact ⟨rfl, rfl⟩

end Utf8State

/-! ## A text -/

theorem validUtf8_iff {s : Bytes} :
    validUtf8 s = true ↔ s.foldlM Utf8State.next .start = some .start := by
  rw [validUtf8, beq_iff_eq]

/-- After a UTF-8 text the automaton starts again. -/
theorem validUtf8_append {s : Bytes} (h : validUtf8 s = true) (t : Bytes) :
    validUtf8 (s ++ t) = validUtf8 t := by
  rw [validUtf8, List.foldlM_append, validUtf8_iff.mp h]
  rfl

/-- A text that is followed by ASCII is UTF-8 exactly when the whole is. -/
theorem validUtf8_append_ascii {s t : Bytes} (ht : ∀ b ∈ t, b < 0x80) (hne : t ≠ []) :
    validUtf8 (s ++ t) = true ↔ validUtf8 s = true := by
  constructor
  · intro h
    rw [validUtf8_iff, List.foldlM_append] at h
    obtain ⟨state, hstate, hrest⟩ := Option.bind_eq_some_iff.mp h
    obtain ⟨b, rest, rfl⟩ := List.exists_cons_of_ne_nil hne
    obtain ⟨after, hafter, -⟩ := Option.bind_eq_some_iff.mp hrest
    rw [(Utf8State.next_ascii (ht b List.mem_cons_self) hafter).1] at hstate
    exact validUtf8_iff.mpr hstate
  · intro h
    rw [validUtf8_append h, validUtf8_of_ascii ht]

/-- **A prefix of a UTF-8 text is UTF-8 exactly when no character is split.** -/
theorem validUtf8_take_iff {s : Bytes} (h : validUtf8 s = true) (n : ℕ) :
    validUtf8 (s.take n) = true ↔ CharBoundary s n := by
  have hrun := validUtf8_iff.mp h
  rw [← List.take_append_drop n s, List.foldlM_append] at hrun
  obtain ⟨state, hstate, hrest⟩ := Option.bind_eq_some_iff.mp hrun
  rw [validUtf8_iff, hstate, Option.some_inj]
  cases hdrop : s.drop n with
  | nil =>
    rw [hdrop] at hrest
    have hend : s.length ≤ n := List.drop_eq_nil_iff.mp hdrop
    exact iff_of_true (Option.some_inj.mp hrest) (charBoundary_of_length_le hend)
  | cons b rest =>
    rw [hdrop] at hrest
    obtain ⟨after, hafter, -⟩ := Option.bind_eq_some_iff.mp hrest
    have hget : s[n]? = some b := by
      rw [← Nat.add_zero n, ← List.getElem?_drop, hdrop]
      rfl
    rw [CharBoundary, hget, ← Utf8State.next_continuation hafter]
    simp

end Holonight
