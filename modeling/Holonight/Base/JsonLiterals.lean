import Holonight.Base.JsonRoundTrip

/-!
# Integer literals in a text

`json::parse` keeps an integer literal as a signed or an unsigned 64-bit number where it fits,
and as a double where it does not. So the value that it returns no longer says which integer
was written. Here is what the text says:

- `integerLiteral text key` is the integer literal, of any size, that the object has under the
  key;
- `ReadsIntegers` is the documented behaviour of the library on such a literal;
- `readsIntegers_parseWith`: **the parser of this development behaves so**, whatever it makes
  of the other numbers. Two runs of the parser on one text that differ only in their reading
  of numbers go through the same steps (`readsAlike`).
-/

namespace Holonight

namespace Json

/-! ## Literals -/

/-- The value of a token that is an integer literal: digits, with a minus or without. -/
def integerToken : Bytes → Option ℤ
  | 45 :: ds => if isDigits ds then some (-(digitsValue ds : ℤ)) else none
  | ds => if isDigits ds then some (digitsValue ds) else none

/-- A reading of numbers that keeps every integer literal apart: an integer stands for itself,
and one half for any other number. -/
def readExact (token : Bytes) : Option ℚ :=
  match integerToken token with
  | some n => some n
  | none => some (1 / 2)

/-- The integer that a value of that reading stands for. -/
def integerOf : Json → Option ℤ
  | .int n => some n
  | .uint n => some n
  | .float (.finite q) => if q.den = 1 then some q.num else none
  | _ => none

/-- The integer literal that the object in a text has under a key. -/
def integerLiteral (text key : Bytes) : Option ℤ :=
  match parseWith readExact text with
  | .ok root => (root.field key).bind integerOf
  | .error _ => none

/-- What the library keeps of an integer literal: the integer where it fits 64 bits, signed or
unsigned, and a double elsewhere. -/
def KeepsInteger (n : ℤ) : Json → Prop
  | .int m => m = n
  | .uint m => (m : ℤ) = n
  | .float _ => n < -2 ^ 63 ∨ 2 ^ 64 ≤ n
  | _ => False

/-- The documented behaviour of `json::parse` on integer literals. -/
def ReadsIntegers (parse : Bytes → Except Bytes Json) : Prop :=
  ∀ {text key : Bytes} {root : Json} {n : ℤ}, parse text = .ok root →
    integerLiteral text key = some n → ∃ value, root.field key = some value ∧ KeepsInteger n value

/-! ## Two readings of one text -/

/-- The second value says which integer was written, the first keeps it. -/
def NumbersAgree (j exact : Json) : Prop := ∀ n, integerOf exact = some n → KeepsInteger n j

/-- The same key, with numbers that agree. -/
def FieldsAgree (f exact : Bytes × Json) : Prop := f.1 = exact.1 ∧ NumbersAgree f.2 exact.2

/-- Numbers agree, and so do the fields of an object. -/
def ValuesAgree (j exact : Json) : Prop :=
  NumbersAgree j exact ∧ ∀ key value, exact.field key = some value →
    ∃ kept, j.field key = some kept ∧ NumbersAgree kept value

/-- A value without a number and without fields agrees with itself. -/
theorem valuesAgree_plain {j exact : Json} (hint : integerOf exact = none)
    (hfield : ∀ key, exact.field key = none) : ValuesAgree j exact := by
  constructor
  · intro n h
    rw [hint] at h
    cases h
  · intro key value h
    rw [hfield] at h
    cases h

/-- Objects that are assigned fields that agree. -/
theorem valuesAgree_obj {fields exact : List (Bytes × Json)}
    (h : List.Forall₂ FieldsAgree fields exact) :
    ValuesAgree (.obj (assignFields fields [])) (.obj (assignFields exact [])) := by
  refine ⟨fun n h => (nomatch h), fun key value hvalue => ?_⟩
  have hlookup : ∀ {fields exact : List (Bytes × Json)}, List.Forall₂ FieldsAgree fields exact →
      exact.lookup key = some value →
      ∃ kept, fields.lookup key = some kept ∧ NumbersAgree kept value := by
    intro fields exact h
    induction h with
    | nil => exact fun hvalue => nomatch hvalue
    | @cons f g _ _ hhead _ ih =>
      intro hvalue
      by_cases hkey : key = g.1
      · rw [lookup_cons_of_eq hkey] at hvalue
        cases hvalue
        exact ⟨f.2, lookup_cons_of_eq (hkey.trans hhead.1.symm) _, hhead.2⟩
      · rw [lookup_cons_of_ne hkey] at hvalue
        rw [lookup_cons_of_ne (hhead.1 ▸ hkey)]
        exact ih hvalue
  have hfields : ∀ fields, (Json.obj (assignFields fields [])).field key
      = fields.reverse.lookup key := by
    intro fields
    show (assignFields fields []).lookup key = _
    rw [lookup_assignFields, List.lookup_nil, Option.or_none]
  rw [hfields] at hvalue ⊢
  exact hlookup (List.rel_reverse h) hvalue

/-- Numbers have no fields. -/
theorem valuesAgree_number {j exact : Json} (h : NumbersAgree j exact)
    (hfield : ∀ key, exact.field key = none) : ValuesAgree j exact := by
  refine ⟨h, fun key value hvalue => ?_⟩
  rw [hfield] at hvalue
  cases hvalue

/-- A number that is no 64-bit integer: if the token is an integer literal, it is out of range. -/
theorem float_agree {readFloat : Bytes → Option ℚ} {token : Bytes} {j : Json}
    (hrange : ∀ n, integerToken token = some n → n < -2 ^ 63 ∨ 2 ^ 64 ≤ n)
    (h : (readFloat token).map (fun q => Json.float (.finite q)) = some j) :
    ∃ exact, (readExact token).map (fun q => Json.float (.finite q)) = some exact ∧
      ValuesAgree j exact := by
  obtain ⟨q, -, rfl⟩ := Option.map_eq_some_iff.mp h
  unfold readExact
  cases htoken : integerToken token with
  | some n =>
    refine ⟨_, rfl, valuesAgree_number (fun m hm => ?_) fun _ => rfl⟩
    have hsame : n = m := by simpa [integerOf] using hm
    exact hsame ▸ hrange n htoken
  | none =>
    refine ⟨_, rfl, valuesAgree_number (fun m hm => ?_) fun _ => rfl⟩
    have hden : (1 / 2 : ℚ).den ≠ 1 := by norm_num
    rw [integerOf, if_neg hden] at hm
    cases hm

/-- A token: an integer literal is kept, whatever the reading of other numbers. -/
theorem number_agree {readFloat : Bytes → Option ℚ} {token : Bytes} {j : Json}
    (h : number readFloat token = some j) :
    ∃ exact, number readExact token = some exact ∧ ValuesAgree j exact := by
  unfold number at h ⊢
  split at h
  · rename_i ds
    split at h
    · rename_i hint
      cases h
      rw [if_pos hint]
      refine ⟨_, rfl, valuesAgree_number (fun m hm => ?_) fun _ => rfl⟩
      exact Option.some_inj.mp hm
    · rename_i hint
      rw [if_neg hint]
      refine float_agree (fun n hn => ?_) h
      unfold integerToken at hn
      simp only at hn
      split at hn
      · rename_i hdigits
        cases hn
        have hout : ¬InInt64 (-(digitsValue ds : ℤ)) := fun hfits => hint ⟨hdigits, hfits⟩
        unfold InInt64 at hout
        omega
      · cases hn
  · rename_i hsign
    split at h
    · rename_i hnat
      cases h
      rw [if_pos hnat]
      refine ⟨_, rfl, valuesAgree_number (fun m hm => ?_) fun _ => rfl⟩
      exact Option.some_inj.mp hm
    · rename_i hnat
      rw [if_neg hnat]
      refine float_agree (fun n hn => ?_) h
      unfold integerToken at hn
      split at hn
      · exact absurd rfl (hsign _)
      · split at hn
        · rename_i hdigits
          cases hn
          have hout : ¬digitsValue token < 2 ^ 64 := fun hfits => hnat ⟨hdigits, hfits⟩
          exact Or.inr (by omega)
        · cases hn

theorem alike_readLiteral {word : Bytes} {value j : Json} {s rest : Bytes}
    (hfield : ∀ key, value.field key = none) (hint : integerOf value = none)
    (h : readLiteral word value s = some (j, rest)) :
    ∃ exact, readLiteral word value s = some (exact, rest) ∧ ValuesAgree j exact := by
  refine ⟨j, h, ?_⟩
  rw [readLiteral_value h]
  exact valuesAgree_plain hint hfield

/-- With this fuel, whatever the parser reads it also reads with the exact reading, to the same
place in the text. -/
structure ReadsAlike (readFloat : Bytes → Option ℚ) (fuel : ℕ) : Prop where
  value : ∀ {s rest : Bytes} {j : Json}, readValue readFloat fuel s = some (j, rest) →
    ∃ exact, readValue readExact fuel s = some (exact, rest) ∧ ValuesAgree j exact
  items : ∀ {s rest : Bytes} {items : List Json}, readItems readFloat fuel s = some (items, rest) →
    ∃ exact, readItems readExact fuel s = some (exact, rest)
  fields : ∀ {s rest : Bytes} {fields : List (Bytes × Json)},
    readFields readFloat fuel s = some (fields, rest) →
    ∃ exact, readFields readExact fuel s = some (exact, rest) ∧
      List.Forall₂ FieldsAgree fields exact

section Steps

variable {readFloat : Bytes → Option ℚ} {fuel : ℕ} (ih : ReadsAlike readFloat fuel)
include ih

theorem alike_readValue_step {s rest : Bytes} {j : Json}
    (h : readValue readFloat (fuel + 1) s = some (j, rest)) :
    ∃ exact, readValue readExact (fuel + 1) s = some (exact, rest) ∧ ValuesAgree j exact := by
  rw [readValue] at h ⊢
  cases hspace : skipSpace s with
  | nil =>
    rw [hspace] at h
    cases h
  | cons b tail =>
    rw [hspace] at h
    simp only at h ⊢
    split_ifs at h ⊢ with hstr harr hobj hnull htrue hfalse
    · obtain ⟨p, hp, h⟩ := Option.map_eq_some_iff.mp h
      cases h
      exact ⟨_, by rw [hp]; rfl, valuesAgree_plain rfl fun _ => rfl⟩
    · generalize skipSpace tail = inner at h ⊢
      split at h
      · cases h
        exact ⟨_, rfl, valuesAgree_plain rfl fun _ => rfl⟩
      · obtain ⟨p, hp, h⟩ := Option.map_eq_some_iff.mp h
        cases h
        obtain ⟨exact, hexact⟩ := ih.items hp
        exact ⟨_, by rw [hexact]; rfl, valuesAgree_plain rfl fun _ => rfl⟩
    · generalize skipSpace tail = inner at h ⊢
      split at h
      · cases h
        exact ⟨_, rfl, valuesAgree_plain rfl fun _ => rfl⟩
      · obtain ⟨p, hp, h⟩ := Option.map_eq_some_iff.mp h
        cases h
        obtain ⟨exact, hexact, hagree⟩ := ih.fields hp
        exact ⟨_, by rw [hexact]; rfl, valuesAgree_obj hagree⟩
    · exact alike_readLiteral (fun _ => rfl) rfl h
    · exact alike_readLiteral (fun _ => rfl) rfl h
    · exact alike_readLiteral (fun _ => rfl) rfl h
    · obtain ⟨value, hvalue, h⟩ := Option.map_eq_some_iff.mp h
      cases h
      obtain ⟨exact, hexact, hagree⟩ := number_agree hvalue
      exact ⟨exact, by rw [readNumber, hexact]; rfl, hagree⟩

theorem alike_readItems_step {s rest : Bytes} {items : List Json}
    (h : readItems readFloat (fuel + 1) s = some (items, rest)) :
    ∃ exact, readItems readExact (fuel + 1) s = some (exact, rest) := by
  rw [readItems] at h ⊢
  obtain ⟨value, hvalue, h⟩ := Option.bind_eq_some_iff.mp h
  obtain ⟨first, hfirst, -⟩ := ih.value hvalue
  rw [hfirst, Option.bind_some]
  simp only
  generalize skipSpace value.2 = inner at h ⊢
  split at h
  · obtain ⟨p, hp, h⟩ := Option.map_eq_some_iff.mp h
    cases h
    obtain ⟨others, hothers⟩ := ih.items hp
    exact ⟨_, by rw [hothers]; rfl⟩
  · cases h
    exact ⟨_, rfl⟩
  · cases h

theorem alike_readFields_step {s rest : Bytes} {fields : List (Bytes × Json)}
    (h : readFields readFloat (fuel + 1) s = some (fields, rest)) :
    ∃ exact, readFields readExact (fuel + 1) s = some (exact, rest) ∧
      List.Forall₂ FieldsAgree fields exact := by
  rw [readFields] at h ⊢
  generalize skipSpace s = start at h ⊢
  split at h
  · obtain ⟨key, hkey, h⟩ := Option.bind_eq_some_iff.mp h
    simp only [hkey, Option.bind_some]
    generalize skipSpace key.2 = colon at h ⊢
    split at h
    · obtain ⟨value, hvalue, h⟩ := Option.bind_eq_some_iff.mp h
      obtain ⟨first, hfirst, hagree⟩ := ih.value hvalue
      simp only [hfirst, Option.bind_some]
      generalize skipSpace value.2 = inner at h ⊢
      split at h
      · obtain ⟨p, hp, h⟩ := Option.map_eq_some_iff.mp h
        cases h
        obtain ⟨others, hothers, hrest⟩ := ih.fields hp
        exact ⟨(key.1, first) :: others, by rw [hothers]; rfl,
          List.Forall₂.cons ⟨rfl, hagree.1⟩ hrest⟩
      · cases h
        exact ⟨[(key.1, first)], rfl, List.Forall₂.cons ⟨rfl, hagree.1⟩ List.Forall₂.nil⟩
      · cases h
    · cases h
  · cases h

end Steps

theorem readsAlike (readFloat : Bytes → Option ℚ) (fuel : ℕ) : ReadsAlike readFloat fuel := by
  induction fuel with
  | zero =>
    constructor
    · intro s rest j h
      rw [readValue] at h
      cases h
    · intro s rest items h
      rw [readItems] at h
      cases h
    · intro s rest fields h
      rw [readFields] at h
      cases h
  | succ fuel ih =>
    exact ⟨alike_readValue_step ih, alike_readItems_step ih, alike_readFields_step ih⟩

/-- **The parser keeps integer literals as the library is documented to.** -/
theorem readsIntegers_parseWith (readFloat : Bytes → Option ℚ) :
    ReadsIntegers (parseWith readFloat) := by
  intro text key root n hparse hliteral
  unfold parseWith at hparse
  split at hparse
  · rename_i hread
    split at hparse
    · rename_i hend
      cases hparse
      obtain ⟨exact, hexact, -, hfields⟩ := (readsAlike readFloat _).value hread
      rw [integerLiteral, parseWith, hexact] at hliteral
      simp only [if_pos hend] at hliteral
      obtain ⟨value, hvalue, hint⟩ := Option.bind_eq_some_iff.mp hliteral
      obtain ⟨kept, hkept, hagree⟩ := hfields key value hvalue
      exact ⟨kept, hkept, hagree n hint⟩
    · cases hparse
  · cases hparse

end Json

end Holonight
