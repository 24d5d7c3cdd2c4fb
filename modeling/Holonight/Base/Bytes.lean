import Mathlib

/-!
# Byte strings

A C++ `std::string` is a sequence of bytes with no promise about its encoding, so
the development works with `Bytes := List UInt8` and not with `String`. This file
is the small library the models share:

- literals: a `String` literal is read as its UTF-8 encoding (`Bytes.ofString`);
- substring search (`Bytes.occursIn`, the meaning of `std::string::contains`) and
  how it distributes over a separator that the pattern does not contain
  (`occursIn_append_cons`);
- decimal rendering (`decimal`, the meaning of `std::to_string` and of `<<` on
  integers) with the two facts its users need: which bytes it can contain, and
  which digit it starts with;
- the lines of a text (`Bytes.lines`, the meaning of a `std::getline` loop).
-/

namespace Holonight

/-- A C++ byte string. -/
abbrev Bytes := List UInt8

/-- The bytes of a string literal (its UTF-8 encoding). -/
def Bytes.ofString (s : String) : Bytes := s.toList.flatMap String.utf8EncodeChar

instance : Coe String Bytes := ⟨Bytes.ofString⟩

/-- Whether a text is one of several, as the code's chains of comparisons ask. -/
instance (text : Bytes) (texts : List Bytes) : Decidable (text ∈ texts) :=
  inferInstanceAs (Decidable (text ∈ texts))

/-! ## Substring search -/

/-- `std::string::contains`: some contiguous part of `text` equals `pattern`. -/
def Bytes.occursIn (pattern text : Bytes) : Bool := decide (pattern <:+: text)

theorem Bytes.occursIn_iff {pattern text : Bytes} :
    Bytes.occursIn pattern text = true ↔ pattern <:+: text := by
  simp [Bytes.occursIn]

/-- A nonempty pattern does not start at a byte it does not contain. -/
theorem infix_cons_of_not_mem {α : Type*} {p text : List α} {sep : α}
    (hne : p ≠ []) (hsep : sep ∉ p) : p <:+: sep :: text ↔ p <:+: text := by
  rw [List.infix_cons_iff]
  constructor
  · rintro (hpre | h)
    · obtain ⟨a, rest, rfl⟩ := List.exists_cons_of_ne_nil hne
      obtain ⟨rfl, -⟩ := List.cons_prefix_cons.mp hpre
      exact absurd List.mem_cons_self hsep
    · exact h
  · exact Or.inr

/-- A pattern that does not contain the separator never straddles it. -/
theorem infix_append_cons_of_not_mem {α : Type*} {p left right : List α} {sep : α}
    (hne : p ≠ []) (hsep : sep ∉ p) :
    p <:+: left ++ sep :: right ↔ p <:+: left ∨ p <:+: right := by
  rw [List.infix_append_iff, infix_cons_of_not_mem hne hsep]
  constructor
  · rintro (h | h | ⟨l₁, l₂, rfl, hl₁, hl₂⟩)
    · exact Or.inl h
    · exact Or.inr h
    -- an occurrence across the separator would contain it
    · cases l₂ with
      | nil => exact Or.inl (by simpa using hl₁.isInfix)
      | cons b rest =>
        obtain ⟨rfl, -⟩ := List.cons_prefix_cons.mp hl₂
        exact absurd (by simp) hsep
  · rintro (h | h)
    · exact Or.inl h
    · exact Or.inr (Or.inl h)

/-- A pattern whose first byte occurs only at the start of the text occurs in it
exactly when it is an initial part of it. -/
theorem infix_cons_iff_initial {α : Type*} {a : α} {p text : List α} (ha : a ∉ text) :
    a :: p <:+: a :: text ↔ p <+: text := by
  rw [List.infix_cons_iff, List.cons_prefix_cons]
  constructor
  · rintro (⟨-, h⟩ | h)
    · exact h
    · exact absurd (h.subset List.mem_cons_self) ha
  · intro h
    exact Or.inl ⟨rfl, h⟩

/-! ## Decimal rendering -/

/-- The byte of a decimal digit. -/
def digitByte (d : ℕ) : UInt8 := UInt8.ofNat (48 + d)

/-- The decimal digits of a natural number, most significant first. -/
def decimalNat (n : ℕ) : Bytes :=
  if n = 0 then [48] else ((Nat.digits 10 n).map digitByte).reverse

/-- `std::to_string` on integers. -/
def decimal (n : ℤ) : Bytes :=
  if n < 0 then 45 :: decimalNat n.natAbs else decimalNat n.natAbs

theorem toNat_digitByte {d : ℕ} (hd : d < 10) : (digitByte d).toNat = 48 + d := by
  unfold digitByte
  rw [UInt8.toNat_ofNat']
  omega

theorem decimalNat_ne_nil (n : ℕ) : decimalNat n ≠ [] := by
  unfold decimalNat
  split
  · exact List.cons_ne_nil _ _
  · rename_i hn
    rw [ne_eq, List.reverse_eq_nil_iff, List.map_eq_nil_iff]
    exact Nat.digits_ne_nil_iff_ne_zero.mpr hn

/-- A decimal rendering uses only the bytes `0`–`9`. -/
theorem mem_decimalNat {n : ℕ} {b : UInt8} (hb : b ∈ decimalNat n) :
    48 ≤ b.toNat ∧ b.toNat ≤ 57 := by
  unfold decimalNat at hb
  split at hb
  · rw [List.mem_singleton] at hb
    subst hb
    decide
  · rw [List.mem_reverse, List.mem_map] at hb
    obtain ⟨d, hd, rfl⟩ := hb
    have hlt := Nat.digits_lt_base (by decide : 1 < 10) hd
    rw [toNat_digitByte hlt]
    omega

/-- An integer rendering uses only `-` and the bytes `0`–`9`. -/
theorem mem_decimal {n : ℤ} {b : UInt8} (hb : b ∈ decimal n) :
    b = 45 ∨ 48 ≤ b.toNat ∧ b.toNat ≤ 57 := by
  unfold decimal at hb
  split at hb
  · rcases List.mem_cons.mp hb with rfl | hb
    · exact Or.inl rfl
    · exact Or.inr (mem_decimalNat hb)
  · exact Or.inr (mem_decimalNat hb)

/-- The rendering of a positive number does not start with `0`. -/
theorem decimalNat_head_ne_zero {n : ℕ} (hn : n ≠ 0) : (decimalNat n).head? ≠ some 48 := by
  unfold decimalNat
  rw [if_neg hn, List.head?_reverse, List.getLast?_map]
  have hne : Nat.digits 10 n ≠ [] := Nat.digits_ne_nil_iff_ne_zero.mpr hn
  rw [List.getLast?_eq_some_getLast hne, Option.map_some]
  intro h
  have hlast := Nat.getLast_digit_ne_zero 10 hn
  have hlt := Nat.digits_lt_base (by decide : 1 < 10) (List.getLast_mem hne)
  have hval := congrArg UInt8.toNat (Option.some.inj h)
  rw [toNat_digitByte hlt] at hval
  have h48 : UInt8.toNat 48 = 48 := rfl
  omega

/-- Different numbers have different renderings. -/
theorem decimalNat_injective : Function.Injective decimalNat := by
  intro m n h
  by_cases hm : m = 0
  · by_cases hn : n = 0
    · rw [hm, hn]
    · exact absurd (by rw [← h, hm]; rfl) (decimalNat_head_ne_zero hn)
  · by_cases hn : n = 0
    · exact absurd (by rw [h, hn]; rfl) (decimalNat_head_ne_zero hm)
    · unfold decimalNat at h
      rw [if_neg hm, if_neg hn, List.reverse_inj] at h
      -- the digits can be read back from their bytes
      have hback : ∀ k : ℕ, ((Nat.digits 10 k).map digitByte).map (fun b => b.toNat - 48)
          = Nat.digits 10 k := by
        intro k
        rw [List.map_map]
        refine (List.map_congr_left fun d hd => ?_).trans (List.map_id _)
        have hlt := Nat.digits_lt_base (by decide : 1 < 10) hd
        show (digitByte d).toNat - 48 = d
        rw [toNat_digitByte hlt]
        omega
      refine Nat.digits_inj_iff.mp (?_ : Nat.digits 10 m = Nat.digits 10 n)
      rw [← hback m, ← hback n, h]

/-- The only integer whose rendering starts with `0` is zero. -/
theorem decimal_head_eq_zero {n : ℤ} : (decimal n).head? = some 48 ↔ n = 0 := by
  constructor
  · intro h
    by_contra hn
    unfold decimal at h
    split at h
    · simp at h
    · exact decimalNat_head_ne_zero (Int.natAbs_ne_zero.mpr hn) h
  · rintro rfl
    rfl

/-! ## Lines -/

theorem not_mem_decimalNat (n : ℕ) : (10 : UInt8) ∉ decimalNat n := by
  intro hmem
  exact absurd (mem_decimalNat hmem).1 (by decide)

theorem not_mem_decimal (n : ℤ) : (10 : UInt8) ∉ decimal n := by
  intro hmem
  rcases mem_decimal hmem with h | ⟨hlo, -⟩
  · cases h
  · exact absurd hlo (by decide)

/-- The lines of a text, with what is already read of the first one. -/
def Bytes.linesFrom (current : Bytes) : Bytes → List Bytes
  -- text after the last newline is a line when there is any
  | [] => if current = [] then [] else [current]
  | b :: rest => if b = 10 then current :: linesFrom [] rest else linesFrom (current ++ [b]) rest

/-- The lines that `std::getline` reads from a text. -/
def Bytes.lines (text : Bytes) : List Bytes := Bytes.linesFrom [] text

theorem Bytes.linesFrom_append_newline (current left right : Bytes) :
    Bytes.linesFrom current (left ++ 10 :: right)
      = Bytes.linesFrom current (left ++ [10]) ++ Bytes.lines right := by
  induction left generalizing current with
  | nil => rfl
  | cons b left ih =>
    by_cases hb : b = 10
    · simp [Bytes.linesFrom, hb, ih]
    · simp [Bytes.linesFrom, hb, ih]

/-- After a newline the lines start anew. -/
theorem Bytes.lines_append_newline (left right : Bytes) :
    Bytes.lines (left ++ 10 :: right) = Bytes.lines (left ++ [10]) ++ Bytes.lines right :=
  Bytes.linesFrom_append_newline [] left right

theorem Bytes.linesFrom_line (current : Bytes) {line : Bytes} (h : (10 : UInt8) ∉ line) :
    Bytes.linesFrom current (line ++ [10]) = [current ++ line] := by
  induction line generalizing current with
  | nil => simp [Bytes.linesFrom]
  | cons b line ih =>
    have hb : b ≠ 10 := fun heq => h (heq ▸ List.mem_cons_self)
    have hrest : (10 : UInt8) ∉ line := fun hmem => h (List.mem_cons_of_mem _ hmem)
    rw [List.cons_append, Bytes.linesFrom, if_neg hb, ih (current ++ [b]) hrest,
      List.append_assoc, List.singleton_append]

/-- A text without newline and a newline are a line. -/
theorem Bytes.lines_cons {line : Bytes} (h : (10 : UInt8) ∉ line) (rest : Bytes) :
    Bytes.lines (line ++ 10 :: rest) = line :: Bytes.lines rest := by
  rw [Bytes.lines_append_newline, Bytes.lines, Bytes.linesFrom_line [] h]
  rfl

/-- The lines of a text that ends each of them with a newline. -/
theorem Bytes.lines_flatMap {texts : List Bytes} (h : ∀ text ∈ texts, (10 : UInt8) ∉ text) :
    Bytes.lines (texts.flatMap fun text => text ++ [10]) = texts := by
  induction texts with
  | nil => rfl
  | cons text texts ih =>
    rw [List.forall_mem_cons] at h
    rw [List.flatMap_cons, List.append_assoc, List.singleton_append, Bytes.lines_cons h.1, ih h.2]

end Holonight
