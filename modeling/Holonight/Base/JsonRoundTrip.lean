import Holonight.Base.JsonParser

/-!
# Round trip of JSON texts

The properties that `JsonLibrary` states of `json::parse` are not empty: they hold of the
parser of `Holonight.Base.JsonParser`.

- `parseWith_dump`: a dumped value reads back. The parser recurses on its fuel, so the
  induction does too (`readsBack`); one step is a lemma for values, elements and fields
  each.
- `sound_parseWith`: what is accepted is a value the library can hold and print.

`JsonLibrary.integral` is the library for the doubles that are integers, whose digits can be
written out.
-/

namespace Holonight

namespace Json

/-! ## Strings read back -/

theorem toNat_hexDigit {n : ℕ} (h : n < 16) :
    (hexDigit n).toNat = if n < 10 then 48 + n else 87 + n := by
  unfold hexDigit
  rw [UInt8.toNat_ofNat']
  split <;> omega

theorem hexValue_hexDigit {n : ℕ} (h : n < 16) : hexValue (hexDigit n) = some n := by
  have hval := toNat_hexDigit h
  unfold hexValue inRange
  simp only [Bool.and_eq_true, decide_eq_true_iff, UInt8.le_iff_toNat_le]
  by_cases hsmall : n < 10
  · rw [if_pos hsmall] at hval
    rw [if_pos ⟨by simp; omega, by simp; omega⟩, hval]
    congr 1
    omega
  · rw [if_neg hsmall] at hval
    rw [if_neg (by simp; omega), if_pos ⟨by simp; omega, by simp; omega⟩, hval]
    congr 1
    omega

/-- The escape of a control character denotes it. -/
theorem codeUnit_control (b : UInt8) :
    codeUnit 48 48 (hexDigit (b.toNat / 16)) (hexDigit (b.toNat % 16)) = some b.toNat := by
  have hlt := b.toNat_lt
  have hzero : hexValue 48 = some 0 := rfl
  unfold codeUnit
  rw [hzero, hexValue_hexDigit (by omega : b.toNat / 16 < 16), hexValue_hexDigit (by omega : b.toNat % 16 < 16)]
  show some _ = some _
  congr 1
  omega

theorem encodePoint_ascii {b : UInt8} (h : b.toNat < 0x80) : encodePoint b.toNat = [b] := by
  rw [encodePoint, if_pos h, UInt8.ofNat_toNat]

theorem scanString_quote (rest : Bytes) : scanString (34 :: rest) = some ([], rest) := by
  rw [scanString.eq_def]
  rfl

theorem scanString_plain {b : UInt8} (hquote : b ≠ 34) (hslash : b ≠ 92) (hcontrol : ¬ b < 32)
    (rest : Bytes) : scanString (b :: rest) = (scanString rest).map fun p => (b :: p.1, p.2) := by
  rw [scanString.eq_def]
  simp only [hquote, hslash, hcontrol, if_false]

theorem scanString_short {e b : UInt8} (he : unescape e = some b) (rest : Bytes) :
    scanString (92 :: e :: rest) = (scanString rest).map fun p => (b :: p.1, p.2) := by
  have hne : e ≠ 117 := by
    rintro rfl
    cases he
  rw [scanString.eq_def]
  simp only [hne, if_false, if_true, he, Option.bind_some]
  rfl

theorem scanString_unit {a b c d : UInt8} {n : ℕ} (hunit : codeUnit a b c d = some n)
    (hn : n < 0xD800) (rest : Bytes) :
    scanString (92 :: 117 :: a :: b :: c :: d :: rest)
      = (scanString rest).map fun p => (encodePoint n ++ p.1, p.2) := by
  rw [scanString.eq_def]
  simp only [if_true, hunit, Option.bind_some, hn, true_or]
  rfl

/-- **One byte of a string literal** is read as the byte it was written for. -/
theorem scanString_escapeByte (b : UInt8) (rest : Bytes) :
    scanString (escapeByte b ++ rest) = (scanString rest).map fun p => (b :: p.1, p.2) := by
  unfold escapeByte
  split_ifs with hquote hslash hback hfeed hnewline hreturn htab hcontrol
  · subst hquote
    exact scanString_short rfl rest
  · subst hslash
    exact scanString_short rfl rest
  · subst hback
    exact scanString_short rfl rest
  · subst hfeed
    exact scanString_short rfl rest
  · subst hnewline
    exact scanString_short rfl rest
  · subst hreturn
    exact scanString_short rfl rest
  · subst htab
    exact scanString_short rfl rest
  · rw [UInt8.lt_iff_toNat_lt] at hcontrol
    have hlt : b.toNat < 32 := hcontrol
    have hunit := scanString_unit (codeUnit_control b) (by omega) rest
    rw [encodePoint_ascii (by omega)] at hunit
    exact hunit
  · exact scanString_plain hquote hslash hcontrol rest

theorem scanString_escaped (s rest : Bytes) :
    scanString (s.flatMap escapeByte ++ 34 :: rest) = some (s, rest) := by
  induction s with
  | nil => exact scanString_quote rest
  | cons b s ih =>
    rw [List.flatMap_cons, List.append_assoc, scanString_escapeByte, ih]
    rfl

theorem readString_escaped {s : Bytes} (hs : validUtf8 s = true) (rest : Bytes) :
    readString (s.flatMap escapeByte ++ 34 :: rest) = some (s, rest) := by
  rw [readString, scanString_escaped, Option.bind_some, if_pos hs]

/-- A string literal that was dumped starts with a quotation mark and reads back. -/
theorem readString_dumpString {s text : Bytes} (h : dumpString s = .ok text) :
    ∃ body, text = 34 :: body ∧ ∀ rest, readString (body ++ rest) = some (s, rest) := by
  unfold dumpString at h
  split at h
  · rename_i hs
    cases h
    refine ⟨s.flatMap escapeByte ++ [34], rfl, fun rest => ?_⟩
    rw [List.append_assoc]
    exact readString_escaped hs rest
  · cases h

/-! ## Numbers read back -/

theorem isNumberByte_of_digit {b : UInt8} (h : isDigitByte b = true) : isNumberByte b = true := by
  unfold isNumberByte
  rw [h]
  rfl

theorem isDigits_decimalNat (n : ℕ) : isDigits (decimalNat n) = true := by
  have hall : (decimalNat n).all isDigitByte = true :=
    List.all_eq_true.mpr fun b hb => isDigitByte_of_mem_decimalNat hb
  unfold isDigits
  rw [hall, List.isEmpty_eq_false_iff.mpr (decimalNat_ne_nil n)]
  by_cases hn : n = 0
  · subst hn
    rfl
  · simpa using Or.inr (decimalNat_head_ne_zero hn)

section Numbers

variable {readFloat : Bytes → Option ℚ}

/-- A text of digits has no sign. -/
theorem decimalNat_append_ne_minus (n : ℕ) (tail ds : Bytes) : decimalNat n ++ tail ≠ 45 :: ds := by
  intro heq
  obtain ⟨d, rest, hdigits⟩ := List.exists_cons_of_ne_nil (decimalNat_ne_nil n)
  have hd : isDigitByte d = true :=
    isDigitByte_of_mem_decimalNat (hdigits ▸ List.mem_cons_self : d ∈ decimalNat n)
  rw [hdigits, List.cons_append] at heq
  rw [(List.cons.inj heq).1] at hd
  cases hd

theorem decimalNat_ne_minus (n : ℕ) (ds : Bytes) : decimalNat n ≠ 45 :: ds := by
  have h := decimalNat_append_ne_minus n [] ds
  rwa [List.append_nil] at h

theorem number_decimalNat {n : ℕ} (hn : n < 2 ^ 64) :
    number readFloat (decimalNat n) = some (.uint n) := by
  unfold number
  split
  · rename_i ds heq
    exact absurd heq (decimalNat_ne_minus _ _)
  · rw [isDigits_decimalNat, digitsValue_decimalNat, if_pos ⟨rfl, hn⟩]

theorem number_negative {n : ℤ} (hneg : n < 0) (hn : InInt64 n) :
    number readFloat (45 :: decimalNat n.natAbs) = some (.int n) := by
  have hvalue : -((n.natAbs : ℕ) : ℤ) = n := by omega
  simp only [number, isDigits_decimalNat, digitsValue_decimalNat, hvalue, hn, and_self, if_true]

/-- The text after a number does not go on with one. -/
def EndsNumber (rest : Bytes) : Prop := ∀ b ∈ rest.head?, isNumberByte b = false

theorem readNumber_token {token rest : Bytes} {j : Json}
    (htoken : ∀ b ∈ token, isNumberByte b = true) (hrest : EndsNumber rest)
    (hnumber : number readFloat token = some j) :
    readNumber readFloat (token ++ rest) = some (j, rest) := by
  have htake : rest.takeWhile isNumberByte = [] := by
    cases rest with
    | nil => rfl
    | cons b rest => rw [List.takeWhile_cons, hrest b rfl]; rfl
  have hdrop : rest.dropWhile isNumberByte = rest := by
    cases rest with
    | nil => rfl
    | cons b rest => rw [List.dropWhile_cons, hrest b rfl]; rfl
  rw [readNumber, List.takeWhile_append_of_pos htoken, List.dropWhile_append_of_pos htoken, htake,
    hdrop, List.append_nil, hnumber]
  rfl

theorem skipSpace_cons {b : UInt8} (h : isSpace b = false) (rest : Bytes) :
    skipSpace (b :: rest) = b :: rest := by
  rw [skipSpace, List.dropWhile_cons, h]
  rfl

theorem ne_of_isNumberByte {b c : UInt8} (hb : isNumberByte b = true) (hc : isNumberByte c = false) :
    b ≠ c := by
  rintro rfl
  rw [hb] at hc
  cases hc

theorem isSpace_of_isNumberByte {b : UInt8} (hb : isNumberByte b = true) : isSpace b = false := by
  have h : ∀ c : UInt8, isNumberByte c = false → b ≠ c := fun c => ne_of_isNumberByte hb
  simp [isSpace, h 32 rfl, h 9 rfl, h 10 rfl, h 13 rfl]

theorem numberText_head {token : Bytes} (htoken : ∀ b ∈ token, isNumberByte b = true)
    (hne : token ≠ []) : ∃ b rest, token = b :: rest ∧ isSpace b = false ∧ b ≠ 93 := by
  obtain ⟨b, rest, rfl⟩ := List.exists_cons_of_ne_nil hne
  have hb := htoken b List.mem_cons_self
  exact ⟨b, rest, rfl, isSpace_of_isNumberByte hb, ne_of_isNumberByte hb rfl⟩

/-- A number starts with none of the bytes that start another value. -/
theorem readValue_number {b : UInt8} (hb : isNumberByte b = true) (fuel : ℕ) (rest : Bytes) :
    readValue readFloat (fuel + 1) (b :: rest) = readNumber readFloat (b :: rest) := by
  have h : ∀ c : UInt8, isNumberByte c = false → b ≠ c := fun c => ne_of_isNumberByte hb
  rw [readValue, skipSpace_cons (isSpace_of_isNumberByte hb)]
  simp only [h 34 rfl, h 91 rfl, h 123 rfl, h 110 rfl, h 116 rfl, h 102 rfl, if_false]

theorem readValue_token {token rest : Bytes} {j : Json} {fuel : ℕ}
    (htoken : ∀ b ∈ token, isNumberByte b = true) (hne : token ≠ []) (hrest : EndsNumber rest)
    (hnumber : number readFloat token = some j) :
    readValue readFloat (fuel + 1) (token ++ rest) = some (j, rest) := by
  obtain ⟨b, t, rfl⟩ := List.exists_cons_of_ne_nil hne
  rw [List.cons_append, readValue_number (htoken b List.mem_cons_self)]
  exact readNumber_token htoken hrest hnumber

end Numbers

/-! ## Values read back -/

/-- The floating-point part of the parser reads what `fmt` prints. -/
structure ReadsFloats (readFloat : Bytes → Option ℚ) (fmt : ℚ → Bytes) (double : ℚ → Prop) :
    Prop where
  ne_nil : ∀ {q}, double q → fmt q ≠ []
  bytes : ∀ {q}, double q → ∀ b ∈ fmt q, isNumberByte b = true
  number : ∀ {q}, double q → number readFloat (fmt q) = some (.float (.finite q))

theorem readLiteral_append (word : Bytes) (value : Json) (rest : Bytes) :
    readLiteral word value (word ++ rest) = some (value, rest) := by
  have hprefix : word.isPrefixOf (word ++ rest) = true :=
    List.isPrefixOf_iff_prefix.mpr (List.prefix_append word rest)
  rw [readLiteral, if_pos hprefix, List.drop_left]

section Values

variable {readFloat : Bytes → Option ℚ} {fmt : ℚ → Bytes} {double : ℚ → Prop}

theorem readValue_null {fuel : ℕ} (rest : Bytes) :
    readValue readFloat (fuel + 1) (Bytes.ofString "null" ++ rest) = some (.null, rest) := by
  show readValue readFloat (fuel + 1) (110 :: (Bytes.ofString "ull" ++ rest)) = _
  rw [readValue, skipSpace_cons rfl]
  exact readLiteral_append "ull" .null rest

theorem readValue_bool {fuel : ℕ} (b : Bool) (rest : Bytes) :
    readValue readFloat (fuel + 1)
      ((if b then Bytes.ofString "true" else Bytes.ofString "false") ++ rest)
      = some (.bool b, rest) := by
  cases b with
  | false =>
    show readValue readFloat (fuel + 1) (102 :: (Bytes.ofString "alse" ++ rest)) = _
    rw [readValue, skipSpace_cons rfl]
    exact readLiteral_append "alse" (.bool false) rest
  | true =>
    show readValue readFloat (fuel + 1) (116 :: (Bytes.ofString "rue" ++ rest)) = _
    rw [readValue, skipSpace_cons rfl]
    exact readLiteral_append "rue" (.bool true) rest

theorem isNumberByte_of_mem_decimal {n : ℤ} {b : UInt8} (hb : b ∈ decimal n) :
    isNumberByte b = true := by
  unfold decimal at hb
  split at hb
  · rcases List.mem_cons.mp hb with rfl | hb
    · rfl
    · exact isNumberByte_of_digit (isDigitByte_of_mem_decimalNat hb)
  · exact isNumberByte_of_digit (isDigitByte_of_mem_decimalNat hb)

theorem decimal_ne_nil (n : ℤ) : decimal n ≠ [] := by
  unfold decimal
  split
  · exact List.cons_ne_nil _ _
  · exact decimalNat_ne_nil _

theorem number_decimal {n : ℤ} (hn : InInt64 n) :
    number readFloat (decimal n) = some (reread (.int n)) := by
  by_cases hneg : n < 0
  · rw [decimal, if_pos hneg, reread, if_pos hneg]
    exact number_negative hneg hn
  · have hvalue : n.natAbs = n.toNat := by omega
    rw [decimal, if_neg hneg, reread, if_neg hneg, hvalue]
    exact number_decimalNat (by have := hn.2; omega)

theorem endsNumber_cons {b : UInt8} (h : isNumberByte b = false) (rest : Bytes) :
    EndsNumber (b :: rest) := by
  rintro _ ⟨⟩
  exact h

/-- The first byte of a dumped value is no space and closes nothing. -/
theorem dump_head (hfmt : ReadsFloats readFloat fmt double) : ∀ {j : Json} {text : Bytes},
    WellFormed double j → dump fmt j = .ok text →
    ∃ b rest, text = b :: rest ∧ isSpace b = false ∧ b ≠ 93
  | .null, _, _, h => by
    cases h
    exact ⟨_, _, rfl, rfl, by decide⟩
  | .bool b, _, _, h => by
    cases h
    cases b <;> exact ⟨_, _, rfl, rfl, by decide⟩
  | .int n, _, _, h => by
    cases h
    exact numberText_head (fun b => isNumberByte_of_mem_decimal) (decimal_ne_nil n)
  | .uint n, _, _, h => by
    cases h
    exact numberText_head
      (fun b hb => isNumberByte_of_digit (isDigitByte_of_mem_decimalNat hb)) (decimalNat_ne_nil n)
  | .float (.finite q), _, hwf, h => by
    cases h
    exact numberText_head (hfmt.bytes hwf) (hfmt.ne_nil hwf)
  | .float .posInf, _, _, h => by
    cases h
    exact ⟨_, _, rfl, rfl, by decide⟩
  | .float .negInf, _, _, h => by
    cases h
    exact ⟨_, _, rfl, rfl, by decide⟩
  | .float .nan, _, _, h => by
    cases h
    exact ⟨_, _, rfl, rfl, by decide⟩
  | .str s, _, _, h => by
    obtain ⟨body, rfl, -⟩ := readString_dumpString h
    exact ⟨_, _, rfl, rfl, by decide⟩
  | .arr items, _, _, h => by
    rw [dump] at h
    obtain ⟨parts, -, h⟩ := bind_eq_ok.mp h
    cases h
    exact ⟨_, _, rfl, rfl, by decide⟩
  | .obj fields, _, _, h => by
    rw [dump] at h
    obtain ⟨parts, -, h⟩ := bind_eq_ok.mp h
    cases h
    exact ⟨_, _, rfl, rfl, by decide⟩

theorem intercalate_head (sep part : Bytes) (parts : List Bytes) :
    ∃ tail, sep.intercalate (part :: parts) = part ++ tail := by
  cases parts with
  | nil => exact ⟨[], by simp⟩
  | cons next parts => exact ⟨sep ++ sep.intercalate (next :: parts), by
      rw [List.intercalate_cons_cons, List.append_assoc]⟩

theorem intercalate_cons {part : Bytes} {parts : List Bytes} (h : parts ≠ []) :
    [44].intercalate (part :: parts) = part ++ 44 :: [44].intercalate parts := by
  obtain ⟨next, parts, rfl⟩ := List.exists_cons_of_ne_nil h
  rw [List.intercalate_cons_cons, List.append_assoc]
  rfl

theorem dumpItems_ne_nil {items : List Json} {parts : List Bytes} (hne : items ≠ [])
    (h : dumpItems fmt items = .ok parts) : parts ≠ [] := by
  obtain ⟨j, items, rfl⟩ := List.exists_cons_of_ne_nil hne
  rw [dumpItems] at h
  obtain ⟨text, -, h⟩ := bind_eq_ok.mp h
  obtain ⟨texts, -, h⟩ := bind_eq_ok.mp h
  cases h
  exact List.cons_ne_nil _ _

theorem dumpFields_ne_nil {fields : List (Bytes × Json)} {parts : List Bytes} (hne : fields ≠ [])
    (h : dumpFields fmt fields = .ok parts) : parts ≠ [] := by
  obtain ⟨f, fields, rfl⟩ := List.exists_cons_of_ne_nil hne
  rw [dumpFields] at h
  obtain ⟨name, -, h⟩ := bind_eq_ok.mp h
  obtain ⟨text, -, h⟩ := bind_eq_ok.mp h
  obtain ⟨texts, -, h⟩ := bind_eq_ok.mp h
  cases h
  exact List.cons_ne_nil _ _

/-- The elements of an array start as its first element does. -/
theorem dumpItems_head (hfmt : ReadsFloats readFloat fmt double) {items : List Json}
    {parts : List Bytes} (hne : items ≠ []) (hwf : WellFormedItems double items)
    (h : dumpItems fmt items = .ok parts) :
    ∃ b rest, [44].intercalate parts = b :: rest ∧ isSpace b = false ∧ b ≠ 93 := by
  obtain ⟨j, items, rfl⟩ := List.exists_cons_of_ne_nil hne
  rw [dumpItems] at h
  obtain ⟨text, htext, h⟩ := bind_eq_ok.mp h
  obtain ⟨texts, -, h⟩ := bind_eq_ok.mp h
  cases h
  obtain ⟨b, body, rfl, hb⟩ := dump_head hfmt hwf.1 htext
  obtain ⟨tail, htail⟩ := intercalate_head [44] (b :: body) texts
  exact ⟨b, body ++ tail, htail, hb⟩

/-- The fields of an object start with a key. -/
theorem dumpFields_head {fields : List (Bytes × Json)} {parts : List Bytes} (hne : fields ≠ [])
    (h : dumpFields fmt fields = .ok parts) : ∃ rest, [44].intercalate parts = 34 :: rest := by
  obtain ⟨f, fields, rfl⟩ := List.exists_cons_of_ne_nil hne
  rw [dumpFields] at h
  obtain ⟨name, hname, h⟩ := bind_eq_ok.mp h
  obtain ⟨text, -, h⟩ := bind_eq_ok.mp h
  obtain ⟨texts, -, h⟩ := bind_eq_ok.mp h
  cases h
  obtain ⟨body, rfl, -⟩ := readString_dumpString hname
  obtain ⟨tail, htail⟩ := intercalate_head [44] (34 :: body ++ [58] ++ text) texts
  exact ⟨body ++ [58] ++ text ++ tail, by rw [htail]; rfl⟩

theorem readValue_emptyArr {fuel : ℕ} (rest : Bytes) :
    readValue readFloat (fuel + 1) (91 :: 93 :: rest) = some (.arr [], rest) := by
  rw [readValue, skipSpace_cons rfl]
  rfl

theorem readValue_emptyObj {fuel : ℕ} (rest : Bytes) :
    readValue readFloat (fuel + 1) (123 :: 125 :: rest) = some (.obj [], rest) := by
  rw [readValue, skipSpace_cons rfl]
  rfl

/-- An array that does not close at once is read element by element. -/
theorem readValue_arr {body rest : Bytes} {items : List Json} {fuel : ℕ}
    (hhead : ∃ b t, body = b :: t ∧ isSpace b = false ∧ b ≠ 93)
    (h : readItems readFloat fuel (body ++ 93 :: rest) = some (items, rest)) :
    readValue readFloat (fuel + 1) ([91] ++ body ++ [93] ++ rest) = some (.arr items, rest) := by
  obtain ⟨b, t, rfl, hspace, hclose⟩ := hhead
  have htext : [91] ++ b :: t ++ [93] ++ rest = 91 :: b :: (t ++ 93 :: rest) := by simp
  rw [htext, readValue, skipSpace_cons rfl]
  simp only [if_neg (by decide : ¬ (91 : UInt8) = 34), if_true, skipSpace_cons hspace]
  rw [List.cons_append] at h
  split
  · rename_i heq
    exact absurd (List.cons.inj heq).1 hclose
  · rw [h]
    rfl

/-- An object that starts with a key is read field by field. -/
theorem readValue_obj {body rest : Bytes} {fields : List (Bytes × Json)} {fuel : ℕ}
    (hhead : ∃ t, body = 34 :: t)
    (h : readFields readFloat fuel (body ++ 125 :: rest) = some (fields, rest)) :
    readValue readFloat (fuel + 1) ([123] ++ body ++ [125] ++ rest)
      = some (.obj (assignFields fields []), rest) := by
  obtain ⟨t, rfl⟩ := hhead
  have htext : [123] ++ 34 :: t ++ [125] ++ rest = 123 :: 34 :: (t ++ 125 :: rest) := by simp
  rw [htext, readValue, skipSpace_cons rfl]
  rw [List.cons_append] at h
  show (readFields readFloat fuel (34 :: (t ++ 125 :: rest))).map _ = _
  rw [h]
  rfl

theorem readItems_last {s rest : Bytes} {j : Json} {fuel : ℕ}
    (h : readValue readFloat fuel s = some (j, 93 :: rest)) :
    readItems readFloat (fuel + 1) s = some ([j], rest) := by
  rw [readItems, h, Option.bind_some, skipSpace_cons rfl]
  rfl

theorem readItems_next {s more rest : Bytes} {j : Json} {items : List Json} {fuel : ℕ}
    (h : readValue readFloat fuel s = some (j, 44 :: more))
    (hmore : readItems readFloat fuel more = some (items, rest)) :
    readItems readFloat (fuel + 1) s = some (j :: items, rest) := by
  rw [readItems, h, Option.bind_some, skipSpace_cons rfl]
  show (readItems readFloat fuel more).map _ = _
  rw [hmore]
  rfl

theorem readFields_last {s more rest key : Bytes} {j : Json} {fuel : ℕ}
    (hkey : readString s = some (key, 58 :: more))
    (h : readValue readFloat fuel more = some (j, 125 :: rest)) :
    readFields readFloat (fuel + 1) (34 :: s) = some ([(key, j)], rest) := by
  rw [readFields, skipSpace_cons rfl]
  simp only [hkey, Option.bind_some, skipSpace_cons (rfl : isSpace 58 = false), h,
    skipSpace_cons (rfl : isSpace 125 = false)]

theorem readFields_next {s more rest tail key : Bytes} {j : Json} {fields : List (Bytes × Json)}
    {fuel : ℕ} (hkey : readString s = some (key, 58 :: more))
    (h : readValue readFloat fuel more = some (j, 44 :: tail))
    (htail : readFields readFloat fuel tail = some (fields, rest)) :
    readFields readFloat (fuel + 1) (34 :: s) = some ((key, j) :: fields, rest) := by
  rw [readFields, skipSpace_cons rfl]
  simp only [hkey, Option.bind_some, skipSpace_cons (rfl : isSpace 58 = false), h,
    skipSpace_cons (rfl : isSpace 44 = false), htail, Option.map_some]

theorem map_fst_rereadFields (fields : List (Bytes × Json)) :
    (rereadFields fields).map Prod.fst = fields.map Prod.fst := by
  induction fields with
  | nil => rfl
  | cons f rest ih => rw [rereadFields, List.map_cons, List.map_cons, ih]

/-- The fields of a well-formed object come back in the order they had. -/
theorem assign_rereadFields {fields : List (Bytes × Json)} (hwf : WellFormed double (.obj fields)) :
    assignFields (rereadFields fields) [] = rereadFields fields := by
  rw [assignFields_sorted, List.nil_append]
  rw [List.nil_append, map_fst_rereadFields]
  exact hwf.1

/-- With this fuel the parser reads what was dumped, from the front of a text. Twice the length of
the text is enough for a value; its elements and fields are read with what is left. -/
structure ReadsBack (readFloat : Bytes → Option ℚ) (fmt : ℚ → Bytes) (double : ℚ → Prop)
    (fuel : ℕ) : Prop where
  value : ∀ {j : Json} {text rest : Bytes}, WellFormed double j → dump fmt j = .ok text →
    EndsNumber rest → 2 * text.length ≤ fuel →
    readValue readFloat fuel (text ++ rest) = some (reread j, rest)
  items : ∀ {items : List Json} {parts : List Bytes} (rest : Bytes), items ≠ [] →
    WellFormedItems double items → dumpItems fmt items = .ok parts →
    2 * ([44].intercalate parts).length + 1 ≤ fuel →
    readItems readFloat fuel ([44].intercalate parts ++ 93 :: rest)
      = some (rereadItems items, rest)
  fields : ∀ {fields : List (Bytes × Json)} {parts : List Bytes} (rest : Bytes), fields ≠ [] →
    WellFormedFields double fields → dumpFields fmt fields = .ok parts →
    2 * ([44].intercalate parts).length + 1 ≤ fuel →
    readFields readFloat fuel ([44].intercalate parts ++ 125 :: rest)
      = some (rereadFields fields, rest)

section Steps

variable {fuel : ℕ} (hfmt : ReadsFloats readFloat fmt double)
  (ih : ReadsBack readFloat fmt double fuel)
include hfmt ih

theorem readValue_step {j : Json} {text rest : Bytes} (hwf : WellFormed double j)
    (h : dump fmt j = .ok text) (hrest : EndsNumber rest) (hfuel : 2 * text.length ≤ fuel + 1) :
    readValue readFloat (fuel + 1) (text ++ rest) = some (reread j, rest) := by
  cases j with
  | null =>
    cases h
    exact readValue_null rest
  | bool b =>
    cases h
    exact readValue_bool b rest
  | int n =>
    cases h
    exact readValue_token (fun b => isNumberByte_of_mem_decimal) (decimal_ne_nil n) hrest
      (number_decimal hwf)
  | uint n =>
    cases h
    exact readValue_token (fun b hb => isNumberByte_of_digit (isDigitByte_of_mem_decimalNat hb))
      (decimalNat_ne_nil n) hrest (number_decimalNat hwf)
  | float d =>
    cases d with
    | finite q =>
      cases h
      exact readValue_token (hfmt.bytes hwf) (hfmt.ne_nil hwf) hrest (hfmt.number hwf)
    | posInf =>
      cases h
      exact readValue_null rest
    | negInf =>
      cases h
      exact readValue_null rest
    | nan =>
      cases h
      exact readValue_null rest
  | str s =>
    obtain ⟨body, rfl, hbody⟩ := readString_dumpString h
    rw [List.cons_append, readValue, skipSpace_cons rfl]
    show (readString (body ++ rest)).map _ = _
    rw [hbody]
    rfl
  | arr items =>
    rw [dump] at h
    obtain ⟨parts, hparts, h⟩ := bind_eq_ok.mp h
    cases h
    by_cases hempty : items = []
    · subst hempty
      cases hparts
      exact readValue_emptyArr rest
    · refine readValue_arr (dumpItems_head hfmt hempty hwf hparts) ?_
      refine ih.items rest hempty hwf hparts ?_
      simp only [List.length_append, List.length_singleton] at hfuel
      omega
  | obj fields =>
    rw [dump] at h
    obtain ⟨parts, hparts, h⟩ := bind_eq_ok.mp h
    cases h
    by_cases hempty : fields = []
    · subst hempty
      cases hparts
      exact readValue_emptyObj rest
    · rw [reread, ← assign_rereadFields hwf]
      refine readValue_obj (dumpFields_head hempty hparts) ?_
      refine ih.fields rest hempty hwf.2 hparts ?_
      simp only [List.length_append, List.length_singleton] at hfuel
      omega

omit hfmt in
theorem readItems_step {items : List Json} {parts : List Bytes} (rest : Bytes)
    (hne : items ≠ []) (hwf : WellFormedItems double items) (h : dumpItems fmt items = .ok parts)
    (hfuel : 2 * ([44].intercalate parts).length + 1 ≤ fuel + 1) :
    readItems readFloat (fuel + 1) ([44].intercalate parts ++ 93 :: rest)
      = some (rereadItems items, rest) := by
  obtain ⟨j, items, rfl⟩ := List.exists_cons_of_ne_nil hne
  rw [dumpItems] at h
  obtain ⟨text, htext, h⟩ := bind_eq_ok.mp h
  obtain ⟨texts, htexts, h⟩ := bind_eq_ok.mp h
  cases h
  by_cases hlast : items = []
  · subst hlast
    cases htexts
    rw [List.intercalate_singleton] at hfuel ⊢
    exact readItems_last (ih.value hwf.1 htext (endsNumber_cons rfl rest) (by omega))
  · -- the text of the first element, a comma, and the texts of the others
    rw [intercalate_cons (dumpItems_ne_nil hlast htexts)] at hfuel ⊢
    rw [List.length_append, List.length_cons] at hfuel
    rw [List.append_assoc, List.cons_append]
    exact readItems_next (ih.value hwf.1 htext (endsNumber_cons rfl _) (by omega))
      (ih.items rest hlast hwf.2 htexts (by omega))

omit hfmt in
theorem readFields_step {fields : List (Bytes × Json)} {parts : List Bytes} (rest : Bytes)
    (hne : fields ≠ []) (hwf : WellFormedFields double fields)
    (h : dumpFields fmt fields = .ok parts)
    (hfuel : 2 * ([44].intercalate parts).length + 1 ≤ fuel + 1) :
    readFields readFloat (fuel + 1) ([44].intercalate parts ++ 125 :: rest)
      = some (rereadFields fields, rest) := by
  obtain ⟨⟨key, j⟩, fields, rfl⟩ := List.exists_cons_of_ne_nil hne
  rw [dumpFields] at h
  obtain ⟨name, hname, h⟩ := bind_eq_ok.mp h
  obtain ⟨text, htext, h⟩ := bind_eq_ok.mp h
  obtain ⟨texts, htexts, h⟩ := bind_eq_ok.mp h
  cases h
  obtain ⟨body, rfl, hbody⟩ := readString_dumpString hname
  by_cases hlast : fields = []
  · subst hlast
    cases htexts
    rw [List.intercalate_singleton] at hfuel ⊢
    simp only [List.length_append, List.length_cons] at hfuel
    have hkey := hbody (58 :: (text ++ 125 :: rest))
    have hends : EndsNumber (125 :: rest) := endsNumber_cons rfl rest
    have hread := readFields_last hkey (ih.value hwf.1 htext hends (by omega))
    rw [rereadFields, rereadFields]
    simpa using hread
  · rw [intercalate_cons (dumpFields_ne_nil hlast htexts)] at hfuel ⊢
    simp only [List.length_append, List.length_cons] at hfuel
    have hmore := ih.fields rest hlast hwf.2 htexts (by omega)
    have hkey := hbody (58 :: (text ++ 44 :: ([44].intercalate texts ++ 125 :: rest)))
    have hends : EndsNumber (44 :: ([44].intercalate texts ++ 125 :: rest)) := endsNumber_cons rfl _
    have hread := readFields_next hkey (ih.value hwf.1 htext hends (by omega)) hmore
    rw [rereadFields]
    simpa using hread

end Steps

/-- The step lemmas carry the property from one amount of fuel to the next. -/
theorem readsBack (hfmt : ReadsFloats readFloat fmt double) (fuel : ℕ) :
    ReadsBack readFloat fmt double fuel := by
  induction fuel with
  | zero =>
    constructor
    · intro j text rest hwf h _ hfuel
      obtain ⟨b, t, rfl, -⟩ := dump_head hfmt hwf h
      rw [List.length_cons] at hfuel
      omega
    · intro items parts rest _ _ _ hfuel
      omega
    · intro fields parts rest _ _ _ hfuel
      omega
  | succ fuel ih =>
    exact ⟨readValue_step hfmt ih, readItems_step ih, readFields_step ih⟩

/-- **`parse` inverts `dump`.** -/
theorem parseWith_dump (hfmt : ReadsFloats readFloat fmt double) {j : Json} {text : Bytes}
    (hwf : WellFormed double j) (h : dump fmt j = .ok text) :
    parseWith readFloat text = .ok j.reread := by
  have hends : EndsNumber [] := by simp [EndsNumber]
  have hread := (readsBack hfmt (2 * text.length)).value hwf h hends (le_refl _)
  rw [List.append_nil] at hread
  rw [parseWith, hread]
  rfl

end Values

/-! ## What is accepted -/

section Accepted

variable {double : ℚ → Prop} {readFloat : Bytes → Option ℚ}

theorem sound_number (hfloat : ∀ {token q}, readFloat token = some q → double q) {token : Bytes}
    {j : Json} (h : number readFloat token = some j) : Sound double j := by
  have hlit : ∀ {token : Bytes}, (readFloat token).map (fun q => Json.float (.finite q)) = some j →
      Sound double j := by
    intro token h
    obtain ⟨q, hq, rfl⟩ := Option.map_eq_some_iff.mp h
    exact ⟨hfloat hq, rfl⟩
  unfold number at h
  split at h
  · split at h
    · rename_i hint
      cases h
      exact ⟨hint.2, rfl⟩
    · exact hlit h
  · split at h
    · rename_i hnat
      cases h
      exact ⟨hnat.2, rfl⟩
    · exact hlit h

theorem validUtf8_of_readString {s text rest : Bytes} (h : readString s = some (text, rest)) :
    validUtf8 text = true := by
  obtain ⟨p, -, h⟩ := Option.bind_eq_some_iff.mp h
  split at h
  · rename_i hvalid
    cases h
    exact hvalid
  · cases h

theorem readLiteral_value {word : Bytes} {value j : Json} {s rest : Bytes}
    (h : readLiteral word value s = some (j, rest)) : j = value := by
  unfold readLiteral at h
  split at h
  · cases h
    rfl
  · cases h

/-- What the parser returns with this fuel is sound. -/
structure ReadsSound (readFloat : Bytes → Option ℚ) (double : ℚ → Prop) (fuel : ℕ) : Prop where
  value : ∀ {s rest : Bytes} {j : Json}, readValue readFloat fuel s = some (j, rest) →
    Sound double j
  items : ∀ {s rest : Bytes} {items : List Json}, readItems readFloat fuel s = some (items, rest) →
    ∀ j ∈ items, Sound double j
  fields : ∀ {s rest : Bytes} {fields : List (Bytes × Json)},
    readFields readFloat fuel s = some (fields, rest) → ∀ f ∈ fields, SoundField double f

section SoundSteps

variable {fuel : ℕ} (hfloat : ∀ {token q}, readFloat token = some q → double q)
  (ih : ReadsSound readFloat double fuel)
include hfloat ih

theorem sound_readValue_step {s rest : Bytes} {j : Json}
    (h : readValue readFloat (fuel + 1) s = some (j, rest)) : Sound double j := by
  rw [readValue] at h
  split at h
  · cases h
  · rename_i b tail _
    split_ifs at h with hstr harr hobj hnull htrue hfalse
    · obtain ⟨p, hp, h⟩ := Option.map_eq_some_iff.mp h
      cases h
      exact ⟨trivial, validUtf8_of_readString hp⟩
    · split at h
      · cases h
        exact sound_arr (by simp)
      · obtain ⟨p, hp, h⟩ := Option.map_eq_some_iff.mp h
        cases h
        exact sound_arr (ih.items hp)
    · split at h
      · cases h
        exact sound_obj List.Pairwise.nil (by simp)
      · obtain ⟨p, hp, h⟩ := Option.map_eq_some_iff.mp h
        cases h
        exact sound_assignFields (ih.fields hp)
    · rw [readLiteral_value h]
      exact ⟨trivial, rfl⟩
    · rw [readLiteral_value h]
      exact ⟨trivial, rfl⟩
    · rw [readLiteral_value h]
      exact ⟨trivial, rfl⟩
    · obtain ⟨value, hvalue, h⟩ := Option.map_eq_some_iff.mp h
      cases h
      exact sound_number hfloat hvalue

omit hfloat in
theorem sound_readItems_step {s rest : Bytes} {items : List Json}
    (h : readItems readFloat (fuel + 1) s = some (items, rest)) : ∀ j ∈ items, Sound double j := by
  rw [readItems] at h
  obtain ⟨value, hvalue, h⟩ := Option.bind_eq_some_iff.mp h
  have hfirst : Sound double value.1 := ih.value hvalue
  split at h
  · obtain ⟨p, hp, h⟩ := Option.map_eq_some_iff.mp h
    cases h
    exact List.forall_mem_cons.mpr ⟨hfirst, ih.items hp⟩
  · cases h
    exact List.forall_mem_singleton.mpr hfirst
  · cases h

omit hfloat in
theorem sound_readFields_step {s rest : Bytes} {fields : List (Bytes × Json)}
    (h : readFields readFloat (fuel + 1) s = some (fields, rest)) :
    ∀ f ∈ fields, SoundField double f := by
  rw [readFields] at h
  split at h
  · obtain ⟨key, hkey, h⟩ := Option.bind_eq_some_iff.mp h
    split at h
    · obtain ⟨value, hvalue, h⟩ := Option.bind_eq_some_iff.mp h
      have hfirst : SoundField double (key.1, value.1) :=
        ⟨validUtf8_of_readString hkey, ih.value hvalue⟩
      split at h
      · obtain ⟨p, hp, h⟩ := Option.map_eq_some_iff.mp h
        cases h
        exact List.forall_mem_cons.mpr ⟨hfirst, ih.fields hp⟩
      · cases h
        exact List.forall_mem_singleton.mpr hfirst
      · cases h
    · cases h
  · cases h

end SoundSteps

theorem readsSound (hfloat : ∀ {token q}, readFloat token = some q → double q) (fuel : ℕ) :
    ReadsSound readFloat double fuel := by
  induction fuel with
  | zero =>
    constructor
    · intro s rest j h
      rw [readValue] at h
      cases h
    · intro s rest items h
      rw [readItems] at h
      cases h
    · intro s rest fields h
      rw [readFields] at h
      cases h
  | succ fuel ih =>
    exact ⟨sound_readValue_step hfloat ih, sound_readItems_step ih, sound_readFields_step ih⟩

/-- **What `parse` accepts is sound.** -/
theorem sound_parseWith (hfloat : ∀ {token q}, readFloat token = some q → double q) {text : Bytes}
    {j : Json} (h : parseWith readFloat text = .ok j) : Sound double j := by
  unfold parseWith at h
  split at h
  · rename_i hread
    split at h
    · cases h
      exact (readsSound hfloat _).value hread
    · cases h
  · cases h

end Accepted

/-! ## Integral doubles -/

/-- The value of a token such as `-12.0`. -/
def readIntegral (token : Bytes) : Option ℚ :=
  match token.reverse with
  | 48 :: 46 :: body =>
    match body.reverse with
    | 45 :: ds => if isDigits ds then some (-(digitsValue ds : ℚ)) else none
    | ds => if isDigits ds then some (digitsValue ds : ℚ) else none
  | _ => none

theorem exists_int_of_readIntegral {token : Bytes} {q : ℚ} (h : readIntegral token = some q) :
    ∃ n : ℤ, q = n := by
  unfold readIntegral at h
  split at h
  · split at h
    · rename_i ds _
      split at h
      · cases h
        exact ⟨-(digitsValue ds : ℤ), by push_cast; rfl⟩
      · cases h
    · split at h
      · cases h
        exact ⟨digitsValue _, rfl⟩
      · cases h
  · cases h

theorem isDigits_point (ds : Bytes) : isDigits (ds ++ Bytes.ofString ".0") = false := by
  have hall : (ds ++ Bytes.ofString ".0").all isDigitByte = false := by
    rw [List.all_append, (by decide : (Bytes.ofString ".0").all isDigitByte = false), Bool.and_false]
  unfold isDigits
  rw [hall]
  simp

theorem readIntegral_decimal (n : ℤ) :
    readIntegral (decimal n ++ Bytes.ofString ".0") = some (n : ℚ) := by
  have hreverse : (decimal n ++ Bytes.ofString ".0").reverse = 48 :: 46 :: (decimal n).reverse := by
    rw [List.reverse_append]
    rfl
  unfold readIntegral
  rw [hreverse]
  simp only [List.reverse_reverse]
  by_cases hneg : n < 0
  · have hvalue : -((n.natAbs : ℕ) : ℚ) = n := by
      rw [← Int.cast_natCast, ← Int.cast_neg]
      congr 1
      omega
    rw [decimal, if_pos hneg]
    simp only [isDigits_decimalNat, digitsValue_decimalNat, if_true, hvalue]
  · have hvalue : ((n.natAbs : ℕ) : ℚ) = n := by
      rw [← Int.cast_natCast]
      congr 1
      omega
    rw [decimal, if_neg hneg]
    split
    · rename_i ds heq
      exact absurd heq (decimalNat_ne_minus _ _)
    · rw [isDigits_decimalNat, digitsValue_decimalNat, if_pos rfl, hvalue]

theorem number_integral (n : ℤ) :
    number readIntegral (decimal n ++ Bytes.ofString ".0") = some (.float (.finite n)) := by
  have hfloat : (readIntegral (decimal n ++ Bytes.ofString ".0")).map
      (fun q => Json.float (.finite q)) = some (.float (.finite n)) := by
    rw [readIntegral_decimal, Option.map_some]
  unfold number
  split
  · rename_i ds heq
    -- the digits of a negative number go on with the point
    have hds : isDigits ds = false := by
      unfold decimal at heq
      split at heq
      · rw [List.cons_append] at heq
        rw [← (List.cons.inj heq).2]
        exact isDigits_point _
      · exact absurd heq (decimalNat_append_ne_minus _ _ _)
    rw [hds, if_neg (by simp), hfloat]
  · rw [isDigits_point, if_neg (by simp), hfloat]

/-- The doubles that are integers print with the digits of that integer. -/
theorem readsFloats_integral :
    ReadsFloats readIntegral CppLib.integral.jsonNumber fun q => ∃ n : ℤ, q = n where
  ne_nil := by
    rintro _ ⟨n, rfl⟩
    show decimal _ ++ _ ≠ []
    simp [decimal_ne_nil]
  bytes := by
    rintro _ ⟨n, rfl⟩ b hb
    rcases List.mem_append.mp hb with hb | hb
    · exact isNumberByte_of_mem_decimal hb
    · have hpoint : (Bytes.ofString ".0").all isNumberByte = true := rfl
      exact List.all_eq_true.mp hpoint b hb
  number := by
    rintro _ ⟨n, rfl⟩
    show number readIntegral (decimal (n : ℚ).floor ++ _) = _
    rw [Rat.floor_intCast]
    exact number_integral n

end Json

/-- The library over a C++ library whose doubles are integers. -/
def JsonLibrary.ofIntegral (lib : CppLib) (hnumber : lib.jsonNumber = CppLib.integral.jsonNumber)
    (hstod : ∀ {s q}, lib.stod s = some (.finite q) → ∃ n : ℤ, q = n) : JsonLibrary lib where
  parse := Json.parseWith Json.readIntegral
  castInt64
    | .finite q => q.num.tdiv q.den
    | _ => -2 ^ 63
  dumpWhat _ := "[json.exception.type_error.316] invalid UTF-8 byte"
  IsDouble q := ∃ n : ℤ, q = n
  isDouble_zero := ⟨0, rfl⟩
  isDouble_stod := hstod
  not_mem_jsonNumber := by
    intro q hmem
    rw [hnumber] at hmem
    rcases List.mem_append.mp hmem with hmem | hmem
    · exact not_mem_decimal _ hmem
    · exact absurd hmem (by decide)
  wellFormed_parse h := (Json.sound_parseWith Json.exists_int_of_readIntegral h).1
  utf8_parse h := (Json.sound_parseWith Json.exists_int_of_readIntegral h).2
  parse_dump hwf h := Json.parseWith_dump Json.readsFloats_integral hwf (hnumber ▸ h)

/-- An instance for concrete inputs. -/
def JsonLibrary.integral : JsonLibrary .integral :=
  .ofIntegral .integral rfl fun {s q} h => by
    cases hread : stoll s with
    | none => simp [CppLib.integral, hread] at h
    | some n => exact ⟨n, by simpa [CppLib.integral, hread] using h.symm⟩

end Holonight
