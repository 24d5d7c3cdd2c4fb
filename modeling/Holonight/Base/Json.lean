import Holonight.Base.Bytes
import Holonight.Base.Exceptions
import Holonight.Base.Numbers

/-!
# UTF-8 and JSON values

The daemons attach JSON texts to their events with `nlohmann::json::dump()`. This
file models the value type of that library and its compact serialisation:

- `validUtf8` is the byte automaton of well-formed UTF-8 (no overlong forms, no
  surrogates, nothing above U+10FFFF);
- `Json` keeps signed, unsigned and floating-point numbers apart, as the library
  does; `Json.object` builds an object from an initialiser list, in key order;
- `Json.dump` serialises, and throws (`Exn.jsonUtf8`) exactly when some string or
  key in the value is not valid UTF-8 (`dump_isOk_iff`).

The shortest-digits text of a finite double is the only part left to a parameter
(`fmt`).
-/

namespace Holonight

/-! ## Well-formed UTF-8 -/

/-- States of the UTF-8 automaton: between two characters, or with a number of
continuation bytes to come; the four named states restrict the next byte. -/
inductive Utf8State where
  | start
  | tail1
  | tail2
  | tail3
  | afterE0
  | afterED
  | afterF0
  | afterF4
  deriving DecidableEq, Repr

/-- A byte in the closed range `lo..hi`. -/
def inRange (lo hi b : UInt8) : Bool := decide (lo ≤ b) && decide (b ≤ hi)

/-- One byte of the automaton; `none` is rejection. -/
def Utf8State.next : Utf8State → UInt8 → Option Utf8State
  | .start, b =>
    if b < 0x80 then some .start
    else if inRange 0xC2 0xDF b then some .tail1
    else if b = 0xE0 then some .afterE0
    else if b = 0xED then some .afterED
    else if inRange 0xE1 0xEF b then some .tail2
    else if b = 0xF0 then some .afterF0
    else if inRange 0xF1 0xF3 b then some .tail3
    else if b = 0xF4 then some .afterF4
    else none
  | .tail1, b => if inRange 0x80 0xBF b then some .start else none
  | .tail2, b => if inRange 0x80 0xBF b then some .tail1 else none
  | .tail3, b => if inRange 0x80 0xBF b then some .tail2 else none
  | .afterE0, b => if inRange 0xA0 0xBF b then some .tail1 else none
  | .afterED, b => if inRange 0x80 0x9F b then some .tail1 else none
  | .afterF0, b => if inRange 0x90 0xBF b then some .tail2 else none
  | .afterF4, b => if inRange 0x80 0x8F b then some .tail2 else none

/-- The byte string is well-formed UTF-8. -/
def validUtf8 (s : Bytes) : Bool := s.foldlM Utf8State.next .start == some .start

/-- ASCII text is valid UTF-8. -/
theorem validUtf8_of_ascii {s : Bytes} (h : ∀ b ∈ s, b < 0x80) : validUtf8 s = true := by
  suffices hrun : s.foldlM Utf8State.next .start = some .start by simp [validUtf8, hrun]
  induction s with
  | nil => rfl
  | cons b s ih =>
    have hb : b < 0x80 := h b List.mem_cons_self
    rw [List.foldlM_cons]
    show (Utf8State.next .start b).bind _ = _
    rw [Utf8State.next, if_pos hb]
    exact ih fun c hc => h c (List.mem_cons_of_mem _ hc)

/-- Only between two characters is a NUL allowed. -/
theorem Utf8State.next_zero {state after : Utf8State} (h : state.next 0 = some after) :
    state = .start := by
  cases state with
  | start => rfl
  | tail1 => cases h
  | tail2 => cases h
  | tail3 => cases h
  | afterE0 => cases h
  | afterED => cases h
  | afterF0 => cases h
  | afterF4 => cases h

/-- Valid UTF-8 is valid up to its first NUL. -/
theorem validUtf8_beforeNul {s : Bytes} (h : validUtf8 s = true) :
    validUtf8 (s.takeWhile fun b => b != 0) = true := by
  have hrun : ∀ (s : Bytes) (state : Utf8State), s.foldlM Utf8State.next state = some .start →
      (s.takeWhile fun b => b != 0).foldlM Utf8State.next state = some .start := by
    intro s
    induction s with
    | nil => exact fun state h => h
    | cons b s ih =>
      intro state h
      obtain ⟨after, hafter, hrest⟩ := Option.bind_eq_some_iff.mp h
      by_cases hb : b = 0
      · subst hb
        rw [Utf8State.next_zero hafter]
        rfl
      · rw [List.takeWhile_cons_of_pos (by simpa using hb)]
        exact Option.bind_eq_some_iff.mpr ⟨after, hafter, ih after hrest⟩
  unfold validUtf8 at *
  rw [beq_iff_eq] at *
  exact hrun s .start h

/-! ## Values -/

/-- A JSON value of `nlohmann::json`. -/
inductive Json where
  | null
  | bool (b : Bool)
  | int (n : ℤ)
  | uint (n : ℕ)
  | float (d : Double)
  | str (s : Bytes)
  | arr (items : List Json)
  | obj (fields : List (Bytes × Json))

namespace Json

/-- Byte-wise lexicographic order of keys (`std::map<std::string, …>`). -/
def keyLe : Bytes → Bytes → Bool
  | [], _ => true
  | _ :: _, [] => false
  | a :: s, b :: t => if a = b then keyLe s t else decide (a < b)

/-- Insert a field in key order; an existing key keeps its first value, as
`std::map::insert` does. -/
def insertField (f : Bytes × Json) : List (Bytes × Json) → List (Bytes × Json)
  | [] => [f]
  | g :: rest =>
    if f.1 = g.1 then g :: rest
    else if keyLe f.1 g.1 then f :: g :: rest
    else g :: insertField f rest

/-- The object built from an initialiser list of pairs. -/
def object (fields : List (Bytes × Json)) : Json :=
  .obj (fields.foldl (fun acc f => insertField f acc) [])

/-! ## Serialisation -/

/-- A hexadecimal digit, lower case. -/
def hexDigit (n : ℕ) : UInt8 := UInt8.ofNat (if n < 10 then 48 + n else 87 + n)

/-- The text of one byte inside a JSON string. -/
def escapeByte (b : UInt8) : Bytes :=
  if b = 34 then [92, 34]
  else if b = 92 then [92, 92]
  else if b = 8 then [92, 98]
  else if b = 12 then [92, 102]
  else if b = 10 then [92, 110]
  else if b = 13 then [92, 114]
  else if b = 9 then [92, 116]
  else if b < 32 then [92, 117, 48, 48, hexDigit (b.toNat / 16), hexDigit (b.toNat % 16)]
  else [b]

/-- A JSON string literal; throws when the bytes are not UTF-8. -/
def dumpString (s : Bytes) : Except Exn Bytes :=
  if validUtf8 s then .ok ([34] ++ s.flatMap escapeByte ++ [34]) else .error .jsonUtf8

mutual

/-- `json::dump()`: the compact text of a value. -/
def dump (fmt : ℚ → Bytes) : Json → Except Exn Bytes
  | .null => .ok "null"
  | .bool b => .ok (if b then "true" else "false")
  | .int n => .ok (decimal n)
  | .uint n => .ok (decimalNat n)
  | .float (.finite q) => .ok (fmt q)
  -- the library has no text for infinities and NaN
  | .float _ => .ok "null"
  | .str s => dumpString s
  | .arr items => do
    let parts ← dumpItems fmt items
    return [91] ++ [44].intercalate parts ++ [93]
  | .obj fields => do
    let parts ← dumpFields fmt fields
    return [123] ++ [44].intercalate parts ++ [125]

/-- The texts of the elements of an array. -/
def dumpItems (fmt : ℚ → Bytes) : List Json → Except Exn (List Bytes)
  | [] => .ok []
  | j :: rest => do
    let text ← dump fmt j
    let texts ← dumpItems fmt rest
    return text :: texts

/-- The `"key":value` texts of the fields of an object. -/
def dumpFields (fmt : ℚ → Bytes) : List (Bytes × Json) → Except Exn (List Bytes)
  | [] => .ok []
  | (key, j) :: rest => do
    let name ← dumpString key
    let text ← dump fmt j
    let texts ← dumpFields fmt rest
    return (name ++ [58] ++ text) :: texts

end

mutual

/-- Every string and key of the value is valid UTF-8. -/
def utf8 : Json → Bool
  | .str s => validUtf8 s
  | .arr items => utf8Items items
  | .obj fields => utf8Fields fields
  | _ => true

def utf8Items : List Json → Bool
  | [] => true
  | j :: rest => utf8 j && utf8Items rest

def utf8Fields : List (Bytes × Json) → Bool
  | [] => true
  | (key, j) :: rest => validUtf8 key && utf8 j && utf8Fields rest

end

theorem dumpString_isOk (s : Bytes) : (dumpString s).isOk = validUtf8 s := by
  unfold dumpString
  split <;> simp_all [Except.isOk, Except.toBool]

mutual

/-- `dump()` returns a text exactly on values all of whose strings are UTF-8. -/
theorem dump_isOk_iff (fmt : ℚ → Bytes) : ∀ j : Json, (dump fmt j).isOk = utf8 j
  | .null => rfl
  | .bool _ => rfl
  | .int _ => rfl
  | .uint _ => rfl
  | .float (.finite _) => rfl
  | .float .posInf => rfl
  | .float .negInf => rfl
  | .float .nan => rfl
  | .str s => by
    rw [dump, utf8]
    exact dumpString_isOk s
  | .arr items => by
    rw [dump, utf8, isOk_bind_pure]
    exact dumpItems_isOk_iff fmt items
  | .obj fields => by
    rw [dump, utf8, isOk_bind_pure]
    exact dumpFields_isOk_iff fmt fields

theorem dumpItems_isOk_iff (fmt : ℚ → Bytes) :
    ∀ items : List Json, (dumpItems fmt items).isOk = utf8Items items
  | [] => rfl
  | j :: rest => by
    rw [dumpItems, utf8Items, isOk_bind _ _ (utf8Items rest), dump_isOk_iff fmt j]
    intro text
    rw [isOk_bind_pure, dumpItems_isOk_iff fmt rest]

theorem dumpFields_isOk_iff (fmt : ℚ → Bytes) :
    ∀ fields : List (Bytes × Json), (dumpFields fmt fields).isOk = utf8Fields fields
  | [] => rfl
  | (key, j) :: rest => by
    rw [dumpFields, utf8Fields, isOk_bind _ _ (utf8 j && utf8Fields rest), dumpString_isOk,
      Bool.and_assoc]
    intro name
    rw [isOk_bind _ _ (utf8Fields rest), dump_isOk_iff fmt j]
    intro text
    rw [isOk_bind_pure, dumpFields_isOk_iff fmt rest]

end

theorem dump_eq_ok (fmt : ℚ → Bytes) {j : Json} (h : utf8 j = true) :
    ∃ text, dump fmt j = .ok text := by
  have hok := dump_isOk_iff fmt j
  rw [h] at hok
  cases hdump : dump fmt j with
  | error e =>
    rw [hdump] at hok
    cases hok
  | ok text => exact ⟨text, rfl⟩

end Json

end Holonight
