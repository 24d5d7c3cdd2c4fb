import Holonight.Base.CppLib
import Holonight.Base.Json

/-!
# Reading back what was dumped

`json::parse` is not written out in the models: they take it as a parameter, with the
properties its documentation states as fields of `JsonLibrary`. Two of them matter:

- what it returns is a value the library can hold (`Json.WellFormed`): numbers in their
  range, keys in order, every string valid UTF-8;
- it inverts `dump`, up to what a text cannot tell (`Json.reread`): an integer that is not
  negative comes back as an unsigned one, and infinities and NaN, which have no text,
  come back as `null`.

`not_mem_dump` is the other fact about the texts that a line-based file needs: a dumped
value has no newline, because every control character in a string is escaped.
-/

namespace Holonight

namespace Json

/-! ## Order of keys -/

theorem keyLe_total : ∀ a b : Bytes, keyLe a b = true ∨ keyLe b a = true
  | [], _ => Or.inl rfl
  | _ :: _, [] => Or.inr rfl
  | a :: s, b :: t => by
    by_cases hab : a = b
    · subst hab
      simpa [keyLe] using keyLe_total s t
    · have hba : b ≠ a := fun h => hab h.symm
      simp only [keyLe, hab, hba, if_false, decide_eq_true_iff]
      rw [UInt8.lt_iff_toNat_lt, UInt8.lt_iff_toNat_lt]
      have hne : a.toNat ≠ b.toNat := fun h => hab (UInt8.toNat_inj.mp h)
      omega

theorem keyLe_trans : ∀ {a b c : Bytes}, keyLe a b = true → keyLe b c = true → keyLe a c = true
  | [], _, _, _, _ => rfl
  | _ :: _, [], _, h, _ => by cases h
  | _ :: _, _ :: _, [], _, h => by cases h
  | a :: s, b :: t, c :: u, hab, hbc => by
    by_cases h₁ : a = b
    · subst h₁
      by_cases h₂ : a = c
      · subst h₂
        simp only [keyLe, if_true] at hab hbc ⊢
        exact keyLe_trans hab hbc
      · simp only [keyLe, h₂, if_false] at hbc ⊢
        exact hbc
    · simp only [keyLe, h₁, if_false, decide_eq_true_iff] at hab
      by_cases h₂ : b = c
      · subst h₂
        simp only [keyLe, h₁, if_false, decide_eq_true_iff]
        exact hab
      · simp only [keyLe, h₂, if_false, decide_eq_true_iff] at hbc
        have hac : a < c := UInt8.lt_trans hab hbc
        have hne : a ≠ c := by
          rintro rfl
          exact UInt8.lt_irrefl _ hac
        simp only [keyLe, hne, if_false, decide_eq_true_iff]
        exact hac

theorem keyLe_antisymm : ∀ {a b : Bytes}, keyLe a b = true → keyLe b a = true → a = b
  | [], [], _, _ => rfl
  | [], _ :: _, _, h => by cases h
  | _ :: _, [], h, _ => by cases h
  | a :: s, b :: t, hab, hba => by
    by_cases h : a = b
    · subst h
      simp only [keyLe, if_true] at hab hba
      rw [keyLe_antisymm hab hba]
    · have h' : b ≠ a := fun heq => h heq.symm
      simp only [keyLe, h, h', if_false, decide_eq_true_iff] at hab hba
      exact absurd hba (UInt8.lt_asymm hab)

/-- The order of the keys of an object. -/
def KeyLt (a b : Bytes) : Prop := keyLe a b = true ∧ a ≠ b

theorem KeyLt.trans {a b c : Bytes} (hab : KeyLt a b) (hbc : KeyLt b c) : KeyLt a c := by
  refine ⟨keyLe_trans hab.1 hbc.1, ?_⟩
  rintro rfl
  exact hab.2 (keyLe_antisymm hab.1 hbc.1)

/-! ## Fields of an object -/

/-- Assign a field: a key that is there takes the new value. -/
def setField (f : Bytes × Json) : List (Bytes × Json) → List (Bytes × Json)
  | [] => [f]
  | g :: rest =>
    if f.1 = g.1 then f :: rest
    else if keyLe f.1 g.1 then f :: g :: rest
    else g :: setField f rest

theorem mem_setField {f g : Bytes × Json} {fields : List (Bytes × Json)}
    (h : g ∈ setField f fields) : g = f ∨ g ∈ fields := by
  induction fields with
  | nil => exact Or.inl (List.mem_singleton.mp h)
  | cons head rest ih =>
    unfold setField at h
    split at h
    · rcases List.mem_cons.mp h with h | h
      · exact Or.inl h
      · exact Or.inr (List.mem_cons_of_mem _ h)
    · split at h
      · exact List.mem_cons.mp h
      · rcases List.mem_cons.mp h with h | h
        · exact Or.inr (h ▸ List.mem_cons_self)
        · exact (ih h).imp_right (List.mem_cons_of_mem _)

/-- The keys stay in order. -/
theorem sorted_setField (f : Bytes × Json) {fields : List (Bytes × Json)}
    (h : (fields.map Prod.fst).Pairwise KeyLt) : ((setField f fields).map Prod.fst).Pairwise KeyLt := by
  induction fields with
  | nil => simp [setField]
  | cons g rest ih =>
    rw [List.map_cons, List.pairwise_cons] at h
    obtain ⟨hhead, hrest⟩ := h
    unfold setField
    by_cases hsame : f.1 = g.1
    · rw [if_pos hsame, List.map_cons, List.pairwise_cons, hsame]
      exact ⟨hhead, hrest⟩
    · rw [if_neg hsame]
      by_cases hle : keyLe f.1 g.1 = true
      · rw [if_pos hle, List.map_cons, List.map_cons, List.pairwise_cons, List.pairwise_cons]
        refine ⟨fun key hkey => ?_, hhead, hrest⟩
        rcases List.mem_cons.mp hkey with rfl | hkey
        · exact ⟨hle, hsame⟩
        · exact KeyLt.trans ⟨hle, hsame⟩ (hhead key hkey)
      · rw [if_neg hle, List.map_cons, List.pairwise_cons]
        refine ⟨fun key hkey => ?_, ih hrest⟩
        obtain ⟨e, he, rfl⟩ := List.mem_map.mp hkey
        rcases mem_setField he with rfl | he
        · exact ⟨(keyLe_total g.1 e.1).resolve_right hle, Ne.symm hsame⟩
        · exact hhead e.1 (List.mem_map_of_mem he)

/-- A key after all others goes to the end. -/
theorem setField_last {f : Bytes × Json} {fields : List (Bytes × Json)}
    (h : ∀ g ∈ fields, KeyLt g.1 f.1) : setField f fields = fields ++ [f] := by
  induction fields with
  | nil => rfl
  | cons g rest ih =>
    have hg : KeyLt g.1 f.1 := h g List.mem_cons_self
    have hnot : keyLe f.1 g.1 ≠ true := fun hle => hg.2 (keyLe_antisymm hg.1 hle)
    rw [setField, if_neg (Ne.symm hg.2), if_neg hnot, ih fun e he => h e (List.mem_cons_of_mem _ he)]
    rfl

/-- `fields[key] = value` for each of the pairs. -/
def assignFields (assigned fields : List (Bytes × Json)) : List (Bytes × Json) :=
  assigned.foldl (fun fields f => setField f fields) fields

theorem mem_assignFields {f : Bytes × Json} {assigned fields : List (Bytes × Json)}
    (h : f ∈ assignFields assigned fields) : f ∈ fields ∨ f ∈ assigned := by
  induction assigned generalizing fields with
  | nil => exact Or.inl h
  | cons g assigned ih =>
    rcases ih h with h | h
    · rcases mem_setField h with rfl | h
      · exact Or.inr List.mem_cons_self
      · exact Or.inl h
    · exact Or.inr (List.mem_cons_of_mem _ h)

/-- Fields that come in the order of their keys stay as they are. -/
theorem assignFields_sorted {assigned fields : List (Bytes × Json)}
    (h : ((fields ++ assigned).map Prod.fst).Pairwise KeyLt) :
    assignFields assigned fields = fields ++ assigned := by
  induction assigned generalizing fields with
  | nil => rw [List.append_nil]; rfl
  | cons f assigned ih =>
    have hlast : ∀ g ∈ fields, KeyLt g.1 f.1 := by
      intro g hg
      rw [List.map_append, List.pairwise_append] at h
      exact h.2.2 g.1 (List.mem_map_of_mem hg) f.1 List.mem_cons_self
    show assignFields assigned (setField f fields) = _
    rw [setField_last hlast, ih (by simpa using h), List.append_assoc]
    rfl

theorem sorted_assignFields (assigned : List (Bytes × Json)) {fields : List (Bytes × Json)}
    (h : (fields.map Prod.fst).Pairwise KeyLt) :
    ((assignFields assigned fields).map Prod.fst).Pairwise KeyLt := by
  induction assigned generalizing fields with
  | nil => exact h
  | cons f assigned ih => exact ih (sorted_setField f h)

/-- What an object has under a key: `json_obj[key]` when `json_obj.contains(key)`. -/
def field (key : Bytes) : Json → Option Json
  | .obj fields => fields.lookup key
  | _ => none

theorem lookup_cons_of_ne {key : Bytes} {f : Bytes × Json} (h : key ≠ f.1)
    (fields : List (Bytes × Json)) : (f :: fields).lookup key = fields.lookup key := by
  rw [← Prod.mk.eta (p := f), List.lookup_cons, beq_eq_false_iff_ne.mpr h]

theorem lookup_cons_of_eq {key : Bytes} {f : Bytes × Json} (h : key = f.1)
    (fields : List (Bytes × Json)) : (f :: fields).lookup key = some f.2 := by
  rw [h]
  exact List.lookup_cons_self

theorem lookup_setField (key : Bytes) (f : Bytes × Json) (fields : List (Bytes × Json)) :
    (setField f fields).lookup key = if key = f.1 then some f.2 else fields.lookup key := by
  by_cases hkey : key = f.1
  · rw [if_pos hkey]
    induction fields with
    | nil => exact lookup_cons_of_eq hkey []
    | cons g fields ih =>
      unfold setField
      split_ifs with hsame hle
      · exact lookup_cons_of_eq hkey _
      · exact lookup_cons_of_eq hkey _
      · rw [lookup_cons_of_ne (fun h => hsame (hkey.symm.trans h)), ih]
  · rw [if_neg hkey]
    induction fields with
    | nil => exact lookup_cons_of_ne hkey []
    | cons g fields ih =>
      unfold setField
      split_ifs with hsame hle
      · rw [lookup_cons_of_ne hkey, lookup_cons_of_ne (hsame ▸ hkey)]
      · exact lookup_cons_of_ne hkey _
      · by_cases hg : key = g.1
        · rw [lookup_cons_of_eq hg, lookup_cons_of_eq hg]
        · rw [lookup_cons_of_ne hg, lookup_cons_of_ne hg, ih]

/-- The last assignment to a key counts. -/
theorem lookup_assignFields (key : Bytes) (assigned fields : List (Bytes × Json)) :
    (assignFields assigned fields).lookup key
      = (assigned.reverse.lookup key).or (fields.lookup key) := by
  induction assigned generalizing fields with
  | nil => rfl
  | cons f assigned ih =>
    show (assignFields assigned (setField f fields)).lookup key = _
    rw [ih, lookup_setField, List.reverse_cons, List.lookup_append, Option.or_assoc]
    by_cases hkey : key = f.1
    · rw [if_pos hkey, lookup_cons_of_eq hkey, Option.some_or]
    · rw [if_neg hkey, lookup_cons_of_ne hkey, List.lookup_nil, Option.none_or]

theorem mem_of_lookup {key : Bytes} {j : Json} {fields : List (Bytes × Json)}
    (h : fields.lookup key = some j) : (key, j) ∈ fields := by
  obtain ⟨before, after, rfl, -⟩ := List.lookup_eq_some_iff.mp h
  simp

/-! ## What comes back -/

mutual

/-- What `parse` makes of the text of a value. -/
def reread : Json → Json
  | .int n => if n < 0 then .int n else .uint n.toNat
  | .float (.finite q) => .float (.finite q)
  | .float _ => .null
  | .arr items => .arr (rereadItems items)
  | .obj fields => .obj (rereadFields fields)
  | .null => .null
  | .bool b => .bool b
  | .uint n => .uint n
  | .str s => .str s

def rereadItems : List Json → List Json
  | [] => []
  | j :: rest => reread j :: rereadItems rest

def rereadFields : List (Bytes × Json) → List (Bytes × Json)
  | [] => []
  | (key, j) :: rest => (key, reread j) :: rereadFields rest

end

mutual

/-- A value the library can hold: integers of 64 bits, numbers of the type `double`, and the
fields of an object in the order of their keys, each key once. -/
def WellFormed (double : ℚ → Prop) : Json → Prop
  | .int n => InInt64 n
  | .uint n => n < 2 ^ 64
  | .float (.finite q) => double q
  | .arr items => WellFormedItems double items
  | .obj fields =>
    (fields.map Prod.fst).Pairwise KeyLt ∧ WellFormedFields double fields
  | _ => True

def WellFormedItems (double : ℚ → Prop) : List Json → Prop
  | [] => True
  | j :: rest => WellFormed double j ∧ WellFormedItems double rest

def WellFormedFields (double : ℚ → Prop) : List (Bytes × Json) → Prop
  | [] => True
  | (_, j) :: rest => WellFormed double j ∧ WellFormedFields double rest

end

section Reread

variable {fmt : ℚ → Bytes}

mutual

/-- The value that comes back has the same text. -/
theorem dump_reread : ∀ j : Json, dump fmt (reread j) = dump fmt j
  | .null => rfl
  | .bool _ => rfl
  | .int n => by
    by_cases hn : n < 0
    · rw [reread, if_pos hn]
    · have hvalue : n.natAbs = n.toNat := by omega
      rw [reread, if_neg hn, dump, dump, decimal, if_neg hn, hvalue]
  | .uint _ => rfl
  | .float (.finite _) => rfl
  | .float .posInf => rfl
  | .float .negInf => rfl
  | .float .nan => rfl
  | .str _ => rfl
  | .arr items => by
    rw [reread, dump, dump, dumpItems_reread items]
  | .obj fields => by
    rw [reread, dump, dump, dumpFields_reread fields]

theorem dumpItems_reread : ∀ items : List Json, dumpItems fmt (rereadItems items) = dumpItems fmt items
  | [] => rfl
  | j :: rest => by
    rw [rereadItems, dumpItems, dumpItems, dump_reread j, dumpItems_reread rest]

theorem dumpFields_reread : ∀ fields : List (Bytes × Json),
    dumpFields fmt (rereadFields fields) = dumpFields fmt fields
  | [] => rfl
  | (key, j) :: rest => by
    rw [rereadFields, dumpFields, dumpFields, dump_reread j, dumpFields_reread rest]

end

end Reread

theorem lookup_rereadFields (key : Bytes) (fields : List (Bytes × Json)) :
    (rereadFields fields).lookup key = (fields.lookup key).map reread := by
  induction fields with
  | nil => rfl
  | cons f rest ih =>
    obtain ⟨name, j⟩ := f
    rw [rereadFields, List.lookup_cons, List.lookup_cons]
    cases key == name with
    | true => rfl
    | false => exact ih

/-! ## One line -/

theorem le_toNat_hexDigit {n : ℕ} (h : n < 16) : 48 ≤ (hexDigit n).toNat := by
  unfold hexDigit
  rw [UInt8.toNat_ofNat']
  split <;> omega

/-- A newline in a string is written as an escape. -/
theorem not_mem_escapeByte (b : UInt8) : (10 : UInt8) ∉ escapeByte b := by
  have hdigit : ∀ n < 16, (10 : UInt8) ≠ hexDigit n := by
    intro n hn heq
    have hle := le_toNat_hexDigit hn
    rw [← heq] at hle
    exact absurd hle (by decide)
  by_cases hb : b = 10
  · rw [hb]
    decide
  · have hhigh := hdigit (b.toNat / 16) (by have := b.toNat_lt; omega)
    have hlow := hdigit (b.toNat % 16) (by omega)
    unfold escapeByte
    split_ifs <;> simp [hhigh, hlow, Ne.symm hb]

theorem not_mem_dumpString {s text : Bytes} (h : dumpString s = .ok text) : (10 : UInt8) ∉ text := by
  unfold dumpString at h
  split at h
  · cases h
    have hbody : (10 : UInt8) ∉ s.flatMap escapeByte := by
      intro hmem
      obtain ⟨b, -, hb⟩ := List.mem_flatMap.mp hmem
      exact not_mem_escapeByte b hb
    simpa using hbody
  · cases h

/-- Texts joined by another one contain only what these contain. -/
theorem not_mem_intercalate {b : UInt8} {sep : Bytes} {parts : List Bytes} (hsep : b ∉ sep)
    (hparts : ∀ part ∈ parts, b ∉ part) : b ∉ sep.intercalate parts := by
  induction parts with
  | nil => simp
  | cons part parts ih =>
    have hpart : b ∉ part := hparts part List.mem_cons_self
    have hrest : b ∉ sep.intercalate parts := ih fun p hp => hparts p (List.mem_cons_of_mem _ hp)
    cases parts with
    | nil => simpa using hpart
    | cons next parts =>
      rw [List.intercalate_cons_cons]
      simp [hpart, hsep, hrest]

section OneLine

variable {fmt : ℚ → Bytes}

mutual

/-- **A dumped value is one line.** -/
theorem not_mem_dump (hfmt : ∀ q, (10 : UInt8) ∉ fmt q) :
    ∀ {j : Json} {text : Bytes}, dump fmt j = .ok text → (10 : UInt8) ∉ text
  | .null, _, h => by
    cases h
    decide
  | .bool b, _, h => by
    cases h
    cases b <;> decide
  | .int n, _, h => by
    cases h
    exact not_mem_decimal n
  | .uint n, _, h => by
    cases h
    exact not_mem_decimalNat n
  | .float (.finite q), _, h => by
    cases h
    exact hfmt q
  | .float .posInf, _, h => by
    cases h
    decide
  | .float .negInf, _, h => by
    cases h
    decide
  | .float .nan, _, h => by
    cases h
    decide
  | .str s, _, h => not_mem_dumpString h
  | .arr items, _, h => by
    rw [dump] at h
    obtain ⟨parts, hparts, h⟩ := bind_eq_ok.mp h
    cases h
    have hbody := not_mem_intercalate (b := 10) (by decide : (10 : UInt8) ∉ [44])
      (not_mem_dumpItems hfmt hparts)
    simpa using hbody
  | .obj fields, _, h => by
    rw [dump] at h
    obtain ⟨parts, hparts, h⟩ := bind_eq_ok.mp h
    cases h
    have hbody := not_mem_intercalate (b := 10) (by decide : (10 : UInt8) ∉ [44])
      (not_mem_dumpFields hfmt hparts)
    simpa using hbody

theorem not_mem_dumpItems (hfmt : ∀ q, (10 : UInt8) ∉ fmt q) :
    ∀ {items : List Json} {parts : List Bytes}, dumpItems fmt items = .ok parts →
    ∀ part ∈ parts, (10 : UInt8) ∉ part
  | [], _, h => by
    cases h
    simp
  | j :: rest, _, h => by
    rw [dumpItems] at h
    obtain ⟨text, htext, h⟩ := bind_eq_ok.mp h
    obtain ⟨texts, htexts, h⟩ := bind_eq_ok.mp h
    cases h
    exact List.forall_mem_cons.mpr ⟨not_mem_dump hfmt htext, not_mem_dumpItems hfmt htexts⟩

theorem not_mem_dumpFields (hfmt : ∀ q, (10 : UInt8) ∉ fmt q) :
    ∀ {fields : List (Bytes × Json)} {parts : List Bytes}, dumpFields fmt fields = .ok parts →
    ∀ part ∈ parts, (10 : UInt8) ∉ part
  | [], _, h => by
    cases h
    simp
  | (key, j) :: rest, _, h => by
    rw [dumpFields] at h
    obtain ⟨name, hname, h⟩ := bind_eq_ok.mp h
    obtain ⟨text, htext, h⟩ := bind_eq_ok.mp h
    obtain ⟨texts, htexts, h⟩ := bind_eq_ok.mp h
    cases h
    refine List.forall_mem_cons.mpr ⟨?_, not_mem_dumpFields hfmt htexts⟩
    simp [not_mem_dumpString hname, not_mem_dump hfmt htext]

end

end OneLine

/-! ## Sound values -/

section Sound

variable {double : ℚ → Prop}

theorem wellFormedItems_iff {items : List Json} :
    WellFormedItems double items ↔ ∀ j ∈ items, WellFormed double j := by
  induction items with
  | nil => simp [WellFormedItems]
  | cons j items ih => rw [WellFormedItems, ih, List.forall_mem_cons]

theorem wellFormedFields_iff {fields : List (Bytes × Json)} :
    WellFormedFields double fields ↔ ∀ f ∈ fields, WellFormed double f.2 := by
  induction fields with
  | nil => simp [WellFormedFields]
  | cons f fields ih => rw [WellFormedFields, ih, List.forall_mem_cons]

theorem utf8Items_iff {items : List Json} :
    utf8Items items = true ↔ ∀ j ∈ items, utf8 j = true := by
  induction items with
  | nil => simp [utf8Items]
  | cons j items ih => rw [utf8Items, Bool.and_eq_true, ih, List.forall_mem_cons]

theorem utf8Fields_iff {fields : List (Bytes × Json)} :
    utf8Fields fields = true ↔ ∀ f ∈ fields, validUtf8 f.1 = true ∧ utf8 f.2 = true := by
  induction fields with
  | nil => simp [utf8Fields]
  | cons f fields ih =>
    rw [utf8Fields, Bool.and_eq_true, Bool.and_eq_true, ih, List.forall_mem_cons]

theorem mem_insertField {f g : Bytes × Json} {fields : List (Bytes × Json)}
    (h : g ∈ insertField f fields) : g = f ∨ g ∈ fields := by
  induction fields with
  | nil => exact Or.inl (List.mem_singleton.mp h)
  | cons head rest ih =>
    unfold insertField at h
    split at h
    · exact Or.inr h
    · split at h
      · exact List.mem_cons.mp h
      · rcases List.mem_cons.mp h with h | h
        · exact Or.inr (h ▸ List.mem_cons_self)
        · exact (ih h).imp_right (List.mem_cons_of_mem _)

/-- An object has only the fields it was built from. -/
theorem mem_foldl_insertField {f : Bytes × Json} {fields built : List (Bytes × Json)}
    (h : f ∈ fields.foldl (fun acc g => insertField g acc) built) : f ∈ fields ∨ f ∈ built := by
  induction fields generalizing built with
  | nil => exact Or.inr h
  | cons g rest ih =>
    rcases ih h with hrest | hbuilt
    · exact Or.inl (List.mem_cons_of_mem _ hrest)
    · rcases mem_insertField hbuilt with rfl | hold
      · exact Or.inl List.mem_cons_self
      · exact Or.inr hold

theorem utf8_object {fields : List (Bytes × Json)}
    (h : ∀ f ∈ fields, validUtf8 f.1 = true ∧ utf8 f.2 = true) : utf8 (object fields) = true := by
  refine utf8Fields_iff.mpr fun f hf => ?_
  rcases mem_foldl_insertField hf with hf | hf
  · exact h f hf
  · cases hf

/-- A value the library can hold and print. -/
def Sound (double : ℚ → Prop) (j : Json) : Prop := WellFormed double j ∧ utf8 j = true

/-- A field whose key and value the library can print. -/
def SoundField (double : ℚ → Prop) (f : Bytes × Json) : Prop :=
  validUtf8 f.1 = true ∧ Sound double f.2

theorem sound_arr {items : List Json} (h : ∀ j ∈ items, Sound double j) :
    Sound double (.arr items) :=
  ⟨wellFormedItems_iff.mpr fun j hj => (h j hj).1, utf8Items_iff.mpr fun j hj => (h j hj).2⟩

theorem sound_obj {fields : List (Bytes × Json)} (hsorted : (fields.map Prod.fst).Pairwise KeyLt)
    (h : ∀ f ∈ fields, SoundField double f) : Sound double (.obj fields) :=
  ⟨⟨hsorted, wellFormedFields_iff.mpr fun f hf => (h f hf).2.1⟩,
    utf8Fields_iff.mpr fun f hf => ⟨(h f hf).1, (h f hf).2.2⟩⟩

/-- Assigning fields one after the other gives an object. -/
theorem sound_assignFields {assigned : List (Bytes × Json)}
    (h : ∀ f ∈ assigned, SoundField double f) : Sound double (.obj (assignFields assigned [])) := by
  refine sound_obj (sorted_assignFields assigned List.Pairwise.nil) fun f hf => ?_
  rcases mem_assignFields hf with hf | hf
  · cases hf
  · exact h f hf

end Sound

end Json

/-! ## The library -/

/-- What the models use of `nlohmann::json` besides `dump`, with what its documentation says of
it. -/
structure JsonLibrary (lib : CppLib) where
  /-- `json::parse`; an error is the text of the exception. -/
  parse : Bytes → Except Bytes Json
  /-- `static_cast<int64_t>` of a double, by which `get<int64_t>()` reads a float. -/
  castInt64 : Double → ℤ
  /-- The text of the exception that `dump` throws on a value. -/
  dumpWhat : Json → Bytes
  /-- The finite values of the type `double`. -/
  IsDouble : ℚ → Prop
  isDouble_zero : IsDouble 0
  isDouble_stod : ∀ {s : Bytes} {q : ℚ}, lib.stod s = some (.finite q) → IsDouble q
  /-- The digits of a number are on one line. -/
  not_mem_jsonNumber : ∀ q : ℚ, (10 : UInt8) ∉ lib.jsonNumber q
  /-- A value that was read is one the library can hold. -/
  wellFormed_parse : ∀ {text : Bytes} {j : Json}, parse text = .ok j → j.WellFormed IsDouble
  /-- Strings that are not UTF-8 are rejected. -/
  utf8_parse : ∀ {text : Bytes} {j : Json}, parse text = .ok j → j.utf8 = true
  /-- `parse` inverts `dump`. -/
  parse_dump : ∀ {j : Json} {text : Bytes}, j.WellFormed IsDouble →
    j.dump lib.jsonNumber = .ok text → parse text = .ok j.reread

end Holonight
