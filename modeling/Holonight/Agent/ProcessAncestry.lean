import Holonight.Agent.SessionRegistry

/-!
# The process lineage of a session (`ProcessAncestryReader.cpp`)

`ProcessAncestryReader::read` follows the parent of a process upwards through the `stat` records
of `/proc`. The records come from a reader that is a parameter of the class: any function from a
pid to an optional text, so that the chain of parents may be cyclic or never end.

`read` has five ways to stop, in the head of its loop and in its body, before and after it has
recorded the pid. What they come to is **one maximality statement** (`read_longest`): the lineage is
the longest list of at most 64 distinct positive pids that starts with the pid, in which each
element is the parsed parent of the one before, and in which 1 stands only last.

A record holds the name of its process, which may be any text. Its parent is found behind every name
(`parent_behind_any_name`), since the name ends at the last parenthesis.
-/

namespace Holonight

namespace Agent

/-! ## The record of a process -/

/-- `std::string::rfind` of a byte. -/
def rfind (b : UInt8) (s : Bytes) : Option ℕ :=
  (s.reverse.findIdx? (· == b)).map (s.length - 1 - ·)

/-- `std::from_chars` into a `uint32_t`: the number and what is left of the text, or `none` when
there is no digit or the number does not fit. -/
def fromCharsUInt32 (s : Bytes) : Option (UInt32 × Bytes) :=
  let digits := s.takeWhile isDigitByte
  if digits = [] then none
  else if digitsValue digits < 2 ^ 32 then
    some (UInt32.ofNat (digitsValue digits), s.dropWhile isDigitByte)
  else none

/-- `parseParentPid` (ProcessAncestryReader.cpp:23–39). -/
def parseParentPid (stat : Bytes) : Option UInt32 :=
  -- 41 is `)`: the command may contain any byte, so its end is the last one
  match rfind 41 stat with
  | none => none
  | some commandEnd =>
    if stat.length ≤ commandEnd + 4 ∨ stat[commandEnd + 1]? ≠ some 32 then none
    else
      let field := (stat.drop (commandEnd + 4)).takeWhile (· != 32)
      match fromCharsUInt32 field with
      | none => none
      | some (parent, rest) => if rest = [] then some parent else none

theorem findIdx?_reverse_of_not_mem {b : UInt8} {s : Bytes} (h : b ∉ s) :
    s.reverse.findIdx? (· == b) = none := by
  rw [List.findIdx?_eq_none_iff]
  intro c hc
  rw [beq_eq_false_iff_ne]
  rintro rfl
  exact h (List.mem_reverse.mp hc)

theorem rfind_append_cons {b : UInt8} {after : Bytes} (h : b ∉ after) (before : Bytes) :
    rfind b (before ++ b :: after) = some before.length := by
  have hreverse : (before ++ b :: after).reverse = after.reverse ++ b :: before.reverse := by simp
  rw [rfind, hreverse, List.findIdx?_append, findIdx?_reverse_of_not_mem h]
  simp [List.findIdx?_cons]

theorem rfind_of_not_mem {b : UInt8} {s : Bytes} (h : b ∉ s) : rfind b s = none := by
  rw [rfind, findIdx?_reverse_of_not_mem h]
  rfl

/-- A text with a byte in it, cut at the last one. -/
theorem exists_last {b : UInt8} {s : Bytes} (h : b ∈ s) :
    ∃ before after, s = before ++ b :: after ∧ b ∉ after := by
  obtain ⟨after, before, hreverse, hfresh⟩ :=
    List.eq_append_cons_of_mem (List.mem_reverse.mpr h)
  refine ⟨before.reverse, after.reverse, ?_, fun hmem => hfresh (List.mem_reverse.mp hmem)⟩
  rw [← List.reverse_reverse s, hreverse]
  simp

/-- The whole text is a number when it is digits and nothing else. -/
theorem fromCharsUInt32_eq_some_iff {s : Bytes} {n : UInt32} :
    fromCharsUInt32 s = some (n, []) ↔
      s ≠ [] ∧ (∀ d ∈ s, isDigitByte d = true) ∧ digitsValue s = n.toNat := by
  simp only [fromCharsUInt32]
  constructor
  · intro h
    split at h
    case isTrue => cases h
    case isFalse hdigits =>
      split at h
      case isFalse => cases h
      case isTrue hlt =>
        obtain ⟨hvalue, hrest⟩ := Prod.mk.inj (Option.some.inj h)
        have hall : ∀ d ∈ s, isDigitByte d = true := List.dropWhile_eq_nil_iff.mp hrest
        rw [List.takeWhile_eq_self_iff.mpr hall] at hdigits hlt hvalue
        refine ⟨hdigits, hall, ?_⟩
        rw [← hvalue, UInt32.toNat_ofNat_of_lt' hlt]
  · rintro ⟨hne, hall, hvalue⟩
    rw [List.takeWhile_eq_self_iff.mpr hall, if_neg hne, hvalue, if_pos n.toNat_lt,
      List.dropWhile_eq_nil_iff.mpr hall, UInt32.ofNat_toNat]

/-- A field is taken for a number when nothing of it is left. -/
theorem whole_field_iff {field : Bytes} {parent : UInt32} :
    (match fromCharsUInt32 field with
      | none => none
      | some (parent, rest) => if rest = [] then some parent else none) = some parent ↔
      fromCharsUInt32 field = some (parent, []) := by
  cases fromCharsUInt32 field with
  | none => exact iff_of_false nofun nofun
  | some found =>
    obtain ⟨number, rest⟩ := found
    dsimp only
    rw [Option.ite_none_right_eq_some, Option.some.injEq, Option.some.injEq, Prod.mk.injEq,
      and_comm]

/-- What the parser makes of the text after the last parenthesis. -/
theorem parseParentPid_append_cons {before after : Bytes} (h : 41 ∉ after) {parent : UInt32} :
    parseParentPid (before ++ 41 :: after) = some parent ↔
      ∃ a b field, after = 32 :: a :: b :: field ∧ field ≠ [] ∧
        fromCharsUInt32 (field.takeWhile (· != 32)) = some (parent, []) := by
  have hlength : (before ++ 41 :: after).length = before.length + (after.length + 1) := by
    rw [List.length_append, List.length_cons]
  have hget : (before ++ 41 :: after)[before.length + 1]? = after[0]? := by
    rw [List.getElem?_append_right (Nat.le_add_right _ 1), Nat.add_sub_cancel_left]
    rfl
  have hdrop : (before ++ 41 :: after).drop (before.length + 4) = after.drop 3 := by
    rw [List.drop_append, List.drop_eq_nil_of_le (Nat.le_add_right _ _), List.nil_append,
      Nat.add_sub_cancel_left]
    rfl
  simp only [parseParentPid, rfind_append_cons h]
  rw [hlength, hget, hdrop]
  constructor
  · intro hparse
    split at hparse
    case isTrue => cases hparse
    case isFalse hcond =>
      rw [not_or, not_le, not_not] at hcond
      rcases after with _ | ⟨c, _ | ⟨a, _ | ⟨b, field⟩⟩⟩
      · exact absurd hcond.1 (by simp)
      · exact absurd hcond.1 (by simp)
      · exact absurd hcond.1 (by simp)
      · refine ⟨a, b, field, ?_, ?_, ?_⟩
        · rw [Option.some.inj hcond.2]
        · rintro rfl
          exact absurd hcond.1 (by simp)
        · exact whole_field_iff.mp hparse
  · rintro ⟨a, b, field, rfl, hne, hfield⟩
    have hlong : 0 < field.length := List.length_pos_iff.mpr hne
    rw [if_neg (by simp; omega)]
    exact whole_field_iff.mpr hfield

/-- The parent of a process as the last parenthesis of its record is followed by it: a space, two
bytes, and a number that ends at a space or with the record. -/
structure ParentField (stat : Bytes) (parent : UInt32) (before : Bytes) (a b : UInt8)
    (digits tail : Bytes) : Prop where
  record : stat = before ++ 41 :: 32 :: a :: b :: (digits ++ tail)
  last : (41 : UInt8) ∉ 32 :: a :: b :: (digits ++ tail)
  nonempty : digits ≠ []
  isDigit : ∀ d ∈ digits, isDigitByte d = true
  value : digitsValue digits = parent.toNat
  ends : tail = [] ∨ tail.head? = some 32

/-- The field up to the next space is the number. -/
theorem ParentField.takeWhile_eq {stat : Bytes} {parent : UInt32} {before : Bytes} {a b : UInt8}
    {digits tail : Bytes} (h : ParentField stat parent before a b digits tail) :
    (digits ++ tail).takeWhile (· != 32) = digits := by
  have hspace : ∀ d ∈ digits, (d != 32) = true := by
    intro d hd
    rw [bne_iff_ne]
    rintro rfl
    exact absurd (h.isDigit 32 hd) (by decide)
  rw [List.takeWhile_append_of_pos hspace]
  rcases h.ends with rfl | htail
  · rw [List.takeWhile_nil, List.append_nil]
  · obtain ⟨rest, rfl⟩ := List.head?_eq_some_iff.mp htail
    rw [List.takeWhile_cons_of_neg (by decide), List.append_nil]

/-- **The parser accepts exactly the records with such a field.** -/
theorem parseParentPid_eq_some_iff {stat : Bytes} {parent : UInt32} :
    parseParentPid stat = some parent ↔
      ∃ before a b digits tail, ParentField stat parent before a b digits tail := by
  constructor
  · intro h
    by_cases hmem : (41 : UInt8) ∈ stat
    · obtain ⟨before, after, rfl, hlast⟩ := exists_last hmem
      obtain ⟨a, b, field, rfl, -, hfield⟩ := (parseParentPid_append_cons hlast).mp h
      obtain ⟨hne, hdigits, hvalue⟩ := fromCharsUInt32_eq_some_iff.mp hfield
      have hcut := List.takeWhile_append_dropWhile (p := (· != 32)) (l := field)
      refine ⟨before, a, b, field.takeWhile (· != 32), field.dropWhile (· != 32), ?_⟩
      constructor
      case record => rw [hcut]
      case last => rwa [hcut]
      case nonempty => exact hne
      case isDigit => exact hdigits
      case value => exact hvalue
      case ends =>
        have hhead := List.head?_dropWhile_not (· != 32) field
        cases htail : field.dropWhile (· != 32) with
        | nil => exact Or.inl rfl
        | cons c tail =>
          rw [htail] at hhead
          right
          simpa using hhead
    · rw [parseParentPid, rfind_of_not_mem hmem] at h
      cases h
  · rintro ⟨before, a, b, digits, tail, h⟩
    rw [h.record, parseParentPid_append_cons h.last]
    refine ⟨a, b, digits ++ tail, rfl, ?_, ?_⟩
    · exact List.append_ne_nil_of_left_ne_nil h.nonempty tail
    · rw [h.takeWhile_eq]
      exact fromCharsUInt32_eq_some_iff.mpr ⟨h.nonempty, h.isDigit, h.value⟩

/-- A record of the documented shape, `<pid> (<name>) <state> <parent><tail>`. -/
def statRecord (pid : ℕ) (name : Bytes) (state : UInt8) (parent : UInt32) (tail : Bytes) : Bytes :=
  decimalNat pid ++ 32 :: 40 ::
    (name ++ 41 :: 32 :: state :: 32 :: (decimalNat parent.toNat ++ tail))

/-- **The parent is found behind any name**, and nothing is taken for a parent that does not stand
there. -/
theorem parent_behind_any_name :
    (∀ (pid : ℕ) (name : Bytes) (state : UInt8) (parent : UInt32) (tail : Bytes),
      state ≠ 41 → 41 ∉ tail → tail = [] ∨ tail.head? = some 32 →
      parseParentPid (statRecord pid name state parent tail) = some parent) ∧
    ∀ (stat : Bytes) (parent : UInt32), parseParentPid stat = some parent →
      ∃ before a b digits tail, ParentField stat parent before a b digits tail := by
  refine ⟨fun pid name state parent tail hstate htail hends => ?_, fun stat parent h => ?_⟩
  · rw [parseParentPid_eq_some_iff]
    have hdigits : (41 : UInt8) ∉ decimalNat parent.toNat := fun hmem =>
      absurd (mem_decimalNat hmem).1 (by decide)
    refine ⟨decimalNat pid ++ 32 :: 40 :: name, state, 32, decimalNat parent.toNat, tail, ?_⟩
    constructor
    case record => simp [statRecord]
    case last => simp [hdigits, htail, hstate.symm]
    case nonempty => exact decimalNat_ne_nil _
    case isDigit => exact fun d => isDigitByte_of_mem_decimalNat
    case value => exact digitsValue_decimalNat _
    case ends => exact hends
  · exact parseParentPid_eq_some_iff.mp h

/-- A worker whose name has parentheses; 83 is `S`. -/
theorem parent_behind_worker :
    parseParentPid (statRecord 30 "agent (worker)" 83 20 " 0 0") = some 20 :=
  parent_behind_any_name.1 30 "agent (worker)" 83 20 " 0 0" (by decide) (by decide) (Or.inr rfl)

/-- `struct ProcessAncestryReader`: the reader of the records. -/
structure ProcessAncestryReader where
  reader : UInt32 → Option Bytes

namespace ProcessAncestryReader

/-- The parent in the record of a process, when the record can be read and parsed. -/
def parentOf (ancestry : ProcessAncestryReader) (pid : UInt32) : Option UInt32 :=
  (ancestry.reader pid).bind parseParentPid

/-! ## The loop -/

/-- The loop of `read`, with the number of passes that `count < 64` still allows. -/
def readLoop (ancestry : ProcessAncestryReader) :
    ℕ → UInt32 → List UInt32 → List UInt32 → List UInt32
  | 0, _, lineage, _ => lineage
  | remaining + 1, pid, lineage, visited =>
    if 0 < pid ∧ pid ∉ visited then
      match ancestry.reader pid with
      | none => lineage
      | some stat =>
        match parseParentPid stat with
        | none => lineage
        | some parent =>
          if pid = 1 then lineage ++ [pid]
          else if parent = 0 then lineage ++ [pid]
          else readLoop ancestry remaining parent (lineage ++ [pid]) (pid :: visited)
    else lineage

/-- `ProcessAncestryReader::read` (ProcessAncestryReader.cpp:41–64). -/
def read (ancestry : ProcessAncestryReader) (pid : UInt32) : List UInt32 :=
  ancestry.readLoop 64 pid [] []

/-! ## What a lineage is -/

/-- A lineage of a process: what the list has to satisfy, apart from how it is computed. The empty
list is one. -/
structure IsLineage (ancestry : ProcessAncestryReader) (pid : UInt32) (pids : List UInt32) :
    Prop where
  starts : ∀ first ∈ pids.head?, first = pid
  short : pids.length ≤ 64
  nodup : pids.Nodup
  positive : ∀ p ∈ pids, 0 < p
  readable : ∀ p ∈ pids, (ancestry.parentOf p).isSome
  linked : pids.IsChain fun child parent => ancestry.parentOf child = some parent
  init_last : 1 ∉ pids.dropLast

/-- Why a lineage that ends with `last` has no further element. -/
def Stopped (ancestry : ProcessAncestryReader) (pids : List UInt32) (last : UInt32) : Prop :=
  last = 1 ∨ pids.length = 64 ∨
    ∃ parent, ancestry.parentOf last = some parent ∧
      (parent = 0 ∨ parent ∈ pids ∨ ancestry.parentOf parent = none)

/-- The tail of a lineage: at most `remaining` pids from `pid` on, none of them visited. -/
structure LineageFrom (ancestry : ProcessAncestryReader) (remaining : ℕ) (visited : List UInt32)
    (pid : UInt32) (pids : List UInt32) : Prop where
  starts : ∀ first ∈ pids.head?, first = pid
  short : pids.length ≤ remaining
  nodup : pids.Nodup
  fresh : ∀ p ∈ pids, p ∉ visited
  positive : ∀ p ∈ pids, 0 < p
  readable : ∀ p ∈ pids, (ancestry.parentOf p).isSome
  linked : pids.IsChain fun child parent => ancestry.parentOf child = some parent
  init_last : 1 ∉ pids.dropLast

variable {ancestry : ProcessAncestryReader} {pid : UInt32} {pids : List UInt32}

theorem isLineage_iff : ancestry.IsLineage pid pids ↔ ancestry.LineageFrom 64 [] pid pids := by
  constructor
  · rintro ⟨h₁, h₂, h₃, h₄, h₅, h₆, h₇⟩
    exact ⟨h₁, h₂, h₃, fun _ _ => List.not_mem_nil, h₄, h₅, h₆, h₇⟩
  · rintro ⟨h₁, h₂, h₃, -, h₄, h₅, h₆, h₇⟩
    exact ⟨h₁, h₂, h₃, h₄, h₅, h₆, h₇⟩

/-! ## One pass of the loop, one element of the lineage -/

section Tails

variable {remaining : ℕ} {visited rest : List UInt32}

theorem lineageFrom_nil : ancestry.LineageFrom remaining visited pid [] where
  starts := fun _ h => absurd h (by simp)
  short := Nat.zero_le _
  nodup := List.nodup_nil
  fresh := fun _ h => absurd h List.not_mem_nil
  positive := fun _ h => absurd h List.not_mem_nil
  readable := fun _ h => absurd h List.not_mem_nil
  linked := List.isChain_nil
  init_last := List.not_mem_nil

/-- A lineage is its first pid and a lineage of the parent that avoids it. -/
theorem lineageFrom_cons_iff {p : UInt32} :
    ancestry.LineageFrom (remaining + 1) visited pid (p :: rest) ↔
      p = pid ∧ 0 < pid ∧ pid ∉ visited ∧ (pid = 1 → rest = []) ∧
        ∃ parent, ancestry.parentOf pid = some parent ∧
          ancestry.LineageFrom remaining (pid :: visited) parent rest := by
  constructor
  · rintro ⟨hstarts, hshort, hnodup, hfresh, hpositive, hreadable, hlinked, hlast⟩
    obtain rfl : p = pid := hstarts p rfl
    obtain ⟨parent, hparent⟩ := Option.isSome_iff_exists.mp (hreadable p List.mem_cons_self)
    rw [List.nodup_cons] at hnodup
    rw [List.isChain_cons] at hlinked
    refine ⟨rfl, hpositive p List.mem_cons_self, hfresh p List.mem_cons_self, ?_, parent, hparent, ?_⟩
    · rintro rfl
      cases rest with
      | nil => rfl
      | cons q rest => exact absurd List.mem_cons_self hlast
    · constructor
      case starts =>
        intro first hfirst
        exact (Option.some.inj (hparent.symm.trans (hlinked.1 first hfirst))).symm
      case short => simpa using hshort
      case nodup => exact hnodup.2
      case fresh =>
        intro q hq
        rw [List.mem_cons, not_or]
        exact ⟨fun heq => hnodup.1 (heq ▸ hq), hfresh q (List.mem_cons_of_mem _ hq)⟩
      case positive => exact fun q hq => hpositive q (List.mem_cons_of_mem _ hq)
      case readable => exact fun q hq => hreadable q (List.mem_cons_of_mem _ hq)
      case linked => exact hlinked.2
      case init_last =>
        intro hmem
        cases rest with
        | nil => exact List.not_mem_nil hmem
        | cons q rest => exact hlast (List.mem_cons_of_mem _ hmem)
  · rintro ⟨rfl, hpos, hvisited, hone, parent, hparent, h⟩
    constructor
    case starts => exact fun first hfirst => (Option.some.inj hfirst).symm
    case short => simpa using h.short
    case nodup =>
      exact List.nodup_cons.mpr ⟨fun hmem => h.fresh p hmem List.mem_cons_self, h.nodup⟩
    case fresh =>
      exact List.forall_mem_cons.mpr
        ⟨hvisited, fun q hq hmem => h.fresh q hq (List.mem_cons_of_mem _ hmem)⟩
    case positive => exact List.forall_mem_cons.mpr ⟨hpos, h.positive⟩
    case readable => exact List.forall_mem_cons.mpr ⟨by rw [hparent]; rfl, h.readable⟩
    case linked =>
      refine List.isChain_cons.mpr ⟨fun first hfirst => ?_, h.linked⟩
      rw [h.starts first hfirst, hparent]
    case init_last =>
      cases rest with
      | nil => exact List.not_mem_nil
      | cons q rest =>
        intro hmem
        rcases List.mem_cons.mp hmem with heq | hmem
        · cases hone heq.symm
        · exact h.init_last hmem

/-- A tail that every other one is a first part of. -/
def LongestFrom (ancestry : ProcessAncestryReader) (remaining : ℕ) (visited : List UInt32)
    (pid : UInt32) (tail : List UInt32) : Prop :=
  ancestry.LineageFrom remaining visited pid tail ∧
    ∀ pids, ancestry.LineageFrom remaining visited pid pids → pids <+: tail

/-- A lineage that cannot have a first element is empty. -/
theorem longestFrom_nil
    (h : ∀ p rest, ¬ancestry.LineageFrom remaining visited pid (p :: rest)) :
    ancestry.LongestFrom remaining visited pid [] := by
  refine ⟨lineageFrom_nil, fun pids hpids => ?_⟩
  cases pids with
  | nil => exact List.prefix_rfl
  | cons p rest => exact absurd hpids (h p rest)

section Recorded

variable {parent : UInt32} (hpos : 0 < pid) (hvisited : pid ∉ visited)
  (hparent : ancestry.parentOf pid = some parent)
include hpos hvisited hparent

/-- No lineage goes on after 1, or at the parent 0. -/
theorem longestFrom_singleton (hstop : pid = 1 ∨ parent = 0) :
    ancestry.LongestFrom (remaining + 1) visited pid [pid] := by
  refine ⟨lineageFrom_cons_iff.mpr
    ⟨rfl, hpos, hvisited, fun _ => rfl, parent, hparent, lineageFrom_nil⟩, fun pids h => ?_⟩
  cases pids with
  | nil => exact List.nil_prefix
  | cons p rest =>
    obtain ⟨rfl, -, -, hone, other, hother, h⟩ := lineageFrom_cons_iff.mp h
    obtain rfl : parent = other := Option.some.inj (hparent.symm.trans hother)
    rcases hstop with hpid | rfl
    · rw [hone hpid]
    · cases rest with
      | nil => exact List.prefix_rfl
      | cons q rest =>
        have hq := h.positive q List.mem_cons_self
        rw [h.starts q rfl] at hq
        exact absurd hq (by decide)

/-- Before 1 the longest lineage goes on with the longest one of the parent. -/
theorem longestFrom_cons {tail : List UInt32} (hone : pid ≠ 1)
    (h : ancestry.LongestFrom remaining (pid :: visited) parent tail) :
    ancestry.LongestFrom (remaining + 1) visited pid (pid :: tail) := by
  refine ⟨lineageFrom_cons_iff.mpr
    ⟨rfl, hpos, hvisited, fun heq => absurd heq hone, parent, hparent, h.1⟩, fun pids hpids => ?_⟩
  cases pids with
  | nil => exact List.nil_prefix
  | cons p rest =>
    obtain ⟨rfl, -, -, -, other, hother, hrest⟩ := lineageFrom_cons_iff.mp hpids
    obtain rfl : parent = other := Option.some.inj (hparent.symm.trans hother)
    exact List.cons_prefix_cons.mpr ⟨rfl, h.2 rest hrest⟩

end Recorded

/-- One pass of the loop, on the parsed parent. -/
theorem readLoop_succ (ancestry : ProcessAncestryReader) (remaining : ℕ) (pid : UInt32)
    (lineage visited : List UInt32) :
    ancestry.readLoop (remaining + 1) pid lineage visited =
      if 0 < pid ∧ pid ∉ visited then
        match ancestry.parentOf pid with
        | none => lineage
        | some parent =>
          if pid = 1 ∨ parent = 0 then lineage ++ [pid]
          else ancestry.readLoop remaining parent (lineage ++ [pid]) (pid :: visited)
      else lineage := by
  rw [readLoop, parentOf]
  cases ancestry.reader pid with
  | none => rfl
  | some stat =>
    dsimp only [Option.bind_some]
    cases parseParentPid stat with
    | none => rfl
    | some parent =>
      by_cases hone : pid = 1
      · simp [hone]
      · simp [hone]

/-- **The loop appends the longest lineage** of the pid it stands at. The induction is on the
passes that are left. -/
theorem readLoop_spec (ancestry : ProcessAncestryReader) (remaining : ℕ) (pid : UInt32)
    (lineage visited : List UInt32) :
    ∃ tail, ancestry.readLoop remaining pid lineage visited = lineage ++ tail ∧
      ancestry.LongestFrom remaining visited pid tail := by
  induction remaining generalizing pid lineage visited with
  | zero =>
    refine ⟨[], (List.append_nil _).symm, longestFrom_nil fun p rest h => ?_⟩
    exact absurd h.short (by simp)
  | succ remaining ih =>
    rw [readLoop_succ]
    split
    case isFalse hguard =>
      -- pid 0, or one that was visited
      refine ⟨[], (List.append_nil _).symm, longestFrom_nil fun p rest h => ?_⟩
      obtain ⟨-, hpos, hvisited, -⟩ := lineageFrom_cons_iff.mp h
      exact hguard ⟨hpos, hvisited⟩
    case isTrue hguard =>
      cases hparent : ancestry.parentOf pid with
      | none =>
        refine ⟨[], (List.append_nil _).symm, longestFrom_nil fun p rest h => ?_⟩
        obtain ⟨-, -, -, -, parent, hsome, -⟩ := lineageFrom_cons_iff.mp h
        rw [hparent] at hsome
        cases hsome
      | some parent =>
        dsimp only
        by_cases hstop : pid = 1 ∨ parent = 0
        · rw [if_pos hstop]
          exact ⟨[pid], rfl, longestFrom_singleton hguard.1 hguard.2 hparent hstop⟩
        · rw [if_neg hstop]
          obtain ⟨tail, heq, htail⟩ := ih parent (lineage ++ [pid]) (pid :: visited)
          refine ⟨pid :: tail, ?_, longestFrom_cons hguard.1 hguard.2 hparent
            (not_or.mp hstop).1 htail⟩
          rw [heq, List.append_assoc, List.singleton_append]

end Tails

/-! ## The lineage that is read -/

theorem longestFrom_read (ancestry : ProcessAncestryReader) (pid : UInt32) :
    ancestry.LongestFrom 64 [] pid (ancestry.read pid) := by
  obtain ⟨tail, heq, htail⟩ := readLoop_spec ancestry 64 pid [] []
  rw [read, heq, List.nil_append]
  exact htail

theorem isLineage_singleton (hpos : 0 < pid) (hreadable : (ancestry.parentOf pid).isSome) :
    ancestry.IsLineage pid [pid] where
  starts := fun first hfirst => (Option.some.inj hfirst).symm
  short := by simp
  nodup := List.nodup_singleton pid
  positive := List.forall_mem_singleton.mpr hpos
  readable := List.forall_mem_singleton.mpr hreadable
  linked := List.isChain_singleton pid
  init_last := List.not_mem_nil

/-- A lineage that has none of the reasons to stop can be continued. -/
theorem IsLineage.concat {last parent : UInt32} (h : ancestry.IsLineage pid pids)
    (hlast : pids.getLast? = some last) (hone : last ≠ 1) (hshort : pids.length ≠ 64)
    (hparent : ancestry.parentOf last = some parent) (hpos : parent ≠ 0) (hfresh : parent ∉ pids)
    (hreadable : (ancestry.parentOf parent).isSome) :
    ancestry.IsLineage pid (pids ++ [parent]) := by
  have hne : pids ≠ [] := by
    rintro rfl
    cases hlast
  constructor
  case starts =>
    intro first hfirst
    rw [List.head?_append_of_ne_nil _ hne] at hfirst
    exact h.starts first hfirst
  case short =>
    have := h.short
    rw [List.length_append, List.length_singleton]
    omega
  case nodup =>
    rw [← List.concat_eq_append]
    exact h.nodup.concat hfresh
  case positive =>
    exact List.forall_mem_append.mpr
      ⟨h.positive, List.forall_mem_singleton.mpr (UInt32.pos_iff_ne_zero.mpr hpos)⟩
  case readable =>
    exact List.forall_mem_append.mpr ⟨h.readable, List.forall_mem_singleton.mpr hreadable⟩
  case linked =>
    refine List.isChain_append.mpr ⟨h.linked, List.isChain_singleton _, ?_⟩
    intro child hchild next hnext
    rw [hlast] at hchild
    cases hchild
    cases hnext
    exact hparent
  case init_last =>
    rw [List.dropLast_concat]
    intro hmem
    -- 1 would stand before the last element, or be it
    rw [← List.dropLast_append_getLast? last hlast] at hmem
    rcases List.mem_append.mp hmem with hmem | hmem
    · exact h.init_last hmem
    · exact hone (List.mem_singleton.mp hmem).symm

theorem isLineage_read (ancestry : ProcessAncestryReader) (pid : UInt32) :
    ancestry.IsLineage pid (ancestry.read pid) :=
  isLineage_iff.mpr (longestFrom_read ancestry pid).1

theorem prefix_read (h : ancestry.IsLineage pid pids) : pids <+: ancestry.read pid :=
  (longestFrom_read ancestry pid).2 pids (isLineage_iff.mp h)

theorem read_eq_nil_iff : ancestry.read pid = [] ↔ pid = 0 ∨ ancestry.parentOf pid = none := by
  constructor
  · -- otherwise the pid alone is a lineage
    intro hempty
    by_contra hcan
    rw [not_or] at hcan
    have hsingle := prefix_read (isLineage_singleton (UInt32.pos_iff_ne_zero.mpr hcan.1)
      (Option.isSome_iff_ne_none.mpr hcan.2))
    rw [hempty] at hsingle
    exact absurd hsingle.length_le (by simp)
  · intro hnone
    have hread := isLineage_read ancestry pid
    cases hlist : ancestry.read pid with
    | nil => rfl
    | cons p rest =>
      rw [hlist] at hread
      obtain rfl : p = pid := hread.starts p rfl
      rcases hnone with rfl | hnone
      · exact absurd (hread.positive 0 List.mem_cons_self) (by decide)
      · have hsome := hread.readable p List.mem_cons_self
        rw [hnone] at hsome
        cases hsome

/-- **The process lineage is the parent chain**: for every reader of the records and every pid,
what is read is a lineage, it is empty exactly when the pid is 0 or has no record that can be
parsed, every lineage is a first part of it, and it ends only for one of the five reasons. -/
theorem read_longest (ancestry : ProcessAncestryReader) (pid : UInt32) :
    ancestry.IsLineage pid (ancestry.read pid) ∧
      (ancestry.read pid = [] ↔ pid = 0 ∨ ancestry.parentOf pid = none) ∧
      (∀ pids, ancestry.IsLineage pid pids → pids <+: ancestry.read pid) ∧
      ∀ last, (ancestry.read pid).getLast? = some last →
        ancestry.Stopped (ancestry.read pid) last := by
  have hread := isLineage_read ancestry pid
  refine ⟨hread, read_eq_nil_iff, fun pids => prefix_read, fun last hlast => ?_⟩
  -- otherwise the parent of the last element continues the lineage
  by_contra hgoes
  unfold Stopped at hgoes
  push Not at hgoes
  obtain ⟨hone, hlength, hparents⟩ := hgoes
  obtain ⟨parent, hparent⟩ := Option.isSome_iff_exists.mp
    (hread.readable last (List.mem_of_getLast? hlast))
  obtain ⟨hzero, hmem, hreadable⟩ := hparents parent hparent
  have hlonger := prefix_read (hread.concat hlast hone hlength hparent hzero hmem
    (Option.isSome_iff_ne_none.mpr hreadable))
  have hle := hlonger.length_le
  rw [List.length_append, List.length_singleton] at hle
  omega

/-- The two processes of the test `StopsAtCyclesAndLimit`, each the parent of the other. -/
def cycle : ProcessAncestryReader where
  reader pid := if pid = 4 then some "4 (cmd) S 5 0" else some "5 (cmd) S 4 0"

example : cycle.read 4 = [4, 5] := by decide +kernel

end ProcessAncestryReader

/-- A registered session has an activation descriptor exactly when the record of its process could
be read. -/
theorem registeredActivation_read (ancestry : ProcessAncestryReader) (pid : UInt32)
    (metadata : Json) :
    SessionRegistry.registeredActivation (ancestry.read pid) metadata = none ↔
      pid = 0 ∨ ancestry.parentOf pid = none := by
  rw [← ProcessAncestryReader.read_eq_nil_iff]
  simp [SessionRegistry.registeredActivation, ActivationDescriptor.valid]

end Agent

end Holonight
