import Holonight.Base.CppLib
import Holonight.Base.Words
import Holonight.Health.MountMetrics

/-!
# Mount discovery (`StorageCollector::discoverMounts`)

The kernel renders the mount table with one line for each mount: four fields and two numbers,
separated by spaces. Five bytes of a field (space, tab, newline, backslash and `#`) are written as a
backslash and three octal digits, so that the separators and the comment sign are not part of any
field. `discoverMounts` reads the lines with `std::getline`, the fields with `operator>>`, and undoes
the escapes of the path.

`operator>>` also separates at vertical tab, form feed and carriage return, which the kernel writes
as they are, and the escapes of the file system type are not undone. **The table is read faithfully
exactly when no mount is cut at the wrong place** (`faithful_iff`); a mount without those bytes is
not (`readsBack_of_plain`).
-/

namespace Holonight

namespace StorageCollector

/-! ## The code -/

/-- The value of three digits as the code computes it; a `char` keeps the low eight bits. -/
def octalValue (a b c : UInt8) : UInt8 :=
  UInt8.ofNat ((a.toNat - 48) * 64 + (b.toNat - 48) * 8 + (c.toNat - 48))

/-- `unescapeMountPath` (StorageCollector.cpp:41–57); 92 is the backslash. -/
def unescapeMountPath : Bytes → Bytes
  | 92 :: a :: b :: c :: rest =>
    if isDigitByte a && isDigitByte b && isDigitByte c then
      octalValue a b c :: unescapeMountPath rest
    else 92 :: unescapeMountPath (a :: b :: c :: rest)
  | b :: rest => b :: unescapeMountPath rest
  | [] => []

/-- `kVirtualFstypes`. -/
def virtualFstypes : List Bytes :=
  [ "proc", "sysfs", "tmpfs", "devtmpfs", "cgroup", "cgroup2", "overlay", "squashfs", "devpts",
    "securityfs", "bpf", "pstore", "tracefs", "autofs", "mqueue", "hugetlbfs", "configfs", "debugfs",
    "ramfs", "rpc_pipefs", "efivarfs", "fusectl", "binfmt_misc", "fuse" ]

/-- `isVirtualFstype` (StorageCollector.cpp:59–66). -/
def isVirtualFstype (fstype : Bytes) : Bool :=
  decide (fstype ∈ virtualFstypes) || (Bytes.ofString "fuse.").isPrefixOf fstype

/-- `kNetworkFstypes`. -/
def networkFstypes : List Bytes := [ "nfs", "nfs4", "cifs", "smbfs", "sshfs", "fuse.sshfs" ]

/-- `isNetworkFstype` (StorageCollector.cpp:68–73). -/
def isNetworkFstype (fstype : Bytes) : Bool := decide (fstype ∈ networkFstypes)

/-- `isRemovablePath` (StorageCollector.cpp:75–78). -/
def isRemovablePath (path : Bytes) : Bool :=
  (Bytes.ofString "/run/media/").isPrefixOf path || (Bytes.ofString "/media/").isPrefixOf path

/-- One line of the table (StorageCollector.cpp:93–120); 35 is `#`. -/
def readMountLine (line : Bytes) : Option MountInfo :=
  if line = [] ∨ line.head? = some 35 then none
  else
    match wordsBy isSpaceByte line with
    | deviceNode :: rawMountPath :: fstype :: options :: _ =>
      if isVirtualFstype fstype || isNetworkFstype fstype then none
      else if isRemovablePath (unescapeMountPath rawMountPath) then none
      else some
        { mountPath := unescapeMountPath rawMountPath
          deviceNode := deviceNode
          fstype := fstype
          options := options }
    | _ => none

/-- `discoverMounts` (StorageCollector.cpp:83–124) on the contents of `/proc/mounts`, if it can be
opened. -/
def discoverMounts : Option Bytes → List MountInfo
  | none => []
  | some text => (Bytes.lines text).filterMap readMountLine

/-! ## The table of the kernel -/

/-- A mount: four fields and two numbers. -/
structure Mount where
  device : Bytes
  path : Bytes
  fstype : Bytes
  options : Bytes
  dump : ℕ := 0
  pass : ℕ := 0
  nonempty : ∀ field ∈ [device, path, fstype, options], field ≠ []
  noNul : ∀ field ∈ [device, path, fstype, options], 0 ∉ field

/-- Space, tab, newline, backslash and `#`. -/
def escapedBytes : Bytes := [32, 9, 10, 92, 35]

/-- A byte of a field, as it is or as a backslash and three octal digits. -/
def escapeByte (b : UInt8) : Bytes :=
  if b ∈ escapedBytes then [92, 48 + b / 64, 48 + b / 8 % 8, 48 + b % 8] else [b]

/-- A field of the table. -/
def escape (field : Bytes) : Bytes := field.flatMap escapeByte

/-- The line of a mount, without the newline. -/
def mountLine (m : Mount) : Bytes :=
  escape m.device ++ 32 :: (escape m.path ++ 32 :: (escape m.fstype ++ 32 :: (escape m.options
    ++ 32 :: (decimalNat m.dump ++ 32 :: decimalNat m.pass))))

/-- The contents of `/proc/mounts`. -/
def procMounts (mounts : List Mount) : Bytes :=
  (mounts.map mountLine).flatMap fun line => line ++ [10]

/-- A mount with this path and file system type is reported. -/
def listed (path fstype : Bytes) : Bool :=
  !(isVirtualFstype fstype || isNetworkFstype fstype) && !isRemovablePath path

/-- The mounts found are the reported ones, in order, with their own paths and types. -/
def Faithful (mounts : List Mount) : Prop :=
  (discoverMounts (some (procMounts mounts))).map (fun info => (info.mountPath, info.fstype))
    = (mounts.filter fun m => listed m.path m.fstype).map fun m => (m.path, m.fstype)

/-! ## Escapes -/

/-- Vertical tab, form feed and carriage return: white space that the kernel does not escape. -/
def isCut (b : UInt8) : Bool := decide (11 ≤ b) && decide (b ≤ 13)

theorem escapeByte_of_mem {b : UInt8} (h : b ∈ escapedBytes) :
    escapeByte b = [92, 48 + b / 64, 48 + b / 8 % 8, 48 + b % 8] := if_pos h

theorem escapeByte_of_not_mem {b : UInt8} (h : b ∉ escapedBytes) : escapeByte b = [b] := if_neg h

theorem escapeByte_ne_nil (b : UInt8) : escapeByte b ≠ [] := by
  rw [escapeByte]
  split
  · exact List.cons_ne_nil _ _
  · exact List.cons_ne_nil _ _

/-- A byte of a rendering is the byte itself, or no white space. -/
theorem mem_escapeByte {b c : UInt8} (h : c ∈ escapeByte b) :
    b ∉ escapedBytes ∧ c = b ∨ isSpaceByte c = false := by
  have hescape : ∀ b ∈ escapedBytes, ∀ c ∈ escapeByte b, isSpaceByte c = false := by
    decide +kernel
  by_cases hb : b ∈ escapedBytes
  · exact .inr (hescape b hb c h)
  · rw [escapeByte_of_not_mem hb, List.mem_singleton] at h
    exact .inl ⟨hb, h⟩

theorem isSpaceByte_of_isCut {b : UInt8} (h : isCut b = true) : isSpaceByte b = true := by
  simp only [isCut, isSpaceByte, Bool.and_eq_true, Bool.or_eq_true, decide_eq_true_eq] at h ⊢
  exact .inr ⟨UInt8.le_trans (by decide) h.1, h.2⟩

/-- What is left of the white space in a rendered field are the three bytes that cut it. -/
theorem isSpaceByte_escapeByte {b c : UInt8} (h : c ∈ escapeByte b) :
    isSpaceByte c = isCut c := by
  have hplain : ∀ b, b ∉ escapedBytes → isSpaceByte b = isCut b := by decide +kernel
  rcases mem_escapeByte h with ⟨hb, rfl⟩ | hspace
  · exact hplain c hb
  · rw [hspace]
    exact (Bool.eq_false_iff.mpr fun hcut => by simp [isSpaceByte_of_isCut hcut] at hspace).symm

theorem escapeByte_of_isCut (b : UInt8) (h : isCut b = true) : escapeByte b = [b] := by
  have hescaped : ∀ b ∈ escapedBytes, isCut b = false := by decide +kernel
  refine escapeByte_of_not_mem fun hb => ?_
  rw [hescaped b hb] at h
  cases h

theorem escapeByte_of_not_isCut (b : UInt8) (h : isCut b = false) :
    ∀ c ∈ escapeByte b, isCut c = false := by
  intro c hc
  rcases mem_escapeByte hc with ⟨-, rfl⟩ | hspace
  · exact h
  · rw [← isSpaceByte_escapeByte hc, hspace]

theorem not_newline_escapeByte (b : UInt8) : (10 : UInt8) ∉ escapeByte b := by
  intro h
  rcases mem_escapeByte h with ⟨hb, rfl⟩ | hspace
  · exact hb (by decide)
  · cases hspace

theorem escape_cons (b : UInt8) (field : Bytes) : escape (b :: field) = escapeByte b ++ escape field :=
  List.flatMap_cons

/-- The words of a rendered field are its parts between the three bytes, rendered. -/
theorem words_escape (field : Bytes) :
    wordsBy isSpaceByte (escape field) = (wordsBy isCut field).map escape := by
  have hsame : ∀ c ∈ escape field, isSpaceByte c = isCut c := by
    intro c hc
    obtain ⟨b, -, hb⟩ := List.mem_flatMap.mp hc
    exact isSpaceByte_escapeByte hb
  rw [wordsBy_congr hsame]
  exact wordsBy_flatMap escapeByte_of_isCut
    (fun b hb => ⟨escapeByte_ne_nil b, escapeByte_of_not_isCut b hb⟩) field

/-- The first byte of an escape, and what the code makes of the three after it. -/
theorem escapeByte_octal :
    ∀ b ∈ escapedBytes, ∃ x y z, escapeByte b = [92, x, y, z] ∧
      (isDigitByte x && isDigitByte y && isDigitByte z) = true ∧ octalValue x y z = b := by
  intro b hb
  refine ⟨_, _, _, escapeByte_of_mem hb, ?_⟩
  revert b
  decide +kernel

/-- Only a backslash can start an escape. -/
theorem unescapeMountPath_cons {b : UInt8} (h : b ≠ 92) (rest : Bytes) :
    unescapeMountPath (b :: rest) = b :: unescapeMountPath rest :=
  unescapeMountPath.eq_2 b rest fun _ _ _ _ heq _ => h heq

/-- **The code undoes the escapes of the kernel.** -/
theorem unescapeMountPath_escape (field : Bytes) : unescapeMountPath (escape field) = field := by
  induction field with
  | nil => rfl
  | cons b field ih =>
    rw [escape_cons]
    by_cases hb : b ∈ escapedBytes
    · obtain ⟨x, y, z, hescape, hdigits, hvalue⟩ := escapeByte_octal b hb
      rw [hescape]
      show unescapeMountPath (92 :: x :: y :: z :: escape field) = _
      rw [unescapeMountPath, if_pos hdigits, hvalue, ih]
    · -- any other byte is itself; the backslash is not among them
      have hne : b ≠ 92 := by
        rintro rfl
        exact hb (by decide)
      rw [escapeByte_of_not_mem hb, List.singleton_append, unescapeMountPath_cons hne, ih]

/-- Without a backslash there is nothing to undo. -/
theorem unescapeMountPath_of_not_mem {text : Bytes} (h : 92 ∉ text) :
    unescapeMountPath text = text := by
  induction text with
  | nil => rfl
  | cons b rest ih =>
    rw [List.mem_cons, not_or] at h
    rw [unescapeMountPath_cons (Ne.symm h.1), ih h.2]

/-- **Unescaping inverts the escaping of the kernel**, and leaves texts without a backslash alone. -/
theorem unescapeMountPath_inverts :
    (∀ path, unescapeMountPath (escape path) = path) ∧
      ∀ text, 92 ∉ text → unescapeMountPath text = text :=
  ⟨unescapeMountPath_escape, fun _ => unescapeMountPath_of_not_mem⟩

theorem escape_injective : Function.Injective escape :=
  Function.LeftInverse.injective unescapeMountPath_escape

/-- A field that the kernel writes as it is. -/
def isPlain (field : Bytes) : Bool := field.all fun b => !decide (b ∈ escapedBytes)

theorem isPlain_iff {field : Bytes} : isPlain field = true ↔ ∀ b ∈ field, b ∉ escapedBytes := by
  simp [isPlain]

theorem escape_of_isPlain {field : Bytes} (h : isPlain field = true) : escape field = field := by
  rw [isPlain_iff] at h
  induction field with
  | nil => rfl
  | cons b field ih =>
    rw [List.forall_mem_cons] at h
    rw [escape_cons, escapeByte_of_not_mem h.1, ih h.2]
    rfl

/-- A rendered field is one of several plain names when the field is. -/
theorem escape_mem_iff {names : List Bytes} (hnames : names.all isPlain = true) (field : Bytes) :
    escape field ∈ names ↔ field ∈ names := by
  rw [List.all_eq_true] at hnames
  constructor
  · intro h
    rwa [← escape_injective (escape_of_isPlain (hnames _ h))]
  · intro h
    rwa [escape_of_isPlain (hnames _ h)]

/-- It starts with a plain word when the field does. -/
theorem isPrefixOf_escape {word : Bytes} (hword : isPlain word = true) (field : Bytes) :
    word.isPrefixOf (escape field) = word.isPrefixOf field := by
  rw [isPlain_iff] at hword
  induction word generalizing field with
  | nil => rfl
  | cons c word ih =>
    rw [List.forall_mem_cons] at hword
    cases field with
    | nil => rfl
    | cons b field =>
      rw [escape_cons]
      by_cases hb : b ∈ escapedBytes
      · -- neither the byte nor the backslash of its escape is in the word
        have hc : c ≠ 92 := by
          rintro rfl
          exact hword.1 (by decide)
        have hcb : c ≠ b := by
          rintro rfl
          exact hword.1 hb
        rw [escapeByte_of_mem hb, List.cons_append, List.isPrefixOf, List.isPrefixOf,
          beq_eq_false_iff_ne.mpr hc, beq_eq_false_iff_ne.mpr hcb, Bool.false_and, Bool.false_and]
      · rw [escapeByte_of_not_mem hb, List.singleton_append, List.isPrefixOf, List.isPrefixOf,
          ih hword.2]

/-- The types that are left out are recognised in the kernel's rendering. -/
theorem listed_escape (path fstype : Bytes) : listed path (escape fstype) = listed path fstype := by
  have hvirtual : isVirtualFstype (escape fstype) = isVirtualFstype fstype := by
    rw [isVirtualFstype, isVirtualFstype, isPrefixOf_escape (by decide +kernel)]
    congr 1
    exact decide_eq_decide.mpr (escape_mem_iff (by decide +kernel) fstype)
  have hnetwork : isNetworkFstype (escape fstype) = isNetworkFstype fstype :=
    decide_eq_decide.mpr (escape_mem_iff (by decide +kernel) fstype)
  rw [listed, listed, hvirtual, hnetwork]

/-! ## The words of a line -/

/-- The fields of a mount, cut at the three bytes, and the two numbers. -/
def cells (m : Mount) : List Bytes :=
  wordsBy isCut m.device ++ (wordsBy isCut m.path ++ (wordsBy isCut m.fstype
    ++ (wordsBy isCut m.options ++ [decimalNat m.dump, decimalNat m.pass])))

/-- The second and the third of at least four cells: what the code takes for the path and for the
file system type. -/
def pathAndType : List Bytes → Option (Bytes × Bytes)
  | _ :: path :: fstype :: _ :: _ => some (path, fstype)
  | _ => none

/-- A reported mount is found under its own path and type, and what is found of another one is not
reported either. -/
structure ReadsBack (m : Mount) : Prop where
  found : listed m.path m.fstype = true →
    ∃ fstype, pathAndType (cells m) = some (m.path, fstype) ∧ escape fstype = m.fstype
  leftOut : listed m.path m.fstype = false →
    ∀ path fstype, pathAndType (cells m) = some (path, fstype) → listed path fstype = false

/-- A digit is neither escaped nor white space. -/
theorem plain_of_digit :
    ∀ b : UInt8, 48 ≤ b.toNat ∧ b.toNat ≤ 57 → b ∉ escapedBytes ∧ isSpaceByte b = false := by
  decide +kernel

theorem escape_decimalNat (n : ℕ) : escape (decimalNat n) = decimalNat n :=
  escape_of_isPlain (isPlain_iff.mpr fun b hb => (plain_of_digit b (mem_decimalNat hb)).1)

theorem words_decimalNat (n : ℕ) : wordsBy isSpaceByte (decimalNat n) = [decimalNat n] :=
  wordsBy_of_forall (fun b hb => (plain_of_digit b (mem_decimalNat hb)).2) (decimalNat_ne_nil n)

section Lines

variable (m : Mount)

theorem words_mountLine : wordsBy isSpaceByte (mountLine m) = (cells m).map escape := by
  have hspace : isSpaceByte 32 = true := rfl
  rw [mountLine, wordsBy_append_cons _ _ hspace, wordsBy_append_cons _ _ hspace,
    wordsBy_append_cons _ _ hspace, wordsBy_append_cons _ _ hspace, wordsBy_append_cons _ _ hspace,
    words_escape, words_escape, words_escape, words_escape, words_decimalNat, words_decimalNat]
  simp only [cells, List.map_append, List.map_cons, List.map_nil, escape_decimalNat,
    List.singleton_append]

theorem not_newline_mountLine : (10 : UInt8) ∉ mountLine m := by
  have hfield : ∀ field, (10 : UInt8) ∉ escape field := by
    intro field hmem
    obtain ⟨b, -, hb⟩ := List.mem_flatMap.mp hmem
    exact not_newline_escapeByte b hb
  simp [mountLine, hfield, not_mem_decimalNat]

/-- The line is not empty and is no comment: a `#` of the device is escaped. -/
theorem head_mountLine : ¬(mountLine m = [] ∨ (mountLine m).head? = some 35) := by
  have hbyte : ∀ b, (escapeByte b).head? ≠ some 35 := by
    intro b
    by_cases hb : b ∈ escapedBytes
    · rw [escapeByte_of_mem hb]
      show some 92 ≠ some 35
      decide
    · rw [escapeByte_of_not_mem hb]
      rintro ⟨⟩
      exact hb (by decide)
  obtain ⟨b, device, hdevice⟩ := List.exists_cons_of_ne_nil (m.nonempty m.device (by simp))
  have hhead : (mountLine m).head? = (escapeByte b).head? := by
    rw [mountLine, hdevice, escape_cons, List.append_assoc,
      List.head?_append_of_ne_nil _ (escapeByte_ne_nil b)]
  rw [hhead]
  rintro (hnil | hcomment)
  · rw [hnil] at hhead
    exact escapeByte_ne_nil b (List.head?_eq_none_iff.mp hhead.symm)
  · exact hbyte b hcomment

/-- What is found of a line are the second and the third cell, when they are reported. -/
theorem readMountLine_mountLine :
    (readMountLine (mountLine m)).map (fun info => (info.mountPath, info.fstype))
      = (pathAndType (cells m)).bind fun cell =>
          if listed cell.1 cell.2 then some (cell.1, escape cell.2) else none := by
  rw [readMountLine, if_neg (head_mountLine m), words_mountLine]
  rcases cells m with _ | ⟨device, _ | ⟨path, _ | ⟨fstype, _ | ⟨options, rest⟩⟩⟩⟩
  case cons.cons.cons.cons =>
    show Option.map _ (if _ then none else if _ then none else some _) = ite _ _ _
    rw [unescapeMountPath_escape, ← listed_escape, listed]
    cases isVirtualFstype (escape fstype) || isNetworkFstype (escape fstype) with
    | true => rfl
    | false =>
      cases isRemovablePath path with
      | true => rfl
      | false => rfl
  all_goals rfl

/-- A line is read right exactly when its mount reads back. -/
theorem readsBack_iff :
    ReadsBack m ↔
      (readMountLine (mountLine m)).map (fun info => (info.mountPath, info.fstype))
        = if listed m.path m.fstype then some (m.path, m.fstype) else none := by
  rw [readMountLine_mountLine]
  constructor
  · intro h
    cases hlisted : listed m.path m.fstype with
    | true =>
      obtain ⟨fstype, hcells, hfstype⟩ := h.found hlisted
      rw [← hfstype, listed_escape] at hlisted
      rw [hcells, Option.bind_some, hlisted, hfstype]
    | false =>
      cases hcells : pathAndType (cells m) with
      | none => rfl
      | some cell =>
        rw [Option.bind_some, h.leftOut hlisted _ _ hcells]
        rfl
  · intro heq
    constructor
    case found =>
      intro hlisted
      rw [hlisted, if_pos rfl] at heq
      obtain ⟨⟨path, fstype⟩, hcells, hcell⟩ := Option.bind_eq_some_iff.mp heq
      rw [Option.ite_none_right_eq_some] at hcell
      obtain ⟨rfl, hfstype⟩ := Prod.mk.inj (Option.some.inj hcell.2)
      exact ⟨fstype, hcells, hfstype⟩
    case leftOut =>
      intro hlisted path fstype hcells
      rw [hcells, Option.bind_some, hlisted] at heq
      cases hfound : listed path fstype with
      | false => rfl
      | true =>
        rw [hfound] at heq
        cases heq

end Lines

/-- Without the three bytes in the first three fields, and without escapes in the type, a mount
reads back. -/
theorem readsBack_of_plain {m : Mount}
    (hcut : ∀ field ∈ [m.device, m.path, m.fstype], ∀ b ∈ field, isCut b = false)
    (hfstype : isPlain m.fstype = true) : ReadsBack m := by
  have hword : ∀ field ∈ [m.device, m.path, m.fstype], wordsBy isCut field = [field] := by
    intro field hfield
    refine wordsBy_of_forall (hcut field hfield) (m.nonempty field ?_)
    simp only [List.mem_cons, List.not_mem_nil, or_false] at hfield ⊢
    tauto
  have hcells : pathAndType (cells m) = some (m.path, m.fstype) := by
    rw [cells, hword m.device (by simp), hword m.path (by simp), hword m.fstype (by simp)]
    cases wordsBy isCut m.options with
    | nil => rfl
    | cons word words => rfl
  constructor
  case found => exact fun _ => ⟨m.fstype, hcells, escape_of_isPlain hfstype⟩
  case leftOut =>
    intro hlisted path fstype hother
    obtain ⟨rfl, rfl⟩ := Prod.mk.inj (Option.some.inj (hcells.symm.trans hother))
    exact hlisted

/-! ## The table -/

theorem faithful_iff_filterMap (mounts : List Mount) :
    Faithful mounts ↔
      (mounts.filterMap fun m =>
          (readMountLine (mountLine m)).map fun info => (info.mountPath, info.fstype))
        = mounts.filterMap fun m =>
            if listed m.path m.fstype then some (m.path, m.fstype) else none := by
  have hlines : Bytes.lines (procMounts mounts) = mounts.map mountLine := by
    refine Bytes.lines_flatMap fun line hline => ?_
    obtain ⟨m, -, rfl⟩ := List.mem_map.mp hline
    exact not_newline_mountLine m
  have hwanted : (mounts.filter fun m => listed m.path m.fstype).map (fun m => (m.path, m.fstype))
      = mounts.filterMap fun m =>
          if listed m.path m.fstype then some (m.path, m.fstype) else none := by
    clear hlines
    induction mounts with
    | nil => rfl
    | cons m mounts ih =>
      rw [List.filter_cons, List.filterMap_cons, ← ih]
      cases listed m.path m.fstype with
      | true => rfl
      | false => rfl
  rw [Faithful, discoverMounts, hlines, List.filterMap_map, List.map_filterMap, hwanted]
  rfl

theorem eq_of_filterMap_singleton {α β : Type*} {f g : α → Option β} {a : α}
    (h : [a].filterMap f = [a].filterMap g) : f a = g a := by
  rw [List.filterMap_cons, List.filterMap_cons] at h
  cases hf : f a with
  | none =>
    cases hg : g a with
    | none => rfl
    | some y =>
      rw [hf, hg] at h
      cases h
  | some x =>
    cases hg : g a with
    | none =>
      rw [hf, hg] at h
      cases h
    | some y =>
      rw [hf, hg] at h
      cases h
      rfl

/-- **Discovery is faithful exactly when every mount reads back**: a table and all parts of it are
read faithfully if and only if each of its mounts is. -/
theorem faithful_iff (mounts : List Mount) :
    (∀ part, part.Sublist mounts → Faithful part) ↔ ∀ m ∈ mounts, ReadsBack m := by
  constructor
  · intro h m hm
    have hone := (faithful_iff_filterMap [m]).mp (h [m] (List.singleton_sublist.mpr hm))
    rw [readsBack_iff]
    exact eq_of_filterMap_singleton hone
  · intro h part hpart
    rw [faithful_iff_filterMap]
    exact List.filterMap_congr fun m hm => (readsBack_iff m).mp (h m (hpart.subset hm))

/-- A disk under a path with a space, a digit after it and a backslash at the end. -/
def spacedMount : Mount where
  device := "/dev/sda1"
  path := Bytes.ofString "/mnt/my 1" ++ [92]
  fstype := "ext4"
  options := "rw,relatime"
  nonempty := by decide +kernel
  noNul := by decide +kernel

example : ReadsBack spacedMount := readsBack_of_plain (by decide +kernel) (by decide +kernel)

/-- A disk under a path with a vertical tab. -/
def cutMount : Mount where
  device := "/dev/sda1"
  path := Bytes.ofString "/mnt/a" ++ 11 :: Bytes.ofString "b"
  fstype := "ext4"
  options := "rw"
  nonempty := by decide +kernel
  noNul := by decide +kernel

/-- The disk is found under `/mnt/a`, with the rest of its path as its type. -/
theorem discovery_cuts_path : ¬∀ mounts, Faithful mounts := by
  intro hall
  have h := hall [cutMount]
  revert h
  rw [Faithful]
  decide +kernel

end StorageCollector

end Holonight
