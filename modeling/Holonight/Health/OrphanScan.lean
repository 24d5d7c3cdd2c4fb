import Holonight.Health.DaemonOptions

/-!
# The orphan scan (`PacmanCollector.cpp`)

`evaluateOrphanConfigs` walks the directory tree under `etc_path` with a
`recursive_directory_iterator` and notes the files that an upgrade has left. At every entry it
compares the depth of the iterator with `max_depth` and switches the recursion off from there on.

The iterator is a stack of open directories; the loop over it visits what a recursive function
over the tree lists (`scan_eq`), and that is **everything at most the limit deep**
(`reached_eq_filter`). The limit is `max_depth` converted to `int`: from 2³¹ on it is negative and
the scan does not leave `etc_path` (`covered_iff`).
-/

namespace Holonight

namespace PacmanCollector

/-! ## Paths -/

/-- `path / name`, for a relative name. 47 is the slash. -/
def joinPath (path name : Bytes) : Bytes :=
  if path = [] ∨ path.getLast? = some 47 then path ++ name else path ++ 47 :: name

/-- `PacmanCollector::resolvePath` (PacmanCollector.cpp:68–73). -/
def resolvePath (options : PacmanOptions) (relativeOrAbs : Bytes) : Bytes :=
  if relativeOrAbs.head? = some 47 then
    joinPath options.sysRoot (relativeOrAbs.dropWhile (· = 47))
  else joinPath options.sysRoot relativeOrAbs

/-! ## Directories -/

/-- The entries of a directory, in the order in which they are read. A `special` one is neither a
regular file nor a directory. -/
inductive Listing
  | done
  | file (name : Bytes) (rest : Listing)
  | special (name : Bytes) (rest : Listing)
  | directory (name : Bytes) (contents rest : Listing)

namespace Listing

/-- The names of the entries. -/
def names : Listing → List Bytes
  | done => []
  | file name rest => name :: rest.names
  | special name rest => name :: rest.names
  | directory name _ rest => name :: rest.names

/-- The entry is one of a directory with these other entries. -/
def EntryOf (name : Bytes) (rest : Listing) : Prop := name ≠ [] ∧ 47 ∉ name ∧ name ∉ rest.names

/-- Names are names of files, and those of one directory are different. -/
def WellFormed : Listing → Prop
  | done => True
  | file name rest => EntryOf name rest ∧ rest.WellFormed
  | special name rest => EntryOf name rest ∧ rest.WellFormed
  | directory name contents rest =>
    EntryOf name rest ∧ contents.WellFormed ∧ rest.WellFormed

end Listing

/-- A directory tree without symbolic links. -/
structure DirectoryTree where
  entries : Listing
  wellFormed : entries.WellFormed

/-- A regular file of a tree; in the top directory its depth is 0. -/
structure FileAt where
  depth : ℕ
  path : Bytes
  name : Bytes

/-- The regular files of a directory at a depth. -/
def Listing.files (depth : ℕ) (path : Bytes) : Listing → List FileAt
  | .done => []
  | .file name rest =>
    { depth := depth, path := joinPath path name, name := name } :: rest.files depth path
  | .special _ rest => rest.files depth path
  | .directory name contents rest =>
    contents.files (depth + 1) (joinPath path name) ++ rest.files depth path

def isPacnew (filename : Bytes) : Bool := (Bytes.ofString ".pacnew").isSuffixOf filename

def isPacsave (filename : Bytes) : Bool := (Bytes.ofString ".pacsave").isSuffixOf filename

/-! ## The iterator -/

/-- An open directory of the iterator, with the entries still to come. -/
structure OpenDir where
  path : Bytes
  entries : Listing

/-- `std::filesystem::recursive_directory_iterator`: the open directories, the innermost first. It
stands at the first entry of that one; without open directories it is the end. -/
abbrev DirIterator := List OpenDir

namespace DirIterator

/-- `recursive_directory_iterator::depth`. -/
def depth (iter : DirIterator) : ℕ := iter.length - 1

/-- Directories without entries to come are closed. -/
def settle : DirIterator → DirIterator
  | [] => []
  | { path := _, entries := .done } :: outer => settle outer
  | here :: outer => here :: outer

/-- The iterator at the first entry of a directory. -/
def start (path : Bytes) (entries : Listing) : DirIterator :=
  settle [{ path := path, entries := entries }]

/-- `recursive_directory_iterator::increment`. -/
def increment (recursionPending : Bool) : DirIterator → DirIterator
  | [] => []
  | { path := _, entries := .done } :: outer => settle outer
  | { path := path, entries := .file _ rest } :: outer =>
    settle ({ path := path, entries := rest } :: outer)
  | { path := path, entries := .special _ rest } :: outer =>
    settle ({ path := path, entries := rest } :: outer)
  | { path := path, entries := .directory name contents rest } :: outer =>
    settle <|
      if recursionPending then
        { path := joinPath path name, entries := contents } ::
          { path := path, entries := rest } :: outer
      else { path := path, entries := rest } :: outer

/-- A bound for the steps that the iterator can still take. -/
def weight : DirIterator → ℕ
  | [] => 0
  | here :: outer => listingWeight here.entries + 1 + weight outer
where
  listingWeight : Listing → ℕ
    | .done => 0
    | .file _ rest => listingWeight rest + 1
    | .special _ rest => listingWeight rest + 1
    | .directory _ contents rest => listingWeight contents + listingWeight rest + 2

theorem weight_settle_le (iter : DirIterator) : (settle iter).weight ≤ iter.weight := by
  induction iter with
  | nil => exact le_rfl
  | cons here outer ih =>
    rcases here with ⟨path, entries⟩
    cases entries with
    | done => exact ih.trans (Nat.le_add_left _ _)
    | file name rest => exact le_rfl
    | special name rest => exact le_rfl
    | directory name contents rest => exact le_rfl

/-- Every step of the iterator leaves less to visit. -/
theorem weight_increment_lt (recursionPending : Bool) (here : OpenDir) (outer : DirIterator) :
    (increment recursionPending (here :: outer)).weight < weight (here :: outer) := by
  rcases here with ⟨path, entries⟩
  cases entries with
  | done => exact (weight_settle_le outer).trans_lt (by simp [weight, weight.listingWeight])
  | file name rest => exact (weight_settle_le _).trans_lt (by simp [weight, weight.listingWeight])
  | special name rest => exact (weight_settle_le _).trans_lt (by simp [weight, weight.listingWeight])
  | directory name contents rest =>
    refine (weight_settle_le _).trans_lt ?_
    cases recursionPending with
    | true =>
      simp only [if_true, weight, weight.listingWeight]
      omega
    | false =>
      simp only [Bool.false_eq_true, if_false, weight, weight.listingWeight]
      omega

end DirIterator

/-! ## The loop -/

/-- A regular file (PacmanCollector.cpp:328–335). A count of files that a vector holds does not
overflow. -/
def noteFile (metrics : PacmanCollectorMetrics) (file : FileAt) : PacmanCollectorMetrics :=
  if isPacnew file.name then
    { metrics with
      pacnewCount := metrics.pacnewCount + 1
      orphanFiles := metrics.orphanFiles ++ [file.path] }
  else if isPacsave file.name then
    { metrics with
      pacsaveCount := metrics.pacsaveCount + 1
      orphanFiles := metrics.orphanFiles ++ [file.path] }
  else metrics

/-- The regular file that the iterator stands at, if it does. -/
def DirIterator.current (iter : DirIterator) : List FileAt :=
  match iter with
  | { path := path, entries := .file name _ } :: _ =>
    [{ depth := iter.depth, path := joinPath path name, name := name }]
  | _ => []

/-- The loop of `evaluateOrphanConfigs` (PacmanCollector.cpp:322–340). -/
def scan (maxDepth : UInt32) (iter : DirIterator) (metrics : PacmanCollectorMetrics) :
    PacmanCollectorMetrics :=
  match iter with
  | [] => metrics
  | here :: outer =>
    let recursionPending := !decide (toInt32 maxDepth.toNat ≤ DirIterator.depth (here :: outer))
    scan maxDepth (DirIterator.increment recursionPending (here :: outer))
      ((DirIterator.current (here :: outer)).foldl noteFile metrics)
termination_by iter.weight
decreasing_by exact DirIterator.weight_increment_lt _ here outer

/-- `PacmanCollector::evaluateOrphanConfigs` (PacmanCollector.cpp:310–341); `etc` is what is found
at the path, if it is a directory. -/
def evaluateOrphanConfigs (options : PacmanOptions) (etc : Option DirectoryTree)
    (metrics : PacmanCollectorMetrics) : PacmanCollectorMetrics :=
  match etc with
  | none => metrics
  | some tree =>
    scan options.maxDepth (DirIterator.start (resolvePath options options.etcPath) tree.entries)
      metrics

/-! ## What the loop visits -/

/-- The regular files of a directory that a recursive walk reaches whose recursion stops from a
depth on. -/
def reached (limit : ℤ) (depth : ℕ) (path : Bytes) : Listing → List FileAt
  | .done => []
  | .file name rest =>
    { depth := depth, path := joinPath path name, name := name } :: reached limit depth path rest
  | .special _ rest => reached limit depth path rest
  | .directory name contents rest =>
    (if (depth : ℤ) < limit then reached limit (depth + 1) (joinPath path name) contents else []) ++
      reached limit depth path rest

namespace DirIterator

/-- The files that an iterator still reaches: the depth of an open directory is the number of those
outside it. -/
def pending (limit : ℤ) : DirIterator → List FileAt
  | [] => []
  | here :: outer => reached limit outer.length here.path here.entries ++ pending limit outer

variable {limit : ℤ}

theorem pending_settle (iter : DirIterator) : (settle iter).pending limit = iter.pending limit := by
  induction iter with
  | nil => rfl
  | cons here outer ih =>
    rcases here with ⟨path, entries⟩
    cases entries with
    | done => exact ih
    | file name rest => rfl
    | special name rest => rfl
    | directory name contents rest => rfl

/-- A step leaves to visit what was to be visited, less the file that the iterator stood at. -/
theorem pending_increment (here : OpenDir) (outer : DirIterator) :
    pending limit (here :: outer) = current (here :: outer) ++
      (increment (!decide (limit ≤ depth (here :: outer))) (here :: outer)).pending limit := by
  have hdepth : depth (here :: outer) = outer.length := Nat.add_sub_cancel _ _
  rcases here with ⟨path, entries⟩
  cases entries with
  | done => exact (pending_settle outer).symm
  | file name rest =>
    rw [increment, pending_settle, current, hdepth]
    rfl
  | special name rest =>
    rw [increment, pending_settle]
    rfl
  | directory name contents rest =>
    rw [increment, pending_settle, hdepth, pending, reached]
    by_cases hlt : (outer.length : ℤ) < limit
    · rw [decide_eq_false (not_le.mpr hlt), Bool.not_false, if_pos rfl, if_pos hlt,
        List.append_assoc]
      rfl
    · rw [decide_eq_true (not_lt.mp hlt), Bool.not_true, if_neg Bool.false_ne_true, if_neg hlt]
      rfl

end DirIterator

/-- **The loop is a walk of the tree**: it notes the files that the iterator reaches. -/
theorem scan_eq (maxDepth : UInt32) (iter : DirIterator) (metrics : PacmanCollectorMetrics) :
    scan maxDepth iter metrics = (iter.pending (toInt32 maxDepth.toNat)).foldl noteFile metrics := by
  induction iter, metrics using scan.induct maxDepth with
  | case1 metrics => rw [scan, DirIterator.pending, List.foldl_nil]
  | case2 metrics here outer recursionPending ih =>
    rw [scan, ih, DirIterator.pending_increment, List.foldl_append]

section Depth

variable {limit : ℤ}

theorem le_depth_of_mem_files {file : FileAt} {depth : ℕ} {path : Bytes} {entries : Listing}
    (h : file ∈ entries.files depth path) : depth ≤ file.depth := by
  induction entries generalizing depth path with
  | done => exact absurd h List.not_mem_nil
  | file name rest ih =>
    rcases List.mem_cons.mp h with rfl | hrest
    · exact le_rfl
    · exact ih hrest
  | special name rest ih => exact ih h
  | directory name contents rest ihContents ihRest =>
    rcases List.mem_append.mp h with hcontents | hrest
    · exact (Nat.le_succ depth).trans (ihContents hcontents)
    · exact ihRest hrest

/-- **The walk reaches everything at most the limit deep**, and the files of its first
directory. -/
theorem reached_eq_filter (depth : ℕ) (path : Bytes) (entries : Listing) :
    reached limit depth path entries
      = (entries.files depth path).filter fun file => decide ((file.depth : ℤ) ≤ max (depth : ℤ) limit) := by
  induction entries generalizing depth path with
  | done => rfl
  | file name rest ih =>
    have hhere : decide ((depth : ℤ) ≤ max (depth : ℤ) limit) = true :=
      decide_eq_true (le_max_left _ _)
    rw [reached, Listing.files, List.filter_cons, if_pos hhere, ih]
  | special name rest ih => exact ih depth path
  | directory name contents rest ihContents ihRest =>
    rw [reached, Listing.files, List.filter_append, ← ihRest]
    congr 1
    split
    case isTrue hlt =>
      rw [ihContents]
      have hmax : max (((depth + 1 : ℕ) : ℤ)) limit = max (depth : ℤ) limit := by omega
      rw [hmax]
    case isFalse hle =>
      refine (List.filter_eq_nil_iff.mpr fun file hmem => ?_).symm
      have hdeep := le_depth_of_mem_files hmem
      rw [decide_eq_true_iff]
      omega

end Depth

/-! ## What the loop notes -/

/-- The name of the file ends in `.pacnew` or `.pacsave`. -/
def FileAt.isOrphan (file : FileAt) : Bool := isPacnew file.name || isPacsave file.name

/-- The files are listed and counted, each once. -/
structure Noted (before after : PacmanCollectorMetrics) (found : List FileAt) : Prop where
  listed : after.orphanFiles = before.orphanFiles ++ found.map FileAt.path
  pacnew : after.pacnewCount = before.pacnewCount + found.countP fun file => isPacnew file.name
  pacsave : after.pacsaveCount = before.pacsaveCount + found.countP fun file => isPacsave file.name
  total : after.pacnewCount + after.pacsaveCount
    = before.pacnewCount + before.pacsaveCount + found.length

section Notes

variable {before after last metrics : PacmanCollectorMetrics} {found later : List FileAt}

theorem Noted.nil (metrics : PacmanCollectorMetrics) : Noted metrics metrics [] where
  listed := (List.append_nil _).symm
  pacnew := (add_zero _).symm
  pacsave := (add_zero _).symm
  total := (add_zero _).symm

theorem Noted.append (h : Noted before after found) (h' : Noted after last later) :
    Noted before last (found ++ later) where
  listed := by rw [h'.listed, h.listed, List.map_append, List.append_assoc]
  pacnew := by rw [h'.pacnew, h.pacnew, List.countP_append, Nat.cast_add, add_assoc]
  pacsave := by rw [h'.pacsave, h.pacsave, List.countP_append, Nat.cast_add, add_assoc]
  total := by rw [h'.total, h.total, List.length_append, Nat.cast_add, add_assoc]

/-- No name has both endings. -/
theorem isPacsave_of_isPacnew {filename : Bytes} (h : isPacnew filename = true) :
    isPacsave filename = false := by
  rw [isPacnew, List.isSuffixOf_iff_suffix] at h
  rw [isPacsave, ← Bool.not_eq_true, List.isSuffixOf_iff_suffix]
  intro hpacsave
  have hlast : filename.getLast? = some 119 := by
    obtain ⟨stem, rfl⟩ := h
    rw [List.getLast?_append]
    rfl
  have hlast' : filename.getLast? = some 101 := by
    obtain ⟨stem, rfl⟩ := hpacsave
    rw [List.getLast?_append]
    rfl
  rw [hlast] at hlast'
  cases hlast'

theorem noted_noteFile (metrics : PacmanCollectorMetrics) (file : FileAt) :
    Noted metrics (noteFile metrics file) ([file].filter FileAt.isOrphan) := by
  rw [noteFile, List.filter_singleton, FileAt.isOrphan]
  cases hpacnew : isPacnew file.name with
  | true =>
    have hpacsave := isPacsave_of_isPacnew hpacnew
    refine ⟨rfl, ?_, ?_, ?_⟩
    · simp [hpacnew]
    · simp [hpacsave]
    · show metrics.pacnewCount + 1 + metrics.pacsaveCount = _
      simp only [Bool.true_or, cond_true, List.length_singleton]
      omega
  | false =>
    cases hpacsave : isPacsave file.name with
    | true =>
      refine ⟨rfl, ?_, ?_, ?_⟩
      · simp [hpacnew]
      · simp [hpacsave]
      · show metrics.pacnewCount + (metrics.pacsaveCount + 1) = _
        simp only [Bool.false_or, cond_true, List.length_singleton]
        omega
    | false => exact Noted.nil metrics

/-- The loop notes the files with one of the endings. -/
theorem noted_foldl (files : List FileAt) (metrics : PacmanCollectorMetrics) :
    Noted metrics (files.foldl noteFile metrics) (files.filter FileAt.isOrphan) := by
  induction files generalizing metrics with
  | nil => exact Noted.nil metrics
  | cons file rest ih =>
    rw [List.foldl_cons, ← List.singleton_append, List.filter_append]
    exact (noted_noteFile metrics file).append (ih _)

end Notes

/-! ## Every file has its own path -/

section Paths

variable {depth : ℕ} {path name : Bytes} {entries rest : Listing} {file : FileAt}

/-- The path, ready for a name to follow. -/
theorem joinPath_eq (path name : Bytes) : joinPath path name = joinPath path [] ++ name := by
  rw [joinPath, joinPath]
  split
  case isTrue => rw [List.append_nil]
  case isFalse => rw [List.append_assoc, List.singleton_append]

/-- A directory with a name gets a slash. -/
theorem joinPath_joinPath (hname : name ≠ []) (hslash : 47 ∉ name) (inner : Bytes) :
    joinPath (joinPath path name) inner = joinPath path name ++ 47 :: inner := by
  have hlast : ¬(joinPath path name = [] ∨ (joinPath path name).getLast? = some 47) := by
    rw [joinPath_eq]
    rintro (h | h)
    · exact hname (List.append_eq_nil_iff.mp h).2
    · rw [List.getLast?_append_of_ne_nil _ hname] at h
      exact hslash (List.mem_of_getLast? h)
  exact if_neg hlast

theorem joinPath_prefix_of_mem_files (hwell : entries.WellFormed)
    (h : file ∈ entries.files depth path) : joinPath path [] <+: file.path := by
  induction entries generalizing depth path with
  | done => exact absurd h List.not_mem_nil
  | file name rest ih =>
    rcases List.mem_cons.mp h with rfl | hrest
    · exact ⟨name, (joinPath_eq path name).symm⟩
    · exact ih hwell.2 hrest
  | special name rest ih => exact ih hwell.2 h
  | directory name contents rest ihContents ihRest =>
    rcases List.mem_append.mp h with hcontents | hrest
    · refine List.IsPrefix.trans ?_ (ihContents hwell.2.1 hcontents)
      rw [joinPath_joinPath hwell.1.1 hwell.1.2.1, joinPath_eq path name, List.append_assoc]
      exact List.prefix_append _ _
    · exact ihRest hwell.2.2 hrest

/-- The first name of a path below a directory. -/
def nameBelow (path filePath : Bytes) : Bytes :=
  (filePath.drop (joinPath path []).length).takeWhile (· ≠ 47)

theorem nameBelow_joinPath (hslash : 47 ∉ name) (tail : Bytes) (htail : tail.head?.all (· = 47)) :
    nameBelow path (joinPath path name ++ tail) = name := by
  have hname : ∀ b ∈ name, decide (b ≠ 47) = true := by
    intro b hb
    exact decide_eq_true fun heq => hslash (heq ▸ hb)
  rw [nameBelow, joinPath_eq path name, List.append_assoc, List.drop_left,
    List.takeWhile_append_of_pos hname]
  cases tail with
  | nil => rw [List.takeWhile_nil, List.append_nil]
  | cons b tail =>
    have hb : b = 47 := by simpa using htail
    rw [hb, List.takeWhile_cons_of_neg (by simp), List.append_nil]

theorem nameBelow_entry (hslash : 47 ∉ name) : nameBelow path (joinPath path name) = name := by
  have hbelow := @nameBelow_joinPath path name hslash [] rfl
  rwa [List.append_nil] at hbelow

/-- Below the name of a directory there are the files of that directory. -/
theorem nameBelow_of_mem_contents (hwell : entries.WellFormed) (hname : name ≠ [])
    (hslash : 47 ∉ name) (h : file ∈ entries.files depth (joinPath path name)) :
    nameBelow path file.path = name := by
  obtain ⟨tail, htail⟩ := joinPath_prefix_of_mem_files hwell h
  rw [joinPath_joinPath hname hslash, List.append_assoc] at htail
  rw [← htail]
  exact nameBelow_joinPath hslash _ rfl

theorem nameBelow_mem_names (hwell : entries.WellFormed) (h : file ∈ entries.files depth path) :
    nameBelow path file.path ∈ entries.names := by
  induction entries with
  | done => exact absurd h List.not_mem_nil
  | file name rest ih =>
    rcases List.mem_cons.mp h with rfl | hrest
    · rw [nameBelow_entry hwell.1.2.1]
      exact List.mem_cons_self
    · exact List.mem_cons_of_mem _ (ih hwell.2 hrest)
  | special name rest ih => exact List.mem_cons_of_mem _ (ih hwell.2 h)
  | directory name contents rest ihContents ihRest =>
    rcases List.mem_append.mp h with hcontents | hrest
    · rw [nameBelow_of_mem_contents hwell.2.1 hwell.1.1 hwell.1.2.1 hcontents]
      exact List.mem_cons_self
    · exact List.mem_cons_of_mem _ (ihRest hwell.2.2 hrest)

/-- **No two files of a tree have the same path.** -/
theorem nodup_paths (hwell : entries.WellFormed) (depth : ℕ) (path : Bytes) :
    ((entries.files depth path).map FileAt.path).Nodup := by
  induction entries generalizing depth path with
  | done => exact List.nodup_nil
  | file name rest ih =>
    refine List.nodup_cons.mpr ⟨fun hmem => ?_, ih hwell.2 depth path⟩
    obtain ⟨file, hfile, hpath⟩ := List.mem_map.mp hmem
    have hnames := nameBelow_mem_names hwell.2 hfile
    rw [hpath, nameBelow_entry hwell.1.2.1] at hnames
    exact hwell.1.2.2 hnames
  | special name rest ih => exact ih hwell.2 depth path
  | directory name contents rest ihContents ihRest =>
    rw [Listing.files, List.map_append]
    refine (ihContents hwell.2.1 _ _).append (ihRest hwell.2.2 depth path) ?_
    rw [List.disjoint_left]
    intro filePath hcontents hrest
    obtain ⟨file, hfile, rfl⟩ := List.mem_map.mp hcontents
    obtain ⟨other, hother, hpath⟩ := List.mem_map.mp hrest
    have hnames := nameBelow_mem_names hwell.2.2 hother
    rw [hpath, nameBelow_of_mem_contents hwell.2.1 hwell.1.1 hwell.1.2.1 hfile] at hnames
    exact hwell.1.2.2 hnames

end Paths

/-! ## The scan covers the configured depth -/

/-- The regular files of the tree under `etc_path`. -/
def DirectoryTree.files (options : PacmanOptions) (tree : DirectoryTree) : List FileAt :=
  tree.entries.files 0 (resolvePath options options.etcPath)

/-- The files of one of the two endings at most `max_depth` directories below `etc_path`. -/
def DirectoryTree.orphansWithin (options : PacmanOptions) (tree : DirectoryTree) : List FileAt :=
  (tree.files options).filter fun file =>
    file.isOrphan && decide (file.depth ≤ options.maxDepth.toNat)

/-- Exactly those files are listed, each once, and counted. -/
def Covered (options : PacmanOptions) (tree : DirectoryTree)
    (before after : PacmanCollectorMetrics) : Prop :=
  ∃ found, Noted before after found ∧ found.Perm (tree.orphansWithin options) ∧
    (found.map FileAt.path).Nodup

section Covered

variable {options : PacmanOptions} {tree : DirectoryTree}

/-- What the scan notes: the depth is compared with the converted limit. -/
theorem noted_evaluateOrphanConfigs (options : PacmanOptions) (tree : DirectoryTree)
    (metrics : PacmanCollectorMetrics) :
    Noted metrics (evaluateOrphanConfigs options (some tree) metrics)
      ((tree.files options).filter fun file =>
        file.isOrphan && decide ((file.depth : ℤ) ≤ max 0 (toInt32 options.maxDepth.toNat))) := by
  have hscan := noted_foldl (reached (toInt32 options.maxDepth.toNat) 0
    (resolvePath options options.etcPath) tree.entries) metrics
  have hfound : (reached (toInt32 options.maxDepth.toNat) 0
      (resolvePath options options.etcPath) tree.entries).filter FileAt.isOrphan
      = (tree.files options).filter fun file =>
        file.isOrphan && decide ((file.depth : ℤ) ≤ max 0 (toInt32 options.maxDepth.toNat)) := by
    rw [reached_eq_filter, List.filter_filter, Nat.cast_zero, DirectoryTree.files]
  rw [hfound] at hscan
  rw [evaluateOrphanConfigs, scan_eq, DirIterator.start, DirIterator.pending_settle,
    DirIterator.pending, DirIterator.pending, List.append_nil]
  exact hscan

theorem toInt32_neg_of_large {n : ℕ} (hlo : 2 ^ 31 ≤ n) (hhi : n < 2 ^ 32) : toInt32 n < 0 := by
  unfold toInt32
  rw [Int.bmod_def]
  omega

/-- A scan with a limit that is not a value of `int` finds nothing below `etc_path` itself. -/
theorem shallow_of_covered {metrics : PacmanCollectorMetrics}
    (hlarge : 2 ^ 31 ≤ options.maxDepth.toNat)
    (h : Covered options tree metrics (evaluateOrphanConfigs options (some tree) metrics)) :
    ∀ file ∈ tree.orphansWithin options, file.depth = 0 := by
  obtain ⟨found, hfound, hperm, -⟩ := h
  have hnoted := noted_evaluateOrphanConfigs options tree metrics
  rw [max_eq_left (toInt32_neg_of_large hlarge options.maxDepth.toNat_lt).le] at hnoted
  have hzero : (tree.orphansWithin options).filter (fun file => decide (file.depth = 0))
      = (tree.files options).filter fun file =>
          file.isOrphan && decide ((file.depth : ℤ) ≤ 0) := by
    rw [DirectoryTree.orphansWithin, List.filter_filter]
    refine List.filter_congr fun file _ => ?_
    rw [Bool.eq_iff_iff]
    simp only [Bool.and_eq_true, decide_eq_true_iff]
    constructor
    · rintro ⟨hdepth, horphan, -⟩
      exact ⟨horphan, by omega⟩
    · rintro ⟨horphan, hdepth⟩
      exact ⟨by omega, horphan, by omega⟩
  -- both lists of paths are what the scan has appended, so that it has missed no file
  have hpaths := List.append_cancel_left (hfound.listed.symm.trans hnoted.listed)
  have hlength := congrArg List.length hpaths
  rw [List.length_map, List.length_map, hperm.length_eq, ← hzero] at hlength
  intro file hmem
  exact of_decide_eq_true (List.length_filter_eq_length_iff.mp hlength.symm file hmem)

/-- **The orphan scan covers exactly the configured depth** if and only if the depth is a value of
`int`, or there is nothing to find below `etc_path` itself. -/
theorem covered_iff (options : PacmanOptions) (tree : DirectoryTree)
    (metrics : PacmanCollectorMetrics) :
    Covered options tree metrics (evaluateOrphanConfigs options (some tree) metrics) ↔
      options.maxDepth.toNat < 2 ^ 31 ∨
        ∀ file ∈ tree.orphansWithin options, file.depth = 0 := by
  constructor
  · intro hcovered
    exact or_iff_not_imp_left.mpr fun hlarge => shallow_of_covered (not_lt.mp hlarge) hcovered
  · intro hcondition
    have hnoted := noted_evaluateOrphanConfigs options tree metrics
    have hsame : (tree.files options).filter (fun file => file.isOrphan &&
        decide ((file.depth : ℤ) ≤ max 0 (toInt32 options.maxDepth.toNat)))
        = tree.orphansWithin options := by
      refine List.filter_congr fun file hmem => ?_
      rw [Bool.eq_iff_iff]
      simp only [Bool.and_eq_true, decide_eq_true_iff]
      refine and_congr_right fun horphan => ⟨fun hdepth => ?_, fun hdepth => ?_⟩
      · -- the converted limit is never the larger one
        have hle := toInt32_natCast_le options.maxDepth.toNat
        omega
      · rcases hcondition with hsmall | hshallow
        · rw [toInt32_of_fits (by omega) (by exact_mod_cast hsmall)]
          omega
        · have hzero := hshallow file (List.mem_filter.mpr ⟨hmem, by simp [horphan, hdepth]⟩)
          omega
    rw [hsame] at hnoted
    refine ⟨_, hnoted, List.Perm.refl _, ?_⟩
    have hall := nodup_paths tree.wellFormed 0 (resolvePath options options.etcPath)
    exact hall.sublist (List.filter_sublist.map FileAt.path)

end Covered

/-- One file that an upgrade has left, one directory down. -/
def mirrorlistTree : DirectoryTree where
  entries := .directory "pacman.d" (.file "mirrorlist.pacnew" .done) .done
  wellFormed := ⟨⟨by decide, by decide, List.not_mem_nil⟩,
    ⟨⟨by decide, by decide, List.not_mem_nil⟩, trivial⟩, trivial⟩

/-- With a `max_depth` of 2³¹ it is not found. -/
theorem orphan_missed_at_large_depth :
    ¬∀ (options : PacmanOptions) (tree : DirectoryTree) (metrics : PacmanCollectorMetrics),
      Covered options tree metrics (evaluateOrphanConfigs options (some tree) metrics) := by
  intro hall
  have hshallow := shallow_of_covered (by decide)
    (hall { maxDepth := 2147483648 } mirrorlistTree {})
  have hfile := hshallow
    { depth := 1, path := "/etc/pacman.d/mirrorlist.pacnew", name := "mirrorlist.pacnew" }
    (List.mem_filter.mpr ⟨List.mem_cons_self, by decide +kernel⟩)
  cases hfile

end PacmanCollector

end Holonight
