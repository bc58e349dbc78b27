import BlockCsi.Go.Filepath
import Mathlib.Data.List.Sort
import Mathlib.Data.String.Basic

/-!
# Go `filepath.Glob` on Linux

`filepath.Glob` as the current Go releases write it, over a file system `Fs` that answers
`os.Lstat` and lists the names of a directory. `globWithLimit` checks the pattern, splits off its
last element, globs the directory part when that has a metacharacter, and matches the last
element against the sorted names of each directory found.

Over the model, `Fs.globElems` says what `Glob` is for on a rooted pattern of elements: the
pattern itself when it has no metacharacter and exists; otherwise the paths reached one level at
a time from its longest literal prefix, each element matching its name. When every element is a
valid name that parses, `Glob` computes exactly that, with no error; and whatever the pattern,
`Glob` never returns a match beside its error.
-/

set_option autoImplicit false

namespace BlockCsi.Go

/-- A name `Readdirnames` lists: not empty, neither `.` nor `..`, and with no separator. -/
def ValidName (name : String) : Prop :=
  name.data ≠ [] ∧ name.data ≠ ['.'] ∧ name.data ≠ ['.', '.'] ∧ '/' ∉ name.data

instance (name : String) : Decidable (ValidName name) := inferInstanceAs (Decidable (_ ∧ _))

/-- The file system as `filepath.Glob` sees it at one moment. `lstat` says whether `os.Lstat`
finds a path; `readDirNames` gives the names `Readdirnames` lists for a path that `os.Stat` finds
to be a directory and `os.Open` opens, and `none` for any other path. A listing holds valid
names, each once. -/
structure Fs where
  lstat : String → Bool
  readDirNames : String → Option (List String)
  names_valid : ∀ dir names, readDirNames dir = some names → ∀ name ∈ names, ValidName name
  names_nodup : ∀ dir names, readDirNames dir = some names → names.Nodup

/-- The order of `sort.Strings`: bytes, which on UTF-8 text is the order of the runes. -/
def byteLe (a b : String) : Prop :=
  a.data ≤ b.data

instance : DecidableRel byteLe := fun a b => inferInstanceAs (Decidable (a.data ≤ b.data))

instance : IsTotal String byteLe := ⟨fun a b => le_total a.data b.data⟩

instance : IsTrans String byteLe := ⟨fun _ _ _ => le_trans⟩

def sortStrings (names : List String) : List String :=
  names.insertionSort byteLe

/-! The helpers of `match.go` and `path.go` that `Glob` calls: `sort.Strings`; `hasMeta`, whether a
path holds one of the runes `*?[\` that are magic on Linux; `filepath.Split`, the path up to and
with its last separator and the name after it; `cleanGlobPath`, which keeps `/`, turns the empty
path into `.` and drops any other path's trailing separator; and `pathSeparatorsLimit`, how deep
`globWithLimit` recurses before it gives up. -/

def hasMeta (path : String) : Bool :=
  path.data.any fun c => c = '*' || c = '?' || c = '[' || c = '\\'

def split (path : String) : String × String :=
  (⟨(path.data.reverse.dropWhile (· ≠ '/')).reverse⟩,
    ⟨(path.data.reverse.takeWhile (· ≠ '/')).reverse⟩)

def cleanGlobPath (path : String) : String :=
  if path = "" then "." else if path = "/" then path else ⟨path.data.dropLast⟩

def pathSeparatorsLimit : Nat := 10000

namespace Fs

variable (fs : Fs)

def glob.loop (dir pattern : String) : List String → List String → List String × Bool
  | [], found => (found, false)
  | name :: names, found =>
    match filepathMatch pattern.data name.data with
    | none => (found, true)
    | some true => glob.loop dir pattern names (found ++ [join [dir, name]])
    | some false => glob.loop dir pattern names found

/-- `glob`: the names of `dir` that `pattern` matches, sorted and joined to `dir` by
`filepath.Join`, go on the end of the matches `found`. A `dir` that `os.Stat`, `IsDir` or `os.Open`
refuses adds nothing, with no error; a malformed pattern ends the loop over the names at the first
one with `ErrBadPattern` (the flag) beside the matches so far. -/
def glob (dir pattern : String) (found : List String) : List String × Bool :=
  match fs.readDirNames dir with
  | none => (found, false)
  | some names => glob.loop dir pattern (sortStrings names) found

def globWithLimit.loop (file : String) : List String → List String → List String × Bool
  | [], found => (found, false)
  | dir :: dirs, found =>
    match fs.glob dir file found with
    | (found, true) => (found, true)
    | (found, false) => globWithLimit.loop file dirs found

/-- `globWithLimit(pattern, depth)` with `remaining = pathSeparatorsLimit - depth` levels left:
the matches, and whether the error is `ErrBadPattern`, the only error it returns. Its loop runs
`glob` in each directory the directory part matched and stops at the first error. At
`depth = pathSeparatorsLimit` the source checks the pattern and then the depth; both give
`ErrBadPattern`. `filepath.Glob` is `globWithLimit(pattern, 0)`. -/
def globWithLimit : Nat → String → List String × Bool
  | 0, _ => ([], true)
  | remaining + 1, pattern =>
    if (filepathMatch pattern.data []).isNone then ([], true)
    else if !hasMeta pattern then (if fs.lstat pattern then [pattern] else [], false)
    else
      let dir := cleanGlobPath (split pattern).1
      let file := (split pattern).2
      if !hasMeta dir then fs.glob dir file []
      else if dir = pattern then ([], true)
      else
        match globWithLimit remaining dir with
        | (_, true) => ([], true)
        | (dirs, false) => globWithLimit.loop fs file dirs []

def filepathGlob (pattern : String) : List String × Bool :=
  fs.globWithLimit pathSeparatorsLimit pattern

end Fs

/-! ## A sample node

The directories of a small multipath node and the names each lists, in listing order: the
devices `dm-2` and `dm-10` over the slaves `sda` and `sdb`, the by-path links of two LUNs, and
the iSCSI host `host3` with the sessions `session9` and `session10`. -/

def sampleListings : List (String × List String) :=
  [("/", ["dev", "sys"]),
   ("/dev", ["disk", "dm-10", "dm-2", "sda", "sdb"]),
   ("/dev/disk", ["by-path"]),
   ("/dev/disk/by-path", ["ip-1.2.3.4:3260-iscsi-iqn.x-lun-2", "ip-1.2.3.4:3260-iscsi-iqn.x-lun-1",
     "ip-1.2.3.5:3260-iscsi-iqn.x-lun-1"]),
   ("/sys", ["block", "class"]),
   ("/sys/block", ["sdb", "dm-2", "sda", "dm-10"]),
   ("/sys/block/dm-10", ["slaves"]),
   ("/sys/block/dm-10/slaves", ["sda", "sdb"]),
   ("/sys/block/dm-2", ["slaves"]),
   ("/sys/block/dm-2/slaves", ["sdb"]),
   ("/sys/class", ["iscsi_host"]),
   ("/sys/class/iscsi_host", ["host3"]),
   ("/sys/class/iscsi_host/host3", ["device"]),
   ("/sys/class/iscsi_host/host3/device", ["session9", "session10", "target3:0:0"]),
   ("/sys/class/iscsi_host/host3/device/session10", ["iscsi_session"]),
   ("/sys/class/iscsi_host/host3/device/session10/iscsi_session", ["session10"]),
   ("/sys/class/iscsi_host/host3/device/session10/iscsi_session/session10", ["targetname"]),
   ("/sys/class/iscsi_host/host3/device/session9", ["iscsi_session"]),
   ("/sys/class/iscsi_host/host3/device/session9/iscsi_session", ["session9"]),
   ("/sys/class/iscsi_host/host3/device/session9/iscsi_session/session9", ["targetname"])]

theorem sampleListings_valid :
    ∀ entry ∈ sampleListings, ∀ name ∈ entry.2, ValidName name := by
  decide

theorem sampleListings_nodup : ∀ entry ∈ sampleListings, entry.2.Nodup := by
  decide

/-- The sample node as `Glob` sees it: a listed directory and each name it lists exist. -/
def sampleFs : Fs where
  lstat path := sampleListings.any fun entry => entry.1 = path ||
    entry.2.any fun name => (if entry.1 = "/" then "" else entry.1) ++ "/" ++ name = path
  readDirNames dir := (sampleListings.find? (·.1 = dir)).map (·.2)
  names_valid dir names listing := by
    obtain ⟨entry, found, rfl⟩ := Option.map_eq_some'.mp listing
    exact sampleListings_valid entry (List.mem_of_find?_eq_some found)
  names_nodup dir names listing := by
    obtain ⟨entry, found, rfl⟩ := Option.map_eq_some'.mp listing
    exact sampleListings_nodup entry (List.mem_of_find?_eq_some found)

/-! ## Rooted paths

A rooted pattern as the driver writes one: a separator before each element. `Split` and
`cleanGlobPath` take off its last element; `Clean` keeps it when its elements are valid names, so
`Join` of it and a valid name is the path one element longer. It parses when its elements do, and
after the same literal elements two rooted paths match as their other elements do. -/

/-- The path from the root through the elements `elems`; `/` when there are none. -/
def rootedPath (elems : List String) : String :=
  if elems = [] then "/" else ⟨elems.flatMap fun elem => '/' :: elem.data⟩

theorem rootedPath_head (elems : List String) : (rootedPath elems).data.head? = some '/' := by
  rcases elems with _ | ⟨e, es⟩ <;> simp [rootedPath]

theorem rootedPath_append_data (elems : List String) (elem : String) :
    (rootedPath (elems ++ [elem])).data =
      (elems.flatMap fun e => '/' :: e.data) ++ '/' :: elem.data := by
  simp [rootedPath, List.flatMap_append]

theorem flatMap_sep_eq {ds : List (List Char)} (nonempty : ds ≠ []) :
    ds.flatMap (fun d => '/' :: d) = '/' :: ['/'].intercalate ds := by
  induction ds with
  | nil => contradiction
  | cons d ds ih =>
    cases ds with
    | nil => simp [List.intercalate]
    | cons d' ds => simp [ih (List.cons_ne_nil _ _), List.intercalate]

theorem rootedPath_splitOn {elems : List String} (nonempty : elems ≠ [])
    (noSep : ∀ e ∈ elems, '/' ∉ e.data) :
    (rootedPath elems).data.splitOn '/' = [] :: elems.map String.data := by
  have joined : (elems.flatMap fun e => '/' :: e.data) =
      '/' :: ['/'].intercalate (elems.map String.data) := by
    rw [← flatMap_sep_eq (by simpa using nonempty), List.flatMap_map]
  simp only [rootedPath, nonempty, if_false, joined]
  exact congrArg _ (List.splitOn_intercalate _ '/' (by simpa using noSep) (by simpa using nonempty))

theorem cleanGlobPath_sep {xs : List Char} (nonempty : xs ≠ []) :
    cleanGlobPath ⟨xs ++ ['/']⟩ = ⟨xs⟩ := by
  simp [cleanGlobPath, String.ext_iff, nonempty]

theorem split_sep (xs ys : List Char) (noSep : '/' ∉ ys) :
    split ⟨xs ++ '/' :: ys⟩ = (⟨xs ++ ['/']⟩, ⟨ys⟩) := by
  have kept : ∀ c ∈ ys.reverse, decide (c ≠ '/') = true := fun c member => by
    simpa using fun same : c = '/' => noSep (same ▸ List.mem_reverse.mp member)
  simp only [split, List.reverse_append, List.reverse_cons, List.append_assoc,
    List.singleton_append]
  rw [List.takeWhile_append_of_pos kept, List.dropWhile_append_of_pos kept]
  simp

theorem split_rootedPath_append (elems : List String) (elem : String) (noSep : '/' ∉ elem.data) :
    cleanGlobPath (split (rootedPath (elems ++ [elem]))).1 = rootedPath elems ∧
      (split (rootedPath (elems ++ [elem]))).2 = elem := by
  rw [show rootedPath (elems ++ [elem]) = ⟨_⟩ from
      String.ext (rootedPath_append_data elems elem), split_sep _ _ noSep]
  refine ⟨?_, rfl⟩
  by_cases empty : elems = []
  · subst empty; rfl
  · rw [cleanGlobPath_sep (by simpa using List.exists_mem_of_ne_nil _ empty)]
    simp [rootedPath, empty]

@[simp] theorem hasMeta_rootedPath (elems : List String) :
    hasMeta (rootedPath elems) = elems.any hasMeta := by
  by_cases empty : elems = []
  · subst empty; rfl
  · simp [rootedPath, empty, hasMeta]
    rfl

theorem rootedPath_ne_append (elems : List String) (elem : String) (nonempty : elem.data ≠ []) :
    rootedPath elems ≠ rootedPath (elems ++ [elem]) := by
  intro same
  have lengths := congrArg (fun path => path.data.length) same
  simp only [rootedPath_append_data, List.length_append, List.length_cons] at lengths
  by_cases empty : elems = []
  · subst empty
    simp [rootedPath] at lengths
    exact nonempty (List.length_eq_zero.mp lengths)
  · simp [rootedPath, empty] at lengths

theorem splitOn_sep_cons (xs : List Char) : ('/' :: xs).splitOn '/' = [] :: xs.splitOn '/' := rfl

theorem foldl_cleanStep (rooted : Bool) (ds : List (List Char))
    (notDots : ∀ d ∈ ds, d ≠ ['.'] ∧ d ≠ ['.', '.']) (kept : List (List Char)) :
    ds.foldl (cleanStep rooted) kept = (ds.filter (· ≠ [])).reverse ++ kept := by
  induction ds generalizing kept with
  | nil => rfl
  | cons d ds ih =>
    have rest := ih fun d' member => notDots d' (.tail _ member)
    obtain ⟨notDot, notDotDot⟩ := notDots d (.head _)
    by_cases empty : d = []
    · simp [cleanStep, empty, rest]
    · simp [cleanStep, empty, notDot, notDotDot, rest]

theorem clean_rootedPath (elems : List String) (valid : ∀ e ∈ elems, ValidName e) :
    clean (rootedPath elems) = rootedPath elems := by
  by_cases empty : elems = []
  · subst empty; decide
  have splitData := rootedPath_splitOn empty fun e member => (valid e member).2.2.2
  have rooted : (rootedPath elems).data.head? = some '/' := by
    obtain ⟨e, es, rfl⟩ := List.exists_cons_of_ne_nil empty
    simp [rootedPath]
  have kept : ((elems.map String.data).filter (· ≠ [])) = elems.map String.data :=
    List.filter_eq_self.mpr fun d member => by
      obtain ⟨e, elem, rfl⟩ := List.mem_map.mp member
      simpa using (valid e elem).1
  have scanned := foldl_cleanStep true (elems.map String.data) (fun d member => by
    obtain ⟨e, elem, rfl⟩ := List.mem_map.mp member
    exact ⟨(valid e elem).2.1, (valid e elem).2.2.1⟩) []
  have dropped : cleanStep true [] [] = [] := rfl
  simp only [clean, rooted, splitData, decide_True, ite_true, List.foldl_cons, dropped, scanned,
    kept, List.append_nil, List.reverse_reverse]
  apply String.ext
  simp only [rootedPath, empty, if_false]
  rw [← List.flatMap_map, flatMap_sep_eq (by simpa using empty)]

theorem join_rootedPath (elems : List String) (name : String) (valid : ∀ e ∈ elems, ValidName e)
    (validName : ValidName name) :
    join [rootedPath elems, name] = rootedPath (elems ++ [name]) := by
  have notEmpty : rootedPath elems ≠ "" := fun same => by
    simpa [same] using rootedPath_head elems
  have joined : "/".intercalate [rootedPath elems, name] = rootedPath elems ++ "/" ++ name := by
    simp [String.intercalate, String.intercalate.go]
  simp only [join, List.dropWhile_cons, notEmpty, decide_False, Bool.false_eq_true, if_false,
    joined]
  have validAll : ∀ e ∈ elems ++ [name], ValidName e := by
    simpa [or_imp, forall_and] using ⟨valid, validName⟩
  by_cases empty : elems = []
  · subst empty
    have twice : clean (rootedPath [] ++ "/" ++ name) = clean (rootedPath [name]) := by
      have dropped : cleanStep true [] [] = [] := rfl
      simp [clean, rootedPath, String.ext_iff, splitOn_sep_cons, dropped]
    rw [twice, List.nil_append]
    exact clean_rootedPath [name] (by simpa using validName)
  · rw [show rootedPath elems ++ "/" ++ name = rootedPath (elems ++ [name]) from
      String.ext (by simp [rootedPath_append_data, rootedPath, empty]), clean_rootedPath _ validAll]

theorem intercalate_go_data (acc : String) (names : List String) :
    (String.intercalate.go acc "/" names).data =
      acc.data ++ names.flatMap fun name => '/' :: name.data := by
  induction names generalizing acc with
  | nil => simp [String.intercalate.go]
  | cons name names ih => simp [String.intercalate.go, ih]

theorem join_rootedPath_append (elems names : List String) (nonempty : elems ≠ [])
    (valid : ∀ e ∈ elems ++ names, ValidName e) :
    join (rootedPath elems :: names) = rootedPath (elems ++ names) := by
  have notEmpty : rootedPath elems ≠ "" := fun same => by
    simpa [same] using rootedPath_head elems
  simp only [join, List.dropWhile_cons, notEmpty, decide_False, Bool.false_eq_true, if_false]
  rw [← clean_rootedPath _ valid]
  congr 1
  apply String.ext
  simp [String.intercalate, intercalate_go_data, rootedPath, nonempty]

theorem base_rootedPath (elems : List String) (name : String) (validName : ValidName name) :
    base (rootedPath (elems ++ [name])) = name := by
  have kept : ∀ c ∈ name.data.reverse, decide (c ≠ '/') = true := fun c member => by
    simpa using fun same : c = '/' => validName.2.2.2 (same ▸ List.mem_reverse.mp member)
  obtain ⟨last, firsts, reversed⟩ := List.exists_cons_of_ne_nil
    (List.reverse_ne_nil_iff.mpr validName.1)
  have notSep : last ≠ '/' := by simpa using kept last (by simp [reversed])
  simp only [base, rootedPath_append_data, List.append_eq_nil, List.cons_ne_nil, and_false,
    if_false, List.reverse_append, List.reverse_cons, List.append_assoc, List.singleton_append,
    reversed, List.cons_append, List.dropWhile_cons, notSep, decide_False, Bool.false_eq_true]
  rw [← List.cons_append, ← reversed, List.takeWhile_append_of_pos kept]
  simp

theorem rootedPath_parses (elems : List String)
    (parses : ∀ e ∈ elems, (filepathMatch e.data []).isSome) :
    (filepathMatch (rootedPath elems).data []).isSome := by
  have sepParsed : ∀ es : List String, (∀ e ∈ es, (filepathMatch e.data []).isSome) →
      ∃ u, ∀ k, parseTerms ((es.flatMap fun e => '/' :: e.data).length + k)
        (es.flatMap fun e => '/' :: e.data) = some u := by
    intro es
    induction es with
    | nil => exact fun _ => ⟨[], fun k => by simp [parseTerms]⟩
    | cons e es ih =>
      intro parsesAll
      obtain ⟨u, rest⟩ := ih fun e' member => parsesAll e' (.tail _ member)
      obtain ⟨t, parsed⟩ := Option.isSome_iff_exists.mp (parsesAll e (.head _))
      simp only [filepathMatch, Option.map_eq_some'] at parsed
      obtain ⟨terms, parsed, -⟩ := parsed
      have head : parseTerms (e.data.length + 1) ('/' :: e.data) = some (.rune '/' :: terms) := by
        rw [parseTerms.eq_9 _ _ _ (by decide) (by decide) (fun h => absurd h (by decide))
          (fun _ _ h => absurd h (by decide)) (by decide), parsed]
        rfl
      refine ⟨.rune '/' :: terms ++ u, fun k => ?_⟩
      have appended := parseTerms_append rest _ head k
      simp only [List.flatMap_cons, List.length_append, List.length_cons] at appended ⊢
      rwa [show e.data.length + 1 + (es.flatMap fun e => '/' :: e.data).length + k =
        e.data.length + 1 + (List.flatMap es fun e => '/' :: e.data).length + k from rfl]
  by_cases empty : elems = []
  · subst empty; decide
  obtain ⟨u, parsed⟩ := sepParsed elems parses
  have whole := parsed 0
  rw [Nat.add_zero] at whole
  simp only [filepathMatch, rootedPath, empty, if_false, Option.isSome_map', whole,
    Option.isSome_some]

/-- A pattern element that `Glob` handles as written: a valid name that `filepath.Match`
accepts. -/
def ValidElement (elem : String) : Prop :=
  ValidName elem ∧ (filepathMatch elem.data []).isSome

instance (elem : String) : Decidable (ValidElement elem) := inferInstanceAs (Decidable (_ ∧ _))

theorem elementsMatch_length {patterns names : List (List Char)}
    (matched : elementsMatch patterns names = true) : patterns.length = names.length := by
  induction patterns generalizing names with
  | nil => cases names <;> simp_all [elementsMatch]
  | cons p ps ih =>
    cases names with
    | nil => simp [elementsMatch] at matched
    | cons n ns =>
      simp only [elementsMatch, Bool.and_eq_true] at matched
      simp [ih matched.2]

theorem rootedPath_inj {xs ys : List String} (nonemptyX : xs ≠ []) (nonemptyY : ys ≠ [])
    (noSepX : ∀ e ∈ xs, '/' ∉ e.data) (noSepY : ∀ e ∈ ys, '/' ∉ e.data)
    (same : rootedPath xs = rootedPath ys) : xs = ys := by
  have splits := congrArg (fun path : String => path.data.splitOn '/') same
  simp only [rootedPath_splitOn nonemptyX noSepX, rootedPath_splitOn nonemptyY noSepY,
    List.cons.injEq, true_and] at splits
  exact List.map_injective_iff.mpr (fun _ _ => String.ext) splits

/-- The order in which `Glob` lists paths: element by element, each element byte by byte. It is
not the byte order of the whole paths: `/a/y` comes before `/a-b/x`, though `-` is below `/`. -/
def elementsLt (p q : String) : Prop :=
  List.Lex (· < ·) (p.data.splitOn '/') (q.data.splitOn '/')

instance (p q : String) : Decidable (elementsLt p q) :=
  inferInstanceAs (Decidable (List.Lex _ _ _))

example : elementsLt "/a/y" "/a-b/x" ∧ ¬ byteLe "/a/y" "/a-b/x" := by decide

theorem elementsLt_rootedPath {xs ys : List String} (nonemptyX : xs ≠ []) (nonemptyY : ys ≠ [])
    (noSepX : ∀ e ∈ xs, '/' ∉ e.data) (noSepY : ∀ e ∈ ys, '/' ∉ e.data)
    (before : List.Lex (· < ·) (xs.map String.data) (ys.map String.data)) :
    elementsLt (rootedPath xs) (rootedPath ys) := by
  rw [elementsLt, rootedPath_splitOn nonemptyX noSepX, rootedPath_splitOn nonemptyY noSepY]
  exact .cons before

theorem exists_literal_prefix {elems : List String} (magic : elems.any hasMeta = true) :
    ∃ first rest, elems.dropWhile (!hasMeta ·) = first :: rest ∧
      elems = elems.takeWhile (!hasMeta ·) ++ first :: rest ∧
      (elems.takeWhile (!hasMeta ·)).any hasMeta = false ∧ hasMeta first = true := by
  have remaining : elems.dropWhile (!hasMeta ·) ≠ [] := fun dropped => by
    obtain ⟨e, member, hasIt⟩ := List.any_eq_true.mp magic
    simpa [hasIt] using List.dropWhile_eq_nil_iff.mp dropped e member
  obtain ⟨first, rest, dropped⟩ := List.exists_cons_of_ne_nil remaining
  refine ⟨first, rest, dropped, ?_, ?_, ?_⟩
  · rw [← dropped, List.takeWhile_append_dropWhile]
  · exact List.any_eq_false.mpr fun e member => by simpa using List.mem_takeWhile_imp member
  · simpa [dropped] using List.head_dropWhile_not (!hasMeta ·) elems remaining

theorem literal_of_not_hasMeta {elem : String} (literal : hasMeta elem = false)
    (noSep : '/' ∉ elem.data) : Literal elem.data := fun c member => by
  have notMagic := List.any_eq_false.mp literal c member
  simp only [Bool.or_eq_true, decide_eq_true_eq, not_or] at notMagic
  exact ⟨notMagic.1.1.1, notMagic.1.1.2, notMagic.1.2, notMagic.2,
    fun same => noSep (same ▸ member)⟩

theorem validElement_of_literal {elem : String} (validName : ValidName elem)
    (literal : hasMeta elem = false) : ValidElement elem :=
  ⟨validName, by
    rw [filepathMatch_literal _ [] (literal_of_not_hasMeta literal validName.2.2.2)]
    rfl⟩

theorem elementsMatch_literals_append (literals : List (List Char))
    (literal : ∀ l ∈ literals, Literal l) (xs ys : List (List Char)) :
    elementsMatch (literals ++ xs) (literals ++ ys) = elementsMatch xs ys := by
  induction literals with
  | nil => rfl
  | cons l literals ih =>
    simp [elementsMatch, filepathMatch_literal l l (literal l (.head _)),
      ih fun l' member => literal l' (.tail _ member)]

theorem globMatches_literals_append {lits xs ys : List String} (literal : lits.any hasMeta = false)
    (noSep : ∀ e ∈ lits ++ xs ++ ys, '/' ∉ e.data) (nonemptyX : lits ++ xs ≠ [])
    (nonemptyY : lits ++ ys ≠ []) :
    globMatches (rootedPath (lits ++ xs)) (rootedPath (lits ++ ys)) =
      elementsMatch (xs.map String.data) (ys.map String.data) := by
  have literals : ∀ l ∈ lits.map String.data, Literal l := fun l member => by
    obtain ⟨e, elem, rfl⟩ := List.mem_map.mp member
    exact literal_of_not_hasMeta (by simpa using List.any_eq_false.mp literal e elem)
      (noSep e (by simp [elem]))
  unfold globMatches
  rw [rootedPath_splitOn nonemptyX fun e member => noSep e (List.mem_append_left _ member),
    rootedPath_splitOn nonemptyY fun e member => noSep e (by
      rcases List.mem_append.mp member with member | member <;> simp [member])]
  simp only [List.map_append, elementsMatch, elementsMatch_literals_append _ literals]
  rfl

namespace Fs

variable (fs : Fs)

/-! ## The loops

A pattern that parses matches or not every name, so the loops never stop early; a malformed one
stops them at the first name, before anything is added. -/

/-- The names of `dir` that `pattern` matches, in `sort.Strings` order. -/
def matchingNames (dir pattern : String) : List String :=
  (sortStrings ((fs.readDirNames dir).getD [])).filter fun name =>
    filepathMatch pattern.data name.data = some true

theorem glob_loop_of_parses {dir pattern : String} (parses : (filepathMatch pattern.data []).isSome)
    (names found : List String) :
    glob.loop dir pattern names found =
      (found ++ (names.filter fun name => filepathMatch pattern.data name.data = some true).map
        fun name => join [dir, name], false) := by
  induction names generalizing found with
  | nil => simp [glob.loop]
  | cons name names ih =>
    have matched : (filepathMatch pattern.data name.data).isSome := by
      simpa [filepathMatch] using parses
    obtain ⟨result, answer⟩ := Option.isSome_iff_exists.mp matched
    cases result <;> simp [glob.loop, answer, ih]

theorem glob_loop_of_malformed {dir pattern : String}
    (malformed : filepathMatch pattern.data [] = none)
    (names found : List String) :
    glob.loop dir pattern names found = (found, !names.isEmpty) := by
  cases names with
  | nil => rfl
  | cons name names =>
    have refused : filepathMatch pattern.data name.data = none := by
      simpa [filepathMatch] using malformed
    simp [glob.loop, refused]

theorem glob_of_parses {pattern : String} (parses : (filepathMatch pattern.data []).isSome)
    (dir : String) (found : List String) :
    fs.glob dir pattern found =
      (found ++ (fs.matchingNames dir pattern).map fun name => join [dir, name], false) := by
  unfold glob matchingNames
  cases fs.readDirNames dir <;> simp [glob_loop_of_parses parses, sortStrings]

theorem glob_of_malformed {pattern : String} (malformed : filepathMatch pattern.data [] = none)
    (dir : String) (found : List String) : (fs.glob dir pattern found).1 = found := by
  unfold glob
  cases fs.readDirNames dir <;> simp [glob_loop_of_malformed malformed]

theorem globWithLimit_loop_of_parses {file : String} (parses : (filepathMatch file.data []).isSome)
    (dirs found : List String) :
    globWithLimit.loop fs file dirs found =
      (found ++ dirs.flatMap fun dir =>
        (fs.matchingNames dir file).map fun name => join [dir, name], false) := by
  induction dirs generalizing found with
  | nil => simp [globWithLimit.loop]
  | cons dir dirs ih => simp [globWithLimit.loop, glob_of_parses fs parses, ih]

theorem globWithLimit_loop_of_malformed {file : String}
    (malformed : filepathMatch file.data [] = none)
    (dirs found : List String) : (globWithLimit.loop fs file dirs found).1 = found := by
  induction dirs generalizing found with
  | nil => rfl
  | cons dir dirs ih =>
    have unchanged := glob_of_malformed fs malformed dir found
    simp only [globWithLimit.loop]
    split <;> simp_all

theorem glob_flag_or_unchanged (dir file : String) (found : List String) :
    (fs.glob dir file found).2 = false ∨ (fs.glob dir file found).1 = found := by
  cases parse : filepathMatch file.data [] with
  | none => exact .inr (glob_of_malformed fs parse dir found)
  | some _ =>
    exact .inl (by
      simp [glob_of_parses fs (show (filepathMatch file.data []).isSome by simp [parse])])

theorem globWithLimit_loop_flag_or_unchanged (file : String) (dirs found : List String) :
    (globWithLimit.loop fs file dirs found).2 = false ∨
      (globWithLimit.loop fs file dirs found).1 = found := by
  cases parse : filepathMatch file.data [] with
  | none => exact .inr (globWithLimit_loop_of_malformed fs parse dirs found)
  | some _ =>
    exact .inl (by
      simp [globWithLimit_loop_of_parses fs
        (show (filepathMatch file.data []).isSome by simp [parse])])

theorem globWithLimit_flag_or_empty (remaining : Nat) (pattern : String) :
    (fs.globWithLimit remaining pattern).2 = false ∨
      (fs.globWithLimit remaining pattern).1 = [] := by
  cases remaining with
  | zero => exact .inr rfl
  | succ remaining =>
    simp only [globWithLimit]
    split_ifs
    · exact .inr rfl
    · exact .inl rfl
    · exact .inl rfl
    · exact glob_flag_or_unchanged fs _ _ []
    · exact .inr rfl
    · split
      · exact .inr rfl
      · exact globWithLimit_loop_flag_or_unchanged fs _ _ []

/-- `filepath.Glob` never returns a match beside its error: whatever the pattern and the file
system, `ErrBadPattern` comes with no matches. -/
theorem filepathGlob_badPattern_no_matches (pattern : String)
    (failed : (fs.filepathGlob pattern).2 = true) : (fs.filepathGlob pattern).1 = [] :=
  (globWithLimit_flag_or_empty fs _ pattern).resolve_left (by simp [filepathGlob, ← failed])

theorem filepathGlob_badPattern_sample :
    (sampleFs.filepathGlob "/sys/block/dm-[").2 = true ∧
      (sampleFs.filepathGlob "/sys/block/dm-[").1 = [] :=
  ⟨by decide, filepathGlob_badPattern_no_matches sampleFs _ (by decide)⟩

/-! ## What `Glob` is for

On a rooted pattern of valid elements, `Glob` lists the pattern itself when no element has a
metacharacter and `os.Lstat` finds it. Otherwise it lists the paths reached one level at a time
from the directory of the elements before the first with a metacharacter: at each level, the
names of the directory that the level's element matches, in `sort.Strings` order. -/

/-- The element lists the elements `elems` reach from the directory `dir`, level by level. -/
def walk (dir : List String) : List String → List (List String)
  | [] => [dir]
  | elem :: elems =>
    (fs.matchingNames (rootedPath dir) elem).flatMap fun name => walk (dir ++ [name]) elems

/-- What `filepath.Glob` lists for the rooted pattern of the elements `elems`. -/
def globElems (elems : List String) : List String :=
  if elems.any hasMeta then
    (fs.walk (elems.takeWhile (!hasMeta ·)) (elems.dropWhile (!hasMeta ·))).map rootedPath
  else if fs.lstat (rootedPath elems) then [rootedPath elems] else []

/-- Each of `names` is listed in the directory of `dir` and the names before it. -/
def Listed : List String → List String → Prop
  | _, [] => True
  | dir, name :: names =>
    (∃ listing, fs.readDirNames (rootedPath dir) = some listing ∧ name ∈ listing) ∧
      Listed (dir ++ [name]) names

theorem mem_matchingNames {dir pattern name : String} :
    name ∈ fs.matchingNames dir pattern ↔
      (∃ listing, fs.readDirNames dir = some listing ∧ name ∈ listing) ∧
        filepathMatch pattern.data name.data = some true := by
  unfold matchingNames sortStrings
  cases fs.readDirNames dir <;> simp [(List.perm_insertionSort _ _).mem_iff]

theorem matchingNames_sorted (dir pattern : String) :
    (fs.matchingNames dir pattern).Sorted byteLe :=
  (List.sorted_insertionSort _ _).filter _

theorem matchingNames_nodup (dir pattern : String) : (fs.matchingNames dir pattern).Nodup := by
  unfold matchingNames sortStrings
  cases listing : fs.readDirNames dir with
  | none => simp
  | some names =>
    exact ((List.perm_insertionSort _ _).nodup_iff.mpr (fs.names_nodup dir names listing)).filter _

theorem matchingNames_literal (dir lit : String) (literal : Literal lit.data) :
    fs.matchingNames dir lit = if lit ∈ (fs.readDirNames dir).getD [] then [lit] else [] := by
  have members (name : String) :
      name ∈ fs.matchingNames dir lit ↔
        name = lit ∧ lit ∈ (fs.readDirNames dir).getD [] := by
    rw [fs.mem_matchingNames, filepathMatch_literal _ _ literal]
    cases fs.readDirNames dir with
    | none => simp
    | some names =>
      simpa [← String.ext_iff] using and_comm.trans (and_congr_right (· ▸ Iff.rfl))
  split_ifs with listed
  · refine List.perm_singleton.mp ((List.perm_ext_iff_of_nodup (fs.matchingNames_nodup dir lit)
      (List.nodup_singleton lit)).mpr fun name => ?_)
    simp [members, listed]
  · exact List.eq_nil_iff_forall_not_mem.mpr fun name member => listed ((members name).mp member).2

theorem Listed.valid {dir names : List String} (listed : fs.Listed dir names) :
    ∀ name ∈ names, ValidName name := by
  induction names generalizing dir with
  | nil => simp
  | cons name names ih =>
    obtain ⟨⟨listing, found, member⟩, rest⟩ := listed
    simpa using ⟨fs.names_valid _ listing found name member, ih rest⟩

theorem mem_walk (dir elems path : List String) :
    path ∈ fs.walk dir elems ↔ ∃ names, path = dir ++ names ∧ fs.Listed dir names ∧
      elementsMatch (elems.map String.data) (names.map String.data) = true := by
  induction elems generalizing dir with
  | nil =>
    simp only [walk, List.mem_singleton, List.map_nil]
    constructor
    · rintro rfl
      exact ⟨[], by simp, trivial, rfl⟩
    · rintro ⟨_ | ⟨name, names⟩, rfl, -, matched⟩
      · simp
      · simp [elementsMatch] at matched
  | cons elem elems ih =>
    simp only [walk, List.mem_flatMap, ih, mem_matchingNames]
    constructor
    · rintro ⟨name, ⟨listed, matched⟩, names, rfl, rest, matchedRest⟩
      exact ⟨name :: names, by simp, ⟨listed, rest⟩,
        by simp [elementsMatch, matched, matchedRest]⟩
    · rintro ⟨_ | ⟨name, names⟩, rfl, listedAll, matchedAll⟩
      · simp [elementsMatch] at matchedAll
      · simp only [List.map_cons, elementsMatch, Bool.and_eq_true, beq_iff_eq] at matchedAll
        exact ⟨name, ⟨listedAll.1, matchedAll.1⟩, names, by simp, listedAll.2, matchedAll.2⟩

theorem mem_walk_valid {dir elems path : List String} (member : path ∈ fs.walk dir elems) :
    ∃ names, path = dir ++ names ∧ names.length = elems.length ∧
      ∀ name ∈ names, ValidName name := by
  obtain ⟨names, rfl, listed, matched⟩ := (fs.mem_walk dir elems path).mp member
  exact ⟨names, rfl, by simpa using (elementsMatch_length matched).symm, Listed.valid fs listed⟩

theorem walk_rooted {dir elems path : List String} (validDir : ∀ e ∈ dir, ValidName e)
    (nonempty : elems ≠ []) (reached : path ∈ fs.walk dir elems) :
    path ≠ [] ∧ ∀ e ∈ path, '/' ∉ e.data := by
  obtain ⟨names, rfl, length, validNames⟩ := fs.mem_walk_valid reached
  refine ⟨List.append_ne_nil_of_right_ne_nil _ fun empty => nonempty ?_, ?_⟩
  · simpa [empty] using length.symm
  · simpa [or_imp, forall_and] using
      ⟨fun e member => (validDir e member).2.2.2, fun e member => (validNames e member).2.2.2⟩

theorem walk_append (dir elems : List String) (elem : String) :
    fs.walk dir (elems ++ [elem]) = (fs.walk dir elems).flatMap fun path =>
      (fs.matchingNames (rootedPath path) elem).map (path ++ [·]) := by
  induction elems generalizing dir with
  | nil => simp [walk, List.map_eq_flatMap]
  | cons e es ih => simp [walk, ih, List.flatMap_assoc]

theorem walk_nodup (dir elems : List String) : (fs.walk dir elems).Nodup := by
  induction elems generalizing dir with
  | nil => exact List.nodup_singleton dir
  | cons elem elems ih =>
    refine List.nodup_flatMap.mpr ⟨fun name _ => ih _, (fs.matchingNames_nodup _ _).imp ?_⟩
    intro name other differ path reached reachedOther
    obtain ⟨names, rfl, -⟩ := fs.mem_walk_valid reached
    obtain ⟨others, same, -⟩ := fs.mem_walk_valid reachedOther
    simp only [List.append_assoc, List.singleton_append, List.append_cancel_left_eq,
      List.cons.injEq] at same
    exact differ same.1

theorem matchingNames_lt (dir pattern : String) :
    (fs.matchingNames dir pattern).Pairwise fun a b => a.data < b.data :=
  ((fs.matchingNames_sorted dir pattern).and (fs.matchingNames_nodup dir pattern)).imp
    fun ⟨le, ne⟩ => lt_of_le_of_ne le fun same => ne (String.ext same)

theorem walk_lex (dir elems : List String) :
    (fs.walk dir elems).Pairwise fun a b =>
      List.Lex (· < ·) (a.map String.data) (b.map String.data) := by
  induction elems generalizing dir with
  | nil => exact List.pairwise_singleton _ dir
  | cons elem elems ih =>
    refine List.pairwise_flatMap.mpr ⟨fun name _ => ih _, (fs.matchingNames_lt _ _).imp ?_⟩
    intro name other before path reached path' reached'
    obtain ⟨names, rfl, -⟩ := fs.mem_walk_valid reached
    obtain ⟨others, rfl, -⟩ := fs.mem_walk_valid reached'
    simpa using List.Lex.append_left _ (List.Lex.rel before) (dir.map String.data)

/-! ## `Glob` on a rooted pattern

One lemma per level of `globWithLimit`: a last element after literal elements is matched against
the listing of their directory; one after a metacharacter is matched in each directory the rest
of the pattern reached. By induction over the elements, `Glob` computes `globElems`. -/

section Levels

variable {elems : List String} {elem : String}

theorem filepathMatch_rootedPath_isNone (valid : ∀ e ∈ elems, ValidElement e) :
    (filepathMatch (rootedPath elems).data []).isNone = false := by
  have parsed := rootedPath_parses elems fun e member => (valid e member).2
  revert parsed
  cases filepathMatch (rootedPath elems).data [] <;> simp

theorem globWithLimit_literal (valid : ∀ e ∈ elems, ValidElement e)
    (literal : elems.any hasMeta = false) (remaining : Nat) :
    fs.globWithLimit (remaining + 1) (rootedPath elems) =
      (if fs.lstat (rootedPath elems) then [rootedPath elems] else [], false) := by
  simp [globWithLimit, filepathMatch_rootedPath_isNone valid, literal]

theorem globWithLimit_after_literal (valid : ∀ e ∈ elems ++ [elem], ValidElement e)
    (literal : elems.any hasMeta = false) (magic : hasMeta elem = true) (remaining : Nat) :
    fs.globWithLimit (remaining + 1) (rootedPath (elems ++ [elem])) =
      fs.glob (rootedPath elems) elem [] := by
  obtain ⟨dir, file⟩ := split_rootedPath_append elems elem (valid elem (by simp)).1.2.2.2
  simp [globWithLimit, filepathMatch_rootedPath_isNone valid, literal, magic, dir, file]

theorem globWithLimit_after_magic (valid : ∀ e ∈ elems ++ [elem], ValidElement e)
    (magic : elems.any hasMeta = true) {remaining : Nat} {dirs : List String}
    (reached : fs.globWithLimit remaining (rootedPath elems) = (dirs, false)) :
    fs.globWithLimit (remaining + 1) (rootedPath (elems ++ [elem])) =
      globWithLimit.loop fs elem dirs [] := by
  obtain ⟨dir, file⟩ := split_rootedPath_append elems elem (valid elem (by simp)).1.2.2.2
  have other := rootedPath_ne_append elems elem (valid elem (by simp)).1.1
  simp [globWithLimit, filepathMatch_rootedPath_isNone valid, magic, dir, file, other, reached]

end Levels

/-- From the level of the first element with a metacharacter down, `globWithLimit` lists what
the walk from the literal elements before it reaches, with no error, while levels remain. -/
theorem globWithLimit_walk (lits : List String) (first : String) (rest : List String)
    (literal : lits.any hasMeta = false) (magic : hasMeta first = true)
    (valid : ∀ e ∈ lits ++ first :: rest, ValidElement e) (remaining : Nat)
    (deep : rest.length < remaining) :
    fs.globWithLimit remaining (rootedPath (lits ++ first :: rest)) =
      ((fs.walk lits (first :: rest)).map rootedPath, false) := by
  obtain ⟨remaining, rfl⟩ : ∃ r, remaining = r + 1 := ⟨remaining - 1, by omega⟩
  induction rest using List.reverseRecOn generalizing remaining with
  | nil =>
    rw [globWithLimit_after_literal fs valid literal magic,
      glob_of_parses fs (valid first (by simp)).2]
    have validLits : ∀ e ∈ lits, ValidName e := fun e member => (valid e (by simp [member])).1
    simp only [walk, ← List.map_eq_flatMap, List.nil_append, List.map_map, Prod.mk.injEq,
      and_true]
    refine List.map_congr_left fun name member => ?_
    obtain ⟨⟨_, found, listed⟩, -⟩ := fs.mem_matchingNames.mp member
    exact join_rootedPath lits name validLits (fs.names_valid _ _ found name listed)
  | append_singleton rest elem ih =>
    have split : lits ++ first :: (rest ++ [elem]) = (lits ++ first :: rest) ++ [elem] := by simp
    rw [split] at valid ⊢
    have validRest : ∀ e ∈ lits ++ first :: rest, ValidElement e :=
      fun e member => valid e (List.mem_append_left _ member)
    cases remaining with
    | zero => simp at deep
    | succ remaining =>
      have magicDir : (lits ++ first :: rest).any hasMeta = true := by simp [magic]
      rw [globWithLimit_after_magic fs valid magicDir
          (ih validRest remaining (by simp at deep ⊢; omega)),
        globWithLimit_loop_of_parses fs (valid elem (by simp)).2,
        show first :: (rest ++ [elem]) = (first :: rest) ++ [elem] from rfl, walk_append]
      simp only [List.nil_append, List.flatMap_map, List.map_flatMap, List.map_map, Prod.mk.injEq,
        and_true]
      refine List.flatMap_congr fun path reached => List.map_congr_left fun name member => ?_
      obtain ⟨names, rfl, -, validNames⟩ := fs.mem_walk_valid reached
      have validLits : ∀ e ∈ lits, ValidName e :=
        fun e member => (validRest e (by simp [member])).1
      obtain ⟨⟨listing, found, listed⟩, -⟩ := fs.mem_matchingNames.mp member
      exact join_rootedPath _ name (by simpa [or_imp, forall_and] using ⟨validLits, validNames⟩)
        (fs.names_valid _ _ found name listed)

section Rooted

variable {lits : List String} {first : String} {rest : List String}

theorem filepathGlob_walk (literal : lits.any hasMeta = false) (magic : hasMeta first = true)
    (valid : ∀ e ∈ lits ++ first :: rest, ValidElement e)
    (short : (lits ++ first :: rest).length ≤ pathSeparatorsLimit) :
    fs.filepathGlob (rootedPath (lits ++ first :: rest)) =
      ((fs.walk lits (first :: rest)).map rootedPath, false) :=
  globWithLimit_walk fs lits first rest literal magic valid _ (by simp at short; omega)

theorem mem_walk_rootedPath (literal : lits.any hasMeta = false)
    (valid : ∀ e ∈ lits ++ first :: rest, ValidElement e) (path : String) :
    path ∈ (fs.walk lits (first :: rest)).map rootedPath ↔
      ∃ names, names.length = rest.length + 1 ∧ path = rootedPath (lits ++ names) ∧
        fs.Listed lits names ∧ globMatches (rootedPath (lits ++ first :: rest)) path = true := by
  have matched (names : List String) (listed : fs.Listed lits names)
      (length : names.length = rest.length + 1) :
      globMatches (rootedPath (lits ++ first :: rest)) (rootedPath (lits ++ names)) =
        elementsMatch ((first :: rest).map String.data) (names.map String.data) := by
    refine globMatches_literals_append literal (fun e member => ?_) (by simp) ?_
    · simp only [List.mem_append] at member
      rcases member with (member | member) | member
      · exact (valid e (by simp [member])).1.2.2.2
      · exact (valid e (by simp [member])).1.2.2.2
      · exact (Listed.valid fs listed e member).2.2.2
    · obtain ⟨name, names, rfl⟩ := List.exists_cons_of_ne_nil
        (List.ne_nil_of_length_eq_add_one length)
      simp
  simp only [List.mem_map, mem_walk]
  constructor
  · rintro ⟨_, ⟨names, rfl, listed, matchedAll⟩, rfl⟩
    have length : names.length = rest.length + 1 := by
      simpa using (elementsMatch_length matchedAll).symm
    exact ⟨names, length, rfl, listed, by rw [matched names listed length]; exact matchedAll⟩
  · rintro ⟨names, length, rfl, listed, matchedAll⟩
    exact ⟨_, ⟨names, rfl, listed, by rwa [matched names listed length] at matchedAll⟩, rfl⟩

theorem filepathGlob_after_literal (literal : lits.any hasMeta = false)
    (magic : hasMeta first = true) (valid : ∀ e ∈ lits ++ [first], ValidElement e)
    (short : lits.length < pathSeparatorsLimit) :
    fs.filepathGlob (rootedPath (lits ++ [first])) =
      ((fs.matchingNames (rootedPath lits) first).map fun name => rootedPath (lits ++ [name]),
        false) := by
  rw [filepathGlob_walk fs literal magic valid (by simpa using short)]
  simp [walk, ← List.map_eq_flatMap]

end Rooted

/-- `filepath.Glob` reports no error on a rooted pattern of valid elements that parse. -/
theorem filepathGlob_no_error {elems : List String} (valid : ∀ e ∈ elems, ValidElement e)
    (short : elems.length ≤ pathSeparatorsLimit) :
    (fs.filepathGlob (rootedPath elems)).2 = false := by
  by_cases magic : elems.any hasMeta
  · obtain ⟨first, rest, -, whole, literal, magicFirst⟩ := exists_literal_prefix magic
    rw [whole] at valid short ⊢
    rw [filepathGlob_walk fs literal magicFirst valid short]
  · rw [filepathGlob, show pathSeparatorsLimit = 9999 + 1 from rfl,
      globWithLimit_literal fs valid (by simpa using magic)]

/-- `filepath.Glob` on a rooted pattern whose elements are valid names that parse, no more of
them than `pathSeparatorsLimit`: no error, and the paths `globElems` says. -/
theorem filepathGlob_rootedPath (elems : List String) (valid : ∀ e ∈ elems, ValidElement e)
    (short : elems.length ≤ pathSeparatorsLimit) :
    fs.filepathGlob (rootedPath elems) = (fs.globElems elems, false) := by
  unfold globElems
  by_cases magic : elems.any hasMeta
  · obtain ⟨first, rest, dropped, whole, literal, magicFirst⟩ := exists_literal_prefix magic
    have lengths := congrArg List.length whole
    simp only [List.length_append, List.length_cons] at lengths
    have reached := globWithLimit_walk fs _ first rest literal magicFirst
      (fun e member => by rw [whole] at valid; exact valid e member) pathSeparatorsLimit (by omega)
    rw [← whole] at reached
    rw [if_pos magic, dropped]
    exact reached
  · rw [if_neg magic]
    exact globWithLimit_literal fs valid (by simpa using magic) _

theorem filepathGlob_rootedPath_slaves :
    (∀ e ∈ ["sys", "block", "dm-*", "slaves", "*"], ValidElement e) ∧
      ["sys", "block", "dm-*", "slaves", "*"].length ≤ pathSeparatorsLimit ∧
      sampleFs.filepathGlob (rootedPath ["sys", "block", "dm-*", "slaves", "*"]) =
        (sampleFs.globElems ["sys", "block", "dm-*", "slaves", "*"], false) ∧
      sampleFs.globElems ["sys", "block", "dm-*", "slaves", "*"] =
        ["/sys/block/dm-10/slaves/sda", "/sys/block/dm-10/slaves/sdb",
          "/sys/block/dm-2/slaves/sdb"] :=
  ⟨by decide, by decide, filepathGlob_rootedPath sampleFs _ (by decide) (by decide), by decide⟩

/-- The paths `filepath.Glob` lists for a rooted pattern with a metacharacter, its elements
valid names that parse: exactly the paths through its literal elements and as many more names as
its other elements, each name listed in the directory before it, that match the pattern element
by element. -/
theorem mem_filepathGlob_rootedPath (lits : List String) (first : String) (rest : List String)
    (literal : lits.any hasMeta = false) (magic : hasMeta first = true)
    (valid : ∀ e ∈ lits ++ first :: rest, ValidElement e)
    (short : (lits ++ first :: rest).length ≤ pathSeparatorsLimit) (path : String) :
    path ∈ (fs.filepathGlob (rootedPath (lits ++ first :: rest))).1 ↔
      ∃ names, names.length = rest.length + 1 ∧ path = rootedPath (lits ++ names) ∧
        fs.Listed lits names ∧ globMatches (rootedPath (lits ++ first :: rest)) path = true := by
  rw [filepathGlob_walk fs literal magic valid short]
  exact fs.mem_walk_rootedPath literal valid path

theorem mem_filepathGlob_rootedPath_sdb :
    (["sys", "block"].any hasMeta = false ∧ hasMeta "dm-*" = true ∧
      (∀ e ∈ ["sys", "block"] ++ ["dm-*", "slaves", "*"], ValidElement e) ∧
      (["sys", "block"] ++ ["dm-*", "slaves", "*"]).length ≤ pathSeparatorsLimit) ∧
    "/sys/block/dm-2/slaves/sdb" ∈
      (sampleFs.filepathGlob (rootedPath (["sys", "block"] ++ ["dm-*", "slaves", "*"]))).1 :=
  ⟨⟨by decide, by decide, by decide, by decide⟩,
    (mem_filepathGlob_rootedPath sampleFs ["sys", "block"] "dm-*" ["slaves", "*"] (by decide)
      (by decide) (by decide) (by decide) _).mpr
      ⟨["dm-2", "slaves", "sdb"], rfl, by decide,
        ⟨⟨_, rfl, by decide⟩, ⟨_, rfl, by decide⟩, ⟨_, rfl, by decide⟩, trivial⟩,
        by decide⟩⟩

/-- Every path `filepath.Glob` lists for a rooted pattern of valid elements that parse matches
the pattern element by element. -/
theorem globMatches_of_mem_filepathGlob {elems : List String}
    (valid : ∀ e ∈ elems, ValidElement e) (short : elems.length ≤ pathSeparatorsLimit)
    {path : String} (listed : path ∈ (fs.filepathGlob (rootedPath elems)).1) :
    globMatches (rootedPath elems) path = true := by
  by_cases magic : elems.any hasMeta
  · obtain ⟨first, rest, -, whole, literal, magicFirst⟩ := exists_literal_prefix magic
    rw [whole] at valid short listed ⊢
    rw [filepathGlob_walk fs literal magicFirst valid short] at listed
    obtain ⟨_, _, _, _, matched⟩ := (fs.mem_walk_rootedPath literal valid path).mp listed
    exact matched
  · rw [filepathGlob, show pathSeparatorsLimit = 9999 + 1 from rfl,
      globWithLimit_literal fs valid (by simpa using magic)] at listed
    have same : path = rootedPath elems := by
      split at listed <;> simp_all
    subst same
    by_cases empty : elems = []
    · subst empty; decide
    simpa using @globMatches_literals_append elems [] [] (by simpa using magic)
      (fun e member => (valid e (by simpa using member)).1.2.2.2) (by simpa using empty)
      (by simpa using empty)

/-- `filepath.Glob` lists each path once, on a rooted pattern of valid elements that parse. -/
theorem filepathGlob_rootedPath_nodup (elems : List String)
    (valid : ∀ e ∈ elems, ValidElement e) (short : elems.length ≤ pathSeparatorsLimit) :
    (fs.filepathGlob (rootedPath elems)).1.Nodup := by
  by_cases magic : elems.any hasMeta
  · obtain ⟨first, rest, -, whole, literal, magicFirst⟩ := exists_literal_prefix magic
    rw [whole] at valid short ⊢
    rw [filepathGlob_walk fs literal magicFirst valid short]
    have validLits : ∀ e ∈ elems.takeWhile (!hasMeta ·), ValidName e :=
      fun e member => (valid e (by simp [member])).1
    refine (fs.walk_nodup _ _).map_on fun p reached q reachedOther same => ?_
    obtain ⟨nonempty, noSep⟩ := fs.walk_rooted validLits (List.cons_ne_nil _ _) reached
    obtain ⟨nonemptyOther, noSepOther⟩ :=
      fs.walk_rooted validLits (List.cons_ne_nil _ _) reachedOther
    exact rootedPath_inj nonempty nonemptyOther noSep noSepOther same
  · rw [filepathGlob, show pathSeparatorsLimit = 9999 + 1 from rfl,
      globWithLimit_literal fs valid (by simpa using magic)]
    split <;> simp

/-- `filepath.Glob` lists its paths, on a rooted pattern of valid elements that parse, in the
order of their elements: the names of each level in `sort.Strings` order. -/
theorem filepathGlob_rootedPath_sorted (elems : List String)
    (valid : ∀ e ∈ elems, ValidElement e) (short : elems.length ≤ pathSeparatorsLimit) :
    (fs.filepathGlob (rootedPath elems)).1.Pairwise elementsLt := by
  by_cases magic : elems.any hasMeta
  · obtain ⟨first, rest, -, whole, literal, magicFirst⟩ := exists_literal_prefix magic
    rw [whole] at valid short ⊢
    rw [filepathGlob_walk fs literal magicFirst valid short, List.pairwise_map]
    have validLits : ∀ e ∈ elems.takeWhile (!hasMeta ·), ValidName e :=
      fun e member => (valid e (by simp [member])).1
    refine (fs.walk_lex _ _).imp_of_mem fun {p q} reached reachedOther before => ?_
    obtain ⟨nonempty, noSep⟩ := fs.walk_rooted validLits (List.cons_ne_nil _ _) reached
    obtain ⟨nonemptyOther, noSepOther⟩ :=
      fs.walk_rooted validLits (List.cons_ne_nil _ _) reachedOther
    exact elementsLt_rootedPath nonempty nonemptyOther noSep noSepOther before
  · rw [filepathGlob, show pathSeparatorsLimit = 9999 + 1 from rfl,
      globWithLimit_literal fs valid (by simpa using magic)]
    split <;> simp

theorem filepathGlob_rootedPath_nodup_byPath :
    (∀ e ∈ ["dev", "disk", "by-path", "ip*-iscsi-iqn.x-lun-1"], ValidElement e) ∧
      ["dev", "disk", "by-path", "ip*-iscsi-iqn.x-lun-1"].length ≤ pathSeparatorsLimit ∧
      (sampleFs.filepathGlob
        (rootedPath ["dev", "disk", "by-path", "ip*-iscsi-iqn.x-lun-1"])).1.Nodup :=
  ⟨by decide, by decide, filepathGlob_rootedPath_nodup sampleFs _ (by decide) (by decide)⟩

end Fs

end BlockCsi.Go
