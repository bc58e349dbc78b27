import BlockCsi.Go.Glob
import BlockCsi.Node.FlushConcurrency
import BlockCsi.Node.SessionHostProperties

/-!
# The driver on a file system

A host whose `filepath.Glob` is Go's, on a file system `Fs`. `Glob` never returns a match beside
its error, so the host's answer keeps all of Go's pair. The driver's patterns are rooted paths:
on such a host the target-name globs of `GetIscsiSessionHostsForArrayIQN` never fail, and of an
entry's sessions only the first in `Glob`'s order is read. `getMultipathDisk` resolves a slave to
the least `dm-*` entry, in byte order, that lists it, the entry the one glob of its `TODO` finds
first. The by-path glob lists the matching links of `/dev/disk/by-path` in order, or fails with
`ErrBadPattern` exactly when the IQN makes the link pattern malformed; `waitForPathToExist` then
reports `ErrNotExist`.
-/

set_option autoImplicit false

namespace BlockCsi.Node

open BlockCsi.Go

/-- `host` with Go's `filepath.Glob` on the file system `fs`: the matches, or `ErrBadPattern`. -/
def Host.withFs (host : Host) (fs : Fs) : Host :=
  { host with
    glob := fun pattern =>
      if (fs.filepathGlob pattern).2 then .error .badPattern else .ok (fs.filepathGlob pattern).1 }

section WithFs

variable (host : Host) (fs : Fs)

@[simp] theorem withFs_readlink : (host.withFs fs).readlink = host.readlink := rfl

@[simp] theorem withFs_readFile : (host.withFs fs).readFile = host.readFile := rfl

/-- The host's answer, as Go's pair, is `filepath.Glob`'s: no match is lost beside an error. -/
theorem goPair_withFs_glob (pattern : String) :
    goPair [] ((host.withFs fs).glob pattern) =
      ((fs.filepathGlob pattern).1,
        if (fs.filepathGlob pattern).2 then some .badPattern else none) := by
  have noMatch := fs.globWithLimit_flag_or_empty pathSeparatorsLimit pattern
  simp only [Host.withFs, Fs.filepathGlob] at noMatch ⊢
  rcases noMatch with ok | empty
  · simp [ok]
  · by_cases flag : (fs.globWithLimit pathSeparatorsLimit pattern).2 <;> simp [flag, empty]

theorem withFs_glob_ok {pattern : String} (noError : (fs.filepathGlob pattern).2 = false) :
    (host.withFs fs).glob pattern = .ok (fs.filepathGlob pattern).1 := by
  simp [Host.withFs, noError]

theorem withFs_glob_of_eq {pattern : String} {paths : List String}
    (globbed : fs.filepathGlob pattern = (paths, false)) :
    (host.withFs fs).glob pattern = .ok paths := by
  simp [Host.withFs, globbed]

end WithFs

/-! ## The names the driver builds

An entry `host` followed by a number `Atoi` accepts, and the printed LUN, hold no separator and no
metacharacter. -/

theorem digitsValue_digits {acc n : Nat} {digits : List Char}
    (valued : digitsValue acc digits = some n) : ∀ c ∈ digits, c.isDigit = true := by
  induction digits generalizing acc with
  | nil => simp
  | cons d ds ih =>
    simp only [digitsValue] at valued
    split_ifs at valued with digit
    simpa [digit] using ih valued

theorem literal_of_atoi {s : String} (ok : (atoi s).isSome) : Literal s.data := by
  unfold atoi at ok
  split at ok
  rename_i negative digits signed
  have allDigits : ∀ c ∈ digits, c.isDigit = true := by
    cases parsed : digitsValue 0 digits with
    | none => simp [parsed] at ok
    | some n => exact digitsValue_digits parsed
  have shape : s.data = digits ∨ s.data = '-' :: digits ∨ s.data = '+' :: digits := by
    split at signed <;> cases signed
    exacts [.inr (.inl ‹_›), .inr (.inr ‹_›), .inl rfl]
  have literal := literal_of_digits digits allDigits
  rcases shape with same | same | same <;> rw [same]
  · exact literal
  · exact (literal_append ['-'] digits).mpr ⟨by decide, literal⟩
  · exact (literal_append ['+'] digits).mpr ⟨by decide, literal⟩

theorem sep_not_mem_itoa (n : Int) : '/' ∉ (itoa n).data := by
  cases n with
  | ofNat m => exact not_mem_of_digits (itoa_natCast_digits m).2 '/' rfl
  | negSucc m =>
    have digits : ∀ c ∈ (toString (m + 1)).data, c.isDigit = true :=
      (itoa_natCast_digits (m + 1)).2
    show '/' ∉ ("-" ++ toString (m + 1)).data
    simpa using not_mem_of_digits digits '/' rfl

theorem validElement_host {number : String} (numbered : (atoi number).isSome) :
    ValidElement ("host" ++ number) := by
  have literal : Literal ("host" ++ number).data := by
    simpa using
      (literal_append "host".data number.data).mpr ⟨by decide, literal_of_atoi numbered⟩
  refine ⟨⟨?_, ?_, ?_, literal.sep_not_mem⟩, ?_⟩
  · simp
  · simp [List.append_eq_cons_iff]
  · simp [List.append_eq_cons_iff]
  · rw [filepathMatch_literal _ [] literal]
    rfl

/-! ## The target-name globs of `GetIscsiSessionHostsForArrayIQN` -/

theorem targetNamePattern_eq (hostName : String) :
    targetNamePattern hostName = rootedPath ["sys", "class", "iscsi_host", hostName, "device",
      "session*", "iscsi_session", "session*", "targetname"] := by
  apply String.ext
  simp [targetNamePattern, iscsiHostSysPath, rootedPath]

theorem validElements_targetName {hostName : String} (prefixed : hasPrefix hostName "host" = true)
    (numbered : (atoi (trimPrefix hostName "host")).isSome = true) :
    ∀ e ∈ ["sys", "class", "iscsi_host", hostName, "device", "session*", "iscsi_session",
      "session*", "targetname"], ValidElement e := by
  obtain ⟨number, rfl⟩ := hasPrefix_iff.mp prefixed
  rw [trimPrefix_append] at numbered
  simp only [List.mem_cons, List.mem_singleton, forall_eq_or_imp, forall_eq, List.not_mem_nil,
    false_imp_iff, implies_true, and_true]
  exact ⟨by decide, by decide, by decide, validElement_host numbered, by decide, by decide,
    by decide, by decide, by decide⟩

theorem withFs_glob_targetName (host : Host) (fs : Fs) {hostName : String}
    (prefixed : hasPrefix hostName "host" = true)
    (numbered : (atoi (trimPrefix hostName "host")).isSome = true) :
    (host.withFs fs).glob (targetNamePattern hostName) =
      .ok (fs.filepathGlob (targetNamePattern hostName)).1 := by
  rw [targetNamePattern_eq, withFs_glob_ok host fs (fs.filepathGlob_no_error
    (validElements_targetName prefixed numbered) (by simp [pathSeparatorsLimit]))]

/-- On a host whose `filepath.Glob` is Go's on a file system, the target-name glob of every entry
`host` followed by a number `Atoi` accepts succeeds: its elements are valid names that parse. So
the scan of `GetIscsiSessionHostsForArrayIQN` never ends early at a glob. -/
theorem targetGlobsSucceed_withFs (host : Host) (fs : Fs) (hostDirs : List String) :
    TargetGlobsSucceed (host.withFs fs) hostDirs := by
  intro hostName _ prefixed numbered
  rw [withFs_glob_targetName host fs prefixed numbered]
  rfl

/-- On a host whose `filepath.Glob` is Go's on a file system, `GetIscsiSessionHostsForArrayIQN`
reads, in listing order, one target-name file for each entry `host` followed by a number whose
glob lists any: the first in `Glob`'s order, which is the least in the order of the elements,
that of its least session. It reads no other file: the other sessions of an entry are never
looked at. -/
theorem getIscsiSessionHostsForArrayIQN_reads_first_session (host : Host) (fs : Fs)
    (arrayIqn : String) (hostDirs : List String)
    (listing : host.readDir iscsiHostSysPath = .ok hostDirs) :
    reads (getIscsiSessionHostsForArrayIQN (host.withFs fs) arrayIqn).effects =
        hostDirs.filterMap (fun hostName =>
          if hasPrefix hostName "host" = true ∧ (atoi (trimPrefix hostName "host")).isSome = true
          then (fs.filepathGlob (targetNamePattern hostName)).1.head? else none) ∧
      ∀ hostName, hasPrefix hostName "host" = true →
        (atoi (trimPrefix hostName "host")).isSome = true →
        ∀ path ∈ (fs.filepathGlob (targetNamePattern hostName)).1.head?,
          ∀ other ∈ (fs.filepathGlob (targetNamePattern hostName)).1, other ≠ path →
            elementsLt path other := by
  refine ⟨?_, fun hostName prefixed numbered path first other member differ => ?_⟩
  · rw [getIscsiSessionHostsForArrayIQN_reads (host.withFs fs) arrayIqn hostDirs listing
      fun hostName _ prefixed numbered => by
        rw [withFs_glob_targetName host fs prefixed numbered]; rfl]
    refine List.filterMap_congr fun hostName _ => ?_
    unfold firstTargetName
    split_ifs with entry
    · rw [withFs_glob_targetName host fs entry.1 entry.2]
      cases (fs.filepathGlob (targetNamePattern hostName)).1 <;> rfl
    · rfl
  · have sorted := fs.filepathGlob_rootedPath_sorted _ (validElements_targetName prefixed numbered)
      (by simp [pathSeparatorsLimit])
    rw [← targetNamePattern_eq] at sorted
    generalize (fs.filepathGlob (targetNamePattern hostName)).1 = paths at sorted first member
    cases paths with
    | nil => cases first
    | cons least others =>
      cases first
      exact List.rel_of_pairwise_cons sorted ((List.mem_cons.mp member).resolve_left differ)

/-- `host3` of the sample node and the target names of its sessions: the first in the order of
the elements, `session10`, is to `iqn.y`; `session9` is to `iqn.x`. -/
def twoSessionHost : Host :=
  { Host.empty with
    readDir := fun dirname =>
      if dirname = iscsiHostSysPath then .ok ["host3"] else .error .notExist
    readFile := fun filename =>
      if filename =
          "/sys/class/iscsi_host/host3/device/session10/iscsi_session/session10/targetname" then
        .ok "iqn.y\n"
      else if filename =
          "/sys/class/iscsi_host/host3/device/session9/iscsi_session/session9/targetname" then
        .ok "iqn.x\n"
      else .error .notExist }

/-- On the sample node the scan reads only the target name of `session10`, so `host3` is not
found attached to `iqn.x`, though its `session9` is. -/
theorem getIscsiSessionHostsForArrayIQN_reads_first_session_host3 :
    twoSessionHost.readDir iscsiHostSysPath = .ok ["host3"] ∧
      reads (getIscsiSessionHostsForArrayIQN (twoSessionHost.withFs sampleFs) "iqn.x").effects =
        ["/sys/class/iscsi_host/host3/device/session10/iscsi_session/session10/targetname"] ∧
      (getIscsiSessionHostsForArrayIQN (twoSessionHost.withFs sampleFs) "iqn.x").value.1 = [] :=
  ⟨rfl, (getIscsiSessionHostsForArrayIQN_reads_first_session twoSessionHost sampleFs "iqn.x"
    ["host3"] rfl).1.trans (by decide), by decide⟩

/-! ## The by-path glob of `GetMpathDevice`

The pattern is `/dev/disk/by-path/` and a name pattern. With an IQN free of separators it lists
the names of `/dev/disk/by-path` that the name pattern matches, in `sort.Strings` order, or fails
with `ErrBadPattern`, whatever the file system, when the name pattern is malformed. -/

/-- The name pattern of a LUN's by-path links: the last element of `byPathPattern`. -/
def byPathName (arrayIqn : String) (lunId : Int) : String :=
  "ip*-iscsi-" ++ arrayIqn ++ "-lun-" ++ itoa lunId

theorem byPathPattern_eq (arrayIqn : String) (lunId : Int) :
    byPathPattern arrayIqn lunId =
      rootedPath (["dev", "disk", "by-path"] ++ [byPathName arrayIqn lunId]) := by
  apply String.ext
  simp [byPathPattern, String.intercalate, String.intercalate.go, rootedPath, byPathName]

theorem byPathLink_eq (name : String) :
    rootedPath ["dev", "disk", "by-path", name] = "/dev/disk/by-path/" ++ name := by
  apply String.ext
  simp [rootedPath]

section ByPath

variable (fs : Fs) {arrayIqn : String} {lunId : Int}

theorem validName_byPathName (noSep : '/' ∉ arrayIqn.data) :
    ValidName (byPathName arrayIqn lunId) := by
  obtain ⟨rest, starts⟩ : ∃ rest, (byPathName arrayIqn lunId).data = 'i' :: 'p' :: rest :=
    ⟨_, rfl⟩
  refine ⟨by simp [starts], by simp [starts], by simp [starts], ?_⟩
  simp only [byPathName, String.data_append, List.mem_append, not_or]
  exact ⟨⟨⟨by decide, noSep⟩, by decide⟩, sep_not_mem_itoa lunId⟩

theorem validElements_byPath (noSep : '/' ∉ arrayIqn.data)
    (parses : (filepathMatch (byPathName arrayIqn lunId).data []).isSome) :
    ∀ e ∈ ["dev", "disk", "by-path"] ++ [byPathName arrayIqn lunId], ValidElement e := by
  simp only [List.cons_append, List.nil_append, List.mem_cons, forall_eq_or_imp,
    List.not_mem_nil, false_imp_iff, implies_true, and_true]
  exact ⟨by decide, by decide, by decide, validName_byPathName noSep, parses⟩

theorem filepathGlob_byPathPattern_of_parses (noSep : '/' ∉ arrayIqn.data)
    (parses : (filepathMatch (byPathName arrayIqn lunId).data []).isSome) :
    fs.filepathGlob (byPathPattern arrayIqn lunId) =
      ((fs.matchingNames "/dev/disk/by-path" (byPathName arrayIqn lunId)).map
        ("/dev/disk/by-path/" ++ ·), false) := by
  obtain ⟨rest, starts⟩ :
      ∃ rest, (byPathName arrayIqn lunId).data = 'i' :: 'p' :: '*' :: rest := ⟨_, rfl⟩
  have magic : hasMeta (byPathName arrayIqn lunId) = true := by simp [hasMeta, starts]
  rw [byPathPattern_eq,
    fs.filepathGlob_after_literal (by decide) magic (validElements_byPath noSep parses) (by decide)]
  simp [byPathLink_eq, show rootedPath ["dev", "disk", "by-path"] = "/dev/disk/by-path" by decide]

theorem filepathGlob_byPathPattern_of_malformed
    (malformed : filepathMatch (byPathName arrayIqn lunId).data [] = none) :
    fs.filepathGlob (byPathPattern arrayIqn lunId) = ([], true) := by
  have patternData : (byPathPattern arrayIqn lunId).data =
      "/dev/disk/by-path/".data ++ (byPathName arrayIqn lunId).data := by
    simp [byPathPattern, String.intercalate, String.intercalate.go, byPathName]
  have patternMalformed : filepathMatch (byPathPattern arrayIqn lunId).data [] = none := by
    simp only [filepathMatch, Option.map_eq_none'] at malformed ⊢
    rw [patternData, List.length_append, Nat.add_comm,
      parseTerms_runes_append _ _ (by decide) _, malformed]
    rfl
  rw [Fs.filepathGlob, show pathSeparatorsLimit = 9999 + 1 from rfl]
  simp [Fs.globWithLimit, patternMalformed]

end ByPath

/-- On every file system, the by-path glob of `GetMpathDevice` for an IQN free of separators
lists the names of `/dev/disk/by-path` that its name pattern matches, in `sort.Strings` order;
it fails with `ErrBadPattern`, and lists nothing, exactly when the name pattern is malformed. -/
theorem filepathGlob_byPathPattern (fs : Fs) (arrayIqn : String) (lunId : Int)
    (noSep : '/' ∉ arrayIqn.data) :
    fs.filepathGlob (byPathPattern arrayIqn lunId) =
      if (filepathMatch (byPathName arrayIqn lunId).data []).isSome then
        ((fs.matchingNames "/dev/disk/by-path" (byPathName arrayIqn lunId)).map
          ("/dev/disk/by-path/" ++ ·), false)
      else ([], true) := by
  split_ifs with parses
  · exact filepathGlob_byPathPattern_of_parses fs noSep parses
  · exact filepathGlob_byPathPattern_of_malformed fs (by simpa using parses)

/-- On the sample node, the by-path glob of LUN 1 lists its two links, in byte order. -/
theorem filepathGlob_byPathPattern_lun1 :
    '/' ∉ "iqn.x".data ∧
      sampleFs.filepathGlob (byPathPattern "iqn.x" 1) =
        (if (filepathMatch (byPathName "iqn.x" 1).data []).isSome then
          ((sampleFs.matchingNames "/dev/disk/by-path" (byPathName "iqn.x" 1)).map
            ("/dev/disk/by-path/" ++ ·), false)
        else ([], true)) ∧
      sampleFs.matchingNames "/dev/disk/by-path" (byPathName "iqn.x" 1) =
        ["ip-1.2.3.4:3260-iscsi-iqn.x-lun-1", "ip-1.2.3.5:3260-iscsi-iqn.x-lun-1"] :=
  ⟨by decide, filepathGlob_byPathPattern sampleFs "iqn.x" 1 (by decide), by decide⟩

/-- On every timeline of file systems, the by-path globs of `GetMpathDevice` for an IQN free of
separators list only links that match the pattern element by element. -/
theorem byPathGlobs_match_withFs (hosts : Nat → Host) (fss : Nat → Fs) (arrayIqn : String)
    (lunId : Int) (noSep : '/' ∉ arrayIqn.data) :
    ∀ j, ∀ link ∈ listed (fun j => (hosts j).withFs (fss j)) (byPathPattern arrayIqn lunId) j,
      globMatches (byPathPattern arrayIqn lunId) link = true := by
  intro j link member
  simp only [listed, goPair_withFs_glob] at member
  by_cases parses : (filepathMatch (byPathName arrayIqn lunId).data []).isSome
  · rw [byPathPattern_eq] at member ⊢
    exact (fss j).globMatches_of_mem_filepathGlob (validElements_byPath noSep parses)
      (by simp [pathSeparatorsLimit]) member
  · rw [filepathGlob_byPathPattern_of_malformed (fss j) (by simpa using parses)] at member
    cases member

/-- The by-path globs of the sample node match their pattern. -/
theorem byPathGlobs_match_withFs_sample :
    '/' ∉ "iqn.x".data ∧
      ∀ j, ∀ link ∈ listed (fun _ => sampleHost.withFs sampleFs) (byPathPattern "iqn.x" 1) j,
        globMatches (byPathPattern "iqn.x" 1) link = true :=
  ⟨by decide, byPathGlobs_match_withFs (fun _ => sampleHost) (fun _ => sampleFs) "iqn.x" 1
    (by decide)⟩

/-- On every timeline of file systems, when the IQN makes the by-path name pattern malformed, every
glob of `waitForPathToExist` fails with `ErrBadPattern`, which it discards: after `maxRetries`
globs and sleeps it reports `ErrNotExist`. -/
theorem waitForPathToExist_malformed_withFs (hosts : Nat → Host) (fss : Nat → Fs)
    (arrayIqn : String) (lunId : Int) (maxRetries intervalSeconds : Int)
    (malformed : filepathMatch (byPathName arrayIqn lunId).data [] = none)
    (positive : 0 < maxRetries) :
    waitForPathToExist (fun j => (hosts j).withFs (fss j)) (byPathPattern arrayIqn lunId)
        maxRetries intervalSeconds =
      ⟨([], false, some .notExist),
        retryEffects (byPathPattern arrayIqn lunId) intervalSeconds maxRetries.toNat⟩ := by
  have empty (j : Nat) :
      listed (fun j => (hosts j).withFs (fss j)) (byPathPattern arrayIqn lunId) j = [] := by
    simp [listed, goPair_withFs_glob, filepathGlob_byPathPattern_of_malformed (fss j) malformed]
  rw [waitForPathToExist, waitForPathToExist.loop_exhausted _ _ _ _ 0 none fun j _ => empty (0 + j)]
  simp [show maxRetries.toNat ≠ 0 by omega]

/-- On the sample node, an IQN with an unclosed `[` makes the one attempt report `ErrNotExist`. -/
theorem waitForPathToExist_malformed_withFs_sample :
    filepathMatch (byPathName "iqn.[x" 1).data [] = none ∧ (0 : Int) < 1 ∧
      waitForPathToExist (fun _ => sampleHost.withFs sampleFs) (byPathPattern "iqn.[x" 1) 1 1 =
        ⟨([], false, some .notExist),
          retryEffects (byPathPattern "iqn.[x" 1) 1 (1 : Int).toNat⟩ :=
  ⟨by decide, by decide,
    waitForPathToExist_malformed_withFs (fun _ => sampleHost) (fun _ => sampleFs) "iqn.[x" 1 1 1
      (by decide) (by decide)⟩

/-! ## `getMultipathDisk` on a file system

`/sys/block/dm-*` lists the `dm-*` entries of `/sys/block` in `sort.Strings` order, and the slaves
glob of an entry free of metacharacters lists its `slaves` directory. So a link to a slave
resolves to the first entry, in byte order, that lists the slave. -/

/-- The entries `dm-*` of `/sys/block` whose `slaves` directory lists `sdevice`, in
`sort.Strings` order. -/
def dmHolders (fs : Fs) (sdevice : String) : List String :=
  (fs.matchingNames "/sys/block" "dm-*").filter fun name =>
    sdevice ∈ (fs.readDirNames ("/sys/block/" ++ name ++ "/slaves")).getD []

theorem mem_matchingNames_star (fs : Fs) {dir name : String} :
    name ∈ fs.matchingNames dir "*" ↔ name ∈ (fs.readDirNames dir).getD [] := by
  rw [Fs.mem_matchingNames]
  cases listing : fs.readDirNames dir with
  | none => simp
  | some names =>
    simp only [Option.some.injEq, exists_eq_left', Option.getD_some, and_iff_left_iff_imp]
    intro member
    exact (filepathMatch_star_iff [] [] name.data (by decide) (by decide)).mpr
      ⟨name.data, (fs.names_valid dir names listing name member).2.2.2, by simp⟩

section Holders

variable (host : Host) (fs : Fs)

theorem rootedPath_dmDir (name : String) :
    rootedPath ["sys", "block", name] = "/sys/block/" ++ name := by
  apply String.ext
  simp [rootedPath]

theorem rootedPath_slavesDir (name : String) :
    rootedPath ["sys", "block", name, "slaves"] = "/sys/block/" ++ name ++ "/slaves" := by
  apply String.ext
  simp [rootedPath]

theorem withFs_glob_dm :
    (host.withFs fs).glob "/sys/block/dm-*" =
      .ok ((fs.matchingNames "/sys/block" "dm-*").map fun name =>
        rootedPath ["sys", "block", name]) := by
  rw [show "/sys/block/dm-*" = rootedPath (["sys", "block"] ++ ["dm-*"]) by decide,
    withFs_glob_of_eq host fs (fs.filepathGlob_after_literal (by decide) (by decide) (by decide)
      (by decide))]
  simp [show rootedPath ["sys", "block"] = "/sys/block" by decide]

variable {name : String} (validName : ValidName name) (plain : hasMeta name = false)

include validName plain in
theorem slavesOf_withFs :
    slavesOf (host.withFs fs) (rootedPath ["sys", "block", name]) =
      (fs.matchingNames ("/sys/block/" ++ name ++ "/slaves") "*").map fun slave =>
        rootedPath ["sys", "block", name, "slaves", slave] := by
  have valid : ∀ e ∈ ["sys", "block", name, "slaves"] ++ ["*"], ValidElement e := by
    simp only [List.cons_append, List.nil_append, List.mem_cons, forall_eq_or_imp,
      List.not_mem_nil, false_imp_iff, implies_true, and_true]
    exact ⟨by decide, by decide, validElement_of_literal validName plain, by decide, by decide⟩
  have joined : join [rootedPath ["sys", "block", name], "slaves", "*"] =
      rootedPath (["sys", "block", name, "slaves"] ++ ["*"]) :=
    join_rootedPath_append ["sys", "block", name] ["slaves", "*"] (by simp)
      fun e member => (valid e (by simpa using member)).1
  have literal : ["sys", "block", name, "slaves"].any hasMeta = false := by
    simp only [List.any_cons, List.any_nil, plain]
    decide
  simp only [slavesOf, joined, goPair_ok, rootedPath_slavesDir, withFs_glob_of_eq host fs
    (fs.filepathGlob_after_literal literal (by decide) valid (by simp [pathSeparatorsLimit]))]
  rfl

include validName plain in
/-- A `dm-*` entry free of metacharacters holds `sdevice` when its `slaves` directory lists it. -/
theorem holds_withFs (sdevice : String) :
    ((slavesOf (host.withFs fs) (rootedPath ["sys", "block", name])).any fun spath =>
        sdevice = base spath) =
      decide (sdevice ∈ (fs.readDirNames ("/sys/block/" ++ name ++ "/slaves")).getD []) := by
  rw [slavesOf_withFs host fs validName plain]
  apply Bool.eq_iff_iff.mpr
  simp only [List.any_map, List.any_eq_true, Function.comp_apply, decide_eq_true_eq]
  have based (slave : String)
      (listed : slave ∈ fs.matchingNames ("/sys/block/" ++ name ++ "/slaves") "*") :
      base (rootedPath ["sys", "block", name, "slaves", slave]) = slave := by
    obtain ⟨⟨names, found, member⟩, -⟩ := fs.mem_matchingNames.mp listed
    exact base_rootedPath ["sys", "block", name, "slaves"] slave (fs.names_valid _ _ found _ member)
  constructor
  · rintro ⟨slave, listed, rfl⟩
    rw [based slave listed]
    exact (mem_matchingNames_star fs).mp listed
  · intro listed
    have listed := (mem_matchingNames_star fs).mpr listed
    exact ⟨sdevice, listed, (based sdevice listed).symm⟩

end Holders

theorem getMultipathDisk_withFs (host : Host) (fs : Fs) {path devicePath : String}
    (plain : ∀ names, fs.readDirNames "/sys/block" = some names →
      ∀ name ∈ names, hasMeta name = false)
    (link : host.readlink path = .ok devicePath)
    (notDm : hasPrefix (base devicePath) "dm-" = false) :
    (getMultipathDisk (host.withFs fs) path).value =
      match dmHolders fs (base devicePath) with
      | name :: _ => ("/dev/" ++ name, none)
      | [] => ("", some (.multipleDeviceNotFound path devicePath)) := by
  have entry (name : String) (listed : name ∈ fs.matchingNames "/sys/block" "dm-*") :
      ValidName name ∧ hasMeta name = false := by
    obtain ⟨⟨names, found, member⟩, -⟩ := fs.mem_matchingNames.mp listed
    exact ⟨fs.names_valid _ _ found _ member, plain names found name member⟩
  have holder : holderOf (host.withFs fs) (base devicePath)
      ((fs.matchingNames "/sys/block" "dm-*").map fun name => rootedPath ["sys", "block", name]) =
      (dmHolders fs (base devicePath)).head?.map fun name => rootedPath ["sys", "block", name] := by
    simp only [holderOf, List.find?_map, dmHolders, ← List.filter_head?, List.filter_map,
      List.head?_map, Function.comp_def]
    rw [List.filter_congr fun name listed =>
      holds_withFs host fs (entry name listed).1 (entry name listed).2 (base devicePath)]
  rw [getMultipathDisk_value]
  simp only [withFs_readlink, link, notDm, Bool.false_eq_true, if_false, withFs_glob_dm, holder]
  cases holders : dmHolders fs (base devicePath) with
  | nil => rfl
  | cons name _ =>
    have validName :=
      (entry name (List.mem_of_mem_filter (holders ▸ List.mem_cons_self name _))).1
    have devPath : join ["/dev", name] = "/dev/" ++ name := by
      rw [show "/dev" = rootedPath ["dev"] by decide,
        join_rootedPath ["dev"] name (by decide) validName]
      apply String.ext
      simp [rootedPath]
    have based : base (rootedPath ["sys", "block", name]) = name :=
      base_rootedPath ["sys", "block"] name validName
    simp [based, devPath]

theorem dmHolders_sorted (fs : Fs) (sdevice : String) : (dmHolders fs sdevice).Sorted byteLe :=
  (fs.matchingNames_sorted _ _).filter _

/-- On a host whose `filepath.Glob` is Go's on a file system whose `/sys/block` names hold no
metacharacter, `getMultipathDisk` resolves a link to a slave to the least `dm-*` entry, in byte
order, whose `slaves` directory lists the slave; it fails with `MultipleDeviceNotFound` exactly
when no entry lists it. -/
theorem getMultipathDisk_least_holder (host : Host) (fs : Fs) {path devicePath : String}
    (plain : ∀ names, fs.readDirNames "/sys/block" = some names →
      ∀ name ∈ names, hasMeta name = false)
    (link : host.readlink path = .ok devicePath)
    (notDm : hasPrefix (base devicePath) "dm-" = false) :
    ((getMultipathDisk (host.withFs fs) path).value =
        ("", some (.multipleDeviceNotFound path devicePath)) ↔
          dmHolders fs (base devicePath) = []) ∧
      ∀ name, (getMultipathDisk (host.withFs fs) path).value = ("/dev/" ++ name, none) ↔
        name ∈ dmHolders fs (base devicePath) ∧
          ∀ other ∈ dmHolders fs (base devicePath), byteLe name other := by
  have sorted := dmHolders_sorted fs (base devicePath)
  rw [getMultipathDisk_withFs host fs plain link notDm]
  cases holders : dmHolders fs (base devicePath) with
  | nil => simp
  | cons least others =>
    rw [holders] at sorted
    have leastFirst : ∀ other ∈ least :: others, byteLe least other :=
      List.forall_mem_cons.mpr ⟨le_refl least.data, List.rel_of_sorted_cons sorted⟩
    refine ⟨by simp, fun name => ⟨fun named => ?_, fun ⟨member, below⟩ => ?_⟩⟩
    · obtain rfl : least = name := by simpa [String.ext_iff] using named
      exact ⟨List.mem_cons_self _ _, leastFirst⟩
    · have same : name = least :=
        String.ext (le_antisymm (below least (List.mem_cons_self _ _)) (leastFirst name member))
      simp [same]

theorem sampleFs_sysBlock_plain :
    ∀ names, sampleFs.readDirNames "/sys/block" = some names →
      ∀ name ∈ names, hasMeta name = false := by
  intro names listing
  obtain rfl : names = ["sdb", "dm-2", "sda", "dm-10"] := Option.some.inj (listing.symm.trans rfl)
  decide

/-- On the sample node, `sdb` is a slave of both `dm-2` and `dm-10`; the link to it resolves to
`/dev/dm-10`, the first in byte order. -/
theorem getMultipathDisk_least_holder_dm10 :
    (∀ names, sampleFs.readDirNames "/sys/block" = some names →
        ∀ name ∈ names, hasMeta name = false) ∧
      sampleHost.readlink "/dev/disk/by-path/ip-1.2.3.4:3260-iscsi-iqn.x-lun-1" =
        .ok "../../sdb" ∧
      hasPrefix (base "../../sdb") "dm-" = false ∧
      (getMultipathDisk (sampleHost.withFs sampleFs)
        "/dev/disk/by-path/ip-1.2.3.4:3260-iscsi-iqn.x-lun-1").value = ("/dev/dm-10", none) :=
  ⟨sampleFs_sysBlock_plain, rfl, by decide,
    ((@getMultipathDisk_least_holder sampleHost sampleFs
      "/dev/disk/by-path/ip-1.2.3.4:3260-iscsi-iqn.x-lun-1" "../../sdb" sampleFs_sysBlock_plain rfl
      (by decide)).2 "dm-10").mpr ⟨by decide, by decide⟩⟩

/-! ## The one glob of the `TODO` in `getMultipathDisk`

The source proposes to replace the loop by one glob, `/sys/block/dm-*/slaves/` and the slave's
name. On a file system where each `dm-*` entry that holds the slave also lists its `slaves`
directory, that glob lists the slave under exactly the entries the loop finds, in the same order,
so its first match names the device `getMultipathDisk` returns. -/

theorem rootedPath_dmSlave (name sdevice : String) :
    rootedPath ["sys", "block", name, "slaves", sdevice] =
      "/sys/block/" ++ name ++ "/slaves/" ++ sdevice := by
  apply String.ext
  simp [rootedPath]

theorem walk_dmSlaves (fs : Fs) {sdevice : String} (literal : Literal sdevice.data)
    (names : List String)
    (coherent : ∀ name ∈ names,
      sdevice ∈ (fs.readDirNames ("/sys/block/" ++ name ++ "/slaves")).getD [] →
        "slaves" ∈ (fs.readDirNames ("/sys/block/" ++ name)).getD []) :
    (names.flatMap fun name => fs.walk (["sys", "block"] ++ [name]) ["slaves", sdevice]) =
      (names.filter fun name =>
          sdevice ∈ (fs.readDirNames ("/sys/block/" ++ name ++ "/slaves")).getD []).map
        fun name => ["sys", "block", name, "slaves", sdevice] := by
  induction names with
  | nil => rfl
  | cons name names ih =>
    rw [List.flatMap_cons, List.filter_cons,
      ih fun other member => coherent other (List.mem_cons_of_mem _ member)]
    simp only [Fs.walk, List.cons_append, List.nil_append,
      fs.matchingNames_literal _ "slaves" (by decide), rootedPath_dmDir]
    by_cases holds : sdevice ∈ (fs.readDirNames ("/sys/block/" ++ name ++ "/slaves")).getD []
    · simp [coherent name (List.mem_cons_self _ _) holds, rootedPath_slavesDir,
        fs.matchingNames_literal _ sdevice literal, holds]
    · by_cases listsSlaves : "slaves" ∈ (fs.readDirNames ("/sys/block/" ++ name)).getD [] <;>
        simp [listsSlaves, rootedPath_slavesDir, fs.matchingNames_literal _ sdevice literal, holds]

theorem filepathGlob_dmSlaves (fs : Fs) (sdevice : String) (validDevice : ValidName sdevice)
    (plainDevice : hasMeta sdevice = false)
    (coherent : ∀ name ∈ dmHolders fs sdevice,
      "slaves" ∈ (fs.readDirNames ("/sys/block/" ++ name)).getD []) :
    fs.filepathGlob ("/sys/block/dm-*/slaves/" ++ sdevice) =
      ((dmHolders fs sdevice).map fun name => "/sys/block/" ++ name ++ "/slaves/" ++ sdevice,
        false) := by
  have valid : ∀ e ∈ ["sys", "block"] ++ "dm-*" :: ["slaves", sdevice], ValidElement e := by
    simp only [List.cons_append, List.nil_append, List.mem_cons, forall_eq_or_imp,
      List.not_mem_nil, false_imp_iff, implies_true, and_true]
    exact ⟨by decide, by decide, by decide, by decide,
      validElement_of_literal validDevice plainDevice⟩
  have pattern : "/sys/block/dm-*/slaves/" ++ sdevice =
      rootedPath (["sys", "block"] ++ "dm-*" :: ["slaves", sdevice]) := by
    apply String.ext
    simp [rootedPath]
  have dmLevel : fs.walk ["sys", "block"] ["dm-*", "slaves", sdevice] =
      (fs.matchingNames "/sys/block" "dm-*").flatMap fun name =>
        fs.walk (["sys", "block"] ++ [name]) ["slaves", sdevice] := by
    rw [Fs.walk, show rootedPath ["sys", "block"] = "/sys/block" by decide]
  rw [pattern, fs.filepathGlob_walk (by decide) (by decide) valid (by simp [pathSeparatorsLimit]),
    dmLevel, walk_dmSlaves fs (literal_of_not_hasMeta plainDevice validDevice.2.2.2) _
      fun name member holds =>
      coherent name (List.mem_filter.mpr ⟨member, by simpa using holds⟩)]
  simp [dmHolders, Function.comp_def, rootedPath_dmSlave]

/-- The rewrite the `TODO` in `getMultipathDisk` proposes agrees with the loop. On a host whose
`filepath.Glob` is Go's on a file system whose `/sys/block` names hold no metacharacter, and where
each entry of `/sys/block` whose `slaves` directory lists the slave also lists `slaves`: for a link
to a slave whose name is a valid name free of metacharacters, the one glob succeeds;
`getMultipathDisk` fails with `MultipleDeviceNotFound` exactly when the glob finds nothing, and
returns `/dev/` and a name exactly when the glob's first match is that entry's slave path. -/
theorem getMultipathDisk_oneGlob (host : Host) (fs : Fs) {path devicePath : String}
    (plain : ∀ names, fs.readDirNames "/sys/block" = some names →
      ∀ name ∈ names, hasMeta name = false)
    (link : host.readlink path = .ok devicePath)
    (notDm : hasPrefix (base devicePath) "dm-" = false)
    (validDevice : ValidName (base devicePath)) (plainDevice : hasMeta (base devicePath) = false)
    (coherent : ∀ name ∈ (fs.readDirNames "/sys/block").getD [],
      base devicePath ∈ (fs.readDirNames ("/sys/block/" ++ name ++ "/slaves")).getD [] →
        "slaves" ∈ (fs.readDirNames ("/sys/block/" ++ name)).getD []) :
    (fs.filepathGlob ("/sys/block/dm-*/slaves/" ++ base devicePath)).2 = false ∧
      ((getMultipathDisk (host.withFs fs) path).value =
          ("", some (.multipleDeviceNotFound path devicePath)) ↔
        (fs.filepathGlob ("/sys/block/dm-*/slaves/" ++ base devicePath)).1 = []) ∧
      ∀ name, (getMultipathDisk (host.withFs fs) path).value = ("/dev/" ++ name, none) ↔
        (fs.filepathGlob ("/sys/block/dm-*/slaves/" ++ base devicePath)).1.head? =
          some ("/sys/block/" ++ name ++ "/slaves/" ++ base devicePath) := by
  have holders : ∀ name ∈ dmHolders fs (base devicePath),
      "slaves" ∈ (fs.readDirNames ("/sys/block/" ++ name)).getD [] := by
    intro name holder
    obtain ⟨matched, holds⟩ := List.mem_filter.mp holder
    obtain ⟨⟨names, found, member⟩, -⟩ := fs.mem_matchingNames.mp matched
    exact coherent name (by simpa [found] using member) (by simpa using holds)
  rw [filepathGlob_dmSlaves fs (base devicePath) validDevice plainDevice holders,
    getMultipathDisk_withFs host fs plain link notDm]
  refine ⟨rfl, ?_, fun name => ?_⟩ <;> cases dmHolders fs (base devicePath) <;>
    simp [String.ext_iff]

/-- On the sample node, the one glob for `sdb` finds `dm-10` first, as the loop does. -/
theorem getMultipathDisk_oneGlob_sdb :
    (∀ names, sampleFs.readDirNames "/sys/block" = some names →
        ∀ name ∈ names, hasMeta name = false) ∧
      sampleHost.readlink "/dev/disk/by-path/ip-1.2.3.4:3260-iscsi-iqn.x-lun-1" =
        .ok "../../sdb" ∧
      hasPrefix (base "../../sdb") "dm-" = false ∧ ValidName (base "../../sdb") ∧
      hasMeta (base "../../sdb") = false ∧
      (∀ name ∈ (sampleFs.readDirNames "/sys/block").getD [],
        base "../../sdb" ∈ (sampleFs.readDirNames ("/sys/block/" ++ name ++ "/slaves")).getD [] →
          "slaves" ∈ (sampleFs.readDirNames ("/sys/block/" ++ name)).getD []) ∧
      ((getMultipathDisk (sampleHost.withFs sampleFs)
          "/dev/disk/by-path/ip-1.2.3.4:3260-iscsi-iqn.x-lun-1").value = ("/dev/dm-10", none) ↔
        (sampleFs.filepathGlob ("/sys/block/dm-*/slaves/" ++ base "../../sdb")).1.head? =
          some ("/sys/block/" ++ "dm-10" ++ "/slaves/" ++ base "../../sdb")) :=
  ⟨sampleFs_sysBlock_plain, rfl, by decide, by decide, by decide, by decide,
    (@getMultipathDisk_oneGlob sampleHost sampleFs
      "/dev/disk/by-path/ip-1.2.3.4:3260-iscsi-iqn.x-lun-1" "../../sdb" sampleFs_sysBlock_plain rfl
      (by decide) (by decide) (by decide) (by decide)).2.2 "dm-10"⟩

end BlockCsi.Node
