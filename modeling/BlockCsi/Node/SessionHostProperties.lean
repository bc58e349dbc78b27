import BlockCsi.Node.Rescan

/-!
# Session hosts and the LUN rescan

`GetIscsiSessionHostsForArrayIQN` keeps, in listing order, the number of each
`/sys/class/iscsi_host` entry whose first session target name is the array's IQN; entries it
cannot read are skipped, and only a failed glob ends the scan early. `RescanSpecificLun` writes
one scan command per number it returns, to the scan file it prints from that number.
-/

set_option autoImplicit false

namespace BlockCsi.Node

open BlockCsi.Go

/-- The number of a host entry attached to the array: the entry is `host` followed by a number,
and the first target name its sessions list, trimmed, is the array's IQN. -/
def attachedHostNumber (host : Host) (arrayIqn hostName : String) : Option Int :=
  if hasPrefix hostName "host" then
    (atoi (trimPrefix hostName "host")).bind fun hostNumber =>
      match host.glob (targetNamePattern hostName) with
      | .ok (targetNamePath :: _) =>
        match host.readFile targetNamePath with
        | .ok targetName => if trimSpace targetName = arrayIqn then some hostNumber else none
        | .error _ => none
      | _ => none
  else none

/-- The target-name file the scan reads for an entry `host` followed by a number: the first
match of its glob. -/
def firstTargetName (host : Host) (hostName : String) : Option String :=
  if hasPrefix hostName "host" = true ∧ (atoi (trimPrefix hostName "host")).isSome = true then
    match host.glob (targetNamePattern hostName) with
    | .ok (targetNamePath :: _) => some targetNamePath
    | _ => none
  else none

/-- The calls the scan makes for one entry whose target-name glob succeeds. -/
def scanEffects (host : Host) (hostName : String) : List Effect :=
  if hasPrefix hostName "host" = true ∧ (atoi (trimPrefix hostName "host")).isSome = true then
    .glob (targetNamePattern hostName) :: (firstTargetName host hostName).toList.map .readFile
  else []

theorem reads_scanEffects (host : Host) (hostName : String) :
    reads (scanEffects host hostName) = (firstTargetName host hostName).toList := by
  unfold scanEffects
  split_ifs with entry
  · cases firstTargetName host hostName <;> simp
  · simp [firstTargetName, entry]

/-- The target-name glob of every entry the scan reaches succeeds. -/
def TargetGlobsSucceed (host : Host) (hostDirs : List String) : Prop :=
  ∀ hostName ∈ hostDirs, hasPrefix hostName "host" = true →
    (atoi (trimPrefix hostName "host")).isSome = true →
      (host.glob (targetNamePattern hostName)).isOk = true

instance (host : Host) (hostDirs : List String) : Decidable (TargetGlobsSucceed host hostDirs) :=
  inferInstanceAs (Decidable (∀ hostName ∈ hostDirs, _))

namespace getIscsiSessionHostsForArrayIQN

variable (host : Host) (arrayIqn hostName : String) (hostDirs : List String) (sessionHosts : List Int)

/-- An entry whose target-name glob, if the scan makes it, succeeds: the scan globs for it, reads
its first match, adds its number when it is attached to the array, and goes on. -/
theorem loop_cons_run
    (globbed : hasPrefix hostName "host" = true → (atoi (trimPrefix hostName "host")).isSome = true →
      (host.glob (targetNamePattern hostName)).isOk = true) :
    loop host arrayIqn (hostName :: hostDirs) sessionHosts =
      ⟨(loop host arrayIqn hostDirs
          (sessionHosts ++ (attachedHostNumber host arrayIqn hostName).toList)).value,
        scanEffects host hostName ++ (loop host arrayIqn hostDirs
          (sessionHosts ++ (attachedHostNumber host arrayIqn hostName).toList)).effects⟩ := by
  by_cases prefixed : hasPrefix hostName "host" = true
  · cases numbered : atoi (trimPrefix hostName "host") with
    | none => apply Run.ext <;> simp [loop, attachedHostNumber, scanEffects, prefixed, numbered]
    | some hostNumber =>
      have succeeded := globbed prefixed (by simp [numbered])
      cases listing : host.glob (targetNamePattern hostName) with
      | error err => simp [listing, Except.isOk, Except.toBool] at succeeded
      | ok matched =>
        cases matched with
        | nil =>
          apply Run.ext <;> simp [loop, attachedHostNumber, scanEffects, firstTargetName, prefixed,
            numbered, listing]
        | cons targetNamePath others =>
          cases reading : host.readFile targetNamePath with
          | error err =>
            apply Run.ext <;> simp [loop, attachedHostNumber, scanEffects, firstTargetName, prefixed,
              numbered, listing, reading]
          | ok targetName =>
            by_cases same : trimSpace targetName = arrayIqn <;> apply Run.ext <;>
              simp [loop, attachedHostNumber, scanEffects, firstTargetName, prefixed, numbered,
                listing, reading, same]
  · apply Run.ext <;> simp [loop, attachedHostNumber, scanEffects, prefixed]

theorem loop_cons
    (globbed : hasPrefix hostName "host" = true → (atoi (trimPrefix hostName "host")).isSome = true →
      (host.glob (targetNamePattern hostName)).isOk = true) :
    (loop host arrayIqn (hostName :: hostDirs) sessionHosts).value =
      (loop host arrayIqn hostDirs
        (sessionHosts ++ (attachedHostNumber host arrayIqn hostName).toList)).value := by
  rw [loop_cons_run host arrayIqn hostName hostDirs sessionHosts globbed]

/-- Where the target-name globs succeed, the scan reads the first match of each entry `host`
followed by a number, in listing order, and no other file. -/
theorem loop_reads (globbed : TargetGlobsSucceed host hostDirs) :
    reads (loop host arrayIqn hostDirs sessionHosts).effects =
      hostDirs.filterMap (firstTargetName host) := by
  induction hostDirs generalizing sessionHosts with
  | nil => rfl
  | cons hostName hostDirs ih =>
    rw [loop_cons_run _ _ _ _ _ (globbed hostName (.head _)), reads_append, reads_scanEffects,
      ih _ fun other member => globbed other (.tail _ member), List.filterMap_cons]
    cases firstTargetName host hostName <;> rfl

theorem loop_append (rest : List String) (globbed : TargetGlobsSucceed host hostDirs) :
    (loop host arrayIqn (hostDirs ++ rest) sessionHosts).value =
      (loop host arrayIqn rest
        (sessionHosts ++ hostDirs.filterMap (attachedHostNumber host arrayIqn))).value := by
  induction hostDirs generalizing sessionHosts with
  | nil => simp
  | cons hostName hostDirs ih =>
    rw [List.cons_append, loop_cons _ _ _ _ _ (globbed hostName (.head _)),
      ih _ fun other member => globbed other (.tail _ member)]
    cases attached : attachedHostNumber host arrayIqn hostName <;> simp [attached]

theorem loop_value (globbed : TargetGlobsSucceed host hostDirs) :
    (loop host arrayIqn hostDirs sessionHosts).value =
      (sessionHosts ++ hostDirs.filterMap (attachedHostNumber host arrayIqn), none) := by
  simpa using loop_append host arrayIqn hostDirs sessionHosts [] globbed

end getIscsiSessionHostsForArrayIQN

theorem attachedHostNumber_eq_some (host : Host) (arrayIqn hostName : String) (hostNumber : Int) :
    attachedHostNumber host arrayIqn hostName = some hostNumber ↔
      ∃ s, hostName = "host" ++ s ∧ atoi s = some hostNumber ∧
        ∃ targetNamePath others targetName,
          host.glob (targetNamePattern hostName) = .ok (targetNamePath :: others) ∧
          host.readFile targetNamePath = .ok targetName ∧ trimSpace targetName = arrayIqn := by
  constructor
  · intro attached
    unfold attachedHostNumber at attached
    split_ifs at attached with prefixed
    obtain ⟨s, rfl⟩ := hasPrefix_iff.mp prefixed
    simp only [trimPrefix_append, Option.bind_eq_some] at attached
    obtain ⟨number, numbered, selected⟩ := attached
    refine ⟨s, rfl, ?_⟩
    split at selected
    · rename_i targetNamePath others listing
      split at selected
      · rename_i targetName reading
        split_ifs at selected with same
        cases selected
        exact ⟨numbered, targetNamePath, others, targetName, listing, reading, same⟩
      · cases selected
    · cases selected
  · rintro ⟨s, rfl, numbered, targetNamePath, others, targetName, listing, reading, same⟩
    simp [attachedHostNumber, numbered, listing, reading, same]

/-- For every `/sys/class/iscsi_host` listing `ReadDir` gives, on which the target-name globs
the scan makes succeed: `GetIscsiSessionHostsForArrayIQN` returns, in listing order, the number
`Atoi(s)` of each entry `host` followed by `s` whose first target-name glob match reads,
trimmed, as the IQN; it fails with `ConnectivityIscsiStorageTargetNotFoundError` exactly when
there is none. Other entries are skipped. -/
theorem getIscsiSessionHostsForArrayIQN_attached (host : Host) (arrayIqn : String)
    (hostDirs : List String) (listing : host.readDir iscsiHostSysPath = .ok hostDirs)
    (globbed : TargetGlobsSucceed host hostDirs) :
    (getIscsiSessionHostsForArrayIQN host arrayIqn).value =
        (if hostDirs.filterMap (attachedHostNumber host arrayIqn) = [] then
          ([], some (.connectivityIscsiStorageTargetNotFound arrayIqn
            "/sys/class/iscsi_host/host*/device/session*/iscsi_session/session*/targetname"))
        else (hostDirs.filterMap (attachedHostNumber host arrayIqn), none)) ∧
      ∀ hostName hostNumber, attachedHostNumber host arrayIqn hostName = some hostNumber ↔
        ∃ s, hostName = "host" ++ s ∧ atoi s = some hostNumber ∧
          ∃ targetNamePath others targetName,
            host.glob (targetNamePattern hostName) = .ok (targetNamePath :: others) ∧
            host.readFile targetNamePath = .ok targetName ∧ trimSpace targetName = arrayIqn := by
  refine ⟨?_, attachedHostNumber_eq_some host arrayIqn⟩
  have scanned := getIscsiSessionHostsForArrayIQN.loop_value host arrayIqn hostDirs [] globbed
  simp only [List.nil_append] at scanned
  simp only [getIscsiSessionHostsForArrayIQN, Run.bind_value, ioutilReadDir_value, listing,
    goPair_ok, scanned]
  split_ifs <;> rfl

theorem getIscsiSessionHostsForArrayIQN.loop_writes (host : Host) (arrayIqn : String)
    (hostDirs : List String) (sessionHosts : List Int) :
    writes (getIscsiSessionHostsForArrayIQN.loop host arrayIqn hostDirs sessionHosts).effects = [] := by
  induction hostDirs generalizing sessionHosts with
  | nil => rfl
  | cons hostName hostDirs ih =>
    simp only [getIscsiSessionHostsForArrayIQN.loop]
    split
    · exact ih _
    · split
      · exact ih _
      · simp only [Run.bind_effects, writes_append, filepathGlob_effects]
        split
        · simp
        · simp [ih]
        · simp only [Run.bind_effects, writes_append, ioutilReadFile_effects]
          split_ifs <;> simp [ih]

theorem getIscsiSessionHostsForArrayIQN_writes (host : Host) (arrayIqn : String) :
    writes (getIscsiSessionHostsForArrayIQN host arrayIqn).effects = [] := by
  simp only [getIscsiSessionHostsForArrayIQN, Run.bind_effects, writes_append, ioutilReadDir_effects]
  split
  · simp
  · simp only [Run.bind_effects, writes_append, getIscsiSessionHostsForArrayIQN.loop_writes]
    split
    · simp
    · split_ifs <;> simp

/-- Where `ReadDir` lists the entries and their target-name globs succeed,
`GetIscsiSessionHostsForArrayIQN` reads the first match of each entry `host` followed by a
number, in listing order, and no other file. -/
theorem getIscsiSessionHostsForArrayIQN_reads (host : Host) (arrayIqn : String)
    (hostDirs : List String) (listing : host.readDir iscsiHostSysPath = .ok hostDirs)
    (globbed : TargetGlobsSucceed host hostDirs) :
    reads (getIscsiSessionHostsForArrayIQN host arrayIqn).effects =
      hostDirs.filterMap (firstTargetName host) := by
  simp only [getIscsiSessionHostsForArrayIQN, Run.bind_effects, reads_append, ioutilReadDir_effects,
    ioutilReadDir_value, listing, goPair_ok, getIscsiSessionHostsForArrayIQN.loop_reads host arrayIqn
      hostDirs [] globbed, getIscsiSessionHostsForArrayIQN.loop_value host arrayIqn hostDirs [] globbed]
  split_ifs <;> simp

/-- The error `RescanSpecificLun` stops with at a session host, if any. -/
def scanError (host : Host) (lunId hostNumber : Int) : Option GoError :=
  match host.openFile (scanFilename hostNumber) with
  | .error err => some err
  | .ok () =>
    match host.writeString (scanFilename hostNumber) ("0 0 " ++ itoa lunId) with
    | .error err => some err
    | .ok written =>
      if written = 0 then some (.nothingWasWrittenToScanFile (scanFilename hostNumber)) else none

theorem scanError_eq_none (host : Host) (lunId hostNumber : Int) :
    scanError host lunId hostNumber = none ↔
      host.openFile (scanFilename hostNumber) = .ok () ∧ ∃ written, written ≠ 0 ∧
        host.writeString (scanFilename hostNumber) ("0 0 " ++ itoa lunId) = .ok written := by
  unfold scanError
  split
  · simp_all
  · split <;> simp_all

/-- The write at a session host: made only when its scan file opened. -/
def scanWrites (host : Host) (lunId hostNumber : Int) : List (String × String) :=
  if (host.openFile (scanFilename hostNumber)).isOk then
    [(scanFilename hostNumber, "0 0 " ++ itoa lunId)]
  else []

namespace rescanSpecificLun

variable (host : Host) (lunId hostNumber : Int) (sessionHosts : List Int)

theorem loop_scanned (scanned : scanError host lunId hostNumber = none) :
    (loop host lunId (hostNumber :: sessionHosts)).value = (loop host lunId sessionHosts).value ∧
      writes (loop host lunId (hostNumber :: sessionHosts)).effects =
        (scanFilename hostNumber, "0 0 " ++ itoa lunId) :: writes (loop host lunId sessionHosts).effects := by
  obtain ⟨opened, written, nonzero, wrote⟩ := (scanError_eq_none host lunId hostNumber).mp scanned
  simp [loop, opened, wrote, nonzero]

theorem loop_failed (err : GoError) (failed : scanError host lunId hostNumber = some err) :
    (loop host lunId (hostNumber :: sessionHosts)).value = some err ∧
      writes (loop host lunId (hostNumber :: sessionHosts)).effects = scanWrites host lunId hostNumber := by
  unfold scanError at failed
  cases opened : host.openFile (scanFilename hostNumber) with
  | error openErr => simp_all [loop, scanWrites, Except.isOk, Except.toBool]
  | ok =>
    cases wrote : host.writeString (scanFilename hostNumber) ("0 0 " ++ itoa lunId) with
    | error writeErr => simp_all [loop, scanWrites, Except.isOk, Except.toBool]
    | ok written =>
      by_cases nothing : written = 0 <;>
        simp_all [loop, scanWrites, Except.isOk, Except.toBool]

/-- The loop over the session hosts splits them at the first one it fails on. -/
theorem loop_splits :
    ∃ scanned rest, sessionHosts = scanned ++ rest ∧
      (∀ hostNumber ∈ scanned, scanError host lunId hostNumber = none) ∧
      match rest with
      | [] => (loop host lunId sessionHosts).value = none ∧
        writes (loop host lunId sessionHosts).effects =
          scanned.map fun hostNumber => (scanFilename hostNumber, "0 0 " ++ itoa lunId)
      | failed :: _ => (scanError host lunId failed).isSome ∧
        (loop host lunId sessionHosts).value = scanError host lunId failed ∧
        writes (loop host lunId sessionHosts).effects =
          (scanned.map fun hostNumber => (scanFilename hostNumber, "0 0 " ++ itoa lunId)) ++
            scanWrites host lunId failed := by
  obtain ⟨scanned, rest, split, allScanned, outcome⟩ :=
    loop_splits_at_first_failure (loop host lunId) (scanError host lunId)
      (fun hostNumber => (scanFilename hostNumber, "0 0 " ++ itoa lunId)) (scanWrites host lunId)
      sessionHosts rfl (fun hostNumber _ rest scanned => loop_scanned host lunId hostNumber rest scanned)
      (fun hostNumber _ rest err failed => loop_failed host lunId hostNumber rest err failed)
  exact ⟨scanned, rest, split, allScanned, by cases rest <;> exact outcome⟩

theorem loop_writes (succeeded : (loop host lunId sessionHosts).value = none) :
    writes (loop host lunId sessionHosts).effects =
      sessionHosts.map fun hostNumber => (scanFilename hostNumber, "0 0 " ++ itoa lunId) := by
  obtain ⟨scanned, rest, split, -, outcome⟩ := loop_splits host lunId sessionHosts
  cases rest with
  | nil => subst split; simpa using outcome.2
  | cons failed _ =>
    rw [outcome.2.1] at succeeded
    simp [succeeded] at outcome

end rescanSpecificLun

/-- Once the session hosts are listed, `RescanSpecificLun` returns and writes what its loop over
them does. -/
theorem rescanSpecificLun_listed (host : Host) (lunId : Int) (arrayIqn : String)
    (listed : (getIscsiSessionHostsForArrayIQN host arrayIqn).value.2 = none) :
    (rescanSpecificLun host lunId arrayIqn).value =
        (rescanSpecificLun.loop host lunId (getIscsiSessionHostsForArrayIQN host arrayIqn).value.1).value ∧
      writes (rescanSpecificLun host lunId arrayIqn).effects =
        writes (rescanSpecificLun.loop host lunId
          (getIscsiSessionHostsForArrayIQN host arrayIqn).value.1).effects := by
  simp [rescanSpecificLun, listed, getIscsiSessionHostsForArrayIQN_writes]

/-- For every host, LUN and IQN: when `RescanSpecificLun` returns nil, its writes were exactly
one `0 0 <lunId>` to `/sys/class/scsi_host/host<n>/scan` for each number `n`
`GetIscsiSessionHostsForArrayIQN` returns, in its order, the file printed from the number; when
`GetIscsiSessionHostsForArrayIQN` fails, in particular when no entry is attached to the array,
`RescanSpecificLun` returns that error and writes nothing. -/
theorem rescanSpecificLun_writes (host : Host) (lunId : Int) (arrayIqn : String) :
    ((rescanSpecificLun host lunId arrayIqn).value = none →
      writes (rescanSpecificLun host lunId arrayIqn).effects =
        (getIscsiSessionHostsForArrayIQN host arrayIqn).value.1.map fun hostNumber =>
          (scanFilename hostNumber, "0 0 " ++ itoa lunId)) ∧
      ∀ err, (getIscsiSessionHostsForArrayIQN host arrayIqn).value.2 = some err →
        (rescanSpecificLun host lunId arrayIqn).value = some err ∧
          writes (rescanSpecificLun host lunId arrayIqn).effects = [] := by
  constructor
  · intro succeeded
    cases listed : (getIscsiSessionHostsForArrayIQN host arrayIqn).value.2 with
    | some err => simp [rescanSpecificLun, listed] at succeeded
    | none =>
      obtain ⟨value, wrote⟩ := rescanSpecificLun_listed host lunId arrayIqn listed
      rw [wrote]
      exact rescanSpecificLun.loop_writes _ _ _ (value ▸ succeeded)
  · intro err failed
    simp [rescanSpecificLun, failed, getIscsiSessionHostsForArrayIQN_writes]

/-- For every host, LUN and IQN whose session-host listing succeeds, `RescanSpecificLun` scans the
hosts in order until the first one whose scan file fails to open, refuses the write or takes no
byte, and stops there with that error (`ErrorNothingWasWrittenToScanFile` for no byte), having
written to that host's scan file too if it opened; it returns nil only when no host fails. -/
theorem rescanSpecificLun_stops_at_first_failure (host : Host) (lunId : Int) (arrayIqn : String)
    (listed : (getIscsiSessionHostsForArrayIQN host arrayIqn).value.2 = none) :
    ∃ scanned rest, (getIscsiSessionHostsForArrayIQN host arrayIqn).value.1 = scanned ++ rest ∧
      (∀ hostNumber ∈ scanned, scanError host lunId hostNumber = none) ∧
      match rest with
      | [] => (rescanSpecificLun host lunId arrayIqn).value = none ∧
        writes (rescanSpecificLun host lunId arrayIqn).effects =
          scanned.map fun hostNumber => (scanFilename hostNumber, "0 0 " ++ itoa lunId)
      | failed :: _ => (scanError host lunId failed).isSome ∧
        (rescanSpecificLun host lunId arrayIqn).value = scanError host lunId failed ∧
        writes (rescanSpecificLun host lunId arrayIqn).effects =
          (scanned.map fun hostNumber => (scanFilename hostNumber, "0 0 " ++ itoa lunId)) ++
            scanWrites host lunId failed := by
  obtain ⟨value, wrote⟩ := rescanSpecificLun_listed host lunId arrayIqn listed
  obtain ⟨scanned, rest, split, allScanned, outcome⟩ :=
    rescanSpecificLun.loop_splits host lunId (getIscsiSessionHostsForArrayIQN host arrayIqn).value.1
  refine ⟨scanned, rest, split, allScanned, ?_⟩
  rw [value, wrote]
  cases rest <;> exact outcome

/-- Three iSCSI hosts: `host01`, with a session to `iqn.x`; `host2`, with a session to `iqn.y`;
and `host3`, with none. Every scan file takes what is written to it. -/
def sessionSampleHost : Host :=
  { Host.empty with
    readDir := fun dirname =>
      if dirname = iscsiHostSysPath then .ok ["host01", "host2", "host3"] else .error .notExist
    glob := fun pattern =>
      if pattern = targetNamePattern "host01" then
        .ok ["/sys/class/iscsi_host/host01/device/session1/iscsi_session/session1/targetname"]
      else if pattern = targetNamePattern "host2" then
        .ok ["/sys/class/iscsi_host/host2/device/session2/iscsi_session/session2/targetname"]
      else .ok []
    readFile := fun filename =>
      if filename = "/sys/class/iscsi_host/host01/device/session1/iscsi_session/session1/targetname"
      then .ok "iqn.x\n"
      else if filename = "/sys/class/iscsi_host/host2/device/session2/iscsi_session/session2/targetname"
      then .ok "iqn.y\n"
      else .error .notExist
    openFile := fun _ => .ok ()
    writeString := fun _ s => .ok s.length }

theorem getIscsiSessionHostsForArrayIQN_attached_sample :
    sessionSampleHost.readDir iscsiHostSysPath = .ok ["host01", "host2", "host3"] ∧
      TargetGlobsSucceed sessionSampleHost ["host01", "host2", "host3"] ∧
      ((getIscsiSessionHostsForArrayIQN sessionSampleHost "iqn.x").value =
          (if ["host01", "host2", "host3"].filterMap (attachedHostNumber sessionSampleHost "iqn.x") = []
          then ([], some (.connectivityIscsiStorageTargetNotFound "iqn.x"
            "/sys/class/iscsi_host/host*/device/session*/iscsi_session/session*/targetname"))
          else (["host01", "host2", "host3"].filterMap (attachedHostNumber sessionSampleHost "iqn.x"),
            none)) ∧
        ∀ hostName hostNumber, attachedHostNumber sessionSampleHost "iqn.x" hostName = some hostNumber ↔
          ∃ s, hostName = "host" ++ s ∧ atoi s = some hostNumber ∧
            ∃ targetNamePath others targetName,
              sessionSampleHost.glob (targetNamePattern hostName) = .ok (targetNamePath :: others) ∧
              sessionSampleHost.readFile targetNamePath = .ok targetName ∧
              trimSpace targetName = "iqn.x") :=
  ⟨rfl, by decide, getIscsiSessionHostsForArrayIQN_attached sessionSampleHost "iqn.x"
    ["host01", "host2", "host3"] rfl (by decide)⟩

/-- The entry `host01` is attached to `iqn.x`; `RescanSpecificLun` scans it through
`/sys/class/scsi_host/host1/scan`, the name printed from `Atoi("01")`, not through `host01`. -/
theorem rescanSpecificLun_scans_printed_host :
    (rescanSpecificLun sessionSampleHost 1 "iqn.x").value = none ∧
      writes (rescanSpecificLun sessionSampleHost 1 "iqn.x").effects =
        [("/sys/class/scsi_host/host1/scan", "0 0 1")] := by
  decide

theorem rescanSpecificLun_stops_at_first_failure_sample :
    (getIscsiSessionHostsForArrayIQN sessionSampleHost "iqn.x").value.2 = none ∧
      ∃ scanned rest,
        (getIscsiSessionHostsForArrayIQN sessionSampleHost "iqn.x").value.1 = scanned ++ rest ∧
        (∀ hostNumber ∈ scanned, scanError sessionSampleHost 1 hostNumber = none) ∧
        match rest with
        | [] => (rescanSpecificLun sessionSampleHost 1 "iqn.x").value = none ∧
          writes (rescanSpecificLun sessionSampleHost 1 "iqn.x").effects =
            scanned.map fun hostNumber => (scanFilename hostNumber, "0 0 " ++ itoa 1)
        | failed :: _ => (scanError sessionSampleHost 1 failed).isSome ∧
          (rescanSpecificLun sessionSampleHost 1 "iqn.x").value = scanError sessionSampleHost 1 failed ∧
          writes (rescanSpecificLun sessionSampleHost 1 "iqn.x").effects =
            (scanned.map fun hostNumber => (scanFilename hostNumber, "0 0 " ++ itoa 1)) ++
              scanWrites sessionSampleHost 1 failed :=
  have listed : (getIscsiSessionHostsForArrayIQN sessionSampleHost "iqn.x").value.2 = none := by
    decide
  ⟨listed, rescanSpecificLun_stops_at_first_failure sessionSampleHost 1 "iqn.x" listed⟩

end BlockCsi.Node
