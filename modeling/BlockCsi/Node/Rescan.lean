import BlockCsi.Node.Host

/-!
# The iSCSI rescan utilities

`node/pkg/driver/rescan.go`, one definition per function, under its name. A loop of the source
is a recursive definition over the list it ranges over, named after the function with `.loop`;
an early `return` inside the loop ends the recursion. The node utilities and the executor of
`RescanUtilsIscsi` are the host; the methods that do not use their receiver drop it.
-/

set_option autoImplicit false

namespace BlockCsi.Node

open BlockCsi.Go

/-- `RescanUtilsIscsi`, down to the address of its flush mutex. -/
structure RescanUtilsIscsi where
  mutexMultipathF : Nat
  deriving DecidableEq, Repr

/-- `NewRescanUtils`, given the address of the `sync.Mutex` it allocates. -/
def newRescanUtils (connectivityType : String) (freshMutex : Nat) :
    Except GoError RescanUtilsIscsi :=
  if connectivityType = "iscsi" then .ok ⟨freshMutex⟩
  else .error (.unsupportedConnectivityType connectivityType)

/-! ## `GetIscsiSessionHostsForArrayIQN` and `RescanSpecificLun` -/

/-- `sysPath` of `GetIscsiSessionHostsForArrayIQN`. -/
def iscsiHostSysPath : String := "/sys/class/iscsi_host/"

/-- The glob for the target names of one host's sessions. -/
def targetNamePattern (hostName : String) : String :=
  iscsiHostSysPath ++ hostName ++ "/device/session*/iscsi_session/session*/targetname"

/-- The loop of `GetIscsiSessionHostsForArrayIQN` over the host directories, with the hosts
appended so far. -/
def getIscsiSessionHostsForArrayIQN.loop (host : Host) (arrayIqn : String) :
    List String → List Int → Run (List Int × Option GoError)
  | [], sessionHosts => pure (sessionHosts, none)
  | hostName :: hostDirs, sessionHosts =>
    if !hasPrefix hostName "host" then loop host arrayIqn hostDirs sessionHosts else
    match atoi (trimPrefix hostName "host") with
    | none => loop host arrayIqn hostDirs sessionHosts
    | some hostNumber => do
      let (matched, err) ← filepathGlob host (targetNamePattern hostName)
      match err, matched with
      | some err, _ => pure (sessionHosts, some err)
      | none, [] => loop host arrayIqn hostDirs sessionHosts
      | none, targetNamePath :: _ => do
        let (targetName, err) ← ioutilReadFile host targetNamePath
        if err.isSome then loop host arrayIqn hostDirs sessionHosts
        else if trimSpace targetName = arrayIqn then
          loop host arrayIqn hostDirs (sessionHosts ++ [hostNumber])
        else loop host arrayIqn hostDirs sessionHosts

/-- `GetIscsiSessionHostsForArrayIQN`. -/
def getIscsiSessionHostsForArrayIQN (host : Host) (arrayIqn : String) :
    Run (List Int × Option GoError) := do
  let (hostDirs, err) ← ioutilReadDir host iscsiHostSysPath
  match err with
  | some err => pure ([], some err)
  | none => do
    let (sessionHosts, err) ← getIscsiSessionHostsForArrayIQN.loop host arrayIqn hostDirs []
    match err with
    | some err => pure (sessionHosts, some err)
    | none =>
      if sessionHosts = [] then
        pure ([], some (.connectivityIscsiStorageTargetNotFound arrayIqn
          (iscsiHostSysPath ++ "host*" ++ "/device/session*/iscsi_session/session*/targetname")))
      else pure (sessionHosts, none)

/-- The scan file of a SCSI host, as `RescanSpecificLun` prints it. -/
def scanFilename (hostNumber : Int) : String :=
  "/sys/class/scsi_host/host" ++ itoa hostNumber ++ "/scan"

/-- The loop of `RescanSpecificLun` over the session hosts. -/
def rescanSpecificLun.loop (host : Host) (lunId : Int) : List Int → Run (Option GoError)
  | [] => pure none
  | hostNumber :: sessionHosts => do
    let filename := scanFilename hostNumber
    let (f, err) ← osOpenFile host filename
    match err with
    | some err => pure (some err)
    | none => do
      let scanCmd := "0 0 " ++ itoa lunId
      let (written, err) ← File.writeString host f scanCmd
      match err with
      | some err => pure (some err)
      | none =>
        if written = 0 then pure (some (.nothingWasWrittenToScanFile filename))
        else loop host lunId sessionHosts

/-- `RescanSpecificLun`. -/
def rescanSpecificLun (host : Host) (lunId : Int) (arrayIqn : String) : Run (Option GoError) := do
  let (sessionHosts, err) ← getIscsiSessionHostsForArrayIQN host arrayIqn
  match err with
  | some err => pure (some err)
  | none => rescanSpecificLun.loop host lunId sessionHosts

/-! ## `waitForPathToExist`, `getMultipathDisk` and `GetMpathDevice` -/

/-- The loop of `waitForPathToExist` from attempt `i` on, `remaining` attempts left and `err` as
the previous attempt left it. The glob of attempt `i` is answered by `hosts i`, the host after
`i` sleeps. The glob's error is discarded, as in the source. -/
def waitForPathToExist.loop (hosts : Nat → Host) (devicePath : String) (intervalSeconds : Int) :
    Nat → Nat → Option GoError → Run (List String × Bool × Option GoError)
  | 0, _, err => pure ([], false, err)
  | remaining + 1, i, _ => do
    let (fpaths, _) ← filepathGlob (hosts i) devicePath
    if fpaths = [] then do
      timeSleep intervalSeconds
      loop hosts devicePath intervalSeconds remaining (i + 1) (some .notExist)
    else pure (fpaths, true, none)

/-- `waitForPathToExist`. -/
def waitForPathToExist (hosts : Nat → Host) (devicePath : String) (maxRetries intervalSeconds : Int) :
    Run (List String × Bool × Option GoError) :=
  waitForPathToExist.loop hosts devicePath intervalSeconds maxRetries.toNat 0 none

/-- The loop of `getMultipathDisk` over the `/sys/block/dm-*` entries: the first one with a slave
named `sdevice`. -/
def getMultipathDisk.loop (host : Host) (path devicePath sdevice : String) :
    List String → Run (String × Option GoError)
  | [] => pure ("", some (.multipleDeviceNotFound path devicePath))
  | dmPath :: dmPaths => do
    let (sdevices, _) ← filepathGlob host (join [dmPath, "slaves", "*"])
    if sdevices.any fun spath => sdevice = base spath then pure (join ["/dev", base dmPath], none)
    else loop host path devicePath sdevice dmPaths

/-- `getMultipathDisk`. -/
def getMultipathDisk (host : Host) (path : String) : Run (String × Option GoError) := do
  let (devicePath, err) ← osReadlink host path
  match err with
  | some err => pure ("", some err)
  | none =>
    let sdevice := base devicePath
    if hasPrefix sdevice "dm-" then pure (path, none) else do
      let (dmPaths, err) ← filepathGlob host "/sys/block/dm-*"
      match err with
      | some err => pure ("", some err)
      | none => getMultipathDisk.loop host path devicePath sdevice dmPaths

/-- The loop of `GetMpathDevice` over the by-path links, with the keys of `devicePathTosysfs`. -/
def getMpathDevice.loop (host : Host) : List String → List String → Run (Except GoError (List String))
  | [], devicePathTosysfs => pure (.ok devicePathTosysfs)
  | path :: devicePaths, devicePathTosysfs =>
    if path = "" then loop host devicePaths devicePathTosysfs else do
      let (mappedDevicePath, err) ← getMultipathDisk host path
      if mappedDevicePath = "" then loop host devicePaths devicePathTosysfs else
        match err with
        | some err => pure (.error err)
        | none => loop host devicePaths (devicePathTosysfs.insert mappedDevicePath)

/-- The by-path glob of `GetMpathDevice`. -/
def byPathPattern (arrayIqn : String) (lunId : Int) : String :=
  "-".intercalate ["/dev/disk/by-path/ip*", "iscsi", arrayIqn, "lun", itoa lunId]

/-- `GetMpathDevice`. The links are resolved on the host as it is after the sleeps of
`waitForPathToExist`. -/
def getMpathDevice (hosts : Nat → Host) (volumeId : String) (lunId : Int) (arrayIqn : String) :
    Run (String × Option GoError) := do
  let devicePath := byPathPattern arrayIqn lunId
  let ((devicePaths, found, err), waited) ← (waitForPathToExist hosts devicePath 5 1).listen
  if !found then pure ("", some .couldNotFindPath) else
  match err with
  | some err => pure ("", some err)
  | none =>
    if devicePaths.length < 1 then pure ("", some (.failedToFindDevicePath devicePath)) else do
      let devicePathTosysfs ← getMpathDevice.loop (hosts (sleeps waited)) devicePaths []
      match devicePathTosysfs with
      | .error err => pure ("", some err)
      | .ok [] => pure ("", some (.multipleDeviceNotFoundForLun volumeId lunId arrayIqn))
      | .ok [md] => pure (md, none)
      | .ok devices => pure ("", some (.multipleDmDevices volumeId lunId arrayIqn devices))

/-! ## `FlushMultipathDevice` and `RemoveIscsiDevice` -/

/-- `FlushMultipathDevice`: `multipath -f` under the flush mutex, then, if it failed, an open of
the device to tell whether it is gone. -/
def flushMultipathDevice (host : Host) (r : RescanUtilsIscsi) (mpathDevice : String) :
    Run (Option GoError) := do
  let fullDevice := "/dev/" ++ mpathDevice
  mutexLock r.mutexMultipathF
  let (_, err) ← executeWithTimeout host (10 * 1000) "multipath" ["-f", fullDevice]
  mutexUnlock r.mutexMultipathF
  match err with
  | none => pure none
  | some err => do
    let (_, errOpen) ← osOpen host fullDevice
    match errOpen with
    | some errOpen => pure (if errOpen.isNotExist then none else some errOpen)
    | none => pure (some err)

/-- The delete file of a SCSI device. -/
def deleteFilename (deviceName : String) : String :=
  "/sys/block/" ++ deviceName ++ "/device/delete"

/-- The loop of `RemoveIscsiDevice` over the device names. After a not-exist open the loop does
not `continue`: it writes to the nil file. -/
def removeIscsiDevice.loop (host : Host) : List String → Run (Option GoError)
  | [] => pure none
  | deviceName :: sysDevices =>
    if deviceName = "" then loop host sysDevices else
    let writeDelete (f : Option File) : Run (Option GoError) := do
      let (_, err) ← File.writeString host f "1"
      match err with
      | some err => pure (some err)
      | none => loop host sysDevices
    do
      let (f, err) ← osOpenFile host (deleteFilename deviceName)
      match err with
      | some err => if err.isNotExist then writeDelete f else pure (some err)
      | none => writeDelete f

/-- `RemoveIscsiDevice`. -/
def removeIscsiDevice (host : Host) (sysDevices : List String) : Run (Option GoError) :=
  removeIscsiDevice.loop host sysDevices

end BlockCsi.Node
