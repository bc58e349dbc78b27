import BlockCsi.Node.Rescan

/-!
# `getMultipathDisk`

A by-path link that points at an sd device resolves to the first `/sys/block/dm-*` entry, in
glob order, that lists the device among its slaves. A link that points at a dm device comes
back unchanged: the link's own path, not the dm device it reaches.
-/

set_option autoImplicit false

namespace BlockCsi.Node

open BlockCsi.Go

/-- The slaves the host lists for a dm entry; none when the glob fails, which the source only
logs. -/
def slavesOf (host : Host) (dmPath : String) : List String :=
  (goPair [] (host.glob (join [dmPath, "slaves", "*"]))).1

/-- The first dm entry, in glob order, with a slave named `sdevice`. -/
def holderOf (host : Host) (sdevice : String) (dmPaths : List String) : Option String :=
  dmPaths.find? fun dmPath => (slavesOf host dmPath).any fun spath => sdevice = base spath

theorem getMultipathDisk.loop_value (host : Host) (path devicePath sdevice : String)
    (dmPaths : List String) :
    (getMultipathDisk.loop host path devicePath sdevice dmPaths).value =
      match holderOf host sdevice dmPaths with
      | some dmPath => (join ["/dev", base dmPath], none)
      | none => ("", some (.multipleDeviceNotFound path devicePath)) := by
  induction dmPaths with
  | nil => rfl
  | cons dmPath dmPaths ih =>
    by_cases listed : ∃ spath ∈ slavesOf host dmPath, sdevice = base spath
    · simp only [slavesOf] at listed
      simp [getMultipathDisk.loop, holderOf, slavesOf, listed]
    · simp only [slavesOf] at listed
      simp [getMultipathDisk.loop, holderOf, slavesOf, listed, ih]

/-- `getMultipathDisk` by the answers of the host. -/
theorem getMultipathDisk_value (host : Host) (path : String) :
    (getMultipathDisk host path).value =
      match host.readlink path with
      | .error err => ("", some err)
      | .ok devicePath =>
        if hasPrefix (base devicePath) "dm-" then (path, none) else
          match host.glob "/sys/block/dm-*" with
          | .error err => ("", some err)
          | .ok dmPaths =>
            match holderOf host (base devicePath) dmPaths with
            | some dmPath => (join ["/dev", base dmPath], none)
            | none => ("", some (.multipleDeviceNotFound path devicePath)) := by
  cases link : host.readlink path with
  | error err => simp [getMultipathDisk, link]
  | ok devicePath =>
    by_cases direct : hasPrefix (base devicePath) "dm-"
    · simp [getMultipathDisk, link, direct]
    · cases listing : host.glob "/sys/block/dm-*" with
      | error err => simp [getMultipathDisk, link, direct, listing]
      | ok dmPaths => simp [getMultipathDisk, link, direct, listing, getMultipathDisk.loop_value]

/-- A path comes back only without an error. -/
theorem getMultipathDisk_error_of_empty (host : Host) (path : String)
    (mapped : (getMultipathDisk host path).value.1 ≠ "") :
    (getMultipathDisk host path).value.2 = none := by
  revert mapped
  rw [getMultipathDisk_value]
  split
  · simp
  · split
    · simp
    · split
      · simp
      · split <;> simp

/-- For every link whose target is not a dm device and every slaves layout, `getMultipathDisk`
returns `/dev/` and the first `/sys/block/dm-*` entry, in glob order, that lists the target
among its slaves, or `MultipleDeviceNotFoundError` when none does. The result depends on the
link only through the name of its target. -/
theorem getMultipathDisk_through_slaves (host : Host) (path devicePath : String)
    (dmPaths : List String) (link : host.readlink path = .ok devicePath)
    (notDm : hasPrefix (base devicePath) "dm-" = false)
    (listing : host.glob "/sys/block/dm-*" = .ok dmPaths) :
    (getMultipathDisk host path).value =
      match holderOf host (base devicePath) dmPaths with
      | some dmPath => (join ["/dev", base dmPath], none)
      | none => ("", some (.multipleDeviceNotFound path devicePath)) := by
  simp [getMultipathDisk_value, link, notDm, listing]

/-- A node with two volumes. The link of LUN 1 points at `sdb`, a slave of `dm-4`; the two
links of LUN 2 point straight at `dm-5`, whose slaves are `sdc` and `sdd`. Only the dm devices
exist under `/dev`, and `multipath -f` succeeds on them only. -/
def sampleHost : Host :=
  { Host.empty with
    glob := fun pattern =>
      if pattern = byPathPattern "iqn.x" 1 then
        .ok ["/dev/disk/by-path/ip-1.2.3.4:3260-iscsi-iqn.x-lun-1"]
      else if pattern = byPathPattern "iqn.x" 2 then
        .ok ["/dev/disk/by-path/ip-1.2.3.4:3260-iscsi-iqn.x-lun-2",
          "/dev/disk/by-path/ip-5.6.7.8:3260-iscsi-iqn.x-lun-2"]
      else if pattern = "/sys/block/dm-*" then .ok ["/sys/block/dm-4", "/sys/block/dm-5"]
      else if pattern = "/sys/block/dm-4/slaves/*" then .ok ["/sys/block/dm-4/slaves/sdb"]
      else if pattern = "/sys/block/dm-5/slaves/*" then
        .ok ["/sys/block/dm-5/slaves/sdc", "/sys/block/dm-5/slaves/sdd"]
      else .ok []
    readlink := fun name =>
      if name = "/dev/disk/by-path/ip-1.2.3.4:3260-iscsi-iqn.x-lun-1" then .ok "../../sdb"
      else if name = "/dev/disk/by-path/ip-1.2.3.4:3260-iscsi-iqn.x-lun-2" then .ok "../../dm-5"
      else if name = "/dev/disk/by-path/ip-5.6.7.8:3260-iscsi-iqn.x-lun-2" then .ok "../../dm-5"
      else .error .notExist
    openRead := fun name =>
      if name = "/dev/dm-4" ∨ name = "/dev/dm-5" then .ok () else .error .notExist
    executeWithTimeout := fun _ _ args =>
      if args = ["-f", "/dev/dm-4"] ∨ args = ["-f", "/dev/dm-5"] then .ok ""
      else .error (.host "exit status 1") }

theorem getMultipathDisk_through_slaves_sdb :
    sampleHost.readlink "/dev/disk/by-path/ip-1.2.3.4:3260-iscsi-iqn.x-lun-1" = .ok "../../sdb" ∧
      hasPrefix (base "../../sdb") "dm-" = false ∧
      sampleHost.glob "/sys/block/dm-*" = .ok ["/sys/block/dm-4", "/sys/block/dm-5"] ∧
      (getMultipathDisk sampleHost "/dev/disk/by-path/ip-1.2.3.4:3260-iscsi-iqn.x-lun-1").value =
        match holderOf sampleHost (base "../../sdb") ["/sys/block/dm-4", "/sys/block/dm-5"] with
        | some dmPath => (join ["/dev", base dmPath], none)
        | none => ("", some (.multipleDeviceNotFound
            "/dev/disk/by-path/ip-1.2.3.4:3260-iscsi-iqn.x-lun-1" "../../sdb")) :=
  ⟨rfl, rfl, rfl, getMultipathDisk_through_slaves sampleHost
    "/dev/disk/by-path/ip-1.2.3.4:3260-iscsi-iqn.x-lun-1" "../../sdb"
    ["/sys/block/dm-4", "/sys/block/dm-5"] rfl rfl rfl⟩

/-- The two LUN 2 links reach `dm-5` and come back as two different strings, each link's own
path; a link through `sdc` would give `/dev/dm-5`. `GetMpathDevice` then counts two devices. -/
theorem getMultipathDisk_direct_links_differ :
    (getMultipathDisk sampleHost "/dev/disk/by-path/ip-1.2.3.4:3260-iscsi-iqn.x-lun-2").value =
        ("/dev/disk/by-path/ip-1.2.3.4:3260-iscsi-iqn.x-lun-2", none) ∧
      (getMultipathDisk sampleHost "/dev/disk/by-path/ip-5.6.7.8:3260-iscsi-iqn.x-lun-2").value =
        ("/dev/disk/by-path/ip-5.6.7.8:3260-iscsi-iqn.x-lun-2", none) ∧
      (getMpathDevice (fun _ => sampleHost) "vol-test" 2 "iqn.x").value =
        ("", some (.multipleDmDevices "vol-test" 2 "iqn.x"
          ["/dev/disk/by-path/ip-5.6.7.8:3260-iscsi-iqn.x-lun-2",
            "/dev/disk/by-path/ip-1.2.3.4:3260-iscsi-iqn.x-lun-2"])) := by
  decide

end BlockCsi.Node
