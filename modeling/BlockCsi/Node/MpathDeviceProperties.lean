import BlockCsi.Node.WaitForPathProperties
import BlockCsi.Node.MultipathDiskProperties
import Mathlib.Data.Finset.Card

/-!
# `GetMpathDevice`

The volume's by-path links are those of the first attempt of `waitForPathToExist` that lists
any. Each link is resolved by `getMultipathDisk` on the host as it is then, and the distinct
results are counted: one is the device, more is `MultipleDmDevicesError`, none is the not-found
sentinel. When no attempt lists a link, the call fails with a plain error instead.
-/

set_option autoImplicit false

namespace BlockCsi.Node

open BlockCsi.Go

/-- The path `GetMpathDevice` records for a link: `getMultipathDisk`'s, when it gives one. -/
def mappedDevicePath (host : Host) (path : String) : Option String :=
  if path = "" ∨ (getMultipathDisk host path).value.1 = "" then none
  else some (getMultipathDisk host path).value.1

/-- The keys of `devicePathTosysfs` once every link is recorded, last recorded first. -/
def deviceKeys (host : Host) (devicePaths : List String) : List String :=
  (devicePaths.filterMap (mappedDevicePath host)).foldl (fun keys path => keys.insert path) []

theorem getMpathDevice.loop_value (host : Host) (devicePaths keys : List String) :
    (getMpathDevice.loop host devicePaths keys).value =
      .ok ((devicePaths.filterMap (mappedDevicePath host)).foldl
        (fun keys path => keys.insert path) keys) := by
  induction devicePaths generalizing keys with
  | nil => rfl
  | cons path devicePaths ih =>
    by_cases empty : path = ""
    · simp [getMpathDevice.loop, mappedDevicePath, empty, ih]
    · by_cases unmapped : (getMultipathDisk host path).value.1 = ""
      · simp [getMpathDevice.loop, mappedDevicePath, empty, unmapped, ih]
      · have clean := getMultipathDisk_error_of_empty host path unmapped
        simp [getMpathDevice.loop, mappedDevicePath, empty, unmapped, clean, ih]

theorem getMpathDevice_not_found (hosts : Nat → Host) (volumeId : String) (lunId : Int)
    (arrayIqn : String) (empties : ∀ j < 5, listed hosts (byPathPattern arrayIqn lunId) j = []) :
    (getMpathDevice hosts volumeId lunId arrayIqn).value = ("", some .couldNotFindPath) := by
  have waited : waitForPathToExist hosts (byPathPattern arrayIqn lunId) 5 1 =
      ⟨([], false, some .notExist), retryEffects (byPathPattern arrayIqn lunId) 1 5⟩ :=
    waitForPathToExist.loop_exhausted hosts (byPathPattern arrayIqn lunId) 1 5 0 none
      (by simpa using empties)
  simp [getMpathDevice, waited]

theorem sleeps_retry_glob (devicePath : String) (intervalSeconds : Int) (attempts : Nat) :
    sleeps (retryEffects devicePath intervalSeconds attempts ++ [.glob devicePath]) = attempts := by
  simp [sleeps, List.countP_append]
  simpa [sleeps] using sleeps_retryEffects devicePath intervalSeconds attempts

/-- What `GetMpathDevice` returns for the keys of `devicePathTosysfs`. -/
def selectDevice (volumeId : String) (lunId : Int) (arrayIqn : String) :
    List String → String × Option GoError
  | [] => ("", some (.multipleDeviceNotFoundForLun volumeId lunId arrayIqn))
  | [md] => (md, none)
  | devices => ("", some (.multipleDmDevices volumeId lunId arrayIqn devices))

/-- Links found at attempt `k` are resolved on `hosts k`, the host after `k` sleeps. -/
theorem getMpathDevice_found (hosts : Nat → Host) (volumeId : String) (lunId : Int)
    (arrayIqn : String) (k : Nat) (within : k < 5)
    (empties : ∀ j < k, listed hosts (byPathPattern arrayIqn lunId) j = [])
    (found : listed hosts (byPathPattern arrayIqn lunId) k ≠ []) :
    (getMpathDevice hosts volumeId lunId arrayIqn).value =
      selectDevice volumeId lunId arrayIqn
        (deviceKeys (hosts k) (listed hosts (byPathPattern arrayIqn lunId) k)) := by
  have waited : waitForPathToExist hosts (byPathPattern arrayIqn lunId) 5 1 =
      ⟨(listed hosts (byPathPattern arrayIqn lunId) k, true, none),
        retryEffects (byPathPattern arrayIqn lunId) 1 k ++ [.glob (byPathPattern arrayIqn lunId)]⟩ := by
    simpa using waitForPathToExist.loop_found hosts (byPathPattern arrayIqn lunId) 1 k 5 0 none
      within (by simpa using empties) (by simpa using found)
  have nonempty : ¬ (listed hosts (byPathPattern arrayIqn lunId) k).length < 1 := by
    simpa [List.length_pos] using found
  simp only [getMpathDevice, waited, Run.bind_value, Run.listen_value, nonempty, sleeps_retry_glob,
    getMpathDevice.loop_value, Bool.not_true, Bool.false_eq_true, ite_false, if_false, deviceKeys]
  generalize List.foldl _ _ _ = keys
  rcases keys with _ | ⟨md, _ | ⟨other, devices⟩⟩ <;> rfl

private theorem foldl_insert_keys (paths keys : List String) (nodup : keys.Nodup) :
    (paths.foldl (fun keys path => keys.insert path) keys).Nodup ∧
      (paths.foldl (fun keys path => keys.insert path) keys).toFinset =
        keys.toFinset ∪ paths.toFinset := by
  induction paths generalizing keys with
  | nil => simp [nodup]
  | cons path paths ih =>
    obtain ⟨unique, same⟩ := ih (keys.insert path) nodup.insert
    refine ⟨unique, ?_⟩
    rw [List.foldl_cons, same]
    ext x
    simp only [Finset.mem_union, List.mem_toFinset, List.mem_insert_iff, List.mem_cons]
    tauto

theorem deviceKeys_nodup (host : Host) (devicePaths : List String) :
    (deviceKeys host devicePaths).Nodup :=
  (foldl_insert_keys _ [] List.nodup_nil).1

/-- The keys are the paths recorded for the links, each once. -/
theorem deviceKeys_toFinset (host : Host) (devicePaths : List String) :
    (deviceKeys host devicePaths).toFinset = (devicePaths.filterMap (mappedDevicePath host)).toFinset := by
  rw [deviceKeys, (foldl_insert_keys _ [] List.nodup_nil).2, List.toFinset_nil, Finset.empty_union]

/-- What `GetMpathDevice` returns for distinct keys, by how many there are. -/
private theorem keys_outcome (volumeId : String) (lunId : Int) (arrayIqn : String)
    (keys : List String) (nodup : keys.Nodup) :
    let result := selectDevice volumeId lunId arrayIqn keys
    (result.2 = none ↔ keys.toFinset.card = 1) ∧ (result.2 = none → result.1 ∈ keys.toFinset) ∧
      ((∃ found, result.2 = some (.multipleDmDevices volumeId lunId arrayIqn found) ∧
          found.toFinset = keys.toFinset) ↔ 2 ≤ keys.toFinset.card) ∧
      (result.2 = some (.multipleDeviceNotFoundForLun volumeId lunId arrayIqn) ↔
        keys.toFinset = ∅) := by
  rw [List.toFinset_card_of_nodup nodup]
  rcases keys with _ | ⟨md, _ | ⟨other, devices⟩⟩ <;> simp [selectDevice]

theorem selectDevice_mem (volumeId : String) (lunId : Int) (arrayIqn : String) (keys : List String)
    (selected : (selectDevice volumeId lunId arrayIqn keys).2 = none) :
    (selectDevice volumeId lunId arrayIqn keys).1 ∈ keys := by
  rcases keys with _ | ⟨md, _ | ⟨other, devices⟩⟩ <;> simp_all [selectDevice]

theorem getMultipathDisk_rooted (host : Host) (path : String) (rooted : path.data.head? = some '/')
    (mapped : (getMultipathDisk host path).value.1 ≠ "") :
    (getMultipathDisk host path).value.1.data.head? = some '/' := by
  revert mapped
  rw [getMultipathDisk_value]
  cases host.readlink path with
  | error err => simp
  | ok devicePath =>
    by_cases direct : hasPrefix (base devicePath) "dm-" = true
    · simp [direct, rooted]
    · cases host.glob "/sys/block/dm-*" with
      | error err => simp [direct]
      | ok dmPaths =>
        cases holder : holderOf host (base devicePath) dmPaths with
        | none => simp [direct, holder]
        | some dmPath => simp [direct, holder, join_dev_rooted]

/-- When the by-path globs list only paths the pattern matches, a device `GetMpathDevice`
returns is a rooted path: `/dev/dm-N` from a slave, or the by-path link itself. -/
theorem getMpathDevice_result_rooted (hosts : Nat → Host) (volumeId : String) (lunId : Int)
    (arrayIqn : String)
    (sound : ∀ j, ∀ link ∈ listed hosts (byPathPattern arrayIqn lunId) j,
      globMatches (byPathPattern arrayIqn lunId) link = true)
    (succeeded : (getMpathDevice hosts volumeId lunId arrayIqn).value.2 = none) :
    (getMpathDevice hosts volumeId lunId arrayIqn).value.1.data.head? = some '/' := by
  classical
  by_cases any : ∃ k, k < 5 ∧ listed hosts (byPathPattern arrayIqn lunId) k ≠ []
  · obtain ⟨within, found⟩ := Nat.find_spec any
    have empties : ∀ j < Nat.find any, listed hosts (byPathPattern arrayIqn lunId) j = [] :=
      fun j earlier => not_not.mp fun nonempty => Nat.find_min any earlier ⟨by omega, nonempty⟩
    rw [getMpathDevice_found hosts volumeId lunId arrayIqn _ within empties found] at succeeded ⊢
    have member := selectDevice_mem volumeId lunId arrayIqn _ succeeded
    generalize (selectDevice volumeId lunId arrayIqn _).1 = device at member
    rw [← List.mem_toFinset, deviceKeys_toFinset, List.mem_toFinset, List.mem_filterMap] at member
    obtain ⟨link, listedLink, mapped⟩ := member
    unfold mappedDevicePath at mapped
    split_ifs at mapped with unmapped
    cases mapped
    have patternRooted : (byPathPattern arrayIqn lunId).data.head? = some '/' := rfl
    exact getMultipathDisk_rooted _ link
      (globMatches_rooted _ link patternRooted (sound _ link listedLink)) fun empty => unmapped (.inr empty)
  · have empties : ∀ j < 5, listed hosts (byPathPattern arrayIqn lunId) j = [] :=
      fun j within => not_not.mp fun nonempty => any ⟨j, within, nonempty⟩
    rw [getMpathDevice_not_found hosts volumeId lunId arrayIqn empties] at succeeded
    cases succeeded

/-- The multipath device a link reaches through a slave: `/dev/` and the first
`/sys/block/dm-*` entry, in glob order, whose slaves list the link's target. -/
def slaveDevice (host : Host) (link : String) : Option String :=
  match host.readlink link, host.glob "/sys/block/dm-*" with
  | .ok devicePath, .ok dmPaths =>
    (holderOf host (base devicePath) dmPaths).map fun dmPath => join ["/dev", base dmPath]
  | _, _ => none

/-- The distinct devices the links reach through slaves. -/
def slaveDevices (host : Host) (links : List String) : Finset String :=
  ((links.filter (· ≠ "")).filterMap (slaveDevice host)).toFinset

/-- The link points straight at a dm device. -/
def pointsAtDm (host : Host) (link : String) : Bool :=
  match host.readlink link with
  | .ok devicePath => hasPrefix (base devicePath) "dm-"
  | .error _ => false

theorem mappedDevicePath_eq_slaveDevice (host : Host) (link : String) (named : link ≠ "")
    (notDm : pointsAtDm host link = false) :
    mappedDevicePath host link = slaveDevice host link := by
  unfold mappedDevicePath slaveDevice
  rw [getMultipathDisk_value]
  cases readlinked : host.readlink link with
  | error err => simp [named]
  | ok devicePath =>
    simp only [pointsAtDm, readlinked] at notDm
    cases listing : host.glob "/sys/block/dm-*" with
    | error err => simp [named, notDm]
    | ok dmPaths =>
      cases holder : holderOf host (base devicePath) dmPaths with
      | none => simp [named, notDm, holder]
      | some dmPath => simp [named, notDm, holder, join_dev_ne_empty]

theorem filterMap_mappedDevicePath (host : Host) (links : List String)
    (notDm : ∀ link ∈ links, pointsAtDm host link = false) :
    links.filterMap (mappedDevicePath host) = (links.filter (· ≠ "")).filterMap (slaveDevice host) := by
  induction links with
  | nil => rfl
  | cons link links ih =>
    have rest := ih fun other member => notDm other (List.mem_cons_of_mem _ member)
    by_cases empty : link = ""
    · simp [mappedDevicePath, empty, rest]
    · rw [List.filter_cons_of_pos (by simpa using empty), List.filterMap_cons, List.filterMap_cons,
        mappedDevicePath_eq_slaveDevice host link empty (notDm link (by simp)), rest]

/-- For every timeline of the host: when none of the five attempts lists a by-path link,
`GetMpathDevice` fails with "could not find path". Otherwise, with `S` the distinct devices the
links of the first listing reach through slaves, each through the first dm entry in glob order
that lists its target, and no link pointing straight at a dm device: `GetMpathDevice` succeeds
exactly when `S` has one device, and returns it; it fails with `MultipleDmDevicesError`, carrying
`S`, exactly when `S` has two or more; and with `MultipleDeviceNotFoundForLunError` exactly when
`S` is empty. -/
theorem getMpathDevice_slave_devices (hosts : Nat → Host) (volumeId : String) (lunId : Int)
    (arrayIqn : String) :
    ((∀ j < 5, listed hosts (byPathPattern arrayIqn lunId) j = []) →
      (getMpathDevice hosts volumeId lunId arrayIqn).value = ("", some .couldNotFindPath)) ∧
    ∀ k < 5, (∀ j < k, listed hosts (byPathPattern arrayIqn lunId) j = []) →
      listed hosts (byPathPattern arrayIqn lunId) k ≠ [] →
      (∀ link ∈ listed hosts (byPathPattern arrayIqn lunId) k, pointsAtDm (hosts k) link = false) →
      let devices := slaveDevices (hosts k) (listed hosts (byPathPattern arrayIqn lunId) k)
      let result := (getMpathDevice hosts volumeId lunId arrayIqn).value
      (result.2 = none ↔ devices.card = 1) ∧ (result.2 = none → result.1 ∈ devices) ∧
        ((∃ found, result.2 = some (.multipleDmDevices volumeId lunId arrayIqn found) ∧
            found.toFinset = devices) ↔ 2 ≤ devices.card) ∧
        (result.2 = some (.multipleDeviceNotFoundForLun volumeId lunId arrayIqn) ↔ devices = ∅) := by
  refine ⟨getMpathDevice_not_found hosts volumeId lunId arrayIqn, ?_⟩
  intro k within empties found notDm
  have keysDevices : (deviceKeys (hosts k) (listed hosts (byPathPattern arrayIqn lunId) k)).toFinset =
      slaveDevices (hosts k) (listed hosts (byPathPattern arrayIqn lunId) k) := by
    rw [deviceKeys_toFinset, filterMap_mappedDevicePath _ _ notDm, slaveDevices]
  rw [getMpathDevice_found hosts volumeId lunId arrayIqn k within empties found, ← keysDevices]
  exact keys_outcome volumeId lunId arrayIqn _ (deviceKeys_nodup _ _)

/-- On the sample node LUN 1 is listed at the first attempt, through one link to the slave `sdb`
of `dm-4`: one device, and `GetMpathDevice` succeeds. -/
theorem getMpathDevice_slave_devices_lun1 :
    listed (fun _ => sampleHost) (byPathPattern "iqn.x" 1) 0 ≠ [] ∧
      (∀ link ∈ listed (fun _ => sampleHost) (byPathPattern "iqn.x" 1) 0,
        pointsAtDm sampleHost link = false) ∧
      ((getMpathDevice (fun _ => sampleHost) "vol-test" 1 "iqn.x").value.2 = none ↔
        (slaveDevices sampleHost (listed (fun _ => sampleHost) (byPathPattern "iqn.x" 1) 0)).card =
          1) := by
  have found : listed (fun _ => sampleHost) (byPathPattern "iqn.x" 1) 0 ≠ [] := by decide
  have notDm : ∀ link ∈ listed (fun _ => sampleHost) (byPathPattern "iqn.x" 1) 0,
      pointsAtDm sampleHost link = false := by decide
  exact ⟨found, notDm, ((getMpathDevice_slave_devices (fun _ => sampleHost) "vol-test" 1
    "iqn.x").2 0 (by decide) (fun _ early => absurd early (Nat.not_lt_zero _)) found notDm).1⟩

/-- No link: `GetMpathDevice` fails with "could not find path", not with the sentinel. -/
theorem getMpathDevice_no_link_not_sentinel :
    (getMpathDevice (fun _ => Host.empty) "vol-test" 1 "iqn.x").value =
        ("", some .couldNotFindPath) ∧
      slaveDevices Host.empty [] = ∅ := by
  decide

/-- `GetMpathDevice` gives `/dev/dm-4` for LUN 1; `FlushMultipathDevice` of it runs
`multipath -f /dev//dev/dm-4`, which fails, finds that path missing and reports success, though
`/dev/dm-4` is still there and was never flushed. -/
theorem flushMultipathDevice_of_getMpathDevice_misses_device :
    (getMpathDevice (fun _ => sampleHost) "vol-test" 1 "iqn.x").value = ("/dev/dm-4", none) ∧
      flushMultipathDevice sampleHost ⟨0⟩ "/dev/dm-4" =
        ⟨none, [.lock 0, .executeWithTimeout 10000 "multipath" ["-f", "/dev//dev/dm-4"], .unlock 0,
          .openRead "/dev//dev/dm-4"]⟩ ∧
      sampleHost.openRead "/dev/dm-4" = .ok () := by
  refine ⟨by decide, by decide, rfl⟩

end BlockCsi.Node
