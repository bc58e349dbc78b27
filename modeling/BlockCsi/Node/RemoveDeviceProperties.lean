import BlockCsi.Node.Rescan

/-!
# `RemoveIscsiDevice`

The loop stops at the first non-empty device name whose deletion fails, and it counts a
missing delete file as a failure: after a not-exist open it writes to the nil `*os.File`, and
the write returns `os.ErrInvalid`. Empty names are skipped. A run splits the non-empty names
into the ones deleted, in order, and the rest, headed by the name it stopped at.
-/

set_option autoImplicit false

namespace BlockCsi.Node

/-- The error `RemoveIscsiDevice` stops with at a non-empty device name, if any. -/
def deleteError (host : Host) (deviceName : String) : Option GoError :=
  match host.openFile (deleteFilename deviceName) with
  | .error err => some (if err.isNotExist then .invalid else err)
  | .ok () =>
    match host.writeString (deleteFilename deviceName) "1" with
    | .error err => some err
    | .ok _ => none

/-- The write at a device name: made only when its delete file opened. -/
def deleteWrites (host : Host) (deviceName : String) : List (String × String) :=
  if (host.openFile (deleteFilename deviceName)).isOk then [(deleteFilename deviceName, "1")] else []

theorem deleteError_eq_none (host : Host) (deviceName : String) :
    deleteError host deviceName = none ↔
      host.openFile (deleteFilename deviceName) = .ok () ∧
        ∃ written, host.writeString (deleteFilename deviceName) "1" = .ok written := by
  unfold deleteError
  split <;> split <;> simp_all

namespace removeIscsiDevice

variable (host : Host) (deviceName : String) (sysDevices : List String)

theorem loop_empty : loop host ("" :: sysDevices) = loop host sysDevices := by
  simp [loop]

theorem loop_deleted (named : deviceName ≠ "") (deleted : deleteError host deviceName = none) :
    (loop host (deviceName :: sysDevices)).value = (loop host sysDevices).value ∧
      writes (loop host (deviceName :: sysDevices)).effects =
        (deleteFilename deviceName, "1") :: writes (loop host sysDevices).effects := by
  obtain ⟨opened, written, wrote⟩ := (deleteError_eq_none host deviceName).mp deleted
  simp [loop, named, opened, wrote]

theorem loop_failed (named : deviceName ≠ "") (err : GoError)
    (failed : deleteError host deviceName = some err) :
    (loop host (deviceName :: sysDevices)).value = some err ∧
      writes (loop host (deviceName :: sysDevices)).effects = deleteWrites host deviceName := by
  unfold deleteError at failed
  cases opened : host.openFile (deleteFilename deviceName) with
  | error openErr =>
    cases missing : openErr.isNotExist <;>
      simp_all [loop, deleteWrites, Except.isOk, Except.toBool]
  | ok =>
    cases wrote : host.writeString (deleteFilename deviceName) "1" <;>
      simp_all [loop, deleteWrites, Except.isOk, Except.toBool]

/-- Empty names are skipped: the loop runs as on the non-empty names alone. -/
theorem loop_filter : loop host sysDevices = loop host (sysDevices.filter (· ≠ "")) := by
  induction sysDevices with
  | nil => rfl
  | cons deviceName sysDevices ih =>
    by_cases empty : deviceName = ""
    · subst empty
      simpa [loop_empty] using ih
    · rw [List.filter_cons_of_pos (by simpa using empty)]
      simp only [loop, empty, if_false, ih]

end removeIscsiDevice

/-- For every list of device names and every `/sys/block` state, `RemoveIscsiDevice` deletes the
non-empty names in list order, writing `1` once to each delete file, until the first name whose
delete file is missing, refuses the open or refuses the write. It stops there with that name's
error, `os.ErrInvalid` for a missing file, having also written to that name's delete file if it
opened; it returns nil only when no name fails. -/
theorem removeIscsiDevice_stops_at_first_failure (host : Host) (sysDevices : List String) :
    ∃ deleted rest, sysDevices.filter (· ≠ "") = deleted ++ rest ∧
      (∀ deviceName ∈ deleted, deleteError host deviceName = none) ∧
      match rest with
      | [] =>
        (removeIscsiDevice host sysDevices).value = none ∧
          writes (removeIscsiDevice host sysDevices).effects =
            deleted.map fun deviceName => (deleteFilename deviceName, "1")
      | failed :: _ =>
        (deleteError host failed).isSome ∧
          (removeIscsiDevice host sysDevices).value = deleteError host failed ∧
          writes (removeIscsiDevice host sysDevices).effects =
            (deleted.map fun deviceName => (deleteFilename deviceName, "1")) ++
              deleteWrites host failed := by
  have named (deviceName : String) (member : deviceName ∈ sysDevices.filter (· ≠ "")) :
      deviceName ≠ "" := by simpa using (List.mem_filter.mp member).2
  rw [removeIscsiDevice, removeIscsiDevice.loop_filter]
  obtain ⟨deleted, rest, split, allDeleted, outcome⟩ :=
    loop_splits_at_first_failure (removeIscsiDevice.loop host) (deleteError host)
      (fun deviceName => (deleteFilename deviceName, "1")) (deleteWrites host) _ rfl
      (fun deviceName member rest deleted =>
        removeIscsiDevice.loop_deleted host deviceName rest (named deviceName member) deleted)
      (fun deviceName member rest err failed =>
        removeIscsiDevice.loop_failed host deviceName rest (named deviceName member) err failed)
  exact ⟨deleted, rest, split, allDeleted, by cases rest <;> exact outcome⟩

/-- `sdb` is gone and `sdc` is present. `RemoveIscsiDevice` writes to the nil file of `sdb`,
returns `os.ErrInvalid` and never deletes `sdc`. -/
theorem removeIscsiDevice_missing_device_invalid :
    removeIscsiDevice
        { Host.empty with
          openFile := fun name => if name = deleteFilename "sdc" then .ok () else .error .notExist
          writeString := fun _ s => .ok s.length }
        ["sdb", "sdc"] =
      ⟨some .invalid, [.openFile "/sys/block/sdb/device/delete"]⟩ := by
  decide

end BlockCsi.Node
