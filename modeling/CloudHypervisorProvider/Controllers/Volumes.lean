import CloudHypervisorProvider.Controllers.World

/-! # Volumes

`reconcileVolumes` deletes every volume marked deleted whose recorded status is not
`Attached` and applies the others; `attachDetachDisks` then hot-plugs and unplugs disks.
Both decide from the record's status list and write the record back only at the end.
-/

namespace CloudHypervisorProvider.Controllers
open Go Api Client

def getVolumeStatus (volumes : List VolumeStatus) (name : String) : VolumeStatus :=
  match volumes.find? (·.name = name) with
  | some vol => vol
  | none => { name := name, state := .pending }

@[simp] theorem getVolumeStatus_name (volumes : List VolumeStatus) (name : String) :
    (getVolumeStatus volumes name).name = name := by
  unfold getVolumeStatus
  split
  · next h => simpa using List.find?_some h
  · rfl

/-- The loop of `reconcileVolumes`: the volume entries it keeps, with their statuses. -/
def reconcileVolumesLoop (r : MachineReconciler) (machine : Machine) :
    List VolumeSpec → Pass (List VolumeSpec × List VolumeStatus)
  | [] => pure ([], [])
  | vol :: vols => do
    let plugin ← check "failed to find plugin"
      (call (fun _ => none) fun w => (r.volumePluginManager.findPluginBySpec vol, w))
    let status := getVolumeStatus machine.status.volumeStatus vol.name
    if vol.deletedAt.isSome ∧ status.state ≠ .attached then
      let _ ← check ("failed to delete volume " ++ vol.name)
        (call (fun w => some (.volumeDelete machine.metadata.id vol.connection.handle
            (vol.connection.handle ∈ w.liveDisks machine.metadata.id)))
          fun w => (plugin.delete vol.connection.handle machine.metadata.id, w))
      reconcileVolumesLoop r machine vols
    else
      let applied ← check "failed to apply volume"
        (call (fun _ => none) fun w => (plugin.apply vol machine.metadata.id, w))
      let applied := if status.state = .attached then { applied with state := status.state } else applied
      let kept ← reconcileVolumesLoop r machine vols
      pure (vol :: kept.1, applied :: kept.2)

def reconcileVolumes (r : MachineReconciler) (machine : Machine) : Pass Machine := do
  let kept ← reconcileVolumesLoop r machine machine.spec.volumes
  let machine := { machine with spec.volumes := kept.1, status.volumeStatus := kept.2 }
  let _ ← check "failed to update machine status"
    (call (fun _ => some (.machineUpdate machine.metadata.id)) (World.machinesUpdate machine))
  pure machine

/-- The loop of `attachDetachDisks` over the volume entries, given the ids of
the VM's disks: the statuses it keeps. -/
def attachDetachDisksLoop (machine : Machine) (apiSocket : String) (currentDevices : List String) :
    List VolumeSpec → Pass (List VolumeStatus)
  | [] => pure []
  | vol :: vols => do
    let status := getVolumeStatus machine.status.volumeStatus vol.name
    if vol.deletedAt.isNone then
      if status.handle ∉ currentDevices ∧ status.state ≠ .prepared then
        attachDetachDisksLoop machine apiSocket currentDevices vols
      else
        if status.handle ∉ currentDevices then
          let _ ← check ("failed to add disk " ++ vol.name)
            (call (fun _ => some (.addDisk apiSocket status.handle)) (World.vmmAddDisk apiSocket status))
        let kept ← attachDetachDisksLoop machine apiSocket currentDevices vols
        pure ({ status with state := .attached } :: kept)
    else if status.handle ∈ currentDevices then
      let _ ← check ("failed to remove disk " ++ vol.name)
        (call (fun _ => some (.removeDevice apiSocket status.handle))
          (World.vmmRemoveDevice apiSocket status.handle))
      let kept ← attachDetachDisksLoop machine apiSocket currentDevices vols
      pure (status :: kept)
    else
      let kept ← attachDetachDisksLoop machine apiSocket currentDevices vols
      pure ({ status with state := .prepared } :: kept)

def attachDetachDisks (machine : Machine) (vm : VmConfig) : Pass Machine := do
  let apiSocket := machine.spec.apiSocketPath.getD ""
  let currentDevices := (vm.disks.getD []).filterMap DiskConfig.id
  let kept ← attachDetachDisksLoop machine apiSocket currentDevices machine.spec.volumes
  let machine := { machine with status.volumeStatus := kept }
  let _ ← check "failed to update machine status"
    (call (fun _ => some (.machineUpdate machine.metadata.id)) (World.machinesUpdate machine))
  pure machine

end CloudHypervisorProvider.Controllers
