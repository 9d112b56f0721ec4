import CloudHypervisorProvider.Controllers.Converge
import CloudHypervisorProvider.Controllers.ReconcileVolumes
import CloudHypervisorProvider.System.Run

/-! # Volumes across passes

`attachDetachDisks` hot-plugs and unplugs disks before its final status write, while
`reconcileVolumes` decides from the persisted statuses. A pass that stops between the
two leads the next one to `Delete` a live disk, and a disk unplugged for a deleted
volume stays `Attached` in the record until the next pass rewrites it.
-/

namespace CloudHypervisorProvider.System
open Go Api Client Controllers

/-- After a pass that returns at its final status write, the record's volume statuses
pair in order, under the same names, with the machine's volume entries less those the
disk loop skips: an entry not marked deleted whose disk was not live when the pass began
and whose status, as the pass's `Apply` left it, is not `Prepared`. The entry of a volume
not marked deleted is `Attached`, with its disk live in the VM behind the machine's
socket. The entry of a volume marked deleted has no live disk, and it is `Prepared`
unless its disk was live when the pass began, that is unless the pass itself unplugged
it. -/
theorem reconcileMachine_volumeStatus (r : MachineReconciler) (id : String) (w w' : World) (fs fs' : Faults)
    (h : reconcileMachine r id (w, fs) = .ok .reconciled (w', fs'))
    (hunique : ∀ key info, w.vmAt key = some info → (deviceIds info).Nodup)
    (hhandles : ∀ m, w'.machines.get id = some m → (m.status.volumeStatus.map (·.handle)).Nodup) :
    ∃ stored m, w.machines.get id = some stored ∧ w'.machines.get id = some m ∧
      ∃ read, List.Forall₂ (AppliedStatus r stored) m.spec.volumes read ∧
      List.Forall₂ (fun vol st => st.name = vol.name ∧
          (vol.deletedAt = none → st.state = .attached ∧ st.handle ∈ w'.liveDisks id) ∧
          (vol.deletedAt.isSome → st.handle ∉ w'.liveDisks id ∧
            (st.state = .prepared ∨ st.handle ∈ w.disksAt (m.spec.apiSocketPath.getD ""))))
        (m.spec.volumes.filter fun vol => vol.deletedAt.isSome ∨
          (getVolumeStatus read vol.name).handle ∈ w.disksAt (m.spec.apiSocketPath.getD "") ∨
          (getVolumeStatus read vol.name).state = .prepared)
        m.status.volumeStatus := by
  obtain ⟨stored, machine, nics, vm, s₁, s₅, s₆, hstored, rfl, hdel, hloop, hvm₀, hvm, hrec⟩ :=
    reconcileMachine_reconciled_vm h
  obtain ⟨info, hinfo, hget, hlive⟩ := reconcileVm_disks hrec hvm (hunique _ _ hvm₀) hdel
  have hdisks : w'.liveDisks machine.metadata.id =
      diskIds (machine.spec.volumes.foldl (diskChange machine (diskIds vm)) info) := by
    rw [World.liveDisks_of_get hget]
    simp [World.disksAt, finalRecord, hlive]
  have hstart : w.disksAt (machine.spec.apiSocketPath.getD "") = diskIds vm := by
    simp [World.disksAt, hvm₀]
  have hfor := forall₂_filter_filterMap (diskStatus machine (diskIds vm)) machine.spec.volumes
  simp only [diskStatus_isSome] at hfor
  refine ⟨stored, _, hstored, hget, machine.status.volumeStatus, (reconcileVolumesLoop_returns hloop).2.1, ?_⟩
  dsimp only [finalRecord]
  rw [hstart]
  refine hfor.imp fun vol st ⟨hmem, hs⟩ => ?_
  have hm := foldl_diskChange_mem (fun _ => by rw [hinfo]) (hhandles _ hget) hmem hs
  have hstate := diskStatus_state hs
  refine ⟨diskStatus_name hs, fun hd => ⟨hstate.1 hd, by rw [hdisks]; exact hm.mpr hd⟩,
    fun hd => ⟨by rw [hdisks, hm]; exact Option.ne_none_iff_isSome.mpr hd, hstate.2 hd⟩⟩

/-- Two passes with nothing between them. When the first returns at its final status
write for a stored machine none of whose volume or NIC entries and none of whose NIC
objects is marked deleted, whose NIC names come back from their object ids, and whose
volumes it all attached, the second, with nothing failing, returns there too: it
writes the record back as it is and sends no request but record writes and host
directory and file creations, so it changes no VM, no NIC object and no volume. -/
theorem reconcileMachine_idempotent (r : MachineReconciler) (id : String) (w w₁ : World) (fs fs₁ : Faults)
    (machine : Machine) (h : reconcileMachine r id (w, fs) = .ok .reconciled (w₁, fs₁))
    (hstored : w.machines.get id = some machine)
    (hvols : ∀ vol ∈ machine.spec.volumes, vol.deletedAt = none)
    (hnics : ∀ n ∈ machine.spec.networkInterfaces, n.deletedAt = none ∧
      getNicName (getNicID id n.name) = some n.name ∧
      ∀ nic, w.nics.get (getNicID id n.name) = some nic → nic.metadata.deletedAt = none)
    (hall : ∀ m, w₁.machines.get id = some m → m.status.volumeStatus.length = m.spec.volumes.length) :
    ∃ w₂, reconcileMachine r id (w₁, []) = .ok .reconciled (w₂, []) ∧
      w₂.machines = w₁.machines ∧ w₂.nics = w₁.nics ∧ w₂.processes = w₁.processes ∧
      ∃ calls, w₂.calls = w₁.calls ++ calls ∧
        ∀ c ∈ calls, c = .machineUpdate id ∨ (∃ path, c = .mkdirAll path) ∨ ∃ path, c = .rawCreate path := by
  obtain ⟨machine', rfl, hs⟩ := reconcileMachine_settles h hstored hvols hnics hall
  obtain ⟨w₂, h₂, hq, hm⟩ := reconcileMachine_settled hs
  exact ⟨w₂, h₂, hm, hq.nics, hq.processes, hq.calls⟩

section Runs

attribute [local simp] run step initial resultWorld processNextWorkItem_eq reconcileMachine reconcileLive
  reconcileVm assignApiSocket finalRecord reconcilePower deleteMachine getMachineState deleteMachineNics
  makeMachineDirs reconcileImage materializeNics reconcileVolumes fetchNic reconcileVolumesLoop reconcileNics
  reconcileNicsDevices reconcileNicsAdd attachDetachDisks attachDetachDisksLoop machineNicStatuses
  addFinalizerToNIC removeFinalizerFromNIC nicsReady setNic enqueue check wrapErr isErr errorf
  ignoreErrNotFound getVolumeStatus MachineFinalizer getNicID World.machinesGet World.machinesUpdate
  World.nicsGet World.nicsCreate World.nicsUpdate World.nicsDelete World.getFreeApiSocket firstFreeSocket
  World.vmmPing World.vmmGetVM World.manager World.vmmCreateVM World.changeVm World.addToVm deviceIds diskIds
  netIds withState withDisk withNet withoutDevice World.vmmPowerOn World.vmmPowerOff World.vmmAddDisk
  World.vmmAddNIC World.vmmRemoveDevice World.vmmDelete World.mkdirAll World.removeAll World.regularFileExists
  World.rawCreate World.imageGet World.setProcess World.liveDisks World.liveDevices Store.write Process.client
  Client.Response.bare Client.Response.ok200 Vmm.Manager.getVM Vmm.Manager.createVMPayload Host.machineDirs
  Host.pathsAt Host.join EStateM.bind EStateM.map EStateM.adaptExcept EStateM.modifyGet pass_bind pass_map
  pass_modify toString_zero

def volumeMachine : Machine where
  metadata := { id := "m1" }
  spec := { power := .powerOn, cpuMillis := 2000, volumes := [{ name := "vol-1", connection := ⟨"h1"⟩ }] }

/-- Create the machine and its VM; the plugin prepares the volume. -/
def volumeVmCreated : List Event :=
  [.createMachine volumeMachine, .reconcile "m1" [], .reconcile "m1" []]

def volumeMarkedDeleted : MachineSpec :=
  { volumeMachine.spec with volumes := [{ name := "vol-1", connection := ⟨"h1"⟩, deletedAt := some 1 }] }

/-- A pass hot-plugs the volume's disk and then loses its final status write to a
conflicting update; the volume is then marked deleted, and the next pass runs. -/
def volumeLostWrite : List Event :=
  volumeVmCreated ++ [.reconcile "m1" (List.replicate 13 none ++ [some (.other "resource version not latest")]),
    .updateMachineSpec "m1" volumeMarkedDeleted, .reconcile "m1" []]

/-- The plugin's `Delete` is called for the volume while the machine's live VM
still has the volume's disk. -/
theorem plugin_delete_with_live_disk :
    Call.volumeDelete "m1" "h1" true ∈ (run exampleReconciler volumeLostWrite initial).calls := by
  simp [volumeLostWrite, volumeVmCreated, volumeMarkedDeleted, volumeMachine, exampleReconciler, localPlugin]

/-- The disk is hot-plugged by a pass that returns nil; then the volume is marked deleted. -/
def volumeAttachedThenDeleted : List Event :=
  volumeVmCreated ++ [.reconcile "m1" [], .updateMachineSpec "m1" volumeMarkedDeleted]

/-- The pass that unplugs the disk of a volume marked deleted returns nil after its
final status write with the volume's status still `Attached`. -/
theorem attached_status_without_disk :
    ∃ w, reconcileMachine exampleReconciler "m1" (run exampleReconciler volumeAttachedThenDeleted initial, []) =
      .ok .reconciled (w, []) ∧
    (w.machines.get "m1").map (·.status.volumeStatus) = some [{ name := "vol-1", handle := "h1", state := .attached }] ∧
    "h1" ∉ w.liveDisks "m1" := by
  simp [volumeAttachedThenDeleted, volumeVmCreated, volumeMarkedDeleted, volumeMachine, exampleReconciler,
    localPlugin]

def volumeAttached : List Event := volumeVmCreated ++ [.reconcile "m1" []]

theorem volumeAttached_pass :
    reconcileMachine exampleReconciler "m1" (run exampleReconciler volumeVmCreated initial, []) =
      .ok .reconciled (run exampleReconciler volumeAttached initial, []) := by
  simp [volumeAttached, volumeVmCreated, volumeMachine, exampleReconciler, localPlugin]

theorem volumeAttached_m1 : (run exampleReconciler volumeAttached initial).machines.get "m1" = some
    { volumeMachine with
      metadata.finalizers := [MachineFinalizer], spec.apiSocketPath := some "/run/chp/0",
      status := { state := .running, volumeStatus := [{ name := "vol-1", handle := "h1", state := .attached }] } } := by
  simp [volumeAttached, volumeVmCreated, volumeMachine, exampleReconciler, localPlugin]

theorem reconcileMachine_volumeStatus_attached :
    ∃ stored m, (run exampleReconciler volumeVmCreated initial).machines.get "m1" = some stored ∧
      (run exampleReconciler volumeAttached initial).machines.get "m1" = some m ∧
      ∃ read, List.Forall₂ (AppliedStatus exampleReconciler stored) m.spec.volumes read ∧
      List.Forall₂ (fun vol st => st.name = vol.name ∧
          (vol.deletedAt = none → st.state = .attached ∧
            st.handle ∈ (run exampleReconciler volumeAttached initial).liveDisks "m1") ∧
          (vol.deletedAt.isSome → st.handle ∉ (run exampleReconciler volumeAttached initial).liveDisks "m1" ∧
            (st.state = .prepared ∨
              st.handle ∈ (run exampleReconciler volumeVmCreated initial).disksAt (m.spec.apiSocketPath.getD ""))))
        (m.spec.volumes.filter fun vol => vol.deletedAt.isSome ∨
          (getVolumeStatus read vol.name).handle ∈
            (run exampleReconciler volumeVmCreated initial).disksAt (m.spec.apiSocketPath.getD "") ∨
          (getVolumeStatus read vol.name).state = .prepared)
        m.status.volumeStatus :=
  reconcileMachine_volumeStatus exampleReconciler "m1" _ _ [] [] volumeAttached_pass
    (vmIdsUnique_of_reachable (reachable_run .initial _))
    (fun m hm => by rw [volumeAttached_m1] at hm; cases hm; decide)

theorem reconcileMachine_idempotent_attached :
    ∃ w₂, reconcileMachine exampleReconciler "m1" (run exampleReconciler volumeAttached initial, []) =
        .ok .reconciled (w₂, []) ∧
      w₂.machines = (run exampleReconciler volumeAttached initial).machines ∧
      w₂.nics = (run exampleReconciler volumeAttached initial).nics ∧
      w₂.processes = (run exampleReconciler volumeAttached initial).processes ∧
      ∃ calls, w₂.calls = (run exampleReconciler volumeAttached initial).calls ++ calls ∧
        ∀ c ∈ calls, c = .machineUpdate "m1" ∨ (∃ path, c = .mkdirAll path) ∨ ∃ path, c = .rawCreate path :=
  reconcileMachine_idempotent exampleReconciler "m1" (run exampleReconciler volumeVmCreated initial) _ [] []
    { volumeMachine with metadata.finalizers := [MachineFinalizer], spec.apiSocketPath := some "/run/chp/0",
                         status.volumeStatus := [{ name := "vol-1", handle := "h1", state := .prepared }] }
    volumeAttached_pass
    (by simp [volumeVmCreated, volumeMachine, exampleReconciler, localPlugin])
    (by simp [volumeMachine])
    (by simp [volumeMachine])
    (fun m hm => by rw [volumeAttached_m1] at hm; cases hm; rfl)

end Runs

end CloudHypervisorProvider.System
