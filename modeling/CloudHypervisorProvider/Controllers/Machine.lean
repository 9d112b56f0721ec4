import CloudHypervisorProvider.Controllers.Volumes
import CloudHypervisorProvider.Controllers.Nics

/-! # The machine reconciler

`reconcileMachine` is one pass for one machine id: teardown for a machine marked
deleted, otherwise finalizer, then `reconcileLive` (directories, image, API socket,
VMM, NIC objects, volumes, VM creation) and `reconcileVm` (identity check, power,
hot-plug, final status write). `processNextWorkItem` re-queues the id of a failed pass.
-/

namespace CloudHypervisorProvider.Controllers
open Go Api Client

def getMachineState (r : MachineReconciler) (machine : Machine) : Pass VmInfoState := do
  let apiSocket := machine.spec.apiSocketPath.getD ""
  match ← call (fun _ => none) (World.vmmGetVM r apiSocket) with
  | .error err =>
    if err.is .vmNotCreated || err.is .vmmNotFound then pure .shutdown else throw (.error err)
  | .ok none => throw .nilDereference
  | .ok (some vm) => pure (if vm.state = .running then .running else .shutdown)

def ignoreErrNotFound {α : Type} : Except Err α → Option Err
  | .ok _ => none
  | .error e => if e.is .notFound then none else some e

/-- The NIC loop of `deleteMachine`; the result is `allNicsDeleted`. A lookup
that fails with an error other than not-found leaves `nic` nil, and
`removeFinalizerFromNIC` dereferences it. -/
def deleteMachineNics (machine : Machine) : List NetworkInterfaceSpec → Bool → Pass Bool
  | [], allNicsDeleted => pure allNicsDeleted
  | machineNic :: rest, allNicsDeleted => do
    let nicName := getNicID machine.metadata.id machineNic.name
    let res ← call (fun _ => none) (World.nicsGet nicName)
    if isErr res .notFound then deleteMachineNics machine rest allNicsDeleted
    else
      match res with
      | .error _ => throw .nilDereference
      | .ok nic => do
        let _ ← wrapErr "failed to remove finalizer from NIC" (removeFinalizerFromNIC nic)
        let err ← call (fun _ => some (.nicDelete nicName))
          (World.nicsDelete (getNicID machine.metadata.id machineNic.name))
        match ignoreErrNotFound err with
        | some e => throw (.error (.wrap ("failed to delete nic " ++ machineNic.name) e))
        | none => deleteMachineNics machine rest false

/-- `deleteMachine`. Power-off and VMM deletion address the VMM by the machine id,
and only `vmm.ErrNotFound` lets the teardown go on. -/
def deleteMachine (r : MachineReconciler) (machine : Machine) : Pass Unit := do
  let state ← getMachineState r machine
  if state = .running then
    let err ← call (fun _ => some (.powerOff machine.metadata.id)) (World.vmmPowerOff machine.metadata.id)
    if !isErr err .vmmNotFound then throw (.error (errorf "failed to power off machine" err))
  let err ← call (fun _ => some (.deleteVmm machine.metadata.id)) (World.vmmDelete machine.metadata.id)
  if !isErr err .vmmNotFound then throw (.error (errorf "failed to kill VMM" err))
  let allNicsDeleted ← deleteMachineNics machine machine.spec.networkInterfaces true
  if !allNicsDeleted then return
  let machineDir := r.paths.machineDir machine.metadata.id
  let _ ← check "failed to remove machine directory"
    (call (fun _ => some (.removeAll machineDir)) (World.removeAll machineDir))
  let machine := { machine with metadata.finalizers := machine.metadata.finalizers.erase MachineFinalizer }
  let res ← call (fun _ => some (.machineUpdate machine.metadata.id)) (World.machinesUpdate machine)
  if let some e := ignoreErrNotFound res then
    throw (.error (.wrap "failed to update machine metadata" e))

/-- `host.MakeMachineDirs`: `os.MkdirAll` of each directory, stopping at the first failure. -/
def makeMachineDirs (paths : Host.Paths) (machineUID : String) : Pass Unit :=
  (Host.machineDirs paths machineUID).forM fun dir => do
    let _ ← check dir.2 (call (fun _ => some (.mkdirAll dir.1)) (World.mkdirAll dir.1))

/-- `reconcileImage`; the result is whether the pass stops to wait for the pull. -/
def reconcileImage (r : MachineReconciler) (machine : Machine) : Pass Bool := do
  let image := machine.spec.image.getD ""
  if image = "" then return false
  match ← call (fun _ => none) (World.imageGet image) with
  | .error err =>
    if err.is .imagePulling then return true
    throw (.error (.wrap "failed to get image from cache" err))
  | .ok () =>
    let rootFSFile := r.paths.machineRootFSFile machine.metadata.id
    match ← call (fun _ => none) (World.regularFileExists rootFSFile) with
    | .error err => throw (.error err)
    | .ok exists_ =>
      if !exists_ then
        let _ ← check "error creating root fs disk"
          (call (fun _ => some (.rawCreate rootFSFile)) (World.rawCreate rootFSFile))
      return false

/-- Where a pass of `reconcileMachine` that returns nil ended; Go returns only the nil. -/
inductive Exit where
  | machineGone
  | deleted
  | finalizerAdded
  | imagePulling
  | nicsNotReady
  | vmCreated
  | reconciled
  deriving Repr, DecidableEq

/-- Step 6 of `reconcileMachine`: a machine without an API socket gets one, persisted. -/
def assignApiSocket (r : MachineReconciler) (machine : Machine) : Pass Machine :=
  if machine.spec.apiSocketPath.isNone then do
    let sock ← check "failed to get free api socket" (call (fun _ => none) (World.getFreeApiSocket r))
    let machine := { machine with spec.apiSocketPath := sock }
    check "failed to update machine status"
      (call (fun _ => some (.machineUpdate machine.metadata.id)) (World.machinesUpdate machine))
  else pure machine

/-- Step 12 of `reconcileMachine`: drive the VM to the spec's power state. -/
def reconcilePower (apiSocket : String) (power : Power) (vm : VmInfo) : Pass Unit :=
  match power with
  | .powerOn =>
    if vm.state ≠ .running then
      check "failed to power on VM" (call (fun _ => some (.powerOn apiSocket)) (World.vmmPowerOn apiSocket))
    else pure ()
  | .powerOff =>
    if vm.state = .running then
      check "failed to power off VM" (call (fun _ => some (.powerOff apiSocket)) (World.vmmPowerOff apiSocket))
    else pure ()

/-- Step 15 of `reconcileMachine`: the state follows the spec's power, the NIC
statuses follow the NIC objects. -/
def finalRecord (nics : NicMap) (machine : Machine) : Machine :=
  { machine with
    status.state := match machine.spec.power with
      | .powerOn => .running
      | .powerOff => .terminated
    status.networkInterfaceStatus := machineNicStatuses nics machine.spec.networkInterfaces }

/-- Steps 11–15 of `reconcileMachine`, once `vm.info` has reported the VM: identity
check, power, NIC and disk hot-plug, and the final status write. -/
def reconcileVm (machine : Machine) (nics : NicMap) (vm : VmInfo) : Pass Exit :=
  if (vm.config.platform.getD {}).uuid.getD "" ≠ machine.metadata.id then
    throw (.error (.other "machine and vm IDs do not match"))
  else do
    let apiSocket := machine.spec.apiSocketPath.getD ""
    reconcilePower apiSocket machine.spec.power vm
    wrapErr "failed to reconcile nics" (reconcileNics machine nics (vm.config.devices.getD []))
    let machine ← wrapErr "failed to attach detach disks" (attachDetachDisks machine vm.config)
    let machine := finalRecord nics machine
    let _ ← check "failed to update machine status"
      (call (fun _ => some (.machineUpdate machine.metadata.id)) (World.machinesUpdate machine))
    return .reconciled

/-- Steps 4–10 of `reconcileMachine`, for a stored machine that is not marked deleted
and carries the finalizer. -/
def reconcileLive (r : MachineReconciler) (machine : Machine) : Pass Exit := do
  wrapErr "error making machine directories" (makeMachineDirs r.paths machine.metadata.id)
  if ← reconcileImage r machine then return .imagePulling else
  let machine ← assignApiSocket r machine
  let apiSocket := machine.spec.apiSocketPath.getD ""
  let _ ← check "failed to ping vmm" (call (fun _ => none) (World.vmmPing apiSocket))
  let nics ← materializeNics machine machine.spec.networkInterfaces []
  let machine ← wrapErr "failed to reconcile volumes" (reconcileVolumes r machine)
  match ← call (fun _ => none) (World.vmmGetVM r apiSocket) with
  | .error err =>
    if !err.is .vmNotCreated then throw (.error (.wrap "failed to get vm" err))
    else if !nicsReady nics then return .nicsNotReady
    else do
      let _ ← check "failed to create VM"
        (call (fun _ => some (.createVM apiSocket)) (World.vmmCreateVM r machine))
      nics.forM fun p => wrapErr "failed to add finalizer to NIC" (addFinalizerToNIC p.2)
      enqueue machine.metadata.id
      return .vmCreated
  | .ok none => throw .nilDereference
  | .ok (some vm) => reconcileVm machine nics vm

def reconcileMachine (r : MachineReconciler) (id : String) : Pass Exit := do
  match ← call (fun _ => none) (World.machinesGet id) with
  | .error err =>
    if !err.is .notFound then throw (.error (.wrap "failed to fetch machine from store" err))
    else return .machineGone
  | .ok machine =>
  if machine.metadata.deletedAt.isSome then do
    wrapErr "failed to delete machine" (deleteMachine r machine)
    return .deleted
  else if MachineFinalizer ∉ machine.metadata.finalizers then do
    let machine := { machine with metadata.finalizers := machine.metadata.finalizers ++ [MachineFinalizer] }
    let _ ← check "failed to set finalizers"
      (call (fun _ => some (.machineUpdate machine.metadata.id)) (World.machinesUpdate machine))
    return .finalizerAdded
  else reconcileLive r machine

/-- `processNextWorkItem` for a popped id: a failed pass is re-queued with
`AddRateLimited`; a panic ends the worker. -/
def processNextWorkItem (r : MachineReconciler) (id : String) : Pass Unit :=
  tryCatch (do let _ ← reconcileMachine r id) fun
    | .error _ => enqueue id
    | .nilDereference => throw .nilDereference

end CloudHypervisorProvider.Controllers
