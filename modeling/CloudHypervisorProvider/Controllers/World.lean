import CloudHypervisorProvider.Api
import CloudHypervisorProvider.Vmm.Manager
import CloudHypervisorProvider.Controllers.NicId

/-! # The reconciler's collaborators

The machine and NIC stores, the cloud-hypervisor processes, the host files, the image
cache and the work queue form one world. A pass is an `EStateM` computation over the
world and a script of faults that can make any collaborator call fail, so the effects
of a pass that stops early stay in the world.
-/

namespace CloudHypervisorProvider.Controllers
open Go Api Client Vmm

def MachineFinalizer : String := "machine"

/-- `store.Store`: objects kept under their own ids. -/
structure Store (α : Type) (meta : α → Metadata) where
  get : String → Option α
  keyed : ∀ k x, get k = some x → (meta x).id = k

namespace Store
variable {α : Type} {meta : α → Metadata}

def empty : Store α meta := ⟨fun _ => none, fun _ _ h => nomatch h⟩

def put (s : Store α meta) (x : α) : Store α meta where
  get k := if k = (meta x).id then some x else s.get k
  keyed k y h := by
    dsimp only at h
    split_ifs at h with hk
    · cases h; exact hk.symm
    · exact s.keyed k y h

def remove (s : Store α meta) (k : String) : Store α meta where
  get j := if j = k then none else s.get j
  keyed j y h := by
    dsimp only at h
    split_ifs at h
    exact s.keyed j y h

/-- A write: the store drops an object marked deleted that has no finalizer left. -/
def write (s : Store α meta) (x : α) : Store α meta :=
  if (meta x).deletedAt.isSome ∧ (meta x).finalizers = [] then s.remove (meta x).id else s.put x

@[ext] theorem ext {s t : Store α meta} (h : ∀ k, s.get k = t.get k) : s = t := by
  cases s; cases t; congr; funext k; exact h k

@[simp] theorem get_empty (k : String) : (empty : Store α meta).get k = none := rfl

@[simp] theorem get_put (s : Store α meta) (x : α) (k : String) :
    (s.put x).get k = if k = (meta x).id then some x else s.get k := rfl

theorem get_write_of_live (s : Store α meta) (x : α) (h : (meta x).deletedAt = none) (k : String) :
    (s.write x).get k = if k = (meta x).id then some x else s.get k := by
  simp [write, h]

@[simp] theorem get_remove (s : Store α meta) (j k : String) :
    (s.remove k).get j = if j = k then none else s.get j := rfl

theorem get_write (s : Store α meta) (x : α) (j : String) :
    (s.write x).get j = if j = (meta x).id then
      (if (meta x).deletedAt.isSome ∧ (meta x).finalizers = [] then none else some x) else s.get j := by
  unfold write
  split_ifs <;> simp_all

end Store

/-- A cloud-hypervisor process behind one API socket: the VM it hosts, once created. -/
structure Process where
  vm : Option VmInfo := none
  deriving Repr, DecidableEq

def Process.client (p : Process) : ClientWithResponses where
  getVmmPing := .ok (.ok200 "" ⟨""⟩)
  getVmInfo := match p.vm with
    | none => .ok (.bare 500 "VM is not created")
    | some info => .ok (.ok200 "" info)
  createVM _ := .ok (.bare 204 "")

/-- A request the controller sent that may change a collaborator. `volumeDelete`
also records whether the machine's live VM had a disk with that handle when the
request was sent. -/
inductive Call where
  | machineUpdate (id : String)
  | nicCreate (id : String)
  | nicUpdate (id : String)
  | nicDelete (id : String)
  | createVM (key : String)
  | powerOn (key : String)
  | powerOff (key : String)
  | addDisk (key id : String)
  | addNIC (key id : String)
  | removeDevice (key id : String)
  | deleteVmm (key : String)
  | volumeDelete (machineID handle : String) (diskLive : Bool)
  | mkdirAll (path : String)
  | removeAll (path : String)
  | rawCreate (path : String)
  deriving Repr, DecidableEq

structure World where
  machines : Store Machine Machine.metadata
  nics : Store NetworkInterface NetworkInterface.metadata
  processes : String → Option Process
  files : List String
  images : List String
  queue : List String
  calls : List Call

/-- Scripted collaborator results: `some e` makes the next call fail with `e`. -/
abbrev Faults := List (Option Err)

abbrev Pass := EStateM Abort (World × Faults)

def World.record (w : World) (request : World → Option Call) : World :=
  { w with calls := w.calls ++ (request w).toList }

/-- One collaborator call. The request is logged; then the next scripted fault,
if any, makes the call fail with no effect, and otherwise the collaborator acts. -/
def call {α : Type} (request : World → Option Call) (act : World → Except Err α × World) :
    Pass (Except Err α) := fun (w, fs) =>
  let w := w.record request
  match fs with
  | some e :: rest => .ok (.error e) (w, rest)
  | none :: rest => match act w with | (r, w) => .ok r (w, rest)
  | [] => match act w with | (r, w) => .ok r (w, [])

/-- `if err != nil { return fmt.Errorf("msg: %w", err) }` after a collaborator call. -/
def check {α : Type} (msg : String) (x : Pass (Except Err α)) : Pass α := do
  match ← x with
  | .ok a => pure a
  | .error err => throw (.error (.wrap msg err))

def wrapErr {α : Type} (msg : String) (x : Pass α) : Pass α :=
  EStateM.adaptExcept (fun | .error e => .error (.wrap msg e) | .nilDereference => .nilDereference) x

def isErr {α : Type} : Except Err α → Err → Bool
  | .ok _, _ => false
  | .error e, target => e.is target

def errorf (msg : String) : Except Err Unit → Err
  | .ok () => .other (msg ++ ": %!w(<nil>)")
  | .error e => .wrap msg e

structure VolumePlugin where
  name : String
  apply : VolumeSpec → String → Except Err VolumeStatus
  delete : String → String → Except Err Unit

structure VolumePluginManager where
  findPluginBySpec : VolumeSpec → Except Err VolumePlugin

def diskIds (info : VmInfo) : List String := (info.config.disks.getD []).filterMap DiskConfig.id

def netIds (info : VmInfo) : List String := (info.config.devices.getD []).filterMap DeviceConfig.id

/-- The ids of a VM's disks and devices; cloud-hypervisor keeps them unique. -/
def deviceIds (info : VmInfo) : List String := diskIds info ++ netIds info

def withState (state : VmInfoState) (info : VmInfo) : VmInfo := { info with state := state }

def withDisk (id : String) (info : VmInfo) : VmInfo :=
  { info with config.disks := some ((info.config.disks.getD []) ++ [{ id := some id }]) }

def withNet (id : String) (info : VmInfo) : VmInfo :=
  { info with config.devices := some ((info.config.devices.getD []) ++ [{ id := some id }]) }

def withoutDevice (id : String) (info : VmInfo) : VmInfo :=
  { info with
    config.disks := info.config.disks.map (·.filter (·.id ≠ some id))
    config.devices := info.config.devices.map (·.filter (·.id ≠ some id)) }

/-- `MachineReconciler`, restricted to what its code reads, with the
configuration of the VMM manager it drives. `GetFreeApiSocket` is not under src, and
the spec fixes only that the path it returns lies in the sockets directory and
collides with no live socket (§4.2): the manager's choice, given which paths a live
process serves, is a parameter, and no theorem assumes anything of it. -/
structure MachineReconciler where
  paths : Host.Paths
  volumePluginManager : VolumePluginManager
  firmwarePath : String
  freeApiSocket : (String → Bool) → String

namespace World

def setProcess (w : World) (key : String) (p : Option Process) : World :=
  { w with processes := fun k => if k = key then p else w.processes k }

/-- The VMM manager as the controller reaches it: one client per live process. -/
def manager (r : MachineReconciler) (w : World) : Manager :=
  ⟨fun k => (w.processes k).map Process.client, r.paths, r.firmwarePath⟩

def vmAt (w : World) (key : String) : Option VmInfo :=
  match w.processes key with
  | some p => p.vm
  | none => none

/-- The disk ids of the VM the reconciler addresses for a stored machine: the one behind
`ptr.Deref(ApiSocketPath, "")` of its record. -/
def liveDisks (w : World) (machineID : String) : List String :=
  ((w.machines.get machineID).map fun m =>
    ((w.processes (m.spec.apiSocketPath.getD "")).map fun p => (p.vm.map diskIds).getD []).getD []).getD []

def liveDevices (w : World) (machineID : String) : List String :=
  ((w.machines.get machineID).map fun m =>
    ((w.processes (m.spec.apiSocketPath.getD "")).map fun p => (p.vm.map netIds).getD []).getD []).getD []

def machinesGet (id : String) (w : World) : Except Err Machine × World :=
  (match w.machines.get id with | some m => .ok m | none => .error .notFound, w)

def machinesUpdate (m : Machine) (w : World) : Except Err Machine × World :=
  if (w.machines.get m.metadata.id).isSome then (.ok m, { w with machines := w.machines.write m })
  else (.error .notFound, w)

def nicsGet (id : String) (w : World) : Except Err NetworkInterface × World :=
  (match w.nics.get id with | some n => .ok n | none => .error .notFound, w)

def nicsCreate (nic : NetworkInterface) (w : World) : Except Err NetworkInterface × World :=
  if (w.nics.get nic.metadata.id).isSome then (.error .alreadyExists, w)
  else (.ok nic, { w with nics := w.nics.put nic })

def nicsUpdate (nic : NetworkInterface) (w : World) : Except Err NetworkInterface × World :=
  if (w.nics.get nic.metadata.id).isSome then (.ok nic, { w with nics := w.nics.write nic })
  else (.error .notFound, w)

/-- `Delete` on the NIC store: an object with finalizers is only marked deleted. -/
def nicsDelete (id : String) (w : World) : Except Err Unit × World :=
  match w.nics.get id with
  | none => (.error .notFound, w)
  | some nic =>
    let marked := { nic with metadata.deletedAt := nic.metadata.deletedAt.or (some 0) }
    (.ok (), { w with nics := if nic.metadata.finalizers = [] then w.nics.remove id else w.nics.put marked })

/-- Modelled from the spec: `GetFreeApiSocket` returns the manager's choice of path,
given the sockets a live process serves. -/
def getFreeApiSocket (r : MachineReconciler) (w : World) : Except Err (Option String) × World :=
  (.ok (some (r.freeApiSocket fun key => (w.processes key).isSome)), w)

/-- Modelled from the spec: `Ping` as the reconciler calls it first makes sure a
cloud-hypervisor process serves the socket (§4.5 step 7, §4.2 Init), then pings it. -/
def vmmPing (key : String) (w : World) : Except Err Unit × World :=
  (.ok (), if (w.processes key).isSome then w
    else w.setProcess key (some {}))

def vmmGetVM (r : MachineReconciler) (key : String) (w : World) : Except Err (Option VmInfo) × World :=
  ((w.manager r).getVM key, w)

/-- Modelled from the spec: the `CreateVM(ctx, machine, nics)` the reconciler calls is
not under src. It creates the VM in the process at the machine's API socket with the
body of src's `CreateVM`; as every reconcile after the create falls through to the
hot-plug branches (§4.5 step 10) past the identity check (step 11), the VM reports the
machine id as its platform uuid. src's `CreateVM` ignores the answer, so a process that
already hosts a VM is left as it is. -/
def vmmCreateVM (r : MachineReconciler) (machine : Machine) (w : World) : Except Err Unit × World :=
  let key := machine.spec.apiSocketPath.getD ""
  match w.processes key with
  | none => (.error .vmmNotFound, w)
  | some ⟨some _⟩ => (.ok (), w)
  | some ⟨none⟩ =>
    let config := { (w.manager r).createVMPayload machine with
      platform := some { uuid := some machine.metadata.id } }
    (.ok (), w.setProcess key (some { vm := some ⟨config, .created⟩ }))

/-- Change the VM behind `key`: `vmm.ErrNotFound` without a process,
`vmm.ErrVmNotCreated` before the VM is created. -/
def changeVm (key : String) (f : VmInfo → VmInfo) (w : World) : Except Err Unit × World :=
  match w.processes key with
  | none => (.error .vmmNotFound, w)
  | some ⟨none⟩ => (.error .vmNotCreated, w)
  | some ⟨some info⟩ =>
    (.ok (), w.setProcess key (some { vm := some (f info) }))

/-- Modelled from the spec: `PowerOn` boots the VM (§4.2 Power control). -/
def vmmPowerOn (key : String) : World → Except Err Unit × World :=
  changeVm key (withState .running)

/-- Modelled from the spec: `PowerOff` presses the power button and waits for `Shutdown`. -/
def vmmPowerOff (key : String) : World → Except Err Unit × World :=
  changeVm key (withState .shutdown)

/-- Hot-plug a device with id `id`: cloud-hypervisor refuses an id already in use. -/
def addToVm (key id : String) (f : VmInfo → VmInfo) (w : World) : Except Err Unit × World :=
  match w.processes key with
  | some ⟨some info⟩ =>
    if id ∈ deviceIds info then (.error (.other "identifier is not unique"), w) else changeVm key f w
  | _ => changeVm key f w

/-- Modelled from the spec: `AddDisk` adds a disk whose id is the volume handle. -/
def vmmAddDisk (key : String) (status : VolumeStatus) : World → Except Err Unit × World :=
  addToVm key status.handle (withDisk status.handle)

/-- Modelled from the spec: `AddNIC` adds a device whose id is the NIC object's id,
`NIC--<machineId>--<nicName>`, to the devices the reconciler lists. -/
def vmmAddNIC (key : String) (nic : NetworkInterface) : World → Except Err Unit × World :=
  addToVm key nic.metadata.id (withNet nic.metadata.id)

/-- Modelled from the spec: `RemoveDevice` removes the disk or device with that id. -/
def vmmRemoveDevice (key id : String) : World → Except Err Unit × World :=
  changeVm key (withoutDevice id)

/-- Modelled from the spec: `Delete` ends the process behind the key and drops it;
`vmm.ErrNotFound` when there is none (§4.2 Deletion). -/
def vmmDelete (key : String) (w : World) : Except Err Unit × World :=
  match w.processes key with
  | none => (.error .vmmNotFound, w)
  | some _ => (.ok (), w.setProcess key none)

def mkdirAll (path : String) (w : World) : Except Err Unit × World :=
  (.ok (), { w with files := if path ∈ w.files then w.files else w.files ++ [path] })

def removeAll (path : String) (w : World) : Except Err Unit × World :=
  (.ok (), { w with files := w.files.filter fun f => !(f = path ∨ (path ++ "/").isPrefixOf f) })

def regularFileExists (path : String) (w : World) : Except Err Bool × World :=
  (.ok (path ∈ w.files), w)

def rawCreate (path : String) (w : World) : Except Err Unit × World :=
  (.ok (), { w with files := if path ∈ w.files then w.files else w.files ++ [path] })

/-- Modelled from the spec: the image cache serves a pulled image and answers
`ErrImagePulling` while the pull runs (§4.5 step 5). -/
def imageGet (image : String) (w : World) : Except Err Unit × World :=
  (if image ∈ w.images then .ok () else .error .imagePulling, w)

end World

def enqueue (id : String) : Pass Unit :=
  modify fun (w, fs) => ({ w with queue := w.queue ++ [id] }, fs)

/-- A volume plugin that prepares every volume under its connection handle. -/
def localPlugin : VolumePlugin where
  name := "local"
  apply vol _ := .ok { name := vol.name, handle := vol.connection.handle, state := .prepared }
  delete _ _ := .ok ()

/-- The first of `<dir>/n`, `<dir>/(n+1)`, … that no live process serves, among the
next `fuel` of them. -/
def firstFreeSocket (dir : String) (live : String → Bool) : Nat → Nat → String
  | 0, n => dir ++ "/" ++ toString n
  | fuel + 1, n => if live (dir ++ "/" ++ toString n) then firstFreeSocket dir live fuel (n + 1)
    else dir ++ "/" ++ toString n

def exampleReconciler : MachineReconciler where
  paths := Host.pathsAt "/var/lib/chp"
  volumePluginManager := ⟨fun _ => .ok localPlugin⟩
  firmwarePath := "/usr/share/chp/firmware"
  freeApiSocket live := firstFreeSocket "/run/chp" live 8 0

end CloudHypervisorProvider.Controllers
