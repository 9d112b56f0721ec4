import CloudHypervisorProvider.System.Run
import CloudHypervisorProvider.Controllers.Converge

/-! # NIC objects and NIC devices across passes

`reconcileNics` never unplugs a device whose NIC name has no entry in the map the NIC
loop built, and that map holds each object as fetched, before the loop deleted it. The
teardown deletes the NIC objects without touching any VM. Each of these leaves a NIC
device in a live VM that the spec says should be gone.
-/

namespace CloudHypervisorProvider.System
open Go Api Client Controllers

/-- The device loop of `reconcileNics` unplugs only devices whose NIC name maps to an
object: a device whose name has no entry stays. -/
theorem reconcileNicsDevices_keeps_unmapped {key i : String} :
    ∀ {devices : List DeviceConfig} {nics : NicMap} {cur : List String} {s s' : World × Faults}
      {res : List String × NicMap} {info : VmInfo},
    reconcileNicsDevices key devices nics cur s = .ok res s' → s.1.vmAt key = some info → i ∈ netIds info →
    (∀ n, getNicName i = some n → nics.lookup n = none) →
    ∃ info', s'.1.vmAt key = some info' ∧ i ∈ netIds info'
  | [], _, _, s, s', _, info, h, hi, hin, _ => by cases h; exact ⟨info, hi, hin⟩
  | d :: ds, nics, cur, s, s', res, info, h, hi, hin, hun => by
    simp only [reconcileNicsDevices] at h
    rcases hname : getNicName (d.id.getD "") with _ | name
    · simp only [hname] at h
      exact reconcileNicsDevices_keeps_unmapped h hi hin hun
    rcases hl : nics.lookup name with _ | nic
    · simp only [hname, hl] at h
      exact reconcileNicsDevices_keeps_unmapped h hi hin hun
    simp only [hname, hl] at h
    split_ifs at h
    · exact reconcileNicsDevices_keeps_unmapped h hi hin hun
    obtain ⟨_, s₁, hc, h⟩ := bind_eq_ok.mp h
    obtain ⟨_, s₂, hf, h⟩ := bind_eq_ok.mp h
    obtain ⟨info₁, hi₁, hs₁⟩ := check_changeVm_ok hc
    cases hi.symm.trans hi₁
    -- `name` has an entry, so the device the loop unplugs is not `i`
    have hmapped : ∀ n, getNicName i = some n → n ≠ name := fun n hn he => by
      rw [← he, hun n hn] at hl; cases hl
    have hne : i ≠ d.id.getD "" := fun he => hmapped name (he ▸ hname) rfl
    have hi₂ : s₂.1.vmAt key = some (withoutDevice (d.id.getD "") info) :=
      (World.vmAt_of_processes ((keeps_wrapErr _ (removeFinalizerFromNIC_keeps (untouched_process _)
        (fun _ _ => rfl) _)).of_ok hf)).trans (by simp [hs₁])
    refine reconcileNicsDevices_keeps_unmapped h hi₂ (by simp [hin, hne]) fun n hn => ?_
    rw [lookup_setNic, if_neg (hmapped n hn), hun n hn]

/-- A `reconcileNics` that returns leaves every NIC device of the VM whose name has no
entry in the map, as it hot-plugs only and unplugs only devices the map names. -/
theorem reconcileNics_keeps_unmapped {machine : Machine} {nics : NicMap} {devices : List DeviceConfig}
    {s s' : World × Faults} (h : reconcileNics machine nics devices s = .ok () s') {info : VmInfo}
    (hi : s.1.vmAt (machine.spec.apiSocketPath.getD "") = some info) {i : String} (hin : i ∈ netIds info)
    (hun : ∀ n, getNicName i = some n → nics.lookup n = none) :
    ∃ info', s'.1.vmAt (machine.spec.apiSocketPath.getD "") = some info' ∧ i ∈ netIds info' := by
  unfold reconcileNics at h
  obtain ⟨⟨cur, nics'⟩, s₁, hd, hadd⟩ := bind_eq_ok.mp h
  obtain ⟨info₁, hi₁, hin₁⟩ := reconcileNicsDevices_keeps_unmapped hd hi hin hun
  exact ⟨_, reconcileNicsAdd_ok hadd hi₁,
    (foldl_vmGrows (fun p _ info => vmGrows_nicChange cur info p) info₁).nets i hin₁⟩

/-- The store holds no NIC object under `k`, or one marked deleted. -/
def NicDeleted (k : String) (w : World) : Prop := ∀ nic, w.nics.get k = some nic → nic.metadata.deletedAt.isSome

theorem nicsDelete_nicDeleted {k k' : String} {w : World} (h : k = k' ∨ NicDeleted k w) :
    NicDeleted k (World.nicsDelete k' w).2 := by
  intro nic hnic
  unfold World.nicsDelete at hnic
  split at hnic
  · next hnone =>
    exact h.elim (fun he => by rw [he, hnone] at hnic; cases hnic) fun hk => hk nic hnic
  · next nic₀ hnic₀ =>
    have hid := w.nics.keyed k' nic₀ hnic₀
    dsimp only at hnic
    split_ifs at hnic with hfin
    · rw [Store.get_remove] at hnic
      split_ifs at hnic with hk
      exact h.elim (fun he => absurd he hk) fun hd => hd nic hnic
    · rw [Store.get_put] at hnic
      split_ifs at hnic with hk
      · cases hnic; cases nic₀.metadata.deletedAt <;> rfl
      · exact h.elim (fun he => absurd (he.trans hid.symm) hk) fun hd => hd nic hnic

theorem removeFinalizerFromNIC_nicDeleted {k : String} {nic nic' : NetworkInterface} {s s' : World × Faults}
    (hget : s.1.nics.get nic.metadata.id = some nic) (hk : NicDeleted k s.1)
    (h : removeFinalizerFromNIC nic s = .ok nic' s') : NicDeleted k s'.1 := by
  unfold removeFinalizerFromNIC at h
  split_ifs at h
  · obtain ⟨_, s₁, hc, h⟩ := bind_eq_ok.mp h
    cases h
    obtain ⟨-, hs⟩ := call_eq_ok_ok ((check_eq_ok _).mp hc)
    intro x hx
    simp only [hs, World.nicsUpdate, record_nics] at hx
    split_ifs at hx
    · rw [Store.get_write] at hx
      split_ifs at hx with hkx hdrop
      · cases hx; exact hk nic (hkx ▸ hget)
      · exact hk x hx
    · exact hk x hx
  · cases h; exact hk

theorem removeFinalizerFromNIC_nil {nic nic' : NetworkInterface} {w : World} {s' : World × Faults}
    (h : removeFinalizerFromNIC nic (w, []) = .ok nic' s') : s'.2 = [] := by
  unfold removeFinalizerFromNIC at h
  split_ifs at h
  · obtain ⟨_, s₁, hc, h⟩ := bind_eq_ok.mp h
    cases h
    rw [check_eq_ok, call_nil] at hc
    rw [← (EStateM.Result.ok.inj hc).2]
  · cases h; rfl

/-- The teardown's NIC loop, run with every call answered, leaves the NIC object of
every entry it went through marked deleted or gone, and keeps every object already so. -/
theorem deleteMachineNics_releases {machine : Machine} :
    ∀ {specs : List NetworkInterfaceSpec} {b b' : Bool} {w : World} {s' : World × Faults},
    deleteMachineNics machine specs b (w, []) = .ok b' s' →
    (∀ k, NicDeleted k w → NicDeleted k s'.1) ∧ ∀ n ∈ specs, NicDeleted (getNicID machine.metadata.id n.name) s'.1
  | [], _, _, w, s', h => by cases h; exact ⟨fun _ h => h, fun _ h => nomatch h⟩
  | n :: rest, b, b', w, s', h => by
    simp only [deleteMachineNics] at h
    rw [bind_ok call_nil] at h
    simp only [World.nicsGet, record_none] at h
    rcases hget : w.nics.get (getNicID machine.metadata.id n.name) with _ | nic
    · simp only [hget, isErr, Err.is_self, if_true] at h
      obtain ⟨hfwd, hrest⟩ := deleteMachineNics_releases h
      refine ⟨hfwd, fun m hm => (List.mem_cons.mp hm).elim (fun he => ?_) (hrest m)⟩
      exact he ▸ hfwd _ fun x hx => by rw [hget] at hx; cases hx
    simp only [hget, isErr, Bool.false_eq_true, if_false] at h
    obtain ⟨nic', s₂, hf, h⟩ := bind_eq_ok.mp h
    have hf' := (wrapErr_eq_ok _).mp hf
    have hid : nic.metadata.id = getNicID machine.metadata.id n.name := w.nics.keyed _ _ hget
    rw [show s₂ = (s₂.1, []) from Prod.ext rfl (removeFinalizerFromNIC_nil hf'), bind_ok call_nil] at h
    generalize ignoreErrNotFound _ = ignored at h
    cases ignored
    case some e => cases h
    obtain ⟨hfwd, hrest⟩ := deleteMachineNics_releases h
    have hkeep : ∀ k, NicDeleted k w → NicDeleted k (World.nicsDelete (getNicID machine.metadata.id n.name)
        (s₂.1.record fun _ => some (.nicDelete (getNicID machine.metadata.id n.name)))).2 :=
      fun k hk => nicsDelete_nicDeleted (.inr (removeFinalizerFromNIC_nicDeleted (hid ▸ hget) hk hf'))
    refine ⟨fun k hk => hfwd k (hkeep k hk), fun m hm => (List.mem_cons.mp hm).elim (fun he => ?_) (hrest m)⟩
    exact he ▸ hfwd _ (nicsDelete_nicDeleted (.inl rfl))

/-- Run with every call answered, the NIC loop of the teardown deletes the NIC object
of each entry and leaves every VM as it found it: each NIC device outlives its object. -/
theorem deleteMachineNics_keeps_vms {machine : Machine} {specs : List NetworkInterfaceSpec} {b b' : Bool}
    {w : World} {s' : World × Faults} (h : deleteMachineNics machine specs b (w, []) = .ok b' s') :
    (∀ key, s'.1.vmAt key = w.vmAt key) ∧ ∀ n ∈ specs, NicDeleted (getNicID machine.metadata.id n.name) s'.1 :=
  ⟨fun key => by rw [World.vmAt, (deleteMachineNics_keeps (k := key) machine specs b).of_ok h]; rfl,
    (deleteMachineNics_releases h).2⟩

section Runs

attribute [local simp] run step initial resultWorld processNextWorkItem_eq reconcileMachine reconcileLive
  reconcileVm assignApiSocket finalRecord reconcilePower deleteMachine getMachineState deleteMachineNics
  makeMachineDirs reconcileImage materializeNics reconcileVolumes fetchNic reconcileVolumesLoop reconcileNics
  reconcileNicsDevices reconcileNicsAdd attachDetachDisks attachDetachDisksLoop machineNicStatuses
  addFinalizerToNIC removeFinalizerFromNIC nicsReady setNic enqueue check wrapErr isErr errorf
  ignoreErrNotFound getVolumeStatus MachineFinalizer getNicID World.machinesGet World.machinesUpdate
  World.nicsGet World.nicsCreate World.nicsUpdate World.nicsDelete World.getFreeApiSocket firstFreeSocket
  World.vmmPing World.vmmGetVM World.manager World.vmmCreateVM World.changeVm World.addToVm deviceIds diskIds
  netIds withState withDisk withNet withoutDevice World.vmmPowerOn World.vmmPowerOff World.vmmAddDisk
  World.vmmAddNIC World.vmmRemoveDevice World.vmmDelete World.mkdirAll World.removeAll World.regularFileExists
  World.rawCreate World.imageGet World.setProcess World.liveDisks World.liveDevices Store.write Process.client
  Client.Response.bare Client.Response.ok200 Vmm.Manager.getVM Vmm.Manager.createVMPayload Host.machineDirs
  Host.pathsAt Host.join EStateM.bind EStateM.map EStateM.adaptExcept EStateM.modifyGet pass_bind pass_map
  pass_modify toString_zero

def nicMachine : Machine where
  metadata := { id := "m1" }
  spec := { power := .powerOn, cpuMillis := 2000, networkInterfaces := [{ name := "eth0", networkId := "net-1" }] }

/-- Create the machine, let the NIC plugin attach its NIC, and create the VM. -/
def nicVmCreated : List Event :=
  [.createMachine nicMachine, .reconcile "m1" [], .reconcile "m1" [],
   .nicAttached (getNicID "m1" "eth0") "tap0" "nic-plugin", .reconcile "m1" []]

/-- Then hot-plug the NIC, delete the machine, run one teardown pass, and let the NIC
plugin release the NIC object. -/
def nicTeardown : List Event :=
  nicVmCreated ++ [.reconcile "m1" [], .deleteMachine "m1", .reconcile "m1" [],
    .nicReleased (getNicID "m1" "eth0") "nic-plugin"]

/-- After the teardown pass the VM behind the socket of the machine, which is still
in the store, has the NIC's device while its NIC object is gone. -/
theorem nic_device_outlives_nic_object :
    getNicID "m1" "eth0" ∈ (run exampleReconciler nicTeardown initial).liveDevices "m1" ∧
    (run exampleReconciler nicTeardown initial).nics.get (getNicID "m1" "eth0") = none := by
  have hname : getNicName "NIC--m1--eth0" = some "eth0" := by decide
  simp [nicTeardown, nicVmCreated, nicMachine, exampleReconciler, hname]

def nicMarkedDeleted : List Event :=
  nicVmCreated ++ [.updateMachineSpec "m1" { nicMachine.spec with
    networkInterfaces := [{ name := "eth0", networkId := "net-1", deletedAt := some 1 }] }]

def nicDropped : List Event :=
  nicVmCreated ++ [.reconcile "m1" [], .updateMachineSpec "m1" { nicMachine.spec with networkInterfaces := [] }]

/-- A pass that returns nil hot-plugs a NIC whose entry is marked deleted, and keeps
its device; a pass that returns nil keeps the device of a NIC dropped from the spec. -/
theorem reconcileNics_plugs_deleted_and_keeps_dropped :
    (.addNIC "/run/chp/0" (getNicID "m1" "eth0") ∉ (run exampleReconciler nicMarkedDeleted initial).calls ∧
      ∃ w, reconcileMachine exampleReconciler "m1" (run exampleReconciler nicMarkedDeleted initial, []) =
        .ok .reconciled (w, []) ∧
      .addNIC "/run/chp/0" (getNicID "m1" "eth0") ∈ w.calls ∧ getNicID "m1" "eth0" ∈ w.liveDevices "m1") ∧
    ∃ w, reconcileMachine exampleReconciler "m1" (run exampleReconciler nicDropped initial, []) =
      .ok .reconciled (w, []) ∧ getNicID "m1" "eth0" ∈ w.liveDevices "m1" := by
  have hname : getNicName "NIC--m1--eth0" = some "eth0" := by decide
  simp [nicMarkedDeleted, nicDropped, nicVmCreated, nicMachine, exampleReconciler, hname]

end Runs

end CloudHypervisorProvider.System
