import CloudHypervisorProvider.Api
import CloudHypervisorProvider.Host.Paths
import CloudHypervisorProvider.Vmm.Client

/-! # The VMM manager

`ping`, `GetVM` and `CreateVM` turn what a machine's API socket answers into a result.
Only the 500 `VM is not created` answer of `vm.info` is singled out; `validateStatus`,
which rejects every status outside 200–299, is never called.
-/

namespace CloudHypervisorProvider.Vmm
open Go Api Client

def validateStatus (status : Int) : Except Err Unit :=
  if 200 ≤ status ∧ status < 300 then .ok () else .error (.other s!"invalid status: {status}")

/-- `Manager`: the map of API clients, and the configuration `CreateVM` reads. -/
structure Manager where
  vms : String → Option ClientWithResponses
  paths : Host.Paths
  firmwarePath : String

namespace Manager

/-- `ping`; its log line reads `ping.JSON200.Version`. -/
def ping (m : Manager) (machineId : String) : Except Abort Unit :=
  match m.vms machineId with
  | none => .error (.error .vmmNotFound)
  | some apiClient =>
    match apiClient.getVmmPing with
    | .error err => .error (.error (.wrap "failed to ping vmm" err))
    | .ok ping => if ping.json200.isSome then .ok () else .error .nilDereference

def getVM (m : Manager) (machineId : String) : Except Err (Option VmInfo) :=
  match m.vms machineId with
  | none => .error .vmmNotFound
  | some apiClient =>
    match apiClient.getVmInfo with
    | .error err => .error (.wrap "failed to get vm" err)
    | .ok res =>
      if res.statusCode = 500 ∧ res.body = "VM is not created" then .error .vmNotCreated
      else .ok res.json200

/-- The vCPU count `int(math.Max(float64(CpuMillis/1000), 1))`: Go's truncating
division, then the conversion to `float64`, exact below 2^53. -/
def vcpus (cpuMillis : Int) : Int := max (float64OfInt (cpuMillis.tdiv 1000)) 1

example : vcpus 2500 = 2 ∧ vcpus 400 = 1 := by
  simp only [vcpus, float64OfInt_of_natAbs_lt (by decide : (Int.tdiv 2500 1000).natAbs < 9007199254740992),
    float64OfInt_of_natAbs_lt (by decide : (Int.tdiv 400 1000).natAbs < 9007199254740992)]
  decide

def createVMPayload (m : Manager) (machine : Machine) : VmConfig where
  cpus := some ⟨vcpus machine.spec.cpuMillis, vcpus machine.spec.cpuMillis⟩
  memory := some ⟨machine.spec.memoryBytes, some true⟩
  payload := { firmware := some m.firmwarePath }
  disks := some (if machine.spec.image.getD "" ≠ "" then
    [{ path := m.paths.machineRootFSFile machine.metadata.id }] else [])
  devices := none
  console := some ⟨"Off"⟩
  serial := some ⟨"Tty"⟩

def createVM (m : Manager) (machine : Machine) : Except Err Unit :=
  match m.vms machine.metadata.id with
  | none => .error .vmmNotFound
  | some apiClient =>
    match apiClient.createVM (m.createVMPayload machine) with
    | .error err => .error (.wrap "failed to get vm" err)
    | .ok _ => .ok ()

variable (m : Manager)

theorem getVM_eq_vmNotCreated_iff (machineId : String) :
    m.getVM machineId = .error .vmNotCreated ↔
      ∃ c res, m.vms machineId = some c ∧ c.getVmInfo = .ok res ∧
        res.statusCode = 500 ∧ res.body = "VM is not created" := by
  unfold getVM
  rcases m.vms machineId with _ | c
  · simp
  · rcases h : c.getVmInfo with err | res
    · simp [h]
    · by_cases hs : res.statusCode = 500 ∧ res.body = "VM is not created" <;> simp [h, hs]

theorem getVM_eq_ok_some {machineId : String} {info : VmInfo}
    (h : m.getVM machineId = .ok (some info)) :
    ∃ c res, m.vms machineId = some c ∧ c.getVmInfo = .ok res ∧
      res.statusCode = 200 ∧ res.json200 = some info := by
  unfold getVM at h
  split at h
  · cases h
  · rename_i c hc
    split at h
    · cases h
    · rename_i res hr
      split_ifs at h
      have hj : res.json200 = some info := Except.ok.inj h
      exact ⟨c, res, hc, hr, res.json200_status (by simp [hj]), hj⟩

/-- `GetVM` reports success without a `VmInfo` for every answer other than 200
and the 500 `VM is not created` one. -/
theorem getVM_eq_ok_none_iff (machineId : String) :
    m.getVM machineId = .ok none ↔
      ∃ c res, m.vms machineId = some c ∧ c.getVmInfo = .ok res ∧ res.json200 = none ∧
        ¬ (res.statusCode = 500 ∧ res.body = "VM is not created") := by
  unfold getVM
  rcases m.vms machineId with _ | c
  · simp
  · rcases h : c.getVmInfo with err | res
    · simp [h]
    · by_cases hs : res.statusCode = 500 ∧ res.body = "VM is not created"
      · simp [h, hs]
      · simpa [h, if_neg hs] using fun _ => not_and.mp hs

/-- `CreateVM` succeeds on every answer the transport delivers, whatever its status. -/
theorem createVM_eq_ok_iff (machine : Machine) :
    m.createVM machine = .ok () ↔
      ∃ c res, m.vms machine.metadata.id = some c ∧ c.createVM (m.createVMPayload machine) = .ok res := by
  unfold createVM
  rcases m.vms machine.metadata.id with _ | c
  · simp
  · rcases h : c.createVM (m.createVMPayload machine) with err | res <;> simp [h]

/-- `ping` succeeds only on a 200 answer, and panics on every other delivered answer. -/
theorem ping_eq_ok_iff (machineId : String) :
    m.ping machineId = .ok () ↔
      ∃ c res, m.vms machineId = some c ∧ c.getVmmPing = .ok res ∧ res.json200.isSome := by
  unfold ping
  rcases m.vms machineId with _ | c
  · simp
  · rcases h : c.getVmmPing with err | res
    · simp [h]
    · by_cases hs : res.json200.isSome <;> simp [h, hs]

theorem validateStatus_of_ping_ok {machineId : String} (h : m.ping machineId = .ok ()) :
    ∃ c res, m.vms machineId = some c ∧ c.getVmmPing = .ok res ∧ validateStatus res.statusCode = .ok () := by
  obtain ⟨c, res, hc, hr, hs⟩ := (ping_eq_ok_iff m machineId).mp h
  exact ⟨c, res, hc, hr, by simp [validateStatus, res.json200_status hs]⟩

end Manager

def answering (status : Int) (body : String) : ClientWithResponses :=
  ⟨.ok (.bare status body), .ok (.bare status body), fun _ => .ok (.bare status body)⟩

def managerOf (c : ClientWithResponses) : Manager :=
  ⟨fun _ => some c, ⟨id, id, id, id, id, id⟩, ""⟩

/-- A 404 from `vm.info` comes back as `(nil, nil)`, a 500 from `vm.create` as
nil, and a 500 from `vmm.ping` as a nil dereference, although `validateStatus`
rejects both statuses. -/
theorem unexpected_status_not_rejected :
    (managerOf (answering 404 "")).getVM "api.sock" = .ok none ∧
    (managerOf (answering 500 "")).createVM ⟨⟨"m1", none, []⟩, ⟨.powerOn, 0, 0, none, [], [], none⟩, {}⟩ =
      .ok () ∧
    (managerOf (answering 500 "")).ping "api.sock" = .error .nilDereference ∧
    validateStatus 404 ≠ .ok () ∧ validateStatus 500 ≠ .ok () :=
  ⟨rfl, rfl, rfl, by simp [validateStatus], by simp [validateStatus]⟩

end CloudHypervisorProvider.Vmm
