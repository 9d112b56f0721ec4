import CloudHypervisorProvider.Go

/-! # The cloud-hypervisor client

The request and response types of the generated REST client, restricted to the
fields the manager and the controller read or write, and a client seen as the
answers of one API socket to each request the manager sends.
-/

namespace CloudHypervisorProvider.Client
open Go

inductive VmInfoState where
  | created
  | running
  | shutdown
  | paused
  deriving Repr, DecidableEq

structure PlatformConfig where
  uuid : Option String := none
  deriving Repr, DecidableEq

structure DiskConfig where
  id : Option String := none
  path : String := ""
  deriving Repr, DecidableEq

structure DeviceConfig where
  id : Option String := none
  path : String := ""
  deriving Repr, DecidableEq

structure CpusConfig where
  bootVcpus : Int
  maxVcpus : Int
  deriving Repr, DecidableEq

structure MemoryConfig where
  size : Int
  shared : Option Bool := none
  deriving Repr, DecidableEq

structure ConsoleConfig where
  mode : String
  deriving Repr, DecidableEq

structure PayloadConfig where
  firmware : Option String := none
  kernel : Option String := none
  deriving Repr, DecidableEq

structure VmConfig where
  cpus : Option CpusConfig := none
  memory : Option MemoryConfig := none
  payload : PayloadConfig := {}
  disks : Option (List DiskConfig) := none
  devices : Option (List DeviceConfig) := none
  console : Option ConsoleConfig := none
  serial : Option ConsoleConfig := none
  platform : Option PlatformConfig := none
  deriving Repr, DecidableEq

structure VmInfo where
  config : VmConfig
  state : VmInfoState
  deriving Repr, DecidableEq

structure VmmPingResponse where
  version : String
  deriving Repr, DecidableEq

/-- The result of a `...WithResponse` call: status, raw body, and the decoded
payload, which the generated parser fills in for a 200 answer only. -/
structure Response (α : Type) where
  statusCode : Int
  body : String
  json200 : Option α
  json200_status : json200.isSome → statusCode = 200

def Response.bare {α : Type} (statusCode : Int) (body : String) : Response α :=
  ⟨statusCode, body, none, by simp⟩

def Response.ok200 {α : Type} (body : String) (payload : α) : Response α :=
  ⟨200, body, some payload, fun _ => rfl⟩

/-- `ClientWithResponses` on one API socket: the response, or transport error,
to each request the manager sends. -/
structure ClientWithResponses where
  getVmmPing : Except Err (Response VmmPingResponse)
  getVmInfo : Except Err (Response VmInfo)
  createVM : VmConfig → Except Err (Response Unit)

end CloudHypervisorProvider.Client
