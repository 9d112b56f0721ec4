import CloudHypervisorProvider.Go

/-! # The provider's api objects

Machines with their volume and network-interface entries, and the objects of
the NIC store, restricted to the fields the controller and the VMM manager
read or write.
-/

namespace CloudHypervisorProvider.Api

/-- `*time.Time`: only whether it is set is ever read. -/
abbrev Timestamp := Nat

/-- `apiutils.Metadata`. -/
structure Metadata where
  id : String
  deletedAt : Option Timestamp := none
  finalizers : List String := []
  deriving Repr, DecidableEq

inductive Power where
  | powerOn
  | powerOff
  deriving Repr, DecidableEq

inductive MachineState where
  | pending
  | running
  | terminated
  deriving Repr, DecidableEq

inductive VolumeState where
  | pending
  | prepared
  | attached
  deriving Repr, DecidableEq

structure VolumeConnection where
  handle : String
  deriving Repr, DecidableEq

structure VolumeSpec where
  name : String
  connection : VolumeConnection
  deletedAt : Option Timestamp := none
  deriving Repr, DecidableEq

structure VolumeStatus where
  name : String
  handle : String := ""
  state : VolumeState
  deriving Repr, DecidableEq

/-- A network-interface entry of a machine, and the spec of the NIC object made from it. -/
structure NetworkInterfaceSpec where
  name : String
  networkId : String := ""
  ips : List String := []
  attributes : List (String × String) := []
  deletedAt : Option Timestamp := none
  deriving Repr, DecidableEq

inductive NetworkInterfaceState where
  | pending
  | attached
  deriving Repr, DecidableEq

structure NetworkInterfaceStatus where
  state : NetworkInterfaceState := .pending
  handle : String := ""
  deriving Repr, DecidableEq

/-- An object of the NIC store, whose id is `NIC--<machineId>--<nicName>`. -/
structure NetworkInterface where
  metadata : Metadata
  spec : NetworkInterfaceSpec
  status : NetworkInterfaceStatus := {}
  deriving Repr, DecidableEq

inductive MachineNetworkInterfaceState where
  | pending
  | attached
  deriving Repr, DecidableEq

structure MachineNetworkInterfaceStatus where
  name : String
  handle : String := ""
  state : MachineNetworkInterfaceState
  deriving Repr, DecidableEq

structure MachineSpec where
  power : Power
  cpuMillis : Int := 0
  memoryBytes : Int := 0
  image : Option String := none
  volumes : List VolumeSpec := []
  networkInterfaces : List NetworkInterfaceSpec := []
  apiSocketPath : Option String := none
  deriving Repr, DecidableEq

structure MachineStatus where
  state : MachineState := .pending
  volumeStatus : List VolumeStatus := []
  networkInterfaceStatus : List MachineNetworkInterfaceStatus := []
  deriving Repr, DecidableEq

structure Machine where
  metadata : Metadata
  spec : MachineSpec
  status : MachineStatus := {}
  deriving Repr, DecidableEq

end CloudHypervisorProvider.Api
