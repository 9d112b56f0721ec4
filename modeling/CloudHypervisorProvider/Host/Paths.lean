import CloudHypervisorProvider.Go

/-! # The host path layout

`host.Paths` is the interface through which the controller, the VMM manager
and the volume plugins name every per-machine file and directory.
-/

namespace CloudHypervisorProvider.Host

/-- `host.Paths`, restricted to the methods the modelled code calls. -/
structure Paths where
  machineDir : String → String
  machineRootFSDir : String → String
  machineRootFSFile : String → String
  machineVolumesDir : String → String
  machineIgnitionsDir : String → String
  machineNetworkInterfacesDir : String → String

/-- `filepath.Join(dir, elem)` for elements that `filepath.Clean` leaves as they are. -/
def join (dir elem : String) : String := dir ++ "/" ++ elem

def pathsAt (rootDir : String) : Paths where
  machineDir uid := join (join rootDir "machines") uid
  machineRootFSDir uid := join (join (join rootDir "machines") uid) "rootfs"
  machineRootFSFile uid := join (join (join (join rootDir "machines") uid) "rootfs") "rootfs"
  machineVolumesDir uid := join (join (join rootDir "machines") uid) "volumes"
  machineIgnitionsDir uid := join (join (join rootDir "machines") uid) "ignitions"
  machineNetworkInterfacesDir uid := join (join (join rootDir "machines") uid) "networkinterfaces"

/-- The directories `MakeMachineDirs` creates, with the message of each failure. -/
def machineDirs (paths : Paths) (machineUID : String) : List (String × String) :=
  [(paths.machineDir machineUID, "error creating machine directory"),
   (paths.machineRootFSDir machineUID, "error creating machine rootfs directory"),
   (paths.machineVolumesDir machineUID, "error creating machine disks directory"),
   (paths.machineIgnitionsDir machineUID, "error creating machine ignitions directory"),
   (paths.machineNetworkInterfacesDir machineUID,
     "error creating machine network interfaces directory")]

end CloudHypervisorProvider.Host
