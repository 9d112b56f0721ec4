import CloudHypervisorProvider.Go
import CloudHypervisorProvider.Go.Filepath
import CloudHypervisorProvider.Api
import CloudHypervisorProvider.Host.Paths
import CloudHypervisorProvider.Host.Layout
import CloudHypervisorProvider.MachineClasses
import CloudHypervisorProvider.Vmm.Client
import CloudHypervisorProvider.Vmm.Manager
import CloudHypervisorProvider.Controllers.NicId
import CloudHypervisorProvider.Controllers.World
import CloudHypervisorProvider.Controllers.Volumes
import CloudHypervisorProvider.Controllers.Nics
import CloudHypervisorProvider.Controllers.Machine
import CloudHypervisorProvider.Controllers.Calls
import CloudHypervisorProvider.Controllers.Teardown
import CloudHypervisorProvider.Controllers.Effects
import CloudHypervisorProvider.Controllers.Pass
import CloudHypervisorProvider.Controllers.ReconcileVolumes
import CloudHypervisorProvider.Controllers.VmIds
import CloudHypervisorProvider.Controllers.Settled
import CloudHypervisorProvider.Controllers.Converge
import CloudHypervisorProvider.Controllers.ApiSockets
import CloudHypervisorProvider.System.Run
import CloudHypervisorProvider.System.Nics
import CloudHypervisorProvider.System.Volumes
import CloudHypervisorProvider.System.Invariants
import CloudHypervisorProvider.Plugins.Ceph.Os
import CloudHypervisorProvider.Plugins.Ceph.Conf
import CloudHypervisorProvider.Plugins.Ceph.Daemon
import CloudHypervisorProvider.Plugins.Ceph.Qmp
import CloudHypervisorProvider.Plugins.Ceph.Remount
import CloudHypervisorProvider.Plugins.Ceph.Isolation
