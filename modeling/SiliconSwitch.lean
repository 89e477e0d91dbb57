import SiliconSwitch.Asic.References
import SiliconSwitch.Asic.VlanIsolation
import SiliconSwitch.Asic.Accounting
import SiliconSwitch.Asic.Size
import SiliconSwitch.Asic.Aging
import SiliconSwitch.Asic.QueueWakeup
import SiliconSwitch.Asic.FailedCalls
import SiliconSwitch.Asic.RoutedForwarding
import SiliconSwitch.Asic.Conservation
import SiliconSwitch.Replication.Recovery
import SiliconSwitch.Replication.Sessions
import SiliconSwitch.Transport.Framing
import SiliconSwitch.Visualization.Replay
import SiliconSwitch.Visualization.SnapshotFormat
import SiliconSwitch.Network.ArpCodec
import SiliconSwitch.Switching.MacTableRuns
import SiliconSwitch.Routing.RouteHistory
import SiliconSwitch.Routing.ArpAging
import SiliconSwitch.Visualization.DeltaMerge
import SiliconSwitch.Switching.VlanNoninterference
import SiliconSwitch.Simulation.StreamIntegrity
import SiliconSwitch.Discovery.WholeDatagrams
import SiliconSwitch.Network.AddressText
import SiliconSwitch.Simulation.Backends
import SiliconSwitch.Orchestration.LabOrchestrator
import SiliconSwitch.Network.PrefixGeometry
import SiliconSwitch.Asic.FaultRates
import SiliconSwitch.Asic.Noninterference
import SiliconSwitch.Asic.Delivery
import SiliconSwitch.Asic.Emission
import SiliconSwitch.Asic.ControlHistory
import SiliconSwitch.Asic.Audit
import SiliconSwitch.Asic.Refusals
import SiliconSwitch.Replication.ObserverDisplay
import SiliconSwitch.Discovery.DiscoveryNetwork
import SiliconSwitch.Transport.ControlSessions
import SiliconSwitch.Transport.SocketHandle
import SiliconSwitch.Network.HeaderErrors
import SiliconSwitch.Orchestration.LabLedger
import SiliconSwitch.Replication.IntegrationObserver
import SiliconSwitch.Network.MacAddressText
