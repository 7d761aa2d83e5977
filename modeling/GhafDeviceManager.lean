import GhafDeviceManager.AttachAuthorization
import GhafDeviceManager.BootAddresses
import GhafDeviceManager.BootAgreement
import GhafDeviceManager.BootOptions
import GhafDeviceManager.CommandLine
import GhafDeviceManager.ConnectionEvents
import GhafDeviceManager.Criteria
import GhafDeviceManager.CrosvmPorts
import GhafDeviceManager.Deferral
import GhafDeviceManager.Descriptors
import GhafDeviceManager.DetachOutcome
import GhafDeviceManager.DriverCache
import GhafDeviceManager.EventLoop
import GhafDeviceManager.ExclusivePorts
import GhafDeviceManager.GateRuns
import GhafDeviceManager.HandBack
import GhafDeviceManager.HeldInterfaces
import GhafDeviceManager.HolderEvents
import GhafDeviceManager.HostDevices
import GhafDeviceManager.HostStorage
import GhafDeviceManager.Hubs
import GhafDeviceManager.InertPolicies
import GhafDeviceManager.InterfaceNames
import GhafDeviceManager.Lifetime
import GhafDeviceManager.Listening
import GhafDeviceManager.Orphans
import GhafDeviceManager.PciEvents
import GhafDeviceManager.PciMarks
import GhafDeviceManager.Protocol
import GhafDeviceManager.Quarantine
import GhafDeviceManager.Reenumeration
import GhafDeviceManager.RequestOrder
import GhafDeviceManager.RoutingMemory
import GhafDeviceManager.RuleOrder
import GhafDeviceManager.ScanOrder
import GhafDeviceManager.ScopedResume
import GhafDeviceManager.SelectorGuards
import GhafDeviceManager.StateFile
import GhafDeviceManager.Terminal
import GhafDeviceManager.UsbMarks
import GhafDeviceManager.VfioHotplug
