import GhafDeviceManager.Config
import Mathlib.Data.List.AList

/-!
# The manager's memory

`PersistentState` is what the state file holds, `Memory` everything the manager keeps behind its
locks. Each assignment of the source is an `Update`, so that what a program may change can be read
off its operations.
-/

namespace GhafDeviceManager

abbrev Map (α : Type) := AList fun _ : String => α

structure UsbPortBinding where
  vm : String
  port : UInt8
  socketGeneration : String
  vid : Option String
  pid : Option String
  serial : Option String
deriving DecidableEq, Repr

structure PersistentState where
  selectedVms : Map String := ∅
  disconnectedDevices : List String := []
  crosvmUsbPorts : Map UsbPortBinding := ∅

structure Memory where
  persistent : PersistentState := {}
  usbVms : Map String := ∅
  pciVms : Map String := ∅
  observedUsb : Map UsbDevice := ∅
  observedPci : Map PciDevice := ∅
  pendingUsbSelection : List String := []
  /-- The routing verdict of each persistent id seen by the last pass. -/
  usbRouting : Map Bool := ∅
  reportedUsbHubs : List String := []
  deferred : Bool := false

namespace PersistentState

def disconnected (state : PersistentState) (id : String) : Bool :=
  state.disconnectedDevices.contains id

def setDisconnected (state : PersistentState) (id : String) (value : Bool) : PersistentState :=
  let others := state.disconnectedDevices.filter (· ≠ id)
  { state with disconnectedDevices := if value then sortNames (others ++ [id]) else others }

@[simp] theorem setDisconnected_crosvmUsbPorts (state : PersistentState) (id : String)
    (value : Bool) : (state.setDisconnected id value).crosvmUsbPorts = state.crosvmUsbPorts := rfl

@[simp] theorem setDisconnected_selectedVms (state : PersistentState) (id : String)
    (value : Bool) : (state.setDisconnected id value).selectedVms = state.selectedVms := rfl

theorem disconnected_setDisconnected (state : PersistentState) (id other : String)
    (value : Bool) : (state.setDisconnected id value).disconnected other =
      if other = id then value else state.disconnected other := by
  cases value <;> by_cases h : other = id <;>
    simp [setDisconnected, disconnected, mem_sortNames, h]

end PersistentState

def Memory.load (persistent : PersistentState) : Memory := { persistent }

/-- The binding an attachment of `device` leaves behind. -/
def portBinding (device : UsbDevice) (vm : String) (port : UInt8) (generation : String) :
    UsbPortBinding where
  vm := vm
  port := port
  socketGeneration := generation
  vid := device.vid
  pid := device.pid
  serial := device.serial

inductive Update
  | usbVmsInsert (node vm : String)
  | usbVmsRemove (node : String)
  | selectVm (id vm : String)
  | setDisconnected (id : String) (value : Bool)
  | crosvmUsbPortsInsert (device : UsbDevice) (vm : String) (port : UInt8) (generation : String)
  | crosvmUsbPortsRemove (sysName : String)
  | pciVmsInsert (address vm : String)
  | pciVmsRemove (address : String)
  | pendingInsert (id : String)
  | pendingRemove (id : String)
  | usbRouting (cache : Map Bool)
  | reportedInsert (id : String)
  | observedUsb (devices : Map UsbDevice)
  | observedPci (devices : Map PciDevice)
  | deferred (value : Bool)

def Update.apply (m : Memory) : Update → Memory
  | .usbVmsInsert node vm => { m with usbVms := m.usbVms.insert node vm }
  | .usbVmsRemove node => { m with usbVms := m.usbVms.erase node }
  | .selectVm id vm =>
    let selected := m.persistent.selectedVms.insert id vm
    { m with persistent := { m.persistent with selectedVms := selected } }
  | .setDisconnected id value => { m with persistent := m.persistent.setDisconnected id value }
  | .crosvmUsbPortsInsert device vm port generation =>
    let binding := portBinding device vm port generation
    let ports := m.persistent.crosvmUsbPorts.insert device.sysName binding
    { m with persistent := { m.persistent with crosvmUsbPorts := ports } }
  | .crosvmUsbPortsRemove sysName =>
    let ports := m.persistent.crosvmUsbPorts.erase sysName
    { m with persistent := { m.persistent with crosvmUsbPorts := ports } }
  | .pciVmsInsert address vm => { m with pciVms := m.pciVms.insert address vm }
  | .pciVmsRemove address => { m with pciVms := m.pciVms.erase address }
  | .pendingInsert id => { m with pendingUsbSelection := m.pendingUsbSelection.insert id }
  | .pendingRemove id =>
    { m with pendingUsbSelection := m.pendingUsbSelection.filter (· ≠ id) }
  | .usbRouting cache => { m with usbRouting := cache }
  | .reportedInsert id => { m with reportedUsbHubs := m.reportedUsbHubs.insert id }
  | .observedUsb devices => { m with observedUsb := devices }
  | .observedPci devices => { m with observedPci := devices }
  | .deferred value => { m with deferred := value }

end GhafDeviceManager
