import GhafDeviceManager.Gate
import GhafDeviceManager.PciAttach

/-!
# Requests and the reconcile pass

The operations of the manager: requests for the devices a selector names, suspend and resume per
VM, and `reconcile`, which settles the gate, observes what came and went, and attaches again.
-/

namespace GhafDeviceManager

structure Selector where
  deviceNode : Option String := none
  bus : Option ℕ := none
  port : Option ℕ := none
  vid : Option String := none
  pid : Option String := none
  address : Option String := none
  did : Option String := none
  tag : Option String := none

/-- `aggregate`: the failures joined, if there are any. -/
def aggregate (failures : List String) : Act Unit :=
  if failures.isEmpty then pure () else throw [String.intercalate "; " failures]

def Daemon.usbRouted (d : Daemon) (devices : List UsbDevice) : List (UsbDevice × RuleMatch) :=
  devices.filterMap fun device => (d.usbRule device).map fun rule => (device, rule)

def usbDevices (d : Daemon) : Act (List (UsbDevice × RuleMatch)) := do
  return d.usbRouted (← scanUsbRoot)

def selectsPair (a b : Option String) (x y : Option String) : Bool :=
  match a, b with
  | some a, some b => caseEq x (some a) && caseEq y (some b)
  | _, _ => false

def selectsUsb (selector : Selector) (device : UsbDevice) (rule : RuleMatch) : Bool :=
  (selector.deviceNode.any fun value => device.deviceNode == some value) ||
    (selector.bus.isSome && selector.port.isSome && device.bus == selector.bus &&
      device.rootPort == selector.port) ||
    selectsPair selector.vid selector.pid device.vid device.pid ||
    (selector.tag.any fun tag => rule.tag == some tag)

def selectsPci (selector : Selector) (device : PciDevice) (rule : RuleMatch) : Bool :=
  (selector.address.any fun value => Text.eqIgnoreAsciiCase device.address value) ||
    selectsPair selector.vid selector.did device.vendorIdText device.deviceIdText ||
    (selector.tag.any fun tag => rule.tag == some tag)

def selectedUsb (d : Daemon) (selector : Selector) : Act (List (UsbDevice × RuleMatch)) := do
  let result := (← usbDevices d).filter fun (device, rule) => selectsUsb selector device rule
  if result.isEmpty then throw ["no matching USB device found"] else return result

def selectedPci (d : Daemon) (selector : Selector) : Act (List (PciDevice × RuleMatch)) := do
  let result := (← pciDevices d).filter fun (device, rule) => selectsPci selector device rule
  if result.isEmpty then throw ["no matching PCI device found"] else return result

structure UsbListDevice where
  device : UsbDevice
  allowedVms : List String
  vm : Option String
  disconnected : Bool

def usbListed (m : Memory) (disconnected : Option Bool) (tag : Option String)
    (device : UsbDevice) (rule : RuleMatch) : Option UsbListDevice :=
  let isDisconnected := m.persistent.disconnected device.persistentId
  if disconnected.any (fun wanted => wanted != isDisconnected) ||
      tag.any (fun wanted => rule.tag != some wanted) then none
  else some
    { device := device
      allowedVms := allowedVms rule
      vm := device.deviceNode.bind m.usbVms.lookup
      disconnected := isDisconnected }

/-- `usb_list` -/
def Daemon.usbList (d : Daemon) (disconnected : Option Bool) (tag : Option String) :
    Act (List UsbListDevice) := withLock .state do
  let m ← readMemory .state
  let devices ← usbDevices d
  return devices.filterMap fun (device, rule) => usbListed m disconnected tag device rule

structure PciListDevice where
  device : PciDevice
  allowedVms : List String
  vm : Option String
  disconnected : Bool

def pciListed (m : Memory) (disconnected : Option Bool) (tag : Option String)
    (device : PciDevice) (rule : RuleMatch) : Option PciListDevice :=
  let isDisconnected := m.persistent.disconnected device.persistentId
  if disconnected.any (fun wanted => wanted != isDisconnected) ||
      tag.any (fun wanted => rule.tag != some wanted) then none
  else some
    { device := device
      allowedVms := allowedVms rule
      vm := m.pciVms.lookup device.address
      disconnected := isDisconnected }

/-- `pci_list` -/
def Daemon.pciList (d : Daemon) (disconnected : Option Bool) (tag : Option String) :
    Act (List PciListDevice) := withLock .state do
  let m ← readMemory .state
  let devices ← pciDevices d
  return devices.filterMap fun (device, rule) => pciListed m disconnected tag device rule

/-- Run `p` for one device of a request and note its failure under the device's name. -/
def collect (name : String) (p : Act Unit) (failures : List String) : Act (List String) := do
  match ← Fallible.attempt p with
  | .ok _ => return failures
  | .error e => return failures ++ [name ++ ": " ++ Error.text e]

/-! ## Requests -/

def attachUsb (d : Daemon) (selector : Selector) (selectedVm : Option String) : Act Unit :=
  withLock .operation do
    let devices ← selectedUsb d selector
    let failures ← devices.foldlM (fun failures (device, rule) =>
      collect device.sysName (attachOneUsb d device rule selectedVm) failures) []
    aggregate failures

def detachUsb (d : Daemon) (selector : Selector) (permanent : Bool) : Act Unit :=
  withLock .operation do
    let devices ← selectedUsb d selector
    let failures ← devices.foldlM (fun failures (device, _) =>
      collect device.sysName (detachOneUsb d device permanent) failures) []
    aggregate failures

def attachPci (d : Daemon) (selector : Selector) (requestedVm : Option String) : Act Unit :=
  withLock .operation do
    let devices ← selectedPci d selector
    let failures ← devices.foldlM (fun failures (device, rule) =>
      collect device.address (attachOnePci d device rule requestedVm) failures) []
    aggregate failures

def detachPci (d : Daemon) (selector : Selector) (permanent : Bool) : Act Unit :=
  withLock .operation do
    let devices ← selectedPci d selector
    let failures ← devices.foldlM (fun failures (device, rule) =>
      collect device.address (detachOnePci d device rule permanent) failures) []
    aggregate failures

/-! ## Suspend and resume -/

/-- Whether an operation limited to `vm` covers a device held by `name`. -/
def covers (vm : Option String) (name : String) : Bool := vm.all fun wanted => wanted == name

def suspendUsbDevice (d : Daemon) (vm : Option String) (failures : List String)
    (device : UsbDevice) : Act (List String) := do
  let m ← readMemory .state
  if (m.usbVms.lookup (device.deviceNode.getD "")).any (covers vm) then
    collect device.sysName (detachOneUsb d device false) failures
  else return failures

def suspendUsb (d : Daemon) (vm : Option String) : Act Unit := withLock .operation do
  let devices := (← usbDevices d).filter fun (_, rule) => !rule.skipOnSuspend
  let failures ← devices.foldlM (fun failures (device, _) =>
    suspendUsbDevice d vm failures device) []
  aggregate failures

def suspendPciDevice (d : Daemon) (vm : Option String) (failures : List String)
    (device : PciDevice) (rule : RuleMatch) : Act (List String) := do
  let m ← readMemory .state
  if (m.pciVms.lookup device.address).any (covers vm) then
    collect device.address (detachOnePci d device rule false) failures
  else return failures

def suspendPci (d : Daemon) (vm : Option String) : Act Unit := withLock .operation do
  let devices := (← pciDevices d).filter fun (_, rule) => !rule.skipOnSuspend
  let failures ← devices.foldlM (fun failures (device, rule) =>
    suspendPciDevice d vm failures device rule) []
  aggregate failures

/-- Checked only after a failed attach, so real Crosvm errors still surface. -/
def vmStopped (d : Daemon) (vmName : Option String) : Act Bool := do
  match vmName.bind d.vm with
  | none => return false
  | some vm => return (← socketGeneration vm.socket).isNone

def collectDeferring (d : Daemon) (name : String) (target : Option String) (p : Act Unit)
    (failures : List String) : Act (List String) := do
  match ← Fallible.attempt p with
  | .ok _ => return failures
  | .error e =>
    if ← vmStopped d target then
      update (.deferred true)
      return failures
    else return failures ++ [name ++ ": " ++ Error.text e]

/-- The VM a resume attaches a device to. -/
def resumeTarget (rule : RuleMatch) (selectedVms : Map String) (id : String) : Option String :=
  rule.targetVm <|> selectedVms.lookup id

def inScope (vm target : Option String) : Bool :=
  match vm, target with
  | some wanted, some name => wanted == name
  | some _, none => false
  | none, _ => true

def resumeUsbDevice (d : Daemon) (vm : Option String) (failures : List String)
    (device : UsbDevice) (rule : RuleMatch) : Act (List String) := do
  let m ← readMemory .state
  if m.persistent.disconnected device.persistentId then return failures
  else
    let target ← match rule.targetVm with
      | some target => pure (some target)
      | none => do
        let m ← readMemory .state
        pure (m.persistent.selectedVms.lookup device.persistentId)
    if inScope vm target then
      collectDeferring d device.sysName target (attachOneUsb d device rule target) failures
    else return failures

def resumeUsb (d : Daemon) (vm : Option String) : Act Unit := withLock .operation do
  let devices ← usbDevices d
  enter (.resumeUsb devices)
  let failures ← devices.foldlM (fun failures (device, rule) =>
    resumeUsbDevice d vm failures device rule) []
  aggregate failures

def resumePciDevice (d : Daemon) (vm : Option String) (failures : List String)
    (device : PciDevice) (rule : RuleMatch) : Act (List String) := do
  let m ← readMemory .state
  if m.persistent.disconnected device.persistentId then return failures
  else if rule.targetVm.any (covers vm) then
    collectDeferring d device.address rule.targetVm
      (attachOnePci d device rule rule.targetVm) failures
  else return failures

def resumePci (d : Daemon) (vm : Option String) : Act Unit := withLock .operation do
  let devices ← pciDevices d
  let failures ← devices.foldlM (fun failures (device, rule) =>
    resumePciDevice d vm failures device rule) []
  aggregate failures

/-! ## Observe -/

def insertAll {α : Type} (key : α → String) (devices : List α) : Map α :=
  devices.foldl (fun map device => map.insert (key device) device) ∅

/-- The entries of a map in iteration order. -/
def inOrder {α : Type} (map : Map α) : Act (List (String × α)) := do
  let keys ← order map.keys
  return keys.filterMap fun key => (map.lookup key).map fun value => (key, value)

/-- Takes a vanished device's port back from the VM instance that still lists it. -/
def releasePort (d : Daemon) (binding : UsbPortBinding) : Act Unit := do
  let vm ← d.vmNamed binding.vm
  if (← socketGeneration vm.socket).isSome then
    let generation ← socketGeneration vm.socket
    if binding.socketGeneration == generation.getD "" then
      let live ← usbList vm.socket
      if live.any (listsBinding binding) then usbDetach vm binding.port

def forgetVanished (d : Daemon) (key : String) (device : UsbDevice) : Act Unit := do
  let m ← readMemory .state
  match m.persistent.crosvmUsbPorts.lookup key with
  | some binding => releasePort d binding
  | none => pure ()
  notify (.usbDisconnected device.deviceNode)
  withLock .state do
    match device.deviceNode with
    | some node => update (.usbVmsRemove node)
    | none => pure ()
    update (.crosvmUsbPortsRemove key)
    saveState d
  update (.pendingRemove device.persistentId)

def observeUsb (d : Daemon) (usb : Map UsbDevice) : Act Unit := withLock .observedUsb do
  let observed := (← readMemory .observedUsb).observedUsb
  let present ← inOrder usb
  present.forM fun (key, device) =>
    if (observed.lookup key).isNone then notify (.usbConnected device) else pure ()
  let seen ← inOrder observed
  seen.forM fun (key, device) =>
    if (usb.lookup key).isNone then forgetVanished d key device else pure ()
  update (.observedUsb usb)

def observePci (pci : Map PciDevice) : Act Unit := withLock .observedPci do
  let observed := (← readMemory .observedPci).observedPci
  let present ← inOrder pci
  present.forM fun (key, device) =>
    if (observed.lookup key).isNone then notify (.pciConnected device) else pure ()
  let seen ← inOrder observed
  seen.forM fun (key, device) => do
    if (pci.lookup key).isNone then
      notify (.pciDisconnected device.address)
      update (.pciVmsRemove key)
  update (.observedPci pci)

def observe (d : Daemon) : Act Unit := do
  enter .observe
  let usb := insertAll UsbDevice.sysName ((← usbDevices d).map Prod.fst)
  let pci := insertAll PciDevice.address ((← pciDevices d).map Prod.fst)
  observeUsb d usb
  observePci pci

/-! ## Reconcile -/

def reconcile (d : Daemon) : Act Unit := do
  update (.deferred false)
  warnOnError (applyUsbGate d)
  observe d
  let failures ← collect "PCI" (resumePci d none) []
  let failures ← collect "USB" (resumeUsb d none) failures
  let failures ← collect "USB authorization" (deauthorizeUnmatchedUsb d) failures
  aggregate failures

end GhafDeviceManager
