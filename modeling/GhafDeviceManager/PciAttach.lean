import GhafDeviceManager.UsbAttach

/-!
# Attaching and detaching one PCI device
-/

namespace GhafDeviceManager

def vfioList (socket : String) : Act (List String) := Fallible.request (.vfioList socket) id

def vfioAdd (vm : Vm) (address : String) : Act Unit := Fallible.request (.vfioAdd vm address) id

def vfioRemove (vm : Vm) (address : String) : Act Unit :=
  Fallible.request (.vfioRemove vm address) id

def scanPciRoot : Act (List PciDevice) := Fallible.request .scanPci id

def iommuGroupAt (address : String) : Act (List String) :=
  Fallible.request (.iommuGroup address) id

def pciDriver (address : String) : Act (Option String) :=
  Fallible.request (.pciDriver address) .ok

def bindVfio (address : String) : Act Unit := do
  let currentDriver ← pciDriver address
  if currentDriver ≠ some "vfio-pci" then
    if currentDriver.isSome then Fallible.request (.pciUnbind address) id
    Fallible.request (.pciOverride address) id
    Fallible.request (.pciProbe address) id

def pciPath (address : String) : String := "/sys/bus/pci/devices/" ++ address

/-- The devices rules route, in the order of the configuration. -/
def pciRouted (d : Daemon) : List PciDevice → Act (List (PciDevice × RuleMatch))
  | [] => pure []
  | device :: rest => do
    match d.pciRule device with
    | none => pciRouted d rest
    | some rule =>
      if rule.iommuSkipIfShared then
        if 1 < (← iommuGroupAt device.address).length then pciRouted d rest
        else return (device, rule) :: (← pciRouted d rest)
      else return (device, rule) :: (← pciRouted d rest)

def pciBefore (left right : PciDevice × RuleMatch) : Prop :=
  left.2.order < right.2.order ∨
    left.2.order = right.2.order ∧ left.1.address ≤ right.1.address

instance : DecidableRel pciBefore := fun _ _ => by unfold pciBefore; infer_instance

def pciDevices (d : Daemon) : Act (List (PciDevice × RuleMatch)) := do
  let devices ← scanPciRoot
  return (← pciRouted d devices).insertionSort pciBefore

def addMissing (vm : Vm) (live : List String) : List String → (changed : Bool) → Act Bool
  | [], changed => pure changed
  | address :: rest, changed => do
    if live.contains (pciPath address) then addMissing vm live rest changed
    else
      withContext ("failed to attach " ++ address ++
        "; its IOMMU group remains quarantined under vfio-pci") (vfioAdd vm address)
      addMissing vm live rest true

/-- What is bound to `vfio-pci` for a device: its IOMMU group, or itself where it has none. -/
def quarantine (device : PciDevice) (group : List String) : List String :=
  if group.isEmpty then [device.address] else group

def passthrough (device : PciDevice) (rule : RuleMatch) (group : List String) : List String :=
  if rule.iommuAddAll then quarantine device group else [device.address]

def recordPci (d : Daemon) (device : PciDevice) (vmName : String) (attach : List String) :
    Act Unit := withLock .state do
  attach.forM fun address => update (.pciVmsInsert address vmName)
  setDisconnected d device.persistentId false

/-- The attach once everything is bound, over the list of the preflight. -/
def attachQuarantined (d : Daemon) (device : PciDevice) (vm : Vm) (vmName : String)
    (live attach : List String) : Act Unit := do
  let m ← readMemory .state
  let changed := attach.any fun address => m.pciVms.lookup address != some vmName
  let changed ← addMissing vm live attach changed
  recordPci d device vmName attach
  if changed then notify (.pciAttached device vmName)

def attachOnePci (d : Daemon) (device : PciDevice) (rule : RuleMatch)
    (requestedVm : Option String) : Act Unit := do
  enter (.attachOnePci device rule requestedVm)
  let target ← require "PCI rule has no targetVm" rule.targetVm
  let vmName := requestedVm.getD target
  if vmName ≠ target then
    throw ["VM " ++ vmName ++ " is not allowed for PCI device " ++ device.address]
  let vm ← d.vmNamed vmName
  let live ← withContext "VFIO hotplug preflight failed" (vfioList vm.socket)
  let group ← iommuGroupAt device.address
  if rule.iommuSkipIfShared && 1 < group.length then
    throw ["IOMMU group for " ++ device.address ++ " is shared"]
  (quarantine device group).forM bindVfio
  attachQuarantined d device vm vmName live (passthrough device rule group)

def removePci (vm : Vm) (detach : List String) : Act Unit := do
  if (← socketGeneration vm.socket).isSome then detach.forM (vfioRemove vm)

def forgetPci (device : PciDevice) (vmName : String) (detach : List String) : Act Unit := do
  withLock .state (detach.forM fun address => update (.pciVmsRemove address))
  notify (.pciDetached device vmName)

def detachPciFrom (d : Daemon) (device : PciDevice) (rule : RuleMatch) (vmName : String) :
    Act Unit := do
  let vm ← d.vmNamed vmName
  let group ← iommuGroupAt device.address
  let detach := if rule.iommuAddAll && !group.isEmpty then group else [device.address]
  removePci vm detach
  forgetPci device vmName detach

def detachOnePci (d : Daemon) (device : PciDevice) (rule : RuleMatch) (permanent : Bool) :
    Act Unit := do
  enter (.detachOnePci device rule permanent)
  let m ← readMemory .state
  match m.pciVms.lookup device.address <|> rule.targetVm with
  | some vmName => detachPciFrom d device rule vmName
  | none => pure ()
  withLock .state (setDisconnected d device.persistentId permanent)

end GhafDeviceManager
