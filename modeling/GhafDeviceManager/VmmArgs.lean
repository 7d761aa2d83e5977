import GhafDeviceManager.Reconcile

/-!
# Boot arguments

`vmm_args` up to the ACPI tables and input devices that follow the PCI devices. It binds what it
names, so a device is bound to `vfio-pci` once and named once however many groups it is in.
-/

namespace GhafDeviceManager

def Config.hasPciRules (config : Config) (vm : String) : Bool :=
  config.pciPassthrough.any fun rule => enabled rule && rule.getStr "targetVm" == some vm

def vfioArgument (address : String) (rootBus : Bool) : String :=
  pciPath address ++ ",iommu=viommu" ++ (if rootBus then "" else ",removable=true")

structure VmmPci where
  bound : List String := []
  /-- The addresses named so far. -/
  emitted : List String := []
  args : List String

def bindNew : List String → (bound : List String) → Act (List String)
  | [], bound => pure bound
  | address :: rest, bound => do
    if bound.contains address then bindNew rest bound
    else
      bindVfio address
      bindNew rest (address :: bound)

def emitNew (rootBus : Bool) : List String → VmmPci → VmmPci
  | [], acc => acc
  | address :: rest, acc =>
    if acc.emitted.contains address then emitNew rootBus rest acc
    else emitNew rootBus rest { acc with
      emitted := address :: acc.emitted
      args := acc.args ++ ["--vfio", vfioArgument address rootBus] }

def vmmDevice (acc : VmmPci) (device : PciDevice) (rule : RuleMatch) : Act VmmPci := do
  let group ← iommuGroupAt device.address
  let bound ← bindNew (quarantine device group) acc.bound
  return emitNew rule.crosvmUseRootBus (passthrough device rule group) { acc with bound := bound }

def vmmPci (d : Daemon) (vmName : String) (requirePci : Bool) : Act VmmPci := do
  let _ ← d.vmNamed vmName
  let devices := (← pciDevices d).filter fun (_, rule) => rule.targetVm == some vmName
  if requirePci && !d.config.hasPciRules vmName then
    throw ["No PCI passthrough rules are configured for VM " ++ vmName]
  if requirePci && devices.isEmpty then
    throw ["PCI passthrough is configured for VM " ++ vmName ++
      ", but no matching devices are present"]
  devices.foldlM (fun acc (device, rule) => vmmDevice acc device rule)
    { args := if d.config.hasPciRules vmName then ["--vfio-isolate-hotplug"] else [] }

def vmmArgs (d : Daemon) (vmName : String) (requirePci : Bool) : Act (List String) := do
  return (← vmmPci d vmName requirePci).args

end GhafDeviceManager
