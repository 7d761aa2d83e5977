import GhafDeviceManager.Machine
import GhafDeviceManager.State

/-!
# What the manager can ask of its surroundings

`Op` lists the operations the source performs: accesses to its own memory, writes of the state
file, notifications, Crosvm commands, and reads and writes of sysfs. `react` answers them from a
`World`, leaving to a `Choice` what the source cannot know: which operation fails, which port
Crosvm hands out, what a list shows afterwards and how the kernel answers a write.
-/

namespace GhafDeviceManager

/-- An error with its contexts, outermost first. -/
abbrev Error := List String

/-- `{error}`: the outermost context only. -/
def Error.text (error : Error) : String := error.headD ""

abbrev LivePort := UInt8 × String × String

inductive Notification
  | usbSelectVm (device : UsbDevice) (allowedVms : List String)
  | usbAttached (device : UsbDevice) (vm : String)
  | usbDetached (node vm : String)
  | usbConnected (device : UsbDevice)
  | usbDisconnected (node : Option String)
  | pciAttached (device : PciDevice) (vm : String)
  | pciDetached (device : PciDevice) (vm : String)
  | pciConnected (device : PciDevice)
  | pciDisconnected (address : String)
deriving DecidableEq

inductive Lock
  | operation
  | state
  | observedUsb
  | observedPci
  | pendingUsbSelection
  | usbRouting
  | reportedUsbHubs
  | deferred
deriving DecidableEq

inductive Entry
  | attachOneUsb (device : UsbDevice) (rule : RuleMatch) (requestedVm : Option String)
  | detachOneUsb (device : UsbDevice) (permanent : Bool)
  | usbRouting (devices : List UsbDevice)
  | settleDrivers (routed : List String)
  | resumeUsb (devices : List (UsbDevice × RuleMatch))
  | deauthorizeUnmatchedUsb (devices : List UsbDevice)
  | observe
  | attachOnePci (device : PciDevice) (rule : RuleMatch) (requestedVm : Option String)
  | detachOnePci (device : PciDevice) (rule : RuleMatch) (permanent : Bool)
deriving DecidableEq

inductive Op
  /-- Marks the start of a call in the log; nothing else comes of it. -/
  | enter (entry : Entry)
  | lock (lock : Lock)
  | unlock (lock : Lock)
  | read (lock : Lock)
  | update (update : Update)
  | save
  | notify (notification : Notification)
  /-- The iteration order of a hash map with these keys. -/
  | order (keys : List String)
  | socketGeneration (socket : String)
  | usbList (socket : String)
  | usbAttach (vm : Vm) (node : String)
  | usbDetach (vm : Vm) (port : UInt8)
  | vfioList (socket : String)
  | vfioAdd (vm : Vm) (address : String)
  | vfioRemove (vm : Vm) (address : String)
  | usbBus
  | autoprobe
  | setAutoprobe (value : String)
  | setAuthorizedDefault (value : Bool)
  | scanUsb
  | deviceNames
  | interfaces (sysName : String)
  | driver (name : String)
  | probe (name : String)
  | release (name : String)
  | authorization (sysName : String)
  | authorize (sysName : String) (value : Bool)
  | scanPci
  | iommuGroup (address : String)
  | pciDriver (address : String)
  | pciUnbind (address : String)
  | pciOverride (address : String)
  | pciProbe (address : String)

@[reducible] def Reply : Op → Type
  | .read _ => Memory
  | .save => Except Error Unit
  | .order _ => List String
  | .socketGeneration _ => Option String
  | .usbList _ => Except Error (List LivePort)
  | .usbAttach _ _ => Except Error UInt8
  | .usbDetach _ _ => Except Error Unit
  | .vfioList _ => Except Error (List String)
  | .vfioAdd _ _ => Except Error Unit
  | .vfioRemove _ _ => Except Error Unit
  | .usbBus => Bool
  | .autoprobe => Option String
  | .setAutoprobe _ => Except Error Unit
  | .scanUsb => Except Error (List UsbDevice)
  | .deviceNames => Except Error (List String)
  | .interfaces _ => Except Error (List String)
  | .driver _ => Option String
  | .probe _ => Except Error Unit
  | .release _ => Except Error Unit
  | .authorization _ => Option Bool
  | .authorize _ _ => Except Error Unit
  | .scanPci => Except Error (List PciDevice)
  | .iommuGroup _ => Except Error (List String)
  | .pciDriver _ => Option String
  | .pciUnbind _ => Except Error Unit
  | .pciOverride _ => Except Error Unit
  | .pciProbe _ => Except Error Unit
  | _ => Unit

/-! ## USB sysfs -/

structure UsbBus where
  /-- The text of `drivers_autoprobe`, where the kernel exposes it. -/
  autoprobe : Option String := none
  entries : List UsbEntry := []
  /-- Devices backing active host storage. -/
  hostStorage : List String := []

namespace UsbGate

/-- usbfs as a bound driver is a VM holding the device, not a host driver. -/
def claim : String := "usbfs"

def hub : String := "hub"

def releasable (driver : String) : Bool := driver != claim && driver != hub

/-- A root hub is the naming exception: device `usbN`, interface `N-0:1.0`. -/
def interfacePrefix (sysName : String) : String :=
  let bus := sysName.toList.drop 3
  if Text.startsWith sysName "usb" && !bus.isEmpty && bus.all Char.isDigit then
    String.ofList bus ++ "-0:"
  else sysName ++ ":"

end UsbGate

namespace UsbBus

def entry (bus : UsbBus) (name : String) : Option UsbEntry :=
  bus.entries.find? fun entry => entry.name = name

def deviceNames (bus : UsbBus) : List String :=
  sortNames ((bus.entries.map UsbEntry.name).filter fun name => !Text.contains name ':')

def interfaces (bus : UsbBus) (sysName : String) : List String :=
  sortNames ((bus.entries.map UsbEntry.name).filter fun name =>
    Text.startsWith name (UsbGate.interfacePrefix sysName))

def driver (bus : UsbBus) (name : String) : Option String :=
  ((bus.entry name).bind UsbEntry.driver).map Text.fileName

def authorization (bus : UsbBus) (sysName : String) : Option Bool :=
  match (bus.entry sysName).bind fun entry => entry.read "authorized" with
  | some "0" => some false
  | some "1" => some true
  | _ => none

def plugged (bus : UsbBus) (node : String) : Option ℕ :=
  (bus.entries.find? fun entry =>
    deviceNode (entry.decimal "busnum") (entry.decimal "devnum") == some node).map UsbEntry.plugged

def modify (bus : UsbBus) (name : String) (f : UsbEntry → UsbEntry) : UsbBus :=
  { bus with entries := bus.entries.map fun entry => if entry.name = name then f entry else entry }

def unbound (bus : UsbBus) (name : String) : UsbBus :=
  bus.modify name fun entry => { entry with driver := none }

def flag (value : Bool) : String := if value then "1" else "0"

def authorized (bus : UsbBus) (sysName : String) (value : Bool) : UsbBus :=
  bus.modify sysName fun entry =>
    { entry with files := ("authorized", flag value) ::
        entry.files.filter fun file => file.1 ≠ "authorized" }

end UsbBus

/-! ## World -/

/-- What a run leaves behind, newest first. -/
inductive Effect
  | entered (entry : Entry)
  | notified (notification : Notification)
  /-- With the generation of the VM's socket and the plug-in that had the node at the time. -/
  | usbAttach (vm : Vm) (node generation : String) (plugged : Option ℕ) (reply : Option UInt8)
  | usbDetach (vm : Vm) (port : UInt8) (ok : Bool)
  | vfioAdd (vm : Vm) (address : String) (ok : Bool)
  | vfioRemove (vm : Vm) (address : String) (ok : Bool)
  | saved (ok : Bool)
  | portRecorded (device : UsbDevice) (vm : String) (port : UInt8) (generation : String)
  | probed (name : String) (ok : Bool)
  | released (name : String) (ok : Bool)
  | authorized (sysName : String) (value ok : Bool)
  | autoprobe (value : String) (ok : Bool)
  | authorizedDefault (value : Bool)
  | pciUnbound (address : String) (ok : Bool)
  | pciOverridden (address : String) (ok : Bool)
  | pciProbed (address : String) (ok : Bool)
deriving DecidableEq

structure World where
  daemon : Daemon
  memory : Memory := {}
  bus : UsbBus := {}
  pci : List PciEntry := []
  /-- The generation of each control socket that exists. -/
  sockets : String → Option String := fun _ => none
  /-- What the Crosvm behind a socket lists. -/
  ports : String → List LivePort := fun _ => []
  vfio : String → List String := fun _ => []
  stateFile : Option PersistentState := none
  log : List Effect := []

namespace World

def usbDevices (w : World) : List UsbDevice :=
  GhafDeviceManager.scanUsb w.daemon.host.hwdb w.bus.hostStorage w.bus.entries

/-- `socket_generation(..).unwrap_or_default()` -/
def generation (w : World) (socket : String) : String := (w.sockets socket).getD ""

def record (w : World) (effect : Effect) : World := { w with log := effect :: w.log }

/-- The device of the latest call of `attachOneUsb`. -/
def attaching (w : World) : Option UsbDevice :=
  w.log.findSome? fun
    | .entered (.attachOneUsb device _ _) => some device
    | _ => none

end World

structure Choice where
  fail : Bool := false
  port : UInt8 := 0
  /-- The bus after a write, where the kernel does more than the write itself. -/
  bus : Option UsbBus := none
  /-- What the Crosvm addressed lists after a command. -/
  ports : Option (List LivePort) := none
  vfio : Option (List String) := none
  pci : Option (List PciEntry) := none
  order : List String := []

namespace Choice

def result {α : Type} (c : Choice) (message : String) (value : α) : Except Error α :=
  if c.fail then .error [message] else .ok value

def setPorts (c : Choice) (w : World) (socket : String) : World :=
  { w with ports := match c.ports with
      | none => w.ports
      | some live => Function.update w.ports socket live }

def setVfio (c : Choice) (w : World) (socket : String) : World :=
  { w with vfio := match c.vfio with
      | none => w.vfio
      | some paths => Function.update w.vfio socket paths }

/-- A write to sysfs, which nothing comes of when it fails. -/
def setBus (c : Choice) (w : World) (bus : UsbBus) : World :=
  { w with bus := if c.fail then w.bus else c.bus.getD bus }

def setPci (c : Choice) (w : World) : World := { w with pci := c.pci.getD w.pci }

end Choice

def updateEffect (w : World) : Update → World
  | .crosvmUsbPortsInsert device vm port generation =>
    w.record (.portRecorded device vm port generation)
  | _ => w

def react (w : World) : (op : Op) → Choice → Reply op × World
  | .enter entry, _ => ((), w.record (.entered entry))
  | .lock _, _ => ((), w)
  | .unlock _, _ => ((), w)
  | .read _, _ => (w.memory, w)
  | .update u, _ => ((), updateEffect { w with memory := u.apply w.memory } u)
  | .save, c => (c.result "failed to save state" (),
      { w with stateFile := if c.fail then w.stateFile else some w.memory.persistent }.record
        (.saved !c.fail))
  | .notify n, _ => ((), w.record (.notified n))
  | .order keys, c => (if c.order.isPerm keys then c.order else keys, w)
  | .socketGeneration socket, _ => (w.sockets socket, w)
  | .usbList socket, c => (c.result "Crosvm command failed" (w.ports socket), w)
  | .usbAttach vm node, c => (c.result "Crosvm command failed" c.port,
      (c.setPorts w vm.socket).record
        (.usbAttach vm node (w.generation vm.socket) (w.bus.plugged node)
          (if c.fail then none else some c.port)))
  | .usbDetach vm port, c => (c.result "Crosvm command failed" (),
      (c.setPorts w vm.socket).record (.usbDetach vm port !c.fail))
  | .vfioList socket, c => (c.result "Crosvm command failed" (w.vfio socket), w)
  | .vfioAdd vm address, c => (c.result "Crosvm command failed" (),
      (c.setVfio w vm.socket).record (.vfioAdd vm address !c.fail))
  | .vfioRemove vm address, c => (c.result "Crosvm command failed" (),
      (c.setVfio w vm.socket).record (.vfioRemove vm address !c.fail))
  | .usbBus, _ => (w.bus.autoprobe.isSome, w)
  | .autoprobe, _ => (w.bus.autoprobe, w)
  | .setAutoprobe value, c => (c.result "failed to write drivers_autoprobe" (),
      (c.setBus w { w.bus with autoprobe := some value }).record (.autoprobe value !c.fail))
  | .setAuthorizedDefault value, c =>
      ((), { w with bus := c.bus.getD w.bus }.record (.authorizedDefault value))
  | .scanUsb, c => (c.result "failed to scan" w.usbDevices, w)
  | .deviceNames, c => (c.result "failed to scan" w.bus.deviceNames, w)
  | .interfaces sysName, c => (c.result "failed to scan" (w.bus.interfaces sysName), w)
  | .driver name, _ => (w.bus.driver name, w)
  | .probe name, c => (c.result ("failed to write " ++ name ++ " to drivers_probe") (),
      (c.setBus w w.bus).record (.probed name !c.fail))
  | .release name, c => (c.result ("failed to unbind the host driver from " ++ name) (),
      (c.setBus w (w.bus.unbound name)).record (.released name !c.fail))
  | .authorization sysName, _ => (w.bus.authorization sysName, w)
  | .authorize sysName value, c =>
      if ((w.bus.entry sysName).bind fun entry => entry.read "authorized").isNone then
        (.error ["USB device " ++ sysName ++ " has no authorized attribute"], w)
      else (c.result "failed to write authorized" (),
        (c.setBus w (w.bus.authorized sysName value)).record
          (.authorized sysName value !c.fail))
  | .scanPci, c => (c.result "failed to scan" (GhafDeviceManager.scanPci w.pci), w)
  | .iommuGroup address, c =>
      (c.result "failed to read the IOMMU group" (GhafDeviceManager.iommuGroup w.pci address), w)
  | .pciDriver address, _ =>
      (((w.pci.find? fun entry => entry.address = address).bind PciEntry.driver).map
        Text.fileName, w)
  | .pciUnbind address, c => (c.result ("failed to unbind PCI device " ++ address) (),
      (c.setPci w).record (.pciUnbound address !c.fail))
  | .pciOverride address, c => (c.result ("failed to set driver_override for " ++ address) (),
      (c.setPci w).record (.pciOverridden address !c.fail))
  | .pciProbe address, c => (c.result ("failed to probe vfio-pci for " ++ address) (),
      (c.setPci w).record (.pciProbed address !c.fail))

/-- The manager's machine, with the choices that `allowed` admits. -/
def machine (allowed : World → Op → Choice → Prop) : Machine Op Reply World :=
  Machine.ofReact react allowed

end GhafDeviceManager
