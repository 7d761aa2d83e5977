import GhafDeviceManager.Entries
import GhafDeviceManager.Reconcile

/-!
# The protocol

Requests and replies as JSON values, by their derived writers and readers: an enum has its variant
under a tag, a flattened field its entries beside its owner's, and an untagged enum is read as the
first variant that its entries give. A missing key of an `Option` is `None`. Only maps are read
here, which is what the writers write.
-/

namespace GhafDeviceManager

/-! ## Fields -/

section Fields

variable {α : Type}

def nullable (write : α → Value) : Option α → Value
  | none => .null
  | some a => write a

def optional (read : Value → Option α) : Value → Option (Option α)
  | .null => some none
  | value => (read value).map some

def ofU32 (n : UInt32) : Value := .unsigned n.toNat

def asU32 (value : Value) : Option UInt32 :=
  value.asU64.bind fun n => if n < 2 ^ 32 then some (.ofNat n) else none

def ofStrings (texts : List String) : Value := .array (texts.map .string)

def asStrings (value : Value) : Option (List String) :=
  value.asArray.bind fun items => items.mapM Value.asStr

theorem recovers_string : Recovers Value.string Value.asStr id := fun _ => rfl

theorem recovers_unsigned : Recovers Value.unsigned Value.asU64 id := fun _ => rfl

theorem recovers_bool : Recovers Value.bool Value.asBool id := fun _ => rfl

theorem recovers_u32 : Recovers ofU32 asU32 id := by
  intro n
  have hread : asU32 (ofU32 n) = if n.toNat < 2 ^ 32 then some (UInt32.ofNat n.toNat) else none :=
    rfl
  rw [hread, if_pos n.toNat_lt, UInt32.ofNat_toNat]
  rfl

theorem recovers_strings : Recovers ofStrings asStrings id := by
  intro texts
  have htexts := recovers_string.mapM texts
  rw [List.map_id] at htexts
  exact htexts

theorem recovers_nullable {write : α → Value} {read : Value → Option α}
    (h : Recovers write read id) (hnull : ∀ a, write a ≠ .null) :
    Recovers (nullable write) (optional read) id := by
  intro o
  cases o with
  | none => rfl
  | some a =>
      have hsome : optional read (write a) = (read (write a)).map some := by
        cases hvalue : write a with
        | null => exact absurd hvalue (hnull a)
        | _ => rfl
      exact hsome.trans (by rw [h a]; rfl)

end Fields

/-! ## Requests -/

inductive UsbSelector
  | deviceNode (deviceNode : String)
  | busPort (bus port : UInt32)
  | vidPid (vid pid : String)
  | tag (tag : String)
deriving DecidableEq, Repr

inductive PciSelector
  | address (address : String)
  | vidDid (vid did : String)
  | tag (tag : String)
deriving DecidableEq, Repr

inductive Action
  | enableNotifications
  | usbList (disconnected : Option Bool) (tag : Option String)
  | usbAttach (selector : UsbSelector) (vm : Option String)
  | usbDetach (selector : UsbSelector)
  | usbSuspend (vm : Option String)
  | usbResume (vm : Option String)
  | pciList (disconnected : Option Bool) (tag : Option String)
  | pciAttach (selector : PciSelector) (vm : Option String)
  | pciDetach (selector : PciSelector)
  | pciSuspend (vm : Option String)
  | pciResume (vm : Option String)
  | vmmArgs (vm : String) (qemuBusPrefix : Option String) (qemuBusStartIndex : Option UInt32)
    (requirePci : Bool)
deriving DecidableEq, Repr

open Entries

namespace UsbSelector

def entries : UsbSelector → Entries Value
  | deviceNode node => [("device_node", .string node)]
  | busPort bus port => [("bus", ofU32 bus), ("port", ofU32 port)]
  | vidPid vid pid => [("vid", .string vid), ("pid", .string pid)]
  | tag text => [("tag", .string text)]

def readDeviceNode (entries : Entries Value) : Option UsbSelector := do
  return deviceNode (← entries.field Value.asStr "device_node")

def readBusPort (entries : Entries Value) : Option UsbSelector := do
  return busPort (← entries.field asU32 "bus") (← entries.field asU32 "port")

def readVidPid (entries : Entries Value) : Option UsbSelector := do
  return vidPid (← entries.field Value.asStr "vid") (← entries.field Value.asStr "pid")

def readTag (entries : Entries Value) : Option UsbSelector := do
  return tag (← entries.field Value.asStr "tag")

def read (entries : Entries Value) : Option UsbSelector :=
  readDeviceNode entries <|> readBusPort entries <|> readVidPid entries <|> readTag entries

end UsbSelector

namespace PciSelector

def entries : PciSelector → Entries Value
  | address text => [("address", .string text)]
  | vidDid vid did => [("vid", .string vid), ("did", .string did)]
  | tag text => [("tag", .string text)]

def readAddress (entries : Entries Value) : Option PciSelector := do
  return address (← entries.field Value.asStr "address")

def readVidDid (entries : Entries Value) : Option PciSelector := do
  return vidDid (← entries.field Value.asStr "vid") (← entries.field Value.asStr "did")

def readTag (entries : Entries Value) : Option PciSelector := do
  return tag (← entries.field Value.asStr "tag")

def read (entries : Entries Value) : Option PciSelector :=
  readAddress entries <|> readVidDid entries <|> readTag entries

end PciSelector

namespace Action

def name : Action → String
  | enableNotifications => "enable_notifications"
  | usbList _ _ => "usb_list"
  | usbAttach _ _ => "usb_attach"
  | usbDetach _ => "usb_detach"
  | usbSuspend _ => "usb_suspend"
  | usbResume _ => "usb_resume"
  | pciList _ _ => "pci_list"
  | pciAttach _ _ => "pci_attach"
  | pciDetach _ => "pci_detach"
  | pciSuspend _ => "pci_suspend"
  | pciResume _ => "pci_resume"
  | vmmArgs _ _ _ _ => "vmm_args"

def entries : Action → Entries Value
  | enableNotifications => []
  | usbList disconnected tag | pciList disconnected tag =>
    [("disconnected", nullable .bool disconnected), ("tag", nullable .string tag)]
  | usbAttach selector vm => selector.entries ++ [("vm", nullable .string vm)]
  | usbDetach selector => selector.entries
  | pciAttach selector vm => selector.entries ++ [("vm", nullable .string vm)]
  | pciDetach selector => selector.entries
  | usbSuspend vm | usbResume vm | pciSuspend vm | pciResume vm => [("vm", nullable .string vm)]
  | vmmArgs vm qemuBusPrefix qemuBusStartIndex requirePci =>
    [("vm", .string vm), ("qemu_bus_prefix", nullable .string qemuBusPrefix),
      ("qemu_bus_start_index", nullable ofU32 qemuBusStartIndex),
      ("require_pci", .bool requirePci)]

def encode (action : Action) : Value := .object (("action", .string action.name) :: action.entries)

def readVm (entries : Entries Value) : Option (Option String) :=
  entries.fieldOr none (optional Value.asStr) "vm"

def readFilter (entries : Entries Value) : Option (Option Bool × Option String) := do
  return (← entries.fieldOr none (optional Value.asBool) "disconnected",
    ← entries.fieldOr none (optional Value.asStr) "tag")

def readVmmArgs (entries : Entries Value) : Option Action := do
  return vmmArgs (← entries.field Value.asStr "vm")
    (← entries.fieldOr none (optional Value.asStr) "qemu_bus_prefix")
    (← entries.fieldOr none (optional asU32) "qemu_bus_start_index")
    (← entries.field Value.asBool "require_pci")

def read (variant : String) (entries : Entries Value) : Option Action :=
  match variant with
  | "enable_notifications" => some enableNotifications
  | "usb_list" => do
    let (disconnected, tag) ← readFilter entries
    return usbList disconnected tag
  | "usb_attach" => do
    return usbAttach (← UsbSelector.read (entries.others ["vm"])) (← readVm entries)
  | "usb_detach" => do return usbDetach (← UsbSelector.read entries)
  | "usb_suspend" => do return usbSuspend (← readVm entries)
  | "usb_resume" => do return usbResume (← readVm entries)
  | "pci_list" => do
    let (disconnected, tag) ← readFilter entries
    return pciList disconnected tag
  | "pci_attach" => do
    return pciAttach (← PciSelector.read (entries.others ["vm"])) (← readVm entries)
  | "pci_detach" => do return pciDetach (← PciSelector.read entries)
  | "pci_suspend" => do return pciSuspend (← readVm entries)
  | "pci_resume" => do return pciResume (← readVm entries)
  | "vmm_args" => readVmmArgs entries
  | _ => none

def decode (value : Value) : Option Action := do
  let (variant, entries) ← Entries.tagged Value.asStr "action" (← value.asObject)
  read variant entries

end Action

/-! ## Requests are recovered -/

section Recovered

theorem recovers_nullable_string : Recovers (nullable Value.string) (optional Value.asStr) id :=
  recovers_nullable recovers_string fun _ => nofun

theorem recovers_nullable_bool : Recovers (nullable Value.bool) (optional Value.asBool) id :=
  recovers_nullable recovers_bool fun _ => nofun

theorem recovers_nullable_unsigned : Recovers (nullable Value.unsigned) (optional Value.asU64) id :=
  recovers_nullable recovers_unsigned fun _ => nofun

theorem recovers_nullable_u32 : Recovers (nullable ofU32) (optional asU32) id :=
  recovers_nullable recovers_u32 fun _ => nofun

theorem UsbSelector.keys_nodup (selector : UsbSelector) : selector.entries.keys.Nodup := by
  cases selector <;> simp [UsbSelector.entries]

theorem PciSelector.keys_nodup (selector : PciSelector) : selector.entries.keys.Nodup := by
  cases selector <;> simp [PciSelector.entries]

/-- A selector does not shadow the tag of a request or the VM beside it. -/
theorem UsbSelector.notMem_keys (selector : UsbSelector) :
    "action" ∉ selector.entries.keys ∧ "vm" ∉ selector.entries.keys := by
  cases selector <;> simp [UsbSelector.entries]

theorem PciSelector.notMem_keys (selector : PciSelector) :
    "action" ∉ selector.entries.keys ∧ "vm" ∉ selector.entries.keys := by
  cases selector <;> simp [PciSelector.entries]

/-- A selector is read as the variant it was: no earlier one has its keys. -/
theorem UsbSelector.read_entries (selector : UsbSelector) :
    UsbSelector.read selector.entries = some selector := by
  cases selector with
  | deviceNode node => rfl
  | busPort bus port =>
      have hnode : readDeviceNode (busPort bus port).entries = none := rfl
      have hread : readBusPort (busPort bus port).entries =
          (asU32 (ofU32 bus)).bind fun bus => (asU32 (ofU32 port)).bind fun port =>
            some (busPort bus port) := rfl
      rw [read, hnode, hread, recovers_u32 bus, recovers_u32 port]
      rfl
  | vidPid vid pid => rfl
  | tag text => rfl

theorem PciSelector.read_entries (selector : PciSelector) :
    PciSelector.read selector.entries = some selector := by
  cases selector with
  | address text => rfl
  | vidDid vid did => rfl
  | tag text => rfl

theorem field_string {entries : Entries Value} {key t : String} (hnodup : entries.keys.Nodup)
    (h : (key, .string t) ∈ entries) : entries.field Value.asStr key = some t := by
  rw [field_of_mem hnodup h]
  rfl

theorem fieldOr_string {entries : Entries Value} {key : String} {o : Option String}
    (hnodup : entries.keys.Nodup) (h : (key, nullable .string o) ∈ entries) :
    entries.fieldOr none (optional Value.asStr) key = some o := by
  rw [fieldOr_of_mem hnodup h]
  exact recovers_nullable_string o

theorem fieldOr_unsigned {entries : Entries Value} {key : String} {o : Option ℕ}
    (hnodup : entries.keys.Nodup) (h : (key, nullable .unsigned o) ∈ entries) :
    entries.fieldOr none (optional Value.asU64) key = some o := by
  rw [fieldOr_of_mem hnodup h]
  exact recovers_nullable_unsigned o

namespace Action

variable {entries : Entries Value} {vm tag : Option String} {disconnected : Option Bool}

theorem readVm_of_mem (hnodup : entries.keys.Nodup) (h : ("vm", nullable .string vm) ∈ entries) :
    readVm entries = some vm := fieldOr_string hnodup h

theorem readFilter_entries :
    readFilter [("disconnected", nullable .bool disconnected), ("tag", nullable .string tag)] =
      some (disconnected, tag) := by
  have hread : readFilter [("disconnected", nullable .bool disconnected),
      ("tag", nullable .string tag)] =
      (optional Value.asBool (nullable .bool disconnected)).bind fun disconnected =>
        (optional Value.asStr (nullable .string tag)).bind fun tag => some (disconnected, tag) :=
    rfl
  rw [hread, recovers_nullable_bool disconnected, recovers_nullable_string tag]
  rfl

theorem flattened_vm (vm : Option String) {own : Entries Value} (hkeys : own.keys.Nodup)
    (hvm : "vm" ∉ own.keys) :
    Entries.others ["vm"] (own ++ [("vm", nullable .string vm)]) = own ∧
      readVm (own ++ [("vm", nullable .string vm)]) = some vm := by
  constructor
  · refine others_flattened (fun key hkey hown => ?_) (by simp)
    obtain rfl := List.mem_singleton.1 hown
    exact hvm hkey
  · refine readVm_of_mem ?_ (by simp)
    rw [keys_append]
    exact hkeys.append (by simp) (by simpa using hvm)

theorem read_entries (action : Action) : read action.name action.entries = some action := by
  cases action with
  | enableNotifications => rfl
  | usbList disconnected tag =>
      have hread : read "usb_list" (usbList disconnected tag).entries =
          (readFilter (usbList disconnected tag).entries).bind fun x => some (usbList x.1 x.2) := rfl
      rw [name, hread, entries, readFilter_entries]
      rfl
  | pciList disconnected tag =>
      have hread : read "pci_list" (pciList disconnected tag).entries =
          (readFilter (pciList disconnected tag).entries).bind fun x => some (pciList x.1 x.2) := rfl
      rw [name, hread, entries, readFilter_entries]
      rfl
  | usbAttach selector vm =>
      obtain ⟨hselector, hvm⟩ := flattened_vm vm selector.keys_nodup selector.notMem_keys.2
      change read "usb_attach" (selector.entries ++ [("vm", nullable .string vm)]) = _
      simp only [read, hselector, hvm, UsbSelector.read_entries]
      rfl
  | pciAttach selector vm =>
      obtain ⟨hselector, hvm⟩ := flattened_vm vm selector.keys_nodup selector.notMem_keys.2
      change read "pci_attach" (selector.entries ++ [("vm", nullable .string vm)]) = _
      simp only [read, hselector, hvm, PciSelector.read_entries]
      rfl
  | usbDetach selector =>
      have hread : read "usb_detach" (usbDetach selector).entries =
          (UsbSelector.read selector.entries).bind fun selector => some (usbDetach selector) := rfl
      rw [name, hread, UsbSelector.read_entries]
      rfl
  | pciDetach selector =>
      have hread : read "pci_detach" (pciDetach selector).entries =
          (PciSelector.read selector.entries).bind fun selector => some (pciDetach selector) := rfl
      rw [name, hread, PciSelector.read_entries]
      rfl
  | usbSuspend vm | usbResume vm | pciSuspend vm | pciResume vm =>
      have hvm : readVm [("vm", nullable .string vm)] = some vm :=
        readVm_of_mem (by simp) (by simp)
      simp only [name, entries, read, hvm]
      rfl
  | vmmArgs vm qemuBusPrefix qemuBusStartIndex requirePci =>
      have hread : read "vmm_args" (vmmArgs vm qemuBusPrefix qemuBusStartIndex requirePci).entries =
          (optional Value.asStr (nullable .string qemuBusPrefix)).bind fun qemuBusPrefix =>
            (optional asU32 (nullable ofU32 qemuBusStartIndex)).bind fun qemuBusStartIndex =>
              some (vmmArgs vm qemuBusPrefix qemuBusStartIndex requirePci) := rfl
      rw [name, hread, recovers_nullable_string qemuBusPrefix,
        recovers_nullable_u32 qemuBusStartIndex]
      rfl

theorem tag_notMem_keys (action : Action) : "action" ∉ action.entries.keys := by
  cases action with
  | usbAttach selector vm | pciAttach selector vm =>
      have hselector := selector.notMem_keys.1
      simp [entries, hselector]
  | usbDetach selector | pciDetach selector => exact selector.notMem_keys.1
  | _ => simp [entries]

theorem decode_encode (action : Action) : decode action.encode = some action := by
  have htagged : Entries.tagged Value.asStr "action"
      (("action", .string action.name) :: action.entries) = some (action.name, action.entries) :=
    tagged_cons action.tag_notMem_keys Value.asStr
  have hdecode : decode action.encode = (Entries.tagged Value.asStr "action"
      (("action", .string action.name) :: action.entries)).bind fun x => read x.1 x.2 := rfl
  rw [hdecode, htagged]
  exact action.read_entries

end Action

end Recovered

/-! ## Listed devices -/

namespace UsbDevice

def numbers (device : UsbDevice) : List (Option ℕ) :=
  [device.bus, device.port, device.rootPort, device.deviceClass, device.deviceSubclass,
    device.deviceProtocol]

def entries (device : UsbDevice) : Entries Value :=
  [("sys_name", .string device.sysName),
    ("device_node", nullable .string device.deviceNode),
    ("busnum", nullable .unsigned device.bus),
    ("devnum", nullable .unsigned device.port),
    ("portnum", nullable .unsigned device.rootPort),
    ("vid", nullable .string device.vid),
    ("pid", nullable .string device.pid),
    ("vendor_name", nullable .string device.vendorName),
    ("product_name", nullable .string device.productName),
    ("serial", nullable .string device.serial),
    ("device_class", nullable .unsigned device.deviceClass),
    ("device_subclass", nullable .unsigned device.deviceSubclass),
    ("device_protocol", nullable .unsigned device.deviceProtocol),
    ("interfaces", nullable .string device.interfacesText)]

def read (entries : Entries Value) : Option UsbDevice := do
  let sysName ← entries.field Value.asStr "sys_name"
  let deviceNode ← entries.fieldOr none (optional Value.asStr) "device_node"
  let bus ← entries.fieldOr none (optional Value.asU64) "busnum"
  let port ← entries.fieldOr none (optional Value.asU64) "devnum"
  let rootPort ← entries.fieldOr none (optional Value.asU64) "portnum"
  let vid ← entries.fieldOr none (optional Value.asStr) "vid"
  let pid ← entries.fieldOr none (optional Value.asStr) "pid"
  let vendorName ← entries.fieldOr none (optional Value.asStr) "vendor_name"
  let productName ← entries.fieldOr none (optional Value.asStr) "product_name"
  let serial ← entries.fieldOr none (optional Value.asStr) "serial"
  let removable ← entries.fieldOr none (optional Value.asStr) "removable"
  let deviceClass ← entries.fieldOr none (optional Value.asU64) "device_class"
  let deviceSubclass ← entries.fieldOr none (optional Value.asU64) "device_subclass"
  let deviceProtocol ← entries.fieldOr none (optional Value.asU64) "device_protocol"
  let interfacesText ← entries.fieldOr none (optional Value.asStr) "interfaces"
  return { sysName, deviceNode, bus, port, rootPort, vid, pid, vendorName, productName, serial,
           removable, deviceClass, deviceSubclass, deviceProtocol, interfacesText,
           interfaces := [], driverPaths := [], modaliases := [] }

def sent (device : UsbDevice) : UsbDevice :=
  { device with removable := none, interfaces := [], driverPaths := [], modaliases := [] }

theorem keys_entries (device : UsbDevice) : device.entries.keys =
    ["sys_name", "device_node", "busnum", "devnum", "portnum", "vid", "pid", "vendor_name",
      "product_name", "serial", "device_class", "device_subclass", "device_protocol",
      "interfaces"] := rfl

theorem keys_nodup (device : UsbDevice) : device.entries.keys.Nodup := by
  rw [keys_entries]
  decide

theorem read_entries (device : UsbDevice) : read device.entries = some device.sent := by
  have hkeys := device.keys_nodup
  have hremovable : device.entries.fieldOr none (optional Value.asStr) "removable" = some none := by
    refine fieldOr_of_notMem ?_ none (optional Value.asStr)
    rw [keys_entries]
    decide
  rw [read, hremovable, field_string hkeys (t := device.sysName) (by simp [entries]),
    fieldOr_string hkeys (o := device.deviceNode) (by simp [entries]),
    fieldOr_unsigned hkeys (o := device.bus) (by simp [entries]),
    fieldOr_unsigned hkeys (o := device.port) (by simp [entries]),
    fieldOr_unsigned hkeys (o := device.rootPort) (by simp [entries]),
    fieldOr_string hkeys (o := device.vid) (by simp [entries]),
    fieldOr_string hkeys (o := device.pid) (by simp [entries]),
    fieldOr_string hkeys (o := device.vendorName) (by simp [entries]),
    fieldOr_string hkeys (o := device.productName) (by simp [entries]),
    fieldOr_string hkeys (o := device.serial) (by simp [entries]),
    fieldOr_unsigned hkeys (o := device.deviceClass) (by simp [entries]),
    fieldOr_unsigned hkeys (o := device.deviceSubclass) (by simp [entries]),
    fieldOr_unsigned hkeys (o := device.deviceProtocol) (by simp [entries]),
    fieldOr_string hkeys (o := device.interfacesText) (by simp [entries])]
  rfl

end UsbDevice

namespace PciDevice

def numbers (device : PciDevice) : List (Option ℕ) :=
  [device.vendorId, device.deviceId, device.cls, device.subclass, device.progIf]

def entries (device : PciDevice) : Entries Value :=
  [("address", .string device.address),
    ("driver", nullable .string device.driver),
    ("vendor_id", nullable .unsigned device.vendorId),
    ("device_id", nullable .unsigned device.deviceId),
    ("vid", nullable .string device.vendorIdText),
    ("did", nullable .string device.deviceIdText),
    ("vendor_name", nullable .string device.vendorName),
    ("device_name", nullable .string device.deviceName),
    ("pci_class", nullable .unsigned device.cls),
    ("pci_subclass", nullable .unsigned device.subclass),
    ("pci_prog_if", nullable .unsigned device.progIf),
    ("pci_subsystem_vendor_id", nullable .string device.subsystemVendorId),
    ("pci_subsystem_id", nullable .string device.subsystemId)]

def read (entries : Entries Value) : Option PciDevice := do
  let address ← entries.field Value.asStr "address"
  let driver ← entries.fieldOr none (optional Value.asStr) "driver"
  let vendorId ← entries.fieldOr none (optional Value.asU64) "vendor_id"
  let deviceId ← entries.fieldOr none (optional Value.asU64) "device_id"
  let vendorIdText ← entries.fieldOr none (optional Value.asStr) "vid"
  let deviceIdText ← entries.fieldOr none (optional Value.asStr) "did"
  let vendorName ← entries.fieldOr none (optional Value.asStr) "vendor_name"
  let deviceName ← entries.fieldOr none (optional Value.asStr) "device_name"
  let cls ← entries.fieldOr none (optional Value.asU64) "pci_class"
  let subclass ← entries.fieldOr none (optional Value.asU64) "pci_subclass"
  let progIf ← entries.fieldOr none (optional Value.asU64) "pci_prog_if"
  let subsystemVendorId ← entries.fieldOr none (optional Value.asStr) "pci_subsystem_vendor_id"
  let subsystemId ← entries.fieldOr none (optional Value.asStr) "pci_subsystem_id"
  return { address, driver, vendorId, deviceId, vendorIdText, deviceIdText, vendorName, deviceName,
           cls, subclass, progIf, subsystemVendorId, subsystemId }

theorem keys_entries (device : PciDevice) : device.entries.keys =
    ["address", "driver", "vendor_id", "device_id", "vid", "did", "vendor_name", "device_name",
      "pci_class", "pci_subclass", "pci_prog_if", "pci_subsystem_vendor_id",
      "pci_subsystem_id"] := rfl

theorem keys_nodup (device : PciDevice) : device.entries.keys.Nodup := by
  rw [keys_entries]
  decide

theorem read_entries (device : PciDevice) : read device.entries = some device := by
  have hkeys := device.keys_nodup
  rw [read, field_string hkeys (t := device.address) (by simp [entries]),
    fieldOr_string hkeys (o := device.driver) (by simp [entries]),
    fieldOr_unsigned hkeys (o := device.vendorId) (by simp [entries]),
    fieldOr_unsigned hkeys (o := device.deviceId) (by simp [entries]),
    fieldOr_string hkeys (o := device.vendorIdText) (by simp [entries]),
    fieldOr_string hkeys (o := device.deviceIdText) (by simp [entries]),
    fieldOr_string hkeys (o := device.vendorName) (by simp [entries]),
    fieldOr_string hkeys (o := device.deviceName) (by simp [entries]),
    fieldOr_unsigned hkeys (o := device.cls) (by simp [entries]),
    fieldOr_unsigned hkeys (o := device.subclass) (by simp [entries]),
    fieldOr_unsigned hkeys (o := device.progIf) (by simp [entries]),
    fieldOr_string hkeys (o := device.subsystemVendorId) (by simp [entries]),
    fieldOr_string hkeys (o := device.subsystemId) (by simp [entries])]
  rfl

end PciDevice

def Words (numbers : List (Option ℕ)) : Prop := ∀ o ∈ numbers, o.all (fun n => n < 2 ^ 32) = true

instance (numbers : List (Option ℕ)) : Decidable (Words numbers) := by
  unfold Words
  infer_instance

/-- A listed USB device; its numbers are `u32`. -/
abbrev UsbListItem := { item : UsbListDevice // Words item.device.numbers }

abbrev PciListItem := { item : PciListDevice // Words item.device.numbers }

/-- What a list says of a device beside the device itself. -/
def listedEntries (allowedVms : List String) (vm : Option String) (disconnected : Bool) :
    Entries Value :=
  [("allowed_vms", ofStrings allowedVms), ("vm", nullable .string vm),
    ("disconnected", .bool disconnected)]

def listedKeys : List String := ["allowed_vms", "vm", "disconnected"]

namespace UsbListDevice

def entries (item : UsbListDevice) : Entries Value :=
  item.device.entries ++ listedEntries item.allowedVms item.vm item.disconnected

def read (entries : Entries Value) : Option UsbListDevice := do
  let device ← UsbDevice.read (entries.others listedKeys)
  let allowedVms ← entries.field asStrings "allowed_vms"
  let vm ← entries.fieldOr none (optional Value.asStr) "vm"
  let disconnected ← entries.field Value.asBool "disconnected"
  return { device, allowedVms, vm, disconnected }

def sent (item : UsbListDevice) : UsbListDevice := { item with device := item.device.sent }

end UsbListDevice

namespace PciListDevice

def entries (item : PciListDevice) : Entries Value :=
  item.device.entries ++ listedEntries item.allowedVms item.vm item.disconnected

def read (entries : Entries Value) : Option PciListDevice := do
  let device ← PciDevice.read (entries.others listedKeys)
  let allowedVms ← entries.field asStrings "allowed_vms"
  let vm ← entries.fieldOr none (optional Value.asStr) "vm"
  let disconnected ← entries.field Value.asBool "disconnected"
  return { device, allowedVms, vm, disconnected }

end PciListDevice

section Listed

variable {own : Entries Value}

/-- Beside a device none of whose keys is one of a list, both are read back. -/
theorem listed_entries (allowedVms : List String) (vm : Option String) (disconnected : Bool)
    (hkeys : own.keys.Nodup) (hown : ∀ key ∈ own.keys, key ∉ listedKeys) :
    (own ++ listedEntries allowedVms vm disconnected).others listedKeys = own ∧
      (own ++ listedEntries allowedVms vm disconnected).field asStrings "allowed_vms" =
        some allowedVms ∧
      (own ++ listedEntries allowedVms vm disconnected).fieldOr none (optional Value.asStr) "vm" =
        some vm ∧
      (own ++ listedEntries allowedVms vm disconnected).field Value.asBool "disconnected" =
        some disconnected := by
  have hlisted : (listedEntries allowedVms vm disconnected).keys = listedKeys := rfl
  have hnodup : (own ++ listedEntries allowedVms vm disconnected).keys.Nodup := by
    rw [keys_append, hlisted]
    exact hkeys.append (by decide) fun key hkey hmem => hown key hkey hmem
  refine ⟨others_flattened hown fun key hkey => ?_, ?_, ?_, ?_⟩
  · rwa [hlisted] at hkey
  · rw [field_of_mem hnodup (v := ofStrings allowedVms) (by simp [listedEntries])]
    exact recovers_strings allowedVms
  · exact fieldOr_string hnodup (by simp [listedEntries])
  · rw [field_of_mem hnodup (v := .bool disconnected) (by simp [listedEntries])]
    rfl

theorem UsbListDevice.read_entries (item : UsbListDevice) :
    UsbListDevice.read item.entries = some item.sent := by
  have hown : ∀ key ∈ item.device.entries.keys, key ∉ listedKeys := by
    rw [UsbDevice.keys_entries]
    decide
  obtain ⟨hdevice, hallowed, hvm, hdisconnected⟩ :=
    listed_entries item.allowedVms item.vm item.disconnected item.device.keys_nodup hown
  rw [UsbListDevice.read, UsbListDevice.entries, hdevice, hallowed, hvm, hdisconnected,
    UsbDevice.read_entries]
  rfl

theorem PciListDevice.read_entries (item : PciListDevice) :
    PciListDevice.read item.entries = some item := by
  have hown : ∀ key ∈ item.device.entries.keys, key ∉ listedKeys := by
    rw [PciDevice.keys_entries]
    decide
  obtain ⟨hdevice, hallowed, hvm, hdisconnected⟩ :=
    listed_entries item.allowedVms item.vm item.disconnected item.device.keys_nodup hown
  rw [PciListDevice.read, PciListDevice.entries, hdevice, hallowed, hvm, hdisconnected,
    PciDevice.read_entries]
  rfl

end Listed

/-! ## Replies -/

namespace UsbListItem

def write (item : UsbListItem) : Value := .object item.1.entries

def read (value : Value) : Option UsbListItem := do
  let item ← UsbListDevice.read (← value.asObject)
  if h : Words item.device.numbers then some ⟨item, h⟩ else none

def sent (item : UsbListItem) : UsbListItem := ⟨item.1.sent, item.2⟩

end UsbListItem

namespace PciListItem

def write (item : PciListItem) : Value := .object item.1.entries

def read (value : Value) : Option PciListItem := do
  let item ← PciListDevice.read (← value.asObject)
  if h : Words item.device.numbers then some ⟨item, h⟩ else none

end PciListItem

structure UsbListResponse where
  usbDevices : List UsbListItem

structure PciListResponse where
  pciDevices : List PciListItem

structure VmmArgsResponse where
  vmmArgs : List String

/-- The one that denies unknown fields. -/
structure EmptyResponse where

inductive ResponsePayload
  | usbList (response : UsbListResponse)
  | pciList (response : PciListResponse)
  | vmmArgs (response : VmmArgsResponse)
  | empty (response : EmptyResponse)

inductive Response
  | ok (payload : ResponsePayload)
  | failed (error : String)

namespace ResponsePayload

def entries : ResponsePayload → Entries Value
  | usbList response => [("usb_devices", .array (response.usbDevices.map UsbListItem.write))]
  | pciList response => [("pci_devices", .array (response.pciDevices.map PciListItem.write))]
  | vmmArgs response => [("vmm_args", ofStrings response.vmmArgs)]
  | empty _ => []

def readUsbList (entries : Entries Value) : Option ResponsePayload := do
  let items ← entries.field Value.asArray "usb_devices"
  return usbList ⟨← items.mapM UsbListItem.read⟩

def readPciList (entries : Entries Value) : Option ResponsePayload := do
  let items ← entries.field Value.asArray "pci_devices"
  return pciList ⟨← items.mapM PciListItem.read⟩

def readVmmArgs (entries : Entries Value) : Option ResponsePayload := do
  return vmmArgs ⟨← entries.field asStrings "vmm_args"⟩

def readEmpty (entries : Entries Value) : Option ResponsePayload :=
  if entries.isEmpty then some (empty {}) else none

/-- The variants, from the top down. -/
def readers : List (Entries Value → Option ResponsePayload) :=
  [readUsbList, readPciList, readVmmArgs, readEmpty]

def read (entries : Entries Value) : Option ResponsePayload :=
  readers.findSome? fun read => read entries

def sent : ResponsePayload → ResponsePayload
  | usbList response => usbList ⟨response.usbDevices.map UsbListItem.sent⟩
  | payload => payload

end ResponsePayload

namespace Response

def name : Response → String
  | ok _ => "ok"
  | failed _ => "failed"

def entries : Response → Entries Value
  | ok payload => payload.entries
  | failed error => [("error", .string error)]

def encode (response : Response) : Value :=
  .object (("result", .string response.name) :: response.entries)

def read (variant : String) (entries : Entries Value) : Option Response :=
  match variant with
  | "ok" => do return ok (← ResponsePayload.read entries)
  | "failed" => do return failed (← entries.field Value.asStr "error")
  | _ => none

def decode (value : Value) : Option Response := do
  let (variant, entries) ← Entries.tagged Value.asStr "result" (← value.asObject)
  read variant entries

def sent : Response → Response
  | ok payload => ok payload.sent
  | failed error => failed error

end Response

theorem recovers_usbListItem : Recovers UsbListItem.write UsbListItem.read UsbListItem.sent := by
  intro item
  have hread : UsbListItem.read item.write =
      (UsbListDevice.read item.1.entries).bind fun device =>
        if h : Words device.device.numbers then some ⟨device, h⟩ else none := rfl
  rw [hread, UsbListDevice.read_entries, Option.bind_some]
  exact dif_pos item.2

theorem recovers_pciListItem : Recovers PciListItem.write PciListItem.read id := by
  intro item
  have hread : PciListItem.read item.write =
      (PciListDevice.read item.1.entries).bind fun device =>
        if h : Words device.device.numbers then some ⟨device, h⟩ else none := rfl
  rw [hread, PciListDevice.read_entries, Option.bind_some]
  exact dif_pos item.2

namespace ResponsePayload

theorem readUsbList_entries (response : UsbListResponse) :
    readUsbList (usbList response).entries = some (usbList response).sent := by
  have hread : readUsbList (usbList response).entries =
      ((response.usbDevices.map UsbListItem.write).mapM UsbListItem.read).bind fun items =>
        some (usbList ⟨items⟩) := rfl
  rw [hread, recovers_usbListItem.mapM]
  rfl

theorem readPciList_entries (response : PciListResponse) :
    readPciList (pciList response).entries = some (pciList response) := by
  have hread : readPciList (pciList response).entries =
      ((response.pciDevices.map PciListItem.write).mapM PciListItem.read).bind fun items =>
        some (pciList ⟨items⟩) := rfl
  rw [hread, recovers_pciListItem.mapM, List.map_id]
  rfl

theorem readVmmArgs_entries (response : VmmArgsResponse) :
    readVmmArgs (vmmArgs response).entries = some (vmmArgs response) := by
  have hread : readVmmArgs (vmmArgs response).entries =
      (asStrings (ofStrings response.vmmArgs)).bind fun texts => some (vmmArgs ⟨texts⟩) := rfl
  rw [hread, recovers_strings response.vmmArgs]
  rfl

/-- Each variant but its own turns a payload down, in whatever order they are tried. -/
theorem read_none_or_sent (payload : ResponsePayload) {read : Entries Value → Option ResponsePayload}
    (hread : read ∈ readers) :
    read payload.entries = none ∨ read payload.entries = some payload.sent := by
  simp only [readers, List.mem_cons, List.not_mem_nil, or_false] at hread
  obtain rfl | rfl | rfl | rfl := hread
  · cases payload with
    | usbList response => exact .inr (readUsbList_entries response)
    | _ => exact .inl rfl
  · cases payload with
    | pciList response => exact .inr (readPciList_entries response)
    | _ => exact .inl rfl
  · cases payload with
    | vmmArgs response => exact .inr (readVmmArgs_entries response)
    | _ => exact .inl rfl
  · cases payload with
    | empty response => exact .inr rfl
    | _ => exact .inl rfl

theorem exists_reader (payload : ResponsePayload) :
    ∃ read ∈ readers, read payload.entries = some payload.sent := by
  cases payload with
  | usbList response => exact ⟨readUsbList, by simp [readers], readUsbList_entries response⟩
  | pciList response => exact ⟨readPciList, by simp [readers], readPciList_entries response⟩
  | vmmArgs response => exact ⟨readVmmArgs, by simp [readers], readVmmArgs_entries response⟩
  | empty response => exact ⟨readEmpty, by simp [readers], rfl⟩

theorem read_entries (payload : ResponsePayload) : read payload.entries = some payload.sent := by
  obtain ⟨own, hown, hsent⟩ := payload.exists_reader
  cases hread : read payload.entries with
  | none =>
      have hnone := List.findSome?_eq_none_iff.1 hread own hown
      rw [hsent] at hnone
      cases hnone
  | some other =>
      obtain ⟨first, hfirst, hother⟩ := List.exists_of_findSome?_eq_some hread
      obtain hnone | hsome := payload.read_none_or_sent hfirst
      · rw [hnone] at hother
        cases hother
      · exact hother.symm.trans hsome

end ResponsePayload

namespace Response

theorem tag_notMem_keys (response : Response) : "result" ∉ response.entries.keys := by
  cases response with
  | ok payload => cases payload <;> simp [entries, ResponsePayload.entries]
  | failed error => simp [entries]

theorem read_entries (response : Response) :
    read response.name response.entries = some response.sent := by
  cases response with
  | ok payload =>
      have hread : read "ok" payload.entries =
          (ResponsePayload.read payload.entries).bind fun payload => some (ok payload) := rfl
      rw [name, entries, hread, payload.read_entries]
      rfl
  | failed error => rfl

theorem decode_encode (response : Response) : decode response.encode = some response.sent := by
  have htagged : Entries.tagged Value.asStr "result"
      (("result", .string response.name) :: response.entries) =
        some (response.name, response.entries) :=
    tagged_cons response.tag_notMem_keys Value.asStr
  have hdecode : decode response.encode = (Entries.tagged Value.asStr "result"
      (("result", .string response.name) :: response.entries)).bind fun x => read x.1 x.2 := rfl
  rw [hdecode, htagged]
  exact response.read_entries

end Response

/-- What is sent is read back, a reply up to what its writer leaves out, and a payload is taken for
no other variant. -/
theorem wire_round_trip : (∀ action : Action, Action.decode action.encode = some action) ∧
    (∀ response : Response, Response.decode response.encode = some response.sent) ∧
      ∀ (payload : ResponsePayload), ∀ read ∈ ResponsePayload.readers, ∀ other,
        read payload.entries = some other → other = payload.sent := by
  refine ⟨Action.decode_encode, Response.decode_encode, fun payload read hread other hother => ?_⟩
  obtain hnone | hsome := payload.read_none_or_sent hread
  · rw [hnone] at hother
    cases hother
  · rw [hsome] at hother
    exact (Option.some.inj hother).symm

end GhafDeviceManager
