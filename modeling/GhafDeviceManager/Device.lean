import GhafDeviceManager.Text

/-!
# Devices as the scans report them

`scanUsb` and `scanPci` build device records from a snapshot of sysfs. An entry of the USB device
directory is either a device or, with a colon in its name, one of its interfaces; attribute files
hold trimmed text, a `driver` link its resolved target. The hardware database is outside the
repository and enters as `hwdb`.
-/

namespace GhafDeviceManager

structure UsbEntry where
  name : String
  files : List (String × String) := []
  descriptors : List UInt8 := []
  driver : Option String := none
  /-- The plug-in this entry belongs to. Sysfs does not show it and no code reads it. -/
  plugged : ℕ := 0

namespace UsbEntry

def read (entry : UsbEntry) (file : String) : Option String := entry.files.lookup file

def decimal (entry : UsbEntry) (file : String) : Option ℕ :=
  (entry.read file).bind (Text.fromStrRadix 10 Text.maxU32)

def hex (entry : UsbEntry) (file : String) : Option ℕ := (entry.read file).bind Text.hexU32

end UsbEntry

structure UsbInterface where
  cls : Option ℕ
  subclass : Option ℕ
  protocol : Option ℕ
deriving DecidableEq, Repr

structure UsbDevice where
  sysName : String
  deviceNode : Option String
  bus : Option ℕ
  port : Option ℕ
  rootPort : Option ℕ
  vid : Option String
  pid : Option String
  vendorName : Option String
  productName : Option String
  serial : Option String
  removable : Option String
  deviceClass : Option ℕ
  deviceSubclass : Option ℕ
  deviceProtocol : Option ℕ
  interfacesText : Option String
  interfaces : List UsbInterface
  driverPaths : List String
  modaliases : List String
deriving DecidableEq, Repr

namespace UsbDevice

def persistentId (device : UsbDevice) : String :=
  "usb-" ++ device.vid.getD "None" ++ ":" ++ device.pid.getD "None" ++ ":" ++
    device.serial.getD "None"

def isHub (device : UsbDevice) : Bool :=
  device.deviceClass == some 9 || device.interfaces.any fun interface => interface.cls == some 9

end UsbDevice

structure PciDevice where
  address : String
  driver : Option String
  vendorId : Option ℕ
  deviceId : Option ℕ
  vendorIdText : Option String
  deviceIdText : Option String
  vendorName : Option String
  deviceName : Option String
  cls : Option ℕ
  subclass : Option ℕ
  progIf : Option ℕ
  subsystemVendorId : Option String
  subsystemId : Option String
deriving DecidableEq, Repr

def PciDevice.persistentId (device : PciDevice) : String := "pci-" ++ device.address

/-! ## Interface descriptors -/

def usbDtInterface : UInt8 := 4

def usbInterfaceDescriptorSize : ℕ := 9

/-- The descriptor walk from `offset`. A record advances the offset by at least two bytes, so
`fuel` is never what ends it when it starts at the length of the blob. -/
def descriptorInterfacesFrom (descriptors : List UInt8) :
    (fuel offset : ℕ) → List (UInt8 × UsbInterface)
  | 0, _ => []
  | fuel + 1, offset =>
    if hoffset : offset + 2 ≤ descriptors.length then
      let length := (descriptors[offset]).toNat
      if hlength : length < 2 ∨ descriptors.length < offset + length then []
      else
        let rest := descriptorInterfacesFrom descriptors fuel (offset + length)
        if hdt : descriptors[offset + 1] = usbDtInterface ∧
            usbInterfaceDescriptorSize ≤ length then
          have hsize : offset + 9 ≤ descriptors.length := by
            have hle := hdt.2
            unfold usbInterfaceDescriptorSize at hle
            omega
          (descriptors[offset + 2],
            { cls := some (descriptors[offset + 5]).toNat
              subclass := some (descriptors[offset + 6]).toNat
              protocol := some (descriptors[offset + 7]).toNat }) :: rest
        else rest
    else []

def descriptorInterfaces (descriptors : List UInt8) : List (UInt8 × UsbInterface) :=
  descriptorInterfacesFrom descriptors descriptors.length 0

structure UsbDescriptorIdentity where
  vid : String
  pid : String
  bcdDevice : ℕ
  deviceClass : ℕ
  deviceSubclass : ℕ
  deviceProtocol : ℕ

def interfaceModalias (identity : UsbDescriptorIdentity) (interface : UsbInterface)
    (interfaceNumber : ℕ) : Option String := do
  let cls ← interface.cls
  let subclass ← interface.subclass
  let protocol ← interface.protocol
  return "usb:v" ++ Text.toUppercase identity.vid ++ "p" ++ Text.toUppercase identity.pid ++
    "d" ++ Text.hexUpper 4 identity.bcdDevice ++ "dc" ++ Text.hexUpper 2 identity.deviceClass ++
    "dsc" ++ Text.hexUpper 2 identity.deviceSubclass ++
    "dp" ++ Text.hexUpper 2 identity.deviceProtocol ++ "ic" ++ Text.hexUpper 2 cls ++
    "isc" ++ Text.hexUpper 2 subclass ++ "ip" ++ Text.hexUpper 2 protocol ++
    "in" ++ Text.hexUpper 2 interfaceNumber

/-! ## USB scan -/

/-- Vendor and product name of the hardware database, by modalias and property. -/
abbrev Hwdb := String → String → Option String

def hwdbNames (hwdb : Hwdb) (vid pid : Option String) : Option String × Option String :=
  match vid, pid with
  | some vid, some pid =>
    let modalias := "usb:v" ++ Text.toUppercase vid ++ "p" ++ Text.toUppercase pid
    (hwdb modalias "ID_VENDOR_FROM_DATABASE", hwdb modalias "ID_MODEL_FROM_DATABASE")
  | _, _ => (none, none)

def deviceNode (bus port : Option ℕ) : Option String := do
  return "/dev/bus/usb/" ++ Text.decimal 3 (← bus) ++ "/" ++ Text.decimal 3 (← port)

def rootPort (sysName : String) : Option ℕ := do
  let (_, ports) ← Text.splitOnce '-' sysName
  Text.fromStrRadix 10 Text.maxU32 (String.ofList (ports.toList.takeWhile (· ≠ '.')))

/-- The interface entries `scan_usb` reads for a device. -/
def childEntries (entries : List UsbEntry) (sysName : String) : List UsbEntry :=
  entries.filter fun child => Text.startsWith child.name (sysName ++ ":")

def childInterface (child : UsbEntry) : UsbInterface where
  cls := child.hex "bInterfaceClass"
  subclass := child.hex "bInterfaceSubClass"
  protocol := child.hex "bInterfaceProtocol"

def sysfsInterfaces (children : List UsbEntry) : List (UInt8 × UsbInterface) :=
  children.filterMap fun child => do
    let (_, number) ← Text.rsplitOnce '.' child.name
    return (UInt8.ofNat (← Text.fromStrRadix 10 Text.maxU8 number), childInterface child)

def pushNew {α : Type} [DecidableEq α] (items : List α) (item : α) : List α :=
  if item ∈ items then items else items ++ [item]

def identity? (entry : UsbEntry) : Option UsbDescriptorIdentity := do
  return {
    vid := ← entry.read "idVendor"
    pid := ← entry.read "idProduct"
    bcdDevice := ← entry.hex "bcdDevice"
    deviceClass := ← entry.hex "bDeviceClass"
    deviceSubclass := ← entry.hex "bDeviceSubClass"
    deviceProtocol := ← entry.hex "bDeviceProtocol" }

def interfacesText (interfaces : List UsbInterface) : Option String :=
  if interfaces.isEmpty then none
  else some (":" ++ String.intercalate ":" (interfaces.map fun interface =>
    Text.hexLower 2 (interface.cls.getD 0) ++ Text.hexLower 2 (interface.subclass.getD 0) ++
      Text.hexLower 2 (interface.protocol.getD 0)) ++ ":")

def usbDeviceOf (hwdb : Hwdb) (entries : List UsbEntry) (entry : UsbEntry) : UsbDevice :=
  let children := childEntries entries entry.name
  let cachedInterfaces := descriptorInterfaces entry.descriptors
  let cached := !cachedInterfaces.isEmpty
  let numbered := if cached then cachedInterfaces else sysfsInterfaces children
  let interfaces := if cached then (numbered.map Prod.snd).foldl pushNew []
    else numbered.map Prod.snd
  let read := children.filterMap fun child => child.read "modalias"
  let modaliases := match identity? entry with
    | some identity => (numbered.filterMap fun (number, interface) =>
        interfaceModalias identity interface number.toNat).foldl pushNew read
    | none => read
  let bus := entry.decimal "busnum"
  let port := entry.decimal "devnum"
  let vid := entry.read "idVendor"
  let pid := entry.read "idProduct"
  let (hwdbVendor, hwdbProduct) := hwdbNames hwdb vid pid
  { sysName := entry.name
    deviceNode := deviceNode bus port
    bus := bus
    port := port
    rootPort := rootPort entry.name
    vid := vid
    pid := pid
    vendorName := hwdbVendor <|> entry.read "manufacturer"
    productName := hwdbProduct <|> entry.read "product" <|> do
      return "USB device " ++ (← vid) ++ ":" ++ (← pid)
    serial := entry.read "serial"
    removable := entry.read "removable"
    deviceClass := entry.hex "bDeviceClass"
    deviceSubclass := entry.hex "bDeviceSubClass"
    deviceProtocol := entry.hex "bDeviceProtocol"
    interfacesText := interfacesText interfaces
    interfaces := interfaces
    driverPaths := children.filterMap UsbEntry.driver
    modaliases := modaliases }

def reported (hostStorage : List String) (entry : UsbEntry) : Bool :=
  (entry.read "idVendor").isSome && (entry.read "busnum").isSome &&
    !hostStorage.contains entry.name

def scanUsb (hwdb : Hwdb) (hostStorage : List String) (entries : List UsbEntry) :
    List UsbDevice :=
  ((entries.filter (reported hostStorage)).map (usbDeviceOf hwdb entries)).insertionSort
    fun a b => a.sysName ≤ b.sysName

theorem mem_scanUsb {hwdb : Hwdb} {hostStorage : List String} {entries : List UsbEntry}
    {device : UsbDevice} : device ∈ scanUsb hwdb hostStorage entries ↔
      ∃ entry ∈ entries, reported hostStorage entry ∧ usbDeviceOf hwdb entries entry = device := by
  simp [scanUsb, List.mem_insertionSort, and_assoc]

@[simp] theorem usbDeviceOf_sysName (hwdb : Hwdb) (entries : List UsbEntry) (entry : UsbEntry) :
    (usbDeviceOf hwdb entries entry).sysName = entry.name := rfl

/-! ## PCI scan -/

structure PciEntry where
  address : String
  files : List (String × String) := []
  driver : Option String := none
  /-- The addresses in its IOMMU group, where it has one. -/
  iommuGroup : Option (List String) := none

def PciEntry.hex (entry : PciEntry) (file : String) : Option ℕ :=
  (entry.files.lookup file).bind Text.hexU32

def pciDeviceOf (entry : PciEntry) : PciDevice :=
  let classCode := entry.hex "class"
  let hexText := fun (value : ℕ) => Text.hexLower 4 value
  { address := entry.address
    driver := entry.driver.map Text.fileName
    vendorId := entry.hex "vendor"
    deviceId := entry.hex "device"
    vendorIdText := (entry.hex "vendor").map hexText
    deviceIdText := (entry.hex "device").map hexText
    vendorName := (entry.hex "vendor").map fun value => "PCI vendor " ++ hexText value
    deviceName := (entry.hex "device").map fun value => "PCI device " ++ hexText value
    cls := classCode.map fun value => value / 2 ^ 16 % 2 ^ 8
    subclass := classCode.map fun value => value / 2 ^ 8 % 2 ^ 8
    progIf := classCode.map fun value => value % 2 ^ 8
    subsystemVendorId := (entry.hex "subsystem_vendor").map hexText
    subsystemId := (entry.hex "subsystem_device").map hexText }

def scanPci (entries : List PciEntry) : List PciDevice :=
  (entries.map pciDeviceOf).insertionSort fun a b => a.address ≤ b.address

/-- Empty for a device without a group. -/
def iommuGroup (entries : List PciEntry) (address : String) : List String :=
  match (entries.find? fun entry => entry.address = address).bind PciEntry.iommuGroup with
  | some members => sortNames members
  | none => []

end GhafDeviceManager
