import GhafDeviceManager.Device

/-!
# Configuration and rule matching

Rules and selectors stay JSON values and are read key by key, as the source reads them. What lies
outside the repository is a `Host`: the regular expression engine and the module paths that
`modprobe` and `modinfo` report (cached by the source, hence fixed for one process).
-/

namespace GhafDeviceManager

/-! ## JSON -/

inductive Value
  | null
  | bool (b : Bool)
  | unsigned (n : ℕ)
  | negative (n : ℕ)
  | float (text : String)
  | string (text : String)
  | array (items : List Value)
  | object (fields : List (String × Value))

namespace Value

def asObject : Value → Option (List (String × Value))
  | .object fields => some fields
  | _ => none

def get (value : Value) (key : String) : Option Value :=
  value.asObject.bind (List.lookup key)

def asBool : Value → Option Bool
  | .bool b => some b
  | _ => none

def asU64 : Value → Option ℕ
  | .unsigned n => some n
  | _ => none

def asStr : Value → Option String
  | .string text => some text
  | _ => none

def asArray : Value → Option (List Value)
  | .array items => some items
  | _ => none

def getStr (value : Value) (key : String) : Option String := (value.get key).bind asStr

def getU64 (value : Value) (key : String) : Option ℕ := (value.get key).bind asU64

/-- The elements under an array key, none where there is no array. -/
def getItems (value : Value) (key : String) : List Value :=
  ((value.get key).bind asArray).getD []

end Value

def enabled (value : Value) : Bool :=
  match value.asObject with
  | none => false
  | some _ =>
    match value.get "disable" with
    | some disable => !disable.asBool.getD false
    | none => ((value.get "enable").bind Value.asBool).getD true

def stringList (value : Value) (key : String) : List String :=
  (value.getItems key).filterMap Value.asStr

def boolValue (value : Value) (key : String) : Bool :=
  ((value.get key).bind Value.asBool).getD false

def caseEq : Option String → Option String → Bool
  | some a, some b => Text.eqIgnoreAsciiCase a b
  | _, _ => false

/-! ## Configuration -/

structure UsbAuthorization where
  enable : Option Bool := none
  disable : Option Bool := none
  deauthorizeUnmatched : Bool := false
  hostAllow : List Value := []

def UsbAuthorization.enabled (authorization : UsbAuthorization) : Bool :=
  authorization.enable.getD (authorization.disable.any fun disabled => !disabled)

inductive VmType
  | crosvm
  | qemu
  | other
deriving DecidableEq, Repr

structure Vm where
  name : String
  vmType : VmType := .crosvm
  socket : String
deriving DecidableEq, Repr

structure Config where
  usbPassthrough : List Value := []
  usbAuthorization : UsbAuthorization := {}
  pciPassthrough : List Value := []
  vms : List Vm := []
  persistency : Bool := true

structure RuleMatch where
  targetVm : Option String
  allowedVms : List String
  skipOnSuspend : Bool
  iommuAddAll : Bool
  iommuSkipIfShared : Bool
  crosvmUseRootBus : Bool
  tag : Option String
  order : ℕ
deriving DecidableEq, Repr

/-- What rule matching takes from outside the repository. `regex` builds a case-insensitive
expression, `modulePaths` resolves a modalias to kernel module files. -/
structure Host where
  regex : String → Option (String → Bool)
  modulePaths : String → List String
  hwdb : Hwdb

/-- The immutable part of a running manager. -/
structure Daemon where
  config : Config
  host : Host

def Host.anchored (host : Host) (pattern : String) : Option (String → Bool) :=
  host.regex ("^(?:" ++ pattern ++ ")")

def regexMatch (host : Host) : Option String → Option String → Bool
  | some pattern, some value => (host.anchored pattern).any fun isMatch => isMatch value
  | _, _ => false

/-! ## Selectors -/

/-- `removable` constrains a selector, the other criteria are alternatives. -/
def removableExcludes (selector : Value) (device : UsbDevice) : Bool :=
  match (selector.get "removable").bind Value.asArray with
  | none => false
  | some values => !(values.filterMap Value.asStr).any fun value =>
      device.removable.any fun actual => Text.eqIgnoreAsciiCase actual value

def interfaceMatches (selector : Value) (interface : UsbInterface) : Bool :=
  let cls := selector.getU64 "interfaceClass"
  cls.isSome && cls == interface.cls &&
    ((selector.getU64 "interfaceSubclass").all fun v => some v == interface.subclass) &&
    ((selector.getU64 "interfaceProtocol").all fun v => some v == interface.protocol)

def usbSelectorMatches (host : Host) (selector : Value) (device : UsbDevice) : Bool :=
  if !enabled selector then false
  else if removableExcludes selector device then false
  else if caseEq (selector.getStr "vendorId") device.vid &&
      caseEq (selector.getStr "productId") device.pid then true
  else if regexMatch host (selector.getStr "vendorName") device.vendorName ||
      regexMatch host (selector.getStr "productName") device.productName then true
  else if selector.getU64 "bus" == device.bus && selector.getU64 "port" == device.rootPort &&
      (selector.get "bus").isSome && (selector.get "port").isSome then true
  else if (selector.getU64 "deviceClass").isSome &&
      selector.getU64 "deviceClass" == device.deviceClass then
    ((selector.getU64 "deviceSubclass").all fun v => some v == device.deviceSubclass) &&
      ((selector.getU64 "deviceProtocol").all fun v => some v == device.deviceProtocol)
  else device.interfaces.any (interfaceMatches selector)

def pciSelectorMatches (selector : Value) (device : PciDevice) : Bool :=
  if !enabled selector then false
  else if caseEq (selector.getStr "address") (some device.address) then true
  else if (selector.getStr "vendorId").bind Text.hexU32 == device.vendorId &&
      (selector.getStr "deviceId").bind Text.hexU32 == device.deviceId &&
      (selector.get "vendorId").isSome && (selector.get "deviceId").isSome then true
  else if (selector.getU64 "deviceClass").isSome &&
      selector.getU64 "deviceClass" == device.cls then
    ((selector.getU64 "deviceSubclass").all fun v => some v == device.subclass) &&
      ((selector.getU64 "deviceProgIf").all fun v => some v == device.progIf)
  else false

def ruleMatches {α : Type} (rule : Value) (device : α) (selector : Value → α → Bool) : Bool :=
  enabled rule && (rule.getItems "allow").any (selector · device) &&
    !(rule.getItems "deny").any (selector · device)

namespace Daemon

/-- An interface class that is neither unset nor vendor specific keeps `driverPath` from
applying. -/
def hasValidInterface (device : UsbDevice) : Bool :=
  device.interfaces.any fun interface =>
    interface.cls != none && interface.cls != some 0 && interface.cls != some 0xff

def driverPathMatches (d : Daemon) (selector : Value) (device : UsbDevice) : Bool :=
  if hasValidInterface device then false
  else ((selector.getStr "driverPath").bind d.host.anchored).any fun isMatch =>
    (device.driverPaths ++ device.modaliases.flatMap d.host.modulePaths).any isMatch

/-- Note that a selector `usbSelectorMatches` turns down, for whatever reason, can still match by
its `driverPath`. -/
def usbSelectorMatches (d : Daemon) (selector : Value) (device : UsbDevice) : Bool :=
  GhafDeviceManager.usbSelectorMatches d.host selector device ||
    d.driverPathMatches selector device

def vm (d : Daemon) (name : String) : Option Vm := d.config.vms.find? fun vm => vm.name == name

def usbRuleMatch (d : Daemon) (rule : Value) (device : UsbDevice) : Option RuleMatch :=
  if ruleMatches rule device d.usbSelectorMatches &&
      ((rule.getStr "targetVm").isSome || !(stringList rule "allowedVms").isEmpty) then
    some
      { targetVm := rule.getStr "targetVm"
        allowedVms := stringList rule "allowedVms"
        skipOnSuspend := boolValue rule "skipOnSuspend"
        iommuAddAll := false
        iommuSkipIfShared := false
        crosvmUseRootBus := false
        tag := rule.getStr "tag"
        order := 0 }
  else none

def usbRule (d : Daemon) (device : UsbDevice) : Option RuleMatch :=
  d.config.usbPassthrough.findSome? fun rule => d.usbRuleMatch rule device

def usbAuthorizationHostAllowed (d : Daemon) (device : UsbDevice) : Bool :=
  d.config.usbAuthorization.enabled &&
    d.config.usbAuthorization.hostAllow.any fun selector => d.usbSelectorMatches selector device

/-- Counts the allow entries looked at, up to and including the first that matches. -/
def pciAllowPosition (device : PciDevice) : List Value → (order : ℕ) → ℕ × Bool
  | [], order => (order, false)
  | allow :: rest, order =>
    if pciSelectorMatches allow device then (order + 1, true)
    else pciAllowPosition device rest (order + 1)

def pciRuleFrom (device : PciDevice) : List Value → (order : ℕ) → Option RuleMatch
  | [], _ => none
  | rule :: rest, order =>
    if !enabled rule then pciRuleFrom device rest order
    else
      let (order, found) := pciAllowPosition device (rule.getItems "allow") order
      let found := found && !(rule.getItems "deny").any (pciSelectorMatches · device)
      if found && (rule.getStr "targetVm").isSome then
        some
          { targetVm := rule.getStr "targetVm"
            allowedVms := []
            skipOnSuspend := boolValue rule "skipOnSuspend"
            iommuAddAll := boolValue rule "pciIommuAddAll"
            iommuSkipIfShared := boolValue rule "pciIommuSkipIfShared"
            crosvmUseRootBus := boolValue rule "crosvmUseRootBus"
            tag := rule.getStr "tag"
            order := order }
      else pciRuleFrom device rest order

def pciRule (d : Daemon) (device : PciDevice) : Option RuleMatch :=
  pciRuleFrom device d.config.pciPassthrough 0

def routesUsb (d : Daemon) : Bool := d.config.usbPassthrough.any enabled

end Daemon

def allowedVms (rule : RuleMatch) : List String := rule.targetVm.toList ++ rule.allowedVms

namespace Config

def Valid (config : Config) : Prop :=
  (∀ vm ∈ config.vms, vm.vmType = .crosvm ∧ vm.name ≠ "" ∧ vm.socket ≠ "") ∧
    (config.vms.map Vm.name).Nodup

instance (config : Config) : Decidable config.Valid := by unfold Valid; infer_instance

end Config

theorem Daemon.vm_name {d : Daemon} {name : String} {vm : Vm} (h : d.vm name = some vm) :
    vm.name = name := by
  have hfound := List.find?_some h
  exact eq_of_beq hfound

/-- Some enabled rule exists as soon as a rule matches a device. -/
theorem Daemon.routesUsb_of_usbRule {d : Daemon} {device : UsbDevice} {rule : RuleMatch}
    (h : d.usbRule device = some rule) : d.routesUsb := by
  obtain ⟨value, hmem, hvalue⟩ := List.exists_of_findSome?_eq_some h
  unfold Daemon.usbRuleMatch at hvalue
  split at hvalue
  case isFalse => cases hvalue
  case isTrue hmatch =>
    simp only [ruleMatches, Bool.and_eq_true] at hmatch
    exact List.any_eq_true.2 ⟨value, hmem, hmatch.1.1.1⟩

end GhafDeviceManager
