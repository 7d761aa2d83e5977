import GhafDeviceManager.Effects

/-!
# Attaching and detaching one USB device

`attachOneUsb` and `detachOneUsb` with the steps they go through. The authorization guard of the
source rolls back when it is dropped armed; here every way out between its creation and its
commit calls `rollback`.
-/

namespace GhafDeviceManager

abbrev Act (α : Type) := Fallible Op Reply Error α

/-! ## Operations -/

def enter (entry : Entry) : Act Unit := Fallible.request (.enter entry) fun _ => .ok ()

def readMemory (lock : Lock) : Act Memory := Fallible.request (.read lock) .ok

def update (u : Update) : Act Unit := Fallible.request (.update u) fun _ => .ok ()

def notify (n : Notification) : Act Unit := Fallible.request (.notify n) fun _ => .ok ()

def order (keys : List String) : Act (List String) := Fallible.request (.order keys) .ok

def socketGeneration (socket : String) : Act (Option String) :=
  Fallible.request (.socketGeneration socket) .ok

def usbList (socket : String) : Act (List LivePort) := Fallible.request (.usbList socket) id

def usbAttach (vm : Vm) (node : String) : Act UInt8 := Fallible.request (.usbAttach vm node) id

def usbDetach (vm : Vm) (port : UInt8) : Act Unit := Fallible.request (.usbDetach vm port) id

def usbBus : Act Bool := Fallible.request .usbBus .ok

def scanUsbRoot : Act (List UsbDevice) := Fallible.request .scanUsb id

def deviceNames : Act (List String) := Fallible.request .deviceNames id

def interfaces (sysName : String) : Act (List String) :=
  Fallible.request (.interfaces sysName) id

def driver (name : String) : Act (Option String) := Fallible.request (.driver name) .ok

def probe (name : String) : Act Unit := Fallible.request (.probe name) id

def release (name : String) : Act Unit := Fallible.request (.release name) id

def authorization (sysName : String) : Act (Option Bool) :=
  Fallible.request (.authorization sysName) .ok

def authorize (sysName : String) (value : Bool) : Act Unit :=
  Fallible.request (.authorize sysName value) id

/-- Hold a lock for the length of `p`, whichever way it ends. -/
def withLock {α : Type} (lock : Lock) (p : Act α) : Act α := do
  Fallible.request (.lock lock) fun _ => .ok ()
  let result ← Fallible.attempt p
  Fallible.request (.unlock lock) fun _ => .ok ()
  match result with
  | .ok a => pure a
  | .error e => throw e

def withContext {α : Type} (context : String) (p : Act α) : Act α := do
  match ← Fallible.attempt p with
  | .ok a => pure a
  | .error e => throw (context :: e)

/-- Errors the source only logs. -/
def warnOnError (p : Act Unit) : Act Unit := do
  let _ ← Fallible.attempt p

def require {α : Type} (context : String) : Option α → Act α
  | some a => pure a
  | none => throw [context]

def Daemon.vmNamed (d : Daemon) (name : String) : Act Vm :=
  require ("VM " ++ name ++ " is not found in the configuration") (d.vm name)

def saveState (d : Daemon) : Act Unit :=
  if d.config.persistency then Fallible.request .save id else pure ()

def setDisconnected (d : Daemon) (id : String) (value : Bool) : Act Unit := do
  update (.setDisconnected id value)
  saveState d

def selectVm (d : Daemon) (id vm : String) : Act Unit := do
  update (.selectVm id vm)
  saveState d

/-! ## Detach -/

/-- A port whose device has the vendor and product id of `device`. -/
def showsDevice (device : UsbDevice) (item : LivePort) : Bool :=
  some item.2.1 == device.vid && some item.2.2 == device.pid

def detachBoundPort (device : UsbDevice) (vm : Vm) (binding : UsbPortBinding) : Act Unit := do
  let live ← usbList vm.socket
  match live.find? fun item => item.1 == binding.port with
  | some item =>
    if !showsDevice device item then
      throw ["Crosvm USB port contains a different device; refusing to detach"]
    else usbDetach vm binding.port
  | none => pure ()

def detachMatchingPort (device : UsbDevice) (vm : Vm) : Act Unit := do
  let live ← usbList vm.socket
  match live.filter (showsDevice device) with
  | [item] => usbDetach vm item.1
  | [] => pure ()
  | _ => throw ["multiple matching USB devices are attached; refusing an ambiguous detach"]

def detachFromVm (d : Daemon) (device : UsbDevice) (node vmName : String)
    (binding : Option UsbPortBinding) : Act Unit := do
  let vm ← d.vmNamed vmName
  if (← socketGeneration vm.socket).isSome then
    match binding with
    | some binding =>
      let generation ← socketGeneration vm.socket
      if binding.socketGeneration == generation.getD "" then
        detachBoundPort device vm binding
      else detachMatchingPort device vm
    | none => detachMatchingPort device vm
  notify (.usbDetached node vmName)

/-- Whether the state could be saved. -/
def forgetBinding (d : Daemon) (device : UsbDevice) (node : String) (permanent : Bool) :
    Act (Except Error Unit) := withLock .state do
  update (.usbVmsRemove node)
  update (.crosvmUsbPortsRemove device.sysName)
  Fallible.attempt do
    setDisconnected d device.persistentId permanent
    saveState d

/-- A detached device is not the host's either: with the policy on, its authorization goes. -/
def deauthorizeDetached (d : Daemon) (device : UsbDevice) : Act Unit := do
  if d.config.usbAuthorization.enabled && !device.isHub then
    if (← authorization device.sysName).isSome then
      warnOnError (authorize device.sysName false)

def forgetUsb (d : Daemon) (device : UsbDevice) (node : String) (permanent : Bool) :
    Act Unit := do
  let persistence ← forgetBinding d device node permanent
  update (.pendingRemove device.persistentId)
  deauthorizeDetached d device
  match persistence with
  | .ok _ => pure ()
  | .error e => throw e

def detachOneUsb (d : Daemon) (device : UsbDevice) (permanent : Bool) : Act Unit := do
  enter (.detachOneUsb device permanent)
  let node ← require "USB device has no device node" device.deviceNode
  let m ← readMemory .state
  let binding := m.persistent.crosvmUsbPorts.lookup device.sysName
  match m.usbVms.lookup node <|> binding.map UsbPortBinding.vm with
  | some vmName => detachFromVm d device node vmName binding
  | none => pure ()
  forgetUsb d device node permanent

/-! ## Attach -/

def chooseVm (requestedVm : Option String) (rule : RuleMatch) (selectedVms : Map String)
    (id : String) : Option String :=
  requestedVm <|> rule.targetVm <|> selectedVms.lookup id <|>
    match rule.allowedVms with
    | [vm] => some vm
    | _ => none

/-- Whether the pending selection is new. -/
def insertPending (id : String) : Act Bool := withLock .pendingUsbSelection do
  let m ← readMemory .pendingUsbSelection
  update (.pendingInsert id)
  return !m.pendingUsbSelection.contains id

def insertReported (id : String) : Act Unit := update (.reportedInsert id)

def preflight (d : Daemon) (device : UsbDevice) (vm : Vm) :
    Act (Option (String × List LivePort)) :=
  if d.config.usbAuthorization.enabled && !device.isHub then do
    let generation ← socketGeneration vm.socket
    let live ← usbList vm.socket
    return some (generation.getD "", live)
  else pure none

def handOver (d : Daemon) (device : UsbDevice) (current : Option String) (vmName : String) :
    Act Unit :=
  match current with
  | some name => if name ≠ vmName then detachOneUsb d device false else pure ()
  | none => pure ()

/-- Drop of an armed guard. -/
def rollback (device : UsbDevice) (armed : Bool) : Act Unit :=
  if armed then warnOnError (authorize device.sysName false) else pure ()

/-- Whether the guard is armed. -/
def usbAuthorizationGuard (d : Daemon) (device : UsbDevice) : Act Bool := do
  if d.config.usbAuthorization.enabled && !device.isHub then
    if (← authorization device.sysName) != some true then
      match ← Fallible.attempt (withContext ("cannot authorize " ++ device.sysName)
          (authorize device.sysName true)) with
      | .ok _ => return true
      | .error e =>
        rollback device true
        throw e
    else return false
  else return false

def configureUsb (device : UsbDevice) : Act Unit := do
  if ← usbBus then
    if (← driver device.sysName).isNone then
      withContext ("cannot configure " ++ device.sysName) (probe device.sysName)

/-- Takes host drivers off. `true` where a hub driver is met, which ends the attach. -/
def releaseHostDrivers (device : UsbDevice) : List String → Act Bool
  | [] => pure false
  | interface :: rest => do
    match ← driver interface with
    | none => releaseHostDrivers device rest
    | some name =>
      if name == UsbGate.hub then
        insertReported device.persistentId
        return true
      else
        if name != UsbGate.claim then
          withContext ("cannot claim " ++ device.sysName) (release interface)
        releaseHostDrivers device rest

/-- A port Crosvm lists as the recorded one, with the recorded ids. -/
def listsBinding (binding : UsbPortBinding) (item : LivePort) : Bool :=
  item.1 == binding.port && some item.2.1 == binding.vid && some item.2.2 == binding.pid

/-- The binding belongs to this VM's present instance. -/
def bindingCurrent (binding : UsbPortBinding) (vmName generation : String) : Bool :=
  binding.vm == vmName && binding.socketGeneration == generation

def bindingIdentifies (binding : UsbPortBinding) (device : UsbDevice) : Bool :=
  binding.vid == device.vid && binding.pid == device.pid && binding.serial == device.serial

def stalePort (known : Option UsbPortBinding) (vmName generation : String)
    (live : List LivePort) : Option UInt8 :=
  (known.filter fun binding => bindingCurrent binding vmName generation).bind fun binding =>
    (live.find? (listsBinding binding)).map Prod.fst

/-- The port of a binding that needs no new attach. -/
def reusablePort (known : Option UsbPortBinding) (device : UsbDevice)
    (vmName generation : String) (live : List LivePort) : Option UInt8 :=
  match known.filter fun binding => bindingCurrent binding vmName generation &&
      bindingIdentifies binding device with
  | some binding =>
    if live.any fun item => item.1 == binding.port && showsDevice device item then
      some binding.port
    else none
  | none => none

structure PortClaim where
  port : UInt8
  stalePort : Option UInt8
  generation : String
  /-- Crosvm was asked to attach. -/
  attached : Bool

def claimPort (device : UsbDevice) (vm : Vm) (node : String)
    (preflight : Option (String × List LivePort)) : Act PortClaim := do
  let known := (← readMemory .state).persistent.crosvmUsbPorts.lookup device.sysName
  let (generation, live) ← match preflight with
    | some seen => pure seen
    | none => do
      let generation ← socketGeneration vm.socket
      let live ← usbList vm.socket
      pure (generation.getD "", live)
  match reusablePort known device vm.name generation live with
  | some port => return { port, stalePort := none, generation, attached := false }
  | none =>
    let port ← usbAttach vm node
    let stale := (stalePort known vm.name generation live).filter (· ≠ port)
    return { port, stalePort := stale, generation, attached := true }

/-- What the guard covers; `none` where a hub was met. -/
def claimUsb (device : UsbDevice) (vm : Vm) (node : String)
    (preflight : Option (String × List LivePort)) : Act (Option PortClaim) := do
  configureUsb device
  let names ← withContext ("cannot claim " ++ device.sysName) (interfaces device.sysName)
  if ← releaseHostDrivers device names then return none
  return some (← claimPort device vm node preflight)

def recordAttachment (d : Daemon) (device : UsbDevice) (vmName node : String)
    (claim : PortClaim) : Act Unit := withLock .state do
  update (.usbVmsInsert node vmName)
  selectVm d device.persistentId vmName
  setDisconnected d device.persistentId false
  update (.crosvmUsbPortsInsert device vmName claim.port claim.generation)
  saveState d

def finishAttach (d : Daemon) (device : UsbDevice) (vm : Vm) (node : String)
    (current : Option String) (claim : PortClaim) : Act Unit := do
  match claim.stalePort with
  | some stale => usbDetach vm stale
  | none => pure ()
  recordAttachment d device vm.name node claim
  update (.pendingRemove device.persistentId)
  if current ≠ some vm.name ∨ claim.attached then
    notify (.usbAttached device vm.name)

/-- The attach from the authorization guard on. -/
def attachAuthorized (d : Daemon) (device : UsbDevice) (vm : Vm) (node : String)
    (current : Option String) (preflight : Option (String × List LivePort)) : Act Unit := do
  let armed ← usbAuthorizationGuard d device
  match ← Fallible.attempt (claimUsb device vm node preflight) with
  | .error e =>
    rollback device armed
    throw e
  | .ok none => rollback device armed
  | .ok (some claim) => finishAttach d device vm node current claim

def attachUsbTo (d : Daemon) (device : UsbDevice) (rule : RuleMatch) (vmName : String) :
    Act Unit := do
  if !(allowedVms rule).contains vmName then
    throw ["VM " ++ vmName ++ " is not allowed for USB device " ++ device.sysName]
  let vm ← d.vmNamed vmName
  if d.config.usbAuthorization.enabled then
    if (← socketGeneration vm.socket).isNone then
      throw ["VM " ++ vmName ++ " socket is absent; deferring USB authorization"]
  let seen ← preflight d device vm
  let node ← require "USB device has no device node" device.deviceNode
  let current := (← readMemory .state).usbVms.lookup node
  handOver d device current vmName
  attachAuthorized d device vm node current seen

def attachOneUsb (d : Daemon) (device : UsbDevice) (rule : RuleMatch)
    (requestedVm : Option String) : Act Unit := do
  enter (.attachOneUsb device rule requestedVm)
  let m ← readMemory .state
  match chooseVm requestedVm rule m.persistent.selectedVms device.persistentId with
  | none =>
    if ← insertPending device.persistentId then
      notify (.usbSelectVm device rule.allowedVms)
  | some vmName => attachUsbTo d device rule vmName

end GhafDeviceManager
