import GhafDeviceManager.UsbAttach

/-!
# The host driver gate and USB authorization

A pass of `applyUsbGate` closes the gate, configures what is unconfigured, decides from one scan
which devices are routed, and then walks a second listing of the bus to settle every interface.
-/

namespace GhafDeviceManager

def setAutoprobe (value : String) : Act Unit := Fallible.request (.setAutoprobe value) id

def readAutoprobe : Act (Option String) := Fallible.request .autoprobe .ok

def setAuthorizedDefault (value : Bool) : Act Unit :=
  Fallible.request (.setAuthorizedDefault value) fun _ => .ok ()

/-- Reports `false` where there is nothing to gate. -/
def closeUsbGate (d : Daemon) : Act Bool := do
  if (← usbBus) && d.routesUsb then
    setAutoprobe "0"
    return true
  else return false

/-- Hubs and explicitly host-allowed devices are the only ones the manager itself authorizes for
host use. -/
def authorizeUsbForHost (d : Daemon) : Act Unit := do
  if d.config.usbAuthorization.enabled then
    let devices ← scanUsbRoot
    devices.forM fun device => do
      if device.isHub || d.usbAuthorizationHostAllowed device then
        if (← authorization device.sysName) == some false then
          warnOnError (authorize device.sysName true)

def enableUsbAuthorization (d : Daemon) : Act Bool := do
  if d.config.usbAuthorization.enabled then
    setAuthorizedDefault false
    authorizeUsbForHost d
    return true
  else return false

/-- Devices left on the host from before the daemon started come under the same policy. -/
def deauthorizeUnmatchedUsb (d : Daemon) : Act Unit := do
  if d.config.usbAuthorization.enabled && d.config.usbAuthorization.deauthorizeUnmatched then
    let devices ← scanUsbRoot
    enter (.deauthorizeUnmatchedUsb devices)
    withLock .state do
      let m ← readMemory .state
      devices.forM fun device => do
        let attached := device.deviceNode.any fun node => (m.usbVms.lookup node).isSome
        if !(device.isHub || attached || d.usbAuthorizationHostAllowed device) then
          if (← authorization device.sysName) == some true then
            withContext ("cannot deauthorize " ++ device.sysName)
              (authorize device.sysName false)

/-! ## Routing -/

/-- One pass over the scan. Only the first component outlives it: the verdict per persistent id,
the later device of two with one id deciding. -/
def usbRoutingFold (rule : UsbDevice → Bool) (cache : Map Bool) (disconnected : String → Bool) :
    List UsbDevice → Map Bool × List String → Map Bool × List String
  | [], acc => acc
  | device :: rest, (seen, routed) =>
    let id := device.persistentId
    let isMatched := rule device || (cache.lookup id).getD false
    -- a device handed back to the host on purpose is no longer routed
    let routed := if isMatched && !disconnected id then device.sysName :: routed else routed
    usbRoutingFold rule cache disconnected rest (seen.insert id isMatched, routed)

def usbRoutingPass (rule : UsbDevice → Bool) (cache : Map Bool) (disconnected : String → Bool)
    (devices : List UsbDevice) : Map Bool × List String :=
  usbRoutingFold rule cache disconnected devices (∅, [])

/-- The sys names of the devices the host may not have. -/
def usbRouting (d : Daemon) (devices : List UsbDevice) : Act (List String) := do
  enter (.usbRouting devices)
  withLock .usbRouting do
    let cache := (← readMemory .usbRouting).usbRouting
    let (seen, routed) ← withLock .state do
      let m ← readMemory .state
      return usbRoutingPass (fun device => (d.usbRule device).isSome) cache
        m.persistent.disconnected devices
    -- unplugged devices forget their verdict, so a replug decides again
    update (.usbRouting seen)
    return routed

/-! ## The gate -/

/-- Unauthorized devices are left unconfigured. -/
def heldUnauthorized (d : Daemon) (name : String) : Act Bool := do
  if d.config.usbAuthorization.enabled then
    return (← authorization name) == some false
  else return false

def configureDevices (d : Daemon) (names : List String) : Act Unit :=
  names.forM fun name => do
    if !(← heldUnauthorized d name) then
      if (← driver name).isNone then warnOnError (probe name)

def settleInterface (isRouted : Bool) (interface : String) : Act Unit := do
  match isRouted, ← driver interface with
  | true, some name =>
    if UsbGate.releasable name then warnOnError (release interface) else pure ()
  | false, none => warnOnError (probe interface)
  | _, _ => pure ()

def settleDevice (routed : List String) (name : String) : Act Unit := do
  match ← Fallible.attempt (interfaces name) with
  | .error _ => pure ()
  | .ok names => names.forM (settleInterface (routed.contains name))

def settleDrivers (routed : List String) : Act Unit := do
  enter (.settleDrivers routed)
  let names ← deviceNames
  names.forM (settleDevice routed)

def applyUsbGate (d : Daemon) : Act Unit := do
  let bus ← usbBus
  if d.routesUsb && bus then setAutoprobe "0"
  authorizeUsbForHost d
  if bus && d.routesUsb then
    configureDevices d (← deviceNames)
    let routed ← usbRouting d (← scanUsbRoot)
    settleDrivers routed

/-- The sys names of devices recorded as attached to a VM; none where the scan fails. -/
def usbHeldByVms : Act (List String) := do
  match ← Fallible.attempt scanUsbRoot with
  | .error _ => pure []
  | .ok devices =>
    let m ← readMemory .state
    return (devices.filter fun device =>
      device.deviceNode.any fun node => (m.usbVms.lookup node).isSome).map UsbDevice.sysName

def handBackInterface (interface : String) : Act Unit := do
  if (← driver interface).isNone then warnOnError (probe interface)

def handBack (d : Daemon) (held : List String) (name : String) : Act Unit := do
  if !held.contains name then
    if !(← heldUnauthorized d name) then
      if (← driver name).isNone then warnOnError (probe name)
      match ← Fallible.attempt (interfaces name) with
      | .error _ => pure ()
      | .ok names => names.forM handBackInterface

def openUsbGate (d : Daemon) : Act Unit := do
  if (← usbBus) && d.routesUsb then
    if (← readAutoprobe) == some "0" then
      let held ← usbHeldByVms
      setAutoprobe "1"
      let names ← deviceNames
      names.forM (handBack d held)

end GhafDeviceManager
