import GhafDeviceManager.Footprints
import GhafDeviceManager.Runs

/-!
# Operations from their parts

An operation is glue around a few parts: attaches and detaches of single devices, the gate, the
sweep and the observation of what came and went. What the parts keep, every operation keeps.
-/

namespace GhafDeviceManager

open Fallible

section Combinators

variable {α V : Type} {M : Machine Op Reply V} {G : V → Op → Prop} {I : V → Prop}

theorem keeps_ite {c : Prop} [Decidable c] {p q : Act α} (hp : Keeps M G I p)
    (hq : Keeps M G I q) : Keeps M G I (if c then p else q) := by
  split
  · exact hp
  · exact hq

theorem keeps_warnOnError {p : Act Unit} (hp : Keeps M G I p) : Keeps M G I (warnOnError p) :=
  keeps_bind (keeps_attempt hp) fun _ => keeps_pure _

theorem keeps_collect {name : String} {p : Act Unit} {failures : List String}
    (hp : Keeps M G I p) : Keeps M G I (collect name p failures) := by
  refine keeps_bind (keeps_attempt hp) fun r => ?_
  cases r <;> exact keeps_pure _

theorem yields_withLock {Q : α → Prop} {lock : Lock} {p : Act α}
    (hlock : Keeps M G I (Fallible.request (.lock lock) fun _ => .ok () : Act Unit))
    (hunlock : Keeps M G I (Fallible.request (.unlock lock) fun _ => .ok () : Act Unit))
    (hp : Yields M G I p Q) : Yields M G I (withLock lock p) Q := by
  refine yields_bind (yields_of_keeps hlock) fun _ _ => ?_
  refine yields_bind (yields_attempt hp) fun r hr => ?_
  refine yields_bind (yields_of_keeps hunlock) fun _ _ => ?_
  cases r with
  | ok a => exact yields_pure (hr a rfl)
  | error e => exact yields_throw e

end Combinators

section Harmless

variable {α : Type} {allowed : World → Op → Choice → Prop} {G : World → Op → Prop}
  {I : World → Prop}

/-- An operation that the guarantee admits and that keeps the invariant. -/
def Harmless (allowed : World → Op → Choice → Prop) (G : World → Op → Prop) (I : World → Prop)
    (op : Op) : Prop :=
  ∀ w, I w → G w op ∧ ∀ c, allowed w op c → I (react w op c).2

theorem keeps_of_harmless {p : Act α} (hp : Calls (Harmless allowed G I) p) :
    Keeps (machine allowed) G I p := by
  refine keeps_of_calls hp ?_ fun op hop w hw => ⟨(hop w hw).1, ?_⟩
  · rintro w _ rfl h
    exact h
  · rintro r w' ⟨c, hc, hreact⟩
    have hstep := (hop w hw).2 c hc
    rwa [hreact] at hstep

theorem keeps_request {op : Op} (h : Harmless allowed G I op)
    (result : Reply op → Except Error α) :
    Keeps (machine allowed) G I (Fallible.request op result) :=
  keeps_of_harmless (calls_request h)

theorem keeps_withLock {lock : Lock} {p : Act α} (hlock : Harmless allowed G I (.lock lock))
    (hunlock : Harmless allowed G I (.unlock lock)) (hp : Keeps (machine allowed) G I p) :
    Keeps (machine allowed) G I (withLock lock p) := by
  refine keeps_bind (keeps_request hlock _) fun _ => ?_
  refine keeps_bind (keeps_attempt hp) fun r => ?_
  refine keeps_bind (keeps_request hunlock _) fun _ => ?_
  cases r with
  | ok a => exact keeps_pure a
  | error e => exact keeps_throw e

end Harmless

/-! ## Footprints of the parts beside attach and detach of USB -/

def Op.Opens : Op → Prop
  | .setAutoprobe _ | .probe _ => True
  | op => op.Observes

/-- Closing and opening the gate, and settling what lies behind it. -/
def Op.Settles : Op → Prop
  | .enter (.usbRouting _) | .enter (.settleDrivers _) => True
  | .setAutoprobe _ | .probe _ | .release _ => True
  | .update (.usbRouting _) => True
  | op => op.Observes

/-- That and the host's own authorizations. -/
def Op.Gates : Op → Prop
  | .enter (.usbRouting _) | .enter (.settleDrivers _) => True
  | .setAutoprobe _ | .setAuthorizedDefault _ | .probe _ | .release _ => True
  | .authorize _ value => value = true
  | .update (.usbRouting _) => True
  | op => op.Observes

/-- Looking at devices and setting their `authorized` attributes to one value. -/
def Op.Authorizes (value : Bool) : Op → Prop
  | .authorize _ written => written = value
  | op => op.Observes

def Op.Sweeps : Op → Prop
  | .enter (.deauthorizeUnmatchedUsb _) => True
  | .authorize _ value => value = false
  | op => op.Observes

def Op.ClearsUsb : Op → Prop
  | .usbDetach _ _ | .save => True
  | .update (.usbVmsRemove _) | .update (.crosvmUsbPortsRemove _) | .update (.pendingRemove _)
  | .update (.observedUsb _) => True
  | op => op.Observes

def Op.Vanishes (key : String) (device : UsbDevice) : Op → Prop
  | .usbDetach _ _ | .save => True
  | .update (.usbVmsRemove node) => device.deviceNode = some node
  | .update (.crosvmUsbPortsRemove sysName) => sysName = key
  | .update (.pendingRemove id) => id = device.persistentId
  | op => op.Observes

def Op.Clears : Op → Prop
  | .enter .observe => True
  | .update (.pciVmsRemove _) | .update (.observedPci _) => True
  | op => op.ClearsUsb

/-- The operations that no part for PCI devices has to itself. The marks of USB devices go by
their ids. -/
def Op.Usb : Op → Prop
  | .vfioAdd _ _ | .vfioRemove _ _ | .pciUnbind _ | .pciOverride _ | .pciProbe _ => False
  | .update (.pciVmsInsert _ _) | .update (.pciVmsRemove _) | .update (.observedPci _) => False
  | .update (.setDisconnected id _) => ∃ device : UsbDevice, id = device.persistentId
  | .enter (.attachOnePci _ _ _) | .enter (.detachOnePci _ _ _) => False
  | _ => True

def Op.Binds : Op → Prop
  | .pciUnbind _ | .pciOverride _ | .pciProbe _ => True
  | op => op.Observes

def Op.AttachesPci (device : PciDevice) : Op → Prop
  | .enter (.attachOnePci other _ _) => other = device
  | .vfioAdd _ _ | .pciUnbind _ | .pciOverride _ | .pciProbe _ | .save => True
  | .update (.pciVmsInsert _ _) => True
  | .update (.setDisconnected id value) => id = device.persistentId ∧ value = false
  | op => op.Observes

/-- What the attach of one PCI device calls after its entry. -/
def Op.AssignsPci (device : PciDevice) : Op → Prop
  | .enter _ => False
  | op => op.AttachesPci device

def Op.DetachesPci (device : PciDevice) (permanent : Bool) : Op → Prop
  | .enter (.detachOnePci other _ p) => other = device ∧ p = permanent
  | .vfioRemove _ _ | .save => True
  | .update (.pciVmsRemove _) => True
  | .update (.setDisconnected id value) => id = device.persistentId ∧ value = permanent
  | op => op.Observes

def Op.Pci (op : Op) : Prop :=
  ∃ device, op.AttachesPci device ∨ ∃ permanent, op.DetachesPci device permanent

section Inclusions

variable {op : Op}

theorem usb_of_gates (h : op.Gates) : op.Usb := by
  cases op with
  | update u => cases u <;> trivial
  | enter entry => cases entry <;> trivial
  | _ => trivial

theorem usb_of_sweeps (h : op.Sweeps) : op.Usb := by
  cases op with
  | enter entry => cases entry <;> trivial
  | update u => exact h.elim
  | _ => trivial

theorem clearsUsb_of_vanishes {key : String} {device : UsbDevice} (h : op.Vanishes key device) :
    op.ClearsUsb := by
  cases op with
  | update u => cases u <;> trivial
  | _ => trivial

theorem usb_of_assigns {device : UsbDevice} (h : op.Assigns device) : op.Usb := by
  cases op with
  | update u =>
      cases u with
      | setDisconnected id value => exact ⟨device, h.1⟩
      | _ => trivial
  | enter entry =>
      obtain rfl : entry = .detachOneUsb device false := h
      trivial
  | _ => trivial

theorem usb_of_detaches {device : UsbDevice} {permanent : Bool}
    (h : op.Detaches device permanent) : op.Usb := by
  cases op with
  | update u =>
      cases u with
      | setDisconnected id value => exact ⟨device, h.1⟩
      | _ => trivial
  | enter entry =>
      obtain rfl : entry = .detachOneUsb device permanent := h
      trivial
  | _ => trivial

end Inclusions

section Selections

variable {d : Daemon}

theorem calls_aggregate (failures : List String) {S : Op → Prop} :
    Calls S (aggregate failures) :=
  calls_ite (by trivial) (by trivial)

theorem calls_collect {name : String} {p : Act Unit} {S : Op → Prop} (hp : Calls S p)
    (failures : List String) : Calls S (collect name p failures) := by
  refine calls_bind (calls_attempt hp) fun r => ?_
  cases r <;> trivial

theorem calls_vmStopped {S : Op → Prop} (hsocket : ∀ socket, S (.socketGeneration socket))
    (target : Option String) : Calls S (vmStopped d target) := by
  unfold vmStopped
  split
  · trivial
  · exact calls_bind (calls_request (hsocket _)) fun _ => trivial

theorem calls_collectDeferring {name : String} {target : Option String} {p : Act Unit}
    {S : Op → Prop} (hsocket : ∀ socket, S (.socketGeneration socket))
    (hdeferred : S (.update (.deferred true))) (hp : Calls S p) (failures : List String) :
    Calls S (collectDeferring d name target p failures) := by
  refine calls_bind (calls_attempt hp) fun r => ?_
  cases r with
  | ok _ => trivial
  | error e =>
      refine calls_bind (calls_vmStopped hsocket target) fun stopped => ?_
      exact calls_ite (calls_bind (calls_request hdeferred) fun _ => trivial) (by trivial)

theorem calls_usbDevices {S : Op → Prop} (hscan : S .scanUsb) : Calls S (usbDevices d) :=
  calls_bind (calls_request hscan) fun _ => trivial

theorem calls_selectedUsb {S : Op → Prop} (selector : Selector) (hscan : S .scanUsb) :
    Calls S (selectedUsb d selector) :=
  calls_bind (calls_usbDevices hscan) fun _ => calls_ite (by trivial) (by trivial)

theorem calls_pciRouted {S : Op → Prop} (hgroup : ∀ address, S (.iommuGroup address))
    (devices : List PciDevice) : Calls S (pciRouted d devices) := by
  induction devices with
  | nil => trivial
  | cons device rest ih =>
      have hkeep : ∀ rule : RuleMatch, Calls S (do
          return (device, rule) :: (← pciRouted d rest)) := fun _ =>
        calls_bind ih fun _ => trivial
      unfold pciRouted
      split
      · exact ih
      · refine calls_ite (calls_bind (calls_request (hgroup _)) fun _ => ?_) (hkeep _)
        exact calls_ite ih (hkeep _)

theorem calls_pciDevices {S : Op → Prop} (hscan : S .scanPci)
    (hgroup : ∀ address, S (.iommuGroup address)) : Calls S (pciDevices d) :=
  calls_bind (calls_request hscan) fun _ => calls_bind (calls_pciRouted hgroup _) fun _ => trivial

theorem calls_selectedPci {S : Op → Prop} (selector : Selector) (hscan : S .scanPci)
    (hgroup : ∀ address, S (.iommuGroup address)) : Calls S (selectedPci d selector) :=
  calls_bind (calls_pciDevices hscan hgroup) fun _ => calls_ite (by trivial) (by trivial)

end Selections

section Footprints

variable (d : Daemon)

theorem calls_authorizeUsbForHost_of {S : Op → Prop}
    (hgates : d.config.usbAuthorization.enabled = true → ∀ op, op.Authorizes true → S op) :
    Calls S (authorizeUsbForHost d) := by
  unfold authorizeUsbForHost
  split
  case isFalse => trivial
  case isTrue henabled =>
    have hS := hgates henabled
    refine calls_bind (calls_request (hS _ (by trivial))) fun devices => ?_
    refine calls_forM fun device _ => calls_ite ?_ (by trivial)
    refine calls_bind (calls_request (hS _ (by trivial))) fun value => calls_ite ?_ (by trivial)
    exact calls_warnOnError (calls_request (hS _ rfl))

theorem calls_enableUsbAuthorization_of {S : Op → Prop}
    (hgates : d.config.usbAuthorization.enabled = true →
      S (.setAuthorizedDefault false) ∧ ∀ op, op.Authorizes true → S op) :
    Calls S (enableUsbAuthorization d) := by
  unfold enableUsbAuthorization
  split
  case isFalse => trivial
  case isTrue henabled =>
    refine calls_bind (calls_request (hgates henabled).1) fun _ => ?_
    exact calls_bind (calls_authorizeUsbForHost_of d fun h => (hgates h).2) fun _ => trivial

theorem gates_of_authorizes {op : Op} (h : op.Authorizes true) : op.Gates := by
  cases op <;> first | exact h | exact h.elim

theorem calls_enableUsbAuthorization : Calls Op.Gates (enableUsbAuthorization d) :=
  calls_enableUsbAuthorization_of d fun _ => ⟨trivial, fun _ => gates_of_authorizes⟩

/-- Without a rule for USB devices, the gate is left alone. -/
theorem calls_closeUsbGate_of {S : Op → Prop} (hbus : S .usbBus)
    (hopens : d.routesUsb = true → ∀ op, op.Opens → S op) : Calls S (closeUsbGate d) := by
  refine calls_bind (calls_request hbus) fun bus => ?_
  split
  case isFalse => trivial
  case isTrue hgate =>
    have hroutes : d.routesUsb = true := (Bool.and_eq_true_iff.1 hgate).2
    exact calls_bind (calls_request (hopens hroutes _ (by trivial))) fun _ => trivial

theorem calls_heldUnauthorized (name : String) : Calls Op.Observes (heldUnauthorized d name) := by
  refine calls_ite ?_ (by trivial)
  exact calls_bind (calls_request (by trivial)) fun _ => trivial

theorem opens_of_observes {op : Op} (h : op.Observes) : op.Opens := by
  cases op <;> first | exact h | exact h.elim

theorem settles_of_opens {op : Op} (h : op.Opens) : op.Settles := by
  cases op <;> first | exact h | trivial

theorem gates_of_settles {op : Op} (h : op.Settles) : op.Gates := by
  cases op with
  | enter entry => cases entry <;> exact h
  | update u => cases u <;> exact h
  | authorize name value => exact h.elim
  | _ => first | exact h | trivial

theorem calls_configureDevices (names : List String) :
    Calls Op.Opens (configureDevices d names) := by
  refine calls_forM fun name _ => ?_
  refine calls_bind (Program.calls_mono (calls_heldUnauthorized d name)
    fun _ => opens_of_observes) fun held => ?_
  refine calls_ite (calls_bind (calls_request (by trivial)) fun value => ?_) (by trivial)
  exact calls_ite (calls_warnOnError (calls_request (by trivial))) (by trivial)

theorem calls_usbRouting (devices : List UsbDevice) : Calls Op.Settles (usbRouting d devices) := by
  refine calls_bind (calls_request (by trivial)) fun _ => ?_
  refine calls_withLock (by trivial) (by trivial) ?_
  refine calls_bind (calls_request (by trivial)) fun m => ?_
  refine calls_bind (calls_withLock (by trivial) (by trivial) ?_) fun pass => ?_
  · exact calls_bind (calls_request (by trivial)) fun _ => trivial
  · exact calls_bind (calls_request (by trivial)) fun _ => trivial

theorem calls_settleInterface (isRouted : Bool) (interface : String) :
    Calls Op.Settles (settleInterface isRouted interface) := by
  refine calls_bind (calls_request (by trivial)) fun value => ?_
  split
  · exact calls_ite (calls_warnOnError (calls_request (by trivial))) (by trivial)
  · exact calls_warnOnError (calls_request (by trivial))
  · trivial

theorem calls_settleDrivers (routed : List String) : Calls Op.Settles (settleDrivers routed) := by
  refine calls_bind (calls_request (by trivial)) fun _ => ?_
  refine calls_bind (calls_request (by trivial)) fun names => calls_forM fun name _ => ?_
  refine calls_bind (calls_attempt (calls_request (by trivial))) fun r => ?_
  cases r with
  | error e => trivial
  | ok names => exact calls_forM fun interface _ => calls_settleInterface _ interface

theorem calls_applyUsbGate_of {S : Op → Prop} (hbus : S .usbBus)
    (hhost : d.config.usbAuthorization.enabled = true → ∀ op, op.Authorizes true → S op)
    (hsettles : d.routesUsb = true → ∀ op, op.Settles → S op) : Calls S (applyUsbGate d) := by
  have hrest : ∀ bus : Bool, Calls S (do
      authorizeUsbForHost d
      if bus && d.routesUsb then
        configureDevices d (← deviceNames)
        let routed ← usbRouting d (← scanUsbRoot)
        settleDrivers routed) := by
    intro bus
    refine calls_bind (calls_authorizeUsbForHost_of d hhost) fun _ => ?_
    split
    case isFalse => trivial
    case isTrue hgate =>
      refine Program.calls_mono (S := Op.Settles) ?_ (hsettles (Bool.and_eq_true_iff.1 hgate).2)
      refine calls_bind (calls_request (by trivial)) fun names => ?_
      refine calls_bind (Program.calls_mono (calls_configureDevices d names)
        fun _ => settles_of_opens) fun _ => ?_
      refine calls_bind (calls_request (by trivial)) fun devices => ?_
      exact calls_bind (calls_usbRouting d devices) fun routed => calls_settleDrivers routed
  refine calls_bind (calls_request hbus) fun bus => ?_
  refine calls_ite_of (fun hgate => ?_) fun _ => hrest bus
  have hroutes : d.routesUsb = true := (Bool.and_eq_true_iff.1 hgate).1
  exact calls_bind (calls_request (hsettles hroutes _ (by trivial))) fun _ => hrest bus

theorem calls_applyUsbGate : Calls Op.Gates (applyUsbGate d) :=
  calls_applyUsbGate_of d trivial (fun _ _ => gates_of_authorizes) fun _ _ => gates_of_settles

theorem calls_handBackInterfaces (name : String) : Calls Op.Opens (do
    match ← Fallible.attempt (interfaces name) with
    | .error _ => pure ()
    | .ok names => names.forM handBackInterface) := by
  refine calls_bind (calls_attempt (calls_request (by trivial))) fun r => ?_
  cases r with
  | error e => trivial
  | ok names =>
      refine calls_forM fun interface _ => calls_bind (calls_request (by trivial)) fun value => ?_
      exact calls_ite (calls_warnOnError (calls_request (by trivial))) (by trivial)

theorem calls_handBack (held : List String) (name : String) :
    Calls Op.Opens (handBack d held name) := by
  refine calls_ite (calls_bind (Program.calls_mono (calls_heldUnauthorized d name)
    fun _ => opens_of_observes) fun unauthorized => ?_) (by trivial)
  refine calls_ite (calls_bind (calls_request (by trivial)) fun value => ?_) (by trivial)
  refine calls_ite (calls_bind (calls_warnOnError (calls_request (by trivial))) fun _ => ?_) ?_
  · exact calls_handBackInterfaces name
  · exact calls_handBackInterfaces name

theorem calls_usbHeldByVms {S : Op → Prop} (hscan : S .scanUsb) (hread : S (.read .state)) :
    Calls S usbHeldByVms := by
  refine calls_bind (calls_attempt (calls_request hscan)) fun r => ?_
  cases r with
  | error e => trivial
  | ok devices => exact calls_bind (calls_request hread) fun _ => trivial

theorem calls_openUsbGate_of {S : Op → Prop} (hbus : S .usbBus)
    (hopens : d.routesUsb = true → ∀ op, op.Opens → S op) : Calls S (openUsbGate d) := by
  refine calls_bind (calls_request hbus) fun bus => ?_
  split
  case isFalse => trivial
  case isTrue hgate =>
    refine Program.calls_mono (S := Op.Opens) ?_ (hopens (Bool.and_eq_true_iff.1 hgate).2)
    refine calls_bind (calls_request (by trivial)) fun value => calls_ite ?_ (by trivial)
    refine calls_bind (calls_usbHeldByVms trivial trivial) fun held => ?_
    refine calls_bind (calls_request (by trivial)) fun _ => ?_
    refine calls_bind (calls_request (by trivial)) fun names => ?_
    exact calls_forM fun name _ => calls_handBack d held name

theorem calls_closeUsbGate : Calls Op.Gates (closeUsbGate d) :=
  calls_closeUsbGate_of d trivial fun _ _ h => gates_of_settles (settles_of_opens h)

theorem calls_openUsbGate : Calls Op.Gates (openUsbGate d) :=
  calls_openUsbGate_of d trivial fun _ _ h => gates_of_settles (settles_of_opens h)

theorem calls_deauthorizeUnmatchedUsb_of {S : Op → Prop}
    (hsweeps : d.config.usbAuthorization.enabled = true → ∀ op, op.Sweeps → S op) :
    Calls S (deauthorizeUnmatchedUsb d) := by
  unfold deauthorizeUnmatchedUsb
  split
  case isFalse => trivial
  case isTrue hpolicy =>
    have hS := hsweeps (Bool.and_eq_true_iff.1 hpolicy).1
    refine Program.calls_mono (S := Op.Sweeps) ?_ hS
    refine calls_bind (calls_request (by trivial)) fun devices => ?_
    refine calls_bind (calls_request (by trivial)) fun _ => ?_
    refine calls_withLock (by trivial) (by trivial) ?_
    refine calls_bind (calls_request (by trivial)) fun m => calls_forM fun device _ => ?_
    refine calls_ite (calls_bind (calls_request (by trivial)) fun value => ?_) (by trivial)
    exact calls_ite (calls_withContext _ (calls_request rfl)) (by trivial)

theorem calls_deauthorizeUnmatchedUsb : Calls Op.Sweeps (deauthorizeUnmatchedUsb d) :=
  calls_deauthorizeUnmatchedUsb_of d fun _ _ h => h

theorem calls_inOrder {α : Type} (map : Map α) {S : Op → Prop} (h : S (.order map.keys)) :
    Calls S (inOrder map) :=
  calls_bind (calls_request h) fun _ => trivial

theorem calls_releasePort (key : String) (device : UsbDevice) (binding : UsbPortBinding) :
    Calls (Op.Vanishes key device) (releasePort d binding) := by
  refine calls_bind (calls_require _ _) fun vm => ?_
  refine calls_bind (calls_request (by trivial)) fun generation => calls_ite ?_ (by trivial)
  refine calls_bind (calls_request (by trivial)) fun generation => calls_ite ?_ (by trivial)
  refine calls_bind (calls_request (by trivial)) fun live => ?_
  exact calls_ite (calls_request (by trivial)) (by trivial)

/-- What `forgetVanished` does under the lock. -/
def dropRecords (d : Daemon) (key : String) (device : UsbDevice) : Act Unit := do
  match device.deviceNode with
  | some node => update (.usbVmsRemove node)
  | none => pure ()
  update (.crosvmUsbPortsRemove key)
  saveState d

/-- What is left of `forgetVanished` once the port is given up. -/
def dropVanished (d : Daemon) (key : String) (device : UsbDevice) : Act Unit := do
  notify (.usbDisconnected device.deviceNode)
  withLock .state (dropRecords d key device)
  update (.pendingRemove device.persistentId)

theorem calls_forgetVanished (key : String) (device : UsbDevice) :
    Calls (Op.Vanishes key device) (forgetVanished d key device) := by
  have hrest : Calls (Op.Vanishes key device) (dropVanished d key device) := by
    unfold dropVanished dropRecords
    have hend : Calls (Op.Vanishes key device) (do
        update (.crosvmUsbPortsRemove key)
        saveState d) :=
      calls_bind (calls_request rfl) fun _ => calls_saveState (by trivial)
    refine calls_bind (calls_request (by trivial)) fun _ => ?_
    refine calls_bind (calls_withLock (by trivial) (by trivial) ?_) fun _ => ?_
    · cases hnode : device.deviceNode with
      | none => exact hend
      | some node => exact calls_bind (calls_request hnode) fun _ => hend
    · exact calls_request rfl
  refine calls_bind (calls_request (by trivial)) fun m => ?_
  cases m.persistent.crosvmUsbPorts.lookup key with
  | some binding => exact calls_bind (calls_releasePort d key device binding) fun _ => hrest
  | none => exact hrest

theorem calls_observeUsb (usb : Map UsbDevice) : Calls Op.ClearsUsb (observeUsb d usb) := by
  refine calls_withLock (by trivial) (by trivial) ?_
  refine calls_bind (calls_request (by trivial)) fun m => ?_
  refine calls_bind (calls_inOrder usb (by trivial)) fun present => ?_
  refine calls_bind (calls_forM fun x _ => ?_) fun _ => ?_
  · exact calls_ite (calls_request (by trivial)) (by trivial)
  refine calls_bind (calls_inOrder _ (by trivial)) fun seen => ?_
  refine calls_bind (calls_forM fun x _ => ?_) fun _ => calls_request (by trivial)
  exact calls_ite (Program.calls_mono (calls_forgetVanished d x.1 x.2)
    fun _ => clearsUsb_of_vanishes) (by trivial)

theorem clears_of_clearsUsb {op : Op} (h : op.ClearsUsb) : op.Clears := by
  cases op with
  | update u => cases u <;> first | exact h | exact h.elim
  | enter entry => exact h.elim
  | _ => exact h

theorem calls_observePci (pci : Map PciDevice) : Calls Op.Clears (observePci pci) := by
  refine calls_withLock (by trivial) (by trivial) ?_
  refine calls_bind (calls_request (by trivial)) fun m => ?_
  refine calls_bind (calls_inOrder pci (by trivial)) fun present => ?_
  refine calls_bind (calls_forM fun x _ => ?_) fun _ => ?_
  · exact calls_ite (calls_request (by trivial)) (by trivial)
  refine calls_bind (calls_inOrder _ (by trivial)) fun seen => ?_
  refine calls_bind (calls_forM fun x _ => ?_) fun _ => calls_request (by trivial)
  refine calls_ite (calls_bind (calls_request (by trivial)) fun _ => ?_) (by trivial)
  exact calls_request (by trivial)

theorem calls_observe : Calls Op.Clears (observe d) := by
  refine calls_bind (calls_request (by trivial)) fun _ => ?_
  refine calls_bind (calls_bind (calls_request (by trivial)) fun _ => trivial) fun usb => ?_
  refine calls_bind (calls_pciDevices trivial fun _ => trivial) fun pci => ?_
  refine calls_bind (Program.calls_mono (calls_observeUsb d _) fun _ => clears_of_clearsUsb) ?_
  exact fun _ => calls_observePci _

theorem calls_bindVfio_binds (address : String) : Calls Op.Binds (bindVfio address) := by
  have hrest : Calls Op.Binds (do
      Fallible.request (.pciOverride address) id
      Fallible.request (.pciProbe address) id : Act Unit) :=
    calls_bind (calls_request (by trivial)) fun _ => calls_request (by trivial)
  refine calls_bind (calls_request (by trivial)) fun value => calls_ite ?_ (by trivial)
  exact calls_ite (calls_bind (calls_request (by trivial)) fun _ => hrest) hrest

theorem calls_bindVfio (device : PciDevice) (address : String) :
    Calls (Op.AssignsPci device) (bindVfio address) := by
  refine Program.calls_mono (calls_bindVfio_binds address) fun op hop => ?_
  cases op <;> first | exact hop | trivial

theorem calls_addMissing (device : PciDevice) (vm : Vm) (live attach : List String)
    (changed : Bool) : Calls (Op.AssignsPci device) (addMissing vm live attach changed) := by
  induction attach generalizing changed with
  | nil => trivial
  | cons address rest ih =>
      refine calls_ite (ih changed) ?_
      exact calls_bind (calls_withContext _ (calls_request (by trivial))) fun _ => ih true

theorem calls_attachQuarantined (device : PciDevice) (vm : Vm) (vmName : String)
    (live attach : List String) :
    Calls (Op.AssignsPci device) (attachQuarantined d device vm vmName live attach) := by
  refine calls_bind (calls_request (by trivial)) fun m => ?_
  refine calls_bind (calls_addMissing device vm live _ _) fun changed => ?_
  refine calls_bind (calls_withLock (by trivial) (by trivial) ?_) fun _ => ?_
  · refine calls_bind (calls_forM fun address _ => calls_request (by trivial)) fun _ => ?_
    exact calls_setDisconnected ⟨rfl, rfl⟩ (by trivial)
  · exact calls_ite (calls_request (by trivial)) (by trivial)

theorem calls_attachPciEntered (device : PciDevice) (rule : RuleMatch)
    (requestedVm : Option String) : Calls (Op.AssignsPci device) (do
      let target ← require "PCI rule has no targetVm" rule.targetVm
      let vmName := requestedVm.getD target
      if vmName ≠ target then
        throw ["VM " ++ vmName ++ " is not allowed for PCI device " ++ device.address]
      let vm ← d.vmNamed vmName
      let live ← withContext "VFIO hotplug preflight failed" (vfioList vm.socket)
      let group ← iommuGroupAt device.address
      if rule.iommuSkipIfShared && 1 < group.length then
        throw ["IOMMU group for " ++ device.address ++ " is shared"]
      (quarantine device group).forM bindVfio
      attachQuarantined d device vm vmName live (passthrough device rule group)) := by
  refine calls_bind (calls_require _ _) fun target => calls_ite (by trivial) ?_
  refine calls_bind (calls_require _ _) fun vm => ?_
  refine calls_bind (calls_withContext _ (calls_request (by trivial))) fun live => ?_
  refine calls_bind (calls_request (by trivial)) fun group => calls_ite (by trivial) ?_
  refine calls_bind (calls_forM fun address _ => calls_bindVfio device address) fun _ => ?_
  exact calls_attachQuarantined d device vm _ live _

theorem calls_attachOnePci (device : PciDevice) (rule : RuleMatch) (requestedVm : Option String) :
    Calls (Op.AttachesPci device) (attachOnePci d device rule requestedVm) := by
  refine calls_bind (calls_request rfl) fun _ => ?_
  refine Program.calls_mono (calls_attachPciEntered d device rule requestedVm) fun op hop => ?_
  cases op <;> first | exact hop | exact hop.elim

theorem calls_detachOnePci (device : PciDevice) (rule : RuleMatch) (permanent : Bool) :
    Calls (Op.DetachesPci device permanent) (detachOnePci d device rule permanent) := by
  have hend : Calls (Op.DetachesPci device permanent)
      (withLock .state (setDisconnected d device.persistentId permanent)) :=
    calls_withLock (by trivial) (by trivial) (calls_setDisconnected ⟨rfl, rfl⟩ (by trivial))
  refine calls_bind (calls_request ⟨rfl, rfl⟩) fun _ => ?_
  refine calls_bind (calls_request (by trivial)) fun m => ?_
  cases m.pciVms.lookup device.address <|> rule.targetVm with
  | none => exact hend
  | some vmName =>
      refine calls_bind ?_ fun _ => hend
      refine calls_bind (calls_require _ _) fun vm => ?_
      refine calls_bind (calls_request (by trivial)) fun group => ?_
      refine calls_bind ?_ fun _ => calls_bind (calls_withLock (by trivial) (by trivial)
        (calls_forM fun address _ => calls_request (by trivial))) fun _ =>
          calls_request (by trivial)
      refine calls_bind (calls_request (by trivial)) fun generation => calls_ite ?_ (by trivial)
      exact calls_forM fun address _ => calls_request (by trivial)

end Footprints

/-! ## What requests look at -/

def World.usbRouted (w : World) (d : Daemon) : List (UsbDevice × RuleMatch) :=
  d.usbRouted w.usbDevices

/-- The routed devices of a PCI scan, less the shared groups a rule leaves alone. -/
def Daemon.pciRouted (d : Daemon) (entries : List PciEntry) (devices : List PciDevice) :
    List (PciDevice × RuleMatch) :=
  devices.filterMap fun device => (d.pciRule device).bind fun rule =>
    if rule.iommuSkipIfShared && 1 < (iommuGroup entries device.address).length then none
    else some (device, rule)

def World.pciRouted (w : World) (d : Daemon) : List (PciDevice × RuleMatch) :=
  (d.pciRouted w.pci (scanPci w.pci)).insertionSort pciBefore

section Looks

variable {allowed : World → Op → Choice → Prop} {G : World → Op → Prop} {w : World} {d : Daemon}

theorem wp_usbDevices (hscan : G w .scanUsb) :
    (usbDevices d).wp (machine allowed) G (fun r w' => w' = w ∧
      ∀ xs, r = .ok xs → xs = w.usbRouted d) w := by
  rw [usbDevices, wp_bind, scanUsbRoot, wp_operation]
  refine ⟨hscan, fun c _ => ?_⟩
  cases hfail : c.fail
  · simp only [react, Choice.result, hfail, Bool.false_eq_true, if_false, id, andThen_ok]
    exact ⟨rfl, fun xs hxs => (Except.ok.inj hxs).symm⟩
  · simp [react, Choice.result, hfail]

theorem wp_selectedUsb {selector : Selector} (hscan : G w .scanUsb) :
    (selectedUsb d selector).wp (machine allowed) G (fun r w' => w' = w ∧
      ∀ xs, r = .ok xs → xs = (w.usbRouted d).filter fun x => selectsUsb selector x.1 x.2) w := by
  rw [selectedUsb, wp_bind]
  refine wp_imp (wp_usbDevices hscan) ?_
  rintro r w' ⟨rfl, hr⟩
  cases r with
  | error e => exact ⟨rfl, fun xs hxs => by cases hxs⟩
  | ok devices =>
      obtain rfl := hr devices rfl
      rw [andThen_ok]
      dsimp only
      split
      · exact ⟨rfl, fun xs hxs => by cases hxs⟩
      · exact ⟨rfl, fun xs hxs => (Except.ok.inj hxs).symm⟩

theorem wp_pciRouted (hgroup : ∀ address, G w (.iommuGroup address)) (devices : List PciDevice) :
    (pciRouted d devices).wp (machine allowed) G (fun r w' => w' = w ∧
      ∀ xs, r = .ok xs → xs = d.pciRouted w.pci devices) w := by
  induction devices with
  | nil => exact ⟨rfl, fun xs hxs => (Except.ok.inj hxs).symm⟩
  | cons device rest ih =>
      have hkeep : ∀ rule : RuleMatch, wp (machine allowed) G (do
          return (device, rule) :: (← pciRouted d rest)) (fun r w' => w' = w ∧
            ∀ xs, r = .ok xs → xs = (device, rule) :: d.pciRouted w.pci rest) w := by
        intro rule
        rw [wp_bind]
        refine wp_imp ih ?_
        rintro r w' ⟨rfl, hr⟩
        cases r with
        | error e => exact ⟨rfl, fun xs hxs => by cases hxs⟩
        | ok ys =>
            refine ⟨rfl, fun xs hxs => ?_⟩
            rw [← Except.ok.inj hxs, hr ys rfl]
      unfold pciRouted Daemon.pciRouted
      cases hrule : d.pciRule device with
      | none => simpa [hrule, Daemon.pciRouted] using ih
      | some rule =>
          dsimp only
          by_cases hskip : rule.iommuSkipIfShared = true
          · rw [if_pos hskip, wp_bind, iommuGroupAt, wp_operation]
            refine ⟨hgroup _, fun c _ => ?_⟩
            cases hfail : c.fail
            · simp only [react, Choice.result, hfail, Bool.false_eq_true, if_false, id, andThen_ok]
              split
              case isTrue hshared =>
                simpa [hrule, hskip, hshared, Daemon.pciRouted] using ih
              case isFalse hshared =>
                simpa [hrule, hskip, hshared, Daemon.pciRouted] using hkeep rule
            · simp [react, Choice.result, hfail]
          · rw [if_neg hskip]
            simpa [hrule, hskip, Daemon.pciRouted] using hkeep rule

theorem wp_pciDevices (hscan : G w .scanPci) (hgroup : ∀ address, G w (.iommuGroup address)) :
    (pciDevices d).wp (machine allowed) G (fun r w' => w' = w ∧
      ∀ xs, r = .ok xs → xs = w.pciRouted d) w := by
  rw [pciDevices, wp_bind, scanPciRoot, wp_operation]
  refine ⟨hscan, fun c _ => ?_⟩
  cases hfail : c.fail
  · simp only [react, Choice.result, hfail, Bool.false_eq_true, if_false, id, andThen_ok]
    rw [wp_bind]
    refine wp_imp (wp_pciRouted hgroup _) ?_
    rintro r w' ⟨rfl, hr⟩
    cases r with
    | error e => exact ⟨rfl, fun xs hxs => by cases hxs⟩
    | ok ys =>
        refine ⟨rfl, fun xs hxs => ?_⟩
        rw [← Except.ok.inj hxs, hr ys rfl]
        rfl
  · simp [react, Choice.result, hfail]

theorem wp_selectedPci {selector : Selector} (hscan : G w .scanPci)
    (hgroup : ∀ address, G w (.iommuGroup address)) :
    (selectedPci d selector).wp (machine allowed) G (fun r w' => w' = w ∧
      ∀ xs, r = .ok xs → xs = (w.pciRouted d).filter fun x => selectsPci selector x.1 x.2) w := by
  rw [selectedPci, wp_bind]
  refine wp_imp (wp_pciDevices hscan hgroup) ?_
  rintro r w' ⟨rfl, hr⟩
  cases r with
  | error e => exact ⟨rfl, fun xs hxs => by cases hxs⟩
  | ok devices =>
      obtain rfl := hr devices rfl
      rw [andThen_ok]
      dsimp only
      split
      · exact ⟨rfl, fun xs hxs => by cases hxs⟩
      · exact ⟨rfl, fun xs hxs => (Except.ok.inj hxs).symm⟩

end Looks

/-- What an operation calls outside its parts. -/
def Op.Glue : Op → Prop
  | .update (.deferred _) | .enter (.resumeUsb _) => True
  | .notify _ => False
  | op => op.Observes

theorem usb_of_glue {op : Op} (h : op.Glue) : op.Usb := by
  cases op with
  | update u => cases u <;> trivial
  | enter entry => cases entry <;> trivial
  | _ => trivial

theorem calls_resumeUsbDevice {d : Daemon} {S : Op → Prop} {device : UsbDevice} {rule : RuleMatch}
    {vm : Option String} {failures : List String}
    (hread : S (.read .state)) (hsocket : ∀ socket, S (.socketGeneration socket))
    (hdeferred : S (.update (.deferred true)))
    (hattach : ∀ target, Calls S (attachOneUsb d device rule target)) :
    Calls S (resumeUsbDevice d vm failures device rule) := by
  have hone : ∀ target, Calls S (do
      if inScope vm target then
        collectDeferring d device.sysName target (attachOneUsb d device rule target) failures
      else return failures) := fun target =>
    calls_ite (calls_collectDeferring hsocket hdeferred (hattach target) failures) trivial
  refine calls_bind (calls_request hread) fun m => calls_ite (by trivial) ?_
  dsimp only
  split
  · exact hone _
  · refine calls_bind (calls_request hread) fun m => ?_
    exact hone (m.persistent.selectedVms.lookup device.persistentId)

theorem calls_resumePci {d : Daemon} {S : Op → Prop}
    (hglue : ∀ op : Op, op.Glue → (∀ devices, op ≠ .enter (.resumeUsb devices)) → S op)
    (hattach : ∀ device op, op.AttachesPci device → S op) (vm : Option String) :
    Calls S (resumePci d vm) := by
  refine calls_withLock (hglue _ trivial (by simp)) (hglue _ trivial (by simp)) ?_
  have hdevices : Calls S (pciDevices d) :=
    calls_pciDevices (hglue _ trivial (by simp)) fun address =>
      hglue (.iommuGroup address) trivial (by simp)
  refine calls_bind hdevices fun devices => ?_
  refine calls_bind (calls_foldlM (fun failures x => ?_) []) fun failures =>
    calls_aggregate failures
  have hone : Calls S (attachOnePci d x.1 x.2 x.2.targetVm) :=
    Program.calls_mono (calls_attachOnePci d x.1 x.2 x.2.targetVm) (hattach x.1)
  refine calls_bind (calls_request (hglue _ trivial (by simp))) fun m => calls_ite trivial ?_
  exact calls_ite (calls_collectDeferring (fun socket =>
    hglue (.socketGeneration socket) trivial (by simp)) (hglue _ trivial (by simp)) hone failures)
    trivial

section Contexts

variable {allowed : World → Op → Choice → Prop} {G : World → Op → Prop} {I : World → Prop}
  {d : Daemon}

theorem wp_request {α : Type} {selected : Act (List α)} {xs : List α} {name : α → String}
    {f : α → Act Unit} {w : World} (hglue : ∀ op : Op, op.Glue → Harmless allowed G I op)
    (hw : I w) (hselected : selected.wp (machine allowed) G (fun r w' => w' = w ∧
      ∀ ys, r = .ok ys → ys = xs) w)
    (hf : ∀ x ∈ xs, Keeps (machine allowed) G I (f x)) :
    wp (machine allowed) G (withLock .operation do
      let devices ← selected
      let failures ← devices.foldlM (fun failures x => collect (name x) (f x) failures) []
      aggregate failures) (fun _ => I) w := by
  rw [wp_withLock]
  refine ⟨(hglue (.lock .operation) trivial w hw).1, fun _ _ => ?_⟩
  have hunlock : ∀ w', I w' → G w' (.unlock .operation) ∧
      ∀ c, allowed w' (.unlock .operation) c → I w' := fun w' hw' =>
    hglue (.unlock .operation) trivial w' hw'
  rw [wp_bind]
  refine wp_imp hselected ?_
  rintro r w' ⟨rfl, hr⟩
  cases r with
  | error e => exact hunlock w' hw
  | ok ys =>
      obtain rfl := hr ys rfl
      rw [andThen_ok, wp_bind]
      refine wp_imp (wp_foldlM (I := I) (fun failures x hx w hw => ?_) [] hw) fun r w'' hw'' => ?_
      · exact keeps_collect (hf x hx) w hw
      · cases r with
        | error e => exact hunlock w'' hw''
        | ok failures =>
            rw [andThen_ok]
            have haggregate : Keeps (machine allowed) G I (aggregate failures) :=
              keeps_of_harmless (calls_aggregate failures)
            exact wp_imp (haggregate w'' hw'') fun _ => hunlock

variable (hglue : ∀ op : Op, op.Glue → Harmless allowed G I op)

include hglue

theorem wp_attachUsb_of {selector : Selector} {vm : Option String} {w : World} (hw : I w)
    (hattach : ∀ x ∈ w.usbRouted d, selectsUsb selector x.1 x.2 = true →
      Keeps (machine allowed) G I (attachOneUsb d x.1 x.2 vm)) :
    (attachUsb d selector vm).wp (machine allowed) G (fun _ => I) w :=
  wp_request hglue hw (wp_selectedUsb (hglue .scanUsb trivial w hw).1) fun x hx =>
    hattach x (List.mem_filter.1 hx).1 (List.mem_filter.1 hx).2

theorem wp_detachUsb_of {selector : Selector} {permanent : Bool} {w : World} (hw : I w)
    (hdetach : ∀ x ∈ w.usbRouted d, selectsUsb selector x.1 x.2 = true →
      Keeps (machine allowed) G I (detachOneUsb d x.1 permanent)) :
    (detachUsb d selector permanent).wp (machine allowed) G (fun _ => I) w :=
  wp_request hglue hw (wp_selectedUsb (hglue .scanUsb trivial w hw).1) fun x hx =>
    hdetach x (List.mem_filter.1 hx).1 (List.mem_filter.1 hx).2

theorem wp_attachPci_of {selector : Selector} {vm : Option String} {w : World} (hw : I w)
    (hattach : ∀ x ∈ w.pciRouted d, selectsPci selector x.1 x.2 = true →
      Keeps (machine allowed) G I (attachOnePci d x.1 x.2 vm)) :
    (attachPci d selector vm).wp (machine allowed) G (fun _ => I) w :=
  wp_request hglue hw (wp_selectedPci (hglue .scanPci trivial w hw).1
    fun address => (hglue (.iommuGroup address) trivial w hw).1) fun x hx =>
    hattach x (List.mem_filter.1 hx).1 (List.mem_filter.1 hx).2

theorem wp_detachPci_of {selector : Selector} {permanent : Bool} {w : World} (hw : I w)
    (hdetach : ∀ x ∈ w.pciRouted d, selectsPci selector x.1 x.2 = true →
      Keeps (machine allowed) G I (detachOnePci d x.1 x.2 permanent)) :
    (detachPci d selector permanent).wp (machine allowed) G (fun _ => I) w :=
  wp_request hglue hw (wp_selectedPci (hglue .scanPci trivial w hw).1
    fun address => (hglue (.iommuGroup address) trivial w hw).1) fun x hx =>
    hdetach x (List.mem_filter.1 hx).1 (List.mem_filter.1 hx).2

/-- A suspend detaches what is recorded for a VM it covers. -/
theorem suspendUsb_keeps_of {vm : Option String} (hdetach : ∀ device w, I w →
      (w.memory.usbVms.lookup (device.deviceNode.getD "")).any (covers vm) = true →
      (detachOneUsb d device false).wp (machine allowed) G (fun _ => I) w) :
    Keeps (machine allowed) G I (suspendUsb d vm) := by
  refine keeps_withLock (hglue _ trivial) (hglue _ trivial) ?_
  refine keeps_bind (keeps_of_harmless (calls_usbDevices (hglue _ trivial))) fun devices => ?_
  refine keeps_bind (keeps_foldlM (fun failures x => ?_) []) fun failures => ?_
  · intro w hw
    change (suspendUsbDevice d vm failures x.1).wp (machine allowed) G (fun _ => I) w
    rw [suspendUsbDevice, wp_bind, readMemory, wp_operation]
    refine ⟨(hglue (.read .state) trivial w hw).1, fun _ _ => ?_⟩
    rw [react, andThen_ok]
    split
    case isTrue hcovered =>
      rw [collect, wp_bind, wp_attempt]
      refine wp_imp (hdetach x.1 w hw hcovered) fun r w' hw' => ?_
      cases r with
      | ok _ => exact hw'
      | error e => exact hw'
    case isFalse => exact hw
  · exact keeps_of_harmless (calls_aggregate failures)

theorem suspendPci_keeps_of {vm : Option String} (hdetach : ∀ device rule w, I w →
      (w.memory.pciVms.lookup device.address).any (covers vm) = true →
      (detachOnePci d device rule false).wp (machine allowed) G (fun _ => I) w) :
    Keeps (machine allowed) G I (suspendPci d vm) := by
  refine keeps_withLock (hglue _ trivial) (hglue _ trivial) ?_
  refine keeps_bind (keeps_of_harmless (calls_pciDevices (hglue _ trivial)
    fun _ => hglue _ trivial)) fun devices => ?_
  refine keeps_bind (keeps_foldlM (fun failures x => ?_) []) fun failures => ?_
  · intro w hw
    change (suspendPciDevice d vm failures x.1 x.2).wp (machine allowed) G (fun _ => I) w
    rw [suspendPciDevice, wp_bind, readMemory, wp_operation]
    refine ⟨(hglue (.read .state) trivial w hw).1, fun _ _ => ?_⟩
    rw [react, andThen_ok]
    split
    case isTrue hcovered =>
      rw [collect, wp_bind, wp_attempt]
      refine wp_imp (hdetach x.1 x.2 w hw hcovered) fun r w' hw' => ?_
      cases r with
      | ok _ => exact hw'
      | error e => exact hw'
    case isFalse => exact hw
  · exact keeps_of_harmless (calls_aggregate failures)

theorem wp_collectDeferring_of {name : String} {target : Option String} {p : Act Unit}
    {failures : List String} {w : World} (hp : p.wp (machine allowed) G (fun _ => I) w) :
    (collectDeferring d name target p failures).wp (machine allowed) G (fun _ => I) w := by
  rw [collectDeferring, wp_bind, wp_attempt]
  refine wp_imp hp fun r w' hw' => ?_
  cases r with
  | ok _ => exact hw'
  | error e =>
      refine keeps_bind (I := I) (p := vmStopped d target) ?_ (fun stopped => ?_) w' hw'
      · unfold vmStopped
        split
        · exact keeps_pure _
        · exact keeps_bind (keeps_request (hglue _ (by trivial)) _) fun _ => keeps_pure _
      · refine keeps_ite ?_ (keeps_pure _)
        exact keeps_bind (keeps_request (hglue _ (by trivial)) _) fun _ => keeps_pure _

/-- A resume attaches what it scanned and is not disconnected, to a VM in its scope. -/
theorem wp_resumeUsb_of {vm : Option String} {w₀ : World} (hw₀ : I w₀)
    (hattach : ∀ x ∈ w₀.usbRouted d, ∀ w, I w →
      w.memory.persistent.disconnected x.1.persistentId = false →
      inScope vm (resumeTarget x.2 w.memory.persistent.selectedVms x.1.persistentId) = true →
      (attachOneUsb d x.1 x.2 (resumeTarget x.2 w.memory.persistent.selectedVms
        x.1.persistentId)).wp (machine allowed) G (fun _ => I) w) :
    (resumeUsb d vm).wp (machine allowed) G (fun _ => I) w₀ := by
  have hround : ∀ failures, ∀ x ∈ w₀.usbRouted d, ∀ w, I w →
      (resumeUsbDevice d vm failures x.1 x.2).wp (machine allowed) G (fun _ => I) w := by
    intro failures x hx w hw
    have hread := (hglue (.read .state) trivial w hw).1
    rw [resumeUsbDevice, wp_bind, readMemory, wp_operation]
    refine ⟨hread, fun _ _ => ?_⟩
    rw [react, andThen_ok]
    split
    case isTrue => exact hw
    case isFalse hconnected =>
      have hresumed : ∀ target, target = resumeTarget x.2 w.memory.persistent.selectedVms
          x.1.persistentId → wp (machine allowed) G (if inScope vm target then
            collectDeferring d x.1.sysName target (attachOneUsb d x.1 x.2 target) failures
            else pure failures) (fun _ => I) w := by
        rintro target rfl
        split
        case isTrue hscope =>
          exact wp_collectDeferring_of hglue
            (hattach x hx w hw (Bool.eq_false_iff.2 hconnected) hscope)
        case isFalse => exact hw
      cases htarget : x.2.targetVm with
      | some target => exact hresumed _ (by rw [resumeTarget, htarget]; rfl)
      | none =>
          dsimp only
          rw [wp_bind, wp_operation]
          refine ⟨hread, fun _ _ => ?_⟩
          exact hresumed _ (by rw [resumeTarget, htarget]; rfl)
  have hunlock : ∀ w, I w → G w (.unlock .operation) ∧
      ∀ c, allowed w (.unlock .operation) c → I w := fun w hw =>
    hglue (.unlock .operation) trivial w hw
  rw [resumeUsb, wp_withLock]
  refine ⟨(hglue (.lock .operation) trivial w₀ hw₀).1, fun _ _ => ?_⟩
  rw [wp_bind]
  refine wp_imp (wp_usbDevices (hglue .scanUsb trivial w₀ hw₀).1) ?_
  rintro r w₁ ⟨rfl, hscan⟩
  cases r with
  | error e => exact hunlock w₁ hw₀
  | ok devices =>
      obtain rfl := hscan devices rfl
      rw [andThen_ok, wp_bind]
      have henter : Keeps (machine allowed) G I (enter (.resumeUsb (w₁.usbRouted d))) :=
        keeps_request (hglue (.enter (.resumeUsb (w₁.usbRouted d))) trivial) _
      refine wp_imp (henter w₁ hw₀) fun r w₂ hw₂ => ?_
      cases r with
      | error e => exact hunlock w₂ hw₂
      | ok _ =>
          rw [andThen_ok, wp_bind]
          refine wp_imp (wp_foldlM (I := I) hround [] hw₂) fun r w₃ hw₃ => ?_
          cases r with
          | error e => exact hunlock w₃ hw₃
          | ok failures =>
              have haggregate : Keeps (machine allowed) G I (aggregate failures) :=
                keeps_of_harmless (calls_aggregate failures)
              exact wp_imp (haggregate w₃ hw₃) fun _ => hunlock

theorem resumeUsb_keeps_of {vm : Option String} (hattach : ∀ device rule w, I w →
      w.memory.persistent.disconnected device.persistentId = false →
      inScope vm (resumeTarget rule w.memory.persistent.selectedVms device.persistentId) = true →
      (attachOneUsb d device rule (resumeTarget rule w.memory.persistent.selectedVms
        device.persistentId)).wp (machine allowed) G (fun _ => I) w) :
    Keeps (machine allowed) G I (resumeUsb d vm) := fun _ hw₀ =>
  wp_resumeUsb_of hglue hw₀ fun x _ w hw => hattach x.1 x.2 w hw

theorem wp_resumePci_of {vm : Option String} {w₀ : World} (hw₀ : I w₀)
    (hattach : ∀ x ∈ w₀.pciRouted d, ∀ w, I w →
      w.memory.persistent.disconnected x.1.persistentId = false →
      x.2.targetVm.any (covers vm) = true →
      (attachOnePci d x.1 x.2 x.2.targetVm).wp (machine allowed) G (fun _ => I) w) :
    (resumePci d vm).wp (machine allowed) G (fun _ => I) w₀ := by
  have hround : ∀ failures, ∀ x ∈ w₀.pciRouted d, ∀ w, I w →
      (resumePciDevice d vm failures x.1 x.2).wp (machine allowed) G (fun _ => I) w := by
    intro failures x hx w hw
    rw [resumePciDevice, wp_bind, readMemory, wp_operation]
    refine ⟨(hglue (.read .state) trivial w hw).1, fun _ _ => ?_⟩
    rw [react, andThen_ok]
    split
    case isTrue => exact hw
    case isFalse hconnected =>
      split
      case isTrue hscope =>
        exact wp_collectDeferring_of hglue
          (hattach x hx w hw (Bool.eq_false_iff.2 hconnected) hscope)
      case isFalse => exact hw
  have hunlock : ∀ w, I w → G w (.unlock .operation) ∧
      ∀ c, allowed w (.unlock .operation) c → I w := fun w hw =>
    hglue (.unlock .operation) trivial w hw
  rw [resumePci, wp_withLock]
  refine ⟨(hglue (.lock .operation) trivial w₀ hw₀).1, fun _ _ => ?_⟩
  rw [wp_bind]
  refine wp_imp (wp_pciDevices (hglue .scanPci trivial w₀ hw₀).1
    fun address => (hglue (.iommuGroup address) trivial w₀ hw₀).1) ?_
  rintro r w₁ ⟨rfl, hscan⟩
  cases r with
  | error e => exact hunlock w₁ hw₀
  | ok devices =>
      obtain rfl := hscan devices rfl
      rw [andThen_ok, wp_bind]
      refine wp_imp (wp_foldlM (I := I) hround [] hw₀) fun r w₂ hw₂ => ?_
      cases r with
      | error e => exact hunlock w₂ hw₂
      | ok failures =>
          have haggregate : Keeps (machine allowed) G I (aggregate failures) :=
            keeps_of_harmless (calls_aggregate failures)
          exact wp_imp (haggregate w₂ hw₂) fun _ => hunlock

theorem resumePci_keeps_of {vm : Option String} (hattach : ∀ device rule w, I w →
      w.memory.persistent.disconnected device.persistentId = false →
      rule.targetVm.any (covers vm) = true →
      (attachOnePci d device rule rule.targetVm).wp (machine allowed) G (fun _ => I) w) :
    Keeps (machine allowed) G I (resumePci d vm) := fun _ hw₀ =>
  wp_resumePci_of hglue hw₀ fun x _ w hw => hattach x.1 x.2 w hw

theorem reconcile_keeps_of (hgate : Keeps (machine allowed) G I (applyUsbGate d))
    (hobserve : Keeps (machine allowed) G I (observe d))
    (hpci : Keeps (machine allowed) G I (resumePci d none))
    (husb : Keeps (machine allowed) G I (resumeUsb d none))
    (hsweep : Keeps (machine allowed) G I (deauthorizeUnmatchedUsb d)) :
    Keeps (machine allowed) G I (reconcile d) := by
  refine keeps_bind (keeps_request (hglue _ (by trivial)) _) fun _ => ?_
  refine keeps_bind (keeps_warnOnError hgate) fun _ => ?_
  refine keeps_bind hobserve fun _ => ?_
  refine keeps_bind (keeps_collect hpci) fun _ => ?_
  refine keeps_bind (keeps_collect husb) fun _ => ?_
  refine keeps_bind (keeps_collect hsweep) fun failures => ?_
  exact keeps_of_harmless (calls_aggregate failures)

end Contexts

/-- The parts of one daemon's operations keep an invariant. -/
structure PartsKeep (allowed : World → Op → Choice → Prop) (G : World → Op → Prop)
    (I : World → Prop) (d : Daemon) : Prop where
  glue : ∀ op : Op, op.Glue → Harmless allowed G I op
  attachUsb : ∀ device rule requestedVm,
    Keeps (machine allowed) G I (attachOneUsb d device rule requestedVm)
  detachUsb : ∀ device permanent, Keeps (machine allowed) G I (detachOneUsb d device permanent)
  attachPci : ∀ device rule requestedVm,
    Keeps (machine allowed) G I (attachOnePci d device rule requestedVm)
  detachPci : ∀ device rule permanent,
    Keeps (machine allowed) G I (detachOnePci d device rule permanent)
  enable : Keeps (machine allowed) G I (enableUsbAuthorization d)
  close : Keeps (machine allowed) G I (closeUsbGate d)
  open_ : Keeps (machine allowed) G I (openUsbGate d)
  gate : Keeps (machine allowed) G I (applyUsbGate d)
  observe : Keeps (machine allowed) G I (observe d)
  sweep : Keeps (machine allowed) G I (deauthorizeUnmatchedUsb d)

section Rule

variable {allowed : World → Op → Choice → Prop} {G : World → Op → Prop} {I : World → Prop}
  {d : Daemon}

namespace PartsKeep

/-- Of what the PCI devices come by, only the PCI parts and `observe` decide. -/
theorem of_pci (husb : ∀ op : Op, op.Usb → Harmless allowed G I op)
    (hattach : ∀ device rule requestedVm,
      Keeps (machine allowed) G I (attachOnePci d device rule requestedVm))
    (hdetach : ∀ device rule permanent,
      Keeps (machine allowed) G I (detachOnePci d device rule permanent))
    (hobserve : Keeps (machine allowed) G I (GhafDeviceManager.observe d)) :
    PartsKeep allowed G I d where
  glue op hop := husb op (usb_of_glue hop)
  attachUsb device rule vm := keeps_of_harmless (calls_attachOneUsb d device rule vm
    (husb _ trivial) fun op hop => husb op (usb_of_assigns hop))
  detachUsb device permanent := keeps_of_harmless (Program.calls_mono
    (calls_detachOneUsb_detaches d device permanent) fun op hop => husb op (usb_of_detaches hop))
  attachPci := hattach
  detachPci := hdetach
  enable := keeps_of_harmless (Program.calls_mono (calls_enableUsbAuthorization d)
    fun op hop => husb op (usb_of_gates hop))
  close := keeps_of_harmless (Program.calls_mono (calls_closeUsbGate d)
    fun op hop => husb op (usb_of_gates hop))
  open_ := keeps_of_harmless (Program.calls_mono (calls_openUsbGate d)
    fun op hop => husb op (usb_of_gates hop))
  gate := keeps_of_harmless (Program.calls_mono (calls_applyUsbGate d)
    fun op hop => husb op (usb_of_gates hop))
  observe := hobserve
  sweep := keeps_of_harmless (Program.calls_mono (calls_deauthorizeUnmatchedUsb d)
    fun op hop => husb op (usb_of_sweeps hop))

theorem of_ops (hglue : ∀ op : Op, op.Glue → Harmless allowed G I op)
    (hgates : ∀ op : Op, op.Gates → Harmless allowed G I op)
    (hsweeps : ∀ op : Op, op.Sweeps → Harmless allowed G I op)
    (hclears : ∀ op : Op, op.Clears → Harmless allowed G I op)
    (hpci : ∀ op : Op, op.Pci → Harmless allowed G I op)
    (hattach : ∀ device rule requestedVm,
      Keeps (machine allowed) G I (attachOneUsb d device rule requestedVm))
    (hdetach : ∀ device permanent, Keeps (machine allowed) G I (detachOneUsb d device permanent)) :
    PartsKeep allowed G I d where
  glue := hglue
  attachUsb := hattach
  detachUsb := hdetach
  attachPci device rule vm :=
    keeps_of_harmless (Program.calls_mono (calls_attachOnePci d device rule vm)
      fun op hop => hpci op ⟨device, .inl hop⟩)
  detachPci device rule permanent :=
    keeps_of_harmless (Program.calls_mono (calls_detachOnePci d device rule permanent)
      fun op hop => hpci op ⟨device, .inr ⟨permanent, hop⟩⟩)
  enable := keeps_of_harmless (Program.calls_mono (calls_enableUsbAuthorization d) hgates)
  close := keeps_of_harmless (Program.calls_mono (calls_closeUsbGate d) hgates)
  open_ := keeps_of_harmless (Program.calls_mono (calls_openUsbGate d) hgates)
  gate := keeps_of_harmless (Program.calls_mono (calls_applyUsbGate d) hgates)
  observe := keeps_of_harmless (Program.calls_mono (calls_observe d) hclears)
  sweep := keeps_of_harmless (Program.calls_mono (calls_deauthorizeUnmatchedUsb d) hsweeps)

variable (h : PartsKeep allowed G I d)

include h

theorem attachUsb_keeps (selector : Selector) (vm : Option String) :
    Keeps (machine allowed) G I (GhafDeviceManager.attachUsb d selector vm) := fun _ hw =>
  wp_attachUsb_of h.glue hw fun x _ _ => h.attachUsb x.1 x.2 vm

theorem detachUsb_keeps (selector : Selector) (permanent : Bool) :
    Keeps (machine allowed) G I (GhafDeviceManager.detachUsb d selector permanent) := fun _ hw =>
  wp_detachUsb_of h.glue hw fun x _ _ => h.detachUsb x.1 permanent

theorem attachPci_keeps (selector : Selector) (vm : Option String) :
    Keeps (machine allowed) G I (GhafDeviceManager.attachPci d selector vm) := fun _ hw =>
  wp_attachPci_of h.glue hw fun x _ _ => h.attachPci x.1 x.2 vm

theorem detachPci_keeps (selector : Selector) (permanent : Bool) :
    Keeps (machine allowed) G I (GhafDeviceManager.detachPci d selector permanent) := fun _ hw =>
  wp_detachPci_of h.glue hw fun x _ _ => h.detachPci x.1 x.2 permanent

theorem suspendUsb_keeps (vm : Option String) :
    Keeps (machine allowed) G I (GhafDeviceManager.suspendUsb d vm) :=
  suspendUsb_keeps_of h.glue fun device w hw _ => h.detachUsb device false w hw

theorem suspendPci_keeps (vm : Option String) :
    Keeps (machine allowed) G I (GhafDeviceManager.suspendPci d vm) :=
  suspendPci_keeps_of h.glue fun device rule w hw _ => h.detachPci device rule false w hw

theorem resumeUsb_keeps (vm : Option String) :
    Keeps (machine allowed) G I (GhafDeviceManager.resumeUsb d vm) :=
  resumeUsb_keeps_of h.glue fun device rule w hw _ _ => h.attachUsb device rule _ w hw

theorem resumePci_keeps (vm : Option String) :
    Keeps (machine allowed) G I (GhafDeviceManager.resumePci d vm) :=
  resumePci_keeps_of h.glue fun device rule w hw _ _ => h.attachPci device rule _ w hw

theorem reconcile_keeps : Keeps (machine allowed) G I (GhafDeviceManager.reconcile d) :=
  reconcile_keeps_of h.glue h.gate h.observe (h.resumePci_keeps none) (h.resumeUsb_keeps none)
    h.sweep

theorem operation_keeps (o : Operation) : Keeps (machine allowed) G I (o.program d) := by
  cases o with
  | enableUsbAuthorization => exact keeps_bind h.enable fun _ => keeps_pure _
  | closeUsbGate => exact keeps_bind h.close fun _ => keeps_pure _
  | openUsbGate => exact h.open_
  | reconcile => exact h.reconcile_keeps
  | usbAttach selector vm => exact h.attachUsb_keeps selector vm
  | usbDetach selector => exact h.detachUsb_keeps selector true
  | usbSuspend vm => exact h.suspendUsb_keeps vm
  | usbResume vm => exact h.resumeUsb_keeps vm
  | pciAttach selector vm => exact h.attachPci_keeps selector vm
  | pciDetach selector => exact h.detachPci_keeps selector true
  | pciSuspend vm => exact h.suspendPci_keeps vm
  | pciResume vm => exact h.resumePci_keeps vm

end PartsKeep

def Operation.OnUsb : Operation → Prop
  | .reconcile | .pciAttach _ _ | .pciDetach _ | .pciSuspend _ | .pciResume _ => False
  | _ => True

theorem usb_operation_keeps (husb : ∀ op : Op, op.Usb → Harmless allowed G I op) {o : Operation}
    (ho : o.OnUsb) : Keeps (machine allowed) G I (o.program d) := by
  have hglue : ∀ op : Op, op.Glue → Harmless allowed G I op := fun op hop =>
    husb op (usb_of_glue hop)
  have hgates : ∀ {p : Act Unit}, Calls Op.Gates p → Keeps (machine allowed) G I p := fun hp =>
    keeps_of_harmless (Program.calls_mono hp fun op hop => husb op (usb_of_gates hop))
  have hattach : ∀ device rule vm, Keeps (machine allowed) G I (attachOneUsb d device rule vm) :=
    fun device rule vm => keeps_of_harmless (calls_attachOneUsb d device rule vm (husb _ trivial)
      fun op hop => husb op (usb_of_assigns hop))
  have hdetach : ∀ device permanent,
      Keeps (machine allowed) G I (detachOneUsb d device permanent) := fun device permanent =>
    keeps_of_harmless (Program.calls_mono (calls_detachOneUsb_detaches d device permanent)
      fun op hop => husb op (usb_of_detaches hop))
  cases o with
  | enableUsbAuthorization =>
      exact hgates (calls_bind (calls_enableUsbAuthorization d) fun _ => trivial)
  | closeUsbGate => exact hgates (calls_bind (calls_closeUsbGate d) fun _ => trivial)
  | openUsbGate => exact hgates (calls_openUsbGate d)
  | usbAttach selector vm =>
      exact fun w hw => wp_attachUsb_of hglue hw fun x _ _ => hattach x.1 x.2 vm
  | usbDetach selector =>
      exact fun w hw => wp_detachUsb_of hglue hw fun x _ _ => hdetach x.1 true
  | usbSuspend vm =>
      exact suspendUsb_keeps_of hglue fun device w hw _ => hdetach device false w hw
  | usbResume vm =>
      exact resumeUsb_keeps_of hglue fun device rule w hw _ _ => hattach device rule _ w hw
  | _ => exact ho.elim

def Operation.OnPci : Operation → Prop
  | .pciAttach _ _ | .pciDetach _ | .pciSuspend _ | .pciResume _ => True
  | _ => False

theorem pci_operation_keeps (hglue : ∀ op : Op, op.Glue → Harmless allowed G I op)
    (hpci : ∀ op : Op, op.Pci → Harmless allowed G I op) {o : Operation} (ho : o.OnPci) :
    Keeps (machine allowed) G I (o.program d) := by
  have hattach : ∀ device rule vm, Keeps (machine allowed) G I (attachOnePci d device rule vm) :=
    fun device rule vm => keeps_of_harmless (Program.calls_mono
      (calls_attachOnePci d device rule vm) fun op hop => hpci op ⟨device, .inl hop⟩)
  have hdetach : ∀ device rule permanent,
      Keeps (machine allowed) G I (detachOnePci d device rule permanent) :=
    fun device rule permanent => keeps_of_harmless (Program.calls_mono
      (calls_detachOnePci d device rule permanent) fun op hop => hpci op ⟨device, .inr ⟨_, hop⟩⟩)
  cases o with
  | pciAttach selector vm =>
      exact fun w hw => wp_attachPci_of hglue hw fun x _ _ => hattach x.1 x.2 vm
  | pciDetach selector =>
      exact fun w hw => wp_detachPci_of hglue hw fun x _ _ => hdetach x.1 x.2 true
  | pciSuspend vm =>
      exact suspendPci_keeps_of hglue fun device rule w hw _ => hdetach device rule false w hw
  | pciResume vm =>
      exact resumePci_keeps_of hglue fun device rule w hw _ _ => hattach device rule _ w hw
  | _ => exact ho.elim

end Rule

end GhafDeviceManager
