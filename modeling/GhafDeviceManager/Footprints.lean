import GhafDeviceManager.Steps

/-!
# Footprints

What each part of an attach or a detach can call at all, whatever it is answered. The frame rule
of `Machine` turns a footprint into an invariant.
-/

namespace GhafDeviceManager

open Fallible

section Combinators

variable {α : Type} {S : Op → Prop} {p : Act α}

theorem calls_withLock {lock : Lock} (hlock : S (.lock lock)) (hunlock : S (.unlock lock))
    (hp : Calls S p) : Calls S (withLock lock p) := by
  refine calls_bind (calls_request hlock) fun _ => ?_
  refine calls_bind (calls_attempt hp) fun r => ?_
  refine calls_bind (calls_request hunlock) fun _ => ?_
  cases r <;> trivial

theorem calls_withContext (context : String) (hp : Calls S p) :
    Calls S (withContext context p) := by
  refine calls_bind (calls_attempt hp) fun r => ?_
  cases r <;> trivial

theorem calls_warnOnError {p : Act Unit} (hp : Calls S p) : Calls S (warnOnError p) := by
  exact calls_bind (calls_attempt hp) fun _ => trivial

theorem calls_require (context : String) (o : Option α) : Calls S (require context o) := by
  cases o <;> trivial

theorem calls_require_bind {β : Type} {context : String} {o : Option α} {f : α → Act β}
    (hf : ∀ a, o = some a → Calls S (f a)) : Calls S (require context o >>= f) := by
  cases o with
  | none => trivial
  | some a => exact hf a rfl

theorem calls_ite_of {c : Prop} [Decidable c] {q : Act α} (hp : c → Calls S p)
    (hq : ¬c → Calls S q) : Calls S (if c then p else q) := by
  split
  case isTrue hc => exact hp hc
  case isFalse hc => exact hq hc

theorem calls_ite {c : Prop} [Decidable c] {q : Act α} (hp : Calls S p) (hq : Calls S q) :
    Calls S (if c then p else q) := calls_ite_of (fun _ => hp) fun _ => hq

end Combinators

/-- `claimPort` once the record of the device and the list of its VM are read. -/
def claimFrom (device : UsbDevice) (vm : Vm) (node : String) (known : Option UsbPortBinding)
    (view : String × List LivePort) : Act PortClaim :=
  match reusablePort known device vm.name view.1 view.2 with
  | some port => pure { port, stalePort := none, generation := view.1, attached := false }
  | none => do
    let port ← usbAttach vm node
    let stale := (stalePort known vm.name view.1 view.2).filter (· ≠ port)
    return { port, stalePort := stale, generation := view.1, attached := true }

def endForget (d : Daemon) (device : UsbDevice) (persistence : Except Error Unit) : Act Unit := do
  update (.pendingRemove device.persistentId)
  deauthorizeDetached d device
  match persistence with
  | .ok _ => pure ()
  | .error e => throw e

/-- What a part of the manager that neither commands Crosvm nor writes its memory or sysfs can
call. -/
def Op.Observes : Op → Prop
  | .lock _ | .unlock _ | .read _ | .notify _ | .order _ | .socketGeneration _
  | .usbList _ | .vfioList _ | .usbBus | .autoprobe | .scanUsb | .deviceNames | .interfaces _
  | .driver _ | .authorization _ | .scanPci | .iommuGroup _ | .pciDriver _ => True
  | _ => False

/-- The way of an attach to the point where Crosvm is asked. -/
def Op.Approaches (device : UsbDevice) : Op → Prop
  | .probe name => name = device.sysName
  | .release _ => True
  | .authorize name _ => name = device.sysName
  | .update (.reportedInsert _) => True
  | op => op.Observes

def Op.Forgets (device : UsbDevice) (node : String) (permanent : Bool) : Op → Prop
  | .update (.usbVmsRemove n) => n = node
  | .update (.crosvmUsbPortsRemove sysName) => sysName = device.sysName
  | .update (.setDisconnected id value) => id = device.persistentId ∧ value = permanent
  | .update (.pendingRemove id) => id = device.persistentId
  | .save => True
  | .authorize name value => name = device.sysName ∧ value = false
  | op => op.Observes

def Op.Detaches (device : UsbDevice) (permanent : Bool) : Op → Prop
  | .enter entry => entry = .detachOneUsb device permanent
  | .usbDetach _ _ => True
  | .update (.usbVmsRemove n) => device.deviceNode = some n
  | .update (.crosvmUsbPortsRemove sysName) => sysName = device.sysName
  | .update (.setDisconnected id value) => id = device.persistentId ∧ value = permanent
  | .update (.pendingRemove id) => id = device.persistentId
  | .save => True
  | .authorize name value => name = device.sysName ∧ value = false
  | op => op.Observes

def Op.Finishes (device : UsbDevice) (vm : Vm) (node : String) (claim : PortClaim) : Op → Prop
  | .usbDetach v port => v = vm ∧ claim.stalePort = some port
  | .update (.usbVmsInsert n v) => n = node ∧ v = vm.name
  | .update (.selectVm id v) => id = device.persistentId ∧ v = vm.name
  | .update (.setDisconnected id value) => id = device.persistentId ∧ value = false
  | .update (.crosvmUsbPortsInsert d v p g) =>
      d = device ∧ v = vm.name ∧ p = claim.port ∧ g = claim.generation
  | .update (.pendingRemove id) => id = device.persistentId
  | .save => True
  | op => op.Observes

/-- What an attach call can call at all after its entry. -/
def Op.Attaches : Op → Prop
  | .enter (.detachOneUsb _ _) => True
  | .probe _ | .release _ | .authorize _ _ | .usbAttach _ _ | .usbDetach _ _ | .save => True
  | .update (.reportedInsert _) | .update (.pendingInsert _) | .update (.pendingRemove _)
  | .update (.usbVmsInsert _ _) | .update (.usbVmsRemove _) | .update (.selectVm _ _)
  | .update (.setDisconnected _ _) | .update (.crosvmUsbPortsRemove _)
  | .update (.crosvmUsbPortsInsert _ _ _ _) => True
  | op => op.Observes

/-- What an attach call can call after its entry, and on whose behalf. -/
def Op.Assigns (device : UsbDevice) : Op → Prop
  | .enter entry => entry = .detachOneUsb device false
  | .probe name => name = device.sysName
  | .authorize name _ => name = device.sysName
  | .usbAttach _ node => device.deviceNode = some node
  | .release _ | .usbDetach _ _ | .save => True
  | .update (.reportedInsert _) => True
  | .update (.pendingInsert id) => id = device.persistentId
  | .update (.pendingRemove id) => id = device.persistentId
  | .update (.usbVmsInsert node _) => device.deviceNode = some node
  | .update (.usbVmsRemove node) => device.deviceNode = some node
  | .update (.selectVm id _) => id = device.persistentId
  | .update (.setDisconnected id value) => id = device.persistentId ∧ value = false
  | .update (.crosvmUsbPortsInsert other _ _ _) => other = device
  | .update (.crosvmUsbPortsRemove sysName) => sysName = device.sysName
  | op => op.Observes

section Inclusions

variable {device : UsbDevice} {op : Op}

theorem attaches_of_observes (h : op.Observes) : op.Attaches := by
  cases op <;> trivial

theorem assigns_of_observes (h : op.Observes) : op.Assigns device := by
  cases op <;> first | exact h | exact h.elim

theorem assigns_of_approaches (h : op.Approaches device) : op.Assigns device := by
  cases op with
  | update u => cases u <;> first | exact h | exact h.elim
  | enter entry => exact h.elim
  | usbAttach vm node => exact h.elim
  | _ => first | exact h | trivial

theorem assigns_of_detaches (h : op.Detaches device false) : op.Assigns device := by
  cases op with
  | update u => cases u <;> first | exact h | exact h.elim
  | authorize name value => exact h.1
  | probe name => exact h.elim
  | release name => trivial
  | usbAttach vm node => exact h.elim
  | _ => exact h

theorem assigns_of_finishes {vm : Vm} {node : String} {claim : PortClaim}
    (hnode : device.deviceNode = some node) (h : op.Finishes device vm node claim) :
    op.Assigns device := by
  cases op with
  | update u =>
      cases u with
      | usbVmsInsert n v =>
          obtain ⟨rfl, -⟩ := h
          exact hnode
      | selectVm id v => exact h.1
      | crosvmUsbPortsInsert other v port generation => exact h.1
      | _ => first | exact h | exact h.elim
  | usbDetach v port => trivial
  | enter entry => exact h.elim
  | probe name => exact h.elim
  | authorize name value => exact h.elim
  | usbAttach v n => exact h.elim
  | release name => trivial
  | _ => exact h

theorem attaches_of_approaches (h : op.Approaches device) : op.Attaches := by
  cases op with
  | update u => cases u <;> trivial
  | _ => trivial

theorem attaches_of_forgets {node : String} {permanent : Bool}
    (h : op.Forgets device node permanent) : op.Attaches := by
  cases op with
  | update u => cases u <;> trivial
  | _ => trivial

theorem attaches_of_assigns (h : op.Assigns device) : op.Attaches := by
  cases op with
  | update u => cases u <;> trivial
  | enter entry =>
      obtain rfl : entry = .detachOneUsb device false := h
      trivial
  | _ => trivial

theorem attaches_of_finishes {vm : Vm} {node : String} {claim : PortClaim}
    (h : op.Finishes device vm node claim) : op.Attaches := by
  cases op with
  | update u => cases u <;> trivial
  | _ => trivial

end Inclusions

variable {d : Daemon} {device : UsbDevice} {S : Op → Prop}

theorem calls_saveState (h : S .save) : Calls S (saveState d) := by
  unfold saveState
  split
  · exact calls_request h
  · trivial

theorem calls_setDisconnected {id : String} {value : Bool}
    (hupdate : S (.update (.setDisconnected id value))) (hsave : S .save) :
    Calls S (setDisconnected d id value) :=
  calls_bind (calls_request hupdate) fun _ => calls_saveState hsave

theorem calls_selectVm {id vm : String} (hupdate : S (.update (.selectVm id vm)))
    (hsave : S .save) : Calls S (selectVm d id vm) :=
  calls_bind (calls_request hupdate) fun _ => calls_saveState hsave

theorem calls_deauthorizeDetached (d : Daemon) (device : UsbDevice) (node : String)
    (permanent : Bool) :
    Calls (Op.Forgets device node permanent) (deauthorizeDetached d device) := by
  refine calls_ite (calls_bind (calls_request (by trivial)) fun value => ?_) (by trivial)
  exact calls_ite (calls_warnOnError (calls_request ⟨rfl, rfl⟩)) (by trivial)

theorem calls_forgetUsb_of {node : String} {permanent : Bool}
    (hforgets : ∀ op : Op, op.Forgets device node permanent →
      (∀ name value, op ≠ .authorize name value) → S op)
    (hdeauthorize : Calls S (deauthorizeDetached d device)) :
    Calls S (forgetUsb d device node permanent) := by
  have hS : ∀ {op : Op}, op.Forgets device node permanent →
      (∀ name value, op ≠ .authorize name value) → S op := fun {op} => hforgets op
  have hsave : S .save := hS (by trivial) nofun
  refine calls_bind (calls_withLock (hS (by trivial) nofun) (hS (by trivial) nofun) ?_)
    fun persistence => ?_
  · refine calls_bind (calls_request (hS rfl nofun)) fun _ => ?_
    refine calls_bind (calls_request (hS rfl nofun)) fun _ => ?_
    refine calls_attempt (calls_bind (calls_setDisconnected (hS ⟨rfl, rfl⟩ nofun) hsave)
      fun _ => ?_)
    exact calls_saveState hsave
  · refine calls_bind (calls_request (hS rfl nofun)) fun _ => ?_
    refine calls_bind hdeauthorize fun _ => ?_
    cases persistence <;> trivial

theorem calls_forgetUsb (d : Daemon) (device : UsbDevice) (node : String) (permanent : Bool) :
    Calls (Op.Forgets device node permanent) (forgetUsb d device node permanent) :=
  calls_forgetUsb_of (fun _ hop _ => hop) (calls_deauthorizeDetached d device node permanent)

theorem calls_detachBoundPort {vm : Vm} {binding : UsbPortBinding} (hlist : S (.usbList vm.socket))
    (hdetach : ∀ port, S (.usbDetach vm port)) :
    Calls S (detachBoundPort device vm binding) := by
  refine calls_bind (calls_request hlist) fun live => ?_
  split
  · split
    · trivial
    · exact calls_request (hdetach _)
  · trivial

theorem calls_detachMatchingPort {vm : Vm} (hlist : S (.usbList vm.socket))
    (hdetach : ∀ port, S (.usbDetach vm port)) : Calls S (detachMatchingPort device vm) := by
  refine calls_bind (calls_request hlist) fun live => ?_
  split
  · exact calls_request (hdetach _)
  · trivial
  · trivial

theorem calls_detachFromVm {node vmName : String} {binding : Option UsbPortBinding}
    (hsocket : ∀ socket, S (.socketGeneration socket)) (hlist : ∀ socket, S (.usbList socket))
    (hdetach : ∀ vm port, S (.usbDetach vm port))
    (hnotify : S (.notify (.usbDetached node vmName))) :
    Calls S (detachFromVm d device node vmName binding) := by
  unfold detachFromVm
  refine calls_bind (calls_require _ _) fun vm => ?_
  have hbound : ∀ b, Calls S (detachBoundPort device vm b) := fun b =>
    calls_detachBoundPort (hlist vm.socket) (hdetach vm)
  have hmatching : Calls S (detachMatchingPort device vm) :=
    calls_detachMatchingPort (hlist vm.socket) (hdetach vm)
  have hend : Calls S (notify (.usbDetached node vmName)) := calls_request hnotify
  refine calls_bind (calls_request (hsocket vm.socket)) fun generation => ?_
  refine calls_ite ?_ hend
  cases binding with
  | none => exact calls_bind hmatching fun _ => hend
  | some b =>
      refine calls_bind (calls_request (hsocket vm.socket)) fun generation => ?_
      exact calls_ite (calls_bind (hbound b) fun _ => hend)
        (calls_bind hmatching fun _ => hend)

theorem calls_detachOneUsb_of {permanent : Bool}
    (henter : S (.enter (.detachOneUsb device permanent)))
    (hobserves : ∀ op, op.Observes → S op)
    (hdetach : ∀ vm port, S (.usbDetach vm port))
    (hforget : ∀ node, device.deviceNode = some node →
      Calls S (forgetUsb d device node permanent)) :
    Calls S (detachOneUsb d device permanent) := by
  unfold detachOneUsb
  refine calls_bind (calls_request henter) fun _ => ?_
  refine calls_require_bind fun node hnode => ?_
  refine calls_bind (calls_request (hobserves _ trivial)) fun m => ?_
  dsimp only
  split
  · refine calls_bind ?_ fun _ => hforget node hnode
    exact calls_detachFromVm (fun _ => hobserves _ trivial) (fun _ => hobserves _ trivial) hdetach
      (hobserves _ trivial)
  · exact hforget node hnode

theorem calls_detachOneUsb {permanent : Bool} (henter : S (.enter (.detachOneUsb device permanent)))
    (hobserves : ∀ op, op.Observes → S op)
    (hdetach : ∀ vm port, S (.usbDetach vm port))
    (hforgets : ∀ node, device.deviceNode = some node → ∀ op, op.Forgets device node permanent →
      S op) : Calls S (detachOneUsb d device permanent) :=
  calls_detachOneUsb_of henter hobserves hdetach fun node hnode =>
    Program.calls_mono (calls_forgetUsb d device node permanent) (hforgets node hnode)

theorem calls_detachOneUsb_detaches (d : Daemon) (device : UsbDevice) (permanent : Bool) :
    Calls (Op.Detaches device permanent) (detachOneUsb d device permanent) := by
  refine calls_detachOneUsb rfl (fun op hop => ?_) (fun _ _ => trivial) fun node hnode op hop => ?_
  · cases op <;> first | exact hop | exact hop.elim
  · cases op with
    | update u =>
        cases u with
        | usbVmsRemove n =>
            rw [Op.Detaches, hnode, show n = node from hop]
        | _ => exact hop
    | enter entry => exact hop.elim
    | usbDetach vm port => trivial
    | _ => exact hop

theorem calls_insertPending {id : String} (hobserves : ∀ op, op.Observes → S op)
    (hpending : S (.update (.pendingInsert id))) : Calls S (insertPending id) := by
  refine calls_withLock (hobserves _ trivial) (hobserves _ trivial) ?_
  refine calls_bind (calls_request (hobserves _ trivial)) fun m => ?_
  exact calls_bind (calls_request hpending) fun _ => trivial

theorem calls_preflight {vm : Vm} (hsocket : S (.socketGeneration vm.socket))
    (hlist : S (.usbList vm.socket)) : Calls S (preflight d device vm) := by
  refine calls_ite ?_ (by trivial)
  refine calls_bind (calls_request hsocket) fun generation => ?_
  exact calls_bind (calls_request hlist) fun live => trivial

theorem calls_rollback {armed : Bool} (h : S (.authorize device.sysName false)) :
    Calls S (rollback device armed) :=
  calls_ite (calls_warnOnError (calls_request h)) trivial

theorem calls_usbAuthorizationGuard (d : Daemon) (device : UsbDevice) :
    Calls (Op.Approaches device) (usbAuthorizationGuard d device) := by
  refine calls_ite (calls_bind (calls_request (by trivial)) fun value => ?_) (by trivial)
  refine calls_ite (calls_bind (calls_attempt ?_) fun r => ?_) (by trivial)
  · exact calls_withContext _ (calls_request rfl)
  · cases r with
    | ok _ => trivial
    | error e => exact calls_bind (calls_rollback rfl) fun _ => trivial

theorem calls_configureUsb (hbus : S .usbBus) (hdriver : S (.driver device.sysName))
    (hprobe : S (.probe device.sysName)) : Calls S (configureUsb device) := by
  refine calls_bind (calls_request hbus) fun bus => ?_
  refine calls_ite (calls_bind (calls_request hdriver) fun value => ?_) (by trivial)
  exact calls_ite (calls_withContext _ (calls_request hprobe)) (by trivial)

theorem calls_releaseHostDrivers (hdriver : ∀ name, S (.driver name))
    (hrelease : ∀ name, S (.release name))
    (hreported : S (.update (.reportedInsert device.persistentId))) (names : List String) :
    Calls S (releaseHostDrivers device names) := by
  induction names with
  | nil => trivial
  | cons interface rest ih =>
      refine calls_bind (calls_request (hdriver interface)) fun value => ?_
      cases value with
      | none => exact ih
      | some name =>
          refine calls_ite ?_ (calls_ite ?_ ih)
          · exact calls_bind (calls_request hreported) fun _ => trivial
          · exact calls_bind (calls_withContext _ (calls_request (hrelease interface))) fun _ => ih

theorem calls_recordAttachment (d : Daemon) (device : UsbDevice) (vm : Vm) (node : String)
    (claim : PortClaim) :
    Calls (Op.Finishes device vm node claim) (recordAttachment d device vm.name node claim) := by
  refine calls_withLock (by trivial) (by trivial) ?_
  refine calls_bind (calls_request ⟨rfl, rfl⟩) fun _ => ?_
  refine calls_bind (calls_selectVm ⟨rfl, rfl⟩ (by trivial)) fun _ => ?_
  refine calls_bind (calls_setDisconnected ⟨rfl, rfl⟩ (by trivial)) fun _ => ?_
  refine calls_bind (calls_request ⟨rfl, rfl, rfl, rfl⟩) fun _ => ?_
  exact calls_saveState (by trivial)

theorem calls_finishAttach (d : Daemon) (device : UsbDevice) (vm : Vm) (node : String)
    (current : Option String) (claim : PortClaim) :
    Calls (Op.Finishes device vm node claim) (finishAttach d device vm node current claim) := by
  unfold finishAttach
  have htail : Calls (Op.Finishes device vm node claim) (do
      recordAttachment d device vm.name node claim
      update (.pendingRemove device.persistentId)
      if current ≠ some vm.name ∨ claim.attached then
        notify (.usbAttached device vm.name)) := by
    refine calls_bind (calls_recordAttachment d device vm node claim) fun _ => ?_
    refine calls_bind (calls_request rfl) fun _ => ?_
    exact calls_ite (calls_request (by trivial)) (by trivial)
  cases hstale : claim.stalePort with
  | none => exact htail
  | some stale => exact calls_bind (calls_request ⟨rfl, hstale⟩) fun _ => htail

theorem calls_claimPort {vm : Vm} {node : String} {seen : Option (String × List LivePort)}
    (hread : S (.read .state)) (hsocket : S (.socketGeneration vm.socket))
    (hlist : S (.usbList vm.socket)) (hattach : S (.usbAttach vm node)) :
    Calls S (claimPort device vm node seen) := by
  refine calls_bind (calls_request hread) fun m => ?_
  cases seen with
  | some seen =>
      refine calls_bind (by trivial) fun view => ?_
      dsimp only
      split
      · trivial
      · exact calls_bind (calls_request hattach) fun port => trivial
  | none =>
      refine calls_bind (calls_request hsocket) fun generation => ?_
      refine calls_bind (calls_request hlist) fun live => ?_
      refine calls_bind (by trivial) fun view => ?_
      dsimp only
      split
      · trivial
      · exact calls_bind (calls_request hattach) fun port => trivial

theorem calls_attachAuthorized (d : Daemon) (device : UsbDevice) (vm : Vm) {node : String}
    (hnode : device.deviceNode = some node) (current : Option String)
    (seen : Option (String × List LivePort)) :
    Calls (Op.Assigns device) (attachAuthorized d device vm node current seen) := by
  have happroach : ∀ {α : Type} {p : Act α}, Calls (Op.Approaches device) p →
      Calls (Op.Assigns device) p := fun hp =>
    Program.calls_mono hp fun _ => assigns_of_approaches
  refine calls_bind (happroach (calls_usbAuthorizationGuard d device)) fun armed => ?_
  have hrollback : Calls (Op.Assigns device) (rollback device armed) := calls_rollback rfl
  have hclaim : Calls (Op.Assigns device) (claimUsb device vm node seen) := by
    refine calls_bind (calls_configureUsb trivial trivial rfl) fun _ => ?_
    refine calls_bind (calls_withContext _ (calls_request (by trivial))) fun names => ?_
    refine calls_bind (calls_releaseHostDrivers (fun _ => trivial)
      (fun _ => trivial) trivial names) fun stopped => ?_
    refine calls_ite (by trivial) (calls_bind ?_ fun claim => trivial)
    exact calls_claimPort trivial trivial trivial hnode
  refine calls_bind (calls_attempt hclaim) fun r => ?_
  match r with
  | .error e => exact calls_bind hrollback fun _ => trivial
  | .ok none => exact hrollback
  | .ok (some claim) =>
      exact Program.calls_mono (calls_finishAttach d device vm node current claim)
        fun _ => assigns_of_finishes hnode

theorem calls_handOver (d : Daemon) (device : UsbDevice) (current : Option String)
    (vmName : String) : Calls (Op.Assigns device) (handOver d device current vmName) := by
  cases current with
  | none => trivial
  | some name =>
      refine calls_ite ?_ (by trivial)
      exact Program.calls_mono (calls_detachOneUsb_detaches d device false)
        fun _ => assigns_of_detaches

theorem calls_attachUsbTo (d : Daemon) (device : UsbDevice) (rule : RuleMatch)
    (vmName : String) : Calls (Op.Assigns device) (attachUsbTo d device rule vmName) := by
  have hrest : ∀ vm : Vm, Calls (Op.Assigns device) (do
      let seen ← preflight d device vm
      let node ← require "USB device has no device node" device.deviceNode
      let current := (← readMemory .state).usbVms.lookup node
      handOver d device current vmName
      attachAuthorized d device vm node current seen) := by
    intro vm
    refine calls_bind (calls_preflight (by trivial) (by trivial)) fun seen => ?_
    refine calls_require_bind fun node hnode => ?_
    refine calls_bind (calls_request (by trivial)) fun m => ?_
    exact calls_bind (calls_handOver d device _ vmName) fun _ =>
      calls_attachAuthorized d device vm hnode _ seen
  refine calls_ite (by trivial) ?_
  refine calls_bind (calls_require _ _) fun vm => calls_ite ?_ (hrest vm)
  exact calls_bind (calls_request (by trivial)) fun generation => calls_ite (by trivial) (hrest vm)

theorem calls_attachEntered (d : Daemon) (device : UsbDevice) (rule : RuleMatch)
    (requestedVm : Option String) : Calls (Op.Assigns device) (do
      let m ← readMemory .state
      match chooseVm requestedVm rule m.persistent.selectedVms device.persistentId with
      | none =>
        if ← insertPending device.persistentId then
          notify (.usbSelectVm device rule.allowedVms)
      | some vmName => attachUsbTo d device rule vmName) := by
  refine calls_bind (calls_request (by trivial)) fun m => ?_
  split
  · refine calls_bind (calls_insertPending (fun _ => assigns_of_observes) rfl) fun _ => ?_
    exact calls_ite (calls_request (by trivial)) (by trivial)
  · exact calls_attachUsbTo d device rule _

theorem calls_attachOneUsb (d : Daemon) (device : UsbDevice) (rule : RuleMatch)
    (requestedVm : Option String) {S : Op → Prop}
    (henter : S (.enter (.attachOneUsb device rule requestedVm)))
    (hassigns : ∀ op : Op, op.Assigns device → S op) :
    Calls S (attachOneUsb d device rule requestedVm) :=
  calls_bind (calls_request henter) fun _ =>
    Program.calls_mono (calls_attachEntered d device rule requestedVm) hassigns

end GhafDeviceManager
