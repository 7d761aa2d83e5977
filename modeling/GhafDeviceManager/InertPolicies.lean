import GhafDeviceManager.Requests

/-!
# Policies that are switched off

Without an enabled rule for USB devices the manager leaves the host's drivers alone, and without
the authorization policy the authorizations. Neither depends on what the surroundings answer, so
both are read off the footprints of the parts.
-/

namespace GhafDeviceManager

open Fallible

/-! ## What a policy writes -/

/-- Neither `drivers_autoprobe`, `drivers_probe` nor a `driver/unbind` is written. -/
def Op.LeavesDrivers : Op → Prop
  | .setAutoprobe _ | .probe _ | .release _ => False
  | _ => True

/-- Neither an `authorized` nor an `authorized_default` is written. -/
def Op.LeavesAuthorization : Op → Prop
  | .authorize _ _ | .setAuthorizedDefault _ => False
  | _ => True

section Inclusions

variable {op : Op}

theorem leavesAuthorization_of_observes (h : op.Observes) : op.LeavesAuthorization := by
  cases op <;> trivial

theorem leavesAuthorization_of_settles (h : op.Settles) : op.LeavesAuthorization := by
  cases op <;> trivial

theorem leavesDrivers_of_authorizes {value : Bool} (h : op.Authorizes value) :
    op.LeavesDrivers := by
  cases op <;> trivial

theorem leavesDrivers_of_sweeps (h : op.Sweeps) : op.LeavesDrivers := by
  cases op <;> trivial

theorem leavesDrivers_of_detaches {device : UsbDevice} {permanent : Bool}
    (h : op.Detaches device permanent) : op.LeavesDrivers := by
  cases op <;> trivial

/-- What comes and goes is forgotten without a write to sysfs. -/
theorem leaves_of_clears (h : op.Clears) : op.LeavesDrivers ∧ op.LeavesAuthorization := by
  cases op <;> first | exact ⟨trivial, trivial⟩ | exact h.elim

theorem leaves_of_glue (h : op.Glue) : op.LeavesDrivers ∧ op.LeavesAuthorization := by
  cases op <;> first | exact ⟨trivial, trivial⟩ | exact h.elim

theorem leaves_of_attachesPci {device : PciDevice} (h : op.AttachesPci device) :
    op.LeavesDrivers ∧ op.LeavesAuthorization := by
  cases op <;> first | exact ⟨trivial, trivial⟩ | exact h.elim

theorem leaves_of_binds (h : op.Binds) : op.LeavesDrivers ∧ op.LeavesAuthorization := by
  cases op <;> first | exact ⟨trivial, trivial⟩ | exact h.elim

theorem leaves_of_detachesPci {device : PciDevice} {permanent : Bool}
    (h : op.DetachesPci device permanent) : op.LeavesDrivers ∧ op.LeavesAuthorization := by
  cases op <;> first | exact ⟨trivial, trivial⟩ | exact h.elim

end Inclusions

section Drivers

variable {d : Daemon}

theorem leaveDrivers_parts (hroutes : d.routesUsb = false) : PartsCall Op.LeavesDrivers d where
  glue _ hop := (leaves_of_glue hop).1
  detachUsb device permanent := Program.calls_mono (calls_detachOneUsb_detaches d device permanent)
    fun _ => leavesDrivers_of_detaches
  detachPci device rule permanent := Program.calls_mono (calls_detachOnePci d device rule permanent)
    fun _ hop => (leaves_of_detachesPci hop).1
  bind address := Program.calls_mono (calls_bindVfio_binds address) fun _ hop =>
    (leaves_of_binds hop).1
  enable := calls_enableUsbAuthorization_of d fun _ =>
    ⟨trivial, fun _ => leavesDrivers_of_authorizes⟩
  close := calls_closeUsbGate_of d trivial fun h => by rw [hroutes] at h; cases h
  open_ := calls_openUsbGate_of d trivial fun h => by rw [hroutes] at h; cases h
  gate := calls_applyUsbGate_of d trivial (fun _ _ => leavesDrivers_of_authorizes)
    fun h => by rw [hroutes] at h; cases h
  observe := Program.calls_mono (calls_observe d) fun _ hop => (leaves_of_clears hop).1
  sweep := calls_deauthorizeUnmatchedUsb_of d fun _ _ => leavesDrivers_of_sweeps

/-- Where no rule is enabled no device is routed, and what is left touches no driver. -/
theorem leaveDrivers (hroutes : d.routesUsb = false) :
    PartsTell (fun _ => Op.LeavesDrivers) d := by
  refine .of_footprints (leaveDrivers_parts hroutes) (fun device rule vm hrule => ?_)
    fun device rule vm => ?_
  · have henabled : d.routesUsb = true := Daemon.routesUsb_of_usbRule hrule
    rw [hroutes] at henabled
    cases henabled
  · exact Program.calls_mono (calls_attachOnePci d device rule vm) fun _ hop =>
      (leaves_of_attachesPci hop).1

end Drivers

section Authorization

variable {d : Daemon} {device : UsbDevice}

theorem policy_off (hoff : d.config.usbAuthorization.enabled = false) (other : Bool) :
    (d.config.usbAuthorization.enabled && other) = false := by
  rw [hoff, Bool.false_and]

theorem calls_forgetUsb_off (hoff : d.config.usbAuthorization.enabled = false)
    (node : String) (permanent : Bool) :
    Calls Op.LeavesAuthorization (forgetUsb d device node permanent) := by
  refine calls_bind (calls_withLock trivial trivial ?_) fun persistence => ?_
  · refine calls_bind (calls_request trivial) fun _ => ?_
    refine calls_bind (calls_request trivial) fun _ => ?_
    refine calls_attempt (calls_bind (calls_setDisconnected trivial trivial) fun _ => ?_)
    exact calls_saveState trivial
  · refine calls_bind (calls_request trivial) fun _ => ?_
    have hnone : deauthorizeDetached d device = pure () := by
      simp [deauthorizeDetached, policy_off hoff]
    rw [hnone]
    refine calls_bind (by trivial) fun _ => ?_
    cases persistence <;> trivial

theorem calls_detachOneUsb_off (hoff : d.config.usbAuthorization.enabled = false)
    (device : UsbDevice) (permanent : Bool) :
    Calls Op.LeavesAuthorization (detachOneUsb d device permanent) := by
  refine calls_bind (calls_request trivial) fun _ => ?_
  refine calls_bind (calls_require _ _) fun node => ?_
  refine calls_bind (calls_request trivial) fun m => ?_
  have hforget : Calls Op.LeavesAuthorization (forgetUsb d device node permanent) :=
    calls_forgetUsb_off hoff node permanent
  dsimp only
  split
  · refine calls_bind ?_ fun _ => hforget
    exact calls_detachFromVm (fun _ => trivial) (fun _ => trivial) (fun _ _ => trivial) trivial
  · exact hforget

theorem calls_attachAuthorized_off (hoff : d.config.usbAuthorization.enabled = false) (vm : Vm)
    (node : String) (current : Option String) (seen : Option (String × List LivePort)) :
    Calls Op.LeavesAuthorization (attachAuthorized d device vm node current seen) := by
  have hguard : usbAuthorizationGuard d device = pure false := by
    simp [usbAuthorizationGuard, policy_off hoff]
  have hclaim : Calls Op.LeavesAuthorization (claimUsb device vm node seen) := by
    refine calls_bind (calls_configureUsb trivial trivial trivial) fun _ => ?_
    refine calls_bind (calls_withContext _ (calls_request trivial)) fun names => ?_
    refine calls_bind (calls_releaseHostDrivers (fun _ => trivial)
      (fun _ => trivial) trivial names) fun stopped => ?_
    refine calls_ite (by trivial) (calls_bind ?_ fun claim => trivial)
    exact calls_claimPort trivial trivial trivial trivial
  -- with the policy off no guard is armed, and there is nothing to take back
  have hunarmed : Calls Op.LeavesAuthorization (rollback device false) := trivial
  rw [attachAuthorized, hguard, pure_bind]
  refine calls_bind (calls_attempt hclaim) fun r => ?_
  cases r with
  | error e => exact calls_bind hunarmed fun _ => trivial
  | ok claim =>
      cases claim with
      | none => exact hunarmed
      | some claim =>
          refine Program.calls_mono (calls_finishAttach d device vm node current claim)
            fun op hop => ?_
          cases op <;> trivial

theorem calls_attachOneUsb_off (hoff : d.config.usbAuthorization.enabled = false)
    (device : UsbDevice) (rule : RuleMatch) (requestedVm : Option String) :
    Calls Op.LeavesAuthorization (attachOneUsb d device rule requestedVm) := by
  refine calls_bind (calls_request trivial) fun _ => ?_
  refine calls_bind (calls_request trivial) fun m => ?_
  split
  · exact calls_pending device rule (fun _ => leavesAuthorization_of_observes) trivial
  · have hrest : ∀ vm : Vm, ∀ vmName, Calls Op.LeavesAuthorization (do
        let seen ← preflight d device vm
        let node ← require "USB device has no device node" device.deviceNode
        let current := (← readMemory .state).usbVms.lookup node
        handOver d device current vmName
        attachAuthorized d device vm node current seen) := by
      intro vm vmName
      refine calls_bind (calls_preflight trivial trivial) fun seen => ?_
      refine calls_bind (calls_require _ _) fun node => ?_
      refine calls_bind (calls_request trivial) fun m => ?_
      refine calls_bind ?_ fun _ => calls_attachAuthorized_off hoff vm node _ seen
      cases m.usbVms.lookup node with
      | none => trivial
      | some name => exact calls_ite (calls_detachOneUsb_off hoff device false) (by trivial)
    refine calls_ite (by trivial) ?_
    refine calls_bind (calls_require _ _) fun vm => ?_
    refine calls_ite ?_ (hrest vm _)
    exact calls_bind (calls_request trivial) fun _ => calls_ite (by trivial) (hrest vm _)

theorem leaveAuthorization_parts (hoff : d.config.usbAuthorization.enabled = false) :
    PartsCall Op.LeavesAuthorization d where
  glue _ hop := (leaves_of_glue hop).2
  detachUsb device permanent := calls_detachOneUsb_off hoff device permanent
  detachPci device rule permanent := Program.calls_mono (calls_detachOnePci d device rule permanent)
    fun _ hop => (leaves_of_detachesPci hop).2
  bind address := Program.calls_mono (calls_bindVfio_binds address) fun _ hop =>
    (leaves_of_binds hop).2
  enable := calls_enableUsbAuthorization_of d fun h => by rw [hoff] at h; cases h
  close := calls_closeUsbGate_of d trivial fun _ _ h =>
    leavesAuthorization_of_settles (settles_of_opens h)
  open_ := calls_openUsbGate_of d trivial fun _ _ h =>
    leavesAuthorization_of_settles (settles_of_opens h)
  gate := calls_applyUsbGate_of d trivial (fun h => by rw [hoff] at h; cases h)
    fun _ _ => leavesAuthorization_of_settles
  observe := Program.calls_mono (calls_observe d) fun _ hop => (leaves_of_clears hop).2
  sweep := calls_deauthorizeUnmatchedUsb_of d fun h => by rw [hoff] at h; cases h

theorem leaveAuthorization (hoff : d.config.usbAuthorization.enabled = false) :
    PartsTell (fun _ => Op.LeavesAuthorization) d :=
  .of_footprints (leaveAuthorization_parts hoff)
    (fun device rule vm _ => calls_attachOneUsb_off hoff device rule vm)
    fun device rule vm => Program.calls_mono (calls_attachOnePci d device rule vm) fun _ hop =>
      (leaves_of_attachesPci hop).2

end Authorization

/-- Whatever is asked and answered, a daemon without an enabled USB rule writes none of the bus's
driver attributes, and one without the policy no authorization. -/
theorem disabled_policies_inert {V : Type} {M : Machine Op Reply V} {v v' : V}
    {calls : List RequestCall} (h : RequestRun M v calls v') : ∀ call ∈ calls,
    ((∀ rule ∈ call.daemon.config.usbPassthrough, enabled rule = false) →
        call.op.LeavesDrivers) ∧
      (call.daemon.config.usbAuthorization.enabled = false → call.op.LeavesAuthorization) := by
  have hdrivers := h.guarantee (G := fun d _ op =>
    (∀ rule ∈ d.config.usbPassthrough, enabled rule = false) → op.LeavesDrivers) fun d request => by
      by_cases hdisabled : ∀ rule ∈ d.config.usbPassthrough, enabled rule = false
      case pos =>
        have hroutes : d.routesUsb = false := by simpa [Daemon.routesUsb] using hdisabled
        exact wp_mono ((leaveDrivers hroutes).request_tells request [])
          (fun _ _ hop _ => hop) fun _ _ h => h
      case neg =>
        exact wp_of_footprint (Program.calls_top _) (fun _ _ _ h => absurd h hdisabled) []
  have hauthorization := h.guarantee (G := fun d _ op =>
    d.config.usbAuthorization.enabled = false → op.LeavesAuthorization) fun d request => by
      by_cases hoff : d.config.usbAuthorization.enabled = false
      case pos =>
        exact wp_mono ((leaveAuthorization hoff).request_tells request [])
          (fun _ _ hop _ => hop) fun _ _ h => h
      case neg =>
        exact wp_of_footprint (Program.calls_top _) (fun _ _ _ h => absurd h hoff) []
  exact fun call hcall => ⟨hdrivers call hcall, hauthorization call hcall⟩

def stockHost : World where
  daemon := plainDaemon [keyboardRule [("targetVm", .string "gui-vm"), ("disable", .bool true)]]
  bus := { autoprobe := some "1", entries := [keyboard "1-1" "4"] }

theorem disabled_policies_inert_stock : ∃ calls v,
    RequestRun (machine anyChoice) stockHost calls v ∧
    calls.map RequestCall.op = (stockHost.trace (fun _ _ => {}) .reconcile).map Prod.snd ∧
      ∀ call ∈ calls, call.op.LeavesDrivers ∧ call.op.LeavesAuthorization := by
  have hdisabled : ∀ rule ∈ stockHost.daemon.config.usbPassthrough, enabled rule = false := by
    decide +kernel
  have hoff : stockHost.daemon.config.usbAuthorization.enabled = false := rfl
  obtain ⟨calls, hrun, hops, hdaemon⟩ := RequestRun.perform stockHost (fun _ _ => {}) .reconcile
  refine ⟨calls, _, hrun, hops, fun call hcall => ?_⟩
  have hinert := disabled_policies_inert hrun call hcall
  rw [hdaemon call hcall] at hinert
  exact ⟨hinert.1 hdisabled, hinert.2 hoff⟩

end GhafDeviceManager
