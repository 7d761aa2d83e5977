import GhafDeviceManager.Disconnects
import GhafDeviceManager.HolderEvents
import GhafDeviceManager.Mutex
import GhafDeviceManager.ServerSlots

/-!
# Requests side by side

Each connection is a task of its own, so requests to attach, detach, suspend and resume devices run
side by side. Each of them holds the operation lock from its beginning to its end, and what clients
see is as if the requests had come one after the other.
-/

namespace GhafDeviceManager

open Fallible

/-- What a client asks the manager to do to its devices. -/
def Action.operation? : Action → Option Operation
  | .usbAttach selector vm => some (.usbAttach selector.toSelector vm)
  | .usbDetach selector => some (.usbDetach selector.toSelector)
  | .usbSuspend vm => some (.usbSuspend vm)
  | .usbResume vm => some (.usbResume vm)
  | .pciAttach selector vm => some (.pciAttach selector.toSelector vm)
  | .pciDetach selector => some (.pciDetach selector.toSelector)
  | .pciSuspend vm => some (.pciSuspend vm)
  | .pciResume vm => some (.pciResume vm)
  | .enableNotifications | .usbList _ _ | .pciList _ _ | .vmmArgs _ _ _ _ => none

structure Command where
  action : Action
  operation : Operation
  asked : action.operation? = some operation

def Op.OutsideOperation : Op → Prop
  | .lock .operation | .unlock .operation => False
  | _ => True

theorem outside_of_mute {op : Op} (h : op.Mute) : op.OutsideOperation := by
  cases op with
  | lock l => cases l <;> trivial
  | unlock l => cases l <;> trivial
  | _ => trivial

/-! ## Inside a turn -/

section Footprints

variable {d : Daemon} {device : UsbDevice} {rule : RuleMatch}

theorem outside_calls_of_mute {α : Type} {p : Act α} (hp : Calls Op.Mute p) :
    Calls Op.OutsideOperation p := Program.calls_mono hp fun _ => outside_of_mute

theorem outside_saveState : Calls Op.OutsideOperation (saveState d) := calls_saveState trivial

theorem outside_forgetUsb {node : String} {permanent : Bool} :
    Calls Op.OutsideOperation (forgetUsb d device node permanent) := by
  refine calls_bind (calls_withLock trivial trivial ?_) fun persistence =>
    outside_calls_of_mute (mute_endForget d device persistence)
  refine calls_bind (calls_request trivial) fun _ => calls_bind (calls_request trivial) fun _ => ?_
  refine calls_attempt (calls_bind (calls_setDisconnected trivial trivial) fun _ => ?_)
  exact outside_saveState

theorem outside_detachOneUsb {permanent : Bool} :
    Calls Op.OutsideOperation (detachOneUsb d device permanent) := by
  refine calls_bind (calls_request trivial) fun _ => calls_bind (calls_require _ _) fun node => ?_
  refine calls_bind (calls_request trivial) fun m => ?_
  dsimp only
  split
  · refine calls_bind (calls_detachFromVm (fun _ => trivial) (fun _ => trivial)
      (fun _ _ => trivial) trivial) fun _ => outside_forgetUsb
  · exact outside_forgetUsb

theorem outside_finishAttach {vm : Vm} {node : String} {current : Option String}
    {claim : PortClaim} :
    Calls Op.OutsideOperation (finishAttach d device vm node current claim) := by
  have htail : Calls Op.OutsideOperation (do
      recordAttachment d device vm.name node claim
      update (.pendingRemove device.persistentId)
      if current ≠ some vm.name ∨ claim.attached then
        notify (.usbAttached device vm.name)) := by
    refine calls_bind (calls_withLock trivial trivial ?_) fun _ => ?_
    · refine calls_bind (calls_request trivial) fun _ => ?_
      refine calls_bind (calls_selectVm trivial trivial) fun _ => ?_
      refine calls_bind (calls_setDisconnected trivial trivial) fun _ => ?_
      exact calls_bind (calls_request trivial) fun _ => outside_saveState
    · refine calls_bind (calls_request trivial) fun _ => ?_
      exact calls_ite (calls_request trivial) trivial
  unfold finishAttach
  cases claim.stalePort with
  | none => exact htail
  | some stale => exact calls_bind (calls_request trivial) fun _ => htail

theorem outside_attachAuthorized {vm : Vm} {node : String} {current : Option String}
    {seen : Option (String × List LivePort)} :
    Calls Op.OutsideOperation (attachAuthorized d device vm node current seen) := by
  have hrollback : ∀ armed, Calls Op.OutsideOperation (rollback device armed) := fun armed =>
    outside_calls_of_mute (mute_rollback device armed)
  refine calls_bind (outside_calls_of_mute (mute_usbAuthorizationGuard d device)) fun armed => ?_
  have hclaim := outside_calls_of_mute (mute_claimUsb device vm node seen)
  refine calls_bind (calls_attempt hclaim) fun r => ?_
  cases r with
  | error e => exact calls_bind (hrollback armed) fun _ => trivial
  | ok claimed =>
      cases claimed with
      | none => exact hrollback armed
      | some claim => exact outside_finishAttach

theorem outside_handOver {current : Option String} {vmName : String} :
    Calls Op.OutsideOperation (handOver d device current vmName) := by
  cases current with
  | none => trivial
  | some other => exact calls_ite outside_detachOneUsb trivial

theorem outside_attachUsbTo {vmName : String} :
    Calls Op.OutsideOperation (attachUsbTo d device rule vmName) := by
  have hrest : ∀ vm : Vm, Calls Op.OutsideOperation (do
      let seen ← preflight d device vm
      let node ← require "USB device has no device node" device.deviceNode
      let current := (← readMemory .state).usbVms.lookup node
      handOver d device current vmName
      attachAuthorized d device vm node current seen) := by
    intro vm
    refine calls_bind (calls_preflight trivial trivial) fun seen => ?_
    refine calls_bind (calls_require _ _) fun node => calls_bind (calls_request trivial) fun m => ?_
    exact calls_bind outside_handOver fun _ => outside_attachAuthorized
  refine calls_ite trivial (calls_bind (calls_require _ _) fun vm => calls_ite ?_ (hrest vm))
  exact calls_bind (calls_request trivial) fun generation => calls_ite trivial (hrest vm)

theorem outside_attachOneUsb {requestedVm : Option String} :
    Calls Op.OutsideOperation (attachOneUsb d device rule requestedVm) := by
  refine calls_bind (calls_request trivial) fun _ => calls_bind (calls_request trivial) fun m => ?_
  split
  · exact outside_calls_of_mute (mute_pending device rule)
  · exact outside_attachUsbTo

theorem outside_releasePort {binding : UsbPortBinding} :
    Calls Op.OutsideOperation (releasePort d binding) := by
  refine calls_bind (calls_require _ _) fun vm => calls_bind (calls_request trivial) fun _ => ?_
  refine calls_ite (calls_bind (calls_request trivial) fun _ => calls_ite ?_ trivial) trivial
  exact calls_bind (calls_request trivial) fun live => calls_ite (calls_request trivial) trivial

theorem outside_dropVanished {key : String} :
    Calls Op.OutsideOperation (dropVanished d key device) := by
  have hrecords : Calls Op.OutsideOperation (do
      update (.crosvmUsbPortsRemove key)
      saveState d) :=
    calls_bind (calls_request trivial) fun _ => outside_saveState
  unfold dropVanished dropRecords
  refine calls_bind (calls_request trivial) fun _ => ?_
  refine calls_bind (calls_withLock trivial trivial ?_) fun _ => calls_request trivial
  cases device.deviceNode with
  | none => exact hrecords
  | some node => exact calls_bind (calls_request trivial) fun _ => hrecords

theorem outside_forgetVanished {key : String} :
    Calls Op.OutsideOperation (forgetVanished d key device) := by
  refine calls_bind (calls_request trivial) fun m => ?_
  cases m.persistent.crosvmUsbPorts.lookup key with
  | none => exact outside_dropVanished
  | some binding => exact calls_bind outside_releasePort fun _ => outside_dropVanished

theorem outside_observe : Calls Op.OutsideOperation (observe d) := by
  have husb (usb : Map UsbDevice) : Calls Op.OutsideOperation (observeUsb d usb) := by
    refine calls_withLock trivial trivial (calls_bind (calls_request trivial) fun m => ?_)
    refine calls_bind (calls_inOrder usb trivial) fun present => ?_
    refine calls_bind (calls_forM fun x _ => calls_ite (calls_request trivial) trivial) fun _ => ?_
    refine calls_bind (calls_inOrder _ trivial) fun seen => ?_
    refine calls_bind (calls_forM fun x _ => ?_) fun _ => calls_request trivial
    exact calls_ite outside_forgetVanished trivial
  have hpci (pci : Map PciDevice) : Calls Op.OutsideOperation (observePci pci) := by
    refine calls_withLock trivial trivial (calls_bind (calls_request trivial) fun m => ?_)
    refine calls_bind (calls_inOrder pci trivial) fun present => ?_
    refine calls_bind (calls_forM fun x _ => calls_ite (calls_request trivial) trivial) fun _ => ?_
    refine calls_bind (calls_inOrder _ trivial) fun seen => ?_
    refine calls_bind (calls_forM fun x _ => ?_) fun _ => calls_request trivial
    refine calls_ite (calls_bind (calls_request trivial) fun _ => calls_request trivial) trivial
  refine calls_bind (calls_request trivial) fun _ => ?_
  refine calls_bind (calls_usbDevices trivial) fun usb => ?_
  refine calls_bind (calls_pciDevices trivial fun _ => trivial) fun pci => ?_
  exact calls_bind (husb _) fun _ => hpci _

end Footprints

/-! ## Turns -/

section Turns

variable {d : Daemon}

theorem guarded_withLock {α : Type} {p : Act α} (hp : Calls Op.OutsideOperation p) :
    (withLock .operation p).run.Guarded (.lock .operation) (.unlock .operation) := by
  refine ⟨_, rfl, fun _ => ?_⟩
  refine Fallible.inside_attempt (fun h => h) (fun h => h) hp fun r => .inl ⟨rfl, fun _ => ?_⟩
  cases r with
  | ok a => exact ⟨.ok a, rfl⟩
  | error e => exact ⟨.error e, rfl⟩

/-- A loop over devices that notes what fails. -/
theorem outside_rounds {α : Type} {f : List String → α → Act (List String)}
    (hf : ∀ failures x, Calls Op.OutsideOperation (f failures x)) (devices : List α) :
    Calls Op.OutsideOperation (do
      let failures ← devices.foldlM f []
      aggregate failures) :=
  calls_bind (calls_foldlM hf []) fun failures => calls_aggregate failures

theorem guarded_operation {action : Action} {o : Operation} (h : action.operation? = some o) :
    (o.program d).run.Guarded (.lock .operation) (.unlock .operation) := by
  have husb : Calls Op.OutsideOperation (usbDevices d) := calls_usbDevices trivial
  have hpci : Calls Op.OutsideOperation (pciDevices d) := calls_pciDevices trivial fun _ => trivial
  have hattach : ∀ (device : UsbDevice) rule vm,
      Calls Op.OutsideOperation (attachOneUsb d device rule vm) := fun _ _ _ => outside_attachOneUsb
  have hdetach : ∀ (device : UsbDevice) permanent,
      Calls Op.OutsideOperation (detachOneUsb d device permanent) := fun _ _ => outside_detachOneUsb
  have hattachPci : ∀ device rule vm, Calls Op.OutsideOperation (attachOnePci d device rule vm) :=
    fun device rule vm => outside_calls_of_mute (mute_attachOnePci d device rule vm)
  have hdetachPci : ∀ device rule permanent,
      Calls Op.OutsideOperation (detachOnePci d device rule permanent) :=
    fun device rule permanent => outside_calls_of_mute (mute_detachOnePci d device rule permanent)
  cases action with
  | usbAttach selector vm =>
      obtain rfl := Option.some.inj h
      apply guarded_withLock
      refine calls_bind (calls_selectedUsb _ trivial) fun devices => ?_
      exact outside_rounds (fun failures x => calls_collect (hattach _ _ _) failures) devices
  | usbDetach selector =>
      obtain rfl := Option.some.inj h
      apply guarded_withLock
      refine calls_bind (calls_selectedUsb _ trivial) fun devices => ?_
      exact outside_rounds (fun failures x => calls_collect (hdetach _ _) failures) devices
  | usbSuspend vm =>
      obtain rfl := Option.some.inj h
      apply guarded_withLock
      refine calls_bind husb fun devices => outside_rounds (fun failures x => ?_) _
      refine calls_bind (calls_request trivial) fun m => calls_ite ?_ trivial
      exact calls_collect (hdetach _ _) failures
  | usbResume vm =>
      obtain rfl := Option.some.inj h
      apply guarded_withLock
      refine calls_bind husb fun devices => calls_bind (calls_request trivial) fun _ => ?_
      refine outside_rounds (fun failures x => ?_) devices
      exact calls_resumeUsbDevice trivial (fun _ => trivial) trivial fun _ => hattach _ _ _
  | pciAttach selector vm =>
      obtain rfl := Option.some.inj h
      apply guarded_withLock
      refine calls_bind (calls_selectedPci _ trivial fun _ => trivial) fun devices => ?_
      exact outside_rounds (fun failures x => calls_collect (hattachPci _ _ _) failures) devices
  | pciDetach selector =>
      obtain rfl := Option.some.inj h
      apply guarded_withLock
      refine calls_bind (calls_selectedPci _ trivial fun _ => trivial) fun devices => ?_
      exact outside_rounds (fun failures x => calls_collect (hdetachPci _ _ _) failures) devices
  | pciSuspend vm =>
      obtain rfl := Option.some.inj h
      apply guarded_withLock
      refine calls_bind hpci fun devices => outside_rounds (fun failures x => ?_) _
      refine calls_bind (calls_request trivial) fun m => calls_ite ?_ trivial
      exact calls_collect (hdetachPci _ _ _) failures
  | pciResume vm =>
      obtain rfl := Option.some.inj h
      apply guarded_withLock
      refine calls_bind hpci fun devices => outside_rounds (fun failures x => ?_) devices
      refine calls_bind (calls_request trivial) fun m => calls_ite trivial (calls_ite ?_ trivial)
      exact calls_collectDeferring (fun _ => trivial) trivial (hattachPci _ _ _) failures
  | enableNotifications => cases h
  | usbList disconnected tag => cases h
  | pciList disconnected tag => cases h
  | vmmArgs vm acpi evdev requirePci => cases h

/-- A pass takes its turns at the operation lock one after the other. -/
theorem paired_reconcile :
    (reconcile d).run.Paired (.lock .operation) (.unlock .operation) false := by
  have houtside {α : Type} {p : Act α} (hp : Calls Op.OutsideOperation p) :
      p.run.Paired (.lock .operation) (.unlock .operation) false :=
    Program.paired_of_calls (fun h => h) (fun h => h) hp
  have hcollect {name : String} {p : Act Unit} (failures : List String)
      (hp : p.run.Paired (.lock .operation) (.unlock .operation) false) :
      (collect name p failures).run.Paired (.lock .operation) (.unlock .operation) false := by
    refine paired_bind (paired_attempt hp) fun r => ?_
    cases r <;> rfl
  have hpci : (Action.pciResume none).operation? = some (.pciResume none) := rfl
  have husb : (Action.usbResume none).operation? = some (.usbResume none) := rfl
  refine paired_bind (houtside (calls_request trivial)) fun _ => ?_
  refine paired_bind (houtside (calls_bind (calls_attempt (outside_calls_of_mute
    (mute_applyUsbGate d))) fun _ => trivial)) fun _ => ?_
  refine paired_bind (houtside outside_observe) fun _ => ?_
  refine paired_bind (hcollect [] (guarded_operation hpci).paired) fun failures => ?_
  refine paired_bind (hcollect failures (guarded_operation husb).paired) fun failures => ?_
  refine paired_bind (hcollect failures (houtside (outside_calls_of_mute
    (mute_deauthorizeUnmatchedUsb d)))) fun failures => ?_
  exact houtside (calls_aggregate failures)

theorem handleInner_operation {boot : Boot} {action : Action} {o : Operation}
    (h : action.operation? = some o) : (handleInner d boot action).run =
      (o.program d).run >>= fun r => .pure (r.map fun _ => ResponsePayload.none) := by
  have hreply : ∀ p : Act Unit, (do
      p
      return ResponsePayload.none : Act ResponsePayload).run =
        p.run >>= fun r => .pure (r.map fun _ => ResponsePayload.none) := by
    intro p
    refine congrArg (p.run >>= ·) (funext fun r => ?_)
    cases r <;> rfl
  cases action <;> first | (obtain rfl := Option.some.inj h; exact hreply _) | cases h

end Turns

/-! ## Any number of requests -/

namespace Command

def program (d : Daemon) (boot : Boot) (c : Command) :
    Program Op Reply (Except Error ResponsePayload) :=
  (handleInner d boot c.action).run

theorem guarded (d : Daemon) (boot : Boot) (c : Command) :
    (c.program d boot).Guarded (.lock .operation) (.unlock .operation) := by
  rw [program, handleInner_operation c.asked]
  exact (guarded_operation c.asked).map

end Command

/-- The requests of the clients. -/
abbrev Commands (ι : Type) := Pool ι Command Op Reply (Except Error ResponsePayload) World

/-- The manager serves them, its surroundings moving by `env` before each call. -/
abbrev Commands.Run {ι : Type} [DecidableEq ι] (env : World → World → Prop)
    (allowed : World → Op → Choice → Prop) (d : Daemon) (boot : Boot) :
    Commands ι → Commands ι → Prop :=
  Pool.Runs (Machine.among env react allowed) (.lock .operation) (.unlock .operation)
    (Command.program d boot)

/-- Requests that clients send side by side, whatever the order of their calls, do to the world and
are answered what they would be one after the other. That order is the order in which they ended,
it only ever grows, and at most one of the others has begun. -/
theorem requests_in_turn {ι : Type} [DecidableEq ι] {env : World → World → Prop}
    {allowed : World → Op → Choice → Prop} {d : Daemon} {boot : Boot} {w₀ : World}
    {s : Commands ι} (h : Commands.Run env allowed d boot { world := w₀ } s) :
    s.served.Nodup ∧ (∀ i, (s.outcome i).isSome = true ↔ i ∈ s.served) ∧
      (∀ s', Commands.Run env allowed d boot s s' →
        s.served <+: s'.served ∧ ∀ i ∈ s.served, s'.outcome i = s.outcome i) ∧
      ∃ done w, s.served.map s.outcome = done.map some ∧
        Serially (Machine.among env react allowed) (Command.program d boot) w₀ done w ∧
        (s.holder = none ∧ s.world = w ∨ ∃ i c now tr, s.holder = some i ∧
          s.tasks i = some (c, now) ∧
          Exec (Machine.among env react allowed) (Command.program d boot c) w tr s.world none) := by
  have hne : Op.lock .operation ≠ Op.unlock .operation := by simp
  have hguarded := Command.guarded d boot
  have hserial := Pool.serial_of_runs hne hguarded h
  exact ⟨hserial.once, hserial.outcome_isSome hguarded,
    fun s' hs' => hserial.runs_served hne hguarded hs', hserial.in_turn⟩

/-- What holds of runs of whole operations holds of requests side by side. -/
theorem continues_of_serially {allowed : World → Op → Choice → Prop} {boot : Boot} {w₀ w : World}
    {done : List (Command × Except Error ResponsePayload)}
    (h : Serially (machine allowed) (Command.program w₀.daemon boot) w₀ done w) :
    Continues allowed (fun _ o => ∃ action : Action, action.operation? = some o) (fun _ => False)
      w₀ w ∧ w.daemon = w₀.daemon := by
  induction h with
  | nil => exact ⟨.start, rfl⟩
  | @snoc done w w' c tr a _ hexec ih =>
      obtain ⟨hcontinues, hdaemon⟩ := ih
      have hmoves : Exec (Machine.among Surroundings react allowed)
          (Command.program w₀.daemon boot c) w tr w' (some a) := by
        apply hexec.mono
        · rintro w _ rfl
          exact ⟨rfl, rfl, rfl, rfl⟩
        · exact fun _ _ _ _ hstep => hstep
      rw [Command.program, handleInner_operation c.asked] at hexec
      obtain ⟨hnone, -⟩ | ⟨tr₁, tr₂, w₁, r, hoperation, hreply, -⟩ := hexec.bind_inv
      · cases hnone
      · cases hreply
        rw [← hdaemon] at hoperation
        refine ⟨hcontinues.operation _ ⟨_, c.asked⟩ hoperation, ?_⟩
        exact (exec_daemon hmoves).1.trans hdaemon

/-! ### Two clients -/

def detachAbsent : Command where
  action := .usbDetach (.tag "absent")
  operation := .usbDetach { tag := some "absent" }
  asked := rfl

def suspendAll : Command where
  action := .usbSuspend none
  operation := .usbSuspend none
  asked := rfl

/-- The first gave the lock back before the second took it. -/
theorem requests_in_turn_two : ∃ s : Commands Bool, s.holder = some true ∧
    (s.served.Nodup ∧ (∀ i, (s.outcome i).isSome = true ↔ i ∈ s.served) ∧
      (∀ s', Commands.Run Eq anyChoice keyboardComing.daemon guestApi.boot s s' →
        s.served <+: s'.served ∧ ∀ i ∈ s.served, s'.outcome i = s.outcome i) ∧
      ∃ done w, s.served.map s.outcome = done.map some ∧
        Serially (Machine.among Eq react anyChoice)
          (Command.program keyboardComing.daemon guestApi.boot) keyboardComing done w ∧
        (s.holder = none ∧ s.world = w ∨ ∃ i c now tr, s.holder = some i ∧
          s.tasks i = some (c, now) ∧ Exec (Machine.among Eq react anyChoice)
            (Command.program keyboardComing.daemon guestApi.boot c) w tr s.world none)) := by
  have hfirst : Commands.Run Eq anyChoice keyboardComing.daemon guestApi.boot
      { world := keyboardComing } _ := .single (.arrive (i := false) detachAbsent rfl)
  have hboth := hfirst.tail (.arrive (i := true) suspendAll rfl)
  have htaken := hboth.tail (.take (i := false) rfl rfl rfl ⟨{}, trivial, rfl⟩)
  have hscanned := htaken.tail
    (.work (i := false) rfl (by simp) (by simp) rfl ⟨{}, trivial, rfl⟩)
  have hleft := hscanned.tail (.leave (i := false) rfl rfl ⟨{}, trivial, rfl⟩)
  have hsecond := hleft.tail (.take (i := true) rfl rfl rfl ⟨{}, trivial, rfl⟩)
  exact ⟨_, rfl, requests_in_turn hsecond⟩

end GhafDeviceManager
