import GhafDeviceManager.AttachSpec
import GhafDeviceManager.Parts

/-!
# Who owns a device and who owns a port

A detach must not take another device's port away, and an attach must not hand a device to a
second VM. Both decide from the volatile map of nodes and the persisted map of bindings; the
conditions below say where the two are enough.
-/

namespace GhafDeviceManager

open Fallible

/-! ## Detaching one device -/

/-- No detach names a port that another device's binding records at the VM's present instance. -/
def SparesOthers (device : UsbDevice) (w : World) : Op → Prop
  | .usbDetach vm port => ∀ sysName binding, sysName ≠ device.sysName →
      w.memory.persistent.crosvmUsbPorts.lookup sysName = some binding →
      bindingCurrent binding vm.name (w.generation vm.socket) = true → binding.port ≠ port
  | _ => True

/-- In every execution of the detach from this world. -/
def DetachSparesOthers (w : World) (device : UsbDevice) (permanent : Bool) : Prop :=
  ∀ tr w' o, Exec (machine anyChoice) (detachOneUsb w.daemon device permanent).run w tr w' o →
    ∀ e ∈ tr, SparesOthers device e.1 e.2

/-- A port that looks like the device's: the one its own binding records, where that is of this
generation and the port shows the device's ids, and the only one with these ids otherwise. -/
def looksLike (device : UsbDevice) (own : Option UsbPortBinding) (generation : String)
    (live : List LivePort) (port : UInt8) : Bool :=
  match own.filter fun binding => binding.socketGeneration == generation with
  | some binding => binding.port == port &&
      (live.find? fun item => item.1 == port).any (showsDevice device)
  | none => (live.filter (showsDevice device)).map Prod.fst == [port]

/-- The VM recorded for a device, by its node or else by its binding. -/
def World.holder (w : World) (device : UsbDevice) (node : String) : Option String :=
  w.memory.usbVms.lookup node <|>
    (w.memory.persistent.crosvmUsbPorts.lookup device.sysName).map UsbPortBinding.vm

/-- No other device's port looks like this one's at the VM the device is taken from. -/
def PortsApart (w : World) (device : UsbDevice) : Prop :=
  ∀ node ∈ device.deviceNode, ∀ vmName ∈ w.holder device node, ∀ vm ∈ w.daemon.vm vmName,
    (w.sockets vm.socket).isSome → ∀ sysName binding, sysName ≠ device.sysName →
      w.memory.persistent.crosvmUsbPorts.lookup sysName = some binding →
      bindingCurrent binding vm.name (w.generation vm.socket) = true →
      looksLike device (w.memory.persistent.crosvmUsbPorts.lookup device.sysName)
        (w.generation vm.socket) (w.ports vm.socket) binding.port = false

section Detach

variable {G : World → Op → Prop} {w : World} {device : UsbDevice} {vm : Vm}

theorem looksLike_current {binding : UsbPortBinding} {generation : String} {live : List LivePort}
    {port : UInt8} (h : binding.socketGeneration = generation) :
    looksLike device (some binding) generation live port = true ↔ binding.port = port ∧
      (live.find? fun item => item.1 == port).any (showsDevice device) = true := by
  simp [looksLike, Option.filter, h]

theorem looksLike_stale {binding : UsbPortBinding} {generation : String} {live : List LivePort}
    {port : UInt8} (h : binding.socketGeneration ≠ generation) :
    looksLike device (some binding) generation live port =
      looksLike device none generation live port := by
  simp [looksLike, Option.filter, h]

theorem wp_detachBoundPort (hlist : ∀ w socket, G w (.usbList socket)) (binding : UsbPortBinding) :
    (detachBoundPort device vm binding).wp (machine anyChoice) G (fun _ _ => True) w ↔
      (((w.ports vm.socket).find? fun item => item.1 == binding.port).any (showsDevice device) =
        true → G w (.usbDetach vm binding.port)) := by
  simp only [detachBoundPort, usbList, wp_bind, wp_operation, hlist, true_and, react]
  constructor
  · intro h hshows
    obtain ⟨item, hfind, hshows⟩ := (Option.any_eq_true _ _).1 hshows
    have h := h {} trivial
    simpa [Choice.result, hfind, hshows] using h
  · intro h c _
    cases hfail : c.fail with
    | true => simp [Choice.result, hfail]
    | false =>
        cases hfind : (w.ports vm.socket).find? fun item => item.1 == binding.port with
        | none => simp [Choice.result, hfail, hfind]
        | some item =>
            cases hshows : showsDevice device item with
            | false => simp [Choice.result, hfail, hfind, hshows]
            | true =>
                have hG := h (by simp [hfind, hshows])
                simp [Choice.result, hfail, hfind, hshows, hG]

theorem wp_detachMatchingPort (hlist : ∀ w socket, G w (.usbList socket)) :
    (detachMatchingPort device vm).wp (machine anyChoice) G (fun _ _ => True) w ↔
      ∀ port, ((w.ports vm.socket).filter (showsDevice device)).map Prod.fst = [port] →
        G w (.usbDetach vm port) := by
  simp only [detachMatchingPort, usbList, wp_bind, wp_operation, hlist, true_and, react]
  constructor
  · intro h port hports
    obtain ⟨item, hfilter, rfl⟩ := List.map_eq_singleton_iff.1 hports
    have h := h {} trivial
    simpa [Choice.result, hfilter] using h
  · intro h c _
    cases hfail : c.fail with
    | true => simp [Choice.result, hfail]
    | false =>
        simp only [Choice.result, hfail, Bool.false_eq_true, if_false, id_eq, andThen_ok]
        split
        case h_1 item hfilter => simp [h item.1 (by simp [hfilter])]
        all_goals trivial

theorem wp_detachFromVm {d : Daemon} {node vmName : String} (own : Option UsbPortBinding)
    (hquiet : ∀ op, op.Observes → ∀ w, G w op) :
    (detachFromVm d device node vmName own).wp (machine anyChoice) G (fun _ _ => True) w ↔
      ∀ vm, d.vm vmName = some vm → (w.sockets vm.socket).isSome →
        ∀ port, looksLike device own (w.generation vm.socket) (w.ports vm.socket) port = true →
          G w (.usbDetach vm port) := by
  have hlist : ∀ w socket, G w (.usbList socket) := fun w socket =>
    hquiet (.usbList socket) trivial w
  have hgeneration : ∀ w socket, G w (.socketGeneration socket) := fun w socket =>
    hquiet (.socketGeneration socket) trivial w
  have hnotify : ∀ (_ : Unit) w, (notify (.usbDetached node vmName)).wp (machine anyChoice) G
      (fun _ _ => True) w := fun _ w => by
    simp [hquiet (.notify (.usbDetached node vmName)) trivial w]
  have hmatching : ∀ vm w, ((detachMatchingPort device vm >>= fun _ =>
      notify (.usbDetached node vmName)).wp (machine anyChoice) G (fun _ _ => True) w ↔
      ∀ port, looksLike device none (w.generation vm.socket) (w.ports vm.socket) port = true →
        G w (.usbDetach vm port)) := fun vm w => by
    rw [wp_bind_tail hnotify, wp_detachMatchingPort hlist]
    simp [looksLike]
  cases hvm : d.vm vmName with
  | none => simp [detachFromVm, Daemon.vmNamed, hvm]
  | some vm =>
      simp only [detachFromVm, Daemon.vmNamed, hvm, wp_bind, wp_require, Option.elim_some,
        andThen_ok, socketGeneration, wp_operation, hgeneration, true_and, react,
        Option.some.injEq, forall_eq']
      cases hsocket : w.sockets vm.socket with
      | none => simp [wp_operation, hquiet (.notify (.usbDetached node vmName)) trivial w]
      | some generation =>
          have hcurrent : w.generation vm.socket = generation := by simp [World.generation, hsocket]
          rw [hcurrent]
          have hmatching := hmatching vm w
          rw [hcurrent] at hmatching
          cases own with
          | none => simpa [anyChoice] using hmatching
          | some binding =>
              by_cases hbinding : binding.socketGeneration = generation
              · have hbound :=
                  wp_bind_tail (p := detachBoundPort device vm binding) (w := w) hnotify
                rw [wp_detachBoundPort hlist] at hbound
                simp only [looksLike_current hbinding]
                simpa [anyChoice, react, hgeneration, hsocket, hbinding] using hbound
              · simp only [looksLike_stale hbinding]
                simpa [anyChoice, react, hgeneration, hsocket, hbinding] using hmatching

theorem sparesOthers_of_observes (device : UsbDevice) (op : Op) (h : op.Observes) (w : World) :
    SparesOthers device w op := by
  cases op <;> trivial

theorem sparesOthers_of_forgets {node : String} {permanent : Bool} (op : Op)
    (h : op.Forgets device node permanent) (w : World) : SparesOthers device w op := by
  cases op <;> trivial

theorem wp_detachOneUsb (w : World) (device : UsbDevice) (permanent : Bool) :
    (detachOneUsb w.daemon device permanent).wp (machine anyChoice) (SparesOthers device)
      (fun _ _ => True) w ↔ PortsApart w device := by
  have hforget : ∀ node (_ : Unit) w', (forgetUsb w.daemon device node permanent).wp
      (machine anyChoice) (SparesOthers device) (fun _ _ => True) w' := fun node _ w' =>
    wp_of_footprint (calls_forgetUsb w.daemon device node permanent) sparesOthers_of_forgets w'
  have hquiet := sparesOthers_of_observes device
  have henter : SparesOthers device w (.enter (.detachOneUsb device permanent)) := trivial
  have hread := hquiet (.read .state) trivial
  cases hnode : device.deviceNode with
  | none => simp [detachOneUsb, PortsApart, hnode, henter, react]
  | some node =>
      have hentered : ((w.record (.entered (.detachOneUsb device permanent))).holder device node) =
          w.holder device node := rfl
      simp only [detachOneUsb, enter, readMemory, wp_bind, wp_operation, henter, true_and, react,
        andThen_ok, wp_require, hnode, Option.elim_some, hread, anyChoice, forall_const]
      cases hholder : w.holder device node with
      | none =>
          have hapart : PortsApart w device := by simp [PortsApart, hnode, hholder]
          rw [hholder] at hentered
          unfold World.holder at hentered
          simp only [hentered]
          exact iff_of_true (hforget node () _) hapart
      | some vmName =>
          have hprogram := wp_bind_tail (p := detachFromVm w.daemon device node vmName
            (w.memory.persistent.crosvmUsbPorts.lookup device.sysName))
            (w := w.record (.entered (.detachOneUsb device permanent))) (hforget node)
          simp only [PortsApart, hnode, hholder, Option.mem_def, Option.some.injEq, forall_eq']
          rw [hholder] at hentered
          unfold World.holder at hentered
          simp only [hentered]
          refine hprogram.trans ((wp_detachFromVm _ hquiet).trans ?_)
          refine forall_congr' fun vm => forall₂_congr fun hvm hsocket => ?_
          constructor
          · intro h sysName binding hother hlookup hcurrent
            rw [Bool.eq_false_iff]
            intro hlooks
            exact h _ hlooks sysName binding hother hlookup hcurrent rfl
          · rintro h port hlooks sysName binding hother hlookup hcurrent rfl
            have hapart := h sysName binding hother hlookup hcurrent
            exact Bool.false_ne_true (hapart.symm.trans hlooks)

theorem detachSparesOthers_iff_wp (w : World) (device : UsbDevice) (permanent : Bool) :
    DetachSparesOthers w device permanent ↔ (detachOneUsb w.daemon device permanent).wp
      (machine anyChoice) (SparesOthers device) (fun _ _ => True) w := by
  constructor
  · intro h
    exact Program.wp_of_exec machine_total fun tr w' o hexec =>
      ⟨h tr w' o hexec, fun _ _ => trivial⟩
  · intro h tr w' o hexec
    exact (Program.wp_sound h hexec).1

/-- A detach spares the other devices exactly where none of their recorded ports looks like its
own: it identifies a port by vendor and product id and never asks whose it is. -/
theorem detach_spares_others_iff (w : World) (device : UsbDevice) (permanent : Bool) :
    DetachSparesOthers w device permanent ↔ PortsApart w device := by
  rw [detachSparesOthers_iff_wp, wp_detachOneUsb]

end Detach

def twoKeyboards : World where
  daemon := plainDaemon [keyboardRule [("targetVm", .string "gui-vm")]]
  bus := { entries := [keyboard "1-1" "4", keyboard "1-2" "5"] }
  sockets := Function.update (fun _ => none) guiVm.socket (some "first")

def attachNode (node : String) (vm : Option String := none) : Operation :=
  .usbAttach { deviceNode := some node } vm

/-- The first keyboard was attached, the VM started anew, and the second was attached. -/
def keyboardsMixedUp : World :=
  let onPortOne := granting 1 [(1, "046d", "c31c")]
  ((twoKeyboards.perform onPortOne (attachNode "/dev/bus/usb/001/004")).rebooted guiVm
    "second").perform onPortOne (attachNode "/dev/bus/usb/001/005")

theorem reachable_keyboardsMixedUp : Reachable anyChoice keyboardsMixedUp := by
  have hinitial : Reachable anyChoice twoKeyboards := .initial (by decide) rfl rfl rfl
  have hattached := hinitial.perform (granting 1 [(1, "046d", "c31c")])
    (attachNode "/dev/bus/usb/001/004") fun _ _ => trivial
  exact (hattached.reboot guiVm "second").perform _ _ fun _ _ => trivial

def firstKeyboard : UsbDevice := usbDeviceOf Host.plain.hwdb [] (keyboard "1-1" "4")

/-- Detaching the first keyboard, whose binding is of the old instance, takes the second one's
port. -/
theorem detach_takes_other_port : Reachable anyChoice keyboardsMixedUp ∧
    firstKeyboard ∈ keyboardsMixedUp.usbDevices ∧
    ¬DetachSparesOthers keyboardsMixedUp firstKeyboard true := by
  refine ⟨reachable_keyboardsMixedUp, by decide +kernel, ?_⟩
  rw [detachSparesOthers_iff_wp, wp_detachOneUsb]
  intro hapart
  have hbinding : keyboardsMixedUp.memory.persistent.crosvmUsbPorts.lookup "1-2" =
      some { vm := "gui-vm", port := 1, socketGeneration := "second", vid := some "046d",
             pid := some "c31c", serial := none } := by decide +kernel
  have hlooks := hapart "/dev/bus/usb/001/004" (by decide +kernel) "gui-vm" (by decide +kernel)
    guiVm (by decide +kernel) (by decide +kernel) "1-2" _ (by decide +kernel) hbinding
    (by decide +kernel)
  revert hlooks
  decide +kernel

/-! ## Handing a device over -/

/-- Another VM than this one still lists the port the device's binding records, in the instance
the binding is of. -/
def LiveElsewhere (w : World) (device : UsbDevice) (vmName : String) : Prop :=
  ∃ binding ∈ w.known device, ∃ vm ∈ w.daemon.config.vms, vm.name ≠ vmName ∧
    w.sockets vm.socket = some binding.socketGeneration ∧
    (w.ports vm.socket).any (listsBinding binding) = true

def SoleOwner (device : UsbDevice) (w : World) : Op → Prop
  | .usbAttach vm _ => ¬LiveElsewhere w device vm.name
  | _ => True

/-- Where the device is live in another VM, the volatile map names a VM to take it from. -/
def HandsOver (w : World) (device : UsbDevice) (rule : RuleMatch) (requestedVm : Option String) :
    Prop :=
  ∀ vmName ∈ w.chosen device rule requestedVm, ∀ node ∈ device.deviceNode,
    LiveElsewhere w device vmName → ∃ other ∈ w.memory.usbVms.lookup node, other ≠ vmName

instance (w : World) (device : UsbDevice) (vmName : String) :
    Decidable (LiveElsewhere w device vmName) := by
  unfold LiveElsewhere
  infer_instance

instance (w : World) (device : UsbDevice) (rule : RuleMatch) (requestedVm : Option String) :
    Decidable (HandsOver w device rule requestedVm) := by
  unfold HandsOver
  infer_instance

section Attach

variable {allowed : World → Op → Choice → Prop} {w : World} {device : UsbDevice}

theorem liveElsewhere_approached {w w' : World} (h : Approached w w') {vmName : String} :
    LiveElsewhere w' device vmName ↔ LiveElsewhere w device vmName := by
  simp [LiveElsewhere, World.known, h.daemon, h.sockets, h.ports, h.persistent]

theorem wp_attachAuthorized_soleOwner {d : Daemon} {vm : Vm} {node : String}
    {current : Option String} {seen : Option (String × List LivePort)}
    (h : ¬LiveElsewhere w device vm.name) :
    (attachAuthorized d device vm node current seen).wp (machine allowed) (SoleOwner device)
      (fun _ _ => True) w := by
  have hfinish : ∀ claim w', (finishAttach d device vm node current claim).wp (machine allowed)
      (SoleOwner device) (fun _ _ => True) w' := fun claim w' =>
    wp_of_footprint (calls_finishAttach d device vm node current claim)
      (fun op hop w => by cases op <;> trivial) w'
  have hrollback : ∀ armed e w', wp (machine allowed) (SoleOwner device)
      (do rollback device armed; throw e) (fun (_ : Except Error Unit) _ => True) w' := by
    intro armed e w'
    have hcalls : Calls (fun op => ∀ w, SoleOwner device w op)
        (do rollback device armed; throw e : Act Unit) :=
      calls_bind (calls_rollback fun _ => trivial) fun _ => calls_throw e
    exact wp_of_footprint hcalls (fun op hop => hop) w'
  refine wp_attachAuthorized (fun op hop w' _ => ?_) (fun _ _ _ => trivial) fun armed w' hw' => ?_
  · cases op <;> trivial
  · refine wp_claimPort (fun op hop => ?_) (fun e => hrollback armed e w')
      (fun port _ => hfinish _ w') fun _ => ⟨?_, fun c _ => ?_⟩
    · cases op <;> trivial
    · rwa [SoleOwner, liveElsewhere_approached hw']
    · cases hfail : c.fail
      · simpa [Choice.result, hfail] using hfinish _ _
      · simpa [Choice.result, hfail] using hrollback armed _ _

/-- One call: where the hand-over is told of the present owner, the device gets no second one. -/
theorem wp_attachUsbTo_soleOwner {rule : RuleMatch} {vmName : String}
    (h : ∀ node ∈ device.deviceNode, LiveElsewhere w device vmName →
      ∃ other ∈ w.memory.usbVms.lookup node, other ≠ vmName) {d : Daemon} :
    (attachUsbTo d device rule vmName).wp (machine allowed) (SoleOwner device)
      (fun _ _ => True) w := by
  have hquiet : ∀ op : Op, op.Observes → ∀ w', SoleOwner device w' op := fun op hop w' => by
    cases op <;> trivial
  refine wp_attachUsbTo (fun op hop => hquiet op hop w) (fun _ => trivial)
    fun vm node _ hvm hnode => ?_
  rw [wp_bind]
  have hname : vm.name = vmName := Daemon.vm_name hvm
  refine wp_handOver (fun hsame => ?_) fun other hother hne => ?_
  · -- nobody to take the device from, so by hypothesis it is live nowhere else
    refine wp_attachAuthorized_soleOwner fun hlive => ?_
    rw [hname] at hlive
    obtain ⟨other, hother, hne⟩ := h node hnode hlive
    exact hne (hsame other hother)
  · -- a detach that succeeds forgets the binding
    refine wp_imp (wp_detachOneUsb_forgets trivial hquiet (fun _ _ _ => trivial)
      fun n op hop w' => ?_) ?_
    · cases op <;> trivial
    · intro r w' hforgotten
      cases r with
      | error e => trivial
      | ok _ =>
          have hknown := (hforgotten rfl node hnode).known
          refine wp_attachAuthorized_soleOwner ?_
          rintro ⟨binding, hbinding, -⟩
          rw [hknown] at hbinding
          cases hbinding

/-- What a run guarantees of an attach command: it is issued by a call of `attachOneUsb`, and for
the device of this call. -/
def GivesOnce (w : World) : Op → Prop
  | .usbAttach vm _ => ∃ device ∈ w.attaching, ¬LiveElsewhere w device vm.name
  | _ => True

theorem wp_attachOneUsb_givesOnce {rule : RuleMatch} {requestedVm : Option String}
    (hcovered : ∀ c, allowed w (.enter (.attachOneUsb device rule requestedVm)) c →
      HandsOver w device rule requestedVm) {d : Daemon} :
    (attachOneUsb d device rule requestedVm).wp (machine allowed) GivesOnce
      (fun _ _ => True) w := by
  have hquiet : ∀ op : Op, op.Observes → ∀ w', GivesOnce w' op := fun op hop w' => by
    cases op <;> trivial
  have hattaching : (w.called device rule requestedVm).attaching = some device := rfl
  refine wp_attachOneUsb trivial (fun op hop => hquiet op hop _) (fun _ => ?_) ?_
  · exact wp_of_footprint (calls_pending device rule hquiet fun _ => trivial)
      (fun op hop => hop) _
  intro c hc vmName hvmName
  have hsole : (attachUsbTo d device rule vmName).wp (machine allowed) (SoleOwner device)
      (fun _ _ => True) (w.called device rule requestedVm) := by
    refine wp_attachUsbTo_soleOwner fun node hnode hlive => ?_
    exact hcovered c hc vmName hvmName node hnode hlive
  refine wp_mono (wp_and hsole (wp_attaching (Program.calls_mono
    (calls_attachUsbTo d device rule vmName) fun _ => attaches_of_assigns)
    hattaching)) (fun w' op h => ?_) fun _ _ _ => trivial
  cases op with
  | usbAttach vm node => exact ⟨device, h.2, h.1⟩
  | _ => trivial

theorem wp_operation_givesOnce (hcovered : ∀ w device rule requestedVm c,
    allowed w (.enter (.attachOneUsb device rule requestedVm)) c →
      HandsOver w device rule requestedVm) (w₀ : World) (o : Operation) :
    (o.program w₀.daemon).wp (machine allowed) GivesOnce (fun _ _ => True) w₀ := by
  have hharmless : ∀ op : Op, (∀ vm node, op ≠ .usbAttach vm node) →
      Harmless allowed GivesOnce (fun _ => True) op := by
    intro op hop w _
    refine ⟨?_, fun _ _ => trivial⟩
    cases op with
    | usbAttach vm node => exact absurd rfl (hop vm node)
    | _ => trivial
  have hparts : PartsKeep allowed GivesOnce (fun _ => True) w₀.daemon := by
    refine .of_ops (fun op hop => hharmless op ?_) (fun op hop => hharmless op ?_)
      (fun op hop => hharmless op ?_) (fun op hop => hharmless op ?_)
      (fun op hop => hharmless op ?_) (fun device rule vm w _ => ?_) fun device permanent w _ => ?_
    iterate 4
      · rintro vm node rfl
        exact hop.elim
    · rintro vm node rfl
      obtain ⟨_, h | ⟨_, h⟩⟩ := hop <;> exact h.elim
    · exact wp_attachOneUsb_givesOnce (hcovered w device rule vm)
    · have hcalls : Calls (fun op => ∀ w, GivesOnce w op)
          (detachOneUsb w₀.daemon device permanent) :=
        calls_detachOneUsb (fun _ => trivial) (fun op hop w => by cases op <;> trivial)
          (fun _ _ _ => trivial) fun node _ op hop w => by cases op <;> trivial
      exact wp_of_footprint hcalls (fun op hop => hop) w
  exact hparts.operation_keeps o w₀ trivial

/-- Single ownership: in runs whose attach calls all meet `HandsOver`, no attach command gives a
device to a VM while another one still lists the port recorded for it. Hand-over consults the
volatile map alone, which a restart empties; the persisted binding would have told. -/
theorem attach_gives_once (hcovered : ∀ w device rule requestedVm c,
    allowed w (.enter (.attachOneUsb device rule requestedVm)) c →
      HandsOver w device rule requestedVm) {w : World} {vm : Vm} {node : String}
    (h : Issued allowed w (.usbAttach vm node)) :
    ∃ device ∈ w.attaching, ¬LiveElsewhere w device vm.name :=
  h.guarantee (G := GivesOnce) (fun _ _ => trivial) fun w o _ =>
    wp_operation_givesOnce hcovered w o

end Attach

/-- The condition of `attach_gives_once`, and state saves that succeed. -/
def handsOverAndSaves (w : World) : Op → Choice → Prop
  | .enter (.attachOneUsb device rule requestedVm), _ => HandsOver w device rule requestedVm
  | .save, c => c.fail = false
  | _, _ => True

instance (w : World) (op : Op) (c : Choice) : Decidable (handsOverAndSaves w op c) := by
  unfold handsOverAndSaves
  split <;> infer_instance

def sharedKeyboard : World where
  daemon := plainDaemon [keyboardRule [("allowedVms", .array [.string "gui-vm",
    .string "net-vm"])]]
  bus := { entries := [keyboard "1-1" "4"] }
  sockets := Function.update (Function.update (fun _ => none) guiVm.socket (some "gui-first"))
    netVm.socket (some "net-first")

def toGui : Operation := attachNode "/dev/bus/usb/001/004" (some "gui-vm")

def toNet : Operation := attachNode "/dev/bus/usb/001/004" (some "net-vm")

def onPortOne : World → Op → Choice := granting 1 [(1, "046d", "c31c")]

def Op.attachTarget : Op → Option (Vm × String)
  | .usbAttach vm node => some (vm, node)
  | _ => none

theorem Op.eq_usbAttach {op : Op} {vm : Vm} {node : String}
    (h : op.attachTarget = some (vm, node)) : op = .usbAttach vm node := by
  cases op with
  | usbAttach v n =>
      obtain ⟨rfl, rfl⟩ := Prod.mk.inj (Option.some.inj h)
      rfl
  | _ => cases h

theorem attach_gives_once_sharedKeyboard : ∃ w,
    Issued (fun w op c => handsOverAndSaves w op c) w (.usbAttach guiVm "/dev/bus/usb/001/004") ∧
      ∃ device ∈ w.attaching, ¬LiveElsewhere w device "gui-vm" := by
  have hallowed : ∀ e ∈ sharedKeyboard.trace onPortOne toGui,
      handsOverAndSaves e.1 e.2 (onPortOne e.1 e.2) := by decide +kernel
  have hinitial : Reachable (fun w op c => handsOverAndSaves w op c) sharedKeyboard :=
    .initial (by decide) rfl rfl rfl
  have hcall : ∃ e ∈ sharedKeyboard.trace onPortOne toGui,
      e.2.attachTarget = some (guiVm, "/dev/bus/usb/001/004") := by decide +kernel
  obtain ⟨⟨w, op⟩, he, hop⟩ := hcall
  obtain rfl := Op.eq_usbAttach hop
  have hissued := hinitial.issued onPortOne toGui hallowed he
  exact ⟨w, hissued, attach_gives_once (fun w device rule vm c h => h) hissued⟩

/-- Attached to one VM, then to another by a new process: the binding is still live. -/
theorem attach_gives_twice_after_restart : ¬∀ w vm node,
    Issued savesSucceed w (.usbAttach vm node) →
      ∃ device ∈ w.attaching, ¬LiveElsewhere w device vm.name := by
  intro hclaim
  have hsaves : ∀ (w : World) o, ∀ e ∈ w.trace onPortOne o,
      savesSucceed e.1 e.2 (onPortOne e.1 e.2) := by
    intro w o e _
    obtain ⟨w', op⟩ := e
    cases op <;> trivial
  have hinitial : Reachable savesSucceed sharedKeyboard := .initial (by decide) rfl rfl rfl
  have hrestarted : Reachable savesSucceed
      ((sharedKeyboard.perform onPortOne toGui).restart sharedKeyboard.daemon) :=
    (hinitial.perform onPortOne toGui (hsaves _ _)).crash _ (by decide)
  have hcall : ∃ e ∈ ((sharedKeyboard.perform onPortOne toGui).restart
      sharedKeyboard.daemon).trace onPortOne toNet,
      e.2.attachTarget = some (netVm, "/dev/bus/usb/001/004") ∧
        ∀ device ∈ e.1.attaching, LiveElsewhere e.1 device "net-vm" := by decide +kernel
  obtain ⟨⟨w, op⟩, he, hop, hlive⟩ := hcall
  obtain rfl := Op.eq_usbAttach hop
  obtain ⟨device, hdevice, hnot⟩ :=
    hclaim w netVm _ (hrestarted.issued onPortOne toNet (hsaves _ _) he)
  exact hnot (hlive device hdevice)

end GhafDeviceManager
