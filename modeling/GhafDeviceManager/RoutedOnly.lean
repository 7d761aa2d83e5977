import GhafDeviceManager.Requests

/-!
# Only what a rule routes reaches a VM

The commands that hand a device to a VM are issued in two places. What is behind each is in the
transcript of its request: a scan that showed the device, the rule the configuration gives it, and
for PCI devices the IOMMU group that was read.
-/

namespace GhafDeviceManager

open Fallible

/-! ## Grounds for a command -/

/-- The node is one of a scanned device that a rule routes to the VM. -/
def UsbGrounds (d : Daemon) (t : Transcript Op Reply) (vm : Vm) (node : String) : Prop :=
  ∃ device rule, ShowsUsb t device ∧ device.deviceNode = some node ∧
    d.usbRule device = some rule ∧ (rule.targetVm = some vm.name ∨ vm.name ∈ rule.allowedVms)

def Op.Enters : Op → Prop
  | .enter _ => True
  | _ => False

/-- The latest call of a part was the attach of this device, which a scan had shown and the rule
routes, and the group was read since. -/
structure PciBehalf (d : Daemon) (t : Transcript Op Reply) (device : PciDevice) (rule : RuleMatch)
    (group : List String) : Prop where
  routed : d.pciRule device = some rule
  entered : ∃ newer older requestedVm,
    t = newer ++ ⟨.enter (.attachOnePci device rule requestedVm), ()⟩ :: older ∧
      (∀ e ∈ newer, ¬e.1.Enters) ∧ ShowsPci older device ∧
        (⟨.iommuGroup device.address, .ok group⟩ : (op : Op) × Reply op) ∈ newer

/-- The address is that of a device routed to the VM, or of its group where the rule adds it whole,
and no group is shared where the rule says so. -/
def PciGrounds (d : Daemon) (t : Transcript Op Reply) (vm : Vm) (address : String) : Prop :=
  ∃ device rule group, PciBehalf d t device rule group ∧ rule.targetVm = some vm.name ∧
    (address = device.address ∨ rule.iommuAddAll = true ∧ address ∈ group) ∧
      (rule.iommuSkipIfShared = true → group.length ≤ 1)

structure Grounded (d : Daemon) (t : Transcript Op Reply) (op : Op) : Prop where
  usb : ∀ vm node, op = .usbAttach vm node → UsbGrounds d t vm node
  pci : ∀ vm address, op = .vfioAdd vm address → PciGrounds d t vm address

def Op.Withholds : Op → Prop
  | .usbAttach _ _ | .vfioAdd _ _ => False
  | _ => True

section Grounds

variable {d : Daemon} {t : Transcript Op Reply} {op : Op}

theorem Op.Withholds.grounded (h : op.Withholds) (d : Daemon) (t : Transcript Op Reply) :
    Grounded d t op := by
  constructor
  · rintro vm node rfl
    exact h.elim
  · rintro vm address rfl
    exact h.elim

theorem withholds_of_observes (h : op.Observes) : op.Withholds := by
  cases op <;> trivial

theorem withholds_of_glue (h : op.Glue) : op.Withholds := by
  cases op <;> trivial

theorem withholds_of_gates (h : op.Gates) : op.Withholds := by
  cases op <;> trivial

theorem withholds_of_clears (h : op.Clears) : op.Withholds := by
  cases op <;> trivial

theorem withholds_of_sweeps (h : op.Sweeps) : op.Withholds := by
  cases op <;> trivial

theorem withholds_of_detaches {device : UsbDevice} {permanent : Bool}
    (h : op.Detaches device permanent) : op.Withholds := by
  cases op <;> trivial

theorem withholds_of_detachesPci {device : PciDevice} {permanent : Bool}
    (h : op.DetachesPci device permanent) : op.Withholds := by
  cases op <;> trivial

theorem withholds_of_binds (h : op.Binds) : op.Withholds := by
  cases op <;> trivial

theorem withholds_parts (d : Daemon) : PartsCall Op.Withholds d where
  glue _ hop := withholds_of_glue hop
  detachUsb device permanent := Program.calls_mono (calls_detachOneUsb_detaches d device permanent)
    fun _ => withholds_of_detaches
  detachPci device rule permanent := Program.calls_mono (calls_detachOnePci d device rule permanent)
    fun _ => withholds_of_detachesPci
  bind address := Program.calls_mono (calls_bindVfio_binds address) fun _ => withholds_of_binds
  enable := Program.calls_mono (calls_enableUsbAuthorization d) fun _ => withholds_of_gates
  close := Program.calls_mono (calls_closeUsbGate d) fun _ => withholds_of_gates
  open_ := Program.calls_mono (calls_openUsbGate d) fun _ => withholds_of_gates
  gate := Program.calls_mono (calls_applyUsbGate d) fun _ => withholds_of_gates
  observe := Program.calls_mono (calls_observe d) fun _ => withholds_of_clears
  sweep := Program.calls_mono (calls_deauthorizeUnmatchedUsb d) fun _ => withholds_of_sweeps

end Grounds

/-! ## USB -/

/-- What an attach hands over, by its rule. -/
def Op.HandsUsb (device : UsbDevice) (rule : RuleMatch) : Op → Prop
  | .usbAttach vm node => device.deviceNode = some node ∧ vm.name ∈ allowedVms rule
  | op => op.Withholds

section Usb

variable {d : Daemon} {device : UsbDevice} {rule : RuleMatch} {op : Op}

theorem hands_of_withholds (h : op.Withholds) : op.HandsUsb device rule := by
  cases op <;> first | exact h | exact h.elim

theorem hands_of_approaches (h : op.Approaches device) : op.HandsUsb device rule := by
  cases op <;> trivial

theorem calls_attachAuthorized_hands {vm : Vm} {node : String}
    (hnode : device.deviceNode = some node) (hvm : vm.name ∈ allowedVms rule)
    (current : Option String) (seen : Option (String × List LivePort)) :
    Calls (Op.HandsUsb device rule) (attachAuthorized d device vm node current seen) := by
  refine calls_bind (Program.calls_mono (calls_usbAuthorizationGuard d device)
    fun _ => hands_of_approaches) fun armed => ?_
  have hrollback : Calls (Op.HandsUsb device rule) (rollback device armed) := calls_rollback trivial
  have hclaim : Calls (Op.HandsUsb device rule) (claimUsb device vm node seen) := by
    refine calls_bind (calls_configureUsb trivial trivial trivial) fun _ => ?_
    refine calls_bind (calls_withContext _ (calls_request trivial)) fun names => ?_
    refine calls_bind (calls_releaseHostDrivers (fun _ => trivial)
      (fun _ => trivial) trivial names) fun stopped => ?_
    refine calls_ite (by trivial) (calls_bind ?_ fun claim => trivial)
    exact calls_claimPort trivial trivial trivial ⟨hnode, hvm⟩
  refine calls_bind (calls_attempt hclaim) fun r => ?_
  match r with
  | .error e => exact calls_bind hrollback fun _ => trivial
  | .ok none => exact hrollback
  | .ok (some claim) =>
      refine Program.calls_mono (calls_finishAttach d device vm node current claim) fun op hop => ?_
      cases op <;> trivial

theorem calls_attachOneUsb_hands (device : UsbDevice) (rule : RuleMatch)
    (requestedVm : Option String) :
    Calls (Op.HandsUsb device rule) (attachOneUsb d device rule requestedVm) := by
  refine calls_bind (calls_request trivial) fun _ => calls_bind (calls_request trivial) fun m => ?_
  have hrest : ∀ vm : Vm, vm.name ∈ allowedVms rule → ∀ vmName,
      Calls (Op.HandsUsb device rule) (do
        let seen ← preflight d device vm
        let node ← require "USB device has no device node" device.deviceNode
        let current := (← readMemory .state).usbVms.lookup node
        handOver d device current vmName
        attachAuthorized d device vm node current seen) := by
    intro vm hvm vmName
    refine calls_bind (calls_preflight trivial trivial) fun seen => ?_
    refine calls_require_bind fun node hnode => ?_
    refine calls_bind (calls_request trivial) fun m => ?_
    refine calls_bind ?_ fun _ => calls_attachAuthorized_hands hnode hvm _ seen
    cases m.usbVms.lookup node with
    | none => trivial
    | some name =>
        refine calls_ite ?_ (by trivial)
        exact Program.calls_mono (calls_detachOneUsb_detaches d device false)
          fun _ hop => hands_of_withholds (withholds_of_detaches hop)
  split
  case h_1 =>
    exact calls_pending device rule (fun _ hop => hands_of_withholds (withholds_of_observes hop))
      trivial
  case h_2 vmName _ =>
    refine calls_ite_of (fun _ => by trivial) fun hallowed => ?_
    have hmem : vmName ∈ allowedVms rule := by simpa using hallowed
    refine calls_require_bind fun vm hvm => ?_
    have hname := hrest vm (by rwa [Daemon.vm_name hvm]) vmName
    exact calls_ite (calls_bind (calls_request trivial) fun _ => calls_ite (by trivial) hname) hname

/-- An attach of a scanned device by its rule hands over that device, to a VM of the rule. -/
theorem wp_attachOneUsb_grounded {requestedVm : Option String} {t : Transcript Op Reply}
    (hshown : ShowsUsb t device) (hrule : d.usbRule device = some rule) :
    wp Machine.transcript (Grounded d) (attachOneUsb d device rule requestedVm)
      (fun _ _ => True) t := by
  refine wp_imp (wp_of_calls_transcript (I := fun t => ShowsUsb t device)
    (calls_attachOneUsb_hands device rule requestedVm) (fun t op r _ h => h.cons ⟨op, r⟩)
    (fun t op hop ht => ⟨?_, ?_⟩) hshown) fun _ _ _ => trivial
  · rintro vm node rfl
    obtain ⟨hnode, hvm⟩ := hop
    rcases List.mem_append.1 hvm with htarget | hallowed
    · exact ⟨device, rule, ht, hnode, hrule, .inl (Option.mem_toList.1 htarget)⟩
    · exact ⟨device, rule, ht, hnode, hrule, .inr hallowed⟩
  · rintro vm address rfl
    exact hop.elim

end Usb

/-! ## PCI -/

/-- What an attach hands over once the group is read. -/
def Op.HandsPci (vm : Vm) (addresses : List String) : Op → Prop
  | .vfioAdd v address => v = vm ∧ address ∈ addresses
  | .usbAttach _ _ | .enter _ => False
  | _ => True

section Pci

variable {d : Daemon} {device : PciDevice} {rule : RuleMatch} {vm : Vm} {addresses : List String}

theorem handsPci_of_binds {op : Op} (h : op.Binds) : op.HandsPci vm addresses := by
  cases op <;> trivial

theorem calls_addMissing_hands (live attach : List String) (changed : Bool)
    (hattach : ∀ address ∈ attach, address ∈ addresses) :
    Calls (Op.HandsPci vm addresses) (addMissing vm live attach changed) := by
  induction attach generalizing changed with
  | nil => trivial
  | cons address rest ih =>
      have hrest : ∀ changed, Calls (Op.HandsPci vm addresses) (addMissing vm live rest changed) :=
        fun changed => ih changed fun a ha => hattach a (List.mem_cons_of_mem address ha)
      refine calls_ite (hrest changed) ?_
      have hadd : Op.HandsPci vm addresses (.vfioAdd vm address) :=
        ⟨rfl, hattach address List.mem_cons_self⟩
      exact calls_bind (calls_withContext _ (calls_request hadd)) fun _ => hrest true

theorem calls_attachQuarantined_hands (vmName : String) (live : List String) :
    Calls (Op.HandsPci vm addresses) (attachQuarantined d device vm vmName live addresses) := by
  refine calls_bind (calls_request trivial) fun m => ?_
  refine calls_bind (calls_addMissing_hands live _ _ fun _ h => h) fun changed => ?_
  refine calls_bind (calls_withLock trivial trivial ?_) fun _ => ?_
  · refine calls_bind (calls_forM fun address _ => calls_request trivial) fun _ => ?_
    exact calls_setDisconnected trivial trivial
  · exact calls_ite (calls_request trivial) (by trivial)

theorem PciBehalf.cons {t : Transcript Op Reply} {group : List String}
    (h : PciBehalf d t device rule group) {e : (op : Op) × Reply op} (he : ¬e.1.Enters) :
    PciBehalf d (e :: t) device rule group := by
  obtain ⟨hrouted, newer, older, requestedVm, rfl, hnewer, hshown, hgroup⟩ := h
  refine ⟨hrouted, e :: newer, older, requestedVm, rfl, ?_, hshown, List.mem_cons_of_mem e hgroup⟩
  exact List.forall_mem_cons.2 ⟨he, hnewer⟩

theorem mem_routedPassthrough {group : List String} {address : String}
    (h : address ∈ passthrough device rule group) :
    address = device.address ∨ rule.iommuAddAll = true ∧ address ∈ group := by
  unfold passthrough quarantine at h
  split at h
  case isFalse => exact .inl (List.mem_singleton.1 h)
  case isTrue hall =>
    split at h
    case isTrue => exact .inl (List.mem_singleton.1 h)
    case isFalse => exact .inr ⟨hall, h⟩

/-- After the group was read, what goes to the VM is what the rule says of it. -/
theorem wp_attachGroup_grounded {t : Transcript Op Reply} {group live : List String}
    {vmName : String} (hvm : d.vm vmName = some vm) (htarget : rule.targetVm = some vmName)
    (hshared : rule.iommuSkipIfShared = true → group.length ≤ 1)
    (hbehalf : PciBehalf d t device rule group) :
    wp Machine.transcript (Grounded d) (do
      (quarantine device group).forM bindVfio
      attachQuarantined d device vm vmName live (passthrough device rule group))
      (fun _ _ => True) t := by
  have hcalls : Calls (Op.HandsPci vm (passthrough device rule group)) (do
      (quarantine device group).forM bindVfio
      attachQuarantined d device vm vmName live (passthrough device rule group)) := by
    refine calls_bind (calls_forM fun address _ => ?_) fun _ => calls_attachQuarantined_hands _ _
    exact Program.calls_mono (calls_bindVfio_binds address) fun _ => handsPci_of_binds
  refine wp_imp (wp_of_calls_transcript (I := fun t => PciBehalf d t device rule group) hcalls
    (fun t op r hop h => h.cons ?_) (fun t op hop h => ⟨?_, ?_⟩) hbehalf) fun _ _ _ => trivial
  · intro henters
    cases op <;> first | exact henters | exact hop
  · rintro v node rfl
    exact hop.elim
  · rintro v address rfl
    obtain ⟨rfl, haddress⟩ := hop
    refine ⟨device, rule, group, h, ?_, mem_routedPassthrough haddress, hshared⟩
    rw [Daemon.vm_name hvm, htarget]

theorem wp_attachOnePci_grounded {requestedVm : Option String} {t : Transcript Op Reply}
    (hshown : ShowsPci t device) (hrule : d.pciRule device = some rule) :
    wp Machine.transcript (Grounded d) (attachOnePci d device rule requestedVm)
      (fun _ _ => True) t := by
  have hquiet : ∀ op : Op, op.Withholds → ∀ t, Grounded d t op := fun op hop => hop.grounded d
  rw [attachOnePci, wp_bind, enter, wp_request_transcript]
  refine ⟨hquiet (.enter _) trivial t, fun _ => ?_⟩
  rw [andThen_ok, wp_bind, wp_require]
  cases htarget : rule.targetVm with
  | none => trivial
  | some target =>
      rw [Option.elim_some, andThen_ok]
      dsimp only
      split
      case isTrue => trivial
      case isFalse hsame =>
        have hname : requestedVm.getD target = target := not_not.1 hsame
        rw [hname, Daemon.vmNamed, wp_bind, wp_require]
        cases hvm : d.vm target with
        | none => trivial
        | some vm =>
            rw [Option.elim_some, andThen_ok, wp_bind, wp_withContext, vfioList,
              wp_request_transcript]
            refine ⟨hquiet (.vfioList vm.socket) trivial _, fun r => ?_⟩
            cases r with
            | error e => trivial
            | ok live =>
                rw [id, Except.mapError, andThen_ok, wp_bind, iommuGroupAt, wp_request_transcript]
                refine ⟨hquiet (.iommuGroup device.address) trivial _, fun r => ?_⟩
                cases r with
                | error e => trivial
                | ok group =>
                    rw [id, andThen_ok]
                    split
                    case isTrue => trivial
                    case isFalse hshared =>
                      have hbehalf : PciBehalf d (⟨.iommuGroup device.address, .ok group⟩ ::
                          ⟨.vfioList vm.socket, .ok live⟩ ::
                          ⟨.enter (.attachOnePci device rule requestedVm), ()⟩ :: t)
                          device rule group := by
                        refine ⟨hrule, [⟨.iommuGroup device.address, .ok group⟩,
                          ⟨.vfioList vm.socket, .ok live⟩], t, requestedVm, rfl, ?_, hshown,
                          List.mem_cons_self⟩
                        simp [Op.Enters]
                      refine wp_attachGroup_grounded hvm htarget (fun hskip => ?_) hbehalf
                      simpa [hskip] using hshared

end Pci

theorem grounded_parts (d : Daemon) : PartsTell (Grounded d) d where
  parts := (withholds_parts d).mono fun _ hop t => hop.grounded d t
  attachUsb _ _ _ _ hshown hrule := wp_attachOneUsb_grounded hshown hrule
  attachPci _ _ _ _ hshown hrule := wp_attachOnePci_grounded hshown hrule

/-- Whatever is asked and answered, only routed devices reach a VM. -/
theorem only_routed_devices_reach_vms {V : Type} {M : Machine Op Reply V} {v v' : V}
    {calls : List RequestCall} (h : RequestRun M v calls v') : ∀ call ∈ calls,
    (∀ vm node, call.op = .usbAttach vm node → UsbGrounds call.daemon call.told vm node) ∧
      ∀ vm address, call.op = .vfioAdd vm address →
        PciGrounds call.daemon call.told vm address := by
  have hgrounded := h.guarantee fun d request => (grounded_parts d).request_tells request []
  exact fun call hcall => ⟨(hgrounded call hcall).usb, (hgrounded call hcall).pci⟩

def routedHost : World where
  daemon :=
    { config :=
        { usbPassthrough := [keyboardRule [("targetVm", .string "gui-vm")]]
          pciPassthrough := [.object [("targetVm", .string "gui-vm"),
            ("allow", .array [.object [("address", .string "0000:00:02.0")]])]]
          vms := [guiVm, netVm] }
      host := Host.plain }
  bus := { entries := [keyboard "1-1" "4"] }
  pci := [{ address := "0000:00:02.0", iommuGroup := some ["0000:00:02.0"] }]
  sockets := Function.update (fun _ => none) guiVm.socket (some "gui-first")

def Op.hands : Op → Bool
  | .usbAttach _ _ | .vfioAdd _ _ => true
  | _ => false

/-- Both are handed over in one pass. -/
theorem only_routed_devices_reach_vms_pass : ∃ calls v,
    RequestRun (machine anyChoice) routedHost calls v ∧
      ((calls.map RequestCall.op).filter Op.hands).length = 2 ∧ ∀ call ∈ calls,
        (∀ vm node, call.op = .usbAttach vm node → UsbGrounds call.daemon call.told vm node) ∧
          ∀ vm address, call.op = .vfioAdd vm address →
            PciGrounds call.daemon call.told vm address := by
  obtain ⟨calls, hrun, hops, -⟩ := RequestRun.perform routedHost (fun _ _ => {}) .reconcile
  have hcommands : (((routedHost.trace (fun _ _ => {}) .reconcile).map Prod.snd).filter
      Op.hands).length = 2 := by decide +kernel
  exact ⟨calls, _, hrun, by rw [hops, hcommands], only_routed_devices_reach_vms hrun⟩

end GhafDeviceManager
