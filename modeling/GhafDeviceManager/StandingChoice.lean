import GhafDeviceManager.AttachMemory
import GhafDeviceManager.CleanPass
import GhafDeviceManager.Disconnects

/-!
# Whether a choice of VM stands

A request may give a device to any VM its rule allows. The passes after it attach the device again,
to the VM they choose themselves, which is no change only if they choose the same one.
-/

namespace GhafDeviceManager

open Fallible

structure Seat where
  device : UsbDevice
  vm : Vm
  node : String
  port : UInt8
  generation : String

/-- The manager's records and Crosvm's list both have the device there. -/
structure Seated (s : Seat) (w : World) : Prop where
  remembered : Remembered w s.device s.node s.vm.name s.port s.generation
  running : w.sockets s.vm.socket = some s.generation
  listed : ∃ item ∈ w.ports s.vm.socket, item.1 = s.port

/-- Neither a detach of the device's port nor another attach of it. -/
def Seat.LeftAlone (s : Seat) : Op → Prop
  | .usbDetach vm port => ¬(vm.socket = s.vm.socket ∧ port = s.port)
  | .usbAttach _ node => node ≠ s.node
  | _ => True

/-- Crosvm goes on listing what it was not told to detach. -/
def keepsPorts (w : World) : Op → Choice → Prop
  | .usbDetach vm port, c => ∀ item ∈ w.ports vm.socket, item.1 ≠ port →
    item ∈ (c.setPorts w vm.socket).ports vm.socket
  | .usbAttach vm _, c => ∀ item ∈ w.ports vm.socket,
    item ∈ (c.setPorts w vm.socket).ports vm.socket
  | _, _ => True

/-- Passes, with what they call, while the VM runs on and nothing is plugged in or out. -/
inductive Passing (s : Seat) (w₀ : World) : World → List (World × Op) → Prop
  | start : Passing s w₀ w₀ []
  | around {w w' : World} {calls : List (World × Op)} (h : Passing s w₀ w calls)
      (hw : Surroundings w w') (hbus : w'.bus = w.bus)
      (hrunning : w'.sockets s.vm.socket = w.sockets s.vm.socket)
      (hports : ∀ item ∈ w.ports s.vm.socket, item ∈ w'.ports s.vm.socket) : Passing s w₀ w' calls
  | pass {w w' : World} {calls tr : List (World × Op)} {r : Except Error Unit}
      (h : Passing s w₀ w calls)
      (hexec : Exec (machine keepsPorts) (reconcile w.daemon).run w tr w' (some r)) :
      Passing s w₀ w' (calls ++ tr)

/-! ## Where the passes choose the same -/

def Seat.named (s : Seat) (binding : UsbPortBinding) : Prop :=
  bindingCurrent binding s.vm.name s.generation = true ∧ binding.port = s.port

/-- The device as a scan shows it: at its node and with its ids. -/
structure Seat.Shown (s : Seat) (device : UsbDevice) : Prop where
  sysName : device.sysName = s.device.sysName
  node : device.deviceNode = some s.node
  vid : device.vid = s.device.vid
  pid : device.pid = s.device.pid
  serial : device.serial = s.device.serial

/-- No other device lays claim to the seat, and the rule names no other VM. -/
def Undisputed (s : Seat) (w : World) : Op → Prop
  | .enter (.attachOneUsb device rule requestedVm) =>
    s.Shown device ∧ (∀ vm ∈ rule.targetVm, vm = s.vm.name) ∨
      device.sysName ≠ s.device.sysName ∧ device.deviceNode ≠ some s.node ∧
        (∀ binding ∈ w.known device, ¬s.named binding) ∧
        (device.persistentId = s.device.persistentId →
          ∀ vm ∈ w.chosen device rule requestedVm, vm = s.vm.name)
  | .enter (.detachOneUsb device _) =>
    ∀ node ∈ device.deviceNode, w.holder device node = some s.vm.name →
      looksLike device (w.known device) (w.generation s.vm.socket) (w.ports s.vm.socket) s.port =
        false
  | .enter .observe => (∃ x ∈ w.usbRouted w.daemon, x.1.sysName = s.device.sysName) ∧
    ∀ seen ∈ w.memory.observedUsb.entries, seen.1 ≠ s.device.sysName →
      seen.2.deviceNode ≠ some s.node ∧
        ∀ binding ∈ w.memory.persistent.crosvmUsbPorts.lookup seen.1, ¬s.named binding
  | _ => True

/-- The port is shown with the device's ids, and the socket is no other VM's. -/
structure Seat.Plain (s : Seat) (w : World) : Prop where
  configured : w.daemon.vm s.vm.name = some s.vm
  socket : ∀ vm ∈ w.daemon.config.vms, vm.socket = s.vm.socket → vm = s.vm
  node : s.device.deviceNode = some s.node
  shown : (w.ports s.vm.socket).any (fun item => item.1 == s.port && showsDevice s.device item) =
    true

structure Standing (s : Seat) (d : Daemon) (w : World) : Prop extends Seated s w, s.Plain w where
  daemon : w.daemon = d
  selected : w.memory.persistent.selectedVms.lookup s.device.persistentId = some s.vm.name

/-- The operation leaves the seat as it is, and gives the device no other. -/
def Seat.Spares (s : Seat) : Op → Prop
  | .update (.usbVmsInsert node vm) => node = s.node → vm = s.vm.name
  | .update (.usbVmsRemove node) => node ≠ s.node
  | .update (.selectVm id vm) => id = s.device.persistentId → vm = s.vm.name
  | .update (.crosvmUsbPortsInsert device vm port generation) =>
    device.sysName = s.device.sysName →
      portBinding device vm port generation = portBinding s.device s.vm.name s.port s.generation
  | .update (.crosvmUsbPortsRemove sysName) => sysName ≠ s.device.sysName
  | op => s.LeftAlone op

section Frame

variable {s : Seat} {d : Daemon} {w w' : World} {op : Op}

theorem leftAlone_of_spares (h : s.Spares op) : s.LeftAlone op := by
  cases op <;> first | exact h | trivial

theorem Standing.congr (h : Standing s d w) (hdaemon : w'.daemon = w.daemon)
    (hsockets : w'.sockets s.vm.socket = w.sockets s.vm.socket)
    (hports : ∀ item ∈ w.ports s.vm.socket, item.1 = s.port → item ∈ w'.ports s.vm.socket)
    (hholder : w'.memory.usbVms.lookup s.node = some s.vm.name)
    (hknown : w'.known s.device = some (portBinding s.device s.vm.name s.port s.generation))
    (hselected : w'.memory.persistent.selectedVms.lookup s.device.persistentId =
      some s.vm.name) : Standing s d w' := by
  have hlisted : ∃ item ∈ w'.ports s.vm.socket, item.1 = s.port := by
    obtain ⟨item, hitem, hport⟩ := h.listed
    exact ⟨item, hports item hitem hport, hport⟩
  have hshown : (w'.ports s.vm.socket).any
      (fun item => item.1 == s.port && showsDevice s.device item) = true := by
    obtain ⟨item, hitem, hboth⟩ := List.any_eq_true.1 h.shown
    obtain ⟨hport, -⟩ := Bool.and_eq_true_iff.1 hboth
    exact List.any_eq_true.2 ⟨item, hports item hitem (eq_of_beq hport), hboth⟩
  have hseated : Seated s w' := ⟨⟨hholder, hknown⟩, hsockets.trans h.running, hlisted⟩
  have hplain : s.Plain w' := by
    refine ⟨?_, ?_, h.node, hshown⟩
    · rw [hdaemon]
      exact h.configured
    · rw [hdaemon]
      exact h.socket
  exact ⟨hseated, hplain, hdaemon.trans h.daemon, hselected⟩

theorem Standing.approached (h : Standing s d w) (hw : Approached w w') : Standing s d w' := by
  refine h.congr hw.daemon (by rw [hw.sockets]) (fun item hitem _ => ?_) ?_ ?_ ?_
  · rwa [hw.ports]
  · rw [hw.usbVms]
    exact h.remembered.holder
  · rw [World.known, hw.persistent]
    exact h.remembered.known
  · rw [hw.persistent]
    exact h.selected

theorem Standing.record (h : Standing s d w) (effect : Effect) : Standing s d (w.record effect) :=
  h.congr rfl rfl (fun _ hitem _ => hitem) h.remembered.holder h.remembered.known h.selected

theorem standing_react {c : Choice} (h : Standing s d w) (hc : keepsPorts w op c)
    (hop : s.Spares op) : Standing s d (react w op c).2 := by
  have hsame : ∀ w₁ : World, w₁.daemon = w.daemon → w₁.sockets = w.sockets →
      w₁.ports = w.ports → w₁.memory = w.memory → Standing s d w₁ := by
    intro w₁ hdaemon hsockets hports hmemory
    refine h.congr hdaemon (by rw [hsockets]) (fun item hitem _ => by rwa [hports]) ?_ ?_ ?_
    · rw [hmemory]
      exact h.remembered.holder
    · rw [World.known, hmemory]
      exact h.remembered.known
    · rw [hmemory]
      exact h.selected
  cases op with
  | update u =>
      have hupdated : ∀ {m : Memory}, m = u.apply w.memory →
          m.usbVms.lookup s.node = some s.vm.name →
          m.persistent.crosvmUsbPorts.lookup s.device.sysName =
            some (portBinding s.device s.vm.name s.port s.generation) →
          m.persistent.selectedVms.lookup s.device.persistentId = some s.vm.name →
          Standing s d (react w (.update u) c).2 := by
        rintro _ rfl hholder hknown hselected
        have hrest : (react w (.update u) c).2.daemon = w.daemon ∧
            (react w (.update u) c).2.sockets = w.sockets ∧
            (react w (.update u) c).2.ports = w.ports ∧
            (react w (.update u) c).2.memory = u.apply w.memory := by
          cases u <;> exact ⟨rfl, rfl, rfl, rfl⟩
        obtain ⟨hdaemon, hsockets, hports, hmemory⟩ := hrest
        refine h.congr hdaemon (by rw [hsockets]) (fun item hitem _ => by rwa [hports]) ?_ ?_ ?_
        · rwa [hmemory]
        · rwa [World.known, hmemory]
        · rwa [hmemory]
      have hholder := h.remembered.holder
      have hknown : w.memory.persistent.crosvmUsbPorts.lookup s.device.sysName =
        some (portBinding s.device s.vm.name s.port s.generation) := h.remembered.known
      have hselected := h.selected
      cases u with
      | usbVmsInsert node vm =>
          refine hupdated rfl ?_ hknown hselected
          by_cases hnode : s.node = node
          · rw [hnode, ← hop hnode.symm]
            exact AList.lookup_insert _
          · exact (AList.lookup_insert_ne hnode).trans hholder
      | usbVmsRemove node =>
          exact hupdated rfl ((AList.lookup_erase_ne (Ne.symm hop)).trans hholder) hknown hselected
      | selectVm id vm =>
          refine hupdated rfl hholder hknown ?_
          by_cases hid : s.device.persistentId = id
          · rw [hid, ← hop hid.symm]
            exact AList.lookup_insert _
          · exact (AList.lookup_insert_ne hid).trans hselected
      | crosvmUsbPortsInsert device vm port generation =>
          refine hupdated rfl hholder ?_ hselected
          by_cases hname : s.device.sysName = device.sysName
          · rw [hname, ← hop hname.symm]
            exact AList.lookup_insert _
          · exact (AList.lookup_insert_ne hname).trans hknown
      | crosvmUsbPortsRemove sysName =>
          exact hupdated rfl hholder ((AList.lookup_erase_ne (Ne.symm hop)).trans hknown) hselected
      | _ => exact hupdated rfl hholder hknown hselected
  | usbAttach vm node =>
      refine h.congr rfl rfl (fun item hitem _ => ?_) h.remembered.holder h.remembered.known
        h.selected
      change item ∈ (c.setPorts w vm.socket).ports s.vm.socket
      rw [setPorts_ports]
      split
      case isTrue heq => exact hc item (heq ▸ hitem)
      case isFalse => exact hitem
  | usbDetach vm port =>
      refine h.congr rfl rfl (fun item hitem hport => ?_) h.remembered.holder h.remembered.known
        h.selected
      change item ∈ (c.setPorts w vm.socket).ports s.vm.socket
      rw [setPorts_ports]
      split
      case isTrue heq =>
        refine hc item (heq ▸ hitem) fun hsame => hop ⟨heq.symm, ?_⟩
        exact hsame.symm.trans hport
      case isFalse => exact hitem
  | authorize name value =>
      simp only [react]
      split
      · exact h
      · exact hsame _ rfl rfl rfl rfl
  | _ => exact hsame _ rfl rfl rfl rfl

end Frame

section Footprints

variable {s : Seat} {op : Op}

theorem spares_of_observes (h : op.Observes) : s.Spares op := by
  cases op <;> first | exact h.elim | trivial

theorem spares_of_glue (h : op.Glue) : s.Spares op := by
  cases op with
  | update u => cases u <;> first | exact h.elim | trivial
  | _ => first | exact h.elim | trivial

theorem spares_of_gates (h : op.Gates) : s.Spares op := by
  cases op with
  | update u => cases u <;> first | exact h.elim | trivial
  | _ => first | exact h.elim | trivial

theorem spares_of_sweeps (h : op.Sweeps) : s.Spares op := by
  cases op with
  | update u => exact h.elim
  | _ => first | exact h.elim | trivial

theorem spares_of_attachesPci {device : PciDevice} (h : op.AttachesPci device) : s.Spares op := by
  cases op with
  | update u => cases u <;> first | exact h.elim | trivial
  | _ => first | exact h.elim | trivial

theorem spares_of_approaches {device : UsbDevice} (h : op.Approaches device) : s.Spares op := by
  cases op with
  | update u => cases u <;> first | exact h.elim | trivial
  | _ => first | exact h.elim | trivial

theorem spares_of_finishes {device : UsbDevice} {vm : Vm} {node : String} {claim : PortClaim}
    (hname : device.sysName ≠ s.device.sysName) (hnode : node ≠ s.node)
    (hid : device.persistentId = s.device.persistentId → vm.name = s.vm.name)
    (hstale : vm.socket = s.vm.socket → claim.stalePort ≠ some s.port)
    (h : op.Finishes device vm node claim) : s.Spares op := by
  cases op with
  | update u =>
      cases u with
      | usbVmsInsert n v =>
          intro hsame
          exact absurd (h.1.symm.trans hsame) hnode
      | selectVm id v =>
          intro hsame
          rw [h.2]
          exact hid (h.1.symm.trans hsame)
      | crosvmUsbPortsInsert other v port generation =>
          intro hsame
          rw [h.1] at hsame
          exact absurd hsame hname
      | _ => first | exact h.elim | trivial
  | usbDetach v port =>
      obtain ⟨rfl, hport⟩ := h
      rintro ⟨hsocket, rfl⟩
      exact hstale hsocket hport
  | _ => first | exact h.elim | trivial

/-- The tail of an attach that has found the seat. -/
theorem spares_of_finishes_seat {device : UsbDevice} {claim : PortClaim} (h : s.Shown device)
    (hport : claim.port = s.port) (hgeneration : claim.generation = s.generation)
    (hstale : claim.stalePort = none) (hop : op.Finishes device s.vm s.node claim) :
    s.Spares op := by
  cases op with
  | update u =>
      cases u with
      | usbVmsInsert n v => exact fun _ => hop.2
      | selectVm id v => exact fun _ => hop.2
      | crosvmUsbPortsInsert other v port generation =>
          obtain ⟨rfl, rfl, rfl, rfl⟩ := hop
          intro _
          rw [portBinding, portBinding, h.vid, h.pid, h.serial, hport, hgeneration]
      | _ => first | exact hop.elim | trivial
  | usbDetach v port =>
      have hnone := hstale.symm.trans hop.2
      cases hnone
  | _ => first | exact hop.elim | trivial

end Footprints

/-- Crosvm keeps its list, and the seat is undisputed. -/
def Seat.Allows (s : Seat) (w : World) (op : Op) (c : Choice) : Prop :=
  keepsPorts w op c ∧ Undisputed s w op

section Attach

variable {s : Seat} {d : Daemon} {w : World} {device : UsbDevice} {rule : RuleMatch}

theorem harmless_of_spares {allowed : World → Op → Choice → Prop}
    (hallowed : ∀ w op c, allowed w op c → keepsPorts w op c) {op : Op} (hop : s.Spares op) :
    Harmless allowed (fun _ => s.Spares) (Standing s d) op := fun w hw =>
  ⟨hop, fun c hc => standing_react hw (hallowed w op c hc) hop⟩

theorem keeps_of_spares {α : Type} {p : Act α} (hp : Calls s.Spares p) :
    Keeps (machine s.Allows) (fun _ => s.Spares) (Standing s d) p :=
  keeps_of_harmless (Program.calls_mono hp fun _ hop =>
    harmless_of_spares (fun _ _ _ hc => hc.1) hop)

/-- The VM addressed at the seat's socket is the seat's. -/
theorem Standing.vm_of_socket (h : Standing s d w) {name : String} {vm : Vm}
    (hvm : d.vm name = some vm) (hsocket : vm.socket = s.vm.socket) : vm = s.vm := by
  refine h.socket vm ?_ hsocket
  rw [h.daemon]
  exact List.mem_of_find?_eq_some hvm

theorem Standing.generation (h : Standing s d w) : w.generation s.vm.socket = s.generation := by
  rw [World.generation, h.running]
  rfl

/-- Whenever an attach looked at the VM, it saw this instance. -/
theorem Standing.view_generation {w' : World} (h : Standing s d w) (h' : Standing s d w') :
    (w'.view s.vm (w.preflight d device s.vm)).1 = s.generation := by
  unfold World.view World.preflight
  split
  · exact h.generation
  · exact h'.generation

/-- A pass that attaches the device to its VM finds it there. -/
theorem wp_attachUsbTo_seat (hw : Standing s d w) (hshown : s.Shown device) :
    (attachUsbTo d device rule s.vm.name).wp (machine s.Allows) (fun _ => s.Spares)
      (fun _ => Standing s d) w := by
  have happroaches : ∀ op, op.Approaches device → s.Spares op := fun _ => spares_of_approaches
  refine wp_attachUsbTo (fun _ => spares_of_observes) (fun _ => hw) fun vm node _ hvm hnode => ?_
  have hconfigured : d.vm s.vm.name = some s.vm := by
    rw [← hw.daemon]
    exact hw.configured
  obtain rfl : vm = s.vm := Option.some.inj (hvm.symm.trans hconfigured)
  obtain rfl : node = s.node := Option.some.inj (hnode.symm.trans hshown.node)
  rw [wp_bind]
  refine wp_handOver (fun _ => ?_) fun other hother hne => ?_
  · rw [andThen_ok]
    refine wp_attachAuthorized (fun op hop _ _ => happroaches op hop)
      (fun _ _ => hw.approached) fun armed w₁ h₁ => ?_
    have hw₁ := hw.approached h₁
    have hseen : w₁.view s.vm (w.preflight d device s.vm) =
        (w.generation s.vm.socket, w.ports s.vm.socket) := view_preflight_approached h₁
    have hfound : w₁.reusable device s.vm (w₁.view s.vm (w.preflight d device s.vm)) =
        some s.port := by
      have hknown : w₁.known device =
          some (portBinding s.device s.vm.name s.port s.generation) :=
        (known_congr hshown.sysName).trans hw₁.remembered.known
      have hlisted : ((w.ports s.vm.socket).any fun item =>
          item.1 == s.port && showsDevice device item) = true := by
        simp only [showsDevice, hshown.vid, hshown.pid]
        exact hw.shown
      rw [hseen, World.reusable, hknown, hw.generation]
      simp [reusablePort, Option.filter, bindingCurrent, bindingIdentifies, portBinding, hlisted,
        hshown.vid, hshown.pid, hshown.serial]
    refine wp_claimPort (fun _ => spares_of_observes) (fun e => ?_) (fun port hport => ?_)
      fun hfresh => ?_
    · exact wp_rollback_throw (fun op hop _ _ => happroaches op hop) fun _ h => hw₁.approached h
    · obtain rfl : s.port = port := Option.some.inj (hfound.symm.trans hport)
      refine keeps_of_spares (Program.calls_mono (calls_finishAttach d device s.vm _ _ _)
        fun op hop => ?_) w₁ hw₁
      refine spares_of_finishes_seat hshown rfl ?_ rfl hop
      rw [hseen]
      exact hw.generation
    · rw [hfound] at hfresh
      cases hfresh
  · exact absurd (Option.some.inj (hother.symm.trans hw.remembered.holder)) hne

structure Alongside (s : Seat) (d : Daemon) (device : UsbDevice) (w : World) : Prop
    extends Standing s d w where
  apart : ∀ binding ∈ w.known device, ¬s.named binding

theorem Alongside.approached {w' : World} (h : Alongside s d device w) (hw : Approached w w') :
    Alongside s d device w' := by
  refine ⟨h.toStanding.approached hw, fun binding hbinding => h.apart binding ?_⟩
  rwa [World.known, hw.persistent] at hbinding

theorem not_stalePort_of_apart {live : List LivePort}
    (h : ∀ binding ∈ w.known device, ¬s.named binding) :
    stalePort (w.known device) s.vm.name s.generation live ≠ some s.port := by
  intro hstale
  obtain ⟨binding, hknown, hfind⟩ := Option.bind_eq_some_iff.1 hstale
  obtain ⟨hbinding, hcurrent⟩ := Option.filter_eq_some_iff.1 hknown
  obtain ⟨item, hitem, hport⟩ := Option.map_eq_some_iff.1 hfind
  have hlists := List.find?_some hitem
  simp only [listsBinding, Bool.and_eq_true, beq_iff_eq] at hlists
  exact h binding hbinding ⟨hcurrent, hlists.1.1.symm.trans hport⟩

/-- A detach command for another device does not name the seat. -/
theorem wp_detachFromVm_alongside {node vmName : String} (hw : Standing s d w)
    (hlooks : vmName = s.vm.name → looksLike device (w.known device)
      (w.generation s.vm.socket) (w.ports s.vm.socket) s.port = false) :
    (detachFromVm d device node vmName (w.known device)).wp (machine s.Allows)
      (fun _ => s.Spares) (fun _ _ => True) w := by
  have hany : (detachFromVm d device node vmName (w.known device)).wp (machine anyChoice)
      (fun _ => s.Spares) (fun _ _ => True) w := by
    refine (wp_detachFromVm _ fun op hop _ => spares_of_observes hop).2 ?_
    rintro vm hvm _ port hport ⟨hsocket, rfl⟩
    obtain rfl := hw.vm_of_socket hvm hsocket
    rw [hlooks (Daemon.vm_name hvm).symm] at hport
    cases hport
  exact wp_anti (fun _ _ _ _ => trivial) hany

theorem wp_detachOneUsb_alongside (hw : Alongside s d device w)
    (hname : device.sysName ≠ s.device.sysName) (hnode : device.deviceNode ≠ some s.node) :
    (detachOneUsb d device false).wp (machine s.Allows) (fun _ => s.Spares)
      (fun _ => Alongside s d device) w := by
  have hforget : ∀ node w', device.deviceNode = some node →
      (forgetUsb d device node false).wp (machine s.Allows) (fun _ => s.Spares)
        (fun _ _ => True) w' := by
    intro node w' hsome
    refine wp_of_footprint (calls_forgetUsb d device node false) (fun op hop _ => ?_) w'
    cases op with
    | update u =>
        cases u with
        | usbVmsRemove n =>
            obtain rfl : n = node := hop
            rintro rfl
            exact hnode hsome
        | crosvmUsbPortsRemove sysName =>
            obtain rfl : sysName = device.sysName := hop
            exact hname
        | _ => first | exact hop.elim | trivial
    | _ => first | exact hop.elim | trivial
  have hspares : (detachOneUsb d device false).wp (machine s.Allows) (fun _ => s.Spares)
      (fun _ _ => True) w := by
    rw [detachOneUsb, wp_bind, enter, wp_operation]
    refine ⟨trivial, fun c hc => ?_⟩
    have hundisputed : ∀ node ∈ device.deviceNode, w.holder device node = some s.vm.name →
        looksLike device (w.known device) (w.generation s.vm.socket) (w.ports s.vm.socket) s.port =
          false := hc.2
    have hentered : Standing s d (react w (.enter (.detachOneUsb device false)) c).2 :=
      standing_react hw.toStanding hc.1 trivial
    rw [react, andThen_ok, wp_bind, wp_require]
    cases hsome : device.deviceNode with
    | none => trivial
    | some node =>
        rw [Option.elim_some, andThen_ok, wp_bind, readMemory, wp_operation]
        refine ⟨trivial, fun _ _ => ?_⟩
        rw [react, andThen_ok]
        dsimp only
        split
        case h_1 vmName hholder =>
          rw [wp_bind]
          refine wp_imp (wp_detachFromVm_alongside hentered fun hvm => ?_) fun r w' _ => ?_
          · exact hundisputed node hsome (hholder.trans (congrArg some hvm))
          · cases r with
            | error e => trivial
            | ok _ => exact hforget node w' hsome
        case h_2 => exact hforget node _ hsome
  have hcalls := wp_of_footprint (M := machine s.Allows)
    (G := fun _ op => op.Detaches device false) (calls_detachOneUsb_detaches d device false)
    (fun _ hop _ => hop) w
  refine wp_mono (Program.wp_invariant (wp_and hspares hcalls) ?_ ?_ hw) (fun _ _ h => h.2.1)
    fun _ _ h => h.1
  · rintro w _ rfl h
    exact h
  · rintro w op hw ⟨hop, hdetaches⟩ r w' ⟨c, hc, hreact⟩
    obtain rfl : (react w op c).2 = w' := congrArg Prod.snd hreact
    refine ⟨standing_react hw.toStanding hc.1 hop, fun binding hbinding => ?_⟩
    rw [World.known, (react_remembers w op c).2] at hbinding
    by_cases hrebinds : op.Rebinds device.sysName
    · have hremoved : (op.remember w.memory).persistent.crosvmUsbPorts.lookup device.sysName =
          none := by
        cases op with
        | update u =>
            cases u with
            | crosvmUsbPortsRemove sysName =>
                obtain rfl : sysName = device.sysName := hdetaches
                exact AList.lookup_erase _ _
            | crosvmUsbPortsInsert => exact hdetaches.elim
            | _ => exact hrebinds.elim
        | _ => exact hrebinds.elim
      rw [hremoved] at hbinding
      cases hbinding
    · rw [lookup_remember hrebinds] at hbinding
      exact hw.apart binding hbinding

/-- A pass that attaches another device takes nothing of the seat. -/
theorem wp_attachUsbTo_alongside {vmName : String} (hw : Alongside s d device w)
    (hname : device.sysName ≠ s.device.sysName) (hnode : device.deviceNode ≠ some s.node)
    (hid : device.persistentId = s.device.persistentId → vmName = s.vm.name) :
    (attachUsbTo d device rule vmName).wp (machine s.Allows) (fun _ => s.Spares)
      (fun _ => Standing s d) w := by
  have happroaches : ∀ op, op.Approaches device → s.Spares op := fun _ => spares_of_approaches
  refine wp_attachUsbTo (fun _ => spares_of_observes) (fun _ => hw.toStanding)
    fun vm node _ hvm hsome => ?_
  have hother : node ≠ s.node := by
    rintro rfl
    exact hnode hsome
  have hclaim : ∀ w₁, Alongside s d device w₁ → (attachAuthorized d device vm node
      (w.memory.usbVms.lookup node) (w.preflight d device vm)).wp (machine s.Allows)
        (fun _ => s.Spares) (fun _ => Standing s d) w₁ := by
    intro w₁ hw₁
    refine wp_attachAuthorized (fun op hop _ _ => happroaches op hop)
      (fun _ _ h => hw₁.toStanding.approached h) fun armed w₂ h₂ => ?_
    have hw₂ := hw₁.approached h₂
    have hfinish : ∀ claim w₃, Standing s d w₃ →
        (vm.socket = s.vm.socket → claim.stalePort ≠ some s.port) →
        (finishAttach d device vm node (w.memory.usbVms.lookup node) claim).wp (machine s.Allows)
          (fun _ => s.Spares) (fun _ => Standing s d) w₃ := by
      intro claim w₃ hw₃ hstale
      refine keeps_of_spares (Program.calls_mono (calls_finishAttach d device vm node _ claim)
        fun op hop => ?_) w₃ hw₃
      refine spares_of_finishes hname hother (fun h => ?_) hstale hop
      rw [Daemon.vm_name hvm]
      exact hid h
    have hrollback : ∀ e w₃, Standing s d w₃ → wp (machine s.Allows) (fun _ => s.Spares)
        (do rollback device armed; throw e) (fun (_ : Except Error Unit) => Standing s d) w₃ :=
      fun e w₃ hw₃ => wp_rollback_throw (fun op hop _ _ => happroaches op hop)
        fun _ h => hw₃.approached h
    refine wp_claimPort (fun _ => spares_of_observes) (fun e => hrollback e w₂ hw₂.toStanding)
      (fun port _ => hfinish _ w₂ hw₂.toStanding fun _ => nofun) fun _ => ⟨hother, fun c hc => ?_⟩
    have hw₃ : Standing s d (react w₂ (.usbAttach vm node) c).2 :=
      standing_react hw₂.toStanding hc.1 hother
    cases hfail : c.fail
    · simp only [Choice.result, hfail, Bool.false_eq_true, if_false]
      refine hfinish _ _ hw₃ fun hsocket hstale => ?_
      obtain rfl := hw₂.vm_of_socket hvm hsocket
      obtain ⟨hport, -⟩ := Option.filter_eq_some_iff.1 hstale
      rw [hw.view_generation hw₂.toStanding] at hport
      exact not_stalePort_of_apart hw₂.apart hport
    · simp only [Choice.result, hfail, if_true]
      exact hrollback _ _ hw₃
  rw [wp_bind]
  refine wp_handOver (fun _ => hclaim w hw) fun _ _ _ => ?_
  refine wp_imp (wp_detachOneUsb_alongside hw hname hnode) fun r w₁ hw₁ => ?_
  cases r with
  | error e => exact hw₁.toStanding
  | ok _ => exact hclaim w₁ hw₁

end Attach

/-! ## A pass -/

section Pass

variable {s : Seat} {d : Daemon} {w : World}

/-- The seat stands, and the records of these other names do not name it. -/
structure StandsApart (s : Seat) (d : Daemon) (names : String → Prop) (w : World) : Prop
    extends Standing s d w where
  apart : ∀ name, names name → ∀ binding ∈ w.memory.persistent.crosvmUsbPorts.lookup name,
    ¬s.named binding

/-- Another record is at most taken away. -/
theorem harmless_apart {names : String → Prop} {op : Op} (hop : s.Spares op)
    (hremoves : ∀ name, op.Rebinds name → op = .update (.crosvmUsbPortsRemove name)) :
    Harmless s.Allows (fun _ => s.Spares) (StandsApart s d names) op := by
  intro w hw
  refine ⟨hop, fun c hc => ⟨standing_react hw.toStanding hc.1 hop, ?_⟩⟩
  intro name hname binding hbinding
  rw [(react_remembers w op c).2] at hbinding
  by_cases hrebinds : op.Rebinds name
  · obtain rfl := hremoves name hrebinds
    have hremoved : (Op.remember (.update (.crosvmUsbPortsRemove name))
        w.memory).persistent.crosvmUsbPorts.lookup name = none := AList.lookup_erase _ _
    rw [hremoved] at hbinding
    cases hbinding
  · rw [lookup_remember hrebinds] at hbinding
    exact hw.apart name hname binding hbinding

theorem keeps_forgetVanished {names : String → Prop} {key : String} {device : UsbDevice}
    (hkey : names key) (hname : key ≠ s.device.sysName) (hnode : device.deviceNode ≠ some s.node) :
    Keeps (machine s.Allows) (fun _ => s.Spares) (StandsApart s d names)
      (forgetVanished d key device) := by
  have hdrop : Keeps (machine s.Allows) (fun _ => s.Spares) (StandsApart s d names)
      (dropVanished d key device) := by
    refine keeps_of_harmless (Program.calls_mono (calls_dropVanished key device) fun op hop => ?_)
    cases op with
    | update u =>
        cases u with
        | usbVmsRemove node =>
            refine harmless_apart ?_ fun _ h => h.elim
            rintro rfl
            exact hnode hop
        | crosvmUsbPortsRemove sysName =>
            obtain rfl : sysName = key := hop
            exact harmless_apart hname fun _ h => by rw [show sysName = _ from h]
        | pendingRemove id => exact harmless_apart trivial fun _ h => h.elim
        | _ => exact hop.elim
    | notify n => exact harmless_apart trivial fun _ h => h.elim
    | save => exact harmless_apart trivial fun _ h => h.elim
    | lock l => exact harmless_apart trivial fun _ h => h.elim
    | unlock l => exact harmless_apart trivial fun _ h => h.elim
    | _ => exact hop.elim
  have hquiet : ∀ op : Op, op.Observes →
      Harmless s.Allows (fun _ => s.Spares) (StandsApart s d names) op := fun op hop =>
    harmless_apart (spares_of_observes hop) fun _ h => by
      cases op <;> first | exact hop.elim | exact h.elim
  intro w hw
  rw [forgetVanished, wp_bind, readMemory, wp_operation]
  refine ⟨trivial, fun _ _ => ?_⟩
  rw [react, andThen_ok]
  cases hbinding : w.memory.persistent.crosvmUsbPorts.lookup key with
  | none => exact hdrop w hw
  | some binding =>
      have hrelease : (releasePort d binding).wp (machine s.Allows) (fun _ => s.Spares)
          (fun _ => StandsApart s d names) w := by
        rw [releasePort, wp_bind, Daemon.vmNamed, wp_require]
        cases hvm : d.vm binding.vm with
        | none => exact hw
        | some vm =>
            rw [Option.elim_some, andThen_ok, wp_bind, socketGeneration, wp_operation]
            refine ⟨trivial, fun _ _ => ?_⟩
            rw [react, andThen_ok]
            split
            case isFalse => exact hw
            rw [wp_bind, wp_operation]
            refine ⟨trivial, fun _ _ => ?_⟩
            rw [react, andThen_ok]
            split
            case isFalse => exact hw
            case isTrue hcurrent =>
              have hspares : s.Spares (.usbDetach vm binding.port) := by
                rintro ⟨hsocket, hport⟩
                obtain rfl := hw.vm_of_socket hvm hsocket
                refine hw.apart key hkey binding hbinding ⟨?_, hport⟩
                have hgeneration : binding.socketGeneration = s.generation := by
                  rw [hw.running] at hcurrent
                  exact eq_of_beq hcurrent
                simp [bindingCurrent, hgeneration, Daemon.vm_name hvm]
              refine keeps_bind (keeps_request (hquiet _ (by trivial)) _) (fun live => ?_) w hw
              refine keeps_ite (keeps_request ?_ _) (keeps_pure _)
              exact harmless_apart hspares fun _ h => h.elim
      rw [wp_bind]
      refine wp_imp hrelease fun r w₁ hw₁ => ?_
      cases r with
      | error e => exact hw₁
      | ok _ => exact hdrop w₁ hw₁

theorem keeps_observe :
    Keeps (machine s.Allows) (fun _ => s.Spares) (Standing s d) (observe d) := by
  intro w hw
  have hquiet : ∀ {names : String → Prop} (op : Op), op.Observes →
      Harmless s.Allows (fun _ => s.Spares) (StandsApart s d names) op := fun op hop =>
    harmless_apart (spares_of_observes hop) fun _ h => by
      cases op <;> first | exact hop.elim | exact h.elim
  have hobserve : (observe d).wp (machine s.Allows) (fun _ => s.Spares)
      (fun _ => StandsApart s d fun key => ∃ device, w.memory.observedUsb.lookup key = some device ∧
        key ≠ s.device.sysName) w := by
    refine wp_observe_of hquiet trivial (fun devices => harmless_apart trivial fun _ h => h.elim)
      (fun op hop => ?_) fun c hc => ?_
    · cases op with
      | update u =>
          cases u <;> first | exact hop.elim | exact harmless_apart trivial fun _ h => h.elim
      | _ => exact hquiet _ hop
    · obtain ⟨hrouted, hothers⟩ : (∃ x ∈ w.usbRouted w.daemon, x.1.sysName = s.device.sysName) ∧
        ∀ seen ∈ w.memory.observedUsb.entries, seen.1 ≠ s.device.sysName →
          seen.2.deviceNode ≠ some s.node ∧
            ∀ binding ∈ w.memory.persistent.crosvmUsbPorts.lookup seen.1, ¬s.named binding := hc.2
      have hseen : ∀ {key device}, w.memory.observedUsb.lookup key = some device →
          (⟨key, device⟩ : Sigma fun _ : String => UsbDevice) ∈ w.memory.observedUsb.entries :=
        fun h => AList.mem_lookup_iff.1 h
      have hentered : Standing s d (react w (.enter .observe) c).2 :=
        standing_react hw hc.1 trivial
      refine ⟨⟨hentered, ?_⟩, ?_⟩
      · rintro key ⟨device, hkey, hname⟩
        exact (hothers ⟨key, device⟩ (hseen hkey) hname).2
      · intro key device hkey hgone
        rw [hw.daemon] at hrouted
        obtain ⟨x, hx, hseat⟩ := hrouted
        have hname : key ≠ s.device.sysName := by
          rintro rfl
          exact hgone x hx hseat
        exact keeps_forgetVanished ⟨device, hkey, hname⟩ hname
          (hothers ⟨key, device⟩ (hseen hkey) hname).1
  exact wp_imp hobserve fun _ _ h => h.toStanding

theorem wp_attachOneUsb_standing {device : UsbDevice} {rule : RuleMatch} (hw : Standing s d w) :
    (attachOneUsb d device rule
      (resumeTarget rule w.memory.persistent.selectedVms device.persistentId)).wp
        (machine s.Allows) (fun _ => s.Spares) (fun _ => Standing s d) w := by
  have hcalled := hw.record (.entered (.attachOneUsb device rule
    (resumeTarget rule w.memory.persistent.selectedVms device.persistentId)))
  have hpending := calls_pending device rule (S := s.Spares) (fun _ => spares_of_observes) trivial
  refine wp_attachOneUsb trivial (fun _ => spares_of_observes)
    (fun _ => keeps_of_spares hpending _ hcalled) fun c hc vmName hvm => ?_
  obtain ⟨hshown, hrule⟩ | ⟨hname, hnode, hapart, hid⟩ := hc.2
  · have hid : device.persistentId = s.device.persistentId := by
      rw [UsbDevice.persistentId, UsbDevice.persistentId, hshown.vid, hshown.pid, hshown.serial]
    have hseat : vmName = s.vm.name := by
      rw [World.chosen, chooseVm_resumeTarget, chooseVm, hid, hw.selected] at hvm
      cases htarget : rule.targetVm with
      | none =>
          rw [htarget] at hvm
          exact (Option.some.inj hvm).symm
      | some target =>
          rw [htarget] at hvm
          rw [← Option.some.inj hvm]
          exact hrule target htarget
    rw [hseat]
    exact wp_attachUsbTo_seat hcalled hshown
  · exact wp_attachUsbTo_alongside ⟨hcalled, hapart⟩ hname hnode fun h => hid h vmName hvm

theorem keeps_reconcile :
    Keeps (machine s.Allows) (fun _ => s.Spares) (Standing s d) (reconcile d) := by
  have hglue : ∀ op : Op, op.Glue → Harmless s.Allows (fun _ => s.Spares) (Standing s d) op :=
    fun op hop => harmless_of_spares (fun _ _ _ hc => hc.1) (spares_of_glue hop)
  have hpci : Keeps (machine s.Allows) (fun _ => s.Spares) (Standing s d) (resumePci d none) :=
    resumePci_keeps_of hglue fun device rule w hw _ _ => keeps_of_spares
      (Program.calls_mono (calls_attachOnePci d device rule rule.targetVm)
        fun _ => spares_of_attachesPci) w hw
  have husb : Keeps (machine s.Allows) (fun _ => s.Spares) (Standing s d) (resumeUsb d none) :=
    resumeUsb_keeps_of hglue fun device rule w hw _ _ => wp_attachOneUsb_standing hw
  have hgate : Calls s.Spares (applyUsbGate d) :=
    Program.calls_mono (calls_applyUsbGate d) fun _ => spares_of_gates
  have hsweep : Calls s.Spares (deauthorizeUnmatchedUsb d) :=
    Program.calls_mono (calls_deauthorizeUnmatchedUsb d) fun _ => spares_of_sweeps
  exact reconcile_keeps_of hglue (keeps_of_spares hgate) keeps_observe hpci husb
    (keeps_of_spares hsweep)

end Pass

/-! ## The request -/

section Request

variable {d : Daemon} {device : UsbDevice} {rule : RuleMatch} {vmName : String}

/-- Only this VM is selected, and a device is recorded once it is. -/
def SelectsFirst (vmName : String) (m : Memory) : Op → Prop
  | .update (.selectVm _ vm) => vm = vmName
  | .update (.crosvmUsbPortsInsert device _ _ _) =>
    m.persistent.selectedVms.lookup device.persistentId = some vmName
  | _ => True

def Op.Unselecting (op : Op) : Prop := ∀ vmName m, SelectsFirst vmName m op

theorem unselecting_of_observes {op : Op} (h : op.Observes) : op.Unselecting := by
  intro vmName m
  cases op <;> first | exact h.elim | trivial

theorem unselecting_of_approaches {op : Op} (h : op.Approaches device) : op.Unselecting := by
  intro vmName m
  cases op with
  | update u => cases u <;> first | exact h.elim | trivial
  | _ => trivial

theorem unselecting_of_detaches {op : Op} {permanent : Bool} (h : op.Detaches device permanent) :
    op.Unselecting := by
  intro vmName m
  cases op with
  | update u => cases u <;> first | exact h.elim | trivial
  | _ => trivial

variable {admits : Op → Prop}

theorem keeps_unselecting {α : Type} {p : Act α} (hp : Calls Op.Unselecting p) :
    Keeps (remembering admits) (SelectsFirst vmName) (fun _ => True) p :=
  fun _ _ => wp_of_calls_remembering hp (fun _ hop _ _ => ⟨hop _ _, trivial⟩) trivial

/-- The selection comes before the record, and a failed save comes between them. -/
theorem keeps_recordAttachment {node : String} {claim : PortClaim} :
    Keeps (remembering admits) (SelectsFirst vmName) (fun _ => True)
      (recordAttachment d device vmName node claim) := by
  have hsave : ∀ {m : Memory},
      m.persistent.selectedVms.lookup device.persistentId = some vmName →
      wp (remembering admits) (SelectsFirst vmName) (saveState d)
        (fun _ m => m.persistent.selectedVms.lookup device.persistentId = some vmName) m :=
    fun hm => wp_of_calls_remembering (S := fun op => op = .save) (calls_saveState rfl)
      (fun op hop m hm => by subst hop; exact ⟨trivial, hm⟩) hm
  intro m _
  refine wp_withLock_remembering (fun _ => trivial) (fun _ => trivial) ?_
  rw [wp_bind, update, wp_remembering]
  refine ⟨trivial, fun _ _ _ => ?_⟩
  rw [andThen_ok, wp_bind, selectVm, wp_bind, update, wp_remembering]
  refine ⟨rfl, fun _ _ _ => ?_⟩
  rw [andThen_ok]
  refine wp_imp (hsave (AList.lookup_insert _)) fun r m₁ h₁ => ?_
  cases r with
  | error e => trivial
  | ok _ =>
      rw [andThen_ok, wp_bind, setDisconnected, wp_bind, update, wp_remembering]
      refine ⟨trivial, fun _ _ _ => ?_⟩
      rw [andThen_ok]
      refine wp_imp (hsave h₁) fun r m₂ h₂ => ?_
      cases r with
      | error e => trivial
      | ok _ =>
          rw [andThen_ok, wp_bind, update, wp_remembering]
          refine ⟨h₂, fun _ _ _ => ?_⟩
          rw [andThen_ok]
          exact keeps_unselecting (calls_saveState fun _ _ => trivial) _ trivial

theorem keeps_finishAttach {vm : Vm} {node : String} {current : Option String}
    {claim : PortClaim} : Keeps (remembering admits) (SelectsFirst vm.name) (fun _ => True)
      (finishAttach d device vm node current claim) := by
  have hend : Calls Op.Unselecting (do
      update (.pendingRemove device.persistentId)
      if current ≠ some vm.name ∨ claim.attached then
        notify (.usbAttached device vm.name)) :=
    calls_bind (calls_request fun _ _ => trivial) fun _ =>
      calls_ite (calls_request fun _ _ => trivial) trivial
  have hrecords : Keeps (remembering admits) (SelectsFirst vm.name) (fun _ => True)
      (recordAttachment d device vm.name node claim) := keeps_recordAttachment
  have hrecord := keeps_bind hrecords fun _ => keeps_unselecting hend
  unfold finishAttach
  cases claim.stalePort with
  | none => exact hrecord
  | some stale =>
      exact keeps_bind (keeps_unselecting (calls_request fun _ _ => trivial)) fun _ => hrecord

theorem keeps_attachOneUsb :
    Keeps (remembering admits) (SelectsFirst vmName) (fun _ => True)
      (attachOneUsb d device rule (some vmName)) := by
  have happroach : ∀ {α : Type} {p : Act α}, Calls (Op.Approaches device) p →
      Keeps (remembering admits) (SelectsFirst vmName) (fun _ => True) p := fun hp =>
    keeps_unselecting (Program.calls_mono hp fun _ => unselecting_of_approaches)
  have hquiet : ∀ {op : Op}, op.Observes → op.Unselecting := unselecting_of_observes
  have hmain : ∀ vm : Vm, vm.name = vmName → ∀ node current seen,
      Keeps (remembering admits) (SelectsFirst vmName) (fun _ => True)
        (attachAuthorized d device vm node current seen) := by
    rintro vm rfl node current seen
    refine keeps_bind (happroach (calls_usbAuthorizationGuard d device)) fun armed => ?_
    have hrollback : Keeps (remembering admits) (SelectsFirst vm.name) (fun _ => True)
        (rollback device armed) := happroach (calls_rollback rfl)
    have hclaim : Calls Op.Unselecting (claimUsb device vm node seen) := by
      refine calls_bind (calls_configureUsb (hquiet trivial) (hquiet trivial)
        fun _ _ => trivial) fun _ => ?_
      refine calls_bind (calls_withContext _ (calls_request fun _ _ => trivial)) fun names => ?_
      refine calls_bind (calls_releaseHostDrivers (fun _ _ _ => trivial) (fun _ _ _ => trivial)
        (fun _ _ => trivial) names) fun stopped => ?_
      refine calls_ite (by trivial) (calls_bind ?_ fun claim => trivial)
      exact calls_claimPort (hquiet trivial) (hquiet trivial) (hquiet trivial) fun _ _ => trivial
    refine keeps_bind (keeps_attempt (keeps_unselecting hclaim)) fun r => ?_
    match r with
    | .error e => exact keeps_bind hrollback fun _ => keeps_throw e
    | .ok none => exact hrollback
    | .ok (some claim) => exact keeps_finishAttach
  have hrest : ∀ vm : Vm, vm.name = vmName → Keeps (remembering admits) (SelectsFirst vmName)
      (fun _ => True) (do
        let seen ← preflight d device vm
        let node ← require "USB device has no device node" device.deviceNode
        let current := (← readMemory .state).usbVms.lookup node
        handOver d device current vmName
        attachAuthorized d device vm node current seen) := by
    intro vm hvm
    refine keeps_bind (keeps_unselecting (calls_preflight (hquiet trivial) (hquiet trivial)))
      fun seen => ?_
    refine keeps_bind (keeps_unselecting (calls_require _ _)) fun node => ?_
    refine keeps_bind (keeps_unselecting (calls_request (hquiet trivial))) fun m => ?_
    refine keeps_bind (keeps_unselecting ?_) fun _ => hmain vm hvm node _ seen
    cases m.usbVms.lookup node with
    | none => trivial
    | some name =>
        refine calls_ite ?_ (by trivial)
        exact Program.calls_mono (calls_detachOneUsb_detaches d device false)
          fun _ => unselecting_of_detaches
  refine keeps_bind (keeps_unselecting (calls_request fun _ _ => trivial)) fun _ => ?_
  refine keeps_bind (keeps_unselecting (calls_request (hquiet trivial))) fun m => ?_
  intro m _
  change wp (remembering admits) (SelectsFirst vmName) (attachUsbTo d device rule vmName)
    (fun _ _ => True) m
  rw [attachUsbTo]
  split
  · trivial
  · rw [wp_bind, Daemon.vmNamed, wp_require]
    cases hvm : d.vm vmName with
    | none => trivial
    | some vm =>
        have hname := Daemon.vm_name hvm
        rw [Option.elim_some, andThen_ok]
        dsimp only
        split
        · rw [wp_bind]
          have hsocket : (Op.socketGeneration vm.socket).Unselecting := hquiet trivial
          refine wp_imp (keeps_unselecting (calls_request hsocket) m trivial) ?_
          rintro (e | generation) m' -
          · trivial
          · rw [andThen_ok]
            split
            · trivial
            · exact hrest vm hname m' trivial
        · exact hrest vm hname m trivial

theorem keeps_attachUsb {selector : Selector} :
    Keeps (remembering admits) (SelectsFirst vmName) (fun _ => True)
      (attachUsb d selector (some vmName)) := by
  have hquiet : ∀ {op : Op}, op.Observes → op.Unselecting := unselecting_of_observes
  have hselected : Calls Op.Unselecting (selectedUsb d selector) :=
    calls_selectedUsb selector (hquiet trivial)
  intro m _
  refine wp_withLock_remembering (fun _ => trivial) (fun _ => trivial) ?_
  refine keeps_bind (keeps_unselecting hselected) (fun devices => ?_) m trivial
  refine keeps_bind (keeps_foldlM (fun failures x => ?_) []) fun failures => ?_
  · exact keeps_collect keeps_attachOneUsb
  · exact keeps_unselecting (calls_aggregate failures)

end Request

/-- A request leaves every device it records selected for its VM. -/
theorem selected_of_recorded {allowed : World → Op → Choice → Prop} {w w' : World}
    {selector : Selector} {vmName : String} {tr : List (World × Op)}
    {o : Option (Except Error Unit)} (h : Exec (machine allowed)
      (attachUsb w.daemon selector (some vmName)).run w tr w' o) {e : World × Op} (he : e ∈ tr)
    {device : UsbDevice} {vm : String} {port : UInt8} {generation : String}
    (hop : e.2 = .update (.crosvmUsbPortsInsert device vm port generation)) :
    w'.memory.persistent.selectedVms.lookup device.persistentId = some vmName := by
  have hkeeps : Keeps (remembering fun _ => True) (SelectsFirst vmName) (fun _ => True)
      (attachUsb w.daemon selector (some vmName)) := keeps_attachUsb
  have hselects :=
    (Program.wp_remembered (remembers_machine allowed) (hkeeps w.memory trivial) h
      fun _ _ => trivial).1
  have hnow := hselects e he
  rw [hop] at hnow
  refine (h.memory_lasts (I := fun m => m.persistent.selectedVms.lookup device.persistentId =
    some vmName) (remembers_machine allowed) fun e' he' m hm => ?_).2 e he hnow
  have hop' := hselects e' he'
  cases hcall : e'.2 with
  | update u =>
      cases u with
      | selectVm id v =>
          rw [hcall] at hop'
          obtain rfl : v = vmName := hop'
          by_cases hid : device.persistentId = id
          · rw [hid]
            exact AList.lookup_insert _
          · exact (AList.lookup_insert_ne hid).trans hm
      | _ => exact hm
  | _ => exact hm

/-! ## Runs -/

section Runs

variable {s : Seat} {d : Daemon} {w₀ w w' : World} {calls : List (World × Op)}

/-- Passes over an undisputed seat leave it standing, and issue nothing against it. -/
theorem Passing.standing (h : Passing s w₀ w calls) (hstart : Standing s d w₀)
    (hcalls : ∀ e ∈ calls, Undisputed s e.1 e.2) :
    Standing s d w ∧ ∀ e ∈ calls, s.LeftAlone e.2 := by
  induction h with
  | start => exact ⟨hstart, by simp⟩
  | around _ hw _ hrunning hports ih =>
      obtain ⟨hstanding, halone⟩ := ih hcalls
      refine ⟨hstanding.congr hw.daemon hrunning (fun item hitem _ => hports item hitem) ?_ ?_ ?_,
        halone⟩
      · rw [hw.memory]
        exact hstanding.remembered.holder
      · rw [World.known, hw.memory]
        exact hstanding.remembered.known
      · rw [hw.memory]
        exact hstanding.selected
  | pass _ hexec ih =>
      obtain ⟨hbefore, hpass⟩ := List.forall_mem_append.1 hcalls
      obtain ⟨hstanding, halone⟩ := ih hbefore
      rw [hstanding.daemon] at hexec
      obtain ⟨hspares, hend⟩ :=
        Program.wp_sound (keeps_reconcile _ hstanding) (Exec.restrict hexec hpass)
      refine ⟨hend _ rfl, List.forall_mem_append.2 ⟨halone, fun e he => ?_⟩⟩
      exact leftAlone_of_spares (hspares e he)

/-- A request that gave the device to a VM of its choice stands over any number of passes in which
the seat is undisputed. -/
theorem explicit_choice_stands {selector : Selector} {tr : List (World × Op)} {w₁ : World}
    (hrequest : Exec (machine keepsPorts) (attachUsb w₀.daemon selector (some s.vm.name)).run w₀ tr
      w (some (.ok ())))
    (hrecorded : (w₁, .update (.crosvmUsbPortsInsert s.device s.vm.name s.port s.generation)) ∈ tr)
    (hseated : Seated s w) (hplain : s.Plain w) (hrun : Passing s w w' calls)
    (hcalls : ∀ e ∈ calls, Undisputed s e.1 e.2) :
    Seated s w' ∧ ∀ e ∈ calls, s.LeftAlone e.2 := by
  have hselected := selected_of_recorded hrequest hrecorded rfl
  have hstart : Standing s w.daemon w := ⟨hseated, hplain, rfl, hselected⟩
  obtain ⟨hstanding, halone⟩ := hrun.standing hstart hcalls
  exact ⟨hstanding.toSeated, halone⟩

end Runs

/-! ## A keyboard with and without a target VM -/

instance (s : Seat) (binding : UsbPortBinding) : Decidable (s.named binding) := by
  unfold Seat.named
  infer_instance

instance (s : Seat) (device : UsbDevice) : Decidable (s.Shown device) :=
  decidable_of_iff (device.sysName = s.device.sysName ∧ device.deviceNode = some s.node ∧
      device.vid = s.device.vid ∧ device.pid = s.device.pid ∧ device.serial = s.device.serial)
    ⟨fun h => ⟨h.1, h.2.1, h.2.2.1, h.2.2.2.1, h.2.2.2.2⟩,
      fun h => ⟨h.sysName, h.node, h.vid, h.pid, h.serial⟩⟩

instance (s : Seat) (w : World) (op : Op) : Decidable (Undisputed s w op) := by
  delta Undisputed
  induction op using Op.casesOn with
  | enter entry => induction entry using Entry.casesOn <;> infer_instance
  | _ => infer_instance

instance (s : Seat) (op : Op) : Decidable (s.LeftAlone op) := by
  delta Seat.LeftAlone
  induction op using Op.casesOn <;> infer_instance

instance (w : World) (op : Op) (c : Choice) : Decidable (keepsPorts w op c) := by
  delta keepsPorts
  induction op using Op.casesOn <;> infer_instance

def guiSeat : Seat where
  device := firstKeyboard
  vm := guiVm
  node := "/dev/bus/usb/001/004"
  port := 1
  generation := "gui-first"

/-- The keyboard with a rule that gives it to the second VM and lets the first one ask. -/
def targetedKeyboard : World :=
  { sharedKeyboard with
    daemon := plainDaemon [keyboardRule [("targetVm", .string "net-vm"),
      ("allowedVms", .array [.string "gui-vm"])]] }

def World.granted (w : World) : World := w.perform onPortOne toGui

theorem exec_onPortOne {w : World} {o : Operation}
    (hports : ∀ e ∈ w.trace onPortOne o, keepsPorts e.1 e.2 (onPortOne e.1 e.2))
    (hok : ((o.program w.daemon).run.follow react onPortOne w).2.2.toBool = true) :
    Exec (machine keepsPorts) (o.program w.daemon).run w (w.trace onPortOne o)
      (w.perform onPortOne o) (some (.ok ())) :=
  exec_ok hports hok

theorem passing_onPortOne {s : Seat} {w : World}
    (hports : ∀ e ∈ w.trace onPortOne .reconcile, keepsPorts e.1 e.2 (onPortOne e.1 e.2))
    (hok : ((reconcile w.daemon).run.follow react onPortOne w).2.2.toBool = true) :
    Passing s w (w.perform onPortOne .reconcile) ([] ++ w.trace onPortOne .reconcile) :=
  .pass .start (exec_onPortOne hports hok)

theorem explicit_choice_stands_sharedKeyboard :
    Seated guiSeat (sharedKeyboard.granted.perform onPortOne .reconcile) ∧
      ∀ e ∈ sharedKeyboard.granted.trace onPortOne .reconcile, guiSeat.LeftAlone e.2 := by
  have hrequest := exec_onPortOne (w := sharedKeyboard) (o := toGui) (by decide +kernel)
    (by decide +kernel)
  have hcall : ∃ e ∈ sharedKeyboard.trace onPortOne toGui,
      e.2.recordedPort = some (firstKeyboard, "gui-vm", 1, "gui-first") := by decide +kernel
  obtain ⟨⟨w₁, op⟩, he, hop⟩ := hcall
  obtain rfl := Op.eq_crosvmUsbPortsInsert hop
  have hseated : Seated guiSeat sharedKeyboard.granted :=
    ⟨⟨by decide +kernel, by decide +kernel⟩, by decide +kernel, by decide +kernel⟩
  have hplain : guiSeat.Plain sharedKeyboard.granted :=
    ⟨by decide +kernel, by decide +kernel, by decide +kernel, by decide +kernel⟩
  have hrun : Passing guiSeat sharedKeyboard.granted _ _ :=
    passing_onPortOne (by decide +kernel) (by decide +kernel)
  exact explicit_choice_stands (s := guiSeat) hrequest he hseated hplain hrun (by decide +kernel)

/-- The next pass takes the keyboard from the VM of the request to the rule's own. -/
theorem explicit_choice_undone : ¬∀ (s : Seat) (w₀ w₁ w w' : World) (selector : Selector)
    (tr calls : List (World × Op)), Reachable keepsPorts w₀ →
    w₀.daemon.vm s.vm.name = some s.vm → s.device.deviceNode = some s.node →
    Exec (machine keepsPorts) (attachUsb w₀.daemon selector (some s.vm.name)).run w₀ tr w
      (some (.ok ())) →
    (w₁, .update (.crosvmUsbPortsInsert s.device s.vm.name s.port s.generation)) ∈ tr →
    Seated s w → Passing s w w' calls → Seated s w' ∧ ∀ e ∈ calls, s.LeftAlone e.2 := by
  intro hclaim
  have hreachable : Reachable keepsPorts targetedKeyboard := .initial (by decide) rfl rfl rfl
  have hrequest := exec_onPortOne (w := targetedKeyboard) (o := toGui) (by decide +kernel)
    (by decide +kernel)
  have hcall : ∃ e ∈ targetedKeyboard.trace onPortOne toGui,
      e.2.recordedPort = some (firstKeyboard, "gui-vm", 1, "gui-first") := by decide +kernel
  obtain ⟨⟨w₁, op⟩, he, hop⟩ := hcall
  obtain rfl := Op.eq_crosvmUsbPortsInsert hop
  have hseated : Seated guiSeat targetedKeyboard.granted :=
    ⟨⟨by decide +kernel, by decide +kernel⟩, by decide +kernel, by decide +kernel⟩
  have hrun : Passing guiSeat targetedKeyboard.granted _ _ :=
    passing_onPortOne (by decide +kernel) (by decide +kernel)
  have hundone : ∃ e ∈ targetedKeyboard.granted.trace onPortOne .reconcile,
      ¬guiSeat.LeftAlone e.2 := by decide +kernel
  obtain ⟨e, hmem, hnot⟩ := hundone
  exact hnot ((hclaim guiSeat _ _ _ _ _ _ _ hreachable (by decide +kernel) (by decide +kernel)
    hrequest he hseated hrun).2 e hmem)

end GhafDeviceManager
