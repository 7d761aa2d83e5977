import GhafDeviceManager.Disconnects

/-!
# What unplugged devices leave behind

A binding outlives the process that recorded it, what the process has seen does not. A pass takes
back the port of an unplugged device only if this process saw the device before.
-/

namespace GhafDeviceManager

open Fallible

/-! ## Plugged devices -/

def UsbBus.hasDevice (bus : UsbBus) (name : String) : Prop :=
  ∃ entry ∈ bus.entries, entry.name = name ∧ (entry.read "idVendor").isSome ∧
    (entry.read "busnum").isSome

instance (bus : UsbBus) (name : String) : Decidable (bus.hasDevice name) := by
  unfold UsbBus.hasDevice
  infer_instance

def World.binding (w : World) (name : String) : Option UsbPortBinding :=
  w.memory.persistent.crosvmUsbPorts.lookup name

def KeepsDevices (w : World) (c : Choice) : Prop :=
  ∀ bus ∈ c.bus, ∀ name, bus.hasDevice name ↔ w.bus.hasDevice name

/-- A Crosvm lists a port less after a detach of it, and one more at most after an attach. -/
def ListsPorts (w : World) : Op → Choice → Prop
  | .usbDetach vm port, c => ∀ item ∈ (c.setPorts w vm.socket).ports vm.socket,
    item ∈ w.ports vm.socket ∧ (c.fail = false → item.1 ≠ port)
  | .usbAttach vm _, c => ∀ item ∈ (c.setPorts w vm.socket).ports vm.socket,
    item ∈ w.ports vm.socket ∨ c.fail = false ∧ item.1 = c.port
  | _, _ => True

/-- What the kernel and Crosvm promise. -/
def promisesKept (w : World) (op : Op) (c : Choice) : Prop := KeepsDevices w c ∧ ListsPorts w op c

section Devices

variable {bus : UsbBus} {name : String} {w : World}

theorem hasDevice_modify {f : UsbEntry → UsbEntry} (hname : ∀ entry, (f entry).name = entry.name)
    (hread : ∀ entry file, file ≠ "authorized" → (f entry).read file = entry.read file)
    (other : String) : (bus.modify other f).hasDevice name ↔ bus.hasDevice name := by
  have hsame : ∀ entry : UsbEntry, (if entry.name = other then f entry else entry).name =
      entry.name ∧ ∀ file, file ≠ "authorized" →
        (if entry.name = other then f entry else entry).read file = entry.read file := by
    intro entry
    split
    · exact ⟨hname entry, hread entry⟩
    · exact ⟨rfl, fun _ _ => rfl⟩
  unfold UsbBus.hasDevice UsbBus.modify
  simp only [List.mem_map, exists_exists_and_eq_and]
  refine exists_congr fun entry => and_congr_right fun _ => ?_
  rw [(hsame entry).1, (hsame entry).2 _ (by decide), (hsame entry).2 _ (by decide)]

theorem hasDevice_unbound (interface : String) :
    (bus.unbound interface).hasDevice name ↔ bus.hasDevice name :=
  hasDevice_modify (f := fun entry => { entry with driver := none }) (fun _ => rfl)
    (fun _ _ _ => rfl) interface

theorem hasDevice_authorized (sysName : String) (value : Bool) :
    (bus.authorized sysName value).hasDevice name ↔ bus.hasDevice name := by
  unfold UsbBus.authorized
  refine hasDevice_modify ?_ (fun entry file hfile => ?_) sysName
  · exact fun _ => rfl
  have hother : (file == "authorized") = false := by simpa using hfile
  unfold UsbEntry.read
  rw [List.lookup_cons, hother]
  exact lookup_filter_ne hfile

theorem hasDevice_react {c : Choice} (hc : KeepsDevices w c) (op : Op) (name : String) :
    (react w op c).2.bus.hasDevice name ↔ w.bus.hasDevice name := by
  have hset : ∀ bus : UsbBus, (bus.hasDevice name ↔ w.bus.hasDevice name) →
      ((c.setBus w bus).bus.hasDevice name ↔ w.bus.hasDevice name) := by
    intro bus hbus
    simp only [Choice.setBus]
    split
    · rfl
    · cases hchosen : c.bus with
      | none => exact hbus
      | some after => exact hc after hchosen name
  cases op with
  | setAutoprobe value => exact hset _ Iff.rfl
  | setAuthorizedDefault value =>
      change (c.bus.getD w.bus).hasDevice name ↔ _
      cases hchosen : c.bus with
      | none => rfl
      | some after => exact hc after hchosen name
  | probe other => exact hset _ Iff.rfl
  | release interface => exact hset _ (hasDevice_unbound interface)
  | authorize other value =>
      simp only [react]
      split
      · rfl
      · exact hset _ (hasDevice_authorized other value)
  | update u => cases u <;> rfl
  | _ => rfl

theorem hasDevice_of_scanned {device : UsbDevice} (h : device ∈ w.usbDevices) :
    w.bus.hasDevice device.sysName := by
  obtain ⟨entry, hentry, hreported, rfl⟩ := mem_scanUsb.1 h
  simp only [reported, Bool.and_eq_true] at hreported
  exact ⟨entry, hentry, rfl, hreported.1.1, hreported.1.2⟩

end Devices

/-! ## A pass by its calls -/

/-- The same process, devices and VM instances as at `w₀`. -/
structure Underway (w₀ w : World) : Prop where
  daemon : w.daemon = w₀.daemon
  devices : ∀ name, w.bus.hasDevice name ↔ w₀.bus.hasDevice name
  sockets : w.sockets = w₀.sockets

namespace Underway

variable {w₀ w w' : World}

theorem refl (w : World) : Underway w w := ⟨rfl, fun _ => Iff.rfl, rfl⟩

theorem trans (h : Underway w₀ w) (h' : Underway w w') : Underway w₀ w' :=
  ⟨h'.daemon.trans h.daemon, fun name => (h'.devices name).trans (h.devices name),
    h'.sockets.trans h.sockets⟩

theorem react (h : Underway w₀ w) {c : Choice} (hc : KeepsDevices w c) (op : Op) :
    Underway w₀ (react w op c).2 :=
  h.trans ⟨react_daemon w op c, hasDevice_react hc op, react_sockets w op c⟩

theorem exec {α : Type} {p : Program Op Reply α} {tr : List (World × Op)} {o : Option α}
    (h : Exec (machine promisesKept) p w tr w' o) : Underway w w' := by
  induction h with
  | done a w => exact .refl w
  | stop p w => exact .refl w
  | @call op next w w₁ w₂ w' r tr o henv hstep _ ih =>
      obtain rfl : w = w₁ := henv
      obtain ⟨c, hc, hreact⟩ := hstep
      obtain ⟨-, rfl⟩ := Prod.mk.inj hreact
      exact ((Underway.refl w).react hc.1 op).trans ih

end Underway

section Binds

variable {op : Op} {name : String}

def Op.Unbinding (op : Op) : Prop := ∀ name, ¬op.Rebinds name

theorem unbinding_of_glue (hop : op.Glue) : op.Unbinding := fun _ h => by
  cases op with
  | update u => cases u <;> first | exact h | exact hop
  | _ => exact h

theorem unbinding_of_gates (hop : op.Gates) : op.Unbinding := fun _ h => by
  cases op with
  | update u => cases u <;> first | exact h | exact hop
  | _ => exact h

theorem unbinding_of_sweeps (hop : op.Sweeps) : op.Unbinding := fun _ h => by
  cases op with
  | update u => exact hop
  | _ => exact h

theorem unbinding_of_pci (hop : op.Pci) : op.Unbinding := fun _ h => by
  obtain ⟨device, hop | ⟨permanent, hop⟩⟩ := hop
  all_goals
    cases op with
    | update u => cases u <;> first | exact h | exact hop
    | _ => exact h

theorem rebinds_injective {other : String} (h : op.Rebinds name) (h' : op.Rebinds other) :
    name = other := by
  cases op with
  | update u => cases u <;> first | exact h.symm.trans h' | exact h.elim
  | _ => exact h.elim

theorem rebinds_of_assigns {device : UsbDevice} (hop : op.Assigns device)
    (h : op.Rebinds name) : name = device.sysName := by
  cases op with
  | update u =>
      cases u with
      | crosvmUsbPortsInsert other vm port generation =>
          obtain rfl : other = device := hop
          exact h.symm
      | crosvmUsbPortsRemove other => exact h.symm.trans hop
      | _ => exact h.elim
  | _ => exact h.elim

end Binds

section Resume

variable {allowed : World → Op → Choice → Prop} {G : World → Op → Prop} {I : World → Prop}
  {w₀ : World} {d : Daemon}

/-- What follows an observation rebinds only devices that are plugged in. -/
theorem resumeAndSweep_keeps_of
    (hdevices : ∀ w, I w → ∀ name, w.bus.hasDevice name → w₀.bus.hasDevice name)
    (hquiet : ∀ op : Op, op.Unbinding → Harmless allowed G I op)
    (hrebinds : ∀ op : Op, ∀ name, w₀.bus.hasDevice name → op.Rebinds name →
      Harmless allowed G I op) : Keeps (machine allowed) G I (resumeAndSweep d) := by
  have hglue : ∀ op : Op, op.Glue → Harmless allowed G I op := fun op hop =>
    hquiet op (unbinding_of_glue hop)
  have hpci : ∀ failures, Keeps (machine allowed) G I (collect "PCI" (resumePci d none) failures) :=
    fun failures => keeps_collect (resumePci_keeps_of hglue fun device rule w hw _ _ =>
      keeps_of_harmless (Program.calls_mono (calls_attachOnePci d device rule _)
        fun op hop => hquiet op (unbinding_of_pci ⟨device, .inl hop⟩)) w hw)
  have husb : ∀ failures, Keeps (machine allowed) G I
      (collect "USB" (resumeUsb d none) failures) := by
    refine fun failures => keeps_collect fun w hw => wp_resumeUsb_of hglue hw ?_
    intro x hx w' hw' _ _
    have hplugged := hdevices w hw _ (hasDevice_of_scanned (mem_usbDevices_of_routed hx))
    refine keeps_of_harmless (calls_attachOneUsb d x.1 x.2 _ (hquiet _ fun _ => id)
      fun op hop => ?_) w' hw'
    by_cases hrebound : ∃ name, op.Rebinds name
    · obtain ⟨name, hname⟩ := hrebound
      obtain rfl := rebinds_of_assigns hop hname
      exact hrebinds op _ hplugged hname
    · exact hquiet op (not_exists.1 hrebound)
  have hsweep : ∀ failures, Keeps (machine allowed) G I
      (collect "USB authorization" (deauthorizeUnmatchedUsb d) failures) := fun failures =>
    keeps_collect (keeps_of_harmless (Program.calls_mono (calls_deauthorizeUnmatchedUsb d)
      fun op hop => hquiet op (unbinding_of_sweeps hop)))
  refine keeps_bind (hpci []) fun failures => ?_
  refine keeps_bind (husb failures) fun failures => ?_
  refine keeps_bind (hsweep failures) fun failures => ?_
  exact keeps_of_harmless (calls_aggregate failures)

end Resume

/-! ## Ports -/

/-- Since `w` a Crosvm at this socket has handed the port out. -/
def HandedOut (w w' : World) (socket : String) (port : UInt8) : Prop :=
  ∃ news, w'.log = news ++ w.log ∧ ∃ vm node generation plugged, vm.socket = socket ∧
    Effect.usbAttach vm node generation plugged (some port) ∈ news

section Ports

variable {w w' : World} {op : Op} {c : Choice}

theorem ports_setPorts {socket other : String} (hne : other ≠ socket) :
    (c.setPorts w socket).ports other = w.ports other := by
  unfold Choice.setPorts
  cases c.ports with
  | none => rfl
  | some live => exact Function.update_of_ne hne _ _

theorem ports_react_of_ne (hop : ∀ vm node, op ≠ .usbAttach vm node) (hc : ListsPorts w op c)
    {socket : String} {item : LivePort} (hitem : item ∈ (react w op c).2.ports socket) :
    item ∈ w.ports socket := by
  cases op with
  | usbAttach vm node => exact absurd rfl (hop vm node)
  | usbDetach vm port =>
      by_cases hsocket : socket = vm.socket
      · subst hsocket
        exact (hc item hitem).1
      · rwa [← ports_setPorts (c := c) hsocket]
  | update u => cases u <;> exact hitem
  | authorize name value =>
      simp only [react] at hitem
      split at hitem <;> exact hitem
  | _ => exact hitem

theorem ports_react (hc : ListsPorts w op c) {socket : String} {item : LivePort}
    (hitem : item ∈ (react w op c).2.ports socket) :
    item ∈ w.ports socket ∨ HandedOut w (react w op c).2 socket item.1 := by
  by_cases hattach : ∃ vm node, op = .usbAttach vm node
  · obtain ⟨vm, node, rfl⟩ := hattach
    by_cases hsocket : socket = vm.socket
    · subst hsocket
      refine (hc item hitem).imp_right ?_
      rintro ⟨hok, hport⟩
      refine ⟨[_], rfl, vm, node, w.generation vm.socket, w.bus.plugged node, rfl,
        List.mem_singleton.2 ?_⟩
      simp [hok, hport]
    · left
      rwa [← ports_setPorts (c := c) hsocket]
  · refine .inl (ports_react_of_ne (fun vm node h => hattach ⟨vm, node, h⟩) hc hitem)

theorem log_react (w : World) (op : Op) (c : Choice) :
    ∃ news, (react w op c).2.log = news ++ w.log := by
  obtain hsame | ⟨effect, hlog, -⟩ := react_log w op c
  · exact ⟨[], hsame⟩
  · exact ⟨[effect], hlog⟩

theorem HandedOut.later {w₁ : World} {socket : String} {port : UInt8}
    (h : HandedOut w w₁ socket port) (hlog : ∃ news, w'.log = news ++ w₁.log) :
    HandedOut w w' socket port := by
  obtain ⟨news, hnews, vm, node, generation, plugged, hsocket, hmem⟩ := h
  obtain ⟨more, hmore⟩ := hlog
  refine ⟨more ++ news, by rw [hmore, hnews, List.append_assoc], vm, node, generation, plugged,
    hsocket, List.mem_append_right _ hmem⟩

theorem HandedOut.earlier {w₁ : World} {socket : String} {port : UInt8}
    (h : HandedOut w₁ w' socket port) (hlog : ∃ news, w₁.log = news ++ w.log) :
    HandedOut w w' socket port := by
  obtain ⟨news, hnews, vm, node, generation, plugged, hsocket, hmem⟩ := h
  obtain ⟨more, hmore⟩ := hlog
  refine ⟨news ++ more, by rw [hnews, hmore, List.append_assoc], vm, node, generation, plugged,
    hsocket, List.mem_append_left _ hmem⟩

theorem ports_exec {α : Type} {p : Program Op Reply α} {tr : List (World × Op)} {o : Option α}
    (h : Exec (machine promisesKept) p w tr w' o) : (∃ news, w'.log = news ++ w.log) ∧
      ∀ socket, ∀ item ∈ w'.ports socket,
        item ∈ w.ports socket ∨ HandedOut w w' socket item.1 := by
  induction h with
  | done a w => exact ⟨⟨[], rfl⟩, fun _ _ h => .inl h⟩
  | stop p w => exact ⟨⟨[], rfl⟩, fun _ _ h => .inl h⟩
  | @call op next w w₁ w₂ w' r tr o henv hstep _ ih =>
      obtain rfl : w = w₁ := henv
      obtain ⟨c, hc, hreact⟩ := hstep
      obtain rfl : (react w op c).2 = w₂ := congrArg Prod.snd hreact
      obtain ⟨⟨more, hmore⟩, hlisted⟩ := ih
      obtain ⟨news, hnews⟩ := log_react w op c
      refine ⟨⟨more ++ news, by rw [hmore, hnews, List.append_assoc]⟩, fun socket item hitem => ?_⟩
      rcases hlisted socket item hitem with hbefore | hafter
      · exact (ports_react hc.2 hbefore).imp_right fun h => h.later ⟨more, hmore⟩
      · exact .inr (hafter.earlier ⟨news, hnews⟩)

end Ports

/-! ## What an observation takes back -/

/-- The VM instance that the binding is of no longer lists its port. -/
def Freed (w₀ : World) (binding : UsbPortBinding) (w : World) : Prop :=
  ∀ vm, w₀.daemon.vm binding.vm = some vm → w₀.sockets vm.socket = some binding.socketGeneration →
    ∀ item ∈ w.ports vm.socket, listsBinding binding item = false

section Observation

variable {w₀ w : World}

theorem wp_releasePort_frees {binding : UsbPortBinding} (hsockets : w.sockets = w₀.sockets) :
    (releasePort w₀.daemon binding).wp (machine promisesKept) (fun _ _ => True)
      (fun r w' => r = .ok () → Freed w₀ binding w') w := by
  rw [releasePort, wp_bind, Daemon.vmNamed, wp_require]
  cases hvm : w₀.daemon.vm binding.vm with
  | none => exact fun h => by cases h
  | some vm =>
      have hfreed : ∀ w' : World, (w₀.sockets vm.socket = some binding.socketGeneration →
          ∀ item ∈ w'.ports vm.socket, listsBinding binding item = false) →
            Freed w₀ binding w' := by
        intro w' h other hother
        obtain rfl : vm = other := Option.some.inj (hvm.symm.trans hother)
        exact h
      rw [Option.elim_some, andThen_ok, wp_bind, GhafDeviceManager.socketGeneration, wp_operation]
      refine ⟨trivial, fun _ _ => ?_⟩
      rw [react, andThen_ok, hsockets]
      split
      case isFalse hnone =>
        refine fun _ => hfreed w fun hgeneration => ?_
        rw [hgeneration] at hnone
        exact absurd rfl hnone
      case isTrue hsome =>
        rw [wp_bind, wp_operation]
        refine ⟨trivial, fun _ _ => ?_⟩
        rw [react, andThen_ok, hsockets]
        split
        case isFalse hother =>
          refine fun _ => hfreed w fun hgeneration => ?_
          rw [hgeneration] at hother
          simp at hother
        case isTrue hcurrent =>
          rw [wp_bind, usbList, wp_operation]
          refine ⟨trivial, fun c _ => ?_⟩
          cases hfail : c.fail with
          | true => simp [react, Choice.result, hfail]
          | false =>
              simp only [react, Choice.result, hfail, Bool.false_eq_true, if_false, id, andThen_ok]
              split
              case isFalse hlisted =>
                refine fun _ => hfreed w fun _ item hitem => ?_
                by_contra hlists
                exact hlisted (List.any_eq_true.2 ⟨item, hitem, by simpa using hlists⟩)
              case isTrue =>
                rw [usbDetach, wp_operation]
                refine ⟨trivial, fun c hc hok => hfreed _ fun _ item hitem => ?_⟩
                have hdone : c.fail = false := by
                  by_contra hfailed
                  simp [react, Choice.result, hfailed] at hok
                have hne := (hc.2 item hitem).2 hdone
                simp [listsBinding, hne]

structure Cleared (w₀ : World) (key : String) (w : World) : Prop where
  binding : w.binding key = none
  freed : ∀ binding, w₀.binding key = some binding → Freed w₀ binding w

/-- Operations that add no binding and no port. -/
def Op.Reduces : Op → Prop
  | .usbAttach _ _ | .update (.crosvmUsbPortsInsert _ _ _ _) => False
  | _ => True

theorem Cleared.react {key : String} (h : Cleared w₀ key w) {op : Op} {c : Choice}
    (hop : op.Reduces) (hc : ListsPorts w op c) : Cleared w₀ key (react w op c).2 where
  binding := by
    change (GhafDeviceManager.react w op c).2.memory.persistent.crosvmUsbPorts.lookup key = none
    rw [(react_remembers w op c).2]
    by_cases hrebinds : op.Rebinds key
    · cases op with
      | update u =>
          cases u with
          | crosvmUsbPortsInsert => exact hop.elim
          | crosvmUsbPortsRemove name =>
              obtain rfl : name = key := hrebinds
              exact AList.lookup_erase _ _
          | _ => exact hrebinds.elim
      | _ => exact hrebinds.elim
    · rw [lookup_remember hrebinds]
      exact h.binding
  freed binding hbinding vm hvm hgeneration item hitem := by
    have hne : ∀ vm node, op ≠ .usbAttach vm node := by
      rintro vm node rfl
      exact hop
    exact h.freed binding hbinding vm hvm hgeneration item (ports_react_of_ne hne hc hitem)

theorem reduces_of_vanishes {op : Op} {key : String} {device : UsbDevice}
    (h : op.Vanishes key device) : op.Reduces := by
  cases op with
  | update u => cases u <;> first | exact h.elim | trivial
  | usbAttach vm node => exact h.elim
  | _ => trivial

theorem reduces_of_clears {op : Op} (h : op.Clears) : op.Reduces := by
  cases op with
  | update u => cases u <;> first | exact h.elim | trivial
  | usbAttach vm node => exact h.elim
  | _ => trivial

theorem keeps_cleared {α : Type} {p : Act α} (hp : Calls Op.Reduces p) (key : String) :
    Keeps (machine promisesKept) (fun _ _ => True) (Cleared w₀ key) p :=
  keeps_of_harmless (Program.calls_mono hp fun _ hop _ hw =>
    ⟨trivial, fun _ hc => hw.react hop hc.2⟩)

theorem binding_removed (w : World) (key : String) (c : Choice) :
    (react w (.update (.crosvmUsbPortsRemove key)) c).2.binding key = none :=
  AList.lookup_erase _ _

/-- Once its port is taken back, nothing is left of a vanished device. -/
theorem wp_dropVanished_cleared {key : String} {device : UsbDevice}
    (hfreed : ∀ binding, w₀.binding key = some binding → Freed w₀ binding w) :
    (dropVanished w₀.daemon key device).wp (machine promisesKept) (fun _ _ => True)
      (fun _ w' => Cleared w₀ key w') w := by
  have hremove : ∀ w₁ : World, (∀ binding, w₀.binding key = some binding → Freed w₀ binding w₁) →
      wp (machine promisesKept) (fun _ _ => True) (do
        update (.crosvmUsbPortsRemove key)
        saveState w₀.daemon) (fun _ => Cleared w₀ key) w₁ := by
    intro w₁ hw₁
    rw [wp_bind, update, wp_operation]
    refine ⟨trivial, fun c _ => ?_⟩
    exact keeps_cleared (calls_saveState (S := Op.Reduces) trivial) key _
      ⟨binding_removed w₁ key c, hw₁⟩
  rw [dropVanished, wp_bind, notify, wp_operation]
  refine ⟨trivial, fun _ _ => ?_⟩
  rw [andThen_ok, wp_bind, wp_withLock]
  refine ⟨trivial, fun _ _ => ?_⟩
  have hlocked : ∀ w₁ : World, (∀ binding, w₀.binding key = some binding → Freed w₀ binding w₁) →
      wp (machine promisesKept) (fun _ _ => True) (dropRecords w₀.daemon key device)
        (fun _ => Cleared w₀ key) w₁ := by
    intro w₁ hw₁
    unfold dropRecords
    cases device.deviceNode with
    | none => exact hremove w₁ hw₁
    | some node =>
        dsimp only
        rw [wp_bind, update, wp_operation]
        exact ⟨trivial, fun c _ => hremove _ hw₁⟩
  refine wp_imp (hlocked _ hfreed) fun r w₂ hw₂ => ⟨trivial, fun _ _ => ?_⟩
  cases r with
  | error e => exact hw₂
  | ok _ =>
      have hpending : Calls Op.Reduces (update (.pendingRemove device.persistentId)) :=
        calls_request trivial
      exact keeps_cleared hpending key w₂ hw₂

theorem wp_forgetVanished_clears {key : String} {device : UsbDevice}
    (hsockets : w.sockets = w₀.sockets) (hbinding : w.binding key = w₀.binding key) :
    (forgetVanished w₀.daemon key device).wp (machine promisesKept) (fun _ _ => True)
      (fun r w' => r = .ok () → Cleared w₀ key w') w := by
  rw [forgetVanished, wp_bind, readMemory, wp_operation]
  refine ⟨trivial, fun _ _ => ?_⟩
  rw [react, andThen_ok]
  cases hknown : w.memory.persistent.crosvmUsbPorts.lookup key with
  | none =>
      refine wp_imp (wp_dropVanished_cleared fun binding hrecorded => ?_) fun _ _ h _ => h
      have hnone : w₀.binding key = none := hbinding.symm.trans hknown
      rw [hnone] at hrecorded
      cases hrecorded
  | some binding =>
      dsimp only
      rw [wp_bind]
      refine wp_imp (wp_releasePort_frees hsockets) fun r w₁ hw₁ => ?_
      cases r with
      | error e => exact fun h => by cases h
      | ok _ =>
          refine wp_imp (wp_dropVanished_cleared fun other hother => ?_) fun _ _ h _ => h
          have hsame : w₀.binding key = some binding := hbinding.symm.trans hknown
          obtain rfl := Option.some.inj (hother.symm.trans hsame)
          exact hw₁ rfl

/-- Of the names in question, what is gone is taken back or still to do. -/
structure TakesBack (w₀ : World) (usb : Map UsbDevice) (asked : String → Prop)
    (rest : List (String × UsbDevice)) (w : World) : Prop where
  sockets : w.sockets = w₀.sockets
  gone : ∀ key device, asked key → w₀.memory.observedUsb.lookup key = some device →
    (usb.lookup key).isNone →
      (key, device) ∈ rest ∧ w.binding key = w₀.binding key ∨ Cleared w₀ key w

theorem rebinds_of_vanishes {op : Op} {key name : String} {device : UsbDevice}
    (hop : op.Vanishes key device) (h : op.Rebinds name) : name = key := by
  cases op with
  | update u =>
      cases u with
      | crosvmUsbPortsRemove other => exact h.symm.trans hop
      | crosvmUsbPortsInsert => exact hop.elim
      | _ => exact h.elim
  | _ => exact h.elim

theorem binding_react_of_not {op : Op} {name : String} (hop : ¬op.Rebinds name) (w : World)
    (c : Choice) : (react w op c).2.binding name = w.binding name := by
  change (react w op c).2.memory.persistent.crosvmUsbPorts.lookup name = _
  rw [(react_remembers w op c).2, lookup_remember hop]
  rfl

section Round

variable {usb : Map UsbDevice} {asked : String → Prop} {rest : List (String × UsbDevice)}
  {key : String} {device : UsbDevice}

theorem TakesBack.react {op : Op} {c : Choice} (h : TakesBack w₀ usb (· ≠ key) rest w)
    (hop : op.Vanishes key device) (hc : ListsPorts w op c) :
    TakesBack w₀ usb (· ≠ key) rest (react w op c).2 where
  sockets := (react_sockets w op c).trans h.sockets
  gone other x hne hseen habsent := by
    rcases h.gone other x hne hseen habsent with ⟨hrest, hbinding⟩ | hcleared
    · refine .inl ⟨hrest, ?_⟩
      rw [binding_react_of_not (fun hrebinds => hne (rebinds_of_vanishes hop hrebinds))]
      exact hbinding
    · exact .inr (hcleared.react (reduces_of_vanishes hop) hc)

theorem wp_forgetRound_takesBack (h : TakesBack w₀ usb (fun _ => True) ((key, device) :: rest) w) :
    wp (machine promisesKept) (fun _ _ => True)
      (if (usb.lookup key).isNone then forgetVanished w₀.daemon key device else pure ())
      (fun r w' => r = .ok () → TakesBack w₀ usb (fun _ => True) rest w') w := by
  have hothers : TakesBack w₀ usb (· ≠ key) rest w := by
    refine ⟨h.sockets, fun other x hne hseen habsent => ?_⟩
    refine (h.gone other x trivial hseen habsent).imp_left fun hpending => ⟨?_, hpending.2⟩
    exact (List.mem_cons.1 hpending.1).resolve_left fun heq => hne (Prod.mk.inj heq).1
  split
  case isFalse hpresent =>
    refine fun _ => ⟨h.sockets, fun other x _ hseen habsent => ?_⟩
    refine hothers.gone other x ?_ hseen habsent
    rintro rfl
    exact hpresent habsent
  case isTrue habsent =>
    have hkept : Keeps (machine promisesKept) (fun _ _ => True) (TakesBack w₀ usb (· ≠ key) rest)
        (forgetVanished w₀.daemon key device) :=
      keeps_of_harmless (Program.calls_mono (calls_forgetVanished w₀.daemon key device)
        fun _ hop _ hw => ⟨trivial, fun _ hc => hw.react hop hc.2⟩)
    have hcleared : (forgetVanished w₀.daemon key device).wp (machine promisesKept)
        (fun _ _ => True) (fun r w' => r = .ok () →
          ∀ x, w₀.memory.observedUsb.lookup key = some x → Cleared w₀ key w') w := by
      cases hseen : w₀.memory.observedUsb.lookup key with
      | none =>
          refine wp_imp (wp_of_footprint (Program.calls_top _) (fun _ _ _ => trivial) w) ?_
          intro r w' _ _ x hx
          cases hx
      | some x =>
          rcases h.gone key x trivial hseen habsent with ⟨-, hbinding⟩ | hdone
          · exact wp_imp (wp_forgetVanished_clears h.sockets hbinding) fun r w' hw' hr _ _ => hw' hr
          · have hreduces : Calls Op.Reduces (forgetVanished w₀.daemon key device) :=
              Program.calls_mono (calls_forgetVanished w₀.daemon key device)
                fun _ => reduces_of_vanishes
            exact wp_imp (keeps_cleared hreduces key w hdone) fun r w' hw' _ _ _ => hw'
    refine wp_mono (wp_and (hkept w hothers) hcleared) (fun _ _ _ => trivial) ?_
    rintro r w' ⟨hrest, hdone⟩ hr
    refine ⟨hrest.sockets, fun other x _ hseen hgone => ?_⟩
    by_cases hother : other = key
    · subst hother
      exact .inr (hdone hr x hseen)
    · exact hrest.gone other x hother hseen hgone

end Round

def AllCleared (w₀ : World) (usb : Map UsbDevice) (w : World) : Prop :=
  ∀ key device, w₀.memory.observedUsb.lookup key = some device → (usb.lookup key).isNone →
    Cleared w₀ key w

theorem keeps_allCleared {α : Type} {p : Act α} (hp : Calls Op.Reduces p) (usb : Map UsbDevice) :
    Keeps (machine promisesKept) (fun _ _ => True) (AllCleared w₀ usb) p :=
  keeps_of_harmless (Program.calls_mono hp fun _ hop _ hw =>
    ⟨trivial, fun _ hc key device hseen habsent => (hw key device hseen habsent).react hop hc.2⟩)

theorem wp_observeUsb_clears {usb : Map UsbDevice} :
    (observeUsb w.daemon usb).wp (machine promisesKept) (fun _ _ => True)
      (fun r w' => r = .ok () → AllCleared w usb w') w := by
  rw [observeUsb, wp_withLock]
  refine ⟨trivial, fun _ _ => ?_⟩
  rw [wp_bind, readMemory, wp_operation]
  refine ⟨trivial, fun _ _ => ?_⟩
  rw [react, andThen_ok, wp_bind]
  have hlooks : ∀ op : Op, op.Observes → Harmless promisesKept (fun _ _ => True)
      (fun w' => w'.sockets = w.sockets ∧ w'.memory = w.memory) op := by
    intro op hop w' hw'
    refine ⟨trivial, fun c _ => ⟨(react_sockets w' op c).trans hw'.1, ?_⟩⟩
    rw [(react_remembers w' op c).2, hw'.2]
    cases op <;> first | rfl | exact hop.elim
  have hpresent : Keeps (machine promisesKept) (fun _ _ => True)
      (fun w' => w'.sockets = w.sockets ∧ w'.memory = w.memory) (inOrder usb) :=
    keeps_of_harmless (calls_inOrder usb (hlooks _ trivial))
  refine wp_imp (hpresent w ⟨rfl, rfl⟩) fun r w₁ hw₁ => ?_
  cases r with
  | error e => exact ⟨trivial, fun _ _ h => by cases h⟩
  | ok present =>
      rw [andThen_ok, wp_bind]
      have hconnected : Keeps (machine promisesKept) (fun _ _ => True)
          (fun w' => w'.sockets = w.sockets ∧ w'.memory = w.memory)
          (present.forM fun x =>
            if (w.memory.observedUsb.lookup x.1).isNone then notify (.usbConnected x.2)
            else pure ()) :=
        keeps_of_harmless (calls_forM fun x _ =>
          calls_ite (calls_request (hlooks _ trivial)) trivial)
      refine wp_imp (hconnected w₁ hw₁) fun r w₂ hw₂ => ?_
      cases r with
      | error e => exact ⟨trivial, fun _ _ h => by cases h⟩
      | ok _ =>
          rw [andThen_ok, wp_bind]
          refine wp_imp (wp_inOrder trivial) ?_
          rintro _ _ ⟨rfl, seen, rfl, hentries⟩
          rw [andThen_ok, wp_bind]
          refine wp_imp (wp_forM_rest (I := TakesBack w usb fun _ => True) ?_ ?_) fun r w₃ hr => ?_
          · rintro ⟨key, device⟩ rest w' hw'
            exact wp_forgetRound_takesBack hw'
          · refine ⟨hw₂.1, fun key device _ hseen _ => .inl ⟨hentries key device hseen, ?_⟩⟩
            rw [World.binding, hw₂.2]
            rfl
          · cases r with
            | error e => exact ⟨trivial, fun _ _ h => by cases h⟩
            | ok _ =>
                have hall : AllCleared w usb w₃ := fun key device hseen habsent =>
                  ((hr rfl).gone key device trivial hseen habsent).resolve_left fun h =>
                    absurd h.1 List.not_mem_nil
                have hend : Calls Op.Reduces (update (.observedUsb usb)) := calls_request trivial
                refine wp_imp (keeps_allCleared hend usb w₃ hall) ?_
                exact fun r w' hw' => ⟨trivial, fun _ _ _ => hw'⟩

/-- An observation that comes through has taken back all that was seen and is gone. -/
theorem wp_observe_takesBack : (observe w.daemon).wp (machine promisesKept) (fun _ _ => True)
    (fun r w' => r = .ok () → ∀ key, w.vanishedUsb key → Cleared w key w') w := by
  rw [observe, wp_bind, enter, wp_operation]
  refine ⟨trivial, fun c _ => ?_⟩
  rw [andThen_ok, wp_bind]
  refine wp_imp (wp_usbDevices trivial) ?_
  rintro r _ ⟨rfl, husb⟩
  cases r with
  | error e => exact fun h => by cases h
  | ok xs =>
      obtain rfl := husb xs rfl
      rw [andThen_ok, wp_bind]
      refine wp_imp (wp_pciDevices trivial fun _ => trivial) ?_
      rintro r _ ⟨rfl, -⟩
      cases r with
      | error e => exact fun h => by cases h
      | ok ys =>
          rw [andThen_ok, wp_bind]
          refine wp_imp wp_observeUsb_clears fun r w₁ hr => ?_
          cases r with
          | error e => exact fun h => by cases h
          | ok _ =>
              rw [andThen_ok]
              have hpci : Calls Op.Reduces (observePci
                  (insertAll PciDevice.address (ys.map Prod.fst))) :=
                Program.calls_mono (calls_observePci _) fun _ => reduces_of_clears
              refine wp_imp (keeps_allCleared hpci _ w₁ (hr rfl)) ?_
              intro r w₂ hw₂ _ key hvanished
              obtain ⟨device, hseen⟩ := Option.isSome_iff_exists.1 hvanished.1
              have hcleared := hw₂ key device hseen (lookup_scanned_isNone.2 hvanished.2)
              exact ⟨hcleared.binding, hcleared.freed⟩

end Observation

/-! ## Runs of passes -/

/-- A run, and its passes that came through while nothing else moved, newest first: each with where
it began and where it ended. -/
inductive Passed : World → List (World × World) → Prop
  | start (d : Daemon) (hd : d.config.Valid) : Passed { daemon := d } []
  | surroundings {w w' : World} {passes : List (World × World)} (h : Passed w passes)
      (hw : Surroundings w w') : Passed w' passes
  | operation {w w' : World} {passes : List (World × World)} {tr : List (World × Op)}
      {r : Except Error Unit} (o : Operation) (h : Passed w passes)
      (hexec : Exec (Machine.among Surroundings react promisesKept) (o.program w.daemon).run w tr
        w' (some r)) : Passed w' passes
  | pass {w w' : World} {passes : List (World × World)} {tr : List (World × Op)}
      (h : Passed w passes) (hexec : Exec (machine promisesKept) (reconcile w.daemon).run w tr w'
        (some (.ok ()))) : Passed w' ((w, w') :: passes)
  | restart {w w' : World} {passes : List (World × World)} {tr : List (World × Op)}
      (o : Operation) (d : Daemon) (hd : d.config.Valid) (h : Passed w passes)
      (hexec : Exec (Machine.among Surroundings react promisesKept) (o.program w.daemon).run w tr
        w' none) : Passed (w'.restart d) passes

/-- The binding is of a device that is not plugged in. -/
def World.leftover (w : World) (name : String) (binding : UsbPortBinding) : Prop :=
  w.binding name = some binding ∧ ¬w.bus.hasDevice name

/-- Of the devices unplugged before a pass, it leaves no binding and no port. A port that a Crosvm
handed out again meanwhile is not theirs any more. -/
structure LeavesNothing (w w' : World) : Prop where
  bindings : ∀ name binding, ¬w'.leftover name binding
  ports : ∀ name binding, w.leftover name binding → ∀ vm, w.daemon.vm binding.vm = some vm →
    w'.sockets vm.socket = some binding.socketGeneration → ∀ item ∈ w'.ports vm.socket,
      listsBinding binding item = true → HandedOut w w' vm.socket binding.port

/-- This process saw each unplugged device of which there is a binding. -/
def World.sawLeftovers (w : World) : Prop :=
  ∀ name binding, w.leftover name binding → (w.memory.observedUsb.lookup name).isSome

section Passes

variable {w w' : World} {tr : List (World × Op)} {r : Except Error Unit}

/-- The gate touches neither bindings nor what was seen. -/
theorem settleGate_keeps (h : Exec (machine promisesKept) (settleGate w.daemon).run w tr w'
    (some (.ok ()))) : w'.memory.observedUsb = w.memory.observedUsb ∧
      ∀ name, w'.binding name = w.binding name := by
  have hgate : Calls (fun op => op.Unbinding ∧ ∀ m, (op.remember m).observedUsb = m.observedUsb)
      (settleGate w.daemon) := by
    refine calls_bind (calls_request ⟨fun _ => id, fun _ => rfl⟩) fun _ => calls_warnOnError ?_
    refine Program.calls_mono (calls_applyUsbGate w.daemon) fun op hop =>
      ⟨unbinding_of_gates hop, fun m => ?_⟩
    cases op with
    | update u => cases u <;> first | rfl | exact hop.elim
    | _ => rfl
  have hkept : Keeps (machine promisesKept) (fun _ _ => True)
      (fun w₁ => w₁.memory.observedUsb = w.memory.observedUsb ∧
        ∀ name, w₁.binding name = w.binding name) (settleGate w.daemon) := by
    refine keeps_of_harmless (Program.calls_mono hgate fun op hop w₁ hw₁ =>
      ⟨trivial, fun c _ => ⟨?_, fun name => ?_⟩⟩)
    · rw [(react_remembers w₁ op c).2, hop.2]
      exact hw₁.1
    · rw [binding_react_of_not (hop.1 name)]
      exact hw₁.2 name
  exact (Program.wp_sound (hkept w ⟨rfl, fun _ => rfl⟩) h).2 _ rfl

/-- What follows an observation leaves the bindings of unplugged devices as they are. -/
theorem resumeAndSweep_keeps {d : Daemon}
    (h : Exec (machine promisesKept) (resumeAndSweep d).run w tr w' (some r)) {name : String}
    (hname : ¬w.bus.hasDevice name) : w'.binding name = w.binding name := by
  have hkept : Keeps (machine promisesKept) (fun _ _ => True)
      (fun w₁ => (∀ other, w₁.bus.hasDevice other ↔ w.bus.hasDevice other) ∧
        w₁.binding name = w.binding name) (resumeAndSweep d) := by
    have hquiet : ∀ op : Op, ¬op.Rebinds name → Harmless promisesKept (fun _ _ => True)
        (fun w₁ => (∀ other, w₁.bus.hasDevice other ↔ w.bus.hasDevice other) ∧
          w₁.binding name = w.binding name) op := by
      intro op hop w₁ hw₁
      refine ⟨trivial, fun c hc => ⟨fun other => ?_, ?_⟩⟩
      · rw [hasDevice_react hc.1]
        exact hw₁.1 other
      · rw [binding_react_of_not hop]
        exact hw₁.2
    refine @resumeAndSweep_keeps_of _ _ _ w d (fun w₁ hw₁ other => (hw₁.1 other).1)
      (fun op hop => hquiet op (hop name)) fun op other hplugged hrebinds => ?_
    refine hquiet op fun hop => hname ?_
    rwa [rebinds_injective hop hrebinds]
  exact ((Program.wp_sound (hkept w ⟨fun _ => Iff.rfl, rfl⟩) h).2 _ rfl).2

theorem removes_of_rebinds {op : Op} {name : String} (hop : op.Clears) (h : op.Rebinds name) :
    op.Removes := by
  cases op with
  | update u => cases u <;> trivial
  | _ => exact h.elim

theorem rebinds_of_disconnects {op : Op} {m : Memory} {key name : String}
    (hop : op.Disconnects m key) (h : op.Rebinds name) : name = key := by
  cases op with
  | update u =>
      cases u with
      | crosvmUsbPortsRemove other => exact h.symm.trans hop
      | crosvmUsbPortsInsert => exact hop.elim
      | _ => exact h.elim
  | _ => exact h.elim

theorem observe_keeps_unseen {allowed : World → Op → Choice → Prop} {d : Daemon} {name : String}
    (h : Exec (machine allowed) (observe d).run w tr w' (some (.ok ())))
    (hunseen : w.memory.observedUsb.lookup name = none) : w'.binding name = w.binding name := by
  have hlooks : ∀ {α : Type} {p : Act α} {w w' tr o},
      Exec (machine allowed) p.run w tr w' o → Calls Op.Observes p → w'.memory = w.memory := by
    intro α p w w' tr o hexec hcalls
    refine hexec.memory_same (remembers_machine allowed) fun e he m => ?_
    have hop := hexec.calls hcalls e he
    cases hcall : e.2 <;> rw [hcall] at hop <;> first | rfl | exact hop.elim
  unfold observe at h
  obtain ⟨_, w₁, tr₁, tail₁, h₁, hrest₁, rfl⟩ := exec_bind_ok h
  obtain ⟨xs, w₂, tr₂, tail₂, h₂, hrest₂, rfl⟩ := exec_bind_ok hrest₁
  obtain ⟨ys, w₃, tr₃, tail₃, h₃, hrest₃, rfl⟩ := exec_bind_ok hrest₂
  obtain ⟨_, w₄, tr₄, tail₄, h₄, hrest₄, rfl⟩ := exec_bind_ok hrest₃
  have hmemory : w₃.memory = w.memory := by
    have hentered : w₁.memory = w.memory :=
      h₁.memory_same (remembers_machine allowed) fun e he m => by
        rw [h₁.calls (calls_request rfl : Calls (· = .enter .observe) (enter .observe)) e he]
        rfl
    rw [hlooks h₃ (calls_pciDevices trivial fun _ => trivial), hlooks h₂ (calls_usbDevices trivial),
      hentered]
  have hforgets := (Program.wp_remembered (remembers_machine allowed)
    (@wp_observeUsb_only d (fun _ => True) _ _) h₄ fun _ _ => trivial).1
  have husb : w₄.binding name = w₃.binding name := by
    refine h₄.binding_same (remembers_machine allowed) fun e he hrebinds => ?_
    have hremoves : e.2.Removes :=
      removes_of_rebinds (clears_of_clearsUsb (h₄.calls (calls_observeUsb d _) e he)) hrebinds
    obtain ⟨key, hkey, hseen, -⟩ := hforgets e he hremoves
    obtain rfl : name = key := rebinds_of_disconnects hkey hrebinds
    rw [hmemory, hunseen] at hseen
    cases hseen
  have hpci : w'.binding name = w₄.binding name :=
    hrest₄.binding_same (remembers_machine allowed) fun e he hrebinds =>
      hrest₄.calls (calls_observePci_keeps _) e he
        (removes_of_rebinds (hrest₄.calls (calls_observePci _) e he) hrebinds)
  rw [hpci, husb, World.binding, hmemory]
  rfl

theorem observe_exec_reduces {key : String} (hcleared : Cleared w key w)
    (h : Exec (machine promisesKept) (observe w.daemon).run w tr w' (some (.ok ()))) :
    Cleared w key w' :=
  (Program.wp_sound (keeps_cleared (Program.calls_mono (calls_observe w.daemon)
    fun _ => reduces_of_clears) key w hcleared) h).2 _ rfl

/-- A pass that comes through leaves nothing of the unplugged devices if and only if this process
saw them all. -/
theorem leavesNothing_iff (h : Exec (machine promisesKept) (reconcile w.daemon).run w tr w'
    (some (.ok ()))) : LeavesNothing w w' ↔ w.sawLeftovers := by
  have hall := Underway.exec h
  rw [reconcile_eq] at h
  obtain ⟨_, w₁, tr₁, tail₁, hgate, hrest, rfl⟩ := exec_bind_ok h
  obtain ⟨_, w₂, tr₂, tr₃, hobserve, hresume, rfl⟩ := exec_bind_ok hrest
  have hsettled := Underway.exec hgate
  have hobserved := Underway.exec hobserve
  obtain ⟨hseen, hbindings⟩ := settleGate_keeps hgate
  have hlast : ∀ name, ¬w.bus.hasDevice name → w'.binding name = w₂.binding name :=
    fun name hname => resumeAndSweep_keeps hresume fun hplugged =>
      hname ((hsettled.trans hobserved).devices name |>.1 hplugged)
  rw [← hsettled.daemon] at hobserve
  constructor
  · intro hnothing name binding ⟨hbinding, hname⟩
    by_contra hunseen
    have hnone : w₁.memory.observedUsb.lookup name = none := by
      rw [hseen]
      simpa using hunseen
    refine hnothing.bindings name binding ⟨?_, fun hplugged => ?_⟩
    · rw [hlast name hname, observe_keeps_unseen hobserve hnone, hbindings, hbinding]
    · exact hname ((hall.devices name).1 hplugged)
  · intro hsaw
    have hcleared : ∀ name, ¬w.bus.hasDevice name → Cleared w₁ name w₂ := by
      intro name hname
      cases hbinding : w.binding name with
      | none =>
          have hnone : w₁.binding name = none := (hbindings name).trans hbinding
          refine observe_exec_reduces ⟨hnone, fun binding hrecorded => ?_⟩ hobserve
          rw [hnone] at hrecorded
          cases hrecorded
      | some binding =>
          have htaken := (Program.wp_sound wp_observe_takesBack hobserve).2 _ rfl rfl
          refine htaken name ⟨?_, fun x hx hkey => ?_⟩
          · rw [hseen]
            exact hsaw name binding ⟨hbinding, hname⟩
          · subst hkey
            have hscanned := hasDevice_of_scanned (mem_usbDevices_of_routed hx)
            exact hname ((hsettled.devices _).1 hscanned)
    constructor
    · rintro name binding ⟨hbinding, hname⟩
      have habsent : ¬w.bus.hasDevice name := fun hplugged =>
        hname ((hall.devices name).2 hplugged)
      rw [hlast name habsent, (hcleared name habsent).binding] at hbinding
      cases hbinding
    · intro name binding ⟨hbinding, hname⟩ vm hvm hgeneration item hitem hlists
      have hport : item.1 = binding.port := by
        simp only [listsBinding, Bool.and_eq_true, beq_iff_eq] at hlists
        exact hlists.1.1
      rw [← hsettled.daemon] at hvm
      rw [hall.sockets, ← hsettled.sockets] at hgeneration
      have hfreed := (hcleared name hname).freed binding ((hbindings name).trans hbinding) vm hvm
        hgeneration
      rw [← hport]
      rcases (ports_exec hresume).2 vm.socket item hitem with hbefore | hgiven
      · rw [hfreed item hbefore] at hlists
        cases hlists
      · obtain ⟨more, hmore⟩ := (ports_exec hobserve).1
        obtain ⟨news, hnews⟩ := (ports_exec hgate).1
        exact hgiven.earlier ⟨more ++ news, by rw [hmore, hnews, List.append_assoc]⟩

end Passes

/-- In every run, over restarts and unplugs at any time, a pass that comes through leaves nothing
of unplugged devices exactly if this process saw those that there are bindings of. -/
theorem unplugged_ports_released {w : World} {passes : List (World × World)}
    (h : Passed w passes) : ∀ pass ∈ passes, LeavesNothing pass.1 pass.2 ↔ pass.1.sawLeftovers := by
  induction h with
  | start d hd => simp
  | surroundings _ _ ih => exact ih
  | operation o _ _ ih => exact ih
  | restart o d _ _ _ ih => exact ih
  | pass _ hexec ih => exact List.forall_mem_cons.2 ⟨leavesNothing_iff hexec, ih⟩

/-! ## A keyboard unplugged before and after a restart -/

theorem portOneInAndOut_promises (w : World) (op : Op) :
    promisesKept w op (portOneInAndOut w op) := by
  constructor
  · intro bus hbus
    cases op <;> cases hbus
  · cases op with
    | usbAttach vm node =>
        refine fun item hitem => .inr ⟨rfl, ?_⟩
        have hone : item = (1, "046d", "c31c") := by
          simpa [portOneInAndOut, onPortOne, granting, Choice.setPorts] using hitem
        rw [hone]
        rfl
    | usbDetach vm port =>
        intro item hitem
        simp [portOneInAndOut, Choice.setPorts] at hitem
    | _ => trivial

/-- Where a pass leaves a world that has one port to hand out. -/
def World.passed (w : World) : World := w.perform portOneInAndOut .reconcile

theorem Passed.perform {w : World} {passes : List (World × World)} (h : Passed w passes)
    (hok : ((reconcile w.daemon).run.follow react portOneInAndOut w).2.2.toBool = true) :
    Passed w.passed ((w, w.passed) :: passes) :=
  .pass h (exec_ok (fun e _ => portOneInAndOut_promises e.1 e.2) hok)

theorem passed_keyboardPlugged :
    Passed keyboardPlugged.passed [(keyboardPlugged, keyboardPlugged.passed)] := by
  have hplugged : Passed keyboardPlugged [] :=
    .surroundings (.start keyboardPlugged.daemon (by decide)) ⟨rfl, rfl, rfl, rfl⟩
  exact hplugged.perform (by decide +kernel)

theorem unplugged_ports_released_keyboard :
    LeavesNothing (keyboardPlugged.passed.replugged [])
      (keyboardPlugged.passed.replugged []).passed := by
  have hpulled : Passed (keyboardPlugged.passed.replugged [])
      [(keyboardPlugged, keyboardPlugged.passed)] :=
    .surroundings passed_keyboardPlugged ⟨rfl, rfl, rfl, rfl⟩
  have hgone := hpulled.perform (by decide +kernel)
  refine (unplugged_ports_released hgone _ List.mem_cons_self).2 ?_
  rintro name binding ⟨hbinding, -⟩
  have hseen : ∀ name ∈ (keyboardPlugged.passed.replugged []).memory.persistent.crosvmUsbPorts.keys,
      ((keyboardPlugged.passed.replugged []).memory.observedUsb.lookup name).isSome := by
    decide +kernel
  refine hseen name (AList.mem_keys.1 (AList.lookup_isSome.1 ?_))
  exact Option.isSome_iff_exists.2 ⟨binding, hbinding⟩

/-- The daemon restarts while the keyboard is with its VM, and then it is unplugged. -/
def pulledAfterRestart : World :=
  (keyboardPlugged.passed.restart keyboardPlugged.daemon).replugged []

/-- The new process never saw the keyboard: its binding stays, and the VM keeps the port. -/
theorem port_of_unplugged_device_kept : ¬∀ w passes, Passed w passes →
    ∀ pass ∈ passes, LeavesNothing pass.1 pass.2 := by
  intro hclaim
  have hrestarted : Passed (keyboardPlugged.passed.restart keyboardPlugged.daemon) _ :=
    .restart .reconcile keyboardPlugged.daemon (by decide) passed_keyboardPlugged (.stop _ _)
  have hpulled : Passed pulledAfterRestart _ := .surroundings hrestarted ⟨rfl, rfl, rfl, rfl⟩
  have hnothing := hclaim _ _ (hpulled.perform (by decide +kernel)) _ List.mem_cons_self
  have hbinding : (pulledAfterRestart.passed.binding "1-1").isSome = true := by decide +kernel
  have hname : ¬pulledAfterRestart.passed.bus.hasDevice "1-1" := by decide +kernel
  obtain ⟨binding, hbinding⟩ := Option.isSome_iff_exists.1 hbinding
  exact hnothing.bindings "1-1" binding ⟨hbinding, hname⟩

end GhafDeviceManager
