import GhafDeviceManager.Observation
import GhafDeviceManager.Resumption

/-!
# What one VM's failures keep from the others

A pass collects the failures of its attaches and goes on. Before them it observes what came and
went, and there the first failure ends the pass.
-/

namespace GhafDeviceManager

open Fallible

def settleGate (d : Daemon) : Act Unit := do
  update (.deferred false)
  warnOnError (applyUsbGate d)

/-- The part from there on. -/
def observeAndResume (d : Daemon) : Act Unit := do
  observe d
  let failures ← collect "PCI" (resumePci d none) []
  let failures ← collect "USB" (resumeUsb d none) failures
  let failures ← collect "USB authorization" (deauthorizeUnmatchedUsb d) failures
  aggregate failures

theorem reconcile_eq (d : Daemon) :
    reconcile d = settleGate d >>= fun _ => observeAndResume d := by
  simp only [reconcile, settleGate, observeAndResume, bind_assoc]

def Op.socket : Op → Option String
  | .usbList socket | .vfioList socket => some socket
  | .usbAttach vm _ | .usbDetach vm _ | .vfioAdd vm _ | .vfioRemove vm _ => some vm.socket
  | _ => none

/-- The socket belongs to the VM of this name. -/
def Daemon.ofVm (d : Daemon) (v socket : String) : Bool :=
  (d.vm v).any fun vm => vm.socket == socket

/-- Scans and state saves succeed, and of the Crosvm commands at most those of one VM fail. -/
def failsOnly (v : String) (w : World) : Op → Choice → Prop
  | .scanUsb, c | .scanPci, c | .iommuGroup _, c | .save, c => c.fail = false
  | op, c => c.fail = true → ∀ socket ∈ op.socket, w.daemon.ofVm v socket = true

/-- A pass from `w₀`, at `w` when it starts to observe. -/
def Passes (allowed : World → Op → Choice → Prop) (w₀ w w' : World) : Prop :=
  ∃ tr tr' r, Exec (machine allowed) (settleGate w₀.daemon).run w₀ tr w (some (.ok ())) ∧
    Exec (machine allowed) (observeAndResume w₀.daemon).run w tr' w' (some r)

/-- The USB devices a pass may not leave out whatever comes of the VM `v`. -/
def World.dueUsb (w : World) (v : String) : List (UsbDevice × RuleMatch) :=
  (w.usbRouted w.daemon).filter fun x =>
    !w.memory.persistent.disconnected x.1.persistentId &&
      resumeTarget x.2 w.memory.persistent.selectedVms x.1.persistentId != some v

def World.duePci (w : World) (v : String) : List (PciDevice × RuleMatch) :=
  (w.pciRouted w.daemon).filter fun x =>
    !w.memory.persistent.disconnected x.1.persistentId &&
      x.2.targetVm.any fun target => target != v

def Since (w w' : World) (effect : Effect) : Prop :=
  ∃ news, w'.log = news ++ w.log ∧ effect ∈ news

structure Attempted (v : String) (w w' : World) : Prop where
  usb : ∀ x ∈ w.dueUsb v, ∃ vm, Since w w' (.entered (.attachOneUsb x.1 x.2 vm))
  pci : ∀ x ∈ w.duePci v, ∃ vm, Since w w' (.entered (.attachOnePci x.1 x.2 vm))

/-- The last pass saw the device, and no scanned device that a rule routes has its name. -/
def World.vanishedUsb (w : World) (key : String) : Prop :=
  (w.memory.observedUsb.lookup key).isSome ∧ ∀ x ∈ w.usbRouted w.daemon, x.1.sysName ≠ key

instance (w : World) (key : String) : Decidable (w.vanishedUsb key) :=
  inferInstanceAs (Decidable (_ ∧ _))

theorem lookup_scanned_isNone {w : World} {d : Daemon} {key : String} :
    ((insertAll UsbDevice.sysName ((w.usbRouted d).map Prod.fst)).lookup key).isNone = true ↔
      ∀ x ∈ w.usbRouted d, x.1.sysName ≠ key := by
  rw [lookup_insertAll_isNone, List.forall_mem_map]

/-- What is recorded of a vanished device ends the pass: its VM is not configured, or the commands
that give the port back may fail. -/
def World.blocks (w : World) (v : String) (binding : UsbPortBinding) : Bool :=
  match w.daemon.vm binding.vm with
  | none => true
  | some vm => w.daemon.ofVm v vm.socket && (w.sockets vm.socket).isSome &&
      binding.socketGeneration == w.generation vm.socket

/-- Nothing recorded of the devices that vanished ends the pass. -/
def World.observable (w : World) (v : String) : Prop :=
  ∀ key, w.vanishedUsb key → ∀ binding,
    w.memory.persistent.crosvmUsbPorts.lookup key = some binding → w.blocks v binding = false

section Since

variable {w w₁ w₂ : World} {effect : Effect}

theorem log_suffix_react (w : World) (op : Op) (c : Choice) :
    w.log <:+ (react w op c).2.log := by
  obtain hsame | ⟨effect, hlog, -⟩ := react_log w op c
  · rw [hsame]
  · rw [hlog]
    exact List.suffix_cons effect w.log

theorem Since.later (h : Since w w₁ effect) (hlog : w₁.log <:+ w₂.log) : Since w w₂ effect := by
  obtain ⟨news, hnews, hmem⟩ := h
  obtain ⟨more, hmore⟩ := hlog
  refine ⟨more ++ news, ?_, List.mem_append_right more hmem⟩
  rw [← hmore, hnews, List.append_assoc]

theorem since_record (hlog : w.log <:+ w₁.log) : Since w (w₁.record effect) effect := by
  obtain ⟨news, hnews⟩ := hlog
  refine ⟨effect :: news, ?_, List.mem_cons_self⟩
  rw [World.record, List.cons_append, hnews]

end Since

/-- No device is disconnected that was not, and nothing is taken back from the log. -/
structure Further (w w' : World) : Prop where
  disconnected : ∀ id, w'.memory.persistent.disconnected id = true →
    w.memory.persistent.disconnected id = true
  log : w.log <:+ w'.log

structure SameBus (w w' : World) : Prop extends Further w w' where
  daemon : w'.daemon = w.daemon
  bus : w'.bus = w.bus

/-- What an observation leaves: of the bindings some may be gone. -/
structure Observed (w w' : World) : Prop extends SameBus w w' where
  pci : w'.pci = w.pci
  sockets : w'.sockets = w.sockets
  bindings : ∀ key binding, w'.memory.persistent.crosvmUsbPorts.lookup key = some binding →
    w.memory.persistent.crosvmUsbPorts.lookup key = some binding

section Steps

variable {w w₁ w₂ : World}

theorem Further.refl (w : World) : Further w w := ⟨fun _ h => h, List.suffix_rfl⟩

theorem Further.trans (h : Further w w₁) (h' : Further w₁ w₂) : Further w w₂ :=
  ⟨fun id hid => h.disconnected id (h'.disconnected id hid), h.log.trans h'.log⟩

theorem SameBus.trans (h : SameBus w w₁) (h' : SameBus w₁ w₂) : SameBus w w₂ :=
  ⟨h.toFurther.trans h'.toFurther, h'.daemon.trans h.daemon, h'.bus.trans h.bus⟩

theorem Observed.refl (w : World) : Observed w w :=
  ⟨⟨.refl w, rfl, rfl⟩, rfl, rfl, fun _ _ h => h⟩

theorem Observed.trans (h : Observed w w₁) (h' : Observed w₁ w₂) : Observed w w₂ :=
  ⟨h.toSameBus.trans h'.toSameBus, h'.pci.trans h.pci, h'.sockets.trans h.sockets,
    fun key binding hb => h.bindings key binding (h'.bindings key binding hb)⟩

theorem further_react {op : Op} (hop : ∀ id, op ≠ .update (.setDisconnected id true)) (w : World)
    (c : Choice) : Further w (react w op c).2 := by
  refine ⟨fun id hid => ?_, log_suffix_react w op c⟩
  cases op with
  | update u =>
      cases u with
      | setDisconnected other value =>
          cases value with
          | true => exact absurd rfl (hop other)
          | false =>
              have hset := hid
              simp only [react, updateEffect, Update.apply,
                PersistentState.disconnected_setDisconnected] at hset
              split at hset
              · cases hset
              · exact hset
      | _ => exact hid
  | authorize name value =>
      simp only [react] at hid
      split at hid <;> exact hid
  | _ => exact hid

theorem observed_react {op : Op} (hop : op.Clears) (w : World) (c : Choice) :
    Observed w (react w op c).2 := by
  have hfurther : Further w (react w op c).2 := by
    refine further_react ?_ w c
    rintro id rfl
    exact hop.elim
  cases op with
  | update u =>
      cases u with
      | crosvmUsbPortsRemove key =>
          refine ⟨⟨hfurther, rfl, rfl⟩, rfl, rfl, fun other binding hbinding => ?_⟩
          have hlookup : (w.memory.persistent.crosvmUsbPorts.erase key).lookup other =
              some binding := hbinding
          by_cases hother : other = key
          · rw [hother, AList.lookup_erase] at hlookup
            cases hlookup
          · rwa [AList.lookup_erase_ne hother] at hlookup
      | _ => first | exact ⟨⟨hfurther, rfl, rfl⟩, rfl, rfl, fun _ _ h => h⟩ | exact hop.elim
  | _ => first | exact ⟨⟨hfurther, rfl, rfl⟩, rfl, rfl, fun _ _ h => h⟩ | exact hop.elim

theorem sameBus_react {op : Op} (hop : (∃ device, op.AttachesPci device) ∨ op.Glue) (w : World)
    (c : Choice) : SameBus w (react w op c).2 := by
  have hfurther : Further w (react w op c).2 := by
    refine further_react ?_ w c
    rintro id rfl
    rcases hop with ⟨device, hop⟩ | hop
    · cases hop.2
    · exact hop.elim
  refine ⟨hfurther, react_daemon w op c, ?_⟩
  cases op with
  | update u => cases u <;> rfl
  | _ => first | rfl | exact hop.elim (fun h => h.choose_spec.elim) False.elim

end Steps

section Observe

variable {α : Type} {v : String} {w₀ : World}

/-- Whatever an observation calls, its invariant holds of the answer. -/
theorem succeeds_clears {op : Op} {result : Reply op → Except Error α} (hop : op.Clears)
    (hresult : ∀ w c, Observed w₀ w → failsOnly v w op c →
      ∃ a, result (react w op c).1 = .ok a) :
    Succeeds (machine (failsOnly v)) (fun _ _ => True) (Observed w₀)
      (Fallible.request op result) := by
  intro w hw
  rw [wp_operation]
  exact ⟨trivial, fun c hc => ⟨hresult w c hw hc, hw.trans (observed_react hop w c)⟩⟩

theorem succeeds_save (d : Daemon) :
    Succeeds (machine (failsOnly v)) (fun _ _ => True) (Observed w₀) (saveState d) := by
  unfold saveState
  split
  · refine succeeds_clears (by trivial) fun w c _ hc => ⟨(), ?_⟩
    have hfail : c.fail = false := hc
    simp [react, Choice.result, hfail]
  · exact succeeds_pure _

/-- A command that gives a port back does not fail where the recorded VM is another one. -/
theorem fail_eq_false {w : World} {op : Op} {c : Choice} {socket : String} (hw : Observed w₀ w)
    (hc : c.fail = true → ∀ s ∈ op.socket, w.daemon.ofVm v s = true)
    (hsocket : op.socket = some socket) (hother : w₀.daemon.ofVm v socket = false) :
    c.fail = false := by
  by_contra hfail
  have hof := hc (Bool.not_eq_false _ ▸ hfail) socket hsocket
  rw [hw.daemon, hother] at hof
  cases hof

theorem succeeds_releasePort {binding : UsbPortBinding} (hblocks : w₀.blocks v binding = false) :
    Succeeds (machine (failsOnly v)) (fun _ _ => True) (Observed w₀)
      (releasePort w₀.daemon binding) := by
  intro w hw
  rw [World.blocks] at hblocks
  rw [releasePort, Daemon.vmNamed, wp_bind, wp_require]
  cases hvm : w₀.daemon.vm binding.vm with
  | none =>
      rw [hvm] at hblocks
      cases hblocks
  | some vm =>
      rw [hvm] at hblocks
      rw [Option.elim_some, andThen_ok, wp_bind, socketGeneration, wp_operation]
      refine ⟨trivial, fun _ _ => ?_⟩
      rw [react, andThen_ok]
      split
      case isFalse => exact ⟨⟨(), rfl⟩, hw⟩
      case isTrue hlive =>
        rw [wp_bind, wp_operation]
        refine ⟨trivial, fun _ _ => ?_⟩
        rw [react, andThen_ok]
        split
        case isFalse => exact ⟨⟨(), rfl⟩, hw⟩
        case isTrue hgeneration =>
          have hother : w₀.daemon.ofVm v vm.socket = false := by
            rw [hw.sockets] at hlive hgeneration
            simpa [hlive, hgeneration, World.generation] using hblocks
          refine succeeds_bind (succeeds_clears (by trivial) fun w₁ c hw₁ hc => ?_) (fun live => ?_)
            w hw
          · have hfail := fail_eq_false hw₁ hc rfl hother
            exact ⟨w₁.ports vm.socket, by simp [react, Choice.result, hfail]⟩
          · split
            · refine succeeds_clears (by trivial) fun w₁ c hw₁ hc => ⟨(), ?_⟩
              have hfail := fail_eq_false hw₁ hc rfl hother
              simp [react, Choice.result, hfail]
            · exact succeeds_pure _

theorem succeeds_withLock {allowed : World → Op → Choice → Prop} {G : World → Op → Prop}
    {I : World → Prop} {lock : Lock} {p : Act α} (hlock : Harmless allowed G I (.lock lock))
    (hunlock : Harmless allowed G I (.unlock lock)) (hp : Succeeds (machine allowed) G I p) :
    Succeeds (machine allowed) G I (withLock lock p) := by
  intro w hw
  rw [wp_withLock]
  refine ⟨(hlock w hw).1, fun _ _ => ?_⟩
  refine wp_imp (hp w hw) fun r w' hw' => ?_
  exact ⟨(hunlock w' hw'.2).1, fun _ _ => hw'⟩

theorem harmless_clears {op : Op} (hop : op.Clears) :
    Harmless (failsOnly v) (fun _ _ => True) (Observed w₀) op := fun w hw =>
  ⟨trivial, fun c _ => hw.trans (observed_react hop w c)⟩

theorem succeeds_update {u : Update} (hu : Op.Clears (.update u)) :
    Succeeds (machine (failsOnly v)) (fun _ _ => True) (Observed w₀) (update u) :=
  succeeds_clears hu fun _ _ _ _ => ⟨(), rfl⟩

theorem succeeds_notify (n : Notification) :
    Succeeds (machine (failsOnly v)) (fun _ _ => True) (Observed w₀) (notify n) :=
  succeeds_clears (by trivial) fun _ _ _ _ => ⟨(), rfl⟩

theorem succeeds_inOrder {β : Type} (map : Map β) :
    Succeeds (machine (failsOnly v)) (fun _ _ => True) (Observed w₀) (inOrder map) :=
  succeeds_bind (succeeds_clears (by trivial) fun _ _ _ _ => ⟨_, rfl⟩) fun _ => succeeds_pure _

theorem succeeds_forgetVanished {key : String} (device : UsbDevice)
    (hkey : ∀ binding, w₀.memory.persistent.crosvmUsbPorts.lookup key = some binding →
      w₀.blocks v binding = false) :
    Succeeds (machine (failsOnly v)) (fun _ _ => True) (Observed w₀)
      (forgetVanished w₀.daemon key device) := by
  have hrest : Succeeds (machine (failsOnly v)) (fun _ _ => True) (Observed w₀)
      (dropVanished w₀.daemon key device) := by
    unfold dropVanished dropRecords
    have hend : Succeeds (machine (failsOnly v)) (fun _ _ => True) (Observed w₀) (do
        update (.crosvmUsbPortsRemove key)
        saveState w₀.daemon) :=
      succeeds_bind (succeeds_update (by trivial)) fun _ => succeeds_save _
    refine succeeds_bind (succeeds_notify _) fun _ => ?_
    refine succeeds_bind (succeeds_withLock (harmless_clears (by trivial))
      (harmless_clears (by trivial)) ?_) fun _ => succeeds_update (by trivial)
    cases device.deviceNode with
    | none => exact hend
    | some node => exact succeeds_bind (succeeds_update (by trivial)) fun _ => hend
  intro w hw
  rw [forgetVanished, wp_bind, readMemory, wp_operation]
  refine ⟨trivial, fun _ _ => ?_⟩
  rw [react, andThen_ok]
  cases hbinding : w.memory.persistent.crosvmUsbPorts.lookup key with
  | none => exact hrest w hw
  | some binding =>
      have hblocks := hkey binding (hw.bindings key binding hbinding)
      exact succeeds_bind (succeeds_releasePort hblocks) (fun _ => hrest) w hw

/-- Seen from where it starts, an observation of USB devices goes through where nothing recorded of
what vanished ends it. -/
theorem wp_observeUsb_through {usb : Map UsbDevice}
    (h : ∀ key, (w₀.memory.observedUsb.lookup key).isSome → (usb.lookup key).isNone → ∀ binding,
      w₀.memory.persistent.crosvmUsbPorts.lookup key = some binding →
        w₀.blocks v binding = false) :
    (observeUsb w₀.daemon usb).wp (machine (failsOnly v)) (fun _ _ => True)
      (fun r w' => (∃ a, r = .ok a) ∧ Observed w₀ w') w₀ := by
  rw [observeUsb, wp_withLock]
  refine ⟨trivial, fun _ _ => ?_⟩
  rw [wp_bind, readMemory, wp_operation]
  refine ⟨trivial, fun _ _ => ?_⟩
  rw [react, andThen_ok]
  have hpresent : ∀ present : List (String × UsbDevice), Succeeds (machine (failsOnly v))
      (fun _ _ => True) (Observed w₀) (present.forM fun x =>
        if (w₀.memory.observedUsb.lookup x.1).isNone then notify (.usbConnected x.2)
        else pure ()) := by
    intro present
    refine succeeds_forM fun x _ => ?_
    split
    · exact succeeds_notify _
    · exact succeeds_pure _
  rw [wp_bind]
  refine wp_imp (succeeds_inOrder usb w₀ (.refl w₀)) ?_
  rintro _ w₁ ⟨⟨present, rfl⟩, hw₁⟩
  rw [andThen_ok, wp_bind]
  refine wp_imp (hpresent present w₁ hw₁) ?_
  rintro _ w₂ ⟨⟨_, rfl⟩, hw₂⟩
  rw [andThen_ok, inOrder, bind_assoc, wp_bind, order, wp_operation]
  refine ⟨trivial, fun _ _ => ?_⟩
  rw [react, andThen_ok, pure_bind]
  refine wp_imp (succeeds_bind (succeeds_forM fun x hx => ?_)
    (fun _ => succeeds_update (u := .observedUsb usb) (by trivial)) w₂ hw₂) fun r w₃ hw₃ => ?_
  · dsimp only
    split
    case isTrue hgone =>
      obtain ⟨k, -, hk⟩ := List.mem_filterMap.1 hx
      obtain ⟨device, hdevice, rfl⟩ := Option.map_eq_some_iff.1 hk
      exact succeeds_forgetVanished _ (h k (Option.isSome_of_eq_some hdevice) hgone)
    case isFalse => exact succeeds_pure _
  · exact ⟨trivial, fun _ _ => hw₃⟩

theorem succeeds_observePci (pci : Map PciDevice) :
    Succeeds (machine (failsOnly v)) (fun _ _ => True) (Observed w₀) (observePci pci) := by
  refine succeeds_withLock (harmless_clears (by trivial)) (harmless_clears (by trivial)) ?_
  refine succeeds_bind (succeeds_clears (by trivial) fun _ _ _ _ => ⟨_, rfl⟩) fun m => ?_
  refine succeeds_bind (succeeds_inOrder pci) fun present => ?_
  refine succeeds_bind (succeeds_forM fun x _ => ?_) fun _ => ?_
  · dsimp only
    split
    · exact succeeds_notify _
    · exact succeeds_pure _
  refine succeeds_bind (succeeds_inOrder _) fun seen => ?_
  refine succeeds_bind (succeeds_forM fun x _ => ?_) fun _ => succeeds_update (by trivial)
  dsimp only
  split
  · exact succeeds_bind (succeeds_notify _) fun _ => succeeds_update (by trivial)
  · exact succeeds_pure _

theorem wp_usbDevices_scanned (d : Daemon) (w : World) :
    (usbDevices d).wp (machine (failsOnly v)) (fun _ _ => True)
      (fun r w' => w' = w ∧ r = .ok (w.usbRouted d)) w := by
  have hscan : Succeeds (machine (failsOnly v)) (fun _ _ => True) (Observed w) (usbDevices d) := by
    refine succeeds_bind (succeeds_clears (by trivial) fun w₁ c _ hc => ?_) fun _ => succeeds_pure _
    have hfail : c.fail = false := hc
    exact ⟨w₁.usbDevices, by simp [react, Choice.result, hfail]⟩
  refine wp_mono (wp_and (wp_usbDevices (G := fun _ _ => True) trivial) (hscan w (.refl w)))
    (fun _ _ _ => trivial) ?_
  rintro r w' ⟨⟨rfl, hr⟩, ⟨xs, rfl⟩, -⟩
  exact ⟨rfl, congrArg Except.ok (hr xs rfl)⟩

theorem succeeds_pciRouted {V : Type} {M : Machine Op Reply V} {G : V → Op → Prop} {I : V → Prop}
    (hgroup : ∀ address, Succeeds M G I (iommuGroupAt address)) (d : Daemon)
    (devices : List PciDevice) : Succeeds M G I (pciRouted d devices) := by
  induction devices with
  | nil => exact succeeds_pure _
  | cons device rest ih =>
      unfold pciRouted
      split
      · exact ih
      · split
        · refine succeeds_bind (hgroup device.address) fun group => ?_
          split
          · exact ih
          · exact succeeds_bind ih fun _ => succeeds_pure _
        · exact succeeds_bind ih fun _ => succeeds_pure _

theorem succeeds_pciDevices {V : Type} {M : Machine Op Reply V} {G : V → Op → Prop}
    {I : V → Prop} (hscan : Succeeds M G I scanPciRoot)
    (hgroup : ∀ address, Succeeds M G I (iommuGroupAt address)) (d : Daemon) :
    Succeeds M G I (pciDevices d) :=
  succeeds_bind hscan fun devices =>
    succeeds_bind (succeeds_pciRouted hgroup d devices) fun _ => succeeds_pure _

theorem wp_pciDevices_scanned (d : Daemon) (w : World) :
    (pciDevices d).wp (machine (failsOnly v)) (fun _ _ => True)
      (fun r w' => w' = w ∧ r = .ok (w.pciRouted d)) w := by
  have hscan : Succeeds (machine (failsOnly v)) (fun _ _ => True) (Observed w) (pciDevices d) := by
    refine succeeds_pciDevices (succeeds_clears (by trivial) fun w₁ c _ hc => ?_)
      (fun address => succeeds_clears (by trivial) fun w₁ c _ hc => ?_) d
    · have hfail : c.fail = false := hc
      exact ⟨scanPci w₁.pci, by simp [react, Choice.result, hfail]⟩
    · have hfail : c.fail = false := hc
      exact ⟨iommuGroup w₁.pci address, by simp [react, Choice.result, hfail]⟩
  refine wp_mono (wp_and (wp_pciDevices (G := fun _ _ => True) trivial fun _ => trivial)
    (hscan w (.refl w))) (fun _ _ _ => trivial) ?_
  rintro r w' ⟨⟨rfl, hr⟩, ⟨xs, rfl⟩, -⟩
  exact ⟨rfl, congrArg Except.ok (hr xs rfl)⟩

/-- Where nothing recorded of what vanished ends it, an observation goes through. -/
theorem wp_observe_through {w : World} (h : w.observable v) :
    (observe w.daemon).wp (machine (failsOnly v)) (fun _ _ => True)
      (fun r w' => (∃ a, r = .ok a) ∧ Observed w w') w := by
  rw [observe, wp_bind, enter, wp_operation]
  refine ⟨trivial, fun c _ => ?_⟩
  have hentered : Observed w (w.record (.entered .observe)) :=
    @observed_react (.enter .observe) (by trivial) w c
  change wp (machine (failsOnly v)) (fun _ _ => True) _ _ (w.record (.entered .observe))
  rw [wp_bind]
  refine wp_imp (wp_usbDevices_scanned w.daemon _) ?_
  rintro _ _ ⟨rfl, rfl⟩
  rw [andThen_ok, wp_bind]
  refine wp_imp (wp_pciDevices_scanned w.daemon _) ?_
  rintro _ _ ⟨rfl, rfl⟩
  rw [andThen_ok, wp_bind]
  refine wp_imp (wp_observeUsb_through ?_) ?_
  · intro key hseen hgone binding hbinding
    exact h key ⟨hseen, lookup_scanned_isNone.1 hgone⟩ binding hbinding
  · rintro _ w₁ ⟨⟨_, rfl⟩, hw₁⟩
    exact succeeds_observePci _ w₁ (hentered.trans hw₁)

end Observe

/-! ## The attaches of a pass -/

def Tried (w w' : World) (entry : Option String → Entry) : Prop :=
  ∃ vm, Since w w' (.entered (entry vm))

/-- Each device of a list that is due was tried: an attach was entered for it since `w`. -/
def TriedAll {α : Type} (w w' : World) (l : List α) (due : α → Prop)
    (entry : α → Option String → Entry) : Prop :=
  ∀ x ∈ l, due x → Tried w w' (entry x)

section Resume

variable {α : Type} {allowed : World → Op → Choice → Prop} {w₀ : World} {d : Daemon}

theorem Tried.later {w w' : World} {entry : Option String → Entry} (h : Tried w₀ w entry)
    (hlater : w.log <:+ w'.log) : Tried w₀ w' entry := by
  obtain ⟨vm, hsince⟩ := h
  exact ⟨vm, hsince.later hlater⟩

theorem keeps_tried (p : Act α) (entry : Option String → Entry) :
    Keeps (machine allowed) (fun _ _ => True) (fun w => Tried w₀ w entry) p :=
  keeps_of_harmless (Program.calls_mono (Program.calls_top p.run)
    fun op _ w h => ⟨trivial, fun c _ => h.later (log_suffix_react w op c)⟩)

theorem keeps_triedAll {β : Type} (p : Act α) (l : List β) (due : β → Prop)
    (entry : β → Option String → Entry) : Keeps (machine allowed) (fun _ _ => True)
      (fun w => TriedAll w₀ w l due entry) p :=
  keeps_of_harmless (Program.calls_mono (Program.calls_top p.run) fun op _ w h =>
    ⟨trivial, fun c _ x hx hdue => (h x hx hdue).later (log_suffix_react w op c)⟩)

theorem further_glue {op : Op} (hop : op.Glue) :
    Harmless allowed (fun _ _ => True) (Further w₀) op := by
  refine fun w hw => ⟨trivial, fun c _ => hw.trans (further_react ?_ w c)⟩
  rintro id rfl
  exact hop.elim

theorem wp_collectDeferring_ok {I : World → Prop} {name : String} {target : Option String}
    {p : Act Unit} {failures : List String} {w : World}
    (hglue : ∀ op : Op, op.Glue → Harmless allowed (fun _ _ => True) I op)
    (hp : p.wp (machine allowed) (fun _ _ => True) (fun _ => I) w) :
    (collectDeferring d name target p failures).wp (machine allowed) (fun _ _ => True)
      (fun r w' => (∃ failures', r = .ok failures') ∧ I w') w := by
  have hrequest : ∀ {β : Type} {op : Op} {result : Reply op → Except Error β}, op.Glue →
      (∀ r, ∃ a, result r = .ok a) → Succeeds (machine allowed) (fun _ _ => True) I
        (Fallible.request op result) := by
    intro β op result hop hresult w hw
    rw [wp_operation]
    exact ⟨trivial, fun c hc => ⟨hresult _, (hglue op hop w hw).2 c hc⟩⟩
  rw [collectDeferring, wp_bind, wp_attempt]
  refine wp_imp hp fun r w' hw' => ?_
  cases r with
  | ok _ => exact ⟨⟨_, rfl⟩, hw'⟩
  | error e =>
      refine succeeds_bind (p := vmStopped d target) ?_ (fun stopped => ?_) w' hw'
      · unfold vmStopped
        split
        · exact succeeds_pure _
        · exact succeeds_bind (hrequest (by trivial) fun r => ⟨r, rfl⟩) fun _ => succeeds_pure _
      · split
        · exact succeeds_bind (hrequest (by trivial) fun _ => ⟨(), rfl⟩) fun _ => succeeds_pure _
        · exact succeeds_pure _

/-- A loop each of whose rounds tries its device tries them all. -/
theorem wp_foldlM_tries {l : List α} {f : List String → α → Act (List String)}
    {due : α → Prop} {entry : α → Option String → Entry}
    (hf : ∀ x failures w, Further w₀ w → (f failures x).wp (machine allowed) (fun _ _ => True)
      (fun r w' => (∃ failures', r = .ok failures') ∧
        (Further w₀ w' ∧ (due x → Tried w₀ w' (entry x)))) w)
    (failures : List String) {w : World} (hw : Further w₀ w) :
    (l.foldlM f failures).wp (machine allowed) (fun _ _ => True)
      (fun _ w' => Further w₀ w' ∧ TriedAll w₀ w' l due entry) w := by
  have hall := wp_foldlM_all (M := machine allowed) (G := fun _ _ => True) (l := l) (f := f)
    (I := fun rest w' => Further w₀ w' ∧ ∀ x ∈ l, due x → x ∈ rest ∨ Tried w₀ w' (entry x))
    ?_ failures (w := w) ⟨hw, fun x hx _ => .inl hx⟩
  · refine wp_imp hall ?_
    rintro r w' ⟨-, hfurther, htried⟩
    exact ⟨hfurther, fun x hx hdue => (htried x hx hdue).resolve_left List.not_mem_nil⟩
  · rintro x rest failures w ⟨hw, htried⟩
    have hkept : (f failures x).wp (machine allowed) (fun _ _ => True)
        (fun _ w' => ∀ y ∈ l, due y → y ∈ x :: rest ∨ Tried w₀ w' (entry y)) w := by
      refine keeps_of_harmless (I := fun w' => ∀ y ∈ l, due y → y ∈ x :: rest ∨
        Tried w₀ w' (entry y)) (Program.calls_mono (Program.calls_top _) ?_) w htried
      exact fun op _ w' h => ⟨trivial, fun c _ y hy hdue => (h y hy hdue).imp_right
        fun htried => htried.later (log_suffix_react w' op c)⟩
    refine wp_mono (wp_and (hf x failures w hw) hkept) (fun _ _ _ => trivial) ?_
    rintro r w' ⟨⟨hok, hfurther, hx⟩, hothers⟩
    refine ⟨hok, hfurther, fun y hy hdue => ?_⟩
    rcases hothers y hy hdue with hmem | hy
    · obtain rfl | hrest := List.mem_cons.1 hmem
      · exact .inr (hx hdue)
      · exact .inl hrest
    · exact .inr hy

theorem wp_attachOneUsb_tries {device : UsbDevice} {rule : RuleMatch} {vm : Option String}
    {w : World} (hw : Further w₀ w) :
    (attachOneUsb d device rule vm).wp (machine allowed) (fun _ _ => True)
      (fun _ w' => Further w₀ w' ∧ Tried w₀ w' (.attachOneUsb device rule)) w := by
  have hfurther : Keeps (machine allowed) (fun _ _ => True) (Further w₀)
      (attachOneUsb d device rule vm) := by
    refine keeps_of_harmless (calls_attachOneUsb d device rule vm ?_ fun op hop => ?_)
    · exact fun w hw => ⟨trivial, fun c _ => hw.trans (further_react (by simp) w c)⟩
    · refine fun w hw => ⟨trivial, fun c _ => hw.trans (further_react ?_ w c)⟩
      rintro id rfl
      cases hop.2
  have htried : (attachOneUsb d device rule vm).wp (machine allowed) (fun _ _ => True)
      (fun _ w' => Tried w₀ w' (.attachOneUsb device rule)) w := by
    rw [attachOneUsb, wp_bind, enter, wp_operation]
    refine ⟨trivial, fun c _ => ?_⟩
    rw [andThen_ok]
    exact keeps_tried _ _ _ ⟨vm, since_record hw.log⟩
  exact wp_mono (wp_and (hfurther w hw) htried) (fun _ _ _ => trivial) fun _ _ h => h

theorem wp_attachOnePci_tries {device : PciDevice} {rule : RuleMatch} {vm : Option String}
    {w : World} (hw : Further w₀ w) :
    (attachOnePci d device rule vm).wp (machine allowed) (fun _ _ => True)
      (fun _ w' => Further w₀ w' ∧ Tried w₀ w' (.attachOnePci device rule)) w := by
  have hfurther : Keeps (machine allowed) (fun _ _ => True) (Further w₀)
      (attachOnePci d device rule vm) := by
    refine keeps_of_harmless (Program.calls_mono (calls_attachOnePci d device rule vm) ?_)
    refine fun op hop w hw => ⟨trivial, fun c _ => hw.trans (further_react ?_ w c)⟩
    rintro id rfl
    cases hop.2
  have htried : (attachOnePci d device rule vm).wp (machine allowed) (fun _ _ => True)
      (fun _ w' => Tried w₀ w' (.attachOnePci device rule)) w := by
    rw [attachOnePci, wp_bind, enter, wp_operation]
    refine ⟨trivial, fun c _ => ?_⟩
    rw [andThen_ok]
    exact keeps_tried _ _ _ ⟨vm, since_record hw.log⟩
  exact wp_mono (wp_and (hfurther w hw) htried) (fun _ _ _ => trivial) fun _ _ h => h

/-- The round of a device collects the failure of its attach, and skips it only if it is marked. -/
theorem wp_resumeUsbDevice_tries (x : UsbDevice × RuleMatch) (failures : List String) {w : World}
    (hw : Further w₀ w) :
    (resumeUsbDevice d none failures x.1 x.2).wp (machine allowed) (fun _ _ => True)
      (fun r w' => (∃ failures', r = .ok failures') ∧ (Further w₀ w' ∧
        (w₀.memory.persistent.disconnected x.1.persistentId = false →
          Tried w₀ w' (.attachOneUsb x.1 x.2)))) w := by
  have hattach : ∀ target, wp (machine allowed) (fun _ _ => True)
      (if inScope none target then
        collectDeferring d x.1.sysName target (attachOneUsb d x.1 x.2 target) failures
        else pure failures) (fun r w' => (∃ failures', r = .ok failures') ∧
          (Further w₀ w' ∧ Tried w₀ w' (.attachOneUsb x.1 x.2))) w := by
    intro target
    have hscope : inScope none target = true := rfl
    rw [if_pos hscope]
    refine wp_collectDeferring_ok (fun op hop w' hw' => ?_) (wp_attachOneUsb_tries hw)
    refine ⟨trivial, fun c hc => ⟨(further_glue hop w' hw'.1).2 c hc, ?_⟩⟩
    exact hw'.2.later (log_suffix_react w' op c)
  have hdone : ∀ (r : Except Error (List String)) w', ((∃ failures', r = .ok failures') ∧
      (Further w₀ w' ∧ Tried w₀ w' (.attachOneUsb x.1 x.2))) → (∃ failures', r = .ok failures') ∧
        (Further w₀ w' ∧ (w₀.memory.persistent.disconnected x.1.persistentId = false →
          Tried w₀ w' (.attachOneUsb x.1 x.2))) :=
    fun r w' h => ⟨h.1, h.2.1, fun _ => h.2.2⟩
  rw [resumeUsbDevice, wp_bind, readMemory, wp_operation]
  refine ⟨trivial, fun _ _ => ?_⟩
  rw [react, andThen_ok]
  split
  case isTrue hmarked =>
    refine ⟨⟨failures, rfl⟩, hw, fun hconnected => ?_⟩
    rw [hw.disconnected _ hmarked] at hconnected
    cases hconnected
  case isFalse =>
    cases x.2.targetVm with
    | some target => exact wp_imp (hattach _) hdone
    | none =>
        dsimp only
        rw [wp_bind, wp_operation]
        exact ⟨trivial, fun _ _ => wp_imp (hattach _) hdone⟩

theorem wp_resumePciDevice_tries (x : PciDevice × RuleMatch) (failures : List String) {w : World}
    (hw : Further w₀ w) :
    (resumePciDevice d none failures x.1 x.2).wp (machine allowed) (fun _ _ => True)
      (fun r w' => (∃ failures', r = .ok failures') ∧ (Further w₀ w' ∧
        (w₀.memory.persistent.disconnected x.1.persistentId = false ∧ x.2.targetVm.isSome →
          Tried w₀ w' (.attachOnePci x.1 x.2)))) w := by
  rw [resumePciDevice, wp_bind, readMemory, wp_operation]
  refine ⟨trivial, fun _ _ => ?_⟩
  rw [react, andThen_ok]
  split
  case isTrue hmarked =>
    refine ⟨⟨failures, rfl⟩, hw, fun hdue => ?_⟩
    have hconnected := hdue.1
    rw [hw.disconnected _ hmarked] at hconnected
    cases hconnected
  case isFalse =>
    split
    case isTrue =>
      refine wp_imp (wp_collectDeferring_ok (I := fun w' => Further w₀ w' ∧
        Tried w₀ w' (.attachOnePci x.1 x.2)) (fun op hop w' hw' => ?_) (wp_attachOnePci_tries hw))
        fun r w' h => ⟨h.1, h.2.1, fun _ => h.2.2⟩
      refine ⟨trivial, fun c hc => ⟨(further_glue hop w' hw'.1).2 c hc, ?_⟩⟩
      exact hw'.2.later (log_suffix_react w' op c)
    case isFalse hnone =>
      refine ⟨⟨failures, rfl⟩, hw, fun hdue => absurd ?_ hnone⟩
      cases htarget : x.2.targetVm with
      | none =>
          rw [htarget] at hdue
          cases hdue.2
      | some target => rfl

theorem usbRouted_eq {w : World} (hw : SameBus w₀ w) (d : Daemon) :
    w.usbRouted d = w₀.usbRouted d := by
  simp only [World.usbRouted, World.usbDevices, hw.daemon, hw.bus]

theorem wp_resumeUsb_tries {v : String} {w : World} (hw : SameBus w₀ w) :
    (resumeUsb d none).wp (machine (failsOnly v)) (fun _ _ => True) (fun _ w' => Further w₀ w' ∧
      TriedAll w₀ w' (w₀.usbRouted d)
        (fun x => w₀.memory.persistent.disconnected x.1.persistentId = false)
        fun x => .attachOneUsb x.1 x.2) w := by
  rw [resumeUsb, wp_withLock]
  refine ⟨trivial, fun _ _ => ?_⟩
  rw [wp_bind]
  refine wp_imp (wp_usbDevices_scanned d w) ?_
  rintro _ _ ⟨rfl, rfl⟩
  rw [andThen_ok, wp_bind, enter, wp_operation]
  refine ⟨trivial, fun c _ => ?_⟩
  rw [andThen_ok, wp_bind, usbRouted_eq hw]
  have hentered := hw.toFurther.trans
    (@further_react (.enter (.resumeUsb (w₀.usbRouted d))) (by simp) _ c)
  refine wp_imp (wp_foldlM_tries (fun x => wp_resumeUsbDevice_tries x) [] hentered) ?_
  intro r w' hw'
  cases r with
  | error e => exact ⟨trivial, fun _ _ => hw'⟩
  | ok failures =>
      rw [andThen_ok, aggregate]
      split <;> exact ⟨trivial, fun _ _ => hw'⟩

theorem wp_resumePci_tries {v : String} {w : World} (hw : Observed w₀ w) :
    (resumePci d none).wp (machine (failsOnly v)) (fun _ _ => True) (fun _ w' => SameBus w₀ w' ∧
      TriedAll w₀ w' (w₀.pciRouted d)
        (fun x => w₀.memory.persistent.disconnected x.1.persistentId = false ∧ x.2.targetVm.isSome)
        fun x => .attachOnePci x.1 x.2) w := by
  have hkeeps : Keeps (machine (failsOnly v)) (fun _ _ => True) (SameBus w₀)
      (resumePci d none) := by
    refine resumePci_keeps_of (fun op hop w hw => ⟨trivial, fun c _ => ?_⟩)
      fun device rule w hw _ _ => keeps_of_harmless (Program.calls_mono
        (calls_attachOnePci d device rule _) fun op hop w hw => ⟨trivial, fun c _ => ?_⟩) w hw
    · exact hw.trans (sameBus_react (.inr hop) w c)
    · exact hw.trans (sameBus_react (.inl ⟨device, hop⟩) w c)
  have htries : (resumePci d none).wp (machine (failsOnly v)) (fun _ _ => True)
      (fun _ w' => Further w₀ w' ∧ TriedAll w₀ w' (w₀.pciRouted d)
        (fun x => w₀.memory.persistent.disconnected x.1.persistentId = false ∧ x.2.targetVm.isSome)
        fun x => .attachOnePci x.1 x.2) w := by
    have hrouted : w.pciRouted d = w₀.pciRouted d := by simp only [World.pciRouted, hw.pci]
    rw [resumePci, wp_withLock]
    refine ⟨trivial, fun _ _ => ?_⟩
    rw [wp_bind]
    refine wp_imp (wp_pciDevices_scanned d w) ?_
    rintro _ _ ⟨rfl, rfl⟩
    rw [andThen_ok, wp_bind, hrouted]
    refine wp_imp (wp_foldlM_tries (fun x => wp_resumePciDevice_tries x) [] hw.toFurther) ?_
    intro r w' hw'
    cases r with
    | error e => exact ⟨trivial, fun _ _ => hw'⟩
    | ok failures =>
        rw [andThen_ok, aggregate]
        split <;> exact ⟨trivial, fun _ _ => hw'⟩
  refine wp_mono (wp_and (hkeeps w hw.toSameBus) htries) (fun _ _ _ => trivial) ?_
  exact fun r w' h => ⟨h.1, h.2.2⟩

theorem wp_collect {name : String} {p : Act Unit} {failures : List String} {I : World → Prop}
    {w : World} (hp : p.wp (machine allowed) (fun _ _ => True) (fun _ => I) w) :
    (collect name p failures).wp (machine allowed) (fun _ _ => True)
      (fun r w' => (∃ failures', r = .ok failures') ∧ I w') w := by
  rw [collect, wp_bind, wp_attempt]
  refine wp_imp hp fun r w' hw' => ?_
  cases r <;> exact ⟨⟨_, rfl⟩, hw'⟩

/-- Where the observation goes through, the pass tries what it may not leave out. -/
theorem wp_observeAndResume {v : String} {w : World} (h : w.observable v) :
    (observeAndResume w.daemon).wp (machine (failsOnly v)) (fun _ _ => True)
      (fun _ w' => Attempted v w w') w := by
  rw [observeAndResume, wp_bind]
  refine wp_imp (wp_observe_through h) ?_
  rintro _ w₁ ⟨⟨_, rfl⟩, hw₁⟩
  rw [andThen_ok, wp_bind]
  refine wp_imp (wp_collect (wp_resumePci_tries hw₁)) ?_
  rintro _ w₂ ⟨⟨failures, rfl⟩, hbus, hpci⟩
  rw [andThen_ok, wp_bind]
  refine wp_mono (wp_and (wp_collect (wp_resumeUsb_tries hbus))
    (keeps_triedAll _ _ _ _ w₂ hpci)) (fun _ _ _ => trivial) ?_
  rintro _ w₃ ⟨⟨⟨failures, rfl⟩, -, husb⟩, hpci⟩
  rw [andThen_ok]
  refine wp_mono (wp_and (keeps_triedAll _ _ _ _ w₃ husb) (keeps_triedAll _ _ _ _ w₃ hpci))
    (fun _ _ _ => trivial) ?_
  rintro r w' ⟨husb, hpci⟩
  constructor
  · intro x hx
    obtain ⟨hrouted, hdue⟩ := List.mem_filter.1 hx
    rw [Bool.and_eq_true, Bool.not_eq_true'] at hdue
    exact husb x hrouted hdue.1
  · intro x hx
    obtain ⟨hrouted, hdue⟩ := List.mem_filter.1 hx
    rw [Bool.and_eq_true, Bool.not_eq_true'] at hdue
    obtain ⟨htarget, -⟩ := (Option.any_eq_true_iff_get _ _).1 hdue.2
    exact hpci x hrouted ⟨hdue.1, htarget⟩

end Resume

/-! ## A pass that ends early -/

def failing (v : String) (w : World) (op : Op) : Choice where
  fail := op.socket.any (w.daemon.ofVm v)

theorem failing_allowed (v : String) (w : World) (op : Op) :
    failsOnly v w op (failing v w op) := by
  have hof : (failing v w op).fail = true →
      ∀ socket ∈ op.socket, w.daemon.ofVm v socket = true := by
    intro hfail socket hsocket
    rw [Option.mem_def] at hsocket
    simpa [failing, hsocket] using hfail
  cases op <;> first | rfl | exact hof

/-- As at `w₀`, what is recorded under `key` ends a pass. -/
structure Stuck (w₀ : World) (key : String) (binding : UsbPortBinding) (w : World) : Prop where
  daemon : w.daemon = w₀.daemon
  sockets : w.sockets = w₀.sockets
  binding : w.memory.persistent.crosvmUsbPorts.lookup key = some binding

section Blocked

variable {v : String} {w₀ w : World} {key : String} {binding : UsbPortBinding}

abbrev failingMachine (v : String) : Machine Op Reply World :=
  machine fun w op c => c = failing v w op

theorem error_ne_ok (e : Error) : (.error e : Except Error Unit) ≠ .ok () := fun h => by cases h

theorem wp_releasePort_blocked (hw : Stuck w₀ key binding w) (h : w₀.blocks v binding = true) :
    (releasePort w₀.daemon binding).wp (failingMachine v) (fun _ _ => True)
      (fun r _ => r ≠ .ok ()) w := by
  rw [releasePort, Daemon.vmNamed, wp_bind, wp_require]
  cases hvm : w₀.daemon.vm binding.vm with
  | none => exact error_ne_ok _
  | some vm =>
      rw [World.blocks, hvm] at h
      simp only [Bool.and_eq_true, beq_iff_eq] at h
      obtain ⟨⟨hof, hlive⟩, hgeneration⟩ := h
      rw [Option.elim_some, andThen_ok, wp_bind, socketGeneration, wp_operation]
      refine ⟨trivial, fun _ _ => ?_⟩
      rw [react, andThen_ok, hw.sockets, if_pos hlive, wp_bind, wp_operation]
      refine ⟨trivial, fun _ _ => ?_⟩
      have hsame : binding.socketGeneration == (w₀.sockets vm.socket).getD "" := by
        rw [hgeneration]
        exact beq_self_eq_true _
      rw [react, andThen_ok, hw.sockets, if_pos hsame, wp_bind, usbList, wp_operation]
      refine ⟨trivial, ?_⟩
      rintro _ rfl
      have hfail : (failing v w (.usbList vm.socket)).fail = true := by
        simpa [failing, Op.socket, hw.daemon] using hof
      simp [react, Choice.result, hfail]

theorem wp_forgetVanished_blocked (hw : Stuck w₀ key binding w) (h : w₀.blocks v binding = true)
    (device : UsbDevice) : (forgetVanished w₀.daemon key device).wp (failingMachine v)
      (fun _ _ => True) (fun r _ => r ≠ .ok ()) w := by
  rw [forgetVanished, wp_bind, readMemory, wp_operation]
  refine ⟨trivial, fun _ _ => ?_⟩
  rw [react, andThen_ok, hw.binding]
  dsimp only
  rw [wp_bind]
  refine wp_imp (wp_releasePort_blocked hw h) fun r w' hr => ?_
  cases r with
  | ok a => exact absurd rfl hr
  | error e => exact error_ne_ok _

theorem stuck_react {op : Op} {other : String} {device : UsbDevice} (hother : other ≠ key)
    (hop : op.Vanishes other device) (hw : Stuck w₀ key binding w) (c : Choice) :
    Stuck w₀ key binding (react w op c).2 := by
  refine ⟨(react_daemon w op c).trans hw.daemon, (react_sockets w op c).trans hw.sockets, ?_⟩
  cases op with
  | update u =>
      cases u with
      | crosvmUsbPortsRemove k =>
          obtain rfl : k = other := hop
          exact (AList.lookup_erase_ne hother.symm).trans hw.binding
      | _ => first | exact hw.binding | exact hop.elim
  | authorize name value => exact hop.elim
  | _ => exact hw.binding

theorem stuck_observes {op : Op} (hop : op.Observes) (hw : Stuck w₀ key binding w) (c : Choice) :
    Stuck w₀ key binding (react w op c).2 := by
  obtain heq | ⟨n, heq⟩ := react_observes hop w c
  · rwa [heq]
  · rw [heq]
    exact ⟨hw.daemon, hw.sockets, hw.binding⟩

/-- An observation does not get past a vanished device whose record ends it. -/
theorem wp_observeUsb_blocked {usb : Map UsbDevice} {device : UsbDevice}
    (hseen : w₀.memory.observedUsb.lookup key = some device) (hgone : (usb.lookup key).isNone)
    (hbinding : w₀.memory.persistent.crosvmUsbPorts.lookup key = some binding)
    (h : w₀.blocks v binding = true) :
    (observeUsb w₀.daemon usb).wp (failingMachine v) (fun _ _ => True)
      (fun r _ => r ≠ .ok ()) w₀ := by
  have hkeeps : ∀ {p : Act Unit}, Calls Op.Observes p →
      Keeps (failingMachine v) (fun _ _ => True) (Stuck w₀ key binding) p := fun hp =>
    keeps_of_harmless (Program.calls_mono hp fun op hop w hw =>
      ⟨trivial, fun c _ => stuck_observes hop hw c⟩)
  rw [observeUsb, wp_withLock]
  refine ⟨trivial, fun _ _ => ?_⟩
  rw [wp_bind, readMemory, wp_operation]
  refine ⟨trivial, fun _ _ => ?_⟩
  rw [react, andThen_ok, wp_bind]
  refine wp_imp (wp_inOrder trivial) ?_
  rintro _ w' ⟨hsame, present, rfl, -⟩
  subst w'
  rw [andThen_ok, wp_bind]
  refine wp_imp (hkeeps (calls_forM fun x _ => ?_) _ ⟨rfl, rfl, hbinding⟩) ?_
  · exact calls_ite (calls_request (by trivial)) (by trivial)
  rintro r w₁ hw₁
  cases r with
  | error e => exact ⟨trivial, fun _ _ => error_ne_ok e⟩
  | ok _ =>
      rw [andThen_ok, wp_bind]
      refine wp_imp (wp_inOrder trivial) ?_
      rintro _ _ ⟨rfl, seen, rfl, hentries⟩
      rw [andThen_ok, wp_bind]
      refine wp_imp (wp_forM_rest (I := fun rest w' => Stuck w₀ key binding w' ∧
        (key, device) ∈ rest) ?_ ⟨hw₁, hentries key device hseen⟩) fun r w' hr => ?_
      · rintro ⟨other, x⟩ rest w' ⟨hw', hmem⟩
        dsimp only
        by_cases hother : other = key
        · subst hother
          rw [if_pos hgone]
          exact wp_imp (wp_forgetVanished_blocked hw' h x) fun r _ hr heq => absurd heq hr
        · have hrest : (key, device) ∈ rest := by
            refine (List.mem_cons.1 hmem).resolve_left fun heq => hother ?_
            exact (congrArg Prod.fst heq).symm
          have hround : Keeps (failingMachine v) (fun _ _ => True) (Stuck w₀ key binding)
              (if (usb.lookup other).isNone then forgetVanished w₀.daemon other x
                else pure ()) := by
            refine keeps_ite (keeps_of_harmless (Program.calls_mono
              (calls_forgetVanished w₀.daemon other x) fun op hop w hw => ?_)) (keeps_pure _)
            exact ⟨trivial, fun c _ => stuck_react hother hop hw c⟩
          exact wp_imp (hround w' hw') fun _ _ hw' _ => ⟨hw', hrest⟩
      · cases r with
        | error e => exact ⟨trivial, fun _ _ => error_ne_ok e⟩
        | ok _ => cases (hr rfl).2

theorem wp_observe_blocked (hvanished : w.vanishedUsb key)
    (hbinding : w.memory.persistent.crosvmUsbPorts.lookup key = some binding)
    (h : w.blocks v binding = true) :
    (observe w.daemon).wp (failingMachine v) (fun _ _ => True) (fun r _ => r ≠ .ok ()) w := by
  obtain ⟨device, hseen⟩ := Option.isSome_iff_exists.1 hvanished.1
  rw [observe, wp_bind, enter, wp_operation]
  refine ⟨trivial, fun c _ => ?_⟩
  rw [andThen_ok, wp_bind]
  refine wp_imp (wp_usbDevices trivial) ?_
  rintro r _ ⟨rfl, husb⟩
  cases r with
  | error e => exact error_ne_ok _
  | ok xs =>
      obtain rfl := husb xs rfl
      rw [andThen_ok, wp_bind]
      refine wp_imp (wp_pciDevices trivial fun _ => trivial) ?_
      rintro r _ ⟨rfl, -⟩
      cases r with
      | error e => exact error_ne_ok _
      | ok ys =>
          rw [andThen_ok, wp_bind]
          have hgone := lookup_scanned_isNone.2 hvanished.2
          refine wp_imp (wp_observeUsb_blocked hseen hgone hbinding h) fun r w' hr => ?_
          cases r with
          | ok _ => exact absurd rfl hr
          | error e => exact error_ne_ok _

theorem Since.of_react {w w' : World} {op : Op} {c : Choice} {effect : Effect}
    (h : Since w (react w' op c).2 effect) : Since w w' effect ∨ effect.Of op := by
  obtain ⟨news, hnews, hmem⟩ := h
  obtain hsame | ⟨added, hadded, hof⟩ := react_log w' op c
  · rw [hsame] at hnews
    exact .inl ⟨news, hnews, hmem⟩
  · rw [hadded] at hnews
    cases news with
    | nil => cases hmem
    | cons first rest =>
        obtain ⟨rfl, hrest⟩ := List.cons.inj hnews
        obtain rfl | hmem := List.mem_cons.1 hmem
        · exact .inr hof
        · exact .inl ⟨rest, hrest, hmem⟩

theorem wp_calm {α : Type} {p : Act α} (hp : Calls Op.Calm p) (w : World) :
    p.wp (failingMachine v) (fun _ _ => True) (fun _ w' => w.log <:+ w'.log ∧
      ∀ entry, Since w w' (.entered entry) → entry.attaches = none) w := by
  refine keeps_of_harmless (I := fun w' => w.log <:+ w'.log ∧
    ∀ entry, Since w w' (.entered entry) → entry.attaches = none)
    (Program.calls_mono hp fun op hop w' hw' => ⟨trivial, fun c _ => ?_⟩) w ?_
  · refine ⟨hw'.1.trans (log_suffix_react w' op c), fun entry hsince => ?_⟩
    obtain hsince | hof := hsince.of_react
    · exact hw'.2 entry hsince
    · obtain rfl : op = .enter entry := hof
      exact hop
  · refine ⟨List.suffix_rfl, ?_⟩
    rintro entry ⟨news, hnews, hmem⟩
    rw [List.self_eq_append_left.1 hnews] at hmem
    cases hmem

/-- A pass that cannot be observed through may end having attached nothing. -/
theorem exec_blocked (hvanished : w.vanishedUsb key)
    (hbinding : w.memory.persistent.crosvmUsbPorts.lookup key = some binding)
    (h : w.blocks v binding = true) : ∃ tr w' r,
    Exec (machine (failsOnly v)) (observeAndResume w.daemon).run w tr w' (some r) ∧
      ∀ entry, Since w w' (.entered entry) → entry.attaches = none := by
  have hends : (observeAndResume w.daemon).wp (failingMachine v) (fun _ _ => True)
      (fun _ w' => ∀ entry, Since w w' (.entered entry) → entry.attaches = none) w := by
    have hcalm : Calls Op.Calm (observe w.daemon) :=
      Program.calls_mono (calls_observe w.daemon) fun _ => calm_of_clears
    rw [observeAndResume, wp_bind]
    refine wp_mono (wp_and (wp_observe_blocked hvanished hbinding h) (wp_calm hcalm w))
      (fun _ _ _ => trivial) ?_
    rintro r w' ⟨hr, -, hquiet⟩
    cases r with
    | ok _ => exact absurd rfl hr
    | error e => exact hquiet
  let run := (observeAndResume w.daemon).run.follow react (failing v) w
  have hexec : Exec (failingMachine v) (observeAndResume w.daemon).run w run.1 run.2.1
      (some run.2.2) := Program.follow_exec _ w fun _ _ => rfl
  have hadmitted : Exec (machine (failsOnly v)) (observeAndResume w.daemon).run w run.1 run.2.1
      (some run.2.2) := by
    refine Exec.mono ?_ ?_ hexec
    · exact fun _ _ h => h
    · rintro w op r w' ⟨_, rfl, heq⟩
      exact ⟨_, failing_allowed v w op, heq⟩
  exact ⟨_, _, _, hadmitted, (Program.wp_sound hends hexec).2 _ rfl⟩

end Blocked

theorem wp_settleGate {allowed : World → Op → Choice → Prop} (d : Daemon) (w : World) :
    (settleGate d).wp (machine allowed) (fun _ _ => True) (fun r _ => r = .ok ()) w := by
  rw [settleGate, wp_bind, update, wp_operation]
  refine ⟨trivial, fun _ _ => ?_⟩
  rw [andThen_ok, wp_warnOnError]
  exact wp_imp (wp_of_footprint (Program.calls_top _) (fun _ _ _ => trivial) _) fun _ _ _ => rfl

/-- The complete executions of a reconcile pass are its passes, and with failures of the VM `v`
alone every pass from `w₀` tries all devices of other VMs that are due exactly when, wherever the
gate leaves it, none is due or nothing recorded of the devices that vanished ends the
observation. -/
theorem reconcile_isolates (v : String) (w₀ : World) :
    (∀ w', (∃ tr r, Exec (machine (failsOnly v)) (reconcile w₀.daemon).run w₀ tr w' (some r)) ↔
      ∃ w, Passes (failsOnly v) w₀ w w') ∧
    ((∀ w w', Passes (failsOnly v) w₀ w w' → Attempted v w w') ↔
      ∀ tr w, Exec (machine (failsOnly v)) (settleGate w₀.daemon).run w₀ tr w (some (.ok ())) →
        w.dueUsb v = [] ∧ w.duePci v = [] ∨ w.observable v) := by
  have hdaemon : ∀ {tr w}, Exec (machine (failsOnly v)) (settleGate w₀.daemon).run w₀ tr w
      (some (.ok ())) → w.daemon = w₀.daemon := fun hsettle =>
    (Program.wp_sound (wp_daemon (settleGate w₀.daemon)) hsettle).2 _ rfl
  refine ⟨fun w' => ⟨?_, ?_⟩, ?_, ?_⟩
  · rintro ⟨tr, r, hexec⟩
    rw [reconcile_eq] at hexec
    obtain ⟨hnone, -⟩ | ⟨tr₁, tr₂, w, result, hsettle, hrest, rfl⟩ := Exec.bind_inv hexec
    · cases hnone
    · obtain rfl : result = .ok () := (Program.wp_sound (wp_settleGate _ w₀) hsettle).2 _ rfl
      exact ⟨w, tr₁, tr₂, r, hsettle, hrest⟩
  · rintro ⟨w, tr, tr', r, hsettle, hrest⟩
    rw [reconcile_eq]
    exact ⟨tr ++ tr', r, Exec.bind hsettle hrest⟩
  · intro hall tr w hsettle
    by_contra hnot
    obtain ⟨hdue, hblocked⟩ := not_or.1 hnot
    simp only [World.observable, not_forall, Bool.not_eq_false] at hblocked
    obtain ⟨key, hvanished, binding, hbinding, hblocks⟩ := hblocked
    obtain ⟨tr', w', r, hrest, hquiet⟩ := exec_blocked hvanished hbinding hblocks
    rw [hdaemon hsettle] at hrest
    have htried := hall w w' ⟨tr, tr', r, hsettle, hrest⟩
    refine hdue ⟨List.eq_nil_iff_forall_not_mem.2 fun x hx => ?_,
      List.eq_nil_iff_forall_not_mem.2 fun x hx => ?_⟩
    · obtain ⟨vm, hsince⟩ := htried.usb x hx
      cases hquiet _ hsince
    · obtain ⟨vm, hsince⟩ := htried.pci x hx
      cases hquiet _ hsince
  · rintro hobservable w w' ⟨tr, tr', r, hsettle, hrest⟩
    rw [← hdaemon hsettle] at hrest
    obtain ⟨husb, hpci⟩ | hthrough := hobservable tr w hsettle
    · constructor
      · intro x hx
        rw [husb] at hx
        cases hx
      · intro x hx
        rw [hpci] at hx
        cases hx
    · exact (Program.wp_sound (wp_observeAndResume hthrough) hrest).2 _ rfl

/-! ## A keyboard unplugged while its VM does not answer -/

def mouse (name devnum : String) : UsbEntry where
  name := name
  files := [("busnum", "1"), ("devnum", devnum), ("idVendor", "046d"), ("idProduct", "c077"),
    ("authorized", "1")]

def mouseRule : Value :=
  .object [("allow", .array [.object [("vendorId", .string "046d"),
    ("productId", .string "c077")]]), ("targetVm", .string "net-vm")]

def keyboardPlugged : World where
  daemon := plainDaemon [keyboardRule [("targetVm", .string "gui-vm")], mouseRule]
  bus := { entries := [keyboard "1-1" "4"] }
  sockets := Function.update (Function.update (fun _ => none) guiVm.socket (some "gui-first"))
    netVm.socket (some "net-first")

/-- After a pass gave the keyboard to its VM, a mouse for the other one is there instead. -/
def mouseInstead : World :=
  { keyboardPlugged.perform onPortOne .reconcile with
    bus := { entries := [mouse "1-2" "5"] } }

def mouseSettled : World :=
  ((settleGate mouseInstead.daemon).run.follow react (failing "gui-vm") mouseInstead).2.1

/-- The pass ends where it asks the keyboard's VM for its ports, and never tries the mouse. -/
theorem reconcile_stopped_by_other_vm : ¬∀ w₀, Reachable savesSucceed w₀ → ∀ v w w',
    Passes (failsOnly v) w₀ w w' → Attempted v w w' := by
  intro hclaim
  have hinitial : Reachable savesSucceed keyboardPlugged := .initial (by decide) rfl rfl rfl
  have hsaves : ∀ e ∈ keyboardPlugged.trace onPortOne .reconcile,
      savesSucceed e.1 e.2 (onPortOne e.1 e.2) := by decide +kernel
  have hreachable : Reachable savesSucceed mouseInstead :=
    .surroundings (hinitial.perform onPortOne .reconcile hsaves) ⟨rfl, rfl, rfl, rfl⟩
  have hsettle : Exec (machine (failsOnly "gui-vm")) (settleGate mouseInstead.daemon).run
      mouseInstead ((settleGate mouseInstead.daemon).run.follow react (failing "gui-vm")
        mouseInstead).1 mouseSettled (some (.ok ())) :=
    exec_ok (fun e _ => failing_allowed "gui-vm" e.1 e.2) (by decide +kernel)
  have hvanished : mouseSettled.vanishedUsb "1-1" := by decide +kernel
  obtain ⟨binding, hbinding, hblocks⟩ : ∃ binding ∈
      mouseSettled.memory.persistent.crosvmUsbPorts.lookup "1-1",
      mouseSettled.blocks "gui-vm" binding = true := by decide +kernel
  obtain ⟨tr, w', r, hrest, hquiet⟩ := exec_blocked hvanished hbinding hblocks
  have hdue : ∃ x, x ∈ mouseSettled.dueUsb "gui-vm" := by
    refine List.exists_mem_of_ne_nil _ ?_
    have hlength : (mouseSettled.dueUsb "gui-vm").length = 1 := by decide +kernel
    exact List.ne_nil_of_length_pos (hlength ▸ Nat.one_pos)
  obtain ⟨x, hx⟩ := hdue
  obtain ⟨vm, hsince⟩ := (hclaim mouseInstead hreachable "gui-vm" mouseSettled w'
    ⟨_, tr, r, hsettle, hrest⟩).usb x hx
  cases hquiet _ hsince

end GhafDeviceManager
