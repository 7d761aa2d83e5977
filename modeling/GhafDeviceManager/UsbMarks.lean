import GhafDeviceManager.Marks
import GhafDeviceManager.Suspension

/-!
# A permanent USB detach

Devices of one model without a serial number share their persistent id, and so the mark of any of
them. A suspend takes back the device that is still attached and clears the mark of the other.
-/

namespace GhafDeviceManager

open Fallible

section Detach

variable {allowed : World → Op → Choice → Prop} {w : World} {device : UsbDevice}

theorem wp_forgetUsb_marks {node : String} :
    (forgetUsb w.daemon device node true).wp (machine allowed) (fun _ _ => True)
      (fun r w' => r = .ok () → Marked device.persistentId w') w := by
  have hdeauthorize : Calls (fun op => ¬op.Unmarks device.persistentId)
      (deauthorizeDetached w.daemon device) := by
    refine Program.calls_mono (calls_deauthorizeDetached w.daemon device node true) ?_
    rintro _ hop rfl
    cases hop.2
  rw [forgetUsb, wp_bind, forgetBinding, wp_withLock]
  refine ⟨trivial, fun _ _ => ?_⟩
  rw [wp_bind, update, wp_operation]
  refine ⟨trivial, fun _ _ => ?_⟩
  rw [andThen_ok, wp_bind, update, wp_operation]
  refine ⟨trivial, fun _ _ => ?_⟩
  rw [andThen_ok, wp_attempt, wp_bind]
  refine wp_imp wp_setDisconnected_marks fun r w₁ hmarked => ?_
  have htail : ∀ (persistence : Except Error Unit) w₂,
      (persistence = .ok () → Marked device.persistentId w₂) →
      wp (machine allowed) (fun _ _ => True) (endForget w.daemon device persistence)
      (fun r w' => r = .ok () → Marked device.persistentId w') w₂ := by
    intro persistence w₂ hmarked₂
    unfold endForget
    rw [wp_bind, update, wp_operation]
    refine ⟨trivial, fun c _ => ?_⟩
    rw [andThen_ok, wp_bind]
    cases persistence with
    | ok _ =>
        have hmarked₃ : Marked device.persistentId
            (react w₂ (.update (.pendingRemove device.persistentId)) c).2 :=
          marked_react (fun h => by cases h) (hmarked₂ rfl) c
        refine wp_imp (keeps_marked hdeauthorize _ hmarked₃) fun r w₃ hw₃ => ?_
        cases r with
        | ok _ => exact fun _ => hw₃
        | error e => exact fun _ => hw₃
    | error e =>
        refine wp_imp (wp_of_footprint hdeauthorize (fun _ _ _ => trivial) _) fun r w₃ _ => ?_
        cases r with
        | ok _ =>
            intro hok
            cases hok
        | error e =>
            intro hok
            cases hok
  cases r with
  | error e => exact ⟨trivial, fun _ _ => htail (.error e) w₁ fun h => by cases h⟩
  | ok _ =>
      rw [andThen_ok]
      have hsave : Calls (fun op => ¬op.Unmarks device.persistentId) (saveState w.daemon) :=
        calls_saveState fun h => by cases h
      refine wp_imp (keeps_marked hsave w₁ (hmarked rfl)) fun r w₂ hw₂ => ⟨trivial, fun _ _ => ?_⟩
      exact htail r w₂ fun _ => hw₂

theorem wp_detachOneUsb_marks : (detachOneUsb w.daemon device true).wp (machine allowed)
    (fun _ _ => True) (fun r w' => r = .ok () → Marked device.persistentId w') w := by
  have hforget : ∀ w' node, w'.daemon = w.daemon →
      (forgetUsb w.daemon device node true).wp (machine allowed) (fun _ _ => True)
        (fun r w' => r = .ok () → Marked device.persistentId w') w' := by
    intro w' node hdaemon
    rw [← hdaemon]
    exact wp_forgetUsb_marks
  rw [detachOneUsb, wp_bind, enter, wp_operation]
  refine ⟨trivial, fun _ _ => ?_⟩
  rw [react, andThen_ok, wp_bind, wp_require]
  cases device.deviceNode with
  | none =>
      intro hok
      cases hok
  | some node =>
      rw [Option.elim_some, andThen_ok, wp_bind, readMemory, wp_operation]
      refine ⟨trivial, fun _ _ => ?_⟩
      rw [react, andThen_ok]
      dsimp only
      split
      · rw [wp_bind]
        refine wp_imp (wp_daemon _) fun r w' hdaemon => ?_
        cases r with
        | ok _ => exact hforget w' node hdaemon
        | error e =>
            intro hok
            cases hok
      · exact hforget _ node rfl

theorem wp_detachUsb_marks {selector : Selector} {rule : RuleMatch}
    (hrouted : (device, rule) ∈ w.usbRouted w.daemon)
    (hselected : selectsUsb selector device rule = true) :
    (detachUsb w.daemon selector true).wp (machine allowed) (fun _ _ => True)
      (fun r w' => r = .ok () → w'.daemon = w.daemon ∧ Marked device.persistentId w') w := by
  refine wp_imp (wp_request_ok (I := fun rest w' => w'.daemon = w.daemon ∧
    ((device, rule) ∈ rest ∨ Marked device.persistentId w')) (wp_selectedUsb trivial)
    (fun x rest w' h => ?_) ⟨rfl, .inl (List.mem_filter.2 ⟨hrouted, hselected⟩)⟩)
    fun r w' h hok => ?_
  · obtain ⟨hdaemon, hor⟩ := h
    have hsame : (detachOneUsb w.daemon x.1 true).wp (machine allowed) (fun _ _ => True)
        (fun _ w'' => w''.daemon = w'.daemon) w' := wp_daemon _
    by_cases hx : x = (device, rule)
    · subst hx
      have hmarks : (detachOneUsb w.daemon device true).wp (machine allowed) (fun _ _ => True)
          (fun r w'' => r = .ok () → Marked device.persistentId w'') w' := by
        rw [← hdaemon]
        exact wp_detachOneUsb_marks
      refine wp_mono (wp_and hsame hmarks) (fun _ _ _ => trivial) fun r w'' h hok => ?_
      exact ⟨h.1.trans hdaemon, .inr (h.2 hok)⟩
    · obtain hmem | hmarked := hor
      · obtain heq | hrest := List.mem_cons.1 hmem
        · exact absurd heq.symm hx
        · exact wp_imp hsame fun r w'' h _ => ⟨h.trans hdaemon, .inl hrest⟩
      · have hcalls : Calls (fun op => ¬op.Unmarks device.persistentId)
            (detachOneUsb w.daemon x.1 true) := by
          refine Program.calls_mono (calls_detachOneUsb_detaches w.daemon x.1 true) ?_
          rintro _ hop rfl
          cases hop.2
        refine wp_mono (wp_and hsame (keeps_marked hcalls w' hmarked)) (fun _ _ _ => trivial)
          fun r w'' h _ => ?_
        exact ⟨h.1.trans hdaemon, .inr h.2⟩
  · obtain ⟨hdaemon, hmem | hmarked⟩ := h hok
    · exact absurd hmem List.not_mem_nil
    · exact ⟨hdaemon, hmarked⟩

end Detach

/-! ## The rest of the run -/

/-- The operation does not clear the mark, and attaches no device with the id. -/
def KeepsOut (id : String) (w : World) : Op → Prop
  | .update (.setDisconnected i value) => i = id → value = true
  | .enter (.attachOneUsb device _ _) => device.persistentId ≠ id
  | .usbAttach _ _ => ∃ device ∈ w.attaching, device.persistentId ≠ id
  | _ => True

structure StaysMarked (d : Daemon) (id : String) (w : World) : Prop where
  daemon : w.daemon = d
  marked : Marked id w

/-- A device taken back for a while does not carry a marked id. -/
def SparesMark (id : String) (w : World) (device : UsbDevice) : Prop :=
  device.persistentId = id → w.memory.persistent.disconnected id = false

def leavesUsb (id : String) (w : World) : Operation → Prop
  | .usbAttach selector _ => ∀ x ∈ w.usbRouted w.daemon, selectsUsb selector x.1 x.2 = true →
      x.1.persistentId ≠ id
  | _ => True

section Run

variable {allowed : World → Op → Choice → Prop} {w : World} {d : Daemon} {id : String}
  {device : UsbDevice}

theorem not_unmarks {op : Op} (hop : KeepsOut id w op) : ¬op.Unmarks id := by
  rintro rfl
  cases hop rfl

theorem harmless_marked {op : Op} (hop : ∀ w, KeepsOut id w op) :
    Harmless allowed (KeepsOut id) (StaysMarked d id) op := by
  intro w hw
  refine ⟨hop w, fun c _ => ⟨(react_daemon w op c).trans hw.daemon, ?_⟩⟩
  exact marked_react (not_unmarks (hop w)) hw.marked c

theorem detachUsb_keeps_marked {permanent : Bool}
    (hother : permanent = false → device.persistentId ≠ id) :
    Keeps (machine allowed) (KeepsOut id) (StaysMarked d id) (detachOneUsb d device permanent) := by
  refine keeps_of_harmless (Program.calls_mono (calls_detachOneUsb_detaches d device permanent) ?_)
  refine fun op hop => harmless_marked fun w => ?_
  cases op with
  | update u =>
      cases u with
      | setDisconnected i value =>
          obtain ⟨rfl, rfl⟩ := hop
          intro hid
          by_contra hvalue
          exact hother (Bool.eq_false_iff.2 hvalue) hid
      | _ => trivial
  | enter entry =>
      obtain rfl : entry = .detachOneUsb device permanent := hop
      trivial
  | usbAttach vm node => exact hop.elim
  | _ => trivial

/-- A device with another id is attached without touching the mark. -/
theorem attachUsb_keeps_marked {rule : RuleMatch} {requestedVm : Option String}
    (hother : device.persistentId ≠ id) :
    Keeps (machine allowed) (KeepsOut id) (StaysMarked d id)
      (attachOneUsb d device rule requestedVm) := by
  intro w hw
  refine wp_attachOneUsb_assigns hother ⟨hw.daemon, ⟨hw.marked.memory, hw.marked.file⟩⟩
    fun op hop w₁ hattaching hw₁ => ?_
  have hkeeps : KeepsOut id w₁ op := by
    cases op with
    | update u =>
        cases u with
        | setDisconnected i value =>
            obtain ⟨rfl, rfl⟩ := hop
            exact fun hid => absurd hid hother
        | _ => trivial
    | enter entry =>
        obtain rfl : entry = .detachOneUsb device false := hop
        trivial
    | usbAttach vm node => exact ⟨device, hattaching, hother⟩
    | _ => trivial
  exact ⟨hkeeps, fun c _ => ⟨(react_daemon w₁ op c).trans hw₁.daemon,
    marked_react (not_unmarks hkeeps) hw₁.marked c⟩⟩

/-- A temporary detach that spares the mark is one of a device with another id. -/
theorem wp_detachOneUsb_spares
    (hspares : ∀ c, allowed w (.enter (.detachOneUsb device false)) c → SparesMark id w device)
    (hw : StaysMarked d id w) :
    (detachOneUsb d device false).wp (machine allowed) (KeepsOut id)
      (fun _ => StaysMarked d id) w := by
  by_cases hid : device.persistentId = id
  · rw [detachOneUsb, wp_bind, enter, wp_operation]
    refine ⟨trivial, fun c hc => ?_⟩
    have hunmarked := hspares c hc hid
    rw [hw.marked.memory] at hunmarked
    cases hunmarked
  · exact detachUsb_keeps_marked (fun _ => hid) w hw

theorem keepsOut_of_glue {op : Op} (hop : op.Glue) : KeepsOut id w op := by
  cases op with
  | update u => cases u <;> trivial
  | enter entry => cases entry <;> trivial
  | _ => trivial

theorem keepsOut_of_gates {op : Op} (hop : op.Gates) : KeepsOut id w op := by
  cases op with
  | update u => cases u <;> trivial
  | enter entry => cases entry <;> trivial
  | _ => trivial

theorem keepsOut_of_sweeps {op : Op} (hop : op.Sweeps) : KeepsOut id w op := by
  cases op with
  | update u => exact hop.elim
  | enter entry => cases entry <;> trivial
  | _ => trivial

theorem keepsOut_of_clears {op : Op} (hop : op.Clears) : KeepsOut id w op := by
  cases op with
  | update u => cases u <;> trivial
  | enter entry => cases entry <;> trivial
  | _ => trivial

theorem keepsOut_of_pci (hid : ∀ address, id ≠ "pci-" ++ address) {op : Op} (hop : op.Pci) :
    KeepsOut id w op := by
  obtain ⟨other, hattaches | ⟨permanent, hdetaches⟩⟩ := hop
  · cases op with
    | update u =>
        cases u with
        | setDisconnected i value => exact fun h => absurd (h.symm.trans hattaches.1) (hid _)
        | _ => trivial
    | enter entry => cases entry <;> trivial
    | usbAttach vm node => exact hattaches.elim
    | _ => trivial
  · cases op with
    | update u =>
        cases u with
        | setDisconnected i value => exact fun h => absurd (h.symm.trans hdetaches.1) (hid _)
        | _ => trivial
    | enter entry => cases entry <;> trivial
    | usbAttach vm node => exact hdetaches.elim
    | _ => trivial

theorem wp_operation_marked (hid : ∀ address, id ≠ "pci-" ++ address)
    (hspares : ∀ w device c, allowed w (.enter (.detachOneUsb device false)) c →
      SparesMark id w device)
    {o : Operation} (ho : leavesUsb id w o) (hw : Marked id w) :
    (o.program w.daemon).wp (machine allowed) (KeepsOut id)
      (fun _ => StaysMarked w.daemon id) w := by
  have hstays : StaysMarked w.daemon id w := ⟨rfl, hw⟩
  have hglue : ∀ op : Op, op.Glue →
      Harmless allowed (KeepsOut id) (StaysMarked w.daemon id) op := fun op hop =>
    harmless_marked fun _ => keepsOut_of_glue hop
  have hgates : ∀ {p : Act Unit}, Calls Op.Gates p →
      Keeps (machine allowed) (KeepsOut id) (StaysMarked w.daemon id) p := fun hp =>
    keeps_of_harmless (Program.calls_mono hp fun _ hop =>
      harmless_marked fun _ => keepsOut_of_gates hop)
  have hpci : ∀ op : Op, op.Pci →
      Harmless allowed (KeepsOut id) (StaysMarked w.daemon id) op := fun op hop =>
    harmless_marked fun _ => keepsOut_of_pci hid hop
  have hresume : ∀ vm, Keeps (machine allowed) (KeepsOut id) (StaysMarked w.daemon id)
      (resumeUsb w.daemon vm) := by
    intro vm
    refine resumeUsb_keeps_of hglue fun device rule w₁ hw₁ hconnected _ => ?_
    refine attachUsb_keeps_marked (fun hsame => ?_) w₁ hw₁
    rw [hsame, hw₁.marked.memory] at hconnected
    cases hconnected
  cases o with
  | enableUsbAuthorization =>
      have hcalls : Calls Op.Gates (Operation.enableUsbAuthorization.program w.daemon) :=
        calls_bind (calls_enableUsbAuthorization w.daemon) fun _ => trivial
      exact hgates hcalls w hstays
  | closeUsbGate =>
      have hcalls : Calls Op.Gates (Operation.closeUsbGate.program w.daemon) :=
        calls_bind (calls_closeUsbGate w.daemon) fun _ => trivial
      exact hgates hcalls w hstays
  | openUsbGate => exact hgates (calls_openUsbGate w.daemon) w hstays
  | reconcile =>
      have hobserve : Keeps (machine allowed) (KeepsOut id) (StaysMarked w.daemon id)
          (observe w.daemon) := keeps_of_harmless (Program.calls_mono (calls_observe w.daemon)
        fun _ hop => harmless_marked fun _ => keepsOut_of_clears hop)
      have hsweep : Keeps (machine allowed) (KeepsOut id) (StaysMarked w.daemon id)
          (deauthorizeUnmatchedUsb w.daemon) := keeps_of_harmless (Program.calls_mono
        (calls_deauthorizeUnmatchedUsb w.daemon)
        fun _ hop => harmless_marked fun _ => keepsOut_of_sweeps hop)
      exact reconcile_keeps_of hglue (hgates (calls_applyUsbGate w.daemon)) hobserve
        (pci_operation_keeps hglue hpci (o := .pciResume none) trivial) (hresume none) hsweep w
        hstays
  | usbAttach selector vm =>
      refine wp_attachUsb_of hglue hstays fun x hx hselected => ?_
      exact attachUsb_keeps_marked (ho x hx hselected)
  | usbDetach selector =>
      refine wp_detachUsb_of hglue hstays fun x _ _ => ?_
      exact detachUsb_keeps_marked fun h => by cases h
  | usbSuspend vm =>
      refine suspendUsb_keeps_of hglue (fun device w₁ hw₁ _ => ?_) w hstays
      exact wp_detachOneUsb_spares (hspares w₁ device) hw₁
  | usbResume vm => exact hresume vm w hstays
  | pciAttach selector vm =>
      exact pci_operation_keeps hglue hpci (o := .pciAttach selector vm) trivial w hstays
  | pciDetach selector =>
      exact pci_operation_keeps hglue hpci (o := .pciDetach selector) trivial w hstays
  | pciSuspend vm => exact pci_operation_keeps hglue hpci (o := .pciSuspend vm) trivial w hstays
  | pciResume vm => exact pci_operation_keeps hglue hpci (o := .pciResume vm) trivial w hstays

/-- A permanent detach lasts: in every run that goes on after one, with no request for a device
with the id and no temporary detach of one, the mark stays and no device with the id is attached. -/
theorem usb_detach_lasts {selector : Selector} {rule : RuleMatch} {restarts : Daemon → Prop}
    {w₀ : World} {tr : List (World × Op)} (hrouted : (device, rule) ∈ w.usbRouted w.daemon)
    (hselected : selectsUsb selector device rule = true)
    (hdetached : Exec (machine allowed) (detachUsb w.daemon selector true).run w tr w₀
      (some (.ok ())))
    (hrestarts : ∀ d, restarts d → d.config.persistency = true ∧
      w.daemon.config.persistency = true)
    (hspares : ∀ w other c, allowed w (.enter (.detachOneUsb other false)) c →
      SparesMark device.persistentId w other) :
    (∀ w', Continues allowed (leavesUsb device.persistentId) restarts w₀ w' →
      w'.memory.persistent.disconnected device.persistentId = true) ∧
    ∀ w' op, IssuedFrom allowed (leavesUsb device.persistentId) restarts w₀ w' op →
      KeepsOut device.persistentId w' op := by
  obtain ⟨hdaemon, hmarked⟩ := (Program.wp_sound (wp_detachUsb_marks hrouted hselected)
    hdetached).2 _ rfl rfl
  have hlasts : (∀ w', Continues allowed (leavesUsb device.persistentId) restarts w₀ w' →
        StillMarked w.daemon device.persistentId w') ∧
      ∀ w' op, IssuedFrom allowed (leavesUsb device.persistentId) restarts w₀ w' op →
        KeepsOut device.persistentId w' op := by
    refine Continues.lasts ⟨by rw [hdaemon], hmarked⟩ (fun w₁ w₂ hw h => h.surroundings hw)
      (fun w₁ d hd h => h.restart (hrestarts d hd).1 (hrestarts d hd).2)
      (fun w₁ op c hop h => h.react (not_unmarks hop) c) fun w₁ o ho h => ?_
    refine wp_imp (wp_operation_marked (usbId_ne_pciId device) hspares ho h.marked) ?_
    exact fun _ _ _ => trivial
  exact ⟨fun w' h => (hlasts.1 w' h).marked.memory, hlasts.2⟩

end Run

/-! ## Two keyboards under one id -/

def keyboardId : String := "usb-046d:c31c:None"

def firstNode : Selector := { deviceNode := some "/dev/bus/usb/001/004" }

/-- Temporary detaches spare the keyboards' mark. -/
def suspendsSparing (w : World) : Op → Choice → Prop
  | .enter (.detachOneUsb device false), _ => SparesMark keyboardId w device
  | _, _ => True

instance (w : World) (op : Op) (c : Choice) : Decidable (suspendsSparing w op c) := by
  delta suspendsSparing SparesMark
  induction op using Op.casesOn with
  | enter entry =>
    induction entry using Entry.casesOn with
    | detachOneUsb device permanent => cases permanent <;> infer_instance
    | _ => infer_instance
  | _ => infer_instance

theorem usb_detach_lasts_sharedKeyboard : ∃ w₀ tr,
    Exec (machine suspendsSparing) (detachUsb sharedKeyboard.daemon firstNode true).run
      sharedKeyboard tr w₀ (some (.ok ())) ∧
    (∀ w', Continues suspendsSparing (leavesUsb keyboardId)
        (fun d => d.config.persistency = true) w₀ w' →
      w'.memory.persistent.disconnected keyboardId = true) ∧
    ∀ w' op, IssuedFrom suspendsSparing (leavesUsb keyboardId)
      (fun d => d.config.persistency = true) w₀ w' op → KeepsOut keyboardId w' op := by
  have hdevice : ∃ x ∈ sharedKeyboard.usbRouted sharedKeyboard.daemon,
      selectsUsb firstNode x.1 x.2 = true ∧ x.1.persistentId = keyboardId := by
    decide +kernel
  obtain ⟨⟨device, rule⟩, hrouted, hselected, hid⟩ := hdevice
  have hid : device.persistentId = keyboardId := hid
  have hallowed : ∀ e ∈ sharedKeyboard.trace onPortOne (.usbDetach firstNode),
      suspendsSparing e.1 e.2 (onPortOne e.1 e.2) := by decide +kernel
  have hexec : Exec (machine suspendsSparing) (detachUsb sharedKeyboard.daemon firstNode
      true).run sharedKeyboard _ (sharedKeyboard.perform onPortOne (.usbDetach firstNode))
      (some (.ok ())) := exec_ok hallowed (by decide +kernel)
  have hlasts := usb_detach_lasts hrouted hselected hexec
    (fun d (hd : d.config.persistency = true) => ⟨hd, rfl⟩) fun w other c h => by
      rw [hid]
      exact h
  rw [hid] at hlasts
  exact ⟨_, _, hexec, hlasts.1, hlasts.2⟩

instance (id : String) (w : World) (op : Op) : Decidable (KeepsOut id w op) := by
  delta KeepsOut
  induction op using Op.casesOn with
  | enter entry => induction entry using Entry.casesOn <;> infer_instance
  | update u => induction u using Update.casesOn <;> infer_instance
  | _ => infer_instance

def secondKeyboardInGui : World :=
  twoKeyboards.perform portOneInAndOut (attachNode "/dev/bus/usb/001/005")

/-- Suspending the one clears the mark of the other. -/
theorem usb_detach_undone_by_suspend : ¬∀ (w w₀ : World) (selector : Selector) device rule tr,
    Reachable savesSucceed w → (device, rule) ∈ w.usbRouted w.daemon →
    selectsUsb selector device rule = true →
    Exec (machine savesSucceed) (detachUsb w.daemon selector true).run w tr w₀ (some (.ok ())) →
    ∀ w' op, IssuedFrom savesSucceed (fun _ o => o = suspendGui) (fun _ => False) w₀ w' op →
      KeepsOut device.persistentId w' op := by
  intro hclaim
  have hdevice : ∃ x ∈ secondKeyboardInGui.usbRouted secondKeyboardInGui.daemon,
      selectsUsb firstNode x.1 x.2 = true ∧ x.1.persistentId = keyboardId := by
    decide +kernel
  obtain ⟨⟨device, rule⟩, hrouted, hselected, hid⟩ := hdevice
  have hid : device.persistentId = keyboardId := hid
  have hreachable : Reachable savesSucceed secondKeyboardInGui := by
    have hinitial : Reachable savesSucceed twoKeyboards := .initial (by decide) rfl rfl rfl
    exact hinitial.perform portOneInAndOut _ (portOneInAndOut_saves _ _)
  have hexec : Exec (machine savesSucceed) (detachUsb secondKeyboardInGui.daemon firstNode
      true).run secondKeyboardInGui _
      (secondKeyboardInGui.perform portOneInAndOut (.usbDetach firstNode))
      (some (.ok ())) :=
    exec_ok (portOneInAndOut_saves _ (.usbDetach firstNode)) (by decide +kernel)
  have hcleared : ∃ e ∈ (secondKeyboardInGui.perform portOneInAndOut
      (.usbDetach firstNode)).trace portOneInAndOut suspendGui,
      ¬KeepsOut keyboardId e.1 e.2 := by decide +kernel
  obtain ⟨e, he, hnot⟩ := hcleared
  refine hnot ?_
  rw [← hid]
  exact hclaim _ _ firstNode device rule _ hreachable hrouted hselected hexec e.1 e.2
    (issuedFrom_trace _ _ portOneInAndOut suspendGui rfl (portOneInAndOut_saves _ suspendGui) he)

end GhafDeviceManager
