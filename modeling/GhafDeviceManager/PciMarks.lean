import GhafDeviceManager.Marks
import GhafDeviceManager.PciOwners

/-!
# A permanent PCI detach

Resume asks for the mark of the device it attaches, and the attach then takes the whole IOMMU group
along, marked or not.
-/

namespace GhafDeviceManager

open Fallible

/-- Marked, and recorded for no VM. -/
structure Withdrawn (address : String) (w : World) : Prop where
  marked : Marked ("pci-" ++ address) w
  unrecorded : w.memory.pciVms.lookup address = none

structure LeavesOff (address : String) (_ : World) (op : Op) : Prop where
  keepsMark : ¬op.Unmarks ("pci-" ++ address)
  notRecorded : ∀ vm, op ≠ .update (.pciVmsInsert address vm)
  notAdded : ∀ vm, op ≠ .vfioAdd vm address

/-- The passthrough takes no disconnected device along. -/
def SparesMarked (w : World) (device : PciDevice) (rule : RuleMatch) : Prop :=
  ∀ address ∈ w.passthrough device rule, address ≠ device.address →
    w.memory.persistent.disconnected ("pci-" ++ address) = false

theorem pciId_inj {first second : String} (h : "pci-" ++ first = "pci-" ++ second) :
    first = second := by
  have hchars := congrArg String.toList h
  rw [String.toList_append, String.toList_append] at hchars
  exact String.toList_inj.1 (List.append_cancel_left hchars)

section Detach

variable {allowed : World → Op → Choice → Prop} {w : World} {device : PciDevice}
  {rule : RuleMatch} {address : String}

theorem unrecorded_react {op : Op} (hinsert : ∀ vm, op ≠ .update (.pciVmsInsert address vm))
    (h : w.memory.pciVms.lookup address = none) (c : Choice) :
    (react w op c).2.memory.pciVms.lookup address = none := by
  cases op with
  | update u =>
      cases u with
      | pciVmsInsert other vm =>
          have hne : address ≠ other := by
            rintro rfl
            exact hinsert vm rfl
          exact (AList.lookup_insert_ne hne).trans h
      | pciVmsRemove other =>
          by_cases hsame : address = other
          · subst hsame
            exact AList.lookup_erase _ _
          · exact (AList.lookup_erase_ne hsame).trans h
      | _ => exact h
  | authorize name value =>
      simp only [react]
      split
      · exact h
      · exact h
  | _ => exact h

theorem withdrawn_react {op : Op} (hop : LeavesOff address w op) (h : Withdrawn address w)
    (c : Choice) : Withdrawn address (react w op c).2 :=
  ⟨marked_react hop.keepsMark h.marked c, unrecorded_react hop.notRecorded h.unrecorded c⟩

theorem mem_passthrough (hgroup : iommuGroup w.pci device.address = [] ∨
    device.address ∈ iommuGroup w.pci device.address) :
    device.address ∈ w.passthrough device rule := by
  unfold World.passthrough passthrough quarantine
  split
  · split
    case isTrue => exact List.mem_singleton_self _
    case isFalse hnonempty =>
      obtain hempty | hmem := hgroup
      · rw [hempty] at hnonempty
        exact absurd rfl hnonempty
      · exact hmem
  · exact List.mem_singleton_self _

theorem wp_setDisconnected_withdraws (h : w.memory.pciVms.lookup address = none) :
    (withLock .state (setDisconnected w.daemon ("pci-" ++ address) true)).wp (machine allowed)
      (fun _ _ => True) (fun r w' => r = .ok () → Withdrawn address w') w := by
  have hframe : (setDisconnected w.daemon ("pci-" ++ address) true).wp (machine allowed)
      (fun _ _ => True) (fun _ w' => w'.memory.pciVms.lookup address = none) w := by
    have hcalls : Calls (fun op => ∀ vm, op ≠ .update (.pciVmsInsert address vm))
        (setDisconnected w.daemon ("pci-" ++ address) true) :=
      calls_setDisconnected (fun vm h => by cases h) fun vm h => by cases h
    exact keeps_of_harmless (I := fun w => w.memory.pciVms.lookup address = none)
      (Program.calls_mono hcalls fun op hop w hw =>
        ⟨trivial, fun c _ => unrecorded_react hop hw c⟩) w h
  rw [wp_withLock]
  refine ⟨trivial, fun _ _ => wp_mono (wp_and wp_setDisconnected_marks hframe)
    (fun _ _ _ => trivial) ?_⟩
  rintro r w' ⟨hmarked, hunrecorded⟩
  exact ⟨trivial, fun _ _ hok => ⟨hmarked hok, hunrecorded⟩⟩

theorem wp_detachOnePci_withdraws (hgroup : iommuGroup w.pci device.address = [] ∨
    device.address ∈ iommuGroup w.pci device.address) :
    (detachOnePci w.daemon device rule true).wp (machine allowed) (fun _ _ => True)
      (fun r w' => r = .ok () → Withdrawn device.address w') w := by
  refine wp_detachOnePci (fun _ _ _ => trivial) trivial ?_ ?_ ?_
  · intro e w' _ hok
    cases hok
  · intro hholder w' hw'
    have hnone : w'.memory.pciVms.lookup device.address = none := by
      rw [hw'.memory]
      exact ((Option.orElse_eq_none _ _).1 hholder).1
    rw [show w.daemon = w'.daemon from hw'.daemon.symm]
    exact wp_setDisconnected_withdraws hnone
  · intro c _ vm vmName w' _ _ hw'
    have hdaemon : w'.daemon = w.daemon := hw'.daemon
    rw [wp_bind]
    refine wp_imp (wp_daemon _) fun r w₁ hw₁ => ?_
    cases r with
    | error e =>
        intro hok
        cases hok
    | ok _ =>
        rw [andThen_ok, wp_bind, forgetPci, wp_bind, wp_withLock]
        refine ⟨trivial, fun _ _ => ?_⟩
        have hloop := wp_forM_rest (M := machine allowed) (G := fun _ _ => True)
          (l := w.passthrough device rule) (f := fun address => update (.pciVmsRemove address))
          (I := fun rest w' => w'.daemon = w.daemon ∧ (device.address ∈ rest ∨
            w'.memory.pciVms.lookup device.address = none)) ?_
          ⟨hw₁.trans hdaemon, .inl (mem_passthrough hgroup)⟩
        · refine wp_imp hloop fun r w₂ hw₂ => ⟨trivial, fun _ _ => ?_⟩
          cases r with
          | error e =>
              intro hok
              cases hok
          | ok _ =>
              obtain ⟨hdaemon₂, hmem | hnone⟩ := hw₂ rfl
              · exact absurd hmem List.not_mem_nil
              · rw [andThen_ok, notify, wp_operation]
                refine ⟨trivial, fun _ _ => ?_⟩
                rw [andThen_ok, ← hdaemon₂]
                exact wp_setDisconnected_withdraws (w := w₂.record _) hnone
        · rintro x rest w₂ ⟨hdaemon₂, hor⟩
          rw [update, wp_operation]
          refine ⟨trivial, fun c _ _ => ⟨hdaemon₂, ?_⟩⟩
          by_cases hsame : device.address = x
          · subst hsame
            exact .inr (AList.lookup_erase _ _)
          · obtain hmem | hnone := hor
            · obtain heq | hrest := List.mem_cons.1 hmem
              · exact absurd heq hsame
              · exact .inl hrest
            · exact .inr ((AList.lookup_erase_ne hsame).trans hnone)

/-- A footprint without the three operations leaves the address off. -/
theorem leavesOff_of {S : Op → Prop} {op : Op} (hop : S op)
    (hmark : ¬S (.update (.setDisconnected ("pci-" ++ address) false)))
    (hrecord : ∀ vm, ¬S (.update (.pciVmsInsert address vm)))
    (hadd : ∀ vm, ¬S (.vfioAdd vm address)) : LeavesOff address w op := by
  refine ⟨fun h => ?_, fun vm h => ?_, fun vm h => ?_⟩
  · rw [h] at hop
    exact hmark hop
  · rw [h] at hop
    exact hrecord vm hop
  · rw [h] at hop
    exact hadd vm hop

theorem leavesOff_of_detachesPci {op : Op} {other : PciDevice} {permanent : Bool}
    (hop : op.DetachesPci other permanent)
    (hother : permanent = false → other.address ≠ address) : LeavesOff address w op := by
  refine leavesOff_of hop (fun h => ?_) (fun _ h => h) fun _ h => h
  obtain ⟨hid, hvalue⟩ := h
  exact hother hvalue.symm (pciId_inj hid.symm)

/-- A request that succeeds withdraws every address it selects. -/
theorem wp_detachPci_withdraws {selector : Selector}
    (hrouted : (device, rule) ∈ w.pciRouted w.daemon)
    (hselected : selectsPci selector device rule = true)
    (hgroup : iommuGroup w.pci device.address = [] ∨
      device.address ∈ iommuGroup w.pci device.address) :
    (detachPci w.daemon selector true).wp (machine allowed) (fun _ _ => True)
      (fun r w' => r = .ok () → w'.daemon = w.daemon ∧ Withdrawn device.address w') w := by
  refine wp_imp (wp_request_ok (I := fun rest w' => (w'.daemon = w.daemon ∧ w'.pci = w.pci) ∧
    ((device, rule) ∈ rest ∨ Withdrawn device.address w'))
    (wp_selectedPci trivial fun _ => trivial) (fun x rest w' h => ?_)
    ⟨⟨rfl, rfl⟩, .inl (List.mem_filter.2 ⟨hrouted, hselected⟩)⟩) fun r w' h hok => ?_
  · obtain ⟨⟨hdaemon, hpci⟩, hor⟩ := h
    have hframe : (detachOnePci w.daemon x.1 x.2 true).wp (machine allowed) (fun _ _ => True)
        (fun _ w'' => (w''.daemon = w.daemon ∧ w''.pci = w.pci) ∧
          (Withdrawn device.address w' → Withdrawn device.address w'')) w' := by
      refine wp_of_calls (calls_detachOnePci w.daemon x.1 x.2 true) ?_ ?_
        ⟨⟨hdaemon, hpci⟩, id⟩
      · rintro w₁ _ rfl h
        exact h
      · rintro op hop w₁ ⟨⟨hdaemon₁, hpci₁⟩, hkeeps⟩
        refine ⟨trivial, ?_⟩
        rintro r w₂ ⟨c, _, hreact⟩
        obtain rfl : (react w₁ op c).2 = w₂ := congrArg Prod.snd hreact
        refine ⟨⟨(react_daemon w₁ op c).trans hdaemon₁, ?_⟩, fun h => ?_⟩
        · rw [← hpci₁]
          cases op with
          | update u => cases u <;> rfl
          | authorize name value => exact hop.elim
          | pciUnbind other => exact hop.elim
          | pciOverride other => exact hop.elim
          | pciProbe other => exact hop.elim
          | _ => rfl
        · exact withdrawn_react (leavesOff_of_detachesPci hop fun h => by cases h) (hkeeps h) c
    by_cases hsame : x = (device, rule)
    · subst hsame
      have hwithdraws : (detachOnePci w.daemon device rule true).wp (machine allowed)
          (fun _ _ => True) (fun r w'' => r = .ok () → Withdrawn device.address w'') w' := by
        rw [← hdaemon]
        refine wp_detachOnePci_withdraws ?_
        rw [hpci]
        exact hgroup
      refine wp_mono (wp_and hframe hwithdraws) (fun _ _ _ => trivial) fun r w'' h hok => ?_
      exact ⟨h.1.1, .inr (h.2 hok)⟩
    · refine wp_imp hframe fun r w'' h hok => ⟨h.1, ?_⟩
      obtain hmem | hwithdrawn := hor
      · obtain heq | hrest := List.mem_cons.1 hmem
        · exact absurd heq.symm hsame
        · exact .inl hrest
      · exact .inr (h.2 hwithdrawn)
  · obtain ⟨⟨hdaemon, -⟩, hmem | hwithdrawn⟩ := h hok
    · exact absurd hmem List.not_mem_nil
    · exact ⟨hdaemon, hwithdrawn⟩

end Detach

section Run

variable {allowed : World → Op → Choice → Prop} {w : World} {d : Daemon} {address : String}

/-- What the rest of a run keeps. -/
structure StaysWithdrawn (d : Daemon) (address : String) (w : World) : Prop where
  daemon : w.daemon = d
  withdrawn : Withdrawn address w

theorem harmless_withdrawn {op : Op} (hop : ∀ w, LeavesOff address w op) :
    Harmless allowed (LeavesOff address) (StaysWithdrawn d address) op := by
  intro w hw
  refine ⟨hop w, fun c _ => ⟨(react_daemon w op c).trans hw.daemon, ?_⟩⟩
  exact withdrawn_react (hop w) hw.withdrawn c

theorem leavesOff_of_usb {op : Op} (hop : op.Usb) : LeavesOff address w op := by
  refine leavesOff_of hop (fun h => ?_) (fun _ h => h) fun _ h => h
  obtain ⟨device, hid⟩ := h
  exact usbId_ne_pciId device address hid.symm

theorem leavesOff_of_clears {op : Op} (hop : op.Clears) : LeavesOff address w op :=
  leavesOff_of hop (fun h => h) (fun _ h => h) fun _ h => h

theorem leavesOff_of_binds {op : Op} (hop : op.Binds) : LeavesOff address w op :=
  leavesOff_of hop (fun h => h) (fun _ h => h) fun _ h => h

theorem detachPci_keeps_withdrawn {device : PciDevice} {rule : RuleMatch} {permanent : Bool}
    (hother : permanent = false → device.address ≠ address) :
    Keeps (machine allowed) (LeavesOff address) (StaysWithdrawn d address)
      (detachOnePci d device rule permanent) :=
  keeps_of_harmless (Program.calls_mono (calls_detachOnePci d device rule permanent)
    fun _ hop => harmless_withdrawn fun _ => leavesOff_of_detachesPci hop hother)

/-- An attach of another device that spares the marked ones leaves the address alone. -/
theorem wp_attachOnePci_withdrawn {device : PciDevice} {rule : RuleMatch}
    {requestedVm : Option String}
    (hspares : ∀ c, allowed w (.enter (.attachOnePci device rule requestedVm)) c →
      SparesMarked w device rule) (hother : device.address ≠ address)
    (hw : StaysWithdrawn d address w) :
    (attachOnePci d device rule requestedVm).wp (machine allowed) (LeavesOff address)
      (fun _ => StaysWithdrawn d address) w := by
  have hcalled : ∀ w', PciQuiet (w.calledPci (.attachOnePci device rule requestedVm)) w' →
      StaysWithdrawn d address w' := by
    intro w' hw'
    refine ⟨hw'.daemon.trans hw.daemon, ⟨?_, ?_⟩, ?_⟩
    · rw [hw'.memory]
      exact hw.withdrawn.marked.memory
    · rw [hw'.daemon, hw'.stateFile]
      exact hw.withdrawn.marked.file
    · rw [hw'.memory]
      exact hw.withdrawn.unrecorded
  refine wp_attachOnePci (fun op hop w' => leavesOff_of_binds hop) ?_
    (fun e w' hw' => hcalled w' hw') fun c hc vm vmName w' _ _ hw' => ?_
  · refine ⟨fun h => ?_, fun vm h => ?_, fun vm h => ?_⟩
    · cases h
    · cases h
    · cases h
  have hnot : address ∉ w.passthrough device rule := by
    intro hmem
    have hunmarked := hspares c hc address hmem hother.symm
    rw [hw.withdrawn.marked.memory] at hunmarked
    cases hunmarked
  refine keeps_of_harmless (Program.calls_mono (calls_attachQuarantined_passes d device vm vmName
    _ (w.passthrough device rule)) fun op hop => ?_) w' (hcalled w' hw')
  refine harmless_withdrawn fun _ => leavesOff_of hop (fun h => ?_) (fun vm h => ?_) fun vm h => ?_
  · exact hother (pciId_inj h.1.symm)
  · exact hnot h.1
  · exact hnot h.2.1

def leavesPci (address : String) (w : World) : Operation → Prop
  | .pciAttach selector _ => ∀ x ∈ w.pciRouted w.daemon, selectsPci selector x.1 x.2 = true →
      x.1.address ≠ address
  | _ => True

theorem wp_operation_withdrawn (hspares : ∀ w device rule requestedVm c,
      allowed w (.enter (.attachOnePci device rule requestedVm)) c → SparesMarked w device rule)
    {o : Operation} (ho : leavesPci address w o) (hw : Withdrawn address w) :
    (o.program w.daemon).wp (machine allowed) (LeavesOff address)
      (fun _ => StaysWithdrawn w.daemon address) w := by
  have hstays : StaysWithdrawn w.daemon address w := ⟨rfl, hw⟩
  have hharmless : ∀ op : Op, op.Usb →
      Harmless allowed (LeavesOff address) (StaysWithdrawn w.daemon address) op := fun op hop =>
    harmless_withdrawn fun _ => leavesOff_of_usb hop
  have hglue : ∀ op : Op, op.Glue →
      Harmless allowed (LeavesOff address) (StaysWithdrawn w.daemon address) op := fun op hop =>
    hharmless op (usb_of_glue hop)
  have hresume : ∀ vm, Keeps (machine allowed) (LeavesOff address)
      (StaysWithdrawn w.daemon address) (resumePci w.daemon vm) := by
    intro vm
    refine resumePci_keeps_of hglue fun device rule w₁ hw₁ hconnected _ => ?_
    refine wp_attachOnePci_withdrawn (hspares w₁ device rule _) ?_ hw₁
    rintro rfl
    have hmarked := hw₁.withdrawn.marked.memory
    rw [PciDevice.persistentId, hmarked] at hconnected
    cases hconnected
  have hsuspend : ∀ vm, Keeps (machine allowed) (LeavesOff address)
      (StaysWithdrawn w.daemon address) (suspendPci w.daemon vm) := by
    intro vm
    refine suspendPci_keeps_of hglue fun device rule w₁ hw₁ hrecorded => ?_
    refine detachPci_keeps_withdrawn (fun _ => ?_) w₁ hw₁
    rintro rfl
    rw [hw₁.withdrawn.unrecorded] at hrecorded
    cases hrecorded
  cases o with
  | reconcile =>
      have hgates : Keeps (machine allowed) (LeavesOff address) (StaysWithdrawn w.daemon address)
          (applyUsbGate w.daemon) := keeps_of_harmless
        (Program.calls_mono (calls_applyUsbGate w.daemon) fun op hop =>
          hharmless op (usb_of_gates hop))
      have hsweeps : Keeps (machine allowed) (LeavesOff address) (StaysWithdrawn w.daemon address)
          (deauthorizeUnmatchedUsb w.daemon) := keeps_of_harmless
        (Program.calls_mono (calls_deauthorizeUnmatchedUsb w.daemon) fun op hop =>
          hharmless op (usb_of_sweeps hop))
      have hobserve : Keeps (machine allowed) (LeavesOff address)
          (StaysWithdrawn w.daemon address) (observe w.daemon) := keeps_of_harmless
        (Program.calls_mono (calls_observe w.daemon) fun op hop =>
          harmless_withdrawn fun _ => leavesOff_of_clears hop)
      exact reconcile_keeps_of hglue hgates hobserve (hresume none)
        (usb_operation_keeps hharmless (o := .usbResume none) trivial) hsweeps w hstays
  | pciAttach selector vm =>
      refine wp_attachPci_of hglue hstays fun x hx hselected w₁ hw₁ => ?_
      exact wp_attachOnePci_withdrawn (hspares w₁ x.1 x.2 vm) (ho x hx hselected) hw₁
  | pciDetach selector =>
      refine wp_detachPci_of hglue hstays fun x _ _ => ?_
      exact detachPci_keeps_withdrawn fun h => by cases h
  | pciSuspend vm => exact hsuspend vm w hstays
  | pciResume vm => exact hresume vm w hstays
  | enableUsbAuthorization =>
      exact usb_operation_keeps hharmless (o := .enableUsbAuthorization) trivial w hstays
  | closeUsbGate => exact usb_operation_keeps hharmless (o := .closeUsbGate) trivial w hstays
  | openUsbGate => exact usb_operation_keeps hharmless (o := .openUsbGate) trivial w hstays
  | usbAttach selector vm =>
      exact usb_operation_keeps hharmless (o := .usbAttach selector vm) trivial w hstays
  | usbDetach selector =>
      exact usb_operation_keeps hharmless (o := .usbDetach selector) trivial w hstays
  | usbSuspend vm => exact usb_operation_keeps hharmless (o := .usbSuspend vm) trivial w hstays
  | usbResume vm => exact usb_operation_keeps hharmless (o := .usbResume vm) trivial w hstays

/-- A permanent detach lasts: in every run that goes on after one, with no request for the device
and no attach that takes a marked device along with its group, the mark stays and the address is
added to no VM. -/
theorem pci_detach_lasts {selector : Selector} {device : PciDevice} {rule : RuleMatch}
    {restarts : Daemon → Prop} {w₀ : World} {tr : List (World × Op)}
    (hrouted : (device, rule) ∈ w.pciRouted w.daemon)
    (hselected : selectsPci selector device rule = true)
    (hgroup : iommuGroup w.pci device.address = [] ∨
      device.address ∈ iommuGroup w.pci device.address)
    (hdetached : Exec (machine allowed) (detachPci w.daemon selector true).run w tr w₀
      (some (.ok ())))
    (hrestarts : ∀ d, restarts d → d.config.persistency = true ∧
      w.daemon.config.persistency = true)
    (hspares : ∀ w device rule requestedVm c,
      allowed w (.enter (.attachOnePci device rule requestedVm)) c → SparesMarked w device rule) :
    (∀ w', Continues allowed (leavesPci device.address) restarts w₀ w' →
      w'.memory.persistent.disconnected device.persistentId = true) ∧
    ∀ w' vm, ¬IssuedFrom allowed (leavesPci device.address) restarts w₀ w'
      (.vfioAdd vm device.address) := by
  obtain ⟨hdaemon, hwithdrawn⟩ := (Program.wp_sound
    (wp_detachPci_withdraws hrouted hselected hgroup) hdetached).2 _ rfl rfl
  have hlasts : (∀ w', Continues allowed (leavesPci device.address) restarts w₀ w' →
        StillMarked w.daemon device.persistentId w' ∧
          w'.memory.pciVms.lookup device.address = none) ∧
      ∀ w' op, IssuedFrom allowed (leavesPci device.address) restarts w₀ w' op →
        LeavesOff device.address w' op := by
    refine Continues.lasts ⟨⟨by rw [hdaemon], hwithdrawn.marked⟩, hwithdrawn.unrecorded⟩ ?_ ?_ ?_ ?_
    · rintro w₁ w₂ hw ⟨hmarked, hunrecorded⟩
      refine ⟨hmarked.surroundings hw, ?_⟩
      rw [hw.memory]
      exact hunrecorded
    · rintro w₁ d hd ⟨hmarked, -⟩
      exact ⟨hmarked.restart (hrestarts d hd).1 (hrestarts d hd).2, rfl⟩
    · rintro w₁ op c hop ⟨hmarked, hunrecorded⟩
      exact ⟨hmarked.react hop.keepsMark c, unrecorded_react hop.notRecorded hunrecorded c⟩
    · rintro w₁ o ho ⟨hmarked, hunrecorded⟩
      refine wp_imp (wp_operation_withdrawn hspares ho ⟨hmarked.marked, hunrecorded⟩) ?_
      exact fun _ _ _ => trivial
  constructor
  · exact fun w' h => (hlasts.1 w' h).1.marked.memory
  · exact fun w' vm h => (hlasts.2 w' _ h).notAdded vm rfl

end Run

/-! ## One function of a group detached for good -/

def detachSecond : Selector := { address := some secondFunction }

/-- Attach calls take no marked device along. -/
def attachesSparing (w : World) : Op → Choice → Prop
  | .enter (.attachOnePci device rule _), _ => SparesMarked w device rule
  | _, _ => True

instance (w : World) (device : PciDevice) (rule : RuleMatch) :
    Decidable (SparesMarked w device rule) := by
  unfold SparesMarked
  infer_instance

instance (w : World) (op : Op) (c : Choice) : Decidable (attachesSparing w op c) := by
  delta attachesSparing
  induction op using Op.casesOn with
  | enter entry => induction entry using Entry.casesOn <;> infer_instance
  | _ => infer_instance

def listsAndSaves (w : World) (op : Op) (c : Choice) : Prop :=
  listsGiven w op c ∧ savesSucceed w op c

instance (w : World) (op : Op) (c : Choice) : Decidable (listsAndSaves w op c) :=
  inferInstanceAs (Decidable (_ ∧ _))

theorem pci_detach_lasts_functionEach : ∃ w₀ tr,
    Exec (machine attachesSparing) (detachPci functionEach.daemon detachSecond true).run
      functionEach tr w₀ (some (.ok ())) ∧
    (∀ w', Continues attachesSparing (leavesPci secondFunction)
        (fun d => d.config.persistency = true) w₀ w' →
      w'.memory.persistent.disconnected ("pci-" ++ secondFunction) = true) ∧
    ∀ w' vm, ¬IssuedFrom attachesSparing (leavesPci secondFunction)
      (fun d => d.config.persistency = true) w₀ w' (.vfioAdd vm secondFunction) := by
  have hdevice : ∃ x ∈ functionEach.pciRouted functionEach.daemon,
      selectsPci detachSecond x.1 x.2 = true ∧ x.1.address = secondFunction ∧
        secondFunction ∈ iommuGroup functionEach.pci secondFunction := by decide +kernel
  obtain ⟨⟨device, rule⟩, hrouted, hselected, haddress, hgroup⟩ := hdevice
  have haddress : device.address = secondFunction := haddress
  have hallowed : ∀ e ∈ functionEach.trace (refusing none) (.pciDetach detachSecond),
      attachesSparing e.1 e.2 (refusing none e.1 e.2) := by decide +kernel
  have hexec : Exec (machine attachesSparing) (detachPci functionEach.daemon detachSecond true).run
      functionEach _ (functionEach.perform (refusing none) (.pciDetach detachSecond))
      (some (.ok ())) := exec_ok hallowed (by decide +kernel)
  have hlasts := pci_detach_lasts hrouted hselected (.inr (haddress ▸ hgroup)) hexec
    (fun d (hd : d.config.persistency = true) => ⟨hd, rfl⟩) fun w device rule vm c h => h
  rw [PciDevice.persistentId, haddress] at hlasts
  exact ⟨_, _, hexec, hlasts.1, hlasts.2⟩

/-- The other function is not marked, and takes the marked one along. -/
theorem pci_detach_undone_by_group : ¬∀ (w w₀ : World) (selector : Selector) device rule tr,
    Reachable listsAndSaves w → (device, rule) ∈ w.pciRouted w.daemon →
    selectsPci selector device rule = true →
    device.address ∈ iommuGroup w.pci device.address →
    Exec (machine listsAndSaves) (detachPci w.daemon selector true).run w tr w₀ (some (.ok ())) →
    ∀ w' vm, ¬IssuedFrom listsAndSaves (fun _ o => o = .reconcile) (fun _ => False) w₀ w'
      (.vfioAdd vm device.address) := by
  intro hclaim
  have hdevice : ∃ x ∈ groupToGui.pciRouted groupToGui.daemon,
      selectsPci detachSecond x.1 x.2 = true ∧ x.1.address = secondFunction ∧
        secondFunction ∈ iommuGroup groupToGui.pci secondFunction := by decide +kernel
  obtain ⟨⟨device, rule⟩, hrouted, hselected, haddress, hgroup⟩ := hdevice
  have haddress : device.address = secondFunction := haddress
  have hinitial : Reachable listsAndSaves groupToGui := .initial (by decide) rfl rfl rfl
  have hdetach : ∀ e ∈ groupToGui.trace (refusing none) (.pciDetach detachSecond),
      listsAndSaves e.1 e.2 (refusing none e.1 e.2) := by decide +kernel
  have hexec : Exec (machine listsAndSaves) (detachPci groupToGui.daemon detachSecond true).run
      groupToGui _ (groupToGui.perform (refusing none) (.pciDetach detachSecond))
      (some (.ok ())) := exec_ok hdetach (by decide +kernel)
  have hpass : ∀ e ∈ (groupToGui.perform (refusing none) (.pciDetach detachSecond)).trace
      (refusing none) .reconcile, listsAndSaves e.1 e.2 (refusing none e.1 e.2) := by
    decide +kernel
  have hadded : ∃ e ∈ (groupToGui.perform (refusing none) (.pciDetach detachSecond)).trace
      (refusing none) .reconcile, e.2.vfioTarget = some (guiVm, secondFunction) := by
    decide +kernel
  obtain ⟨⟨w', op⟩, he, hop⟩ := hadded
  obtain rfl := Op.eq_vfioAdd hop
  refine hclaim groupToGui _ detachSecond device rule _ hinitial hrouted hselected ?_ hexec w'
    guiVm ?_
  · rw [haddress]
    exact hgroup
  · rw [haddress]
    exact issuedFrom_trace _ _ (refusing none) .reconcile rfl hpass he

end GhafDeviceManager
