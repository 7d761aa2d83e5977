import GhafDeviceManager.Api
import GhafDeviceManager.Parts
import GhafDeviceManager.Remembering

/-!
# Following attachments by events

A client that knows which VM has which device node, and from then on applies the events it is sent,
still knows it later. An attach records its device before it saves and tells of it afterwards, so
this is so where saves succeed.
-/

namespace GhafDeviceManager

open Fallible

abbrev Holders := String → Option String

namespace Holders

/-- What a client makes of an event. -/
def hear (holders : Holders) : Notification → Holders
  | .usbAttached device vm =>
    match device.deviceNode with
    | some node => Function.update holders node (some vm)
    | none => holders
  | .usbDetached node _ => Function.update holders node none
  | .usbDisconnected (some node) => Function.update holders node none
  | _ => holders

def hearAll (holders : Holders) (events : List Notification) : Holders := events.foldl hear holders

end Holders

def World.holders (w : World) : Holders := fun node => w.memory.usbVms.lookup node

/-- The events since `w₀` take a client from what held there to `view`. -/
def Leads (w₀ : World) (view : Holders) (w : World) : Prop :=
  ∃ events, w.notifications = w₀.notifications ++ events ∧ w₀.holders.hearAll events = view

def Followed (w₀ w : World) : Prop := Leads w₀ w.holders w

/-- A client that followed the events sees `view`, and the manager has `held` on record. -/
structure Shows (w₀ : World) (view held : Holders) (w : World) : Prop where
  leads : Leads w₀ view w
  holders : w.holders = held

/-- Nothing is told of who has a device node, and nothing of it is recorded. The operation lock is
left alone as well. -/
def Op.Mute : Op → Prop
  | .notify n => ∀ holders : Holders, holders.hear n = holders
  | .update (.usbVmsInsert _ _) | .update (.usbVmsRemove _) => False
  | .lock .operation | .unlock .operation => False
  | _ => True

section Steps

variable {w₀ w : World} {view held : Holders}

theorem Followed.refl (w : World) : Followed w w := ⟨[], (List.append_nil _).symm, rfl⟩

theorem Followed.shows (h : Followed w₀ w) : Shows w₀ w.holders w.holders w := ⟨h, rfl⟩

theorem Shows.followed (h : Shows w₀ held held w) : Followed w₀ w := by
  have hleads := h.leads
  rwa [← h.holders] at hleads

theorem notifications_record (w : World) (effect : Effect) :
    (w.record effect).notifications = w.notifications ++ effect.notification?.toList := by
  simp only [World.notifications, World.record, List.reverse_cons, List.filterMap_append]
  cases h : effect.notification? <;> simp [h]

theorem Leads.silent {w' : World} (h : Leads w₀ view w) (hw : w'.notifications = w.notifications) :
    Leads w₀ view w' := by
  obtain ⟨events, hevents, hview⟩ := h
  exact ⟨events, hw.trans hevents, hview⟩

theorem Leads.notify (h : Leads w₀ view w) (n : Notification) :
    Leads w₀ (view.hear n) (w.record (.notified n)) := by
  obtain ⟨events, hevents, rfl⟩ := h
  refine ⟨events ++ [n], ?_, ?_⟩
  · rw [notifications_record, hevents, List.append_assoc]
    rfl
  · exact List.foldl_append

theorem notifications_record_silent {effect : Effect} (h : effect.notification? = none)
    (w : World) : (w.record effect).notifications = w.notifications := by
  rw [notifications_record, h, Option.toList_none, List.append_nil]

theorem notifications_react_silent {op : Op} (hop : ∀ n, op ≠ .notify n) (w : World) (c : Choice) :
    (react w op c).2.notifications = w.notifications := by
  cases op with
  | notify n => exact absurd rfl (hop n)
  | update u => cases u <;> first | rfl | exact notifications_record_silent rfl _
  | authorize name value =>
      simp only [react]
      split
      · rfl
      · exact notifications_record_silent rfl _
  | _ => first | rfl | exact notifications_record_silent rfl _

theorem holders_insert (w : World) (node vm : String) (c : Choice) :
    (react w (.update (.usbVmsInsert node vm)) c).2.holders =
      Function.update w.holders node (some vm) := by
  funext other
  by_cases hsame : other = node
  · subst hsame
    rw [Function.update_self]
    exact AList.lookup_insert _
  · rw [Function.update_of_ne hsame]
    exact AList.lookup_insert_ne hsame

theorem holders_remove (w : World) (node : String) (c : Choice) :
    (react w (.update (.usbVmsRemove node)) c).2.holders = Function.update w.holders node none := by
  funext other
  by_cases hsame : other = node
  · subst hsame
    rw [Function.update_self]
    exact AList.lookup_erase _ _
  · rw [Function.update_of_ne hsame]
    exact AList.lookup_erase_ne hsame

theorem shows_react (op : Op) (hop : op.Mute) (h : Shows w₀ view held w) (c : Choice) :
    Shows w₀ view held (react w op c).2 := by
  have hholders : (react w op c).2.holders = held := by
    have hmemory : (op.remember w.memory).usbVms = w.memory.usbVms := by
      cases op with
      | update u => cases u <;> first | rfl | exact hop.elim
      | _ => rfl
    rw [← h.holders]
    funext node
    rw [World.holders, World.holders, (react_remembers w op c).2, hmemory]
  refine ⟨?_, hholders⟩
  by_cases hnotify : ∃ n, op = .notify n
  · obtain ⟨n, rfl⟩ := hnotify
    have htold := h.leads.notify n
    rwa [hop view] at htold
  · have hsilent := notifications_react_silent (fun n heq => hnotify ⟨n, heq⟩) w c
    exact h.leads.silent hsilent

end Steps

/-! ## What is mute -/

section Mute

variable (d : Daemon)

theorem mute_authorizeUsbForHost : Calls Op.Mute (authorizeUsbForHost d) := by
  refine calls_ite ?_ trivial
  refine calls_bind (calls_request trivial) fun devices => calls_forM fun device _ => ?_
  refine calls_ite (calls_bind (calls_request trivial) fun value => ?_) trivial
  exact calls_ite (calls_warnOnError (calls_request trivial)) trivial

theorem mute_enableUsbAuthorization : Calls Op.Mute (enableUsbAuthorization d) := by
  refine calls_ite (calls_bind (calls_request trivial) fun _ => ?_) trivial
  exact calls_bind (mute_authorizeUsbForHost d) fun _ => trivial

theorem mute_closeUsbGate : Calls Op.Mute (closeUsbGate d) := by
  refine calls_bind (calls_request trivial) fun bus => calls_ite ?_ trivial
  exact calls_bind (calls_request trivial) fun _ => trivial

theorem mute_heldUnauthorized (name : String) : Calls Op.Mute (heldUnauthorized d name) := by
  refine calls_ite ?_ trivial
  exact calls_bind (calls_request trivial) fun _ => trivial

theorem mute_probe (name : String) : Calls Op.Mute (do
    if (← driver name).isNone then warnOnError (probe name) : Act Unit) := by
  refine calls_bind (calls_request trivial) fun value => ?_
  exact calls_ite (calls_warnOnError (calls_request trivial)) trivial

theorem mute_configureDevices (names : List String) : Calls Op.Mute (configureDevices d names) := by
  refine calls_forM fun name _ => calls_bind (mute_heldUnauthorized d name) fun held => ?_
  exact calls_ite (mute_probe name) trivial

theorem mute_usbRouting (devices : List UsbDevice) : Calls Op.Mute (usbRouting d devices) := by
  refine calls_bind (calls_request trivial) fun _ => calls_withLock trivial trivial ?_
  refine calls_bind (calls_request trivial) fun m => ?_
  refine calls_bind (calls_withLock trivial trivial ?_) fun pass => ?_
  · exact calls_bind (calls_request trivial) fun m => trivial
  · exact calls_bind (calls_request trivial) fun _ => trivial

theorem mute_settleInterface (isRouted : Bool) (interface : String) :
    Calls Op.Mute (settleInterface isRouted interface) := by
  refine calls_bind (calls_request trivial) fun value => ?_
  split
  · exact calls_ite (calls_warnOnError (calls_request trivial)) trivial
  · exact calls_warnOnError (calls_request trivial)
  · trivial

theorem mute_settleDrivers (routed : List String) : Calls Op.Mute (settleDrivers routed) := by
  refine calls_bind (calls_request trivial) fun _ => ?_
  refine calls_bind (calls_request trivial) fun names => ?_
  refine calls_forM fun name _ => calls_bind (calls_attempt (calls_request trivial)) fun r => ?_
  cases r with
  | error e => trivial
  | ok names => exact calls_forM fun interface _ => mute_settleInterface _ interface

theorem mute_applyUsbGate : Calls Op.Mute (applyUsbGate d) := by
  have hrest : ∀ bus : Bool, Calls Op.Mute (do
      authorizeUsbForHost d
      if bus && d.routesUsb then
        configureDevices d (← deviceNames)
        let routed ← usbRouting d (← scanUsbRoot)
        settleDrivers routed) := by
    intro bus
    refine calls_bind (mute_authorizeUsbForHost d) fun _ => calls_ite ?_ trivial
    refine calls_bind (calls_request trivial) fun names => ?_
    refine calls_bind (mute_configureDevices d names) fun _ => ?_
    refine calls_bind (calls_request trivial) fun devices => ?_
    exact calls_bind (mute_usbRouting d devices) fun routed => mute_settleDrivers routed
  refine calls_bind (calls_request trivial) fun bus => ?_
  exact calls_ite (calls_bind (calls_request trivial) fun _ => hrest bus) (hrest bus)

theorem mute_eachInterface {name : String} {f : Except Error (List String) → Act Unit}
    (herror : ∀ e, f (.error e) = pure ())
    (hok : ∀ names, f (.ok names) = names.forM handBackInterface) :
    Calls Op.Mute (Fallible.attempt (interfaces name) >>= f) := by
  refine calls_bind (calls_attempt (calls_request trivial)) fun r => ?_
  cases r with
  | error e =>
      rw [herror]
      trivial
  | ok names =>
      rw [hok]
      exact calls_forM fun interface _ => mute_probe interface

theorem mute_handBack (held : List String) (name : String) :
    Calls Op.Mute (handBack d held name) := by
  refine calls_ite (calls_bind (mute_heldUnauthorized d name) fun held => ?_) trivial
  refine calls_ite (calls_bind (calls_request trivial) fun value => ?_) trivial
  apply calls_ite
  · refine calls_bind (calls_warnOnError (calls_request trivial)) fun _ => ?_
    exact mute_eachInterface (fun _ => rfl) fun _ => rfl
  · exact mute_eachInterface (fun _ => rfl) fun _ => rfl

theorem mute_openUsbGate : Calls Op.Mute (openUsbGate d) := by
  refine calls_bind (calls_request trivial) fun bus => calls_ite ?_ trivial
  refine calls_bind (calls_request trivial) fun value => calls_ite ?_ trivial
  refine calls_bind (calls_usbHeldByVms trivial trivial) fun held => ?_
  refine calls_bind (calls_request trivial) fun _ => ?_
  refine calls_bind (calls_request trivial) fun names => ?_
  exact calls_forM fun name _ => mute_handBack d held name

theorem mute_deauthorizeUnmatchedUsb : Calls Op.Mute (deauthorizeUnmatchedUsb d) := by
  refine calls_ite ?_ trivial
  refine calls_bind (calls_request trivial) fun devices => ?_
  refine calls_bind (calls_request trivial) fun _ => calls_withLock trivial trivial ?_
  refine calls_bind (calls_request trivial) fun m => calls_forM fun device _ => ?_
  refine calls_ite (calls_bind (calls_request trivial) fun value => ?_) trivial
  exact calls_ite (calls_withContext _ (calls_request trivial)) trivial

theorem mute_rollback (device : UsbDevice) (armed : Bool) : Calls Op.Mute (rollback device armed) :=
  calls_rollback trivial

theorem mute_usbAuthorizationGuard (device : UsbDevice) :
    Calls Op.Mute (usbAuthorizationGuard d device) := by
  refine calls_ite (calls_bind (calls_request trivial) fun value => ?_) trivial
  refine calls_ite (calls_bind (calls_attempt ?_) fun r => ?_) trivial
  · exact calls_withContext _ (calls_request trivial)
  · cases r with
    | ok _ => trivial
    | error e => exact calls_bind (mute_rollback device true) fun _ => trivial

theorem mute_claimUsb (device : UsbDevice) (vm : Vm) (node : String)
    (seen : Option (String × List LivePort)) : Calls Op.Mute (claimUsb device vm node seen) := by
  refine calls_bind (calls_configureUsb trivial trivial trivial) fun _ => ?_
  refine calls_bind (calls_withContext _ (calls_request trivial)) fun names => ?_
  refine calls_bind (calls_releaseHostDrivers (fun _ => trivial) (fun _ => trivial) trivial
    names) fun stopped => ?_
  refine calls_ite trivial (calls_bind ?_ fun claim => trivial)
  exact calls_claimPort trivial trivial trivial trivial

/-- A device whose VM is not clear is reported once. -/
theorem mute_pending (device : UsbDevice) (rule : RuleMatch) : Calls Op.Mute (do
    if ← insertPending device.persistentId then
      notify (.usbSelectVm device rule.allowedVms)) := by
  have hinsert : Calls Op.Mute (insertPending device.persistentId) := by
    refine calls_withLock trivial trivial (calls_bind (calls_request trivial) fun m => ?_)
    exact calls_bind (calls_request trivial) fun _ => trivial
  refine calls_bind hinsert fun _ => calls_ite ?_ trivial
  exact calls_request fun _ => rfl

theorem mute_endForget (device : UsbDevice) (persistence : Except Error Unit) :
    Calls Op.Mute (endForget d device persistence) := by
  refine calls_bind (calls_request trivial) fun _ => calls_bind (calls_ite ?_ trivial) fun _ => ?_
  · refine calls_bind (calls_request trivial) fun value => calls_ite ?_ trivial
    exact calls_warnOnError (calls_request trivial)
  · cases persistence <;> trivial

theorem mute_bindVfio (address : String) : Calls Op.Mute (bindVfio address) := by
  refine calls_bind (calls_request trivial) fun value => calls_ite ?_ trivial
  have hrest : Calls Op.Mute (do
      Fallible.request (.pciOverride address) id
      Fallible.request (.pciProbe address) id : Act Unit) :=
    calls_bind (calls_request trivial) fun _ => calls_request trivial
  exact calls_ite (calls_bind (calls_request trivial) fun _ => hrest) hrest

theorem mute_addMissing (vm : Vm) (live attach : List String) (changed : Bool) :
    Calls Op.Mute (addMissing vm live attach changed) := by
  induction attach generalizing changed with
  | nil => trivial
  | cons address rest ih =>
      refine calls_ite (ih changed) ?_
      exact calls_bind (calls_withContext _ (calls_request trivial)) fun _ => ih true

theorem mute_attachOnePci (device : PciDevice) (rule : RuleMatch) (requestedVm : Option String) :
    Calls Op.Mute (attachOnePci d device rule requestedVm) := by
  refine calls_bind (calls_request trivial) fun _ => ?_
  refine calls_bind (calls_require _ _) fun target => calls_ite trivial ?_
  refine calls_bind (calls_require _ _) fun vm => ?_
  refine calls_bind (calls_withContext _ (calls_request trivial)) fun live => ?_
  refine calls_bind (calls_request trivial) fun group => calls_ite trivial ?_
  refine calls_bind (calls_forM fun address _ => mute_bindVfio address) fun _ => ?_
  refine calls_bind (calls_request trivial) fun m => ?_
  refine calls_bind (mute_addMissing vm live _ _) fun changed => ?_
  refine calls_bind (calls_withLock trivial trivial ?_) fun _ => ?_
  · refine calls_bind (calls_forM fun address _ => calls_request trivial) fun _ => ?_
    exact calls_setDisconnected trivial trivial
  · exact calls_ite (calls_request fun _ => rfl) trivial

theorem mute_detachOnePci (device : PciDevice) (rule : RuleMatch) (permanent : Bool) :
    Calls Op.Mute (detachOnePci d device rule permanent) := by
  have hend : Calls Op.Mute (withLock .state (setDisconnected d device.persistentId permanent)) :=
    calls_withLock trivial trivial (calls_setDisconnected trivial trivial)
  refine calls_bind (calls_request trivial) fun _ => calls_bind (calls_request trivial) fun m => ?_
  dsimp only
  split
  case h_1 vmName hvm =>
    refine calls_bind ?_ fun _ => hend
    refine calls_bind (calls_require _ _) fun vm => ?_
    refine calls_bind (calls_request trivial) fun group => ?_
    refine calls_bind (calls_bind (calls_request trivial) fun value => ?_) fun _ => ?_
    · exact calls_ite (calls_forM fun address _ => calls_request trivial) trivial
    · refine calls_bind (calls_withLock trivial trivial ?_) fun _ => calls_request fun _ => rfl
      exact calls_forM fun address _ => calls_request trivial
  case h_2 => exact hend

end Mute

/-! ## What the parts tell -/

section Parts

variable {allowed : World → Op → Choice → Prop} {w₀ w : World} {view held : Holders} {d : Daemon}
  {device : UsbDevice}

theorem shows_of_mute {α : Type} {p : Act α} (hp : Calls Op.Mute p) :
    Keeps (machine allowed) (fun _ _ => True) (Shows w₀ view held) p :=
  keeps_of_harmless (Program.calls_mono hp fun _ hop _ hw =>
    ⟨trivial, fun c _ => shows_react _ hop hw c⟩)

theorem harmless_of_mute {op : Op} (hop : op.Mute) :
    Harmless allowed (fun _ _ => True) (Followed w₀) op := fun _ hw =>
  ⟨trivial, fun c _ => (shows_react op hop hw.shows c).followed⟩

theorem followed_of_mute {α : Type} {p : Act α} (hp : Calls Op.Mute p) :
    Keeps (machine allowed) (fun _ _ => True) (Followed w₀) p := fun w hw =>
  wp_imp (shows_of_mute hp w hw.shows) fun _ _ h => h.followed

theorem harmless_of_glue {op : Op} (hop : op.Glue) :
    Harmless allowed (fun _ _ => True) (Followed w₀) op := by
  cases op with
  | lock l => exact fun w hw => ⟨trivial, fun _ _ => hw⟩
  | unlock l => exact fun w hw => ⟨trivial, fun _ _ => hw⟩
  | notify n => exact hop.elim
  | update u => cases u <;> first | exact harmless_of_mute trivial | exact hop.elim
  | _ => exact harmless_of_mute trivial

/-- Of a detach from a VM, the last thing is its event. -/
theorem wp_mute_notify {p : Act Unit} {node vmName : String} (hp : Calls Op.Mute p)
    (hw : Shows w₀ held held w) :
    wp (machine allowed) (fun _ _ => True) (p >>= fun _ => notify (.usbDetached node vmName))
      (fun r w' => (∃ e, r = .error e) ∧ Shows w₀ held held w' ∨
        r = .ok () ∧ Shows w₀ (Function.update held node none) held w') w := by
  rw [wp_bind]
  refine wp_imp (shows_of_mute hp w hw) fun r w' hw' => ?_
  cases r with
  | error e => exact .inl ⟨⟨e, rfl⟩, hw'⟩
  | ok _ =>
      rw [andThen_ok, notify, wp_operation]
      refine ⟨trivial, fun _ _ => .inr ⟨rfl, ?_, hw'.holders⟩⟩
      exact hw'.leads.notify (.usbDetached node vmName)

theorem wp_detachFromVm_tells {node vmName : String} {binding : Option UsbPortBinding}
    (hw : Shows w₀ held held w) :
    wp (machine allowed) (fun _ _ => True) (detachFromVm d device node vmName binding)
      (fun r w' => (∃ e, r = .error e) ∧ Shows w₀ held held w' ∨
        r = .ok () ∧ Shows w₀ (Function.update held node none) held w') w := by
  have hmatching : ∀ vm : Vm, Calls Op.Mute (detachMatchingPort device vm) := fun vm =>
    calls_detachMatchingPort trivial fun _ => trivial
  unfold detachFromVm
  rw [wp_bind]
  refine wp_imp (shows_of_mute (calls_require _ _) w hw) fun r w₁ hw₁ => ?_
  cases r with
  | error e => exact .inl ⟨⟨e, rfl⟩, hw₁⟩
  | ok vm =>
      rw [andThen_ok, wp_bind, socketGeneration, wp_operation]
      refine ⟨trivial, fun _ _ => ?_⟩
      rw [react, andThen_ok]
      dsimp only
      split
      case isFalse => exact wp_mute_notify (p := pure ()) trivial hw₁
      case isTrue =>
        cases binding with
        | none => exact wp_mute_notify (hmatching vm) hw₁
        | some b =>
            dsimp only
            rw [wp_bind, wp_operation]
            refine ⟨trivial, fun _ _ => ?_⟩
            rw [react, andThen_ok]
            split
            · exact wp_mute_notify (calls_detachBoundPort trivial fun _ => trivial) hw₁
            · exact wp_mute_notify (hmatching vm) hw₁

/-- A device is forgotten once its event is sent, or was with no VM. -/
theorem wp_forgetUsb_tells {node : String} {permanent : Bool}
    (hw : Shows w₀ (Function.update held node none) held w) :
    wp (machine allowed) (fun _ _ => True) (forgetUsb d device node permanent)
      (fun _ => Followed w₀) w := by
  have hrest : Calls Op.Mute (do
      update (.crosvmUsbPortsRemove device.sysName)
      Fallible.attempt do
        setDisconnected d device.persistentId permanent
        saveState d : Act (Except Error Unit)) := by
    refine calls_bind (calls_request trivial) fun _ => calls_attempt ?_
    exact calls_bind (calls_setDisconnected trivial trivial) fun _ => calls_saveState trivial
  rw [forgetUsb, wp_bind, forgetBinding, wp_withLock]
  refine ⟨trivial, fun _ _ => ?_⟩
  rw [wp_bind, update, wp_operation]
  refine ⟨trivial, fun c _ => ?_⟩
  rw [andThen_ok]
  have hforgotten : Followed w₀ (react w (.update (.usbVmsRemove node)) c).2 := by
    rw [Followed, holders_remove, hw.holders]
    exact hw.leads.silent (notifications_react_silent (by simp) w c)
  refine wp_imp (followed_of_mute hrest _ hforgotten) fun r w₁ hw₁ => ?_
  refine ⟨trivial, fun _ _ => ?_⟩
  cases r with
  | error e => exact hw₁
  | ok persistence =>
      rw [andThen_ok]
      exact followed_of_mute (mute_endForget d device persistence) w₁ hw₁

theorem followed_detachOneUsb {permanent : Bool} :
    Keeps (machine allowed) (fun _ _ => True) (Followed w₀) (detachOneUsb d device permanent) := by
  intro w hw
  rw [detachOneUsb, wp_bind, enter, wp_operation]
  refine ⟨trivial, fun c _ => ?_⟩
  have hcalled : Shows w₀ w.holders w.holders
      (react w (.enter (.detachOneUsb device permanent)) c).2 :=
    shows_react (.enter (.detachOneUsb device permanent)) trivial hw.shows c
  rw [andThen_ok, wp_bind, wp_require]
  cases hnode : device.deviceNode with
  | none => exact hcalled.followed
  | some node =>
      rw [Option.elim_some, andThen_ok, wp_bind, readMemory, wp_operation]
      refine ⟨trivial, fun _ _ => ?_⟩
      rw [react, andThen_ok]
      dsimp only
      split
      case h_1 vmName hvm =>
        rw [wp_bind]
        refine wp_imp (wp_detachFromVm_tells hcalled) fun r w₁ hw₁ => ?_
        obtain ⟨⟨e, rfl⟩, hsame⟩ | ⟨rfl, htold⟩ := hw₁
        · exact hsame.followed
        · rw [andThen_ok]
          exact wp_forgetUsb_tells htold
      case h_2 hnone =>
        -- the node was with no VM, and there is nothing to tell
        have hfree : w.holders node = none := ((Option.orElse_eq_none _ _).1 hnone).1
        have hsame : Function.update w.holders node none = w.holders := by
          rw [← hfree, Function.update_eq_self]
        rw [← hsame] at hcalled
        exact wp_forgetUsb_tells ⟨hcalled.leads, hcalled.holders.trans hsame⟩

/-- The end of an attach: whatever it records, it tells of, unless it was so before. -/
theorem wp_recordAttachment_tells {vmName node : String} {claim : PortClaim}
    (hsaves : ∀ w c, allowed w .save c → c.fail = false) (hw : Shows w₀ held held w) :
    wp (machine allowed) (fun _ _ => True) (recordAttachment d device vmName node claim)
      (fun r w' => r = .ok () ∧ Shows w₀ held (Function.update held node (some vmName)) w') w := by
  have hsave : Succeeds (machine allowed) (fun _ _ => True)
      (Shows w₀ held (Function.update held node (some vmName))) (saveState d) := by
    intro w' hw'
    unfold saveState
    split
    case isFalse => exact ⟨⟨(), rfl⟩, hw'⟩
    case isTrue =>
      rw [wp_operation]
      refine ⟨trivial, fun c hc => ⟨⟨(), ?_⟩, shows_react .save trivial hw' c⟩⟩
      simp [react, Choice.result, hsaves w' c hc]
  have hupdate : ∀ u : Update, Op.Mute (.update u) → Succeeds (machine allowed) (fun _ _ => True)
      (Shows w₀ held (Function.update held node (some vmName))) (update u) := by
    intro u hu w' hw'
    rw [update, wp_operation]
    exact ⟨trivial, fun c _ => ⟨⟨(), rfl⟩, shows_react _ hu hw' c⟩⟩
  have hrest : Succeeds (machine allowed) (fun _ _ => True)
      (Shows w₀ held (Function.update held node (some vmName))) (do
        selectVm d device.persistentId vmName
        setDisconnected d device.persistentId false
        update (.crosvmUsbPortsInsert device vmName claim.port claim.generation)
        saveState d) := by
    refine succeeds_bind (succeeds_bind (hupdate _ trivial) fun _ => hsave) fun _ => ?_
    refine succeeds_bind (succeeds_bind (hupdate _ trivial) fun _ => hsave) fun _ => ?_
    exact succeeds_bind (hupdate _ trivial) fun _ => hsave
  rw [recordAttachment, wp_withLock]
  refine ⟨trivial, fun _ _ => ?_⟩
  rw [wp_bind, update, wp_operation]
  refine ⟨trivial, fun c _ => ?_⟩
  rw [andThen_ok]
  have hrecorded : Shows w₀ held (Function.update held node (some vmName))
      (react w (.update (.usbVmsInsert node vmName)) c).2 := by
    refine ⟨hw.leads.silent (notifications_react_silent (by simp) w c), ?_⟩
    rw [holders_insert, hw.holders]
  refine wp_imp (hrest _ hrecorded) fun r w₁ hw₁ => ?_
  obtain ⟨⟨_, rfl⟩, hshows⟩ := hw₁
  exact ⟨trivial, fun _ _ => ⟨rfl, hshows⟩⟩

theorem wp_finishAttach_tells {vm : Vm} {node : String} {current : Option String}
    {claim : PortClaim} (hsaves : ∀ w c, allowed w .save c → c.fail = false)
    (hnode : device.deviceNode = some node)
    (hcurrent : current = some vm.name → held node = some vm.name) (hw : Shows w₀ held held w) :
    wp (machine allowed) (fun _ _ => True) (finishAttach d device vm node current claim)
      (fun _ => Followed w₀) w := by
  have htail : ∀ w, Shows w₀ held held w → wp (machine allowed) (fun _ _ => True) (do
      recordAttachment d device vm.name node claim
      update (.pendingRemove device.persistentId)
      if current ≠ some vm.name ∨ claim.attached then
        notify (.usbAttached device vm.name)) (fun _ => Followed w₀) w := by
    intro w hw
    rw [wp_bind]
    refine wp_imp (wp_recordAttachment_tells hsaves hw) fun r w₁ hw₁ => ?_
    obtain ⟨rfl, hrecorded⟩ := hw₁
    rw [andThen_ok, wp_bind, update, wp_operation]
    refine ⟨trivial, fun c _ => ?_⟩
    have hleft : Shows w₀ held (Function.update held node (some vm.name))
        (react w₁ (.update (.pendingRemove device.persistentId)) c).2 :=
      shows_react (.update (.pendingRemove device.persistentId)) trivial hrecorded c
    rw [andThen_ok]
    by_cases htells : current ≠ some vm.name ∨ claim.attached = true
    · rw [if_pos htells, notify, wp_operation]
      refine ⟨trivial, fun _ _ => Shows.followed ⟨?_, hleft.holders⟩⟩
      have htold := hleft.leads.notify (.usbAttached device vm.name)
      rwa [Holders.hear, hnode] at htold
    · rw [if_neg htells]
      obtain ⟨hsame, -⟩ := not_or.1 htells
      -- the device was with the VM before
      have hheld : held node = some vm.name := hcurrent (not_not.1 hsame)
      rw [← hheld, Function.update_eq_self] at hleft
      exact hleft.followed
  unfold finishAttach
  cases claim.stalePort with
  | none => exact htail w hw
  | some stale =>
      have hdetach : Calls Op.Mute (usbDetach vm stale) := calls_request trivial
      dsimp only
      rw [wp_bind]
      refine wp_imp (shows_of_mute hdetach w hw) fun r w₁ hw₁ => ?_
      cases r with
      | error e => exact hw₁.followed
      | ok _ => exact htail w₁ hw₁

theorem wp_attachAuthorized_tells {vm : Vm} {node : String} {current : Option String}
    {seen : Option (String × List LivePort)}
    (hsaves : ∀ w c, allowed w .save c → c.fail = false)
    (hnode : device.deviceNode = some node)
    (hcurrent : current = some vm.name → held node = some vm.name) (hw : Shows w₀ held held w) :
    wp (machine allowed) (fun _ _ => True) (attachAuthorized d device vm node current seen)
      (fun _ => Followed w₀) w := by
  rw [attachAuthorized, wp_bind]
  refine wp_imp (shows_of_mute (mute_usbAuthorizationGuard d device) w hw) fun r w₁ hw₁ => ?_
  cases r with
  | error e => exact hw₁.followed
  | ok armed =>
      rw [andThen_ok, wp_bind, wp_attempt]
      refine wp_imp (shows_of_mute (mute_claimUsb device vm node seen) w₁ hw₁) fun r w₂ hw₂ => ?_
      rw [andThen_ok]
      cases r with
      | error e =>
          have hleaves : Calls Op.Mute (do
              rollback device armed
              throw e : Act Unit) := calls_bind (mute_rollback device armed) fun _ => trivial
          exact wp_imp (shows_of_mute hleaves w₂ hw₂) fun _ _ h => h.followed
      | ok claimed =>
          cases claimed with
          | none =>
              exact wp_imp (shows_of_mute (mute_rollback device armed) w₂ hw₂)
                fun _ _ h => h.followed
          | some claim => exact wp_finishAttach_tells hsaves hnode hcurrent hw₂

/-- The device is taken from another VM, or was with this one before. -/
theorem wp_handOver_tells (vmName node : String) (hw : Followed w₀ w) :
    wp (machine allowed) (fun _ _ => True) (handOver d device (w.holders node) vmName)
      (fun _ w' => Followed w₀ w' ∧
        (w.holders node = some vmName → w'.holders node = some vmName)) w := by
  cases hcurrent : w.holders node with
  | none => exact ⟨hw, fun h => by cases h⟩
  | some other =>
      by_cases hother : other = vmName
      · simp only [handOver, hother, ne_eq, not_true_eq_false, if_false]
        exact ⟨hw, fun _ => hcurrent.trans (congrArg some hother)⟩
      · simp only [handOver, ne_eq, hother, not_false_eq_true, if_true]
        refine wp_imp (followed_detachOneUsb w hw) fun r w' hw' => ⟨hw', fun h => ?_⟩
        exact absurd (Option.some.inj h) hother

theorem followed_attachOneUsb {rule : RuleMatch} {requestedVm : Option String}
    (hsaves : ∀ w c, allowed w .save c → c.fail = false) :
    Keeps (machine allowed) (fun _ _ => True) (Followed w₀)
      (attachOneUsb d device rule requestedVm) := by
  have hrest : ∀ (vm : Vm) (vmName : String), vm.name = vmName →
      Keeps (machine allowed) (fun _ _ => True) (Followed w₀) (do
        let seen ← preflight d device vm
        let node ← require "USB device has no device node" device.deviceNode
        let current := (← readMemory .state).usbVms.lookup node
        handOver d device current vmName
        attachAuthorized d device vm node current seen) := by
    rintro vm _ rfl
    refine keeps_bind (followed_of_mute (calls_preflight trivial trivial)) fun seen => ?_
    intro w hw
    rw [wp_bind, wp_require]
    cases hnode : device.deviceNode with
    | none => exact hw
    | some node =>
        rw [Option.elim_some, andThen_ok, wp_bind, readMemory, wp_operation]
        refine ⟨trivial, fun _ _ => ?_⟩
        rw [react, andThen_ok, wp_bind]
        refine wp_imp (wp_handOver_tells vm.name node hw) fun r w₁ hw₁ => ?_
        cases r with
        | error e => exact hw₁.1
        | ok _ =>
            rw [andThen_ok]
            exact wp_attachAuthorized_tells hsaves hnode hw₁.2 hw₁.1.shows
  have hattach : ∀ vmName, Keeps (machine allowed) (fun _ _ => True) (Followed w₀)
      (attachUsbTo d device rule vmName) := by
    intro vmName w hw
    rw [attachUsbTo]
    split
    case isTrue => exact hw
    case isFalse =>
      rw [wp_bind, Daemon.vmNamed, wp_require]
      cases hvm : d.vm vmName with
      | none => exact hw
      | some vm =>
          have hname := hrest vm vmName (Daemon.vm_name hvm)
          rw [Option.elim_some, andThen_ok]
          dsimp only
          split
          case isFalse => exact hname w hw
          case isTrue =>
            have hsocket : Calls Op.Mute (socketGeneration vm.socket) := calls_request trivial
            refine keeps_bind (followed_of_mute hsocket) (fun value => ?_) w hw
            exact keeps_ite (followed_of_mute trivial) hname
  have henter : Calls Op.Mute (enter (.attachOneUsb device rule requestedVm)) :=
    calls_request trivial
  have hread : Calls Op.Mute (readMemory .state) := calls_request trivial
  refine keeps_bind (followed_of_mute henter) fun _ => ?_
  refine keeps_bind (followed_of_mute hread) fun m => ?_
  split
  · exact followed_of_mute (mute_pending device rule)
  · exact hattach _

/-! ### Observing -/

/-- A device that vanished is told of, and then nobody has its node. -/
theorem followed_forgetVanished {key : String} :
    Keeps (machine allowed) (fun _ _ => True) (Followed w₀) (forgetVanished d key device) := by
  have hrelease : ∀ binding, Calls Op.Mute (releasePort d binding) := by
    intro binding
    refine calls_bind (calls_require _ _) fun vm => ?_
    refine calls_bind (calls_request trivial) fun value => ?_
    refine calls_ite (calls_bind (calls_request trivial) fun value => calls_ite ?_ trivial) trivial
    refine calls_bind (calls_request trivial) fun live => ?_
    exact calls_ite (calls_request trivial) trivial
  have hend : Calls Op.Mute (do
      update (.crosvmUsbPortsRemove key)
      saveState d) := calls_bind (calls_request trivial) fun _ => calls_saveState trivial
  have hpending : Calls Op.Mute (update (.pendingRemove device.persistentId)) :=
    calls_request trivial
  have hdrop : Keeps (machine allowed) (fun _ _ => True) (Followed w₀)
      (dropVanished d key device) := by
    cases hnode : device.deviceNode with
    | none =>
        refine followed_of_mute ?_
        rw [dropVanished, dropRecords, hnode]
        refine calls_bind (calls_request fun _ => rfl) fun _ => ?_
        exact calls_bind (calls_withLock trivial trivial hend) fun _ => hpending
    | some node =>
        intro w hw
        rw [dropVanished, wp_bind, notify, wp_operation, hnode]
        refine ⟨trivial, fun c _ => ?_⟩
        have htold := Leads.notify hw (.usbDisconnected (some node))
        rw [andThen_ok, wp_bind, wp_withLock]
        refine ⟨trivial, fun _ _ => ?_⟩
        rw [dropRecords, hnode]
        dsimp only
        rw [wp_bind, update, wp_operation]
        refine ⟨trivial, fun c' _ => ?_⟩
        rw [andThen_ok]
        have hdropped : Followed w₀ (react (react w (.notify (.usbDisconnected (some node))) c).2
            (.update (.usbVmsRemove node)) c').2 := by
          rw [Followed, holders_remove]
          exact htold.silent (notifications_react_silent (by simp) _ c')
        refine wp_imp (followed_of_mute hend _ hdropped) fun r w₁ hw₁ => ⟨trivial, fun _ _ => ?_⟩
        cases r with
        | error e => exact hw₁
        | ok _ =>
            rw [andThen_ok]
            exact followed_of_mute hpending w₁ hw₁
  have hread : Calls Op.Mute (readMemory .state) := calls_request trivial
  refine keeps_bind (followed_of_mute hread) fun m => ?_
  cases m.persistent.crosvmUsbPorts.lookup key with
  | none => exact hdrop
  | some binding => exact keeps_bind (followed_of_mute (hrelease binding)) fun _ => hdrop

theorem followed_observe :
    Keeps (machine allowed) (fun _ _ => True) (Followed w₀) (observe d) := by
  have husb : ∀ usb, Keeps (machine allowed) (fun _ _ => True) (Followed w₀)
      (observeUsb d usb) := by
    intro usb
    have hlock : Op.Mute (.lock .observedUsb) := trivial
    have hunlock : Op.Mute (.unlock .observedUsb) := trivial
    have hread : Calls Op.Mute (readMemory .observedUsb) := calls_request trivial
    have hseen : Calls Op.Mute (update (.observedUsb usb)) := calls_request trivial
    refine keeps_withLock (harmless_of_mute hlock) (harmless_of_mute hunlock) ?_
    refine keeps_bind (followed_of_mute hread) fun m => ?_
    refine keeps_bind (followed_of_mute (calls_inOrder usb trivial)) fun present => ?_
    refine keeps_bind (followed_of_mute (calls_forM fun x _ => ?_)) fun _ => ?_
    · exact calls_ite (calls_request fun _ => rfl) trivial
    refine keeps_bind (followed_of_mute (calls_inOrder _ trivial)) fun seen => ?_
    refine keeps_bind (keeps_forM fun x => ?_) fun _ => followed_of_mute hseen
    exact keeps_ite followed_forgetVanished (keeps_pure _)
  have hpci : ∀ pci, Calls Op.Mute (observePci pci) := by
    intro pci
    refine calls_withLock trivial trivial (calls_bind (calls_request trivial) fun m => ?_)
    refine calls_bind (calls_inOrder pci trivial) fun present => ?_
    refine calls_bind (calls_forM fun x _ => ?_) fun _ => ?_
    · exact calls_ite (calls_request fun _ => rfl) trivial
    refine calls_bind (calls_inOrder _ trivial) fun seen => ?_
    refine calls_bind (calls_forM fun x _ => calls_ite ?_ trivial) fun _ => calls_request trivial
    exact calls_bind (calls_request fun _ => rfl) fun _ => calls_request trivial
  have henter : Calls Op.Mute (enter .observe) := calls_request trivial
  refine keeps_bind (followed_of_mute henter) fun _ => ?_
  refine keeps_bind (followed_of_mute (calls_usbDevices trivial)) fun devices => ?_
  refine keeps_bind (followed_of_mute (calls_pciDevices trivial fun _ => trivial)) fun pci => ?_
  exact keeps_bind (husb _) fun _ => followed_of_mute (hpci _)

/-- No operation that can save leaves a client behind. -/
theorem followed_operation (hsaves : ∀ w c, allowed w .save c → c.fail = false) (o : Operation) :
    Keeps (machine allowed) (fun _ _ => True) (Followed w₀) (o.program d) := by
  have hparts : PartsKeep allowed (fun _ _ => True) (Followed w₀) d := by
    exact {
      glue := fun op hop => harmless_of_glue hop
      attachUsb := fun _ _ _ => followed_attachOneUsb hsaves
      detachUsb := fun _ _ => followed_detachOneUsb
      attachPci := fun device rule vm => followed_of_mute (mute_attachOnePci d device rule vm)
      detachPci := fun device rule permanent =>
        followed_of_mute (mute_detachOnePci d device rule permanent)
      enable := followed_of_mute (mute_enableUsbAuthorization d)
      close := followed_of_mute (mute_closeUsbGate d)
      open_ := followed_of_mute (mute_openUsbGate d)
      gate := followed_of_mute (mute_applyUsbGate d)
      observe := followed_observe
      sweep := followed_of_mute (mute_deauthorizeUnmatchedUsb d) }
  exact hparts.operation_keeps o

end Parts

/-! ## Runs -/

theorem followed_of_continues {allowed : World → Op → Choice → Prop}
    {admits : World → Operation → Prop} {w₀ w : World}
    (hsaves : ∀ w c, allowed w .save c → c.fail = false)
    (h : Continues allowed admits (fun _ => False) w₀ w) : Followed w₀ w := by
  refine h.invariant (.refl w₀) (fun w w' hw hfollowed => ?_) (fun _ _ h => h.elim)
    fun w o _ hw => followed_operation hsaves o w hw
  obtain ⟨events, hevents, hview⟩ := hfollowed
  refine ⟨events, ?_, ?_⟩
  · rw [World.notifications, hw.log]
    exact hevents
  · rw [hview]
    funext node
    rw [World.holders, World.holders, hw.memory]

theorem wp_usbList_holders {allowed : World → Op → Choice → Prop} {d : Daemon} {w : World}
    {disconnected : Option Bool} {tag : Option String} :
    (d.usbList disconnected tag).wp (machine allowed) (fun _ _ => True) (fun r _ =>
      ∀ items, r = .ok items → ∀ item ∈ items, item.vm = item.device.deviceNode.bind w.holders)
      w := by
  rw [Daemon.usbList, wp_withLock]
  refine ⟨trivial, fun _ _ => ?_⟩
  rw [wp_bind, readMemory, wp_operation]
  refine ⟨trivial, fun _ _ => ?_⟩
  rw [react, andThen_ok, wp_bind]
  refine wp_imp (wp_usbDevices trivial) fun r w₁ _ => ?_
  cases r with
  | error e =>
      refine ⟨trivial, fun _ _ items hitems => ?_⟩
      cases hitems
  | ok devices =>
      refine ⟨trivial, fun _ _ items hitems item hitem => ?_⟩
      obtain rfl := Except.ok.inj hitems
      obtain ⟨⟨device, rule⟩, -, hlisted⟩ := List.mem_filterMap.1 hitem
      simp only [usbListed] at hlisted
      split at hlisted
      case isTrue => cases hlisted
      case isFalse =>
        obtain rfl := Option.some.inj hlisted
        rfl

/-- While a process lives and its saves succeed, a client that starts from the holders of some
moment and applies every event sent since knows which VM a list shows each device with. -/
theorem attachments_follow_events {allowed : World → Op → Choice → Prop}
    {admits : World → Operation → Prop} {w₀ w : World}
    (hsaves : ∀ w c, allowed w .save c → c.fail = false)
    (h : Continues allowed admits (fun _ => False) w₀ w) :
    ∃ events, w.notifications = w₀.notifications ++ events ∧
      w.holders = w₀.holders.hearAll events ∧
      ∀ disconnected tag tr w' items, Exec (machine allowed)
          (w.daemon.usbList disconnected tag).run w tr w' (some (.ok items)) →
        ∀ item ∈ items, item.vm = item.device.deviceNode.bind (w₀.holders.hearAll events) := by
  obtain ⟨events, hevents, hview⟩ := followed_of_continues hsaves h
  refine ⟨events, hevents, hview.symm, fun disconnected tag tr w' items hexec item hitem => ?_⟩
  rw [hview]
  exact (Program.wp_sound wp_usbList_holders hexec).2 _ rfl items rfl item hitem

/-! ### A keyboard that comes and goes -/

def keyboardComing : World where
  daemon := plainDaemon [keyboardRule [("targetVm", .string "gui-vm")]]
  bus := { entries := [keyboard "1-1" "4"] }
  sockets := Function.update (fun _ => none) guiVm.socket (some "gui-first")

def keyboardLeaving : World :=
  { keyboardComing.perform (granting 1 [(1, "046d", "c31c")]) .reconcile with bus := {} }

def keyboardCameAndWent : World := keyboardLeaving.perform (granting 1 []) .reconcile

theorem savesSucceed_granting (port : UInt8) (live : List LivePort) (w : World) (op : Op) :
    savesSucceed w op (granting port live w op) := by
  cases op with
  | save => rfl
  | _ => trivial

theorem attachments_follow_events_keyboard :
    ∃ events, keyboardCameAndWent.notifications = keyboardComing.notifications ++ events ∧
      keyboardCameAndWent.holders = keyboardComing.holders.hearAll events ∧
      ∀ disconnected tag tr w' items, Exec (machine savesSucceed)
          (keyboardCameAndWent.daemon.usbList disconnected tag).run keyboardCameAndWent tr w'
            (some (.ok items)) →
        ∀ item ∈ items,
          item.vm = item.device.deviceNode.bind (keyboardComing.holders.hearAll events) := by
  have hcame : Continues savesSucceed (fun _ _ => True) (fun _ => False) keyboardComing
      (keyboardComing.perform (granting 1 [(1, "046d", "c31c")]) .reconcile) :=
    .operation .reconcile .start trivial
      (Program.follow_exec _ keyboardComing fun _ _ => savesSucceed_granting _ _ _ _)
  have hleft : Continues savesSucceed (fun _ _ => True) (fun _ => False) keyboardComing
      keyboardLeaving := .surroundings hcame ⟨rfl, rfl, rfl, rfl⟩
  have hgone : Continues savesSucceed (fun _ _ => True) (fun _ => False) keyboardComing
      keyboardCameAndWent :=
    .operation .reconcile hleft trivial
      (Program.follow_exec _ keyboardLeaving fun _ _ => savesSucceed_granting _ _ _ _)
  exact attachments_follow_events (fun _ _ h => h) hgone

example : keyboardCameAndWent.notifications.map Notification.event =
    ["usb_connected", "usb_attached", "usb_disconnected"] := by decide +kernel

end GhafDeviceManager
