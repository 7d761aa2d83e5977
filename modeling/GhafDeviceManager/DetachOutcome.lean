import GhafDeviceManager.Isolation
import GhafDeviceManager.Ownership

/-!
# What a detach leaves behind

A detach of one USB device asks Crosvm first and changes nothing of its own before it has told
the subscribers. From there on only saving the state can fail, and what is left to do is done
whether it fails or not.
-/

namespace GhafDeviceManager

open Fallible

def Gains (S : Effect → Prop) (w w' : World) : Prop :=
  ∃ news, w'.log = news ++ w.log ∧ ∀ effect ∈ news, S effect

/-- A command to detach, or the call itself. -/
def Effect.Detaching : Effect → Prop
  | .entered _ | .usbDetach _ _ _ => True
  | _ => False

/-- Not a command to detach that failed. -/
def Effect.Carried : Effect → Prop
  | .usbDetach _ _ ok => ok = true
  | _ => True

structure OnlyAsked (S : Effect → Prop) (w w' : World) : Prop where
  memory : w'.memory = w.memory
  stateFile : w'.stateFile = w.stateFile
  bus : w'.bus = w.bus
  log : Gains S w w'

/-- A command that ended well was carried out, and one that failed changed nothing. -/
def AskedFor (w : World) : Except Error Unit → World → Prop
  | .ok _, w' => OnlyAsked Effect.Carried w w'
  | .error _, w' => OnlyAsked Effect.Detaching w w'

/-- What a detach does to the records of its device, tells and takes from the host. -/
structure DetachEffects (d : Daemon) (device : UsbDevice) (permanent : Bool) (w w' : World) :
    Prop where
  holder : ∀ node ∈ device.deviceNode, w'.memory.usbVms.lookup node = none
  port : w'.memory.persistent.crosvmUsbPorts.lookup device.sysName = none
  pending : device.persistentId ∉ w'.memory.pendingUsbSelection
  mark : w'.memory.persistent.disconnected device.persistentId = permanent
  told : ∀ node ∈ device.deviceNode, ∀ vmName ∈ w.holder device node,
    Since w w' (.notified (.usbDetached node vmName))
  deauthorized : d.config.usbAuthorization.enabled = true → device.isHub = false →
    (w.bus.authorization device.sysName).isSome = true →
      ∃ ok, Since w w' (.authorized device.sysName false ok)

/-- No record is touched, nothing is told and no authorization written. -/
structure NothingDone (w w' : World) : Prop where
  usbVms : w'.memory.usbVms = w.memory.usbVms
  selectedVms : w'.memory.persistent.selectedVms = w.memory.persistent.selectedVms
  crosvmUsbPorts : w'.memory.persistent.crosvmUsbPorts = w.memory.persistent.crosvmUsbPorts
  disconnectedDevices :
    w'.memory.persistent.disconnectedDevices = w.memory.persistent.disconnectedDevices
  pending : w'.memory.pendingUsbSelection = w.memory.pendingUsbSelection
  silent : ∀ node vmName, ¬Since w w' (.notified (.usbDetached node vmName))
  unwritten : ∀ name value ok, ¬Since w w' (.authorized name value ok)

/-- The records of all other devices are as they were. -/
structure OthersUntouched (device : UsbDevice) (w w' : World) : Prop where
  usbVms : ∀ node ∉ device.deviceNode, w'.memory.usbVms.lookup node = w.memory.usbVms.lookup node
  selectedVms : w'.memory.persistent.selectedVms = w.memory.persistent.selectedVms
  crosvmUsbPorts : ∀ key ≠ device.sysName, w'.memory.persistent.crosvmUsbPorts.lookup key =
    w.memory.persistent.crosvmUsbPorts.lookup key
  marks : ∀ id ≠ device.persistentId,
    w'.memory.persistent.disconnected id = w.memory.persistent.disconnected id

section Gains

variable {S T : Effect → Prop} {w w₁ w₂ : World} {effect : Effect}

theorem Gains.refl (w : World) : Gains S w w := ⟨[], rfl, by simp⟩

theorem Gains.trans (h : Gains S w w₁) (h' : Gains S w₁ w₂) : Gains S w w₂ := by
  obtain ⟨news, hnews, hall⟩ := h
  obtain ⟨more, hmore, hall'⟩ := h'
  refine ⟨more ++ news, ?_, fun effect hmem => ?_⟩
  · rw [hmore, hnews, List.append_assoc]
  · rcases List.mem_append.1 hmem with hnew | hold
    · exact hall' effect hnew
    · exact hall effect hold

theorem gains_record (h : S effect) : Gains S w (w.record effect) :=
  ⟨[effect], rfl, by simpa using h⟩

theorem Gains.suffix (h : Gains S w w₁) : w.log <:+ w₁.log := by
  obtain ⟨news, hnews, -⟩ := h
  exact ⟨news, hnews.symm⟩

theorem Gains.before (h : Gains S w w₁) (hsince : Since w₁ w₂ effect) : Since w w₂ effect := by
  obtain ⟨news, hnews, -⟩ := h
  obtain ⟨more, hmore, hmem⟩ := hsince
  refine ⟨more ++ news, ?_, List.mem_append_left news hmem⟩
  rw [hmore, hnews, List.append_assoc]

theorem Gains.since (h : Gains S w w₁) (hsince : Since w w₁ effect) : S effect := by
  obtain ⟨news, hnews, hall⟩ := h
  obtain ⟨news', hnews', hmem⟩ := hsince
  rw [hnews] at hnews'
  obtain rfl := List.append_cancel_right hnews'
  exact hall effect hmem

theorem OnlyAsked.refl (w : World) : OnlyAsked S w w := ⟨rfl, rfl, rfl, .refl w⟩

theorem OnlyAsked.trans (h : OnlyAsked S w w₁) (h' : OnlyAsked S w₁ w₂) : OnlyAsked S w w₂ :=
  ⟨h'.memory.trans h.memory, h'.stateFile.trans h.stateFile, h'.bus.trans h.bus,
    h.log.trans h'.log⟩

end Gains

section Asking

variable {allowed : World → Op → Choice → Prop} {w : World} {device : UsbDevice} {vm : Vm}

theorem wp_usbDetach_asked (port : UInt8) :
    (usbDetach vm port).wp (machine allowed) (fun _ _ => True) (AskedFor w) w := by
  rw [usbDetach, wp_operation]
  refine ⟨trivial, fun c _ => ?_⟩
  cases hfail : c.fail with
  | false =>
      simp only [react, Choice.result, hfail]
      exact ⟨rfl, rfl, rfl, [_], rfl, by simp [Effect.Carried]⟩
  | true =>
      simp only [react, Choice.result, hfail]
      exact ⟨rfl, rfl, rfl, [_], rfl, by simp [Effect.Detaching]⟩

theorem wp_usbList_asked {f : List LivePort → Act Unit}
    (hf : ∀ live, (f live).wp (machine allowed) (fun _ _ => True) (AskedFor w) w) :
    wp (machine allowed) (fun _ _ => True) (usbList vm.socket >>= f) (AskedFor w) w := by
  rw [wp_bind, usbList, wp_operation]
  refine ⟨trivial, fun c _ => ?_⟩
  cases hfail : c.fail with
  | false =>
      simp only [react, Choice.result, hfail]
      exact hf _
  | true =>
      simp only [react, Choice.result, hfail]
      exact .refl w

theorem wp_detachBoundPort_asked {binding : UsbPortBinding} :
    (detachBoundPort device vm binding).wp (machine allowed) (fun _ _ => True) (AskedFor w) w := by
  refine wp_usbList_asked fun live => ?_
  split
  · split
    · exact .refl w
    · exact wp_usbDetach_asked _
  · exact .refl w

theorem wp_detachMatchingPort_asked :
    (detachMatchingPort device vm).wp (machine allowed) (fun _ _ => True) (AskedFor w) w := by
  refine wp_usbList_asked fun live => ?_
  split
  · exact wp_usbDetach_asked _
  · exact .refl w
  · exact .refl w

def TakenFrom (w : World) (node vmName : String) : Except Error Unit → World → Prop
  | .ok _, w' => ∃ w₁, OnlyAsked Effect.Carried w w₁ ∧
      w' = w₁.record (.notified (.usbDetached node vmName))
  | .error _, w' => OnlyAsked Effect.Detaching w w'

theorem wp_detachFromVm_taken {d : Daemon} {node vmName : String}
    {binding : Option UsbPortBinding} : (detachFromVm d device node vmName binding).wp
      (machine allowed) (fun _ _ => True) (TakenFrom w node vmName) w := by
  have htell : ∀ {p : Act Unit}, p.wp (machine allowed) (fun _ _ => True) (AskedFor w) w →
      wp (machine allowed) (fun _ _ => True) (p >>= fun _ => notify (.usbDetached node vmName))
        (TakenFrom w node vmName) w := by
    intro p hp
    rw [wp_bind]
    refine wp_imp hp fun r w' hw' => ?_
    cases r with
    | error e => exact hw'
    | ok _ =>
        rw [andThen_ok, notify, wp_operation]
        exact ⟨trivial, fun _ _ => ⟨w', hw', rfl⟩⟩
  rw [detachFromVm, wp_bind, Daemon.vmNamed, wp_require]
  cases d.vm vmName with
  | none => exact OnlyAsked.refl w
  | some vm =>
      rw [Option.elim_some, andThen_ok, wp_bind, socketGeneration, wp_operation]
      refine ⟨trivial, fun _ _ => ?_⟩
      rw [react, andThen_ok]
      dsimp only
      split
      · cases binding with
        | none => exact htell wp_detachMatchingPort_asked
        | some binding =>
            dsimp only
            rw [wp_bind, wp_operation]
            refine ⟨trivial, fun _ _ => ?_⟩
            rw [react, andThen_ok]
            dsimp only
            split
            · exact htell wp_detachBoundPort_asked
            · exact htell wp_detachMatchingPort_asked
      · exact htell (p := pure ()) (OnlyAsked.refl w)

end Asking

/-! ## Forgetting -/

def Memory.detached (m : Memory) (device : UsbDevice) (node : String) (permanent : Bool) :
    Memory :=
  [.usbVmsRemove node, .crosvmUsbPortsRemove device.sysName,
    .setDisconnected device.persistentId permanent,
    .pendingRemove device.persistentId].foldl Update.apply m

def SaveFailed (w w' : World) (e : Error) : Prop :=
  e = ["failed to save state"] ∧ Since w w' (.saved false)

/-- What a detach returns with: all of it done and saved, or nothing, or all but the save. -/
def DetachOutcome (d : Daemon) (device : UsbDevice) (permanent : Bool) (w : World) :
    Except Error Unit → World → Prop
  | .ok _, w' => OthersUntouched device w w' ∧ DetachEffects d device permanent w w' ∧
      (d.config.persistency = true → w'.stateFile = some w'.memory.persistent)
  | .error e, w' => OthersUntouched device w w' ∧ (NothingDone w w' ∨
      (SaveFailed w w' e ∧ Gains Effect.Carried w w' ∧ DetachEffects d device permanent w w'))

structure Saved (d : Daemon) (w : World) (r : Except Error Unit) (w' : World) : Prop where
  bus : w'.bus = w.bus
  log : Gains Effect.Carried w w'
  kept : r = .ok () → d.config.persistency = true → w'.stateFile = some w'.memory.persistent
  failed : ∀ e, r = .error e → SaveFailed w w' e

section Forgetting

variable {allowed : World → Op → Choice → Prop} {w : World} {d : Daemon} {device : UsbDevice}
  {node : String} {permanent : Bool}

theorem wp_saveState_saved : (saveState d).wp (machine allowed) (fun _ _ => True)
    (fun r w' => w'.memory = w.memory ∧ Saved d w r w') w := by
  unfold saveState
  split
  case isTrue hpersistency =>
    rw [wp_operation]
    refine ⟨trivial, fun c _ => ⟨rfl, rfl, gains_record trivial, ?_, ?_⟩⟩
    · intro hok _
      cases hfail : c.fail with
      | false => simp [react, hfail, World.record]
      | true => simp [react, Choice.result, hfail] at hok
    · intro e he
      cases hfail : c.fail with
      | false => simp [react, Choice.result, hfail] at he
      | true =>
          have hsince : Since w (w.record (.saved false)) (.saved false) :=
            since_record List.suffix_rfl
          have hsame : e = ["failed to save state"] := by
            simpa [react, Choice.result, hfail, eq_comm] using he
          refine ⟨hsame, ?_⟩
          obtain ⟨news, hnews, hmem⟩ := hsince
          exact ⟨[.saved false], by simp [react, hfail, World.record], List.mem_cons_self⟩
  case isFalse hpersistency =>
    exact ⟨rfl, rfl, .refl w, fun _ h => absurd h hpersistency, by simp⟩

/-- The mark is in memory whether or not it could be saved. -/
theorem wp_persistMark_saved {id : String} {value : Bool} :
    wp (machine allowed) (fun _ _ => True) (do
      setDisconnected d id value
      saveState d) (fun r w' => w'.memory = (Update.setDisconnected id value).apply w.memory ∧
        Saved d w r w') w := by
  rw [wp_bind, setDisconnected, wp_bind, update, wp_operation]
  refine ⟨trivial, fun _ _ => ?_⟩
  have hmarked : ∀ w' : World, w' = { w with memory :=
      (Update.setDisconnected id value).apply w.memory } → Gains Effect.Carried w w' :=
    fun w' h => ⟨[], by rw [h]; rfl, by simp⟩
  rw [react, andThen_ok]
  refine wp_imp wp_saveState_saved ?_
  rintro r w₁ ⟨hmemory, hsaved⟩
  have hfrom := hmarked _ rfl
  cases r with
  | error e =>
      refine ⟨hmemory, hsaved.bus, hfrom.trans hsaved.log, by simp, fun e' he => ?_⟩
      exact ⟨(hsaved.failed e' he).1, hfrom.before (hsaved.failed e' he).2⟩
  | ok _ =>
      rw [andThen_ok]
      refine wp_imp wp_saveState_saved ?_
      rintro r w₂ ⟨hmemory', hsaved'⟩
      have hlog := hfrom.trans hsaved.log
      refine ⟨hmemory'.trans hmemory, hsaved'.bus.trans hsaved.bus, hlog.trans hsaved'.log,
        hsaved'.kept, fun e he => ?_⟩
      exact ⟨(hsaved'.failed e he).1, hlog.before (hsaved'.failed e he).2⟩

theorem wp_deauthorizeDetached_done :
    (deauthorizeDetached d device).wp (machine allowed) (fun _ _ => True) (fun r w' =>
      r = .ok () ∧ w'.memory = w.memory ∧ w'.stateFile = w.stateFile ∧
        Gains Effect.Carried w w' ∧
        (d.config.usbAuthorization.enabled = true → device.isHub = false →
          (w.bus.authorization device.sysName).isSome = true →
            ∃ ok, Since w w' (.authorized device.sysName false ok))) w := by
  unfold deauthorizeDetached
  split
  case isTrue henabled =>
    rw [wp_bind, authorization, wp_operation]
    refine ⟨trivial, fun _ _ => ?_⟩
    rw [react, andThen_ok]
    dsimp only
    split
    case isTrue hreadable =>
      rw [wp_warnOnError, authorize, wp_operation]
      refine ⟨trivial, fun c _ => ?_⟩
      have hread : ((w.bus.entry device.sysName).bind fun entry =>
          entry.read "authorized").isNone = false := by
        cases hfile : (w.bus.entry device.sysName).bind fun entry => entry.read "authorized" with
        | none =>
            rw [UsbBus.authorization, hfile] at hreadable
            cases hreadable
        | some value => rfl
      simp only [react, hread, Bool.false_eq_true, if_false]
      refine ⟨trivial, rfl, rfl, gains_record trivial, fun _ _ _ => ⟨!c.fail, ?_⟩⟩
      exact ⟨[_], rfl, List.mem_cons_self⟩
    case isFalse hunreadable =>
      exact ⟨rfl, rfl, rfl, .refl w, fun _ _ h => absurd h hunreadable⟩
  case isFalse hdisabled =>
    refine ⟨rfl, rfl, rfl, .refl w, fun henabled hhub _ => absurd ?_ hdisabled⟩
    rw [henabled, hhub]
    rfl

/-- A device is forgotten as a whole, and the save alone decides what is returned. -/
theorem wp_forgetUsb_done : (forgetUsb d device node permanent).wp (machine allowed)
    (fun _ _ => True) (fun r w' => w'.memory = w.memory.detached device node permanent ∧
      Gains Effect.Carried w w' ∧
      (r = .ok () → d.config.persistency = true → w'.stateFile = some w'.memory.persistent) ∧
      (∀ e, r = .error e → SaveFailed w w' e) ∧
      (d.config.usbAuthorization.enabled = true → device.isHub = false →
        (w.bus.authorization device.sysName).isSome = true →
          ∃ ok, Since w w' (.authorized device.sysName false ok))) w := by
  rw [forgetUsb, wp_bind, forgetBinding, wp_withLock]
  refine ⟨trivial, fun _ _ => ?_⟩
  rw [wp_bind, update, wp_operation]
  refine ⟨trivial, fun _ _ => ?_⟩
  rw [react, andThen_ok, wp_bind, update, wp_operation]
  refine ⟨trivial, fun _ _ => ?_⟩
  rw [react, andThen_ok, wp_attempt]
  refine wp_imp wp_persistMark_saved ?_
  rintro persistence w₁ ⟨hmemory, hsaved⟩
  have hlog₁ : Gains Effect.Carried w w₁ := Gains.trans ⟨[], rfl, by simp⟩ hsaved.log
  refine ⟨trivial, fun _ _ => ?_⟩
  rw [andThen_ok, wp_bind, update, wp_operation]
  refine ⟨trivial, fun _ _ => ?_⟩
  rw [react, andThen_ok, wp_bind]
  refine wp_imp wp_deauthorizeDetached_done ?_
  rintro _ w₂ ⟨rfl, hmemory₂, hfile₂, hgains, hdeauthorized⟩
  have hlog₂ : Gains Effect.Carried w₁ w₂ := Gains.trans ⟨[], rfl, by simp⟩ hgains
  rw [andThen_ok]
  have hdetached : w₂.memory = w.memory.detached device node permanent := by
    rw [hmemory₂]
    exact congrArg (fun m => (Update.pendingRemove device.persistentId).apply m) hmemory
  have hfile : w₂.stateFile = w₁.stateFile := hfile₂
  have hpersistent : w₂.memory.persistent = w₁.memory.persistent := by
    rw [hmemory₂]
    rfl
  have hbus : w₁.bus = w.bus := hsaved.bus
  have hsaveFailed : ∀ e, persistence = .error e → SaveFailed w w₂ e := by
    intro e he
    obtain ⟨hsame, hsince⟩ := hsaved.failed e he
    exact ⟨hsame, hsince.later hlog₂.suffix⟩
  have hauthorized : d.config.usbAuthorization.enabled = true → device.isHub = false →
      (w.bus.authorization device.sysName).isSome = true →
        ∃ ok, Since w w₂ (.authorized device.sysName false ok) := by
    intro henabled hhub hreadable
    obtain ⟨ok, hsince⟩ := hdeauthorized henabled hhub (hbus ▸ hreadable)
    exact ⟨ok, hlog₁.before hsince⟩
  have hlog := hlog₁.trans hlog₂
  cases persistence with
  | ok _ =>
      refine ⟨hdetached, hlog, fun _ hpersistency => ?_, by simp, hauthorized⟩
      rw [hfile, hpersistent]
      exact hsaved.kept rfl hpersistency
  | error e =>
      refine ⟨hdetached, hlog, by simp, fun e' he => ?_, hauthorized⟩
      exact hsaveFailed e' (by rw [← Except.error.inj he])

end Forgetting

section Outcome

variable {allowed : World → Op → Choice → Prop} {w w' : World} {d : Daemon} {device : UsbDevice}
  {node : String} {permanent : Bool}

theorem othersUntouched_of_memory (h : w'.memory = w.memory) : OthersUntouched device w w' :=
  ⟨fun _ _ => by rw [h], by rw [h], fun _ _ => by rw [h], fun _ _ => by rw [h]⟩

theorem othersUntouched_of_detached (hnode : device.deviceNode = some node)
    (h : w'.memory = w.memory.detached device node permanent) : OthersUntouched device w w' := by
  refine ⟨fun other hother => ?_, by rw [h]; rfl, fun key hkey => ?_, fun id hid => ?_⟩
  · have hne : other ≠ node := by
      rintro rfl
      exact hother hnode
    rw [h]
    exact AList.lookup_erase_ne hne
  · rw [h]
    exact AList.lookup_erase_ne hkey
  · rw [h]
    exact (PersistentState.disconnected_setDisconnected _ _ _ _).trans (if_neg hid)

theorem OnlyAsked.nothingDone (h : OnlyAsked Effect.Detaching w w') : NothingDone w w' := by
  refine ⟨by rw [h.memory], by rw [h.memory], by rw [h.memory], by rw [h.memory],
    by rw [h.memory], fun node vmName hsince => ?_, fun name value ok hsince => ?_⟩
  · exact h.log.since hsince
  · exact h.log.since hsince

theorem wp_forgetUsb_outcome {w₀ : World} (hnode : device.deviceNode = some node)
    (hmemory : w.memory = w₀.memory) (hbus : w.bus = w₀.bus) (hlog : Gains Effect.Carried w₀ w)
    (htold : ∀ vmName ∈ w₀.holder device node,
      Since w₀ w (.notified (.usbDetached node vmName))) :
    (forgetUsb d device node permanent).wp (machine allowed) (fun _ _ => True)
      (DetachOutcome d device permanent w₀) w := by
  refine wp_imp wp_forgetUsb_done ?_
  rintro r w' ⟨hdetached, hgains, hkept, hfailed, hauthorized⟩
  rw [hmemory] at hdetached
  have heffects : DetachEffects d device permanent w₀ w' := by
    refine ⟨fun n hn => ?_, ?_, ?_, ?_, fun n hn vmName hvm => ?_,
      fun henabled hhub hreadable => ?_⟩
    · obtain rfl : node = n := Option.some.inj (hnode.symm.trans hn)
      rw [hdetached]
      exact AList.lookup_erase _ _
    · rw [hdetached]
      exact AList.lookup_erase _ _
    · rw [hdetached]
      simp [Memory.detached, Update.apply]
    · rw [hdetached]
      exact (PersistentState.disconnected_setDisconnected _ _ _ _).trans (if_pos rfl)
    · obtain rfl : node = n := Option.some.inj (hnode.symm.trans hn)
      exact (htold vmName hvm).later hgains.suffix
    · obtain ⟨ok, hsince⟩ := hauthorized henabled hhub (hbus ▸ hreadable)
      exact ⟨ok, hlog.before hsince⟩
  have hothers := othersUntouched_of_detached hnode hdetached
  cases r with
  | ok _ => exact ⟨hothers, heffects, hkept rfl⟩
  | error e =>
      obtain ⟨hsame, hsince⟩ := hfailed e rfl
      exact ⟨hothers, .inr ⟨⟨hsame, hlog.before hsince⟩, hlog.trans hgains, heffects⟩⟩

theorem wp_detachOneUsb_outcome : (detachOneUsb d device permanent).wp (machine allowed)
    (fun _ _ => True) (DetachOutcome d device permanent w) w := by
  have hentered : OnlyAsked Effect.Detaching w
      (w.record (.entered (.detachOneUsb device permanent))) :=
    ⟨rfl, rfl, rfl, gains_record trivial⟩
  have hcalled : Gains Effect.Carried w (w.record (.entered (.detachOneUsb device permanent))) :=
    gains_record trivial
  have hleave : ∀ (e : Error) w', OnlyAsked Effect.Detaching w w' →
      DetachOutcome d device permanent w (.error e) w' := fun e w' h =>
    ⟨othersUntouched_of_memory h.memory, .inl h.nothingDone⟩
  rw [detachOneUsb, wp_bind, enter, wp_operation]
  refine ⟨trivial, fun _ _ => ?_⟩
  rw [react, andThen_ok, wp_bind, wp_require]
  cases hnode : device.deviceNode with
  | none => exact hleave _ _ hentered
  | some node =>
      rw [Option.elim_some, andThen_ok, wp_bind, readMemory, wp_operation]
      refine ⟨trivial, fun _ _ => ?_⟩
      rw [react, andThen_ok]
      dsimp only
      split
      case h_1 vmName hvm =>
        rw [wp_bind]
        refine wp_imp wp_detachFromVm_taken fun r w' hw' => ?_
        cases r with
        | error e => exact hleave e w' (hentered.trans hw')
        | ok _ =>
            obtain ⟨w₁, hasked, rfl⟩ := hw'
            have hlog := hcalled.trans hasked.log
            rw [andThen_ok]
            refine wp_forgetUsb_outcome hnode hasked.memory hasked.bus
              (hlog.trans (gains_record trivial)) fun other hother => ?_
            obtain rfl : vmName = other := Option.some.inj (hvm.symm.trans hother)
            exact since_record hlog.suffix
      case h_2 hvm =>
        refine wp_forgetUsb_outcome hnode rfl rfl hcalled fun other hother => ?_
        have hunknown : w.holder device node = none := hvm
        rw [hunknown] at hother
        cases hother

/-- A detach is all or nothing, but for a failed save, which is reported once the rest is done. -/
theorem detach_all_or_nothing {tr : List (World × Op)} {r : Except Error Unit}
    (h : Exec (machine allowed) (detachOneUsb d device permanent).run w tr w' (some r)) :
    DetachOutcome d device permanent w r w' :=
  (Program.wp_sound wp_detachOneUsb_outcome h).2 r rfl

end Outcome

/-! ## A save that fails -/

def keyboardDevice : UsbDevice :=
  usbDeviceOf Host.plain.hwdb [keyboard "1-1" "4"] (keyboard "1-1" "4")

/-- The keyboard is recorded for the first VM, and the authorization policy is on. -/
def keyboardHeld : World :=
  { keyboardPlugged with
    daemon := { keyboardPlugged.daemon with
      config := { keyboardPlugged.daemon.config with
        usbAuthorization := { enable := some true } } }
    memory := { usbVms := AList.insert "/dev/bus/usb/001/004" "gui-vm" ∅ } }

def nothingSaved (_ : World) : Op → Choice
  | .save => { fail := true }
  | _ => {}

/-- The save fails, and the device is detached in memory and deauthorized. -/
theorem detach_all_or_nothing_unsaved : ∃ tr w' e,
    Exec (machine anyChoice) (detachOneUsb keyboardHeld.daemon keyboardDevice true).run
      keyboardHeld tr w' (some (.error e)) ∧
    DetachOutcome keyboardHeld.daemon keyboardDevice true keyboardHeld (.error e) w' ∧
    w'.memory.persistent.disconnected keyboardDevice.persistentId = true := by
  have hexec := exec_follow (detachOneUsb keyboardHeld.daemon keyboardDevice true) nothingSaved
    keyboardHeld
  have hfailed : ((detachOneUsb keyboardHeld.daemon keyboardDevice true).run.follow react
      nothingSaved keyboardHeld).2.2 = .error ["failed to save state"] := by decide +kernel
  rw [hfailed] at hexec
  exact ⟨_, _, _, hexec, detach_all_or_nothing hexec, by decide +kernel⟩

end GhafDeviceManager
