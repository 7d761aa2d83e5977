import GhafDeviceManager.GatePass
import GhafDeviceManager.RoutingMemory

/-!
# The gate over devices VMs hold

The gate decides by persistent ids: from rules, remembered verdicts and marks. Attachments are
recorded by node. Where the two disagree, the gate probes what a guest has not claimed yet.
-/

namespace GhafDeviceManager

open Fallible UsbGate

structure World.Attached (w : World) (entry : UsbEntry) : Prop where
  present : entry ∈ w.bus.entries
  device : entry.isInterface = false
  recorded : w.recorded entry = true

def SparesAttached (w : World) (op : Op) : Prop :=
  ∀ entry, w.Attached entry → ∀ interface ∈ w.bus.interfaces entry.name, op ≠ .probe interface

def UsbBus.Bound (bus : UsbBus) (name : String) : Prop :=
  ∀ interface ∈ bus.interfaces name, (bus.driver interface).isSome = true

/-- The device is listed, matched by a rule or remembered as matched, and not marked. -/
def World.Reserves (w : World) (devices : List UsbDevice) (name : String) : Prop :=
  ∃ device ∈ devices, device.sysName = name ∧
    ((w.daemon.usbRule device).isSome ||
      (w.memory.usbRouting.lookup device.persistentId).getD false) = true ∧
    w.memory.persistent.disconnected device.persistentId = false

/-- The kernel plugs no device in, and takes no driver off an attached one but where it is told. -/
structure KeepsAttached (w : World) (op : Op) (w' : World) : Prop where
  lawful : w'.bus.Lawful
  attached : ∀ entry, w'.Attached entry → ∃ old, w.Attached old ∧ old.name = entry.name
  bound : ∀ entry, w.Attached entry → w.bus.Bound entry.name →
    (∀ target, op = .release target →
      Text.startsWith target (interfacePrefix entry.name) = false) → w'.bus.Bound entry.name

/-- What each step of a pass has to meet: where it routes, each attached device is reserved or has
nothing to probe, and writes do what the kernel says they do. -/
def reservesAttached (w : World) (op : Op) (c : Choice) : Prop :=
  match op with
  | .enter (.usbRouting devices) => ∀ entry, w.Attached entry →
    w.Reserves devices entry.name ∨ w.bus.Bound entry.name
  | .setAutoprobe _ | .authorize _ _ | .probe _ | .release _ => KeepsAttached w op (react w op c).2
  | _ => True

section Pass

variable {allowed : World → Op → Choice → Prop} {w w' : World} {d : Daemon}
  {routed names : List String} {name target : String} {op : Op}

theorem sparesAttached_of_ne (hop : ∀ target, op ≠ .probe target) : SparesAttached w op := by
  intro entry _ interface _
  exact hop interface

structure Unmoved (w w' : World) : Prop where
  daemon : w'.daemon = w.daemon
  bus : w'.bus = w.bus
  usbVms : w'.memory.usbVms = w.memory.usbVms

theorem Unmoved.attached (h : Unmoved w w') {entry : UsbEntry} (hw' : w'.Attached entry) :
    w.Attached entry := by
  refine ⟨h.bus ▸ hw'.present, hw'.device, ?_⟩
  have hrecorded := hw'.recorded
  unfold World.recorded at hrecorded ⊢
  rwa [h.usbVms] at hrecorded

/-- What holds on the walk: an attached device is in the routed set, or has nothing to probe. -/
structure Walking (d : Daemon) (routed : List String) (w : World) : Prop where
  daemon : w.daemon = d
  lawful : w.bus.Lawful
  settled : ∀ entry, w.Attached entry → entry.name ∈ routed ∨ w.bus.Bound entry.name

theorem Walking.unmoved (h : Walking d routed w) (hw' : Unmoved w w') : Walking d routed w' := by
  refine ⟨hw'.daemon.trans h.daemon, ?_, fun entry hentry => ?_⟩
  · rw [hw'.bus]
    exact h.lawful
  · rw [hw'.bus]
    exact h.settled entry (hw'.attached hentry)

theorem Walking.write (h : Walking d routed w) (hdaemon : w'.daemon = w.daemon)
    (hkeeps : KeepsAttached w op w')
    (hreleased : ∀ target, op = .release target → ∃ name ∈ routed, DeviceName name ∧
      Text.startsWith target (interfacePrefix name) = true) : Walking d routed w' := by
  refine ⟨hdaemon.trans h.daemon, hkeeps.lawful, fun entry hentry => ?_⟩
  obtain ⟨old, hold, hname⟩ := hkeeps.attached entry hentry
  rw [← hname]
  by_cases hrouted : old.name ∈ routed
  · exact .inl hrouted
  have hbound := (h.settled old hold).resolve_left hrouted
  refine .inr (hkeeps.bound old hold hbound fun target hop => ?_)
  obtain ⟨name, hmem, hdevice, hstart⟩ := hreleased target hop
  rw [Bool.eq_false_iff]
  intro hstart'
  have hsame := owner_unique (h.lawful.names old hold.present hold.device) hdevice hstart' hstart
  exact hrouted (hsame ▸ hmem)

variable (hsteps : ∀ w op c, allowed w op c → reservesAttached w op c)

include hsteps

theorem wp_settleInterface_spares (h : Walking d routed w) (hname : DeviceName name)
    (htarget : Text.startsWith target (interfacePrefix name) = true) :
    (settleInterface (routed.contains name) target).wp (machine allowed) SparesAttached
      (fun _ => Walking d routed) w := by
  rw [settleInterface, wp_bind, GhafDeviceManager.driver, wp_operation]
  refine ⟨sparesAttached_of_ne (by simp), fun _ _ => ?_⟩
  rw [react, andThen_ok]
  cases hrouted : routed.contains name <;> cases hdriver : w.bus.driver target
  case true.some bound =>
    dsimp only
    split
    case isFalse => exact h
    case isTrue =>
      rw [wp_warnOnError, GhafDeviceManager.release, wp_operation]
      refine ⟨sparesAttached_of_ne (by simp), fun c hc => h.write (react_daemon _ _ c)
        (hsteps w _ c hc) fun other hother => ⟨name, by simpa using hrouted, hname, ?_⟩⟩
      obtain rfl := Op.release.inj hother
      exact htarget
  case false.none =>
    dsimp only
    rw [wp_warnOnError, GhafDeviceManager.probe, wp_operation]
    refine ⟨fun entry hentry interface hinterface hprobes => ?_, fun c hc =>
      h.write (react_daemon _ _ c) (hsteps w _ c hc) (by simp)⟩
    obtain rfl := Op.probe.inj hprobes
    obtain hmem | hbound := h.settled entry hentry
    · have hdevice := h.lawful.names entry hentry.present hentry.device
      have hsame := owner_unique hname hdevice htarget (mem_interfaces hinterface)
      subst hsame
      simp [hmem] at hrouted
    · have hsome := hbound target hinterface
      rw [hdriver] at hsome
      cases hsome
  all_goals exact h

theorem wp_settleDevice_spares (h : Walking d routed w) (hname : DeviceName name) :
    (settleDevice routed name).wp (machine allowed) SparesAttached
      (fun _ => Walking d routed) w := by
  rw [settleDevice, wp_bind, wp_attempt, GhafDeviceManager.interfaces, wp_operation]
  refine ⟨sparesAttached_of_ne nofun, fun c _ => ?_⟩
  cases hfail : c.fail with
  | true => simpa [react, Choice.result, hfail] using h
  | false =>
      simp only [react, Choice.result, hfail, Bool.false_eq_true, if_false, id, andThen_ok]
      refine wp_forM (fun target htarget w' hw' => ?_) h
      exact wp_settleInterface_spares hsteps hw' hname (mem_interfaces htarget)

theorem wp_settleDrivers_spares (h : Walking d routed w) :
    (settleDrivers routed).wp (machine allowed) SparesAttached (fun _ _ => True) w := by
  rw [settleDrivers, wp_bind, enter, wp_operation]
  refine ⟨sparesAttached_of_ne (by simp), fun _ _ => ?_⟩
  rw [react, andThen_ok, wp_bind, deviceNames, wp_operation]
  refine ⟨sparesAttached_of_ne (by simp), fun c _ => ?_⟩
  have hentered : Walking d routed (w.record (.entered (.settleDrivers routed))) :=
    h.unmoved ⟨rfl, rfl, rfl⟩
  cases hfail : c.fail with
  | true => simp [react, Choice.result, hfail]
  | false =>
      simp only [react, Choice.result, hfail, Bool.false_eq_true, if_false, id, andThen_ok]
      refine wp_imp (wp_forM (fun name hname w' hw' => ?_) hentered) fun _ _ _ => trivial
      exact wp_settleDevice_spares hsteps hw' (h.lawful.deviceName hname)

/-- What precedes the walk probes devices only. -/
theorem harmless_beforeWalk (hop : op.Opens ∨ op.Authorizes true)
    (hprobe : ∀ target, op = .probe target → Text.contains target ':' = false) :
    Harmless allowed SparesAttached (fun w => w.daemon = d ∧ w.bus.Lawful) op := by
  rintro w ⟨hdaemon, hlawful⟩
  refine ⟨fun entry _ interface hinterface hprobes => ?_, fun c hc =>
    ⟨(react_daemon w op c).trans hdaemon, ?_⟩⟩
  · have hcolon := contains_of_startsWith (mem_interfaces hinterface)
    rw [hprobe interface hprobes] at hcolon
    cases hcolon
  · have hstep := hsteps w op c hc
    cases op with
    | setAutoprobe value => exact hstep.lawful
    | authorize name value => exact hstep.lawful
    | probe name => exact hstep.lawful
    | _ => first | exact hlawful | exact (hop.elim id id).elim

theorem wp_usbRouting_spares {devices : List UsbDevice} (hdaemon : w.daemon = d)
    (hlawful : w.bus.Lawful) :
    (usbRouting d devices).wp (machine allowed) SparesAttached
      (fun r w' => ∀ routed, r = .ok routed → Walking d routed w') w := by
  refine wp_usbRouting_of hdaemon ?_ (sparesAttached_of_ne nofun) fun c hc routed hrouted => ?_
  · rintro w op (hop | ⟨cache, rfl⟩)
    · refine sparesAttached_of_ne ?_
      rintro target rfl
      exact hop.elim
    · exact sparesAttached_of_ne nofun
  obtain rfl := Except.ok.inj hrouted
  have hreserved : ∀ entry, w.Attached entry →
      w.Reserves devices entry.name ∨ w.bus.Bound entry.name := hsteps w _ c hc
  have hwalking : Walking d (w.routedNames devices) w := by
    refine ⟨hdaemon, hlawful, fun entry hentry => (hreserved entry hentry).imp_left ?_⟩
    rintro ⟨device, hdevice, hname, hmatched, hunmarked⟩
    exact (mem_usbRoutingFold_snd devices _ _).2
      (.inr ⟨device, hdevice, hname, hmatched, hunmarked⟩)
  exact hwalking.unmoved ⟨rfl, rfl, rfl⟩

theorem wp_applyUsbGate_spares (hlawful : w.bus.Lawful) :
    (applyUsbGate w.daemon).wp (machine allowed) SparesAttached (fun _ _ => True) w := by
  refine wp_applyUsbGate_of (I := fun w' => w'.daemon = w.daemon ∧ w'.bus.Lawful)
    (fun op hop => ?_) (fun op hop => harmless_beforeWalk hsteps (.inl hop))
    (fun _ _ _ => trivial) (fun _ _ _ => trivial) (fun _ w₁ hw₁ => ?_) ⟨rfl, hlawful⟩
  · refine harmless_beforeWalk hsteps (.inr hop) ?_
    rintro target rfl
    exact hop.elim
  · rw [wp_bind]
    refine wp_imp (wp_usbRouting_spares hsteps hw₁.1 hw₁.2) fun r w₂ hw₂ => ?_
    cases r with
    | error e => trivial
    | ok routed => exact wp_settleDrivers_spares hsteps (hw₂ routed rfl)

end Pass

/-- Where each step of a pass meets the condition, no interface of a device recorded as attached is
probed, whatever the state the pass begins in. -/
theorem apply_usb_gate_spares_attached {allowed : World → Op → Choice → Prop}
    (hsteps : ∀ w op c, allowed w op c → reservesAttached w op c) {w w' : World}
    (hlawful : w.bus.Lawful) {tr : List (World × Op)} {o : Option (Except Error Unit)}
    (hexec : Exec (machine allowed) (applyUsbGate w.daemon).run w tr w' o) :
    ∀ e ∈ tr, SparesAttached e.1 e.2 :=
  (Program.wp_sound (wp_applyUsbGate_spares hsteps hlawful) hexec).1

/-! ## Twin keyboards -/

/-- Two keyboards of one model; the guest of the first has not claimed its interface. -/
def twinKeyboards : World :=
  { sharedKeyboard with
    bus := {
      autoprobe := some "0"
      entries := [{ keyboard "1-1" "4" with driver := some "/sys/bus/usb/drivers/usb" },
        { name := "1-1:1.0", files := [("bInterfaceClass", "03")] },
        { keyboard "1-2" "5" with driver := some "/sys/bus/usb/drivers/usb" }] } }

def detachTwin : Operation := .usbDetach { deviceNode := some "/dev/bus/usb/001/005" }

def firstTwinInGuest : World := twinKeyboards.perform onPortOne toGui

instance (bus : UsbBus) : Decidable bus.Lawful :=
  decidable_of_iff (_ ∧ _ ∧ _) ⟨fun ⟨h₁, h₂, h₃⟩ => ⟨h₁, h₂, h₃⟩, fun h => ⟨h.1, h.2, h.3⟩⟩

/-- The kernel does nothing of its own, and what is attached is reserved. -/
def quietlyReserved (w : World) (op : Op) (c : Choice) : Prop :=
  w.bus.Lawful ∧ match op with
    | .enter (.usbRouting devices) => ∀ entry ∈ w.bus.entries, entry.isInterface = false →
      w.recorded entry = true → w.Reserves devices entry.name
    | .release _ | .authorize _ _ => False
    | _ => c.bus.isNone = true

instance (w : World) (op : Op) (c : Choice) : Decidable (quietlyReserved w op c) := by
  unfold quietlyReserved World.Reserves
  refine @instDecidableAnd _ _ inferInstance ?_
  split <;> infer_instance

theorem reservesAttached_of_quietlyReserved {w : World} {op : Op} {c : Choice}
    (h : quietlyReserved w op c) : reservesAttached w op c := by
  obtain ⟨hlawful, hop⟩ := h
  have hkeeps : ∀ bus effect, bus.entries = w.bus.entries →
      KeepsAttached w op ({ w with bus := bus }.record effect) := by
    rintro ⟨autoprobe, _, hostStorage⟩ effect rfl
    exact ⟨⟨hlawful.distinct, hlawful.names, hlawful.owned⟩,
      fun entry h => ⟨entry, ⟨h.present, h.device, h.recorded⟩, rfl⟩, fun _ _ hbound _ => hbound⟩
  cases op with
  | enter entry =>
      cases entry with
      | usbRouting devices =>
          exact fun entry hentry => .inl (hop entry hentry.present hentry.device hentry.recorded)
      | _ => trivial
  | setAutoprobe value =>
      refine hkeeps _ _ ?_
      rw [Option.isNone_iff_eq_none.1 hop]
      cases c.fail <;> rfl
  | probe name =>
      refine hkeeps _ _ ?_
      rw [Option.isNone_iff_eq_none.1 hop]
      cases c.fail <;> rfl
  | release name => exact hop.elim
  | authorize name value => exact hop.elim
  | _ => trivial

/-- The pass after the attach leaves both keyboards alone. -/
theorem apply_usb_gate_spares_attached_twins : ∃ tr w',
    Exec (machine quietlyReserved) (applyUsbGate firstTwinInGuest.daemon).run firstTwinInGuest tr w'
      (some (.ok ())) ∧ (∃ entry, firstTwinInGuest.Attached entry) ∧
    ∀ e ∈ tr, SparesAttached e.1 e.2 := by
  have hquiet : ∀ e ∈ ((applyUsbGate firstTwinInGuest.daemon).run.follow react (fun _ _ => {})
      firstTwinInGuest).1, quietlyReserved e.1 e.2 {} := by decide +kernel
  have hok : ((applyUsbGate firstTwinInGuest.daemon).run.follow react (fun _ _ => {})
      firstTwinInGuest).2.2.toBool = true := by decide +kernel
  have hattached : ∃ entry ∈ firstTwinInGuest.bus.entries, entry.isInterface = false ∧
      firstTwinInGuest.recorded entry = true := by decide +kernel
  obtain ⟨entry, hentry, hdevice, hrecorded⟩ := hattached
  have hexec := exec_ok hquiet hok
  exact ⟨_, _, hexec, ⟨entry, hentry, hdevice, hrecorded⟩,
    apply_usb_gate_spares_attached (fun _ _ _ => reservesAttached_of_quietlyReserved)
      (by decide +kernel) hexec⟩

/-- The second keyboard is detached for good, which marks the first one too: its interface is
probed while it is attached. -/
theorem apply_usb_gate_probes_attached : ¬∀ w, Reachable savesSucceed w → w.bus.Lawful →
    ∀ tr w' o, Exec (machine (settled true)) (applyUsbGate w.daemon).run w tr w' o →
      ∀ e ∈ tr, SparesAttached e.1 e.2 := by
  intro hclaim
  let w := firstTwinInGuest.perform (fun _ _ => {}) detachTwin
  have hattach : ∀ e ∈ twinKeyboards.trace onPortOne toGui,
      savesSucceed e.1 e.2 (onPortOne e.1 e.2) := by decide +kernel
  have hdetach : ∀ e ∈ firstTwinInGuest.trace (fun _ _ => {}) detachTwin,
      savesSucceed e.1 e.2 {} := by decide +kernel
  have hinitial : Reachable savesSucceed twinKeyboards := .initial (by decide) rfl rfl rfl
  have hreachable : Reachable savesSucceed w :=
    (hinitial.perform onPortOne toGui hattach).perform _ detachTwin hdetach
  have hprobed : ∃ e ∈ ((applyUsbGate w.daemon).run.follow react (fun _ _ => {}) w).1,
      e.2.probed = some "1-1:1.0" ∧ ∃ entry ∈ e.1.bus.entries, entry.isInterface = false ∧
        e.1.recorded entry = true ∧ "1-1:1.0" ∈ e.1.bus.interfaces entry.name := by decide +kernel
  have hsettled : ∀ e ∈ ((applyUsbGate w.daemon).run.follow react (fun _ _ => {}) w).1,
      settled true e.1 e.2 {} := by
    rintro ⟨w', op⟩ _
    cases op <;> rfl
  have hexec := Program.follow_exec (applyUsbGate w.daemon).run w hsettled
  obtain ⟨⟨w', op⟩, he, hop, entry, hentry, hdevice, hrecorded, hinterface⟩ := hprobed
  refine hclaim w hreachable (by decide +kernel) _ _ _ hexec _ he entry
    ⟨hentry, hdevice, hrecorded⟩ _ hinterface ?_
  cases op with
  | probe target => exact congrArg Op.probe (Option.some.inj hop)
  | _ => cases hop

end GhafDeviceManager
