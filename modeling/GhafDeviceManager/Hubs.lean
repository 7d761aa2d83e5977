import GhafDeviceManager.HeldInterfaces
import GhafDeviceManager.Isolation

/-!
# Hubs

What a device is called a hub for is its class. Whether the gate and an attach leave it alone goes
by the driver on its interfaces, and for a hub a rule routes the gate decides whether there is one.
-/

namespace GhafDeviceManager

open Fallible UsbGate

def World.handled (w : World) : List UsbDevice :=
  (w.log.findSome? fun
    | .entered (.attachOneUsb device _ _) => some [device]
    | .entered (.usbRouting devices) => some devices
    | _ => none).getD []

/-- No hub among them is given to a VM, and none loses a driver. -/
def SparesHubs (w : World) : Op → Prop
  | .usbAttach _ node => ∀ hub ∈ w.handled, hub.isHub = true → hub.deviceNode ≠ some node
  | .release target => ∀ hub ∈ w.handled, hub.isHub = true →
    Text.startsWith target (interfacePrefix hub.sysName) = false
  | _ => True

def World.Tried (w₀ w : World) (name : String) : Prop :=
  ∃ ok, Since w₀ w (.probed name ok)

/-- Since `w₀`, every interface of the hubs in hand has got a driver or been probed for one. -/
def World.ProbesHubs (w₀ w : World) : Prop :=
  ∀ hub ∈ w.handled, hub.isHub = true → ∀ interface ∈ w.bus.interfaces hub.sysName,
    w.bus.driver interface = none → w₀.Tried w interface

/-- The first driver among the device's interfaces, past those VMs have claimed. -/
def World.firstDriver (w : World) (name : String) : Option String :=
  (w.bus.interfaces name).findSome? fun interface => (w.bus.driver interface).filter (· != claim)

/-- The device is configured, and an attach meets the hub driver first. -/
structure World.Driven (w : World) (name : String) : Prop where
  configured : (w.bus.driver name).isSome = true
  first : w.firstDriver name = some UsbGate.hub

/-- An attach call gets as far as the device's interfaces, if its commands succeed. -/
def World.Proceeds (w : World) (device : UsbDevice) (rule : RuleMatch)
    (requestedVm : Option String) : Prop :=
  device.deviceNode.isSome = true ∧ ∃ vmName vm, w.chosen device rule requestedVm = some vmName ∧
    vmName ∈ allowedVms rule ∧ w.daemon.vm vmName = some vm ∧
    (w.daemon.config.usbAuthorization.enabled = true → (w.sockets vm.socket).isSome = true)

/-- Every interface of the device is the hub driver's or a VM's. -/
def World.HubBound (w : World) (name : String) : Prop :=
  ∀ interface ∈ w.bus.interfaces name, ∃ driver ∈ w.bus.driver interface,
    releasable driver = false

/-- The hubs in hand get no new interface, and lose no driver but where told. -/
def KeepsHubs (w : World) (op : Op) (w' : World) : Prop :=
  ∀ hub ∈ w.handled, hub.isHub = true → ∀ interface ∈ w'.bus.interfaces hub.sysName,
    interface ∈ w.bus.interfaces hub.sysName ∧ (op ≠ .release interface →
      ∀ driver, w.bus.driver interface = some driver → w'.bus.driver interface = some driver)

/-- What each step has to meet: a hub that is routed has its driver on every interface, one that is
attached meets it first, its interfaces can be listed, and writes that name an interface do no
more to hubs than they say. -/
def hubsDriven (w : World) (op : Op) (c : Choice) : Prop :=
  match op with
  | .enter (.attachOneUsb device rule requestedVm) => device.isHub = true →
    w.Proceeds device rule requestedVm → w.Driven device.sysName
  | .enter (.usbRouting devices) => w.bus.Lawful ∧ ∀ hub ∈ devices, hub.isHub = true →
    DeviceName hub.sysName ∧ (w.Reserves devices hub.sysName → w.HubBound hub.sysName)
  | .interfaces name => ∀ hub ∈ w.handled, hub.isHub = true → hub.sysName = name → c.fail = false
  | .probe target | .release target => Text.contains target ':' = true →
    KeepsHubs w op (react w op c).2
  | _ => True

section Steps

variable {w : World} {op : Op} {c : Choice}

def Op.Takes : Op → Prop
  | .usbAttach _ _ | .release _ => True
  | _ => False

theorem sparesHubs_of_not_takes (h : ¬op.Takes) : SparesHubs w op := by
  cases op with
  | usbAttach vm node => exact absurd trivial h
  | release target => exact absurd trivial h
  | _ => trivial

theorem not_takes_of_observes (h : op.Observes) : ¬op.Takes := by
  cases op <;> first | exact id | exact h.elim

theorem handled_react (hop : ∀ entry, op = .enter entry →
    (∀ device rule vm, entry ≠ .attachOneUsb device rule vm) ∧
      ∀ devices, entry ≠ .usbRouting devices) : (react w op c).2.handled = w.handled := by
  obtain hlog | ⟨effect, hlog, hof⟩ := react_log w op c
  · rw [World.handled, hlog, World.handled]
  · rw [World.handled, hlog, World.handled, List.findSome?_cons]
    cases effect with
    | entered entry =>
        obtain ⟨hattach, hrouting⟩ := hop entry hof
        cases entry with
        | attachOneUsb device rule vm => exact absurd rfl (hattach device rule vm)
        | usbRouting devices => exact absurd rfl (hrouting devices)
        | _ => rfl
    | _ => rfl

theorem World.Tried.react {w₀ : World} {name : String} (h : w₀.Tried w name) :
    w₀.Tried (react w op c).2 name := by
  obtain ⟨ok, hsince⟩ := h
  exact ⟨ok, hsince.later (log_suffix_react w op c)⟩

theorem mem_interfaces_of_driver {bus : UsbBus} {name target : String}
    (hstart : Text.startsWith target (interfacePrefix name) = true)
    (hdriver : (bus.driver target).isSome = true) : target ∈ bus.interfaces name := by
  rw [UsbBus.interfaces, mem_sortNames, List.mem_filter]
  refine ⟨?_, hstart⟩
  cases hentry : bus.entry target with
  | none => simp [UsbBus.driver, hentry] at hdriver
  | some entry =>
      rw [List.mem_map]
      refine ⟨entry, List.mem_of_find?_eq_some hentry, ?_⟩
      simpa using List.find?_some hentry

end Steps

/-! ## The walk -/

section Walk

variable {allowed : World → Op → Choice → Prop} {w₀ w w' : World} {d : Daemon}
  {devices : List UsbDevice} {routed : List String} {pending pending' : String → Prop}
  {name target : String} {op : Op}

/-- What holds on the walk of the hubs in hand: the routed ones have the hub driver everywhere, and
what is not pending any more has a driver or was tried. -/
structure HubWalk (w₀ : World) (devices : List UsbDevice) (routed : List String)
    (pending : String → Prop) (w : World) : Prop where
  handled : w.handled = devices
  names : ∀ hub ∈ devices, hub.isHub = true → DeviceName hub.sysName
  logged : w₀.log <:+ w.log
  reserved : ∀ hub ∈ devices, hub.isHub = true → hub.sysName ∈ routed → w.HubBound hub.sysName
  dealt : ∀ hub ∈ devices, hub.isHub = true → ∀ interface ∈ w.bus.interfaces hub.sysName,
    pending interface ∨ (w.bus.driver interface).isSome = true ∨ w₀.Tried w interface

theorem HubWalk.mono (h : HubWalk w₀ devices routed pending w)
    (hpending : ∀ hub ∈ devices, hub.isHub = true → ∀ interface ∈ w.bus.interfaces hub.sysName,
      pending interface →
        pending' interface ∨ (w.bus.driver interface).isSome = true ∨ w₀.Tried w interface) :
    HubWalk w₀ devices routed pending' w := by
  refine ⟨h.handled, h.names, h.logged, h.reserved, fun hub hhub hclass interface hinterface => ?_⟩
  obtain hpend | hdealt := h.dealt hub hhub hclass interface hinterface
  · exact hpending hub hhub hclass interface hinterface hpend
  · exact .inr hdealt

theorem HubWalk.write {c : Choice} (h : HubWalk w₀ devices routed pending w)
    (hkeeps : KeepsHubs w op (react w op c).2) (hspares : SparesHubs w op)
    (hop : ∀ entry, op ≠ .enter entry) : HubWalk w₀ devices routed pending (react w op c).2 := by
  have hhandled : (react w op c).2.handled = w.handled :=
    handled_react fun entry hentry => absurd hentry (hop entry)
  have hkept : ∀ hub ∈ devices, hub.isHub = true →
      ∀ interface ∈ (react w op c).2.bus.interfaces hub.sysName,
        interface ∈ w.bus.interfaces hub.sysName ∧ ∀ driver,
          w.bus.driver interface = some driver →
            (react w op c).2.bus.driver interface = some driver := by
    intro hub hhub hclass interface hinterface
    rw [← h.handled] at hhub
    obtain ⟨hbefore, hdriver⟩ := hkeeps hub hhub hclass interface hinterface
    refine ⟨hbefore, hdriver ?_⟩
    rintro rfl
    have hno := hspares hub hhub hclass
    rw [mem_interfaces hbefore] at hno
    cases hno
  refine ⟨hhandled.trans h.handled, h.names, h.logged.trans (log_suffix_react w op c), ?_, ?_⟩
  · intro hub hhub hclass hrouted interface hinterface
    obtain ⟨hbefore, hdriver⟩ := hkept hub hhub hclass interface hinterface
    obtain ⟨driver, hbound, hreleasable⟩ := h.reserved hub hhub hclass hrouted interface hbefore
    exact ⟨driver, hdriver driver hbound, hreleasable⟩
  · intro hub hhub hclass interface hinterface
    obtain ⟨hbefore, hdriver⟩ := hkept hub hhub hclass interface hinterface
    obtain hpend | hbound | htried := h.dealt hub hhub hclass interface hbefore
    · exact .inl hpend
    · obtain ⟨driver, hsome⟩ := Option.isSome_iff_exists.1 hbound
      exact .inr (.inl (by rw [hdriver driver hsome, Option.isSome_some]))
    · exact .inr (.inr htried.react)

variable (hsteps : ∀ w op c, allowed w op c → hubsDriven w op c)

include hsteps

theorem wp_settleInterface_hubs
    (h : HubWalk w₀ devices routed (fun interface => interface = target ∨ pending interface) w)
    (hname : DeviceName name)
    (htarget : Text.startsWith target (interfacePrefix name) = true) :
    (settleInterface (routed.contains name) target).wp (machine allowed) SparesHubs
      (fun _ => HubWalk w₀ devices routed pending) w := by
  have howner : ∀ hub ∈ devices, hub.isHub = true →
      Text.startsWith target (interfacePrefix hub.sysName) = true → hub.sysName = name :=
    fun hub hhub hclass hstart => owner_unique (h.names hub hhub hclass) hname hstart htarget
  have hcolon : Text.contains target ':' = true := contains_of_startsWith htarget
  rw [settleInterface, wp_bind, GhafDeviceManager.driver, wp_operation]
  refine ⟨trivial, fun _ _ => ?_⟩
  rw [react, andThen_ok]
  cases hrouted : routed.contains name <;> cases hdriver : w.bus.driver target
  case true.some bound =>
    have hmem : name ∈ routed := by simpa using hrouted
    have hbound : (w.bus.driver target).isSome = true := by rw [hdriver, Option.isSome_some]
    dsimp only
    split
    case isFalse =>
      refine h.mono fun hub _ _ interface _ hpend => ?_
      rcases hpend with rfl | hpend
      · exact .inr (.inl hbound)
      · exact .inl hpend
    case isTrue hreleasable =>
      have hspares : SparesHubs w (.release target) := by
        intro hub hhub hclass
        rw [h.handled] at hhub
        rw [Bool.eq_false_iff]
        intro hstart
        have hsame := howner hub hhub hclass hstart
        have hinterface := mem_interfaces_of_driver hstart hbound
        obtain ⟨driver, hsome, hkept⟩ :=
          h.reserved hub hhub hclass (hsame ▸ hmem) target hinterface
        obtain rfl := Option.some.inj (hdriver.symm.trans hsome)
        rw [hreleasable] at hkept
        cases hkept
      rw [wp_warnOnError, GhafDeviceManager.release, wp_operation]
      refine ⟨hspares, fun c hc => (h.write (hsteps w _ c hc hcolon) hspares (by simp)).mono
        fun hub hhub hclass interface hinterface hpend => ?_⟩
      rcases hpend with rfl | hpend
      · have hno := hspares hub (h.handled.symm ▸ hhub) hclass
        rw [mem_interfaces hinterface] at hno
        cases hno
      · exact .inl hpend
  case true.none =>
    refine h.mono fun hub hhub hclass interface hinterface hpend => ?_
    rcases hpend with rfl | hpend
    · have hmem : name ∈ routed := by simpa using hrouted
      have hsame := howner hub hhub hclass (mem_interfaces hinterface)
      obtain ⟨driver, hsome, -⟩ := h.reserved hub hhub hclass (hsame ▸ hmem) _ hinterface
      rw [hdriver] at hsome
      cases hsome
    · exact .inl hpend
  case false.some bound =>
    refine h.mono fun hub _ _ interface _ hpend => ?_
    rcases hpend with rfl | hpend
    · exact .inr (.inl (by rw [hdriver, Option.isSome_some]))
    · exact .inl hpend
  case false.none =>
    dsimp only
    rw [wp_warnOnError, GhafDeviceManager.probe, wp_operation]
    refine ⟨trivial, fun c hc => (h.write (hsteps w _ c hc hcolon) trivial (by simp)).mono
      fun hub _ _ interface _ hpend => ?_⟩
    rcases hpend with rfl | hpend
    · exact .inr (.inr ⟨!c.fail, since_record h.logged⟩)
    · exact .inl hpend

/-- The names still to walk leave these interfaces pending. -/
def Ahead (names : List String) (interface : String) : Prop :=
  ∃ name ∈ names, Text.startsWith interface (interfacePrefix name) = true

theorem wp_settleDevice_hubs {rest : List String}
    (h : HubWalk w₀ devices routed (Ahead (name :: rest)) w) (hname : DeviceName name) :
    (settleDevice routed name).wp (machine allowed) SparesHubs
      (fun r w' => r = .ok () → HubWalk w₀ devices routed (Ahead rest) w') w := by
  have hahead : ∀ interface, Ahead (name :: rest) interface →
      Text.startsWith interface (interfacePrefix name) = true ∨ Ahead rest interface := by
    rintro interface ⟨other, hother, hstart⟩
    obtain rfl | hrest := List.mem_cons.1 hother
    · exact .inl hstart
    · exact .inr ⟨other, hrest, hstart⟩
  rw [settleDevice, wp_bind, wp_attempt, GhafDeviceManager.interfaces, wp_operation]
  refine ⟨trivial, fun c hc => ?_⟩
  cases hfail : c.fail with
  | true =>
      -- the listing of a hub does not fail, so nothing of a hub was pending here
      simp only [react, Choice.result, hfail, if_true, id, andThen_ok, wp_pure]
      intro _
      refine h.mono fun hub hhub hclass interface hinterface hpend => ?_
      obtain hstart | hrest := hahead interface hpend
      · have hsame := owner_unique (h.names hub hhub hclass) hname
          (mem_interfaces hinterface) hstart
        have hlists := hsteps w _ c hc hub (h.handled.symm ▸ hhub) hclass hsame
        rw [hfail] at hlists
        cases hlists
      · exact .inl hrest
  | false =>
      simp only [react, Choice.result, hfail, Bool.false_eq_true, if_false, id, andThen_ok]
      have hwalk : HubWalk w₀ devices routed
          (fun interface => interface ∈ w.bus.interfaces name ∨ Ahead rest interface) w := by
        refine h.mono fun hub _ _ interface hinterface hpend => ?_
        obtain hstart | hrest := hahead interface hpend
        · rw [UsbBus.interfaces, mem_sortNames, List.mem_filter] at hinterface ⊢
          exact .inl (.inl ⟨hinterface.1, hstart⟩)
        · exact .inl (.inr hrest)
      refine wp_imp (wp_forM_rest (I := fun targets w' =>
        (∀ target ∈ targets, Text.startsWith target (interfacePrefix name) = true) ∧
          HubWalk w₀ devices routed
            (fun interface => interface ∈ targets ∨ Ahead rest interface) w')
        (fun target targets w₁ hw₁ => ?_) ⟨fun target => mem_interfaces, hwalk⟩) ?_
      · obtain ⟨hbegins, hwalk₁⟩ := hw₁
        have hnext : HubWalk w₀ devices routed (fun interface => interface = target ∨
            (interface ∈ targets ∨ Ahead rest interface)) w₁ := by
          refine hwalk₁.mono fun _ _ _ interface _ hpend => .inl ?_
          simpa only [List.mem_cons, or_assoc] using hpend
        refine wp_imp (wp_settleInterface_hubs hsteps hnext hname
          (hbegins target List.mem_cons_self)) fun r w₂ hw₂ _ => ⟨?_, hw₂⟩
        exact fun other hother => hbegins other (List.mem_cons_of_mem target hother)
      · intro r w' hw' hr
        refine (hw' hr).2.mono fun _ _ _ interface _ hpend => .inl ?_
        simpa using hpend

theorem wp_settleDrivers_hubs (hlawful : w.bus.Lawful) (hscan : devices = w.usbDevices)
    (h : HubWalk w₀ devices routed (fun _ => True) w) :
    (settleDrivers routed).wp (machine allowed) SparesHubs
      (fun r w' => r = .ok () → w₀.ProbesHubs w') w := by
  rw [settleDrivers, wp_bind, enter, wp_operation]
  refine ⟨trivial, fun _ _ => ?_⟩
  rw [react, andThen_ok, wp_bind, deviceNames, wp_operation]
  refine ⟨trivial, fun c _ => ?_⟩
  cases hfail : c.fail with
  | true => simp [react, Choice.result, hfail]
  | false =>
      simp only [react, Choice.result, hfail, Bool.false_eq_true, if_false, id, andThen_ok]
      have hwalk : HubWalk w₀ devices routed (Ahead w.bus.deviceNames)
          (w.record (.entered (.settleDrivers routed))) := by
        refine ⟨h.handled, h.names, h.logged.trans (List.suffix_cons _ _), h.reserved,
          fun hub hhub hclass interface hinterface => ?_⟩
        obtain ⟨entry, hentry, -, rfl⟩ := mem_scanUsb.1 (hscan ▸ hhub)
        have hcolon : entry.isInterface = false := by
          have hno := (h.names _ hhub hclass).1
          simpa [UsbEntry.isInterface, Text.contains] using hno
        exact .inl ⟨entry.name, mem_deviceNames.2 ⟨entry, hentry, hcolon, rfl⟩,
          mem_interfaces hinterface⟩
      refine wp_imp (wp_forM_rest (I := fun names w' => (∀ name ∈ names, DeviceName name) ∧
        HubWalk w₀ devices routed (Ahead names) w') (fun name names w₁ hw₁ => ?_)
        ⟨fun name => hlawful.deviceName, hwalk⟩) ?_
      · obtain ⟨hnames, hwalk₁⟩ := hw₁
        refine wp_imp (wp_settleDevice_hubs hsteps hwalk₁ (hnames name List.mem_cons_self))
          fun r w₂ hw₂ hr => ⟨?_, hw₂ hr⟩
        exact fun other hother => hnames other (List.mem_cons_of_mem name hother)
      · intro r w' hw' hr hub hhub hclass interface hinterface hnone
        have hend := (hw' hr).2
        rw [hend.handled] at hhub
        obtain ⟨_, hmem, -⟩ | hbound | htried := hend.dealt hub hhub hclass interface hinterface
        · cases hmem
        · rw [hnone] at hbound
          cases hbound
        · exact htried

/-- A pass of the gate spares hubs and, where it came to its end, leaves none of them unprobed. -/
theorem wp_applyUsbGate_hubs : (applyUsbGate w.daemon).wp (machine allowed) SparesHubs
    (fun r w' => r = .ok () → w.bus.autoprobe.isSome = true → w.daemon.routesUsb = true →
      w.ProbesHubs w') w := by
  have hquiet : ∀ op : Op, ¬op.Takes → Harmless allowed SparesHubs (fun w' =>
      w'.daemon = w.daemon ∧ w.log <:+ w'.log) op := by
    rintro op hop w' ⟨hdaemon, hlog⟩
    exact ⟨sparesHubs_of_not_takes hop, fun c _ =>
      ⟨(react_daemon w' op c).trans hdaemon, hlog.trans (log_suffix_react w' op c)⟩⟩
  refine wp_applyUsbGate_of (fun op hop => hquiet op ?_) (fun op hop _ => hquiet op ?_)
    (fun _ _ _ => nofun) (fun hidle _ _ _ hbus hroutes => absurd ⟨hbus, hroutes⟩ hidle)
    (fun _ w₁ hw₁ => ?_) ⟨rfl, List.suffix_rfl⟩
  · cases op <;> first | exact id | exact hop.elim
  · cases op <;> first | exact id | exact hop.elim
  obtain ⟨hdaemon, hlog⟩ := hw₁
  rw [wp_bind]
  refine wp_usbRouting_of hdaemon ?_ trivial fun c hc => ?_
  · rintro w' op (hop | ⟨cache, rfl⟩)
    · exact sparesHubs_of_not_takes (not_takes_of_observes hop)
    · trivial
  obtain ⟨hlawful, hhubs⟩ := hsteps w₁ _ c hc
  refine wp_imp (wp_settleDrivers_hubs hsteps hlawful rfl ⟨rfl, fun hub hhub hclass =>
    (hhubs hub hhub hclass).1, hlog.trans (List.suffix_cons _ _), ?_,
    fun _ _ _ _ _ => .inl trivial⟩)
    fun r w' hw' hr _ _ => hw' hr
  intro hub hhub hclass hrouted
  refine (hhubs hub hhub hclass).2 ?_
  obtain hnil | ⟨device, hdevice, hname, hmatched, hunmarked⟩ :=
    (mem_usbRoutingFold_snd w₁.usbDevices _ _).1 hrouted
  · cases hnil
  · exact ⟨device, hdevice, hname, hmatched, hunmarked⟩

end Walk

/-! ## The attach -/

section Attach

variable {allowed : World → Op → Choice → Prop} {w : World} {d : Daemon} {device : UsbDevice}

/-- Sysfs stays as it is, whatever the answer. -/
def Op.LeavesBus (op : Op) : Prop :=
  (∀ w, SparesHubs w op) ∧ ∀ w c, (react w op c).2.bus = w.bus

theorem leavesBus_of_observes {op : Op} (h : op.Observes) : op.LeavesBus := by
  refine ⟨fun w => sparesHubs_of_not_takes (not_takes_of_observes h), fun w c => ?_⟩
  obtain heq | ⟨n, heq⟩ := react_observes h w c
  · rw [heq]
  · rw [heq]
    rfl

theorem calls_handOver_hub (hclass : device.isHub = true) (current : Option String)
    (vmName : String) : Calls Op.LeavesBus (handOver d device current vmName) := by
  have hdetach : Calls Op.LeavesBus (detachOneUsb d device false) := by
    refine calls_detachOneUsb_of ⟨fun _ => trivial, fun _ _ => rfl⟩ (fun _ => leavesBus_of_observes)
      (fun _ _ => ⟨fun _ => trivial, fun _ _ => rfl⟩) fun node _ => ?_
    have hforgets : ∀ op : Op, op.Forgets device node false →
        (∀ name value, op ≠ .authorize name value) → op.LeavesBus := by
      intro op hop hne
      cases op with
      | update u =>
          refine ⟨fun _ => trivial, fun _ _ => ?_⟩
          cases u <;> rfl
      | save => exact ⟨fun _ => trivial, fun _ _ => rfl⟩
      | authorize name value => exact absurd rfl (hne name value)
      | _ => exact leavesBus_of_observes hop
    refine calls_forgetUsb_of hforgets ?_
    -- a hub stays authorized
    unfold deauthorizeDetached
    rw [hclass, Bool.not_true, Bool.and_false]
    trivial
  cases current with
  | none => trivial
  | some other => exact calls_ite hdetach (by trivial)

/-- Where the hub driver comes first, nothing is released. -/
theorem wp_releaseHostDrivers_hub {names : List String}
    (hfirst : (names.findSome? fun interface =>
      (w.bus.driver interface).filter (· != claim)) = some UsbGate.hub) :
    (releaseHostDrivers device names).wp (machine allowed) SparesHubs
      (fun r _ => r = .ok true) w := by
  induction names with
  | nil => cases hfirst
  | cons interface rest ih =>
      rw [List.findSome?_cons] at hfirst
      rw [releaseHostDrivers, wp_bind, GhafDeviceManager.driver, wp_operation]
      refine ⟨trivial, fun _ _ => ?_⟩
      rw [react, andThen_ok]
      cases hdriver : w.bus.driver interface with
      | none =>
          rw [hdriver] at hfirst
          exact ih hfirst
      | some driver =>
          rw [hdriver] at hfirst
          by_cases hclaim : driver = claim
          · subst hclaim
            have hne : (claim == UsbGate.hub) = false := by decide
            simp only [hne, bne_self_eq_false, Bool.false_eq_true, if_false]
            simp only [Option.filter, bne_self_eq_false, Bool.false_eq_true, if_false] at hfirst
            exact ih hfirst
          · have hkept : (some driver).filter (· != claim) = some driver := by simp [hclaim]
            rw [hkept] at hfirst
            obtain rfl := Option.some.inj hfirst
            simp only [beq_self_eq_true, if_true]
            rw [wp_bind, insertReported, update, wp_operation]
            exact ⟨trivial, fun _ _ => rfl⟩

theorem wp_claimUsb_hub {vm : Vm} {node : String} {seen : Option (String × List LivePort)}
    (hdriven : w.Driven device.sysName) :
    (claimUsb device vm node seen).wp (machine allowed) SparesHubs
      (fun r _ => ∀ claim, r ≠ .ok (some claim)) w := by
  have hconfigured : (w.bus.driver device.sysName).isNone = false := by
    rw [Option.isNone_eq_false_iff]
    exact hdriven.configured
  have hclaims : Fallible.wp (machine allowed) SparesHubs (do
      let names ← withContext ("cannot claim " ++ device.sysName) (interfaces device.sysName)
      if ← releaseHostDrivers device names then return none
      return some (← claimPort device vm node seen))
      (fun r _ => ∀ claim, r ≠ .ok (some claim)) w := by
    rw [wp_bind, wp_withContext, interfaces, wp_operation]
    refine ⟨trivial, fun c _ => ?_⟩
    cases hfail : c.fail with
    | true => simp [react, Choice.result, hfail, Except.mapError]
    | false =>
        simp only [react, Choice.result, hfail, Bool.false_eq_true, if_false, id, Except.mapError,
          andThen_ok]
        rw [wp_bind]
        refine wp_imp (wp_releaseHostDrivers_hub hdriven.first) ?_
        rintro _ w' rfl
        simp
  rw [claimUsb, wp_bind, configureUsb, wp_bind, usbBus, wp_operation]
  refine ⟨trivial, fun _ _ => ?_⟩
  rw [react, andThen_ok]
  split
  · rw [wp_bind, driver, wp_operation]
    refine ⟨trivial, fun _ _ => ?_⟩
    rw [react, andThen_ok, hconfigured, if_neg Bool.false_ne_true]
    exact hclaims
  · exact hclaims

theorem wp_attachAuthorized_hub {vm : Vm} {node : String} {current : Option String}
    {seen : Option (String × List LivePort)} (hclass : device.isHub = true)
    (hdriven : w.Driven device.sysName) :
    (attachAuthorized d device vm node current seen).wp (machine allowed) SparesHubs
      (fun _ _ => True) w := by
  have hguard : usbAuthorizationGuard d device = pure false := by
    unfold usbAuthorizationGuard
    rw [hclass, Bool.not_true, Bool.and_false, if_neg Bool.false_ne_true]
  rw [attachAuthorized, hguard, pure_bind, wp_bind, wp_attempt]
  refine wp_imp (wp_claimUsb_hub hdriven) fun r w' hr => ?_
  rw [andThen_ok]
  match r with
  | .error e => simp [rollback]
  | .ok none => simp [rollback]
  | .ok (some claim) => exact absurd rfl (hr claim)

variable (hsteps : ∀ w op c, allowed w op c → hubsDriven w op c)

include hsteps

/-- An attach call spares hubs: one that is a hub itself ends at its first interface. -/
theorem wp_attachOneUsb_hubs {rule : RuleMatch} {requestedVm : Option String} :
    (attachOneUsb w.daemon device rule requestedVm).wp (machine allowed) SparesHubs
      (fun _ _ => True) w := by
  have hhandled : (w.called device rule requestedVm).handled = [device] := rfl
  cases hclass : device.isHub with
  | false =>
      have hcalls : ∀ {p : Act Unit}, Calls (Op.Assigns device) p →
          wp (machine allowed) SparesHubs p (fun _ _ => True)
            (w.called device rule requestedVm) := by
        intro p hp
        refine wp_imp (wp_of_calls (I := fun w' => w'.handled = [device]) hp ?_ ?_ hhandled)
          fun _ _ _ => trivial
        · rintro w₁ _ rfl h
          exact h
        · rintro op hop w₁ hw₁
          have hnone : ∀ hub ∈ w₁.handled, hub.isHub = true → False := by
            intro hub hhub hhubClass
            rw [hw₁, List.mem_singleton] at hhub
            rw [hhub, hclass] at hhubClass
            cases hhubClass
          refine ⟨?_, ?_⟩
          · cases op with
            | usbAttach vm node => exact fun hub hhub hc => (hnone hub hhub hc).elim
            | release target => exact fun hub hhub hc => (hnone hub hhub hc).elim
            | _ => trivial
          · rintro r w₂ ⟨c, _, hreact⟩
            obtain rfl : (react w₁ op c).2 = w₂ := congrArg Prod.snd hreact
            refine (handled_react ?_).trans hw₁
            rintro entry rfl
            obtain rfl : entry = .detachOneUsb device false := hop
            exact ⟨by simp, by simp⟩
      refine wp_attachOneUsb trivial (fun op hop => (leavesBus_of_observes hop).1 _) (fun _ => ?_)
        fun _ _ vmName _ => hcalls (calls_attachUsbTo w.daemon device rule vmName)
      exact hcalls (calls_pending device rule (fun op => assigns_of_observes) rfl)
  | true =>
      refine wp_attachOneUsb trivial (fun op hop => (leavesBus_of_observes hop).1 _) (fun _ => ?_)
        fun c hc vmName hchosen => ?_
      · refine wp_of_footprint (S := Op.LeavesBus) (calls_pending device rule
          (fun op => leavesBus_of_observes) ⟨fun _ => trivial, fun _ _ => rfl⟩)
          (fun op hop => hop.1) _
      refine wp_attachUsbTo_awake (fun op hop => (leavesBus_of_observes hop).1 _) (fun _ => trivial)
        fun vm node hallowed hvm hawake hnode => ?_
      have hdriven : w.Driven device.sysName := by
        refine hsteps w _ c hc hclass ⟨?_, vmName, vm, hchosen, hallowed, hvm, hawake⟩
        rw [hnode, Option.isSome_some]
      rw [wp_bind]
      refine wp_imp (wp_of_calls (I := fun w' => w'.bus = w.bus)
        (calls_handOver_hub hclass _ vmName) ?_ ?_ rfl) fun r w' hw' => ?_
      · rintro w₁ _ rfl h
        exact h
      · rintro op hop w₁ hw₁
        refine ⟨hop.1 w₁, ?_⟩
        rintro r w₂ ⟨c, _, hreact⟩
        obtain rfl : (react w₁ op c).2 = w₂ := congrArg Prod.snd hreact
        exact (hop.2 w₁ c).trans hw₁
      · cases r with
        | error e => trivial
        | ok _ =>
            rw [andThen_ok]
            refine wp_attachAuthorized_hub hclass ⟨?_, ?_⟩
            · rw [hw']
              exact hdriven.configured
            · rw [World.firstDriver, hw']
              exact hdriven.first

/-- An operation spares hubs, whatever it starts from. -/
theorem wp_operation_hubs (o : Operation) : (o.program w.daemon).wp (machine allowed) SparesHubs
    (fun _ _ => True) w := by
  have hquiet : ∀ op : Op, ¬op.Takes →
      Harmless allowed SparesHubs (fun w' => w'.daemon = w.daemon) op := fun op hop w' hw' =>
    ⟨sparesHubs_of_not_takes hop, fun c _ => (react_daemon w' op c).trans hw'⟩
  have hkeeps : ∀ {p : Act Unit} {w'}, p.wp (machine allowed) SparesHubs (fun _ _ => True) w' →
      w'.daemon = w.daemon →
      p.wp (machine allowed) SparesHubs (fun _ w'' => w''.daemon = w.daemon) w' := fun hp hw' =>
    wp_mono (wp_and hp (wp_daemon _)) (fun _ _ h => h.1) fun _ _ h => h.2.trans hw'
  have hcalls : ∀ {α : Type} {S : Op → Prop} {p : Act α}, Calls S p → (∀ op, S op → ¬op.Takes) →
      Keeps (machine allowed) SparesHubs (fun w' => w'.daemon = w.daemon) p := fun hp hS =>
    keeps_of_harmless (Program.calls_mono hp fun op hop => hquiet op (hS op hop))
  have hattach : ∀ device rule vm, Keeps (machine allowed) SparesHubs
      (fun w' => w'.daemon = w.daemon) (attachOneUsb w.daemon device rule vm) := by
    intro device rule vm w' hw'
    have hspares : (attachOneUsb w'.daemon device rule vm).wp (machine allowed) SparesHubs
        (fun _ _ => True) w' := wp_attachOneUsb_hubs hsteps
    rw [hw'] at hspares
    exact hkeeps hspares hw'
  have hgate : Keeps (machine allowed) SparesHubs (fun w' => w'.daemon = w.daemon)
      (applyUsbGate w.daemon) := by
    intro w' hw'
    have hspares : (applyUsbGate w'.daemon).wp (machine allowed) SparesHubs (fun _ _ => True) w' :=
      wp_imp (wp_applyUsbGate_hubs hsteps) fun _ _ _ => trivial
    rw [hw'] at hspares
    exact hkeeps hspares hw'
  have hparts : PartsKeep allowed SparesHubs (fun w' => w'.daemon = w.daemon) w.daemon :=
    { glue := fun op hop => hquiet op (by cases op <;> first | exact id | exact hop.elim)
      attachUsb := hattach
      detachUsb := fun device permanent => hcalls (calls_detachOneUsb_detaches _ device permanent)
        fun op hop => by cases op <;> first | exact id | exact hop.elim
      attachPci := fun device rule vm => hcalls (calls_attachOnePci _ device rule vm)
        fun op hop => by cases op <;> first | exact id | exact hop.elim
      detachPci := fun device rule permanent => hcalls (calls_detachOnePci _ device rule permanent)
        fun op hop => by cases op <;> first | exact id | exact hop.elim
      enable := hcalls (calls_enableUsbAuthorization_of _ fun _ => ⟨id, fun op hop => by
        cases op <;> first | exact id | exact hop.elim⟩) fun _ hop => hop
      close := hcalls (calls_closeUsbGate_of _ id fun _ op hop => by
        cases op <;> first | exact id | exact hop.elim) fun _ hop => hop
      open_ := hcalls (calls_openUsbGate_of _ id fun _ op hop => by
        cases op <;> first | exact id | exact hop.elim) fun _ hop => hop
      gate := hgate
      observe := hcalls (calls_observe _) fun op hop => by
        cases op <;> first | exact id | exact hop.elim
      sweep := hcalls (calls_deauthorizeUnmatchedUsb _) fun op hop => by
        cases op <;> first | exact id | exact hop.elim }
  exact wp_imp (hparts.operation_keeps o w rfl) fun _ _ _ => trivial

end Attach

/-- Where each step meets the condition, no hub is given to a VM or loses a driver in any run, and
every pass of the gate that comes to its end has probed what it leaves of a hub without a driver. -/
theorem hubs_left_alone {allowed : World → Op → Choice → Prop}
    (hsteps : ∀ w op c, allowed w op c → hubsDriven w op c) :
    (∀ w op, Issued allowed w op → SparesHubs w op) ∧
      ∀ w tr w', Exec (machine allowed) (applyUsbGate w.daemon).run w tr w' (some (.ok ())) →
        w.bus.autoprobe.isSome = true → w.daemon.routesUsb = true → w.ProbesHubs w' := by
  refine ⟨fun w op hissued => ?_, fun w tr w' hexec => ?_⟩
  · exact hissued.guarantee (I := fun _ => True) (fun _ _ => trivial)
      fun w o _ => wp_operation_hubs hsteps o
  · exact (Program.wp_sound (wp_applyUsbGate_hubs hsteps) hexec).2 _ rfl rfl

/-! ## Two hubs -/

def usbHub (name devnum vendor : String) : List UsbEntry :=
  [{ name := name
     files := [("busnum", "1"), ("devnum", devnum), ("idVendor", vendor), ("idProduct", "0610"),
       ("bDeviceClass", "09"), ("authorized", "1")]
     driver := some "/sys/bus/usb/drivers/usb" },
    { name := name ++ ":1.0" }]

def hubHost : World where
  daemon := plainDaemon [.object [("allow", .array [.object [("vendorId", .string "05e3"),
    ("productId", .string "0610")]]), ("targetVm", .string "gui-vm")]]
  bus := { autoprobe := some "0", entries := usbHub "1-1" "4" "05e3" ++ usbHub "1-2" "5" "2109" }
  sockets := Function.update (fun _ => none) guiVm.socket (some "1")

/-- The hub's driver came before the gate was closed. -/
def drivenHub : World :=
  { hubHost with
    bus := hubHost.bus.modify "1-1:1.0" fun entry =>
      { entry with driver := some "/sys/bus/usb/drivers/hub" } }

instance (w : World) (name : String) : Decidable (w.Driven name) :=
  decidable_of_iff (_ ∧ _) ⟨fun h => ⟨h.1, h.2⟩, fun h => ⟨h.1, h.2⟩⟩

/-- Nothing fails, the kernel does nothing of its own, and the hub driver is on hubs in hand. -/
def quietHubs (w : World) (op : Op) (c : Choice) : Prop :=
  c.fail = false ∧ c.bus.isNone = true ∧ match op with
    | .enter (.attachOneUsb device _ _) => device.isHub = true → w.Driven device.sysName
    | .enter (.usbRouting devices) => w.bus.Lawful ∧ ∀ hub ∈ devices, hub.isHub = true →
      DeviceName hub.sysName ∧ (w.Reserves devices hub.sysName → w.HubBound hub.sysName)
    | .release _ => False
    | _ => True

instance (w : World) (op : Op) (c : Choice) : Decidable (quietHubs w op c) := by
  delta quietHubs World.Reserves World.HubBound
  induction op using Op.casesOn with
  | enter entry => induction entry using Entry.casesOn <;> infer_instance
  | _ => infer_instance

theorem hubsDriven_of_quietHubs {w : World} {op : Op} {c : Choice} (h : quietHubs w op c) :
    hubsDriven w op c := by
  obtain ⟨hfail, hbus, hop⟩ := h
  cases op with
  | enter entry =>
      cases entry with
      | attachOneUsb device rule vm => exact fun hclass _ => hop hclass
      | usbRouting devices => exact hop
      | _ => trivial
  | interfaces name => exact fun _ _ _ _ => hfail
  | release target => exact hop.elim
  | probe target =>
      have hsame : (react w (.probe target) c).2.bus = w.bus := by
        rw [Option.isNone_iff_eq_none] at hbus
        simp [react, World.record, Choice.setBus, hfail, hbus]
      intro _ hub _ _ interface hinterface
      rw [hsame] at hinterface ⊢
      exact ⟨hinterface, fun _ driver hdriver => hdriver⟩
  | _ => trivial

/-- A pass leaves the matched hub alone and has the other one probed. -/
theorem hubs_left_alone_driven :
    (∀ e ∈ drivenHub.trace (fun _ _ => {}) .reconcile, SparesHubs e.1 e.2) ∧
      ∃ tr w', Exec (machine quietHubs) (applyUsbGate drivenHub.daemon).run drivenHub tr w'
        (some (.ok ())) ∧ drivenHub.ProbesHubs w' ∧ ∃ e ∈ tr, e.2.probed = some "1-2:1.0" := by
  have hpass : ∀ e ∈ drivenHub.trace (fun _ _ => {}) .reconcile, quietHubs e.1 e.2 {} := by
    decide +kernel
  have hgate : ∀ e ∈ ((applyUsbGate drivenHub.daemon).run.follow react (fun _ _ => {})
      drivenHub).1, quietHubs e.1 e.2 {} := by decide +kernel
  have hprobed : ∃ e ∈ ((applyUsbGate drivenHub.daemon).run.follow react (fun _ _ => {})
      drivenHub).1, e.2.probed = some "1-2:1.0" := by decide +kernel
  have hinitial : Reachable quietHubs drivenHub := .initial (by decide) rfl rfl rfl
  have halone := hubs_left_alone fun _ _ _ => hubsDriven_of_quietHubs
  have hexec := exec_ok hgate (by decide +kernel)
  refine ⟨fun e he => halone.1 e.1 e.2 (hinitial.issued _ _ hpass he), _, _, hexec, ?_, hprobed⟩
  exact halone.2 _ _ _ hexec (by decide) (by decide +kernel)

/-- The gate leaves a matched hub without its driver, and the pass gives it to the VM. -/
theorem hub_attached : ¬((∀ w op, Issued savesSucceed w op → SparesHubs w op) ∧
    ∀ w tr w', Exec (machine savesSucceed) (applyUsbGate w.daemon).run w tr w' (some (.ok ())) →
      w.bus.autoprobe.isSome = true → w.daemon.routesUsb = true → w.ProbesHubs w') := by
  rintro ⟨hclaim, -⟩
  have hpass : ∀ e ∈ hubHost.trace (fun _ _ => {}) .reconcile, savesSucceed e.1 e.2 {} := by
    decide +kernel
  have hattach : ∃ e ∈ hubHost.trace (fun _ _ => {}) .reconcile,
      e.2.attachTarget = some (guiVm, "/dev/bus/usb/001/004") ∧
        ∃ hub ∈ e.1.handled, hub.isHub = true ∧ hub.deviceNode = some "/dev/bus/usb/001/004" := by
    decide +kernel
  have hinitial : Reachable savesSucceed hubHost := .initial (by decide) rfl rfl rfl
  obtain ⟨⟨w, op⟩, he, htarget, hub, hhub, hclass, hnode⟩ := hattach
  have hspares := hclaim w op (hinitial.issued _ _ hpass he)
  cases op with
  | usbAttach vm node =>
      obtain rfl : node = "/dev/bus/usb/001/004" := congrArg Prod.snd (Option.some.inj htarget)
      exact hspares hub hhub hclass hnode
  | _ => cases htarget

end GhafDeviceManager
