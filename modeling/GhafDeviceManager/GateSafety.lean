import GhafDeviceManager.HeldInterfaces
import GhafDeviceManager.RoutingMemory

/-!
# The gate under hotplug

A pass decides from one scan and then walks a later listing of the bus. A device that came after
the scan has no driver yet, hence no interface, so whatever the walk finds of a routed plug-in
belongs to a name the scan has reserved.
-/

namespace GhafDeviceManager

open Fallible UsbGate

/-! ## One plug-in -/

/-- No probe of this name reaches an interface of the plug-in. -/
def SparesPlugIn (k : ℕ) (bus : UsbBus) (name : String) : Prop :=
  ∀ entry ∈ bus.entries, entry.isInterface = true → entry.plugged = k → entry.name ≠ name

/-- No interface of the plug-in has come by a host driver. -/
def BindsNone (k : ℕ) (before after : UsbBus) : Prop :=
  ∀ entry ∈ after.entries, entry.isInterface = true → entry.plugged = k →
    entry.driver.isSome = true → entry.boundTo ≠ some claim →
    ∃ old ∈ before.entries, old.name = entry.name ∧ old.plugged = k ∧ old.driver = entry.driver

/-- Behind the closed gate, the plug-in's device has one of these names if it has its driver. -/
structure Guarded (k : ℕ) (names : List String) (bus : UsbBus) : Prop where
  closed : bus.autoprobe = some "0"
  named : ∀ entry ∈ bus.entries, entry.isInterface = false → entry.plugged = k →
    entry.driver.isSome = true → entry.name ∈ names

/-- Bound to a driver the gate would take off. -/
def UsbEntry.occupied (entry : UsbEntry) : Prop :=
  ∃ driver ∈ entry.boundTo, releasable driver = true

section PlugIn

variable {k : ℕ} {names : List String} {before after : UsbBus}

theorem bindsNone_of_binds {probed : Option String} (h : before.Binds probed after)
    (hspares : ∀ name ∈ probed, SparesPlugIn k before name) : BindsNone k before after := by
  intro entry hentry hinterface hk hdriver hclaim
  obtain hnone | ⟨-, hclaimed⟩ | ⟨old, hold, hname, hplugged, hbound⟩ := h entry hentry
  · rw [hnone] at hdriver
    cases hdriver
  · exact absurd hclaimed hclaim
  · have hold' : old.isInterface = true := by
      rw [UsbEntry.isInterface, hname]
      exact hinterface
    obtain hsame | hprobed := hbound
    · exact ⟨old, hold, hname, hplugged.trans hk, hsame⟩
    · exact absurd hname (hspares entry.name hprobed old hold hold' (hplugged.trans hk))

theorem Guarded.binds {probed : Option String} (h : Guarded k names before)
    (hbinds : before.Binds probed after) (hclosed : after.autoprobe = some "0")
    (hprobed : ∀ name ∈ probed, Text.contains name ':' = true) : Guarded k names after := by
  refine ⟨hclosed, fun entry hentry hdevice hk hdriver => ?_⟩
  obtain hnone | ⟨hinterface, -⟩ | ⟨old, hold, hname, hplugged, hbound⟩ := hbinds entry hentry
  · rw [hnone] at hdriver
    cases hdriver
  · rw [hdevice] at hinterface
    cases hinterface
  · have hold' : old.isInterface = false := by
      rw [UsbEntry.isInterface, hname]
      exact hdevice
    obtain hsame | hprobe := hbound
    · rw [← hname]
      exact h.named old hold hold' (hplugged.trans hk) (hsame ▸ hdriver)
    · have hcolon := hprobed entry.name hprobe
      rw [UsbEntry.isInterface, hcolon] at hdevice
      cases hdevice

theorem Guarded.owner (h : Guarded k names before) (hlawful : before.Lawful) {entry : UsbEntry}
    (hentry : entry ∈ before.entries) (hinterface : entry.isInterface = true)
    (hk : entry.plugged = k) : ∃ name ∈ names, DeviceName name ∧
      (∃ device ∈ before.entries, device.isInterface = false ∧ device.name = name) ∧
      Text.startsWith entry.name (interfacePrefix name) = true := by
  obtain ⟨device, hdevice, hnot, hplugged, hdriver, hstart⟩ := hlawful.owned entry hentry hinterface
  refine ⟨device.name, ?_, hlawful.names device hdevice hnot, ⟨device, hdevice, hnot, rfl⟩, hstart⟩
  exact h.named device hdevice hnot (hplugged.trans hk) hdriver

theorem Guarded.spares (h : Guarded k names before) (hlawful : before.Lawful) {name : String}
    (hname : DeviceName name) (hout : name ∉ names) {interface : String}
    (hstart : Text.startsWith interface (interfacePrefix name) = true) :
    SparesPlugIn k before interface := by
  rintro entry hentry hinterface hk rfl
  obtain ⟨owner, howner, howns, -, hstart'⟩ := h.owner hlawful hentry hinterface hk
  rw [owner_unique howns hname hstart' hstart] at howner
  exact hout howner

theorem occupied_of_bindsNone (h : BindsNone k before after) {entry : UsbEntry}
    (hentry : entry ∈ after.entries) (hinterface : entry.isInterface = true)
    (hk : entry.plugged = k) (hoccupied : entry.occupied) :
    ∃ old ∈ before.entries, old.name = entry.name ∧ old.isInterface = true ∧ old.plugged = k ∧
      old.occupied := by
  obtain ⟨driver, hdriver, hreleasable⟩ := hoccupied
  have hbound : entry.driver.isSome = true := by
    obtain ⟨path, hpath, -⟩ := Option.map_eq_some_iff.1 hdriver
    rw [hpath]
    rfl
  have hclaim : entry.boundTo ≠ some claim := by
    intro hclaim
    obtain rfl := Option.some.inj (hdriver.symm.trans hclaim)
    simp [releasable] at hreleasable
  obtain ⟨old, hold, hname, hplugged, hsame⟩ := h entry hentry hinterface hk hbound hclaim
  refine ⟨old, hold, hname, ?_, hplugged, driver, ?_, hreleasable⟩
  · rw [UsbEntry.isInterface, hname]
    exact hinterface
  · rw [UsbEntry.boundTo, hsame]
    exact hdriver

theorem Guarded.mono {names' : List String} (h : Guarded k names before)
    (hnames : ∀ name ∈ names, name ∈ names') : Guarded k names' before :=
  ⟨h.closed, fun entry hentry hdevice hk hdriver =>
    hnames _ (h.named entry hentry hdevice hk hdriver)⟩

end PlugIn

/-! ## A pass in the kernel's machine -/

/-- An operation that keeps the invariant and is admitted by the guarantee, behind this kernel. -/
def Tolerated (allowed : World → Op → Choice → Prop) (G : World → Op → Prop) (I : World → Prop)
    (op : Op) : Prop :=
  ∀ w, I w → G w op ∧ ∀ c, allowed w op c → KernelAnswers w op c → I (react w op c).2

/-- A probe finds the gate closed and no interface of the plug-in by its name. -/
def ProbesSparing (k : ℕ) (w : World) (op : Op) : Prop :=
  ∀ name, op = .probe name → w.bus.autoprobe = some "0" ∧ SparesPlugIn k w.bus name

theorem probesSparing_of_probed {k : ℕ} {w : World} {op : Op} (h : op.probed = none) :
    ProbesSparing k w op := by
  rintro name rfl
  cases h

structure Behind (k : ℕ) (names : List String) (w : World) : Prop where
  lawful : w.bus.Lawful
  guarded : Guarded k names w.bus

section Kernel

variable {α : Type} {allowed : World → Op → Choice → Prop} {G : World → Op → Prop}
  {I : World → Prop} {k : ℕ} {names : List String} {w w₁ : World} {op : Op} {c : Choice}

theorem keeps_of_tolerated {p : Act α} (hp : Calls (Tolerated allowed G I) p)
    (henv : ∀ w w₁, Hotplug w w₁ → I w → I w₁) : Keeps (kernel allowed) G I p :=
  fun _ hw => wp_kernel_of_calls hp henv (fun _ hop => hop) hw

theorem binds_react (hclosed : w.bus.autoprobe = some "0") (hc : KernelAnswers w op c)
    (hop : ∀ value, op ≠ .setAutoprobe value) : (react w op c).2.bus.autoprobe = some "0" ∧
      w.bus.Binds op.probed (react w op c).2.bus := by
  have hstays : (react w op c).2.bus.autoprobe = some "0" := by
    rw [hc.autoprobe, ← hclosed]
    cases op with
    | setAutoprobe value => exact absurd rfl (hop value)
    | _ => rfl
  exact ⟨hstays, hc.binds hstays⟩

theorem Behind.hotplug (h : Behind k names w) (hw : Hotplug w w₁) :
    Behind k names w₁ ∧ BindsNone k w.bus w₁.bus := by
  have hbinds := hw.binds h.guarded.closed
  have hclosed := hw.autoprobe.trans h.guarded.closed
  have hprobed : ∀ name ∈ (none : Option String), Text.contains name ':' = true := by simp
  have hspares : ∀ name ∈ (none : Option String), SparesPlugIn k w.bus name := by simp
  exact ⟨⟨hw.lawful, h.guarded.binds hbinds hclosed hprobed⟩, bindsNone_of_binds hbinds hspares⟩

theorem Behind.react (h : Behind k names w) (hc : KernelAnswers w op c)
    (hop : ∀ value, op ≠ .setAutoprobe value)
    (hprobed : ∀ name ∈ op.probed, Text.contains name ':' = true ∧ SparesPlugIn k w.bus name) :
    Behind k names (react w op c).2 ∧ BindsNone k w.bus (react w op c).2.bus := by
  obtain ⟨hclosed, hbinds⟩ := binds_react h.guarded.closed hc hop
  exact ⟨⟨hc.lawful, h.guarded.binds hbinds hclosed fun name hname => (hprobed name hname).1⟩,
    bindsNone_of_binds hbinds fun name hname => (hprobed name hname).2⟩

/-- Names without a colon are no interfaces. -/
theorem sparesPlugIn_of_not_contains {bus : UsbBus} {name : String}
    (hname : Text.contains name ':' = false) : SparesPlugIn k bus name := by
  rintro entry - hinterface - rfl
  rw [UsbEntry.isInterface, hname] at hinterface
  cases hinterface

end Kernel

/-! ## The decision -/

/-- The sys names of the scanned devices that a rule matches and that are not marked. -/
def Daemon.claims (d : Daemon) (persistent : PersistentState) (devices : List UsbDevice) :
    List String :=
  (devices.filter fun device =>
    (d.usbRule device).isSome && !persistent.disconnected device.persistentId).map UsbDevice.sysName

/-- A scan that lists the plug-in, if it has its driver, as a device of a rule's and unmarked. -/
def ListsPlugIn (k : ℕ) (w : World) : Prop :=
  ∀ entry ∈ w.bus.entries, entry.isInterface = false → entry.plugged = k →
    entry.driver.isSome = true →
      entry.name ∈ w.daemon.claims w.memory.persistent w.usbDevices

structure Scanned (d : Daemon) (k : ℕ) (persistent : PersistentState) (devices : List UsbDevice)
    (w : World) : Prop extends Behind k (d.claims persistent devices) w where
  memory : w.memory.persistent = persistent

def Op.Decides : Op → Prop
  | .enter _ | .lock _ | .unlock _ | .read _ | .update (.usbRouting _) => True
  | _ => False

theorem claims_subset_routed {d : Daemon} {persistent : PersistentState} {devices : List UsbDevice}
    {cache : Map Bool} {name : String} (h : name ∈ d.claims persistent devices) :
    name ∈ (usbRoutingPass (fun device => (d.usbRule device).isSome) cache
      persistent.disconnected devices).2 := by
  obtain ⟨device, hdevice, rfl⟩ := List.mem_map.1 h
  obtain ⟨hdevice, hclaimed⟩ := List.mem_filter.1 hdevice
  obtain ⟨hrule, hunmarked⟩ := Bool.and_eq_true_iff.1 hclaimed
  rw [usbRoutingPass, mem_usbRoutingFold_snd]
  refine .inr ⟨device, hdevice, rfl, ?_, by simpa using hunmarked⟩
  rw [hrule, Bool.true_or]

section Decision

variable {allowed : World → Op → Choice → Prop} {k : ℕ} {w : World} {d : Daemon}
  {persistent : PersistentState} {devices : List UsbDevice}

theorem Scanned.hotplug {w₁ : World} (h : Scanned d k persistent devices w) (hw : Hotplug w w₁) :
    Scanned d k persistent devices w₁ :=
  ⟨(h.toBehind.hotplug hw).1, hw.memory ▸ h.memory⟩

theorem tolerated_of_decides {op : Op} (hop : op.Decides) :
    Tolerated allowed (ProbesSparing k) (Scanned d k persistent devices) op := by
  intro w h
  have hprobes : ProbesSparing k w op := by
    rintro name rfl
    exact hop.elim
  refine ⟨hprobes, fun c _ hc => ⟨(h.toBehind.react hc ?_ ?_).1, ?_⟩⟩
  · rintro value rfl
    exact hop.elim
  · intro name hname
    cases op with
    | probe target => exact hop.elim
    | _ => cases hname
  · rw [← h.memory]
    cases op with
    | update u =>
        cases u with
        | usbRouting cache => rfl
        | _ => exact hop.elim
    | enter entry => rfl
    | lock l => rfl
    | unlock l => rfl
    | read l => rfl
    | _ => exact hop.elim

theorem keeps_decides {α : Type} {op : Op} (hop : op.Decides) (result : Reply op → Except Error α) :
    Keeps (kernel allowed) (ProbesSparing k) (Scanned d k persistent devices)
      (Fallible.request op result) :=
  keeps_of_tolerated (calls_request (tolerated_of_decides hop)) fun _ _ hw h => h.hotplug hw

/-- Whatever was claimed at the scan is in the routed set. -/
theorem usbRouting_yields : Yields (kernel allowed) (ProbesSparing k)
    (Scanned d k persistent devices) (usbRouting d devices)
    fun routed => ∀ name ∈ d.claims persistent devices, name ∈ routed := by
  have hread : Yields (kernel allowed) (ProbesSparing k) (Scanned d k persistent devices)
      (readMemory .state) fun m => m.persistent = persistent := by
    intro w hw
    rw [readMemory, wp_kernel]
    refine fun w₁ hw₁ => ⟨probesSparing_of_probed rfl, fun c _ _ => ⟨hw.hotplug hw₁, ?_⟩⟩
    intro m hm
    obtain rfl := Except.ok.inj hm
    exact (hw.hotplug hw₁).memory
  refine yields_bind (yields_of_keeps (keeps_decides (by trivial) _)) fun _ _ => ?_
  refine yields_withLock (keeps_decides (by trivial) _) (keeps_decides (by trivial) _) ?_
  refine yields_bind (yields_of_keeps (keeps_decides (by trivial) _)) fun m _ => ?_
  refine yields_bind (Q := fun pass : Map Bool × List String =>
    ∀ name ∈ d.claims persistent devices, name ∈ pass.2) (yields_withLock
      (keeps_decides (by trivial) _) (keeps_decides (by trivial) _) ?_) fun pass hpass => ?_
  · refine yields_bind hread fun m hm => yields_pure fun name hname => ?_
    rw [hm]
    exact claims_subset_routed hname
  · exact yields_bind (yields_of_keeps (keeps_decides (by trivial) _)) fun _ _ => yields_pure hpass

end Decision

/-! ## Up to the walk -/

/-- A pass but for its walk: the routed set, where there is a gate. -/
def routedSet (d : Daemon) : Act (Option (List String)) := do
  let bus ← usbBus
  if d.routesUsb && bus then setAutoprobe "0"
  authorizeUsbForHost d
  if bus && d.routesUsb then
    configureDevices d (← deviceNames)
    let routed ← usbRouting d (← scanUsbRoot)
    return some routed
  else return none

theorem applyUsbGate_eq (d : Daemon) :
    applyUsbGate d = routedSet d >>= fun routed => routed.elim (pure ()) settleDrivers := by
  rw [applyUsbGate, routedSet, bind_assoc]
  refine bind_congr fun bus => ?_
  have hrest : (do
      authorizeUsbForHost d
      if bus && d.routesUsb then
        configureDevices d (← deviceNames)
        let routed ← usbRouting d (← scanUsbRoot)
        settleDrivers routed) = (do
      authorizeUsbForHost d
      if bus && d.routesUsb then
        configureDevices d (← deviceNames)
        let routed ← usbRouting d (← scanUsbRoot)
        return some routed
      else return none) >>= fun routed : Option (List String) =>
        routed.elim (pure ()) settleDrivers := by
    rw [bind_assoc]
    refine bind_congr fun _ => ?_
    split
    · simp only [bind_assoc, pure_bind, Option.elim]
    · rfl
  dsimp only
  split
  · rw [bind_assoc]
    exact bind_congr fun _ => hrest
  · exact hrest

structure ClosedGate (d : Daemon) (w : World) : Prop where
  daemon : w.daemon = d
  lawful : w.bus.Lawful
  closed : w.bus.autoprobe = some "0"

section Front

variable {allowed : World → Op → Choice → Prop} {k : ℕ} {w w₁ : World} {d : Daemon}

theorem ClosedGate.hotplug (h : ClosedGate d w) (hw : Hotplug w w₁) : ClosedGate d w₁ :=
  ⟨hw.daemon.trans h.daemon, hw.lawful, hw.autoprobe.trans h.closed⟩

theorem tolerated_closed {op : Op} (hset : ∀ value, op ≠ .setAutoprobe value)
    (hprobe : ∀ target, op = .probe target → Text.contains target ':' = false) :
    Tolerated allowed (ProbesSparing k) (ClosedGate d) op := by
  intro w h
  refine ⟨fun name hname => ⟨h.closed, sparesPlugIn_of_not_contains (hprobe name hname)⟩,
    fun c _ hc => ⟨(react_daemon w op c).trans h.daemon, hc.lawful, ?_⟩⟩
  exact (binds_react h.closed hc hset).1

theorem tolerated_of_authorizes {op : Op} (hop : op.Authorizes true) :
    Tolerated allowed (ProbesSparing k) (ClosedGate d) op := by
  refine tolerated_closed ?_ ?_
  · rintro value rfl
    exact hop.elim
  · rintro target rfl
    exact hop.elim

theorem keeps_closed {α : Type} {p : Act α}
    (hp : Calls (Tolerated allowed (ProbesSparing k) (ClosedGate d)) p) :
    Keeps (kernel allowed) (ProbesSparing k) (ClosedGate d) p :=
  keeps_of_tolerated hp fun _ _ hw h => h.hotplug hw

theorem deviceNames_yields {I : World → Prop} (henv : ∀ w w₁, Hotplug w w₁ → I w → I w₁) :
    Yields (kernel allowed) (ProbesSparing k) I deviceNames
      fun names => ∀ name ∈ names, DeviceName name := by
  intro w hw
  rw [deviceNames, wp_kernel]
  refine fun w₁ hw₁ => ⟨probesSparing_of_probed rfl, fun c _ _ => ⟨henv w w₁ hw₁ hw, ?_⟩⟩
  intro names hnames
  cases hfail : c.fail with
  | true => simp [react, Choice.result, hfail] at hnames
  | false =>
      obtain rfl : w₁.bus.deviceNames = names := by
        simpa [react, Choice.result, hfail] using hnames
      exact fun name hname => hw₁.lawful.deviceName hname

/-- Once the gate is closed, the routed set holds the name of the plug-in if it has its driver. -/
theorem wp_decide_closed (hlists : ∀ w c, allowed w .scanUsb c → ListsPlugIn k w)
    (hw : ClosedGate d w) :
    Fallible.wp (kernel allowed) (ProbesSparing k) (do
      configureDevices d (← deviceNames)
      let routed ← usbRouting d (← scanUsbRoot)
      return some routed) (fun r w' => ∀ routed, r = .ok (some routed) → Behind k routed w') w := by
  rw [wp_bind]
  refine wp_imp (deviceNames_yields (fun _ _ hw h => h.hotplug hw) w hw) fun r w₁ hw₁ => ?_
  obtain ⟨hclosed, hnames⟩ := hw₁
  cases r with
  | error e => exact fun routed hr => by cases hr
  | ok names =>
      rw [andThen_ok, wp_bind]
      have hconfigure : Keeps (kernel allowed) (ProbesSparing k) (ClosedGate d)
          (configureDevices d names) := by
        refine keeps_closed (calls_configureDevices_of (fun op hop => ?_) fun name hname => ?_)
        · refine tolerated_closed ?_ ?_
          · rintro value rfl
            exact hop.elim
          · rintro target rfl
            exact hop.elim
        · refine tolerated_closed (by simp) fun target heq => ?_
          obtain rfl := Op.probe.inj heq
          have hcolon := (hnames names rfl name hname).1
          simpa [Text.contains] using hcolon
      refine wp_imp (hconfigure w₁ hclosed) fun r w₂ hw₂ => ?_
      cases r with
      | error e => exact fun routed hr => by cases hr
      | ok _ =>
          rw [andThen_ok, wp_bind, scanUsbRoot, wp_kernel]
          refine fun w₃ hw₃ => ⟨probesSparing_of_probed rfl, fun c hc _ => ?_⟩
          have hclosed₃ := hw₂.hotplug hw₃
          cases hfail : c.fail with
          | true => simp [react, Choice.result, hfail]
          | false =>
              simp only [react, Choice.result, hfail, Bool.false_eq_true, if_false, id, andThen_ok]
              rw [wp_bind]
              have hscanned : Scanned d k w₃.memory.persistent w₃.usbDevices w₃ := by
                refine ⟨⟨hclosed₃.lawful, hclosed₃.closed, ?_⟩, rfl⟩
                rw [← hclosed₃.daemon]
                exact hlists w₃ c hc
              refine wp_imp (usbRouting_yields w₃ hscanned) fun r w₄ hw₄ => ?_
              obtain ⟨hscanned₄, hrouted⟩ := hw₄
              cases r with
              | error e => exact fun routed hr => by cases hr
              | ok names =>
                  intro routed hr
                  obtain rfl := Option.some.inj (Except.ok.inj hr)
                  exact ⟨hscanned₄.lawful, hscanned₄.guarded.mono (hrouted _ rfl)⟩

theorem keeps_authorizeUsbForHost : Keeps (kernel allowed) (ProbesSparing k) (fun w => w.bus.Lawful)
    (authorizeUsbForHost d) := by
  refine keeps_of_tolerated (calls_authorizeUsbForHost_of d fun _ op hop => ?_)
    fun _ _ hw _ => hw.lawful
  refine fun w _ => ⟨?_, fun _ _ hc => hc.lawful⟩
  rintro name rfl
  exact hop.elim

theorem routedSet_behind (hlists : ∀ w c, allowed w .scanUsb c → ListsPlugIn k w)
    (hdaemon : w.daemon = d) : Fallible.wp (kernel allowed) (ProbesSparing k) (routedSet d)
      (fun r w' => ∀ routed, r = .ok (some routed) → Behind k routed w') w := by
  rw [routedSet, wp_bind, usbBus, wp_kernel]
  refine fun w₁ hw₁ => ⟨probesSparing_of_probed rfl, fun _ _ _ => ?_⟩
  rw [react, andThen_ok]
  cases hgate : d.routesUsb && w₁.bus.autoprobe.isSome with
  | false =>
      have hidle : (w₁.bus.autoprobe.isSome && d.routesUsb) = false := by
        rw [Bool.and_comm]
        exact hgate
      simp only [hidle, Bool.false_eq_true, if_false]
      rw [wp_bind]
      refine wp_imp (keeps_authorizeUsbForHost w₁ hw₁.lawful) fun r w₂ _ => ?_
      cases r with
      | error e => exact fun routed hr => by cases hr
      | ok _ => exact fun routed hr => by cases hr
  | true =>
      have hbehind : (w₁.bus.autoprobe.isSome && d.routesUsb) = true := by
        rw [Bool.and_comm]
        exact hgate
      simp only [hbehind, if_true]
      rw [wp_bind, setAutoprobe, wp_kernel]
      refine fun w₂ hw₂ => ⟨probesSparing_of_probed rfl, fun c _ hc => ?_⟩
      cases hfail : c.fail with
      | true => simp [react, Choice.result, hfail]
      | false =>
          have hclosed : ClosedGate d (react w₂ (.setAutoprobe "0") c).2 := by
            refine ⟨?_, hc.lawful, ?_⟩
            · exact (react_daemon w₂ _ c).trans (hw₂.daemon.trans (hw₁.daemon.trans hdaemon))
            · simpa [hfail] using hc.autoprobe
          have hreply : id (react w₂ (.setAutoprobe "0") c).1 = .ok () := by
            simp [react, Choice.result, hfail]
          rw [hreply, andThen_ok, wp_bind]
          refine wp_imp (keeps_closed (calls_authorizeUsbForHost_of d fun _ op hop =>
            tolerated_of_authorizes hop) _ hclosed) fun r w₃ hw₃ => ?_
          cases r with
          | error e => exact fun routed hr => by cases hr
          | ok _ => exact wp_decide_closed hlists hw₃

end Front

end GhafDeviceManager
