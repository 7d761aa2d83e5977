import GhafDeviceManager.Disconnects
import GhafDeviceManager.HeldInterfaces
import GhafDeviceManager.Isolation

/-!
# Devices on nobody's side

The gate keeps from the host what a rule matches or once matched; a resume offers what a rule
matches now. Between the two the gate takes drivers off, and a rule may have gone by one of them.
-/

namespace GhafDeviceManager

open Fallible UsbGate

/-- The same device after some of its interfaces lost their drivers. -/
structure UsbDevice.Unbinds (device device' : UsbDevice) : Prop where
  same : { device' with driverPaths := device.driverPaths } = device
  fewer : device'.driverPaths.Sublist device.driverPaths

/-- A rule matches the device, with whatever drivers are left to it. -/
def Daemon.RoutesUnbound (d : Daemon) (device : UsbDevice) : Prop :=
  ∀ paths ∈ device.driverPaths.sublists,
    (d.usbRule { device with driverPaths := paths }).isSome = true

/-- The kernel plugs nothing in, and changes nothing of a device but its drivers; it binds one only
where an interface is probed. -/
def OnlyUnbinds (w : World) (op : Op) (w' : World) : Prop :=
  ∀ device' ∈ w'.usbDevices, ∃ device ∈ w.usbDevices, device.sysName = device'.sysName ∧
    ((∀ target ∈ op.probed, Text.startsWith target (interfacePrefix device.sysName) = false) →
      device.Unbinds device')

/-- What each step has to meet: what the gate reserves is matched by more than drivers that it may
take, and writes that name an interface change drivers only. -/
def reservesRouted (w : World) (op : Op) (c : Choice) : Prop :=
  match op with
  | .enter (.usbRouting devices) => w.bus.Lawful ∧ ∀ device ∈ devices,
    w.Reserves devices device.sysName → DeviceName device.sysName ∧ w.daemon.RoutesUnbound device
  | .probe target | .release target => Text.contains target ':' = true →
    OnlyUnbinds w op (react w op c).2
  | _ => True

/-- A resume is offered every device still there that the gate reserved since `w₀`. -/
def OffersReserved (w₀ w : World) (op : Op) : Prop :=
  ∀ offered, op = .enter (.resumeUsb offered) → ∀ routed,
    Since w₀ w (.entered (.settleDrivers routed)) → ∀ device ∈ w.usbDevices,
      device.sysName ∈ routed → ∃ rule, (device, rule) ∈ offered

section Reserved

variable {w₀ w w' : World} {d : Daemon} {device device' : UsbDevice} {routed : List String}
  {op : Op} {c : Choice}

theorem UsbDevice.Unbinds.with_paths (h : device.Unbinds device') (paths : List String) :
    { device' with driverPaths := paths } = { device with driverPaths := paths } := by
  conv_rhs => rw [← h.same]

theorem Daemon.RoutesUnbound.unbinds (h : d.RoutesUnbound device) (hd : device.Unbinds device') :
    d.RoutesUnbound device' := by
  intro paths hpaths
  have hfewer := (List.mem_sublists.1 hpaths).trans hd.fewer
  rw [hd.with_paths]
  exact h paths (List.mem_sublists.2 hfewer)

theorem Daemon.RoutesUnbound.isSome_usbRule (h : d.RoutesUnbound device) :
    (d.usbRule device).isSome = true :=
  h device.driverPaths (List.mem_sublists.2 (List.Sublist.refl _))

/-- The reserved devices that are there have a rule to offer them by. -/
structure Reserved (d : Daemon) (routed : List String) (w : World) : Prop where
  daemon : w.daemon = d
  firm : ∀ device ∈ w.usbDevices, device.sysName ∈ routed →
    DeviceName device.sysName ∧ d.RoutesUnbound device

theorem Reserved.of_bus (h : Reserved d routed w) (hdaemon : w'.daemon = w.daemon)
    (hbus : w'.bus = w.bus) : Reserved d routed w' := by
  refine ⟨hdaemon.trans h.daemon, fun device hdevice => h.firm device ?_⟩
  rwa [World.usbDevices, hdaemon, hbus] at hdevice

/-- A write that names an interface of a device the gate did not reserve, or takes a driver. -/
theorem Reserved.write (h : Reserved d routed w) (hwrites : OnlyUnbinds w op (react w op c).2)
    (hop : ∀ target ∈ op.probed, ∃ name, name ∉ routed ∧ DeviceName name ∧
      Text.startsWith target (interfacePrefix name) = true) :
    Reserved d routed (react w op c).2 := by
  refine ⟨(react_daemon w op c).trans h.daemon, fun device' hdevice' hrouted => ?_⟩
  obtain ⟨device, hdevice, hname, hunbinds⟩ := hwrites device' hdevice'
  rw [← hname] at hrouted ⊢
  obtain ⟨hdeviceName, hfirm⟩ := h.firm device hdevice hrouted
  refine ⟨hdeviceName, hfirm.unbinds (hunbinds fun target htarget => ?_)⟩
  obtain ⟨name, hout, hnamed, hstart⟩ := hop target htarget
  rw [Bool.eq_false_iff]
  intro hstart'
  have hsame := owner_unique hnamed hdeviceName hstart hstart'
  exact hout (hsame ▸ hrouted)

theorem since_react {effect : Effect} (hlog : w₀.log <:+ w.log)
    (h : Since w₀ (react w op c).2 effect) : Since w₀ w effect ∨ effect.Of op := by
  obtain ⟨news, hnews, hmem⟩ := h
  obtain ⟨older, holder⟩ := hlog
  obtain hsame | ⟨newest, hnewest, hof⟩ := react_log w op c
  · exact .inl ⟨news, hsame ▸ hnews, hmem⟩
  · rw [hnewest, ← holder, ← List.cons_append] at hnews
    obtain rfl := List.append_cancel_right hnews
    obtain rfl | hold := List.mem_cons.1 hmem
    · exact .inr hof
    · exact .inl ⟨older, holder.symm, hold⟩

structure Unsettled (w₀ : World) (d : Daemon) (w : World) : Prop where
  daemon : w.daemon = d
  log : w₀.log <:+ w.log
  unsettled : ∀ routed, ¬Since w₀ w (.entered (.settleDrivers routed))

structure Settling (w₀ : World) (d : Daemon) (routed : List String) (w : World) : Prop where
  log : w₀.log <:+ w.log
  only : ∀ names, Since w₀ w (.entered (.settleDrivers names)) → names = routed
  reserved : Reserved d routed w

/-- From the end of the walk to the resume. -/
structure Settled (w₀ : World) (d : Daemon) (w : World) : Prop where
  daemon : w.daemon = d
  log : w₀.log <:+ w.log
  reserved : ∀ routed, Since w₀ w (.entered (.settleDrivers routed)) → Reserved d routed w

theorem Unsettled.react (h : Unsettled w₀ d w)
    (hop : ∀ routed, op ≠ .enter (.settleDrivers routed)) :
    Unsettled w₀ d (react w op c).2 := by
  refine ⟨(react_daemon w op c).trans h.daemon, h.log.trans (log_suffix_react w op c),
    fun routed hsince => ?_⟩
  obtain hold | hof := since_react h.log hsince
  · exact h.unsettled routed hold
  · exact hop routed hof

theorem Settled.react (h : Settled w₀ d w) (hop : ∀ routed, op ≠ .enter (.settleDrivers routed))
    (hbus : (react w op c).2.bus = w.bus) : Settled w₀ d (react w op c).2 := by
  refine ⟨(react_daemon w op c).trans h.daemon, h.log.trans (log_suffix_react w op c),
    fun routed hsince => ?_⟩
  obtain hold | hof := since_react h.log hsince
  · exact (h.reserved routed hold).of_bus (react_daemon w op c) hbus
  · exact absurd hof (hop routed)

theorem Settling.write (h : Settling w₀ d routed w) (hwrites : OnlyUnbinds w op (react w op c).2)
    (hop : ∀ entry, op ≠ .enter entry)
    (hprobe : ∀ target ∈ op.probed, ∃ name, name ∉ routed ∧ DeviceName name ∧
      Text.startsWith target (interfacePrefix name) = true) :
    Settling w₀ d routed (react w op c).2 := by
  refine ⟨h.log.trans (log_suffix_react w op c), fun names hsince => ?_,
    h.reserved.write hwrites hprobe⟩
  exact h.only names ((since_react h.log hsince).resolve_right (hop _))

theorem Settling.settled (h : Settling w₀ d routed w) : Settled w₀ d w :=
  ⟨h.reserved.daemon, h.log, fun names hsince => h.only names hsince ▸ h.reserved⟩

theorem Unsettled.settled (h : Unsettled w₀ d w) : Settled w₀ d w :=
  ⟨h.daemon, h.log, fun routed hsince => absurd hsince (h.unsettled routed)⟩

end Reserved

section Pass

variable {allowed : World → Op → Choice → Prop} {w₀ w : World} {d : Daemon}
  {routed : List String} {name target : String}

theorem offersReserved_of_ne {op : Op} (hop : ∀ offered, op ≠ .enter (.resumeUsb offered)) :
    OffersReserved w₀ w op := fun offered hoffered => absurd hoffered (hop offered)

/-- The resume of a pass takes up the scan it makes; what it attaches then is past the point. -/
theorem wp_resumeUsb_reserved (h : Settled w₀ d w) :
    (resumeUsb d none).wp (machine allowed) (OffersReserved w₀) (fun _ _ => True) w := by
  have hquiet : ∀ op : Op, (∀ offered, op ≠ .enter (.resumeUsb offered)) →
      ∀ w, OffersReserved w₀ w op := fun op hop _ => offersReserved_of_ne hop
  rw [resumeUsb, wp_withLock]
  refine ⟨hquiet _ (by simp) w, fun _ _ => ?_⟩
  rw [wp_bind]
  refine wp_imp (wp_usbDevices (hquiet _ (by simp) w)) ?_
  rintro r w₁ ⟨rfl, hscan⟩
  cases r with
  | error e => exact ⟨hquiet _ (by simp) _, fun _ _ => trivial⟩
  | ok devices =>
      obtain rfl := hscan devices rfl
      rw [andThen_ok, wp_bind, enter, wp_operation]
      refine ⟨fun offered hoffered routed hsince device hdevice hin => ?_, fun _ _ => ?_⟩
      · obtain rfl := Entry.resumeUsb.inj (Op.enter.inj hoffered)
        have hfirm := ((h.reserved routed hsince).firm device hdevice hin).2
        obtain ⟨rule, hrule⟩ := Option.isSome_iff_exists.1 hfirm.isSome_usbRule
        refine ⟨rule, List.mem_filterMap.2 ⟨device, hdevice, ?_⟩⟩
        rw [hrule, Option.map_some]
      · rw [andThen_ok]
        refine wp_imp (wp_of_footprint (S := fun op => ∀ offered, op ≠ .enter (.resumeUsb offered))
          (calls_bind (calls_foldlM (fun failures x => calls_resumeUsbDevice (by simp) (by simp)
            (by simp) fun target => calls_attachOneUsb d x.1 x.2 target (by simp) ?_) [])
            fun failures => calls_aggregate failures) (fun op hop => hquiet op hop) _)
          fun _ w' _ => ⟨hquiet _ (by simp) w', fun _ _ => trivial⟩
        rintro op hop offered rfl
        cases hop

variable (hsteps : ∀ w op c, allowed w op c → reservesRouted w op c)

include hsteps

theorem wp_settleInterface_reserved (h : Settling w₀ d routed w) (hname : DeviceName name)
    (htarget : Text.startsWith target (interfacePrefix name) = true) :
    (settleInterface (routed.contains name) target).wp (machine allowed) (OffersReserved w₀)
      (fun _ => Settling w₀ d routed) w := by
  have hcolon : Text.contains target ':' = true := contains_of_startsWith htarget
  rw [settleInterface, wp_bind, GhafDeviceManager.driver, wp_operation]
  refine ⟨offersReserved_of_ne (by simp), fun _ _ => ?_⟩
  rw [react, andThen_ok]
  cases hrouted : routed.contains name <;> cases hdriver : w.bus.driver target
  case true.some bound =>
    dsimp only
    split
    case isFalse => exact h
    case isTrue =>
      rw [wp_warnOnError, GhafDeviceManager.release, wp_operation]
      refine ⟨offersReserved_of_ne (by simp), fun c hc => ?_⟩
      exact h.write (hsteps w _ c hc hcolon) (by simp) (by simp [Op.probed])
  case false.none =>
    dsimp only
    rw [wp_warnOnError, GhafDeviceManager.probe, wp_operation]
    refine ⟨offersReserved_of_ne (by simp), fun c hc => ?_⟩
    refine h.write (hsteps w _ c hc hcolon) (by simp) fun other hother => ?_
    obtain rfl : target = other := Option.some.inj hother
    exact ⟨name, by simpa using hrouted, hname, htarget⟩
  all_goals exact h

theorem wp_settleDrivers_reserved (hlawful : w.bus.Lawful) (h : Unsettled w₀ d w)
    (hreserved : Reserved d routed w) :
    (settleDrivers routed).wp (machine allowed) (OffersReserved w₀) (fun _ => Settled w₀ d) w := by
  have hwalk : Settling w₀ d routed (w.record (.entered (.settleDrivers routed))) := by
    refine ⟨h.log.trans (List.suffix_cons _ _), fun names hsince => ?_,
      hreserved.of_bus rfl rfl⟩
    have hentered : Since w₀ (react w (.enter (.settleDrivers routed)) {}).2
        (.entered (.settleDrivers names)) := hsince
    obtain hold | hof := since_react h.log hentered
    · exact absurd hold (h.unsettled names)
    · cases hof
      rfl
  rw [settleDrivers, wp_bind, enter, wp_operation]
  refine ⟨offersReserved_of_ne (by simp), fun _ _ => ?_⟩
  rw [react, andThen_ok, wp_bind, deviceNames, wp_operation]
  refine ⟨offersReserved_of_ne (by simp), fun c _ => ?_⟩
  cases hfail : c.fail with
  | true => simpa [react, Choice.result, hfail] using hwalk.settled
  | false =>
      simp only [react, Choice.result, hfail, Bool.false_eq_true, if_false, id, andThen_ok]
      refine wp_imp (wp_forM (fun name hname w' hw' => ?_) hwalk) fun _ _ hw' => hw'.settled
      have hdevice := hlawful.deviceName hname
      rw [settleDevice, wp_bind, wp_attempt, GhafDeviceManager.interfaces, wp_operation]
      refine ⟨offersReserved_of_ne (by simp), fun c' _ => ?_⟩
      cases hfail' : c'.fail with
      | true => simpa [react, Choice.result, hfail'] using hw'
      | false =>
          simp only [react, Choice.result, hfail', Bool.false_eq_true, if_false, id, andThen_ok]
          refine wp_forM (fun target htarget w'' hw'' => ?_) hw'
          exact wp_settleInterface_reserved hsteps hw'' hdevice (mem_interfaces htarget)

theorem wp_applyUsbGate_reserved (h : Unsettled w₀ d w) :
    (applyUsbGate d).wp (machine allowed) (OffersReserved w₀) (fun _ => Settled w₀ d) w := by
  have hquiet : ∀ op : Op, op.Gates → (∀ routed, op ≠ .enter (.settleDrivers routed)) →
      Harmless allowed (OffersReserved w₀) (Unsettled w₀ d) op := by
    intro op hop hne w hw
    refine ⟨offersReserved_of_ne ?_, fun c _ => hw.react hne⟩
    rintro offered rfl
    exact hop.elim
  refine wp_applyUsbGate_of (fun op hop => hquiet op (gates_of_authorizes hop) ?_)
    (fun op hop _ => hquiet op (gates_of_settles (settles_of_opens hop)) ?_)
    (fun _ _ hw => hw.settled) (fun _ _ hw => hw.settled) (fun _ w₁ hw₁ => ?_) h
  · rintro routed rfl
    exact hop.elim
  · rintro routed rfl
    exact hop.elim
  rw [wp_bind]
  refine wp_usbRouting_of hw₁.daemon ?_ (offersReserved_of_ne (by simp)) fun c hc => ?_
  · rintro w' op (hop | ⟨cache, rfl⟩)
    · refine offersReserved_of_ne ?_
      rintro offered rfl
      exact hop.elim
    · exact offersReserved_of_ne (by simp)
  obtain ⟨hlawful, hdevices⟩ := hsteps w₁ _ c hc
  have hrouting : Unsettled w₀ d (w₁.routing w₁.usbDevices) := by
    have hentered : Unsettled w₀ d (react w₁ (.enter (.usbRouting w₁.usbDevices)) {}).2 :=
      hw₁.react (by simp)
    exact ⟨hentered.daemon, hentered.log, hentered.unsettled⟩
  refine wp_settleDrivers_reserved hsteps hlawful hrouting ⟨hw₁.daemon, fun device hdevice hin => ?_⟩
  refine hw₁.daemon ▸ hdevices device hdevice ?_
  obtain hnil | ⟨other, hother, hname, hmatched, hunmarked⟩ :=
    (mem_usbRoutingFold_snd w₁.usbDevices _ _).1 hin
  · cases hnil
  · exact ⟨other, hother, hname, hmatched, hunmarked⟩

theorem wp_reconcile_reserved (hdaemon : w.daemon = d) :
    (reconcile d).wp (machine allowed) (OffersReserved w) (fun _ _ => True) w := by
  have hunsettled : Unsettled w d (react w (.update (.deferred false)) {}).2 := by
    refine ⟨hdaemon, List.suffix_rfl, ?_⟩
    rintro routed ⟨news, hnews, hmem⟩
    obtain rfl : [] = news := List.append_cancel_right hnews
    cases hmem
  have hkeeps : ∀ {α : Type} {S : Op → Prop} {p : Act α}, Calls S p →
      (∀ op, S op → (∀ routed, op ≠ .enter (.settleDrivers routed)) ∧
        (∀ offered, op ≠ .enter (.resumeUsb offered)) ∧
        ∀ w c, (react w op c).2.bus = w.bus) →
      Keeps (machine allowed) (OffersReserved w) (Settled w d) p := by
    intro α S p hp hS
    refine keeps_of_harmless (Program.calls_mono hp fun op hop w₁ hw₁ => ?_)
    obtain ⟨hsettles, hresumes, hbus⟩ := hS op hop
    exact ⟨offersReserved_of_ne hresumes, fun c _ => hw₁.react hsettles (hbus w₁ c)⟩
  have hobserve : Keeps (machine allowed) (OffersReserved w) (Settled w d) (observe d) := by
    refine hkeeps (calls_observe d) fun op hop => ⟨?_, ?_, fun w₁ c => ?_⟩
    · rintro routed rfl
      exact hop.elim
    · rintro offered rfl
      exact hop.elim
    · exact (observed_react hop w₁ c).bus
  have hpci : Keeps (machine allowed) (OffersReserved w) (Settled w d) (resumePci d none) := by
    let S : Op → Prop := fun op => (∃ device, op.AttachesPci device) ∨ op.Glue ∧
      ∀ devices, op ≠ .enter (.resumeUsb devices)
    have hcalls : Calls S (resumePci d none) := calls_resumePci (fun op hop hne => .inr ⟨hop, hne⟩)
      (fun device op hop => .inl ⟨device, hop⟩) none
    refine hkeeps hcalls fun op hop => ⟨?_, ?_, fun w₁ c => ?_⟩
    · rintro routed rfl
      rcases hop with ⟨device, hop⟩ | ⟨hop, -⟩
      · cases hop
      · exact hop.elim
    · rintro offered rfl
      rcases hop with ⟨device, hop⟩ | ⟨-, hne⟩
      · cases hop
      · exact hne offered rfl
    · exact (sameBus_react (hop.imp id And.left) w₁ c).bus
  have hpasses : ∀ {α : Type} {p : Act α} {f : α → Act Unit},
      Keeps (machine allowed) (OffersReserved w) (Settled w d) p →
      (∀ a w₁, Settled w d w₁ →
        (f a).wp (machine allowed) (OffersReserved w) (fun _ _ => True) w₁) →
      ∀ w₁, Settled w d w₁ →
        Fallible.wp (machine allowed) (OffersReserved w) (p >>= f) (fun _ _ => True) w₁ := by
    intro α p f hp hf w₁ hw₁
    rw [wp_bind]
    refine wp_imp (hp w₁ hw₁) fun r w₂ hw₂ => ?_
    cases r with
    | ok a => exact hf a w₂ hw₂
    | error e => trivial
  rw [reconcile, wp_bind, update, wp_operation]
  refine ⟨offersReserved_of_ne (by simp), fun _ _ => ?_⟩
  rw [andThen_ok, wp_bind, wp_warnOnError]
  refine wp_imp (wp_applyUsbGate_reserved hsteps hunsettled) fun _ w₁ hw₁ => ?_
  rw [andThen_ok]
  refine hpasses hobserve (fun _ => hpasses (keeps_collect hpci) fun failures w₂ hw₂ => ?_) w₁ hw₁
  have hresume : (collect "USB" (resumeUsb d none) failures).wp (machine allowed)
      (OffersReserved w) (fun _ _ => True) w₂ := by
    rw [collect, wp_bind, wp_attempt]
    refine wp_imp (wp_resumeUsb_reserved hw₂) fun r w₃ _ => ?_
    cases r <;> trivial
  have hsweep : ∀ failures, Calls (fun op => ∀ offered, op ≠ .enter (.resumeUsb offered)) (do
      let failures ← collect "USB authorization" (deauthorizeUnmatchedUsb d) failures
      aggregate failures) := by
    intro failures
    refine calls_bind (calls_collect (Program.calls_mono (calls_deauthorizeUnmatchedUsb d) ?_)
      failures) fun failures => calls_aggregate failures
    rintro op hop offered rfl
    exact hop.elim
  rw [wp_bind]
  refine wp_imp hresume fun r w₃ _ => ?_
  cases r with
  | ok failures =>
      exact wp_of_footprint (hsweep failures) (fun op hop _ => offersReserved_of_ne hop) w₃
  | error e => trivial

end Pass

/-- In every pass whose steps meet the condition, what the gate reserved and is still there when the
resume scans is offered to it. -/
theorem reserved_offered {allowed : World → Op → Choice → Prop}
    (hsteps : ∀ w op c, allowed w op c → reservesRouted w op c) {w w' : World}
    {tr : List (World × Op)} {o : Option (Except Error Unit)}
    (hexec : Exec (machine allowed) (reconcile w.daemon).run w tr w' o) :
    ∀ e ∈ tr, OffersReserved w e.1 e.2 :=
  (Program.wp_sound (wp_reconcile_reserved hsteps rfl) hexec).1

/-! ## A scanner known by its driver -/

/-- The host has bound the scanner, which its rule knows by that driver alone. -/
def scannerBound : World :=
  { scannerPlugged with bus := { scannerPlugged.bus with autoprobe := some "0" } }

def scannerListed : World :=
  { scannerBound with
    daemon := plainDaemon [keyboardRule [("targetVm", .string "gui-vm")]] }

instance (device device' : UsbDevice) : Decidable (device.Unbinds device') :=
  decidable_of_iff (_ ∧ _) ⟨fun h => ⟨h.1, h.2⟩, fun h => ⟨h.1, h.2⟩⟩

instance (d : Daemon) (device : UsbDevice) : Decidable (d.RoutesUnbound device) := by
  unfold Daemon.RoutesUnbound
  infer_instance

instance (w : World) (op : Op) (w' : World) : Decidable (OnlyUnbinds w op w') := by
  unfold OnlyUnbinds
  infer_instance

instance (w : World) (op : Op) (c : Choice) : Decidable (reservesRouted w op c) := by
  delta reservesRouted World.Reserves
  induction op using Op.casesOn with
  | enter entry => induction entry using Entry.casesOn <;> infer_instance
  | _ => infer_instance

/-- A pass takes the driver off the scanner and offers it to the resume. -/
theorem reserved_offered_scanner : ∃ tr w' o,
    Exec (machine reservesRouted) (reconcile scannerListed.daemon).run scannerListed tr w' o ∧
      (∀ e ∈ tr, OffersReserved scannerListed e.1 e.2) ∧
      (scannerListed.bus.driver "1-1:1.0").isSome = true ∧ w'.bus.driver "1-1:1.0" = none := by
  have hpass : ∀ e ∈ scannerListed.trace onPortOne .reconcile,
      reservesRouted e.1 e.2 (onPortOne e.1 e.2) := by decide +kernel
  have hreleased : (scannerListed.perform onPortOne .reconcile).bus.driver "1-1:1.0" = none := by
    decide +kernel
  have hexec := Program.follow_exec (reconcile scannerListed.daemon).run scannerListed hpass
  exact ⟨_, _, _, hexec, reserved_offered (fun _ _ _ h => h) hexec, by decide +kernel, hreleased⟩

/-- What a resume is offered. -/
def Op.offers : Op → Option (List UsbDevice)
  | .enter (.resumeUsb offered) => some (offered.map Prod.fst)
  | _ => none

/-- The gate reserves the scanner by its driver and takes the driver off, so the resume of the same
pass does not find it. -/
theorem reserved_not_offered : ¬∀ w, Reachable savesSucceed w → ∀ tr w' o,
    Exec (machine savesSucceed) (reconcile w.daemon).run w tr w' o →
      ∀ e ∈ tr, OffersReserved w e.1 e.2 := by
  intro hclaim
  have hpass : ∀ e ∈ scannerBound.trace onPortOne .reconcile,
      savesSucceed e.1 e.2 (onPortOne e.1 e.2) := by decide +kernel
  have hresume : ∃ e ∈ scannerBound.trace onPortOne .reconcile, e.2.offers = some [] ∧
      Effect.entered (.settleDrivers ["1-1"]) ∈ e.1.log ∧
      ∃ device ∈ e.1.usbDevices, device.sysName = "1-1" := by decide +kernel
  have hinitial : Reachable savesSucceed scannerBound := .initial (by decide) rfl rfl rfl
  have hexec := Program.follow_exec (reconcile scannerBound.daemon).run scannerBound hpass
  obtain ⟨⟨w, op⟩, he, hoffers, hsettled, device, hdevice, hname⟩ := hresume
  have hreserved := hclaim scannerBound hinitial _ _ _ hexec _ he
  have hsince : Since scannerBound w (.entered (.settleDrivers ["1-1"])) :=
    ⟨w.log, (List.append_nil _).symm, hsettled⟩
  cases op with
  | enter entry =>
      cases entry with
      | resumeUsb offered =>
          obtain rfl : offered = [] := List.map_eq_nil_iff.1 (Option.some.inj hoffers)
          obtain ⟨rule, hrule⟩ := hreserved [] rfl ["1-1"] hsince device hdevice (by simp [hname])
          cases hrule
      | _ => cases hoffers
  | _ => cases hoffers

end GhafDeviceManager
