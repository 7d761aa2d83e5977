import GhafDeviceManager.HandBack

/-!
# One pass of the gate

A pass settles nothing before `usbRouting` has decided: it closes the gate, authorizes for the host
and configures devices. The walk over the bus follows with the decision in hand.
-/

namespace GhafDeviceManager

open Fallible

namespace World

def routing (w : World) (devices : List UsbDevice) : World :=
  let seen := (usbRoutingPass (fun device => (w.daemon.usbRule device).isSome) w.memory.usbRouting
    w.memory.persistent.disconnected devices).1
  { w.record (.entered (.usbRouting devices)) with
    memory := { w.memory with usbRouting := seen } }

def routedNames (w : World) (devices : List UsbDevice) : List String :=
  (usbRoutingPass (fun device => (w.daemon.usbRule device).isSome) w.memory.usbRouting
    w.memory.persistent.disconnected devices).2

end World

section Pass

variable {allowed : World → Op → Choice → Prop} {G : World → Op → Prop} {I : World → Prop}
  {w : World} {d : Daemon}

/-- `usbRouting` is one pass over the devices; of its calls, only the entry matters. -/
theorem wp_usbRouting_of {devices : List UsbDevice}
    {post : Except Error (List String) → World → Prop} (hdaemon : w.daemon = d)
    (hG : ∀ w op, op.Observes ∨ (∃ cache, op = .update (.usbRouting cache)) → G w op)
    (henter : G w (.enter (.usbRouting devices)))
    (hpost : ∀ c, allowed w (.enter (.usbRouting devices)) c →
      post (.ok (w.routedNames devices)) (w.routing devices)) :
    (usbRouting d devices).wp (machine allowed) G post w := by
  subst hdaemon
  have hobserves : ∀ {w : World} {op : Op} {rest : Prop}, op.Observes → rest →
      G w op ∧ ∀ c, allowed w op c → rest := fun hop hrest => ⟨hG _ _ (.inl hop), fun _ _ => hrest⟩
  simp only [usbRouting, enter, readMemory, update, Fallible.wp_bind, wp_operation, wp_withLock,
    Fallible.andThen_ok, Fallible.wp_pure, react, updateEffect, Update.apply]
  refine ⟨henter, fun c hc => ?_⟩
  refine hobserves (by trivial) (hobserves (by trivial) (hobserves (by trivial) ?_))
  refine hobserves (by trivial) (hobserves (by trivial) ⟨hG _ _ (.inr ⟨_, rfl⟩), fun _ _ => ?_⟩)
  exact hobserves (by trivial) (hpost c hc)

theorem calls_configureDevices_of {S : Op → Prop} {names : List String}
    (hobserves : ∀ op : Op, op.Observes → S op) (hprobe : ∀ name ∈ names, S (.probe name)) :
    Calls S (configureDevices d names) := by
  refine calls_forM fun name hname => ?_
  refine calls_bind (Program.calls_mono (calls_heldUnauthorized d name) hobserves) fun held => ?_
  refine calls_ite (calls_bind (calls_request (hobserves (.driver name) (by trivial)))
    fun value => ?_) (by trivial)
  exact calls_ite (calls_warnOnError (calls_request (hprobe name hname))) (by trivial)

theorem configureDevices_keeps_of {names : List String}
    (hnames : ∀ name ∈ names, Text.contains name ':' = false)
    (hopens : ∀ op : Op, op.Opens → (∀ target, op = .probe target →
      Text.contains target ':' = false) → Harmless allowed G I op) :
    Keeps (machine allowed) G I (configureDevices d names) := by
  refine keeps_of_harmless (calls_configureDevices_of (fun op hop => ?_) fun name hname => ?_)
  · refine hopens op (opens_of_observes hop) ?_
    rintro target rfl
    exact hop.elim
  · refine hopens _ (by trivial) fun target heq => ?_
    obtain rfl := Op.probe.inj heq
    exact hnames name hname

/-- What the part before the decision keeps and the decision with its walk turns into `P`. -/
theorem wp_applyUsbGate_of {P : Except Error Unit → World → Prop}
    (hscans : ∀ op : Op, op.Authorizes true → Harmless allowed G I op)
    (hopens : ∀ op : Op, op.Opens → (∀ target, op = .probe target →
      Text.contains target ':' = false) → Harmless allowed G I op)
    (hfails : ∀ e w', I w' → P (.error e) w')
    (hidle : ¬(w.bus.autoprobe.isSome = true ∧ d.routesUsb = true) → ∀ w', I w' → P (.ok ()) w')
    (hwalk : d.routesUsb = true → ∀ w, I w → Fallible.wp (machine allowed) G (do
      let routed ← usbRouting d w.usbDevices
      settleDrivers routed) P w) (hw : I w) :
    (applyUsbGate d).wp (machine allowed) G P w := by
  have hobserves : ∀ op : Op, op.Observes → Harmless allowed G I op := by
    intro op hop
    refine hopens op (opens_of_observes hop) ?_
    rintro target rfl
    exact hop.elim
  have hbehind : d.routesUsb = true → ∀ w₁, I w₁ → Fallible.wp (machine allowed) G (do
      configureDevices d (← deviceNames)
      let routed ← usbRouting d (← scanUsbRoot)
      settleDrivers routed) P w₁ := by
    intro hroutes w₁ hw₁
    have hnames : ∀ name ∈ w₁.bus.deviceNames, Text.contains name ':' = false := by
      intro name hname
      obtain ⟨entry, -, hdevice, rfl⟩ := mem_deviceNames.1 hname
      exact hdevice
    rw [Fallible.wp_bind, deviceNames, wp_operation]
    refine ⟨(hobserves .deviceNames (by trivial) w₁ hw₁).1, fun c _ => ?_⟩
    cases hfail : c.fail with
    | true => simpa [react, Choice.result, hfail] using hfails _ w₁ hw₁
    | false =>
        simp only [react, Choice.result, hfail, Bool.false_eq_true, if_false, id,
          Fallible.andThen_ok]
        rw [Fallible.wp_bind]
        refine wp_imp (configureDevices_keeps_of hnames hopens w₁ hw₁) fun r w₂ hw₂ => ?_
        cases r with
        | error e => exact hfails e w₂ hw₂
        | ok _ =>
            rw [Fallible.andThen_ok, Fallible.wp_bind, scanUsbRoot, wp_operation]
            refine ⟨(hobserves .scanUsb (by trivial) w₂ hw₂).1, fun c' _ => ?_⟩
            cases hfail' : c'.fail with
            | true => simpa [react, Choice.result, hfail'] using hfails _ w₂ hw₂
            | false =>
                simp only [react, Choice.result, hfail', Bool.false_eq_true, if_false, id,
                  Fallible.andThen_ok]
                exact hwalk hroutes w₂ hw₂
  have hrest : ∀ w₁, I w₁ → Fallible.wp (machine allowed) G (do
      authorizeUsbForHost d
      if w.bus.autoprobe.isSome && d.routesUsb then
        configureDevices d (← deviceNames)
        let routed ← usbRouting d (← scanUsbRoot)
        settleDrivers routed) P w₁ := by
    intro w₁ hw₁
    rw [Fallible.wp_bind]
    refine wp_imp (keeps_of_harmless (calls_authorizeUsbForHost_of d fun _ => hscans) w₁ hw₁)
      fun r w₂ hw₂ => ?_
    cases r with
    | error e => exact hfails e w₂ hw₂
    | ok _ =>
        rw [Fallible.andThen_ok]
        split
        case isTrue hgate => exact hbehind (Bool.and_eq_true_iff.1 hgate).2 w₂ hw₂
        case isFalse hgate =>
          refine hidle (fun hboth => ?_) w₂ hw₂
          exact hgate (Bool.and_eq_true_iff.2 hboth)
  rw [applyUsbGate, Fallible.wp_bind, usbBus, wp_operation]
  refine ⟨(hobserves .usbBus (by trivial) w hw).1, fun _ _ => ?_⟩
  rw [react, Fallible.andThen_ok]
  dsimp only
  split
  case isTrue =>
    rw [Fallible.wp_bind]
    refine wp_imp (keeps_request (hopens (.setAutoprobe "0") (by trivial) (by simp)) _ w hw)
      fun r w₁ hw₁ => ?_
    cases r with
    | error e => exact hfails e w₁ hw₁
    | ok _ => exact hrest w₁ hw₁
  case isFalse => exact hrest w hw

end Pass

end GhafDeviceManager
