import GhafDeviceManager.NodeRecords

/-!
# What the sweep leaves authorized

With authorization on, a pass ends with a sweep that deauthorizes what no VM and no host rule
accounts for. A record in `usb_vms` is enough for it to pass over a device.
-/

namespace GhafDeviceManager

open Fallible

def untilSweep (d : Daemon) : Act (List String) := do
  update (.deferred false)
  warnOnError (applyUsbGate d)
  observe d
  let failures ← collect "PCI" (resumePci d none) []
  collect "USB" (resumeUsb d none) failures

def sweepAndReport (d : Daemon) (failures : List String) : Act Unit := do
  let failures ← collect "USB authorization" (deauthorizeUnmatchedUsb d) failures
  aggregate failures

theorem reconcile_eq_sweep (d : Daemon) : reconcile d = untilSweep d >>= sweepAndReport d := by
  simp only [reconcile, untilSweep, bind_assoc]
  rfl

/-- Writes of USB attributes succeed, and one that deauthorizes a device does that and leaves the
other devices authorized as they are. -/
def writesSucceed (w : World) : Op → Choice → Prop
  | .setAutoprobe _, c | .probe _, c | .release _, c | .authorize _ true, c => c.fail = false
  | .authorize name false, c => c.fail = false ∧ ∀ bus ∈ c.bus,
      bus.authorization name = some false ∧
        ∀ other, other ≠ name → bus.authorization other = w.bus.authorization other
  | _, _ => True

/-- Runs with their successful passes: the world each one swept, and the one it left. -/
inductive Swept (allowed : World → Op → Choice → Prop) : World → List (World × World) → Prop
  | start (d : Daemon) (hd : d.config.Valid) : Swept allowed { daemon := d } []
  | surroundings {w w' : World} {passes : List (World × World)} (h : Swept allowed w passes)
      (hw : Surroundings w w') : Swept allowed w' passes
  | operation {w w' : World} {tr : List (World × Op)} {r : Except Error Unit}
      {passes : List (World × World)} (o : Operation) (h : Swept allowed w passes)
      (hexec : Exec (machine allowed) (o.program w.daemon).run w tr w' (some r)) :
      Swept allowed w' passes
  | pass {w w₁ w' : World} {tr tr' : List (World × Op)} {failures : List String}
      {passes : List (World × World)} (h : Swept allowed w passes)
      (hfirst : Exec (machine allowed) (untilSweep w.daemon).run w tr w₁ (some (.ok failures)))
      (hsweep : Exec (machine allowed) (sweepAndReport w.daemon failures).run w₁ tr' w'
        (some (.ok ()))) : Swept allowed w' ((w₁, w') :: passes)
  | restart {w w' : World} {tr : List (World × Op)} {passes : List (World × World)}
      (o : Operation) (d : Daemon) (hd : d.config.Valid) (h : Swept allowed w passes)
      (hexec : Exec (machine allowed) (o.program w.daemon).run w tr w' none) :
      Swept allowed (w'.restart d) passes

/-- The device's node is recorded for a VM whose socket exists, and its binding carries the
current generation of that socket. -/
def World.heldByRunning (w : World) (device : UsbDevice) : Bool :=
  ((device.deviceNode.bind w.memory.usbVms.lookup).bind w.daemon.vm).any fun vm =>
    (w.sockets vm.socket).isSome &&
      (w.memory.persistent.crosvmUsbPorts.lookup device.sysName).any fun binding =>
        binding.socketGeneration == w.generation vm.socket

/-- A hub, or a device the configuration leaves to the host. -/
def Daemon.exempts (d : Daemon) (device : UsbDevice) : Bool :=
  device.isHub || d.usbAuthorizationHostAllowed device

/-- The sweep passes over the device. -/
def World.spares (w : World) (device : UsbDevice) : Bool :=
  device.isHub || device.deviceNode.any (fun node => (w.memory.usbVms.lookup node).isSome) ||
    w.daemon.usbAuthorizationHostAllowed device

/-- What the scan at `w` shows is authorized at `w'` only for the host's rules or a running VM. -/
def DefaultDeny (w w' : World) : Prop :=
  ∀ device ∈ w.usbDevices, w'.bus.authorization device.sysName = some true →
    w'.daemon.exempts device = true ∨ w'.heldByRunning device = true

/-- No record that makes the sweep pass over an authorized device is of a VM that stopped, or that
restarted since the device's binding. -/
def NoStaleRecord (w : World) : Prop :=
  ∀ device ∈ w.usbDevices, w.bus.authorization device.sysName = some true →
    (∀ other ∈ w.usbDevices, other.sysName = device.sysName → w.spares other = true) →
      w.daemon.exempts device = true ∨ w.heldByRunning device = true

/-! ## One write -/

section Write

variable {bus : UsbBus} {name other : String}

theorem entry_modify {f : UsbEntry → UsbEntry} (hf : ∀ entry, (f entry).name = entry.name) :
    (bus.modify name f).entry other =
      (bus.entry other).map fun entry => if other = name then f entry else entry := by
  have hname : ∀ entry : UsbEntry, (if entry.name = name then f entry else entry).name =
      entry.name := by
    intro entry
    split
    · exact hf entry
    · rfl
  rw [UsbBus.entry, UsbBus.modify, List.find?_map, UsbBus.entry]
  simp only [Function.comp_def, hname]
  refine Option.map_congr fun entry hentry => ?_
  obtain rfl : entry.name = other := by simpa using List.find?_some hentry
  rfl

theorem authorization_authorized_ne (h : other ≠ name) (value : Bool) :
    (bus.authorized name value).authorization other = bus.authorization other := by
  rw [UsbBus.authorization, UsbBus.authorized, entry_modify]
  · simp only [if_neg h, Option.map_id']
    rfl
  · exact fun _ => rfl

theorem authorization_authorized
    (h : ((bus.entry name).bind fun entry => entry.read "authorized").isSome) (value : Bool) :
    (bus.authorized name value).authorization name = some value := by
  obtain ⟨text, htext⟩ := Option.isSome_iff_exists.1 h
  obtain ⟨entry, hentry, -⟩ := Option.bind_eq_some_iff.1 htext
  rw [UsbBus.authorization, UsbBus.authorized, entry_modify, hentry]
  · cases value <;> simp [UsbEntry.read, UsbBus.flag]
  · exact fun _ => rfl

theorem react_deauthorize {w : World} {c : Choice} (hc : writesSucceed w (.authorize name false) c)
    (h : w.bus.authorization name = some true) :
    (∃ e, (react w (.authorize name false) c).1 = .ok e) ∧
      (react w (.authorize name false) c).2.bus.authorization name = some false ∧
      (∀ other, other ≠ name → (react w (.authorize name false) c).2.bus.authorization other =
        w.bus.authorization other) ∧
      (react w (.authorize name false) c).2.memory = w.memory ∧
      (react w (.authorize name false) c).2.sockets = w.sockets ∧
      (react w (.authorize name false) c).2.daemon = w.daemon := by
  have hread : ((w.bus.entry name).bind fun entry => entry.read "authorized").isSome := by
    by_contra hnone
    rw [Bool.not_eq_true, Option.isSome_eq_false_iff, Option.isNone_iff_eq_none] at hnone
    rw [UsbBus.authorization, hnone] at h
    cases h
  have hpresent : ¬((w.bus.entry name).bind fun entry => entry.read "authorized").isNone := by
    rw [Option.isNone_iff_eq_none]
    exact Option.isSome_iff_ne_none.1 hread
  obtain ⟨hfail, hbus⟩ := hc
  simp only [react, if_neg hpresent, Choice.result, hfail, Choice.setBus, Bool.false_eq_true,
    if_false]
  refine ⟨⟨(), trivial⟩, ?_, ?_, rfl, rfl, rfl⟩
  · cases hchosen : c.bus with
    | none => exact authorization_authorized hread false
    | some after => exact (hbus after hchosen).1
  · intro other hother
    cases hchosen : c.bus with
    | none => exact authorization_authorized_ne hother false
    | some after => exact (hbus after hchosen).2 other hother

end Write

/-! ## The sweep -/

section Sweep

variable {w w₁ : World}

/-- Once the sweep at `w` is through with `done`, a device is authorized if it was and if no device
of that name was to be deauthorized. -/
structure SweptOver (w : World) (done : List UsbDevice) (w₁ : World) : Prop where
  memory : w₁.memory = w.memory
  sockets : w₁.sockets = w.sockets
  daemon : w₁.daemon = w.daemon
  authorized : ∀ name, w₁.bus.authorization name = some true ↔
    w.bus.authorization name = some true ∧
      ∀ device ∈ done, device.sysName = name → w.spares device = true

theorem SweptOver.start (w : World) : SweptOver w [] w :=
  ⟨rfl, rfl, rfl, fun name => by simp⟩

theorem SweptOver.spared {done : List UsbDevice} {device : UsbDevice} (h : SweptOver w done w₁)
    (hspares : w.spares device = true) : SweptOver w (done ++ [device]) w₁ := by
  refine ⟨h.memory, h.sockets, h.daemon, fun name => (h.authorized name).trans ?_⟩
  simp only [List.mem_append, List.mem_singleton]
  constructor
  · rintro ⟨hbefore, hdone⟩
    refine ⟨hbefore, fun other hother hname => ?_⟩
    rcases hother with hother | rfl
    · exact hdone other hother hname
    · exact hspares
  · rintro ⟨hbefore, hall⟩
    exact ⟨hbefore, fun other hother => hall other (.inl hother)⟩

/-- A device that the sweep does not pass over ends unauthorized, and the others as they were. -/
theorem SweptOver.deauthorized {w₂ : World} {done : List UsbDevice} {device : UsbDevice}
    (h : SweptOver w done w₁) (hspares : w.spares device = false) (hmemory : w₂.memory = w₁.memory)
    (hsockets : w₂.sockets = w₁.sockets) (hdaemon : w₂.daemon = w₁.daemon)
    (hself : w₂.bus.authorization device.sysName ≠ some true)
    (hothers : ∀ other, other ≠ device.sysName →
      w₂.bus.authorization other = w₁.bus.authorization other) :
    SweptOver w (done ++ [device]) w₂ := by
  refine ⟨hmemory.trans h.memory, hsockets.trans h.sockets, hdaemon.trans h.daemon,
    fun name => ?_⟩
  by_cases hname : name = device.sysName
  · subst hname
    constructor
    · intro htrue
      exact absurd htrue hself
    · rintro ⟨-, hall⟩
      have hspared := hall device (List.mem_append_right _ List.mem_cons_self) rfl
      rw [hspares] at hspared
      cases hspared
  · rw [hothers name hname, h.authorized name]
    simp only [List.mem_append, List.mem_singleton]
    constructor
    · rintro ⟨hbefore, hdone⟩
      refine ⟨hbefore, fun other hother hsame => ?_⟩
      rcases hother with hother | rfl
      · exact hdone other hother hsame
      · exact absurd hsame.symm hname
    · rintro ⟨hbefore, hall⟩
      exact ⟨hbefore, fun other hother => hall other (.inl hother)⟩

theorem wp_deauthorizeUnmatchedUsb (henabled : w.daemon.config.usbAuthorization.enabled = true)
    (hunmatched : w.daemon.config.usbAuthorization.deauthorizeUnmatched = true) :
    (deauthorizeUnmatchedUsb w.daemon).wp (machine writesSucceed) (fun _ _ => True)
      (fun r w' => r = .ok () → SweptOver w w.usbDevices w') w := by
  have hround : ∀ device rest w₁, (∃ done, w.usbDevices = done ++ device :: rest ∧
      SweptOver w done w₁) → wp (machine writesSucceed) (fun _ _ => True) (do
        let attached := device.deviceNode.any fun node => (w.memory.usbVms.lookup node).isSome
        if !(device.isHub || attached || w.daemon.usbAuthorizationHostAllowed device) then
          if (← authorization device.sysName) == some true then
            withContext ("cannot deauthorize " ++ device.sysName)
              (authorize device.sysName false))
      (fun r w' => r = .ok () → ∃ done, w.usbDevices = done ++ rest ∧ SweptOver w done w') w₁ := by
    rintro device rest w₁ ⟨done, hscan, hdone⟩
    have hsplit : w.usbDevices = (done ++ [device]) ++ rest := by rw [hscan, List.append_assoc]; rfl
    dsimp only
    split
    case isFalse hspares =>
      rw [Bool.not_eq_true', Bool.not_eq_false] at hspares
      exact fun _ => ⟨_, hsplit, hdone.spared hspares⟩
    case isTrue hspares =>
      rw [Bool.not_eq_true'] at hspares
      rw [wp_bind, authorization, wp_operation]
      refine ⟨trivial, fun _ _ => ?_⟩
      rw [react, andThen_ok]
      split
      case isTrue htrue =>
        rw [beq_iff_eq] at htrue
        rw [wp_withContext, authorize, wp_operation]
        refine ⟨trivial, fun c hc _ => ⟨_, hsplit, ?_⟩⟩
        obtain ⟨-, hself, hothers, hmemory, hsockets, hdaemon⟩ := react_deauthorize hc htrue
        refine hdone.deauthorized hspares hmemory hsockets hdaemon ?_ hothers
        rw [hself]
        simp
      case isFalse htrue =>
        rw [beq_iff_eq] at htrue
        exact fun _ => ⟨_, hsplit, hdone.deauthorized hspares rfl rfl rfl htrue fun _ _ => rfl⟩
  have hon : (w.daemon.config.usbAuthorization.enabled &&
      w.daemon.config.usbAuthorization.deauthorizeUnmatched) = true := by
    rw [henabled, hunmatched]
    rfl
  rw [deauthorizeUnmatchedUsb, if_pos hon, wp_bind, scanUsbRoot, wp_operation]
  refine ⟨trivial, fun c _ => ?_⟩
  cases hfail : c.fail with
  | true =>
      simp only [react, Choice.result, hfail, if_true, id, andThen_error]
      exact fun h => by cases h
  | false =>
      simp only [react, Choice.result, hfail, Bool.false_eq_true, if_false, id, andThen_ok]
      rw [wp_bind, enter, wp_operation]
      refine ⟨trivial, fun _ _ => ?_⟩
      rw [andThen_ok, wp_withLock]
      refine ⟨trivial, fun _ _ => ?_⟩
      rw [wp_bind, readMemory, wp_operation]
      refine ⟨trivial, fun _ _ => ?_⟩
      rw [andThen_ok]
      have hloop := wp_forM_rest (M := machine writesSucceed) (G := fun _ _ => True)
        (I := fun rest w' => ∃ done, w.usbDevices = done ++ rest ∧ SweptOver w done w') hround
        (w := w.record (.entered (.deauthorizeUnmatchedUsb w.usbDevices)))
        ⟨[], rfl, ⟨rfl, rfl, rfl, (SweptOver.start w).authorized⟩⟩
      refine wp_imp hloop fun r w' hr => ⟨trivial, fun _ _ hok => ?_⟩
      obtain ⟨done, hdone, hswept⟩ := hr hok
      rw [List.append_nil] at hdone
      rwa [hdone]

theorem wp_sweepAndReport {failures : List String}
    (henabled : w.daemon.config.usbAuthorization.enabled = true)
    (hunmatched : w.daemon.config.usbAuthorization.deauthorizeUnmatched = true) :
    (sweepAndReport w.daemon failures).wp (machine writesSucceed) (fun _ _ => True)
      (fun r w' => r = .ok () → SweptOver w w.usbDevices w') w := by
  rw [sweepAndReport, wp_bind, collect, wp_bind, wp_attempt]
  refine wp_imp (wp_deauthorizeUnmatchedUsb henabled hunmatched) fun r w' hr => ?_
  cases r with
  | error e =>
      have hfailed : ∀ failure, (failures ++ [failure]).isEmpty = false := by simp
      rw [andThen_ok]
      dsimp only
      rw [wp_pure, andThen_ok, aggregate, hfailed]
      exact fun h => by cases h
  | ok _ =>
      rw [andThen_ok]
      dsimp only
      rw [wp_pure, andThen_ok, aggregate]
      split
      · exact fun _ => hr rfl
      · exact fun h => by cases h

theorem SweptOver.heldByRunning {done : List UsbDevice} (h : SweptOver w done w₁)
    (device : UsbDevice) : w₁.heldByRunning device = w.heldByRunning device := by
  simp only [World.heldByRunning, World.generation, h.memory, h.sockets, h.daemon]

/-- After a sweep, what is authorized is accounted for exactly when no stale record made it pass
over a device. -/
theorem SweptOver.defaultDeny_iff (h : SweptOver w w.usbDevices w₁) :
    DefaultDeny w w₁ ↔ NoStaleRecord w := by
  constructor
  · intro hdeny device hdevice hbefore hspared
    have hkept := hdeny device hdevice ((h.authorized device.sysName).2 ⟨hbefore, hspared⟩)
    rwa [h.daemon, h.heldByRunning] at hkept
  · intro hfresh device hdevice hafter
    obtain ⟨hbefore, hspared⟩ := (h.authorized device.sysName).1 hafter
    rw [h.daemon, h.heldByRunning]
    exact hfresh device hdevice hbefore hspared

end Sweep

/-- In every run, a pass that succeeds leaves authorized only hubs, devices left to the host and
devices that a running VM holds exactly when its sweep finds no stale record. -/
theorem default_deny {w : World} {passes : List (World × World)}
    (h : Swept writesSucceed w passes) : ∀ p ∈ passes,
      p.1.daemon.config.usbAuthorization.enabled = true →
      p.1.daemon.config.usbAuthorization.deauthorizeUnmatched = true →
        (DefaultDeny p.1 p.2 ↔ NoStaleRecord p.1) := by
  induction h with
  | start d hd => exact fun p hp => absurd hp List.not_mem_nil
  | surroundings _ _ ih => exact ih
  | operation _ _ _ ih => exact ih
  | restart _ _ _ _ _ ih => exact ih
  | @pass w w₁ w' tr tr' failures passes _ hfirst hsweep ih =>
      intro p hp henabled hunmatched
      obtain rfl | hearlier := List.mem_cons.1 hp
      · have hdaemon : w₁.daemon = w.daemon :=
          (Program.wp_sound (wp_daemon (untilSweep w.daemon)) hfirst).2 _ rfl
        rw [← hdaemon] at hsweep
        have hswept := (Program.wp_sound (wp_sweepAndReport henabled hunmatched) hsweep).2 _ rfl rfl
        exact hswept.defaultDeny_iff
      · exact ih p hearlier henabled hunmatched

/-! ## A keyboard whose VM stops -/

theorem onPortOne_writes (w : World) (op : Op) : writesSucceed w op (onPortOne w op) := by
  cases op with
  | authorize name value =>
      cases value with
      | true => rfl
      | false => exact ⟨rfl, fun bus hbus => by cases hbus⟩
  | _ => trivial

def keyboardDenied : World :=
  { keyboardPlugged with
    daemon := { keyboardPlugged.daemon with
      config := { keyboardPlugged.daemon.config with
        usbAuthorization := { enable := some true, deauthorizeUnmatched := true } } } }

/-- The world a pass sweeps, and the failures it has until then. -/
def World.unswept (w : World) (pick : World → Op → Choice) : World :=
  ((untilSweep w.daemon).run.follow react pick w).2.1

def World.failures (w : World) (pick : World → Op → Choice) : Except Error (List String) :=
  ((untilSweep w.daemon).run.follow react pick w).2.2

def World.swept (w : World) (pick : World → Op → Choice) : World :=
  ((sweepAndReport w.daemon []).run.follow react pick (w.unswept pick)).2.1

theorem Swept.follow {w : World} {passes : List (World × World)} (h : Swept writesSucceed w passes)
    {pick : World → Op → Choice} (hpick : ∀ w op, writesSucceed w op (pick w op))
    (hfailures : w.failures pick = .ok [])
    (hok : ((sweepAndReport w.daemon []).run.follow react pick (w.unswept pick)).2.2.toBool =
      true) : Swept writesSucceed (w.swept pick) ((w.unswept pick, w.swept pick) :: passes) := by
  have hfirst : Exec (machine writesSucceed) (untilSweep w.daemon).run w
      ((untilSweep w.daemon).run.follow react pick w).1 (w.unswept pick)
      (some (w.failures pick)) := Program.follow_exec _ w fun e _ => hpick e.1 e.2
  rw [hfailures] at hfirst
  exact .pass h hfirst (exec_ok (fun e _ => hpick e.1 e.2) hok)

theorem swept_keyboardDenied : Swept writesSucceed (keyboardDenied.swept onPortOne)
    [(keyboardDenied.unswept onPortOne, keyboardDenied.swept onPortOne)] := by
  have hinitial : Swept writesSucceed keyboardDenied [] :=
    .surroundings (.start keyboardDenied.daemon (by decide)) ⟨rfl, rfl, rfl, rfl⟩
  exact hinitial.follow onPortOne_writes (by decide +kernel) (by decide +kernel)

instance (w : World) : Decidable (NoStaleRecord w) := by unfold NoStaleRecord; infer_instance

instance (w w' : World) : Decidable (DefaultDeny w w') := by unfold DefaultDeny; infer_instance

theorem default_deny_keyboardDenied :
    DefaultDeny (keyboardDenied.unswept onPortOne) (keyboardDenied.swept onPortOne) :=
  (default_deny swept_keyboardDenied _ List.mem_cons_self (by decide +kernel)
    (by decide +kernel)).2 (by decide +kernel)

def guiStopped : World :=
  { keyboardDenied.swept onPortOne with
    sockets := Function.update (fun _ => none) netVm.socket (some "net-first") }

def whileRunning (w : World) (op : Op) : Choice :=
  { onPortOne w op with fail := op.socket.any fun socket => (w.sockets socket).isNone }

theorem whileRunning_writes (w : World) (op : Op) : writesSucceed w op (whileRunning w op) := by
  cases op with
  | authorize name value =>
      cases value with
      | true => rfl
      | false => exact ⟨rfl, fun bus hbus => by cases hbus⟩
  | _ => trivial

/-- The attach of the next pass fails and is deferred, the pass succeeds, and the keyboard of the
VM that stopped stays authorized. -/
theorem stays_authorized_after_stop : ¬∀ w passes, Swept writesSucceed w passes →
    ∀ p ∈ passes, p.1.daemon.config.usbAuthorization.enabled = true →
      p.1.daemon.config.usbAuthorization.deauthorizeUnmatched = true → DefaultDeny p.1 p.2 := by
  intro hclaim
  have hstopped : Swept writesSucceed guiStopped _ :=
    .surroundings swept_keyboardDenied ⟨rfl, rfl, rfl, rfl⟩
  have hswept := hstopped.follow whileRunning_writes (by decide +kernel) (by decide +kernel)
  have hdeny := hclaim _ _ hswept _ List.mem_cons_self (by decide +kernel) (by decide +kernel)
  have hnot : ¬DefaultDeny (guiStopped.unswept whileRunning) (guiStopped.swept whileRunning) := by
    decide +kernel
  exact hnot hdeny

end GhafDeviceManager
