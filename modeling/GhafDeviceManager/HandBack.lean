import GhafDeviceManager.Hotplug
import GhafDeviceManager.Suspension

/-!
# Handing the bus back

`openUsbGate` goes by the nodes recorded in memory and by one scan of its own. A device that a VM
holds is left alone if both show it, and otherwise only if there is nothing on it to probe.
-/

namespace GhafDeviceManager

open Fallible UsbGate

/-! ## Devices that VMs hold -/

def World.recorded (w : World) (entry : UsbEntry) : Bool :=
  (deviceNode (entry.decimal "busnum") (entry.decimal "devnum")).any fun node =>
    (w.memory.usbVms.lookup node).isSome

/-- The binding of this name is of its VM's present instance, whose Crosvm lists it. -/
def World.liveBound (w : World) (name : String) : Bool :=
  (w.memory.persistent.crosvmUsbPorts.lookup name).any fun binding =>
    (w.daemon.vm binding.vm).any fun vm =>
      w.sockets vm.socket == some binding.socketGeneration &&
        (w.ports vm.socket).any (listsBinding binding)

/-- The entry is a device that a VM holds. -/
structure World.Holds (w : World) (entry : UsbEntry) : Prop where
  present : entry ∈ w.bus.entries
  device : entry.isInterface = false
  held : w.recorded entry = true ∨ w.liveBound entry.name = true

/-- The call probes the device of this name or one of its interfaces. -/
def Op.HandsBack (name : String) : Op → Prop
  | .probe target => target = name ∨ Text.startsWith target (interfacePrefix name) = true
  | _ => False

def UsbBus.sight (bus : UsbBus) (name : String) :
    Option String × Option Bool × List (String × Option String) :=
  (bus.driver name, bus.authorization name,
    (bus.interfaces name).map fun interface => (interface, bus.driver interface))

/-- A probe of this name leaves the other devices as they are. -/
def SparesDevices (target : String) (before after : UsbBus) : Prop :=
  ∀ name ∈ before.deviceNames, ¬(Op.probe target).HandsBack name →
    name ∈ after.deviceNames ∧ after.sight name = before.sight name

/-- The scans succeed or fail, and the kernel does what it is told and no more. -/
def kernelSpares (scanned : Bool) (w : World) : Op → Choice → Prop
  | .scanUsb, c => c.fail = !scanned
  | .setAutoprobe _, c => c.bus = none
  | .probe target, c => ∀ bus ∈ c.bus, SparesDevices target w.bus bus
  | _, _ => True

/-- Nothing on the device is for the host to take. -/
def World.Occupied (w : World) (name : String) : Prop :=
  w.daemon.config.usbAuthorization.enabled = true ∧ w.bus.authorization name = some false ∨
    (w.bus.driver name).isSome = true ∧
      ∀ interface ∈ w.bus.interfaces name, (w.bus.driver interface).isSome = true

/-- Wherever the gate is there to be opened, the held devices are recorded and in the scan, or
leave nothing to probe. -/
def World.ReopensSafely (w : World) (scanned : Bool) : Prop :=
  w.daemon.routesUsb = true → w.bus.autoprobe = some "0" → ∀ entry, w.Holds entry →
    scanned = true ∧ reported w.bus.hostStorage entry = true ∧ w.recorded entry = true ∨
      w.Occupied entry.name

section Names

variable {bus : UsbBus} {name target : String}

theorem mem_deviceNames : name ∈ bus.deviceNames ↔
    ∃ entry ∈ bus.entries, entry.isInterface = false ∧ entry.name = name := by
  rw [UsbBus.deviceNames, mem_sortNames, List.mem_filter, List.mem_map]
  constructor
  · rintro ⟨⟨entry, hentry, rfl⟩, hcolon⟩
    have hdevice : Text.contains entry.name ':' = false := by simpa using hcolon
    exact ⟨entry, hentry, hdevice, rfl⟩
  · rintro ⟨entry, hentry, hdevice, rfl⟩
    have hcolon : Text.contains entry.name ':' = false := hdevice
    exact ⟨⟨entry, hentry, rfl⟩, by simpa using hcolon⟩

theorem mem_interfaces (h : target ∈ bus.interfaces name) :
    Text.startsWith target (interfacePrefix name) = true := by
  rw [UsbBus.interfaces, mem_sortNames, List.mem_filter] at h
  exact h.2

theorem UsbBus.Lawful.deviceName (h : bus.Lawful) (hname : name ∈ bus.deviceNames) :
    DeviceName name := by
  obtain ⟨entry, hentry, hdevice, rfl⟩ := mem_deviceNames.1 hname
  exact h.names entry hentry hdevice

/-- A device is not named like an interface. -/
theorem startsWith_deviceName {other : String} (h : DeviceName name) :
    Text.startsWith name (interfacePrefix other) = false := by
  by_contra hstart
  have hcolon := contains_of_startsWith (Bool.eq_true_of_not_eq_false hstart)
  have hmem : ':' ∈ name.toList := by simpa [Text.contains] using hcolon
  exact h.1 hmem

theorem not_handsBack_device (htarget : DeviceName target) (hne : target ≠ name) :
    ¬(Op.probe target).HandsBack name := by
  rintro (heq | hstart)
  · exact hne heq
  · rw [startsWith_deviceName htarget] at hstart
    cases hstart

theorem not_handsBack_interface {other : String} (hname : DeviceName name)
    (hother : DeviceName other) (hne : other ≠ name)
    (htarget : Text.startsWith target (interfacePrefix other) = true) :
    ¬(Op.probe target).HandsBack name := by
  rintro (heq | hstart)
  · rw [heq, startsWith_deviceName hname] at htarget
    cases htarget
  · exact hne (owner_unique hother hname htarget hstart)

end Names

/-! ## A device that is left alone -/

structure Kept (w₀ : World) (name : String) (w : World) : Prop where
  daemon : w.daemon = w₀.daemon
  present : name ∈ w.bus.deviceNames
  sight : w.bus.sight name = w₀.bus.sight name

section Loop

variable {w₀ w : World} {name target : String} {scanned : Bool} {c : Choice} {held : List String}

theorem Kept.driver (h : Kept w₀ name w) : w.bus.driver name = w₀.bus.driver name :=
  congrArg Prod.fst h.sight

theorem Kept.authorization (h : Kept w₀ name w) :
    w.bus.authorization name = w₀.bus.authorization name :=
  congrArg (fun sight => sight.2.1) h.sight

theorem Kept.interfaces (h : Kept w₀ name w) : w.bus.interfaces name = w₀.bus.interfaces name := by
  have hsame := congrArg (fun sight => sight.2.2.map Prod.fst) h.sight
  simpa [UsbBus.sight, Function.comp_def] using hsame

theorem Kept.interfaceDriver (h : Kept w₀ name w) (htarget : target ∈ w₀.bus.interfaces name) :
    w.bus.driver target = w₀.bus.driver target := by
  have hsame := congrArg (fun sight => sight.2.2) h.sight
  simp only [UsbBus.sight, h.interfaces] at hsame
  have hpair := List.map_inj_left.1 hsame target htarget
  exact congrArg Prod.snd hpair

theorem Kept.probe (h : Kept w₀ name w) (hc : kernelSpares scanned w (.probe target) c)
    (hspares : ¬(Op.probe target).HandsBack name) : Kept w₀ name (react w (.probe target) c).2 := by
  have hbus : ∀ bus effect, SparesDevices target w.bus bus ∨ bus = w.bus →
      Kept w₀ name ({ w with bus := bus }.record effect) := by
    rintro bus _ (hafter | rfl)
    · obtain ⟨hpresent, hsight⟩ := hafter name h.present hspares
      exact ⟨h.daemon, hpresent, hsight.trans h.sight⟩
    · exact ⟨h.daemon, h.present, h.sight⟩
  simp only [react, Choice.setBus]
  cases c.fail with
  | true => exact hbus _ _ (.inr rfl)
  | false =>
      cases hmore : c.bus with
      | none => exact hbus _ _ (.inr rfl)
      | some bus => exact hbus _ _ (.inl (hc bus hmore))

theorem wp_probe_kept (h : Kept w₀ name w) (hspares : ¬(Op.probe target).HandsBack name) :
    (warnOnError (probe target)).wp (machine (kernelSpares scanned))
      (fun _ op => ¬op.HandsBack name) (fun _ => Kept w₀ name) w := by
  rw [wp_warnOnError, GhafDeviceManager.probe, wp_operation]
  exact ⟨hspares, fun c hc => h.probe hc hspares⟩

theorem wp_handBackInterface_kept (h : Kept w₀ name w)
    (hspares : w.bus.driver target = none → ¬(Op.probe target).HandsBack name) :
    (handBackInterface target).wp (machine (kernelSpares scanned))
      (fun _ op => ¬op.HandsBack name) (fun _ => Kept w₀ name) w := by
  rw [handBackInterface, wp_bind, GhafDeviceManager.driver, wp_operation]
  refine ⟨id, fun c _ => ?_⟩
  rw [react, andThen_ok]
  cases hdriver : w.bus.driver target with
  | some bound => exact h
  | none => exact wp_probe_kept h (hspares hdriver)

theorem wp_handBackInterfaces_kept {other : String} (h : Kept w₀ name w)
    (hspares : ∀ w, Kept w₀ name w → ∀ target ∈ w.bus.interfaces other, ∀ w', Kept w₀ name w' →
      w'.bus.driver target = none → ¬(Op.probe target).HandsBack name) :
    wp (machine (kernelSpares scanned)) (fun _ op => ¬op.HandsBack name) (do
      match ← Fallible.attempt (interfaces other) with
      | .error _ => pure ()
      | .ok names => names.forM handBackInterface) (fun _ => Kept w₀ name) w := by
  rw [wp_bind, wp_attempt, GhafDeviceManager.interfaces, wp_operation]
  refine ⟨id, fun c _ => ?_⟩
  cases hfail : c.fail with
  | true => simpa [react, Choice.result, hfail] using h
  | false =>
      simp only [react, Choice.result, hfail, Bool.false_eq_true, if_false, id, andThen_ok]
      refine wp_forM (fun target htarget w' hw' => ?_) h
      exact wp_handBackInterface_kept hw' (hspares w h target htarget w' hw')

theorem wp_handBack_of {other : String} {d : Daemon} (h : Kept w₀ name w)
    (hspares : held.contains other = false → (d.config.usbAuthorization.enabled = true →
      w.bus.authorization other ≠ some false) →
      (w.bus.driver other = none → ¬(Op.probe other).HandsBack name) ∧
      ∀ w, Kept w₀ name w → ∀ target ∈ w.bus.interfaces other, ∀ w', Kept w₀ name w' →
        w'.bus.driver target = none → ¬(Op.probe target).HandsBack name) :
    (handBack d held other).wp (machine (kernelSpares scanned))
      (fun _ op => ¬op.HandsBack name) (fun _ => Kept w₀ name) w := by
  unfold handBack
  cases hheld : held.contains other with
  | true => exact h
  | false =>
      have hrest : (d.config.usbAuthorization.enabled = true →
          w.bus.authorization other ≠ some false) → wp (machine (kernelSpares scanned))
          (fun _ op => ¬op.HandsBack name) (do
            if (← driver other).isNone then warnOnError (probe other)
            match ← Fallible.attempt (interfaces other) with
            | .error _ => pure ()
            | .ok names => names.forM handBackInterface) (fun _ => Kept w₀ name) w := by
        intro hauthorized
        obtain ⟨hdevice, hinterfaces⟩ := hspares hheld hauthorized
        rw [wp_bind, GhafDeviceManager.driver, wp_operation]
        refine ⟨id, fun c _ => ?_⟩
        rw [react, andThen_ok]
        cases hdriver : w.bus.driver other with
        | some bound => exact wp_handBackInterfaces_kept h hinterfaces
        | none =>
            refine (wp_bind _ _ _).2 (wp_imp (wp_probe_kept h (hdevice hdriver)) fun r w' hw' => ?_)
            cases r with
            | error e => exact hw'
            | ok _ => exact wp_handBackInterfaces_kept hw' hinterfaces
      simp only [Bool.not_false, if_true]
      rw [wp_bind, heldUnauthorized]
      cases henabled : d.config.usbAuthorization.enabled with
      | false =>
          refine hrest fun htrue => ?_
          rw [henabled] at htrue
          cases htrue
      | true =>
          rw [if_pos rfl, wp_bind, GhafDeviceManager.authorization, wp_operation]
          refine ⟨id, fun c _ => ?_⟩
          rw [react, andThen_ok]
          cases hunauthorized : w.bus.authorization other == some false with
          | true => exact h
          | false => exact hrest fun _ => by simpa using hunauthorized

theorem wp_handBack_other {other : String} {d : Daemon} (h : Kept w₀ name w)
    (hname : DeviceName name) (hother : DeviceName other) (hne : other ≠ name) :
    (handBack d held other).wp (machine (kernelSpares scanned))
      (fun _ op => ¬op.HandsBack name) (fun _ => Kept w₀ name) w := by
  refine wp_handBack_of h fun _ _ => ⟨fun _ => not_handsBack_device hother hne, ?_⟩
  intro w _ target htarget _ _ _
  exact not_handsBack_interface hname hother hne (mem_interfaces htarget)

theorem wp_handBack_occupied (h : Kept w₀ name w) (hoccupied : w₀.Occupied name) :
    (handBack w₀.daemon held name).wp (machine (kernelSpares scanned))
      (fun _ op => ¬op.HandsBack name) (fun _ => Kept w₀ name) w := by
  refine wp_handBack_of h fun _ hauthorized => ?_
  obtain ⟨henabled, hunauthorized⟩ | ⟨hdriver, hinterfaces⟩ := hoccupied
  · exact absurd (h.authorization.trans hunauthorized) (hauthorized henabled)
  · constructor
    · intro hnone
      rw [← h.driver, hnone] at hdriver
      cases hdriver
    · intro w hw target htarget w' hw' hnone
      rw [hw.interfaces] at htarget
      have hbound := hinterfaces target htarget
      rw [← hw'.interfaceDriver htarget, hnone] at hbound
      cases hbound

end Loop

/-! ## Before the loop -/

def World.heldNames (w : World) (scanned : Bool) : List String :=
  if scanned then (w.usbDevices.filter fun device =>
    device.deviceNode.any fun node => (w.memory.usbVms.lookup node).isSome).map UsbDevice.sysName
  else []

def reopen (d : Daemon) (held : List String) : Act Unit := do
  setAutoprobe "1"
  let names ← deviceNames
  names.forM (handBack d held)

section Opening

variable {w : World} {scanned : Bool} {d : Daemon} {G : World → Op → Prop} {name : String}

theorem mem_heldNames : name ∈ w.heldNames scanned ↔ scanned = true ∧ ∃ entry ∈ w.bus.entries,
    reported w.bus.hostStorage entry = true ∧ w.recorded entry = true ∧ entry.name = name := by
  unfold World.heldNames
  cases scanned with
  | false => simp
  | true =>
      simp only [if_true, List.mem_map, List.mem_filter, World.usbDevices, mem_scanUsb, true_and]
      constructor
      · rintro ⟨_, ⟨⟨entry, hentry, hreported, rfl⟩, hrecorded⟩, rfl⟩
        exact ⟨entry, hentry, hreported, hrecorded, rfl⟩
      · rintro ⟨entry, hentry, hreported, hrecorded, rfl⟩
        exact ⟨_, ⟨⟨entry, hentry, hreported, rfl⟩, hrecorded⟩, rfl⟩

theorem wp_usbHeldByVms {post : Except Error (List String) → World → Prop}
    (hG : ∀ w op, (∀ target, op ≠ .probe target) → G w op) :
    (usbHeldByVms).wp (machine (kernelSpares scanned)) G post w ↔
      post (.ok (w.heldNames scanned)) w := by
  have hscan : ∀ c, kernelSpares scanned w .scanUsb c → (react w .scanUsb c).1 =
      if scanned then .ok w.usbDevices else .error ["failed to scan"] := by
    intro c hc
    have hfail : c.fail = !scanned := hc
    cases scanned <;> simp [react, Choice.result, hfail]
  rw [usbHeldByVms, wp_bind, wp_attempt, scanUsbRoot, wp_operation]
  constructor
  · rintro ⟨-, h⟩
    have hpost := h { fail := !scanned } rfl
    rw [hscan { fail := !scanned } rfl] at hpost
    cases scanned with
    | false => exact hpost
    | true =>
        simp only [if_true, id, andThen_ok, wp_bind, readMemory, wp_operation] at hpost
        exact hpost.2 {} trivial
  · refine fun h => ⟨hG _ _ (by simp), fun c hc => ?_⟩
    rw [hscan c hc]
    cases scanned with
    | false => exact h
    | true =>
        simp only [if_true, id, andThen_ok, wp_bind, readMemory, wp_operation]
        exact ⟨hG _ _ (by simp), fun _ _ => h⟩

/-- The gate is opened where there is a bus, a rule, and a closed gate. -/
theorem wp_openUsbGate_iff (hG : ∀ w op, (∀ target, op ≠ .probe target) → G w op) :
    (openUsbGate d).wp (machine (kernelSpares scanned)) G (fun _ _ => True) w ↔
      (d.routesUsb = true → w.bus.autoprobe = some "0" →
        (reopen d (w.heldNames scanned)).wp (machine (kernelSpares scanned)) G
          (fun _ _ => True) w) := by
  have hbus : ∀ f : Bool → Act Unit, (usbBus >>= f).wp (machine (kernelSpares scanned)) G
      (fun _ _ => True) w ↔ (f w.bus.autoprobe.isSome).wp (machine (kernelSpares scanned)) G
        (fun _ _ => True) w := by
    intro f
    rw [wp_bind, usbBus, wp_operation]
    exact ⟨fun h => h.2 {} trivial, fun h => ⟨hG _ _ nofun, fun _ _ => h⟩⟩
  have hautoprobe : ∀ f : Option String → Act Unit, (readAutoprobe >>= f).wp
      (machine (kernelSpares scanned)) G (fun _ _ => True) w ↔
        (f w.bus.autoprobe).wp (machine (kernelSpares scanned)) G (fun _ _ => True) w := by
    intro f
    rw [wp_bind, readAutoprobe, wp_operation]
    exact ⟨fun h => h.2 {} trivial, fun h => ⟨hG _ _ nofun, fun _ _ => h⟩⟩
  rw [openUsbGate, hbus]
  cases hroutes : d.routesUsb with
  | false => simp
  | true =>
      by_cases hclosed : w.bus.autoprobe = some "0"
      · simp only [hclosed, Option.isSome_some, Bool.and_true, if_true, hautoprobe,
          beq_self_eq_true, wp_bind, wp_usbHeldByVms hG, andThen_ok, true_implies]
        rw [reopen, wp_bind]
      · cases hsome : w.bus.autoprobe.isSome with
        | false => simp [hclosed]
        | true =>
            have hopen : (w.bus.autoprobe == some "0") = false := by simpa using hclosed
            simp only [Bool.and_true, if_true, hautoprobe, hopen]
            simp [hclosed]

theorem UsbBus.Lawful.eq_of_name {bus : UsbBus} (h : bus.Lawful) {entry other : UsbEntry}
    (hentry : entry ∈ bus.entries) (hother : other ∈ bus.entries)
    (hname : other.name = entry.name) : other = entry :=
  List.inj_on_of_nodup_map h.distinct hother hentry hname

theorem mem_heldNames_iff {entry : UsbEntry} (hlawful : w.bus.Lawful)
    (hentry : entry ∈ w.bus.entries) : entry.name ∈ w.heldNames scanned ↔ scanned = true ∧
      reported w.bus.hostStorage entry = true ∧ w.recorded entry = true := by
  rw [mem_heldNames]
  constructor
  · rintro ⟨hscanned, other, hother, hreported, hrecorded, hname⟩
    obtain rfl := hlawful.eq_of_name hentry hother hname
    exact ⟨hscanned, hreported, hrecorded⟩
  · rintro ⟨hscanned, hreported, hrecorded⟩
    exact ⟨hscanned, entry, hentry, hreported, hrecorded, rfl⟩

end Opening

/-! ## Safe reopening -/

section Safe

variable {w : World} {scanned : Bool} {entry : UsbEntry}

theorem wp_reopen_spares (hlawful : w.bus.Lawful) (hentry : entry ∈ w.bus.entries)
    (hdevice : entry.isInterface = false)
    (hsafe : entry.name ∈ w.heldNames scanned ∨ w.Occupied entry.name) :
    (reopen w.daemon (w.heldNames scanned)).wp (machine (kernelSpares scanned))
      (fun _ op => ¬op.HandsBack entry.name) (fun _ _ => True) w := by
  have hpresent : entry.name ∈ w.bus.deviceNames := mem_deviceNames.2 ⟨entry, hentry, hdevice, rfl⟩
  have hname : DeviceName entry.name := hlawful.deviceName hpresent
  rw [reopen, wp_bind, setAutoprobe, wp_operation]
  refine ⟨id, fun c hc => ?_⟩
  have hbus : c.bus = none := hc
  cases hfail : c.fail with
  | true => simp [react, Choice.result, hfail]
  | false =>
      simp only [react, Choice.result, Choice.setBus, hfail, hbus, Bool.false_eq_true, if_false,
        Option.getD_none, id, andThen_ok, wp_bind, deviceNames, wp_operation]
      refine ⟨not_false, fun c' _ => ?_⟩
      cases hfail' : c'.fail with
      | true => simp
      | false =>
          simp only [Bool.false_eq_true, if_false, andThen_ok]
          refine wp_imp (wp_forM (I := Kept w entry.name) (fun other hother w' hw' => ?_)
            ⟨rfl, hpresent, rfl⟩) fun _ _ _ => trivial
          by_cases hne : other = entry.name
          · subst hne
            obtain hheld | hoccupied := hsafe
            · have hcontains : (w.heldNames scanned).contains entry.name = true := by
                simpa using hheld
              rw [handBack, hcontains]
              exact hw'
            · exact wp_handBack_occupied hw' hoccupied
          · exact wp_handBack_other hw' hname (hlawful.deviceName hother) hne

end Safe

/-! ## Unsafe reopening -/

/-- Nothing fails but the scan, if it is to, and the kernel binds no driver. -/
def settled (scanned : Bool) (_ : World) (op : Op) (c : Choice) : Prop :=
  c = { fail := match op with | .scanUsb => !scanned | _ => false }

structure Still (w₁ w : World) : Prop where
  daemon : w.daemon = w₁.daemon
  bus : w.bus = w₁.bus

section Unsafe

variable {w w₁ : World} {scanned : Bool} {entry : UsbEntry} {held : List String} {name : String}

theorem kernelSpares_of_settled {op : Op} {c : Choice} (hc : settled scanned w op c) :
    kernelSpares scanned w op c := by
  cases op with
  | scanUsb =>
      obtain rfl := hc
      rfl
  | setAutoprobe value =>
      obtain rfl := hc
      rfl
  | probe target =>
      obtain rfl := hc
      exact nofun
  | _ => trivial

theorem settled_total (scanned : Bool) (w : World) (op : Op) :
    ∃ r w', (machine (settled scanned)).step w op r w' := ⟨_, _, _, rfl, rfl⟩

theorem succeeds_settled {α : Type} {op : Op} {result : Reply op → Except Error α}
    (hop : ∀ w c, Still w₁ w → settled scanned w op c →
      (∃ a, result (react w op c).1 = .ok a) ∧ Still w₁ (react w op c).2) :
    Succeeds (machine (settled scanned)) (fun _ _ => True) (Still w₁)
      (Fallible.request op result) := by
  intro w hw
  rw [wp_operation]
  exact ⟨trivial, fun c hc => hop w c hw hc⟩

theorem succeeds_driver (target : String) : Succeeds (machine (settled scanned))
    (fun _ _ => True) (Still w₁) (driver target) :=
  succeeds_settled fun _ _ hw _ => ⟨⟨_, rfl⟩, hw⟩

theorem succeeds_probe (target : String) : Succeeds (machine (settled scanned))
    (fun _ _ => True) (Still w₁) (warnOnError (probe target)) := by
  intro w hw
  rw [wp_warnOnError, probe, wp_operation]
  refine ⟨trivial, fun c hc => ⟨⟨(), rfl⟩, hw.daemon, ?_⟩⟩
  obtain rfl := hc
  exact hw.bus

theorem succeeds_handBackInterface (target : String) : Succeeds (machine (settled scanned))
    (fun _ _ => True) (Still w₁) (handBackInterface target) := by
  refine succeeds_bind (succeeds_driver target) fun bound => ?_
  cases bound with
  | none => exact succeeds_probe target
  | some bound => exact succeeds_pure ()

theorem succeeds_handBackInterfaces (other : String) : Succeeds (machine (settled scanned))
    (fun _ _ => True) (Still w₁) (do
      match ← Fallible.attempt (interfaces other) with
      | .error _ => pure ()
      | .ok names => names.forM handBackInterface) := by
  have hlist : Succeeds (machine (settled scanned)) (fun _ _ => True) (Still w₁)
      (Fallible.attempt (interfaces other)) := by
    refine succeeds_attempt fun w hw => ?_
    rw [interfaces, wp_operation]
    exact ⟨trivial, fun c _ => hw⟩
  refine succeeds_bind hlist fun r => ?_
  cases r with
  | error e => exact succeeds_pure ()
  | ok names => exact succeeds_forM fun target _ => succeeds_handBackInterface target

theorem succeeds_handBack (d : Daemon) (other : String) : Succeeds (machine (settled scanned))
    (fun _ _ => True) (Still w₁) (handBack d held other) := by
  have hunauthorized : Succeeds (machine (settled scanned)) (fun _ _ => True) (Still w₁)
      (heldUnauthorized d other) := by
    unfold heldUnauthorized
    split
    · have hread : Succeeds (machine (settled scanned)) (fun _ _ => True) (Still w₁)
          (authorization other) := succeeds_settled fun _ _ hw _ => ⟨⟨_, rfl⟩, hw⟩
      exact succeeds_bind hread fun _ => succeeds_pure _
    · exact succeeds_pure _
  unfold handBack
  cases held.contains other with
  | true => exact succeeds_pure ()
  | false =>
      refine succeeds_bind hunauthorized fun unauthorized => ?_
      cases unauthorized with
      | true => exact succeeds_pure ()
      | false =>
          refine succeeds_bind (succeeds_driver other) fun bound => ?_
          cases bound with
          | some bound => exact succeeds_handBackInterfaces other
          | none =>
              exact succeeds_bind (succeeds_probe other) fun _ => succeeds_handBackInterfaces other

/-- A round that probes nothing of its device is one for a device that is held or has nothing to
probe. -/
theorem occupied_of_wp_handBack (hw : Still w₁ w)
    (h : (handBack w₁.daemon held name).wp (machine (settled scanned))
      (fun _ op => ¬op.HandsBack name) (fun _ _ => True) w) :
    name ∈ held ∨ w₁.Occupied name := by
  by_cases hheld : name ∈ held
  · exact .inl hheld
  refine .inr ?_
  have hcontains : held.contains name = false := by simpa using hheld
  by_contra hnot
  have hrest : wp (machine (settled scanned)) (fun _ op => ¬op.HandsBack name) (do
      if (← driver name).isNone then warnOnError (probe name)
      match ← Fallible.attempt (interfaces name) with
      | .error _ => pure ()
      | .ok names => names.forM handBackInterface) (fun _ _ => True) w → False := by
    intro h
    rw [wp_bind, driver, wp_operation] at h
    have hnext := h.2 _ rfl
    rw [react, andThen_ok, hw.bus] at hnext
    cases hdriver : w₁.bus.driver name with
    | none =>
        rw [hdriver] at hnext
        simp only [Option.isNone_none, if_true, wp_bind, wp_warnOnError, probe,
          wp_operation] at hnext
        exact hnext.1 (.inl rfl)
    | some bound =>
        rw [hdriver] at hnext
        simp only [Option.isNone_some, Bool.false_eq_true, if_false, wp_bind, wp_attempt,
          interfaces, wp_operation] at hnext
        have hloop := hnext.2 _ rfl
        simp only [react, Choice.result, Bool.false_eq_true, if_false, id, andThen_ok] at hloop
        refine hnot (.inr ⟨by rw [hdriver]; rfl, fun target htarget => ?_⟩)
        by_contra hnone
        have hmem : target ∈ w.bus.interfaces name := by rwa [hw.bus]
        obtain ⟨w', hw', hround⟩ := wp_forM_reaches (fun w => ⟨w, rfl⟩) (settled_total scanned)
          (fun other _ => succeeds_handBackInterface other) hloop hw hmem
        rw [handBackInterface, wp_bind, driver, wp_operation] at hround
        have hprobe := hround.2 _ rfl
        have hunbound : w₁.bus.driver target = none := by simpa using hnone
        rw [react, andThen_ok, hw'.bus, hunbound] at hprobe
        simp only [Option.isNone_none, if_true, wp_warnOnError, probe, wp_operation] at hprobe
        exact hprobe.1 (.inr (mem_interfaces htarget))
  simp only [handBack, hcontains, Bool.not_false, if_true, heldUnauthorized] at h
  cases henabled : w₁.daemon.config.usbAuthorization.enabled with
  | false =>
      rw [henabled] at h
      exact hrest h
  | true =>
      rw [henabled] at h
      simp only [if_true, wp_bind, authorization, wp_operation] at h
      have hnext := h.2 _ rfl
      simp only [react, andThen_ok, hw.bus, wp_pure] at hnext
      cases hunauthorized : w₁.bus.authorization name == some false with
      | true => exact hnot (.inl ⟨henabled, by simpa using hunauthorized⟩)
      | false =>
          rw [hunauthorized] at hnext
          simp only [Bool.not_false, if_true] at hnext
          exact hrest hnext

theorem occupied_of_wp_reopen (hentry : entry ∈ w.bus.entries)
    (hdevice : entry.isInterface = false)
    (h : (reopen w.daemon held).wp (machine (kernelSpares scanned))
      (fun _ op => ¬op.HandsBack entry.name) (fun _ _ => True) w) :
    entry.name ∈ held ∨ w.Occupied entry.name := by
  rw [reopen, wp_bind, setAutoprobe, wp_operation] at h
  have hlisting := h.2 {} rfl
  simp only [react, Choice.result, Choice.setBus, Bool.false_eq_true, if_false, Option.getD_none,
    id, andThen_ok, wp_bind, deviceNames, wp_operation] at hlisting
  have hloop := hlisting.2 {} trivial
  simp only [Bool.false_eq_true, if_false, andThen_ok] at hloop
  have hpresent : entry.name ∈ w.bus.deviceNames := mem_deviceNames.2 ⟨entry, hentry, hdevice, rfl⟩
  have hsettled := Fallible.wp_anti (fun _ _ _ => kernelSpares_of_settled) hloop
  obtain ⟨w', hw', hround⟩ := wp_forM_reaches (fun w => ⟨w, rfl⟩) (settled_total scanned)
    (fun other _ => succeeds_handBack w.daemon other) hsettled ⟨rfl, rfl⟩ hpresent
  have hspared := occupied_of_wp_handBack hw' hround
  exact hspared

end Unsafe

/-- Whether a held device is probed when the bus is handed back can be read off the state and
whether the scan succeeds. -/
theorem open_usb_gate_spares_held_iff {w : World} (hlawful : w.bus.Lawful) (scanned : Bool) :
    (∀ tr w' o, Exec (machine (kernelSpares scanned)) (openUsbGate w.daemon).run w tr w' o →
      ∀ entry, w.Holds entry → ∀ e ∈ tr, ¬e.2.HandsBack entry.name) ↔
        w.ReopensSafely scanned := by
  have hquiet : ∀ {name : String} (w : World) (op : Op), (∀ target, op ≠ .probe target) →
      ¬op.HandsBack name := by
    intro name w op hop
    cases op with
    | probe target => exact absurd rfl (hop target)
    | _ => exact id
  constructor
  · intro h hroutes hclosed entry hholds
    have htotal : ∀ w op, ∃ r w', (machine (kernelSpares scanned)).step w op r w' := fun w op =>
      let ⟨r, w', c, hc, heq⟩ := settled_total scanned w op
      ⟨r, w', c, kernelSpares_of_settled hc, heq⟩
    have hwp : (openUsbGate w.daemon).wp (machine (kernelSpares scanned))
        (fun _ op => ¬op.HandsBack entry.name) (fun _ _ => True) w :=
      Program.wp_of_exec htotal fun tr w' o hexec =>
        ⟨h tr w' o hexec entry hholds, fun _ _ => trivial⟩
    have hreopen := (wp_openUsbGate_iff hquiet).1 hwp hroutes hclosed
    obtain hheld | hoccupied := occupied_of_wp_reopen hholds.present hholds.device hreopen
    · exact .inl ((mem_heldNames_iff hlawful hholds.present).1 hheld)
    · exact .inr hoccupied
  · intro hsafe tr w' o hexec entry hholds
    refine (Program.wp_sound ((wp_openUsbGate_iff hquiet).2 fun hroutes hclosed => ?_) hexec).1
    refine wp_reopen_spares hlawful hholds.present hholds.device ?_
    obtain hlisted | hoccupied := hsafe hroutes hclosed entry hholds
    · exact .inl ((mem_heldNames_iff hlawful hholds.present).2 hlisted)
    · exact .inr hoccupied

/-! ## A new process -/

def keyboardGated : World :=
  { sharedKeyboard with
    bus := {
      autoprobe := some "0"
      entries := [{ keyboard "1-1" "4" with driver := some "/sys/bus/usb/drivers/usb" },
        { name := "1-1:1.0", files := [("bInterfaceClass", "03")] }] } }

def keyboardInGuest : World := keyboardGated.perform onPortOne toGui

theorem keyboardInGuest_lawful : keyboardInGuest.bus.Lawful where
  distinct := by decide +kernel
  names := by decide +kernel
  owned := by decide +kernel

theorem open_usb_gate_spares_keyboardInGuest :
    (∃ entry, keyboardInGuest.Holds entry) ∧ ∀ tr w' o,
      Exec (machine (kernelSpares true)) (openUsbGate keyboardInGuest.daemon).run keyboardInGuest
        tr w' o → ∀ entry, keyboardInGuest.Holds entry → ∀ e ∈ tr,
          ¬e.2.HandsBack entry.name := by
  have hheld : ∃ entry ∈ keyboardInGuest.bus.entries, entry.isInterface = false ∧
      keyboardInGuest.liveBound entry.name = true := by decide +kernel
  obtain ⟨held, hpresent, hdevice, hlive⟩ := hheld
  refine ⟨⟨held, hpresent, hdevice, .inr hlive⟩, ?_⟩
  refine (open_usb_gate_spares_held_iff keyboardInGuest_lawful true).2 fun _ _ entry hholds => ?_
  have hrecorded : ∀ entry ∈ keyboardInGuest.bus.entries, entry.isInterface = false →
      reported keyboardInGuest.bus.hostStorage entry = true ∧
        keyboardInGuest.recorded entry = true := by decide +kernel
  exact .inl ⟨rfl, hrecorded entry hholds.present hholds.device⟩

/-- The new process knows the binding, not the node, and probes the guest's interface. -/
theorem open_usb_gate_probes_held : ¬∀ w, Reachable savesSucceed w → w.bus.Lawful →
    ∀ tr w' o, Exec (machine (kernelSpares true)) (openUsbGate w.daemon).run w tr w' o →
      ∀ entry, w.Holds entry → ∀ e ∈ tr, ¬e.2.HandsBack entry.name := by
  intro hclaim
  let w := keyboardInGuest.restart keyboardGated.daemon
  have hsaves : ∀ e ∈ keyboardGated.trace onPortOne toGui,
      savesSucceed e.1 e.2 (onPortOne e.1 e.2) := by
    rintro ⟨w', op⟩ _
    cases op <;> trivial
  have hinitial : Reachable savesSucceed keyboardGated := .initial (by decide) rfl rfl rfl
  have hreachable : Reachable savesSucceed w :=
    (hinitial.perform onPortOne toGui hsaves).crash _ (by decide)
  have hlive : ∃ entry ∈ w.bus.entries, entry.isInterface = false ∧
      w.liveBound entry.name = true ∧ entry.name = "1-1" := by decide +kernel
  obtain ⟨entry, hentry, hdevice, hlive, hname⟩ := hlive
  have hexec : Exec (machine (kernelSpares true)) (openUsbGate w.daemon).run w
      ((openUsbGate w.daemon).run.follow react (fun _ _ => {}) w).1
      ((openUsbGate w.daemon).run.follow react (fun _ _ => {}) w).2.1
      (some ((openUsbGate w.daemon).run.follow react (fun _ _ => {}) w).2.2) :=
    Program.follow_exec _ w fun e _ => by
      have hsettled : settled true e.1 e.2 {} := by
        obtain ⟨w', op⟩ := e
        cases op <;> rfl
      exact kernelSpares_of_settled hsettled
  have hprobed : ∃ e ∈ ((openUsbGate w.daemon).run.follow react (fun _ _ => {}) w).1,
      e.2.probed = some "1-1:1.0" := by decide +kernel
  obtain ⟨⟨w', op⟩, he, hop⟩ := hprobed
  have hspares := hclaim w hreachable keyboardInGuest_lawful _ _ _ hexec entry
    ⟨hentry, hdevice, .inr hlive⟩ _ he
  cases op with
  | probe target =>
      obtain rfl := Option.some.inj hop
      rw [hname] at hspares
      exact hspares (.inr (by decide))
  | _ => cases hop

end GhafDeviceManager
