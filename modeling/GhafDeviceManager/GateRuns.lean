import GhafDeviceManager.GateWalk

/-!
# Runs of gate passes

Whatever comes and goes in a run, no pass binds a host driver to an interface of a device that its
scans list as routed. A device that no scan lists is left to the host.
-/

namespace GhafDeviceManager

open Fallible UsbGate

def Op.Walks : Op → Prop
  | .enter (.settleDrivers _) | .interfaces _ => True
  | _ => False

theorem calls_routedSet (d : Daemon) : Calls (fun op => ¬op.Walks) (routedSet d) := by
  have hhost : Calls (fun op => ¬op.Walks) (authorizeUsbForHost d) := by
    refine calls_ite (calls_bind (calls_request not_false) fun devices => ?_) (by trivial)
    refine calls_forM fun device _ => calls_ite ?_ (by trivial)
    refine calls_bind (calls_request not_false) fun value => calls_ite ?_ (by trivial)
    exact calls_warnOnError (calls_request not_false)
  have hconfigure : ∀ names, Calls (fun op => ¬op.Walks) (configureDevices d names) := by
    intro names
    refine calls_forM fun name _ => calls_bind ?_ fun held => ?_
    · exact calls_ite (calls_bind (calls_request not_false) fun _ => trivial) (by trivial)
    · refine calls_ite (calls_bind (calls_request not_false) fun value => ?_) (by trivial)
      exact calls_ite (calls_warnOnError (calls_request not_false)) (by trivial)
  have hrouting : ∀ devices, Calls (fun op => ¬op.Walks) (usbRouting d devices) := by
    intro devices
    refine calls_bind (calls_request not_false) fun _ => ?_
    refine calls_withLock not_false not_false ?_
    refine calls_bind (calls_request not_false) fun m => ?_
    refine calls_bind (calls_withLock not_false not_false ?_) fun pass => ?_
    · exact calls_bind (calls_request not_false) fun _ => trivial
    · exact calls_bind (calls_request not_false) fun _ => trivial
  have hrest : ∀ bus : Bool, Calls (fun op => ¬op.Walks) (do
      authorizeUsbForHost d
      if bus && d.routesUsb then
        configureDevices d (← deviceNames)
        let routed ← usbRouting d (← scanUsbRoot)
        return some routed
      else return none) := by
    intro bus
    refine calls_bind hhost fun _ => calls_ite ?_ (by trivial)
    refine calls_bind (calls_request not_false) fun names => ?_
    refine calls_bind (hconfigure names) fun _ => ?_
    refine calls_bind (calls_request not_false) fun devices => ?_
    exact calls_bind (hrouting devices) fun _ => trivial
  refine calls_bind (calls_request not_false) fun bus => ?_
  exact calls_ite (calls_bind (calls_request not_false) fun _ => hrest bus) (hrest bus)

def Op.listed : Op → Option String
  | .interfaces name => some name
  | _ => none

theorem Op.eq_interfaces {op : Op} {name : String} (h : op.listed = some name) :
    op = .interfaces name := by
  cases op with
  | interfaces other =>
      obtain rfl := Option.some.inj h
      rfl
  | _ => cases h

/-- A pass of the gate, cut short where it has no outcome. -/
structure GatePass where
  before : World
  calls : List (World × Op)
  after : World
  outcome : Option (Except Error Unit)

namespace GatePass

variable (p : GatePass) (k : ℕ)

def Runs (allowed : World → Op → Choice → Prop) : Prop :=
  Exec (kernel allowed) (applyUsbGate p.before.daemon).run p.before p.calls p.after p.outcome

def Succeeds : Prop := p.outcome = some (.ok ()) ∧ p.Runs fun _ _ c => c.fail = false

/-- The pass came to its end, and what it asked for the interfaces of a device it was told. -/
def ReadsInterfaces : Prop :=
  p.outcome = some (.ok ()) ∧ p.Runs fun _ op c => op.listed.isSome = true → c.fail = false

/-- Every scan it makes lists the plug-in, if that has its driver then, as a device of a rule's and
unmarked. -/
def AlwaysLists : Prop := ∀ w, (w, .scanUsb) ∈ p.calls → ListsPlugIn k w

/-- However the kernel answers, no probe binds a host driver to an interface of the plug-in. -/
def Spares : Prop := ∀ w name, (w, .probe name) ∈ p.calls →
  ∀ c, KernelAnswers w (.probe name) c → BindsNone k w.bus (react w (.probe name) c).2.bus

/-- Of the interfaces the walk lists, none of the plug-in's stays bound but to usbfs or hub. -/
def Settles : Prop := ∀ w name, (w, .interfaces name) ∈ p.calls →
  ∀ interface ∈ w.bus.interfaces name, SettledAt k interface p.after.bus

/-- What the walk lists outside the routed set it looks at, and probes if it is driverless. -/
def ProbesUnrouted : Prop := ∀ w₀ routed w name, (w₀, .enter (.settleDrivers routed)) ∈ p.calls →
  (w, .interfaces name) ∈ p.calls → name ∉ routed → ∀ interface ∈ w.bus.interfaces name,
    ∃ w₁, (w₁, .driver interface) ∈ p.calls ∧ (w₁.bus.driver interface = none →
      ∃ w₂, [(w₁, .driver interface), (w₂, .probe interface)] <:+: p.calls)

end GatePass

/-- Runs, with their passes newest first. Devices come, go and are replaced at any time; between
two passes the manager does whatever else it does, and may be started anew. -/
inductive GateRun (allowed : World → Op → Choice → Prop) : World → List GatePass → Prop
  | start (w : World) : GateRun allowed w []
  | hotplug {w w' : World} {passes : List GatePass} (h : GateRun allowed w passes)
      (hw : Hotplug w w') : GateRun allowed w' passes
  | pass {p : GatePass} {passes : List GatePass} (h : GateRun allowed p.before passes)
      (hruns : p.Runs allowed) : GateRun allowed p.after (p :: passes)
  | operation {w w' : World} {passes : List GatePass} {tr : List (World × Op)}
      {r : Option (Except Error Unit)} (o : Operation) (h : GateRun allowed w passes)
      (hexec : Exec (kernel allowed) (o.program w.daemon).run w tr w' r) :
      GateRun allowed w' passes
  | restart {w : World} {passes : List GatePass} (d : Daemon) (h : GateRun allowed w passes) :
      GateRun allowed (w.restart d) passes

section Run

variable {allowed : World → Op → Choice → Prop} {k : ℕ} {p : GatePass}

theorem GateRun.runs {w : World} {passes : List GatePass} (h : GateRun allowed w passes)
    (hp : p ∈ passes) : p.Runs allowed := by
  induction h with
  | start w => cases hp
  | hotplug _ _ ih => exact ih hp
  | pass _ hruns ih =>
      obtain rfl | hp := List.mem_cons.1 hp
      · exact hruns
      · exact ih hp
  | operation _ _ _ ih => exact ih hp
  | restart _ _ ih => exact ih hp

/-- A pass whose scans list the plug-in is one of a kernel in which all scans do. -/
theorem GatePass.Runs.listing (h : p.Runs allowed) (hlists : p.AlwaysLists k) :
    p.Runs fun w op c => allowed w op c ∧ (op = .scanUsb → ListsPlugIn k w) := by
  have hcalls : ∀ e ∈ p.calls, e.2 = .scanUsb → ListsPlugIn k e.1 := by
    rintro ⟨w, op⟩ he rfl
    exact hlists w he
  have hrestricted := Exec.restrict (S := fun w op => op = .scanUsb → ListsPlugIn k w) h hcalls
  rw [GatePass.Runs]
  refine hrestricted.mono ?_ ?_
  · exact fun _ _ hmove => hmove
  · rintro w op r w' ⟨c, ⟨⟨hc, hanswers⟩, hscan⟩, hreact⟩
    exact ⟨c, ⟨⟨hc, hscan⟩, hanswers⟩, hreact⟩

theorem wp_applyUsbGate_sparing {w : World}
    (hlists : ∀ w c, allowed w .scanUsb c → ListsPlugIn k w) :
    Fallible.wp (kernel allowed) (ProbesSparing k) (applyUsbGate w.daemon) (fun _ _ => True) w := by
  rw [applyUsbGate_eq, wp_bind]
  refine wp_imp (routedSet_behind hlists rfl) fun r w₁ hw₁ => ?_
  cases r with
  | error e => exact trivial
  | ok decision =>
      cases decision with
      | none => exact trivial
      | some routed =>
          have hkeeps : Keeps (kernel allowed) (ProbesSparing k)
              (fun w => Behind k routed w ∧ True) (settleDrivers routed) :=
            keeps_settleDrivers (J := fun _ => True) fun _ _ _ _ => trivial
          exact wp_imp (hkeeps w₁ ⟨hw₁ routed rfl, trivial⟩) fun _ _ _ => trivial

theorem GatePass.Runs.spares (h : p.Runs allowed) (hlists : p.AlwaysLists k) : p.Spares k := by
  intro w name hprobe c hc
  have hsparing : Fallible.wp
      (kernel fun w op c => allowed w op c ∧ (op = .scanUsb → ListsPlugIn k w)) (ProbesSparing k)
      (applyUsbGate p.before.daemon) (fun _ _ => True) p.before :=
    wp_applyUsbGate_sparing fun w c hc => hc.2 rfl
  obtain ⟨hclosed, hspares⟩ :=
    (Program.wp_sound hsparing (h.listing hlists)).1 _ hprobe name rfl
  refine bindsNone_of_binds (binds_react hclosed hc (by simp)).2 fun probed hprobed => ?_
  obtain rfl := Option.some.inj hprobed
  exact hspares

theorem GatePass.Runs.walk (h : p.Runs allowed) (hok : p.outcome = some (.ok ())) {w : World}
    {name : String} (hlisted : (w, .interfaces name) ∈ p.calls) :
    ∃ routed w₁ front walk, p.calls = front ++ walk ∧ (∀ e ∈ front, ¬e.2.Walks) ∧
      Exec (kernel allowed) (routedSet p.before.daemon).run p.before front w₁
        (some (.ok (some routed))) ∧
      Exec (kernel allowed) (settleDrivers routed).run w₁ walk p.after (some (.ok ())) := by
  have hexec := h
  rw [GatePass.Runs, applyUsbGate_eq, hok] at hexec
  obtain ⟨decision, w₁, front, walk, hfront, hwalk, hcalls⟩ := exec_bind_ok hexec
  have hnot : ∀ e ∈ front, ¬e.2.Walks := hfront.calls (calls_routedSet _)
  cases decision with
  | some routed => exact ⟨routed, w₁, front, walk, hcalls, hnot, hfront, hwalk⟩
  | none =>
      obtain ⟨-, -, rfl⟩ := exec_pure hwalk
      rw [hcalls, List.append_nil] at hlisted
      exact absurd trivial (hnot _ hlisted)

theorem GatePass.Succeeds.settles (h : p.Succeeds) (hlists : p.AlwaysLists k) : p.Settles k := by
  intro w name hlisted interface hinterface
  obtain ⟨routed, w₁, front, walk, hcalls, hnot, hfront, hwalk⟩ :=
    (h.2.listing hlists).walk h.1 hlisted
  have hbehind := (Program.wp_sound (routedSet_behind (k := k) (fun w c hc => hc.2 rfl) rfl)
    hfront).2 _ rfl routed rfl
  rw [hcalls] at hlisted
  obtain hmem | hmem := List.mem_append.1 hlisted
  · exact absurd trivial (hnot _ hmem)
  · exact settleDrivers_settles (fun _ _ _ hc => hc.1) hbehind hwalk hmem hinterface

theorem GatePass.Succeeds.readsInterfaces (h : p.Succeeds) : p.ReadsInterfaces := by
  refine ⟨h.1, ?_⟩
  have hexec := h.2
  rw [GatePass.Runs] at hexec ⊢
  refine hexec.mono ?_ ?_
  · exact fun _ _ hmove => hmove
  · rintro w op r w' ⟨c, ⟨hc, hanswers⟩, hreact⟩
    exact ⟨c, ⟨fun _ => hc, hanswers⟩, hreact⟩

theorem GatePass.ReadsInterfaces.probesUnrouted (h : p.ReadsInterfaces) : p.ProbesUnrouted := by
  intro w₀ routed w name henter hlisted hout interface hinterface
  obtain ⟨decided, w₁, front, walk, hcalls, hnot, -, hwalk⟩ := h.2.walk h.1 hlisted
  rw [hcalls] at henter hlisted ⊢
  have hrouted : routed = decided := by
    obtain hmem | hmem := List.mem_append.1 henter
    · exact absurd trivial (hnot _ hmem)
    · exact settleDrivers_enters hwalk hmem
  subst hrouted
  obtain hmem | hmem := List.mem_append.1 hlisted
  · exact absurd trivial (hnot _ hmem)
  · obtain ⟨w₂, hlook, hprobes⟩ :=
      settleDrivers_probes (fun _ _ _ hc => hc rfl) hwalk hmem hout hinterface
    refine ⟨w₂, List.mem_append_right _ hlook, fun hnone => ?_⟩
    obtain ⟨w₃, hinfix⟩ := hprobes hnone
    exact ⟨w₃, hinfix.trans (List.suffix_append _ _).isInfix⟩

/-- In every run, a pass whose scans list the plug-in spares its interfaces, and settles them if it
succeeds. What the walk finds driverless outside the routed set it probes. -/
theorem gate_safety {w : World} {passes : List GatePass} (hrun : GateRun allowed w passes)
    (hp : p ∈ passes) (hlists : p.AlwaysLists k) :
    p.Spares k ∧ (p.Succeeds → p.Settles k) ∧ (p.ReadsInterfaces → p.ProbesUnrouted) :=
  ⟨(hrun.runs hp).spares hlists, fun h => h.settles hlists, fun h => h.probesUnrouted⟩

end Run

/-! ## A routed keyboard and a stick that backs host storage -/

instance (probed : Option String) (before after : UsbBus) :
    Decidable (before.Binds probed after) := by
  unfold UsbBus.Binds
  infer_instance

/-- A kernel that adds nothing of its own to the manager's writes. -/
theorem kernelAnswers_of_binds {w : World} {op : Op} {c : Choice} (hbus : c.bus = none)
    (hlawful : (react w op c).2.bus.Lawful)
    (hbinds : w.bus.Binds op.probed (react w op c).2.bus) : KernelAnswers w op c where
  lawful := hlawful
  binds := fun _ => hbinds
  autoprobe := by
    cases op with
    | update u => cases u <;> rfl
    | setAutoprobe value =>
        cases hfail : c.fail <;> simp [react, Choice.setBus, World.record, hfail, hbus]
    | setAuthorizedDefault value => simp [react, World.record, hbus]
    | probe name =>
        cases hfail : c.fail <;> simp [react, Choice.setBus, World.record, hfail, hbus]
    | release name =>
        cases hfail : c.fail <;>
          simp [react, Choice.setBus, World.record, hfail, hbus, UsbBus.unbound, UsbBus.modify]
    | authorize name value =>
        simp only [react]
        split
        · rfl
        · cases hfail : c.fail <;>
            simp [Choice.setBus, World.record, hfail, hbus, UsbBus.authorized, UsbBus.modify]
    | _ => rfl
  released := by
    rintro name rfl hfail entry hentry rfl
    have hafter : (react w (.release entry.name) c).2.bus = w.bus.unbound entry.name := by
      simp [react, Choice.setBus, World.record, hfail, hbus]
    rw [hafter] at hentry
    obtain ⟨old, -, hold⟩ := List.mem_map.1 hentry
    by_cases hname : old.name = entry.name
    · rw [← hold, if_pos hname]
    · rw [if_neg hname] at hold
      exact absurd (congrArg UsbEntry.name hold) hname

theorem hotplug_refl {w : World} (h : w.bus.Lawful) : Hotplug w w :=
  ⟨⟨rfl, rfl, rfl, rfl⟩, h, rfl, fun _ entry hentry =>
    .inr (.inr ⟨entry, hentry, rfl, rfl, .inl rfl⟩)⟩

def World.gatePass (w : World) : GatePass where
  before := w
  calls := ((applyUsbGate w.daemon).run.follow react (fun _ _ => {}) w).1
  after := ((applyUsbGate w.daemon).run.follow react (fun _ _ => {}) w).2.1
  outcome := some ((applyUsbGate w.daemon).run.follow react (fun _ _ => {}) w).2.2

theorem gatePass_succeeds {w : World}
    (hkernel : ∀ e ∈ w.gatePass.calls, e.1.bus.Lawful ∧ (react e.1 e.2 {}).2.bus.Lawful ∧
      e.1.bus.Binds e.2.probed (react e.1 e.2 {}).2.bus)
    (hok : ((applyUsbGate w.daemon).run.follow react (fun _ _ => {}) w).2.2.toBool = true) :
    w.gatePass.Succeeds := by
  have houtcome : w.gatePass.outcome = some (.ok ()) := by
    rw [World.gatePass]
    dsimp only
    cases hresult : ((applyUsbGate w.daemon).run.follow react (fun _ _ => {}) w).2.2 with
    | error e =>
        rw [hresult] at hok
        cases hok
    | ok _ => rfl
  refine ⟨houtcome, ?_⟩
  rw [GatePass.Runs]
  refine Program.follow_exec_among _ w (fun e he => hotplug_refl (hkernel e he).1) fun e he => ?_
  obtain ⟨-, hlawful, hbinds⟩ := hkernel e he
  exact ⟨rfl, kernelAnswers_of_binds rfl hlawful hbinds⟩

def drivenKeyboard : World where
  daemon := plainDaemon [keyboardRule [("targetVm", .string "gui-vm")]]
  bus := {
    autoprobe := some "1"
    entries := [
      { keyboard "1-1" "4" with driver := some "/sys/bus/usb/drivers/usb", plugged := 1 },
      { name := "1-1:1.0", driver := some "/sys/bus/usb/drivers/usbhid", plugged := 1 },
      { name := "1-2", plugged := 2, driver := some "/sys/bus/usb/drivers/usb",
        files := [("busnum", "1"), ("devnum", "5"), ("idVendor", "0781"), ("idProduct", "5581")] },
      { name := "1-2:1.0", plugged := 2 }] }

theorem gate_safety_drivenKeyboard :
    GateRun (fun _ _ c => c.fail = false) drivenKeyboard.gatePass.after [drivenKeyboard.gatePass] ∧
      drivenKeyboard.gatePass.Spares 1 ∧ drivenKeyboard.gatePass.Settles 1 ∧
      drivenKeyboard.gatePass.ProbesUnrouted := by
  have hsucceeds : drivenKeyboard.gatePass.Succeeds :=
    gatePass_succeeds (by decide +kernel) (by decide +kernel)
  have hlists : ∀ e ∈ drivenKeyboard.gatePass.calls, ∀ entry ∈ e.1.bus.entries,
      entry.isInterface = false → entry.plugged = 1 → entry.driver.isSome = true →
        entry.name ∈ e.1.daemon.claims e.1.memory.persistent e.1.usbDevices := by decide +kernel
  have hrun : GateRun (fun _ _ c => c.fail = false) drivenKeyboard.gatePass.after
      [drivenKeyboard.gatePass] := .pass (.start drivenKeyboard) hsucceeds.2
  obtain ⟨hspares, hsettles, hprobes⟩ := gate_safety (k := 1) hrun List.mem_cons_self
    fun w hscan => hlists _ hscan
  exact ⟨hrun, hspares, hsettles hsucceeds, hprobes hsucceeds.readsInterfaces⟩

def mountedStick : World where
  daemon := plainDaemon [.object [("allow", .array [.object [("vendorId", .string "0781"),
    ("productId", .string "5581")]]), ("targetVm", .string "gui-vm")]]
  bus := {
    autoprobe := some "1"
    hostStorage := ["1-2"]
    entries := [
      { name := "1-2", plugged := 2, driver := some "/sys/bus/usb/drivers/usb",
        files := [("busnum", "1"), ("devnum", "5"), ("idVendor", "0781"), ("idProduct", "5581")] },
      { name := "1-2:1.0", plugged := 2, driver := some "/sys/bus/usb/drivers/usb-storage" }] }

/-- Every scan that lists the plug-in does so as a device of a rule's and unmarked. -/
def GatePass.MatchesWhereListed (p : GatePass) (k : ℕ) : Prop := ∀ w, (w, .scanUsb) ∈ p.calls →
  ∀ entry ∈ w.bus.entries, entry.isInterface = false → entry.plugged = k →
    ∀ device ∈ w.usbDevices, device.sysName = entry.name →
      (w.daemon.usbRule device).isSome = true ∧
        w.memory.persistent.disconnected device.persistentId = false

/-- The stick is in no scan, so the walk takes it for one of the host's. -/
theorem gate_leaves_host_storage : ¬∀ (allowed : World → Op → Choice → Prop) (w : World)
    (passes : List GatePass), GateRun allowed w passes → ∀ p ∈ passes, ∀ k,
      p.MatchesWhereListed k →
        p.Spares k ∧ (p.Succeeds → p.Settles k) ∧ (p.ReadsInterfaces → p.ProbesUnrouted) := by
  intro hclaim
  have hsucceeds : mountedStick.gatePass.Succeeds :=
    gatePass_succeeds (by decide +kernel) (by decide +kernel)
  have hmatches : ∀ e ∈ mountedStick.gatePass.calls, e.1.usbDevices = [] := by decide +kernel
  have hrun : GateRun (fun _ _ c => c.fail = false) mountedStick.gatePass.after
      [mountedStick.gatePass] := .pass (.start mountedStick) hsucceeds.2
  obtain ⟨-, hsettles, -⟩ := hclaim _ _ _ hrun _ List.mem_cons_self 2 fun w hscan entry _ _ _ device
    hdevice => by
      rw [hmatches _ hscan] at hdevice
      cases hdevice
  have hlisted : ∃ e ∈ mountedStick.gatePass.calls, e.2.listed = some "1-2" ∧
      "1-2:1.0" ∈ e.1.bus.interfaces "1-2" := by decide +kernel
  have hbound : ∃ entry ∈ mountedStick.gatePass.after.bus.entries, entry.isInterface = true ∧
      entry.plugged = 2 ∧ entry.name = "1-2:1.0" ∧ entry.boundTo = some "usb-storage" := by
    decide +kernel
  obtain ⟨⟨w, op⟩, he, hop, hinterface⟩ := hlisted
  obtain rfl := Op.eq_interfaces hop
  obtain ⟨entry, hentry, hcolon, hk, hname, hdriver⟩ := hbound
  exact hsettles hsucceeds w "1-2" he "1-2:1.0" hinterface entry hentry hcolon hk hname
    ⟨"usb-storage", hdriver, by decide⟩

end GhafDeviceManager
