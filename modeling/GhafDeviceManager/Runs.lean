import GhafDeviceManager.Steps

/-!
# Runs of the daemon

A run interleaves operations with anything the surroundings do to devices, VMs and Crosvm lists
between them. The process may die at any call of an operation; a new one then starts over the
state file, possibly with another configuration.
-/

namespace GhafDeviceManager

inductive Operation
  | enableUsbAuthorization
  | closeUsbGate
  | openUsbGate
  | reconcile
  | usbAttach (selector : Selector) (vm : Option String)
  | usbDetach (selector : Selector)
  | usbSuspend (vm : Option String)
  | usbResume (vm : Option String)
  | pciAttach (selector : Selector) (vm : Option String)
  | pciDetach (selector : Selector)
  | pciSuspend (vm : Option String)
  | pciResume (vm : Option String)

def Operation.program (d : Daemon) : Operation → Act Unit
  | .enableUsbAuthorization => do let _ ← GhafDeviceManager.enableUsbAuthorization d
  | .closeUsbGate => do let _ ← GhafDeviceManager.closeUsbGate d
  | .openUsbGate => GhafDeviceManager.openUsbGate d
  | .reconcile => GhafDeviceManager.reconcile d
  | .usbAttach selector vm => attachUsb d selector vm
  | .usbDetach selector => detachUsb d selector true
  | .usbSuspend vm => suspendUsb d vm
  | .usbResume vm => resumeUsb d vm
  | .pciAttach selector vm => attachPci d selector vm
  | .pciDetach selector => detachPci d selector true
  | .pciSuspend vm => suspendPci d vm
  | .pciResume vm => resumePci d vm

/-- A new process over the present state file. -/
def World.restart (w : World) (d : Daemon) : World :=
  { w with
    daemon := d
    memory := Memory.load (if d.config.persistency then w.stateFile.getD {} else {}) }

/-- What the surroundings may do: all but the manager's own memory, file and history. -/
structure Surroundings (w w' : World) : Prop where
  daemon : w'.daemon = w.daemon
  memory : w'.memory = w.memory
  stateFile : w'.stateFile = w.stateFile
  log : w'.log = w.log

inductive Reachable (allowed : World → Op → Choice → Prop) : World → Prop
  | start (d : Daemon) (hd : d.config.Valid) : Reachable allowed { daemon := d }
  | surroundings {w w' : World} (h : Reachable allowed w) (hw : Surroundings w w') :
      Reachable allowed w'
  | operation {w w' : World} {tr : List (World × Op)} {r : Except Error Unit} (o : Operation)
      (h : Reachable allowed w)
      (hexec : Exec (machine allowed) (o.program w.daemon).run w tr w' (some r)) :
      Reachable allowed w'
  | restart {w w' : World} {tr : List (World × Op)} (o : Operation) (d : Daemon)
      (hd : d.config.Valid) (h : Reachable allowed w)
      (hexec : Exec (machine allowed) (o.program w.daemon).run w tr w' none) :
      Reachable allowed (w'.restart d)

def Issued (allowed : World → Op → Choice → Prop) (w : World) (op : Op) : Prop :=
  ∃ (w₀ w₁ : World) (o : Operation) (tr : List (World × Op)) (r : Option (Except Error Unit)),
    Reachable allowed w₀ ∧
      Exec (machine allowed) (o.program w₀.daemon).run w₀ tr w₁ r ∧ (w, op) ∈ tr

/-- The runs that go on from `w₀`, with the operations `admits` admits and new processes over the
configurations `restarts` admits. -/
inductive Continues (allowed : World → Op → Choice → Prop) (admits : World → Operation → Prop)
    (restarts : Daemon → Prop) (w₀ : World) : World → Prop
  | start : Continues allowed admits restarts w₀ w₀
  | surroundings {w w' : World} (h : Continues allowed admits restarts w₀ w)
      (hw : Surroundings w w') : Continues allowed admits restarts w₀ w'
  | operation {w w' : World} {tr : List (World × Op)} {r : Except Error Unit} (o : Operation)
      (h : Continues allowed admits restarts w₀ w) (ho : admits w o)
      (hexec : Exec (machine allowed) (o.program w.daemon).run w tr w' (some r)) :
      Continues allowed admits restarts w₀ w'
  | restart {w w' : World} {tr : List (World × Op)} (o : Operation) (d : Daemon)
      (hd : restarts d) (h : Continues allowed admits restarts w₀ w) (ho : admits w o)
      (hexec : Exec (machine allowed) (o.program w.daemon).run w tr w' none) :
      Continues allowed admits restarts w₀ (w'.restart d)

/-- Such a run issues `op` in world `w`. -/
def IssuedFrom (allowed : World → Op → Choice → Prop) (admits : World → Operation → Prop)
    (restarts : Daemon → Prop) (w₀ w : World) (op : Op) : Prop :=
  ∃ (w₁ w₂ : World) (o : Operation) (tr : List (World × Op)) (r : Option (Except Error Unit)),
    Continues allowed admits restarts w₀ w₁ ∧ admits w₁ o ∧
      Exec (machine allowed) (o.program w₁.daemon).run w₁ tr w₂ r ∧ (w, op) ∈ tr

section Rules

variable {allowed : World → Op → Choice → Prop} {G : World → Op → Prop} {I : World → Prop}

/-- The invariant rule: what every operation keeps, and what neither the surroundings nor a new
process disturbs, holds in every run. -/
theorem Reachable.invariant {w : World} (h : Reachable allowed w)
    (hstart : ∀ d : Daemon, d.config.Valid → I { daemon := d })
    (hsurroundings : ∀ w w', Surroundings w w' → I w → I w')
    (hrestart : ∀ w (d : Daemon), (I w ∨ ∃ op, G w op) → I (w.restart d))
    (hkeep : ∀ w (o : Operation), I w →
      Fallible.wp (machine allowed) G (o.program w.daemon) (fun _ => I) w) : I w := by
  induction h with
  | start d hd => exact hstart d hd
  | surroundings _ hw ih => exact hsurroundings _ _ hw ih
  | operation o _ hexec ih => exact (Program.wp_sound (hkeep _ o ih) hexec).2 _ rfl
  | restart o d _ _ hexec ih =>
      obtain hop | ⟨_, hend⟩ := Program.wp_sound_stop (fun _ => rfl) (hkeep _ o ih) hexec
      · exact hrestart _ d (.inr hop)
      · exact hrestart _ d (.inl hend)

/-- The guarantee rule: with an invariant in hand, what every operation guarantees of its calls
holds of every call a run issues. -/
theorem Issued.guarantee {w : World} {op : Op} (h : Issued allowed w op)
    (hinvariant : ∀ w, Reachable allowed w → I w)
    (hkeep : ∀ w (o : Operation), I w →
      Fallible.wp (machine allowed) G (o.program w.daemon) (fun _ => I) w) : G w op := by
  obtain ⟨w₀, w₁, o, tr, r, hreachable, hexec, hmem⟩ := h
  exact (Program.wp_sound (hkeep w₀ o (hinvariant w₀ hreachable)) hexec).1 _ hmem

/-- The invariant rule for a run that goes on. -/
theorem Continues.invariant {admits : World → Operation → Prop} {restarts : Daemon → Prop}
    {w₀ w : World} (h : Continues allowed admits restarts w₀ w) (hstart : I w₀)
    (hsurroundings : ∀ w w', Surroundings w w' → I w → I w')
    (hrestart : ∀ w d, restarts d → (I w ∨ ∃ op, G w op) → I (w.restart d))
    (hkeep : ∀ w o, admits w o → I w →
      Fallible.wp (machine allowed) G (o.program w.daemon) (fun _ => I) w) : I w := by
  induction h with
  | start => exact hstart
  | surroundings _ hw ih => exact hsurroundings _ _ hw ih
  | operation o _ ho hexec ih => exact (Program.wp_sound (hkeep _ o ho ih) hexec).2 _ rfl
  | restart o d hd _ ho hexec ih =>
      obtain hop | ⟨_, hend⟩ := Program.wp_sound_stop (fun _ => rfl) (hkeep _ o ho ih) hexec
      · exact hrestart _ d hd (.inr hop)
      · exact hrestart _ d hd (.inl hend)

theorem IssuedFrom.guarantee {admits : World → Operation → Prop} {restarts : Daemon → Prop}
    {w₀ w : World} {op : Op} (h : IssuedFrom allowed admits restarts w₀ w op)
    (hinvariant : ∀ w, Continues allowed admits restarts w₀ w → I w)
    (hkeep : ∀ w o, admits w o → I w →
      Fallible.wp (machine allowed) G (o.program w.daemon) (fun _ => I) w) : G w op := by
  obtain ⟨w₁, w₂, o, tr, r, hcontinues, ho, hexec, hmem⟩ := h
  exact (Program.wp_sound (hkeep w₁ o ho (hinvariant w₁ hcontinues)) hexec).1 _ hmem

/-- Where each call the guarantee admits keeps the invariant, it is enough that every operation
meets the guarantee; the process may then die at any call. -/
theorem Continues.lasts {admits : World → Operation → Prop} {restarts : Daemon → Prop} {w₀ : World}
    (hstart : I w₀) (hsurroundings : ∀ w w', Surroundings w w' → I w → I w')
    (hrestart : ∀ w d, restarts d → I w → I (w.restart d))
    (hreact : ∀ w op c, G w op → I w → I (react w op c).2)
    (hmeets : ∀ w o, admits w o → I w →
      Fallible.wp (machine allowed) G (o.program w.daemon) (fun _ _ => True) w) :
    (∀ w, Continues allowed admits restarts w₀ w → I w) ∧
      ∀ w op, IssuedFrom allowed admits restarts w₀ w op → G w op := by
  have hkeep : ∀ w o, admits w o → I w → Fallible.wp (machine allowed)
      (fun w op => I w ∧ G w op) (o.program w.daemon) (fun _ => I) w := by
    intro w o ho hw
    have hinvariant := Program.wp_invariant (I := I) (hmeets w o ho hw) ?_ ?_ hw
    · exact Program.wp_mono hinvariant (fun _ _ h => h) fun _ _ h => h.1
    · rintro w₁ _ rfl h
      exact h
    · rintro w₁ op hw₁ hop r w₂ ⟨c, _, hstep⟩
      obtain rfl : (react w₁ op c).2 = w₂ := congrArg Prod.snd hstep
      exact hreact w₁ op c hop hw₁
  have hinvariant : ∀ w, Continues allowed admits restarts w₀ w → I w := fun w h =>
    h.invariant hstart hsurroundings
      (fun w₁ d hd hor => hrestart w₁ d hd (hor.elim id fun ⟨_, hop⟩ => hop.1)) hkeep
  exact ⟨hinvariant, fun w op h => (h.guarantee hinvariant hkeep).2⟩

end Rules

/-! ## Concrete runs -/

def Host.plain : Host where
  regex _ := none
  modulePaths _ := []
  hwdb _ _ := none

/-- Devices of one model without a serial number, as sysfs shows them. -/
def keyboard (name devnum : String) : UsbEntry where
  name := name
  files := [("busnum", "1"), ("devnum", devnum), ("idVendor", "046d"), ("idProduct", "c31c"),
    ("authorized", "1")]

def keyboardRule (fields : List (String × Value)) : Value :=
  .object (("allow", .array [.object [("vendorId", .string "046d"),
    ("productId", .string "c31c")]]) :: fields)

def guiVm : Vm := { name := "gui-vm", socket := "/run/gui.sock" }

def netVm : Vm := { name := "net-vm", socket := "/run/net.sock" }

def plainDaemon (rules : List Value) : Daemon where
  config := { usbPassthrough := rules, vms := [guiVm, netVm] }
  host := Host.plain

/-- Crosvm hands out `port` and lists `live` afterwards; nothing fails. -/
def granting (port : UInt8) (live : List LivePort) (_ : World) : Op → Choice
  | .usbAttach _ _ => { port, ports := some live }
  | _ => {}

/-- The calls of an operation whose answers a strategy picks, and the world it ends in. -/
def World.trace (w : World) (pick : World → Op → Choice) (o : Operation) : List (World × Op) :=
  ((o.program w.daemon).run.follow react pick w).1

def World.perform (w : World) (pick : World → Op → Choice) (o : Operation) : World :=
  ((o.program w.daemon).run.follow react pick w).2.1

def savesSucceed (_ : World) : Op → Choice → Prop
  | .save, c => c.fail = false
  | _, _ => True

instance (w : World) (op : Op) (c : Choice) : Decidable (savesSucceed w op c) := by
  unfold savesSucceed
  split <;> infer_instance

/-- A VM's Crosvm starts anew, with nothing attached. -/
def World.rebooted (w : World) (vm : Vm) (generation : String) : World :=
  { w with
    sockets := Function.update w.sockets vm.socket (some generation)
    ports := Function.update w.ports vm.socket [] }

section Concrete

variable {allowed : World → Op → Choice → Prop} {w : World}

theorem Reachable.initial (hd : w.daemon.config.Valid) (hmemory : w.memory = {})
    (hfile : w.stateFile = none) (hlog : w.log = []) : Reachable allowed w :=
  .surroundings (.start w.daemon hd) ⟨rfl, hmemory, hfile, hlog⟩

theorem Reachable.reboot (h : Reachable allowed w) (vm : Vm) (generation : String) :
    Reachable allowed (w.rebooted vm generation) :=
  .surroundings h ⟨rfl, rfl, rfl, rfl⟩

theorem Reachable.perform (h : Reachable allowed w) (pick : World → Op → Choice) (o : Operation)
    (hallowed : ∀ e ∈ w.trace pick o, allowed e.1 e.2 (pick e.1 e.2)) :
    Reachable allowed (w.perform pick o) :=
  .operation o h (Program.follow_exec _ w hallowed)

theorem Reachable.issued (h : Reachable allowed w) (pick : World → Op → Choice) (o : Operation)
    (hallowed : ∀ e ∈ w.trace pick o, allowed e.1 e.2 (pick e.1 e.2)) {e : World × Op}
    (he : e ∈ w.trace pick o) : Issued allowed e.1 e.2 :=
  ⟨w, _, o, _, _, h, Program.follow_exec _ w hallowed, he⟩

theorem exec_follow (p : Act Unit) (pick : World → Op → Choice) (w : World) :
    Exec (machine anyChoice) p.run w (p.run.follow react pick w).1 (p.run.follow react pick w).2.1
      (some (p.run.follow react pick w).2.2) :=
  Program.follow_exec p.run w fun _ _ => trivial

theorem exec_ok {p : Act Unit} {pick : World → Op → Choice}
    (hallowed : ∀ e ∈ (p.run.follow react pick w).1, allowed e.1 e.2 (pick e.1 e.2))
    (h : (p.run.follow react pick w).2.2.toBool = true) :
    Exec (machine allowed) p.run w (p.run.follow react pick w).1
      (p.run.follow react pick w).2.1 (some (.ok ())) := by
  have hexec := Program.follow_exec p.run w hallowed
  cases hresult : (p.run.follow react pick w).2.2 with
  | error e =>
      rw [hresult] at h
      cases h
  | ok _ => rwa [hresult] at hexec

theorem exec_follow_ok {p : Act Unit} {pick : World → Op → Choice}
    (h : (p.run.follow react pick w).2.2.toBool = true) :
    Exec (machine anyChoice) p.run w (p.run.follow react pick w).1
      (p.run.follow react pick w).2.1 (some (.ok ())) :=
  exec_ok (fun _ _ => trivial) h

/-- A run's own operation issues what its trace shows. -/
theorem issuedFrom_trace {allowed : World → Op → Choice → Prop}
    (admits : World → Operation → Prop) (restarts : Daemon → Prop) {w₀ : World}
    (pick : World → Op → Choice) (o : Operation)
    (ho : admits w₀ o) (hallowed : ∀ e ∈ w₀.trace pick o, allowed e.1 e.2 (pick e.1 e.2))
    {e : World × Op} (he : e ∈ w₀.trace pick o) :
    IssuedFrom allowed admits restarts w₀ e.1 e.2 :=
  ⟨w₀, _, o, _, _, .start, ho, Program.follow_exec _ w₀ hallowed, he⟩

theorem Reachable.crash (h : Reachable allowed w) (d : Daemon) (hd : d.config.Valid) :
    Reachable allowed (w.restart d) :=
  .restart .reconcile d hd h (.stop _ w)

end Concrete

end GhafDeviceManager
