import GhafDeviceManager.Api
import GhafDeviceManager.EventLoop
import GhafDeviceManager.Requests
import GhafDeviceManager.ServerSlots

/-!
# The life of the process

`run` makes the manager, sets the policies up, stays in `daemon` until something ends it, waits for
the event loop it has aborted and opens the gate on its way out. Requests go on beside all of this,
and a client that was accepted before outlives `serve`. They do not wait for each other's locks
here, which leaves them more freedom than they have.
-/

namespace GhafDeviceManager

open Fallible

/-- What `run` and `daemon` do themselves. -/
inductive Errand
  | enable
  | close
  | attachConnected
  | reopen (outcome : Except Error Unit)

def Errand.operation : Errand → Operation
  | enable => .enableUsbAuthorization
  | close => .closeUsbGate
  | attachConnected => .reconcile
  | reopen _ => .openUsbGate

inductive Main
  /-- The configuration, the manager and the handlers of signals are still to be made. -/
  | preparing
  | running (errand : Errand) (rest : Program Op Reply (Except Error Unit))
  | spawning
  | serving
  /-- `daemon` has its outcome and waits for the loop. -/
  | aborting (outcome : Except Error Unit)
  | exited (outcome : Except Error Unit)

def Main.begin (errand : Errand) (d : Daemon) : Main :=
  .running errand (errand.operation.program d).run

inductive Main.Serves : Main → Prop
  | serving : Main.Serves .serving
  | aborting (outcome : Except Error Unit) : Main.Serves (.aborting outcome)
  | reopening (outcome : Except Error Unit) (rest : Program Op Reply (Except Error Unit)) :
      Main.Serves (.running (.reopen outcome) rest)

def Main.Listens (main : Main) : Prop :=
  main.Serves ∨ ∃ rest, main = .running .attachConnected rest

structure Process where
  events : Events
  main : Main
  requests : List (Program Op Reply (Except Error ResponsePayload)) := []
  /-- Whether a signal ended the daemon. No code reads it. -/
  signalled : Bool := false
  /-- What opening the gate came to on the way out. No code reads it. -/
  handedBack : Option (Except Error Unit) := none

namespace Process

def world (p : Process) : World := p.events.world

def setWorld (p : Process) (w : World) : Process :=
  { p with events := { p.events with world := w } }

/-- `w` is the world with the manager that `run` will have made. -/
def start (w : World) : Process where
  events := .start w
  main := .preparing

/-- What `run` returns, once it is known what opening the gate came to. -/
def exitOutcome (outcome : Except Error Unit) : Except Error Unit → Except Error Unit
  | .ok _ => outcome
  | .error e =>
    match outcome with
    | .ok _ => .error ("USB driver binding was left with the manager" :: e)
    | .error first => .error first

inductive Step (M : Machine Op Reply World) (api : Api) (attachConnected : Bool) :
    Process → Process → Prop
  /-- `Config::load`, `DeviceManager::new` or `shutdown` fails, and `run` with it. -/
  | unprepared (p : Process) (e : Error) (hmain : p.main = .preparing) :
      Step M api attachConnected p { p with main := .exited (.error e) }
  | prepared (p : Process) (hmain : p.main = .preparing) :
      Step M api attachConnected p { p with main := .begin .enable p.world.daemon }
  | call (p : Process) (errand : Errand) (op : Op)
      (next : Reply op → Program Op Reply (Except Error Unit)) (w₁ w₂ : World) (r : Reply op)
      (hmain : p.main = .running errand (.call op next)) (henv : M.env p.world w₁)
      (hstep : M.step w₁ op r w₂) :
      Step M api attachConnected p { p.setWorld w₂ with main := .running errand (next r) }
  /-- A policy that cannot be set up is no reason to stop. -/
  | enabled (p : Process) (r : Except Error Unit) (hmain : p.main = .running .enable (.pure r)) :
      Step M api attachConnected p { p with main := .begin .close p.world.daemon }
  | closed (p : Process) (r : Except Error Unit) (hmain : p.main = .running .close (.pure r)) :
      Step M api attachConnected p { p with main := .spawning }
  | unspawned (p : Process) (e : Error) (hmain : p.main = .spawning) :
      Step M api attachConnected p
        { p with main := .begin (.reopen (.error e)) p.world.daemon }
  | spawned (p : Process) (hmain : p.main = .spawning) (hattach : attachConnected = true) :
      Step M api attachConnected p { p with
        events := { p.events with uncovered := false }
        main := .begin .attachConnected p.world.daemon }
  | attached (p : Process) (r : Except Error Unit)
      (hmain : p.main = .running .attachConnected (.pure r)) :
      Step M api attachConnected p { p with
        events := { p.events with loop := .waiting (delayAfter r p.world.memory.deferred) }
        main := .serving }
  | unattached (p : Process) (hmain : p.main = .spawning) (hattach : attachConnected = false) :
      Step M api attachConnected p { p with
        events := { p.events with loop := .waiting .retry }
        main := .serving }
  /-- The monitor and the loop go on by themselves. -/
  | task (p : Process) (activity : Activity) (events : Events) (hlistens : p.main.Listens)
      (htask : p.events.Step M activity events)
      (hactivity : activity ∈ [.arrival, .failure, .monitor, .loop, .pass]) :
      Step M api attachConnected p { p with events := events }
  | stopped (p : Process) (hmain : p.main = .serving) :
      Step M api attachConnected p { p with main := .aborting (.ok ()), signalled := true }
  | unserved (p : Process) (e : Error) (hmain : p.main = .serving) :
      Step M api attachConnected p { p with main := .aborting (.error e) }
  /-- A loop that is over is neither aborted nor waited for. -/
  | looped (p : Process) (hmain : p.main = .serving) (hloop : p.events.loop = .ended) :
      Step M api attachConnected p { p with
        main := .begin (.reopen (.error ["device reconciliation stopped"])) p.world.daemon }
  | aborted (p : Process) (outcome : Except Error Unit) (hmain : p.main = .aborting outcome) :
      Step M api attachConnected p
        { p with events := { p.events with loop := .ended, holds := false } }
  /-- An attach that is dropped on the way takes back what it authorized. -/
  | dropped (p : Process) (outcome : Except Error Unit)
      (rest : Program Op Reply (Except Error Unit)) (name : String) (w₁ w₂ : World)
      (r : Except Error Unit) (hmain : p.main = .aborting outcome)
      (hloop : p.events.loop = .reconciling rest) (henv : M.env p.world w₁)
      (hstep : M.step w₁ (.authorize name false) r w₂) :
      Step M api attachConnected p
        { p with events := { p.events with world := w₂, loop := .ended, holds := false } }
  | awaited (p : Process) (outcome : Except Error Unit) (hmain : p.main = .aborting outcome)
      (hloop : p.events.loop = .ended) :
      Step M api attachConnected p { p with main := .begin (.reopen outcome) p.world.daemon }
  | reopened (p : Process) (outcome r : Except Error Unit)
      (hmain : p.main = .running (.reopen outcome) (.pure r)) :
      Step M api attachConnected p
        { p with main := .exited (exitOutcome outcome r), handedBack := some r }
  | asked (p : Process) (action : Action) (hserves : p.main.Serves) :
      Step M api attachConnected p { p with
        requests := p.requests ++ [(handleInner p.world.daemon api.boot action).run] }
  | request (p : Process) (before after : List (Program Op Reply (Except Error ResponsePayload)))
      (op : Op) (next : Reply op → Program Op Reply (Except Error ResponsePayload)) (w₁ w₂ : World)
      (r : Reply op) (hserves : p.main.Serves)
      (hrequests : p.requests = before ++ .call op next :: after) (henv : M.env p.world w₁)
      (hstep : M.step w₁ op r w₂) :
      Step M api attachConnected p { p.setWorld w₂ with requests := before ++ next r :: after }
  | answered (p : Process) (before after : List (Program Op Reply (Except Error ResponsePayload)))
      (r : Except Error ResponsePayload) (hrequests : p.requests = before ++ .pure r :: after) :
      Step M api attachConnected p { p with requests := before ++ after }
  | surroundings (p : Process) (w : World) (henv : M.env p.world w) :
      Step M api attachConnected p (p.setWorld w)

/-- What any number of steps, by whichever tasks, can make of the process. -/
def Reaches (M : Machine Op Reply World) (api : Api) (attachConnected : Bool) :
    Process → Process → Prop :=
  Relation.ReflTransGen (Step M api attachConnected)

end Process

/-! ## Requests leave the gate alone -/

def Op.LeavesGate : Op → Prop
  | .setAutoprobe _ => False
  | _ => True

theorem leavesGate_of_observes {op : Op} (h : op.Observes) : op.LeavesGate := by
  cases op <;> trivial

theorem leavesGate_of_assigns {device : UsbDevice} {op : Op} (h : op.Assigns device) :
    op.LeavesGate := by
  cases op <;> trivial

theorem leavesGate_of_detaches {device : UsbDevice} {permanent : Bool} {op : Op}
    (h : op.Detaches device permanent) : op.LeavesGate := by
  cases op <;> trivial

theorem leavesGate_of_attachesPci {device : PciDevice} {op : Op} (h : op.AttachesPci device) :
    op.LeavesGate := by
  cases op <;> trivial

theorem leavesGate_of_detachesPci {device : PciDevice} {permanent : Bool} {op : Op}
    (h : op.DetachesPci device permanent) : op.LeavesGate := by
  cases op <;> trivial

theorem leavesGate_of_binds {op : Op} (h : op.Binds) : op.LeavesGate := by
  cases op <;> trivial

theorem leavesGate_of_glue {op : Op} (h : op.Glue) : op.LeavesGate := by
  cases op <;> trivial

section Footprints

variable {d : Daemon} {α : Type}

theorem leavesGate_locked {p : Act α} (hp : Calls Op.LeavesGate p) :
    Calls Op.LeavesGate (withLock .operation p) :=
  calls_withLock trivial trivial hp

theorem leavesGate_round {xs : List α} {f : List String → α → Act (List String)}
    (hf : ∀ failures x, Calls Op.LeavesGate (f failures x)) :
    Calls Op.LeavesGate (do
      let failures ← xs.foldlM f []
      aggregate failures) :=
  PartsCall.round hf

theorem leavesGate_detachOneUsb (device : UsbDevice) (permanent : Bool) :
    Calls Op.LeavesGate (detachOneUsb d device permanent) :=
  Program.calls_mono (calls_detachOneUsb_detaches d device permanent) fun _ =>
    leavesGate_of_detaches

theorem leavesGate_attachOneUsb (device : UsbDevice) (rule : RuleMatch) (vm : Option String) :
    Calls Op.LeavesGate (attachOneUsb d device rule vm) :=
  calls_attachOneUsb d device rule vm trivial fun _ => leavesGate_of_assigns

theorem leavesGate_attachOnePci (device : PciDevice) (rule : RuleMatch) (vm : Option String) :
    Calls Op.LeavesGate (attachOnePci d device rule vm) :=
  Program.calls_mono (calls_attachOnePci d device rule vm) fun _ => leavesGate_of_attachesPci

theorem leavesGate_detachOnePci (device : PciDevice) (rule : RuleMatch) (permanent : Bool) :
    Calls Op.LeavesGate (detachOnePci d device rule permanent) :=
  Program.calls_mono (calls_detachOnePci d device rule permanent) fun _ =>
    leavesGate_of_detachesPci

theorem leavesGate_pciDevices : Calls Op.LeavesGate (pciDevices d) :=
  calls_pciDevices trivial fun _ => trivial

theorem leavesGate_bindNew (addresses bound : List String) :
    Calls Op.LeavesGate (bindNew addresses bound) := by
  induction addresses generalizing bound with
  | nil => trivial
  | cons address rest ih =>
      apply calls_ite (ih bound)
      apply calls_bind (Program.calls_mono (calls_bindVfio_binds address) fun _ =>
        leavesGate_of_binds)
      exact fun _ => ih _

theorem leavesGate_vmmArgs (vm : String) (requirePci : Bool) :
    Calls Op.LeavesGate (vmmArgs d vm requirePci) := by
  have hdevice : ∀ (acc : VmmPci) (x : PciDevice × RuleMatch),
      Calls Op.LeavesGate (vmmDevice acc x.1 x.2) := by
    intro acc x
    apply calls_bind (calls_request trivial)
    intro group
    exact calls_bind (leavesGate_bindNew _ _) fun _ => trivial
  refine calls_bind ?_ fun acc => trivial
  refine calls_bind (calls_require _ _) fun _ => ?_
  refine calls_bind leavesGate_pciDevices fun devices => ?_
  exact calls_ite (by trivial) (calls_ite (by trivial) (calls_foldlM hdevice _))

theorem leavesGate_usbList (disconnected : Option Bool) (tag : Option String) :
    Calls Op.LeavesGate (d.usbList disconnected tag) := by
  refine calls_withLock trivial trivial ?_
  refine calls_bind (calls_request trivial) fun m => ?_
  exact calls_bind (calls_usbDevices trivial) fun devices => trivial

theorem leavesGate_pciList (disconnected : Option Bool) (tag : Option String) :
    Calls Op.LeavesGate (d.pciList disconnected tag) := by
  refine calls_withLock trivial trivial ?_
  refine calls_bind (calls_request trivial) fun m => ?_
  exact calls_bind leavesGate_pciDevices fun devices => trivial

theorem leavesGate_ofExcept (r : Except Error α) : Calls Op.LeavesGate (ofExcept r) := by
  cases r <;> trivial

theorem leavesGate_handleInner (boot : Boot) (action : Action) :
    Calls Op.LeavesGate (handleInner d boot action) := by
  have husb : ∀ selector, Calls Op.LeavesGate (selectedUsb d selector) := fun selector =>
    calls_selectedUsb selector trivial
  have hpci : ∀ selector, Calls Op.LeavesGate (selectedPci d selector) := fun selector =>
    calls_selectedPci selector trivial fun _ => trivial
  cases action with
  | enableNotifications => trivial
  | usbList disconnected tag =>
      exact calls_bind (leavesGate_usbList disconnected tag) fun _ => trivial
  | usbAttach selector vm =>
      refine calls_bind (leavesGate_locked (calls_bind (husb _) fun xs => ?_)) fun _ => trivial
      exact leavesGate_round fun failures x =>
        calls_collect (leavesGate_attachOneUsb x.1 x.2 vm) failures
  | usbDetach selector =>
      refine calls_bind (leavesGate_locked (calls_bind (husb _) fun xs => ?_)) fun _ => trivial
      exact leavesGate_round fun failures x =>
        calls_collect (leavesGate_detachOneUsb x.1 true) failures
  | usbSuspend vm =>
      refine calls_bind (leavesGate_locked (calls_bind (calls_usbDevices trivial) fun xs => ?_))
        fun _ => trivial
      refine leavesGate_round fun failures x => calls_bind (calls_request trivial) fun m => ?_
      exact calls_ite (calls_collect (leavesGate_detachOneUsb x.1 false) failures) trivial
  | usbResume vm =>
      refine calls_bind (leavesGate_locked (calls_bind (calls_usbDevices trivial) fun xs => ?_))
        fun _ => trivial
      refine calls_bind (calls_request trivial) fun _ => leavesGate_round fun failures x => ?_
      exact calls_resumeUsbDevice trivial (fun _ => trivial) trivial fun target =>
        leavesGate_attachOneUsb x.1 x.2 target
  | pciList disconnected tag =>
      exact calls_bind (leavesGate_pciList disconnected tag) fun _ => trivial
  | pciAttach selector vm =>
      refine calls_bind (leavesGate_locked (calls_bind (hpci _) fun xs => ?_)) fun _ => trivial
      exact leavesGate_round fun failures x =>
        calls_collect (leavesGate_attachOnePci x.1 x.2 vm) failures
  | pciDetach selector =>
      refine calls_bind (leavesGate_locked (calls_bind (hpci _) fun xs => ?_)) fun _ => trivial
      exact leavesGate_round fun failures x =>
        calls_collect (leavesGate_detachOnePci x.1 x.2 true) failures
  | pciSuspend vm =>
      refine calls_bind (leavesGate_locked (calls_bind leavesGate_pciDevices fun xs => ?_))
        fun _ => trivial
      refine leavesGate_round fun failures x => calls_bind (calls_request trivial) fun m => ?_
      exact calls_ite (calls_collect (leavesGate_detachOnePci x.1 x.2 false) failures) trivial
  | pciResume vm =>
      refine calls_bind (calls_resumePci (fun _ hop _ => leavesGate_of_glue hop)
        (fun _ _ => leavesGate_of_attachesPci) vm) fun _ => trivial
  | vmmArgs vm acpi evdev requirePci =>
      refine calls_bind ?_ fun _ => trivial
      apply calls_bind (leavesGate_vmmArgs vm requirePci)
      intro args
      apply calls_bind (leavesGate_ofExcept _)
      intro tables
      exact calls_bind (leavesGate_ofExcept _) fun _ => trivial

end Footprints

/-! ## Opening the gate -/

/-- What a write leaves in `drivers_autoprobe`. -/
def Op.autoprobeAfter (op : Op) (fail : Bool) (before : Option String) : Option String :=
  match op with
  | .setAutoprobe value => if fail then before else some value
  | _ => before

theorem Op.LeavesGate.autoprobe {op : Op} (h : op.LeavesGate) (fail : Bool)
    (before : Option String) : op.autoprobeAfter fail before = before := by
  cases op with
  | setAutoprobe value => exact h.elim
  | _ => rfl

structure SameGate (w w' : World) : Prop where
  daemon : w'.daemon = w.daemon
  autoprobe : w'.bus.autoprobe = w.bus.autoprobe

theorem SameGate.refl (w : World) : SameGate w w := ⟨rfl, rfl⟩

theorem SameGate.trans {w w₁ w₂ : World} (h : SameGate w w₁) (h' : SameGate w₁ w₂) :
    SameGate w w₂ :=
  ⟨h'.daemon.trans h.daemon, h'.autoprobe.trans h.autoprobe⟩

/-- The kernel changes `drivers_autoprobe` when it is written, and then only. Beside an operation
anything else may happen. -/
def gateKernel : Machine Op Reply World :=
  Machine.among SameGate react fun w op c =>
    (react w op c).2.bus.autoprobe = op.autoprobeAfter c.fail w.bus.autoprobe

theorem sameGate_step {w w₁ w₂ : World} {op : Op} {r : Reply op} (hop : op.LeavesGate)
    (henv : gateKernel.env w w₁) (hstep : gateKernel.step w₁ op r w₂) : SameGate w w₂ := by
  obtain ⟨c, hc, hreact⟩ := hstep
  have hw₂ : (react w₁ op c).2 = w₂ := by rw [hreact]
  have hafter : SameGate w₁ w₂ := by
    rw [← hw₂]
    exact ⟨react_daemon w₁ op c, hc.trans (hop.autoprobe _ _)⟩
  exact SameGate.trans henv hafter

def Opened (r : Except Error Unit) (w : World) : Prop :=
  r = .ok () → w.daemon.routesUsb = true → w.bus.autoprobe ≠ some "0"

theorem Opened.later {r : Except Error Unit} {w w' : World} (h : Opened r w)
    (hw : SameGate w w') : Opened r w' := by
  intro hr hroutes
  rw [hw.autoprobe]
  exact h hr (hw.daemon ▸ hroutes)

/-- What is left of opening the gate will have opened it. -/
def Opens (rest : Program Op Reply (Except Error Unit)) (w : World) : Prop :=
  rest.wp gateKernel (fun _ _ => True) Opened w

theorem Opens.later {rest : Program Op Reply (Except Error Unit)} {w w' : World}
    (h : Opens rest w) (hw : SameGate w w') : Opens rest w' := by
  cases rest with
  | pure r => exact Opened.later h hw
  | call op next => exact fun w₁ henv => h w₁ (hw.trans henv)

theorem Opens.call {op : Op} {next : Reply op → Program Op Reply (Except Error Unit)}
    {w w₁ w₂ : World} {r : Reply op} (h : Opens (.call op next) w) (henv : gateKernel.env w w₁)
    (hstep : gateKernel.step w₁ op r w₂) : Opens (next r) w₂ :=
  (h w₁ henv).2 r w₂ hstep

section Opening

variable {α : Type} {p : Act α} {w : World} {G : World → Op → Prop}
  {post : Except Error α → World → Prop}

theorem wp_gateKernel (op : Op) (result : Reply op → Except Error α) :
    wp gateKernel G (Fallible.request op result) post w ↔ ∀ w₁, SameGate w w₁ → G w₁ op ∧
      ∀ c, (react w₁ op c).2.bus.autoprobe = op.autoprobeAfter c.fail w₁.bus.autoprobe →
        post (result (react w₁ op c).1) (react w₁ op c).2 := by
  rw [gateKernel, wp_request_among]

theorem wp_leavesGate (hp : Calls Op.LeavesGate p) :
    wp gateKernel (fun _ _ => True) p (fun _ => SameGate w) w := by
  refine wp_of_calls hp (fun w₁ w₂ henv hw₁ => hw₁.trans henv) (fun op hop w₁ hw₁ => ?_) (.refl w)
  exact ⟨trivial, fun r w₂ hstep => hw₁.trans (sameGate_step hop (.refl w₁) hstep)⟩

theorem leavesGate_usbHeldByVms : Calls Op.LeavesGate usbHeldByVms :=
  calls_usbHeldByVms trivial trivial

theorem leavesGate_handBack (d : Daemon) (held : List String) (name : String) :
    Calls Op.LeavesGate (handBack d held name) := by
  have hattribute : ∀ name, Calls Op.LeavesGate (heldUnauthorized d name) := by
    intro name
    exact Program.calls_mono (calls_heldUnauthorized d name) fun _ => leavesGate_of_observes
  have hprobe : ∀ name, Calls Op.LeavesGate (handBackInterface name) := by
    intro name
    refine calls_bind (calls_request trivial) fun value => ?_
    exact calls_ite (calls_warnOnError (calls_request trivial)) trivial
  refine calls_ite (calls_bind (hattribute name) fun unauthorized => ?_) trivial
  refine calls_ite (calls_bind (calls_request trivial) fun value => ?_) trivial
  refine calls_ite (calls_bind (calls_warnOnError (calls_request trivial)) fun _ => ?_) ?_
  all_goals
    refine calls_bind (calls_attempt (calls_request trivial)) fun r => ?_
    cases r with
    | error e => trivial
    | ok names => exact calls_forM fun interface _ => hprobe interface

/-- Opening fails, or it leaves the gate open: where it was closed the write went through. -/
theorem opens_openUsbGate (w : World) : Opens (openUsbGate w.daemon).run w := by
  change wp gateKernel _ (openUsbGate w.daemon) Opened w
  unfold openUsbGate
  rw [wp_bind, usbBus, wp_gateKernel]
  intro w₁ hw₁
  refine ⟨trivial, fun c _ => ?_⟩
  rw [andThen_ok]
  by_cases hgate : w₁.bus.autoprobe.isSome = true ∧ w.daemon.routesUsb = true
  · obtain ⟨hsome, hroutes⟩ := hgate
    have hbranch : ((react w₁ .usbBus c).1 && w.daemon.routesUsb) = true := by
      simp [react, hsome, hroutes]
    rw [if_pos hbranch, wp_bind, readAutoprobe, wp_gateKernel]
    intro w₂ hw₂
    refine ⟨trivial, fun c₂ _ => ?_⟩
    rw [andThen_ok]
    by_cases hclosed : w₂.bus.autoprobe = some "0"
    · have hread : ((react w₂ .autoprobe c₂).1 == some "0") = true := by
        simp [react, hclosed]
      rw [if_pos hread, wp_bind]
      refine wp_imp (wp_leavesGate leavesGate_usbHeldByVms) fun held w₃ _ => ?_
      cases held with
      | error e => exact fun hr => by cases hr
      | ok held =>
          rw [andThen_ok, wp_bind, setAutoprobe, wp_gateKernel]
          intro w₄ _
          refine ⟨trivial, fun c₄ hc₄ => ?_⟩
          by_cases hfail : c₄.fail = true
          · have hresult : id (react w₄ (.setAutoprobe "1") c₄).1 =
                .error ["failed to write drivers_autoprobe"] := by
              simp [react, Choice.result, hfail]
            rw [hresult]
            exact fun hr => by cases hr
          · have hresult : id (react w₄ (.setAutoprobe "1") c₄).1 = .ok () := by
              simp [react, Choice.result, hfail]
            rw [hresult, andThen_ok]
            have hopen : (react w₄ (.setAutoprobe "1") c₄).2.bus.autoprobe = some "1" := by
              rw [hc₄]
              simp [Op.autoprobeAfter, hfail]
            have hrest : Calls Op.LeavesGate (do
                let names ← deviceNames
                names.forM (handBack w.daemon held) : Act Unit) :=
              calls_bind (calls_request trivial) fun names =>
                calls_forM fun name _ => leavesGate_handBack w.daemon held name
            refine wp_imp (wp_leavesGate hrest) fun r w₅ hw₅ _ _ => ?_
            rw [hw₅.autoprobe, hopen]
            decide
    · have hread : ((react w₂ .autoprobe c₂).1 == some "0") = false := by
        simpa [react] using hclosed
      rw [hread]
      exact fun _ _ => hclosed
  · have hbranch : ((react w₁ .usbBus c).1 && w.daemon.routesUsb) = false := by
      rw [← Bool.not_eq_true, Bool.and_eq_true_iff]
      exact hgate
    rw [hbranch]
    intro _ hroutes hclosed
    rw [show (react w₁ .usbBus c).2 = w₁ from rfl] at hroutes hclosed
    rw [hw₁.daemon] at hroutes
    exact hgate ⟨by rw [hclosed]; rfl, hroutes⟩

end Opening

/-! ## Runs of the process -/

namespace Process

variable {api : Api} {attachConnected : Bool} {w₀ : World} {p p' : Process}

def NoLoop (p : Process) : Prop := p.events.loop = .ended ∨ p.events.loop = .absent

/-- What is known of the gate and the outcome, by where `run` is. The process found the gate as it
is in `w₀`. -/
def Standing (w₀ : World) (p : Process) : Main → Prop
  | .preparing =>
    p.events.loop = .absent ∧ p.signalled = false ∧ p.handedBack = none ∧ SameGate w₀ p.world
  | .running (.reopen outcome) rest =>
    p.NoLoop ∧ p.handedBack = none ∧ (outcome = .ok () ↔ p.signalled = true) ∧
      Opens rest p.world
  | .running .enable _ | .running .close _ | .running .attachConnected _ | .spawning =>
    p.events.loop = .absent ∧ p.signalled = false ∧ p.handedBack = none
  | .serving => p.signalled = false ∧ p.handedBack = none
  | .aborting outcome => p.handedBack = none ∧ (outcome = .ok () ↔ p.signalled = true)
  | .exited outcome => p.NoLoop ∧
      (p.handedBack = none ∧ (∃ e, outcome = .error e) ∧ SameGate w₀ p.world ∨
        ∃ r, p.handedBack = some r ∧ (outcome = .ok () ↔ p.signalled = true ∧ r = .ok ()) ∧
          Opened r p.world)

structure Sound (w₀ : World) (p : Process) : Prop where
  standing : Standing w₀ p p.main
  requests : ∀ rest ∈ p.requests, rest.Calls Op.LeavesGate

/-- What changes neither the gate nor the loop changes nothing of this. -/
theorem Standing.later {main : Main} (h : Standing w₀ p main) (hw : SameGate p.world p'.world)
    (hloop : p'.events.loop = p.events.loop) (hsignalled : p'.signalled = p.signalled)
    (hhanded : p'.handedBack = p.handedBack) : Standing w₀ p' main := by
  cases main with
  | preparing =>
      rw [Standing, hloop, hsignalled, hhanded]
      obtain ⟨habsent, hsignalled, hnone, hsame⟩ := h
      exact ⟨habsent, hsignalled, hnone, hsame.trans hw⟩
  | spawning =>
      rw [Standing, hloop, hsignalled, hhanded]
      exact h
  | serving =>
      rw [Standing, hsignalled, hhanded]
      exact h
  | aborting outcome =>
      rw [Standing, hsignalled, hhanded]
      exact h
  | exited outcome =>
      rw [Standing, NoLoop, hloop, hsignalled, hhanded]
      obtain ⟨hended, ⟨hnone, herror, hsame⟩ | ⟨r, hr, houtcome, hopened⟩⟩ := h
      · exact ⟨hended, .inl ⟨hnone, herror, hsame.trans hw⟩⟩
      · exact ⟨hended, .inr ⟨r, hr, houtcome, hopened.later hw⟩⟩
  | running errand rest =>
      cases errand with
      | reopen outcome =>
          rw [Standing, NoLoop, hloop, hsignalled, hhanded]
          obtain ⟨hended, hr, houtcome, hopens⟩ := h
          exact ⟨hended, hr, houtcome, hopens.later hw⟩
      | enable | close | attachConnected =>
          rw [Standing, hloop, hsignalled, hhanded]
          exact h

/-- A loop that is over does nothing, and the monitor moves nothing. -/
theorem task_of_ended {M : Machine Op Reply World} {s s' : Events} {activity : Activity}
    (h : s.Step M activity s') (hactivity : activity ∈ [.arrival, .failure, .monitor, .loop, .pass])
    (hloop : s.loop = .ended ∨ s.loop = .absent) :
    s'.loop = s.loop ∧ s'.world = s.world := by
  cases h with
  | initial | spawned | aborted | queued | worked | left | others => simp at hactivity
  | arrived | guarded | taken | cleared | sent | unsent | failed => exact ⟨rfl, rfl⟩
  | woken delay hwaiting | elapsed delay hwaiting | orphaned delay hwaiting =>
      rw [hwaiting] at hloop
      simp at hloop
  | drained hdraining | started hdraining =>
      rw [hdraining] at hloop
      simp at hloop
  | call op next w₁ w₂ r hreconciling | finished r hreconciling =>
      rw [hreconciling] at hloop
      simp at hloop

theorem exitOutcome_eq_ok {outcome r : Except Error Unit} :
    exitOutcome outcome r = .ok () ↔ outcome = .ok () ∧ r = .ok () := by
  cases r with
  | ok _ => simp [exitOutcome]
  | error e => cases outcome <;> simp [exitOutcome]

theorem Sound.task (h : Sound w₀ p) {activity : Activity} {events : Events}
    (hlistens : p.main.Listens) (htask : p.events.Step gateKernel activity events)
    (hactivity : activity ∈ [.arrival, .failure, .monitor, .loop, .pass]) :
    Sound w₀ { p with events := events } := by
  refine ⟨?_, h.requests⟩
  have hstanding := h.standing
  have hquiet : p.NoLoop →
      Standing w₀ { p with events := events } p.main := by
    intro hloop
    obtain ⟨hsame, hworld⟩ := task_of_ended htask hactivity hloop
    have hw : SameGate p.events.world events.world := hworld ▸ SameGate.refl p.events.world
    exact hstanding.later hw hsame rfl rfl
  rcases hlistens with hserves | ⟨rest, hmain⟩
  · cases hmain : p.main with
    | preparing | spawning | exited outcome =>
        rw [hmain] at hserves
        cases hserves
    | serving | aborting outcome =>
        rw [hmain] at hstanding
        exact hstanding
    | running errand rest =>
        rw [hmain] at hserves hstanding
        cases hserves with
        | reopening outcome => exact hmain ▸ hquiet hstanding.1
  · rw [hmain] at hstanding
    exact hquiet (.inr hstanding.1)

theorem Sound.step (h : Sound w₀ p) (hstep : Step gateKernel api attachConnected p p') :
    Sound w₀ p' := by
  have hstanding := h.standing
  cases hstep with
  | unprepared e hmain =>
      rw [hmain] at hstanding
      obtain ⟨habsent, -, hnone, hsame⟩ := hstanding
      exact ⟨⟨.inr habsent, .inl ⟨hnone, ⟨e, rfl⟩, hsame⟩⟩, h.requests⟩
  | prepared hmain =>
      rw [hmain] at hstanding
      obtain ⟨habsent, hsignalled, hnone, -⟩ := hstanding
      exact ⟨⟨habsent, hsignalled, hnone⟩, h.requests⟩
  | call errand op next w₁ w₂ r hmain henv hcall =>
      refine ⟨?_, h.requests⟩
      rw [hmain] at hstanding
      cases errand with
      | reopen outcome =>
          obtain ⟨hended, hr, houtcome, hopens⟩ := hstanding
          exact ⟨hended, hr, houtcome, hopens.call henv hcall⟩
      | enable | close | attachConnected => exact hstanding
  | enabled r hmain | closed r hmain =>
      rw [hmain] at hstanding
      exact ⟨hstanding, h.requests⟩
  | unspawned e hmain =>
      rw [hmain] at hstanding
      obtain ⟨habsent, hsignalled, hr⟩ := hstanding
      exact ⟨⟨.inr habsent, hr, by simp [hsignalled], opens_openUsbGate p.world⟩, h.requests⟩
  | spawned hmain hattach =>
      rw [hmain] at hstanding
      exact ⟨hstanding, h.requests⟩
  | attached r hmain =>
      rw [hmain] at hstanding
      exact ⟨hstanding.2, h.requests⟩
  | unattached hmain hattach =>
      rw [hmain] at hstanding
      exact ⟨hstanding.2, h.requests⟩
  | task activity events hlistens htask hactivity => exact h.task hlistens htask hactivity
  | stopped hmain =>
      rw [hmain] at hstanding
      exact ⟨⟨hstanding.2, by simp⟩, h.requests⟩
  | unserved e hmain =>
      rw [hmain] at hstanding
      exact ⟨⟨hstanding.2, by simp [hstanding.1]⟩, h.requests⟩
  | looped hmain hloop =>
      rw [hmain] at hstanding
      exact ⟨⟨.inl hloop, hstanding.2, by simp [hstanding.1], opens_openUsbGate p.world⟩,
        h.requests⟩
  | aborted outcome hmain =>
      rw [hmain] at hstanding
      refine ⟨?_, h.requests⟩
      change Standing w₀ _ p.main
      rw [hmain]
      exact hstanding
  | dropped outcome rest name w₁ w₂ r hmain hloop henv hcall =>
      rw [hmain] at hstanding
      refine ⟨?_, h.requests⟩
      change Standing w₀ _ p.main
      rw [hmain]
      exact hstanding
  | awaited outcome hmain hloop =>
      rw [hmain] at hstanding
      exact ⟨⟨.inl hloop, hstanding.1, hstanding.2, opens_openUsbGate p.world⟩, h.requests⟩
  | reopened outcome r hmain =>
      rw [hmain] at hstanding
      obtain ⟨hended, -, houtcome, hopens⟩ := hstanding
      refine ⟨⟨hended, .inr ⟨r, rfl, ?_, hopens⟩⟩, h.requests⟩
      rw [exitOutcome_eq_ok, houtcome]
  | asked action hserves =>
      refine ⟨hstanding.later (.refl _) rfl rfl rfl, fun rest hrest => ?_⟩
      rcases List.mem_append.1 hrest with hold | hnew
      · exact h.requests rest hold
      · rw [List.mem_singleton.1 hnew]
        exact leavesGate_handleInner api.boot action
  | request before after op next w₁ w₂ r hserves hrequests henv hcall =>
      have hcalls : (Program.call op next).Calls Op.LeavesGate := by
        apply h.requests
        rw [hrequests]
        simp
      have hw : SameGate p.world w₂ := sameGate_step hcalls.1 henv hcall
      refine ⟨hstanding.later hw rfl rfl rfl, ?_⟩
      have hold := h.requests
      rw [hrequests] at hold
      exact Server.forall_replace hold (hcalls.2 r)
  | answered before after r hrequests =>
      refine ⟨hstanding.later (.refl _) rfl rfl rfl, fun rest hrest => ?_⟩
      apply h.requests
      rw [hrequests]
      rcases List.mem_append.1 hrest with hbefore | hafter
      · exact List.mem_append_left _ hbefore
      · exact List.mem_append_right _ (List.mem_cons_of_mem _ hafter)
  | surroundings w henv => exact ⟨hstanding.later henv rfl rfl rfl, h.requests⟩

theorem sound_start (w : World) : Sound w (start w) where
  standing := ⟨rfl, rfl, rfl, .refl w⟩
  requests := by simp [start]

theorem sound_reaches {w : World} (h : Reaches gateKernel api attachConnected (start w) p) :
    Sound w p := by
  induction h with
  | refl => exact sound_start w
  | tail _ hstep ih => exact ih.step hstep

/-- Whatever ends the daemon and whatever requests race its end, from any gate it found: no pass
runs any more when the gate is opened. The process exits with an error before it touched the gate,
or only once the opening has come to its end; then it exits well exactly when a signal ended it and
the opening succeeded, and after an opening that succeeded host drivers bind again. -/
theorem exit_hands_back {w : World} (h : Reaches gateKernel api attachConnected (start w) p) :
    (∀ outcome rest, p.main = .running (.reopen outcome) rest → p.NoLoop) ∧
      ∀ outcome, p.main = .exited outcome → p.NoLoop ∧
        (p.handedBack = none ∧ (∃ e, outcome = .error e) ∧ SameGate w p.world ∨
          ∃ r, p.handedBack = some r ∧ (outcome = .ok () ↔ p.signalled = true ∧ r = .ok ()) ∧
            (r = .ok () → p.world.daemon.routesUsb = true →
              p.world.bus.autoprobe ≠ some "0")) := by
  have hstanding := (sound_reaches h).standing
  constructor
  · intro outcome rest hmain
    rw [hmain] at hstanding
    exact hstanding.1
  · intro outcome hmain
    rw [hmain] at hstanding
    exact hstanding

theorem Reaches.errand {p₀ : Process} {errand : Errand} {tr : List (World × Op)} {w' : World}
    {rest : Program Op Reply (Except Error Unit)} {r : Except Error Unit}
    (h : Reaches gateKernel api attachConnected p₀ p) (hmain : p.main = .running errand rest)
    (hexec : Exec gateKernel rest p.world tr w' (some r)) :
    Reaches gateKernel api attachConnected p₀
      { p.setWorld w' with main := .running errand (.pure r) } := by
  generalize hw : p.world = w at hexec
  generalize hend : some r = o at hexec
  induction hexec generalizing p with
  | done a w =>
      obtain rfl := Option.some.inj hend
      subst hw
      rw [← hmain]
      exact h
  | stop rest w => cases hend
  | call henv hstep _ ih =>
      subst hw
      have hcalled := h.tail (.call p errand _ _ _ _ _ hmain henv hstep)
      have hdone := ih hcalled rfl rfl hend
      exact hdone

end Process

/-! ## A daemon that is stopped -/

theorem autoprobe_answered (w : World) (op : Op) :
    (react w op {}).2.bus.autoprobe = op.autoprobeAfter false w.bus.autoprobe := by
  cases op with
  | update u => cases u <;> rfl
  | authorize name value =>
      simp only [react]
      split <;> rfl
  | _ => rfl

theorem exec_answered (p : Program Op Reply (Except Error Unit)) (w : World) :
    Exec gateKernel p w (p.follow react (fun _ _ => {}) w).1
      (p.follow react (fun _ _ => {}) w).2.1 (some (p.follow react (fun _ _ => {}) w).2.2) :=
  Program.follow_exec_among p w (fun _ _ => .refl _) fun e _ => autoprobe_answered e.1 e.2

def emptyBus : World where
  daemon := plainDaemon [keyboardRule [("targetVm", .string "gui-vm")]]
  bus := { autoprobe := some "1" }

def Errand.after (errand : Errand) (w : World) : World :=
  ((errand.operation.program w.daemon).run.follow react (fun _ _ => {}) w).2.1

def served : World := Errand.close.after (Errand.enable.after emptyBus)

def stoppedProcess : Process where
  events := { world := (Errand.reopen (.ok ())).after served, loop := .ended }
  main := .exited (.ok ())
  signalled := true
  handedBack := some (.ok ())

theorem reaches_stoppedProcess :
    Process.Reaches gateKernel guestApi false (.start emptyBus) stoppedProcess := by
  have hstart : Process.Reaches gateKernel guestApi false (.start emptyBus) (.start emptyBus) :=
    .refl
  have henabling : Process.Reaches gateKernel guestApi false (.start emptyBus)
      { events := .start emptyBus, main := .begin .enable emptyBus.daemon } :=
    hstart.tail (.prepared _ rfl)
  have hclosing : Process.Reaches gateKernel guestApi false (.start emptyBus)
      { events := .start (Errand.enable.after emptyBus)
        main := .begin .close emptyBus.daemon } :=
    (henabling.errand rfl (exec_answered _ _)).tail (.enabled _ _ rfl)
  have hspawning : Process.Reaches gateKernel guestApi false (.start emptyBus)
      { events := .start served, main := .spawning } :=
    (hclosing.errand rfl (exec_answered _ _)).tail (.closed _ _ rfl)
  have haborting : Process.Reaches gateKernel guestApi false (.start emptyBus)
      { events := { world := served, loop := .ended }
        main := .aborting (.ok ())
        signalled := true } :=
    ((hspawning.tail (.unattached _ rfl rfl)).tail (.stopped _ rfl)).tail (.aborted _ _ rfl)
  have hreopening : Process.Reaches gateKernel guestApi false (.start emptyBus)
      { events := { world := served, loop := .ended }
        main := .begin (.reopen (.ok ())) served.daemon
        signalled := true } :=
    haborting.tail (.awaited _ _ rfl rfl)
  exact (hreopening.errand rfl (exec_answered _ _)).tail (.reopened _ (.ok ()) (.ok ()) rfl)

/-- Here the gate was closed while the daemon served. -/
theorem exit_hands_back_emptyBus : served.bus.autoprobe = some "0" ∧ stoppedProcess.NoLoop ∧
    (stoppedProcess.handedBack = none ∧ (∃ e, .ok () = (.error e : Except Error Unit)) ∧
      SameGate emptyBus stoppedProcess.world ∨
      ∃ r, stoppedProcess.handedBack = some r ∧
        (.ok () = (.ok () : Except Error Unit) ↔ stoppedProcess.signalled = true ∧ r = .ok ()) ∧
        (r = .ok () → stoppedProcess.world.daemon.routesUsb = true →
          stoppedProcess.world.bus.autoprobe ≠ some "0")) :=
  ⟨by decide, (Process.exit_hands_back reaches_stoppedProcess).2 (.ok ()) rfl⟩

end GhafDeviceManager
