import GhafDeviceManager.AttachSides
import GhafDeviceManager.Transcripts
import GhafDeviceManager.VmmArgs

/-!
# Requests, one after another

All a daemon is asked, with what each request calls at all and why: the footprint of a request is
that of its parts, and a call is judged by what its request was told before.
-/

namespace GhafDeviceManager

open Fallible

inductive Request
  | operation (o : Operation)
  | usbList (disconnected : Option Bool) (tag : Option String)
  | pciList (disconnected : Option Bool) (tag : Option String)
  | vmmArgs (vm : String) (requirePci : Bool)

def Request.program (d : Daemon) : Request → Act Unit
  | .operation o => o.program d
  | .usbList disconnected tag => do let _ ← d.usbList disconnected tag
  | .pciList disconnected tag => do let _ ← d.pciList disconnected tag
  | .vmmArgs vm requirePci => do let _ ← GhafDeviceManager.vmmArgs d vm requirePci

def Request.Attaching : Request → Prop
  | .operation (.usbAttach _ _) | .operation (.usbResume _) | .operation (.pciAttach _ _)
  | .operation (.pciResume _) | .operation .reconcile => True
  | _ => False

structure RequestCall where
  daemon : Daemon
  /-- What the request was told before. -/
  told : Transcript Op Reply
  op : Op

/-- One request after another, with all they call. Any of them may end at any call, and another
daemon may go on; what comes between two calls is for the machine to say. -/
inductive RequestRun {V : Type} (M : Machine Op Reply V) : V → List RequestCall → V → Prop
  | nil (v : V) : RequestRun M v [] v
  | cons {v v₁ v₂ : V} {t : Transcript Op Reply} {tr : List ((V × Transcript Op Reply) × Op)}
      {calls : List RequestCall} {r : Option (Except Error Unit)} (d : Daemon) (request : Request)
      (hexec : Exec M.recorded (request.program d).run (v, []) tr (v₁, t) r)
      (hrest : RequestRun M v₁ calls v₂) :
      RequestRun M v (tr.map (fun e => ⟨d, e.1.2, e.2⟩) ++ calls) v₂

/-- What each request guarantees of its calls under any replies holds of them in any world. -/
theorem RequestRun.guarantee {V : Type} {M : Machine Op Reply V} {v v' : V}
    {calls : List RequestCall} {G : Daemon → Transcript Op Reply → Op → Prop}
    (h : RequestRun M v calls v')
    (hG : ∀ d (request : Request), wp Machine.transcript (G d) (request.program d)
      (fun _ _ => True) []) : ∀ call ∈ calls, G call.daemon call.told call.op := by
  induction h with
  | nil v => simp
  | cons d request hexec _ ih =>
      intro call hcall
      rcases List.mem_append.1 hcall with hfirst | hlater
      · obtain ⟨e, he, rfl⟩ := List.mem_map.1 hfirst
        exact (Program.wp_recorded (hG d request) hexec).1 e he
      · exact ih call hlater

/-- An operation whose answers a strategy picks is a request with its transcript kept. -/
theorem RequestRun.perform (w : World) (pick : World → Op → Choice) (o : Operation) :
    ∃ calls, RequestRun (machine anyChoice) w calls (w.perform pick o) ∧
      calls.map RequestCall.op = (w.trace pick o).map Prod.snd ∧
        ∀ call ∈ calls, call.daemon = w.daemon := by
  obtain ⟨tr, t, hexec, htr⟩ := (exec_follow (o.program w.daemon) pick w).recorded []
  refine ⟨_, .cons w.daemon (.operation o) hexec (.nil _), ?_, ?_⟩
  · rw [List.append_nil, List.map_map, World.trace, ← htr, List.map_map]
    rfl
  · intro call hcall
    rw [List.append_nil] at hcall
    obtain ⟨e, -, rfl⟩ := List.mem_map.1 hcall
    rfl

theorem wp_withLock_told {α : Type} {G : Transcript Op Reply → Op → Prop} {lock : Lock} {p : Act α}
    {t : Transcript Op Reply} (hlock : G t (.lock lock)) (hunlock : ∀ t, G t (.unlock lock))
    (hp : wp Machine.transcript G p (fun _ _ => True) (⟨.lock lock, ()⟩ :: t)) :
    wp Machine.transcript G (withLock lock p) (fun _ _ => True) t := by
  rw [withLock, wp_bind, wp_request_transcript]
  refine ⟨hlock, fun _ => ?_⟩
  rw [andThen_ok, wp_bind, wp_attempt]
  refine wp_imp hp fun r t' _ => ?_
  rw [andThen_ok, wp_bind, wp_request_transcript]
  refine ⟨hunlock t', fun _ => ?_⟩
  cases r <;> trivial

/-! ## Footprints -/

/-- The footprints of a daemon's parts beside the attaches. -/
structure PartsCall (S : Op → Prop) (d : Daemon) : Prop where
  glue : ∀ op : Op, op.Glue → S op
  detachUsb : ∀ device permanent, Calls S (detachOneUsb d device permanent)
  detachPci : ∀ device rule permanent, Calls S (detachOnePci d device rule permanent)
  bind : ∀ address, Calls S (bindVfio address)
  enable : Calls S (enableUsbAuthorization d)
  close : Calls S (closeUsbGate d)
  open_ : Calls S (openUsbGate d)
  gate : Calls S (applyUsbGate d)
  observe : Calls S (observe d)
  sweep : Calls S (deauthorizeUnmatchedUsb d)

namespace PartsCall

variable {S : Op → Prop} {d : Daemon}

theorem mono {T : Op → Prop} (h : PartsCall S d) (hT : ∀ op, S op → T op) : PartsCall T d where
  glue op hop := hT op (h.glue op hop)
  detachUsb device permanent := Program.calls_mono (h.detachUsb device permanent) hT
  detachPci device rule permanent := Program.calls_mono (h.detachPci device rule permanent) hT
  bind address := Program.calls_mono (h.bind address) hT
  enable := Program.calls_mono h.enable hT
  close := Program.calls_mono h.close hT
  open_ := Program.calls_mono h.open_ hT
  gate := Program.calls_mono h.gate hT
  observe := Program.calls_mono h.observe hT
  sweep := Program.calls_mono h.sweep hT

theorem round {α : Type} {xs : List α} {f : List String → α → Act (List String)}
    (hf : ∀ failures x, Calls S (f failures x)) :
    Calls S (do
      let failures ← xs.foldlM f []
      aggregate failures) :=
  calls_bind (calls_foldlM hf []) fun failures => calls_aggregate failures

variable (h : PartsCall S d)

include h

theorem locked {α : Type} {p : Act α} (hp : Calls S p) : Calls S (withLock .operation p) :=
  calls_withLock (h.glue _ trivial) (h.glue _ trivial) hp

theorem pciDevices_calls : Calls S (pciDevices d) :=
  calls_pciDevices (h.glue _ trivial) fun _ => h.glue _ trivial

theorem usbList_calls (disconnected : Option Bool) (tag : Option String) :
    Calls S (d.usbList disconnected tag) := by
  refine calls_withLock (h.glue _ trivial) (h.glue _ trivial) ?_
  refine calls_bind (calls_request (h.glue _ trivial)) fun m => ?_
  exact calls_bind (calls_usbDevices (h.glue _ trivial)) fun devices => trivial

theorem pciList_calls (disconnected : Option Bool) (tag : Option String) :
    Calls S (d.pciList disconnected tag) := by
  refine calls_withLock (h.glue _ trivial) (h.glue _ trivial) ?_
  refine calls_bind (calls_request (h.glue _ trivial)) fun m => ?_
  exact calls_bind h.pciDevices_calls fun devices => trivial

theorem bindNew_calls (addresses bound : List String) : Calls S (bindNew addresses bound) := by
  induction addresses generalizing bound with
  | nil => trivial
  | cons address rest ih => exact calls_ite (ih bound) (calls_bind (h.bind address) fun _ => ih _)

theorem vmmArgs_calls (vm : String) (requirePci : Bool) :
    Calls S (vmmArgs d vm requirePci) := by
  have hloop : ∀ (devices : List (PciDevice × RuleMatch)) (acc : VmmPci),
      Calls S (devices.foldlM (fun acc x => vmmDevice acc x.1 x.2) acc) := by
    intro devices acc
    refine calls_foldlM (fun acc x => ?_) acc
    refine calls_bind (calls_request (h.glue _ trivial)) fun group => ?_
    exact calls_bind (h.bindNew_calls _ _) fun bound => trivial
  refine calls_bind ?_ fun acc => trivial
  refine calls_bind (calls_require _ _) fun _ => ?_
  refine calls_bind h.pciDevices_calls fun devices => ?_
  exact calls_ite (by trivial) (calls_ite (by trivial) (hloop _ _))

/-- The footprint of a request without an attach is that of its parts. -/
theorem request_calls {request : Request} (hrequest : ¬request.Attaching) :
    Calls S (request.program d) := by
  cases request with
  | usbList disconnected tag => exact calls_bind (h.usbList_calls disconnected tag) fun _ => trivial
  | pciList disconnected tag => exact calls_bind (h.pciList_calls disconnected tag) fun _ => trivial
  | vmmArgs vm requirePci => exact calls_bind (h.vmmArgs_calls vm requirePci) fun _ => trivial
  | operation o =>
    cases o with
    | enableUsbAuthorization => exact calls_bind h.enable fun _ => trivial
    | closeUsbGate => exact calls_bind h.close fun _ => trivial
    | openUsbGate => exact h.open_
    | usbDetach selector =>
        refine h.locked (calls_bind (calls_selectedUsb selector (h.glue _ trivial)) fun xs => ?_)
        exact round fun failures x => calls_collect (h.detachUsb x.1 true) failures
    | usbSuspend vm =>
        refine h.locked (calls_bind (calls_usbDevices (h.glue _ trivial)) fun xs => ?_)
        refine round fun failures x => calls_bind (calls_request (h.glue _ trivial)) fun m => ?_
        exact calls_ite (calls_collect (h.detachUsb x.1 false) failures) (by trivial)
    | pciDetach selector =>
        refine h.locked (calls_bind (calls_selectedPci selector (h.glue _ trivial)
          fun _ => h.glue _ trivial) fun xs => round fun failures x => ?_)
        exact calls_collect (h.detachPci x.1 x.2 true) failures
    | pciSuspend vm =>
        refine h.locked (calls_bind h.pciDevices_calls fun xs => round fun failures x => ?_)
        refine calls_bind (calls_request (h.glue _ trivial)) fun m => ?_
        exact calls_ite (calls_collect (h.detachPci x.1 x.2 false) failures) (by trivial)
    | _ => exact absurd trivial hrequest

end PartsCall

/-! ## Why a request goes on -/

/-- A scan of the USB bus has shown the device. -/
def ShowsUsb (t : Transcript Op Reply) (device : UsbDevice) : Prop :=
  ∃ devices, (⟨.scanUsb, .ok devices⟩ : (op : Op) × Reply op) ∈ t ∧ device ∈ devices

def ShowsPci (t : Transcript Op Reply) (device : PciDevice) : Prop :=
  ∃ devices, (⟨.scanPci, .ok devices⟩ : (op : Op) × Reply op) ∈ t ∧ device ∈ devices

theorem ShowsUsb.cons {t : Transcript Op Reply} {device : UsbDevice} (h : ShowsUsb t device)
    (e : (op : Op) × Reply op) : ShowsUsb (e :: t) device := by
  obtain ⟨devices, hscan, hdevice⟩ := h
  exact ⟨devices, List.mem_cons_of_mem e hscan, hdevice⟩

theorem ShowsPci.cons {t : Transcript Op Reply} {device : PciDevice} (h : ShowsPci t device)
    (e : (op : Op) × Reply op) : ShowsPci (e :: t) device := by
  obtain ⟨devices, hscan, hdevice⟩ := h
  exact ⟨devices, List.mem_cons_of_mem e hscan, hdevice⟩

/-- What the parts of a daemon guarantee of their calls, whatever they are told. An attach is of a
device that was shown and that a rule routes. -/
structure PartsTell (G : Transcript Op Reply → Op → Prop) (d : Daemon) : Prop where
  parts : PartsCall (fun op => ∀ t, G t op) d
  attachUsb : ∀ device rule requestedVm t, ShowsUsb t device → d.usbRule device = some rule →
    wp Machine.transcript G (attachOneUsb d device rule requestedVm) (fun _ _ => True) t
  attachPci : ∀ device rule requestedVm t, ShowsPci t device → d.pciRule device = some rule →
    wp Machine.transcript G (attachOnePci d device rule requestedVm) (fun _ _ => True) t

section Tells

variable {G : Transcript Op Reply → Op → Prop} {d : Daemon} {α : Type}

/-- The devices to attach: shown, and routed by the rule they come with. -/
def UsbAtHand (d : Daemon) (xs : List (UsbDevice × RuleMatch)) (t : Transcript Op Reply) : Prop :=
  ∀ x ∈ xs, ShowsUsb t x.1 ∧ d.usbRule x.1 = some x.2

def PciAtHand (d : Daemon) (xs : List (PciDevice × RuleMatch)) (t : Transcript Op Reply) : Prop :=
  ∀ x ∈ xs, ShowsPci t x.1 ∧ d.pciRule x.1 = some x.2

theorem UsbAtHand.cons {xs : List (UsbDevice × RuleMatch)} {t : Transcript Op Reply}
    (h : UsbAtHand d xs t) (e : (op : Op) × Reply op) : UsbAtHand d xs (e :: t) := fun x hx =>
  ⟨(h x hx).1.cons e, (h x hx).2⟩

theorem PciAtHand.cons {xs : List (PciDevice × RuleMatch)} {t : Transcript Op Reply}
    (h : PciAtHand d xs t) (e : (op : Op) × Reply op) : PciAtHand d xs (e :: t) := fun x hx =>
  ⟨(h x hx).1.cons e, (h x hx).2⟩

theorem wp_usbDevices_tells (hscan : ∀ t, G t .scanUsb) (t : Transcript Op Reply) :
    wp Machine.transcript G (usbDevices d)
      (fun r t' => ∀ xs, r = .ok xs → UsbAtHand d xs t') t := by
  rw [usbDevices, wp_bind, scanUsbRoot, wp_request_transcript]
  refine ⟨hscan t, fun r => ?_⟩
  cases r with
  | error e =>
      intro xs hxs
      cases hxs
  | ok devices =>
      intro xs hxs x hx
      obtain rfl := Except.ok.inj hxs
      obtain ⟨device, hmem, hdevice⟩ := List.mem_filterMap.1 hx
      obtain ⟨rule, hrule, rfl⟩ := Option.map_eq_some_iff.1 hdevice
      exact ⟨⟨devices, List.mem_cons_self, hmem⟩, hrule⟩

theorem wp_selectedUsb_tells (hscan : ∀ t, G t .scanUsb) (selector : Selector)
    (t : Transcript Op Reply) : wp Machine.transcript G (selectedUsb d selector)
      (fun r t' => ∀ xs, r = .ok xs → UsbAtHand d xs t') t := by
  rw [selectedUsb, wp_bind]
  refine wp_imp (wp_usbDevices_tells hscan t) fun r t' h => ?_
  cases r with
  | error e =>
      intro xs hxs
      cases hxs
  | ok devices =>
      rw [andThen_ok]
      dsimp only
      split
      · intro xs hxs
        cases hxs
      · intro xs hxs x hx
        obtain rfl := Except.ok.inj hxs
        exact h devices rfl x (List.mem_filter.1 hx).1

theorem wp_pciRouted_tells (hgroup : ∀ t address, G t (.iommuGroup address))
    (devices : List PciDevice) (t : Transcript Op Reply) :
    wp Machine.transcript G (pciRouted d devices) (fun r _ => ∀ xs, r = .ok xs →
      ∀ x ∈ xs, x.1 ∈ devices ∧ d.pciRule x.1 = some x.2) t := by
  induction devices generalizing t with
  | nil =>
      intro xs hxs x hx
      obtain rfl := Except.ok.inj hxs
      cases hx
  | cons device rest ih =>
      have hrest : ∀ t, wp Machine.transcript G (pciRouted d rest) (fun r _ => ∀ xs, r = .ok xs →
          ∀ x ∈ xs, x.1 ∈ device :: rest ∧ d.pciRule x.1 = some x.2) t := fun t =>
        wp_imp (ih t) fun r _ h xs hxs x hx =>
          ⟨List.mem_cons_of_mem device (h xs hxs x hx).1, (h xs hxs x hx).2⟩
      have hkeep : ∀ rule, d.pciRule device = some rule → ∀ t,
          wp Machine.transcript G (do
            return (device, rule) :: (← pciRouted d rest)) (fun r _ => ∀ xs, r = .ok xs →
              ∀ x ∈ xs, x.1 ∈ device :: rest ∧ d.pciRule x.1 = some x.2) t := by
        intro rule hrule t
        rw [wp_bind]
        refine wp_imp (hrest t) fun r t' h => ?_
        cases r with
        | error e =>
            intro xs hxs
            cases hxs
        | ok ys =>
            intro xs hxs x hx
            obtain rfl := Except.ok.inj hxs
            obtain rfl | hmem := List.mem_cons.1 hx
            · exact ⟨List.mem_cons_self, hrule⟩
            · exact h ys rfl x hmem
      unfold pciRouted
      split
      case h_1 => exact hrest t
      case h_2 rule hrule =>
        split
        case isFalse => exact hkeep rule hrule t
        case isTrue =>
          rw [wp_bind, iommuGroupAt, wp_request_transcript]
          refine ⟨hgroup t _, fun r => ?_⟩
          cases r with
          | error e =>
              intro xs hxs
              cases hxs
          | ok group =>
              rw [id, andThen_ok]
              split
              · exact hrest _
              · exact hkeep rule hrule _

theorem wp_pciDevices_tells (hscan : ∀ t, G t .scanPci)
    (hgroup : ∀ t address, G t (.iommuGroup address)) (t : Transcript Op Reply) :
    wp Machine.transcript G (pciDevices d)
      (fun r t' => ∀ xs, r = .ok xs → PciAtHand d xs t') t := by
  rw [pciDevices, wp_bind, scanPciRoot, wp_request_transcript]
  refine ⟨hscan t, fun r => ?_⟩
  cases r with
  | error e =>
      intro xs hxs
      cases hxs
  | ok devices =>
      rw [id, andThen_ok, wp_bind]
      have hshown : wp Machine.transcript (fun _ _ => True) (pciRouted d devices)
          (fun _ t' => ∀ device ∈ devices, ShowsPci t' device) (⟨.scanPci, .ok devices⟩ :: t) :=
        wp_of_calls_transcript (Program.calls_top _)
          (fun t' op r _ h device hdevice => (h device hdevice).cons ⟨op, r⟩)
          (fun _ _ _ _ => trivial) fun device hdevice => ⟨devices, List.mem_cons_self, hdevice⟩
      refine wp_imp (wp_mono (wp_and (wp_pciRouted_tells hgroup devices _) hshown)
        (fun _ _ h => h.1) fun _ _ h => h) fun r t' h => ?_
      cases r with
      | error e =>
          intro xs hxs
          cases hxs
      | ok ys =>
          intro xs hxs x hx
          obtain rfl := Except.ok.inj hxs
          obtain ⟨hmem, hrule⟩ := h.1 ys rfl x (List.mem_insertionSort _ |>.1 hx)
          exact ⟨h.2 x.1 hmem, hrule⟩

theorem wp_selectedPci_tells (hscan : ∀ t, G t .scanPci)
    (hgroup : ∀ t address, G t (.iommuGroup address)) (selector : Selector)
    (t : Transcript Op Reply) : wp Machine.transcript G (selectedPci d selector)
      (fun r t' => ∀ xs, r = .ok xs → PciAtHand d xs t') t := by
  rw [selectedPci, wp_bind]
  refine wp_imp (wp_pciDevices_tells hscan hgroup t) fun r t' h => ?_
  cases r with
  | error e =>
      intro xs hxs
      cases hxs
  | ok devices =>
      rw [andThen_ok]
      dsimp only
      split
      · intro xs hxs
        cases hxs
      · intro xs hxs x hx
        obtain rfl := Except.ok.inj hxs
        exact h devices rfl x (List.mem_filter.1 hx).1

end Tells

namespace PartsTell

variable {G : Transcript Op Reply → Op → Prop} {d : Daemon}

theorem of_calls {α : Type} {p : Act α} (hp : Calls (fun op => ∀ t, G t op) p)
    (t : Transcript Op Reply) : wp Machine.transcript G p (fun _ _ => True) t :=
  wp_of_footprint hp (fun _ hop t => hop t) t

theorem collect_tells {name : String} {p : Act Unit} {failures : List String}
    {t : Transcript Op Reply} (hp : wp Machine.transcript G p (fun _ _ => True) t) :
    wp Machine.transcript G (collect name p failures) (fun _ _ => True) t := by
  rw [collect, wp_bind, wp_attempt]
  refine wp_imp hp fun r t' _ => ?_
  cases r <;> trivial

/-- Footprints alone, whatever was told. -/
theorem of_footprints {S : Op → Prop} (hparts : PartsCall S d)
    (hattachUsb : ∀ device rule requestedVm, d.usbRule device = some rule →
      Calls S (attachOneUsb d device rule requestedVm))
    (hattachPci : ∀ device rule requestedVm, Calls S (attachOnePci d device rule requestedVm)) :
    PartsTell (fun _ => S) d where
  parts := hparts.mono fun _ hop _ => hop
  attachUsb device rule vm t _ hrule :=
    wp_of_footprint (hattachUsb device rule vm hrule) (fun _ hop _ => hop) t
  attachPci device rule vm t _ _ :=
    wp_of_footprint (hattachPci device rule vm) (fun _ hop _ => hop) t

variable (h : PartsTell G d)

include h

theorem quiet (op : Op) (hop : op.Glue) (t : Transcript Op Reply) : G t op :=
  h.parts.glue op hop t

theorem round {α : Type} (AtHand : List α → Transcript Op Reply → Prop)
    (before : List α → Act Unit) {selected : Act (List α)}
    {f : List String → α → Act (List String)}
    (hgrows : ∀ xs t e, AtHand xs t → AtHand xs (e :: t))
    (hselected : ∀ t, wp Machine.transcript G selected
      (fun r t' => ∀ xs, r = .ok xs → AtHand xs t') t)
    (hbefore : ∀ xs, Calls (fun op => ∀ t, G t op) (before xs))
    (hf : ∀ failures xs, ∀ x ∈ xs, ∀ t, AtHand xs t →
      wp Machine.transcript G (f failures x) (fun _ _ => True) t) (t : Transcript Op Reply) :
    wp Machine.transcript G (withLock .operation do
      let devices ← selected
      before devices
      let failures ← devices.foldlM f []
      aggregate failures) (fun _ _ => True) t := by
  have hbody : ∀ t, wp Machine.transcript G (do
      let devices ← selected
      before devices
      let failures ← devices.foldlM f []
      aggregate failures) (fun _ _ => True) t := by
    intro t
    rw [wp_bind]
    refine wp_imp (hselected t) fun r t' hr => ?_
    cases r with
    | error e => trivial
    | ok xs =>
        rw [andThen_ok, wp_bind]
        have hstart : Keeps Machine.transcript G (AtHand xs) (before xs) :=
          keeps_growing (hgrows xs) fun t _ => of_calls (hbefore xs) t
        refine wp_imp (hstart t' (hr xs rfl)) fun r t' ht' => ?_
        cases r with
        | error e => trivial
        | ok _ =>
            rw [andThen_ok, wp_bind]
            have hround : ∀ failures, ∀ x ∈ xs, Keeps Machine.transcript G (AtHand xs)
                (f failures x) := fun failures x hx =>
              keeps_growing (hgrows xs) fun t ht => hf failures xs x hx t ht
            refine wp_imp (wp_foldlM (fun failures x hx t ht => hround failures x hx t ht) []
              ht') fun r t' _ => ?_
            cases r with
            | error e => trivial
            | ok failures => exact of_calls (calls_aggregate failures) t'
  rw [withLock, wp_bind, wp_request_transcript]
  refine ⟨h.quiet (.lock .operation) trivial t, fun r => ?_⟩
  rw [andThen_ok, wp_bind, wp_attempt]
  refine wp_imp (hbody _) fun r t' _ => ?_
  rw [andThen_ok, wp_bind, wp_request_transcript]
  refine ⟨h.quiet (.unlock .operation) trivial t', fun _ => ?_⟩
  cases r <;> trivial

theorem collectDeferring_tells {name : String} {target : Option String} {p : Act Unit}
    {failures : List String} {t : Transcript Op Reply}
    (hp : wp Machine.transcript G p (fun _ _ => True) t) :
    wp Machine.transcript G (collectDeferring d name target p failures) (fun _ _ => True) t := by
  rw [collectDeferring, wp_bind, wp_attempt]
  refine wp_imp hp fun r t' _ => ?_
  cases r with
  | ok _ => trivial
  | error e =>
      refine of_calls (calls_bind (calls_vmStopped (fun socket =>
        h.quiet (.socketGeneration socket) trivial) target) fun stopped => ?_) t'
      exact calls_ite (calls_bind (calls_request (h.quiet _ trivial)) fun _ => trivial) (by trivial)

theorem resumeUsb_tells (vm : Option String) (t : Transcript Op Reply) :
    wp Machine.transcript G (resumeUsb d vm) (fun _ _ => True) t := by
  refine h.round (UsbAtHand d) (fun xs => enter (.resumeUsb xs))
    (fun _ _ e hx => UsbAtHand.cons hx e) (wp_usbDevices_tells (h.quiet .scanUsb trivial))
    (fun _ => calls_request (h.quiet _ trivial)) (fun failures xs x hx t ht => ?_) t
  have hone : ∀ target, ∀ t, UsbAtHand d xs t → wp Machine.transcript G (do
      if inScope vm target then
        collectDeferring d x.1.sysName target (attachOneUsb d x.1 x.2 target) failures
      else return failures) (fun _ _ => True) t := by
    intro target t ht
    split
    · exact h.collectDeferring_tells (h.attachUsb x.1 x.2 target t (ht x hx).1 (ht x hx).2)
    · trivial
  change wp _ _ (resumeUsbDevice d vm failures x.1 x.2) _ t
  rw [resumeUsbDevice, wp_bind, readMemory, wp_request_transcript]
  refine ⟨h.quiet (.read .state) trivial t, fun m => ?_⟩
  rw [andThen_ok]
  split
  · trivial
  · split
    · exact hone _ _ (ht.cons _)
    · rw [wp_bind, wp_request_transcript]
      refine ⟨h.quiet (.read .state) trivial _, fun m' => ?_⟩
      exact hone (m'.persistent.selectedVms.lookup x.1.persistentId) _ ((ht.cons _).cons _)

theorem resumePci_tells (vm : Option String) (t : Transcript Op Reply) :
    wp Machine.transcript G (resumePci d vm) (fun _ _ => True) t := by
  refine h.round (PciAtHand d) (fun _ => pure ()) (fun _ _ e hx => PciAtHand.cons hx e)
    (wp_pciDevices_tells (h.quiet .scanPci trivial)
      fun t address => h.quiet (.iommuGroup address) trivial t)
    (fun _ => trivial) (fun failures xs x hx t ht => ?_) t
  change wp _ _ (resumePciDevice d vm failures x.1 x.2) _ t
  rw [resumePciDevice, wp_bind, readMemory, wp_request_transcript]
  refine ⟨h.quiet (.read .state) trivial t, fun m => ?_⟩
  rw [andThen_ok]
  split
  · trivial
  · split
    · have ht' : PciAtHand d xs (⟨.read .state, m⟩ :: t) := ht.cons _
      exact h.collectDeferring_tells (h.attachPci x.1 x.2 _ _ (ht' x hx).1 (ht' x hx).2)
    · trivial

theorem attachUsb_tells (selector : Selector) (vm : Option String) (t : Transcript Op Reply) :
    wp Machine.transcript G (GhafDeviceManager.attachUsb d selector vm) (fun _ _ => True) t := by
  refine h.round (UsbAtHand d) (fun _ => pure ()) (fun _ _ e hx => UsbAtHand.cons hx e)
    (wp_selectedUsb_tells (h.quiet .scanUsb trivial) selector)
    (fun _ => trivial) (fun failures xs x hx t ht => ?_) t
  exact collect_tells (h.attachUsb x.1 x.2 vm t (ht x hx).1 (ht x hx).2)

theorem attachPci_tells (selector : Selector) (vm : Option String) (t : Transcript Op Reply) :
    wp Machine.transcript G (GhafDeviceManager.attachPci d selector vm) (fun _ _ => True) t := by
  refine h.round (PciAtHand d) (fun _ => pure ()) (fun _ _ e hx => PciAtHand.cons hx e)
    (wp_selectedPci_tells (h.quiet .scanPci trivial)
      (fun t address => h.quiet (.iommuGroup address) trivial t) selector)
    (fun _ => trivial) (fun failures xs x hx t ht => ?_) t
  exact collect_tells (h.attachPci x.1 x.2 vm t (ht x hx).1 (ht x hx).2)

theorem reconcile_tells (t : Transcript Op Reply) :
    wp Machine.transcript G (reconcile d) (fun _ _ => True) t := by
  have hkeeps : ∀ {α : Type} {p : Act α}, Calls (fun op => ∀ t, G t op) p →
      Keeps Machine.transcript G (fun _ => True) p := fun hp t _ => of_calls hp t
  have hstart : Calls (fun op => ∀ t, G t op) (update (.deferred false)) :=
    calls_request (h.quiet _ trivial)
  refine keeps_bind (hkeeps hstart) (fun _ => ?_) t trivial
  refine keeps_bind (keeps_warnOnError (hkeeps h.parts.gate)) fun _ => ?_
  refine keeps_bind (hkeeps h.parts.observe) fun _ => ?_
  refine keeps_bind (keeps_collect fun t _ => h.resumePci_tells none t) fun _ => ?_
  refine keeps_bind (keeps_collect fun t _ => h.resumeUsb_tells none t) fun _ => ?_
  refine keeps_bind (keeps_collect (hkeeps h.parts.sweep)) fun failures => ?_
  exact hkeeps (calls_aggregate failures)

theorem request_tells (request : Request) (t : Transcript Op Reply) :
    wp Machine.transcript G (request.program d) (fun _ _ => True) t := by
  by_cases hattaching : request.Attaching
  case neg => exact of_calls (h.parts.request_calls hattaching) t
  case pos =>
    cases request with
    | operation o =>
      cases o with
      | usbAttach selector vm => exact h.attachUsb_tells selector vm t
      | usbResume vm => exact h.resumeUsb_tells vm t
      | pciAttach selector vm => exact h.attachPci_tells selector vm t
      | pciResume vm => exact h.resumePci_tells vm t
      | reconcile => exact h.reconcile_tells t
      | _ => exact hattaching.elim
    | _ => exact hattaching.elim

end PartsTell

end GhafDeviceManager
