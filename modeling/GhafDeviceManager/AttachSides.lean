import GhafDeviceManager.AttachSpec
import GhafDeviceManager.Interleaving
import GhafDeviceManager.Parts

/-!
# What an attach request and a pass promise of one device

A request holds the operation lock, the sweep of a pass does not: it decides on the records it
finds under the state lock, and an attach takes that lock only for its record. What either side
promises about one device is proved over its own view of the locks and of that device.
-/

namespace GhafDeviceManager

open Fallible

/-! ## The two sides -/

/-- How far a request has come with a device. -/
inductive Progress
  | apart
  /-- Detaching it first; what it then reads of the authorization promises nothing. -/
  | leaving
  /-- The guard has seen the device authorized, or has authorized it. -/
  | guarded
  /-- The device is recorded for its VM. -/
  | recorded
deriving DecidableEq

/-- The device called `name` has the device node `node`, to itself, and is no hub. -/
def World.ownNode (w : World) (name node : String) : Prop :=
  ∀ device ∈ w.usbDevices, (device.sysName = name ↔ device.deviceNode = some node) ∧
    (device.sysName = name → device.isHub = false)

section Views

variable (name node : String)

/-- The request's own calls and their replies tell how far it has come. -/
def Progress.next (p : Progress) : (op : Op) → Reply op → Progress
  | .enter (.attachOneUsb _ _ _), _ | .unlock .operation, _ =>
    if p = .recorded then .recorded else .apart
  | .enter (.detachOneUsb device _), _ => if device.sysName = name then .leaving else p
  | .authorization other, value =>
    if other ≠ name ∨ p = .recorded then p
    else if p = .leaving then .apart
    else if value = some true then .guarded else p
  | .authorize other true, result =>
    if other ≠ name ∨ p = .recorded ∨ result.toBool = false then p else .guarded
  | .authorize other false, _ => if other = name then .apart else p
  | .update (.usbVmsInsert other _), _ => if other = node then .recorded else p
  | .update (.usbVmsRemove other), _ => if other = node ∧ p = .recorded then .apart else p
  | _, _ => p

/-- What one side knows of its locks and of the device. -/
structure View where
  operation : Bool := false
  state : Bool := false
  progress : Progress := .apart
  /-- Since it took the operation lock it has removed the record or seen the device unauthorized. -/
  cleared : Bool := false
  /-- Whether the memory it read last has a record of the device. -/
  snapshot : Option Bool := none

def View.next (v : View) (op : Op) (r : Reply op) : View :=
  let v := { v with progress := v.progress.next name node op r }
  match op, r with
  | .lock .operation, _ => { v with operation := true, cleared := false }
  | .unlock .operation, _ => { v with operation := false }
  | .lock .state, _ => { v with state := true, snapshot := none }
  | .unlock .state, _ => { v with state := false }
  | .read _, m => { v with snapshot := some (m.usbVms.lookup node).isSome }
  | .update (.usbVmsInsert _ _), _ => { v with snapshot := none }
  | .update (.usbVmsRemove other), _ =>
    { v with snapshot := none, cleared := v.cleared || other = node }
  | .authorization other, value =>
    { v with cleared := v.cleared || (other = name && value != some true) }
  | _, _ => v

def ScansOwnNode : (op : Op) → Reply op → Prop
  | .scanUsb, .ok devices => ∀ device ∈ devices,
      (device.sysName = name ↔ device.deviceNode = some node) ∧
        (device.sysName = name → device.isHub = false)
  | _, _ => True

def side : Machine Op Reply View := Machine.ofReplies (ScansOwnNode name node) (View.next name node)

/-- What both sides promise: the device loses its authorization where its record went or it had
none, under the operation lock, or where the memory read under the state lock has no record of it;
and it is recorded under both locks after the guard. -/
structure Careful (v : View) (op : Op) : Prop where
  deauthorizes : op = .authorize name false →
    (v.operation = true ∧ v.cleared = true) ∨ (v.state = true ∧ v.snapshot = some false)
  records : ∀ vm, op = .update (.usbVmsInsert node vm) → v.operation = true ∧ v.state = true ∧
    (v.progress = .guarded ∨ v.progress = .recorded)

def Op.Idle (op : Op) : Prop :=
  op ≠ .authorize name false ∧ ∀ vm, op ≠ .update (.usbVmsInsert node vm)

end Views

section Side

variable {name node : String} {α : Type} {v : View} {op : Op}

@[simp] theorem wp_side (op : Op) (result : Reply op → Except Error α)
    (post : Except Error α → View → Prop) :
    wp (side name node) (Careful name node) (Fallible.request op result) post v ↔
      Careful name node v op ∧
        ∀ r, ScansOwnNode name node op r → post (result r) (v.next name node op r) :=
  wp_request_ofReplies op result post v

@[simp] theorem wp_side_withLock (lock : Lock) (p : Act α)
    (post : Except Error α → View → Prop) :
    wp (side name node) (Careful name node) (withLock lock p) post v ↔
      Careful name node v (.lock lock) ∧ wp (side name node) (Careful name node) p (fun r v' =>
        Careful name node v' (.unlock lock) ∧ post r (v'.next name node (.unlock lock) ()))
          (v.next name node (.lock lock) ()) := by
  simp only [withLock, wp_bind, wp_side, andThen_ok, wp_attempt]
  refine and_congr_right fun _ => ?_
  have hlocked : ∀ (l : Lock) (P : Unit → Prop),
      (∀ r : Reply (.lock l), ScansOwnNode name node (.lock l) r → P r) ↔ P () :=
    fun l P => ⟨fun h => h () trivial, fun h _ _ => h⟩
  rw [hlocked]
  refine iff_of_eq (congrArg (fun q => wp (side name node) (Careful name node) p q _)
    (funext₂ fun r v' => propext ?_))
  cases r <;> simp only [andThen_ok, wp_bind, wp_side, ScansOwnNode, wp_pure,
    wp_throw, true_imp_iff] <;> exact and_congr_right fun _ => ⟨fun h => h (), fun h _ => h⟩

theorem Op.Idle.careful (h : op.Idle name node) (v : View) : Careful name node v op :=
  ⟨fun hop => absurd hop h.1, fun vm hop => absurd hop (h.2 vm)⟩

/-- A part of which nothing is promised keeps what its calls keep of the view. -/
theorem wp_of_idle {S : Op → Prop} {I : View → Prop} {p : Act α} (hp : Calls S p)
    (hidle : ∀ op, S op → op.Idle name node)
    (hS : ∀ op, S op → ∀ v r, I v → I (v.next name node op r)) (hv : I v) :
    wp (side name node) (Careful name node) p (fun _ => I) v :=
  wp_of_calls_ofReplies hp
    (fun op hop v hv => ⟨(hidle op hop).careful v, fun r _ => hS op hop v r hv⟩) hv

/-- Neither the operation lock nor what is known of the device depends on the operation. -/
def Op.Background : Op → Prop
  | .lock l | .unlock l => l ≠ .operation
  | .enter _ | .authorization _ | .authorize _ _ => False
  | .update (.usbVmsInsert _ _) | .update (.usbVmsRemove _) => False
  | _ => True

theorem Op.Background.idle (h : op.Background) : op.Idle name node := by
  constructor
  · rintro rfl
    exact h
  · rintro vm rfl
    exact h

structure View.Like (v v' : View) : Prop where
  operation : v'.operation = v.operation
  progress : v'.progress = v.progress
  cleared : v'.cleared = v.cleared

theorem View.Like.next {v' : View} (h : v.Like v') (hop : op.Background) (r : Reply op) :
    v.Like (v'.next name node op r) := by
  cases op with
  | lock l => cases l <;> first | exact ⟨h.1, h.2, h.3⟩ | exact absurd rfl hop
  | unlock l => cases l <;> first | exact ⟨h.1, h.2, h.3⟩ | exact absurd rfl hop
  | update u => cases u <;> first | exact ⟨h.1, h.2, h.3⟩ | exact hop.elim
  | enter entry => exact hop.elim
  | authorization other => exact hop.elim
  | authorize other value => exact hop.elim
  | _ => exact ⟨h.1, h.2, h.3⟩

theorem wp_of_background {p : Act α} (hp : Calls Op.Background p) (v : View) :
    wp (side name node) (Careful name node) p (fun _ => v.Like) v :=
  wp_of_idle hp (fun _ hop => hop.idle) (fun _ hop _ r h => h.next hop r) ⟨rfl, rfl, rfl⟩

end Side

/-! ## The background of an attach -/

section Background

variable {d : Daemon} {device : UsbDevice}

theorem background_detachFromVm (node vmName : String) (binding : Option UsbPortBinding) :
    Calls Op.Background (detachFromVm d device node vmName binding) :=
  calls_detachFromVm (fun _ => trivial) (fun _ => trivial) (fun _ _ => trivial) trivial

theorem background_claimUsb (vm : Vm) (node : String) (seen : Option (String × List LivePort)) :
    Calls Op.Background (claimUsb device vm node seen) := by
  refine calls_bind (calls_configureUsb trivial trivial trivial) fun _ => ?_
  refine calls_bind (calls_withContext _ (calls_request trivial)) fun names => ?_
  have hrelease : Calls Op.Background (releaseHostDrivers device names) :=
    calls_releaseHostDrivers (fun _ => trivial) (fun _ => trivial) trivial names
  refine calls_bind hrelease fun hub => ?_
  apply calls_ite
  · trivial
  · exact calls_bind (calls_claimPort trivial trivial trivial trivial) fun _ => trivial

end Background

/-! ## What an attach promises under the operation lock -/

section Attach

variable {d : Daemon} {device : UsbDevice} {name node : String} {v : View}

theorem Progress.next_authorized (p : Progress) (done : Unit) :
    p.next name node (.authorize name true) (.ok done) = .guarded ∨
      p.next name node (.authorize name true) (.ok done) = .recorded := by
  cases p <;> simp [Progress.next, Except.toBool]

theorem careful_deauthorize {other : String} (ho : v.operation = true)
    (hcleared : other = name → v.cleared = true) :
    Careful name node v (.authorize other false) := by
  constructor
  · intro hop
    have hother : other = name := by injection hop
    exact .inl ⟨ho, hcleared hother⟩
  · exact nofun

theorem wp_rollback_side {armed : Bool} (ho : v.operation = true)
    (hcleared : armed = true → device.sysName = name → v.cleared = true) :
    wp (side name node) (Careful name node) (rollback device armed)
      (fun _ v' => v'.operation = true) v := by
  cases armed with
  | false => exact ho
  | true =>
      rw [rollback, if_pos rfl, wp_warnOnError, authorize, wp_side]
      exact ⟨careful_deauthorize ho (hcleared rfl), fun r _ => ho⟩

theorem wp_forgetBinding_side {other : String} {permanent : Bool} (ho : v.operation = true) :
    wp (side name node) (Careful name node) (forgetBinding d device other permanent)
      (fun _ v' => v'.operation = true ∧ (other = node → v'.cleared = true)) v := by
  rw [forgetBinding, wp_side_withLock]
  refine ⟨⟨by simp, by simp⟩, ?_⟩
  rw [wp_bind, update, wp_side]
  refine ⟨⟨by simp, by simp⟩, fun r _ => ?_⟩
  rw [andThen_ok]
  have hrest : Calls Op.Background (do
      update (.crosvmUsbPortsRemove device.sysName)
      Fallible.attempt (do
        setDisconnected d device.persistentId permanent
        saveState d)) := by
    refine calls_bind (calls_request trivial) fun _ => calls_attempt ?_
    exact calls_bind (calls_setDisconnected trivial trivial) fun _ => calls_saveState trivial
  refine wp_imp (wp_of_background hrest _) fun r v' hlike => ⟨⟨by simp, by simp⟩, ?_⟩
  constructor
  · exact hlike.operation.trans ho
  · rintro rfl
    have hcleared : (v.cleared || decide (other = other)) = true := by simp
    exact hlike.cleared.trans hcleared

/-- With authorization on, a detach ends in a reading of the authorization. -/
theorem wp_deauthorizeDetached_side (henabled : d.config.usbAuthorization.enabled = true)
    (hhub : device.sysName = name → device.isHub = false) (ho : v.operation = true)
    (hcleared : device.sysName = name → v.cleared = true) :
    wp (side name node) (Careful name node) (deauthorizeDetached d device)
      (fun _ v' => v'.operation = true ∧
        (device.sysName = name → v'.progress ≠ .leaving)) v := by
  rw [deauthorizeDetached]
  split
  case isFalse hcondition =>
    refine ⟨ho, fun hname => ?_⟩
    rw [henabled, hhub hname] at hcondition
    exact absurd rfl hcondition
  case isTrue =>
    rw [wp_bind, authorization, wp_side]
    refine ⟨⟨nofun, nofun⟩, fun value _ => ?_⟩
    have hread : device.sysName = name →
        (v.next name node (.authorization device.sysName) value).progress ≠ .leaving := by
      rintro rfl
      simp only [View.next, Progress.next, ne_eq, not_true_eq_false, false_or]
      split
      case isTrue hrecorded => simp [hrecorded]
      case isFalse =>
        split
        · simp
        · split
          · simp
          · assumption
    rw [andThen_ok]
    split
    · rw [wp_warnOnError, authorize, wp_side]
      have hstill : device.sysName = name →
          (v.next name node (.authorization device.sysName) value).cleared = true := by
        intro hname
        simp [View.next, hcleared hname]
      refine ⟨careful_deauthorize ho hstill, fun r _ => ⟨ho, ?_⟩⟩
      rintro rfl
      simp [View.next, Progress.next]
    · exact ⟨ho, hread⟩

theorem wp_detachOneUsb_side (henabled : d.config.usbAuthorization.enabled = true)
    (hown : device.sysName = name ↔ device.deviceNode = some node)
    (hhub : device.sysName = name → device.isHub = false) (ho : v.operation = true) :
    wp (side name node) (Careful name node) (detachOneUsb d device false)
      (fun r v' => v'.operation = true ∧
        (r = .ok () → device.sysName = name → v'.progress ≠ .leaving)) v := by
  have hforget : ∀ other v', v'.operation = true → device.deviceNode = some other →
      wp (side name node) (Careful name node) (forgetUsb d device other false)
        (fun r v' => v'.operation = true ∧
          (r = .ok () → device.sysName = name → v'.progress ≠ .leaving)) v' := by
    intro other v' ho' hother
    rw [forgetUsb, wp_bind]
    refine wp_imp (wp_forgetBinding_side ho') ?_
    rintro r v₁ ⟨ho₁, hcleared⟩
    have hcleared : device.sysName = name → v₁.cleared = true := by
      intro hname
      rw [hown.1 hname] at hother
      exact hcleared (Option.some.inj hother).symm
    cases r with
    | error e => exact ⟨ho₁, fun h => by cases h⟩
    | ok persistence =>
        rw [andThen_ok, wp_bind, update, wp_side]
        refine ⟨⟨by simp, by simp⟩, fun r _ => ?_⟩
        rw [andThen_ok, wp_bind]
        refine wp_imp (wp_deauthorizeDetached_side henabled hhub ho₁ hcleared) ?_
        rintro r v₂ ⟨ho₂, hend⟩
        cases r with
        | error e => exact ⟨ho₂, fun h => by cases h⟩
        | ok _ =>
            cases persistence with
            | ok _ => exact ⟨ho₂, fun _ => hend⟩
            | error e => exact ⟨ho₂, fun h => by cases h⟩
  rw [detachOneUsb, wp_bind, enter, wp_side]
  refine ⟨⟨by simp, by simp⟩, fun r _ => ?_⟩
  rw [andThen_ok, wp_bind, wp_require]
  cases hnode : device.deviceNode with
  | none => exact ⟨ho, fun h => by cases h⟩
  | some other =>
      rw [Option.elim_some, andThen_ok, wp_bind, readMemory, wp_side]
      refine ⟨⟨by simp, by simp⟩, fun m _ => ?_⟩
      rw [andThen_ok]
      dsimp only
      split
      · rw [wp_bind]
        refine wp_imp (wp_of_background (background_detachFromVm _ _ _) _) fun r v' hlike => ?_
        have ho' : v'.operation = true := hlike.operation.trans ho
        cases r with
        | error e => exact ⟨ho', fun h => by cases h⟩
        | ok _ => exact hforget other v' ho' hnode
      · exact hforget other _ ho hnode

/-- What the guard leaves: the device is authorized, and armed only where it was not before. -/
structure View.PastGuard (v : View) (device : UsbDevice) (name : String) (armed : Bool) : Prop where
  operation : v.operation = true
  progress : device.sysName = name → v.progress = .guarded ∨ v.progress = .recorded
  cleared : armed = true → device.sysName = name → v.cleared = true

theorem View.PastGuard.like {v' : View} {armed : Bool} (h : v.PastGuard device name armed)
    (hlike : v.Like v') : v'.PastGuard device name armed := by
  refine ⟨hlike.operation.trans h.operation, fun hname => ?_, fun ha hname => ?_⟩
  · rw [hlike.progress]
    exact h.progress hname
  · rw [hlike.cleared]
    exact h.cleared ha hname

theorem wp_usbAuthorizationGuard_side (henabled : d.config.usbAuthorization.enabled = true)
    (hhub : device.sysName = name → device.isHub = false) (ho : v.operation = true)
    (hprogress : device.sysName = name → v.progress ≠ .leaving) :
    wp (side name node) (Careful name node) (usbAuthorizationGuard d device)
      (fun r v' => v'.operation = true ∧
        ∀ armed, r = .ok armed → v'.PastGuard device name armed) v := by
  rw [usbAuthorizationGuard]
  split
  case isFalse hcondition =>
    have hother : device.sysName ≠ name := by
      intro hname
      rw [henabled, hhub hname] at hcondition
      exact hcondition rfl
    exact ⟨ho, fun armed _ => ⟨ho, fun hname => absurd hname hother,
      fun _ hname => absurd hname hother⟩⟩
  case isTrue =>
    rw [wp_bind, authorization, wp_side]
    refine ⟨⟨nofun, nofun⟩, fun value _ => ?_⟩
    rw [andThen_ok]
    split
    case isTrue hvalue =>
      have hcleared : device.sysName = name →
          (v.next name node (.authorization device.sysName) value).cleared = true := by
        rintro rfl
        simp [View.next, hvalue]
      rw [wp_bind, wp_attempt, wp_withContext, authorize, wp_side]
      refine ⟨⟨nofun, nofun⟩, fun result _ => ?_⟩
      cases result with
      | ok _ =>
          refine ⟨ho, ?_⟩
          rintro armed -
          refine ⟨ho, ?_, fun _ hname => hcleared hname⟩
          rintro rfl
          exact @Progress.next_authorized device.sysName node _ _
      | error e =>
          rw [andThen_ok]
          change wp _ _ (rollback device true >>= fun _ => throw _) _ _
          rw [wp_bind]
          refine wp_imp (wp_rollback_side ho fun _ => hcleared) fun r v' ho' => ?_
          cases r <;> exact ⟨ho', fun armed h => by cases h⟩
    case isFalse hvalue =>
      refine ⟨ho, ?_⟩
      rintro armed harmed
      obtain rfl : false = armed := Except.ok.inj harmed
      refine ⟨ho, ?_, nofun⟩
      rintro rfl
      simp only [bne_iff_ne, ne_eq, not_not] at hvalue
      have hstart := hprogress rfl
      by_cases hrecorded : v.progress = .recorded
      · exact .inr (by simp [View.next, Progress.next, hrecorded])
      · exact .inl (by simp [View.next, Progress.next, hrecorded, hstart, hvalue])

/-- The record is made under both locks, after the guard. -/
theorem wp_finishAttach_side {vm : Vm} {other : String} {current : Option String}
    {claim : PortClaim} {armed : Bool}
    (hown : device.sysName = name ↔ device.deviceNode = some node)
    (hother : device.deviceNode = some other) (h : v.PastGuard device name armed) :
    wp (side name node) (Careful name node) (finishAttach d device vm other current claim)
      (fun _ v' => v'.operation = true) v := by
  have hrecord : ∀ v' : View, v'.PastGuard device name armed →
      wp (side name node) (Careful name node) (do
        recordAttachment d device vm.name other claim
        update (.pendingRemove device.persistentId)
        if current ≠ some vm.name ∨ claim.attached then
          notify (.usbAttached device vm.name)) (fun _ v' => v'.operation = true) v' := by
    intro v' h'
    rw [wp_bind, recordAttachment, wp_side_withLock]
    refine ⟨⟨nofun, nofun⟩, ?_⟩
    rw [wp_bind, update, wp_side]
    constructor
    · refine ⟨nofun, fun vmName hop => ⟨h'.operation, rfl, h'.progress ?_⟩⟩
      injection hop with hupdate
      injection hupdate with hnode
      rw [hown, hother, hnode]
    · intro r _
      rw [andThen_ok]
      have hrest : Calls Op.Background (do
          selectVm d device.persistentId vm.name
          setDisconnected d device.persistentId false
          update (.crosvmUsbPortsInsert device vm.name claim.port claim.generation)
          saveState d) := by
        refine calls_bind (calls_selectVm trivial trivial) fun _ => ?_
        refine calls_bind (calls_setDisconnected trivial trivial) fun _ => ?_
        exact calls_bind (calls_request trivial) fun _ => calls_saveState trivial
      refine wp_imp (wp_of_background hrest _) fun r v₁ hlike => ⟨⟨nofun, nofun⟩, ?_⟩
      have ho₁ : v₁.operation = true := hlike.operation.trans h'.operation
      cases r with
      | error e => exact ho₁
      | ok _ =>
          have htail : Calls Op.Background (do
              update (.pendingRemove device.persistentId)
              if current ≠ some vm.name ∨ claim.attached then
                notify (.usbAttached device vm.name)) := by
            refine calls_bind (calls_request trivial) fun _ => ?_
            exact calls_ite (calls_request trivial) trivial
          exact wp_imp (wp_of_background htail _) fun r v₂ hlike => hlike.operation.trans ho₁
  rw [finishAttach]
  split
  · rw [wp_bind, usbDetach, wp_side]
    refine ⟨⟨nofun, nofun⟩, fun r _ => ?_⟩
    cases r with
    | error e => exact h.operation
    | ok _ => exact hrecord _ ⟨h.operation, h.progress, h.cleared⟩
  · exact hrecord v h

theorem wp_attachAuthorized_side {vm : Vm} {other : String} {current : Option String}
    {seen : Option (String × List LivePort)}
    (henabled : d.config.usbAuthorization.enabled = true)
    (hown : device.sysName = name ↔ device.deviceNode = some node)
    (hhub : device.sysName = name → device.isHub = false)
    (hother : device.deviceNode = some other) (ho : v.operation = true)
    (hprogress : device.sysName = name → v.progress ≠ .leaving) :
    wp (side name node) (Careful name node) (attachAuthorized d device vm other current seen)
      (fun _ v' => v'.operation = true) v := by
  rw [attachAuthorized, wp_bind]
  refine wp_imp (wp_usbAuthorizationGuard_side henabled hhub ho hprogress) ?_
  rintro r v₁ ⟨ho₁, hguard⟩
  cases r with
  | error e => exact ho₁
  | ok armed =>
      rw [andThen_ok, wp_bind, wp_attempt]
      refine wp_imp (wp_of_background (background_claimUsb vm other seen) v₁) ?_
      intro r v₂ hlike
      have hpast := (hguard armed rfl).like hlike
      match r with
      | .error e =>
          rw [andThen_ok, wp_bind]
          refine wp_imp (wp_rollback_side hpast.operation hpast.cleared) fun r v₃ ho₃ => ?_
          cases r <;> exact ho₃
      | .ok none => exact wp_rollback_side hpast.operation hpast.cleared
      | .ok (some claim) => exact wp_finishAttach_side hown hother hpast

/-- An attach call keeps its promises under the operation lock, whichever device it is for. -/
theorem wp_attachOneUsb_side {rule : RuleMatch} {requestedVm : Option String}
    (henabled : d.config.usbAuthorization.enabled = true)
    (hown : device.sysName = name ↔ device.deviceNode = some node)
    (hhub : device.sysName = name → device.isHub = false) (ho : v.operation = true) :
    wp (side name node) (Careful name node) (attachOneUsb d device rule requestedVm)
      (fun _ v' => v'.operation = true) v := by
  rw [attachOneUsb, wp_bind, enter, wp_side]
  refine ⟨⟨by simp, by simp⟩, fun r _ => ?_⟩
  rw [andThen_ok, wp_bind, readMemory, wp_side]
  refine ⟨⟨by simp, by simp⟩, fun m _ => ?_⟩
  rw [andThen_ok]
  generalize hview : ((v.next name node (.enter (.attachOneUsb device rule requestedVm)) r).next
    name node (.read .state) m) = v₀
  have ho₀ : v₀.operation = true := by
    rw [← hview]
    exact ho
  have hprogress₀ : v₀.progress ≠ .leaving := by
    rw [← hview]
    simp only [View.next, Progress.next]
    split <;> simp
  split
  · have hpending : Calls Op.Background (do
        if ← insertPending device.persistentId then
          notify (.usbSelectVm device rule.allowedVms)) := by
      refine calls_bind (calls_withLock (fun h => by cases h) (fun h => by cases h) ?_)
        fun new => ?_
      · refine calls_bind (calls_request trivial) fun m => ?_
        exact calls_bind (calls_request trivial) fun _ => trivial
      · exact calls_ite (calls_request trivial) trivial
    exact wp_imp (wp_of_background hpending _) fun r v' hlike => hlike.operation.trans ho₀
  · rename_i vmName _
    -- up to the hand-over nothing is known to change
    have htail : ∀ (v' : View) (vm : Vm) (seen : Option (String × List LivePort)),
        v₀.Like v' → wp (side name node) (Careful name node) (do
          let node ← require "USB device has no device node" device.deviceNode
          let current := (← readMemory .state).usbVms.lookup node
          handOver d device current vmName
          attachAuthorized d device vm node current seen) (fun _ v' => v'.operation = true) v' := by
      intro v' vm seen hlike
      have ho' : v'.operation = true := hlike.operation.trans ho₀
      have hprogress : v'.progress ≠ .leaving := by
        rw [hlike.progress]
        exact hprogress₀
      rw [wp_bind, wp_require]
      cases hother : device.deviceNode with
      | none => exact ho'
      | some other =>
          rw [Option.elim_some, andThen_ok, wp_bind, readMemory, wp_side]
          refine ⟨⟨by simp, by simp⟩, fun m _ => ?_⟩
          rw [andThen_ok]
          dsimp only
          rw [wp_bind]
          apply wp_handOver
          · intro _
            exact wp_attachAuthorized_side henabled hown hhub hother ho' fun _ => hprogress
          · intro _ _ _
            refine wp_imp (wp_detachOneUsb_side henabled hown hhub ho') ?_
            rintro r v₁ ⟨ho₁, hend⟩
            cases r with
            | error e => exact ho₁
            | ok _ => exact wp_attachAuthorized_side henabled hown hhub hother ho₁ (hend rfl)
    have hseen : ∀ (v' : View) (vm : Vm), v₀.Like v' →
        wp (side name node) (Careful name node) (do
          let seen ← preflight d device vm
          let node ← require "USB device has no device node" device.deviceNode
          let current := (← readMemory .state).usbVms.lookup node
          handOver d device current vmName
          attachAuthorized d device vm node current seen) (fun _ v' => v'.operation = true) v' := by
      intro v' vm hlike
      rw [wp_bind]
      refine wp_imp (wp_of_background (calls_preflight trivial trivial) v') fun r v₁ hlike₁ => ?_
      have hlike' : v₀.Like v₁ := ⟨hlike₁.operation.trans hlike.operation,
        hlike₁.progress.trans hlike.progress, hlike₁.cleared.trans hlike.cleared⟩
      cases r with
      | error e => exact hlike'.operation.trans ho₀
      | ok seen => exact htail v₁ vm seen hlike'
    rw [attachUsbTo]
    split
    · exact ho₀
    · rw [wp_bind, Daemon.vmNamed, wp_require]
      cases d.vm vmName with
      | none => exact ho₀
      | some vm =>
          rw [Option.elim_some, andThen_ok]
          dsimp only
          rw [wp_bind, socketGeneration, wp_side]
          refine ⟨⟨by simp, by simp⟩, fun generation _ => ?_⟩
          rw [andThen_ok]
          split
          · exact ho₀
          · exact hseen _ vm ⟨rfl, rfl, rfl⟩

end Attach

/-! ## What the two programs promise -/

section Programs

variable {d : Daemon} {name node : String}

def ShownAs (name node : String) (device : UsbDevice) : Prop :=
  (device.sysName = name ↔ device.deviceNode = some node) ∧
    (device.sysName = name → device.isHub = false)

theorem wp_usbDevices_side (v : View) : wp (side name node) (Careful name node) (usbDevices d)
    (fun r v' => v'.operation = v.operation ∧
      ∀ devices, r = .ok devices → ∀ x ∈ devices, ShownAs name node x.1) v := by
  rw [usbDevices, wp_bind, scanUsbRoot, wp_side]
  refine ⟨⟨by simp, by simp⟩, fun r hr => ?_⟩
  cases r with
  | error e => exact ⟨rfl, fun devices h => by cases h⟩
  | ok scanned =>
      refine ⟨rfl, ?_⟩
      rintro devices hdevices x hx
      obtain rfl := Except.ok.inj hdevices
      obtain ⟨device, hdevice, hrule⟩ := List.mem_filterMap.1 hx
      obtain ⟨rule, -, rfl⟩ := Option.map_eq_some_iff.1 hrule
      exact hr device hdevice

theorem wp_attachUsb_side (henabled : d.config.usbAuthorization.enabled = true)
    (selector : Selector) (vm : Option String) (v : View) :
    wp (side name node) (Careful name node) (attachUsb d selector vm) (fun _ _ => True) v := by
  have hround : ∀ (failures : List String) (x : UsbDevice × RuleMatch) (v : View),
      ShownAs name node x.1 → v.operation = true → wp (side name node) (Careful name node)
        (collect x.1.sysName (attachOneUsb d x.1 x.2 vm) failures)
        (fun _ v' => v'.operation = true) v := by
    intro failures x v hx ho
    rw [collect, wp_bind, wp_attempt]
    refine wp_imp (wp_attachOneUsb_side henabled hx.1 hx.2 ho) fun r v' ho' => ?_
    cases r <;> exact ho'
  have hunlocked : ∀ v' : View, Careful name node v' (.unlock .operation) ∧ True := fun v' =>
    ⟨⟨by simp, by simp⟩, trivial⟩
  rw [attachUsb, wp_side_withLock]
  refine ⟨⟨by simp, by simp⟩, ?_⟩
  rw [wp_bind, selectedUsb, wp_bind]
  refine wp_imp (wp_usbDevices_side _) ?_
  rintro r v' ⟨hlocked, hshown⟩
  cases r with
  | error e => exact hunlocked v'
  | ok devices =>
      rw [andThen_ok]
      dsimp only
      split
      · exact hunlocked v'
      · rw [wp_pure, andThen_ok, wp_bind]
        have hfold : wp (side name node) (Careful name node)
            ((devices.filter fun x => selectsUsb selector x.1 x.2).foldlM
              (fun failures x => collect x.1.sysName (attachOneUsb d x.1 x.2 vm) failures) [])
            (fun _ v => v.operation = true) v' :=
          wp_foldlM (fun failures x hx v ho => hround failures x v
            (hshown devices rfl x (List.mem_of_mem_filter hx)) ho) [] hlocked
        refine wp_imp hfold fun r v₁ _ => ?_
        cases r with
        | error e => exact hunlocked v₁
        | ok failures =>
            refine wp_imp (wp_of_background (calls_aggregate failures) v₁) ?_
            exact fun _ v₂ _ => hunlocked v₂

theorem wp_resumeUsb_side (henabled : d.config.usbAuthorization.enabled = true) (v : View) :
    wp (side name node) (Careful name node) (resumeUsb d none) (fun _ _ => True) v := by
  have hround : ∀ (failures : List String) (x : UsbDevice × RuleMatch) (v : View),
      ShownAs name node x.1 → v.operation = true → wp (side name node) (Careful name node)
        (resumeUsbDevice d none failures x.1 x.2) (fun _ v' => v'.operation = true) v := by
    intro failures x v hx ho
    have hattach : ∀ (v : View) (target : Option String), v.operation = true →
        wp (side name node) (Careful name node) (if inScope none target then
          collectDeferring d x.1.sysName target (attachOneUsb d x.1 x.2 target) failures
          else pure failures) (fun _ v' => v'.operation = true) v := by
      intro v target ho
      have hscope : inScope none target = true := rfl
      rw [if_pos hscope, collectDeferring, wp_bind, wp_attempt]
      refine wp_imp (wp_attachOneUsb_side henabled hx.1 hx.2 ho) fun r v₁ ho₁ => ?_
      have hstopped : ∀ e : Error, Calls Op.Background (do
          if ← vmStopped d target then
            update (.deferred true)
            return failures
          else return failures ++ [x.1.sysName ++ ": " ++ Error.text e]) := by
        intro e
        refine calls_bind ?_ fun stopped => calls_ite ?_ trivial
        · unfold vmStopped
          split
          · trivial
          · exact calls_bind (calls_request trivial) fun _ => trivial
        · exact calls_bind (calls_request trivial) fun _ => trivial
      cases r with
      | ok _ => exact ho₁
      | error e =>
          exact wp_imp (wp_of_background (hstopped e) v₁) fun _ v₂ hlike =>
            hlike.operation.trans ho₁
    rw [resumeUsbDevice, wp_bind, readMemory, wp_side]
    refine ⟨⟨by simp, by simp⟩, fun m _ => ?_⟩
    rw [andThen_ok]
    split
    · exact ho
    · cases x.2.targetVm with
      | some target => exact hattach _ (some target) ho
      | none =>
          rw [wp_bind, wp_side]
          exact ⟨⟨by simp, by simp⟩, fun m _ => hattach _ _ ho⟩
  have hunlocked : ∀ v' : View, Careful name node v' (.unlock .operation) ∧ True := fun v' =>
    ⟨⟨by simp, by simp⟩, trivial⟩
  rw [resumeUsb, wp_side_withLock]
  refine ⟨⟨by simp, by simp⟩, ?_⟩
  rw [wp_bind]
  refine wp_imp (wp_usbDevices_side _) ?_
  rintro r v' ⟨hlocked, hshown⟩
  cases r with
  | error e => exact hunlocked v'
  | ok devices =>
      rw [andThen_ok, wp_bind, enter, wp_side]
      refine ⟨⟨by simp, by simp⟩, fun r _ => ?_⟩
      rw [andThen_ok, wp_bind]
      have hfold : wp (side name node) (Careful name node)
          (devices.foldlM (fun failures x => resumeUsbDevice d none failures x.1 x.2) [])
          (fun _ v => v.operation = true) (v'.next name node (.enter (.resumeUsb devices)) r) :=
        wp_foldlM (fun failures x hx v ho => hround failures x v (hshown devices rfl x hx) ho) []
          hlocked
      refine wp_imp hfold fun r v₁ _ => ?_
      cases r with
      | error e => exact hunlocked v₁
      | ok failures =>
          refine wp_imp (wp_of_background (calls_aggregate failures) v₁) ?_
          exact fun _ v₂ _ => hunlocked v₂

/-- The sweep decides on the records it reads under the state lock. -/
theorem wp_deauthorizeUnmatchedUsb_side (v : View) :
    wp (side name node) (Careful name node) (deauthorizeUnmatchedUsb d) (fun _ _ => True) v := by
  rw [deauthorizeUnmatchedUsb]
  split
  case isFalse => trivial
  case isTrue =>
    rw [wp_bind, scanUsbRoot, wp_side]
    refine ⟨⟨nofun, nofun⟩, fun scanned hscanned => ?_⟩
    cases scanned with
    | error e => trivial
    | ok devices =>
        rw [id, andThen_ok, wp_bind, enter, wp_side]
        refine ⟨⟨nofun, nofun⟩, fun r _ => ?_⟩
        rw [andThen_ok, wp_side_withLock]
        refine ⟨⟨nofun, nofun⟩, ?_⟩
        rw [wp_bind, readMemory, wp_side]
        refine ⟨⟨nofun, nofun⟩, fun m _ => ?_⟩
        rw [andThen_ok]
        refine wp_imp (wp_forM (I := fun v : View => v.state = true ∧
          v.snapshot = some (m.usbVms.lookup node).isSome) ?_ ⟨rfl, rfl⟩)
          fun _ v' _ => ⟨⟨nofun, nofun⟩, trivial⟩
        intro device hdevice v' hv'
        dsimp only
        split
        case isFalse => exact hv'
        case isTrue hunspared =>
          rw [wp_bind, authorization, wp_side]
          refine ⟨⟨nofun, nofun⟩, fun value _ => ?_⟩
          rw [andThen_ok]
          split
          case isFalse => exact hv'
          case isTrue =>
            rw [wp_withContext, authorize, wp_side]
            refine ⟨⟨fun hop => .inr ⟨hv'.1, hv'.2.trans ?_⟩, nofun⟩, fun _ _ => hv'⟩
            have hname : device.sysName = name := by injection hop
            have hnode := (hscanned device hdevice).1.1 hname
            simp only [Bool.not_eq_true', Bool.or_eq_false_iff] at hunspared
            have hunrecorded := hunspared.1.2
            rw [hnode, Option.any_some] at hunrecorded
            rw [hunrecorded]

/-- Nothing else of a pass bears on the device. -/
theorem keeps_of_idle {α : Type} {p : Act α} {S : Op → Prop} (hp : Calls S p)
    (hidle : ∀ op, S op → op.Idle name node) :
    Keeps (side name node) (Careful name node) (fun _ => True) p := fun _ _ =>
  wp_of_idle hp hidle (fun _ _ _ _ _ => trivial) trivial

theorem wp_reconcile_side (henabled : d.config.usbAuthorization.enabled = true) (v : View) :
    wp (side name node) (Careful name node) (reconcile d) (fun _ _ => True) v := by
  have hgate : Keeps (side name node) (Careful name node) (fun _ => True) (applyUsbGate d) := by
    refine keeps_of_idle (calls_applyUsbGate d) fun op hop => ⟨?_, ?_⟩
    · rintro rfl
      cases hop
    · rintro vm rfl
      exact hop
  have hobserve : Keeps (side name node) (Careful name node) (fun _ => True) (observe d) := by
    refine keeps_of_idle (calls_observe d) fun op hop => ⟨?_, ?_⟩
    · rintro rfl
      exact hop
    · rintro vm rfl
      exact hop
  have hpci : Keeps (side name node) (Careful name node) (fun _ => True) (resumePci d none) := by
    refine keeps_of_idle (calls_resumePci (fun op hop _ => ?_) (fun device op hop => ?_) none)
      fun op hop => hop
    · constructor
      · rintro rfl
        exact hop
      · rintro vm rfl
        exact hop
    · constructor
      · rintro rfl
        exact hop
      · rintro vm rfl
        exact hop
  have hstart : Keeps (side name node) (Careful name node) (fun _ => True)
      (update (.deferred false)) := by
    refine keeps_of_idle (calls_request (S := (Op.Idle name node)) ⟨nofun, nofun⟩) fun _ hop => hop
  have hreport : ∀ failures, Keeps (side name node) (Careful name node) (fun _ => True)
      (aggregate failures) := fun failures =>
    keeps_of_idle (calls_aggregate failures) fun _ hop => hop
  refine keeps_bind hstart (fun _ => ?_) v trivial
  refine keeps_bind (keeps_warnOnError hgate) fun _ => ?_
  refine keeps_bind hobserve fun _ => ?_
  refine keeps_bind (keeps_collect hpci) fun failures => ?_
  refine keeps_bind (keeps_collect fun v _ => wp_resumeUsb_side henabled v) fun failures => ?_
  refine keeps_bind (keeps_collect fun v _ => wp_deauthorizeUnmatchedUsb_side v) fun failures => ?_
  exact hreport failures

end Programs

end GhafDeviceManager
