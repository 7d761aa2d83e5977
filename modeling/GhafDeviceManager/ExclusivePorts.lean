import GhafDeviceManager.Leftovers
import GhafDeviceManager.PortReuse
import GhafDeviceManager.Requests

/-!
# One port, one binding

Two devices must not be on record at one port of a VM instance. An attach writes its record without
a look at the others, so all depends on what Crosvm hands out: a port it listed for nobody may
still be on record for a device whose port it dropped.
-/

namespace GhafDeviceManager

open Fallible

/-! ## Whence a record comes -/

def Op.Books : Op → Prop
  | .update (.crosvmUsbPortsInsert _ _ _ _) => True
  | _ => False

def Unbooked (since : Transcript Op Reply) : Prop := ∀ e ∈ since, ¬e.1.Books

/-- The request was told this after `before`, and put no port on record since. -/
def LastTold (t : Transcript Op Reply) (e : (op : Op) × Reply op) (before : Transcript Op Reply) :
    Prop :=
  ∃ since, t = since ++ e :: before ∧ Unbooked since

def HandedIn (t : Transcript Op Reply) (vm : Vm) (node : String) (port : UInt8)
    (before : Transcript Op Reply) : Prop :=
  LastTold t ⟨.usbAttach vm node, .ok port⟩ before

def ReadIn (t : Transcript Op Reply) (m : Memory) : Prop :=
  ∃ lock before, LastTold t ⟨.read lock, m⟩ before

/-- A record is of the port just handed out, or the one already on record for the device. -/
def BooksOwn (t : Transcript Op Reply) : Op → Prop
  | .update (.crosvmUsbPortsInsert device vmName port generation) =>
    (∃ vm node before, vm.name = vmName ∧ HandedIn t vm node port before) ∨
    ∃ m binding, ReadIn t m ∧
      m.persistent.crosvmUsbPorts.lookup device.sysName = some binding ∧ binding.vm = vmName ∧
        binding.socketGeneration = generation ∧ binding.port = port
  | _ => True

section Told

variable {t : Transcript Op Reply} {op op' : Op} {device : UsbDevice} {d : Daemon}

theorem unbooked_nil : Unbooked [] := fun _ h => absurd h List.not_mem_nil

theorem unbooked_cons {since : Transcript Op Reply} (hop : ¬op.Books) (r : Reply op)
    (h : Unbooked since) : Unbooked (⟨op, r⟩ :: since) := by
  intro e he
  rcases List.mem_cons.1 he with rfl | he
  · exact hop
  · exact h e he

theorem LastTold.cons {e : (op : Op) × Reply op} {before : Transcript Op Reply}
    (h : LastTold t e before) (hop : ¬op.Books) (r : Reply op) :
    LastTold (⟨op, r⟩ :: t) e before := by
  obtain ⟨since, rfl, hsince⟩ := h
  exact ⟨⟨op, r⟩ :: since, rfl, unbooked_cons hop r hsince⟩

theorem lastTold_head (e : (op : Op) × Reply op) : LastTold (e :: t) e t := ⟨[], rfl, unbooked_nil⟩

theorem LastTold.of_cons {e latest : (op : Op) × Reply op} {before : Transcript Op Reply}
    (h : LastTold (latest :: t) e before) :
    latest = e ∧ before = t ∨ ¬latest.1.Books ∧ LastTold t e before := by
  obtain ⟨since, heq, hsince⟩ := h
  cases since with
  | nil =>
      obtain ⟨rfl, rfl⟩ := List.cons.inj heq
      exact .inl ⟨rfl, rfl⟩
  | cons first since =>
      obtain ⟨rfl, rfl⟩ := List.cons.inj heq
      obtain ⟨hlatest, hrest⟩ := List.forall_mem_cons.1 hsince
      exact .inr ⟨hlatest, since, rfl, hrest⟩

theorem not_lastTold_nil {e : (op : Op) × Reply op} {before : Transcript Op Reply} :
    ¬LastTold [] e before := by
  rintro ⟨since, hnil, -⟩
  cases since <;> cases hnil

theorem ReadIn.cons {m : Memory} (h : ReadIn t m) (hop : ¬op.Books) (r : Reply op) :
    ReadIn (⟨op, r⟩ :: t) m := by
  obtain ⟨lock, before, hread⟩ := h
  exact ⟨lock, before, hread.cons hop r⟩

theorem booksOwn_of_not (h : ¬op.Books) : BooksOwn t op := by
  cases op with
  | update u => cases u <;> first | trivial | exact absurd trivial h
  | _ => trivial

theorem BooksOwn.cons (h : BooksOwn t op') (hop : ¬op.Books) (r : Reply op) :
    BooksOwn (⟨op, r⟩ :: t) op' := by
  cases op' with
  | update u =>
      cases u with
      | crosvmUsbPortsInsert device vmName port generation =>
          rcases h with ⟨vm, node, before, hvm, hhanded⟩ | ⟨m, binding, hread, hbinding⟩
          · exact .inl ⟨vm, node, before, hvm, LastTold.cons hhanded hop r⟩
          · exact .inr ⟨m, binding, hread.cons hop r, hbinding⟩
      | _ => trivial
  | _ => trivial

/-- The frame rule: what puts no port on record. -/
theorem wp_unbooked {α : Type} {p : Act α} (hp : Calls (fun op => ¬op.Books) p)
    (h : BooksOwn t op') : wp Machine.transcript BooksOwn p (fun _ t => BooksOwn t op') t :=
  wp_of_calls_transcript hp (fun _ _ r hop ht => ht.cons hop r) (fun _ _ hop _ =>
    booksOwn_of_not hop) h

theorem wp_unbooked_bind {α β : Type} {p : Act α} {f : α → Act β}
    (hp : Calls (fun op => ¬op.Books) p) (h : BooksOwn t op')
    (hf : ∀ a t, BooksOwn t op' → wp Machine.transcript BooksOwn (f a) (fun _ _ => True) t) :
    wp Machine.transcript BooksOwn (p >>= f) (fun _ _ => True) t := by
  rw [wp_bind]
  refine wp_imp (wp_unbooked hp h) fun r t' ht' => ?_
  cases r with
  | error e => trivial
  | ok a => exact hf a t' ht'

theorem wp_unbooked_any {α : Type} {p : Act α} (hp : Calls (fun op => ¬op.Books) p)
    (t : Transcript Op Reply) : wp Machine.transcript BooksOwn p (fun _ _ => True) t :=
  wp_of_footprint hp (fun _ hop _ => booksOwn_of_not hop) t

theorem wp_unbooked_any_bind {α β : Type} {p : Act α} {f : α → Act β}
    (hp : Calls (fun op => ¬op.Books) p)
    (hf : ∀ a t, wp Machine.transcript BooksOwn (f a) (fun _ _ => True) t)
    (t : Transcript Op Reply) :
    wp Machine.transcript BooksOwn (p >>= f) (fun _ _ => True) t := by
  rw [wp_bind]
  refine wp_imp (wp_unbooked_any hp t) fun r t' _ => ?_
  cases r with
  | error e => trivial
  | ok a => exact hf a t'

/-- The record an attach makes of its claim. -/
def PortClaim.booking (claim : PortClaim) (device : UsbDevice) (vm : Vm) : Op :=
  .update (.crosvmUsbPortsInsert device vm.name claim.port claim.generation)

/-- A claim is of the device's own port, or of the one Crosvm just handed out. -/
theorem wp_claimPort_own {vm : Vm} {node : String} {seen : Option (String × List LivePort)} :
    wp Machine.transcript BooksOwn (claimPort device vm node seen)
      (fun r t => ∀ claim, r = .ok claim → BooksOwn t (claim.booking device vm)) t := by
  rw [claimPort, wp_bind, readMemory, wp_request_transcript]
  refine ⟨trivial, fun m => ?_⟩
  rw [andThen_ok]
  have hclaim : ∀ (view : String × List LivePort) t, ReadIn t m →
      wp Machine.transcript BooksOwn
        (claimFrom device vm node (m.persistent.crosvmUsbPorts.lookup device.sysName) view)
        (fun r t => ∀ claim, r = .ok claim → BooksOwn t (claim.booking device vm)) t := by
    intro view t hread
    unfold claimFrom
    cases hreusable : reusablePort (m.persistent.crosvmUsbPorts.lookup device.sysName) device
        vm.name view.1 view.2 with
    | some port =>
        rintro claim ⟨⟩
        obtain ⟨binding, hbinding, hvm, hgeneration, hport⟩ := exists_of_reusablePort hreusable
        exact .inr ⟨m, binding, hread, hbinding, hvm, hgeneration, hport⟩
    | none =>
        dsimp only
        rw [wp_bind, usbAttach, wp_request_transcript]
        refine ⟨trivial, fun r => ?_⟩
        cases r with
        | error e =>
            intro claim hok
            cases hok
        | ok port =>
            rintro claim ⟨⟩
            exact .inl ⟨vm, node, t, rfl, lastTold_head _⟩
  have hread : ReadIn (⟨.read .state, m⟩ :: t) m := ⟨.state, t, lastTold_head _⟩
  cases seen with
  | some view => exact hclaim view _ hread
  | none =>
      dsimp only
      rw [wp_bind, GhafDeviceManager.socketGeneration, wp_request_transcript]
      refine ⟨trivial, fun generation => ?_⟩
      rw [andThen_ok, wp_bind, usbList, wp_request_transcript]
      refine ⟨trivial, fun r => ?_⟩
      cases r with
      | error e =>
          intro claim hok
          cases hok
      | ok live =>
          exact hclaim (generation.getD "", live) _
            ((hread.cons id _).cons id _)

theorem wp_finishAttach_own {vm : Vm} {node : String} {current : Option String} {claim : PortClaim}
    (h : BooksOwn t (claim.booking device vm)) :
    wp Machine.transcript BooksOwn (finishAttach d device vm node current claim)
      (fun _ _ => True) t := by
  have hsave : Calls (fun op => ¬op.Books) (saveState d) := calls_saveState id
  have hrecord : ∀ t, BooksOwn t (claim.booking device vm) → wp Machine.transcript BooksOwn
      (recordAttachment d device vm.name node claim) (fun _ _ => True) t := by
    intro t ht
    have hlocked : BooksOwn (⟨.lock .state, ()⟩ :: t) (claim.booking device vm) :=
      @BooksOwn.cons t (.lock .state) _ ht id ()
    refine wp_withLock_told trivial (fun _ => trivial) ?_
    refine wp_unbooked_bind (calls_request id) hlocked fun _ t ht => ?_
    refine wp_unbooked_bind (calls_selectVm id id) ht fun _ t ht => ?_
    refine wp_unbooked_bind (calls_setDisconnected id id) ht fun _ t ht => ?_
    rw [wp_bind, update, wp_request_transcript]
    refine ⟨ht, fun _ => ?_⟩
    exact wp_unbooked_any hsave _
  have htail : ∀ t, BooksOwn t (claim.booking device vm) → wp Machine.transcript BooksOwn (do
      recordAttachment d device vm.name node claim
      update (.pendingRemove device.persistentId)
      if current ≠ some vm.name ∨ claim.attached then
        notify (.usbAttached device vm.name)) (fun _ _ => True) t := by
    intro t ht
    rw [wp_bind]
    refine wp_imp (hrecord t ht) fun r t' _ => ?_
    cases r with
    | error e => trivial
    | ok _ =>
        have hend : Calls (fun op => ¬op.Books) (do
            update (.pendingRemove device.persistentId)
            if current ≠ some vm.name ∨ claim.attached then
              notify (.usbAttached device vm.name)) :=
          calls_bind (calls_request id) fun _ => calls_ite (calls_request id) trivial
        exact wp_unbooked_any hend _
  unfold finishAttach
  cases claim.stalePort with
  | none => exact htail t h
  | some stale => exact wp_unbooked_bind (calls_request id) h fun _ t ht => htail t ht

theorem unbooked_of {α : Type} {S : Op → Prop} {p : Act α} (hp : Calls S p)
    (hS : ∀ device vm port generation,
      ¬S (.update (.crosvmUsbPortsInsert device vm port generation))) :
    Calls (fun op => ¬op.Books) p :=
  Program.calls_mono hp fun op hop hbooks => by
    cases op with
    | update u =>
        cases u with
        | crosvmUsbPortsInsert device vm port generation => exact hS device vm port generation hop
        | _ => exact hbooks
    | _ => exact hbooks

theorem wp_attachAuthorized_own {vm : Vm} {node : String} {current : Option String}
    {seen : Option (String × List LivePort)} :
    wp Machine.transcript BooksOwn (attachAuthorized d device vm node current seen)
      (fun _ _ => True) t := by
  have hrollback : ∀ armed : Bool, Calls (fun op => ¬op.Books) (rollback device armed) :=
    fun armed => calls_rollback id
  refine wp_unbooked_any_bind (unbooked_of (calls_usbAuthorizationGuard d device)
    fun _ _ _ _ => id) (fun armed t => ?_) t
  rw [wp_bind, wp_attempt]
  have hclaim : wp Machine.transcript BooksOwn (claimUsb device vm node seen)
      (fun r t => ∀ claim, r = .ok (some claim) → BooksOwn t (claim.booking device vm)) t := by
    have herror : ∀ (e : Error) t, ∀ claim,
        (Except.error e : Except Error (Option PortClaim)) = .ok (some claim) →
          BooksOwn t (claim.booking device vm) := by
      rintro e t claim ⟨⟩
    have hfirst : Calls (fun op => ¬op.Books) (do
        configureUsb device
        let names ← withContext ("cannot claim " ++ device.sysName) (interfaces device.sysName)
        releaseHostDrivers device names) := by
      refine calls_bind (calls_configureUsb id id id) fun _ => ?_
      refine calls_bind (calls_withContext _ (calls_request id)) fun names => ?_
      exact calls_releaseHostDrivers (fun _ => id) (fun _ => id) id names
    have heq : claimUsb device vm node seen = (do
        configureUsb device
        let names ← withContext ("cannot claim " ++ device.sysName) (interfaces device.sysName)
        releaseHostDrivers device names : Act Bool) >>= fun stopped =>
          if stopped then pure none else do return some (← claimPort device vm node seen) := by
      simp only [claimUsb, bind_assoc]
    rw [heq, wp_bind]
    refine wp_imp (wp_unbooked_any hfirst t) fun r t' _ => ?_
    cases r with
    | error e => exact herror e t'
    | ok stopped =>
        rw [andThen_ok]
        split
        · rintro claim ⟨⟩
        · rw [wp_bind]
          refine wp_imp wp_claimPort_own fun r t' hr => ?_
          cases r with
          | error e => exact herror e t'
          | ok claim =>
              rintro _ ⟨⟩
              exact hr claim rfl
  refine wp_imp hclaim fun r t' hr => ?_
  rw [andThen_ok]
  match r with
  | .error e => exact wp_unbooked_any (calls_bind (hrollback armed) fun _ => calls_throw e) t'
  | .ok none => exact wp_unbooked_any (hrollback armed) t'
  | .ok (some claim) => exact wp_finishAttach_own (hr claim rfl)

/-- Whatever an attach is told, it records the device's own port or the one handed out to it. -/
theorem wp_attachOneUsb_own {rule : RuleMatch} {requestedVm : Option String} :
    wp Machine.transcript BooksOwn (attachOneUsb d device rule requestedVm)
      (fun _ _ => True) t := by
  have hrest : ∀ vmName vm t, wp Machine.transcript BooksOwn (do
      let seen ← preflight d device vm
      let node ← require "USB device has no device node" device.deviceNode
      let current := (← readMemory .state).usbVms.lookup node
      handOver d device current vmName
      attachAuthorized d device vm node current seen) (fun _ _ => True) t := by
    intro vmName vm t
    refine wp_unbooked_any_bind (calls_preflight id id) (fun seen t => ?_) t
    refine wp_unbooked_any_bind (calls_require _ _) (fun node t => ?_) t
    refine wp_unbooked_any_bind (calls_request id) (fun m t => ?_) t
    have hhandOver : Calls (fun op => ¬op.Books)
        (handOver d device (m.usbVms.lookup node) vmName) := by
      cases m.usbVms.lookup node with
      | none => trivial
      | some name =>
          exact calls_ite (unbooked_of (calls_detachOneUsb_detaches d device false)
            fun _ _ _ _ => id) trivial
    exact wp_unbooked_any_bind hhandOver (fun _ t => wp_attachAuthorized_own) t
  have hto : ∀ vmName t, wp Machine.transcript BooksOwn (attachUsbTo d device rule vmName)
      (fun _ _ => True) t := by
    intro vmName t
    by_cases hallowed : vmName ∈ allowedVms rule
    swap
    · simp [attachUsbTo, hallowed]
    have hcontains : (allowedVms rule).contains vmName = true := by simpa using hallowed
    unfold attachUsbTo
    rw [hcontains, Bool.not_true, if_neg Bool.false_ne_true]
    refine wp_unbooked_any_bind (calls_require _ _) (fun vm t => ?_) t
    split
    case isTrue =>
      refine wp_unbooked_any_bind (calls_request id) (fun generation t => ?_) t
      split
      case isTrue => trivial
      case isFalse => exact hrest vmName vm t
    case isFalse => exact hrest vmName vm t
  refine wp_unbooked_any_bind (calls_request id) (fun _ t => ?_) t
  refine wp_unbooked_any_bind (calls_request id) (fun m t => ?_) t
  split
  · have hpending : Calls (fun op => ¬op.Books) (do
        if ← insertPending device.persistentId then
          notify (.usbSelectVm device rule.allowedVms)) :=
      calls_bind (calls_withLock id id (calls_bind (calls_request id) fun _ =>
        calls_bind (calls_request id) fun _ => trivial)) fun _ => calls_ite (calls_request id) trivial
    exact wp_unbooked_any hpending t
  · exact hto _ t

theorem unbooked_parts (d : Daemon) : PartsCall (fun op => ¬op.Books) d where
  glue op hop hbooks := by
    cases op with
    | update u => cases u <;> first | exact hbooks | exact hop.elim
    | _ => exact hbooks
  detachUsb device permanent :=
    unbooked_of (calls_detachOneUsb_detaches d device permanent) fun _ _ _ _ => id
  detachPci device rule permanent :=
    unbooked_of (calls_detachOnePci d device rule permanent) fun _ _ _ _ => id
  bind address := unbooked_of (calls_bindVfio_binds address) fun _ _ _ _ => id
  enable := unbooked_of (calls_enableUsbAuthorization d) fun _ _ _ _ => id
  close := unbooked_of (calls_closeUsbGate d) fun _ _ _ _ => id
  open_ := unbooked_of (calls_openUsbGate d) fun _ _ _ _ => id
  gate := unbooked_of (calls_applyUsbGate d) fun _ _ _ _ => id
  observe := unbooked_of (calls_observe d) fun _ _ _ _ => id
  sweep := unbooked_of (calls_deauthorizeUnmatchedUsb d) fun _ _ _ _ => id

theorem request_booksOwn (d : Daemon) (request : Request) (t : Transcript Op Reply) :
    wp Machine.transcript BooksOwn (request.program d) (fun _ _ => True) t := by
  have htells : PartsTell BooksOwn d :=
    { parts := (unbooked_parts d).mono fun _ hop _ => booksOwn_of_not hop
      attachUsb := fun _ _ _ _ _ _ => wp_attachOneUsb_own
      attachPci := fun device rule requestedVm t _ _ => wp_unbooked_any
        (unbooked_of (calls_attachOnePci d device rule requestedVm) fun _ _ _ _ => id) t }
  exact htells.request_tells request t

end Told

/-! ## What is on record -/

/-- No two devices are on record at one port of one VM instance. -/
def Exclusive (bindings : Map UsbPortBinding) : Prop :=
  ∀ name other binding binding', bindings.lookup name = some binding →
    bindings.lookup other = some binding' → binding.vm = binding'.vm →
      binding.socketGeneration = binding'.socketGeneration → binding.port = binding'.port →
        name = other

def Within (w₀ w : World) : Prop :=
  ∀ name binding, w.binding name = some binding → w₀.binding name = some binding

/-- Neither the memory nor the file has a port twice. -/
structure Distinct (w : World) : Prop where
  memory : Exclusive w.memory.persistent.crosvmUsbPorts
  file : ∀ state, w.stateFile = some state → Exclusive state.crosvmUsbPorts

/-- Whatever goes on around a request. An observation does not wait for it, and may take bindings
away and save the others. -/
structure Around (w w' : World) : Prop where
  daemon : w'.daemon = w.daemon
  bindings : Within w w'
  file : w'.stateFile = w.stateFile ∨ ∃ state, w'.stateFile = some state ∧
    ∀ name binding, state.crosvmUsbPorts.lookup name = some binding → w.binding name = some binding

/-- Crosvm hands out no port that it lists. -/
def handsOutUnlisted (w : World) : Op → Choice → Prop
  | .usbAttach vm _, c => c.fail = false → ∀ item ∈ w.ports vm.socket, item.1 ≠ c.port
  | _, _ => True

/-- Each port on record for another device and this instance of the VM is listed. -/
def OthersListed (w : World) (vm : Vm) (sysName generation : String) : Prop :=
  ∀ other binding, other ≠ sysName → w.binding other = some binding → binding.vm = vm.name →
    binding.socketGeneration = generation → ∃ item ∈ w.ports vm.socket, item.1 = binding.port

/-- When Crosvm was asked for a port that went on record, each port on record for another device
and the same instance of the VM was listed. -/
def AsksAmongListed (calls : List ((World × Transcript Op Reply) × Op)) : Prop :=
  ∀ w before vm node w' t device port generation, ((w, before), Op.usbAttach vm node) ∈ calls →
    ((w', t), Op.update (.crosvmUsbPortsInsert device vm.name port generation)) ∈ calls →
      HandedIn t vm node port before → OthersListed w vm device.sysName generation

section Records

variable {w w' w₀ : World} {op : Op} {c : Choice}

theorem Exclusive.mono {bindings others : Map UsbPortBinding} (h : Exclusive bindings)
    (hmono : ∀ name binding, others.lookup name = some binding →
      bindings.lookup name = some binding) : Exclusive others :=
  fun name other binding binding' hname hother =>
    h name other binding binding' (hmono name binding hname) (hmono other binding' hother)

theorem exclusive_empty : Exclusive (∅ : Map UsbPortBinding) := by
  intro name other binding binding' hname
  cases hname

theorem Within.trans (h : Within w₀ w) (h' : Within w w') : Within w₀ w' :=
  fun name binding hbinding => h name binding (h' name binding hbinding)

theorem within_react (hop : ¬op.Books) (w : World) (c : Choice) : Within w (react w op c).2 := by
  intro name binding hbinding
  obtain hold | ⟨device, vm, port, generation, rfl, -⟩ := binding_react hbinding
  · exact hold
  · exact absurd trivial hop

theorem Distinct.around (h : Distinct w) (hw : Around w w') : Distinct w' where
  memory := h.memory.mono hw.bindings
  file state hstate := by
    obtain hsame | ⟨saved, hsaved, hbindings⟩ := hw.file
    · exact h.file state (hsame ▸ hstate)
    · obtain rfl := Option.some.inj (hsaved.symm.trans hstate)
      exact h.memory.mono hbindings

theorem Distinct.restart (h : Distinct w) (d : Daemon) : Distinct (w.restart d) where
  memory := by
    by_cases hpersistency : d.config.persistency = true
    · cases hfile : w.stateFile with
      | none =>
          simp only [World.restart, Memory.load, hpersistency, hfile, if_true, Option.getD_none]
          exact exclusive_empty
      | some state =>
          simp only [World.restart, Memory.load, hpersistency, hfile, if_true, Option.getD_some]
          exact h.file state hfile
    · simp only [World.restart, Memory.load, hpersistency]
      exact exclusive_empty
  file := h.file

/-- A record keeps the ports distinct where no other device is on record at its port. -/
theorem Distinct.react (h : Distinct w) (hnew : ∀ device vm port generation,
    op = .update (.crosvmUsbPortsInsert device vm port generation) → ∀ other binding,
      w.binding other = some binding → binding.vm = vm → binding.socketGeneration = generation →
        binding.port = port → other = device.sysName) : Distinct (react w op c).2 where
  memory name other binding binding' hname hother hvm hgeneration hport := by
    obtain hold | ⟨device, vm, port, generation, rfl, hdevice, hbooked⟩ := binding_react hname
    · obtain hold' | ⟨device, vm, port, generation, rfl, hdevice, hbooked⟩ := binding_react hother
      · exact h.memory name other binding binding' hold hold' hvm hgeneration hport
      · subst hbooked
        exact (hnew device vm port generation rfl name binding hold hvm hgeneration hport).trans
          hdevice
    · subst hbooked
      obtain hold' | ⟨device', vm', port', generation', heq, hdevice', -⟩ := binding_react hother
      · exact hdevice.symm.trans (hnew device vm port generation rfl other binding' hold' hvm.symm
          hgeneration.symm hport.symm).symm
      · obtain ⟨rfl, -⟩ := Update.crosvmUsbPortsInsert.inj (Op.update.inj heq)
        exact hdevice.symm.trans hdevice'
  file state hstate := by
    obtain hold | rfl := stateFile_react hstate
    · exact h.file state hold
    · exact h.memory

end Records

/-! ## One request -/

/-- Among the calls of a request: how what it was told lies to what is on record. -/
structure OnRecordBy (calls : List ((World × Transcript Op Reply) × Op))
    (s : World × Transcript Op Reply) : Prop where
  distinct : Distinct s.1
  handed : ∀ vm node port before, HandedIn s.2 vm node port before → ∃ w₀,
    ((w₀, before), Op.usbAttach vm node) ∈ calls ∧ (∀ item ∈ w₀.ports vm.socket, item.1 ≠ port) ∧
      Within w₀ s.1
  read : ∀ m, ReadIn s.2 m → Exclusive m.persistent.crosvmUsbPorts ∧
    ∀ name binding, s.1.binding name = some binding →
      m.persistent.crosvmUsbPorts.lookup name = some binding

section Request

variable {calls : List ((World × Transcript Op Reply) × Op)} {w w' : World}
  {t : Transcript Op Reply} {op : Op} {c : Choice}

theorem OnRecordBy.start (h : Distinct w) : OnRecordBy calls (w, []) where
  distinct := h
  handed _ _ _ _ hhanded := absurd hhanded not_lastTold_nil
  read _ hread := by
    obtain ⟨lock, before, htold⟩ := hread
    exact absurd htold not_lastTold_nil

theorem OnRecordBy.around (h : OnRecordBy calls (w, t)) (hw : Around w w') :
    OnRecordBy calls (w', t) where
  distinct := h.distinct.around hw
  handed vm node port before hhanded := by
    obtain ⟨w₀, hcall, hfresh, hwithin⟩ := h.handed vm node port before hhanded
    exact ⟨w₀, hcall, hfresh, hwithin.trans hw.bindings⟩
  read m hread := by
    obtain ⟨hexclusive, hbindings⟩ := h.read m hread
    exact ⟨hexclusive, fun name binding hbinding =>
      hbindings name binding (hw.bindings name binding hbinding)⟩

theorem OnRecordBy.own {device : UsbDevice} {vmName generation : String} {port : UInt8}
    (h : OnRecordBy calls (w, t)) (hlisted : AsksAmongListed calls)
    (hcall : ((w, t), Op.update (.crosvmUsbPortsInsert device vmName port generation)) ∈ calls)
    (hown : BooksOwn t (.update (.crosvmUsbPortsInsert device vmName port generation)))
    {other : String} {binding : UsbPortBinding} (hbinding : w.binding other = some binding)
    (hvm : binding.vm = vmName) (hgeneration : binding.socketGeneration = generation)
    (hport : binding.port = port) : other = device.sysName := by
  rcases hown with ⟨vm, node, before, rfl, hhanded⟩ | ⟨m, known, hread, hknown, hsame⟩
  · by_contra hother
    obtain ⟨w₀, hasked, hfresh, hwithin⟩ := h.handed vm node port before hhanded
    obtain ⟨item, hitem, hlists⟩ := hlisted w₀ before vm node w t device port generation hasked
      hcall hhanded other binding hother (hwithin other binding hbinding) hvm hgeneration
    exact hfresh item hitem (hlists.trans hport)
  · obtain ⟨hexclusive, hbindings⟩ := h.read m hread
    obtain ⟨hvm', hgeneration', hport'⟩ := hsame
    exact hexclusive other device.sysName binding known (hbindings other binding hbinding) hknown
      (hvm.trans hvm'.symm) (hgeneration.trans hgeneration'.symm) (hport.trans hport'.symm)

theorem OnRecordBy.answer (h : OnRecordBy calls (w, t)) (hlisted : AsksAmongListed calls)
    (hcall : ((w, t), op) ∈ calls) (hown : BooksOwn t op) (hc : handsOutUnlisted w op c) :
    OnRecordBy calls ((react w op c).2, ⟨op, (react w op c).1⟩ :: t) where
  distinct := by
    refine h.distinct.react ?_
    rintro device vm port generation rfl other binding hbinding hvm hgeneration hport
    exact h.own hlisted hcall hown hbinding hvm hgeneration hport
  handed vm node port before hhanded := by
    obtain ⟨heq, rfl⟩ | ⟨hop, hbefore⟩ := LastTold.of_cons hhanded
    · obtain rfl : op = .usbAttach vm node := congrArg Sigma.fst heq
      have hport : c.result "Crosvm command failed" c.port = .ok port :=
        eq_of_heq (Sigma.mk.inj heq).2
      unfold Choice.result at hport
      split at hport
      case isTrue => cases hport
      case isFalse hdone =>
        obtain rfl := Except.ok.inj hport
        exact ⟨w, hcall, hc (by simpa using hdone), within_react id w c⟩
    · obtain ⟨w₀, hasked, hfresh, hwithin⟩ := h.handed vm node port before hbefore
      exact ⟨w₀, hasked, hfresh, hwithin.trans (within_react hop w c)⟩
  read m hread := by
    obtain ⟨lock, before, htold⟩ := hread
    obtain ⟨heq, rfl⟩ | ⟨hop, hbefore⟩ := LastTold.of_cons htold
    · obtain rfl : op = .read lock := congrArg Sigma.fst heq
      obtain rfl : w.memory = m := eq_of_heq (Sigma.mk.inj heq).2
      exact ⟨h.distinct.memory, fun _ _ hbinding => hbinding⟩
    · obtain ⟨hexclusive, hbindings⟩ := h.read m ⟨lock, before, hbefore⟩
      exact ⟨hexclusive, fun name binding hbinding =>
        hbindings name binding (within_react hop w c name binding hbinding)⟩

theorem OnRecordBy.exec {p : Program Op Reply (Except Error Unit)}
    {s s' : World × Transcript Op Reply} {tr : List ((World × Transcript Op Reply) × Op)}
    {o : Option (Except Error Unit)} (h : OnRecordBy calls s) (hlisted : AsksAmongListed calls)
    (hexec : Exec (Machine.among Around react handsOutUnlisted).recorded p s tr s' o)
    (hcalls : ∀ e ∈ tr, e ∈ calls ∧ BooksOwn e.1.2 e.2) :
    OnRecordBy calls s' ∧ ∀ e ∈ tr, Distinct e.1.1 := by
  induction hexec with
  | done a s => exact ⟨h, by simp⟩
  | stop p s => exact ⟨h, by simp⟩
  | @call op next s s₁ s₂ s' r tr o henv hstep _ ih =>
      obtain ⟨w, t⟩ := s
      obtain ⟨w₁, t₁⟩ := s₁
      obtain ⟨w₂, t₂⟩ := s₂
      obtain ⟨hmove, rfl⟩ : Around w w₁ ∧ t₁ = t := henv
      obtain ⟨⟨c, hc, hreact⟩, rfl⟩ := hstep
      obtain ⟨hcall, hrest⟩ := List.forall_mem_cons.1 hcalls
      have hnow : OnRecordBy calls (w₁, t₁) := h.around hmove
      have hnext := hnow.answer hlisted hcall.1 hcall.2 hc
      rw [hreact] at hnext
      obtain ⟨hend, htr⟩ := ih hnext hrest
      exact ⟨hend, List.forall_mem_cons.2 ⟨hnow.distinct, htr⟩⟩

end Request

/-! ## Runs -/

/-- A run, and the calls of its requests, newest request first. Around them Crosvm may drop ports,
VMs may restart and an observation may go on. -/
inductive PortRun : World → List (List ((World × Transcript Op Reply) × Op)) → Prop
  | start (d : Daemon) (hd : d.config.Valid) : PortRun { daemon := d } []
  | around {w w' : World} {past : List (List ((World × Transcript Op Reply) × Op))}
      (h : PortRun w past) (hw : Around w w') : PortRun w' past
  | request {w w' : World} {past : List (List ((World × Transcript Op Reply) × Op))}
      {calls : List ((World × Transcript Op Reply) × Op)} {t : Transcript Op Reply}
      {r : Except Error Unit} (request : Request) (h : PortRun w past)
      (hexec : Exec (Machine.among Around react handsOutUnlisted).recorded
        (request.program w.daemon).run (w, []) calls (w', t) (some r)) :
      PortRun w' (calls :: past)
  | restart {w w' : World} {past : List (List ((World × Transcript Op Reply) × Op))}
      {calls : List ((World × Transcript Op Reply) × Op)} {t : Transcript Op Reply}
      (request : Request) (d : Daemon) (hd : d.config.Valid) (h : PortRun w past)
      (hexec : Exec (Machine.among Around react handsOutUnlisted).recorded
        (request.program w.daemon).run (w, []) calls (w', t) none) :
      PortRun (w'.restart d) (calls :: past)

/-- A request keeps the ports on record distinct, at each of its calls. -/
theorem distinct_request {w : World} {calls : List ((World × Transcript Op Reply) × Op)}
    {s : World × Transcript Op Reply} {o : Option (Except Error Unit)} (request : Request)
    (h : Distinct w) (hlisted : AsksAmongListed calls)
    (hexec : Exec (Machine.among Around react handsOutUnlisted).recorded
      (request.program w.daemon).run (w, []) calls s o) :
    Distinct s.1 ∧ ∀ e ∈ calls, Distinct e.1.1 := by
  have hown := (Program.wp_recorded (request_booksOwn w.daemon request []) hexec).1
  obtain ⟨hend, hcalls⟩ := (OnRecordBy.start h).exec hlisted hexec fun e he => ⟨he, hown e he⟩
  exact ⟨hend.distinct, hcalls⟩

/-- In every run whose attaches ask Crosvm while the ports on record of the other devices are still
listed, no port is ever on record twice. -/
theorem recorded_ports_exclusive {w : World}
    {past : List (List ((World × Transcript Op Reply) × Op))} (h : PortRun w past)
    (hlisted : ∀ calls ∈ past, AsksAmongListed calls) :
    Distinct w ∧ ∀ calls ∈ past, ∀ e ∈ calls, Distinct e.1.1 := by
  induction h with
  | start d hd =>
      have hstart : Distinct { daemon := d } := ⟨exclusive_empty, nofun⟩
      exact ⟨hstart, by simp⟩
  | around _ hw ih =>
      obtain ⟨hnow, hpast⟩ := ih hlisted
      exact ⟨hnow.around hw, hpast⟩
  | request request _ hexec ih =>
      obtain ⟨hlast, hbefore⟩ := List.forall_mem_cons.1 hlisted
      obtain ⟨hnow, hpast⟩ := ih hbefore
      obtain ⟨hend, hcalls⟩ := distinct_request request hnow hlast hexec
      exact ⟨hend, List.forall_mem_cons.2 ⟨hcalls, hpast⟩⟩
  | restart request d _ _ hexec ih =>
      obtain ⟨hlast, hbefore⟩ := List.forall_mem_cons.1 hlisted
      obtain ⟨hnow, hpast⟩ := ih hbefore
      obtain ⟨hend, hcalls⟩ := distinct_request request hnow hlast hexec
      exact ⟨hend.restart d, List.forall_mem_cons.2 ⟨hcalls, hpast⟩⟩

/-! ## Two keyboards -/

theorem PortRun.initial {w : World} (hd : w.daemon.config.Valid) (hmemory : w.memory = {})
    (hfile : w.stateFile = none) : PortRun w [] := by
  refine .around (.start w.daemon hd) ⟨rfl, fun name binding hbinding => ?_, .inl hfile⟩
  rw [World.binding, hmemory] at hbinding
  cases hbinding

theorem Around.ports (w : World) (ports : String → List LivePort) : Around w { w with ports } :=
  ⟨rfl, fun _ _ h => h, .inl rfl⟩

theorem PortRun.perform {w : World} {past : List (List ((World × Transcript Op Reply) × Op))}
    (h : PortRun w past) (pick : World → Op → Choice) (o : Operation)
    (hallowed : ∀ e ∈ w.trace pick o, handsOutUnlisted e.1 e.2 (pick e.1 e.2)) :
    ∃ calls, calls.map (fun e => (e.1.1, e.2)) = w.trace pick o ∧
      PortRun (w.perform pick o) (calls :: past) := by
  have hexec : Exec (Machine.among Around react handsOutUnlisted) (o.program w.daemon).run w
      (w.trace pick o) (w.perform pick o) (some _) :=
    Program.follow_exec_among _ w (fun _ _ => ⟨rfl, fun _ _ h => h, .inl rfl⟩) hallowed
  obtain ⟨calls, t, hrecorded, hcalls⟩ := hexec.recorded []
  exact ⟨calls, hcalls, .request (.operation o) h hrecorded⟩

/-- Each command of these calls finds all that is on record listed. -/
theorem asksAmongListed_of_trace {calls : List ((World × Transcript Op Reply) × Op)}
    {tr : List (World × Op)} (hcalls : calls.map (fun e => (e.1.1, e.2)) = tr)
    (hlisted : ∀ e ∈ tr, ∀ target ∈ e.2.attachTarget,
      ∀ name ∈ e.1.memory.persistent.crosvmUsbPorts.keys, ∀ binding ∈ e.1.binding name,
        ∃ item ∈ e.1.ports target.1.socket, item.1 = binding.port) : AsksAmongListed calls := by
  intro w before vm node w' t device port generation hasked _ _ other binding _ hbinding _ _
  have hmem : (w, Op.usbAttach vm node) ∈ tr := by
    rw [← hcalls]
    exact List.mem_map_of_mem hasked
  refine hlisted _ hmem (vm, node) rfl other ?_ binding hbinding
  exact AList.mem_keys.1 (AList.lookup_isSome.1 (Option.isSome_of_eq_some hbinding))

/-- Crosvm hands out the first port it does not list, of two. -/
def onFreshPort (w : World) : Op → Choice
  | .usbAttach vm _ =>
    let port := if (w.ports vm.socket).any fun item => item.1 == 1 then 2 else 1
    { port, ports := some ((port, "046d", "c31c") :: w.ports vm.socket) }
  | _ => {}

instance (w : World) (op : Op) (c : Choice) : Decidable (handsOutUnlisted w op c) := by
  delta handsOutUnlisted
  induction op using Op.casesOn <;> infer_instance

def attachFirstKeyboard : Operation := attachNode "/dev/bus/usb/001/004"

def attachSecondKeyboard : Operation := attachNode "/dev/bus/usb/001/005"

def firstAttached : World := twoKeyboards.perform onFreshPort attachFirstKeyboard

theorem portRun_firstAttached : ∃ calls,
    calls.map (fun e => (e.1.1, e.2)) = twoKeyboards.trace onFreshPort attachFirstKeyboard ∧
      PortRun firstAttached [calls] := by
  have hinitial : PortRun twoKeyboards [] := .initial (by decide) rfl rfl
  exact hinitial.perform onFreshPort attachFirstKeyboard (by decide +kernel)

theorem recorded_ports_exclusive_twoKeyboards :
    Distinct (firstAttached.perform onFreshPort attachSecondKeyboard) := by
  obtain ⟨first, hfirst, hrun⟩ := portRun_firstAttached
  obtain ⟨second, hsecond, hboth⟩ := hrun.perform onFreshPort attachSecondKeyboard (by decide +kernel)
  refine (recorded_ports_exclusive hboth (List.forall_mem_cons.2 ⟨?_, ?_⟩)).1
  · exact asksAmongListed_of_trace hsecond (by decide +kernel)
  · exact List.forall_mem_singleton.2 (asksAmongListed_of_trace hfirst (by decide +kernel))

def firstDropped : World := { firstAttached with ports := fun _ => [] }

/-- The second keyboard gets the port that is still on record for the first. -/
theorem recorded_port_shared : ¬∀ w past, PortRun w past →
    Exclusive w.memory.persistent.crosvmUsbPorts := by
  intro hclaim
  obtain ⟨first, -, hrun⟩ := portRun_firstAttached
  have hdropped : PortRun firstDropped [first] := .around hrun (.ports _ _)
  obtain ⟨second, -, hboth⟩ := hdropped.perform onFreshPort attachSecondKeyboard (by decide +kernel)
  have hshared : ∃ binding ∈ (firstDropped.perform onFreshPort attachSecondKeyboard).binding "1-1",
      ∃ binding' ∈ (firstDropped.perform onFreshPort attachSecondKeyboard).binding "1-2",
        binding.vm = binding'.vm ∧ binding.socketGeneration = binding'.socketGeneration ∧
          binding.port = binding'.port := by decide +kernel
  obtain ⟨binding, hname, binding', hother, hvm, hgeneration, hport⟩ := hshared
  have hsame := hclaim _ _ hboth "1-1" "1-2" binding binding' hname hother hvm hgeneration hport
  exact absurd hsame (by decide)

end GhafDeviceManager
