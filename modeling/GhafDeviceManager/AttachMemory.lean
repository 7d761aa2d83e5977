import GhafDeviceManager.PortReuse

/-!
# What an attach leaves remembered

Once Crosvm has handed out a port, taking a stale port back and three saves of the state can still
fail, and each failure ends the call. A port that is not recorded by then is unknown to the next
attach, which asks Crosvm again.
-/

namespace GhafDeviceManager

open Fallible

/-- The node is the VM's, and the binding names this VM, port and generation. -/
structure Remembered (w : World) (device : UsbDevice) (node vmName : String) (port : UInt8)
    (generation : String) : Prop where
  holder : w.memory.usbVms.lookup node = some vmName
  known : w.known device = some (portBinding device vmName port generation)

def Effect.saveResult : Effect → Option Bool
  | .saved ok => some ok
  | _ => none

/-- How the saves among these effects ended, oldest first. -/
def savesOf (effects : List Effect) : List Bool := effects.reverse.filterMap Effect.saveResult

/-- Neither of the first two saves failed: they are nested in `selectVm` and `setDisconnected`,
and the port is recorded after them. -/
def NestedSaved (later : List Effect) : Prop := ∀ ok ∈ (savesOf later).take 2, ok = true

def Effect.detachFailed : Effect → Bool
  | .usbDetach _ _ ok => !ok
  | _ => false

def StaleDetached (later : List Effect) : Prop := ∀ effect ∈ later, effect.detachFailed = false

instance (later : List Effect) : Decidable (NestedSaved later) := by
  unfold NestedSaved
  infer_instance

instance (later : List Effect) : Decidable (StaleDetached later) := by
  unfold StaleDetached
  infer_instance

theorem savesOf_append (later earlier : List Effect) :
    savesOf (later ++ earlier) = savesOf earlier ++ savesOf later := by
  simp [savesOf]

theorem staleDetached_append (later earlier : List Effect) :
    StaleDetached (later ++ earlier) ↔ StaleDetached later ∧ StaleDetached earlier :=
  List.forall_mem_append

theorem remembered_congr {w w' : World} {device : UsbDevice} {node vmName generation : String}
    {port : UInt8} (hholder : w'.memory.usbVms = w.memory.usbVms)
    (hknown : w'.known device = w.known device) :
    Remembered w' device node vmName port generation ↔
      Remembered w device node vmName port generation := by
  constructor
  · rintro ⟨h, h'⟩
    exact ⟨hholder ▸ h, hknown ▸ h'⟩
  · rintro ⟨h, h'⟩
    exact ⟨hholder.symm ▸ h, hknown.symm ▸ h'⟩

section Tail

variable {d : Daemon} {device : UsbDevice} {vm : Vm} {vmName node : String} {claim : PortClaim}
  {w : World}

@[simp] theorem wp_saveState {G : World → Op → Prop} (post : Except Error Unit → World → Prop) :
    wp (machine anyChoice) G (saveState d) post w ↔
      if d.config.persistency then G w .save ∧ ∀ c : Choice,
        post (c.result "failed to save state" ())
          ({ w with stateFile := if c.fail then w.stateFile else some w.memory.persistent }.record
            (.saved !c.fail))
      else post (.ok ()) w := by
  unfold saveState
  split
  · simp [react, anyChoice]
  · rfl

/-- What the record leaves: the holder always, the binding where the nested saves succeed. -/
structure Filed (device : UsbDevice) (node vmName : String) (claim : PortClaim) (w : World)
    (later : List Effect) (w' : World) : Prop where
  log : w'.log = later ++ w.log
  quiet : ∀ effect ∈ later, effect.attachedNode = none
  detached : StaleDetached later
  holder : w'.memory.usbVms.lookup node = some vmName
  known : w'.known device = if NestedSaved later then
    some (portBinding device vmName claim.port claim.generation) else w.known device

theorem wp_recordAttachment :
    (recordAttachment d device vmName node claim).wp (machine anyChoice) (fun _ _ => True)
      (fun _ w' => ∃ later, Filed device node vmName claim w later w') w := by
  have hrecorded := AList.lookup_insert (β := fun _ => UsbPortBinding) (a := device.sysName)
    (b := portBinding device vmName claim.port claim.generation) w.memory.persistent.crosvmUsbPorts
  have hfiled : ∀ (later : List Effect) (w' : World), w'.log = later ++ w.log →
      (∀ effect ∈ later, effect.attachedNode = none) → StaleDetached later →
      w'.memory.usbVms = w.memory.usbVms.insert node vmName →
      w'.known device = (if NestedSaved later then
        some (portBinding device vmName claim.port claim.generation) else w.known device) →
      ∃ later, Filed device node vmName claim w later w' := by
    intro later w' hlog hquiet hdetached husbVms hknown
    refine ⟨later, hlog, hquiet, hdetached, ?_, hknown⟩
    rw [husbVms, AList.lookup_insert]
  simp only [recordAttachment, selectVm, setDisconnected, wp_withLock, wp_bind, update,
    wp_operation, wp_saveState, andThen_ok, anyChoice, true_and, forall_const, react,
    updateEffect, Update.apply]
  by_cases hpersistency : d.config.persistency = true
  · simp only [hpersistency, if_true]
    intro c
    cases hselect : c.fail
    · simp only [Choice.result, hselect, Bool.false_eq_true, if_false, andThen_ok, wp_bind,
        wp_operation, wp_saveState, hpersistency, if_true, react, updateEffect, Update.apply]
      refine ⟨trivial, fun _ _ => ⟨trivial, fun c => ?_⟩⟩
      cases hconnect : c.fail
      · simp only [Bool.false_eq_true, if_false, andThen_ok, wp_bind, wp_operation, wp_saveState,
          hpersistency, if_true, react, updateEffect, Update.apply]
        refine ⟨trivial, fun _ _ => ⟨trivial, fun c => ?_⟩⟩
        refine hfiled [.saved !c.fail, .portRecorded device vmName claim.port claim.generation,
          .saved true, .saved true] _ rfl ?_ ?_ rfl ?_
        · simp [Effect.attachedNode]
        · simp [StaleDetached, Effect.detachFailed]
        · refine hrecorded.trans (if_pos ?_).symm
          simp [NestedSaved, savesOf, List.filterMap_cons, Effect.saveResult]
      · simp only [if_true, andThen_error]
        refine hfiled [.saved false, .saved true] _ rfl ?_ ?_ rfl ?_
        · simp [Effect.attachedNode]
        · simp [StaleDetached, Effect.detachFailed]
        · rw [if_neg (by decide)]
          rfl
    · simp only [Choice.result, hselect, if_true, andThen_error]
      refine hfiled [.saved false] _ rfl ?_ ?_ rfl ?_
      · simp [Effect.attachedNode]
      · simp [StaleDetached, Effect.detachFailed]
      · rw [if_neg (by decide)]
        rfl
  · simp only [hpersistency, Bool.false_eq_true, if_false]
    refine hfiled [.portRecorded device vmName claim.port claim.generation] _ rfl ?_ ?_ rfl ?_
    · simp [Effect.attachedNode]
    · simp [StaleDetached, Effect.detachFailed]
    · refine hrecorded.trans (if_pos ?_).symm
      simp [NestedSaved, savesOf, List.filterMap_cons, Effect.saveResult]

/-- A tail that has come to its end: whether the attach is remembered can be read off its
effects. -/
structure Ended (device : UsbDevice) (node vmName : String) (claim : PortClaim) (w : World)
    (later : List Effect) (w' : World) : Prop where
  log : w'.log = later ++ w.log
  quiet : ∀ effect ∈ later, effect.attachedNode = none
  remembered : Remembered w' device node vmName claim.port claim.generation ↔
    StaleDetached later ∧ (NestedSaved later ∨
      w.known device = some (portBinding device vmName claim.port claim.generation))

theorem Filed.ended {later : List Effect} {w' : World}
    (h : Filed device node vmName claim w later w') :
    Ended device node vmName claim w later w' := by
  refine ⟨h.log, h.quiet, ?_⟩
  by_cases hnested : NestedSaved later
  · exact iff_of_true ⟨h.holder, by rw [h.known, if_pos hnested]⟩ ⟨h.detached, .inl hnested⟩
  · have hknown := h.known
    rw [if_neg hnested] at hknown
    constructor
    · intro hremembered
      exact ⟨h.detached, .inr (hknown.symm.trans hremembered.known)⟩
    · rintro ⟨-, hsaved | hsame⟩
      · exact absurd hsaved hnested
      · exact ⟨h.holder, hknown.trans hsame⟩

theorem Ended.notify {later : List Effect} {w' : World}
    (h : Ended device node vmName claim w later w') (n : Notification) :
    Ended device node vmName claim w (.notified n :: later) (w'.record (.notified n)) := by
  refine ⟨?_, ?_, ?_⟩
  · rw [World.record, h.log, List.cons_append]
  · simpa [Effect.attachedNode] using h.quiet
  · have hsaves : savesOf (.notified n :: later) = savesOf later := by
      rw [← List.singleton_append, savesOf_append]
      exact List.append_nil _
    have hsame : Remembered (w'.record (.notified n)) device node vmName claim.port
        claim.generation ↔ Remembered w' device node vmName claim.port claim.generation :=
      remembered_congr rfl rfl
    rw [hsame, h.remembered]
    simp [StaleDetached, NestedSaved, hsaves, Effect.detachFailed]

theorem wp_finishAttach_ended {current : Option String}
    (hstale : ∀ stale ∈ claim.stalePort, w.known device ≠
      some (portBinding device vm.name claim.port claim.generation)) :
    (finishAttach d device vm node current claim).wp (machine anyChoice) (fun _ _ => True)
      (fun _ w' => ∃ later, Ended device node vm.name claim w later w') w := by
  have htail : ∀ w₁, (do
      recordAttachment d device vm.name node claim
      update (.pendingRemove device.persistentId)
      if current ≠ some vm.name ∨ claim.attached then
        notify (.usbAttached device vm.name) : Act Unit).wp (machine anyChoice) (fun _ _ => True)
      (fun _ w' => ∃ later, Ended device node vm.name claim w₁ later w') w₁ := by
    intro w₁
    rw [wp_bind]
    refine wp_imp wp_recordAttachment fun r w₂ h₂ => ?_
    obtain ⟨later, hfiled⟩ := h₂
    have hended := hfiled.ended
    cases r with
    | error e => exact ⟨later, hended⟩
    | ok _ =>
        rw [andThen_ok, wp_bind, update, wp_operation]
        refine ⟨trivial, fun _ _ => ?_⟩
        rw [react, andThen_ok]
        have hremoved : Ended device node vm.name claim w₁ later { w₂ with
            memory := (Update.pendingRemove device.persistentId).apply w₂.memory } := by
          refine ⟨hended.log, hended.quiet, Iff.trans ?_ hended.remembered⟩
          exact remembered_congr rfl rfl
        split
        · rw [notify, wp_operation]
          exact ⟨trivial, fun _ _ => ⟨_, hremoved.notify _⟩⟩
        · exact ⟨later, hremoved⟩
  unfold finishAttach
  cases hport : claim.stalePort with
  | none => exact htail w
  | some stale =>
      have hother := hstale stale hport
      rw [wp_bind, usbDetach, wp_operation]
      refine ⟨trivial, fun c _ => ?_⟩
      cases hfail : c.fail
      · simp only [react, Choice.result, hfail, Bool.false_eq_true, if_false, id_eq, andThen_ok]
        refine wp_imp (htail _) fun _ w' h' => ?_
        obtain ⟨later, hended⟩ := h'
        refine ⟨later ++ [.usbDetach vm stale true], ?_, ?_, ?_⟩
        · rw [hended.log, List.append_assoc]
          rfl
        · intro effect heffect
          rcases List.mem_append.1 heffect with h | h
          · exact hended.quiet effect h
          · rw [List.mem_singleton.1 h]
            rfl
        · have hsaves : savesOf (later ++ [.usbDetach vm stale true]) = savesOf later :=
            savesOf_append later _
          have hdetached : StaleDetached [.usbDetach vm stale true] := by
            simp [StaleDetached, Effect.detachFailed]
          rw [hended.remembered, staleDetached_append, NestedSaved, NestedSaved, hsaves,
            and_iff_left hdetached]
          exact Iff.rfl
      · simp only [react, Choice.result, hfail, if_true, id_eq, andThen_error]
        refine ⟨[.usbDetach vm stale false], rfl, by simp [Effect.attachedNode], ?_⟩
        refine iff_of_false (fun hremembered => hother hremembered.known) fun hdetached => ?_
        exact absurd (hdetached.1 _ List.mem_cons_self) (by simp [Effect.detachFailed])

end Tail

/-! ## The whole call -/

section Call

variable {d : Daemon} {device : UsbDevice} {rule : RuleMatch} {requestedVm : Option String}
  {w : World}

/-- A call that gave an attach command: what went before it and what followed. -/
structure Commanded (w : World) (device : UsbDevice) (vm : Vm) (node generation : String)
    (plugged : Option ℕ) (reply : Option UInt8) (later earlier : List Effect) (w' : World) :
    Prop where
  daemon : w'.daemon = w.daemon
  configured : w.daemon.vm vm.name = some vm
  hasNode : device.deviceNode = some node
  log : w'.log = later ++ .usbAttach vm node generation plugged reply :: (earlier ++ w.log)
  after : ∀ effect ∈ later, effect.attachedNode = none
  before : ∀ effect ∈ earlier, effect.attachedNode = none
  remembered : ∀ port ∈ reply, (Remembered w' device node vm.name port generation ↔
    StaleDetached later ∧ (NestedSaved later ∨
      w.known device = some (portBinding device vm.name port generation) ∧
        ∀ other ∈ w.memory.usbVms.lookup node, other = vm.name))

def Outcome (w : World) (device : UsbDevice) (w' : World) : Prop :=
  (∃ news, w'.log = news ++ w.log ∧ ∀ effect ∈ news, effect.attachedNode = none) ∨
    ∃ vm node generation plugged reply later earlier,
      Commanded w device vm node generation plugged reply later earlier w'

theorem quiet_of_before {w w' : World} (h : Before w w') :
    ∃ news, w'.log = news ++ w.log ∧ ∀ effect ∈ news, effect.attachedNode = none := by
  obtain ⟨news, hlog, hnone⟩ := h.log
  refine ⟨news, hlog, fun effect heffect => ?_⟩
  cases effect with
  | usbAttach vm node generation plugged reply => exact absurd heffect (hnone _ _ _ _ _)
  | _ => rfl

theorem known_of_stalePort {vm : Vm} {view : String × List LivePort} {port stale : UInt8}
    (h : stale ∈ (w.freshClaim device vm view port).stalePort) :
    w.known device ≠ some (portBinding device vm.name port view.1) := by
  intro hknown
  obtain ⟨hstale, hother⟩ := Option.filter_eq_some_iff.1 h
  rw [hknown, stalePort] at hstale
  obtain ⟨binding, hbinding, hlisted⟩ := Option.bind_eq_some_iff.1 hstale
  obtain ⟨hbinding, -⟩ := Option.filter_eq_some_iff.1 hbinding
  obtain rfl := Option.some.inj hbinding
  obtain ⟨item, hitem, rfl⟩ := Option.map_eq_some_iff.1 hlisted
  have hlists := List.find?_some hitem
  simp only [listsBinding, portBinding, Bool.and_eq_true, beq_iff_eq] at hlists
  simp [hlists.1.1] at hother

theorem wp_attachOneUsb_outcome :
    (attachOneUsb w.daemon device rule requestedVm).wp (machine anyChoice) (fun _ _ => True)
      (fun _ w' => Outcome w device w') w := by
  have hquiet : ∀ w', Before (w.called device rule requestedVm) w' → Outcome w device w' := by
    intro w' h
    obtain ⟨news, hlog, hnews⟩ := quiet_of_before h
    refine .inl ⟨news ++ [.entered (.attachOneUsb device rule requestedVm)], ?_, ?_⟩
    · rw [hlog, List.append_assoc]
      rfl
    · intro effect heffect
      rcases List.mem_append.1 heffect with h | h
      · exact hnews effect h
      · rw [List.mem_singleton.1 h]
        rfl
  refine wp_attachOneUsb trivial (fun _ _ => trivial) (fun _ => ?_) fun _ _ vmName _ => ?_
  · refine wp_imp (wp_before (Program.calls_mono (calls_pending device rule
      (S := fun op => op.Attaches ∧ ∀ vm node, op ≠ .usbAttach vm node) (fun op hop => ?_) ?_)
      fun op hop => ⟨hop, fun _ => trivial⟩)) fun _ w' h => hquiet w' h
    · refine ⟨attaches_of_observes hop, ?_⟩
      rintro vm node rfl
      exact hop
    · exact ⟨trivial, fun _ _ h => by cases h⟩
  refine wp_attachUsbTo_claim (fun _ _ _ => trivial) (fun _ w' h => hquiet w' h)
    fun vm node current armed w₁ _ hvm hnode hclaim => ?_
  have hname : vm.name = vmName := Daemon.vm_name hvm
  subst hname
  have hview : (w₁.view vm ((w.called device rule requestedVm).preflight w.daemon device vm)).1 =
      w₁.generation vm.socket := by
    rw [view_preflight hclaim.before.sockets, World.generation, World.generation,
      hclaim.before.sockets]
  refine wp_claimPort (fun _ _ => trivial) (fun e => ?_) (fun port _ => ?_) fun _ =>
    ⟨trivial, fun c _ => ?_⟩
  · exact wp_rollback_throw (fun _ _ _ _ => trivial) fun w' h =>
      hquiet w' (hclaim.before.trans (.of_approached h))
  · refine wp_imp (wp_before (Program.calls_mono (calls_finishAttach _ _ _ _ _ _)
      fun op hop => ⟨⟨attaches_of_finishes hop, ?_⟩, fun _ => trivial⟩))
      fun _ w' h => hquiet w' (hclaim.before.trans h)
    rintro v n rfl
    exact hop
  obtain ⟨news, hnews, hnone⟩ := quiet_of_before hclaim.before
  -- what is known of the device at the claim is what the call found, unless it was handed over
  have hknown : ∀ binding, w₁.known device = some binding ↔ w.known device = some binding ∧
      ∀ other ∈ w.memory.usbVms.lookup node, other = vm.name := by
    intro binding
    obtain ⟨hsame, hnobody⟩ | ⟨hforgotten, other, hother, hne⟩ := hclaim.remembered
    · rw [World.known, hsame.persistent]
      exact (and_iff_left hnobody).symm
    · rw [hforgotten.known]
      exact iff_of_false (by simp) fun h => hne (h.2 other hother)
  have hcommanded : ∀ reply later w', (react w₁ (.usbAttach vm node) c).2.log =
      .usbAttach vm node (w₁.generation vm.socket) (w₁.bus.plugged node) reply :: w₁.log →
      w'.daemon = w₁.daemon → w'.log = later ++ (react w₁ (.usbAttach vm node) c).2.log →
      (∀ effect ∈ later, effect.attachedNode = none) →
      (∀ port ∈ reply, (Remembered w' device node vm.name port (w₁.generation vm.socket) ↔
        StaleDetached later ∧ (NestedSaved later ∨ w₁.known device =
          some (portBinding device vm.name port (w₁.generation vm.socket))))) →
      Outcome w device w' := by
    intro reply later w' hattach hdaemon hlog hlater hremembered
    refine .inr ⟨vm, node, w₁.generation vm.socket, w₁.bus.plugged node, reply, later,
      news ++ [.entered (.attachOneUsb device rule requestedVm)], hdaemon.trans
        hclaim.before.daemon, hvm, hnode, ?_, hlater, ?_, fun port hport => ?_⟩
    · rw [hlog, hattach, hnews, List.append_assoc]
      rfl
    · intro effect heffect
      rcases List.mem_append.1 heffect with h | h
      · exact hnone effect h
      · rw [List.mem_singleton.1 h]
        rfl
    · rw [hremembered port hport, hknown]
  cases hfail : c.fail
  · simp only [Choice.result, hfail, Bool.false_eq_true, if_false]
    have hended : (finishAttach w.daemon device vm node current (w₁.freshClaim device vm
        (w₁.view vm ((w.called device rule requestedVm).preflight w.daemon device vm))
        c.port)).wp (machine anyChoice) (fun _ _ => True) (fun _ w' => ∃ later,
          Ended device node vm.name (w₁.freshClaim device vm (w₁.view vm
            ((w.called device rule requestedVm).preflight w.daemon device vm)) c.port)
            (react w₁ (.usbAttach vm node) c).2 later w') (react w₁ (.usbAttach vm node) c).2 :=
      wp_finishAttach_ended fun stale hstale => known_of_stalePort hstale
    refine wp_mono (wp_and hended (wp_daemon _)) (fun _ _ _ => trivial) fun _ w' h => ?_
    obtain ⟨⟨later, hend⟩, hdaemon⟩ := h
    refine hcommanded (some c.port) later w' ?_ hdaemon hend.log hend.quiet ?_
    · simp [react, World.record, hfail, Choice.setPorts]
    · intro port hport
      obtain rfl := Option.some.inj hport
      have hremembered := hend.remembered
      simp only [World.freshClaim, hview] at hremembered
      exact hremembered
  · simp only [Choice.result, hfail, if_true]
    refine wp_rollback_throw (fun _ _ _ _ => trivial) fun w' h => ?_
    obtain ⟨later, hlog, hpassing⟩ := h.log
    refine hcommanded none later w' ?_ h.daemon hlog ?_ (by simp)
    · simp [react, World.record, hfail, Choice.setPorts]
    · intro effect heffect
      have hp := hpassing effect heffect
      cases effect <;> first | rfl | exact hp.elim

/-- An attach that finds the device remembered and its port still listed asks for no other. -/
theorem wp_attachOneUsb_reuses {vm : Vm} {node generation : String} {port : UInt8}
    (hremembered : Remembered w device node vm.name port generation)
    (hchosen : w.chosen device rule requestedVm = some vm.name)
    (hvm : w.daemon.vm vm.name = some vm) (hnode : device.deviceNode = some node)
    (hgeneration : w.generation vm.socket = generation)
    (hlisted : (w.ports vm.socket).any (fun item => item.1 == port && showsDevice device item) =
      true) :
    (attachOneUsb w.daemon device rule requestedVm).wp (machine anyChoice)
      (fun _ op => ∀ vm node, op ≠ .usbAttach vm node) (fun _ _ => True) w := by
  have hquiet : ∀ op : Op, op.Observes → ∀ vm node, op ≠ .usbAttach vm node := by
    rintro _ hop vm node rfl
    exact hop
  refine wp_attachOneUsb (by simp) hquiet (fun hnone => ?_) fun _ _ vmName hvmName => ?_
  · rw [hchosen] at hnone
    cases hnone
  obtain rfl : vm.name = vmName := Option.some.inj (hchosen.symm.trans hvmName)
  refine wp_attachUsbTo_claim (fun op hop _ => ne_usbAttach_of_prepares hop)
    (fun _ _ _ => trivial) fun v n current armed w₁ _ hv hn hclaim => ?_
  obtain rfl := Option.some.inj (hvm.symm.trans hv)
  obtain rfl := Option.some.inj (hnode.symm.trans hn)
  have hsame : Approached (w.called device rule requestedVm) w₁ := by
    obtain ⟨hsame, -⟩ | ⟨-, other, hother, hne⟩ := hclaim.remembered
    · exact hsame
    · exact absurd (Option.some.inj (hremembered.holder.symm.trans hother)).symm hne
  have hreusable : w₁.reusable device vm (w₁.view vm
      ((w.called device rule requestedVm).preflight w.daemon device vm)) = some port := by
    have hknown : w₁.known device = some (portBinding device vm.name port generation) := by
      rw [World.known, hsame.persistent]
      exact hremembered.known
    rw [view_preflight_approached hsame, World.reusable, hknown]
    have hlisted' : ((w.called device rule requestedVm).ports vm.socket).any
        (fun item => item.1 == port && showsDevice device item) = true := hlisted
    have hgeneration' : (w.called device rule requestedVm).generation vm.socket = generation :=
      hgeneration
    simp [reusablePort, Option.filter, bindingCurrent, bindingIdentifies, portBinding, hlisted',
      hgeneration']
  refine wp_claimPort (fun op hop => hquiet op hop) (fun e => ?_) (fun _ _ => ?_) fun hfresh => ?_
  · refine wp_rollback_throw (fun op hop _ _ => ?_) fun _ _ => trivial
    exact ne_usbAttach_of_prepares (prepares_of_approaches hop)
  · refine wp_of_footprint (calls_finishAttach _ _ _ _ _ _) (fun op hop _ => ?_) _
    rintro v n rfl
    exact hop
  · rw [hreusable] at hfresh
    cases hfresh

/-- The attach is remembered; so the next one of the device to this VM, over this memory and while
the port is still listed, gives Crosvm no command to attach. -/
def RemembersAttach (w : World) (device : UsbDevice) (vm : Vm) (node : String) (port : UInt8)
    (generation : String) : Prop :=
  Remembered w device node vm.name port generation ∧ ∀ (next : World) rule requestedVm,
    next.daemon = w.daemon → next.memory = w.memory →
    next.chosen device rule requestedVm = some vm.name → next.generation vm.socket = generation →
    (next.ports vm.socket).any (fun item => item.1 == port && showsDevice device item) = true →
    ∀ tr w' o, Exec (machine anyChoice) (attachOneUsb next.daemon device rule requestedVm).run
      next tr w' o → ∀ e ∈ tr, ∀ vm node, e.2 ≠ .usbAttach vm node

/-- A call in which Crosvm handed out a port remembers the attach exactly where neither taking a
stale port back nor a nested save failed; after a failed nested save, also where the binding
recorded earlier happens to name this very port. -/
theorem attach_remembered_iff {tr : List (World × Op)} {w' : World} {r : Except Error Unit}
    {vm : Vm} {node generation : String} {plugged : Option ℕ} {port : UInt8}
    {later earlier : List Effect}
    (hexec : Exec (machine anyChoice) (attachOneUsb w.daemon device rule requestedVm).run w tr w'
      (some r))
    (hlog : w'.log =
      later ++ .usbAttach vm node generation plugged (some port) :: (earlier ++ w.log)) :
    RemembersAttach w' device vm node port generation ↔
      StaleDetached later ∧ (NestedSaved later ∨
        w.known device = some (portBinding device vm.name port generation) ∧
          ∀ other ∈ w.memory.usbVms.lookup node, other = vm.name) := by
  have houtcome := (Program.wp_sound wp_attachOneUsb_outcome hexec).2 r rfl
  obtain ⟨news, hnews, hnone⟩ | ⟨vm', node', generation', plugged', reply, later', earlier', h⟩ :=
    houtcome
  · have hmem : .usbAttach vm node generation plugged (some port) ∈ news := by
      rw [hlog, ← List.cons_append, ← List.append_assoc] at hnews
      rw [← List.append_cancel_right hnews]
      exact List.mem_append_right _ List.mem_cons_self
    cases hnone _ hmem
  · have hsplit := h.log.symm.trans hlog
    rw [← List.cons_append, ← List.append_assoc, ← List.cons_append, ← List.append_assoc] at hsplit
    have hnot : ∀ effects : List Effect, (∀ effect ∈ effects, effect.attachedNode = none) →
        Effect.usbAttach vm node generation plugged (some port) ∉ effects := by
      intro effects heffects hmem
      cases heffects _ hmem
    obtain ⟨rfl, heq, rfl⟩ := (List.append_cons_inj_of_notMem (hnot later' h.after)
      (hnot earlier' h.before)).1 (List.append_cancel_right hsplit)
    obtain ⟨rfl, rfl, rfl, rfl, rfl⟩ := Effect.usbAttach.inj heq.symm
    rw [← h.remembered port rfl]
    refine and_iff_left_of_imp fun hremembered next rule' vm'' hdaemon hmemory hchosen hgeneration
      hlisted tr' w'' o hexec' => ?_
    have hremembered' : Remembered next device node vm.name port generation :=
      (remembered_congr (by rw [hmemory]) (by rw [World.known, hmemory, World.known])).2 hremembered
    have hvm : next.daemon.vm vm.name = some vm := by
      rw [hdaemon, h.daemon]
      exact h.configured
    exact (Program.wp_sound (wp_attachOneUsb_reuses hremembered' hchosen hvm h.hasNode hgeneration
      hlisted) hexec').1

end Call

def attachToGui (pick : World → Op → Choice) (rule : RuleMatch) :
    List (World × Op) × World × Except Error Unit :=
  (attachOneUsb sharedKeyboard.daemon firstKeyboard rule (some "gui-vm")).run.follow react pick
    sharedKeyboard

theorem attach_remembered_sharedKeyboard : ∃ rule ∈ sharedKeyboard.daemon.usbRule firstKeyboard,
    ∃ tr w', Exec (machine anyChoice) (attachOneUsb sharedKeyboard.daemon firstKeyboard rule
        (some "gui-vm")).run sharedKeyboard tr w' (some (.ok ())) ∧
      RemembersAttach w' firstKeyboard guiVm "/dev/bus/usb/001/004" 1 "gui-first" := by
  have hcall : ∃ rule ∈ sharedKeyboard.daemon.usbRule firstKeyboard,
      let log := (attachToGui onPortOne rule).2.1.log
      let later := log.takeWhile fun effect => effect.attachedNode.isNone
      (attachToGui onPortOne rule).2.2.toBool = true ∧ log = later ++
        .usbAttach guiVm "/dev/bus/usb/001/004" "gui-first" (some 0) (some 1) ::
          (log.drop (later.length + 1) ++ sharedKeyboard.log) ∧
        StaleDetached later ∧ NestedSaved later := by decide +kernel
  obtain ⟨rule, hrule, hok, hlog, hdetached, hsaved⟩ := hcall
  have hexec := exec_follow_ok hok
  exact ⟨rule, hrule, _, _, hexec, (attach_remembered_iff hexec hlog).2 ⟨hdetached, .inl hsaved⟩⟩

def saveless : World → Op → Choice
  | _, .save => { fail := true }
  | w, op => onPortOne w op

/-- The save nested in `selectVm` fails, and the port Crosvm handed out is recorded nowhere. -/
theorem attach_forgotten_when_save_fails : Reachable anyChoice sharedKeyboard ∧
    firstKeyboard ∈ sharedKeyboard.usbDevices ∧
    ∃ rule ∈ sharedKeyboard.daemon.usbRule firstKeyboard, ∃ tr w' r,
      Exec (machine anyChoice) (attachOneUsb sharedKeyboard.daemon firstKeyboard rule
        (some "gui-vm")).run sharedKeyboard tr w' (some r) ∧
      .usbAttach guiVm "/dev/bus/usb/001/004" "gui-first" (some 0) (some 1) ∈ w'.log ∧
      ¬RemembersAttach w' firstKeyboard guiVm "/dev/bus/usb/001/004" 1 "gui-first" := by
  refine ⟨.initial (by decide) rfl rfl rfl, by decide +kernel, ?_⟩
  have hcall : ∃ rule ∈ sharedKeyboard.daemon.usbRule firstKeyboard,
      .usbAttach guiVm "/dev/bus/usb/001/004" "gui-first" (some 0) (some 1) ∈
        (attachToGui saveless rule).2.1.log ∧
      (attachToGui saveless rule).2.1.known firstKeyboard = none := by decide +kernel
  obtain ⟨rule, hrule, hattached, hknown⟩ := hcall
  refine ⟨rule, hrule, _, _, _, exec_follow _ saveless _, hattached, fun hremembered => ?_⟩
  rw [RemembersAttach] at hremembered
  cases hknown.symm.trans hremembered.1.known

end GhafDeviceManager
