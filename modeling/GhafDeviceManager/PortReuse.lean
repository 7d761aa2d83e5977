import GhafDeviceManager.Ownership

/-!
# What a recorded port stands for

A binding names a VM instance and a port, not the device node Crosvm was given. Along a run every
record goes back to an attach command for the node of the device it was made for, as long as a
binding is reused only for a device that still has this node.
-/

namespace GhafDeviceManager

open Fallible

def AttachedAt (w : World) (device : UsbDevice) (vmName : String) (port : UInt8)
    (generation : String) : Prop :=
  ∃ vm node plugged, vm.name = vmName ∧ device.deviceNode = some node ∧
    Effect.usbAttach vm node generation plugged (some port) ∈ w.log

/-- The device this binding was last recorded for. -/
def recordedFor (log : List Effect) (sysName : String) (binding : UsbPortBinding) :
    Option UsbDevice :=
  log.findSome? fun
    | .portRecorded device vm port generation =>
      if device.sysName = sysName ∧ portBinding device vm port generation = binding then
        some device
      else none
    | _ => none

/-- A binding the call finds reusable was recorded for the node the device still has. -/
def ReusesUnchanged (w : World) (device : UsbDevice) (rule : RuleMatch)
    (requestedVm : Option String) : Prop :=
  ∀ vmName ∈ w.chosen device rule requestedVm, ∀ node ∈ device.deviceNode,
    (∀ other ∈ w.memory.usbVms.lookup node, other = vmName) → ∀ vm ∈ w.daemon.vm vmName,
    (w.reusable device vm (w.generation vm.socket, w.ports vm.socket)).isSome →
    ∀ binding ∈ w.known device, ∀ recorded ∈ recordedFor w.log device.sysName binding,
      recorded.deviceNode = some node

/-- A port is recorded for the device being attached, at the VM's present instance, where Crosvm
attached the device's node. -/
def RecordsAttached (w : World) : Op → Prop
  | .update (.crosvmUsbPortsInsert device vmName port generation) =>
    device ∈ w.attaching ∧ AttachedAt w device vmName port generation ∧
      ∃ vm ∈ w.daemon.vm vmName, generation = w.generation vm.socket
  | _ => True

/-- What runs keep: every binding was recorded, and every record is of an attached node. -/
structure Recorded (w : World) : Prop where
  memory : ∀ sysName, ∀ binding ∈ w.memory.persistent.crosvmUsbPorts.lookup sysName,
    (recordedFor w.log sysName binding).isSome
  file : ∀ state ∈ w.stateFile, ∀ sysName, ∀ binding ∈ state.crosvmUsbPorts.lookup sysName,
    (recordedFor w.log sysName binding).isSome
  attached : ∀ device vmName port generation,
    Effect.portRecorded device vmName port generation ∈ w.log →
      AttachedAt w device vmName port generation

section Records

variable {log : List Effect} {sysName : String} {binding : UsbPortBinding} {device : UsbDevice}

theorem portRecorded_of_recordedFor (h : recordedFor log sysName binding = some device) :
    ∃ vmName port generation, Effect.portRecorded device vmName port generation ∈ log ∧
      portBinding device vmName port generation = binding := by
  obtain ⟨effect, hmem, heffect⟩ := List.exists_of_findSome?_eq_some h
  cases effect with
  | portRecorded recorded vmName port generation =>
      simp only [Option.ite_none_right_eq_some, Option.some.injEq] at heffect
      obtain ⟨⟨-, hbinding⟩, rfl⟩ := heffect
      exact ⟨vmName, port, generation, hmem, hbinding⟩
  | _ => cases heffect

theorem recordedFor_cons_isSome {effect : Effect}
    (h : (recordedFor log sysName binding).isSome) :
    (recordedFor (effect :: log) sysName binding).isSome := by
  rw [recordedFor, List.findSome?_cons]
  split
  · rfl
  · exact h

theorem AttachedAt.mono {w w' : World} {vmName generation : String} {port : UInt8}
    (h : AttachedAt w device vmName port generation) (hlog : ∀ e ∈ w.log, e ∈ w'.log) :
    AttachedAt w' device vmName port generation := by
  obtain ⟨vm, node, plugged, hvm, hnode, hmem⟩ := h
  exact ⟨vm, node, plugged, hvm, hnode, hlog _ hmem⟩

theorem mem_react_log {effect : Effect} {w : World} (h : effect ∈ w.log) (op : Op) (c : Choice) :
    effect ∈ (react w op c).2.log := by
  obtain hlog | ⟨_, hlog, -⟩ := react_log w op c
  · rwa [hlog]
  · rw [hlog]
    exact List.mem_cons_of_mem _ h

theorem recordedFor_react_isSome {w : World} (h : (recordedFor w.log sysName binding).isSome)
    (op : Op) (c : Choice) : (recordedFor (react w op c).2.log sysName binding).isSome := by
  obtain hlog | ⟨_, hlog, -⟩ := react_log w op c
  · rwa [hlog]
  · rw [hlog]
    exact recordedFor_cons_isSome h

end Records

theorem binding_react {w : World} {op : Op} {c : Choice} {sysName : String}
    {binding : UsbPortBinding}
    (h : binding ∈ (react w op c).2.memory.persistent.crosvmUsbPorts.lookup sysName) :
    binding ∈ w.memory.persistent.crosvmUsbPorts.lookup sysName ∨
      ∃ device vmName port generation,
        op = .update (.crosvmUsbPortsInsert device vmName port generation) ∧
        device.sysName = sysName ∧ portBinding device vmName port generation = binding := by
  cases op with
  | update u =>
      cases u with
      | crosvmUsbPortsInsert device vmName port generation =>
          have h : binding ∈ (w.memory.persistent.crosvmUsbPorts.insert device.sysName
            (portBinding device vmName port generation)).lookup sysName := h
          by_cases hname : sysName = device.sysName
          · subst hname
            rw [AList.lookup_insert, Option.mem_some_iff] at h
            exact .inr ⟨device, vmName, port, generation, rfl, rfl, h⟩
          · rw [AList.lookup_insert_ne hname] at h
            exact .inl h
      | crosvmUsbPortsRemove name =>
          have h : binding ∈ (w.memory.persistent.crosvmUsbPorts.erase name).lookup sysName := h
          by_cases hname : sysName = name
          · subst hname
            rw [AList.lookup_erase] at h
            cases h
          · rw [AList.lookup_erase_ne hname] at h
            exact .inl h
      | _ => exact .inl h
  | authorize name value =>
      simp only [react] at h
      split at h
      · exact .inl h
      · exact .inl h
  | _ => exact .inl h

theorem stateFile_react {w : World} {op : Op} {c : Choice} {state : PersistentState}
    (h : state ∈ (react w op c).2.stateFile) :
    state ∈ w.stateFile ∨ state = w.memory.persistent := by
  cases op with
  | update u => cases u <;> exact .inl h
  | authorize name value =>
      simp only [react] at h
      split at h
      · exact .inl h
      · exact .inl h
  | save =>
      have h : state ∈ (if c.fail then w.stateFile else some w.memory.persistent) := h
      split at h
      · exact .inl h
      · exact .inr (Option.mem_some_iff.1 h).symm
  | _ => exact .inl h

theorem recorded_react {w : World} (h : Recorded w) {op : Op} (hop : RecordsAttached w op)
    (c : Choice) : Recorded (react w op c).2 where
  memory sysName binding hbinding := by
    obtain hold | ⟨device, vmName, port, generation, rfl, hname, hnew⟩ := binding_react hbinding
    · exact recordedFor_react_isSome (h.memory sysName binding hold) op c
    · simp [recordedFor, react, updateEffect, World.record, hname, hnew]
  file state hstate sysName binding hbinding := by
    obtain hold | rfl := stateFile_react hstate
    · exact recordedFor_react_isSome (h.file state hold sysName binding hbinding) op c
    · exact recordedFor_react_isSome (h.memory sysName binding hbinding) op c
  attached device vmName port generation hmem := by
    have hlog : ∀ e ∈ w.log, e ∈ (react w op c).2.log := fun e he => mem_react_log he op c
    obtain heq | ⟨effect, heq, hof⟩ := react_log w op c
    · rw [heq] at hmem
      exact (h.attached device vmName port generation hmem).mono hlog
    · rw [heq] at hmem
      rcases List.mem_cons.1 hmem with rfl | hmem
      · obtain rfl : op = _ := hof
        exact hop.2.1.mono hlog
      · exact (h.attached device vmName port generation hmem).mono hlog

section Attach

variable {allowed : World → Op → Choice → Prop} {w : World} {device : UsbDevice} {d : Daemon}

/-- The tail of an attach records the port it claimed. -/
theorem wp_finishAttach_recordsAttached {vm : Vm} {node : String} {current : Option String}
    {claim : PortClaim} (hattached : AttachedAt w device vm.name claim.port claim.generation)
    (hvm : w.daemon.vm vm.name = some vm) (hgeneration : claim.generation = w.generation vm.socket)
    (hattaching : w.attaching = some device) :
    (finishAttach d device vm node current claim).wp (machine allowed) RecordsAttached
      (fun _ _ => True) w := by
  have hkept : (finishAttach d device vm node current claim).wp (machine allowed) RecordsAttached
      (fun _ w' => AttachedAt w' device vm.name claim.port claim.generation ∧
        w'.daemon = w.daemon ∧ w'.sockets = w.sockets ∧ w'.attaching = some device) w := by
    refine wp_of_calls (calls_finishAttach d device vm node current claim) ?_ ?_
      ⟨hattached, rfl, rfl, hattaching⟩
    · rintro w₁ _ rfl h
      exact h
    · rintro op hop w₁ ⟨hat, hdaemon, hsockets, hcall⟩
      constructor
      · cases op with
        | update u =>
            cases u with
            | crosvmUsbPortsInsert other vmName port generation =>
                obtain ⟨rfl, rfl, rfl, rfl⟩ := hop
                refine ⟨hcall, hat, vm, ?_, ?_⟩
                · rw [hdaemon]
                  exact hvm
                · rw [World.generation, hsockets]
                  exact hgeneration
            | _ => trivial
        | _ => trivial
      · rintro r w₂ ⟨c, _, hreact⟩
        have hw₂ : w₂ = (react w₁ op c).2 := by rw [hreact]
        rw [hw₂, react_daemon, react_sockets, attaching_react (attaches_of_finishes hop)]
        exact ⟨hat.mono fun e he => mem_react_log he op c, hdaemon, hsockets, hcall⟩
  exact wp_imp hkept fun _ _ _ => trivial

/-- One call: a reused port was recorded for this node, and a fresh one is attached with it. -/
theorem wp_attachOneUsb_recordsAttached {rule : RuleMatch} {requestedVm : Option String}
    (hw : Recorded w)
    (hunchanged : ∀ c, allowed w (.enter (.attachOneUsb device rule requestedVm)) c →
      ReusesUnchanged w device rule requestedVm) :
    (attachOneUsb w.daemon device rule requestedVm).wp (machine allowed) RecordsAttached
      (fun _ _ => True) w := by
  have hquiet : ∀ op : Op, op.Observes → ∀ w', RecordsAttached w' op := fun op hop w' => by
    cases op <;> trivial
  refine wp_attachOneUsb trivial (fun op hop => hquiet op hop _) (fun _ => ?_)
    fun c hc vmName hvmName => ?_
  · exact wp_of_footprint (calls_pending device rule hquiet fun _ => trivial)
      (fun op hop => hop) _
  refine wp_attachUsbTo_claim (fun op hop w' => ?_) (fun _ _ _ => trivial)
    fun vm node current armed w' _ hvm hnode hclaim => ?_
  · cases op with
    | update u =>
        cases u with
        | crosvmUsbPortsInsert _ _ _ _ =>
            obtain h | ⟨_, h⟩ := hop
            · exact h.elim
            · exact h.elim
        | _ => trivial
    | _ => trivial
  have hname : vm.name = vmName := Daemon.vm_name hvm
  have hvm' : w'.daemon.vm vm.name = some vm := by
    rw [hclaim.before.daemon, hname]
    exact hvm
  have hattaching : w'.attaching = some device := hclaim.before.attaching
  have hview : (w'.view vm ((w.called device rule requestedVm).preflight w.daemon device vm)).1 =
      w'.generation vm.socket := by
    rw [view_preflight hclaim.before.sockets, World.generation, World.generation,
      hclaim.before.sockets]
  have hrollback : ∀ e w'', wp (machine allowed) RecordsAttached
      (do rollback device armed; throw e) (fun (_ : Except Error Unit) _ => True) w'' := by
    intro e w''
    have hcalls : Calls (fun op => ∀ w, RecordsAttached w op)
        (do rollback device armed; throw e : Act Unit) :=
      calls_bind (calls_rollback fun _ => trivial) fun _ => calls_throw e
    exact wp_of_footprint hcalls (fun op hop => hop) w''
  refine wp_claimPort (fun op hop => hquiet op hop w') (fun e => hrollback e w')
    (fun port hport => ?_) fun hport => ⟨trivial, fun c _ => ?_⟩
  · -- the binding is the one the call found, recorded for the same node
    refine wp_finishAttach_recordsAttached ?_ hvm' hview hattaching
    obtain ⟨hsame, hother⟩ | ⟨hforgotten, -⟩ := hclaim.remembered
    · have hknown : w'.known device = w.known device := by
        rw [World.known, hsame.persistent]
        rfl
      rw [view_preflight_approached hsame] at hport ⊢
      obtain ⟨binding, hbinding, hvmSame, hgeneration, rfl⟩ := exists_of_reusable hport
      rw [hknown] at hbinding
      have hreusable : w.reusable device vm (w.generation vm.socket, w.ports vm.socket) =
          some binding.port := by
        rw [← hport, World.reusable, World.reusable, hknown]
        rfl
      obtain ⟨recorded, hrecorded⟩ := Option.isSome_iff_exists.1
        (hw.memory device.sysName binding hbinding)
      have hsameNode := hunchanged c hc vmName hvmName node hnode hother vm hvm
        (Option.isSome_of_eq_some hreusable) binding hbinding recorded hrecorded
      obtain ⟨v, port, generation, hmem, heq⟩ := portRecorded_of_recordedFor hrecorded
      obtain ⟨vm', node', plugged, hv, hnode', hattach⟩ :=
        hw.attached recorded v port generation hmem
      subst heq
      rw [hsameNode] at hnode'
      obtain rfl := Option.some.inj hnode'
      have hgeneration : generation = w.generation vm.socket := hgeneration
      rw [hgeneration] at hattach
      have hgrown : ∀ e ∈ w.log, e ∈ w'.log := by
        obtain ⟨news, hlog, -⟩ := hsame.log
        intro e he
        rw [hlog]
        exact List.mem_append_right _ (List.mem_cons_of_mem _ he)
      exact AttachedAt.mono ⟨vm', node, plugged, hv.trans hvmSame, hnode, hattach⟩ hgrown
    · obtain ⟨binding, hknown, -⟩ := exists_of_reusable hport
      rw [hforgotten.known] at hknown
      cases hknown
  · cases hfail : c.fail
    · simp only [Choice.result, hfail]
      refine wp_finishAttach_recordsAttached ⟨vm, node, w'.bus.plugged node, rfl, hnode, ?_⟩ hvm'
        hview hattaching
      have hmem : Effect.usbAttach vm node (w'.generation vm.socket) (w'.bus.plugged node)
          (some c.port) ∈ (react w' (.usbAttach vm node) c).2.log := by
        simp [react, World.record, hfail]
      rw [World.freshClaim, hview]
      exact hmem
    · simp only [Choice.result, hfail]
      exact hrollback _ _

theorem operation_keeps_recorded (hunchanged : ∀ w device rule requestedVm c,
    allowed w (.enter (.attachOneUsb device rule requestedVm)) c →
      ReusesUnchanged w device rule requestedVm) (w₀ : World) (o : Operation)
    (hw₀ : Recorded w₀) :
    (o.program w₀.daemon).wp (machine allowed) (fun w op => Recorded w ∧ RecordsAttached w op)
      (fun _ => Recorded) w₀ := by
  have hharmless : ∀ op : Op, (∀ w, RecordsAttached w op) → Harmless allowed
      (fun w op => Recorded w ∧ RecordsAttached w op)
      (fun w => w.daemon = w₀.daemon ∧ Recorded w) op := by
    rintro op hop w ⟨hd, hw⟩
    refine ⟨⟨hw, hop w⟩, fun c _ => ⟨?_, recorded_react hw (hop w) c⟩⟩
    rw [react_daemon, hd]
  have hparts : PartsKeep allowed (fun w op => Recorded w ∧ RecordsAttached w op)
      (fun w => w.daemon = w₀.daemon ∧ Recorded w) w₀.daemon := by
    refine .of_ops (fun op hop => hharmless op fun w => ?_) (fun op hop => hharmless op fun w => ?_)
      (fun op hop => hharmless op fun w => ?_) (fun op hop => hharmless op fun w => ?_)
      (fun op hop => hharmless op fun w => ?_) (fun device rule vm w hw => ?_)
      fun device permanent => ?_
    iterate 4
      · cases op with
        | update u => cases u <;> trivial
        | _ => trivial
    · obtain ⟨_, hop | ⟨_, hop⟩⟩ := hop
      all_goals
        cases op with
        | update u => cases u <;> trivial
        | _ => trivial
    · obtain ⟨hdaemon, hrecorded⟩ := hw
      rw [← hdaemon]
      have hcall := wp_attachOneUsb_recordsAttached hrecorded
        (hunchanged w device rule vm)
      refine wp_mono (Program.wp_invariant (I := fun w' => w'.daemon = w.daemon ∧ Recorded w')
        hcall ?_ ?_ ⟨rfl, hrecorded⟩) (fun w' op h => ⟨h.1.2, h.2⟩)
        fun _ w' h => h.1
      · rintro w₁ _ rfl h
        exact h
      · rintro w₁ op ⟨hd, hrec⟩ hop r w₂ ⟨c, _, hreact⟩
        have hkept := recorded_react hrec hop c
        have hsame := react_daemon w₁ op c
        rw [hreact] at hkept hsame
        exact ⟨hsame.trans hd, hkept⟩
    · refine keeps_of_harmless (calls_detachOneUsb (hharmless _ fun _ => trivial)
        (fun op hop => hharmless op fun w => ?_) (fun vm port => hharmless _ fun _ => trivial)
        fun node _ op hop => hharmless op fun w => ?_)
      · cases op <;> trivial
      · cases op with
        | update u => cases u <;> trivial
        | _ => trivial
  exact wp_imp (hparts.operation_keeps o w₀ ⟨rfl, hw₀⟩) fun _ _ h => h.2

theorem recorded_restart {w : World} (h : Recorded w) (d : Daemon) : Recorded (w.restart d) where
  memory sysName binding hbinding := by
    by_cases hpersistency : d.config.persistency = true
    · have hbinding : binding ∈ (w.stateFile.getD {}).crosvmUsbPorts.lookup sysName := by
        simpa [World.restart, Memory.load, hpersistency] using hbinding
      cases hfile : w.stateFile with
      | none =>
          rw [hfile] at hbinding
          cases hbinding
      | some state =>
          rw [hfile] at hbinding
          exact h.file state hfile sysName binding hbinding
    · simp [World.restart, Memory.load, hpersistency] at hbinding
  file := h.file
  attached := h.attached

theorem recorded_of_reachable (hunchanged : ∀ w device rule requestedVm c,
    allowed w (.enter (.attachOneUsb device rule requestedVm)) c →
      ReusesUnchanged w device rule requestedVm) (h : Reachable allowed w) : Recorded w := by
  refine h.invariant (G := fun w op => Recorded w ∧ RecordsAttached w op) (fun d _ => ?_)
    (fun w w' hsame hw => ?_) (fun w d hw => ?_) fun w o hw =>
      operation_keeps_recorded hunchanged w o hw
  · constructor
    · rintro sysName binding ⟨⟩
    · rintro state ⟨⟩
    · rintro device vmName port generation ⟨⟩
  · constructor
    · rw [hsame.memory, hsame.log]
      exact hw.memory
    · rw [hsame.stateFile, hsame.log]
      exact hw.file
    · intro device vmName port generation hmem
      rw [hsame.log] at hmem
      exact (hw.attached device vmName port generation hmem).mono fun e he => hsame.log ▸ he
  · obtain hw | ⟨_, hw, -⟩ := hw
    · exact recorded_restart hw d
    · exact recorded_restart hw d

/-- In runs whose attach calls reuse a binding only for the node it was recorded for, every port
that is recorded is one where the present instance of the VM was given the device's node. The
binding keeps the ids of a device and not its node, so the code itself cannot tell. -/
theorem attach_records_attached_port (hunchanged : ∀ w device rule requestedVm c,
    allowed w (.enter (.attachOneUsb device rule requestedVm)) c →
      ReusesUnchanged w device rule requestedVm) {vmName generation : String} {port : UInt8}
    (h : Issued allowed w (.update (.crosvmUsbPortsInsert device vmName port generation))) :
    device ∈ w.attaching ∧ AttachedAt w device vmName port generation ∧
      ∃ vm ∈ w.daemon.vm vmName, generation = w.generation vm.socket :=
  (h.guarantee (fun _ => recorded_of_reachable hunchanged) fun w o hw =>
    operation_keeps_recorded hunchanged w o hw).2

end Attach

instance (w : World) (device : UsbDevice) (rule : RuleMatch) (requestedVm : Option String) :
    Decidable (ReusesUnchanged w device rule requestedVm) := by
  unfold ReusesUnchanged
  infer_instance

def reusesUnchanged (w : World) : Op → Choice → Prop
  | .enter (.attachOneUsb device rule requestedVm), _ =>
    ReusesUnchanged w device rule requestedVm
  | _, _ => True

instance (w : World) (op : Op) (c : Choice) : Decidable (reusesUnchanged w op c) := by
  delta reusesUnchanged
  induction op using Op.casesOn with
  | enter entry => induction entry using Entry.casesOn <;> infer_instance
  | _ => infer_instance

def Op.recordedPort : Op → Option (UsbDevice × String × UInt8 × String)
  | .update (.crosvmUsbPortsInsert device vm port generation) =>
    some (device, vm, port, generation)
  | _ => none

theorem Op.eq_crosvmUsbPortsInsert {op : Op} {device : UsbDevice} {vm generation : String}
    {port : UInt8} (h : op.recordedPort = some (device, vm, port, generation)) :
    op = .update (.crosvmUsbPortsInsert device vm port generation) := by
  cases op with
  | update u =>
      cases u with
      | crosvmUsbPortsInsert d v p g =>
          cases h
          rfl
      | _ => cases h
  | _ => cases h

/-- Attached, and attached again through the binding of the first time. -/
theorem attach_records_attached_port_again : ∃ w,
    Issued (fun w op c => reusesUnchanged w op c) w
      (.update (.crosvmUsbPortsInsert firstKeyboard "gui-vm" 1 "gui-first")) ∧
      AttachedAt w firstKeyboard "gui-vm" 1 "gui-first" := by
  have hfirst : ∀ e ∈ sharedKeyboard.trace onPortOne toGui,
      reusesUnchanged e.1 e.2 (onPortOne e.1 e.2) := by decide +kernel
  have hagain : ∀ e ∈ (sharedKeyboard.perform onPortOne toGui).trace onPortOne toGui,
      reusesUnchanged e.1 e.2 (onPortOne e.1 e.2) := by decide +kernel
  have hinitial : Reachable (fun w op c => reusesUnchanged w op c) sharedKeyboard :=
    .initial (by decide) rfl rfl rfl
  have hcall : ∃ e ∈ (sharedKeyboard.perform onPortOne toGui).trace onPortOne toGui,
      e.2.recordedPort = some (firstKeyboard, "gui-vm", 1, "gui-first") := by decide +kernel
  obtain ⟨⟨w, op⟩, he, hop⟩ := hcall
  obtain rfl := Op.eq_crosvmUsbPortsInsert hop
  have hissued := (hinitial.perform onPortOne toGui hfirst).issued onPortOne toGui hagain he
  exact ⟨w, hissued, (attach_records_attached_port (fun w device rule vm c h => h) hissued).2.1⟩

/-- The keyboard was attached and has come back with another number; the list still shows its
port. -/
def renumberedKeyboard : World :=
  { sharedKeyboard.perform onPortOne toGui with bus := { entries := [keyboard "1-1" "5"] } }

theorem reachable_renumberedKeyboard : Reachable anyChoice renumberedKeyboard := by
  have hinitial : Reachable anyChoice sharedKeyboard := .initial (by decide) rfl rfl rfl
  exact (hinitial.perform onPortOne toGui fun _ _ => trivial).surroundings ⟨rfl, rfl, rfl, rfl⟩

def renumbered : UsbDevice := usbDeviceOf Host.plain.hwdb [] (keyboard "1-1" "5")

def Effect.attachedNode : Effect → Option String
  | .usbAttach _ node _ _ _ => some node
  | _ => none

theorem not_attachedAt {w : World} {device : UsbDevice} {vmName generation : String}
    {port : UInt8} (h : ∀ effect ∈ w.log, effect.attachedNode = none ∨
      effect.attachedNode ≠ device.deviceNode) :
    ¬AttachedAt w device vmName port generation := by
  rintro ⟨vm, node, plugged, -, hnode, hmem⟩
  obtain hnone | hother := h _ hmem
  · cases hnone
  · exact hother hnode.symm

/-- The call reuses the port, reports success, and Crosvm was never given the node. -/
theorem attach_records_unattached_port : Reachable anyChoice renumberedKeyboard ∧
    renumbered ∈ renumberedKeyboard.usbDevices ∧
    ∃ rule ∈ renumberedKeyboard.daemon.usbRule renumbered, ∃ tr w',
      Exec (machine anyChoice) (attachOneUsb renumberedKeyboard.daemon renumbered rule
        (some "gui-vm")).run renumberedKeyboard tr w' (some (.ok ())) ∧
      ∃ binding ∈ w'.known renumbered,
        ¬AttachedAt w' renumbered binding.vm binding.port binding.socketGeneration := by
  refine ⟨reachable_renumberedKeyboard, by decide +kernel, ?_⟩
  have hcall : ∃ rule ∈ renumberedKeyboard.daemon.usbRule renumbered,
      let call := (attachOneUsb renumberedKeyboard.daemon renumbered rule
        (some "gui-vm")).run.follow react onPortOne renumberedKeyboard
      call.2.2.toBool = true ∧ (call.2.1.known renumbered).isSome ∧
        ∀ effect ∈ call.2.1.log, effect.attachedNode = none ∨
          effect.attachedNode ≠ renumbered.deviceNode := by decide +kernel
  obtain ⟨rule, hrule, hok, hknown, hnode⟩ := hcall
  obtain ⟨binding, hbinding⟩ := Option.isSome_iff_exists.1 hknown
  exact ⟨rule, hrule, _, _, exec_follow_ok hok, binding, hbinding, not_attachedAt hnode⟩

end GhafDeviceManager
