import GhafDeviceManager.Executions
import GhafDeviceManager.Parts
import GhafDeviceManager.Remembering

/-!
# What a clean pass leaves behind

A pass that came through without a deferral recorded every device it could attach. Its loop
swallows the failure of an attach only where it defers, and no round takes back what an earlier
one recorded.
-/

namespace GhafDeviceManager

open Fallible

/-- The device is recorded with the VM, under its node and under its name. -/
structure Memory.Holds (m : Memory) (device : UsbDevice) (vm : String) : Prop where
  node : ∃ node, device.deviceNode = some node ∧ m.usbVms.lookup node = some vm
  port : ∃ binding, m.persistent.crosvmUsbPorts.lookup device.sysName = some binding ∧
    binding.vm = vm

/-! ## One attach -/

section Attach

variable {d : Daemon} {device : UsbDevice} {rule : RuleMatch} {admits : Op → Prop} {m : Memory}

theorem wp_recordAttachment_holds {vmName node : String} {claim : PortClaim}
    (hnode : device.deviceNode = some node) :
    wp (remembering admits) (fun _ _ => True) (recordAttachment d device vmName node claim)
      (fun r m' => r = .ok () → m'.Holds device vmName) m := by
  refine wp_withLock_remembering (fun _ => trivial) (fun _ => trivial) ?_
  rw [wp_bind, update, wp_remembering]
  refine ⟨trivial, fun _ _ _ => ?_⟩
  rw [andThen_ok]
  have hrecorded : (Op.remember (.update (.usbVmsInsert node vmName)) m).usbVms.lookup node =
      some vmName := AList.lookup_insert _
  refine wp_bind_keeping (I := fun m => m.usbVms.lookup node = some vmName)
    (calls_selectVm (fun _ h => h) fun _ h => h) (fun _ _ => nofun) (fun _ m₁ h₁ => ?_) hrecorded
  refine wp_bind_keeping (I := fun m => m.usbVms.lookup node = some vmName)
    (calls_setDisconnected (fun _ h => h) fun _ h => h) (fun _ _ => nofun) (fun _ m₂ h₂ => ?_) h₁
  rw [wp_bind, update, wp_remembering]
  refine ⟨trivial, fun _ _ _ => ?_⟩
  rw [andThen_ok]
  have hholds : (Op.remember (.update (.crosvmUsbPortsInsert device vmName claim.port
      claim.generation)) m₂).Holds device vmName := by
    refine ⟨⟨node, hnode, h₂⟩, portBinding device vmName claim.port claim.generation, ?_, rfl⟩
    exact AList.lookup_insert _
  exact wp_imp (wp_keeping (calls_saveState fun _ h => h) hholds) fun _ _ h _ => h

theorem wp_finishAttach_holds {vm : Vm} {node : String} {current : Option String}
    {claim : PortClaim} (hnode : device.deviceNode = some node) :
    wp (remembering admits) (fun _ _ => True) (finishAttach d device vm node current claim)
      (fun r m' => r = .ok () → m'.Holds device vm.name) m := by
  have hrecord : ∀ m, wp (remembering admits) (fun _ _ => True) (do
      recordAttachment d device vm.name node claim
      update (.pendingRemove device.persistentId)
      if current ≠ some vm.name ∨ claim.attached then
        notify (.usbAttached device vm.name))
      (fun r m' => r = .ok () → m'.Holds device vm.name) m := by
    intro m
    rw [wp_bind]
    refine wp_imp (wp_recordAttachment_holds hnode) fun r m' h => ?_
    cases r with
    | error e => nofun
    | ok _ =>
        rw [andThen_ok]
        have hrest : Calls (fun op => ∀ m : Memory, m.Holds device vm.name →
            (op.remember m).Holds device vm.name) (do
              update (.pendingRemove device.persistentId)
              if current ≠ some vm.name ∨ claim.attached then
                notify (.usbAttached device vm.name)) := by
          refine calls_bind (calls_request fun m h => ⟨h.node, h.port⟩) fun _ => ?_
          exact calls_ite (calls_request fun _ h => h) trivial
        exact wp_imp (wp_keeping hrest (h rfl)) fun _ _ h _ => h
  unfold finishAttach
  cases claim.stalePort with
  | none => exact hrecord m
  | some stale => exact wp_bind_any (fun _ _ => nofun) (fun _ => hrecord) m

variable (hhub : ¬admits (.update (.reportedInsert device.persistentId)))

include hhub

/-- Where no hub is reported, none was met. -/
theorem wp_releaseHostDrivers_clean (names : List String) (m : Memory) :
    wp (remembering admits) (fun _ _ => True) (releaseHostDrivers device names)
      (fun r _ => r ≠ .ok true) m := by
  induction names generalizing m with
  | nil => simp [releaseHostDrivers]
  | cons interface rest ih =>
      rw [releaseHostDrivers, wp_bind, driver, wp_remembering]
      refine ⟨trivial, fun _ reply _ => ?_⟩
      rw [andThen_ok]
      cases reply with
      | none => exact ih _
      | some name =>
          dsimp only
          split
          · rw [wp_bind, insertReported, update, wp_remembering]
            exact ⟨trivial, fun h => absurd h hhub⟩
          · split
            · exact wp_bind_any (fun _ _ => nofun) (fun _ => ih) _
            · exact ih _

theorem wp_claimUsb_clean {vm : Vm} {node : String} {seen : Option (String × List LivePort)} :
    wp (remembering admits) (fun _ _ => True) (claimUsb device vm node seen)
      (fun r _ => r ≠ .ok none) m := by
  refine wp_bind_any (fun _ _ => nofun) (fun _ => wp_bind_any (fun _ _ => nofun)
    fun names m => ?_) m
  rw [wp_bind]
  refine wp_imp (wp_releaseHostDrivers_clean hhub names m) fun r m' h => ?_
  match r with
  | .error e => nofun
  | .ok true => exact absurd rfl h
  | .ok false => exact wp_bind_any (fun _ _ => nofun) (fun _ _ => by simp) m'

theorem wp_attachAuthorized_holds {vm : Vm} {node : String} {current : Option String}
    {seen : Option (String × List LivePort)} (hnode : device.deviceNode = some node) :
    wp (remembering admits) (fun _ _ => True) (attachAuthorized d device vm node current seen)
      (fun r m' => r = .ok () → m'.Holds device vm.name) m := by
  refine wp_bind_any (fun _ _ => nofun) (fun armed m => ?_) m
  rw [wp_bind, wp_attempt]
  refine wp_imp (wp_claimUsb_clean hhub) fun r m' h => ?_
  rw [andThen_ok]
  match r with
  | .error e => exact wp_bind_any (fun _ _ => nofun) (fun _ _ => by simp) m'
  | .ok none => exact absurd rfl h
  | .ok (some claim) => exact wp_finishAttach_holds hnode

/-- An attach that settles on a VM and comes through without meeting a hub records the device. -/
theorem wp_attachOneUsb_holds {requestedVm : Option String} {vmName : String}
    (hchosen : chooseVm requestedVm rule m.persistent.selectedVms device.persistentId =
      some vmName) :
    wp (remembering admits) (fun _ _ => True) (attachOneUsb d device rule requestedVm)
      (fun r m' => r = .ok () → m'.Holds device vmName) m := by
  rw [attachOneUsb, wp_bind, enter, wp_remembering]
  refine ⟨trivial, fun _ _ _ => ?_⟩
  rw [andThen_ok, wp_bind, readMemory, wp_remembering]
  refine ⟨trivial, fun _ m₁ hread => ?_⟩
  obtain rfl : m₁ = m := hread
  rw [andThen_ok, hchosen]
  have hrest : ∀ vm : Vm, vm.name = vmName → ∀ m, wp (remembering admits) (fun _ _ => True) (do
      let seen ← preflight d device vm
      let node ← require "USB device has no device node" device.deviceNode
      let current := (← readMemory .state).usbVms.lookup node
      handOver d device current vmName
      attachAuthorized d device vm node current seen)
      (fun r m' => r = .ok () → m'.Holds device vmName) m := by
    rintro vm rfl
    refine wp_bind_any (fun _ _ => nofun) fun seen m => ?_
    rw [wp_bind, wp_require]
    cases hnode : device.deviceNode with
    | none => nofun
    | some node =>
        rw [Option.elim_some, andThen_ok]
        refine wp_bind_any (fun _ _ => nofun) (fun m' => wp_bind_any (fun _ _ => nofun)
          fun _ m => ?_) m
        exact wp_attachAuthorized_holds hhub hnode
  dsimp only
  rw [attachUsbTo]
  split
  · nofun
  · rw [wp_bind, Daemon.vmNamed, wp_require]
    cases hvm : d.vm vmName with
    | none => nofun
    | some vm =>
        rw [Option.elim_some, andThen_ok]
        have hname : vm.name = vmName := Daemon.vm_name hvm
        dsimp only
        split
        · refine wp_bind_any (fun _ _ => nofun) (fun generation m => ?_) _
          split
          · nofun
          · exact hrest vm hname m
        · exact hrest vm hname _

end Attach

/-! ## One round -/

section Round

variable {d : Daemon} {device : UsbDevice} {rule : RuleMatch} {admits : Op → Prop} {m : Memory}

/-- The VM a resume asks for is the one an attach settles on by itself. -/
theorem chooseVm_resumeTarget (rule : RuleMatch) (selectedVms : Map String) (id : String) :
    chooseVm (resumeTarget rule selectedVms id) rule selectedVms id =
      chooseVm none rule selectedVms id := by
  unfold chooseVm resumeTarget
  cases rule.targetVm with
  | some name => rfl
  | none => cases selectedVms.lookup id <;> rfl

theorem wp_vmStopped_remembering {target : Option String} {post : Except Error Bool → Memory → Prop}
    (h : ∀ stopped, post (.ok stopped) m) :
    wp (remembering admits) (fun _ _ => True) (vmStopped d target) post m := by
  unfold vmStopped
  split
  · exact h false
  · rw [wp_bind, socketGeneration, wp_remembering]
    exact ⟨trivial, fun _ generation _ => h _⟩

theorem wp_collectDeferring_clean {name : String} {target : Option String} {p : Act Unit}
    {failures : List String} {Q : Memory → Prop}
    (hp : wp (remembering admits) (fun _ _ => True) p (fun r m' => r = .ok () → Q m') m) :
    wp (remembering admits) (fun _ _ => True) (collectDeferring d name target p failures)
      (fun r m' => ∀ l, r = .ok l → failures <+: l ∧ (l = failures → m'.deferred = false → Q m'))
      m := by
  rw [collectDeferring, wp_bind, wp_attempt]
  refine wp_imp hp fun r m₁ h => ?_
  rw [andThen_ok]
  cases r with
  | ok _ =>
      intro l hl
      obtain rfl := Except.ok.inj hl
      exact ⟨List.prefix_rfl, fun _ _ => h rfl⟩
  | error e =>
      dsimp only
      rw [wp_bind]
      refine wp_vmStopped_remembering fun stopped => ?_
      rw [andThen_ok]
      cases stopped with
      | true =>
          rw [if_pos rfl, wp_bind, update, wp_remembering]
          refine ⟨trivial, fun _ _ _ => ?_⟩
          intro l hl
          obtain rfl := Except.ok.inj hl
          refine ⟨List.prefix_rfl, fun _ hdeferred => ?_⟩
          cases hdeferred
      | false =>
          intro l hl
          obtain rfl := Except.ok.inj hl
          refine ⟨List.prefix_append _ _, fun hsame => ?_⟩
          simp at hsame

/-- A round only adds to the failures. Where it adds none and nothing is deferred, the device is
recorded with the VM of its choice. -/
theorem wp_resumeUsbDevice_clean (admits : Op → Prop) {failures : List String} :
    wp (remembering admits) (fun _ _ => True) (resumeUsbDevice d none failures device rule)
      (fun r m' => ∀ l, r = .ok l → failures <+: l ∧ (l = failures → m'.deferred = false →
        m.persistent.disconnected device.persistentId = false →
        ¬admits (.update (.reportedInsert device.persistentId)) →
        ∀ vm, chooseVm none rule m.persistent.selectedVms device.persistentId = some vm →
          m'.Holds device vm)) m := by
  have hattach : ∀ target, target = resumeTarget rule m.persistent.selectedVms device.persistentId →
      wp (remembering admits) (fun _ _ => True) (attachOneUsb d device rule target)
        (fun r m' => r = .ok () →
          m.persistent.disconnected device.persistentId = false →
          ¬admits (.update (.reportedInsert device.persistentId)) →
          ∀ vm, chooseVm none rule m.persistent.selectedVms device.persistentId = some vm →
            m'.Holds device vm) m := by
    rintro target rfl
    by_cases hhub : admits (.update (.reportedInsert device.persistentId))
    case pos =>
      exact wp_imp (wp_keeping (I := fun _ => True) (Program.calls_mono (Program.calls_top _)
        fun _ _ _ h => h) trivial) fun _ _ _ _ _ h => absurd hhub h
    case neg =>
      cases hchosen : chooseVm none rule m.persistent.selectedVms device.persistentId with
      | none =>
          exact wp_imp (wp_keeping (I := fun _ => True) (Program.calls_mono (Program.calls_top _)
            fun _ _ _ h => h) trivial) fun _ _ _ _ _ _ _ => nofun
      | some vm =>
          rw [← chooseVm_resumeTarget] at hchosen
          refine wp_imp (wp_attachOneUsb_holds hhub hchosen) fun r m' h hr _ _ vm' hvm' => ?_
          obtain rfl := Option.some.inj hvm'
          exact h hr
  have hcollect : ∀ target,
      target = resumeTarget rule m.persistent.selectedVms device.persistentId →
      wp (remembering admits) (fun _ _ => True) (do
        if inScope none target then
          collectDeferring d device.sysName target (attachOneUsb d device rule target) failures
        else return failures) (fun r m' => ∀ l, r = .ok l → failures <+: l ∧
          (l = failures → m'.deferred = false →
            m.persistent.disconnected device.persistentId = false →
            ¬admits (.update (.reportedInsert device.persistentId)) →
            ∀ vm, chooseVm none rule m.persistent.selectedVms device.persistentId = some vm →
              m'.Holds device vm)) m := by
    intro target htarget
    rw [if_pos (by cases target <;> rfl)]
    exact wp_collectDeferring_clean (hattach target htarget)
  rw [resumeUsbDevice, wp_bind, readMemory, wp_remembering]
  refine ⟨trivial, fun _ m₁ hread => ?_⟩
  obtain rfl : m₁ = m := hread
  rw [andThen_ok]
  split
  case isTrue hdisconnected =>
    intro l hl
    obtain rfl := Except.ok.inj hl
    refine ⟨List.prefix_rfl, fun _ _ hconnected => ?_⟩
    rw [hconnected] at hdisconnected
    cases hdisconnected
  case isFalse =>
    have htarget : ∀ name, rule.targetVm = some name →
        some name = resumeTarget rule m₁.persistent.selectedVms device.persistentId := by
      intro name h
      rw [resumeTarget, h]
      rfl
    dsimp only
    split
    case h_1 name hname => exact hcollect _ (htarget name hname)
    case h_2 hname =>
      rw [wp_bind, wp_remembering]
      refine ⟨trivial, fun _ m₂ hread => ?_⟩
      obtain rfl : m₂ = m₁ := hread
      refine hcollect _ ?_
      rw [resumeTarget, hname]
      rfl

def Op.KeepsDeferral (op : Op) : Prop :=
  ∀ m : Memory, m.deferred = true → (op.remember m).deferred = true

theorem keepsDeferral_of_assigns {op : Op} (h : op.Assigns device) : op.KeepsDeferral := by
  intro m hm
  cases op with
  | update u => cases u <;> first | exact hm | exact h.elim
  | _ => exact hm

/-- What another device's record is to an attach. -/
theorem holds_of_assigns {op : Op} {other : UsbDevice} {vm : String} (h : op.Assigns other)
    (hname : device.sysName ≠ other.sysName)
    (hnode : ∀ node, device.deviceNode = some node → other.deviceNode ≠ some node)
    (hm : m.Holds device vm) : (op.remember m).Holds device vm := by
  obtain ⟨⟨node, hdevice, hlookup⟩, binding, hport, hvm⟩ := hm
  have hother : ∀ n, other.deviceNode = some n → node ≠ n := by
    rintro n hn rfl
    exact hnode node hdevice hn
  cases op with
  | update u =>
      cases u with
      | usbVmsInsert n v =>
          refine ⟨⟨node, hdevice, ?_⟩, binding, hport, hvm⟩
          exact (AList.lookup_insert_ne (hother n h)).trans hlookup
      | usbVmsRemove n =>
          refine ⟨⟨node, hdevice, ?_⟩, binding, hport, hvm⟩
          exact (AList.lookup_erase_ne (hother n h)).trans hlookup
      | crosvmUsbPortsInsert owner v port generation =>
          obtain rfl : owner = other := h
          refine ⟨⟨node, hdevice, hlookup⟩, binding, ?_, hvm⟩
          exact (AList.lookup_insert_ne hname).trans hport
      | crosvmUsbPortsRemove sysName =>
          obtain rfl : sysName = other.sysName := h
          refine ⟨⟨node, hdevice, hlookup⟩, binding, ?_, hvm⟩
          exact (AList.lookup_erase_ne hname).trans hport
      | _ => exact ⟨⟨node, hdevice, hlookup⟩, binding, hport, hvm⟩
  | _ => exact ⟨⟨node, hdevice, hlookup⟩, binding, hport, hvm⟩

end Round

/-! ## The pass -/

/-- The names of a directory are distinct, and so are the numbers of devices on a bus. -/
def DistinctDevices (devices : List UsbDevice) : Prop :=
  devices.Pairwise fun a b => a.sysName ≠ b.sysName ∧
    ∀ node ∈ a.deviceNode, b.deviceNode ≠ some node

instance (devices : List UsbDevice) : Decidable (DistinctDevices devices) := by
  unfold DistinctDevices
  infer_instance

def resumeRound (d : Daemon) (failures : List String) (x : UsbDevice × RuleMatch) :
    Act (List String) :=
  resumeUsbDevice d none failures x.1 x.2

/-- `resume_usb` at one device of its scan: those before it are through at `u`, its round makes
`calls`, and those after it go on from `u'`. -/
def ResumeRound {V : Type} (M : Machine Op Reply V) (d : Daemon) (tr : List (V × Op))
    (before : List (UsbDevice × RuleMatch)) (x : UsbDevice × RuleMatch)
    (after : List (UsbDevice × RuleMatch)) (u : V) (calls : List (V × Op)) (u' : V) : Prop :=
  ∃ opening first last closing v v' failures failures',
    tr = opening ++ (first ++ (calls ++ last)) ++ closing ∧
      opening.map Prod.snd =
        [.lock .operation, .scanUsb, .enter (.resumeUsb (before ++ x :: after))] ∧
      Exec M (before.foldlM (resumeRound d) []).run v first u (some (.ok failures)) ∧
      Exec M (resumeRound d failures x).run u calls u' (some (.ok failures')) ∧
      Exec M (after.foldlM (resumeRound d) failures').run u' last v' (some (.ok []))

section Pass

variable {V : Type} {M : Machine Op Reply V} {memory : V → Memory} {d : Daemon} {v v' : V}
  {tr : List (V × Op)}

theorem exec_withLock {α : Type} {lock : Lock} {p : Act α} {r : Except Error α}
    (h : Exec M (withLock lock p).run v tr v' (some r)) :
    ∃ v₁ v₂ e tr' e', Exec M (Fallible.request (.lock lock) fun _ => .ok () : Act Unit).run v [e] v₁
        (some (.ok ())) ∧ Exec M p.run v₁ tr' v₂ (some r) ∧
      Exec M (Fallible.request (.unlock lock) fun _ => .ok () : Act Unit).run v₂ [e'] v'
        (some (.ok ())) ∧ e.2 = .lock lock ∧ e'.2 = .unlock lock ∧ tr = e :: (tr' ++ [e']) := by
  obtain ⟨hnone, -⟩ | ⟨tr₁, tr', v₁, r₁, hlock, hrest, rfl⟩ := Exec.bind_inv h
  · cases hnone
  obtain ⟨u, _, _, _, rfl, rfl⟩ := exec_request_inv hlock
  obtain ⟨hnone, -⟩ | ⟨tr₂, tr₃, v₂, r₂, hp, hend, rfl⟩ := Exec.bind_inv hrest
  · cases hnone
  cases r₂ with
  | error e =>
      obtain ⟨hnone, -⟩ | ⟨_, _, _, _, _, hpure, _⟩ := Exec.bind_inv hp
      · cases hnone
      · cases hpure
  | ok result =>
      obtain ⟨hnone, -⟩ | ⟨tr₄, tr₅, v₃, r₃, hunlock, hlast, rfl⟩ := Exec.bind_inv hend
      · cases hnone
      obtain ⟨u', _, _, _, rfl, rfl⟩ := exec_request_inv hunlock
      have hsame : r = result ∧ v' = v₃ ∧ tr₅ = [] := by
        cases result with
        | ok a =>
            cases hlast with
            | done => exact ⟨rfl, rfl, rfl⟩
        | error e =>
            cases hlast with
            | done => exact ⟨rfl, rfl, rfl⟩
      obtain ⟨rfl, rfl, rfl⟩ := hsame
      exact ⟨v₁, v₂, (u, .lock lock), tr₂, (u', .unlock lock), hlock, exec_attempt hp, hunlock, rfl,
        rfl, by simp⟩

theorem exec_withLock_ok {α : Type} {lock : Lock} {p : Act α} {a : α}
    (h : Exec M (withLock lock p).run v tr v' (some (.ok a))) :
    ∃ v₁ v₂ e tr' e', Exec M p.run v₁ tr' v₂ (some (.ok a)) ∧
      Exec M (Fallible.request (.unlock lock) fun _ => .ok () : Act Unit).run v₂ [e'] v'
        (some (.ok ())) ∧ e.2 = .lock lock ∧ tr = e :: (tr' ++ [e']) := by
  obtain ⟨v₁, v₂, e, tr', e', -, hp, hunlock, he, -, htr⟩ := exec_withLock h
  exact ⟨v₁, v₂, e, tr', e', hp, hunlock, he, htr⟩

theorem exec_aggregate_ok {failures : List String}
    (h : Exec M (aggregate failures).run v tr v' (some (.ok ()))) :
    failures = [] ∧ v' = v ∧ tr = [] := by
  unfold aggregate at h
  split at h
  case isTrue hempty =>
    obtain ⟨-, rfl, rfl⟩ := exec_pure h
    exact ⟨List.isEmpty_iff.1 hempty, rfl, rfl⟩
  case isFalse => cases h

theorem exec_collect_nil {name : String} {p : Act Unit} {failures : List String}
    (h : Exec M (collect name p failures).run v tr v' (some (.ok []))) :
    failures = [] ∧ Exec M p.run v tr v' (some (.ok ())) := by
  obtain ⟨r, v₁, tr₁, tr₂, hp, hend, rfl⟩ := exec_bind_ok h
  cases r with
  | ok _ =>
      obtain ⟨hnil, rfl, rfl⟩ := exec_pure hend
      exact ⟨hnil.symm, by rw [List.append_nil]; exact exec_attempt hp⟩
  | error e =>
      obtain ⟨hnil, -, -⟩ := exec_pure hend
      simp at hnil

/-- A loop of rounds that ended without failures began each without. -/
theorem exec_rounds_grow (hM : Remembers M memory) {devices : List (UsbDevice × RuleMatch)}
    {failures failures' : List String}
    (h : Exec M (devices.foldlM (resumeRound d) failures).run v tr v' (some (.ok failures'))) :
    failures <+: failures' := by
  induction devices generalizing failures v tr with
  | nil =>
      obtain ⟨rfl, -, -⟩ := exec_pure h
      exact List.prefix_rfl
  | cons x rest ih =>
      rw [List.foldlM_cons] at h
      obtain ⟨failures₁, v₁, tr₁, tr₂, hround, hrest, rfl⟩ := exec_bind_ok h
      have hfirst := (Program.wp_remembered hM (wp_resumeUsbDevice_clean fun _ => True)
        hround fun _ _ => trivial).2 _ rfl
      exact (hfirst failures₁ rfl).1.trans (ih hrest)

theorem exec_rounds_keep (hM : Remembers M memory) {devices : List (UsbDevice × RuleMatch)}
    {failures : List String} {I : Memory → Prop} {r : Except Error (List String)}
    (hround : ∀ failures, ∀ x ∈ devices,
      Calls (fun op => ∀ m, I m → I (op.remember m)) (resumeRound d failures x))
    (h : Exec M (devices.foldlM (resumeRound d) failures).run v tr v' (some r))
    (hv : I (memory v)) : I (memory v') := by
  have hloop : wp (remembering fun _ => True) (fun _ _ => True)
      (devices.foldlM (resumeRound d) failures) (fun _ => I) (memory v) :=
    wp_foldlM (fun failures x hx m hm => wp_keeping (hround failures x hx) hm) failures hv
  exact (Program.wp_remembered hM hloop h fun _ _ => trivial).2 _ rfl

theorem keepsDeferral_round (failures : List String) (x : UsbDevice × RuleMatch) :
    Calls Op.KeepsDeferral (resumeRound d failures x) :=
  calls_resumeUsbDevice (fun _ h => h) (fun _ _ h => h) (fun _ _ => rfl)
    fun target => calls_attachOneUsb d x.1 x.2 target (fun _ h => h)
      fun _ => keepsDeferral_of_assigns

theorem holds_round {failures : List String} {x y : UsbDevice × RuleMatch} {vm : String}
    (hname : x.1.sysName ≠ y.1.sysName)
    (hnode : ∀ node, x.1.deviceNode = some node → y.1.deviceNode ≠ some node) :
    Calls (fun op => ∀ m : Memory, m.Holds x.1 vm → (op.remember m).Holds x.1 vm)
      (resumeRound d failures y) :=
  calls_resumeUsbDevice (fun _ h => h) (fun _ _ h => h) (fun _ h => ⟨h.node, h.port⟩)
    fun target => calls_attachOneUsb d y.1 y.2 target (fun _ h => h)
      fun _ hop _ h => holds_of_assigns hop hname hnode h

theorem distinct_after {scanned : List UsbDevice} (h : DistinctDevices scanned)
    {before after : List (UsbDevice × RuleMatch)} {x : UsbDevice × RuleMatch}
    (hsplit : d.usbRouted scanned = before ++ x :: after) :
    ∀ y ∈ after, x.1.sysName ≠ y.1.sysName ∧
      ∀ node, x.1.deviceNode = some node → y.1.deviceNode ≠ some node := by
  have hrouted : (d.usbRouted scanned).Pairwise fun a b => a.1.sysName ≠ b.1.sysName ∧
      ∀ node, a.1.deviceNode = some node → b.1.deviceNode ≠ some node := by
    refine List.Pairwise.filterMap _ (fun a b hab x hx y hy => ?_) h
    obtain ⟨rule, -, rfl⟩ := Option.map_eq_some_iff.1 hx
    obtain ⟨rule', -, rfl⟩ := Option.map_eq_some_iff.1 hy
    exact hab
  rw [hsplit] at hrouted
  exact (List.pairwise_cons.1 (List.pairwise_append.1 hrouted).2.1).1

/-- The calls of a `resume_usb` begin with its lock and its scan, whose routed devices it goes on to
attach. -/
def ResumesScan (M : Machine Op Reply V) (d : Daemon) (tr : List (V × Op))
    (devices : List (UsbDevice × RuleMatch)) : Prop :=
  ∃ e s scanned s₁ s₂ rest, tr = e :: (s, .scanUsb) :: (s₂, .enter (.resumeUsb devices)) :: rest ∧
    M.step s .scanUsb (.ok scanned) s₁ ∧ devices = d.usbRouted scanned

theorem resumeUsb_complete (hM : Remembers M memory)
    (hsysfs : ∀ s scanned s', M.step s .scanUsb (.ok scanned) s' → DistinctDevices scanned)
    (h : Exec M (resumeUsb d none).run v tr v' (some (.ok ())))
    (hclean : (memory v').deferred = false) : ∃ devices,
    ResumesScan M d tr devices ∧
      ∀ before x after, devices = before ++ x :: after → ∃ u calls u',
        ResumeRound M d tr before x after u calls u' ∧
          ((memory u).persistent.disconnected x.1.persistentId = false →
            (∀ e ∈ calls, e.2 ≠ .update (.reportedInsert x.1.persistentId)) →
            ∀ vm, chooseVm none x.2 (memory u).persistent.selectedVms x.1.persistentId = some vm →
              (memory v').Holds x.1 vm) := by
  obtain ⟨v₁, v₂, e, body, e', hbody, hunlock, hlock, rfl⟩ := exec_withLock_ok h
  obtain ⟨devices, v₃, tr₁, tr₂, hdevices, hrest, rfl⟩ := exec_bind_ok hbody
  obtain ⟨scanned, v₄, tr₃, tr₄, hscan, hrouted, rfl⟩ := exec_bind_ok hdevices
  obtain ⟨s, reply, -, hstep, rfl, hreply⟩ := exec_request_ok hscan
  obtain rfl : reply = .ok scanned := hreply
  obtain ⟨rfl, rfl, rfl⟩ := exec_pure hrouted
  obtain ⟨_, v₅, tr₅, tr₆, henter, hloop, rfl⟩ := exec_bind_ok hrest
  obtain ⟨s', _, _, _, rfl, _⟩ := exec_request_ok henter
  obtain ⟨failures, v₆, tr₇, tr₈, hrounds, hreport, rfl⟩ := exec_bind_ok hloop
  obtain ⟨rfl, rfl, rfl⟩ := exec_aggregate_ok hreport
  refine ⟨_, ⟨e, s, scanned, _, s', _, rfl, hstep, rfl⟩, fun before x after hsplit => ?_⟩
  change Exec M ((d.usbRouted scanned).foldlM (resumeRound d) []).run _ _ _ _ at hrounds
  rw [hsplit] at hrounds
  obtain ⟨failures₁, failures₂, u, u', first, calls, last, hfirst, hround, hlast, rfl⟩ :=
    exec_foldlM_split hrounds
  -- nothing was collected by any round
  obtain rfl : failures₂ = [] := List.prefix_nil.1 (exec_rounds_grow hM hlast)
  have hstill : failures₁ <+: [] := ((Program.wp_remembered hM (wp_resumeUsbDevice_clean
    fun _ => True) hround fun _ _ => trivial).2 _ rfl [] rfl).1
  obtain rfl : failures₁ = [] := List.prefix_nil.1 hstill
  refine ⟨u, calls, u', ⟨[e, (s, .scanUsb), (s', .enter (.resumeUsb (before ++ x :: after)))],
    first, last, [e'], _, _, [], [], ?_, ?_, hfirst, hround, hlast⟩,
    fun hconnected hhub vm hvm => ?_⟩
  · rw [hsplit]
    simp
  · simp [hlock]
  · have hend : memory v' = memory v₂ := by
      obtain ⟨u₁, _, henv, hstep', _, _⟩ := exec_request_ok hunlock
      exact ((hM.step _ _ _ _ hstep').2).trans (hM.env _ _ henv)
    rw [hend] at hclean ⊢
    have hnotDeferred : (memory u').deferred = false := by
      by_contra hdeferred
      have hlater := exec_rounds_keep hM (I := fun m => m.deferred = true)
        (fun failures x _ => keepsDeferral_round failures x) hlast (by simpa using hdeferred)
      rw [hclean] at hlater
      cases hlater
    have hheld : (memory u').Holds x.1 vm := by
      have hclean' := (Program.wp_remembered hM (wp_resumeUsbDevice_clean
        fun op => op ≠ .update (.reportedInsert x.1.persistentId)) hround hhub).2 _ rfl
      exact (hclean' [] rfl).2 rfl hnotDeferred hconnected (not_not.2 rfl) vm hvm
    have hdistinct := distinct_after (hsysfs s scanned _ hstep) hsplit
    exact exec_rounds_keep hM (fun failures y hy =>
      holds_round (hdistinct y hy).1 (hdistinct y hy).2) hlast hheld

/-- What a pass calls after `resume_usb` leaves a deferral alone. -/
theorem keepsDeferral_sweep (d : Daemon) (failures : List String) : Calls Op.KeepsDeferral (do
    let failures ← collect "USB authorization" (deauthorizeUnmatchedUsb d) failures
    aggregate failures) := by
  refine calls_bind (calls_collect (Program.calls_mono (calls_deauthorizeUnmatchedUsb d)
    fun op hop m hm => ?_) failures) fun failures => calls_aggregate failures
  cases op <;> first | exact hm | exact hop.elim

/-- `resume_usb` ran to its end within the pass, and of the devices of its scan that a rule routes,
each that was not marked disconnected in its round and met no hub is recorded at that end with the
VM of its choice. -/
def CompletePass (M : Machine Op Reply V) (memory : V → Memory) (d : Daemon)
    (tr : List (V × Op)) : Prop :=
  ∃ earlier during later w w' devices, tr = earlier ++ (during ++ later) ∧
    Exec M (resumeUsb d none).run w during w' (some (.ok ())) ∧ ResumesScan M d during devices ∧
    ∀ before x after, devices = before ++ x :: after → ∃ u calls u',
      ResumeRound M d during before x after u calls u' ∧
        ((memory u).persistent.disconnected x.1.persistentId = false →
          (∀ e ∈ calls, e.2 ≠ .update (.reportedInsert x.1.persistentId)) →
          ∀ vm, chooseVm none x.2 (memory u).persistent.selectedVms x.1.persistentId = some vm →
            (memory w').Holds x.1 vm)

/-- A clean pass recorded every device it could attach. -/
theorem clean_pass_complete (hM : Remembers M memory)
    (hsysfs : ∀ s scanned s', M.step s .scanUsb (.ok scanned) s' → DistinctDevices scanned)
    (h : Exec M (reconcile d).run v tr v' (some (.ok ())))
    (hclean : (memory v').deferred = false) : CompletePass M memory d tr := by
  obtain ⟨_, v₁, tr₁, tr₂, -, hgate, rfl⟩ := exec_bind_ok h
  obtain ⟨_, v₂, tr₃, tr₄, -, hobserve, rfl⟩ := exec_bind_ok hgate
  obtain ⟨_, v₃, tr₅, tr₆, -, hpci, rfl⟩ := exec_bind_ok hobserve
  obtain ⟨failures, w, tr₇, tr₈, -, husb, rfl⟩ := exec_bind_ok hpci
  obtain ⟨failures₁, w', during, later, hresume, hend, rfl⟩ := exec_bind_ok husb
  have hlater : (memory w').deferred = false := by
    by_contra hdeferred
    have hkeeps : wp (remembering fun _ => True) (fun _ _ => True) _
        (fun _ m => m.deferred = true) (memory w') :=
      wp_keeping (keepsDeferral_sweep d failures₁) (by simpa using hdeferred)
    have hkept := (Program.wp_remembered hM hkeeps hend fun _ _ => trivial).2 _ rfl
    rw [hclean] at hkept
    cases hkept
  obtain ⟨failures₂, v₄, tr₉, tr₁₀, hsweep, hreport, rfl⟩ := exec_bind_ok hend
  obtain ⟨rfl, rfl, rfl⟩ := exec_aggregate_ok hreport
  obtain ⟨rfl, -⟩ := exec_collect_nil hsweep
  obtain ⟨rfl, hresumed⟩ := exec_collect_nil hresume
  obtain ⟨devices, hscan, hrounds⟩ := resumeUsb_complete hM hsysfs hresumed hlater
  refine ⟨tr₁ ++ tr₃ ++ tr₅ ++ tr₇, during, tr₉ ++ [], w, w', devices, ?_, hresumed, hscan, hrounds⟩
  simp

end Pass

/-! ## A clean pass -/

/-- What the kernel promises of a scan. -/
def distinctScans (w : World) : Op → Choice → Prop
  | .scanUsb, _ => DistinctDevices w.usbDevices
  | _, _ => True

instance (w : World) (op : Op) (c : Choice) : Decidable (distinctScans w op c) := by
  unfold distinctScans
  split <;> infer_instance

def keyboardsToAttach : World where
  daemon := plainDaemon [keyboardRule [("targetVm", .string "gui-vm")]]
  bus := { entries := [keyboard "1-1" "4", keyboard "1-2" "5"] }
  sockets := Function.update (fun _ => none) guiVm.socket (some "gui-first")

theorem clean_pass_complete_keyboards :
    CompletePass (Machine.among Surroundings react distinctScans) World.memory
      keyboardsToAttach.daemon (keyboardsToAttach.trace (granting 3 []) .reconcile) := by
  have hsysfs : ∀ s scanned s', (Machine.among Surroundings react distinctScans).step s .scanUsb
      (.ok scanned) s' → DistinctDevices scanned := by
    rintro s scanned s' ⟨c, hdistinct, hreact⟩
    have hreply : c.result "failed to scan" s.usbDevices = .ok scanned := congrArg Prod.fst hreact
    unfold Choice.result at hreply
    split at hreply
    · cases hreply
    · obtain rfl := Except.ok.inj hreply
      exact hdistinct
  have hexec : Exec (Machine.among Surroundings react distinctScans)
      (reconcile keyboardsToAttach.daemon).run keyboardsToAttach
      (keyboardsToAttach.trace (granting 3 []) .reconcile)
      (keyboardsToAttach.perform (granting 3 []) .reconcile) (some (.ok ())) := by
    have hok : ((reconcile keyboardsToAttach.daemon).run.follow react (granting 3 [])
        keyboardsToAttach).2.2 = .ok () := by decide +kernel
    rw [← hok]
    exact Program.follow_exec_among _ _ (fun e _ => ⟨rfl, rfl, rfl, rfl⟩) (by decide +kernel)
  exact clean_pass_complete (remembers_among _) hsysfs hexec (by decide +kernel)

end GhafDeviceManager
