import GhafDeviceManager.Executions
import GhafDeviceManager.NodeRecords
import GhafDeviceManager.Remembering

/-!
# Which devices an observation takes for removed

An observation compares the devices of its scan that a rule matches with those the last one saw.
A device that is still on the bus and no longer matched is to it a device that went.
-/

namespace GhafDeviceManager

open Fallible

def Op.Removes : Op → Prop
  | .notify (.usbDisconnected _) | .usbDetach _ _ => True
  | .update (.usbVmsRemove _) | .update (.crosvmUsbPortsRemove _) => True
  | _ => False

def Op.Disconnects (m : Memory) (key : String) : Op → Prop
  | .notify (.usbDisconnected node) =>
    ∃ device, m.observedUsb.lookup key = some device ∧ device.deviceNode = node
  | .usbDetach vm port => ∃ binding, m.persistent.crosvmUsbPorts.lookup key = some binding ∧
    binding.vm = vm.name ∧ binding.port = port
  | .update (.usbVmsRemove node) =>
    ∃ device, m.observedUsb.lookup key = some device ∧ device.deviceNode = some node
  | .update (.crosvmUsbPortsRemove sysName) => sysName = key
  | _ => False

def UsbBus.shows (bus : UsbBus) (name : String) : Prop := ∃ entry ∈ bus.entries, entry.name = name

instance (bus : UsbBus) (name : String) : Decidable (bus.shows name) := by
  unfold UsbBus.shows
  infer_instance

/-! ## One observation -/

section Observation

variable {d : Daemon} {admits : Op → Prop} {m : Memory} {observed usb : Map UsbDevice}
  {key : String} {device : UsbDevice}

def Op.Releases (binding : UsbPortBinding) : Op → Prop
  | .usbDetach vm port => binding.vm = vm.name ∧ binding.port = port
  | .socketGeneration _ | .usbList _ => True
  | _ => False

def Op.Drops (key : String) (device : UsbDevice) : Op → Prop
  | .notify n => n = .usbDisconnected device.deviceNode
  | .update (.usbVmsRemove node) => device.deviceNode = some node
  | .update (.crosvmUsbPortsRemove sysName) => sysName = key
  | .update (.pendingRemove _) | .save | .lock _ | .unlock _ => True
  | _ => False

/-- What removes a device is about one that was seen and is not present. -/
def ForgetsOnly (observed usb : Map UsbDevice) (m : Memory) (op : Op) : Prop :=
  op.Removes → ∃ key, op.Disconnects m key ∧ (observed.lookup key).isSome ∧
    (usb.lookup key).isNone

theorem calls_releasePort_releases (binding : UsbPortBinding) :
    Calls (Op.Releases binding) (releasePort d binding) := by
  refine calls_require_bind fun vm hvm => ?_
  refine calls_bind (calls_request (by trivial)) fun generation => calls_ite ?_ (by trivial)
  refine calls_bind (calls_request (by trivial)) fun generation => calls_ite ?_ (by trivial)
  refine calls_bind (calls_request (by trivial)) fun live => ?_
  exact calls_ite (calls_request ⟨(Daemon.vm_name hvm).symm, rfl⟩) (by trivial)

theorem calls_dropVanished (key : String) (device : UsbDevice) :
    Calls (Op.Drops key device) (dropVanished d key device) := by
  unfold dropVanished dropRecords
  have hend : Calls (Op.Drops key device) (do
      update (.crosvmUsbPortsRemove key)
      saveState d) :=
    calls_bind (calls_request rfl) fun _ => calls_saveState (by trivial)
  refine calls_bind (calls_request rfl) fun _ => ?_
  refine calls_bind (calls_withLock (by trivial) (by trivial) ?_) fun _ => calls_request trivial
  cases hnode : device.deviceNode with
  | none => exact hend
  | some node => exact calls_bind (calls_request hnode) fun _ => hend

theorem wp_dropVanished (hobserved : observed.lookup key = some device)
    (husb : (usb.lookup key).isNone) (hm : m.observedUsb = observed) :
    wp (remembering admits) (ForgetsOnly observed usb) (dropVanished d key device)
      (fun _ m => m.observedUsb = observed) m := by
  have hseen : (observed.lookup key).isSome := by rw [hobserved]; rfl
  refine wp_of_calls_remembering (calls_dropVanished key device) (fun op hop m hm => ?_) hm
  cases op with
  | notify n =>
      obtain rfl : n = .usbDisconnected device.deviceNode := hop
      exact ⟨fun _ => ⟨key, ⟨device, by rw [hm, hobserved], rfl⟩, hseen, husb⟩, hm⟩
  | update u =>
      cases u with
      | usbVmsRemove node =>
          exact ⟨fun _ => ⟨key, ⟨device, by rw [hm, hobserved], hop⟩, hseen, husb⟩, hm⟩
      | crosvmUsbPortsRemove sysName => exact ⟨fun _ => ⟨key, hop, hseen, husb⟩, hm⟩
      | pendingRemove id => exact ⟨fun h => h.elim, hm⟩
      | _ => exact hop.elim
  | save => exact ⟨fun h => h.elim, hm⟩
  | lock l => exact ⟨fun h => h.elim, hm⟩
  | unlock l => exact ⟨fun h => h.elim, hm⟩
  | _ => exact hop.elim

theorem wp_forgetVanished_only (hobserved : observed.lookup key = some device)
    (husb : (usb.lookup key).isNone) (hm : m.observedUsb = observed) :
    wp (remembering admits) (ForgetsOnly observed usb) (forgetVanished d key device)
      (fun _ m => m.observedUsb = observed) m := by
  have hseen : (observed.lookup key).isSome := by rw [hobserved]; rfl
  rw [forgetVanished, wp_bind, readMemory, wp_remembering]
  refine ⟨fun h => h.elim, fun _ r hr => ?_⟩
  obtain rfl : r = m := hr
  rw [andThen_ok]
  cases hbinding : r.persistent.crosvmUsbPorts.lookup key with
  | none => exact wp_dropVanished hobserved husb hm
  | some binding =>
      rw [wp_bind]
      have hrelease : wp (remembering admits) (ForgetsOnly observed usb) (releasePort d binding)
          (fun _ m => m = r) r := by
        refine wp_of_calls_remembering (calls_releasePort_releases binding)
          (fun op hop m hm => ?_) rfl
        subst hm
        cases op with
        | usbDetach vm port =>
            exact ⟨fun _ => ⟨key, ⟨binding, hbinding, hop⟩, hseen, husb⟩, rfl⟩
        | socketGeneration socket => exact ⟨fun h => h.elim, rfl⟩
        | usbList socket => exact ⟨fun h => h.elim, rfl⟩
        | _ => exact hop.elim
      refine wp_imp hrelease ?_
      rintro r₁ _ rfl
      cases r₁ with
      | error e => exact hm
      | ok _ => exact wp_dropVanished hobserved husb hm

theorem wp_observeUsb_only : wp (remembering admits) (ForgetsOnly m.observedUsb usb)
    (observeUsb d usb) (fun _ _ => True) m := by
  refine wp_withLock_remembering (fun _ h => h.elim) (fun _ h => h.elim) ?_
  rw [wp_bind, readMemory, wp_remembering]
  refine ⟨fun h => h.elim, fun _ r hr => ?_⟩
  obtain rfl : m = r := hr.symm
  rw [andThen_ok, wp_bind]
  refine wp_imp (wp_inOrder_remembering fun h => h.elim) ?_
  rintro present m' ⟨hm', -⟩
  obtain rfl : m = m' := hm'.symm
  cases present with
  | error e => trivial
  | ok present =>
      rw [andThen_ok, wp_bind]
      have hconnected : Calls (fun op => ¬op.Removes ∧ ∀ m, op.remember m = m)
          (present.forM fun x =>
            if (m.observedUsb.lookup x.1).isNone then notify (.usbConnected x.2)
            else pure ()) :=
        calls_forM fun x _ => by
          refine calls_ite (calls_request ⟨id, fun _ => rfl⟩) ?_
          trivial
      refine wp_imp (wp_of_calls_remembering (I := fun m' => m' = m) hconnected
        (fun op hop m' hm => ⟨fun h => absurd h hop.1, (hop.2 m').trans hm⟩) rfl) ?_
      rintro r₁ _ rfl
      cases r₁ with
      | error e => trivial
      | ok _ =>
          rw [andThen_ok, wp_bind]
          refine wp_imp (wp_inOrder_remembering fun h => h.elim) ?_
          rintro seen m₁ ⟨rfl, hseen⟩
          cases seen with
          | error e => trivial
          | ok seen =>
              rw [andThen_ok, wp_bind]
              have hloop := wp_forM (M := remembering admits)
                (G := ForgetsOnly m₁.observedUsb usb) (f := fun x : String × UsbDevice =>
                  if (usb.lookup x.1).isNone then forgetVanished d x.1 x.2 else pure ())
                (I := fun m => m.observedUsb = m₁.observedUsb) (?_ : ∀ x ∈ seen, _) rfl
              · refine wp_imp hloop fun r₂ m₂ _ => ?_
                cases r₂ with
                | error e => trivial
                | ok _ =>
                    rw [andThen_ok, update, wp_remembering]
                    exact ⟨fun h => h.elim, fun _ _ _ => trivial⟩
              · rintro ⟨key, device⟩ hx m₂ hm₂
                dsimp only
                split
                case isTrue hgone =>
                  exact wp_forgetVanished_only (hseen seen rfl _ hx) hgone hm₂
                case isFalse => exact hm₂

theorem calls_observePci_keeps (pci : Map PciDevice) :
    Calls (fun op => ¬op.Removes) (observePci pci) := by
  refine calls_withLock id id (calls_bind (calls_request id) fun m => ?_)
  refine calls_bind (calls_inOrder pci id) fun present => ?_
  refine calls_bind (calls_forM fun x _ => calls_ite (calls_request id) trivial) fun _ => ?_
  refine calls_bind (calls_inOrder _ id) fun seen => ?_
  refine calls_bind (calls_forM fun x _ => ?_) fun _ => calls_request id
  exact calls_ite (calls_bind (calls_request id) fun _ => calls_request id) trivial

end Observation

section Executions

variable {allowed : World → Op → Choice → Prop} {d : Daemon} {w w' : World}
  {tr : List (World × Op)} {o : Option (Except Error Unit)}

theorem exec_usbDevices {xs : List (UsbDevice × RuleMatch)}
    (h : Exec (Machine.among Surroundings react allowed) (usbDevices d).run w tr w'
      (some (.ok xs))) :
    Surroundings w w' ∧ tr = [(w', .scanUsb)] ∧ xs = w'.usbRouted d := by
  obtain ⟨devices, w₁, tr₁, tr₂, hscan, hrest, rfl⟩ := exec_bind_ok h
  obtain ⟨rfl, rfl, rfl⟩ := exec_pure hrest
  obtain ⟨w₂, r, henv, ⟨c, -, hreact⟩, rfl, hr⟩ := exec_request_ok hscan
  obtain ⟨hreply, rfl⟩ := Prod.mk.inj hreact
  refine ⟨henv, rfl, ?_⟩
  have hdevices : c.result "failed to scan" w₂.usbDevices = .ok devices := hreply.trans hr
  unfold Choice.result at hdevices
  split at hdevices
  case isTrue => cases hdevices
  case isFalse => rw [World.usbRouted, Except.ok.inj hdevices]

/-- What an observation does away with was seen, and its scan does not show it routed. -/
theorem exec_observe_removes
    (h : Exec (Machine.among Surroundings react allowed) (observe d).run w tr w' o)
    {e : World × Op} (he : e ∈ tr) (hremoves : e.2.Removes) :
    ∃ w₁, (w₁, Op.scanUsb) ∈ tr ∧ ∃ key, e.2.Disconnects e.1.memory key ∧
      (w₁.memory.observedUsb.lookup key).isSome ∧ ∀ x ∈ w₁.usbRouted d, x.1.sysName ≠ key := by
  have hquiet : ∀ {α : Type} {p : Act α} {w w' tr} {o : Option (Except Error α)},
      Exec (Machine.among Surroundings react allowed) p.run w tr w' o →
        Calls (fun op => ¬op.Removes) p → e ∉ tr :=
    fun hexec hcalls hmem => hexec.calls hcalls e hmem hremoves
  have henter : Calls (fun op => ¬op.Removes) (enter .observe) := calls_request id
  have husb : Calls (fun op => ¬op.Removes) (usbDevices d) := calls_usbDevices id
  have hpci : Calls (fun op => ¬op.Removes ∧ ∀ m, op.remember m = m) (pciDevices d) :=
    calls_pciDevices ⟨id, fun _ => rfl⟩ fun _ => ⟨id, fun _ => rfl⟩
  unfold observe at h
  obtain ⟨_, hall⟩ | ⟨_, w₁, tr₁, tail₁, h₁, hrest₁, rfl⟩ := exec_bind_cases h
  · exact absurd he (hquiet hall henter)
  replace he := (List.mem_append.1 he).resolve_left (hquiet h₁ henter)
  obtain ⟨_, hall⟩ | ⟨xs, w₂, tr₂, tail₂, h₂, hrest₂, rfl⟩ := exec_bind_cases hrest₁
  · exact absurd he (hquiet hall husb)
  replace he := (List.mem_append.1 he).resolve_left (hquiet h₂ husb)
  obtain ⟨-, rfl, rfl⟩ := exec_usbDevices h₂
  have hlooks := Program.calls_mono hpci fun _ hop => hop.1
  obtain ⟨_, hall⟩ | ⟨ys, w₃, tr₃, tail₃, h₃, hrest₃, rfl⟩ := exec_bind_cases hrest₂
  · exact absurd he (hquiet hall hlooks)
  replace he := (List.mem_append.1 he).resolve_left (hquiet h₃ hlooks)
  have hmemory : w₃.memory = w₂.memory :=
    h₃.memory_same (remembers_among allowed) fun e he m => ((h₃.calls hpci) e he).2 m
  have hforgets : ∀ {o'} {tr' : List (World × Op)} {w''},
      Exec (Machine.among Surroundings react allowed)
        (observeUsb d (insertAll UsbDevice.sysName ((w₂.usbRouted d).map Prod.fst))).run
          w₃ tr' w'' o' → e ∈ tr' → ∃ key, e.2.Disconnects e.1.memory key ∧
            (w₂.memory.observedUsb.lookup key).isSome ∧
              ∀ x ∈ w₂.usbRouted d, x.1.sysName ≠ key := by
    intro o' tr' w'' hexec hmem
    obtain ⟨key, hdisconnects, hseen, habsent⟩ :=
      (Program.wp_remembered (remembers_among allowed)
        (@wp_observeUsb_only d (fun _ => True) _ _) hexec fun _ _ => trivial).1 e hmem hremoves
    rw [hmemory] at hseen
    refine ⟨key, hdisconnects, hseen, fun x hx => ?_⟩
    exact lookup_insertAll_isNone.1 habsent x.1 (List.mem_map_of_mem hx)
  refine ⟨w₂, by simp, ?_⟩
  obtain ⟨_, hall⟩ | ⟨_, w₄, tr₄, tail₄, h₄, hrest₄, rfl⟩ := exec_bind_cases hrest₃
  · exact hforgets hall he
  · have hlast := hquiet hrest₄ (calls_observePci_keeps _)
    exact hforgets h₄ ((List.mem_append.1 he).resolve_right hlast)

/-- No program changes the daemon it runs in, and neither do its surroundings. -/
theorem exec_daemon {α : Type} {p : Program Op Reply α} {w w' : World} {tr : List (World × Op)}
    {o : Option α} (h : Exec (Machine.among Surroundings react allowed) p w tr w' o) :
    w'.daemon = w.daemon ∧ ∀ e ∈ tr, e.1.daemon = w.daemon := by
  induction h with
  | done a w => exact ⟨rfl, by simp⟩
  | stop p w => exact ⟨rfl, by simp⟩
  | @call op next w w₁ w₂ w' r tr o henv hstep _ ih =>
      obtain ⟨c, -, hreact⟩ := hstep
      have hsame : w₂.daemon = w₁.daemon := by
        have h := react_daemon w₁ op c
        rwa [hreact] at h
      rw [hsame, henv.daemon] at ih
      exact ⟨ih.1, List.forall_mem_cons.2 ⟨henv.daemon, ih.2⟩⟩

end Executions

/-! ## Runs of passes -/

/-- What the observation of a pass calls, up to its end or to where the process died. -/
def ObservedIn (allowed : World → Op → Choice → Prop) (w : World) (tr calls : List (World × Op)) :
    Prop :=
  ∃ gate w₁ rest w₂ o,
    Exec (Machine.among Surroundings react allowed) (settleGate w.daemon).run w gate w₁
      (some (.ok ())) ∧
    Exec (Machine.among Surroundings react allowed) (observe w.daemon).run w₁ calls w₂ o ∧
      tr = gate ++ (calls ++ rest)

/-- A run with passes and other operations, and the observations of its passes, newest first. The
surroundings move at any time. -/
inductive PassRun (allowed : World → Op → Choice → Prop) :
    World → List (List (World × Op)) → Prop
  | start (d : Daemon) (hd : d.config.Valid) : PassRun allowed { daemon := d } []
  | surroundings {w w' : World} {seen : List (List (World × Op))} (h : PassRun allowed w seen)
      (hw : Surroundings w w') : PassRun allowed w' seen
  | request {w w' : World} {seen : List (List (World × Op))} {tr : List (World × Op)}
      {r : Except Error Unit} (o : Operation) (ho : o ≠ .reconcile) (h : PassRun allowed w seen)
      (hexec : Exec (Machine.among Surroundings react allowed) (o.program w.daemon).run w tr w'
        (some r)) : PassRun allowed w' seen
  | pass {w w' : World} {seen : List (List (World × Op))} {tr calls : List (World × Op)}
      {r : Except Error Unit} (h : PassRun allowed w seen)
      (hexec : Exec (Machine.among Surroundings react allowed) (reconcile w.daemon).run w tr w'
        (some r)) (hobserved : ObservedIn allowed w tr calls) : PassRun allowed w' (calls :: seen)
  | killed {w w' : World} {seen : List (List (World × Op))} {tr calls : List (World × Op)}
      (d : Daemon) (hd : d.config.Valid) (h : PassRun allowed w seen)
      (hexec : Exec (Machine.among Surroundings react allowed) (reconcile w.daemon).run w tr w'
        none) (hobserved : ObservedIn allowed w tr calls) :
      PassRun allowed (w'.restart d) (calls :: seen)
  | restart {w w' : World} {seen : List (List (World × Op))} {tr : List (World × Op)}
      (o : Operation) (d : Daemon) (hd : d.config.Valid) (h : PassRun allowed w seen)
      (hexec : Exec (Machine.among Surroundings react allowed) (o.program w.daemon).run w tr w'
        none) : PassRun allowed (w'.restart d) seen

/-- Of the devices seen before, the scan shows each that is still on the bus, and a rule still
matches it. -/
def StillRouted (calls : List (World × Op)) : Prop :=
  ∀ w, (w, Op.scanUsb) ∈ calls → ∀ key, (w.memory.observedUsb.lookup key).isSome →
    w.bus.shows key → ∃ x ∈ w.usbRouted w.daemon, x.1.sysName = key

/-- What the observation does away with was of devices that its scan did not find on the bus. -/
def Physical (calls : List (World × Op)) : Prop :=
  ∀ e ∈ calls, e.2.Removes → ∃ w, (w, Op.scanUsb) ∈ calls ∧
    ∃ key, e.2.Disconnects e.1.memory key ∧ ¬w.bus.shows key

section Runs

variable {allowed : World → Op → Choice → Prop} {w : World} {seen : List (List (World × Op))}

theorem PassRun.parts {w₁ w₂ w' : World} {gate calls rest : List (World × Op)}
    {r : Except Error Unit} (h : PassRun allowed w seen)
    (hgate : Exec (Machine.among Surroundings react allowed) (settleGate w.daemon).run w gate w₁
      (some (.ok ())))
    (hobserve : Exec (Machine.among Surroundings react allowed) (observe w.daemon).run w₁ calls w₂
      (some (.ok ())))
    (hrest : Exec (Machine.among Surroundings react allowed) (resumeAndSweep w.daemon).run w₂ rest
      w' (some r)) : PassRun allowed w' (calls :: seen) := by
  have hall := exec_bind (f := fun _ => observeAndResume w.daemon) hgate
    (exec_bind (f := fun _ => resumeAndSweep w.daemon) hobserve hrest)
  rw [← reconcile_eq] at hall
  exact .pass h hall ⟨gate, w₁, rest, w₂, _, hgate, hobserve, rfl⟩

theorem physical_of_observedIn {tr calls : List (World × Op)} (h : ObservedIn allowed w tr calls)
    (hrouted : StillRouted calls) : Physical calls := by
  obtain ⟨gate, w₁, rest, w₂, o, hgate, hobserve, -⟩ := h
  intro e he hremoves
  obtain ⟨w₃, hscan, key, hdisconnects, hseen, habsent⟩ :=
    exec_observe_removes hobserve he hremoves
  refine ⟨w₃, hscan, key, hdisconnects, fun hshown => ?_⟩
  have hdaemon : w₃.daemon = w.daemon :=
    ((exec_daemon hobserve).2 _ hscan).trans (exec_daemon hgate).1
  obtain ⟨x, hx, hkey⟩ := hrouted w₃ hscan key hseen hshown
  rw [hdaemon] at hx
  exact habsent x hx hkey

/-- As long as no device loses its rule on the bus, only removal disconnects. -/
theorem only_removal_disconnects (h : PassRun allowed w seen)
    (hrouted : ∀ calls ∈ seen, StillRouted calls) : ∀ calls ∈ seen, Physical calls := by
  induction h with
  | start d hd => simp
  | surroundings _ _ ih => exact ih hrouted
  | request o _ _ _ ih => exact ih hrouted
  | pass _ _ hobserved ih =>
      obtain ⟨hlast, hbefore⟩ := List.forall_mem_cons.1 hrouted
      exact List.forall_mem_cons.2 ⟨physical_of_observedIn hobserved hlast, ih hbefore⟩
  | killed d _ _ _ hobserved ih =>
      obtain ⟨hlast, hbefore⟩ := List.forall_mem_cons.1 hrouted
      exact List.forall_mem_cons.2 ⟨physical_of_observedIn hobserved hlast, ih hbefore⟩
  | restart o d _ _ _ ih => exact ih hrouted

end Runs

/-! ## A keyboard that is pulled out -/

theorem exec_moving {p : Act Unit} {pick : World → Op → Choice} {w : World}
    (h : (p.run.follow react pick w).2.2.toBool = true) :
    Exec (Machine.among Surroundings react anyChoice) p.run w (p.run.follow react pick w).1
      (p.run.follow react pick w).2.1 (some (.ok ())) := by
  have hexec : Exec (Machine.among Surroundings react anyChoice) p.run w
      (p.run.follow react pick w).1 (p.run.follow react pick w).2.1
        (some (p.run.follow react pick w).2.2) :=
    Program.follow_exec_among p.run w (fun _ _ => ⟨rfl, rfl, rfl, rfl⟩) fun _ _ => trivial
  cases hresult : (p.run.follow react pick w).2.2 with
  | error e =>
      rw [hresult] at h
      cases h
  | ok _ => rwa [hresult] at hexec

def World.observation (w : World) : List (World × Op) × World × Except Error Unit :=
  (observe w.daemon).run.follow react onPortOne w.settled

def World.concluded (w : World) : List (World × Op) × World × Except Error Unit :=
  (resumeAndSweep w.daemon).run.follow react onPortOne w.observation.2.1

theorem PassRun.observed {w : World} {seen : List (List (World × Op))}
    (h : PassRun anyChoice w seen)
    (hgate : ((settleGate w.daemon).run.follow react onPortOne w).2.2.toBool = true)
    (hobserve : w.observation.2.2.toBool = true) (hrest : w.concluded.2.2.toBool = true) :
    PassRun anyChoice w.concluded.2.1 (w.observation.1 :: seen) := by
  have hsettled : Exec (Machine.among Surroundings react anyChoice) (settleGate w.daemon).run w
      ((settleGate w.daemon).run.follow react onPortOne w).1 w.settled (some (.ok ())) :=
    exec_moving hgate
  have hobserved : Exec (Machine.among Surroundings react anyChoice) (observe w.daemon).run
      w.settled w.observation.1 w.observation.2.1 (some (.ok ())) := exec_moving hobserve
  have hswept : Exec (Machine.among Surroundings react anyChoice) (resumeAndSweep w.daemon).run
      w.observation.2.1 w.concluded.1 w.concluded.2.1 (some (.ok ())) := exec_moving hrest
  exact h.parts hsettled hobserved hswept

theorem PassRun.perform {w : World} {seen : List (List (World × Op))}
    (h : PassRun anyChoice w seen) (o : Operation) (ho : o ≠ .reconcile)
    (hok : ((o.program w.daemon).run.follow react onPortOne w).2.2.toBool = true) :
    PassRun anyChoice (w.perform onPortOne o) seen :=
  .request o ho h (exec_moving hok)

def Op.scans : Op → Bool
  | .scanUsb => true
  | _ => false

theorem stillRouted_of_scans {calls : List (World × Op)}
    (h : ∀ e ∈ calls, e.2.scans = true → ∀ key ∈ e.1.memory.observedUsb.keys,
      e.1.bus.shows key → ∃ x ∈ e.1.usbRouted e.1.daemon, x.1.sysName = key) :
    StillRouted calls := fun w hscan key hseen =>
  h (w, .scanUsb) hscan rfl key (AList.mem_keys.1 (AList.lookup_isSome.1 hseen))

def keyboardPulled : World := keyboardPlugged.concluded.2.1.replugged []

theorem only_removal_disconnects_unplugged :
    Physical keyboardPulled.observation.1 ∧ Physical keyboardPlugged.observation.1 := by
  have hplugged : PassRun anyChoice keyboardPlugged [] :=
    .surroundings (.start keyboardPlugged.daemon (by decide)) ⟨rfl, rfl, rfl, rfl⟩
  have hattached := hplugged.observed (by decide +kernel) (by decide +kernel) (by decide +kernel)
  have hpulled : PassRun anyChoice keyboardPulled [keyboardPlugged.observation.1] :=
    .surroundings hattached ⟨rfl, rfl, rfl, rfl⟩
  have hgone := hpulled.observed (by decide +kernel) (by decide +kernel) (by decide +kernel)
  have hall := only_removal_disconnects hgone (List.forall_mem_cons.2
    ⟨stillRouted_of_scans (by decide +kernel), List.forall_mem_singleton.2
      (stillRouted_of_scans (by decide +kernel))⟩)
  exact ⟨hall _ List.mem_cons_self, hall _ (List.mem_cons_of_mem _ List.mem_cons_self)⟩

/-! ## A device known by its driver -/

def scannerDriver : String := "/sys/bus/usb/drivers/scanner"

/-- Expressions that are one text, at the start of another. -/
def literalHost (text : String) : Host where
  regex pattern :=
    if pattern = "^(?:" ++ text ++ ")" then some fun value => Text.startsWith value text else none
  modulePaths _ := []
  hwdb _ _ := none

/-- A device that its rule knows by the driver of its interface. -/
def scannerPlugged : World where
  daemon :=
    { config :=
        { usbPassthrough := [.object [("allow", .array [.object
            [("driverPath", .string scannerDriver)]]), ("targetVm", .string "gui-vm")]]
          vms := [guiVm, netVm] }
      host := literalHost scannerDriver }
  bus := { entries := [{ keyboard "1-1" "4" with driver := some "/sys/bus/usb/drivers/usb" },
    { name := "1-1:1.0", files := [("bInterfaceClass", "ff")], driver := some scannerDriver }] }
  sockets := Function.update (fun _ => none) guiVm.socket (some "gui-first")

def scannerSelector : Selector := { vid := some "046d", pid := some "c31c" }

def scannerSeen : World :=
  (scannerPlugged.perform onPortOne (.usbDetach scannerSelector)).concluded.2.1

def scannerAttached : World := scannerSeen.perform onPortOne (.usbAttach scannerSelector none)

theorem passRun_scannerAttached : ∃ seen, PassRun anyChoice scannerAttached seen := by
  have hplugged : PassRun anyChoice scannerPlugged [] :=
    .surroundings (.start scannerPlugged.daemon (by decide)) ⟨rfl, rfl, rfl, rfl⟩
  have hseen := (hplugged.perform (.usbDetach scannerSelector) nofun (by decide +kernel)).observed
    (by decide +kernel) (by decide +kernel) (by decide +kernel)
  exact ⟨_, hseen.perform (.usbAttach scannerSelector none) nofun (by decide +kernel)⟩

def Op.unbinds : Op → Option String
  | .update (.crosvmUsbPortsRemove sysName) => some sysName
  | _ => none

theorem Op.eq_of_unbinds {op : Op} {sysName : String} (h : op.unbinds = some sysName) :
    op = .update (.crosvmUsbPortsRemove sysName) := by
  cases op with
  | update u =>
      cases u with
      | crosvmUsbPortsRemove name =>
          obtain rfl := Option.some.inj h
          rfl
      | _ => cases h
  | _ => cases h

/-- The attach released the driver, and the next pass takes the device for removed. -/
theorem disconnect_of_present_device : ¬∀ allowed w seen, PassRun allowed w seen →
    ∀ calls ∈ seen, Physical calls := by
  intro hclaim
  obtain ⟨seen, hrun⟩ := passRun_scannerAttached
  have hpass := hrun.observed (by decide +kernel) (by decide +kernel) (by decide +kernel)
  have hphysical := hclaim anyChoice _ _ hpass _ List.mem_cons_self
  have hremoved : ∃ e ∈ scannerAttached.observation.1, e.2.unbinds = some "1-1" := by
    decide +kernel
  have hpresent : ∀ e ∈ scannerAttached.observation.1, e.2.scans = true → e.1.bus.shows "1-1" := by
    decide +kernel
  obtain ⟨e, he, hop⟩ := hremoved
  have heq : e.2 = .update (.crosvmUsbPortsRemove "1-1") := Op.eq_of_unbinds hop
  obtain ⟨w, hscan, key, hkey, habsent⟩ := hphysical e he (by rw [heq]; trivial)
  rw [heq] at hkey
  obtain rfl : "1-1" = key := hkey
  exact habsent (hpresent _ hscan rfl)

end GhafDeviceManager
