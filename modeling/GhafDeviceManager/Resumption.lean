import GhafDeviceManager.PciSpec
import GhafDeviceManager.Suspension

/-!
# What attaches a suspended device again

A suspend leaves nothing behind that would tell a suspended device from one never attached. Besides
requests for it, a reconcile pass attaches it again.
-/

namespace GhafDeviceManager

open Fallible

/-- What a call of the manager is about. -/
inductive Target
  | usb (sysName : String)
  | pci (address : String)
deriving DecidableEq

def Entry.attaches : Entry → Option Target
  | .attachOneUsb device _ _ => some (.usb device.sysName)
  | .attachOnePci device _ _ => some (.pci device.address)
  | _ => none

def Entry.detaches : Entry → Option Target
  | .detachOneUsb device _ => some (.usb device.sysName)
  | .detachOnePci device _ _ => some (.pci device.address)
  | _ => none

def Op.attaches : Op → Option Target
  | .enter entry => entry.attaches
  | _ => none

def Op.detaches : Op → Option Target
  | .enter entry => entry.detaches
  | _ => none

def Effect.callsFor (target : Target) : Effect → Option Bool
  | .entered entry =>
    if entry.attaches = some target then some true
    else if entry.detaches = some target then some false
    else none
  | _ => none

def lastCall (target : Target) (log : List Effect) : Option Bool :=
  log.findSome? (Effect.callsFor target)

def NotAttached (target : Target) (_ : World) (op : Op) : Prop := op.attaches ≠ some target

instance (target : Target) (w : World) (op : Op) : Decidable (NotAttached target w op) :=
  inferInstanceAs (Decidable (_ ≠ _))

def Operation.Suspends : Operation → Prop
  | .usbSuspend _ | .pciSuspend _ => True
  | _ => False

/-- The operation is a reconcile pass, an attach request that selects the target, or a resume
request that covers the VM it resolves to. A USB selection is shared by all devices with one id. -/
def Asks (target : Target) (w : World) : Operation → Prop
  | .reconcile => True
  | .usbAttach selector _ => ∃ x ∈ w.usbRouted w.daemon, target = .usb x.1.sysName ∧
      selectsUsb selector x.1 x.2 = true
  | .usbResume vm => ∃ x ∈ w.usbRouted w.daemon, target = .usb x.1.sysName ∧
      ∃ y ∈ w.usbRouted w.daemon, y.1.persistentId = x.1.persistentId ∧
        inScope vm (resumeTarget y.2 w.memory.persistent.selectedVms y.1.persistentId) = true
  | .pciAttach selector _ => ∃ x ∈ w.pciRouted w.daemon, target = .pci x.1.address ∧
      selectsPci selector x.1 x.2 = true
  | .pciResume vm => ∃ x ∈ w.pciRouted w.daemon, target = .pci x.1.address ∧
      x.2.targetVm.any (covers vm) = true
  | _ => False

/-- A call to attach a device that is not marked, to the VM that its rule or a selection names. -/
def Deliberate (w : World) : Op → Prop
  | .enter (.attachOneUsb device rule requestedVm) =>
    w.memory.persistent.disconnected device.persistentId = false ∧
      requestedVm = resumeTarget rule w.memory.persistent.selectedVms device.persistentId
  | .enter (.attachOnePci device rule requestedVm) =>
    w.memory.persistent.disconnected device.persistentId = false ∧ requestedVm = rule.targetVm
  | _ => True

section Calls

variable {allowed : World → Op → Choice → Prop} {w : World} {target : Target}

theorem lastCall_react {op : Op} (hop : NotAttached target w op)
    (h : lastCall target w.log = some false) (c : Choice) :
    lastCall target (react w op c).2.log = some false := by
  obtain hsame | ⟨effect, hlog, hof⟩ := react_log w op c
  · rw [hsame]
    exact h
  · rw [hlog, lastCall, List.findSome?_cons]
    cases effect with
    | entered entry =>
        obtain rfl : op = .enter entry := hof
        have hnot : entry.attaches ≠ some target := hop
        rw [Effect.callsFor, if_neg hnot]
        by_cases hdetaches : entry.detaches = some target
        · rw [if_pos hdetaches]
        · rw [if_neg hdetaches]
          exact h
    | _ => exact h

/-- A call to detach is the latest one in what follows without a call to attach. -/
theorem lastCall_exec {α : Type} {p : Program Op Reply α} {w' : World} {tr : List (World × Op)}
    {o : Option α} (hexec : Exec (machine allowed) p w tr w' o)
    (htr : ∀ e ∈ tr, NotAttached target e.1 e.2)
    (h : lastCall target w.log = some false ∨
      ∃ e ∈ tr, e.2.detaches = some target) :
    lastCall target w'.log = some false := by
  induction hexec with
  | done a w => simpa using h
  | stop p w => simpa using h
  | @call op next w w₁ w₂ w' r tr o henv hstep hrest ih =>
      obtain rfl : w = w₁ := henv
      obtain ⟨c, _, hreact⟩ := hstep
      obtain rfl : (react w op c).2 = w₂ := congrArg Prod.snd hreact
      have hop : NotAttached target w op := htr _ List.mem_cons_self
      refine ih (fun e he => htr e (List.mem_cons_of_mem _ he)) ?_
      obtain hlast | ⟨e, he, hdetaches⟩ := h
      · exact .inl (lastCall_react hop hlast c)
      · obtain rfl | he := List.mem_cons.1 he
        · left
          cases op with
          | enter entry =>
              have hnot : entry.attaches ≠ some target := hop
              have hcalled : entry.detaches = some target := hdetaches
              rw [react, World.record, lastCall, List.findSome?_cons, Effect.callsFor, if_neg hnot,
                if_pos hcalled]
          | _ => cases hdetaches
        · exact .inr ⟨e, he, hdetaches⟩

end Calls

def Op.Calm (op : Op) : Prop := op.attaches = none

section Operations

variable {allowed : World → Op → Choice → Prop} {w : World} {d : Daemon} {target : Target}

theorem notAttached_harmless {op : Op} (hop : ∀ w, NotAttached target w op) :
    Harmless allowed (NotAttached target) (fun _ => True) op := fun w _ =>
  ⟨hop w, fun _ _ => trivial⟩

theorem calm_of_glue {op : Op} (hop : op.Glue) : op.Calm := by
  cases op with
  | enter entry => cases entry <;> first | rfl | exact hop.elim
  | _ => rfl

theorem calm_of_gates {op : Op} (hop : op.Gates) : op.Calm := by
  cases op with
  | enter entry => cases entry <;> first | rfl | exact hop.elim
  | _ => rfl

theorem calm_of_sweeps {op : Op} (hop : op.Sweeps) : op.Calm := by
  cases op with
  | enter entry => cases entry <;> first | rfl | exact hop.elim
  | _ => rfl

theorem calm_of_clears {op : Op} (hop : op.Clears) : op.Calm := by
  cases op with
  | enter entry => cases entry <;> first | rfl | exact hop.elim
  | _ => rfl

theorem calm_of_detaches {op : Op} {device : UsbDevice} {permanent : Bool}
    (hop : op.Detaches device permanent) : op.Calm := by
  cases op with
  | enter entry =>
      obtain rfl : entry = .detachOneUsb device permanent := hop
      rfl
  | _ => rfl

theorem calm_of_detachesPci {op : Op} {device : PciDevice} {permanent : Bool}
    (hop : op.DetachesPci device permanent) : op.Calm := by
  cases op with
  | enter entry => cases entry <;> first | rfl | exact hop.elim
  | _ => rfl

theorem calm_of_assigns {op : Op} {device : UsbDevice} (hop : op.Assigns device) : op.Calm := by
  cases op with
  | enter entry =>
      obtain rfl : entry = .detachOneUsb device false := hop
      rfl
  | _ => rfl

theorem notAttached_of_calm {op : Op} (hop : op.Calm) : NotAttached target w op := by
  rw [NotAttached, hop]
  exact (Option.some_ne_none target).symm

theorem deliberate_of_calm {op : Op} (hop : op.Calm) : Deliberate w op := by
  cases op with
  | enter entry => cases entry <;> trivial
  | _ => trivial

theorem notAttached_of_attachesPci {op : Op} {device : PciDevice}
    (hother : target ≠ .pci device.address) (hop : op.AttachesPci device) :
    NotAttached target w op := by
  cases op with
  | enter entry =>
      cases entry with
      | attachOnePci other rule vm =>
          obtain rfl : other = device := hop
          exact fun h => hother (Option.some.inj h).symm
      | _ => exact hop.elim
  | _ => exact notAttached_of_calm rfl

theorem detachUsb_notAttached (device : UsbDevice) (permanent : Bool) :
    Keeps (machine allowed) (NotAttached target) (fun _ => True)
      (detachOneUsb d device permanent) :=
  keeps_of_harmless (Program.calls_mono (calls_detachOneUsb_detaches d device permanent)
    fun _ hop => notAttached_harmless fun _ => notAttached_of_calm (calm_of_detaches hop))

theorem detachPci_notAttached (device : PciDevice) (rule : RuleMatch) (permanent : Bool) :
    Keeps (machine allowed) (NotAttached target) (fun _ => True)
      (detachOnePci d device rule permanent) :=
  keeps_of_harmless (Program.calls_mono (calls_detachOnePci d device rule permanent)
    fun _ hop => notAttached_harmless fun _ => notAttached_of_calm (calm_of_detachesPci hop))

theorem attachUsb_notAttached {device : UsbDevice} (hother : target ≠ .usb device.sysName)
    (rule : RuleMatch) (requestedVm : Option String) :
    Keeps (machine allowed) (NotAttached target) (fun _ => True)
      (attachOneUsb d device rule requestedVm) :=
  keeps_of_harmless (calls_attachOneUsb d device rule requestedVm
    (notAttached_harmless fun _ h => hother (Option.some.inj h).symm)
    fun _ hop => notAttached_harmless fun _ => notAttached_of_calm (calm_of_assigns hop))

theorem attachPci_notAttached {device : PciDevice} (hother : target ≠ .pci device.address)
    (rule : RuleMatch) (requestedVm : Option String) :
    Keeps (machine allowed) (NotAttached target) (fun _ => True)
      (attachOnePci d device rule requestedVm) :=
  keeps_of_harmless (Program.calls_mono (calls_attachOnePci d device rule requestedVm)
    fun _ hop => notAttached_harmless fun _ => notAttached_of_attachesPci hother hop)

theorem selectedVms_react {op : Op} {device : UsbDevice} {id : String}
    (hop : op.Assigns device) (hid : device.persistentId ≠ id) (w : World) (c : Choice) :
    (react w op c).2.memory.persistent.selectedVms.lookup id =
      w.memory.persistent.selectedVms.lookup id := by
  cases op with
  | update u =>
      cases u with
      | selectVm other vm =>
          obtain rfl : other = device.persistentId := hop
          exact AList.lookup_insert_ne hid.symm
      | _ => rfl
  | authorize name value =>
      simp only [react]
      split <;> rfl
  | _ => rfl

/-- A resume that does not cover the target's id attaches nothing under it, so that its selection
stays as it was. -/
theorem wp_resumeUsb_notAttached {vm : Option String} (hasks : ¬Asks target w (.usbResume vm)) :
    (resumeUsb w.daemon vm).wp (machine allowed) (NotAttached target) (fun _ _ => True) w := by
  have hkept : (resumeUsb w.daemon vm).wp (machine allowed) (NotAttached target) (fun _ w' =>
      ∀ x ∈ w.usbRouted w.daemon, target = .usb x.1.sysName →
        w'.memory.persistent.selectedVms.lookup x.1.persistentId =
          w.memory.persistent.selectedVms.lookup x.1.persistentId) w := by
    refine wp_resumeUsb_of
      (fun op hop w₁ hw₁ => ⟨notAttached_of_calm (calm_of_glue hop), fun c _ => ?_⟩)
      (fun _ _ _ => rfl) fun z hz w₁ hw₁ _ hscope => ?_
    · have hsame : (react w₁ op c).2.memory.persistent = w₁.memory.persistent := by
        cases op with
        | update u => cases u <;> first | rfl | exact hop.elim
        | authorize name value => exact hop.elim
        | _ => rfl
      rw [hsame]
      exact hw₁
    -- what the resume attaches is under another id than the target
    have hids : ∀ x ∈ w.usbRouted w.daemon, target = .usb x.1.sysName →
        z.1.persistentId ≠ x.1.persistentId := by
      intro x hx htarget hid
      refine hasks ⟨x, hx, htarget, z, hz, hid, ?_⟩
      have hselected : w.memory.persistent.selectedVms.lookup z.1.persistentId =
          w₁.memory.persistent.selectedVms.lookup z.1.persistentId := by
        rw [hid]
        exact (hw₁ x hx htarget).symm
      rw [resumeTarget, hselected]
      exact hscope
    have hother : target ≠ .usb z.1.sysName := fun htarget => hids z hz htarget rfl
    refine keeps_of_harmless (calls_attachOneUsb w.daemon z.1 z.2 _ ?_ fun op hop => ?_) w₁ hw₁
    · exact fun w₂ hw₂ => ⟨fun h => hother (Option.some.inj h).symm, fun _ _ => hw₂⟩
    · intro w₂ hw₂
      refine ⟨notAttached_of_calm (calm_of_assigns hop), fun c _ x hx htarget => ?_⟩
      exact (selectedVms_react hop (hids x hx htarget) w₂ c).trans (hw₂ x hx htarget)
  exact wp_imp hkept fun _ _ _ => trivial

theorem wp_operation_notAttached {o : Operation} (hasks : ¬Asks target w o) :
    (o.program w.daemon).wp (machine allowed) (NotAttached target) (fun _ _ => True) w := by
  have hglue : ∀ op : Op, op.Glue → Harmless allowed (NotAttached target) (fun _ => True) op :=
    fun op hop => notAttached_harmless fun _ => notAttached_of_calm (calm_of_glue hop)
  have hgates : ∀ {p : Act Unit}, Calls Op.Gates p →
      p.wp (machine allowed) (NotAttached target) (fun _ _ => True) w := fun hp =>
    keeps_of_harmless (Program.calls_mono hp fun _ hop =>
      notAttached_harmless fun _ => notAttached_of_calm (calm_of_gates hop)) w trivial
  cases o with
  | enableUsbAuthorization =>
      have hcalls : Calls Op.Gates (Operation.enableUsbAuthorization.program w.daemon) :=
        calls_bind (calls_enableUsbAuthorization w.daemon) fun _ => trivial
      exact hgates hcalls
  | closeUsbGate =>
      have hcalls : Calls Op.Gates (Operation.closeUsbGate.program w.daemon) :=
        calls_bind (calls_closeUsbGate w.daemon) fun _ => trivial
      exact hgates hcalls
  | openUsbGate => exact hgates (calls_openUsbGate w.daemon)
  | reconcile => exact absurd trivial hasks
  | usbAttach selector vm =>
      refine wp_attachUsb_of hglue trivial fun x hx hselected => ?_
      exact attachUsb_notAttached (fun h => hasks ⟨x, hx, h, hselected⟩) x.2 vm
  | usbDetach selector =>
      exact wp_detachUsb_of hglue trivial fun x _ _ => detachUsb_notAttached x.1 true
  | usbSuspend vm =>
      exact suspendUsb_keeps_of hglue
        (fun device w₁ hw₁ _ => detachUsb_notAttached device false w₁ hw₁) w trivial
  | usbResume vm => exact wp_resumeUsb_notAttached hasks
  | pciAttach selector vm =>
      refine wp_attachPci_of hglue trivial fun x hx hselected => ?_
      exact attachPci_notAttached (fun h => hasks ⟨x, hx, h, hselected⟩) x.2 vm
  | pciDetach selector =>
      exact wp_detachPci_of hglue trivial fun x _ _ => detachPci_notAttached x.1 x.2 true
  | pciSuspend vm =>
      exact suspendPci_keeps_of hglue
        (fun device rule w₁ hw₁ _ => detachPci_notAttached device rule false w₁ hw₁) w trivial
  | pciResume vm =>
      refine wp_resumePci_of hglue trivial fun x hx w₁ hw₁ _ hcovers => ?_
      exact attachPci_notAttached (fun h => hasks ⟨x, hx, h, hcovers⟩) x.2 _ w₁ hw₁

/-- A pass attaches only what is not marked, where its rule or the selection says. -/
theorem wp_reconcile_deliberate :
    (reconcile d).wp (machine allowed) Deliberate (fun _ _ => True) w := by
  have hcalm : ∀ op : Op, op.Calm → Harmless allowed Deliberate (fun _ => True) op :=
    fun op hop w _ => ⟨deliberate_of_calm hop, fun _ _ => trivial⟩
  have hglue : ∀ op : Op, op.Glue → Harmless allowed Deliberate (fun _ => True) op :=
    fun op hop => hcalm op (calm_of_glue hop)
  refine reconcile_keeps_of hglue ?_ ?_ ?_ ?_ ?_ w trivial
  · exact keeps_of_harmless (Program.calls_mono (calls_applyUsbGate d)
      fun op hop => hcalm op (calm_of_gates hop))
  · exact keeps_of_harmless (Program.calls_mono (calls_observe d)
      fun op hop => hcalm op (calm_of_clears hop))
  · refine resumePci_keeps_of hglue fun device rule w₁ _ hconnected _ => ?_
    refine wp_attachOnePci (fun op hop w₂ => ?_) ⟨hconnected, rfl⟩ (fun _ _ _ => trivial)
      fun c _ vm vmName w₂ _ _ _ => ?_
    · cases op with
      | enter entry => exact hop.elim
      | _ => trivial
    · refine wp_of_footprint (calls_attachQuarantined_passes d device vm vmName _ _)
        (fun op hop w => ?_) w₂
      cases op with
      | enter entry => exact hop.elim
      | _ => trivial
  · refine resumeUsb_keeps_of hglue fun device rule w₁ _ hconnected _ => ?_
    have hassigns : ∀ op : Op, op.Assigns device → ∀ w, Deliberate w op := fun op hop w =>
      deliberate_of_calm (calm_of_assigns hop)
    refine wp_attachOneUsb ⟨hconnected, rfl⟩ (fun op hop => hassigns op (assigns_of_observes hop) _)
      (fun _ => ?_) fun c _ vmName _ => ?_
    · exact wp_of_footprint (calls_pending device rule (fun op => assigns_of_observes) rfl)
        hassigns _
    · exact wp_of_footprint (calls_attachUsbTo d device rule vmName) hassigns _
  · exact keeps_of_harmless (Program.calls_mono (calls_deauthorizeUnmatchedUsb d)
      fun op hop => hcalm op (calm_of_sweeps hop))

/-- A device that a suspend detached stays so until a reconcile pass, a resume request that covers
the VM it resolves to or an attach request that selects it; a pass attaches no device that is
marked as disconnected, and each to the VM its rule or a selection names. -/
theorem suspended_until_asked {w₀ : World} {o : Operation} {tr : List (World × Op)}
    {restarts : Daemon → Prop} (ho : o.Suspends)
    (hsuspended : Exec (machine allowed) (o.program w.daemon).run w tr w₀ (some (.ok ())))
    (hdetached : ∃ e ∈ tr, e.2.detaches = some target) :
    (∀ w', Continues allowed (fun w o => ¬Asks target w o) restarts w₀ w' →
      lastCall target w'.log = some false) ∧
    (∀ w' op, IssuedFrom allowed (fun w o => ¬Asks target w o) restarts w₀ w' op →
      NotAttached target w' op) ∧
    ∀ w₁ w₂ tr r, Exec (machine allowed) (Operation.reconcile.program w₁.daemon).run w₁ tr w₂ r →
      ∀ e ∈ tr, Deliberate e.1 e.2 := by
  have hasks : ¬Asks target w o := by
    cases o <;> first | exact fun h => h | exact ho.elim
  have hquiet := (Program.wp_sound (wp_operation_notAttached hasks) hsuspended).1
  have hlast : lastCall target w₀.log = some false :=
    lastCall_exec hsuspended hquiet (.inr hdetached)
  have hlasts : (∀ w', Continues allowed (fun w o => ¬Asks target w o) restarts w₀ w' →
        lastCall target w'.log = some false) ∧
      ∀ w' op, IssuedFrom allowed (fun w o => ¬Asks target w o) restarts w₀ w' op →
        NotAttached target w' op := by
    refine Continues.lasts hlast (fun w₁ w₂ hw h => ?_) (fun _ _ _ h => h)
      (fun w₁ op c hop h => lastCall_react hop h c) fun w₁ o ho _ => wp_operation_notAttached ho
    rw [hw.log]
    exact h
  refine ⟨hlasts.1, hlasts.2, fun w₁ w₂ tr r hexec => ?_⟩
  exact (Program.wp_sound wp_reconcile_deliberate hexec).1

end Operations

/-! ## A suspended keyboard -/

theorem suspended_until_asked_keyboardInGui : ∃ tr w₀,
    Exec (machine anyChoice) (suspendGui.program keyboardInGui.daemon).run keyboardInGui tr w₀
      (some (.ok ())) ∧ (∃ e ∈ tr, e.2.detaches = some (.usb "1-1")) ∧
    ∀ w', Continues anyChoice (fun w o => ¬Asks (.usb "1-1") w o) (fun _ => True) w₀ w' →
      lastCall (.usb "1-1") w'.log = some false := by
  have hexec : Exec (machine anyChoice) (suspendGui.program keyboardInGui.daemon).run
      keyboardInGui (keyboardInGui.trace portOneInAndOut suspendGui)
      (keyboardInGui.perform portOneInAndOut suspendGui) (some (.ok ())) :=
    exec_follow_ok (by decide +kernel)
  have hdetached : ∃ e ∈ keyboardInGui.trace portOneInAndOut suspendGui,
      e.2.detaches = some (.usb "1-1") := by decide +kernel
  exact ⟨_, _, hexec, hdetached,
    (suspended_until_asked (o := suspendGui) trivial hexec hdetached).1⟩

/-- The next pass attaches the keyboard again. -/
theorem suspend_undone_by_reconcile : ¬∀ (w w₀ : World) (o : Operation) target tr,
    Reachable savesSucceed w → o.Suspends →
    Exec (machine savesSucceed) (o.program w.daemon).run w tr w₀ (some (.ok ())) →
    (∃ e ∈ tr, e.2.detaches = some target) →
    ∀ w' op, IssuedFrom savesSucceed (fun _ o => o = .reconcile) (fun _ => False) w₀ w' op →
      NotAttached target w' op := by
  intro hclaim
  have hinitial : Reachable savesSucceed sharedKeyboard := .initial (by decide) rfl rfl rfl
  have hattached : Reachable savesSucceed keyboardInGui :=
    hinitial.perform portOneInAndOut toGui (portOneInAndOut_saves _ _)
  have hexec : Exec (machine savesSucceed) (suspendGui.program keyboardInGui.daemon).run
      keyboardInGui (keyboardInGui.trace portOneInAndOut suspendGui)
      (keyboardInGui.perform portOneInAndOut suspendGui) (some (.ok ())) :=
    exec_ok (portOneInAndOut_saves _ _) (by decide +kernel)
  have hdetached : ∃ e ∈ keyboardInGui.trace portOneInAndOut suspendGui,
      e.2.detaches = some (.usb "1-1") := by decide +kernel
  have hagain : ∃ e ∈ (keyboardInGui.perform portOneInAndOut suspendGui).trace portOneInAndOut
      .reconcile, ¬NotAttached (.usb "1-1") e.1 e.2 := by decide +kernel
  obtain ⟨e, he, hnot⟩ := hagain
  exact hnot (hclaim _ _ suspendGui _ _ hattached trivial hexec hdetached e.1 e.2
    (issuedFrom_trace _ _ portOneInAndOut .reconcile rfl (portOneInAndOut_saves _ _) he))

end GhafDeviceManager
