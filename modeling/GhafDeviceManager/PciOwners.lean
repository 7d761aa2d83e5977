import GhafDeviceManager.PciBooks
import GhafDeviceManager.VmmArgs

/-!
# One VM for each PCI device

Rules give a device one target, but `pciIommuAddAll` widens an attach and the boot arguments to
whole IOMMU groups, whose members other rules may route elsewhere.
-/

namespace GhafDeviceManager

open Fallible

/-! ## Attaching -/

/-- No address is added to a VM while it is recorded for another one. -/
def SoleVm (w : World) : Op → Prop
  | .vfioAdd vm address => ∀ other ∈ w.memory.pciVms.lookup address, other = vm.name
  | _ => True

/-- What the target VM does not list of the passthrough is recorded for no other VM. -/
def Unclaimed (w : World) (device : PciDevice) (rule : RuleMatch) : Prop :=
  ∀ vmName ∈ rule.targetVm, ∀ vm ∈ w.daemon.vm vmName, ∀ address ∈ w.passthrough device rule,
    pciPath address ∉ w.vfio vm.socket →
    ∀ other ∈ w.memory.pciVms.lookup address, other = vmName

section Attach

variable {allowed : World → Op → Choice → Prop} {w : World} {device : PciDevice} {rule : RuleMatch}
  {d : Daemon}

theorem soleVm_of_usb {op : Op} (hop : op.Usb) (w : World) : SoleVm w op := by
  cases op <;> trivial

theorem wp_attachOnePci_soleVm {requestedVm : Option String}
    (hunclaimed : ∀ c, allowed w (.enter (.attachOnePci device rule requestedVm)) c →
      Unclaimed w device rule) :
    (attachOnePci w.daemon device rule requestedVm).wp (machine allowed) SoleVm
      (fun _ _ => True) w := by
  refine wp_attachOnePci (fun op hop w' => by cases op <;> trivial) trivial (fun _ _ _ => trivial)
    fun c hc vm vmName w' htarget hvm hw' => ?_
  have hname : vm.name = vmName := Daemon.vm_name hvm
  subst hname
  have hadds : ∀ changed, (addMissing vm (w.vfio vm.socket) (w.passthrough device rule)
      changed).wp (machine allowed) SoleVm (fun _ w'' => w''.memory = w'.memory) w' := by
    intro changed
    refine wp_of_calls (S := fun op => ∃ address ∈ w.passthrough device rule,
      pciPath address ∉ w.vfio vm.socket ∧ op = .vfioAdd vm address)
      (calls_addMissing_of (fun address hmem hnot => ⟨address, hmem, hnot, rfl⟩) changed) ?_ ?_ rfl
    · rintro w₁ _ rfl h
      exact h
    · rintro _ ⟨address, hmem, hnot, rfl⟩ w₁ hw₁
      constructor
      · intro other hother
        rw [hw₁, hw'.memory] at hother
        exact hunclaimed c hc vm.name htarget vm hvm address hmem hnot other hother
      · rintro r w₂ ⟨c, _, hreact⟩
        have hw₂ : w₂ = (react w₁ (.vfioAdd vm address) c).2 := by rw [hreact]
        rw [hw₂]
        exact hw₁
  rw [attachQuarantined, readMemory, wp_bind, wp_operation]
  refine ⟨trivial, fun _ _ => ?_⟩
  rw [react, andThen_ok, wp_bind]
  refine wp_imp (hadds _) fun r w₁ _ => ?_
  cases r with
  | error e => trivial
  | ok changed =>
      have hrecord : Calls (fun op => ∀ w, SoleVm w op) (do
          recordPci w.daemon device vm.name (w.passthrough device rule)
          if changed then notify (.pciAttached device vm.name) : Act Unit) := by
        refine calls_bind (calls_withLock (fun _ => trivial) (fun _ => trivial) ?_) fun _ => ?_
        · refine calls_bind (calls_forM fun _ _ => calls_request fun _ => trivial) fun _ => ?_
          exact calls_setDisconnected (fun _ => trivial) fun _ => trivial
        · exact calls_ite (calls_request fun _ => trivial) trivial
      exact wp_of_footprint hrecord (fun _ hop => hop) w₁

theorem wp_operation_soleVm (hunclaimed : ∀ w device rule requestedVm c,
    allowed w (.enter (.attachOnePci device rule requestedVm)) c → Unclaimed w device rule)
    (w₀ : World) (o : Operation) :
    (o.program w₀.daemon).wp (machine allowed) SoleVm (fun _ _ => True) w₀ := by
  have hharmless : ∀ op : Op, (∀ w, SoleVm w op) →
      Harmless allowed SoleVm (fun w => w.daemon = w₀.daemon) op := by
    intro op hop w hw
    exact ⟨hop w, fun c _ => (react_daemon w op c).trans hw⟩
  have hkeeps : ∀ {p : Act Unit}, Calls (fun op => ∀ w, SoleVm w op) p →
      Keeps (machine allowed) SoleVm (fun w => w.daemon = w₀.daemon) p := fun hp =>
    keeps_of_harmless (Program.calls_mono hp hharmless)
  have hclears : ∀ op : Op, op.Clears → ∀ w, SoleVm w op := fun op hop w => by
    cases op <;> trivial
  have hdetach : ∀ device rule permanent, Calls (fun op => ∀ w, SoleVm w op)
      (detachOnePci w₀.daemon device rule permanent) := by
    intro device rule permanent
    have hcalls := calls_detachOnePci w₀.daemon device rule permanent
    refine Program.calls_mono hcalls fun op hop w => ?_
    cases op <;> trivial
  have hparts : PartsKeep allowed SoleVm (fun w => w.daemon = w₀.daemon) w₀.daemon := by
    refine .of_pci (fun op hop => hharmless op (soleVm_of_usb hop)) ?_
      (fun device rule permanent => hkeeps (hdetach device rule permanent))
      (hkeeps (Program.calls_mono (calls_observe w₀.daemon) hclears))
    intro device rule requestedVm w hd
    have hsole : (attachOnePci w₀.daemon device rule requestedVm).wp (machine allowed) SoleVm
        (fun _ _ => True) w := by
      rw [← hd]
      exact wp_attachOnePci_soleVm fun c hc => hunclaimed w device rule requestedVm c hc
    exact wp_mono (wp_and (wp_daemon (attachOnePci w₀.daemon device rule requestedVm)) hsole)
      (fun _ _ h => h.2) fun _ _ h => h.1.trans hd
  exact wp_imp (hparts.operation_keeps o w₀ rfl) fun _ _ _ => trivial

end Attach

/-! ## Boot arguments -/

def Emits (args : List String) (address : String) : Prop :=
  ∃ rootBus, vfioArgument address rootBus ∈ args

def Named (acc : VmmPci) : Prop := ∀ address, Emits acc.args address ↔ address ∈ acc.emitted

/-- Binding to `vfio-pci` leaves the IOMMU groups as they are. -/
def keepsGroups (w : World) : Op → Choice → Prop
  | .pciUnbind _, c | .pciOverride _, c | .pciProbe _, c =>
    ∀ address, iommuGroup (c.setPci w).pci address = iommuGroup w.pci address
  | _, _ => True

/-- The rules pass this address to the VM, as a device of its own or as a member of a group. -/
def World.PassedTo (w : World) (vmName address : String) : Prop :=
  ∃ x ∈ w.pciRouted w.daemon, x.2.targetVm = some vmName ∧ address ∈ w.passthrough x.1 x.2

/-- The passthroughs of the two VMs' devices have nothing in common. -/
def Apart (w : World) (first second : String) : Prop :=
  ∀ x ∈ w.pciRouted w.daemon, ∀ y ∈ w.pciRouted w.daemon, x.2.targetVm = some first →
    y.2.targetVm = some second → ∀ address ∈ w.passthrough x.1 x.2,
      address ∉ w.passthrough y.1 y.2

section Arguments

variable {address other : String} {rootBus rootBus' : Bool} {acc : VmmPci}

/-- The last character tells the two forms apart, and what remains is the address. -/
theorem vfioArgument_inj (h : vfioArgument address rootBus = vfioArgument other rootBus') :
    address = other := by
  have hchars := congrArg String.toList h
  unfold vfioArgument pciPath at hchars
  cases rootBus <;> cases rootBus' <;> simp [String.toList_append] at hchars
  · exact String.toList_inj.1 hchars
  · have hlast := congrArg List.getLast? hchars
    simp at hlast
  · have hlast := congrArg List.getLast? hchars
    simp at hlast
  · exact String.toList_inj.1 hchars

theorem vfioArgument_ne_flag (flag : String) (hflag : flag.toList.head? = some '-') :
    vfioArgument address rootBus ≠ flag := by
  rintro rfl
  unfold vfioArgument pciPath at hflag
  simp [String.toList_append] at hflag

theorem emits_append {args : List String} : Emits (args ++ ["--vfio", vfioArgument other rootBus])
    address ↔ Emits args address ∨ address = other := by
  unfold Emits
  constructor
  · rintro ⟨b, hmem⟩
    simp only [List.mem_append, List.mem_cons, List.not_mem_nil, or_false] at hmem
    obtain hold | hflag | hnew := hmem
    · exact .inl ⟨b, hold⟩
    · exact absurd hflag (vfioArgument_ne_flag _ (by decide))
    · exact .inr (vfioArgument_inj hnew)
  · rintro (⟨b, hmem⟩ | rfl)
    · exact ⟨b, List.mem_append_left _ hmem⟩
    · exact ⟨rootBus, by simp⟩

theorem mem_emitNew (xs : List String) (acc : VmmPci) :
    address ∈ (emitNew rootBus xs acc).emitted ↔ address ∈ acc.emitted ∨ address ∈ xs := by
  induction xs generalizing acc with
  | nil => simp [emitNew]
  | cons x rest ih =>
      unfold emitNew
      split
      case isTrue hnamed =>
        have hmem : x ∈ acc.emitted := by simpa using hnamed
        rw [ih, List.mem_cons]
        constructor
        · rintro (h | h)
          · exact .inl h
          · exact .inr (.inr h)
        · rintro (h | rfl | h)
          · exact .inl h
          · exact .inl hmem
          · exact .inr h
      case isFalse =>
        rw [ih, List.mem_cons, List.mem_cons]
        tauto

theorem named_emitNew (xs : List String) (h : Named acc) : Named (emitNew rootBus xs acc) := by
  induction xs generalizing acc with
  | nil => exact h
  | cons x rest ih =>
      unfold emitNew
      split
      case isTrue => exact ih h
      case isFalse =>
        refine ih fun address => ?_
        rw [emits_append, h address, List.mem_cons, or_comm]

end Arguments

section Boot

variable {allowed : World → Op → Choice → Prop} {w : World} {device : PciDevice}
  {rule : RuleMatch} {vmName : String}

theorem calls_bindNew (xs bound : List String) : Calls Op.Binds (bindNew xs bound) := by
  induction xs generalizing bound with
  | nil => trivial
  | cons x rest ih =>
      exact calls_ite (ih bound) (calls_bind (calls_bindVfio_binds x) fun _ => ih _)

variable (hgroups : ∀ w op c, allowed w op c → keepsGroups w op c)

include hgroups

theorem wp_binds_groups {α : Type} {p : Act α} (hp : Calls Op.Binds p) :
    p.wp (machine allowed) (fun _ _ => True)
      (fun _ w' => ∀ address, iommuGroup w'.pci address = iommuGroup w.pci address) w := by
  refine wp_of_calls hp ?_ ?_ fun _ => rfl
  · rintro w₁ _ rfl h
    exact h
  · rintro op hop w₁ h
    refine ⟨trivial, ?_⟩
    rintro r w₂ ⟨c, hc, hreact⟩ address
    have hkept := hgroups w₁ op c hc
    rw [← h address]
    obtain rfl : (react w₁ op c).2 = w₂ := by rw [hreact]
    cases op with
    | pciUnbind _ => exact hkept address
    | pciOverride _ => exact hkept address
    | pciProbe _ => exact hkept address
    | authorize _ _ => exact hop.elim
    | update _ => exact hop.elim
    | _ => rfl

theorem wp_vmmDevice {w₀ : World} {acc : VmmPci} (hnamed : Named acc)
    (hsame : ∀ address, iommuGroup w.pci address = iommuGroup w₀.pci address) :
    (vmmDevice acc device rule).wp (machine allowed) (fun _ _ => True) (fun r w' =>
      ∀ acc', r = .ok acc' →
        (∀ address, iommuGroup w'.pci address = iommuGroup w₀.pci address) ∧ Named acc' ∧
        ∀ address, address ∈ acc'.emitted ↔
          address ∈ acc.emitted ∨ address ∈ w₀.passthrough device rule) w := by
  rw [vmmDevice, wp_bind, iommuGroupAt, wp_operation]
  refine ⟨trivial, fun c _ => ?_⟩
  cases hfail : c.fail
  swap
  · simp [react, Choice.result, hfail]
  simp only [react, Choice.result, hfail, Bool.false_eq_true, if_false, id, andThen_ok]
  rw [wp_bind]
  refine wp_imp (wp_binds_groups hgroups (calls_bindNew _ _)) fun r w' hw' => ?_
  cases r with
  | error e =>
      intro acc' h
      cases h
  | ok bound =>
      intro acc' h
      obtain rfl := Except.ok.inj h
      refine ⟨fun address => (hw' address).trans (hsame address), ?_, fun address => ?_⟩
      · exact named_emitNew _ hnamed
      · rw [mem_emitNew, World.passthrough, hsame]

theorem wp_vmmDevices {flags : List String} (hflags : ∀ address, ¬Emits flags address)
    (xs : List (PciDevice × RuleMatch)) :
    wp (machine allowed) (fun _ _ => True)
      (xs.foldlM (fun acc x => vmmDevice acc x.1 x.2) { args := flags })
      (fun r _ => ∀ acc, r = .ok acc → Named acc ∧ ∀ address, address ∈ acc.emitted ↔
        ∃ x ∈ xs, address ∈ w.passthrough x.1 x.2) w := by
  refine wp_imp (wp_foldlM_rest (I := fun rest acc w' =>
    (∀ address, iommuGroup w'.pci address = iommuGroup w.pci address) ∧ Named acc ∧
      ∀ address, (address ∈ acc.emitted ∨ ∃ x ∈ rest, address ∈ w.passthrough x.1 x.2) ↔
        ∃ x ∈ xs, address ∈ w.passthrough x.1 x.2) ?_ _ ?_) ?_
  · rintro x rest acc w' ⟨hsame, hnamed, hall⟩
    refine wp_imp (wp_vmmDevice hgroups hnamed hsame) fun r w'' hdevice acc' hr => ?_
    obtain ⟨hsame', hnamed', hadded⟩ := hdevice acc' hr
    refine ⟨hsame', hnamed', fun address => ?_⟩
    rw [← hall address, hadded address]
    constructor
    · rintro ((h | h) | ⟨y, hy, h⟩)
      · exact .inl h
      · exact .inr ⟨x, List.mem_cons_self, h⟩
      · exact .inr ⟨y, List.mem_cons_of_mem x hy, h⟩
    · rintro (h | ⟨y, hy, h⟩)
      · exact .inl (.inl h)
      · obtain rfl | hrest := List.mem_cons.1 hy
        · exact .inl (.inr h)
        · exact .inr ⟨y, hrest, h⟩
  · refine ⟨fun _ => rfl, fun address => ?_, fun address => ?_⟩
    · exact iff_of_false (hflags address) List.not_mem_nil
    · simp
  · intro r w' h acc hr
    obtain ⟨_, hnamed, hall⟩ := h acc hr
    refine ⟨hnamed, fun address => ?_⟩
    rw [← hall address]
    simp

/-- The arguments pass exactly what the rules pass to the VM. -/
theorem wp_vmmArgs {requirePci : Bool} :
    (vmmArgs w.daemon vmName requirePci).wp (machine allowed) (fun _ _ => True) (fun r _ =>
      ∀ args, r = .ok args → ∀ address, Emits args address ↔ w.PassedTo vmName address) w := by
  rw [vmmArgs, wp_bind, vmmPci, wp_bind, Daemon.vmNamed, wp_require]
  cases w.daemon.vm vmName with
  | none =>
      intro args h
      cases h
  | some vm =>
      rw [Option.elim_some, andThen_ok, wp_bind]
      refine wp_imp (wp_pciDevices trivial fun _ => trivial) ?_
      rintro r w' ⟨rfl, hpci⟩
      cases r with
      | error e =>
          intro args h
          cases h
      | ok devices =>
          obtain rfl := hpci devices rfl
          rw [andThen_ok]
          dsimp only
          split
          · intro args h
            cases h
          split
          · intro args h
            cases h
          have hflags : ∀ address, ¬Emits
              (if w'.daemon.config.hasPciRules vmName then ["--vfio-isolate-hotplug"] else [])
              address := by
            rintro address ⟨b, hmem⟩
            split at hmem
            · exact vfioArgument_ne_flag _ (by decide) (List.mem_singleton.1 hmem)
            · cases hmem
          refine wp_imp (wp_vmmDevices hgroups hflags _) fun r w₁ h => ?_
          cases r with
          | error e =>
              intro args h
              cases h
          | ok acc =>
              intro args hargs address
              obtain ⟨hnamed, hall⟩ := h acc rfl
              obtain rfl := Except.ok.inj hargs
              rw [hnamed address, hall address, World.PassedTo]
              constructor
              · rintro ⟨x, hx, hmem⟩
                obtain ⟨hrouted, htarget⟩ := List.mem_filter.1 hx
                exact ⟨x, hrouted, by simpa using htarget, hmem⟩
              · rintro ⟨x, hrouted, htarget, hmem⟩
                exact ⟨x, List.mem_filter.2 ⟨hrouted, by simpa using htarget⟩, hmem⟩

/-- In runs whose attach calls all find what they widen to unclaimed, no address is added to a VM
while it is recorded for another one; and the boot arguments of two VMs pass no address twice
exactly where the rules keep the passthroughs apart. -/
theorem pci_owned_once (hunclaimed : ∀ w device rule requestedVm c,
      allowed w (.enter (.attachOnePci device rule requestedVm)) c → Unclaimed w device rule) :
    (∀ w op, Issued allowed w op → SoleVm w op) ∧
    ∀ w first second requireFirst requireSecond tr₁ w₁ tr₂ w₂ firstArgs secondArgs,
      Exec (machine allowed) (vmmArgs w.daemon first requireFirst).run w tr₁ w₁
        (some (.ok firstArgs)) →
      Exec (machine allowed) (vmmArgs w.daemon second requireSecond).run w tr₂ w₂
        (some (.ok secondArgs)) →
      ((∀ address, Emits firstArgs address → ¬Emits secondArgs address) ↔
        Apart w first second) := by
  constructor
  · intro w op h
    refine h.guarantee (I := fun _ => True) (G := SoleVm) (fun _ _ => trivial) fun w o _ => ?_
    exact wp_operation_soleVm hunclaimed w o
  · intro w first second _ _ tr₁ w₁ tr₂ w₂ firstArgs secondArgs hfirst hsecond
    have hfirst' := (Program.wp_sound (wp_vmmArgs hgroups) hfirst).2 _ rfl firstArgs rfl
    have hsecond' := (Program.wp_sound (wp_vmmArgs hgroups) hsecond).2 _ rfl secondArgs rfl
    constructor
    · intro hdisjoint x hx y hy hxFirst hySecond address hmem hmem'
      refine hdisjoint address ((hfirst' address).2 ⟨x, hx, hxFirst, hmem⟩) ?_
      exact (hsecond' address).2 ⟨y, hy, hySecond, hmem'⟩
    · intro hapart address hmem hmem'
      obtain ⟨x, hx, hxFirst, hxMem⟩ := (hfirst' address).1 hmem
      obtain ⟨y, hy, hySecond, hyMem⟩ := (hsecond' address).1 hmem'
      exact hapart x hx y hy hxFirst hySecond address hxMem hyMem

end Boot

/-! ## A group two rules divide -/

def functionEach : World :=
  sharedGroup [pciRuleFor [firstFunction] "gui-vm" [], pciRuleFor [secondFunction] "net-vm" []]

/-- The rule of the first function takes the group along. -/
def groupAndFunction : World :=
  sharedGroup [pciRuleFor [firstFunction] "gui-vm" [("pciIommuAddAll", .bool true)],
    pciRuleFor [secondFunction] "net-vm" []]

def attachSecond : Operation := .pciAttach { address := some secondFunction } none

/-- Calls that find what they widen to unclaimed, and nothing moves on the bus. -/
def attachesUnclaimed (w : World) : Op → Choice → Prop
  | .enter (.attachOnePci device rule _), _ => Unclaimed w device rule
  | _, c => c.pci.isNone

instance (w : World) (device : PciDevice) (rule : RuleMatch) :
    Decidable (Unclaimed w device rule) := by
  unfold Unclaimed
  infer_instance

instance (w : World) (op : Op) (c : Choice) : Decidable (attachesUnclaimed w op c) := by
  delta attachesUnclaimed
  induction op using Op.casesOn with
  | enter entry => induction entry using Entry.casesOn <;> infer_instance
  | _ => infer_instance

instance (w : World) (first second : String) : Decidable (Apart w first second) := by
  unfold Apart
  infer_instance

instance (w : World) (op : Op) : Decidable (SoleVm w op) := by
  delta SoleVm
  induction op using Op.casesOn <;> infer_instance

theorem keepsGroups_of_isNone {w : World} {op : Op} {c : Choice} (h : c.pci.isNone) :
    keepsGroups w op c := by
  have hsame : c.setPci w = w := by
    rw [Option.isNone_iff_eq_none] at h
    simp [Choice.setPci, h]
  unfold keepsGroups
  split <;> simp [hsame]

def Op.vfioTarget : Op → Option (Vm × String)
  | .vfioAdd vm address => some (vm, address)
  | _ => none

theorem Op.eq_vfioAdd {op : Op} {vm : Vm} {address : String}
    (h : op.vfioTarget = some (vm, address)) : op = .vfioAdd vm address := by
  cases op with
  | vfioAdd v a =>
      obtain ⟨rfl, rfl⟩ := Prod.mk.inj (Option.some.inj h)
      rfl
  | _ => cases h

def World.followArgs (w : World) (pick : World → Op → Choice) (vmName : String) :
    List (World × Op) × World × Except Error (List String) :=
  (vmmArgs w.daemon vmName true).run.follow react pick w

theorem exec_followArgs (allowed : World → Op → Choice → Prop) (w : World)
    (pick : World → Op → Choice) (vmName : String)
    (hallowed : ∀ e ∈ (w.followArgs pick vmName).1, allowed e.1 e.2 (pick e.1 e.2))
    (hok : (w.followArgs pick vmName).2.2.toBool = true) : ∃ tr w' args,
      (w.followArgs pick vmName).2.2 = .ok args ∧
        Exec (machine allowed) (vmmArgs w.daemon vmName true).run w tr w' (some (.ok args)) := by
  have hexec := Program.follow_exec (vmmArgs w.daemon vmName true).run w hallowed
  cases hresult : (w.followArgs pick vmName).2.2 with
  | error e =>
      rw [hresult] at hok
      cases hok
  | ok args =>
      rw [World.followArgs] at hresult
      rw [hresult] at hexec
      exact ⟨_, _, args, rfl, hexec⟩

theorem pci_owned_once_functionEach : (∃ w,
    Issued attachesUnclaimed w (.vfioAdd guiVm firstFunction) ∧
      SoleVm w (.vfioAdd guiVm firstFunction)) ∧
    ∃ tr₁ w₁ guiArgs tr₂ w₂ netArgs,
      Exec (machine attachesUnclaimed) (vmmArgs functionEach.daemon "gui-vm" true).run
        functionEach tr₁ w₁ (some (.ok guiArgs)) ∧
      Exec (machine attachesUnclaimed) (vmmArgs functionEach.daemon "net-vm" true).run
        functionEach tr₂ w₂ (some (.ok netArgs)) ∧
      ∀ address, Emits guiArgs address → ¬Emits netArgs address := by
  have hgroups : ∀ w op c, attachesUnclaimed w op c → keepsGroups w op c := by
    intro w op c h
    cases op with
    | pciUnbind address => exact keepsGroups_of_isNone h
    | pciOverride address => exact keepsGroups_of_isNone h
    | pciProbe address => exact keepsGroups_of_isNone h
    | _ => trivial
  have howned := pci_owned_once hgroups fun w device rule vm c h => h
  have hallowed : ∀ e ∈ functionEach.trace (refusing none) attachFirst,
      attachesUnclaimed e.1 e.2 (refusing none e.1 e.2) := by decide +kernel
  have hinitial : Reachable attachesUnclaimed functionEach := .initial (by decide) rfl rfl rfl
  constructor
  · have hcall : ∃ e ∈ functionEach.trace (refusing none) attachFirst,
        e.2.vfioTarget = some (guiVm, firstFunction) := by decide +kernel
    obtain ⟨⟨w, op⟩, he, hop⟩ := hcall
    obtain rfl := Op.eq_vfioAdd hop
    have hissued := hinitial.issued (refusing none) attachFirst hallowed he
    exact ⟨w, hissued, howned.1 w _ hissued⟩
  · obtain ⟨tr₁, w₁, guiArgs, -, hgui⟩ := exec_followArgs attachesUnclaimed functionEach
      (refusing none) "gui-vm" (by decide +kernel) (by decide +kernel)
    obtain ⟨tr₂, w₂, netArgs, -, hnet⟩ := exec_followArgs attachesUnclaimed functionEach
      (refusing none) "net-vm" (by decide +kernel) (by decide +kernel)
    refine ⟨tr₁, w₁, guiArgs, tr₂, w₂, netArgs, hgui, hnet, ?_⟩
    exact (howned.2 functionEach "gui-vm" "net-vm" true true tr₁ w₁ tr₂ w₂ guiArgs netArgs hgui
      hnet).2 (by decide +kernel)

/-- The second function goes along with the first to one VM, and by its own rule to another: at
run time, and on the command lines of the two. -/
theorem pci_owned_twice : (¬∀ w op,
    Issued (fun w op c => listsGiven w op c ∧ keepsGroups w op c) w op → SoleVm w op) ∧
    ¬∀ w first second tr₁ w₁ tr₂ w₂ firstArgs secondArgs, first ≠ second →
      w.daemon.config.Valid →
      Exec (machine keepsGroups) (vmmArgs w.daemon first true).run w tr₁ w₁
        (some (.ok firstArgs)) →
      Exec (machine keepsGroups) (vmmArgs w.daemon second true).run w tr₂ w₂
        (some (.ok secondArgs)) →
      ∀ address, Emits firstArgs address → ¬Emits secondArgs address := by
  have hgroups : ∀ (w : World) op, keepsGroups w op (refusing none w op) := by
    intro w op
    refine keepsGroups_of_isNone ?_
    cases op with
    | vfioAdd vm address => rfl
    | _ => rfl
  constructor
  · intro hclaim
    have hfirst : ∀ e ∈ groupAndFunction.trace (refusing none) attachFirst,
        listsGiven e.1 e.2 (refusing none e.1 e.2) := by decide +kernel
    have hsecond : ∀ e ∈ (groupAndFunction.perform (refusing none) attachFirst).trace
        (refusing none) attachSecond, listsGiven e.1 e.2 (refusing none e.1 e.2) := by
      decide +kernel
    have hinitial : Reachable (fun w op c => listsGiven w op c ∧ keepsGroups w op c)
        groupAndFunction := .initial (by decide) rfl rfl rfl
    have hattached := hinitial.perform (refusing none) attachFirst
      fun e he => ⟨hfirst e he, hgroups e.1 e.2⟩
    have hcall : ∃ e ∈ (groupAndFunction.perform (refusing none) attachFirst).trace
        (refusing none) attachSecond, ¬SoleVm e.1 e.2 := by decide +kernel
    obtain ⟨e, he, hnot⟩ := hcall
    exact hnot (hclaim e.1 e.2 (hattached.issued (refusing none) attachSecond
      (fun e he => ⟨hsecond e he, hgroups e.1 e.2⟩) he))
  · intro hclaim
    obtain ⟨tr₁, w₁, guiArgs, hguiArgs, hgui⟩ := exec_followArgs keepsGroups
      groupAndFunction (refusing none) "gui-vm" (fun e _ => hgroups e.1 e.2) (by decide +kernel)
    obtain ⟨tr₂, w₂, netArgs, hnetArgs, hnet⟩ := exec_followArgs keepsGroups
      groupAndFunction (refusing none) "net-vm" (fun e _ => hgroups e.1 e.2) (by decide +kernel)
    have hboth : ∀ vmName ∈ ["gui-vm", "net-vm"],
        (groupAndFunction.followArgs (refusing none) vmName).2.2.toOption.any
          (fun args => decide (vfioArgument secondFunction false ∈ args)) = true := by
      decide +kernel
    have hguiMem := hboth "gui-vm" (by decide)
    have hnetMem := hboth "net-vm" (by decide)
    rw [hguiArgs] at hguiMem
    rw [hnetArgs] at hnetMem
    exact hclaim groupAndFunction "gui-vm" "net-vm" tr₁ w₁ tr₂ w₂ guiArgs netArgs (by decide)
      (by decide) hgui hnet secondFunction ⟨false, of_decide_eq_true hguiMem⟩
      ⟨false, of_decide_eq_true hnetMem⟩

end GhafDeviceManager
