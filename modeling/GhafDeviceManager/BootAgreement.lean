import GhafDeviceManager.Isolation
import GhafDeviceManager.PciOwners

/-!
# Boot arguments against a resume

The boot arguments of a VM and a resume of the running VM go over the same routed devices. The
resume leaves out the devices marked as disconnected, the arguments do not, and both take a marked
device along where another's passthrough contains it.
-/

namespace GhafDeviceManager

open Fallible

/-- Every command is carried out, and a Crosvm lists what it was given and nothing else new. -/
def plugsAll (w : World) (op : Op) (c : Choice) : Prop :=
  c.fail = false ∧ keepsGroups w op c ∧
    match op with
    | .vfioAdd vm address => ∀ path ∈ (c.setVfio w vm.socket).vfio vm.socket,
        path ∈ w.vfio vm.socket ∨ path = pciPath address
    | _ => True

def World.unlisted (w : World) : World := { w with vfio := fun _ => [] }

def Effect.adds : Effect → Option String
  | .vfioAdd _ address _ => some address
  | _ => none

def Handed (w w' : World) (address : String) : Prop :=
  ∃ effect, Since w w' effect ∧ effect.adds = some address

/-- A routed device of the VM that is not marked as disconnected. -/
def World.Due (w : World) (vmName : String) (x : PciDevice × RuleMatch) : Prop :=
  x ∈ w.pciRouted w.daemon ∧ x.2.targetVm = some vmName ∧
    w.memory.persistent.disconnected x.1.persistentId = false

/-- What a resume hands to the VM. -/
def World.DueTo (w : World) (vmName address : String) : Prop :=
  ∃ x, w.Due vmName x ∧ address ∈ w.passthrough x.1 x.2

structure Plugging (w₀ : World) (vmName : String) (vm : Vm) (w : World) : Prop where
  groups : ∀ address, iommuGroup w.pci address = iommuGroup w₀.pci address
  marks : ∀ id, w.memory.persistent.disconnected id = w₀.memory.persistent.disconnected id
  log : w₀.log <:+ w.log
  handed : ∀ address, Handed w₀ w address → w₀.DueTo vmName address
  listed : ∀ path ∈ w.vfio vm.socket, ∃ address, path = pciPath address ∧ Handed w₀ w address

def Op.Plugs (w₀ : World) (vmName : String) (vm : Vm) : Op → Prop
  | .vfioAdd other address => other = vm ∧ w₀.DueTo vmName address
  | .update (.setDisconnected id value) =>
    value = false ∧ w₀.memory.persistent.disconnected id = false
  | .update (.pciVmsInsert _ _) | .enter _ | .save => True
  | op => op.Binds

/-- The two paths pass the same addresses, and none of a marked device. -/
def PathsAgree (w w' : World) (args : List String) : Prop :=
  (∀ address, Emits args address ↔ Handed w.unlisted w' address) ∧
    ∀ device ∈ scanPci w.pci, w.memory.persistent.disconnected device.persistentId = true →
      ¬Emits args device.address ∧ ¬Handed w.unlisted w' device.address

/-- No marked device is in what the rules pass to the VM, and of what a marked one would take
along nothing is passed on its account alone. -/
def World.MarksApart (w : World) (vmName : String) : Prop :=
  (∀ device ∈ scanPci w.pci, w.memory.persistent.disconnected device.persistentId = true →
    ¬w.PassedTo vmName device.address) ∧
  ∀ x ∈ w.pciRouted w.daemon, x.2.targetVm = some vmName →
    w.memory.persistent.disconnected x.1.persistentId = true →
      ∀ address ∈ w.passthrough x.1 x.2, w.DueTo vmName address

section Handed

variable {w₀ w : World} {op : Op} {c : Choice} {address : String}

theorem pciPath_inj {other : String} (h : pciPath address = pciPath other) : address = other := by
  have hsame : vfioArgument address true = vfioArgument other true := by
    rw [vfioArgument, vfioArgument, h]
  exact vfioArgument_inj hsame

theorem Handed.later {w' : World} (h : Handed w₀ w address) (hlog : w.log <:+ w'.log) :
    Handed w₀ w' address := by
  obtain ⟨effect, hsince, hadds⟩ := h
  exact ⟨effect, hsince.later hlog, hadds⟩

theorem react_adds (w : World) (op : Op) (c : Choice) : (react w op c).2.log = w.log ∨
    ∃ effect, (react w op c).2.log = effect :: w.log ∧
      ∀ address, effect.adds = some address → ∃ vm, op = .vfioAdd vm address := by
  cases op with
  | update u =>
      cases u with
      | crosvmUsbPortsInsert device vm port generation => exact .inr ⟨_, rfl, by simp [Effect.adds]⟩
      | _ => exact .inl rfl
  | authorize name value =>
      simp only [react]
      split
      · exact .inl rfl
      · exact .inr ⟨_, rfl, by simp [Effect.adds]⟩
  | vfioAdd vm other =>
      refine .inr ⟨_, rfl, fun address h => ⟨vm, ?_⟩⟩
      obtain rfl : other = address := Option.some.inj h
      rfl
  | _ => first | exact .inl rfl | exact .inr ⟨_, rfl, by simp [Effect.adds]⟩

theorem handed_react (h : Handed w₀ (react w op c).2 address) :
    Handed w₀ w address ∨ ∃ vm, op = .vfioAdd vm address := by
  obtain ⟨effect, ⟨news, hnews, hmem⟩, hadds⟩ := h
  obtain hsame | ⟨added, hadded, hop⟩ := react_adds w op c
  · rw [hsame] at hnews
    exact .inl ⟨effect, ⟨news, hnews, hmem⟩, hadds⟩
  · rw [hadded] at hnews
    cases news with
    | nil => cases hmem
    | cons first rest =>
        obtain ⟨rfl, hrest⟩ := List.cons.inj hnews
        obtain rfl | hmem := List.mem_cons.1 hmem
        · exact .inr (hop address hadds)
        · exact .inl ⟨effect, ⟨rest, hrest, hmem⟩, hadds⟩

theorem keeps_handed {α : Type} (w₀ : World) (p : Act α) (S : String → Prop) :
    Keeps (machine plugsAll) (fun _ _ => True)
      (fun w => ∀ address, S address → Handed w₀ w address) p :=
  keeps_of_harmless (Program.calls_mono (Program.calls_top p.run) fun op _ w h =>
    ⟨trivial, fun c _ address hS => (h address hS).later (log_suffix_react w op c)⟩)

theorem not_handed_self : ¬Handed w w address := by
  rintro ⟨effect, ⟨news, hnews, hmem⟩, -⟩
  rw [List.self_eq_append_left.1 hnews] at hmem
  cases hmem

end Handed

section Resume

variable {w₀ w : World} {vmName : String} {vm : Vm}

theorem plugging_start (w : World) (vmName : String) (vm : Vm) :
    Plugging w.unlisted vmName vm w.unlisted where
  groups _ := rfl
  marks _ := rfl
  log := List.suffix_rfl
  handed _ h := absurd h not_handed_self
  listed path hpath := by cases hpath

theorem plugging_react {op : Op} {c : Choice} (h : Plugging w₀ vmName vm w)
    (hop : op.Plugs w₀ vmName vm) (hc : plugsAll w op c) :
    Plugging w₀ vmName vm (react w op c).2 := by
  have hlater := log_suffix_react w op c
  have hgroups : ∀ address, iommuGroup (react w op c).2.pci address =
      iommuGroup w.pci address := by
    have hkept := hc.2.1
    cases op with
    | pciUnbind _ => exact hkept
    | pciOverride _ => exact hkept
    | pciProbe _ => exact hkept
    | update u => cases u <;> exact fun _ => rfl
    | authorize _ _ => exact hop.elim
    | _ => exact fun _ => rfl
  have hmarks : ∀ id, (react w op c).2.memory.persistent.disconnected id =
      w.memory.persistent.disconnected id := by
    intro id
    cases op with
    | update u =>
        cases u with
        | setDisconnected other value =>
            obtain ⟨rfl, hother⟩ := hop
            refine (PersistentState.disconnected_setDisconnected _ _ _ _).trans ?_
            split
            case isTrue hsame => rw [hsame, h.marks other, hother]
            case isFalse => rfl
        | _ => rfl
    | authorize _ _ => exact hop.elim
    | _ => rfl
  have hlisted : ∀ path ∈ (react w op c).2.vfio vm.socket, path ∈ w.vfio vm.socket ∨
      ∃ address, path = pciPath address ∧ op = .vfioAdd vm address := by
    intro path hpath
    cases op with
    | vfioAdd other address =>
        obtain ⟨rfl, -⟩ := hop
        exact (hc.2.2 path hpath).imp_right fun hnew => ⟨address, hnew, rfl⟩
    | vfioRemove _ _ => exact hop.elim
    | update u => cases u <;> exact .inl hpath
    | authorize _ _ => exact hop.elim
    | _ => exact .inl hpath
  refine ⟨fun address => (hgroups address).trans (h.groups address),
    fun id => (hmarks id).trans (h.marks id), h.log.trans hlater, fun address hhanded => ?_,
    fun path hpath => ?_⟩
  · obtain hbefore | ⟨other, rfl⟩ := handed_react hhanded
    · exact h.handed address hbefore
    · exact hop.2
  · obtain hbefore | ⟨address, rfl, rfl⟩ := hlisted path hpath
    · obtain ⟨address, hpath, hhanded⟩ := h.listed path hbefore
      exact ⟨address, hpath, hhanded.later hlater⟩
    · exact ⟨address, rfl, _, since_record h.log, rfl⟩

theorem succeeds_plugs {α : Type} {op : Op} {result : Reply op → Except Error α}
    (hop : op.Plugs w₀ vmName vm)
    (hresult : ∀ w c, c.fail = false → ∃ a, result (react w op c).1 = .ok a) :
    Succeeds (machine plugsAll) (fun _ _ => True) (Plugging w₀ vmName vm)
      (Fallible.request op result) := by
  intro w hw
  rw [wp_operation]
  exact ⟨trivial, fun c hc => ⟨hresult w c hc.1, plugging_react hw hop hc⟩⟩

theorem harmless_plugs {op : Op} (hop : op.Plugs w₀ vmName vm) :
    Harmless plugsAll (fun _ _ => True) (Plugging w₀ vmName vm) op :=
  fun _ hw => ⟨trivial, fun _ hc => plugging_react hw hop hc⟩

theorem succeeds_bindVfio_plugs (address : String) :
    Succeeds (machine plugsAll) (fun _ _ => True) (Plugging w₀ vmName vm) (bindVfio address) := by
  refine succeeds_bind (succeeds_plugs (by trivial) fun _ _ _ => ⟨_, rfl⟩) fun found => ?_
  have hwrites : ∀ op ∈ [Op.pciUnbind address, .pciOverride address, .pciProbe address],
      op.Plugs w₀ vmName vm := by simp [Op.Plugs, Op.Binds]
  have hbind : Succeeds (machine plugsAll) (fun _ _ => True) (Plugging w₀ vmName vm) (do
      Fallible.request (.pciOverride address) id
      Fallible.request (.pciProbe address) id : Act Unit) := by
    refine succeeds_bind (succeeds_plugs (hwrites _ (by simp)) fun w c hc => ⟨(), ?_⟩) fun _ =>
      succeeds_plugs (hwrites _ (by simp)) fun w c hc => ⟨(), ?_⟩
    · simp [react, Choice.result, hc]
    · simp [react, Choice.result, hc]
  split
  · split
    · refine succeeds_bind (succeeds_plugs (hwrites _ (by simp)) fun w c hc => ⟨(), ?_⟩)
        fun _ => hbind
      simp [react, Choice.result, hc]
    · exact hbind
  · exact succeeds_pure ()

theorem succeeds_recordPci (d : Daemon) {device : PciDevice} {attach : List String}
    (hmark : w₀.memory.persistent.disconnected device.persistentId = false) :
    Succeeds (machine plugsAll) (fun _ _ => True) (Plugging w₀ vmName vm)
      (recordPci d device vmName attach) := by
  refine succeeds_withLock (harmless_plugs (by trivial)) (harmless_plugs (by trivial)) ?_
  refine succeeds_bind (succeeds_forM fun address _ => ?_) fun _ => ?_
  · exact succeeds_plugs (by trivial) fun _ _ _ => ⟨(), rfl⟩
  · refine succeeds_bind (succeeds_plugs ⟨rfl, hmark⟩ fun _ _ _ => ⟨(), rfl⟩) fun _ => ?_
    unfold saveState
    split
    · refine succeeds_plugs (by trivial) fun w c hc => ⟨(), ?_⟩
      simp [react, Choice.result, hc]
    · exact succeeds_pure ()

/-- What a list shows was handed over, so skipping it leaves nothing out. -/
theorem wp_addMissing_hands {live attach : List String}
    (hlive : ∀ path ∈ live, ∃ address, path = pciPath address ∧ Handed w₀ w address)
    (hdue : ∀ address ∈ attach, w₀.DueTo vmName address) (hw : Plugging w₀ vmName vm w)
    (changed : Bool) : (addMissing vm live attach changed).wp (machine plugsAll) (fun _ _ => True)
      (fun r w' => (∃ changed', r = .ok changed') ∧ Plugging w₀ vmName vm w' ∧
        ∀ address ∈ attach, Handed w₀ w' address) w := by
  induction attach generalizing w changed with
  | nil => exact ⟨⟨changed, rfl⟩, hw, by simp⟩
  | cons address rest ih =>
      have hrest : ∀ other ∈ rest, w₀.DueTo vmName other := fun other hother =>
        hdue other (List.mem_cons_of_mem address hother)
      have hgoes : ∀ w' changed', w.log <:+ w'.log → Plugging w₀ vmName vm w' →
          Handed w₀ w' address → (addMissing vm live rest changed').wp (machine plugsAll)
            (fun _ _ => True) (fun r w'' => (∃ changed'', r = .ok changed'') ∧
              Plugging w₀ vmName vm w'' ∧
              ∀ other ∈ address :: rest, Handed w₀ w'' other) w' := by
        intro w' changed' hlog hw' hhanded
        have hlive' : ∀ path ∈ live, ∃ other, path = pciPath other ∧ Handed w₀ w' other := by
          intro path hpath
          obtain ⟨other, hother, hbefore⟩ := hlive path hpath
          exact ⟨other, hother, hbefore.later hlog⟩
        have hkept := keeps_handed w₀ (addMissing vm live rest changed') (· = address) w'
          fun _ h => h ▸ hhanded
        refine wp_mono (wp_and (ih hlive' hrest hw' changed') hkept) (fun _ _ _ => trivial) ?_
        rintro r w'' ⟨⟨hok, hw'', hothers⟩, hfirst⟩
        exact ⟨hok, hw'', List.forall_mem_cons.2 ⟨hfirst address rfl, hothers⟩⟩
      unfold addMissing
      split
      case isTrue hlisted =>
        obtain ⟨other, hother, hhanded⟩ := hlive (pciPath address) (by simpa using hlisted)
        obtain rfl := pciPath_inj hother
        exact hgoes w changed List.suffix_rfl hw hhanded
      case isFalse =>
        rw [wp_bind, wp_withContext, vfioAdd, wp_operation]
        refine ⟨trivial, fun c hc => ?_⟩
        have hplugs : (Op.vfioAdd vm address).Plugs w₀ vmName vm :=
          ⟨rfl, hdue address List.mem_cons_self⟩
        have hlog := log_suffix_react w (.vfioAdd vm address) c
        have hhanded : Handed w₀ (react w (.vfioAdd vm address) c).2 address :=
          ⟨_, since_record hw.log, rfl⟩
        have hreply : (react w (.vfioAdd vm address) c).1 = .ok () := by
          simp [react, Choice.result, hc.1]
        rw [hreply]
        exact hgoes _ true hlog (plugging_react hw hplugs hc) hhanded

/-- A rule that skips shared groups routes no device of one. -/
theorem not_shared_of_mem {x : PciDevice × RuleMatch} {d : Daemon} (hx : x ∈ w.pciRouted d) :
    (x.2.iommuSkipIfShared && decide (1 < (iommuGroup w.pci x.1.address).length)) = false := by
  rw [World.pciRouted, List.mem_insertionSort, Daemon.pciRouted, List.mem_filterMap] at hx
  obtain ⟨device, -, hx⟩ := hx
  obtain ⟨rule, -, hrule⟩ := Option.bind_eq_some_iff.1 hx
  split at hrule
  case isTrue => cases hrule
  case isFalse halone =>
    obtain rfl := Option.some.inj hrule
    exact Bool.eq_false_of_not_eq_true halone

theorem wp_attachOnePci_hands {d : Daemon} {x : PciDevice × RuleMatch} (hx : w₀.Due vmName x)
    (hvm : d.vm vmName = some vm) (hw : Plugging w₀ vmName vm w) :
    (attachOnePci d x.1 x.2 x.2.targetVm).wp (machine plugsAll) (fun _ _ => True)
      (fun r w' => r = .ok () ∧ Plugging w₀ vmName vm w' ∧
        ∀ address ∈ w₀.passthrough x.1 x.2, Handed w₀ w' address) w := by
  obtain ⟨hrouted, htarget, hmark⟩ := hx
  have hdue : ∀ address ∈ w₀.passthrough x.1 x.2, w₀.DueTo vmName address :=
    fun address hmem => ⟨x, ⟨hrouted, htarget, hmark⟩, hmem⟩
  rw [attachOnePci, wp_bind, enter, wp_operation]
  refine ⟨trivial, fun c hc => ?_⟩
  have hentered : Plugging w₀ vmName vm
      (react w (.enter (.attachOnePci x.1 x.2 x.2.targetVm)) c).2 :=
    plugging_react hw (by trivial) hc
  generalize (react w (.enter (.attachOnePci x.1 x.2 x.2.targetVm)) c).2 = w₁ at hentered
  rw [andThen_ok, htarget, wp_bind, wp_require, Option.elim_some, andThen_ok]
  dsimp only [Option.getD_some]
  rw [if_neg (fun hne => hne rfl), Daemon.vmNamed, wp_bind, wp_require, hvm, Option.elim_some,
    andThen_ok, wp_bind, wp_withContext, vfioList, wp_operation]
  refine ⟨trivial, fun c₁ hc₁ => ?_⟩
  simp only [react, Choice.result, hc₁.1, Bool.false_eq_true, if_false, id, Except.mapError]
  rw [andThen_ok, wp_bind, iommuGroupAt, wp_operation]
  refine ⟨trivial, fun c₂ hc₂ => ?_⟩
  simp only [react, Choice.result, hc₂.1, Bool.false_eq_true, if_false, id]
  rw [andThen_ok, hentered.groups, not_shared_of_mem hrouted, if_neg Bool.false_ne_true, wp_bind]
  have hbinds := keeps_handed w₀ ((quarantine x.1 (iommuGroup w₀.pci x.1.address)).forM bindVfio)
    (fun address => Handed w₀ w₁ address) w₁ fun _ h => h
  have hquarantine := succeeds_forM (l := quarantine x.1 (iommuGroup w₀.pci x.1.address))
    (f := bindVfio) (I := Plugging w₀ vmName vm) (G := fun _ _ => True) (M := machine plugsAll)
    fun address _ => succeeds_bindVfio_plugs address
  refine wp_mono (wp_and (hquarantine w₁ hentered) hbinds) (fun _ _ _ => trivial) ?_
  rintro _ w₂ ⟨⟨⟨_, rfl⟩, hw₂⟩, hbefore⟩
  rw [andThen_ok, attachQuarantined, wp_bind, readMemory, wp_operation]
  refine ⟨trivial, fun _ _ => ?_⟩
  rw [react, andThen_ok]
  dsimp only
  rw [wp_bind]
  have hlive₂ : ∀ path ∈ w₁.vfio vm.socket, ∃ address, path = pciPath address ∧
      Handed w₀ w₂ address := by
    intro path hpath
    obtain ⟨address, hpath, hhanded⟩ := hentered.listed path hpath
    exact ⟨address, hpath, hbefore address hhanded⟩
  refine wp_imp (wp_addMissing_hands hlive₂ hdue hw₂ _) ?_
  rintro _ w₃ ⟨⟨changed, rfl⟩, hw₃, hhanded⟩
  rw [andThen_ok]
  have hrecord : Succeeds (machine plugsAll) (fun _ _ => True) (Plugging w₀ vmName vm) (do
      recordPci d x.1 vmName (w₀.passthrough x.1 x.2)
      if changed then notify (.pciAttached x.1 vmName) : Act Unit) := by
    refine succeeds_bind (succeeds_recordPci d hmark) fun _ => ?_
    split
    · exact succeeds_plugs (by trivial) fun _ _ _ => ⟨(), rfl⟩
    · exact succeeds_pure ()
  refine wp_mono (wp_and (hrecord w₃ hw₃) (keeps_handed w₀ _
    (· ∈ w₀.passthrough x.1 x.2) w₃ hhanded)) (fun _ _ _ => trivial) ?_
  rintro r w' ⟨⟨⟨_, rfl⟩, hw'⟩, hall⟩
  exact ⟨rfl, hw', hall⟩

theorem wp_resumePciDevice_hands {d : Daemon} (x : PciDevice × RuleMatch)
    (hrouted : x ∈ w₀.pciRouted w₀.daemon) (hvm : d.vm vmName = some vm)
    (hw : Plugging w₀ vmName vm w) (failures : List String) :
    (resumePciDevice d (some vmName) failures x.1 x.2).wp (machine plugsAll) (fun _ _ => True)
      (fun r w' => (∃ failures', r = .ok failures') ∧ Plugging w₀ vmName vm w' ∧
        (w₀.Due vmName x → ∀ address ∈ w₀.passthrough x.1 x.2, Handed w₀ w' address)) w := by
  rw [resumePciDevice, wp_bind, readMemory, wp_operation]
  refine ⟨trivial, fun _ _ => ?_⟩
  rw [react, andThen_ok, hw.marks]
  split
  case isTrue hmarked =>
    refine ⟨⟨failures, rfl⟩, hw, fun hx => ?_⟩
    rw [hx.2.2] at hmarked
    cases hmarked
  case isFalse hunmarked =>
    split
    case isTrue hscope =>
      have htarget : x.2.targetVm = some vmName := by
        cases hfound : x.2.targetVm with
        | none =>
            rw [hfound] at hscope
            cases hscope
        | some target =>
            have hname : vmName = target := by simpa [hfound, covers] using hscope
            rw [hname]
      have hx : w₀.Due vmName x := ⟨hrouted, htarget, Bool.eq_false_of_not_eq_true hunmarked⟩
      rw [collectDeferring, wp_bind, wp_attempt]
      refine wp_imp (wp_attachOnePci_hands hx hvm hw) ?_
      rintro _ w' ⟨rfl, hw', hhanded⟩
      exact ⟨⟨failures, rfl⟩, hw', fun _ => hhanded⟩
    case isFalse hscope =>
      refine ⟨⟨failures, rfl⟩, hw, fun hx => absurd ?_ hscope⟩
      rw [hx.2.1]
      simp [covers]

/-- A resume over empty lists hands over exactly what is due. -/
theorem wp_resumePci_hands {w : World} (hvm : w.daemon.vm vmName = some vm) :
    (resumePci w.daemon (some vmName)).wp (machine plugsAll) (fun _ _ => True)
      (fun _ w' => ∀ address, Handed w.unlisted w' address ↔ w.unlisted.DueTo vmName address)
      w.unlisted := by
  have hstart := plugging_start w vmName vm
  have hscan : (pciDevices w.daemon).wp (machine plugsAll) (fun _ _ => True)
      (fun r w' => w' = w.unlisted ∧ r = .ok (w.unlisted.pciRouted w.daemon)) w.unlisted := by
    have hsucceeds : Succeeds (machine plugsAll) (fun _ _ => True)
        (Plugging w.unlisted vmName vm) (pciDevices w.daemon) := by
      refine succeeds_pciDevices (succeeds_plugs (by trivial) fun w₁ c hc => ?_)
        (fun address => succeeds_plugs (by trivial) fun w₁ c hc => ?_) w.daemon
      · exact ⟨scanPci w₁.pci, by simp [react, Choice.result, hc]⟩
      · exact ⟨iommuGroup w₁.pci address, by simp [react, Choice.result, hc]⟩
    refine wp_mono (wp_and (wp_pciDevices (G := fun _ _ => True) trivial fun _ => trivial)
      (hsucceeds _ hstart)) (fun _ _ _ => trivial) ?_
    rintro r w' ⟨⟨rfl, hr⟩, ⟨xs, rfl⟩, -⟩
    exact ⟨rfl, congrArg Except.ok (hr xs rfl)⟩
  rw [resumePci, wp_withLock]
  refine ⟨trivial, fun _ _ => ?_⟩
  rw [wp_bind]
  refine wp_imp hscan ?_
  rintro _ _ ⟨rfl, rfl⟩
  rw [andThen_ok, wp_bind]
  have hloop := wp_foldlM_all (M := machine plugsAll) (G := fun _ _ => True)
    (l := w.unlisted.pciRouted w.daemon)
    (f := fun failures x => resumePciDevice w.daemon (some vmName) failures x.1 x.2)
    (I := fun rest w' => Plugging w.unlisted vmName vm w' ∧
      (∀ x ∈ rest, x ∈ w.unlisted.pciRouted w.daemon) ∧
      ∀ address, w.unlisted.DueTo vmName address → Handed w.unlisted w' address ∨
        ∃ x ∈ rest, w.unlisted.Due vmName x ∧ address ∈ w.unlisted.passthrough x.1 x.2)
    ?_ [] (w := w.unlisted) ⟨hstart, fun _ h => h, fun address h => ?_⟩
  · refine wp_imp hloop ?_
    rintro _ w' ⟨⟨failures, rfl⟩, hw', -, hall⟩
    have hexactly : ∀ address, Handed w.unlisted w' address ↔ w.unlisted.DueTo vmName address := by
      intro address
      constructor
      · exact hw'.handed address
      · intro hdue
        obtain hhanded | ⟨x, hx, -⟩ := hall address hdue
        · exact hhanded
        · cases hx
    rw [andThen_ok, aggregate]
    split <;> exact ⟨trivial, fun _ _ => hexactly⟩
  · rintro x rest failures w₁ ⟨hw₁, hrest, hall⟩
    refine wp_mono (wp_and (wp_resumePciDevice_hands x (hrest x List.mem_cons_self) hvm hw₁
      failures) (keeps_handed w.unlisted _ (Handed w.unlisted w₁) w₁ fun _ h => h))
      (fun _ _ _ => trivial) ?_
    rintro r w₂ ⟨⟨hok, hw₂, hx⟩, hbefore⟩
    refine ⟨hok, hw₂, fun y hy => hrest y (List.mem_cons_of_mem x hy), fun address hdue => ?_⟩
    obtain hhanded | ⟨y, hy, hydue, hmem⟩ := hall address hdue
    · exact .inl (hbefore address hhanded)
    · obtain rfl | hlater := List.mem_cons.1 hy
      · exact .inl (hx hydue address hmem)
      · exact .inr ⟨y, hlater, hydue, hmem⟩
  · obtain ⟨x, hx, hmem⟩ := h
    exact .inr ⟨x, hx.1, hx, hmem⟩

end Resume

section Agreement

variable {allowed : World → Op → Choice → Prop} {w : World} {vmName : String} {requirePci : Bool}

theorem World.DueTo.passedTo {address : String} (h : w.DueTo vmName address) :
    w.PassedTo vmName address := by
  obtain ⟨x, ⟨hrouted, htarget, -⟩, hmem⟩ := h
  exact ⟨x, hrouted, htarget, hmem⟩

theorem wp_vmmArgs_configured : (vmmArgs w.daemon vmName requirePci).wp (machine allowed)
    (fun _ _ => True) (fun r _ => ∀ args, r = .ok args → ∃ vm, w.daemon.vm vmName = some vm) w := by
  rw [vmmArgs, wp_bind, vmmPci, wp_bind, Daemon.vmNamed, wp_require]
  cases w.daemon.vm vmName with
  | none =>
      intro args h
      cases h
  | some vm =>
      rw [Option.elim_some, andThen_ok]
      refine wp_imp (wp_daemon _) fun r w' _ => ?_
      cases r <;> exact fun _ _ => ⟨vm, rfl⟩

/-- The rules pass what is due, unless a marked device is what they pass it for. -/
theorem World.PassedTo.dueTo {address : String} (h : w.PassedTo vmName address)
    (hmarks : ∀ x ∈ w.pciRouted w.daemon, x.2.targetVm = some vmName →
      w.memory.persistent.disconnected x.1.persistentId = true →
        ∀ address ∈ w.passthrough x.1 x.2, w.DueTo vmName address) : w.DueTo vmName address := by
  obtain ⟨x, hrouted, htarget, hmem⟩ := h
  by_cases hmarked : w.memory.persistent.disconnected x.1.persistentId = true
  · exact hmarks x hrouted htarget hmarked address hmem
  · exact ⟨x, ⟨hrouted, htarget, Bool.eq_false_of_not_eq_true hmarked⟩, hmem⟩

/-- Boot arguments and a resume over an empty list agree exactly where the marked devices have no
part in what the rules pass to the VM. -/
theorem boot_agrees_iff (hgroups : ∀ w op c, allowed w op c → keepsGroups w op c)
    {tr₁ tr₂ : List (World × Op)} {w₁ w₂ : World} {args : List String} {r : Except Error Unit}
    (hboot : Exec (machine allowed) (vmmArgs w.daemon vmName requirePci).run w tr₁ w₁
      (some (.ok args)))
    (hresume : Exec (machine plugsAll) (resumePci w.daemon (some vmName)).run w.unlisted tr₂ w₂
      (some r)) :
    PathsAgree w w₂ args ↔ w.MarksApart vmName := by
  obtain ⟨vm, hvm⟩ := (Program.wp_sound wp_vmmArgs_configured hboot).2 _ rfl args rfl
  have hemits : ∀ address, Emits args address ↔ w.PassedTo vmName address :=
    (Program.wp_sound (wp_vmmArgs hgroups) hboot).2 _ rfl args rfl
  have hhanded : ∀ address, Handed w.unlisted w₂ address ↔ w.DueTo vmName address :=
    (Program.wp_sound (wp_resumePci_hands hvm) hresume).2 _ rfl
  constructor
  · rintro ⟨hagree, hmarked⟩
    constructor
    · intro device hdevice hmark hpassed
      exact (hmarked device hdevice hmark).1 ((hemits _).2 hpassed)
    · intro x hrouted htarget _ address hmem
      exact (hhanded address).1 ((hagree address).1 ((hemits address).2
        ⟨x, hrouted, htarget, hmem⟩))
  · rintro ⟨hunpassed, hmarks⟩
    constructor
    · intro address
      rw [hemits, hhanded]
      exact ⟨fun hpassed => hpassed.dueTo hmarks, fun hdue => hdue.passedTo⟩
    · intro device hdevice hmark
      have hnot := hunpassed device hdevice hmark
      exact ⟨fun h => hnot ((hemits _).1 h), fun h => hnot ((hhanded _).1 h).passedTo⟩

end Agreement

/-! ## One function, marked and not -/

theorem plugsAll_refusing (w : World) (op : Op) : plugsAll w op (refusing none w op) := by
  refine ⟨?_, keepsGroups_of_isNone ?_, ?_⟩
  · cases op <;> rfl
  · cases op <;> rfl
  · cases op with
    | vfioAdd vm address =>
        intro path hpath
        simpa [refusing, Choice.setVfio] using hpath
    | _ => trivial

theorem exec_resumedPci (w : World) (vmName : String) : ∃ tr w' r,
    Exec (machine plugsAll) (resumePci w.daemon (some vmName)).run w.unlisted tr w' (some r) :=
  ⟨_, _, _, Program.follow_exec (resumePci w.daemon (some vmName)).run w.unlisted
    fun e _ => plugsAll_refusing e.1 e.2⟩

/-- A request has handed this function back to the host for good. -/
def withheld (address : String) : World :=
  { functionEach with
    memory := { persistent := { disconnectedDevices := ["pci-" ++ address] } } }

theorem exec_guiArgs (w : World)
    (hgui : (w.followArgs (refusing none) "gui-vm").2.2.toOption.any
      (fun args => decide (vfioArgument firstFunction false ∈ args)) = true) : ∃ tr w' args,
    Exec (machine keepsGroups) (vmmArgs w.daemon "gui-vm" true).run w tr w' (some (.ok args)) ∧
      Emits args firstFunction := by
  have hok : (w.followArgs (refusing none) "gui-vm").2.2.toBool = true := by
    cases hresult : (w.followArgs (refusing none) "gui-vm").2.2 with
    | error e =>
        rw [hresult] at hgui
        cases hgui
    | ok args => rfl
  obtain ⟨tr, w', args, hargs, hexec⟩ := exec_followArgs keepsGroups w (refusing none) "gui-vm"
    (fun e _ => (plugsAll_refusing e.1 e.2).2.1) hok
  rw [hargs] at hgui
  exact ⟨tr, w', args, hexec, false, of_decide_eq_true hgui⟩

/-- What is marked is the function of the other VM. -/
theorem boot_agrees_functionEach : ∃ tr₁ w₁ args tr₂ w₂ r,
    Exec (machine keepsGroups) (vmmArgs (withheld secondFunction).daemon "gui-vm" true).run
      (withheld secondFunction) tr₁ w₁ (some (.ok args)) ∧
    Exec (machine plugsAll) (resumePci (withheld secondFunction).daemon (some "gui-vm")).run
      (withheld secondFunction).unlisted tr₂ w₂ (some r) ∧
    (∃ device ∈ scanPci (withheld secondFunction).pci, device.address = secondFunction ∧
      (withheld secondFunction).memory.persistent.disconnected device.persistentId = true) ∧
    PathsAgree (withheld secondFunction) w₂ args ∧
    Handed (withheld secondFunction).unlisted w₂ firstFunction := by
  obtain ⟨tr₁, w₁, args, hboot, hemits⟩ := exec_guiArgs (withheld secondFunction)
    (by decide +kernel)
  obtain ⟨tr₂, w₂, r, hresume⟩ := exec_resumedPci (withheld secondFunction) "gui-vm"
  have hapart : (withheld secondFunction).MarksApart "gui-vm" := by
    have hunpassed : ∀ device ∈ scanPci (withheld secondFunction).pci,
        (withheld secondFunction).memory.persistent.disconnected device.persistentId = true →
        ∀ x ∈ (withheld secondFunction).pciRouted (withheld secondFunction).daemon,
          x.2.targetVm = some "gui-vm" →
          device.address ∉ (withheld secondFunction).passthrough x.1 x.2 := by decide +kernel
    have hunmarked : ∀ x ∈ (withheld secondFunction).pciRouted (withheld secondFunction).daemon,
        x.2.targetVm = some "gui-vm" → (withheld secondFunction).memory.persistent.disconnected
          x.1.persistentId = false := by decide +kernel
    constructor
    · rintro device hdevice hmark ⟨x, hx, htarget, hmem⟩
      exact hunpassed device hdevice hmark x hx htarget hmem
    · intro x hx htarget hmark
      rw [hunmarked x hx htarget] at hmark
      cases hmark
  have hagree := (boot_agrees_iff (fun _ _ _ h => h) hboot hresume).2 hapart
  exact ⟨tr₁, w₁, args, tr₂, w₂, r, hboot, hresume, by decide +kernel, hagree,
    (hagree.1 _).1 hemits⟩

/-- The command line passes a device that was handed back to the host for good. -/
theorem boot_ignores_marks : ¬∀ (w w₁ w₂ : World) (vmName : String) (requirePci : Bool)
    (tr₁ tr₂ : List (World × Op)) (args : List String) (r : Except Error Unit),
    Exec (machine keepsGroups) (vmmArgs w.daemon vmName requirePci).run w tr₁ w₁
      (some (.ok args)) →
    Exec (machine plugsAll) (resumePci w.daemon (some vmName)).run w.unlisted tr₂ w₂ (some r) →
    PathsAgree w w₂ args := by
  intro hclaim
  obtain ⟨tr₁, w₁, args, hboot, hemits⟩ := exec_guiArgs (withheld firstFunction) (by decide +kernel)
  obtain ⟨tr₂, w₂, r, hresume⟩ := exec_resumedPci (withheld firstFunction) "gui-vm"
  have hscanned :
      pciDeviceOf (pciFunction firstFunction) ∈ scanPci (withheld firstFunction).pci := by
    rw [scanPci, List.mem_insertionSort]
    exact List.mem_map_of_mem List.mem_cons_self
  have hmarked : (withheld firstFunction).memory.persistent.disconnected
      (pciDeviceOf (pciFunction firstFunction)).persistentId = true := by decide +kernel
  have hagree := hclaim (withheld firstFunction) w₁ w₂ "gui-vm" true tr₁ tr₂ args r hboot hresume
  exact (hagree.2 _ hscanned hmarked).1 hemits

end GhafDeviceManager
