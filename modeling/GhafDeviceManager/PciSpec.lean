import GhafDeviceManager.Parts

/-!
# What the PCI calls do

An attach binds the device's quarantine to `vfio-pci`, gives Crosvm what of its passthrough the VM
does not list yet, and records the passthrough as a whole. A detach takes the same set back.
-/

namespace GhafDeviceManager

open Fallible

def World.passthrough (w : World) (device : PciDevice) (rule : RuleMatch) : List String :=
  GhafDeviceManager.passthrough device rule (iommuGroup w.pci device.address)

/-- The VM a detach takes a device from. -/
def World.pciHolder (w : World) (device : PciDevice) (rule : RuleMatch) : Option String :=
  w.memory.pciVms.lookup device.address <|> rule.targetVm

def Op.Passes (vm : Vm) (vmName id : String) (live attach : List String) : Op → Prop
  | .vfioAdd v address => v = vm ∧ address ∈ attach ∧ pciPath address ∉ live
  | .update (.pciVmsInsert address v) => address ∈ attach ∧ v = vmName
  | .update (.setDisconnected i value) => i = id ∧ value = false
  | .save => True
  | op => op.Observes

/-- Neither a call nor a command for a PCI device. -/
def Effect.PciQuiet : Effect → Prop
  | .entered _ | .vfioAdd _ _ _ | .vfioRemove _ _ _ => False
  | _ => True

structure PciQuiet (w w' : World) : Prop where
  daemon : w'.daemon = w.daemon
  memory : w'.memory = w.memory
  stateFile : w'.stateFile = w.stateFile
  sockets : w'.sockets = w.sockets
  vfio : w'.vfio = w.vfio
  log : ∃ news, w'.log = news ++ w.log ∧ ∀ effect ∈ news, effect.PciQuiet

namespace PciQuiet

variable {w w₁ w₂ : World}

theorem refl (w : World) : PciQuiet w w := ⟨rfl, rfl, rfl, rfl, rfl, [], rfl, by simp⟩

theorem trans (h₁ : PciQuiet w w₁) (h₂ : PciQuiet w₁ w₂) : PciQuiet w w₂ := by
  obtain ⟨news₁, hlog₁, hquiet₁⟩ := h₁.log
  obtain ⟨news₂, hlog₂, hquiet₂⟩ := h₂.log
  refine ⟨h₂.daemon.trans h₁.daemon, h₂.memory.trans h₁.memory, h₂.stateFile.trans h₁.stateFile,
    h₂.sockets.trans h₁.sockets, h₂.vfio.trans h₁.vfio, news₂ ++ news₁, ?_, ?_⟩
  · rw [hlog₂, hlog₁, List.append_assoc]
  · intro effect heffect
    rcases List.mem_append.1 heffect with h | h
    · exact hquiet₂ effect h
    · exact hquiet₁ effect h

theorem react {op : Op} (hop : op.Binds) (w : World) (c : Choice) :
    PciQuiet w (react w op c).2 := by
  have hrecord : ∀ effect : Effect, effect.PciQuiet → ∀ pci,
      PciQuiet w ({ w with pci := pci }.record effect) := by
    intro effect heffect pci
    exact ⟨rfl, rfl, rfl, rfl, rfl, [effect], rfl, by simpa using heffect⟩
  cases op with
  | notify n => exact ⟨rfl, rfl, rfl, rfl, rfl, [.notified n], rfl, by simp [Effect.PciQuiet]⟩
  | pciUnbind address => exact hrecord _ (by trivial) _
  | pciOverride address => exact hrecord _ (by trivial) _
  | pciProbe address => exact hrecord _ (by trivial) _
  | authorize name value => exact hop.elim
  | update u => exact hop.elim
  | _ => first | exact .refl w | exact hop.elim

end PciQuiet

section Footprints

variable {d : Daemon} {device : PciDevice} {S : Op → Prop}

theorem calls_addMissing_of {vm : Vm} {live attach : List String}
    (hadd : ∀ address ∈ attach, pciPath address ∉ live → S (.vfioAdd vm address))
    (changed : Bool) : Calls S (addMissing vm live attach changed) := by
  induction attach generalizing changed with
  | nil => trivial
  | cons address rest ih =>
      have hrest := ih fun other hother => hadd other (List.mem_cons_of_mem address hother)
      unfold addMissing
      split
      case isTrue => exact hrest changed
      case isFalse hmissing =>
        have hnot : pciPath address ∉ live := by simpa using hmissing
        refine calls_bind (calls_withContext _ (calls_request ?_)) fun _ => hrest true
        exact hadd address List.mem_cons_self hnot

theorem calls_attachQuarantined_passes (d : Daemon) (device : PciDevice) (vm : Vm)
    (vmName : String) (live attach : List String) :
    Calls (Op.Passes vm vmName device.persistentId live attach)
      (attachQuarantined d device vm vmName live attach) := by
  refine calls_bind (calls_request (by trivial)) fun m => ?_
  refine calls_bind (calls_addMissing_of (fun address hmem hnot => ⟨rfl, hmem, hnot⟩) _) ?_
  intro changed
  refine calls_bind (calls_withLock (by trivial) (by trivial) ?_) fun _ => ?_
  · refine calls_bind (calls_forM fun address hmem => calls_request ⟨hmem, rfl⟩) fun _ => ?_
    exact calls_setDisconnected ⟨rfl, rfl⟩ (by trivial)
  · exact calls_ite (calls_request (by trivial)) (by trivial)

theorem passthrough_eq (device : PciDevice) (rule : RuleMatch) (group : List String) :
    (if rule.iommuAddAll && !group.isEmpty then group else [device.address]) =
      passthrough device rule group := by
  unfold passthrough quarantine
  cases rule.iommuAddAll <;> cases group.isEmpty <;> rfl

end Footprints

section Rules

variable {α : Type} {allowed : World → Op → Choice → Prop} {G : World → Op → Prop} {w : World}
  {d : Daemon} {device : PciDevice} {rule : RuleMatch}

theorem wp_of_binds {p : Act α} (hp : Calls Op.Binds p)
    (hG : ∀ op : Op, op.Binds → ∀ w', G w' op) :
    p.wp (machine allowed) G (fun _ => PciQuiet w) w := by
  refine wp_of_calls hp ?_ ?_ (.refl w)
  · rintro w₁ _ rfl h
    exact h
  · rintro op hop w₁ h
    refine ⟨hG op hop w₁, ?_⟩
    rintro r w₂ ⟨c, _, hreact⟩
    have hstep := PciQuiet.react hop w₁ c
    rw [hreact] at hstep
    exact h.trans hstep

def World.calledPci (w : World) (entry : Entry) : World := w.record (.entered entry)

/-- An attach gives up with nothing changed, or goes on to give the VM the passthrough. -/
theorem wp_attachOnePci {requestedVm : Option String} {post : Except Error Unit → World → Prop}
    (hG : ∀ op : Op, op.Binds → ∀ w', G w' op)
    (henter : G w (.enter (.attachOnePci device rule requestedVm)))
    (hleave : ∀ e w', PciQuiet (w.calledPci (.attachOnePci device rule requestedVm)) w' →
      post (.error e) w')
    (hmain : ∀ c, allowed w (.enter (.attachOnePci device rule requestedVm)) c →
      ∀ vm vmName w', rule.targetVm = some vmName → d.vm vmName = some vm →
      PciQuiet (w.calledPci (.attachOnePci device rule requestedVm)) w' →
      (attachQuarantined d device vm vmName (w.vfio vm.socket)
        (w.passthrough device rule)).wp (machine allowed) G post w') :
    (attachOnePci d device rule requestedVm).wp (machine allowed) G post w := by
  rw [attachOnePci, wp_bind, enter, wp_operation]
  refine ⟨henter, fun c hc => ?_⟩
  have hleave₀ := fun e => hleave e _ (.refl _)
  rw [react, andThen_ok, wp_bind, wp_require]
  cases htarget : rule.targetVm with
  | none => exact hleave₀ _
  | some target =>
      rw [Option.elim_some, andThen_ok]
      dsimp only
      split
      case isTrue => exact hleave₀ _
      case isFalse hsame =>
        rw [ne_eq, not_not] at hsame
        rw [hsame, Daemon.vmNamed, wp_bind, wp_require]
        cases hvm : d.vm target with
        | none => exact hleave₀ _
        | some vm =>
            rw [Option.elim_some, andThen_ok, wp_bind, wp_withContext, vfioList, wp_operation]
            refine ⟨hG _ (by trivial) _, fun c₁ _ => ?_⟩
            cases hfail₁ : c₁.fail
            swap
            · simp only [react, Choice.result, hfail₁]
              exact hleave₀ _
            simp only [react, Choice.result, hfail₁]
            rw [if_neg Bool.false_ne_true, id, Except.mapError, andThen_ok, wp_bind, iommuGroupAt,
              wp_operation]
            refine ⟨hG _ (by trivial) _, fun c₂ _ => ?_⟩
            cases hfail₂ : c₂.fail
            swap
            · simp only [react, Choice.result, hfail₂]
              exact hleave₀ _
            simp only [react, Choice.result, hfail₂]
            rw [if_neg Bool.false_ne_true, id, andThen_ok]
            split
            case isTrue => exact hleave₀ _
            case isFalse =>
              rw [wp_bind]
              refine wp_imp (wp_of_binds (calls_forM fun address _ =>
                calls_bindVfio_binds address) hG) fun r w' hw' => ?_
              cases r with
              | error e => exact hleave e w' hw'
              | ok _ => exact hmain c hc vm target w' htarget hvm hw'

/-- A detach gives up with nothing changed, or has nobody to take the device from, or takes the
passthrough back. -/
theorem wp_detachOnePci {permanent : Bool} {post : Except Error Unit → World → Prop}
    (hG : ∀ op : Op, op.Binds → ∀ w', G w' op)
    (henter : G w (.enter (.detachOnePci device rule permanent)))
    (hleave : ∀ e w', PciQuiet (w.calledPci (.detachOnePci device rule permanent)) w' →
      post (.error e) w')
    (hnone : w.pciHolder device rule = none → ∀ w',
      PciQuiet (w.calledPci (.detachOnePci device rule permanent)) w' →
      (withLock .state (setDisconnected d device.persistentId permanent)).wp (machine allowed) G
        post w')
    (hmain : ∀ c, allowed w (.enter (.detachOnePci device rule permanent)) c →
      ∀ vm vmName w', w.pciHolder device rule = some vmName → d.vm vmName = some vm →
      PciQuiet (w.calledPci (.detachOnePci device rule permanent)) w' →
      wp (machine allowed) G (do
        removePci vm (w.passthrough device rule)
        forgetPci device vmName (w.passthrough device rule)
        withLock .state (setDisconnected d device.persistentId permanent)) post w') :
    (detachOnePci d device rule permanent).wp (machine allowed) G post w := by
  rw [detachOnePci, wp_bind, enter, wp_operation]
  refine ⟨henter, fun c hc => ?_⟩
  have hleave₀ := fun e => hleave e _ (.refl _)
  rw [react, andThen_ok, wp_bind, readMemory, wp_operation]
  refine ⟨hG (.read .state) (by trivial) _, fun _ _ => ?_⟩
  rw [react, andThen_ok]
  have hholder : ((w.record (.entered (.detachOnePci device rule permanent))).memory.pciVms.lookup
      device.address <|> rule.targetVm) = w.pciHolder device rule := rfl
  dsimp only
  rw [hholder]
  cases hvm : w.pciHolder device rule with
  | none => exact hnone hvm _ (.refl _)
  | some vmName =>
      dsimp only
      rw [detachPciFrom, wp_bind, Daemon.vmNamed, wp_bind, wp_require]
      cases hfound : d.vm vmName with
      | none => exact hleave₀ _
      | some vm =>
          rw [Option.elim_some, andThen_ok, iommuGroupAt, wp_bind, wp_operation]
          refine ⟨hG _ (by trivial) _, fun c₂ _ => ?_⟩
          cases hfail₂ : c₂.fail
          swap
          · simp only [react, Choice.result, hfail₂]
            exact hleave₀ _
          simp only [react, Choice.result, hfail₂]
          rw [if_neg Bool.false_ne_true, id, andThen_ok, passthrough_eq]
          have h := hmain c hc vm vmName _ hvm hfound (.refl _)
          rw [← wp_bind, bind_assoc]
          exact h

end Rules

end GhafDeviceManager
