import GhafDeviceManager.RoutedOnly

/-!
# Quarantine before hotplug

An attach of a PCI device writes no driver attribute before its preflight is through, and gives
Crosvm nothing before the whole group is bound to `vfio-pci`. Both are read off what the call was
told, whatever answers it.
-/

namespace GhafDeviceManager

open Fallible

/-- A write that takes a driver off a PCI device or settles which one it gets. -/
def Op.WritesDriver : Op → Prop
  | .pciUnbind _ | .pciOverride _ | .pciProbe _ => True
  | _ => False

/-- What a call of `bindVfio` that returned was told, by the driver it found: nothing more where
that was `vfio-pci`, else the override and the probe, after the unbind of any previous driver. -/
def bindTold (address : String) (found : Option String) : Transcript Op Reply :=
  if found = some "vfio-pci" then [⟨.pciDriver address, found⟩]
  else [⟨.pciProbe address, .ok ()⟩, ⟨.pciOverride address, .ok ()⟩] ++
    (if found.isSome then [⟨.pciUnbind address, .ok ()⟩] else []) ++
      [⟨.pciDriver address, found⟩]

def VfioBound (t : Transcript Op Reply) (address : String) : Prop :=
  ∃ found newer older, t = newer ++ (bindTold address found ++ older)

/-- The call is for the rule's target, a configured VM that answered the preflight, and the group
was read and is not one the rule skips. -/
structure Vetted (d : Daemon) (device : PciDevice) (rule : RuleMatch)
    (requestedVm : Option String) (group : List String) (t : Transcript Op Reply) : Prop where
  shared : ¬(rule.iommuSkipIfShared = true ∧ 1 < group.length)
  preflight : ∃ target vm live newer, rule.targetVm = some target ∧
    requestedVm.getD target = target ∧ d.vm target = some vm ∧
      t = newer ++ [⟨.iommuGroup device.address, .ok group⟩, ⟨.vfioList vm.socket, .ok live⟩,
        ⟨.enter (.attachOnePci device rule requestedVm), ()⟩]

structure Prepared (d : Daemon) (device : PciDevice) (rule : RuleMatch)
    (requestedVm : Option String) (t : Transcript Op Reply) (op : Op) : Prop where
  writes : op.WritesDriver → ∃ group, Vetted d device rule requestedVm group t
  adds : ∀ vm address, op = .vfioAdd vm address → ∃ group,
    Vetted d device rule requestedVm group t ∧ ∀ member ∈ quarantine device group,
      VfioBound t member

section Rules

variable {d : Daemon} {device : PciDevice} {rule : RuleMatch} {requestedVm : Option String}
  {group : List String} {t : Transcript Op Reply} {op : Op}

theorem VfioBound.append {address : String} (h : VfioBound t address)
    (later : Transcript Op Reply) : VfioBound (later ++ t) address := by
  obtain ⟨found, newer, older, rfl⟩ := h
  exact ⟨found, later ++ newer, older, by rw [List.append_assoc]⟩

theorem Vetted.append (h : Vetted d device rule requestedVm group t)
    (later : Transcript Op Reply) : Vetted d device rule requestedVm group (later ++ t) := by
  obtain ⟨target, vm, live, newer, htarget, hrequested, hvm, rfl⟩ := h.preflight
  refine ⟨h.shared, target, vm, live, later ++ newer, htarget, hrequested, hvm, ?_⟩
  rw [List.append_assoc]

theorem Vetted.prepared (h : Vetted d device rule requestedVm group t) (hop : op.Withholds) :
    Prepared d device rule requestedVm t op where
  writes _ := ⟨group, h⟩
  adds vm address heq := by
    rw [heq] at hop
    exact hop.elim

theorem prepared_of_observes (hop : op.Observes) : Prepared d device rule requestedVm t op where
  writes hwrites := by cases op <;> first | exact hwrites.elim | exact hop.elim
  adds vm address heq := by
    rw [heq] at hop
    exact hop.elim

/-- A call of `bindVfio` that returns was told one of the ways to bind the device. -/
theorem wp_bindVfio_told (h : Vetted d device rule requestedVm group t) (address : String) :
    wp Machine.transcript (Prepared d device rule requestedVm) (bindVfio address)
      (fun r t' => (∃ later, t' = later ++ t) ∧ (r = .ok () → VfioBound t' address)) t := by
  have hfree : ∀ (later : Transcript Op Reply) (op : Op), op.Withholds →
      Prepared d device rule requestedVm (later ++ t) op :=
    fun later op hop => (h.append later).prepared hop
  rw [bindVfio, wp_bind, pciDriver, wp_request_transcript]
  refine ⟨hfree [] _ trivial, fun found => ?_⟩
  rw [andThen_ok]
  by_cases hvfio : found = some "vfio-pci"
  · rw [if_neg (not_not.2 hvfio)]
    refine ⟨⟨[⟨.pciDriver address, found⟩], rfl⟩, fun _ => ⟨found, [], t, ?_⟩⟩
    rw [bindTold, if_pos hvfio]
    rfl
  · have hsteered : ∀ unbinds : Transcript Op Reply,
        unbinds = (if found.isSome then [⟨.pciUnbind address, .ok ()⟩] else []) →
        wp Machine.transcript (Prepared d device rule requestedVm) (do
            Fallible.request (.pciOverride address) id
            Fallible.request (.pciProbe address) id : Act Unit)
          (fun r t' => (∃ later, t' = later ++ t) ∧ (r = .ok () → VfioBound t' address))
          (unbinds ++ ⟨.pciDriver address, found⟩ :: t) := by
      intro unbinds hunbinds
      have hlater : ∀ later : Transcript Op Reply, ∃ all,
          later ++ (unbinds ++ ⟨.pciDriver address, found⟩ :: t) = all ++ t := fun later =>
        ⟨later ++ (unbinds ++ [⟨.pciDriver address, found⟩]), by simp⟩
      have hfree' : ∀ (later : Transcript Op Reply) (op : Op), op.Withholds → Prepared d device rule
          requestedVm (later ++ (unbinds ++ ⟨.pciDriver address, found⟩ :: t)) op := by
        intro later op hop
        obtain ⟨all, hall⟩ := hlater later
        rw [hall]
        exact hfree all op hop
      rw [wp_bind, wp_request_transcript]
      refine ⟨hfree' [] _ trivial, fun overridden => ?_⟩
      cases overridden with
      | error e => exact ⟨hlater [_], nofun⟩
      | ok _ =>
          rw [id, andThen_ok, wp_request_transcript]
          refine ⟨hfree' [_] _ trivial, fun probed => ⟨hlater [_, _], ?_⟩⟩
          intro hprobed
          rw [id] at hprobed
          refine ⟨found, [], t, ?_⟩
          rw [bindTold, if_neg hvfio, ← hunbinds, hprobed]
          simp
    rw [if_pos hvfio]
    cases found with
    | none => exact hsteered [] rfl
    | some previous =>
        rw [Option.isSome_some, if_pos rfl, wp_bind, wp_request_transcript]
        refine ⟨hfree [_] _ trivial, fun unbound => ?_⟩
        cases unbound with
        | error e => exact ⟨⟨[_, _], rfl⟩, nofun⟩
        | ok _ => exact hsteered [⟨.pciUnbind address, .ok ()⟩] rfl

theorem wp_quarantine_told (h : Vetted d device rule requestedVm group t) :
    wp Machine.transcript (Prepared d device rule requestedVm)
      ((quarantine device group).forM bindVfio)
      (fun r t' => r = .ok () → Vetted d device rule requestedVm group t' ∧
        ∀ member ∈ quarantine device group, VfioBound t' member) t := by
  let I : List String → Transcript Op Reply → Prop := fun rest t =>
    Vetted d device rule requestedVm group t ∧
      ∀ member ∈ quarantine device group, member ∈ rest ∨ VfioBound t member
  have hround : ∀ address rest t, I (address :: rest) t →
      wp Machine.transcript (Prepared d device rule requestedVm) (bindVfio address)
        (fun r t' => r = .ok () → I rest t') t := by
    rintro address rest t ⟨hvetted, hmembers⟩
    refine wp_imp (wp_bindVfio_told hvetted address) ?_
    rintro r _ ⟨⟨later, rfl⟩, hbound⟩ hok
    refine ⟨hvetted.append later, fun member hmember => ?_⟩
    rcases hmembers member hmember with hrest | hdone
    · rcases List.mem_cons.1 hrest with rfl | hlater
      · exact .inr (hbound hok)
      · exact .inl hlater
    · exact .inr (hdone.append later)
  have hall : I (quarantine device group) t := ⟨h, fun member hmember => .inl hmember⟩
  refine wp_imp (wp_forM_rest hround hall) fun r t' hdone hok => ?_
  obtain ⟨hvetted, hmembers⟩ := hdone hok
  exact ⟨hvetted, fun member hmember => (hmembers member hmember).resolve_left List.not_mem_nil⟩

/-- What follows the binding has both behind it. -/
theorem wp_attachQuarantined_told (h : Vetted d device rule requestedVm group t)
    (hbound : ∀ member ∈ quarantine device group, VfioBound t member) (vm : Vm) (vmName : String)
    (live attach : List String) :
    wp Machine.transcript (Prepared d device rule requestedVm)
      (attachQuarantined d device vm vmName live attach) (fun _ _ => True) t := by
  refine wp_imp (wp_of_calls_transcript (I := fun t =>
    Vetted d device rule requestedVm group t ∧
      ∀ member ∈ quarantine device group, VfioBound t member)
    (Program.calls_top _) (fun t op r _ ht => ?_) (fun t op _ ht => ⟨fun _ => ⟨group, ht.1⟩, ?_⟩)
    ⟨h, hbound⟩) fun _ _ _ => trivial
  · exact ⟨ht.1.append [⟨op, r⟩], fun member hmember => (ht.2 member hmember).append [⟨op, r⟩]⟩
  · intro _ _ _
    exact ⟨group, ht⟩

theorem wp_attachOnePci_told (d : Daemon) (device : PciDevice) (rule : RuleMatch)
    (requestedVm : Option String) : wp Machine.transcript (Prepared d device rule requestedVm)
      (attachOnePci d device rule requestedVm) (fun _ _ => True) [] := by
  rw [attachOnePci, wp_bind, enter, wp_request_transcript]
  refine ⟨⟨False.elim, by simp⟩, fun _ => ?_⟩
  rw [andThen_ok, wp_bind, wp_require]
  cases htarget : rule.targetVm with
  | none => trivial
  | some target =>
      rw [Option.elim_some, andThen_ok]
      dsimp only
      split
      case isTrue => trivial
      case isFalse hsame =>
        have hname : requestedVm.getD target = target := not_not.1 hsame
        rw [hname, Daemon.vmNamed, wp_bind, wp_require]
        cases hvm : d.vm target with
        | none => trivial
        | some vm =>
            rw [Option.elim_some, andThen_ok, wp_bind, wp_withContext, vfioList,
              wp_request_transcript]
            refine ⟨prepared_of_observes trivial, fun listed => ?_⟩
            cases listed with
            | error e => trivial
            | ok live =>
                rw [id, Except.mapError, andThen_ok, wp_bind, iommuGroupAt, wp_request_transcript]
                refine ⟨prepared_of_observes trivial, fun read => ?_⟩
                cases read with
                | error e => trivial
                | ok group =>
                    rw [id, andThen_ok]
                    split
                    case isTrue => trivial
                    case isFalse hshared =>
                      have hvetted : Vetted d device rule requestedVm group
                          [⟨.iommuGroup device.address, .ok group⟩,
                            ⟨.vfioList vm.socket, .ok live⟩,
                            ⟨.enter (.attachOnePci device rule requestedVm), ()⟩] := by
                        refine ⟨?_, target, vm, live, [], htarget, hname, hvm, rfl⟩
                        simpa using hshared
                      rw [wp_bind]
                      refine wp_imp (wp_quarantine_told hvetted) fun r t' hdone => ?_
                      cases r with
                      | error e => trivial
                      | ok _ =>
                          obtain ⟨hvetted', hbound⟩ := hdone rfl
                          exact wp_attachQuarantined_told hvetted' hbound vm target live _

end Rules

theorem quarantine_bound {device : PciDevice} {group : List String} {t : Transcript Op Reply}
    (h : ∀ member ∈ quarantine device group, VfioBound t member) :
    (group = [] → VfioBound t device.address) ∧ ∀ member ∈ group, VfioBound t member := by
  unfold quarantine at h
  cases group with
  | nil => exact ⟨fun _ => h _ (List.mem_singleton_self _), List.forall_mem_nil _⟩
  | cons first rest =>
      refine ⟨fun hempty => ?_, h⟩
      cases hempty

/-- In any world, drivers are written only after the preflight, and a device goes to Crosvm only
after its whole group was bound, or itself where the group that was read is empty. -/
theorem quarantine_precedes_hotplug {V : Type} {M : Machine Op Reply V} {d : Daemon}
    {device : PciDevice} {rule : RuleMatch} {requestedVm : Option String} {v : V}
    {s : V × Transcript Op Reply} {tr : List ((V × Transcript Op Reply) × Op)}
    {o : Option (Except Error Unit)}
    (h : Exec M.recorded (attachOnePci d device rule requestedVm).run (v, []) tr s o) :
    ∀ e ∈ tr, (e.2.WritesDriver → ∃ group, Vetted d device rule requestedVm group e.1.2) ∧
      ∀ vm address, e.2 = .vfioAdd vm address → ∃ group,
        Vetted d device rule requestedVm group e.1.2 ∧
          (group = [] → VfioBound e.1.2 device.address) ∧
            ∀ member ∈ group, VfioBound e.1.2 member := by
  intro e he
  have hprepared := (Program.wp_recorded (wp_attachOnePci_told d device rule requestedVm) h).1 e he
  refine ⟨hprepared.writes, ?_⟩
  intro vm address hadd
  obtain ⟨group, hvetted, hbound⟩ := hprepared.adds vm address hadd
  exact ⟨group, hvetted, quarantine_bound hbound⟩

def pairedHost : World where
  daemon := plainDaemon []
  pci := [{ address := "0000:00:1f.3", iommuGroup := some ["0000:00:1f.3", "0000:00:1f.0"] },
    { address := "0000:00:1f.0", driver := some "/sys/bus/pci/drivers/lpc_ich" }]

def soundCard : PciDevice := pciDeviceOf { address := "0000:00:1f.3" }

def soundRule : RuleMatch where
  targetVm := some "gui-vm"
  allowedVms := []
  skipOnSuspend := false
  iommuAddAll := false
  iommuSkipIfShared := false
  crosvmUseRootBus := false
  tag := none
  order := 1

/-- The bridge is bound before the card goes to the VM. -/
theorem quarantine_precedes_hotplug_pair : ∃ tr s,
    Exec (machine anyChoice).recorded
      (attachOnePci pairedHost.daemon soundCard soundRule none).run (pairedHost, []) tr s
      (some (.ok ())) ∧ ((tr.map Prod.snd).filter Op.hands).length = 1 ∧
    ∀ e ∈ tr, (e.2.WritesDriver →
      ∃ group, Vetted pairedHost.daemon soundCard soundRule none group e.1.2) ∧
        ∀ vm address, e.2 = .vfioAdd vm address → ∃ group,
          Vetted pairedHost.daemon soundCard soundRule none group e.1.2 ∧
            (group = [] → VfioBound e.1.2 soundCard.address) ∧
              ∀ member ∈ group, VfioBound e.1.2 member := by
  let p : Act Unit := attachOnePci pairedHost.daemon soundCard soundRule none
  have hexec : Exec (machine anyChoice) p.run pairedHost
      (p.run.follow react (fun _ _ => {}) pairedHost).1
      (p.run.follow react (fun _ _ => {}) pairedHost).2.1 (some (.ok ())) :=
    exec_follow_ok (by decide +kernel)
  have hadds : ((((p.run.follow react (fun _ _ => {}) pairedHost).1).map Prod.snd).filter
      Op.hands).length = 1 := by decide +kernel
  obtain ⟨tr, t, hrecorded, htr⟩ := hexec.recorded []
  refine ⟨tr, _, hrecorded, ?_, quarantine_precedes_hotplug hrecorded⟩
  rw [← htr, List.map_map] at hadds
  exact hadds

end GhafDeviceManager
