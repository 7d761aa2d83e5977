import GhafDeviceManager.BootAgreement
import GhafDeviceManager.PciMarks
import GhafDeviceManager.Quarantine

/-!
# Events of PCI attaches

An attach sends its event if an address of the passthrough was not recorded for the VM or had to be
added. It records the passthrough before it saves, so where the save fails the event of what was
added is not sent, and the next attach finds nothing to do.
-/

namespace GhafDeviceManager

open Fallible

/-- Whether an effect leaves an event for the address on the VM to be sent, or sends it. An add that
fails counts too: Crosvm may have carried it out. -/
def Effect.owes (address vmName : String) : Effect → Option Bool
  | .vfioAdd vm other _ => if other = address ∧ vm.name = vmName then some true else none
  | .notified (.pciAttached device vm) =>
    if device.address = address ∧ vm = vmName then some false else none
  | _ => none

/-- The address was given to the VM, and since then no event for it was sent. -/
def Owed (log : List Effect) (address vmName : String) : Prop :=
  log.findSome? (Effect.owes address vmName) = some true

instance (log : List Effect) (address vmName : String) : Decidable (Owed log address vmName) := by
  unfold Owed
  infer_instance

/-- An event that is owed will be sent: the address is not recorded for the VM. -/
def Forthcoming (address : String) (w : World) : Prop :=
  ∀ vmName, Owed w.log address vmName → w.memory.pciVms.lookup address ≠ some vmName

/-- What each step has to meet for the events of an address to be sent. -/
def keepsForthcoming (address : String) (w : World) : Op → Choice → Prop
  | .enter (.attachOnePci device rule _), _ =>
    address ∈ w.passthrough device rule ↔ device.address = address
  | .vfioAdd vm other, c => c.fail = true → Forthcoming address (w.record (.vfioAdd vm other false))
  | .save, c => c.fail = true → Forthcoming address w
  | _, _ => True

section Steps

variable {address vmName : String} {w w' : World} {log : List Effect}

theorem owed_cons (effect : Effect) : Owed (effect :: log) address vmName ↔
    match effect.owes address vmName with
      | some owed => owed = true
      | none => Owed log address vmName := by
  unfold Owed
  rw [List.findSome?_cons]
  cases effect.owes address vmName <;> simp

theorem owed_of_cons {effect : Effect} (h : effect.owes address vmName ≠ some true)
    (howed : Owed (effect :: log) address vmName) : Owed log address vmName := by
  rw [owed_cons] at howed
  cases heffect : effect.owes address vmName with
  | none => rwa [heffect] at howed
  | some owed =>
      rw [heffect] at howed
      exact absurd (heffect.trans (congrArg some howed)) h

theorem owed_of_append {news : List Effect}
    (h : ∀ effect ∈ news, effect.owes address vmName ≠ some true)
    (howed : Owed (news ++ log) address vmName) : Owed log address vmName := by
  induction news with
  | nil => exact howed
  | cons effect news ih =>
      obtain ⟨heffect, hnews⟩ := List.forall_mem_cons.1 h
      exact ih hnews (owed_of_cons heffect howed)

theorem owes_of_pciQuiet {effect : Effect} (h : effect.PciQuiet) :
    effect.owes address vmName ≠ some true := by
  cases effect with
  | vfioAdd vm other ok => exact h.elim
  | notified n =>
      cases n with
      | pciAttached device vm => simp [Effect.owes]
      | _ => exact nofun
  | _ => exact nofun

theorem forthcoming_of_pciQuiet (h : PciQuiet w w') (hw : Forthcoming address w) :
    Forthcoming address w' := by
  obtain ⟨news, hlog, hquiet⟩ := h.log
  intro vmName howed
  rw [hlog] at howed
  rw [h.memory]
  exact hw vmName (owed_of_append (fun effect hmem => owes_of_pciQuiet (hquiet effect hmem)) howed)

/-- Between two steps records of an address may be dropped. -/
theorem forthcoming_of_dropped (hlog : w'.log = w.log)
    (hrecord : w'.memory.pciVms.lookup address = none ∨
      w'.memory.pciVms.lookup address = w.memory.pciVms.lookup address)
    (hw : Forthcoming address w) : Forthcoming address w' := by
  intro vmName howed
  rw [hlog] at howed
  obtain hnone | hsame := hrecord
  · rw [hnone]
    exact nofun
  · rw [hsame]
    exact hw vmName howed

theorem record_react {op : Op} (hinsert : ∀ vm, op ≠ .update (.pciVmsInsert address vm))
    (w : World) (c : Choice) : (react w op c).2.memory.pciVms.lookup address = none ∨
      (react w op c).2.memory.pciVms.lookup address = w.memory.pciVms.lookup address := by
  cases op with
  | update u =>
      cases u with
      | pciVmsInsert other vm =>
          refine .inr (AList.lookup_insert_ne ?_)
          rintro rfl
          exact hinsert vm rfl
      | pciVmsRemove other =>
          by_cases hsame : address = other
          · subst hsame
            exact .inl (AList.lookup_erase _ _)
          · exact .inr (AList.lookup_erase_ne hsame)
      | _ => exact .inr rfl
  | authorize name value =>
      simp only [react]
      split
      · exact .inr rfl
      · exact .inr rfl
  | _ => exact .inr rfl

theorem adds_of_owes {effect : Effect} (h : effect.owes address vmName = some true) :
    effect.adds = some address := by
  cases effect with
  | vfioAdd vm other ok =>
      simp only [Effect.owes] at h
      split at h
      case isTrue hsame => exact congrArg some hsame.1
      case isFalse => cases h
  | notified n =>
      cases n with
      | pciAttached device vm => simp [Effect.owes] at h
      | _ => cases h
  | _ => cases h

/-- Only a record of the address or an add of it can lose an event. -/
theorem forthcoming_react {op : Op} (hadd : ∀ vm, op ≠ .vfioAdd vm address)
    (hinsert : ∀ vm, op ≠ .update (.pciVmsInsert address vm)) (hw : Forthcoming address w)
    (c : Choice) : Forthcoming address (react w op c).2 := by
  intro vmName howed
  have hold : Owed w.log address vmName := by
    obtain hlog | ⟨effect, hlog, hadds⟩ := react_adds w op c
    · rwa [hlog] at howed
    · rw [hlog] at howed
      refine owed_of_cons (fun howes => ?_) howed
      obtain ⟨vm, hop⟩ := hadds address (adds_of_owes howes)
      exact hadd vm hop
  obtain hnone | hsame := record_react hinsert w c
  · rw [hnone]
    exact nofun
  · rw [hsame]
    exact hw vmName hold

end Steps

/-! ## One call -/

section Calls

variable {allowed : World → Op → Choice → Prop} {d : Daemon} {address : String} {w : World}
  {device : PciDevice} {rule : RuleMatch}

theorem detachOnePci_keeps_forthcoming {permanent : Bool} :
    Keeps (machine allowed) (fun _ _ => True) (Forthcoming address)
      (detachOnePci d device rule permanent) := by
  refine keeps_of_harmless (Program.calls_mono (calls_detachOnePci d device rule permanent) ?_)
  intro op hop w hw
  refine ⟨trivial, fun c _ => forthcoming_react (fun vm heq => ?_) (fun vm heq => ?_) hw c⟩
  · subst heq
    exact hop
  · subst heq
    exact hop

/-- On the way through the adds of an attach: what is owed was owed before, or is of the VM and will
be sent. -/
structure Adding (address vmName : String) (start : World) (changed : Bool) (w : World) : Prop where
  memory : w.memory = start.memory
  owed : ∀ other, Owed w.log address other →
    Owed start.log address other ∨ other = vmName ∧ changed = true

theorem Adding.add {vm : Vm} {start w' : World} {changed : Bool} {other : String}
    (h : Adding address vm.name start changed w) (hmemory : w'.memory = w.memory)
    (hlog : w'.log = .vfioAdd vm other true :: w.log) : Adding address vm.name start true w' := by
  refine ⟨hmemory.trans h.memory, fun name howed => ?_⟩
  rw [hlog, owed_cons] at howed
  by_cases hsame : other = address ∧ vm.name = name
  · exact .inr ⟨hsame.2.symm, rfl⟩
  · simp only [Effect.owes, if_neg hsame] at howed
    obtain hold | ⟨hname, -⟩ := h.owed name howed
    · exact .inl hold
    · exact .inr ⟨hname, rfl⟩

variable (hsteps : ∀ w op c, allowed w op c → keepsForthcoming address w op c)

include hsteps

theorem wp_addMissing_events {vm : Vm} {live attach : List String} {start : World} (changed : Bool)
    (h : Adding address vm.name start changed w) :
    (addMissing vm live attach changed).wp (machine allowed) (fun _ _ => True)
      (fun r w' => match r with
        | .ok changed' => Adding address vm.name start changed' w' ∧
          (changed = true → changed' = true)
        | .error _ => Forthcoming address w') w := by
  induction attach generalizing w changed with
  | nil => exact ⟨h, id⟩
  | cons other rest ih =>
      unfold addMissing
      split
      case isTrue => exact ih changed h
      case isFalse =>
        rw [wp_bind, wp_withContext, vfioAdd, wp_operation]
        refine ⟨trivial, fun c hc => ?_⟩
        cases hfail : c.fail
        · simp only [react, Choice.result, hfail, Bool.false_eq_true, if_false, id,
            Except.mapError, andThen_ok]
          refine wp_imp (ih true (h.add rfl rfl)) fun r w' hpost => ?_
          cases r with
          | error e => exact hpost
          | ok changed' => exact ⟨hpost.1, fun _ => hpost.2 rfl⟩
        · have hforth : Forthcoming address (w.record (.vfioAdd vm other false)) :=
            hsteps w _ c hc hfail
          simp only [react, Choice.result, hfail, if_true, id, Except.mapError, andThen_error]
          exact forthcoming_of_dropped rfl (.inr rfl) hforth

omit hsteps in
theorem wp_recordAddress {vmName : String} {attach : List String}
    (h : address ∈ attach ∨ w.memory.pciVms.lookup address = some vmName) :
    (attach.forM fun other => update (.pciVmsInsert other vmName)).wp (machine allowed)
      (fun _ _ => True) (fun r w' => r = .ok () ∧ w'.log = w.log ∧
        w'.memory.pciVms.lookup address = some vmName) w := by
  induction attach generalizing w with
  | nil => exact ⟨rfl, rfl, h.resolve_left List.not_mem_nil⟩
  | cons other rest ih =>
      change wp (machine allowed) _ (update (.pciVmsInsert other vmName) >>= fun _ =>
        rest.forM fun other => update (.pciVmsInsert other vmName)) _ w
      rw [wp_bind, update, wp_operation]
      refine ⟨trivial, fun c _ => ?_⟩
      rw [react, andThen_ok]
      refine ih (w := { w with memory := (Update.pciVmsInsert other vmName).apply w.memory }) ?_
      by_cases hsame : address = other
      · subst hsame
        exact .inr (AList.lookup_insert _)
      · refine h.imp (fun hmem => ?_) fun hrecord => (AList.lookup_insert_ne hsame).trans hrecord
        exact (List.mem_cons.1 hmem).resolve_left hsame

/-- The mark of an attach: nothing about the address changes, and where the save fails its event is
forthcoming. -/
theorem wp_unmark {id : String} : (setDisconnected d id false).wp (machine allowed)
    (fun _ _ => True) (fun r w' => w'.memory.pciVms = w.memory.pciVms ∧
      (∀ vmName, Owed w'.log address vmName → Owed w.log address vmName) ∧
      ((∃ e, r = .error e) → Forthcoming address w')) w := by
  have hsaved : ∀ ok vmName, Owed (.saved ok :: w.log) address vmName →
      Owed w.log address vmName := fun ok vmName => owed_of_cons nofun
  rw [setDisconnected, wp_bind, update, wp_operation]
  refine ⟨trivial, fun _ _ => ?_⟩
  rw [react, andThen_ok, saveState]
  split
  case isTrue =>
    rw [wp_operation]
    refine ⟨trivial, fun c hc => ⟨rfl, hsaved _, ?_⟩⟩
    rintro ⟨e, herror⟩
    cases hfail : c.fail
    · simp [react, Choice.result, hfail] at herror
    · have hforth := hsteps _ _ c hc hfail
      exact fun vmName howed => hforth vmName (hsaved _ vmName howed)
  case isFalse => exact ⟨rfl, fun _ howed => howed, by rintro ⟨e, herror⟩; cases herror⟩

/-- An attach that returns has sent the event of its device, if it owes one. -/
theorem wp_attachQuarantined_events {vm : Vm} {live attach : List String}
    (hmem : device.address ∈ attach) (hsame : device.address = address)
    (hw : Forthcoming address w) :
    (attachQuarantined d device vm vm.name live attach).wp (machine allowed) (fun _ _ => True)
      (fun r w' => Forthcoming address w' ∧ (r = .ok () → ¬Owed w'.log address vm.name)) w := by
  subst hsame
  rw [attachQuarantined, readMemory, wp_bind, wp_operation]
  refine ⟨trivial, fun _ _ => ?_⟩
  rw [react, andThen_ok, wp_bind]
  refine wp_imp (wp_addMissing_events hsteps _ ⟨rfl, fun _ h => .inl h⟩) fun r w₁ h₁ => ?_
  cases r with
  | error e => exact ⟨h₁, by simp⟩
  | ok changed =>
      obtain ⟨hadding, hchanged⟩ := h₁
      rw [andThen_ok, recordPci, wp_bind, wp_withLock]
      refine ⟨trivial, fun _ _ => ?_⟩
      rw [wp_bind]
      refine wp_imp (wp_recordAddress (.inl hmem)) ?_
      rintro _ w₂ ⟨rfl, hlog₂, hrecord⟩
      rw [andThen_ok]
      refine wp_imp (wp_unmark hsteps) ?_
      rintro r w₃ ⟨hmemory₃, howed₃, hfailed⟩
      refine ⟨trivial, fun _ _ => ?_⟩
      cases r with
      | error e => exact ⟨hfailed ⟨e, rfl⟩, by simp⟩
      | ok _ =>
          rw [andThen_ok]
          have hrecord₃ : w₃.memory.pciVms.lookup device.address = some vm.name := by
            rw [hmemory₃]
            exact hrecord
          have hforth : ∀ w', w'.memory.pciVms = w₃.memory.pciVms →
              ¬Owed w'.log device.address vm.name → Forthcoming device.address w' := by
            intro w' hmemory hnot name howed hlookup
            rw [hmemory, hrecord₃] at hlookup
            obtain rfl := Option.some.inj hlookup
            exact hnot howed
          cases changed with
          | true =>
              rw [if_pos rfl, notify, wp_operation]
              refine ⟨trivial, fun _ _ => ?_⟩
              have hsent : ¬Owed (.notified (.pciAttached device vm.name) :: w₃.log)
                  device.address vm.name := by
                rw [owed_cons]
                simp [Effect.owes]
              exact ⟨hforth _ rfl hsent, fun _ => hsent⟩
          | false =>
              rw [if_neg Bool.false_ne_true]
              have hnot : ¬Owed w₃.log device.address vm.name := by
                intro howed
                have hadded := howed₃ vm.name howed
                rw [hlog₂] at hadded
                obtain hbefore | ⟨-, hfalse⟩ := hadding.owed vm.name hadded
                · have hmissing := hw vm.name hbefore
                  have hany := hchanged (List.any_eq_true.2 ⟨_, hmem, by simpa using hmissing⟩)
                  cases hany
                · cases hfalse
              exact ⟨hforth _ rfl hnot, fun _ => hnot⟩

theorem wp_attachOnePci_events {requestedVm : Option String} (hw : Forthcoming address w) :
    (attachOnePci d device rule requestedVm).wp (machine allowed) (fun _ _ => True)
      (fun r w' => Forthcoming address w' ∧ (device.address = address → r = .ok () →
        ∀ vmName, rule.targetVm = some vmName → ¬Owed w'.log address vmName)) w := by
  have hcalled : Forthcoming address (w.calledPci (.attachOnePci device rule requestedVm)) :=
    fun vmName howed => hw vmName (owed_of_cons (by simp [Effect.owes]) howed)
  refine wp_attachOnePci (fun _ _ _ => trivial) trivial
    (fun e w' hw' => ⟨forthcoming_of_pciQuiet hw' hcalled, fun _ => nofun⟩)
    fun c hc vm vmName w' htarget hvm hw' => ?_
  have hforth := forthcoming_of_pciQuiet hw' hcalled
  have hcovers : address ∈ w.passthrough device rule ↔ device.address = address :=
    hsteps w _ c hc
  obtain rfl : vm.name = vmName := Daemon.vm_name hvm
  by_cases hsame : device.address = address
  · have hmem : device.address ∈ w.passthrough device rule := by
      rw [hsame]
      exact hcovers.2 hsame
    refine wp_imp (wp_attachQuarantined_events hsteps hmem hsame hforth) ?_
    rintro r w'' ⟨hforth'', hsent⟩
    refine ⟨hforth'', fun _ hok other hother => ?_⟩
    obtain rfl := Option.some.inj (htarget.symm.trans hother)
    exact hsent hok
  · have hnot : address ∉ w.passthrough device rule := fun hmem => hsame (hcovers.1 hmem)
    have hkeeps : Keeps (machine allowed) (fun _ _ => True) (Forthcoming address)
        (attachQuarantined d device vm vm.name (w.vfio vm.socket) (w.passthrough device rule)) := by
      refine keeps_of_harmless (Program.calls_mono (calls_attachQuarantined_passes d device vm
        vm.name _ (w.passthrough device rule)) fun op hop w hw => ⟨trivial, fun c _ => ?_⟩)
      refine forthcoming_react (fun v heq => ?_) (fun v heq => ?_) hw c
      · subst heq
        exact hnot hop.2.1
      · subst heq
        exact hnot hop.1
    exact wp_imp (hkeeps w' hforth) fun r w'' hforth'' => ⟨hforth'', fun h => absurd h hsame⟩

end Calls

/-! ## Runs -/

/-- Between two calls anything but the log may change; records may be dropped, as by a restart. -/
structure BetweenCalls (w w' : World) : Prop where
  log : w'.log = w.log
  records : ∀ address, w'.memory.pciVms.lookup address = none ∨
    w'.memory.pciVms.lookup address = w.memory.pciVms.lookup address

inductive PciCalls (d : Daemon) (allowed : World → Op → Choice → Prop) (w₀ : World) : World → Prop
  | start : PciCalls d allowed w₀ w₀
  | between {w w' : World} (h : PciCalls d allowed w₀ w) (hbetween : BetweenCalls w w') :
      PciCalls d allowed w₀ w'
  | attach {w w' : World} {device : PciDevice} {rule : RuleMatch} {requestedVm : Option String}
      {tr : List (World × Op)} {r : Except Error Unit} (h : PciCalls d allowed w₀ w)
      (hexec : Exec (machine allowed) (attachOnePci d device rule requestedVm).run w tr w'
        (some r)) : PciCalls d allowed w₀ w'
  | detach {w w' : World} {device : PciDevice} {rule : RuleMatch} {permanent : Bool}
      {tr : List (World × Op)} {r : Except Error Unit} (h : PciCalls d allowed w₀ w)
      (hexec : Exec (machine allowed) (detachOnePci d device rule permanent).run w tr w'
        (some r)) : PciCalls d allowed w₀ w'

theorem forthcoming_of_pciCalls {d : Daemon} {allowed : World → Op → Choice → Prop}
    {address : String} {w₀ w : World}
    (hsteps : ∀ w op c, allowed w op c → keepsForthcoming address w op c)
    (hstart : Forthcoming address w₀) (h : PciCalls d allowed w₀ w) : Forthcoming address w := by
  induction h with
  | start => exact hstart
  | between _ hbetween ih =>
      exact forthcoming_of_dropped hbetween.log (hbetween.records address) ih
  | attach _ hexec ih =>
      exact ((Program.wp_sound (wp_attachOnePci_events hsteps ih) hexec).2 _ rfl).1
  | detach _ hexec ih =>
      exact (Program.wp_sound (detachOnePci_keeps_forthcoming _ ih) hexec).2 _ rfl

/-- In every run of one process whose steps meet the condition for an address, an attach of the
device at it that returns owes no event: none is lost. -/
theorem pci_attach_events_sent {d : Daemon} {allowed : World → Op → Choice → Prop}
    {address : String} {w₀ w w' : World}
    (hsteps : ∀ w op c, allowed w op c → keepsForthcoming address w op c)
    (hempty : w₀.memory.pciVms = ∅) (h : PciCalls d allowed w₀ w) {device : PciDevice}
    {rule : RuleMatch} {requestedVm : Option String} {tr : List (World × Op)} {vmName : String}
    (hexec : Exec (machine allowed) (attachOnePci d device rule requestedVm).run w tr w'
      (some (.ok ()))) (haddress : device.address = address) (hvm : rule.targetVm = some vmName) :
    ¬Owed w'.log address vmName := by
  have hstart : Forthcoming address w₀ := by
    intro vmName _
    rw [hempty]
    exact nofun
  have hforth := forthcoming_of_pciCalls hsteps hstart h
  exact ((Program.wp_sound (wp_attachOnePci_events hsteps hforth) hexec).2 _ rfl).2 haddress rfl
    vmName hvm

/-! ## A sound card attached twice -/

/-- Nothing fails, and calls are for the device they cover. -/
def attachesAlone (address : String) (w : World) : Op → Choice → Prop
  | .enter (.attachOnePci device rule _), _ =>
    address ∈ w.passthrough device rule ↔ device.address = address
  | _, c => c.fail = false

instance (address : String) (w : World) (op : Op) (c : Choice) :
    Decidable (attachesAlone address w op c) := by
  delta attachesAlone
  induction op using Op.casesOn with
  | enter entry => induction entry using Entry.casesOn <;> infer_instance
  | _ => infer_instance

def onlySavesFail (w : World) : Op → Choice → Prop
  | .save, _ => True
  | op, c => listsGiven w op c ∧ c.fail = false

instance (w : World) (op : Op) (c : Choice) : Decidable (onlySavesFail w op c) := by
  unfold onlySavesFail
  split <;> infer_instance

def failingSaves (w : World) : Op → Choice
  | .save => { fail := true }
  | op => refusing none w op

def cardCall : PciDevice × RuleMatch × Option String := (soundCard, soundRule, none)

/-- After a first attach the VM is started anew, and gets the card and the event again. -/
theorem pci_attach_events_sent_card : ∃ w tr w',
    PciCalls pairedHost.daemon (attachesAlone soundCard.address) pairedHost w ∧
    Exec (machine (attachesAlone soundCard.address))
      (attachOnePci pairedHost.daemon soundCard soundRule none).run w tr w' (some (.ok ())) ∧
    (w'.log.filter fun effect => effect.owes soundCard.address "gui-vm" = some false).length = 2 ∧
    ¬Owed w'.log soundCard.address "gui-vm" := by
  have hsteps : ∀ w op c, attachesAlone soundCard.address w op c →
      keepsForthcoming soundCard.address w op c := by
    intro w op c h
    cases op with
    | enter entry => cases entry <;> first | exact h | trivial
    | vfioAdd vm other => exact fun hfail => absurd (hfail.symm.trans h) (by decide)
    | save => exact fun hfail => absurd (hfail.symm.trans h) (by decide)
    | _ => trivial
  let first := pairedHost.followPci (refusing none) cardCall
  let anew : World := { first.2.1 with vfio := fun _ => [] }
  let second := anew.followPci (refusing none) cardCall
  have hfirst : ∀ e ∈ first.1, attachesAlone soundCard.address e.1 e.2 (refusing none e.1 e.2) := by
    decide +kernel
  have hsecond : ∀ e ∈ second.1,
      attachesAlone soundCard.address e.1 e.2 (refusing none e.1 e.2) := by
    decide +kernel
  have hok : second.2.2.toBool = true := by decide +kernel
  have hsent : (second.2.1.log.filter fun effect =>
      effect.owes soundCard.address "gui-vm" = some false).length = 2 := by decide +kernel
  have hcalls : PciCalls pairedHost.daemon (attachesAlone soundCard.address) pairedHost anew :=
    .between (.attach .start (Program.follow_exec _ pairedHost hfirst)) ⟨rfl, fun _ => .inr rfl⟩
  have hexec : Exec (machine (attachesAlone soundCard.address))
      (attachOnePci pairedHost.daemon soundCard soundRule none).run anew second.1 second.2.1
      (some (.ok ())) := exec_ok hsecond hok
  exact ⟨anew, second.1, second.2.1, hcalls, hexec, hsent,
    pci_attach_events_sent hsteps rfl hcalls hexec rfl rfl⟩

/-- The card is added and recorded, the save fails, and the attach tried again finds it there. -/
theorem pci_attach_event_lost : ¬∀ (w₀ w w' : World) (device : PciDevice) (rule : RuleMatch)
    (requestedVm : Option String) (tr : List (World × Op)) (vmName : String),
    w₀.memory.pciVms = ∅ → PciCalls w₀.daemon onlySavesFail w₀ w →
    Exec (machine onlySavesFail) (attachOnePci w₀.daemon device rule requestedVm).run w tr w'
      (some (.ok ())) → rule.targetVm = some vmName → ¬Owed w'.log device.address vmName := by
  intro hclaim
  let first := pairedHost.followPci failingSaves cardCall
  let second := first.2.1.followPci (refusing none) cardCall
  have hfirst : ∀ e ∈ first.1, onlySavesFail e.1 e.2 (failingSaves e.1 e.2) := by decide +kernel
  have hsecond : ∀ e ∈ second.1, onlySavesFail e.1 e.2 (refusing none e.1 e.2) := by
    decide +kernel
  have hok : second.2.2.toBool = true := by decide +kernel
  have howed : Owed second.2.1.log soundCard.address "gui-vm" := by decide +kernel
  have hcalls : PciCalls pairedHost.daemon onlySavesFail pairedHost first.2.1 :=
    .attach .start (Program.follow_exec _ pairedHost hfirst)
  exact hclaim pairedHost _ _ soundCard soundRule none _ "gui-vm" rfl hcalls (exec_ok hsecond hok)
    rfl howed

end GhafDeviceManager
