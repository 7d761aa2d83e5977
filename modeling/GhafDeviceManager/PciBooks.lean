import GhafDeviceManager.Observation

/-!
# What the PCI records stand for

An attach or a detach commands Crosvm one address after the other and changes the records only
after the last command. A command that fails on the way leaves the records as they were.
-/

namespace GhafDeviceManager

open Fallible

/-- What a successful vfio command makes of an address: a VM's, or nobody's. -/
def Effect.given (address : String) : Effect → Option (Option String)
  | .vfioAdd vm other true => if other = address then some (some vm.name) else none
  | .vfioRemove _ other true => if other = address then some none else none
  | _ => none

def givenTo (log : List Effect) (address : String) : Option String :=
  (log.findSome? (Effect.given address)).join

/-- An address is recorded for a VM exactly when it was last given to it. -/
def Booked (w : World) : Prop :=
  ∀ address, w.memory.pciVms.lookup address = givenTo w.log address

def Effect.isEntered : Effect → Bool
  | .entered _ => true
  | _ => false

/-- What has happened since the last call was entered. -/
def sinceEntered (log : List Effect) : List Effect :=
  log.takeWhile fun effect => !effect.isEntered

/-- The records already agree with what this call has commanded so far. -/
def InStep (w : World) : Prop :=
  ∀ effect ∈ sinceEntered w.log, ∀ address holder, effect.given address = some holder →
    w.memory.pciVms.lookup address = holder

/-- What the target VM lists of the passthrough was last given to this VM. -/
def ListedIsGiven (w : World) (device : PciDevice) (rule : RuleMatch) : Prop :=
  ∀ vmName ∈ rule.targetVm, ∀ vm ∈ w.daemon.vm vmName, ∀ address ∈ w.passthrough device rule,
    pciPath address ∈ w.vfio vm.socket → givenTo w.log address = some vmName

/-- The VM a detach takes the device from has its socket. -/
def HolderRuns (w : World) (device : PciDevice) (rule : RuleMatch) : Prop :=
  ∀ vmName ∈ w.pciHolder device rule, ∀ vm ∈ w.daemon.vm vmName, (w.sockets vm.socket).isSome

/-- No device that vanished is still recorded. -/
def VanishedFree (w : World) : Prop :=
  ∀ address, w.vanishedPci w.daemon address → w.memory.pciVms.lookup address = none

/-- What each step has to meet for the books to be kept. -/
def keepsBooks (w : World) : Op → Choice → Prop
  | .enter (.attachOnePci device rule _), _ => ListedIsGiven w device rule
  | .enter (.detachOnePci device rule _), _ => HolderRuns w device rule
  | .enter .observe, _ => VanishedFree w
  | .vfioAdd _ _, c => c.fail = true → InStep w
  | .vfioRemove _ _, c => c.fail = true → InStep w
  | _, _ => True

section Commands

variable {allowed : World → Op → Choice → Prop} {G : World → Op → Prop} {w : World}
  {holder : Option String} {books : Map String} {all rest : List String}

/-- On the way through the commands of a call, with `rest` still to do. -/
structure Commanding (holder : Option String) (books : Map String) (all rest : List String)
    (w : World) : Prop where
  records : w.memory.pciVms = books
  done : ∀ address ∈ all, address ∉ rest → givenTo w.log address = holder
  undone : ∀ address, givenTo w.log address = books.lookup address ∨
    address ∈ all ∧ givenTo w.log address = holder ∧
      ∃ effect ∈ sinceEntered w.log, effect.given address = some holder

theorem givenTo_cons (effect : Effect) (log : List Effect) (address : String) :
    givenTo (effect :: log) address = match effect.given address with
      | some holder => holder
      | none => givenTo log address := by
  unfold givenTo
  rw [List.findSome?_cons]
  cases effect.given address <;> rfl

theorem sinceEntered_cons {effect : Effect} (h : effect.isEntered = false) (log : List Effect) :
    sinceEntered (effect :: log) = effect :: sinceEntered log := by
  simp [sinceEntered, h]

theorem Commanding.succeed {e : Effect} {x : String} {w' : World}
    (h : Commanding holder books all (x :: rest) w) (hx : x ∈ all)
    (hentered : e.isEntered = false)
    (hgiven : ∀ address, e.given address = if x = address then some holder else none)
    (hlog : w'.log = e :: w.log) (hmemory : w'.memory = w.memory) :
    Commanding holder books all rest w' := by
  refine ⟨by rw [hmemory]; exact h.records, fun address hmem hnot => ?_, fun address => ?_⟩
  · rw [hlog, givenTo_cons, hgiven]
    by_cases hsame : x = address
    · rw [if_pos hsame]
    · rw [if_neg hsame]
      refine h.done address hmem fun hcons => ?_
      rcases List.mem_cons.1 hcons with heq | hrest
      · exact hsame heq.symm
      · exact hnot hrest
  · rw [hlog, givenTo_cons, hgiven, sinceEntered_cons hentered]
    by_cases hsame : x = address
    · rw [if_pos hsame]
      subst hsame
      exact .inr ⟨hx, rfl, e, List.mem_cons_self, by rw [hgiven, if_pos rfl]⟩
    · rw [if_neg hsame]
      obtain hold | ⟨hmem, hholder, old, hold, holdGiven⟩ := h.undone address
      · exact .inl hold
      · exact .inr ⟨hmem, hholder, old, List.mem_cons_of_mem _ hold, holdGiven⟩

/-- Where a command fails, the records may not lag behind. -/
theorem Commanding.fail {e : Effect} {w' : World} (h : Commanding holder books all rest w)
    (hstep : InStep w) (hgiven : ∀ address, e.given address = none)
    (hlog : w'.log = e :: w.log) (hmemory : w'.memory = w.memory) : Booked w' := by
  intro address
  rw [hlog, givenTo_cons, hgiven, hmemory]
  obtain hold | ⟨-, hholder, e', hmem, hgiven'⟩ := h.undone address
  · rw [hold, h.records]
  · rw [hholder]
    exact hstep e' hmem address holder hgiven'

theorem Commanding.start (h : Booked w) (all : List String) :
    Commanding holder w.memory.pciVms all all w :=
  ⟨rfl, fun _ hmem hnot => absurd hmem hnot, fun address => .inl (h address).symm⟩

theorem wp_recordRest {u : String → Update} (hG : ∀ w x, G w (.update (u x)))
    (hself : ∀ (m : Memory) x, ((u x).apply m).pciVms.lookup x = holder)
    (hother : ∀ (m : Memory) x address, address ≠ x →
      ((u x).apply m).pciVms.lookup address = m.pciVms.lookup address)
    (hlog : ∀ w x c, (react w (.update (u x)) c).2.log = w.log)
    (hholder : ∀ address ∈ rest, givenTo w.log address = holder)
    (hsettled : ∀ address, address ∉ rest →
      w.memory.pciVms.lookup address = givenTo w.log address) :
    wp (machine allowed) G (rest.forM fun x => update (u x)) (fun _ => Booked) w := by
  induction rest generalizing w with
  | nil => exact fun address => hsettled address List.not_mem_nil
  | cons x rest ih =>
      change wp (machine allowed) G (update (u x) >>= fun _ => rest.forM fun x => update (u x))
        (fun _ => Booked) w
      rw [wp_bind, update, wp_operation]
      refine ⟨hG w x, fun c _ => ?_⟩
      have hmemory : (react w (.update (u x)) c).2.memory = (u x).apply w.memory := by
        cases u x <;> rfl
      rw [andThen_ok]
      refine ih ?_ ?_
      · rw [hlog]
        exact fun address hmem => hholder address (List.mem_cons_of_mem x hmem)
      · intro address hnot
        rw [hmemory, hlog]
        by_cases hsame : address = x
        · subst hsame
          rw [hself, hholder address List.mem_cons_self]
        · rw [hother _ _ _ hsame]
          refine hsettled address fun hmem => ?_
          rcases List.mem_cons.1 hmem with heq | hrest
          · exact hsame heq
          · exact hnot hrest

theorem wp_recordAll {u : String → Update} (hG : ∀ w x, G w (.update (u x)))
    (hself : ∀ (m : Memory) x, ((u x).apply m).pciVms.lookup x = holder)
    (hother : ∀ (m : Memory) x address, address ≠ x →
      ((u x).apply m).pciVms.lookup address = m.pciVms.lookup address)
    (hlog : ∀ w x c, (react w (.update (u x)) c).2.log = w.log)
    (h : Commanding holder books all [] w) :
    wp (machine allowed) G (all.forM fun x => update (u x)) (fun _ => Booked) w := by
  refine wp_recordRest hG hself hother hlog (fun address hmem => ?_) fun address hnot => ?_
  · exact h.done address hmem List.not_mem_nil
  · obtain hold | ⟨hmem, -⟩ := h.undone address
    · rw [hold, h.records]
    · exact absurd hmem hnot

/-- The adds of an attach: on the way until the last, and in step where one fails. -/
theorem wp_addMissing {vm : Vm} {live : List String}
    (hG : ∀ w address, G w (.vfioAdd vm address))
    (hstep : ∀ w address c, allowed w (.vfioAdd vm address) c → c.fail = true → InStep w)
    (hlisted : ∀ address ∈ rest, pciPath address ∈ live → books.lookup address = some vm.name)
    (hrest : ∀ address ∈ rest, address ∈ all) (changed : Bool)
    (h : Commanding (some vm.name) books all rest w) :
    (addMissing vm live rest changed).wp (machine allowed) G (fun r w' => match r with
      | .ok _ => Commanding (some vm.name) books all [] w'
      | .error _ => Booked w') w := by
  induction rest generalizing w changed with
  | nil => exact h
  | cons x rest ih =>
      have hrest' : ∀ address ∈ rest, address ∈ all := fun address hmem =>
        hrest address (List.mem_cons_of_mem x hmem)
      have hlisted' : ∀ address ∈ rest, pciPath address ∈ live →
          books.lookup address = some vm.name := fun address hmem =>
        hlisted address (List.mem_cons_of_mem x hmem)
      unfold addMissing
      split
      case isTrue hlive =>
        refine ih hlisted' hrest' changed ⟨h.records, fun address hmem hnot => ?_, h.undone⟩
        by_cases hsame : address = x
        · subst hsame
          obtain hold | ⟨-, hholder, -⟩ := h.undone address
          · rw [hold]
            exact hlisted address List.mem_cons_self (by simpa using hlive)
          · exact hholder
        · refine h.done address hmem fun hcons => ?_
          rcases List.mem_cons.1 hcons with heq | hmem'
          · exact hsame heq
          · exact hnot hmem'
      case isFalse =>
        rw [wp_bind, wp_withContext, vfioAdd, wp_operation]
        refine ⟨hG w x, fun c hc => ?_⟩
        cases hfail : c.fail
        · simp only [react, Choice.result, hfail, Bool.false_eq_true, if_false, id,
            Except.mapError, andThen_ok]
          refine ih hlisted' hrest' true (h.succeed (hrest x List.mem_cons_self)
            (e := .vfioAdd vm x true) rfl (fun address => rfl) rfl rfl)
        · simp only [react, Choice.result, hfail, if_true, id, Except.mapError, andThen_error]
          exact h.fail (hstep w x c hc hfail) (e := .vfioAdd vm x false) (fun _ => rfl) rfl rfl

theorem wp_removeAll {vm : Vm} (hG : ∀ w address, G w (.vfioRemove vm address))
    (hstep : ∀ w address c, allowed w (.vfioRemove vm address) c → c.fail = true → InStep w)
    (hrest : ∀ address ∈ rest, address ∈ all) (h : Commanding none books all rest w) :
    wp (machine allowed) G (rest.forM (vfioRemove vm)) (fun r w' => match r with
      | .ok _ => Commanding none books all [] w'
      | .error _ => Booked w') w := by
  induction rest generalizing w with
  | nil => exact h
  | cons x rest ih =>
      have hrest' : ∀ address ∈ rest, address ∈ all := fun address hmem =>
        hrest address (List.mem_cons_of_mem x hmem)
      change wp (machine allowed) G (vfioRemove vm x >>= fun _ => rest.forM (vfioRemove vm)) _ w
      rw [wp_bind, vfioRemove, wp_operation]
      refine ⟨hG w x, fun c hc => ?_⟩
      cases hfail : c.fail
      · simp only [react, Choice.result, hfail, Bool.false_eq_true, if_false, id, andThen_ok]
        exact ih hrest' (h.succeed (hrest x List.mem_cons_self)
          (e := .vfioRemove vm x true) rfl (fun address => rfl) rfl rfl)
      · simp only [react, Choice.result, hfail, if_true, id, andThen_error]
        exact h.fail (hstep w x c hc hfail) (e := .vfioRemove vm x false) (fun _ => rfl)
          rfl rfl

end Commands

/-! ## Calls and operations -/

def EntersBooked (w : World) : Op → Prop
  | .enter (.attachOnePci _ _ _) => Booked w
  | .enter (.detachOnePci _ _ _) => Booked w
  | _ => True

/-- Operations the books do not depend on. -/
def Op.LeavesBooks : Op → Prop
  | .vfioAdd _ _ | .vfioRemove _ _ => False
  | .update (.pciVmsInsert _ _) | .update (.pciVmsRemove _) => False
  | _ => True

section Calls

variable {allowed : World → Op → Choice → Prop} {w : World} {d : Daemon} {device : PciDevice}
  {rule : RuleMatch}

theorem booked_react {op : Op} (hop : op.LeavesBooks) (hw : Booked w) (c : Choice) :
    Booked (react w op c).2 := by
  cases op with
  | update u => cases u <;> first | exact hw | exact hop.elim
  | authorize name value =>
      simp only [react]
      split
      · exact hw
      · exact hw
  | _ => first | exact hw | exact hop.elim

theorem booked_of_pciQuiet {w' : World} (h : PciQuiet w w') (hw : Booked w) : Booked w' := by
  obtain ⟨news, hlog, hquiet⟩ := h.log
  intro address
  have hnone : news.findSome? (Effect.given address) = none := by
    refine List.findSome?_eq_none_iff.2 fun effect heffect => ?_
    have hnot := hquiet effect heffect
    cases effect <;> first | rfl | exact hnot.elim
  rw [h.memory, hw address, givenTo, givenTo, hlog, List.findSome?_append, hnone, Option.none_or]

theorem entersBooked (hw : Booked w) (op : Op) : EntersBooked w op := by
  cases op with
  | enter entry => cases entry <;> first | exact hw | trivial
  | _ => trivial

theorem harmless_of_leavesBooks {op : Op} (hop : op.LeavesBooks) :
    Harmless allowed EntersBooked (fun w => w.daemon = d ∧ Booked w) op := by
  rintro w ⟨hd, hw⟩
  refine ⟨entersBooked hw op, fun c _ => ⟨?_, booked_react hop hw c⟩⟩
  rw [react_daemon, hd]

theorem wp_leavesBooks {α : Type} {p : Act α} (hp : Calls Op.LeavesBooks p) (hw : Booked w) :
    p.wp (machine allowed) EntersBooked (fun _ => Booked) w := by
  have hkeeps : Keeps (machine allowed) EntersBooked (fun w' => w'.daemon = w.daemon ∧ Booked w')
      p := keeps_of_harmless (Program.calls_mono hp fun _ => harmless_of_leavesBooks)
  exact wp_imp (hkeeps w ⟨rfl, hw⟩) fun _ _ h => h.2

variable (hbooks : ∀ w op c, allowed w op c → keepsBooks w op c)

include hbooks

theorem wp_attachOnePci_booked {requestedVm : Option String} (hw : Booked w) :
    (attachOnePci w.daemon device rule requestedVm).wp (machine allowed) EntersBooked
      (fun _ => Booked) w := by
  have hcalled : Booked (w.calledPci (.attachOnePci device rule requestedVm)) := hw
  refine wp_attachOnePci (fun op hop w' => ?_) hw (fun e w' hw' => booked_of_pciQuiet hw' hcalled)
    fun c hc vm vmName w' htarget hvm hw' => ?_
  · cases op with
    | enter entry => exact hop.elim
    | _ => trivial
  have hname : vm.name = vmName := Daemon.vm_name hvm
  subst hname
  have hbooked : Booked w' := booked_of_pciQuiet hw' hcalled
  have hgiven : ListedIsGiven w device rule := hbooks w _ c hc
  have hlisted : ∀ address ∈ w.passthrough device rule, pciPath address ∈ w.vfio vm.socket →
      w'.memory.pciVms.lookup address = some vm.name := by
    intro address hmem hlive
    rw [hw'.memory]
    exact (hw address).trans (hgiven vm.name htarget vm hvm address hmem hlive)
  rw [attachQuarantined, readMemory, wp_bind, wp_operation]
  refine ⟨trivial, fun _ _ => ?_⟩
  rw [react, andThen_ok, wp_bind]
  refine wp_imp (wp_addMissing (fun _ _ => trivial)
    (fun w₁ address c₁ hc₁ => hbooks w₁ _ c₁ hc₁) hlisted (fun _ h => h) _
    (.start hbooked _)) fun r w₁ h₁ => ?_
  cases r with
  | error e => exact h₁
  | ok changed =>
      have hend : ∀ w₂, Booked w₂ → wp (machine allowed) EntersBooked
          (if changed then notify (.pciAttached device vm.name) else pure ())
          (fun _ => Booked) w₂ := fun w₂ hw₂ =>
        wp_leavesBooks (calls_ite (calls_request (by trivial)) (by trivial)) hw₂
      rw [andThen_ok, recordPci, wp_bind, wp_withLock]
      refine ⟨trivial, fun _ _ => ?_⟩
      rw [wp_bind]
      refine wp_imp (wp_recordAll (u := fun address => .pciVmsInsert address vm.name)
        (fun _ _ => trivial) (fun m x => AList.lookup_insert _)
        (fun m x address hne => AList.lookup_insert_ne hne) (fun _ _ _ => rfl) h₁) ?_
      intro r w₂ hw₂
      cases r with
      | error e => exact ⟨trivial, fun _ _ => hw₂⟩
      | ok _ =>
          rw [andThen_ok]
          have hmark : Calls Op.LeavesBooks
              (setDisconnected w.daemon device.persistentId false) :=
            calls_setDisconnected (by trivial) (by trivial)
          refine wp_imp (wp_leavesBooks hmark hw₂) fun r w₃ hw₃ => ⟨trivial, fun _ _ => ?_⟩
          cases r with
          | error e => exact hw₃
          | ok _ => exact hend w₃ hw₃

theorem wp_detachOnePci_booked {permanent : Bool} (hw : Booked w) :
    (detachOnePci w.daemon device rule permanent).wp (machine allowed) EntersBooked
      (fun _ => Booked) w := by
  have hcalled : Booked (w.calledPci (.detachOnePci device rule permanent)) := hw
  have hmark : Calls Op.LeavesBooks
      (withLock .state (setDisconnected w.daemon device.persistentId permanent)) :=
    calls_withLock (by trivial) (by trivial) (calls_setDisconnected (by trivial) (by trivial))
  refine wp_detachOnePci (fun op hop w' => ?_) hw (fun e w' hw' => booked_of_pciQuiet hw' hcalled)
    (fun _ w' hw' => wp_leavesBooks hmark (booked_of_pciQuiet hw' hcalled))
    fun c hc vm vmName w' hholder hvm hw' => ?_
  · cases op with
    | enter entry => exact hop.elim
    | _ => trivial
  have hruns : HolderRuns w device rule := hbooks w _ c hc
  have hsocket : (w'.sockets vm.socket).isSome := by
    rw [hw'.sockets]
    exact hruns vmName hholder vm hvm
  have hbooked : Booked w' := booked_of_pciQuiet hw' hcalled
  rw [wp_bind, removePci, wp_bind, socketGeneration, wp_operation]
  refine ⟨trivial, fun _ _ => ?_⟩
  rw [react, andThen_ok, if_pos hsocket]
  refine wp_imp (wp_removeAll (fun _ _ => trivial) (fun w₁ address c₁ hc₁ => hbooks w₁ _ c₁ hc₁)
    (fun _ h => h) (.start hbooked _)) fun r w₁ h₁ => ?_
  cases r with
  | error e => exact h₁
  | ok _ =>
      rw [andThen_ok, wp_bind, forgetPci, wp_bind, wp_withLock]
      refine ⟨trivial, fun _ _ => ?_⟩
      refine wp_imp (wp_recordAll (u := fun address => .pciVmsRemove address)
        (fun _ _ => trivial) (fun m x => AList.lookup_erase _ _)
        (fun m x address hne => AList.lookup_erase_ne hne) (fun _ _ _ => rfl) h₁) ?_
      intro r w₂ hw₂
      refine ⟨trivial, fun _ _ => ?_⟩
      cases r with
      | error e => exact hw₂
      | ok _ =>
          have hnotify : Calls Op.LeavesBooks (notify (.pciDetached device vmName)) :=
            calls_request (by trivial)
          refine wp_imp (wp_leavesBooks hnotify hw₂) fun r w₃ hw₃ => ?_
          cases r with
          | error e => exact hw₃
          | ok _ => exact wp_leavesBooks hmark hw₃

omit hbooks in
/-- Dropping the record of an address that has none changes nothing. -/
theorem forgetsPci_booked {gone : String → Prop} {op : Op} (hop : op.ForgetsPci gone)
    (hnone : ∀ key, gone key → w.memory.pciVms.lookup key = none) (hw : Booked w) (c : Choice) :
    Booked (react w op c).2 ∧
      ∀ key, gone key → (react w op c).2.memory.pciVms.lookup key = none := by
  have hleaves : op.LeavesBooks → (react w op c).2.memory.pciVms = w.memory.pciVms →
      Booked (react w op c).2 ∧
        ∀ key, gone key → (react w op c).2.memory.pciVms.lookup key = none := by
    intro hop hsame
    refine ⟨booked_react hop hw c, ?_⟩
    rw [hsame]
    exact hnone
  cases op with
  | update u =>
      cases u with
      | pciVmsRemove address =>
          have hsame : ∀ key, (w.memory.pciVms.erase address).lookup key =
              w.memory.pciVms.lookup key := by
            intro key
            by_cases hkey : key = address
            · subst hkey
              rw [AList.lookup_erase, hnone key hop]
            · rw [AList.lookup_erase_ne hkey]
          refine ⟨fun key => (hsame key).trans (hw key), fun key hkey => ?_⟩
          exact (hsame key).trans (hnone key hkey)
      | observedPci devices => exact hleaves trivial rfl
      | _ => exact hop.elim
  | authorize name value => exact hop.elim
  | _ => first | exact hleaves trivial rfl | exact hop.elim

/-- Observing keeps the books where what vanished is not recorded. -/
theorem wp_observe_booked (hw : Booked w) :
    (observe w.daemon).wp (machine allowed) EntersBooked (fun _ => Booked) w := by
  rw [observe, wp_bind, enter, wp_operation]
  refine ⟨trivial, fun c hc => ?_⟩
  have hfree : VanishedFree w := hbooks w _ c hc
  have hentered : Booked (w.record (.entered .observe)) := hw
  rw [react, andThen_ok, wp_bind]
  refine wp_imp (wp_usbDevices trivial) ?_
  rintro r _ ⟨rfl, -⟩
  cases r with
  | error e => exact hentered
  | ok usb =>
      rw [andThen_ok, wp_bind]
      refine wp_imp (wp_pciDevices trivial fun _ => trivial) ?_
      rintro r _ ⟨rfl, hpci⟩
      cases r with
      | error e => exact hentered
      | ok pci =>
          obtain rfl := hpci pci rfl
          rw [andThen_ok, wp_bind]
          have husb : (observeUsb w.daemon (insertAll UsbDevice.sysName (usb.map Prod.fst))).wp
              (machine allowed) EntersBooked (fun _ w' => Booked w' ∧
                w'.memory.pciVms = w.memory.pciVms ∧
                w'.memory.observedPci = w.memory.observedPci) (w.record (.entered .observe)) := by
            refine wp_of_calls (calls_observeUsb w.daemon _) ?_ ?_ ⟨hentered, rfl, rfl⟩
            · rintro w₁ _ rfl h
              exact h
            · rintro op hop w₁ ⟨hbooked, hvms, hobserved⟩
              refine ⟨entersBooked hbooked op, ?_⟩
              rintro r w₂ ⟨c, _, hreact⟩
              have hleaves : op.LeavesBooks := by
                cases op with
                | update u => cases u <;> trivial
                | vfioAdd vm address => exact hop.elim
                | vfioRemove vm address => exact hop.elim
                | _ => trivial
              have hstep := booked_react hleaves hbooked c
              rw [hreact] at hstep
              have hmemory : w₂.memory.pciVms = w₁.memory.pciVms ∧
                  w₂.memory.observedPci = w₁.memory.observedPci := by
                have hw₂ : w₂ = (react w₁ op c).2 := by rw [hreact]
                rw [hw₂]
                cases op with
                | update u => cases u <;> first | exact ⟨rfl, rfl⟩ | exact hop.elim
                | authorize name value => exact hop.elim
                | _ => exact ⟨rfl, rfl⟩
              exact ⟨hstep, hmemory.1.trans hvms, hmemory.2.trans hobserved⟩
          refine wp_imp husb ?_
          rintro r w₁ ⟨hbooked, hvms, hobserved⟩
          cases r with
          | error e => exact hbooked
          | ok _ =>
              rw [andThen_ok]
              have hgone : ∀ key, (w₁.memory.observedPci.lookup key).isSome ∧
                  ((insertAll PciDevice.address ((w.pciRouted w.daemon).map Prod.fst)).lookup
                    key).isNone → w.memory.pciVms.lookup key = none := by
                rintro key ⟨hseen, hnone⟩
                rw [hobserved] at hseen
                rw [lookup_insertAll_isNone] at hnone
                exact hfree key ⟨hseen, fun x hx => hnone x.1 (List.mem_map_of_mem hx)⟩
              refine wp_imp (wp_observePci (I := fun w' => Booked w' ∧ ∀ key,
                (w₁.memory.observedPci.lookup key).isSome ∧
                  ((insertAll PciDevice.address ((w.pciRouted w.daemon).map Prod.fst)).lookup
                    key).isNone → w'.memory.pciVms.lookup key = none) ⟨hbooked, ?_⟩ ?_) ?_
              · rw [hvms]
                exact hgone
              · rintro op hop w₂ ⟨hbooked₂, hnone⟩
                exact ⟨entersBooked hbooked₂ op, fun c _ => forgetsPci_booked hop hnone hbooked₂ c⟩
              · exact fun _ _ h => h.1

omit hbooks in
theorem keeps_booked_of {α : Type} {p : Act α}
    (hp : ∀ w, w.daemon = d → Booked w → p.wp (machine allowed) EntersBooked (fun _ => Booked) w) :
    Keeps (machine allowed) EntersBooked (fun w => w.daemon = d ∧ Booked w) p := by
  rintro w ⟨hd, hw⟩
  refine wp_mono (wp_and (wp_daemon p) (hp w hd hw)) (fun _ _ h => h.2) fun _ _ h => ?_
  exact ⟨h.1.trans hd, h.2⟩

theorem operation_keeps_booked (o : Operation) :
    Keeps (machine allowed) EntersBooked (fun w => w.daemon = d ∧ Booked w) (o.program d) := by
  have hparts : PartsKeep allowed EntersBooked (fun w => w.daemon = d ∧ Booked w) d := by
    refine .of_pci (fun op hop => harmless_of_leavesBooks ?_)
      (fun device rule vm => keeps_booked_of ?_) (fun device rule permanent => keeps_booked_of ?_)
      (keeps_booked_of ?_)
    · cases op with
      | update u => cases u <;> trivial
      | _ => trivial
    · rintro w rfl hw
      exact wp_attachOnePci_booked hbooks hw
    · rintro w rfl hw
      exact wp_detachOnePci_booked hbooks hw
    · rintro w rfl hw
      exact wp_observe_booked hbooks hw
  exact hparts.operation_keeps o

/-- In every run of one process that starts with nothing given, each attach or detach of a PCI
device ends with the records saying to whom the manager's last successful command gave each
address. -/
theorem pci_books_kept {w₀ : World} (hempty : w₀.memory.pciVms = ∅)
    (hnothing : ∀ address, givenTo w₀.log address = none) {device : PciDevice} {rule : RuleMatch} :
    (∀ w requestedVm, IssuedFrom allowed (fun _ _ => True) (fun _ => False) w₀ w
        (.enter (.attachOnePci device rule requestedVm)) →
      ∀ tr w' r, Exec (machine allowed) (attachOnePci w.daemon device rule requestedVm).run w tr w'
        (some r) → Booked w') ∧
    ∀ w permanent, IssuedFrom allowed (fun _ _ => True) (fun _ => False) w₀ w
        (.enter (.detachOnePci device rule permanent)) →
      ∀ tr w' r, Exec (machine allowed) (detachOnePci w.daemon device rule permanent).run w tr w'
        (some r) → Booked w' := by
  have hkeep : ∀ (w : World) (o : Operation), True → Booked w →
      (o.program w.daemon).wp (machine allowed) EntersBooked (fun _ => Booked) w := by
    intro w o _ hw
    exact wp_imp (operation_keeps_booked hbooks o w ⟨rfl, hw⟩) fun _ _ h => h.2
  have hbooked : ∀ w, Continues allowed (fun _ _ => True) (fun _ => False) w₀ w → Booked w := by
    intro w h
    refine h.invariant (G := EntersBooked) ?_ ?_ (fun _ _ h => h.elim) hkeep
    · intro address
      rw [hempty, hnothing]
      rfl
    · intro w w' hw hbooked address
      rw [hw.memory, hw.log]
      exact hbooked address
  constructor
  · intro w requestedVm h tr w' r hexec
    have hw : Booked w := h.guarantee hbooked hkeep
    exact (Program.wp_sound (wp_attachOnePci_booked hbooks hw) hexec).2 r rfl
  · intro w permanent h tr w' r hexec
    have hw : Booked w := h.guarantee hbooked hkeep
    exact (Program.wp_sound (wp_detachOnePci_booked hbooks hw) hexec).2 r rfl

end Calls

/-! ## Two functions in one IOMMU group -/

def firstFunction : String := "0000:01:00.0"

def secondFunction : String := "0000:01:00.1"

def pciFunction (address : String) : PciEntry where
  address := address
  iommuGroup := some [firstFunction, secondFunction]

def pciRuleFor (addresses : List String) (vmName : String) (fields : List (String × Value)) :
    Value :=
  .object (("targetVm", .string vmName) ::
    ("allow", .array (addresses.map fun address => .object [("address", .string address)])) ::
    fields)

def pciDaemon (rules : List Value) : Daemon where
  config := { pciPassthrough := rules, vms := [guiVm, netVm] }
  host := Host.plain

/-- Both VMs run, and the rules are about the two functions. -/
def sharedGroup (rules : List Value) : World where
  daemon := pciDaemon rules
  pci := [pciFunction firstFunction, pciFunction secondFunction]
  sockets := Function.update (Function.update (fun _ => none) guiVm.socket (some "gui-first"))
    netVm.socket (some "net-first")

def groupToGui : World :=
  sharedGroup [pciRuleFor [firstFunction, secondFunction] "gui-vm" [("pciIommuAddAll", .bool true)]]

def attachFirst : Operation := .pciAttach { address := some firstFunction } none

/-- What a Crosvm lists follows the commands it carries out. -/
def listsGiven (w : World) : Op → Choice → Prop
  | .vfioAdd vm address, c => (c.setVfio w vm.socket).vfio vm.socket =
      if c.fail then w.vfio vm.socket else w.vfio vm.socket ++ [pciPath address]
  | .vfioRemove vm address, c => (c.setVfio w vm.socket).vfio vm.socket =
      if c.fail then w.vfio vm.socket else (w.vfio vm.socket).filter (· ≠ pciPath address)
  | _, _ => True

instance (w : World) (op : Op) (c : Choice) : Decidable (listsGiven w op c) := by
  unfold listsGiven
  split <;> infer_instance

def refusing (refused : Option String) (w : World) : Op → Choice
  | .vfioAdd vm address =>
    if some address = refused then { fail := true }
    else { vfio := some (w.vfio vm.socket ++ [pciPath address]) }
  | .vfioRemove vm address =>
    { vfio := some ((w.vfio vm.socket).filter (· ≠ pciPath address)) }
  | _ => {}

/-- A call for a PCI device, for one of its addresses. -/
def Op.pciCall : Op → Option (PciDevice × RuleMatch × Option String)
  | .enter (.attachOnePci device rule requestedVm) => some (device, rule, requestedVm)
  | _ => none

theorem Op.eq_pciCall {op : Op} {device : PciDevice} {rule : RuleMatch}
    {requestedVm : Option String} (h : op.pciCall = some (device, rule, requestedVm)) :
    op = .enter (.attachOnePci device rule requestedVm) := by
  cases op with
  | enter entry =>
      cases entry with
      | attachOnePci d r vm =>
          obtain ⟨rfl, hrest⟩ := Prod.mk.inj (Option.some.inj h)
          obtain ⟨rfl, rfl⟩ := Prod.mk.inj hrest
          rfl
      | _ => cases h
  | _ => cases h

def World.followPci (w : World) (pick : World → Op → Choice)
    (call : PciDevice × RuleMatch × Option String) :
    List (World × Op) × World × Except Error Unit :=
  (attachOnePci w.daemon call.1 call.2.1 call.2.2).run.follow react pick w

/-- Calls to attach only, over lists the manager made, and nothing fails. -/
def attachesCleanly (w : World) : Op → Choice → Prop
  | .enter (.attachOnePci device rule _), _ => ListedIsGiven w device rule
  | .enter (.detachOnePci _ _ _), _ => False
  | .enter .observe, _ => False
  | _, c => c.fail = false

instance (w : World) (device : PciDevice) (rule : RuleMatch) :
    Decidable (ListedIsGiven w device rule) := by
  unfold ListedIsGiven
  infer_instance

instance (w : World) (op : Op) (c : Choice) : Decidable (attachesCleanly w op c) := by
  unfold attachesCleanly
  split <;> infer_instance

theorem pci_books_kept_groupToGui : ∃ w device rule requestedVm,
    IssuedFrom attachesCleanly (fun _ _ => True) (fun _ => False) groupToGui w
      (.enter (.attachOnePci device rule requestedVm)) ∧
    ∃ tr w', Exec (machine attachesCleanly)
      (attachOnePci w.daemon device rule requestedVm).run w tr w' (some (.ok ())) ∧
      Booked w' := by
  have hbooks : ∀ w op c, attachesCleanly w op c → keepsBooks w op c := by
    intro w op c h
    cases op with
    | enter entry => cases entry <;> first | exact h | trivial
    | vfioAdd vm address => exact fun hfail => absurd (hfail.symm.trans h) (by decide)
    | vfioRemove vm address => exact fun hfail => absurd (hfail.symm.trans h) (by decide)
    | _ => trivial
  have hallowed : ∀ e ∈ groupToGui.trace (refusing none) attachFirst,
      attachesCleanly e.1 e.2 (refusing none e.1 e.2) := by decide +kernel
  have hcall : ∃ e ∈ groupToGui.trace (refusing none) attachFirst, ∃ call ∈ e.2.pciCall,
      (∀ e' ∈ (e.1.followPci (refusing none) call).1,
        attachesCleanly e'.1 e'.2 (refusing none e'.1 e'.2)) ∧
      (e.1.followPci (refusing none) call).2.2.toBool = true := by decide +kernel
  obtain ⟨⟨w, op⟩, he, ⟨device, rule, vm⟩, hop, hclean, hok⟩ := hcall
  obtain rfl := Op.eq_pciCall hop
  have hissued := issuedFrom_trace (fun _ _ => True) (fun _ => False) (refusing none)
    attachFirst trivial hallowed he
  have hexec := Program.follow_exec (attachOnePci w.daemon device rule vm).run w hclean
  cases hresult : (w.followPci (refusing none) (device, rule, vm)).2.2 with
  | error e =>
      rw [hresult] at hok
      cases hok
  | ok _ =>
      rw [World.followPci] at hresult
      rw [hresult] at hexec
      exact ⟨w, device, rule, vm, hissued, _, _, hexec,
        (pci_books_kept hbooks rfl (fun _ => rfl)).1 w vm hissued _ _ _ hexec⟩

/-- The first function is the VM's, but the call ends with the refusal of the second, before
either is recorded. -/
theorem pci_books_lag_after_refusal : ¬∀ w₀ : World, w₀.memory.pciVms = ∅ →
    (∀ socket, w₀.vfio socket = []) → (∀ address, givenTo w₀.log address = none) →
    (∀ vm ∈ w₀.daemon.config.vms, (w₀.sockets vm.socket).isSome) → ∀ w device rule requestedVm,
    IssuedFrom listsGiven (fun _ _ => True) (fun _ => False) w₀ w
      (.enter (.attachOnePci device rule requestedVm)) →
    ∀ tr w' r, Exec (machine listsGiven) (attachOnePci w.daemon device rule requestedVm).run w tr
      w' (some r) → Booked w' := by
  intro hclaim
  have hallowed : ∀ e ∈ groupToGui.trace (refusing (some secondFunction)) attachFirst,
      listsGiven e.1 e.2 (refusing (some secondFunction) e.1 e.2) := by decide +kernel
  have hcall : ∃ e ∈ groupToGui.trace (refusing (some secondFunction)) attachFirst,
      ∃ call ∈ e.2.pciCall,
      (∀ e' ∈ (e.1.followPci (refusing (some secondFunction)) call).1,
        listsGiven e'.1 e'.2 (refusing (some secondFunction) e'.1 e'.2)) ∧
      (e.1.followPci (refusing (some secondFunction)) call).2.1.memory.pciVms.lookup
          firstFunction ≠
        givenTo (e.1.followPci (refusing (some secondFunction)) call).2.1.log firstFunction := by
    decide +kernel
  obtain ⟨⟨w, op⟩, he, ⟨device, rule, vm⟩, hop, hlists, hlag⟩ := hcall
  obtain rfl := Op.eq_pciCall hop
  have hissued := issuedFrom_trace (fun _ _ => True) (fun _ => False)
    (refusing (some secondFunction)) attachFirst trivial hallowed he
  have hexec := Program.follow_exec (attachOnePci w.daemon device rule vm).run w hlists
  exact hlag (hclaim groupToGui rfl (fun _ => rfl) (fun _ => rfl) (by decide) w device rule vm
    hissued _ _ _ hexec firstFunction)

end GhafDeviceManager
