import GhafDeviceManager.StandingChoice

/-!
# Resuming the devices of one VM

`resume_usb` for one VM settles the VM of a device by itself, from the rule's target and the
remembered selection, and then calls an attach that would settle on the same VM, except that the
attach also knows the only VM a rule allows. The two are compared round by round, and over a whole
call with what was remembered at its start.
-/

namespace GhafDeviceManager

open Fallible

/-! ## Two ways to settle on a VM -/

/-- An attach without a requested VM would choose `vm` for the device, which is not marked. -/
def Memory.Offers (m : Memory) (x : UsbDevice × RuleMatch) (vm : String) : Prop :=
  m.persistent.disconnected x.1.persistentId = false ∧
    chooseVm none x.2 m.persistent.selectedVms x.1.persistentId = some vm

/-- What a resume of `vm` goes by. -/
def Memory.Resumes (m : Memory) (x : UsbDevice × RuleMatch) (vm : String) : Prop :=
  m.persistent.disconnected x.1.persistentId = false ∧
    resumeTarget x.2 m.persistent.selectedVms x.1.persistentId = some vm

/-- Neither the rule nor the memory names a VM, and the rule allows only this one. -/
def Memory.FallsBack (m : Memory) (x : UsbDevice × RuleMatch) (vm : String) : Prop :=
  m.persistent.disconnected x.1.persistentId = false ∧ x.2.targetVm = none ∧
    m.persistent.selectedVms.lookup x.1.persistentId = none ∧ x.2.allowedVms = [vm]

section Choices

variable {m : Memory} {x : UsbDevice × RuleMatch} {vm : String}

theorem chooseVm_eq (rule : RuleMatch) (selectedVms : Map String) (id : String) :
    chooseVm none rule selectedVms id = (resumeTarget rule selectedVms id).or
      (match rule.allowedVms with
        | [vm] => some vm
        | _ => none) := by
  unfold chooseVm resumeTarget
  cases rule.targetVm with
  | some target => rfl
  | none => cases selectedVms.lookup id <;> rfl

theorem Memory.offers_iff : m.Offers x vm ↔ m.Resumes x vm ∨ m.FallsBack x vm := by
  unfold Memory.Offers Memory.Resumes Memory.FallsBack
  rw [chooseVm_eq, resumeTarget]
  cases x.2.targetVm with
  | some target => simp
  | none =>
      cases m.persistent.selectedVms.lookup x.1.persistentId with
      | some selected => simp
      | none =>
          have honly : (match x.2.allowedVms with
              | [vm] => some vm
              | _ => none) = some vm ↔ x.2.allowedVms = [vm] := by
            constructor
            · intro h
              split at h
              case h_1 heq => rw [heq, Option.some.inj h]
              case h_2 => cases h
            · intro h
              rw [h]
          simp [honly]

theorem Memory.Resumes.not_fallsBack (h : m.Resumes x vm) : ¬m.FallsBack x vm := by
  rintro ⟨-, htarget, hselected, -⟩
  have hresume := h.2
  rw [resumeTarget, htarget, hselected] at hresume
  cases hresume

/-- The two agree exactly where there is nothing to fall back on. -/
theorem Memory.resumes_iff_offers_iff : (m.Resumes x vm ↔ m.Offers x vm) ↔ ¬m.FallsBack x vm := by
  rw [Memory.offers_iff]
  constructor
  · intro h hfalls
    exact (h.2 (.inr hfalls)).not_fallsBack hfalls
  · intro h
    exact ⟨.inl, fun hoffers => hoffers.resolve_right h⟩

theorem inScope_some {target : Option String} : inScope (some vm) target = true ↔
    target = some vm := by
  cases target with
  | none => simp [inScope]
  | some name =>
      simp only [inScope, beq_iff_eq, Option.some.injEq]
      exact eq_comm

end Choices

/-! ## One round -/

def scopedRound (d : Daemon) (vm : String) (failures : List String) (x : UsbDevice × RuleMatch) :
    Act (List String) :=
  resumeUsbDevice d (some vm) failures x.1 x.2

def Called {V : Type} (calls : List (V × Op)) (x : UsbDevice × RuleMatch) : Prop :=
  ∃ e ∈ calls, ∃ requestedVm, e.2 = .enter (.attachOneUsb x.1 x.2 requestedVm)

section Round

variable {V : Type} {M : Machine Op Reply V} {memory : V → Memory} {d : Daemon} {v v' : V}
  {tr tr' : List (V × Op)} {x y : UsbDevice × RuleMatch} {vm : String}

@[simp] theorem not_called_nil : ¬Called ([] : List (V × Op)) x := by
  rintro ⟨e, he, -⟩
  cases he

theorem called_append : Called (tr ++ tr') x ↔ Called tr x ∨ Called tr' x := by
  constructor
  · rintro ⟨e, he, hop⟩
    rcases List.mem_append.1 he with hfirst | hsecond
    · exact .inl ⟨e, hfirst, hop⟩
    · exact .inr ⟨e, hsecond, hop⟩
  · rintro (⟨e, he, hop⟩ | ⟨e, he, hop⟩)
    · exact ⟨e, List.mem_append_left _ he, hop⟩
    · exact ⟨e, List.mem_append_right _ he, hop⟩

theorem called_cons {e : V × Op} (he : ∀ device rule requestedVm,
    e.2 ≠ .enter (.attachOneUsb device rule requestedVm)) : Called (e :: tr) x ↔ Called tr x := by
  constructor
  · rintro ⟨e', he', requestedVm, hop⟩
    rcases List.mem_cons.1 he' with rfl | hrest
    · exact absurd hop (he _ _ _)
    · exact ⟨e', hrest, requestedVm, hop⟩
  · rintro ⟨e', he', hop⟩
    exact ⟨e', List.mem_cons_of_mem e he', hop⟩

theorem exec_read_bind (hM : Remembers M memory) {α : Type} {lock : Lock} {f : Memory → Act α}
    {r : Except Error α}
    (h : Exec M (readMemory lock >>= f).run v tr v' (some r)) : ∃ u u' rest,
    Exec M (f (memory v)).run u' rest v' (some r) ∧ memory u' = memory v ∧
      tr = (u, .read lock) :: rest := by
  obtain ⟨hnone, -⟩ | ⟨tr₁, rest, u', read, hread, hrest, rfl⟩ := Exec.bind_inv h
  · cases hnone
  · obtain ⟨u, reply, henv, hstep, rfl, rfl⟩ := exec_request_inv hread
    obtain ⟨hreply, hmemory⟩ := hM.step _ _ _ _ hstep
    have hsame : memory u = memory v := hM.env _ _ henv
    obtain rfl : reply = memory v := by rw [← hsame]; exact hreply
    exact ⟨u, u', rest, hrest, hmemory.trans hsame, rfl⟩

/-- An attach that ran to its end was entered. -/
theorem exec_attach_called {rule : RuleMatch} {requestedVm : Option String} {α : Type}
    {f : Except Error Unit → Act α} {r : Except Error α}
    (h : Exec M (Fallible.attempt (attachOneUsb d x.1 rule requestedVm) >>= f).run v tr v'
      (some r)) : ∃ e ∈ tr, e.2 = .enter (.attachOneUsb x.1 rule requestedVm) := by
  obtain ⟨hnone, -⟩ | ⟨tr₁, tr₂, u, o, hattempt, -, rfl⟩ := Exec.bind_inv h
  · cases hnone
  · cases o with
    | error e =>
        obtain ⟨hnone, -⟩ | ⟨_, _, _, _, _, hend, _⟩ := Exec.bind_inv hattempt
        · cases hnone
        · cases hend
    | ok result =>
        obtain ⟨hnone, -⟩ | ⟨tr₃, tr₄, u₁, o₁, henter, -, rfl⟩ :=
          Exec.bind_inv (exec_attempt hattempt)
        · cases hnone
        · obtain ⟨u₂, _, _, _, rfl, _⟩ := exec_request_inv henter
          exact ⟨_, List.mem_append_left _ List.mem_cons_self, rfl⟩

/-- A round calls an attach for its own device at most. -/
theorem called_of_round {failures : List String} {o : Option (Except Error (List String))}
    (h : Exec M (scopedRound d vm failures x).run v tr v' o) (hcalled : Called tr y) : y = x := by
  let S : Op → Prop := fun op => ∀ requestedVm, op = .enter (.attachOneUsb y.1 y.2 requestedVm) →
    y = x
  have hother : ∀ op : Op, op.Assigns x.1 → S op := by
    rintro _ hop requestedVm rfl
    cases hop
  have hcalls : Calls S (scopedRound d vm failures x) := by
    refine calls_resumeUsbDevice (hother _ (by trivial)) (fun _ => hother _ (by trivial)) nofun
      fun target => calls_attachOneUsb d x.1 x.2 target ?_ hother
    intro requestedVm hsame
    injection hsame with hentry
    injection hentry with hdevice hrule
    exact (Prod.ext hdevice hrule).symm
  obtain ⟨e, he, requestedVm, hop⟩ := hcalled
  exact Exec.calls h hcalls e he requestedVm hop

/-- A round calls an attach where the resume is for its device, and else only reads. -/
theorem exec_round_called (hM : Remembers M memory) {failures : List String}
    {r : Except Error (List String)}
    (h : Exec M (scopedRound d vm failures x).run v tr v' (some r)) :
    (Called tr x ↔ (memory v).Resumes x vm) ∧
      (¬(memory v).Resumes x vm → memory v' = memory v) := by
  have hread : ∀ (u : V) (tr : List (V × Op)),
      Called ((u, .read .state) :: tr) x ↔ Called tr x :=
    fun u tr => called_cons fun _ _ _ => nofun
  have hone : ∀ target u tr, memory u = memory v →
      target = resumeTarget x.2 (memory v).persistent.selectedVms x.1.persistentId →
      Exec M (do
        if inScope (some vm) target then
          collectDeferring d x.1.sysName target (attachOneUsb d x.1 x.2 target) failures
        else return failures : Act (List String)).run u tr v' (some r) →
      (Called tr x ↔ target = some vm) ∧ (target ≠ some vm → memory v' = memory v) := by
    intro target u tr hu _ hrest
    by_cases hscope : inScope (some vm) target = true
    · rw [if_pos hscope] at hrest
      rw [inScope_some] at hscope
      obtain ⟨e, he, hop⟩ := exec_attach_called hrest
      exact ⟨iff_of_true ⟨e, he, target, hop⟩ hscope, absurd hscope⟩
    · rw [if_neg hscope] at hrest
      rw [inScope_some] at hscope
      cases hrest with
      | done => exact ⟨iff_of_false not_called_nil hscope, fun _ => hu⟩
  unfold scopedRound resumeUsbDevice at h
  obtain ⟨u, u', rest, hrest, hu, rfl⟩ := exec_read_bind hM h
  rw [hread]
  split at hrest
  case isTrue hmarked =>
    cases hrest with
    | done =>
        have hnot : ¬(memory v).Resumes x vm := by
          rintro ⟨hconnected, -⟩
          rw [hconnected] at hmarked
          cases hmarked
        exact ⟨iff_of_false not_called_nil hnot, fun _ => hu⟩
  case isFalse hconnected =>
    have hresumes : (memory v).Resumes x vm ↔
        resumeTarget x.2 (memory v).persistent.selectedVms x.1.persistentId = some vm :=
      ⟨fun h => h.2, fun h => ⟨Bool.eq_false_of_not_eq_true hconnected, h⟩⟩
    rw [hresumes]
    split at hrest
    case h_1 target htarget =>
      have hsame : some target =
          resumeTarget x.2 (memory v).persistent.selectedVms x.1.persistentId := by
        rw [resumeTarget, htarget]
        rfl
      rw [← hsame]
      exact hone (some target) u' rest hu hsame hrest
    case h_2 htarget =>
      obtain ⟨u₁, u₂, rest', hrest', hu₂, rfl⟩ := exec_read_bind hM hrest
      have hsame : (memory v).persistent.selectedVms.lookup x.1.persistentId =
          resumeTarget x.2 (memory v).persistent.selectedVms x.1.persistentId := by
        rw [resumeTarget, htarget]
        rfl
      rw [hu] at hrest'
      rw [hread, ← hsame]
      exact hone _ u₂ rest' (hu₂.trans hu) hsame hrest'

theorem keeps_anything {α : Type} (p : Act α) : Keeps M (fun _ _ => True) (fun _ => True) p :=
  fun _ _ => wp_of_calls (Program.calls_top p.run) (fun _ _ _ _ => trivial)
    (fun _ _ _ _ => ⟨trivial, fun _ _ _ => trivial⟩) trivial

theorem succeeds_told {α : Type} {op : Op} {result : Reply op → Except Error α}
    (h : ∀ r, ∃ a, result r = .ok a) :
    Succeeds M (fun _ _ => True) (fun _ => True) (Fallible.request op result : Act α) := by
  intro v _
  rw [Fallible.wp_request]
  exact fun _ _ => ⟨trivial, fun r _ _ => ⟨h r, trivial⟩⟩

theorem succeeds_vmStopped (target : Option String) :
    Succeeds M (fun _ _ => True) (fun _ => True) (vmStopped d target) := by
  unfold vmStopped
  split
  · exact succeeds_pure _
  · exact succeeds_bind (succeeds_told fun r => ⟨r, rfl⟩) fun _ => succeeds_pure _

theorem succeeds_collectDeferring {name : String} {target : Option String} {p : Act Unit}
    {failures : List String} :
    Succeeds M (fun _ _ => True) (fun _ => True) (collectDeferring d name target p failures) := by
  refine succeeds_bind (succeeds_attempt (keeps_anything p)) fun r => ?_
  cases r with
  | ok _ => exact succeeds_pure _
  | error e =>
      refine succeeds_bind (succeeds_vmStopped target) fun stopped => ?_
      cases stopped with
      | false => exact succeeds_pure _
      | true => exact succeeds_bind (succeeds_told fun _ => ⟨(), rfl⟩) fun _ => succeeds_pure _

/-- A round reports its failure and goes on. -/
theorem succeeds_resumeUsbDevice {scope : Option String} {failures : List String}
    {device : UsbDevice} {rule : RuleMatch} : Succeeds M (fun _ _ => True) (fun _ => True)
      (resumeUsbDevice d scope failures device rule) := by
  have hone : ∀ target, Succeeds M (fun _ _ => True) (fun _ => True) (do
      if inScope scope target then
        collectDeferring d device.sysName target (attachOneUsb d device rule target) failures
      else return failures : Act (List String)) := by
    intro target
    split
    · exact succeeds_collectDeferring
    · exact succeeds_pure _
  refine succeeds_bind (succeeds_told fun m => ⟨m, rfl⟩) fun m => ?_
  split
  · exact succeeds_pure _
  · dsimp only
    split
    · exact hone _
    · exact succeeds_bind (succeeds_told fun m => ⟨m, rfl⟩) fun m => hone _

theorem succeeds_resumeRounds (scope : Option String) (devices : List (UsbDevice × RuleMatch))
    (failures : List String) : Succeeds M (fun _ _ => True) (fun _ => True)
      (devices.foldlM (fun failures x => resumeUsbDevice d scope failures x.1 x.2) failures) :=
  succeeds_foldlM (fun _ _ => succeeds_resumeUsbDevice) failures

end Round

/-! ## What a round leaves alone -/

/-- For the device, what an attach or a resume asks of the memory is the same. -/
structure Alike (x : UsbDevice × RuleMatch) (m m' : Memory) : Prop where
  disconnected : m'.persistent.disconnected x.1.persistentId =
    m.persistent.disconnected x.1.persistentId
  selected : x.2.targetVm = none → m'.persistent.selectedVms.lookup x.1.persistentId =
    m.persistent.selectedVms.lookup x.1.persistentId

/-- No device without a target shares its id with one whose target is `vm`. -/
def Separate (vm : String) (devices : List (UsbDevice × RuleMatch)) : Prop :=
  ∀ x ∈ devices, ∀ y ∈ devices, x.2.targetVm = none → y.2.targetVm = some vm →
    x.1.persistentId ≠ y.1.persistentId

section Alike

variable {d : Daemon} {x y : UsbDevice × RuleMatch} {m m' m'' : Memory} {vm : String}
  {admits : Op → Prop}

theorem Alike.refl (x : UsbDevice × RuleMatch) (m : Memory) : Alike x m m := ⟨rfl, fun _ => rfl⟩

theorem Alike.resumes_iff (h : Alike x m m') : m'.Resumes x vm ↔ m.Resumes x vm := by
  unfold Memory.Resumes resumeTarget
  rw [h.disconnected]
  cases htarget : x.2.targetVm with
  | some target => rfl
  | none => rw [h.selected htarget]

theorem keeps_scopedRound {failures : List String} :
    Keeps (remembering admits) (SelectsFirst vm) (fun _ => True)
      (scopedRound d vm failures x) := by
  have hfree : ∀ {op : Op} {α : Type} {result : Reply op → Except Error α}, op.Unselecting →
      Keeps (remembering admits) (SelectsFirst vm) (fun _ => True)
        (Fallible.request op result : Act α) :=
    fun hop => keeps_unselecting (calls_request hop)
  have hone : ∀ target, Keeps (remembering admits) (SelectsFirst vm) (fun _ => True) (do
      if inScope (some vm) target then
        collectDeferring d x.1.sysName target (attachOneUsb d x.1 x.2 target) failures
      else return failures : Act (List String)) := by
    intro target
    split
    case isFalse => exact keeps_pure _
    case isTrue hscope =>
      obtain rfl : target = some vm := inScope_some.1 hscope
      refine keeps_bind (keeps_attempt keeps_attachOneUsb) fun r => ?_
      cases r with
      | ok _ => exact keeps_pure _
      | error e =>
          refine keeps_bind (keeps_unselecting ?_) fun stopped => ?_
          · exact calls_vmStopped (fun _ => unselecting_of_observes trivial) _
          · cases stopped with
            | false => exact keeps_pure _
            | true => exact keeps_bind (hfree fun _ _ => trivial) fun _ => keeps_pure _
  refine keeps_bind (hfree (unselecting_of_observes trivial)) fun m => ?_
  split
  · exact keeps_pure _
  · dsimp only
    split
    · exact hone _
    · exact keeps_bind (hfree (unselecting_of_observes trivial)) fun m => hone _

/-- What a round writes concerns its own device, and is what the resume went by. -/
theorem alike_remember {op : Op} (hresumes : m.Resumes y vm)
    (hseparate : x.2.targetVm = none → y.2.targetVm = some vm →
      x.1.persistentId ≠ y.1.persistentId)
    (hassigns : op.Assigns y.1) (hselects : SelectsFirst vm m' op) (h : Alike x m m') :
    Alike x m (op.remember m') := by
  cases op with
  | update u =>
      cases u with
      | selectVm id name =>
          obtain rfl : id = y.1.persistentId := hassigns
          obtain rfl : name = vm := hselects
          refine ⟨h.disconnected, fun htarget => ?_⟩
          change (m'.persistent.selectedVms.insert y.1.persistentId name).lookup _ = _
          by_cases hid : x.1.persistentId = y.1.persistentId
          · have hmemory : m.persistent.selectedVms.lookup y.1.persistentId = some name := by
              have hresume := hresumes.2
              rw [resumeTarget] at hresume
              cases hy : y.2.targetVm with
              | none => rwa [hy] at hresume
              | some target =>
                  rw [hy] at hresume
                  obtain rfl : target = name := Option.some.inj hresume
                  exact absurd hid (hseparate htarget hy)
            rw [hid, AList.lookup_insert, hmemory]
          · rw [AList.lookup_insert_ne hid, h.selected htarget]
      | setDisconnected id value =>
          obtain ⟨rfl, rfl⟩ : id = y.1.persistentId ∧ value = false := hassigns
          refine ⟨?_, h.selected⟩
          change (m'.persistent.setDisconnected y.1.persistentId false).disconnected _ = _
          rw [PersistentState.disconnected_setDisconnected]
          by_cases hid : x.1.persistentId = y.1.persistentId
          · rw [if_pos hid, hid, hresumes.1]
          · rw [if_neg hid, h.disconnected]
      | _ => exact ⟨h.disconnected, h.selected⟩
  | _ => exact h

theorem wp_scopedRound_alike {failures : List String} (hresumes : m.Resumes y vm)
    (hseparate : x.2.targetVm = none → y.2.targetVm = some vm →
      x.1.persistentId ≠ y.1.persistentId) :
    wp (remembering admits) (fun _ _ => True) (scopedRound d vm failures y)
      (fun _ m' => Alike x m m') m := by
  let S : Op → Prop := fun op => op.Assigns y.1 ∨ ∀ m, (op.remember m).persistent = m.persistent
  have hcalls : Calls S (scopedRound d vm failures y) :=
    calls_resumeUsbDevice (.inr fun _ => rfl) (fun _ => .inr fun _ => rfl) (.inr fun _ => rfl)
      fun target => calls_attachOneUsb d y.1 y.2 target (.inr fun _ => rfl) fun op hop => .inl hop
  have hfootprint : wp (remembering admits) (fun _ op => S op) (scopedRound d vm failures y)
      (fun _ _ => True) m :=
    wp_of_calls_remembering hcalls (fun _ hop _ _ => ⟨hop, trivial⟩) trivial
  have hround : wp (remembering admits) (SelectsFirst vm) (scopedRound d vm failures y)
      (fun _ _ => True) m := keeps_scopedRound m trivial
  have hboth := wp_and hround hfootprint
  have hinvariant := Program.wp_invariant (I := Alike x m) hboth ?_ ?_ (.refl x m)
  · exact Program.wp_mono hinvariant (fun _ _ _ => trivial) fun _ _ h => h.1
  · rintro m₁ _ rfl h
    exact h
  · rintro m₁ op h ⟨hselects, hop⟩ r _ ⟨-, -, rfl⟩
    rcases hop with hassigns | hsame
    · exact alike_remember hresumes hseparate hassigns hselects h
    · refine ⟨?_, fun htarget => ?_⟩
      · rw [hsame m₁, h.disconnected]
      · rw [hsame m₁, h.selected htarget]

end Alike

/-! ## The call -/

/-- `resume_usb` for `vm` at one device of its scan: those before it are through at `u`, its round
makes `calls`, and those after it go on from `u'`. -/
def ScopedRound {V : Type} (M : Machine Op Reply V) (d : Daemon) (vm : String)
    (tr : List (V × Op)) (before : List (UsbDevice × RuleMatch)) (x : UsbDevice × RuleMatch)
    (after : List (UsbDevice × RuleMatch)) (u : V) (calls : List (V × Op)) (u' : V) : Prop :=
  ∃ opening first last closing v v' failures failures' failures'',
    tr = opening ++ (first ++ (calls ++ last)) ++ closing ∧
      opening.map Prod.snd =
        [.lock .operation, .scanUsb, .enter (.resumeUsb (before ++ x :: after))] ∧
      Exec M (before.foldlM (scopedRound d vm) []).run v first u (some (.ok failures)) ∧
      Exec M (scopedRound d vm failures x).run u calls u' (some (.ok failures')) ∧
      Exec M (after.foldlM (scopedRound d vm) failures').run u' last v' (some (.ok failures''))

section Resume

variable {V : Type} {M : Machine Op Reply V} {memory : V → Memory} {d : Daemon} {v v' : V}
  {tr : List (V × Op)} {vm : String} {devices : List (UsbDevice × RuleMatch)}
  {failures : List String}

theorem called_iff_mem {x : UsbDevice × RuleMatch} : Called tr x ↔
    ∃ requestedVm, .enter (.attachOneUsb x.1 x.2 requestedVm) ∈ tr.map Prod.snd := by
  constructor
  · rintro ⟨e, he, requestedVm, hop⟩
    exact ⟨requestedVm, hop ▸ List.mem_map_of_mem he⟩
  · rintro ⟨requestedVm, hmem⟩
    obtain ⟨e, he, hop⟩ := List.mem_map.1 hmem
    exact ⟨e, he, requestedVm, hop⟩

theorem exec_round_alike (hM : Remembers M memory) {r : Except Error (List String)}
    {x y : UsbDevice × RuleMatch}
    (h : Exec M (scopedRound d vm failures y).run v tr v' (some r))
    (hseparate : x.2.targetVm = none → y.2.targetVm = some vm →
      x.1.persistentId ≠ y.1.persistentId) : Alike x (memory v) (memory v') := by
  by_cases hresumes : (memory v).Resumes y vm
  · have hround : wp (remembering fun _ => True) (fun _ _ => True) (scopedRound d vm failures y)
        (fun _ m => Alike x (memory v) m) (memory v) := wp_scopedRound_alike hresumes hseparate
    exact (Program.wp_remembered hM hround h fun _ _ => trivial).2 _ rfl
  · rw [(exec_round_called hM h).2 hresumes]
    exact .refl x _

/-- Which attaches the rounds call can be read off the memory they begin with. -/
theorem called_rounds_iff (hM : Remembers M memory) {failures' : List String}
    {x : UsbDevice × RuleMatch}
    (h : Exec M (devices.foldlM (scopedRound d vm) failures).run v tr v' (some (.ok failures')))
    (hseparate : Separate vm devices) :
    Called tr x ↔ x ∈ devices ∧ (memory v).Resumes x vm := by
  induction devices generalizing failures v tr with
  | nil =>
      obtain ⟨-, -, rfl⟩ := exec_pure h
      simp
  | cons y rest ih =>
      rw [List.foldlM_cons] at h
      obtain ⟨l, u, tr₁, tr₂, hround, hrest, rfl⟩ := exec_bind_ok h
      have hlater : Separate vm rest := fun a ha b hb =>
        hseparate a (List.mem_cons_of_mem y ha) b (List.mem_cons_of_mem y hb)
      have hfirst : Called tr₁ x ↔ x = y ∧ (memory v).Resumes x vm := by
        constructor
        · intro hcalled
          obtain rfl : x = y := called_of_round hround hcalled
          exact ⟨rfl, (exec_round_called hM hround).1.1 hcalled⟩
        · rintro ⟨rfl, hresumes⟩
          exact (exec_round_called hM hround).1.2 hresumes
      have hsecond : Called tr₂ x ↔ x ∈ rest ∧ (memory v).Resumes x vm := by
        rw [ih hrest hlater]
        refine and_congr_right fun hx => ?_
        exact (exec_round_alike hM hround (hseparate x (List.mem_cons_of_mem y hx) y
          List.mem_cons_self)).resumes_iff
      rw [called_append, hfirst, hsecond, List.mem_cons, or_and_right]

/-- The whole call: its scan failed, or it went through rounds over what the scan showed. -/
theorem exec_resumeUsb (hM : Remembers M memory) {scope : Option String} {r : Except Error Unit}
    (h : Exec M (resumeUsb d scope).run v tr v' (some r)) :
    (∀ e ∈ tr, ∀ entry, e.2 ≠ .enter entry) ∨
      ∃ scanned u u' failures opening rounds closing,
        ResumesScan M d tr (d.usbRouted scanned) ∧ memory u = memory v ∧
        tr = opening ++ rounds ++ closing ∧
        opening.map Prod.snd =
          [.lock .operation, .scanUsb, .enter (.resumeUsb (d.usbRouted scanned))] ∧
        Exec M ((d.usbRouted scanned).foldlM (fun failures x =>
          resumeUsbDevice d scope failures x.1 x.2) []).run u rounds u' (some (.ok failures)) ∧
        closing.map Prod.snd = [.unlock .operation] := by
  obtain ⟨v₁, v₂, e, body, e', hlock, hbody, -, he, he', rfl⟩ := exec_withLock h
  have hstart : memory v₁ = memory v := by
    obtain ⟨u, _, henv, hstep, -, -⟩ := exec_request_ok hlock
    exact ((hM.step _ _ _ _ hstep).2).trans (hM.env _ _ henv)
  obtain ⟨hnone, -⟩ | ⟨tr₁, tr₂, v₃, r₁, hdevices, hrest, rfl⟩ := Exec.bind_inv hbody
  · cases hnone
  obtain ⟨hnone, -⟩ | ⟨tr₃, tr₄, v₄, r₂, hscan, hrouted, rfl⟩ := Exec.bind_inv hdevices
  · cases hnone
  obtain ⟨s, reply, henv, hstep, rfl, hreply⟩ := exec_request_inv hscan
  cases reply with
  | error failed =>
      left
      subst hreply
      cases hrouted with
      | done =>
          cases hrest with
          | done =>
              intro e₁ he₁ entry hentry
              simp only [List.append_nil, List.cons_append, List.nil_append, List.mem_cons,
                List.not_mem_nil, or_false] at he₁
              rcases he₁ with rfl | rfl | rfl
              · rw [he] at hentry
                cases hentry
              · cases hentry
              · rw [he'] at hentry
                cases hentry
  | ok scanned =>
      right
      subst hreply
      cases hrouted with
      | done =>
          obtain ⟨hnone, -⟩ | ⟨tr₅, tr₆, v₅, r₃, henter, hloop, rfl⟩ := Exec.bind_inv hrest
          · cases hnone
          obtain ⟨s₁, reply₁, henv₁, hstep₁, rfl, rfl⟩ := exec_request_inv henter
          obtain ⟨hnone, -⟩ | ⟨rounds, tr₈, v₆, r₄, hrounds, hreport, rfl⟩ := Exec.bind_inv hloop
          · cases hnone
          have hok : ∃ failures, r₄ = .ok failures := by
            have hsucceeds := succeeds_resumeRounds (M := M) (d := d) scope
              (d.usbRouted scanned) [] v₅ trivial
            exact ((Program.wp_sound hsucceeds hrounds).2 _ rfl).1
          obtain ⟨failures, rfl⟩ := hok
          have hlast : tr₈ = [] := by
            change Exec M (aggregate failures).run v₆ tr₈ v₂ (some r) at hreport
            unfold aggregate at hreport
            split at hreport <;> cases hreport <;> rfl
          subst hlast
          have hmemory : memory v₅ = memory v := by
            have hscanned := (hM.step _ _ _ _ hstep).2.trans (hM.env _ _ henv)
            have hentered := (hM.step _ _ _ _ hstep₁).2.trans (hM.env _ _ henv₁)
            exact hentered.trans (hscanned.trans hstart)
          refine ⟨scanned, v₅, v₆, failures,
            [e, (s, .scanUsb), (s₁, .enter (.resumeUsb (d.usbRouted scanned)))], rounds, [e'],
            ⟨e, s, scanned, _, s₁, rounds ++ [e'], by simp, hstep, rfl⟩, hmemory, by simp,
            by simp [he], hrounds, by simp [he']⟩

theorem calls_scopedRound_quiet (x : UsbDevice × RuleMatch) :
    Calls (fun op => ∀ devices, op ≠ .enter (.resumeUsb devices))
      (scopedRound d vm failures x) := by
  refine calls_resumeUsbDevice nofun nofun nofun fun target =>
    calls_attachOneUsb d x.1 x.2 target nofun ?_
  rintro _ hop devices rfl
  cases hop

end Resume

/-- A resume of one VM calls the attaches that would settle on it by themselves exactly where no
device has it only as the one VM its rule allows: in each round by the memory the round begins
with, and for the whole call by the memory at its start, as long as no device without a target
shares its id with one whose target is the VM. -/
theorem scoped_resume_agrees_iff {V : Type} {M : Machine Op Reply V} {memory : V → Memory}
    {d : Daemon} {vm : String} {v v' : V} {tr : List (V × Op)} {r : Except Error Unit}
    (hM : Remembers M memory) (h : Exec M (resumeUsb d (some vm)).run v tr v' (some r)) :
    ∀ e ∈ tr, ∀ devices, e.2 = .enter (.resumeUsb devices) →
      ResumesScan M d tr devices ∧
      (∀ before x after, devices = before ++ x :: after → ∃ u calls u',
        ScopedRound M d vm tr before x after u calls u' ∧
          ((Called calls x ↔ (memory u).Offers x vm) ↔ ¬(memory u).FallsBack x vm)) ∧
      (Separate vm devices →
        ((∀ x, Called tr x ↔ x ∈ devices ∧ (memory v).Offers x vm) ↔
          ∀ x ∈ devices, ¬(memory v).FallsBack x vm)) := by
  intro e he devices hentered
  obtain hnone | ⟨scanned, u, u', failures, opening, rounds, closing, hscan, hu, rfl, hopening,
    hrounds, hclosing⟩ := exec_resumeUsb hM h
  · exact absurd hentered (hnone e he _)
  change Exec M ((d.usbRouted scanned).foldlM (scopedRound d vm) []).run u rounds u' _ at hrounds
  have hdevices : devices = d.usbRouted scanned := by
    rcases List.mem_append.1 he with hearly | hlate
    · rcases List.mem_append.1 hearly with hfirst | hround
      · have hop := List.mem_map_of_mem (f := Prod.snd) hfirst
        rw [hopening, hentered] at hop
        simpa using hop
      · have hquiet : Calls (fun op => ∀ devices, op ≠ .enter (.resumeUsb devices))
            ((d.usbRouted scanned).foldlM (scopedRound d vm) []) :=
          calls_foldlM (fun _ x => calls_scopedRound_quiet x) []
        exact absurd hentered (Exec.calls hrounds hquiet e hround devices)
    · have hop := List.mem_map_of_mem (f := Prod.snd) hlate
      rw [hclosing, hentered] at hop
      simp at hop
  subst hdevices
  refine ⟨hscan, fun before x after hsplit => ?_, fun hseparate => ?_⟩
  · rw [hsplit] at hrounds hopening
    obtain ⟨failures₁, failures₂, u₁, u₂, first, calls, last, hfirst, hround, hlast, rfl⟩ :=
      exec_foldlM_split hrounds
    refine ⟨u₁, calls, u₂, ⟨opening, first, last, closing, u, u', failures₁, failures₂, failures,
      by simp, hopening, hfirst, hround, hlast⟩, ?_⟩
    rw [(exec_round_called hM hround).1]
    exact Memory.resumes_iff_offers_iff
  · have hcalled : ∀ x, Called (opening ++ rounds ++ closing) x ↔
        x ∈ d.usbRouted scanned ∧ (memory v).Resumes x vm := by
      intro x
      rw [← hu, ← called_rounds_iff hM hrounds hseparate, called_iff_mem, called_iff_mem]
      simp [hopening, hclosing]
    constructor
    · intro hset x hx
      rw [← Memory.resumes_iff_offers_iff]
      have hsame := (hcalled x).symm.trans (hset x)
      simpa [hx] using hsame
    · intro hfalls x
      rw [hcalled x]
      exact and_congr_right fun hx => Memory.resumes_iff_offers_iff.2 (hfalls x hx)

def keyboardFor (fields : List (String × Value)) : World where
  daemon := plainDaemon [keyboardRule fields]
  bus := { entries := [keyboard "1-1" "4"] }
  sockets := Function.update (fun _ => none) guiVm.socket (some "gui-first")

def World.resumedFor (w : World) (vm : String) :
    List (World × Op) × World × Except Error Unit :=
  (resumeUsb w.daemon (some vm)).run.follow react (fun _ _ => {}) w

theorem exec_resumedFor (w : World) (vm : String) :
    Exec (machine anyChoice) (resumeUsb w.daemon (some vm)).run w (w.resumedFor vm).1
      (w.resumedFor vm).2.1 (some (w.resumedFor vm).2.2) :=
  exec_follow _ _ w

def Op.resumes : Op → Option (List (UsbDevice × RuleMatch))
  | .enter (.resumeUsb devices) => some devices
  | _ => none

theorem Op.eq_of_resumes {op : Op} {devices : List (UsbDevice × RuleMatch)}
    (h : op.resumes = some devices) : op = .enter (.resumeUsb devices) := by
  cases op with
  | enter entry =>
      cases entry with
      | resumeUsb _ =>
          obtain rfl := Option.some.inj h
          rfl
      | _ => cases h
  | _ => cases h

def Op.entersAttach : Op → Bool
  | .enter (.attachOneUsb _ _ _) => true
  | _ => false

theorem not_called_of_all {V : Type} {tr : List (V × Op)} {x : UsbDevice × RuleMatch}
    (h : (tr.map Prod.snd).all fun op => !op.entersAttach) : ¬Called tr x := by
  rw [called_iff_mem]
  rintro ⟨requestedVm, hmem⟩
  have hop := List.all_eq_true.1 h _ hmem
  cases hop

/-- With a target in the rule, the attach is called. -/
theorem scoped_resume_agrees_target : ∃ tr w' r,
    Exec (machine anyChoice)
      (resumeUsb (keyboardFor [("targetVm", .string "gui-vm")]).daemon (some "gui-vm")).run
      (keyboardFor [("targetVm", .string "gui-vm")]) tr w' (some r) ∧
    (tr.map Prod.snd).any Op.entersAttach ∧
    ∀ e ∈ tr, ∀ devices, e.2 = .enter (.resumeUsb devices) →
      ResumesScan (machine anyChoice) (keyboardFor [("targetVm", .string "gui-vm")]).daemon tr
        devices ∧
      (∀ before x after, devices = before ++ x :: after → ∃ u calls u',
        ScopedRound (machine anyChoice) (keyboardFor [("targetVm", .string "gui-vm")]).daemon
          "gui-vm" tr before x after u calls u' ∧
          ((Called calls x ↔ u.memory.Offers x "gui-vm") ↔ ¬u.memory.FallsBack x "gui-vm")) ∧
      (Separate "gui-vm" devices →
        ((∀ x, Called tr x ↔ x ∈ devices ∧
            (keyboardFor [("targetVm", .string "gui-vm")]).memory.Offers x "gui-vm") ↔
          ∀ x ∈ devices,
            ¬(keyboardFor [("targetVm", .string "gui-vm")]).memory.FallsBack x "gui-vm")) := by
  have hexec := exec_resumedFor (keyboardFor [("targetVm", .string "gui-vm")]) "gui-vm"
  exact ⟨_, _, _, hexec, by decide +kernel,
    scoped_resume_agrees_iff (remembers_machine anyChoice) hexec⟩

/-- A device with one allowed VM and no target is not resumed for that VM. -/
theorem scoped_resume_skips_only_vm : ¬∀ (w w' : World) (tr : List (World × Op))
    (r : Except Error Unit) (vm : String),
    Exec (machine anyChoice) (resumeUsb w.daemon (some vm)).run w tr w' (some r) →
      ∀ e ∈ tr, ∀ devices, e.2 = .enter (.resumeUsb devices) →
        ∀ x, Called tr x ↔ x ∈ devices ∧ w.memory.Offers x vm := by
  intro hclaim
  let w : World := keyboardFor [("allowedVms", .array [.string "gui-vm"])]
  have hsame := hclaim w _ _ _ "gui-vm" (exec_resumedFor w "gui-vm")
  have hquiet : ((w.resumedFor "gui-vm").1.map Prod.snd).all fun op => !op.entersAttach := by
    decide +kernel
  have hentered : ∃ e ∈ (w.resumedFor "gui-vm").1,
      e.2.resumes = some (w.daemon.usbRouted w.usbDevices) := by decide +kernel
  have hoffered : ∃ x ∈ w.daemon.usbRouted w.usbDevices,
      w.memory.persistent.disconnected x.1.persistentId = false ∧
        chooseVm none x.2 w.memory.persistent.selectedVms x.1.persistentId = some "gui-vm" := by
    decide +kernel
  obtain ⟨e, he, hop⟩ := hentered
  obtain ⟨x, hx, hoffers⟩ := hoffered
  exact not_called_of_all hquiet ((hsame e he _ (Op.eq_of_resumes hop) x).2 ⟨hx, hoffers⟩)

end GhafDeviceManager
