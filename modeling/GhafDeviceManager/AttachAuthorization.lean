import GhafDeviceManager.AttachRace
import GhafDeviceManager.Transcripts

/-!
# Authorization across one attach

An attach ends before Crosvm has the device, or goes on with the port it claimed. Up to the claim
a guard takes the authorization back on every way out; from the claim on nothing does.
-/

namespace GhafDeviceManager

open Fallible

/-- A claimed port, with what the rest of the attach needs. -/
structure Claimed where
  vm : Vm
  node : String
  current : Option String
  claim : PortClaim

def claimAuthorized (d : Daemon) (device : UsbDevice) (vm : Vm) (node : String)
    (seen : Option (String × List LivePort)) : Act (Option PortClaim) := do
  let armed ← usbAuthorizationGuard d device
  match ← Fallible.attempt (claimUsb device vm node seen) with
  | .error e =>
    rollback device armed
    throw e
  | .ok none =>
    rollback device armed
    return none
  | .ok (some claim) => return some claim

def claimFor (d : Daemon) (device : UsbDevice) (rule : RuleMatch) (vmName : String) :
    Act (Option Claimed) := do
  if !(allowedVms rule).contains vmName then
    throw ["VM " ++ vmName ++ " is not allowed for USB device " ++ device.sysName]
  let vm ← d.vmNamed vmName
  if d.config.usbAuthorization.enabled then
    if (← socketGeneration vm.socket).isNone then
      throw ["VM " ++ vmName ++ " socket is absent; deferring USB authorization"]
  let seen ← preflight d device vm
  let node ← require "USB device has no device node" device.deviceNode
  let current := (← readMemory .state).usbVms.lookup node
  handOver d device current vmName
  return (← claimAuthorized d device vm node seen).map fun claim => { vm, node, current, claim }

def attachClaim (d : Daemon) (device : UsbDevice) (rule : RuleMatch)
    (requestedVm : Option String) : Act (Option Claimed) := do
  enter (.attachOneUsb device rule requestedVm)
  let m ← readMemory .state
  match chooseVm requestedVm rule m.persistent.selectedVms device.persistentId with
  | none =>
    if ← insertPending device.persistentId then
      notify (.usbSelectVm device rule.allowedVms)
    return none
  | some vmName => claimFor d device rule vmName

def conclude (d : Daemon) (device : UsbDevice) : Option Claimed → Act Unit
  | none => pure ()
  | some c => finishAttach d device c.vm c.node c.current c.claim

section Parts

variable {d : Daemon} {device : UsbDevice} {rule : RuleMatch}

theorem attachAuthorized_eq {vm : Vm} {node : String} {current : Option String}
    {seen : Option (String × List LivePort)} :
    attachAuthorized d device vm node current seen = claimAuthorized d device vm node seen >>=
      fun claim => conclude d device (claim.map fun claim => { vm, node, current, claim }) := by
  rw [attachAuthorized, claimAuthorized, bind_assoc]
  refine bind_congr fun armed => ?_
  rw [bind_assoc]
  refine bind_congr fun r => ?_
  cases r with
  | error e =>
      simp only [bind_assoc]
      rfl
  | ok claim =>
      cases claim with
      | none =>
          simp only [bind_assoc, pure_bind, Option.map_none, conclude]
          exact (bind_pure _).symm
      | some claim => rfl

theorem attachUsbTo_eq {vmName : String} :
    attachUsbTo d device rule vmName = claimFor d device rule vmName >>= conclude d device := by
  have htail : ∀ (vm : Vm), (do
      let seen ← preflight d device vm
      let node ← require "USB device has no device node" device.deviceNode
      let current := (← readMemory .state).usbVms.lookup node
      handOver d device current vmName
      attachAuthorized d device vm node current seen : Act Unit) = (do
      let seen ← preflight d device vm
      let node ← require "USB device has no device node" device.deviceNode
      let current := (← readMemory .state).usbVms.lookup node
      handOver d device current vmName
      return (← claimAuthorized d device vm node seen).map fun claim =>
        ({ vm, node, current, claim } : Claimed)) >>= conclude d device := by
    intro vm
    simp only [bind_assoc, attachAuthorized_eq, pure_bind]
  unfold attachUsbTo claimFor
  cases hallowed : (allowedVms rule).contains vmName with
  | false => rfl
  | true =>
      simp only [Bool.not_true, Bool.false_eq_true, if_false, bind_assoc]
      refine bind_congr fun vm => ?_
      cases d.config.usbAuthorization.enabled with
      | false => exact htail vm
      | true =>
          simp only [if_true, bind_assoc]
          refine bind_congr fun generation => ?_
          cases generation with
          | none => rfl
          | some generation => exact htail vm

theorem attachOneUsb_eq {requestedVm : Option String} : attachOneUsb d device rule requestedVm =
    attachClaim d device rule requestedVm >>= conclude d device := by
  rw [attachOneUsb, attachClaim, bind_assoc]
  refine bind_congr fun _ => ?_
  rw [bind_assoc]
  refine bind_congr fun m => ?_
  cases chooseVm requestedVm rule m.persistent.selectedVms device.persistentId with
  | none =>
      simp only [bind_assoc]
      refine bind_congr fun isNew => ?_
      cases isNew with
      | false => rfl
      | true => rfl
  | some vmName => exact attachUsbTo_eq

end Parts

/-! ## The way to the guard -/

/-- What an attach calls before its guard. -/
def Op.Leads (device : UsbDevice) : Op → Prop
  | .enter (.attachOneUsb other _ _) => other = device
  | .update (.pendingInsert id) => id = device.persistentId
  | op => op.Detaches device false

section Leading

variable {V : Type} {M : Machine Op Reply V} {G : V → Op → Prop} {J : V → Prop} {d : Daemon}
  {device : UsbDevice} {rule : RuleMatch} {v : V}
  {Q : Except Error (Option Claimed) → V → Prop}

theorem leads_of_observes {op : Op} (hop : op.Observes) : op.Leads device := by
  cases op <;> first | exact hop | exact hop.elim

theorem leads_of_detaches {op : Op} (hop : op.Detaches device false) : op.Leads device := by
  cases op with
  | enter entry =>
      obtain rfl := hop
      rfl
  | update u => cases u <;> first | exact hop | exact hop.elim
  | _ => exact hop

variable (hlead : ∀ {β : Type} {p : Act β}, Calls (Op.Leads device) p → Keeps M G J p)
  (herror : ∀ (e : Error) (v : V), J v → Q (.error e) v)

include hlead herror

/-- A part before the guard ends in an error, or hands on what it keeps. -/
theorem wp_bind_leading {β : Type} {p : Act β} {f : β → Act (Option Claimed)}
    (hp : Calls (Op.Leads device) p) (hf : ∀ b v', J v' → (f b).wp M G Q v') (hv : J v) :
    (p >>= f).wp M G Q v := by
  rw [wp_bind]
  refine wp_imp (hlead hp v hv) fun r v' hv' => ?_
  cases r with
  | error e => exact herror e v' hv'
  | ok b => exact hf b v' hv'

theorem wp_claimFor_of {vmName : String}
    (hclaim : ∀ vm node current seen v, J v → wp M G (do
      return (← claimAuthorized d device vm node seen).map fun claim =>
        ({ vm, node, current, claim } : Claimed)) Q v) (hv : J v) :
    (claimFor d device rule vmName).wp M G Q v := by
  have hasks : ∀ {β : Type} {op : Op} {result : Reply op → Except Error β}, op.Observes →
      Calls (Op.Leads device) (Fallible.request op result) :=
    fun hop => calls_request (leads_of_observes hop)
  have hrest : ∀ vm v, J v → wp M G (do
      let seen ← preflight d device vm
      let node ← require "USB device has no device node" device.deviceNode
      let current := (← readMemory .state).usbVms.lookup node
      handOver d device current vmName
      return (← claimAuthorized d device vm node seen).map fun claim =>
        ({ vm, node, current, claim } : Claimed)) Q v := by
    intro vm v hv
    refine wp_bind_leading hlead herror (calls_preflight ?_ ?_) (fun seen v₁ hv₁ => ?_) hv
    · exact leads_of_observes (by trivial)
    · exact leads_of_observes (by trivial)
    refine wp_bind_leading hlead herror (calls_require _ _) (fun node v₂ hv₂ => ?_) hv₁
    refine wp_bind_leading hlead herror (hasks (by trivial)) (fun m v₃ hv₃ => ?_) hv₂
    refine wp_bind_leading hlead herror ?_ (fun _ => hclaim vm node _ seen) hv₃
    unfold handOver
    split
    · refine calls_ite ?_ trivial
      exact Program.calls_mono (calls_detachOneUsb_detaches d device false)
        fun _ => leads_of_detaches
    · trivial
  unfold claimFor
  cases (allowedVms rule).contains vmName with
  | false => exact herror _ v hv
  | true =>
      refine wp_bind_leading hlead herror (calls_require _ _) (fun vm v₁ hv₁ => ?_) hv
      cases d.config.usbAuthorization.enabled with
      | false => exact hrest vm v₁ hv₁
      | true =>
          refine wp_bind_leading hlead herror (hasks (by trivial)) (fun generation v₂ hv₂ => ?_) hv₁
          cases generation with
          | none => exact herror _ v₂ hv₂
          | some generation => exact hrest vm v₂ hv₂

theorem wp_attachClaim_of {requestedVm : Option String} (hnone : ∀ v, J v → Q (.ok none) v)
    (hclaim : ∀ vm node current seen v, J v → wp M G (do
      return (← claimAuthorized d device vm node seen).map fun claim =>
        ({ vm, node, current, claim } : Claimed)) Q v) (hv : J v) :
    (attachClaim d device rule requestedVm).wp M G Q v := by
  have hobserves : ∀ op : Op, op.Observes → op.Leads device := fun _ => leads_of_observes
  refine wp_bind_leading hlead herror (calls_request rfl) (fun _ v₁ hv₁ => ?_) hv
  refine wp_bind_leading hlead herror (calls_request (hobserves _ trivial)) (fun m v₂ hv₂ => ?_) hv₁
  cases chooseVm requestedVm rule m.persistent.selectedVms device.persistentId with
  | none =>
      refine wp_bind_leading hlead herror (calls_insertPending hobserves rfl) ?_ hv₂
      intro isNew v₃ hv₃
      cases isNew with
      | false => exact hnone v₃ hv₃
      | true =>
          refine wp_bind_leading hlead herror (calls_request ?_) (fun _ => hnone) hv₃
          exact hobserves (.notify _) trivial
  | some vmName => exact wp_claimFor_of hlead herror hclaim hv₂

end Leading

/-! ## What the guard leaves -/

def World.Authorized (w : World) (name : String) : Prop :=
  w.bus.authorization name = some true

/-- Writes to the attribute succeed, and it changes by them only. -/
def authorizesTruly (name : String) (w : World) (op : Op) (c : Choice) : Prop :=
  OwnAttribute name w op c ∧ ∀ value, op = .authorize name value → c.fail = false

def NotGained (name : String) (w w' : World) : Prop := w'.Authorized name → w.Authorized name

/-- What a part that ends in a claim leaves. -/
def ClaimsAuthorized (name : String) (w₀ : World) {β : Type} :
    Except Error (Option β) → World → Prop
  | .ok (some _), w => w.Authorized name
  | _, w => NotGained name w₀ w

section Writes

variable {name : String} {w₀ w : World} {op : Op} {c : Choice}

theorem authorization_react_write {value : Bool}
    (hc : authorizesTruly name w (.authorize name value) c)
    (hpresent : ((w.bus.entry name).bind fun entry => entry.read "authorized").isNone = false) :
    (react w (.authorize name value) c).1 = .ok () ∧
      (react w (.authorize name value) c).2.bus.authorization name = some value := by
  have hread : ((w.bus.entry name).bind fun entry => entry.read "authorized").isSome = true := by
    rwa [← Option.not_isSome, Bool.not_eq_false'] at hpresent
  have hfail := hc.2 value rfl
  have hwritten := authorization_authorized hread value
  simp only [react, hpresent, Bool.false_eq_true, if_false, Choice.result, hfail, World.record,
    Choice.setBus, true_and]
  cases hchosen : c.bus with
  | none => exact hwritten
  | some after => exact (hc.1 after hchosen).trans hwritten

theorem react_authorize_absent {value : Bool}
    (habsent : ((w.bus.entry name).bind fun entry => entry.read "authorized").isNone = true) :
    (∃ e, (react w (.authorize name value) c).1 = .error e) ∧
      (react w (.authorize name value) c).2 = w ∧ ¬w.Authorized name := by
  have hnone := Option.isNone_iff_eq_none.1 habsent
  refine ⟨?_, ?_, fun hauthorized => ?_⟩
  · simp [react, habsent]
  · simp [react, habsent]
  · rw [World.Authorized, UsbBus.authorization, hnone] at hauthorized
    cases hauthorized

theorem not_authorized_react (hc : authorizesTruly name w (.authorize name false) c) :
    ¬(react w (.authorize name false) c).2.Authorized name := by
  cases hpresent : ((w.bus.entry name).bind fun entry => entry.read "authorized").isNone with
  | true =>
      obtain ⟨-, hsame, hnot⟩ := react_authorize_absent (c := c) hpresent
      rw [hsame]
      exact hnot
  | false =>
      intro hauthorized
      rw [World.Authorized, (authorization_react_write hc hpresent).2] at hauthorized
      cases hauthorized

theorem notGained_react (hc : authorizesTruly name w op c) (hop : op ≠ .authorize name true)
    (h : NotGained name w₀ w) : NotGained name w₀ (react w op c).2 := by
  by_cases hwrite : op = .authorize name false
  · subst hwrite
    exact fun hauthorized => absurd hauthorized (not_authorized_react hc)
  · intro hauthorized
    have hsame : (react w op c).2.bus.authorization name = w.bus.authorization name :=
      authorization_react hc.1 fun value => by cases value <;> assumption
    exact h (hsame.symm.trans hauthorized)

theorem authorized_react (hc : authorizesTruly name w op c)
    (hop : ∀ value, op ≠ .authorize name value) (h : w.Authorized name) :
    (react w op c).2.Authorized name :=
  (authorization_react hc.1 hop).trans h

end Writes

section Guard

variable {α : Type} {allowed : World → Op → Choice → Prop} {w₀ w : World} {d : Daemon}
  {device : UsbDevice}

variable (hallowed : ∀ w op c, allowed w op c → authorizesTruly device.sysName w op c)

include hallowed

theorem keeps_notGained {p : Act α}
    (hp : Calls (fun op => op ≠ .authorize device.sysName true) p) :
    Keeps (machine allowed) (fun _ _ => True) (NotGained device.sysName w₀) p :=
  keeps_of_harmless (Program.calls_mono hp fun op hop w hw =>
    ⟨trivial, fun c hc => notGained_react (hallowed w op c hc) hop hw⟩)

theorem keeps_authorized {p : Act α}
    (hp : Calls (fun op => ∀ value, op ≠ .authorize device.sysName value) p) :
    Keeps (machine allowed) (fun _ _ => True) (fun w => w.Authorized device.sysName) p :=
  keeps_of_harmless (Program.calls_mono hp fun op hop w hw =>
    ⟨trivial, fun c hc => authorized_react (hallowed w op c hc) hop hw⟩)

/-- A guard that is not armed has found the device authorized. -/
theorem wp_rollback_notGained {armed : Bool}
    (harmed : armed = false → w₀.Authorized device.sysName) :
    (rollback device armed).wp (machine allowed) (fun _ _ => True)
      (fun _ w' => NotGained device.sysName w₀ w') w := by
  cases armed with
  | false => exact fun _ => harmed rfl
  | true =>
      rw [rollback, if_pos rfl, wp_warnOnError, authorize, wp_operation]
      refine ⟨trivial, fun c hc hauthorized => ?_⟩
      exact absurd hauthorized (not_authorized_react (hallowed _ _ _ hc))

theorem wp_usbAuthorizationGuard_authorized
    (henabled : d.config.usbAuthorization.enabled = true) (hhub : device.isHub = false)
    (hw : NotGained device.sysName w₀ w) :
    (usbAuthorizationGuard d device).wp (machine allowed) (fun _ _ => True)
      (fun r w' => match r with
        | .ok armed => w'.Authorized device.sysName ∧
            (armed = false → w₀.Authorized device.sysName)
        | .error _ => NotGained device.sysName w₀ w') w := by
  have hpolicy : (d.config.usbAuthorization.enabled && !device.isHub) = true := by
    rw [henabled, hhub]
    rfl
  rw [usbAuthorizationGuard, if_pos hpolicy, wp_bind, authorization, wp_operation]
  refine ⟨trivial, fun _ _ => ?_⟩
  rw [react, andThen_ok]
  dsimp only
  split
  case isTrue hunauthorized =>
    rw [wp_bind, wp_attempt, wp_withContext, authorize, wp_operation]
    refine ⟨trivial, fun c hc => ?_⟩
    cases hpresent : ((w.bus.entry device.sysName).bind fun entry =>
        entry.read "authorized").isNone with
    | true =>
        obtain ⟨⟨e, he⟩, hsame, -⟩ := react_authorize_absent (c := c) hpresent
        rw [he, hsame]
        have hrollback : (rollback device true).wp (machine allowed) (fun _ _ => True)
            (fun _ w' => NotGained device.sysName w₀ w') w :=
          wp_rollback_notGained hallowed (by simp)
        exact (wp_bind _ _ _).2 (wp_imp hrollback fun r w' hw' => by cases r <;> exact hw')
    | false =>
        obtain ⟨hok, hauthorized⟩ := authorization_react_write (hallowed _ _ _ hc) hpresent
        rw [hok]
        exact ⟨hauthorized, by simp⟩
  case isFalse hauthorized =>
    have hsome : w.Authorized device.sysName := by simpa [World.Authorized] using hauthorized
    exact ⟨hsome, fun _ => hw hsome⟩

omit hallowed in
theorem calls_claimUsb {S : Op → Prop} (hobserves : ∀ op : Op, op.Observes → S op)
    (hprobe : S (.probe device.sysName)) (hrelease : ∀ interface, S (.release interface))
    (hreported : S (.update (.reportedInsert device.persistentId))) {vm : Vm} {node : String}
    (hattach : S (.usbAttach vm node)) (seen : Option (String × List LivePort)) :
    Calls S (claimUsb device vm node seen) := by
  refine calls_bind (calls_configureUsb (hobserves _ trivial) (hobserves _ trivial) hprobe) ?_
  intro _
  refine calls_bind (calls_withContext _ (calls_request (hobserves _ trivial))) fun names => ?_
  refine calls_bind (calls_releaseHostDrivers (fun _ => hobserves _ trivial) hrelease hreported
    names) fun stopped => ?_
  refine calls_ite (by trivial) (calls_bind ?_ fun claim => trivial)
  exact calls_claimPort (hobserves _ trivial) (hobserves _ trivial) (hobserves _ trivial) hattach

/-- A claim leaves the device authorized, and every other way out takes the authorization back. -/
theorem wp_claimAuthorized_authorized {vm : Vm} {node : String}
    {seen : Option (String × List LivePort)}
    (henabled : d.config.usbAuthorization.enabled = true) (hhub : device.isHub = false)
    (hw : NotGained device.sysName w₀ w) :
    (claimAuthorized d device vm node seen).wp (machine allowed) (fun _ _ => True)
      (ClaimsAuthorized device.sysName w₀) w := by
  rw [claimAuthorized, wp_bind]
  refine wp_imp (wp_usbAuthorizationGuard_authorized hallowed henabled hhub hw) fun r w₁ hw₁ => ?_
  cases r with
  | error e => exact hw₁
  | ok armed =>
      obtain ⟨hauthorized, harmed⟩ := hw₁
      have hclaim : Calls (fun op => ∀ value, op ≠ .authorize device.sysName value)
          (claimUsb device vm node seen) := by
        refine calls_claimUsb (fun op hop value h => ?_) nofun (fun _ => nofun) nofun nofun seen
        rw [h] at hop
        exact hop
      rw [andThen_ok, wp_bind, wp_attempt]
      refine wp_imp (keeps_authorized hallowed hclaim w₁ hauthorized) fun r w₂ hw₂ => ?_
      rw [andThen_ok]
      match r with
      | .error e =>
          rw [wp_bind]
          refine wp_imp (wp_rollback_notGained hallowed harmed) fun r w₃ hw₃ => ?_
          cases r <;> exact hw₃
      | .ok none =>
          rw [wp_bind]
          refine wp_imp (wp_rollback_notGained hallowed harmed) fun r w₃ hw₃ => ?_
          cases r <;> exact hw₃
      | .ok (some claim) => exact hw₂

theorem wp_attachClaim_authorized {rule : RuleMatch} {requestedVm : Option String}
    (henabled : d.config.usbAuthorization.enabled = true) (hhub : device.isHub = false) :
    (attachClaim d device rule requestedVm).wp (machine allowed) (fun _ _ => True)
      (ClaimsAuthorized device.sysName w) w := by
  refine wp_attachClaim_of (J := NotGained device.sysName w)
    (Q := ClaimsAuthorized device.sysName w)
    (fun hp => keeps_notGained hallowed (Program.calls_mono hp ?_)) (fun _ _ h => h)
    (fun _ h => h) (fun vm node current seen w' hw' => ?_) fun h => h
  · rintro op hop rfl
    cases hop.2
  · rw [wp_bind]
    refine wp_imp (wp_claimAuthorized_authorized hallowed henabled hhub hw') fun r w'' hw'' => ?_
    match r with
    | .error e => exact hw''
    | .ok none => exact hw''
    | .ok (some claim) => exact hw''

/-- Nothing of what follows a claim touches the attribute. -/
theorem wp_conclude_authorized {claimed : Option Claimed}
    (hw : claimed.isSome = true → w.Authorized device.sysName) :
    (conclude d device claimed).wp (machine allowed) (fun _ _ => True) (fun _ w' =>
      (claimed.isSome = true → w'.Authorized device.sysName) ∧ (claimed = none → w' = w)) w := by
  cases claimed with
  | none => exact ⟨nofun, fun _ => rfl⟩
  | some c =>
      have hcalls : Calls (fun op => ∀ value, op ≠ .authorize device.sysName value)
          (finishAttach d device c.vm c.node c.current c.claim) := by
        refine Program.calls_mono (calls_finishAttach d device c.vm c.node c.current c.claim) ?_
        rintro op hop value rfl
        exact hop
      refine wp_imp (keeps_authorized hallowed hcalls w (hw rfl)) fun r w' hw' => ?_
      exact ⟨fun _ => hw', nofun⟩

end Guard

/-! ## What the attach was told -/

def Granted (t : Transcript Op Reply) : Prop :=
  ∃ vm node port, (⟨.usbAttach vm node, .ok port⟩ : (op : Op) × Reply op) ∈ t

def HolderRecorded (t : Transcript Op Reply) : Prop :=
  ∃ node vmName, (⟨.update (.usbVmsInsert node vmName), ()⟩ : (op : Op) × Reply op) ∈ t

/-- A holder was recorded although Crosvm was not asked to attach: a live binding was reused. -/
def Reused (t : Transcript Op Reply) : Prop :=
  HolderRecorded t ∧ ∀ e ∈ t, ∀ vm node, e.1 ≠ .usbAttach vm node

/-- The first list of ports the attach asked for, and what it was told. -/
def firstList : Transcript Op Reply → Option (String × Except Error (List LivePort))
  | [] => none
  | ⟨.usbList socket, r⟩ :: earlier => firstList earlier <|> some (socket, r)
  | _ :: earlier => firstList earlier

def Only (S : Op → Prop) (t : Transcript Op Reply) : Prop := ∀ e ∈ t, S e.1

def Op.AsksNoPort (op : Op) : Prop := ∀ vm node, op ≠ .usbAttach vm node

def Op.RecordsNoHolder (op : Op) : Prop := ∀ node vmName, op ≠ .update (.usbVmsInsert node vmName)

/-- Crosvm was asked for the port that is claimed, unless it was there already. -/
def PortTold : Except Error (Option PortClaim) → Transcript Op Reply → Prop
  | .ok (some claim), t => (claim.attached = true → Granted t) ∧
      (claim.attached = false → Only Op.AsksNoPort t ∧ claim.stalePort = none)
  | _, t => ¬Granted t

section Told

variable {α : Type} {S : Op → Prop} {t : Transcript Op Reply} {d : Daemon} {device : UsbDevice}
  {vm : Vm} {node : String}

theorem Only.cons {op : Op} (h : Only S t) (hop : S op) (r : Reply op) : Only S (⟨op, r⟩ :: t) :=
  List.forall_mem_cons.2 ⟨hop, h⟩

theorem keeps_only {p : Act α} (hp : Calls S p) :
    Keeps Machine.transcript (fun _ _ => True) (Only S) p := fun _ ht =>
  wp_of_calls_transcript hp (fun _ _ r hop h => h.cons hop r) (fun _ _ _ _ => trivial) ht

theorem Only.not_granted (h : Only Op.AsksNoPort t) : ¬Granted t := by
  rintro ⟨vm, node, port, hmem⟩
  exact h _ hmem vm node rfl

theorem asksNoPort_of_observes (op : Op) (hop : op.Observes) : op.AsksNoPort := by
  rintro vm node rfl
  exact hop

theorem asksNoPort_of_approaches {op : Op} (hop : op.Approaches device) : op.AsksNoPort := by
  rintro vm node rfl
  exact hop

theorem asksNoPort_of_leads {op : Op} (hop : op.Leads device) : op.AsksNoPort := by
  rintro vm node rfl
  exact hop

theorem wp_claimPort_told {seen : Option (String × List LivePort)} (ht : Only Op.AsksNoPort t) :
    (claimPort device vm node seen).wp Machine.transcript (fun _ _ => True)
      (fun r t' => PortTold (r.map some) t') t := by
  have hseen : ∀ (m : Memory) (view : String × List LivePort) t', Only Op.AsksNoPort t' →
      wp Machine.transcript (fun _ _ => True)
        (claimFrom device vm node (m.persistent.crosvmUsbPorts.lookup device.sysName) view)
        (fun r t' => PortTold (r.map some) t') t' := by
    intro m view t' ht'
    unfold claimFrom
    split
    · exact ⟨by simp, fun _ => ⟨ht', rfl⟩⟩
    · rw [wp_bind, usbAttach, wp_request_transcript]
      refine ⟨trivial, fun r => ?_⟩
      cases r with
      | error e =>
          rintro ⟨vm', node', port, hmem⟩
          obtain hlast | hbefore := List.mem_cons.1 hmem
          · cases hlast
          · exact ht' _ hbefore vm' node' rfl
      | ok port => exact ⟨fun _ => ⟨vm, node, port, List.mem_cons_self⟩, by simp⟩
  rw [claimPort, wp_bind, readMemory, wp_request_transcript]
  refine ⟨trivial, fun m => ?_⟩
  have hread : Only Op.AsksNoPort (⟨.read .state, m⟩ :: t) :=
    ht.cons (asksNoPort_of_observes (.read .state) trivial) m
  cases seen with
  | some view => exact hseen m view _ hread
  | none =>
      rw [andThen_ok, wp_bind, socketGeneration, wp_request_transcript]
      refine ⟨trivial, fun generation => ?_⟩
      have hsocket : Only Op.AsksNoPort (⟨.socketGeneration vm.socket, generation⟩ :: _) :=
        hread.cons (asksNoPort_of_observes (.socketGeneration vm.socket) trivial) generation
      rw [andThen_ok, wp_bind, usbList, wp_request_transcript]
      refine ⟨trivial, fun live => ?_⟩
      have hlist : Only Op.AsksNoPort (⟨.usbList vm.socket, live⟩ :: _) :=
        hsocket.cons (asksNoPort_of_observes (.usbList vm.socket) trivial) live
      cases live with
      | error e => exact hlist.not_granted
      | ok live => exact hseen m (generation.getD "", live) _ hlist

theorem wp_claimUsb_told {seen : Option (String × List LivePort)} (ht : Only Op.AsksNoPort t) :
    (claimUsb device vm node seen).wp Machine.transcript (fun _ _ => True) PortTold t := by
  have happroach : ∀ {β : Type} {p : Act β} {f : β → Act (Option PortClaim)} {t'},
      Calls (Op.Approaches device) p → (∀ b t'', Only Op.AsksNoPort t'' →
        (f b).wp Machine.transcript (fun _ _ => True) PortTold t'') → Only Op.AsksNoPort t' →
      (p >>= f).wp Machine.transcript (fun _ _ => True) PortTold t' := by
    intro β p f t' hp hf ht'
    have hcalls := Program.calls_mono hp fun _ => asksNoPort_of_approaches
    rw [wp_bind]
    refine wp_imp (keeps_only hcalls t' ht') fun r t'' ht'' => ?_
    cases r with
    | error e => exact ht''.not_granted
    | ok b => exact hf b t'' ht''
  refine happroach (calls_configureUsb trivial trivial rfl) (fun _ t₁ ht₁ => ?_) ht
  refine happroach (calls_withContext _ (calls_request (by trivial))) (fun names t₂ ht₂ => ?_) ht₁
  refine happroach (calls_releaseHostDrivers (fun _ => trivial) (fun _ => trivial) trivial names)
    (fun stopped t₃ ht₃ => ?_) ht₂
  cases stopped with
  | true => exact ht₃.not_granted
  | false => exact (wp_map _ _ _).2 (wp_claimPort_told ht₃)

theorem wp_claimAuthorized_told {seen : Option (String × List LivePort)}
    (ht : Only Op.AsksNoPort t) : (claimAuthorized d device vm node seen).wp Machine.transcript
      (fun _ _ => True) PortTold t := by
  have hguard := Program.calls_mono (calls_usbAuthorizationGuard d device)
    fun _ => asksNoPort_of_approaches
  have hrollback : ∀ {armed : Bool} {f : Unit → Act (Option PortClaim)} {t'}, ¬Granted t' →
      (∀ t'', ¬Granted t'' → (f ()).wp Machine.transcript (fun _ _ => True) PortTold t'') →
      (rollback device armed >>= f).wp Machine.transcript (fun _ _ => True) PortTold t' := by
    intro armed f t' ht' hf
    rw [wp_bind]
    have hkeeps : (rollback device armed).wp Machine.transcript (fun _ _ => True)
        (fun _ t'' => ¬Granted t'') t' := by
      refine wp_of_calls_transcript (S := fun op => op = .authorize device.sysName false)
        (calls_rollback rfl) ?_ (fun _ _ _ _ => trivial) ht'
      rintro t'' _ r rfl hnot ⟨vm, node, port, hmem⟩
      obtain hlast | hbefore := List.mem_cons.1 hmem
      · cases hlast
      · exact hnot ⟨vm, node, port, hbefore⟩
    refine wp_imp hkeeps fun r t'' ht'' => ?_
    cases r with
    | error e => exact ht''
    | ok _ => exact hf t'' ht''
  rw [claimAuthorized, wp_bind]
  refine wp_imp (keeps_only hguard t ht) fun r t₁ ht₁ => ?_
  cases r with
  | error e => exact ht₁.not_granted
  | ok armed =>
      rw [andThen_ok, wp_bind, wp_attempt]
      refine wp_imp (wp_claimUsb_told ht₁) fun r t₂ ht₂ => ?_
      rw [andThen_ok]
      match r with
      | .error e => exact hrollback ht₂ fun _ h => h
      | .ok none => exact hrollback ht₂ fun _ h => h
      | .ok (some claim) => exact ht₂

theorem wp_attachClaim_told {rule : RuleMatch} {requestedVm : Option String} :
    (attachClaim d device rule requestedVm).wp Machine.transcript (fun _ _ => True)
      (fun r t' => PortTold (r.map (Option.map Claimed.claim)) t') [] := by
  refine wp_attachClaim_of (J := Only Op.AsksNoPort)
    (fun hp => keeps_only (Program.calls_mono hp fun _ => asksNoPort_of_leads))
    (fun _ _ h => h.not_granted) (fun _ h => h.not_granted) (fun vm node current seen t ht => ?_)
    (List.forall_mem_nil _)
  rw [wp_bind]
  refine wp_imp (wp_claimAuthorized_told ht) fun r t' ht' => ?_
  match r with
  | .error e => exact ht'
  | .ok none => exact ht'
  | .ok (some claim) => exact ht'

theorem wp_attachClaim_unrecorded {rule : RuleMatch} {requestedVm : Option String} :
    (attachClaim d device rule requestedVm).wp Machine.transcript (fun _ _ => True)
      (fun _ t' => Only Op.RecordsNoHolder t') [] := by
  have hleads : ∀ op : Op, op.Leads device → op.RecordsNoHolder := by
    rintro op hop node vmName rfl
    exact hop
  have happroaches : ∀ op : Op, op.Approaches device → op.RecordsNoHolder := by
    rintro op hop node vmName rfl
    exact hop
  refine wp_attachClaim_of (J := Only Op.RecordsNoHolder)
    (fun hp => keeps_only (Program.calls_mono hp hleads)) (fun _ _ h => h) (fun _ h => h)
    (fun vm node current seen t ht => ?_) (List.forall_mem_nil _)
  have hobserves : ∀ op : Op, op.Observes → op.RecordsNoHolder := by
    rintro op hop node vmName rfl
    exact hop
  have hclaim : Calls Op.RecordsNoHolder (claimUsb device vm node seen) :=
    calls_claimUsb hobserves nofun (fun _ => nofun) nofun nofun seen
  have hclaimed : Calls Op.RecordsNoHolder (claimAuthorized d device vm node seen) := by
    refine calls_bind (Program.calls_mono (calls_usbAuthorizationGuard d device) happroaches) ?_
    intro armed
    refine calls_bind (calls_attempt hclaim) fun r => ?_
    match r with
    | .error e => exact calls_bind (calls_rollback nofun) fun _ => trivial
    | .ok none => exact calls_bind (calls_rollback nofun) fun _ => trivial
    | .ok (some claim) => trivial
  have hcalls : Calls Op.RecordsNoHolder (do
      return (← claimAuthorized d device vm node seen).map fun claim =>
        ({ vm, node, current, claim } : Claimed)) := calls_bind hclaimed fun _ => trivial
  exact keeps_only hcalls t ht

theorem keeps_granted (p : Act α) : Keeps Machine.transcript (fun _ _ => True) Granted p := by
  refine keeps_growing ?_ fun t _ => wp_of_footprint (Program.calls_top p.run)
    (fun _ _ _ => trivial) t
  rintro t e ⟨vm, node, port, hmem⟩
  exact ⟨vm, node, port, List.mem_cons_of_mem e hmem⟩

theorem keeps_holderRecorded (p : Act α) :
    Keeps Machine.transcript (fun _ _ => True) HolderRecorded p := by
  refine keeps_growing ?_ fun t _ => wp_of_footprint (Program.calls_top p.run)
    (fun _ _ _ => trivial) t
  rintro t e ⟨node, vmName, hmem⟩
  exact ⟨node, vmName, List.mem_cons_of_mem e hmem⟩

theorem wp_recordAttachment_recorded {vmName : String} {claim : PortClaim} :
    (recordAttachment d device vmName node claim).wp Machine.transcript (fun _ _ => True)
      (fun _ => HolderRecorded) t := by
  rw [recordAttachment, withLock, wp_bind, wp_request_transcript]
  refine ⟨trivial, fun _ => ?_⟩
  rw [andThen_ok, wp_bind, wp_attempt, wp_bind, update, wp_request_transcript]
  refine ⟨trivial, fun _ => ?_⟩
  rw [andThen_ok]
  refine wp_imp (keeps_holderRecorded _ _ ⟨node, vmName, List.mem_cons_self⟩) fun r t' ht' => ?_
  rw [andThen_ok]
  exact keeps_holderRecorded _ t' ht'

/-- The rest of an attach has a port that was granted, or records the holder of one it reused. -/
theorem wp_conclude_told {c : Claimed} (ht : PortTold (.ok (some c.claim)) t) :
    (conclude d device (some c)).wp Machine.transcript (fun _ _ => True)
      (fun _ t' => Granted t' ∨ Reused t') t := by
  obtain ⟨hgranted, hreused⟩ := ht
  cases hattached : c.claim.attached with
  | true => exact wp_imp (keeps_granted _ t (hgranted hattached)) fun _ _ => .inl
  | false =>
      obtain ⟨honly, hstale⟩ := hreused hattached
      have hfinishes : ∀ op : Op, op.Finishes device c.vm c.node c.claim → op.AsksNoPort := by
        rintro op hop vm node rfl
        exact hop
      have hcalls := Program.calls_mono (calls_finishAttach d device c.vm c.node c.current c.claim)
        hfinishes
      have hrecords : (finishAttach d device c.vm c.node c.current c.claim).wp Machine.transcript
          (fun _ _ => True) (fun _ => HolderRecorded) t := by
        rw [finishAttach, hstale]
        dsimp only
        rw [wp_bind]
        refine wp_imp wp_recordAttachment_recorded fun r t' ht' => ?_
        cases r with
        | error e => exact ht'
        | ok _ => exact keeps_holderRecorded _ t' ht'
      refine wp_mono (wp_and (keeps_only hcalls t honly) hrecords) (fun _ _ _ => trivial) ?_
      exact fun r t' h => .inr ⟨h.2, h.1⟩

end Told

/-! ## Nothing is written before the preflight -/

def Op.writesAuthorization : Op → Bool
  | .authorize _ _ => true
  | _ => false

section Preflight

variable {t t' : Transcript Op Reply} {w : World} {d : Daemon} {device : UsbDevice}
  {rule : RuleMatch} {requestedVm : Option String}

theorem firstList_cons {x : String × Except Error (List LivePort)} (e : (op : Op) × Reply op)
    (h : firstList t = some x) : firstList (e :: t) = some x := by
  obtain ⟨op, r⟩ := e
  cases op with
  | usbList socket =>
      rw [firstList, h]
      rfl
  | _ => exact h

theorem firstList_suffix {x : String × Except Error (List LivePort)} (hsuffix : t <:+ t')
    (h : firstList t = some x) : firstList t' = some x := by
  obtain ⟨later, rfl⟩ := hsuffix
  induction later with
  | nil => exact h
  | cons e later ih => exact firstList_cons e ih

def Preflighted (t : Transcript Op Reply) : Prop :=
  ∃ socket live, firstList t = some (socket, .ok live)

theorem wp_attachOneUsb_preflighted (henabled : d.config.usbAuthorization.enabled = true)
    (hhub : device.isHub = false) :
    (attachOneUsb d device rule requestedVm).wp Machine.transcript
      (fun t op => op.writesAuthorization = true → Preflighted t) (fun _ _ => True) [] := by
  have hobserves : ∀ op : Op, op.Observes → op.writesAuthorization = false := by
    intro op hop
    cases op <;> first | rfl | exact hop.elim
  have hplain : ∀ {α : Type} {p : Act α} t, Calls (fun op => op.writesAuthorization = false) p →
      p.wp Machine.transcript (fun t op => op.writesAuthorization = true → Preflighted t)
        (fun _ _ => True) t := by
    refine fun t hp => wp_of_footprint hp (fun op hop t hwrites => ?_) t
    rw [hop] at hwrites
    cases hwrites
  have hpassed : ∀ {α : Type} (p : Act α) t, Preflighted t → p.wp Machine.transcript
      (fun t op => op.writesAuthorization = true → Preflighted t) (fun _ _ => True) t := by
    intro α p t ht
    refine wp_imp (wp_of_calls_transcript (I := Preflighted) (Program.calls_top p.run) ?_
      (fun _ _ _ h _ => h) ht) fun _ _ _ => trivial
    rintro t op r - ⟨socket, live, hfirst⟩
    exact ⟨socket, live, firstList_cons _ hfirst⟩
  rw [attachOneUsb, wp_bind, enter, wp_request_transcript]
  refine ⟨fun hwrites => (by cases hwrites), fun _ => ?_⟩
  rw [andThen_ok, wp_bind, readMemory, wp_request_transcript]
  refine ⟨fun hwrites => (by cases hwrites), fun m => ?_⟩
  rw [andThen_ok]
  split
  · exact hplain _ (calls_pending device rule hobserves rfl)
  · unfold attachUsbTo
    cases (allowedVms rule).contains _ with
    | false => trivial
    | true =>
        rw [Bool.not_true, if_neg Bool.false_ne_true, wp_bind, Daemon.vmNamed, wp_require]
        cases d.vm _ with
        | none => trivial
        | some vm =>
            rw [Option.elim_some, andThen_ok, if_pos henabled, wp_bind, socketGeneration,
              wp_request_transcript]
            refine ⟨fun hwrites => (by cases hwrites), fun generation => ?_⟩
            cases generation with
            | none => trivial
            | some generation =>
                have hpolicy : (d.config.usbAuthorization.enabled && !device.isHub) = true := by
                  rw [henabled, hhub]
                  rfl
                rw [andThen_ok]
                dsimp only
                rw [if_neg (by simp), wp_bind, GhafDeviceManager.preflight, if_pos hpolicy,
                  wp_bind, socketGeneration, wp_request_transcript]
                refine ⟨fun hwrites => (by cases hwrites), fun generation => ?_⟩
                rw [andThen_ok, wp_bind, usbList, wp_request_transcript]
                refine ⟨fun hwrites => (by cases hwrites), fun live => ?_⟩
                cases live with
                | error e => trivial
                | ok live => exact hpassed _ _ ⟨vm.socket, live, rfl⟩

/-- Where the target's socket is absent, the attach ends before its preflight. -/
theorem wp_attachOneUsb_absent {allowed : World → Op → Choice → Prop} {vmName : String} {vm : Vm}
    (henabled : d.config.usbAuthorization.enabled = true)
    (hchosen : w.chosen device rule requestedVm = some vmName) (hvm : d.vm vmName = some vm)
    (habsent : w.sockets vm.socket = none) :
    (attachOneUsb d device rule requestedVm).wp (machine allowed)
      (fun _ op => op.writesAuthorization = false) (fun _ _ => True) w := by
  have hobserves : ∀ op : Op, op.Observes → op.writesAuthorization = false := by
    intro op hop
    cases op <;> first | rfl | exact hop.elim
  refine wp_attachOneUsb rfl hobserves (fun hnone => ?_) fun c _ name hname => ?_
  · rw [hchosen] at hnone
    cases hnone
  · obtain rfl : vmName = name := Option.some.inj (hchosen.symm.trans hname)
    unfold attachUsbTo
    cases (allowedVms rule).contains vmName with
    | false => trivial
    | true =>
        rw [Bool.not_true, if_neg Bool.false_ne_true, wp_bind, Daemon.vmNamed, wp_require, hvm,
          Option.elim_some, andThen_ok, if_pos henabled, wp_bind, socketGeneration, wp_operation]
        refine ⟨rfl, fun _ _ => ?_⟩
        have hreply : (w.called device rule requestedVm).sockets vm.socket = none := habsent
        simp only [react, hreply]
        trivial

end Preflight

/-! ## One attach -/

section Attach

variable {allowed : World → Op → Choice → Prop} {w w' : World} {d : Daemon} {device : UsbDevice}
  {rule : RuleMatch} {requestedVm : Option String} {t : Transcript Op Reply}
  {tr : List ((World × Transcript Op Reply) × Op)} {r : Except Error Unit}

/-- The device is authorized after an attach if Crosvm was given it, or has it still. -/
theorem authorized_of_granted (hallowed : ∀ w op c, allowed w op c →
      authorizesTruly device.sysName w op c)
    (henabled : d.config.usbAuthorization.enabled = true) (hhub : device.isHub = false)
    (h : Exec (machine allowed).recorded (attachOneUsb d device rule requestedVm).run (w, []) tr
      (w', t) (some r)) :
    (Granted t ∨ Reused t → w'.Authorized device.sysName) ∧
      (¬(Granted t ∨ Reused t) → NotGained device.sysName w w') := by
  rw [attachOneUsb_eq] at h
  obtain ⟨hnone, -⟩ | ⟨tr₁, tr₂, s, r₁, hfirst, hrest, rfl⟩ := Exec.bind_inv h
  · cases hnone
  have hclaims := (Program.wp_sound (wp_attachClaim_authorized hallowed henabled hhub)
    hfirst.unrecorded).2 r₁ rfl
  have htold := (Program.wp_recorded wp_attachClaim_told hfirst).2 r₁ rfl
  have hunrecorded := (Program.wp_recorded wp_attachClaim_unrecorded hfirst).2 r₁ rfl
  have hleft : (w', t) = s → ¬Granted s.2 → NotGained device.sysName w s.1 →
      (Granted t ∨ Reused t → w'.Authorized device.sysName) ∧
        (¬(Granted t ∨ Reused t) → NotGained device.sysName w w') := by
    rintro rfl hnot hkept
    refine ⟨fun hgiven => ?_, fun _ => hkept⟩
    obtain hgranted | ⟨⟨node, vmName, hmem⟩, -⟩ := hgiven
    · exact absurd hgranted hnot
    · exact absurd rfl (hunrecorded _ hmem node vmName)
  match r₁ with
  | .error e =>
      cases hrest with
      | done => exact hleft rfl htold hclaims
  | .ok none =>
      cases hrest with
      | done => exact hleft rfl htold hclaims
  | .ok (some c) =>
      have hconclude := wp_conclude_authorized (d := d) hallowed fun _ : (some c).isSome => hclaims
      have hauthorized : w'.Authorized device.sysName :=
        ((Program.wp_sound hconclude hrest.unrecorded).2 r rfl).1 rfl
      have hgiven : Granted t ∨ Reused t :=
        (Program.wp_recorded (wp_conclude_told htold) hrest).2 r rfl
      exact ⟨fun _ => hauthorized, fun hnot => absurd hgiven hnot⟩

/-- Across one attach the device gains its authorization exactly with its VM, and an attach that
ends at the VM's socket or its list writes none. -/
theorem attach_authorization (hallowed : ∀ w op c, allowed w op c →
      authorizesTruly device.sysName w op c)
    (henabled : d.config.usbAuthorization.enabled = true) (hhub : device.isHub = false)
    (h : Exec (machine allowed).recorded (attachOneUsb d device rule requestedVm).run (w, []) tr
      (w', t) (some r)) :
    (¬(Granted t ∨ Reused t) → w'.Authorized device.sysName → w.Authorized device.sysName) ∧
    (Granted t ∨ Reused t → w'.Authorized device.sysName) ∧
    ((∃ vmName vm, w.chosen device rule requestedVm = some vmName ∧ d.vm vmName = some vm ∧
        w.sockets vm.socket = none) ∨ (∃ socket e, firstList t = some (socket, .error e)) →
      ∀ e ∈ tr, e.2.writesAuthorization = false) := by
  obtain ⟨hgiven, hnot⟩ := authorized_of_granted hallowed henabled hhub h
  refine ⟨hnot, hgiven, fun hends e he => ?_⟩
  obtain ⟨vmName, vm, hchosen, hvm, habsent⟩ | ⟨socket, error, hfailed⟩ := hends
  · exact (Program.wp_sound (wp_attachOneUsb_absent henabled hchosen hvm habsent)
      h.unrecorded).1 _ (List.mem_map_of_mem he)
  · by_contra hwrites
    have hpreflighted := (Program.wp_recorded (wp_attachOneUsb_preflighted henabled hhub) h).1 e he
    obtain ⟨socket', live, hlisted⟩ := hpreflighted (Bool.eq_true_of_not_eq_false hwrites)
    have hsuffix : e.1.2 <:+ t := h.transcript.transcript_suffix.2 _ (List.mem_map_of_mem he)
    have hsame := (firstList_suffix hsuffix hlisted).symm.trans hfailed
    cases hsame

end Attach

/-! ## A keyboard that is not authorized yet -/

/-- The kernel enumerated the keyboard under the policy. -/
def keyboardUnauthorized : World :=
  { keyboardDenied with bus := keyboardDenied.bus.authorized "1-1" false }

def unauthorizedKeyboard : UsbDevice :=
  usbDeviceOf Host.plain.hwdb keyboardUnauthorized.bus.entries (keyboard "1-1" "4")

def guiRule : RuleMatch where
  targetVm := some "gui-vm"
  allowedVms := []
  skipOnSuspend := false
  iommuAddAll := false
  iommuSkipIfShared := false
  crosvmUseRootBus := false
  tag := none
  order := 0

theorem onPortOne_authorizes (name : String) (w : World) (op : Op) :
    authorizesTruly name w op (onPortOne w op) := by
  constructor
  · intro bus hbus
    cases op <;> cases hbus
  · rintro value rfl
    rfl

theorem attach_authorization_keyboard : ∃ tr w' t r,
    Exec (machine (authorizesTruly unauthorizedKeyboard.sysName)).recorded
      (attachOneUsb keyboardUnauthorized.daemon unauthorizedKeyboard guiRule none).run
      (keyboardUnauthorized, []) tr (w', t) (some r) ∧
    ¬keyboardUnauthorized.Authorized unauthorizedKeyboard.sysName ∧
    w'.Authorized unauthorizedKeyboard.sysName ∧ (Granted t ∨ Reused t) := by
  let p : Act Unit := attachOneUsb keyboardUnauthorized.daemon unauthorizedKeyboard guiRule none
  let run := p.run.follow react onPortOne keyboardUnauthorized
  have hexec : Exec (machine (authorizesTruly unauthorizedKeyboard.sysName)) p.run
      keyboardUnauthorized run.1 run.2.1 (some run.2.2) :=
    Program.follow_exec p.run keyboardUnauthorized fun e _ => onPortOne_authorizes _ e.1 e.2
  obtain ⟨tr, t, hrecorded, -⟩ := hexec.recorded []
  have hbefore : ¬keyboardUnauthorized.bus.authorization unauthorizedKeyboard.sysName =
      some true := by decide +kernel
  have hafter : run.2.1.bus.authorization unauthorizedKeyboard.sysName = some true := by
    decide +kernel
  obtain ⟨hkept, -, -⟩ := attach_authorization (fun _ _ _ h => h) (by decide) (by decide +kernel)
    hrecorded
  refine ⟨tr, _, t, _, hrecorded, hbefore, hafter, ?_⟩
  by_contra hnot
  exact hbefore (hkept hnot hafter)

end GhafDeviceManager
