import GhafDeviceManager.Disconnects
import GhafDeviceManager.Requests
import GhafDeviceManager.Turns

/-!
# A device that comes back while its disappearance is handled

An observation holds the operation lock no more than the request that attaches the device anew
under its old name. It reads a binding, talks to Crosvm, and then removes what is there by then.
-/

namespace GhafDeviceManager

open Fallible

/-! ## What an observation was told -/

section Told

def scannedIn (t : Transcript Op Reply) : List UsbDevice :=
  (t.findSome? fun
    | ⟨.scanUsb, .ok devices⟩ => some devices
    | _ => none).getD []

def lastRead (lock : Lock) (t : Transcript Op Reply) : Memory :=
  (t.findSome? fun
    | ⟨.read l, m⟩ => if l = lock then some m else none
    | _ => none).getD {}

/-- Seen by the last pass, and not among the routed devices of the scan. -/
def GoneIn (d : Daemon) (t : Transcript Op Reply) (key : String) : Prop :=
  ((lastRead .observedUsb t).observedUsb.lookup key).isSome ∧
    ∀ x ∈ d.usbRouted (scannedIn t), x.1.sysName ≠ key

/-- A port is taken back from a VM only for a device that is gone, by the binding read for it. -/
def TakesBackGone (d : Daemon) (t : Transcript Op Reply) (op : Op) : Prop :=
  ∀ vm port, op = .usbDetach vm port → ∃ key binding, GoneIn d t key ∧
    (lastRead .state t).persistent.crosvmUsbPorts.lookup key = some binding ∧
      binding.vm = vm.name ∧ binding.port = port

/-- What an observation knows once it began to look at USB devices. -/
structure Looked (devices : List UsbDevice) (observed : Map UsbDevice)
    (t : Transcript Op Reply) : Prop where
  scanned : scannedIn t = devices
  observed : (lastRead .observedUsb t).observedUsb = observed

variable {d : Daemon} {t : Transcript Op Reply} {devices : List UsbDevice}
  {observed : Map UsbDevice} {op : Op}

theorem scannedIn_cons (hop : op ≠ .scanUsb) (r : Reply op) :
    scannedIn (⟨op, r⟩ :: t) = scannedIn t := by
  cases op with
  | scanUsb => exact absurd rfl hop
  | _ => rfl

theorem lastRead_cons {lock : Lock} (hop : op ≠ .read lock) (r : Reply op) :
    lastRead lock (⟨op, r⟩ :: t) = lastRead lock t := by
  cases op with
  | read l =>
      have hne : l ≠ lock := fun h => hop (by rw [h])
      simp [lastRead, hne]
  | _ => rfl

theorem lastRead_read (lock : Lock) (m : Memory) :
    lastRead lock ((⟨.read lock, m⟩ : (op : Op) × Reply op) :: t) = m := by
  simp [lastRead]

theorem Looked.cons (h : Looked devices observed t) (hscan : op ≠ .scanUsb)
    (hread : op ≠ .read .observedUsb) (r : Reply op) : Looked devices observed (⟨op, r⟩ :: t) where
  scanned := (scannedIn_cons hscan r).trans h.scanned
  observed := by rw [lastRead_cons hread]; exact h.observed

theorem takesBackGone_of_ne (hop : ∀ vm port, op ≠ .usbDetach vm port) :
    TakesBackGone d t op := fun vm port h => absurd h (hop vm port)

theorem wp_forgetVanished_told {key : String} {device : UsbDevice}
    (ht : Looked devices observed t) (hseen : (observed.lookup key).isSome)
    (habsent : ∀ x ∈ d.usbRouted devices, x.1.sysName ≠ key) :
    wp Machine.transcript (TakesBackGone d) (forgetVanished d key device)
      (fun _ t => Looked devices observed t) t := by
  have hdrop : ∀ t, Looked devices observed t → wp Machine.transcript (TakesBackGone d)
      (dropVanished d key device) (fun _ t => Looked devices observed t) t := by
    refine fun t ht => wp_of_calls_transcript (calls_dropVanished key device) ?_ ?_ ht
    · intro t op r hop ht
      refine ht.cons ?_ ?_ r
      · rintro rfl
        exact hop
      · rintro rfl
        exact hop
    · intro t op hop _
      refine takesBackGone_of_ne ?_
      rintro vm port rfl
      exact hop
  rw [forgetVanished, wp_bind, readMemory, wp_request_transcript]
  refine ⟨takesBackGone_of_ne (by simp), fun m => ?_⟩
  have hread : Looked devices observed (⟨.read .state, m⟩ :: t) := 
    ht.cons (show Op.read .state ≠ .scanUsb from (by simp))
      (show Op.read .state ≠ .read .observedUsb from (by simp)) m
  rw [andThen_ok]
  cases hbinding : m.persistent.crosvmUsbPorts.lookup key with
  | none => exact hdrop _ hread
  | some binding =>
      rw [wp_bind]
      refine wp_imp (wp_of_calls_transcript (calls_releasePort_releases binding)
        (I := fun t => Looked devices observed t ∧ lastRead .state t = m) ?_ ?_
        ⟨hread, lastRead_read .state m⟩) fun r t' ht' => ?_
      · rintro t' op r hop ⟨hlooked, hm⟩
        have hother : ∀ l, op ≠ .read l := by
          rintro l rfl
          exact hop
        refine ⟨hlooked.cons ?_ (hother _) r, (lastRead_cons (hother _) r).trans hm⟩
        rintro rfl
        exact hop
      · rintro t' op hop ⟨hlooked, hm⟩ vm port rfl
        refine ⟨key, binding, ⟨?_, ?_⟩, ?_, hop⟩
        · rwa [hlooked.observed]
        · rwa [hlooked.scanned]
        · rwa [hm]
      · cases r with
        | error e => exact ht'.1
        | ok _ => exact hdrop t' ht'.1

/-- Calls that tell nothing new of a scan or of what was seen, and take no port back. -/
def Op.Aside (op : Op) : Prop :=
  op ≠ .scanUsb ∧ op ≠ .read .observedUsb ∧ ∀ vm port, op ≠ .usbDetach vm port

theorem wp_aside {α : Type} {p : Act α} (hp : Calls Op.Aside p)
    (ht : Looked devices observed t) : wp Machine.transcript (TakesBackGone d) p
      (fun _ t => Looked devices observed t) t :=
  wp_of_calls_transcript hp (fun _ _ r hop ht => ht.cons hop.1 hop.2.1 r)
    (fun _ _ hop _ => takesBackGone_of_ne hop.2.2) ht

theorem wp_observeUsb_told (hscanned : scannedIn t = devices) :
    wp Machine.transcript (TakesBackGone d)
      (observeUsb d (insertAll UsbDevice.sysName ((d.usbRouted devices).map Prod.fst)))
      (fun _ _ => True) t := by
  refine wp_withLock_told (takesBackGone_of_ne (by simp)) (fun _ => takesBackGone_of_ne (by simp)) ?_
  rw [wp_bind, readMemory, wp_request_transcript]
  refine ⟨takesBackGone_of_ne (by simp), fun m => ?_⟩
  have ht : Looked devices m.observedUsb
      (⟨.read .observedUsb, m⟩ :: ⟨.lock .observedUsb, ()⟩ :: t) :=
    ⟨hscanned, by rw [lastRead_read]⟩
  rw [andThen_ok, wp_bind]
  refine wp_imp (wp_aside (calls_inOrder _ ⟨by simp, by simp, (by simp)⟩) ht) fun r t₁ ht₁ => ?_
  cases r with
  | error e => trivial
  | ok present =>
      rw [andThen_ok, wp_bind]
      have hconnected : Calls Op.Aside (present.forM fun x =>
          if (m.observedUsb.lookup x.1).isNone then notify (.usbConnected x.2)
          else pure ()) :=
        calls_forM fun x _ => calls_ite (calls_request ⟨by simp, by simp, (by simp)⟩) trivial
      refine wp_imp (wp_aside hconnected ht₁) fun r t₂ ht₂ => ?_
      cases r with
      | error e => trivial
      | ok _ =>
          rw [andThen_ok, inOrder, bind_assoc, wp_bind, order, wp_request_transcript]
          refine ⟨takesBackGone_of_ne (by simp), fun keys => ?_⟩
          have ht₃ : Looked devices m.observedUsb (⟨.order m.observedUsb.keys, keys⟩ :: t₂) :=
            ht₂.cons (show Op.order _ ≠ .scanUsb from (by simp))
              (show Op.order _ ≠ .read .observedUsb from (by simp)) keys
          rw [andThen_ok, pure_bind, wp_bind]
          refine wp_imp (wp_forM ?_ ht₃) fun r t₄ _ => ?_
          · rintro ⟨key, device⟩ hx t' ht'
            obtain ⟨k, -, hk⟩ := List.mem_filterMap.1 hx
            obtain ⟨value, hvalue, heq⟩ := Option.map_eq_some_iff.1 hk
            obtain ⟨rfl, rfl⟩ := Prod.mk.inj heq
            dsimp only
            split
            case isTrue hgone =>
              refine wp_forgetVanished_told ht' (by rw [hvalue]; rfl) fun x hx => ?_
              exact lookup_insertAll_isNone.1 hgone x.1 (List.mem_map_of_mem hx)
            case isFalse => exact ht'
          · cases r with
            | error e => trivial
            | ok _ =>
                rw [andThen_ok, update, wp_request_transcript]
                exact ⟨takesBackGone_of_ne (by simp), fun _ => trivial⟩

/-- An observation takes back only ports of vanished devices, by the bindings it read for them. -/
theorem wp_observe_told :
    wp Machine.transcript (TakesBackGone d) (observe d) (fun _ _ => True) t := by
  rw [observe, wp_bind, enter, wp_request_transcript]
  refine ⟨takesBackGone_of_ne (by simp), fun _ => ?_⟩
  rw [andThen_ok, usbDevices, bind_assoc, wp_bind, scanUsbRoot, wp_request_transcript]
  refine ⟨takesBackGone_of_ne (by simp), fun scan => ?_⟩
  cases scan with
  | error e => trivial
  | ok devices =>
      rw [id, andThen_ok, pure_bind, wp_bind]
      have hpci : Calls (fun op => op ≠ .scanUsb ∧ ∀ vm port, op ≠ .usbDetach vm port)
          (pciDevices d) := calls_pciDevices ⟨by simp, by simp⟩ fun _ => ⟨by simp, by simp⟩
      refine wp_imp (wp_of_calls_transcript (I := fun t => scannedIn t = devices) hpci
        (fun _ _ r hop ht => (scannedIn_cons hop.1 r).trans ht)
        (fun _ _ hop _ => takesBackGone_of_ne hop.2) rfl) fun r t₁ ht₁ => ?_
      cases r with
      | error e => trivial
      | ok pci =>
          rw [andThen_ok, wp_bind]
          refine wp_imp (wp_observeUsb_told ht₁) fun r t₂ _ => ?_
          cases r with
          | error e => trivial
          | ok _ =>
              have hrest : Calls (fun op => ∀ vm port, op ≠ .usbDetach vm port)
                  (observePci (insertAll PciDevice.address (pci.map Prod.fst))) :=
                Program.calls_mono (calls_observePci_keeps _) fun op hop vm port h =>
                  hop (by rw [h]; trivial)
              exact wp_of_calls_transcript (I := fun _ => True) hrest (fun _ _ _ _ _ => trivial)
                (fun _ _ hop _ => takesBackGone_of_ne hop) trivial

end Told

/-! ## Beside an attach request -/

def storyOfObserve : Party → Transcript Op Reply → (op : Op) → Reply op → Transcript Op Reply
  | .first, t, op, r => ⟨op, r⟩ :: t
  | .second, t, _, _ => t

structure Meanwhile (s s' : Shared (Transcript Op Reply)) : Prop where
  surroundings : Surroundings s.world s'.world
  holder : s'.holder = s.holder
  story : s'.story = s.story

def takingTurns (allowed : World → Op → Choice → Prop) (party : Party) :
    Machine Op Reply (Shared (Transcript Op Reply)) :=
  Machine.among Meanwhile (Shared.react storyOfObserve party) fun s op c =>
    s.free party op ∧ allowed s.world op c

/-- The attach learns what it can have from Crosvm, or asks for it. -/
def Op.Claims : Op → Prop
  | .usbAttach _ _ | .usbList _ => True
  | _ => False

def Op.Commands (d : Daemon) (vmName : String) : Op → Prop
  | .usbList socket => d.ofVm vmName socket = true
  | .usbDetach vm _ => vm.name = vmName
  | _ => False

/-- The request gave the device to the VM at this port. `since` is the run from where it learned
of the port, `later` from where it recorded the binding, which it leaves as it is. -/
structure GivenAt (device : UsbDevice) (vmName : String) (port : UInt8) (generation : String)
    (tr since later : List (Party × Shared (Transcript Op Reply) × Op)) : Prop where
  since : ∃ earlier claim between s, tr = earlier ++ since ∧ since = claim :: (between ++
    (.second, s, .update (.crosvmUsbPortsInsert device vmName port generation)) :: later) ∧
      claim.1 = .second ∧ claim.2.2.Claims ∧ ∀ e ∈ between, e.1 = .second → ¬e.2.2.Claims
  kept : ∀ e ∈ later, e.1 = .second → ¬e.2.2.Rebinds device.sysName

section Race

variable {allowed : World → Op → Choice → Prop} {d : Daemon}
  {s s' : Shared (Transcript Op Reply)}
  {tr since later : List (Party × Shared (Transcript Op Reply) × Op)}

theorem memory_takingTurns {party : Party} {op : Op} {r : Reply op}
    (h : (takingTurns allowed party).step s op r s') :
    s'.world.memory = op.remember s.world.memory := by
  obtain ⟨c, -, hreact⟩ := h
  obtain ⟨-, rfl⟩ := Prod.mk.inj hreact
  exact (react_remembers s.world op c).2

theorem told_takingTurns {p p' q q' : Program Op Reply (Except Error Unit)} (hfresh : s.story = [])
    (hp : p.wp Machine.transcript (fun t op => TakesBackGone d t op ∧ op.Clears)
      (fun _ _ => True) [])
    (hrun : Interleaved (takingTurns allowed) p q s tr s' p' q') :
    ∀ e ∈ tr, e.1 = .first → TakesBackGone d e.2.1.story e.2.2 ∧ e.2.2.Clears := by
  rw [← hfresh] at hp
  refine @Interleaved.told _ _ _ _ _ _ Shared.story _ _ _ _ _ _ _ _ _ hrun
    (fun _ _ _ hmove => hmove.story) ?_ ?_ hp
  · rintro s op r s' ⟨c, -, hreact⟩
    obtain ⟨rfl, rfl⟩ := Prod.mk.inj hreact
    rfl
  · rintro s op r s' ⟨c, -, hreact⟩
    obtain ⟨-, rfl⟩ := Prod.mk.inj hreact
    rfl

theorem wp_observe_clears (t : Transcript Op Reply) :
    wp Machine.transcript (fun t op => TakesBackGone d t op ∧ op.Clears) (observe d)
      (fun _ _ => True) t := by
  have hclears : wp Machine.transcript (fun _ op => op.Clears) (observe d) (fun _ _ => True) t :=
    wp_of_calls_transcript (I := fun _ => True) (calls_observe d) (fun _ _ _ _ _ => trivial)
      (fun _ _ hop _ => hop) trivial
  exact wp_mono (wp_and wp_observe_told hclears) (fun _ _ h => h) fun _ _ _ => trivial

/-- Beside an observation that takes back nothing of the request's, the binding stays as the
request recorded it. -/
theorem binding_kept {device : UsbDevice} {vmName : String} {port : UInt8} {generation : String}
    {selector : Selector} {vm : Option String} {r : Except Error Unit} (hfresh : s.story = [])
    (hrun : Interleaved (takingTurns allowed) (observe d).run (attachUsb d selector vm).run s tr s'
      (.pure r) (.pure (.ok ())))
    (hgiven : GivenAt device vmName port generation tr since later)
    (hremoval : ∀ e ∈ later, e.1 = .first → e.2.2 ≠ .update (.crosvmUsbPortsRemove device.sysName))
    (hports : ∀ e ∈ since, e.1 = .first → e.2.2.Commands d vmName → ∀ key binding,
      GoneIn d e.2.1.story key →
      (lastRead .state e.2.1.story).persistent.crosvmUsbPorts.lookup key = some binding →
        binding.vm = vmName → binding.port ≠ port) :
    s'.world.memory.persistent.crosvmUsbPorts.lookup device.sysName =
        some (portBinding device vmName port generation) ∧
      ∀ e ∈ since, e.1 = .first → ∀ vm, vm.name = vmName → e.2.2 ≠ .usbDetach vm port := by
  obtain ⟨⟨earlier, claim, between, s₁, rfl, rfl, -, -, -⟩, hkept⟩ := hgiven
  have hcalls := told_takingTurns hfresh (wp_observe_clears []) hrun
  constructor
  · rw [← List.cons_append, ← List.append_assoc] at hrun
    refine hrun.since (I := fun s => s.world.memory.persistent.crosvmUsbPorts.lookup
      device.sysName = some (portBinding device vmName port generation)) ?_ ?_ ?_
    · intro party w w' hmove hw
      rw [hmove.surroundings.memory]
      exact hw
    · intro r w' hstep
      rw [memory_takingTurns hstep]
      exact AList.lookup_insert _
    · rintro ⟨party, s₂, op⟩ he hw r w' hstep
      have hother : ¬op.Rebinds device.sysName := by
        cases party with
        | first =>
            have hclears := (hcalls (.first, s₂, op) (by simp [he]) rfl).2
            intro hrebinds
            cases op with
            | update u =>
                cases u with
                | crosvmUsbPortsRemove name =>
                    obtain rfl : name = device.sysName := hrebinds
                    exact hremoval _ he rfl rfl
                | crosvmUsbPortsInsert => exact hclears.elim
                | _ => exact hrebinds.elim
            | _ => exact hrebinds.elim
        | second => exact hkept _ he rfl
      rw [memory_takingTurns hstep, lookup_remember hother]
      exact hw
  · rintro e he hfirst v hv heq
    have htold := (hcalls e (List.mem_append_right _ he) hfirst).1
    obtain ⟨key, binding, hgone, hread, hvm, hport⟩ := htold v port heq
    have hcommand : e.2.2.Commands d vmName := by rw [heq]; exact hv
    exact hports e he hfirst hcommand key binding hgone hread (hvm.trans hv) hport

end Race

/-! ## A keyboard that comes back -/

def keyboardOut : World := { keyboardPlugged.concluded.2.1.replugged [] with ports := fun _ => [] }

def keyboardAgain : UsbDevice :=
  usbDeviceOf Host.plain.hwdb [keyboard "1-1" "5"] (keyboard "1-1" "5")

def keyboardSelector : Selector := { vid := some "046d", pid := some "c31c" }

abbrev TurnsState := List (Party × Shared (Transcript Op Reply) × Op) ×
  Shared (Transcript Op Reply) × Program Op Reply (Except Error Unit) ×
    Program Op Reply (Except Error Unit)

def untilBack (turns : List Party) : TurnsState :=
  interleave (Shared.react storyOfObserve) (fun _ s op => onPortOne s.world op) turns
    (observe keyboardOut.daemon).run (attachUsb keyboardOut.daemon keyboardSelector none).run
    { world := keyboardOut, story := [] }

def keyboardBack (turns : List Party) : Shared (Transcript Op Reply) :=
  { (untilBack turns).2.1 with
    world := (untilBack turns).2.1.world.replugged [keyboard "1-1" "5"] }

def onceBack (turns turns' : List Party) : TurnsState :=
  interleave (Shared.react storyOfObserve) (fun _ s op => onPortOne s.world op) turns'
    (untilBack turns).2.2.1 (untilBack turns).2.2.2 (keyboardBack turns)

theorem onceBack_interleaved (turns turns' : List Party) (r r' : Except Error Unit)
    (hfree : ∀ e ∈ (untilBack turns).1, e.2.1.free e.1 e.2.2)
    (hfree' : ∀ e ∈ (onceBack turns turns').1, e.2.1.free e.1 e.2.2)
    (hgoes : (onceBack turns turns').1 ≠ [])
    (hfirst : (onceBack turns turns').2.2.1.value = some r)
    (hsecond : (onceBack turns turns').2.2.2.value = some r') :
    Interleaved (takingTurns anyChoice) (observe keyboardOut.daemon).run
      (attachUsb keyboardOut.daemon keyboardSelector none).run { world := keyboardOut, story := [] }
      ((untilBack turns).1 ++ (onceBack turns turns').1) (onceBack turns turns').2.1
      (.pure r) (.pure r') := by
  rw [← Program.eq_pure_of_value hfirst, ← Program.eq_pure_of_value hsecond]
  have hstay : ∀ s : Shared (Transcript Op Reply), Meanwhile s s := fun s =>
    ⟨⟨rfl, rfl, rfl, rfl⟩, rfl, rfl⟩
  have hbefore : Interleaved (takingTurns anyChoice) (observe keyboardOut.daemon).run
      (attachUsb keyboardOut.daemon keyboardSelector none).run
      { world := keyboardOut, story := [] } (untilBack turns).1 (untilBack turns).2.1
      (untilBack turns).2.2.1 (untilBack turns).2.2.2 :=
    interleave_interleaved _ _ _ _ (fun e _ => hstay _) fun e he => ⟨hfree e he, trivial⟩
  have hafter : Interleaved (takingTurns anyChoice) (untilBack turns).2.2.1
      (untilBack turns).2.2.2 (keyboardBack turns) (onceBack turns turns').1
      (onceBack turns turns').2.1 (onceBack turns turns').2.2.1 (onceBack turns turns').2.2.2 :=
    interleave_interleaved _ _ _ _ (fun e _ => hstay _) fun e he => ⟨hfree' e he, trivial⟩
  refine hbefore.append (fun party s hs => ?_) hafter hgoes
  obtain ⟨⟨hdaemon, hmemory, hfile, hlog⟩, hholder, hstory⟩ := hs
  exact ⟨⟨hdaemon, hmemory, hfile, hlog⟩, hholder, hstory⟩

def Op.binds : Op → Option (UsbDevice × String × UInt8 × String)
  | .update (.crosvmUsbPortsInsert device vm port generation) =>
    some (device, vm, port, generation)
  | _ => none

theorem Op.eq_of_binds {op : Op} {device : UsbDevice} {vm generation : String} {port : UInt8}
    (h : op.binds = some (device, vm, port, generation)) :
    op = .update (.crosvmUsbPortsInsert device vm port generation) := by
  cases op with
  | update u =>
      cases u with
      | crosvmUsbPortsInsert device' vm' port' generation' =>
          obtain ⟨rfl, rfl, rfl, rfl⟩ : device' = device ∧ vm' = vm ∧ port' = port ∧
            generation' = generation := by simpa [Op.binds] using h
          rfl
      | _ => cases h
  | _ => cases h

instance (op : Op) : Decidable op.Claims := by
  delta Op.Claims
  induction op using Op.casesOn <;> infer_instance

theorem givenAt_of_places {device : UsbDevice} {vm generation : String} {port : UInt8}
    {tr : List (Party × Shared (Transcript Op Reply) × Op)} (i k : ℕ) (hi : i < tr.length)
    (hk : k < (tr.drop (i + 1)).length) (hclaim : tr[i].1 = .second ∧ tr[i].2.2.Claims)
    (hrecord : ((tr.drop (i + 1))[k]).1 = .second ∧
      ((tr.drop (i + 1))[k]).2.2.binds = some (device, vm, port, generation))
    (hbetween : ∀ e ∈ (tr.drop (i + 1)).take k, e.1 = .second → ¬e.2.2.Claims)
    (hlater : ∀ e ∈ (tr.drop (i + 1)).drop (k + 1), e.1 = .second →
      ¬e.2.2.Rebinds device.sysName) :
    GivenAt device vm port generation tr (tr.drop i) ((tr.drop (i + 1)).drop (k + 1)) where
  kept := hlater
  since := by
    have hop := Op.eq_of_binds hrecord.2
    have hcall : (tr.drop (i + 1))[k] = (.second, ((tr.drop (i + 1))[k]).2.1,
        .update (.crosvmUsbPortsInsert device vm port generation)) := by
      rw [← hrecord.1, ← hop]
    refine ⟨tr.take i, tr[i], (tr.drop (i + 1)).take k, ((tr.drop (i + 1))[k]).2.1, ?_, ?_,
      hclaim.1, hclaim.2, hbetween⟩
    · exact (List.take_append_drop i tr).symm
    · rw [← hcall, ← List.drop_eq_getElem_cons hk, List.take_append_drop,
        ← List.drop_eq_getElem_cons hi]

def observedFirst : List Party × List Party := (List.replicate 30 .first, List.replicate 30 .second)

/-- The request runs between the scan of the observation and its look at the binding. -/
def attachedMeanwhile : List Party × List Party :=
  (List.replicate 3 .first, List.replicate 30 .second ++ List.replicate 30 .first)

def turnsTrace (turns : List Party × List Party) :
    List (Party × Shared (Transcript Op Reply) × Op) :=
  (untilBack turns.1).1 ++ (onceBack turns.1 turns.2).1

theorem binding_kept_observedFirst :
    (onceBack observedFirst.1 observedFirst.2).2.1.world.memory.persistent.crosvmUsbPorts.lookup
      "1-1" = some (portBinding keyboardAgain "gui-vm" 1 "gui-first") := by
  have hrun := onceBack_interleaved observedFirst.1 observedFirst.2 (.ok ()) (.ok ())
    (by decide +kernel) (by decide +kernel) (by decide +kernel) (by decide +kernel)
    (by decide +kernel)
  have hgiven : GivenAt keyboardAgain "gui-vm" 1 "gui-first" (turnsTrace observedFirst)
      ((turnsTrace observedFirst).drop 36) (((turnsTrace observedFirst).drop 37).drop 7) :=
    givenAt_of_places 36 6 (by decide +kernel) (by decide +kernel) (by decide +kernel)
      (by decide +kernel) (by decide +kernel) (by decide +kernel)
  have hlast : ∀ e ∈ (turnsTrace observedFirst).drop 36, e.1 ≠ .first := by decide +kernel
  have hlater : ∀ e ∈ ((turnsTrace observedFirst).drop 37).drop 7, e.1 ≠ .first := by
    decide +kernel
  exact (binding_kept rfl hrun hgiven (fun e he hfirst => absurd hfirst (hlater e he))
    fun e he hfirst => absurd hfirst (hlast e he)).1

instance (d : Daemon) (t : Transcript Op Reply) (key : String) : Decidable (GoneIn d t key) := by
  unfold GoneIn
  infer_instance

/-- The request succeeds, and the observation takes its port back and its binding away. -/
theorem binding_lost : ¬∀ allowed (s s' : Shared (Transcript Op Reply)) tr since later selector vm
    device vmName port generation r, s.story = [] →
    Interleaved (takingTurns allowed) (observe s.world.daemon).run
      (attachUsb s.world.daemon selector vm).run s tr s' (.pure r) (.pure (.ok ())) →
    GoneIn s.world.daemon s'.story device.sysName →
    GivenAt device vmName port generation tr since later →
    s'.world.memory.persistent.crosvmUsbPorts.lookup device.sysName =
        some (portBinding device vmName port generation) ∧
      ∀ e ∈ since, e.1 = .first → ∀ vm, vm.name = vmName → e.2.2 ≠ .usbDetach vm port := by
  intro hclaim
  have hrun := onceBack_interleaved attachedMeanwhile.1 attachedMeanwhile.2 (.ok ()) (.ok ())
    (by decide +kernel) (by decide +kernel) (by decide +kernel) (by decide +kernel)
    (by decide +kernel)
  have hgiven : GivenAt keyboardAgain "gui-vm" 1 "gui-first" (turnsTrace attachedMeanwhile)
      ((turnsTrace attachedMeanwhile).drop 13) (((turnsTrace attachedMeanwhile).drop 14).drop 7) :=
    givenAt_of_places 13 6 (by decide +kernel) (by decide +kernel) (by decide +kernel)
      (by decide +kernel) (by decide +kernel) (by decide +kernel)
  have hgone : GoneIn keyboardOut.daemon
      (onceBack attachedMeanwhile.1 attachedMeanwhile.2).2.1.story keyboardAgain.sysName := by
    decide +kernel
  have hkept := (hclaim anyChoice { world := keyboardOut, story := [] }
    (onceBack attachedMeanwhile.1 attachedMeanwhile.2).2.1 (turnsTrace attachedMeanwhile) _ _
    keyboardSelector none keyboardAgain "gui-vm" 1 "gui-first" (.ok ()) rfl hrun hgone hgiven).1
  have hlost : AList.lookup keyboardAgain.sysName (onceBack attachedMeanwhile.1
      attachedMeanwhile.2).2.1.world.memory.persistent.crosvmUsbPorts = none := by decide +kernel
  rw [hlost] at hkept
  cases hkept

end GhafDeviceManager
