import GhafDeviceManager.PciSpec
import GhafDeviceManager.Replies

/-!
# What a pass observes

`observe` compares the routed devices of a scan with those the last pass saw, under their names.
-/

namespace GhafDeviceManager

open Fallible

section InsertAll

variable {α : Type} {key : α → String}

theorem lookup_foldl_insert (devices : List α) (start : Map α) (k : String) :
    (devices.foldl (fun map device => map.insert (key device) device) start).lookup k =
      (devices.reverse.find? fun device => key device = k).or (start.lookup k) := by
  induction devices generalizing start with
  | nil => simp
  | cons device rest ih =>
      rw [List.foldl_cons, ih, List.reverse_cons, List.find?_append, Option.or_assoc]
      congr 1
      by_cases hk : key device = k
      · subst hk
        rw [AList.lookup_insert]
        simp
      · rw [AList.lookup_insert_ne (Ne.symm hk)]
        simp [hk]

theorem lookup_insertAll (devices : List α) (k : String) :
    (insertAll key devices).lookup k = devices.reverse.find? fun device => key device = k := by
  rw [insertAll, lookup_foldl_insert, AList.lookup_empty, Option.or_none]

theorem lookup_insertAll_isNone {devices : List α} {k : String} :
    ((insertAll key devices).lookup k).isNone = true ↔ ∀ device ∈ devices, key device ≠ k := by
  rw [lookup_insertAll, Option.isNone_iff_eq_none, List.find?_eq_none]
  simp

theorem of_lookup_insertAll {devices : List α} {k : String} {device : α}
    (h : (insertAll key devices).lookup k = some device) : device ∈ devices ∧ key device = k := by
  rw [lookup_insertAll] at h
  exact ⟨List.mem_reverse.1 (List.mem_of_find?_eq_some h), by simpa using List.find?_some h⟩

end InsertAll

section Footprints

variable {α β : Type} {S : Op → Prop} {d : Daemon}

/-- Whatever the order, what comes is what the map holds. -/
theorem calls_inOrder_bind {map : Map α} {f : List (String × α) → Act β}
    (horder : S (.order map.keys))
    (hf : ∀ entries : List (String × α), (∀ x ∈ entries, map.lookup x.1 = some x.2) →
      Calls S (f entries)) : Calls S (inOrder map >>= f) := by
  unfold inOrder
  rw [bind_assoc]
  refine calls_bind (calls_request horder) fun keys => ?_
  rw [pure_bind]
  refine hf _ fun x hx => ?_
  obtain ⟨k, -, hk⟩ := List.mem_filterMap.1 hx
  obtain ⟨value, hvalue, rfl⟩ := Option.map_eq_some_iff.1 hk
  exact hvalue

def Op.ForgetsPci (gone : String → Prop) : Op → Prop
  | .update (.pciVmsRemove address) => gone address
  | .update (.observedPci _) => True
  | op => op.Observes

theorem calls_observePci_rest {pci observed : Map PciDevice} :
    Calls (Op.ForgetsPci fun key => (observed.lookup key).isSome ∧ (pci.lookup key).isNone) (do
      let present ← inOrder pci
      present.forM fun (key, device) =>
        if (observed.lookup key).isNone then notify (.pciConnected device) else pure ()
      let seen ← inOrder observed
      seen.forM fun (key, device) => do
        if (pci.lookup key).isNone then
          notify (.pciDisconnected device.address)
          update (.pciVmsRemove key)
      update (.observedPci pci) : Act Unit) := by
  refine calls_inOrder_bind (by trivial) fun present _ => ?_
  refine calls_bind (calls_forM fun x _ => ?_) fun _ => ?_
  · exact calls_ite (calls_request (by trivial)) (by trivial)
  refine calls_inOrder_bind (by trivial) fun seen hseen => ?_
  refine calls_bind (calls_forM fun x hx => ?_) fun _ => calls_request (by trivial)
  dsimp only
  split
  case isTrue hgone =>
    refine calls_bind (calls_request (by trivial)) fun _ => calls_request ⟨?_, hgone⟩
    rw [hseen x hx]
    rfl
  case isFalse => trivial

end Footprints

section Admitted

variable {α β : Type} {admits : (op : Op) → Reply op → Prop}

theorem sure_withLock {lock : Lock} {p : Act α} (hp : Sure admits p) :
    Sure admits (withLock lock p) := by
  intro v _
  rw [withLock, wp_bind, wp_request_ofReplies]
  refine ⟨trivial, fun _ _ => ?_⟩
  rw [andThen_ok, wp_bind, wp_attempt]
  refine wp_imp (hp _ trivial) ?_
  rintro _ _ ⟨⟨a, rfl⟩, -⟩
  rw [andThen_ok, wp_bind, wp_request_ofReplies]
  exact ⟨trivial, fun _ _ => ⟨⟨a, rfl⟩, trivial⟩⟩

theorem sure_inOrder (map : Map β) : Sure admits (inOrder map) :=
  succeeds_bind sure_ask fun _ => succeeds_pure _

theorem sure_observePci (pci : Map PciDevice) : Sure admits (observePci pci) := by
  refine sure_withLock (succeeds_bind sure_ask fun m => ?_)
  refine succeeds_bind (sure_inOrder pci) fun present => ?_
  refine succeeds_bind (succeeds_forM fun x _ => ?_) fun _ => ?_
  · dsimp only
    split
    case isTrue => exact sure_ask
    case isFalse => exact succeeds_pure _
  refine succeeds_bind (sure_inOrder _) fun seen => ?_
  refine succeeds_bind (succeeds_forM fun x _ => ?_) fun _ => sure_ask
  dsimp only
  split
  case isTrue => exact succeeds_bind sure_ask fun _ => sure_ask
  case isFalse => exact succeeds_pure _

end Admitted

section Rules

variable {allowed : World → Op → Choice → Prop} {G : World → Op → Prop} {I : World → Prop}
  {d : Daemon}

def World.vanishedPci (w : World) (d : Daemon) (address : String) : Prop :=
  (w.memory.observedPci.lookup address).isSome ∧ ∀ x ∈ w.pciRouted d, x.1.address ≠ address

/-- Whatever the order, all that the map holds comes. -/
theorem wp_inOrder {α : Type} {map : Map α} {w : World} (horder : G w (.order map.keys)) :
    (inOrder map).wp (machine allowed) G (fun r w' => w' = w ∧ ∃ entries, r = .ok entries ∧
      ∀ k value, map.lookup k = some value → (k, value) ∈ entries) w := by
  rw [inOrder, wp_bind, order, wp_operation]
  refine ⟨horder, fun c _ => ⟨rfl, _, rfl, fun k value hlookup => ?_⟩⟩
  have hkey : k ∈ map.keys := AList.lookup_isSome.1 (Option.isSome_of_eq_some hlookup)
  refine List.mem_filterMap.2 ⟨k, ?_, by rw [hlookup]; rfl⟩
  simp only [react]
  split
  case isTrue hperm => exact (List.isPerm_iff.1 hperm).mem_iff.2 hkey
  case isFalse => exact hkey

/-- An observation of PCI devices keeps what its single operations keep. -/
theorem wp_observePci {pci : Map PciDevice} {w : World} (hw : I w)
    (hforgets : ∀ op : Op, op.ForgetsPci (fun key => (w.memory.observedPci.lookup key).isSome ∧
      (pci.lookup key).isNone) → Harmless allowed G I op) :
    (observePci pci).wp (machine allowed) G (fun _ => I) w := by
  have hquiet : ∀ op : Op, op.Observes → Harmless allowed G I op := fun op hop =>
    hforgets op (by cases op <;> first | exact hop | exact hop.elim)
  rw [observePci, wp_withLock]
  refine ⟨(hquiet (.lock .observedPci) trivial w hw).1, fun c _ => ?_⟩
  rw [wp_bind, readMemory, wp_operation]
  refine ⟨(hquiet (.read .observedPci) trivial w hw).1, fun c _ => ?_⟩
  rw [react, andThen_ok]
  refine wp_imp (keeps_of_harmless (Program.calls_mono calls_observePci_rest hforgets) w hw) ?_
  intro r w' hw'
  have hunlock := hquiet (.unlock .observedPci) trivial w' hw'
  exact ⟨hunlock.1, fun c hc => hunlock.2 c hc⟩

theorem keeps_inOrder_bind {α β : Type} {map : Map α} {f : List (String × α) → Act β}
    (horder : Harmless allowed G I (.order map.keys))
    (hf : ∀ entries : List (String × α), (∀ x ∈ entries, map.lookup x.1 = some x.2) →
      Keeps (machine allowed) G I (f entries)) :
    Keeps (machine allowed) G I (inOrder map >>= f) := by
  unfold inOrder
  rw [bind_assoc]
  refine keeps_bind (keeps_request horder _) fun keys => ?_
  rw [pure_bind]
  refine hf _ fun x hx => ?_
  obtain ⟨k, -, hk⟩ := List.mem_filterMap.1 hx
  obtain ⟨value, hvalue, rfl⟩ := Option.map_eq_some_iff.1 hk
  exact hvalue

/-- An observation of USB devices keeps what forgetting each vanished one keeps, and what its other
operations keep. -/
theorem wp_observeUsb_of {usb : Map UsbDevice} {w : World} (hw : I w)
    (hquiet : ∀ op : Op, op.Observes → Harmless allowed G I op)
    (hseen : Harmless allowed G I (.update (.observedUsb usb)))
    (hforget : ∀ key device, w.memory.observedUsb.lookup key = some device →
      (usb.lookup key).isNone = true → Keeps (machine allowed) G I (forgetVanished d key device)) :
    (observeUsb d usb).wp (machine allowed) G (fun _ => I) w := by
  rw [observeUsb, wp_withLock]
  refine ⟨(hquiet (.lock .observedUsb) trivial w hw).1, fun _ _ => ?_⟩
  have hbody : (do
      let observed := (← readMemory .observedUsb).observedUsb
      let present ← inOrder usb
      present.forM fun x =>
        if (observed.lookup x.1).isNone then notify (.usbConnected x.2) else pure ()
      let seen ← inOrder observed
      seen.forM fun x =>
        if (usb.lookup x.1).isNone then forgetVanished d x.1 x.2 else pure ()
      update (.observedUsb usb) : Act Unit).wp (machine allowed) G (fun _ => I) w := by
    rw [wp_bind, readMemory, wp_operation]
    refine ⟨(hquiet (.read .observedUsb) trivial w hw).1, fun _ _ => ?_⟩
    rw [react, andThen_ok]
    refine keeps_inOrder_bind (hquiet _ (by trivial)) (fun present _ => ?_) w hw
    refine keeps_bind (keeps_forM fun x => ?_) fun _ => ?_
    · exact keeps_ite (keeps_request (hquiet _ (by trivial)) _) (keeps_pure _)
    refine keeps_inOrder_bind (hquiet _ (by trivial)) fun seen hentries => ?_
    have hround : ∀ x ∈ seen, Keeps (machine allowed) G I
        (if (usb.lookup x.1).isNone then forgetVanished d x.1 x.2 else pure ()) := by
      intro x hx
      split
      case isTrue hgone => exact hforget x.1 x.2 (hentries x hx) hgone
      case isFalse => exact keeps_pure _
    exact keeps_bind (fun w₁ hw₁ => wp_forM hround hw₁) fun _ => keeps_request hseen _
  refine wp_imp hbody fun r w' hw' => ?_
  have hunlock := hquiet (.unlock .observedUsb) trivial w' hw'
  exact ⟨hunlock.1, fun c hc => hunlock.2 c hc⟩

theorem wp_observe_of {w : World} (hquiet : ∀ op : Op, op.Observes → Harmless allowed G I op)
    (henter : G w (.enter .observe))
    (hseen : ∀ devices, Harmless allowed G I (.update (.observedUsb devices)))
    (hpci : ∀ op : Op, op.ForgetsPci (fun _ => True) → Harmless allowed G I op)
    (hentered : ∀ c, allowed w (.enter .observe) c → I (w.record (.entered .observe)) ∧
      ∀ key device, w.memory.observedUsb.lookup key = some device →
        (∀ x ∈ w.usbRouted d, x.1.sysName ≠ key) →
          Keeps (machine allowed) G I (forgetVanished d key device)) :
    (observe d).wp (machine allowed) G (fun _ => I) w := by
  rw [observe, wp_bind, enter, wp_operation]
  refine ⟨henter, fun c hc => ?_⟩
  obtain ⟨hw, hforget⟩ := hentered c hc
  rw [react, andThen_ok, wp_bind]
  refine wp_imp (wp_usbDevices (hquiet .scanUsb trivial _ hw).1) ?_
  rintro r _ ⟨rfl, husb⟩
  cases r with
  | error e => exact hw
  | ok xs =>
      obtain rfl := husb xs rfl
      have hlooks : ∀ op : Op, op.Observes → G (w.record (.entered .observe)) op :=
        fun op hop => (hquiet op hop _ hw).1
      rw [andThen_ok, wp_bind]
      refine wp_imp (wp_pciDevices (hlooks .scanPci trivial)
        fun address => hlooks (.iommuGroup address) trivial) ?_
      rintro r _ ⟨rfl, -⟩
      cases r with
      | error e => exact hw
      | ok ys =>
          rw [andThen_ok, wp_bind]
          refine wp_imp (wp_observeUsb_of hw hquiet (hseen _) fun key device hkey hgone => ?_)
            fun r w₁ hw₁ => ?_
          · refine hforget key device hkey fun x hx => ?_
            exact lookup_insertAll_isNone.1 hgone x.1 (List.mem_map_of_mem hx)
          · cases r with
            | error e => exact hw₁
            | ok _ =>
                rw [andThen_ok]
                refine wp_observePci hw₁ fun op hop => hpci op ?_
                cases op with
                | update u => cases u <;> trivial
                | _ => exact hop

end Rules

end GhafDeviceManager
