import GhafDeviceManager.Ownership

/-!
# Suspending a VM's devices

`suspendUsb` decides from the volatile map of nodes which devices to take back, while the persisted
map of bindings says which ports the VM still has.
-/

namespace GhafDeviceManager

open Fallible

/-- The device's binding is of this VM's running instance, which lists the recorded port. -/
def LiveBinding (w : World) (device : UsbDevice) (vmName : String) : Prop :=
  ∃ binding ∈ w.known device, binding.vm = vmName ∧ ∃ vm ∈ w.daemon.vm vmName,
    w.sockets vm.socket = some binding.socketGeneration ∧
    (w.ports vm.socket).any (listsBinding binding) = true

instance (w : World) (device : UsbDevice) (vmName : String) :
    Decidable (LiveBinding w device vmName) := by
  unfold LiveBinding
  infer_instance

/-- The plugged devices with a rule that has no `skipOnSuspend`. -/
def World.suspendable (w : World) : List (UsbDevice × RuleMatch) :=
  (w.daemon.usbRouted w.usbDevices).filter fun (_, rule) => !rule.skipOnSuspend

/-- `device_node.unwrap_or_default()` -/
def nodeKey (device : UsbDevice) : String := device.deviceNode.getD ""

/-- Every device the VM has live is recorded for it under a node that is the device's own. -/
structure Tracked (w : World) (vmName : String) : Prop where
  recorded : ∀ x ∈ w.suspendable, LiveBinding w x.1 vmName →
    w.memory.usbVms.lookup (nodeKey x.1) = some vmName
  apart : ∀ x ∈ w.suspendable, LiveBinding w x.1 vmName → ∀ y ∈ w.suspendable,
    nodeKey y.1 = nodeKey x.1 → y.1.sysName = x.1.sysName

instance (w : World) (vmName : String) : Decidable (Tracked w vmName) :=
  decidable_of_iff
    ((∀ x ∈ w.suspendable, LiveBinding w x.1 vmName →
        w.memory.usbVms.lookup (nodeKey x.1) = some vmName) ∧
      ∀ x ∈ w.suspendable, LiveBinding w x.1 vmName → ∀ y ∈ w.suspendable,
        nodeKey y.1 = nodeKey x.1 → y.1.sysName = x.1.sysName)
    ⟨fun h => ⟨h.1, h.2⟩, fun h => ⟨h.recorded, h.apart⟩⟩

/-- A detach command takes nothing but the port it names off Crosvm's list, and adds nothing. -/
def dropsPort (w : World) : Op → Choice → Prop
  | .usbDetach vm port, c =>
    (∀ item ∈ (c.setPorts w vm.socket).ports vm.socket, item ∈ w.ports vm.socket) ∧
      ∀ item ∈ w.ports vm.socket, item.1 ≠ port → item ∈ (c.setPorts w vm.socket).ports vm.socket
  | _, _ => True

theorem lawfulBEq_livePort : LawfulBEq LivePort := inferInstance

instance (w : World) (op : Op) (c : Choice) : Decidable (dropsPort w op c) := by
  have hports := lawfulBEq_livePort
  delta dropsPort
  induction op using Op.casesOn <;> infer_instance

section TakeBack

variable {device : UsbDevice} {permanent : Bool} {w : World}

/-- What a detach of one device leaves of all others. -/
structure TakenBack (device : UsbDevice) (w w' : World) : Prop where
  daemon : w'.daemon = w.daemon
  sockets : w'.sockets = w.sockets
  ports : ∀ socket, ∀ item ∈ w'.ports socket, item ∈ w.ports socket
  usbVms : ∀ key, device.deviceNode ≠ some key →
    w'.memory.usbVms.lookup key = w.memory.usbVms.lookup key
  known : ∀ other : UsbDevice, other.sysName ≠ device.sysName → w'.known other = w.known other

theorem setPorts_ports (c : Choice) (w : World) (socket other : String) :
    (c.setPorts w socket).ports other =
      if other = socket then (c.setPorts w socket).ports socket else w.ports other := by
  by_cases h : other = socket
  · simp [h]
  · cases hports : c.ports with
    | none => simp [Choice.setPorts, hports, h]
    | some live => simp [Choice.setPorts, hports, h]

theorem takenBack_react {w₁ : World} {op : Op} {c : Choice} (hop : op.Detaches device permanent)
    (hdrops : dropsPort w₁ op c) (h : TakenBack device w w₁) :
    TakenBack device w (react w₁ op c).2 := by
  have hsame : ∀ w₂ : World, w₂.daemon = w₁.daemon → w₂.sockets = w₁.sockets →
      w₂.ports = w₁.ports → w₂.memory.usbVms = w₁.memory.usbVms →
      w₂.memory.persistent.crosvmUsbPorts = w₁.memory.persistent.crosvmUsbPorts →
      TakenBack device w w₂ := by
    intro w₂ hd hs hp hu hk
    refine ⟨hd.trans h.daemon, hs.trans h.sockets, ?_, ?_, ?_⟩
    · rw [hp]
      exact h.ports
    · rw [hu]
      exact h.usbVms
    · intro other hother
      rw [World.known, hk]
      exact h.known other hother
  cases op with
  | usbDetach vm port =>
      refine ⟨h.daemon, h.sockets, fun socket item hitem => ?_, h.usbVms, h.known⟩
      have hitem : item ∈ (c.setPorts w₁ vm.socket).ports socket := hitem
      rw [setPorts_ports] at hitem
      split at hitem
      case isTrue heq =>
        rw [heq]
        exact h.ports vm.socket item (hdrops.1 item hitem)
      case isFalse heq => exact h.ports socket item hitem
  | update u =>
      cases u with
      | usbVmsRemove n =>
          refine ⟨h.daemon, h.sockets, h.ports, fun key hkey => ?_, h.known⟩
          have hne : key ≠ n := by
            rintro rfl
            exact hkey hop
          exact (AList.lookup_erase_ne hne).trans (h.usbVms key hkey)
      | crosvmUsbPortsRemove sysName =>
          refine ⟨h.daemon, h.sockets, h.ports, h.usbVms, fun other hother => ?_⟩
          have hne : other.sysName ≠ sysName := by
            rw [show sysName = device.sysName from hop]
            exact hother
          exact (AList.lookup_erase_ne hne).trans (h.known other hother)
      | setDisconnected id value => exact hsame _ rfl rfl rfl rfl rfl
      | pendingRemove id => exact hsame _ rfl rfl rfl rfl rfl
      | _ => exact hop.elim
  | authorize name value =>
      simp only [react]
      split
      · exact h
      · exact hsame _ rfl rfl rfl rfl rfl
  | _ => first | exact hsame _ rfl rfl rfl rfl rfl | exact hop.elim

theorem wp_detachOneUsb_takenBack {allowed : World → Op → Choice → Prop} {d : Daemon}
    (hdrops : ∀ w op c, allowed w op c → dropsPort w op c) :
    (detachOneUsb d device permanent).wp (machine allowed) (fun _ _ => True)
      (fun r w' => TakenBack device w w' ∧
        (r = .ok () → ∃ node ∈ device.deviceNode, Forgotten device node w')) w := by
  have hframe : (detachOneUsb d device permanent).wp (machine allowed) (fun _ _ => True)
      (fun _ => TakenBack device w) w := by
    refine wp_of_calls (calls_detachOneUsb_detaches d device permanent) ?_ ?_
      ⟨rfl, rfl, fun _ _ h => h, fun _ _ => rfl, fun _ _ => rfl⟩
    · rintro w₁ _ rfl h
      exact h
    · rintro op hop w₁ h
      refine ⟨trivial, ?_⟩
      rintro r w₂ ⟨c, hc, hreact⟩
      have hstep := takenBack_react hop (hdrops w₁ op c hc) h
      rwa [hreact] at hstep
  cases hnode : device.deviceNode with
  | none =>
      have herror : (detachOneUsb d device permanent).wp (machine allowed) (fun _ _ => True)
          (fun r _ => r ≠ .ok ()) w := by
        simp [detachOneUsb, hnode]
      exact wp_mono (wp_and hframe herror) (fun _ _ _ => trivial) fun r w' h =>
        ⟨h.1, fun hr => absurd hr h.2⟩
  | some node =>
      have hforgets : (detachOneUsb d device permanent).wp (machine allowed) (fun _ _ => True)
          (fun r w' => r = .ok () → ∀ node ∈ device.deviceNode, Forgotten device node w') w :=
        wp_detachOneUsb_forgets trivial (fun _ _ _ => trivial) (fun _ _ _ => trivial)
          fun _ _ _ _ => trivial
      exact wp_mono (wp_and hframe hforgets) (fun _ _ _ => trivial) fun r w' h =>
        ⟨h.1, fun hr => ⟨node, rfl, h.2 hr node hnode⟩⟩

end TakeBack

section Suspend

variable {allowed : World → Op → Choice → Prop} {G : World → Op → Prop} {w : World} {d : Daemon}
  {vm : Option String}

theorem wp_suspendUsbDevice {device : UsbDevice} {failures : List String}
    {post : Except Error (List String) → World → Prop} (hread : ∀ w, G w (.read .state))
    (hskip : (w.memory.usbVms.lookup (nodeKey device)).any (covers vm) = false →
      post (.ok failures) w)
    (htake : (w.memory.usbVms.lookup (nodeKey device)).any (covers vm) = true →
      (detachOneUsb d device false).wp (machine allowed) G (fun r w' => match r with
        | .ok _ => post (.ok failures) w'
        | .error e => post (.ok (failures ++ [device.sysName ++ ": " ++ Error.text e])) w') w) :
    (suspendUsbDevice d vm failures device).wp (machine allowed) G post w := by
  rw [suspendUsbDevice, readMemory, wp_bind, wp_operation]
  refine ⟨hread w, fun _ _ => ?_⟩
  rw [react, andThen_ok]
  split
  case isTrue hcovered =>
    rw [collect, wp_bind, wp_attempt]
    refine wp_imp (htake hcovered) fun r w' hr => ?_
    cases r with
    | ok _ => exact hr
    | error e => exact hr
  case isFalse hcovered => exact hskip (Bool.eq_false_iff.2 hcovered)

theorem wp_suspendUsb {I : List (UsbDevice × RuleMatch) → List String → World → Prop}
    (hquiet : ∀ op : Op, op.Observes → ∀ w, G w op)
    (hround : ∀ x rest failures w', I (x :: rest) failures w' →
      (suspendUsbDevice w.daemon vm failures x.1).wp (machine allowed) G
        (fun r w'' => ∀ failures', r = .ok failures' → I rest failures' w'') w')
    (hstart : I w.suspendable [] w) :
    (suspendUsb w.daemon vm).wp (machine allowed) G (fun r w' => r = .ok () → I [] [] w') w := by
  have hloop := wp_foldlM_rest (M := machine allowed) (G := G) (l := w.suspendable)
    (f := fun failures x => suspendUsbDevice w.daemon vm failures x.1) hround [] hstart
  rw [suspendUsb, wp_withLock]
  refine ⟨hquiet _ (by trivial) w, fun _ _ => ?_⟩
  rw [usbDevices, wp_bind, wp_bind, scanUsbRoot, wp_operation]
  refine ⟨hquiet _ (by trivial) w, fun c _ => ?_⟩
  cases hfail : c.fail
  · simp only [react, Choice.result, hfail, Bool.false_eq_true, if_false, id, andThen_ok]
    rw [wp_pure, andThen_ok, wp_bind]
    refine wp_imp hloop fun r w' hr => ?_
    cases r with
    | error e => exact ⟨hquiet _ (by trivial) w', fun _ _ h => by cases h⟩
    | ok failures =>
        have hend := hr failures rfl
        rw [andThen_ok, aggregate]
        split
        case isTrue hempty =>
          refine ⟨hquiet _ (by trivial) w', fun _ _ _ => ?_⟩
          rwa [List.isEmpty_iff.1 hempty] at hend
        case isFalse => exact ⟨hquiet _ (by trivial) w', fun _ _ h => by cases h⟩
  · simp only [react, Choice.result, hfail, if_true, id, andThen_error]
    exact ⟨hquiet _ (by trivial) w, fun _ _ h => by cases h⟩

/-- What is left to do of a suspend that has not failed so far: the devices still live. -/
structure LiveLeft (w₀ : World) (vmName : String) (rest : List (UsbDevice × RuleMatch))
    (w : World) : Prop where
  within : ∀ x ∈ rest, x ∈ w₀.suspendable
  shrinks : ∀ device, LiveBinding w device vmName → LiveBinding w₀ device vmName
  left : ∀ x ∈ w₀.suspendable, LiveBinding w x.1 vmName →
    x ∈ rest ∧ w.memory.usbVms.lookup (nodeKey x.1) = some vmName

theorem LiveBinding.of_takenBack {w' : World} {device taken : UsbDevice} {vmName : String}
    (h : TakenBack taken w w') (hne : device.sysName ≠ taken.sysName)
    (hlive : LiveBinding w' device vmName) : LiveBinding w device vmName := by
  obtain ⟨binding, hbinding, hvm, socket, hsocket, hgeneration, hlisted⟩ := hlive
  rw [h.known device hne] at hbinding
  rw [h.daemon] at hsocket
  rw [h.sockets] at hgeneration
  obtain ⟨item, hitem, hlists⟩ := List.any_eq_true.1 hlisted
  have hlisted' := List.any_eq_true.2 ⟨item, h.ports _ item hitem, hlists⟩
  exact ⟨binding, hbinding, hvm, socket, hsocket, hgeneration, hlisted'⟩

theorem known_congr {a b : UsbDevice} (h : a.sysName = b.sysName) : w.known a = w.known b := by
  rw [World.known, h]
  rfl

theorem wp_suspendUsbDevice_liveLeft {w₀ : World} {vmName : String} {x : UsbDevice × RuleMatch}
    {rest : List (UsbDevice × RuleMatch)} {failures : List String}
    (hdrops : ∀ w op c, allowed w op c → dropsPort w op c) (htracked : Tracked w₀ vmName)
    (hw : failures = [] → LiveLeft w₀ vmName (x :: rest) w) :
    (suspendUsbDevice d (some vmName) failures x.1).wp (machine allowed) (fun _ _ => True)
      (fun r w' => ∀ failures', r = .ok failures' → failures' = [] →
        LiveLeft w₀ vmName rest w') w := by
  refine wp_suspendUsbDevice (fun _ => trivial) ?_ ?_
  · intro hskip failures' hr hnone
    obtain rfl := Except.ok.inj hr
    have hleft := hw hnone
    have hwithin : ∀ y ∈ rest, y ∈ w₀.suspendable := fun y hy =>
      hleft.within y (List.mem_cons_of_mem x hy)
    refine ⟨hwithin, hleft.shrinks, fun y hy hlive => ?_⟩
    obtain ⟨hmem, hrecorded⟩ := hleft.left y hy hlive
    refine ⟨?_, hrecorded⟩
    rcases List.mem_cons.1 hmem with rfl | hmem
    · rw [hrecorded] at hskip
      simp [covers] at hskip
    · exact hmem
  · intro htake
    refine wp_imp (wp_detachOneUsb_takenBack hdrops) fun r w' hr => ?_
    cases r with
    | error e =>
        intro failures' hr' hnone
        rw [← Except.ok.inj hr'] at hnone
        simp at hnone
    | ok _ =>
        intro failures' hr' hnone
        obtain rfl := Except.ok.inj hr'
        have hleft := hw hnone
        obtain ⟨htaken, hok⟩ := hr
        obtain ⟨node, hnode, hforgotten⟩ := hok rfl
        have hne : ∀ device, LiveBinding w' device vmName → device.sysName ≠ x.1.sysName := by
          intro device hlive hsame
          obtain ⟨binding, hbinding, -⟩ := hlive
          rw [known_congr hsame, hforgotten.known] at hbinding
          cases hbinding
        have hbefore : ∀ device, LiveBinding w' device vmName → LiveBinding w device vmName :=
          fun device hlive => hlive.of_takenBack htaken (hne device hlive)
        refine ⟨fun y hy => hleft.within y (List.mem_cons_of_mem x hy),
          fun device hlive => hleft.shrinks device (hbefore device hlive), ?_⟩
        intro y hy hlive
        obtain ⟨hmem, hrecorded⟩ := hleft.left y hy (hbefore y.1 hlive)
        have hother := hne y.1 hlive
        have hkeys : nodeKey y.1 ≠ nodeKey x.1 := by
          intro hsame
          have hlive₀ := hleft.shrinks y.1 (hbefore y.1 hlive)
          have hx := hleft.within x List.mem_cons_self
          exact hother (htracked.apart y hy hlive₀ x hx hsame.symm).symm
        have hnodeKey : nodeKey x.1 = node := by
          rw [nodeKey, Option.mem_def.1 hnode]
          rfl
        constructor
        · rcases List.mem_cons.1 hmem with rfl | hmem
          · exact absurd rfl hother
          · exact hmem
        · rw [htaken.usbVms (nodeKey y.1), hrecorded]
          rw [Option.mem_def.1 hnode, ← hnodeKey]
          intro hsame
          exact hkeys (Option.some.inj hsame).symm

structure PassedOver (device : UsbDevice) (vmName : String) (binding : UsbPortBinding) (w : World) :
    Prop where
  known : w.known device = some binding
  live : LiveBinding w device vmName
  unrecorded : w.memory.usbVms.lookup (nodeKey device) ≠ some vmName

theorem LiveBinding.congr {w' : World} {device : UsbDevice} {vmName : String}
    (h : LiveBinding w device vmName) (hdaemon : w'.daemon = w.daemon)
    (hsockets : w'.sockets = w.sockets) (hknown : w'.known device = w.known device)
    (hports : ∀ binding ∈ w.known device, ∀ socket, ∀ item ∈ w.ports socket,
      item.1 = binding.port → item ∈ w'.ports socket) : LiveBinding w' device vmName := by
  obtain ⟨binding, hbinding, hvm, vm, hconfigured, hgeneration, hlisted⟩ := h
  obtain ⟨item, hitem, hlists⟩ := List.any_eq_true.1 hlisted
  have hport : item.1 = binding.port := by
    simp only [listsBinding, Bool.and_eq_true, beq_iff_eq] at hlists
    exact hlists.1.1
  have hlisted' := List.any_eq_true.2 ⟨item, hports binding hbinding _ item hitem hport, hlists⟩
  exact ⟨binding, by rwa [hknown], hvm, vm, by rwa [hdaemon], by rwa [hsockets], hlisted'⟩

theorem passedOver_react {device other : UsbDevice} {permanent : Bool} {vmName : String}
    {binding : UsbPortBinding} {op : Op} {c : Choice} (hop : op.Detaches other permanent)
    (hother : device.sysName ≠ other.sysName) (hdrops : dropsPort w op c)
    (hport : ∀ vm, op ≠ .usbDetach vm binding.port) (h : PassedOver device vmName binding w) :
    PassedOver device vmName binding (react w op c).2 := by
  have hsame : ∀ w' : World, w'.daemon = w.daemon → w'.sockets = w.sockets → w'.ports = w.ports →
      w'.known device = w.known device →
      (∀ key name, w'.memory.usbVms.lookup key = some name →
        w.memory.usbVms.lookup key = some name) →
      PassedOver device vmName binding w' := by
    intro w' hd hs hp hk hu
    refine ⟨hk.trans h.known, h.live.congr hd hs hk fun _ _ socket item hitem _ => ?_, ?_⟩
    · rwa [hp]
    · exact fun hrecorded => h.unrecorded (hu _ _ hrecorded)
  cases op with
  | usbDetach vm port =>
      refine ⟨h.known, h.live.congr rfl rfl rfl fun b hb socket item hitem hitemPort => ?_,
        h.unrecorded⟩
      obtain rfl := Option.some.inj (h.known.symm.trans hb)
      have hne : item.1 ≠ port := by
        rw [hitemPort]
        rintro rfl
        exact hport vm rfl
      change item ∈ (c.setPorts w vm.socket).ports socket
      rw [setPorts_ports]
      split
      case isTrue heq =>
        rw [heq] at hitem
        exact hdrops.2 item hitem hne
      case isFalse => exact hitem
  | update u =>
      cases u with
      | usbVmsRemove n =>
          refine hsame _ rfl rfl rfl rfl fun key name hkey => ?_
          by_cases hn : key = n
          · subst hn
            cases (AList.lookup_erase _ _).symm.trans hkey
          · rw [← hkey]
            exact (AList.lookup_erase_ne hn).symm
      | crosvmUsbPortsRemove sysName =>
          have hne : device.sysName ≠ sysName := by
            rw [show sysName = other.sysName from hop]
            exact hother
          exact hsame _ rfl rfl rfl (AList.lookup_erase_ne hne) fun _ _ hkey => hkey
      | setDisconnected id value => exact hsame _ rfl rfl rfl rfl fun _ _ hkey => hkey
      | pendingRemove id => exact hsame _ rfl rfl rfl rfl fun _ _ hkey => hkey
      | _ => exact hop.elim
  | authorize name value =>
      simp only [react]
      split
      · exact h
      · exact hsame _ rfl rfl rfl rfl fun _ _ hkey => hkey
  | _ => first | exact hsame _ rfl rfl rfl rfl (fun _ _ hkey => hkey) | exact hop.elim

/-- A suspend keeps what it passes over, unless it takes the port away for another device. -/
theorem wp_suspendUsb_passedOver {x : UsbDevice × RuleMatch} {vmName : String}
    {binding : UsbPortBinding} (hdrops : ∀ w op c, allowed w op c → dropsPort w op c)
    (hport : ∀ w op c, allowed w op c → ∀ vm, op ≠ .usbDetach vm binding.port)
    (hown : ∀ y ∈ w.suspendable, y.1.sysName = x.1.sysName → nodeKey y.1 = nodeKey x.1)
    (hw : PassedOver x.1 vmName binding w) :
    (suspendUsb w.daemon (some vmName)).wp (machine allowed) (fun _ _ => True)
      (fun r w' => r = .ok () → PassedOver x.1 vmName binding w') w := by
  refine wp_imp (wp_suspendUsb (I := fun rest _ w' => (∀ y ∈ rest, y ∈ w.suspendable) ∧
    PassedOver x.1 vmName binding w') (fun _ _ _ => trivial) ?_ ⟨fun _ h => h, hw⟩)
    fun _ _ h hr => (h hr).2
  rintro y rest failures w₁ ⟨hwithin, hpassed⟩
  have hrest : ∀ z ∈ rest, z ∈ w.suspendable := fun z hz =>
    hwithin z (List.mem_cons_of_mem y hz)
  by_cases hsame : y.1.sysName = x.1.sysName
  · have hkey := hown y (hwithin y List.mem_cons_self) hsame
    refine wp_suspendUsbDevice (fun _ => trivial) (fun _ _ _ => ⟨hrest, hpassed⟩) fun htake => ?_
    rw [hkey, Option.any_eq_true] at htake
    obtain ⟨name, hname, hcovers⟩ := htake
    obtain rfl : vmName = name := by simpa [covers] using hcovers
    exact absurd hname hpassed.unrecorded
  · refine wp_suspendUsbDevice (fun _ => trivial) (fun _ _ _ => ⟨hrest, hpassed⟩) fun _ => ?_
    have hkept : (detachOneUsb w.daemon y.1 false).wp (machine allowed) (fun _ _ => True)
        (fun _ => PassedOver x.1 vmName binding) w₁ := by
      refine wp_of_calls (calls_detachOneUsb_detaches w.daemon y.1 false) ?_ ?_ hpassed
      · rintro w₂ _ rfl h
        exact h
      · rintro op hop w₂ h
        refine ⟨trivial, ?_⟩
        rintro r w₃ ⟨c, hc, hreact⟩
        have hstep := passedOver_react hop (Ne.symm hsame) (hdrops w₂ op c hc)
          (hport w₂ op c hc) h
        rwa [hreact] at hstep
    refine wp_imp hkept fun r w₂ h => ?_
    cases r with
    | ok _ => exact fun _ _ => ⟨hrest, h⟩
    | error e => exact fun _ _ => ⟨hrest, h⟩

/-- A suspend that succeeds leaves the VM nothing live where every live device was recorded for
it. A live device that was not keeps its binding, unless its port went with another device. -/
theorem suspend_complete (hdrops : ∀ w op c, allowed w op c → dropsPort w op c) {w w' : World}
    {vmName : String} {tr : List (World × Op)}
    (hexec : Exec (machine allowed) (suspendUsb w.daemon (some vmName)).run w tr w'
      (some (.ok ()))) :
    (Tracked w vmName → ∀ x ∈ w.suspendable, ¬LiveBinding w' x.1 vmName) ∧
      ∀ x ∈ w.suspendable, LiveBinding w x.1 vmName →
        w.memory.usbVms.lookup (nodeKey x.1) ≠ some vmName →
        (∀ y ∈ w.suspendable, y.1.sysName = x.1.sysName → nodeKey y.1 = nodeKey x.1) →
        (∀ binding ∈ w.known x.1, ∀ e ∈ tr, ∀ vm, e.2 ≠ .usbDetach vm binding.port) →
        LiveBinding w' x.1 vmName := by
  constructor
  · intro htracked
    have hleft : (suspendUsb w.daemon (some vmName)).wp (machine allowed) (fun _ _ => True)
        (fun r w' => r = .ok () → ([] : List String) = [] → LiveLeft w vmName [] w') w := by
      refine wp_suspendUsb (I := fun rest failures w' => failures = [] →
        LiveLeft w vmName rest w') (fun _ _ _ => trivial) ?_ fun _ => ?_
      · intro x rest failures w' hw'
        exact wp_suspendUsbDevice_liveLeft hdrops htracked hw'
      · exact ⟨fun x hx => hx, fun device hlive => hlive,
          fun x hx hlive => ⟨hx, htracked.recorded x hx hlive⟩⟩
    have hend := (Program.wp_sound hleft hexec).2 _ rfl rfl rfl
    intro x hx hlive
    cases (hend.left x hx hlive).1
  · intro x hx hlive hunrecorded hown hspared
    obtain ⟨binding, hbinding, hlive'⟩ := hlive
    have hrestricted := Exec.restrict (S := fun _ op => ∀ vm, op ≠ .usbDetach vm binding.port)
      hexec (hspared binding hbinding)
    have hpassed : (suspendUsb w.daemon (some vmName)).wp
        (machine fun w op c => allowed w op c ∧ ∀ vm, op ≠ .usbDetach vm binding.port) _ _ w :=
      wp_suspendUsb_passedOver (fun w op c hc => hdrops w op c hc.1) (fun w op c hc => hc.2) hown
      ⟨hbinding, ⟨binding, hbinding, hlive'⟩, hunrecorded⟩
    exact ((Program.wp_sound hpassed hrestricted).2 _ rfl rfl).live

end Suspend

def portOneInAndOut : World → Op → Choice
  | _, .usbDetach _ _ => { ports := some [] }
  | w, op => onPortOne w op

theorem portOneInAndOut_saves (w : World) (o : Operation) : ∀ e ∈ w.trace portOneInAndOut o,
    savesSucceed e.1 e.2 (portOneInAndOut e.1 e.2) := by
  intro e _
  obtain ⟨w', op⟩ := e
  cases op <;> trivial

def keyboardInGui : World := sharedKeyboard.perform portOneInAndOut toGui

def suspendGui : Operation := .usbSuspend (some "gui-vm")

theorem exec_suspend {w : World} {pick : World → Op → Choice}
    (hok : ((suspendUsb w.daemon (some "gui-vm")).run.follow react pick w).2.2.toBool = true)
    (hdrops : ∀ e ∈ w.trace pick suspendGui, dropsPort e.1 e.2 (pick e.1 e.2)) :
    Exec (machine dropsPort) (suspendUsb w.daemon (some "gui-vm")).run w
      (w.trace pick suspendGui) (w.perform pick suspendGui) (some (.ok ())) := by
  have hexec := Program.follow_exec (suspendUsb w.daemon (some "gui-vm")).run w hdrops
  cases hresult : ((suspendUsb w.daemon (some "gui-vm")).run.follow react pick w).2.2 with
  | error e =>
      rw [hresult] at hok
      cases hok
  | ok _ => rwa [hresult] at hexec

theorem suspend_complete_keyboardInGui : Tracked keyboardInGui "gui-vm" ∧
    (∃ x ∈ keyboardInGui.suspendable, LiveBinding keyboardInGui x.1 "gui-vm") ∧
    ∀ x ∈ keyboardInGui.suspendable,
      ¬LiveBinding (keyboardInGui.perform portOneInAndOut suspendGui) x.1 "gui-vm" := by
  have htracked : Tracked keyboardInGui "gui-vm" := by decide +kernel
  have hdrops : ∀ e ∈ keyboardInGui.trace portOneInAndOut suspendGui,
      dropsPort e.1 e.2 (portOneInAndOut e.1 e.2) := by decide +kernel
  have hexec := exec_suspend (by decide +kernel) hdrops
  exact ⟨htracked, by decide +kernel, (suspend_complete (fun _ _ _ h => h) hexec).1 htracked⟩

/-- A new process has the binding from the state file and no node in its map, so that a suspend
finds nothing to do. -/
theorem suspend_passes_over_after_restart : ¬∀ w, Reachable dropsPort w → ∀ vmName tr w',
    Exec (machine dropsPort) (suspendUsb w.daemon (some vmName)).run w tr w' (some (.ok ())) →
      ∀ x ∈ w.suspendable, ¬LiveBinding w' x.1 vmName := by
  intro hclaim
  have hattach : ∀ e ∈ sharedKeyboard.trace portOneInAndOut toGui,
      dropsPort e.1 e.2 (portOneInAndOut e.1 e.2) := by decide +kernel
  have hinitial : Reachable dropsPort sharedKeyboard := .initial (by decide) rfl rfl rfl
  have hrestarted : Reachable dropsPort (keyboardInGui.restart sharedKeyboard.daemon) :=
    (hinitial.perform portOneInAndOut toGui hattach).crash _ (by decide)
  have hdrops : ∀ e ∈ (keyboardInGui.restart sharedKeyboard.daemon).trace portOneInAndOut
      suspendGui, dropsPort e.1 e.2 (portOneInAndOut e.1 e.2) := by decide +kernel
  have hnone := hclaim _ hrestarted "gui-vm" _ _ (exec_suspend (by decide +kernel) hdrops)
  have hlive : ∃ x ∈ (keyboardInGui.restart sharedKeyboard.daemon).suspendable,
      LiveBinding ((keyboardInGui.restart sharedKeyboard.daemon).perform portOneInAndOut
        suspendGui) x.1 "gui-vm" := by decide +kernel
  obtain ⟨x, hx, hx'⟩ := hlive
  exact hnone x hx hx'

end GhafDeviceManager
