import GhafDeviceManager.Footprints

/-!
# How an attach goes

Up to the hand-over an attach only looks; from there to the Crosvm command it changes sysfs and
nothing the manager remembers. The rules below cut a call at these points, so that a property of
attaches has to be shown for the hand-over, the claim of a port and the tail alone.
-/

namespace GhafDeviceManager

open Fallible

/-- Effects that leave Crosvm and the manager's records alone. -/
def Effect.Passing : Effect → Prop
  | .notified _ | .probed _ _ | .released _ _ | .authorized _ _ _ => True
  | _ => False

/-- What the way of an attach to its Crosvm command leaves unchanged. -/
structure Approached (w w' : World) : Prop where
  daemon : w'.daemon = w.daemon
  sockets : w'.sockets = w.sockets
  ports : w'.ports = w.ports
  stateFile : w'.stateFile = w.stateFile
  persistent : w'.memory.persistent = w.memory.persistent
  usbVms : w'.memory.usbVms = w.memory.usbVms
  attaching : w'.attaching = w.attaching
  log : ∃ news, w'.log = news ++ w.log ∧ ∀ effect ∈ news, effect.Passing

namespace Approached

variable {w w₁ w₂ : World}

theorem refl (w : World) : Approached w w :=
  ⟨rfl, rfl, rfl, rfl, rfl, rfl, rfl, [], rfl, by simp⟩

theorem trans (h₁ : Approached w w₁) (h₂ : Approached w₁ w₂) : Approached w w₂ := by
  obtain ⟨news₁, hlog₁, hpassing₁⟩ := h₁.log
  obtain ⟨news₂, hlog₂, hpassing₂⟩ := h₂.log
  refine ⟨h₂.daemon.trans h₁.daemon, h₂.sockets.trans h₁.sockets, h₂.ports.trans h₁.ports,
    h₂.stateFile.trans h₁.stateFile, h₂.persistent.trans h₁.persistent,
    h₂.usbVms.trans h₁.usbVms, h₂.attaching.trans h₁.attaching, news₂ ++ news₁, ?_, ?_⟩
  · rw [hlog₂, hlog₁, List.append_assoc]
  · intro effect heffect
    rcases List.mem_append.1 heffect with h | h
    · exact hpassing₂ effect h
    · exact hpassing₁ effect h

theorem record {effect : Effect} (h : effect.Passing) (w : World) (bus : UsbBus) :
    Approached w ({ w with bus := bus }.record effect) := by
  refine ⟨rfl, rfl, rfl, rfl, rfl, rfl, ?_, [effect], rfl, by simpa using h⟩
  cases effect <;> first | rfl | exact h.elim

end Approached

theorem react_observes {op : Op} (hop : op.Observes) (w : World) (c : Choice) :
    (react w op c).2 = w ∨ ∃ n, (react w op c).2 = w.record (.notified n) := by
  cases op with
  | notify n => exact .inr ⟨n, rfl⟩
  | _ => first | exact .inl rfl | exact hop.elim

theorem approached_react {device : UsbDevice} {op : Op} (hop : op.Approaches device) (w : World)
    (c : Choice) : Approached w (react w op c).2 := by
  have hobserves : op.Observes → Approached w (react w op c).2 := fun h => by
    obtain heq | ⟨n, heq⟩ := react_observes h w c
    · rw [heq]
      exact .refl w
    · rw [heq]
      exact .record (by trivial) w w.bus
  cases op with
  | probe name => exact .record (by trivial) w _
  | release name => exact .record (by trivial) w _
  | authorize name value =>
      simp only [react]
      split
      · exact .refl w
      · exact .record (by trivial) w _
  | update u =>
      cases u with
      | reportedInsert id => exact ⟨rfl, rfl, rfl, rfl, rfl, rfl, rfl, [], rfl, by simp⟩
      | _ => exact hop.elim
  | _ => exact hobserves hop

/-- The binding a claim starts from. -/
def World.known (w : World) (device : UsbDevice) : Option UsbPortBinding :=
  w.memory.persistent.crosvmUsbPorts.lookup device.sysName

structure Forgotten (device : UsbDevice) (node : String) (w : World) : Prop where
  known : w.known device = none
  holder : w.memory.usbVms.lookup node = none

theorem Forgotten.approached {device : UsbDevice} {node : String} {w w' : World}
    (h : Forgotten device node w) (hw : Approached w w') : Forgotten device node w' := by
  constructor
  · rw [World.known, hw.persistent]
    exact h.known
  · rw [hw.usbVms]
    exact h.holder

theorem forgotten_react {device : UsbDevice} {node : String} {permanent : Bool} {op : Op}
    (hop : op.Forgets device node permanent) {w : World} (c : Choice)
    (h : Forgotten device node w) : Forgotten device node (react w op c).2 := by
  cases op with
  | update u =>
      cases u with
      | usbVmsRemove n =>
          obtain rfl := hop
          exact ⟨h.known, AList.lookup_erase _ _⟩
      | crosvmUsbPortsRemove sysName =>
          obtain rfl := hop
          exact ⟨AList.lookup_erase _ _, h.holder⟩
      | setDisconnected id value => exact ⟨h.known, h.holder⟩
      | pendingRemove id => exact ⟨h.known, h.holder⟩
      | _ => exact hop.elim
  | save => exact ⟨h.known, h.holder⟩
  | authorize name value =>
      have hname : (Op.authorize name value).Approaches device := hop.1
      exact h.approached (approached_react hname w c)
  | probe name => exact hop.elim
  | release name => exact hop.elim
  | _ =>
      refine h.approached (@approached_react device _ ?_ w c)
      exact hop

section Rules

variable {α : Type} {allowed : World → Op → Choice → Prop} {G : World → Op → Prop} {w : World}
  {d : Daemon} {device : UsbDevice}

theorem wp_of_approaches {p : Act α} (hp : Calls (Op.Approaches device) p)
    (hG : ∀ op, op.Approaches device → ∀ w', Approached w w' → G w' op) :
    wp (machine allowed) G p (fun _ => Approached w) w := by
  refine wp_of_calls hp ?_ ?_ (.refl w)
  · rintro w₁ _ rfl h
    exact h
  · rintro op hop w₁ h
    refine ⟨hG op hop w₁ h, ?_⟩
    rintro r w₂ ⟨c, _, hreact⟩
    have hstep := approached_react hop w₁ c
    rw [hreact] at hstep
    exact h.trans hstep

/-- What the authorization policy lets an attach know beforehand. -/
def World.preflight (w : World) (d : Daemon) (device : UsbDevice) (vm : Vm) :
    Option (String × List LivePort) :=
  if d.config.usbAuthorization.enabled && !device.isHub then
    some (w.generation vm.socket, w.ports vm.socket)
  else none

theorem wp_preflight {vm : Vm}
    {post : Except Error (Option (String × List LivePort)) → World → Prop}
    (hquiet : ∀ op : Op, op.Observes → G w op) (herror : ∀ e, post (.error e) w)
    (hok : post (.ok (w.preflight d device vm)) w) :
    wp (machine allowed) G (GhafDeviceManager.preflight d device vm) post w := by
  have hgeneration := hquiet (.socketGeneration vm.socket) trivial
  have hlist := hquiet (.usbList vm.socket) trivial
  unfold GhafDeviceManager.preflight
  unfold World.preflight at hok
  split
  case isTrue h =>
    rw [if_pos h] at hok
    simp only [socketGeneration, usbList, wp_bind, wp_operation, hgeneration, hlist, react,
      true_and, andThen_ok]
    intro _ _ c _
    cases hfail : c.fail
    · simpa [Choice.result, hfail, World.generation] using hok
    · simpa [Choice.result, hfail] using herror _
  case isFalse h =>
    rw [if_neg h] at hok
    exact hok

/-- An attach looks, gives up with an error, or goes on to hand the device over. With the policy on,
it goes on only while the VM's socket is there. -/
theorem wp_attachUsbTo_awake {rule : RuleMatch} {vmName : String}
    {post : Except Error Unit → World → Prop} (hquiet : ∀ op : Op, op.Observes → G w op)
    (herror : ∀ e, post (.error e) w)
    (hmain : ∀ vm node, vmName ∈ allowedVms rule → d.vm vmName = some vm →
      (d.config.usbAuthorization.enabled = true → (w.sockets vm.socket).isSome = true) →
      device.deviceNode = some node →
      wp (machine allowed) G (do
        handOver d device (w.memory.usbVms.lookup node) vmName
        attachAuthorized d device vm node (w.memory.usbVms.lookup node)
          (w.preflight d device vm)) post w) :
    wp (machine allowed) G (attachUsbTo d device rule vmName) post w := by
  by_cases hallowed : vmName ∈ allowedVms rule
  swap
  · simp [attachUsbTo, hallowed, herror]
  cases hvm : d.vm vmName with
  | none => simp [attachUsbTo, hallowed, Daemon.vmNamed, hvm, herror]
  | some vm =>
      have hrest : (d.config.usbAuthorization.enabled = true →
          (w.sockets vm.socket).isSome = true) → wp (machine allowed) G (do
          let seen ← GhafDeviceManager.preflight d device vm
          let node ← require "USB device has no device node" device.deviceNode
          let current := (← readMemory .state).usbVms.lookup node
          handOver d device current vmName
          attachAuthorized d device vm node current seen) post w := by
        intro hawake
        rw [wp_bind]
        refine wp_preflight hquiet herror ?_
        rw [andThen_ok, wp_bind, wp_require]
        cases hnode : device.deviceNode with
        | none => exact herror _
        | some node =>
            rw [Option.elim_some, andThen_ok, readMemory, wp_bind, wp_operation]
            exact ⟨hquiet _ (by trivial), fun c _ => hmain vm node hallowed hvm hawake hnode⟩
      have hcontains : (allowedVms rule).contains vmName = true := by simpa using hallowed
      unfold attachUsbTo
      rw [hcontains, Bool.not_true, if_neg Bool.false_ne_true, wp_bind, Daemon.vmNamed, hvm,
        wp_require, Option.elim_some, andThen_ok]
      split
      case isTrue h =>
        rw [wp_bind, socketGeneration, wp_operation]
        refine ⟨hquiet _ (by trivial), fun c _ => ?_⟩
        simp only [react, andThen_ok]
        split
        case isTrue => exact herror _
        case isFalse hsocket =>
          refine hrest fun _ => ?_
          simpa [Option.isSome_iff_ne_none] using hsocket
      case isFalse h => exact hrest fun henabled => absurd henabled h

theorem wp_attachUsbTo {rule : RuleMatch} {vmName : String}
    {post : Except Error Unit → World → Prop} (hquiet : ∀ op : Op, op.Observes → G w op)
    (herror : ∀ e, post (.error e) w)
    (hmain : ∀ vm node, vmName ∈ allowedVms rule → d.vm vmName = some vm →
      device.deviceNode = some node →
      wp (machine allowed) G (do
        handOver d device (w.memory.usbVms.lookup node) vmName
        attachAuthorized d device vm node (w.memory.usbVms.lookup node)
          (w.preflight d device vm)) post w) :
    wp (machine allowed) G (attachUsbTo d device rule vmName) post w :=
  wp_attachUsbTo_awake hquiet herror fun vm node hallowed hvm _ => hmain vm node hallowed hvm

theorem wp_handOver {V : Type} {M : Machine Op Reply V} {G : V → Op → Prop} {v : V}
    {current : Option String} {vmName : String} {post : Except Error Unit → V → Prop}
    (hsame : (∀ other ∈ current, other = vmName) → post (.ok ()) v)
    (hdetach : ∀ other, current = some other → other ≠ vmName →
      wp M G (detachOneUsb d device false) post v) :
    wp M G (handOver d device current vmName) post v := by
  cases current with
  | none => exact hsame (by simp)
  | some other =>
      by_cases hother : other = vmName
      · simp only [handOver, hother, ne_eq, not_true_eq_false, if_false]
        exact hsame (by simp [hother])
      · simp only [handOver, ne_eq, hother, not_false_eq_true, if_true]
        exact hdetach other rfl hother

theorem wp_of_forgets {p : Act α} {node : String} {permanent : Bool}
    (hp : Calls (Op.Forgets device node permanent) p)
    (hG : ∀ op, op.Forgets device node permanent → ∀ w', G w' op)
    (hw : Forgotten device node w) :
    wp (machine allowed) G p (fun _ => Forgotten device node) w := by
  refine wp_of_calls hp ?_ ?_ hw
  · rintro w₁ _ rfl h
    exact h
  · rintro op hop w₁ h
    refine ⟨hG op hop w₁, ?_⟩
    rintro r w₂ ⟨c, _, hreact⟩
    have hstep := forgotten_react hop c h
    rwa [hreact] at hstep

theorem wp_forgetUsb {node : String} {permanent : Bool}
    (hG : ∀ op, op.Forgets device node permanent → ∀ w', G w' op) :
    wp (machine allowed) G (forgetUsb d device node permanent)
      (fun _ => Forgotten device node) w := by
  have hsave : Calls (Op.Forgets device node permanent) (Fallible.attempt do
      setDisconnected d device.persistentId permanent
      saveState d) := by
    refine calls_attempt (calls_bind (calls_setDisconnected ⟨rfl, rfl⟩ (by trivial)) fun _ => ?_)
    exact calls_saveState (by trivial)
  have htail : ∀ persistence : Except Error Unit,
      Calls (Op.Forgets device node permanent) (endForget d device persistence) := by
    intro persistence
    refine calls_bind (calls_request rfl) fun _ => ?_
    refine calls_bind (calls_deauthorizeDetached d device node permanent) fun _ => ?_
    cases persistence <;> trivial
  rw [forgetUsb, wp_bind, forgetBinding, wp_withLock]
  refine ⟨hG (.lock .state) trivial w, fun _ _ => ?_⟩
  rw [wp_bind, update, wp_operation]
  refine ⟨hG (.update (.usbVmsRemove node)) rfl _, fun _ _ => ?_⟩
  rw [andThen_ok, wp_bind, update, wp_operation]
  refine ⟨hG (.update (.crosvmUsbPortsRemove device.sysName)) rfl _, fun _ _ => ?_⟩
  refine wp_imp (wp_of_forgets hsave hG ⟨AList.lookup_erase _ _, AList.lookup_erase _ _⟩) ?_
  intro r w' hw'
  refine ⟨hG (.unlock .state) trivial w', fun _ _ => ?_⟩
  cases r with
  | error e => exact hw'
  | ok persistence =>
      rw [andThen_ok]
      exact wp_of_forgets (htail persistence) hG hw'

theorem wp_detachOneUsb_forgets {permanent : Bool}
    (henter : G w (.enter (.detachOneUsb device permanent)))
    (hquiet : ∀ op : Op, op.Observes → ∀ w', G w' op)
    (hdetach : ∀ vm port w', G w' (.usbDetach vm port))
    (hforgets : ∀ node op, op.Forgets device node permanent → ∀ w', G w' op) :
    wp (machine allowed) G (detachOneUsb d device permanent)
      (fun r w' => r = .ok () → ∀ node ∈ device.deviceNode, Forgotten device node w') w := by
  rw [detachOneUsb, wp_bind, enter, wp_operation]
  refine ⟨henter, fun _ _ => ?_⟩
  rw [react, andThen_ok, wp_bind, wp_require]
  cases hnode : device.deviceNode with
  | none => simp
  | some node =>
      have hforget : ∀ w', wp (machine allowed) G (forgetUsb d device node permanent)
          (fun r w' => r = .ok () → ∀ n ∈ some node, Forgotten device n w') w' := by
        intro w'
        refine wp_imp (wp_forgetUsb (hforgets node)) fun r w'' h _ n hn => ?_
        rwa [← Option.mem_some_iff.1 hn]
      rw [Option.elim_some, andThen_ok, wp_bind, readMemory, wp_operation]
      refine ⟨hquiet (.read .state) trivial _, fun _ _ => ?_⟩
      rw [react, andThen_ok]
      dsimp only
      split
      · rw [wp_bind]
        have hdetached : ∀ vmName binding, Calls (fun op => ∀ w, G w op)
            (detachFromVm d device node vmName binding) := fun vmName binding =>
          calls_detachFromVm (fun socket => hquiet (.socketGeneration socket) trivial)
            (fun socket => hquiet (.usbList socket) trivial) hdetach
            (hquiet (.notify _) trivial)
        refine wp_imp (wp_of_footprint (hdetached _ _) (fun op hop => hop) _) fun r w' _ => ?_
        cases r with
        | ok _ => exact hforget w'
        | error e => simp
      · exact hforget _

theorem wp_claimUsb {vm : Vm} {node : String} {seen : Option (String × List LivePort)}
    {post : Except Error (Option PortClaim) → World → Prop}
    (hG : ∀ op, op.Approaches device → ∀ w', Approached w w' → G w' op)
    (herror : ∀ e w', Approached w w' → post (.error e) w')
    (hhub : ∀ w', Approached w w' → post (.ok none) w')
    (hclaim : ∀ w', Approached w w' → wp (machine allowed) G (claimPort device vm node seen)
      (fun r => post (r.map some)) w') :
    wp (machine allowed) G (claimUsb device vm node seen) post w := by
  have happroach : ∀ {α : Type} {p : Act α}, Calls (Op.Approaches device) p → ∀ w',
      Approached w w' → wp (machine allowed) G p (fun _ => Approached w) w' := by
    intro α p hp w' hw'
    exact wp_imp (wp_of_approaches hp fun op hop w'' hw'' => hG op hop w'' (hw'.trans hw''))
      fun r w'' hw'' => hw'.trans hw''
  unfold claimUsb
  rw [wp_bind]
  refine wp_imp (happroach (calls_configureUsb trivial trivial rfl) w (.refl w)) fun r w₁ hw₁ => ?_
  cases r with
  | error e => exact herror e w₁ hw₁
  | ok _ =>
      rw [andThen_ok, wp_bind]
      have hnames : Calls (Op.Approaches device)
          (withContext ("cannot claim " ++ device.sysName) (interfaces device.sysName)) :=
        calls_withContext _ (calls_request (by trivial))
      refine wp_imp (happroach hnames w₁ hw₁) fun r w₂ hw₂ => ?_
      cases r with
      | error e => exact herror e w₂ hw₂
      | ok names =>
          rw [andThen_ok, wp_bind]
          refine wp_imp (happroach (calls_releaseHostDrivers (fun _ => trivial) (fun _ => trivial)
            trivial names) w₂ hw₂) ?_
          intro r w₃ hw₃
          cases r with
          | error e => exact herror e w₃ hw₃
          | ok stopped =>
              cases stopped with
              | true => exact hhub w₃ hw₃
              | false =>
                  rw [andThen_ok, if_neg Bool.false_ne_true]
                  exact (wp_map _ _ _).2 (hclaim w₃ hw₃)

theorem wp_rollback {armed : Bool} {post : Except Error Unit → World → Prop}
    (hG : ∀ op, op.Approaches device → ∀ w', Approached w w' → G w' op)
    (hpost : ∀ w', Approached w w' → post (.ok ()) w') :
    wp (machine allowed) G (rollback device armed) post w := by
  cases armed with
  | false => exact hpost w (.refl w)
  | true =>
      rw [rollback, if_pos rfl, wp_warnOnError]
      exact wp_imp (wp_of_approaches (calls_request rfl) hG) fun _ w' => hpost w'

theorem wp_rollback_throw {armed : Bool} {e : Error} {post : Except Error Unit → World → Prop}
    (hG : ∀ op, op.Approaches device → ∀ w', Approached w w' → G w' op)
    (hpost : ∀ w', Approached w w' → post (.error e) w') :
    wp (machine allowed) G (do rollback device armed; throw e) post w := by
  rw [wp_bind]
  exact wp_rollback hG hpost

/-- The guarded part of an attach: it leaves early, or it claims a port. -/
theorem wp_attachAuthorized {vm : Vm} {node : String} {current : Option String}
    {seen : Option (String × List LivePort)} {post : Except Error Unit → World → Prop}
    (hG : ∀ op, op.Approaches device → ∀ w', Approached w w' → G w' op)
    (hleave : ∀ r w', Approached w w' → post r w')
    (hclaim : ∀ armed w', Approached w w' → wp (machine allowed) G (claimPort device vm node seen)
      (fun r w'' => match r with
        | .ok claim => wp (machine allowed) G (finishAttach d device vm node current claim) post w''
        | .error e => wp (machine allowed) G (do rollback device armed; throw e) post w'') w') :
    wp (machine allowed) G (attachAuthorized d device vm node current seen) post w := by
  unfold attachAuthorized
  rw [wp_bind]
  refine wp_imp (wp_of_approaches (calls_usbAuthorizationGuard d device) hG) fun r w₁ hw₁ => ?_
  cases r with
  | error e => exact hleave _ w₁ hw₁
  | ok armed =>
      have hG₁ : ∀ w', Approached w w' → ∀ op, op.Approaches device → ∀ w'',
          Approached w' w'' → G w'' op :=
        fun w' hw' op hop w'' hw'' => hG op hop w'' (hw'.trans hw'')
      rw [andThen_ok, wp_bind, wp_attempt]
      refine wp_claimUsb (hG₁ w₁ hw₁) (fun e w' hw' => ?_) (fun w' hw' => ?_) (fun w' hw' => ?_)
      · exact wp_rollback_throw (hG₁ w' (hw₁.trans hw')) fun w'' hw'' =>
          hleave (.error e) w'' ((hw₁.trans hw').trans hw'')
      · exact wp_rollback (hG₁ w' (hw₁.trans hw')) fun w'' hw'' =>
          hleave (.ok ()) w'' ((hw₁.trans hw').trans hw'')
      · refine wp_imp (hclaim armed w' (hw₁.trans hw')) fun r w'' h => ?_
        cases r with
        | ok claim => exact h
        | error e =>
            exact h

/-- What a claim knows of the VM: what the preflight saw, or else how things are now. -/
def World.view (w : World) (vm : Vm) (seen : Option (String × List LivePort)) :
    String × List LivePort :=
  seen.getD (w.generation vm.socket, w.ports vm.socket)

def World.reusable (w : World) (device : UsbDevice) (vm : Vm) (view : String × List LivePort) :
    Option UInt8 :=
  reusablePort (w.known device) device vm.name view.1 view.2

def World.freshClaim (w : World) (device : UsbDevice) (vm : Vm) (view : String × List LivePort)
    (port : UInt8) : PortClaim where
  port := port
  stalePort := (stalePort (w.known device) vm.name view.1 view.2).filter (· ≠ port)
  generation := view.1
  attached := true

theorem view_preflight {w' : World} {vm : Vm} (hsockets : w'.sockets = w.sockets) :
    (w'.view vm (w.preflight d device vm)).1 = w.generation vm.socket := by
  unfold World.view World.preflight
  split
  · rfl
  · simp [World.generation, hsockets]

theorem view_preflight_approached {w' : World} {vm : Vm} (h : Approached w w') :
    w'.view vm (w.preflight d device vm) = (w.generation vm.socket, w.ports vm.socket) := by
  unfold World.view World.preflight
  split
  · rfl
  · simp [World.generation, h.sockets, h.ports]

theorem exists_of_reusablePort {known : Option UsbPortBinding} {vmName generation : String}
    {live : List LivePort} {port : UInt8}
    (h : reusablePort known device vmName generation live = some port) : ∃ binding,
      known = some binding ∧ binding.vm = vmName ∧ binding.socketGeneration = generation ∧
        binding.port = port := by
  unfold reusablePort at h
  split at h
  case h_1 binding hfilter =>
    obtain ⟨hknown, hcurrent⟩ := Option.filter_eq_some_iff.1 hfilter
    simp only [bindingCurrent, Bool.and_eq_true, beq_iff_eq] at hcurrent
    split at h
    · exact ⟨binding, hknown, hcurrent.1.1, hcurrent.1.2, Option.some.inj h⟩
    · cases h
  case h_2 => cases h

theorem exists_of_reusable {vm : Vm} {view : String × List LivePort} {port : UInt8}
    (h : w.reusable device vm view = some port) : ∃ binding, w.known device = some binding ∧
      binding.vm = vm.name ∧ binding.socketGeneration = view.1 ∧ binding.port = port :=
  exists_of_reusablePort h

theorem wp_claimPort {vm : Vm} {node : String} {seen : Option (String × List LivePort)}
    {post : Except Error PortClaim → World → Prop}
    (hquiet : ∀ op : Op, op.Observes → G w op) (herror : ∀ e, post (.error e) w)
    (hreuse : ∀ port, w.reusable device vm (w.view vm seen) = some port → post (.ok
      { port, stalePort := none, generation := (w.view vm seen).1, attached := false }) w)
    (hattach : w.reusable device vm (w.view vm seen) = none → G w (.usbAttach vm node) ∧
      ∀ c, allowed w (.usbAttach vm node) c →
        post (c.result "Crosvm command failed" (w.freshClaim device vm (w.view vm seen) c.port))
          (react w (.usbAttach vm node) c).2) :
    wp (machine allowed) G (claimPort device vm node seen) post w := by
  have hclaim : wp (machine allowed) G
      (claimFrom device vm node (w.known device) (w.view vm seen)) post w := by
    have hreusable : reusablePort (w.known device) device vm.name (w.view vm seen).1
        (w.view vm seen).2 = w.reusable device vm (w.view vm seen) := rfl
    rw [claimFrom, hreusable]
    cases hport : w.reusable device vm (w.view vm seen) with
    | some port => exact hreuse port hport
    | none =>
        obtain ⟨hG, hpost⟩ := hattach hport
        rw [usbAttach, wp_bind, wp_operation]
        refine ⟨hG, fun c hc => ?_⟩
        have h := hpost c hc
        cases hfail : c.fail
        · simpa [react, Choice.result, hfail, World.freshClaim] using h
        · simpa [react, Choice.result, hfail] using h
  unfold claimPort
  rw [readMemory, wp_bind, wp_operation]
  refine ⟨hquiet _ (by trivial), fun _ _ => ?_⟩
  cases seen with
  | some x => exact hclaim
  | none =>
      rw [react, andThen_ok, wp_bind, socketGeneration, wp_operation]
      refine ⟨hquiet _ (by trivial), fun _ _ => ?_⟩
      rw [react, andThen_ok, wp_bind, usbList, wp_operation]
      refine ⟨hquiet _ (by trivial), fun c _ => ?_⟩
      cases hfail : c.fail
      · simp only [react, Choice.result, hfail]
        exact hclaim
      · simp only [react, Choice.result, hfail]
        exact herror _

/-- The VM an attach call settles on in this world. -/
def World.chosen (w : World) (device : UsbDevice) (rule : RuleMatch)
    (requestedVm : Option String) : Option String :=
  chooseVm requestedVm rule w.memory.persistent.selectedVms device.persistentId

def World.called (w : World) (device : UsbDevice) (rule : RuleMatch)
    (requestedVm : Option String) : World :=
  w.record (.entered (.attachOneUsb device rule requestedVm))

theorem wp_attachOneUsb {rule : RuleMatch} {requestedVm : Option String}
    {post : Except Error Unit → World → Prop}
    (henter : G w (.enter (.attachOneUsb device rule requestedVm)))
    (hquiet : ∀ op : Op, op.Observes → G (w.called device rule requestedVm) op)
    (hpending : w.chosen device rule requestedVm = none → wp (machine allowed) G (do
      if ← insertPending device.persistentId then
        notify (.usbSelectVm device rule.allowedVms)) post (w.called device rule requestedVm))
    (hchosen : ∀ c, allowed w (.enter (.attachOneUsb device rule requestedVm)) c →
      ∀ vmName, w.chosen device rule requestedVm = some vmName →
      wp (machine allowed) G (attachUsbTo d device rule vmName) post
        (w.called device rule requestedVm)) :
    wp (machine allowed) G (attachOneUsb d device rule requestedVm) post w := by
  rw [attachOneUsb, wp_bind, enter, wp_operation]
  refine ⟨henter, fun c hc => ?_⟩
  rw [react, andThen_ok, wp_bind, readMemory, wp_operation]
  refine ⟨hquiet (.read .state) trivial, fun _ _ => ?_⟩
  rw [react, andThen_ok]
  have hchoose : chooseVm requestedVm rule (w.record (.entered (.attachOneUsb device rule
      requestedVm))).memory.persistent.selectedVms device.persistentId =
      w.chosen device rule requestedVm := rfl
  simp only [hchoose]
  cases hvm : w.chosen device rule requestedVm with
  | none => exact hpending hvm
  | some vmName => exact hchosen c hc vmName hvm

theorem calls_pending (device : UsbDevice) (rule : RuleMatch) {S : Op → Prop}
    (hobserves : ∀ op, op.Observes → S op)
    (hpending : S (.update (.pendingInsert device.persistentId))) :
    Calls S (do
      if ← insertPending device.persistentId then
        notify (.usbSelectVm device rule.allowedVms)) :=
  calls_bind (calls_insertPending hobserves hpending) fun _ =>
    calls_ite (calls_request (hobserves _ trivial)) (by trivial)

/-- Nothing an attach calls after its entry changes whose attach it is. -/
theorem attaching_react {op : Op} (hop : op.Attaches) (w : World) (c : Choice) :
    (react w op c).2.attaching = w.attaching := by
  obtain hlog | ⟨effect, hlog, hof⟩ := react_log w op c
  · rw [World.attaching, hlog, World.attaching]
  · rw [World.attaching, hlog, World.attaching, List.findSome?_cons]
    cases effect with
    | entered entry =>
        obtain rfl : op = .enter entry := hof
        cases entry <;> first | rfl | exact hop.elim
    | _ => rfl

structure Before (w w' : World) : Prop where
  daemon : w'.daemon = w.daemon
  sockets : w'.sockets = w.sockets
  attaching : w'.attaching = w.attaching
  log : ∃ news, w'.log = news ++ w.log ∧
    ∀ vm node generation plugged reply, .usbAttach vm node generation plugged reply ∉ news

namespace Before

variable {w₁ w₂ : World}

theorem refl (w : World) : Before w w := ⟨rfl, rfl, rfl, [], rfl, by simp⟩

theorem of_approached (h : Approached w w₁) : Before w w₁ := by
  obtain ⟨news, hlog, hpassing⟩ := h.log
  exact ⟨h.daemon, h.sockets, h.attaching, news, hlog, fun _ _ _ _ _ hmem => hpassing _ hmem⟩

theorem trans (h₁ : Before w w₁) (h₂ : Before w₁ w₂) : Before w w₂ := by
  obtain ⟨news₁, hlog₁, hnone₁⟩ := h₁.log
  obtain ⟨news₂, hlog₂, hnone₂⟩ := h₂.log
  refine ⟨h₂.daemon.trans h₁.daemon, h₂.sockets.trans h₁.sockets,
    h₂.attaching.trans h₁.attaching, news₂ ++ news₁, ?_, ?_⟩
  · rw [hlog₂, hlog₁, List.append_assoc]
  · intro vm node generation plugged reply hmem
    rcases List.mem_append.1 hmem with h | h
    · exact hnone₂ _ _ _ _ _ h
    · exact hnone₁ _ _ _ _ _ h

theorem react {op : Op} (hattaches : op.Attaches) (hop : ∀ vm node, op ≠ .usbAttach vm node)
    (w : World) (c : Choice) : Before w (react w op c).2 := by
  refine ⟨react_daemon w op c, react_sockets w op c, attaching_react hattaches w c, ?_⟩
  obtain hlog | ⟨effect, hlog, hof⟩ := react_log w op c
  · exact ⟨[], hlog, by simp⟩
  · refine ⟨[effect], hlog, fun vm node generation plugged reply hmem => ?_⟩
    rw [← List.mem_singleton.1 hmem] at hof
    exact hop vm node hof

end Before

theorem wp_before {α : Type} {p : Act α}
    (hp : Calls (fun op => (op.Attaches ∧ ∀ vm node, op ≠ .usbAttach vm node) ∧
      ∀ w', G w' op) p) :
    wp (machine allowed) G p (fun _ => Before w) w := by
  refine wp_of_calls hp ?_ ?_ (.refl w)
  · rintro w₁ _ rfl h
    exact h
  · rintro op hop w₁ h
    refine ⟨hop.2 w₁, ?_⟩
    rintro r w₂ ⟨c, _, hreact⟩
    have hstep := Before.react hop.1.1 hop.1.2 w₁ c
    rw [hreact] at hstep
    exact h.trans hstep

/-- The world a port is claimed in, from the one the call found: either nothing the manager
remembers has changed, or the device was taken from another VM and is forgotten. -/
structure AtClaim (w : World) (device : UsbDevice) (vmName node : String) (w' : World) :
    Prop where
  before : Before w w'
  remembered : (Approached w w' ∧ ∀ other ∈ w.memory.usbVms.lookup node, other = vmName) ∨
    (Forgotten device node w' ∧ ∃ other ∈ w.memory.usbVms.lookup node, other ≠ vmName)

def Op.Prepares (device : UsbDevice) : Op → Prop
  | .enter (.detachOneUsb other permanent) => other = device ∧ permanent = false
  | .usbDetach _ _ => True
  | op => op.Approaches device ∨ ∃ node, op.Forgets device node false

theorem prepares_of_approaches {op : Op} (h : op.Approaches device) : op.Prepares device := by
  cases op <;> first | exact .inl h | exact h.elim

theorem prepares_of_forgets {op : Op} {node : String} (h : op.Forgets device node false) :
    op.Prepares device := by
  cases op <;> first | exact .inr ⟨node, h⟩ | exact h.elim

theorem ne_usbAttach_of_prepares {op : Op} (h : op.Prepares device) (vm : Vm) (node : String) :
    op ≠ .usbAttach vm node := by
  rintro rfl
  obtain h | ⟨_, h⟩ := h
  · exact h
  · exact h

theorem attaches_of_prepares {op : Op} (h : op.Prepares device) : op.Attaches := by
  have hcases : op.Approaches device ∨ (∃ node, op.Forgets device node false) → op.Attaches := by
    rintro (h | ⟨_, h⟩)
    · exact attaches_of_approaches h
    · exact attaches_of_forgets h
  cases op with
  | enter entry =>
      cases entry with
      | detachOneUsb other permanent => trivial
      | _ => exact hcases h
  | usbDetach vm port => trivial
  | _ => exact hcases h

/-- A device taken from another VM: every way out leaves the sockets and no attach command. -/
theorem wp_handOver_detach (hG : ∀ op : Op, op.Prepares device → ∀ w', G w' op) :
    wp (machine allowed) G (detachOneUsb d device false) (fun r w' => Before w w' ∧
      (r = .ok () → ∀ node ∈ device.deviceNode, Forgotten device node w')) w := by
  have hquiet : ∀ op : Op, op.Observes → op.Approaches device := fun op hop => by
    cases op <;> trivial
  have hobserves : ∀ op : Op, op.Observes → op.Prepares device := fun op hop =>
    prepares_of_approaches (hquiet op hop)
  have hcalls : Calls (fun op => op.Prepares device) (detachOneUsb d device false) :=
    calls_detachOneUsb ⟨rfl, rfl⟩ hobserves (fun _ _ => trivial) fun _ _ _ =>
      prepares_of_forgets
  have hbefore : wp (machine allowed) G (detachOneUsb d device false) (fun _ => Before w) w :=
    wp_before (Program.calls_mono hcalls fun op hop =>
      ⟨⟨attaches_of_prepares hop, ne_usbAttach_of_prepares hop⟩, hG op hop⟩)
  have henter := hG (.enter (.detachOneUsb device false)) ⟨rfl, rfl⟩ w
  refine wp_mono (wp_and hbefore (wp_detachOneUsb_forgets henter
    (fun op hop => hG op (hobserves op hop)) (fun vm port => hG (.usbDetach vm port) trivial)
    fun node op hop => hG op (prepares_of_forgets hop))) (fun _ _ h => h.1) fun _ _ h => h

theorem wp_attachUsbTo_claim {rule : RuleMatch} {vmName : String}
    {post : Except Error Unit → World → Prop}
    (hG : ∀ op : Op, op.Prepares device → ∀ w', G w' op)
    (hleave : ∀ r w', Before w w' → post r w')
    (hclaim : ∀ vm node current armed w', vmName ∈ allowedVms rule → d.vm vmName = some vm →
      device.deviceNode = some node → AtClaim w device vmName node w' →
      wp (machine allowed) G (claimPort device vm node (w.preflight d device vm))
        (fun r w'' => match r with
          | .ok claim =>
            wp (machine allowed) G (finishAttach d device vm node current claim) post w''
          | .error e => wp (machine allowed) G (do rollback device armed; throw e) post w'') w') :
    wp (machine allowed) G (attachUsbTo d device rule vmName) post w := by
  have happroaches : ∀ op : Op, op.Approaches device → ∀ w', G w' op := fun op hop =>
    hG op (prepares_of_approaches hop)
  have hquiet : ∀ op : Op, op.Observes → G w op := fun op hop =>
    happroaches op (by cases op <;> trivial) w
  refine wp_attachUsbTo hquiet (fun e => hleave _ w (.refl w)) fun vm node hin hvm hnode => ?_
  rw [wp_bind]
  refine wp_handOver (fun hsame => ?_) fun other hother hne => ?_
  · rw [andThen_ok]
    refine wp_attachAuthorized (fun op hop w' _ => happroaches op hop w')
      (fun r w' hw' => hleave r w' (.of_approached hw')) fun armed w' hw' => ?_
    exact hclaim vm node _ armed w' hin hvm hnode ⟨.of_approached hw', .inl ⟨hw', hsame⟩⟩
  · refine wp_imp (wp_handOver_detach hG) fun r w₁ h₁ => ?_
    obtain ⟨hbefore, hforgotten⟩ := h₁
    cases r with
    | error e => exact hleave _ w₁ hbefore
    | ok _ =>
        rw [andThen_ok]
        refine wp_attachAuthorized (fun op hop w' _ => happroaches op hop w')
          (fun r w' hw' => hleave r w' (hbefore.trans (.of_approached hw'))) fun armed w' hw' => ?_
        refine hclaim vm node _ armed w' hin hvm hnode
          ⟨hbefore.trans (.of_approached hw'), .inr ⟨?_, other, hother, hne⟩⟩
        exact (hforgotten rfl node hnode).approached hw'

theorem wp_attaching {α : Type} {p : Act α} (hp : Calls Op.Attaches p)
    (hw : w.attaching = some device) :
    wp (machine allowed) (fun w _ => w.attaching = some device) p
      (fun _ w => w.attaching = some device) w := by
  refine wp_of_calls hp ?_ ?_ hw
  · rintro w₁ _ rfl h
    exact h
  · rintro op hop w₁ h
    refine ⟨h, ?_⟩
    rintro r w₂ ⟨c, _, hreact⟩
    have hstep := attaching_react hop w₁ c
    rw [hreact] at hstep
    exact hstep.trans h

/-- An attach from its entry on, by what each of its calls keeps while it is the latest one. -/
theorem wp_attachOneUsb_assigns {J : World → Prop} {rule : RuleMatch} {requestedVm : Option String}
    (henter : G w (.enter (.attachOneUsb device rule requestedVm)))
    (hw : J (w.called device rule requestedVm))
    (hassigns : ∀ op : Op, op.Assigns device → ∀ w, w.attaching = some device → J w →
      G w op ∧ ∀ c, allowed w op c → J (react w op c).2) :
    wp (machine allowed) G (attachOneUsb d device rule requestedVm) (fun _ => J) w := by
  have hattaching : (w.called device rule requestedVm).attaching = some device := rfl
  have hcalls : ∀ {p : Act Unit}, Calls (Op.Assigns device) p →
      wp (machine allowed) G p (fun _ => J) (w.called device rule requestedVm) := by
    intro p hp
    refine wp_imp (wp_of_calls (I := fun w => w.attaching = some device ∧ J w) hp ?_ ?_
      ⟨hattaching, hw⟩) fun _ _ h => h.2
    · rintro w₁ _ rfl h
      exact h
    · rintro op hop w₁ ⟨hattaching₁, hw₁⟩
      obtain ⟨hG, hJ⟩ := hassigns op hop w₁ hattaching₁ hw₁
      refine ⟨hG, ?_⟩
      rintro r w₂ ⟨c, hc, hreact⟩
      obtain rfl : (react w₁ op c).2 = w₂ := congrArg Prod.snd hreact
      exact ⟨(attaching_react (attaches_of_assigns hop) w₁ c).trans hattaching₁, hJ c hc⟩
  refine wp_attachOneUsb henter (fun op hop => ?_) (fun _ => ?_) fun _ _ vmName _ => ?_
  · exact (hassigns op (assigns_of_observes hop) _ hattaching hw).1
  · exact hcalls (calls_pending device rule (fun op => assigns_of_observes) rfl)
  · exact hcalls (calls_attachUsbTo d device rule vmName)

end Rules

end GhafDeviceManager
