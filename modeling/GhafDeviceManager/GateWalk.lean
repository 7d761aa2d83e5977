import GhafDeviceManager.Executions
import GhafDeviceManager.GateSafety

/-!
# The walk of a pass

The walk lists the devices of the bus and the interfaces of each, and looks at each interface
before it writes. Devices come and go meanwhile, but behind the closed gate nothing of a routed
plug-in is bound again once the walk has taken it off.
-/

namespace GhafDeviceManager

open Fallible UsbGate

theorem calls_settleInterface_of {S : Op → Prop} {isRouted : Bool} {interface : String}
    (hdriver : S (.driver interface)) (hrelease : S (.release interface))
    (hprobe : isRouted = false → S (.probe interface)) :
    Calls S (settleInterface isRouted interface) := by
  refine calls_bind (calls_request hdriver) fun value => ?_
  split
  · exact calls_ite (calls_warnOnError (calls_request hrelease)) (by trivial)
  · exact calls_warnOnError (calls_request (hprobe rfl))
  · trivial

/-- What holds on as long as no interface of the plug-in is bound. -/
def Lasts (k : ℕ) (J : UsbBus → Prop) : Prop :=
  ∀ before after, BindsNone k before after → J before → J after

/-- No interface of the plug-in with this name is bound to a driver the gate would take off. -/
def SettledAt (k : ℕ) (interface : String) (bus : UsbBus) : Prop :=
  ∀ entry ∈ bus.entries, entry.isInterface = true → entry.plugged = k → entry.name = interface →
    ¬entry.occupied

theorem lasts_settled (k : ℕ) (interface : String) : Lasts k (SettledAt k interface) := by
  rintro before after hbinds h entry hentry hinterface hk rfl hoccupied
  obtain ⟨old, hold, hname, hinterface', hk', hoccupied'⟩ :=
    occupied_of_bindsNone hbinds hentry hinterface hk hoccupied
  exact h old hold hinterface' hk' hname hoccupied'

theorem settled_of_spares {k : ℕ} {interface : String} {bus : UsbBus}
    (h : SparesPlugIn k bus interface) : SettledAt k interface bus :=
  fun entry hentry hinterface hk hname _ => h entry hentry hinterface hk hname

section Walk

variable {allowed : World → Op → Choice → Prop} {k : ℕ} {routed : List String}
  {name interface : String} {w w₁ : World} {J : UsbBus → Prop}

theorem behind_hotplug (hJ : Lasts k J) (hw : Hotplug w w₁) (h : Behind k routed w ∧ J w.bus) :
    Behind k routed w₁ ∧ J w₁.bus := by
  obtain ⟨hbehind, hbinds⟩ := h.1.hotplug hw
  exact ⟨hbehind, hJ _ _ hbinds h.2⟩

/-- Probes in the walk are for interfaces of devices outside the routed set. -/
theorem tolerated_walk (hJ : Lasts k J) {op : Op} (hset : ∀ value, op ≠ .setAutoprobe value)
    (hprobe : ∀ target, op = .probe target → ∃ name, DeviceName name ∧ name ∉ routed ∧
      Text.startsWith target (interfacePrefix name) = true) :
    Tolerated allowed (ProbesSparing k) (fun w => Behind k routed w ∧ J w.bus) op := by
  rintro w ⟨hbehind, hj⟩
  have hspares : ∀ target, op = .probe target →
      Text.contains target ':' = true ∧ SparesPlugIn k w.bus target := by
    intro target htarget
    obtain ⟨name, hname, hout, hstart⟩ := hprobe target htarget
    exact ⟨contains_of_startsWith hstart,
      hbehind.guarded.spares hbehind.lawful hname hout hstart⟩
  refine ⟨fun target htarget => ⟨hbehind.guarded.closed, (hspares target htarget).2⟩,
    fun c _ hc => ?_⟩
  have hprobed : ∀ target ∈ op.probed,
      Text.contains target ':' = true ∧ SparesPlugIn k w.bus target := by
    intro target htarget
    cases op with
    | probe other =>
        obtain rfl := Option.some.inj htarget
        exact hspares other rfl
    | _ => cases htarget
  obtain ⟨hnext, hbinds⟩ := hbehind.react hc hset hprobed
  exact ⟨hnext, hJ _ _ hbinds hj⟩

theorem keeps_walk {α : Type} (hJ : Lasts k J) {p : Act α}
    (hp : Calls (Tolerated allowed (ProbesSparing k) fun w => Behind k routed w ∧ J w.bus) p) :
    Keeps (kernel allowed) (ProbesSparing k) (fun w => Behind k routed w ∧ J w.bus) p :=
  keeps_of_tolerated hp fun _ _ => behind_hotplug hJ

theorem keeps_settleInterface (hJ : Lasts k J) (hname : DeviceName name)
    (hstart : Text.startsWith interface (interfacePrefix name) = true) :
    Keeps (kernel allowed) (ProbesSparing k) (fun w => Behind k routed w ∧ J w.bus)
      (settleInterface (routed.contains name) interface) := by
  refine keeps_walk hJ (calls_settleInterface_of ?_ ?_ fun hout => ?_)
  · exact tolerated_walk hJ (by simp) (by simp)
  · exact tolerated_walk hJ (by simp) (by simp)
  · refine tolerated_walk hJ (by simp) fun target heq => ⟨name, hname, ?_, ?_⟩
    · simpa using hout
    · obtain rfl := Op.probe.inj heq
      exact hstart

theorem interfaces_yields (hJ : Lasts k J) : Yields (kernel allowed) (ProbesSparing k)
    (fun w => Behind k routed w ∧ J w.bus) (interfaces name)
    fun names => ∀ interface ∈ names,
      Text.startsWith interface (interfacePrefix name) = true := by
  intro w hw
  rw [interfaces, wp_kernel]
  refine fun w₁ hw₁ => ⟨probesSparing_of_probed rfl, fun c _ _ => ⟨behind_hotplug hJ hw₁ hw, ?_⟩⟩
  intro names hnames
  cases hfail : c.fail with
  | true => simp [react, Choice.result, hfail] at hnames
  | false =>
      obtain rfl : w₁.bus.interfaces name = names := by
        simpa [react, Choice.result, hfail] using hnames
      exact fun interface => mem_interfaces

theorem keeps_settleDevice (hJ : Lasts k J) (hname : DeviceName name) :
    Keeps (kernel allowed) (ProbesSparing k) (fun w => Behind k routed w ∧ J w.bus)
      (settleDevice routed name) := by
  refine keeps_of_yields (yields_bind (R := fun _ => True)
    (yields_attempt (interfaces_yields hJ)) fun r hr => ?_)
  cases r with
  | error e => exact yields_pure trivial
  | ok names =>
      refine yields_of_keeps fun w hw => wp_forM (fun interface hinterface => ?_) hw
      exact keeps_settleInterface hJ hname (hr names rfl interface hinterface)

theorem keeps_settleDrivers (hJ : Lasts k J) : Keeps (kernel allowed) (ProbesSparing k)
    (fun w => Behind k routed w ∧ J w.bus) (settleDrivers routed) := by
  have henter : Keeps (kernel allowed) (ProbesSparing k) (fun w => Behind k routed w ∧ J w.bus)
      (enter (.settleDrivers routed)) :=
    keeps_walk hJ (calls_request (tolerated_walk hJ (by simp) (by simp)))
  refine keeps_bind henter fun _ => ?_
  refine keeps_of_yields (yields_bind (R := fun _ => True)
    (deviceNames_yields fun _ _ => behind_hotplug hJ) fun names hnames => ?_)
  exact yields_of_keeps fun w hw => wp_forM (fun name hname =>
    keeps_settleDevice hJ (hnames name hname)) hw

end Walk

/-! ## A walk whose writes succeed -/

theorem driver_of_mem {bus : UsbBus} (h : bus.Lawful) {entry : UsbEntry}
    (hentry : entry ∈ bus.entries) : bus.driver entry.name = entry.boundTo := by
  have hfound : bus.entry entry.name = some entry := by
    cases hfind : bus.entry entry.name with
    | none =>
        have hnot := List.find?_eq_none.1 hfind entry hentry
        simp at hnot
    | some other =>
        have hname : other.name = entry.name := by simpa using List.find?_some hfind
        rw [h.eq_of_name hentry (List.mem_of_find?_eq_some hfind) hname]
  rw [UsbBus.driver, hfound]
  rfl

section Settling

variable {allowed : World → Op → Choice → Prop} {k : ℕ} {routed : List String}
  {name interface : String} {w w' w₁ : World} {tr : List (World × Op)}

theorem settled_of_driver (hlawful : w.bus.Lawful)
    (hdriver : ∀ driver ∈ w.bus.driver interface, releasable driver = false) :
    SettledAt k interface w.bus := by
  rintro entry hentry - - rfl ⟨driver, hbound, hreleasable⟩
  rw [driver_of_mem hlawful hentry] at hdriver
  rw [hdriver driver hbound] at hreleasable
  cases hreleasable

theorem wp_settleInterface_settled (hsucceeds : ∀ w op c, allowed w op c → c.fail = false)
    (hname : DeviceName name) (hstart : Text.startsWith interface (interfacePrefix name) = true)
    (hw : Behind k routed w) : Fallible.wp (kernel allowed) (ProbesSparing k)
      (settleInterface (routed.contains name) interface)
      (fun _ w' => SettledAt k interface w'.bus) w := by
  cases hrouted : routed.contains name with
  | false =>
      have hout : name ∉ routed := by simpa using hrouted
      have hkeeps : Keeps (kernel allowed) (ProbesSparing k) (fun w => Behind k routed w ∧ True)
          (settleInterface (routed.contains name) interface) :=
        keeps_settleInterface (J := fun _ => True) (fun _ _ _ _ => trivial) hname hstart
      rw [hrouted] at hkeeps
      refine wp_imp (hkeeps w ⟨hw, trivial⟩) fun r w' hw' => settled_of_spares ?_
      exact hw'.1.guarded.spares hw'.1.lawful hname hout hstart
  | true =>
      rw [settleInterface, wp_bind, driver, wp_kernel]
      refine fun w₁ hw₁ => ⟨probesSparing_of_probed rfl, fun _ _ _ => ?_⟩
      rw [react, andThen_ok]
      cases hdriver : w₁.bus.driver interface with
      | none => exact settled_of_driver hw₁.lawful (by simp [hdriver])
      | some bound =>
          dsimp only
          split
          case isFalse hkept =>
            refine settled_of_driver hw₁.lawful fun other hother => ?_
            obtain rfl := Option.some.inj (hdriver.symm.trans hother)
            simpa using hkept
          case isTrue =>
            rw [wp_warnOnError, release, wp_kernel]
            refine fun w₂ _ => ⟨probesSparing_of_probed rfl, fun c hc hanswers => ?_⟩
            rintro entry hentry - - hinterface ⟨driver, hbound, -⟩
            have hnone := hanswers.released interface rfl (hsucceeds _ _ _ hc) entry hentry
              hinterface
            rw [UsbEntry.boundTo, hnone] at hbound
            cases hbound

theorem wp_settleInterfaces_settled (hsucceeds : ∀ w op c, allowed w op c → c.fail = false)
    (hname : DeviceName name) {names : List String}
    (hnames : ∀ interface ∈ names, Text.startsWith interface (interfacePrefix name) = true)
    (hw : Behind k routed w) : Fallible.wp (kernel allowed) (ProbesSparing k)
      (names.forM (settleInterface (routed.contains name)))
      (fun r w' => r = .ok () → ∀ interface ∈ names, SettledAt k interface w'.bus) w := by
  refine wp_imp (wp_forM_rest (I := fun rest w' =>
    (∀ interface ∈ rest, Text.startsWith interface (interfacePrefix name) = true) ∧
      Behind k routed w' ∧
      ∀ interface ∈ names, interface ∉ rest → SettledAt k interface w'.bus) ?_ ?_) ?_
  · rintro target rest w₁ ⟨hbegins, hbehind, hdone⟩
    have hstart := hbegins target List.mem_cons_self
    have hlasts : Lasts k fun bus =>
        ∀ interface ∈ names, interface ∉ target :: rest → SettledAt k interface bus :=
      fun before after hbinds h interface hinterface hout =>
        lasts_settled k interface before after hbinds (h interface hinterface hout)
    have hboth := wp_and (keeps_settleInterface hlasts hname hstart w₁ ⟨hbehind, hdone⟩)
      (wp_settleInterface_settled hsucceeds hname hstart hbehind)
    refine wp_mono hboth (fun _ _ hG => hG.1) fun r w₂ hw₂ _ => ?_
    obtain ⟨⟨hbehind₂, hdone₂⟩, htarget⟩ := hw₂
    refine ⟨fun other hother => hbegins other (List.mem_cons_of_mem target hother), hbehind₂, ?_⟩
    intro interface hinterface hout
    by_cases heq : interface = target
    · rw [heq]
      exact htarget
    · exact hdone₂ interface hinterface (by simp [heq, hout])
  · exact ⟨hnames, hw, fun interface hinterface hout => absurd hinterface hout⟩
  · exact fun r w' hw' hr interface hinterface => (hw' hr).2.2 interface hinterface (by simp)

theorem settleDevice_inv
    (hlists : ∀ w name c, allowed w (.interfaces name) c → c.fail = false)
    (hexec : Exec (kernel allowed) (settleDevice routed name).run w tr w' (some (.ok ()))) :
    ∃ w₁ rest, tr = (w₁, .interfaces name) :: rest ∧ Hotplug w w₁ ∧
      Exec (kernel allowed)
        ((w₁.bus.interfaces name).forM (settleInterface (routed.contains name))).run w₁ rest w'
        (some (.ok ())) := by
  obtain ⟨r, w₂, tr₁, tr₂, hlist, hrest, rfl⟩ := exec_bind_ok hexec
  obtain ⟨w₁, reply, hmove, ⟨c, hc, hreact⟩, rfl, hr⟩ := exec_request_inv (exec_attempt hlist)
  have hfail := hlists _ _ _ hc.1
  obtain ⟨rfl, rfl⟩ : .ok (w₁.bus.interfaces name) = reply ∧ w₁ = w₂ := by
    simpa [react, Choice.result, hfail] using hreact
  obtain rfl : r = .ok (w₁.bus.interfaces name) := hr
  exact ⟨w₁, tr₂, rfl, hmove, hrest⟩

theorem settleInterfaces_calls {names : List String} {isRouted : Bool}
    {r : Option (Except Error Unit)}
    (hexec : Exec (kernel allowed) (names.forM (settleInterface isRouted)).run w tr w' r) :
    ∀ e ∈ tr, ∀ name, e.2 ≠ .interfaces name := by
  have hcalls : Calls (fun op => ∀ name, op ≠ .interfaces name)
      (names.forM (settleInterface isRouted)) :=
    calls_forM fun interface _ => calls_settleInterface_of (by simp) (by simp) (by simp)
  exact hexec.calls hcalls

theorem settleDevice_settles (hsucceeds : ∀ w op c, allowed w op c → c.fail = false)
    (hname : DeviceName name) (hw : Behind k routed w)
    (hexec : Exec (kernel allowed) (settleDevice routed name).run w tr w' (some (.ok ())))
    {listed : String} (hlisted : (w₁, .interfaces listed) ∈ tr)
    (hinterface : interface ∈ w₁.bus.interfaces listed) : SettledAt k interface w'.bus := by
  obtain ⟨w₂, rest, rfl, hmove, hloop⟩ :=
    settleDevice_inv (fun w name c => hsucceeds w (.interfaces name) c) hexec
  obtain heq | hrest := List.mem_cons.1 hlisted
  · obtain ⟨rfl, hop⟩ := Prod.mk.inj heq
    obtain rfl := Op.interfaces.inj hop
    have hsettled := wp_settleInterfaces_settled hsucceeds hname
      (fun other (hother : other ∈ w₁.bus.interfaces listed) => mem_interfaces hother)
      (hw.hotplug hmove).1
    exact (Program.wp_sound hsettled hloop).2 _ rfl rfl interface hinterface
  · exact absurd rfl (settleInterfaces_calls hloop _ hrest listed)

theorem keeps_settleDevices {J : UsbBus → Prop} (hJ : Lasts k J) {names : List String}
    (hnames : ∀ name ∈ names, DeviceName name) : Keeps (kernel allowed) (ProbesSparing k)
      (fun w => Behind k routed w ∧ J w.bus) (names.forM (settleDevice routed)) :=
  fun _ hw => wp_forM (fun name hname => keeps_settleDevice hJ (hnames name hname)) hw

/-- The walk is over the devices it finds, each called after a device. -/
theorem settleDrivers_inv
    (hexec : Exec (kernel allowed) (settleDrivers routed).run w tr w' (some (.ok ()))) :
    ∃ w₁ w₂ rest, tr = (w₁, .enter (.settleDrivers routed)) :: (w₂, .deviceNames) :: rest ∧
      (∀ name ∈ w₂.bus.deviceNames, DeviceName name) ∧
      (∀ k, Behind k routed w → Behind k routed w₂) ∧
      Exec (kernel allowed) (w₂.bus.deviceNames.forM (settleDevice routed)).run w₂ rest w'
        (some (.ok ())) := by
  obtain ⟨_, u, tr₁, tr₂, henter, hrest, rfl⟩ := exec_bind_ok hexec
  obtain ⟨w₁, _, hmove, ⟨c, hc, hreact⟩, rfl, -⟩ := exec_request_ok henter
  obtain rfl : (react w₁ (.enter (.settleDrivers routed)) c).2 = u := congrArg Prod.snd hreact
  obtain ⟨names, u', tr₃, tr₄, hlist, hloop, rfl⟩ := exec_bind_ok hrest
  obtain ⟨w₂, reply, hmove', ⟨c', hc', hreact'⟩, rfl, hreply⟩ := exec_request_ok hlist
  obtain rfl : w₂ = u' := congrArg Prod.snd hreact'
  obtain rfl : w₂.bus.deviceNames = names := by
    have hanswer : (react w₂ .deviceNames c').1 = .ok names :=
      (congrArg Prod.fst hreact').trans hreply
    cases hfail : c'.fail with
    | true => simp [react, Choice.result, hfail] at hanswer
    | false => simpa [react, Choice.result, hfail] using hanswer
  refine ⟨w₁, w₂, tr₄, rfl, fun name hname => hmove'.lawful.deviceName hname, fun k hw => ?_, hloop⟩
  have hentered := ((hw.hotplug hmove).1.react hc.2 (by simp) (by simp [Op.probed])).1
  exact (hentered.hotplug hmove').1

theorem settleDrivers_lists
    (hlists : ∀ w name c, allowed w (.interfaces name) c → c.fail = false)
    (hexec : Exec (kernel allowed) (settleDrivers routed).run w tr w' (some (.ok ())))
    (hlisted : (w₁, .interfaces name) ∈ tr) : ∃ u rest, rest <:+: tr ∧
      Exec (kernel allowed)
        ((w₁.bus.interfaces name).forM (settleInterface (routed.contains name))).run w₁ rest u
        (some (.ok ())) := by
  obtain ⟨u₁, u₂, walk, rfl, -, -, hloop⟩ := settleDrivers_inv hexec
  have hmem : (w₁, .interfaces name) ∈ walk := by simpa using hlisted
  obtain ⟨before, other, after, v, v', tr₁, tr₂, tr₃, -, -, hround, -, rfl, hround'⟩ :=
    exec_forM_of_mem hloop hmem
  obtain ⟨w₂, rest, rfl, -, hinterfaces⟩ := settleDevice_inv hlists hround
  obtain heq | hrest := List.mem_cons.1 hround'
  · obtain ⟨rfl, hop⟩ := Prod.mk.inj heq
    obtain rfl := Op.interfaces.inj hop
    refine ⟨v', rest, ?_, hinterfaces⟩
    exact ⟨(u₁, .enter (.settleDrivers routed)) :: (u₂, .deviceNames) ::
      (tr₁ ++ [(w₁, .interfaces name)]), tr₃, by simp⟩
  · exact absurd rfl (settleInterfaces_calls hinterfaces _ hrest name)

theorem settleDrivers_settles (hsucceeds : ∀ w op c, allowed w op c → c.fail = false)
    (hw : Behind k routed w)
    (hexec : Exec (kernel allowed) (settleDrivers routed).run w tr w' (some (.ok ())))
    (hlisted : (w₁, .interfaces name) ∈ tr) (hinterface : interface ∈ w₁.bus.interfaces name) :
    SettledAt k interface w'.bus := by
  obtain ⟨u₁, u₂, walk, rfl, hnames, hbehind, hloop⟩ := settleDrivers_inv hexec
  have hmem : (w₁, .interfaces name) ∈ walk := by simpa using hlisted
  obtain ⟨before, other, after, v, v', tr₁, tr₂, tr₃, hsplit, hbefore, hround, hafter, rfl,
    hround'⟩ := exec_forM_of_mem hloop hmem
  rw [hsplit] at hnames
  have hstart : Behind k routed v :=
    ((Program.wp_sound (keeps_settleDevices (J := fun _ => True) (fun _ _ _ _ => trivial)
      (fun name hname => hnames name (by simp [hname])) u₂ ⟨hbehind k hw, trivial⟩) hbefore).2
      _ rfl).1
  have hname : DeviceName other := hnames other (by simp)
  have hsettled := settleDevice_settles hsucceeds hname hstart hround hround' hinterface
  have hend : Behind k routed v' := ((Program.wp_sound (keeps_settleDevice (J := fun _ => True)
    (fun _ _ _ _ => trivial) hname v ⟨hstart, trivial⟩) hround).2 _ rfl).1
  exact ((Program.wp_sound (keeps_settleDevices (lasts_settled k interface)
    (fun name hname => hnames name (by simp [hname])) v' ⟨hend, hsettled⟩) hafter).2 _ rfl).2

theorem settleDrivers_enters {entered : List String}
    (hexec : Exec (kernel allowed) (settleDrivers routed).run w tr w' (some (.ok ())))
    (henter : (w₁, .enter (.settleDrivers entered)) ∈ tr) : entered = routed := by
  have hcalls : Calls (fun op => ∀ names, op = .enter (.settleDrivers names) → names = routed)
      (settleDrivers routed) := by
    have hother : ∀ op : Op, (∀ names, op ≠ .enter (.settleDrivers names)) →
        ∀ names, op = .enter (.settleDrivers names) → names = routed :=
      fun op hop names heq => absurd heq (hop names)
    refine calls_bind (calls_request (by simp)) fun _ => ?_
    refine calls_bind (calls_request (hother _ (by simp))) fun names =>
      calls_forM fun name _ => ?_
    refine calls_bind (calls_attempt (calls_request (hother _ (by simp)))) fun r => ?_
    cases r with
    | error e => trivial
    | ok names =>
        exact calls_forM fun interface _ => calls_settleInterface_of (hother _ (by simp))
          (hother _ (by simp)) fun _ => hother _ (by simp)
  exact hexec.calls hcalls _ henter entered rfl

/-- Outside the routed set, what is found without a driver is probed at once. -/
theorem settleInterface_probes
    (hexec : Exec (kernel allowed) (settleInterface false interface).run w tr w'
      (some (.ok ()))) : ∃ w₁ rest, tr = (w₁, .driver interface) :: rest ∧
        (w₁.bus.driver interface = none → ∃ w₂, rest = [(w₂, .probe interface)]) := by
  obtain ⟨found, u, tr₁, tr₂, hlook, hrest, rfl⟩ := exec_bind_ok hexec
  obtain ⟨w₁, reply, -, ⟨c, -, hreact⟩, rfl, hreply⟩ := exec_request_ok hlook
  obtain ⟨rfl, rfl⟩ : w₁.bus.driver interface = reply ∧ w₁ = u := Prod.mk.inj hreact
  obtain rfl : w₁.bus.driver interface = found := Except.ok.inj hreply
  refine ⟨w₁, tr₂, rfl, fun hnone => ?_⟩
  rw [hnone] at hrest
  obtain ⟨r, u', tr₃, tr₄, hprobe, hend, rfl⟩ := exec_bind_ok hrest
  obtain ⟨w₂, _, -, -, rfl, -⟩ := exec_request_inv (exec_attempt hprobe)
  obtain ⟨-, -, rfl⟩ := exec_pure hend
  exact ⟨w₂, rfl⟩

theorem settleDrivers_probes
    (hlists : ∀ w name c, allowed w (.interfaces name) c → c.fail = false)
    (hexec : Exec (kernel allowed) (settleDrivers routed).run w tr w' (some (.ok ())))
    (hlisted : (w₁, .interfaces name) ∈ tr) (hout : name ∉ routed)
    (hinterface : interface ∈ w₁.bus.interfaces name) : ∃ w₂, (w₂, .driver interface) ∈ tr ∧
      (w₂.bus.driver interface = none →
        ∃ w₃, [(w₂, .driver interface), (w₃, .probe interface)] <:+: tr) := by
  obtain ⟨u, rest, hinfix, hloop⟩ := settleDrivers_lists hlists hexec hlisted
  have hrouted : routed.contains name = false := by simpa using hout
  rw [hrouted] at hloop
  obtain ⟨v, v', tr', hitem, hinfix'⟩ := exec_forM_of_item hloop hinterface
  obtain ⟨w₂, rest', rfl, hprobes⟩ := settleInterface_probes hitem
  have hinfix := hinfix'.trans hinfix
  refine ⟨w₂, hinfix.subset List.mem_cons_self, fun hnone => ?_⟩
  obtain ⟨w₃, rfl⟩ := hprobes hnone
  exact ⟨w₃, hinfix⟩

end Settling

end GhafDeviceManager
