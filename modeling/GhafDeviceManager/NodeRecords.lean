import GhafDeviceManager.Isolation

/-!
# Which device a node's record is of

`usb_vms` is keyed by device node, while `observe` detects that a device is gone by its name. A
history of all calls tells for which plug-in a record was made.
-/

namespace GhafDeviceManager

open Fallible

/-! ## Histories -/

/-- Runs with every call made so far, newest first. -/
inductive History (allowed : World → Op → Choice → Prop) : World → List (World × Op) → Prop
  | start (d : Daemon) (hd : d.config.Valid) : History allowed { daemon := d } []
  | surroundings {w w' : World} {hist : List (World × Op)} (h : History allowed w hist)
      (hw : Surroundings w w') : History allowed w' hist
  | operation {w w' : World} {tr hist : List (World × Op)} {r : Except Error Unit} (o : Operation)
      (h : History allowed w hist)
      (hexec : Exec (machine allowed) (o.program w.daemon).run w tr w' (some r)) :
      History allowed w' (tr.reverse ++ hist)
  | restart {w w' : World} {tr hist : List (World × Op)} (o : Operation) (d : Daemon)
      (hd : d.config.Valid) (h : History allowed w hist)
      (hexec : Exec (machine allowed) (o.program w.daemon).run w tr w' none) :
      History allowed (w'.restart d) (tr.reverse ++ hist)

/-- The VM that a call records for the node. -/
def Op.recordsFor (node : String) : Op → Option String
  | .update (.usbVmsInsert other vm) => if other = node then some vm else none
  | _ => none

/-- The latest record made for the node, and the world it was made in. -/
def lastRecord (node : String) (hist : List (World × Op)) : Option (World × String) :=
  hist.findSome? fun e => (e.2.recordsFor node).map fun vm => (e.1, vm)

/-- A record is made by an attach, for the node of the device it is called for. -/
def RecordsItsDevice (w : World) (op : Op) : Prop :=
  ∀ node vm, op.recordsFor node = some vm →
    ∃ device, w.attaching = some device ∧ device.deviceNode = some node

section Lookup

variable {allowed : World → Op → Choice → Prop} {α : Type} {w w' : World} {node vm : String}
  {hist : List (World × Op)}

theorem usbVms_react {op : Op} {c : Choice}
    (h : (react w op c).2.memory.usbVms.lookup node = some vm) :
    op.recordsFor node = some vm ∨
      op.recordsFor node = none ∧ w.memory.usbVms.lookup node = some vm := by
  cases op with
  | update u =>
      cases u with
      | usbVmsInsert other v =>
          have hlookup : (w.memory.usbVms.insert other v).lookup node = some vm := h
          by_cases hother : other = node
          · subst hother
            rw [AList.lookup_insert] at hlookup
            exact .inl ((if_pos rfl).trans hlookup)
          · rw [AList.lookup_insert_ne (Ne.symm hother)] at hlookup
            exact .inr ⟨if_neg hother, hlookup⟩
      | usbVmsRemove other =>
          have hlookup : (w.memory.usbVms.erase other).lookup node = some vm := h
          by_cases hother : node = other
          · rw [hother, AList.lookup_erase] at hlookup
            cases hlookup
          · rw [AList.lookup_erase_ne hother] at hlookup
            exact .inr ⟨rfl, hlookup⟩
      | _ => exact .inr ⟨rfl, h⟩
  | authorize name value =>
      simp only [react] at h
      split at h <;> exact .inr ⟨rfl, h⟩
  | _ => exact .inr ⟨rfl, h⟩

/-- What the map holds after an execution was recorded in it last, or is there from before. -/
theorem usbVms_exec {p : Program Op Reply α} {tr : List (World × Op)} {o : Option α}
    (hexec : Exec (machine allowed) p w tr w' o)
    (h : w'.memory.usbVms.lookup node = some vm) :
    (∃ w₁ op, (w₁, op) ∈ tr ∧ op.recordsFor node = some vm ∧
        lastRecord node (tr.reverse ++ hist) = some (w₁, vm)) ∨
      w.memory.usbVms.lookup node = some vm ∧
        lastRecord node (tr.reverse ++ hist) = lastRecord node hist := by
  induction hexec generalizing hist with
  | done a w => exact .inr ⟨h, rfl⟩
  | stop p w => exact .inr ⟨h, rfl⟩
  | @call op next w w₁ w₂ w' r tr o henv hstep _ ih =>
      obtain rfl : w = w₁ := henv
      obtain ⟨c, _, hreact⟩ := hstep
      obtain rfl : (react w op c).2 = w₂ := congrArg Prod.snd hreact
      have hreverse : ((w, op) :: tr).reverse ++ hist = tr.reverse ++ (w, op) :: hist := by simp
      rw [hreverse]
      obtain ⟨w₁, op₁, hmem, hrecords, hlast⟩ | ⟨hlookup, hlast⟩ := @ih ((w, op) :: hist) h
      · exact .inl ⟨w₁, op₁, List.mem_cons_of_mem _ hmem, hrecords, hlast⟩
      · obtain hrecords | ⟨hnone, hbefore⟩ := usbVms_react hlookup
        · refine .inl ⟨w, op, List.mem_cons_self, hrecords, hlast.trans ?_⟩
          rw [lastRecord, List.findSome?_cons, hrecords, Option.map_some]
        · refine .inr ⟨hbefore, hlast.trans ?_⟩
          rw [lastRecord, List.findSome?_cons, hnone, Option.map_none, lastRecord]

end Lookup

section Attaches

variable {allowed : World → Op → Choice → Prop} {w : World} {d : Daemon} {op : Op}

def Op.Unrecording (op : Op) : Prop := ∀ node, op.recordsFor node = none

theorem Op.Unrecording.recordsItsDevice (hop : op.Unrecording) (w : World) :
    RecordsItsDevice w op := by
  intro node vm hrecords
  rw [hop node] at hrecords
  cases hrecords

theorem unrecording_of_glue (hop : op.Glue) : op.Unrecording := fun _ => by
  cases op with
  | update u => cases u <;> first | rfl | exact hop.elim
  | _ => rfl

theorem unrecording_of_gates (hop : op.Gates) : op.Unrecording := fun _ => by
  cases op with
  | update u => cases u <;> first | rfl | exact hop.elim
  | _ => rfl

theorem unrecording_of_sweeps (hop : op.Sweeps) : op.Unrecording := fun _ => by
  cases op with
  | update u => exact hop.elim
  | _ => rfl

theorem unrecording_of_clears (hop : op.Clears) : op.Unrecording := fun _ => by
  cases op with
  | update u => cases u <;> first | rfl | exact hop.elim
  | _ => rfl

theorem unrecording_of_pci (hop : op.Pci) : op.Unrecording := fun _ => by
  obtain ⟨device, hop | ⟨permanent, hop⟩⟩ := hop
  all_goals
    cases op with
    | update u => cases u <;> first | rfl | exact hop.elim
    | _ => rfl

theorem unrecording_of_detaches {device : UsbDevice} {permanent : Bool}
    (hop : op.Detaches device permanent) : op.Unrecording := fun _ => by
  cases op with
  | update u => cases u <;> first | rfl | exact hop.elim
  | _ => rfl

theorem node_of_assigns {device : UsbDevice} {node vm : String} (hop : op.Assigns device)
    (h : op.recordsFor node = some vm) : device.deviceNode = some node := by
  cases op with
  | update u =>
      cases u with
      | usbVmsInsert other v =>
          have hnode : device.deviceNode = some other := hop
          rw [Op.recordsFor] at h
          split at h
          case isTrue heq => rwa [heq] at hnode
          case isFalse => cases h
      | _ => cases h
  | _ => cases h

theorem wp_operation_recordsItsDevice (o : Operation) :
    (o.program d).wp (machine allowed) RecordsItsDevice (fun _ _ => True) w := by
  have hquiet : ∀ {op : Op}, op.Unrecording →
      Harmless allowed RecordsItsDevice (fun _ => True) op := fun hop w _ =>
    ⟨hop.recordsItsDevice w, fun _ _ => trivial⟩
  have hattach : ∀ device rule vm, Keeps (machine allowed) RecordsItsDevice (fun _ => True)
      (attachOneUsb d device rule vm) := by
    intro device rule vm w _
    refine wp_attachOneUsb_assigns ?_ trivial fun op hop w hattaching _ => ⟨?_, fun _ _ => trivial⟩
    · exact Op.Unrecording.recordsItsDevice (fun _ => rfl) w
    · exact fun node vm hrecords => ⟨device, hattaching, node_of_assigns hop hrecords⟩
  have hparts : PartsKeep allowed RecordsItsDevice (fun _ => True) d :=
    .of_ops (fun _ hop => hquiet (unrecording_of_glue hop))
      (fun _ hop => hquiet (unrecording_of_gates hop))
      (fun _ hop => hquiet (unrecording_of_sweeps hop))
      (fun _ hop => hquiet (unrecording_of_clears hop))
      (fun _ hop => hquiet (unrecording_of_pci hop)) hattach fun device permanent =>
        keeps_of_harmless (Program.calls_mono (calls_detachOneUsb_detaches d device permanent)
          fun _ hop => hquiet (unrecording_of_detaches hop))
  exact hparts.operation_keeps o w trivial

def OnRecord (w : World) (hist : List (World × Op)) : Prop :=
  ∀ node vm, w.memory.usbVms.lookup node = some vm → ∃ w₁, lastRecord node hist = some (w₁, vm) ∧
    ∃ device, w₁.attaching = some device ∧ device.deviceNode = some node

theorem OnRecord.exec {α : Type} {w' : World} {p : Program Op Reply α} {tr hist : List (World × Op)}
    {o : Option α} (h : OnRecord w hist) (hexec : Exec (machine allowed) p w tr w' o)
    (htr : ∀ e ∈ tr, RecordsItsDevice e.1 e.2) : OnRecord w' (tr.reverse ++ hist) := by
  intro node vm hlookup
  obtain ⟨w₁, op, hmem, hrecords, hlast⟩ | ⟨hbefore, hlast⟩ := usbVms_exec hexec hlookup
  · exact ⟨w₁, hlast, htr (w₁, op) hmem node vm hrecords⟩
  · rw [hlast]
    exact h node vm hbefore

theorem History.recorded {hist : List (World × Op)} (h : History allowed w hist) :
    OnRecord w hist := by
  induction h with
  | start d hd =>
      intro node vm hlookup
      cases hlookup
  | surroundings _ hw ih =>
      intro node vm hlookup
      rw [hw.memory] at hlookup
      exact ih node vm hlookup
  | operation o _ hexec ih =>
      exact ih.exec hexec (Program.wp_sound (wp_operation_recordsItsDevice o) hexec).1
  | restart o d hd _ _ _ =>
      intro node vm hlookup
      cases hlookup

end Attaches

/-! ## One pass -/

/-- Sysfs writes plug in and unplug nothing. -/
def plugsStay (w : World) (_ : Op) (c : Choice) : Prop :=
  ∀ bus ∈ c.bus, ∀ node, bus.plugged node = w.bus.plugged node

/-- No scanned device has the node, or another plug-in than the one the record was made for. -/
def Outdated (w : World) (hist : List (World × Op)) (node : String) : Prop :=
  (∀ device ∈ w.usbDevices, device.deviceNode ≠ some node) ∨
    ∀ w₁ vm, lastRecord node hist = some (w₁, vm) → w₁.bus.plugged node ≠ w.bus.plugged node

/-- Of each outdated record, an observation finds the device gone. -/
def Noticed (w : World) (hist : List (World × Op)) : Prop :=
  ∀ node vm, w.memory.usbVms.lookup node = some vm → Outdated w hist node →
    ∃ key device, w.memory.observedUsb.lookup key = some device ∧
      device.deviceNode = some node ∧ w.vanishedUsb key

/-- An attach of the device that has the node chose the VM since it was plugged in. -/
def Chosen (w : World) (hist : List (World × Op)) (node vm : String) : Prop :=
  ∃ w₁ device, lastRecord node hist = some (w₁, vm) ∧ w₁.attaching = some device ∧
    device.deviceNode = some node ∧ w₁.bus.plugged node = w.bus.plugged node

/-- At `w'`, the records are of devices that were scanned at `w`. -/
def Accurate (w w' : World) (hist : List (World × Op)) : Prop :=
  ∀ node vm, w'.memory.usbVms.lookup node = some vm →
    (∃ device ∈ w.usbDevices, device.deviceNode = some node) ∧ Chosen w hist node vm

section Observe

variable {allowed : World → Op → Choice → Prop} {w : World} {d : Daemon} {node : String}

theorem usbVms_none_react {op : Op} (hop : op.recordsFor node = none)
    (h : w.memory.usbVms.lookup node = none) (c : Choice) :
    (react w op c).2.memory.usbVms.lookup node = none := by
  by_contra hsome
  obtain ⟨vm, hlookup⟩ := Option.ne_none_iff_exists'.1 hsome
  obtain hrecords | ⟨-, hbefore⟩ := usbVms_react hlookup
  · rw [hop] at hrecords
    cases hrecords
  · rw [h] at hbefore
    cases hbefore

theorem keeps_usbVms_none {α : Type} {p : Act α} (hp : Calls Op.Unrecording p) :
    Keeps (machine allowed) (fun _ _ => True) (fun w => w.memory.usbVms.lookup node = none) p :=
  keeps_of_harmless (Program.calls_mono hp fun _ hop _ h =>
    ⟨trivial, fun c _ => usbVms_none_react (hop node) h c⟩)

theorem unrecording_of_vanishes {op : Op} {key : String} {device : UsbDevice}
    (hop : op.Vanishes key device) : op.Unrecording :=
  unrecording_of_clears (clears_of_clearsUsb (clearsUsb_of_vanishes hop))

theorem wp_forgetVanished_forgets {key : String} {device : UsbDevice}
    (hnode : device.deviceNode = some node) :
    (forgetVanished d key device).wp (machine allowed) (fun _ _ => True)
      (fun r w' => r = .ok () → w'.memory.usbVms.lookup node = none) w := by
  have hend : Calls Op.Unrecording (do
      update (.crosvmUsbPortsRemove key)
      saveState d) :=
    calls_bind (calls_request fun _ => rfl) fun _ => calls_saveState fun _ => rfl
  have hrest : ∀ w₁, wp (machine allowed) (fun _ _ => True) (dropVanished d key device)
      (fun r w' => r = .ok () → w'.memory.usbVms.lookup node = none) w₁ := by
    intro w₁
    rw [dropVanished, wp_bind, notify, wp_operation]
    refine ⟨trivial, fun _ _ => ?_⟩
    rw [andThen_ok, wp_bind, wp_withLock]
    refine ⟨trivial, fun _ _ => ?_⟩
    rw [dropRecords, hnode]
    dsimp only
    rw [wp_bind, update, wp_operation]
    refine ⟨trivial, fun _ _ => ?_⟩
    have hremoved : (w₁.memory.usbVms.erase node).lookup node = none := AList.lookup_erase _ _
    refine wp_imp (keeps_usbVms_none hend _ hremoved) fun r w' hw' => ⟨trivial, fun _ _ => ?_⟩
    cases r with
    | error e =>
        intro h
        cases h
    | ok _ =>
        rw [andThen_ok, update, wp_operation]
        exact ⟨trivial, fun _ _ _ => hw'⟩
  rw [forgetVanished, wp_bind, readMemory, wp_operation]
  refine ⟨trivial, fun _ _ => ?_⟩
  rw [react, andThen_ok]
  cases w.memory.persistent.crosvmUsbPorts.lookup key with
  | none => exact hrest w
  | some binding =>
      dsimp only
      rw [wp_bind]
      refine wp_imp (wp_of_footprint (Program.calls_top _) (fun _ _ _ => trivial) w) ?_
      rintro r w' -
      cases r with
      | error e =>
          intro h
          cases h
      | ok _ => exact hrest w'

theorem wp_forgetRound_forgets {usb : Map UsbDevice} (key : String) (device : UsbDevice) :
    wp (machine allowed) (fun _ _ => True)
      (if (usb.lookup key).isNone then forgetVanished d key device else pure ())
      (fun r w' => r = .ok () → (usb.lookup key).isNone → ∀ node, device.deviceNode = some node →
        w'.memory.usbVms.lookup node = none) w := by
  split
  case isTrue =>
    cases hnode : device.deviceNode with
    | none =>
        refine wp_imp (wp_of_footprint (Program.calls_top _) (fun _ _ _ => trivial) w) ?_
        intro r w' _ _ _ node hsome
        cases hsome
    | some node =>
        refine wp_imp (wp_forgetVanished_forgets hnode) fun r w' hw' hr _ other hother => ?_
        obtain rfl := Option.some.inj hother
        exact hw' hr
  case isFalse hpresent => exact fun _ hgone => absurd hgone hpresent

theorem calls_forgetRound {usb : Map UsbDevice} (key : String) (device : UsbDevice) :
    Calls Op.Unrecording
      (if (usb.lookup key).isNone then forgetVanished d key device else pure ()) :=
  calls_ite (Program.calls_mono (calls_forgetVanished d key device)
    fun _ => unrecording_of_vanishes) trivial

/-- A device with the node was seen and is gone. -/
def GoneFrom (observed usb : Map UsbDevice) (key : String) (device : UsbDevice) (node : String) :
    Prop :=
  observed.lookup key = some device ∧ (usb.lookup key).isNone ∧ device.deviceNode = some node

/-- Of all that is gone, the nodes are forgotten or still to do. -/
def Forgets (observed usb : Map UsbDevice) (rest : List (String × UsbDevice)) (w : World) : Prop :=
  ∀ key device node, GoneFrom observed usb key device node →
    (key, device) ∈ rest ∨ w.memory.usbVms.lookup node = none

theorem keeps_forgets {α : Type} {p : Act α} (hp : Calls Op.Unrecording p)
    (observed usb : Map UsbDevice) (rest : List (String × UsbDevice)) :
    Keeps (machine allowed) (fun _ _ => True) (Forgets observed usb rest) p := by
  refine keeps_of_harmless (Program.calls_mono hp fun op hop w h => ⟨trivial, fun c _ => ?_⟩)
  intro key device node hgone
  exact (h key device node hgone).imp_right fun hnone => usbVms_none_react (hop node) hnone c

/-- An observation that ends forgets the nodes of all that it finds gone. -/
theorem wp_observeUsb_forgets {usb : Map UsbDevice} :
    (observeUsb d usb).wp (machine allowed) (fun _ _ => True)
      (fun r w' => r = .ok () → Forgets w.memory.observedUsb usb [] w') w := by
  have hany : ∀ {α : Type} (p : Act α) w₁, p.wp (machine allowed) (fun _ _ => True)
      (fun _ _ => True) w₁ := fun p =>
    wp_of_footprint (Program.calls_top p.run) fun _ _ _ => trivial
  rw [observeUsb, wp_withLock]
  refine ⟨trivial, fun _ _ => ?_⟩
  rw [wp_bind, readMemory, wp_operation]
  refine ⟨trivial, fun _ _ => ?_⟩
  rw [react, andThen_ok, wp_bind]
  refine wp_imp (hany _ _) ?_
  rintro r w₁ -
  cases r with
  | error e => exact ⟨trivial, fun _ _ h => by cases h⟩
  | ok present =>
      rw [andThen_ok, wp_bind]
      refine wp_imp (hany _ _) ?_
      rintro r w₂ -
      cases r with
      | error e => exact ⟨trivial, fun _ _ h => by cases h⟩
      | ok _ =>
          rw [andThen_ok, wp_bind]
          refine wp_imp (wp_inOrder trivial) ?_
          rintro _ _ ⟨rfl, seen, rfl, hentries⟩
          rw [andThen_ok, wp_bind]
          refine wp_imp (wp_forM_rest (I := Forgets w.memory.observedUsb usb) ?_
            fun key device node hgone => .inl (hentries key device hgone.1)) fun r w₃ hr => ?_
          · rintro ⟨key, device⟩ rest w' hw'
            refine wp_mono (wp_and (wp_forgetRound_forgets key device)
              (keeps_forgets (calls_forgetRound key device) _ _ _ w' hw')) (fun _ _ _ => trivial) ?_
            rintro r w'' ⟨hforgets, hkept⟩ hr other x node hgone
            rcases hkept other x node hgone with hmem | hnone
            · obtain heq | hrest := List.mem_cons.1 hmem
              · obtain ⟨rfl, rfl⟩ := Prod.mk.inj heq
                exact .inr (hforgets hr hgone.2.1 node hgone.2.2)
              · exact .inl hrest
            · exact .inr hnone
          · cases r with
            | error e => exact ⟨trivial, fun _ _ h => by cases h⟩
            | ok _ =>
                have hend : Calls Op.Unrecording (update (.observedUsb usb)) :=
                  calls_request fun _ => rfl
                refine wp_imp (keeps_forgets hend _ _ _ w₃ (hr rfl)) ?_
                exact fun r w' hw' => ⟨trivial, fun _ _ _ => hw'⟩

theorem wp_observe_forgets : (observe w.daemon).wp (machine allowed) (fun _ _ => True)
    (fun r w' => r = .ok () → ∀ key device node, w.memory.observedUsb.lookup key = some device →
      device.deviceNode = some node → w.vanishedUsb key →
        w'.memory.usbVms.lookup node = none) w := by
  rw [observe, wp_bind, enter, wp_operation]
  refine ⟨trivial, fun c _ => ?_⟩
  rw [andThen_ok, wp_bind]
  refine wp_imp (wp_usbDevices trivial) ?_
  rintro r _ ⟨rfl, husb⟩
  cases r with
  | error e =>
      intro h
      cases h
  | ok xs =>
      obtain rfl := husb xs rfl
      rw [andThen_ok, wp_bind]
      refine wp_imp (wp_pciDevices trivial fun _ => trivial) ?_
      rintro r _ ⟨rfl, -⟩
      cases r with
      | error e =>
          intro h
          cases h
      | ok ys =>
          rw [andThen_ok, wp_bind]
          refine wp_imp wp_observeUsb_forgets fun r w₁ hr => ?_
          cases r with
          | error e =>
              intro h
              cases h
          | ok _ =>
              rw [andThen_ok]
              have hpci := Program.calls_mono (calls_observePci
                (insertAll PciDevice.address (ys.map Prod.fst))) fun _ => unrecording_of_clears
              refine wp_imp (keeps_forgets hpci _ _ _ w₁ (hr rfl)) ?_
              intro r w₂ hw₂ _ key device node hseen hnode hvanished
              exact (hw₂ key device node ⟨hseen, lookup_scanned_isNone.2 hvanished.2,
                hnode⟩).resolve_left List.not_mem_nil

end Observe

section Plugs

theorem lookup_filter_ne {files : List (String × String)} {file other : String}
    (h : file ≠ other) : (files.filter fun x => x.1 ≠ other).lookup file = files.lookup file := by
  induction files with
  | nil => rfl
  | cons x rest ih =>
      obtain ⟨name, text⟩ := x
      by_cases hother : name = other
      · have hne : (file == name) = false := beq_false_of_ne (hother ▸ h)
        have hdropped : ((name, text) :: rest).filter (fun x => x.1 ≠ other) =
            rest.filter fun x => x.1 ≠ other := List.filter_cons_of_neg (by simpa using hother)
        rw [hdropped, ih, List.lookup_cons, hne]
      · have hkept : ((name, text) :: rest).filter (fun x => x.1 ≠ other) =
            (name, text) :: rest.filter fun x => x.1 ≠ other :=
          List.filter_cons_of_pos (by simpa using hother)
        rw [hkept, List.lookup_cons, List.lookup_cons, ih]

/-- A write that leaves numbers and plug-ins alone leaves alone who has which node. -/
theorem plugged_modify {bus : UsbBus} {name node : String} {f : UsbEntry → UsbEntry}
    (hf : ∀ entry, deviceNode ((f entry).decimal "busnum") ((f entry).decimal "devnum") =
      deviceNode (entry.decimal "busnum") (entry.decimal "devnum") ∧
        (f entry).plugged = entry.plugged) :
    (bus.modify name f).plugged node = bus.plugged node := by
  have hnodes : ∀ entry : UsbEntry, let entry' := if entry.name = name then f entry else entry
      deviceNode (entry'.decimal "busnum") (entry'.decimal "devnum") =
        deviceNode (entry.decimal "busnum") (entry.decimal "devnum") ∧
          entry'.plugged = entry.plugged := by
    intro entry
    dsimp only
    split
    · exact hf entry
    · exact ⟨rfl, rfl⟩
  rw [UsbBus.plugged, UsbBus.modify, List.find?_map, Option.map_map, UsbBus.plugged]
  simp only [Function.comp_def]
  simp only [(hnodes _).1, (hnodes _).2]

theorem plugged_authorized (bus : UsbBus) (sysName node : String) (value : Bool) :
    (bus.authorized sysName value).plugged node = bus.plugged node := by
  refine plugged_modify fun entry => ⟨?_, rfl⟩
  have hread : ∀ file, file ≠ "authorized" →
      (("authorized", UsbBus.flag value) ::
        entry.files.filter fun x => x.1 ≠ "authorized").lookup file = entry.files.lookup file := by
    intro file hfile
    rw [List.lookup_cons, beq_false_of_ne hfile]
    exact lookup_filter_ne hfile
  simp only [UsbEntry.decimal, UsbEntry.read, hread "busnum" (by decide),
    hread "devnum" (by decide)]

theorem plugged_react {w : World} {op : Op} {c : Choice} (hc : plugsStay w op c) (node : String) :
    (react w op c).2.bus.plugged node = w.bus.plugged node := by
  have hset : ∀ bus : UsbBus, bus.plugged node = w.bus.plugged node →
      (c.setBus w bus).bus.plugged node = w.bus.plugged node := by
    intro bus hbus
    simp only [Choice.setBus]
    split
    · rfl
    · cases hchosen : c.bus with
      | none => exact hbus
      | some after => exact hc after hchosen node
  cases op with
  | update u => cases u <;> rfl
  | setAutoprobe value => exact hset _ rfl
  | probe name => exact hset _ rfl
  | release name => exact hset _ (plugged_modify fun _ => ⟨rfl, rfl⟩)
  | authorize name value =>
      simp only [react]
      split
      · rfl
      · exact hset _ (plugged_authorized _ _ _ _)
  | setAuthorizedDefault value =>
      cases hchosen : c.bus with
      | none => simp [react, hchosen, World.record]
      | some after => simpa [react, hchosen, World.record] using hc after hchosen node
  | _ => rfl

/-- Every node has the plug-in that it has at `w₀`. -/
def SamePlugs (w₀ w : World) : Prop := ∀ node, w.bus.plugged node = w₀.bus.plugged node

theorem SamePlugs.react {w₀ w : World} (h : SamePlugs w₀ w) {op : Op} {c : Choice}
    (hc : plugsStay w op c) : SamePlugs w₀ (react w op c).2 := fun node =>
  (plugged_react hc node).trans (h node)

end Plugs

/-- What a pass does after its observation. -/
def resumeAndSweep (d : Daemon) : Act Unit := do
  let failures ← collect "PCI" (resumePci d none) []
  let failures ← collect "USB" (resumeUsb d none) failures
  let failures ← collect "USB authorization" (deauthorizeUnmatchedUsb d) failures
  aggregate failures

theorem observeAndResume_eq (d : Daemon) :
    observeAndResume d = observe d >>= fun _ => resumeAndSweep d := rfl

/-- A record is made for a device of the scan at `w₀`, with the plug-in it has there. -/
def RecordsScanned (w₀ w : World) (op : Op) : Prop :=
  SamePlugs w₀ w ∧ ∀ node vm, op.recordsFor node = some vm →
    ∃ device ∈ w₀.usbDevices, device.deviceNode = some node

section Pass

variable {w₀ w w' : World}

theorem Op.Unrecording.harmless {op : Op} (hop : op.Unrecording) :
    Harmless plugsStay (RecordsScanned w₀) (SamePlugs w₀) op := by
  refine fun w hw => ⟨⟨hw, fun node vm hrecords => ?_⟩, fun c hc => hw.react hc⟩
  rw [hop node] at hrecords
  cases hrecords

theorem mem_usbDevices_of_routed {d : Daemon} {x : UsbDevice × RuleMatch}
    (hx : x ∈ w.usbRouted d) : x.1 ∈ w.usbDevices := by
  obtain ⟨device, hdevice, hrule⟩ := List.mem_filterMap.1 hx
  obtain ⟨rule, -, rfl⟩ := Option.map_eq_some_iff.1 hrule
  exact hdevice

/-- From an observation on, a pass records what it scanned. -/
theorem wp_resumeAndSweep_records {d : Daemon} (hw : SameBus w₀ w) :
    (resumeAndSweep d).wp (machine plugsStay) (RecordsScanned w₀) (fun _ _ => True) w := by
  have hplugs : ∀ {w'}, SameBus w₀ w' → SamePlugs w₀ w' := fun h node => by rw [h.bus]
  have hpci : Keeps (machine plugsStay) (RecordsScanned w₀) (SameBus w₀)
      (collect "PCI" (resumePci d none) []) := by
    have hquiet : ∀ op : Op, op.Unrecording → ((∃ device, op.AttachesPci device) ∨ op.Glue) →
        Harmless plugsStay (RecordsScanned w₀) (SameBus w₀) op := fun op hop hpci w hw =>
      ⟨(hop.harmless w (hplugs hw)).1, fun c _ => hw.trans (sameBus_react hpci w c)⟩
    refine keeps_collect (resumePci_keeps_of (fun op hop => hquiet op (unrecording_of_glue hop)
      (.inr hop)) fun device rule w hw _ _ => keeps_of_harmless (Program.calls_mono
        (calls_attachOnePci d device rule _) fun op hop => ?_) w hw)
    exact hquiet op (unrecording_of_pci ⟨device, .inl hop⟩) (.inl ⟨device, hop⟩)
  have husb : ∀ failures w₁, SameBus w₀ w₁ →
      (collect "USB" (resumeUsb d none) failures).wp (machine plugsStay) (RecordsScanned w₀)
        (fun _ => SamePlugs w₀) w₁ := by
    intro failures w₁ hw₁
    rw [collect, wp_bind, wp_attempt]
    refine wp_imp (wp_resumeUsb_of (fun op hop => (unrecording_of_glue hop).harmless) (hplugs hw₁)
      fun x hx w₂ hw₂ _ _ => ?_) fun r w₂ hw₂ => ?_
    · rw [usbRouted_eq hw₁] at hx
      refine wp_attachOneUsb_assigns ⟨hw₂, fun node vm hrecords => by cases hrecords⟩ hw₂
        fun op hop w₃ _ hw₃ => ⟨⟨hw₃, fun node vm hrecords => ?_⟩, fun c hc => hw₃.react hc⟩
      exact ⟨x.1, mem_usbDevices_of_routed hx, node_of_assigns hop hrecords⟩
    · cases r <;> exact hw₂
  have hsweep : ∀ failures, Keeps (machine plugsStay) (RecordsScanned w₀) (SamePlugs w₀)
      (collect "USB authorization" (deauthorizeUnmatchedUsb d) failures) := fun failures =>
    keeps_collect (keeps_of_harmless (Program.calls_mono (calls_deauthorizeUnmatchedUsb d)
      fun op hop => (unrecording_of_sweeps hop).harmless))
  rw [resumeAndSweep, wp_bind]
  refine wp_imp (hpci w hw) fun r w₁ hw₁ => ?_
  cases r with
  | error e => trivial
  | ok failures =>
      rw [andThen_ok, wp_bind]
      refine wp_imp (husb failures w₁ hw₁) fun r w₂ hw₂ => ?_
      cases r with
      | error e => trivial
      | ok failures =>
          rw [andThen_ok, wp_bind]
          refine wp_imp (hsweep failures w₂ hw₂) fun r w₃ hw₃ => ?_
          cases r with
          | error e => trivial
          | ok failures =>
              rw [andThen_ok, aggregate]
              split <;> trivial

theorem wp_usbList {allowed : World → Op → Choice → Prop} {d : Daemon} (disconnected : Option Bool)
    (tag : Option String) : (d.usbList disconnected tag).wp (machine allowed) (fun _ _ => True)
      (fun r _ => ∀ items, r = .ok items → ∀ item ∈ items, ∀ vm, item.vm = some vm →
        ∃ node, item.device.deviceNode = some node ∧
          w.memory.usbVms.lookup node = some vm) w := by
  rw [Daemon.usbList, wp_withLock]
  refine ⟨trivial, fun _ _ => ?_⟩
  rw [wp_bind, readMemory, wp_operation]
  refine ⟨trivial, fun _ _ => ?_⟩
  rw [react, andThen_ok, wp_bind]
  refine wp_imp (wp_usbDevices trivial) ?_
  rintro r w₁ ⟨-, -⟩
  cases r with
  | error e =>
      refine ⟨trivial, fun _ _ items hitems => ?_⟩
      cases hitems
  | ok devices =>
      refine ⟨trivial, fun _ _ items hitems item hitem vm hvm => ?_⟩
      obtain rfl := Except.ok.inj hitems
      obtain ⟨⟨device, rule⟩, -, hlisted⟩ := List.mem_filterMap.1 hitem
      simp only [usbListed] at hlisted
      split at hlisted
      case isTrue => cases hlisted
      case isFalse =>
        obtain rfl := Option.some.inj hlisted
        exact Option.bind_eq_some_iff.1 hvm

/-- A record that is in force after the observation was before, and is not outdated. -/
theorem observe_keeps_accurate {allowed : World → Op → Choice → Prop}
    {hist tr : List (World × Op)} {node vm : String}
    (hexec : Exec (machine allowed) (observe w.daemon).run w tr w' (some (.ok ())))
    (hnoticed : Noticed w hist) (hlookup : w'.memory.usbVms.lookup node = some vm) :
    w.memory.usbVms.lookup node = some vm ∧
      lastRecord node (tr.reverse ++ hist) = lastRecord node hist ∧ ¬Outdated w hist node := by
  have hquiet : ∀ e ∈ tr, e.2.Unrecording := by
    have hcalls := Program.calls_mono (calls_observe w.daemon) fun _ => unrecording_of_clears
    exact (Program.wp_sound (wp_of_footprint (G := fun _ op => op.Unrecording) hcalls
      (fun _ hop _ => hop) w) hexec).1
  obtain ⟨w₁, op, hmem, hrecords, -⟩ | ⟨hbefore, hlast⟩ := usbVms_exec hexec hlookup
  · rw [hquiet (w₁, op) hmem node] at hrecords
    cases hrecords
  · refine ⟨hbefore, hlast, fun houtdated => ?_⟩
    obtain ⟨key, device, hseen, hnode, hvanished⟩ := hnoticed node vm hbefore houtdated
    have hforgotten := (Program.wp_sound wp_observe_forgets hexec).2 _ rfl rfl key device node
      hseen hnode hvanished
    rw [hforgotten] at hlookup
    cases hlookup

/-- Where each outdated record is noticed, a pass that succeeds leaves only records of scanned
devices, each with the VM that an attach of the device chose since it was plugged in, and so does
a list show it. -/
theorem usb_records_accurate {hist tr tr' : List (World × Op)} (hrun : History plugsStay w₀ hist)
    (hgate : Exec (machine plugsStay) (settleGate w₀.daemon).run w₀ tr w (some (.ok ())))
    (hpass : Exec (machine plugsStay) (observeAndResume w₀.daemon).run w tr' w' (some (.ok ())))
    (hnoticed : Noticed w (tr.reverse ++ hist)) :
    Accurate w w' (tr'.reverse ++ (tr.reverse ++ hist)) ∧
      ∀ disconnected tag tr'' w'' items, Exec (machine plugsStay)
        (w'.daemon.usbList disconnected tag).run w' tr'' w'' (some (.ok items)) →
        ∀ item ∈ items, ∀ vm, item.vm = some vm → ∃ node, item.device.deviceNode = some node ∧
          Chosen w (tr'.reverse ++ (tr.reverse ++ hist)) node vm := by
  have haccurate : Accurate w w' (tr'.reverse ++ (tr.reverse ++ hist)) := by
    have hdaemon : w.daemon = w₀.daemon :=
      (Program.wp_sound (wp_daemon (settleGate w₀.daemon)) hgate).2 _ rfl
    have hattaches : ∀ e ∈ tr ++ tr', RecordsItsDevice e.1 e.2 := by
      have hreconcile : Exec (machine plugsStay) (Operation.reconcile.program w₀.daemon).run w₀
          (tr ++ tr') w' (some (.ok ())) := by
        rw [Operation.program, reconcile_eq]
        exact Exec.bind hgate hpass
      exact (Program.wp_sound (wp_operation_recordsItsDevice .reconcile) hreconcile).1
    have hrecorded : OnRecord w (tr.reverse ++ hist) := hrun.recorded.exec hgate fun e he =>
      hattaches e (List.mem_append_left _ he)
    rw [observeAndResume_eq, ← hdaemon] at hpass
    obtain ⟨hnone, -⟩ | ⟨tr₁, tr₂, w₁, result, hobserve, hrest, rfl⟩ := Exec.bind_inv hpass
    · cases hnone
    · cases result with
      | error e => cases hrest
      | ok _ =>
          have hsame : SameBus w w₁ := by
            have hkeeps : Keeps (machine plugsStay) (fun _ _ => True) (Observed w)
                (observe w.daemon) := keeps_of_harmless (Program.calls_mono
              (calls_observe w.daemon) fun op hop w₂ hw₂ =>
                ⟨trivial, fun c _ => hw₂.trans (observed_react hop w₂ c)⟩)
            exact ((Program.wp_sound (hkeeps w (.refl w)) hobserve).2 _ rfl).toSameBus
          have hscans := (Program.wp_sound (wp_resumeAndSweep_records hsame) hrest).1
          have hreverse : (tr₁ ++ tr₂).reverse ++ (tr.reverse ++ hist) =
              tr₂.reverse ++ (tr₁.reverse ++ (tr.reverse ++ hist)) := by simp
          intro node vm hlookup
          rw [hreverse]
          obtain ⟨w₂, op, hmem, hrecords, hlast⟩ | ⟨hbefore, hlast⟩ := usbVms_exec hrest hlookup
          · -- recorded by this pass, for a device it scanned
            obtain ⟨hplugs, hscanned⟩ := hscans (w₂, op) hmem
            obtain ⟨device, hattaching, hnode⟩ := hattaches (w₂, op)
              (List.mem_append_right _ (List.mem_append_right _ hmem)) node vm hrecords
            exact ⟨hscanned node vm hrecords, w₂, device, hlast, hattaching, hnode, hplugs node⟩
          · obtain ⟨hfirst, hlast₁, hcurrent⟩ :=
              observe_keeps_accurate hobserve hnoticed hbefore
            obtain ⟨w₂, hlast₂, device, hattaching, hnode⟩ := hrecorded node vm hfirst
            obtain ⟨hscanned, hplugs⟩ := not_or.1 hcurrent
            simp only [ne_eq, not_forall, not_not] at hscanned hplugs
            obtain ⟨x, hx, hxnode⟩ := hscanned
            obtain ⟨w₃, vm', hlast₃, hplugs⟩ := hplugs
            obtain ⟨rfl, rfl⟩ := Prod.mk.inj (Option.some.inj (hlast₃.symm.trans hlast₂))
            refine ⟨⟨x, hx, hxnode⟩, w₃, device, ?_, hattaching, hnode, hplugs⟩
            rw [hlast, hlast₁, hlast₂]
  refine ⟨haccurate, fun disconnected tag tr'' w'' items hlist item hitem vm hvm => ?_⟩
  obtain ⟨node, hnode, hlookup⟩ :=
    (Program.wp_sound (wp_usbList disconnected tag) hlist).2 _ rfl items rfl item hitem vm hvm
  exact ⟨node, hnode, (haccurate node vm hlookup).2⟩

end Pass

/-! ## A keyboard that comes back under another number -/

theorem History.perform {allowed : World → Op → Choice → Prop} {w : World}
    {hist : List (World × Op)} (h : History allowed w hist) (pick : World → Op → Choice)
    (o : Operation) (hallowed : ∀ w op, allowed w op (pick w op)) :
    History allowed (w.perform pick o) ((w.trace pick o).reverse ++ hist) :=
  .operation o h (Program.follow_exec _ w fun e _ => hallowed e.1 e.2)

theorem onPortOne_plugs (w : World) (op : Op) : plugsStay w op (onPortOne w op) := by
  intro bus hbus
  cases op <;> cases hbus

/-- After a pass gave the keyboard to its VM, the ports show something else. -/
def World.replugged (w : World) (entries : List UsbEntry) : World :=
  { w with bus := { entries } }

theorem history_replugged {w : World} (entries : List UsbEntry) (h : History plugsStay w []) :
    History plugsStay ((w.perform onPortOne .reconcile).replugged entries)
      ((w.trace onPortOne .reconcile).reverse ++ []) :=
  .surroundings (h.perform onPortOne .reconcile onPortOne_plugs) ⟨rfl, rfl, rfl, rfl⟩

theorem history_keyboardPlugged (entries : List UsbEntry) :
    History plugsStay { keyboardPlugged with bus := { entries } } [] :=
  .surroundings (.start keyboardPlugged.daemon (by decide)) ⟨rfl, rfl, rfl, rfl⟩

def World.settled (w : World) : World :=
  ((settleGate w.daemon).run.follow react onPortOne w).2.1

def World.settling (w : World) : List (World × Op) :=
  ((settleGate w.daemon).run.follow react onPortOne w).1

def World.resumed (w : World) : World :=
  ((observeAndResume w.daemon).run.follow react onPortOne w.settled).2.1

def World.resuming (w : World) : List (World × Op) :=
  ((observeAndResume w.daemon).run.follow react onPortOne w.settled).1

theorem exec_settled {w : World}
    (hok : ((settleGate w.daemon).run.follow react onPortOne w).2.2.toBool = true) :
    Exec (machine plugsStay) (settleGate w.daemon).run w w.settling w.settled (some (.ok ())) :=
  exec_ok (fun e _ => onPortOne_plugs e.1 e.2) hok

theorem exec_resumed {w : World}
    (hok : ((observeAndResume w.daemon).run.follow react onPortOne w.settled).2.2.toBool = true) :
    Exec (machine plugsStay) (observeAndResume w.daemon).run w.settled w.resuming w.resumed
      (some (.ok ())) :=
  exec_ok (fun e _ => onPortOne_plugs e.1 e.2) hok

def bothPlugged : World :=
  { keyboardPlugged with bus := { entries := [keyboard "1-1" "4", mouse "1-2" "5"] } }

def mouseLeft : World :=
  (bothPlugged.perform onPortOne .reconcile).replugged [mouse "1-2" "5"]

def mouseHistory : List (World × Op) :=
  mouseLeft.settling.reverse ++ ((bothPlugged.trace onPortOne .reconcile).reverse ++ [])

theorem noticed_mouseLeft : Noticed mouseLeft.settled mouseHistory := by
  intro node vm hlookup houtdated
  have hkeys : mouseLeft.settled.memory.usbVms.keys =
      ["/dev/bus/usb/001/005", "/dev/bus/usb/001/004"] := by decide +kernel
  have hkey := AList.lookup_isSome.1 (Option.isSome_of_eq_some hlookup)
  rw [AList.mem_keys, hkeys] at hkey
  rcases List.mem_cons.1 hkey with rfl | hkey
  · -- the mouse is where it was recorded
    have hscanned : ∃ device ∈ mouseLeft.settled.usbDevices,
        device.deviceNode = some "/dev/bus/usb/001/005" := by decide +kernel
    have hplugs : (lastRecord "/dev/bus/usb/001/005" mouseHistory).map
        (fun x => x.1.bus.plugged "/dev/bus/usb/001/005") =
          some (mouseLeft.settled.bus.plugged "/dev/bus/usb/001/005") := by decide +kernel
    obtain ⟨⟨w₁, vm'⟩, hrecord, hplug⟩ := Option.map_eq_some_iff.1 hplugs
    obtain ⟨device, hdevice, hnode⟩ := hscanned
    rcases houtdated with hnone | hother
    · exact absurd hnode (hnone device hdevice)
    · exact absurd hplug (hother w₁ vm' hrecord)
  · obtain rfl := List.mem_singleton.1 hkey
    have hgone : ∃ device ∈ mouseLeft.settled.memory.observedUsb.lookup "1-1",
        device.deviceNode = some "/dev/bus/usb/001/004" ∧
          mouseLeft.settled.vanishedUsb "1-1" := by decide +kernel
    obtain ⟨device, hseen, hnode, hvanished⟩ := hgone
    exact ⟨"1-1", device, hseen, hnode, hvanished⟩

/-- The keyboard is unplugged. The next pass forgets it and keeps the mouse. -/
theorem usb_records_accurate_unplugged :
    History plugsStay mouseLeft ((bothPlugged.trace onPortOne .reconcile).reverse ++ []) ∧
    Exec (machine plugsStay) (settleGate mouseLeft.daemon).run mouseLeft mouseLeft.settling
      mouseLeft.settled (some (.ok ())) ∧
    Exec (machine plugsStay) (observeAndResume mouseLeft.daemon).run mouseLeft.settled
      mouseLeft.resuming mouseLeft.resumed (some (.ok ())) ∧
    Noticed mouseLeft.settled mouseHistory ∧
    mouseLeft.settled.memory.usbVms.lookup "/dev/bus/usb/001/004" = some "gui-vm" ∧
    mouseLeft.resumed.memory.usbVms.lookup "/dev/bus/usb/001/004" = none ∧
    mouseLeft.resumed.memory.usbVms.lookup "/dev/bus/usb/001/005" = some "net-vm" ∧
    Accurate mouseLeft.settled mouseLeft.resumed (mouseLeft.resuming.reverse ++ mouseHistory) ∧
    ∀ disconnected tag tr'' w'' items, Exec (machine plugsStay)
      (mouseLeft.resumed.daemon.usbList disconnected tag).run mouseLeft.resumed tr'' w''
        (some (.ok items)) →
      ∀ item ∈ items, ∀ vm, item.vm = some vm → ∃ node, item.device.deviceNode = some node ∧
        Chosen mouseLeft.settled (mouseLeft.resuming.reverse ++ mouseHistory) node vm := by
  have hrun := history_replugged [mouse "1-2" "5"]
    (history_keyboardPlugged [keyboard "1-1" "4", mouse "1-2" "5"])
  have hgate := exec_settled (w := mouseLeft) (by decide +kernel)
  have hpass := exec_resumed (w := mouseLeft) (by decide +kernel)
  refine ⟨hrun, hgate, hpass, noticed_mouseLeft, by decide +kernel, by decide +kernel,
    by decide +kernel, ?_⟩
  exact usb_records_accurate hrun hgate hpass noticed_mouseLeft

def keyboardRenumbered : World :=
  (keyboardPlugged.perform onPortOne .reconcile).replugged
    [{ keyboard "1-1" "5" with plugged := 1 }]

/-- The keyboard comes back under its name with another number: its old node stays recorded. -/
theorem usb_record_of_no_device : ¬∀ w₀ w w' hist tr tr', History plugsStay w₀ hist →
    Exec (machine plugsStay) (settleGate w₀.daemon).run w₀ tr w (some (.ok ())) →
    Exec (machine plugsStay) (observeAndResume w₀.daemon).run w tr' w' (some (.ok ())) →
    Accurate w w' (tr'.reverse ++ (tr.reverse ++ hist)) := by
  intro hclaim
  have hrun := history_replugged [{ keyboard "1-1" "5" with plugged := 1 }]
    (history_keyboardPlugged [keyboard "1-1" "4"])
  have hlookup : keyboardRenumbered.resumed.memory.usbVms.lookup "/dev/bus/usb/001/004" =
      some "gui-vm" := by decide +kernel
  have hnone : ∀ device ∈ keyboardRenumbered.settled.usbDevices,
      device.deviceNode ≠ some "/dev/bus/usb/001/004" := by decide +kernel
  have haccurate := hclaim keyboardRenumbered keyboardRenumbered.settled _ _ _ _ hrun
    (exec_settled (by decide +kernel)) (exec_resumed (by decide +kernel))
  obtain ⟨⟨device, hdevice, hnode⟩, -⟩ := haccurate _ _ hlookup
  exact hnone device hdevice hnode

end GhafDeviceManager
