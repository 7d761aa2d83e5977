import GhafDeviceManager.BootAddresses
import GhafDeviceManager.BootInputs

/-!
# The boot arguments as options

What `vmm_args` returns is a list of options, each with its own argument, and the line the client
prints for a shell is taken apart into the same options and no others.
-/

namespace GhafDeviceManager

open Fallible

inductive BootOption
  | isolateHotplug
  | vfio (device : String)
  | acpiTable (path : String)
  | input (device : String)
deriving DecidableEq, Repr

namespace BootOption

def args : BootOption → List String
  | isolateHotplug => ["--vfio-isolate-hotplug"]
  | vfio device => ["--vfio", device]
  | acpiTable path => ["--acpi-table", path]
  | input device => ["--input", device]

theorem selfDelimiting : SelfDelimiting args where
  ne_nil option := by cases option <;> simp [args]
  cancel a b x y h := by
    cases a <;> cases b <;> simp_all [args]

end BootOption

/-! ## What is put together -/

section Tables

variable {host : BootHost} {vmName : String} {rules items : List Value} {args args' : List String}

/-- The tables of the entries of all rules for the VM, in the order of the configuration. -/
def BootHost.tables (host : BootHost) (rules : List Value) (vmName : String) : List String :=
  (rules.filter (routesTo vmName)).flatMap fun rule => (rule.getItems "allow").filterMap host.table

theorem acpiAllows_eq (h : items.foldlM host.acpiAllow args = .ok args') :
    args' = args ++ ((items.filterMap host.table).map BootOption.acpiTable).flatMap
      BootOption.args := by
  induction items generalizing args with
  | nil =>
      obtain rfl := Except.ok.inj h
      simp
  | cons allow items ih =>
      rw [List.foldlM_cons] at h
      cases htable : host.table allow with
      | none =>
          have hskip : host.acpiAllow args allow = .ok args := by rw [BootHost.acpiAllow, htable]
          rw [hskip] at h
          rw [ih h, List.filterMap_cons_none htable]
      | some table =>
          have hnamed : host.acpiAllow args allow = (host.chownNamed table
              (allow.getStr "setUser") (allow.getStr "setGroup")).map
                fun _ => args ++ ["--acpi-table", table] := by
            rw [BootHost.acpiAllow, htable]
            dsimp only
            cases host.chownNamed table (allow.getStr "setUser") (allow.getStr "setGroup") <;> rfl
          rw [hnamed] at h
          cases hchown : host.chownNamed table (allow.getStr "setUser")
              (allow.getStr "setGroup") with
          | error e =>
              rw [hchown] at h
              cases h
          | ok _ =>
              rw [hchown] at h
              rw [ih h, List.filterMap_cons_some htable, List.map_cons, List.flatMap_cons,
                List.append_assoc]
              rfl

theorem acpiRules_eq (h : rules.foldlM (host.acpiRule vmName) args = .ok args') :
    args' = args ++ ((host.tables rules vmName).map BootOption.acpiTable).flatMap
      BootOption.args := by
  induction rules generalizing args with
  | nil =>
      obtain rfl := Except.ok.inj h
      simp [BootHost.tables]
  | cons rule rules ih =>
      rw [List.foldlM_cons] at h
      by_cases hroutes : routesTo vmName rule = true
      · have hrule : host.acpiRule vmName args rule =
            (rule.getItems "allow").foldlM host.acpiAllow args := by
          rw [BootHost.acpiRule, if_pos hroutes]
        rw [hrule] at h
        cases hitems : (rule.getItems "allow").foldlM host.acpiAllow args with
        | error e =>
            rw [hitems] at h
            cases h
        | ok args₁ =>
            rw [hitems] at h
            have htables : host.tables (rule :: rules) vmName =
                (rule.getItems "allow").filterMap host.table ++ host.tables rules vmName := by
              simp [BootHost.tables, hroutes]
            rw [ih h, acpiAllows_eq hitems, htables, List.map_append, List.flatMap_append,
              List.append_assoc]
      · have hrule : host.acpiRule vmName args rule = .ok args := by
          rw [BootHost.acpiRule, if_neg hroutes]
        rw [hrule] at h
        have htables : host.tables (rule :: rules) vmName = host.tables rules vmName := by
          simp [BootHost.tables, hroutes]
        rw [htables]
        exact ih h

theorem isFile_of_mem_tables {table : String} (h : table ∈ host.tables rules vmName) :
    host.isFile table = true := by
  obtain ⟨rule, -, hitems⟩ := List.mem_flatMap.1 h
  obtain ⟨allow, -, htable⟩ := List.mem_filterMap.1 hitems
  unfold BootHost.table at htable
  split at htable
  · exact (Option.filter_eq_some_iff.1 htable).2
  · cases htable

end Tables

theorem inputArgument_ne_empty (node : String) : inputArgument node ≠ "" := by
  intro h
  obtain ⟨-, hend⟩ := String.append_eq_empty_iff.1 h
  exact absurd hend (by decide)

theorem vfioArgument_ne_empty (address : String) (rootBus : Bool) :
    vfioArgument address rootBus ≠ "" := by
  intro h
  obtain ⟨hstart, -⟩ := String.append_eq_empty_iff.1 h
  obtain ⟨-, hiommu⟩ := String.append_eq_empty_iff.1 hstart
  exact absurd hiommu (by decide)

/-! ## The devices that are named -/

namespace PciTopology

variable (t : PciTopology)

/-- As the rule of the first device has it that passes the address through. -/
def onRootBus (devices : List (PciDevice × RuleMatch)) (address : String) : Bool :=
  (devices.find? fun x => address ∈ t.passed x).any fun x => x.2.crosvmUseRootBus

/-- What the devices pass through, each address once and by its first device. -/
def named (devices : List (PciDevice × RuleMatch)) : List (String × Bool) :=
  (pushAll [] (devices.flatMap t.passed)).map fun address => (address, t.onRootBus devices address)

variable {t} {devices : List (PciDevice × RuleMatch)} {x : PciDevice × RuleMatch}

theorem onRootBus_append_of_mem {address : String} (h : address ∈ devices.flatMap t.passed) :
    t.onRootBus (devices ++ [x]) address = t.onRootBus devices address := by
  obtain ⟨y, hy, hpassed⟩ := List.mem_flatMap.1 h
  have hsome : (devices.find? fun x => address ∈ t.passed x).isSome := by
    rw [List.find?_isSome]
    exact ⟨y, hy, decide_eq_true hpassed⟩
  obtain ⟨first, hfirst⟩ := Option.isSome_iff_exists.1 hsome
  rw [onRootBus, onRootBus, List.find?_append, hfirst]
  rfl

theorem onRootBus_append_of_not_mem {address : String} (h : address ∉ devices.flatMap t.passed)
    (hx : address ∈ t.passed x) :
    t.onRootBus (devices ++ [x]) address = x.2.crosvmUseRootBus := by
  have hnone : (devices.find? fun x => address ∈ t.passed x) = none := by
    rw [List.find?_eq_none]
    intro y hy hpassed
    exact h (List.mem_flatMap.2 ⟨y, hy, of_decide_eq_true hpassed⟩)
  have hfound : [x].find? (fun x => address ∈ t.passed x) = some x :=
    List.find?_cons_of_pos (decide_eq_true hx)
  rw [onRootBus, List.find?_append, hnone, Option.none_or, hfound]
  rfl

/-- A device adds what it passes through and no device before it does. -/
theorem named_append {new : List String}
    (hnew : pushAll (pushAll [] (devices.flatMap t.passed)) (t.passed x) =
      pushAll [] (devices.flatMap t.passed) ++ new) :
    t.named (devices ++ [x]) =
      t.named devices ++ new.map fun address => (address, x.2.crosvmUseRootBus) := by
  have hseen : ∀ a, a ∈ pushAll [] (devices.flatMap t.passed) ↔ a ∈ devices.flatMap t.passed := by
    intro a
    rw [mem_pushAll]
    simp
  have hmem : ∀ a ∈ new, a ∈ t.passed x ∧ a ∉ pushAll [] (devices.flatMap t.passed) := by
    obtain ⟨new', hnew', hmem'⟩ := pushAll_eq (pushAll [] (devices.flatMap t.passed)) (t.passed x)
    rw [hnew] at hnew'
    rwa [List.append_cancel_left hnew']
  rw [named, named, List.flatMap_append, pushAll_append, List.flatMap_singleton, hnew,
    List.map_append]
  congr 1
  · apply List.map_congr_left
    intro address haddress
    rw [onRootBus_append_of_mem ((hseen address).1 haddress)]
  · apply List.map_congr_left
    intro address haddress
    obtain ⟨hpassed, hnot⟩ := hmem address haddress
    rw [onRootBus_append_of_not_mem (fun hmem => hnot ((hseen address).2 hmem)) hpassed]

end PciTopology

/-- The arguments of an accumulator that has been over these devices. -/
structure Names (t : PciTopology) (start : List String) (devices : List (PciDevice × RuleMatch))
    (acc : VmmPci) : Prop where
  args : acc.args = start ++ (t.named devices).flatMap vfioArguments
  emitted : acc.emitted.reverse = pushAll [] (devices.flatMap t.passed)

theorem emitNew_args (rootBus : Bool) (addresses : List String) (acc : VmmPci) : ∃ new,
    pushAll acc.emitted.reverse addresses = acc.emitted.reverse ++ new ∧
      (emitNew rootBus addresses acc).args =
        acc.args ++ (new.map fun address => (address, rootBus)).flatMap vfioArguments := by
  induction addresses generalizing acc with
  | nil => exact ⟨[], (List.append_nil _).symm, by simp [emitNew]⟩
  | cons address rest ih =>
      rw [emitNew, pushAll_cons, pushNew]
      by_cases hnamed : acc.emitted.contains address = true
      · rw [if_pos hnamed, if_pos (by simpa using hnamed)]
        exact ih acc
      · rw [if_neg hnamed, if_neg (by simpa using hnamed)]
        obtain ⟨new, hpushed, hargs⟩ := ih { acc with
          emitted := address :: acc.emitted
          args := acc.args ++ ["--vfio", vfioArgument address rootBus] }
        refine ⟨address :: new, ?_, ?_⟩
        · rw [List.reverse_cons] at hpushed
          rw [hpushed, List.append_assoc]
          rfl
        · rw [hargs, List.map_cons, List.flatMap_cons, ← List.append_assoc]
          rfl

section Devices

variable {t : PciTopology} {acc acc' : VmmPci} {d : Daemon} {vmName : String} {requirePci : Bool}
  {c : Replies Op Reply} {start : List String} {devices later : List (PciDevice × RuleMatch)}
  {x : PciDevice × RuleMatch}

theorem Names.vmmDevice (hacc : Names t start devices acc)
    (h : Replays (vmmDevice acc x.1 x.2).run c (.ok acc')) (hc : ∀ e ∈ c, t.Shows e.1 e.2) :
    Names t start (devices ++ [x]) acc' := by
  have hemitted := (walks_vmmDevice h hc).emitted
  obtain ⟨group, c₁, c₂, hgroup, hrest, rfl⟩ := replays_bind h
  obtain ⟨reply, rfl, hreply⟩ := replays_request hgroup
  obtain rfl : group = t.group x.1.address :=
    hc ⟨.iommuGroup x.1.address, reply⟩ (by simp) group hreply.symm
  obtain ⟨bound, c₃, c₄, -, hend, -⟩ := replays_bind hrest
  obtain ⟨hresult, -⟩ := replays_pure hend
  obtain rfl := Except.ok.inj hresult
  obtain ⟨new, hnew, hargs⟩ := emitNew_args x.2.crosvmUseRootBus (t.passed x)
    { acc with bound := bound }
  have hpushed : pushAll (pushAll [] (devices.flatMap t.passed)) (t.passed x) =
      pushAll [] (devices.flatMap t.passed) ++ new := by
    rw [← hacc.emitted]
    exact hnew
  refine ⟨?_, ?_⟩
  · refine hargs.trans ?_
    rw [hacc.args, PciTopology.named_append hpushed, List.flatMap_append, List.append_assoc]
  · rw [hemitted, hacc.emitted, List.flatMap_singleton, ← pushAll_append, List.flatMap_append,
      List.flatMap_singleton]

theorem Names.vmmDevices (hacc : Names t start devices acc)
    (h : Replays (later.foldlM (fun acc x => GhafDeviceManager.vmmDevice acc x.1 x.2)
      acc : Act VmmPci).run c (.ok acc'))
    (hc : ∀ e ∈ c, t.Shows e.1 e.2) : Names t start (devices ++ later) acc' := by
  induction later generalizing devices acc c with
  | nil =>
      obtain ⟨hresult, -⟩ := replays_pure h
      obtain rfl := Except.ok.inj hresult
      rwa [List.append_nil]
  | cons x later ih =>
      rw [List.foldlM_cons] at h
      obtain ⟨acc₁, c₁, c₂, hfirst, hrest, rfl⟩ := replays_bind h
      have hnext := hacc.vmmDevice hfirst fun e he => hc e (List.mem_append_left _ he)
      have hlast := ih hnext hrest fun e he => hc e (List.mem_append_right _ he)
      rwa [List.append_assoc] at hlast

theorem replays_vmmArgs {args : List String}
    (h : Replays (vmmArgs d vmName requirePci).run c (.ok args))
    (hc : ∀ e ∈ c, t.Shows e.1 e.2) : args =
      (if d.config.hasPciRules vmName then ["--vfio-isolate-hotplug"] else []) ++
        (t.named (t.devicesOf d vmName)).flatMap vfioArguments := by
  obtain ⟨acc, c₁, c₂, hpci, hend, rfl⟩ := replays_bind h
  obtain ⟨hargs, -⟩ := replays_pure hend
  obtain rfl := Except.ok.inj hargs
  obtain ⟨vm, c₃, rest, -, hrest, rfl⟩ := replays_bind hpci
  obtain ⟨xs, c₄, last, hdevices, hchecked, rfl⟩ := replays_bind hrest
  obtain rfl := replays_pciDevices hdevices fun e he => hc e (by simp [he])
  have hstart : Names t
      (if d.config.hasPciRules vmName then ["--vfio-isolate-hotplug"] else []) []
      { args := if d.config.hasPciRules vmName then ["--vfio-isolate-hotplug"] else [] } :=
    ⟨(List.append_nil _).symm, rfl⟩
  dsimp only at hchecked
  split at hchecked
  case isTrue => cases hchecked
  case isFalse =>
    split at hchecked
    case isTrue => cases hchecked
    case isFalse =>
      exact (hstart.vmmDevices hchecked fun e he => hc e (by simp [he])).args

end Devices

theorem replays_ofExcept {α : Type} {r : Except Error α} {c : Replies Op Reply} {a : α}
    (h : Replays (ofExcept r).run c (.ok a)) : r = .ok a := by
  cases r with
  | ok b =>
      obtain ⟨hb, -⟩ := replays_pure h
      exact hb.symm
  | error e => cases h

/-! ## Options in and out -/

section Options

variable {boot : Boot} {t : PciTopology} {d : Daemon} {vmName : String} {requirePci : Bool}
  {c : Replies Op Reply} {args : List String}

def Boot.options (boot : Boot) (d : Daemon) (vmName : String) (named : List (String × Bool))
    (inputs : List InputDevice) : List BootOption :=
  (if d.config.hasPciRules vmName then [.isolateHotplug] else []) ++
    named.map (fun x => .vfio (vfioArgument x.1 x.2)) ++
    (boot.host.tables boot.acpiPassthrough vmName).map .acpiTable ++
    (inputs.filterMap (boot.host.inputNode boot.evdevPassthrough vmName)).map
      fun node => .input (inputArgument node)

theorem flatMap_options (named : List (String × Bool)) (inputs : List InputDevice) :
    (boot.options d vmName named inputs).flatMap BootOption.args =
      (if d.config.hasPciRules vmName then ["--vfio-isolate-hotplug"] else []) ++
        named.flatMap vfioArguments ++
        ((boot.host.tables boot.acpiPassthrough vmName).map BootOption.acpiTable).flatMap
          BootOption.args ++
        boot.host.evdevArgs boot.evdevPassthrough vmName inputs := by
  have hisolate : (if d.config.hasPciRules vmName then [BootOption.isolateHotplug] else
      []).flatMap BootOption.args =
      if d.config.hasPciRules vmName then ["--vfio-isolate-hotplug"] else [] := by
    split <;> rfl
  have hnamed : (named.map fun x => BootOption.vfio (vfioArgument x.1 x.2)).flatMap
      BootOption.args = named.flatMap vfioArguments := List.flatMap_map ..
  have hinputs : ((inputs.filterMap (boot.host.inputNode boot.evdevPassthrough vmName)).map
      fun node => BootOption.input (inputArgument node)).flatMap BootOption.args =
      boot.host.evdevArgs boot.evdevPassthrough vmName inputs := List.flatMap_map ..
  rw [Boot.options, List.flatMap_append, List.flatMap_append, List.flatMap_append, hisolate,
    hnamed, hinputs]

theorem replays_boot (h : Replays (boot.vmmArgs d vmName requirePci).run c (.ok args))
    (hc : ∀ e ∈ c, t.Shows e.1 e.2) : ∃ inputs, boot.inputs = .ok inputs ∧
      args = (boot.options d vmName (t.named (t.devicesOf d vmName)) inputs).flatMap
        BootOption.args := by
  obtain ⟨pci, c₁, rest, hpci, hrest, rfl⟩ := replays_bind h
  obtain ⟨tables, c₂, last, htables, hlast, -⟩ := replays_bind hrest
  obtain ⟨inputs, c₃, c₄, hinputs, hend, -⟩ := replays_bind hlast
  obtain ⟨hargs, -⟩ := replays_pure hend
  obtain rfl := Except.ok.inj hargs
  obtain rfl := replays_vmmArgs hpci fun e he => hc e (List.mem_append_left _ he)
  obtain rfl := acpiRules_eq (replays_ofExcept htables)
  refine ⟨inputs, replays_ofExcept hinputs, ?_⟩
  rw [flatMap_options, List.nil_append]

/-- No argument is empty: a table without a name is no file. -/
theorem ne_empty_of_mem_options (hfile : boot.host.isFile "" = false)
    (named : List (String × Bool)) (inputs : List InputDevice) {argument : String}
    (h : argument ∈ (boot.options d vmName named inputs).flatMap BootOption.args) :
    argument ≠ "" := by
  obtain ⟨option, hoption, hargument⟩ := List.mem_flatMap.1 h
  simp only [Boot.options, List.mem_append, List.mem_map] at hoption
  obtain ((hisolate | ⟨x, -, rfl⟩) | ⟨table, htable, rfl⟩) | ⟨node, -, rfl⟩ := hoption
  · split at hisolate
    · obtain rfl := List.mem_singleton.1 hisolate
      obtain rfl := List.mem_singleton.1 hargument
      decide
    · cases hisolate
  · obtain rfl | rfl := List.mem_pair.1 hargument
    · decide
    · exact vfioArgument_ne_empty _ _
  · obtain rfl | rfl := List.mem_pair.1 hargument
    · decide
    · rintro rfl
      rw [isFile_of_mem_tables htable] at hfile
      cases hfile
  · obtain rfl | rfl := List.mem_pair.1 hargument
    · decide
    · exact inputArgument_ne_empty _

/-- Whatever is answered over a topology: arguments that are returned are the options of the VM, its
devices as routed, and a line that is printed of them is taken apart into these options and into
no others. -/
theorem boot_line_read_back (hfile : boot.host.isFile "" = false)
    (h : Replays (boot.vmmArgs d vmName requirePci).run c (.ok args))
    (hc : ∀ e ∈ c, t.Shows e.1 e.2) : ∃ inputs, boot.inputs = .ok inputs ∧
      args = (boot.options d vmName (t.named (t.devicesOf d vmName)) inputs).flatMap
        BootOption.args ∧
      ∀ text, printArgs args = .ok text → ∀ options : List BootOption,
        fields text = options.flatMap BootOption.args ↔
          options = boot.options d vmName (t.named (t.devicesOf d vmName)) inputs := by
  obtain ⟨inputs, hinputs, rfl⟩ := replays_boot h hc
  refine ⟨inputs, hinputs, rfl, fun text htext options => ?_⟩
  obtain ⟨rfl, hspaces⟩ := printArgs_eq_ok htext
  rw [fields_intercalate (fun argument => ne_empty_of_mem_options hfile _ inputs) hspaces]
  constructor
  · intro heq
    exact (BootOption.selfDelimiting.flatMap_injective heq).symm
  · rintro rfl
    rfl

end Options

def cardBoot : Boot where
  host :=
    { userFromName := fun name => .ok (if name = "microvm" then some 980 else none)
      groupFromName := fun _ => .ok none
      chown := fun _ _ _ => .ok ()
      isFile := fun path => path == "/run/nhlt.bin"
      regex := fun _ => none }
  acpiPassthrough :=
    [.object [("targetVm", .string "gui-vm"),
      ("allow", .array [.object [("acpiTable", .string "/run/nhlt.bin"),
        ("setUser", .string "microvm")], .object [("acpiTable", .string "/run/none.bin")]])]]
  evdevPassthrough :=
    [.object [("targetVm", .string "gui-vm"), ("allow", .array [.object
      [("property", .string "ID_INPUT_KEYBOARD"), ("value", .string "1")]])]]
  inputs := .ok
    [{ devnode := some "/dev/input/event3", properties := [("ID_INPUT_KEYBOARD", "1")] },
      { devnode := some "/dev/input/event4",
        properties := [("ID_INPUT_KEYBOARD", "1"), ("ID_BUS", "usb")] }]

def cardLine : List String :=
  cardArgs ++ ["--acpi-table", "/run/nhlt.bin", "--input", "evdev[path=/dev/input/event3]"]

def cardBootReplies : Replies Op Reply :=
  (cardBoot.vmmArgs cardDaemon "gui-vm" true).run.answers react (fun _ _ => {}) cardHost

theorem replays_cardBoot :
    Replays (cardBoot.vmmArgs cardDaemon "gui-vm" true).run cardBootReplies (.ok cardLine) := by
  have hreplays := Program.follow_replays react (fun _ _ => {})
    (cardBoot.vmmArgs cardDaemon "gui-vm" true).run cardHost
  have hargs : ((cardBoot.vmmArgs cardDaemon "gui-vm" true).run.follow react (fun _ _ => {})
      cardHost).2.2 = .ok cardLine := by decide +kernel
  rw [hargs] at hreplays
  exact hreplays

/-- The function is named once, as the card's. The table that does not exist and the keyboard on USB
are left out. -/
theorem boot_line_read_back_card : ∃ inputs, cardBoot.inputs = .ok inputs ∧
    cardLine = (cardBoot.options cardDaemon "gui-vm"
      (cardTopology.named (cardTopology.devicesOf cardDaemon "gui-vm")) inputs).flatMap
        BootOption.args ∧
    ∀ text, printArgs cardLine = .ok text → ∀ options : List BootOption,
      fields text = options.flatMap BootOption.args ↔
        options = cardBoot.options cardDaemon "gui-vm"
          (cardTopology.named (cardTopology.devicesOf cardDaemon "gui-vm")) inputs := by
  have hshows : ∀ e ∈ cardBootReplies, cardTopology.Shows e.1 e.2 := by decide +kernel
  exact boot_line_read_back (by decide) replays_cardBoot hshows

end GhafDeviceManager
