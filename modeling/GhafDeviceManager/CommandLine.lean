import GhafDeviceManager.Answering
import GhafDeviceManager.Listing
import GhafDeviceManager.Parts

/-!
# The command line client

`ghaf-device` makes one action of its arguments, sends it, for boot arguments again until it is
answered or too late, and prints what it is answered or exits with an error. Its arguments are
checked by their parser, which the conversions rely on.
-/

namespace GhafDeviceManager

/-! ## Arguments -/

/-- An argument of a group, with the relations it is declared with. -/
structure Arg where
  id : String
  present : Bool
  required : List String := []
  conflictsWithAll : List String := []

/-- Of a required group with several arguments some are present, with what they require and without
what they conflict with. -/
def accepts (group : List Arg) : Bool :=
  group.any Arg.present && group.all fun arg => !arg.present ||
    group.all fun other => if other.present then !arg.conflictsWithAll.contains other.id
      else !arg.required.contains other.id

structure UsbSelectorArgs where
  deviceNode : Option String := none
  bus : Option UInt32 := none
  port : Option UInt32 := none
  vid : Option String := none
  pid : Option String := none
  tag : Option String := none

namespace UsbSelectorArgs

def group (args : UsbSelectorArgs) : List Arg :=
  [{ id := "devnode", present := args.deviceNode.isSome,
     conflictsWithAll := ["bus", "port", "vid", "pid", "tag"] },
    { id := "bus", present := args.bus.isSome, required := ["port"],
      conflictsWithAll := ["devnode", "vid", "pid", "tag"] },
    { id := "port", present := args.port.isSome, required := ["bus"],
      conflictsWithAll := ["devnode", "vid", "pid", "tag"] },
    { id := "vid", present := args.vid.isSome, required := ["pid"],
      conflictsWithAll := ["devnode", "bus", "port", "tag"] },
    { id := "pid", present := args.pid.isSome, required := ["vid"],
      conflictsWithAll := ["devnode", "bus", "port", "tag"] },
    { id := "tag", present := args.tag.isSome,
      conflictsWithAll := ["devnode", "bus", "port", "vid", "pid"] }]

/-- `From<UsbSelectorArgs> for UsbSelector`; there is none where it panics. -/
def selector : UsbSelectorArgs → Option UsbSelector
  | { deviceNode := some deviceNode, .. } => some (.deviceNode deviceNode)
  | { bus := some bus, port := some port, .. } => some (.busPort bus port)
  | { vid := some vid, pid := some pid, .. } => some (.vidPid vid pid)
  | { tag := some tag, .. } => some (.tag tag)
  | _ => none

/-- The device is as each given argument says. -/
def describes (args : UsbSelectorArgs) (device : UsbDevice) (rule : RuleMatch) : Bool :=
  args.deviceNode.all (fun node => device.deviceNode == some node) &&
    args.bus.all (fun bus => device.bus == some bus.toNat) &&
    args.port.all (fun port => device.rootPort == some port.toNat) &&
    args.vid.all (fun vid => caseEq device.vid (some vid)) &&
    args.pid.all (fun pid => caseEq device.pid (some pid)) &&
    args.tag.all (fun tag => rule.tag == some tag)

end UsbSelectorArgs

structure PciSelectorArgs where
  address : Option String := none
  vid : Option String := none
  did : Option String := none
  tag : Option String := none

namespace PciSelectorArgs

def group (args : PciSelectorArgs) : List Arg :=
  [{ id := "address", present := args.address.isSome,
     conflictsWithAll := ["vid", "did", "tag"] },
    { id := "vid", present := args.vid.isSome, required := ["did"],
      conflictsWithAll := ["address", "tag"] },
    { id := "did", present := args.did.isSome, required := ["vid"],
      conflictsWithAll := ["address", "tag"] },
    { id := "tag", present := args.tag.isSome,
      conflictsWithAll := ["address", "vid", "did"] }]

/-- `From<PciSelectorArgs> for PciSelector`; there is none where it panics. -/
def selector : PciSelectorArgs → Option PciSelector
  | { address := some address, .. } => some (.address address)
  | { vid := some vid, did := some did, .. } => some (.vidDid vid did)
  | { tag := some tag, .. } => some (.tag tag)
  | _ => none

def describes (args : PciSelectorArgs) (device : PciDevice) (rule : RuleMatch) : Bool :=
  args.address.all (fun address => Text.eqIgnoreAsciiCase device.address address) &&
    args.vid.all (fun vid => caseEq device.vendorIdText (some vid)) &&
    args.did.all (fun did => caseEq device.deviceIdText (some did)) &&
    args.tag.all (fun tag => rule.tag == some tag)

end PciSelectorArgs

/-- What is accepted is one way of naming devices, and all of it. -/
theorem UsbSelectorArgs.accepts_iff {args : UsbSelectorArgs} : accepts args.group = true ↔
    (∃ node, args = { deviceNode := some node }) ∨
      (∃ bus port, args = { bus := some bus, port := some port }) ∨
        (∃ vid pid, args = { vid := some vid, pid := some pid }) ∨
          ∃ tag, args = { tag := some tag } := by
  constructor
  · intro h
    obtain ⟨node, bus, port, vid, pid, tag⟩ := args
    cases node <;> cases bus <;> cases port <;> cases vid <;> cases pid <;> cases tag <;>
      simp [accepts, UsbSelectorArgs.group] at h
    case none.none.none.none.none.some tag => exact .inr (.inr (.inr ⟨tag, rfl⟩))
    case none.none.none.some.some.none vid pid => exact .inr (.inr (.inl ⟨vid, pid, rfl⟩))
    case none.some.some.none.none.none bus port => exact .inr (.inl ⟨bus, port, rfl⟩)
    case some.none.none.none.none.none node => exact .inl ⟨node, rfl⟩
  · rintro (⟨node, rfl⟩ | ⟨bus, port, rfl⟩ | ⟨vid, pid, rfl⟩ | ⟨tag, rfl⟩) <;>
      simp [accepts, UsbSelectorArgs.group]

theorem PciSelectorArgs.accepts_iff {args : PciSelectorArgs} : accepts args.group = true ↔
    (∃ address, args = { address := some address }) ∨
      (∃ vid did, args = { vid := some vid, did := some did }) ∨
        ∃ tag, args = { tag := some tag } := by
  constructor
  · intro h
    obtain ⟨address, vid, did, tag⟩ := args
    cases address <;> cases vid <;> cases did <;> cases tag <;>
      simp [accepts, PciSelectorArgs.group] at h
    case none.none.none.some tag => exact .inr (.inr ⟨tag, rfl⟩)
    case none.some.some.none vid did => exact .inr (.inl ⟨vid, did, rfl⟩)
    case some.none.none.none address => exact .inl ⟨address, rfl⟩
  · rintro (⟨address, rfl⟩ | ⟨vid, did, rfl⟩ | ⟨tag, rfl⟩) <;>
      simp [accepts, PciSelectorArgs.group]

theorem usb_selector_describes {args : UsbSelectorArgs} (h : accepts args.group = true) :
    ∃ selector, args.selector = some selector ∧ ∀ device rule,
      selectsUsb selector.toSelector device rule = args.describes device rule := by
  obtain ⟨node, rfl⟩ | ⟨bus, port, rfl⟩ | ⟨vid, pid, rfl⟩ | ⟨tag, rfl⟩ :=
    UsbSelectorArgs.accepts_iff.1 h
  · refine ⟨_, rfl, fun device rule => ?_⟩
    simp [selectsUsb, selectsPair, UsbSelector.toSelector, UsbSelectorArgs.describes]
  · refine ⟨_, rfl, fun device rule => ?_⟩
    simp [selectsUsb, selectsPair, UsbSelector.toSelector, UsbSelectorArgs.describes]
  · refine ⟨_, rfl, fun device rule => ?_⟩
    cases hvid : device.vid <;> cases hpid : device.pid <;>
      simp [selectsUsb, selectsPair, UsbSelector.toSelector, UsbSelectorArgs.describes, hvid, hpid,
        caseEq]
  · refine ⟨_, rfl, fun device rule => ?_⟩
    simp [selectsUsb, selectsPair, UsbSelector.toSelector, UsbSelectorArgs.describes]

theorem pci_selector_describes {args : PciSelectorArgs} (h : accepts args.group = true) :
    ∃ selector, args.selector = some selector ∧ ∀ device rule,
      selectsPci selector.toSelector device rule = args.describes device rule := by
  obtain ⟨address, rfl⟩ | ⟨vid, did, rfl⟩ | ⟨tag, rfl⟩ := PciSelectorArgs.accepts_iff.1 h
  · refine ⟨_, rfl, fun device rule => ?_⟩
    simp [selectsPci, selectsPair, PciSelector.toSelector, PciSelectorArgs.describes]
  · refine ⟨_, rfl, fun device rule => ?_⟩
    cases hvid : device.vendorIdText <;> cases hdid : device.deviceIdText <;>
      simp [selectsPci, selectsPair, PciSelector.toSelector, PciSelectorArgs.describes, hvid, hdid,
        caseEq]
  · refine ⟨_, rfl, fun device rule => ?_⟩
    simp [selectsPci, selectsPair, PciSelector.toSelector, PciSelectorArgs.describes]

/-- Whatever selector arguments the parser lets through make a selector, which the daemon reads as
it was sent and by which it takes just the routed devices that every given argument describes. -/
theorem arguments_name_devices {allowed : World → Op → Choice → Prop} (d : Daemon)
    {usb : UsbSelectorArgs} {pci : PciSelectorArgs} (husb : accepts usb.group = true)
    (hpci : accepts pci.group = true) :
    (∃ selector, usb.selector = some selector ∧
      (∀ vm, Action.decode (Action.usbAttach selector vm).encode =
        some (.usbAttach selector vm)) ∧
      Action.decode (Action.usbDetach selector).encode = some (.usbDetach selector) ∧
      ∀ w tr w' xs, Exec (machine allowed) (selectedUsb d selector.toSelector).run w tr w'
          (some (.ok xs)) →
        xs = (w.usbRouted d).filter fun x => usb.describes x.1 x.2) ∧
    ∃ selector, pci.selector = some selector ∧
      (∀ vm, Action.decode (Action.pciAttach selector vm).encode =
        some (.pciAttach selector vm)) ∧
      Action.decode (Action.pciDetach selector).encode = some (.pciDetach selector) ∧
      ∀ w tr w' xs, Exec (machine allowed) (selectedPci d selector.toSelector).run w tr w'
          (some (.ok xs)) →
        xs = (w.pciRouted d).filter fun x => pci.describes x.1 x.2 := by
  constructor
  · obtain ⟨selector, hselector, hdescribes⟩ := usb_selector_describes husb
    refine ⟨selector, hselector, fun vm => Action.decode_encode _, Action.decode_encode _, ?_⟩
    intro w tr w' xs hexec
    have hselected := (Program.wp_sound (G := fun _ _ => True) (wp_selectedUsb trivial) hexec).2
    rw [(hselected _ rfl).2 xs rfl]
    exact List.filter_congr fun x _ => hdescribes x.1 x.2
  · obtain ⟨selector, hselector, hdescribes⟩ := pci_selector_describes hpci
    refine ⟨selector, hselector, fun vm => Action.decode_encode _, Action.decode_encode _, ?_⟩
    intro w tr w' xs hexec
    have hselected := (Program.wp_sound (G := fun _ _ => True)
      (wp_selectedPci trivial fun _ => trivial) hexec).2
    rw [(hselected _ rfl).2 xs rfl]
    exact List.filter_congr fun x _ => hdescribes x.1 x.2

def cameraArgs : UsbSelectorArgs := { vid := some "04f2", pid := some "b751" }

def audioArgs : PciSelectorArgs := { tag := some "audio" }

def cameraDaemon : Daemon where
  config :=
    { usbPassthrough := [.object [("targetVm", .string "gui-vm"), ("allow", .array [.object
        [("vendorId", .string "04F2"), ("productId", .string "b751")]])]]
      pciPassthrough := [.object [("targetVm", .string "gui-vm"), ("tag", .string "audio"),
        ("allow", .array [.object [("address", .string "0000:00:1f.3")]])]]
      vms := [guiVm] }
  host := Host.plain

def cameraHost : World where
  daemon := cameraDaemon
  bus := { entries := [{ name := "1-6", files := [("busnum", "1"), ("devnum", "3"),
    ("idVendor", "04f2"), ("idProduct", "b751")] }] }
  pci := [{ address := "0000:00:1f.3" }]

/-- One camera and one function are there to be selected. -/
theorem arguments_name_devices_camera :
    (((cameraHost.usbRouted cameraDaemon).filter fun x =>
      cameraArgs.describes x.1 x.2).length = 1 ∧
    ((cameraHost.pciRouted cameraDaemon).filter fun x =>
      audioArgs.describes x.1 x.2).length = 1) ∧
    (∃ selector, cameraArgs.selector = some selector ∧
      (∀ vm, Action.decode (Action.usbAttach selector vm).encode =
        some (.usbAttach selector vm)) ∧
      Action.decode (Action.usbDetach selector).encode = some (.usbDetach selector) ∧
      ∀ w tr w' xs, Exec (machine anyChoice) (selectedUsb cameraDaemon selector.toSelector).run
          w tr w' (some (.ok xs)) →
        xs = (w.usbRouted cameraDaemon).filter fun x => cameraArgs.describes x.1 x.2) ∧
    ∃ selector, audioArgs.selector = some selector ∧
      (∀ vm, Action.decode (Action.pciAttach selector vm).encode =
        some (.pciAttach selector vm)) ∧
      Action.decode (Action.pciDetach selector).encode = some (.pciDetach selector) ∧
      ∀ w tr w' xs, Exec (machine anyChoice) (selectedPci cameraDaemon selector.toSelector).run
          w tr w' (some (.ok xs)) →
        xs = (w.pciRouted cameraDaemon).filter fun x => audioArgs.describes x.1 x.2 :=
  ⟨⟨by decide +kernel, by decide +kernel⟩,
    arguments_name_devices cameraDaemon (by decide) (by decide)⟩

/-! ## Commands -/

inductive OutputKind
  | usb (short : Bool)
  | pci (short : Bool)
  | vmm

/-- A floating point number, by what its checks tell apart. -/
inductive F64
  | nan
  | infinite (negative : Bool)
  | finite (value : ℚ)

inductive ClientCommand
  | usbAttach (selector : UsbSelectorArgs) (vm : Option String)
  | usbDetach (selector : UsbSelectorArgs)
  | usbList (connected disconnected short : Bool) (tag : Option String)
  | usbSuspend (vm : Option String)
  | usbResume (vm : Option String)
  | pciAttach (selector : PciSelectorArgs) (vm : Option String)
  | pciDetach (selector : PciSelectorArgs)
  | pciList (connected disconnected short : Bool) (tag : Option String)
  | pciSuspend (vm : Option String)
  | pciResume (vm : Option String)
  | vmmArgs (vm : String) (qemuBusPrefix : Option String) (qemuBusStartIndex : Option UInt32)
    (timeout : F64) (requirePci : Bool)

namespace ClientCommand

def accepted : ClientCommand → Bool
  | usbAttach selector _ | usbDetach selector => accepts selector.group
  | pciAttach selector _ | pciDetach selector => accepts selector.group
  | usbList connected disconnected _ _ | pciList connected disconnected _ _ =>
    !(connected && disconnected)
  | _ => true

def filter (connected disconnected : Bool) : Option Bool :=
  if connected then some false else if disconnected then some true else none

/-- The message and how its reply is shown; there is none where a conversion panics. -/
def message : ClientCommand → Option (Action × Option OutputKind)
  | usbAttach selector vm => do return (.usbAttach (← selector.selector) vm, none)
  | usbDetach selector => do return (.usbDetach (← selector.selector), none)
  | usbList connected disconnected short tag =>
    some (.usbList (filter connected disconnected) tag, some (.usb short))
  | usbSuspend vm => some (.usbSuspend vm, none)
  | usbResume vm => some (.usbResume vm, none)
  | pciAttach selector vm => do return (.pciAttach (← selector.selector) vm, none)
  | pciDetach selector => do return (.pciDetach (← selector.selector), none)
  | pciList connected disconnected short tag =>
    some (.pciList (filter connected disconnected) tag, some (.pci short))
  | pciSuspend vm => some (.pciSuspend vm, none)
  | pciResume vm => some (.pciResume vm, none)
  | vmmArgs vm qemuBusPrefix qemuBusStartIndex _ requirePci =>
    some (.vmmArgs vm qemuBusPrefix qemuBusStartIndex requirePci, some .vmm)

/-- The seconds of a deadline, where there are so many: `Duration::from_secs_f64` panics beyond. -/
def fromSecs (value : ℚ) : Option ℚ := if value < 2 ^ 64 then some value else none

def deadline : ClientCommand → Option (Except Error ℚ)
  | vmmArgs _ _ _ timeout _ =>
    match timeout with
    | .finite value =>
      if value < 0 then some (.error ["VMM argument timeout must be a finite non-negative number"])
      else (fromSecs value).map .ok
    | _ => some (.error ["VMM argument timeout must be a finite non-negative number"])
  | _ => some (.ok 10)

def timeout? : ClientCommand → Option F64
  | vmmArgs _ _ _ timeout _ => some timeout
  | _ => none

end ClientCommand

/-- What `run` goes on with. -/
structure Sending where
  message : Action
  deadline : ℚ
  output : Option OutputKind

def ClientCommand.request (command : ClientCommand) : Option (Except Error Sending) := do
  let (message, output) ← command.message
  return (← command.deadline).map fun deadline => { message, deadline, output }

inductive TransportKind
  | unix
  | tcp
  | vsock

inductive Transport
  | unix (path : String)
  | tcp (host : String) (port : UInt16)
  | vsock (cid port : UInt32)

structure Cli where
  transport : Option TransportKind := none
  path : String := "/var/lib/vhotplug/vhotplug.sock"
  host : String := "127.0.0.1"
  netPort : UInt32 := 2000
  cid : UInt32 := 2
  command : ClientCommand

namespace Cli

/-- `transport` -/
def connection (runningInVm : Bool) (cli : Cli) : Except Error Transport :=
  match cli.transport.getD (if runningInVm then .vsock else .unix) with
  | .unix => .ok (.unix cli.path)
  | .tcp =>
    if h : cli.netPort.toNat < 2 ^ 16 then .ok (.tcp cli.host (UInt16.ofNatLT cli.netPort.toNat h))
    else .error ["TCP port must be at most 65535",
      "out of range integral type conversion attempted"]
  | .vsock => .ok (.vsock cli.cid cli.netPort)

/-- `run` up to its request; there is none where it panics. -/
def request (runningInVm : Bool) (cli : Cli) : Option (Except Error (Transport × Sending)) :=
  match cli.connection runningInVm with
  | .error e => some (.error e)
  | .ok transport => cli.command.request.map fun r => r.map fun sending => (transport, sending)

end Cli

/-! ## Attempts -/

/-- One call of `request`. -/
inductive Attempt
  /-- It was not connected, nothing was sent or read, or the deadline passed. -/
  | broken (e : Error)
  /-- Over the connection at this place of the server's list. -/
  | exchanged (place : ℕ) (received : List Value) (ended : Bool)

namespace Attempt

def outcome : Attempt → Option (Except Error Response)
  | broken e => some (.error e)
  | exchanged _ received ended => exchange received ended

/-- Its line is all that the server was sent over its connection, and what it read came from
there. -/
def Sends (s : Server) (message : Action) : Attempt → Prop
  | broken _ => True
  | exchanged place received _ => ∃ c, s.connections[place]? = some c ∧
      c.read <+: [.json message.encode] ∧ received <+: c.wire

def Fails : Attempt → Error → Prop
  | broken e, cause => cause = e
  | exchanged _ received ended, cause =>
      received = [] ∧ ended = true ∧ cause = ["API connection closed by remote"]

end Attempt

/-- Attempts one after another, each with the time elapsed by its end; after one that fails within
the deadline the client sleeps and tries again. -/
def requestWithRetry (deadline : ℚ) : List (Attempt × ℚ) → Option (Except Error Response)
  | [] => none
  | (attempt, elapsed) :: rest =>
    match attempt.outcome with
    | some (.error e) =>
      if elapsed < deadline then requestWithRetry deadline rest
      else some (.error ("timed out waiting for ghaf-device-manager" :: e))
    | answer => answer

def Sending.answer (sending : Sending) (attempts : List (Attempt × ℚ)) :
    Option (Except Error Response) :=
  match sending.output with
  | some .vmm => requestWithRetry sending.deadline attempts
  | _ => attempts.head?.bind fun x => x.1.outcome

/-! ## Replies -/

/-- What `run` writes to its standard output, or the error it ends with; there would be none if it
panicked. -/
def finish (tables : CharTables) (json : Value → String) (output : Option OutputKind) :
    Response → Option (Except Error String)
  | .failed error => some (.error [error])
  | .ok payload =>
    match output, payload with
    | some (.usb short), .usbList response =>
      (printUsb tables json short response.usbDevices).map fun lines => .ok (printedText lines)
    | some (.pci short), .pciList response =>
      (printPci tables json short response.pciDevices).map fun lines => .ok (printedText lines)
    | some .vmm, .vmmArgs response => some (printArgs response.vmmArgs)
    | some _, _ => some (.error ["unexpected response payload"])
    | none, _ => some (.ok "")

/-- What the client shows of what the daemon came to. -/
inductive Reports (tables : CharTables) (json : Value → String) :
    Option OutputKind → Except Error ResponsePayload → Except Error String → Prop
  | failed (output : Option OutputKind) (e : Error) :
      Reports tables json output (.error e) (.error [Error.text e])
  | done : Reports tables json none (.ok .none) (.ok "")
  | usb {short : Bool} {items : List UsbListItem} {lines : List String}
      (h : printUsb tables json short items = some lines) :
      Reports tables json (some (.usb short)) (.ok (.usbList ⟨items⟩)) (.ok (printedText lines))
  | pci {short : Bool} {items : List PciListItem} {lines : List String}
      (h : printPci tables json short items = some lines) :
      Reports tables json (some (.pci short)) (.ok (.pciList ⟨items⟩)) (.ok (printedText lines))
  | vmm (args : List String) :
      Reports tables json (some .vmm) (.ok (.vmmArgs ⟨args⟩)) (printArgs args)

section Reports

variable {tables : CharTables} {json : Value → String} {short : Bool}

theorem printEach_map {α β : Type} (print : β → Option (List String)) (f : α → β) (items : List α) :
    printEach print (items.map f) = printEach (fun a => print (f a)) items := by
  induction items with
  | nil => rfl
  | cons item items ih => rw [List.map_cons, printEach, printEach, ih]

theorem printUsb_sent (items : List UsbListItem) :
    printUsb tables json short (items.map UsbListItem.sent) = printUsb tables json short items :=
  printEach_map _ _ items

theorem canReturn_bind {α β : Type} {p : Program Op Reply α} {f : α → Program Op Reply β} {b : β}
    (h : (p >>= f).CanReturn b) : ∃ a, p.CanReturn a ∧ (f a).CanReturn b := by
  induction p with
  | pure a => exact ⟨a, Program.canReturn_pure.2 rfl, h⟩
  | call op next ih =>
      obtain ⟨c, hc⟩ := h
      cases hc with
      | call hrest =>
          obtain ⟨a, ha, hb⟩ := ih _ ⟨_, hrest⟩
          exact ⟨a, ha.call, hb⟩

theorem canReturn_map {α β : Type} {p : Act α} {f : α → β} {r : Except Error β}
    (h : (p >>= fun a => pure (f a)).run.CanReturn r) :
    (∃ e, r = .error e) ∨ ∃ a, r = .ok (f a) := by
  obtain ⟨result, -, hresult⟩ := canReturn_bind h
  cases result with
  | error e => exact .inl ⟨e, Program.canReturn_pure.1 hresult⟩
  | ok a => exact .inr ⟨a, Program.canReturn_pure.1 hresult⟩

theorem finish_error (output : Option OutputKind) (e : Error) :
    finish tables json output (Response.ofResult (.error e)).sent =
      some (.error [Error.text e]) := rfl

theorem reports_usbList (short : Bool) (items : List UsbListItem) :
    ∃ report, finish tables json (some (.usb short))
      (Response.ofResult (.ok (.usbList ⟨items⟩))).sent = some report ∧
        Reports tables json (some (.usb short)) (.ok (.usbList ⟨items⟩)) report := by
  obtain ⟨lines, hlines⟩ := unforgeable_printEach (printUsbDevice_block tables json short) items
  have hprinted : printUsb tables json short items = some lines := hlines.printed
  refine ⟨.ok (printedText lines), ?_, .usb hprinted⟩
  change (printUsb tables json short (items.map UsbListItem.sent)).map _ = _
  rw [printUsb_sent, hprinted]
  rfl

theorem reports_pciList (short : Bool) (items : List PciListItem) :
    ∃ report, finish tables json (some (.pci short))
      (Response.ofResult (.ok (.pciList ⟨items⟩))).sent = some report ∧
        Reports tables json (some (.pci short)) (.ok (.pciList ⟨items⟩)) report := by
  obtain ⟨lines, hlines⟩ := unforgeable_printEach (printPciDevice_block tables json short) items
  have hprinted : printPci tables json short items = some lines := hlines.printed
  refine ⟨.ok (printedText lines), ?_, .pci hprinted⟩
  change (printPci tables json short items).map _ = _
  rw [hprinted]
  rfl

/-- Whatever handling the message comes to is shown as what it is. -/
theorem reports_of_canReturn {command : ClientCommand} {action : Action}
    {output : Option OutputKind} (h : command.message = some (action, output)) {d : Daemon}
    {boot : Boot} {result : Except Error ResponsePayload}
    (hresult : (handleInner d boot action).run.CanReturn result) :
    ∃ report, finish tables json output (Response.ofResult result).sent = some report ∧
      Reports tables json output result report := by
  have hfailed : ∀ e, ∃ report,
      finish tables json output (Response.ofResult (.error e)).sent = some report ∧
        Reports tables json output (.error e) report := fun e =>
    ⟨_, finish_error output e, .failed output e⟩
  have hplain : ∀ p : Act Unit, output = none →
      (p >>= fun _ => pure ResponsePayload.none).run.CanReturn result →
        ∃ report, finish tables json output (Response.ofResult result).sent = some report ∧
          Reports tables json output result report := by
    intro p houtput hreturn
    obtain ⟨e, rfl⟩ | ⟨_, rfl⟩ := canReturn_map hreturn
    · exact hfailed e
    · subst houtput
      exact ⟨_, rfl, .done⟩
  cases command with
  | usbAttach args vm =>
      obtain ⟨selector, -, hrequest⟩ := Option.bind_eq_some_iff.1 h
      obtain ⟨rfl, rfl⟩ := Prod.mk.inj (Option.some.inj hrequest)
      exact hplain _ rfl hresult
  | usbDetach args =>
      obtain ⟨selector, -, hrequest⟩ := Option.bind_eq_some_iff.1 h
      obtain ⟨rfl, rfl⟩ := Prod.mk.inj (Option.some.inj hrequest)
      exact hplain _ rfl hresult
  | usbList connected disconnected short tag =>
      obtain ⟨rfl, rfl⟩ := Prod.mk.inj (Option.some.inj h)
      obtain ⟨e, rfl⟩ | ⟨items, rfl⟩ := canReturn_map hresult
      · exact hfailed e
      · exact reports_usbList short _
  | usbSuspend vm =>
      obtain ⟨rfl, rfl⟩ := Prod.mk.inj (Option.some.inj h)
      exact hplain _ rfl hresult
  | usbResume vm =>
      obtain ⟨rfl, rfl⟩ := Prod.mk.inj (Option.some.inj h)
      exact hplain _ rfl hresult
  | pciAttach args vm =>
      obtain ⟨selector, -, hrequest⟩ := Option.bind_eq_some_iff.1 h
      obtain ⟨rfl, rfl⟩ := Prod.mk.inj (Option.some.inj hrequest)
      exact hplain _ rfl hresult
  | pciDetach args =>
      obtain ⟨selector, -, hrequest⟩ := Option.bind_eq_some_iff.1 h
      obtain ⟨rfl, rfl⟩ := Prod.mk.inj (Option.some.inj hrequest)
      exact hplain _ rfl hresult
  | pciList connected disconnected short tag =>
      obtain ⟨rfl, rfl⟩ := Prod.mk.inj (Option.some.inj h)
      obtain ⟨e, rfl⟩ | ⟨items, rfl⟩ := canReturn_map hresult
      · exact hfailed e
      · exact reports_pciList short _
  | pciSuspend vm =>
      obtain ⟨rfl, rfl⟩ := Prod.mk.inj (Option.some.inj h)
      exact hplain _ rfl hresult
  | pciResume vm =>
      obtain ⟨rfl, rfl⟩ := Prod.mk.inj (Option.some.inj h)
      exact hplain _ rfl hresult
  | vmmArgs vm qemuBusPrefix qemuBusStartIndex timeout requirePci =>
      obtain ⟨rfl, rfl⟩ := Prod.mk.inj (Option.some.inj h)
      obtain ⟨e, rfl⟩ | ⟨args, rfl⟩ := canReturn_map hresult
      · exact hfailed e
      · exact ⟨_, rfl, .vmm args⟩

end Reports

/-! ## From the command line to the daemon and back -/

/-- What the parser lets through has a message. -/
theorem ClientCommand.exists_message {command : ClientCommand} (h : command.accepted = true) :
    ∃ action output, command.message = some (action, output) := by
  cases command with
  | usbAttach args vm =>
      obtain ⟨selector, hselector, -⟩ := usb_selector_describes h
      exact ⟨_, _, by rw [message, hselector]; rfl⟩
  | usbDetach args =>
      obtain ⟨selector, hselector, -⟩ := usb_selector_describes h
      exact ⟨_, _, by rw [message, hselector]; rfl⟩
  | pciAttach args vm =>
      obtain ⟨selector, hselector, -⟩ := pci_selector_describes h
      exact ⟨_, _, by rw [message, hselector]; rfl⟩
  | pciDetach args =>
      obtain ⟨selector, hselector, -⟩ := pci_selector_describes h
      exact ⟨_, _, by rw [message, hselector]; rfl⟩
  | _ => exact ⟨_, _, rfl⟩

theorem ClientCommand.deadline_eq_none {command : ClientCommand} :
    command.deadline = none ↔
      ∃ value : ℚ, command.timeout? = some (.finite value) ∧ 2 ^ 64 ≤ value := by
  cases command with
  | vmmArgs vm qemuBusPrefix qemuBusStartIndex timeout requirePci =>
      cases timeout with
      | finite value =>
          by_cases hnegative : value < 0
          · have hsmall : ¬(2 ^ 64 : ℚ) ≤ value := by
              have hpositive : (0 : ℚ) < 2 ^ 64 := by norm_num
              exact not_le.2 (hnegative.trans hpositive)
            simp [deadline, timeout?, hnegative, hsmall]
          · by_cases hlarge : value < 2 ^ 64
            · simp [deadline, timeout?, hnegative, fromSecs, hlarge]
            · simp [deadline, timeout?, hnegative, fromSecs, hlarge, not_lt.1 hlarge]
      | nan => simp [deadline, timeout?]
      | infinite negative => simp [deadline, timeout?]
  | _ => simp [deadline, timeout?]

theorem ClientCommand.request_eq {command : ClientCommand} {action : Action}
    {output : Option OutputKind} (h : command.message = some (action, output)) :
    command.request = command.deadline.map fun r => r.map fun deadline =>
      { message := action, deadline, output } := by
  rw [request, h]
  cases command.deadline <;> rfl

/-- The connection options come first; then it can only be the timeout. -/
theorem Cli.request_eq_none {cli : Cli} {runningInVm : Bool}
    (haccepted : cli.command.accepted = true) : cli.request runningInVm = none ↔
      (∃ transport, cli.connection runningInVm = .ok transport) ∧
        ∃ value : ℚ, cli.command.timeout? = some (.finite value) ∧ 2 ^ 64 ≤ value := by
  obtain ⟨action, output, hmessage⟩ := ClientCommand.exists_message haccepted
  rw [← ClientCommand.deadline_eq_none]
  unfold Cli.request
  cases cli.connection runningInVm with
  | error e => simp
  | ok transport => simp [ClientCommand.request_eq hmessage]

theorem Cli.message_of_request {cli : Cli} {runningInVm : Bool} {transport : Transport}
    {sending : Sending} (h : cli.request runningInVm = some (.ok (transport, sending))) :
    cli.command.message = some (sending.message, sending.output) := by
  unfold Cli.request at h
  cases hconnection : cli.connection runningInVm with
  | error e =>
      rw [hconnection] at h
      cases h
  | ok transport' =>
      rw [hconnection] at h
      obtain ⟨r, hr, hmap⟩ := Option.map_eq_some_iff.1 h
      cases hmessage : cli.command.message with
      | none =>
          rw [ClientCommand.request, hmessage] at hr
          cases hr
      | some x =>
          rw [ClientCommand.request_eq hmessage] at hr
          obtain ⟨deadline, -, rfl⟩ := Option.map_eq_some_iff.1 hr
          cases deadline with
          | error e => cases hmap
          | ok seconds =>
              obtain ⟨-, rfl⟩ := Prod.mk.inj (Except.ok.inj hmap)
              rfl

section Attempts

variable {api : Api} {w : World} {transports : List ApiTransport} {run : List Server} {s : Server}
  {message : Action} {attempt : Attempt} {attempts : List (Attempt × ℚ)} {deadline : ℚ}
  {answer : Except Error Response}

/-- What one call of `request` comes to: a failure to get a reply, or the reply of the run. -/
theorem Attempt.outcome_of_runs (hrun : Server.Runs api (.start w transports) run s)
    (hsends : attempt.Sends s message) (h : attempt.outcome = some answer) :
    (∃ cause, attempt.Fails cause ∧ answer = .error cause) ∨
      ∃ place received ended result, attempt = .exchanged place received ended ∧
        CameTo run place (.json message.encode) result ∧
          answer = .ok (Response.ofResult result).sent := by
  cases attempt with
  | broken e => exact .inl ⟨e, rfl, (Option.some.inj h).symm⟩
  | exchanged place received ended =>
      obtain ⟨c, hc, hread, hreceived⟩ := hsends
      cases received with
      | nil =>
          cases ended with
          | false => cases h
          | true => exact .inl ⟨_, ⟨rfl, rfl, rfl⟩, (Option.some.inj h).symm⟩
      | cons first rest =>
          obtain ⟨result, hcame, hexchange⟩ := exchange_answers hrun hc hread hreceived ended
          obtain rfl := Option.some.inj (hexchange.symm.trans h)
          exact .inr ⟨place, _, ended, result, rfl, hcame, rfl⟩

/-- The attempt that ends the request: all before it fail within the deadline. -/
structure LastAttempt (retries : Prop) (deadline : ℚ) (attempts : List (Attempt × ℚ))
    (attempt : Attempt) (elapsed : ℚ) : Prop where
  split : ∃ before rest, attempts = before ++ (attempt, elapsed) :: rest ∧
    (before ≠ [] → retries) ∧ ∀ b ∈ before, b.2 < deadline ∧ ∃ cause, b.1.Fails cause

theorem requestWithRetry_last (hrun : Server.Runs api (.start w transports) run s)
    (hsends : ∀ a ∈ attempts, a.1.Sends s message)
    (h : requestWithRetry deadline attempts = some answer) : ∃ attempt elapsed,
      LastAttempt True deadline attempts attempt elapsed ∧ attempt.Sends s message ∧
        ((∃ response, answer = .ok response ∧ attempt.outcome = some answer) ∨
          ∃ cause, attempt.outcome = some (.error cause) ∧ deadline ≤ elapsed ∧
            answer = .error ("timed out waiting for ghaf-device-manager" :: cause)) := by
  induction attempts with
  | nil => cases h
  | cons first rest ih =>
      obtain ⟨attempt, elapsed⟩ := first
      obtain ⟨hfirst, hrest⟩ := List.forall_mem_cons.1 hsends
      have hlast : LastAttempt True deadline ((attempt, elapsed) :: rest) attempt elapsed :=
        ⟨[], rest, rfl, fun _ => trivial, List.forall_mem_nil _⟩
      rw [requestWithRetry] at h
      cases houtcome : attempt.outcome with
      | none =>
          rw [houtcome] at h
          cases h
      | some outcome =>
          rw [houtcome] at h
          cases outcome with
          | ok response =>
              obtain rfl := Option.some.inj h
              exact ⟨attempt, elapsed, hlast, hfirst, .inl ⟨response, rfl, houtcome⟩⟩
          | error cause =>
              dsimp only at h
              by_cases hwithin : elapsed < deadline
              · rw [if_pos hwithin] at h
                obtain ⟨last, time, ⟨before, after, hsplit, -, hbefore⟩, hlastSends, hends⟩ :=
                  ih hrest h
                obtain ⟨cause', hfails, -⟩ | ⟨_, _, _, _, _, _, hok⟩ :=
                  Attempt.outcome_of_runs hrun hfirst houtcome
                · refine ⟨last, time, ⟨(attempt, elapsed) :: before, after, ?_, fun _ => trivial,
                    List.forall_mem_cons.2 ⟨⟨hwithin, cause', hfails⟩, hbefore⟩⟩, hlastSends,
                    hends⟩
                  rw [hsplit]
                  rfl
                · cases hok
              · rw [if_neg hwithin] at h
                obtain rfl := Option.some.inj h
                exact ⟨attempt, elapsed, hlast, hfirst,
                  .inr ⟨cause, houtcome, not_lt.1 hwithin, rfl⟩⟩

end Attempts

/-- How a request ends with this attempt, and what is shown of it. -/
inductive Ends (tables : CharTables) (json : Value → String) (run : List Server)
    (sending : Sending) (attempt : Attempt) (elapsed : ℚ) : Except Error Response → Prop
  | failed {cause : Error} (hfails : attempt.Fails cause) (honce : sending.output ≠ some .vmm) :
      Ends tables json run sending attempt elapsed (.error cause)
  | timedOut {cause : Error} (hfails : attempt.Fails cause) (hretries : sending.output = some .vmm)
      (hlate : sending.deadline ≤ elapsed) :
      Ends tables json run sending attempt elapsed
        (.error ("timed out waiting for ghaf-device-manager" :: cause))
  | answered {place : ℕ} {received : List Value} {ended : Bool} {response : Response}
      {result : Except Error ResponsePayload} {report : Except Error String}
      (hattempt : attempt = .exchanged place received ended)
      (hcame : CameTo run place (.json sending.message.encode) result)
      (hfinish : finish tables json sending.output response = some report)
      (hreports : Reports tables json sending.output result report) :
      Ends tables json run sending attempt elapsed (.ok response)

section Ends

variable {tables : CharTables} {json : Value → String} {api : Api} {w : World}
  {transports : List ApiTransport} {run : List Server} {s : Server} {command : ClientCommand}
  {sending : Sending} {attempt : Attempt} {elapsed : ℚ}

theorem ends_answered (hrun : Server.Runs api (.start w transports) run s)
    (hmessage : command.message = some (sending.message, sending.output)) {place : ℕ}
    {received : List Value} {ended : Bool} {result : Except Error ResponsePayload}
    (hattempt : attempt = .exchanged place received ended)
    (hcame : CameTo run place (.json sending.message.encode) result) :
    Ends tables json run sending attempt elapsed (.ok (Response.ofResult result).sent) := by
  have hreturns := hcame.canReturn hrun (Action.decode_encode sending.message)
  obtain ⟨report, hfinish, hreports⟩ := reports_of_canReturn hmessage hreturns
  exact .answered hattempt hcame hfinish hreports

theorem ends_of_retry (hrun : Server.Runs api (.start w transports) run s)
    (hmessage : command.message = some (sending.message, sending.output))
    (hretries : sending.output = some .vmm) {attempts : List (Attempt × ℚ)}
    (hsends : ∀ a ∈ attempts, a.1.Sends s sending.message) {answer : Except Error Response}
    (h : requestWithRetry sending.deadline attempts = some answer) : ∃ attempt elapsed,
      LastAttempt (sending.output = some .vmm) sending.deadline attempts attempt elapsed ∧
        Ends tables json run sending attempt elapsed answer := by
  obtain ⟨attempt, elapsed, ⟨before, rest, hsplit, -, hbefore⟩, hlast, hends⟩ :=
    requestWithRetry_last hrun hsends h
  refine ⟨attempt, elapsed, ⟨before, rest, hsplit, fun _ => hretries, hbefore⟩, ?_⟩
  obtain ⟨response, rfl, houtcome⟩ | ⟨cause, houtcome, hlate, rfl⟩ := hends
  · obtain ⟨_, _, herror⟩ | ⟨place, received, ended, result, hattempt, hcame, hok⟩ :=
      Attempt.outcome_of_runs hrun hlast houtcome
    · cases herror
    · obtain rfl := Except.ok.inj hok
      exact ends_answered hrun hmessage hattempt hcame
  · obtain ⟨_, hfails, herror⟩ | ⟨_, _, _, _, _, _, hok⟩ :=
      Attempt.outcome_of_runs hrun hlast houtcome
    · obtain rfl := Except.error.inj herror
      exact .timedOut hfails hretries hlate
    · cases hok

theorem ends_of_once (hrun : Server.Runs api (.start w transports) run s)
    (hmessage : command.message = some (sending.message, sending.output))
    (honce : sending.output ≠ some .vmm) {attempts : List (Attempt × ℚ)}
    (hsends : ∀ a ∈ attempts, a.1.Sends s sending.message) {answer : Except Error Response}
    (h : (attempts.head?.bind fun x => x.1.outcome) = some answer) : ∃ attempt elapsed,
      LastAttempt (sending.output = some .vmm) sending.deadline attempts attempt elapsed ∧
        Ends tables json run sending attempt elapsed answer := by
  cases attempts with
  | nil => cases h
  | cons first rest =>
      obtain ⟨attempt, elapsed⟩ := first
      have hfirst := hsends _ List.mem_cons_self
      refine ⟨attempt, elapsed, ⟨[], rest, rfl, fun hne => absurd rfl hne,
        List.forall_mem_nil _⟩, ?_⟩
      obtain ⟨_, hfails, rfl⟩ | ⟨place, received, ended, result, hattempt, hcame, rfl⟩ :=
        Attempt.outcome_of_runs hrun hfirst h
      · exact .failed hfails honce
      · exact ends_answered hrun hmessage hattempt hcame

theorem Sending.answer_of_retries {attempts : List (Attempt × ℚ)}
    (h : sending.output = some .vmm) :
    sending.answer attempts = requestWithRetry sending.deadline attempts := by
  rw [answer, h]

theorem Sending.answer_of_once {attempts : List (Attempt × ℚ)}
    (h : sending.output ≠ some .vmm) :
    sending.answer attempts = attempts.head?.bind fun x => x.1.outcome := by
  unfold answer
  split
  case h_1 hvmm => exact absurd hvmm h
  case h_2 => rfl

/-- Whatever the parser lets through panics only at a timeout beyond any duration. What is sent is
one message, once or, for boot arguments, again after each failure within the deadline; and in
every run of the server the request ends with the failure of its last attempt or with what the
handling of that attempt came to: an error as it is, a list as it is printed, and never a reply that
was not expected. -/
theorem client_reports (tables : CharTables) (json : Value → String) {cli : Cli}
    (runningInVm : Bool) (hrun : Server.Runs api (.start w transports) run s)
    (haccepted : cli.command.accepted = true) :
    (cli.request runningInVm = none ↔
      (∃ transport, cli.connection runningInVm = .ok transport) ∧
        ∃ value : ℚ, cli.command.timeout? = some (.finite value) ∧ 2 ^ 64 ≤ value) ∧
    ∀ transport sending attempts answer,
      cli.request runningInVm = some (.ok (transport, sending)) →
        (∀ a ∈ attempts, a.1.Sends s sending.message) → sending.answer attempts = some answer →
          ∃ attempt elapsed,
            LastAttempt (sending.output = some .vmm) sending.deadline attempts attempt elapsed ∧
              Ends tables json run sending attempt elapsed answer := by
  refine ⟨Cli.request_eq_none haccepted, ?_⟩
  intro transport sending attempts answer hrequest hsends hanswer
  have hmessage := Cli.message_of_request hrequest
  by_cases hretries : sending.output = some .vmm
  · rw [Sending.answer_of_retries hretries] at hanswer
    exact ends_of_retry hrun hmessage hretries hsends hanswer
  · rw [Sending.answer_of_once hretries] at hanswer
    exact ends_of_once hrun hmessage hretries hsends hanswer

end Ends

/-! ### A client that suspends all devices -/

def suspendLine : Line := .json (Action.usbSuspend none).encode

def suspending : Connection :=
  { Connection.accepted .unix 0 plainHost with
    read := [suspendLine]
    phase := .handling suspendLine
      (handleInner plainHost.daemon guestApi.boot (.usbSuspend none)).run }

theorem handleLine_suspendLine : (Connection.accepted .unix 0 plainHost).handleLine guestApi
    plainHost.daemon suspendLine = suspending := by
  have hline : suspendLine.action? = some (.usbSuspend none) := Action.decode_encode _
  rw [Connection.handleLine, hline]
  rfl

def suspendCli : Cli := { command := .usbSuspend none }

/-- Its reply is sent. -/
theorem client_reports_suspended : ∃ (run : List Server) (s : Server) (c : Connection),
    s.connections[0]? = some c ∧ c.wire.length = 1 ∧
    Server.Runs guestApi (.start plainHost [.unix, .vsock]) run s ∧
    (suspendCli.request false = none ↔
      (∃ transport, suspendCli.connection false = .ok transport) ∧
        ∃ value : ℚ, suspendCli.command.timeout? = some (.finite value) ∧ 2 ^ 64 ≤ value) ∧
    ∀ transport sending attempts answer,
      suspendCli.request false = some (.ok (transport, sending)) →
        (∀ a ∈ attempts, a.1.Sends s sending.message) → sending.answer attempts = some answer →
          ∃ attempt elapsed,
            LastAttempt (sending.output = some .vmm) sending.deadline attempts attempt elapsed ∧
              Ends .ascii (fun _ => "null") run sending attempt elapsed answer := by
  have hasked : Server.Reaches guestApi (.start plainHost [.unix, .vsock])
      { guestServer with connections := [suspending] } :=
    reaches_guestServer.connection rfl
      (handleLine_suspendLine ▸ Connection.Step.line plainHost _ suspendLine rfl) rfl
  have hlocked := hasked.connection rfl
    (.call plainHost suspending suspendLine (.lock .operation) _ {} rfl) rfl
  have hscanned := hlocked.connection rfl (.call plainHost _ suspendLine .scanUsb _ {} rfl) rfl
  have hleft := hscanned.connection rfl
    (.call plainHost _ suspendLine (.unlock .operation) _ {} rfl) rfl
  have hhandled := hleft.connection rfl (.handled plainHost _ suspendLine (.ok .none) rfl) rfl
  have hreplied := hhandled.connection rfl
    (.replied plainHost _ suspendLine (.ok .none) rfl) rfl
  obtain ⟨run, hrun⟩ := hreplied.runs
  exact ⟨run, _, _, rfl, rfl, hrun, client_reports .ascii (fun _ => "null") false hrun rfl⟩

end GhafDeviceManager
