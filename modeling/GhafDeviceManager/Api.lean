import GhafDeviceManager.BootInputs
import GhafDeviceManager.Broadcast
import GhafDeviceManager.Protocol
import GhafDeviceManager.Replies
import GhafDeviceManager.Runs

/-!
# The API server

`serve` has one acceptor per transport and a fixed number of slots; an accepted client holds a slot
until its connection is over. A connection answers its client's lines one after the other and, once
asked to, passes on the manager's notifications in between. All of these are tasks: they take
turns with each other and with everything else the manager does.
-/

namespace GhafDeviceManager

/-! ## Answers -/

namespace UsbSelector

/-- `From<UsbSelector> for Selector` -/
def toSelector : UsbSelector → Selector
  | deviceNode node => { deviceNode := some node }
  | busPort bus port => { bus := some bus.toNat, port := some port.toNat }
  | vidPid vid pid => { vid := some vid, pid := some pid }
  | tag text => { tag := some text }

end UsbSelector

namespace PciSelector

/-- `From<PciSelector> for Selector` -/
def toSelector : PciSelector → Selector
  | address text => { address := some text }
  | vidDid vid did => { vid := some vid, did := some did }
  | tag text => { tag := some text }

end PciSelector

def sendable {α : Type} (numbers : α → List (Option ℕ)) (items : List α) :
    List { a : α // Words (numbers a) } :=
  items.filterMap fun a => if h : Words (numbers a) then some ⟨a, h⟩ else none

theorem sendable_val {α : Type} {numbers : α → List (Option ℕ)} {items : List α}
    (h : ∀ a ∈ items, Words (numbers a)) : (sendable numbers items).map Subtype.val = items := by
  unfold sendable
  induction items with
  | nil => rfl
  | cons a items ih =>
      obtain ⟨ha, hrest⟩ := List.forall_mem_cons.1 h
      rw [List.filterMap_cons_some (dif_pos ha), List.map_cons, ih hrest]

theorem fromStrRadix_le {radix bound n : ℕ} {text : String}
    (h : Text.fromStrRadix radix bound text = some n) : n ≤ bound := by
  unfold Text.fromStrRadix at h
  dsimp only at h
  split_ifs at h
  exact of_decide_eq_true (Option.filter_eq_some_iff.1 h).2

theorem all_lt_of_le {o : Option ℕ} (h : ∀ n, o = some n → n ≤ Text.maxU32) :
    o.all (fun n => n < 2 ^ 32) = true := by
  cases o with
  | none => rfl
  | some n =>
      have hn := h n rfl
      unfold Text.maxU32 at hn
      simpa using (by omega : n < 2 ^ 32)

theorem UsbEntry.decimal_le {entry : UsbEntry} {file : String} {n : ℕ}
    (h : entry.decimal file = some n) : n ≤ Text.maxU32 := by
  obtain ⟨text, -, htext⟩ := Option.bind_eq_some_iff.1 h
  exact fromStrRadix_le htext

theorem UsbEntry.hex_le {entry : UsbEntry} {file : String} {n : ℕ}
    (h : entry.hex file = some n) : n ≤ Text.maxU32 := by
  obtain ⟨text, -, htext⟩ := Option.bind_eq_some_iff.1 h
  exact fromStrRadix_le htext

theorem rootPort_le {sysName : String} {n : ℕ} (h : rootPort sysName = some n) :
    n ≤ Text.maxU32 := by
  obtain ⟨parts, -, hparts⟩ := Option.bind_eq_some_iff.1 h
  exact fromStrRadix_le hparts

theorem PciEntry.hex_le {entry : PciEntry} {file : String} {n : ℕ}
    (h : entry.hex file = some n) : n ≤ Text.maxU32 := by
  obtain ⟨text, -, htext⟩ := Option.bind_eq_some_iff.1 h
  exact fromStrRadix_le htext

theorem part_le {o : Option ℕ} {f : ℕ → ℕ} (ho : ∀ n, o = some n → n ≤ Text.maxU32)
    (hf : ∀ n, f n ≤ n) {n : ℕ} (h : o.map f = some n) : n ≤ Text.maxU32 := by
  obtain ⟨m, hm, rfl⟩ := Option.map_eq_some_iff.1 h
  exact (hf m).trans (ho m hm)

/-- Every number a scan reports is a `u32`, so none of a list is left out. -/
theorem words_scanned {hwdb : Hwdb} {hostStorage : List String} {entries : List UsbEntry}
    {device : UsbDevice} (h : device ∈ scanUsb hwdb hostStorage entries) :
    Words device.numbers := by
  obtain ⟨entry, -, -, rfl⟩ := mem_scanUsb.1 h
  intro o ho
  refine all_lt_of_le fun n hn => ?_
  simp only [UsbDevice.numbers, usbDeviceOf, List.mem_cons, List.not_mem_nil, or_false] at ho
  rcases ho with rfl | rfl | rfl | rfl | rfl | rfl
  · exact UsbEntry.decimal_le hn
  · exact UsbEntry.decimal_le hn
  · exact rootPort_le hn
  · exact UsbEntry.hex_le hn
  · exact UsbEntry.hex_le hn
  · exact UsbEntry.hex_le hn

theorem words_scannedPci {entries : List PciEntry} {device : PciDevice}
    (h : device ∈ scanPci entries) : Words device.numbers := by
  obtain ⟨entry, -, rfl⟩ : ∃ entry ∈ entries, pciDeviceOf entry = device := by
    simpa [scanPci, List.mem_insertionSort] using h
  intro o ho
  refine all_lt_of_le fun n hn => ?_
  have hclass : ∀ n, entry.hex "class" = some n → n ≤ Text.maxU32 := fun _ h => PciEntry.hex_le h
  simp only [PciDevice.numbers, pciDeviceOf, List.mem_cons, List.not_mem_nil, or_false] at ho
  rcases ho with rfl | rfl | rfl | rfl | rfl
  · exact PciEntry.hex_le hn
  · exact PciEntry.hex_le hn
  · exact part_le hclass (fun n => (Nat.mod_le _ _).trans (Nat.div_le_self _ _)) hn
  · exact part_le hclass (fun n => (Nat.mod_le _ _).trans (Nat.div_le_self _ _)) hn
  · exact part_le hclass (fun n => Nat.mod_le _ _) hn

def ResponsePayload.none : ResponsePayload := .empty {}

def handleInner (d : Daemon) (boot : Boot) : Action → Act ResponsePayload
  | .enableNotifications => pure .none
  | .usbList disconnected tag => do
    return .usbList
      { usbDevices := sendable (fun item => item.device.numbers) (← d.usbList disconnected tag) }
  | .usbAttach selector vm => do
    attachUsb d selector.toSelector vm
    return .none
  | .usbDetach selector => do
    detachUsb d selector.toSelector true
    return .none
  | .usbSuspend vm => do
    suspendUsb d vm
    return .none
  | .usbResume vm => do
    resumeUsb d vm
    return .none
  | .pciList disconnected tag => do
    return .pciList
      { pciDevices := sendable (fun item => item.device.numbers) (← d.pciList disconnected tag) }
  | .pciAttach selector vm => do
    attachPci d selector.toSelector vm
    return .none
  | .pciDetach selector => do
    detachPci d selector.toSelector true
    return .none
  | .pciSuspend vm => do
    suspendPci d vm
    return .none
  | .pciResume vm => do
    resumePci d vm
    return .none
  | .vmmArgs vm _ _ requirePci => do
    return .vmmArgs { vmmArgs := ← boot.vmmArgs d vm requirePci }

/-- `From<Result<ResponsePayload>> for Response` -/
def Response.ofResult : Except Error ResponsePayload → Response
  | .ok payload => .ok payload
  | .error e => .failed (Error.text e)

/-! ## Notifications -/

def Effect.notification? : Effect → Option Notification
  | .notified notification => some notification
  | _ => none

def World.notifications (w : World) : List Notification :=
  w.log.reverse.filterMap Effect.notification?

def notificationCapacity : ℕ := 128

namespace Notification

def event : Notification → String
  | usbSelectVm _ _ => "usb_select_vm"
  | usbAttached _ _ => "usb_attached"
  | usbDetached _ _ => "usb_detached"
  | usbConnected _ => "usb_connected"
  | usbDisconnected _ => "usb_disconnected"
  | pciAttached _ _ => "pci_attached"
  | pciDetached _ _ => "pci_detached"
  | pciConnected _ => "pci_connected"
  | pciDisconnected _ => "pci_disconnected"

def entries : Notification → Entries Value
  | usbSelectVm device allowedVms =>
    [("usb_device", .object device.entries), ("allowed_vms", ofStrings allowedVms)]
  | usbAttached device vm => [("usb_device", .object device.entries), ("vm", .string vm)]
  | usbDetached node vm =>
    [("usb_device", .object [("device_node", .string node)]), ("vm", .string vm)]
  | usbConnected device => [("usb_device", .object device.entries)]
  | usbDisconnected node => [("usb_device", .object [("device_node", nullable .string node)])]
  | pciAttached device vm | pciDetached device vm =>
    [("pci_device", .object device.entries), ("vm", .string vm)]
  | pciConnected device => [("pci_device", .object device.entries)]
  | pciDisconnected address => [("pci_device", .object [("address", .string address)])]

def encode (notification : Notification) : Value :=
  .object (("event", .string notification.event) :: notification.entries)

end Notification

/-! ## Connections -/

/-- A line as the codec hands it over, or what is wrong with it. -/
inductive Line
  | json (value : Value)
  | invalid (error : String)

/-- What of the configuration and of its libraries the API goes by. -/
structure Api where
  allowedCids : List ℕ := []
  boot : Boot
  /-- What is wrong with a JSON value that is no action. -/
  complaint : Value → String

def Line.action? : Line → Option Action
  | .json value => Action.decode value
  | .invalid _ => none

/-- What a line is answered that asks for nothing. -/
def Api.rejection (api : Api) : Line → Response
  | .json value => .failed ("Invalid API message: " ++ api.complaint value)
  | .invalid error => .failed ("Invalid API message: " ++ error)

inductive Phase
  /-- At the head of the loop. -/
  | reading
  | handling (line : Line) (rest : Program Op Reply (Except Error ResponsePayload))
  | replying (line : Line) (response : Response)
  | notifying (notification : Notification)
  | closed

inductive Sent
  | reply (line : Line) (response : Response)
  | notice (notification : Notification)

def Sent.value : Sent → Value
  | .reply _ response => response.encode
  | .notice notification => notification.encode

inductive ApiTransport
  | unix
  | tcp
  | vsock
deriving DecidableEq, Repr

structure Connection where
  transport : ApiTransport
  /-- The CID of a VSOCK client. -/
  cid : ℕ := 0
  phase : Phase := .reading
  enabled : Bool := false
  receiver : Receiver
  /-- The lines the client sent and the loop took. -/
  read : List Line := []
  /-- The notifications the loop took. -/
  taken : List Notification := []
  output : List Sent := []

namespace Connection

def accepted (transport : ApiTransport) (cid : ℕ) (w : World) : Connection where
  transport := transport
  cid := cid
  receiver := .subscribe w.notifications

/-- `handle_line` up to the call of `handle`. -/
def handleLine (api : Api) (d : Daemon) (line : Line) (c : Connection) : Connection :=
  match line.action? with
  | some message =>
    { c with
      read := c.read ++ [line]
      enabled := c.enabled || decide (message = .enableNotifications)
      phase := .handling line (handleInner d api.boot message).run }
  | none => { c with read := c.read ++ [line], phase := .replying line (api.rejection line) }

/-- What `recv` gave, once the notification it may be is known. -/
def receive (c : Connection) (receiver : Receiver) : Received Notification → Connection
  | .value notification =>
    { c with
      receiver := receiver
      taken := c.taken ++ [notification]
      phase := .notifying notification }
  | .lagged _ => { c with receiver := receiver }

/-- One step of `connection`, with what comes of the world. -/
inductive Step (api : Api) : World → Connection → World → Connection → Prop
  | line (w : World) (c : Connection) (line : Line) (hphase : c.phase = .reading) :
      Step api w c w (c.handleLine api w.daemon line)
  | ended (w : World) (c : Connection) (hphase : c.phase = .reading) :
      Step api w c w { c with phase := .closed }
  | call (w : World) (c : Connection) (line : Line) (op : Op)
      (next : Reply op → Program Op Reply (Except Error ResponsePayload)) (choice : Choice)
      (hphase : c.phase = .handling line (.call op next)) :
      Step api w c (react w op choice).2
        { c with phase := .handling line (next (react w op choice).1) }
  | handled (w : World) (c : Connection) (line : Line) (result : Except Error ResponsePayload)
      (hphase : c.phase = .handling line (.pure result)) :
      Step api w c w { c with phase := .replying line (.ofResult result) }
  | replied (w : World) (c : Connection) (line : Line) (response : Response)
      (hphase : c.phase = .replying line response) :
      Step api w c w { c with phase := .reading, output := c.output ++ [.reply line response] }
  | received (w : World) (c : Connection) (receiver : Receiver) (given : Received Notification)
      (hphase : c.phase = .reading) (henabled : c.enabled = true)
      (hrecv : c.receiver.recv notificationCapacity w.notifications = some (given, receiver)) :
      Step api w c w (c.receive receiver given)
  | notified (w : World) (c : Connection) (notification : Notification)
      (hphase : c.phase = .notifying notification) :
      Step api w c w { c with phase := .reading, output := c.output ++ [.notice notification] }
  /-- The client is gone when something is sent to it. -/
  | unsent (w : World) (c : Connection) (hphase : (∃ line response,
      c.phase = .replying line response) ∨ ∃ notification, c.phase = .notifying notification) :
      Step api w c w { c with phase := .closed }

end Connection

/-! ## Acceptors -/

def maxConnections : ℕ := 64

inductive Accepting
  | acquiring
  | accepting
  /-- After a failed `accept`, for `ACCEPT_BACKOFF`. -/
  | backingOff
deriving DecidableEq

structure Acceptor where
  transport : ApiTransport
  state : Accepting := .acquiring

/-- Only VSOCK clients are turned away, and only by a list that is not empty. -/
def Api.admits (api : Api) (transport : ApiTransport) (cid : ℕ) : Bool :=
  match transport with
  | .vsock => api.allowedCids.isEmpty || api.allowedCids.contains cid
  | _ => true

structure Server where
  world : World
  available : ℕ := maxConnections
  acceptors : List Acceptor
  connections : List Connection := []

namespace Server

def start (w : World) (transports : List ApiTransport) : Server where
  world := w
  acceptors := transports.map fun transport => { transport }

/-- What any other task of the manager, or the surroundings, may do to the world. -/
inductive Moves : World → World → Prop
  | op (w : World) (op : Op) (choice : Choice) : Moves w (react w op choice).2
  | surroundings {w w' : World} (h : Surroundings w w') : Moves w w'

inductive Step (api : Api) : Server → Server → Prop
  | acquired (s : Server) (before after : List Acceptor) (a : Acceptor)
      (hacceptors : s.acceptors = before ++ a :: after) (hstate : a.state = .acquiring)
      (havailable : 0 < s.available) :
      Step api s { s with
        available := s.available - 1
        acceptors := before ++ { a with state := .accepting } :: after }
  | accepted (s : Server) (before after : List Acceptor) (a : Acceptor) (cid : ℕ)
      (hacceptors : s.acceptors = before ++ a :: after) (hstate : a.state = .accepting)
      (hadmits : api.admits a.transport cid = true) :
      Step api s { s with
        acceptors := before ++ { a with state := .acquiring } :: after
        connections := s.connections ++ [.accepted a.transport cid s.world] }
  | rejected (s : Server) (before after : List Acceptor) (a : Acceptor) (cid : ℕ)
      (hacceptors : s.acceptors = before ++ a :: after) (hstate : a.state = .accepting)
      (hadmits : api.admits a.transport cid = false) :
      Step api s { s with
        available := s.available + 1
        acceptors := before ++ { a with state := .acquiring } :: after }
  | acceptFailed (s : Server) (before after : List Acceptor) (a : Acceptor)
      (hacceptors : s.acceptors = before ++ a :: after) (hstate : a.state = .accepting) :
      Step api s { s with acceptors := before ++ { a with state := .backingOff } :: after }
  | retried (s : Server) (before after : List Acceptor) (a : Acceptor)
      (hacceptors : s.acceptors = before ++ a :: after) (hstate : a.state = .backingOff) :
      Step api s { s with
        available := s.available + 1
        acceptors := before ++ { a with state := .acquiring } :: after }
  /-- The slot goes back when the connection is over. -/
  | connection (s : Server) (before after : List Connection) (c c' : Connection) (w : World)
      (hconnections : s.connections = before ++ c :: after)
      (hstep : c.Step api s.world w c') (hopen : c'.phase ≠ .closed) :
      Step api s { s with world := w, connections := before ++ c' :: after }
  | disconnected (s : Server) (before after : List Connection) (c c' : Connection) (w : World)
      (hconnections : s.connections = before ++ c :: after)
      (hstep : c.Step api s.world w c') (hclosed : c'.phase = .closed) :
      Step api s { s with
        world := w
        available := s.available + 1
        connections := before ++ c' :: after }
  | others (s : Server) (w : World) (h : Moves s.world w) : Step api s { s with world := w }

/-- What any number of steps, by whichever tasks, can make of the server. -/
def Reaches (api : Api) : Server → Server → Prop := Relation.ReflTransGen (Step api)

end Server

end GhafDeviceManager
