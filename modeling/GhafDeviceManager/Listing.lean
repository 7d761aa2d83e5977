import GhafDeviceManager.Lines
import GhafDeviceManager.Protocol
import GhafDeviceManager.Terminal

/-!
# The client's listings

`ghaf-device` prints a line for each device and, if asked to, one for each of its attributes. The
texts come from devices, so they are escaped and cut; however they are chosen, each device has its
own lines and no others.
-/

namespace GhafDeviceManager

/-- `{key:<16}` -/
def padKey (key : String) : String :=
  key ++ String.ofList (List.replicate (16 - key.length) ' ')

/-- The entries as a JSON map goes through them. -/
def inKeyOrder (entries : Entries Value) : Entries Value :=
  entries.insertionSort fun a b => a.1 ≤ b.1

/-- `{error:#}`: all contexts, the root cause last. -/
def Error.chain (error : Error) : String := String.intercalate ": " error

def optText (value : Option String) : String := value.getD "None"

section Printing

-- beside the tables of the escapes, how values that are no strings are written
variable (tables : CharTables) (json : Value → String)

/-- Strings are device supplied and get the field cap. -/
def detailText (value : Value) : Option String :=
  match value.asStr with
  | some text => escapeField tables text
  | none => some (escapeControl tables (json value))

def detailLine (entry : String × Value) : Option String := do
  return "  " ++ padKey entry.1 ++ ": " ++ (← detailText tables json entry.2)

def detailLines : Entries Value → Option (List String)
  | [] => some []
  | entry :: rest => do
    return (← detailLine tables json entry) :: (← detailLines rest)

/-- The lines of `print_details`. -/
def printDetails (value : Value) : Option (List String) := do
  match value.asObject with
  | some object => return (← detailLines tables json (inKeyOrder object)) ++ [""]
  | none => return []

/-- The loop of `print_usb` and `print_pci`, over how they print a device. -/
def printEach {α : Type} (print : α → Option (List String)) : List α → Option (List String)
  | [] => some []
  | device :: rest => do
    return (← print device) ++ (← printEach print rest)

def printUsbDevice (short : Bool) (item : UsbListItem) : Option (List String) := do
  let device := item.1.device
  let vid ← escapeField tables (optText device.vid)
  let pid ← escapeField tables (optText device.pid)
  let vendorName ← escapeField tables (optText device.vendorName)
  let productName ← escapeField tables (optText device.productName)
  let header := vid ++ ":" ++ pid ++ " " ++ vendorName ++ " " ++ productName
  if short then return [header]
  else return header :: (← printDetails tables json item.write)

def printPciDevice (short : Bool) (item : PciListItem) : Option (List String) := do
  let device := item.1.device
  let address ← escapeField tables device.address
  let vid ← escapeField tables (optText device.vendorIdText)
  let did ← escapeField tables (optText device.deviceIdText)
  let vendorName ← escapeField tables (optText device.vendorName)
  let deviceName ← escapeField tables (optText device.deviceName)
  let header := address ++ " " ++ vid ++ ":" ++ did ++ " " ++ vendorName ++ " " ++ deviceName
  if short then return [header]
  else return header :: (← printDetails tables json item.write)

/-- The lines of `print_usb`; there would be none if it panicked. -/
def printUsb (short : Bool) (devices : List UsbListItem) : Option (List String) :=
  printEach (printUsbDevice tables json short) devices

def printPci (short : Bool) (devices : List PciListItem) : Option (List String) :=
  printEach (printPciDevice tables json short) devices

/-- `error_line` -/
def errorLine (error : Error) : String := "ERROR " ++ escapeControl tables error.chain

end Printing

/-- What `println!` makes of these lines. -/
def printedText (lines : List String) : String :=
  String.ofList (lines.flatMap fun line => line.toList ++ ['\n'])

/-! ## Harmless lines -/

/-- Nothing in the text drives a terminal, and it is all on one line. -/
def Tame (text : String) : Prop := ∀ c ∈ text.toList, isDangerous c = false

section Tame

variable (tables : CharTables) (json : Value → String)

theorem Tame.append {a b : String} (ha : Tame a) (hb : Tame b) : Tame (a ++ b) := by
  intro c hc
  rw [String.toList_append, List.mem_append] at hc
  exact hc.elim (ha c) (hb c)

theorem tame_of_all {text : String} (h : (text.toList.all fun c => !isDangerous c) = true) :
    Tame text := by
  intro c hc
  have hsafe := List.all_eq_true.1 h c hc
  simpa using hsafe

theorem tame_of_all_keys {keys : List String}
    (h : (keys.all fun key => key.toList.all fun c => !isDangerous c) = true) :
    ∀ key ∈ keys, Tame key :=
  fun key hkey => tame_of_all (List.all_eq_true.1 h key hkey)

theorem Tame.beside {a b separator : String} (ha : Tame a) (hb : Tame b)
    (hseparator : (separator.toList.all fun c => !isDangerous c) = true) :
    Tame (a ++ separator ++ b) := (ha.append (tame_of_all hseparator)).append hb

theorem tame_escapeControl (text : String) : Tame (escapeControl tables text) := by
  intro c hc
  rw [toList_escapeControl] at hc
  obtain ⟨d, -, hmem⟩ := List.mem_flatMap.1 hc
  exact rendering_harmless hmem

theorem tame_escapeField (text : String) :
    ∃ field, escapeField tables text = some field ∧ Tame field := by
  obtain ⟨-, hfield⟩ | ⟨kept, -, -, -, hfield⟩ := escapeField_eq tables text
  · exact ⟨_, hfield, tame_escapeControl tables text⟩
  · refine ⟨_, hfield, (tame_escapeControl tables _).append ?_⟩
    exact tame_of_all (by decide)

theorem tame_padKey {key : String} (h : Tame key) : Tame (padKey key) := by
  apply h.append
  intro c hc
  rw [String.toList_ofList] at hc
  rw [List.eq_of_mem_replicate hc]
  rfl

theorem tame_detailText (value : Value) :
    ∃ text, detailText tables json value = some text ∧ Tame text := by
  unfold detailText
  cases value.asStr with
  | some text => exact tame_escapeField tables text
  | none => exact ⟨_, rfl, tame_escapeControl tables _⟩

theorem tame_detailLine {entry : String × Value} (h : Tame entry.1) :
    ∃ line, detailLine tables json entry = some line ∧ Tame line := by
  obtain ⟨text, htext, htame⟩ := tame_detailText tables json entry.2
  have hspaces : Tame "  " := tame_of_all (by decide)
  have hcolon : Tame ": " := tame_of_all (by decide)
  refine ⟨"  " ++ padKey entry.1 ++ ": " ++ text, by rw [detailLine, htext]; rfl, ?_⟩
  exact ((hspaces.append (tame_padKey h)).append hcolon).append htame

theorem tame_detailLines {entries : Entries Value} (h : ∀ entry ∈ entries, Tame entry.1) :
    ∃ lines, detailLines tables json entries = some lines ∧ lines.length = entries.length ∧
      ∀ line ∈ lines, Tame line := by
  induction entries with
  | nil => exact ⟨[], rfl, rfl, by simp⟩
  | cons entry rest ih =>
      obtain ⟨hentry, hrest⟩ := List.forall_mem_cons.1 h
      obtain ⟨line, hline, htame⟩ := tame_detailLine tables json hentry
      obtain ⟨lines, hlines, hlength, hall⟩ := ih hrest
      refine ⟨line :: lines, by rw [detailLines, hline, hlines]; rfl, ?_, ?_⟩
      · rw [List.length_cons, List.length_cons, hlength]
      · exact List.forall_mem_cons.2 ⟨htame, hall⟩

theorem tame_printDetails {entries : Entries Value} (h : ∀ key ∈ entries.keys, Tame key) :
    ∃ lines, printDetails tables json (.object entries) = some lines ∧
      lines.length = entries.keys.length + 1 ∧ ∀ line ∈ lines, Tame line := by
  have hkeys : ∀ entry ∈ inKeyOrder entries, Tame entry.1 := by
    intro entry hentry
    apply h
    exact List.mem_map_of_mem ((List.mem_insertionSort _).1 hentry)
  obtain ⟨lines, hlines, hlength, hall⟩ := tame_detailLines tables json hkeys
  refine ⟨lines ++ [""], ?_, ?_, ?_⟩
  · change (do return (← detailLines tables json (inKeyOrder entries)) ++ [""]) = _
    rw [hlines]
    rfl
  · rw [List.length_append, hlength, inKeyOrder, List.length_insertionSort, Entries.keys,
      List.length_map]
    rfl
  · intro line hline
    obtain hline | hempty := List.mem_append.1 hline
    · exact hall line hline
    · obtain rfl := List.mem_singleton.1 hempty
      exact tame_of_all rfl

end Tame

/-! ## The lines of a device -/

/-- Its line and, unless the listing is short, one for each of its keys and an empty one. -/
structure Block (short : Bool) (keys : List String) (lines : List String) : Prop where
  length : lines.length = if short then 1 else keys.length + 2
  tame : ∀ line ∈ lines, Tame line

section Blocks

variable (tables : CharTables) (json : Value → String) (short : Bool)

theorem block_of_header {header : String} {entries : Entries Value} {keys : List String}
    (hheader : Tame header) (hkeys : entries.keys = keys) (htame : ∀ key ∈ keys, Tame key) :
    ∃ lines, (do
      if short then return [header]
      else return header :: (← printDetails tables json (.object entries))) = some lines ∧
        Block short keys lines := by
  cases short with
  | true => exact ⟨[header], rfl, rfl, by simpa using hheader⟩
  | false =>
      subst hkeys
      obtain ⟨lines, hlines, hlength, hall⟩ := tame_printDetails tables json htame
      refine ⟨header :: lines, ?_, ?_, List.forall_mem_cons.2 ⟨hheader, hall⟩⟩
      · rw [hlines]
        rfl
      · rw [List.length_cons, hlength]
        rfl

def usbKeys : List String :=
  ["sys_name", "device_node", "busnum", "devnum", "portnum", "vid", "pid", "vendor_name",
    "product_name", "serial", "device_class", "device_subclass", "device_protocol", "interfaces",
    "allowed_vms", "vm", "disconnected"]

def pciKeys : List String :=
  ["address", "driver", "vendor_id", "device_id", "vid", "did", "vendor_name", "device_name",
    "pci_class", "pci_subclass", "pci_prog_if", "pci_subsystem_vendor_id", "pci_subsystem_id",
    "allowed_vms", "vm", "disconnected"]

theorem printUsbDevice_block (item : UsbListItem) :
    ∃ lines, printUsbDevice tables json short item = some lines ∧ Block short usbKeys lines := by
  let device := item.1.device
  obtain ⟨vid, hvid, hvidTame⟩ := tame_escapeField tables (optText device.vid)
  obtain ⟨pid, hpid, hpidTame⟩ := tame_escapeField tables (optText device.pid)
  obtain ⟨vendor, hvendor, hvendorTame⟩ :=
    tame_escapeField tables (optText device.vendorName)
  obtain ⟨product, hproduct, hproductTame⟩ :=
    tame_escapeField tables (optText device.productName)
  have hids : Tame (vid ++ ":" ++ pid) := hvidTame.beside hpidTame (by decide)
  have hnamed : Tame (vid ++ ":" ++ pid ++ " " ++ vendor) := hids.beside hvendorTame (by decide)
  have hheader : Tame (vid ++ ":" ++ pid ++ " " ++ vendor ++ " " ++ product) :=
    hnamed.beside hproductTame (by decide)
  have hkeys : ∀ key ∈ usbKeys, Tame key := tame_of_all_keys (by decide)
  obtain ⟨lines, hlines, hblock⟩ := block_of_header tables json short hheader
    (rfl : item.1.entries.keys = _) hkeys
  refine ⟨lines, ?_, hblock⟩
  have hloop : printUsbDevice tables json short item =
      (escapeField tables (optText device.vid)).bind fun vid =>
        (escapeField tables (optText device.pid)).bind fun pid =>
          (escapeField tables (optText device.vendorName)).bind fun vendor =>
            (escapeField tables (optText device.productName)).bind fun product => do
              let header := vid ++ ":" ++ pid ++ " " ++ vendor ++ " " ++ product
              if short then return [header]
              else return header :: (← printDetails tables json item.write) := rfl
  rw [hloop, hvid, Option.bind_some, hpid, Option.bind_some, hvendor, Option.bind_some, hproduct]
  exact hlines

theorem printPciDevice_block (item : PciListItem) :
    ∃ lines, printPciDevice tables json short item = some lines ∧ Block short pciKeys lines := by
  let device := item.1.device
  obtain ⟨address, haddress, haddressTame⟩ := tame_escapeField tables device.address
  obtain ⟨vid, hvid, hvidTame⟩ := tame_escapeField tables (optText device.vendorIdText)
  obtain ⟨did, hdid, hdidTame⟩ := tame_escapeField tables (optText device.deviceIdText)
  obtain ⟨vendor, hvendor, hvendorTame⟩ :=
    tame_escapeField tables (optText device.vendorName)
  obtain ⟨name, hname, hnameTame⟩ := tame_escapeField tables (optText device.deviceName)
  have hvendorId : Tame (address ++ " " ++ vid) := haddressTame.beside hvidTame (by decide)
  have hids : Tame (address ++ " " ++ vid ++ ":" ++ did) := hvendorId.beside hdidTame (by decide)
  have hnamed : Tame (address ++ " " ++ vid ++ ":" ++ did ++ " " ++ vendor) :=
    hids.beside hvendorTame (by decide)
  have hheader : Tame (address ++ " " ++ vid ++ ":" ++ did ++ " " ++ vendor ++ " " ++ name) :=
    hnamed.beside hnameTame (by decide)
  have hkeys : ∀ key ∈ pciKeys, Tame key := tame_of_all_keys (by decide)
  obtain ⟨lines, hlines, hblock⟩ := block_of_header tables json short hheader
    (rfl : item.1.entries.keys = _) hkeys
  refine ⟨lines, ?_, hblock⟩
  have hloop : printPciDevice tables json short item =
      (escapeField tables device.address).bind fun address =>
        (escapeField tables (optText device.vendorIdText)).bind fun vid =>
          (escapeField tables (optText device.deviceIdText)).bind fun did =>
            (escapeField tables (optText device.vendorName)).bind fun vendor =>
              (escapeField tables (optText device.deviceName)).bind fun name => do
                let header := address ++ " " ++ vid ++ ":" ++ did ++ " " ++ vendor ++ " " ++ name
                if short then return [header]
                else return header :: (← printDetails tables json item.write) := rfl
  rw [hloop, haddress, Option.bind_some, hvid, Option.bind_some, hdid, Option.bind_some, hvendor,
    Option.bind_some, hname]
  exact hlines

end Blocks

/-! ## Listings -/

section Listings

variable {α : Type} {print : α → Option (List String)} {short : Bool} {keys : List String}

theorem printEach_blocks (h : ∀ a, ∃ lines, print a = some lines ∧ Block short keys lines)
    (devices : List α) : ∃ blocks : List (List String),
      printEach print devices = some blocks.flatten ∧ devices.map print = blocks.map some ∧
        ∀ lines ∈ blocks, Block short keys lines := by
  induction devices with
  | nil => exact ⟨[], rfl, rfl, by simp⟩
  | cons device rest ih =>
      obtain ⟨lines, hlines, hblock⟩ := h device
      obtain ⟨blocks, hprinted, hmap, hblocks⟩ := ih
      refine ⟨lines :: blocks, ?_, ?_, List.forall_mem_cons.2 ⟨hblock, hblocks⟩⟩
      · rw [printEach, hlines, hprinted]
        rfl
      · rw [List.map_cons, List.map_cons, hlines, hmap]

/-- What is printed is read line by line as it was printed. -/
theorem lines_printedText {lines : List String} (h : ∀ line ∈ lines, Tame line) :
    Text.lines (printedText lines) = lines := by
  have hbreak : isDangerous '\n' = true := by decide
  have hreturn : isDangerous '\r' = true := by decide
  have hsingle : ∀ line ∈ lines, '\n' ∉ line.toList := by
    intro line hline hmem
    rw [h line hline _ hmem] at hbreak
    cases hbreak
  have hkept : ∀ line ∈ lines,
      String.ofList (Text.dropReturn line.toList.reverse).reverse = line := by
    intro line hline
    have hdrop : Text.dropReturn line.toList.reverse = line.toList.reverse := by
      cases hreverse : line.toList.reverse with
      | nil => rfl
      | cons c rest =>
          apply Text.dropReturn.eq_2
          intro rest' heq
          have hmem : c ∈ line.toList := by
            rw [← List.mem_reverse, hreverse]
            exact List.mem_cons_self
          rw [(List.cons.inj heq).1] at hmem
          rw [h line hline _ hmem] at hreturn
          cases hreturn
    rw [hdrop, List.reverse_reverse, String.ofList_toList]
  rw [printedText, Text.lines_flatMap lines hsingle]
  conv_rhs => rw [← List.map_id lines]
  exact List.map_congr_left hkept

theorem printedText_harmless {lines : List String} (h : ∀ line ∈ lines, Tame line) :
    ∀ c ∈ (printedText lines).toList, c = '\n' ∨ isDangerous c = false := by
  intro c hc
  rw [printedText, String.toList_ofList] at hc
  obtain ⟨line, hline, hmem⟩ := List.mem_flatMap.1 hc
  obtain hin | hend := List.mem_append.1 hmem
  · exact .inr (h line hline c hin)
  · exact .inl (List.mem_singleton.1 hend)

theorem flatten_injective {size : ℕ} (hsize : 0 < size) {blocks blocks' : List (List String)}
    (h : ∀ lines ∈ blocks, lines.length = size) (h' : ∀ lines ∈ blocks', lines.length = size)
    (heq : blocks.flatten = blocks'.flatten) : blocks = blocks' := by
  induction blocks generalizing blocks' with
  | nil =>
      cases blocks' with
      | nil => rfl
      | cons lines rest =>
          have hlength := congrArg List.length heq
          have hlines := h' lines List.mem_cons_self
          rw [List.flatten_nil, List.flatten_cons, List.length_append, List.length_nil] at hlength
          omega
  | cons lines rest ih =>
      have hlines := h lines List.mem_cons_self
      cases blocks' with
      | nil =>
          have hlength := congrArg List.length heq
          rw [List.flatten_nil, List.flatten_cons, List.length_append, List.length_nil] at hlength
          omega
      | cons lines' rest' =>
          have hlines' := h' lines' List.mem_cons_self
          rw [List.flatten_cons, List.flatten_cons] at heq
          obtain ⟨rfl, hrest⟩ := List.append_inj heq (by omega)
          rw [ih (fun l hl => h l (List.mem_cons_of_mem _ hl))
            (fun l hl => h' l (List.mem_cons_of_mem _ hl)) hrest]

/-- Such a listing has the lines of each device, one after the other, is harmless, and shows its
devices as no other devices would be shown. -/
structure Unforgeable (listing : List α → Option (List String)) (print : α → Option (List String))
    (size : ℕ) (devices : List α) (lines : List String) : Prop where
  printed : listing devices = some lines
  blocks : ∃ blocks : List (List String), lines = blocks.flatten ∧
    devices.map print = blocks.map some ∧ ∀ block ∈ blocks, block.length = size
  read : Text.lines (printedText lines) = lines
  harmless : ∀ c ∈ (printedText lines).toList, c = '\n' ∨ isDangerous c = false
  only : ∀ devices' lines', listing devices' = some lines' →
    printedText lines' = printedText lines → devices'.map print = devices.map print

theorem unforgeable_printEach (h : ∀ a, ∃ lines, print a = some lines ∧ Block short keys lines)
    (devices : List α) : ∃ lines,
      Unforgeable (printEach print) print (if short then 1 else keys.length + 2) devices lines := by
  have htame : ∀ blocks : List (List String), (∀ block ∈ blocks, Block short keys block) →
      ∀ line ∈ blocks.flatten, Tame line := by
    intro blocks hblocks line hline
    obtain ⟨block, hblock, hmem⟩ := List.mem_flatten.1 hline
    exact (hblocks block hblock).tame line hmem
  obtain ⟨blocks, hprinted, hmap, hblocks⟩ := printEach_blocks h devices
  refine ⟨blocks.flatten, hprinted, ⟨blocks, rfl, hmap, fun block hblock =>
    (hblocks block hblock).length⟩, lines_printedText (htame blocks hblocks),
    printedText_harmless (htame blocks hblocks), ?_⟩
  intro devices' lines' hlines' htext
  obtain ⟨blocks', hprinted', hmap', hblocks'⟩ := printEach_blocks h devices'
  obtain rfl := Option.some.inj (hprinted'.symm.trans hlines')
  have hflat : blocks'.flatten = blocks.flatten := by
    rw [← lines_printedText (htame blocks hblocks), ← htext,
      lines_printedText (htame blocks' hblocks')]
  have hsize : 0 < if short then 1 else keys.length + 2 := by
    split <;> omega
  rw [hmap', hmap, flatten_injective hsize (fun block hblock => (hblocks' block hblock).length)
    (fun block hblock => (hblocks block hblock).length) hflat]

end Listings

theorem errorLine_injective (tables : CharTables) {error error' : Error}
    (h : errorLine tables error = errorLine tables error') : error.chain = error'.chain := by
  have hlists := congrArg String.toList h
  rw [errorLine, errorLine, String.toList_append, String.toList_append,
    List.append_cancel_left_eq, toList_escapeControl, toList_escapeControl] at hlists
  exact String.toList_injective (rendering_selfDelimiting.flatMap_injective hlists)

/-- Whatever texts the devices supply, a listing is printed whole, with one line for each device or,
in full, one more for each attribute and an empty one; nothing in it drives the terminal, and no
other devices are shown the same way. The line of an error is one line as well, and shows the whole
chain. -/
theorem listings_unforgeable (tables : CharTables) (json : Value → String) (short : Bool) :
    (∀ devices, ∃ lines, Unforgeable (printUsb tables json short)
      (printUsbDevice tables json short) (if short then 1 else 19) devices lines) ∧
    (∀ devices, ∃ lines, Unforgeable (printPci tables json short)
      (printPciDevice tables json short) (if short then 1 else 18) devices lines) ∧
    ∀ error, Tame (errorLine tables error) ∧ ∀ error' : Error,
      errorLine tables error' = errorLine tables error → error'.chain = error.chain := by
  refine ⟨unforgeable_printEach (printUsbDevice_block tables json short),
    unforgeable_printEach (printPciDevice_block tables json short), fun error => ⟨?_, ?_⟩⟩
  · exact Tame.append (tame_of_all (by decide)) (tame_escapeControl tables _)
  · exact fun error' => errorLine_injective tables

end GhafDeviceManager
