import GhafDeviceManager.Delimited
import GhafDeviceManager.HostStorage
import GhafDeviceManager.Lines
import GhafDeviceManager.Numerals

/-!
# The devices the host has in use

The kernel prints what is mounted and what is swapped to; the numbers of these devices are compared
as text with those the block class shows. A swap area is looked up by its path, and the number comes
packed into one word.
-/

namespace GhafDeviceManager

/-! ## Device numbers -/

structure DeviceNumber where
  major : ℕ
  minor : ℕ
  major_lt : major < 2 ^ 12
  minor_lt : minor < 2 ^ 20

def linuxMajor (device : ℕ) : ℕ := ((device >>> 8) &&& 0xfff) ||| ((device >>> 32) &&& 0xfffff000)

def linuxMinor (device : ℕ) : ℕ := (device &&& 0xff) ||| ((device >>> 12) &&& 0xfffff00)

/-- `{}:{}` -/
def numberText (major minor : ℕ) : List Char :=
  Nat.toDigits 10 major ++ ':' :: Nat.toDigits 10 minor

/-- A device number as `stat` packs it. -/
def packed (major minor : ℕ) : ℕ :=
  minor % 2 ^ 8 + major % 2 ^ 12 * 2 ^ 8 + minor / 2 ^ 8 * 2 ^ 20 + major / 2 ^ 12 * 2 ^ 44

theorem or_field {x k : ℕ} (hx : x < 2 ^ k) (y n : ℕ) :
    x ||| (y &&& ((2 ^ n - 1) <<< k)) = x + y / 2 ^ k % 2 ^ n * 2 ^ k := by
  have hmask : y &&& ((2 ^ n - 1) <<< k) = (y / 2 ^ k % 2 ^ n) <<< k := by
    rw [← Nat.shiftRight_eq_div_pow, ← Nat.and_two_pow_sub_one_eq_mod, Nat.shiftLeft_and_distrib]
    apply Nat.eq_of_testBit_eq
    intro i
    simp only [Nat.testBit_and, Nat.testBit_shiftLeft, Nat.testBit_shiftRight]
    by_cases hi : k ≤ i <;> simp [hi]
  rw [hmask, Nat.or_comm, ← Nat.shiftLeft_add_eq_or_of_lt hx, Nat.shiftLeft_eq, Nat.add_comm]

theorem linuxMajor_eq (device : ℕ) :
    linuxMajor device = device / 2 ^ 8 % 2 ^ 12 + device / 2 ^ 44 % 2 ^ 20 * 2 ^ 12 := by
  have hfield := or_field (Nat.mod_lt (device / 2 ^ 8) (by decide)) (device / 2 ^ 32) 20
    (k := 12)
  rw [← Nat.and_two_pow_sub_one_eq_mod, Nat.div_div_eq_div_mul] at hfield
  unfold linuxMajor
  rw [Nat.shiftRight_eq_div_pow, Nat.shiftRight_eq_div_pow, ← Nat.and_two_pow_sub_one_eq_mod]
  exact hfield

theorem linuxMinor_eq (device : ℕ) :
    linuxMinor device = device % 2 ^ 8 + device / 2 ^ 20 % 2 ^ 20 * 2 ^ 8 := by
  have hfield := or_field (Nat.mod_lt device (by decide)) (device / 2 ^ 12) 20 (k := 8)
  rw [← Nat.and_two_pow_sub_one_eq_mod, Nat.div_div_eq_div_mul] at hfield
  unfold linuxMinor
  rw [Nat.shiftRight_eq_div_pow, ← Nat.and_two_pow_sub_one_eq_mod]
  exact hfield

theorem linuxMajor_packed {major minor : ℕ} (hmajor : major < 2 ^ 32) (hminor : minor < 2 ^ 32) :
    linuxMajor (packed major minor) = major := by
  have hlower : packed major minor / 2 ^ 8 =
      major % 2 ^ 12 + minor / 2 ^ 8 * 2 ^ 12 + major / 2 ^ 12 * 2 ^ 36 := by
    unfold packed
    omega
  have hupper : packed major minor / 2 ^ 44 = major / 2 ^ 12 := by
    unfold packed
    omega
  rw [linuxMajor_eq, hlower, hupper]
  omega

/-- The mask leaves the upper four bits of a minor number out; the kernel does not use them. -/
theorem linuxMinor_packed_iff {major minor : ℕ} (hminor : minor < 2 ^ 32) :
    linuxMinor (packed major minor) = minor ↔ minor < 2 ^ 28 := by
  rw [linuxMinor_eq, packed]
  omega

namespace DeviceNumber

def text (number : DeviceNumber) : String :=
  String.ofList (numberText number.major number.minor)

def raw (number : DeviceNumber) : ℕ := packed number.major number.minor

theorem unpacked (number : DeviceNumber) :
    String.ofList (numberText (linuxMajor number.raw) (linuxMinor number.raw)) = number.text := by
  have hmajor := number.major_lt
  have hminor := number.minor_lt
  unfold raw
  rw [linuxMajor_packed (by omega) (by omega), (linuxMinor_packed_iff (by omega)).2 (by omega)]
  rfl

end DeviceNumber

/-! ## Reading -/

/-- What the manager takes of `stat`. -/
structure Metadata where
  blockDevice : Bool
  rdev : ℕ
  dev : ℕ

/-- The device of one line of the swap areas, where its path leads somewhere. -/
def swapDeviceId (metadata : String → Option Metadata) (line : String) : Option String := do
  let source ← (Text.splitWhitespace line).head?
  let found ← metadata source
  let rawDevice := if found.blockDevice then found.rdev else found.dev
  return String.ofList (numberText (linuxMajor rawDevice) (linuxMinor rawDevice))

/-- The set of `active_host_storage_device_ids`, without a file where it cannot be read. -/
def activeHostStorageDeviceIds (mountinfo swaps : Option String)
    (metadata : String → Option Metadata) : Except Error (List String) :=
  match mountinfo with
  | none => .error ["failed to read mounted host filesystems"]
  | some mountinfo =>
    match swaps with
    | none => .error ["failed to read active host swaps"]
    | some swaps => .ok
        (((Text.lines mountinfo).filterMap fun line => (Text.splitWhitespace line)[2]?) ++
          ((Text.lines swaps).drop 1).filterMap (swapDeviceId metadata))

def usbBacksHostStorage (order : List String) (fuel : ℕ) (device : String)
    (resolved : Option SysPath) (scanned : Option (List BlockEntry))
    (mountinfo swaps : Option String) (metadata : String → Option Metadata) :
    Except Error (Option Bool) := do
  let activeDeviceIds ← activeHostStorageDeviceIds mountinfo swaps metadata
  usbBacksActiveStorage order fuel device resolved "/sys/class/block" scanned activeDeviceIds

/-! ## What the kernel prints -/

/-- A mount: its id and its parent's, its device, and fields that do not break the line. -/
structure Mount where
  id : ℕ
  parent : ℕ
  device : DeviceNumber
  fields : List Char
  one_line : '\n' ∉ fields

def Mount.line (mount : Mount) : List Char :=
  Nat.toDigits 10 mount.id ++ ' ' :: (Nat.toDigits 10 mount.parent ++
    ' ' :: (numberText mount.device.major mount.device.minor ++ ' ' :: mount.fields))

/-- A swap area: a block device of this number, or a file on a device of this number. -/
structure SwapArea where
  source : List Char
  blockDevice : Bool
  device : DeviceNumber
  fields : List Char
  one_word : source ≠ [] ∧ ∀ c ∈ source, Text.isWhitespace c = false
  one_line : '\n' ∉ fields

def SwapArea.line (area : SwapArea) : List Char := area.source ++ ' ' :: area.fields

/-- `stat` shows the number where it is due. -/
def SwapArea.Shown (area : SwapArea) (metadata : String → Option Metadata) : Prop :=
  ∃ found, metadata (String.ofList area.source) = some found ∧
    found.blockDevice = area.blockDevice ∧
      (if area.blockDevice then found.rdev else found.dev) = area.device.raw

def mountinfoText (mounts : List Mount) : String :=
  String.ofList (mounts.flatMap fun mount => mount.line ++ ['\n'])

def swapHeader : List Char := "Filename\t\t\t\tType\t\tSize\t\tUsed\t\tPriority".toList

def swapsText (areas : List SwapArea) : String :=
  String.ofList (swapHeader ++ '\n' :: areas.flatMap fun area => area.line ++ ['\n'])

def InUse (mounts : List Mount) (areas : List SwapArea) (number : DeviceNumber) : Prop :=
  (∃ mount ∈ mounts, mount.device = number) ∨ ∃ area ∈ areas, area.device = number

section Reading

variable {mounts : List Mount} {areas : List SwapArea} {metadata : String → Option Metadata}

theorem digits_word (n : ℕ) :
    Nat.toDigits 10 n ≠ [] ∧ ∀ c ∈ Nat.toDigits 10 n, Text.isWhitespace c = false := by
  refine ⟨Nat.toDigits_ne_nil, fun c hc => ?_⟩
  obtain ⟨d, hd, rfl⟩ := mem_toDigits (by decide) hc
  have hall : ∀ d < 10, Text.isWhitespace (Nat.digitChar d) = false := by decide
  exact hall d hd

theorem newline_notMem_of_word {word : List Char}
    (h : ∀ c ∈ word, Text.isWhitespace c = false) : '\n' ∉ word := by
  intro hmem
  have hspace := h '\n' hmem
  revert hspace
  decide

theorem numberText_word (major minor : ℕ) : numberText major minor ≠ [] ∧
    ∀ c ∈ numberText major minor, Text.isWhitespace c = false := by
  unfold numberText
  refine ⟨by simp, fun c hc => ?_⟩
  rcases List.mem_append.1 hc with hmajor | hrest
  · exact (digits_word major).2 c hmajor
  · rcases List.mem_cons.1 hrest with rfl | hminor
    · decide
    · exact (digits_word minor).2 c hminor

theorem newline_notMem_mount (mount : Mount) : '\n' ∉ mount.line := by
  unfold Mount.line
  simp only [List.mem_append, List.mem_cons, not_or]
  refine ⟨newline_notMem_of_word (digits_word _).2, by decide,
    newline_notMem_of_word (digits_word _).2, by decide,
    newline_notMem_of_word (numberText_word _ _).2, by decide, mount.one_line⟩

theorem newline_notMem_swap (area : SwapArea) : '\n' ∉ area.line := by
  unfold SwapArea.line
  simp only [List.mem_append, List.mem_cons, not_or]
  exact ⟨newline_notMem_of_word area.one_word.2, by decide, area.one_line⟩

/-- The third word of a mount is its device, whatever its line ends with. -/
theorem mount_field (mount : Mount) :
    (Text.splitWhitespace (String.ofList (Text.dropReturn mount.line.reverse).reverse))[2]? =
      some mount.device.text := by
  have hline : mount.line = (Nat.toDigits 10 mount.id ++ ' ' :: (Nat.toDigits 10 mount.parent ++
      ' ' :: numberText mount.device.major mount.device.minor)) ++ ' ' :: mount.fields := by
    simp [Mount.line]
  obtain ⟨fields, hfields⟩ := Text.dropReturn_append (by decide : ' ' ≠ '\r')
    (Nat.toDigits 10 mount.id ++ ' ' :: (Nat.toDigits 10 mount.parent ++
      ' ' :: numberText mount.device.major mount.device.minor)) mount.fields
  rw [hline, hfields, List.append_assoc, List.cons_append, List.append_assoc, List.cons_append,
    Text.splitWhitespace_word (digits_word _).1 (digits_word _).2,
    Text.splitWhitespace_word (digits_word _).1 (digits_word _).2,
    Text.splitWhitespace_word (numberText_word _ _).1 (numberText_word _ _).2]
  rfl

theorem swapDeviceId_line {area : SwapArea} (h : area.Shown metadata) :
    swapDeviceId metadata (String.ofList (Text.dropReturn area.line.reverse).reverse) =
      some area.device.text := by
  obtain ⟨found, hfound, hblock, hraw⟩ := h
  obtain ⟨fields, hfields⟩ := Text.dropReturn_append (by decide : ' ' ≠ '\r') area.source
    area.fields
  unfold swapDeviceId SwapArea.line
  rw [hfields, Text.splitWhitespace_word area.one_word.1 area.one_word.2, List.head?_cons]
  change (metadata (String.ofList area.source)).bind _ = _
  rw [hfound, ← area.device.unpacked, ← hraw, ← hblock]
  rfl

theorem lines_swapsText (areas : List SwapArea) : (Text.lines (swapsText areas)).drop 1 =
    areas.map fun area => String.ofList (Text.dropReturn area.line.reverse).reverse := by
  have hheader : '\n' ∉ swapHeader := by decide
  have hrest := Text.lines_flatMap areas fun area _ => newline_notMem_swap area
  unfold Text.lines swapsText at *
  rw [String.toList_ofList] at hrest ⊢
  rw [Text.linesFrom_newline hheader, List.map_cons, List.drop_succ_cons, List.drop_zero]
  exact hrest

theorem activeHostStorageDeviceIds_texts (mounts : List Mount)
    (h : ∀ area ∈ areas, area.Shown metadata) :
    activeHostStorageDeviceIds (some (mountinfoText mounts)) (some (swapsText areas)) metadata =
      .ok ((mounts.map fun mount => mount.device.text) ++
        areas.map fun area => area.device.text) := by
  have hmounts : ((Text.lines (mountinfoText mounts)).filterMap fun line =>
      (Text.splitWhitespace line)[2]?) = mounts.map fun mount => mount.device.text := by
    rw [mountinfoText, Text.lines_flatMap mounts fun mount _ => newline_notMem_mount mount,
      List.filterMap_map]
    rw [← List.filterMap_eq_map']
    exact List.filterMap_congr fun mount _ => mount_field mount
  have hareas : ((Text.lines (swapsText areas)).drop 1).filterMap (swapDeviceId metadata) =
      areas.map fun area => area.device.text := by
    rw [lines_swapsText, List.filterMap_map]
    rw [← List.filterMap_eq_map']
    exact List.filterMap_congr fun area harea => swapDeviceId_line (h area harea)
  unfold activeHostStorageDeviceIds
  dsimp only
  rw [hmounts, hareas]

theorem mem_texts {id : String} :
    id ∈ (mounts.map fun mount => mount.device.text) ++ (areas.map fun area => area.device.text) ↔
      ∃ number : DeviceNumber, id = number.text ∧ InUse mounts areas number := by
  rw [List.mem_append, List.mem_map, List.mem_map]
  constructor
  · rintro (⟨mount, hmount, rfl⟩ | ⟨area, harea, rfl⟩)
    · exact ⟨mount.device, rfl, .inl ⟨mount, hmount, rfl⟩⟩
    · exact ⟨area.device, rfl, .inr ⟨area, harea, rfl⟩⟩
  · rintro ⟨number, rfl, ⟨mount, hmount, rfl⟩ | ⟨area, harea, rfl⟩⟩
    · exact .inl ⟨mount, hmount, rfl⟩
    · exact .inr ⟨area, harea, rfl⟩

end Reading

/-! ## From the texts to the answer -/

/-- Something below the path is held, or carries something the host has in use. -/
def HostUses (blocks : Map BlockDevice) (device : SysPath) (mounts : List Mount)
    (areas : List SwapArea) : Prop :=
  (∃ name block, Below blocks device name ∧ blocks.lookup name = some block ∧
      block.hasHolders = true) ∨
    ∃ start name block, ∃ number : DeviceNumber, Below blocks device start ∧
      Relation.ReflTransGen (Carries blocks) start name ∧ blocks.lookup name = some block ∧
        block.deviceId = number.text ∧ InUse mounts areas number

theorem backsActive_texts {blocks : Map BlockDevice} {device : SysPath} {mounts : List Mount}
    {areas : List SwapArea} :
    BacksActive blocks device ((mounts.map fun mount => mount.device.text) ++
      areas.map fun area => area.device.text) ↔ HostUses blocks device mounts areas := by
  unfold BacksActive HostUses
  refine or_congr_right ?_
  simp only [mem_texts]
  constructor
  · rintro ⟨start, name, block, hbelow, hsteps, hblock, number, hid, huse⟩
    exact ⟨start, name, block, number, hbelow, hsteps, hblock, hid, huse⟩
  · rintro ⟨start, name, block, number, hbelow, hsteps, hblock, hid, huse⟩
    exact ⟨start, name, block, hbelow, hsteps, hblock, number, hid, huse⟩

/-- From what the kernel prints of any mounts and swap areas, and whatever the order of iteration:
the manager comes to an answer, and it is whether the host uses the device through any number of
block devices on top of each other. -/
theorem usb_backs_host_storage_exact (order : List String) (device : String) (path : SysPath)
    (entries : List BlockEntry) (mounts : List Mount) {areas : List SwapArea}
    {metadata : String → Option Metadata} (hareas : ∀ area ∈ areas, area.Shown metadata) :
    ∃ answer, (∀ fuel > (blockDevices entries).keys.length,
        usbBacksHostStorage order fuel device (some path) (some entries)
          (some (mountinfoText mounts)) (some (swapsText areas)) metadata = .ok (some answer)) ∧
      (answer = true ↔ HostUses (blockDevices entries) path mounts areas) := by
  classical
  refine ⟨decide (HostUses (blockDevices entries) path mounts areas), fun fuel hfuel => ?_,
    decide_eq_true_iff⟩
  obtain ⟨answer, hanswer, hiff⟩ := blocksBackActive_spec (blockDevices entries) order path
    ((mounts.map fun mount => mount.device.text) ++ areas.map fun area => area.device.text) hfuel
  have hdecide : answer = decide (HostUses (blockDevices entries) path mounts areas) :=
    Bool.eq_iff_iff.2 ((hiff.trans backsActive_texts).trans decide_eq_true_iff.symm)
  rw [usbBacksHostStorage, activeHostStorageDeviceIds_texts mounts hareas, ← hdecide]
  exact congrArg Except.ok hanswer

def stickSwap : SwapArea where
  source := ['/', 'd', 'e', 'v', '/', 's', 'd', 'a', '2']
  blockDevice := true
  device := ⟨8, 258, by decide, by decide⟩
  fields := ['p', 'a', 'r', 't', 'i', 't', 'i', 'o', 'n', '\t', '8', '3', '8', '8', '6', '0', '4',
    '\t', '0', '\t', '-', '2']
  one_word := by simp [Text.isWhitespace]
  one_line := by decide

def stickMetadata (path : String) : Option Metadata :=
  if path = "/dev/sda2" then some { blockDevice := true, rdev := packed 8 258, dev := 5 } else none

theorem shown_stickSwap : ∀ area ∈ [stickSwap], area.Shown stickMetadata := by
  intro area harea
  obtain rfl := List.mem_singleton.1 harea
  exact ⟨_, rfl, rfl, rfl⟩

def stickEntries : List BlockEntry :=
  [{ name := "sda2", sysPath := some ["sys", "usb1", "1-3", "sda", "sda2"], dev := some "8:258" }]

theorem usb_backs_host_storage_exact_stick :
    ∃ answer, (∀ fuel > (blockDevices stickEntries).keys.length,
        usbBacksHostStorage [] fuel "1-3" (some ["sys", "usb1", "1-3"]) (some stickEntries)
          (some (mountinfoText [])) (some (swapsText [stickSwap])) stickMetadata =
            .ok (some answer)) ∧
      (answer = true ↔ HostUses (blockDevices stickEntries) ["sys", "usb1", "1-3"] []
        [stickSwap]) :=
  usb_backs_host_storage_exact [] "1-3" ["sys", "usb1", "1-3"] stickEntries [] shown_stickSwap

example : usbBacksHostStorage [] 2 "1-3" (some ["sys", "usb1", "1-3"]) (some stickEntries)
    (some (mountinfoText [])) (some (swapsText [stickSwap])) stickMetadata = .ok (some true) := by
  decide +kernel

end GhafDeviceManager
