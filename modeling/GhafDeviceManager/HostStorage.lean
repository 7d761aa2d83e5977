import GhafDeviceManager.Reconcile
import GhafDeviceManager.Saturation

/-!
# USB devices that back host storage

A USB device is left alone where a block device below it is in use: it has a holder, or it carries,
through any number of block devices on top of it, one that is mounted or swapped to.
-/

namespace GhafDeviceManager

/-- A resolved path in sysfs, by its components. -/
abbrev SysPath := List String

/-- What an entry of the block class shows. -/
structure BlockEntry where
  name : String
  sysPath : Option SysPath
  dev : Option String
  slaves : List String := []
  holders : List String := []

structure BlockDevice where
  deviceId : String
  sysPath : SysPath
  slaves : List String
  hasHolders : Bool

/-- Entries that do not resolve, or show no device id, are left out. -/
def BlockEntry.device (entry : BlockEntry) : Option BlockDevice := do
  return {
    deviceId := ← entry.dev
    sysPath := ← entry.sysPath
    slaves := entry.slaves
    hasHolders := !entry.holders.isEmpty }

def blockDevices (entries : List BlockEntry) : Map BlockDevice :=
  entries.foldl (fun blocks entry =>
    match entry.device with
    | some device => blocks.insert entry.name device
    | none => blocks) ∅

section Storage

variable (blocks : Map BlockDevice) (order : List String)

/-- The names in the iteration order of the hash map. -/
def blockNames : List String := if order.isPerm blocks.keys then order else blocks.keys

def blocksBelow (device : SysPath) : List String :=
  (blockNames blocks order).filter fun name =>
    (blocks.lookup name).any fun block => device.isPrefixOf block.sysPath

/-- `dependents` -/
def blockDependents (backing : List String) : List String :=
  (blockNames blocks order).filter fun name =>
    (blocks.lookup name).any fun block =>
      !backing.contains name && block.slaves.any fun slave => backing.contains slave

/-- The answer once the block devices are read, `none` where the fuel does not last for the loop. -/
def blocksBackActive (fuel : ℕ) (device : SysPath) (activeDeviceIds : List String) :
    Option Bool :=
  let backing := blocksBelow blocks order device
  if backing.any fun name => (blocks.lookup name).any BlockDevice.hasHolders then some true
  else (saturate (blockDependents blocks order) fuel backing).map fun backing =>
    backing.any fun name => (blocks.lookup name).any fun block =>
      activeDeviceIds.contains block.deviceId

end Storage

/-- `usb_backs_active_storage`, where `resolved` is the path of the device and `scanned` what the
block class shows. -/
def usbBacksActiveStorage (order : List String) (fuel : ℕ) (device : String)
    (resolved : Option SysPath) (blockRoot : String) (scanned : Option (List BlockEntry))
    (activeDeviceIds : List String) : Except Error (Option Bool) :=
  match resolved with
  | none => .error ["failed to resolve USB device " ++ device]
  | some path =>
    match scanned with
    | none => .error ["failed to scan " ++ blockRoot]
    | some entries => .ok (blocksBackActive (blockDevices entries) order fuel path activeDeviceIds)

/-! ## What the answer means -/

def Below (blocks : Map BlockDevice) (device : SysPath) (name : String) : Prop :=
  ∃ block, blocks.lookup name = some block ∧ device <+: block.sysPath

def Carries (blocks : Map BlockDevice) (slave name : String) : Prop :=
  ∃ block, blocks.lookup name = some block ∧ slave ∈ block.slaves

/-- Something below the path is held, or carries something active. -/
def BacksActive (blocks : Map BlockDevice) (device : SysPath) (activeDeviceIds : List String) :
    Prop :=
  (∃ name block, Below blocks device name ∧ blocks.lookup name = some block ∧
      block.hasHolders = true) ∨
    ∃ start name block, Below blocks device start ∧
      Relation.ReflTransGen (Carries blocks) start name ∧
        blocks.lookup name = some block ∧ block.deviceId ∈ activeDeviceIds

section Exact

variable {blocks : Map BlockDevice} {order : List String} {device : SysPath}

theorem mem_blockNames {name : String} :
    name ∈ blockNames blocks order ↔ ∃ block, blocks.lookup name = some block := by
  have hkeys : name ∈ blockNames blocks order ↔ name ∈ blocks.keys := by
    unfold blockNames
    split
    case isTrue hperm => exact (List.isPerm_iff.1 hperm).mem_iff
    case isFalse => exact Iff.rfl
  rw [hkeys, ← AList.mem_keys, ← AList.lookup_isSome, Option.isSome_iff_exists]

theorem length_blockNames : (blockNames blocks order).length = blocks.keys.length := by
  unfold blockNames
  split
  case isTrue hperm => exact (List.isPerm_iff.1 hperm).length_eq
  case isFalse => rfl

theorem mem_blocksBelow {name : String} :
    name ∈ blocksBelow blocks order device ↔ Below blocks device name := by
  unfold blocksBelow Below
  rw [List.mem_filter, mem_blockNames, Option.any_eq_true]
  simp only [List.isPrefixOf_iff_prefix]
  exact ⟨fun h => h.2, fun h => ⟨⟨h.choose, h.choose_spec.1⟩, h⟩⟩

theorem grows_blockDependents :
    Grows (blockDependents blocks order) (blockNames blocks order) (Carries blocks) := by
  intro backing name
  unfold blockDependents Carries
  rw [List.mem_filter, Option.any_eq_true]
  simp only [Bool.and_eq_true, Bool.not_eq_true', List.contains_eq_mem, decide_eq_false_iff_not,
    List.any_eq_true, decide_eq_true_eq]
  constructor
  · rintro ⟨hname, block, hblock, hnew, slave, hslave, hbacking⟩
    exact ⟨hname, hnew, slave, hbacking, block, hblock, hslave⟩
  · rintro ⟨hname, hnew, slave, hbacking, block, hblock, hslave⟩
    exact ⟨hname, block, hblock, hnew, slave, hslave, hbacking⟩

theorem within_blockNames :
    EdgeWithin (blockNames blocks order) (Carries blocks) = Carries blocks := by
  funext slave name
  refine propext ⟨fun h => h.2, fun h => ⟨?_, h⟩⟩
  obtain ⟨block, hblock, -⟩ := h
  exact mem_blockNames.2 ⟨block, hblock⟩

theorem anyHolders_iff : ((blocksBelow blocks order device).any fun name =>
    (blocks.lookup name).any BlockDevice.hasHolders) = true ↔
      ∃ name block, Below blocks device name ∧ blocks.lookup name = some block ∧
        block.hasHolders = true := by
  simp only [List.any_eq_true, mem_blocksBelow, Option.any_eq_true]
  constructor
  · rintro ⟨name, hbelow, block, hblock, hholders⟩
    exact ⟨name, block, hbelow, hblock, hholders⟩
  · rintro ⟨name, block, hbelow, hblock, hholders⟩
    exact ⟨name, hbelow, block, hblock, hholders⟩

/-- With fuel for every block device the loop ends, and there is an answer. -/
theorem blocksBackActive_spec (blocks : Map BlockDevice) (order : List String) (device : SysPath)
    (activeDeviceIds : List String) {fuel : ℕ} (hfuel : blocks.keys.length < fuel) :
    ∃ answer, blocksBackActive blocks order fuel device activeDeviceIds = some answer ∧
      (answer = true ↔ BacksActive blocks device activeDeviceIds) := by
  have hmissing : (missing (blockNames blocks order) (blocksBelow blocks order device)).length <
      fuel := by
    have hle : (missing (blockNames blocks order) (blocksBelow blocks order device)).length ≤
        (blockNames blocks order).length := List.length_filter_le _ _
    rw [length_blockNames] at hle
    omega
  obtain ⟨backing, hbacking, hmem⟩ := saturate_spec grows_blockDependents _ hmissing
  unfold blocksBackActive
  by_cases hholders : ((blocksBelow blocks order device).any fun name =>
      (blocks.lookup name).any BlockDevice.hasHolders) = true
  · exact ⟨true, if_pos hholders, fun _ => .inl (anyHolders_iff.1 hholders), fun _ => rfl⟩
  refine ⟨_, (if_neg hholders).trans (by rw [hbacking, Option.map_some]), ?_⟩
  rw [anyHolders_iff] at hholders
  rw [BacksActive, or_iff_right hholders]
  simp only [List.any_eq_true, Option.any_eq_true, List.contains_eq_mem, decide_eq_true_eq, hmem,
    ReachedFrom, within_blockNames, mem_blocksBelow]
  constructor
  · rintro ⟨name, ⟨start, hbelow, hsteps⟩, block, hblock, hactive⟩
    exact ⟨start, name, block, hbelow, hsteps, hblock, hactive⟩
  · rintro ⟨start, name, block, hbelow, hsteps, hblock, hactive⟩
    exact ⟨name, ⟨start, hbelow, hsteps⟩, block, hblock, hactive⟩

end Exact

/-- Whatever the order of iteration, the loop ends within as many rounds as there are block devices
and the answer is whether the device backs active storage. -/
theorem usb_backs_active_storage_exact (order : List String) (device blockRoot : String)
    (path : SysPath) (entries : List BlockEntry) (activeDeviceIds : List String) :
    ∃ answer, (∀ fuel > (blockDevices entries).keys.length,
        usbBacksActiveStorage order fuel device (some path) blockRoot (some entries)
          activeDeviceIds = .ok (some answer)) ∧
      (answer = true ↔ BacksActive (blockDevices entries) path activeDeviceIds) := by
  classical
  refine ⟨decide (BacksActive (blockDevices entries) path activeDeviceIds), fun fuel hfuel => ?_,
    decide_eq_true_iff⟩
  obtain ⟨answer, hanswer, hiff⟩ := blocksBackActive_spec (blockDevices entries) order path
    activeDeviceIds hfuel
  have hdecide : answer = decide (BacksActive (blockDevices entries) path activeDeviceIds) :=
    Bool.eq_iff_iff.2 (hiff.trans decide_eq_true_iff.symm)
  rw [usbBacksActiveStorage, hanswer, hdecide]

/-- A mapper on a partition that is mounted. -/
example : usbBacksActiveStorage [] 4 "1-3" (some ["sys", "usb1", "1-3"]) "/sys/class/block"
    (some [{ name := "sda2", sysPath := some ["sys", "usb1", "1-3", "sda", "sda2"], dev := some "8:2" },
      { name := "dm-0", sysPath := some ["sys", "dm-0"], dev := some "254:0", slaves := ["sda2"] }])
    ["254:0"] = .ok (some true) := by decide +kernel

end GhafDeviceManager
