import GhafDeviceManager.Delimited
import GhafDeviceManager.Hotplug
import GhafDeviceManager.Numerals

/-!
# The names in sysfs

A device is named after its bus and the ports it is behind, a root hub after its bus alone. Its
interfaces go by the same path, with 0 for the port of a root hub, and so each belongs to one
device.
-/

namespace GhafDeviceManager

/-- The root hub of a bus, or a device behind ports, which count from 1. -/
inductive Location
  | rootHub (bus : ℕ)
  | port (bus : ℕ) (first : ℕ+) (rest : List ℕ+)

namespace Location

def number (n : ℕ) : List Char := Nat.toDigits 10 n

def bus : Location → ℕ
  | rootHub bus => bus
  | port bus _ _ => bus

def ports : Location → List ℕ
  | rootHub _ => [0]
  | port _ first rest => (first :: rest).map PNat.val

def path (location : Location) : List Char :=
  number location.bus ++ '-' :: ['.'].intercalate (location.ports.map number)

def sysName (location : Location) : String :=
  match location with
  | rootHub bus => String.ofList ("usb".toList ++ number bus)
  | port _ _ _ => String.ofList location.path

/-- An interface in a configuration, as in `2-1.4:1.0`. -/
def interfaceName (location : Location) (configuration interface : ℕ) : String :=
  String.ofList (location.path ++ ':' :: (number configuration ++ '.' :: number interface))

theorem number_injective : Function.Injective number :=
  toDigits_injective (by decide) (by decide)

theorem isDigit_of_mem_number {n : ℕ} {c : Char} (hc : c ∈ number n) : c.isDigit = true :=
  Nat.isDigit_of_mem_toDigits (by decide) (by decide) hc

theorem notMem_number {n : ℕ} {c : Char} (h : c.isDigit = false) : c ∉ number n := by
  intro hc
  rw [isDigit_of_mem_number hc] at h
  cases h

theorem ports_ne_nil (location : Location) : location.ports ≠ [] := by
  cases location <;> simp [ports]

theorem ports_injective {a b : Location} (hbus : a.bus = b.bus) (hports : a.ports = b.ports) :
    a = b := by
  cases a with
  | rootHub bus =>
      cases b with
      | rootHub bus' => exact congrArg rootHub hbus
      | port bus' first rest => exact absurd (List.cons.inj hports).1.symm first.ne_zero
  | port bus first rest =>
      cases b with
      | rootHub bus' => exact absurd (List.cons.inj hports).1 first.ne_zero
      | port bus' first' rest' =>
          obtain rfl : bus = bus' := hbus
          obtain ⟨rfl, rfl⟩ := List.cons.inj (List.map_injective_iff.2 PNat.coe_injective hports)
          rfl

theorem path_injective : Function.Injective path := by
  intro a b h
  have hdash (n : ℕ) : '-' ∉ number n := notMem_number (by decide)
  have hdots (location : Location) : ∀ l ∈ location.ports.map number, '.' ∉ l := by
    intro l hl
    obtain ⟨n, -, rfl⟩ := List.mem_map.1 hl
    exact notMem_number (by decide)
  have hsplit (location : Location) :
      (['.'].intercalate (location.ports.map number)).splitOn '.' = location.ports.map number :=
    List.splitOn_intercalate _ (hdots location) (by simp [ports_ne_nil])
  obtain ⟨hbus, hports⟩ := cancel_terminated (hdash _) (hdash _) h
  refine ports_injective (number_injective hbus) ?_
  refine List.map_injective_iff.2 number_injective ?_
  rw [← hsplit a, ← hsplit b, hports]

theorem mem_intercalate {sep c : Char} {ls : List (List Char)} (hc : c ∈ [sep].intercalate ls) :
    c = sep ∨ ∃ l ∈ ls, c ∈ l := by
  induction ls with
  | nil => cases hc
  | cons l ls ih =>
      cases ls with
      | nil =>
          rw [List.intercalate_singleton] at hc
          exact .inr ⟨l, List.mem_cons_self, hc⟩
      | cons l' ls =>
          rw [List.intercalate_cons_cons] at hc
          rcases List.mem_append.1 hc with hfirst | hrest
          · rcases List.mem_append.1 hfirst with hl | hsep
            · exact .inr ⟨l, List.mem_cons_self, hl⟩
            · exact .inl (List.mem_singleton.1 hsep)
          · rcases ih hrest with rfl | ⟨m, hm, hc⟩
            · exact .inl rfl
            · exact .inr ⟨m, List.mem_cons_of_mem l hm, hc⟩

theorem mem_ports {location : Location} {c : Char}
    (hc : c ∈ ['.'].intercalate (location.ports.map number)) : c.isDigit = true ∨ c = '.' := by
  rcases mem_intercalate hc with rfl | ⟨l, hl, hc⟩
  · exact .inr rfl
  · obtain ⟨n, -, rfl⟩ := List.mem_map.1 hl
    exact .inl (isDigit_of_mem_number hc)

theorem colon_notMem_path (location : Location) : ':' ∉ location.path := by
  intro hc
  rcases List.mem_append.1 hc with hbus | hrest
  · exact absurd hbus (notMem_number (by decide))
  · rcases List.mem_cons.1 hrest with hdash | hports
    · cases hdash
    · rcases mem_ports hports with hdigit | hdot
      · cases hdigit
      · cases hdot

/-! ## Device names -/

theorem deviceName_rootHub (bus : ℕ) : UsbGate.DeviceName (rootHub bus).sysName := by
  have hchars : ∀ c ∈ (rootHub bus).sysName.toList, c ≠ ':' ∧ c ≠ '-' := by
    intro c hc
    rw [sysName, String.toList_ofList] at hc
    rcases List.mem_append.1 hc with hletter | hdigit
    · have hletters : c = 'u' ∨ c = 's' ∨ c = 'b' := by simpa using hletter
      rcases hletters with rfl | rfl | rfl
      · decide
      · decide
      · decide
    · constructor
      · rintro rfl
        exact notMem_number (by decide) hdigit
      · rintro rfl
        exact notMem_number (by decide) hdigit
  refine ⟨fun hcolon => (hchars _ hcolon).1 rfl, fun hsuffix => ?_⟩
  exact (hchars '-' (hsuffix.subset (by simp))).2 rfl

/-- No device is behind port 0. -/
theorem deviceName_port (bus : ℕ) (first : ℕ+) (rest : List ℕ+) :
    UsbGate.DeviceName (port bus first rest).sysName := by
  unfold UsbGate.DeviceName
  rw [sysName, String.toList_ofList]
  refine ⟨colon_notMem_path _, ?_⟩
  rintro ⟨front, hfront⟩
  have hbus : '-' ∉ number bus := notMem_number (by decide)
  have hports : '-' ∉ ['.'].intercalate ((port bus first rest).ports.map number) := by
    intro hc
    rcases mem_ports hc with hdigit | hdot
    · cases hdigit
    · cases hdot
  obtain ⟨-, -, hzero⟩ := (List.append_cons_inj_of_notMem hbus hports).1 hfront.symm
  have hsame : (port bus first rest).path = (rootHub bus).path :=
    congrArg (number bus ++ '-' :: ·) hzero
  cases path_injective hsame

theorem deviceName_sysName (location : Location) : UsbGate.DeviceName location.sysName := by
  cases location with
  | rootHub bus => exact deviceName_rootHub bus
  | port bus first rest => exact deviceName_port bus first rest

theorem stem_sysName (location : Location) : UsbGate.stem location.sysName = location.path := by
  cases location with
  | rootHub bus =>
      have hchars : (rootHub bus).sysName.toList = "usb".toList ++ number bus :=
        String.toList_ofList
      have hstart : Text.startsWith (rootHub bus).sysName "usb" = true := by
        unfold Text.startsWith
        rw [hchars, List.isPrefixOf_iff_prefix]
        exact List.prefix_append _ _
      have hdigits : (number bus).all Char.isDigit = true :=
        List.all_eq_true.2 fun _ hc => isDigit_of_mem_number hc
      have hempty : (number bus).isEmpty = false := by
        rw [List.isEmpty_eq_false_iff]
        exact Nat.toDigits_ne_nil
      have hdrop : ("usb".toList ++ number bus).drop 3 = number bus := rfl
      unfold UsbGate.stem
      dsimp only
      rw [hstart, hchars, hdrop, hdigits, hempty]
      rfl
  | port bus first rest =>
      have hstart : Text.startsWith (port bus first rest).sysName "usb" = false := by
        by_contra hstart
        rw [Bool.not_eq_false] at hstart
        have hletter := (List.isPrefixOf_iff_prefix.1 hstart).subset (List.mem_cons_self)
        rw [sysName, String.toList_ofList] at hletter
        rcases List.mem_append.1 hletter with hbus | hrest
        · exact absurd hbus (notMem_number (by decide))
        · rcases List.mem_cons.1 hrest with hdash | hports
          · cases hdash
          · rcases mem_ports hports with hdigit | hdot
            · cases hdigit
            · cases hdot
      unfold UsbGate.stem
      rw [hstart]
      exact String.toList_ofList

/-- The chars up to the colon in the name of an interface. -/
theorem startsWith_interfaceName {location other : Location} {configuration interface : ℕ} :
    Text.startsWith (location.interfaceName configuration interface)
      (UsbGate.interfacePrefix other.sysName) = true ↔ other = location := by
  constructor
  · intro hstart
    have hstem := UsbGate.takeWhile_of_startsWith (deviceName_sysName other) hstart
    have hhead : (location.interfaceName configuration interface).toList.takeWhile (· ≠ ':') =
        location.path := by
      rw [interfaceName, String.toList_ofList, List.takeWhile_append_of_pos]
      · simp
      · intro c hc
        have hne : c ≠ ':' := fun heq => colon_notMem_path location (heq ▸ hc)
        simpa using hne
    rw [hhead, stem_sysName] at hstem
    exact (path_injective hstem).symm
  · rintro rfl
    unfold Text.startsWith
    rw [List.isPrefixOf_iff_prefix, UsbGate.interfacePrefix_toList, stem_sysName, interfaceName,
      String.toList_ofList]
    exact ⟨number configuration ++ '.' :: number interface, by simp⟩

end Location

/-- The shapes of the names the kernel gives. -/
def KernelName (name : String) : Prop :=
  ∃ location : Location, name = location.sysName ∨
    ∃ configuration interface, name = location.interfaceName configuration interface

/-- Every interface is returned for its device and no other, and nothing else is returned. -/
theorem interfaces_partition (bus : UsbBus) (hnames : ∀ entry ∈ bus.entries, KernelName entry.name)
    (device : Location) :
    (∀ configuration interface,
      device.interfaceName configuration interface ∈ bus.entries.map UsbEntry.name →
      ∀ other : Location,
        device.interfaceName configuration interface ∈ bus.interfaces other.sysName ↔
          other = device) ∧
    ∀ name ∈ bus.interfaces device.sysName, name ∈ bus.entries.map UsbEntry.name ∧
      ∃ configuration interface, name = device.interfaceName configuration interface := by
  have hmem (name sysName : String) : name ∈ bus.interfaces sysName ↔
      name ∈ bus.entries.map UsbEntry.name ∧
        Text.startsWith name (UsbGate.interfacePrefix sysName) = true := by
    unfold UsbBus.interfaces
    rw [mem_sortNames, List.mem_filter]
  constructor
  · intro configuration interface hentry other
    rw [hmem, Location.startsWith_interfaceName]
    exact and_iff_right hentry
  · intro name hname
    obtain ⟨hentry, hstart⟩ := (hmem _ _).1 hname
    refine ⟨hentry, ?_⟩
    obtain ⟨entry, hin, rfl⟩ := List.mem_map.1 hentry
    obtain ⟨location, hdevice | ⟨configuration, interface, hinterface⟩⟩ := hnames entry hin
    · -- a device has no colon in its name
      have hcolon := UsbGate.contains_of_startsWith hstart
      rw [hdevice] at hcolon
      have hnone := (Location.deviceName_sysName location).1
      exact absurd (by simpa [Text.contains] using hcolon) hnone
    · rw [hinterface] at hstart
      obtain rfl := Location.startsWith_interfaceName.1 hstart
      exact ⟨configuration, interface, hinterface⟩

/-- Names that begin alike. -/
theorem interfaces_partition_similar : ∃ bus : UsbBus,
    bus.entries.map UsbEntry.name =
      ["usb2", "2-0:1.0", "2-1", "2-1:1.0", "2-10", "2-10:1.0", "2-1.1", "2-1.1:1.0"] ∧
    (∀ other : Location, "2-1:1.0" ∈ bus.interfaces other.sysName ↔ other = .port 2 1 []) ∧
    ∀ name ∈ bus.interfaces "2-1", ∃ configuration interface,
      name = (Location.port 2 1 []).interfaceName configuration interface := by
  let bus : UsbBus := { entries := [{ name := "usb2" }, { name := "2-0:1.0" }, { name := "2-1" },
    { name := "2-1:1.0" }, { name := "2-10" }, { name := "2-10:1.0" }, { name := "2-1.1" },
    { name := "2-1.1:1.0" }] }
  have hnames : ∀ entry ∈ bus.entries, KernelName entry.name := by
    have hkernel : ∀ entry ∈ bus.entries, ∃ location ∈ [Location.rootHub 2, .port 2 1 [],
        .port 2 10 [], .port 2 1 [1]],
        entry.name = location.sysName ∨ entry.name = location.interfaceName 1 0 := by decide +kernel
    intro entry hentry
    obtain ⟨location, -, hdevice | hinterface⟩ := hkernel entry hentry
    · exact ⟨location, .inl hdevice⟩
    · exact ⟨location, .inr ⟨1, 0, hinterface⟩⟩
  obtain ⟨howner, hothers⟩ := interfaces_partition bus hnames (.port 2 1 [])
  have hinterface : "2-1:1.0" = (Location.port 2 1 []).interfaceName 1 0 := by decide +kernel
  have hdevice : "2-1" = (Location.port 2 1 []).sysName := by decide +kernel
  refine ⟨bus, rfl, ?_, ?_⟩
  · rw [hinterface]
    exact howner 1 0 (by decide +kernel)
  · rw [hdevice]
    exact fun name hname => (hothers name hname).2

end GhafDeviceManager
