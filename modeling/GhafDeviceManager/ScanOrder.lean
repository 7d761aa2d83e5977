import GhafDeviceManager.BootAddresses
import GhafDeviceManager.Protocol

/-!
# The order of directories

The kernel lists a directory in no particular order, and in another one each time. The scans sort
the devices, but not what they collect for a device. What the daemon decides does not depend on it.
-/

namespace GhafDeviceManager

/-! ## Sorting by distinct keys -/

section Sorting

variable {α β γ : Type} {R : β → β → Prop} {items items' : List α}

/-- Sorted by keys that differ, a list does not depend on the order it came in. -/
theorem insertionSort_eq_of_perm {key : α → String} (h : items.Perm items')
    (hkeys : (items.map key).Nodup) :
    items.insertionSort (fun a b => key a ≤ key b) =
      items'.insertionSort fun a b => key a ≤ key b := by
  have hinj := List.inj_on_of_nodup_map hkeys
  have hanti : ∀ a b, a ∈ items.insertionSort (fun a b => key a ≤ key b) →
      b ∈ items'.insertionSort (fun a b => key a ≤ key b) → key a ≤ key b → key b ≤ key a →
        a = b := by
    intro a b ha hb hle hge
    have hb' := h.mem_iff.2 ((List.mem_insertionSort _).1 hb)
    exact hinj ((List.mem_insertionSort _).1 ha) hb' (String.le_antisymm hle hge)
  apply List.Perm.eq_of_pairwise hanti (List.pairwise_insertionSort _ _)
    (List.pairwise_insertionSort _ _)
  exact ((List.perm_insertionSort _ _).trans h).trans (List.perm_insertionSort _ _).symm

/-- What is made of the items one by one can be sorted before or after. -/
theorem map_insertionSort_key {key : α → String} {name : β → String} {f : α → β}
    (h : ∀ a, name (f a) = key a) :
    (items.map f).insertionSort (fun a b => name a ≤ name b) =
      (items.insertionSort fun a b => key a ≤ key b).map f := by
  symm
  apply List.map_insertionSort
  intro a _ b _
  rw [h, h]

theorem forall₂_insertionSort {key : α → String} {name : β → String} {f g : α → β}
    (h : items.Perm items') (hkeys : (items.map key).Nodup) (hf : ∀ a, name (f a) = key a)
    (hg : ∀ a, name (g a) = key a) (hR : ∀ a ∈ items, R (f a) (g a)) :
    List.Forall₂ R ((items.map f).insertionSort fun a b => name a ≤ name b)
      ((items'.map g).insertionSort fun a b => name a ≤ name b) := by
  rw [map_insertionSort_key hf, map_insertionSort_key hg, ← insertionSort_eq_of_perm h hkeys,
    List.forall₂_map_left_iff, List.forall₂_map_right_iff, List.forall₂_same]
  intro a ha
  exact hR a ((List.mem_insertionSort _).1 ha)

theorem sortNames_perm {names names' : List String} (h : names.Perm names') :
    sortNames names = sortNames names' := by
  have hanti : ∀ a b, a ∈ sortNames names → b ∈ sortNames names' → a ≤ b → b ≤ a → a = b :=
    fun a b _ _ => String.le_antisymm
  apply List.Perm.eq_of_pairwise hanti (List.pairwise_insertionSort _ _)
    (List.pairwise_insertionSort _ _)
  exact ((List.perm_insertionSort _ _).trans h).trans (List.perm_insertionSort _ _).symm

theorem count_pushNew [DecidableEq α] (seen : List α) (a b : α) :
    (pushNew seen a).count b = if b ∈ seen then seen.count b else if b = a then 1 else 0 := by
  unfold pushNew
  split
  case isTrue hseen =>
      by_cases hb : b ∈ seen
      · rw [if_pos hb]
      · have hne : b ≠ a := fun heq => hb (heq ▸ hseen)
        rw [if_neg hb, if_neg hne, List.count_eq_zero.2 hb]
  case isFalse hnew =>
      rw [List.count_append, List.count_singleton]
      by_cases hb : b ∈ seen
      · have hne : a ≠ b := fun heq => hnew (heq ▸ hb)
        rw [if_pos hb, beq_false_of_ne hne]
        rfl
      · rw [if_neg hb, List.count_eq_zero.2 hb]
        by_cases heq : a = b
        · simp [heq]
        · have hne : b ≠ a := fun h => heq h.symm
          simp [heq, hne]

theorem count_pushAll [DecidableEq α] (seen items : List α) (b : α) :
    (pushAll seen items).count b =
      if b ∈ seen then seen.count b else if b ∈ items then 1 else 0 := by
  induction items generalizing seen with
  | nil =>
      by_cases hb : b ∈ seen
      · rw [if_pos hb]
        rfl
      · rw [if_neg hb, pushAll, List.foldl_nil, List.count_eq_zero.2 hb]
        rfl
  | cons a rest ih =>
      rw [pushAll_cons, ih]
      simp only [mem_pushNew, count_pushNew, List.mem_cons]
      by_cases hb : b ∈ seen
      · simp [hb]
      · by_cases heq : b = a
        · simp [heq]
        · simp [hb, heq]

theorem pushAll_perm [DecidableEq α] {seen seen' : List α} (hseen : seen.Perm seen')
    (h : items.Perm items') : (pushAll seen items).Perm (pushAll seen' items') := by
  rw [List.perm_iff_count]
  intro b
  rw [count_pushAll, count_pushAll, hseen.count_eq]
  simp only [hseen.mem_iff, h.mem_iff]

theorem any_perm (h : items.Perm items') (p : α → Bool) : items.any p = items'.any p := by
  rw [Bool.eq_iff_iff, List.any_eq_true, List.any_eq_true]
  simp only [h.mem_iff]

/-- What only one item can be is found wherever it is. -/
theorem find?_perm {p : α → Bool} (h : items.Perm items')
    (honly : ∀ a ∈ items, ∀ b ∈ items, p a = true → p b = true → a = b) :
    items.find? p = items'.find? p := by
  cases hfound : items.find? p with
  | none =>
      symm
      rw [List.find?_eq_none] at hfound ⊢
      intro a ha
      exact hfound a (h.mem_iff.2 ha)
  | some a =>
      have ha := List.mem_of_find?_eq_some hfound
      have hpa := List.find?_some hfound
      cases hfound' : items'.find? p with
      | none =>
          have hnone := List.find?_eq_none.1 hfound' a (h.mem_iff.1 ha)
          exact absurd hpa hnone
      | some b =>
          have hb := h.mem_iff.2 (List.mem_of_find?_eq_some hfound')
          rw [honly a ha b hb hpa (List.find?_some hfound')]

end Sorting

/-! ## Reordered devices -/

/-- The same device, but for the order of what was collected for it. -/
structure Reordered (a b : UsbDevice) : Prop where
  rest : b = { a with
    interfacesText := b.interfacesText
    interfaces := b.interfaces
    driverPaths := b.driverPaths
    modaliases := b.modaliases }
  interfaces : a.interfaces.Perm b.interfaces
  driverPaths : a.driverPaths.Perm b.driverPaths
  modaliases : a.modaliases.Perm b.modaliases
  text : a.interfaces = b.interfaces → a.interfacesText = b.interfacesText

namespace Reordered

variable {a b : UsbDevice}

theorem sysName (h : Reordered a b) : a.sysName = b.sysName := by rw [h.rest]

theorem deviceNode (h : Reordered a b) : a.deviceNode = b.deviceNode := by rw [h.rest]

theorem persistentId (h : Reordered a b) : a.persistentId = b.persistentId := by
  rw [h.rest]
  rfl

theorem isHub (h : Reordered a b) : a.isHub = b.isHub := by
  have hclass : a.deviceClass = b.deviceClass := by rw [h.rest]
  rw [UsbDevice.isHub, UsbDevice.isHub, hclass, any_perm h.interfaces]

theorem selectsUsb (h : Reordered a b) (selector : Selector) (rule : RuleMatch) :
    selectsUsb selector a rule = GhafDeviceManager.selectsUsb selector b rule := by
  rw [h.rest]
  rfl

/-- The JSON object of a device has the text of its interfaces and nothing else of theirs. -/
theorem entries (h : Reordered a b) (hinterfaces : a.interfaces = b.interfaces) :
    a.entries = b.entries := by
  rw [h.rest, ← h.text hinterfaces]
  rfl

theorem hasValidInterface (h : Reordered a b) :
    Daemon.hasValidInterface a = Daemon.hasValidInterface b := any_perm h.interfaces _

theorem usbSelectorMatches (h : Reordered a b) (host : Host) (selector : Value) :
    usbSelectorMatches host selector a = GhafDeviceManager.usbSelectorMatches host selector b := by
  have hany := any_perm h.interfaces (interfaceMatches selector)
  rw [GhafDeviceManager.usbSelectorMatches, hany, h.rest]
  rfl

theorem driverPathMatches (h : Reordered a b) (d : Daemon) (selector : Value) :
    d.driverPathMatches selector a = d.driverPathMatches selector b := by
  have hpaths : (a.driverPaths ++ a.modaliases.flatMap d.host.modulePaths).Perm
      (b.driverPaths ++ b.modaliases.flatMap d.host.modulePaths) :=
    h.driverPaths.append (h.modaliases.flatMap_right _)
  rw [Daemon.driverPathMatches, Daemon.driverPathMatches, h.hasValidInterface]
  simp only [any_perm hpaths]

theorem daemonMatches (h : Reordered a b) (d : Daemon) (selector : Value) :
    d.usbSelectorMatches selector a = d.usbSelectorMatches selector b := by
  rw [Daemon.usbSelectorMatches, Daemon.usbSelectorMatches, h.usbSelectorMatches,
    h.driverPathMatches]

theorem usbRule (h : Reordered a b) (d : Daemon) : d.usbRule a = d.usbRule b := by
  unfold Daemon.usbRule
  congr 1
  funext rule
  have hmatch : ruleMatches rule a d.usbSelectorMatches =
      ruleMatches rule b d.usbSelectorMatches := by
    simp only [ruleMatches, h.daemonMatches]
  rw [Daemon.usbRuleMatch, Daemon.usbRuleMatch, hmatch]

theorem usbAuthorizationHostAllowed (h : Reordered a b) (d : Daemon) :
    d.usbAuthorizationHostAllowed a = d.usbAuthorizationHostAllowed b := by
  simp only [Daemon.usbAuthorizationHostAllowed, h.daemonMatches]

end Reordered

/-! ## Scans -/

/-- `scan_usb` where the directory is listed as `entries` for its devices, and anew for the
interfaces of each. -/
def scanUsbListed (hwdb : Hwdb) (hostStorage : List String) (entries : List UsbEntry)
    (listing : UsbEntry → List UsbEntry) : List UsbDevice :=
  ((entries.filter (reported hostStorage)).map fun entry =>
    usbDeviceOf hwdb (listing entry) entry).insertionSort fun a b => a.sysName ≤ b.sysName

section Scans

variable {hwdb : Hwdb} {entries entries' : List UsbEntry} {entry : UsbEntry}

theorem interfaces_of_cached (h : descriptorInterfaces entry.descriptors ≠ []) :
    (usbDeviceOf hwdb entries entry).interfaces =
      pushAll [] ((descriptorInterfaces entry.descriptors).map Prod.snd) := by
  have hcached : (!(descriptorInterfaces entry.descriptors).isEmpty) = true := by
    simpa using h
  change (if (!(descriptorInterfaces entry.descriptors).isEmpty) = true then _ else _) = _
  rw [if_pos hcached, if_pos hcached]
  rfl

theorem interfaces_of_not_cached (h : descriptorInterfaces entry.descriptors = []) :
    (usbDeviceOf hwdb entries entry).interfaces =
      (sysfsInterfaces (childEntries entries entry.name)).map Prod.snd := by
  have hcached : ¬(!(descriptorInterfaces entry.descriptors).isEmpty) = true := by
    rw [h]
    decide
  change (if (!(descriptorInterfaces entry.descriptors).isEmpty) = true then _ else _) = _
  rw [if_neg hcached, if_neg hcached]

/-- The interfaces with their numbers, of which the modaliases are made. -/
def numberedOf (entries : List UsbEntry) (entry : UsbEntry) : List (UInt8 × UsbInterface) :=
  if !(descriptorInterfaces entry.descriptors).isEmpty then descriptorInterfaces entry.descriptors
  else sysfsInterfaces (childEntries entries entry.name)

theorem childEntries_perm (h : entries.Perm entries') (name : String) :
    (childEntries entries name).Perm (childEntries entries' name) := h.filter _

theorem numberedOf_perm (h : entries.Perm entries') :
    (numberedOf entries entry).Perm (numberedOf entries' entry) := by
  unfold numberedOf
  split
  · exact List.Perm.refl _
  · exact (childEntries_perm h _).filterMap _

theorem modaliases_perm (h : entries.Perm entries') :
    (usbDeviceOf hwdb entries entry).modaliases.Perm
      (usbDeviceOf hwdb entries' entry).modaliases := by
  have hread := (childEntries_perm h entry.name).filterMap fun child => child.read "modalias"
  cases hidentity : identity? entry with
  | none =>
      simp only [usbDeviceOf, hidentity]
      exact hread
  | some identity =>
      simp only [usbDeviceOf, hidentity]
      exact pushAll_perm hread ((numberedOf_perm h).filterMap _)

theorem reordered_usbDeviceOf (h : entries.Perm entries') :
    Reordered (usbDeviceOf hwdb entries entry) (usbDeviceOf hwdb entries' entry) where
  rest := rfl
  interfaces := by
    by_cases hcached : descriptorInterfaces entry.descriptors = []
    · rw [interfaces_of_not_cached hcached, interfaces_of_not_cached hcached]
      exact ((childEntries_perm h _).filterMap _).map _
    · rw [interfaces_of_cached hcached, interfaces_of_cached hcached]
  driverPaths := (childEntries_perm h _).filterMap _
  modaliases := modaliases_perm h
  text := congrArg interfacesText

end Scans

/-! ## Decisions -/

/-- A daemon goes by these scans in the same way: it finds the same devices in the same order, with
the same rules, keeps the same ones from the host, and knows the same ones as held. -/
structure SameDecisions (d : Daemon) (devices devices' : List UsbDevice) : Prop where
  names : devices.map UsbDevice.sysName = devices'.map UsbDevice.sysName
  routed : List.Forall₂ (fun x y => Reordered x.1 y.1 ∧ x.2 = y.2) (d.usbRouted devices)
    (d.usbRouted devices')
  selected : ∀ selector : Selector,
    List.Forall₂ (fun x y => Reordered x.1 y.1 ∧ x.2 = y.2)
      ((d.usbRouted devices).filter fun x => selectsUsb selector x.1 x.2)
      ((d.usbRouted devices').filter fun x => selectsUsb selector x.1 x.2)
  routing : ∀ (cache : Map Bool) (disconnected : String → Bool),
    usbRoutingPass (fun device => (d.usbRule device).isSome) cache disconnected devices =
      usbRoutingPass (fun device => (d.usbRule device).isSome) cache disconnected devices'
  authorized : (devices.filter fun device => device.isHub ||
      d.usbAuthorizationHostAllowed device).map UsbDevice.sysName =
    (devices'.filter fun device => device.isHub ||
      d.usbAuthorizationHostAllowed device).map UsbDevice.sysName
  held : ∀ usbVms : Map String,
    (devices.filter fun device => device.deviceNode.any fun node =>
      (usbVms.lookup node).isSome).map UsbDevice.sysName =
    (devices'.filter fun device => device.deviceNode.any fun node =>
      (usbVms.lookup node).isSome).map UsbDevice.sysName

section Decisions

variable {d : Daemon} {devices devices' : List UsbDevice}

theorem usbRouted_reordered (h : List.Forall₂ Reordered devices devices') :
    List.Forall₂ (fun x y => Reordered x.1 y.1 ∧ x.2 = y.2) (d.usbRouted devices)
      (d.usbRouted devices') := by
  apply List.rel_filterMap (R := Reordered) _ h
  intro a b hab
  simp only [hab.usbRule d]
  cases d.usbRule b with
  | none => exact .none
  | some rule => exact .some ⟨hab, rfl⟩

theorem usbRoutingFold_reordered {rule : UsbDevice → Bool}
    (hrule : ∀ a b, Reordered a b → rule a = rule b) {cache : Map Bool}
    {disconnected : String → Bool} (h : List.Forall₂ Reordered devices devices')
    (acc : Map Bool × List String) :
    usbRoutingFold rule cache disconnected devices acc =
      usbRoutingFold rule cache disconnected devices' acc := by
  induction h generalizing acc with
  | nil => rfl
  | cons hab _ ih =>
      obtain ⟨seen, routed⟩ := acc
      rw [usbRoutingFold, usbRoutingFold, hrule _ _ hab, hab.persistentId, hab.sysName]
      exact ih _

theorem map_filter_reordered {keep : UsbDevice → Bool}
    (hkeep : ∀ a b, Reordered a b → keep a = keep b) (h : List.Forall₂ Reordered devices devices') :
    (devices.filter keep).map UsbDevice.sysName =
      (devices'.filter keep).map UsbDevice.sysName := by
  induction h with
  | nil => rfl
  | cons hab _ ih =>
      rw [List.filter_cons, List.filter_cons, hkeep _ _ hab]
      split
      · rw [List.map_cons, List.map_cons, ih, hab.sysName]
      · exact ih

theorem sameDecisions_of_reordered (h : List.Forall₂ Reordered devices devices') :
    SameDecisions d devices devices' where
  names := by
    have hall : (devices.filter fun _ => true).map UsbDevice.sysName =
        (devices'.filter fun _ => true).map UsbDevice.sysName :=
      map_filter_reordered (fun _ _ _ => rfl) h
    simpa using hall
  routed := usbRouted_reordered h
  selected := by
    intro selector
    apply List.rel_filter _ (usbRouted_reordered h)
    intro x y hxy
    simp only [hxy.2, hxy.1.selectsUsb]
  routing := by
    intro cache disconnected
    apply usbRoutingFold_reordered _ h
    intro a b hab
    rw [hab.usbRule]
  authorized := by
    apply map_filter_reordered _ h
    intro a b hab
    rw [hab.isHub, hab.usbAuthorizationHostAllowed]
  held := by
    intro usbVms
    apply map_filter_reordered _ h
    intro a b hab
    rw [hab.deviceNode]

end Decisions

/-! ## PCI -/

structure Relisted (entry entry' : PciEntry) : Prop where
  rest : entry' = { entry with iommuGroup := entry'.iommuGroup }
  group : Option.Rel List.Perm entry.iommuGroup entry'.iommuGroup

section Pci

variable {pci pci' : List PciEntry} {relist : PciEntry → PciEntry}

theorem Relisted.address {entry entry' : PciEntry} (h : Relisted entry entry') :
    entry'.address = entry.address := by rw [h.rest]

theorem pciDeviceOf_relisted {entry entry' : PciEntry} (h : Relisted entry entry') :
    pciDeviceOf entry' = pciDeviceOf entry := by
  rw [h.rest]
  rfl

theorem scanPci_perm (hkeys : (pci.map PciEntry.address).Nodup)
    (hrelist : ∀ entry, Relisted entry (relist entry)) (h : (pci.map relist).Perm pci') :
    scanPci pci = scanPci pci' := by
  have hdevices : (pci.map pciDeviceOf).Perm (pci'.map pciDeviceOf) := by
    have hmap := h.map pciDeviceOf
    rw [List.map_map] at hmap
    have hsame : pciDeviceOf ∘ relist = pciDeviceOf :=
      funext fun entry => pciDeviceOf_relisted (hrelist entry)
    rwa [hsame] at hmap
  apply insertionSort_eq_of_perm hdevices
  rw [List.map_map]
  exact hkeys

theorem map_sortNames_group {group group' : Option (List String)}
    (h : Option.Rel List.Perm group group') : group.map sortNames = group'.map sortNames := by
  cases h with
  | none => rfl
  | some hperm => exact congrArg some (sortNames_perm hperm)

theorem iommuGroup_eq (pci : List PciEntry) (address : String) :
    iommuGroup pci address = (((pci.find? fun entry => entry.address = address).bind
      PciEntry.iommuGroup).map sortNames).getD [] := by
  unfold iommuGroup
  cases (pci.find? fun entry => entry.address = address).bind PciEntry.iommuGroup with
  | none => rfl
  | some members => rfl

theorem iommuGroup_perm (hkeys : (pci.map PciEntry.address).Nodup)
    (hrelist : ∀ entry, Relisted entry (relist entry)) (h : (pci.map relist).Perm pci')
    (address : String) : iommuGroup pci address = iommuGroup pci' address := by
  have honly : ∀ a ∈ pci.map relist, ∀ b ∈ pci.map relist, decide (a.address = address) = true →
      decide (b.address = address) = true → a = b := by
    intro a ha b hb hpa hpb
    obtain ⟨entry, hentry, rfl⟩ := List.mem_map.1 ha
    obtain ⟨other, hother, rfl⟩ := List.mem_map.1 hb
    rw [decide_eq_true_iff, (hrelist _).address] at hpa hpb
    rw [List.inj_on_of_nodup_map hkeys hentry hother (hpa.trans hpb.symm)]
  have hcomp : ((fun entry : PciEntry => decide (entry.address = address)) ∘ relist) =
      fun entry => decide (entry.address = address) := by
    funext entry
    simp only [Function.comp, (hrelist entry).address]
  rw [iommuGroup_eq, iommuGroup_eq, ← find?_perm h honly, List.find?_map, hcomp]
  cases pci.find? fun entry => decide (entry.address = address) with
  | none => rfl
  | some entry =>
      rw [Option.map_some, Option.bind_some, Option.bind_some,
        map_sortNames_group (hrelist entry).group]

theorem pciRouted_perm (d : Daemon) (hkeys : (pci.map PciEntry.address).Nodup)
    (hrelist : ∀ entry, Relisted entry (relist entry)) (h : (pci.map relist).Perm pci') :
    d.pciRouted pci (scanPci pci) = d.pciRouted pci' (scanPci pci') := by
  have hgroups : iommuGroup pci = iommuGroup pci' := funext (iommuGroup_perm hkeys hrelist h)
  rw [← scanPci_perm hkeys hrelist h, Daemon.pciRouted, hgroups]
  rfl

end Pci

/-! ## The system -/

/-- A reordered device of these entries; one whose descriptors are cached is shown the same. -/
structure ScannedReordered (entries : List UsbEntry) (a b : UsbDevice) : Prop where
  reordered : Reordered a b
  cached : ∀ entry ∈ entries, entry.name = a.sysName →
    descriptorInterfaces entry.descriptors ≠ [] → a.entries = b.entries

theorem scanUsb_listed {hwdb : Hwdb} {hostStorage : List String} {entries entries' : List UsbEntry}
    {listing : UsbEntry → List UsbEntry} (hnames : (entries.map UsbEntry.name).Nodup)
    (hentries : entries.Perm entries')
    (hlisting : ∀ entry ∈ entries, entries.Perm (listing entry)) :
    List.Forall₂ (ScannedReordered entries) (scanUsb hwdb hostStorage entries)
      (scanUsbListed hwdb hostStorage entries' listing) := by
  have hkeys : ((entries.filter (reported hostStorage)).map UsbEntry.name).Nodup :=
    hnames.sublist (List.filter_sublist.map _)
  have hdevice : ∀ entry ∈ entries.filter (reported hostStorage), ScannedReordered entries
      (usbDeviceOf hwdb entries entry) (usbDeviceOf hwdb (listing entry) entry) := by
    intro entry hentry
    have hmem := (List.mem_filter.1 hentry).1
    have hreordered : Reordered (usbDeviceOf hwdb entries entry)
        (usbDeviceOf hwdb (listing entry) entry) := reordered_usbDeviceOf (hlisting entry hmem)
    refine ⟨hreordered, ?_⟩
    intro other hother hname hcached
    obtain rfl := List.inj_on_of_nodup_map hnames hother hmem hname
    apply hreordered.entries
    rw [interfaces_of_cached hcached, interfaces_of_cached hcached]
  exact forall₂_insertionSort (hentries.filter _) hkeys (fun _ => rfl) (fun _ => rfl) hdevice

/-- Whatever the order in which directories are listed, and listed again, what the daemon decides
from its scans is the same; and a device whose descriptors are cached is shown the same. -/
theorem decisions_without_order (d : Daemon) {hostStorage : List String}
    {entries entries' : List UsbEntry} {listing : UsbEntry → List UsbEntry}
    {pci pci' : List PciEntry} {relist : PciEntry → PciEntry}
    (hnames : (entries.map UsbEntry.name).Nodup) (hentries : entries.Perm entries')
    (hlisting : ∀ entry ∈ entries, entries.Perm (listing entry))
    (haddresses : (pci.map PciEntry.address).Nodup) (hpci : (pci.map relist).Perm pci')
    (hrelist : ∀ entry, Relisted entry (relist entry)) :
    List.Forall₂ (ScannedReordered entries) (scanUsb d.host.hwdb hostStorage entries)
        (scanUsbListed d.host.hwdb hostStorage entries' listing) ∧
      SameDecisions d (scanUsb d.host.hwdb hostStorage entries)
        (scanUsbListed d.host.hwdb hostStorage entries' listing) ∧
      scanPci pci = scanPci pci' ∧
      d.pciRouted pci (scanPci pci) = d.pciRouted pci' (scanPci pci') ∧
      ∀ address, iommuGroup pci address = iommuGroup pci' address := by
  have hscan : List.Forall₂ (ScannedReordered entries) (scanUsb d.host.hwdb hostStorage entries)
      (scanUsbListed d.host.hwdb hostStorage entries' listing) :=
    scanUsb_listed hnames hentries hlisting
  have hreordered := hscan.imp fun _ _ h => h.reordered
  exact ⟨hscan, sameDecisions_of_reordered hreordered, scanPci_perm haddresses hrelist hpci,
    pciRouted_perm d haddresses hrelist hpci, iommuGroup_perm haddresses hrelist hpci⟩

def intercom : UsbEntry where
  name := "1-4"
  files := [("busnum", "1"), ("devnum", "7"), ("idVendor", "046d"), ("idProduct", "0825")]

def intercomInterface (name cls : String) : UsbEntry where
  name := name
  files := [("bInterfaceClass", cls), ("bInterfaceSubClass", "01"), ("bInterfaceProtocol", "00")]

def intercomListing : List UsbEntry :=
  [intercom, intercomInterface "1-4:1.0" "0e", intercomInterface "1-4:1.2" "01"]

def graphicsFunction (address : String) : PciEntry where
  address := address
  iommuGroup := some ["0000:03:00.0", "0000:03:00.1"]

def relistGroup (entry : PciEntry) : PciEntry :=
  { entry with iommuGroup := entry.iommuGroup.map List.reverse }

theorem relisted_relistGroup (entry : PciEntry) : Relisted entry (relistGroup entry) where
  rest := rfl
  group := by
    unfold relistGroup
    cases entry.iommuGroup with
    | none => exact .none
    | some members => exact .some (List.reverse_perm members).symm

def intercomDaemon : Daemon where
  config :=
    { usbPassthrough := [.object [("targetVm", .string "audio-vm"),
        ("allow", .array [.object [("interfaceClass", .unsigned 1)]])]] }
  host := Host.plain

def graphicsListing : List PciEntry :=
  [graphicsFunction "0000:03:00.1", graphicsFunction "0000:03:00.0"]

theorem decisions_without_order_intercom :
    SameDecisions intercomDaemon (scanUsb intercomDaemon.host.hwdb [] intercomListing)
        (scanUsbListed intercomDaemon.host.hwdb [] intercomListing.reverse fun _ =>
          intercomListing.reverse) ∧
      scanPci graphicsListing = scanPci (graphicsListing.map relistGroup).reverse := by
  have hnames : (intercomListing.map UsbEntry.name).Nodup := by decide
  have haddresses : (graphicsListing.map PciEntry.address).Nodup := by decide
  have hentries : intercomListing.Perm intercomListing.reverse := (List.reverse_perm _).symm
  have hpci : (graphicsListing.map relistGroup).Perm (graphicsListing.map relistGroup).reverse :=
    (List.reverse_perm _).symm
  obtain ⟨-, hsame, hscan, -⟩ := decisions_without_order intercomDaemon hnames hentries
    (fun _ _ => hentries) haddresses hpci relisted_relistGroup
  exact ⟨hsame, hscan⟩

end GhafDeviceManager
