import GhafDeviceManager.Runs
import GhafDeviceManager.StickyMemory

/-!
# What the routing verdicts remember

`usbRouting` keeps the verdict of a pass in a map keyed by persistent id. Read as a memory of
devices, this is the cache of `StickyMemory`: the last device of an id decides for all of them.
-/

namespace GhafDeviceManager

open StickyMemory

/-- A scan handed to `usbRouting`, with what `usbRule` said of its devices. -/
structure RoutingScan where
  devices : List UsbDevice
  rule : UsbDevice → Bool
  /-- The names of a directory are distinct. -/
  nodup : (devices.map UsbDevice.sysName).Nodup

namespace RoutingScan

def scan (s : RoutingScan) : Scan UsbDevice := { items := s.devices, verdict := s.rule }

def cache : List RoutingScan → Map Bool
  | [] => ∅
  | s :: earlier => (usbRoutingPass s.rule (cache earlier) (fun _ => false) s.devices).1

def routed (s : RoutingScan) (earlier : List RoutingScan) (disconnected : String → Bool) :
    List String :=
  (usbRoutingPass s.rule (cache earlier) disconnected s.devices).2

end RoutingScan

variable {rule : UsbDevice → Bool} {cache : Map Bool} {disconnected : String → Bool}

/-- The verdicts a pass leaves behind do not depend on the marks. -/
theorem usbRoutingFold_fst (devices : List UsbDevice) (acc : Map Bool × List String) (i : String) :
    (usbRoutingFold rule cache disconnected devices acc).1.lookup i =
      ((lastWith UsbDevice.persistentId devices i).map (fun device =>
        rule device || (cache.lookup i).getD false)).or (acc.1.lookup i) := by
  induction devices generalizing acc with
  | nil => simp [usbRoutingFold, lastWith]
  | cons device rest ih =>
      obtain ⟨seen, routed⟩ := acc
      rw [usbRoutingFold, ih]
      simp only [lastWith, List.reverse_cons, List.find?_append]
      cases hrest : rest.reverse.find? fun x => x.persistentId = i with
      | some other => simp
      | none =>
          by_cases hi : device.persistentId = i
          · subst hi
            simp
          · have hi' : i ≠ device.persistentId := Ne.symm hi
            simp [hi, AList.lookup_insert_ne hi']

theorem usbRoutingFold_cache (devices : List UsbDevice) (disconnected' : String → Bool)
    (seen : Map Bool) (names names' : List String) :
    (usbRoutingFold rule cache disconnected devices (seen, names)).1 =
      (usbRoutingFold rule cache disconnected' devices (seen, names')).1 := by
  induction devices generalizing seen names names' with
  | nil => rfl
  | cons device rest ih => exact ih _ _ _

theorem mem_usbRoutingFold_snd (devices : List UsbDevice) (acc : Map Bool × List String)
    (name : String) :
    name ∈ (usbRoutingFold rule cache disconnected devices acc).2 ↔
      name ∈ acc.2 ∨ ∃ device ∈ devices, device.sysName = name ∧
        (rule device || (cache.lookup device.persistentId).getD false) = true ∧
        disconnected device.persistentId = false := by
  induction devices generalizing acc with
  | nil => simp [usbRoutingFold]
  | cons device rest ih =>
      obtain ⟨seen, routed⟩ := acc
      rw [usbRoutingFold, ih]
      by_cases h : (rule device || (cache.lookup device.persistentId).getD false) = true ∧
          disconnected device.persistentId = false
      · simp only [h.1, h.2, Bool.not_false, Bool.and_self, if_true, List.mem_cons,
          exists_eq_or_imp, and_true, eq_comm (a := name)]
        tauto
      · have hrouted : ((rule device || (cache.lookup device.persistentId).getD false) &&
            !disconnected device.persistentId) = false := by
          rw [Bool.eq_false_iff]
          simpa using h
        simp only [hrouted, Bool.false_eq_true, if_false, List.mem_cons, exists_eq_or_imp]
        tauto

namespace RoutingScan

theorem cache_lookup (history : List RoutingScan) (i : String) :
    (RoutingScan.cache history).lookup i =
      cached UsbDevice.persistentId (history.map RoutingScan.scan) i := by
  induction history with
  | nil => rfl
  | cons s earlier ih =>
      rw [RoutingScan.cache, usbRoutingPass, usbRoutingFold_fst, ih]
      simp [cached, RoutingScan.scan]

/-- A device is a device at its sys name, and perhaps also told apart by a tag of the reader's
choice: `fun _ => ()` for the sys name alone, the persistent id for its identity. -/
def identity {Tag : Type} (tag : UsbDevice → Tag) (device : UsbDevice) : String × Tag :=
  (device.sysName, tag device)

/-- The rule matched this device at the newest scan, or earlier and it was scanned ever since. -/
def Remembered {Tag : Type} (tag : UsbDevice → Tag) (history : List RoutingScan)
    (device : UsbDevice) : Prop :=
  Held (identity tag) (history.map RoutingScan.scan) (identity tag device)

instance {Tag : Type} [DecidableEq Tag] (tag : UsbDevice → Tag) (history : List RoutingScan)
    (device : UsbDevice) : Decidable (Remembered tag history device) :=
  Held.decidable _ _ _

variable {Tag : Type} (tag : UsbDevice → Tag)

/-- What the routed sets of a history should be. -/
def RoutesRemembered (history : List RoutingScan) : Prop :=
  ∀ s earlier, s :: earlier <:+ history → ∀ disconnected, ∀ device ∈ s.devices,
    (device.sysName ∈ s.routed earlier disconnected ↔
      disconnected device.persistentId = false ∧ Remembered tag (s :: earlier) device)

/-- At two consecutive scans, the last device of an id in the earlier one is remembered exactly
when each unmatched device of this id in the later one is. -/
def IdsAgree (history : List RoutingScan) : Prop :=
  ∀ next last earlier, next :: last :: earlier <:+ history → ∀ device ∈ next.devices,
    next.rule device = false →
      ((∃ other, lastWith UsbDevice.persistentId last.devices device.persistentId = some other ∧
          Remembered tag (last :: earlier) other) ↔ Remembered tag (last :: earlier) device)

theorem identity_injOn (s : RoutingScan) :
    Set.InjOn (identity tag) {device | device ∈ s.scan.items} := by
  intro a ha b hb hab
  exact List.inj_on_of_nodup_map s.nodup ha hb (congrArg Prod.fst hab)

theorem mem_routed (s : RoutingScan) (earlier : List RoutingScan) (disconnected : String → Bool)
    {device : UsbDevice} (hdevice : device ∈ s.devices) :
    device.sysName ∈ s.routed earlier disconnected ↔
      disconnected device.persistentId = false ∧
        verdictNow UsbDevice.persistentId s.scan (earlier.map RoutingScan.scan) device = true := by
  rw [routed, usbRoutingPass, mem_usbRoutingFold_snd, verdictNow, ← cache_lookup]
  constructor
  · rintro (h | ⟨other, hother, hname, hmatched, hconnected⟩)
    · cases h
    · rw [List.inj_on_of_nodup_map s.nodup hother hdevice hname] at hmatched hconnected
      exact ⟨hconnected, hmatched⟩
  · rintro ⟨hconnected, hmatched⟩
    exact .inr ⟨device, hdevice, rfl, hmatched, hconnected⟩

theorem routesRemembered_iff_faithful (history : List RoutingScan) :
    RoutesRemembered tag history ↔
      Faithful (identity tag) UsbDevice.persistentId (history.map RoutingScan.scan) := by
  constructor
  · intro h _ _ hsuffix device hdevice
    obtain ⟨l, hl, heq⟩ := List.suffix_map_iff.1 hsuffix
    obtain ⟨s, earlier, rfl, rfl, rfl⟩ := List.map_eq_cons_iff.1 heq.symm
    have hrouted := h s earlier hl (fun _ => false) device hdevice
    rw [mem_routed s earlier _ hdevice] at hrouted
    simpa [Remembered] using hrouted
  · intro h s earlier hsuffix disconnected device hdevice
    rw [mem_routed s earlier disconnected hdevice]
    exact and_congr_right fun _ => h s.scan _ (hsuffix.map RoutingScan.scan) device hdevice

theorem idsAgree_iff_agree (history : List RoutingScan) :
    IdsAgree tag history ↔
      Agree (identity tag) UsbDevice.persistentId (history.map RoutingScan.scan) := by
  constructor
  · intro h _ _ _ hsuffix device hdevice
    obtain ⟨l, hl, heq⟩ := List.suffix_map_iff.1 hsuffix
    obtain ⟨next, l, rfl, rfl, htail⟩ := List.map_eq_cons_iff.1 heq.symm
    obtain ⟨last, earlier, rfl, rfl, rfl⟩ := List.map_eq_cons_iff.1 htail
    exact h next last earlier hl device hdevice
  · intro h next last earlier hsuffix device hdevice
    exact h next.scan last.scan _ (hsuffix.map RoutingScan.scan) device hdevice

/-- Routing remembers devices exactly as long as the last device of each id speaks for the others:
the memory is kept per id, and what is routed are devices. -/
theorem routed_iff_remembered (history : List RoutingScan) :
    RoutesRemembered tag history ↔ IdsAgree tag history := by
  rw [routesRemembered_iff_faithful, idsAgree_iff_agree]
  refine cached_iff_held fun scan hscan => ?_
  obtain ⟨s, _, rfl⟩ := List.mem_map.1 hscan
  exact identity_injOn tag s

/-- A call of `usbRouting` is a pass over the cache the earlier ones left. -/
theorem usbRouting_pass {allowed : World → Op → Choice → Prop} {w w' : World}
    {tr : List (World × Op)} {r : Except Error (List String)} {s : RoutingScan}
    {earlier : List RoutingScan} (hrule : s.rule = fun device => (w.daemon.usbRule device).isSome)
    (hcache : w.memory.usbRouting = RoutingScan.cache earlier)
    (hexec : Exec (machine allowed) (usbRouting w.daemon s.devices).run w tr w' (some r)) :
    r = .ok (s.routed earlier w.memory.persistent.disconnected) ∧
      w'.memory.usbRouting = RoutingScan.cache (s :: earlier) := by
  have hpass : (usbRouting w.daemon s.devices).wp (machine allowed) (fun _ _ => True)
      (fun r w' => r = .ok (s.routed earlier w.memory.persistent.disconnected) ∧
        w'.memory.usbRouting = RoutingScan.cache (s :: earlier)) w := by
    simp only [usbRouting, enter, readMemory, update, Fallible.wp_bind, wp_operation, wp_withLock,
      Fallible.andThen_ok, Fallible.wp_pure, react, updateEffect, Update.apply, true_and]
    intros
    constructor
    · rw [RoutingScan.routed, hrule, ← hcache]
      rfl
    · rw [RoutingScan.cache, hrule, ← hcache]
      exact usbRoutingFold_cache _ _ _ _ _
  exact (Program.wp_sound hpass hexec).2 r rfl

end RoutingScan

def secondPort : Value :=
  .object [("allow", .array [.object [("bus", .unsigned 1), ("port", .unsigned 2)]]),
    ("targetVm", .string "gui-vm")]

def keyboardScan : RoutingScan where
  devices := scanUsb Host.plain.hwdb [] [keyboard "1-1" "4", keyboard "1-2" "5"]
  rule device := ((plainDaemon [secondPort]).usbRule device).isSome
  nodup := by decide +kernel

/-- At the second pass the first keyboard is routed as well, through the verdict of the other. -/
theorem unmatched_device_routed :
    ¬RoutingScan.RoutesRemembered (fun _ => ()) [keyboardScan, keyboardScan] := by
  intro hclaim
  have hrouted : ∃ device ∈ keyboardScan.devices,
      device.sysName ∈ keyboardScan.routed [keyboardScan] (fun _ => false) ∧
        ¬RoutingScan.Remembered (fun _ => ()) [keyboardScan, keyboardScan] device := by
    decide +kernel
  obtain ⟨device, hdevice, hrouted, hnot⟩ := hrouted
  have hremembered := hclaim keyboardScan [keyboardScan] List.suffix_rfl (fun _ => false) device
    hdevice
  exact hnot (hremembered.1 hrouted).2

end GhafDeviceManager
