import GhafDeviceManager.Runs

/-!
# The kernel behind a closed gate

While `drivers_autoprobe` is 0 a driver binds only through a `drivers_probe` write naming an
existing device or interface, and the interfaces of a device exist only once its own driver is
bound. Devices may come, go and take each other's place between any two operations.
-/

namespace GhafDeviceManager

/-- An interface carries a colon in its name. -/
def UsbEntry.isInterface (entry : UsbEntry) : Bool := Text.contains entry.name ':'

namespace UsbGate

def stem (sysName : String) : List Char :=
  let bus := sysName.toList.drop 3
  if Text.startsWith sysName "usb" && !bus.isEmpty && bus.all Char.isDigit then bus ++ ['-', '0']
  else sysName.toList

/-- The kernel names no device like the interfaces of a root hub. -/
def DeviceName (name : String) : Prop := ':' ∉ name.toList ∧ ¬['-', '0'] <:+ name.toList

instance (name : String) : Decidable (DeviceName name) := by
  unfold DeviceName
  infer_instance

theorem interfacePrefix_toList (name : String) :
    (interfacePrefix name).toList = stem name ++ [':'] := by
  unfold interfacePrefix stem
  dsimp only
  split <;> simp [String.toList_append]

theorem colon_notMem_stem {name : String} (h : DeviceName name) : ':' ∉ stem name := by
  unfold stem
  dsimp only
  split
  · have hdrop : ':' ∉ name.toList.drop 3 := fun hmem => h.1 (List.mem_of_mem_drop hmem)
    simpa using hdrop
  · exact h.1

/-- The name of a root hub is its bus after three letters. -/
theorem toList_of_startsWith_usb {name : String} (h : Text.startsWith name "usb" = true) :
    name.toList = "usb".toList ++ name.toList.drop 3 := by
  obtain ⟨rest, hrest⟩ := List.isPrefixOf_iff_prefix.1 h
  rw [← hrest]
  rfl

theorem stem_injOn : Set.InjOn stem {name | DeviceName name} := by
  intro a ha b hb hab
  have hends : ∀ bus : List Char, ['-', '0'] <:+ bus ++ ['-', '0'] := fun bus =>
    List.suffix_append bus _
  unfold stem at hab
  dsimp only at hab
  split at hab
  · split at hab
    · rename_i husb husb'
      simp only [Bool.and_eq_true] at husb husb'
      have hbus := List.append_cancel_right hab
      apply String.toList_injective
      rw [toList_of_startsWith_usb husb.1.1, toList_of_startsWith_usb husb'.1.1, hbus]
    · exact absurd (hab ▸ hends _) hb.2
  · split at hab
    · exact absurd (hab.symm ▸ hends _) ha.2
    · exact String.toList_injective hab

theorem takeWhile_of_startsWith {name interface : String} (h : DeviceName name)
    (hstart : Text.startsWith interface (interfacePrefix name) = true) :
    interface.toList.takeWhile (· ≠ ':') = stem name := by
  have hprefix := List.isPrefixOf_iff_prefix.1 hstart
  rw [interfacePrefix_toList] at hprefix
  obtain ⟨rest, hrest⟩ := hprefix
  have hstem : ∀ c ∈ stem name, decide (c ≠ ':') = true := by
    intro c hc
    have hne : c ≠ ':' := fun heq => colon_notMem_stem h (heq ▸ hc)
    simpa using hne
  rw [← hrest, List.append_assoc, List.takeWhile_append_of_pos hstem]
  simp

theorem owner_unique {a b interface : String} (ha : DeviceName a) (hb : DeviceName b)
    (hstart : Text.startsWith interface (interfacePrefix a) = true)
    (hstart' : Text.startsWith interface (interfacePrefix b) = true) : a = b := by
  have hstem : stem a = stem b := by
    rw [← takeWhile_of_startsWith ha hstart, ← takeWhile_of_startsWith hb hstart']
  exact stem_injOn ha hb hstem

theorem contains_of_startsWith {name interface : String}
    (hstart : Text.startsWith interface (interfacePrefix name) = true) :
    Text.contains interface ':' = true := by
  have hprefix := List.isPrefixOf_iff_prefix.1 hstart
  rw [interfacePrefix_toList] at hprefix
  have hcolon : ':' ∈ stem name ++ [':'] := by simp
  simpa [Text.contains] using hprefix.subset hcolon

end UsbGate

/-! ## What the kernel promises -/

def UsbEntry.boundTo (entry : UsbEntry) : Option String := entry.driver.map Text.fileName

namespace UsbBus

/-- Names are distinct, and every interface has its device: of the same plug-in and bound. -/
structure Lawful (bus : UsbBus) : Prop where
  distinct : (bus.entries.map UsbEntry.name).Nodup
  names : ∀ entry ∈ bus.entries, entry.isInterface = false → UsbGate.DeviceName entry.name
  owned : ∀ entry ∈ bus.entries, entry.isInterface = true → ∃ device ∈ bus.entries,
    device.isInterface = false ∧ device.plugged = entry.plugged ∧ device.driver.isSome = true ∧
      Text.startsWith entry.name (UsbGate.interfacePrefix device.name) = true

/-- Whatever is bound was bound before, or is claimed by a VM, or was named by a probe. -/
def Binds (probed : Option String) (before after : UsbBus) : Prop :=
  ∀ entry ∈ after.entries, entry.driver = none ∨
    (entry.isInterface = true ∧ entry.boundTo = some UsbGate.claim) ∨
    ∃ old ∈ before.entries, old.name = entry.name ∧ old.plugged = entry.plugged ∧
      (old.driver = entry.driver ∨ probed = some entry.name)

end UsbBus

/-- Surroundings in which devices come, go and are replaced; behind a closed gate new ones stay
without drivers. -/
structure Hotplug (w w' : World) : Prop extends Surroundings w w' where
  lawful : w'.bus.Lawful
  autoprobe : w'.bus.autoprobe = w.bus.autoprobe
  binds : w.bus.autoprobe = some "0" → w.bus.Binds none w'.bus

def Op.probed : Op → Option String
  | .probe name => some name
  | _ => none

/-- The kernel's answer to an operation in this world. -/
structure KernelAnswers (w : World) (op : Op) (c : Choice) : Prop where
  lawful : (react w op c).2.bus.Lawful
  autoprobe : (react w op c).2.bus.autoprobe = match op with
    | .setAutoprobe value => if c.fail then w.bus.autoprobe else some value
    | _ => w.bus.autoprobe
  binds : (react w op c).2.bus.autoprobe = some "0" → w.bus.Binds op.probed (react w op c).2.bus
  released : ∀ name, op = .release name → c.fail = false →
    ∀ entry ∈ (react w op c).2.bus.entries, entry.name = name → entry.driver = none

/-- The manager above this kernel, with hotplug between any two of its operations. -/
def kernel (allowed : World → Op → Choice → Prop) : Machine Op Reply World :=
  Machine.among Hotplug react fun w op c => allowed w op c ∧ KernelAnswers w op c

section Rules

variable {α : Type} {allowed : World → Op → Choice → Prop} {G : World → Op → Prop} {w : World}

theorem wp_kernel (op : Op) (result : Reply op → Except Error α)
    (post : Except Error α → World → Prop) :
    Fallible.wp (kernel allowed) G (Fallible.request op result) post w ↔
      ∀ w₁, Hotplug w w₁ → G w₁ op ∧ ∀ c, allowed w₁ op c → KernelAnswers w₁ op c →
        post (result (react w₁ op c).1) (react w₁ op c).2 := by
  rw [kernel, Fallible.wp_request_among]
  refine forall₂_congr fun w₁ _ => and_congr_right fun _ => forall_congr' fun c => ?_
  exact and_imp

/-- A footprint keeps what hotplug and each of its operations keep. -/
theorem wp_kernel_of_calls {S : Op → Prop} {I : World → Prop} {p : Act α}
    (hp : Fallible.Calls S p) (henv : ∀ w w₁, Hotplug w w₁ → I w → I w₁)
    (hS : ∀ op, S op → ∀ w, I w → G w op ∧
      ∀ c, allowed w op c → KernelAnswers w op c → I (react w op c).2) (hw : I w) :
    Fallible.wp (kernel allowed) G p (fun _ => I) w := by
  refine Fallible.wp_of_calls hp henv (fun op hop w₁ hw₁ => ⟨(hS op hop w₁ hw₁).1, ?_⟩) hw
  rintro r w₂ ⟨c, hc, hreact⟩
  have hstep := (hS op hop w₁ hw₁).2 c hc.1 hc.2
  rwa [hreact] at hstep

end Rules

end GhafDeviceManager
