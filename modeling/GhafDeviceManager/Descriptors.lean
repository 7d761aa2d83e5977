import GhafDeviceManager.Delimited
import GhafDeviceManager.Device

/-!
# USB descriptors

A descriptor begins with its length and its type. The walk over a blob takes the descriptors at its
beginning, as many as there are, and returns the interfaces among them.
-/

namespace GhafDeviceManager

/-- A descriptor, whose length counts itself, the type and what follows. -/
@[ext] structure Descriptor where
  length : UInt8
  kind : UInt8
  body : List UInt8
  length_eq : length.toNat = body.length + 2

namespace Descriptor

def bytes (descriptor : Descriptor) : List UInt8 :=
  descriptor.length :: descriptor.kind :: descriptor.body

@[simp] theorem length_bytes (descriptor : Descriptor) :
    descriptor.bytes.length = descriptor.length.toNat := by
  rw [descriptor.length_eq]
  rfl

theorem selfDelimiting : SelfDelimiting bytes where
  ne_nil d := List.cons_ne_nil _ _
  cancel d d' x y h := by
    obtain ⟨hlength, htail⟩ := List.cons.inj h
    obtain ⟨hkind, hrest⟩ := List.cons.inj htail
    have hbody : d.body.length = d'.body.length := by
      have hd := d.length_eq
      have hd' := d'.length_eq
      rw [hlength] at hd
      omega
    obtain ⟨hbodies, hrests⟩ := List.append_inj hrest hbody
    exact ⟨Descriptor.ext hlength hkind hbodies, hrests⟩

/-- The number and the triple of an interface descriptor, where `bytes` has them. -/
def interface? (d : Descriptor) : Option (UInt8 × UsbInterface) :=
  if h : d.kind = usbDtInterface ∧ usbInterfaceDescriptorSize ≤ d.length.toNat then
    have hsize : 9 ≤ d.bytes.length := d.length_bytes ▸ h.2
    some (d.bytes[2], {
      cls := some (d.bytes[5]).toNat
      subclass := some (d.bytes[6]).toNat
      protocol := some (d.bytes[7]).toNat })
  else none

end Descriptor

section Walk

variable {blob rest tail : List UInt8} {offset fuel : ℕ} {d : Descriptor}
  {descriptors : List Descriptor}

theorem getElem_of_drop {i : ℕ} (hdrop : blob.drop offset = d.bytes ++ rest)
    (hi : i < d.bytes.length) (hbound : offset + i < blob.length) :
    blob[offset + i] = d.bytes[i] := by
  have hboth : (blob.drop offset)[i]? = some d.bytes[i] := by
    rw [hdrop, List.getElem?_append_left hi, List.getElem?_eq_getElem hi]
  rw [List.getElem?_drop, List.getElem?_eq_getElem hbound] at hboth
  exact Option.some.inj hboth

theorem descriptorInterfacesFrom_cons (hdrop : blob.drop offset = d.bytes ++ rest) :
    descriptorInterfacesFrom blob (fuel + 1) offset =
      d.interface?.toList ++ descriptorInterfacesFrom blob fuel (offset + d.length.toNat) := by
  have hlength : blob.length - offset = d.length.toNat + rest.length := by
    rw [← List.length_drop, hdrop, List.length_append, Descriptor.length_bytes]
  have hbody := d.length_eq
  have hbytes := d.length_bytes
  have hfirst : blob[offset] = d.length :=
    getElem_of_drop (i := 0) hdrop (by omega) (by omega)
  have hkind : blob[offset + 1] = d.kind :=
    getElem_of_drop hdrop (by omega) (by omega)
  rw [descriptorInterfacesFrom, dif_pos (by omega)]
  simp only [hfirst]
  rw [dif_neg (by omega)]
  unfold Descriptor.interface?
  by_cases hinterface : d.kind = usbDtInterface ∧ usbInterfaceDescriptorSize ≤ d.length.toNat
  · have hsize : 9 ≤ d.bytes.length := d.length_bytes ▸ hinterface.2
    have hat : ∀ i (hi : i < 9), blob[offset + i] = d.bytes[i] := fun i hi =>
      getElem_of_drop hdrop (by omega) (by omega)
    rw [dif_pos (by rwa [hkind]), dif_pos hinterface]
    simp only [hat 2 (by omega), hat 5 (by omega), hat 6 (by omega), hat 7 (by omega)]
    rfl
  · rw [dif_neg (by rwa [hkind]), dif_neg hinterface]
    rfl

theorem descriptorInterfacesFrom_end (hends : ¬Starts Descriptor.bytes (blob.drop offset)) :
    descriptorInterfacesFrom blob fuel offset = [] := by
  cases fuel with
  | zero => rfl
  | succ fuel =>
      rw [descriptorInterfacesFrom]
      by_cases hoffset : offset + 2 ≤ blob.length
      case neg => rw [dif_neg hoffset]
      rw [dif_pos hoffset]
      refine dif_pos (by_contra fun hfits => hends ?_)
      have hbody : (blob[offset]).toNat =
          ((blob.drop (offset + 2)).take ((blob[offset]).toNat - 2)).length + 2 := by
        rw [List.length_take, List.length_drop]
        omega
      refine ⟨⟨_, blob[offset + 1], _, hbody⟩,
        (blob.drop (offset + 2)).drop ((blob[offset]).toNat - 2), ?_⟩
      rw [Descriptor.bytes, List.cons_append, List.cons_append, List.take_append_drop,
        List.drop_eq_getElem_cons (by omega), List.drop_eq_getElem_cons (by omega)]

/-- The walk returns the interfaces among the descriptors ahead of it. -/
theorem descriptorInterfacesFrom_eq
    (h : Splits Descriptor.bytes (blob.drop offset) descriptors tail)
    (hfuel : blob.length - offset ≤ fuel) :
    descriptorInterfacesFrom blob fuel offset =
      descriptors.filterMap Descriptor.interface? := by
  induction descriptors generalizing offset fuel with
  | nil =>
      refine descriptorInterfacesFrom_end ?_
      rw [h.whole]
      exact h.ends
  | cons d descriptors ih =>
      have hdrop : blob.drop offset = d.bytes ++ (descriptors.flatMap Descriptor.bytes ++ tail) := by
        rw [h.whole, List.flatMap_cons, List.append_assoc]
      have hlength : blob.length - offset = d.length.toNat +
          (descriptors.flatMap Descriptor.bytes ++ tail).length := by
        rw [← List.length_drop, hdrop, List.length_append, Descriptor.length_bytes]
      have hbody := d.length_eq
      obtain ⟨fuel, rfl⟩ : ∃ more, fuel = more + 1 := ⟨fuel - 1, by omega⟩
      have hrest : blob.drop (offset + d.length.toNat) =
          descriptors.flatMap Descriptor.bytes ++ tail := by
        rw [← List.drop_drop, hdrop, ← Descriptor.length_bytes, List.drop_left]
      rw [descriptorInterfacesFrom_cons hdrop, ih ⟨hrest, h.ends⟩ (by omega),
        List.filterMap_cons]
      cases d.interface? <;> rfl

end Walk

/-- Of any blob: its interfaces are those of the most descriptors it begins with, however long the
walk may take, and descriptors put before it come first with theirs. -/
theorem descriptor_interfaces_exact (blob : List UInt8) :
    (∃ descriptors tail, Splits Descriptor.bytes blob descriptors tail ∧
      (∀ first rest, blob = first.flatMap Descriptor.bytes ++ rest → first <+: descriptors) ∧
        ∀ fuel ≥ blob.length, descriptorInterfacesFrom blob fuel 0 =
          descriptors.filterMap Descriptor.interface?) ∧
    ∀ descriptors : List Descriptor,
      descriptorInterfaces (descriptors.flatMap Descriptor.bytes ++ blob) =
        descriptors.filterMap Descriptor.interface? ++ descriptorInterfaces blob := by
  obtain ⟨descriptors, tail, hsplits⟩ := exists_splits Descriptor.selfDelimiting blob
  refine ⟨⟨descriptors, tail, hsplits, fun first rest hfirst =>
    hsplits.longest Descriptor.selfDelimiting hfirst, fun fuel hfuel =>
      descriptorInterfacesFrom_eq hsplits (by omega)⟩, fun front => ?_⟩
  have hfront := hsplits.append front
  have hwhole : descriptorInterfaces (front.flatMap Descriptor.bytes ++ blob) =
      (front ++ descriptors).filterMap Descriptor.interface? :=
    descriptorInterfacesFrom_eq hfront (Nat.le_refl _)
  have hblob : descriptorInterfaces blob = descriptors.filterMap Descriptor.interface? :=
    descriptorInterfacesFrom_eq hsplits (Nat.le_refl _)
  rw [hwhole, hblob, List.filterMap_append]

end GhafDeviceManager
