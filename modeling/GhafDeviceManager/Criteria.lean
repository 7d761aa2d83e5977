import GhafDeviceManager.Runs

/-!
# The criteria of a selector

Past its guards a selector matches by any of its criteria, each a group of keys. The source tests
them in turn: the device class answers before the interfaces are looked at, and an attribute that
is not known agrees with a value that cannot be read.
-/

namespace GhafDeviceManager

/-! ## Selectors with fewer keys -/

/-- The value with the fields of these keys only. -/
def Value.only (keys : List String) : Value → Value
  | .object fields => .object (fields.filter fun field => field.1 ∈ keys)
  | value => value

section Only

variable {keys : List String} {key : String} {value : Value}

theorem lookup_filter_mem {fields : List (String × Value)} :
    (fields.filter fun field => field.1 ∈ keys).lookup key =
      if key ∈ keys then fields.lookup key else none := by
  induction fields with
  | nil => simp
  | cons field fields ih =>
      obtain ⟨name, value⟩ := field
      by_cases hkey : key = name
      · subst hkey
        by_cases hmem : key ∈ keys
        · simp [hmem]
        · simp [hmem, ih]
      · have hne : (key == name) = false := beq_eq_false_iff_ne.2 hkey
        by_cases hmem : name ∈ keys
        · simp [hmem, List.lookup_cons, hne, ih]
        · simp [hmem, List.lookup_cons, hne, ih]

theorem Value.get_only :
    (value.only keys).get key = if key ∈ keys then value.get key else none := by
  cases value with
  | object fields => exact lookup_filter_mem
  | _ => exact (ite_self none).symm

theorem Value.getU64_only :
    (value.only keys).getU64 key = if key ∈ keys then value.getU64 key else none := by
  unfold Value.getU64
  rw [Value.get_only]
  split <;> rfl

theorem Value.isSome_asObject_only :
    (value.only keys).asObject.isSome = value.asObject.isSome := by
  cases value <;> rfl

end Only

/-! ## USB -/

inductive UsbCriterion
  | ids
  | vendorName
  | productName
  | port
  | deviceClass
  | interfaceClass
deriving DecidableEq

namespace UsbCriterion

def keys : UsbCriterion → List String
  | ids => ["vendorId", "productId"]
  | vendorName => ["vendorName"]
  | productName => ["productName"]
  | port => ["bus", "port"]
  | deviceClass => ["deviceClass", "deviceSubclass", "deviceProtocol"]
  | interfaceClass => ["interfaceClass", "interfaceSubclass", "interfaceProtocol"]

/-- The device is of the class the selector names. -/
def classAgrees (selector : Value) (device : UsbDevice) : Bool :=
  (selector.getU64 "deviceClass").isSome && selector.getU64 "deviceClass" == device.deviceClass

/-- What the selector says besides its class. -/
def subclassAgrees (selector : Value) (device : UsbDevice) : Bool :=
  ((selector.getU64 "deviceSubclass").all fun v => some v == device.deviceSubclass) &&
    ((selector.getU64 "deviceProtocol").all fun v => some v == device.deviceProtocol)

/-- The device meets this criterion of the selector. -/
def holds (host : Host) (selector : Value) (device : UsbDevice) : UsbCriterion → Bool
  | ids => caseEq (selector.getStr "vendorId") device.vid &&
      caseEq (selector.getStr "productId") device.pid
  | vendorName => regexMatch host (selector.getStr "vendorName") device.vendorName
  | productName => regexMatch host (selector.getStr "productName") device.productName
  | port => selector.getU64 "bus" == device.bus && selector.getU64 "port" == device.rootPort &&
      (selector.get "bus").isSome && (selector.get "port").isSome
  | deviceClass => classAgrees selector device && subclassAgrees selector device
  | interfaceClass => device.interfaces.any (interfaceMatches selector)

end UsbCriterion

def guardKeys : List String := ["enable", "disable", "removable"]

/-- The selector with these criteria and its guards. -/
def reducedTo (criteria : List UsbCriterion) (selector : Value) : Value :=
  selector.only (guardKeys ++ criteria.flatMap UsbCriterion.keys)

section Usb

variable {host : Host} {selector : Value} {device : UsbDevice} {criteria : List UsbCriterion}

/-- The guards of a selector let the device through. -/
def Admits (selector : Value) (device : UsbDevice) : Prop :=
  enabled selector = true ∧ removableExcludes selector device = false

instance (selector : Value) (device : UsbDevice) : Decidable (Admits selector device) := by
  unfold Admits
  infer_instance

/-- The criteria in the order of the source, where the device class may answer for the rest. -/
theorem usbSelectorMatches_eq : usbSelectorMatches host selector device =
    (enabled selector && !removableExcludes selector device &&
      (UsbCriterion.ids.holds host selector device ||
        (UsbCriterion.vendorName.holds host selector device ||
          UsbCriterion.productName.holds host selector device) ||
        UsbCriterion.port.holds host selector device ||
        bif UsbCriterion.classAgrees selector device then
          UsbCriterion.subclassAgrees selector device
        else UsbCriterion.interfaceClass.holds host selector device)) := by
  unfold usbSelectorMatches UsbCriterion.classAgrees UsbCriterion.subclassAgrees
  simp only [UsbCriterion.holds, Bool.if_false_left, Bool.if_true_left, Bool.decide_eq_true,
    Bool.not_not, Bool.and_assoc, Bool.or_assoc, cond_eq_ite]

/-- A criterion matches, and if it is the one of the interfaces, the class of the device has not
answered before. -/
theorem usbSelectorMatches_iff : usbSelectorMatches host selector device = true ↔
    Admits selector device ∧ ∃ c : UsbCriterion, c.holds host selector device = true ∧
      (c = .interfaceClass → UsbCriterion.classAgrees selector device = false) := by
  rw [usbSelectorMatches_eq, Bool.and_eq_true, Bool.and_eq_true, Bool.not_eq_true']
  refine and_congr_right fun _ => ?_
  simp only [Bool.or_eq_true]
  constructor
  · rintro (((hids | hvendor | hproduct) | hport) | hclass)
    · exact ⟨.ids, hids, nofun⟩
    · exact ⟨.vendorName, hvendor, nofun⟩
    · exact ⟨.productName, hproduct, nofun⟩
    · exact ⟨.port, hport, nofun⟩
    · cases hagrees : UsbCriterion.classAgrees selector device with
      | true =>
          rw [hagrees] at hclass
          exact ⟨.deviceClass, by rw [UsbCriterion.holds, hagrees]; exact hclass, nofun⟩
      | false =>
          rw [hagrees] at hclass
          exact ⟨.interfaceClass, hclass, fun _ => rfl⟩
  · rintro ⟨c, hholds, hfirst⟩
    cases c with
    | ids => exact .inl (.inl (.inl hholds))
    | vendorName => exact .inl (.inl (.inr (.inl hholds)))
    | productName => exact .inl (.inl (.inr (.inr hholds)))
    | port => exact .inl (.inr hholds)
    | deviceClass =>
        obtain ⟨hagrees, hrest⟩ := (Bool.and_eq_true _ _).mp hholds
        exact .inr (by rw [hagrees]; exact hrest)
    | interfaceClass => exact .inr (by rw [hfirst rfl]; exact hholds)

theorem UsbCriterion.holds_congr {other : Value} {c : UsbCriterion}
    (h : ∀ key ∈ c.keys, other.get key = selector.get key) :
    c.holds host other device = c.holds host selector device := by
  have hstr : ∀ key ∈ c.keys, other.getStr key = selector.getStr key := fun key hkey => by
    rw [Value.getStr, Value.getStr, h key hkey]
  have hu64 : ∀ key ∈ c.keys, other.getU64 key = selector.getU64 key := fun key hkey => by
    rw [Value.getU64, Value.getU64, h key hkey]
  cases c with
  | ids => simp only [holds, hstr "vendorId" (by decide), hstr "productId" (by decide)]
  | vendorName => simp only [holds, hstr "vendorName" (by decide)]
  | productName => simp only [holds, hstr "productName" (by decide)]
  | port =>
      simp only [holds, hu64 "bus" (by decide), hu64 "port" (by decide), h "bus" (by decide),
        h "port" (by decide)]
  | deviceClass =>
      simp only [holds, classAgrees, subclassAgrees, hu64 "deviceClass" (by decide),
        hu64 "deviceSubclass" (by decide), hu64 "deviceProtocol" (by decide)]
  | interfaceClass =>
      have hinterface : interfaceMatches other = interfaceMatches selector := by
        funext interface
        simp only [interfaceMatches, hu64 "interfaceClass" (by decide),
          hu64 "interfaceSubclass" (by decide), hu64 "interfaceProtocol" (by decide)]
      rw [holds, holds, hinterface]

theorem UsbCriterion.holds_absent {c : UsbCriterion}
    (h : ∀ key ∈ c.keys, selector.get key = none) : c.holds host selector device = false := by
  have hstr : ∀ key ∈ c.keys, selector.getStr key = none := fun key hkey => by
    rw [Value.getStr, h key hkey, Option.bind_none]
  have hu64 : ∀ key ∈ c.keys, selector.getU64 key = none := fun key hkey => by
    rw [Value.getU64, h key hkey, Option.bind_none]
  cases c with
  | ids => simp [holds, caseEq, hstr "vendorId" (by decide)]
  | vendorName => simp [holds, regexMatch, hstr "vendorName" (by decide)]
  | productName => simp [holds, regexMatch, hstr "productName" (by decide)]
  | port => simp [holds, h "bus" (by decide)]
  | deviceClass => simp [holds, classAgrees, hu64 "deviceClass" (by decide)]
  | interfaceClass => simp [holds, interfaceMatches, hu64 "interfaceClass" (by decide)]

theorem UsbCriterion.keys_unguarded (c : UsbCriterion) : ∀ key ∈ c.keys, key ∉ guardKeys := by
  cases c <;> decide

theorem UsbCriterion.keys_disjoint (c other : UsbCriterion) (hne : c ≠ other) :
    ∀ key ∈ c.keys, key ∉ other.keys := by
  cases c <;> cases other <;> first | exact absurd rfl hne | decide

theorem holds_reducedTo {c : UsbCriterion} :
    c.holds host (reducedTo criteria selector) device = true ↔
      c ∈ criteria ∧ c.holds host selector device = true := by
  by_cases hc : c ∈ criteria
  · have hkept : ∀ key ∈ c.keys, (reducedTo criteria selector).get key = selector.get key := by
      intro key hkey
      have hmem : key ∈ guardKeys ++ criteria.flatMap UsbCriterion.keys :=
        List.mem_append_right _ (List.mem_flatMap.2 ⟨c, hc, hkey⟩)
      rw [reducedTo, Value.get_only, if_pos hmem]
    rw [UsbCriterion.holds_congr hkept, and_iff_right hc]
  · have hdropped : ∀ key ∈ c.keys, (reducedTo criteria selector).get key = none := by
      intro key hkey
      have hnot : key ∉ guardKeys ++ criteria.flatMap UsbCriterion.keys := by
        intro hmem
        obtain hguard | hother := List.mem_append.1 hmem
        · exact UsbCriterion.keys_unguarded c key hkey hguard
        · obtain ⟨other, hmem, hkey'⟩ := List.mem_flatMap.1 hother
          have hne : c ≠ other := fun heq => hc (heq ▸ hmem)
          exact UsbCriterion.keys_disjoint c other hne key hkey hkey'
      rw [reducedTo, Value.get_only, if_neg hnot]
    rw [UsbCriterion.holds_absent hdropped]
    simp [hc]

theorem admits_reducedTo :
    Admits (reducedTo criteria selector) device ↔ Admits selector device := by
  have hguards : ∀ key ∈ guardKeys, (reducedTo criteria selector).get key = selector.get key := by
    intro key hkey
    rw [reducedTo, Value.get_only, if_pos (List.mem_append_left _ hkey)]
  have hobject : (reducedTo criteria selector).asObject.isSome = selector.asObject.isSome :=
    Value.isSome_asObject_only
  have henabled : enabled (reducedTo criteria selector) = enabled selector := by
    unfold enabled
    rw [hguards "enable" (by decide), hguards "disable" (by decide)]
    cases hreduced : (reducedTo criteria selector).asObject <;>
      cases hselector : selector.asObject <;> simp_all
  have hremovable : removableExcludes (reducedTo criteria selector) device =
      removableExcludes selector device := by
    unfold removableExcludes
    rw [hguards "removable" (by decide)]
  unfold Admits
  rw [henabled, hremovable]

/-- What some of the criteria match, all of them match. -/
def Alternatives (host : Host) (selector : Value) (device : UsbDevice) : Prop :=
  ∀ criteria, usbSelectorMatches host (reducedTo criteria selector) device = true →
    usbSelectorMatches host selector device = true

/-- Only the interfaces of the device match, and the selector names the class of the device, not
its subclass and protocol. -/
def ClassTurnsDown (host : Host) (selector : Value) (device : UsbDevice) : Prop :=
  UsbCriterion.classAgrees selector device = true ∧
    ∀ c : UsbCriterion, c.holds host selector device = true ↔ c = .interfaceClass

/-- The criteria are alternatives, unless the class of the device answers for its interfaces. -/
theorem criteria_alternatives_iff (h : Admits selector device) :
    Alternatives host selector device ↔ ¬ClassTurnsDown host selector device := by
  constructor
  · rintro halternatives ⟨hagrees, honly⟩
    have hreduced :
        usbSelectorMatches host (reducedTo [.interfaceClass] selector) device = true := by
      refine usbSelectorMatches_iff.2 ⟨admits_reducedTo.2 h, .interfaceClass, ?_, fun _ => ?_⟩
      · exact holds_reducedTo.2 ⟨List.mem_singleton_self _, (honly _).2 rfl⟩
      · have hclass : (reducedTo [.interfaceClass] selector).getU64 "deviceClass" = none := by
          rw [reducedTo, Value.getU64_only, if_neg (by decide)]
        rw [UsbCriterion.classAgrees, hclass]
        rfl
    obtain ⟨-, c, hholds, hfirst⟩ := usbSelectorMatches_iff.1 (halternatives _ hreduced)
    have hclass := hfirst ((honly c).1 hholds)
    rw [hagrees] at hclass
    cases hclass
  · intro hdown criteria hreduced
    obtain ⟨-, c, hholds, -⟩ := usbSelectorMatches_iff.1 hreduced
    have hc := (holds_reducedTo.1 hholds).2
    refine usbSelectorMatches_iff.2 ⟨h, ?_⟩
    by_cases hother : ∃ other : UsbCriterion,
        other.holds host selector device = true ∧ other ≠ .interfaceClass
    · obtain ⟨other, hmatches, hne⟩ := hother
      exact ⟨other, hmatches, fun heq => absurd heq hne⟩
    · have honly : ∀ other : UsbCriterion,
          other.holds host selector device = true → other = .interfaceClass :=
        fun other hmatches => by_contra fun hne => hother ⟨other, hmatches, hne⟩
      obtain rfl := honly c hc
      refine ⟨.interfaceClass, hc, fun _ => ?_⟩
      cases hagrees : UsbCriterion.classAgrees selector device with
      | false => rfl
      | true => exact absurd ⟨hagrees, fun other => ⟨honly other, fun heq => heq ▸ hc⟩⟩ hdown

end Usb

def headset : UsbEntry where
  name := "1-2"
  files := [("busnum", "1"), ("devnum", "5"), ("idVendor", "046d"), ("idProduct", "0a44"),
    ("bDeviceClass", "00"), ("bDeviceSubClass", "00"), ("bDeviceProtocol", "00")]

def headsetAudio : UsbEntry where
  name := "1-2:1.0"
  files := [("bInterfaceClass", "01"), ("bInterfaceSubClass", "01"), ("bInterfaceProtocol", "00")]

def headsetDevice : UsbDevice := usbDeviceOf Host.plain.hwdb [headset, headsetAudio] headset

/-- Audio interfaces, or a device class of its own. -/
def audioSelector (deviceSubclass : ℕ) : Value :=
  .object [("deviceClass", .unsigned 0), ("deviceSubclass", .unsigned deviceSubclass),
    ("interfaceClass", .unsigned 1)]

theorem criteria_alternatives_headset :
    Alternatives Host.plain (audioSelector 0) headsetDevice ↔
      ¬ClassTurnsDown Host.plain (audioSelector 0) headsetDevice :=
  criteria_alternatives_iff (by decide +kernel)

/-- With a subclass the device does not have, the interfaces are not looked at. -/
theorem class_answers_for_interfaces : ¬∀ (host : Host) (selector : Value) (device : UsbDevice),
    Admits selector device → Alternatives host selector device := by
  intro hclaim
  have hreduced : usbSelectorMatches Host.plain (reducedTo [.interfaceClass] (audioSelector 1))
      headsetDevice = true := by decide +kernel
  have hwhole := hclaim Host.plain (audioSelector 1) headsetDevice (by decide +kernel)
    [.interfaceClass] hreduced
  have hdown : usbSelectorMatches Host.plain (audioSelector 1) headsetDevice = false := by
    decide +kernel
  rw [hdown] at hwhole
  cases hwhole

/-! ## Values that are missing or cannot be read -/

/-- The value asked for and the attribute are known and the same. -/
def Meets (wanted known : Option ℕ) : Prop := ∃ n, wanted = some n ∧ known = some n

/-- A value is there that cannot be read, and the attribute is not known. -/
def Unread (value : Option Value) (wanted known : Option ℕ) : Prop :=
  value.isSome = true ∧ wanted = none ∧ known = none

section Pairs

variable {value₁ value₂ : Option Value} {wanted wanted₁ wanted₂ known known₁ known₂ : Option ℕ}

theorem Unread.not_meets {value : Option Value} (h : Unread value wanted known) :
    ¬Meets wanted known := by
  rintro ⟨n, -, hknown⟩
  rw [h.2.2] at hknown
  cases hknown

/-- The source compares what it could read with what is known. -/
theorem eq_iff_meets_or_unread {value : Option Value} (hvalue : value = none → wanted = none) :
    wanted = known ∧ value.isSome = true ↔ Meets wanted known ∨ Unread value wanted known := by
  constructor
  · rintro ⟨rfl, hpresent⟩
    cases wanted with
    | none => exact .inr ⟨hpresent, rfl, rfl⟩
    | some n => exact .inl ⟨n, rfl, rfl⟩
  · rintro (⟨n, rfl, rfl⟩ | ⟨hpresent, rfl, rfl⟩)
    · cases value with
      | none => cases hvalue rfl
      | some value => exact ⟨rfl, rfl⟩
    · exact ⟨rfl, hpresent⟩

/-- Two values that agree with their attributes, not both by being known. -/
def AgreesUnread (value₁ value₂ : Option Value) (wanted₁ known₁ wanted₂ known₂ : Option ℕ) :
    Prop :=
  (Unread value₁ wanted₁ known₁ ∧ Unread value₂ wanted₂ known₂) ∨
    (Unread value₁ wanted₁ known₁ ∧ Meets wanted₂ known₂) ∨
    (Meets wanted₁ known₁ ∧ Unread value₂ wanted₂ known₂)

/-- A criterion of two keys asks for known values, except where it agrees unread. -/
theorem pair_meets_iff {guards : Prop} (hvalue₁ : value₁ = none → wanted₁ = none)
    (hvalue₂ : value₂ = none → wanted₂ = none) :
    (guards → (wanted₁ == known₁ && wanted₂ == known₂ && value₁.isSome && value₂.isSome) = true →
      Meets wanted₁ known₁ ∧ Meets wanted₂ known₂) ↔
    ¬(guards ∧ AgreesUnread value₁ value₂ wanted₁ known₁ wanted₂ known₂) := by
  have hpair : (wanted₁ == known₁ && wanted₂ == known₂ && value₁.isSome && value₂.isSome) = true ↔
      (Meets wanted₁ known₁ ∨ Unread value₁ wanted₁ known₁) ∧
        (Meets wanted₂ known₂ ∨ Unread value₂ wanted₂ known₂) := by
    rw [← eq_iff_meets_or_unread hvalue₁, ← eq_iff_meets_or_unread hvalue₂]
    simp only [Bool.and_eq_true, beq_iff_eq]
    tauto
  have hnot₁ : Unread value₁ wanted₁ known₁ → ¬Meets wanted₁ known₁ := Unread.not_meets
  have hnot₂ : Unread value₂ wanted₂ known₂ → ¬Meets wanted₂ known₂ := Unread.not_meets
  rw [hpair]
  unfold AgreesUnread
  tauto

end Pairs

theorem Value.getU64_absent {value : Value} {key : String} (h : value.get key = none) :
    value.getU64 key = none := by
  rw [Value.getU64, h, Option.bind_none]

theorem Value.getStr_absent {value : Value} {key : String} (h : value.get key = none) :
    value.getStr key = none := by
  rw [Value.getStr, h, Option.bind_none]

/-- Where the other criteria fail, a selector matches by a known bus and a known root port. -/
def MatchesByPort (host : Host) (selector : Value) (device : UsbDevice) : Prop :=
  (∀ c : UsbCriterion, c ≠ .port → c.holds host selector device = false) →
    usbSelectorMatches host selector device = true →
      Meets (selector.getU64 "bus") device.bus ∧ Meets (selector.getU64 "port") device.rootPort

/-- Its bus and port keys agree with the device, one of them only in that nothing is known. -/
def PortUnread (host : Host) (selector : Value) (device : UsbDevice) : Prop :=
  (Admits selector device ∧
      ∀ c : UsbCriterion, c ≠ .port → c.holds host selector device = false) ∧
    AgreesUnread (selector.get "bus") (selector.get "port") (selector.getU64 "bus") device.bus
      (selector.getU64 "port") device.rootPort

theorem matchesByPort_iff {host : Host} {selector : Value} {device : UsbDevice} :
    MatchesByPort host selector device ↔ ¬PortUnread host selector device := by
  rw [PortUnread, ← pair_meets_iff Value.getU64_absent Value.getU64_absent]
  constructor
  · rintro hmatches ⟨hadmits, hothers⟩ hport
    refine hmatches hothers (usbSelectorMatches_iff.2 ⟨hadmits, .port, hport, nofun⟩)
  · intro hmeets hothers hmatches
    obtain ⟨hadmits, c, hholds, -⟩ := usbSelectorMatches_iff.1 hmatches
    have hc : c = .port := by_contra fun hne => by
      rw [hothers c hne] at hholds
      cases hholds
    subst hc
    exact hmeets ⟨hadmits, hothers⟩ hholds

/-! ## PCI -/

def pciClassMatches (selector : Value) (device : PciDevice) : Bool :=
  (selector.getU64 "deviceClass").isSome && selector.getU64 "deviceClass" == device.cls &&
    (((selector.getU64 "deviceSubclass").all fun v => some v == device.subclass) &&
      ((selector.getU64 "deviceProgIf").all fun v => some v == device.progIf))

def pciId (selector : Value) (key : String) : Option ℕ := (selector.getStr key).bind Text.hexU32

theorem pciSelectorMatches_eq {selector : Value} {device : PciDevice} :
    pciSelectorMatches selector device =
      (enabled selector && (caseEq (selector.getStr "address") (some device.address) ||
        (pciId selector "vendorId" == device.vendorId &&
          pciId selector "deviceId" == device.deviceId &&
          (selector.get "vendorId").isSome && (selector.get "deviceId").isSome) ||
        pciClassMatches selector device)) := by
  unfold pciSelectorMatches pciClassMatches pciId
  simp only [Bool.if_false_left, Bool.if_false_right, Bool.if_true_left, Bool.decide_eq_true,
    Bool.not_not, Bool.and_assoc, Bool.or_assoc]

/-- Where address and class fail, a selector matches by a known vendor and a known device id. -/
def MatchesByIds (selector : Value) (device : PciDevice) : Prop :=
  caseEq (selector.getStr "address") (some device.address) = false →
    pciClassMatches selector device = false → pciSelectorMatches selector device = true →
      Meets (pciId selector "vendorId") device.vendorId ∧
        Meets (pciId selector "deviceId") device.deviceId

def IdsUnread (selector : Value) (device : PciDevice) : Prop :=
  (enabled selector = true ∧ caseEq (selector.getStr "address") (some device.address) = false ∧
      pciClassMatches selector device = false) ∧
    AgreesUnread (selector.get "vendorId") (selector.get "deviceId") (pciId selector "vendorId")
      device.vendorId (pciId selector "deviceId") device.deviceId

theorem matchesByIds_iff {selector : Value} {device : PciDevice} :
    MatchesByIds selector device ↔ ¬IdsUnread selector device := by
  have habsent : ∀ key, selector.get key = none → pciId selector key = none := fun key hkey => by
    rw [pciId, Value.getStr_absent hkey, Option.bind_none]
  rw [IdsUnread, ← pair_meets_iff (habsent _) (habsent _), MatchesByIds, pciSelectorMatches_eq]
  constructor
  · rintro hmatches ⟨henabled, haddress, hclass⟩ hids
    refine hmatches haddress hclass ?_
    rw [henabled, haddress, hids]
    rfl
  · intro hmeets haddress hclass hmatches
    rw [haddress, hclass, Bool.false_or, Bool.or_false, Bool.and_eq_true] at hmatches
    exact hmeets ⟨hmatches.1, haddress, hclass⟩ hmatches.2

/-- Selectors of either kind match by values that are known, unless they agree unread. -/
theorem missing_values_never_match_iff {host : Host} {usbSelector pciSelector : Value}
    {usb : UsbDevice} {pci : PciDevice} :
    MatchesByPort host usbSelector usb ∧ MatchesByIds pciSelector pci ↔
      ¬PortUnread host usbSelector usb ∧ ¬IdsUnread pciSelector pci :=
  and_congr matchesByPort_iff matchesByIds_iff

def rootHub : UsbEntry where
  name := "usb1"
  files := [("busnum", "1"), ("devnum", "1"), ("idVendor", "1d6b"), ("idProduct", "0002"),
    ("bDeviceClass", "09")]

/-- A port that is no number is the port of every root hub. -/
theorem unread_port_matches : ¬∀ (host : Host) (usbSelector pciSelector : Value) (usb : UsbDevice)
    (pci : PciDevice), MatchesByPort host usbSelector usb ∧ MatchesByIds pciSelector pci := by
  intro hclaim
  obtain ⟨hport, -⟩ := hclaim Host.plain
    (.object [("bus", .unsigned 1), ("port", .string "x")]) .null
    (usbDeviceOf Host.plain.hwdb [rootHub] rootHub) (pciDeviceOf { address := "0000:00:14.0" })
  have hothers : ∀ c : UsbCriterion, c ≠ .port → c.holds Host.plain
      (.object [("bus", .unsigned 1), ("port", .string "x")])
      (usbDeviceOf Host.plain.hwdb [rootHub] rootHub) = false := by
    intro c hc
    cases c <;> first | exact absurd rfl hc | decide +kernel
  obtain ⟨-, n, -, hknown⟩ := hport hothers (by decide +kernel)
  cases hknown

end GhafDeviceManager
