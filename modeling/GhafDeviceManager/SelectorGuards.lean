import GhafDeviceManager.Runs

/-!
# The guards of a USB selector

A selector is turned down where it is disabled and where its `removable` leaves the device out.
The match by `driverPath` comes after the other criteria and asks about neither.
-/

namespace GhafDeviceManager

/-- Disabled, or meant for other devices by its `removable`. -/
def Excluded (selector : Value) (device : UsbDevice) : Prop :=
  enabled selector = false ∨ removableExcludes selector device = true

/-- `rest` is `rule` with one occurrence of the selector taken out of the list under `key`. -/
structure Omits (key : String) (selector rule rest : Value) : Prop where
  object : rule.asObject.isSome = rest.asObject.isSome
  items : ∃ before after, rule.getItems key = before ++ selector :: after ∧
    rest.getItems key = before ++ after
  others : ∀ other, other ≠ key → rule.get other = rest.get other

/-- The same daemon with other selectors under `usbAuthorization.hostAllow`. -/
def Daemon.hostAllowing (d : Daemon) (selectors : List Value) : Daemon :=
  { d with config := { d.config with
    usbAuthorization := { d.config.usbAuthorization with hostAllow := selectors } } }

/-- For this device the selector might as well not be there, whatever list it is in. -/
structure Inert (d : Daemon) (selector : Value) (device : UsbDevice) : Prop where
  unmatched : d.usbSelectorMatches selector device = false
  allow : ∀ rule rest, Omits "allow" selector rule rest →
    d.usbRuleMatch rule device = d.usbRuleMatch rest device
  deny : ∀ rule rest, Omits "deny" selector rule rest →
    d.usbRuleMatch rule device = d.usbRuleMatch rest device
  hostAllow : ∀ before after,
    (d.hostAllowing (before ++ selector :: after)).usbAuthorizationHostAllowed device =
      (d.hostAllowing (before ++ after)).usbAuthorizationHostAllowed device

/-- The device has an interface of a known class, or no driver of it, bound or resolved from its
modaliases, has a path the selector's `driverPath` matches. -/
def MissesDrivers (d : Daemon) (selector : Value) (device : UsbDevice) : Prop :=
  Daemon.hasValidInterface device = true ∨ ∀ pattern isMatch,
    selector.getStr "driverPath" = some pattern → d.host.anchored pattern = some isMatch →
      ∀ path ∈ device.driverPaths ++ device.modaliases.flatMap d.host.modulePaths,
        isMatch path = false

section Lists

variable {d : Daemon} {device : UsbDevice} {selector rule rest : Value} {key : String}

theorem any_omit {α : Type} {f : α → Bool} {x : α} (hx : f x = false) (before after : List α) :
    (before ++ x :: after).any f = (before ++ after).any f := by
  rw [List.any_append, List.any_append, List.any_cons, hx, Bool.false_or]

theorem Omits.any_eq {f : Value → Bool} (h : Omits key selector rule rest)
    (hselector : f selector = false) : (rule.getItems key).any f = (rest.getItems key).any f := by
  obtain ⟨before, after, hrule, hrest⟩ := h.items
  rw [hrule, hrest, any_omit hselector]

theorem Omits.enabled_eq (h : Omits key selector rule rest) (henable : "enable" ≠ key)
    (hdisable : "disable" ≠ key) : enabled rule = enabled rest := by
  have hobject := h.object
  unfold enabled
  rw [h.others "enable" henable, h.others "disable" hdisable]
  cases hrule : rule.asObject <;> cases hrest : rest.asObject <;> simp_all

theorem Omits.getItems_eq {other : String} (h : Omits key selector rule rest)
    (hother : other ≠ key) : rule.getItems other = rest.getItems other := by
  unfold Value.getItems
  rw [h.others other hother]

theorem Omits.getStr_eq {other : String} (h : Omits key selector rule rest)
    (hother : other ≠ key) : rule.getStr other = rest.getStr other := by
  unfold Value.getStr
  rw [h.others other hother]

/-- What a rule says besides its lists is read under other keys. -/
theorem Omits.usbRuleMatch_eq (h : Omits key selector rule rest)
    (hkey : key = "allow" ∨ key = "deny")
    (hmatch : ruleMatches rule device d.usbSelectorMatches =
      ruleMatches rest device d.usbSelectorMatches) :
    d.usbRuleMatch rule device = d.usbRuleMatch rest device := by
  have hother : ∀ other, other ≠ "allow" → other ≠ "deny" → other ≠ key := by
    intro other hallow hdeny
    rcases hkey with rfl | rfl
    · exact hallow
    · exact hdeny
  have htarget := h.getStr_eq (hother "targetVm" (by decide) (by decide))
  have htag := h.getStr_eq (hother "tag" (by decide) (by decide))
  have hvms : stringList rule "allowedVms" = stringList rest "allowedVms" := by
    unfold stringList
    rw [h.getItems_eq (hother "allowedVms" (by decide) (by decide))]
  have hskip : boolValue rule "skipOnSuspend" = boolValue rest "skipOnSuspend" := by
    unfold boolValue
    rw [h.others "skipOnSuspend" (hother "skipOnSuspend" (by decide) (by decide))]
  unfold Daemon.usbRuleMatch
  rw [hmatch, htarget, htag, hvms, hskip]

theorem inert_of_unmatched (h : d.usbSelectorMatches selector device = false) :
    Inert d selector device where
  unmatched := h
  allow rule rest homits := by
    apply homits.usbRuleMatch_eq (.inl rfl)
    unfold ruleMatches
    rw [homits.enabled_eq (by decide) (by decide), homits.getItems_eq (by decide : "deny" ≠ "allow"),
      homits.any_eq (f := (d.usbSelectorMatches · device)) h]
  deny rule rest homits := by
    apply homits.usbRuleMatch_eq (.inr rfl)
    unfold ruleMatches
    rw [homits.enabled_eq (by decide) (by decide), homits.getItems_eq (by decide : "allow" ≠ "deny"),
      homits.any_eq (f := (d.usbSelectorMatches · device)) h]
  hostAllow before after := by
    have hall := any_omit (f := (d.usbSelectorMatches · device)) h before after
    exact congrArg (d.config.usbAuthorization.enabled && ·) hall

/-- The guards hold for every criterion but `driverPath`. -/
theorem usbSelectorMatches_of_excluded (h : Excluded selector device) :
    d.usbSelectorMatches selector device = d.driverPathMatches selector device := by
  have hfirst : usbSelectorMatches d.host selector device = false := by
    unfold usbSelectorMatches
    rcases h with hdisabled | hremovable
    · simp [hdisabled]
    · simp [hremovable]
  unfold Daemon.usbSelectorMatches
  rw [hfirst, Bool.false_or]

theorem driverPathMatches_eq_false_iff :
    d.driverPathMatches selector device = false ↔ MissesDrivers d selector device := by
  unfold Daemon.driverPathMatches MissesDrivers
  by_cases hvalid : Daemon.hasValidInterface device = true
  · simp [hvalid]
  · rw [if_neg hvalid, Option.any_eq_false]
    constructor
    · intro h
      refine .inr fun pattern isMatch hpattern hregex => ?_
      have hbuilt := Option.bind_eq_some_iff.2 ⟨pattern, hpattern, hregex⟩
      intro path hpath
      have hnone := h isMatch hbuilt
      rw [List.any_eq_false] at hnone
      exact Bool.eq_false_of_not_eq_true (hnone path hpath)
    · intro h isMatch hbuilt
      obtain ⟨pattern, hpattern, hregex⟩ := Option.bind_eq_some_iff.1 hbuilt
      rw [List.any_eq_false]
      intro path hpath
      rw [h.resolve_left hvalid pattern isMatch hpattern hregex path hpath]
      exact Bool.false_ne_true

end Lists

/-- An excluded selector plays no part for a device exactly where its `driverPath` finds nothing. -/
theorem excluded_selector_inert_iff {d : Daemon} {selector : Value} {device : UsbDevice}
    (h : Excluded selector device) : Inert d selector device ↔ MissesDrivers d selector device := by
  rw [← driverPathMatches_eq_false_iff, ← usbSelectorMatches_of_excluded h]
  exact ⟨Inert.unmatched, inert_of_unmatched⟩

def anyPathHost : Host where
  regex pattern := if pattern = "^(?:.*)" then some fun _ => true else none
  modulePaths _ := []
  hwdb _ _ := none

def disabledSelector : Value :=
  .object [("enable", .bool false), ("driverPath", .string ".*")]

def boundInterface (interfaceClass : String) : UsbEntry where
  name := "1-1:1.0"
  files := [("bInterfaceClass", interfaceClass)]
  driver := some "/sys/bus/usb/drivers/usbhid"

def boundKeyboard (interfaceClass : String) : UsbDevice :=
  usbDeviceOf Host.plain.hwdb [boundInterface interfaceClass] (keyboard "1-1" "4")

/-- The class of its interface keeps `driverPath` from applying. -/
theorem excluded_selector_inert_hid : Inert { config := {}, host := anyPathHost } disabledSelector
    (boundKeyboard "03") :=
  (excluded_selector_inert_iff (.inl (by decide))).2 (.inl (by decide +kernel))

/-- A disabled selector matches a device by the path of its driver. -/
theorem disabled_selector_matches : ¬∀ (d : Daemon) (selector : Value) (device : UsbDevice),
    Excluded selector device → Inert d selector device := by
  intro hclaim
  have hinert := hclaim { config := {}, host := anyPathHost } disabledSelector
    (boundKeyboard "ff") (.inl (by decide))
  have hmatches : Daemon.usbSelectorMatches { config := {}, host := anyPathHost } disabledSelector
      (boundKeyboard "ff") = true := by decide +kernel
  have hunmatched := hinert.unmatched
  rw [hmatches] at hunmatched
  cases hunmatched

end GhafDeviceManager
