import GhafDeviceManager.Runs

/-!
# Rules in the order of the configuration

The first rule that applies decides for a device of either bus. A PCI device also takes down how
many allow entries were looked at before it got its rule, and its devices are attached by that
number.
-/

namespace GhafDeviceManager

section First

variable {α β : Type} {P : α → Prop} {rules before : List α} {rule : α}

/-- The first of the rules with a property, after those before it. -/
structure FirstRule (P : α → Prop) (rules before : List α) (rule : α) : Prop where
  split : ∃ after, rules = before ++ rule :: after
  holds : P rule
  first : ∀ other ∈ before, ¬P other

theorem FirstRule.mem (h : FirstRule P rules before rule) : rule ∈ rules := by
  obtain ⟨after, rfl⟩ := h.split
  simp

theorem FirstRule.cons {other : α} (h : FirstRule P rules before rule) (hother : ¬P other) :
    FirstRule P (other :: rules) (other :: before) rule where
  split := by
    obtain ⟨after, rfl⟩ := h.split
    exact ⟨after, rfl⟩
  holds := h.holds
  first := List.forall_mem_cons.2 ⟨hother, h.first⟩

theorem FirstRule.unique {before' : List α} {rule' : α} (h : FirstRule P rules before rule)
    (h' : FirstRule P rules before' rule') : before = before' ∧ rule = rule' := by
  obtain ⟨after, rfl⟩ := h.split
  obtain ⟨after', hsplit⟩ := h'.split
  obtain ⟨more, rfl, hrest⟩ | ⟨more, rfl, hrest⟩ := List.append_eq_append_iff.1 hsplit
  · cases more with
    | nil =>
        obtain ⟨rfl, -⟩ := List.cons.inj hrest
        exact ⟨(List.append_nil _).symm, rfl⟩
    | cons first more =>
        obtain ⟨rfl, -⟩ := List.cons.inj hrest
        exact absurd h.holds (h'.first _ (by simp))
  · cases more with
    | nil =>
        obtain ⟨rfl, -⟩ := List.cons.inj hrest
        exact ⟨List.append_nil _, rfl⟩
    | cons first more =>
        obtain ⟨rfl, -⟩ := List.cons.inj hrest
        exact absurd h'.holds (h.first _ (by simp))

/-- Of two places among the rules, the later one comes after the other. -/
theorem FirstRule.extends {Q : α → Prop} {before' : List α} {rule' : α}
    (h : FirstRule P rules before rule) (h' : FirstRule Q rules before' rule')
    (hlt : before.length < before'.length) : ∃ more, before' = before ++ rule :: more := by
  obtain ⟨after, rfl⟩ := h.split
  obtain ⟨after', hsplit⟩ := h'.split
  obtain ⟨more, rfl, hrest⟩ | ⟨more, rfl, -⟩ := List.append_eq_append_iff.1 hsplit
  · cases more with
    | nil => simp at hlt
    | cons first more =>
        obtain ⟨rfl, -⟩ := List.cons.inj hrest
        exact ⟨more, rfl⟩
  · rw [List.length_append] at hlt
    omega

theorem FirstRule.same_length {Q : α → Prop} {before' : List α} {rule' : α}
    (h : FirstRule P rules before rule) (h' : FirstRule Q rules before' rule')
    (hlength : before.length = before'.length) : before = before' ∧ rule = rule' := by
  obtain ⟨after, rfl⟩ := h.split
  obtain ⟨after', hsplit⟩ := h'.split
  obtain ⟨rfl, hrest⟩ := List.append_inj hsplit hlength
  exact ⟨rfl, (List.cons.inj hrest).1⟩

/-- Trying the rules in turn finds the first one that gives anything. -/
theorem firstRule_of_findSome? {f : α → Option β} {b : β} (h : rules.findSome? f = some b)
    (hf : ∀ rule, (f rule).isSome = true ↔ P rule) :
    ∃ before rule, FirstRule P rules before rule ∧ f rule = some b := by
  obtain ⟨before, rule, after, hsplit, hrule, hnone⟩ := List.findSome?_eq_some_iff.1 h
  refine ⟨before, rule, ⟨⟨after, hsplit⟩, (hf rule).1 ?_, fun other hmem hother => ?_⟩, hrule⟩
  · rw [hrule]
    rfl
  · have hsome := (hf other).2 hother
    rw [hnone other hmem] at hsome
    cases hsome

end First

/-- The rule is enabled, one of its allow entries matches and none of its deny entries. -/
structure LetsThrough (matched : Value → Bool) (rule : Value) : Prop where
  enabled : GhafDeviceManager.enabled rule = true
  allowed : ∃ allow ∈ rule.getItems "allow", matched allow = true
  undenied : ∀ deny ∈ rule.getItems "deny", matched deny = false

theorem ruleMatches_iff {α : Type} {rule : Value} {device : α} {selector : Value → α → Bool} :
    ruleMatches rule device selector = true ↔ LetsThrough (selector · device) rule := by
  simp only [ruleMatches, Bool.and_eq_true, List.any_eq_true, Bool.not_eq_true', List.any_eq_false,
    Bool.not_eq_true]
  exact ⟨fun h => ⟨h.1.1, h.1.2, h.2⟩, fun h => ⟨⟨h.enabled, h.allowed⟩, h.undenied⟩⟩

/-! ## USB -/

/-- The rule lets the device through and has a VM for it. -/
structure UsbApplies (d : Daemon) (device : UsbDevice) (rule : Value) : Prop where
  letsThrough : LetsThrough (d.usbSelectorMatches · device) rule
  target : (∃ vm, rule.getStr "targetVm" = some vm) ∨ ∃ vm, vm ∈ stringList rule "allowedVms"

/-- The match says what the rule says. -/
structure UsbTakes (rule : Value) (m : RuleMatch) : Prop where
  targetVm : m.targetVm = rule.getStr "targetVm"
  allowedVms : m.allowedVms = stringList rule "allowedVms"
  tag : m.tag = rule.getStr "tag"
  skipOnSuspend : m.skipOnSuspend = boolValue rule "skipOnSuspend"

section Usb

variable {d : Daemon} {device : UsbDevice} {rule : Value} {m : RuleMatch}

theorem isSome_usbRuleMatch :
    (d.usbRuleMatch rule device).isSome = true ↔ UsbApplies d device rule := by
  unfold Daemon.usbRuleMatch
  have htarget : ((rule.getStr "targetVm").isSome || !(stringList rule "allowedVms").isEmpty) =
      true ↔ (∃ vm, rule.getStr "targetVm" = some vm) ∨ ∃ vm, vm ∈ stringList rule "allowedVms" := by
    rw [Bool.or_eq_true, Option.isSome_iff_exists, Bool.not_eq_true',
      List.isEmpty_eq_false_iff_exists_mem]
  have happlies : (ruleMatches rule device d.usbSelectorMatches &&
      ((rule.getStr "targetVm").isSome || !(stringList rule "allowedVms").isEmpty)) = true ↔
        UsbApplies d device rule := by
    rw [Bool.and_eq_true, ruleMatches_iff, htarget]
    exact ⟨fun h => ⟨h.1, h.2⟩, fun h => ⟨h.letsThrough, h.target⟩⟩
  rw [← happlies]
  split <;> simp_all

theorem usbTakes_of_usbRuleMatch (h : d.usbRuleMatch rule device = some m) : UsbTakes rule m := by
  unfold Daemon.usbRuleMatch at h
  split at h
  case isTrue =>
    obtain rfl := Option.some.inj h
    exact ⟨rfl, rfl, rfl, rfl⟩
  case isFalse => cases h

theorem isSome_usbRule :
    (d.usbRule device).isSome = true ↔
      ∃ rule ∈ d.config.usbPassthrough, UsbApplies d device rule := by
  rw [Daemon.usbRule, List.findSome?_isSome_iff]
  simp only [isSome_usbRuleMatch]

theorem usbRule_first (h : d.usbRule device = some m) : ∃ before rule,
    FirstRule (UsbApplies d device) d.config.usbPassthrough before rule ∧ UsbTakes rule m := by
  obtain ⟨before, rule, hfirst, hmatch⟩ :=
    firstRule_of_findSome? h fun _ => isSome_usbRuleMatch
  exact ⟨before, rule, hfirst, usbTakes_of_usbRuleMatch hmatch⟩

end Usb

/-! ## PCI -/

structure PciApplies (device : PciDevice) (rule : Value) : Prop where
  letsThrough : LetsThrough (pciSelectorMatches · device) rule
  target : ∃ vm, rule.getStr "targetVm" = some vm

structure PciTakes (rule : Value) (m : RuleMatch) : Prop where
  targetVm : m.targetVm = rule.getStr "targetVm"
  allowedVms : m.allowedVms = []
  tag : m.tag = rule.getStr "tag"
  skipOnSuspend : m.skipOnSuspend = boolValue rule "skipOnSuspend"
  iommuAddAll : m.iommuAddAll = boolValue rule "pciIommuAddAll"
  iommuSkipIfShared : m.iommuSkipIfShared = boolValue rule "pciIommuSkipIfShared"
  crosvmUseRootBus : m.crosvmUseRootBus = boolValue rule "crosvmUseRootBus"

theorem pciApplies_iff {device : PciDevice} {rule : Value} : PciApplies device rule ↔
    enabled rule = true ∧ ((rule.getItems "allow").any (pciSelectorMatches · device) &&
      !(rule.getItems "deny").any (pciSelectorMatches · device) &&
        (rule.getStr "targetVm").isSome) = true := by
  simp only [Bool.and_eq_true, List.any_eq_true, Bool.not_eq_true', List.any_eq_false,
    Bool.not_eq_true, Option.isSome_iff_exists]
  exact ⟨fun h => ⟨h.letsThrough.enabled, ⟨h.letsThrough.allowed, h.letsThrough.undenied⟩,
    h.target⟩, fun h => ⟨⟨h.1, h.2.1.1, h.2.1.2⟩, h.2.2⟩⟩

instance (device : PciDevice) (rule : Value) : Decidable (PciApplies device rule) :=
  decidable_of_iff _ pciApplies_iff.symm

/-- The allow entries looked at for a device: up to the first that matches. -/
def lookedAt (device : PciDevice) : List Value → ℕ
  | [] => 0
  | allow :: rest => if pciSelectorMatches allow device then 1 else lookedAt device rest + 1

def ruleLookedAt (device : PciDevice) (rule : Value) : ℕ :=
  if enabled rule then lookedAt device (rule.getItems "allow") else 0

section Pci

variable {d : Daemon} {device : PciDevice} {rule : Value} {m : RuleMatch}

theorem pciAllowPosition_eq (items : List Value) (order : ℕ) :
    Daemon.pciAllowPosition device items order =
      (order + lookedAt device items, items.any (pciSelectorMatches · device)) := by
  induction items generalizing order with
  | nil => rfl
  | cons allow rest ih =>
      rw [Daemon.pciAllowPosition, lookedAt, List.any_cons]
      by_cases hallow : pciSelectorMatches allow device = true
      · rw [if_pos hallow, if_pos hallow, hallow, Bool.true_or]
      · rw [if_neg hallow, if_neg hallow, ih, Bool.eq_false_of_not_eq_true hallow, Bool.false_or,
          Nat.add_assoc, Nat.add_comm 1]

theorem pciRuleFrom_cons (device : PciDevice) (rule : Value) (rest : List Value) (order : ℕ) :
    (PciApplies device rule ∧ ∃ m, Daemon.pciRuleFrom device (rule :: rest) order = some m ∧
      PciTakes rule m ∧ m.order = order + ruleLookedAt device rule) ∨
    (¬PciApplies device rule ∧ Daemon.pciRuleFrom device (rule :: rest) order =
      Daemon.pciRuleFrom device rest (order + ruleLookedAt device rule)) := by
  rw [Daemon.pciRuleFrom]
  by_cases henabled : enabled rule = true
  case neg =>
    refine .inr ⟨fun happlies => henabled happlies.letsThrough.enabled, ?_⟩
    rw [ruleLookedAt, if_neg henabled, if_pos (by simp [henabled]), Nat.add_zero]
  rw [if_neg (by simp [henabled]), ruleLookedAt, if_pos henabled, pciAllowPosition_eq]
  by_cases happly : PciApplies device rule
  · refine .inl ⟨happly, _, if_pos (pciApplies_iff.1 happly).2, ?_, rfl⟩
    exact ⟨rfl, rfl, rfl, rfl, rfl, rfl, rfl⟩
  · exact .inr ⟨happly, if_neg fun htrue => happly (pciApplies_iff.2 ⟨henabled, htrue⟩)⟩

theorem isSome_pciRuleFrom (rules : List Value) (order : ℕ) :
    (Daemon.pciRuleFrom device rules order).isSome = true ↔
      ∃ rule ∈ rules, PciApplies device rule := by
  induction rules generalizing order with
  | nil => simp [Daemon.pciRuleFrom]
  | cons rule rest ih =>
      rw [List.exists_mem_cons_iff]
      obtain ⟨happly, m, hm, -, -⟩ | ⟨hnot, hrest⟩ :=
        pciRuleFrom_cons device rule rest order
      · rw [hm]
        exact ⟨fun _ => .inl happly, fun _ => rfl⟩
      · rw [hrest, ih]
        exact ⟨.inr, fun h => h.resolve_left hnot⟩

/-- The loop returns what the first rule that applies says, with the entries it looked at. -/
theorem pciRuleFrom_first {rules : List Value} {order : ℕ}
    (h : Daemon.pciRuleFrom device rules order = some m) : ∃ before rule,
      FirstRule (PciApplies device) rules before rule ∧ PciTakes rule m ∧
        m.order = order + (before.map (ruleLookedAt device)).sum + ruleLookedAt device rule := by
  induction rules generalizing order with
  | nil => cases h
  | cons rule rest ih =>
      obtain ⟨happly, m', hm, htakes, horder⟩ | ⟨hnot, hrest⟩ :=
        pciRuleFrom_cons device rule rest order
      · obtain rfl := Option.some.inj (hm.symm.trans h)
        exact ⟨[], rule, ⟨⟨rest, rfl⟩, happly, by simp⟩, htakes, by simpa using horder⟩
      · rw [hrest] at h
        obtain ⟨before, found, hfirst, htakes, horder⟩ := ih h
        refine ⟨rule :: before, found, hfirst.cons hnot, htakes, ?_⟩
        rw [List.map_cons, List.sum_cons]
        omega

end Pci

/-- The first rule of the configuration that applies decides, for either bus. -/
theorem first_matching_rule (d : Daemon) (usb : UsbDevice) (pci : PciDevice) :
    (((d.usbRule usb).isSome = true ↔ ∃ rule ∈ d.config.usbPassthrough, UsbApplies d usb rule) ∧
      ∀ m ∈ d.usbRule usb, ∃ before rule,
        FirstRule (UsbApplies d usb) d.config.usbPassthrough before rule ∧ UsbTakes rule m) ∧
    (((d.pciRule pci).isSome = true ↔ ∃ rule ∈ d.config.pciPassthrough, PciApplies pci rule) ∧
      ∀ m ∈ d.pciRule pci, ∃ before rule,
        FirstRule (PciApplies pci) d.config.pciPassthrough before rule ∧ PciTakes rule m) := by
  refine ⟨⟨isSome_usbRule, fun m hm => usbRule_first hm⟩, isSome_pciRuleFrom _ 0, fun m hm => ?_⟩
  obtain ⟨before, rule, hfirst, htakes, -⟩ := pciRuleFrom_first hm
  exact ⟨before, rule, hfirst, htakes⟩

/-! ## Places in the configuration -/

def allowEntries (rule : Value) : List Value :=
  if enabled rule then rule.getItems "allow" else []

/-- Where a device got its rule: after how many rules, and by which of its allow entries. -/
def pciPlace (device : PciDevice) (before : List Value) (rule : Value) : ℕ ×ₗ ℕ :=
  toLex (before.length, (rule.getItems "allow").findIdx (pciSelectorMatches · device))

/-- The number of that allow entry among those of all enabled rules. -/
def allowPosition (device : PciDevice) (before : List Value) (rule : Value) : ℕ :=
  (before.map fun other => (allowEntries other).length).sum +
    (rule.getItems "allow").findIdx (pciSelectorMatches · device) + 1

/-- The entries not looked at before it: those behind a match of a rule that came to nothing. -/
def passedOver (device : PciDevice) (before : List Value) : ℕ :=
  (before.map fun other => (allowEntries other).length - ruleLookedAt device other).sum

section Places

variable {d : Daemon} {device device₁ device₂ : PciDevice} {m m₁ m₂ : RuleMatch}
  {rules before before₁ before₂ : List Value} {rule rule₁ rule₂ : Value}

theorem lookedAt_le (items : List Value) : lookedAt device items ≤ items.length := by
  induction items with
  | nil => exact Nat.le_refl 0
  | cons allow rest ih =>
      rw [lookedAt, List.length_cons]
      split <;> omega

theorem ruleLookedAt_le : ruleLookedAt device rule ≤ (allowEntries rule).length := by
  unfold ruleLookedAt allowEntries
  split
  case isTrue => exact lookedAt_le _
  case isFalse => exact Nat.le_refl 0

theorem lookedAt_of_match {items : List Value}
    (h : ∃ allow ∈ items, pciSelectorMatches allow device = true) :
    lookedAt device items = items.findIdx (pciSelectorMatches · device) + 1 := by
  induction items with
  | nil => simp at h
  | cons allow rest ih =>
      rw [lookedAt, List.findIdx_cons]
      by_cases hallow : pciSelectorMatches allow device = true
      · rw [if_pos hallow, hallow]
        rfl
      · have hrest : ∃ allow ∈ rest, pciSelectorMatches allow device = true := by
          simpa [hallow] using h
        rw [if_neg hallow, ih hrest, Bool.eq_false_of_not_eq_true hallow]
        rfl

theorem PciApplies.lookedAt (h : PciApplies device rule) : ruleLookedAt device rule =
    (rule.getItems "allow").findIdx (pciSelectorMatches · device) + 1 := by
  rw [ruleLookedAt, if_pos h.letsThrough.enabled, lookedAt_of_match h.letsThrough.allowed]

theorem PciApplies.findIdx_lt (h : PciApplies device rule) :
    (rule.getItems "allow").findIdx (pciSelectorMatches · device) < (allowEntries rule).length := by
  rw [allowEntries, if_pos h.letsThrough.enabled]
  exact List.findIdx_lt_length_of_exists h.letsThrough.allowed

/-- What was looked at and what was passed over make up the entries of the rules before. -/
theorem sum_ruleLookedAt_add_passedOver (device : PciDevice) (before : List Value) :
    (before.map (ruleLookedAt device)).sum + passedOver device before =
      (before.map fun other => (allowEntries other).length).sum := by
  induction before with
  | nil => rfl
  | cons other before ih =>
      have hle : ruleLookedAt device other ≤ (allowEntries other).length := ruleLookedAt_le
      unfold passedOver at ih ⊢
      simp only [List.map_cons, List.sum_cons]
      omega

/-- The order a device takes down falls short of its place by what was passed over. -/
theorem order_add_passedOver (h : d.pciRule device = some m)
    (hfirst : FirstRule (PciApplies device) d.config.pciPassthrough before rule) :
    m.order + passedOver device before = allowPosition device before rule := by
  obtain ⟨before', rule', hfirst', -, horder⟩ := pciRuleFrom_first h
  obtain ⟨rfl, rfl⟩ := hfirst.unique hfirst'
  have hbefore := sum_ruleLookedAt_add_passedOver device before
  rw [hfirst.holds.lookedAt] at horder
  unfold allowPosition
  omega

theorem allowPosition_lt (h₁ : FirstRule (PciApplies device₁) rules before₁ rule₁)
    (h₂ : FirstRule (PciApplies device₂) rules before₂ rule₂)
    (hlt : pciPlace device₁ before₁ rule₁ < pciPlace device₂ before₂ rule₂) :
    allowPosition device₁ before₁ rule₁ < allowPosition device₂ before₂ rule₂ := by
  unfold allowPosition
  obtain hrules | ⟨hrules, hentries⟩ := Prod.Lex.toLex_lt_toLex.1 hlt
  · obtain ⟨more, rfl⟩ := h₁.extends h₂ hrules
    have hentry := h₁.holds.findIdx_lt
    simp only [List.map_append, List.map_cons, List.sum_append, List.sum_cons]
    omega
  · obtain ⟨rfl, rfl⟩ := h₁.same_length h₂ hrules
    dsimp only at hentries
    omega

theorem allowPosition_eq (h₁ : FirstRule (PciApplies device₁) rules before₁ rule₁)
    (h₂ : FirstRule (PciApplies device₂) rules before₂ rule₂)
    (heq : pciPlace device₁ before₁ rule₁ = pciPlace device₂ before₂ rule₂) :
    allowPosition device₁ before₁ rule₁ = allowPosition device₂ before₂ rule₂ := by
  obtain ⟨hrules, hentries⟩ := Prod.mk.inj (toLex.injective heq)
  obtain ⟨rfl, rfl⟩ := h₁.same_length h₂ hrules
  unfold allowPosition
  rw [hentries]

/-- Two devices are ordered as their places are. -/
def OrderFollows (m₁ m₂ : RuleMatch) (place₁ place₂ : ℕ ×ₗ ℕ) : Prop :=
  (m₁.order < m₂.order ↔ place₁ < place₂) ∧ (m₁.order = m₂.order ↔ place₁ = place₂)

/-- The device of the later place is ahead in the entries passed over by fewer than the entries
between the two places. -/
def PassesOverLess (device₁ : PciDevice) (before₁ : List Value) (rule₁ : Value)
    (device₂ : PciDevice) (before₂ : List Value) (rule₂ : Value) : Prop :=
  passedOver device₂ before₂ + allowPosition device₁ before₁ rule₁ <
    passedOver device₁ before₁ + allowPosition device₂ before₂ rule₂

/-- The order of the devices follows the configuration exactly where the later device was not
spared so many entries more. -/
theorem pci_order_follows_iff (h₁ : d.pciRule device₁ = some m₁) (h₂ : d.pciRule device₂ = some m₂)
    (hfirst₁ : FirstRule (PciApplies device₁) d.config.pciPassthrough before₁ rule₁)
    (hfirst₂ : FirstRule (PciApplies device₂) d.config.pciPassthrough before₂ rule₂) :
    let place₁ := pciPlace device₁ before₁ rule₁
    let place₂ := pciPlace device₂ before₂ rule₂
    OrderFollows m₁ m₂ place₁ place₂ ↔
      (place₁ < place₂ → PassesOverLess device₁ before₁ rule₁ device₂ before₂ rule₂) ∧
      (place₂ < place₁ → PassesOverLess device₂ before₂ rule₂ device₁ before₁ rule₁) ∧
      (place₁ = place₂ → passedOver device₁ before₁ = passedOver device₂ before₂) := by
  intro place₁ place₂
  have horder₁ := order_add_passedOver h₁ hfirst₁
  have horder₂ := order_add_passedOver h₂ hfirst₂
  unfold OrderFollows PassesOverLess
  obtain hlt | heq | hgt := lt_trichotomy place₁ place₂
  · have hposition := allowPosition_lt hfirst₁ hfirst₂ hlt
    simp only [hlt, hlt.ne, hlt.not_gt, true_imp_iff, false_imp_iff, iff_true, iff_false, and_true]
    omega
  · have hposition := allowPosition_eq hfirst₁ hfirst₂ heq
    simp only [heq, lt_irrefl, true_imp_iff, false_imp_iff, iff_true, iff_false, true_and]
    omega
  · have hposition := allowPosition_lt hfirst₂ hfirst₁ hgt
    simp only [hgt, hgt.ne', hgt.not_gt, true_imp_iff, false_imp_iff, iff_false, and_true,
      true_and]
    omega

end Places

def addressSelector (address : String) : Value := .object [("address", .string address)]

def displayDevice : PciDevice := pciDeviceOf { address := "0000:00:02.0" }

def audioDevice : PciDevice := pciDeviceOf { address := "0000:00:1f.3" }

/-- A rule without a VM for `shadowed`, and one for display and audio. -/
def untargetedRule (shadowed : String) : Value :=
  .object [("allow", .array [addressSelector shadowed, addressSelector "0000:00:00.0"])]

def mediaRule : Value :=
  .object [("targetVm", .string "gui-vm"),
    ("allow", .array [addressSelector "0000:00:02.0", addressSelector "0000:00:1f.3"])]

def mediaDaemon (shadowed : String) : Daemon where
  config := { pciPassthrough := [untargetedRule shadowed, mediaRule] }
  host := Host.plain

theorem firstRule_media {shadowed : String} {device : PciDevice}
    (hmedia : PciApplies device mediaRule) :
    FirstRule (PciApplies device) (mediaDaemon shadowed).config.pciPassthrough
      [untargetedRule shadowed] mediaRule where
  split := ⟨[], rfl⟩
  holds := hmedia
  first other hmem happlies := by
    obtain rfl := List.mem_singleton.1 hmem
    obtain ⟨vm, htarget⟩ := happlies.target
    cases htarget

/-- The rule without a VM is for neither of them. -/
theorem pci_order_follows_media : ∃ m₁ m₂,
    (mediaDaemon "0000:00:01.0").pciRule displayDevice = some m₁ ∧
      (mediaDaemon "0000:00:01.0").pciRule audioDevice = some m₂ ∧
        OrderFollows m₁ m₂
          (pciPlace displayDevice [untargetedRule "0000:00:01.0"] mediaRule)
          (pciPlace audioDevice [untargetedRule "0000:00:01.0"] mediaRule) := by
  refine ⟨_, _, rfl, rfl, ?_⟩
  refine (pci_order_follows_iff (d := mediaDaemon "0000:00:01.0") rfl rfl
    (firstRule_media (by decide)) (firstRule_media (by decide))).2 ?_
  unfold PassesOverLess
  decide +kernel

/-- With audio in the rule without a VM, its second entry is not counted, and the two are level. -/
theorem pci_order_level : ¬∀ (d : Daemon) (device₁ device₂ : PciDevice) (m₁ m₂ : RuleMatch)
    (before₁ before₂ : List Value) (rule₁ rule₂ : Value), d.pciRule device₁ = some m₁ →
      d.pciRule device₂ = some m₂ →
        FirstRule (PciApplies device₁) d.config.pciPassthrough before₁ rule₁ →
          FirstRule (PciApplies device₂) d.config.pciPassthrough before₂ rule₂ →
            OrderFollows m₁ m₂ (pciPlace device₁ before₁ rule₁)
              (pciPlace device₂ before₂ rule₂) := by
  intro hclaim
  have hfollows := hclaim (mediaDaemon "0000:00:1f.3") displayDevice audioDevice _ _ _ _ _ _ rfl rfl
    (firstRule_media (by decide)) (firstRule_media (by decide))
  have hearlier := hfollows.1.2 (by decide)
  revert hearlier
  decide +kernel

end GhafDeviceManager
