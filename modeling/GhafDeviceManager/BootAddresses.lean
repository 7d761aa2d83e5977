import GhafDeviceManager.Parts
import GhafDeviceManager.Replies
import GhafDeviceManager.VmmArgs

/-!
# The addresses of the boot arguments

Going through the devices of a VM, an address is bound when the first group that holds it is
quarantined, and named when the first device that passes it through comes. The two sets that keep
this once apart hold different addresses: a group may be bound without being named.
-/

namespace GhafDeviceManager

open Fallible

/-! ## First occurrences -/

section Firsts

variable {α : Type} [DecidableEq α] {seen items : List α} {a : α}

/-- Items that are not there yet, behind those that are. -/
def pushAll (seen items : List α) : List α := items.foldl pushNew seen

theorem pushAll_cons (seen : List α) (a : α) (items : List α) :
    pushAll seen (a :: items) = pushAll (pushNew seen a) items := rfl

theorem pushAll_append (seen first second : List α) :
    pushAll seen (first ++ second) = pushAll (pushAll seen first) second := List.foldl_append

theorem mem_pushNew {b : α} : b ∈ pushNew seen a ↔ b ∈ seen ∨ b = a := by
  unfold pushNew
  split
  case isTrue hmem =>
    refine ⟨.inl, fun h => ?_⟩
    rcases h with h | rfl
    · exact h
    · exact hmem
  case isFalse => simp

theorem mem_pushAll {b : α} : b ∈ pushAll seen items ↔ b ∈ seen ∨ b ∈ items := by
  induction items generalizing seen with
  | nil => simp [pushAll]
  | cons a items ih => rw [pushAll_cons, ih, mem_pushNew, List.mem_cons, or_assoc]

theorem pushAll_eq (seen items : List α) :
    ∃ new, pushAll seen items = seen ++ new ∧ ∀ b ∈ new, b ∈ items ∧ b ∉ seen := by
  induction items generalizing seen with
  | nil => exact ⟨[], (List.append_nil seen).symm, by simp⟩
  | cons a items ih =>
      obtain ⟨new, hnew, hmem⟩ := ih (pushNew seen a)
      rw [pushAll_cons, hnew]
      by_cases ha : a ∈ seen
      · have hpush : pushNew seen a = seen := if_pos ha
        rw [hpush] at hmem ⊢
        exact ⟨new, rfl, fun b hb => ⟨List.mem_cons_of_mem a (hmem b hb).1, (hmem b hb).2⟩⟩
      · have hpush : pushNew seen a = seen ++ [a] := if_neg ha
        rw [hpush, List.append_assoc]
        refine ⟨[a] ++ new, rfl, fun b hb => ?_⟩
        rcases List.mem_cons.1 hb with rfl | hb
        · exact ⟨List.mem_cons_self, ha⟩
        · obtain ⟨hitem, hnot⟩ := hmem b hb
          refine ⟨List.mem_cons_of_mem a hitem, fun hseen => hnot ?_⟩
          exact mem_pushNew.2 (.inl hseen)

end Firsts

/-! ## Topologies -/

/-- What is asked of a value is not asked of an error. -/
def decidableOk {ε α : Type} {P : α → Prop} [DecidablePred P] :
    (r : Except ε α) → Decidable (∀ a, r = .ok a → P a)
  | .ok a => decidable_of_iff (P a) ⟨fun h _ ha => Except.ok.inj ha ▸ h, fun h => h a rfl⟩
  | .error _ => isTrue nofun

/-- The PCI devices of a host, each in its own IOMMU group where it has one. -/
structure PciTopology where
  entries : List PciEntry
  own : ∀ entry ∈ entries, ∀ members ∈ entry.iommuGroup, entry.address ∈ members

namespace PciTopology

variable (t : PciTopology)

def group (address : String) : List String := iommuGroup t.entries address

def pciDevices (d : Daemon) : List (PciDevice × RuleMatch) :=
  (d.pciRouted t.entries (scanPci t.entries)).insertionSort pciBefore

def devicesOf (d : Daemon) (vmName : String) : List (PciDevice × RuleMatch) :=
  (t.pciDevices d).filter fun x => x.2.targetVm == some vmName

def passed (x : PciDevice × RuleMatch) : List String :=
  passthrough x.1 x.2 (t.group x.1.address)

def quarantined (x : PciDevice × RuleMatch) : List String :=
  quarantine x.1 (t.group x.1.address)

/-- Scans and group reads that succeed show the topology. -/
def Shows : (op : Op) → Reply op → Prop
  | .scanPci, r => ∀ xs, r = .ok xs → xs = scanPci t.entries
  | .iommuGroup address, r => ∀ xs, r = .ok xs → xs = t.group address
  | _, _ => True

instance (op : Op) (r : Reply op) : Decidable (t.Shows op r) := by
  delta Shows
  induction op using Op.casesOn with
  | scanPci => exact decidableOk _
  | iommuGroup address => exact decidableOk _
  | _ => exact isTrue trivial

variable {t}

end PciTopology

/-! ## The walk over the devices -/

/-- The addresses `bind_vfio` is called for, each known by the driver it reads first. -/
def bindings (c : Replies Op Reply) : List String :=
  c.filterMap fun e => match e.1 with
    | .pciDriver address => some address
    | _ => none

def vfioArguments (named : String × Bool) : List String :=
  ["--vfio", vfioArgument named.1 named.2]

/-- What a walk over these devices makes of what was bound and named before. -/
structure Walks (t : PciTopology) (devices : List (PciDevice × RuleMatch)) (acc acc' : VmmPci)
    (c : Replies Op Reply) : Prop where
  bound : acc'.bound = (bindings c).reverse ++ acc.bound
  nodup : acc.bound.Nodup → acc'.bound.Nodup
  mem_bound : ∀ a, a ∈ acc'.bound ↔ a ∈ acc.bound ∨ a ∈ devices.flatMap t.quarantined
  named : ∃ named : List (String × Bool), acc'.args = acc.args ++ named.flatMap vfioArguments ∧
    acc'.emitted.reverse = acc.emitted.reverse ++ named.map Prod.fst
  emitted : acc'.emitted.reverse = pushAll acc.emitted.reverse (devices.flatMap t.passed)

section Walk

variable {α : Type} {t : PciTopology} {d : Daemon} {c c₁ c₂ : Replies Op Reply}
  {acc acc₁ acc' : VmmPci} {x : PciDevice × RuleMatch} {devices : List (PciDevice × RuleMatch)}

theorem bindings_append : bindings (c₁ ++ c₂) = bindings c₁ ++ bindings c₂ :=
  List.filterMap_append

theorem bindings_eq_nil {p : Act α} {r : Except Error α} (h : Replays p.run c r)
    (hp : Calls (fun op => ∀ address, op ≠ .pciDriver address) p) : bindings c = [] := by
  refine List.filterMap_eq_nil_iff.2 fun e he => ?_
  have hop := h.calls hp e he
  obtain ⟨op, reply⟩ := e
  cases op with
  | pciDriver address => exact absurd rfl (hop address)
  | _ => rfl

theorem bindings_bindVfio {address : String} (h : Replays (bindVfio address).run c (.ok ())) :
    bindings c = [address] := by
  obtain ⟨driver, c₁, c₂, hread, hrest, rfl⟩ := replays_bind h
  obtain ⟨reply, rfl, -⟩ := replays_request hread
  have hend : Calls (fun op => ∀ address, op ≠ .pciDriver address) (do
      Fallible.request (.pciOverride address) id
      Fallible.request (.pciProbe address) id : Act Unit) :=
    calls_bind (calls_request nofun) fun _ => calls_request nofun
  have htail : bindings c₂ = [] := by
    refine bindings_eq_nil hrest (calls_ite (calls_ite ?_ hend) trivial)
    exact calls_bind (calls_request nofun) fun _ => hend
  rw [bindings_append, htail]
  rfl

theorem replays_bindNew {addresses bound bound' : List String}
    (h : Replays (bindNew addresses bound).run c (.ok bound')) :
    bound' = (bindings c).reverse ++ bound ∧ (bound.Nodup → bound'.Nodup) ∧
      ∀ a, a ∈ bound' ↔ a ∈ bound ∨ a ∈ addresses := by
  induction addresses generalizing bound c with
  | nil =>
      obtain ⟨hbound, rfl⟩ := replays_pure h
      obtain rfl := Except.ok.inj hbound
      exact ⟨rfl, id, by simp⟩
  | cons address rest ih =>
      rw [bindNew] at h
      split at h
      case isTrue hbound =>
        obtain ⟨hsame, hnodup, hmem⟩ := ih h
        refine ⟨hsame, hnodup, fun a => ?_⟩
        rw [hmem, List.mem_cons]
        refine ⟨fun ha => ha.imp_right .inr, ?_⟩
        rintro (ha | rfl | ha)
        · exact .inl ha
        · exact .inl (by simpa using hbound)
        · exact .inr ha
      case isFalse hnew =>
        obtain ⟨_, c₁, c₂, hbind, hrest, rfl⟩ := replays_bind h
        obtain ⟨hsame, hnodup, hmem⟩ := ih hrest
        refine ⟨?_, fun h => hnodup (List.nodup_cons.2 ⟨by simpa using hnew, h⟩), fun a => ?_⟩
        · rw [bindings_append, bindings_bindVfio hbind, hsame]
          simp
        · rw [hmem, List.mem_cons, List.mem_cons]
          tauto

theorem emitNew_spec (rootBus : Bool) (addresses : List String) (acc : VmmPci) :
    (emitNew rootBus addresses acc).bound = acc.bound ∧
      (∃ named : List (String × Bool),
        (emitNew rootBus addresses acc).args = acc.args ++ named.flatMap vfioArguments ∧
          (emitNew rootBus addresses acc).emitted.reverse =
            acc.emitted.reverse ++ named.map Prod.fst) ∧
      (emitNew rootBus addresses acc).emitted.reverse = pushAll acc.emitted.reverse addresses := by
  induction addresses generalizing acc with
  | nil => exact ⟨rfl, ⟨[], by simp [emitNew], by simp [emitNew]⟩, rfl⟩
  | cons address rest ih =>
      rw [emitNew, pushAll_cons, pushNew]
      by_cases hnamed : acc.emitted.contains address = true
      · rw [if_pos hnamed, if_pos (by simpa using hnamed)]
        exact ih acc
      · rw [if_neg hnamed, if_neg (by simpa using hnamed)]
        obtain ⟨hbound, ⟨named, hargs, hemitted⟩, hpushed⟩ := ih { acc with
          emitted := address :: acc.emitted
          args := acc.args ++ ["--vfio", vfioArgument address rootBus] }
        refine ⟨hbound, ⟨(address, rootBus) :: named, ?_, ?_⟩, ?_⟩
        · rw [hargs, List.flatMap_cons, ← List.append_assoc]
          rfl
        · rw [hemitted, List.reverse_cons, List.append_assoc, List.map_cons]
          rfl
        · rw [hpushed, List.reverse_cons]

theorem Walks.refl (acc : VmmPci) : Walks t [] acc acc [] where
  bound := rfl
  nodup := id
  mem_bound := by simp
  named := ⟨[], by simp, by simp⟩
  emitted := rfl

theorem Walks.cons (h₁ : Walks t [x] acc acc₁ c₁) (h₂ : Walks t devices acc₁ acc' c₂) :
    Walks t (x :: devices) acc acc' (c₁ ++ c₂) where
  bound := by
    rw [h₂.bound, h₁.bound, bindings_append, List.reverse_append, List.append_assoc]
  nodup h := h₂.nodup (h₁.nodup h)
  mem_bound a := by
    rw [h₂.mem_bound, h₁.mem_bound, List.flatMap_singleton, List.flatMap_cons, List.mem_append,
      or_assoc]
  named := by
    obtain ⟨named₁, hargs₁, hemitted₁⟩ := h₁.named
    obtain ⟨named₂, hargs₂, hemitted₂⟩ := h₂.named
    refine ⟨named₁ ++ named₂, ?_, ?_⟩
    · rw [hargs₂, hargs₁, List.flatMap_append, List.append_assoc]
    · rw [hemitted₂, hemitted₁, List.map_append, List.append_assoc]
  emitted := by
    rw [h₂.emitted, h₁.emitted, List.flatMap_singleton, List.flatMap_cons, pushAll_append]

theorem walks_vmmDevice (h : Replays (vmmDevice acc x.1 x.2).run c (.ok acc'))
    (hc : ∀ e ∈ c, t.Shows e.1 e.2) : Walks t [x] acc acc' c := by
  obtain ⟨group, c₁, c₂, hgroup, hrest, rfl⟩ := replays_bind h
  obtain ⟨reply, rfl, hreply⟩ := replays_request hgroup
  obtain rfl : group = t.group x.1.address :=
    hc ⟨.iommuGroup x.1.address, reply⟩ (by simp) group hreply.symm
  obtain ⟨bound, c₃, c₄, hbind, hend, rfl⟩ := replays_bind hrest
  obtain ⟨hacc, rfl⟩ := replays_pure hend
  obtain rfl := Except.ok.inj hacc
  obtain ⟨hsame, hnodup, hmem⟩ := replays_bindNew hbind
  obtain ⟨hbound, hnamed, hemitted⟩ := emitNew_spec x.2.crosvmUseRootBus
    (passthrough x.1 x.2 (t.group x.1.address)) { acc with bound := bound }
  refine ⟨?_, fun h => ?_, fun a => ?_, hnamed, ?_⟩
  · rw [hbound, hsame, List.append_nil]
    rfl
  · rw [hbound]
    exact hnodup h
  · rw [hbound, hmem, List.flatMap_singleton]
    rfl
  · rw [hemitted, List.flatMap_singleton]
    rfl

theorem replays_pciRouted {found : List PciDevice} {xs : List (PciDevice × RuleMatch)}
    (h : Replays (pciRouted d found).run c (.ok xs)) (hc : ∀ e ∈ c, t.Shows e.1 e.2) :
    xs = d.pciRouted t.entries found := by
  induction found generalizing c xs with
  | nil =>
      obtain ⟨hxs, -⟩ := replays_pure h
      exact Except.ok.inj hxs
  | cons device rest ih =>
      have hkeep : ∀ {rule : RuleMatch} {c : Replies Op Reply}, (∀ e ∈ c, t.Shows e.1 e.2) →
          Replays (do return (device, rule) :: (← pciRouted d rest) : Act _).run c (.ok xs) →
            xs = (device, rule) :: d.pciRouted t.entries rest := by
        intro rule c hc hrun
        obtain ⟨ys, c₁, c₂, hrest, hend, rfl⟩ := replays_bind hrun
        obtain ⟨hxs, -⟩ := replays_pure hend
        rw [Except.ok.inj hxs, ih hrest fun e he => hc e (by simp [he])]
      unfold pciRouted at h
      cases hrule : d.pciRule device with
      | none =>
          rw [hrule] at h
          rw [ih h hc, Daemon.pciRouted, Daemon.pciRouted, List.filterMap_cons, hrule]
          rfl
      | some rule =>
          rw [hrule] at h
          dsimp only at h
          by_cases hskip : rule.iommuSkipIfShared = true
          · rw [if_pos hskip] at h
            obtain ⟨group, c₁, c₂, hgroup, hrest, rfl⟩ := replays_bind h
            obtain ⟨reply, rfl, hreply⟩ := replays_request hgroup
            obtain rfl : group = t.group device.address :=
              hc ⟨.iommuGroup device.address, reply⟩ (by simp) group hreply.symm
            have hcrest : ∀ e ∈ c₂, t.Shows e.1 e.2 := fun e he => hc e (by simp [he])
            by_cases hshared : 1 < (t.group device.address).length
            · have hiommu : 1 < (iommuGroup t.entries device.address).length := hshared
              rw [if_pos hshared] at hrest
              rw [ih hrest hcrest]
              simp [Daemon.pciRouted, hrule, hskip, hiommu]
            · have hiommu : ¬1 < (iommuGroup t.entries device.address).length := hshared
              rw [if_neg hshared] at hrest
              rw [hkeep hcrest hrest]
              simp [Daemon.pciRouted, hrule, hiommu]
          · rw [if_neg hskip] at h
            rw [hkeep hc h]
            simp [Daemon.pciRouted, hrule, hskip]

theorem replays_pciDevices {xs : List (PciDevice × RuleMatch)}
    (h : Replays (pciDevices d).run c (.ok xs)) (hc : ∀ e ∈ c, t.Shows e.1 e.2) :
    xs = t.pciDevices d := by
  obtain ⟨found, c₁, c₂, hscan, hrest, rfl⟩ := replays_bind h
  obtain ⟨reply, rfl, hreply⟩ := replays_request hscan
  obtain rfl : found = scanPci t.entries := hc ⟨.scanPci, reply⟩ (by simp) found hreply.symm
  obtain ⟨routed, c₃, c₄, hrouted, hend, rfl⟩ := replays_bind hrest
  obtain ⟨hxs, -⟩ := replays_pure hend
  rw [Except.ok.inj hxs, replays_pciRouted hrouted fun e he => hc e (by simp [he])]
  rfl

end Walk

def cardTopology : PciTopology where
  entries :=
    [{ address := "0000:01:00.0", iommuGroup := some ["0000:01:00.0", "0000:01:00.1"] },
      { address := "0000:01:00.1", iommuGroup := some ["0000:01:00.0", "0000:01:00.1"] }]
  own := by
    intro entry hentry members hmembers
    rcases List.mem_pair.1 hentry with rfl | rfl
    · obtain rfl := Option.some.inj hmembers
      simp
    · obtain rfl := Option.some.inj hmembers
      simp

/-- A rule that adds the group of the card, and one for the audio function. -/
def cardDaemon : Daemon where
  config :=
    { vms := [guiVm]
      pciPassthrough :=
        [.object [("targetVm", .string "gui-vm"), ("pciIommuAddAll", .bool true),
            ("allow", .array [.object [("address", .string "0000:01:00.0")]])],
          .object [("targetVm", .string "gui-vm"),
            ("allow", .array [.object [("address", .string "0000:01:00.1")]])]] }
  host := Host.plain

def cardHost : World where
  daemon := cardDaemon
  pci := cardTopology.entries

def cardArgs : List String :=
  ["--vfio-isolate-hotplug",
    "--vfio", "/sys/bus/pci/devices/0000:01:00.0,iommu=viommu,removable=true",
    "--vfio", "/sys/bus/pci/devices/0000:01:00.1,iommu=viommu,removable=true"]

end GhafDeviceManager
