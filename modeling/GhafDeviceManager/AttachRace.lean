import GhafDeviceManager.AttachSides
import GhafDeviceManager.DefaultDeny
import GhafDeviceManager.Turns

/-!
# An attach request beside a pass

The two sides take turns call by call, each lock at one side at a time. A device that the request
has recorded stays authorized as long as the pass neither deauthorizes it between the request's
guard and its record nor takes that record away. Both can happen, and the first is the sweep's
race: it reads the records before the attach makes its own, and writes after the guard.
-/

namespace GhafDeviceManager

open Fallible

section Device

variable (name node : String)

def storyOfRequest : Party → Progress → (op : Op) → Reply op → Progress
  | .first, p, op, r => p.next name node op r
  | .second, p, _, _ => p

/-- The device stays plugged in, and its `authorized` attribute changes by writes to it only. -/
structure StaysPlugged (w : World) (op : Op) (c : Choice) : Prop where
  ownNode : (react w op c).2.ownNode name node
  authorization : ∀ bus ∈ c.bus, bus.authorization name = match op with
    | .authorize other value => (w.bus.authorized other value).authorization name
    | _ => w.bus.authorization name

/-- What may happen around both sides meanwhile. -/
structure Beside (s s' : Shared Progress) : Prop where
  surroundings : Surroundings s.world s'.world
  holder : s'.holder = s.holder
  story : s'.story = s.story
  ownNode : s'.world.ownNode name node
  authorization : s'.world.bus.authorization name = s.world.bus.authorization name

def parties (party : Party) : Machine Op Reply (Shared Progress) :=
  Machine.among (Beside name node) (Shared.react (storyOfRequest name node) party) fun s op c =>
    s.free party op ∧ StaysPlugged name node s.world op c

/-- The pass does not deauthorize the device between the guard of the request and its record, nor
removes that record. -/
def LeavesAlone : Party → Shared Progress → Op → Prop
  | .second, s, .authorize other false => other = name → s.story ≠ .guarded
  | .second, s, .update (.usbVmsRemove other) => other = node → s.story ≠ .recorded
  | _, _, _ => True

structure Holds (party : Party) (v : View) (s : Shared Progress) : Prop where
  operation : v.operation = true → s.holder .operation = some party
  state : v.state = true → s.holder .state = some party

/-- The views of both sides and the world they share. -/
structure Tied (v v' : View) (s : Shared Progress) : Prop where
  first : Holds .first v s
  second : Holds .second v' s
  story : s.story = v.progress
  ownNode : s.world.ownNode name node
  authorized : s.story = .guarded ∨ s.story = .recorded →
    s.world.bus.authorization name = some true
  recorded : s.story = .recorded → (s.world.memory.usbVms.lookup node).isSome
  cleared : v'.operation = true → v'.cleared = true → s.story ≠ .recorded
  snapshot : v'.state = true → v'.snapshot = some false →
    s.world.memory.usbVms.lookup node = none

end Device

section Locks

variable {name node : String} {s : Shared Progress} {op : Op} {c : Choice} {v : View}
  {party rival : Party}

theorem Holds.own (h : Holds party v s) (r : Reply op) :
    Holds party (v.next name node op r)
      (Shared.react (storyOfRequest name node) party s op c).2 := by
  cases op with
  | lock l =>
      cases l with
      | operation =>
          exact ⟨fun _ => by simp [Shared.react, heldAfter], fun hstate => h.state hstate⟩
      | state => exact ⟨fun ho => h.operation ho, fun _ => by simp [Shared.react, heldAfter]⟩
      | _ => exact ⟨fun ho => h.operation ho, fun hstate => h.state hstate⟩
  | unlock l =>
      have hkept : ∀ l', l' ≠ l → s.holder l' = some party →
          heldAfter party s.holder (.unlock l) l' = some party := by
        intro l' hne hheld
        simp only [heldAfter]
        split
        · rwa [Function.update_of_ne hne]
        · exact hheld
      cases l with
      | operation =>
          exact ⟨fun hfree => (by cases hfree), fun hstate => hkept _ (by simp) (h.state hstate)⟩
      | state => exact ⟨fun ho => hkept _ (by simp) (h.operation ho), fun hfree => (by cases hfree)⟩
      | _ => exact ⟨fun ho => hkept _ (by simp) (h.operation ho),
          fun hstate => hkept _ (by simp) (h.state hstate)⟩
  | update u => cases u <;> exact ⟨h.operation, h.state⟩
  | _ => exact ⟨h.operation, h.state⟩

theorem Holds.other (h : Holds rival v s) (hne : party ≠ rival) (hfree : s.free party op) :
    Holds rival v (Shared.react (storyOfRequest name node) party s op c).2 :=
  ⟨fun ho => Shared.heldAfter_other hne hfree (h.operation ho),
    fun hstate => Shared.heldAfter_other hne hfree (h.state hstate)⟩

end Locks

/-! ## One call -/

section World

variable {name node : String} {w : World} {op : Op} {c : Choice}

theorem authorization_unbound (bus : UsbBus) (interface : String) :
    (bus.unbound interface).authorization name = bus.authorization name := by
  rw [UsbBus.authorization, UsbBus.unbound, entry_modify, UsbBus.authorization]
  swap
  · exact fun _ => rfl
  cases bus.entry name with
  | none => rfl
  | some entry =>
      by_cases hname : name = interface
      · simp only [hname, if_true, Option.map_some, Option.bind_some]
        rfl
      · simp only [hname, if_false, Option.map_some, Option.bind_some]

def OwnAttribute (name : String) (w : World) (op : Op) (c : Choice) : Prop :=
  ∀ bus ∈ c.bus, bus.authorization name = match op with
    | .authorize other value => (w.bus.authorized other value).authorization name
    | _ => w.bus.authorization name

theorem StaysPlugged.ownAttribute (h : StaysPlugged name node w op c) :
    OwnAttribute name w op c := by
  intro bus hbus
  have hattribute := h.authorization bus hbus
  cases op <;> exact hattribute

theorem authorization_react (h : OwnAttribute name w op c)
    (hop : ∀ value, op ≠ .authorize name value) :
    (react w op c).2.bus.authorization name = w.bus.authorization name := by
  have hset : ∀ bus : UsbBus, bus.authorization name = w.bus.authorization name →
      (∀ after ∈ c.bus, after.authorization name = w.bus.authorization name) →
      (c.setBus w bus).bus.authorization name = w.bus.authorization name := by
    intro bus hbus hafter
    simp only [Choice.setBus]
    split
    · rfl
    · cases hchosen : c.bus with
      | none => exact hbus
      | some after => exact hafter after hchosen
  cases op with
  | update u => cases u <;> rfl
  | setAutoprobe value => exact hset _ rfl h
  | probe other => exact hset _ rfl h
  | release other => exact hset _ (authorization_unbound _ _) h
  | setAuthorizedDefault value =>
      simp only [react, World.record]
      cases hchosen : c.bus with
      | none => rfl
      | some after => exact h after hchosen
  | authorize other value =>
      have hne : name ≠ other := by
        rintro rfl
        exact hop value rfl
      have hattribute : (w.bus.authorized other value).authorization name =
          w.bus.authorization name := authorization_authorized_ne hne value
      simp only [react]
      split
      · rfl
      · exact hset _ hattribute fun after hafter => (h after hafter).trans hattribute
  | _ => rfl

theorem authorization_react_authorize (h : OwnAttribute name w (.authorize name true) c)
    (hbefore : (react w (.authorize name true) c).1.toBool = true ∨
      w.bus.authorization name = some true) :
    (react w (.authorize name true) c).2.bus.authorization name = some true := by
  simp only [react] at hbefore ⊢
  split at hbefore
  case isTrue habsent =>
    rw [if_pos habsent]
    exact hbefore.resolve_left (by simp [Except.toBool])
  case isFalse hpresent =>
    rw [if_neg hpresent]
    rw [Option.isNone_iff_eq_none, ← ne_eq, ← Option.isSome_iff_ne_none] at hpresent
    simp only [World.record, Choice.setBus]
    cases hfail : c.fail with
    | true =>
        rw [Choice.result, hfail] at hbefore
        exact hbefore.resolve_left (by simp [Except.toBool])
    | false =>
        have hwritten := authorization_authorized hpresent true
        cases hchosen : c.bus with
        | none => exact hwritten
        | some after => exact (h after hchosen).trans hwritten

theorem scansOwnNode_react (h : w.ownNode name node) (c : Choice) :
    ScansOwnNode name node op (react w op c).1 := by
  cases op with
  | scanUsb =>
      simp only [react, Choice.result]
      split
      · trivial
      · exact h
  | _ => trivial

theorem lookup_react (w : World) (op : Op) (c : Choice) :
    (react w op c).2.memory.usbVms.lookup node = match op with
      | .update (.usbVmsInsert other vm) =>
        if other = node then some vm else w.memory.usbVms.lookup node
      | .update (.usbVmsRemove other) =>
        if other = node then none else w.memory.usbVms.lookup node
      | _ => w.memory.usbVms.lookup node := by
  cases op with
  | update u =>
      cases u with
      | usbVmsInsert other vm =>
          dsimp only
          by_cases hother : other = node
          · subst hother
            rw [if_pos rfl]
            exact AList.lookup_insert _
          · rw [if_neg hother]
            exact AList.lookup_insert_ne (Ne.symm hother)
      | usbVmsRemove other =>
          dsimp only
          by_cases hother : other = node
          · subst hother
            rw [if_pos rfl]
            exact AList.lookup_erase _ _
          · rw [if_neg hother]
            exact AList.lookup_erase_ne (Ne.symm hother)
      | _ => rfl
  | authorize other value =>
      simp only [react]
      split <;> rfl
  | _ => rfl

end World

section Calls

variable {name node : String} {v v' : View} {s : Shared Progress} {op : Op} {c : Choice}

@[simp] theorem View.next_progress (v : View) (op : Op) (r : Reply op) :
    (v.next name node op r).progress = v.progress.next name node op r := by
  cases op with
  | lock l => cases l <;> rfl
  | unlock l => cases l <;> rfl
  | update u => cases u <;> rfl
  | _ => rfl

/-- A call of the request keeps the device authorized from its guard on. -/
theorem Tied.authorized_request (h : Tied name node v v' s) (hop : Careful name node v op)
    (hc : StaysPlugged name node s.world op c)
    (hlate : s.story.next name node op (react s.world op c).1 = .guarded ∨
      s.story.next name node op (react s.world op c).1 = .recorded) :
    (react s.world op c).2.bus.authorization name = some true := by
  -- an operation that leaves the progress as it is and does not write the attribute
  have hkept : (∀ value, op ≠ .authorize name value) →
      (s.story = .guarded ∨ s.story = .recorded) →
        (react s.world op c).2.bus.authorization name = some true := fun hwrite hlate =>
    (authorization_react hc.ownAttribute hwrite).trans (h.authorized hlate)
  cases op with
  | enter entry =>
      refine hkept (by simp) ?_
      cases entry with
      | attachOneUsb device rule requestedVm =>
          by_cases hrecorded : s.story = .recorded
          · exact .inr hrecorded
          · simp [Progress.next, hrecorded] at hlate
      | detachOneUsb device permanent =>
          by_cases hname : device.sysName = name
          · simp [Progress.next, hname] at hlate
          · simpa [Progress.next, hname] using hlate
      | _ => exact hlate
  | unlock l =>
      refine hkept (by simp) ?_
      cases l with
      | operation =>
          by_cases hrecorded : s.story = .recorded
          · exact .inr hrecorded
          · simp [Progress.next, hrecorded] at hlate
      | _ => exact hlate
  | authorization other =>
      by_cases hread : s.world.bus.authorization name = some true
      · exact hread
      · refine hkept (by simp) ?_
        by_cases hother : other = name
        · subst hother
          simp only [Progress.next, react, ne_eq, not_true_eq_false, false_or, hread,
            if_false] at hlate
          split at hlate
          · exact hlate
          · split at hlate
            · simp at hlate
            · exact hlate
        · simpa [Progress.next, hother] using hlate
  | authorize other value =>
      by_cases hother : other = name
      · subst hother
        cases value with
        | false => simp [Progress.next] at hlate
        | true =>
            apply authorization_react_authorize hc.ownAttribute
            simp only [Progress.next, ne_eq, not_true_eq_false, false_or] at hlate
            split at hlate
            · exact .inr (h.authorized hlate)
            case isFalse hnot => exact .inl (by simpa using fun hfailed => hnot (.inr hfailed))
      · refine hkept (fun value hop => hother (by injection hop)) ?_
        cases value <;> simpa [Progress.next, hother] using hlate
  | update u =>
      refine hkept (by simp) ?_
      cases u with
      | usbVmsInsert other vm =>
          by_cases hother : other = node
          · subst hother
            rw [h.story]
            exact (hop.records vm rfl).2.2
          · simpa [Progress.next, hother] using hlate
      | usbVmsRemove other =>
          simp only [Progress.next] at hlate
          split at hlate
          · simp at hlate
          · exact hlate
      | _ => exact hlate
  | _ => exact hkept (by simp) hlate

theorem Tied.recorded_request (h : Tied name node v v' s)
    (hrecorded : s.story.next name node op (react s.world op c).1 = .recorded) :
    ((react s.world op c).2.memory.usbVms.lookup node).isSome = true := by
  rw [lookup_react]
  cases op with
  | enter entry =>
      cases entry <;> simp only [Progress.next] at hrecorded ⊢
      · split at hrecorded
        · exact h.recorded ‹_›
        · cases hrecorded
      · split at hrecorded
        · cases hrecorded
        · exact h.recorded hrecorded
      all_goals exact h.recorded hrecorded
  | unlock l =>
      cases l <;> simp only [Progress.next] at hrecorded ⊢
      · split at hrecorded
        · exact h.recorded ‹_›
        · cases hrecorded
      all_goals exact h.recorded hrecorded
  | authorization other =>
      simp only [Progress.next] at hrecorded ⊢
      split at hrecorded
      · exact h.recorded hrecorded
      · split at hrecorded
        · cases hrecorded
        · split at hrecorded
          · cases hrecorded
          · exact h.recorded hrecorded
  | authorize other value =>
      cases value <;> simp only [Progress.next] at hrecorded ⊢
      · split at hrecorded
        · cases hrecorded
        · exact h.recorded hrecorded
      · split at hrecorded
        · exact h.recorded hrecorded
        · cases hrecorded
  | update u =>
      cases u with
      | usbVmsInsert other vm =>
          simp only [Progress.next] at hrecorded ⊢
          split
          · rfl
          case isFalse hother =>
            rw [if_neg hother] at hrecorded
            exact h.recorded hrecorded
      | usbVmsRemove other =>
          simp only [Progress.next] at hrecorded ⊢
          split at hrecorded
          · cases hrecorded
          case isFalse hkept =>
            have hother : other ≠ node := fun hother => hkept ⟨hother, hrecorded⟩
            rw [if_neg hother]
            exact h.recorded hrecorded
      | _ => exact h.recorded hrecorded
  | _ => exact h.recorded hrecorded

theorem Progress.recorded_of_next {p : Progress} {r : Reply op}
    (h : p.next name node op r = .recorded) :
    p = .recorded ∨ ∃ vm, op = .update (.usbVmsInsert node vm) := by
  cases op with
  | enter entry =>
      cases entry with
      | attachOneUsb device rule requestedVm =>
          by_cases hrecorded : p = .recorded
          · exact .inl hrecorded
          · simp [Progress.next, hrecorded] at h
      | detachOneUsb device permanent =>
          by_cases hname : device.sysName = name
          · simp [Progress.next, hname] at h
          · exact .inl (by simpa [Progress.next, hname] using h)
      | _ => exact .inl h
  | unlock l =>
      cases l with
      | operation =>
          by_cases hrecorded : p = .recorded
          · exact .inl hrecorded
          · simp [Progress.next, hrecorded] at h
      | _ => exact .inl h
  | authorization other =>
      simp only [Progress.next] at h
      split at h
      · exact .inl h
      · split at h
        · cases h
        · split at h
          · cases h
          · exact .inl h
  | authorize other value =>
      cases value <;> simp only [Progress.next] at h
      · split at h
        · cases h
        · exact .inl h
      · split at h
        · exact .inl h
        · cases h
  | update u =>
      cases u with
      | usbVmsInsert other vm =>
          by_cases hother : other = node
          · subst hother
            exact .inr ⟨vm, rfl⟩
          · exact .inl (by simpa [Progress.next, hother] using h)
      | usbVmsRemove other =>
          simp only [Progress.next] at h
          split at h
          · cases h
          · exact .inl h
      | _ => exact .inl h
  | _ => exact .inl h

theorem Tied.request (h : Tied name node v v' s) (hop : Careful name node v op)
    (hfree : s.free .first op) (hc : StaysPlugged name node s.world op c) :
    Tied name node (v.next name node op (react s.world op c).1) v'
      (Shared.react (storyOfRequest name node) .first s op c).2 where
  first := h.first.own _
  second := h.second.other nofun hfree
  story := by
    rw [View.next_progress, ← h.story]
    rfl
  ownNode := hc.ownNode
  authorized := h.authorized_request hop hc
  recorded := h.recorded_request
  cleared ho hcleared hrecorded := by
    obtain hbefore | ⟨vm, rfl⟩ := Progress.recorded_of_next hrecorded
    · exact h.cleared ho hcleared hbefore
    · have hheld := h.second.operation ho
      rw [h.first.operation (hop.records vm rfl).1] at hheld
      cases hheld
  snapshot hstate hsnapshot := by
    have hnone := h.snapshot hstate hsnapshot
    have hinsert : ∀ vm, op ≠ .update (.usbVmsInsert node vm) := by
      rintro vm rfl
      have hheld := h.second.state hstate
      rw [h.first.state (hop.records vm rfl).2.1] at hheld
      cases hheld
    refine (lookup_react s.world op c).trans ?_
    split
    · split
      · rename_i other vm heq
        subst heq
        exact absurd rfl (hinsert vm)
      · exact hnone
    · split
      · rfl
      · exact hnone
    · exact hnone

/-- The pass deauthorizes the device only before the request's guard. -/
theorem Tied.authorized_pass (h : Tied name node v v' s) (hop : Careful name node v' op)
    (hleaves : LeavesAlone name node .second s op) (hc : StaysPlugged name node s.world op c)
    (hlate : s.story = .guarded ∨ s.story = .recorded) :
    (react s.world op c).2.bus.authorization name = some true := by
  by_cases hwrite : ∃ value, op = .authorize name value
  · obtain ⟨value, rfl⟩ := hwrite
    cases value with
    | true => exact authorization_react_authorize hc.ownAttribute (.inr (h.authorized hlate))
    | false =>
        have hrecorded : s.story = .recorded := hlate.resolve_left (hleaves rfl)
        obtain ⟨ho, hcleared⟩ | ⟨hstate, hsnapshot⟩ := hop.deauthorizes rfl
        · exact absurd hrecorded (h.cleared ho hcleared)
        · have hsome := h.recorded hrecorded
          rw [h.snapshot hstate hsnapshot] at hsome
          cases hsome
  · have hother : ∀ value, op ≠ .authorize name value := fun value heq => hwrite ⟨value, heq⟩
    exact (authorization_react hc.ownAttribute hother).trans (h.authorized hlate)

theorem Tied.cleared_pass (h : Tied name node v v' s)
    (hleaves : LeavesAlone name node .second s op)
    (ho : (v'.next name node op (react s.world op c).1).operation = true)
    (hcleared : (v'.next name node op (react s.world op c).1).cleared = true) :
    s.story ≠ .recorded := by
  cases op with
  | lock l =>
      cases l with
      | operation => cases hcleared
      | _ => exact h.cleared ho hcleared
  | unlock l =>
      cases l with
      | operation => cases ho
      | _ => exact h.cleared ho hcleared
  | update u =>
      cases u with
      | usbVmsRemove other =>
          simp only [View.next, Bool.or_eq_true, decide_eq_true_eq] at hcleared
          rcases hcleared with hcleared | rfl
          · exact h.cleared ho hcleared
          · exact hleaves rfl
      | _ => exact h.cleared ho hcleared
  | authorization other =>
      simp only [View.next, Bool.or_eq_true, Bool.and_eq_true, decide_eq_true_eq, react] at hcleared
      rcases hcleared with hcleared | ⟨rfl, hread⟩
      · exact h.cleared ho hcleared
      · intro hrecorded
        rw [h.authorized (.inr hrecorded)] at hread
        simp at hread
  | _ => exact h.cleared ho hcleared

theorem Tied.snapshot_pass (h : Tied name node v v' s)
    (hstate : (v'.next name node op (react s.world op c).1).state = true)
    (hsnapshot : (v'.next name node op (react s.world op c).1).snapshot = some false) :
    (react s.world op c).2.memory.usbVms.lookup node = none := by
  rw [lookup_react]
  cases op with
  | lock l =>
      cases l with
      | state => cases hsnapshot
      | _ => exact h.snapshot hstate hsnapshot
  | unlock l =>
      cases l with
      | state => cases hstate
      | _ => exact h.snapshot hstate hsnapshot
  | read l => simpa [View.next, react] using hsnapshot
  | update u =>
      cases u with
      | usbVmsInsert other vm => cases hsnapshot
      | usbVmsRemove other => cases hsnapshot
      | _ => exact h.snapshot hstate hsnapshot
  | _ => exact h.snapshot hstate hsnapshot

theorem Tied.pass (h : Tied name node v v' s) (hop : Careful name node v' op)
    (hleaves : LeavesAlone name node .second s op) (hfree : s.free .second op)
    (hc : StaysPlugged name node s.world op c) :
    Tied name node v (v'.next name node op (react s.world op c).1)
      (Shared.react (storyOfRequest name node) .second s op c).2 where
  first := h.first.other nofun hfree
  second := h.second.own _
  story := h.story
  ownNode := hc.ownNode
  authorized := h.authorized_pass hop hleaves hc
  recorded hrecorded := by
    have hsome := h.recorded hrecorded
    change ((react s.world op c).2.memory.usbVms.lookup node).isSome = true
    rw [lookup_react]
    split
    · split
      · rfl
      · exact hsome
    · split
      · rename_i other heq
        subst heq
        exact absurd hrecorded (hleaves rfl)
      · exact hsome
    · exact hsome
  cleared := h.cleared_pass hleaves
  snapshot := h.snapshot_pass

theorem Tied.beside {s₁ : Shared Progress} (h : Tied name node v v' s)
    (hs : Beside name node s s₁) : Tied name node v v' s₁ where
  first :=
    ⟨fun ho => hs.holder ▸ h.first.operation ho, fun hstate => hs.holder ▸ h.first.state hstate⟩
  second :=
    ⟨fun ho => hs.holder ▸ h.second.operation ho, fun hstate => hs.holder ▸ h.second.state hstate⟩
  story := hs.story.trans h.story
  ownNode := hs.ownNode
  authorized hlate := by
    rw [hs.story] at hlate
    exact hs.authorization.trans (h.authorized hlate)
  recorded hrecorded := by
    rw [hs.story] at hrecorded
    rw [hs.surroundings.memory]
    exact h.recorded hrecorded
  cleared ho hcleared := hs.story ▸ h.cleared ho hcleared
  snapshot hstate hsnapshot := by
    rw [hs.surroundings.memory]
    exact h.snapshot hstate hsnapshot

end Calls

/-! ## The two together -/

/-- Nobody holds a lock, and the request has not begun. -/
structure Shared.Fresh (s : Shared Progress) : Prop where
  holder : ∀ l, s.holder l = none
  story : s.story = .apart

/-- With authorization on, a device that an attach request has recorded for a VM is authorized
when both are done, in every interleaving with a pass that leaves it alone: that does not
deauthorize it between the request's guard and its record and does not remove that record. -/
theorem attach_stays_authorized {name node : String} {s s' : Shared Progress}
    {selector : Selector} {vm : Option String} {tr : List (Party × Shared Progress × Op)}
    {r : Except Error Unit} (henabled : s.world.daemon.config.usbAuthorization.enabled = true)
    (hown : s.world.ownNode name node) (hfresh : s.Fresh)
    (hrun : Interleaved (parties name node) (attachUsb s.world.daemon selector vm).run
      (reconcile s.world.daemon).run s tr s' (.pure (.ok ())) (.pure r))
    (hmeets : ∀ e ∈ tr, LeavesAlone name node e.1 e.2.1 e.2.2)
    (hattached : s'.story = .recorded) : s'.world.bus.authorization name = some true := by
  have hstart : Tied name node {} {} s := by
    refine ⟨⟨nofun, nofun⟩, ⟨nofun, nofun⟩, hfresh.story, hown, ?_, ?_, nofun, nofun⟩
    · intro hlate
      simp [hfresh.story] at hlate
    · intro hrecorded
      simp [hfresh.story] at hrecorded
  have hrequest : ∀ v v' s op r s₁, Tied name node v v' s → Careful name node v op →
      LeavesAlone name node .first s op → (parties name node .first).step s op r s₁ →
        ∃ v₁, (side name node).step v op r v₁ ∧ Tied name node v₁ v' s₁ := by
    rintro v v' s op r s₁ htied hop - ⟨c, ⟨hfree, hc⟩, hanswer⟩
    obtain ⟨rfl, rfl⟩ := Prod.mk.inj hanswer
    exact ⟨_, ⟨scansOwnNode_react htied.ownNode c, rfl⟩, htied.request hop hfree hc⟩
  have hpass : ∀ v v' s op r s₁, Tied name node v v' s → Careful name node v' op →
      LeavesAlone name node .second s op → (parties name node .second).step s op r s₁ →
        ∃ v₁, (side name node).step v' op r v₁ ∧ Tied name node v v₁ s₁ := by
    rintro v v' s op r s₁ htied hop hleaves ⟨c, ⟨hfree, hc⟩, hanswer⟩
    obtain ⟨rfl, rfl⟩ := Prod.mk.inj hanswer
    exact ⟨_, ⟨scansOwnNode_react htied.ownNode c, rfl⟩, htied.pass hop hleaves hfree hc⟩
  obtain ⟨v, v', htied, -, -⟩ := hrun.sound (I := Tied name node) (fun _ => rfl) (fun _ => rfl)
    (fun _ _ _ _ _ hs htied => Tied.beside htied hs) hrequest hpass hmeets
    (wp_attachUsb_side henabled selector vm {}) (wp_reconcile_side henabled {}) hstart
  exact htied.authorized (.inr hattached)

/-! ## A keyboard two VMs may have -/

/-- The keyboard waits on the host for a choice, with authorization on. -/
def keyboardWanted : World :=
  { sharedKeyboard with
    daemon := { sharedKeyboard.daemon with
      config := { sharedKeyboard.daemon.config with
        usbAuthorization := { enable := some true, deauthorizeUnmatched := true } } } }

def keyboardTurns (turns : List Party) : List (Party × Shared Progress × Op) × Shared Progress ×
    Program Op Reply (Except Error Unit) × Program Op Reply (Except Error Unit) :=
  interleave (Shared.react (storyOfRequest "1-1" "/dev/bus/usb/001/004"))
    (fun _ s op => onPortOne s.world op) turns
    (attachUsb keyboardWanted.daemon { deviceNode := some "/dev/bus/usb/001/004" }
      (some "gui-vm")).run (reconcile keyboardWanted.daemon).run
    { world := keyboardWanted, story := .apart }

instance (w : World) (name node : String) : Decidable (w.ownNode name node) := by
  unfold World.ownNode
  infer_instance

instance (name node : String) (party : Party) (s : Shared Progress) (op : Op) :
    Decidable (LeavesAlone name node party s op) := by
  unfold LeavesAlone
  split <;> infer_instance

theorem keyboardTurns_interleaved (turns : List Party)
    (hturns : ∀ e ∈ (keyboardTurns turns).1, e.2.1.free e.1 e.2.2 ∧
      e.2.1.world.ownNode "1-1" "/dev/bus/usb/001/004" ∧
        (react e.2.1.world e.2.2 (onPortOne e.2.1.world e.2.2)).2.ownNode "1-1"
          "/dev/bus/usb/001/004") (request pass : Except Error Unit)
    (hrequest : (keyboardTurns turns).2.2.1.value = some request)
    (hpass : (keyboardTurns turns).2.2.2.value = some pass) :
    Interleaved (parties "1-1" "/dev/bus/usb/001/004")
      (attachUsb keyboardWanted.daemon { deviceNode := some "/dev/bus/usb/001/004" }
        (some "gui-vm")).run (reconcile keyboardWanted.daemon).run
      { world := keyboardWanted, story := .apart } (keyboardTurns turns).1
      (keyboardTurns turns).2.1 (.pure request) (.pure pass) := by
  rw [← Program.eq_pure_of_value hrequest, ← Program.eq_pure_of_value hpass]
  apply interleave_interleaved
  · intro e he
    exact ⟨⟨rfl, rfl, rfl, rfl⟩, rfl, rfl, (hturns e he).2.1, rfl⟩
  · intro e he
    refine ⟨(hturns e he).1, (hturns e he).2.2, ?_⟩
    have hbus : (onPortOne e.2.1.world e.2.2).bus = none := by
      cases e.2.2 <;> rfl
    intro bus hchosen
    rw [hbus] at hchosen
    cases hchosen

def oneByOne : List Party := List.replicate 42 .second ++ List.replicate 26 .first

/-- The request comes between the sweep's scan and its look at the records, and waits for the
state lock with everything but its own record done. -/
def sweptMeanwhile : List Party :=
  List.replicate 37 .second ++ List.replicate 13 .first ++ List.replicate 5 .second ++
    List.replicate 12 .first

theorem fresh_keyboardWanted :
    Shared.Fresh { world := keyboardWanted, story := .apart } := ⟨fun _ => rfl, rfl⟩

theorem attach_stays_authorized_oneByOne :
    (keyboardTurns oneByOne).2.1.world.bus.authorization "1-1" = some true :=
  attach_stays_authorized (by decide +kernel) (by decide +kernel) fresh_keyboardWanted
    (keyboardTurns_interleaved oneByOne (by decide +kernel) (.ok ()) (.ok ())
      (by decide +kernel) (by decide +kernel))
    (by decide +kernel) (by decide +kernel)

/-- The request succeeds with the keyboard in the VM, and the keyboard is not authorized. -/
theorem attached_but_swept : ¬∀ (name node : String) (s s' : Shared Progress) selector vm tr r,
    s.world.daemon.config.usbAuthorization.enabled = true →
    s.world.daemon.config.usbAuthorization.deauthorizeUnmatched = true →
    s.world.ownNode name node → s.Fresh →
    Interleaved (parties name node) (attachUsb s.world.daemon selector vm).run
      (reconcile s.world.daemon).run s tr s' (.pure (.ok ())) (.pure r) →
    s'.story = .recorded → s'.world.bus.authorization name = some true := by
  intro hclaim
  have hauthorized := hclaim _ _ _ _ _ _ _ _ (by decide +kernel) (by decide +kernel)
    (by decide +kernel) fresh_keyboardWanted
    (keyboardTurns_interleaved sweptMeanwhile (by decide +kernel) (.ok ()) (.ok ())
      (by decide +kernel) (by decide +kernel)) (by decide +kernel)
  have hswept : (keyboardTurns sweptMeanwhile).2.1.world.bus.authorization "1-1" = some false := by
    decide +kernel
  rw [hswept] at hauthorized
  cases hauthorized

end GhafDeviceManager
