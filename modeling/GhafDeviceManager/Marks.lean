import GhafDeviceManager.Parts

/-!
# Marks of disconnected devices

A permanent detach leaves a mark under the device's persistent id. It outlives the process through
the state file, and goes only when something marks the id as connected again.
-/

namespace GhafDeviceManager

open Fallible

structure Marked (id : String) (w : World) : Prop where
  memory : w.memory.persistent.disconnected id = true
  file : w.daemon.config.persistency = true → ∃ state ∈ w.stateFile, state.disconnected id = true

def Op.Unmarks (id : String) (op : Op) : Prop := op = .update (.setDisconnected id false)

/-- The ids of USB devices are not those of PCI devices. -/
theorem usbId_ne_pciId (device : UsbDevice) (address : String) :
    device.persistentId ≠ "pci-" ++ address := by
  intro h
  have hchars := congrArg (fun text => text.toList.head?) h
  simp [UsbDevice.persistentId, String.toList_append] at hchars

section Marked

variable {id : String} {w : World}

theorem disconnected_apply {u : Update} (hu : u ≠ .setDisconnected id false) (m : Memory)
    (h : m.persistent.disconnected id = true) :
    (u.apply m).persistent.disconnected id = true := by
  cases u with
  | setDisconnected other value =>
      rw [Update.apply, PersistentState.disconnected_setDisconnected]
      split
      case isTrue hsame =>
        subst hsame
        cases value with
        | true => rfl
        | false => exact absurd rfl hu
      case isFalse => exact h
  | _ => exact h

theorem marked_react {op : Op} (hop : ¬op.Unmarks id) (h : Marked id w) (c : Choice) :
    Marked id (react w op c).2 := by
  cases op with
  | update u =>
      have hu : u ≠ .setDisconnected id false := fun heq => hop (congrArg Op.update heq)
      have hmemory := disconnected_apply hu w.memory h.memory
      cases u <;> exact ⟨hmemory, h.file⟩
  | save =>
      refine ⟨h.memory, fun hpersists => ?_⟩
      simp only [react, World.record]
      split
      · exact h.file hpersists
      · exact ⟨_, rfl, h.memory⟩
  | authorize name value =>
      simp only [react]
      split
      · exact h
      · exact ⟨h.memory, h.file⟩
  | _ => exact ⟨h.memory, h.file⟩

theorem marked_surroundings {w' : World} (hw : Surroundings w w') (h : Marked id w) :
    Marked id w' := by
  refine ⟨?_, ?_⟩
  · rw [hw.memory]
    exact h.memory
  · rw [hw.daemon, hw.stateFile]
    exact h.file

theorem marked_restart {d : Daemon} (hw : w.daemon.config.persistency = true)
    (hd : d.config.persistency = true) (h : Marked id w) : Marked id (w.restart d) := by
  obtain ⟨state, hstate, hmarked⟩ := h.file hw
  refine ⟨?_, fun _ => ⟨state, hstate, hmarked⟩⟩
  rw [World.restart, if_pos hd, hstate]
  exact hmarked

/-- Marked, and the state is persisted exactly if it was under `d`. -/
structure StillMarked (d : Daemon) (id : String) (w : World) : Prop where
  persistency : w.daemon.config.persistency = d.config.persistency
  marked : Marked id w

theorem StillMarked.react {d : Daemon} {op : Op} (h : StillMarked d id w) (hop : ¬op.Unmarks id)
    (c : Choice) : StillMarked d id (react w op c).2 := by
  refine ⟨?_, marked_react hop h.marked c⟩
  rw [react_daemon]
  exact h.persistency

theorem StillMarked.surroundings {d : Daemon} {w' : World} (h : StillMarked d id w)
    (hw : Surroundings w w') : StillMarked d id w' := by
  refine ⟨?_, marked_surroundings hw h.marked⟩
  rw [hw.daemon]
  exact h.persistency

theorem StillMarked.restart {d d' : Daemon} (h : StillMarked d id w)
    (hd' : d'.config.persistency = true) (hd : d.config.persistency = true) :
    StillMarked d id (w.restart d') :=
  ⟨hd'.trans hd.symm, marked_restart (h.persistency.trans hd) hd' h.marked⟩

theorem keeps_marked {allowed : World → Op → Choice → Prop} {α : Type} {p : Act α}
    (hp : Calls (fun op => ¬op.Unmarks id) p) :
    Keeps (machine allowed) (fun _ _ => True) (Marked id) p :=
  keeps_of_harmless (Program.calls_mono hp fun _ hop _ hw =>
    ⟨trivial, fun c _ => marked_react hop hw c⟩)

/-- Once a permanent detach has recorded itself, the id is marked. -/
theorem wp_setDisconnected_marks {allowed : World → Op → Choice → Prop} :
    (setDisconnected w.daemon id true).wp (machine allowed) (fun _ _ => True)
      (fun r w' => r = .ok () → Marked id w') w := by
  have hmemory : ((Update.setDisconnected id true).apply w.memory).persistent.disconnected id =
      true := by
    rw [Update.apply, PersistentState.disconnected_setDisconnected, if_pos rfl]
  rw [setDisconnected, wp_bind, update, wp_operation]
  refine ⟨trivial, fun _ _ => ?_⟩
  rw [react, andThen_ok, saveState]
  split
  case isTrue hpersists =>
    rw [wp_operation]
    refine ⟨trivial, fun c _ hok => ⟨hmemory, fun _ => ?_⟩⟩
    simp only [react, Choice.result, id_eq, World.record] at hok ⊢
    split at hok
    case isTrue => cases hok
    case isFalse hfail =>
      rw [if_neg hfail]
      exact ⟨_, rfl, hmemory⟩
  case isFalse hpersists => exact fun _ => ⟨hmemory, fun h => absurd h hpersists⟩

end Marked

/-! ## Requests that succeed -/

section Requests

variable {allowed : World → Op → Choice → Prop} {α : Type} {selected : Act (List α)} {xs : List α}
  {name : α → String} {f : α → Act Unit} {w : World}

/-- A request that returns Ok made its call for each selected device, and no call failed: where one
did, the list of failures is not empty and stays so. -/
theorem wp_request_ok {I : List α → World → Prop}
    (hselected : selected.wp (machine allowed) (fun _ _ => True) (fun r w' => w' = w ∧
      ∀ ys, r = .ok ys → ys = xs) w)
    (hround : ∀ x rest w', I (x :: rest) w' →
      (f x).wp (machine allowed) (fun _ _ => True) (fun r w'' => r = .ok () → I rest w'') w')
    (hstart : I xs w) :
    wp (machine allowed) (fun _ _ => True) (withLock .operation do
      let devices ← selected
      let failures ← devices.foldlM (fun failures x => collect (name x) (f x) failures) []
      aggregate failures) (fun r w' => r = .ok () → I [] w') w := by
  rw [wp_withLock]
  refine ⟨trivial, fun _ _ => ?_⟩
  rw [wp_bind]
  refine wp_imp hselected ?_
  rintro r w' ⟨rfl, hr⟩
  cases r with
  | error e => exact ⟨trivial, fun _ _ h => by cases h⟩
  | ok ys =>
      obtain rfl := hr ys rfl
      rw [andThen_ok, wp_bind]
      have hloop := wp_foldlM_rest (M := machine allowed) (G := fun _ _ => True) (l := ys)
        (f := fun failures x => collect (name x) (f x) failures)
        (I := fun rest failures w => failures = [] → I rest w) ?_ [] fun _ => hstart
      · refine wp_imp hloop fun r w'' hdone => ?_
        cases r with
        | error e => exact ⟨trivial, fun _ _ h => by cases h⟩
        | ok failures =>
            rw [andThen_ok, aggregate]
            split
            case isTrue hempty =>
              exact ⟨trivial, fun _ _ _ => hdone failures rfl (List.isEmpty_iff.1 hempty)⟩
            case isFalse => exact ⟨trivial, fun _ _ h => by cases h⟩
      · intro x rest failures w₁ hinv
        rw [collect, wp_bind, wp_attempt]
        by_cases hempty : failures = []
        · refine wp_imp (hround x rest w₁ (hinv hempty)) fun r w₂ hw₂ => ?_
          cases r with
          | ok _ =>
              intro failures' _ _
              exact hw₂ rfl
          | error e =>
              intro failures' hfailures hnone
              rw [← Except.ok.inj hfailures] at hnone
              simp at hnone
        · have htop := wp_of_footprint (M := machine allowed) (G := fun _ _ => True)
            (Program.calls_top (f x).run) (fun _ _ _ => trivial) w₁
          refine wp_imp htop fun r w₂ _ => ?_
          cases r with
          | ok _ =>
              intro failures' hfailures hnone
              rw [← Except.ok.inj hfailures] at hnone
              exact absurd hnone hempty
          | error e =>
              intro failures' hfailures hnone
              rw [← Except.ok.inj hfailures] at hnone
              simp at hnone

end Requests

end GhafDeviceManager
