import GhafDeviceManager.Inevitable
import GhafDeviceManager.RequestOrder
import Mathlib.Data.List.TakeWhile

/-!
# The event loop of the daemon

The udev monitor turns hotplug events into tokens of a bounded channel; the event loop waits for a
token or for its timer, drains the channel and reconciles. Both are tasks that take turns with
each other and with everything else. A pass and the requests of clients hold the operation lock by
turns, so a pass may have to wait for those in line before it.
-/

namespace GhafDeviceManager

/-- How long the loop waits without an event. -/
inductive Delay
  | retry
  | safety
deriving DecidableEq

/-- `RECONCILE_RETRY_INTERVAL` and `RECONCILE_SAFETY_INTERVAL` -/
def Delay.seconds : Delay → ℕ
  | retry => 2
  | safety => 30

/-- What comes of a pass, once it is known whether it put anything off. -/
def delayAfter (result : Except Error Unit) (deferred : Bool) : Delay :=
  match result with
  | .ok _ => if deferred then .retry else .safety
  | .error _ => .retry

inductive Monitor
  | waiting
  /-- The guard is taken, and the socket still to be read. -/
  | guarded
  /-- The socket was read, and its readiness is still to be cleared. -/
  | read (found : Bool)
  | sending
  /-- The task is over, and its end of the channel with it. -/
  | dead
deriving DecidableEq

inductive Loop
  | absent
  | waiting (delay : Delay)
  | draining
  | reconciling (rest : Program Op Reply (Except Error Unit))
  | ended

def channelCapacity : ℕ := 8

structure Events where
  world : World
  monitor : Monitor := .waiting
  /-- The events in the socket, by whether they are of a USB or PCI device. -/
  pending : List Bool := []
  /-- What the runtime takes the socket for. -/
  ready : Bool := false
  /-- Whether the socket got ready again since the monitor took its guard. -/
  fresh : Bool := false
  queued : ℕ := 0
  loop : Loop := .absent
  /-- Whether the pass has the operation lock. -/
  holds : Bool := false
  /-- What is left of the requests in line for the operation lock, the next one first. It has the
  lock unless the pass does. -/
  line : List (Program Op Reply (Except Error Unit)) := []
  /-- Whether an event of such a device came since the last pass began. No code reads it. -/
  uncovered : Bool := false

inductive Activity
  | arrival
  | startup
  | failure
  | abort
  | monitor
  | loop
  | pass
  | request
  | others
deriving DecidableEq

namespace Events

/-- `any` stops at the first event that is relevant and leaves the rest in the socket. -/
def unread (pending : List Bool) : List Bool := (pending.dropWhile fun relevant => !relevant).tail

/-- Whether a pass has the operation lock after a call. -/
def holdsAfter (holds : Bool) : Op → Bool
  | .lock .operation => true
  | .unlock .operation => false
  | _ => holds

inductive Step (M : Machine Op Reply World) : Events → Activity → Events → Prop
  /-- The pass that `attach_connected` asks for begins. -/
  | initial (s : Events) (hloop : s.loop = .absent) :
      Step M s .startup { s with uncovered := false }
  | spawned (s : Events) (delay : Delay) (hloop : s.loop = .absent) :
      Step M s .startup { s with loop := .waiting delay }
  | arrived (s : Events) (relevant : Bool) :
      Step M s .arrival { s with
        pending := s.pending ++ [relevant]
        ready := true
        fresh := true
        uncovered := s.uncovered || relevant }
  | guarded (s : Events) (hmonitor : s.monitor = .waiting) (hready : s.ready = true) :
      Step M s .monitor { s with monitor := .guarded, fresh := false }
  | taken (s : Events) (hmonitor : s.monitor = .guarded) :
      Step M s .monitor { s with
        monitor := .read (s.pending.any id)
        pending := unread s.pending }
  /-- What came after the guard was taken keeps the socket ready. -/
  | cleared (s : Events) (found : Bool) (hmonitor : s.monitor = .read found) :
      Step M s .monitor { s with
        monitor := if found then .sending else .waiting
        ready := s.fresh }
  | sent (s : Events) (hmonitor : s.monitor = .sending) (hroom : s.queued < channelCapacity) :
      Step M s .monitor { s with monitor := .waiting, queued := s.queued + 1 }
  | unsent (s : Events) (hmonitor : s.monitor = .sending) (hloop : s.loop = .ended) :
      Step M s .failure { s with monitor := .dead }
  | failed (s : Events) (hmonitor : s.monitor = .waiting) :
      Step M s .failure { s with monitor := .dead }
  /-- `abort` drops the loop wherever it is, and with it what it holds. -/
  | aborted (s : Events) : Step M s .abort { s with loop := .ended, holds := false }
  | woken (s : Events) (delay : Delay) (hloop : s.loop = .waiting delay) (hqueued : 0 < s.queued) :
      Step M s .loop { s with queued := s.queued - 1, loop := .draining }
  | elapsed (s : Events) (delay : Delay) (hloop : s.loop = .waiting delay) :
      Step M s .loop { s with loop := .draining }
  /-- `recv` gives nothing when the channel is empty and its other end gone. -/
  | orphaned (s : Events) (delay : Delay) (hloop : s.loop = .waiting delay)
      (hqueued : s.queued = 0) (hmonitor : s.monitor = .dead) :
      Step M s .loop { s with loop := .ended }
  | drained (s : Events) (hloop : s.loop = .draining) (hqueued : 0 < s.queued) :
      Step M s .loop { s with queued := s.queued - 1 }
  | started (s : Events) (hloop : s.loop = .draining) (hqueued : s.queued = 0) :
      Step M s .pass { s with
        loop := .reconciling (reconcile s.world.daemon).run
        uncovered := false }
  /-- The operation lock is waited for. -/
  | call (s : Events) (op : Op) (next : Reply op → Program Op Reply (Except Error Unit))
      (w₁ w₂ : World) (r : Reply op) (hloop : s.loop = .reconciling (.call op next))
      (hline : op = .lock .operation → s.line = []) (henv : M.env s.world w₁)
      (hstep : M.step w₁ op r w₂) :
      Step M s .loop { s with
        world := w₂
        loop := .reconciling (next r)
        holds := holdsAfter s.holds op }
  | finished (s : Events) (result : Except Error Unit)
      (hloop : s.loop = .reconciling (.pure result)) :
      Step M s .loop { s with loop := .waiting (delayAfter result s.world.memory.deferred) }
  | queued (s : Events) (request : Program Op Reply (Except Error Unit)) :
      Step M s .others { s with line := s.line ++ [request] }
  | worked (s : Events) (op : Op) (next : Reply op → Program Op Reply (Except Error Unit))
      (after : List (Program Op Reply (Except Error Unit))) (w₁ w₂ : World) (r : Reply op)
      (hholds : s.holds = false) (hline : s.line = .call op next :: after)
      (henv : M.env s.world w₁) (hstep : M.step w₁ op r w₂) :
      Step M s .request { s with world := w₂, line := next r :: after }
  | left (s : Events) (result : Except Error Unit)
      (after : List (Program Op Reply (Except Error Unit))) (hholds : s.holds = false)
      (hline : s.line = .pure result :: after) :
      Step M s .request { s with line := after }
  /-- Whatever else moves the world. -/
  | others (s : Events) (w : World) : Step M s .others { s with world := w }

variable {M : Machine Op Reply World} {s s' : Events} {activity : Activity}

/-! ## No event is lost -/

/-- Where the news of an event can be until a pass begins. -/
inductive News (s : Events) : Prop
  | socket (hready : s.ready = true) (hpending : true ∈ s.pending)
  | found (hmonitor : s.monitor = .read true)
  | sending (hmonitor : s.monitor = .sending)
  | queued (hqueued : 0 < s.queued)
  | draining (hloop : s.loop = .draining)
  /-- A task has died, and the daemon is about to. -/
  | dead (hdead : s.monitor = .dead ∨ s.loop = .ended)

structure Covered (s : Events) : Prop where
  news : s.uncovered = true → News s
  /-- A reader that found nothing read all there was. -/
  read : s.monitor = .read false → true ∈ s.pending → s.fresh = true

theorem unread_of_not_any {pending : List Bool} (h : true ∉ pending) : unread pending = [] := by
  have hall : ∀ relevant ∈ pending, (!relevant) = true := by
    intro relevant hmem
    cases relevant with
    | false => rfl
    | true => exact absurd hmem h
  rw [unread, List.dropWhile_eq_nil_iff.2 hall]
  rfl

/-- While the loop neither drains nor is over, it has no part in where the news is. -/
theorem News.elsewhere (h : News s) (hdraining : s.loop ≠ .draining) (hover : s.loop ≠ .ended)
    (w : World) (loop : Loop) (holds : Bool) :
    News { s with world := w, loop := loop, holds := holds } := by
  cases h with
  | socket hready hpending => exact .socket hready hpending
  | found hmonitor => exact .found hmonitor
  | sending hmonitor => exact .sending hmonitor
  | queued hqueued => exact .queued hqueued
  | draining hloop => exact absurd hloop hdraining
  | dead hdead => exact .dead (.inl (hdead.resolve_right hover))

theorem News.others (h : News s) (w : World)
    (line : List (Program Op Reply (Except Error Unit))) :
    News { s with world := w, line := line } := by
  cases h with
  | socket hready hpending => exact .socket hready hpending
  | found hmonitor => exact .found hmonitor
  | sending hmonitor => exact .sending hmonitor
  | queued hqueued => exact .queued hqueued
  | draining hloop => exact .draining hloop
  | dead hdead => exact .dead hdead

/-- A monitor that has read nothing since knows of no news. -/
theorem News.of_quiet (h : News s) (hfound : s.monitor ≠ .read true)
    (hsending : s.monitor ≠ .sending) (hdead : s.monitor ≠ .dead) :
    (s.ready = true ∧ true ∈ s.pending) ∨ 0 < s.queued ∨ s.loop = .draining ∨ s.loop = .ended := by
  cases h with
  | socket hready hpending => exact .inl ⟨hready, hpending⟩
  | found hmonitor => exact absurd hmonitor hfound
  | sending hmonitor => exact absurd hmonitor hsending
  | queued hqueued => exact .inr (.inl hqueued)
  | draining hloop => exact .inr (.inr (.inl hloop))
  | dead h => exact .inr (.inr (.inr (h.resolve_left hdead)))

theorem News.of_later (h : 0 < s.queued ∨ s.loop = .draining ∨ s.loop = .ended) : News s := by
  rcases h with hqueued | hloop | hloop
  · exact .queued hqueued
  · exact .draining hloop
  · exact .dead (.inr hloop)

theorem Covered.step (h : Covered s) (hstep : Step M s activity s') : Covered s' := by
  obtain ⟨hnews, hread⟩ := h
  cases hstep with
  | initial hloop => exact ⟨fun huncovered => absurd huncovered Bool.false_ne_true, hread⟩
  | spawned delay hloop =>
      refine ⟨fun huncovered => ?_, hread⟩
      exact (hnews huncovered).elsewhere (by simp [hloop]) (by simp [hloop]) s.world _ _
  | aborted => exact ⟨fun _ => .dead (.inr rfl), hread⟩
  | arrived relevant =>
      refine ⟨fun huncovered => ?_, fun _ _ => rfl⟩
      rcases Bool.or_eq_true_iff.1 huncovered with hold | rfl
      · cases hnews hold with
        | socket hready hpending => exact .socket rfl (List.mem_append_left _ hpending)
        | found hmonitor => exact .found hmonitor
        | sending hmonitor => exact .sending hmonitor
        | queued hqueued => exact .queued hqueued
        | draining hloop => exact .draining hloop
        | dead hdead => exact .dead hdead
      · exact .socket rfl (by simp)
  | guarded hmonitor hready =>
      refine ⟨fun huncovered => ?_, fun hfalse => by cases hfalse⟩
      rcases (hnews huncovered).of_quiet (by simp [hmonitor]) (by simp [hmonitor])
        (by simp [hmonitor]) with ⟨-, hmem⟩ | hlater
      · exact .socket hready hmem
      · exact .of_later hlater
  | taken hmonitor =>
      by_cases hmem : true ∈ s.pending
      · have hany : s.pending.any id = true := List.any_eq_true.2 ⟨true, hmem, rfl⟩
        refine ⟨fun _ => .found (congrArg Monitor.read hany), fun hfalse => ?_⟩
        rw [show ({ s with
          monitor := .read (s.pending.any id)
          pending := unread s.pending } : Events).monitor = .read (s.pending.any id) from rfl,
          hany] at hfalse
        cases hfalse
      · refine ⟨fun huncovered => ?_, fun _ hpending => ?_⟩
        · have hquiet := (hnews huncovered).of_quiet (by simp [hmonitor]) (by simp [hmonitor])
            (by simp [hmonitor])
          exact .of_later (hquiet.resolve_left fun h => hmem h.2)
        · change true ∈ unread s.pending at hpending
          rw [unread_of_not_any hmem] at hpending
          cases hpending
  | cleared found hmonitor =>
      cases found with
      | true => exact ⟨fun _ => .sending rfl, fun hfalse => by cases hfalse⟩
      | false =>
          refine ⟨fun huncovered => ?_, fun hfalse => by cases hfalse⟩
          rcases (hnews huncovered).of_quiet (by simp [hmonitor]) (by simp [hmonitor])
            (by simp [hmonitor]) with ⟨-, hmem⟩ | hlater
          · exact .socket (hread hmonitor hmem) hmem
          · exact .of_later hlater
  | sent hmonitor hroom => exact ⟨fun _ => .queued (Nat.succ_pos _), fun hfalse => by cases hfalse⟩
  | unsent hmonitor hloop => exact ⟨fun _ => .dead (.inl rfl), fun hfalse => by cases hfalse⟩
  | failed hmonitor => exact ⟨fun _ => .dead (.inl rfl), fun hfalse => by cases hfalse⟩
  | woken delay hloop hqueued => exact ⟨fun _ => .draining rfl, hread⟩
  | elapsed delay hloop => exact ⟨fun _ => .draining rfl, hread⟩
  | orphaned delay hloop hqueued hmonitor => exact ⟨fun _ => .dead (.inr rfl), hread⟩
  | drained hloop hqueued => exact ⟨fun _ => .draining hloop, hread⟩
  | started hloop hqueued => exact ⟨fun huncovered => absurd huncovered Bool.false_ne_true, hread⟩
  | call op next w₁ w₂ r hloop hline henv hcall =>
      refine ⟨fun huncovered => ?_, hread⟩
      exact (hnews huncovered).elsewhere (by simp [hloop]) (by simp [hloop]) w₂ _ _
  | finished result hloop =>
      refine ⟨fun huncovered => ?_, hread⟩
      exact (hnews huncovered).elsewhere (by simp [hloop]) (by simp [hloop]) s.world _ _
  | queued request => exact ⟨fun huncovered => (hnews huncovered).others s.world _, hread⟩
  | worked op next after w₁ w₂ r hholds hline henv hcall =>
      exact ⟨fun huncovered => (hnews huncovered).others w₂ _, hread⟩
  | left result after hholds hline =>
      exact ⟨fun huncovered => (hnews huncovered).others s.world _, hread⟩
  | others w => exact ⟨fun huncovered => (hnews huncovered).others w s.line, hread⟩

/-! ## The turns of a pass -/

/-- The pass has the operation lock for as long as a turn of it lasts. -/
def Tidy (s : Events) : Prop :=
  match s.loop with
  | .reconciling rest => rest.Paired (.lock .operation) (.unlock .operation) s.holds
  | _ => s.holds = false

theorem holdsAfter_of_ne {holds : Bool} {op : Op} (hlock : op ≠ .lock .operation)
    (hunlock : op ≠ .unlock .operation) : holdsAfter holds op = holds := by
  unfold holdsAfter
  split
  · exact absurd rfl hlock
  · exact absurd rfl hunlock
  · rfl

theorem Tidy.step (h : Tidy s) (hstep : Step M s activity s') : Tidy s' := by
  cases hstep with
  | initial | arrived | guarded | taken | cleared | sent | unsent | failed | queued | worked
  | left | others => exact h
  | aborted => rfl
  | spawned delay hloop => rwa [Tidy, hloop] at h
  | woken delay hloop | elapsed delay hloop | orphaned delay hloop => rwa [Tidy, hloop] at h
  | drained hloop => exact h
  | started hloop hqueued =>
      rw [Tidy, hloop] at h
      rw [Tidy, show s.holds = false from h]
      exact paired_reconcile
  | finished result hloop => rwa [Tidy, hloop] at h
  | call op next w₁ w₂ r hloop hline henv hcall =>
      rw [Tidy, hloop] at h
      obtain ⟨rfl, -, hnext⟩ | ⟨rfl, -, hnext⟩ | ⟨hlock, hunlock, hnext⟩ := h
      · exact hnext r
      · exact hnext r
      · rw [Tidy, holdsAfter_of_ne hlock hunlock]
        exact hnext r

/-! ## A pass has to come -/

inductive Nearer : Loop → Loop → Prop
  | drains (delay : Delay) : Nearer .draining (.waiting delay)
  | waits (delay : Delay) (result : Except Error Unit) :
      Nearer (.waiting delay) (.reconciling (.pure result))
  | goesOn (op : Op) (next : Reply op → Program Op Reply (Except Error Unit)) (r : Reply op) :
      Nearer (.reconciling (next r)) (.reconciling (.call op next))

theorem nearer_wf : WellFounded Nearer := by
  have hdraining : Acc Nearer .draining := .intro _ fun l h => by cases h
  have hwaiting (delay : Delay) : Acc Nearer (.waiting delay) := by
    refine .intro _ fun l h => ?_
    cases h with
    | drains => exact hdraining
  refine ⟨fun l => ?_⟩
  cases l with
  | absent => exact .intro _ fun l h => by cases h
  | ended => exact .intro _ fun l h => by cases h
  | draining => exact hdraining
  | waiting delay => exact hwaiting delay
  | reconciling rest =>
      induction rest with
      | pure result =>
          refine .intro _ fun l h => ?_
          cases h with
          | waits delay => exact hwaiting delay
      | call op next ih =>
          refine .intro _ fun l h => ?_
          cases h with
          | goesOn op next r => exact ih r

/-- The line gets shorter, or the request in front nearer to its end. -/
inductive Shorter : List (Program Op Reply (Except Error Unit)) →
    List (Program Op Reply (Except Error Unit)) → Prop
  | works (op : Op) (next : Reply op → Program Op Reply (Except Error Unit)) (r : Reply op)
      (after : List (Program Op Reply (Except Error Unit))) :
      Shorter (next r :: after) (.call op next :: after)
  | leaves (result : Except Error Unit) (after : List (Program Op Reply (Except Error Unit))) :
      Shorter after (.pure result :: after)

theorem shorter_wf : WellFounded Shorter := by
  refine ⟨fun line => ?_⟩
  induction line with
  | nil => exact .intro _ fun l h => by cases h
  | cons request after ih =>
      induction request with
      | pure result =>
          refine .intro _ fun l h => ?_
          cases h with
          | leaves => exact ih
      | call op next hnext =>
          refine .intro _ fun l h => ?_
          cases h with
          | works op next r => exact hnext r

/-- How much the monitor can still do before the next event. -/
def monitorWork (s : Events) : ℕ :=
  match s.monitor with
  | .waiting => 4 * s.ready.toNat
  | .sending => 4 * s.ready.toNat + 1
  | .read _ => 4 * s.fresh.toNat + 2
  | .guarded => 4 * s.fresh.toNat + 3
  | .dead => 0

abbrev Rank := Loop × List (Program Op Reply (Except Error Unit)) × ℕ × ℕ

def rank (s : Events) : Rank := (s.loop, s.line, monitorWork s, s.queued)

def Lower : Rank → Rank → Prop :=
  Prod.Lex Nearer (Prod.Lex Shorter (Prod.Lex (· < ·) (· < ·)))

theorem lower_wf : WellFounded Lower :=
  nearer_wf.prod_lex (shorter_wf.prod_lex (wellFounded_lt.prod_lex wellFounded_lt))

/-- A step of the two tasks themselves, or of the request whose turn it is. -/
def Own (M : Machine Op Reply World) (s s' : Events) : Prop :=
  Step M s .monitor s' ∨ Step M s .loop s' ∨ Step M s .request s'

structure Running (s : Events) : Prop where
  monitor : s.monitor ≠ .dead
  present : s.loop ≠ .absent
  lasting : s.loop ≠ .ended

theorem Tidy.own (h : Tidy s) (hown : Own M s s') : Tidy s' := by
  rcases hown with hstep | hstep | hstep <;> exact h.step hstep

theorem Running.own (h : Running s) (hown : Own M s s') : Running s' := by
  obtain ⟨hmonitor, hpresent, hlasting⟩ := h
  rcases hown with hstep | hstep | hstep
  · cases hstep with
    | guarded | taken | sent => exact ⟨by simp, hpresent, hlasting⟩
    | cleared found => exact ⟨by cases found <;> simp, hpresent, hlasting⟩
  · cases hstep with
    | woken => exact ⟨hmonitor, by simp, by simp⟩
    | elapsed => exact ⟨hmonitor, by simp, by simp⟩
    | orphaned _ _ _ hdead => exact absurd hdead hmonitor
    | drained => exact ⟨hmonitor, hpresent, hlasting⟩
    | call => exact ⟨hmonitor, by simp, by simp⟩
    | finished => exact ⟨hmonitor, by simp, by simp⟩
  · cases hstep with
    | worked | left => exact ⟨hmonitor, hpresent, hlasting⟩

/-- Every step of the loop takes it nearer. One of a request leaves the loop and shortens the line;
one of the monitor leaves both and uses up work of its own, or takes a token. -/
theorem Running.lower (h : Running s) (hown : Own M s s') : Lower (rank s') (rank s) := by
  rcases hown with hstep | hstep | hstep
  · cases hstep with
    | guarded hmonitor hready =>
        refine .right _ (.right _ (.left _ _ ?_))
        simp [monitorWork, hmonitor, hready]
    | taken hmonitor =>
        refine .right _ (.right _ (.left _ _ ?_))
        simp [monitorWork, hmonitor]
    | cleared found hmonitor =>
        refine .right _ (.right _ (.left _ _ ?_))
        cases found <;> simp [monitorWork, hmonitor]
    | sent hmonitor hroom =>
        refine .right _ (.right _ (.left _ _ ?_))
        simp [monitorWork, hmonitor]
  · cases hstep with
    | woken delay hloop hqueued =>
        refine .left _ _ ?_
        rw [hloop]
        exact .drains delay
    | elapsed delay hloop =>
        refine .left _ _ ?_
        rw [hloop]
        exact .drains delay
    | orphaned _ _ _ hdead => exact absurd hdead h.monitor
    | drained hloop hqueued =>
        exact .right _ (.right _ (.right _ (Nat.sub_lt hqueued Nat.one_pos)))
    | call op next w₁ w₂ r hloop =>
        refine .left _ _ ?_
        rw [hloop]
        exact .goesOn op next r
    | finished result hloop =>
        refine .left _ _ ?_
        rw [hloop]
        exact .waits _ result
  · cases hstep with
    | worked op next after w₁ w₂ r hholds hline =>
        refine .right _ (.left _ _ ?_)
        rw [hline]
        exact .works op next r after
    | left result after hholds hline =>
        refine .right _ (.left _ _ ?_)
        rw [hline]
        exact .leaves result after

theorem progress_of_line (hholds : s.holds = false) (hline : s.line ≠ [])
    (hmachine : ∀ w op, ∃ w₁ r w₂, M.env w w₁ ∧ M.step w₁ op r w₂) :
    ∃ s', Step M s .request s' := by
  cases hrequests : s.line with
  | nil => exact absurd hrequests hline
  | cons request after =>
      cases request with
      | pure result => exact ⟨_, .left s result after hholds hrequests⟩
      | call op next =>
          obtain ⟨w₁, r, w₂, henv, hstep⟩ := hmachine s.world op
          exact ⟨_, .worked s op next after w₁ w₂ r hholds hrequests henv hstep⟩

/-- A loop that runs can go on, or waits for a request that can. -/
theorem Running.progress (h : Running s) (htidy : Tidy s)
    (hmachine : ∀ w op, ∃ w₁ r w₂, M.env w w₁ ∧ M.step w₁ op r w₂) :
    ∃ s', Own M s s' ∨ Step M s .pass s' := by
  cases hloop : s.loop with
  | absent => exact absurd hloop h.present
  | ended => exact absurd hloop h.lasting
  | waiting delay => exact ⟨_, .inl (.inr (.inl (.elapsed s delay hloop)))⟩
  | draining =>
      by_cases hqueued : s.queued = 0
      · exact ⟨_, .inr (.started s hloop hqueued)⟩
      · exact ⟨_, .inl (.inr (.inl (.drained s hloop (Nat.pos_of_ne_zero hqueued))))⟩
  | reconciling rest =>
      cases rest with
      | pure result => exact ⟨_, .inl (.inr (.inl (.finished s result hloop)))⟩
      | call op next =>
          by_cases hwaits : op = .lock .operation ∧ s.line ≠ []
          · obtain ⟨rfl, hline⟩ := hwaits
            rw [Tidy, hloop] at htidy
            have hholds : s.holds = false := by
              obtain ⟨-, hholds, -⟩ | ⟨hop, -, -⟩ | ⟨hop, -, -⟩ := htidy
              · exact hholds
              · cases hop
              · exact absurd rfl hop
            obtain ⟨s', hstep⟩ := progress_of_line hholds hline hmachine
            exact ⟨s', .inl (.inr (.inr hstep))⟩
          · obtain ⟨w₁, r, w₂, henv, hstep⟩ := hmachine s.world op
            have hline : op = .lock .operation → s.line = [] := by
              intro hop
              by_contra hline
              exact hwaits ⟨hop, hline⟩
            exact ⟨_, .inl (.inr (.inl (.call s op next w₁ w₂ r hloop hline henv hstep)))⟩

/-- Steps of any task, in any order. -/
inductive Reaches (M : Machine Op Reply World) (s₀ : Events) : Events → Prop
  | refl : Reaches M s₀ s₀
  | step {s s' : Events} {activity : Activity} (h : Reaches M s₀ s)
      (hstep : Step M s activity s') : Reaches M s₀ s'

theorem Reaches.covered {s₀ : Events} (h : Reaches M s₀ s) (hs₀ : Covered s₀) : Covered s := by
  induction h with
  | refl => exact hs₀
  | step _ hstep ih => exact ih.step hstep

theorem Reaches.tidy {s₀ : Events} (h : Reaches M s₀ s) (hs₀ : Tidy s₀) : Tidy s := by
  induction h with
  | refl => exact hs₀
  | step _ hstep ih => exact ih.step hstep

def start (w : World) : Events := { world := w }

theorem covered_start (w : World) : Covered (start w) where
  news h := by cases h
  read h := by cases h

/-- Whatever the interleaving: when the socket is quiet, the channel empty and the loop at its
wait, a pass began after every event of a USB or PCI device; and while both tasks live they come
to another pass, however their steps fall and those of the requests in line for the operation lock,
if every other call is answered. -/
theorem events_lead_to_passes {w : World} (h : Reaches M (start w) s)
    (hmachine : ∀ w op, ∃ w₁ r w₂, M.env w w₁ ∧ M.step w₁ op r w₂) :
    (∀ delay, s.loop = .waiting delay → s.monitor = .waiting → s.ready = false → s.queued = 0 →
      s.uncovered = false) ∧
      (Running s →
        Inevitable (Own M) (fun s s' => Step M s .pass s' ∧ s'.uncovered = false) s) := by
  constructor
  · intro delay hloop hmonitor hready hqueued
    by_contra huncovered
    have hnews := (h.covered (covered_start w)).news (by simpa using huncovered)
    rcases hnews.of_quiet (by simp [hmonitor]) (by simp [hmonitor]) (by simp [hmonitor]) with
      ⟨hsocket, -⟩ | htoken | hdraining | hended
    · rw [hready] at hsocket
      cases hsocket
    · omega
    · rw [hloop] at hdraining
      cases hdraining
    · rw [hloop] at hended
      cases hended
  · intro hrunning
    refine inevitable_of_rank (I := fun s => Running s ∧ Tidy s) lower_wf (fun s hs => ?_)
      (fun s s' hs hown => ⟨hs.1.own hown, hs.2.own hown⟩) (fun s s' hs hown => hs.1.lower hown)
      ⟨hrunning, h.tidy rfl⟩
    obtain ⟨s', hown | hpass⟩ := hs.1.progress hs.2 hmachine
    · exact ⟨s', .inl hown⟩
    · refine ⟨s', .inr ⟨hpass, ?_⟩⟩
      cases hpass with
      | started => rfl

end Events

theorem machine_answers (w : World) (op : Op) :
    ∃ w₁ r w₂, (machine anyChoice).env w w₁ ∧ (machine anyChoice).step w₁ op r w₂ := by
  obtain ⟨r, w', hstep⟩ := machine_total w op
  exact ⟨w, r, w', rfl, hstep⟩

/-- The rest of a request that gives the operation lock back. -/
def leaving : Program Op Reply (Except Error Unit) :=
  .call (.unlock .operation) fun _ => .pure (.ok ())

/-- A device is plugged in while the loop waits and a request has the operation lock. -/
def pluggedIn : Events :=
  { world := { daemon := { config := {}, host := ⟨fun _ => none, fun _ => [], fun _ _ => none⟩ } }
    pending := [true]
    ready := true
    fresh := true
    loop := .waiting .retry
    line := [leaving]
    uncovered := true }

theorem reaches_pluggedIn : Events.Reaches (machine anyChoice) (.start pluggedIn.world) pluggedIn :=
  ((Events.Reaches.refl.step (.spawned _ .retry rfl)).step (.queued _ leaving)).step
    (.arrived _ true)

theorem events_lead_to_passes_pluggedIn : pluggedIn.uncovered = true ∧
    Inevitable (Events.Own (machine anyChoice))
      (fun s s' => Events.Step (machine anyChoice) s .pass s' ∧ s'.uncovered = false) pluggedIn := by
  have hrunning : Events.Running pluggedIn := ⟨by decide, Loop.noConfusion, Loop.noConfusion⟩
  exact ⟨rfl, (Events.events_lead_to_passes reaches_pluggedIn machine_answers).2 hrunning⟩

end GhafDeviceManager
