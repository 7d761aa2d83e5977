import GhafDeviceManager.Machine

/-!
# Tasks that take turns under a lock

Any number of tasks run side by side, call by call and in any order. One operation takes a lock,
which has to be free for it, and another gives it back. Where each task does all it does in one
turn with the lock, the tasks are as good as run one after the other, in the order in which they
gave it back.
-/

namespace GhafDeviceManager

variable {Op : Type} {Reply : Op → Type} {World α β : Type}

namespace Program

/-- The rest of a turn: the lock is given back at its very end, and not touched before. -/
def Inside (lock unlock : Op) : Program Op Reply α → Prop
  | .pure _ => False
  | .call op next =>
    op = unlock ∧ (∀ r, ∃ a, next r = .pure a) ∨
      op ≠ unlock ∧ op ≠ lock ∧ ∀ r, Inside lock unlock (next r)

/-- All of the program is one turn. -/
def Guarded (lock unlock : Op) (p : Program Op Reply α) : Prop :=
  ∃ next, p = .call lock next ∧ ∀ r, (next r).Inside lock unlock

variable {lock unlock : Op}

theorem inside_bind {S : Op → Prop} (hlock : ¬ S lock) (hunlock : ¬ S unlock)
    {p : Program Op Reply α} {f : α → Program Op Reply β} (hp : p.Calls S)
    (hf : ∀ a, (f a).Inside lock unlock) : (p >>= f).Inside lock unlock := by
  induction p with
  | pure a => exact hf a
  | call op next ih =>
      have hop : op ≠ unlock ∧ op ≠ lock := by
        constructor
        · rintro rfl
          exact hunlock hp.1
        · rintro rfl
          exact hlock hp.1
      exact .inr ⟨hop.1, hop.2, fun r => ih r (hp.2 r)⟩

theorem Inside.map {p : Program Op Reply α} {f : α → β} (h : p.Inside lock unlock) :
    (p >>= fun a => .pure (f a)).Inside lock unlock := by
  induction p with
  | pure a => exact h.elim
  | call op next ih =>
      obtain ⟨hop, hnext⟩ | ⟨hunlock, hlock, hnext⟩ := h
      · refine .inl ⟨hop, fun r => ?_⟩
        obtain ⟨a, ha⟩ := hnext r
        exact ⟨f a, congrArg (fun p => p >>= fun a => Program.pure (f a)) ha⟩
      · exact .inr ⟨hunlock, hlock, fun r => ih r (hnext r)⟩

theorem Guarded.map {p : Program Op Reply α} {f : α → β} (h : p.Guarded lock unlock) :
    (p >>= fun a => .pure (f a)).Guarded lock unlock := by
  obtain ⟨next, rfl, hnext⟩ := h
  exact ⟨_, call_bind lock next _, fun r => (hnext r).map⟩

/-- Turns one after the other: the lock is asked for only by who does not have it, which `held` is
about, and given back before the end. -/
def Paired (lock unlock : Op) : Program Op Reply α → Bool → Prop
  | .pure _, held => held = false
  | .call op next, held =>
    op = lock ∧ held = false ∧ (∀ r, Paired lock unlock (next r) true) ∨
      op = unlock ∧ held = true ∧ (∀ r, Paired lock unlock (next r) false) ∨
      op ≠ lock ∧ op ≠ unlock ∧ ∀ r, Paired lock unlock (next r) held

theorem Inside.paired {p : Program Op Reply α} (h : p.Inside lock unlock) :
    p.Paired lock unlock true := by
  induction p with
  | pure a => exact h.elim
  | call op next ih =>
      obtain ⟨hop, hnext⟩ | ⟨hunlock, hlock, hnext⟩ := h
      · refine .inr (.inl ⟨hop, rfl, fun r => ?_⟩)
        obtain ⟨a, ha⟩ := hnext r
        rw [ha]
        rfl
      · exact .inr (.inr ⟨hlock, hunlock, fun r => ih r (hnext r)⟩)

theorem Guarded.paired {p : Program Op Reply α} (h : p.Guarded lock unlock) :
    p.Paired lock unlock false := by
  obtain ⟨next, rfl, hnext⟩ := h
  exact .inl ⟨rfl, rfl, fun r => (hnext r).paired⟩

theorem paired_of_calls {S : Op → Prop} (hlock : ¬ S lock) (hunlock : ¬ S unlock)
    {p : Program Op Reply α} (hp : p.Calls S) : p.Paired lock unlock false := by
  induction p with
  | pure a => rfl
  | call op next ih =>
      refine .inr (.inr ⟨?_, ?_, fun r => ih r (hp.2 r)⟩)
      · rintro rfl
        exact hlock hp.1
      · rintro rfl
        exact hunlock hp.1

theorem Paired.bind {p : Program Op Reply α} {f : α → Program Op Reply β} {held : Bool}
    (hp : p.Paired lock unlock held) (hf : ∀ a, (f a).Paired lock unlock false) :
    (p >>= f).Paired lock unlock held := by
  induction p generalizing held with
  | pure a =>
      rw [show held = false from hp]
      exact hf a
  | call op next ih =>
      obtain ⟨hop, hheld, hnext⟩ | ⟨hop, hheld, hnext⟩ | ⟨hlock, hunlock, hnext⟩ := hp
      · exact .inl ⟨hop, hheld, fun r => ih r (hnext r)⟩
      · exact .inr (.inl ⟨hop, hheld, fun r => ih r (hnext r)⟩)
      · exact .inr (.inr ⟨hlock, hunlock, fun r => ih r (hnext r)⟩)

end Program

namespace Fallible

variable {ε : Type} {lock unlock : Op}

theorem paired_bind {p : Fallible Op Reply ε α} {f : α → Fallible Op Reply ε β}
    (hp : p.run.Paired lock unlock false) (hf : ∀ a, (f a).run.Paired lock unlock false) :
    (p >>= f).run.Paired lock unlock false := by
  refine Program.Paired.bind hp fun r => ?_
  cases r with
  | ok a => exact hf a
  | error e => rfl

theorem paired_attempt {p : Fallible Op Reply ε α} (hp : p.run.Paired lock unlock false) :
    (attempt p).run.Paired lock unlock false :=
  Program.Paired.bind hp fun _ => rfl

end Fallible

/-- Inside a turn a failure may be caught. -/
theorem Fallible.inside_attempt {ε : Type} {S : Op → Prop} {lock unlock : Op} (hlock : ¬ S lock)
    (hunlock : ¬ S unlock) {p : Fallible Op Reply ε α}
    {f : Except ε α → Fallible Op Reply ε β} (hp : Fallible.Calls S p)
    (hf : ∀ r, (f r).run.Inside lock unlock) :
    (Fallible.attempt p >>= f).run.Inside lock unlock := by
  have heq : (Fallible.attempt p >>= f).run = p.run >>= fun r => (f r).run :=
    Program.bind_assoc p.run
      (fun r => (.pure (.ok r) : Program Op Reply (Except ε (Except ε α)))) _
  rw [heq]
  exact Program.inside_bind hlock hunlock hp hf

/-- The tasks, by what each was asked for and what is left of it, and who has the lock. -/
structure Pool (ι Q Op : Type) (Reply : Op → Type) (α World : Type) where
  world : World
  holder : Option ι := none
  tasks : ι → Option (Q × Program Op Reply α) := fun _ => none
  /-- Who gave the lock back, in order. -/
  served : List ι := []

/-- From `w₀` the programs of these requests run one after the other and return these values. -/
inductive Serially {Q : Type} (M : Machine Op Reply World) (prog : Q → Program Op Reply α)
    (w₀ : World) : List (Q × α) → World → Prop
  | nil : Serially M prog w₀ [] w₀
  | snoc {done : List (Q × α)} {w w' : World} {q : Q} {tr : List (World × Op)} {a : α}
      (h : Serially M prog w₀ done w) (hexec : Exec M (prog q) w tr w' (some a)) :
      Serially M prog w₀ (done ++ [(q, a)]) w'

namespace Pool

variable {ι Q : Type}

def outcome (s : Pool ι Q Op Reply α World) (i : ι) : Option (Q × α) :=
  match s.tasks i with
  | some (q, .pure a) => some (q, a)
  | _ => none

/-- The tasks that gave the lock back ran one after the other up to `w`. -/
def Settled (M : Machine Op Reply World) (prog : Q → Program Op Reply α) (w₀ : World)
    (s : Pool ι Q Op Reply α World) (w : World) : Prop :=
  ∃ done, s.served.map s.outcome = done.map some ∧ Serially M prog w₀ done w

/-- `now` is what an execution of `p` from `w` has left in `w'`. -/
def Within (M : Machine Op Reply World) (p : Program Op Reply α) (w : World)
    (now : Program Op Reply α) (w' : World) : Prop :=
  ∀ tr w'' o, Exec M now w' tr w'' o → ∃ tr', Exec M p w tr' w'' o

/-- The world is as the served tasks left it, or the one that has the lock is on its way. -/
inductive Turn (M : Machine Op Reply World) (lock unlock : Op) (prog : Q → Program Op Reply α)
    (w₀ : World) (s : Pool ι Q Op Reply α World) : Prop
  | free (hfree : s.holder = none) (h : Settled M prog w₀ s s.world)
  | busy {i : ι} {q : Q} {now : Program Op Reply α} {w : World} (hholder : s.holder = some i)
      (hi : s.tasks i = some (q, now)) (hnew : i ∉ s.served) (hinside : now.Inside lock unlock)
      (h : Settled M prog w₀ s w) (hwithin : Within M (prog q) w now s.world)

structure Serial (M : Machine Op Reply World) (lock unlock : Op) (prog : Q → Program Op Reply α)
    (w₀ : World) (s : Pool ι Q Op Reply α World) : Prop where
  turn : Turn M lock unlock prog w₀ s
  others : ∀ i q now, s.tasks i = some (q, now) → s.holder ≠ some i →
    now = prog q ∧ i ∉ s.served ∨ (∃ a, now = .pure a) ∧ i ∈ s.served
  unseen : ∀ i, s.tasks i = none → i ∉ s.served
  once : s.served.Nodup

section Standing

variable {M : Machine Op Reply World} {lock unlock : Op} {prog : Q → Program Op Reply α}
  {w₀ w : World} {s s' : Pool ι Q Op Reply α World} {i : ι} {q : Q} {now : Program Op Reply α}

theorem outcome_of_tasks (h : s'.tasks i = s.tasks i) : s'.outcome i = s.outcome i := by
  rw [outcome, outcome, h]

theorem Within.call {p : Program Op Reply α} {op : Op} {next : Reply op → Program Op Reply α}
    {w₁ w₂ w' : World} {r : Reply op} (h : Within M p w (.call op next) w')
    (henv : M.env w' w₁) (hstep : M.step w₁ op r w₂) : Within M p w (next r) w₂ :=
  fun _ _ _ hexec => h _ _ _ (.call henv hstep hexec)

theorem Serial.waiting {op : Op} {next : Reply op → Program Op Reply α}
    (h : Serial M lock unlock prog w₀ s) (hi : s.tasks i = some (q, .call op next))
    (hholder : s.holder ≠ some i) : .call op next = prog q ∧ i ∉ s.served := by
  obtain hstart | ⟨⟨a, ha⟩, -⟩ := h.others i q _ hi hholder
  · exact hstart
  · cases ha

theorem Serial.holds {op : Op} {next : Reply op → Program Op Reply α}
    (h : Serial M lock unlock prog w₀ s) (hprog : ∀ q, (prog q).Guarded lock unlock)
    (hi : s.tasks i = some (q, .call op next)) (hop : op ≠ lock) : s.holder = some i := by
  by_contra hholder
  obtain ⟨hstart, -⟩ := h.waiting hi hholder
  obtain ⟨first, hfirst, -⟩ := hprog q
  exact hop (Program.call.inj (hstart.trans hfirst)).1

theorem Serial.busy (h : Serial M lock unlock prog w₀ s) (hholder : s.holder = some i)
    (hi : s.tasks i = some (q, now)) : i ∉ s.served ∧ now.Inside lock unlock ∧
      ∃ w, Settled M prog w₀ s w ∧ Within M (prog q) w now s.world := by
  cases h.turn with
  | free hfree _ =>
      rw [hfree] at hholder
      cases hholder
  | busy hj hj' hnew hinside hsettled hwithin =>
      obtain rfl := Option.some.inj (hj.symm.trans hholder)
      obtain ⟨rfl, rfl⟩ := Prod.mk.inj (Option.some.inj (hj'.symm.trans hi))
      exact ⟨hnew, hinside, _, hsettled, hwithin⟩

theorem Serial.outcome_isSome (h : Serial M lock unlock prog w₀ s)
    (hprog : ∀ q, (prog q).Guarded lock unlock) (i : ι) :
    (s.outcome i).isSome = true ↔ i ∈ s.served := by
  cases hi : s.tasks i with
  | none => simpa [outcome, hi] using h.unseen i hi
  | some task =>
      obtain ⟨q, now⟩ := task
      cases now with
      | pure a =>
          have hserved : i ∈ s.served := by
            by_cases hholder : s.holder = some i
            · exact (h.busy hholder hi).2.1.elim
            · obtain ⟨hstart, -⟩ | ⟨-, hserved⟩ := h.others i q _ hi hholder
              · obtain ⟨first, hfirst, -⟩ := hprog q
                cases hstart.trans hfirst
              · exact hserved
          simpa [outcome, hi] using hserved
      | call op next =>
          have hnew : i ∉ s.served := by
            by_cases hholder : s.holder = some i
            · exact (h.busy hholder hi).1
            · exact (h.waiting hi hholder).2
          simpa [outcome, hi] using hnew

/-- Side by side is as good as one after the other. -/
theorem Serial.in_turn (h : Serial M lock unlock prog w₀ s) :
    ∃ done w, s.served.map s.outcome = done.map some ∧ Serially M prog w₀ done w ∧
      (s.holder = none ∧ s.world = w ∨ ∃ i q now tr, s.holder = some i ∧
        s.tasks i = some (q, now) ∧ Exec M (prog q) w tr s.world none) := by
  cases h.turn with
  | free hfree hsettled =>
      obtain ⟨done, houtcomes, hserially⟩ := hsettled
      exact ⟨done, s.world, houtcomes, hserially, .inl ⟨hfree, rfl⟩⟩
  | busy hholder hi _ _ hsettled hwithin =>
      obtain ⟨done, houtcomes, hserially⟩ := hsettled
      obtain ⟨tr, hexec⟩ := hwithin _ _ _ (.stop _ _)
      exact ⟨done, _, houtcomes, hserially, .inr ⟨_, _, _, tr, hholder, hi, hexec⟩⟩

end Standing

/-! ## Steps -/

variable [DecidableEq ι]

def goOn (s : Pool ι Q Op Reply α World) (i : ι) (q : Q) (next : Program Op Reply α) :
    ι → Option (Q × Program Op Reply α) :=
  Function.update s.tasks i (some (q, next))

inductive Step (M : Machine Op Reply World) (lock unlock : Op) (prog : Q → Program Op Reply α)
    (s : Pool ι Q Op Reply α World) : Pool ι Q Op Reply α World → Prop
  | arrive {i : ι} (q : Q) (hi : s.tasks i = none) :
      Step M lock unlock prog s { s with tasks := s.goOn i q (prog q) }
  | take {i : ι} {q : Q} {next : Reply lock → Program Op Reply α} {w₁ w₂ : World}
      {r : Reply lock} (hi : s.tasks i = some (q, .call lock next)) (hfree : s.holder = none)
      (henv : M.env s.world w₁) (hstep : M.step w₁ lock r w₂) :
      Step M lock unlock prog s
        { s with world := w₂, holder := some i, tasks := s.goOn i q (next r) }
  | work {i : ι} {q : Q} {op : Op} {next : Reply op → Program Op Reply α} {w₁ w₂ : World}
      {r : Reply op} (hi : s.tasks i = some (q, .call op next)) (hlock : op ≠ lock)
      (hunlock : op ≠ unlock) (henv : M.env s.world w₁) (hstep : M.step w₁ op r w₂) :
      Step M lock unlock prog s { s with world := w₂, tasks := s.goOn i q (next r) }
  | leave {i : ι} {q : Q} {next : Reply unlock → Program Op Reply α} {w₁ w₂ : World}
      {r : Reply unlock} (hi : s.tasks i = some (q, .call unlock next))
      (henv : M.env s.world w₁) (hstep : M.step w₁ unlock r w₂) :
      Step M lock unlock prog s
        { world := w₂, tasks := s.goOn i q (next r), served := s.served ++ [i] }

def Runs (M : Machine Op Reply World) (lock unlock : Op) (prog : Q → Program Op Reply α) :
    Pool ι Q Op Reply α World → Pool ι Q Op Reply α World → Prop :=
  Relation.ReflTransGen (Step M lock unlock prog)

section Steps

variable {M : Machine Op Reply World} {lock unlock : Op} {prog : Q → Program Op Reply α}
  {w₀ w : World} {s s' : Pool ι Q Op Reply α World} {i j : ι} {q : Q}
  {now next : Program Op Reply α}

theorem goOn_self : s.goOn i q next i = some (q, next) :=
  Function.update_self ..

theorem goOn_ne (h : j ≠ i) : s.goOn i q next j = s.tasks j :=
  Function.update_of_ne h ..

theorem goOn_none (h : s.goOn i q next j = none) : j ≠ i ∧ s.tasks j = none := by
  have hne : j ≠ i := by
    rintro rfl
    rw [goOn_self] at h
    cases h
  exact ⟨hne, (goOn_ne hne).symm.trans h⟩

/-- Those that gave the lock back are left alone by a task that did not. -/
theorem outcome_goOn (htasks : s'.tasks = s.goOn i q next) (hi : i ∉ s.served) :
    ∀ j ∈ s.served, s'.outcome j = s.outcome j := by
  intro j hj
  apply outcome_of_tasks
  rw [htasks]
  apply goOn_ne
  rintro rfl
  exact hi hj

theorem Settled.goOn {w' : World} {holder : Option ι} (h : Settled M prog w₀ s w)
    (hi : i ∉ s.served) : Settled M prog w₀
      { s with world := w', holder := holder, tasks := s.goOn i q next } w := by
  obtain ⟨done, houtcomes, hserially⟩ := h
  refine ⟨done, ?_, hserially⟩
  rw [← houtcomes]
  exact List.map_congr_left (outcome_goOn rfl hi)

/-- The task that gives the lock back is the next of those that did. -/
theorem Settled.leave {w₁ w₂ : World} {a : α} {tr : List (World × Op)}
    (h : Settled M prog w₀ s w₁) (hi : i ∉ s.served)
    (hexec : Exec M (prog q) w₁ tr w₂ (some a)) :
    Settled M prog w₀
      { world := w₂, tasks := s.goOn i q (.pure a), served := s.served ++ [i] } w₂ := by
  obtain ⟨done, houtcomes, hserially⟩ := h
  refine ⟨done ++ [(q, a)], ?_, hserially.snoc hexec⟩
  rw [List.map_append, List.map_append, ← houtcomes]
  let s' : Pool ι Q Op Reply α World := { world := w₂, tasks := s.goOn i q (.pure a) }
  have hothers : ∀ j ∈ s.served, s'.outcome j = s.outcome j := outcome_goOn rfl hi
  refine congrArg₂ (· ++ ·) (List.map_congr_left hothers) ?_
  simp [outcome, goOn_self]

theorem Serial.arrive (h : Serial M lock unlock prog w₀ s) (hi : s.tasks i = none) :
    Serial M lock unlock prog w₀ { s with tasks := s.goOn i q (prog q) } := by
  have hnew := h.unseen i hi
  refine ⟨?_, fun j p now hj hholder => ?_, fun j hj => ?_, h.once⟩
  · cases h.turn with
    | free hfree hsettled => exact .free hfree (hsettled.goOn hnew)
    | busy hholder hj hother hinside hsettled hwithin =>
        refine .busy hholder ((goOn_ne ?_).trans hj) hother hinside (hsettled.goOn hnew)
          hwithin
        rintro rfl
        rw [hi] at hj
        cases hj
  · by_cases hsame : j = i
    · subst hsame
      obtain ⟨rfl, rfl⟩ := Prod.mk.inj (Option.some.inj (goOn_self.symm.trans hj))
      exact .inl ⟨rfl, hnew⟩
    · exact h.others j p now ((goOn_ne hsame).symm.trans hj) hholder
  · apply h.unseen
    by_cases hsame : j = i
    · rw [hsame]
      exact hi
    · exact (goOn_ne hsame).symm.trans hj

theorem Serial.take {next : Reply lock → Program Op Reply α} {w₁ w₂ : World} {r : Reply lock}
    (h : Serial M lock unlock prog w₀ s) (hprog : ∀ q, (prog q).Guarded lock unlock)
    (hi : s.tasks i = some (q, .call lock next)) (hfree : s.holder = none)
    (henv : M.env s.world w₁) (hstep : M.step w₁ lock r w₂) :
    Serial M lock unlock prog w₀
      { s with world := w₂, holder := some i, tasks := s.goOn i q (next r) } := by
  obtain ⟨hstart, hnew⟩ := h.waiting hi (by simp [hfree])
  have hinside : (next r).Inside lock unlock := by
    obtain ⟨first, hfirst, hrest⟩ := hprog q
    obtain ⟨-, heq⟩ := Program.call.inj (hstart.trans hfirst)
    rw [eq_of_heq heq]
    exact hrest r
  have hwithin : Within M (prog q) s.world (next r) w₂ := by
    intro tr w'' o hexec
    rw [← hstart]
    exact ⟨_, .call henv hstep hexec⟩
  refine ⟨?_, fun j p now hj hholder => ?_, fun j hj => ?_, h.once⟩
  · cases h.turn with
    | free _ hsettled =>
        exact .busy rfl goOn_self hnew hinside (hsettled.goOn hnew) hwithin
    | busy hholder _ _ _ _ _ =>
        rw [hfree] at hholder
        cases hholder
  · by_cases hsame : j = i
    · exact absurd (congrArg some hsame.symm) hholder
    · exact h.others j p now ((goOn_ne hsame).symm.trans hj) (by simp [hfree])
  · exact h.unseen j (goOn_none hj).2

theorem Serial.work {op : Op} {next : Reply op → Program Op Reply α} {w₁ w₂ : World}
    {r : Reply op} (h : Serial M lock unlock prog w₀ s)
    (hprog : ∀ q, (prog q).Guarded lock unlock) (hi : s.tasks i = some (q, .call op next))
    (hlock : op ≠ lock) (hunlock : op ≠ unlock) (henv : M.env s.world w₁)
    (hstep : M.step w₁ op r w₂) :
    Serial M lock unlock prog w₀ { s with world := w₂, tasks := s.goOn i q (next r) } := by
  have hholder := h.holds hprog hi hlock
  obtain ⟨hnew, hinside, w, hsettled, hwithin⟩ := h.busy hholder hi
  obtain ⟨hop, -⟩ | ⟨-, -, hrest⟩ := hinside
  · exact absurd hop hunlock
  · refine ⟨?_, fun j p now hj hother => ?_, fun j hj => ?_, h.once⟩
    · exact .busy hholder goOn_self hnew (hrest r) (hsettled.goOn hnew)
        (hwithin.call henv hstep)
    · by_cases hsame : j = i
      · subst hsame
        exact absurd hholder hother
      · exact h.others j p now ((goOn_ne hsame).symm.trans hj) hother
    · exact h.unseen j (goOn_none hj).2

theorem Serial.leave {next : Reply unlock → Program Op Reply α} {w₁ w₂ : World}
    {r : Reply unlock} (h : Serial M lock unlock prog w₀ s) (hne : lock ≠ unlock)
    (hprog : ∀ q, (prog q).Guarded lock unlock) (hi : s.tasks i = some (q, .call unlock next))
    (henv : M.env s.world w₁) (hstep : M.step w₁ unlock r w₂) :
    Serial M lock unlock prog w₀
      { world := w₂, tasks := s.goOn i q (next r), served := s.served ++ [i] } := by
  have hholder := h.holds hprog hi hne.symm
  obtain ⟨hnew, hinside, w, hsettled, hwithin⟩ := h.busy hholder hi
  obtain ⟨-, hlast⟩ | ⟨hop, -⟩ := hinside
  · obtain ⟨a, ha⟩ := hlast r
    rw [ha]
    have hdone : Exec M (next r) w₂ [] w₂ (some a) := by
      rw [ha]
      exact .done a w₂
    obtain ⟨tr, hexec⟩ := hwithin _ _ _ (.call henv hstep hdone)
    refine ⟨.free rfl (hsettled.leave hnew hexec), fun j p now hj _ => ?_, fun j hj => ?_, ?_⟩
    · by_cases hsame : j = i
      · subst hsame
        obtain ⟨-, rfl⟩ := Prod.mk.inj (Option.some.inj (goOn_self.symm.trans hj))
        exact .inr ⟨⟨a, rfl⟩, by simp⟩
      · have hother : s.holder ≠ some j := by
          rw [hholder]
          exact fun heq => hsame (Option.some.inj heq).symm
        have hj' := h.others j p now ((goOn_ne hsame).symm.trans hj) hother
        simpa [hsame] using hj'
    · obtain ⟨hsame, hnone⟩ := goOn_none hj
      simpa [hsame] using h.unseen j hnone
    · exact h.once.append (List.nodup_singleton i) (by simpa using hnew)
  · exact absurd rfl hop

theorem Serial.step (hne : lock ≠ unlock) (hprog : ∀ q, (prog q).Guarded lock unlock)
    (h : Serial M lock unlock prog w₀ s) (hstep : Step M lock unlock prog s s') :
    Serial M lock unlock prog w₀ s' := by
  cases hstep with
  | arrive q hi => exact h.arrive hi
  | take hi hfree henv hcall => exact h.take hprog hi hfree henv hcall
  | work hi hlock hunlock henv hcall => exact h.work hprog hi hlock hunlock henv hcall
  | leave hi henv hcall => exact h.leave hne hprog hi henv hcall

theorem serial_of_runs (hne : lock ≠ unlock) (hprog : ∀ q, (prog q).Guarded lock unlock)
    (h : Runs M lock unlock prog { world := w₀ } s) : Serial M lock unlock prog w₀ s := by
  induction h with
  | refl =>
      refine ⟨.free rfl ⟨[], rfl, .nil⟩, fun i q now hi _ => ?_, fun i _ => ?_, List.nodup_nil⟩
      · cases hi
      · exact List.not_mem_nil
  | tail _ hstep ih => exact ih.step hne hprog hstep

theorem Serial.step_served (h : Serial M lock unlock prog w₀ s) (hne : lock ≠ unlock)
    (hprog : ∀ q, (prog q).Guarded lock unlock) (hstep : Step M lock unlock prog s s') :
    s.served <+: s'.served ∧ ∀ i ∈ s.served, s'.outcome i = s.outcome i := by
  cases hstep with
  | arrive q hi => exact ⟨List.prefix_rfl, outcome_goOn rfl (h.unseen _ hi)⟩
  | take hi hfree _ _ =>
      exact ⟨List.prefix_rfl, outcome_goOn rfl (h.waiting hi (by simp [hfree])).2⟩
  | work hi hlock hunlock _ _ =>
      exact ⟨List.prefix_rfl, outcome_goOn rfl (h.busy (h.holds hprog hi hlock) hi).1⟩
  | leave hi _ _ =>
      exact ⟨List.prefix_append _ _, outcome_goOn rfl (h.busy (h.holds hprog hi hne.symm) hi).1⟩

theorem Serial.runs_served (h : Serial M lock unlock prog w₀ s) (hne : lock ≠ unlock)
    (hprog : ∀ q, (prog q).Guarded lock unlock) (hruns : Runs M lock unlock prog s s') :
    s.served <+: s'.served ∧ ∀ i ∈ s.served, s'.outcome i = s.outcome i := by
  have hlater : Serial M lock unlock prog w₀ s' ∧ s.served <+: s'.served ∧
      ∀ i ∈ s.served, s'.outcome i = s.outcome i := by
    induction hruns with
    | refl => exact ⟨h, List.prefix_rfl, fun _ _ => rfl⟩
    | tail _ hstep ih =>
        obtain ⟨hserial, hserved, houtcome⟩ := ih
        obtain ⟨hgrown, hkept⟩ := hserial.step_served hne hprog hstep
        refine ⟨hserial.step hne hprog hstep, hserved.trans hgrown, fun i hi => ?_⟩
        exact (hkept i (hserved.subset hi)).trans (houtcome i hi)
  exact hlater.2

end Steps

end Pool

end GhafDeviceManager
