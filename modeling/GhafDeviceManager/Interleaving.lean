import GhafDeviceManager.Machine

/-!
# Interleavings of two programs

Two programs take turns at one world, call by call. What a party can tell from its own calls and
their replies is a `Machine` of its own, whose world is the party's view; the rule below puts the
views of the two together. A party proves its guarantee once, over its view and any replies that
view admits, and the invariant that ties both views to the world is checked one call at a time.
-/

namespace GhafDeviceManager

inductive Party
  | first
  | second
deriving DecidableEq

variable {Op : Type} {Reply : Op → Type} {World View View' Choice α β : Type}

/-- The calls of the two programs in some order, and what is left of each. The machines may treat
the parties differently. -/
inductive Interleaved (M : Party → Machine Op Reply World) :
    Program Op Reply α → Program Op Reply β → World → List (Party × World × Op) → World →
      Program Op Reply α → Program Op Reply β → Prop
  | stop (p : Program Op Reply α) (q : Program Op Reply β) (w : World) :
      Interleaved M p q w [] w p q
  | first {op : Op} {next : Reply op → Program Op Reply α} {q q' : Program Op Reply β}
      {p' : Program Op Reply α} {w w₁ w₂ w' : World} {r : Reply op}
      {tr : List (Party × World × Op)} (henv : (M .first).env w w₁)
      (hstep : (M .first).step w₁ op r w₂)
      (hrest : Interleaved M (next r) q w₂ tr w' p' q') :
      Interleaved M (.call op next) q w ((.first, w₁, op) :: tr) w' p' q'
  | second {op : Op} {next : Reply op → Program Op Reply β} {p p' : Program Op Reply α}
      {q' : Program Op Reply β} {w w₁ w₂ w' : World} {r : Reply op}
      {tr : List (Party × World × Op)} (henv : (M .second).env w w₁)
      (hstep : (M .second).step w₁ op r w₂)
      (hrest : Interleaved M p (next r) w₂ tr w' p' q') :
      Interleaved M p (.call op next) w ((.second, w₁, op) :: tr) w' p' q'

/-- The rule for two parties. `I` ties their views to the world; a call of either that its
guarantee and the condition `C` on the run admit is a step of its view and keeps the tie. -/
theorem Interleaved.sound {M : Party → Machine Op Reply World} {L : Machine Op Reply View}
    {L' : Machine Op Reply View'} {G : View → Op → Prop} {G' : View' → Op → Prop}
    {post : α → View → Prop} {post' : β → View' → Prop} {C : Party → World → Op → Prop}
    {I : View → View' → World → Prop} {p p' : Program Op Reply α} {q q' : Program Op Reply β}
    {w w' : World} {tr : List (Party × World × Op)} (h : Interleaved M p q w tr w' p' q')
    (hquiet : ∀ v, L.env v v) (hquiet' : ∀ v, L'.env v v)
    (henv : ∀ party v v' w w₁, (M party).env w w₁ → I v v' w → I v v' w₁)
    (hfirst : ∀ v v' w op r w₁, I v v' w → G v op → C .first w op →
      (M .first).step w op r w₁ → ∃ v₁, L.step v op r v₁ ∧ I v₁ v' w₁)
    (hsecond : ∀ v v' w op r w₁, I v v' w → G' v' op → C .second w op →
      (M .second).step w op r w₁ → ∃ v₁, L'.step v' op r v₁ ∧ I v v₁ w₁)
    (htr : ∀ e ∈ tr, C e.1 e.2.1 e.2.2) {v : View} {v' : View'} (hp : p.wp L G post v)
    (hq : q.wp L' G' post' v') (hI : I v v' w) :
    ∃ v₁ v₁', I v₁ v₁' w' ∧ p'.wp L G post v₁ ∧ q'.wp L' G' post' v₁' := by
  induction h generalizing v v' with
  | stop p q w => exact ⟨v, v', hI, hp, hq⟩
  | first hmove hstep _ ih =>
      obtain ⟨hcond, htr⟩ := List.forall_mem_cons.1 htr
      obtain ⟨hop, hnext⟩ := hp v (hquiet v)
      obtain ⟨v₁, hview, hI₁⟩ := hfirst _ _ _ _ _ _ (henv _ _ _ _ _ hmove hI) hop hcond hstep
      exact ih htr (hnext _ _ hview) hq hI₁
  | second hmove hstep _ ih =>
      obtain ⟨hcond, htr⟩ := List.forall_mem_cons.1 htr
      obtain ⟨hop, hnext⟩ := hq v' (hquiet' v')
      obtain ⟨v₁, hview, hI₁⟩ := hsecond _ _ _ _ _ _ (henv _ _ _ _ _ hmove hI) hop hcond hstep
      exact ih htr hp (hnext _ _ hview) hI₁

section Invariants

variable {M : Party → Machine Op Reply World} {p p' : Program Op Reply α}
  {q q' : Program Op Reply β} {w w' : World} {tr : List (Party × World × Op)} {I : World → Prop}

/-- What each call of the run keeps lasts to its end. -/
theorem Interleaved.keeps (h : Interleaved M p q w tr w' p' q')
    (henv : ∀ party w w', (M party).env w w' → I w → I w')
    (hstep : ∀ e ∈ tr, I e.2.1 → ∀ r w', (M e.1).step e.2.1 e.2.2 r w' → I w') (hw : I w) :
    I w' := by
  induction h with
  | stop p q w => exact hw
  | first hmove hanswer _ ih =>
      obtain ⟨hfirst, hrest⟩ := List.forall_mem_cons.1 hstep
      exact ih hrest (hfirst (henv _ _ _ hmove hw) _ _ hanswer)
  | second hmove hanswer _ ih =>
      obtain ⟨hfirst, hrest⟩ := List.forall_mem_cons.1 hstep
      exact ih hrest (hfirst (henv _ _ _ hmove hw) _ _ hanswer)

/-- What one call establishes and each later one keeps holds at the end. -/
theorem Interleaved.since {earlier later : List (Party × World × Op)} {e : Party × World × Op}
    (h : Interleaved M p q w (earlier ++ e :: later) w' p' q')
    (henv : ∀ party w w', (M party).env w w' → I w → I w')
    (hset : ∀ r w', (M e.1).step e.2.1 e.2.2 r w' → I w')
    (hstep : ∀ e ∈ later, I e.2.1 → ∀ r w', (M e.1).step e.2.1 e.2.2 r w' → I w') : I w' := by
  induction earlier generalizing p q w with
  | nil =>
      cases h with
      | first hmove hanswer hrest => exact hrest.keeps henv hstep (hset _ _ hanswer)
      | second hmove hanswer hrest => exact hrest.keeps henv hstep (hset _ _ hanswer)
  | cons x earlier ih =>
      cases h with
      | first hmove hanswer hrest => exact ih hrest
      | second hmove hanswer hrest => exact ih hrest

theorem Interleaved.append {w₁ w₂ : World} {p₁ : Program Op Reply α} {q₁ : Program Op Reply β}
    {tr' : List (Party × World × Op)} (h : Interleaved M p q w tr w₁ p₁ q₁)
    (hmove : ∀ party w', (M party).env w₂ w' → (M party).env w₁ w')
    (h' : Interleaved M p₁ q₁ w₂ tr' w' p' q') (hne : tr' ≠ []) :
    Interleaved M p q w (tr ++ tr') w' p' q' := by
  induction h with
  | stop p q w =>
      cases h' with
      | stop p q w => exact absurd rfl hne
      | first henv hstep hrest => exact .first (hmove _ _ henv) hstep hrest
      | second henv hstep hrest => exact .second (hmove _ _ henv) hstep hrest
  | first henv hstep _ ih => exact .first henv hstep (ih hmove h')
  | second henv hstep _ ih => exact .second henv hstep (ih hmove h')

end Invariants

/-! ## Views computed from the replies -/

/-- A view that each reply takes on, among the replies that `admits` admits. -/
def Machine.ofReplies (admits : (op : Op) → Reply op → Prop)
    (next : View → (op : Op) → Reply op → View) : Machine Op Reply View where
  env := Eq
  step v op r v' := admits op r ∧ v' = next v op r

section Replies

variable {admits : (op : Op) → Reply op → Prop} {next : View → (op : Op) → Reply op → View}
  {G : View → Op → Prop} {ε : Type}

theorem Fallible.wp_request_ofReplies (op : Op) (result : Reply op → Except ε α)
    (post : Except ε α → View → Prop) (v : View) :
    Fallible.wp (Machine.ofReplies admits next) G (Fallible.request op result) post v ↔
      G v op ∧ ∀ r, admits op r → post (result r) (next v op r) := by
  rw [Fallible.wp_request]
  constructor
  · intro h
    obtain ⟨hop, hpost⟩ := h v rfl
    exact ⟨hop, fun r hr => hpost r _ ⟨hr, rfl⟩⟩
  · rintro ⟨hop, hpost⟩ v₁ rfl
    refine ⟨hop, ?_⟩
    rintro r _ ⟨hr, rfl⟩
    exact hpost r hr

/-- The frame rule over views. -/
theorem Fallible.wp_of_calls_ofReplies {S : Op → Prop} {I : View → Prop}
    {p : Fallible Op Reply ε α} (hp : Fallible.Calls S p)
    (hS : ∀ op, S op → ∀ v, I v → G v op ∧ ∀ r, admits op r → I (next v op r)) {v : View}
    (hv : I v) : Fallible.wp (Machine.ofReplies admits next) G p (fun _ => I) v := by
  refine Fallible.wp_of_calls hp ?_ (fun op hop v₁ hv₁ => ⟨(hS op hop v₁ hv₁).1, ?_⟩) hv
  · rintro v₁ _ rfl h
    exact h
  · rintro r _ ⟨hr, rfl⟩
    exact (hS op hop v₁ hv₁).2 r hr

end Replies

/-! ## Schedules -/

def Program.value : Program Op Reply α → Option α
  | .pure a => some a
  | .call _ _ => none

theorem Program.eq_pure_of_value {p : Program Op Reply α} {a : α} (h : p.value = some a) :
    p = .pure a := by
  cases p with
  | pure b =>
      obtain rfl : b = a := Option.some.inj h
      rfl
  | call op next => cases h

section Schedule

variable (react : Party → World → (op : Op) → Choice → Reply op × World)
  (pick : Party → World → Op → Choice)

/-- Run two programs by a schedule, on the choices a strategy picks. A party that is through
skips its turns. -/
def interleave : List Party → Program Op Reply α → Program Op Reply β → World →
    List (Party × World × Op) × World × Program Op Reply α × Program Op Reply β
  | [], p, q, w => ([], w, p, q)
  | .first :: turns, .call op next, q, w =>
      let answer := react .first w op (pick .first w op)
      let rest := interleave turns (next answer.1) q answer.2
      ((.first, w, op) :: rest.1, rest.2)
  | .second :: turns, p, .call op next, w =>
      let answer := react .second w op (pick .second w op)
      let rest := interleave turns p (next answer.1) answer.2
      ((.second, w, op) :: rest.1, rest.2)
  | .first :: turns, .pure a, q, w => interleave turns (.pure a) q w
  | .second :: turns, p, .pure b, w => interleave turns p (.pure b) w

variable {react pick}

/-- A schedule is an interleaving of machines that admit its picks on the way, with surroundings
that may as well stay. -/
theorem interleave_interleaved {env : World → World → Prop}
    {allowed : Party → World → Op → Choice → Prop} (turns : List Party)
    (p : Program Op Reply α) (q : Program Op Reply β) (w : World)
    (hstay : ∀ e ∈ (interleave react pick turns p q w).1, env e.2.1 e.2.1)
    (hallowed : ∀ e ∈ (interleave react pick turns p q w).1,
      allowed e.1 e.2.1 e.2.2 (pick e.1 e.2.1 e.2.2)) :
    Interleaved (fun party => Machine.among env (react party) (allowed party)) p q w
      (interleave react pick turns p q w).1 (interleave react pick turns p q w).2.1
      (interleave react pick turns p q w).2.2.1 (interleave react pick turns p q w).2.2.2 := by
  fun_induction interleave react pick turns p q w with
  | case1 p q w => exact .stop p q w
  | case2 q w turns op next answer rest ih =>
      obtain ⟨hfree, hstay⟩ := List.forall_mem_cons.1 hstay
      obtain ⟨hop, hallowed⟩ := List.forall_mem_cons.1 hallowed
      exact .first hfree ⟨_, hop, rfl⟩ (ih hstay hallowed)
  | case3 p w turns op next answer rest ih =>
      obtain ⟨hfree, hstay⟩ := List.forall_mem_cons.1 hstay
      obtain ⟨hop, hallowed⟩ := List.forall_mem_cons.1 hallowed
      exact .second hfree ⟨_, hop, rfl⟩ (ih hstay hallowed)
  | case4 q w turns a ih => exact ih hstay hallowed
  | case5 p w turns b ih => exact ih hstay hallowed

end Schedule

end GhafDeviceManager
