import GhafDeviceManager.Program

/-!
# Machines that answer programs, and a safety calculus

A `Machine` says how a world answers an operation and what its surroundings may do just before.
`Exec` is the resulting semantics with the calls made so far as a trace; an execution may stop
anywhere, so a crash in the middle of a program is an execution too. `Program.wp` is the matching
precondition: every call satisfies the guarantee `G` at the moment it is issued and every result
satisfies the postcondition.
-/

namespace GhafDeviceManager

structure Machine (Op : Type) (Reply : Op → Type) (World : Type) where
  /-- What the surroundings may do between two operations. -/
  env : World → World → Prop
  /-- How an operation may be answered. -/
  step : World → (op : Op) → Reply op → World → Prop

variable {Op : Type} {Reply : Op → Type} {World Choice α β σ ε : Type}

/-- Executions with their trace of calls; `none` marks one that stopped before its end. -/
inductive Exec (M : Machine Op Reply World) :
    Program Op Reply α → World → List (World × Op) → World → Option α → Prop
  | done (a : α) (w : World) : Exec M (.pure a) w [] w (some a)
  | stop (p : Program Op Reply α) (w : World) : Exec M p w [] w none
  | call {op : Op} {next : Reply op → Program Op Reply α} {w w₁ w₂ w' : World} {r : Reply op}
      {tr : List (World × Op)} {o : Option α} (henv : M.env w w₁) (hstep : M.step w₁ op r w₂)
      (hrest : Exec M (next r) w₂ tr w' o) :
      Exec M (.call op next) w ((w₁, op) :: tr) w' o

/-- An execution of two halves is one of the first, or that and one of the second. -/
theorem Exec.bind_inv {M : Machine Op Reply World} {p : Program Op Reply α}
    {f : α → Program Op Reply β} {w w' : World} {tr : List (World × Op)} {o : Option β}
    (h : Exec M (p >>= f) w tr w' o) : (o = none ∧ Exec M p w tr w' none) ∨
      ∃ tr₁ tr₂ w₁ a, Exec M p w tr₁ w₁ (some a) ∧ Exec M (f a) w₁ tr₂ w' o ∧ tr = tr₁ ++ tr₂ := by
  induction p generalizing w tr with
  | pure a => exact .inr ⟨[], tr, w, a, .done a w, h, rfl⟩
  | call op next ih =>
      rw [Program.call_bind] at h
      cases h with
      | stop _ _ => exact .inl ⟨rfl, .stop _ _⟩
      | call henv hstep hrest =>
          obtain ⟨ho, hfirst⟩ | ⟨tr₁, tr₂, w₁, a, hfirst, hsecond, heq⟩ := ih _ hrest
          · exact .inl ⟨ho, .call henv hstep hfirst⟩
          · subst heq
            exact .inr ⟨_, tr₂, w₁, a, .call henv hstep hfirst, hsecond, rfl⟩

theorem Exec.bind {M : Machine Op Reply World} {p : Program Op Reply α}
    {f : α → Program Op Reply β} {w w₁ w' : World} {tr tr' : List (World × Op)} {a : α}
    {o : Option β} (h : Exec M p w tr w₁ (some a)) (h' : Exec M (f a) w₁ tr' w' o) :
    Exec M (p >>= f) w (tr ++ tr') w' o := by
  generalize hend : (some a : Option α) = end' at h
  induction h with
  | done b w =>
      obtain rfl := Option.some.inj hend
      exact h'
  | stop p w => cases hend
  | call henv hstep _ ih => exact .call henv hstep (ih h' hend)

/-- What an execution calls lies in the program's footprint. -/
theorem Exec.calls {M : Machine Op Reply World} {S : Op → Prop} {p : Program Op Reply α}
    {w w' : World} {tr : List (World × Op)} {o : Option α} (h : Exec M p w tr w' o)
    (hp : p.Calls S) : ∀ e ∈ tr, S e.2 := by
  induction h with
  | done a w => simp
  | stop p w => simp
  | call henv hstep _ ih => exact List.forall_mem_cons.2 ⟨hp.1, ih (hp.2 _)⟩

theorem Exec.mono {M M' : Machine Op Reply World} (henv : ∀ w w', M.env w w' → M'.env w w')
    (hstep : ∀ w op r w', M.step w op r w' → M'.step w op r w') {p : Program Op Reply α}
    {w w' : World} {tr : List (World × Op)} {o : Option α} (h : Exec M p w tr w' o) :
    Exec M' p w tr w' o := by
  induction h with
  | done a w => exact .done a w
  | stop p w => exact .stop p w
  | call hmove hanswer _ ih => exact .call (henv _ _ hmove) (hstep _ _ _ _ hanswer) ih

namespace Program

variable {M : Machine Op Reply World} {G G' : World → Op → Prop}

/-- Safety precondition: `G` holds at each call and `post` at the end. -/
def wp (M : Machine Op Reply World) (G : World → Op → Prop) :
    Program Op Reply α → (α → World → Prop) → World → Prop
  | .pure a, post, w => post a w
  | .call op next, post, w => ∀ w₁, M.env w w₁ → G w₁ op ∧
      ∀ r w₂, M.step w₁ op r w₂ → wp M G (next r) post w₂

theorem wp_bind (p : Program Op Reply α) (f : α → Program Op Reply β)
    (post : β → World → Prop) (w : World) :
    wp M G (p >>= f) post w ↔ wp M G p (fun a => wp M G (f a) post) w := by
  induction p generalizing w with
  | pure a => rfl
  | call op next ih =>
      rw [call_bind]
      simp only [wp]
      exact forall₂_congr fun w₁ _ => and_congr_right fun _ =>
        forall₂_congr fun r w₂ => imp_congr_right fun _ => ih r w₂

theorem wp_mono {p : Program Op Reply α} {post post' : α → World → Prop} {w : World}
    (h : wp M G p post w) (hG : ∀ w op, G w op → G' w op) (hpost : ∀ a w, post a w → post' a w) :
    wp M G' p post' w := by
  induction p generalizing w with
  | pure a => exact hpost a w h
  | call op next ih =>
      intro w₁ henv
      obtain ⟨hop, hnext⟩ := h w₁ henv
      exact ⟨hG w₁ op hop, fun r w₂ hstep => ih r (hnext r w₂ hstep)⟩

theorem wp_and {p : Program Op Reply α} {post post' : α → World → Prop} {w : World}
    (h : wp M G p post w) (h' : wp M G' p post' w) :
    wp M (fun w op => G w op ∧ G' w op) p (fun a w => post a w ∧ post' a w) w := by
  induction p generalizing w with
  | pure a => exact ⟨h, h'⟩
  | call op next ih =>
      intro w₁ henv
      obtain ⟨hop, hnext⟩ := h w₁ henv
      obtain ⟨hop', hnext'⟩ := h' w₁ henv
      exact ⟨⟨hop, hop'⟩, fun r w₂ hstep => ih r (hnext r w₂ hstep) (hnext' r w₂ hstep)⟩

/-- The frame rule: an invariant of every operation a program can call is an invariant of the
program, at each of its calls as well as at its end. -/
theorem wp_of_calls {S : Op → Prop} {I : World → Prop} {p : Program Op Reply α}
    (hp : p.Calls S) (henv : ∀ w w₁, M.env w w₁ → I w → I w₁)
    (hS : ∀ op, S op → ∀ w, I w → G w op ∧ ∀ r w', M.step w op r w' → I w') {w : World}
    (hw : I w) : wp M G p (fun _ => I) w := by
  induction p generalizing w with
  | pure a => exact hw
  | call op next ih =>
      intro w₁ h₁
      obtain ⟨hop, hstep⟩ := hS op hp.1 w₁ (henv w w₁ h₁ hw)
      exact ⟨hop, fun r w₂ h₂ => ih r (hp.2 r) (hstep r w₂ h₂)⟩

/-- An invariant that every guaranteed call keeps holds at each call and at the end. -/
theorem wp_invariant {I : World → Prop} {p : Program Op Reply α} {post : α → World → Prop}
    {w : World} (h : wp M G p post w) (henv : ∀ w w₁, M.env w w₁ → I w → I w₁)
    (hstep : ∀ w op, I w → G w op → ∀ r w', M.step w op r w' → I w') (hw : I w) :
    wp M (fun w op => I w ∧ G w op) p (fun a w => I w ∧ post a w) w := by
  induction p generalizing w with
  | pure a => exact ⟨hw, h⟩
  | call op next ih =>
      intro w₁ h₁
      obtain ⟨hop, hnext⟩ := h w₁ h₁
      have hw₁ := henv w w₁ h₁ hw
      exact ⟨⟨hw₁, hop⟩, fun r w₂ h₂ =>
        ih r (hnext r w₂ h₂) (hstep w₁ op hw₁ hop r w₂ h₂)⟩

/-- Every call of an execution meets the guarantee, and a finished one its postcondition. -/
theorem wp_sound {p : Program Op Reply α} {post : α → World → Prop} {w w' : World}
    {tr : List (World × Op)} {o : Option α} (h : wp M G p post w) (hexec : Exec M p w tr w' o) :
    (∀ e ∈ tr, G e.1 e.2) ∧ ∀ a, o = some a → post a w' := by
  induction hexec with
  | done a w => exact ⟨by simp, fun b hb => Option.some.inj hb ▸ h⟩
  | stop p w => exact ⟨by simp, by simp⟩
  | call henv hstep _ ih =>
      obtain ⟨hop, hnext⟩ := h _ henv
      obtain ⟨htr, ho⟩ := ih (hnext _ _ hstep)
      exact ⟨List.forall_mem_cons.2 ⟨hop, htr⟩, ho⟩

/-- An execution that stopped did so at its end or before a call the guarantee covers. -/
theorem wp_sound_stop (henv : ∀ w, M.env w w) {p : Program Op Reply α}
    {post : α → World → Prop} {w w' : World} {tr : List (World × Op)} {o : Option α}
    (h : wp M G p post w) (hexec : Exec M p w tr w' o) :
    (∃ op, G w' op) ∨ ∃ a, post a w' := by
  induction hexec with
  | done a w => exact .inr ⟨a, h⟩
  | stop p w =>
      cases p with
      | pure a => exact .inr ⟨a, h⟩
      | call op next => exact .inl ⟨op, (h w (henv w)).1⟩
  | call hstep₁ hstep _ ih =>
      obtain ⟨_, hnext⟩ := h _ hstep₁
      exact ih (hnext _ _ hstep)

/-- Where every operation has an answer, some execution meets the postcondition. -/
theorem exists_of_wp (henv : ∀ w, ∃ w₁, M.env w w₁) (htotal : ∀ w op, ∃ r w', M.step w op r w')
    {p : Program Op Reply α} {post : α → World → Prop} {w : World} (h : wp M G p post w) :
    ∃ a w', post a w' := by
  induction p generalizing w with
  | pure a => exact ⟨a, w, h⟩
  | call op next ih =>
      obtain ⟨w₁, hmove⟩ := henv w
      obtain ⟨r, w₂, hstep⟩ := htotal w₁ op
      exact ih r ((h w₁ hmove).2 r w₂ hstep)

/-- Where every operation has an answer, what holds of all executions is a precondition. -/
theorem wp_of_exec (htotal : ∀ w op, ∃ r w', M.step w op r w') {p : Program Op Reply α}
    {post : α → World → Prop} {w : World}
    (h : ∀ tr w' o, Exec M p w tr w' o →
      (∀ e ∈ tr, G e.1 e.2) ∧ ∀ a, o = some a → post a w') : wp M G p post w := by
  induction p generalizing w with
  | pure a => exact (h [] w (some a) (.done a w)).2 a rfl
  | call op next ih =>
      intro w₁ henv
      constructor
      · obtain ⟨r, w₂, hstep⟩ := htotal w₁ op
        exact (h _ w₂ none (.call henv hstep (.stop _ _))).1 _ List.mem_cons_self
      · intro r w₂ hstep
        refine ih r fun tr w' o hexec => ?_
        have h' := h _ w' o (.call henv hstep hexec)
        exact ⟨fun e he => h'.1 e (List.mem_cons_of_mem _ he), h'.2⟩

end Program

namespace Fallible

variable {M : Machine Op Reply World} {G G' : World → Op → Prop}

/-- The postcondition of a first half, from the second half and the final postcondition. -/
def andThen (M : Machine Op Reply World) (G : World → Op → Prop)
    (f : α → Fallible Op Reply ε β) (post : Except ε β → World → Prop) :
    Except ε α → World → Prop
  | .ok a, w => Program.wp M G (f a).run post w
  | .error e, w => post (.error e) w

def wp (M : Machine Op Reply World) (G : World → Op → Prop) (p : Fallible Op Reply ε α)
    (post : Except ε α → World → Prop) (w : World) : Prop :=
  Program.wp M G p.run post w

variable {post post' : Except ε α → World → Prop} {w : World}

@[simp] theorem andThen_ok (f : α → Fallible Op Reply ε β) (post : Except ε β → World → Prop)
    (a : α) (w : World) : andThen M G f post (.ok a) w ↔ wp M G (f a) post w := Iff.rfl

@[simp] theorem andThen_error (f : α → Fallible Op Reply ε β) (post : Except ε β → World → Prop)
    (e : ε) (w : World) : andThen M G f post (.error e) w ↔ post (.error e) w := Iff.rfl

@[simp] theorem wp_pure (a : α) :
    wp M G (pure a : Fallible Op Reply ε α) post w ↔ post (.ok a) w := Iff.rfl

@[simp] theorem wp_throw (e : ε) :
    wp M G (throw e : Fallible Op Reply ε α) post w ↔ post (.error e) w := Iff.rfl

@[simp] theorem wp_bind (p : Fallible Op Reply ε α) (f : α → Fallible Op Reply ε β)
    (post : Except ε β → World → Prop) :
    wp M G (p >>= f) post w ↔ wp M G p (andThen M G f post) w := by
  refine (Program.wp_bind p.run _ post w).trans (iff_of_eq ?_)
  refine congrArg (fun q => Program.wp M G p.run q w) (funext fun r => ?_)
  cases r <;> rfl

@[simp] theorem wp_map (f : α → β) (p : Fallible Op Reply ε α) (post : Except ε β → World → Prop) :
    wp M G (f <$> p) post w ↔ wp M G p (fun r => post (r.map f)) w := by
  rw [map_eq_pure_bind, wp_bind]
  refine iff_of_eq (congrArg (fun q => wp M G p q w) (funext fun r => ?_))
  cases r <;> rfl

theorem wp_request (op : Op) (result : Reply op → Except ε α) :
    wp M G (request op result) post w ↔ ∀ w₁, M.env w w₁ → G w₁ op ∧
      ∀ r w₂, M.step w₁ op r w₂ → post (result r) w₂ := Iff.rfl

@[simp] theorem wp_attempt (p : Fallible Op Reply ε α)
    (post : Except ε (Except ε α) → World → Prop) :
    wp M G (attempt p) post w ↔ wp M G p (fun r => post (.ok r)) w :=
  Program.wp_bind _ _ _ _

theorem wp_mono {p : Fallible Op Reply ε α} (h : wp M G p post w)
    (hG : ∀ w op, G w op → G' w op) (hpost : ∀ r w, post r w → post' r w) :
    wp M G' p post' w :=
  Program.wp_mono h hG hpost

theorem wp_imp {p : Fallible Op Reply ε α} (h : wp M G p post w)
    (hpost : ∀ r w, post r w → post' r w) : wp M G p post' w :=
  Program.wp_mono h (fun _ _ hop => hop) hpost

theorem wp_and {p : Fallible Op Reply ε α} (h : wp M G p post w) (h' : wp M G' p post' w) :
    wp M (fun w op => G w op ∧ G' w op) p (fun r w => post r w ∧ post' r w) w :=
  Program.wp_and h h'

theorem wp_of_calls {S : Op → Prop} {I : World → Prop} {p : Fallible Op Reply ε α}
    (hp : Calls S p) (henv : ∀ w w₁, M.env w w₁ → I w → I w₁)
    (hS : ∀ op, S op → ∀ w, I w → G w op ∧ ∀ r w', M.step w op r w' → I w')
    (hw : I w) : wp M G p (fun _ => I) w :=
  Program.wp_of_calls hp henv hS hw

/-- Only the guarantee is asked for, and a second half that always meets it can be left out. -/
theorem wp_bind_tail {p : Fallible Op Reply ε α} {f : α → Fallible Op Reply ε β}
    (hf : ∀ a w, wp M G (f a) (fun _ _ => True) w) :
    wp M G (p >>= f) (fun _ _ => True) w ↔ wp M G p (fun _ _ => True) w := by
  rw [wp_bind]
  refine iff_of_eq (congrArg (fun q => wp M G p q w) (funext₂ fun r w' => ?_))
  cases r with
  | ok a => exact eq_true (hf a w')
  | error e => rfl

/-- A program whose footprint meets the guarantee everywhere. -/
theorem wp_of_footprint {S : Op → Prop} {p : Fallible Op Reply ε α} (hp : Calls S p)
    (hS : ∀ op, S op → ∀ w, G w op) (w : World) : wp M G p (fun _ _ => True) w :=
  Program.wp_of_calls hp (fun _ _ _ h => h)
    (fun op hop w _ => ⟨hS op hop w, fun _ _ _ => trivial⟩) trivial

/-- A loop keeps what each of its rounds keeps, whether or not a round leaves it early. -/
theorem wp_foldlM {xs : List β} {f : σ → β → Fallible Op Reply ε σ} {I : World → Prop}
    (hf : ∀ s, ∀ x ∈ xs, ∀ w, I w → wp M G (f s x) (fun _ => I) w) (s : σ) (hw : I w) :
    wp M G (xs.foldlM f s) (fun _ => I) w := by
  induction xs generalizing s w with
  | nil => exact hw
  | cons x xs ih =>
      rw [List.foldlM_cons, wp_bind]
      refine wp_imp (hf s x List.mem_cons_self w hw) fun r w' hw' => ?_
      cases r with
      | ok s' => exact ih (fun s y hy => hf s y (List.mem_cons_of_mem x hy)) s' hw'
      | error e => exact hw'

theorem wp_forM {xs : List β} {f : β → Fallible Op Reply ε PUnit} {I : World → Prop}
    (hf : ∀ x ∈ xs, ∀ w, I w → wp M G (f x) (fun _ => I) w) (hw : I w) :
    wp M G (xs.forM f) (fun _ => I) w := by
  induction xs generalizing w with
  | nil => exact hw
  | cons x xs ih =>
      change wp M G (f x >>= fun _ => xs.forM f) (fun _ => I) w
      rw [wp_bind]
      refine wp_imp (hf x List.mem_cons_self w hw) fun r w' hw' => ?_
      cases r with
      | ok _ => exact ih (fun y hy => hf y (List.mem_cons_of_mem x hy)) hw'
      | error e => exact hw'

/-- A loop whose rounds each take an item off what is still to do. -/
theorem wp_forM_rest {l : List β} {f : β → Fallible Op Reply ε PUnit}
    {I : List β → World → Prop}
    (hf : ∀ x rest w, I (x :: rest) w → wp M G (f x) (fun r w' => r = .ok () → I rest w') w)
    (hw : I l w) : wp M G (l.forM f) (fun r w' => r = .ok () → I [] w') w := by
  induction l generalizing w with
  | nil => exact fun _ => hw
  | cons x l ih =>
      change wp M G (f x >>= fun _ => l.forM f) (fun r w' => r = .ok () → I [] w') w
      rw [wp_bind]
      refine wp_imp (hf x l w hw) fun r w' hw' => ?_
      cases r with
      | ok _ => exact ih (hw' rfl)
      | error e =>
          intro h
          cases h

theorem wp_foldlM_rest {l : List β} {f : σ → β → Fallible Op Reply ε σ}
    {I : List β → σ → World → Prop}
    (hf : ∀ x rest s w, I (x :: rest) s w →
      wp M G (f s x) (fun r w' => ∀ s', r = .ok s' → I rest s' w') w)
    (s : σ) (hw : I l s w) :
    wp M G (l.foldlM f s) (fun r w' => ∀ s', r = .ok s' → I [] s' w') w := by
  induction l generalizing s w with
  | nil =>
      intro s' hs
      obtain rfl := Except.ok.inj hs
      exact hw
  | cons x l ih =>
      rw [List.foldlM_cons, wp_bind]
      refine wp_imp (hf x l s w hw) fun r w' hw' => ?_
      cases r with
      | ok s' => exact ih s' (hw' s' rfl)
      | error e =>
          intro s' hs
          cases hs

theorem wp_foldlM_all {l : List β} {f : σ → β → Fallible Op Reply ε σ} {I : List β → World → Prop}
    (hf : ∀ x rest s w, I (x :: rest) w →
      wp M G (f s x) (fun r w' => (∃ s', r = .ok s') ∧ I rest w') w)
    (s : σ) (hw : I l w) :
    wp M G (l.foldlM f s) (fun r w' => (∃ s', r = .ok s') ∧ I [] w') w := by
  induction l generalizing s w with
  | nil => exact ⟨⟨s, rfl⟩, hw⟩
  | cons x l ih =>
      rw [List.foldlM_cons, wp_bind]
      refine wp_imp (hf x l s w hw) ?_
      rintro _ w' ⟨⟨s', rfl⟩, hw'⟩
      exact ih s' hw'

def Keeps (M : Machine Op Reply World) (G : World → Op → Prop) (I : World → Prop)
    (p : Fallible Op Reply ε α) : Prop :=
  ∀ w, I w → wp M G p (fun _ => I) w

variable {I : World → Prop}

theorem keeps_pure (a : α) : Keeps M G I (pure a : Fallible Op Reply ε α) := fun _ hw => hw

theorem keeps_throw (e : ε) : Keeps M G I (throw e : Fallible Op Reply ε α) := fun _ hw => hw

theorem keeps_bind {p : Fallible Op Reply ε α} {f : α → Fallible Op Reply ε β}
    (hp : Keeps M G I p) (hf : ∀ a, Keeps M G I (f a)) : Keeps M G I (p >>= f) := by
  intro w hw
  rw [wp_bind]
  refine wp_imp (hp w hw) fun r w' hw' => ?_
  cases r with
  | ok a => exact hf a w' hw'
  | error e => exact hw'

theorem keeps_attempt {p : Fallible Op Reply ε α} (hp : Keeps M G I p) :
    Keeps M G I (attempt p) := fun w hw => (wp_attempt p _).2 (hp w hw)

theorem keeps_foldlM {xs : List β} {f : σ → β → Fallible Op Reply ε σ}
    (hf : ∀ s x, Keeps M G I (f s x)) (s : σ) : Keeps M G I (xs.foldlM f s) :=
  fun _ hw => wp_foldlM (fun s x _ w hw => hf s x w hw) s hw

theorem keeps_forM {xs : List β} {f : β → Fallible Op Reply ε PUnit}
    (hf : ∀ x, Keeps M G I (f x)) : Keeps M G I (xs.forM f) :=
  fun _ hw => wp_forM (fun x _ w hw => hf x w hw) hw

theorem keeps_of_calls {S : Op → Prop} {p : Fallible Op Reply ε α} (hp : Calls S p)
    (henv : ∀ w w₁, M.env w w₁ → I w → I w₁)
    (hS : ∀ op, S op → ∀ w, I w → G w op ∧ ∀ r w', M.step w op r w' → I w') :
    Keeps M G I p := fun _ hw => wp_of_calls hp henv hS hw

/-- The program keeps an invariant, and what it returns is as asked for. -/
def Yields (M : Machine Op Reply World) (G : World → Op → Prop) (I : World → Prop)
    (p : Fallible Op Reply ε α) (Q : α → Prop) : Prop :=
  ∀ w, I w → wp M G p (fun r w' => I w' ∧ ∀ a, r = .ok a → Q a) w

variable {Q : α → Prop} {R : β → Prop}

theorem yields_pure {a : α} (h : Q a) : Yields M G I (pure a : Fallible Op Reply ε α) Q := by
  intro w hw
  refine ⟨hw, fun b hb => ?_⟩
  obtain rfl := Except.ok.inj hb
  exact h

theorem yields_throw (e : ε) : Yields M G I (throw e : Fallible Op Reply ε α) Q :=
  fun _ hw => ⟨hw, fun _ hb => by cases hb⟩

theorem yields_of_keeps {p : Fallible Op Reply ε α} (h : Keeps M G I p) :
    Yields M G I p fun _ => True :=
  fun w hw => wp_imp (h w hw) fun _ _ hw' => ⟨hw', fun _ _ => trivial⟩

theorem keeps_of_yields {p : Fallible Op Reply ε α} (h : Yields M G I p Q) : Keeps M G I p :=
  fun w hw => wp_imp (h w hw) fun _ _ hw' => hw'.1

theorem yields_bind {p : Fallible Op Reply ε α} {f : α → Fallible Op Reply ε β}
    (hp : Yields M G I p Q) (hf : ∀ a, Q a → Yields M G I (f a) R) :
    Yields M G I (p >>= f) R := by
  intro w hw
  rw [wp_bind]
  refine wp_imp (hp w hw) fun r w' hw' => ?_
  obtain ⟨hI, hQ⟩ := hw'
  cases r with
  | ok a => exact hf a (hQ a rfl) w' hI
  | error e => exact ⟨hI, fun _ hb => by cases hb⟩

theorem yields_attempt {p : Fallible Op Reply ε α} (hp : Yields M G I p Q) :
    Yields M G I (attempt p) fun r => ∀ a, r = .ok a → Q a := by
  intro w hw
  rw [wp_attempt]
  refine wp_imp (hp w hw) fun r w' hw' => ⟨hw'.1, fun s hs => ?_⟩
  obtain rfl := Except.ok.inj hs
  exact hw'.2

def Succeeds (M : Machine Op Reply World) (G : World → Op → Prop) (I : World → Prop)
    (p : Fallible Op Reply ε α) : Prop :=
  ∀ w, I w → wp M G p (fun r w' => (∃ a, r = .ok a) ∧ I w') w

theorem succeeds_pure (a : α) : Succeeds M G I (pure a : Fallible Op Reply ε α) :=
  fun _ hw => ⟨⟨a, rfl⟩, hw⟩

theorem succeeds_bind {p : Fallible Op Reply ε α} {f : α → Fallible Op Reply ε β}
    (hp : Succeeds M G I p) (hf : ∀ a, Succeeds M G I (f a)) : Succeeds M G I (p >>= f) := by
  intro w hw
  rw [wp_bind]
  refine wp_imp (hp w hw) ?_
  rintro _ w' ⟨⟨a, rfl⟩, hw'⟩
  exact hf a w' hw'

theorem succeeds_attempt {p : Fallible Op Reply ε α} (hp : Keeps M G I p) :
    Succeeds M G I (attempt p) := fun w hw =>
  (wp_attempt p _).2 (wp_imp (hp w hw) fun r _ hw' => ⟨⟨r, rfl⟩, hw'⟩)

theorem succeeds_forM {l : List β} {f : β → Fallible Op Reply ε PUnit}
    (hf : ∀ x ∈ l, Succeeds M G I (f x)) : Succeeds M G I (l.forM f) := by
  induction l with
  | nil => exact succeeds_pure _
  | cons x l ih =>
      have hrest := ih fun y hy => hf y (List.mem_cons_of_mem x hy)
      exact succeeds_bind (hf x List.mem_cons_self) fun _ => hrest

/-- A loop whose rounds all succeed comes to each of its items. -/
theorem wp_forM_reaches (henv : ∀ w, ∃ w₁, M.env w w₁)
    (htotal : ∀ w op, ∃ r w', M.step w op r w') {l : List β} {f : β → Fallible Op Reply ε PUnit}
    {post : Except ε PUnit → World → Prop} (hf : ∀ x ∈ l, Succeeds M G' I (f x))
    (h : wp M G (l.forM f) post w) (hw : I w) {x : β} (hx : x ∈ l) :
    ∃ w', I w' ∧ wp M G (f x) (fun _ _ => True) w' := by
  induction l generalizing w with
  | nil => cases hx
  | cons y l ih =>
      change wp M G (f y >>= fun _ => l.forM f) post w at h
      rw [wp_bind] at h
      obtain rfl | hrest := List.mem_cons.1 hx
      · exact ⟨w, hw, wp_imp h fun _ _ _ => trivial⟩
      · obtain ⟨_, w', ⟨⟨a, rfl⟩, hw'⟩, hnext⟩ :=
          Program.exists_of_wp henv htotal (wp_and (hf y List.mem_cons_self w hw) h)
        exact ih (fun z hz => hf z (List.mem_cons_of_mem y hz)) hnext hw' hrest

theorem succeeds_foldlM {l : List β} {f : σ → β → Fallible Op Reply ε σ}
    (hf : ∀ s x, Succeeds M G I (f s x)) (s : σ) : Succeeds M G I (l.foldlM f s) := by
  induction l generalizing s with
  | nil => exact succeeds_pure s
  | cons x l ih =>
      rw [List.foldlM_cons]
      exact succeeds_bind (hf s x) ih

end Fallible

/-! ## Machines whose nondeterminism is a choice -/

/-- Each answer is computed from a choice that `allowed` admits; between operations the
surroundings move by `env`. -/
def Machine.among (env : World → World → Prop)
    (react : World → (op : Op) → Choice → Reply op × World)
    (allowed : World → Op → Choice → Prop) : Machine Op Reply World where
  env := env
  step w op r w' := ∃ c, allowed w op c ∧ react w op c = (r, w')

/-- A quiet machine: between operations nothing moves. -/
def Machine.ofReact (react : World → (op : Op) → Choice → Reply op × World)
    (allowed : World → Op → Choice → Prop) : Machine Op Reply World :=
  Machine.among Eq react allowed

section Choice

variable {env : World → World → Prop} {react : World → (op : Op) → Choice → Reply op × World}
  {allowed : World → Op → Choice → Prop} {G : World → Op → Prop}

theorem Fallible.wp_request_among (op : Op) (result : Reply op → Except ε α)
    (post : Except ε α → World → Prop) (w : World) :
    Fallible.wp (Machine.among env react allowed) G (Fallible.request op result) post w ↔
      ∀ w₁, env w w₁ → G w₁ op ∧
        ∀ c, allowed w₁ op c → post (result (react w₁ op c).1) (react w₁ op c).2 := by
  rw [Fallible.wp_request]
  refine forall₂_congr fun w₁ _ => and_congr_right fun _ => ?_
  constructor
  · intro h c hc
    exact h _ _ ⟨c, hc, rfl⟩
  · rintro h r w₂ ⟨c, hc, heq⟩
    have hpost := h c hc
    rwa [heq] at hpost

theorem Fallible.wp_request_ofReact (op : Op) (result : Reply op → Except ε α)
    (post : Except ε α → World → Prop) (w : World) :
    Fallible.wp (Machine.ofReact react allowed) G (Fallible.request op result) post w ↔
      G w op ∧ ∀ c, allowed w op c → post (result (react w op c).1) (react w op c).2 := by
  rw [Machine.ofReact, Fallible.wp_request_among]
  constructor
  · exact fun h => h w rfl
  · rintro h _ rfl
    exact h

/-- A precondition stays one where fewer choices are admitted. -/
theorem Program.wp_anti {admitted : World → Op → Choice → Prop}
    (hadmitted : ∀ w op c, admitted w op c → allowed w op c) {p : Program Op Reply α}
    {post : α → World → Prop} {w : World}
    (h : Program.wp (Machine.among env react allowed) G p post w) :
    Program.wp (Machine.among env react admitted) G p post w := by
  induction p generalizing w with
  | pure a => exact h
  | call op next ih =>
      intro w₁ henv
      obtain ⟨hop, hnext⟩ := h w₁ henv
      refine ⟨hop, ?_⟩
      rintro r w₂ ⟨c, hc, heq⟩
      exact ih r (hnext r w₂ ⟨c, hadmitted w₁ op c hc, heq⟩)

theorem Fallible.wp_anti {admitted : World → Op → Choice → Prop}
    (hadmitted : ∀ w op c, admitted w op c → allowed w op c) {p : Fallible Op Reply ε α}
    {post : Except ε α → World → Prop} {w : World}
    (h : Fallible.wp (Machine.among env react allowed) G p post w) :
    Fallible.wp (Machine.among env react admitted) G p post w :=
  Program.wp_anti hadmitted h

/-- A choice may be judged by where it was made. -/
theorem Exec.restrict {S : World → Op → Prop} {p : Program Op Reply α} {w w' : World}
    {tr : List (World × Op)} {o : Option α}
    (h : Exec (Machine.among env react allowed) p w tr w' o) (htr : ∀ e ∈ tr, S e.1 e.2) :
    Exec (Machine.among env react fun w op c => allowed w op c ∧ S w op) p w tr w' o := by
  induction h with
  | done a w => exact .done a w
  | stop p w => exact .stop p w
  | call henv hstep _ ih =>
      obtain ⟨c, hc, heq⟩ := hstep
      have hop := htr _ List.mem_cons_self
      exact .call henv ⟨c, ⟨hc, hop⟩, heq⟩ (ih fun e he => htr e (List.mem_cons_of_mem _ he))

/-- Run a program to its end on the choices a strategy picks. -/
def Program.follow (react : World → (op : Op) → Choice → Reply op × World)
    (pick : World → Op → Choice) : Program Op Reply α → World → List (World × Op) × World × α
  | .pure a, w => ([], w, a)
  | .call op next, w =>
      let answer := react w op (pick w op)
      let rest := follow react pick (next answer.1) answer.2
      ((w, op) :: rest.1, rest.2)

/-- Following a strategy is an execution of a machine that admits its picks on the way, with
surroundings that may as well stay. -/
theorem Program.follow_exec_among {pick : World → Op → Choice} (p : Program Op Reply α)
    (w : World) (hstay : ∀ e ∈ (p.follow react pick w).1, env e.1 e.1)
    (hallowed : ∀ e ∈ (p.follow react pick w).1, allowed e.1 e.2 (pick e.1 e.2)) :
    Exec (Machine.among env react allowed) p w (p.follow react pick w).1
      (p.follow react pick w).2.1 (some (p.follow react pick w).2.2) := by
  induction p generalizing w with
  | pure a => exact .done a w
  | call op next ih =>
      have hop := hallowed (w, op) List.mem_cons_self
      have hw := hstay (w, op) List.mem_cons_self
      exact .call hw ⟨pick w op, hop, rfl⟩
        (ih _ _ (fun e he => hstay e (List.mem_cons_of_mem _ he))
          fun e he => hallowed e (List.mem_cons_of_mem _ he))

theorem Program.follow_exec {pick : World → Op → Choice} (p : Program Op Reply α) (w : World)
    (hallowed : ∀ e ∈ (p.follow react pick w).1, allowed e.1 e.2 (pick e.1 e.2)) :
    Exec (Machine.ofReact react allowed) p w (p.follow react pick w).1
      (p.follow react pick w).2.1 (some (p.follow react pick w).2.2) :=
  p.follow_exec_among w (fun _ _ => rfl) hallowed

end Choice

end GhafDeviceManager
