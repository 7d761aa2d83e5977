import GhafDeviceManager.Transcripts

/-!
# Finished executions and their replies

A program is deterministic once it is told: the replies, in order, say what it called and what it
returned. `Finished` is a complete execution with them, `Replays` the program alone, and a stretch
of a longer list of replies is a run of the program in one way at most.
-/

namespace GhafDeviceManager

variable {Op : Type} {Reply : Op → Type} {World α β ε : Type}

/-- Operations with their replies, the first one first. -/
abbrev Replies (Op : Type) (Reply : Op → Type) := List ((op : Op) × Reply op)

inductive Finished (M : Machine Op Reply World) :
    Program Op Reply α → World → Replies Op Reply → World → α → Prop
  | done (a : α) (w : World) : Finished M (.pure a) w [] w a
  | call {op : Op} {next : Reply op → Program Op Reply α} {w w₁ w₂ w' : World} {r : Reply op}
      {c : Replies Op Reply} {a : α} (henv : M.env w w₁) (hstep : M.step w₁ op r w₂)
      (hrest : Finished M (next r) w₂ c w' a) :
      Finished M (.call op next) w (⟨op, r⟩ :: c) w' a

/-- The program returns `a` if it is told these replies. -/
inductive Replays : Program Op Reply α → Replies Op Reply → α → Prop
  | done (a : α) : Replays (.pure a) [] a
  | call {op : Op} {next : Reply op → Program Op Reply α} {r : Reply op} {c : Replies Op Reply}
      {a : α} (hrest : Replays (next r) c a) : Replays (.call op next) (⟨op, r⟩ :: c) a

variable {M : Machine Op Reply World} {w w' : World} {c c' : Replies Op Reply}

theorem Finished.replays {p : Program Op Reply α} {a : α} (h : Finished M p w c w' a) :
    Replays p c a := by
  induction h with
  | done a w => exact .done a
  | call _ _ _ ih => exact .call ih

/-- The replies of a finished execution are those of its calls. -/
theorem Finished.exec {p : Program Op Reply α} {a : α} (h : Finished M p w c w' a) :
    ∃ tr, Exec M p w tr w' (some a) ∧ tr.map Prod.snd = c.map Sigma.fst := by
  induction h with
  | done a w => exact ⟨[], .done a w, rfl⟩
  | call henv hstep _ ih =>
      obtain ⟨tr, hexec, htr⟩ := ih
      exact ⟨_, .call henv hstep hexec, by rw [List.map_cons, List.map_cons, htr]⟩

namespace Replays

/-- Of a longer list of replies, a program takes one stretch from the beginning. -/
theorem unique {p : Program Op Reply α} {a a' : α} {rest rest' : Replies Op Reply}
    (h : Replays p c a) (h' : Replays p c' a') (hsame : c ++ rest = c' ++ rest') :
    c = c' ∧ a = a' := by
  induction h generalizing c' with
  | done a =>
      cases h' with
      | done => exact ⟨rfl, rfl⟩
  | call _ ih =>
      cases h' with
      | call hrest' =>
          rw [List.cons_append, List.cons_append, List.cons.injEq] at hsame
          obtain ⟨hhead, htail⟩ := hsame
          cases hhead
          obtain ⟨rfl, rfl⟩ := ih hrest' htail
          exact ⟨rfl, rfl⟩

theorem bind_inv {p : Program Op Reply α} {f : α → Program Op Reply β} {b : β}
    (h : Replays (p >>= f) c b) :
    ∃ a c₁ c₂, Replays p c₁ a ∧ Replays (f a) c₂ b ∧ c = c₁ ++ c₂ := by
  induction p generalizing c with
  | pure a => exact ⟨a, [], c, .done a, h, rfl⟩
  | call op next ih =>
      rw [Program.call_bind] at h
      cases h with
      | call hrest =>
          obtain ⟨a, c₁, c₂, hfirst, hsecond, rfl⟩ := ih _ hrest
          exact ⟨a, _, c₂, .call hfirst, hsecond, rfl⟩

theorem calls {S : Op → Prop} {p : Program Op Reply α} {a : α} (h : Replays p c a)
    (hp : p.Calls S) : ∀ e ∈ c, S e.1 := by
  induction h with
  | done a => simp
  | call _ ih => exact List.forall_mem_cons.2 ⟨hp.1, ih (hp.2 _)⟩

theorem sound_admitted {admits : (op : Op) → Reply op → Prop} {p : Program Op Reply α}
    {post : α → Prop} {a : α} (h : Replays p c a) (hc : ∀ e ∈ c, admits e.1 e.2)
    (hwp : p.wp (Machine.ofReplies admits fun _ _ _ => ()) (fun _ _ => True)
      (fun a _ => post a) ()) : post a := by
  induction h with
  | done a => exact hwp
  | call _ ih =>
      obtain ⟨hreply, hrest⟩ := List.forall_mem_cons.1 hc
      exact ih hrest ((hwp () rfl).2 _ () ⟨hreply, rfl⟩)

end Replays

namespace Fallible

variable {admits : (op : Op) → Reply op → Prop}

/-- Under any replies of the kind the program returns a value. -/
def Sure (admits : (op : Op) → Reply op → Prop) (p : Fallible Op Reply ε α) : Prop :=
  Succeeds (Machine.ofReplies admits fun _ _ _ => ()) (fun _ _ => True) (fun _ => True) p

theorem Sure.returns {p : Fallible Op Reply ε α} {r : Except ε α} (hp : Sure admits p)
    (h : Replays p.run c r) (hc : ∀ e ∈ c, admits e.1 e.2) : ∃ a, r = .ok a :=
  h.sound_admitted hc (wp_imp (hp () trivial) fun _ _ hpost => hpost.1)

theorem replays_bind {p : Fallible Op Reply ε α} {f : α → Fallible Op Reply ε β} {b : β}
    (h : Replays (p >>= f).run c (.ok b)) :
    ∃ a c₁ c₂, Replays p.run c₁ (.ok a) ∧ Replays (f a).run c₂ (.ok b) ∧ c = c₁ ++ c₂ := by
  obtain ⟨x, c₁, c₂, hfirst, hsecond, rfl⟩ := Replays.bind_inv h
  cases x with
  | ok a => exact ⟨a, c₁, c₂, hfirst, hsecond, rfl⟩
  | error e => cases hsecond

/-- Two halves: the first failed, or both ran. -/
theorem replays_bind_cases {p : Fallible Op Reply ε α} {f : α → Fallible Op Reply ε β}
    {r : Except ε β} (h : Replays (p >>= f).run c r) :
    (∃ e, r = .error e ∧ Replays p.run c (.error e)) ∨ ∃ a c₁ c₂, Replays p.run c₁ (.ok a) ∧
      Replays (f a).run c₂ r ∧ c = c₁ ++ c₂ := by
  obtain ⟨x, c₁, c₂, hfirst, hsecond, rfl⟩ := Replays.bind_inv h
  cases x with
  | ok a => exact .inr ⟨a, c₁, c₂, hfirst, hsecond, rfl⟩
  | error e =>
      cases hsecond with
      | done => exact .inl ⟨e, rfl, by rwa [List.append_nil]⟩

theorem replays_pure {a : α} {r : Except ε α}
    (h : Replays (pure a : Fallible Op Reply ε α).run c r) : r = .ok a ∧ c = [] := by
  cases h with
  | done => exact ⟨rfl, rfl⟩

theorem replays_request {op : Op} {result : Reply op → Except ε α} {r : Except ε α}
    (h : Replays (request op result).run c r) :
    ∃ reply, c = [⟨op, reply⟩] ∧ r = result reply := by
  cases h with
  | @call _ _ reply _ _ hrest =>
      cases hrest with
      | done => exact ⟨reply, rfl, rfl⟩

theorem sure_request {op : Op} {result : Reply op → Except ε α}
    (h : ∀ r, admits op r → ∃ a, result r = .ok a) : Sure admits (request op result) := by
  intro _ _
  rw [wp_request_ofReplies]
  exact ⟨trivial, fun r hr => ⟨h r hr, trivial⟩⟩

theorem sure_ask {op : Op} {result : Reply op → α} :
    Sure admits (request op fun r => .ok (result r) : Fallible Op Reply ε α) :=
  sure_request fun r _ => ⟨result r, rfl⟩

end Fallible

def Program.answers {Choice : Type} (react : World → (op : Op) → Choice → Reply op × World)
    (pick : World → Op → Choice) (p : Program Op Reply α) (w : World) : Replies Op Reply :=
  (p.follow react pick w).1.map fun e => ⟨e.2, (react e.1 e.2 (pick e.1 e.2)).1⟩

/-- Following a strategy comes to its end, with surroundings that may as well stay. -/
theorem Program.follow_finished_among {Choice : Type} {env : World → World → Prop}
    {react : World → (op : Op) → Choice → Reply op × World} {pick : World → Op → Choice}
    {allowed : World → Op → Choice → Prop} (p : Program Op Reply α) (w : World)
    (hstay : ∀ w, env w w)
    (hallowed : ∀ e ∈ (p.follow react pick w).1, allowed e.1 e.2 (pick e.1 e.2)) :
    Finished (Machine.among env react allowed) p w (p.answers react pick w)
      (p.follow react pick w).2.1 (p.follow react pick w).2.2 := by
  induction p generalizing w with
  | pure a => exact .done a w
  | call op next ih =>
      obtain ⟨hop, hrest⟩ := List.forall_mem_cons.1 hallowed
      exact .call (hstay w) ⟨pick w op, hop, rfl⟩ (ih _ _ hrest)

theorem Program.follow_finished {Choice : Type}
    {react : World → (op : Op) → Choice → Reply op × World} {pick : World → Op → Choice}
    {allowed : World → Op → Choice → Prop} (p : Program Op Reply α) (w : World)
    (hallowed : ∀ e ∈ (p.follow react pick w).1, allowed e.1 e.2 (pick e.1 e.2)) :
    Finished (Machine.ofReact react allowed) p w (p.answers react pick w)
      (p.follow react pick w).2.1 (p.follow react pick w).2.2 :=
  p.follow_finished_among w (fun _ => rfl) hallowed

theorem Program.follow_replays {Choice : Type}
    (react : World → (op : Op) → Choice → Reply op × World) (pick : World → Op → Choice)
    (p : Program Op Reply α) (w : World) :
    Replays p (p.answers react pick w) (p.follow react pick w).2.2 := by
  induction p generalizing w with
  | pure a => exact .done a
  | call op next ih => exact .call (ih _ _)

namespace Finished

theorem bind_inv {p : Program Op Reply α} {f : α → Program Op Reply β} {b : β}
    (h : Finished M (p >>= f) w c w' b) : ∃ c₁ c₂ w₁ a, Finished M p w c₁ w₁ a ∧
      Finished M (f a) w₁ c₂ w' b ∧ c = c₁ ++ c₂ := by
  induction p generalizing w c with
  | pure a => exact ⟨[], c, w, a, .done a w, h, rfl⟩
  | call op next ih =>
      rw [Program.call_bind] at h
      cases h with
      | call henv hstep hrest =>
          obtain ⟨c₁, c₂, w₁, a, hfirst, hsecond, rfl⟩ := ih _ hrest
          exact ⟨_, c₂, w₁, a, .call henv hstep hfirst, hsecond, rfl⟩

theorem bind {p : Program Op Reply α} {f : α → Program Op Reply β} {w₁ : World} {a : α} {b : β}
    (h : Finished M p w c w₁ a) (hf : Finished M (f a) w₁ c' w' b) :
    Finished M (p >>= f) w (c ++ c') w' b := by
  induction h with
  | done a w => exact hf
  | call henv hstep _ ih => exact .call henv hstep (ih hf)

theorem sound {G : World → Op → Prop} {p : Program Op Reply α} {post : α → World → Prop} {a : α}
    (h : Finished M p w c w' a) (hwp : Program.wp M G p post w) : post a w' := by
  obtain ⟨tr, hexec, -⟩ := h.exec
  exact (Program.wp_sound hwp hexec).2 a rfl

end Finished

namespace Fallible

theorem finished_bind {p : Fallible Op Reply ε α} {f : α → Fallible Op Reply ε β}
    {r : Except ε β} (h : Finished M (p >>= f).run w c w' r) :
    (∃ e, r = .error e ∧ Finished M p.run w c w' (.error e)) ∨
      ∃ a c₁ c₂ w₁, Finished M p.run w c₁ w₁ (.ok a) ∧ Finished M (f a).run w₁ c₂ w' r ∧
        c = c₁ ++ c₂ := by
  obtain ⟨c₁, c₂, w₁, x, hfirst, hsecond, rfl⟩ := Finished.bind_inv h
  cases x with
  | ok a => exact .inr ⟨a, c₁, c₂, w₁, hfirst, hsecond, rfl⟩
  | error e =>
      cases hsecond with
      | done => exact .inl ⟨e, rfl, by rwa [List.append_nil]⟩

theorem finished_bind_ok {p : Fallible Op Reply ε α} {f : α → Fallible Op Reply ε β} {w₁ : World}
    {a : α} {r : Except ε β} (h : Finished M p.run w c w₁ (.ok a))
    (hf : Finished M (f a).run w₁ c' w' r) : Finished M (p >>= f).run w (c ++ c') w' r :=
  Finished.bind h hf

theorem finished_bind_error {p : Fallible Op Reply ε α} {f : α → Fallible Op Reply ε β} {e : ε}
    (h : Finished M p.run w c w' (.error e)) : Finished M (p >>= f).run w c w' (.error e) := by
  have hstop : Finished M (p >>= f).run w (c ++ []) w' (.error e) := Finished.bind h (.done _ w')
  rwa [List.append_nil] at hstop

theorem finished_pure {a : α} {r : Except ε α}
    (h : Finished M (pure a : Fallible Op Reply ε α).run w c w' r) :
    r = .ok a ∧ w' = w ∧ c = [] := by
  cases h with
  | done => exact ⟨rfl, rfl, rfl⟩

theorem finished_attempt {p : Fallible Op Reply ε α} {r : Except ε (Except ε α)}
    (h : Finished M (attempt p).run w c w' r) :
    ∃ x, r = .ok x ∧ Finished M p.run w c w' x := by
  obtain ⟨c₁, c₂, w₁, x, hfirst, hsecond, rfl⟩ := Finished.bind_inv h
  cases hsecond with
  | done => exact ⟨x, rfl, by rwa [List.append_nil]⟩

theorem finished_request {op : Op} {result : Reply op → Except ε α} {r : Except ε α}
    (h : Finished M (request op result).run w c w' r) : ∃ w₁ reply, M.env w w₁ ∧
      M.step w₁ op reply w' ∧ c = [⟨op, reply⟩] ∧ r = result reply := by
  cases h with
  | call henv hstep hrest =>
      cases hrest with
      | done => exact ⟨_, _, henv, hstep, rfl, rfl⟩

end Fallible

end GhafDeviceManager
