import GhafDeviceManager.Machine

/-!
# Executions that came through

An execution of a program is made of executions of its parts. Where it came through to a value,
each of its parts did.
-/

namespace GhafDeviceManager

variable {Op : Type} {Reply : Op → Type} {World α β ε : Type} {M : Machine Op Reply World}

namespace Fallible

theorem exec_request_inv {op : Op} {result : Reply op → Except ε α} {w w' : World}
    {tr : List (World × Op)} {x : Except ε α}
    (h : Exec M (request op result).run w tr w' (some x)) : ∃ w₁ r, M.env w w₁ ∧
      M.step w₁ op r w' ∧ tr = [(w₁, op)] ∧ x = result r := by
  cases h with
  | call henv hstep hrest =>
      cases hrest with
      | done => exact ⟨_, _, henv, hstep, rfl, rfl⟩

theorem exec_bind_ok {p : Fallible Op Reply ε α} {f : α → Fallible Op Reply ε β} {w w' : World}
    {tr : List (World × Op)} {b : β} (h : Exec M (p >>= f).run w tr w' (some (.ok b))) :
    ∃ a w₁ tr₁ tr₂, Exec M p.run w tr₁ w₁ (some (.ok a)) ∧
      Exec M (f a).run w₁ tr₂ w' (some (.ok b)) ∧ tr = tr₁ ++ tr₂ := by
  obtain ⟨hnone, -⟩ | ⟨tr₁, tr₂, w₁, r, hfirst, hsecond, rfl⟩ := Exec.bind_inv h
  · cases hnone
  · cases r with
    | ok a => exact ⟨a, w₁, tr₁, tr₂, hfirst, hsecond, rfl⟩
    | error e => cases hsecond

theorem exec_bind_cases {p : Fallible Op Reply ε α} {f : α → Fallible Op Reply ε β} {w w' : World}
    {tr : List (World × Op)} {o : Option (Except ε β)} (h : Exec M (p >>= f).run w tr w' o) :
    (∃ o', Exec M p.run w tr w' o') ∨ ∃ a w₁ tr₁ tr₂, Exec M p.run w tr₁ w₁ (some (.ok a)) ∧
      Exec M (f a).run w₁ tr₂ w' o ∧ tr = tr₁ ++ tr₂ := by
  obtain ⟨-, hfirst⟩ | ⟨tr₁, tr₂, w₁, r, hfirst, hsecond, rfl⟩ := Exec.bind_inv h
  · exact .inl ⟨none, hfirst⟩
  · cases r with
    | ok a => exact .inr ⟨a, w₁, tr₁, tr₂, hfirst, hsecond, rfl⟩
    | error e =>
        refine .inl ⟨some (.error e), ?_⟩
        cases hsecond with
        | done => rwa [List.append_nil]
        | stop => rwa [List.append_nil]

theorem exec_bind {p : Fallible Op Reply ε α} {f : α → Fallible Op Reply ε β} {w w₁ w' : World}
    {tr tr' : List (World × Op)} {a : α} {o : Option (Except ε β)}
    (h : Exec M p.run w tr w₁ (some (.ok a))) (h' : Exec M (f a).run w₁ tr' w' o) :
    Exec M (p >>= f).run w (tr ++ tr') w' o := Exec.bind h h'

theorem exec_pure {a b : α} {w w' : World} {tr : List (World × Op)}
    (h : Exec M (pure a : Fallible Op Reply ε α).run w tr w' (some (.ok b))) :
    b = a ∧ w' = w ∧ tr = [] := by
  cases h with
  | done => exact ⟨rfl, rfl, rfl⟩

theorem exec_attempt {p : Fallible Op Reply ε α} {w w' : World} {tr : List (World × Op)}
    {r : Except ε α} (h : Exec M (attempt p).run w tr w' (some (.ok r))) :
    Exec M p.run w tr w' (some r) := by
  obtain ⟨hnone, -⟩ | ⟨tr₁, tr₂, w₁, x, hfirst, hsecond, rfl⟩ := Exec.bind_inv h
  · cases hnone
  · cases hsecond with
    | done => rwa [List.append_nil]

theorem exec_request_ok {op : Op} {result : Reply op → Except ε α} {w w' : World}
    {tr : List (World × Op)} {a : α}
    (h : Exec M (request op result).run w tr w' (some (.ok a))) : ∃ w₁ r, M.env w w₁ ∧
      M.step w₁ op r w' ∧ tr = [(w₁, op)] ∧ result r = .ok a := by
  obtain ⟨w₁, r, henv, hstep, htr, hr⟩ := exec_request_inv h
  exact ⟨w₁, r, henv, hstep, htr, hr.symm⟩

/-- A loop that came through, around one of its rounds. -/
theorem exec_foldlM_split {σ : Type} {f : σ → β → Fallible Op Reply ε σ} {before after : List β}
    {x : β} {s s' : σ} {w w' : World} {tr : List (World × Op)}
    (h : Exec M ((before ++ x :: after).foldlM f s).run w tr w' (some (.ok s'))) :
    ∃ s₁ s₂ w₁ w₂ tr₁ tr₂ tr₃, Exec M (before.foldlM f s).run w tr₁ w₁ (some (.ok s₁)) ∧
      Exec M (f s₁ x).run w₁ tr₂ w₂ (some (.ok s₂)) ∧
        Exec M (after.foldlM f s₂).run w₂ tr₃ w' (some (.ok s')) ∧ tr = tr₁ ++ (tr₂ ++ tr₃) := by
  rw [List.foldlM_append] at h
  obtain ⟨s₁, w₁, tr₁, tr', hbefore, hrest, rfl⟩ := exec_bind_ok h
  rw [List.foldlM_cons] at hrest
  obtain ⟨s₂, w₂, tr₂, tr₃, hround, hafter, rfl⟩ := exec_bind_ok hrest
  exact ⟨s₁, s₂, w₁, w₂, tr₁, tr₂, tr₃, hbefore, hround, hafter, rfl⟩

theorem exec_forM_cons {f : β → Fallible Op Reply ε PUnit} {x : β} {xs : List β} {w w' : World}
    {tr : List (World × Op)} (h : Exec M ((x :: xs).forM f).run w tr w' (some (.ok ⟨⟩))) :
    ∃ w₁ tr₁ tr₂, Exec M (f x).run w tr₁ w₁ (some (.ok ⟨⟩)) ∧
      Exec M (xs.forM f).run w₁ tr₂ w' (some (.ok ⟨⟩)) ∧ tr = tr₁ ++ tr₂ := by
  have hcons : Exec M (f x >>= fun _ => xs.forM f).run w tr w' (some (.ok ⟨⟩)) := h
  obtain ⟨_, w₁, tr₁, tr₂, hround, hrest, htr⟩ := exec_bind_ok hcons
  exact ⟨w₁, tr₁, tr₂, hround, hrest, htr⟩

theorem exec_forM_of_item {f : β → Fallible Op Reply ε PUnit} {xs : List β} {x : β} {w w' : World}
    {tr : List (World × Op)} (h : Exec M (xs.forM f).run w tr w' (some (.ok ⟨⟩))) (hx : x ∈ xs) :
    ∃ w₁ w₂ tr', Exec M (f x).run w₁ tr' w₂ (some (.ok ⟨⟩)) ∧ tr' <:+: tr := by
  induction xs generalizing w tr with
  | nil => cases hx
  | cons y xs ih =>
      obtain ⟨w₁, tr₁, tr₂, hround, hrest, rfl⟩ := exec_forM_cons h
      obtain rfl | hx := List.mem_cons.1 hx
      · exact ⟨w, w₁, tr₁, hround, (List.prefix_append _ _).isInfix⟩
      · obtain ⟨w₂, w₃, tr', hitem, hinfix⟩ := ih hrest hx
        exact ⟨w₂, w₃, tr', hitem, hinfix.trans (List.suffix_append _ _).isInfix⟩

/-- A call of a loop that came through lies in one of its rounds. -/
theorem exec_forM_of_mem {f : β → Fallible Op Reply ε PUnit} {xs : List β} {w w' : World}
    {tr : List (World × Op)} {e : World × Op}
    (h : Exec M (xs.forM f).run w tr w' (some (.ok ⟨⟩))) (he : e ∈ tr) :
    ∃ before x after w₁ w₂ tr₁ tr₂ tr₃, xs = before ++ x :: after ∧
      Exec M (before.forM f).run w tr₁ w₁ (some (.ok ⟨⟩)) ∧
      Exec M (f x).run w₁ tr₂ w₂ (some (.ok ⟨⟩)) ∧
      Exec M (after.forM f).run w₂ tr₃ w' (some (.ok ⟨⟩)) ∧ tr = tr₁ ++ (tr₂ ++ tr₃) ∧
      e ∈ tr₂ := by
  induction xs generalizing w tr with
  | nil =>
      obtain ⟨-, -, rfl⟩ := exec_pure h
      cases he
  | cons x xs ih =>
      obtain ⟨w₁, tr₁, tr₂, hround, hrest, rfl⟩ := exec_forM_cons h
      obtain he | he := List.mem_append.1 he
      · exact ⟨[], x, xs, w, w₁, [], tr₁, tr₂, rfl, .done _ w, hround, hrest, rfl, he⟩
      · obtain ⟨before, y, after, w₂, w₃, tr₃, tr₄, tr₅, rfl, hbefore, hitem, hafter, rfl, hmem⟩ :=
          ih hrest he
        have hfirst : Exec M ((x :: before).forM f).run w (tr₁ ++ tr₃) w₂ (some (.ok ⟨⟩)) :=
          exec_bind hround hbefore
        refine ⟨x :: before, y, after, w₂, w₃, tr₁ ++ tr₃, tr₄, tr₅, rfl, hfirst, hitem, hafter,
          ?_, hmem⟩
        rw [List.append_assoc]

end Fallible

end GhafDeviceManager
