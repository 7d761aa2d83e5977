import Mathlib.Order.RelClasses

/-!
# What has to happen

A goal is inevitable where every run comes to it: no run gets stuck before it, and none goes on
for ever without it. The rule asks for progress at every state of an invariant and for a
well-founded rank that every step that misses the goal lowers.
-/

namespace GhafDeviceManager

variable {σ ρ : Type}

/-- Every run of `step` comes to a step of `goal`. -/
inductive Inevitable (step goal : σ → σ → Prop) : σ → Prop
  | intro (s : σ) (hsome : ∃ s', step s s' ∨ goal s s')
      (hall : ∀ s', step s s' → Inevitable step goal s') : Inevitable step goal s

theorem inevitable_of_rank {step goal : σ → σ → Prop} {I : σ → Prop} {rank : σ → ρ}
    {lower : ρ → ρ → Prop} (hwf : WellFounded lower)
    (hprogress : ∀ s, I s → ∃ s', step s s' ∨ goal s s')
    (hkeeps : ∀ s s', I s → step s s' → I s')
    (hlowers : ∀ s s', I s → step s s' → lower (rank s') (rank s)) {s : σ} (hs : I s) :
    Inevitable step goal s := by
  induction hrank : rank s using hwf.induction generalizing s with
  | _ r ih =>
      refine .intro s (hprogress s hs) fun s' hstep => ?_
      have hlower := hlowers s s' hs hstep
      rw [hrank] at hlower
      exact ih _ hlower (hkeeps s s' hs hstep) rfl

end GhafDeviceManager
