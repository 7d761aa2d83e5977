import Mathlib.Tactic

/-!
# Saturation

A set of nodes grows by whatever can be reached from it in one step, until nothing is new. Over
finitely many nodes this ends, and what it ends with is what can be reached at all.
-/

namespace GhafDeviceManager

variable {α : Type} {grow : List α → List α} {nodes : List α} {edge : α → α → Prop}

/-- Add what is new until there is nothing; `none` where the fuel did not last. -/
def saturate (grow : List α → List α) : (fuel : ℕ) → List α → Option (List α)
  | 0, _ => none
  | fuel + 1, found =>
    let new := grow found
    if new.isEmpty then some found else saturate grow fuel (found ++ new)

/-- The nodes one step away from those found that are not among them. -/
def Grows (grow : List α → List α) (nodes : List α) (edge : α → α → Prop) : Prop :=
  ∀ found b, b ∈ grow found ↔ b ∈ nodes ∧ b ∉ found ∧ ∃ a ∈ found, edge a b

def EdgeWithin (nodes : List α) (edge : α → α → Prop) (a b : α) : Prop := b ∈ nodes ∧ edge a b

/-- From some of these nodes, in any number of steps. -/
def ReachedFrom (nodes : List α) (edge : α → α → Prop) (found : List α) (b : α) : Prop :=
  ∃ a ∈ found, Relation.ReflTransGen (EdgeWithin nodes edge) a b

section Steps

variable {found : List α}

theorem reachedFrom_append (h : Grows grow nodes edge) (b : α) :
    ReachedFrom nodes edge (found ++ grow found) b ↔ ReachedFrom nodes edge found b := by
  constructor
  · rintro ⟨a, ha, hsteps⟩
    obtain ha | ha := List.mem_append.1 ha
    · exact ⟨a, ha, hsteps⟩
    · obtain ⟨hnode, -, a', ha', hedge⟩ := (h found a).1 ha
      exact ⟨a', ha', .head ⟨hnode, hedge⟩ hsteps⟩
  · rintro ⟨a, ha, hsteps⟩
    exact ⟨a, List.mem_append_left _ ha, hsteps⟩

/-- Where nothing is new, everything is found. -/
theorem mem_of_reachedFrom (h : Grows grow nodes edge) (hdone : (grow found).isEmpty = true)
    {b : α} (hb : ReachedFrom nodes edge found b) : b ∈ found := by
  obtain ⟨a, ha, hsteps⟩ := hb
  induction hsteps with
  | refl => exact ha
  | tail _ hstep ih =>
      refine by_contra fun hnot => ?_
      have hnew := (h found _).2 ⟨hstep.1, hnot, _, ih, hstep.2⟩
      rw [List.isEmpty_iff.1 hdone] at hnew
      cases hnew

variable [DecidableEq α]

def missing (nodes found : List α) : List α := nodes.filter fun b => b ∉ found

theorem missing_lt (h : Grows grow nodes edge) (hnew : ¬(grow found).isEmpty = true) :
    (missing nodes (found ++ grow found)).length < (missing nodes found).length := by
  obtain ⟨b, hb⟩ := List.exists_mem_of_ne_nil (grow found) (by simpa using hnew)
  obtain ⟨hnode, hnot, -⟩ := (h found b).1 hb
  have hsub : missing nodes (found ++ grow found) =
      (missing nodes found).filter fun b => b ∉ grow found := by
    unfold missing
    rw [List.filter_filter]
    congr 1
    funext b
    simp [Bool.and_comm]
  rw [hsub]
  refine List.length_filter_lt_length_iff_exists.2 ⟨b, ?_, by simpa using hb⟩
  exact List.mem_filter.2 ⟨hnode, by simpa using hnot⟩

/-- With fuel for every node not found yet, saturation ends with what can be reached. -/
theorem saturate_spec (h : Grows grow nodes edge) {fuel : ℕ} (found : List α)
    (hfuel : (missing nodes found).length < fuel) :
    ∃ all, saturate grow fuel found = some all ∧ ∀ b, b ∈ all ↔ ReachedFrom nodes edge found b := by
  induction fuel generalizing found with
  | zero => omega
  | succ fuel ih =>
      rw [saturate]
      by_cases hdone : (grow found).isEmpty = true
      · refine ⟨found, if_pos hdone, fun b => ⟨fun hb => ⟨b, hb, .refl⟩, ?_⟩⟩
        exact mem_of_reachedFrom h hdone
      · have hless := missing_lt h hdone
        obtain ⟨all, hall, hmem⟩ := ih (found ++ grow found) (by omega)
        refine ⟨all, (if_neg hdone).trans hall, fun b => ?_⟩
        rw [hmem, reachedFrom_append h]

end Steps

end GhafDeviceManager
