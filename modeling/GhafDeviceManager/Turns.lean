import GhafDeviceManager.Interleaving
import GhafDeviceManager.Steps

/-!
# Two programs of the manager at one world

A request and a pass take turns call by call, each lock at one side at a time. What the calls of a
run amount to, as far as a property needs it, is kept beside the world.
-/

namespace GhafDeviceManager

structure Shared (Story : Type) where
  world : World
  story : Story
  holder : Lock → Option Party := fun _ => none

def heldAfter (party : Party) (holder : Lock → Option Party) : Op → Lock → Option Party
  | .lock l => Function.update holder l (some party)
  | .unlock l => if holder l = some party then Function.update holder l none else holder
  | _ => holder

namespace Shared

variable {Story : Type}

/-- A lock that the other side holds is waited for, by a reading as well. -/
def free (s : Shared Story) (party : Party) : Op → Prop
  | .lock l => s.holder l = none
  | .read l => s.holder l = none ∨ s.holder l = some party
  | _ => True

instance (s : Shared Story) (party : Party) (op : Op) : Decidable (s.free party op) := by
  delta free
  induction op using Op.casesOn <;> infer_instance

def react (next : Party → Story → (op : Op) → Reply op → Story) (party : Party)
    (s : Shared Story) (op : Op) (c : Choice) : Reply op × Shared Story :=
  let answer := GhafDeviceManager.react s.world op c
  (answer.1,
    { world := answer.2
      story := next party s.story op answer.1
      holder := heldAfter party s.holder op })

variable {s : Shared Story} {party rival : Party} {op : Op}

/-- What one side holds the other does not take. -/
theorem heldAfter_other {l : Lock} (hne : party ≠ rival) (hfree : s.free party op)
    (h : s.holder l = some rival) : heldAfter party s.holder op l = some rival := by
  cases op with
  | lock taken =>
      have htaken : l ≠ taken := by
        rintro rfl
        rw [free, h] at hfree
        cases hfree
      rw [heldAfter, Function.update_of_ne htaken, h]
  | unlock left =>
      simp only [heldAfter]
      split
      case isTrue hleft =>
        have hother : l ≠ left := by
          rintro rfl
          rw [h] at hleft
          exact hne (Option.some.inj hleft).symm
        rw [Function.update_of_ne hother, h]
      case isFalse => exact h
  | _ => exact h

end Shared

end GhafDeviceManager
