import Mathlib.Tactic

/-!
# Programs over an operation interface

A `Program Op Reply α` is a finite tree: it either returns a value or calls one operation and
continues with the reply. Nothing here says what an operation does, so the same program can be
read against any world. `Calls S p` bounds the operations a program can ever call, whatever the
replies, and `Fallible` is the layer for programs whose early returns carry an error.
-/

namespace GhafDeviceManager

/-- A program returns, or calls an operation and goes on with its reply. -/
inductive Program (Op : Type) (Reply : Op → Type) (α : Type) : Type
  | pure (a : α) : Program Op Reply α
  | call (op : Op) (next : Reply op → Program Op Reply α) : Program Op Reply α

namespace Program

variable {Op : Type} {Reply : Op → Type} {α β γ : Type}

def bind : Program Op Reply α → (α → Program Op Reply β) → Program Op Reply β
  | .pure a, f => f a
  | .call op next, f => .call op fun r => bind (next r) f

instance : Monad (Program Op Reply) where
  pure := Program.pure
  bind := Program.bind

def ask (op : Op) : Program Op Reply (Reply op) := .call op .pure

theorem pure_bind (a : α) (f : α → Program Op Reply β) :
    (Program.pure a : Program Op Reply α) >>= f = f a := rfl

theorem call_bind (op : Op) (next : Reply op → Program Op Reply α) (f : α → Program Op Reply β) :
    Program.call op next >>= f = .call op fun r => next r >>= f := rfl

theorem bind_pure (p : Program Op Reply α) : p >>= Program.pure = p := by
  induction p with
  | pure a => rfl
  | call op next ih => rw [call_bind]; exact congrArg _ (funext ih)

theorem bind_assoc (p : Program Op Reply α) (f : α → Program Op Reply β)
    (g : β → Program Op Reply γ) : p >>= f >>= g = p >>= fun a => f a >>= g := by
  induction p with
  | pure a => rfl
  | call op next ih => simp only [call_bind]; exact congrArg _ (funext ih)

instance : LawfulMonad (Program Op Reply) :=
  LawfulMonad.mk' _ (fun p => bind_pure p) (fun a f => pure_bind a f)
    (fun p f g => bind_assoc p f g)

/-- Every operation the program can call, on any replies, lies in `S`. -/
def Calls (S : Op → Prop) : Program Op Reply α → Prop
  | .pure _ => True
  | .call op next => S op ∧ ∀ r, Calls S (next r)

@[simp] theorem calls_pure (S : Op → Prop) (a : α) :
    Calls S (Program.pure a : Program Op Reply α) := trivial

theorem calls_top (p : Program Op Reply α) : p.Calls fun _ => True := by
  induction p with
  | pure a => trivial
  | call op next ih => exact ⟨trivial, ih⟩

theorem calls_bind {S : Op → Prop} {p : Program Op Reply α} {f : α → Program Op Reply β}
    (hp : p.Calls S) (hf : ∀ a, (f a).Calls S) : (p >>= f).Calls S := by
  induction p with
  | pure a => exact hf a
  | call op next ih => exact ⟨hp.1, fun r => ih r (hp.2 r)⟩

theorem calls_mono {S T : Op → Prop} {p : Program Op Reply α} (hp : p.Calls S)
    (hST : ∀ op, S op → T op) : p.Calls T := by
  induction p with
  | pure a => trivial
  | call op next ih => exact ⟨hST op hp.1, fun r => ih r (hp.2 r)⟩

end Program

/-- Programs that can return early with an error, keeping what they did so far. -/
abbrev Fallible (Op : Type) (Reply : Op → Type) (ε α : Type) := ExceptT ε (Program Op Reply) α

namespace Fallible

variable {Op : Type} {Reply : Op → Type} {ε α β σ : Type}

/-- An operation whose reply cannot be an error. -/
def perform (op : Op) : Fallible Op Reply ε (Reply op) :=
  ExceptT.mk (Program.call op fun r => .pure (.ok r))

/-- An operation whose reply is itself a result. -/
def request (op : Op) (result : Reply op → Except ε α) : Fallible Op Reply ε α :=
  ExceptT.mk (Program.call op fun r => .pure (result r))

/-- Run to the end and hand back the result as a value. -/
def attempt (p : Fallible Op Reply ε α) : Fallible Op Reply ε (Except ε α) :=
  ExceptT.mk (p.run >>= fun r => Program.pure (.ok r))

def Calls (S : Op → Prop) (p : Fallible Op Reply ε α) : Prop := Program.Calls S p.run

variable {S : Op → Prop}

@[simp] theorem calls_pure (a : α) : Calls S (pure a : Fallible Op Reply ε α) := trivial

@[simp] theorem calls_throw (e : ε) : Calls S (throw e : Fallible Op Reply ε α) := trivial

@[simp] theorem calls_perform (op : Op) :
    Calls S (perform op : Fallible Op Reply ε (Reply op)) ↔ S op :=
  ⟨fun h => h.1, fun h => ⟨h, fun _ => trivial⟩⟩

theorem calls_request {op : Op} {result : Reply op → Except ε α} (h : S op) :
    Calls S (request op result) := ⟨h, fun _ => trivial⟩

theorem calls_bind {p : Fallible Op Reply ε α} {f : α → Fallible Op Reply ε β}
    (hp : Calls S p) (hf : ∀ a, Calls S (f a)) : Calls S (p >>= f) := by
  refine Program.calls_bind hp fun r => ?_
  cases r with
  | ok a => exact hf a
  | error e => trivial

theorem calls_attempt {p : Fallible Op Reply ε α} (hp : Calls S p) : Calls S (attempt p) :=
  Program.calls_bind hp fun _ => trivial

theorem calls_foldlM {xs : List β} {f : σ → β → Fallible Op Reply ε σ}
    (hf : ∀ s x, Calls S (f s x)) (s : σ) : Calls S (xs.foldlM f s) := by
  induction xs generalizing s with
  | nil => trivial
  | cons x xs ih => exact calls_bind (hf s x) ih

theorem calls_forM {xs : List β} {f : β → Fallible Op Reply ε PUnit}
    (hf : ∀ x ∈ xs, Calls S (f x)) : Calls S (xs.forM f) := by
  induction xs with
  | nil => trivial
  | cons x xs ih =>
      have hrest := ih fun y hy => hf y (List.mem_cons_of_mem x hy)
      exact calls_bind (hf x List.mem_cons_self) fun _ => hrest

end Fallible

end GhafDeviceManager
