import GhafDeviceManager.Reconcile

/-!
# Preconditions of the manager's operations

The rules of the combinators of `Act`. An operation is a `Fallible.request`, and its rule is the
answer `react` gives.
-/

namespace GhafDeviceManager

instance : Inhabited Choice := ⟨{}⟩

/-- Every answer `react` can give. -/
def anyChoice : World → Op → Choice → Prop := fun _ _ _ => True

theorem machine_total (w : World) (op : Op) : ∃ r w', (machine anyChoice).step w op r w' :=
  ⟨_, _, {}, trivial, rfl⟩

def Effect.Of (op : Op) : Effect → Prop
  | .entered entry => op = .enter entry
  | .usbAttach vm node _ _ _ => op = .usbAttach vm node
  | .portRecorded device vm port generation =>
    op = .update (.crosvmUsbPortsInsert device vm port generation)
  | _ => True

theorem react_log (w : World) (op : Op) (c : Choice) :
    (react w op c).2.log = w.log ∨
      ∃ effect, (react w op c).2.log = effect :: w.log ∧ effect.Of op := by
  cases op with
  | update u =>
      cases u with
      | crosvmUsbPortsInsert device vm port generation => exact .inr ⟨_, rfl, rfl⟩
      | _ => exact .inl rfl
  | authorize name value =>
      simp only [react]
      split
      · exact .inl rfl
      · exact .inr ⟨_, rfl, trivial⟩
  | enter entry => exact .inr ⟨_, rfl, rfl⟩
  | usbAttach vm node => exact .inr ⟨_, rfl, rfl⟩
  | _ => first | exact .inl rfl | exact .inr ⟨_, rfl, trivial⟩

theorem react_sockets (w : World) (op : Op) (c : Choice) :
    (react w op c).2.sockets = w.sockets := by
  cases op with
  | update u => cases u <;> rfl
  | authorize name value => simp only [react]; split <;> rfl
  | _ => rfl

theorem react_daemon (w : World) (op : Op) (c : Choice) :
    (react w op c).2.daemon = w.daemon := by
  cases op with
  | update u => cases u <;> rfl
  | authorize name value => simp only [react]; split <;> rfl
  | _ => rfl

attribute [simp] enter readMemory update notify order socketGeneration usbList usbAttach usbDetach
  usbBus scanUsbRoot deviceNames interfaces driver probe release authorization authorize
  setAutoprobe readAutoprobe setAuthorizedDefault

section Rules

variable {α : Type} {allowed : World → Op → Choice → Prop} {G : World → Op → Prop} {w : World}

@[simp] theorem wp_operation (op : Op) (result : Reply op → Except Error α)
    (post : Except Error α → World → Prop) :
    Fallible.wp (machine allowed) G (Fallible.request op result) post w ↔ G w op ∧
      ∀ c, allowed w op c → post (result (react w op c).1) (react w op c).2 :=
  Fallible.wp_request_ofReact op result post w

/-- No program changes the daemon it runs in. -/
theorem wp_daemon (p : Act α) : Fallible.wp (machine allowed) (fun _ _ => True) p
    (fun _ w' => w'.daemon = w.daemon) w := by
  refine Fallible.wp_of_calls (Program.calls_top p.run) ?_ ?_ rfl
  · rintro w₁ _ rfl h
    exact h
  · rintro op _ w₁ h
    refine ⟨trivial, ?_⟩
    rintro r w₂ ⟨c, _, hreact⟩
    have hstep := react_daemon w₁ op c
    rw [hreact] at hstep
    exact hstep.trans h

section Combinators

variable {V : Type} {M : Machine Op Reply V} {G : V → Op → Prop} {v : V}

@[simp] theorem wp_require (context : String) (o : Option α)
    (post : Except Error α → V → Prop) :
    Fallible.wp M G (require context o) post v ↔
      post (o.elim (.error [context]) .ok) v := by
  cases o <;> rfl

@[simp] theorem wp_warnOnError (p : Act Unit) (post : Except Error Unit → V → Prop) :
    Fallible.wp M G (warnOnError p) post v ↔ Fallible.wp M G p (fun _ => post (.ok ())) v := by
  simp [warnOnError, Except.map]

@[simp] theorem wp_withContext (context : String) (p : Act α)
    (post : Except Error α → V → Prop) :
    Fallible.wp M G (withContext context p) post v ↔
      Fallible.wp M G p (fun r => post (r.mapError fun e => context :: e)) v := by
  simp only [withContext, Fallible.wp_bind, Fallible.wp_attempt]
  refine iff_of_eq (congrArg (fun q => Fallible.wp M G p q v) ?_)
  funext r v'
  cases r <;> rfl

end Combinators

/-- A locked section, seen from inside it. -/
@[simp] theorem wp_withLock (lock : Lock) (p : Act α) (post : Except Error α → World → Prop) :
    Fallible.wp (machine allowed) G (withLock lock p) post w ↔ G w (.lock lock) ∧
      ∀ c, allowed w (.lock lock) c → Fallible.wp (machine allowed) G p (fun r w' =>
        G w' (.unlock lock) ∧ ∀ c, allowed w' (.unlock lock) c → post r w') w := by
  simp only [withLock, Fallible.wp_bind, wp_operation, react, Fallible.andThen_ok,
    Fallible.wp_attempt]
  refine and_congr_right fun _ => forall₂_congr fun _ _ => iff_of_eq ?_
  refine congrArg (fun q => Fallible.wp (machine allowed) G p q w) (funext₂ fun r w' => ?_)
  refine propext ?_
  cases r <;> simp [react, Except.map]

end Rules

end GhafDeviceManager
