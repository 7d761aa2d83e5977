import GhafDeviceManager.Runs

/-!
# The manager's memory under any answers

Only an update changes what the manager remembers, and a read tells all of it. `remembering` is
the memory alone, with everything else answered in any way; whatever surroundings leave the
memory alone, an execution among them is one of it.
-/

namespace GhafDeviceManager

def Op.remember : Op → Memory → Memory
  | .update u, m => u.apply m
  | _, m => m

def Op.Recalls (m : Memory) : (op : Op) → Reply op → Prop
  | .read _, r => r = m
  | _, _ => True

/-- The memory, among the operations that `admits` admits. -/
def remembering (admits : Op → Prop) : Machine Op Reply Memory where
  env := Eq
  step m op r m' := admits op ∧ op.Recalls m r ∧ m' = op.remember m

def Op.Rebinds (sysName : String) : Op → Prop
  | .update (.crosvmUsbPortsInsert device _ _ _) => device.sysName = sysName
  | .update (.crosvmUsbPortsRemove name) => name = sysName
  | _ => False

instance (op : Op) (sysName : String) : Decidable (op.Rebinds sysName) := by
  unfold Op.Rebinds
  split <;> infer_instance

theorem lookup_remember {op : Op} {sysName : String} (hop : ¬op.Rebinds sysName) (m : Memory) :
    (op.remember m).persistent.crosvmUsbPorts.lookup sysName =
      m.persistent.crosvmUsbPorts.lookup sysName := by
  cases op with
  | update u =>
      cases u with
      | crosvmUsbPortsInsert device vm port generation =>
          exact AList.lookup_insert_ne fun h => hop h.symm
      | crosvmUsbPortsRemove name => exact AList.lookup_erase_ne fun h => hop h.symm
      | _ => rfl
  | _ => rfl

/-- A machine whose worlds hold the memory, which nothing but an update changes. -/
structure Remembers {V : Type} (M : Machine Op Reply V) (memory : V → Memory) : Prop where
  env : ∀ v v', M.env v v' → memory v' = memory v
  step : ∀ v op r v', M.step v op r v' →
    op.Recalls (memory v) r ∧ memory v' = op.remember (memory v)

section Executions

variable {V α : Type} {M : Machine Op Reply V} {memory : V → Memory} {admits : Op → Prop}
  {p : Program Op Reply α} {v v' : V} {tr : List (V × Op)} {o : Option α}

theorem Exec.remembered (hM : Remembers M memory) (h : Exec M p v tr v' o)
    (htr : ∀ e ∈ tr, admits e.2) :
    Exec (remembering admits) p (memory v) (tr.map fun e => (memory e.1, e.2)) (memory v') o := by
  induction h with
  | done a v => exact .done a (memory v)
  | stop p v => exact .stop p (memory v)
  | call henv hstep _ ih =>
      obtain ⟨hop, hrest⟩ := List.forall_mem_cons.1 htr
      have hanswer := hM.step _ _ _ _ hstep
      rw [← hM.env _ _ henv]
      exact .call rfl ⟨hop, hanswer⟩ (ih hrest)

theorem Exec.memory_same (hM : Remembers M memory) (h : Exec M p v tr v' o)
    (htr : ∀ e ∈ tr, ∀ m, e.2.remember m = m) : memory v' = memory v := by
  induction h with
  | done a v => rfl
  | stop p v => rfl
  | call henv hstep _ ih =>
      obtain ⟨hop, hrest⟩ := List.forall_mem_cons.1 htr
      rw [ih hrest, (hM.step _ _ _ _ hstep).2, hop, hM.env _ _ henv]

/-- What every call keeps lasts from any call on. -/
theorem Exec.memory_lasts {I : Memory → Prop} (hM : Remembers M memory) (h : Exec M p v tr v' o)
    (htr : ∀ e ∈ tr, ∀ m, I m → I (e.2.remember m)) :
    (I (memory v) → I (memory v')) ∧ ∀ e ∈ tr, I (memory e.1) → I (memory v') := by
  induction h with
  | done a v => simp
  | stop p v => simp
  | call henv hstep _ ih =>
      obtain ⟨hop, hrest⟩ := List.forall_mem_cons.1 htr
      obtain ⟨hnow, hlater⟩ := ih hrest
      have hstart := fun hI => hnow ((hM.step _ _ _ _ hstep).2 ▸ hop _ hI)
      rw [← hM.env _ _ henv]
      exact ⟨hstart, List.forall_mem_cons.2 ⟨hstart, hlater⟩⟩

theorem Exec.binding_same (hM : Remembers M memory) (h : Exec M p v tr v' o) {sysName : String}
    (htr : ∀ e ∈ tr, ¬e.2.Rebinds sysName) :
    (memory v').persistent.crosvmUsbPorts.lookup sysName =
      (memory v).persistent.crosvmUsbPorts.lookup sysName := by
  induction h with
  | done a v => rfl
  | stop p v => rfl
  | call henv hstep _ ih =>
      obtain ⟨hop, hrest⟩ := List.forall_mem_cons.1 htr
      rw [ih hrest, (hM.step _ _ _ _ hstep).2, lookup_remember hop, hM.env _ _ henv]

/-- What is proved of the memory holds in every such machine. -/
theorem Program.wp_remembered {G : Memory → Op → Prop} {post : α → Memory → Prop}
    (hM : Remembers M memory) (hp : Program.wp (remembering admits) G p post (memory v))
    (h : Exec M p v tr v' o) (htr : ∀ e ∈ tr, admits e.2) :
    (∀ e ∈ tr, G (memory e.1) e.2) ∧ ∀ a, o = some a → post a (memory v') := by
  obtain ⟨hcalls, hend⟩ := Program.wp_sound hp (h.remembered hM htr)
  exact ⟨fun e he => hcalls _ (List.mem_map_of_mem he), hend⟩

end Executions

theorem react_remembers (w : World) (op : Op) (c : Choice) :
    op.Recalls w.memory (react w op c).1 ∧ (react w op c).2.memory = op.remember w.memory := by
  cases op with
  | update u => cases u <;> exact ⟨trivial, rfl⟩
  | read lock => exact ⟨rfl, rfl⟩
  | authorize name value => simp only [react]; split <;> exact ⟨trivial, rfl⟩
  | _ => exact ⟨trivial, rfl⟩

theorem remembers_machine (allowed : World → Op → Choice → Prop) :
    Remembers (machine allowed) World.memory where
  env _ _ h := congrArg World.memory h.symm
  step w op r w' h := by
    obtain ⟨c, -, hreact⟩ := h
    have hanswer := react_remembers w op c
    rwa [hreact] at hanswer

theorem remembers_among (allowed : World → Op → Choice → Prop) :
    Remembers (Machine.among Surroundings react allowed) World.memory where
  env _ _ h := h.memory
  step w op r w' h := by
    obtain ⟨c, -, hreact⟩ := h
    have hanswer := react_remembers w op c
    rwa [hreact] at hanswer

namespace Fallible

variable {α β : Type} {admits : Op → Prop} {G : Memory → Op → Prop} {m : Memory}

@[simp] theorem wp_remembering (op : Op) (result : Reply op → Except Error α)
    (post : Except Error α → Memory → Prop) :
    wp (remembering admits) G (request op result) post m ↔ G m op ∧
      (admits op → ∀ r, op.Recalls m r → post (result r) (op.remember m)) := by
  rw [wp_request]
  constructor
  · intro h
    obtain ⟨hop, hpost⟩ := h m rfl
    exact ⟨hop, fun hadmits r hr => hpost r _ ⟨hadmits, hr, rfl⟩⟩
  · rintro ⟨hop, hpost⟩ _ rfl
    refine ⟨hop, ?_⟩
    rintro r _ ⟨hadmits, hr, rfl⟩
    exact hpost hadmits r hr

/-- The frame rule: what every operation leaves alone. -/
theorem wp_of_calls_remembering {S : Op → Prop} {I : Memory → Prop} {p : Act α} (hp : Calls S p)
    (hS : ∀ op, S op → ∀ m, I m → G m op ∧ I (op.remember m)) (hm : I m) :
    wp (remembering admits) G p (fun _ => I) m := by
  refine wp_of_calls hp ?_ (fun op hop m hm => ⟨(hS op hop m hm).1, ?_⟩) hm
  · rintro m _ rfl h
    exact h
  · rintro r _ ⟨-, -, rfl⟩
    exact (hS op hop m hm).2

theorem wp_keeping {I : Memory → Prop} {p : Act α}
    (hp : Calls (fun op => ∀ m, I m → I (op.remember m)) p) (hm : I m) :
    wp (remembering admits) (fun _ _ => True) p (fun _ => I) m :=
  wp_of_calls_remembering hp (fun _ hop m hm => ⟨trivial, hop m hm⟩) hm

/-- A first half of which only an invariant is needed. -/
theorem wp_bind_keeping {I : Memory → Prop} {p : Act α} {f : α → Act β}
    {post : Except Error β → Memory → Prop}
    (hp : Calls (fun op => ∀ m, I m → I (op.remember m)) p)
    (herror : ∀ e m, post (.error e) m)
    (hf : ∀ a m, I m → wp (remembering admits) (fun _ _ => True) (f a) post m) (hm : I m) :
    wp (remembering admits) (fun _ _ => True) (p >>= f) post m := by
  rw [wp_bind]
  refine wp_imp (wp_keeping hp hm) fun r m' hm' => ?_
  cases r with
  | ok a => exact hf a m' hm'
  | error e => exact herror e m'

theorem wp_bind_any {p : Act α} {f : α → Act β} {post : Except Error β → Memory → Prop}
    (herror : ∀ e m, post (.error e) m)
    (hf : ∀ a m, wp (remembering admits) (fun _ _ => True) (f a) post m) (m : Memory) :
    wp (remembering admits) (fun _ _ => True) (p >>= f) post m := by
  have hp : Calls (fun op => ∀ m : Memory, True → True) p :=
    Program.calls_mono (Program.calls_top p.run) fun _ _ _ h => h
  exact wp_bind_keeping (I := fun _ => True) hp herror (fun a m _ => hf a m) trivial

theorem wp_withLock_remembering {lock : Lock} {p : Act α} {post : Except Error α → Memory → Prop}
    (hlock : ∀ m, G m (.lock lock)) (hunlock : ∀ m, G m (.unlock lock))
    (h : wp (remembering admits) G p post m) :
    wp (remembering admits) G (withLock lock p) post m := by
  rw [withLock, wp_bind, wp_remembering]
  refine ⟨hlock m, fun _ _ _ => ?_⟩
  rw [andThen_ok, wp_bind, wp_attempt]
  refine wp_imp h fun r m' hpost => ?_
  rw [andThen_ok, wp_bind, wp_remembering]
  refine ⟨hunlock m', fun _ _ _ => ?_⟩
  rw [andThen_ok]
  cases r with
  | ok a => exact hpost
  | error e => exact hpost

/-- Whatever the order, what comes is what the map holds. -/
theorem wp_inOrder_remembering {map : Map α} (horder : G m (.order map.keys)) :
    wp (remembering admits) G (inOrder map) (fun r m' => m' = m ∧ ∀ entries, r = .ok entries →
      ∀ x ∈ entries, map.lookup x.1 = some x.2) m := by
  rw [inOrder, wp_bind, order, wp_remembering]
  refine ⟨horder, fun _ keys _ => ⟨rfl, fun entries hentries x hx => ?_⟩⟩
  obtain rfl := Except.ok.inj hentries
  obtain ⟨k, -, hk⟩ := List.mem_filterMap.1 hx
  obtain ⟨value, hvalue, rfl⟩ := Option.map_eq_some_iff.1 hk
  exact hvalue

end Fallible

end GhafDeviceManager
