import GhafDeviceManager.CleanPass
import GhafDeviceManager.Isolation
import GhafDeviceManager.Replies

/-!
# Deferring to VMs that do not run

A pass reports a failed attach unless the VM it was asked for is configured and has no socket. The
attach itself may have settled on another VM, the only one its rule allows.
-/

namespace GhafDeviceManager

open Fallible

/-! ## The attaches of a pass -/

def Entry.attach (d : Daemon) : Entry → Option (Act Unit)
  | .attachOneUsb device rule requestedVm =>
    some (GhafDeviceManager.attachOneUsb d device rule requestedVm)
  | .attachOnePci device rule requestedVm =>
    some (GhafDeviceManager.attachOnePci d device rule requestedVm)
  | _ => none

def Entry.requested : Entry → Option String
  | .attachOneUsb _ _ requestedVm => requestedVm
  | .attachOnePci _ _ requestedVm => requestedVm
  | _ => none

/-- The VM an attach settles on by the replies it got. -/
def settledOn : Entry → Replies Op Reply → Option String
  | .attachOneUsb device rule requestedVm, _ :: ⟨.read .state, m⟩ :: _ =>
    chooseVm requestedVm rule m.persistent.selectedVms device.persistentId
  | .attachOnePci _ rule requestedVm, _ => requestedVm <|> rule.targetVm
  | _, _ => none

/-- Within these replies the attach ran and returned `r`. -/
structure Ran (d : Daemon) (c : Replies Op Reply) (entry : Entry) (mid : Replies Op Reply)
    (r : Except Error Unit) : Prop where
  replays : ∃ p ∈ entry.attach d, Replays p.run mid r
  within : mid <:+: c

/-- Every attach entered in these replies comes to its end in them. -/
def Closed (d : Daemon) (c : Replies Op Reply) : Prop :=
  ∀ (before : Replies Op Reply) (entry : Entry) (after : Replies Op Reply),
    c = before ++ ⟨.enter entry, ()⟩ :: after → ∀ p ∈ entry.attach d,
      ∃ mid r, Replays p.run mid r ∧ mid <+: ⟨.enter entry, ()⟩ :: after

def Fails {α : Type} (p : Act α) (c : Replies Op Reply) : Prop :=
  ∃ mid e, mid <:+: c ∧ Replays p.run mid (.error e)

def Op.Plain (d : Daemon) (op : Op) : Prop := ∀ entry, op = .enter entry → entry.attach d = none

section Attaches

variable {d : Daemon} {c c₁ c₂ mid : Replies Op Reply} {entry : Entry} {r : Except Error Unit}
  {p : Act Unit}

theorem plain_of_assigns {device : UsbDevice} {op : Op} (h : op.Assigns device) : op.Plain d := by
  rintro entry rfl
  obtain rfl : entry = .detachOneUsb device false := h
  rfl

theorem plain_of_assignsPci {device : PciDevice} {op : Op} (h : op.AssignsPci device) :
    op.Plain d := by
  rintro entry rfl
  exact h.elim

theorem plain_of_mem_singleton {op : Op} {reply : Reply op} {e : (op : Op) × Reply op}
    (hop : ∀ entry, op ≠ .enter entry) (he : e ∈ [⟨op, reply⟩]) : e.1.Plain d := by
  have hsame : e.1 = op := congrArg Sigma.fst (List.mem_singleton.1 he)
  intro entry hentry
  exact absurd (hsame.symm.trans hentry) (hop entry)

/-- An attach enters itself first and no other. -/
theorem replays_attach (hp : p ∈ entry.attach d) (h : Replays p.run mid r) :
    ∃ tail, mid = ⟨.enter entry, ()⟩ :: tail ∧ ∀ e ∈ tail, e.1.Plain d := by
  cases entry with
  | attachOneUsb device rule requestedVm =>
      obtain rfl := Option.some.inj hp
      cases h with
      | @call _ _ reply tail _ hrest =>
          have hassigns := hrest.calls (calls_attachEntered d device rule requestedVm)
          exact ⟨tail, rfl, fun e he => plain_of_assigns (hassigns e he)⟩
  | attachOnePci device rule requestedVm =>
      obtain rfl := Option.some.inj hp
      cases h with
      | @call _ _ reply tail _ hrest =>
          have hassigns := hrest.calls (calls_attachPciEntered d device rule requestedVm)
          exact ⟨tail, rfl, fun e he => plain_of_assignsPci (hassigns e he)⟩
  | _ => cases hp

theorem closed_of_plain (h : ∀ e ∈ c, e.1.Plain d) : Closed d c := by
  rintro before entry after rfl p hp
  have hnone := h ⟨.enter entry, ()⟩ (by simp) entry rfl
  rw [hnone] at hp
  cases hp

theorem not_ran_of_plain (h : ∀ e ∈ c, e.1.Plain d) : ¬Ran d c entry mid r := by
  rintro ⟨⟨p, hp, hreplays⟩, hwithin⟩
  obtain ⟨tail, rfl, -⟩ := replays_attach hp hreplays
  have hnone := h ⟨.enter entry, ()⟩ (hwithin.mem List.mem_cons_self) entry rfl
  rw [hnone] at hp
  cases hp

theorem ran_attach_iff {entry' : Entry} {mid' : Replies Op Reply} {r' : Except Error Unit}
    (hp : p ∈ entry.attach d) (h : Replays p.run mid r) :
    Ran d mid entry' mid' r' ↔ entry' = entry ∧ mid' = mid ∧ r' = r := by
  constructor
  · rintro ⟨⟨p', hp', hreplays⟩, before, after, hwithin⟩
    obtain ⟨tail, rfl, hplain⟩ := replays_attach hp h
    obtain ⟨tail', rfl, -⟩ := replays_attach hp' hreplays
    cases before with
    | nil =>
        simp only [List.nil_append, List.cons_append, List.cons.injEq] at hwithin
        obtain ⟨hhead, htail⟩ := hwithin
        obtain rfl : entry' = entry := by
          have hop := congrArg Sigma.fst hhead
          simpa using hop
        obtain rfl : p' = p := Option.some.inj (hp'.symm.trans hp)
        have hwhole : ⟨.enter entry', ()⟩ :: tail' ++ after = ⟨.enter entry', ()⟩ :: tail ++ [] := by
          simp [htail]
        obtain ⟨hsame, rfl⟩ := hreplays.unique h hwhole
        exact ⟨rfl, hsame, rfl⟩
    | cons e before =>
        simp only [List.cons_append, List.append_assoc, List.cons.injEq] at hwithin
        have hmem : (⟨.enter entry', ()⟩ : (op : Op) × Reply op) ∈ tail := by
          rw [← hwithin.2]
          simp
        have hnone := hplain _ hmem entry' rfl
        rw [hnone] at hp'
        cases hp'
  · rintro ⟨rfl, rfl, rfl⟩
    exact ⟨⟨p, hp, h⟩, List.infix_rfl⟩

theorem closed_attach (hp : p ∈ entry.attach d) (h : Replays p.run mid r) : Closed d mid := by
  obtain ⟨tail, rfl, hplain⟩ := replays_attach hp h
  intro before entry' after hsplit p' hp'
  cases before with
  | nil =>
      simp only [List.nil_append, List.cons.injEq] at hsplit
      obtain ⟨hhead, rfl⟩ := hsplit
      obtain rfl : entry = entry' := by
        have hop := congrArg Sigma.fst hhead
        simpa using hop
      obtain rfl : p' = p := Option.some.inj (hp'.symm.trans hp)
      exact ⟨_, r, h, List.prefix_rfl⟩
  | cons e before =>
      simp only [List.cons_append, List.cons.injEq] at hsplit
      have hmem : (⟨.enter entry', ()⟩ : (op : Op) × Reply op) ∈ tail := by
        rw [hsplit.2]
        simp
      have hnone := hplain _ hmem entry' rfl
      rw [hnone] at hp'
      cases hp'

theorem Closed.append (h₁ : Closed d c₁) (h₂ : Closed d c₂) : Closed d (c₁ ++ c₂) := by
  intro before entry after hsplit p hp
  obtain ⟨more, rfl, hrest⟩ | ⟨more, rfl, hrest⟩ := List.append_eq_append_iff.1 hsplit
  · exact h₂ more entry after hrest p hp
  · cases more with
    | nil => exact h₂ [] entry after hrest.symm p hp
    | cons e more =>
        simp only [List.cons_append, List.cons.injEq] at hrest
        obtain ⟨rfl, rfl⟩ := hrest
        obtain ⟨mid, r, hreplays, hprefix⟩ := h₁ before entry more rfl p hp
        exact ⟨mid, r, hreplays, hprefix.trans (List.prefix_append _ c₂)⟩

/-- An attach does not reach over the end of replies that are closed. -/
theorem ran_append_iff (h₁ : Closed d c₁) :
    Ran d (c₁ ++ c₂) entry mid r ↔ Ran d c₁ entry mid r ∨ Ran d c₂ entry mid r := by
  constructor
  · rintro ⟨⟨p, hp, hreplays⟩, before, after, hwithin⟩
    obtain ⟨tail, rfl, -⟩ := replays_attach hp hreplays
    rw [List.append_assoc] at hwithin
    obtain ⟨more, rfl, hrest⟩ | ⟨more, rfl, hrest⟩ := List.append_eq_append_iff.1 hwithin
    · cases more with
      | nil => exact .inr ⟨⟨p, hp, hreplays⟩, [], after, by simpa using hrest⟩
      | cons e more =>
          simp only [List.cons_append, List.cons.injEq] at hrest
          obtain ⟨rfl, hrest⟩ := hrest
          obtain ⟨mid', r', hreplays', rest, hprefix⟩ := h₁ before entry more rfl p hp
          have hsame : (⟨.enter entry, ()⟩ :: tail) ++ after = mid' ++ (rest ++ c₂) := by
            rw [← List.append_assoc, hprefix, List.cons_append, List.cons_append, hrest]
          obtain ⟨rfl, rfl⟩ := hreplays.unique hreplays' hsame
          exact .inl ⟨⟨p, hp, hreplays⟩, before, rest, by rw [List.append_assoc, hprefix]⟩
    · exact .inr ⟨⟨p, hp, hreplays⟩, more, after, by rw [List.append_assoc]; exact hrest.symm⟩
  · rintro (⟨hreplays, hwithin⟩ | ⟨hreplays, hwithin⟩)
    · exact ⟨hreplays, hwithin.trans (List.prefix_append c₁ c₂).isInfix⟩
    · exact ⟨hreplays, hwithin.trans (List.suffix_append c₁ c₂).isInfix⟩

end Attaches

/-! ## What becomes of them -/

/-- The VM is configured and has no socket. -/
def Absent (d : Daemon) (w : World) (vmName : String) : Prop :=
  ∃ vm ∈ d.vm vmName, w.sockets vm.socket = none

/-- `vm_stopped` -/
def Stopped (d : Daemon) (w : World) (target : Option String) : Prop :=
  ∃ vmName ∈ target, Absent d w vmName

/-- An attach settles on the VM it was asked for, and is asked for one where the rule or the
selection names one. -/
inductive Settles : Entry → Replies Op Reply → Prop
  | asked {entry : Entry} {mid : Replies Op Reply} {vmName : String}
      (hrequested : entry.requested = some vmName) (hsettled : settledOn entry mid = some vmName) :
      Settles entry mid
  | open_ {device : UsbDevice} {rule : RuleMatch} {m : Memory} {rest : Replies Op Reply}
      (htarget : rule.targetVm = none)
      (hselected : m.persistent.selectedVms.lookup device.persistentId = none) :
      Settles (.attachOneUsb device rule none)
        (⟨.enter (.attachOneUsb device rule none), ()⟩ :: ⟨.read .state, m⟩ :: rest)

/-- A stretch of a pass that begins with `failures` and ends with `failures'`: every failed attach
is deferred or reported, by whether the VM it was asked for is stopped. -/
structure Accounts (d : Daemon) (w₀ : World) (failures : List String) (w : World)
    (c : Replies Op Reply) (failures' : List String) (w' : World) : Prop where
  sockets : w'.sockets = w.sockets
  closed : Closed d c
  grown : failures ≠ [] → failures' ≠ []
  kept : w.memory.deferred = true → w'.memory.deferred = true
  stopped : ∀ entry mid e, Ran d c entry mid (.error e) → Stopped d w₀ entry.requested →
    w'.memory.deferred = true
  running : ∀ entry mid e, Ran d c entry mid (.error e) → ¬Stopped d w₀ entry.requested →
    failures' ≠ []
  reported : failures' ≠ [] → failures ≠ [] ∨
    ∃ entry mid e, Ran d c entry mid (.error e) ∧ ¬Stopped d w₀ entry.requested
  settles : ∀ entry mid r, Ran d c entry mid r → Settles entry mid

section Accounts

variable {d : Daemon} {w₀ w w₁ w' : World} {c c₁ c₂ : Replies Op Reply}
  {failures failures₁ failures' : List String} {allowed : World → Op → Choice → Prop}

theorem Accounts.trans (h₁ : Accounts d w₀ failures w c₁ failures₁ w₁)
    (h₂ : Accounts d w₀ failures₁ w₁ c₂ failures' w') :
    Accounts d w₀ failures w (c₁ ++ c₂) failures' w' where
  sockets := h₂.sockets.trans h₁.sockets
  closed := h₁.closed.append h₂.closed
  grown h := h₂.grown (h₁.grown h)
  kept h := h₂.kept (h₁.kept h)
  stopped entry mid e hran hstopped := by
    obtain hran | hran := (ran_append_iff h₁.closed).1 hran
    · exact h₂.kept (h₁.stopped entry mid e hran hstopped)
    · exact h₂.stopped entry mid e hran hstopped
  running entry mid e hran hrunning := by
    obtain hran | hran := (ran_append_iff h₁.closed).1 hran
    · exact h₂.grown (h₁.running entry mid e hran hrunning)
    · exact h₂.running entry mid e hran hrunning
  reported h := by
    obtain hearlier | ⟨entry, mid, e, hran, hrunning⟩ := h₂.reported h
    · obtain hbegan | ⟨entry, mid, e, hran, hrunning⟩ := h₁.reported hearlier
      · exact .inl hbegan
      · exact .inr ⟨entry, mid, e, (ran_append_iff h₁.closed).2 (.inl hran), hrunning⟩
    · exact .inr ⟨entry, mid, e, (ran_append_iff h₁.closed).2 (.inr hran), hrunning⟩
  settles entry mid r hran := by
    obtain hran | hran := (ran_append_iff h₁.closed).1 hran
    · exact h₁.settles entry mid r hran
    · exact h₂.settles entry mid r hran

theorem accounts_plain (hplain : ∀ e ∈ c, e.1.Plain d) (hsockets : w'.sockets = w.sockets)
    (hkept : w.memory.deferred = true → w'.memory.deferred = true) :
    Accounts d w₀ failures w c failures w' where
  sockets := hsockets
  closed := closed_of_plain hplain
  grown := id
  kept := hkept
  stopped _ _ _ hran := absurd hran (not_ran_of_plain hplain)
  running _ _ _ hran := absurd hran (not_ran_of_plain hplain)
  reported := .inl
  settles _ _ _ hran := absurd hran (not_ran_of_plain hplain)

theorem finished_operation {α : Type} {op : Op} {result : Reply op → Except Error α}
    {r : Except Error α}
    (h : Finished (machine allowed) (Fallible.request op result).run w c w' r) :
    ∃ k, allowed w op k ∧ c = [⟨op, (react w op k).1⟩] ∧ w' = (react w op k).2 ∧
      r = result (react w op k).1 := by
  obtain ⟨w₁, reply, rfl, ⟨k, hk, hreact⟩, rfl, rfl⟩ := finished_request h
  exact ⟨k, hk, by rw [hreact], by rw [hreact], by rw [hreact]⟩

theorem finished_sockets {α : Type} {p : Program Op Reply α} {a : α}
    (h : Finished (machine allowed) p w c w' a) : w'.sockets = w.sockets := by
  refine h.sound (G := fun _ _ => True) (Program.wp_of_calls
    (I := fun w₁ => w₁.sockets = w.sockets) (Program.calls_top p) ?_ ?_ rfl)
  · rintro w₁ _ rfl hw₁
    exact hw₁
  · rintro op _ w₁ hw₁
    refine ⟨trivial, ?_⟩
    rintro r w₂ ⟨k, _, hreact⟩
    have hstep := react_sockets w₁ op k
    rw [hreact] at hstep
    exact hstep.trans hw₁

theorem finished_keepsDeferral {α : Type} {p : Program Op Reply α} {a : α}
    (h : Finished (machine allowed) p w c w' a) (hp : p.Calls Op.KeepsDeferral)
    (hw : w.memory.deferred = true) : w'.memory.deferred = true := by
  refine h.sound (G := fun _ _ => True) (Program.wp_of_calls (I := fun w => w.memory.deferred = true)
    hp ?_ ?_ hw)
  · rintro w₁ _ rfl hw₁
    exact hw₁
  · rintro op hop w₁ hw₁
    refine ⟨trivial, fun r w₂ hstep => ?_⟩
    rw [((remembers_machine allowed).step w₁ op r w₂ hstep).2]
    exact hop _ hw₁

theorem finished_vmStopped {target : Option String} {r : Except Error Bool}
    (hsockets : w.sockets = w₀.sockets)
    (h : Finished (machine allowed) (vmStopped d target).run w c w' r) :
    ∃ stopped, r = .ok stopped ∧ (stopped = true ↔ Stopped d w₀ target) ∧ w' = w ∧
      ∀ e ∈ c, e.1.Plain d := by
  unfold vmStopped at h
  cases hvm : target.bind d.vm with
  | none =>
      rw [hvm] at h
      obtain ⟨rfl, rfl, rfl⟩ := finished_pure h
      refine ⟨false, rfl, ⟨nofun, ?_⟩, rfl, by simp⟩
      rintro ⟨vmName, htarget, vm, hconfigured, -⟩
      rw [htarget, Option.bind_some, hconfigured] at hvm
      cases hvm
  | some vm =>
      rw [hvm] at h
      obtain ⟨e, -, hfailed⟩ | ⟨generation, c₁, c₂, w₁, hasked, hrest, rfl⟩ := finished_bind h
      · obtain ⟨k, -, -, -, hok⟩ := finished_operation hfailed
        cases hok
      obtain ⟨k, -, rfl, hsame, hgeneration⟩ := finished_operation hasked
      obtain rfl : w = w₁ := hsame.symm
      obtain ⟨rfl, rfl, rfl⟩ := finished_pure hrest
      obtain rfl : generation = w'.sockets vm.socket := Except.ok.inj hgeneration
      obtain ⟨vmName, rfl, hconfigured⟩ := Option.bind_eq_some_iff.1 hvm
      refine ⟨_, rfl, ?_, rfl, fun e he => ?_⟩
      · rw [Option.isNone_iff_eq_none, hsockets]
        constructor
        · exact fun habsent => ⟨vmName, rfl, vm, hconfigured, habsent⟩
        · rintro ⟨other, hother, vm', hvm', habsent⟩
          obtain rfl : vmName = other := Option.some.inj hother
          obtain rfl := Option.some.inj (hconfigured.symm.trans hvm')
          exact habsent
      · have hop : ∀ entry, Op.socketGeneration vm.socket ≠ .enter entry := fun _ => nofun
        exact plain_of_mem_singleton hop he

/-- One attach, whose failure is deferred or reported. -/
theorem accounts_attach {entry : Entry} {p : Act Unit} {mid : Replies Op Reply}
    {x : Except Error Unit} (hentry : p ∈ entry.attach d) (hreplays : Replays p.run mid x)
    (hsettled : Settles entry mid) (hsockets : w'.sockets = w.sockets)
    (hkept : w.memory.deferred = true → w'.memory.deferred = true)
    (houtcome : (failures' = failures ∧ ∀ e, x = .error e →
        Stopped d w₀ entry.requested ∧ w'.memory.deferred = true) ∨
      failures' ≠ [] ∧ ¬Stopped d w₀ entry.requested ∧ ∃ e, x = .error e) :
    Accounts d w₀ failures w mid failures' w' := by
  have hran : ∀ {entry' mid' r'}, Ran d mid entry' mid' r' ↔
      entry' = entry ∧ mid' = mid ∧ r' = x := ran_attach_iff hentry hreplays
  refine ⟨hsockets, closed_attach hentry hreplays, ?_, hkept, ?_, ?_, ?_, ?_⟩
  · obtain ⟨rfl, -⟩ | ⟨hsome, -⟩ := houtcome
    · exact id
    · exact fun _ => hsome
  · intro entry' mid' e h hstopped
    obtain ⟨rfl, -, hx⟩ := hran.1 h
    obtain ⟨-, hdeferred⟩ | ⟨-, hrunning, -⟩ := houtcome
    · exact (hdeferred e hx.symm).2
    · exact absurd hstopped hrunning
  · intro entry' mid' e h hrunning
    obtain ⟨rfl, -, hx⟩ := hran.1 h
    obtain ⟨-, hdeferred⟩ | ⟨hsome, -⟩ := houtcome
    · exact absurd (hdeferred e hx.symm).1 hrunning
    · exact hsome
  · intro hsome
    obtain ⟨rfl, -⟩ | ⟨-, hrunning, e, rfl⟩ := houtcome
    · exact .inl hsome
    · exact .inr ⟨entry, mid, e, hran.2 ⟨rfl, rfl, rfl⟩, hrunning⟩
  · intro entry' mid' r' h
    obtain ⟨rfl, rfl, -⟩ := hran.1 h
    exact hsettled

theorem accounts_collectDeferring {entry : Entry} {p : Act Unit} {name : String}
    {r : Except Error (List String)} (hentry : p ∈ entry.attach d)
    (hcalls : Calls Op.KeepsDeferral p)
    (hsettles : ∀ mid w₁ r, Finished (machine allowed) p.run w mid w₁ r → Settles entry mid)
    (hsockets : w.sockets = w₀.sockets)
    (h : Finished (machine allowed) (collectDeferring d name entry.requested p failures).run w c w'
      r) : ∃ failures', r = .ok failures' ∧ Accounts d w₀ failures w c failures' w' := by
  obtain ⟨e, -, hfailed⟩ | ⟨x, mid, c₂, w₁, hattempt, hrest, rfl⟩ := finished_bind h
  · obtain ⟨x, hok, -⟩ := finished_attempt hfailed
    cases hok
  obtain ⟨_, hx, hattach⟩ := finished_attempt hattempt
  obtain rfl := Except.ok.inj hx
  have hreplays := hattach.replays
  have hsettled : Settles entry mid := hsettles mid w₁ x hattach
  have hsame : w₁.sockets = w.sockets := finished_sockets hattach
  have hkept := finished_keepsDeferral hattach hcalls
  cases x with
  | ok _ =>
      obtain ⟨rfl, rfl, rfl⟩ := finished_pure hrest
      rw [List.append_nil]
      exact ⟨failures, rfl, accounts_attach hentry hreplays hsettled hsame hkept
        (.inl ⟨rfl, fun _ => nofun⟩)⟩
  | error e =>
      have hsockets₁ := hsame.trans hsockets
      obtain ⟨e', -, hfailed⟩ | ⟨stopped, c₃, c₄, w₂, hstopped, hlast, rfl⟩ := finished_bind hrest
      · obtain ⟨_, hok, -⟩ := finished_vmStopped hsockets₁ hfailed
        cases hok
      obtain ⟨_, hok, hiff, hsame₂, hplain⟩ := finished_vmStopped hsockets₁ hstopped
      obtain rfl := Except.ok.inj hok
      obtain rfl : w₁ = w₂ := hsame₂.symm
      cases stopped with
      | true =>
          obtain ⟨_, -, hfailed⟩ | ⟨_, c₅, c₆, w₃, hupdate, hend, rfl⟩ := finished_bind hlast
          · obtain ⟨k, -, -, -, hok⟩ := finished_operation hfailed
            cases hok
          obtain ⟨k, -, rfl, rfl, -⟩ := finished_operation hupdate
          obtain ⟨rfl, rfl, rfl⟩ := finished_pure hend
          have hfirst : Accounts d w₀ failures w mid failures
              (react w₁ (.update (.deferred true)) k).2 :=
            accounts_attach hentry hreplays hsettled hsame (fun _ => rfl)
              (.inl ⟨rfl, fun _ _ => ⟨hiff.1 rfl, rfl⟩⟩)
          refine ⟨failures, rfl, hfirst.trans (accounts_plain (fun e he => ?_) rfl id)⟩
          rw [List.append_nil, List.mem_append, List.mem_singleton] at he
          obtain he | he := he
          · exact hplain e he
          · rw [he]
            exact fun _ => nofun
      | false =>
          obtain ⟨rfl, rfl, rfl⟩ := finished_pure hlast
          have hrunning : ¬Stopped d w₀ entry.requested := fun hstopped =>
            nomatch hiff.2 hstopped
          refine ⟨_, rfl, (accounts_attach hentry hreplays hsettled hsame hkept
            (.inr ⟨?_, hrunning, e, rfl⟩)).trans (accounts_plain (fun e he => ?_) rfl id)⟩
          · simp
          · rw [List.append_nil] at he
            exact hplain e he

theorem finished_ask {α : Type} {op : Op} {f : Reply op → Act α} {r : Except Error α}
    (h : Finished (machine allowed) (Fallible.request op .ok >>= f).run w c w' r) :
    ∃ k rest, c = ⟨op, (react w op k).1⟩ :: rest ∧
      Finished (machine allowed) (f (react w op k).1).run (react w op k).2 rest w' r := by
  obtain ⟨e, -, hfailed⟩ | ⟨reply, c₁, rest, w₁, hasked, hrest, rfl⟩ := finished_bind h
  · obtain ⟨k, -, -, -, hok⟩ := finished_operation hfailed
    cases hok
  · obtain ⟨k, -, rfl, rfl, hreply⟩ := finished_operation hasked
    obtain rfl := Except.ok.inj hreply
    exact ⟨k, rest, rfl, hrest⟩

/-- What a resume asks an attach for is what the rule and the selection name. -/
theorem settles_usb {device : UsbDevice} {rule : RuleMatch} {mid : Replies Op Reply}
    {r : Except Error Unit} (h : Finished (machine allowed) (attachOneUsb d device rule
      (resumeTarget rule w.memory.persistent.selectedVms device.persistentId)).run w mid w₁ r) :
    Settles (.attachOneUsb device rule
      (resumeTarget rule w.memory.persistent.selectedVms device.persistentId)) mid := by
  generalize htarget : resumeTarget rule w.memory.persistent.selectedVms device.persistentId =
    target at h ⊢
  cases h with
  | call hstay hentered hrest =>
      obtain rfl := hstay
      obtain ⟨k, -, hreact⟩ := hentered
      cases hrest with
      | call henv hread hrest =>
          obtain rfl := henv
          obtain ⟨k', -, hreact'⟩ := hread
          cases hreact
          cases hreact'
          cases target with
          | some vmName => exact .asked rfl rfl
          | none =>
              unfold resumeTarget at htarget
              cases hrule : rule.targetVm with
              | some vmName =>
                  rw [hrule] at htarget
                  cases htarget
              | none =>
                  rw [hrule] at htarget
                  exact .open_ hrule htarget

theorem keepsDeferral_of_attachesPci {device : PciDevice} {op : Op} (h : op.AttachesPci device) :
    op.KeepsDeferral := by
  intro m hm
  cases op with
  | update u => cases u <;> first | exact hm | exact h.elim
  | _ => exact hm

theorem accounts_read {lock : Lock} {rest : Replies Op Reply}
    (hrest : Accounts d w₀ failures w rest failures' w') :
    Accounts d w₀ failures w (⟨.read lock, w.memory⟩ :: rest) failures' w' := by
  have hread : Accounts d w₀ failures w [⟨.read lock, w.memory⟩] failures w := by
    refine accounts_plain (fun e he => ?_) rfl id
    have hop : ∀ entry, Op.read lock ≠ .enter entry := fun _ => nofun
    exact plain_of_mem_singleton hop he
  exact hread.trans hrest

theorem accounts_resumeUsbDevice {device : UsbDevice} {rule : RuleMatch}
    {r : Except Error (List String)} (hsockets : w.sockets = w₀.sockets)
    (h : Finished (machine allowed) (resumeUsbDevice d none failures device rule).run w c w' r) :
    ∃ failures', r = .ok failures' ∧ Accounts d w₀ failures w c failures' w' := by
  have hone : ∀ {target : Option String} {c : Replies Op Reply},
      target = resumeTarget rule w.memory.persistent.selectedVms device.persistentId →
      Finished (machine allowed) (do
        if inScope none target then
          collectDeferring d device.sysName target (attachOneUsb d device rule target) failures
        else return failures : Act (List String)).run w c w' r →
      ∃ failures', r = .ok failures' ∧ Accounts d w₀ failures w c failures' w' := by
    rintro target c rfl hrest
    let entry : Entry := .attachOneUsb device rule
      (resumeTarget rule w.memory.persistent.selectedVms device.persistentId)
    have hentry : attachOneUsb d device rule
        (resumeTarget rule w.memory.persistent.selectedVms device.persistentId) ∈
          entry.attach d := rfl
    have hcalls := calls_attachOneUsb d device rule
      (resumeTarget rule w.memory.persistent.selectedVms device.persistentId)
        (fun _ => id) fun op hop => keepsDeferral_of_assigns hop
    exact accounts_collectDeferring hentry hcalls (fun _ _ _ => settles_usb) hsockets hrest
  unfold resumeUsbDevice at h
  obtain ⟨k, rest, rfl, hrest⟩ := finished_ask h
  change ∃ failures', r = .ok failures' ∧
    Accounts d w₀ failures w (⟨.read .state, w.memory⟩ :: rest) failures' w'
  split at hrest
  case isTrue hmarked =>
    obtain ⟨rfl, rfl, rfl⟩ := finished_pure hrest
    exact ⟨failures, rfl, accounts_read (accounts_plain (by simp) rfl id)⟩
  case isFalse hconnected =>
    split at hrest
    case h_1 target htarget =>
      have hsame : some target =
          resumeTarget rule w.memory.persistent.selectedVms device.persistentId := by
        rw [resumeTarget, htarget]
        rfl
      obtain ⟨failures', hr, haccounts⟩ := hone hsame hrest
      exact ⟨failures', hr, accounts_read haccounts⟩
    case h_2 htarget =>
      obtain ⟨k', rest', rfl, hrest'⟩ := finished_ask hrest
      have hsame : w.memory.persistent.selectedVms.lookup device.persistentId =
          resumeTarget rule w.memory.persistent.selectedVms device.persistentId := by
        rw [resumeTarget, htarget]
        rfl
      obtain ⟨failures', hr, haccounts⟩ := hone hsame hrest'
      exact ⟨failures', hr, accounts_read (accounts_read haccounts)⟩

theorem accounts_resumePciDevice {device : PciDevice} {rule : RuleMatch}
    {r : Except Error (List String)} (hsockets : w.sockets = w₀.sockets)
    (h : Finished (machine allowed) (resumePciDevice d none failures device rule).run w c w' r) :
    ∃ failures', r = .ok failures' ∧ Accounts d w₀ failures w c failures' w' := by
  unfold resumePciDevice at h
  obtain ⟨k, rest, rfl, hrest⟩ := finished_ask h
  change ∃ failures', r = .ok failures' ∧
    Accounts d w₀ failures w (⟨.read .state, w.memory⟩ :: rest) failures' w'
  split at hrest
  case isTrue hmarked =>
    obtain ⟨rfl, rfl, rfl⟩ := finished_pure hrest
    exact ⟨failures, rfl, accounts_read (accounts_plain (by simp) rfl id)⟩
  case isFalse hconnected =>
    cases htarget : rule.targetVm with
    | none =>
        rw [htarget] at hrest
        obtain ⟨rfl, rfl, rfl⟩ := finished_pure hrest
        exact ⟨failures, rfl, accounts_read (accounts_plain (by simp) rfl id)⟩
    | some vmName =>
        rw [htarget] at hrest
        let entry : Entry := .attachOnePci device rule (some vmName)
        have hentry : attachOnePci d device rule (some vmName) ∈ entry.attach d := rfl
        have hcalls : Calls Op.KeepsDeferral (attachOnePci d device rule (some vmName)) :=
          Program.calls_mono (calls_attachOnePci d device rule (some vmName))
            fun op hop => keepsDeferral_of_attachesPci hop
        obtain ⟨failures', hr, haccounts⟩ := accounts_collectDeferring hentry hcalls
          (fun _ _ _ _ => .asked rfl rfl) hsockets hrest
        exact ⟨failures', hr, accounts_read haccounts⟩

theorem accounts_rounds {β : Type} {devices : List β} {f : List String → β → Act (List String)}
    {r : Except Error (List String)}
    (hf : ∀ x failures w c w' r, w.sockets = w₀.sockets →
      Finished (machine allowed) (f failures x).run w c w' r →
        ∃ failures', r = .ok failures' ∧ Accounts d w₀ failures w c failures' w')
    (hsockets : w.sockets = w₀.sockets)
    (h : Finished (machine allowed) (devices.foldlM f failures).run w c w' r) :
    ∃ failures', r = .ok failures' ∧ Accounts d w₀ failures w c failures' w' := by
  induction devices generalizing failures w c with
  | nil =>
      obtain ⟨rfl, rfl, rfl⟩ := finished_pure h
      exact ⟨failures, rfl, accounts_plain (by simp) rfl id⟩
  | cons x rest ih =>
      rw [List.foldlM_cons] at h
      obtain ⟨e, -, hfailed⟩ | ⟨failures₁, c₁, c₂, w₁, hround, hrest, rfl⟩ := finished_bind h
      · obtain ⟨_, hok, -⟩ := hf x failures w _ w' _ hsockets hfailed
        cases hok
      · obtain ⟨_, hok, hfirst⟩ := hf x failures w _ w₁ _ hsockets hround
        obtain rfl := Except.ok.inj hok
        obtain ⟨failures', hr, hlater⟩ := ih (hfirst.sockets.trans hsockets) hrest
        exact ⟨failures', hr, hfirst.trans hlater⟩

theorem finished_withLock {α : Type} {lock : Lock} {p : Act α} {r : Except Error α}
    (h : Finished (machine allowed) (withLock lock p).run w c w' r) :
    ∃ mid, c = ⟨.lock lock, ()⟩ :: (mid ++ [⟨.unlock lock, ()⟩]) ∧
      Finished (machine allowed) p.run w mid w' r := by
  obtain ⟨e, -, hfailed⟩ | ⟨_, c₁, c₂, w₁, hlock, hrest, rfl⟩ := finished_bind h
  · obtain ⟨k, -, -, -, hok⟩ := finished_operation hfailed
    cases hok
  obtain ⟨k, -, rfl, hstay, -⟩ := finished_operation hlock
  obtain rfl : w = w₁ := hstay.symm
  obtain ⟨e, -, hfailed⟩ | ⟨x, mid, c₃, w₂, hattempt, hend, rfl⟩ := finished_bind hrest
  · obtain ⟨_, hok, -⟩ := finished_attempt hfailed
    cases hok
  obtain ⟨_, hx, hp⟩ := finished_attempt hattempt
  obtain rfl := Except.ok.inj hx
  obtain ⟨e, -, hfailed⟩ | ⟨_, c₄, c₅, w₃, hunlock, hlast, rfl⟩ := finished_bind hend
  · obtain ⟨k, -, -, -, hok⟩ := finished_operation hfailed
    cases hok
  obtain ⟨k', -, rfl, hstay', -⟩ := finished_operation hunlock
  obtain rfl : w₂ = w₃ := hstay'.symm
  have hsame : r = x ∧ w' = w₂ ∧ c₅ = [] := by
    cases x with
    | ok a =>
        cases hlast with
        | done => exact ⟨rfl, rfl, rfl⟩
    | error e =>
        cases hlast with
        | done => exact ⟨rfl, rfl, rfl⟩
  obtain ⟨rfl, rfl, rfl⟩ := hsame
  exact ⟨mid, rfl, hp⟩

theorem finished_aggregate {r : Except Error Unit}
    (h : Finished (machine allowed) (aggregate failures).run w c w' r) :
    c = [] ∧ w' = w ∧ (r = .ok () ↔ failures = []) := by
  unfold aggregate at h
  split at h
  case isTrue hempty =>
    obtain ⟨rfl, rfl, rfl⟩ := finished_pure h
    exact ⟨rfl, rfl, iff_of_true rfl (List.isEmpty_iff.1 hempty)⟩
  case isFalse hsome =>
    cases h with
    | done => exact ⟨rfl, rfl, iff_of_false nofun fun hnil => hsome (by rw [hnil]; rfl)⟩

theorem accounts_collect {p : Act Unit} {name : String} {r : Except Error (List String)}
    (hp : ∀ r', Finished (machine allowed) p.run w c w' r' →
      ∃ failures', Accounts d w₀ [] w c failures' w' ∧ (r' = .ok () ↔ failures' = []))
    (h : Finished (machine allowed) (collect name p failures).run w c w' r) :
    ∃ failures', r = .ok failures' ∧ Accounts d w₀ failures w c failures' w' := by
  obtain ⟨e, -, hfailed⟩ | ⟨x, c₁, c₂, w₁, hattempt, hrest, rfl⟩ := finished_bind h
  · obtain ⟨_, hok, -⟩ := finished_attempt hfailed
    cases hok
  obtain ⟨_, hx, hrun⟩ := finished_attempt hattempt
  obtain rfl := Except.ok.inj hx
  cases x with
  | ok _ =>
      obtain ⟨rfl, rfl, rfl⟩ := finished_pure hrest
      rw [List.append_nil] at hp ⊢
      obtain ⟨failures', haccounts, hiff⟩ := hp _ hrun
      obtain rfl := hiff.1 rfl
      refine ⟨failures, rfl, ⟨haccounts.sockets, haccounts.closed, id, haccounts.kept,
        haccounts.stopped, fun entry mid e hran hrunning => ?_, .inl, haccounts.settles⟩⟩
      exact absurd rfl (haccounts.running entry mid e hran hrunning)
  | error e =>
      obtain ⟨rfl, rfl, rfl⟩ := finished_pure hrest
      rw [List.append_nil] at hp ⊢
      obtain ⟨failures', haccounts, hiff⟩ := hp _ hrun
      have hsome : failures' ≠ [] := fun hnil => nomatch hiff.2 hnil
      refine ⟨_, rfl, ⟨haccounts.sockets, haccounts.closed, fun _ => by simp, haccounts.kept,
        haccounts.stopped, fun _ _ _ _ _ => by simp, fun _ => ?_, haccounts.settles⟩⟩
      obtain hnot | hreported := haccounts.reported hsome
      · exact absurd rfl hnot
      · exact .inr hreported

theorem accounts_request (op : Op) (reply : Reply op) (hop : ∀ entry, op ≠ .enter entry) :
    Accounts d w₀ failures w [⟨op, reply⟩] failures w :=
  accounts_plain (fun _ he => plain_of_mem_singleton hop he) rfl id

theorem accounts_report {β : Type} {devices : List β} {f : List String → β → Act (List String)}
    {r : Except Error Unit}
    (hf : ∀ x failures w c w' r, w.sockets = w₀.sockets →
      Finished (machine allowed) (f failures x).run w c w' r →
        ∃ failures', r = .ok failures' ∧ Accounts d w₀ failures w c failures' w')
    (hsockets : w.sockets = w₀.sockets)
    (h : Finished (machine allowed) (devices.foldlM f [] >>= aggregate).run w c w' r) :
    ∃ failures', Accounts d w₀ [] w c failures' w' ∧ (r = .ok () ↔ failures' = []) := by
  obtain ⟨e, -, hfailed⟩ | ⟨failures', c₁, c₂, w₁, hrounds, hend, rfl⟩ := finished_bind h
  · obtain ⟨_, hok, -⟩ := accounts_rounds hf hsockets hfailed
    cases hok
  obtain ⟨_, hok, haccounts⟩ := accounts_rounds hf hsockets hrounds
  obtain rfl := Except.ok.inj hok
  obtain ⟨rfl, rfl, hiff⟩ := finished_aggregate hend
  rw [List.append_nil]
  exact ⟨failures', haccounts, hiff⟩

theorem accounts_locked {β : Type} {scan : Act (List β)} {tail : List β → Act Unit}
    {r : Except Error Unit} (hscan : Calls (Op.Plain d) scan)
    (hscanned : Calls Op.KeepsDeferral scan) (hsucceeds : ¬Fails scan c)
    (hsockets : w.sockets = w₀.sockets)
    (htail : ∀ devices w c, w.sockets = w₀.sockets →
      Finished (machine allowed) (tail devices).run w c w' r →
        ∃ failures', Accounts d w₀ [] w c failures' w' ∧ (r = .ok () ↔ failures' = []))
    (h : Finished (machine allowed) (withLock .operation (scan >>= tail)).run w c w' r) :
    ∃ failures', Accounts d w₀ [] w c failures' w' ∧ (r = .ok () ↔ failures' = []) := by
  obtain ⟨body, rfl, hbody⟩ := finished_withLock h
  have hwithin : body <:+: ⟨.lock .operation, ()⟩ :: (body ++ [⟨.unlock .operation, ()⟩]) :=
    ⟨[⟨.lock .operation, ()⟩], [⟨.unlock .operation, ()⟩], rfl⟩
  obtain ⟨e, -, hfailed⟩ | ⟨devices, c₁, c₂, w₁, hdevices, hrest, rfl⟩ := finished_bind hbody
  · exact absurd ⟨body, e, hwithin, hfailed.replays⟩ hsucceeds
  have hfirst : Accounts d w₀ [] w c₁ [] w₁ :=
    accounts_plain (hdevices.replays.calls hscan) (finished_sockets hdevices)
      (finished_keepsDeferral hdevices hscanned)
  obtain ⟨failures', hlater, hiff⟩ := htail devices w₁ c₂ (hfirst.sockets.trans hsockets) hrest
  have hunlocked := (hfirst.trans hlater).trans
    (accounts_request (.unlock .operation) () fun _ => nofun)
  have hlocked := (accounts_request (.lock .operation) () fun _ => nofun).trans hunlocked
  exact ⟨failures', hlocked, hiff⟩

theorem accounts_resumePci {r : Except Error Unit} (hsucceeds : ¬Fails (pciDevices d) c)
    (hsockets : w.sockets = w₀.sockets)
    (h : Finished (machine allowed) (resumePci d none).run w c w' r) :
    ∃ failures', Accounts d w₀ [] w c failures' w' ∧ (r = .ok () ↔ failures' = []) := by
  have hplain : Calls (Op.Plain d) (pciDevices d) :=
    calls_pciDevices (fun _ => nofun) fun _ _ => nofun
  have hkeeps : Calls Op.KeepsDeferral (pciDevices d) :=
    calls_pciDevices (fun _ => id) fun _ _ => id
  rw [resumePci] at h
  refine accounts_locked hplain hkeeps hsucceeds hsockets (fun devices w c hw hrest => ?_) h
  exact accounts_report (fun x failures w c w' r => accounts_resumePciDevice) hw hrest

theorem accounts_resumeUsb {r : Except Error Unit} (hsucceeds : ¬Fails (usbDevices d) c)
    (hsockets : w.sockets = w₀.sockets)
    (h : Finished (machine allowed) (resumeUsb d none).run w c w' r) :
    ∃ failures', Accounts d w₀ [] w c failures' w' ∧ (r = .ok () ↔ failures' = []) := by
  have hplain : Calls (Op.Plain d) (usbDevices d) := calls_usbDevices fun _ => nofun
  have hkeeps : Calls Op.KeepsDeferral (usbDevices d) := calls_usbDevices fun _ => id
  rw [resumeUsb] at h
  refine accounts_locked hplain hkeeps hsucceeds hsockets (fun devices w c hw hrest => ?_) h
  obtain ⟨e, -, hfailed⟩ | ⟨_, c₁, c₂, w₁, hentered, hloop, rfl⟩ := finished_bind hrest
  · obtain ⟨k, -, -, -, hok⟩ := finished_operation hfailed
    cases hok
  obtain ⟨k, -, rfl, rfl, -⟩ := finished_operation hentered
  have hopened : Accounts d w₀ [] w [⟨.enter (.resumeUsb devices), ()⟩] []
      (react w (.enter (.resumeUsb devices)) k).2 := by
    refine accounts_plain (fun e he => ?_) rfl id
    obtain rfl := List.mem_singleton.1 he
    rintro entry hsame
    obtain rfl := Op.enter.inj hsame
    rfl
  obtain ⟨failures', haccounts, hiff⟩ :=
    accounts_report (fun x failures w c w' r => accounts_resumeUsbDevice) (hopened.sockets.trans hw)
      hloop
  exact ⟨failures', hopened.trans haccounts, hiff⟩

end Accounts

/-! ## A pass -/

def FailedFor (d : Daemon) (c : Replies Op Reply) (vmName : String) : Prop :=
  ∃ entry mid e, Ran d c entry mid (.error e) ∧ settledOn entry mid = some vmName

/-- An attach failed that had nothing to settle on the VM by but that its rule allows no other. -/
def FellBack (d : Daemon) (c : Replies Op Reply) (vmName : String) : Prop :=
  ∃ (device : UsbDevice) (rule : RuleMatch) (m : Memory) (rest : Replies Op Reply) (e : Error),
    Ran d c (.attachOneUsb device rule none)
      (⟨.enter (.attachOneUsb device rule none), ()⟩ :: ⟨.read .state, m⟩ :: rest) (.error e) ∧
    rule.targetVm = none ∧ m.persistent.selectedVms.lookup device.persistentId = none ∧
    rule.allowedVms = [vmName]

/-- There is a failure that no stopped VM is the reason of. -/
def Reportable (d : Daemon) (w : World) (c : Replies Op Reply) : Prop :=
  (∃ vmName, FailedFor d c vmName ∧ ¬Absent d w vmName) ∨ Fails (deauthorizeUnmatchedUsb d) c

/-- A pass from `w` fails only for a reason, and defers what it does not fail for. -/
structure DefersAbsent (d : Daemon) (w : World) (c : Replies Op Reply) (w' : World)
    (r : Except Error Unit) : Prop where
  reports : r ≠ .ok () → Reportable d w c
  defers : (∃ vmName, FailedFor d c vmName) → (∀ vmName, FailedFor d c vmName → Absent d w vmName) →
    ¬Fails (deauthorizeUnmatchedUsb d) c → r = .ok () ∧ w'.memory.deferred = true

section Pass

variable {d : Daemon} {w w' : World} {c : Replies Op Reply} {entry : Entry}
  {mid : Replies Op Reply} {e : Error} {vmName : String}
  {allowed : World → Op → Choice → Prop}

theorem FellBack.failedFor (h : FellBack d c vmName) : FailedFor d c vmName := by
  obtain ⟨device, rule, m, rest, e, hran, htarget, hselected, hallowed⟩ := h
  refine ⟨_, _, e, hran, ?_⟩
  simp [settledOn, chooseVm, htarget, hselected, hallowed]

theorem replays_pending {id : String} {n : Notification} {r : Except Error Unit}
    (h : Replays (do if ← insertPending id then notify n : Act Unit).run c r) : r = .ok () := by
  cases h with
  | call hlocked =>
      cases hlocked with
      | @call _ _ m _ _ hread =>
          cases hread with
          | call hinserted =>
              cases hinserted with
              | call hunlocked =>
                  have htold : Replays (if !m.pendingUsbSelection.contains id then notify n
                      else pure () : Act Unit).run _ r := hunlocked
                  split at htold
                  case isTrue =>
                    cases htold with
                    | call hend =>
                        cases hend with
                        | done => rfl
                  case isFalse =>
                    cases htold with
                    | done => rfl

theorem replays_unchosen {vmName : Option String} {rule : RuleMatch} {device : UsbDevice}
    {c : Replies Op Reply} {r : Except Error Unit}
    (h : Replays (match vmName with
      | none => do
        if ← insertPending device.persistentId then
          notify (.usbSelectVm device rule.allowedVms)
      | some vmName => attachUsbTo d device rule vmName : Act Unit).run c r)
    (hnone : vmName = none) : r = .ok () := by
  rw [hnone] at h
  exact replays_pending h

/-- An attach without a VM to be asked for fails only for the one VM its rule allows. -/
theorem fellBack_of_open (hran : Ran d c entry mid (.error e)) (hsettles : Settles entry mid)
    (hrequested : entry.requested = none) : ∃ vmName, FellBack d c vmName := by
  cases hsettles with
  | asked hsome _ =>
      rw [hrequested] at hsome
      cases hsome
  | @open_ device rule m rest htarget hselected =>
      by_cases hallowed : ∃ vmName, rule.allowedVms = [vmName]
      · obtain ⟨vmName, hallowed⟩ := hallowed
        exact ⟨vmName, device, rule, m, rest, e, hran, htarget, hselected, hallowed⟩
      · have hnone : chooseVm none rule m.persistent.selectedVms device.persistentId = none := by
          unfold chooseVm
          rw [htarget, hselected]
          cases hvms : rule.allowedVms with
          | nil => rfl
          | cons first others =>
              cases others with
              | nil => exact absurd ⟨first, hvms⟩ hallowed
              | cons _ _ => rfl
        obtain ⟨⟨p, hp, hreplays⟩, -⟩ := hran
        obtain rfl := Option.some.inj hp
        cases hreplays with
        | call hrest =>
            cases hrest with
            | call hrest =>
                cases replays_unchosen hrest hnone

theorem plain_of_gates {op : Op} (h : op.Gates) : op.Plain d := by
  rintro entry rfl
  cases entry with
  | attachOneUsb _ _ _ | attachOnePci _ _ _ => exact h.elim
  | _ => rfl

theorem plain_of_clears {op : Op} (h : op.Clears) : op.Plain d := by
  rintro entry rfl
  cases entry with
  | attachOneUsb _ _ _ | attachOnePci _ _ _ => exact h.elim
  | _ => rfl

theorem plain_of_sweeps {op : Op} (h : op.Sweeps) : op.Plain d := by
  rintro entry rfl
  cases entry with
  | attachOneUsb _ _ _ | attachOnePci _ _ _ => exact h.elim
  | _ => rfl

theorem keepsDeferral_of_gates {op : Op} (h : op.Gates) : op.KeepsDeferral := by
  intro m hm
  cases op with
  | update u => cases u <;> first | exact hm | exact h.elim
  | _ => exact hm

theorem keepsDeferral_of_clears {op : Op} (h : op.Clears) : op.KeepsDeferral := by
  intro m hm
  cases op with
  | update u => cases u <;> first | exact hm | exact h.elim
  | _ => exact hm

theorem keepsDeferral_of_sweeps {op : Op} (h : op.Sweeps) : op.KeepsDeferral := by
  intro m hm
  cases op with
  | update u => cases u <;> first | exact hm | exact h.elim
  | _ => exact hm

theorem Fails.mono {α : Type} {p : Act α} {c₁ c₂ : Replies Op Reply} (h : Fails p c₁)
    (hwithin : c₁ <:+: c₂) : Fails p c₂ := by
  obtain ⟨mid, e, hmid, hreplays⟩ := h
  exact ⟨mid, e, hmid.trans hwithin, hreplays⟩

theorem accounts_part {α : Type} {p : Act α} {failures : List String} {w₀ : World}
    {r : Except Error α} (h : Finished (machine allowed) p.run w c w' r)
    (hplain : Calls (Op.Plain d) p) (hkeeps : Calls Op.KeepsDeferral p) :
    Accounts d w₀ failures w c failures w' :=
  accounts_plain (h.replays.calls hplain) (finished_sockets h) (finished_keepsDeferral h hkeeps)

/-- The gate and the observation of a pass, and what it attaches. -/
theorem accounts_attaches {w₀ : World} {r : Except Error (List String)}
    (husb : ¬Fails (usbDevices d) c)
    (hpci : ¬Fails (pciDevices d) c) (hobserve : ¬Fails (observe d) c)
    (hsockets : w.sockets = w₀.sockets)
    (h : Finished (machine allowed) (do
      warnOnError (applyUsbGate d)
      observe d
      let failures ← collect "PCI" (resumePci d none) []
      collect "USB" (resumeUsb d none) failures : Act (List String)).run w c w' r) :
    ∃ failures, r = .ok failures ∧ Accounts d w₀ [] w c failures w' := by
  obtain ⟨e, -, hfailed⟩ | ⟨_, c₁, rest₁, w₁, hgate, hrest, rfl⟩ := finished_bind h
  · obtain ⟨_, -, hattempt⟩ | ⟨_, _, _, _, -, hend, -⟩ := finished_bind hfailed
    · obtain ⟨_, hok, -⟩ := finished_attempt hattempt
      cases hok
    · obtain ⟨hok, -⟩ := finished_pure hend
      cases hok
  have hgated : Accounts d w₀ [] w c₁ [] w₁ :=
    accounts_part hgate (calls_warnOnError (Program.calls_mono (calls_applyUsbGate d)
      fun _ => plain_of_gates)) (calls_warnOnError (Program.calls_mono (calls_applyUsbGate d)
        fun _ => keepsDeferral_of_gates))
  obtain ⟨e, -, hfailed⟩ | ⟨_, c₂, rest₂, w₂, hobserved, hresumes, rfl⟩ := finished_bind hrest
  · exact absurd ⟨rest₁, e, (List.suffix_append c₁ rest₁).isInfix, hfailed.replays⟩ hobserve
  have hseen : Accounts d w₀ [] w₁ c₂ [] w₂ :=
    accounts_part hobserved (Program.calls_mono (calls_observe d) fun _ => plain_of_clears)
      (Program.calls_mono (calls_observe d) fun _ => keepsDeferral_of_clears)
  have hsockets₂ : w₂.sockets = w₀.sockets := hseen.sockets.trans (hgated.sockets.trans hsockets)
  obtain ⟨e, -, hfailed⟩ | ⟨failures₁, c₃, c₄, w₃, hpciAttaches, husbAttaches, rfl⟩ :=
    finished_bind hresumes
  · obtain ⟨_, -, hattempt⟩ | ⟨x, _, _, _, -, hend, -⟩ := finished_bind hfailed
    · obtain ⟨_, hok, -⟩ := finished_attempt hattempt
      cases hok
    · cases x <;> obtain ⟨hok, -⟩ := finished_pure hend <;> cases hok
  have hpciScans : ¬Fails (pciDevices d) c₃ := fun hfails =>
    hpci (hfails.mono ⟨c₁ ++ c₂, c₄, by simp⟩)
  have husbScans : ¬Fails (usbDevices d) c₄ := fun hfails =>
    husb (hfails.mono ⟨c₁ ++ c₂ ++ c₃, [], by simp⟩)
  obtain ⟨_, hok, hfirst⟩ :=
    accounts_collect (fun _ => accounts_resumePci hpciScans hsockets₂) hpciAttaches
  obtain rfl := Except.ok.inj hok
  have hsockets₃ : w₃.sockets = w₀.sockets := hfirst.sockets.trans hsockets₂
  obtain ⟨failures, hr, hsecond⟩ :=
    accounts_collect (fun _ => accounts_resumeUsb husbScans hsockets₃) husbAttaches
  exact ⟨failures, hr, hgated.trans (hseen.trans (hfirst.trans hsecond))⟩

theorem finished_sweep {failures : List String} {r : Except Error Unit}
    (h : Finished (machine allowed) (do
      let failures ← collect "USB authorization" (deauthorizeUnmatchedUsb d) failures
      aggregate failures : Act Unit).run w c w' r) :
    (r = .ok () → failures = []) ∧
      (r ≠ .ok () → failures ≠ [] ∨ Fails (deauthorizeUnmatchedUsb d) c) := by
  obtain ⟨e, -, hfailed⟩ | ⟨failures', c₁, c₂, w₁, hcollect, hreport, rfl⟩ := finished_bind h
  · obtain ⟨_, -, hattempt⟩ | ⟨x, _, _, _, -, hend, -⟩ := finished_bind hfailed
    · obtain ⟨_, hok, -⟩ := finished_attempt hattempt
      cases hok
    · cases x <;> obtain ⟨hok, -⟩ := finished_pure hend <;> cases hok
  obtain ⟨-, -, hiff⟩ := finished_aggregate hreport
  obtain ⟨_, hnot, -⟩ | ⟨x, c₃, c₄, w₂, hattempt, hend, rfl⟩ := finished_bind hcollect
  · cases hnot
  obtain ⟨_, hx, hsweep⟩ := finished_attempt hattempt
  obtain rfl := Except.ok.inj hx
  cases x with
  | ok _ =>
      obtain ⟨hok, -⟩ := finished_pure hend
      obtain rfl := Except.ok.inj hok
      exact ⟨hiff.1, fun hfailed => .inl fun hnil => hfailed (hiff.2 hnil)⟩
  | error e =>
      obtain ⟨hok, -, rfl⟩ := finished_pure hend
      obtain rfl := Except.ok.inj hok
      refine ⟨fun hok => ?_, fun _ => .inr ⟨c₃, e, ⟨[], c₂, by simp⟩, hsweep.replays⟩⟩
      exact (List.append_eq_nil_iff.1 (hiff.1 hok)).1

/-- What a pass attaches, and its result by the sweep that follows. -/
theorem accounts_reconcile {r : Except Error Unit} (husb : ¬Fails (usbDevices d) c)
    (hpci : ¬Fails (pciDevices d) c) (hobserve : ¬Fails (observe d) c)
    (h : Finished (machine allowed) (reconcile d).run w c w' r) :
    ∃ first attaches sweep failures w₁ w₂, c = first ++ (attaches ++ sweep) ∧
      (∀ e ∈ first, e.1.Plain d) ∧ (∀ e ∈ sweep, e.1.Plain d) ∧
      Accounts d w [] w₁ attaches failures w₂ ∧
      (w₂.memory.deferred = true → w'.memory.deferred = true) ∧
      (r = .ok () → failures = []) ∧
      (r ≠ .ok () → failures ≠ [] ∨ Fails (deauthorizeUnmatchedUsb d) c) := by
  rw [reconcile] at h
  obtain ⟨e, -, hfailed⟩ | ⟨_, first, rest, w₁, hcleared, hrest, rfl⟩ := finished_bind h
  · obtain ⟨k, -, -, -, hok⟩ := finished_operation hfailed
    cases hok
  obtain ⟨k, -, rfl, rfl, -⟩ := finished_operation hcleared
  have hwithin : rest <:+: [⟨.update (.deferred false), ()⟩] ++ rest :=
    (List.suffix_append _ rest).isInfix
  have hregrouped : Finished (machine allowed) ((do
      warnOnError (applyUsbGate d)
      observe d
      let failures ← collect "PCI" (resumePci d none) []
      collect "USB" (resumeUsb d none) failures : Act (List String)) >>= fun failures => do
        let failures ← collect "USB authorization" (deauthorizeUnmatchedUsb d) failures
        aggregate failures).run (react w (.update (.deferred false)) k).2 rest w' r := by
    simpa only [bind_assoc] using hrest
  have hupdate : ∀ entry, Op.update (.deferred false) ≠ .enter entry := fun _ => (by simp)
  have hfirst : ∀ e ∈ [(⟨.update (.deferred false), ()⟩ : (op : Op) × Reply op)], e.1.Plain d :=
    fun e he => plain_of_mem_singleton hupdate he
  have hsockets : (react w (.update (.deferred false)) k).2.sockets = w.sockets := rfl
  obtain ⟨e, -, hfailed⟩ | ⟨failures, attaches, sweep, w₂, hattaches, hswept, rfl⟩ :=
    finished_bind hregrouped
  · obtain ⟨_, hok, -⟩ := accounts_attaches (fun hfails => husb (hfails.mono hwithin))
      (fun hfails => hpci (hfails.mono hwithin)) (fun hfails => hobserve (hfails.mono hwithin))
      hsockets hfailed
    cases hok
  have hattached : attaches <:+: [⟨.update (.deferred false), ()⟩] ++ (attaches ++ sweep) :=
    ⟨[⟨.update (.deferred false), ()⟩], sweep, by simp⟩
  obtain ⟨_, hok, haccounts⟩ := accounts_attaches (fun hfails => husb (hfails.mono hattached))
    (fun hfails => hpci (hfails.mono hattached)) (fun hfails => hobserve (hfails.mono hattached))
    hsockets hattaches
  obtain rfl := Except.ok.inj hok
  have hsweeps : Calls Op.Sweeps (do
      let failures ← collect "USB authorization" (deauthorizeUnmatchedUsb d) failures
      aggregate failures : Act Unit) :=
    calls_bind (calls_collect (calls_deauthorizeUnmatchedUsb d) failures)
      fun failures => calls_aggregate failures
  obtain ⟨hclean, hreported⟩ := finished_sweep hswept
  refine ⟨_, attaches, sweep, failures, _, w₂, rfl, hfirst, fun e he => ?_, haccounts, ?_, hclean,
    fun hfailed => ?_⟩
  · exact plain_of_sweeps (hswept.replays.calls hsweeps e he)
  · exact finished_keepsDeferral hswept
      (Program.calls_mono hsweeps fun _ => keepsDeferral_of_sweeps)
  · obtain hsome | hfails := hreported hfailed
    · exact .inl hsome
    · exact .inr (hfails.mono ⟨[⟨.update (.deferred false), ()⟩] ++ attaches, [], by simp⟩)

/-- Around what a pass attaches, nothing else runs an attach. -/
theorem ran_pass_iff {first attaches sweep : Replies Op Reply} {r : Except Error Unit}
    (hfirst : ∀ e ∈ first, e.1.Plain d) (hsweep : ∀ e ∈ sweep, e.1.Plain d)
    (hclosed : Closed d attaches) :
    Ran d (first ++ (attaches ++ sweep)) entry mid r ↔ Ran d attaches entry mid r := by
  rw [ran_append_iff (closed_of_plain hfirst), ran_append_iff hclosed]
  simp [not_ran_of_plain hfirst, not_ran_of_plain hsweep]

/-- A pass whose scans and observation succeed reports only failures for which no stopped VM is the
reason, and defers the rest, unless an attach that had nothing to settle by but the one VM its rule
allows is the only one that failed. -/
theorem reconcile_defers_iff {r : Except Error Unit} (husb : ¬Fails (usbDevices d) c)
    (hpci : ¬Fails (pciDevices d) c) (hobserve : ¬Fails (observe d) c)
    (h : Finished (machine allowed) (reconcile d).run w c w' r) :
    DefersAbsent d w c w' r ↔
      ((∃ vmName, FellBack d c vmName ∧ Absent d w vmName) → Reportable d w c) := by
  obtain ⟨first, attaches, sweep, failures, w₁, w₂, rfl, hfirst, hsweep, haccounts, hkept, hclean,
    hreported⟩ := accounts_reconcile husb hpci hobserve h
  have hran : ∀ {entry mid r}, Ran d (first ++ (attaches ++ sweep)) entry mid r ↔
      Ran d attaches entry mid r := ran_pass_iff hfirst hsweep haccounts.closed
  constructor
  · rintro hdefers ⟨vmName, ⟨device, rule, m, rest, e, hattach, -⟩, -⟩
    refine hdefers.reports fun hok => ?_
    have hopen : ¬Stopped d w none := by
      rintro ⟨_, hnone, -⟩
      cases hnone
    exact haccounts.running _ _ e (hran.1 hattach) hopen (hclean hok)
  · intro hfellBack
    have hreports : r ≠ .ok () → Reportable d w (first ++ (attaches ++ sweep)) := by
      intro hfailed
      obtain hsome | hfails := hreported hfailed
      · obtain hbegan | ⟨entry, mid, e, hattach, hrunning⟩ := haccounts.reported hsome
        · exact absurd rfl hbegan
        have hattach' := hran.2 hattach
        cases hrequested : entry.requested with
        | some vmName =>
            rw [hrequested] at hrunning
            have habsent : ¬Absent d w vmName := fun habsent => hrunning ⟨vmName, rfl, habsent⟩
            have hsettled : settledOn entry mid = some vmName := by
              cases haccounts.settles entry mid _ hattach with
              | asked hsame hsettled =>
                  rw [hsame] at hrequested
                  rw [hsettled, hrequested]
              | open_ _ _ => cases hrequested
            exact .inl ⟨vmName, ⟨entry, mid, e, hattach', hsettled⟩, habsent⟩
        | none =>
            obtain ⟨vmName, hfell⟩ :=
              fellBack_of_open hattach' (haccounts.settles entry mid _ hattach) hrequested
            by_cases habsent : Absent d w vmName
            · exact hfellBack ⟨vmName, hfell, habsent⟩
            · exact .inl ⟨vmName, hfell.failedFor, habsent⟩
      · exact .inr hfails
    refine ⟨hreports, ?_⟩
    rintro ⟨vmName, entry, mid, e, hattach, hsettled⟩ habsent hswept
    have hunreported : ¬Reportable d w (first ++ (attaches ++ sweep)) := by
      rintro (⟨other, hother, hrunning⟩ | hfails)
      · exact hrunning (habsent other hother)
      · exact hswept hfails
    have hstopped : Stopped d w entry.requested := by
      cases haccounts.settles entry mid _ (hran.1 hattach) with
      | @asked _ _ other hrequested hsame =>
          exact ⟨other, hrequested, habsent other ⟨entry, mid, e, hattach, hsame⟩⟩
      | open_ htarget hselected =>
          obtain ⟨other, hfell⟩ :=
            fellBack_of_open hattach (.open_ htarget hselected) rfl
          exact absurd (hfellBack ⟨other, hfell, habsent other hfell.failedFor⟩) hunreported
    refine ⟨by_contra fun hfailed => hunreported (hreports hfailed), hkept ?_⟩
    exact haccounts.stopped entry mid e (hran.1 hattach) hstopped

end Pass

/-! ## At boot -/

/-- Scans that succeed, for a process that had observed no device. -/
def Untroubled : (op : Op) → Reply op → Prop
  | .scanUsb, r => r.toBool = true
  | .scanPci, r => r.toBool = true
  | .iommuGroup _, r => r.toBool = true
  | .read .observedUsb, m => m.observedUsb.keys = []
  | _, _ => True

instance (op : Op) (r : Reply op) : Decidable (Untroubled op r) := by
  delta Untroubled
  induction op using Op.casesOn with
  | read lock => induction lock using Lock.casesOn <;> infer_instance
  | _ => infer_instance

section Untroubled

variable {α : Type} {d : Daemon} {c : Replies Op Reply}

theorem ok_of_toBool {x : Except Error α} (h : x.toBool = true) : ∃ a, id x = .ok a := by
  cases x with
  | ok a => exact ⟨a, rfl⟩
  | error e => cases h

theorem not_fails_of_sure {p : Act α} (hc : ∀ e ∈ c, Untroubled e.1 e.2)
    (hp : Sure Untroubled p) : ¬Fails p c := by
  rintro ⟨mid, e, hwithin, hreplays⟩
  obtain ⟨a, ha⟩ := hp.returns hreplays fun e he => hc e (hwithin.mem he)
  cases ha

theorem sure_usbDevices_untroubled : Sure Untroubled (usbDevices d) :=
  succeeds_bind (sure_request fun _ => ok_of_toBool) fun _ => succeeds_pure _

theorem sure_pciDevices_untroubled : Sure Untroubled (pciDevices d) :=
  succeeds_pciDevices (sure_request fun _ => ok_of_toBool)
    (fun _ => sure_request fun _ => ok_of_toBool) d

/-- Where nothing was observed before, nothing vanished. -/
theorem sure_observeUsb_untroubled (usb : Map UsbDevice) : Sure Untroubled (observeUsb d usb) := by
  refine sure_withLock ?_
  intro _ _
  rw [wp_bind, readMemory, wp_request_ofReplies]
  refine ⟨trivial, fun m hm => ?_⟩
  have hnone : ∀ key, m.observedUsb.lookup key = none := fun key => by
    have hkeys : m.observedUsb.keys = [] := hm
    rw [AList.lookup_eq_none, AList.mem_keys, hkeys]
    simp
  rw [andThen_ok]
  refine succeeds_bind (sure_inOrder usb) (fun present => ?_) () trivial
  refine succeeds_bind (succeeds_forM fun x _ => ?_) fun _ => ?_
  · dsimp only
    split
    case isTrue => exact sure_ask
    case isFalse => exact succeeds_pure _
  rw [inOrder, bind_assoc]
  refine succeeds_bind sure_ask fun keys => ?_
  have hseen : (keys.filterMap fun key =>
      (m.observedUsb.lookup key).map fun value => (key, value)) = [] := by
    simp [hnone]
  rw [hseen, pure_bind]
  exact succeeds_bind (succeeds_pure _) fun _ => sure_ask

theorem sure_observe_untroubled : Sure Untroubled (observe d) := by
  refine succeeds_bind sure_ask fun _ => ?_
  refine succeeds_bind sure_usbDevices_untroubled fun usb => ?_
  refine succeeds_bind sure_pciDevices_untroubled fun pci => ?_
  exact succeeds_bind (sure_observeUsb_untroubled _) fun _ => sure_observePci _

end Untroubled

def refusingAttach (_ : World) : Op → Choice
  | .usbAttach _ _ => { fail := true }
  | _ => {}

def keyboardAtBoot (fields : List (String × Value)) : World where
  daemon := plainDaemon [keyboardRule fields]
  bus := { entries := [keyboard "1-1" "4"] }

def World.boot (w : World) : List (World × Op) × World × Except Error Unit :=
  (reconcile w.daemon).run.follow react refusingAttach w

def World.bootReplies (w : World) : Replies Op Reply :=
  w.boot.1.map fun e => ⟨e.2, (react e.1 e.2 (refusingAttach e.1 e.2)).1⟩

theorem finished_boot (w : World) : Finished (machine anyChoice) (reconcile w.daemon).run w
    w.bootReplies w.boot.2.1 w.boot.2.2 :=
  Program.follow_finished _ w fun _ _ => trivial

def keyboardForGui : World := keyboardAtBoot [("targetVm", .string "gui-vm")]

def keyboardForOneVm : World := keyboardAtBoot [("allowedVms", .array [.string "gui-vm"])]

/-- The rule names the VM, and the pass defers to it. -/
theorem reconcile_defers_keyboardForGui :
    keyboardForGui.boot.2.2 = .ok () ∧ keyboardForGui.boot.2.1.memory.deferred = true ∧
      (DefersAbsent keyboardForGui.daemon keyboardForGui keyboardForGui.bootReplies
          keyboardForGui.boot.2.1 keyboardForGui.boot.2.2 ↔
        ((∃ vmName, FellBack keyboardForGui.daemon keyboardForGui.bootReplies vmName ∧
            Absent keyboardForGui.daemon keyboardForGui vmName) →
          Reportable keyboardForGui.daemon keyboardForGui keyboardForGui.bootReplies)) := by
  have hreplies : ∀ e ∈ keyboardForGui.bootReplies, Untroubled e.1 e.2 := by decide +kernel
  refine ⟨by decide +kernel, by decide +kernel, ?_⟩
  exact reconcile_defers_iff (not_fails_of_sure hreplies sure_usbDevices_untroubled)
    (not_fails_of_sure hreplies sure_pciDevices_untroubled)
    (not_fails_of_sure hreplies sure_observe_untroubled) (finished_boot keyboardForGui)

/-- An attach entered without a VM to be asked for, by a rule for one VM. -/
def Unasked (vmName : String) : (op : Op) → Reply op → Prop
  | .enter (.attachOneUsb _ rule requestedVm), _ =>
    requestedVm = none ∧ rule.targetVm = none ∧ rule.allowedVms = [vmName]
  | .enter (.attachOnePci _ _ _), _ => False
  | .read _, m => m.persistent.selectedVms.keys = []
  | _, _ => True

instance (vmName : String) (op : Op) (r : Reply op) : Decidable (Unasked vmName op r) := by
  delta Unasked
  induction op using Op.casesOn with
  | enter entry => induction entry using Entry.casesOn <;> infer_instance
  | _ => infer_instance

/-- An attach of a USB device settles on a VM by what it read first. -/
theorem settledOn_usb {device : UsbDevice} {rule : RuleMatch} {requestedVm : Option String}
    {e : (op : Op) × Reply op} {tail : Replies Op Reply} {vmName : String}
    (h : settledOn (.attachOneUsb device rule requestedVm) (e :: tail) = some vmName) :
    ∃ m rest, tail = ⟨.read .state, m⟩ :: rest ∧
      chooseVm requestedVm rule m.persistent.selectedVms device.persistentId = some vmName := by
  cases tail with
  | nil => cases h
  | cons first rest =>
      obtain ⟨op, reply⟩ := first
      cases op with
      | read lock =>
          cases lock with
          | state => exact ⟨reply, rest, rfl, h⟩
          | _ => cases h
      | _ => cases h

theorem settledOn_of_unasked {d : Daemon} {c mid : Replies Op Reply} {entry : Entry}
    {r : Except Error Unit} {vmName other : String} (hc : ∀ e ∈ c, Unasked vmName e.1 e.2)
    (hran : Ran d c entry mid r) (hsettled : settledOn entry mid = some other) :
    other = vmName := by
  obtain ⟨⟨p, hp, hreplays⟩, hwithin⟩ := hran
  obtain ⟨tail, rfl, -⟩ := replays_attach hp hreplays
  have hentered := hc _ (hwithin.mem List.mem_cons_self)
  cases entry with
  | attachOneUsb device rule requestedVm =>
      obtain ⟨rfl, htarget, hallowed⟩ := hentered
      obtain ⟨m, rest, rfl, hchosen⟩ := settledOn_usb hsettled
      have hmem : (⟨.read .state, m⟩ : (op : Op) × Reply op) ∈
          ⟨.enter (.attachOneUsb device rule none), ()⟩ :: ⟨.read .state, m⟩ :: rest := by simp
      have hkeys : m.persistent.selectedVms.keys = [] := hc _ (hwithin.mem hmem)
      have hnone : m.persistent.selectedVms.lookup device.persistentId = none := by
        rw [AList.lookup_eq_none, AList.mem_keys, hkeys]
        simp
      rw [chooseVm, htarget, hnone, hallowed] at hchosen
      exact (Option.some.inj hchosen).symm
  | attachOnePci device rule requestedVm => exact hentered.elim
  | _ => cases hp

/-- The VM is not there, but the rule names it only as the one it allows: the pass fails. -/
theorem reconcile_reports_absent : ¬∀ (w w' : World) (c : Replies Op Reply)
    (r : Except Error Unit), Finished (machine anyChoice) (reconcile w.daemon).run w c w' r →
      ¬Fails (usbDevices w.daemon) c → ¬Fails (pciDevices w.daemon) c →
        ¬Fails (observe w.daemon) c → DefersAbsent w.daemon w c w' r := by
  intro hclaim
  let w := keyboardForOneVm
  have hreplies : ∀ e ∈ w.bootReplies, Untroubled e.1 e.2 := by decide +kernel
  have hunasked : ∀ e ∈ w.bootReplies, Unasked "gui-vm" e.1 e.2 := by decide +kernel
  have hdefers := hclaim w _ _ _ (finished_boot w)
    (not_fails_of_sure hreplies sure_usbDevices_untroubled)
    (not_fails_of_sure hreplies sure_pciDevices_untroubled)
    (not_fails_of_sure hreplies sure_observe_untroubled)
  have hfailed : w.boot.2.2.toBool = false := by decide +kernel
  obtain ⟨vmName, ⟨entry, mid, e, hran, hsettled⟩, hrunning⟩ | hfails :=
    hdefers.reports fun hok => by
      rw [hok] at hfailed
      cases hfailed
  · obtain rfl := settledOn_of_unasked hunasked hran hsettled
    exact hrunning ⟨guiVm, by decide +kernel, rfl⟩
  · exact not_fails_of_sure hreplies (succeeds_pure ()) hfails

end GhafDeviceManager
