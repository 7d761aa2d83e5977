import GhafDeviceManager.Interleaving

/-!
# Transcripts

What a program was told so far is enough to say why it goes on as it does, whatever answers it.
`Machine.recorded` keeps a transcript beside any machine; `Machine.transcript` is the transcript
alone, under any replies, and every execution of the one is an execution of the other.
-/

namespace GhafDeviceManager

variable {Op : Type} {Reply : Op → Type} {World α β ε : Type}

abbrev Transcript (Op : Type) (Reply : Op → Type) := List ((op : Op) × Reply op)

def Machine.recorded (M : Machine Op Reply World) :
    Machine Op Reply (World × Transcript Op Reply) where
  env s s' := M.env s.1 s'.1 ∧ s'.2 = s.2
  step s op r s' := M.step s.1 op r s'.1 ∧ s'.2 = ⟨op, r⟩ :: s.2

/-- Any replies, and the transcript of them. -/
def Machine.transcript : Machine Op Reply (Transcript Op Reply) :=
  Machine.ofReplies (fun _ _ => True) fun t op r => ⟨op, r⟩ :: t

theorem Exec.transcript {M : Machine Op Reply World} {p : Program Op Reply α}
    {s s' : World × Transcript Op Reply} {tr : List ((World × Transcript Op Reply) × Op)}
    {o : Option α} (h : Exec M.recorded p s tr s' o) :
    Exec Machine.transcript p s.2 (tr.map fun e => (e.1.2, e.2)) s'.2 o := by
  induction h with
  | done a s => exact .done a s.2
  | stop p s => exact .stop p s.2
  | call henv hstep _ ih =>
      rw [← henv.2]
      exact .call rfl ⟨trivial, hstep.2⟩ ih

theorem Exec.unrecorded {M : Machine Op Reply World} {p : Program Op Reply α}
    {s s' : World × Transcript Op Reply} {tr : List ((World × Transcript Op Reply) × Op)}
    {o : Option α} (h : Exec M.recorded p s tr s' o) :
    Exec M p s.1 (tr.map fun e => (e.1.1, e.2)) s'.1 o := by
  induction h with
  | done a s => exact .done a s.1
  | stop p s => exact .stop p s.1
  | call henv hstep _ ih => exact .call henv.1 hstep.1 ih

theorem Exec.transcript_suffix {p : Program Op Reply α} {t t' : Transcript Op Reply}
    {tr : List (Transcript Op Reply × Op)} {o : Option α}
    (h : Exec Machine.transcript p t tr t' o) : t <:+ t' ∧ ∀ e ∈ tr, e.1 <:+ t' := by
  induction h with
  | done a t => exact ⟨List.suffix_rfl, by simp⟩
  | stop p t => exact ⟨List.suffix_rfl, by simp⟩
  | @call op next t t₁ t₂ t' r tr o henv hstep _ ih =>
      obtain ⟨hsuffix, hcalls⟩ := ih
      obtain ⟨-, rfl⟩ := hstep
      obtain rfl : t = t₁ := henv
      have hgrown := (List.suffix_cons ⟨op, r⟩ t).trans hsuffix
      exact ⟨hgrown, List.forall_mem_cons.2 ⟨hgrown, hcalls⟩⟩

theorem Exec.recorded {M : Machine Op Reply World} {p : Program Op Reply α} {w w' : World}
    {tr : List (World × Op)} {o : Option α} (h : Exec M p w tr w' o) (t : Transcript Op Reply) :
    ∃ tr' t', Exec M.recorded p (w, t) tr' (w', t') o ∧ tr'.map (fun e => (e.1.1, e.2)) = tr := by
  induction h generalizing t with
  | done a w => exact ⟨[], t, .done a (w, t), rfl⟩
  | stop p w => exact ⟨[], t, .stop p (w, t), rfl⟩
  | @call op next w w₁ w₂ w' r tr o henv hstep _ ih =>
      obtain ⟨tr', t', hexec, htr⟩ := ih (⟨op, r⟩ :: t)
      have hcall : Exec M.recorded (.call op next) (w, t) (((w₁, t), op) :: tr') (w', t') o :=
        .call ⟨henv, rfl⟩ ⟨hstep, rfl⟩ hexec
      exact ⟨_, t', hcall, by rw [List.map_cons, htr]⟩

section Rules

variable {G : Transcript Op Reply → Op → Prop} {t : Transcript Op Reply}

@[simp] theorem Fallible.wp_request_transcript (op : Op) (result : Reply op → Except ε α)
    (post : Except ε α → Transcript Op Reply → Prop) :
    Fallible.wp Machine.transcript G (Fallible.request op result) post t ↔
      G t op ∧ ∀ r, post (result r) (⟨op, r⟩ :: t) := by
  rw [Machine.transcript, Fallible.wp_request_ofReplies]
  exact and_congr_right fun _ => ⟨fun h r => h r trivial, fun h r _ => h r⟩

/-- The frame rule: what only grows with the transcript. -/
theorem Fallible.wp_of_calls_transcript {S : Op → Prop} {I : Transcript Op Reply → Prop}
    {p : Fallible Op Reply ε α} (hp : Fallible.Calls S p)
    (hI : ∀ t op r, S op → I t → I (⟨op, r⟩ :: t)) (hG : ∀ t op, S op → I t → G t op)
    (ht : I t) : Fallible.wp Machine.transcript G p (fun _ => I) t :=
  Fallible.wp_of_calls_ofReplies hp
    (fun op hop t ht => ⟨hG t op hop ht, fun r _ => hI t op r hop ht⟩) ht

/-- What only grows with the transcript outlasts any program. -/
theorem Fallible.keeps_growing {I : Transcript Op Reply → Prop} {p : Fallible Op Reply ε α}
    (hI : ∀ t e, I t → I (e :: t))
    (h : ∀ t, I t → Fallible.wp Machine.transcript G p (fun _ _ => True) t) :
    Fallible.Keeps Machine.transcript G I p := by
  intro t ht
  have hlast : Fallible.wp Machine.transcript (fun _ _ => True) p (fun _ => I) t :=
    wp_of_calls_transcript (Program.calls_top p.run) (fun t op r _ => hI t ⟨op, r⟩)
      (fun _ _ _ _ => trivial) ht
  exact Fallible.wp_mono (Fallible.wp_and (h t ht) hlast) (fun _ _ h => h.1) fun _ _ h => h.2

/-- What holds of the calls under any replies holds of them in any world. -/
theorem Program.wp_recorded {M : Machine Op Reply World} {p : Program Op Reply α} {w : World}
    {post : α → Transcript Op Reply → Prop} (h : Program.wp Machine.transcript G p post t)
    {tr : List ((World × Transcript Op Reply) × Op)} {s : World × Transcript Op Reply}
    {o : Option α} (hexec : Exec M.recorded p (w, t) tr s o) :
    (∀ e ∈ tr, G e.1.2 e.2) ∧ ∀ a, o = some a → post a s.2 := by
  obtain ⟨hcalls, hend⟩ := Program.wp_sound h hexec.transcript
  exact ⟨fun e he => hcalls _ (List.mem_map_of_mem he), hend⟩

end Rules

/-! ## One of two parties -/

/-- Beside another program too, each call of the first party goes by what that party was told. -/
theorem Interleaved.told {M : Party → Machine Op Reply World} {told : World → Transcript Op Reply}
    {G : Transcript Op Reply → Op → Prop} {post : α → Transcript Op Reply → Prop}
    {p p' : Program Op Reply α} {q q' : Program Op Reply β} {w w' : World}
    {tr : List (Party × World × Op)} (h : Interleaved M p q w tr w' p' q')
    (henv : ∀ party w w', (M party).env w w' → told w' = told w)
    (hfirst : ∀ w op r w', (M .first).step w op r w' → told w' = ⟨op, r⟩ :: told w)
    (hsecond : ∀ w op r w', (M .second).step w op r w' → told w' = told w)
    (hp : p.wp Machine.transcript G post (told w)) :
    ∀ e ∈ tr, e.1 = .first → G (told e.2.1) e.2.2 := by
  induction h with
  | stop p q w => simp
  | @first op next q q' p' w w₁ w₂ w' r tr hmove hstep _ ih =>
      rw [← henv _ _ _ hmove] at hp
      obtain ⟨hop, hnext⟩ := hp _ rfl
      have hrest : Program.wp Machine.transcript G (next r) post (⟨op, r⟩ :: told w₁) :=
        hnext r _ ⟨trivial, rfl⟩
      rw [← hfirst _ _ _ _ hstep] at hrest
      exact List.forall_mem_cons.2 ⟨fun _ => hop, ih hrest⟩
  | second hmove hstep _ ih =>
      rw [← henv _ _ _ hmove, ← hsecond _ _ _ _ hstep] at hp
      exact List.forall_mem_cons.2 ⟨nofun, ih hp⟩

end GhafDeviceManager
