import GhafDeviceManager.Replies
import Mathlib.Data.List.AList

/-!
# Memoised questions

A program asks questions of something that may answer differently each time. A cache shared with
other programs keeps an answer to each question and gives it from then on; a question that is not
in the cache is resolved outside of it and the answer put there later. Whatever a program is told
was reported at some time, and it was reported once if no two resolutions of it overlapped.
-/

namespace GhafDeviceManager

variable {κ ν ι α β : Type}

namespace Program

/-- What a program returns where `f` answers its questions. -/
def answer (f : κ → ν) : Program κ (fun _ => ν) α → α
  | .pure a => a
  | .call k next => answer f (next (f k))

theorem answer_bind (f : κ → ν) (p : Program κ (fun _ => ν) α)
    (g : α → Program κ (fun _ => ν) β) : (p >>= g).answer f = (g (p.answer f)).answer f := by
  induction p with
  | pure a => rfl
  | call k next ih => exact ih (f k)

theorem answer_eq_of_replays {f : κ → ν} {p : Program κ (fun _ => ν) α}
    {c : Replies κ fun _ => ν} {a : α} (h : Replays p c a) (hf : ∀ e ∈ c, e.2 = f e.1) :
    p.answer f = a := by
  induction h with
  | done a => rfl
  | call _ ih =>
      obtain ⟨hreply, hrest⟩ := List.forall_mem_cons.1 hf
      dsimp only at hreply
      rw [answer, ← hreply]
      exact ih hrest

/-- The program with each question put by `get`. -/
def through {Op : Type} {Reply : Op → Type} (get : κ → Program Op Reply ν) :
    Program κ (fun _ => ν) α → Program Op Reply α
  | .pure a => .pure a
  | .call k next => get k >>= fun v => through get (next v)

end Program

namespace Memo

abbrev Cache (κ ν : Type) := AList fun _ : κ => ν

/-- What is done with the cache under its lock, and the resolution of a question without it. -/
inductive Op (κ ν : Type) : Type
  | lookup (k : κ)
  | resolve (k : κ)
  | insert (k : κ) (v : ν)

abbrev Op.Reply : Op κ ν → Type
  | .lookup _ => Option ν
  | .resolve _ => ν
  | .insert _ _ => Unit

abbrev Task (κ ν α : Type) := Program (Op κ ν) Op.Reply α

def get (k : κ) : Task κ ν ν :=
  .call (.lookup k) fun found : Option ν =>
    match found with
    | some kept => .pure kept
    | none => .call (.resolve k) fun v : ν => .call (.insert k v) fun _ => .pure v

/-! ## What a program under way was told -/

/-- Where the rest of a program stands: between two questions, or in one that was not in the
cache. -/
inductive Stands (reports : List (κ × ν)) : Program κ (fun _ => ν) α → Task κ ν α → Prop
  | between (q : Program κ (fun _ => ν) α) : Stands reports q (q.through get)
  | missed (k : κ) (next : ν → Program κ (fun _ => ν) α) :
      Stands reports (.call k next)
        (.call (.resolve k) fun v : ν => .call (.insert k v) fun _ => (next v).through get)
  | reported (k : κ) (v : ν) (next : ν → Program κ (fun _ => ν) α) (hv : (k, v) ∈ reports) :
      Stands reports (.call k next) (.call (.insert k v) fun _ => (next v).through get)

/-- All of `told` was reported. -/
def Reported (reports : List (κ × ν)) (told : Replies κ fun _ => ν) : Prop :=
  ∀ e ∈ told, (e.1, e.2) ∈ reports

/-- What is left of a program, after it was told what was reported. -/
def Left (program : Program κ (fun _ => ν) α) (reports : List (κ × ν)) (p : Task κ ν α) : Prop :=
  ∃ q told, Stands reports q p ∧ Reported reports told ∧
    ∀ c a, Replays q c a → Replays program (told ++ c) a

variable {reports : List (κ × ν)} {q : Program κ (fun _ => ν) α} {p : Task κ ν α}

theorem Stands.mono (h : Stands reports q p) (e : κ × ν) : Stands (reports ++ [e]) q p := by
  cases h with
  | between q => exact .between q
  | missed k next => exact .missed k next
  | reported k v next hv => exact .reported k v next (List.mem_append_left _ hv)

theorem Left.mono (h : Left q reports p) (e : κ × ν) : Left q (reports ++ [e]) p := by
  obtain ⟨rest, told, hstands, htold, hrest⟩ := h
  exact ⟨rest, told, hstands.mono e, fun x hx => List.mem_append_left _ (htold x hx), hrest⟩

theorem Left.begun (q : Program κ (fun _ => ν) α) : Left q reports (q.through get) :=
  ⟨q, [], .between q, fun _ he => absurd he List.not_mem_nil, fun _ _ h => h⟩

theorem Left.told {k : κ} {v : ν} {next : ν → Program κ (fun _ => ν) α}
    {told : Replies κ fun _ => ν} (htold : Reported reports told) (hv : (k, v) ∈ reports)
    (hrest : ∀ c a, Replays (.call k next) c a → Replays q (told ++ c) a) :
    Left q reports ((next v).through get) := by
  refine ⟨next v, told ++ [⟨k, v⟩], .between _, fun e he => ?_, fun c a h => ?_⟩
  · rcases List.mem_append.1 he with hold | hnew
    · exact htold e hold
    · rw [List.mem_singleton.1 hnew]
      exact hv
  · rw [List.append_assoc]
    exact hrest _ a (.call h)

theorem stands_lookup {k : κ} {next : Option ν → Task κ ν α}
    (h : Stands reports q (.call (.lookup k) next)) :
    ∃ next', q = .call k next' ∧ (∀ v, next (some v) = (next' v).through get) ∧
      next none =
        .call (.resolve k) fun v : ν => .call (.insert k v) fun _ => (next' v).through get := by
  generalize hp : (Program.call (.lookup k) next : Task κ ν α) = p at h
  cases h with
  | between q =>
      cases q with
      | pure a => cases hp
      | call j next' =>
          cases hp
          exact ⟨next', rfl, fun v => rfl, rfl⟩
  | missed j next' => cases hp
  | reported j v next' hv => cases hp

theorem stands_resolve {k : κ} {next : ν → Task κ ν α}
    (h : Stands reports q (.call (.resolve k) next)) :
    ∃ next', q = .call k next' ∧
      ∀ v, next v = .call (.insert k v) fun _ => (next' v).through get := by
  generalize hp : (Program.call (.resolve k) next : Task κ ν α) = p at h
  cases h with
  | between q => cases q <;> cases hp
  | missed j next' =>
      cases hp
      exact ⟨next', rfl, fun v => rfl⟩
  | reported j v next' hv => cases hp

theorem stands_insert {k : κ} {v : ν} {next : Unit → Task κ ν α}
    (h : Stands reports q (.call (.insert k v) next)) :
    (k, v) ∈ reports ∧ ∃ next', q = .call k next' ∧ next () = (next' v).through get := by
  generalize hp : (Program.call (.insert k v) next : Task κ ν α) = p at h
  cases h with
  | between q => cases q <;> cases hp
  | missed j next' => cases hp
  | reported j u next' hv =>
      cases hp
      exact ⟨hv, next', rfl, rfl⟩

theorem stands_pure {a : α} (h : Stands reports q (.pure a)) : q = .pure a := by
  generalize hp : (Program.pure a : Task κ ν α) = p at h
  cases h with
  | between q =>
      cases q with
      | pure b =>
          cases hp
          rfl
      | call k next => cases hp
  | missed j next => cases hp
  | reported j v next hv => cases hp

/-! ## Taking turns -/

section Turns

variable [DecidableEq κ]

/-- Programs under way over one cache, what was reported to them, and what came of those that are
over. -/
structure State (κ ν ι α : Type) where
  cache : Cache κ ν := ∅
  running : List (ι × Task κ ν α) := []
  reports : List (κ × ν) := []
  answered : List (ι × α) := []

/-- The programs take turns; `admits` says what may be reported at any time. -/
inductive Step (program : ι → Task κ ν α) (admits : κ → ν → Prop) :
    State κ ν ι α → State κ ν ι α → Prop
  | begun (s : State κ ν ι α) (i : ι) :
      Step program admits s { s with running := s.running ++ [(i, program i)] }
  | lookedUp (s : State κ ν ι α) (before after : List (ι × Task κ ν α)) (i : ι) (k : κ)
      (next : Option ν → Task κ ν α)
      (hrunning : s.running = before ++ (i, .call (.lookup k) next) :: after) :
      Step program admits s
        { s with running := before ++ (i, next (s.cache.lookup k)) :: after }
  | resolved (s : State κ ν ι α) (before after : List (ι × Task κ ν α)) (i : ι) (k : κ) (v : ν)
      (next : ν → Task κ ν α)
      (hrunning : s.running = before ++ (i, .call (.resolve k) next) :: after)
      (hadmits : admits k v) :
      Step program admits s
        { s with running := before ++ (i, next v) :: after, reports := s.reports ++ [(k, v)] }
  | inserted (s : State κ ν ι α) (before after : List (ι × Task κ ν α)) (i : ι) (k : κ) (v : ν)
      (next : Unit → Task κ ν α)
      (hrunning : s.running = before ++ (i, .call (.insert k v) next) :: after) :
      Step program admits s
        { s with cache := s.cache.insert k v, running := before ++ (i, next ()) :: after }
  | ended (s : State κ ν ι α) (before after : List (ι × Task κ ν α)) (i : ι) (a : α)
      (hrunning : s.running = before ++ (i, .pure a) :: after) :
      Step program admits s
        { s with running := before ++ after, answered := s.answered ++ [(i, a)] }

def Reaches (program : ι → Task κ ν α) (admits : κ → ν → Prop) :
    State κ ν ι α → State κ ν ι α → Prop :=
  Relation.ReflTransGen (Step program admits)

def resolves (k : κ) : Task κ ν α → Bool
  | .call (.resolve j) _ => j = k
  | _ => false

def inserts (k : κ) : Task κ ν α → Bool
  | .call (.insert j _) _ => j = k
  | _ => false

def resolving (k : κ) (tasks : List (ι × Task κ ν α)) : Nat :=
  tasks.countP fun x => resolves k x.2

def inserting (k : κ) (tasks : List (ι × Task κ ν α)) : Nat :=
  tasks.countP fun x => inserts k x.2

/-- At most one program is between missing this question and keeping its answer. -/
def Apart (k : κ) (s : State κ ν ι α) : Prop :=
  resolving k s.running + inserting k s.running ≤ 1

instance (k : κ) (s : State κ ν ι α) : Decidable (Apart k s) :=
  inferInstanceAs (Decidable (_ ≤ _))

/-- No two resolutions of this question overlap on the way. -/
def ReachesApart (k : κ) (program : ι → Task κ ν α) (admits : κ → ν → Prop) :
    State κ ν ι α → State κ ν ι α → Prop :=
  Relation.ReflTransGen fun s s' => Step program admits s s' ∧ Apart k s'

variable {program : ι → Program κ (fun _ => ν) α} {admits : κ → ν → Prop} {s s' : State κ ν ι α}

/-- Everything programs were told, and everything in the cache, was reported. -/
structure Coherent (program : ι → Program κ (fun _ => ν) α) (admits : κ → ν → Prop)
    (s : State κ ν ι α) : Prop where
  running : ∀ x ∈ s.running, Left (program x.1) s.reports x.2
  answered : ∀ x ∈ s.answered, ∃ told, Replays (program x.1) told x.2 ∧ Reported s.reports told
  cached : ∀ k v, s.cache.lookup k = some v → (k, v) ∈ s.reports
  reports : ∀ e ∈ s.reports, admits e.1 e.2

theorem Coherent.step (h : Coherent program admits s)
    (hstep : Step (fun i => (program i).through get) admits s s') : Coherent program admits s' := by
  cases hstep with
  | begun i =>
      refine ⟨fun x hx => ?_, h.answered, h.cached, h.reports⟩
      rcases List.mem_append.1 hx with hold | hnew
      · exact h.running x hold
      · rw [List.mem_singleton.1 hnew]
        exact Left.begun _
  | lookedUp before after i k next hrunning =>
      have hold := h.running
      rw [hrunning, List.forall_mem_append, List.forall_mem_cons] at hold
      obtain ⟨hbefore, ⟨q, told, hstands, htold, hrest⟩, hafter⟩ := hold
      refine ⟨List.forall_mem_append.2 ⟨hbefore, List.forall_mem_cons.2 ⟨?_, hafter⟩⟩, h.answered,
        h.cached, h.reports⟩
      obtain ⟨next', rfl, hfound, hnone⟩ := stands_lookup hstands
      dsimp only
      cases hkept : s.cache.lookup k with
      | some v =>
          rw [hfound v]
          exact Left.told htold (h.cached k v hkept) hrest
      | none =>
          rw [hnone]
          exact ⟨_, told, .missed k next', htold, hrest⟩
  | resolved before after i k v next hrunning hadmits =>
      have hold := h.running
      rw [hrunning, List.forall_mem_append, List.forall_mem_cons] at hold
      obtain ⟨hbefore, ⟨q, told, hstands, htold, hrest⟩, hafter⟩ := hold
      obtain ⟨next', rfl, hnext⟩ := stands_resolve hstands
      refine ⟨List.forall_mem_append.2 ⟨fun x hx => (hbefore x hx).mono _,
        List.forall_mem_cons.2 ⟨?_, fun x hx => (hafter x hx).mono _⟩⟩, fun x hx => ?_,
        fun j u hj => List.mem_append_left _ (h.cached j u hj),
        List.forall_mem_append.2 ⟨h.reports, fun e he => ?_⟩⟩
      · dsimp only
        rw [hnext v]
        exact ⟨_, told, .reported k v next' (by simp),
          fun e he => List.mem_append_left _ (htold e he), hrest⟩
      · obtain ⟨told', hreplays, htold'⟩ := h.answered x hx
        exact ⟨told', hreplays, fun e he => List.mem_append_left _ (htold' e he)⟩
      · rw [List.mem_singleton.1 he]
        exact hadmits
  | inserted before after i k v next hrunning =>
      have hold := h.running
      rw [hrunning, List.forall_mem_append, List.forall_mem_cons] at hold
      obtain ⟨hbefore, ⟨q, told, hstands, htold, hrest⟩, hafter⟩ := hold
      obtain ⟨hv, next', rfl, hnext⟩ := stands_insert hstands
      refine ⟨List.forall_mem_append.2 ⟨hbefore, List.forall_mem_cons.2 ⟨?_, hafter⟩⟩, h.answered,
        fun j u hj => ?_, h.reports⟩
      · dsimp only
        rw [hnext]
        exact Left.told htold hv hrest
      · by_cases hjk : j = k
        · subst hjk
          rw [AList.lookup_insert] at hj
          rw [← Option.some.inj hj]
          exact hv
        · rw [AList.lookup_insert_ne hjk] at hj
          exact h.cached j u hj
  | ended before after i a hrunning =>
      have hold := h.running
      rw [hrunning, List.forall_mem_append, List.forall_mem_cons] at hold
      obtain ⟨hbefore, ⟨q, told, hstands, htold, hrest⟩, hafter⟩ := hold
      obtain rfl := stands_pure hstands
      refine ⟨List.forall_mem_append.2 ⟨hbefore, hafter⟩,
        List.forall_mem_append.2 ⟨h.answered, fun x hx => ?_⟩, h.cached, h.reports⟩
      rw [List.mem_singleton.1 hx]
      have hreplays := hrest [] a (.done a)
      rw [List.append_nil] at hreplays
      exact ⟨told, hreplays, htold⟩

theorem coherent_reaches (h : Reaches (fun i => (program i).through get) admits {} s) :
    Coherent program admits s := by
  induction h with
  | refl => exact ⟨by simp, by simp, by simp, by simp⟩
  | tail _ hstep ih => exact ih.step hstep

/-! ## One report at a time -/

theorem resolves_resolve (k j : κ) (next : ν → Task κ ν α) :
    resolves k (.call (.resolve j) next) = decide (j = k) := rfl

theorem inserts_insert (k j : κ) (v : ν) (next : Unit → Task κ ν α) :
    inserts k (.call (.insert j v) next) = decide (j = k) := rfl

theorem resolves_through (k : κ) (q : Program κ (fun _ => ν) α) :
    resolves k (q.through get) = false := by
  cases q <;> rfl

theorem inserts_through (k : κ) (q : Program κ (fun _ => ν) α) :
    inserts k (q.through get) = false := by
  cases q <;> rfl

theorem resolving_append (k : κ) (before after : List (ι × Task κ ν α)) (i : ι)
    (p : Task κ ν α) : resolving k (before ++ (i, p) :: after) =
      resolving k before + resolving k after + (resolves k p).toNat := by
  unfold resolving
  rw [List.countP_append, List.countP_cons, Nat.add_assoc]
  cases resolves k p <;> rfl

theorem inserting_append (k : κ) (before after : List (ι × Task κ ν α)) (i : ι)
    (p : Task κ ν α) : inserting k (before ++ (i, p) :: after) =
      inserting k before + inserting k after + (inserts k p).toNat := by
  unfold inserting
  rw [List.countP_append, List.countP_cons, Nat.add_assoc]
  cases inserts k p <;> rfl

def reported (k : κ) (reports : List (κ × ν)) : Nat := reports.countP fun e => e.1 = k

/-- A question that at most one program resolves was reported once when its answer is in the cache,
and before that only to the program that is about to put it there. -/
structure Once (k : κ) (s : State κ ν ι α) : Prop where
  apart : Apart k s
  kept : ∀ v, s.cache.lookup k = some v →
    resolving k s.running = 0 ∧ inserting k s.running = 0 ∧ reported k s.reports = 1
  missing : s.cache.lookup k = none → reported k s.reports = inserting k s.running

theorem Once.congr {k : κ} (h : Once k s) (hcache : s'.cache.lookup k = s.cache.lookup k)
    (hresolving : resolving k s'.running = resolving k s.running)
    (hinserting : inserting k s'.running = inserting k s.running)
    (hreported : reported k s'.reports = reported k s.reports) : Once k s' := by
  refine ⟨?_, fun v hv => ?_, fun hnone => ?_⟩
  · rw [Apart, hresolving, hinserting]
    exact h.apart
  · rw [hresolving, hinserting, hreported]
    exact h.kept v (hcache.symm.trans hv)
  · rw [hinserting, hreported]
    exact h.missing (hcache.symm.trans hnone)

/-- A step of a program that is about other questions makes no difference. -/
theorem Once.elsewhere {k : κ} (h : Once k s) {before after : List (ι × Task κ ν α)} {i : ι}
    {p p' : Task κ ν α} (hrunning : s.running = before ++ (i, p) :: after)
    (hrunning' : s'.running = before ++ (i, p') :: after) (hresolves : resolves k p' = resolves k p)
    (hinserts : inserts k p' = inserts k p) (hcache : s'.cache.lookup k = s.cache.lookup k)
    (hreported : reported k s'.reports = reported k s.reports) : Once k s' := by
  refine h.congr hcache ?_ ?_ hreported
  · rw [hrunning, hrunning', resolving_append, resolving_append, hresolves]
  · rw [hrunning, hrunning', inserting_append, inserting_append, hinserts]

theorem reported_append (k j : κ) (v : ν) (reports : List (κ × ν)) :
    reported k (reports ++ [(j, v)]) = reported k reports + (decide (j = k)).toNat := by
  rw [reported, List.countP_append, List.countP_singleton]
  by_cases hjk : j = k <;> simp [hjk, reported]

/-- A program that is about to put the answer into the cache is the only one that was told it. -/
theorem Once.inserted {k : κ} (h : Once k s) {before after : List (ι × Task κ ν α)} {i : ι} {v : ν}
    {next : Unit → Task κ ν α} {q : Program κ (fun _ => ν) α}
    (hrunning : s.running = before ++ (i, .call (.insert k v) next) :: after)
    (hapart : Apart k { s with
      cache := s.cache.insert k v, running := before ++ (i, q.through get) :: after }) :
    Once k { s with
      cache := s.cache.insert k v, running := before ++ (i, q.through get) :: after } := by
  have hinserting : inserting k s.running = inserting k before + inserting k after + 1 := by
    rw [hrunning, inserting_append, inserts_insert, decide_eq_true rfl]
    rfl
  have hresolving : resolving k s.running = resolving k before + resolving k after := by
    rw [hrunning, resolving_append]
    rfl
  have hbefore := h.apart
  unfold Apart at hbefore
  have hnone : s.cache.lookup k = none := by
    cases hkept : s.cache.lookup k with
    | none => rfl
    | some u =>
        have hno := (h.kept u hkept).2.1
        omega
  have hmissing := h.missing hnone
  refine ⟨hapart, fun u _ => ?_, fun hlost => ?_⟩
  · rw [resolving_append, inserting_append, resolves_through, inserts_through]
    dsimp only [Bool.toNat_false]
    omega
  · exact absurd (hlost.symm.trans (AList.lookup_insert _)) (Option.some_ne_none v).symm

theorem Once.step {k : κ} (h : Once k s) (hcoherent : Coherent program admits s)
    (hstep : Step (fun i => (program i).through get) admits s s') (hapart : Apart k s') :
    Once k s' := by
  cases hstep with
  | begun i =>
      refine h.congr rfl ?_ ?_ rfl
      · rw [resolving_append, resolves_through]
        rfl
      · rw [inserting_append, inserts_through]
        rfl
  | lookedUp before after i j next hrunning =>
      obtain ⟨q, told, hstands, -⟩ := hcoherent.running (i, .call (.lookup j) next)
        (hrunning ▸ by simp)
      obtain ⟨next', rfl, hfound, hmissed⟩ := stands_lookup hstands
      cases hkept : s.cache.lookup j with
      | some v =>
          rw [hfound v]
          exact h.elsewhere hrunning rfl (resolves_through k _) (inserts_through k _) rfl rfl
      | none =>
          rw [hkept, hmissed] at hapart
          rw [hmissed]
          by_cases hjk : j = k
          · subst hjk
            refine ⟨hapart, fun v hv => ?_, fun _ => ?_⟩
            · exact absurd (hv.symm.trans hkept) (Option.some_ne_none v)
            · rw [h.missing hkept, hrunning, inserting_append, inserting_append]
              rfl
          · exact h.elsewhere hrunning rfl (decide_eq_false hjk) rfl rfl rfl
  | resolved before after i j v next hrunning hadmits =>
      obtain ⟨q, told, hstands, -⟩ := hcoherent.running (i, .call (.resolve j) next)
        (hrunning ▸ by simp)
      obtain ⟨next', rfl, hnext⟩ := stands_resolve hstands
      have hreported := reported_append k j v s.reports
      rw [hnext v] at hapart ⊢
      by_cases hjk : j = k
      · subst hjk
        refine ⟨hapart, fun u hu => ?_, fun hnone => ?_⟩
        · have hresolving := (h.kept u hu).1
          rw [hrunning, resolving_append, resolves_resolve, decide_eq_true rfl]
            at hresolving
          exact absurd hresolving (Nat.succ_ne_zero _)
        · have hmissing := h.missing hnone
          rw [hrunning, inserting_append] at hmissing
          rw [hreported, hmissing, inserting_append]
          rfl
      · rw [decide_eq_false hjk] at hreported
        exact h.elsewhere hrunning rfl (decide_eq_false hjk).symm (decide_eq_false hjk) rfl
          hreported
  | inserted before after i j v next hrunning =>
      obtain ⟨q, told, hstands, -⟩ := hcoherent.running (i, .call (.insert j v) next)
        (hrunning ▸ by simp)
      obtain ⟨-, next', rfl, hnext⟩ := stands_insert hstands
      rw [hnext] at hapart ⊢
      by_cases hjk : j = k
      · subst hjk
        exact h.inserted hrunning hapart
      · exact h.elsewhere hrunning rfl (resolves_through k _)
          ((inserts_through k _).trans (decide_eq_false hjk).symm)
          (AList.lookup_insert_ne (Ne.symm hjk)) rfl
  | ended before after i a hrunning =>
      refine h.congr rfl ?_ ?_ rfl
      · rw [hrunning, resolving_append]
        exact List.countP_append
      · rw [hrunning, inserting_append]
        exact List.countP_append

theorem reaches_of_reachesApart {k : κ} {program : ι → Task κ ν α}
    (h : ReachesApart k program admits s s') : Reaches program admits s s' :=
  Relation.ReflTransGen.mono (fun _ _ hstep => hstep.1) _ _ h

theorem once_reachesApart {k : κ}
    (h : ReachesApart k (fun i => (program i).through get) admits {} s) : Once k s := by
  induction h with
  | refl => exact ⟨Nat.zero_le 1, fun v hv => absurd hv (by simp), fun _ => rfl⟩
  | tail hrun hstep ih =>
      exact ih.step (coherent_reaches (reaches_of_reachesApart hrun)) hstep.1 hstep.2

def first (k : κ) (reports : List (κ × ν)) : Option ν :=
  (reports.find? fun e => e.1 = k).map Prod.snd

theorem exists_first {k : κ} {v : ν} {reports : List (κ × ν)} (h : (k, v) ∈ reports) :
    ∃ u, first k reports = some u ∧ (k, u) ∈ reports := by
  cases hfind : reports.find? fun e => e.1 = k with
  | none => exact absurd (List.find?_eq_none.1 hfind _ h) (by simp)
  | some e =>
      obtain ⟨j, u⟩ := e
      have hkey : j = k := by simpa using List.find?_some hfind
      subst hkey
      exact ⟨u, by rw [first, hfind]; rfl, List.mem_of_find?_eq_some hfind⟩

/-- A question that one program at a time resolves was reported in one way. -/
theorem Once.agree {k : κ} {v v' : ν} (h : Once k s) (hv : (k, v) ∈ s.reports)
    (hv' : (k, v') ∈ s.reports) : v = v' := by
  have hone : (s.reports.filter fun e => e.1 = k).length ≤ 1 := by
    rw [← List.countP_eq_length_filter]
    cases hkept : s.cache.lookup k with
    | some u => exact (h.kept u hkept).2.2.le
    | none => exact (h.missing hkept).le.trans ((Nat.le_add_left _ _).trans h.apart)
  have hmem : (k, v) ∈ s.reports.filter fun e => e.1 = k := List.mem_filter.2 ⟨hv, by simp⟩
  have hmem' : (k, v') ∈ s.reports.filter fun e => e.1 = k := List.mem_filter.2 ⟨hv', by simp⟩
  obtain ⟨e, he⟩ := List.length_eq_one_iff.1 (le_antisymm hone (List.length_pos_of_mem hmem))
  rw [he, List.mem_singleton] at hmem hmem'
  exact (Prod.mk.inj (hmem.trans hmem'.symm)).2

end Turns

end Memo

end GhafDeviceManager
