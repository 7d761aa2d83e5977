import Mathlib.Tactic

/-!
# Verdicts that stick

Items are scanned again and again and a verdict, once given, should stay with an item for as long
as it keeps being scanned. `Held` is that memory, kept per item. A cache that is rebuilt at every
scan and keyed by an id several items may share is a different memory: `cached` follows the last
item of each id. `cached_iff_held` says exactly when the two agree over a history.
-/

namespace GhafDeviceManager.StickyMemory

structure Scan (Item : Type) where
  items : List Item
  verdict : Item → Bool

variable {Item Key Id : Type} [DecidableEq Id]

/-- The verdict was given to the item with this key at the newest scan, or at an earlier one
without a scan in between that misses the key. Histories are newest first. -/
def Held (key : Item → Key) : List (Scan Item) → Key → Prop
  | [], _ => False
  | scan :: earlier, k =>
    ∃ x ∈ scan.items, key x = k ∧ (scan.verdict x = true ∨ Held key earlier k)

instance Held.decidable [DecidableEq Key] (key : Item → Key) :
    ∀ history k, Decidable (Held key history k)
  | [], _ => isFalse id
  | scan :: earlier, k =>
    haveI := Held.decidable key earlier k
    inferInstanceAs (Decidable (∃ x ∈ scan.items, key x = k ∧
      (scan.verdict x = true ∨ Held key earlier k)))

def lastWith (id : Item → Id) (items : List Item) (i : Id) : Option Item :=
  items.reverse.find? fun x => id x = i

def cached (id : Item → Id) : List (Scan Item) → Id → Option Bool
  | [], _ => none
  | scan :: earlier, i =>
    (lastWith id scan.items i).map fun x => scan.verdict x || (cached id earlier i).getD false

/-- The verdict at the newest scan, under the cache of the earlier ones. -/
def verdictNow (id : Item → Id) (scan : Scan Item) (earlier : List (Scan Item)) (x : Item) :
    Bool :=
  scan.verdict x || (cached id earlier (id x)).getD false

variable {key : Item → Key} {id : Item → Id}

theorem id_of_lastWith {items : List Item} {i : Id} {x : Item}
    (h : lastWith id items i = some x) : x ∈ items ∧ id x = i := by
  have hmem := List.mem_of_find?_eq_some h
  have hid := List.find?_some h
  exact ⟨List.mem_reverse.1 hmem, of_decide_eq_true hid⟩

theorem held_cons {scan : Scan Item} {earlier : List (Scan Item)}
    (hinj : Set.InjOn key {x | x ∈ scan.items}) {x : Item} (hx : x ∈ scan.items) :
    Held key (scan :: earlier) (key x) ↔
      scan.verdict x = true ∨ Held key earlier (key x) := by
  constructor
  · rintro ⟨y, hy, hyx, h⟩
    have heq : y = x := hinj hy hx hyx
    rwa [heq] at h
  · exact fun h => ⟨x, hx, rfl, h⟩

/-- The cached verdict of an id is that of the last item scanned with it. -/
theorem cached_cons_iff {scan : Scan Item} {earlier : List (Scan Item)} {i : Id} :
    (cached id (scan :: earlier) i).getD false = true ↔
      ∃ y, lastWith id scan.items i = some y ∧ verdictNow id scan earlier y = true := by
  cases hlast : lastWith id scan.items i with
  | none => simp [cached, hlast]
  | some y =>
      have hid := (id_of_lastWith hlast).2
      simp [cached, hlast, verdictNow, hid]

/-- At two consecutive scans, an item without a fresh verdict finds the last item of its id held
exactly when it is held itself. -/
def Agree (key : Item → Key) (id : Item → Id) (history : List (Scan Item)) : Prop :=
  ∀ next last earlier, next :: last :: earlier <:+ history → ∀ x ∈ next.items,
    next.verdict x = false →
      ((∃ y, lastWith id last.items (id x) = some y ∧ Held key (last :: earlier) (key y)) ↔
        Held key (last :: earlier) (key x))

/-- The cached verdicts of a history are those its items hold. -/
def Faithful (key : Item → Key) (id : Item → Id) (history : List (Scan Item)) : Prop :=
  ∀ scan earlier, scan :: earlier <:+ history → ∀ x ∈ scan.items,
    (verdictNow id scan earlier x = true ↔ Held key (scan :: earlier) (key x))

theorem Faithful.tail {scan : Scan Item} {earlier : List (Scan Item)}
    (h : Faithful key id (scan :: earlier)) : Faithful key id earlier :=
  fun s e hs => h s e (hs.trans (List.suffix_cons _ _))

theorem Agree.tail {scan : Scan Item} {earlier : List (Scan Item)}
    (h : Agree key id (scan :: earlier)) : Agree key id earlier :=
  fun n l e hs => h n l e (hs.trans (List.suffix_cons _ _))

/-- One scan further: over a faithful history the newest verdict of an item is right exactly when
the item has a fresh one or the last item of its id speaks for it. -/
theorem verdictNow_iff_held {next last : Scan Item} {earlier : List (Scan Item)}
    (hnext : Set.InjOn key {x | x ∈ next.items})
    (hfaithful : Faithful key id (last :: earlier)) {x : Item} (hx : x ∈ next.items) :
    (verdictNow id next (last :: earlier) x = true ↔
        Held key (next :: last :: earlier) (key x)) ↔
      (next.verdict x = false →
        ((∃ y, lastWith id last.items (id x) = some y ∧ Held key (last :: earlier) (key y)) ↔
          Held key (last :: earlier) (key x))) := by
  have hcached : (cached id (last :: earlier) (id x)).getD false = true ↔
      ∃ y, lastWith id last.items (id x) = some y ∧ Held key (last :: earlier) (key y) := by
    rw [cached_cons_iff]
    refine exists_congr fun y => and_congr_right fun hy => ?_
    exact hfaithful last earlier List.suffix_rfl y (id_of_lastWith hy).1
  rw [held_cons hnext hx, verdictNow, Bool.or_eq_true, hcached]
  cases next.verdict x <;> simp

/-- The cache remembers what the items hold if and only if the last item of each id always speaks
for the others. -/
theorem cached_iff_held {history : List (Scan Item)}
    (hinj : ∀ scan ∈ history, Set.InjOn key {x | x ∈ scan.items}) :
    Faithful key id history ↔ Agree key id history := by
  induction history with
  | nil =>
      constructor
      · intro _ n l e hs
        exact absurd (List.suffix_nil.1 hs) (by simp)
      · intro _ s e hs
        exact absurd (List.suffix_nil.1 hs) (by simp)
  | cons next earlier ih =>
      have hnext := hinj next List.mem_cons_self
      have ih := ih fun scan hscan => hinj scan (List.mem_cons_of_mem next hscan)
      constructor
      · intro h n l e hs x hx
        rcases List.suffix_cons_iff.1 hs with heq | hs
        · obtain ⟨rfl, rfl⟩ := List.cons.inj heq
          exact (verdictNow_iff_held hnext h.tail hx).1 (h n _ List.suffix_rfl x hx)
        · exact ih.1 h.tail n l e hs x hx
      · intro h s e hs x hx
        rcases List.suffix_cons_iff.1 hs with heq | hs
        · obtain ⟨rfl, rfl⟩ := List.cons.inj heq
          cases e with
          | nil =>
              rw [held_cons hnext hx]
              simp [verdictNow, cached, Held]
          | cons last rest =>
              have hfaithful := ih.2 h.tail
              exact (verdictNow_iff_held hnext hfaithful hx).2
                (h s last rest List.suffix_rfl x hx)
        · exact ih.2 h.tail s e hs x hx

end GhafDeviceManager.StickyMemory
