import GhafDeviceManager.AttachSides
import GhafDeviceManager.CleanPass
import GhafDeviceManager.Disconnects
import GhafDeviceManager.Observation
import GhafDeviceManager.Replies

/-!
# Connection events

An observation tells of what came and what went while it goes through the devices, and takes down
what it observed at its end. Where it stops between the two, the next one tells the same again.
-/

namespace GhafDeviceManager

open Fallible

/-! ## Alternation -/

/-- Changes of something that is `now`, each to what it was not before, after which it is
`later`. -/
def Toggles : Bool → List Bool → Bool → Prop
  | now, [], later => now = later
  | now, change :: changes, later => change = !now ∧ Toggles change changes later

/-- Every other change is to `true`, the first one too. -/
def Alternates (changes : List Bool) : Prop :=
  ∀ i change, changes[i]? = some change → (change = true ↔ i % 2 = 0)

theorem Toggles.append {now mid later : Bool} {first second : List Bool}
    (h₁ : Toggles now first mid) (h₂ : Toggles mid second later) :
    Toggles now (first ++ second) later := by
  induction first generalizing now with
  | nil =>
      obtain rfl : now = mid := h₁
      exact h₂
  | cons change first ih => exact ⟨h₁.1, ih h₁.2⟩

theorem Toggles.getElem {now later : Bool} {changes : List Bool} (h : Toggles now changes later)
    {i : ℕ} {change : Bool} (hchange : changes[i]? = some change) :
    change = now ↔ i % 2 = 1 := by
  induction changes generalizing now i with
  | nil => simp at hchange
  | cons first changes ih =>
      obtain ⟨hfirst, hrest⟩ := h
      cases i with
      | zero =>
          obtain rfl : first = change := by simpa using hchange
          simp [hfirst]
      | succ i =>
          have hlater := ih hrest (by simpa using hchange)
          subst hfirst
          have hother : change = now ↔ ¬change = !now := by
            cases change <;> cases now <;> simp
          rw [hother, hlater]
          omega

theorem Toggles.alternates {later : Bool} {changes : List Bool}
    (h : Toggles false changes later) : Alternates changes := by
  intro i change hchange
  have hparity := h.getElem hchange
  cases change with
  | true =>
      have hodd : ¬i % 2 = 1 := fun hodd => nomatch hparity.2 hodd
      simp only [true_iff]
      omega
  | false =>
      have hodd : i % 2 = 1 := hparity.1 rfl
      simp only [Bool.false_eq_true, false_iff]
      omega

/-! ## Events -/

inductive Port
  | usb (sysName : String)
  | pci (address : String)
deriving DecidableEq

/-- What was heard: `true` where a device came. A USB device that goes is told of by its node; its
name is in the removal of its binding that follows. -/
structure Ear where
  heard : List (Port × Bool) := []
  leaving : Bool := false

def Ear.hear (ear : Ear) : (op : Op) × Reply op → Ear
  | ⟨.notify (.usbConnected device), _⟩ =>
    { ear with heard := ear.heard ++ [(.usb device.sysName, true)] }
  | ⟨.notify (.usbDisconnected _), _⟩ => { ear with leaving := true }
  | ⟨.update (.crosvmUsbPortsRemove sysName), _⟩ =>
    if ear.leaving then ⟨ear.heard ++ [(.usb sysName, false)], false⟩ else ear
  | ⟨.notify (.pciConnected device), _⟩ =>
    { ear with heard := ear.heard ++ [(.pci device.address, true)] }
  | ⟨.notify (.pciDisconnected address), _⟩ =>
    { ear with heard := ear.heard ++ [(.pci address, false)] }
  | _ => ear

def listen (ear : Ear) (c : Replies Op Reply) : Ear := c.foldl Ear.hear ear

def events (c : Replies Op Reply) : List (Port × Bool) := (listen {} c).heard

def eventsOf (port : Port) (heard : List (Port × Bool)) : List Bool :=
  (heard.filter fun event => event.1 == port).map Prod.snd

def Op.Silent (op : Op) : Prop := ∀ (ear : Ear) (reply : Reply op), ear.hear ⟨op, reply⟩ = ear

section Listening

variable {ear : Ear} {c c₁ c₂ : Replies Op Reply} {port : Port}
  {heard heard₁ heard₂ : List (Port × Bool)}

theorem listen_append : listen ear (c₁ ++ c₂) = listen (listen ear c₁) c₂ := List.foldl_append

theorem listen_silent (h : ∀ e ∈ c, e.1.Silent) : listen ear c = ear := by
  induction c generalizing ear with
  | nil => rfl
  | cons e c ih =>
      obtain ⟨hhead, hrest⟩ := List.forall_mem_cons.1 h
      have hear : listen ear (e :: c) = listen (ear.hear e) c := rfl
      rw [hear, hhead ear e.2, ih hrest]

theorem eventsOf_append :
    eventsOf port (heard₁ ++ heard₂) = eventsOf port heard₁ ++ eventsOf port heard₂ := by
  simp [eventsOf]

theorem eventsOf_map {ports : List Port} (h : ports.Nodup) (change : Bool) :
    eventsOf port (ports.map fun port => (port, change)) =
      if port ∈ ports then [change] else [] := by
  have hfilter : eventsOf port (ports.map fun port => (port, change)) =
      (ports.filter (· == port)).map fun _ => change := by
    simp [eventsOf, List.filter_map, Function.comp_def]
  rw [hfilter, List.filter_beq, List.map_replicate]
  split
  case isTrue hmem => rw [List.count_eq_one_of_mem h hmem, List.replicate_one]
  case isFalse hnot => rw [List.count_eq_zero_of_not_mem hnot, List.replicate_zero]

end Listening

/-! ## What a program remembers and is told -/

/-- The memory, whatever else is answered. -/
abbrev told : Machine Op Reply Memory := remembering fun _ => True

theorem Finished.remembered {V α : Type} {M : Machine Op Reply V} {memory : V → Memory}
    {p : Program Op Reply α} {v v' : V} {c : Replies Op Reply} {a : α}
    (hM : Remembers M memory) (h : Finished M p v c v' a) :
    Finished told p (memory v) c (memory v') a := by
  induction h with
  | done a v => exact .done a (memory v)
  | call henv hstep _ ih =>
      obtain ⟨hrecalls, hmemory⟩ := hM.step _ _ _ _ hstep
      rw [hM.env _ _ henv] at hrecalls hmemory
      exact .call rfl ⟨trivial, hrecalls, hmemory⟩ ih

section Told

variable {α β : Type} {d : Daemon} {m m' : Memory} {c : Replies Op Reply} {ear : Ear}

theorem told_request {op : Op} {result : Reply op → Except Error α} {r : Except Error α}
    (h : Finished told (Fallible.request op result).run m c m' r) :
    ∃ reply, op.Recalls m reply ∧ c = [⟨op, reply⟩] ∧ m' = op.remember m ∧ r = result reply := by
  obtain ⟨m₁, reply, rfl, ⟨-, hrecalls, rfl⟩, rfl, rfl⟩ := finished_request h
  exact ⟨reply, hrecalls, rfl, rfl, rfl⟩

theorem told_ask {op : Op} {result : Reply op → α} {f : α → Act β} {r : Except Error β}
    (h : Finished told (Fallible.request op (fun reply => .ok (result reply)) >>= f).run m c m' r) :
    ∃ reply rest, op.Recalls m reply ∧ c = ⟨op, reply⟩ :: rest ∧
      Finished told (f (result reply)).run (op.remember m) rest m' r := by
  obtain ⟨e, -, hfailed⟩ | ⟨a, c₁, rest, m₁, hasked, hrest, rfl⟩ := finished_bind h
  · obtain ⟨_, -, -, -, hok⟩ := told_request hfailed
    cases hok
  · obtain ⟨reply, hrecalls, rfl, rfl, hreply⟩ := told_request hasked
    obtain rfl := Except.ok.inj hreply
    exact ⟨reply, rest, hrecalls, rfl, hrest⟩

theorem told_withLock {lock : Lock} {p : Act α} {r : Except Error α}
    (h : Finished told (withLock lock p).run m c m' r) :
    ∃ mid, c = ⟨.lock lock, ()⟩ :: (mid ++ [⟨.unlock lock, ()⟩]) ∧
      Finished told p.run m mid m' r := by
  obtain ⟨_, rest, -, rfl, hlocked⟩ := told_ask h
  obtain ⟨e, -, hfailed⟩ | ⟨x, mid, c₃, m₂, hattempt, hend, rfl⟩ := finished_bind hlocked
  · obtain ⟨_, hok, -⟩ := finished_attempt hfailed
    cases hok
  obtain ⟨_, hx, hp⟩ := finished_attempt hattempt
  obtain rfl := Except.ok.inj hx
  obtain ⟨_, last, -, rfl, hlast⟩ := told_ask hend
  have hsame : r = x ∧ m' = m₂ ∧ last = [] := by
    cases x with
    | ok a =>
        cases hlast with
        | done => exact ⟨rfl, rfl, rfl⟩
    | error e =>
        cases hlast with
        | done => exact ⟨rfl, rfl, rfl⟩
  obtain ⟨rfl, rfl, rfl⟩ := hsame
  exact ⟨mid, rfl, hp⟩

theorem told_keeps {p : Program Op Reply α} {a : α} {I : Memory → Prop} {S : Op → Prop}
    (h : Finished told p m c m' a) (hp : p.Calls S)
    (hS : ∀ op, S op → ∀ m, I m → I (op.remember m)) (hm : I m) : I m' := by
  induction h with
  | done a m => exact hm
  | call henv hstep _ ih =>
      obtain rfl := henv
      obtain ⟨-, -, rfl⟩ := hstep
      exact ih (hp.2 _) (hS _ hp.1 _ hm)

theorem told_silent {p : Program Op Reply α} {a : α} (h : Finished told p m c m' a)
    (hp : p.Calls Op.Silent) : listen ear c = ear :=
  listen_silent (h.replays.calls hp)

theorem told_forM_ok {xs : List β} {f : β → Act PUnit} {r : Except Error PUnit}
    (hround : ∀ x m c m' r, Finished told (f x).run m c m' r → r = .ok ())
    (h : Finished told (xs.forM f).run m c m' r) : r = .ok () := by
  induction xs generalizing m c with
  | nil => exact (finished_pure h).1
  | cons x xs ih =>
      obtain ⟨e, -, hfailed⟩ | ⟨_, c₁, c₂, m₁, -, hrest, -⟩ := finished_bind h
      · cases hround x m c m' _ hfailed
      · exact ih hrest

theorem told_forM {xs : List β} {f : β → Act PUnit} {tells : β → List (Port × Bool)}
    (hround : ∀ x ∈ xs, ∀ m c m' (ear : Ear), ear.leaving = false →
      Finished told (f x).run m c m' (.ok ()) →
        listen ear c = ⟨ear.heard ++ tells x, false⟩) (hear : ear.leaving = false)
    (h : Finished told (xs.forM f).run m c m' (.ok ())) :
    listen ear c = ⟨ear.heard ++ xs.flatMap tells, false⟩ := by
  induction xs generalizing ear m c with
  | nil =>
      obtain ⟨-, rfl, rfl⟩ := finished_pure h
      obtain ⟨heard, leaving⟩ := ear
      obtain rfl : leaving = false := hear
      simp [listen]
  | cons x xs ih =>
      obtain ⟨e, hok, -⟩ | ⟨_, c₁, c₂, m₁, hfirst, hrest, rfl⟩ := finished_bind h
      · cases hok
      have hhead := hround x List.mem_cons_self m c₁ m₁ ear hear hfirst
      have htail : listen ⟨ear.heard ++ tells x, false⟩ c₂ =
          ⟨ear.heard ++ tells x ++ xs.flatMap tells, false⟩ :=
        ih (fun y hy => hround y (List.mem_cons_of_mem x hy)) rfl hrest
      rw [listen_append, hhead, htail, List.flatMap_cons, List.append_assoc]

end Told

/-! ## What an observation tells -/

/-- The order in which the entries of a map came is one of its keys. -/
def Orderly (c : Replies Op Reply) : Prop :=
  ∀ keys order, (⟨.order keys, order⟩ : (op : Op) × Reply op) ∈ c → List.Perm order keys

theorem Orderly.mono {c c' : Replies Op Reply} (h : Orderly c) (hc : ∀ e ∈ c', e ∈ c) :
    Orderly c' := fun keys order he => h keys order (hc _ he)

theorem map_fst_filterMap {α : Type} (keys : List String) (look : String → Option α) :
    (keys.filterMap fun key => (look key).map fun value => (key, value)).map Prod.fst =
      keys.filter fun key => (look key).isSome := by
  induction keys with
  | nil => rfl
  | cons key keys ih => cases hlook : look key <;> simp [hlook, ih]

theorem flatMap_ite {α : Type} (xs : List (String × α)) (p : String → Bool) (port : String → Port)
    (change : Bool) :
    (xs.flatMap fun x => if p x.1 = true then [(port x.1, change)] else []) =
      (((xs.map Prod.fst).filter p).map port).map fun port => (port, change) := by
  induction xs with
  | nil => rfl
  | cons x xs ih => cases hp : p x.1 <;> simp [hp, ih]

/-- What is taken down as observed stays, and no observation begins. -/
def Op.Unobserving (op : Op) : Prop :=
  op ≠ .enter .observe ∧ ∀ m, (op.remember m).observedUsb = m.observedUsb ∧
    (op.remember m).observedPci = m.observedPci

theorem unobserving_of_vanishes {key : String} {device : UsbDevice} {op : Op}
    (h : op.Vanishes key device) : op.Unobserving := by
  refine ⟨?_, fun m => ?_⟩
  · rintro rfl
    exact h
  · cases op with
    | update u => cases u <;> first | exact ⟨rfl, rfl⟩ | exact h.elim
    | _ => exact ⟨rfl, rfl⟩

def Port.observed (m : Memory) : Port → Bool
  | usb sysName => (m.observedUsb.lookup sysName).isSome
  | pci address => (m.observedPci.lookup address).isSome

/-- What came and what went is told of, each once. -/
def Tells (port : String → Port) (now later : String → Bool) (ear : Ear)
    (c : Replies Op Reply) : Prop :=
  ∃ came went : List String, came.Nodup ∧ went.Nodup ∧
    (∀ key, key ∈ came ↔ later key = true ∧ now key = false) ∧
    (∀ key, key ∈ went ↔ now key = true ∧ later key = false) ∧
    listen ear c = ⟨ear.heard ++ (came.map port).map (fun port => (port, true)) ++
      (went.map port).map (fun port => (port, false)), false⟩

theorem Tells.toggles {port : String → Port} (hport : port.Injective) {now later : String → Bool}
    {ear : Ear} {c : Replies Op Reply} (h : Tells port now later ear c) {key : String}
    (hear : eventsOf (port key) ear.heard = []) :
    Toggles (now key) (eventsOf (port key) (listen ear c).heard) (later key) := by
  obtain ⟨came, went, hcameNodup, hwentNodup, hcame, hwent, hlisten⟩ := h
  rw [hlisten, eventsOf_append, eventsOf_append, hear, List.nil_append,
    eventsOf_map (hcameNodup.map hport), eventsOf_map (hwentNodup.map hport)]
  simp only [List.mem_map_of_injective hport, hcame, hwent]
  cases now key <;> cases later key <;> simp [Toggles]

theorem Tells.others {port : String → Port} {now later : String → Bool} {ear : Ear}
    {c : Replies Op Reply} (h : Tells port now later ear c) {other : Port}
    (hother : ∀ key, port key ≠ other) :
    eventsOf other (listen ear c).heard = eventsOf other ear.heard := by
  obtain ⟨came, went, -, -, -, -, hlisten⟩ := h
  have hnone : ∀ (keys : List String) (change : Bool),
      eventsOf other ((keys.map port).map fun port => (port, change)) = [] := by
    intro keys change
    simp [eventsOf, hother]
  rw [hlisten, eventsOf_append, eventsOf_append, hnone, hnone, List.append_nil, List.append_nil]

section Observing

variable {α : Type} {d : Daemon} {m m' : Memory} {c : Replies Op Reply} {ear : Ear}

structure Lists (map : Map α) (entries : List (String × α)) : Prop where
  nodup : (entries.map Prod.fst).Nodup
  lookup : ∀ x ∈ entries, map.lookup x.1 = some x.2
  complete : ∀ key, key ∈ entries.map Prod.fst ↔ (map.lookup key).isSome = true

theorem told_inOrder {map : Map α} {r : Except Error (List (String × α))} (horder : Orderly c)
    (h : Finished told (inOrder map).run m c m' r) :
    ∃ entries, r = .ok entries ∧ Lists map entries ∧ m' = m ∧ ∀ ear, listen ear c = ear := by
  obtain ⟨keys, rest, -, rfl, hrest⟩ := told_ask h
  obtain ⟨rfl, rfl, rfl⟩ := finished_pure hrest
  have hperm : keys.Perm map.keys := horder map.keys keys List.mem_cons_self
  refine ⟨_, rfl, ⟨?_, ?_, fun key => ?_⟩, rfl, fun _ => rfl⟩
  · rw [map_fst_filterMap]
    exact (hperm.nodup_iff.2 map.keys_nodup).filter _
  · intro x hx
    obtain ⟨key, -, hkey⟩ := List.mem_filterMap.1 hx
    obtain ⟨value, hvalue, rfl⟩ := Option.map_eq_some_iff.1 hkey
    exact hvalue
  · rw [map_fst_filterMap, List.mem_filter, hperm.mem_iff]
    refine and_iff_right_of_imp fun hsome => ?_
    exact AList.lookup_isSome.1 hsome

theorem told_saveState (h : Finished told (saveState d).run m c m' (.ok ())) :
    listen ear c = ear :=
  told_silent h (calls_saveState fun _ _ => rfl)

/-- A device that is forgotten is told of once, under its name. -/
theorem told_dropVanished {key : String} {device : UsbDevice}
    (h : Finished told (dropVanished d key device).run m c m' (.ok ())) :
    listen ear c = ⟨ear.heard ++ [(.usb key, false)], false⟩ := by
  obtain ⟨_, rest, -, rfl, hrest⟩ := told_ask h
  obtain ⟨e, hok, -⟩ | ⟨_, c₁, c₂, m₁, hlocked, hend, rfl⟩ := finished_bind hrest
  · cases hok
  obtain ⟨mid, rfl, hbody⟩ := told_withLock hlocked
  have hremoved : ∀ {m c} {ear : Ear}, ear.leaving = true → Finished told (do
      update (.crosvmUsbPortsRemove key)
      saveState d : Act Unit).run m c m₁ (.ok ()) →
        listen ear c = ⟨ear.heard ++ [(.usb key, false)], false⟩ := by
    intro m c ear hear hrun
    obtain ⟨_, saved, -, rfl, hsaved⟩ := told_ask hrun
    have hremove : listen ear (⟨.update (.crosvmUsbPortsRemove key), ()⟩ :: saved) =
        listen (if ear.leaving then ⟨ear.heard ++ [(.usb key, false)], false⟩ else ear) saved := rfl
    rw [hremove, if_pos hear]
    exact told_saveState hsaved
  have hmid : listen ⟨ear.heard, true⟩ mid = ⟨ear.heard ++ [(.usb key, false)], false⟩ := by
    cases hnode : device.deviceNode with
    | none =>
        rw [dropRecords, hnode] at hbody
        exact hremoved rfl hbody
    | some node =>
        rw [dropRecords, hnode] at hbody
        obtain ⟨_, removal, -, rfl, hremoval⟩ := told_ask hbody
        change listen ⟨ear.heard, true⟩ removal = _
        exact hremoved rfl hremoval
  have hlast : listen ⟨ear.heard ++ [(.usb key, false)], false⟩ c₂ =
      ⟨ear.heard ++ [(.usb key, false)], false⟩ :=
    told_silent hend (calls_request fun _ _ => rfl)
  change listen ⟨ear.heard, true⟩ ((mid ++ [⟨.unlock .state, ()⟩]) ++ c₂) = _
  rw [listen_append, listen_append, hmid]
  exact hlast

theorem silent_of_releases {binding : UsbPortBinding} {op : Op} (h : op.Releases binding) :
    op.Silent := by
  cases op with
  | usbDetach vm port => exact fun _ _ => rfl
  | socketGeneration socket => exact fun _ _ => rfl
  | usbList socket => exact fun _ _ => rfl
  | _ => exact h.elim

theorem told_forgetVanished {key : String} {device : UsbDevice}
    (h : Finished told (forgetVanished d key device).run m c m' (.ok ())) :
    listen ear c = ⟨ear.heard ++ [(.usb key, false)], false⟩ := by
  obtain ⟨reply, rest, -, rfl, hrest⟩ := told_ask h
  change listen ear rest = _
  cases hbinding : reply.persistent.crosvmUsbPorts.lookup key with
  | none =>
      rw [hbinding] at hrest
      exact told_dropVanished hrest
  | some binding =>
      rw [hbinding] at hrest
      have hrelease : Finished told (do
          releasePort d binding
          dropVanished d key device : Act Unit).run m rest m' (.ok ()) := hrest
      obtain ⟨e, hok, -⟩ | ⟨_, c₁, c₂, m₁, hreleased, hdrop, rfl⟩ := finished_bind hrelease
      · cases hok
      have hquiet : listen ear c₁ = ear := told_silent hreleased
        (Program.calls_mono (calls_releasePort_releases binding) fun _ => silent_of_releases)
      rw [listen_append, hquiet]
      exact told_dropVanished hdrop

/-- An observation of USB devices that ran to its end told of what came and of what went, each
once. -/
theorem told_observeUsb {usb : Map UsbDevice} (horder : Orderly c)
    (husb : ∀ key device, usb.lookup key = some device → device.sysName = key)
    (hear : ear.leaving = false) (h : Finished told (observeUsb d usb).run m c m' (.ok ())) :
    m'.observedUsb = usb ∧ m'.observedPci = m.observedPci ∧
      Tells .usb (fun key => (Port.usb key).observed m) (fun key => (Port.usb key).observed m') ear
        c := by
  obtain ⟨mid, rfl, hbody⟩ := told_withLock h
  obtain ⟨reply, rest, hreply, rfl, hrest⟩ := told_ask hbody
  obtain rfl : reply = m := hreply
  obtain ⟨e, hok, -⟩ | ⟨present, c₁, c₂, m₁, hpresent, hcoming, rfl⟩ := finished_bind hrest
  · cases hok
  obtain ⟨_, hpresents, hlists, rfl, hquiet₁⟩ :=
    told_inOrder (horder.mono fun e he => by simp [he]) hpresent
  obtain rfl := Except.ok.inj hpresents
  obtain ⟨e, hok, -⟩ | ⟨_, c₃, c₄, m₂, hcame, hleaving, rfl⟩ := finished_bind hcoming
  · cases hok
  obtain ⟨e, hok, -⟩ | ⟨seen, c₅, c₆, m₃, hseen, hgoing, rfl⟩ := finished_bind hleaving
  · cases hok
  obtain ⟨_, hseens, hobserved, rfl, hquiet₂⟩ :=
    told_inOrder (horder.mono fun e he => by simp [he]) hseen
  obtain rfl := Except.ok.inj hseens
  obtain ⟨e, hok, -⟩ | ⟨_, c₇, c₈, m₄, hwent, hend, rfl⟩ := finished_bind hgoing
  · cases hok
  obtain ⟨_, -, rfl, rfl, -⟩ := told_request hend
  have hcameRounds : ∀ x ∈ present, ∀ m c m' (ear : Ear), ear.leaving = false →
      Finished told (if (m₁.observedUsb.lookup x.1).isNone then notify (.usbConnected x.2)
        else pure () : Act Unit).run m c m' (.ok ()) →
      listen ear c = ⟨ear.heard ++ if (m₁.observedUsb.lookup x.1).isNone = true then
        [(Port.usb x.1, true)] else [], false⟩ := by
    intro x hx m c m' ear hear hround
    obtain ⟨heard, leaving⟩ := ear
    obtain rfl : leaving = false := hear
    split at hround
    case isTrue hnew =>
      obtain ⟨_, -, rfl, -, -⟩ := told_request hround
      rw [if_pos hnew, ← husb x.1 x.2 (hlists.lookup x hx)]
      rfl
    case isFalse hold =>
      obtain ⟨-, -, rfl⟩ := finished_pure hround
      rw [if_neg hold, List.append_nil]
      rfl
  have hwentRounds : ∀ x ∈ seen, ∀ m c m' (ear : Ear), ear.leaving = false →
      Finished told (if (usb.lookup x.1).isNone then forgetVanished d x.1 x.2
        else pure () : Act Unit).run m c m' (.ok ()) →
      listen ear c = ⟨ear.heard ++ if (usb.lookup x.1).isNone = true then
        [(Port.usb x.1, false)] else [], false⟩ := by
    intro x hx m c m' ear hear hround
    obtain ⟨heard, leaving⟩ := ear
    obtain rfl : leaving = false := hear
    split at hround
    case isTrue hgone =>
      rw [if_pos hgone]
      exact told_forgetVanished hround
    case isFalse hstays =>
      obtain ⟨-, -, rfl⟩ := finished_pure hround
      rw [if_neg hstays, List.append_nil]
      rfl
  have hsame : m₃ = m₁ := by
    refine told_keeps (S := fun op => ∀ m, op.remember m = m) (I := fun m => m = m₁) hcame ?_ ?_ rfl
    · exact calls_forM fun x _ => calls_ite (calls_request fun _ => rfl) trivial
    · exact fun op hop m hm => (hop m).trans hm
  obtain rfl : m₁ = m₃ := hsame.symm
  have hpci : m₄.observedPci = m₁.observedPci := by
    refine told_keeps (S := Op.Unobserving) (I := fun m => m.observedPci = m₁.observedPci) hwent ?_
      ?_ rfl
    · exact calls_forM fun x _ => calls_ite (Program.calls_mono (calls_forgetVanished d x.1 x.2)
        fun _ => unobserving_of_vanishes) trivial
    · exact fun op hop m hm => ((hop.2 m).2).trans hm
  let came := (present.map Prod.fst).filter fun key => (m₁.observedUsb.lookup key).isNone
  let went := (seen.map Prod.fst).filter fun key => (usb.lookup key).isNone
  have hearCame : listen ear c₃ =
      ⟨ear.heard ++ (came.map Port.usb).map (fun port => (port, true)), false⟩ := by
    rw [← flatMap_ite]
    exact told_forM hcameRounds hear hcame
  have hearWent : listen ⟨ear.heard ++ (came.map Port.usb).map (fun port => (port, true)), false⟩
      c₇ = ⟨ear.heard ++ (came.map Port.usb).map (fun port => (port, true)) ++
        (went.map Port.usb).map (fun port => (port, false)), false⟩ := by
    rw [← flatMap_ite seen]
    exact told_forM hwentRounds rfl hwent
  refine ⟨rfl, hpci, came, went, hlists.nodup.filter _, hobserved.nodup.filter _, fun key => ?_,
    fun key => ?_, ?_⟩
  · rw [List.mem_filter, hlists.complete key]
    simp [Port.observed, Op.remember, Update.apply]
  · rw [List.mem_filter, hobserved.complete key]
    simp [Port.observed, Op.remember, Update.apply]
  · change listen ear ((c₁ ++ (c₃ ++ (c₅ ++ (c₇ ++ [⟨.update (.observedUsb usb), ()⟩])))) ++
      [⟨.unlock .observedUsb, ()⟩]) = _
    rw [listen_append, listen_append, listen_append, listen_append, listen_append, hquiet₁,
      hearCame, hquiet₂, hearWent]
    rfl

theorem told_observePci_ok {pci : Map PciDevice} {r : Except Error Unit}
    (h : Finished told (observePci pci).run m c m' r) : r = .ok () := by
  obtain ⟨mid, rfl, hbody⟩ := told_withLock h
  obtain ⟨reply, rest, -, rfl, hrest⟩ := told_ask hbody
  obtain ⟨e, -, hfailed⟩ | ⟨present, _, c₁, _, -, hcoming, rfl⟩ := finished_bind hrest
  · obtain ⟨_, _, -, -, hend⟩ := told_ask hfailed
    obtain ⟨hok, -⟩ := finished_pure hend
    cases hok
  obtain ⟨e, -, hfailed⟩ | ⟨_, _, c₂, _, -, hleaving, rfl⟩ := finished_bind hcoming
  · have hok := told_forM_ok (fun x m c m' r hround => ?_) hfailed
    · cases hok
    · dsimp only at hround
      split at hround
      case isTrue =>
        obtain ⟨_, -, -, -, rfl⟩ := told_request hround
        rfl
      case isFalse => exact (finished_pure hround).1
  obtain ⟨e, -, hfailed⟩ | ⟨seen, _, c₃, _, -, hgoing, rfl⟩ := finished_bind hleaving
  · obtain ⟨_, _, -, -, hend⟩ := told_ask hfailed
    obtain ⟨hok, -⟩ := finished_pure hend
    cases hok
  obtain ⟨e, -, hfailed⟩ | ⟨_, _, c₄, _, -, hend, rfl⟩ := finished_bind hgoing
  · have hok := told_forM_ok (fun x m c m' r hround => ?_) hfailed
    · cases hok
    · dsimp only at hround
      split at hround
      case isTrue =>
        obtain ⟨_, _, -, -, hremoval⟩ := told_ask hround
        obtain ⟨_, -, -, -, rfl⟩ := told_request hremoval
        rfl
      case isFalse => exact (finished_pure hround).1
  obtain ⟨_, -, -, -, hr⟩ := told_request hend
  exact hr

/-- An observation of PCI devices always runs to its end. -/
theorem told_observePci {pci : Map PciDevice} (horder : Orderly c)
    (hpci : ∀ key device, pci.lookup key = some device → device.address = key)
    (hobserved : ∀ key device, m.observedPci.lookup key = some device → device.address = key)
    (hear : ear.leaving = false) (h : Finished told (observePci pci).run m c m' (.ok ())) :
    m'.observedPci = pci ∧ m'.observedUsb = m.observedUsb ∧
      Tells .pci (fun key => (Port.pci key).observed m) (fun key => (Port.pci key).observed m') ear
        c := by
  obtain ⟨mid, rfl, hbody⟩ := told_withLock h
  obtain ⟨reply, rest, hreply, rfl, hrest⟩ := told_ask hbody
  obtain rfl : reply = m := hreply
  obtain ⟨e, hok, -⟩ | ⟨present, c₁, c₂, m₁, hpresent, hcoming, rfl⟩ := finished_bind hrest
  · cases hok
  obtain ⟨_, hpresents, hlists, rfl, hquiet₁⟩ :=
    told_inOrder (horder.mono fun e he => by simp [he]) hpresent
  obtain rfl := Except.ok.inj hpresents
  obtain ⟨e, hok, -⟩ | ⟨_, c₃, c₄, m₂, hcame, hleaving, rfl⟩ := finished_bind hcoming
  · cases hok
  obtain ⟨e, hok, -⟩ | ⟨seen, c₅, c₆, m₃, hseen, hgoing, rfl⟩ := finished_bind hleaving
  · cases hok
  obtain ⟨_, hseens, hlistsSeen, rfl, hquiet₂⟩ :=
    told_inOrder (horder.mono fun e he => by simp [he]) hseen
  obtain rfl := Except.ok.inj hseens
  obtain ⟨e, hok, -⟩ | ⟨_, c₇, c₈, m₄, hwent, hend, rfl⟩ := finished_bind hgoing
  · cases hok
  obtain ⟨_, -, rfl, rfl, -⟩ := told_request hend
  have hcameRounds : ∀ x ∈ present, ∀ m c m' (ear : Ear), ear.leaving = false →
      Finished told (if (m₁.observedPci.lookup x.1).isNone then notify (.pciConnected x.2)
        else pure () : Act Unit).run m c m' (.ok ()) →
      listen ear c = ⟨ear.heard ++ if (m₁.observedPci.lookup x.1).isNone = true then
        [(Port.pci x.1, true)] else [], false⟩ := by
    intro x hx m c m' ear hear hround
    obtain ⟨heard, leaving⟩ := ear
    obtain rfl : leaving = false := hear
    split at hround
    case isTrue hnew =>
      obtain ⟨_, -, rfl, -, -⟩ := told_request hround
      rw [if_pos hnew, ← hpci x.1 x.2 (hlists.lookup x hx)]
      rfl
    case isFalse hold =>
      obtain ⟨-, -, rfl⟩ := finished_pure hround
      rw [if_neg hold, List.append_nil]
      rfl
  have hsame : m₃ = m₁ := by
    refine told_keeps (S := fun op => ∀ m, op.remember m = m) (I := fun m => m = m₁) hcame ?_ ?_ rfl
    · exact calls_forM fun x _ => calls_ite (calls_request fun _ => rfl) trivial
    · exact fun op hop m hm => (hop m).trans hm
  obtain rfl : m₁ = m₃ := hsame.symm
  have hwentRounds : ∀ x ∈ seen, ∀ m c m' (ear : Ear), ear.leaving = false →
      Finished told (do
        if (pci.lookup x.1).isNone then
          notify (.pciDisconnected x.2.address)
          update (.pciVmsRemove x.1) : Act Unit).run m c m' (.ok ()) →
      listen ear c = ⟨ear.heard ++ if (pci.lookup x.1).isNone = true then
        [(Port.pci x.1, false)] else [], false⟩ := by
    intro x hx m c m' ear hear hround
    obtain ⟨heard, leaving⟩ := ear
    obtain rfl : leaving = false := hear
    split at hround
    case isTrue hgone =>
      obtain ⟨_, removal, -, rfl, hremoval⟩ := told_ask hround
      obtain ⟨_, -, rfl, -, -⟩ := told_request hremoval
      rw [if_pos hgone]
      have haddress := hobserved x.1 x.2 (hlistsSeen.lookup x hx)
      rw [← haddress]
      rfl
    case isFalse hstays =>
      obtain ⟨-, -, rfl⟩ := finished_pure hround
      rw [if_neg hstays, List.append_nil]
      rfl
  have husb : m₄.observedUsb = m₁.observedUsb := by
    refine told_keeps (S := Op.Unobserving) (I := fun m => m.observedUsb = m₁.observedUsb) hwent ?_
      ?_ rfl
    · refine calls_forM fun x _ => calls_ite (calls_bind (calls_request ?_) fun _ => ?_) trivial
      · exact ⟨nofun, fun _ => ⟨rfl, rfl⟩⟩
      · exact calls_request ⟨nofun, fun _ => ⟨rfl, rfl⟩⟩
    · exact fun op hop m hm => ((hop.2 m).1).trans hm
  let came := (present.map Prod.fst).filter fun key => (m₁.observedPci.lookup key).isNone
  let went := (seen.map Prod.fst).filter fun key => (pci.lookup key).isNone
  have hearCame : listen ear c₃ =
      ⟨ear.heard ++ (came.map Port.pci).map (fun port => (port, true)), false⟩ := by
    rw [← flatMap_ite]
    exact told_forM hcameRounds hear hcame
  have hearWent : listen ⟨ear.heard ++ (came.map Port.pci).map (fun port => (port, true)), false⟩
      c₇ = ⟨ear.heard ++ (came.map Port.pci).map (fun port => (port, true)) ++
        (went.map Port.pci).map (fun port => (port, false)), false⟩ := by
    rw [← flatMap_ite seen]
    exact told_forM hwentRounds rfl hwent
  refine ⟨rfl, husb, came, went, hlists.nodup.filter _, hlistsSeen.nodup.filter _, fun key => ?_,
    fun key => ?_, ?_⟩
  · rw [List.mem_filter, hlists.complete key]
    simp [Port.observed, Op.remember, Update.apply]
  · rw [List.mem_filter, hlistsSeen.complete key]
    simp [Port.observed, Op.remember, Update.apply]
  · change listen ear ((c₁ ++ (c₃ ++ (c₅ ++ (c₇ ++ [⟨.update (.observedPci pci), ()⟩])))) ++
      [⟨.unlock .observedPci, ()⟩]) = _
    rw [listen_append, listen_append, listen_append, listen_append, listen_append, hquiet₁,
      hearCame, hquiet₂, hearWent]
    rfl

def SameObserved (m m' : Memory) : Prop :=
  m'.observedUsb = m.observedUsb ∧ m'.observedPci = m.observedPci

theorem told_unobserving {p : Program Op Reply α} {a : α} (h : Finished told p m c m' a)
    (hp : p.Calls Op.Unobserving) : SameObserved m m' :=
  told_keeps (I := SameObserved m) h hp
    (fun _ hop m₁ hm => ⟨((hop.2 m₁).1).trans hm.1, ((hop.2 m₁).2).trans hm.2⟩) ⟨rfl, rfl⟩

theorem SameObserved.trans {m₁ : Memory} (h₁ : SameObserved m m₁) (h₂ : SameObserved m₁ m') :
    SameObserved m m' := ⟨h₂.1.trans h₁.1, h₂.2.trans h₁.2⟩

/-- Where it fails, nothing is taken down. -/
theorem told_observeUsb_failed {usb : Map UsbDevice} {e : Error}
    (h : Finished told (observeUsb d usb).run m c m' (.error e)) : SameObserved m m' := by
  have hquiet : ∀ {op : Op}, (∀ m, op.remember m = m) → op ≠ .enter .observe → op.Unobserving :=
    fun hsame hne => ⟨hne, fun m => by rw [hsame m]; exact ⟨rfl, rfl⟩⟩
  obtain ⟨mid, rfl, hbody⟩ := told_withLock h
  obtain ⟨reply, rest, hreply, rfl, hrest⟩ := told_ask hbody
  obtain ⟨e, -, hfailed⟩ | ⟨present, c₁, c₂, m₁, hpresent, hcoming, rfl⟩ := finished_bind hrest
  · exact told_unobserving hfailed (calls_inOrder usb (hquiet (fun _ => rfl) nofun))
  have hsame₁ := told_unobserving hpresent (calls_inOrder usb (hquiet (fun _ => rfl) nofun))
  have hcame : Calls Op.Unobserving (present.forM fun x =>
      if (reply.observedUsb.lookup x.1).isNone then notify (.usbConnected x.2) else pure ()) :=
    calls_forM fun x _ => calls_ite (calls_request (hquiet (fun _ => rfl) nofun)) trivial
  obtain ⟨e, -, hfailed⟩ | ⟨_, c₃, c₄, m₂, hconnected, hleaving, rfl⟩ := finished_bind hcoming
  · exact hsame₁.trans (told_unobserving hfailed hcame)
  have hsame₂ := hsame₁.trans (told_unobserving hconnected hcame)
  obtain ⟨e, -, hfailed⟩ | ⟨seen, c₅, c₆, m₃, hseen, hgoing, rfl⟩ := finished_bind hleaving
  · exact hsame₂.trans (told_unobserving hfailed
      (calls_inOrder _ (hquiet (fun _ => rfl) nofun)))
  have hsame₃ := hsame₂.trans (told_unobserving hseen
    (calls_inOrder _ (hquiet (fun _ => rfl) nofun)))
  have hwent : Calls Op.Unobserving (seen.forM fun x =>
      if (usb.lookup x.1).isNone then forgetVanished d x.1 x.2 else pure ()) :=
    calls_forM fun x _ => calls_ite (Program.calls_mono (calls_forgetVanished d x.1 x.2)
      fun _ => unobserving_of_vanishes) trivial
  obtain ⟨e, -, hfailed⟩ | ⟨_, c₇, c₈, m₄, -, hend, rfl⟩ := finished_bind hgoing
  · exact hsame₃.trans (told_unobserving hfailed hwent)
  obtain ⟨_, -, -, -, hok⟩ := told_request hend
  cases hok

end Observing

/-! ## Passes -/

/-- What is observed is taken down under its address. -/
def Addressed (m : Memory) : Prop :=
  ∀ key device, m.observedPci.lookup key = some device → device.address = key

/-- An observation of the USB devices that were scanned has told of nothing if it fails. -/
def TellsLast (d : Daemon) (c : Replies Op Reply) : Prop :=
  ∀ scanned mid e, ⟨.scanUsb, .ok scanned⟩ ∈ c → mid <:+: c →
    Replays (observeUsb d (insertAll UsbDevice.sysName ((d.usbRouted scanned).map Prod.fst))).run
      mid (.error e) → events mid = []

section Pass

variable {d : Daemon} {m m' : Memory} {c : Replies Op Reply} {r : Except Error Unit}

theorem SameObserved.port (h : SameObserved m m') (port : Port) :
    port.observed m' = port.observed m := by
  cases port with
  | usb sysName => rw [Port.observed, Port.observed, h.1]
  | pci address => rw [Port.observed, Port.observed, h.2]

theorem SameObserved.addressed (h : SameObserved m m') (hm : Addressed m) : Addressed m' := by
  unfold Addressed
  rw [h.2]
  exact hm

theorem scanned_of_usbDevices {usb : List (UsbDevice × RuleMatch)}
    (h : Replays (usbDevices d).run c (.ok usb)) :
    ∃ scanned, ⟨.scanUsb, .ok scanned⟩ ∈ c ∧ usb = d.usbRouted scanned := by
  obtain ⟨scanned, c₁, c₂, hscan, hend, rfl⟩ := replays_bind h
  obtain ⟨reply, rfl, hreply⟩ := replays_request hscan
  obtain ⟨hrouted, rfl⟩ := replays_pure hend
  obtain rfl : reply = .ok scanned := hreply.symm
  exact ⟨scanned, List.mem_cons_self, Except.ok.inj hrouted⟩

/-- An observation that is whole tells of the changes it takes down. -/
theorem told_observe (horder : Orderly c) (hm : Addressed m) (hlast : TellsLast d c)
    (h : Finished told (observe d).run m c m' r) :
    Addressed m' ∧
      ∀ port, Toggles (port.observed m) (eventsOf port (events c)) (port.observed m') := by
  have hquiet : ∀ {α : Type} {p : Act α} {c : Replies Op Reply} {m m' : Memory}
      {x : Except Error α}, Calls (fun op => op.Unobserving ∧ op.Silent) p →
        Finished told p.run m c m' x → SameObserved m m' ∧ ∀ ear, listen ear c = ear := by
    intro α p c m m' x hp hrun
    exact ⟨told_unobserving hrun (Program.calls_mono hp fun _ hop => hop.1), fun ear =>
      told_silent hrun (Program.calls_mono hp fun _ hop => hop.2)⟩
  have hsame : ∀ {m' : Memory} {c : Replies Op Reply}, SameObserved m m' → events c = [] →
      Addressed m' ∧ ∀ port : Port,
        Toggles (port.observed m) (eventsOf port (events c)) (port.observed m') := by
    intro m' c hm' hevents
    refine ⟨hm'.addressed hm, fun port => ?_⟩
    rw [hevents, hm'.port]
    rfl
  obtain ⟨_, rest, -, rfl, hrest⟩ := told_ask h
  have husbScan : Calls (fun op => op.Unobserving ∧ op.Silent) (usbDevices d) :=
    calls_usbDevices ⟨⟨nofun, fun _ => ⟨rfl, rfl⟩⟩, fun _ _ => rfl⟩
  have hpciScan : Calls (fun op => op.Unobserving ∧ op.Silent) (pciDevices d) :=
    calls_pciDevices ⟨⟨nofun, fun _ => ⟨rfl, rfl⟩⟩, fun _ _ => rfl⟩
      fun _ => ⟨⟨nofun, fun _ => ⟨rfl, rfl⟩⟩, fun _ _ => rfl⟩
  obtain ⟨e, -, hfailed⟩ | ⟨usb, c₁, c₂, m₁, husb, hpciPart, rfl⟩ := finished_bind hrest
  · obtain ⟨hkept, hsilent⟩ := hquiet husbScan hfailed
    exact hsame hkept (congrArg Ear.heard (hsilent {}))
  obtain ⟨hkept₁, hsilent₁⟩ := hquiet husbScan husb
  obtain ⟨e, -, hfailed⟩ | ⟨pci, c₃, c₄, m₂, hpci, hobserving, rfl⟩ := finished_bind hpciPart
  · obtain ⟨hkept, hsilent⟩ := hquiet hpciScan hfailed
    refine hsame (hkept₁.trans hkept) ?_
    change (listen {} (c₁ ++ c₂)).heard = []
    rw [listen_append, hsilent₁, hsilent]
  obtain ⟨hkept₂, hsilent₂⟩ := hquiet hpciScan hpci
  have hscanned : SameObserved m m₂ := hkept₁.trans hkept₂
  have hfront : ∀ c', listen {} (⟨.enter .observe, ()⟩ :: (c₁ ++ (c₃ ++ c'))) = listen {} c' := by
    intro c'
    change listen {} (c₁ ++ (c₃ ++ c')) = _
    rw [listen_append, listen_append, hsilent₁, hsilent₂]
  obtain ⟨e, -, hfailed⟩ | ⟨_, c₅, c₆, m₃, husbSeen, hpciSeen, rfl⟩ := finished_bind hobserving
  · refine hsame (hscanned.trans (told_observeUsb_failed hfailed)) ?_
    have hwithin : c₄ <:+: ⟨.enter .observe, ()⟩ :: (c₁ ++ (c₃ ++ c₄)) :=
      ⟨⟨.enter .observe, ()⟩ :: (c₁ ++ c₃), [], by simp⟩
    obtain ⟨scanned, hmem, rfl⟩ := scanned_of_usbDevices husb.replays
    have hnone := hlast scanned c₄ e (by simp [hmem]) hwithin hfailed.replays
    unfold events at hnone ⊢
    rw [hfront, hnone]
  obtain rfl := told_observePci_ok hpciSeen
  have husbKeys : ∀ (key : String) (device : UsbDevice),
      (insertAll UsbDevice.sysName (usb.map Prod.fst)).lookup key = some device →
        device.sysName = key := fun _ _ hlookup => (of_lookup_insertAll hlookup).2
  have hpciKeys : ∀ (key : String) (device : PciDevice),
      (insertAll PciDevice.address (pci.map Prod.fst)).lookup key = some device →
        device.address = key := fun _ _ hlookup => (of_lookup_insertAll hlookup).2
  obtain ⟨-, hpciKept, husbTells⟩ :=
    told_observeUsb (horder.mono fun e he => by simp [he]) husbKeys (rfl : Ear.leaving {} = false)
      husbSeen
  have haddressed : Addressed m₃ := by
    unfold Addressed
    rw [hpciKept, hscanned.2]
    exact hm
  have hheard : (listen {} c₅).leaving = false := by
    obtain ⟨_, _, -, -, -, -, hlisten⟩ := husbTells
    rw [hlisten]
  obtain ⟨hpciTaken, husbKept, hpciTells⟩ :=
    told_observePci (horder.mono fun e he => by simp [he]) hpciKeys haddressed hheard hpciSeen
  refine ⟨?_, fun port => ?_⟩
  · unfold Addressed
    rw [hpciTaken]
    exact hpciKeys
  have hevents : events (⟨.enter .observe, ()⟩ :: (c₁ ++ (c₃ ++ (c₅ ++ c₆)))) =
      (listen (listen {} c₅) c₆).heard := by
    rw [events, hfront, listen_append]
  rw [hevents]
  cases port with
  | usb sysName =>
      have hbefore : (Port.usb sysName).observed m = (Port.usb sysName).observed m₂ := by
        rw [Port.observed, Port.observed, hscanned.1]
      have hafter : (Port.usb sysName).observed m' = (Port.usb sysName).observed m₃ := by
        rw [Port.observed, Port.observed, husbKept]
      have hother : ∀ address, Port.pci address ≠ Port.usb sysName := fun _ h => by cases h
      rw [hpciTells.others hother, hbefore, hafter]
      exact husbTells.toggles (fun _ _ => Port.usb.inj) rfl
  | pci address =>
      have hbefore : (Port.pci address).observed m = (Port.pci address).observed m₃ := by
        rw [Port.observed, Port.observed, hpciKept, hscanned.2]
      have hother : ∀ sysName, Port.usb sysName ≠ Port.pci address := fun _ h => by cases h
      rw [hbefore]
      exact hpciTells.toggles (fun _ _ => Port.pci.inj) (husbTells.others hother)

theorem unobserving_of_gates {op : Op} (h : op.Gates) : op.Unobserving := by
  refine ⟨by rintro rfl; exact h, fun m => ?_⟩
  cases op with
  | update u => cases u <;> first | exact ⟨rfl, rfl⟩ | exact h.elim
  | _ => exact ⟨rfl, rfl⟩

theorem unobserving_of_sweeps {op : Op} (h : op.Sweeps) : op.Unobserving := by
  refine ⟨by rintro rfl; exact h, fun m => ?_⟩
  cases op with
  | update u => cases u <;> first | exact ⟨rfl, rfl⟩ | exact h.elim
  | _ => exact ⟨rfl, rfl⟩

theorem unobserving_of_glue {op : Op} (h : op.Glue) : op.Unobserving := by
  refine ⟨by rintro rfl; exact h, fun m => ?_⟩
  cases op with
  | update u => cases u <;> first | exact ⟨rfl, rfl⟩ | exact h.elim
  | _ => exact ⟨rfl, rfl⟩

theorem unobserving_of_assigns {device : UsbDevice} {op : Op} (h : op.Assigns device) :
    op.Unobserving := by
  refine ⟨?_, fun m => ?_⟩
  · rintro rfl
    cases h
  cases op with
  | update u => cases u <;> first | exact ⟨rfl, rfl⟩ | exact h.elim
  | _ => exact ⟨rfl, rfl⟩

theorem unobserving_of_attachesPci {device : PciDevice} {op : Op} (h : op.AttachesPci device) :
    op.Unobserving := by
  refine ⟨by rintro rfl; exact h, fun m => ?_⟩
  cases op with
  | update u => cases u <;> first | exact ⟨rfl, rfl⟩ | exact h.elim
  | _ => exact ⟨rfl, rfl⟩

theorem calls_resumeUsb_unobserving (d : Daemon) : Calls Op.Unobserving (resumeUsb d none) := by
  have hglue : ∀ op : Op, op.Glue → op.Unobserving := fun _ => unobserving_of_glue
  refine calls_withLock (hglue _ trivial) (hglue _ trivial) ?_
  refine calls_bind (calls_usbDevices (hglue _ trivial)) fun devices => ?_
  refine calls_bind (calls_request (hglue _ trivial)) fun _ => ?_
  refine calls_bind (calls_foldlM (fun failures x => ?_) []) fun failures => calls_aggregate failures
  refine calls_resumeUsbDevice (hglue _ trivial) (fun _ => hglue _ trivial) (hglue _ trivial)
    fun target => ?_
  exact calls_attachOneUsb d x.1 x.2 target ⟨nofun, fun _ => ⟨rfl, rfl⟩⟩
    fun _ => unobserving_of_assigns

/-- A pass beside its observation leaves alone what is taken down as observed. -/
theorem told_reconcile (h : Finished told (reconcile d).run m c m' r) :
    ∃ first seen last m₁ m₂ x, c = first ++ (seen ++ last) ∧
      (∀ e ∈ first, e.1.Unobserving) ∧ (∀ e ∈ last, e.1.Unobserving) ∧ SameObserved m m₁ ∧
      Finished told (observe d).run m₁ seen m₂ x ∧ SameObserved m₂ m' := by
  have hfirst : Calls Op.Unobserving (do
      update (.deferred false)
      warnOnError (applyUsbGate d)) :=
    calls_bind (calls_request ⟨nofun, fun _ => ⟨rfl, rfl⟩⟩) fun _ => calls_warnOnError
      (Program.calls_mono (calls_applyUsbGate d) fun _ => unobserving_of_gates)
  have hlast : Calls Op.Unobserving (do
      let failures ← collect "PCI" (resumePci d none) []
      let failures ← collect "USB" (resumeUsb d none) failures
      let failures ← collect "USB authorization" (deauthorizeUnmatchedUsb d) failures
      aggregate failures) := by
    refine calls_bind (calls_collect (calls_resumePci (fun _ hop _ => unobserving_of_glue hop)
      (fun _ _ => unobserving_of_attachesPci) none) []) fun failures => ?_
    refine calls_bind (calls_collect (calls_resumeUsb_unobserving d) failures) fun failures => ?_
    refine calls_bind (calls_collect (Program.calls_mono (calls_deauthorizeUnmatchedUsb d)
      fun _ => unobserving_of_sweeps) failures) fun failures => calls_aggregate failures
  have hsplit : Finished told ((do
      update (.deferred false)
      warnOnError (applyUsbGate d) : Act Unit) >>= fun _ => observe d >>= fun _ => do
        let failures ← collect "PCI" (resumePci d none) []
        let failures ← collect "USB" (resumeUsb d none) failures
        let failures ← collect "USB authorization" (deauthorizeUnmatchedUsb d) failures
        aggregate failures).run m c m' r := by
    simpa only [reconcile, bind_assoc] using h
  obtain ⟨e, -, hfailed⟩ | ⟨_, first, rest, m₁, hgate, hrest, rfl⟩ := finished_bind hsplit
  · obtain ⟨_, _, -, -, hwarned⟩ := told_ask hfailed
    obtain ⟨_, -, hattempt⟩ | ⟨_, _, _, _, -, hend, -⟩ := finished_bind hwarned
    · obtain ⟨_, hok, -⟩ := finished_attempt hattempt
      cases hok
    · obtain ⟨hok, -⟩ := finished_pure hend
      cases hok
  have hbefore := told_unobserving hgate hfirst
  have hfirstCalls := hgate.replays.calls hfirst
  obtain ⟨e, rfl, hfailed⟩ | ⟨_, seen, last, m₂, hseen, hend, rfl⟩ := finished_bind hrest
  · exact ⟨first, rest, [], m₁, m', .error e, by simp, hfirstCalls, by simp, hbefore, hfailed,
      rfl, rfl⟩
  · exact ⟨first, seen, last, m₁, m₂, _, rfl, hfirstCalls, hend.replays.calls hlast, hbefore, hseen,
      told_unobserving hend hlast⟩

theorem calls_observe_enters (d : Daemon) {seen : Replies Op Reply} {x : Except Error Unit}
    (h : Replays (observe d).run seen x) :
    ∃ tail, seen = ⟨.enter .observe, ()⟩ :: tail ∧ ∀ e ∈ tail, e.1 ≠ .enter .observe := by
  cases h with
  | @call _ _ reply tail _ hrest =>
      refine ⟨tail, rfl, hrest.calls (S := fun op => op ≠ .enter .observe) ?_⟩
      have hrest : Calls (fun op => op ≠ .enter .observe) (do
          let usb := insertAll UsbDevice.sysName ((← usbDevices d).map Prod.fst)
          let pci := insertAll PciDevice.address ((← pciDevices d).map Prod.fst)
          observeUsb d usb
          observePci pci) := by
        refine calls_bind (calls_usbDevices nofun) fun usb => ?_
        refine calls_bind (calls_pciDevices nofun fun _ => nofun) fun pci => ?_
        refine calls_bind (Program.calls_mono (calls_observeUsb d _) fun op hop => ?_) fun _ => ?_
        · rintro rfl
          exact hop
        refine calls_withLock nofun nofun (calls_bind (calls_request nofun) fun m => ?_)
        refine calls_bind (calls_inOrder _ nofun) fun present => ?_
        refine calls_bind (calls_forM fun x _ => ?_) fun _ => ?_
        · exact calls_ite (calls_request nofun) trivial
        refine calls_bind (calls_inOrder _ nofun) fun seen => ?_
        refine calls_bind (calls_forM fun x _ => ?_) fun _ => calls_request nofun
        exact calls_ite (calls_bind (calls_request nofun) fun _ => calls_request nofun) trivial
      exact hrest

/-- The stretch of a pass in which it observes. -/
def Observation (d : Daemon) (c seen : Replies Op Reply) : Prop :=
  seen <:+: c ∧ ∃ x, Replays (observe d).run seen x

theorem observation_unique {first seen last seen' : Replies Op Reply} {x : Except Error Unit}
    (hfirst : ∀ e ∈ first, e.1.Unobserving) (hlast : ∀ e ∈ last, e.1.Unobserving)
    (hseen : Replays (observe d).run seen x) (h : Observation d (first ++ (seen ++ last)) seen') :
    seen' = seen := by
  obtain ⟨⟨before, after, hsplit⟩, x', hseen'⟩ := h
  obtain ⟨tail, rfl, htail⟩ := calls_observe_enters d hseen
  obtain ⟨tail', rfl, -⟩ := calls_observe_enters d hseen'
  have hfirstNot : (⟨.enter .observe, ()⟩ : (op : Op) × Reply op) ∉ first := fun hmem =>
    (hfirst _ hmem).1 rfl
  have hrestNot : (⟨.enter .observe, ()⟩ : (op : Op) × Reply op) ∉ tail ++ last := by
    intro hmem
    obtain hmem | hmem := List.mem_append.1 hmem
    · exact htail _ hmem rfl
    · exact (hlast _ hmem).1 rfl
  rw [List.append_assoc, List.cons_append, List.cons_append] at hsplit
  obtain ⟨-, -, hrest⟩ := (List.append_cons_inj_of_notMem hfirstNot hrestNot).1 hsplit.symm
  have hwhole : ⟨.enter .observe, ()⟩ :: tail' ++ after =
      ⟨.enter .observe, ()⟩ :: tail ++ last := by
    rw [List.cons_append, List.cons_append, hrest]
  exact (hseen'.unique hseen hwhole).1

end Pass

/-! ## Runs -/

/-- Passes one after the other, with what is plugged and unplugged between their calls and between
them; each with its observation. -/
inductive ObservedRun (d : Daemon) : World → List (Replies Op Reply) → World → Prop
  | start {w : World} (husb : w.memory.observedUsb = ∅) (hpci : w.memory.observedPci = ∅) :
      ObservedRun d w [] w
  | hotplug {w w₁ w₂ : World} {seens : List (Replies Op Reply)} (h : ObservedRun d w seens w₁)
      (hmove : Surroundings w₁ w₂) : ObservedRun d w seens w₂
  | pass {w w₁ w₂ : World} {seens : List (Replies Op Reply)} {c seen : Replies Op Reply}
      {r : Except Error Unit} (h : ObservedRun d w seens w₁)
      (hpass : Finished (Machine.among Surroundings react anyChoice) (reconcile d).run w₁ c w₂ r)
      (hseen : Observation d c seen) : ObservedRun d w (seens ++ [seen]) w₂

theorem orderly_finished {α : Type} {env : World → World → Prop}
    {allowed : World → Op → Choice → Prop} {p : Program Op Reply α} {w w' : World}
    {c : Replies Op Reply} {a : α} (h : Finished (Machine.among env react allowed) p w c w' a) :
    Orderly c := by
  induction h with
  | done a w => exact fun _ _ h => by cases h
  | call henv hstep _ ih =>
      intro keys order hmem
      obtain hhead | htail := List.mem_cons.1 hmem
      · obtain ⟨k, -, hreact⟩ := hstep
        cases hhead
        obtain ⟨rfl, -⟩ := Prod.mk.inj hreact
        split
        case isTrue hperm => exact List.isPerm_iff.1 hperm
        case isFalse => exact List.Perm.refl keys
      · exact ih keys order htail

/-- What was taken down as observed is what was told of. -/
theorem observed_run_toggles {d : Daemon} {w w' : World} {seens : List (Replies Op Reply)}
    (h : ObservedRun d w seens w') (hlast : ∀ seen ∈ seens, TellsLast d seen) :
    Addressed w'.memory ∧
      ∀ port : Port, Toggles false (eventsOf port (seens.flatMap events))
        (port.observed w'.memory) := by
  induction h with
  | start husb hpci =>
      refine ⟨fun key device hlookup => ?_, fun port => ?_⟩
      · rw [hpci] at hlookup
        cases hlookup
      · cases port with
        | usb sysName =>
            rw [Port.observed, husb]
            rfl
        | pci address =>
            rw [Port.observed, hpci]
            rfl
  | hotplug _ hmove ih =>
      rw [hmove.memory]
      exact ih hlast
  | @pass w₁ w₂ seens c seen r _ hpass hseen ih =>
      obtain ⟨haddressed, htoggles⟩ := ih fun seen hmem => hlast seen (by simp [hmem])
      have htold := hpass.remembered (remembers_among anyChoice)
      obtain ⟨first, seen₀, last, m₁, m₂, x, rfl, hfirst, hend, hbefore, hobserve, hafter⟩ :=
        told_reconcile htold
      obtain rfl := observation_unique hfirst hend hobserve.replays hseen
      have horder : Orderly seen := (orderly_finished hpass).mono fun e he => by simp [he]
      obtain ⟨hthen, hchanges⟩ := told_observe horder (hbefore.addressed haddressed)
        (hlast seen (by simp)) hobserve
      refine ⟨hafter.addressed hthen, fun port => ?_⟩
      rw [List.flatMap_append, eventsOf_append, hafter.port]
      refine (htoggles port).append ?_
      rw [List.flatMap_cons, List.flatMap_nil, List.append_nil, ← hbefore.port]
      exact hchanges port

/-- Over passes of which none stops observing USB devices after it told of one, the connection
events of every port alternate. -/
theorem connection_events_alternate {d : Daemon} {w w' : World} {seens : List (Replies Op Reply)}
    (h : ObservedRun d w seens w') (hlast : ∀ seen ∈ seens, TellsLast d seen) (port : Port) :
    Alternates (eventsOf port (seens.flatMap events)) :=
  ((observed_run_toggles h hlast).2 port).alternates

/-! ## A keyboard that goes while no state can be saved -/

section Followed

variable {α : Type} {d : Daemon} {w w₁ : World} {seens : List (Replies Op Reply)}
  {pick : World → Op → Choice}

def World.gated (w : World) (d : Daemon) (pick : World → Op → Choice) : World :=
  ((settleGate d).run.follow react pick w).2.1

/-- What the observation of a pass is answered. -/
def World.seeing (w : World) (d : Daemon) (pick : World → Op → Choice) : Replies Op Reply :=
  (observe d).run.answers react pick (w.gated d pick)

def World.afterPass (w : World) (d : Daemon) (pick : World → Op → Choice) : World :=
  let observed := (observe d).run.follow react pick (w.gated d pick)
  match observed.2.2 with
  | .ok _ => ((resumeAndSweep d).run.follow react pick observed.2.1).2.1
  | .error _ => observed.2.1

theorem finished_answers (pick : World → Op → Choice) (p : Act α) (w : World) :
    Finished (Machine.among Surroundings react anyChoice) p.run w (p.run.answers react pick w)
      (p.run.follow react pick w).2.1 (p.run.follow react pick w).2.2 :=
  Program.follow_finished_among p.run w (fun _ => ⟨rfl, rfl, rfl, rfl⟩) fun _ _ => trivial

theorem ObservedRun.followed (h : ObservedRun d w seens w₁) (pick : World → Op → Choice)
    (hgate : ((settleGate d).run.follow react pick w₁).2.2 = .ok ()) :
    ObservedRun d w (seens ++ [w₁.seeing d pick]) (w₁.afterPass d pick) := by
  have hgated := finished_answers pick (settleGate d) w₁
  rw [hgate] at hgated
  have hobserved := finished_answers pick (observe d) (w₁.gated d pick)
  have hseen : ∃ x, Replays (observe d).run (w₁.seeing d pick) x := ⟨_, hobserved.replays⟩
  cases hend : ((observe d).run.follow react pick (w₁.gated d pick)).2.2 with
  | ok _ =>
      rw [hend] at hobserved
      have hrest := finished_answers pick (resumeAndSweep d)
        ((observe d).run.follow react pick (w₁.gated d pick)).2.1
      have hpass := finished_bind_ok (f := fun _ => observeAndResume d) hgated
        (finished_bind_ok (f := fun _ => resumeAndSweep d) hobserved hrest)
      have hwhole : w₁.afterPass d pick = ((resumeAndSweep d).run.follow react pick
          ((observe d).run.follow react pick (w₁.gated d pick)).2.1).2.1 := by
        rw [World.afterPass]
        simp only [hend]
      rw [hwhole]
      rw [← reconcile_eq] at hpass
      exact .pass h hpass ⟨⟨_, _, List.append_assoc _ _ _⟩, hseen⟩
  | error e =>
      rw [hend] at hobserved
      have hpass := finished_bind_ok (f := fun _ => observeAndResume d) hgated
        (finished_bind_error (f := fun _ => resumeAndSweep d) hobserved)
      have hwhole : w₁.afterPass d pick =
          ((observe d).run.follow react pick (w₁.gated d pick)).2.1 := by
        rw [World.afterPass]
        simp only [hend]
      rw [hwhole]
      rw [← reconcile_eq] at hpass
      exact .pass h hpass ⟨⟨_, [], List.append_nil _⟩, hseen⟩

end Followed

/-- State saves succeed, and no binding of a port is read. -/
def Unhindered : (op : Op) → Reply op → Prop
  | .save, r => r.toBool = true
  | .read .state, m => m.persistent.crosvmUsbPorts.keys = []
  | _, _ => True

instance (op : Op) (r : Reply op) : Decidable (Unhindered op r) := by
  delta Unhindered
  induction op using Op.casesOn with
  | read lock => induction lock using Lock.casesOn <;> infer_instance
  | _ => infer_instance

section Unhindered

variable {d : Daemon} {c : Replies Op Reply}

theorem sure_saveState_unhindered : Sure Unhindered (saveState d) := by
  unfold saveState
  split
  case isTrue =>
    refine sure_request fun r hr => ?_
    cases r with
    | ok _ => exact ⟨(), rfl⟩
    | error e => cases hr
  case isFalse => exact succeeds_pure _

theorem sure_dropVanished_unhindered (key : String) (device : UsbDevice) :
    Sure Unhindered (dropVanished d key device) := by
  unfold dropVanished dropRecords
  have hrest : Sure Unhindered (do
      update (.crosvmUsbPortsRemove key)
      saveState d : Act Unit) :=
    succeeds_bind sure_ask fun _ => sure_saveState_unhindered
  refine succeeds_bind sure_ask fun _ => succeeds_bind (sure_withLock ?_) fun _ => sure_ask
  cases device.deviceNode with
  | none => exact hrest
  | some node => exact succeeds_bind sure_ask fun _ => hrest

theorem sure_forgetVanished_unhindered (key : String) (device : UsbDevice) :
    Sure Unhindered (forgetVanished d key device) := by
  intro _ _
  rw [forgetVanished, wp_bind, readMemory, wp_request_ofReplies]
  refine ⟨trivial, fun m hm => ?_⟩
  have hnone : m.persistent.crosvmUsbPorts.lookup key = none := by
    have hkeys : m.persistent.crosvmUsbPorts.keys = [] := hm
    rw [AList.lookup_eq_none, AList.mem_keys, hkeys]
    simp
  rw [andThen_ok, hnone]
  exact sure_dropVanished_unhindered key device () trivial

theorem sure_observeUsb_unhindered (usb : Map UsbDevice) :
    Sure Unhindered (observeUsb d usb) := by
  refine sure_withLock (succeeds_bind sure_ask fun m => ?_)
  refine succeeds_bind (sure_inOrder usb) fun present => ?_
  refine succeeds_bind (succeeds_forM fun x _ => ?_) fun _ => ?_
  · dsimp only
    split
    case isTrue => exact sure_ask
    case isFalse => exact succeeds_pure _
  refine succeeds_bind (sure_inOrder _) fun seen => ?_
  refine succeeds_bind (succeeds_forM fun x _ => ?_) fun _ => sure_ask
  dsimp only
  split
  case isTrue => exact sure_forgetVanished_unhindered x.1 x.2
  case isFalse => exact succeeds_pure _

/-- Then no observation stops. -/
theorem tellsLast_of_unhindered (hc : ∀ e ∈ c, Unhindered e.1 e.2) : TellsLast d c := by
  intro scanned mid e _ hwithin hreplays
  obtain ⟨a, ha⟩ := (sure_observeUsb_unhindered _).returns hreplays fun e he =>
    hc e (hwithin.mem he)
  cases ha

end Unhindered

def savesFail (_ : World) : Op → Choice
  | .save => { fail := true }
  | _ => {}

def keyboardGone : World :=
  { sharedKeyboard.afterPass sharedKeyboard.daemon onPortOne with bus := {} }

theorem observedRun_keyboardGone : ObservedRun sharedKeyboard.daemon sharedKeyboard
    [sharedKeyboard.seeing sharedKeyboard.daemon onPortOne] keyboardGone :=
  .hotplug (ObservedRun.followed (.start rfl rfl) onPortOne (by decide +kernel))
    ⟨rfl, rfl, rfl, rfl⟩

/-- The keyboard comes with the first pass and goes with the second. -/
theorem connection_events_alternate_keyboardGone :
    let gone := keyboardGone.seeing sharedKeyboard.daemon onPortOne
    let seens := [sharedKeyboard.seeing sharedKeyboard.daemon onPortOne, gone]
    eventsOf (.usb "1-1") (seens.flatMap events) = [true, false] ∧
      Alternates (eventsOf (.usb "1-1") (seens.flatMap events)) := by
  intro gone seens
  have hrun : ObservedRun sharedKeyboard.daemon sharedKeyboard seens _ :=
    observedRun_keyboardGone.followed onPortOne (by decide +kernel)
  have hunhindered : ∀ seen ∈ seens, ∀ e ∈ seen, Unhindered e.1 e.2 := by decide +kernel
  refine ⟨by decide +kernel, ?_⟩
  exact connection_events_alternate hrun
    (fun seen hseen => tellsLast_of_unhindered (hunhindered seen hseen)) (.usb "1-1")

/-- Twice a pass fails to save the state after it told that the keyboard is gone. -/
theorem connection_events_repeat : ¬∀ (d : Daemon) (w w' : World) (seens : List (Replies Op Reply)),
    ObservedRun d w seens w' → ∀ port, Alternates (eventsOf port (seens.flatMap events)) := by
  intro hclaim
  have hfirst := observedRun_keyboardGone.followed savesFail (by decide +kernel)
  have hsecond := hfirst.followed savesFail (by decide +kernel)
  have halternates := hclaim _ _ _ _ hsecond (.usb "1-1") 2 false (by decide +kernel)
  exact nomatch halternates.2 rfl

end GhafDeviceManager
