import GhafDeviceManager.CrosvmPorts
import GhafDeviceManager.PciAttach
import GhafDeviceManager.Replies

/-!
# VFIO hotplug

`vfio_add` and `vfio_remove` read the list of a VM, change it with one command if it does not show
the wanted outcome yet, and read it again until it does.
-/

namespace GhafDeviceManager

namespace Crosvm

open Fallible

/-! ## The client -/

def isHexDigit (c : Char) : Bool := (Text.digit 16 c).isSome

/-- Character classes, one for each character. -/
def matchesClasses : List (Char → Bool) → List Char → Bool
  | [], [] => true
  | cls :: classes, c :: cs => cls c && matchesClasses classes cs
  | _, _ => false

/-- The pattern of `vfio_list`, which is anchored at both ends. -/
def isVfioPath (entry : String) : Bool :=
  let hex := isHexDigit
  let sign (c : Char) := (· == c)
  let address := [hex, hex, hex, hex, sign ':', hex, hex, sign ':', hex, hex, sign '.',
    fun c => '0' ≤ c && c ≤ '7']
  matchesClasses ((pciPath "").toList.map sign ++ address) entry.toList

def readVfioList (output : String) : Except Error (List String) :=
  let fields := Text.splitWhitespace output
  if fields.head? ≠ some "devices" then
    .error ["malformed Crosvm VFIO list response: " ++ Text.trim output]
  else if fields.tail.any (!isVfioPath ·) then
    .error ["unexpected entry in Crosvm VFIO list response"]
  else .ok fields.tail

/-- `Crosvm::vfio_list` -/
def vfioList (socket : String) : Fallible Call Answer Error (List String) := do
  let output ← command ["vfio", "list", socket]
  ExceptT.mk (pure (readVfioList output))

def pause (left : ℕ) : Fallible Call Answer Error Unit :=
  if 0 < left then request (.sleep 250) .ok else pure ()

/-- The loop after the command, with `left` attempts. -/
def vfioAttempts (socket : String) (wanted : List String → Bool) (refusal : String) :
    ℕ → Fallible Call Answer Error Unit
  | 0 => throw [refusal]
  | left + 1 => do
    let live ← vfioList socket
    if wanted live then pure ()
    else do
      pause left
      vfioAttempts socket wanted refusal left

def vfioChange (verb socket path : String) (wanted : List String → Bool) (refusal : String) :
    Fallible Call Answer Error Unit := do
  let live ← vfioList socket
  if wanted live then pure ()
  else do
    let _ ← command ["vfio", verb, path, socket]
    vfioAttempts socket wanted refusal 6

/-- `Crosvm::vfio_add` -/
def vfioAdd (socket address : String) : Fallible Call Answer Error Unit :=
  let path := pciPath address
  vfioChange "add" socket path (·.contains path)
    ("Crosvm accepted VFIO add but " ++ path ++ " did not appear")

/-- `Crosvm::vfio_remove` -/
def vfioRemove (socket address : String) : Fallible Call Answer Error Unit :=
  let path := pciPath address
  vfioChange "remove" socket path (!·.contains path)
    ("Crosvm accepted VFIO remove but " ++ path ++ " is still attached")

/-! ## What was read -/

def shown : Except Error Output → Option (List String)
  | .ok output => if output.status = 0 then (readVfioList output.stdout).toOption else none
  | .error _ => none

def vfioLists (socket : String) (c : Replies Call Answer) : List (Option (List String)) :=
  c.filterMap fun
    | ⟨.run args, answer⟩ =>
      if args = ["--no-syslog", "vfio", "list", socket] then some (shown answer) else none
    | ⟨.sleep _, _⟩ => none

/-- How often the list is changed. -/
def changes (verb socket path : String) (c : Replies Call Answer) : ℕ :=
  c.countP fun
    | ⟨.run args, _⟩ => args = ["--no-syslog", "vfio", verb, path, socket]
    | ⟨.sleep _, _⟩ => false

section Client

variable {socket verb path refusal : String} {wanted : List String → Bool}
  {c c₁ c₂ : Replies Call Answer}

@[simp] theorem vfioLists_append :
    vfioLists socket (c₁ ++ c₂) = vfioLists socket c₁ ++ vfioLists socket c₂ :=
  List.filterMap_append

@[simp] theorem changes_append :
    changes verb socket path (c₁ ++ c₂) =
      changes verb socket path c₁ + changes verb socket path c₂ :=
  List.countP_append

theorem replays_command {args : List String} {r : Except Error String}
    (h : Replays (command args).run c r) : ∃ answer, c = [⟨.run ("--no-syslog" :: args), answer⟩] ∧
      match answer with
      | .ok output => if output.status = 0 then r = .ok output.stdout else ∃ e, r = .error e
      | .error e => r = .error e := by
  unfold command at h
  rcases replays_bind_cases h with ⟨e, rfl, hrun⟩ | ⟨output, c₁, c₂, hrun, hrest, rfl⟩
  · obtain ⟨answer, rfl, hanswer⟩ := replays_request hrun
    exact ⟨answer, rfl, by rw [show answer = .error e from hanswer.symm]⟩
  · obtain ⟨answer, rfl, hanswer⟩ := replays_request hrun
    refine ⟨answer, ?_⟩
    rw [show answer = .ok output from hanswer.symm]
    by_cases hstatus : output.status = 0
    · change Replays
        (if output.status ≠ 0 then _ else _ : Fallible Call Answer Error String).run _ _ at hrest
      rw [if_neg (not_not.2 hstatus)] at hrest
      obtain ⟨rfl, rfl⟩ := replays_pure hrest
      exact ⟨rfl, by simp [hstatus]⟩
    · change Replays
        (if output.status ≠ 0 then _ else _ : Fallible Call Answer Error String).run _ _ at hrest
      rw [if_pos hstatus] at hrest
      cases hrest with
      | done => exact ⟨rfl, by simp [hstatus]⟩

/-- A list is one call, and the client gets what is shown. -/
theorem replays_vfioList {r : Except Error (List String)} (verb path : String)
    (h : Replays (vfioList socket).run c r) :
    vfioLists socket c = [r.toOption] ∧ changes verb socket path c = 0 := by
  have hone (answer : Except Error Output) :
      vfioLists socket [⟨.run ["--no-syslog", "vfio", "list", socket], answer⟩] = [shown answer] ∧
        changes verb socket path [⟨.run ["--no-syslog", "vfio", "list", socket], answer⟩] = 0 := by
    simp [vfioLists, changes]
  unfold vfioList at h
  rcases replays_bind_cases h with ⟨e, rfl, hrun⟩ | ⟨output, c₁, c₂, hrun, hrest, rfl⟩
  · obtain ⟨answer, rfl, hanswer⟩ := replays_command hrun
    obtain ⟨hlists, hchanges⟩ := hone answer
    refine ⟨hlists.trans ?_, hchanges⟩
    cases answer with
    | error => rfl
    | ok output =>
        have hstatus : output.status ≠ 0 := by
          intro hzero
          simp [hzero] at hanswer
        simp [shown, hstatus, Except.toOption]
  · obtain ⟨answer, rfl, hanswer⟩ := replays_command hrun
    obtain ⟨hlists, hchanges⟩ := hone answer
    cases hrest with
    | done =>
        refine ⟨hlists.trans ?_, hchanges⟩
        cases answer with
        | error => cases hanswer
        | ok written =>
            by_cases hstatus : written.status = 0
            · simp only [hstatus, if_true, Except.ok.injEq] at hanswer
              rw [hanswer]
              simp [shown, hstatus]
            · simp [hstatus] at hanswer

/-- Nothing is read or changed in a pause. -/
theorem replays_pause {left : ℕ} {r : Except Error Unit} (socket verb path : String)
    (h : Replays (pause left).run c r) :
    r = .ok () ∧ vfioLists socket c = [] ∧ changes verb socket path c = 0 := by
  unfold pause at h
  by_cases hleft : 0 < left
  · rw [if_pos hleft] at h
    obtain ⟨reply, rfl, rfl⟩ := replays_request h
    exact ⟨rfl, rfl, rfl⟩
  · rw [if_neg hleft] at h
    obtain ⟨rfl, rfl⟩ := replays_pure h
    exact ⟨rfl, rfl, rfl⟩

theorem replays_vfioAttempts {left : ℕ} {r : Except Error Unit} (verb path : String)
    (h : Replays (vfioAttempts socket wanted refusal left).run c r) :
    changes verb socket path c = 0 ∧ (r = .ok () → ∃ lists live,
      vfioLists socket c = lists ++ [some live] ∧ wanted live = true) := by
  induction left generalizing c with
  | zero =>
      cases h with
      | done => exact ⟨rfl, nofun⟩
  | succ left ih =>
      unfold vfioAttempts at h
      rcases replays_bind_cases h with ⟨e, rfl, hlist⟩ | ⟨live, c₁, c₂, hlist, hrest, rfl⟩
      · exact ⟨(replays_vfioList verb path hlist).2, nofun⟩
      · obtain ⟨hlists, hchanges⟩ := replays_vfioList verb path hlist
        by_cases hwanted : wanted live = true
        · rw [if_pos hwanted] at hrest
          obtain ⟨-, rfl⟩ := replays_pure hrest
          rw [List.append_nil]
          exact ⟨hchanges, fun _ => ⟨[], live, hlists, hwanted⟩⟩
        · rw [if_neg hwanted] at hrest
          rcases replays_bind_cases hrest with ⟨e, rfl, hpause⟩ | ⟨_, c₃, c₄, hpause, hloop, rfl⟩
          · exact absurd (replays_pause socket verb path hpause).1 (by simp)
          · obtain ⟨-, hnone, hstill⟩ := replays_pause socket verb path hpause
            obtain ⟨hrestChanges, hok⟩ := ih hloop
            refine ⟨by rw [changes_append, changes_append, hchanges, hstill, hrestChanges], ?_⟩
            intro hr
            obtain ⟨lists, last, hlast, hlastWanted⟩ := hok hr
            refine ⟨some live :: lists, last, ?_, hlastWanted⟩
            rw [vfioLists_append, vfioLists_append, hlists, hnone, hlast]
            rfl

end Client

/-! ## What a change is worth -/

/-- On success the last list read is as wanted, the list is changed once at most, and it is left
alone exactly if the first one is as wanted or none was shown. -/
structure Verified (verb socket path : String) (wanted : List String → Prop)
    (c : Replies Call Answer) (r : Except Error Unit) : Prop where
  verified : r = .ok () → ∃ live, (vfioLists socket c).getLast? = some (some live) ∧ wanted live
  once : changes verb socket path c ≤ 1
  idle : changes verb socket path c = 0 ↔ (vfioLists socket c).head? = some none ∨
    ∃ live, (vfioLists socket c).head? = some (some live) ∧ wanted live

theorem changes_change {socket verb path : String} (answer : Except Error Output) :
    vfioLists socket [⟨.run ["--no-syslog", "vfio", verb, path, socket], answer⟩] = [] ∧
      changes verb socket path
        [⟨.run ["--no-syslog", "vfio", verb, path, socket], answer⟩] = 1 := by
  simp [vfioLists, changes]

/-- Where the first list is not as wanted, a single change is right. -/
theorem Verified.of_unwanted {verb socket path : String} {wanted : List String → Prop}
    {c : Replies Call Answer} {r : Except Error Unit} {live : List String}
    (hfirst : (vfioLists socket c).head? = some (some live)) (hunwanted : ¬wanted live)
    (hchanges : changes verb socket path c = 1)
    (hok : r = .ok () →
      ∃ live, (vfioLists socket c).getLast? = some (some live) ∧ wanted live) :
    Verified verb socket path wanted c r where
  verified := hok
  once := hchanges.le
  idle := by
    rw [hchanges, hfirst]
    constructor
    · intro hzero
      exact absurd hzero one_ne_zero
    · rintro (hnone | ⟨other, hother, hwanted⟩)
      · cases hnone
      · obtain rfl := Option.some.inj (Option.some.inj hother)
        exact absurd hwanted hunwanted

theorem vfioChange_verified {verb socket path refusal : String} {wanted : List String → Bool}
    {c : Replies Call Answer} {r : Except Error Unit}
    (h : Replays (vfioChange verb socket path wanted refusal).run c r) :
    Verified verb socket path (wanted · = true) c r := by
  unfold vfioChange at h
  rcases replays_bind_cases h with ⟨e, rfl, hlist⟩ | ⟨live, c₁, c₂, hlist, hrest, rfl⟩
  · obtain ⟨hlists, hchanges⟩ := replays_vfioList verb path hlist
    refine ⟨nofun, by rw [hchanges]; exact Nat.zero_le 1, fun _ => .inl ?_, fun _ => hchanges⟩
    rw [hlists]
    rfl
  · obtain ⟨hlists, hchanges⟩ := replays_vfioList verb path hlist
    by_cases hwanted : wanted live = true
    · rw [if_pos hwanted] at hrest
      obtain ⟨-, rfl⟩ := replays_pure hrest
      rw [List.append_nil]
      refine ⟨fun _ => ⟨live, ?_, hwanted⟩, by rw [hchanges]; exact Nat.zero_le 1,
        fun _ => .inr ⟨live, ?_, hwanted⟩, fun _ => hchanges⟩
      · rw [hlists]
        rfl
      · rw [hlists]
        rfl
    · rw [if_neg hwanted] at hrest
      have hfirst (c₂ : Replies Call Answer) :
          (vfioLists socket (c₁ ++ c₂)).head? = some (some live) := by
        rw [vfioLists_append, hlists]
        rfl
      rcases replays_bind_cases hrest with ⟨e, rfl, hchange⟩ | ⟨_, c₃, c₄, hchange, hloop, rfl⟩
      · obtain ⟨answer, rfl, -⟩ := replays_command hchange
        refine .of_unwanted (hfirst _) hwanted ?_ nofun
        rw [changes_append, hchanges, (changes_change answer).2]
      · obtain ⟨answer, rfl, -⟩ := replays_command hchange
        obtain ⟨hstill, hok⟩ := replays_vfioAttempts verb path hloop
        refine .of_unwanted (hfirst _) hwanted ?_ fun hr => ?_
        · rw [changes_append, changes_append, hchanges, (changes_change answer).2, hstill]
        · obtain ⟨lists, last, hlast, hlastWanted⟩ := hok hr
          refine ⟨last, ?_, hlastWanted⟩
          rw [vfioLists_append, vfioLists_append, hlast, ← List.append_assoc, ← List.append_assoc,
            List.getLast?_concat]

/-- Whatever Crosvm answers, success means that the address is in the last list, or out of it. -/
theorem vfio_hotplug_verified (socket address : String) (c : Replies Call Answer)
    (r : Except Error Unit) :
    (Replays (vfioAdd socket address).run c r →
      Verified "add" socket (pciPath address) (pciPath address ∈ ·) c r) ∧
    (Replays (vfioRemove socket address).run c r →
      Verified "remove" socket (pciPath address) (pciPath address ∉ ·) c r) := by
  constructor
  · intro h
    have hverified := vfioChange_verified h
    simpa only [List.contains_iff_mem] using hverified
  · intro h
    have hverified := vfioChange_verified h
    simpa only [Bool.not_eq_true', List.contains_eq_mem, decide_eq_false_iff_not] using hverified

def inTurn : List Output → (call : Call) → Unit → Answer call × List Output
  | [], .run _, _ => (.error [], [])
  | output :: rest, .run _, _ => (.ok output, rest)
  | outputs, .sleep _, _ => ((), outputs)

/-- The address shows up in the second list. -/
theorem vfio_add_verifies_live_state : ∃ c,
    Replays (vfioAdd "/run/vm.sock" "0000:00:1f.3").run c (.ok ()) ∧
      changes "add" "/run/vm.sock" (pciPath "0000:00:1f.3") c = 1 ∧
      Verified "add" "/run/vm.sock" (pciPath "0000:00:1f.3") (pciPath "0000:00:1f.3" ∈ ·) c
        (.ok ()) := by
  let outputs := ["devices", "ok", "devices", "devices /sys/bus/pci/devices/0000:00:1f.3"]
  have hreplays := Program.follow_replays inTurn (fun _ _ => ())
    (vfioAdd "/run/vm.sock" "0000:00:1f.3").run (outputs.map printed)
  have hok : ((vfioAdd "/run/vm.sock" "0000:00:1f.3").run.follow inTurn (fun _ _ => ())
      (outputs.map printed)).2.2 = .ok () := by decide +kernel
  rw [hok] at hreplays
  refine ⟨_, hreplays, by decide +kernel, ?_⟩
  exact (vfio_hotplug_verified "/run/vm.sock" "0000:00:1f.3" _ _).1 hreplays

end Crosvm

end GhafDeviceManager
