import GhafDeviceManager.Effects

/-!
# The port of an attached device

`usb_attach` lists the ports once and then asks until one is free. An answer without the number of
the port is completed from a second list: the port is the one the first list does not show.
-/

namespace GhafDeviceManager

namespace Text

/-- Unicode white space. -/
def isWhitespace (c : Char) : Bool :=
  let n := c.toNat
  (9 ≤ n && n ≤ 13) || n == 0x20 || n == 0x85 || n == 0xA0 || n == 0x1680 ||
    (0x2000 ≤ n && n ≤ 0x200A) || n == 0x2028 || n == 0x2029 || n == 0x202F || n == 0x205F ||
    n == 0x3000

def splitWhitespace (text : String) : List String :=
  ((text.toList.splitOnP isWhitespace).filter (!·.isEmpty)).map String.ofList

def trim (text : String) : String :=
  String.ofList ((text.toList.dropWhile isWhitespace).reverse.dropWhile isWhitespace).reverse

/-- `parse::<u8>` -/
def parseU8 (text : String) : Option UInt8 := (fromStrRadix 10 maxU8 text).map UInt8.ofNat

end Text

namespace Crosvm

open Fallible

/-! ## The client -/

structure Output where
  status : ℤ
  stdout : String
  stderr : String

inductive Call
  | run (args : List String)
  | sleep (millis : ℕ)

@[reducible] def Answer : Call → Type
  | .run _ => Except Error Output
  | .sleep _ => Unit

/-- `Crosvm::command` -/
def command (args : List String) : Fallible Call Answer Error String := do
  let output ← request (.run ("--no-syslog" :: args)) id
  if output.status ≠ 0 then
    let text := if (Text.trim output.stderr).isEmpty then output.stdout else output.stderr
    throw ["Crosvm command " ++ toString (args.map String.quote) ++ " failed with code " ++
      toString output.status ++ ": " ++ Text.trim text]
  else pure output.stdout

def usbEntries : List String → Except Error (List LivePort)
  | port :: vid :: pid :: rest =>
    match Text.parseU8 port with
    | none => .error ["invalid Crosvm USB port"]
    | some port => (usbEntries rest).map ((port, vid, pid) :: ·)
  | _ => .ok []

def readUsbList (output : String) : Except Error (List LivePort) :=
  let fields := Text.splitWhitespace output
  if fields.head? ≠ some "devices" ∨ (fields.length - 1) % 3 ≠ 0 then
    .error ["malformed Crosvm USB list response: " ++ Text.trim output]
  else usbEntries fields.tail

/-- `Crosvm::usb_list` -/
def usbList (socket : String) : Fallible Call Answer Error (List LivePort) := do
  let output ← command ["usb", "list", socket]
  ExceptT.mk (pure (readUsbList output))

/-- The port whose number `before` does not have. -/
def onlyAdded (before after : List LivePort) : Except Error UInt8 :=
  let old := before.map (·.1)
  match (after.filter fun item => !old.contains item.1).map (·.1) with
  | [port] => .ok port
  | _ => .error ["Crosvm attached USB but did not identify one new port"]

def portNumber (output : String) : Option UInt8 :=
  (Text.splitWhitespace output)[1]?.bind Text.parseU8

/-- The loop of `usb_attach` with `left` attempts. -/
def attachAttempts (socket deviceNode : String) (before : List LivePort) :
    ℕ → Fallible Call Answer Error UInt8
  | 0 => throw ["Crosvm USB attach timed out waiting for a free port"]
  | left + 1 => do
    let output ← command ["usb", "attach", "00:00:00:00", deviceNode, socket]
    let answer := (Text.splitWhitespace output).head?
    if answer = some "ok" then
      match portNumber output with
      | some port => pure port
      | none => do
        let after ← usbList socket
        ExceptT.mk (pure (onlyAdded before after))
    else if answer ≠ some "no_available_port" then
      throw ["unexpected Crosvm USB attach response: " ++ Text.trim output]
    else do
      if 0 < left then request (.sleep 250) .ok
      attachAttempts socket deviceNode before left

/-- `Crosvm::usb_attach` -/
def usbAttach (socket deviceNode : String) : Fallible Call Answer Error UInt8 := do
  let before ← usbList socket
  attachAttempts socket deviceNode before 6

/-! ## The other side -/

/-- A Crosvm, with what it has told its client. -/
structure Guest where
  ports : List LivePort
  /-- What the first list showed. -/
  snapshot : Option (List LivePort) := none
  /-- The entry of the attach command that was answered `ok`. -/
  attached : Option LivePort := none
  /-- That answer had its number. -/
  numbered : Bool := false
  /-- A list was shown since. -/
  relisted : Bool := false
  /-- Attach commands since. -/
  further : ℕ := 0

def Guest.asked (g : Guest) : Guest :=
  { g with further := if g.attached.isSome then g.further + 1 else g.further }

def Guest.listed (g : Guest) : Guest :=
  { g with snapshot := g.snapshot.or (some g.ports), relisted := g.attached.isSome }

def Guest.granted (g : Guest) (front back : List LivePort) (entry : LivePort) (numbered : Bool) :
    Guest :=
  { g.asked with ports := front ++ entry :: back, attached := some entry, numbered := numbered }

/-- Ports may be given up at any time, except the one just attached. -/
def Shrinks (g g' : Guest) : Prop :=
  ∃ ports, ports.Sublist g.ports ∧ (∀ entry, g.attached = some entry → entry ∈ ports) ∧
    g' = { g with ports := ports }

def listCommand (socket : String) : List String := ["--no-syslog", "usb", "list", socket]

def attachCommand (socket deviceNode : String) : List String :=
  ["--no-syslog", "usb", "attach", "00:00:00:00", deviceNode, socket]

/-- How commands are answered. An `ok` adds one entry, and its number is right if it has one. -/
inductive Serves (socket deviceNode : String) : Guest → (call : Call) → Answer call → Guest → Prop
  | slept (g : Guest) (millis : ℕ) : Serves socket deviceNode g (.sleep millis) () g
  | listed {g : Guest} {args : List String} {output : Output} (hargs : args = listCommand socket)
      (hstatus : output.status = 0) (hread : readUsbList output.stdout = .ok g.ports) :
      Serves socket deviceNode g (.run args) (.ok output) g.listed
  | unlisted {g : Guest} {args : List String} {answer : Except Error Output}
      (hargs : args = listCommand socket)
      (h : ∀ output, answer = .ok output → output.status = 0 →
        ∃ e, readUsbList output.stdout = .error e) :
      Serves socket deviceNode g (.run args) answer g
  | attached {g : Guest} {args : List String} {output : Output} {front back : List LivePort}
      {entry : LivePort} (hargs : args = attachCommand socket deviceNode)
      (hstatus : output.status = 0)
      (hok : (Text.splitWhitespace output.stdout).head? = some "ok")
      (hnumber : ∀ port, portNumber output.stdout = some port → port = entry.1)
      (hports : g.ports = front ++ back) :
      Serves socket deviceNode g (.run args) (.ok output)
        (g.granted front back entry (portNumber output.stdout).isSome)
  | refused {g : Guest} {args : List String} {answer : Except Error Output}
      (hargs : args = attachCommand socket deviceNode)
      (h : ∀ output, answer = .ok output → output.status = 0 →
        (Text.splitWhitespace output.stdout).head? ≠ some "ok") :
      Serves socket deviceNode g (.run args) answer g.asked

def guests (socket deviceNode : String) : Machine Call Answer Guest where
  env := Shrinks
  step := Serves socket deviceNode

/-! ## What the client learns -/

section Client

variable {socket deviceNode : String} {g : Guest}

theorem wp_command {args : List String} {post : Except Error String → Guest → Prop}
    (hfail : ∀ g₁ answer g₂, Shrinks g g₁ →
      Serves socket deviceNode g₁ (.run ("--no-syslog" :: args)) answer g₂ →
      (∀ output, answer = .ok output → output.status ≠ 0) → ∀ e, post (.error e) g₂)
    (hdone : ∀ g₁ output g₂, Shrinks g g₁ →
      Serves socket deviceNode g₁ (.run ("--no-syslog" :: args)) (.ok output) g₂ →
      output.status = 0 → post (.ok output.stdout) g₂) :
    (command args).wp (guests socket deviceNode) (fun _ _ => True) post g := by
  unfold command
  rw [wp_bind, wp_request]
  intro g₁ hshrinks
  refine ⟨trivial, fun answer g₂ hserves => ?_⟩
  cases answer with
  | error e => exact hfail g₁ _ g₂ hshrinks hserves (by simp) e
  | ok output =>
      by_cases hstatus : output.status = 0
      · change Fallible.wp _ _ (if output.status ≠ 0 then _ else _) post g₂
        rw [if_neg (not_not.2 hstatus)]
        exact hdone g₁ output g₂ hshrinks hserves hstatus
      · change Fallible.wp _ _ (if output.status ≠ 0 then _ else _) post g₂
        rw [if_pos hstatus]
        refine hfail g₁ _ g₂ hshrinks hserves (fun other hother => ?_) _
        obtain rfl := Except.ok.inj hother
        exact hstatus

theorem wp_usbList {post : Except Error (List LivePort) → Guest → Prop}
    (hfail : ∀ g₁, Shrinks g g₁ → ∀ e, post (.error e) g₁)
    (hlisted : ∀ g₁, Shrinks g g₁ → post (.ok g₁.ports) g₁.listed) :
    (usbList socket).wp (guests socket deviceNode) (fun _ _ => True) post g := by
  unfold usbList
  rw [wp_bind]
  refine wp_command (fun g₁ answer g₂ hshrinks hserves hstatus e => ?_)
    fun g₁ output g₂ hshrinks hserves hstatus => ?_
  · cases hserves with
    | listed _ hzero => exact absurd hzero (hstatus _ rfl)
    | unlisted => exact hfail g₁ hshrinks e
    | attached hargs => simp [attachCommand] at hargs
    | refused hargs => simp [attachCommand] at hargs
  · cases hserves with
    | listed _ _ hread =>
        change post (readUsbList output.stdout) g₁.listed
        rw [hread]
        exact hlisted g₁ hshrinks
    | unlisted _ h =>
        obtain ⟨e, hread⟩ := h output rfl hstatus
        change post (readUsbList output.stdout) g₁
        rw [hread]
        exact hfail g₁ hshrinks e
    | attached hargs => simp [attachCommand] at hargs
    | refused hargs => simp [attachCommand] at hargs

/-- The client knows the port of the entry: by its number, or because the first list, to which it
compares a second one, does not show that port. -/
def Guest.Identified (g : Guest) (entry : LivePort) : Prop :=
  g.numbered = true ∨
    g.relisted = true ∧ ∀ before, g.snapshot = some before → entry.1 ∉ before.map (·.1)

def Reported (r : Except Error UInt8) (g : Guest) : Prop :=
  g.further = 0 ∧ match r with
    | .ok port => ∃ entry, g.attached = some entry ∧ entry.1 = port ∧ g.Identified entry
    | .error _ => ∀ entry, g.attached = some entry → ¬g.Identified entry

/-- Before an attach command is answered `ok`: all ports are in the first list. -/
structure Waiting (before : List LivePort) (g : Guest) : Prop where
  snapshot : g.snapshot = some before
  unattached : g.attached = none
  further : g.further = 0
  relisted : g.relisted = false
  known : g.ports ⊆ before

variable {before : List LivePort}

theorem Waiting.shrinks {g' : Guest} (h : Waiting before g) (hshrinks : Shrinks g g') :
    Waiting before g' := by
  obtain ⟨ports, hsub, -, rfl⟩ := hshrinks
  exact ⟨h.snapshot, h.unattached, h.further, h.relisted, fun _ hport => h.known (hsub.subset hport)⟩

theorem Waiting.asked (h : Waiting before g) : g.asked = g := by
  unfold Guest.asked
  rw [if_neg (by simp [h.unattached])]

theorem Waiting.reported (h : Waiting before g) (e : Error) : Reported (.error e) g :=
  ⟨h.further, fun entry hentry => by rw [h.unattached] at hentry; cases hentry⟩

/-- Of a list with one more entry, ports given up since, the comparison finds this entry unless
its port was in the first list. -/
theorem onlyAdded_eq {ports front back : List LivePort} {entry : LivePort}
    (hsub : ports.Sublist (front ++ entry :: back)) (hmem : entry ∈ ports)
    (hknown : front ++ back ⊆ before) :
    (entry.1 ∉ before.map (·.1) → onlyAdded before ports = .ok entry.1) ∧
      (entry.1 ∈ before.map (·.1) → ∃ e, onlyAdded before ports = .error e) := by
  let added (item : LivePort) : Bool := !(before.map (·.1)).contains item.1
  have hadded (item : LivePort) : added item = true ↔ item.1 ∉ before.map (·.1) := by
    simp [added]
  have hothers : (front ++ back).filter added = [] := by
    rw [List.filter_eq_nil_iff]
    intro item hitem
    rw [hadded, not_not]
    exact List.mem_map_of_mem (hknown hitem)
  obtain ⟨hfront, hback⟩ := List.append_eq_nil_iff.1 ((List.filter_append ..).symm.trans hothers)
  have hall : (front ++ entry :: back).filter added = [entry].filter added := by
    rw [List.filter_append, List.filter_cons, hfront, hback]
    simp [List.filter_cons]
  have hfound : (ports.filter added).Sublist ([entry].filter added) := hall ▸ hsub.filter added
  have heq : onlyAdded before ports = match (ports.filter added).map (·.1) with
      | [port] => .ok port
      | _ => .error ["Crosvm attached USB but did not identify one new port"] := rfl
  constructor
  · intro hnew
    have hone : [entry].filter added = [entry] := by simp [(hadded entry).2 hnew]
    have hmember : entry ∈ ports.filter added := List.mem_filter.2 ⟨hmem, (hadded entry).2 hnew⟩
    rw [hone] at hfound
    have hfilter : ports.filter added = [entry] :=
      hfound.eq_of_length_le (List.length_pos_of_mem hmember)
    rw [heq, hfilter]
    rfl
  · intro hold
    have hnone : [entry].filter added = [] := by
      rw [List.filter_eq_nil_iff]
      intro item hitem
      obtain rfl := List.mem_singleton.1 hitem
      rw [hadded, not_not]
      exact hold
    rw [hnone] at hfound
    rw [heq, List.sublist_nil.1 hfound]
    exact ⟨_, rfl⟩

/-- After the `ok`: what the client compares with is known, and the entry is there. -/
structure Granted (before : List LivePort) (entry : LivePort) (g : Guest) : Prop where
  snapshot : g.snapshot = some before
  attached : g.attached = some entry
  further : g.further = 0
  relisted : g.relisted = false

theorem Granted.identified {entry : LivePort} (h : Granted before entry g) :
    g.Identified entry ↔ g.numbered = true := by
  unfold Guest.Identified
  rw [h.relisted]
  simp

theorem Waiting.granted {front back : List LivePort} {entry : LivePort} {numbered : Bool}
    (h : Waiting before g) : Granted before entry (g.granted front back entry numbered) := by
  unfold Guest.granted
  rw [h.asked]
  exact ⟨h.snapshot, rfl, h.further, h.relisted⟩

theorem wp_compared {front back : List LivePort} {entry : LivePort}
    (h : Granted before entry g) (hnumbered : g.numbered = false)
    (hports : g.ports = front ++ entry :: back) (hknown : front ++ back ⊆ before) :
    (do
      let after ← usbList socket
      ExceptT.mk (pure (onlyAdded before after)) : Fallible Call Answer Error UInt8).wp
      (guests socket deviceNode) (fun _ _ => True) Reported g := by
  rw [wp_bind]
  refine wp_usbList ?_ ?_
  · rintro g₁ ⟨ports, -, -, rfl⟩ e
    refine ⟨h.further, fun other hother => ?_⟩
    obtain rfl := Option.some.inj (h.attached.symm.trans hother)
    change ¬g.Identified entry
    rw [h.identified, hnumbered]
    simp
  · rintro g₁ ⟨ports, hsub, hkept, rfl⟩
    have hidentified : ({ g with ports := ports } : Guest).listed.Identified entry ↔
        entry.1 ∉ before.map (·.1) := by
      simp [Guest.Identified, Guest.listed, hnumbered, h.attached, h.snapshot]
    rw [hports] at hsub
    obtain ⟨hnew, hold⟩ := onlyAdded_eq hsub (hkept entry h.attached) hknown
    change Reported (onlyAdded before ports) _
    by_cases hmem : entry.1 ∈ before.map (·.1)
    · obtain ⟨e, herror⟩ := hold hmem
      rw [herror]
      refine ⟨h.further, fun other hother => ?_⟩
      obtain rfl := Option.some.inj (h.attached.symm.trans hother)
      exact fun hid => hidentified.1 hid hmem
    · rw [hnew hmem]
      exact ⟨h.further, entry, h.attached, rfl, hidentified.2 hmem⟩

theorem wp_attachAttempts (left : ℕ) (h : Waiting before g) :
    (attachAttempts socket deviceNode before left).wp (guests socket deviceNode)
      (fun _ _ => True) Reported g := by
  induction left generalizing g with
  | zero => exact h.reported ["Crosvm USB attach timed out waiting for a free port"]
  | succ left ih =>
      unfold attachAttempts
      rw [wp_bind]
      refine wp_command (fun g₁ answer g₂ hshrinks hserves hstatus e => ?_)
        fun g₁ output g₂ hshrinks hserves hstatus => ?_
      · have hwaiting := h.shrinks hshrinks
        cases hserves with
        | listed hargs => simp [listCommand] at hargs
        | unlisted hargs => simp [listCommand] at hargs
        | attached _ hzero => exact absurd hzero (hstatus _ rfl)
        | refused =>
            rw [hwaiting.asked]
            exact hwaiting.reported e
      · have hwaiting := h.shrinks hshrinks
        cases hserves with
        | listed hargs => simp [listCommand] at hargs
        | unlisted hargs => simp [listCommand] at hargs
        | @attached _ _ front back entry _ _ hok hnumber hports =>
            have hgranted : Granted before entry
                (g₁.granted front back entry (portNumber output.stdout).isSome) := hwaiting.granted
            change Fallible.wp _ _ (if _ = some "ok" then _ else _) _ _
            rw [if_pos hok]
            cases hport : portNumber output.stdout with
            | some port =>
                obtain rfl := hnumber port hport
                exact ⟨hgranted.further, entry, rfl, rfl, .inl rfl⟩
            | none =>
                rw [hport] at hgranted
                exact wp_compared hgranted rfl rfl (hports ▸ hwaiting.known)
        | refused _ hno =>
            have hanswer := hno output rfl hstatus
            rw [hwaiting.asked]
            change Fallible.wp _ _ (if _ = some "ok" then _ else _) _ _
            rw [if_neg hanswer]
            split
            · exact hwaiting.reported
                ["unexpected Crosvm USB attach response: " ++ Text.trim output.stdout]
            · dsimp only
              split
              · rw [wp_bind, wp_request]
                intro g₃ hshrinks₃
                refine ⟨trivial, fun _ g₄ hslept => ?_⟩
                cases hslept with
                | slept => exact ih (hwaiting.shrinks hshrinks₃)
              · exact ih hwaiting
/-- What `usb_attach` returns is right, and it gives up only what it cannot know. -/
theorem wp_usbAttach (ports : List LivePort) :
    (usbAttach socket deviceNode).wp (guests socket deviceNode) (fun _ _ => True) Reported
      { ports } := by
  unfold usbAttach
  rw [wp_bind]
  refine wp_usbList ?_ ?_
  · rintro g₁ ⟨ports, -, -, rfl⟩ e
    exact ⟨rfl, nofun⟩
  · rintro g₁ ⟨ports, -, -, rfl⟩
    exact wp_attachAttempts 6 ⟨rfl, rfl, rfl, rfl, fun _ h => h⟩

end Client

/-- Whenever an attach command is answered `ok`, `usb_attach` returns the port of the entry it
added, and asks no further, exactly if the answer has the number, or the list is shown once more
and the port is not in the first list. -/
theorem usb_attach_identifies_iff {socket deviceNode : String} {ports : List LivePort}
    {tr : List (Guest × Call)} {g : Guest} {r : Except Error UInt8} {entry : LivePort}
    (h : Exec (guests socket deviceNode) (usbAttach socket deviceNode).run { ports } tr g (some r))
    (hattached : g.attached = some entry) :
    r = .ok entry.1 ∧ g.further = 0 ↔ g.Identified entry := by
  obtain ⟨hfurther, hreported⟩ := (Program.wp_sound (wp_usbAttach ports) h).2 r rfl
  cases r with
  | error e => simp [hreported entry hattached]
  | ok port =>
      obtain ⟨other, hother, rfl, hidentified⟩ := hreported
      obtain rfl := Option.some.inj (hattached.symm.trans hother)
      simp [hfurther, hidentified]

/-! ## Two runs -/

/-- The program can return `r` and leave the guest so. -/
def Ends {α : Type} (socket deviceNode : String) (p : Fallible Call Answer Error α) (g g' : Guest)
    (r : Except Error α) : Prop :=
  ∃ tr, Exec (guests socket deviceNode) p.run g tr g' (some r)

section Runs

variable {α : Type} {socket deviceNode : String} {before : List LivePort} {g g₁ g₂ g' : Guest}

theorem Shrinks.refl (h : ∀ entry, g.attached = some entry → entry ∈ g.ports) : Shrinks g g :=
  ⟨g.ports, .refl _, h, rfl⟩

theorem ends_command {args : List String} {output : Output}
    {f : String → Fallible Call Answer Error α}
    {r : Except Error α} (hshrinks : Shrinks g g₁)
    (hserves : Serves socket deviceNode g₁ (.run ("--no-syslog" :: args)) (.ok output) g₂)
    (hstatus : output.status = 0) (hrest : Ends socket deviceNode (f output.stdout) g₂ g' r) :
    Ends socket deviceNode (command args >>= f) g g' r := by
  obtain ⟨tr, hrest⟩ := hrest
  refine ⟨(g₁, .run ("--no-syslog" :: args)) :: tr, .call hshrinks hserves ?_⟩
  have hgoes (e : Error) : (if output.status ≠ 0 then throw e else pure output.stdout :
      Fallible Call Answer Error String) = pure output.stdout := if_neg (not_not.2 hstatus)
  change Exec _ ((if output.status ≠ 0 then _ else _ : Fallible _ _ _ _) >>= f).run g₂ tr g' _
  rw [hgoes]
  exact hrest

theorem ends_usbList {f : List LivePort → Fallible Call Answer Error α} {r : Except Error α}
    (output : Output) (hshrinks : Shrinks g g₁) (hstatus : output.status = 0)
    (hread : readUsbList output.stdout = .ok g₁.ports)
    (hrest : Ends socket deviceNode (f g₁.ports) g₁.listed g' r) :
    Ends socket deviceNode (usbList socket >>= f) g g' r := by
  unfold usbList
  rw [bind_assoc]
  refine ends_command hshrinks (.listed rfl hstatus hread) hstatus ?_
  rw [hread]
  exact hrest

theorem ends_retry {left : ℕ} {r : Except Error UInt8} (output : Output) (hshrinks : Shrinks g g₁)
    (hunattached : g₁.attached = none) (hstatus : output.status = 0)
    (hanswer : (Text.splitWhitespace output.stdout).head? = some "no_available_port")
    (hrest : Ends socket deviceNode (attachAttempts socket deviceNode before (left + 1)) g₁.asked
      g' r) :
    Ends socket deviceNode (attachAttempts socket deviceNode before (left + 2)) g g' r := by
  have hno : (Text.splitWhitespace output.stdout).head? ≠ some "ok" := by simp [hanswer]
  have hsame : Shrinks g₁.asked g₁.asked := .refl fun entry hentry =>
    absurd (hunattached.symm.trans hentry) (by simp)
  unfold attachAttempts
  refine ends_command hshrinks (.refused rfl fun other hother _ => ?_) hstatus ?_
  · obtain rfl := Except.ok.inj hother
    exact hno
  · obtain ⟨tr, hrest⟩ := hrest
    dsimp only
    rw [if_neg hno, if_neg (not_not.2 hanswer), if_pos (Nat.succ_pos left)]
    exact ⟨_, .call hsame (.slept _ _) hrest⟩

theorem ends_compared {left : ℕ} (output listing : Output) (front back : List LivePort)
    (entry : LivePort) (hshrinks : Shrinks g g₁) (hports : g₁.ports = front ++ back)
    (hstatus : output.status = 0)
    (hok : (Text.splitWhitespace output.stdout).head? = some "ok")
    (hnumber : portNumber output.stdout = none) (hlisting : listing.status = 0)
    (hread : readUsbList listing.stdout = .ok (front ++ entry :: back)) :
    Ends socket deviceNode (attachAttempts socket deviceNode before (left + 1)) g
      (g₁.granted front back entry false).listed (onlyAdded before (front ++ entry :: back)) := by
  have hsame : Shrinks (g₁.granted front back entry false) (g₁.granted front back entry false) := by
    refine .refl fun other hother => ?_
    obtain rfl := Option.some.inj hother
    exact List.mem_append_right _ List.mem_cons_self
  have hattached : Serves socket deviceNode g₁
      (.run (attachCommand socket deviceNode)) (.ok output)
      (g₁.granted front back entry (portNumber output.stdout).isSome) :=
    .attached rfl hstatus hok (by simp [hnumber]) hports
  rw [hnumber] at hattached
  unfold attachAttempts
  refine ends_command hshrinks hattached hstatus ?_
  dsimp only
  rw [if_pos hok, hnumber]
  exact ends_usbList listing hsame hlisting hread ⟨[], .done _ _⟩

end Runs

def printed (text : String) : Output := { status := 0, stdout := text, stderr := "" }

/-- The receiver in port 3 goes while the attach command waits for a port, the new device gets its
port, and the answer does not say so. -/
theorem usb_attach_misses_reused_port :
    ¬∀ (socket deviceNode : String) (ports : List LivePort) (tr : List (Guest × Call)) (g : Guest)
      (r : Except Error UInt8) (entry : LivePort),
      Exec (guests socket deviceNode) (usbAttach socket deviceNode).run { ports } tr g (some r) →
      g.attached = some entry → r = .ok entry.1 ∧ g.further = 0 := by
  intro hclaim
  have hcompared : Ends "/run/vm.sock" "/dev/bus/usb/001/004"
      (attachAttempts "/run/vm.sock" "/dev/bus/usb/001/004" [(3, "046d", "c52b")] 5)
      ⟨[], some [(3, "046d", "c52b")], none, false, false, 0⟩ _ _ :=
    ends_compared (printed "ok") (printed "devices 3 046d c534") [] [] (3, "046d", "c534")
      (.refl nofun) rfl rfl (by decide +kernel) (by decide +kernel) rfl (by decide +kernel)
  have hretried := ends_retry (g := ⟨[(3, "046d", "c52b")], some [(3, "046d", "c52b")], none, false,
    false, 0⟩) (printed "no_available_port") ⟨[], by simp, nofun, rfl⟩ rfl rfl (by decide +kernel)
    hcompared
  obtain ⟨tr, hrun⟩ := ends_usbList (g := { ports := [(3, "046d", "c52b")] })
    (f := fun before => attachAttempts "/run/vm.sock" "/dev/bus/usb/001/004" before 6)
    (printed "devices 3 046d c52b") (.refl nofun) rfl (by decide +kernel) hretried
  obtain ⟨hport, -⟩ := hclaim _ _ _ tr _ _ _ hrun rfl
  cases hport

/-- The same attach with the receiver still there: the new device gets port 4. -/
theorem usb_attach_identifies_iff_added : ∃ (tr : List (Guest × Call)) (g : Guest)
    (r : Except Error UInt8), Exec (guests "/run/vm.sock" "/dev/bus/usb/001/004")
      (usbAttach "/run/vm.sock" "/dev/bus/usb/001/004").run { ports := [(3, "046d", "c52b")] } tr g
      (some r) ∧ g.attached = some (4, "046d", "c534") ∧ r = .ok 4 ∧
      (r = .ok 4 ∧ g.further = 0 ↔ g.Identified (4, "046d", "c534")) := by
  have hcompared : Ends "/run/vm.sock" "/dev/bus/usb/001/004"
      (attachAttempts "/run/vm.sock" "/dev/bus/usb/001/004" [(3, "046d", "c52b")] 6)
      ⟨[(3, "046d", "c52b")], some [(3, "046d", "c52b")], none, false, false, 0⟩ _ _ :=
    ends_compared (printed "ok") (printed "devices 3 046d c52b 4 046d c534") [(3, "046d", "c52b")]
      [] (4, "046d", "c534") (.refl nofun) rfl rfl (by decide +kernel) (by decide +kernel) rfl
      (by decide +kernel)
  obtain ⟨tr, hrun⟩ := ends_usbList (g := { ports := [(3, "046d", "c52b")] })
    (f := fun before => attachAttempts "/run/vm.sock" "/dev/bus/usb/001/004" before 6)
    (printed "devices 3 046d c52b") (.refl nofun) rfl (by decide +kernel) hcompared
  exact ⟨tr, _, _, hrun, rfl, rfl, usb_attach_identifies_iff hrun rfl⟩

end Crosvm

end GhafDeviceManager
