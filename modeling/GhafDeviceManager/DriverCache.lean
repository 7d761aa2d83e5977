import GhafDeviceManager.Config
import GhafDeviceManager.Lines
import GhafDeviceManager.Memo

/-!
# The cache of module paths

Matching a device asks for the modules behind its modaliases, in the order of the rules and as far
as it has to. What `modprobe` and `modinfo` report is kept for the life of the process. The cache
is locked to look a modalias up and again to put its paths there, so tasks that miss it together
each ask the tools, and the answer of the last one stays. Where no two lookups of a modalias
overlap, rules are matched as if the tools had answered it once.
-/

namespace GhafDeviceManager

/-- The commands behind a modalias. Their reply is what they print, where they succeed. -/
inductive Tool
  /-- `modprobe -R` -/
  | modprobe (modalias : String)
  /-- `modinfo -n` -/
  | modinfo (module : String)

abbrev Asking (α : Type) := Program Tool (fun _ => Option String) α

def modinfoPaths : List String → Asking (List String)
  | [] => pure []
  | module :: rest => do
    let output ← Program.ask (.modinfo module)
    let paths ← modinfoPaths rest
    return (output.map Text.trim).toList ++ paths

/-- The commands of `Config::module_paths`, for a modalias that is not cached. -/
def resolve (modalias : String) : Asking (List String) := do
  let modules ← Program.ask (.modprobe modalias)
  let paths ← modinfoPaths (Text.lines (modules.getD ""))
  return paths.filter fun path => !path.isEmpty

/-- What the tools may report of a modalias at some time. -/
def Resolves (modalias : String) (paths : List String) : Prop :=
  ∃ printed, Replays (resolve modalias) printed paths

/-- `Config::module_paths`. The commands in between touch no cache and count as one operation, which
reports what `Resolves` admits. -/
def modulePaths (modalias : String) : Memo.Task String (List String) (List String) := do
  match ← Program.ask (Memo.Op.lookup modalias) with
  | some cached => return cached
  | none =>
    let paths ← Program.ask (Memo.Op.resolve modalias)
    Program.ask (Memo.Op.insert modalias paths)
    return paths

theorem modulePaths_eq : modulePaths = Memo.get := by
  funext modalias
  refine congrArg (Program.call _) ?_
  funext found
  cases found <;> rfl

/-! ## Matching with lookups -/

/-- Matching that asks for the module paths of modaliases. -/
abbrev Lookup (α : Type) := Program String (fun _ => List String) α

def anyLookup {α : Type} (f : α → Lookup Bool) : List α → Lookup Bool
  | [] => pure false
  | a :: rest => do if ← f a then return true else anyLookup f rest

def findLookup {α β : Type} (f : α → Lookup (Option β)) : List α → Lookup (Option β)
  | [] => pure none
  | a :: rest => do
    match ← f a with
    | some b => return some b
    | none => findLookup f rest

namespace Daemon

def driverPathLookup (d : Daemon) (selector : Value) (device : UsbDevice) : Lookup Bool :=
  if hasValidInterface device then pure false
  else match (selector.getStr "driverPath").bind d.host.anchored with
  | none => pure false
  | some isMatch =>
    if device.driverPaths.any isMatch then pure true
    else anyLookup (fun modalias => do return (← Program.ask modalias).any isMatch)
      device.modaliases

def usbSelectorLookup (d : Daemon) (selector : Value) (device : UsbDevice) : Lookup Bool :=
  if GhafDeviceManager.usbSelectorMatches d.host selector device then pure true
  else d.driverPathLookup selector device

/-- Note that the selectors under `deny` are asked whatever those under `allow` said. -/
def ruleLookup (d : Daemon) (rule : Value) (device : UsbDevice) : Lookup Bool := do
  if enabled rule then
    let allowed ← anyLookup (d.usbSelectorLookup · device) (rule.getItems "allow")
    let denied ← anyLookup (d.usbSelectorLookup · device) (rule.getItems "deny")
    return allowed && !denied
  else return false

def usbRuleLookup (d : Daemon) (device : UsbDevice) : Lookup (Option RuleMatch) :=
  findLookup (fun rule => do
    if (← d.ruleLookup rule device) &&
        ((rule.getStr "targetVm").isSome || !(stringList rule "allowedVms").isEmpty) then
      return some
        { targetVm := rule.getStr "targetVm"
          allowedVms := stringList rule "allowedVms"
          skipOnSuspend := boolValue rule "skipOnSuspend"
          iommuAddAll := false
          iommuSkipIfShared := false
          crosvmUseRootBus := false
          tag := rule.getStr "tag"
          order := 0 }
    else return none) d.config.usbPassthrough

def usbAuthorizationHostAllowedLookup (d : Daemon) (device : UsbDevice) : Lookup Bool :=
  if d.config.usbAuthorization.enabled then
    anyLookup (d.usbSelectorLookup · device) d.config.usbAuthorization.hostAllow
  else pure false

/-- The daemon on a host whose tools always answer alike. -/
def onHost (d : Daemon) (f : String → List String) : Daemon :=
  { d with host := { d.host with modulePaths := f } }

end Daemon

/-! ## With one answer for each modalias -/

section Answers

variable {α β : Type} {d : Daemon} {device : UsbDevice} (f : String → List String)

theorem answer_pure (a : α) : (pure a : Lookup α).answer f = a := rfl

theorem answer_ite {c : Prop} [Decidable c] {p q : Lookup α} :
    (if c then p else q).answer f = if c then p.answer f else q.answer f := by
  split <;> rfl

theorem answer_anyLookup (g : α → Lookup Bool) (xs : List α) :
    (anyLookup g xs).answer f = xs.any fun x => (g x).answer f := by
  induction xs with
  | nil => rfl
  | cons x rest ih =>
      rw [anyLookup, Program.answer_bind, answer_ite, ih, List.any_cons]
      cases (g x).answer f <;> rfl

theorem answer_findLookup (g : α → Lookup (Option β)) (xs : List α) :
    (findLookup g xs).answer f = xs.findSome? fun x => (g x).answer f := by
  induction xs with
  | nil => rfl
  | cons x rest ih =>
      rw [findLookup, Program.answer_bind, List.findSome?_cons]
      cases (g x).answer f with
      | none => exact ih
      | some b => rfl

/-- Module paths matter to nothing but `driverPath`. -/
theorem usbSelectorMatches_onHost (selector : Value) :
    GhafDeviceManager.usbSelectorMatches (d.onHost f).host selector device =
      GhafDeviceManager.usbSelectorMatches d.host selector device := rfl

theorem answer_driverPathLookup (selector : Value) :
    (d.driverPathLookup selector device).answer f =
      (d.onHost f).driverPathMatches selector device := by
  have hanchored : (d.onHost f).host.anchored = d.host.anchored := rfl
  unfold Daemon.driverPathLookup Daemon.driverPathMatches
  rw [hanchored]
  by_cases hvalid : Daemon.hasValidInterface device = true
  · rw [if_pos hvalid, if_pos hvalid]
    rfl
  · rw [if_neg hvalid, if_neg hvalid]
    cases (selector.getStr "driverPath").bind d.host.anchored with
    | none => rfl
    | some isMatch =>
        have hmodaliases : (anyLookup (fun modalias => do
            return (← Program.ask modalias).any isMatch : String → Lookup Bool)
            device.modaliases).answer f =
            (device.modaliases.flatMap f).any isMatch := by
          rw [answer_anyLookup, List.any_flatMap]
          rfl
        dsimp only
        rw [answer_ite, hmodaliases, Option.any_some, List.any_append, answer_pure]
        cases device.driverPaths.any isMatch <;> rfl

theorem answer_usbSelectorLookup (selector : Value) :
    (d.usbSelectorLookup selector device).answer f =
      (d.onHost f).usbSelectorMatches selector device := by
  unfold Daemon.usbSelectorLookup Daemon.usbSelectorMatches
  rw [answer_ite, answer_driverPathLookup, usbSelectorMatches_onHost, answer_pure]
  cases GhafDeviceManager.usbSelectorMatches d.host selector device <;> rfl

theorem answer_ruleLookup (rule : Value) :
    (d.ruleLookup rule device).answer f =
      ruleMatches rule device (d.onHost f).usbSelectorMatches := by
  unfold Daemon.ruleLookup ruleMatches
  rw [answer_ite, Program.answer_bind, Program.answer_bind, answer_anyLookup, answer_anyLookup]
  simp only [answer_usbSelectorLookup, answer_pure]
  cases enabled rule <;> rfl

theorem answer_usbRuleLookup : (d.usbRuleLookup device).answer f = (d.onHost f).usbRule device := by
  unfold Daemon.usbRuleLookup Daemon.usbRule
  rw [answer_findLookup]
  congr 1
  funext rule
  rw [Program.answer_bind, answer_ruleLookup, answer_ite]
  rfl

theorem answer_usbAuthorizationHostAllowedLookup :
    (d.usbAuthorizationHostAllowedLookup device).answer f =
      (d.onHost f).usbAuthorizationHostAllowed device := by
  unfold Daemon.usbAuthorizationHostAllowedLookup Daemon.usbAuthorizationHostAllowed
  rw [answer_ite, answer_anyLookup]
  simp only [answer_usbSelectorLookup, answer_pure]
  change _ = (d.config.usbAuthorization.enabled && _)
  cases d.config.usbAuthorization.enabled <;> rfl

end Answers

/-! ## The modaliases that are looked up -/

section Asked

variable {α β : Type} {S : String → Prop}

theorem calls_anyLookup {g : α → Lookup Bool} {xs : List α} (hg : ∀ x ∈ xs, (g x).Calls S) :
    (anyLookup g xs).Calls S := by
  induction xs with
  | nil => exact Program.calls_pure S false
  | cons x rest ih =>
      obtain ⟨hx, hrest⟩ := List.forall_mem_cons.1 hg
      refine Program.calls_bind hx fun found => ?_
      cases found with
      | true => exact Program.calls_pure S true
      | false => exact ih hrest

theorem calls_findLookup {g : α → Lookup (Option β)} (hg : ∀ x, (g x).Calls S) (xs : List α) :
    (findLookup g xs).Calls S := by
  induction xs with
  | nil => exact Program.calls_pure S none
  | cons x rest ih =>
      refine Program.calls_bind (hg x) fun found => ?_
      cases found with
      | some b => exact Program.calls_pure S (some b)
      | none => exact ih

variable (d : Daemon) (device : UsbDevice)

theorem calls_usbSelectorLookup (selector : Value) :
    (d.usbSelectorLookup selector device).Calls (· ∈ device.modaliases) := by
  unfold Daemon.usbSelectorLookup Daemon.driverPathLookup
  split
  · exact Program.calls_pure _ true
  · split
    · exact Program.calls_pure _ false
    · split
      · exact Program.calls_pure _ false
      · split
        · exact Program.calls_pure _ true
        · exact calls_anyLookup fun modalias hmodalias =>
            ⟨hmodalias, fun paths => Program.calls_pure _ _⟩

theorem calls_ruleLookup (rule : Value) :
    (d.ruleLookup rule device).Calls (· ∈ device.modaliases) := by
  unfold Daemon.ruleLookup
  split
  · refine Program.calls_bind (calls_anyLookup fun selector _ =>
      calls_usbSelectorLookup d device selector) fun allowed => ?_
    refine Program.calls_bind (calls_anyLookup fun selector _ =>
      calls_usbSelectorLookup d device selector) fun denied => ?_
    exact Program.calls_pure _ _
  · exact Program.calls_pure _ false

theorem calls_usbRuleLookup : (d.usbRuleLookup device).Calls (· ∈ device.modaliases) := by
  refine calls_findLookup (fun rule => ?_) _
  refine Program.calls_bind (calls_ruleLookup d device rule) fun found => ?_
  split
  · exact Program.calls_pure _ _
  · exact Program.calls_pure _ none

theorem calls_usbAuthorizationHostAllowedLookup :
    (d.usbAuthorizationHostAllowedLookup device).Calls (· ∈ device.modaliases) := by
  unfold Daemon.usbAuthorizationHostAllowedLookup
  split
  · exact calls_anyLookup fun selector _ => calls_usbSelectorLookup d device selector
  · exact Program.calls_pure _ false

end Asked

/-! ## The life of a process -/

/-- What the manager asks of its configuration about a device. -/
inductive Query
  | usbRule (device : UsbDevice)
  | usbAuthorizationHostAllowed (device : UsbDevice)

def Query.device : Query → UsbDevice
  | usbRule device => device
  | usbAuthorizationHostAllowed device => device

inductive Answer
  | rule (found : Option RuleMatch)
  | allowed (value : Bool)

def Query.lookup (d : Daemon) : Query → Lookup Answer
  | usbRule device => do return .rule (← d.usbRuleLookup device)
  | usbAuthorizationHostAllowed device => do
    return .allowed (← d.usbAuthorizationHostAllowedLookup device)

def Query.answer (d : Daemon) : Query → Answer
  | usbRule device => .rule (d.usbRule device)
  | usbAuthorizationHostAllowed device => .allowed (d.usbAuthorizationHostAllowed device)

theorem answer_lookup (d : Daemon) (f : String → List String) (query : Query) :
    (query.lookup d).answer f = query.answer (d.onHost f) := by
  cases query with
  | usbRule device =>
      rw [Query.lookup, Program.answer_bind, answer_usbRuleLookup]
      rfl
  | usbAuthorizationHostAllowed device =>
      rw [Query.lookup, Program.answer_bind, answer_usbAuthorizationHostAllowedLookup]
      rfl

theorem calls_lookup (d : Daemon) (query : Query) :
    (query.lookup d).Calls (· ∈ query.device.modaliases) := by
  cases query with
  | usbRule device =>
      exact Program.calls_bind (calls_usbRuleLookup d device) fun _ => Program.calls_pure _ _
  | usbAuthorizationHostAllowed device =>
      exact Program.calls_bind (calls_usbAuthorizationHostAllowedLookup d device)
        fun _ => Program.calls_pure _ _

def Query.cached (d : Daemon) (query : Query) : Memo.Task String (List String) Answer :=
  (query.lookup d).through modulePaths

/-- The module paths of a host whose tools always answer as they did first. -/
def firstPaths (reports : List (String × List String)) (modalias : String) : List String :=
  (Memo.first modalias reports).getD []

theorem firstPaths_mem {reports : List (String × List String)} {modalias : String}
    {paths : List String} (h : (modalias, paths) ∈ reports) :
    (modalias, firstPaths reports modalias) ∈ reports := by
  obtain ⟨u, hfirst, hmem⟩ := Memo.exists_first h
  rwa [firstPaths, hfirst]

/-- Matching over the cache of one process, from an empty one, whatever the tools answer at which
time and however the tasks that match take turns. There is one host whose modules behind a modalias
are those the tools first reported, which is all they reported if no two lookups of the modalias
overlapped. Every task goes by what was reported, and matches as on that host if all that was
reported of the device's modaliases agrees with it. -/
theorem cached_matching_uncached {d : Daemon} {s : Memo.State String (List String) Query Answer}
    (h : Memo.Reaches (Query.cached d) Resolves {} s) :
    ∃ host : Host, host.regex = d.host.regex ∧ host.hwdb = d.host.hwdb ∧
      (∀ modalias paths, s.cache.lookup modalias = some paths → (modalias, paths) ∈ s.reports) ∧
      (∀ modalias paths, (modalias, paths) ∈ s.reports →
        Resolves modalias paths ∧ (modalias, host.modulePaths modalias) ∈ s.reports ∧
        (Memo.ReachesApart modalias (Query.cached d) Resolves {} s →
          paths = host.modulePaths modalias)) ∧
      ∀ query answer, (query, answer) ∈ s.answered →
        (∃ told, Replays (query.lookup d) told answer ∧ Memo.Reported s.reports told) ∧
        ((∀ modalias ∈ query.device.modaliases, ∀ paths, (modalias, paths) ∈ s.reports →
          paths = host.modulePaths modalias) → answer = query.answer { d with host := host }) := by
  have hcached : Query.cached d = fun query => (query.lookup d).through Memo.get := by
    rw [← modulePaths_eq]
    rfl
  rw [hcached] at h ⊢
  have hcoherent := Memo.coherent_reaches h
  refine ⟨(d.onHost (firstPaths s.reports)).host, rfl, rfl, hcoherent.cached,
    fun modalias paths hreported => ?_, fun query answer hanswered => ?_⟩
  · exact ⟨hcoherent.reports _ hreported, firstPaths_mem hreported, fun hapart =>
      (Memo.once_reachesApart hapart).agree hreported (firstPaths_mem hreported)⟩
  · obtain ⟨told, hreplays, htold⟩ := hcoherent.answered (query, answer) hanswered
    refine ⟨⟨told, hreplays, htold⟩, fun hagree => ?_⟩
    have hasked := hreplays.calls (calls_lookup d query)
    have hanswer := Program.answer_eq_of_replays (f := firstPaths s.reports) hreplays
      fun e he => hagree e.1 (hasked e he) e.2 (htold e he)
    exact hanswer.symm.trans (answer_lookup d _ query)

/-! ## A module that is found once -/

def webcamDaemon : Daemon where
  config :=
    { usbPassthrough :=
        [.object [("allow", .array [.object [("driverPath", .string ".*/uvcvideo")]]),
          ("targetVm", .string "gui-vm")]] }
  host :=
    { regex := fun _ => some fun text => Text.contains text 'v'
      modulePaths := fun _ => []
      hwdb := fun _ _ => none }

def webcam : UsbDevice where
  sysName := "1-4"
  deviceNode := some "/dev/bus/usb/001/007"
  bus := some 1
  port := some 7
  rootPort := some 4
  vid := some "046d"
  pid := some "0825"
  vendorName := none
  productName := none
  serial := none
  removable := none
  deviceClass := some 0xef
  deviceSubclass := none
  deviceProtocol := none
  interfacesText := none
  interfaces := []
  driverPaths := []
  modaliases := ["usb:v046Dp0825"]

def webcamPaths : List String := ["/lib/modules/uvcvideo.ko"]

theorem resolves_webcam : Resolves "usb:v046Dp0825" webcamPaths :=
  ⟨[⟨.modprobe "usb:v046Dp0825", some "uvcvideo\n"⟩,
    ⟨.modinfo "uvcvideo", some "/lib/modules/uvcvideo.ko\n"⟩], .call (.call (.done _))⟩

def webcamRule : RuleMatch where
  targetVm := some "gui-vm"
  allowedVms := []
  skipOnSuspend := false
  iommuAddAll := false
  iommuSkipIfShared := false
  crosvmUseRootBus := false
  tag := none
  order := 0

def webcamNext (paths : List String) : Memo.Task String (List String) Answer :=
  match Query.lookup webcamDaemon (.usbRule webcam) with
  | .pure answer => .pure answer
  | .call _ next => (next paths).through modulePaths

def webcamTold (paths : List String) : Memo.Task String (List String) Answer :=
  .call (.insert "usb:v046Dp0825" paths) fun _ => webcamNext paths

def webcamAsked (found : Option (List String)) : Memo.Task String (List String) Answer :=
  match found with
  | some paths => webcamNext paths
  | none => .call (.resolve "usb:v046Dp0825") webcamTold

theorem cached_webcam :
    Query.cached webcamDaemon (.usbRule webcam) = .call (.lookup "usb:v046Dp0825") webcamAsked := by
  refine congrArg (Program.call _) ?_
  funext found
  cases found <;> rfl

/-- The webcam matched twice, the second time over the cache. -/
def webcamState : Memo.State String (List String) Query Answer where
  cache := (∅ : Map (List String)).insert "usb:v046Dp0825" webcamPaths
  reports := [("usb:v046Dp0825", webcamPaths)]
  answered :=
    [(.usbRule webcam, .rule (some webcamRule)), (.usbRule webcam, .rule (some webcamRule))]

theorem reaches_webcamState :
    Memo.ReachesApart "usb:v046Dp0825" (Query.cached webcamDaemon) Resolves {} webcamState := by
  have hfound : Memo.ReachesApart "usb:v046Dp0825" (Query.cached webcamDaemon) Resolves {}
      { webcamState with
        running := [(Query.usbRule webcam, .pure (.rule (some webcamRule)))], answered := [] } :=
    (((Relation.ReflTransGen.refl.tail
      ⟨.begun _ (Query.usbRule webcam), by rw [cached_webcam]; decide⟩).tail
      ⟨.lookedUp _ [] [] (Query.usbRule webcam) "usb:v046Dp0825" webcamAsked
        (by rw [cached_webcam]), by decide⟩).tail
      ⟨.resolved _ [] [] (Query.usbRule webcam) "usb:v046Dp0825" webcamPaths webcamTold rfl
        resolves_webcam, by decide⟩).tail
      ⟨.inserted _ [] [] (Query.usbRule webcam) "usb:v046Dp0825" webcamPaths
        (fun _ => webcamNext webcamPaths) rfl, by decide⟩
  have hagain : Memo.ReachesApart "usb:v046Dp0825" (Query.cached webcamDaemon) Resolves {}
      { webcamState with
        running := [(Query.usbRule webcam, .pure (.rule (some webcamRule)))]
        answered := [(.usbRule webcam, .rule (some webcamRule))] } :=
    ((hfound.tail ⟨.ended _ [] [] (Query.usbRule webcam) (Answer.rule (some webcamRule)) rfl,
        by decide⟩).tail
      ⟨.begun _ (Query.usbRule webcam), by rw [cached_webcam]; decide⟩).tail
      ⟨.lookedUp _ [] [] (Query.usbRule webcam) "usb:v046Dp0825" webcamAsked
        (by rw [cached_webcam]; rfl), by decide⟩
  exact hagain.tail ⟨.ended _ [] [] (Query.usbRule webcam) (Answer.rule (some webcamRule)) rfl,
    by decide⟩

theorem cached_matching_uncached_webcam :
    Memo.ReachesApart "usb:v046Dp0825" (Query.cached webcamDaemon) Resolves {} webcamState ∧
    ∃ host : Host, host.regex = webcamDaemon.host.regex ∧ host.hwdb = webcamDaemon.host.hwdb ∧
      (∀ modalias paths, webcamState.cache.lookup modalias = some paths →
        (modalias, paths) ∈ webcamState.reports) ∧
      (∀ modalias paths, (modalias, paths) ∈ webcamState.reports →
        Resolves modalias paths ∧ (modalias, host.modulePaths modalias) ∈ webcamState.reports ∧
        (Memo.ReachesApart modalias (Query.cached webcamDaemon) Resolves {} webcamState →
          paths = host.modulePaths modalias)) ∧
      ∀ query answer, (query, answer) ∈ webcamState.answered →
        (∃ told, Replays (query.lookup webcamDaemon) told answer ∧
          Memo.Reported webcamState.reports told) ∧
        ((∀ modalias ∈ query.device.modaliases, ∀ paths,
          (modalias, paths) ∈ webcamState.reports → paths = host.modulePaths modalias) →
          answer = query.answer { webcamDaemon with host := host }) :=
  ⟨reaches_webcamState,
    cached_matching_uncached (Memo.reaches_of_reachesApart reaches_webcamState)⟩

end GhafDeviceManager
