import GhafDeviceManager.Effects

/-!
# The state file

A save writes the state to a temporary file beside the state file and renames it. Whatever step of
it fails, and wherever the process is stopped, the state file is the one of before or the new one.
-/

namespace GhafDeviceManager

open Fallible

/-! ## Saving and loading -/

/-- A name in the directory of the state file; `none` is a name that is not UTF-8. -/
abbrev FileName := Option String

structure StatePath where
  fileName : FileName
  hasParent : Bool := true

/-- `.{}.tmp` -/
def StatePath.temporary (path : StatePath) : FileName :=
  some ("." ++ path.fileName.getD "state" ++ ".tmp")

inductive FileOp
  | createDirAll
  | openTruncated (name : FileName)
  | write (name : FileName) (text : List Char)
  | syncAll (name : FileName)
  | rename (source target : FileName)

abbrev FileReply (_ : FileOp) : Type := Except Error Unit

def saveFile (encode : PersistentState → List Char) (enabled : Bool) (path : StatePath)
    (state : PersistentState) : Fallible FileOp FileReply Error Unit :=
  if !enabled then pure ()
  else if path.hasParent then do
    request .createDirAll id
    request (.openTruncated path.temporary) id
    request (.write path.temporary (encode state)) id
    request (.write path.temporary ['\n']) id
    request (.syncAll path.temporary) id
    request (.rename path.temporary path.fileName) id
  else throw ["state path has no parent"]

structure Disk where
  directory : Bool := false
  files : FileName → Option (List Char) := fun _ => none
  /-- The renames that happened. -/
  renames : ℕ := 0

/-- `State::load`, of what it takes from the file. -/
def loadFile (decode : List Char → Option PersistentState) (enabled : Bool) (path : StatePath)
    (disk : Disk) : PersistentState :=
  if enabled then
    match disk.files path.fileName with
    | some text => (decode text).getD {}
    | none => {}
  else {}

/-! ## The file system -/

def Disk.put (disk : Disk) (name : FileName) (text : Option (List Char)) : Disk :=
  { disk with files := Function.update disk.files name text }

/-- A step is done or fails; a write that fails may have written the beginning. -/
inductive DiskStep : Disk → (op : FileOp) → FileReply op → Disk → Prop
  | created (disk : Disk) : DiskStep disk .createDirAll (.ok ()) { disk with directory := true }
  | opened {disk : Disk} (name : FileName) (h : disk.directory = true) :
      DiskStep disk (.openTruncated name) (.ok ()) (disk.put name (some []))
  | wrote {disk : Disk} {name : FileName} {old : List Char} (text : List Char)
      (h : disk.files name = some old) :
      DiskStep disk (.write name text) (.ok ()) (disk.put name (some (old ++ text)))
  | wroteSome {disk : Disk} {name : FileName} {old text start : List Char} (e : Error)
      (h : disk.files name = some old) (hstart : start <+: text) :
      DiskStep disk (.write name text) (.error e) (disk.put name (some (old ++ start)))
  | synced (disk : Disk) (name : FileName) : DiskStep disk (.syncAll name) (.ok ()) disk
  | renamed {disk : Disk} {source : FileName} {text : List Char} (target : FileName)
      (h : disk.files source = some text) :
      DiskStep disk (.rename source target) (.ok ())
        { (disk.put target (some text)).put source none with renames := disk.renames + 1 }
  | failed (disk : Disk) (op : FileOp) (e : Error) : DiskStep disk op (.error e) disk

/-- Nothing else touches the directory between two steps. -/
def disks : Machine FileOp FileReply Disk where
  env := Eq
  step := DiskStep

/-! ## One save -/

def Unsaved (path : StatePath) (before after : Disk) : Prop :=
  after.renames = before.renames ∧ after.files path.fileName = before.files path.fileName

def SavedAs (path : StatePath) (text : List Char) (before after : Disk) : Prop :=
  after.renames = before.renames + 1 ∧ after.files path.fileName = some text

/-- Text is written to the temporary file only. -/
def FileOp.InTemporary (path : StatePath) : FileOp → Prop
  | .write name _ => name = path.temporary
  | _ => True

/-- What a save returns says whether it happened. -/
def SaveOutcome (path : StatePath) (text : List Char) (before : Disk) :
    Except Error Unit → Disk → Prop
  | .ok _, after => SavedAs path text before after
  | .error _, after => Unsaved path before after

section Save

variable {path : StatePath} {before disk disk' : Disk} {text : List Char}

theorem temporary_ne : path.temporary ≠ path.fileName := by
  unfold StatePath.temporary
  cases path.fileName with
  | none => exact nofun
  | some name =>
      intro h
      have hlength : ("." ++ name ++ ".tmp").length = name.length :=
        congrArg String.length (Option.some.inj h)
      simp only [String.length_append] at hlength
      have htmp : ".tmp".length = 4 := rfl
      omega

theorem Unsaved.put (h : Unsaved path before disk) (text : Option (List Char)) :
    Unsaved path before (disk.put path.temporary text) :=
  ⟨h.1, (Function.update_of_ne temporary_ne.symm _ _).trans h.2⟩

theorem Unsaved.failed {op : FileOp} {e : Error} (h : Unsaved path before disk)
    (hop : op.InTemporary path)
    (hstep : DiskStep disk op (.error e) disk') : Unsaved path before disk' := by
  cases hstep with
  | wroteSome e hfile hstart =>
      obtain rfl : _ = path.temporary := hop
      exact h.put _
  | failed => exact h

theorem wp_step {op : FileOp} {p : Fallible FileOp FileReply Error Unit}
    (h : Unsaved path before disk) (hop : op.InTemporary path)
    (hdone : ∀ disk', DiskStep disk op (.ok ()) disk' →
      p.wp disks (fun w _ => Unsaved path before w) (SaveOutcome path text before) disk') :
    (request op id >>= fun _ => p).wp disks (fun w _ => Unsaved path before w)
      (SaveOutcome path text before) disk := by
  rw [wp_bind, wp_request]
  rintro _ rfl
  refine ⟨h, fun r disk' hstep => ?_⟩
  cases r with
  | ok _ => exact hdone disk' hstep
  | error e => exact h.failed hop hstep

theorem DiskStep.of_opened {name : FileName}
    (h : DiskStep disk (.openTruncated name) (.ok ()) disk') : disk' = disk.put name (some []) := by
  cases h with
  | opened => rfl

theorem DiskStep.of_wrote {name : FileName} {old : List Char}
    (h : DiskStep disk (.write name text) (.ok ()) disk') (hold : disk.files name = some old) :
    disk' = disk.put name (some (old ++ text)) := by
  cases h with
  | wrote text hfile =>
      obtain rfl := Option.some.inj (hfile.symm.trans hold)
      rfl

theorem DiskStep.of_synced {name : FileName} (h : DiskStep disk (.syncAll name) (.ok ()) disk') :
    disk' = disk := by
  cases h with
  | synced => rfl

theorem DiskStep.of_renamed {source target : FileName}
    (h : DiskStep disk (.rename source target) (.ok ()) disk')
    (hsource : disk.files source = some text) (hne : source ≠ target) :
    disk'.renames = disk.renames + 1 ∧ disk'.files target = some text := by
  cases h with
  | renamed target hfile =>
      obtain rfl := Option.some.inj (hfile.symm.trans hsource)
      refine ⟨rfl, ?_⟩
      change Function.update (Function.update disk.files target _) source none target = _
      rw [Function.update_of_ne hne.symm, Function.update_self]

@[simp] theorem Disk.put_files (name : FileName) (content : Option (List Char)) :
    (disk.put name content).files name = content := Function.update_self _ _ _

/-- Before its last step a save has left the state file alone, and that step is the rename of the
whole text. -/
theorem wp_saveFile {encode : PersistentState → List Char} {state : PersistentState} :
    (saveFile encode true path state).wp disks (fun w _ => Unsaved path disk w)
      (SaveOutcome path (encode state ++ ['\n']) disk) disk := by
  unfold saveFile
  simp only [Bool.not_true, Bool.false_eq_true, if_false]
  split
  case isFalse => exact ⟨rfl, rfl⟩
  refine wp_step ⟨rfl, rfl⟩ trivial fun disk₁ hcreated => ?_
  have hunsaved₁ : Unsaved path disk disk₁ := by
    cases hcreated
    exact ⟨rfl, rfl⟩
  refine wp_step hunsaved₁ trivial fun disk₂ hopened => ?_
  obtain rfl := hopened.of_opened
  have hunsaved₂ := hunsaved₁.put (some [])
  refine wp_step hunsaved₂ rfl fun disk₃ hwrote => ?_
  obtain rfl := hwrote.of_wrote (Disk.put_files _ _)
  have hunsaved₃ := hunsaved₂.put (some ([] ++ encode state))
  refine wp_step hunsaved₃ rfl fun disk₄ hended => ?_
  obtain rfl := hended.of_wrote (Disk.put_files _ _)
  have hunsaved₄ := hunsaved₃.put (some ([] ++ encode state ++ ['\n']))
  refine wp_step hunsaved₄ trivial fun disk₅ hsynced => ?_
  obtain rfl := hsynced.of_synced
  rw [wp_request]
  rintro _ rfl
  refine ⟨hunsaved₄, fun r disk₆ hrenamed => ?_⟩
  cases r with
  | error e =>
      have hop : (FileOp.rename path.temporary path.fileName).InTemporary path := trivial
      exact hunsaved₄.failed hop hrenamed
  | ok _ =>
      obtain ⟨hrenames, hfile⟩ := hrenamed.of_renamed (Disk.put_files _ _) temporary_ne
      exact ⟨hrenames.trans (congrArg (· + 1) hunsaved₄.1), hfile⟩

/-- A save that ended or was stopped has saved the whole state, or nothing. -/
theorem saved_or_unsaved {encode : PersistentState → List Char} {state : PersistentState}
    {tr : List (Disk × FileOp)} {o : Option (Except Error Unit)}
    (h : Exec disks (saveFile encode true path state).run disk tr disk' o) :
    Unsaved path disk disk' ∨ SavedAs path (encode state ++ ['\n']) disk disk' := by
  obtain ⟨-, hunsaved⟩ | ⟨r, hr⟩ := Program.wp_sound_stop (fun _ => rfl) wp_saveFile h
  · exact .inl hunsaved
  · cases r with
    | ok _ => exact .inr hr
    | error e => exact .inl hr

end Save

/-! ## Runs -/

inductive StateCall
  | setDisconnected (id : String) (value : Bool)
  | selectVm (id vm : String)
  /-- After the manager has made these of its port bindings. -/
  | save (ports : Map UsbPortBinding)

/-- What a call makes of the state in memory, before it saves it. -/
def StateCall.apply (state : PersistentState) : StateCall → PersistentState
  | setDisconnected id value => state.setDisconnected id value
  | selectVm id vm => { state with selectedVms := state.selectedVms.insert id vm }
  | save ports => { state with crosvmUsbPorts := ports }

def StateCall.mark (marks : String → Bool) : StateCall → String → Bool
  | setDisconnected id value => Function.update marks id value
  | _ => marks

/-- A process and its disk, with what happened so far: the state of the last save whose rename
happened, the last marks and those of that save, and all states written. -/
structure Store where
  memory : PersistentState
  disk : Disk
  durable : Option PersistentState := none
  marks : String → Bool
  savedMarks : String → Bool
  written : List PersistentState := []

def Store.called (s : Store) (call : StateCall) (disk : Disk) : Store where
  memory := call.apply s.memory
  disk := disk
  durable := if s.disk.renames < disk.renames then some (call.apply s.memory) else s.durable
  marks := call.mark s.marks
  savedMarks := if s.disk.renames < disk.renames then call.mark s.marks else s.savedMarks
  written := call.apply s.memory :: s.written

def Store.reloaded (s : Store) (decode : List Char → Option PersistentState) (path : StatePath)
    (disk : Disk) : Store :=
  { s with memory := loadFile decode true path disk, disk := disk, marks := s.savedMarks }

/-- A crash may leave anything in the temporary file. -/
def Crashed (path : StatePath) (disk disk' : Disk) : Prop :=
  ∃ text, disk' = disk.put path.temporary text

section Runs

variable (encode : PersistentState → List Char) (decode : List Char → Option PersistentState)
  (path : StatePath)

/-- Calls one after the other from a first load on, any step of which may fail, with crashes in
them and between them. -/
inductive StateRun (disk₀ : Disk) : Store → Prop
  | load : StateRun disk₀
      { memory := loadFile decode true path disk₀
        disk := disk₀
        marks := (loadFile decode true path disk₀).disconnected
        savedMarks := (loadFile decode true path disk₀).disconnected }
  | call {s : Store} {call : StateCall} {tr : List (Disk × FileOp)} {disk : Disk}
      {r : Except Error Unit} (h : StateRun disk₀ s)
      (hexec : Exec disks (saveFile encode true path (call.apply s.memory)).run s.disk tr disk
        (some r)) : StateRun disk₀ (s.called call disk)
  | crash {s : Store} {call : StateCall} {tr : List (Disk × FileOp)} {disk disk' : Disk}
      (h : StateRun disk₀ s)
      (hexec : Exec disks (saveFile encode true path (call.apply s.memory)).run s.disk tr disk none)
      (hcrash : Crashed path disk disk') :
      StateRun disk₀ ((s.called call disk).reloaded decode path disk')
  | restart {s : Store} {disk : Disk} (h : StateRun disk₀ s) (hcrash : Crashed path s.disk disk) :
      StateRun disk₀ (s.reloaded decode path disk)

variable {encode decode path} {disk₀ disk disk' : Disk} {s : Store}

/-- What would be loaded now. -/
def Store.onDisk (s : Store) (decode : List Char → Option PersistentState) (path : StatePath) :
    PersistentState := loadFile decode true path s.disk

/-- The file holds the last state saved, and lists hold the marks. -/
structure Consistent (decode : List Char → Option PersistentState) (path : StatePath)
    (disk₀ : Disk) (s : Store) : Prop where
  file : s.onDisk decode path = s.durable.getD (loadFile decode true path disk₀)
  marks : ∀ id, s.memory.disconnected id = s.marks id
  savedMarks : ∀ id, (s.onDisk decode path).disconnected id = s.savedMarks id
  nodup : (loadFile decode true path disk₀).disconnectedDevices.Nodup →
    s.memory.disconnectedDevices.Nodup ∧ (s.onDisk decode path).disconnectedDevices.Nodup

theorem PersistentState.nodup_setDisconnected {state : PersistentState} {id : String}
    {value : Bool} (h : state.disconnectedDevices.Nodup) :
    (state.setDisconnected id value).disconnectedDevices.Nodup := by
  have hothers : (state.disconnectedDevices.filter (· ≠ id)).Nodup := h.filter _
  unfold PersistentState.setDisconnected
  cases value with
  | false => exact hothers
  | true =>
      have hpushed : (state.disconnectedDevices.filter (· ≠ id) ++ [id]).Nodup := by
        rw [List.nodup_append_comm]
        exact List.nodup_cons.2 ⟨by simp, hothers⟩
      exact (List.perm_insertionSort _ _).nodup_iff.2 hpushed

theorem StateCall.disconnected_apply (call : StateCall) {state : PersistentState}
    {marks : String → Bool} (h : ∀ id, state.disconnected id = marks id) (id : String) :
    (call.apply state).disconnected id = call.mark marks id := by
  cases call with
  | setDisconnected other value =>
      rw [apply, mark, PersistentState.disconnected_setDisconnected, Function.update_apply, h]
  | selectVm other vm => exact h id
  | save ports => exact h id

theorem StateCall.nodup_apply (call : StateCall) {state : PersistentState}
    (h : state.disconnectedDevices.Nodup) : (call.apply state).disconnectedDevices.Nodup := by
  cases call with
  | setDisconnected id value => exact PersistentState.nodup_setDisconnected h
  | selectVm id vm => exact h
  | save ports => exact h

theorem loadFile_congr (h : disk'.files path.fileName = disk.files path.fileName) :
    loadFile decode true path disk' = loadFile decode true path disk := by
  unfold loadFile
  rw [h]

theorem loadFile_crashed (h : Crashed path disk disk') :
    loadFile decode true path disk' = loadFile decode true path disk := by
  obtain ⟨text, rfl⟩ := h
  exact loadFile_congr (Function.update_of_ne temporary_ne.symm _ _)

theorem loadFile_saved {state : PersistentState}
    (h : SavedAs path (encode state ++ ['\n']) disk disk')
    (hcodec : decode (encode state ++ ['\n']) = some state) :
    loadFile decode true path disk' = state := by
  unfold loadFile
  simp [h.2, hcodec]

theorem Consistent.called (h : Consistent decode path disk₀ s) (call : StateCall)
    {tr : List (Disk × FileOp)} {o : Option (Except Error Unit)}
    (hexec : Exec disks (saveFile encode true path (call.apply s.memory)).run s.disk tr disk o)
    (hcodec : decode (encode (call.apply s.memory) ++ ['\n']) = some (call.apply s.memory)) :
    Consistent decode path disk₀ (s.called call disk) := by
  have hmarks := call.disconnected_apply h.marks
  obtain ⟨hrenames, hfile⟩ | hsaved := saved_or_unsaved hexec
  · have hnot : ¬s.disk.renames < disk.renames := by omega
    have hsame : (s.called call disk).onDisk decode path = s.onDisk decode path :=
      loadFile_congr hfile
    refine ⟨?_, hmarks, fun id => ?_, fun hnodup => ⟨?_, ?_⟩⟩
    · rw [hsame, h.file, Store.called, if_neg hnot]
    · rw [hsame, h.savedMarks]
      exact congrFun (if_neg hnot).symm id
    · exact call.nodup_apply (h.nodup hnodup).1
    · rw [hsame]
      exact (h.nodup hnodup).2
  · have hrenamed : s.disk.renames < disk.renames := by
      have hrenames := hsaved.1
      omega
    have hloaded : (s.called call disk).onDisk decode path = call.apply s.memory :=
      loadFile_saved hsaved hcodec
    refine ⟨?_, hmarks, fun id => ?_, fun hnodup => ⟨?_, ?_⟩⟩
    · rw [hloaded, Store.called, if_pos hrenamed]
      rfl
    · rw [hloaded, hmarks]
      exact congrFun (if_pos hrenamed).symm id
    · exact call.nodup_apply (h.nodup hnodup).1
    · rw [hloaded]
      exact call.nodup_apply (h.nodup hnodup).1

theorem Consistent.reloaded (h : Consistent decode path disk₀ s)
    (hcrash : Crashed path s.disk disk) :
    Consistent decode path disk₀ (s.reloaded decode path disk) := by
  have hsame : loadFile decode true path disk = s.onDisk decode path := loadFile_crashed hcrash
  refine ⟨hsame.trans h.file, fun id => ?_, fun id => ?_, fun hnodup => ?_⟩
  · exact (congrArg (·.disconnected id) hsame).trans (h.savedMarks id)
  · exact (congrArg (·.disconnected id) hsame).trans (h.savedMarks id)
  · have hloaded : (loadFile decode true path disk).disconnectedDevices.Nodup := by
      rw [hsame]
      exact (h.nodup hnodup).2
    exact ⟨hloaded, hloaded⟩

theorem consistent_of_stateRun (h : StateRun encode decode path disk₀ s)
    (hcodec : ∀ state ∈ s.written, decode (encode state ++ ['\n']) = some state) :
    Consistent decode path disk₀ s := by
  induction h with
  | load => exact ⟨rfl, fun _ => rfl, fun _ => rfl, fun hnodup => ⟨hnodup, hnodup⟩⟩
  | call _ hexec ih =>
      exact (ih fun state hmem => hcodec state (List.mem_cons_of_mem _ hmem)).called _ hexec
        (hcodec _ List.mem_cons_self)
  | crash _ hexec hcrash ih =>
      exact ((ih fun state hmem => hcodec state (List.mem_cons_of_mem _ hmem)).called _ hexec
        (hcodec _ List.mem_cons_self)).reloaded hcrash
  | restart _ hcrash ih => exact (ih hcodec).reloaded hcrash

end Runs

/-- A load after any such run, crashes included, returns the state of the last save whose rename
happened, or what the first load returned; and its list of disconnected devices holds the ids that
save marked, each once if it was so at first. -/
theorem state_file_crash_consistent {encode : PersistentState → List Char}
    {decode : List Char → Option PersistentState} {path : StatePath} {disk₀ disk : Disk}
    {s : Store} (h : StateRun encode decode path disk₀ s)
    (hcodec : ∀ state ∈ s.written, decode (encode state ++ ['\n']) = some state)
    (hcrash : Crashed path s.disk disk) :
    loadFile decode true path disk = s.durable.getD (loadFile decode true path disk₀) ∧
      ((loadFile decode true path disk₀).disconnectedDevices.Nodup →
        (loadFile decode true path disk).disconnectedDevices.Nodup) ∧
      ∀ id, id ∈ (loadFile decode true path disk).disconnectedDevices ↔ s.savedMarks id = true := by
  have hconsistent := consistent_of_stateRun h hcodec
  have hsame : loadFile decode true path disk = s.onDisk decode path := loadFile_crashed hcrash
  rw [hsame]
  refine ⟨hconsistent.file, fun hnodup => (hconsistent.nodup hnodup).2, fun id => ?_⟩
  rw [← hconsistent.savedMarks id]
  exact List.contains_iff_mem.symm

/-! ## A save that is torn -/

def listText (ids : List String) : List Char :=
  let list := if ids = [] then "[]" else
    "[\n" ++ ",\n".intercalate (ids.map fun id => "    \"" ++ id ++ "\"") ++ "\n  ]"
  ("\x7b\n  \"selected_vms\": \x7b\x7d,\n  \"disconnected_devices\": " ++ list ++
    ",\n  \"crosvm_usb_ports\": \x7b\x7d\n\x7d").toList

def readList (lists : List (List String)) (text : List Char) : Option (List String) :=
  lists.find? fun ids => listText ids ++ ['\n'] = text

theorem readList_listText : ∀ ids ∈ [[], ["pci:0000:00:1f.3"]],
    readList [[], ["pci:0000:00:1f.3"]] (listText ids ++ ['\n']) = some ids := by
  decide +kernel

/-- `pci:0000:00:1f.3` is marked and saved; taking the mark back stops in the first write, and the
temporary file is lost with its process. -/
theorem state_file_crash_consistent_torn :
    let path : StatePath := { fileName := some "state.json" }
    let decode text := (readList [[], ["pci:0000:00:1f.3"]] text).map fun ids =>
      ({ disconnectedDevices := ids } : PersistentState)
    ∃ s, StateRun (fun state => listText state.disconnectedDevices) decode path {} s ∧
      s.memory.disconnectedDevices = [] ∧
      ∃ disk, Crashed path s.disk disk ∧ loadFile decode true path disk = s.durable.getD {} ∧
        (loadFile decode true path disk).disconnectedDevices.Nodup ∧
        ∀ id, id ∈ (loadFile decode true path disk).disconnectedDevices ↔
          s.savedMarks id = true := by
  intro path decode
  have hstart : StateRun (fun state => listText state.disconnectedDevices) decode path {} _ :=
    .load
  have hmarked : StateRun _ decode path _
      (Store.called _ (.setDisconnected "pci:0000:00:1f.3" true) _) := .call hstart
    (.call rfl (.created _) (.call rfl (.opened _ rfl) (.call rfl (.wrote _ rfl)
      (.call rfl (.wrote _ rfl) (.call rfl (.synced _ _) (.call rfl (.renamed _ rfl)
        (.done (Except.ok ()) _)))))))
  have hbrace : ['\x7b', '\n'] <+: listText [] := by decide +kernel
  have htorn : StateRun _ decode path _
      (Store.called _ (.setDisconnected "pci:0000:00:1f.3" false) _) := .call hmarked
    (.call rfl (.created _) (.call rfl (.opened _ rfl)
      (.call rfl (.wroteSome ["no space left"] rfl hbrace) (.done (Except.error _) _))))
  have hloaded := state_file_crash_consistent htorn (by
    intro state hmem
    obtain rfl | hmem := List.mem_cons.1 hmem
    · exact congrArg (Option.map _) (readList_listText [] (by simp))
    · obtain rfl := List.mem_singleton.1 hmem
      exact congrArg (Option.map _) (readList_listText ["pci:0000:00:1f.3"] (by simp)))
    ⟨none, rfl⟩
  exact ⟨_, htorn, rfl, _, ⟨none, rfl⟩, hloaded.1, hloaded.2.1 .nil, hloaded.2.2⟩

end GhafDeviceManager
