import GhafDeviceManager.Delimited
import GhafDeviceManager.Steps
import GhafDeviceManager.VmmArgs

/-!
# The rest of the boot arguments, and how they are printed

After the PCI devices `vmm_args` names the ACPI tables and the input devices that rules route to
the VM. The client prints what it is given on one line, for a shell to take apart, and refuses to
where the shell would take it apart otherwise.
-/

namespace GhafDeviceManager

/-! ## Users and groups -/

structure BootHost where
  userFromName : String → Except Error (Option ℕ)
  groupFromName : String → Except Error (Option ℕ)
  chown : String → Option ℕ → Option ℕ → Except Error Unit
  isFile : String → Bool
  regex : String → Option (String → Bool)

namespace BootHost

def userId (host : BootHost) (name : String) : Except Error ℕ :=
  match host.userFromName name with
  | .error e => .error (("failed to look up user " ++ name) :: e)
  | .ok none => .error ["unknown user " ++ name]
  | .ok (some id) => .ok id

def groupId (host : BootHost) (name : String) : Except Error ℕ :=
  match host.groupFromName name with
  | .error e => .error (("failed to look up group " ++ name) :: e)
  | .ok none => .error ["unknown group " ++ name]
  | .ok (some id) => .ok id

/-- An optional name, looked up; the error of a failed lookup gets a context. -/
def resolve (lookup : String → Except Error ℕ) (context : String) :
    Option String → Except Error (Option ℕ)
  | none => .ok none
  | some name => ((lookup name).mapError fun e => (context ++ name) :: e).map some

def chownNamed (host : BootHost) (path : String) (user group : Option String) :
    Except Error Unit :=
  if user.isNone && group.isNone then .ok ()
  else do
    let uid ← resolve host.userId "unknown ACPI table user " user
    let gid ← resolve host.groupId "unknown ACPI table group " group
    host.chown path uid gid

end BootHost

/-! ## ACPI tables -/

/-- Unlike `enabled`, this takes what is no object for enabled. -/
def jsonEnabled (value : Value) : Bool :=
  match value.get "disable" with
  | some disable => !disable.asBool.getD false
  | none => ((value.get "enable").bind Value.asBool).getD true

/-- Rules for another VM, like disabled ones, are passed over. -/
def routesTo (vmName : String) (rule : Value) : Bool :=
  jsonEnabled rule && rule.getStr "targetVm" == some vmName

namespace BootHost

/-- The table of an `allow` entry, where it is enabled and the table exists. -/
def table (host : BootHost) (allow : Value) : Option String :=
  if jsonEnabled allow then (allow.getStr "acpiTable").filter host.isFile else none

def acpiAllow (host : BootHost) (args : List String) (allow : Value) :
    Except Error (List String) :=
  match host.table allow with
  | none => .ok args
  | some table => do
    host.chownNamed table (allow.getStr "setUser") (allow.getStr "setGroup")
    return args ++ ["--acpi-table", table]

def acpiRule (host : BootHost) (vmName : String) (args : List String) (rule : Value) :
    Except Error (List String) :=
  if routesTo vmName rule then (rule.getItems "allow").foldlM host.acpiAllow args else .ok args

def acpiArgs (host : BootHost) (rules : List Value) (vmName : String) :
    Except Error (List String) := rules.foldlM (host.acpiRule vmName) []

end BootHost

/-! ## Input devices -/

structure InputDevice where
  devnode : Option String
  name : Option String := none
  parentName : Option String := none
  properties : List (String × String) := []

namespace InputDevice

def property (device : InputDevice) (key : String) : Option String :=
  device.properties.lookup key

end InputDevice

def BootHost.regexValue (host : BootHost) (pattern : Option Value) (value : Option String) : Bool :=
  match pattern.bind Value.asStr, value with
  | some pattern, some value =>
    (host.regex ("^(?:" ++ pattern ++ ")")).any fun isMatch => isMatch value
  | _, _ => false

def BootHost.evdevSelectorMatches (host : BootHost) (selector : Value) (device : InputDevice) :
    Bool :=
  if !jsonEnabled selector then false
  else
    let name := device.name <|> device.parentName <|> device.property "NAME"
    host.regexValue (selector.get "name") name ||
      host.regexValue (selector.get "pathTag") (device.property "ID_PATH_TAG") ||
      match selector.getStr "property", selector.getStr "value" with
      | some property, some expected =>
        (device.property property).any fun actual => Text.eqIgnoreAsciiCase actual expected
      | _, _ => false

def BootHost.evdevRuleMatches (host : BootHost) (vmName : String) (device : InputDevice)
    (rule : Value) : Bool :=
  routesTo vmName rule &&
    (rule.getItems "allow").any (host.evdevSelectorMatches · device) &&
      !(rule.getItems "deny").any (host.evdevSelectorMatches · device)

/-- The event node of a device that a rule routes to the VM; USB devices go as USB devices. -/
def BootHost.inputNode (host : BootHost) (rules : List Value) (vmName : String)
    (device : InputDevice) : Option String :=
  device.devnode.filter fun node =>
    decide ("/event".toList <:+: node.toList) && device.property "ID_BUS" != some "usb" &&
      rules.any (host.evdevRuleMatches vmName device)

def inputArgument (node : String) : String := "evdev[path=" ++ node ++ "]"

def BootHost.evdevArgs (host : BootHost) (rules : List Value) (vmName : String)
    (devices : List InputDevice) : List String :=
  (devices.filterMap (host.inputNode rules vmName)).flatMap fun node =>
    ["--input", inputArgument node]

/-! ## All of them -/

structure Boot where
  host : BootHost
  acpiPassthrough : List Value := []
  evdevPassthrough : List Value := []
  /-- The input devices, or why they could not be enumerated. -/
  inputs : Except Error (List InputDevice)

def ofExcept {α : Type} : Except Error α → Act α
  | .ok a => pure a
  | .error e => throw e

/-- `vmm_args` -/
def Boot.vmmArgs (boot : Boot) (d : Daemon) (vmName : String) (requirePci : Bool) :
    Act (List String) := do
  let pci ← GhafDeviceManager.vmmArgs d vmName requirePci
  let tables ← ofExcept (boot.host.acpiArgs boot.acpiPassthrough vmName)
  let inputs ← ofExcept boot.inputs
  return pci ++ tables ++ boot.host.evdevArgs boot.evdevPassthrough vmName inputs

/-! ## Printing -/

/-- `char::is_whitespace` -/
def isWhitespace (c : Char) : Bool :=
  let n := c.toNat
  (9 ≤ n && n ≤ 13) || n == 0x20 || n == 0x85 || n == 0xa0 || n == 0x1680 ||
    (0x2000 ≤ n && n ≤ 0x200a) || n == 0x2028 || n == 0x2029 || n == 0x202f || n == 0x205f ||
    n == 0x3000

/-- What the client prints of the arguments it was given. -/
def printArgs (args : List String) : Except Error String :=
  if args.any fun argument => argument.toList.any isWhitespace then
    .error ["VMM arguments containing whitespace are not supported"]
  else .ok (String.intercalate " " args)

/-- The fields a shell makes of a line without tabs and line breaks. -/
def fields (text : String) : List String :=
  ((text.toList.splitOn ' ').filter fun field => !field.isEmpty).map String.ofList

theorem printArgs_eq_ok {args : List String} {text : String} (h : printArgs args = .ok text) :
    text = String.intercalate " " args ∧
      ∀ argument ∈ args, argument.toList.any isWhitespace = false := by
  unfold printArgs at h
  split at h
  · cases h
  case isFalse hspaces =>
    refine ⟨(Except.ok.inj h).symm, fun argument hmem => ?_⟩
    by_contra hspace
    exact hspaces (List.any_eq_true.2 ⟨argument, hmem, Bool.not_eq_false _ ▸ hspace⟩)

/-- What is printed is taken apart into the arguments it was made of. -/
theorem fields_intercalate {args : List String} (hne : ∀ argument ∈ args, argument ≠ "")
    (hspaces : ∀ argument ∈ args, argument.toList.any isWhitespace = false) :
    fields (String.intercalate " " args) = args := by
  by_cases hargs : args = []
  · subst hargs
    rfl
  have hspace : ∀ cs ∈ args.map String.toList, ' ' ∉ cs := by
    intro cs hcs hmem
    obtain ⟨argument, hargument, rfl⟩ := List.mem_map.1 hcs
    have hany : argument.toList.any isWhitespace = true :=
      List.any_eq_true.2 ⟨' ', hmem, by decide⟩
    rw [hspaces argument hargument] at hany
    cases hany
  have hall : (args.map String.toList).filter (fun field => !field.isEmpty) =
      args.map String.toList := by
    refine List.filter_eq_self.2 fun cs hcs => ?_
    obtain ⟨argument, hargument, rfl⟩ := List.mem_map.1 hcs
    have hlist : argument.toList ≠ [] := fun hnil =>
      hne argument hargument (String.toList_eq_nil_iff.1 hnil)
    simpa using hlist
  unfold fields
  rw [String.toList_intercalate]
  have hsingle : " ".toList = [' '] := rfl
  rw [hsingle, List.splitOn_intercalate ' ' hspace (by simpa using hargs), hall, List.map_map]
  exact (List.map_congr_left fun argument _ => String.ofList_toList).trans (List.map_id args)

end GhafDeviceManager
