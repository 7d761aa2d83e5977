import Mathlib.Data.List.Nodup
import Mathlib.Data.Option.Basic

/-!
# Structs read from the entries of a map

A field is read from the one entry with its key. A key that is written twice is an error, a
missing one an error or a value of its own. A flattened struct reads the entries its owner does not
take, a tagged one those beside the tag.
-/

namespace GhafDeviceManager

variable {V α β : Type}

abbrev Entries (V : Type) := List (String × V)

namespace Entries

def keys (entries : Entries V) : List String := entries.map Prod.fst

def written (key : String) (entries : Entries V) : List V :=
  (entries.filter fun entry => entry.1 == key).map Prod.snd

def field (read : V → Option α) (key : String) (entries : Entries V) : Option α :=
  match entries.written key with
  | [value] => read value
  | _ => none

def fieldOr (missing : α) (read : V → Option α) (key : String) (entries : Entries V) : Option α :=
  match entries.written key with
  | [] => some missing
  | [value] => read value
  | _ => none

/-- What is left beside the keys of the owner. -/
def others (own : List String) (entries : Entries V) : Entries V :=
  entries.filter fun entry => !own.contains entry.1

/-- The variant under the tag, and the entries beside it. -/
def tagged (name : V → Option String) (tag : String) (entries : Entries V) :
    Option (String × Entries V) := do
  let variant ← entries.field name tag
  return (variant, entries.others [tag])

variable {entries first second : Entries V} {key tag : String} {own : List String} {v : V}

@[simp] theorem keys_nil : keys ([] : Entries V) = [] := rfl

@[simp] theorem keys_cons : keys ((key, v) :: entries) = key :: keys entries := rfl

@[simp] theorem keys_append : keys (first ++ second) = keys first ++ keys second :=
  List.map_append

theorem mem_keys (h : (key, v) ∈ entries) : key ∈ entries.keys := List.mem_map_of_mem h

@[simp] theorem written_cons_self :
    written key ((key, v) :: entries) = v :: written key entries := by
  simp [written]

theorem written_cons_of_ne {other : String} (h : other ≠ key) :
    written key ((other, v) :: entries) = written key entries := by
  simp [written, h]

theorem written_of_notMem (h : key ∉ entries.keys) : written key entries = [] := by
  induction entries with
  | nil => rfl
  | cons entry entries ih =>
      rw [keys_cons, List.mem_cons, not_or] at h
      rw [written_cons_of_ne (Ne.symm h.1), ih h.2]

theorem written_of_mem (hnodup : entries.keys.Nodup) (h : (key, v) ∈ entries) :
    written key entries = [v] := by
  induction entries with
  | nil => cases h
  | cons entry entries ih =>
      obtain ⟨hnew, hrest⟩ := List.nodup_cons.1 hnodup
      obtain rfl | hmem := List.mem_cons.1 h
      · rw [written_cons_self, written_of_notMem hnew]
      · have hne : entry.1 ≠ key := fun hsame => hnew (hsame ▸ mem_keys hmem)
        rw [written_cons_of_ne hne, ih hrest hmem]

/-- Where no key is written twice, a field is read from its entry. -/
theorem field_of_mem (hnodup : entries.keys.Nodup) (h : (key, v) ∈ entries)
    (read : V → Option α) : entries.field read key = read v := by
  rw [field, written_of_mem hnodup h]

theorem fieldOr_of_mem (hnodup : entries.keys.Nodup) (h : (key, v) ∈ entries) (missing : α)
    (read : V → Option α) : entries.fieldOr missing read key = read v := by
  rw [fieldOr, written_of_mem hnodup h]

theorem field_of_notMem (h : key ∉ entries.keys) (read : V → Option α) :
    entries.field read key = none := by
  rw [field, written_of_notMem h]

theorem fieldOr_of_notMem (h : key ∉ entries.keys) (missing : α) (read : V → Option α) :
    entries.fieldOr missing read key = some missing := by
  rw [fieldOr, written_of_notMem h]

theorem others_append : others own (first ++ second) = others own first ++ others own second :=
  List.filter_append first second

theorem others_of_disjoint (h : ∀ key ∈ entries.keys, key ∉ own) : others own entries = entries := by
  refine List.filter_eq_self.2 fun entry hentry => ?_
  have hnot := h entry.1 (List.mem_map_of_mem hentry)
  simpa using hnot

theorem others_of_subset (h : ∀ key ∈ entries.keys, key ∈ own) : others own entries = [] := by
  refine List.filter_eq_nil_iff.2 fun entry hentry => ?_
  have hown := h entry.1 (List.mem_map_of_mem hentry)
  simpa using hown

theorem others_flattened (hfirst : ∀ key ∈ first.keys, key ∉ own)
    (hsecond : ∀ key ∈ second.keys, key ∈ own) : others own (first ++ second) = first := by
  rw [others_append, others_of_disjoint hfirst, others_of_subset hsecond, List.append_nil]

theorem tagged_cons (h : tag ∉ entries.keys) (name : V → Option String) :
    tagged name tag ((tag, v) :: entries) =
      (name v).map fun variant => (variant, entries) := by
  have hothers : others [tag] ((tag, v) :: entries) = entries := by
    have hrest : ∀ key ∈ entries.keys, key ∉ [tag] := by
      intro key hkey hsame
      obtain rfl := List.mem_singleton.1 hsame
      exact h hkey
    have hdropped : others [tag] [(tag, v)] = [] := others_of_subset (by simp)
    calc others [tag] ([(tag, v)] ++ entries)
        = others [tag] [(tag, v)] ++ others [tag] entries := others_append
      _ = entries := by rw [hdropped, others_of_disjoint hrest, List.nil_append]
  have hfield : field name tag ((tag, v) :: entries) = name v := by
    rw [field, written_cons_self, written_of_notMem h]
  rw [tagged, hfield, hothers]
  cases hname : name v with
  | none => rfl
  | some variant => rfl

end Entries

/-! ## Values with a writer and a reader -/

/-- The reader recovers what was written, up to what the writer leaves out. -/
def Recovers (write : α → V) (read : V → Option β) (kept : α → β) : Prop :=
  ∀ a, read (write a) = some (kept a)

theorem Recovers.mapM {write : α → V} {read : V → Option β} {kept : α → β}
    (h : Recovers write read kept) (items : List α) :
    (items.map write).mapM read = some (items.map kept) := by
  induction items with
  | nil => rfl
  | cons item items ih => simp [h item, ih]

end GhafDeviceManager
