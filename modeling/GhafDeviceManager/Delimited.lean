import Mathlib.Tactic

/-!
# Self-delimiting records

Records are written one after the other, and each says where it ends. A text then starts with one
record at most, and it splits in one way into as many records as it holds and a tail that starts
with none.
-/

namespace GhafDeviceManager

variable {α β : Type} {enc : α → List β}

/-- What is written of a record is never empty, and it is read back whatever follows. -/
structure SelfDelimiting (enc : α → List β) : Prop where
  ne_nil : ∀ a, enc a ≠ []
  cancel : ∀ a b x y, enc a ++ x = enc b ++ y → a = b ∧ x = y

def Starts (enc : α → List β) (text : List β) : Prop := ∃ a rest, text = enc a ++ rest

/-- The text is these records and a tail that starts with none. -/
structure Splits (enc : α → List β) (text : List β) (records : List α) (tail : List β) :
    Prop where
  whole : text = records.flatMap enc ++ tail
  ends : ¬Starts enc tail

namespace Splits

variable {text tail rest : List β} {records first : List α}

theorem cons {a : α} (h : Splits enc text records tail) :
    Splits enc (enc a ++ text) (a :: records) tail where
  whole := by rw [List.flatMap_cons, List.append_assoc, h.whole]
  ends := h.ends

theorem append (first : List α) (h : Splits enc rest records tail) :
    Splits enc (first.flatMap enc ++ rest) (first ++ records) tail := by
  induction first with
  | nil => exact h
  | cons a first ih =>
      rw [List.flatMap_cons, List.append_assoc]
      exact ih.cons

/-- No other way of taking records off a text takes more. -/
theorem longest (henc : SelfDelimiting enc) (h : Splits enc text records tail)
    (hfirst : text = first.flatMap enc ++ rest) : first <+: records := by
  obtain ⟨hwhole, hends⟩ := h
  induction first generalizing text records with
  | nil => exact List.nil_prefix
  | cons a first ih =>
      rw [List.flatMap_cons, List.append_assoc] at hfirst
      cases records with
      | nil => exact absurd ⟨a, _, hwhole.symm.trans hfirst⟩ hends
      | cons b records =>
          rw [List.flatMap_cons, List.append_assoc] at hwhole
          obtain ⟨rfl, hrest⟩ := henc.cancel _ _ _ _ (hwhole.symm.trans hfirst)
          exact List.cons_prefix_cons.2 ⟨rfl, ih rfl hrest.symm⟩

theorem unique {records' : List α} {tail' : List β} (henc : SelfDelimiting enc)
    (h : Splits enc text records tail) (h' : Splits enc text records' tail') :
    records = records' :=
  (h'.longest henc h.whole).eq_of_length_le (h.longest henc h'.whole).length_le

end Splits

/-- Every text splits, since each record takes something off it. -/
theorem exists_splits (henc : SelfDelimiting enc) (text : List β) :
    ∃ records tail, Splits enc text records tail := by
  induction hlength : text.length using Nat.strong_induction_on generalizing text with
  | _ n ih =>
      by_cases hstarts : Starts enc text
      · obtain ⟨a, rest, rfl⟩ := hstarts
        have hpos : 0 < (enc a).length := List.length_pos_of_ne_nil (henc.ne_nil a)
        rw [List.length_append] at hlength
        obtain ⟨records, tail, hsplits⟩ := ih rest.length (by omega) rest rfl
        exact ⟨a :: records, tail, hsplits.cons⟩
      · exact ⟨[], text, rfl, hstarts⟩

/-- A text ends where its terminator is first. -/
theorem cancel_terminated {text text' x y : List β} {sep : β} (htext : sep ∉ text)
    (htext' : sep ∉ text') (h : text ++ sep :: x = text' ++ sep :: y) : text = text' ∧ x = y := by
  induction text generalizing text' with
  | nil =>
      cases text' with
      | nil => exact ⟨rfl, (List.cons.inj h).2⟩
      | cons b text' => exact absurd (List.mem_cons.2 (.inl (List.cons.inj h).1)) htext'
  | cons a text ih =>
      cases text' with
      | nil => exact absurd (List.mem_cons.2 (.inl (List.cons.inj h).1.symm)) htext
      | cons b text' =>
          obtain ⟨rfl, hrest⟩ := List.cons.inj h
          rw [List.mem_cons, not_or] at htext htext'
          obtain ⟨rfl, htail⟩ := ih htext.2 htext'.2 hrest
          exact ⟨rfl, htail⟩

/-- No two lists of records are written alike. -/
theorem SelfDelimiting.flatMap_injective (henc : SelfDelimiting enc) :
    Function.Injective fun records : List α => records.flatMap enc := by
  intro records records' h
  have hends : ¬Starts enc [] := by
    rintro ⟨a, rest, hnil⟩
    exact henc.ne_nil a (List.append_eq_nil_iff.1 hnil.symm).1
  have hsplits (l : List α) : Splits enc (l.flatMap enc) l [] := ⟨by rw [List.append_nil], hends⟩
  have hsplits' : Splits enc (records.flatMap enc) records' [] := by
    rw [show records.flatMap enc = records'.flatMap enc from h]
    exact hsplits records'
  exact (hsplits records).unique henc hsplits'

end GhafDeviceManager
