import GhafDeviceManager.CrosvmPorts

/-!
# Lines and their fields

Texts are read by lines and these by the words in them. What was written line by line is read back,
and the first words of a line do not depend on what follows them.
-/

namespace GhafDeviceManager

namespace Text

/-- A line without the carriage return before its end; it comes reversed. -/
def dropReturn : List Char → List Char
  | '\r' :: line => line
  | line => line

/-- `str::lines`, the line that is read so far reversed. -/
def linesFrom (line : List Char) : List Char → List (List Char)
  | [] => if line.isEmpty then [] else [line.reverse]
  | c :: rest =>
    if c = '\n' then (dropReturn line).reverse :: linesFrom [] rest else linesFrom (c :: line) rest

def lines (text : String) : List String := (linesFrom [] text.toList).map String.ofList

theorem linesFrom_newline {l : List Char} (hl : '\n' ∉ l) (line rest : List Char) :
    linesFrom line (l ++ '\n' :: rest) =
      (dropReturn (l.reverse ++ line)).reverse :: linesFrom [] rest := by
  induction l generalizing line with
  | nil => exact if_pos rfl
  | cons c l ih =>
      rw [List.mem_cons, not_or] at hl
      rw [List.cons_append, linesFrom, if_neg (Ne.symm hl.1), ih hl.2, List.reverse_cons,
        List.append_assoc]
      rfl

theorem lines_flatMap {α : Type} {write : α → List Char} (xs : List α)
    (h : ∀ x ∈ xs, '\n' ∉ write x) :
    lines (String.ofList (xs.flatMap fun x => write x ++ ['\n'])) =
      xs.map fun x => String.ofList (dropReturn (write x).reverse).reverse := by
  unfold lines
  rw [String.toList_ofList]
  induction xs with
  | nil => rfl
  | cons x xs ih =>
      obtain ⟨hx, hrest⟩ := List.forall_mem_cons.1 h
      rw [List.flatMap_cons, List.append_assoc, List.singleton_append, linesFrom_newline hx,
        List.map_cons, List.map_cons, ih hrest, List.append_nil]

/-- The return is at the end of a line, so it does not matter to what stands before. -/
theorem dropReturn_append {c : Char} (hc : c ≠ '\r') (l : List Char) (rest : List Char) :
    ∃ rest', (dropReturn (l ++ c :: rest).reverse).reverse = l ++ c :: rest' := by
  induction rest using List.reverseRecOn with
  | nil =>
      refine ⟨[], ?_⟩
      rw [List.reverse_append, List.reverse_cons, List.reverse_nil, List.nil_append,
        List.singleton_append, dropReturn.eq_2 _ (fun line heq => hc (List.cons.inj heq).1)]
      simp
  | append_singleton rest d _ =>
      have hreverse : (l ++ c :: (rest ++ [d])).reverse = d :: (l ++ c :: rest).reverse := by
        simp
      rw [hreverse]
      by_cases hd : d = '\r'
      · refine ⟨rest, ?_⟩
        rw [hd, dropReturn, List.reverse_reverse]
      · refine ⟨rest ++ [d], ?_⟩
        rw [dropReturn.eq_2 _ (fun line heq => hd (List.cons.inj heq).1)]
        simp

theorem splitWhitespace_word {word : List Char} (hword : word ≠ [])
    (hspaces : ∀ c ∈ word, isWhitespace c = false) (rest : List Char) :
    splitWhitespace (String.ofList (word ++ ' ' :: rest)) =
      String.ofList word :: splitWhitespace (String.ofList rest) := by
  have hspace : isWhitespace ' ' = true := by decide
  unfold splitWhitespace
  rw [String.toList_ofList, String.toList_ofList, List.splitOnP_append_cons_of_forall_mem hspaces _ hspace,
    List.filter_cons_of_pos (by simpa using hword), List.map_cons]

end Text

end GhafDeviceManager
