import GhafDeviceManager.Delimited
import GhafDeviceManager.Numerals
import GhafDeviceManager.Text

/-!
# Untrusted text on a terminal

The texts of a device are printed with an escape for every character that could drive the
terminal, and for the backslash. A field is cut where its escaped text gets too long, never inside
an escape, and a marker takes the place of the rest.
-/

namespace GhafDeviceManager

/-- `char::is_control` -/
def isControl (c : Char) : Bool := c.toNat ≤ 0x1F || (0x7F ≤ c.toNat && c.toNat ≤ 0x9F)

/-- The bidirectional overrides and isolates. -/
def isBidi (c : Char) : Bool :=
  (0x202A ≤ c.toNat && c.toNat ≤ 0x202E) || (0x2066 ≤ c.toNat && c.toNat ≤ 0x2069)

def isDangerous (c : Char) : Bool := isControl c || isBidi c

def mustEscape (c : Char) : Bool := isDangerous c || c == '\\'

/-! ## Escapes -/

/-- The tables of the standard library that `escape_debug` goes by. -/
structure CharTables where
  isGraphemeExtended : Char → Bool
  isPrintable : Char → Bool
  /-- Neither controls nor format characters are printable. -/
  unprintable : ∀ c, isDangerous c = true → isPrintable c = false

/-- The tables for texts in ASCII and the dangerous characters. -/
def CharTables.ascii : CharTables where
  isGraphemeExtended _ := false
  isPrintable c := 0x20 ≤ c.toNat && c.toNat ≤ 0x7E
  unprintable c h := by
    simp only [isDangerous, isControl, isBidi, Bool.or_eq_true, Bool.and_eq_true,
      decide_eq_true_eq] at h
    simp only [Bool.and_eq_false_iff, decide_eq_false_iff_not]
    omega

/-- The escapes of one character after the backslash; the last two are the quotes. -/
def shortEscapes : List (Char × Char) :=
  [(Char.ofNat 0, '0'), ('\t', 't'), ('\r', 'r'), ('\n', 'n'), ('\\', '\\'),
    (Char.ofNat 0x22, Char.ofNat 0x22), (Char.ofNat 0x27, Char.ofNat 0x27)]

def escapeUnicode (c : Char) : List Char :=
  ['\\', 'u', '{'] ++ (Nat.toDigits 16 c.toNat ++ ['}'])

/-- `char::escape_debug` -/
def escapeDebug (tables : CharTables) (c : Char) : List Char :=
  match shortEscapes.lookup c with
  | some letter => ['\\', letter]
  | none =>
    if tables.isGraphemeExtended c then escapeUnicode c
    else if tables.isPrintable c then [c]
    else escapeUnicode c

def pushEscaped (tables : CharTables) (character : Char) (output : List Char) : List Char :=
  if mustEscape character then output ++ escapeDebug tables character
  else output ++ [character]

def escapeControl (tables : CharTables) (value : String) : String :=
  String.ofList (value.toList.foldl (fun escaped character =>
    pushEscaped tables character escaped) [])

/-! ## Fields -/

def maxFieldChars : ℕ := 256

def truncationMarker : List Char := ['.', '.', '.']

/-- `String::len` -/
def byteLen (text : List Char) : ℕ := (text.map Char.utf8Size).sum

/-- What stands before and after a byte offset. There is none inside a character, where slicing
and `truncate` panic. -/
def splitAtByte : List Char → ℕ → Option (List Char × List Char)
  | text, 0 => some ([], text)
  | [], _ + 1 => none
  | c :: text, n + 1 =>
    if c.utf8Size ≤ n + 1 then
      (splitAtByte text (n + 1 - c.utf8Size)).map fun halves => (c :: halves.1, halves.2)
    else none

/-- The loop of `escape_field`, which ends early at the limit. -/
def fieldLoop (tables : CharTables) : List Char → List Char → ℕ → Option (List Char)
  | [], escaped, _ => some escaped
  | character :: rest, escaped, rendered => do
    let start := byteLen escaped
    let escaped := pushEscaped tables character escaped
    let (kept, pushed) ← splitAtByte escaped start
    let rendered := rendered + pushed.length
    if maxFieldChars < rendered then return kept ++ truncationMarker
    fieldLoop tables rest escaped rendered

def escapeField (tables : CharTables) (value : String) : Option String :=
  (fieldLoop tables value.toList [] 0).map String.ofList

/-! ## What one character is rendered as -/

section Rendering

variable {tables : CharTables}

def rendering (tables : CharTables) (c : Char) : List Char :=
  if mustEscape c then escapeDebug tables c else [c]

theorem pushEscaped_eq (c : Char) (output : List Char) :
    pushEscaped tables c output = output ++ rendering tables c := by
  unfold pushEscaped rendering
  split <;> rfl

theorem foldl_pushEscaped (value escaped : List Char) :
    value.foldl (fun escaped c => pushEscaped tables c escaped) escaped =
      escaped ++ value.flatMap (rendering tables) := by
  induction value generalizing escaped with
  | nil => rw [List.foldl_nil, List.flatMap_nil, List.append_nil]
  | cons c value ih =>
      rw [List.foldl_cons, ih, pushEscaped_eq, List.flatMap_cons, List.append_assoc]

theorem toList_escapeControl (value : String) :
    (escapeControl tables value).toList = value.toList.flatMap (rendering tables) := by
  unfold escapeControl
  rw [String.toList_ofList, foldl_pushEscaped, List.nil_append]

/-- What follows the backslash of an escape. -/
def escapeBody (c : Char) : List Char :=
  match shortEscapes.lookup c with
  | some letter => [letter]
  | none => 'u' :: '{' :: (Nat.toDigits 16 c.toNat ++ ['}'])

theorem rendering_of_not {c : Char} (h : mustEscape c = false) : rendering tables c = [c] := by
  unfold rendering
  rw [h]
  rfl

theorem rendering_of_mustEscape {c : Char} (h : mustEscape c = true) :
    rendering tables c = '\\' :: escapeBody c := by
  unfold rendering
  rw [if_pos h]
  unfold escapeDebug escapeBody
  cases hshort : shortEscapes.lookup c with
  | some letter => rfl
  | none =>
      have hdangerous : isDangerous c = true := by
        have hne : c ≠ '\\' := by
          rintro rfl
          exact absurd hshort (by decide)
        simpa [mustEscape, hne] using h
      dsimp only
      rw [tables.unprintable c hdangerous]
      simp [escapeUnicode]

theorem mem_shortEscapes {c letter : Char} (h : shortEscapes.lookup c = some letter) :
    (c, letter) ∈ shortEscapes := by
  obtain ⟨front, back, hsplit, -⟩ := List.lookup_eq_some_iff.1 h
  rw [hsplit]
  exact List.mem_append_right _ List.mem_cons_self

theorem hexDigit_harmless {n : ℕ} {c : Char} (hc : c ∈ Nat.toDigits 16 n) :
    isDangerous c = false ∧ c ≠ '}' := by
  have hdigits : ∀ d < 16, isDangerous (Nat.digitChar d) = false ∧ Nat.digitChar d ≠ '}' := by
    decide
  obtain ⟨d, hd, rfl⟩ := mem_toDigits (by decide) hc
  exact hdigits d hd

theorem escapeBody_cancel {a b : Char} {x y : List Char}
    (h : escapeBody a ++ x = escapeBody b ++ y) : a = b ∧ x = y := by
  have hletters : ∀ p ∈ shortEscapes, p.2 ≠ 'u' ∧ ∀ q ∈ shortEscapes, p.2 = q.2 → p.1 = q.1 := by
    decide
  unfold escapeBody at h
  cases ha : shortEscapes.lookup a with
  | some letter =>
      obtain ⟨hu, hunique⟩ := hletters _ (mem_shortEscapes ha)
      cases hb : shortEscapes.lookup b with
      | some other =>
          rw [ha, hb] at h
          obtain ⟨hletter, hrest⟩ := List.cons.inj h
          exact ⟨hunique _ (mem_shortEscapes hb) hletter, hrest⟩
      | none =>
          rw [ha, hb] at h
          exact absurd (List.cons.inj h).1 hu
  | none =>
      cases hb : shortEscapes.lookup b with
      | some other =>
          rw [ha, hb] at h
          exact absurd (List.cons.inj h).1.symm (hletters _ (mem_shortEscapes hb)).1
      | none =>
          rw [ha, hb] at h
          have hdigits :
              Nat.toDigits 16 a.toNat ++ '}' :: x = Nat.toDigits 16 b.toNat ++ '}' :: y := by
            simpa using h
          have hbrace (n : ℕ) : '}' ∉ Nat.toDigits 16 n := by
            intro hmem
            exact (hexDigit_harmless hmem).2 rfl
          obtain ⟨hcode, hrest⟩ := cancel_terminated (hbrace _) (hbrace _) hdigits
          exact ⟨Char.toNat_inj.1 (toDigits_injective (by decide) (by decide) hcode), hrest⟩

theorem rendering_selfDelimiting : SelfDelimiting (rendering tables) where
  ne_nil c := by
    cases h : mustEscape c with
    | true => simp [rendering_of_mustEscape h]
    | false => simp [rendering_of_not h]
  cancel a b x y h := by
    cases ha : mustEscape a with
    | true =>
        rw [rendering_of_mustEscape ha] at h
        cases hb : mustEscape b with
        | true =>
            rw [rendering_of_mustEscape hb] at h
            exact escapeBody_cancel (List.cons.inj h).2
        | false =>
            -- a backslash is never rendered as itself
            rw [rendering_of_not hb] at h
            obtain rfl := (List.cons.inj h).1
            exact absurd hb (by decide)
    | false =>
        rw [rendering_of_not ha] at h
        cases hb : mustEscape b with
        | true =>
            rw [rendering_of_mustEscape hb] at h
            obtain rfl := (List.cons.inj h).1
            exact absurd ha (by decide)
        | false =>
            rw [rendering_of_not hb] at h
            exact List.cons.inj h

theorem rendering_harmless {c d : Char} (hd : d ∈ rendering tables c) : isDangerous d = false := by
  have hletters : ∀ p ∈ shortEscapes, isDangerous p.2 = false := by decide
  have hsigns : ∀ sign ∈ ['\\', 'u', '{', '}'], isDangerous sign = false := by
    simp [isDangerous, isControl, isBidi]
  cases h : mustEscape c with
  | false =>
      rw [rendering_of_not h] at hd
      obtain rfl := List.mem_singleton.1 hd
      exact (Bool.or_eq_false_iff.1 h).1
  | true =>
      rw [rendering_of_mustEscape h, escapeBody] at hd
      cases hshort : shortEscapes.lookup c with
      | some letter =>
          rw [hshort] at hd
          rcases List.mem_pair.1 hd with rfl | rfl
          · exact hsigns _ (by simp)
          · exact hletters _ (mem_shortEscapes hshort)
      | none =>
          rw [hshort] at hd
          by_cases hdigit : d ∈ Nat.toDigits 16 c.toNat
          · exact (hexDigit_harmless hdigit).1
          · exact hsigns d (by simpa [hdigit] using hd)

end Rendering

/-- Escaped text is harmless, text that is harmless already and has no backslash stays as it is,
and no two texts are escaped alike. -/
theorem escape_control_safe_injective (tables : CharTables) :
    (∀ value, ∀ c ∈ (escapeControl tables value).toList, isDangerous c = false) ∧
      (∀ value : String, (∀ c ∈ value.toList, isDangerous c = false ∧ c ≠ '\\') →
        escapeControl tables value = value) ∧
      Function.Injective (escapeControl tables) := by
  refine ⟨fun value d hd => ?_, fun value hplain => ?_, fun a b h => ?_⟩
  · rw [toList_escapeControl] at hd
    obtain ⟨c, -, hd⟩ := List.mem_flatMap.1 hd
    exact rendering_harmless hd
  · apply String.toList_injective
    rw [toList_escapeControl]
    have hself : ∀ c ∈ value.toList, rendering tables c = [c] := by
      intro c hc
      obtain ⟨hharmless, hne⟩ := hplain c hc
      exact rendering_of_not (by simp [mustEscape, hharmless, hne])
    rw [List.flatMap_congr hself, List.flatMap_singleton']
  · apply String.toList_injective
    have hinjective : Function.Injective fun cs : List Char => cs.flatMap (rendering tables) :=
      rendering_selfDelimiting.flatMap_injective
    apply hinjective
    simpa only [toList_escapeControl] using congrArg String.toList h

/-- An escape sequence is told from the text that spells its escape out. -/
theorem escape_control_safe_injective_escape :
    (∀ c ∈ (escapeControl .ascii "lamp\x1b[2J").toList, isDangerous c = false) ∧
      escapeControl .ascii "lamp" = "lamp" ∧
      escapeControl .ascii "lamp\x1b[2J" ≠ escapeControl .ascii "lamp\\u\x7b1b\x7d[2J" := by
  obtain ⟨hsafe, hplain, hinjective⟩ := escape_control_safe_injective .ascii
  have hletters : "lamp".toList.all (fun c => isDangerous c == false && c != '\\') = true := by
    decide
  refine ⟨hsafe _, hplain _ fun c hc => ?_, hinjective.ne (by decide)⟩
  simpa using List.all_eq_true.1 hletters c hc

/-! ## Where a field is cut -/

section Cut

variable {tables : CharTables} {value kept rest : List Char} {c : Char}

theorem splitAtByte_byteLen (front back : List Char) :
    splitAtByte (front ++ back) (byteLen front) = some (front, back) := by
  induction front with
  | nil => exact splitAtByte.eq_1 back
  | cons c front ih =>
      have hsize : 0 < c.utf8Size := c.utf8Size_pos
      obtain ⟨n, hn⟩ := Nat.exists_eq_succ_of_ne_zero (n := c.utf8Size + byteLen front) (by omega)
      have hlength : byteLen (c :: front) = n + 1 := by simpa [byteLen] using hn
      have hrest : n + 1 - c.utf8Size = byteLen front := by omega
      rw [hlength, List.cons_append, splitAtByte, if_pos (by omega), hrest, ih]
      rfl

def rendered (tables : CharTables) (value : List Char) : ℕ :=
  (value.flatMap (rendering tables)).length

theorem rendered_append (front back : List Char) :
    rendered tables (front ++ back) = rendered tables front + rendered tables back := by
  unfold rendered
  rw [List.flatMap_append, List.length_append]

theorem rendered_mono {front : List Char} (h : front <+: value) :
    rendered tables front ≤ rendered tables value := by
  obtain ⟨back, rfl⟩ := h
  rw [rendered_append]
  exact Nat.le_add_right _ _

/-- The marker is rendered as itself. -/
theorem flatMap_append_marker (kept : List Char) :
    (kept ++ truncationMarker).flatMap (rendering tables) =
      kept.flatMap (rendering tables) ++ truncationMarker := by
  have hdots : ∀ c ∈ truncationMarker, rendering tables c = [c] := by
    intro c hc
    have hdot : c = '.' := by simpa [truncationMarker] using hc
    rw [hdot]
    exact rendering_of_not (by decide)
  rw [List.flatMap_append, List.flatMap_congr hdots, List.flatMap_singleton']

structure Cut (tables : CharTables) (value kept : List Char) (c : Char) (rest : List Char) :
    Prop where
  whole : value = kept ++ c :: rest
  fits : rendered tables kept ≤ maxFieldChars
  exceeds : maxFieldChars < rendered tables (kept ++ [c])

theorem Cut.begins (h : Cut tables value kept c rest) : kept ++ [c] <+: value :=
  ⟨rest, by rw [h.whole, List.append_assoc, List.singleton_append]⟩

/-- What is kept is the longest prefix that fits. -/
theorem Cut.longest {front : List Char} (h : Cut tables value kept c rest)
    (hfront : front <+: value) (hfits : rendered tables front ≤ maxFieldChars) :
    front <+: kept := by
  rcases List.prefix_or_prefix_of_prefix hfront h.begins with hshort | hlong
  · rcases List.prefix_concat_iff.1 hshort with rfl | hbegins
    · exact absurd hfits (Nat.not_le.2 h.exceeds)
    · exact hbegins
  · exact absurd ((rendered_mono hlong).trans hfits) (Nat.not_le.2 h.exceeds)

theorem Cut.unique {kept' rest' : List Char} {c' : Char} (h : Cut tables value kept c rest)
    (h' : Cut tables value kept' c' rest') : kept = kept' := by
  have hbegins : kept <+: value := (List.prefix_append kept [c]).trans h.begins
  have hbegins' : kept' <+: value := (List.prefix_append kept' [c']).trans h'.begins
  have hshort := h'.longest hbegins h.fits
  exact hshort.eq_of_length_le (h.longest hbegins' h'.fits).length_le

theorem Cut.tooLong (h : Cut tables value kept c rest) : maxFieldChars < rendered tables value :=
  h.exceeds.trans_le (rendered_mono h.begins)

theorem fieldLoop_cons (front : List Char) :
    fieldLoop tables (c :: rest) (front.flatMap (rendering tables)) (rendered tables front) =
      if maxFieldChars < rendered tables (front ++ [c]) then
        some (front.flatMap (rendering tables) ++ truncationMarker)
      else fieldLoop tables rest ((front ++ [c]).flatMap (rendering tables))
        (rendered tables (front ++ [c])) := by
  have hpushed : front.flatMap (rendering tables) ++ rendering tables c =
      (front ++ [c]).flatMap (rendering tables) := by simp
  have hlength : rendered tables front + (rendering tables c).length =
      rendered tables (front ++ [c]) := by simp [rendered]
  rw [fieldLoop, pushEscaped_eq, splitAtByte_byteLen]
  change (if maxFieldChars < rendered tables front + (rendering tables c).length then _ else _) = _
  rw [hlength, hpushed]
  rfl

theorem fieldLoop_eq (rest front : List Char) (hfront : rendered tables front ≤ maxFieldChars) :
    (rendered tables (front ++ rest) ≤ maxFieldChars ∧
      fieldLoop tables rest (front.flatMap (rendering tables)) (rendered tables front) =
        some ((front ++ rest).flatMap (rendering tables))) ∨
    ∃ kept c back, Cut tables (front ++ rest) kept c back ∧
      fieldLoop tables rest (front.flatMap (rendering tables)) (rendered tables front) =
        some (kept.flatMap (rendering tables) ++ truncationMarker) := by
  induction rest generalizing front with
  | nil =>
      rw [List.append_nil]
      exact .inl ⟨hfront, rfl⟩
  | cons c rest ih =>
      rw [fieldLoop_cons]
      by_cases hfits : maxFieldChars < rendered tables (front ++ [c])
      · rw [if_pos hfits]
        exact .inr ⟨front, c, rest, ⟨rfl, hfront, hfits⟩, rfl⟩
      · rw [if_neg hfits]
        have hnext := ih (front ++ [c]) (Nat.not_lt.1 hfits)
        rwa [List.append_assoc, List.singleton_append] at hnext

end Cut

section Field

variable {tables : CharTables} {value : String}

theorem length_escapeControl :
    (escapeControl tables value).length = rendered tables value.toList := by
  rw [← String.length_toList, toList_escapeControl]
  rfl

theorem escapeField_eq (tables : CharTables) (value : String) :
    (rendered tables value.toList ≤ maxFieldChars ∧
      escapeField tables value = some (escapeControl tables value)) ∨
    ∃ kept c rest, Cut tables value.toList kept c rest ∧ escapeField tables value =
      some (escapeControl tables (String.ofList kept) ++ String.ofList truncationMarker) := by
  have hstart : rendered tables [] ≤ maxFieldChars := Nat.zero_le _
  rcases fieldLoop_eq value.toList [] hstart with ⟨hfits, hloop⟩ | ⟨kept, c, rest, hcut, hloop⟩
  · refine .inl ⟨hfits, ?_⟩
    change (fieldLoop tables value.toList [] 0).map String.ofList = _
    change fieldLoop tables value.toList [] 0 = _ at hloop
    rw [hloop]
    refine congrArg some (String.toList_injective ?_)
    rw [String.toList_ofList, toList_escapeControl]
    rfl
  · refine .inr ⟨kept, c, rest, hcut, ?_⟩
    change (fieldLoop tables value.toList [] 0).map String.ofList = _
    change fieldLoop tables value.toList [] 0 = _ at hloop
    rw [hloop]
    refine congrArg some (String.toList_injective ?_)
    rw [String.toList_ofList, String.toList_append, toList_escapeControl, String.toList_ofList,
      String.toList_ofList]

/-- The longest prefix of a value that fits when escaped. -/
structure Fitting (tables : CharTables) (value kept : String) : Prop where
  isPrefix : kept.toList <+: value.toList
  fits : (escapeControl tables kept).length ≤ maxFieldChars
  longest : ∀ other : String, other.toList <+: value.toList →
    (escapeControl tables other).length ≤ maxFieldChars → other.toList <+: kept.toList

theorem Cut.fitting {kept rest : List Char} {c : Char}
    (h : Cut tables value.toList kept c rest) : Fitting tables value (String.ofList kept) where
  isPrefix := by
    rw [String.toList_ofList]
    exact (List.prefix_append kept [c]).trans h.begins
  fits := by
    rw [length_escapeControl, String.toList_ofList]
    exact h.fits
  longest other hbegins hfits := by
    rw [length_escapeControl] at hfits
    rw [String.toList_ofList]
    exact h.longest hbegins hfits

theorem Cut.field_eq {kept rest : List Char} {c : Char}
    (h : Cut tables value.toList kept c rest) : escapeField tables value =
      some (escapeControl tables (String.ofList kept) ++ String.ofList truncationMarker) := by
  rcases escapeField_eq tables value with ⟨hfits, -⟩ | ⟨kept', _, _, hcut, hfield⟩
  · exact absurd hfits (Nat.not_le.2 h.tooLong)
  · rw [hfield, hcut.unique h]

theorem escapeField_of_fits (h : rendered tables value.toList ≤ maxFieldChars) :
    escapeField tables value = some (escapeControl tables value) := by
  rcases escapeField_eq tables value with ⟨-, hfield⟩ | ⟨_, _, _, hcut, -⟩
  · exact hfield
  · exact absurd hcut.tooLong (Nat.not_lt.2 h)

/-- A cut field reads like a full one exactly if that has the marker in its own text. -/
theorem escapeField_alike {a b : String} {kept rest : List Char} {c : Char}
    (ha : Cut tables a.toList kept c rest) (hb : rendered tables b.toList ≤ maxFieldChars) :
    escapeField tables a = escapeField tables b ↔ b.toList = kept ++ truncationMarker := by
  rw [ha.field_eq, escapeField_of_fits hb, Option.some_inj, ← String.toList_inj,
    String.toList_append, toList_escapeControl, toList_escapeControl, String.toList_ofList,
    String.toList_ofList, ← flatMap_append_marker]
  exact ⟨fun h => (rendering_selfDelimiting.flatMap_injective h).symm, fun h => by rw [h]⟩

end Field

/-- A value that fits is escaped, and of a longer one the longest prefix that fits, with the
marker. -/
theorem escape_field_shape (tables : CharTables) (value : String) :
    ((escapeControl tables value).length ≤ maxFieldChars →
      escapeField tables value = some (escapeControl tables value)) ∧
    (maxFieldChars < (escapeControl tables value).length → ∃ kept, Fitting tables value kept ∧
      escapeField tables value =
        some (escapeControl tables kept ++ String.ofList truncationMarker)) ∧
    ∃ field, escapeField tables value = some field ∧
      field.length ≤ maxFieldChars + truncationMarker.length := by
  rw [length_escapeControl]
  rcases escapeField_eq tables value with ⟨hfits, hfield⟩ | ⟨kept, c, rest, hcut, hfield⟩
  · refine ⟨fun _ => hfield, fun hlong => absurd hfits (Nat.not_le.2 hlong), _, hfield, ?_⟩
    rw [length_escapeControl]
    exact hfits.trans (Nat.le_add_right _ _)
  · refine ⟨fun hfits => absurd hcut.tooLong (Nat.not_lt.2 hfits),
      fun _ => ⟨_, hcut.fitting, hfield⟩, _, hfield, ?_⟩
    rw [String.length_append, String.length_ofList]
    exact Nat.add_le_add_right hcut.fitting.fits _

theorem rendered_letters (tables : CharTables) (n : ℕ) :
    rendered tables (List.replicate n 'A') = n := by
  have hletters : ∀ c ∈ List.replicate n 'A', rendering tables c = [c] := by
    intro c hc
    obtain rfl := List.eq_of_mem_replicate hc
    exact rendering_of_not (by decide)
  rw [rendered, List.flatMap_congr hletters, List.flatMap_singleton', List.length_replicate]

/-- Three hundred letters are cut. -/
theorem escape_field_shape_letters :
    (∃ kept, Fitting .ascii (String.ofList (List.replicate 300 'A')) kept ∧
      escapeField .ascii (String.ofList (List.replicate 300 'A')) =
        some (escapeControl .ascii kept ++ String.ofList truncationMarker)) ∧
    ∃ field, escapeField .ascii (String.ofList (List.replicate 300 'A')) = some field ∧
      field.length ≤ maxFieldChars + truncationMarker.length := by
  obtain ⟨-, hcut, hfield⟩ := escape_field_shape .ascii (String.ofList (List.replicate 300 'A'))
  refine ⟨hcut ?_, hfield⟩
  rw [length_escapeControl, String.toList_ofList, rendered_letters]
  decide

/-- A shortened value is rendered unlike a value in full, unless the latter is what is kept of the
former with the marker in its own text: the escape after it has to be longer than the marker. -/
theorem escape_field_differs_iff (tables : CharTables) {a b : String}
    (ha : maxFieldChars < (escapeControl tables a).length)
    (hb : (escapeControl tables b).length ≤ maxFieldChars) :
    escapeField tables a ≠ escapeField tables b ↔
      ∀ kept c rest, a.toList = kept ++ c :: rest → b.toList = kept ++ truncationMarker →
        (escapeControl tables (String.ofList (kept ++ [c]))).length ≤ maxFieldChars := by
  rw [length_escapeControl] at ha hb
  rcases escapeField_eq tables a with ⟨hfits, -⟩ | ⟨kept, c, rest, hcut, -⟩
  · exact absurd hfits (Nat.not_le.2 ha)
  rw [ne_eq, escapeField_alike hcut hb]
  constructor
  · intro hdiffers kept' c' rest' hwhole hmarked
    rw [length_escapeControl, String.toList_ofList]
    by_contra hexceeds
    have hfits' : rendered tables kept' ≤ maxFieldChars := by
      refine (rendered_mono ?_).trans hb
      rw [hmarked]
      exact List.prefix_append _ _
    have hcut' : Cut tables a.toList kept' c' rest' := ⟨hwhole, hfits', Nat.not_le.1 hexceeds⟩
    rw [hcut'.unique hcut] at hmarked
    exact hdiffers hmarked
  · intro hfits hmarked
    have hshort := hfits kept c rest hcut.whole hmarked
    rw [length_escapeControl, String.toList_ofList] at hshort
    exact absurd hshort (Nat.not_le.2 hcut.exceeds)

/-! ## A value that ends like a shortened one -/

example : escapeField .ascii (String.ofList ['a', Char.ofNat 0x1B, '\n', '\\']) =
    some "a\\u\x7b1b\x7d\\n\\\\" := by decide +kernel

/-- An override after 250 letters does not fit, and the other value has three dots there. -/
theorem escape_field_ambiguous :
    ¬∀ (tables : CharTables) (a b : String), maxFieldChars < (escapeControl tables a).length →
      (escapeControl tables b).length ≤ maxFieldChars →
      escapeField tables a ≠ escapeField tables b := by
  intro hclaim
  have hoverride : rendered .ascii [Char.ofNat 0x202E] = 8 := by decide
  have hdots : rendered .ascii truncationMarker = 3 := by decide
  obtain ⟨letters, hletters⟩ : ∃ letters, rendered .ascii letters = 250 :=
    ⟨_, rendered_letters _ 250⟩
  have hcut : Cut .ascii (letters ++ [Char.ofNat 0x202E]) letters (Char.ofNat 0x202E) [] := by
    refine ⟨rfl, ?_, ?_⟩
    · rw [hletters]
      decide
    · rw [rendered_append, hletters, hoverride]
      decide
  have hfull : rendered .ascii (letters ++ truncationMarker) ≤ maxFieldChars := by
    rw [rendered_append, hletters, hdots]
    decide
  have ha := hcut.tooLong
  rw [← String.toList_ofList (l := letters ++ [Char.ofNat 0x202E])] at ha hcut
  rw [← String.toList_ofList (l := letters ++ truncationMarker)] at hfull
  refine hclaim .ascii _ _ ?_ ?_ ((escapeField_alike hcut hfull).2 String.toList_ofList)
  · rwa [length_escapeControl]
  · rwa [length_escapeControl]

/-- With one more letter in place of the override the cut is too late for that. -/
theorem escape_field_differs_letters : ∃ a b,
    maxFieldChars < (escapeControl .ascii a).length ∧
      (escapeControl .ascii b).length ≤ maxFieldChars ∧
      b.toList = List.replicate 253 'A' ++ truncationMarker ∧
      escapeField .ascii a ≠ escapeField .ascii b := by
  have hdots : rendered .ascii truncationMarker = 3 := by decide
  have ha : maxFieldChars <
      (escapeControl .ascii (String.ofList (List.replicate 257 'A'))).length := by
    rw [length_escapeControl, String.toList_ofList, rendered_letters]
    decide
  have hb : (escapeControl .ascii
      (String.ofList (List.replicate 253 'A' ++ truncationMarker))).length ≤ maxFieldChars := by
    rw [length_escapeControl, String.toList_ofList, rendered_append, rendered_letters, hdots]
    decide
  refine ⟨_, _, ha, hb, String.toList_ofList, ?_⟩
  refine (escape_field_differs_iff .ascii ha hb).2 fun kept c rest hwhole hmarked => ?_
  rw [String.toList_ofList] at hwhole hmarked
  rw [length_escapeControl, String.toList_ofList]
  have hkept := List.append_cancel_right hmarked
  have hletters : kept ++ [c] <+: List.replicate 257 'A' :=
    ⟨rest, by rw [hwhole, List.append_assoc, List.singleton_append]⟩
  obtain ⟨-, hshort⟩ := List.prefix_replicate_iff.1 hletters
  rw [hshort, rendered_letters, List.length_append, ← hkept, List.length_replicate,
    List.length_singleton]
  decide

end GhafDeviceManager
