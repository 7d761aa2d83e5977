import Mathlib.Tactic

/-!
# Text handling as the standard library does it

Prefix tests, ASCII case folding, unsigned parsing and padded formatting, all on the character
list of a string so that they compute.
-/

namespace GhafDeviceManager

namespace Text

def startsWith (text start : String) : Bool := start.toList.isPrefixOf text.toList

def contains (text : String) (c : Char) : Bool := text.toList.contains c

def eqIgnoreAsciiCase (a b : String) : Bool :=
  a.toList.map Char.toLower == b.toList.map Char.toLower

/-- `str::to_uppercase` on ASCII: the kernel's ids are four hexadecimal digits. -/
def toUppercase (text : String) : String := String.ofList (text.toList.map Char.toUpper)

def digit (radix : ℕ) (c : Char) : Option ℕ :=
  let value :=
    if '0' ≤ c ∧ c ≤ '9' then some (c.toNat - '0'.toNat)
    else if 'a' ≤ c ∧ c ≤ 'f' then some (c.toNat - 'a'.toNat + 10)
    else if 'A' ≤ c ∧ c ≤ 'F' then some (c.toNat - 'A'.toNat + 10)
    else none
  value.filter (· < radix)

def digits (radix : ℕ) (cs : List Char) : Option ℕ :=
  cs.foldlM (fun acc c => (digit radix c).map (acc * radix + ·)) 0

/-- `from_str_radix` of an unsigned type: one optional plus sign, at least one digit, and no
value past `bound`. -/
def fromStrRadix (radix bound : ℕ) (text : String) : Option ℕ :=
  let body := match text.toList with
    | '+' :: rest => rest
    | cs => cs
  if body.isEmpty then none else (digits radix body).filter (· ≤ bound)

def maxU8 : ℕ := 2 ^ 8 - 1

def maxU32 : ℕ := 2 ^ 32 - 1

/-- `trim_start_matches("0x")` -/
def trimHexPrefix : List Char → List Char
  | '0' :: 'x' :: rest => trimHexPrefix rest
  | cs => cs

/-- The hexadecimal reading used for sysfs attributes and selectors. -/
def hexU32 (text : String) : Option ℕ :=
  fromStrRadix 16 maxU32 (String.ofList (trimHexPrefix text.toList))

def padLeft (width : ℕ) (cs : List Char) : List Char :=
  List.replicate (width - cs.length) '0' ++ cs

/-- `{value:03}` and its like -/
def decimal (width value : ℕ) : String := String.ofList (padLeft width (Nat.toDigits 10 value))

/-- `{value:02x}` and its like -/
def hexLower (width value : ℕ) : String := String.ofList (padLeft width (Nat.toDigits 16 value))

/-- `{value:02X}` and its like -/
def hexUpper (width value : ℕ) : String := toUppercase (hexLower width value)

/-- The last component of a path. -/
def fileName (path : String) : String :=
  String.ofList (path.toList.reverse.takeWhile (· ≠ '/')).reverse

/-- What stands before and after the first `c`. -/
def splitOnce (c : Char) (text : String) : Option (String × String) :=
  let cs := text.toList
  if cs.contains c then
    some (String.ofList (cs.takeWhile (· ≠ c)), String.ofList (cs.dropWhile (· ≠ c)).tail)
  else none

/-- What stands before and after the last `c`. -/
def rsplitOnce (c : Char) (text : String) : Option (String × String) :=
  (splitOnce c (String.ofList text.toList.reverse)).map fun (after, before) =>
    (String.ofList before.toList.reverse, String.ofList after.toList.reverse)

end Text

/-- Byte order on names, the order `sort` gives them. -/
def sortNames (names : List String) : List String := names.insertionSort (· ≤ ·)

theorem mem_sortNames {names : List String} {name : String} :
    name ∈ sortNames names ↔ name ∈ names := List.mem_insertionSort _

example : Text.fromStrRadix 10 Text.maxU8 "+007" = some 7 ∧
    Text.fromStrRadix 10 Text.maxU8 "256" = none ∧ Text.hexU32 "0x04b3" = some 0x4b3 := by decide

end GhafDeviceManager
