import Mathlib.Data.List.DropRight

/-!
# Operations on text

The string operations of the Rust standard library that programs reach for, on
`String` and by way of its characters.

## Main definitions

* `Text.isWhitespace`, `Text.trim` — the Unicode `White_Space` property.
* `Text.eqIgnoreAsciiCase` — equality up to the case of ASCII letters.
* `Text.splitOnce`, `Text.stripPrefix`, `Text.stripSuffix`, `Text.trimEndMatches` — parts
  of a text.
* `Text.contains` — a text within another.
-/

namespace Marty.Lib.Text

/-- The Unicode property `White_Space`. -/
def isWhitespace (c : Char) : Bool :=
  let n := c.toNat
  (9 ≤ n && n ≤ 13) || n == 0x20 || n == 0x85 || n == 0xA0 || n == 0x1680 ||
    (0x2000 ≤ n && n ≤ 0x200A) || n == 0x2028 || n == 0x2029 || n == 0x202F || n == 0x205F ||
    n == 0x3000

def trim (s : String) : String :=
  String.ofList ((s.toList.dropWhile isWhitespace).rdropWhile isWhitespace)

/-- A text without white space is trimmed. -/
theorem trim_eq_self {s : String} (h : ∀ c ∈ s.toList, isWhitespace c = false) : trim s = s := by
  have hstart : s.toList.dropWhile isWhitespace = s.toList := by
    cases hs : s.toList with
    | nil => rfl
    | cons c cs => simp [h c (by simp [hs])]
  have hend : s.toList.rdropWhile isWhitespace = s.toList := by
    rw [List.rdropWhile_eq_self_iff]
    intro hne
    simp [h _ (List.getLast_mem hne)]
  rw [trim, hstart, hend, String.ofList_toList]

def asciiLower (c : Char) : Char :=
  if 65 ≤ c.toNat ∧ c.toNat ≤ 90 then Char.ofNat (c.toNat + 32) else c

def toAsciiLowercase (s : String) : String := String.ofList (s.toList.map asciiLower)

def eqIgnoreAsciiCase (s t : String) : Bool :=
  s.toList.map asciiLower == t.toList.map asciiLower

def startsWith (s pre : String) : Bool := pre.toList.isPrefixOf s.toList

/-- Remove every trailing `c`. -/
def trimEndMatches (s : String) (c : Char) : String := String.ofList (s.toList.rdropWhile (· == c))

def stripSuffix (s suffix : String) : Option String :=
  if suffix.toList.isSuffixOf s.toList then
    some (String.ofList (s.toList.take (s.toList.length - suffix.toList.length)))
  else none

def stripPrefix (s pre : String) : Option String :=
  if startsWith s pre then some (String.ofList (s.toList.drop pre.toList.length)) else none

def containsChars (pattern : List Char) : List Char → Bool
  | [] => pattern.isEmpty
  | c :: cs => pattern.isPrefixOf (c :: cs) || containsChars pattern cs

/-- `pattern` occurs somewhere in `s`; a longer pattern is not searched for. -/
def contains (s pattern : String) : Bool :=
  pattern.utf8ByteSize ≤ s.utf8ByteSize && containsChars pattern.toList s.toList

/-- The parts before and after the first occurrence of `sep` in `s`. -/
def splitOnceChars (sep : List Char) : List Char → Option (List Char × List Char)
  | [] => if sep = [] then some ([], []) else none
  | c :: cs =>
      if sep.isPrefixOf (c :: cs) then some ([], (c :: cs).drop sep.length)
      else (splitOnceChars sep cs).map fun p => (c :: p.1, p.2)

def splitOnce (s sep : String) : Option (String × String) :=
  (splitOnceChars sep.toList s.toList).map fun p => (String.ofList p.1, String.ofList p.2)

end Marty.Lib.Text
