import Marty.Lib.Text
import Mathlib.Data.List.Basic

/-!
# Texts of UUIDs

## Main definitions

* `Uuid.isCanonical` — the text that a UUID is written as.
* `Uuid.parses` — the texts that are read as one.
-/

namespace Marty.Lib.Uuid

def isDigit (c : Char) : Bool := 48 ≤ c.toNat && c.toNat ≤ 57

def isLowerHex (c : Char) : Bool := isDigit c || (97 ≤ c.toNat && c.toNat ≤ 102)

/-- A hexadecimal digit, in either case. -/
def isHex (c : Char) : Bool := isLowerHex c || (65 ≤ c.toNat && c.toNat ≤ 70)

/-- Digits in groups of eight, four, four, four and twelve. -/
def isHyphenated (digit : Char → Bool) (text : List Char) : Bool :=
  text.length == 36 && text.zipIdx.all fun c =>
    if c.2 ∈ [8, 13, 18, 23] then c.1 == '-' else digit c.1

def isCanonical (text : String) : Bool := isHyphenated isLowerHex text.toList

def parsesChars (text : List Char) : Bool :=
  (text.length == 32 && text.all isHex) || isHyphenated isHex text ||
    (text.length == 38 && text.head? == some '\x7b' && text.getLast? == some '\x7d' &&
      isHyphenated isHex (text.drop 1).dropLast) ||
    ("urn:uuid:".toList.isPrefixOf text && isHyphenated isHex (text.drop 9))

def parses (text : String) : Bool := parsesChars text.toList

theorem isHyphenated_mem {digit : Char → Bool} {text : List Char} (h : isHyphenated digit text)
    {c : Char} (hc : c ∈ text) : c = '-' ∨ digit c := by
  rw [isHyphenated, Bool.and_eq_true, List.all_eq_true] at h
  obtain ⟨i, hi, rfl⟩ := List.getElem_of_mem hc
  have hall := h.2 (text[i], i) (by rw [List.mem_zipIdx_iff_getElem?]; simp)
  dsimp only at hall
  split at hall
  · exact .inl (beq_iff_eq.mp hall)
  · exact .inr hall

theorem isHex_of_isLowerHex {c : Char} (h : isLowerHex c = true) : isHex c = true := by
  simp [isHex, h]

/-- The text that a UUID is written as is read as one. -/
theorem parses_of_isCanonical {text : String} (h : isCanonical text) : parses text := by
  have hhyphenated : isHyphenated isHex text.toList = true := by
    simp only [isCanonical, isHyphenated, Bool.and_eq_true, List.all_eq_true] at h ⊢
    refine ⟨h.1, fun c hc => ?_⟩
    have hdigit := h.2 c hc
    split
    · simpa [*] using hdigit
    · rename_i hplace
      rw [if_neg hplace] at hdigit
      exact isHex_of_isLowerHex hdigit
  simp [parses, parsesChars, hhyphenated]

/-- A UUID is written without a colon. -/
theorem colon_not_mem {text : String} (h : isCanonical text) : ':' ∉ text.toList := by
  intro hmem
  rcases isHyphenated_mem h hmem with heq | hdigit
  · exact absurd heq (by decide)
  · exact absurd hdigit (by decide)

/-- A UUID is written without white space. -/
theorem trim_of_isCanonical {text : String} (h : isCanonical text) : Text.trim text = text := by
  apply Text.trim_eq_self
  intro c hc
  rcases isHyphenated_mem h hc with rfl | hdigit
  · decide
  · simp only [isLowerHex, isDigit, Bool.or_eq_true, Bool.and_eq_true, decide_eq_true_eq] at hdigit
    simp only [Text.isWhitespace, Bool.or_eq_false_iff, Bool.and_eq_false_iff,
      decide_eq_false_iff_not, beq_eq_false_iff_ne]
    omega

end Marty.Lib.Uuid
