import Marty.Lib.Hex
import Mathlib.Tactic.Ring

/-!
# Python string literals

What a short string literal of Python denotes, for a source line without a prefix in front of
the quote: the escapes, the characters that stand for themselves, and the ones that no source
has.  Names of characters (`\N{...}`) are not known here, so a literal with one has no reading.

## Main definitions

* `readEscape`, `readBody` — an escape, and what goes on up to the closing quote.
* `readLiteral` — a whole literal.

## Main statements

* `readHex_fixedHex` — fixed digits are read as their number.
* `readBody_cons`, `readBody_escape` — the first character is one of the text, or an escape.
-/

namespace Marty.ResponseText

open Marty.Lib Marty.Lib.Json

/-! ## Digits -/

def hexValue (point : Nat) : Option Nat :=
  if 48 ≤ point ∧ point ≤ 57 then some (point - 48)
  else if 97 ≤ point ∧ point ≤ 102 then some (point - 87)
  else if 65 ≤ point ∧ point ≤ 70 then some (point - 55)
  else none

/-- As many hexadecimal digits as are asked for, after those that make up `value`. -/
def readHex : Nat → Nat → List Nat → Option (Nat × List Nat)
  | 0, value, input => some (value, input)
  | _ + 1, _, [] => none
  | w + 1, value, point :: input =>
      match hexValue point with
      | some digit => readHex w (16 * value + digit) input
      | none => none

/-- Octal digits, no more than are asked for. -/
def readOctal : Nat → Nat → List Nat → Nat × List Nat
  | w + 1, value, point :: input =>
      if 48 ≤ point ∧ point ≤ 55 then readOctal w (8 * value + (point - 48)) input
      else (value, point :: input)
  | _, value, input => (value, input)

theorem hexValue_hexDigit {d : Nat} (h : d < 16) : hexValue (hexDigit d).toNat = some d := by
  have hall : ∀ d < 16, hexValue (hexDigit d).toNat = some d := by decide
  exact hall d h

theorem readHex_fixedHex (w k value n : Nat) (rest : List Nat) (h : n < 16 ^ w) :
    readHex (w + k) value ((fixedHex w n).map Char.toNat ++ rest) =
      readHex k (16 ^ w * value + n) rest := by
  induction w generalizing n k rest with
  | zero =>
      have hn : n = 0 := by omega
      simp [fixedHex, hn]
  | succ w ih =>
      have hdiv : n / 16 < 16 ^ w := by
        rw [Nat.div_lt_iff_lt_mul (by decide), ← Nat.pow_succ]
        exact h
      have hdigit : n % 16 < 16 := Nat.mod_lt n (by decide)
      have hvalue : 16 * (16 ^ w * value + n / 16) + n % 16 = 16 ^ (w + 1) * value + n := by
        rw [Nat.mul_add, Nat.add_assoc, Nat.div_add_mod, Nat.pow_succ]
        ring
      rw [fixedHex, List.map_append, List.append_assoc, Nat.add_right_comm w 1 k, Nat.add_assoc,
        ih (k + 1) (n / 16) _ hdiv, List.map_singleton, List.singleton_append, readHex,
        hexValue_hexDigit hdigit]
      exact congrArg (readHex k · rest) hvalue

theorem readHex_length {w value n : Nat} {input rest : List Nat}
    (h : readHex w value input = some (n, rest)) : rest.length ≤ input.length := by
  induction w generalizing value input with
  | zero =>
      cases h
      exact le_rfl
  | succ w ih =>
      cases input with
      | nil => cases h
      | cons point input =>
          rw [readHex] at h
          split at h
          · exact (ih h).trans (Nat.le_succ _)
          · cases h

theorem readOctal_length (w value : Nat) (input : List Nat) :
    (readOctal w value input).2.length ≤ input.length := by
  induction w generalizing value input with
  | zero => simp [readOctal]
  | succ w ih =>
      cases input with
      | nil => simp [readOctal]
      | cons point input =>
          rw [readOctal]
          split
          · exact (ih _ input).trans (Nat.le_succ _)
          · exact le_rfl

/-! ## Escapes -/

/-- A source is encoded as UTF-8 and holds no null. -/
def InSource (point : Nat) : Prop :=
  point ≠ 0 ∧ ¬ (0xd800 ≤ point ∧ point ≤ 0xdfff) ∧ point < 0x110000

instance (point : Nat) : Decidable (InSource point) := inferInstanceAs (Decidable (_ ∧ _))

/-- The escapes of one character, with what they stand for. -/
def simpleEscapes : List (Nat × Nat) :=
  [(92, 92), (39, 39), (34, 34), (97, 7), (98, 8), (102, 12), (110, 10), (114, 13), (116, 9),
    (118, 11)]

/-- What follows a backslash: the points that it stands for, and what is left. -/
def readEscape : List Nat → Option (List Nat × List Nat)
  | [] => none
  | point :: input =>
      match simpleEscapes.lookup point with
      | some denoted => some ([denoted], input)
      | none =>
          -- a line that goes on after the backslash
          if point = 10 then some ([], input)
          else if point = 13 ∨ point = 78 ∨ ¬ InSource point then none
          else if point = 120 then (readHex 2 0 input).map fun read => ([read.1], read.2)
          else if point = 117 then (readHex 4 0 input).map fun read => ([read.1], read.2)
          else if point = 85 then
            match readHex 8 0 input with
            | some (value, rest) => if value ≤ 0x10ffff then some ([value], rest) else none
            | none => none
          else if 48 ≤ point ∧ point ≤ 55 then
            some ([(readOctal 3 0 (point :: input)).1], (readOctal 3 0 (point :: input)).2)
          -- an escape that is not known stays as it is
          else some ([92, point], input)

theorem readEscape_length {input points rest : List Nat}
    (h : readEscape input = some (points, rest)) : rest.length ≤ input.length := by
  have hread : ∀ {w : Nat} {input : List Nat},
      (readHex w 0 input).map (fun read => ([read.1], read.2)) = some (points, rest) →
      rest.length ≤ input.length := by
    intro w input h
    obtain ⟨⟨n, rest'⟩, hn, heq⟩ := Option.map_eq_some_iff.mp h
    cases heq
    exact readHex_length hn
  cases input with
  | nil => cases h
  | cons point input =>
      rw [readEscape] at h
      split at h
      · cases h
        exact Nat.le_succ _
      split at h
      · cases h
        exact Nat.le_succ _
      split at h
      · cases h
      split at h
      · exact (hread h).trans (Nat.le_succ _)
      split at h
      · exact (hread h).trans (Nat.le_succ _)
      split at h
      · split at h
        · next hvalue =>
            split at h
            · cases h
              exact (readHex_length hvalue).trans (Nat.le_succ _)
            · cases h
        · cases h
      split at h
      · cases h
        exact readOctal_length 3 0 (point :: input)
      · cases h
        exact Nat.le_succ _

/-! ## Literals -/

/-- A point that stands for itself between the quotes: it does not end the line. -/
def StandsForItself (quote point : Nat) : Prop :=
  point ≠ quote ∧ point ≠ 92 ∧ point ≠ 10 ∧ point ≠ 13 ∧ InSource point

instance (quote point : Nat) : Decidable (StandsForItself quote point) :=
  inferInstanceAs (Decidable (_ ∧ _))

/-- What is denoted up to the closing quote, and what is left after it. -/
def readBody (quote : Nat) (input : List Nat) : Option (List Nat × List Nat) :=
  match input with
  | [] => none
  | point :: input =>
      if point = quote then some ([], input)
      else if point = 92 then
        match _ : readEscape input with
        | some (points, rest) => (readBody quote rest).map fun read => (points ++ read.1, read.2)
        | none => none
      else if StandsForItself quote point then
        (readBody quote input).map fun read => (point :: read.1, read.2)
      else none
  termination_by input.length
  decreasing_by
    · rename_i h
      exact Nat.lt_succ_of_le (readEscape_length h)
    · exact Nat.lt_succ_self _

@[simp] theorem readBody_quote (quote : Nat) (input : List Nat) :
    readBody quote (quote :: input) = some ([], input) := by
  rw [readBody, if_pos rfl]

theorem readBody_cons {quote point : Nat} (h : StandsForItself quote point) (input : List Nat) :
    readBody quote (point :: input) =
      (readBody quote input).map fun read => (point :: read.1, read.2) := by
  rw [readBody, if_neg h.1, if_neg h.2.1, if_pos h]

theorem readBody_escape {quote : Nat} (hquote : quote ≠ 92) {input points rest : List Nat}
    (h : readEscape input = some (points, rest)) :
    readBody quote (92 :: input) =
      (readBody quote rest).map fun read => (points ++ read.1, read.2) := by
  rw [readBody, if_neg hquote.symm, if_pos rfl]
  split
  · next heq =>
      rw [h] at heq
      cases heq
      rfl
  · next hnone =>
      rw [h] at hnone
      cases hnone

/-- What a literal denotes: a short one, between single or double quotes. -/
def readLiteral : List Nat → Option (List Nat)
  | [] => none
  | quote :: input =>
      if ¬ (quote = 39 ∨ quote = 34) then none
      -- three quotes begin a long literal
      else if input.take 2 = [quote, quote] then none
      else
        match readBody quote input with
        | some (value, []) => some value
        | _ => none

end Marty.ResponseText
