import Mathlib.Data.Nat.Digits.Lemmas

/-!
# Minimal encodings of positive integers

A positive integer as bytes, the highest one first, with the sign in the first bit and no
byte that could be left out.  An integer has one such encoding.

## Main definitions

* `bigEndian` — the number of a row of bytes.
* `IsMinimal` — the encodings; `IsMinimal.ext` — they are equal when their numbers are.
-/

namespace Marty.Lib

/-- The number that bytes write, the highest one first. -/
def bigEndian (bytes : List Nat) : Nat := bytes.foldl (fun n b => 256 * n + b) 0

theorem bigEndian_eq_ofDigits (bytes : List Nat) :
    bigEndian bytes = Nat.ofDigits 256 bytes.reverse := by
  rw [bigEndian, Nat.ofDigits_eq_foldr, List.foldr_reverse]
  congr 1
  funext n b
  exact Nat.add_comm _ _

/-- A leading byte that is not zero makes the bytes the digits of their number. -/
theorem digits_bigEndian {b : Nat} {bytes : List Nat} (hb : b ≠ 0)
    (hbytes : ∀ c ∈ b :: bytes, c < 256) :
    Nat.digits 256 (bigEndian (b :: bytes)) = (b :: bytes).reverse := by
  rw [bigEndian_eq_ofDigits]
  apply Nat.digits_ofDigits 256 (by decide)
  · intro c hc
    exact hbytes c (List.mem_reverse.mp hc)
  · intro hne
    rw [List.getLast_reverse]
    exact hb

/-- Bytes of a positive integer: the first one is below 128, and it is zero only when the
sign needs it. -/
inductive IsMinimal : List Nat → Prop
  | plain {b : Nat} {bytes : List Nat} (pos : b ≠ 0) (sign : b < 128)
      (bounded : ∀ c ∈ bytes, c < 256) : IsMinimal (b :: bytes)
  | padded {b : Nat} {bytes : List Nat} (high : 128 ≤ b) (bounded : ∀ c ∈ b :: bytes, c < 256) :
      IsMinimal (0 :: b :: bytes)

namespace IsMinimal

/-- The digits of the number are the bytes without the zero that the sign needs. -/
theorem digits {bytes : List Nat} (h : IsMinimal bytes) :
    Nat.digits 256 (bigEndian bytes) = (bytes.dropWhile (· = 0)).reverse := by
  cases h with
  | @plain b bytes pos sign bounded =>
      have hall : ∀ c ∈ b :: bytes, c < 256 := by
        intro c hc
        rcases List.mem_cons.mp hc with rfl | hc
        · omega
        · exact bounded c hc
      rw [digits_bigEndian pos hall, List.dropWhile_cons_of_neg (by simpa using pos)]
  | @padded b bytes high bounded =>
      have hpos : b ≠ 0 := by omega
      have hnumber : bigEndian (0 :: b :: bytes) = bigEndian (b :: bytes) := rfl
      rw [hnumber, digits_bigEndian hpos bounded, List.dropWhile_cons_of_pos (by simp),
        List.dropWhile_cons_of_neg (by simpa using hpos)]

/-- The bytes are those without the zero, with a zero before them when the first is high. -/
theorem eq_of_dropWhile {bytes : List Nat} (h : IsMinimal bytes) :
    bytes = if (bytes.dropWhile (· = 0)).head?.any (128 ≤ ·)
      then 0 :: bytes.dropWhile (· = 0) else bytes.dropWhile (· = 0) := by
  cases h with
  | plain pos sign bounded => simp [pos, Nat.not_le.mpr sign]
  | @padded b bytes high bounded =>
      have hpos : b ≠ 0 := by omega
      simp [hpos, high]

/-- **One integer, one encoding.** -/
theorem ext {bytes bytes' : List Nat} (h : IsMinimal bytes) (h' : IsMinimal bytes')
    (heq : bigEndian bytes = bigEndian bytes') : bytes = bytes' := by
  have hdigits := h.digits
  rw [heq, h'.digits, List.reverse_inj] at hdigits
  rw [h.eq_of_dropWhile, h'.eq_of_dropWhile, hdigits]

end IsMinimal

end Marty.Lib
