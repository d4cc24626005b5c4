import Marty.Lib.Json
import Mathlib.Data.String.Basic

/-!
# Hexadecimal digits

Numbers written with a fixed count of hexadecimal digits are ordered, as texts, by their
values, whatever follows the digits.

## Main definitions

* `fixedHex` — the digits; `ofList_fixedHex_lt` — their order.
-/

namespace Marty.Lib

open Json (hexDigit)

/-- The last `w` hexadecimal digits of a number. -/
def fixedHex : Nat → Nat → List Char
  | 0, _ => []
  | w + 1, n => fixedHex w (n / 16) ++ [hexDigit (n % 16)]

@[simp] theorem length_fixedHex (w n : Nat) : (fixedHex w n).length = w := by
  induction w generalizing n with
  | zero => rfl
  | succ w ih => rw [fixedHex, List.length_append, ih, List.length_singleton]

theorem hexDigit_lt {a b : Nat} (hab : a < b) (hb : b < 16) : hexDigit a < hexDigit b := by
  have hall : ∀ b < 16, ∀ a < b, hexDigit a < hexDigit b := by decide
  exact hall b hb a hab

/-- Texts of one length are compared before anything that follows them. -/
theorem append_lt_append {as bs : List Char} (hlength : as.length = bs.length) (h : as < bs)
    (s t : List Char) : as ++ s < bs ++ t := by
  induction as generalizing bs with
  | nil =>
      rw [List.length_nil, eq_comm, List.length_eq_zero_iff] at hlength
      subst hlength
      exact absurd h (List.not_lt_nil _)
  | cons a as ih =>
      cases bs with
      | nil => cases hlength
      | cons b bs =>
          rw [List.cons_lt_cons_iff] at h
          rw [List.cons_append, List.cons_append, List.cons_lt_cons_iff]
          rcases h with hlt | ⟨heq, hlt⟩
          · exact .inl hlt
          · exact .inr ⟨heq, ih (Nat.succ.inj hlength) hlt⟩

theorem append_lt_append_left (as : List Char) {s t : List Char} (h : s < t) :
    as ++ s < as ++ t := by
  induction as with
  | nil => exact h
  | cons a as ih =>
      rw [List.cons_append, List.cons_append, List.cons_lt_cons_iff]
      exact .inr ⟨rfl, ih⟩

theorem fixedHex_lt {w n m : Nat} (h : n < m) (hm : m < 16 ^ w) :
    fixedHex w n < fixedHex w m := by
  induction w generalizing n m with
  | zero =>
      rw [Nat.pow_zero] at hm
      omega
  | succ w ih =>
      have hdiv : m / 16 < 16 ^ w := by
        rw [Nat.div_lt_iff_lt_mul (by decide), ← Nat.pow_succ]
        exact hm
      rw [fixedHex, fixedHex]
      by_cases hlt : n / 16 < m / 16
      · apply append_lt_append _ (ih hlt hdiv)
        rw [length_fixedHex, length_fixedHex]
      · -- the leading digits agree, and the last one decides
        have heq : n / 16 = m / 16 := by omega
        rw [heq]
        apply append_lt_append_left
        rw [List.cons_lt_cons_iff]
        exact .inl (hexDigit_lt (by omega) (by omega))

/-- **Texts that begin with digits** are ordered by the numbers that these write. -/
theorem ofList_fixedHex_lt {w n m : Nat} (h : n < m) (hm : m < 16 ^ w) (s t : List Char) :
    String.ofList (fixedHex w n ++ s) < String.ofList (fixedHex w m ++ t) := by
  rw [String.lt_iff_toList_lt, String.toList_ofList, String.toList_ofList]
  apply append_lt_append _ (fixedHex_lt h hm)
  rw [length_fixedHex, length_fixedHex]

end Marty.Lib
