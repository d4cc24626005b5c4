import Mathlib.Algebra.Group.Int.Defs
import Mathlib.Algebra.GroupWithZero.Nat
import Mathlib.Data.Nat.Bitwise

/-!
# Unicode code points, code units and their bytes

Code points with and without the surrogates, the code units of UTF-16, and
numbers as a fixed number of bytes in either byte order.

## Main definitions

* `Unicode.fromU32` — the scalar value of a number, if it is one.
* `Unicode.utf16Units`, `Unicode.combine` — a code point as UTF-16 code units, and
  the code point of a surrogate pair.
* `Unicode.toBytes`, `Unicode.ofBytes` — a number as bytes, and back.
-/

namespace Marty.Lib.Unicode

/-- A code point: a scalar value or a surrogate. -/
abbrev Codepoint := Fin 0x110000

def IsHigh (u : Nat) : Prop := 0xd800 ≤ u ∧ u ≤ 0xdbff

def IsLow (u : Nat) : Prop := 0xdc00 ≤ u ∧ u ≤ 0xdfff

instance (u : Nat) : Decidable (IsHigh u) := inferInstanceAs (Decidable (_ ∧ _))

instance (u : Nat) : Decidable (IsLow u) := inferInstanceAs (Decidable (_ ∧ _))

theorem IsHigh.not_isLow {u : Nat} (h : IsHigh u) : ¬ IsLow u := by
  unfold IsHigh at h
  unfold IsLow
  omega

/-! ## Scalar values -/

/-- The scalar value of a number: none for a surrogate and past the last code point. -/
def fromU32 (n : Nat) : Option Char :=
  if h : n.isValidChar then some (Char.ofNatAux n h) else none

theorem fromU32_eq_some {n : Nat} {c : Char} : fromU32 n = some c ↔ c.toNat = n := by
  constructor
  · intro h
    by_cases hn : n.isValidChar
    · rw [fromU32, dif_pos hn, Option.some.injEq] at h
      subst h
      rfl
    · rw [fromU32, dif_neg hn] at h
      cases h
  · intro h
    subst h
    have hc : c.toNat.isValidChar := c.valid
    rw [fromU32, dif_pos hc]
    rfl

@[simp] theorem fromU32_toNat (c : Char) : fromU32 c.toNat = some c := fromU32_eq_some.mpr rfl

theorem fromU32_eq_none {n : Nat} :
    fromU32 n = none ↔ IsHigh n ∨ IsLow n ∨ 0x110000 ≤ n := by
  by_cases hn : n.isValidChar
  · rw [fromU32, dif_pos hn]
    refine ⟨(fun h => by cases h), fun h => ?_⟩
    unfold Nat.isValidChar at hn
    unfold IsHigh IsLow at h
    omega
  · rw [fromU32, dif_neg hn]
    refine ⟨fun _ => ?_, fun _ => rfl⟩
    unfold Nat.isValidChar at hn
    unfold IsHigh IsLow
    omega

theorem not_isHigh_toNat (c : Char) : ¬ IsHigh c.toNat := by
  intro h
  have hnone := fromU32_eq_none.mpr (.inl h)
  simp at hnone

theorem not_isLow_toNat (c : Char) : ¬ IsLow c.toNat := by
  intro h
  have hnone := fromU32_eq_none.mpr (.inr (.inl h))
  simp at hnone

theorem toNat_lt (c : Char) : c.toNat < 0x110000 := by
  by_contra h
  have hnone := fromU32_eq_none.mpr (.inr (.inr (Nat.le_of_not_lt h)))
  simp at hnone

/-! ## UTF-16 code units -/

/-- The code point of a surrogate pair. -/
def combine (high low : Nat) : Nat := 0x10000 + ((high - 0xd800) <<< 10) + (low - 0xdc00)

theorem combine_eq (high low : Nat) :
    combine high low = 0x10000 + (high - 0xd800) * 1024 + (low - 0xdc00) := by
  unfold combine
  omega

theorem combine_lt {high low : Nat} (hh : IsHigh high) (hl : IsLow low) :
    combine high low < 0x110000 := by
  unfold IsHigh at hh
  unfold IsLow at hl
  rw [combine_eq]
  omega

theorem le_combine (high low : Nat) : 0x10000 ≤ combine high low := by
  rw [combine_eq]
  omega

/-- The UTF-16 code units of a code point.  A surrogate stands for itself. -/
def utf16Units (p : Nat) : List Nat :=
  if p < 0x10000 then [p]
  else [0xd800 + (p - 0x10000) / 0x400, 0xdc00 + (p - 0x10000) % 0x400]

theorem utf16Units_of_lt {p : Nat} (h : p < 0x10000) : utf16Units p = [p] := by
  rw [utf16Units, if_pos h]

/-- Past the first plane, a code point is one surrogate pair. -/
theorem utf16Units_of_le {p : Nat} (h : 0x10000 ≤ p) (hp : p < 0x110000) :
    ∃ high low, utf16Units p = [high, low] ∧ IsHigh high ∧ IsLow low ∧ combine high low = p := by
  have hnot : ¬ p < 0x10000 := Nat.not_lt.mpr h
  refine ⟨_, _, by rw [utf16Units, if_neg hnot], ?_, ?_, ?_⟩
  · unfold IsHigh
    omega
  · unfold IsLow
    omega
  · rw [combine_eq]
    omega

theorem utf16Units_combine {high low : Nat} (hh : IsHigh high) (hl : IsLow low) :
    utf16Units (combine high low) = [high, low] := by
  have hle := le_combine high low
  unfold IsHigh at hh
  unfold IsLow at hl
  have hhigh : 0xd800 + (combine high low - 0x10000) / 0x400 = high := by
    rw [combine_eq]
    omega
  have hlow : 0xdc00 + (combine high low - 0x10000) % 0x400 = low := by
    rw [combine_eq]
    omega
  rw [utf16Units, if_neg (Nat.not_lt.mpr hle), hhigh, hlow]

theorem utf16Units_ne_nil (p : Nat) : utf16Units p ≠ [] := by
  unfold utf16Units
  split <;> simp

theorem lt_of_mem_utf16Units {p u : Nat} (hp : p < 0x110000) (hu : u ∈ utf16Units p) :
    u < 0x10000 := by
  by_cases h : p < 0x10000
  · simp [utf16Units_of_lt h] at hu
    omega
  · obtain ⟨high, low, heq, hh, hl, -⟩ := utf16Units_of_le (Nat.le_of_not_lt h) hp
    unfold IsHigh at hh
    unfold IsLow at hl
    simp [heq] at hu
    omega

/-! ## Bytes -/

/-- The `n` lowest bytes of a number, lowest first. -/
def toLeBytes : Nat → Nat → List UInt8
  | 0, _ => []
  | n + 1, u => UInt8.ofNat (u % 256) :: toLeBytes n (u / 256)

def ofLeBytes : List UInt8 → Nat
  | [] => 0
  | b :: bytes => b.toNat + 256 * ofLeBytes bytes

/-- A number as `n` bytes, in either byte order. -/
def toBytes (little : Bool) (n u : Nat) : List UInt8 :=
  if little then toLeBytes n u else (toLeBytes n u).reverse

def ofBytes (little : Bool) (bytes : List UInt8) : Nat :=
  if little then ofLeBytes bytes else ofLeBytes bytes.reverse

theorem length_toLeBytes (n u : Nat) : (toLeBytes n u).length = n := by
  induction n generalizing u with
  | zero => rfl
  | succ n ih => simp [toLeBytes, ih]

@[simp] theorem length_toBytes (little : Bool) (n u : Nat) : (toBytes little n u).length = n := by
  cases little <;> simp [toBytes, length_toLeBytes]

theorem ofLeBytes_toLeBytes {n u : Nat} (h : u < 256 ^ n) : ofLeBytes (toLeBytes n u) = u := by
  induction n generalizing u with
  | zero =>
      have hu : u = 0 := by simpa using h
      simp [toLeBytes, ofLeBytes, hu]
  | succ n ih =>
      have hdiv : u / 256 < 256 ^ n := by
        rw [Nat.div_lt_iff_lt_mul (by omega)]
        simpa [Nat.pow_succ] using h
      rw [toLeBytes, ofLeBytes, ih hdiv, UInt8.toNat_ofNat']
      omega

theorem toLeBytes_ofLeBytes (bytes : List UInt8) :
    toLeBytes bytes.length (ofLeBytes bytes) = bytes := by
  induction bytes with
  | nil => rfl
  | cons b bytes ih =>
      have hb := b.toNat_lt
      have hmod : (b.toNat + 256 * ofLeBytes bytes) % 256 = b.toNat := by omega
      have hdiv : (b.toNat + 256 * ofLeBytes bytes) / 256 = ofLeBytes bytes := by omega
      rw [List.length_cons, ofLeBytes, toLeBytes, hmod, hdiv, ih, UInt8.ofNat_toNat]

theorem ofLeBytes_lt (bytes : List UInt8) : ofLeBytes bytes < 256 ^ bytes.length := by
  induction bytes with
  | nil => simp [ofLeBytes]
  | cons b bytes ih =>
      have hb := b.toNat_lt
      rw [ofLeBytes, List.length_cons, Nat.pow_succ]
      omega

theorem ofBytes_toBytes {n u : Nat} (little : Bool) (h : u < 256 ^ n) :
    ofBytes little (toBytes little n u) = u := by
  cases little <;> simp [ofBytes, toBytes, ofLeBytes_toLeBytes h]

theorem toBytes_ofBytes (little : Bool) (bytes : List UInt8) :
    toBytes little bytes.length (ofBytes little bytes) = bytes := by
  cases little
  · have hrev := toLeBytes_ofLeBytes bytes.reverse
    rw [List.length_reverse] at hrev
    simp [ofBytes, toBytes, hrev]
  · simp [ofBytes, toBytes, toLeBytes_ofLeBytes]

theorem ofBytes_lt (little : Bool) (bytes : List UInt8) :
    ofBytes little bytes < 256 ^ bytes.length := by
  cases little
  · simpa [ofBytes] using ofLeBytes_lt bytes.reverse
  · simpa [ofBytes] using ofLeBytes_lt bytes

end Marty.Lib.Unicode
