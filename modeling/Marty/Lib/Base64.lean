import Mathlib.Logic.Basic
import Mathlib.Tactic.SplitIfs

/-!
# Base64

The Base64 encodings of RFC 4648, with either alphabet and with or without
padding.  A text is accepted only in the one form that encodes some bytes: the
padding is exactly what the engine writes, and unused bits of the last symbol are
zero.

## Main definitions

* `Base64.Engine` — the alphabet and the padding.
* `Base64.encode`, `Base64.decode` — from bytes to text and back; `decode_encode`
  says that nothing is lost.
* `Base64.sextets` — the values that an encoding writes.
-/

namespace Marty.Lib.Base64

structure Engine where
  urlSafe : Bool
  pad : Bool
  deriving DecidableEq, Repr

/-- The symbol of a six-bit value. -/
def Engine.symbol (e : Engine) (n : Nat) : Char :=
  if n < 26 then Char.ofNat (65 + n)
  else if n < 52 then Char.ofNat (71 + n)
  else if n < 62 then Char.ofNat (n - 4)
  else if n = 62 then (if e.urlSafe then '-' else '+')
  else (if e.urlSafe then '_' else '/')

/-- The value of a symbol of the alphabet. -/
def Engine.value (e : Engine) (c : Char) : Option Nat :=
  if 65 ≤ c.toNat ∧ c.toNat ≤ 90 then some (c.toNat - 65)
  else if 97 ≤ c.toNat ∧ c.toNat ≤ 122 then some (c.toNat - 71)
  else if 48 ≤ c.toNat ∧ c.toNat ≤ 57 then some (c.toNat + 4)
  else if c = (if e.urlSafe then '-' else '+') then some 62
  else if c = (if e.urlSafe then '_' else '/') then some 63
  else none

def encodeChars (e : Engine) : List UInt8 → List Char
  | [] => []
  | [a] => [e.symbol (a.toNat / 4), e.symbol (a.toNat % 4 * 16)] ++
      if e.pad then ['=', '='] else []
  | [a, b] => [e.symbol (a.toNat / 4), e.symbol (a.toNat % 4 * 16 + b.toNat / 16),
      e.symbol (b.toNat % 16 * 4)] ++ if e.pad then ['='] else []
  | a :: b :: c :: rest => e.symbol (a.toNat / 4) ::
      e.symbol (a.toNat % 4 * 16 + b.toNat / 16) ::
      e.symbol (b.toNat % 16 * 4 + c.toNat / 64) :: e.symbol (c.toNat % 64) ::
      encodeChars e rest

/-- One byte from the two symbols that end a text. -/
def decodeOne (e : Engine) (w x : Char) : Option (List UInt8) := do
  let w ← e.value w
  let x ← e.value x
  if x % 16 = 0 then some [UInt8.ofNat (w * 4 + x / 16)] else none

/-- Two bytes from the three symbols that end a text. -/
def decodeTwo (e : Engine) (w x y : Char) : Option (List UInt8) := do
  let w ← e.value w
  let x ← e.value x
  let y ← e.value y
  if y % 4 = 0 then
    some [UInt8.ofNat (w * 4 + x / 16), UInt8.ofNat (x % 16 * 16 + y / 4)]
  else none

def decodeThree (e : Engine) (w x y z : Char) : Option (List UInt8) := do
  let w ← e.value w
  let x ← e.value x
  let y ← e.value y
  let z ← e.value z
  some [UInt8.ofNat (w * 4 + x / 16), UInt8.ofNat (x % 16 * 16 + y / 4),
    UInt8.ofNat (y % 4 * 64 + z)]

def decodeChars (e : Engine) : List Char → Option (List UInt8)
  | [] => some []
  | [_] => none
  | [w, x] => if e.pad then none else decodeOne e w x
  | [w, x, y] => if e.pad then none else decodeTwo e w x y
  | w :: x :: y :: z :: rest =>
      if e.pad = true ∧ rest = [] ∧ z = '=' then
        if y = '=' then decodeOne e w x else decodeTwo e w x y
      else do
        let head ← decodeThree e w x y z
        let tail ← decodeChars e rest
        some (head ++ tail)

def encode (e : Engine) (bytes : List UInt8) : String := String.ofList (encodeChars e bytes)

def decode (e : Engine) (text : String) : Option (List UInt8) := decodeChars e text.toList

/-- The six-bit values of some bytes, the last one filled up with zero bits. -/
def sextets : List UInt8 → List Nat
  | [] => []
  | [a] => [a.toNat / 4, a.toNat % 4 * 16]
  | [a, b] => [a.toNat / 4, a.toNat % 4 * 16 + b.toNat / 16, b.toNat % 16 * 4]
  | a :: b :: c :: rest => a.toNat / 4 :: (a.toNat % 4 * 16 + b.toNat / 16) ::
      (b.toNat % 16 * 4 + c.toNat / 64) :: c.toNat % 64 :: sextets rest

theorem encodeChars_eq_map (e : Engine) (hpad : e.pad = false) (bytes : List UInt8) :
    encodeChars e bytes = (sextets bytes).map e.symbol := by
  induction bytes using encodeChars.induct with
  | case1 => rfl
  | case2 a => simp [encodeChars, sextets, hpad]
  | case3 a b => simp [encodeChars, sextets, hpad]
  | case4 a b c rest ih => simp [encodeChars, sextets, ih]

theorem lt_of_mem_sextets {bytes : List UInt8} {n : Nat} (h : n ∈ sextets bytes) : n < 64 := by
  induction bytes using encodeChars.induct with
  | case1 => cases h
  | case2 a =>
      have ha := a.toNat_lt
      simp [sextets] at h
      omega
  | case3 a b =>
      have ha := a.toNat_lt
      have hb := b.toNat_lt
      simp [sextets] at h
      omega
  | case4 a b c rest ih =>
      have ha := a.toNat_lt
      have hb := b.toNat_lt
      have hc := c.toNat_lt
      simp only [sextets, List.mem_cons] at h
      rcases h with h | h | h | h | h
      · omega
      · omega
      · omega
      · omega
      · exact ih h

/-! ## Reading back -/

/-- A small code is the code of its character. -/
theorem toNat_ofNat_of_lt {n : Nat} (h : n < 256) : (Char.ofNat n).toNat = n := by
  rw [Char.ofNat, dif_pos (.inl (by omega))]
  rfl

theorem symbol_toNat_lt (e : Engine) {n : Nat} (h : n < 64) : (e.symbol n).toNat < 256 := by
  rw [Engine.symbol]
  split_ifs <;> first | (rw [toNat_ofNat_of_lt (by omega)]; omega) | decide

@[simp] theorem value_symbol (e : Engine) {n : Nat} (h : n < 64) :
    e.value (e.symbol n) = some n := by
  rw [Engine.symbol]
  split_ifs with hupper hlower hdigit hdash hurl hurl
  · rw [Engine.value, toNat_ofNat_of_lt (by omega), if_pos (by omega), Nat.add_sub_cancel_left]
  · rw [Engine.value, toNat_ofNat_of_lt (by omega), if_neg (by omega), if_pos (by omega),
      Nat.add_sub_cancel_left]
  · rw [Engine.value, toNat_ofNat_of_lt (by omega), if_neg (by omega), if_neg (by omega),
      if_pos (by omega), Nat.sub_add_cancel (by omega)]
  -- the two symbols that depend on the alphabet
  · simp [Engine.value, hurl, hdash]
  · simp [Engine.value, hurl, hdash]
  · simp only [Engine.value, hurl]
    simp
    omega
  · simp only [Engine.value, hurl]
    simp
    omega

/-- A value of the alphabet is the value of its own symbol only. -/
theorem symbol_of_value (e : Engine) {c : Char} {n : Nat} (h : e.value c = some n) :
    e.symbol n = c ∧ n < 64 := by
  rw [Engine.value] at h
  split_ifs at h with hupper hlower hdigit <;> cases h <;>
    refine ⟨?_, by omega⟩ <;> rw [Engine.symbol]
  · rw [if_pos (by omega), show 65 + (c.toNat - 65) = c.toNat by omega, Char.ofNat_toNat]
  · rw [if_neg (by omega), if_pos (by omega), show 71 + (c.toNat - 71) = c.toNat by omega,
      Char.ofNat_toNat]
  · rw [if_neg (by omega), if_neg (by omega), if_pos (by omega), Nat.add_sub_cancel,
      Char.ofNat_toNat]
  -- the two symbols that depend on the alphabet
  all_goals simp_all

theorem symbol_ne_pad (e : Engine) {n : Nat} (h : n < 64) : e.symbol n ≠ '=' := by
  intro heq
  have hvalue := value_symbol e h
  rw [heq, Engine.value] at hvalue
  cases hurl : e.urlSafe <;> simp [hurl] at hvalue

private theorem decodeOne_symbol (e : Engine) (a : UInt8) :
    decodeOne e (e.symbol (a.toNat / 4)) (e.symbol (a.toNat % 4 * 16)) = some [a] := by
  have ha := a.toNat_lt
  have h1 : a.toNat / 4 * 4 + a.toNat % 4 * 16 / 16 = a.toNat := by omega
  simp only [decodeOne, value_symbol e (show a.toNat / 4 < 64 by omega),
    value_symbol e (show a.toNat % 4 * 16 < 64 by omega), Option.bind_eq_bind,
    Option.bind_some]
  rw [if_pos (by omega), h1, UInt8.ofNat_toNat]

private theorem decodeTwo_symbol (e : Engine) (a b : UInt8) :
    decodeTwo e (e.symbol (a.toNat / 4)) (e.symbol (a.toNat % 4 * 16 + b.toNat / 16))
      (e.symbol (b.toNat % 16 * 4)) = some [a, b] := by
  have ha := a.toNat_lt
  have hb := b.toNat_lt
  have h1 : a.toNat / 4 * 4 + (a.toNat % 4 * 16 + b.toNat / 16) / 16 = a.toNat := by omega
  have h2 : (a.toNat % 4 * 16 + b.toNat / 16) % 16 * 16 + b.toNat % 16 * 4 / 4 = b.toNat := by
    omega
  simp only [decodeTwo, value_symbol e (show a.toNat / 4 < 64 by omega),
    value_symbol e (show a.toNat % 4 * 16 + b.toNat / 16 < 64 by omega),
    value_symbol e (show b.toNat % 16 * 4 < 64 by omega), Option.bind_eq_bind,
    Option.bind_some]
  rw [if_pos (by omega), h1, h2, UInt8.ofNat_toNat, UInt8.ofNat_toNat]

private theorem decodeThree_symbol (e : Engine) (a b c : UInt8) :
    decodeThree e (e.symbol (a.toNat / 4)) (e.symbol (a.toNat % 4 * 16 + b.toNat / 16))
      (e.symbol (b.toNat % 16 * 4 + c.toNat / 64)) (e.symbol (c.toNat % 64))
      = some [a, b, c] := by
  have ha := a.toNat_lt
  have hb := b.toNat_lt
  have hc := c.toNat_lt
  have h1 : a.toNat / 4 * 4 + (a.toNat % 4 * 16 + b.toNat / 16) / 16 = a.toNat := by omega
  have h2 : (a.toNat % 4 * 16 + b.toNat / 16) % 16 * 16
      + (b.toNat % 16 * 4 + c.toNat / 64) / 4 = b.toNat := by omega
  have h3 : (b.toNat % 16 * 4 + c.toNat / 64) % 4 * 64 + c.toNat % 64 = c.toNat := by omega
  simp only [decodeThree, value_symbol e (show a.toNat / 4 < 64 by omega),
    value_symbol e (show a.toNat % 4 * 16 + b.toNat / 16 < 64 by omega),
    value_symbol e (show b.toNat % 16 * 4 + c.toNat / 64 < 64 by omega),
    value_symbol e (show c.toNat % 64 < 64 by omega), Option.bind_eq_bind, Option.bind_some]
  rw [h1, h2, h3, UInt8.ofNat_toNat, UInt8.ofNat_toNat, UInt8.ofNat_toNat]

private theorem decodeChars_encodeChars (e : Engine) (bytes : List UInt8) :
    decodeChars e (encodeChars e bytes) = some bytes := by
  induction bytes using encodeChars.induct with
  | case1 => rfl
  | case2 a =>
      cases hp : e.pad <;> simp [encodeChars, decodeChars, hp, decodeOne_symbol]
  | case3 a b =>
      have hb := b.toNat_lt
      have hne := symbol_ne_pad e (show b.toNat % 16 * 4 < 64 by omega)
      cases hp : e.pad <;> simp [encodeChars, decodeChars, hp, decodeTwo_symbol, hne]
  | case4 a b c rest ih =>
      have hne := symbol_ne_pad e (show c.toNat % 64 < 64 by omega)
      rw [encodeChars, decodeChars, if_neg (fun h => hne h.2.2), decodeThree_symbol, ih]
      rfl

/-- **Encoded bytes read back as they were.** -/
theorem decode_encode (e : Engine) (bytes : List UInt8) :
    decode e (encode e bytes) = some bytes := by
  rw [decode, encode, String.toList_ofList, decodeChars_encodeChars]

end Marty.Lib.Base64
