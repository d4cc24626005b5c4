import Marty.ResponseText.UnicodeUnits

/-!
# The bytes of a JSON response

The encoding of a JSON response is found from its first bytes, whatever its content type says: a
byte order mark decides, and without one the null bytes among the first four do. The decoder of
UTF-8 lets surrogates through as three bytes each, and no other sequence of another length.
-/

namespace Marty.ResponseText

open Marty.Lib.Unicode

/-! ## UTF-8 with surrogates -/

/-- What the first byte of a sequence says: its length, the least point that is written so, and
the bits of the point. -/
def leading (first : UInt8) : Option (Nat × Nat × Nat) :=
  if first ≤ 0x7f then some (1, 0, first.toNat)
  else if 0xc2 ≤ first ∧ first ≤ 0xdf then some (2, 0x80, (first &&& 0x1f).toNat)
  else if 0xe0 ≤ first ∧ first ≤ 0xef then some (3, 0x800, (first &&& 0xf).toNat)
  else if 0xf0 ≤ first ∧ first ≤ 0xf4 then some (4, 0x10000, (first &&& 7).toNat)
  else none

/-- The bits of the bytes that go on with a sequence. -/
def continuation (point : Nat) : List UInt8 → Option Nat
  | [] => some point
  | byte :: bytes =>
      if byte &&& 0xc0 ≠ 0x80 then none
      else continuation ((point <<< 6) ||| (byte &&& 0x3f).toNat) bytes

/-- The point at the front of the bytes, and what is left. -/
def nextPoint : List UInt8 → Option (Nat × List UInt8)
  | [] => none
  | first :: rest =>
      match leading first with
      | none => none
      | some (length, minimum, bits) =>
          if rest.length < length - 1 then none
          else
            match continuation bits (rest.take (length - 1)) with
            | none => none
            | some point =>
                if point < minimum ∨ 0x10ffff < point then none
                else some (point, rest.drop (length - 1))

theorem nextPoint_length {bytes rest : List UInt8} {point : Nat}
    (h : nextPoint bytes = some (point, rest)) : rest.length < bytes.length := by
  cases bytes with
  | nil => cases h
  | cons first bytes =>
      rw [nextPoint] at h
      repeat' split at h
      all_goals cases h
      rw [List.length_drop, List.length_cons]
      omega

/-- The loop of the decoder. -/
def utf8SurrogatepassFrom (bytes : List UInt8) (output : List Nat) : Option (List Nat) :=
  if bytes = [] then some output
  else
    match _ : nextPoint bytes with
    | none => none
    | some (point, rest) => utf8SurrogatepassFrom rest (output ++ [point])
  termination_by bytes.length
  decreasing_by
    rename_i h
    exact nextPoint_length h

def utf8Surrogatepass (bytes : List UInt8) : Option (List Nat) := utf8SurrogatepassFrom bytes []

/-- The bytes of a code point, by their values; a surrogate takes three. -/
def utf8Values (point : Nat) : List Nat :=
  if point < 0x80 then [point]
  else if point < 0x800 then [0xc0 + point / 64, 0x80 + point % 64]
  else if point < 0x10000 then
    [0xe0 + point / 4096, 0x80 + point / 64 % 64, 0x80 + point % 64]
  else [0xf0 + point / 262144, 0x80 + point / 4096 % 64, 0x80 + point / 64 % 64,
    0x80 + point % 64]

def encodeUtf8 (point : Nat) : List UInt8 := (utf8Values point).map UInt8.ofNat

/-! The masks take remainders. -/

theorem leading_eq (first : UInt8) : leading first =
    if first.toNat ≤ 0x7f then some (1, 0, first.toNat)
    else if 0xc2 ≤ first.toNat ∧ first.toNat ≤ 0xdf then some (2, 0x80, first.toNat % 32)
    else if 0xe0 ≤ first.toNat ∧ first.toNat ≤ 0xef then some (3, 0x800, first.toNat % 16)
    else if 0xf0 ≤ first.toNat ∧ first.toNat ≤ 0xf4 then some (4, 0x10000, first.toNat % 8)
    else none := by
  have h5 : (first &&& 0x1f).toNat = first.toNat % 32 :=
    Nat.and_two_pow_sub_one_eq_mod first.toNat 5
  have h4 : (first &&& 0xf).toNat = first.toNat % 16 :=
    Nat.and_two_pow_sub_one_eq_mod first.toNat 4
  have h3 : (first &&& 7).toNat = first.toNat % 8 :=
    Nat.and_two_pow_sub_one_eq_mod first.toNat 3
  rw [leading, h5, h4, h3]
  rfl

theorem isContinuation_iff (byte : UInt8) :
    byte &&& 0xc0 = 0x80 ↔ 0x80 ≤ byte.toNat ∧ byte.toNat < 0xc0 := by
  have hall : ∀ b : Fin 256, (UInt8.ofFin b &&& 0xc0 = 0x80 ↔ 0x80 ≤ b.val ∧ b.val < 0xc0) := by
    decide +kernel
  exact hall byte.toFin

theorem continuation_cons (point : Nat) (byte : UInt8) (bytes : List UInt8) :
    continuation point (byte :: bytes) =
      if 0x80 ≤ byte.toNat ∧ byte.toNat < 0xc0 then
        continuation (point * 64 + byte.toNat % 64) bytes
      else none := by
  have h6 : (byte &&& 0x3f).toNat = byte.toNat % 64 :=
    Nat.and_two_pow_sub_one_eq_mod byte.toNat 6
  have hor : (point <<< 6) ||| (byte.toNat % 64) = point * 64 + byte.toNat % 64 := by
    rw [← Nat.shiftLeft_add_eq_or_of_lt (Nat.mod_lt _ (by decide)), Nat.shiftLeft_eq]
  rw [continuation, h6, hor]
  by_cases hbyte : byte &&& 0xc0 = 0x80
  · rw [if_neg (not_not.mpr hbyte), if_pos ((isContinuation_iff byte).mp hbyte)]
  · rw [if_pos hbyte, if_neg fun h => hbyte ((isContinuation_iff byte).mpr h)]

/-! A sequence of each length. -/

theorem utf8Values_lt {point : Nat} (h : point < 0x110000) :
    ∀ value ∈ utf8Values point, value < 256 := by
  intro value hvalue
  unfold utf8Values at hvalue
  repeat' split at hvalue
  all_goals
    simp only [List.mem_cons, List.not_mem_nil, or_false] at hvalue
    omega

theorem toNat_encodeUtf8 {point : Nat} (h : point < 0x110000) :
    (encodeUtf8 point).map UInt8.toNat = utf8Values point := by
  rw [encodeUtf8, List.map_map]
  conv_rhs => rw [← List.map_id (utf8Values point)]
  refine List.map_congr_left fun value hvalue => ?_
  have hlt := utf8Values_lt h value hvalue
  simp only [Function.comp_apply, UInt8.toNat_ofNat', id_eq]
  omega

theorem encodeUtf8_eq {point : Nat} {bytes : List UInt8}
    (h : bytes.map UInt8.toNat = utf8Values point) : bytes = encodeUtf8 point := by
  rw [encodeUtf8, ← h, List.map_map]
  conv_lhs => rw [← List.map_id bytes]
  refine List.map_congr_left fun byte _ => ?_
  simp

/-- **The point at the front is read back.** -/
theorem nextPoint_encodeUtf8 {point : Nat} (h : point < 0x110000) (rest : List UInt8) :
    nextPoint (encodeUtf8 point ++ rest) = some (point, rest) := by
  have hvalues := toNat_encodeUtf8 h
  generalize encodeUtf8 point = bytes at hvalues ⊢
  unfold utf8Values at hvalues
  split at hvalues
  case isTrue hlt =>
    obtain ⟨a, rfl⟩ : ∃ a, bytes = [a] := by
      match bytes, congrArg List.length hvalues with
      | [a], _ => exact ⟨a, rfl⟩
    simp only [List.map_cons, List.map_nil, List.cons.injEq, and_true] at hvalues
    have hlead : leading a = some (1, 0, a.toNat) := by
      rw [leading_eq, if_pos (by omega)]
    simp [nextPoint, hlead, continuation, hvalues]
    omega
  split at hvalues
  case isTrue hge hlt =>
    obtain ⟨a, b, rfl⟩ : ∃ a b, bytes = [a, b] := by
      match bytes, congrArg List.length hvalues with
      | [a, b], _ => exact ⟨a, b, rfl⟩
    simp only [List.map_cons, List.map_nil, List.cons.injEq, and_true] at hvalues
    obtain ⟨ha, hb⟩ := hvalues
    have hlead : leading a = some (2, 0x80, a.toNat % 32) := by
      rw [leading_eq, if_neg (by omega), if_pos (by omega)]
    have hcontinuation : continuation (a.toNat % 32) [b] = some point := by
      rw [continuation_cons, if_pos (by omega), continuation]
      exact congrArg some (by omega)
    simp [nextPoint, hlead, hcontinuation]
    omega
  split at hvalues
  case isTrue _ hge hlt =>
    obtain ⟨a, b, c, rfl⟩ : ∃ a b c, bytes = [a, b, c] := by
      match bytes, congrArg List.length hvalues with
      | [a, b, c], _ => exact ⟨a, b, c, rfl⟩
    simp only [List.map_cons, List.map_nil, List.cons.injEq, and_true] at hvalues
    obtain ⟨ha, hb, hc⟩ := hvalues
    have hlead : leading a = some (3, 0x800, a.toNat % 16) := by
      rw [leading_eq, if_neg (by omega), if_neg (by omega), if_pos (by omega)]
    have hcontinuation : continuation (a.toNat % 16) [b, c] = some point := by
      rw [continuation_cons, if_pos (by omega), continuation_cons, if_pos (by omega), continuation]
      exact congrArg some (by omega)
    simp [nextPoint, hlead, hcontinuation]
    omega
  case isFalse _ _ hge =>
    obtain ⟨a, b, c, d, rfl⟩ : ∃ a b c d, bytes = [a, b, c, d] := by
      match bytes, congrArg List.length hvalues with
      | [a, b, c, d], _ => exact ⟨a, b, c, d, rfl⟩
    simp only [List.map_cons, List.map_nil, List.cons.injEq, and_true] at hvalues
    obtain ⟨ha, hb, hc, hd⟩ := hvalues
    have hlead : leading a = some (4, 0x10000, a.toNat % 8) := by
      rw [leading_eq, if_neg (by omega), if_neg (by omega), if_neg (by omega), if_pos (by omega)]
    have hcontinuation : continuation (a.toNat % 8) [b, c, d] = some point := by
      rw [continuation_cons, if_pos (by omega), continuation_cons, if_pos (by omega),
        continuation_cons, if_pos (by omega), continuation]
      exact congrArg some (by omega)
    simp [nextPoint, hlead, hcontinuation]
    omega

theorem continuation_cons_eq_some {point value : Nat} {byte : UInt8} {bytes : List UInt8} :
    continuation point (byte :: bytes) = some value ↔ 0x80 ≤ byte.toNat ∧ byte.toNat < 0xc0 ∧
      continuation (point * 64 + byte.toNat % 64) bytes = some value := by
  rw [continuation_cons]
  split
  case isTrue h => simp [h]
  case isFalse h =>
    constructor
    · intro hnone
      cases hnone
    · intro hand
      exact absurd ⟨hand.1, hand.2.1⟩ h

/-- What is read at the front: the lead, the bits that follow it, and the bounds. -/
theorem nextPoint_eq_some {bytes rest : List UInt8} {point : Nat} :
    nextPoint bytes = some (point, rest) ↔ ∃ first tail length minimum bits,
      bytes = first :: (tail ++ rest) ∧ leading first = some (length, minimum, bits) ∧
        tail.length = length - 1 ∧ continuation bits tail = some point ∧
        minimum ≤ point ∧ point ≤ 0x10ffff := by
  constructor
  · intro h
    cases bytes with
    | nil => cases h
    | cons first bytes =>
        rw [nextPoint] at h
        split at h
        · cases h
        next length minimum bits hlead =>
          split at h
          · cases h
          next hlong =>
            split at h
            · cases h
            next value hvalue =>
              split at h
              · cases h
              next hbounds =>
                cases h
                refine ⟨first, bytes.take (length - 1), length, minimum, bits, ?_, hlead, ?_,
                  hvalue, by omega, by omega⟩
                · rw [List.take_append_drop]
                · rw [List.length_take]
                  omega
  · rintro ⟨first, tail, length, minimum, bits, rfl, hlead, htail, hvalue, hminimum, hbound⟩
    have hlong : ¬ (tail ++ rest).length < length - 1 := by
      rw [List.length_append]
      omega
    rw [nextPoint, hlead]
    simp only [if_neg hlong, List.take_left' htail, List.drop_left' htail, hvalue]
    rw [if_neg (by omega)]

/-- **What is read at the front is an encoding.** -/
theorem eq_of_nextPoint {bytes rest : List UInt8} {point : Nat}
    (h : nextPoint bytes = some (point, rest)) :
    point < 0x110000 ∧ bytes = encodeUtf8 point ++ rest := by
  obtain ⟨first, tail, length, minimum, bits, rfl, hlead, htail, hvalue, hminimum, hbound⟩ :=
    nextPoint_eq_some.mp h
  refine ⟨by omega, ?_⟩
  have hlt := first.toNat_lt
  have henough : (first :: tail).map UInt8.toNat = utf8Values point → first :: (tail ++ rest) =
      encodeUtf8 point ++ rest := fun hvalues => by rw [← encodeUtf8_eq hvalues]; rfl
  apply henough
  rw [leading_eq] at hlead
  split at hlead
  case isTrue hfirst =>
    cases hlead
    obtain rfl : tail = [] := List.length_eq_zero_iff.mp htail
    cases hvalue
    rw [utf8Values, if_pos (by omega)]
    rfl
  split at hlead
  case isTrue _ hfirst =>
    cases hlead
    match tail, htail with
    | [b], _ =>
      obtain ⟨hb, hb', hpoint⟩ := continuation_cons_eq_some.mp hvalue
      cases hpoint
      rw [utf8Values, if_neg (by omega), if_pos (by omega)]
      simp only [List.map_cons, List.map_nil, List.cons.injEq, and_true]
      omega
  split at hlead
  case isTrue _ _ hfirst =>
    cases hlead
    match tail, htail with
    | [b, c], _ =>
      obtain ⟨hb, hb', hrest⟩ := continuation_cons_eq_some.mp hvalue
      obtain ⟨hc, hc', hpoint⟩ := continuation_cons_eq_some.mp hrest
      cases hpoint
      rw [utf8Values, if_neg (by omega), if_neg (by omega), if_pos (by omega)]
      simp only [List.map_cons, List.map_nil, List.cons.injEq, and_true]
      omega
  split at hlead
  case isTrue _ _ _ hfirst =>
    cases hlead
    match tail, htail with
    | [b, c, d], _ =>
      obtain ⟨hb, hb', hrest⟩ := continuation_cons_eq_some.mp hvalue
      obtain ⟨hc, hc', hrest⟩ := continuation_cons_eq_some.mp hrest
      obtain ⟨hd, hd', hpoint⟩ := continuation_cons_eq_some.mp hrest
      cases hpoint
      rw [utf8Values, if_neg (by omega), if_neg (by omega), if_neg (by omega)]
      simp only [List.map_cons, List.map_nil, List.cons.injEq, and_true]
      omega
  case isFalse => cases hlead

/-! ## The loop -/

theorem encodeUtf8_ne_nil (point : Nat) : encodeUtf8 point ≠ [] := by
  unfold encodeUtf8 utf8Values
  repeat' split
  all_goals simp

theorem utf8SurrogatepassFrom_encode {points : List Nat} (h : ∀ p ∈ points, p < 0x110000)
    (output : List Nat) :
    utf8SurrogatepassFrom (points.flatMap encodeUtf8) output = some (output ++ points) := by
  induction points generalizing output with
  | nil => rw [List.flatMap_nil, utf8SurrogatepassFrom, if_pos rfl, List.append_nil]
  | cons point points ih =>
      have hnext := nextPoint_encodeUtf8 (h point List.mem_cons_self) (points.flatMap encodeUtf8)
      have hne : encodeUtf8 point ++ points.flatMap encodeUtf8 ≠ [] :=
        List.append_ne_nil_of_left_ne_nil (encodeUtf8_ne_nil point) _
      rw [List.flatMap_cons, utf8SurrogatepassFrom, if_neg hne]
      split
      · next hnone =>
          rw [hnext] at hnone
          cases hnone
      · next hsome =>
          rw [hnext] at hsome
          cases hsome
          rw [ih fun p hp => h p (List.mem_cons_of_mem _ hp), List.append_assoc,
            List.singleton_append]

theorem eq_of_utf8SurrogatepassFrom {bytes : List UInt8} {output points : List Nat}
    (h : utf8SurrogatepassFrom bytes output = some points) :
    ∃ added, points = output ++ added ∧ (∀ p ∈ added, p < 0x110000) ∧
      bytes = added.flatMap encodeUtf8 := by
  induction bytes, output using utf8SurrogatepassFrom.induct with
  | case1 output =>
      rw [utf8SurrogatepassFrom, if_pos rfl] at h
      cases h
      exact ⟨[], by simp⟩
  | case2 bytes output hne hnone =>
      rw [utf8SurrogatepassFrom, if_neg hne] at h
      split at h
      · cases h
      · next hsome =>
          rw [hnone] at hsome
          cases hsome
  | case3 bytes output hne point rest hnext ih =>
      rw [utf8SurrogatepassFrom, if_neg hne] at h
      split at h
      · cases h
      next hsome =>
        rw [hnext] at hsome
        cases hsome
        obtain ⟨hpoint, hbytes⟩ := eq_of_nextPoint hnext
        obtain ⟨added, hpoints, hadded, hrest⟩ := ih h
        refine ⟨point :: added, ?_, List.forall_mem_cons.mpr ⟨hpoint, hadded⟩, ?_⟩
        · rw [hpoints, List.append_assoc, List.singleton_append]
        · rw [hbytes, hrest, List.flatMap_cons]

/-- **The decoder accepts exactly the encodings.** -/
theorem utf8Surrogatepass_eq_some {bytes : List UInt8} {points : List Nat} :
    utf8Surrogatepass bytes = some points ↔
      (∀ p ∈ points, p < 0x110000) ∧ bytes = points.flatMap encodeUtf8 := by
  constructor
  · intro h
    obtain ⟨added, hpoints, hadded, hbytes⟩ := eq_of_utf8SurrogatepassFrom h
    rw [List.nil_append] at hpoints
    subst hpoints
    exact ⟨hadded, hbytes⟩
  · rintro ⟨hpoints, rfl⟩
    exact utf8SurrogatepassFrom_encode hpoints []

/-! ## Detection -/

def zeroAt (bytes : List UInt8) (index : Nat) : Bool := bytes[index]? = some 0

/-- The width of a unit, the byte order, and how many bytes the mark takes. -/
def detect (bytes : List UInt8) : Nat × Bool × Nat :=
  if [0xff, 0xfe, 0, 0].isPrefixOf bytes then (4, true, 4)
  else if [0, 0, 0xfe, 0xff].isPrefixOf bytes then (4, false, 4)
  else if [0xff, 0xfe].isPrefixOf bytes then (2, true, 2)
  else if [0xfe, 0xff].isPrefixOf bytes then (2, false, 2)
  else if [0xef, 0xbb, 0xbf].isPrefixOf bytes then (1, false, 3)
  else if 4 ≤ bytes.length ∧ zeroAt bytes 0 then (if zeroAt bytes 1 then 4 else 2, false, 0)
  else if 4 ≤ bytes.length ∧ zeroAt bytes 1 then
    (if zeroAt bytes 2 ∧ zeroAt bytes 3 then 4 else 2, true, 0)
  else if bytes.length = 2 ∧ zeroAt bytes 0 then (2, false, 0)
  else if bytes.length = 2 ∧ zeroAt bytes 1 then (2, true, 0)
  else (1, false, 0)

/-- The units of bytes that are made up of them. -/
def unitsOf (width : Nat) (little : Bool) (bytes : List UInt8) : List Nat :=
  if bytes = [] ∨ width = 0 then []
  else ofBytes little (bytes.take width) :: unitsOf width little (bytes.drop width)
  termination_by bytes.length
  decreasing_by
    rename_i h
    rw [not_or] at h
    have hpos := List.length_pos_iff.mpr h.1
    rw [List.length_drop]
    omega

/-- The loop over the units. -/
def joinUnits (width : Nat) : List Nat → List Nat → Option (List Nat)
  | [], output => some output
  | [point], output => if 0x10ffff < point then none else some (output ++ [point])
  | point :: low :: units, output =>
      if 0x10ffff < point then none
      else if width = 2 ∧ (0xd800 ≤ point ∧ point ≤ 0xdbff) ∧ 0xdc00 ≤ low ∧ low ≤ 0xdfff then
        joinUnits width units (output ++ [0x10000 + ((point - 0xd800) <<< 10) + low - 0xdc00])
      else joinUnits width (low :: units) (output ++ [point])

def decode (bytes : List UInt8) : Option (List Nat) :=
  let (width, little, skip) := detect bytes
  let bytes := bytes.drop skip
  if bytes.length % width ≠ 0 then none
  else if width = 1 then utf8Surrogatepass bytes
  else joinUnits width (unitsOf width little bytes) []

/-! ## Encodings -/

inductive Encoding
  | utf8
  | units (width : UnitWidth) (little : Bool)
  deriving DecidableEq, Repr

namespace Encoding

def encode : Encoding → List Char → List UInt8
  | .utf8, text => text.flatMap String.utf8EncodeChar
  | .units width little, text => encodeUnits width little text

/-- The byte order mark. -/
def mark (encoding : Encoding) : List UInt8 := encoding.encode [Char.ofNat 0xfeff]

def width : Encoding → Nat
  | .utf8 => 1
  | .units width _ => width.bytes

def little : Encoding → Bool
  | .utf8 => false
  | .units _ little => little

end Encoding

/-- A text that starts as a JSON document does: with an ASCII character, and with no null in the
first two. A document has no null anywhere: a string of it escapes its controls. -/
structure JsonStart (text : List Char) : Prop where
  ascii : ∃ c rest, text = c :: rest ∧ 0 < c.toNat ∧ c.toNat < 0x80 ∧
    ∀ d ∈ rest.head?, 0 < d.toNat

/-- The standard encoding of a scalar value is that of its point. -/
theorem utf8EncodeChar_eq (c : Char) : String.utf8EncodeChar c = encodeUtf8 c.toNat := by
  have hlt := toNat_lt c
  have hval : c.val.toNat = c.toNat := rfl
  simp only [String.utf8EncodeChar, hval]
  generalize c.toNat = v at hlt ⊢
  unfold encodeUtf8 utf8Values
  by_cases h1 : v < 0x80
  · rw [if_pos h1, if_pos (by omega)]
    rfl
  by_cases h2 : v < 0x800
  · have ha : v / 64 % 32 + 0xc0 = 0xc0 + v / 64 := by omega
    rw [if_neg h1, if_pos h2, if_neg (by omega), if_pos (by omega), ha, Nat.add_comm (v % 64)]
    rfl
  by_cases h3 : v < 0x10000
  · have ha : v / 4096 % 16 + 0xe0 = 0xe0 + v / 4096 := by omega
    rw [if_neg h1, if_neg h2, if_pos h3, if_neg (by omega), if_neg (by omega), if_pos (by omega),
      ha, Nat.add_comm (v / 64 % 64), Nat.add_comm (v % 64)]
    rfl
  · have ha : v / 262144 % 8 + 0xf0 = 0xf0 + v / 262144 := by omega
    rw [if_neg h1, if_neg h2, if_neg h3, if_neg (by omega), if_neg (by omega), if_neg (by omega),
      ha, Nat.add_comm (v / 4096 % 64), Nat.add_comm (v / 64 % 64), Nat.add_comm (v % 64)]
    rfl

/-! The units of an encoding. -/

theorem unitsOf_toBytes {width : Nat} (hwidth : 0 < width) (little : Bool) {units : List Nat}
    (h : ∀ u ∈ units, u < 256 ^ width) :
    unitsOf width little (units.flatMap (toBytes little width)) = units := by
  induction units with
  | nil =>
      rw [List.flatMap_nil, unitsOf, if_pos (.inl rfl)]
  | cons u units ih =>
      have hne : ¬ (toBytes little width u ++ units.flatMap (toBytes little width) = [] ∨
          width = 0) := by
        rintro (hnil | hzero)
        · have hlength := congrArg List.length hnil
          rw [List.length_append, length_toBytes, List.length_nil] at hlength
          omega
        · omega
      rw [List.flatMap_cons, unitsOf, if_neg hne, take_toBytes_append, drop_toBytes_append,
        ofBytes_toBytes little (h u List.mem_cons_self),
        ih fun v hv => h v (List.mem_cons_of_mem _ hv)]

/-- The units of a text. -/
def textUnits : UnitWidth → List Char → List Nat
  | .two, text => text.flatMap fun c => utf16Units c.toNat
  | .four, text => text.map Char.toNat

theorem encodeUnits_eq (width : UnitWidth) (little : Bool) (text : List Char) :
    encodeUnits width little text = (textUnits width text).flatMap (toBytes little width.bytes) := by
  cases width with
  | two => exact (List.flatMap_assoc ..).symm
  | four =>
      change text.flatMap (fun c => toBytes little 4 c.toNat) = _
      exact (List.flatMap_map ..).symm

theorem joinUnits_push {width point : Nat} (hpoint : point ≤ 0x10ffff)
    (hsingle : ¬ (width = 2 ∧ IsHigh point)) (units output : List Nat) :
    joinUnits width (point :: units) output = joinUnits width units (output ++ [point]) := by
  cases units with
  | nil => rw [joinUnits, joinUnits, if_neg (Nat.not_lt.mpr hpoint)]
  | cons low rest =>
      rw [joinUnits, if_neg (Nat.not_lt.mpr hpoint)]
      exact if_neg fun h => hsingle ⟨h.1, h.2.1⟩

theorem joinUnits_pair {high low : Nat} (hhigh : IsHigh high) (hlow : IsLow low)
    (units output : List Nat) :
    joinUnits 2 (high :: low :: units) output =
      joinUnits 2 units (output ++ [combine high low]) := by
  have hbound : ¬ 0x10ffff < high := by
    unfold IsHigh at hhigh
    omega
  have hpoint : 0x10000 + ((high - 0xd800) <<< 10) + low - 0xdc00 = combine high low := by
    unfold IsLow at hlow
    unfold combine
    omega
  rw [joinUnits, if_neg hbound, ← hpoint]
  exact if_pos ⟨rfl, hhigh, hlow⟩

theorem joinUnits_textUnits (width : UnitWidth) (text : List Char) (output : List Nat) :
    joinUnits width.bytes (textUnits width text) output = some (output ++ text.map Char.toNat) := by
  induction text generalizing output with
  | nil =>
      cases width
      all_goals
        rw [List.map_nil, List.append_nil]
        rfl
  | cons c text ih =>
      have hlt := toNat_lt c
      have hrest := ih (output ++ [c.toNat])
      rw [List.append_assoc, List.singleton_append] at hrest
      rw [List.map_cons, ← hrest]
      cases width with
      | four => exact joinUnits_push (by omega) (fun h => by cases h.1) _ _
      | two =>
          change joinUnits 2 (utf16Units c.toNat ++ textUnits .two text) output = _
          by_cases hplane : c.toNat < 0x10000
          · rw [utf16Units_of_lt hplane]
            exact joinUnits_push (by omega) (fun h => not_isHigh_toNat c h.2) _ _
          · obtain ⟨high, low, hunits, hhigh, hlow, hcombine⟩ :=
              utf16Units_of_le (Nat.le_of_not_lt hplane) hlt
            rw [hunits, ← hcombine]
            exact joinUnits_pair hhigh hlow _ _

/-! What detection sees. -/

/-- An ASCII byte that is no null. -/
def Plain (byte : UInt8) : Prop := byte ≠ 0 ∧ byte < 0x80

theorem Plain.ne {byte : UInt8} (h : Plain byte) :
    byte ≠ 0 ∧ byte ≠ 0xff ∧ byte ≠ 0xfe ∧ byte ≠ 0xef := by
  refine ⟨h.1, ?_, ?_, ?_⟩
  all_goals
    rintro rfl
    exact absurd h.2 (by decide)

section

variable {first : UInt8} (h : Plain first) (rest : List UInt8)
include h

theorem detect_utf8 (hrest : rest.head? ≠ some 0) :
    detect (first :: rest) = (1, false, 0) := by
  obtain ⟨hzero, hff, hfe, hef⟩ := h.ne
  cases rest with
  | nil => simp [detect, zeroAt, List.isPrefixOf]
  | cons second rest =>
      have hsecond : second ≠ 0 := fun heq => hrest (by rw [heq]; rfl)
      simp [detect, zeroAt, List.isPrefixOf, hzero, hsecond, hff.symm, hfe.symm, hef.symm,
        hzero.symm]

theorem detect_little_two (hrest : rest.take 2 ≠ [0, 0]) (hlength : rest = [] ∨ 2 ≤ rest.length) :
    detect (first :: 0 :: rest) = (2, true, 0) := by
  have hzero := h.1
  match rest, hlength with
  | [], _ => simp [detect, zeroAt, List.isPrefixOf, hzero]
  | third :: fourth :: rest, _ =>
      have hsecond : ¬ (third = 0 ∧ fourth = 0) := fun heq => hrest (by rw [heq.1, heq.2]; rfl)
      simp [detect, zeroAt, List.isPrefixOf, hzero, hsecond, hzero.symm]
  | [third], hlength => simp at hlength

theorem detect_big_two (hlength : rest = [] ∨ 2 ≤ rest.length) :
    detect (0 :: first :: rest) = (2, false, 0) := by
  have hzero := h.1
  match rest, hlength with
  | [], _ => simp [detect, zeroAt, List.isPrefixOf]
  | third :: fourth :: rest, _ =>
      simp [detect, zeroAt, List.isPrefixOf, hzero, hzero.symm]
  | [third], hlength => simp at hlength

theorem detect_little_four : detect (first :: 0 :: 0 :: 0 :: rest) = (4, true, 0) := by
  have hzero := h.1
  simp [detect, zeroAt, List.isPrefixOf, hzero]

theorem detect_big_four : detect (0 :: 0 :: 0 :: first :: rest) = (4, false, 0) := by
  have hbound := h.2
  simp [detect, zeroAt, List.isPrefixOf]

theorem detect_mark_little_two : detect (0xff :: 0xfe :: first :: rest) = (2, true, 2) := by
  simp [detect, List.isPrefixOf, h.1.symm]

end

/-! The front of an encoding. -/

theorem plain_ofNat {c : Char} (h : 0 < c.toNat ∧ c.toNat < 0x80) :
    Plain (UInt8.ofNat c.toNat) := by
  have hvalue : (UInt8.ofNat c.toNat).toNat = c.toNat := by
    rw [UInt8.toNat_ofNat']
    omega
  refine ⟨?_, ?_⟩
  · intro hzero
    rw [hzero] at hvalue
    have : c.toNat = 0 := hvalue.symm
    omega
  · rw [UInt8.lt_iff_toNat_lt, hvalue]
    exact h.2

theorem encodeUtf8_ascii {point : Nat} (h : point < 0x80) :
    encodeUtf8 point = [UInt8.ofNat point] := by
  rw [encodeUtf8, utf8Values, if_pos h]
  rfl

theorem head?_encodeUtf8 {point : Nat} (hpos : 0 < point) (h : point < 0x110000)
    (rest : List UInt8) : (encodeUtf8 point ++ rest).head? ≠ some 0 := by
  have hvalues := toNat_encodeUtf8 h
  cases hbytes : encodeUtf8 point with
  | nil => exact absurd hbytes (encodeUtf8_ne_nil point)
  | cons byte bytes =>
      intro hzero
      cases Option.some.inj hzero
      rw [hbytes] at hvalues
      unfold utf8Values at hvalues
      repeat' split at hvalues
      all_goals
        have hhead := congrArg List.head? hvalues
        simp at hhead
        omega

theorem toBytes_two_ascii {point : Nat} (h : point < 0x80) (little : Bool) :
    toBytes little 2 point =
      if little then [UInt8.ofNat point, 0] else [0, UInt8.ofNat point] := by
  have hlow : point % 256 = point := by omega
  have hhigh : point / 256 = 0 := by omega
  cases little <;> simp [toBytes, toLeBytes, hlow, hhigh]

theorem toBytes_four_ascii {point : Nat} (h : point < 0x80) (little : Bool) :
    toBytes little 4 point =
      if little then [UInt8.ofNat point, 0, 0, 0] else [0, 0, 0, UInt8.ofNat point] := by
  have hlow : point % 256 = point := by omega
  have hhigh : point / 256 = 0 := by omega
  cases little <;> simp [toBytes, toLeBytes, hlow, hhigh]

/-- The unit that follows the first is not null. -/
theorem take_textUnits {rest : List Char} (hrest : ∀ d ∈ rest.head?, 0 < d.toNat) :
    ((textUnits .two rest).flatMap (toBytes true 2)).take 2 ≠ [0, 0] := by
  cases rest with
  | nil => simp [textUnits]
  | cons d rest =>
      have hpos := hrest d rfl
      have hlt := toNat_lt d
      obtain ⟨u, units, hunits, hu⟩ : ∃ u units, utf16Units d.toNat = u :: units ∧ 0 < u := by
        unfold utf16Units
        split
        · exact ⟨_, _, rfl, hpos⟩
        · exact ⟨_, _, rfl, by omega⟩
      have hbound : u < 0x10000 := lt_of_mem_utf16Units hlt (by rw [hunits]; exact .head _)
      change ((utf16Units d.toNat ++ textUnits .two rest).flatMap (toBytes true 2)).take 2 ≠ _
      rw [hunits, List.cons_append, List.flatMap_cons, take_toBytes_append]
      intro hzero
      have hvalue := ofBytes_toBytes true (show u < 256 ^ 2 by omega)
      rw [hzero] at hvalue
      have : u = 0 := hvalue.symm
      omega

theorem length_units (width : Nat) (little : Bool) (units : List Nat) :
    (units.flatMap (toBytes little width)).length = units.length * width := by
  induction units with
  | nil => simp
  | cons u units ih =>
      rw [List.flatMap_cons, List.length_append, length_toBytes, ih, List.length_cons,
        Nat.succ_mul, Nat.add_comm]

theorem units_nil_or_two (little : Bool) (units : List Nat) :
    units.flatMap (toBytes little 2) = [] ∨ 2 ≤ (units.flatMap (toBytes little 2)).length := by
  rw [length_units]
  cases units with
  | nil => exact .inl rfl
  | cons u units =>
      right
      rw [List.length_cons]
      omega

/-- **Detection** finds the width and the order, with the mark or without. -/
theorem detect_encode (encoding : Encoding) (marked : Bool) {text : List Char}
    (h : JsonStart text) :
    detect ((if marked then encoding.mark else []) ++ encoding.encode text) =
      (encoding.width, encoding.little, if marked then encoding.mark.length else 0) := by
  obtain ⟨c, rest, rfl, hpos, hascii, hrest⟩ := h.ascii
  have hplain := plain_ofNat ⟨hpos, hascii⟩
  cases encoding with
  | utf8 =>
      have hencode : Encoding.utf8.encode (c :: rest) =
          UInt8.ofNat c.toNat :: rest.flatMap String.utf8EncodeChar := by
        change String.utf8EncodeChar c ++ rest.flatMap String.utf8EncodeChar = _
        rw [utf8EncodeChar_eq, encodeUtf8_ascii hascii]
        rfl
      have hhead : (rest.flatMap String.utf8EncodeChar).head? ≠ some 0 := by
        cases rest with
        | nil => simp
        | cons d rest =>
            rw [List.flatMap_cons, utf8EncodeChar_eq]
            exact head?_encodeUtf8 (hrest d rfl) (toNat_lt d) _
      cases marked with
      | false =>
          rw [hencode]
          exact detect_utf8 hplain _ hhead
      | true =>
          have hmark : Encoding.utf8.mark = [0xef, 0xbb, 0xbf] := by decide
          rw [hmark, hencode]
          simp [detect, List.isPrefixOf, Encoding.width, Encoding.little]
  | units width little =>
      have hencode : (Encoding.units width little).encode (c :: rest) =
          encodeChar width little c ++ (textUnits width rest).flatMap
            (toBytes little width.bytes) := by
        rw [← encodeUnits_eq]
        rfl
      rw [hencode]
      cases width with
      | two =>
          have hfirst : encodeChar .two little c = toBytes little 2 c.toNat := by
            simp [encodeChar, utf16Units_of_lt (show c.toNat < 0x10000 by omega)]
          rw [hfirst, toBytes_two_ascii hascii]
          cases little with
          | false =>
              cases marked with
              | false => exact detect_big_two hplain _ (units_nil_or_two false _)
              | true =>
                  have hmark : (Encoding.units .two false).mark = [0xfe, 0xff] := by decide
                  rw [hmark]
                  simp [detect, List.isPrefixOf, Encoding.width, Encoding.little, UnitWidth.bytes]
          | true =>
              cases marked with
              | false =>
                  exact detect_little_two hplain _ (take_textUnits hrest) (units_nil_or_two true _)
              | true =>
                  have hmark : (Encoding.units .two true).mark = [0xff, 0xfe] := by decide
                  rw [hmark]
                  exact detect_mark_little_two hplain _
      | four =>
          change detect (_ ++ (toBytes little 4 c.toNat ++ _)) = _
          rw [toBytes_four_ascii hascii]
          cases little with
          | false =>
              cases marked with
              | false => exact detect_big_four hplain _
              | true =>
                  have hmark : (Encoding.units .four false).mark = [0, 0, 0xfe, 0xff] := by decide
                  rw [hmark]
                  simp [detect, List.isPrefixOf, Encoding.width, Encoding.little, UnitWidth.bytes]
          | true =>
              cases marked with
              | false => exact detect_little_four hplain _
              | true =>
                  have hmark : (Encoding.units .four true).mark = [0xff, 0xfe, 0, 0] := by decide
                  rw [hmark]
                  simp [detect, List.isPrefixOf, Encoding.width, Encoding.little, UnitWidth.bytes]

theorem textUnits_lt (width : UnitWidth) (text : List Char) :
    ∀ u ∈ textUnits width text, u < 256 ^ width.bytes := by
  intro u hu
  cases width with
  | two =>
      obtain ⟨c, -, hc⟩ := List.mem_flatMap.mp hu
      have := lt_of_mem_utf16Units (toNat_lt c) hc
      change u < 256 ^ 2
      omega
  | four =>
      obtain ⟨c, -, rfl⟩ := List.mem_map.mp hu
      have := toNat_lt c
      change c.toNat < 256 ^ 4
      omega

/-- **Decoding inverts every encoding that is detected.** -/
theorem decode_of_detect (encoding : Encoding) {bytes : List UInt8} {skip : Nat} {text : List Char}
    (hdetect : detect bytes = (encoding.width, encoding.little, skip))
    (hrest : bytes.drop skip = encoding.encode text) :
    decode bytes = some (text.map Char.toNat) := by
  simp only [decode, hdetect, hrest]
  cases encoding with
  | utf8 =>
      have hencode : Encoding.utf8.encode text = (text.map Char.toNat).flatMap encodeUtf8 := by
        change text.flatMap String.utf8EncodeChar = _
        rw [List.flatMap_map, funext utf8EncodeChar_eq]
      have hmod : ¬ (Encoding.utf8.encode text).length % Encoding.utf8.width ≠ 0 :=
        fun hne => hne (Nat.mod_one _)
      rw [if_neg hmod, if_pos (show Encoding.utf8.width = 1 from rfl), utf8Surrogatepass_eq_some,
        hencode]
      refine ⟨?_, rfl⟩
      intro p hp
      obtain ⟨c, -, rfl⟩ := List.mem_map.mp hp
      exact toNat_lt c
  | units width little =>
      have hencode : (Encoding.units width little).encode text =
          (textUnits width text).flatMap (toBytes little width.bytes) :=
        encodeUnits_eq width little text
      have hwidth : 0 < width.bytes ∧ width.bytes ≠ 1 := by cases width <;> decide
      change (if _ % width.bytes ≠ 0 then none else if width.bytes = 1 then _ else
        joinUnits width.bytes (unitsOf width.bytes little _) []) = _
      rw [hencode, length_units, Nat.mul_mod_left, if_neg (not_not.mpr rfl), if_neg hwidth.2,
        unitsOf_toBytes hwidth.1 little (textUnits_lt width text), joinUnits_textUnits]
      rfl

/-- **The encoding of JSON bytes is detected**: a document is decoded from each of its encodings,
with or without the byte order mark, and the decoder of UTF-8 accepts exactly the encodings of code
points, each for one text. -/
theorem json_bytes_decoded :
    (∀ (encoding : Encoding) (marked : Bool) (text : List Char), JsonStart text →
      decode ((if marked then encoding.mark else []) ++ encoding.encode text) =
        some (text.map Char.toNat)) ∧
    (∀ (bytes : List UInt8) (points : List Nat), utf8Surrogatepass bytes = some points ↔
      (∀ p ∈ points, p < 0x110000) ∧ bytes = points.flatMap encodeUtf8) ∧
    (∀ bytes bytes' points, utf8Surrogatepass bytes = some points →
      utf8Surrogatepass bytes' = some points → bytes = bytes') := by
  refine ⟨?_, fun _ _ => utf8Surrogatepass_eq_some, ?_⟩
  · intro encoding marked text h
    refine decode_of_detect encoding (detect_encode encoding marked h) ?_
    cases marked with
    | false => rfl
    | true => exact List.drop_left
  · intro bytes bytes' points h h'
    rw [(utf8Surrogatepass_eq_some.mp h).2, (utf8Surrogatepass_eq_some.mp h').2]

theorem json_bytes_decoded_empty_object :
    JsonStart ['\x7b', '\x7d'] ∧
      decode [0xff, 0xfe, 0x7b, 0, 0x7d, 0] = some [0x7b, 0x7d] ∧
      utf8Surrogatepass [0xed, 0xa0, 0x80] = some [0xd800] := by
  have hsecond : ∀ d ∈ ['\x7d'].head?, 0 < d.toNat := by
    rintro d ⟨⟩
    decide
  have hstart : JsonStart ['\x7b', '\x7d'] := ⟨⟨_, _, rfl, by decide, by decide, hsecond⟩⟩
  refine ⟨hstart, json_bytes_decoded.1 (.units .two true) true _ hstart, ?_⟩
  exact (json_bytes_decoded.2.1 _ _).mpr ⟨by decide, by decide⟩

end Marty.ResponseText
