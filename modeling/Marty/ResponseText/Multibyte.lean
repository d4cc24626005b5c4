import Mathlib.Data.List.Basic
import Marty.Lib.Checked
import Marty.Lib.Unicode

/-!
# Complete-input multibyte texts

The decoder that the variable-width codecs share, and the two codecs that it is used
for, GB18030 and EUC-KR, over any tables that pass the assertions made when they are
built.

## Main definitions

* `Codec`, `Codec.decodeComplete` — the shared decoder.
* `Gb18030.Decoder`, `EucKr.Decoder` — the codecs, with their tables.

## Main statements

* `codecs_prefixHomomorphism` — what an input is decoded to does not depend on what
  follows it, once the strict decoder accepts it.
-/

namespace Marty.ResponseText.Multibyte

open Marty.Lib Marty.Lib.Unicode

/-- An index out of bounds, an arithmetic overflow or a failed `unwrap`. -/
inductive Panic
  | raised
  deriving DecidableEq, Repr

def isAscii (byte : UInt8) : Bool := byte < 128

def replacementCharacter : Char := Char.ofNat 0xfffd

/-! ## The shared decoder -/

/-- A codec: the length of the sequence at the front of the bytes, and its scalar value. -/
structure Codec where
  width : List UInt8 → Nat
  scalar : List UInt8 → Except Panic (Option Char)
  width_pos : ∀ bytes, 0 < width bytes

/-- The character of the sequence at the front: none where the sequence is incomplete. -/
def Codec.value (codec : Codec) (bytes : List UInt8) : Except Panic (Option Char) :=
  if bytes.length < codec.width bytes then pure none
  else codec.scalar (bytes.take (codec.width bytes))

/-- One pass of the loop: the character at the front, if there is one, and how many bytes the
pass consumes. -/
def Codec.iteration (codec : Codec) (first : UInt8) (bytes : List UInt8) :
    Except Panic (Option Char × Nat) :=
  if isAscii first then pure (some (Char.ofNat first.toNat), 1)
  else do
    match ← codec.value bytes with
    | some value => pure (some value, codec.width bytes)
    | none => pure (none, if bytes.length < codec.width bytes then bytes.length else 1)

theorem Codec.iteration_pos {codec : Codec} {first : UInt8} {rest : List UInt8}
    {value : Option Char} {consumed : Nat}
    (h : codec.iteration first (first :: rest) = .ok (value, consumed)) :
    1 ≤ consumed ∧ consumed ≤ (first :: rest).length := by
  have hlength : 1 ≤ (first :: rest).length := by simp
  have hwidth := codec.width_pos (first :: rest)
  unfold Codec.iteration at h
  split at h
  case isTrue =>
      cases h
      exact ⟨Nat.le_refl _, hlength⟩
  case isFalse =>
      obtain ⟨value', hvalue, h⟩ := Checked.bind_eq_ok.mp h
      cases value' with
      | none =>
          cases h
          by_cases hincomplete : (first :: rest).length < codec.width (first :: rest)
          · rw [if_pos hincomplete]
            exact ⟨hlength, Nat.le_refl _⟩
          · rw [if_neg hincomplete]
            exact ⟨Nat.le_refl _, hlength⟩
      | some c =>
          cases h
          by_cases hincomplete : (first :: rest).length < codec.width (first :: rest)
          · rw [Codec.value, if_pos hincomplete] at hvalue
            cases hvalue
          · exact ⟨hwidth, Nat.le_of_not_lt hincomplete⟩

/-- The loop, after `output`. -/
def Codec.decodeFrom (codec : Codec) (strict : Bool) :
    List UInt8 → List Char → Except Panic (Option (List Char))
  | [], output => .ok (some output)
  | first :: rest, output =>
      match _h : codec.iteration first (first :: rest) with
      | .error stop => .error stop
      | .ok (some value, consumed) =>
          codec.decodeFrom strict ((first :: rest).drop consumed) (output ++ [value])
      | .ok (none, consumed) =>
          if strict then .ok none
          else codec.decodeFrom strict ((first :: rest).drop consumed)
            (output ++ [replacementCharacter])
termination_by bytes => bytes.length
decreasing_by
  all_goals
    have hpos := Codec.iteration_pos _h
    rw [List.length_drop]
    omega

def Codec.decodeComplete (codec : Codec) (bytes : List UInt8) (strict : Bool) :
    Except Panic (Option (List Char)) :=
  codec.decodeFrom strict bytes []

/-! ## Tables of pairs -/

/-- The pairs of a codec by their two bytes; `u32::MAX` stands where there is no character. -/
structure Pairs where
  values : List Nat
  length : values.length = 128 * 256
  valid : ∀ scalar ∈ values, scalar = 2 ^ 32 - 1 ∨ scalar.isValidChar

/-- Tables without a character. -/
instance : Inhabited Pairs where
  default :=
    { values := List.replicate (128 * 256) (2 ^ 32 - 1)
      length := List.length_replicate
      valid := fun _ h => .inl (List.eq_of_mem_replicate h) }

def Pairs.scalar (pairs : Pairs) : List UInt8 → Except Panic (Option Char)
  | first :: second :: _ =>
      if first < 128 then .error .raised
      else
        match pairs.values[(first.toNat - 128) * 256 + second.toNat]? with
        | some value => .ok (fromU32 value)
        | none => .error .raised
  | _ => .error .raised

theorem Pairs.scalar_ok (pairs : Pairs) {first second : UInt8} (rest : List UInt8)
    (h : isAscii first = false) : ∃ value, pairs.scalar (first :: second :: rest) = .ok value := by
  have hfirst : ¬ first < 128 := by simpa [isAscii] using h
  have hlt := first.toNat_lt
  have hsecond := second.toNat_lt
  have hindex : (first.toNat - 128) * 256 + second.toNat < pairs.values.length := by
    rw [pairs.length]
    omega
  rw [Pairs.scalar, if_neg hfirst, List.getElem?_eq_getElem hindex]
  exact ⟨_, rfl⟩

/-! ## GB18030 -/

namespace Gb18030

def pointerCount : Nat := 126 * 10 * 126 * 10

structure Range where
  start : Nat
  stop : Nat
  scalar : Nat
  deriving DecidableEq, Repr

/-- The assertions on the ranges that follow a range that ends at `previousEnd`. -/
def RangesFrom (previousEnd : Nat) : List Range → Prop
  | [] => True
  | range :: ranges =>
      let last := range.scalar + (range.stop - range.start - 1)
      previousEnd ≤ range.start ∧ range.start < range.stop ∧ range.stop ≤ pointerCount ∧
        last < 2 ^ 32 ∧ range.scalar.isValidChar ∧ last.isValidChar ∧
        (last < 0xd800 ∨ 0xdfff < range.scalar) ∧ RangesFrom range.stop ranges

structure Decoder where
  pairs : Pairs
  ranges : List Range
  ordered : RangesFrom 0 ranges

instance : Inhabited Decoder := ⟨⟨default, [], trivial⟩⟩

/-- The index of the first range that `p` does not hold of, where it holds of those before. -/
def partitionPoint (p : Range → Bool) (ranges : List Range) : Nat := (ranges.takeWhile p).length

def isDigit (byte : UInt8) : Bool := 48 ≤ byte ∧ byte ≤ 57

def isLead (byte : UInt8) : Bool := 0x81 ≤ byte ∧ byte ≤ 0xfe

def Decoder.fourByteScalar (d : Decoder) (b₀ b₁ b₂ b₃ : UInt8) : Except Panic (Option Char) :=
  if !isLead b₀ || !isLead b₂ || !isDigit b₃ then .ok none
  else if b₁ < 48 then .error .raised
  else
    let pointer := (b₀.toNat - 0x81) * 12600 + (b₁.toNat - 48) * 1260 + (b₂.toNat - 0x81) * 10 +
      (b₃.toNat - 48)
    let index := partitionPoint (fun range => range.stop ≤ pointer) d.ranges
    match d.ranges[index]? with
    | none => .ok none
    | some range =>
        if range.start ≤ pointer ∧ pointer < range.stop then
          match fromU32 (range.scalar + pointer - range.start) with
          | some character => .ok (some character)
          | none => .error .raised
        else .ok none

def width (bytes : List UInt8) : Nat := if (bytes[1]?).any isDigit then 4 else 2

def Decoder.scalar (d : Decoder) (bytes : List UInt8) : Except Panic (Option Char) :=
  match bytes with
  | [b₀, b₁, b₂, b₃] => d.fourByteScalar b₀ b₁ b₂ b₃
  | bytes => d.pairs.scalar bytes

def Decoder.codec (d : Decoder) : Codec where
  width := width
  scalar := d.scalar
  width_pos bytes := by
    unfold width
    split <;> omega

def Decoder.decode (d : Decoder) (bytes : List UInt8) (strict : Bool) :
    Except Panic (Option (List Char)) :=
  d.codec.decodeComplete bytes strict

theorem RangesFrom.mem {previousEnd : Nat} {ranges : List Range} (h : RangesFrom previousEnd ranges)
    {range : Range} (hmem : range ∈ ranges) :
    range.scalar.isValidChar ∧ (range.scalar + (range.stop - range.start - 1)).isValidChar ∧
      (range.scalar + (range.stop - range.start - 1) < 0xd800 ∨ 0xdfff < range.scalar) := by
  induction ranges generalizing previousEnd with
  | nil => cases hmem
  | cons head ranges ih =>
      obtain ⟨-, -, -, -, hfirst, hlast, hsurrogate, hrest⟩ := h
      rcases List.mem_cons.mp hmem with heq | hmem
      · subst heq
        exact ⟨hfirst, hlast, hsurrogate⟩
      · exact ih hrest hmem

theorem Decoder.fourByteScalar_ok (d : Decoder) (b₀ b₂ b₃ : UInt8) {b₁ : UInt8}
    (h : isDigit b₁ = true) : ∃ value, d.fourByteScalar b₀ b₁ b₂ b₃ = .ok value := by
  have hdigit : ¬ b₁ < 48 := by
    simp [isDigit] at h
    exact UInt8.not_lt.mpr h.1
  by_cases hbytes : !isLead b₀ || !isLead b₂ || !isDigit b₃
  · rw [Decoder.fourByteScalar, if_pos hbytes]
    exact ⟨_, rfl⟩
  · rw [Decoder.fourByteScalar, if_neg hbytes, if_neg hdigit]
    dsimp only
    split
    case h_1 => exact ⟨_, rfl⟩
    case h_2 range hrange =>
        obtain ⟨hfirst, hlast, hsurrogate⟩ := d.ordered.mem (List.mem_of_getElem? hrange)
        split
        case isFalse => exact ⟨_, rfl⟩
        case isTrue hpointer =>
            split
            case h_1 => exact ⟨_, rfl⟩
            case h_2 hnone =>
                -- between two scalar values on one side of the surrogates there are only
                -- scalar values
                rw [fromU32_eq_none] at hnone
                unfold Nat.isValidChar at hfirst hlast
                unfold IsHigh IsLow at hnone
                omega

end Gb18030

/-! ## EUC-KR -/

namespace EucKr

/-- The offsets that the bytes of one component stand for. -/
structure Component (count stride : Nat) where
  row : List (Option Nat)
  length : row.length = 256
  offsets : (row.filterMap id).mergeSort = (List.range count).map (· * stride)

/-- The offsets in the order of their bytes. -/
def Component.inOrder (count stride : Nat) (h : count ≤ 256) : Component count stride where
  row := (List.range count).map (fun index => some (index * stride)) ++
    List.replicate (256 - count) none
  length := by
    simp
    omega
  offsets := by
    have hsorted : ((List.range count).map (· * stride)).Pairwise
        fun a b => decide (a ≤ b) = true := by
      rw [List.pairwise_map]
      refine List.pairwise_lt_range.imp fun hlt => ?_
      exact decide_eq_true (Nat.mul_le_mul_right stride (Nat.le_of_lt hlt))
    have hrow : ((List.range count).map (fun index => some (index * stride)) ++
        List.replicate (256 - count) none).filterMap id = (List.range count).map (· * stride) := by
      rw [List.filterMap_append]
      simp [List.filterMap_map]
    rw [hrow, List.mergeSort_of_pairwise hsorted]

structure Decoder where
  pairs : Pairs
  initial : Component 19 588
  medial : Component 21 28
  final : Component 28 1

instance : Inhabited Decoder :=
  ⟨⟨default, .inOrder _ _ (by decide), .inOrder _ _ (by decide), .inOrder _ _ (by decide)⟩⟩

def baseScalar : Nat := 0xac00

/-- The offset of a byte. -/
def Component.offset {count stride : Nat} (c : Component count stride) (byte : UInt8) :
    Except Panic (Option Nat) :=
  match c.row[byte.toNat]? with
  | some offset => .ok offset
  | none => .error .raised

def Decoder.composed (d : Decoder) (b₂ b₃ b₄ b₅ b₆ b₇ : UInt8) : Except Panic (Option Char) :=
  if ¬ (b₂ = 0xa4 ∧ b₄ = 0xa4 ∧ b₆ = 0xa4) then .ok none
  else do
    match ← d.initial.offset b₃ with
    | none => pure none
    | some initial =>
        match ← d.medial.offset b₅ with
        | none => pure none
        | some medial =>
            match ← d.final.offset b₇ with
            | none => pure none
            | some final => pure (fromU32 (baseScalar + initial + medial + final))

def width (bytes : List UInt8) : Nat := if [0xa4, 0xd4].isPrefixOf bytes then 8 else 2

def Decoder.scalar (d : Decoder) (bytes : List UInt8) : Except Panic (Option Char) :=
  if bytes.length = 2 then d.pairs.scalar bytes
  else
    match bytes with
    | [_, _, b₂, b₃, b₄, b₅, b₆, b₇] => d.composed b₂ b₃ b₄ b₅ b₆ b₇
    | _ => .error .raised

def Decoder.codec (d : Decoder) : Codec where
  width := width
  scalar := d.scalar
  width_pos bytes := by
    unfold width
    split <;> omega

def Decoder.decode (d : Decoder) (bytes : List UInt8) (strict : Bool) :
    Except Panic (Option (List Char)) :=
  d.codec.decodeComplete bytes strict

theorem Component.offset_ok {count stride : Nat} (c : Component count stride) (byte : UInt8) :
    ∃ offset, c.offset byte = .ok offset := by
  have hindex : byte.toNat < c.row.length := by
    rw [c.length]
    exact byte.toNat_lt
  rw [Component.offset, List.getElem?_eq_getElem hindex]
  exact ⟨_, rfl⟩

theorem Decoder.composed_ok (d : Decoder) (b₂ b₃ b₄ b₅ b₆ b₇ : UInt8) :
    ∃ value, d.composed b₂ b₃ b₄ b₅ b₆ b₇ = .ok value := by
  obtain ⟨initial, hinitial⟩ := d.initial.offset_ok b₃
  obtain ⟨medial, hmedial⟩ := d.medial.offset_ok b₅
  obtain ⟨final, hfinal⟩ := d.final.offset_ok b₇
  unfold Decoder.composed
  split
  case isTrue => exact ⟨_, rfl⟩
  case isFalse =>
      rw [hinitial, hmedial, hfinal]
      cases initial <;> cases medial <;> cases final <;> exact ⟨_, rfl⟩

end EucKr

/-! ## Prefixes -/

/-- A codec whose decoding of an accepted input does not depend on what follows. -/
structure PrefixHomomorphism (codec : Codec) : Prop where
  /-- An accepted input is a prefix that is decoded on its own. -/
  append : ∀ strict a b s, codec.decodeComplete a true = .ok (some s) →
    codec.decodeComplete (a ++ b) strict =
      (codec.decodeComplete b strict).map (Option.map (s ++ ·))
  /-- An accepted input has the same text with replacement. -/
  replacement : ∀ a s, codec.decodeComplete a true = .ok (some s) →
    codec.decodeComplete a false = .ok (some s)
  /-- With replacement every input has a text. -/
  total : ∀ a, ∃ s, codec.decodeComplete a false = .ok (some s)
  /-- Nothing panics. -/
  safe : ∀ a strict, ∃ s, codec.decodeComplete a strict = .ok s
  /-- A pass consumes some of the bytes that there are. -/
  consumes : ∀ first rest, ∃ value consumed,
    codec.iteration first (first :: rest) = .ok (value, consumed) ∧
      1 ≤ consumed ∧ consumed ≤ (first :: rest).length

/-- What the shared decoder asks of a codec: a sequence that is there in full is not read
differently when more follows, and no complete sequence panics. -/
structure Codec.Stable (codec : Codec) : Prop where
  width : ∀ a b, codec.width a ≤ a.length → codec.width (a ++ b) = codec.width a
  scalar : ∀ first rest, isAscii first = false →
    codec.width (first :: rest) ≤ (first :: rest).length →
    ∃ value, codec.scalar ((first :: rest).take (codec.width (first :: rest))) = .ok value

section Stable

variable {codec : Codec}

theorem Codec.Stable.iteration_ok (h : codec.Stable) (first : UInt8) (rest : List UInt8) :
    ∃ value consumed, codec.iteration first (first :: rest) = .ok (value, consumed) := by
  by_cases hascii : isAscii first
  · rw [Codec.iteration, if_pos hascii]
    exact ⟨_, _, rfl⟩
  · rw [Codec.iteration, if_neg hascii]
    by_cases hincomplete : (first :: rest).length < codec.width (first :: rest)
    · rw [Codec.value, if_pos hincomplete]
      exact ⟨_, _, rfl⟩
    · obtain ⟨value, hvalue⟩ := h.scalar first rest (by simpa using hascii)
        (Nat.le_of_not_lt hincomplete)
      rw [Codec.value, if_neg hincomplete, hvalue]
      cases value <;> exact ⟨_, _, rfl⟩

/-- A character at the front is read in the same way when more follows. -/
theorem Codec.Stable.iteration_append (h : codec.Stable) {first : UInt8} {rest : List UInt8}
    {c : Char} {consumed : Nat}
    (hpass : codec.iteration first (first :: rest) = .ok (some c, consumed)) (b : List UInt8) :
    codec.iteration first (first :: (rest ++ b)) = .ok (some c, consumed) := by
  unfold Codec.iteration at hpass ⊢
  split at hpass
  case isTrue hascii => rw [if_pos hascii]; exact hpass
  case isFalse hascii =>
      rw [if_neg hascii]
      obtain ⟨value, hvalue, hpass⟩ := Checked.bind_eq_ok.mp hpass
      cases value with
      | none => cases hpass
      | some c' =>
          cases hpass
          unfold Codec.value at hvalue
          split at hvalue
          case isTrue => cases hvalue
          case isFalse hincomplete =>
              have hle := Nat.le_of_not_lt hincomplete
              have hwidth := h.width (first :: rest) b hle
              rw [List.cons_append] at hwidth
              have hlong : ¬ (first :: (rest ++ b)).length < codec.width (first :: rest) := by
                rw [← List.cons_append, List.length_append]
                omega
              have htake : (first :: (rest ++ b)).take (codec.width (first :: rest)) =
                  (first :: rest).take (codec.width (first :: rest)) := by
                rw [← List.cons_append, List.take_append_of_le_length hle]
              rw [Codec.value, hwidth, if_neg hlong, htake, hvalue]
              rfl

theorem Codec.decodeFrom_some {first : UInt8} {rest : List UInt8} {c : Char} {consumed : Nat}
    (h : codec.iteration first (first :: rest) = .ok (some c, consumed)) (strict : Bool)
    (output : List Char) :
    codec.decodeFrom strict (first :: rest) output =
      codec.decodeFrom strict ((first :: rest).drop consumed) (output ++ [c]) := by
  rw [Codec.decodeFrom]
  split
  case h_1 stop hp => rw [h] at hp; cases hp
  case h_2 c' consumed' hp => rw [h] at hp; cases hp; rfl
  case h_3 consumed' hp => rw [h] at hp; cases hp

theorem Codec.decodeFrom_none {first : UInt8} {rest : List UInt8} {consumed : Nat}
    (h : codec.iteration first (first :: rest) = .ok (none, consumed)) (strict : Bool)
    (output : List Char) :
    codec.decodeFrom strict (first :: rest) output =
      if strict then .ok none
      else codec.decodeFrom strict ((first :: rest).drop consumed)
        (output ++ [replacementCharacter]) := by
  rw [Codec.decodeFrom]
  split
  case h_1 stop hp => rw [h] at hp; cases hp
  case h_2 c' consumed' hp => rw [h] at hp; cases hp
  case h_3 consumed' hp => rw [h] at hp; cases hp; rfl

/-- What was decoded before stands at the front of what the loop returns. -/
theorem Codec.Stable.decodeFrom_output (h : codec.Stable) (strict : Bool) (bytes : List UInt8)
    (output : List Char) :
    codec.decodeFrom strict bytes output =
      (codec.decodeFrom strict bytes []).map (Option.map (output ++ ·)) := by
  induction hn : bytes.length using Nat.strongRecOn generalizing bytes output with
  | _ n ih =>
    cases bytes with
    | nil =>
        rw [Codec.decodeFrom, Codec.decodeFrom]
        simp [Except.map]
    | cons first rest =>
        obtain ⟨value, consumed, hpass⟩ := h.iteration_ok first rest
        have hpos := Codec.iteration_pos hpass
        have hshorter : ((first :: rest).drop consumed).length < n := by
          rw [List.length_drop]
          omega
        have hcompose : ∀ c, codec.decodeFrom strict ((first :: rest).drop consumed)
            (output ++ [c]) = (codec.decodeFrom strict ((first :: rest).drop consumed)
              ([] ++ [c])).map (Option.map (output ++ ·)) := by
          intro c
          rw [ih _ hshorter _ _ rfl, ih _ hshorter _ ([] ++ [c]) rfl]
          cases codec.decodeFrom strict ((first :: rest).drop consumed) [] with
          | error stop => rfl
          | ok text => cases text <;> simp [Except.map]
        cases value with
        | some c => rw [Codec.decodeFrom_some hpass, Codec.decodeFrom_some hpass, hcompose]
        | none =>
            rw [Codec.decodeFrom_none hpass, Codec.decodeFrom_none hpass]
            cases strict
            · exact hcompose _
            · rfl

/-- **An accepted input in front of another** is decoded first, and the loop goes on with the
other. -/
theorem Codec.Stable.decodeFrom_append (h : codec.Stable) (strict : Bool) (a b : List UInt8)
    (output s : List Char) (ha : codec.decodeFrom true a output = .ok (some s)) :
    codec.decodeFrom strict (a ++ b) output = codec.decodeFrom strict b s := by
  induction hn : a.length using Nat.strongRecOn generalizing a output with
  | _ n ih =>
    cases a with
    | nil =>
        rw [Codec.decodeFrom] at ha
        cases ha
        rfl
    | cons first rest =>
        obtain ⟨value, consumed, hpass⟩ := h.iteration_ok first rest
        cases value with
        | none =>
            rw [Codec.decodeFrom_none hpass] at ha
            cases ha
        | some c =>
            have hpos := Codec.iteration_pos hpass
            have hshorter : ((first :: rest).drop consumed).length < n := by
              rw [List.length_drop]
              omega
            rw [Codec.decodeFrom_some hpass] at ha
            rw [List.cons_append, Codec.decodeFrom_some (h.iteration_append hpass b),
              ← List.cons_append, List.drop_append_of_le_length hpos.2]
            exact ih _ hshorter _ _ ha rfl

theorem Codec.Stable.decodeFrom_total (h : codec.Stable) (bytes : List UInt8)
    (output : List Char) : ∃ s, codec.decodeFrom false bytes output = .ok (some s) := by
  induction hn : bytes.length using Nat.strongRecOn generalizing bytes output with
  | _ n ih =>
    cases bytes with
    | nil => exact ⟨output, by rw [Codec.decodeFrom]⟩
    | cons first rest =>
        obtain ⟨value, consumed, hpass⟩ := h.iteration_ok first rest
        have hpos := Codec.iteration_pos hpass
        have hshorter : ((first :: rest).drop consumed).length < n := by
          rw [List.length_drop]
          omega
        cases value with
        | some c =>
            rw [Codec.decodeFrom_some hpass]
            exact ih _ hshorter _ _ rfl
        | none =>
            rw [Codec.decodeFrom_none hpass]
            exact ih _ hshorter _ _ rfl

theorem Codec.Stable.decodeFrom_safe (h : codec.Stable) (strict : Bool) (bytes : List UInt8)
    (output : List Char) : ∃ s, codec.decodeFrom strict bytes output = .ok s := by
  induction hn : bytes.length using Nat.strongRecOn generalizing bytes output with
  | _ n ih =>
    cases bytes with
    | nil => exact ⟨some output, by rw [Codec.decodeFrom]⟩
    | cons first rest =>
        obtain ⟨value, consumed, hpass⟩ := h.iteration_ok first rest
        have hpos := Codec.iteration_pos hpass
        have hshorter : ((first :: rest).drop consumed).length < n := by
          rw [List.length_drop]
          omega
        cases value with
        | some c =>
            rw [Codec.decodeFrom_some hpass]
            exact ih _ hshorter _ _ rfl
        | none =>
            rw [Codec.decodeFrom_none hpass]
            cases strict
            · exact ih _ hshorter _ _ rfl
            · exact ⟨none, rfl⟩

theorem Codec.Stable.prefixHomomorphism (h : codec.Stable) : PrefixHomomorphism codec where
  append strict a b s ha := by
    rw [Codec.decodeComplete, h.decodeFrom_append strict a b [] s ha, h.decodeFrom_output]
    rfl
  replacement a s ha := by
    have happend := h.decodeFrom_append false a [] [] s ha
    rw [List.append_nil] at happend
    rw [Codec.decodeComplete, happend, Codec.decodeFrom]
  total a := h.decodeFrom_total a []
  safe a strict := h.decodeFrom_safe strict a []
  consumes first rest := by
    obtain ⟨value, consumed, hpass⟩ := h.iteration_ok first rest
    exact ⟨value, consumed, hpass, Codec.iteration_pos hpass⟩

end Stable

/-- The second byte decides, and it is there. -/
theorem Gb18030.Decoder.stable (d : Gb18030.Decoder) : d.codec.Stable where
  width a b h := by
    have hlong : 2 ≤ a.length := by
      refine Nat.le_trans ?_ h
      show 2 ≤ Gb18030.width a
      unfold Gb18030.width
      split <;> omega
    have hsecond : (a ++ b)[1]? = a[1]? := List.getElem?_append_left (by omega)
    show Gb18030.width (a ++ b) = Gb18030.width a
    rw [Gb18030.width, Gb18030.width, hsecond]
  scalar first rest hascii h := by
    show ∃ value, d.scalar ((first :: rest).take (Gb18030.width (first :: rest))) = .ok value
    replace h : Gb18030.width (first :: rest) ≤ (first :: rest).length := h
    unfold Gb18030.width at h ⊢
    split at h
    case isFalse hsecond =>
        match rest with
        | second :: rest =>
            rw [if_neg hsecond]
            exact d.pairs.scalar_ok [] hascii
        | [] => simp at h
    case isTrue hsecond =>
        match rest with
        | b₁ :: b₂ :: b₃ :: rest =>
            rw [if_pos hsecond]
            exact d.fourByteScalar_ok first b₂ b₃ (by simpa using hsecond)
        | [] | [_] | [_, _] => simp at h

/-- The first two bytes decide, and they are there. -/
theorem EucKr.Decoder.stable (d : EucKr.Decoder) : d.codec.Stable where
  width a b h := by
    have hlong : 2 ≤ a.length := by
      refine Nat.le_trans ?_ h
      show 2 ≤ EucKr.width a
      unfold EucKr.width
      split <;> omega
    show EucKr.width (a ++ b) = EucKr.width a
    match a with
    | first :: second :: a => simp [EucKr.width]
    | [] | [_] => simp at hlong
  scalar first rest hascii h := by
    show ∃ value, d.scalar ((first :: rest).take (EucKr.width (first :: rest))) = .ok value
    replace h : EucKr.width (first :: rest) ≤ (first :: rest).length := h
    unfold EucKr.width at h ⊢
    split at h
    case isFalse hprefix =>
        match rest with
        | second :: rest =>
            rw [if_neg hprefix]
            exact d.pairs.scalar_ok [] hascii
        | [] => simp at h
    case isTrue hprefix =>
        rw [if_pos hprefix]
        match rest with
        | b₁ :: b₂ :: b₃ :: b₄ :: b₅ :: b₆ :: b₇ :: rest =>
            exact d.composed_ok b₂ b₃ b₄ b₅ b₆ b₇
        | [] | [_] | [_, _] | [_, _, _] | [_, _, _, _] | [_, _, _, _, _] | [_, _, _, _, _, _] =>
            simp at h

/-- **Complete-input decoding is a prefix homomorphism**, for both codecs over any tables. -/
theorem codecs_prefixHomomorphism (gb18030 : Gb18030.Decoder) (eucKr : EucKr.Decoder) :
    PrefixHomomorphism gb18030.codec ∧ PrefixHomomorphism eucKr.codec :=
  ⟨gb18030.stable.prefixHomomorphism, eucKr.stable.prefixHomomorphism⟩

end Marty.ResponseText.Multibyte
