import Marty.Lib.Unicode

/-!
# UTF-16 and UTF-32 texts

The decoder of UTF-16 and UTF-32, in either byte order, strict and with
replacement, and the choice of the byte order by the byte order mark.

## Main definitions

* `unicodeUnits` — the decoder; `encodeUnits` is the encoding that it is to invert.
* `unicodeText` — the decoder after the byte order mark.

## Main statements

* `unicodeUnits_exact` — the strict decoder accepts exactly the encodings, each for
  what it encodes, and the replacing one extends it to every input.
-/

namespace Marty.ResponseText

open Marty.Lib.Unicode

/-- The widths that the decoder is called with. -/
inductive UnitWidth
  | two
  | four
  deriving DecidableEq, Repr

def UnitWidth.bytes : UnitWidth → Nat
  | .two => 2
  | .four => 4

def replacementCharacter : Char := Char.ofNat 0xfffd

/-- The unit at the front of the bytes. -/
def unitAt (little : Bool) (bytes : List UInt8) : Nat := ofBytes little (bytes.take 2)

/-- The word at the front of the bytes and how many bytes it takes: none where a high surrogate
is followed by an incomplete unit. -/
def wordAt (width : UnitWidth) (little : Bool) (remaining : List UInt8) : Option (Nat × Nat) :=
  match width with
  | .four => some (ofBytes little (remaining.take 4), 4)
  | .two =>
      let first := unitAt little remaining
      if 0xd800 ≤ first ∧ first ≤ 0xdbff then
        if remaining.length < 4 then none
        else
          let second := unitAt little (remaining.drop 2)
          if 0xdc00 ≤ second ∧ second ≤ 0xdfff then
            some (0x10000 + ((first - 0xd800) <<< 10) + (second - 0xdc00), 4)
          else some (first, 2)
      else some (first, 2)

theorem wordAt_pos {width : UnitWidth} {little : Bool} {remaining : List UInt8} {word count : Nat}
    (h : wordAt width little remaining = some (word, count)) : 2 ≤ count := by
  cases width with
  | four =>
      cases h
      decide
  | two =>
      simp only [wordAt] at h
      split at h
      case isTrue =>
          split at h
          case isTrue => cases h
          case isFalse =>
              split at h
              all_goals
                simp only [Option.some.injEq, Prod.mk.injEq] at h
                omega
      case isFalse =>
          simp only [Option.some.injEq, Prod.mk.injEq] at h
          omega

/-- The loop of the decoder. -/
def unicodeUnitsFrom (width : UnitWidth) (little strict : Bool) (remaining : List UInt8)
    (text : List Char) : Option (List Char) :=
  if _hempty : remaining = [] then some text
  else if remaining.length < width.bytes then
    if strict then none else some (text ++ [replacementCharacter])
  else
    match _hword : wordAt width little remaining with
    | none => if strict then none else some (text ++ [replacementCharacter])
    | some (scalar, count) =>
        match fromU32 scalar with
        | some character =>
            unicodeUnitsFrom width little strict (remaining.drop count) (text ++ [character])
        | none =>
            if strict then none
            else unicodeUnitsFrom width little strict (remaining.drop count)
              (text ++ [replacementCharacter])
termination_by remaining.length
decreasing_by
  all_goals
    have hpos := wordAt_pos _hword
    have hlength := List.length_pos_iff.mpr _hempty
    rw [List.length_drop]
    omega

def unicodeUnits (bytes : List UInt8) (width : UnitWidth) (little strict : Bool) :
    Option (List Char) :=
  unicodeUnitsFrom width little strict bytes []

/-! ## The encodings -/

/-- The bytes of a scalar value. -/
def encodeChar (width : UnitWidth) (little : Bool) (c : Char) : List UInt8 :=
  match width with
  | .two => (utf16Units c.toNat).flatMap (toBytes little 2)
  | .four => toBytes little 4 c.toNat

/-- The standard encoding of a text. -/
def encodeUnits (width : UnitWidth) (little : Bool) (text : List Char) : List UInt8 :=
  text.flatMap (encodeChar width little)

theorem take_toBytes_append (little : Bool) (n u : Nat) (rest : List UInt8) :
    (toBytes little n u ++ rest).take n = toBytes little n u :=
  List.take_left' (length_toBytes little n u)

theorem drop_toBytes_append (little : Bool) (n u : Nat) (rest : List UInt8) :
    (toBytes little n u ++ rest).drop n = rest :=
  List.drop_left' (length_toBytes little n u)

theorem unitAt_append {little : Bool} {u : Nat} (h : u < 0x10000) (rest : List UInt8) :
    unitAt little (toBytes little 2 u ++ rest) = u := by
  have hu : u < 256 ^ 2 := by omega
  rw [unitAt, take_toBytes_append, ofBytes_toBytes little hu]

/-- The front of the bytes is the encoding of the unit read there. -/
theorem take_eq_toBytes {little : Bool} {n : Nat} {bytes : List UInt8} (h : n ≤ bytes.length) :
    bytes.take n = toBytes little n (ofBytes little (bytes.take n)) := by
  have hlength : (bytes.take n).length = n := by
    rw [List.length_take]
    omega
  have hbytes := toBytes_ofBytes little (bytes.take n)
  rw [hlength] at hbytes
  exact hbytes.symm

/-- **A character at the front of the bytes is read back.** -/
theorem wordAt_encodeChar (width : UnitWidth) (little : Bool) (c : Char) (rest : List UInt8) :
    wordAt width little (encodeChar width little c ++ rest) =
        some (c.toNat, (encodeChar width little c).length) ∧
      width.bytes ≤ (encodeChar width little c).length := by
  have hlt := toNat_lt c
  cases width with
  | four =>
      have hc : c.toNat < 256 ^ 4 := by omega
      simp [wordAt, encodeChar, ofBytes_toBytes little hc, UnitWidth.bytes]
  | two =>
      by_cases hplane : c.toNat < 0x10000
      · have hhigh : ¬ (0xd800 ≤ c.toNat ∧ c.toNat ≤ 0xdbff) := not_isHigh_toNat c
        have hunit : unitAt little (toBytes little 2 c.toNat ++ rest) = c.toNat :=
          unitAt_append hplane rest
        have hchar : encodeChar .two little c = toBytes little 2 c.toNat := by
          simp [encodeChar, utf16Units_of_lt hplane]
        rw [hchar, length_toBytes]
        refine ⟨?_, Nat.le_refl _⟩
        simp only [wordAt, hunit, if_neg hhigh]
      · obtain ⟨high, low, hunits, hhigh, hlow, hcombine⟩ :=
          utf16Units_of_le (Nat.le_of_not_lt hplane) hlt
        have hhigh' : 0xd800 ≤ high ∧ high ≤ 0xdbff := hhigh
        have hlow' : 0xdc00 ≤ low ∧ low ≤ 0xdfff := hlow
        have hfirst : unitAt little (toBytes little 2 high ++ (toBytes little 2 low ++ rest)) =
            high := unitAt_append (by omega) _
        have hsecond : unitAt little (toBytes little 2 low ++ rest) = low :=
          unitAt_append (by omega) rest
        unfold combine at hcombine
        have hlong : ¬ (toBytes little 2 high ++ (toBytes little 2 low ++ rest)).length < 4 := by
          simp only [List.length_append, length_toBytes]
          omega
        have hchar : encodeChar .two little c = toBytes little 2 high ++ toBytes little 2 low := by
          simp [encodeChar, hunits]
        rw [hchar, List.length_append, length_toBytes, length_toBytes, List.append_assoc]
        refine ⟨?_, by decide⟩
        simp only [wordAt, hfirst, if_pos hhigh', if_neg hlong, drop_toBytes_append, hsecond,
          if_pos hlow', hcombine]

/-- **What is read as a scalar value is its encoding.** -/
theorem take_eq_encodeChar {width : UnitWidth} {little : Bool} {remaining : List UInt8} {c : Char}
    {count : Nat} (hlength : width.bytes ≤ remaining.length)
    (h : wordAt width little remaining = some (c.toNat, count)) :
    remaining.take count = encodeChar width little c := by
  cases width with
  | four =>
      simp only [wordAt, Option.some.injEq, Prod.mk.injEq] at h
      obtain ⟨hword, rfl⟩ := h
      have htake : remaining.take 4 = toBytes little 4 (ofBytes little (remaining.take 4)) :=
        take_eq_toBytes hlength
      rw [htake, hword]
      rfl
  | two =>
      have hfirst : remaining.take 2 = toBytes little 2 (unitAt little remaining) :=
        take_eq_toBytes hlength
      have hsingle : ∀ {u : Nat}, unitAt little remaining = u → u = c.toNat →
          remaining.take 2 = encodeChar .two little c := by
        intro u hu huc
        have hunit : unitAt little remaining < 0x10000 := by
          have hbound := ofBytes_lt little (remaining.take 2)
          have hlength' : (remaining.take 2).length = 2 := List.length_take_of_le hlength
          rw [hlength'] at hbound
          exact hbound
        have hplane : c.toNat < 0x10000 := by omega
        rw [hfirst, hu, huc, encodeChar, utf16Units_of_lt hplane, List.flatMap_cons,
          List.flatMap_nil, List.append_nil]
      simp only [wordAt] at h
      split at h
      case isFalse =>
          simp only [Option.some.injEq, Prod.mk.injEq] at h
          obtain ⟨hword, rfl⟩ := h
          exact hsingle rfl hword
      case isTrue hhigh =>
          split at h
          case isTrue => cases h
          case isFalse hlong =>
              split at h
              case isFalse =>
                  simp only [Option.some.injEq, Prod.mk.injEq] at h
                  obtain ⟨hword, rfl⟩ := h
                  exact hsingle rfl hword
              case isTrue hlow =>
                  simp only [Option.some.injEq, Prod.mk.injEq] at h
                  obtain ⟨hword, rfl⟩ := h
                  have hcombine : combine (unitAt little remaining)
                      (unitAt little (remaining.drop 2)) = c.toNat := hword
                  have hsecond : (remaining.drop 2).take 2 =
                      toBytes little 2 (unitAt little (remaining.drop 2)) := by
                    refine take_eq_toBytes ?_
                    rw [List.length_drop]
                    omega
                  have hunits := utf16Units_combine hhigh hlow
                  rw [hcombine] at hunits
                  rw [show 4 = 2 + 2 from rfl, List.take_add, hfirst, hsecond, encodeChar, hunits]
                  simp

/-! ## The decoder and the encodings -/

section Loop

variable {width : UnitWidth} {little : Bool}

/-- The loop on the encoding of a character. -/
theorem unicodeUnitsFrom_encodeChar (strict : Bool) (c : Char) (rest : List UInt8)
    (text : List Char) :
    unicodeUnitsFrom width little strict (encodeChar width little c ++ rest) text =
      unicodeUnitsFrom width little strict rest (text ++ [c]) := by
  obtain ⟨hword, hwidth⟩ := wordAt_encodeChar width little c rest
  have hpos : 0 < width.bytes := by cases width <;> decide
  have hempty : encodeChar width little c ++ rest ≠ [] := by
    intro hnil
    rw [List.append_eq_nil_iff] at hnil
    rw [hnil.1] at hwidth
    simp at hwidth
    omega
  have hlong : ¬ (encodeChar width little c ++ rest).length < width.bytes := by
    rw [List.length_append]
    omega
  rw [unicodeUnitsFrom, dif_neg hempty, if_neg hlong]
  split
  case h_1 hnone => rw [hword] at hnone; cases hnone
  case h_2 scalar count hsome =>
      rw [hword] at hsome
      cases hsome
      rw [fromU32_toNat, List.drop_left]

theorem unicodeUnitsFrom_encodeUnits (strict : Bool) (t text : List Char) :
    unicodeUnitsFrom width little strict (encodeUnits width little t) text = some (text ++ t) := by
  induction t generalizing text with
  | nil =>
      have hnil : encodeUnits width little [] = [] := rfl
      rw [unicodeUnitsFrom, dif_pos hnil, List.append_nil]
  | cons c t ih =>
      have hcons : encodeUnits width little (c :: t) =
          encodeChar width little c ++ encodeUnits width little t := List.flatMap_cons
      rw [hcons, unicodeUnitsFrom_encodeChar, ih, List.append_assoc]
      rfl

/-- What the strict loop accepts is an encoding of what it adds to the text. -/
theorem unicodeUnitsFrom_strict (remaining : List UInt8) (text t : List Char)
    (h : unicodeUnitsFrom width little true remaining text = some t) :
    ∃ added, t = text ++ added ∧ remaining = encodeUnits width little added := by
  induction hn : remaining.length using Nat.strongRecOn generalizing remaining text with
  | _ n ih =>
    rw [unicodeUnitsFrom] at h
    split at h
    case isTrue hempty =>
        cases h
        exact ⟨[], by simp, by simp [hempty, encodeUnits]⟩
    case isFalse hempty =>
        split at h
        case isTrue => cases h
        case isFalse hlong =>
            split at h
            case h_1 => cases h
            case h_2 scalar count hword =>
                have hcount := wordAt_pos hword
                have hpos := List.length_pos_iff.mpr hempty
                cases hscalar : fromU32 scalar with
                | none =>
                    rw [hscalar] at h
                    cases h
                | some c =>
                    rw [hscalar] at h
                    have hshorter : (remaining.drop count).length < n := by
                      rw [List.length_drop]
                      omega
                    obtain ⟨added, ht, hrest⟩ := ih _ hshorter _ _ h rfl
                    rw [← fromU32_eq_some.mp hscalar] at hword
                    have htake := take_eq_encodeChar (Nat.le_of_not_lt hlong) hword
                    refine ⟨c :: added, by rw [ht, List.append_assoc]; rfl, ?_⟩
                    calc remaining = remaining.take count ++ remaining.drop count :=
                          (List.take_append_drop _ _).symm
                      _ = encodeUnits width little (c :: added) := by
                          rw [htake, hrest]
                          exact List.flatMap_cons.symm

/-- With replacement the loop always ends with a text. -/
theorem unicodeUnitsFrom_replacement (remaining : List UInt8) (text : List Char) :
    ∃ t, unicodeUnitsFrom width little false remaining text = some t := by
  induction hn : remaining.length using Nat.strongRecOn generalizing remaining text with
  | _ n ih =>
    rw [unicodeUnitsFrom]
    split
    case isTrue => exact ⟨_, rfl⟩
    case isFalse hempty =>
        split
        case isTrue => exact ⟨_, rfl⟩
        case isFalse =>
            split
            case h_1 => exact ⟨_, rfl⟩
            case h_2 scalar count hword =>
                have hcount := wordAt_pos hword
                have hpos := List.length_pos_iff.mpr hempty
                have hshorter : (remaining.drop count).length < n := by
                  rw [List.length_drop]
                  omega
                split
                all_goals exact ih _ hshorter _ _ rfl

end Loop

/-- **The decoder is exact.**  In either mode the encoding of a text is decoded to the text.  The
strict decoder accepts nothing else: two byte strings never give one text, and unpaired surrogates,
words out of range and incomplete tails are rejected.  With replacement every input gives a text,
the same as the strict one where there is one. -/
theorem unicodeUnits_exact (width : UnitWidth) (little : Bool) :
    (∀ text strict, unicodeUnits (encodeUnits width little text) width little strict =
      some text) ∧
    (∀ bytes text, unicodeUnits bytes width little true = some text ↔
      bytes = encodeUnits width little text) ∧
    (∀ bytes, ∃ text, unicodeUnits bytes width little false = some text) ∧
    ∀ bytes text, unicodeUnits bytes width little true = some text →
      unicodeUnits bytes width little false = some text := by
  have hencoded : ∀ text strict,
      unicodeUnits (encodeUnits width little text) width little strict = some text :=
    fun text strict => unicodeUnitsFrom_encodeUnits strict text []
  have hstrict : ∀ bytes text, unicodeUnits bytes width little true = some text →
      bytes = encodeUnits width little text := by
    intro bytes text h
    obtain ⟨added, htext, hbytes⟩ := unicodeUnitsFrom_strict bytes [] text h
    rw [htext, hbytes]
    rfl
  refine ⟨hencoded, fun bytes text => ⟨hstrict bytes text, fun h => ?_⟩,
    fun bytes => unicodeUnitsFrom_replacement bytes [], fun bytes text h => ?_⟩
  · rw [h, hencoded]
  · rw [hstrict bytes text h, hencoded]

/-! ## The byte order mark -/

inductive UnicodeEncoding
  | utf16
  | utf16Le
  | utf16Be
  | utf32
  | utf32Le
  | utf32Be
  deriving DecidableEq, Repr

inductive CanvasResponseTextError
  | utf16MissingBom
  | utf32MissingBom
  deriving DecidableEq, Repr

def UnicodeEncoding.width : UnicodeEncoding → UnitWidth
  | .utf16 | .utf16Le | .utf16Be => .two
  | .utf32 | .utf32Le | .utf32Be => .four

def UnicodeEncoding.little : UnicodeEncoding → Bool
  | .utf16Be | .utf32Be => false
  | _ => true

def UnicodeEncoding.generic : UnicodeEncoding → Bool
  | .utf16 | .utf32 => true
  | _ => false

/-- The byte order mark, U+FEFF, of either byte order. -/
def byteOrderMark (width : UnitWidth) (little : Bool) : List UInt8 :=
  match width, little with
  | .two, true => [0xff, 0xfe]
  | .two, false => [0xfe, 0xff]
  | .four, true => [0xff, 0xfe, 0, 0]
  | .four, false => [0, 0, 0xfe, 0xff]

/-- The text of a response.  The inner `none` is the panic of the replacing decoder. -/
def unicodeText (bytes : List UInt8) (encoding : UnicodeEncoding) :
    Except CanvasResponseTextError (Option (List Char)) :=
  let width := encoding.width
  if encoding.generic ∧ width.bytes ≤ bytes.length then
    if (byteOrderMark width true).isPrefixOf bytes then
      .ok (unicodeUnits (bytes.drop width.bytes) width true false)
    else if (byteOrderMark width false).isPrefixOf bytes then
      .ok (unicodeUnits (bytes.drop width.bytes) width false false)
    else .error (if width = .two then .utf16MissingBom else .utf32MissingBom)
  else .ok (unicodeUnits bytes width encoding.little false)

/-- The replacing decoder never panics. -/
theorem unicodeText_isSome {bytes : List UInt8} {encoding : UnicodeEncoding}
    {text : Option (List Char)} (h : unicodeText bytes encoding = .ok text) : text.isSome := by
  have hsome : ∀ bytes width little, (unicodeUnits bytes width little false).isSome := by
    intro bytes width little
    obtain ⟨t, ht⟩ := (unicodeUnits_exact width little).2.2.1 bytes
    rw [ht]
    rfl
  simp only [unicodeText] at h
  split at h
  case isTrue =>
      split at h
      case isTrue => cases h; exact hsome _ _ _
      case isFalse =>
          split at h
          case isTrue => cases h; exact hsome _ _ _
          case isFalse => cases h
  case isFalse => cases h; exact hsome _ _ _

/-- **A marked text is decoded in the byte order of its mark.** -/
theorem unicodeText_marked {encoding : UnicodeEncoding} (hgeneric : encoding.generic = true)
    (little : Bool) (text : List Char) :
    unicodeText (byteOrderMark encoding.width little ++ encodeUnits encoding.width little text)
      encoding = .ok (some text) := by
  have hdecoded := (unicodeUnits_exact encoding.width little).1 text false
  cases encoding <;> cases hgeneric <;> cases little <;>
    simpa [unicodeText, UnicodeEncoding.width, UnicodeEncoding.generic, byteOrderMark,
      UnitWidth.bytes] using hdecoded

end Marty.ResponseText
