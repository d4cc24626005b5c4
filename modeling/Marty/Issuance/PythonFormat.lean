import Mathlib.Data.List.TakeWhile
import Marty.Lib.Checked
import Marty.Lib.Unicode

/-!
# Formatting a text by a Python format specifier

The `str` case of Python's format mini-language: how a specifier is parsed, which of
its parts a text refuses, and the text that comes out.  Texts are lists of code
points, and the cursor into the specifier is what is left of it.

## Main definitions

* `stringFormat` — the formatter.
* `Specifier`, `Specifier.text` — the specifiers that a text accepts, by their parts.

## Main statements

* `stringFormat_eq_ok` — the formatter succeeds exactly on these, and returns what
  their parts say.
-/

namespace Marty.Issuance.PythonFormat

open Marty.Lib Marty.Lib.Checked Marty.Lib.Unicode

inductive PythonFormatErrorKind
  | keyError
  | indexError
  | valueError
  | typeError
  | attributeError
  | unmodeledCapability
  | resourceFailure
  deriving DecidableEq, Repr

structure PythonFormatError where
  kind : PythonFormatErrorKind
  message : List Nat
  deriving DecidableEq, Repr

/-- How a call ends without a text: with an error, or with an allocation that aborts. -/
inductive Stop
  | failed (error : PythonFormatError)
  | aborted
  deriving DecidableEq, Repr

/-- What the formatter runs on: the width of an address, the integer that a text of one character
is parsed to, and the allocations that succeed. -/
structure Runtime where
  isizeMax : Nat
  parseInteger : Char → Option Int
  reserve : Nat → Nat → Bool
  reserveExact : Nat → Bool

def points (text : String) : List Nat := text.toList.map Char.toNat

def invalid (message : String) : Stop := .failed ⟨.valueError, points message⟩

def resource : Stop :=
  .failed ⟨.resourceFailure, points "Formatting allocation could not be represented or reserved"⟩

variable (rt : Runtime)

def append (output value : List Nat) : Except Stop (List Nat) := do
  rejectIf (rt.isizeMax < output.length + value.length) resource
  rejectIf (rt.reserve output.length value.length = false) resource
  pure (output ++ value)

/-- A copy of a text, whose allocation is not checked. -/
def toVec (value : List Nat) : Except Stop (List Nat) := do
  rejectIf (¬ (value.length ≤ rt.isizeMax ∧ rt.reserveExact value.length)) .aborted
  pure value

def digit (point : Nat) : Option Nat := do
  let character ← fromU32 point
  let parsed ← rt.parseInteger character
  if 0 ≤ parsed ∧ parsed < 10 then some parsed.toNat else none

/-- The digits at the front, after those that make up `value`.  A product or a sum past the word
is past `isize::MAX` as well. -/
def decimalLoop (value : Nat) : List Nat → Except Stop (Nat × List Nat)
  | [] => pure (value, [])
  | point :: rest =>
      match digit rt point with
      | none => pure (value, point :: rest)
      | some next =>
          if rt.isizeMax < value * 10 + next then
            .error (invalid "Too many decimal digits in format string")
          else decimalLoop (value * 10 + next) rest

def decimal (input : List Nat) : Except Stop (Option Nat × List Nat) := do
  let read ← decimalLoop rt 0 input
  pure (if read.2.length ≠ input.length then some read.1 else none, read.2)

def aligned (point : Nat) : Bool := point = 60 ∨ point = 62 ∨ point = 61 ∨ point = 94

/-- A point at the front that may be left out. -/
def optional (p : Nat → Bool) : List Nat → Option Nat × List Nat
  | [] => (none, [])
  | point :: rest => if p point then (some point, rest) else (none, point :: rest)

structure Alignment where
  fill : Nat
  align : Nat
  explicitFill : Bool
  rest : List Nat

def alignment : List Nat → Alignment
  | first :: second :: rest =>
      if aligned second then ⟨first, second, true, rest⟩
      else if aligned first then ⟨32, first, false, second :: rest⟩
      else ⟨32, 60, false, first :: second :: rest⟩
  | [first] => if aligned first then ⟨32, first, false, []⟩ else ⟨32, 60, false, [first]⟩
  | [] => ⟨32, 60, false, []⟩

def isSign (point : Nat) : Bool := point = 32 ∨ point = 43 ∨ point = 45

def isGrouping (point : Nat) : Bool := point = 44 ∨ point = 95

def parsePrecision (rest : List Nat) : Except Stop (Option Nat × List Nat) :=
  match optional (· = 46) rest with
  | (none, rest) => pure (none, rest)
  | (some _, rest) => do
      let precision ← decimal rt rest
      rejectIf (precision.1 = none) (invalid "Format specifier missing precision")
      pure precision

structure FormatSpec where
  fill : Nat
  align : Nat
  sign : Option Nat
  negativeZero : Bool
  alternate : Bool
  width : Nat
  grouping : Option Nat
  precision : Option Nat
  presentation : Nat
  deriving DecidableEq, Repr

/-- The error for a specifier that goes on after its type. -/
def invalidSpecifier (spec : List Nat) : Stop :=
  let message : Except Stop (List Nat) := do
    let message ← append rt (points "Invalid format specifier '") spec
    append rt message (points "' for object of type 'str'")
  match message with
  | .ok message => .failed ⟨.valueError, message⟩
  | .error stop => stop

def parseSpec (spec : List Nat) : Except Stop FormatSpec := do
  let head := alignment spec
  let sign := optional isSign head.rest
  let negativeZero := optional (· = 122) sign.2
  let alternate := optional (· = 35) negativeZero.2
  let zero := if head.explicitFill then (none, alternate.2) else optional (· = 48) alternate.2
  let width ← decimal rt zero.2
  let grouping := optional isGrouping width.2
  rejectIf (grouping.1.any fun first => grouping.2.head?.any fun next =>
    isGrouping next && next != first) (invalid "Cannot specify both ',' and '_'.")
  let precision ← parsePrecision rt grouping.2
  rejectIf (1 < precision.2.length) (invalidSpecifier rt spec)
  pure
    { fill := if zero.1.isSome then 48 else head.fill
      align := head.align
      sign := sign.1
      negativeZero := negativeZero.1.isSome
      alternate := alternate.1.isSome
      width := width.1.getD 0
      grouping := grouping.1
      precision := precision.1
      presentation := precision.2.head?.getD 115 }

def hexCode (point : Nat) : List Nat := points "\\x" ++ (Nat.toDigits 16 point).map Char.toNat

def presentationCode (presentation : Nat) : List Nat :=
  if 33 ≤ presentation ∧ presentation < 128 then [presentation] else hexCode presentation

/-- The error for digits that are grouped. -/
def invalidGrouping (grouping presentation : Nat) : Stop :=
  let message : Except Stop (List Nat) := do
    let message ← append rt (points "Cannot specify '") [grouping]
    let message ← append rt message (points "' with '")
    let message ← append rt message (presentationCode presentation)
    append rt message (points "'.")
  match message with
  | .ok message => .failed ⟨.valueError, message⟩
  | .error stop => stop

/-- The types that digits may be grouped in. -/
def groups (grouping presentation : Nat) : Bool :=
  [100, 101, 102, 103, 69, 70, 71, 37, 0].contains presentation ||
    (grouping == 95 && [98, 111, 120, 88].contains presentation)

/-- What a text refuses. -/
def checkSpec (f : FormatSpec) : Except Stop Unit := do
  match f.grouping with
  | some grouping =>
      rejectIf (groups grouping f.presentation = false)
        (invalidGrouping rt grouping f.presentation)
  | none => pure ()
  rejectIf (f.presentation ≠ 115) (.failed ⟨.valueError, points "Unknown format code '" ++
    presentationCode f.presentation ++ points "' for object of type 'str'"⟩)
  rejectIf f.sign.isSome (invalid (if f.sign = some 32 then
    "Space not allowed in string format specifier"
    else "Sign not allowed in string format specifier"))
  rejectIf f.negativeZero
    (invalid "Negative zero coercion (z) not allowed in string format specifier")
  rejectIf f.alternate
    (invalid "Alternate form (#) not allowed in string format specifier")
  rejectIf (f.align = 61)
    (invalid "'=' alignment not allowed in string format specifier")

def FormatSpec.count (f : FormatSpec) (value : List Nat) : Nat :=
  f.precision.elim value.length fun precision => min value.length precision

/-- How much of the padding stands on the left. -/
def leftOf (align padding : Nat) : Nat :=
  if align = 62 then padding else if align = 94 then padding / 2 else 0

def render (value : List Nat) (f : FormatSpec) : Except Stop (List Nat) := do
  let count := f.count value
  let padding := f.width - count
  let left := leftOf f.align padding
  let length := count + padding
  rejectIf (rt.isizeMax < length) resource
  rejectIf (rt.reserveExact length = false) resource
  pure (List.replicate left f.fill ++ value.take count ++
    List.replicate (length - (left + count)) f.fill)

def stringFormat (value spec : List Nat) : Except Stop (List Nat) :=
  if spec.isEmpty then toVec rt value
  else do
    let f ← parseSpec rt spec
    checkSpec rt f
    render rt value f

/-! ## The specifiers that a text accepts -/

inductive Align
  | left
  | right
  | center
  deriving DecidableEq, Repr

def Align.point : Align → Nat
  | .left => 60
  | .right => 62
  | .center => 94

/-- The parts of a specifier: `[[fill]align][0][width][.precision][s]`. -/
structure Specifier where
  alignment : Option (Option Nat × Align)
  zero : Bool
  width : List Nat
  precision : Option (List Nat)
  presentation : Bool

def Specifier.explicitFill (s : Specifier) : Option Nat := s.alignment.bind Prod.fst

def alignmentText : Option (Option Nat × Align) → List Nat
  | none => []
  | some (none, align) => [align.point]
  | some (some fill, align) => [fill, align.point]

def zeroText (zero : Bool) : List Nat := if zero then [48] else []

def precisionText (precision : Option (List Nat)) : List Nat := precision.elim [] (46 :: ·)

def presentationText (presentation : Bool) : List Nat := if presentation then [115] else []

/-- How a specifier is written. -/
def Specifier.text (s : Specifier) : List Nat :=
  alignmentText s.alignment ++ (zeroText s.zero ++ (s.width ++
    (precisionText s.precision ++ presentationText s.presentation)))

def isDigit (point : Nat) : Bool := (digit rt point).isSome

/-- The number that digits stand for. -/
def number (digits : List Nat) : Nat :=
  digits.foldl (fun value point => value * 10 + (digit rt point).getD 0) 0

/-- A specifier of the language.  A zero in front of the width is the flag, and there is a flag
only where no fill is explicit. -/
structure Specifier.Valid (s : Specifier) : Prop where
  zero : s.zero = true → s.explicitFill = none
  flag : s.explicitFill = none → s.zero = false → s.width.head? ≠ some 48
  digits : ∀ point ∈ s.width, isDigit rt point = true
  bound : number rt s.width ≤ rt.isizeMax
  precision : ∀ digits, s.precision = some digits → digits ≠ [] ∧
    (∀ point ∈ digits, isDigit rt point = true) ∧ number rt digits ≤ rt.isizeMax

def Specifier.fill (s : Specifier) : Nat := if s.zero then 48 else s.explicitFill.getD 32

def Specifier.align (s : Specifier) : Align := (s.alignment.map Prod.snd).getD .left

/-- How many points of a text are shown. -/
def Specifier.count (s : Specifier) (value : List Nat) : Nat :=
  s.precision.elim value.length fun digits => min (number rt digits) value.length

/-- The text that a specifier asks for: the points that are shown, with so many copies of the fill
on either side. -/
def Specifier.Renders (s : Specifier) (value output : List Nat) : Prop :=
  ∃ l r, output = List.replicate l s.fill ++ value.take (s.count rt value) ++
      List.replicate r s.fill ∧
    l + r = number rt s.width - s.count rt value ∧
    match s.align with
    | .left => l = 0
    | .right => r = 0
    | .center => l = (l + r) / 2

/-- What the formatter makes of an accepted specifier. -/
def Specifier.formatSpec (s : Specifier) : FormatSpec where
  fill := s.fill
  align := s.align.point
  sign := none
  negativeZero := false
  alternate := false
  width := number rt s.width
  grouping := none
  precision := s.precision.map (number rt)
  presentation := 115

/-- Room for so many points can be had. -/
def Runtime.Allocates (n : Nat) : Prop := n ≤ rt.isizeMax ∧ rt.reserveExact n = true

/-- Signs, separators and the other marks of the language are not parsed to integers. -/
def Runtime.Lawful : Prop :=
  ∀ c : Char, c.toNat < 128 → ¬ (48 ≤ c.toNat ∧ c.toNat ≤ 57) → rt.parseInteger c = none

/-! ## Digits -/

section Digits

variable {rt : Runtime}

theorem Runtime.Lawful.isDigit_eq_false (h : rt.Lawful) {point : Nat} (hlt : point < 128)
    (hdigit : ¬ (48 ≤ point ∧ point ≤ 57)) : isDigit rt point = false := by
  cases hchar : fromU32 point with
  | none => simp [isDigit, digit, hchar]
  | some c =>
      have hpoint := fromU32_eq_some.mp hchar
      have hnone := h c (by omega) (by omega)
      simp [isDigit, digit, hchar, hnone]

theorem isDigit_eq_true {point : Nat} (h : isDigit rt point = true) :
    ∃ next, digit rt point = some next := Option.isSome_iff_exists.mp h

/-- Reading more digits does not make the number smaller. -/
theorem le_foldl_digits (digits : List Nat) (value : Nat) :
    value ≤ digits.foldl (fun value point => value * 10 + (digit rt point).getD 0) value := by
  induction digits generalizing value with
  | nil => exact Nat.le_refl _
  | cons point digits ih =>
      have hle : value ≤ value * 10 + (digit rt point).getD 0 := by omega
      exact hle.trans (ih _)

/-- The digits at the front are read, and the number is refused past `isize::MAX`. -/
theorem decimalLoop_eq (input : List Nat) {value : Nat} (hvalue : value ≤ rt.isizeMax) :
    decimalLoop rt value input =
      if (input.takeWhile (isDigit rt)).foldl
          (fun value point => value * 10 + (digit rt point).getD 0) value ≤ rt.isizeMax then
        .ok ((input.takeWhile (isDigit rt)).foldl
          (fun value point => value * 10 + (digit rt point).getD 0) value,
          input.dropWhile (isDigit rt))
      else .error (invalid "Too many decimal digits in format string") := by
  induction input generalizing value with
  | nil =>
      rw [List.takeWhile_nil, List.foldl_nil, if_pos hvalue]
      rfl
  | cons point input ih =>
      cases hdigit : digit rt point with
      | none =>
          have hfalse : isDigit rt point = false := by simp [isDigit, hdigit]
          simp only [decimalLoop, hdigit, List.takeWhile_cons, List.dropWhile_cons, hfalse,
            Bool.false_eq_true, if_false, List.foldl_nil, if_pos hvalue]
          rfl
      | some next =>
          have htrue : isDigit rt point = true := by simp [isDigit, hdigit]
          simp only [decimalLoop, hdigit, List.takeWhile_cons, List.dropWhile_cons, htrue,
            if_true, List.foldl_cons, Option.getD_some]
          by_cases hover : rt.isizeMax < value * 10 + next
          · have hle := @le_foldl_digits rt (input.takeWhile (isDigit rt)) (value * 10 + next)
            rw [if_pos hover, if_neg (by omega)]
          · rw [if_neg hover, ih (Nat.le_of_not_lt hover)]

theorem length_dropWhile_ne {input : List Nat} {p : Nat → Bool} :
    (input.dropWhile p).length ≠ input.length ↔ input.takeWhile p ≠ [] := by
  have hsum := congrArg List.length (List.takeWhile_append_dropWhile (p := p) (l := input))
  rw [List.length_append] at hsum
  rw [← List.length_pos_iff]
  omega

/-- **The number at the front**, and what follows it. -/
theorem decimal_eq_ok {input : List Nat} {read : Option Nat × List Nat} :
    decimal rt input = .ok read ↔
      number rt (input.takeWhile (isDigit rt)) ≤ rt.isizeMax ∧
        read = (if input.takeWhile (isDigit rt) = [] then none
          else some (number rt (input.takeWhile (isDigit rt))), input.dropWhile (isDigit rt)) := by
  have hloop := @decimalLoop_eq rt input 0 (Nat.zero_le _)
  rw [decimal, hloop]
  by_cases hbound : number rt (input.takeWhile (isDigit rt)) ≤ rt.isizeMax
  · have hbound' := hbound
    unfold number at hbound'
    rw [if_pos hbound']
    by_cases hnil : input.takeWhile (isDigit rt) = []
    · have hlength : ¬ (input.dropWhile (isDigit rt)).length ≠ input.length :=
        fun h => length_dropWhile_ne.mp h hnil
      simp only [bind, Except.bind, if_neg hlength, if_pos hnil, pure, Except.pure,
        Except.ok.injEq, hbound, true_and]
      exact eq_comm
    · have hlength := length_dropWhile_ne.mpr hnil
      simp only [bind, Except.bind, if_pos hlength, if_neg hnil, pure, Except.pure,
        Except.ok.injEq, hbound, true_and]
      exact eq_comm
  · have hbound' := hbound
    unfold number at hbound'
    rw [if_neg hbound']
    constructor
    · intro h
      cases h
    · intro h
      exact absurd h.1 hbound

/-- Digits in front of something that is no digit. -/
theorem decimal_digits {digits tail : List Nat}
    (hdigits : ∀ point ∈ digits, isDigit rt point = true)
    (htail : ∀ point, tail.head? = some point → isDigit rt point = false)
    (hbound : number rt digits ≤ rt.isizeMax) :
    decimal rt (digits ++ tail) =
      .ok (if digits = [] then none else some (number rt digits), tail) := by
  have hstop : tail.takeWhile (isDigit rt) = [] ∧ tail.dropWhile (isDigit rt) = tail := by
    cases tail with
    | nil => exact ⟨rfl, rfl⟩
    | cons point tail => simp [htail point rfl]
  have htake : (digits ++ tail).takeWhile (isDigit rt) = digits := by
    rw [List.takeWhile_append_of_pos hdigits, hstop.1, List.append_nil]
  have hdrop : (digits ++ tail).dropWhile (isDigit rt) = tail := by
    rw [List.dropWhile_append_of_pos hdigits, hstop.2]
  rw [decimal_eq_ok, htake, hdrop]
  exact ⟨hbound, rfl⟩

end Digits

/-! ## The parts of a specifier -/

section Parts

variable {rt : Runtime}

theorem optional_cases (p : Nat → Bool) (input : List Nat) :
    (∃ point rest, input = point :: rest ∧ p point = true ∧
      optional p input = (some point, rest)) ∨
    ((∀ point, input.head? = some point → p point = false) ∧ optional p input = (none, input)) := by
  cases input with
  | nil => exact .inr ⟨nofun, rfl⟩
  | cons point rest =>
      cases hp : p point with
      | true => exact .inl ⟨point, rest, rfl, hp, by rw [optional, if_pos hp]⟩
      | false =>
          refine .inr ⟨?_, by rw [optional, hp]; rfl⟩
          intro point' hpoint'
          cases hpoint'
          exact hp

theorem optional_of_head {p : Nat → Bool} {input : List Nat}
    (h : ∀ point, input.head? = some point → p point = false) :
    optional p input = (none, input) := by
  rcases optional_cases p input with ⟨point, rest, rfl, hp, -⟩ | ⟨-, heq⟩
  · rw [h point rfl] at hp
    cases hp
  · exact heq

/-- A part that is not there leaves the input as it is. -/
theorem snd_optional {p : Nat → Bool} {input : List Nat} (h : (optional p input).1 = none) :
    (optional p input).2 = input := by
  rcases optional_cases p input with ⟨point, rest, -, -, heq⟩ | ⟨-, heq⟩
  · rw [heq] at h
    cases h
  · rw [heq]

theorem aligned_point (align : Align) : aligned align.point = true := by cases align <;> rfl

theorem exists_align {point : Nat} (h : aligned point = true) (hne : point ≠ 61) :
    ∃ align : Align, align.point = point := by
  simp only [aligned, decide_eq_true_eq] at h
  rcases h with h | h | h | h
  · exact ⟨.left, h.symm⟩
  · exact ⟨.right, h.symm⟩
  · exact absurd h hne
  · exact ⟨.center, h.symm⟩

/-- What the alignment at the front of a specifier can be, when it is not `=`. -/
theorem alignment_parts {spec : List Nat} (hne : (alignment spec).align ≠ 61) :
    ∃ written : Option (Option Nat × Align),
      spec = alignmentText written ++ (alignment spec).rest ∧
      (alignment spec).fill = (written.bind Prod.fst).getD 32 ∧
      (alignment spec).align = ((written.map Prod.snd).getD .left).point ∧
      (alignment spec).explicitFill = (written.bind Prod.fst).isSome := by
  match spec with
  | [] => exact ⟨none, rfl, rfl, rfl, rfl⟩
  | [first] =>
      simp only [alignment] at hne ⊢
      split at hne
      case isTrue hfirst =>
          obtain ⟨align, rfl⟩ := exists_align hfirst hne
          rw [if_pos hfirst]
          exact ⟨some (none, align), rfl, rfl, rfl, rfl⟩
      case isFalse hfirst =>
          rw [if_neg hfirst]
          exact ⟨none, rfl, rfl, rfl, rfl⟩
  | first :: second :: rest =>
      simp only [alignment] at hne ⊢
      split at hne
      case isTrue hsecond =>
          obtain ⟨align, rfl⟩ := exists_align hsecond hne
          rw [if_pos hsecond]
          exact ⟨some (some first, align), rfl, rfl, rfl, rfl⟩
      case isFalse hsecond =>
          rw [if_neg hsecond]
          split at hne
          case isTrue hfirst =>
              obtain ⟨align, rfl⟩ := exists_align hfirst hne
              rw [if_pos hfirst]
              exact ⟨some (none, align), rfl, rfl, rfl, rfl⟩
          case isFalse hfirst =>
              rw [if_neg hfirst]
              exact ⟨none, rfl, rfl, rfl, rfl⟩

/-- The alignment in front of points that are no alignments is read back. -/
theorem alignment_text (written : Option (Option Nat × Align)) {body : List Nat}
    (hbody : ∀ point ∈ body, aligned point = false) :
    alignment (alignmentText written ++ body) = ⟨(written.bind Prod.fst).getD 32,
      ((written.map Prod.snd).getD .left).point, (written.bind Prod.fst).isSome, body⟩ := by
  match written with
  | none =>
      match body with
      | [] => rfl
      | [first] => simp [alignmentText, alignment, hbody first, Align.point]
      | first :: second :: rest =>
          simp [alignmentText, alignment, hbody first, hbody second, Align.point]
  | some (none, align) =>
      match body with
      | [] => simp [alignmentText, alignment, aligned_point]
      | first :: rest => simp [alignmentText, alignment, aligned_point, hbody first]
  | some (some fill, align) => simp [alignmentText, alignment, aligned_point]

theorem parsePrecision_parts {input : List Nat} {read : Option Nat × List Nat}
    (h : parsePrecision rt input = .ok read) :
    ∃ precision : Option (List Nat), input = precisionText precision ++ read.2 ∧
      read.1 = precision.map (number rt) ∧
      ∀ digits, precision = some digits → digits ≠ [] ∧
        (∀ point ∈ digits, isDigit rt point = true) ∧ number rt digits ≤ rt.isizeMax := by
  rcases optional_cases (· = 46) input with ⟨point, rest, hinput, hpoint, heq⟩ | ⟨-, heq⟩
  · simp only [parsePrecision, heq, bind_eq_ok, rejectIf_eq_ok, exists_unit, pure, Except.pure,
      Except.ok.injEq] at h
    obtain ⟨read', hread, hsome, rfl⟩ := h
    obtain ⟨hbound, rfl⟩ := decimal_eq_ok.mp hread
    have hnil : rest.takeWhile (isDigit rt) ≠ [] := by
      intro hnil
      exact hsome (if_pos hnil)
    refine ⟨some (rest.takeWhile (isDigit rt)), ?_, if_neg hnil, ?_⟩
    · have hdot : point = 46 := by simpa using hpoint
      rw [hinput, hdot]
      show 46 :: rest = 46 :: (rest.takeWhile (isDigit rt) ++ rest.dropWhile (isDigit rt))
      rw [List.takeWhile_append_dropWhile]
    · intro digits hdigits
      cases hdigits
      exact ⟨hnil, fun point hmem => List.mem_takeWhile_imp hmem, hbound⟩
  · simp only [parsePrecision, heq, pure, Except.pure, Except.ok.injEq] at h
    subst h
    refine ⟨none, rfl, rfl, fun digits hdigits => ?_⟩
    cases hdigits

theorem parsePrecision_text {precision : Option (List Nat)} {tail : List Nat}
    (hprecision : ∀ digits, precision = some digits → digits ≠ [] ∧
      (∀ point ∈ digits, isDigit rt point = true) ∧ number rt digits ≤ rt.isizeMax)
    (htail : ∀ point, tail.head? = some point → isDigit rt point = false ∧ point ≠ 46) :
    parsePrecision rt (precisionText precision ++ tail) =
      .ok (precision.map (number rt), tail) := by
  cases precision with
  | none =>
      have hopt : optional (· = 46) tail = (none, tail) :=
        optional_of_head fun point hpoint => by simpa using (htail point hpoint).2
      show parsePrecision rt tail = _
      simp only [parsePrecision, hopt]
      rfl
  | some digits =>
      obtain ⟨hnil, hdigits, hbound⟩ := hprecision digits rfl
      have hread := decimal_digits hdigits (fun point hpoint => (htail point hpoint).1) hbound
      rw [if_neg hnil] at hread
      show parsePrecision rt (46 :: (digits ++ tail)) = _
      have hopt : optional (· = 46) (46 :: (digits ++ tail)) = (some 46, digits ++ tail) := rfl
      simp only [parsePrecision, hopt, hread]
      rfl

/-- **A text refuses everything but its own type, a fill and an alignment.** -/
theorem checkSpec_eq_ok {f : FormatSpec} :
    checkSpec rt f = .ok () ↔ f.grouping = none ∧ f.presentation = 115 ∧ f.sign = none ∧
      f.negativeZero = false ∧ f.alternate = false ∧ f.align ≠ 61 := by
  -- digits are never grouped in the type of a text
  have hgroups : ∀ grouping, groups grouping 115 = false := by
    intro grouping
    simp [groups]
  unfold checkSpec
  cases hgrouping : f.grouping with
  | none =>
      simp only [bind_eq_ok, rejectIf_eq_ok, exists_unit, true_and]
      simp
  | some grouping =>
      simp only [bind_eq_ok, rejectIf_eq_ok, exists_unit]
      constructor
      · rintro ⟨hallowed, hpresentation, -⟩
        rw [not_not.mp hpresentation] at hallowed
        exact absurd (hgroups grouping) hallowed
      · rintro ⟨hnone, -⟩
        cases hnone

/-- The zero flag, where no fill is explicit. -/
theorem zero_parts (explicitFill : Bool) (input : List Nat) :
    ∃ zero : Bool,
      input = zeroText zero ++
        (if explicitFill then (none, input) else optional (· = 48) input).2 ∧
      (if explicitFill then (none, input) else optional (· = 48) input).1.isSome = zero ∧
      (zero = true → explicitFill = false) ∧
      (explicitFill = false → zero = false →
        (if explicitFill then (none, input) else optional (· = 48) input).2.head? ≠ some 48) := by
  cases explicitFill with
  | true => exact ⟨false, rfl, rfl, nofun, nofun⟩
  | false =>
      rw [if_neg Bool.false_ne_true]
      rcases optional_cases (· = 48) input with ⟨point, rest, hinput, hpoint, heq⟩ | ⟨hhead, heq⟩
      · have hzero : point = 48 := by simpa using hpoint
        rw [heq]
        exact ⟨true, by rw [hinput, hzero]; rfl, rfl, fun _ => rfl, fun _ h => by cases h⟩
      · rw [heq]
        refine ⟨false, rfl, rfl, nofun, fun _ _ hsome => ?_⟩
        have hne := hhead 48 hsome
        simp at hne

/-- What a specifier is parsed to is a specifier of the language, when a text accepts it. -/
theorem parts_of_parseSpec {spec : List Nat} {f : FormatSpec} (hparse : parseSpec rt spec = .ok f)
    (hcheck : checkSpec rt f = .ok ()) :
    ∃ s : Specifier, s.Valid rt ∧ s.text = spec ∧ f = s.formatSpec rt := by
  obtain ⟨hgrouping, hpresentation, hsign, hnegative, halternate, halign⟩ :=
    checkSpec_eq_ok.mp hcheck
  simp only [parseSpec, bind_eq_ok, rejectIf_eq_ok, exists_unit, pure, Except.pure,
    Except.ok.injEq] at hparse
  obtain ⟨width, hwidth, -, precision, hprecision, hlength, rfl⟩ := hparse
  simp only [Option.isSome_eq_false_iff, Option.isNone_iff_eq_none] at hnegative halternate
  simp only at hgrouping hpresentation hsign halign
  obtain ⟨written, hspec, hfill, halign', hexplicit⟩ := alignment_parts halign
  rw [snd_optional hsign] at hnegative halternate hwidth
  rw [snd_optional hnegative] at halternate hwidth
  rw [snd_optional halternate] at hwidth
  rw [snd_optional hgrouping] at hprecision
  rw [snd_optional hsign, snd_optional hnegative, snd_optional halternate]
  obtain ⟨zero, hrest, hzero, hflag, hnoflag⟩ :=
    zero_parts (alignment spec).explicitFill (alignment spec).rest
  generalize (if (alignment spec).explicitFill then (none, (alignment spec).rest)
    else optional (· = 48) (alignment spec).rest) = read at hrest hzero hnoflag hwidth ⊢
  obtain ⟨hbound, rfl⟩ := decimal_eq_ok.mp hwidth
  obtain ⟨written', hinput, hread, hvalid⟩ := parsePrecision_parts hprecision
  -- at most the type is left
  have htail : precision.2 = presentationText !precision.2.isEmpty := by
    cases hcases : precision.2 with
    | nil => rfl
    | cons point rest =>
        cases rest with
        | nil =>
            rw [hcases] at hpresentation
            have hpoint : point = 115 := hpresentation
            rw [hpoint]
            rfl
        | cons next rest =>
            rw [hcases] at hlength
            simp at hlength
  have hnumber : (if read.2.takeWhile (isDigit rt) = [] then none
      else some (number rt (read.2.takeWhile (isDigit rt)))).getD 0 =
      number rt (read.2.takeWhile (isDigit rt)) := by
    by_cases hnil : read.2.takeWhile (isDigit rt) = []
    · rw [if_pos hnil, hnil]
      rfl
    · rw [if_neg hnil]
      rfl
  refine ⟨⟨written, zero, read.2.takeWhile (isDigit rt), written', !precision.2.isEmpty⟩,
    ⟨?_, ?_, fun point hmem => List.mem_takeWhile_imp hmem, hbound, hvalid⟩, ?_, ?_⟩
  · intro hz
    have hnone := hflag hz
    rw [hexplicit, Option.isSome_eq_false_iff, Option.isNone_iff_eq_none] at hnone
    exact hnone
  · intro hnone hz hhead
    have hexplicit' : (alignment spec).explicitFill = false := by
      rw [hexplicit]
      exact Option.isSome_eq_false_iff.mpr (Option.isNone_iff_eq_none.mpr hnone)
    refine hnoflag hexplicit' hz ?_
    rw [List.head?_takeWhile, Option.filter_eq_some_iff] at hhead
    exact hhead.1
  · calc alignmentText written ++ (zeroText zero ++ (read.2.takeWhile (isDigit rt) ++
          (precisionText written' ++ presentationText !precision.2.isEmpty)))
        = alignmentText written ++ (zeroText zero ++ (read.2.takeWhile (isDigit rt) ++
          read.2.dropWhile (isDigit rt))) := by rw [← htail, ← hinput]
      _ = spec := by rw [List.takeWhile_append_dropWhile, ← hrest, ← hspec]
  · have hfill' : (if read.1.isSome then 48 else (alignment spec).fill) =
        Specifier.fill ⟨written, zero, read.2.takeWhile (isDigit rt), written',
          !precision.2.isEmpty⟩ := by
      rw [hzero, hfill]
      rfl
    rw [hfill', hnumber, hread, hpresentation, hsign, hgrouping, halign', hnegative, halternate]
    rfl

theorem Runtime.Lawful.isDigit_mark (h : rt.Lawful) :
    isDigit rt 46 = false ∧ isDigit rt 115 = false :=
  ⟨h.isDigit_eq_false (by decide) (by decide), h.isDigit_eq_false (by decide) (by decide)⟩

/-- No digit is a mark that may stand in front of the width. -/
theorem Runtime.Lawful.not_mark (h : rt.Lawful) {point : Nat} (hpoint : isDigit rt point = true) :
    aligned point = false ∧ isSign point = false ∧ point ≠ 122 ∧ point ≠ 35 := by
  have hother : ∀ mark < 128, ¬ (48 ≤ mark ∧ mark ≤ 57) → point ≠ mark := by
    rintro mark hlt hno rfl
    rw [h.isDigit_eq_false hlt hno] at hpoint
    cases hpoint
  simp [aligned, isSign, hother 60, hother 62, hother 61, hother 94, hother 32, hother 43,
    hother 45, hother 122, hother 35]

/-- What stands after the width. -/
def Specifier.tail (s : Specifier) : List Nat :=
  precisionText s.precision ++ presentationText s.presentation

theorem head?_presentationText {presentation : Bool} {point : Nat}
    (h : (presentationText presentation).head? = some point) : point = 115 := by
  cases presentation <;> simp [presentationText] at h
  exact h.symm

theorem Specifier.head?_tail {s : Specifier} {point : Nat} (h : s.tail.head? = some point) :
    point = 46 ∨ point = 115 := by
  rw [Specifier.tail] at h
  cases hp : s.precision with
  | none =>
      rw [hp] at h
      exact .inr (head?_presentationText h)
  | some digits =>
      rw [hp] at h
      cases h
      exact .inl rfl

/-- Nothing after the alignment is a mark that may stand in front of the width. -/
theorem Specifier.Valid.not_mark {s : Specifier} (hs : s.Valid rt) (hrt : rt.Lawful) {point : Nat}
    (hmem : point ∈ zeroText s.zero ++ (s.width ++ s.tail)) :
    aligned point = false ∧ isSign point = false ∧ point ≠ 122 ∧ point ≠ 35 := by
  rcases List.mem_append.mp hmem with hmem | hmem
  · cases hz : s.zero <;> simp [zeroText, hz] at hmem
    subst hmem
    decide
  rcases List.mem_append.mp hmem with hmem | hmem
  · exact hrt.not_mark (hs.digits point hmem)
  rcases List.mem_append.mp hmem with hmem | hmem
  · cases hp : s.precision with
    | none => simp [precisionText, hp] at hmem
    | some digits =>
        rw [hp] at hmem
        rcases List.mem_cons.mp hmem with rfl | hmem
        · decide
        · exact hrt.not_mark ((hs.precision digits hp).2.1 point hmem)
  · cases hp : s.presentation <;> simp [presentationText, hp] at hmem
    subst hmem
    decide

/-- The zero flag is read where it is written. -/
theorem Specifier.Valid.zero_text {s : Specifier} (hs : s.Valid rt) :
    (if (s.alignment.bind Prod.fst).isSome then
        (none, zeroText s.zero ++ (s.width ++ s.tail))
      else optional (· = 48) (zeroText s.zero ++ (s.width ++ s.tail))) =
      (if s.zero then some 48 else none, s.width ++ s.tail) := by
  cases hz : s.zero with
  | true =>
      have hnone : s.alignment.bind Prod.fst = none := hs.zero hz
      rw [hnone]
      rfl
  | false =>
      by_cases hsome : (s.alignment.bind Prod.fst).isSome
      · rw [if_pos hsome]
        rfl
      · rw [if_neg hsome]
        have hnone : s.explicitFill = none := Option.not_isSome_iff_eq_none.mp hsome
        refine optional_of_head fun point hpoint => ?_
        have hpoint' : (s.width ++ s.tail).head? = some point := hpoint
        cases hw : s.width with
        | nil =>
            rw [hw] at hpoint'
            rcases Specifier.head?_tail hpoint' with rfl | rfl <;> rfl
        | cons first width =>
            rw [hw] at hpoint'
            cases hpoint'
            have hne := hs.flag hnone hz
            rw [hw] at hne
            simpa using hne

/-- Digits that are not there stand for zero. -/
theorem getD_number (digits : List Nat) :
    (if digits = [] then none else some (number rt digits)).getD 0 = number rt digits := by
  by_cases hnil : digits = []
  · rw [if_pos hnil, hnil]
    rfl
  · rw [if_neg hnil]
    rfl

/-- **An accepted specifier is parsed to what its parts say.** -/
theorem parseSpec_text (hrt : rt.Lawful) {s : Specifier} (hs : s.Valid rt) :
    parseSpec rt s.text = .ok (s.formatSpec rt) := by
  obtain ⟨hdot, htype⟩ := hrt.isDigit_mark
  have hbody : ∀ point, (zeroText s.zero ++ (s.width ++ s.tail)).head? = some point → _ :=
    fun point hpoint => (hs.not_mark hrt (List.mem_of_head? hpoint)).2
  have hsign := optional_of_head fun point hpoint => (hbody point hpoint).1
  have hnegative : optional (· = 122) _ = _ :=
    optional_of_head fun point hpoint => by simpa using (hbody point hpoint).2.1
  have halternate : optional (· = 35) _ = _ :=
    optional_of_head fun point hpoint => by simpa using (hbody point hpoint).2.2
  have hwidth : decimal rt (s.width ++ s.tail) = _ :=
    decimal_digits hs.digits (fun point hpoint => by
      rcases Specifier.head?_tail hpoint with rfl | rfl
      · exact hdot
      · exact htype) hs.bound
  have hgrouping : optional isGrouping s.tail = _ := optional_of_head fun point hpoint => by
    rcases Specifier.head?_tail hpoint with rfl | rfl <;> rfl
  have hprecision : parsePrecision rt s.tail = _ :=
    parsePrecision_text hs.precision fun point hpoint => by
      rw [head?_presentationText hpoint]
      exact ⟨htype, by decide⟩
  have hshort : ¬ 1 < (presentationText s.presentation).length := by
    cases s.presentation <;> decide
  have hpresentation : (presentationText s.presentation).head?.getD 115 = 115 := by
    cases s.presentation <;> rfl
  have hfill : (if (if s.zero then some 48 else none : Option Nat).isSome then 48
      else (s.alignment.bind Prod.fst).getD 32) = s.fill := by
    cases hz : s.zero <;> simp [Specifier.fill, Specifier.explicitFill, hz]
  have htext : alignment s.text = ⟨(s.alignment.bind Prod.fst).getD 32, s.align.point,
      (s.alignment.bind Prod.fst).isSome, zeroText s.zero ++ (s.width ++ s.tail)⟩ :=
    alignment_text s.alignment fun point hmem => (hs.not_mark hrt hmem).1
  rw [parseSpec, htext]
  simp only [hsign, hnegative, halternate, hs.zero_text, hwidth, bind, Except.bind, hgrouping,
    hprecision, rejectIf, Option.any_none, Bool.false_eq_true, if_false, if_neg hshort,
    hpresentation, getD_number, hfill]
  rfl

theorem checkSpec_formatSpec (s : Specifier) : checkSpec rt (s.formatSpec rt) = .ok () := by
  rw [checkSpec_eq_ok]
  refine ⟨rfl, rfl, rfl, rfl, rfl, ?_⟩
  show s.align.point ≠ 61
  cases s.align <;> decide

end Parts

/-! ## The text that comes out -/

section Output

variable {rt : Runtime}

theorem count_formatSpec (s : Specifier) (value : List Nat) :
    (s.formatSpec rt).count value = s.count rt value := by
  show (s.precision.map (number rt)).elim value.length _ = _
  cases hp : s.precision with
  | none => simp [Specifier.count, hp]
  | some digits => simp [Specifier.count, hp, Nat.min_comm]

/-- How much of the fill stands on the left. -/
def Specifier.leftPadding (s : Specifier) (padding : Nat) : Nat :=
  match s.align with
  | .left => 0
  | .right => padding
  | .center => padding / 2

theorem leftPadding_le (s : Specifier) (padding : Nat) : s.leftPadding padding ≤ padding := by
  unfold Specifier.leftPadding
  cases s.align
  · exact Nat.zero_le _
  · exact Nat.le_refl _
  · exact Nat.div_le_self _ _

/-- The text that a specifier asks for is the one with the fill divided so. -/
theorem renders_iff {s : Specifier} {value output : List Nat} :
    s.Renders rt value output ↔
      output = List.replicate (s.leftPadding (number rt s.width - s.count rt value)) s.fill ++
        value.take (s.count rt value) ++
        List.replicate (number rt s.width - s.count rt value -
          s.leftPadding (number rt s.width - s.count rt value)) s.fill := by
  constructor
  · rintro ⟨l, r, rfl, hsum, halign⟩
    have hl : l = s.leftPadding (number rt s.width - s.count rt value) := by
      rw [← hsum, Specifier.leftPadding]
      cases h : s.align with
      | left =>
          rw [h] at halign
          exact halign
      | right =>
          rw [h] at halign
          have hr : r = 0 := halign
          show l = l + r
          omega
      | center =>
          rw [h] at halign
          exact halign
    have hr : r = number rt s.width - s.count rt value -
        s.leftPadding (number rt s.width - s.count rt value) := by omega
    rw [← hr, ← hl]
  · intro h
    have hle := leftPadding_le s (number rt s.width - s.count rt value)
    refine ⟨_, _, h, by omega, ?_⟩
    cases halign : s.align with
    | left => simp [Specifier.leftPadding, halign]
    | right => simp [Specifier.leftPadding, halign]
    | center =>
        simp only [Specifier.leftPadding, halign]
        omega

theorem render_eq_ok {s : Specifier} {value output : List Nat} :
    render rt value (s.formatSpec rt) = .ok output ↔
      rt.Allocates (max (number rt s.width) (s.count rt value)) ∧ s.Renders rt value output := by
  have hlength : s.count rt value + (number rt s.width - s.count rt value) =
      max (number rt s.width) (s.count rt value) := by omega
  have hleft : leftOf s.align.point (number rt s.width - s.count rt value) =
      s.leftPadding (number rt s.width - s.count rt value) := by
    cases h : s.align <;> simp [Specifier.leftPadding, leftOf, Align.point, h]
  have hright : max (number rt s.width) (s.count rt value) -
      (s.leftPadding (number rt s.width - s.count rt value) + s.count rt value) =
      number rt s.width - s.count rt value -
        s.leftPadding (number rt s.width - s.count rt value) := by omega
  rw [render, count_formatSpec]
  simp only [Specifier.formatSpec, bind_eq_ok, rejectIf_eq_ok, exists_unit, pure, Except.pure,
    Except.ok.injEq, hlength, hleft, hright, Nat.not_lt, Bool.not_eq_false]
  rw [renders_iff, Runtime.Allocates, and_assoc, eq_comm (b := output)]

end Output

/-- Nothing to parse asks for the text as it is. -/
theorem parseSpec_nil :
    parseSpec rt [] = .ok (Specifier.formatSpec rt ⟨none, false, [], none, false⟩) :=
  rfl

theorem toVec_eq_ok {value output : List Nat} :
    toVec rt value = .ok output ↔ rt.Allocates value.length ∧ output = value := by
  simp only [toVec, bind_eq_ok, rejectIf_eq_ok, exists_unit, not_not, pure, Except.pure,
    Except.ok.injEq, Runtime.Allocates]
  rw [eq_comm (a := value)]

/-- A specifier without a text has no parts. -/
theorem eq_of_text_nil {s : Specifier} (h : s.text = []) : s = ⟨none, false, [], none, false⟩ := by
  obtain ⟨written, zero, width, precision, presentation⟩ := s
  simp only [Specifier.text, List.append_eq_nil_iff] at h
  obtain ⟨halignment, hzero, rfl, hprecision, hpresentation⟩ := h
  have hwritten : written = none := by
    match written with
    | none => rfl
    | some (none, align) => cases halignment
    | some (some fill, align) => cases halignment
  have hnone : precision = none := by
    cases precision with
    | none => rfl
    | some digits => cases hprecision
  cases zero with
  | true => cases hzero
  | false =>
      cases presentation with
      | true => cases hpresentation
      | false => rw [hwritten, hnone]

/-- **The formatter is the mini-language.**  It succeeds exactly on the specifiers of the language
for which the text can be allocated, and returns the text that the specifier asks for. -/
theorem stringFormat_eq_ok (hrt : rt.Lawful) (value spec output : List Nat) :
    stringFormat rt value spec = .ok output ↔
      ∃ s : Specifier, s.Valid rt ∧ s.text = spec ∧
        rt.Allocates (max (number rt s.width) (s.count rt value)) ∧
        s.Renders rt value output := by
  have hparsed : ∀ s : Specifier, s.Valid rt → s.text = spec → parseSpec rt spec =
      .ok (s.formatSpec rt) := fun s hs htext => htext ▸ parseSpec_text hrt hs
  cases spec with
  | nil =>
      have hempty : Specifier.Valid rt ⟨none, false, [], none, false⟩ :=
        ⟨nofun, nofun, nofun, Nat.zero_le _, nofun⟩
      have hrendered : ∀ {output},
          Specifier.Renders rt ⟨none, false, [], none, false⟩ value output ↔ output = value := by
        intro output
        rw [renders_iff]
        simp [Specifier.count, Specifier.leftPadding, Specifier.align, number]
      have hlength : max (number rt []) (Specifier.count rt ⟨none, false, [], none, false⟩ value) =
          value.length := Nat.zero_max _
      show toVec rt value = .ok output ↔ _
      rw [toVec_eq_ok]
      constructor
      · rintro ⟨hallocates, houtput⟩
        exact ⟨_, hempty, rfl, by rwa [hlength], hrendered.mpr houtput⟩
      · rintro ⟨s, -, htext, hallocates, hrenders⟩
        obtain rfl := eq_of_text_nil htext
        exact ⟨by rwa [hlength] at hallocates, hrendered.mp hrenders⟩
  | cons first rest =>
      have hunfold : stringFormat rt value (first :: rest) = .ok output ↔
          ∃ f, parseSpec rt (first :: rest) = .ok f ∧ checkSpec rt f = .ok () ∧
            render rt value f = .ok output := by
        simp only [stringFormat, List.isEmpty_cons, Bool.false_eq_true, if_false, bind_eq_ok,
          exists_unit]
      rw [hunfold]
      constructor
      · rintro ⟨f, hparse, hcheck, hrender⟩
        obtain ⟨s, hs, htext, rfl⟩ := parts_of_parseSpec hparse hcheck
        obtain ⟨hallocates, hrenders⟩ := render_eq_ok.mp hrender
        exact ⟨s, hs, htext, hallocates, hrenders⟩
      · rintro ⟨s, hs, htext, hallocates, hrenders⟩
        exact ⟨_, hparsed s hs htext, checkSpec_formatSpec s,
          render_eq_ok.mpr ⟨hallocates, hrenders⟩⟩

/-- A runtime whose digits are the ASCII ones. -/
def asciiRuntime : Runtime where
  isizeMax := 2 ^ 63 - 1
  parseInteger c := if 48 ≤ c.toNat ∧ c.toNat ≤ 57 then some (c.toNat - 48) else none
  reserve _ _ := true
  reserveExact length := decide (length ≤ 2 ^ 61 - 1)

/-- `*^7.3` shows three points in the middle of seven. -/
theorem stringFormat_eq_ok_center :
    stringFormat asciiRuntime (points "abcd") (points "*^7.3") = .ok (points "**abc**") :=
  (stringFormat_eq_ok asciiRuntime (fun _ _ hdigit => if_neg hdigit) _ _ _).mpr
    ⟨⟨some (some 42, .center), false, [55], some [51], false⟩,
      ⟨nofun, nofun, by decide, by decide, fun _ h => by cases h; decide⟩, rfl,
      ⟨by decide, by decide⟩, 2, 2, by decide, by decide, rfl⟩

end Marty.Issuance.PythonFormat
