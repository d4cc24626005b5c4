import Marty.Lib.Checked
import Marty.ResponseText.PythonText

/-!
# The UTF-7 decoder

The decoder of complete inputs, strict and with replacement.  The bytes that are
left are a list beside the index of the first of them; one pass of the outer loop
is `iteration`, the inner loop over a shifted run is `shifted`.

An output carries, beside the text, the failures that were replaced.  A strict
failure carries the text that was emitted before it.

## Main definitions

* `Utf7.decode` — the decoder.
-/

namespace Marty.ResponseText.Utf7

open Marty.Lib Marty.Lib.Unicode

structure DecodeError where
  start : Nat
  stop : Nat
  reason : String
  deriving DecidableEq, Repr

/-- How a run ends without a text: by a strict failure, or in a panic. -/
inductive Stop
  | failed (error : DecodeError) (emitted : PythonText)
  | panicked

structure Output where
  text : PythonText
  failures : List DecodeError

def plus : UInt8 := 43

def minus : UInt8 := 45

def sextet (byte : UInt8) : Option Nat :=
  if 65 ≤ byte ∧ byte ≤ 90 then some (byte.toNat - 65)
  else if 97 ≤ byte ∧ byte ≤ 122 then some (byte.toNat - 97 + 26)
  else if 48 ≤ byte ∧ byte ≤ 57 then some (byte.toNat - 48 + 52)
  else if byte = 43 then some 62
  else if byte = 47 then some 63
  else none

def isAscii (byte : UInt8) : Bool := byte < 128

def emit (output : Output) (point : Nat) : Except Stop Output :=
  match output.text.push point with
  | .ok text => .ok { output with text := text }
  | .error _ => .error .panicked

def failure (output : Output) (strict : Bool) (start stop : Nat) (reason : String) :
    Except Stop Output :=
  if strict then .error (.failed ⟨start, stop, reason⟩ output.text)
  else do
    let output ← emit output 0xfffd
    pure { output with failures := output.failures ++ [⟨start, stop, reason⟩] }

/-- The state of a shifted run. -/
structure Shift where
  pendingHigh : Option Nat
  bits : Nat
  buffer : Nat
  deriving DecidableEq, Repr

def Shift.initial : Shift := ⟨none, 0, 0⟩

/-- A unit that completes no pair: a high surrogate waits for the next unit. -/
def settle (output : Output) (unit : Nat) : Except Stop (Option Nat × Output) :=
  if 0xd800 ≤ unit ∧ unit ≤ 0xdbff then pure (some unit, output)
  else do
    let output ← emit output unit
    pure (none, output)

/-- A complete unit of the run. -/
def takeUnit (pendingHigh : Option Nat) (unit : Nat) (output : Output) :
    Except Stop (Option Nat × Output) :=
  match pendingHigh with
  | some high =>
      if 0xdc00 ≤ unit ∧ unit ≤ 0xdfff then do
        let output ← emit output (0x10000 + ((high - 0xd800) <<< 10) + unit - 0xdc00)
        pure (none, output)
      else do
        let output ← emit output high
        settle output unit
  | none => settle output unit

/-- One pass of the inner loop. -/
def shiftSextet (s : Shift) (value : Nat) (output : Output) : Except Stop (Shift × Output) :=
  let buffer := s.buffer <<< 6 ||| value
  let bits := s.bits + 6
  if bits < 16 then pure (⟨s.pendingHigh, bits, buffer⟩, output)
  else do
    let bits := bits - 16
    let unit := buffer >>> bits
    let buffer := buffer &&& (1 <<< bits - 1)
    let (pendingHigh, output) ← takeUnit s.pendingHigh unit output
    pure (⟨pendingHigh, bits, buffer⟩, output)

/-- Where a loop stands: what it has emitted, and what is left from which index on. -/
structure Cursor where
  output : Output
  rest : List UInt8
  index : Nat

/-- The inner loop: it ends before the first byte that is no sextet. -/
def shifted (s : Shift) (output : Output) : List UInt8 → Nat → Except Stop (Shift × Cursor)
  | [], index => pure (s, ⟨output, [], index⟩)
  | byte :: rest, index =>
      match sextet byte with
      | none => pure (s, ⟨output, byte :: rest, index⟩)
      | some value => do
          let (s, output) ← shiftSextet s value output
          shifted s output rest (index + 1)

/-- A terminator that is not ASCII drops a pending high surrogate. -/
def emitPending (output : Output) (pendingHigh : Option Nat) (terminator : UInt8) :
    Except Stop Output :=
  if isAscii terminator then
    match pendingHigh with
    | some high => emit output high
    | none => pure output
  else pure output

/-- What follows the inner loop. -/
def endShift (strict : Bool) (start : Nat) (s : Shift) (cursor : Cursor) : Except Stop Cursor :=
  match cursor with
  | ⟨output, [], index⟩ =>
      if s.pendingHigh.isSome ∨ 6 ≤ s.bits ∨ s.buffer ≠ 0 then do
        let output ← failure output strict start index "unterminated shift sequence"
        pure ⟨output, [], index⟩
      else pure ⟨output, [], index⟩
  | ⟨output, terminator :: rest, index⟩ =>
      if 6 ≤ s.bits ∨ s.buffer ≠ 0 then do
        -- the terminator is consumed as part of the error
        let output ← failure output strict start (index + 1)
          (if 6 ≤ s.bits then "partial character in shift sequence"
          else "non-zero padding bits in shift sequence")
        pure ⟨output, rest, index + 1⟩
      else do
        let output ← emitPending output s.pendingHigh terminator
        if terminator = minus then pure ⟨output, rest, index + 1⟩
        else pure ⟨output, terminator :: rest, index⟩

/-- One pass of the outer loop, from the byte at `start` and the `rest` after it.  Nothing is
left where the source breaks out of the loop. -/
def iteration (strict : Bool) (byte : UInt8) (rest : List UInt8) (start : Nat) (output : Output) :
    Except Stop Cursor :=
  let index := start + 1
  if byte ≠ plus then
    if isAscii byte then do
      let output ← emit output byte.toNat
      pure ⟨output, rest, index⟩
    else do
      let output ← failure output strict start index "unexpected special character"
      pure ⟨output, rest, index⟩
  else
    match rest with
    | [] => pure ⟨output, [], index⟩
    | next :: after =>
        if next = minus then do
          let output ← emit output plus.toNat
          pure ⟨output, after, index + 1⟩
        else if (sextet next).isNone then do
          let output ← failure output strict start (index + 1) "ill-formed sequence"
          pure ⟨output, after, index + 1⟩
        else do
          let (s, cursor) ← shifted .initial output (next :: after) index
          endShift strict start s cursor

/-! ## Every pass consumes its byte -/

theorem shifted_suffix {s s' : Shift} {output : Output} {bytes : List UInt8} {index : Nat}
    {cursor : Cursor} (h : shifted s output bytes index = .ok (s', cursor)) :
    cursor.rest <:+ bytes := by
  induction bytes generalizing s output index with
  | nil =>
      cases h
      exact List.suffix_rfl
  | cons byte bytes ih =>
      simp only [shifted] at h
      split at h
      case h_1 =>
          cases h
          exact List.suffix_rfl
      case h_2 value hvalue =>
          obtain ⟨⟨s₁, output₁⟩, -, hrest⟩ := Checked.bind_eq_ok.mp h
          exact (ih hrest).trans (List.suffix_cons _ _)

theorem endShift_suffix {strict : Bool} {start : Nat} {s : Shift} {cursor cursor' : Cursor}
    (h : endShift strict start s cursor = .ok cursor') : cursor'.rest <:+ cursor.rest := by
  obtain ⟨output, rest, index⟩ := cursor
  cases rest with
  | nil =>
      simp only [endShift] at h
      split at h
      case isTrue =>
          obtain ⟨output₁, -, hrest⟩ := Checked.bind_eq_ok.mp h
          cases hrest
          exact List.suffix_rfl
      case isFalse =>
          cases h
          exact List.suffix_rfl
  | cons terminator rest =>
      simp only [endShift] at h
      split at h
      case isTrue =>
          obtain ⟨output₁, -, hrest⟩ := Checked.bind_eq_ok.mp h
          cases hrest
          exact List.suffix_cons _ _
      case isFalse =>
          obtain ⟨output₁, -, hrest⟩ := Checked.bind_eq_ok.mp h
          split at hrest
          case isTrue =>
              cases hrest
              exact List.suffix_cons _ _
          case isFalse =>
              cases hrest
              exact List.suffix_rfl

theorem iteration_suffix {strict : Bool} {byte : UInt8} {rest : List UInt8} {start : Nat}
    {output : Output} {cursor : Cursor}
    (h : iteration strict byte rest start output = .ok cursor) : cursor.rest <:+ rest := by
  simp only [iteration] at h
  split at h
  case isTrue =>
      split at h
      all_goals
        obtain ⟨output₁, -, hrest⟩ := Checked.bind_eq_ok.mp h
        cases hrest
        exact List.suffix_rfl
  case isFalse =>
      cases rest with
      | nil =>
          cases h
          exact List.suffix_rfl
      | cons next after =>
          simp only at h
          split at h
          case isTrue =>
              obtain ⟨output₁, -, hrest⟩ := Checked.bind_eq_ok.mp h
              cases hrest
              exact List.suffix_cons _ _
          case isFalse =>
              split at h
              case isTrue =>
                  obtain ⟨output₁, -, hrest⟩ := Checked.bind_eq_ok.mp h
                  cases hrest
                  exact List.suffix_cons _ _
              case isFalse =>
                  obtain ⟨⟨s, cursor₁⟩, hshifted, hend⟩ := Checked.bind_eq_ok.mp h
                  exact (endShift_suffix hend).trans (shifted_suffix hshifted)

/-! ## The decoder -/

/-- The outer loop. -/
def decodeFrom (strict : Bool) : List UInt8 → Nat → Output → Except Stop Output
  | [], _, output => pure output
  | byte :: rest, index, output =>
      match _h : iteration strict byte rest index output with
      | .error stop => .error stop
      | .ok cursor => decodeFrom strict cursor.rest cursor.index cursor.output
termination_by bytes => bytes.length
decreasing_by
  have hle := (iteration_suffix _h).length_le
  rw [List.length_cons]
  omega

/-- The decoder with the failures that it has replaced. -/
def decodeRun (bytes : List UInt8) (strict : Bool) : Except Stop Output :=
  decodeFrom strict bytes 0 ⟨default, []⟩

def decode (bytes : List UInt8) (strict : Bool) : Except Stop PythonText :=
  (decodeRun bytes strict).map Output.text

theorem decodeFrom_nil (strict : Bool) (index : Nat) (output : Output) :
    decodeFrom strict [] index output = .ok output := by
  rw [decodeFrom]
  rfl

theorem decodeFrom_ok {strict : Bool} {byte : UInt8} {rest : List UInt8} {index : Nat}
    {output : Output} {cursor : Cursor} (h : iteration strict byte rest index output = .ok cursor) :
    decodeFrom strict (byte :: rest) index output =
      decodeFrom strict cursor.rest cursor.index cursor.output := by
  rw [decodeFrom]
  split
  case h_1 stop hstop => rw [h] at hstop; cases hstop
  case h_2 cursor' hcursor => rw [h] at hcursor; cases hcursor; rfl

theorem decodeFrom_error {strict : Bool} {byte : UInt8} {rest : List UInt8} {index : Nat}
    {output : Output} {stop : Stop} (h : iteration strict byte rest index output = .error stop) :
    decodeFrom strict (byte :: rest) index output = .error stop := by
  rw [decodeFrom]
  split
  case h_1 stop' hstop => rw [h] at hstop; cases hstop; rfl
  case h_2 cursor hcursor => rw [h] at hcursor; cases hcursor

end Marty.ResponseText.Utf7
