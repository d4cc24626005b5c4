import Mathlib.Data.List.Chain
import Marty.Lib.Base64
import Marty.ResponseText.Utf7

/-!
# What the UTF-7 decoder decodes

Each part of the decoder is what it emits, where it stops and whether it failed, and
none of these depends on the mode or on what was emitted before.  From this follow
the two results: the modes are one decoder, and decoding inverts every encoding.

## Main definitions

* `Utf7.Shift.feed` — a shifted run as a function of its sextets.
* `Utf7.Piece` — a part of an encoded text.

## Main statements

* `Utf7.decode_modes` — the strict run is the replacement run up to its first failure,
  and the replacement run goes on where the strict one failed.
* `Utf7.encode_roundTrip` — every encoding is decoded to what was encoded.
-/

namespace Marty.ResponseText.Utf7

open Marty.Lib Marty.Lib.Unicode

/-! ## Emission -/

def toPoint (n : Nat) : Codepoint := Fin.ofNat 0x110000 n

theorem val_toPoint {n : Nat} (h : n < 0x110000) : (toPoint n).val = n := Nat.mod_eq_of_lt h

@[simp] theorem toPoint_val (p : Codepoint) : toPoint p.val = p := Fin.ext (val_toPoint p.isLt)

def replacement : Codepoint := 0xfffd

def Output.extend (output : Output) (points : List Codepoint) : Output :=
  { output with text := output.text.extend points }

/-- A failure that is replaced. -/
def Output.replaced (output : Output) (error : DecodeError) : Output :=
  ⟨output.text.add replacement, output.failures ++ [error]⟩

@[simp] theorem Output.extend_nil (output : Output) : output.extend [] = output := rfl

@[simp] theorem Output.extend_extend (output : Output) (points points' : List Codepoint) :
    (output.extend points).extend points' = output.extend (points ++ points') := by
  simp only [Output.extend, extend_append]

theorem emit_eq (output : Output) {n : Nat} (h : n < 0x110000) :
    emit output n = .ok (output.extend [toPoint n]) := by
  have hpush := push_eq_ok output.text (toPoint n)
  rw [val_toPoint h] at hpush
  rw [emit, hpush]
  rfl

theorem failure_strict (output : Output) (start stop : Nat) (reason : String) :
    failure output true start stop reason =
      .error (.failed ⟨start, stop, reason⟩ output.text) := rfl

theorem failure_replaced (output : Output) (start stop : Nat) (reason : String) :
    failure output false start stop reason = .ok (output.replaced ⟨start, stop, reason⟩) := by
  have hemit : emit output 0xfffd = .ok (output.extend [replacement]) :=
    emit_eq output (by omega)
  rw [failure, if_neg Bool.false_ne_true, hemit]
  rfl

/-! ## Units -/

/-- What a unit emits after a pending high surrogate, and what is pending after it. -/
def pairUnit (pending : Option Nat) (unit : Nat) : List Codepoint × Option Nat :=
  match pending with
  | some high =>
      if IsLow unit then ([toPoint (combine high unit)], none)
      else if IsHigh unit then ([toPoint high], some unit)
      else ([toPoint high, toPoint unit], none)
  | none => if IsHigh unit then ([], some unit) else ([toPoint unit], none)

def pairUnits (pending : Option Nat) : List Nat → List Codepoint × Option Nat
  | [] => ([], pending)
  | unit :: units =>
      ((pairUnit pending unit).1 ++ (pairUnits (pairUnit pending unit).2 units).1,
        (pairUnits (pairUnit pending unit).2 units).2)

/-- Only a high surrogate waits. -/
def PendingHigh (pending : Option Nat) : Prop := ∀ high, pending = some high → IsHigh high

theorem pendingHigh_none : PendingHigh none := nofun

theorem IsHigh.lt {u : Nat} (h : IsHigh u) : u < 0x110000 := by
  unfold IsHigh at h
  omega

theorem PendingHigh.pairUnit {pending : Option Nat} (h : PendingHigh pending) (unit : Nat) :
    PendingHigh (pairUnit pending unit).2 := by
  intro high heq
  cases pending with
  | none =>
      by_cases hunit : IsHigh unit <;> simp [Utf7.pairUnit, hunit] at heq
      exact heq ▸ hunit
  | some pendingHigh =>
      by_cases hlow : IsLow unit <;> by_cases hunit : IsHigh unit <;>
        simp [Utf7.pairUnit, hlow, hunit] at heq
      exact heq ▸ hunit

theorem settle_eq (output : Output) {unit : Nat} (h : unit < 0x10000) :
    settle output unit =
      .ok ((pairUnit none unit).2, output.extend (pairUnit none unit).1) := by
  have hlt : unit < 0x110000 := by omega
  by_cases hunit : IsHigh unit
  · have hcond : 0xd800 ≤ unit ∧ unit ≤ 0xdbff := hunit
    rw [settle, if_pos hcond, pairUnit, if_pos hunit]
    rfl
  · have hcond : ¬ (0xd800 ≤ unit ∧ unit ≤ 0xdbff) := hunit
    rw [settle, if_neg hcond, emit_eq output hlt, pairUnit, if_neg hunit]
    rfl

theorem takeUnit_eq (output : Output) {pending : Option Nat} {unit : Nat}
    (hpending : PendingHigh pending) (h : unit < 0x10000) :
    takeUnit pending unit output =
      .ok ((pairUnit pending unit).2, output.extend (pairUnit pending unit).1) := by
  cases pending with
  | none => exact settle_eq output h
  | some high =>
      have hhigh := hpending high rfl
      by_cases hlow : IsLow unit
      · have hcond : 0xdc00 ≤ unit ∧ unit ≤ 0xdfff := hlow
        have hpoint : 0x10000 + ((high - 0xd800) <<< 10) + unit - 0xdc00 = combine high unit := by
          unfold combine
          omega
        simp only [takeUnit]
        rw [if_pos hcond, hpoint, emit_eq output (combine_lt hhigh hlow), pairUnit, if_pos hlow]
        rfl
      · have hcond : ¬ (0xdc00 ≤ unit ∧ unit ≤ 0xdfff) := hlow
        have hsettle := settle_eq (output.extend [toPoint high]) h
        simp only [takeUnit]
        rw [if_neg hcond, emit_eq output (IsHigh.lt hhigh)]
        show settle (output.extend [toPoint high]) unit = _
        rw [hsettle, pairUnit, pairUnit, if_neg hlow]
        by_cases hunit : IsHigh unit <;> simp [hunit]

/-! ## Sextets -/

/-- A run holds fewer than sixteen bits between its sextets. -/
structure Shift.Bounded (s : Shift) : Prop where
  pending : PendingHigh s.pendingHigh
  bits : s.bits < 16
  buffer : s.buffer < 2 ^ s.bits

/-- A run with one more sextet, and what it emits. -/
def Shift.next (s : Shift) (value : Nat) : Shift × List Codepoint :=
  if s.bits + 6 < 16 then (⟨s.pendingHigh, s.bits + 6, s.buffer * 64 + value⟩, [])
  else
    let bits := s.bits + 6 - 16
    let unit := (s.buffer * 64 + value) / 2 ^ bits
    (⟨(pairUnit s.pendingHigh unit).2, bits, (s.buffer * 64 + value) % 2 ^ bits⟩,
      (pairUnit s.pendingHigh unit).1)

/-- A run through its sextets. -/
def Shift.feed (s : Shift) : List Nat → Shift × List Codepoint
  | [] => (s, [])
  | value :: values =>
      (((s.next value).1.feed values).1, (s.next value).2 ++ ((s.next value).1.feed values).2)

theorem Shift.bounded_initial : Shift.initial.Bounded :=
  ⟨pendingHigh_none, by decide, by decide⟩

theorem Shift.Bounded.buffer_next {s : Shift} (hs : s.Bounded) {value : Nat} (hv : value < 64) :
    s.buffer * 64 + value < 2 ^ (s.bits + 6) := by
  have hbuffer := hs.buffer
  rw [Nat.pow_add]
  omega

theorem Shift.Bounded.unit_lt {s : Shift} (hs : s.Bounded) {value : Nat} (hv : value < 64)
    (hbits : ¬ s.bits + 6 < 16) :
    (s.buffer * 64 + value) / 2 ^ (s.bits + 6 - 16) < 0x10000 := by
  have hnext := hs.buffer_next hv
  rw [Nat.div_lt_iff_lt_mul (Nat.two_pow_pos _)]
  have hpow : 0x10000 * 2 ^ (s.bits + 6 - 16) = 2 ^ (s.bits + 6) := by
    rw [show 0x10000 = 2 ^ 16 from rfl, ← Nat.pow_add]
    congr 1
    omega
  rwa [hpow]

theorem Shift.Bounded.next {s : Shift} (hs : s.Bounded) {value : Nat} (hv : value < 64) :
    (s.next value).1.Bounded := by
  unfold Shift.next
  split
  case isTrue h => exact ⟨hs.pending, h, hs.buffer_next hv⟩
  case isFalse h =>
      have hbits := hs.bits
      refine ⟨hs.pending.pairUnit _, ?_, Nat.mod_lt _ (Nat.two_pow_pos _)⟩
      dsimp only
      omega

theorem shiftSextet_eq {s : Shift} (hs : s.Bounded) {value : Nat} (hv : value < 64)
    (output : Output) :
    shiftSextet s value output = .ok ((s.next value).1, output.extend (s.next value).2) := by
  have hbuffer : s.buffer <<< 6 ||| value = s.buffer * 64 + value := by
    rw [← Nat.shiftLeft_add_eq_or_of_lt (i := 6) hv, Nat.shiftLeft_eq]
  unfold shiftSextet Shift.next
  simp only [hbuffer]
  by_cases hbits : s.bits + 6 < 16
  · rw [if_pos hbits, if_pos hbits]
    rfl
  · have hunit := hs.unit_lt hv hbits
    rw [if_neg hbits, if_neg hbits, Nat.shiftRight_eq_div_pow, takeUnit_eq output hs.pending hunit,
      Nat.shiftLeft_eq, Nat.one_mul, Nat.and_two_pow_sub_one_eq_mod]
    rfl

/-! ## Runs -/

/-- The sextets that a text begins with. -/
def sextets : List UInt8 → List Nat
  | [] => []
  | byte :: bytes =>
      match sextet byte with
      | some value => value :: sextets bytes
      | none => []

/-- What follows the sextets. -/
def afterSextets : List UInt8 → List UInt8
  | [] => []
  | byte :: bytes => if (sextet byte).isSome then afterSextets bytes else byte :: bytes

theorem sextet_lt {byte : UInt8} {value : Nat} (h : sextet byte = some value) : value < 64 := by
  have hbyte := byte.toNat_lt
  unfold sextet at h
  simp only [UInt8.le_iff_toNat_le] at h
  split at h
  case isTrue hc =>
      simp at h hc
      omega
  case isFalse =>
      split at h
      case isTrue hc =>
          simp at h hc
          omega
      case isFalse =>
          split at h
          case isTrue hc =>
              simp at h hc
              omega
          case isFalse =>
              split at h
              case isTrue => cases h; decide
              case isFalse =>
                  split at h
                  case isTrue => cases h; decide
                  case isFalse => cases h

theorem shifted_eq {s : Shift} (hs : s.Bounded) (output : Output) (bytes : List UInt8)
    (index : Nat) :
    shifted s output bytes index = .ok ((s.feed (sextets bytes)).1,
      ⟨output.extend (s.feed (sextets bytes)).2, afterSextets bytes,
        index + (sextets bytes).length⟩) := by
  induction bytes generalizing s output index with
  | nil => rfl
  | cons byte bytes ih =>
      cases hvalue : sextet byte with
      | none => simp [shifted, sextets, afterSextets, hvalue, Shift.feed, pure, Except.pure]
      | some value =>
          have hv := sextet_lt hvalue
          have hstep := shiftSextet_eq hs hv output
          have hrest := ih (hs.next hv) (output.extend (s.next value).2) (index + 1)
          simp only [shifted, sextets, afterSextets, hvalue]
          rw [hstep]
          show shifted (s.next value).1 (output.extend (s.next value).2) bytes (index + 1) = _
          rw [hrest, Shift.feed, Output.extend_extend, List.length_cons, Nat.add_assoc,
            Nat.add_comm 1]
          rfl

theorem Shift.Bounded.feed {s : Shift} (hs : s.Bounded) (bytes : List UInt8) :
    (s.feed (sextets bytes)).1.Bounded := by
  induction bytes generalizing s with
  | nil => exact hs
  | cons byte bytes ih =>
      cases hvalue : sextet byte with
      | none =>
          simp only [sextets, hvalue]
          exact hs
      | some value =>
          simp only [sextets, hvalue, Shift.feed]
          exact ih (hs.next (sextet_lt hvalue))

theorem afterSextets_suffix (bytes : List UInt8) : afterSextets bytes <:+ bytes := by
  induction bytes with
  | nil => exact List.suffix_rfl
  | cons byte bytes ih =>
      simp only [afterSextets]
      split
      case isTrue => exact ih.trans (List.suffix_cons _ _)
      case isFalse => exact List.suffix_rfl

theorem length_sextets (bytes : List UInt8) :
    (sextets bytes).length + (afterSextets bytes).length = bytes.length := by
  induction bytes with
  | nil => rfl
  | cons byte bytes ih =>
      cases hvalue : sextet byte with
      | none => simp [sextets, afterSextets, hvalue]
      | some value =>
          simp only [sextets, afterSextets, hvalue, Option.isSome_some, if_true, List.length_cons]
          omega

/-! ## One pass -/

/-- A pass that emits `points` and leaves `left`, in either mode. -/
def Passes (byte : UInt8) (rest : List UInt8) (points : List Codepoint) (left : List UInt8) :
    Prop :=
  ∀ strict start output, iteration strict byte rest start output =
    .ok ⟨output.extend points, left, start + 1 + (rest.length - left.length)⟩

/-- A pass that fails after `points`, and leaves `left` where the failure is replaced. -/
def Fails (byte : UInt8) (rest : List UInt8) (points : List Codepoint) (left : List UInt8) :
    Prop :=
  ∃ reason, ∀ start output,
    iteration true byte rest start output = .error (.failed
      ⟨start, start + 1 + (rest.length - left.length), reason⟩ (output.text.extend points)) ∧
    iteration false byte rest start output = .ok
      ⟨(output.extend points).replaced
          ⟨start, start + 1 + (rest.length - left.length), reason⟩,
        left, start + 1 + (rest.length - left.length)⟩

theorem emitPending_eq {pending : Option Nat} (h : PendingHigh pending) (terminator : UInt8) :
    ∃ points, ∀ output, emitPending output pending terminator = .ok (output.extend points) := by
  by_cases hascii : isAscii terminator
  · cases pending with
    | none =>
        refine ⟨[], fun output => ?_⟩
        simp only [emitPending, if_pos hascii]
        rfl
    | some high =>
        refine ⟨[toPoint high], fun output => ?_⟩
        simp only [emitPending, if_pos hascii]
        exact emit_eq output (IsHigh.lt (h high rfl))
  · refine ⟨[], fun output => ?_⟩
    simp only [emitPending, if_neg hascii]
    rfl

/-- The end of a shifted run. -/
theorem endShift_cases {s : Shift} (hs : s.Bounded) (rest : List UInt8) :
    ∃ points left, left <:+ rest ∧
      ((∀ strict start output index, endShift strict start s ⟨output, rest, index⟩ =
        .ok ⟨output.extend points, left, index + (rest.length - left.length)⟩) ∨
      ∃ reason, ∀ start output index,
        endShift true start s ⟨output, rest, index⟩ = .error (.failed
          ⟨start, index + (rest.length - left.length), reason⟩ (output.text.extend points)) ∧
        endShift false start s ⟨output, rest, index⟩ = .ok
          ⟨(output.extend points).replaced ⟨start, index + (rest.length - left.length), reason⟩,
            left, index + (rest.length - left.length)⟩) := by
  cases rest with
  | nil =>
      refine ⟨[], [], List.suffix_rfl, ?_⟩
      by_cases hopen : s.pendingHigh.isSome ∨ 6 ≤ s.bits ∨ s.buffer ≠ 0
      · refine .inr ⟨"unterminated shift sequence", fun start output index => ?_⟩
        simp only [endShift, if_pos hopen, failure_strict, failure_replaced]
        exact ⟨rfl, rfl⟩
      · refine .inl fun strict start output index => ?_
        simp only [endShift, if_neg hopen]
        rfl
  | cons terminator rest =>
      by_cases hopen : 6 ≤ s.bits ∨ s.buffer ≠ 0
      · refine ⟨[], rest, List.suffix_cons _ _, .inr
          ⟨if 6 ≤ s.bits then "partial character in shift sequence"
            else "non-zero padding bits in shift sequence", fun start output index => ?_⟩⟩
        have hlength : (terminator :: rest).length - rest.length = 1 := by
          rw [List.length_cons]
          omega
        simp only [endShift, if_pos hopen, failure_strict, failure_replaced, hlength]
        exact ⟨rfl, rfl⟩
      · obtain ⟨points, hpoints⟩ := emitPending_eq hs.pending terminator
        by_cases hminus : terminator = minus
        · refine ⟨points, rest, List.suffix_cons _ _, .inl fun strict start output index => ?_⟩
          have hlength : (terminator :: rest).length - rest.length = 1 := by
            rw [List.length_cons]
            omega
          simp only [endShift, if_neg hopen, hpoints, hlength]
          show (if terminator = minus then _ else _) = _
          rw [if_pos hminus]
          rfl
        · refine ⟨points, terminator :: rest, List.suffix_rfl,
            .inl fun strict start output index => ?_⟩
          simp only [endShift, if_neg hopen, hpoints, Nat.sub_self]
          show (if terminator = minus then _ else _) = _
          rw [if_neg hminus]
          rfl

/-- A shift marker before a sextet. -/
theorem iteration_shift {next : UInt8} {after : List UInt8} (hnext : next ≠ minus)
    (hsextet : (sextet next).isSome) (strict : Bool) (start : Nat) (output : Output) :
    iteration strict plus (next :: after) start output =
      endShift strict start (Shift.initial.feed (sextets (next :: after))).1
        ⟨output.extend (Shift.initial.feed (sextets (next :: after))).2,
          afterSextets (next :: after), start + 1 + (sextets (next :: after)).length⟩ := by
  have hsome : ¬ (sextet next).isNone := by
    rw [← Option.not_isSome, hsextet]
    simp
  have hshifted := shifted_eq Shift.bounded_initial output (next :: after) (start + 1)
  simp only [iteration, ne_eq, not_true, if_false, if_neg hnext, if_neg hsome]
  rw [hshifted]
  rfl

/-- **One pass** does the same in either mode, up to what a failure is. -/
theorem iteration_cases (byte : UInt8) (rest : List UInt8) :
    ∃ points left, left <:+ rest ∧
      (Passes byte rest points left ∨ Fails byte rest points left) := by
  by_cases hplus : byte ≠ plus
  · by_cases hascii : isAscii byte
    · have hlt : byte.toNat < 0x110000 := by
        have hbyte := byte.toNat_lt
        omega
      refine ⟨[toPoint byte.toNat], rest, List.suffix_rfl, .inl fun strict start output => ?_⟩
      simp only [iteration, if_pos hplus, if_pos hascii, emit_eq output hlt, Nat.sub_self]
      rfl
    · refine ⟨[], rest, List.suffix_rfl, .inr ⟨"unexpected special character",
        fun start output => ?_⟩⟩
      simp only [iteration, if_pos hplus, if_neg hascii, failure_strict, failure_replaced,
        Nat.sub_self]
      exact ⟨rfl, rfl⟩
  · have hbyte : byte = plus := by simpa using hplus
    subst hbyte
    cases rest with
    | nil =>
        refine ⟨[], [], List.suffix_rfl, .inl fun strict start output => ?_⟩
        simp only [iteration, if_neg hplus]
        rfl
    | cons next after =>
        have hlength : (next :: after).length - after.length = 1 := by
          rw [List.length_cons]
          omega
        by_cases hminus : next = minus
        · refine ⟨[toPoint plus.toNat], after, List.suffix_cons _ _,
            .inl fun strict start output => ?_⟩
          have hlt : plus.toNat < 0x110000 := by decide
          simp only [iteration, if_neg hplus, if_pos hminus, emit_eq output hlt, hlength]
          rfl
        · by_cases hsextet : (sextet next).isNone
          · refine ⟨[], after, List.suffix_cons _ _, .inr ⟨"ill-formed sequence",
              fun start output => ?_⟩⟩
            simp only [iteration, if_neg hplus, if_neg hminus, if_pos hsextet, failure_strict,
              failure_replaced, hlength]
            exact ⟨rfl, rfl⟩
          · -- a shifted run: what it emits, and then how it ends
            have hsome : (sextet next).isSome := by
              rw [← Option.not_isNone, Bool.eq_false_of_not_eq_true hsextet]
              rfl
            have hfed := Shift.bounded_initial.feed (next :: after)
            have hsum := length_sextets (next :: after)
            obtain ⟨points, left, hleft, hend⟩ :=
              endShift_cases hfed (afterSextets (next :: after))
            have hle := hleft.length_le
            refine ⟨(Shift.initial.feed (sextets (next :: after))).2 ++ points, left,
              hleft.trans (afterSextets_suffix _), ?_⟩
            have hindex : ∀ start, start + 1 + (sextets (next :: after)).length +
                ((afterSextets (next :: after)).length - left.length) =
                start + 1 + ((next :: after).length - left.length) := by
              intro start
              omega
            rcases hend with hend | ⟨reason, hend⟩
            · refine .inl fun strict start output => ?_
              rw [iteration_shift hminus hsome, hend, hindex, Output.extend_extend]
            · refine .inr ⟨reason, fun start output => ?_⟩
              rw [iteration_shift hminus hsome, iteration_shift hminus hsome, (hend _ _ _).1,
                (hend _ _ _).2, hindex, Output.extend_extend]
              exact ⟨by simp [Output.extend, extend_append], rfl⟩

/-! ## The two modes -/

/-- **Up to its first failure a run is the same in either mode**, and where the strict run ends
the other one goes on, with the failure replaced. -/
theorem decodeFrom_cases (bytes : List UInt8) :
    (∃ points, ∀ strict index output,
      decodeFrom strict bytes index output = .ok (output.extend points)) ∨
    ∃ points start stop reason, start < stop ∧ stop ≤ bytes.length ∧ ∀ index output,
      decodeFrom true bytes index output = .error (.failed
        ⟨index + start, index + stop, reason⟩ (output.text.extend points)) ∧
      decodeFrom false bytes index output = decodeFrom false (bytes.drop stop) (index + stop)
        ((output.extend points).replaced ⟨index + start, index + stop, reason⟩) := by
  induction hn : bytes.length using Nat.strongRecOn generalizing bytes with
  | _ n ih =>
    cases bytes with
    | nil => exact .inl ⟨[], fun strict index output => decodeFrom_nil _ _ _⟩
    | cons byte rest =>
        obtain ⟨points, left, hleft, hpass⟩ := iteration_cases byte rest
        have hle := hleft.length_le
        have hlength : (byte :: rest).length = rest.length + 1 := rfl
        -- what a pass leaves is what is left from its end on
        have hdrop : (byte :: rest).drop (1 + (rest.length - left.length)) = left := by
          rw [Nat.add_comm, List.drop_succ_cons]
          exact (List.suffix_iff_eq_drop.mp hleft).symm
        rcases hpass with hpass | ⟨reason, hfail⟩
        · rcases ih left.length (by omega) left rfl with ⟨points', hclean⟩ |
            ⟨points', start, stop, reason, hlt, hstop, hbroken⟩
          · refine .inl ⟨points ++ points', fun strict index output => ?_⟩
            rw [decodeFrom_ok (hpass strict index output), hclean, Output.extend_extend]
          · refine .inr ⟨points ++ points', 1 + (rest.length - left.length) + start,
              1 + (rest.length - left.length) + stop, reason, by omega, by omega,
              fun index output => ?_⟩
            rw [decodeFrom_ok (hpass true index output), decodeFrom_ok (hpass false index output),
              (hbroken _ _).1, (hbroken _ _).2, ← List.drop_drop, hdrop]
            simp only [Output.extend_extend, ← Nat.add_assoc, and_true]
            simp [Output.extend, extend_append]
        · refine .inr ⟨points, 0, 1 + (rest.length - left.length), reason, by omega, by omega,
            fun index output => ?_⟩
          rw [decodeFrom_error (hfail index output).1, decodeFrom_ok (hfail index output).2, hdrop]
          exact ⟨by simp [Nat.add_assoc], by simp [Nat.add_assoc]⟩

/-- A replacement run emits the same points wherever it begins and whatever was emitted. -/
theorem decodeFrom_replacement (bytes : List UInt8) :
    ∃ points, ∀ index output, ∃ failures, decodeFrom false bytes index output =
      .ok ⟨output.text.extend points, output.failures ++ failures⟩ := by
  induction hn : bytes.length using Nat.strongRecOn generalizing bytes with
  | _ n ih =>
    rcases decodeFrom_cases bytes with ⟨points, hclean⟩ |
      ⟨points, start, stop, reason, hlt, hstop, hbroken⟩
    · refine ⟨points, fun index output => ⟨[], ?_⟩⟩
      rw [hclean, List.append_nil]
      rfl
    · have hshorter : (bytes.drop stop).length < n := by
        rw [List.length_drop]
        omega
      obtain ⟨points', hrest⟩ := ih _ hshorter (bytes.drop stop) rfl
      refine ⟨points ++ replacement :: points', fun index output => ?_⟩
      obtain ⟨failures, heq⟩ := hrest (index + stop)
        ((output.extend points).replaced ⟨index + start, index + stop, reason⟩)
      refine ⟨⟨index + start, index + stop, reason⟩ :: failures, ?_⟩
      rw [(hbroken _ _).2, heq]
      simp [Output.replaced, Output.extend, extend_append]

/-- **The modes are one decoder.**  With replacement every input is decoded.  A strict run
succeeds exactly when nothing had to be replaced, and then with the same text.  When it fails, the
failure is at some of the bytes, and the replacement run has what the strict one had emitted, a
replacement character, and what it makes of the bytes after the failure. -/
theorem decode_modes (bytes : List UInt8) :
    ∃ output, decodeRun bytes false = .ok output ∧ decode bytes false = .ok output.text ∧
      ((∃ text, decode bytes true = .ok text) ↔ output.failures = []) ∧
      (output.failures = [] → decode bytes true = decode bytes false) ∧
      decode bytes true ≠ .error .panicked ∧
      ∀ error emitted, decode bytes true = .error (.failed error emitted) →
        error.start < error.stop ∧ error.stop ≤ bytes.length ∧
        ∃ resumed, decode (bytes.drop error.stop) false = .ok resumed ∧
          output.text.codepoints = emitted.codepoints ++ 0xfffd :: resumed.codepoints := by
  rcases decodeFrom_cases bytes with ⟨points, hclean⟩ |
    ⟨points, start, stop, reason, hlt, hstop, hbroken⟩
  · have hstrict : decode bytes true = .ok ((default : PythonText).extend points) := by
      rw [decode, decodeRun, hclean]
      rfl
    have hloose : decode bytes false = .ok ((default : PythonText).extend points) := by
      rw [decode, decodeRun, hclean]
      rfl
    refine ⟨⟨(default : PythonText).extend points, []⟩, hclean _ _ _, hloose, ?_, ?_, ?_, ?_⟩
    · exact ⟨fun _ => rfl, fun _ => ⟨_, hstrict⟩⟩
    · exact fun _ => hstrict.trans hloose.symm
    · rw [hstrict]
      nofun
    · intro error emitted herror
      rw [hstrict] at herror
      cases herror
  · obtain ⟨points', hrest⟩ := decodeFrom_replacement (bytes.drop stop)
    obtain ⟨hstrict, hloose⟩ := hbroken 0 ⟨default, []⟩
    obtain ⟨failures, heq⟩ := hrest (0 + stop)
      (((⟨default, []⟩ : Output).extend points).replaced ⟨0 + start, 0 + stop, reason⟩)
    obtain ⟨failures', hresumed⟩ := hrest 0 ⟨default, []⟩
    rw [heq] at hloose
    have herror : decode bytes true = .error (.failed ⟨0 + start, 0 + stop, reason⟩
        ((default : PythonText).extend points)) := by
      rw [decode, decodeRun, hstrict]
      rfl
    refine ⟨_, hloose, by rw [decode, decodeRun, hloose]; rfl, ?_, ?_, ?_, ?_⟩
    · constructor
      · rintro ⟨text, htext⟩
        rw [herror] at htext
        cases htext
      · intro hnil
        simp [Output.replaced] at hnil
    · intro hnil
      simp [Output.replaced] at hnil
    · rw [herror]
      nofun
    · intro error emitted h
      rw [herror] at h
      cases h
      simp only [Nat.zero_add]
      refine ⟨hlt, hstop, (default : PythonText).extend points', ?_, ?_⟩
      · rw [decode, decodeRun, hresumed]
        rfl
      · simp [Output.replaced, Output.extend, replacement]

/-! ## Encodings -/

/-- The alphabet of shifted runs, without padding. -/
def runEngine : Base64.Engine := ⟨false, false⟩

def symbolByte (value : Nat) : UInt8 := UInt8.ofNat (runEngine.symbol value).toNat

/-- The UTF-16BE bytes of some code points. -/
def utf16Be (points : List Codepoint) : List UInt8 :=
  (points.flatMap fun p => utf16Units p.val).flatMap (toBytes false 2)

/-- A part of an encoded text: a character written directly, an escaped shift marker, or a shifted
run. -/
inductive Piece
  | direct (byte : UInt8) (ascii : isAscii byte = true) (ne : byte ≠ plus)
  | escape
  | run (points : List Codepoint) (nonempty : points ≠ [])

/-- What a part says. -/
def Piece.points : Piece → List Codepoint
  | .direct byte _ _ => [toPoint byte.toNat]
  | .escape => [toPoint plus.toNat]
  | .run points _ => points

/-- How a part is written. -/
def Piece.bytes : Piece → List UInt8
  | .direct byte _ _ => [byte]
  | .escape => [plus, minus]
  | .run points _ => plus ::
      ((Base64.encodeChars runEngine (utf16Be points)).map (fun c => UInt8.ofNat c.toNat) ++
        [minus])

/-- No high surrogate stands in front of a low one. -/
def NoPair (points : List Codepoint) : Prop :=
  points.IsChain fun p q => ¬ (IsHigh p.val ∧ IsLow q.val)

theorem sextet_symbolByte {value : Nat} (h : value < 64) :
    sextet (symbolByte value) = some value := by
  have key : ∀ v : Fin 64, sextet (symbolByte v.val) = some v.val := by decide
  exact key ⟨value, h⟩

theorem symbolByte_ne_minus {value : Nat} (h : value < 64) : symbolByte value ≠ minus := by
  have key : ∀ v : Fin 64, symbolByte v.val ≠ minus := by decide
  exact key ⟨value, h⟩

theorem run_bytes (points : List Codepoint) (h : points ≠ []) :
    (Piece.run points h).bytes =
      plus :: ((Base64.sextets (utf16Be points)).map symbolByte ++ [minus]) := by
  rw [Piece.bytes, Base64.encodeChars_eq_map runEngine rfl, List.map_map]
  rfl

/-- The sextets of a run are read up to the closing mark. -/
theorem sextets_symbolBytes {values : List Nat} (h : ∀ v ∈ values, v < 64) (rest : List UInt8) :
    sextets (values.map symbolByte ++ minus :: rest) = values ∧
      afterSextets (values.map symbolByte ++ minus :: rest) = minus :: rest := by
  induction values with
  | nil => exact ⟨rfl, rfl⟩
  | cons value values ih =>
      have hvalue := sextet_symbolByte (h value (List.mem_cons_self ..))
      obtain ⟨hsextets, hafter⟩ := ih fun v hv => h v (List.mem_cons_of_mem _ hv)
      simp only [List.map_cons, List.cons_append, sextets, afterSextets, hvalue, hsextets,
        hafter]
      exact ⟨trivial, rfl⟩

theorem toBytes_unit {u : Nat} (h : u < 0x10000) :
    ∃ high low, toBytes false 2 u = [high, low] ∧ high.toNat = u / 256 ∧ low.toNat = u % 256 := by
  refine ⟨UInt8.ofNat (u / 256 % 256), UInt8.ofNat (u % 256), by simp [toBytes, toLeBytes], ?_, ?_⟩
  · rw [UInt8.toNat_ofNat']
    omega
  · rw [UInt8.toNat_ofNat']
    omega

/-! ### The units of a run -/

section Units

variable {pending : Option Nat} {bits buffer value : Nat}

theorem Shift.next_short (hbits : bits + 6 < 16) {buffer' : Nat}
    (h : buffer * 64 + value = buffer') :
    (⟨pending, bits, buffer⟩ : Shift).next value = (⟨pending, bits + 6, buffer'⟩, []) := by
  rw [Shift.next, if_pos hbits, h]

theorem Shift.next_unit (hbits : ¬ bits + 6 < 16) {unit rest : Nat}
    (h : buffer * 64 + value = unit * 2 ^ (bits + 6 - 16) + rest)
    (hrest : rest < 2 ^ (bits + 6 - 16)) :
    (⟨pending, bits, buffer⟩ : Shift).next value =
      (⟨(pairUnit pending unit).2, bits + 6 - 16, rest⟩, (pairUnit pending unit).1) := by
  have hpos : 0 < 2 ^ (bits + 6 - 16) := Nat.two_pow_pos _
  have hdiv : (unit * 2 ^ (bits + 6 - 16) + rest) / 2 ^ (bits + 6 - 16) = unit := by
    rw [Nat.mul_comm, Nat.mul_add_div hpos, Nat.div_eq_of_lt hrest, Nat.add_zero]
  have hmod : (unit * 2 ^ (bits + 6 - 16) + rest) % 2 ^ (bits + 6 - 16) = rest := by
    rw [Nat.mul_comm, Nat.mul_add_mod, Nat.mod_eq_of_lt hrest]
  rw [Shift.next, if_neg hbits, h]
  simp only [hdiv, hmod]

/-- A unit that begins where a sextet does. -/
theorem Shift.feed_first (a : Nat) {r : Nat} (hr : r < 4) (values : List Nat) :
    (⟨pending, 0, 0⟩ : Shift).feed (a / 1024 :: a / 16 % 64 :: (a % 16 * 4 + r) :: values) =
      (((⟨(pairUnit pending a).2, 2, r⟩ : Shift).feed values).1,
        (pairUnit pending a).1 ++ ((⟨(pairUnit pending a).2, 2, r⟩ : Shift).feed values).2) := by
  have h₀ : (⟨pending, 0, 0⟩ : Shift).next (a / 1024) = (⟨pending, 6, a / 1024⟩, []) :=
    Shift.next_short (by decide) (by omega)
  have h₁ : (⟨pending, 6, a / 1024⟩ : Shift).next (a / 16 % 64) = (⟨pending, 12, a / 16⟩, []) :=
    Shift.next_short (by decide) (by omega)
  have h₂ : (⟨pending, 12, a / 16⟩ : Shift).next (a % 16 * 4 + r) =
      (⟨(pairUnit pending a).2, 2, r⟩, (pairUnit pending a).1) :=
    Shift.next_unit (by decide) (by omega) hr
  simp only [Shift.feed, h₀, h₁, h₂, List.nil_append]

/-- A unit whose first two bits are there. -/
theorem Shift.feed_second (b : Nat) {r : Nat} (hr : r < 16) (values : List Nat) :
    (⟨pending, 2, b / 16384⟩ : Shift).feed
        (b / 256 % 64 :: b / 4 % 64 :: (b % 4 * 16 + r) :: values) =
      (((⟨(pairUnit pending b).2, 4, r⟩ : Shift).feed values).1,
        (pairUnit pending b).1 ++ ((⟨(pairUnit pending b).2, 4, r⟩ : Shift).feed values).2) := by
  have h₀ : (⟨pending, 2, b / 16384⟩ : Shift).next (b / 256 % 64) = (⟨pending, 8, b / 256⟩, []) :=
    Shift.next_short (by decide) (by omega)
  have h₁ : (⟨pending, 8, b / 256⟩ : Shift).next (b / 4 % 64) = (⟨pending, 14, b / 4⟩, []) :=
    Shift.next_short (by decide) (by omega)
  have h₂ : (⟨pending, 14, b / 4⟩ : Shift).next (b % 4 * 16 + r) =
      (⟨(pairUnit pending b).2, 4, r⟩, (pairUnit pending b).1) :=
    Shift.next_unit (by decide) (by omega) hr
  simp only [Shift.feed, h₀, h₁, h₂, List.nil_append]

/-- A unit whose first four bits are there. -/
theorem Shift.feed_third (c : Nat) (values : List Nat) :
    (⟨pending, 4, c / 4096⟩ : Shift).feed (c / 64 % 64 :: c % 64 :: values) =
      (((⟨(pairUnit pending c).2, 0, 0⟩ : Shift).feed values).1,
        (pairUnit pending c).1 ++ ((⟨(pairUnit pending c).2, 0, 0⟩ : Shift).feed values).2) := by
  have h₀ : (⟨pending, 4, c / 4096⟩ : Shift).next (c / 64 % 64) = (⟨pending, 10, c / 64⟩, []) :=
    Shift.next_short (by decide) (by omega)
  have h₁ : (⟨pending, 10, c / 64⟩ : Shift).next (c % 64) =
      (⟨(pairUnit pending c).2, 0, 0⟩, (pairUnit pending c).1) :=
    Shift.next_unit (by decide) (by omega) (by decide)
  simp only [Shift.feed, h₀, h₁, List.nil_append]

end Units

/-- A run of three units ends where a sextet does. -/
theorem sextets_three {a b c : Nat} (ha : a < 0x10000) (hb : b < 0x10000) (hc : c < 0x10000)
    (rest : List UInt8) :
    Base64.sextets (toBytes false 2 a ++ (toBytes false 2 b ++ (toBytes false 2 c ++ rest))) =
      [a / 1024, a / 16 % 64, a % 16 * 4 + b / 16384, b / 256 % 64, b / 4 % 64,
        b % 4 * 16 + c / 4096, c / 64 % 64, c % 64] ++ Base64.sextets rest := by
  obtain ⟨a₁, a₀, hbytesA, ha₁, ha₀⟩ := toBytes_unit ha
  obtain ⟨b₁, b₀, hbytesB, hb₁, hb₀⟩ := toBytes_unit hb
  obtain ⟨c₁, c₀, hbytesC, hc₁, hc₀⟩ := toBytes_unit hc
  simp only [hbytesA, hbytesB, hbytesC, List.cons_append, List.nil_append, Base64.sextets,
    List.cons.injEq, and_true]
  omega

theorem sextets_two {a b : Nat} (ha : a < 0x10000) (hb : b < 0x10000) :
    Base64.sextets (toBytes false 2 a ++ toBytes false 2 b) =
      [a / 1024, a / 16 % 64, a % 16 * 4 + b / 16384, b / 256 % 64, b / 4 % 64,
        b % 4 * 16 + 0] := by
  obtain ⟨a₁, a₀, hbytesA, ha₁, ha₀⟩ := toBytes_unit ha
  obtain ⟨b₁, b₀, hbytesB, hb₁, hb₀⟩ := toBytes_unit hb
  simp only [hbytesA, hbytesB, List.cons_append, List.nil_append, Base64.sextets,
    List.cons.injEq, and_true]
  omega

theorem sextets_one {a : Nat} (ha : a < 0x10000) :
    Base64.sextets (toBytes false 2 a) = [a / 1024, a / 16 % 64, a % 16 * 4 + 0] := by
  obtain ⟨a₁, a₀, hbytesA, ha₁, ha₀⟩ := toBytes_unit ha
  simp only [hbytesA, Base64.sextets, List.cons.injEq, and_true]
  omega

/-- **A run gives back its units**, and leaves fewer than six bits, all zero. -/
theorem feed_units (units : List Nat) (hunits : ∀ u ∈ units, u < 0x10000)
    (pending : Option Nat) :
    ∃ bits, bits < 6 ∧
      (⟨pending, 0, 0⟩ : Shift).feed (Base64.sextets (units.flatMap (toBytes false 2))) =
        (⟨(pairUnits pending units).2, bits, 0⟩, (pairUnits pending units).1) := by
  match units with
  | [] => exact ⟨0, by decide, rfl⟩
  | [a] =>
      have ha := hunits a (by simp)
      refine ⟨2, by decide, ?_⟩
      rw [List.flatMap_singleton, sextets_one ha, Shift.feed_first a (by decide)]
      simp [Shift.feed, pairUnits]
  | [a, b] =>
      have ha := hunits a (by simp)
      have hb := hunits b (by simp)
      refine ⟨4, by decide, ?_⟩
      rw [List.flatMap_cons, List.flatMap_singleton, sextets_two ha hb,
        Shift.feed_first a (by omega), Shift.feed_second b (by decide)]
      simp [Shift.feed, pairUnits]
  | a :: b :: c :: units =>
      have ha := hunits a (by simp)
      have hb := hunits b (by simp)
      have hc := hunits c (by simp)
      obtain ⟨bits, hbits, hfeed⟩ := feed_units units (fun u hu => hunits u (by simp [hu]))
        (pairUnit (pairUnit (pairUnit pending a).2 b).2 c).2
      refine ⟨bits, hbits, ?_⟩
      rw [List.flatMap_cons, List.flatMap_cons, List.flatMap_cons, sextets_three ha hb hc]
      simp only [List.cons_append, List.nil_append]
      rw [Shift.feed_first a (by omega), Shift.feed_second b (by omega), Shift.feed_third c, hfeed]
      rfl

/-- A pending high surrogate as a point. -/
def pendingPoints (pending : Option Nat) : List Codepoint := pending.toList.map toPoint

/-- A point of one unit comes after what is pending. -/
theorem pairUnit_point {pending : Option Nat} {q : Codepoint}
    (hpair : ∀ high, pending = some high → ¬ IsLow q.val) :
    (pairUnit pending q.val).1 ++ pendingPoints (pairUnit pending q.val).2 =
      pendingPoints pending ++ [q] ∧
    ((pairUnit pending q.val).2 = none ∨ (pairUnit pending q.val).2 = some q.val) := by
  cases pending with
  | none => by_cases hhigh : IsHigh q.val <;> simp [pairUnit, pendingPoints, hhigh]
  | some high =>
      have hlow := hpair high rfl
      by_cases hhigh : IsHigh q.val <;> simp [pairUnit, pendingPoints, hhigh, hlow]

/-- **The units of some points give back the points**, with what is still pending. -/
theorem pairUnits_points (points : List Codepoint) (pending : Option Nat)
    (hpending : PendingHigh pending) (hpair : NoPair (pendingPoints pending ++ points)) :
    (pairUnits pending (points.flatMap fun p => utf16Units p.val)).1 ++
        pendingPoints (pairUnits pending (points.flatMap fun p => utf16Units p.val)).2 =
      pendingPoints pending ++ points := by
  induction points generalizing pending with
  | nil => simp [pairUnits]
  | cons q points ih =>
      have hrest : NoPair points := by
        have hsuffix : points <:+ pendingPoints pending ++ q :: points :=
          (List.suffix_cons q points).trans (List.suffix_append _ _)
        exact List.IsChain.suffix hpair hsuffix
      rw [List.flatMap_cons]
      by_cases hplane : q.val < 0x10000
      · have hlow : ∀ high, pending = some high → ¬ IsLow q.val := by
          intro high heq hlow
          have hhigh := hpending high heq
          subst heq
          have hchain : NoPair (toPoint high :: q :: points) := hpair
          exact (List.isChain_cons_cons.mp hchain).1
            ⟨by rwa [val_toPoint (IsHigh.lt hhigh)], hlow⟩
        obtain ⟨hpoint, hnext⟩ := pairUnit_point hlow
        have hpair' : NoPair (pendingPoints (pairUnit pending q.val).2 ++ points) := by
          rcases hnext with hnext | hnext
          · rw [hnext]
            exact hrest
          · have hsuffix : q :: points <:+ pendingPoints pending ++ q :: points :=
              List.suffix_append _ _
            have hcons : pendingPoints (some q.val) ++ points = q :: points := by
              simp [pendingPoints]
            rw [hnext, hcons]
            exact List.IsChain.suffix hpair hsuffix
        have hih := ih _ (hpending.pairUnit q.val) hpair'
        rw [utf16Units_of_lt hplane, List.singleton_append, pairUnits, List.append_assoc, hih,
          ← List.append_assoc, hpoint, List.append_assoc, List.singleton_append]
      · -- a surrogate pair is put together again
        obtain ⟨high, low, hunits, hhigh, hlow, hcombine⟩ :=
          utf16Units_of_le (Nat.le_of_not_lt hplane) q.isLt
        have hfirst : pairUnit pending high = (pendingPoints pending, some high) := by
          cases pending <;> simp [pairUnit, pendingPoints, hhigh, hhigh.not_isLow]
        have hsecond : pairUnit (some high) low = ([q], none) := by
          simp [pairUnit, hlow, hcombine]
        have hih := ih none pendingHigh_none hrest
        have hnil : pendingPoints none = [] := rfl
        rw [hnil, List.nil_append] at hih
        rw [hunits]
        simp only [List.cons_append, List.nil_append, pairUnits, hfirst, hsecond]
        rw [List.append_assoc, List.cons_append, hih]

/-! ### Decoding -/

theorem points_units_lt {points : List Codepoint} {u : Nat}
    (h : u ∈ points.flatMap fun p => utf16Units p.val) : u < 0x10000 := by
  obtain ⟨p, -, hu⟩ := List.mem_flatMap.mp h
  exact lt_of_mem_utf16Units p.isLt hu

theorem sextets_utf16Be_ne_nil {points : List Codepoint} (h : points ≠ []) :
    Base64.sextets (utf16Be points) ≠ [] := by
  obtain ⟨p, points, rfl⟩ := List.exists_cons_of_ne_nil h
  obtain ⟨u, units, hunits⟩ := List.exists_cons_of_ne_nil (utf16Units_ne_nil p.val)
  have hu : u < 0x10000 := lt_of_mem_utf16Units p.isLt (by simp [hunits])
  obtain ⟨high, low, hbytes, -, -⟩ := toBytes_unit hu
  rw [utf16Be, List.flatMap_cons, hunits, List.cons_append, List.flatMap_cons, hbytes]
  generalize ((units ++ points.flatMap fun p => utf16Units p.val).flatMap (toBytes false 2)) = rest
  cases rest <;> simp [Base64.sextets]

/-- The closing mark of a run with nothing left but zero bits. -/
theorem endShift_closed {pending : Option Nat} (hpending : PendingHigh pending) {bits : Nat}
    (hbits : bits < 6) (strict : Bool) (start index : Nat) (rest : List UInt8) (output : Output) :
    endShift strict start ⟨pending, bits, 0⟩ ⟨output, minus :: rest, index⟩ =
      .ok ⟨output.extend (pendingPoints pending), rest, index + 1⟩ := by
  have hclosed : ¬ (6 ≤ bits ∨ 0 ≠ 0) := by omega
  have hemit : emitPending output pending minus =
      .ok (output.extend (pendingPoints pending)) := by
    have hascii : isAscii minus = true := rfl
    cases pending with
    | none => rw [emitPending, if_pos hascii]; rfl
    | some high =>
        simp only [emitPending, if_pos hascii]
        exact emit_eq output (IsHigh.lt (hpending high rfl))
  simp only [endShift, if_neg hclosed, hemit, if_true]
  rfl

theorem pairUnits_pending {pending : Option Nat} (hpending : PendingHigh pending)
    (units : List Nat) : PendingHigh (pairUnits pending units).2 := by
  induction units generalizing pending with
  | nil => exact hpending
  | cons unit units ih => exact ih (hpending.pairUnit unit)

/-- **A part in front of others** is decoded to its points, and the loop goes on with the
others. -/
theorem decodeFrom_piece (strict : Bool) (piece : Piece) (hpair : NoPair piece.points)
    (rest : List UInt8) (index : Nat) (output : Output) :
    ∃ index', decodeFrom strict (piece.bytes ++ rest) index output =
      decodeFrom strict rest index' (output.extend piece.points) := by
  cases piece with
  | direct byte ascii ne =>
      have hlt : byte.toNat < 0x110000 := by
        have hbyte := byte.toNat_lt
        omega
      have hpass : iteration strict byte rest index output =
          .ok ⟨output.extend [toPoint byte.toNat], rest, index + 1⟩ := by
        simp only [iteration, if_pos ne, if_pos ascii, emit_eq output hlt]
        rfl
      exact ⟨_, decodeFrom_ok hpass⟩
  | escape =>
      have hlt : plus.toNat < 0x110000 := by decide
      have hpass : iteration strict plus (minus :: rest) index output =
          .ok ⟨output.extend [toPoint plus.toNat], rest, index + 1 + 1⟩ := by
        simp only [iteration, ne_eq, not_true, if_false, if_true, emit_eq output hlt]
        rfl
      exact ⟨_, decodeFrom_ok hpass⟩
  | run points nonempty =>
      have hvalues : ∀ v ∈ Base64.sextets (utf16Be points), v < 64 :=
        fun v hv => Base64.lt_of_mem_sextets hv
      obtain ⟨hsextets, hafter⟩ := sextets_symbolBytes hvalues rest
      obtain ⟨bits, hbits, hfeed⟩ := feed_units (points.flatMap fun p => utf16Units p.val)
        (fun u hu => points_units_lt hu) none
      have hpoints := pairUnits_points points none pendingHigh_none hpair
      have hended := pairUnits_pending pendingHigh_none
        (points.flatMap fun p => utf16Units p.val)
      have hbytes : (Piece.run points nonempty).bytes ++ rest =
          plus :: ((Base64.sextets (utf16Be points)).map symbolByte ++ minus :: rest) := by
        rw [run_bytes]
        simp
      -- a run is not empty, so the marker stands in front of a sextet
      obtain ⟨value, values, hcons⟩ := List.exists_cons_of_ne_nil (sextets_utf16Be_ne_nil nonempty)
      have hvalue : value < 64 := hvalues value (by simp [hcons])
      rw [hcons, List.map_cons, List.cons_append] at hbytes hsextets hafter
      have hsome : (sextet (symbolByte value)).isSome := by
        rw [sextet_symbolByte hvalue]
        rfl
      have hpass := @iteration_shift _ (values.map symbolByte ++ minus :: rest)
        (symbolByte_ne_minus hvalue) hsome strict index output
      have hfed : Shift.initial.feed (value :: values) = _ := hcons ▸ hfeed
      rw [hsextets, hafter, hfed, endShift_closed hended hbits, Output.extend_extend, hpoints]
        at hpass
      exact ⟨_, by rw [hbytes]; exact decodeFrom_ok hpass⟩

theorem decodeFrom_pieces (strict : Bool) (pieces : List Piece)
    (hpair : ∀ piece ∈ pieces, NoPair piece.points) (index : Nat) (output : Output) :
    decodeFrom strict (pieces.flatMap Piece.bytes) index output =
      .ok (output.extend (pieces.flatMap Piece.points)) := by
  induction pieces generalizing index output with
  | nil => exact decodeFrom_nil _ _ _
  | cons piece pieces ih =>
      obtain ⟨index', hpiece⟩ := decodeFrom_piece strict piece (hpair piece (List.mem_cons_self ..))
        (pieces.flatMap Piece.bytes) index output
      have hrest := ih (fun piece hmem => hpair piece (List.mem_cons_of_mem _ hmem)) index'
        (output.extend piece.points)
      rw [List.flatMap_cons, List.flatMap_cons, hpiece, hrest, Output.extend_extend]

/-- **Decoding inverts encoding.**  However a text is split into characters written directly,
escapes and shifted runs, in either mode its bytes are decoded to exactly its points. -/
theorem encode_roundTrip (points : List Codepoint) (hpair : NoPair points) (pieces : List Piece)
    (hpieces : pieces.flatMap Piece.points = points) (strict : Bool) :
    (decode (pieces.flatMap Piece.bytes) strict).map PythonText.codepoints =
      .ok (points.map Fin.val) := by
  have hpair' : ∀ piece ∈ pieces, NoPair piece.points := by
    intro piece hmem
    have hinfix : piece.points <:+: points := by
      rw [← hpieces, List.flatMap_def]
      exact List.infix_of_mem_flatten (List.mem_map_of_mem hmem)
    exact List.IsChain.infix hpair hinfix
  rw [decode, decodeRun, decodeFrom_pieces strict pieces hpair', hpieces]
  simp [Except.map, Output.extend]

/-- Two runs, the second of them ending in the middle of a sextet, and an escape. -/
theorem encode_roundTrip_runs :
    (decode ([.run [0xd800, 0xe9] (by decide), .escape, .run [0x1f600] (by decide),
      .direct 45 (by decide) (by decide)].flatMap Piece.bytes) true).map PythonText.codepoints =
      .ok [0xd800, 0xe9, 43, 0x1f600, 45] :=
  encode_roundTrip [0xd800, 0xe9, 43, 0x1f600, 45] (by unfold NoPair; decide) _ (by decide) true

end Marty.ResponseText.Utf7
