import Marty.Oid4vp.Digest
import Marty.Lib.Text

/-!
# Bounds on texts, lists and values

The small checks that every contract is built from.

## Main definitions

* `requireText`, `requireIdentifier`, `requireToken`, `requireCode`, `validateDigest` — texts.
* `validateStringList` — a bounded list of identifiers in strictly increasing order.
* `jsonDepth`, `validateBoundedValue`, `validateSerializedSize` — values.
-/

namespace Marty.Oid4vp

open Lib Lib.Checked

def requireText (value field : String) (maxBytes : Nat) : Validated Unit :=
  rejectIf (value.isEmpty ∨ Text.trim value ≠ value ∨ maxBytes < value.utf8ByteSize)
    (.invalidField field)

def requireIdentifier (value field : String) : Validated Unit :=
  requireText value field maxIdentifierBytes

def requireToken (value field : String) : Validated Unit := do
  requireText value field maxTokenBytes
  rejectIf (value.utf8ByteSize < minTokenBytes) (.invalidField field)

/-- A byte that a code may hold. -/
def isCodeChar (c : Char) : Bool :=
  (65 ≤ c.toNat && c.toNat ≤ 90) || (48 ≤ c.toNat && c.toNat ≤ 57) || c == '_'

def requireCode (value field : String) : Validated Unit := do
  requireText value field maxCodeBytes
  rejectIf (¬ value.toList.all isCodeChar) (.invalidField field)

def isLowerHex (c : Char) : Bool :=
  (48 ≤ c.toNat && c.toNat ≤ 57) || (97 ≤ c.toNat && c.toNat ≤ 102)

/-- `sha256:` and sixty-four hexadecimal digits, each of them one byte. -/
def validateDigest (value field : String) : Validated Unit := do
  rejectIf (¬ Text.startsWith value "sha256:") (.invalidDigest field)
  let hex := value.toList.drop 7
  rejectIf (hex.length ≠ 64 ∨ ¬ hex.all isLowerHex) (.invalidDigest field)

def validateStringList (values : List String) (field : String) (allowEmpty : Bool) :
    Validated Unit :=
  rejectIf ((allowEmpty = false ∧ values.isEmpty) ∨ maxEvidenceListItems < values.length ∨
      ¬ (∀ value ∈ values, (requireIdentifier value field).isOk = true) ∨
      ¬ values.IsChain (· < ·))
    (.invalidField field)

mutual

def jsonDepth : Value → Nat → Nat
  | .array items, depth => itemsDepth items depth depth
  | .object entries, depth => entriesDepth entries depth depth
  | _, depth => depth

/-- The largest of `most` and the depths of the items below `depth`. -/
def itemsDepth : List Value → Nat → Nat → Nat
  | [], _, most => most
  | item :: items, depth, most => itemsDepth items depth (max most (jsonDepth item (depth + 1)))

def entriesDepth : List (String × Value) → Nat → Nat → Nat
  | [], _, most => most
  | (_, value) :: entries, depth, most =>
      entriesDepth entries depth (max most (jsonDepth value (depth + 1)))

end

def validateSerializedSize (value : Value) (maxBytes : Nat) (field : String) : Validated Unit :=
  rejectIf (maxBytes < Json.byteLength value.write) (.sizeLimit field)

def validateBoundedValue (value : Value) (field : String) (maxBytes : Nat) : Validated Unit :=
  rejectIf (maxBytes < Json.byteLength value.write ∨ maxJsonDepth < jsonDepth value 1)
    (.invalidField field)

/-- `i64::checked_sub`. -/
def checkedSub (a b : Int) : Option Int :=
  if -(2 ^ 63 : Int) ≤ a - b ∧ a - b < 2 ^ 63 then some (a - b) else none

/-- `u16::try_from` of a length. -/
def toU16 (n : Nat) : Option Nat := if n < 2 ^ 16 then some n else none

/-! ## What a success says -/

theorem toU16_eq_some {n m : Nat} : toU16 n = some m ↔ n < 2 ^ 16 ∧ n = m := by
  simp [toU16]

theorem validateStringList_eq_ok {values : List String} {field : String} {allowEmpty : Bool}
    {u : Unit} :
    validateStringList values field allowEmpty = .ok u ↔
      (allowEmpty = false → values ≠ []) ∧ values.length ≤ maxEvidenceListItems ∧
        (∀ value ∈ values, (requireIdentifier value field).isOk = true) ∧
        values.Pairwise (· < ·) := by
  rw [validateStringList, rejectIf_eq_ok, List.isChain_iff_pairwise]
  simp only [not_or, not_and, not_not, not_lt, List.isEmpty_iff]

end Marty.Oid4vp
