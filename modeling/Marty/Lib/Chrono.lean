import Marty.Lib.Time
import Mathlib.Algebra.Group.Int.Defs
import Mathlib.Algebra.GroupWithZero.Nat

/-!
# The system clock

Moments as a program holds them before they are stored: in nanoseconds, within the range
of years that the time library represents.

## Main definitions

* `Utc` — a moment; `Utc.timestampMillis`, `Utc.checkedAddSeconds` — its arithmetic.
* `Utc.stored`, `Utc.ofStored` — the moment as a database column keeps it, and read back.
-/

namespace Marty.Lib

/-- A moment in UTC, in nanoseconds since the Unix epoch. -/
abbrev Utc := Int

namespace Utc

def maxUtc : Utc := 8210266876799999999999

def minUtc : Utc := -8334601228800000000000

def timestampMillis (t : Utc) : Int := t / 1000000

def checkedAddSeconds (t : Utc) (n : Nat) : Option Utc :=
  let sum := t + n * 1000000000
  if sum ≤ maxUtc then some sum else none

def fromTimestampMillis (ms : Int) : Option Utc :=
  let t := ms * 1000000
  if minUtc ≤ t ∧ t ≤ maxUtc then some t else none

/-- A `timestamptz` has no more than microseconds. -/
def stored (t : Utc) : DateTime := t / 1000

/-- The moment that a column holds. -/
def ofStored (t : DateTime) : Utc := t * 1000

end Utc

/-- An unsigned sixty-four bit number. -/
def toU64 (n : Int) : Option Nat := if 0 ≤ n ∧ n < 2 ^ 64 then some n.toNat else none

/-- A signed sixty-four bit number. -/
def toI64 (n : Int) : Option Int := if -(2 ^ 63) ≤ n ∧ n < 2 ^ 63 then some n else none

end Marty.Lib
