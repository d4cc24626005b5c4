import Mathlib.Logic.Basic

/-!
# Moments in time

Timestamps with the resolution of a PostgreSQL `timestamptz`.

## Main definitions

* `DateTime` — a moment in UTC; `seconds n` is a span of time.
-/

namespace Marty.Lib

/-- A moment in UTC, in microseconds since the Unix epoch. -/
abbrev DateTime := Int

/-- A span of whole seconds. -/
def seconds (n : Int) : Int := n * 1000000

end Marty.Lib
