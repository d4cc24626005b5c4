import Mathlib.Logic.Function.Basic
import Mathlib.Tactic.TypeStar

/-!
# Rows that transactions lock

`SELECT … FOR UPDATE` waits until no other transaction holds a row, and holds the row until its
own transaction ends.

## Main definitions

* `Holders` — the transaction that holds each row.
* `Holders.available`, `Holders.take`, `Holders.release` — the row can be locked, it is locked,
  and a transaction ends.
-/

namespace Marty.Lib

/-- The transaction that holds each row. -/
abbrev Holders (κ ι : Type*) := κ → Option ι

namespace Holders

variable {κ ι : Type*} {holders : Holders κ ι} {i j : ι} {k l : κ}

/-- No other transaction holds the row. -/
def available (holders : Holders κ ι) (i : ι) (k : κ) : Prop := ∀ j ∈ holders k, j = i

instance [DecidableEq ι] : Decidable (holders.available i k) :=
  inferInstanceAs (Decidable (∀ j ∈ holders k, j = i))

def take [DecidableEq κ] (holders : Holders κ ι) (i : ι) (k : κ) : Holders κ ι :=
  Function.update holders k (some i)

/-- A transaction ends. -/
def release [DecidableEq ι] (holders : Holders κ ι) (i : ι) : Holders κ ι := fun k =>
  if holders k = some i then none else holders k

theorem take_self [DecidableEq κ] : holders.take i k k = some i := Function.update_self ..

/-- A row that is held stays held when an available one is locked. -/
theorem take_held [DecidableEq κ] (h : holders.available i k) (hl : holders l = some j) :
    holders.take i k l = some j := by
  by_cases heq : l = k
  · subst heq
    rw [take_self, h j hl]
  · rw [take, Function.update_of_ne heq, hl]

/-- What the others hold stays held when a transaction ends. -/
theorem release_held [DecidableEq ι] (hne : j ≠ i) (hl : holders l = some j) :
    holders.release i l = some j := by
  rw [release, hl, if_neg]
  exact fun heq => hne (Option.some.inj heq)

end Holders

end Marty.Lib
