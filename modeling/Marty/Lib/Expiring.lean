import Mathlib.Logic.Function.Basic
import Mathlib.Data.Option.Basic
import Mathlib.Tactic.TypeStar

/-!
# Keys that expire

A store of keys whose values may carry a deadline, in milliseconds.  A key is read up to its
deadline and is absent after it.

## Main definitions

* `Entry`, `Keyspace` — a value with its deadline, and the keys that hold one.
* `Keyspace.get`, `Keyspace.set` — what is read at a moment, and a write with its deadline.
* `Keyspace.pttl` — the time that a key has left.
-/

namespace Marty.Lib

structure Entry (α : Type*) where
  value : α
  deadline : Option Int

abbrev Keyspace (κ α : Type*) := κ → Option (Entry α)

/-- The value can still be read at this moment. -/
def Entry.isAlive {α : Type*} (e : Entry α) (now : Int) : Bool := e.deadline.all (now ≤ ·)

namespace Keyspace

variable {κ α : Type*}

def entry (ks : Keyspace κ α) (now : Int) (k : κ) : Option (Entry α) := (ks k).filter (·.isAlive now)

def get (ks : Keyspace κ α) (now : Int) (k : κ) : Option α := (ks.entry now k).map (·.value)

/-- The milliseconds that are left to a value; negative when it has no deadline. -/
def pttl (e : Entry α) (now : Int) : Int :=
  match e.deadline with
  | some d => d - now
  | none => -1

def set [DecidableEq κ] (ks : Keyspace κ α) (k : κ) (value : α) (deadline : Option Int) :
    Keyspace κ α :=
  Function.update ks k (some ⟨value, deadline⟩)

variable {ks : Keyspace κ α} {now later : Int} {k : κ} {v : α}

theorem entry_eq_some {e : Entry α} : ks.entry now k = some e ↔ ks k = some e ∧ e.isAlive now = true := by
  rw [entry, Option.filter_eq_some_iff]

theorem get_eq_some : ks.get now k = some v ↔
    ∃ e, ks k = some e ∧ e.isAlive now = true ∧ e.value = v := by
  simp only [get, Option.map_eq_some_iff, entry_eq_some, and_assoc]

/-- What is read later could be read before. -/
theorem Entry.isAlive_mono {e : Entry α} (h : e.isAlive later = true) (hle : now ≤ later) :
    e.isAlive now = true := by
  unfold Entry.isAlive at h ⊢
  cases hd : e.deadline with
  | none => rfl
  | some d =>
      rw [hd, Option.all_some, decide_eq_true_eq] at h
      rw [Option.all_some, decide_eq_true_eq]
      exact Int.le_trans hle h

variable [DecidableEq κ]

@[simp] theorem set_self (value : α) (deadline : Option Int) :
    ks.set k value deadline k = some ⟨value, deadline⟩ := by
  simp [set]

@[simp] theorem set_of_ne {k' : κ} (h : k' ≠ k) (value : α) (deadline : Option Int) :
    ks.set k value deadline k' = ks k' := by
  simp [set, h]

end Keyspace

end Marty.Lib
