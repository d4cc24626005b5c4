import Mathlib.Tactic.TypeStar
import Mathlib.Logic.Basic

/-!
# Programs of atomic steps

A program that works on one state in atomic steps, and that may refuse.  It can be interrupted
before any of its steps, so that what holds after every single step holds wherever it stops.

## Main definitions

* `Program` — atomic steps, each of which goes on from the state that it has found.
* `Program.Safe` — every step respects a relation, and a result meets its postcondition.

## Main results

* `Program.Safe.bind`, `Program.Safe.mono` — programs in sequence, and a weaker postcondition.
-/

namespace Marty.Lib

/-- A program over a state: `step change next` changes the state and goes on from what the state
was before. -/
inductive Program (σ α : Type)
  | done (a : α)
  | refused
  | step (change : σ → σ) (next : σ → Program σ α)

namespace Program

variable {σ α β : Type}

def bind (p : Program σ α) (f : α → Program σ β) : Program σ β :=
  match p with
  | done a => f a
  | refused => refused
  | step change next => step change fun s => (next s).bind f

instance : Monad (Program σ) where
  pure := done
  bind := bind

/-- The state as it is. -/
def observe : Program σ σ := step id done

/-- A step that only changes the state. -/
def modify (change : σ → σ) : Program σ Unit := step change fun _ => done ()

/-- Go on, or refuse. -/
def require (p : Prop) [Decidable p] : Program σ Unit := if p then done () else refused

def whenever (p : Prop) [Decidable p] (x : Program σ Unit) : Program σ Unit :=
  if p then x else done ()

/-- **Safety**: every step from here respects `R`, and a result meets `Q`. -/
def Safe (R : σ → σ → Prop) (Q : α → σ → Prop) : Program σ α → σ → Prop
  | done a, s => Q a s
  | refused, _ => True
  | step change next, s => R s (change s) ∧ (next s).Safe R Q (change s)

variable {R : σ → σ → Prop} {Q T : α → σ → Prop} {s : σ}

theorem Safe.mono {p : Program σ α} (h : p.Safe R Q s) (hQ : ∀ a s, Q a s → T a s) :
    p.Safe R T s := by
  induction p generalizing s with
  | done a => exact hQ a s h
  | refused => trivial
  | step change next ih => exact ⟨h.1, ih s h.2⟩

/-- **Programs in sequence.** -/
theorem Safe.bind {p : Program σ α} {f : α → Program σ β} {S : β → σ → Prop} (h : p.Safe R Q s)
    (hf : ∀ a s, Q a s → (f a).Safe R S s) : (p >>= f).Safe R S s := by
  induction p generalizing s with
  | done a => exact hf a s h
  | refused => trivial
  | step change next ih => exact ⟨h.1, ih s h.2⟩

theorem safe_pure {a : α} (h : Q a s) : (pure a : Program σ α).Safe R Q s := h

theorem safe_require {p : Prop} [Decidable p] {Q : Unit → σ → Prop} (h : p → Q () s) :
    (require p : Program σ Unit).Safe R Q s := by
  unfold require
  split
  case isTrue hp => exact h hp
  case isFalse => trivial

theorem safe_whenever {p : Prop} [Decidable p] {x : Program σ Unit} {Q : Unit → σ → Prop}
    (h : p → x.Safe R Q s) (h' : ¬p → Q () s) : (whenever p x).Safe R Q s := by
  unfold whenever
  split
  case isTrue hp => exact h hp
  case isFalse hp => exact h' hp

/-- A check before the rest. -/
theorem safe_require_then {p : Prop} [Decidable p] {f : Unit → Program σ α}
    (h : p → (f ()).Safe R Q s) : ((require p : Program σ Unit) >>= f).Safe R Q s := by
  unfold require
  split
  case isTrue hp => exact h hp
  case isFalse => trivial

/-- A look at the state before the rest. -/
theorem safe_observe_then {f : σ → Program σ α} (hR : R s s) (h : (f s).Safe R Q s) :
    ((observe : Program σ σ) >>= f).Safe R Q s := ⟨hR, h⟩

theorem safe_modify {change : σ → σ} {Q : Unit → σ → Prop} (hR : R s (change s))
    (h : Q () (change s)) : (modify change).Safe R Q s := ⟨hR, h⟩

/-- A change before the rest. -/
theorem safe_modify_then {change : σ → σ} {f : Unit → Program σ α} (hR : R s (change s))
    (h : (f ()).Safe R Q (change s)) : (modify change >>= f).Safe R Q s := ⟨hR, h⟩

end Program

end Marty.Lib
