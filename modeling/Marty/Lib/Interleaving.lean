import Mathlib.Logic.Function.Basic
import Mathlib.Tactic.TypeStar
import Mathlib.Order.Defs.Unbundled
import Mathlib.Algebra.GroupWithZero.Nat

/-!
# Calls that interleave over one shared store

A `Machine` gives the atomic steps of one call: from the store and the call's own
state, an event either is disabled or yields the next store and the next state of
that call.  A `Config` is the store with the state of every call, and `run` plays
a schedule of steps, in any order and for any number of calls.

The rules below are the ones a safety proof needs.  An invariant is proved for one
step and holds along every run (`run_induct`); a preorder that every step respects
relates the ends of every run (`run_rel`); and when only the steps that meet a
condition preserve the invariant, it holds along the runs all of whose steps meet
it (`guarded_induct`).

## Main definitions

* `Machine`, `Config` — the steps of a call, and a state of the whole system.
* `Machine.next`, `Machine.run` — one scheduled step, and a schedule of them.
* `Machine.Guarded` — every step of a run meets a condition on its first state.
* `Machine.observed` — the end of a schedule that is played on an example.
-/

namespace Marty.Lib

/-- A few callers are enough for a schedule that shows something. -/
instance neZeroTwo : NeZero 2 := ⟨by decide⟩

instance neZeroThree : NeZero 3 := ⟨by decide⟩

instance neZeroFour : NeZero 4 := ⟨by decide⟩

/-- The atomic steps of the calls named by `ι`: `step i e s l` is the effect of
event `e` on store `s` by call `i` whose own state is `l`, when it is enabled. -/
structure Machine (σ ι ε κ : Type*) where
  step : ι → ε → σ → κ → Option (σ × κ)

/-- A shared store together with the state of every call. -/
@[ext] structure Config (σ ι κ : Type*) where
  store : σ
  calls : ι → κ

namespace Machine

variable {σ ι ε κ : Type*} [DecidableEq ι]

/-- Call `i` takes the step named by `e`. -/
def next (M : Machine σ ι ε κ) (c : Config σ ι κ) (i : ι) (e : ε) : Option (Config σ ι κ) :=
  (M.step i e c.store (c.calls i)).map fun r => ⟨r.1, Function.update c.calls i r.2⟩

/-- Play a schedule of steps. -/
def run (M : Machine σ ι ε κ) (c : Config σ ι κ) : List (ι × ε) → Option (Config σ ι κ)
  | [] => some c
  | (i, e) :: t => (M.next c i e).bind fun c' => M.run c' t

/-- Every step of the schedule meets `G` in the state it is taken from. -/
def Guarded (M : Machine σ ι ε κ) (G : Config σ ι κ → ι → ε → Prop) (c : Config σ ι κ) :
    List (ι × ε) → Prop
  | [] => True
  | (i, e) :: t => G c i e ∧ ∀ c', M.next c i e = some c' → M.Guarded G c' t

instance decidableGuarded (M : Machine σ ι ε κ) (G : Config σ ι κ → ι → ε → Prop)
    [∀ c i e, Decidable (G c i e)] (c : Config σ ι κ) :
    (t : List (ι × ε)) → Decidable (M.Guarded G c t)
  | [] => .isTrue trivial
  | (i, e) :: t =>
      have : Decidable (∀ c', M.next c i e = some c' → M.Guarded G c' t) :=
        match M.next c i e with
        | none => .isTrue nofun
        | some c' =>
            have := decidableGuarded M G c' t
            decidable_of_iff (M.Guarded G c' t)
              ⟨fun hg _ h' => Option.some.inj h' ▸ hg, fun hg => hg c' rfl⟩
      inferInstanceAs (Decidable (G c i e ∧ ∀ c', M.next c i e = some c' → M.Guarded G c' t))

variable {M : Machine σ ι ε κ} {c c' : Config σ ι κ} {i : ι} {e : ε}

/-- A taken step changes the store and the state of the one call that took it. -/
theorem next_eq_some : M.next c i e = some c' ↔
    ∃ s l, M.step i e c.store (c.calls i) = some (s, l) ∧
      c' = ⟨s, Function.update c.calls i l⟩ := by
  simp only [next, Option.map_eq_some_iff, Prod.exists, eq_comm (a := c')]

theorem next_calls_of_ne {j : ι} (h : M.next c i e = some c') (hj : j ≠ i) :
    c'.calls j = c.calls j := by
  obtain ⟨s, l, -, rfl⟩ := next_eq_some.mp h
  simp [hj]

@[simp] theorem run_nil : M.run c [] = some c := rfl

@[simp] theorem run_cons {t : List (ι × ε)} :
    M.run c ((i, e) :: t) = (M.next c i e).bind fun c' => M.run c' t := rfl

/-- The configuration that a schedule leads to, with what is seen of it there. -/
def observed (M : Machine σ ι ε κ) {c : Config σ ι κ} {t : List (ι × ε)}
    {p : Config σ ι κ → Prop} [DecidablePred p]
    (h : (M.run c t).any (fun c' => decide (p c')) = true) :
    {c' : Config σ ι κ // M.run c t = some c' ∧ p c'} :=
  ⟨(M.run c t).get (Option.isSome_of_any h), (Option.some_get _).symm,
    of_decide_eq_true (Option.get_of_any_eq_true _ _ h)⟩

theorem run_append (t u : List (ι × ε)) :
    M.run c (t ++ u) = (M.run c t).bind fun c' => M.run c' u := by
  induction t generalizing c with
  | nil => rfl
  | cons a t ih =>
      obtain ⟨i, e⟩ := a
      cases h : M.next c i e with
      | none => simp [h]
      | some c₁ => simp [h, ih]

/-- A call that takes no step of a run keeps its state. -/
theorem run_calls_of_ne {j : ι} {t : List (ι × ε)} (h : M.run c t = some c')
    (hj : ∀ a ∈ t, j ≠ a.1) : c'.calls j = c.calls j := by
  induction t generalizing c with
  | nil =>
      cases h
      rfl
  | cons a t ih =>
      obtain ⟨i, e⟩ := a
      obtain ⟨c₁, h1, h2⟩ := Option.bind_eq_some_iff.mp h
      rw [ih h2 fun b hb => hj b (List.mem_cons_of_mem _ hb),
        next_calls_of_ne h1 (hj _ List.mem_cons_self)]

/-- **Invariant rule**: what every step preserves holds along every run. -/
theorem run_induct {P : Config σ ι κ → Prop}
    (hstep : ∀ c i e c', P c → M.next c i e = some c' → P c')
    {t : List (ι × ε)} (h0 : P c) (h : M.run c t = some c') : P c' := by
  induction t generalizing c with
  | nil => exact Option.some.inj h ▸ h0
  | cons a t ih =>
      obtain ⟨i, e⟩ := a
      obtain ⟨c₁, h1, h2⟩ := Option.bind_eq_some_iff.mp h
      exact ih (hstep c i e c₁ h0 h1) h2

/-- **Two-state rule**: a preorder that every step respects, from states of an
invariant, relates the two ends of every run. -/
theorem run_rel {P : Config σ ι κ → Prop} {R : Config σ ι κ → Config σ ι κ → Prop}
    (hrefl : ∀ c, R c c) (htrans : ∀ a b c, R a b → R b c → R a c)
    (hP : ∀ c i e c', P c → M.next c i e = some c' → P c')
    (hstep : ∀ c i e c', P c → M.next c i e = some c' → R c c')
    {t : List (ι × ε)} (h0 : P c) (h : M.run c t = some c') : R c c' := by
  induction t generalizing c with
  | nil => exact Option.some.inj h ▸ hrefl c
  | cons a t ih =>
      obtain ⟨i, e⟩ := a
      obtain ⟨c₁, h1, h2⟩ := Option.bind_eq_some_iff.mp h
      exact htrans _ _ _ (hstep c i e c₁ h0 h1) (ih (hP c i e c₁ h0 h1) h2)

/-- **Invariant and relation**, when a step lemma gives both. -/
theorem run_induct_rel {P : Config σ ι κ → Prop} {R : Config σ ι κ → Config σ ι κ → Prop}
    (hrefl : ∀ c, R c c) (htrans : ∀ a b c, R a b → R b c → R a c)
    (hstep : ∀ c i e c', P c → M.next c i e = some c' → P c' ∧ R c c')
    {t : List (ι × ε)} (h0 : P c) (h : M.run c t = some c') : P c' ∧ R c c' :=
  ⟨run_induct (fun c i e c' hP hnext => (hstep c i e c' hP hnext).1) h0 h,
    run_rel hrefl htrans (fun c i e c' hP hnext => (hstep c i e c' hP hnext).1)
      (fun c i e c' hP hnext => (hstep c i e c' hP hnext).2) h0 h⟩

/-- A condition on the steps alone is met when every step of the schedule meets it. -/
theorem guarded_of_forall {G : ι → ε → Prop} {t : List (ι × ε)} (h : ∀ a ∈ t, G a.1 a.2) :
    M.Guarded (fun _ i e => G i e) c t := by
  induction t generalizing c with
  | nil => trivial
  | cons a t ih =>
      exact ⟨h a List.mem_cons_self, fun _ _ => ih fun b hb => h b (List.mem_cons_of_mem _ hb)⟩

/-- **Guarded rule**: an invariant that only the steps meeting `G` preserve holds
along the runs all of whose steps meet `G`. -/
theorem guarded_induct {P : Config σ ι κ → Prop} {G : Config σ ι κ → ι → ε → Prop}
    (hstep : ∀ c i e c', P c → G c i e → M.next c i e = some c' → P c')
    {t : List (ι × ε)} (h0 : P c) (hg : M.Guarded G c t) (h : M.run c t = some c') :
    P c' := by
  induction t generalizing c with
  | nil => exact Option.some.inj h ▸ h0
  | cons a t ih =>
      obtain ⟨i, e⟩ := a
      obtain ⟨c₁, h1, h2⟩ := Option.bind_eq_some_iff.mp h
      exact ih (hstep c i e c₁ h0 hg.1 h1) (hg.2 c₁ h1) h2

/-- **Guarded invariant and relation**, when the step lemma of the steps that meet `G` gives
both. -/
theorem guarded_induct_rel {P : Config σ ι κ → Prop} {G : Config σ ι κ → ι → ε → Prop}
    {R : Config σ ι κ → Config σ ι κ → Prop}
    (hrefl : ∀ c, R c c) (htrans : ∀ a b c, R a b → R b c → R a c)
    (hstep : ∀ c i e c', P c → G c i e → M.next c i e = some c' → P c' ∧ R c c')
    {t : List (ι × ε)} (h0 : P c) (hg : M.Guarded G c t) (h : M.run c t = some c') :
    P c' ∧ R c c' := by
  induction t generalizing c with
  | nil => exact Option.some.inj h ▸ ⟨h0, hrefl c⟩
  | cons a t ih =>
      obtain ⟨i, e⟩ := a
      obtain ⟨c₁, h1, h2⟩ := Option.bind_eq_some_iff.mp h
      obtain ⟨hP, hR⟩ := hstep c i e c₁ h0 hg.1 h1
      obtain ⟨hP', hR'⟩ := ih hP (hg.2 c₁ h1) h2
      exact ⟨hP', htrans _ _ _ hR hR'⟩

end Machine

end Marty.Lib
