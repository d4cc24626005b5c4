import Mathlib.Data.List.Range
import Mathlib.Data.List.Chain

/-!
# Successive versions

The versions that one cell has held, in their order.  Each is checked against the one
before it when it is stored; when what is checked is transitive, any later version stands
in the same relation to any earlier one.

## Main definitions

* `Succession` — the versions are numbered without a gap, and each extends all before it.
* `Succession.append` — one more version, checked against the last one only.
-/

namespace Marty.Lib

/-- Versions that are numbered from zero on, each of which extends all before it. -/
structure Succession {α : Type*} (number : α → Nat) (Extends : α → α → Prop) (l : List α) :
    Prop where
  numbers : l.map number = List.range l.length
  extended : l.Pairwise Extends

namespace Succession

variable {α : Type*} {number : α → Nat} {Extends : α → α → Prop} {l : List α} {a : α}

theorem nil : Succession number Extends [] := ⟨rfl, List.Pairwise.nil⟩

/-- The last of the versions has the highest number. -/
theorem number_last (h : Succession number Extends l) (hlast : l.getLast? = some a) :
    number a + 1 = l.length := by
  obtain ⟨init, rfl⟩ := List.getLast?_eq_some_iff.mp hlast
  have hnumbers := h.numbers
  rw [List.map_append, List.length_append, List.length_singleton, List.range_succ] at hnumbers
  have hpair := List.append_inj' hnumbers rfl
  rw [List.length_append, List.length_singleton]
  exact congrArg (· + 1) (List.cons.inj hpair.2).1

/-- Every version is the last one, or the last one extends it. -/
theorem eq_or_extends_last {b : α} (h : Succession number Extends l)
    (hlast : l.getLast? = some a) (hb : b ∈ l) : b = a ∨ Extends b a := by
  obtain ⟨init, rfl⟩ := List.getLast?_eq_some_iff.mp hlast
  rcases List.mem_append.mp hb with hb | hb
  · right
    exact (List.pairwise_append.mp h.extended).2.2 b hb a List.mem_cons_self
  · left
    exact List.mem_singleton.mp hb

/-- **A checked version continues the succession**: it is the first one, or it extends the
last one and has the next number. -/
theorem append (h : Succession number Extends l)
    (htrans : ∀ a b c, Extends a b → Extends b c → Extends a c)
    (hfirst : l.getLast? = none → number a = 0)
    (hnext : ∀ last, l.getLast? = some last → number a = number last + 1 ∧ Extends last a) :
    Succession number Extends (l ++ [a]) := by
  constructor
  · rw [List.map_append, h.numbers, List.length_append, List.length_singleton, List.range_succ,
      List.map_singleton]
    congr 2
    cases hlast : l.getLast? with
    | none =>
        rw [List.getLast?_eq_none_iff] at hlast
        subst hlast
        exact hfirst rfl
    | some last => rw [(hnext last hlast).1, h.number_last hlast]
  · rw [List.pairwise_append]
    refine ⟨h.extended, List.pairwise_singleton _ _, ?_⟩
    intro b hb c hc
    rw [List.mem_singleton] at hc
    subst hc
    cases hlast : l.getLast? with
    | none =>
        rw [List.getLast?_eq_none_iff] at hlast
        subst hlast
        cases hb
    | some last =>
        have hextends := (hnext last hlast).2
        rcases h.eq_or_extends_last hlast hb with rfl | hbefore
        · exact hextends
        · exact htrans _ _ _ hbefore hextends

end Succession

end Marty.Lib
