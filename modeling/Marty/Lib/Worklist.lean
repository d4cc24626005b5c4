import Mathlib.Algebra.BigOperators.Group.List.Basic
import Mathlib.Algebra.GroupWithZero.Nat
import Mathlib.Logic.Relation

/-!
# Search with a stack

A search that keeps the items it has still to look at on a stack: it takes the top one, stops
when that is a hit, and otherwise puts the children of the item on the stack.  When an item is
larger than its children together, the search ends, and it finds a hit exactly when one can be
reached.

## Main definitions

* `Worklist.search` — the search.
* `Worklist.searchIn` — the search, cut off after some rounds.
* `Worklist.search_eq_true` — what it finds; `Worklist.search_of_simulation` compares two
  searches.
-/

namespace Marty.Lib.Worklist

variable {α β : Type*}

/-- A size of items that is larger than those of the children together. -/
def Measures (children : α → List α) (size : α → Nat) : Prop :=
  ∀ a, ((children a).map size).sum < size a

/-- Items with children, on which every descent ends. -/
structure Tree (α : Type*) where
  children : α → List α
  measured : ∃ size, Measures children size

namespace Tree

variable (t : Tree α) (hit : α → Bool)

/-- The stack after an item is taken from it: its last child is on top. -/
def next (a : α) (pending : List α) : List α := (t.children a).reverse ++ pending

theorem size_next {size : α → Nat} (hsize : Measures t.children size) (a : α) (pending : List α) :
    ((t.next a pending).map size).sum < ((a :: pending).map size).sum := by
  have h := hsize a
  rw [next, List.map_append, List.map_reverse, List.sum_append, List.sum_reverse, List.map_cons,
    List.sum_cons]
  omega

def search : List α → Bool
  | [] => false
  | a :: pending => if hit a then true else search (t.next a pending)
  termination_by pending => (pending.map t.measured.choose).sum
  decreasing_by exact t.size_next t.measured.choose_spec a pending

/-- The search, cut off after a number of rounds. -/
def searchIn : Nat → List α → Option Bool
  | _, [] => some false
  | 0, _ :: _ => none
  | n + 1, a :: pending => if hit a then some true else searchIn n (t.next a pending)

/-- An item that is met on the way down from another. -/
def Below : α → α → Prop := Relation.ReflTransGen fun a b => b ∈ t.children a

variable {t hit}

/-- **The search ends** within as many rounds as the items on its stack are large. -/
theorem searchIn_eq {size : α → Nat} (hsize : Measures t.children size) {n : Nat}
    {pending : List α} (h : (pending.map size).sum ≤ n) :
    t.searchIn hit n pending = some (t.search hit pending) := by
  induction n generalizing pending with
  | zero =>
      cases pending with
      | nil => rw [searchIn, search]
      | cons a pending =>
          have hsmaller := hsize a
          rw [List.map_cons, List.sum_cons] at h
          omega
  | succ n ih =>
      cases pending with
      | nil => rw [searchIn, search]
      | cons a pending =>
          have hnext := t.size_next hsize a pending
          rw [searchIn, search]
          by_cases ha : hit a = true
          · rw [if_pos ha, if_pos ha]
          · rw [if_neg ha, if_neg ha]
            exact ih (by omega)

/-- **The search finds a hit** exactly when one is below an item on its stack. -/
theorem search_eq_true {pending : List α} :
    t.search hit pending = true ↔ ∃ a ∈ pending, ∃ b, t.Below a b ∧ hit b = true := by
  induction pending using search.induct t hit with
  | case1 => simp [search]
  | case2 a pending ha =>
      rw [search, if_pos ha]
      exact ⟨fun _ => ⟨a, List.mem_cons_self, a, .refl, ha⟩, fun _ => rfl⟩
  | case3 a pending ha ih =>
      rw [search, if_neg ha, ih]
      simp only [next, List.mem_append, List.mem_reverse, List.mem_cons]
      constructor
      · rintro ⟨c, hc | hc, b, hb, hhit⟩
        · exact ⟨a, .inl rfl, b, .head hc hb, hhit⟩
        · exact ⟨c, .inr hc, b, hb, hhit⟩
      · rintro ⟨c, rfl | hc, b, hb, hhit⟩
        · obtain rfl | ⟨d, hd, hdb⟩ := Relation.ReflTransGen.cases_head hb
          · exact absurd hhit ha
          · exact ⟨d, .inl hd, b, hdb, hhit⟩
        · exact ⟨c, .inr hc, b, hb, hhit⟩

/-- The search of one item looks at the item, and then at its children. -/
theorem search_singleton {a : α} : t.search hit [a] = true ↔
    hit a = true ∨ ∃ c ∈ t.children a, t.search hit [c] = true := by
  simp only [search_eq_true, List.mem_singleton, exists_eq_left]
  constructor
  · rintro ⟨b, hb, hhit⟩
    obtain rfl | ⟨d, hd, hdb⟩ := Relation.ReflTransGen.cases_head hb
    · exact .inl hhit
    · exact .inr ⟨d, hd, b, hdb, hhit⟩
  · rintro (hhit | ⟨c, hc, b, hb, hhit⟩)
    · exact ⟨a, .refl, hhit⟩
    · exact ⟨b, .head hc hb, hhit⟩

section

variable {u : Tree β} {hit' : β → Bool} {R : α → β → Prop}

/-- **A search finds what a search that it simulates finds.** -/
theorem search_of_simulation (hchild : ∀ a b, R a b → ∀ d ∈ u.children b, ∃ c ∈ t.children a, R c d)
    (hhit : ∀ a b, R a b → hit' b = true → hit a = true) {a : α} {b : β} (h : R a b)
    (hfound : u.search hit' [b] = true) : t.search hit [a] = true := by
  simp only [search_eq_true, List.mem_singleton, exists_eq_left] at hfound ⊢
  obtain ⟨e, he, hehit⟩ := hfound
  induction he using Relation.ReflTransGen.head_induction_on generalizing a with
  | refl => exact ⟨a, .refl, hhit a e h hehit⟩
  | head hd _ ih =>
      obtain ⟨c, hc, hcd⟩ := hchild a _ h _ hd
      obtain ⟨f, hf, hfhit⟩ := ih hcd
      exact ⟨f, .head hc hf, hfhit⟩

/-- A search of images finds what the search of the items finds. -/
theorem search_map (f : β → α) (hchildren : ∀ b, t.children (f b) = (u.children b).map f)
    (hhit : ∀ b, hit (f b) = hit' b) (b : β) : t.search hit [f b] = u.search hit' [b] := by
  rw [Bool.eq_iff_iff]
  constructor
  · refine search_of_simulation (R := fun b a => a = f b) ?_ ?_ rfl
    · rintro b _ rfl c hc
      rw [hchildren, List.mem_map] at hc
      obtain ⟨d, hd, rfl⟩ := hc
      exact ⟨d, hd, rfl⟩
    · rintro b _ rfl h
      rwa [← hhit b]
  · refine search_of_simulation (R := fun a b => a = f b) ?_ ?_ rfl
    · rintro _ b rfl d hd
      refine ⟨f d, ?_, rfl⟩
      rw [hchildren]
      exact List.mem_map_of_mem hd
    · rintro _ b rfl h
      rwa [hhit b]

end

end Tree

end Marty.Lib.Worklist
