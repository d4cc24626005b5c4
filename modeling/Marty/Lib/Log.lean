import Mathlib.Data.List.Infix
import Mathlib.Data.List.Nodup

/-!
# Logs whose entries are justified by what came before them

A log grows at its end.  When every entry meets a condition on the entries before it at the
moment it is written, it meets the condition for good, and of two entries the later one was
written in the presence of the earlier.

## Main definitions

* `Justified` — every entry meets a condition on the entries before it.
-/

namespace Marty.Lib

variable {α : Type*} {P : List α → α → Prop} {log : List α}

/-- Every entry of the log meets `P` with the entries before it. -/
def Justified (P : List α → α → Prop) (log : List α) : Prop :=
  ∀ l₁ a l₂, log = l₁ ++ a :: l₂ → P l₁ a

namespace Justified

theorem nil : Justified P [] := by
  intro l₁ a l₂ h
  simp at h

/-- **One more entry** is checked against the log as it is. -/
theorem append (h : Justified P log) {a : α} (ha : P log a) : Justified P (log ++ [a]) := by
  intro l₁ b l₂ heq
  rcases List.eq_nil_or_concat l₂ with rfl | ⟨l, c, rfl⟩
  · obtain ⟨rfl, hb⟩ := List.append_inj' heq rfl
    cases hb
    exact ha
  · rw [List.concat_eq_append, ← List.cons_append, ← List.append_assoc] at heq
    obtain ⟨hlog, -⟩ := List.append_inj' heq rfl
    exact h l₁ b l hlog

/-- **Several entries** are checked each against the log with those before it. -/
theorem appendList (h : Justified P log) {new : List α}
    (hnew : ∀ l₁ a l₂, new = l₁ ++ a :: l₂ → P (log ++ l₁) a) : Justified P (log ++ new) := by
  induction new generalizing log with
  | nil => simpa using h
  | cons a new ih =>
      have hfirst : Justified P (log ++ [a]) := h.append (by simpa using hnew [] a new rfl)
      have hrest := ih hfirst fun l₁ b l₂ heq => by
        simpa using hnew (a :: l₁) b l₂ (by rw [heq, List.cons_append])
      simpa using hrest

/-- **Of two entries the later one** was written when the earlier was there. -/
theorem total (h : Justified P log) {a b : α} (ha : a ∈ log) (hb : b ∈ log) (hne : a ≠ b) :
    ∃ l, (∀ x ∈ l, x ∈ log) ∧ (a ∈ l ∧ P l b ∨ b ∈ l ∧ P l a) := by
  obtain ⟨l₁, l₂, rfl⟩ := List.append_of_mem ha
  rcases List.mem_append.mp hb with hb | hb
  · exact ⟨l₁, fun x hx => List.mem_append_left _ hx, .inr ⟨hb, h l₁ a l₂ rfl⟩⟩
  · obtain rfl | hb := List.mem_cons.mp hb
    · exact absurd rfl hne
    · obtain ⟨m₁, m₂, rfl⟩ := List.append_of_mem hb
      refine ⟨l₁ ++ a :: m₁, fun x hx => ?_, .inl ⟨by simp, h _ b m₂ (by simp)⟩⟩
      simp only [List.mem_append, List.mem_cons] at hx ⊢
      tauto

/-- **What only points back** does not go round: a relation that leads from the key of an entry to
keys of the entries before it is well founded. -/
theorem wellFounded {κ : Type*} [DecidableEq κ] {key : α → κ} (h : Justified P log)
    (hnodup : (log.map key).Nodup) {R : κ → κ → Prop}
    (hR : ∀ x y, R x y → ∃ a ∈ log, key a = y ∧ ∀ l, P l a → ∃ b ∈ l, key b = x) :
    WellFounded R := by
  have hlt : ∀ x y, R x y → (log.map key).idxOf x < (log.map key).idxOf y := by
    intro x y hxy
    obtain ⟨a, ha, rfl, hback⟩ := hR x y hxy
    obtain ⟨l₁, l₂, rfl⟩ := List.append_of_mem ha
    obtain ⟨b, hb, rfl⟩ := hback l₁ (h l₁ a l₂ rfl)
    have hmem : key b ∈ l₁.map key := List.mem_map_of_mem hb
    have hnot : key a ∉ l₁.map key := by
      rw [List.map_append, List.map_cons] at hnodup
      exact fun hin => List.disjoint_of_nodup_append hnodup hin List.mem_cons_self
    rw [List.map_append, List.idxOf_append_of_mem hmem, List.idxOf_append_of_notMem hnot]
    exact Nat.lt_add_right _ (List.idxOf_lt_length_of_mem hmem)
  exact Subrelation.wf (fun {x y} hxy => hlt x y hxy)
    (measure fun x => (log.map key).idxOf x).wf

end Justified

end Marty.Lib
