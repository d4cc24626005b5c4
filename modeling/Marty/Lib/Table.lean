import Mathlib.Data.List.Nodup
import Mathlib.Data.List.Basic
import Marty.Lib.Time

/-!
# Rows of a table

A table is the list of its rows, and an `UPDATE` rewrites the rows that meet its condition.
When the condition names a unique key it meets one row or none, and the rule for that case
says what the table has become: the rows before, the rewritten one, and the rows after.

## Main definitions

* `Table.update`, `Table.updated` — the rows after an `UPDATE`, and the ones it returns.
* `Table.Replaces` — one row of a table stands where another stood.
* `StatementClock` — what the statements of one transaction read from the clock.
-/

namespace Marty.Lib

/-- The readings that the statements of one transaction take from the clock of the
database.  They never go back. -/
structure StatementClock where
  reads : Nat → DateTime
  ordered : ∀ m n, m ≤ n → reads m ≤ reads n

/-- A clock that stands still. -/
def StatementClock.still (now : DateTime) : StatementClock := ⟨fun _ => now, fun _ _ _ => Int.le_refl _⟩

namespace Table

variable {ρ κ : Type*}

/-- `UPDATE … SET f WHERE p`. -/
def update (rows : List ρ) (p : ρ → Bool) (f : ρ → ρ) : List ρ :=
  rows.map fun r => if p r then f r else r

/-- `RETURNING`: the rewritten rows. -/
def updated (rows : List ρ) (p : ρ → Bool) (f : ρ → ρ) : List ρ := (rows.filter p).map f

/-- `new` stands in `rows'` where `old` stood in `rows`, and nothing else has changed. -/
def Replaces (rows : List ρ) (old new : ρ) (rows' : List ρ) : Prop :=
  ∃ l₁ l₂, rows = l₁ ++ old :: l₂ ∧ rows' = l₁ ++ new :: l₂

variable {rows rows' : List ρ} {p : ρ → Bool} {f : ρ → ρ} {key : ρ → κ} {old new : ρ}

theorem update_of_forall_not (h : ∀ r ∈ rows, p r = false) : update rows p f = rows := by
  refine (List.map_congr_left fun r hr => ?_).trans (List.map_id _)
  simp [h r hr]

theorem updated_of_forall_not (h : ∀ r ∈ rows, p r = false) : updated rows p f = [] := by
  simpa [updated] using h

/-- **An update by a unique key** meets no row, or exactly one. -/
theorem update_cases (hnodup : (rows.map key).Nodup) {k : κ} (hp : ∀ r, p r = true → key r = k) :
    (∀ r ∈ rows, p r = false) ∨
      ∃ old, old ∈ rows ∧ p old = true ∧ updated rows p f = [f old] ∧
        Replaces rows old (f old) (update rows p f) := by
  by_cases hall : ∀ r ∈ rows, p r = false
  · exact .inl hall
  · right
    push Not at hall
    obtain ⟨r, hr, hpr⟩ := hall
    obtain ⟨l₁, l₂, rfl⟩ := List.append_of_mem hr
    have hpr : p r = true := by simpa using hpr
    have hrest : ∀ q, q ∈ l₁ ∨ q ∈ l₂ → p q = false := by
      intro q hq
      by_contra hpq
      have hsame : key q = key r := by rw [hp q (by simpa using hpq), hp r hpr]
      simp only [List.map_append, List.map_cons, List.nodup_append, List.nodup_cons] at hnodup
      obtain ⟨-, ⟨hnot, -⟩, hdisj⟩ := hnodup
      cases hq with
      | inl hq => exact hdisj _ (List.mem_map_of_mem hq) _ List.mem_cons_self hsame
      | inr hq => exact hnot (hsame ▸ List.mem_map_of_mem hq)
    have h1 := fun q hq => hrest q (.inl hq)
    have h2 := fun q hq => hrest q (.inr hq)
    have hf1 : l₁.filter p = [] := List.filter_eq_nil_iff.mpr fun q hq => by simp [h1 q hq]
    have hf2 : l₂.filter p = [] := List.filter_eq_nil_iff.mpr fun q hq => by simp [h2 q hq]
    refine ⟨r, hr, hpr, by simp [updated, hpr, hf1, hf2], l₁, l₂, rfl, ?_⟩
    have hu1 : update l₁ p f = l₁ := update_of_forall_not h1
    have hu2 : update l₂ p f = l₂ := update_of_forall_not h2
    rw [update] at hu1 hu2
    rw [update, List.map_append, List.map_cons, hu1, hu2, if_pos hpr]

/-- **An update by the unique key of a row** that meets its condition rewrites that row. -/
theorem update_at (hnodup : (rows.map key).Nodup) (hold : old ∈ rows) (hpold : p old = true)
    (hp : ∀ r, p r = true → key r = key old) :
    updated rows p f = [f old] ∧ Replaces rows old (f old) (update rows p f) := by
  obtain hnone | ⟨r, hr, hpr, hupdated, hrep⟩ := update_cases (f := f) hnodup hp
  · exact absurd (hnone old hold) (by simp [hpold])
  · have hsame : r = old := List.inj_on_of_nodup_map hnodup hr hold (hp r hpr)
    exact hsame ▸ ⟨hupdated, hrep⟩

theorem Replaces.mem (h : Replaces rows old new rows') : old ∈ rows := by
  obtain ⟨l₁, l₂, rfl, -⟩ := h
  simp

theorem Replaces.mem_iff (h : Replaces rows old new rows') :
    ∃ rest : List ρ, (∀ r, r ∈ rows ↔ r = old ∨ r ∈ rest) ∧ ∀ r, r ∈ rows' ↔ r = new ∨ r ∈ rest := by
  obtain ⟨l₁, l₂, rfl, rfl⟩ := h
  refine ⟨l₁ ++ l₂, fun r => ?_, fun r => ?_⟩ <;>
  · simp only [List.mem_append, List.mem_cons]
    tauto

/-- What holds of every row still does when it holds of the one that is new. -/
theorem Replaces.forall {P : ρ → Prop} (h : Replaces rows old new rows') (hold : ∀ r ∈ rows, P r)
    (hnew : P new) : ∀ r ∈ rows', P r := by
  obtain ⟨l₁, l₂, rfl, rfl⟩ := h
  simp only [List.forall_mem_append, List.forall_mem_cons] at hold ⊢
  exact ⟨hold.1, hnew, hold.2.2⟩

/-- A row with another key stays. -/
theorem Replaces.mem_of_ne (h : Replaces rows old new rows') {r : ρ} (hr : r ∈ rows)
    (hne : r ≠ old) : r ∈ rows' := by
  obtain ⟨l₁, l₂, rfl, rfl⟩ := h
  simp only [List.mem_append, List.mem_cons] at hr ⊢
  tauto

theorem Replaces.new_mem (h : Replaces rows old new rows') : new ∈ rows' := by
  obtain ⟨l₁, l₂, -, rfl⟩ := h
  simp

theorem Replaces.map_key (h : Replaces rows old new rows') (hkey : key new = key old) :
    rows'.map key = rows.map key := by
  obtain ⟨l₁, l₂, rfl, rfl⟩ := h
  simp [hkey]

/-- With a unique key, every other row of the changed table was there under another key. -/
theorem Replaces.eq_or_mem (h : Replaces rows old new rows') (hnodup : (rows.map key).Nodup)
    {r : ρ} (hr : r ∈ rows') : r = new ∨ r ∈ rows ∧ key r ≠ key old := by
  obtain ⟨l₁, l₂, rfl, rfl⟩ := h
  simp only [List.map_append, List.map_cons, List.nodup_append, List.nodup_cons] at hnodup
  obtain ⟨-, ⟨hnot, -⟩, hdisj⟩ := hnodup
  simp only [List.mem_append, List.mem_cons] at hr ⊢
  rcases hr with hr | rfl | hr
  · exact .inr ⟨.inl hr, hdisj _ (List.mem_map_of_mem hr) _ List.mem_cons_self⟩
  · exact .inl rfl
  · exact .inr ⟨.inr (.inr hr), fun heq => hnot (heq ▸ List.mem_map_of_mem hr)⟩

/-- Every row of the changed table was there, or is the new one. -/
theorem Replaces.mem_or_eq (h : Replaces rows old new rows') {r : ρ} (hr : r ∈ rows') :
    r ∈ rows ∨ r = new := by
  obtain ⟨l₁, l₂, rfl, rfl⟩ := h
  simp only [List.mem_append, List.mem_cons] at hr ⊢
  tauto

end Table

end Marty.Lib
