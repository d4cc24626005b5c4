import Mathlib.Data.List.Nodup

/-!
# Stamped writes

A log of what has happened to one cell.  Some of the acts write the cell and give it a stamp
that has not been given before.  Who finds the stamp that it has read before knows what the
cell holds, and that nothing has been written in between.

## Main definitions

* `lastStamp` — the stamp of the cell, with the value that it was given for.
* `Unrepeated` — no stamp is given twice.
-/

namespace Marty.Lib

variable {α κ ν : Type*}

/-- The last of the stamps that the acts of a log give. -/
def lastStamp (stamp : α → Option (κ × ν)) (log : List α) : Option (κ × ν) :=
  (log.filterMap stamp).getLast?

/-- No two acts of the log give the same stamp. -/
def Unrepeated (stamp : α → Option (κ × ν)) (log : List α) : Prop :=
  ((log.filterMap stamp).map Prod.fst).Nodup

variable {stamp : α → Option (κ × ν)} {log : List α} {a : α}

@[simp] theorem lastStamp_nil : lastStamp stamp [] = none := rfl

theorem lastStamp_append_none (h : stamp a = none) :
    lastStamp stamp (log ++ [a]) = lastStamp stamp log := by
  simp [lastStamp, List.filterMap_append, h]

theorem lastStamp_append_some {p : κ × ν} (h : stamp a = some p) :
    lastStamp stamp (log ++ [a]) = some p := by
  simp [lastStamp, List.filterMap_append, h]

theorem mem_of_lastStamp {p : κ × ν} (h : lastStamp stamp log = some p) :
    p ∈ log.filterMap stamp := List.mem_of_getLast? h

theorem Unrepeated.nil : Unrepeated stamp [] := List.nodup_nil

theorem Unrepeated.append_none (hlog : Unrepeated stamp log) (h : stamp a = none) :
    Unrepeated stamp (log ++ [a]) := by
  simpa [Unrepeated, List.filterMap_append, h] using hlog

theorem Unrepeated.append_some (hlog : Unrepeated stamp log) {p : κ × ν}
    (h : stamp a = some p) (hfresh : ∀ q ∈ log.filterMap stamp, q.1 ≠ p.1) :
    Unrepeated stamp (log ++ [a]) := by
  rw [Unrepeated, List.filterMap_append, List.map_append, List.nodup_append]
  refine ⟨hlog, by simp [h], ?_⟩
  intro k hk k' hk'
  obtain ⟨q, hq, rfl⟩ := List.mem_map.mp hk
  simp only [List.filterMap_cons, h, List.filterMap_nil, List.map_cons, List.map_nil,
    List.mem_singleton] at hk'
  rw [hk']
  exact hfresh q hq

/-- A stamp stands for one value. -/
theorem Unrepeated.value_eq (hlog : Unrepeated stamp log) {k : κ} {v w : ν}
    (hv : (k, v) ∈ log.filterMap stamp) (hw : (k, w) ∈ log.filterMap stamp) : v = w := by
  have hpair := List.inj_on_of_nodup_map hlog hv hw rfl
  exact congrArg Prod.snd hpair

/-- **A stamp that is the last one again** has been the last one all the time. -/
theorem Unrepeated.unstamped {l₁ l₂ : List α} (hlog : Unrepeated stamp (l₁ ++ l₂))
    {k : κ} {v w : ν} (hread : lastStamp stamp l₁ = some (k, v))
    (hfound : lastStamp stamp (l₁ ++ l₂) = some (k, w)) : ∀ b ∈ l₂, stamp b = none := by
  rw [Unrepeated, List.filterMap_append, List.map_append, List.nodup_append] at hlog
  obtain ⟨-, -, hdisjoint⟩ := hlog
  have hempty : l₂.filterMap stamp = [] := by
    by_contra hne
    rw [lastStamp, List.filterMap_append, List.getLast?_append_of_ne_nil _ hne] at hfound
    have hold := List.mem_map_of_mem (f := Prod.fst) (mem_of_lastStamp hread)
    have hnew := List.mem_map_of_mem (f := Prod.fst) (List.mem_of_getLast? hfound)
    exact hdisjoint _ hold _ hnew rfl
  exact List.filterMap_eq_nil_iff.mp hempty

end Marty.Lib
