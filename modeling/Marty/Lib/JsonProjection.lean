import Marty.Lib.Json
import Mathlib.Data.List.Nodup
import Mathlib.Tactic.Tauto

/-!
# Projections of JSON values

A projection keeps of a value what a reader may see: of an object some of its fields, of an
array the items that have something to keep.  What a field keeps is again a projection, and a
projection that is made of idempotent ones is idempotent.

## Main definitions

* `Idempotent` — what is kept is kept once more.
* `Map.project` — the fields of an object that are kept, each by its own projection.
* `keepIf`, `keepItems`, `keepObject` — projections of values.
-/

namespace Marty.Lib.Json

/-- What a projection keeps, it keeps again. -/
def Idempotent (f : Value → Option Value) : Prop := ∀ v w, f v = some w → f w = some w

/-- The fields that are kept of an object, in the order of the projection. -/
def Map.project (fields : List (String × (Value → Option Value))) (source : Map) : Map :=
  fields.filterMap fun field => ((source.get field.1).bind field.2).map (field.1, ·)

/-- A value is kept as it is, or not at all. -/
def keepIf (p : Value → Bool) (v : Value) : Option Value := if p v then some v else none

/-- The items of which something is kept, unless there are none. -/
def keepItems (f : Value → Option Value) (v : Value) : Option Value :=
  v.asArray.bind fun items =>
    match items.filterMap f with
    | [] => none
    | kept => some (.array kept)

/-- The fields that are kept of an object, unless there are none. -/
def keepObject (fields : List (String × (Value → Option Value))) (v : Value) : Option Value :=
  v.asObject.bind fun source =>
    match source.project fields with
    | [] => none
    | kept => some (.object kept)

variable {fields : List (String × (Value → Option Value))} {f : Value → Option Value}

theorem keepIf_idempotent (p : Value → Bool) : Idempotent (keepIf p) := by
  intro v w h
  simp only [keepIf, Option.ite_none_right_eq_some, Option.some.injEq] at h ⊢
  obtain ⟨hp, rfl⟩ := h
  exact ⟨hp, trivial⟩

/-- Items that were kept are kept again. -/
theorem filterMap_filterMap_of_idempotent (hf : Idempotent f) (items : List Value) :
    (items.filterMap f).filterMap f = items.filterMap f := by
  induction items with
  | nil => rfl
  | cons v items ih =>
      cases h : f v with
      | none => simpa [h] using ih
      | some w => simpa [h, hf v w h] using ih

theorem keepItems_idempotent (hf : Idempotent f) : Idempotent (keepItems f) := by
  intro v w h
  obtain ⟨items, -, hkept⟩ := Option.bind_eq_some_iff.mp h
  have hagain := filterMap_filterMap_of_idempotent hf items
  split at hkept
  case h_1 => cases hkept
  case h_2 hne =>
      cases hkept
      simp only [keepItems, Value.asArray, Option.bind_some, hagain]

namespace Map

@[simp] theorem project_nil (source : Map) : source.project [] = [] := rfl

/-- What a projection does not name it does not keep. -/
theorem get_project_of_notMem {source : Map} {key : String} (h : key ∉ fields.map Prod.fst) :
    (source.project fields).get key = none := by
  rw [get_eq_none]
  intro e he heq
  obtain ⟨field, hfield, he⟩ := List.mem_filterMap.mp he
  obtain ⟨w, -, rfl⟩ := Option.map_eq_some_iff.mp he
  exact h (heq ▸ List.mem_map_of_mem hfield)

/-- What a projection keeps of a field. -/
theorem get_project (hnodup : (fields.map Prod.fst).Nodup) {source : Map}
    {field : String × (Value → Option Value)} (hfield : field ∈ fields) :
    (source.project fields).get field.1 = (source.get field.1).bind field.2 := by
  induction fields with
  | nil => cases hfield
  | cons first rest ih =>
      rw [List.map_cons, List.nodup_cons] at hnodup
      have hcons : source.project (first :: rest) =
          (((source.get first.1).bind first.2).map (first.1, ·)).toList ++ source.project rest := by
        rw [project, List.filterMap_cons]
        cases (source.get first.1).bind first.2 <;> rfl
      rcases List.mem_cons.mp hfield with rfl | hrest
      · rw [hcons]
        cases hkept : (source.get field.1).bind field.2 with
        | none => exact get_project_of_notMem hnodup.1
        | some w => simp [get_cons]
      · have hne : first.1 ≠ field.1 := by
          intro heq
          exact hnodup.1 (heq ▸ List.mem_map_of_mem hrest)
        rw [hcons, ← ih hnodup.2 hrest]
        cases (source.get first.1).bind first.2 with
        | none => rfl
        | some w => simp [get_cons, hne]

/-- **A projection by idempotent ones is idempotent.** -/
theorem project_project (hnodup : (fields.map Prod.fst).Nodup)
    (hidem : ∀ field ∈ fields, Idempotent field.2) (source : Map) :
    (source.project fields).project fields = source.project fields := by
  refine List.filterMap_congr fun field hfield => ?_
  rw [get_project hnodup hfield]
  cases h : (source.get field.1).bind field.2 with
  | none => rfl
  | some w =>
      obtain ⟨v, -, hv⟩ := Option.bind_eq_some_iff.mp h
      rw [Option.bind_some, hidem field hfield v w hv]

end Map

theorem keepObject_idempotent (hnodup : (fields.map Prod.fst).Nodup)
    (hidem : ∀ field ∈ fields, Idempotent field.2) : Idempotent (keepObject fields) := by
  intro v w h
  obtain ⟨source, -, hkept⟩ := Option.bind_eq_some_iff.mp h
  have hagain := Map.project_project hnodup hidem source
  split at hkept
  case h_1 => cases hkept
  case h_2 hne =>
      cases hkept
      simp only [keepObject, Value.asObject, Option.bind_some, hagain]

end Marty.Lib.Json
