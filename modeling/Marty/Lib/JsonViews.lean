import Marty.Lib.JsonProjection
import Marty.Lib.JsonText

/-!
# What a projection can tell apart

Two values are the same to a reader of some fields when they differ in the other fields only,
at any depth.  A projection that is made of such readers gives the same of both.  What it keeps
of a value has the numbers of that value and keys that are distinct.

## Main definitions

* `Blind` — a projection that does not tell related values apart.
* `SameFields`, `SameItems` — values that differ in other fields only, or item by item.
* `Value.Over` — the numbers are of a kind, and no key occurs twice.
* `Keeps` — a projection that stays with the numbers of its values.
-/

namespace Marty.Lib.Json

/-! ## Related values -/

/-- The projection gives the same of related values. -/
def Blind (f : Value → Option Value) (R : Value → Value → Prop) : Prop :=
  ∀ v w, R v w → f v = f w

/-- The values are equal, or objects whose fields of these names are related. -/
def SameFields (R : String → Value → Value → Prop) (keys : List String) (v w : Value) : Prop :=
  v = w ∨ ∃ m m' : Map, v = .object m ∧ w = .object m' ∧
    ∀ key ∈ keys, Option.Rel (R key) (m.get key) (m'.get key)

/-- The values are equal, or arrays of related items. -/
def SameItems (R : Value → Value → Prop) (v w : Value) : Prop :=
  v = w ∨ ∃ items items', v = .array items ∧ w = .array items' ∧ List.Forall₂ R items items'

theorem blind_eq (f : Value → Option Value) : Blind f Eq := by
  intro v w h
  rw [h]

section

variable {fields : List (String × (Value → Option Value))} {f : Value → Option Value}
  {R : Value → Value → Prop} {S : String → Value → Value → Prop}

theorem Blind.filterMap (hf : Blind f R) {items items' : List Value}
    (h : List.Forall₂ R items items') : items.filterMap f = items'.filterMap f := by
  induction h with
  | nil => rfl
  | cons hfirst _ ih => rw [List.filterMap_cons, List.filterMap_cons, hf _ _ hfirst, ih]

theorem Blind.keepItems (hf : Blind f R) : Blind (keepItems f) (SameItems R) := by
  intro v w h
  rcases h with rfl | ⟨items, items', rfl, rfl, h⟩
  · rfl
  · simp only [Json.keepItems, Value.asArray, Option.bind_some, hf.filterMap h]

/-- **A projection of the fields of two objects that are the same to it.** -/
theorem Map.project_congr (hf : ∀ field ∈ fields, Blind field.2 (S field.1)) {m m' : Map}
    (h : ∀ key ∈ fields.map Prod.fst, Option.Rel (S key) (m.get key) (m'.get key)) :
    m.project fields = m'.project fields := by
  refine List.filterMap_congr fun field hfield => ?_
  have hrel := h field.1 (List.mem_map_of_mem hfield)
  generalize m.get field.1 = o at hrel ⊢
  generalize m'.get field.1 = o' at hrel ⊢
  cases hrel with
  | none => rfl
  | some hvalue => simp only [Option.bind_some, hf field hfield _ _ hvalue]

theorem blind_keepObject (hf : ∀ field ∈ fields, Blind field.2 (S field.1)) :
    Blind (keepObject fields) (SameFields S (fields.map Prod.fst)) := by
  intro v w h
  rcases h with rfl | ⟨m, m', rfl, rfl, h⟩
  · rfl
  · simp only [keepObject, Value.asObject, Option.bind_some, Map.project_congr hf h]

end

/-! ## The numbers of a value -/

mutual

/-- The numbers are of this kind, and no key occurs twice. -/
def Value.Over (p : String → Prop) : Value → Prop
  | .number token => p token
  | .array items => itemsOver p items
  | .object entries => (entries.map Prod.fst).Nodup ∧ entriesOver p entries
  | _ => True

def itemsOver (p : String → Prop) : List Value → Prop
  | [] => True
  | v :: items => v.Over p ∧ itemsOver p items

def entriesOver (p : String → Prop) : List (String × Value) → Prop
  | [] => True
  | (_, value) :: entries => value.Over p ∧ entriesOver p entries

end

section

variable {p : String → Prop} {fields : List (String × (Value → Option Value))}
  {f : Value → Option Value}

theorem itemsOver_iff {items : List Value} : itemsOver p items ↔ ∀ v ∈ items, v.Over p := by
  induction items with
  | nil => simp [itemsOver]
  | cons v items ih => simp [itemsOver, ih]

theorem entriesOver_iff {entries : List (String × Value)} :
    entriesOver p entries ↔ ∀ e ∈ entries, e.2.Over p := by
  induction entries with
  | nil => simp [entriesOver]
  | cons e entries ih => simp [entriesOver, ih]

theorem Map.over_get {m : Map} (h : entriesOver p m) {key : String} {v : Value}
    (hv : m.get key = some v) : v.Over p :=
  entriesOver_iff.mp h _ (Map.mem_of_get hv)

mutual

theorem Value.Over.wellFormed : ∀ {v : Value}, v.Over isNumberToken → v.WellFormed
  | .null, _ => trivial
  | .bool _, _ => trivial
  | .string _, _ => trivial
  | .number _, h => h
  | .array _, h => itemsOver_wellFormed h
  | .object _, h => ⟨h.1, entriesOver_wellFormed h.2⟩

theorem itemsOver_wellFormed : ∀ {items : List Value}, itemsOver isNumberToken items →
    itemsWellFormed items
  | [], _ => trivial
  | _ :: _, h => ⟨h.1.wellFormed, itemsOver_wellFormed h.2⟩

theorem entriesOver_wellFormed : ∀ {entries : List (String × Value)},
    entriesOver isNumberToken entries → entriesWellFormed entries
  | [], _ => trivial
  | (_, _) :: _, h => ⟨h.1.wellFormed, entriesOver_wellFormed h.2⟩

end

/-- What the projection keeps has the numbers of the value. -/
def Keeps (p : String → Prop) (f : Value → Option Value) : Prop :=
  ∀ v w, f v = some w → v.Over p → w.Over p

theorem keeps_keepIf (q : Value → Bool) : Keeps p (keepIf q) := by
  intro v w h hv
  simp only [keepIf, Option.ite_none_right_eq_some, Option.some.injEq] at h
  exact h.2 ▸ hv

theorem Keeps.keepItems (hf : Keeps p f) : Keeps p (keepItems f) := by
  intro v w h hv
  obtain ⟨items, hitems, hkept⟩ := Option.bind_eq_some_iff.mp h
  have hover : itemsOver p (items.filterMap f) := by
    cases v with
    | array _ =>
        cases hitems
        refine itemsOver_iff.mpr fun w hw => ?_
        obtain ⟨v, hmem, hvw⟩ := List.mem_filterMap.mp hw
        exact hf v w hvw (itemsOver_iff.mp hv v hmem)
    | _ => cases hitems
  split at hkept
  case h_1 => cases hkept
  case h_2 =>
      cases hkept
      exact hover

theorem Map.nodup_project (h : (fields.map Prod.fst).Nodup) (source : Map) :
    ((source.project fields).map Prod.fst).Nodup := by
  have hsub : ((source.project fields).map Prod.fst).Sublist (fields.map Prod.fst) := by
    induction fields with
    | nil => exact .slnil
    | cons field fields ih =>
        have hrest := ih (List.nodup_cons.mp h).2
        rw [project, List.filterMap_cons]
        cases (source.get field.1).bind field.2 with
        | none => exact hrest.cons _
        | some w => exact hrest.cons_cons _
  exact h.sublist hsub

theorem Map.over_project (hnodup : (fields.map Prod.fst).Nodup)
    (hf : ∀ field ∈ fields, Keeps p field.2) {source : Map} (h : entriesOver p source) :
    (Value.object (source.project fields)).Over p := by
  refine ⟨nodup_project hnodup source, entriesOver_iff.mpr fun e he => ?_⟩
  obtain ⟨field, hfield, hkept⟩ := List.mem_filterMap.mp he
  obtain ⟨w, hw, rfl⟩ := Option.map_eq_some_iff.mp hkept
  obtain ⟨v, hv, hvw⟩ := Option.bind_eq_some_iff.mp hw
  exact hf field hfield v w hvw (over_get h hv)

theorem keeps_keepObject (hnodup : (fields.map Prod.fst).Nodup)
    (hf : ∀ field ∈ fields, Keeps p field.2) : Keeps p (keepObject fields) := by
  intro v w h hv
  obtain ⟨source, hsource, hkept⟩ := Option.bind_eq_some_iff.mp h
  have hover : (Value.object (source.project fields)).Over p := by
    cases v with
    | object _ =>
        cases hsource
        exact Map.over_project hnodup hf hv.2
    | _ => cases hsource
  split at hkept
  case h_1 => cases hkept
  case h_2 =>
      cases hkept
      exact hover

end

end Marty.Lib.Json
