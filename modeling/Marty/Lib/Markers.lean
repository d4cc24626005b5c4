import Mathlib.Data.List.Basic

/-!
# Searching for a marker

The first place of a marker in a text, from some place on.  Where a part of the text cannot
hold the beginning of the marker, whatever follows it, the search passes over that part.

## Main definitions

* `findFrom` — the first place, from `skip` on, at which the marker begins.
* `NeverStarts` — the marker begins at no place of a part.
* `stripPrefix`, `stripSuffix` — a text without its front or its end.
-/

namespace Marty.Lib.Markers

variable {α : Type*}

section

variable [DecidableEq α]

def stripPrefix (front text : List α) : Option (List α) :=
  if text.take front.length = front then some (text.drop front.length) else none

def stripSuffix (tail text : List α) : Option (List α) :=
  if text.drop (text.length - tail.length) = tail then some (text.take (text.length - tail.length))
  else none

/-- The first place, from `skip` on, at which the marker begins. -/
def findFrom (marker text : List α) (skip : Nat) : Option Nat :=
  ((List.range (text.length + 1 - marker.length)).drop skip).find? fun i =>
    (text.drop i).take marker.length = marker

theorem stripPrefix_eq_some {front text rest : List α} :
    stripPrefix front text = some rest ↔ text = front ++ rest := by
  rw [stripPrefix, Option.ite_none_right_eq_some, Option.some.injEq]
  constructor
  · rintro ⟨hfront, hrest⟩
    rw [← List.take_append_drop front.length text, hfront, hrest]
  · rintro rfl
    simp

theorem stripSuffix_eq_some {tail text rest : List α} :
    stripSuffix tail text = some rest ↔ text = rest ++ tail := by
  rw [stripSuffix, Option.ite_none_right_eq_some, Option.some.injEq]
  constructor
  · rintro ⟨htail, hrest⟩
    rw [← List.take_append_drop (text.length - tail.length) text, htail, hrest]
  · rintro rfl
    simp

end

/-! ## Parts without the marker -/

/-- The marker begins at no place of the part, whatever follows it. -/
def NeverStarts (marker part : List α) : Prop :=
  ∀ i < part.length, ∀ rest, ¬ marker <+: part.drop i ++ rest

variable {marker part part' : List α}

theorem NeverStarts.append (h : NeverStarts marker part) (h' : NeverStarts marker part') :
    NeverStarts marker (part ++ part') := by
  intro i hi rest hstart
  by_cases hpart : i < part.length
  · rw [List.drop_append_of_le_length (Nat.le_of_lt hpart), List.append_assoc] at hstart
    exact h i hpart _ hstart
  · rw [List.drop_append, List.drop_eq_nil_of_le (by omega), List.nil_append] at hstart
    rw [List.length_append] at hi
    exact h' (i - part.length) (by omega) rest hstart

/-- A part without the first letter of the marker. -/
theorem neverStarts_of_head {c : α} (h : ∀ d ∈ part, d ≠ c) : NeverStarts (c :: marker) part := by
  intro i hi rest hstart
  rw [List.drop_eq_getElem_cons hi, List.cons_append, List.cons_prefix_cons] at hstart
  exact h _ (List.getElem_mem hi) hstart.1.symm

/-- A part that differs from the marker wherever it is laid on it. -/
theorem neverStarts_of_clash
    (h : ∀ i < part.length, ¬ marker <+: part.drop i ∧ ¬ part.drop i <+: marker) :
    NeverStarts marker part := by
  intro i hi rest hstart
  rcases List.prefix_or_prefix_of_prefix hstart (List.prefix_append (part.drop i) rest) with
    hfront | hfront
  · exact (h i hi).1 hfront
  · exact (h i hi).2 hfront

/-- **The search passes over a part in which the marker never begins.** -/
theorem findFrom_eq [DecidableEq α] {front rest : List α} (h : NeverStarts marker part) :
    findFrom marker (front ++ part ++ marker ++ rest) front.length =
      some (front.length + part.length) := by
  rw [findFrom, List.range_eq_range', List.drop_range', List.find?_range'_eq_some]
  refine ⟨?_, ?_, ?_⟩
  · rw [decide_eq_true_eq]
    have hdrop : (front ++ part ++ marker ++ rest).drop (front.length + part.length) =
        marker ++ rest := by
      rw [List.append_assoc (front ++ part), ← List.length_append, List.drop_left]
    rw [hdrop, List.take_left]
  · simp only [List.mem_range'_1, List.length_append]
    omega
  · intro i hlow hhigh
    simp only [Bool.not_eq_true', decide_eq_false_iff_not]
    intro hmarker
    have hi : i - front.length < part.length := by omega
    refine h (i - front.length) hi (marker ++ rest) (List.prefix_iff_eq_take.mpr ?_)
    have hdrop : (front ++ part ++ marker ++ rest).drop i =
        part.drop (i - front.length) ++ (marker ++ rest) := by
      rw [List.append_assoc, List.append_assoc, List.drop_append,
        List.drop_eq_nil_of_le (by omega), List.nil_append,
        List.drop_append_of_le_length (Nat.le_of_lt hi)]
    rw [← hdrop, hmarker]

end Marty.Lib.Markers
