import Marty.ResponseText.ContentType

/-!
# The fields of a content type

A content type is cut into fields at the semicolons outside quotes.  The text between the fields
does not change when one field takes the place of another, as long as every one that moves closes
its quotes.

## Main definitions

* `joinFields` — fields with semicolons between them; `fields_joinFields` reads them back.
* `Rearranged` — a list with some of its elements in each other's places.
-/

namespace Marty.ResponseText.ContentType

open Marty.Lib Lib.Checked

/-! ## Fields -/

theorem findIdx_semicolon_le (text : List Char) (start : Nat) :
    (text.drop start).findIdx (· == ';') ≤ (text.drop start).length :=
  List.findIdx_le_length

theorem nextSemicolon_le {text : List Char} {start : Nat} (h : start ≤ text.length) :
    start ≤ nextSemicolon text start ∧ nextSemicolon text start ≤ text.length := by
  have hle := findIdx_semicolon_le text start
  rw [List.length_drop] at hle
  unfold nextSemicolon
  omega

/-- A semicolon behind a text is the next one when the text has none. -/
theorem nextSemicolon_append {text : List Char} {start : Nat} (h : start ≤ text.length)
    (rest : List Char) : nextSemicolon (text ++ ';' :: rest) start = nextSemicolon text start := by
  unfold nextSemicolon
  rw [List.drop_append_of_le_length h, List.findIdx_append]
  split
  · rfl
  · next hnone =>
      have hle := findIdx_semicolon_le text start
      have hzero : (';' :: rest).findIdx (· == ';') = 0 := by simp [List.findIdx_cons]
      omega

theorem fieldEnd_le {text : List Char} {stop : Nat} (h : stop ≤ text.length) :
    fieldEnd text stop ≤ text.length := by
  induction stop using fieldEnd.induct text with
  | case1 stop hopen ih =>
      rw [fieldEnd, if_pos hopen]
      exact ih (nextSemicolon_le hopen.2.1).2
  | case2 stop hclosed =>
      rw [fieldEnd, if_neg hclosed]
      exact h

/-- What stands behind a closed field does not move its end. -/
theorem fieldEnd_append {text : List Char} {stop : Nat} (h : stop ≤ text.length)
    (hclosed : openQuote text = false) (rest : List Char) :
    fieldEnd (text ++ ';' :: rest) stop = fieldEnd text stop := by
  induction stop using fieldEnd.induct text with
  | case1 stop hopen ih =>
      have hlt : stop + 1 ≤ text.length := hopen.2.1
      have hopen' : 0 < stop ∧ stop < (text ++ ';' :: rest).length ∧
          openQuote ((text ++ ';' :: rest).take stop) = true := by
        rw [List.take_append_of_le_length h, List.length_append]
        exact ⟨hopen.1, by omega, hopen.2.2⟩
      rw [fieldEnd, if_pos hopen', nextSemicolon_append hlt, fieldEnd.eq_def text stop,
        if_pos hopen]
      exact ih (nextSemicolon_le hlt).2
  | case2 stop hdone =>
      have hdone' : ¬ (0 < stop ∧ stop < (text ++ ';' :: rest).length ∧
          openQuote ((text ++ ';' :: rest).take stop) = true) := by
        rw [List.take_append_of_le_length h]
        rintro ⟨hpos, -, hopen⟩
        by_cases hlt : stop < text.length
        · exact hdone ⟨hpos, hlt, hopen⟩
        · rw [List.take_of_length_le (by omega), hclosed] at hopen
          cases hopen
      rw [fieldEnd, if_neg hdone', fieldEnd, if_neg hdone]

/-- A text that is one field. -/
def Whole (field : List Char) : Prop := fieldEnd field (nextSemicolon field 0) = field.length

theorem whole_of_append {field : List Char} (hclosed : openQuote field = false)
    (rest : List Char) (h : fieldEnd (field ++ ';' :: rest)
      (nextSemicolon (field ++ ';' :: rest) 0) = field.length) : Whole field := by
  rw [nextSemicolon_append (Nat.zero_le _),
    fieldEnd_append (nextSemicolon_le (Nat.zero_le _)).2 hclosed] at h
  exact h

theorem fields_of_whole {field : List Char} (h : Whole field) : fields field = [field] := by
  rw [fields, if_pos (Nat.le_of_eq h.symm)]

theorem fields_append {field : List Char} (h : Whole field) (hclosed : openQuote field = false)
    (rest : List Char) : fields (field ++ ';' :: rest) = field :: fields rest := by
  have hend : fieldEnd (field ++ ';' :: rest) (nextSemicolon (field ++ ';' :: rest) 0) =
      field.length := by
    rw [nextSemicolon_append (Nat.zero_le _),
      fieldEnd_append (nextSemicolon_le (Nat.zero_le _)).2 hclosed]
    exact h
  have hlength : ¬ (field ++ ';' :: rest).length ≤ field.length := by
    rw [List.length_append, List.length_cons]
    omega
  rw [fields]
  simp only [hend, if_neg hlength]
  rw [List.take_left, List.drop_append, List.drop_of_length_le (Nat.le_succ _), List.nil_append,
    Nat.add_sub_cancel_left]
  rfl

/-- Fields with semicolons between them. -/
def joinFields : List (List Char) → List Char
  | [] => []
  | [field] => field
  | field :: next :: rest => field ++ ';' :: joinFields (next :: rest)

/-- Fields that can be told apart: each is one field, and all but the last are closed. -/
def Separate : List (List Char) → Prop
  | [] => False
  | [field] => Whole field
  | field :: next :: rest => Whole field ∧ openQuote field = false ∧ Separate (next :: rest)

/-- **Fields are read back.** -/
theorem fields_joinFields : ∀ {parts : List (List Char)}, Separate parts →
    fields (joinFields parts) = parts
  | [], h => h.elim
  | [_], h => fields_of_whole h
  | _ :: next :: rest, h => by
      have hrest : fields (joinFields (next :: rest)) = next :: rest := fields_joinFields h.2.2
      rw [joinFields, fields_append h.1 h.2.1, hrest]

theorem nextSemicolon_getElem? {text : List Char} {start : Nat} :
    ∀ c ∈ text[nextSemicolon text start]?, c = ';' := by
  intro c hc
  unfold nextSemicolon at hc
  rw [← List.getElem?_drop] at hc
  obtain ⟨hbound, hget⟩ := List.getElem?_eq_some_iff.mp hc
  have hfound := List.findIdx_getElem (w := hbound)
  rw [hget] at hfound
  exact beq_iff_eq.mp hfound

/-- Where a field ends before the end of the text, it is closed, and a semicolon stands. -/
theorem fieldEnd_lt {text : List Char} {stop : Nat} (h : stop ≤ text.length)
    (hstop : ∀ c ∈ text[stop]?, c = ';') (hlt : fieldEnd text stop < text.length) :
    openQuote (text.take (fieldEnd text stop)) = false ∧
      text[fieldEnd text stop]? = some ';' := by
  induction stop using fieldEnd.induct text with
  | case1 stop hopen ih =>
      rw [fieldEnd, if_pos hopen] at hlt ⊢
      exact ih (nextSemicolon_le hopen.2.1).2 nextSemicolon_getElem? hlt
  | case2 stop hdone =>
      rw [fieldEnd, if_neg hdone] at hlt ⊢
      constructor
      · by_cases hpos : 0 < stop
        · exact Bool.eq_false_iff.mpr fun hopen => hdone ⟨hpos, hlt, hopen⟩
        · obtain rfl : stop = 0 := by omega
          rfl
      · rw [List.getElem?_eq_getElem hlt]
        exact congrArg some (hstop _ (List.getElem?_eq_getElem hlt))

theorem fields_ne_nil (text : List Char) : fields text ≠ [] := by
  rw [fields]
  split <;> simp

/-- **Every text is made up of fields.** -/
theorem separate_fields (text : List Char) :
    Separate (fields text) ∧ joinFields (fields text) = text := by
  induction text using fields.induct with
  | case1 text stop hlast =>
      have hle := fieldEnd_le (nextSemicolon_le text.length.zero_le).2
      have hfields : fields text = [text] := by
        rw [fields]
        exact if_pos hlast
      rw [hfields]
      exact ⟨Nat.le_antisymm hle hlast, rfl⟩
  | case2 text stop hmore ih =>
      have hlt : stop < text.length := Nat.lt_of_not_le hmore
      obtain ⟨hclosed, hsemicolon⟩ := fieldEnd_lt
        (nextSemicolon_le text.length.zero_le).2 nextSemicolon_getElem? hlt
      have htext : text.take stop ++ ';' :: text.drop (stop + 1) = text := by
        obtain ⟨hbound, hget⟩ := List.getElem?_eq_some_iff.mp hsemicolon
        rw [← hget, ← List.drop_eq_getElem_cons hbound, List.take_append_drop]
      have hlength : (text.take stop).length = stop := by
        rw [List.length_take]
        omega
      have hwhole : Whole (text.take stop) :=
        whole_of_append hclosed (text.drop (stop + 1)) (by rw [htext, hlength])
      have hfields : fields text = text.take stop :: fields (text.drop (stop + 1)) := by
        rw [fields]
        exact if_neg hmore
      rw [hfields]
      cases hrest : fields (text.drop (stop + 1)) with
      | nil => exact absurd hrest (fields_ne_nil _)
      | cons next rest =>
          rw [hrest] at ih
          refine ⟨⟨hwhole, hclosed, ih.1⟩, ?_⟩
          rw [joinFields, ih.2]
          exact htext

/-! ## Parts in each other's places -/

/-- `l'` is `l` with elements that satisfy `p` in each other's places. -/
structure Rearranged {α : Type} (p : α → Bool) (l l' : List α) : Prop where
  fixed : List.Forall₂ (fun a b => a = b ∨ p a = true ∧ p b = true) l l'
  perm : (l.filter p).Perm (l'.filter p)

/-- All fields are told apart when each is one field, and all that may not stand last are closed. -/
theorem separate_iff : ∀ {parts : List (List Char)}, Separate parts ↔
    parts ≠ [] ∧ (∀ field ∈ parts, Whole field) ∧
      ∀ field ∈ parts.dropLast, openQuote field = false
  | [] => by simp [Separate]
  | [field] => by simp [Separate]
  | field :: next :: rest => by
      have hrest : Separate (next :: rest) ↔ next :: rest ≠ [] ∧ (∀ f ∈ next :: rest, Whole f) ∧
          ∀ f ∈ (next :: rest).dropLast, openQuote f = false := separate_iff
      rw [Separate, hrest]
      simp only [ne_eq, reduceCtorEq, not_false_eq_true, true_and, List.dropLast_cons_cons,
        List.forall_mem_cons]
      tauto

theorem Rearranged.dropLast {α : Type} {p : α → Bool} {q : α → Prop} {l l' : List α}
    (h : Rearranged p l l') (hq : ∀ a ∈ l.dropLast, q a) (hp : ∀ a ∈ l, p a = true → q a) :
    ∀ a ∈ l'.dropLast, q a := by
  have hp' : ∀ a ∈ l', p a = true → q a := fun a ha hpa =>
    hp a (List.mem_filter.mp (h.perm.mem_iff.mpr (List.mem_filter.mpr ⟨ha, hpa⟩))).1 hpa
  have hfixed := h.fixed
  clear h hp
  induction hfixed with
  | nil => simp
  | @cons a b l l' hab hrest ih =>
      cases hrest with
      | nil => simp
      | cons hnext hrest =>
          rw [List.dropLast_cons_cons, List.forall_mem_cons] at hq ⊢
          refine ⟨?_, ih hq.2 fun c hc => hp' c (List.mem_cons_of_mem _ hc)⟩
          rcases hab with rfl | ⟨-, hb⟩
          · exact hq.1
          · exact hp' b List.mem_cons_self hb

theorem Rearranged.forall {α : Type} {p : α → Bool} {q : α → Prop} {l l' : List α}
    (h : Rearranged p l l') (hq : ∀ a ∈ l, q a) : ∀ a ∈ l', q a := by
  have hp' : ∀ a ∈ l', p a = true → q a := fun a ha hpa =>
    hq a (List.mem_filter.mp (h.perm.mem_iff.mpr (List.mem_filter.mpr ⟨ha, hpa⟩))).1
  have hfixed := h.fixed
  clear h
  induction hfixed with
  | nil => simp
  | @cons a b l l' hab hrest ih =>
      rw [List.forall_mem_cons] at hq ⊢
      refine ⟨?_, ih hq.2 fun c hc => hp' c (List.mem_cons_of_mem _ hc)⟩
      rcases hab with rfl | ⟨-, hb⟩
      · exact hq.1
      · exact hp' b List.mem_cons_self hb

/-- **Closed parts may change places** in the text of a content type. -/
theorem fields_rearranged {p : List Char → Bool} {contentType media : List Char}
    {rest rest' : List (List Char)} (hfields : fields contentType = media :: rest)
    (h : Rearranged p rest rest') (hclosed : ∀ field ∈ rest, p field = true →
      openQuote field = false) :
    fields (joinFields (media :: rest')) = media :: rest' := by
  apply fields_joinFields
  have hseparate := (separate_fields contentType).1
  rw [hfields, separate_iff] at hseparate
  obtain ⟨-, hwhole, hopen⟩ := hseparate
  rw [separate_iff]
  refine ⟨List.cons_ne_nil _ _, ?_, ?_⟩
  · rw [List.forall_mem_cons] at hwhole ⊢
    exact ⟨hwhole.1, h.forall hwhole.2⟩
  · cases hrest : rest with
    | nil =>
        have hfixed := h.fixed
        rw [hrest] at hfixed
        cases hfixed
        simp
    | cons first rest₀ =>
        have hfixed := h.fixed
        rw [hrest] at hfixed
        cases hrest' : rest' with
        | nil =>
            rw [hrest'] at hfixed
            cases hfixed
        | cons first' rest₀' =>
            rw [hrest, List.dropLast_cons_cons, List.forall_mem_cons] at hopen
            rw [List.dropLast_cons_cons, List.forall_mem_cons]
            refine ⟨hopen.1, ?_⟩
            rw [← hrest']
            exact h.dropLast (hrest ▸ hopen.2) hclosed

end Marty.ResponseText.ContentType
