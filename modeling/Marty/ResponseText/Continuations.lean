import Marty.ResponseText.ContentFields
import Mathlib.Tactic.Ring

/-!
# The order of continuations

The continuations of a name may stand in any order among the parameters of a content type: they
are put together by their numbers, which are compared as digits and may be of any size.

## Main definitions

* `decimalValue` — the number that digits write; `decimalValue_le` orders digits without zeros.
* `partOf` — the part of a name that a field is.
* `fill`, `Gathered` — the groups of parts besides those of one name, and these.
-/

namespace Marty.ResponseText.ContentType

open Marty.Lib Lib.Checked

/-! ## Numbers -/

def decimalFrom (n : Nat) (digits : List Char) : Nat :=
  digits.foldl (fun n c => n * 10 + (c.toNat - 48)) n

/-- The number that digits write. -/
def decimalValue (digits : List Char) : Nat := decimalFrom 0 digits

theorem decimalFrom_eq (n : Nat) (digits : List Char) :
    decimalFrom n digits = n * 10 ^ digits.length + decimalValue digits := by
  induction digits generalizing n with
  | nil => simp [decimalFrom, decimalValue]
  | cons c digits ih =>
      have hstep : ∀ m, decimalFrom m (c :: digits) =
          decimalFrom (m * 10 + (c.toNat - 48)) digits := fun _ => rfl
      rw [decimalValue, hstep, hstep, ih, ih (0 * 10 + _), List.length_cons, pow_succ]
      ring

theorem decimalValue_cons (c : Char) (digits : List Char) :
    decimalValue (c :: digits) = (c.toNat - 48) * 10 ^ digits.length + decimalValue digits := by
  rw [← decimalFrom_eq]
  simp [decimalValue, decimalFrom]

theorem digit_lt {c : Char} (h : isAsciiDigit c = true) : 48 ≤ c.toNat ∧ c.toNat ≤ 57 := by
  simpa [isAsciiDigit] using h

theorem decimalValue_lt {digits : List Char} (h : digits.all isAsciiDigit = true) :
    decimalValue digits < 10 ^ digits.length := by
  induction digits with
  | nil => simp [decimalValue, decimalFrom]
  | cons c digits ih =>
      rw [List.all_cons, Bool.and_eq_true] at h
      have hc := digit_lt h.1
      have hrest := ih h.2
      rw [decimalValue_cons, List.length_cons, pow_succ]
      have hbound : (c.toNat - 48) * 10 ^ digits.length ≤ 9 * 10 ^ digits.length :=
        Nat.mul_le_mul_right _ (by omega)
      omega

/-- Digits of one length are ordered as their numbers are. -/
theorem decimalValue_lt_of_lt {a b : List Char} (ha : a.all isAsciiDigit = true)
    (hb : b.all isAsciiDigit = true) (hlength : a.length = b.length) (h : a < b) :
    decimalValue a < decimalValue b := by
  induction a generalizing b with
  | nil =>
      cases b with
      | nil => exact absurd h (lt_irrefl _)
      | cons => cases hlength
  | cons c a ih =>
      cases b with
      | nil => cases hlength
      | cons d b =>
          rw [List.all_cons, Bool.and_eq_true] at ha hb
          have hlength' : a.length = b.length := Nat.succ.inj hlength
          rw [decimalValue_cons, decimalValue_cons, hlength']
          rcases List.cons_lt_cons_iff.mp h with hcd | ⟨rfl, hab⟩
          · have hlt : c.toNat < d.toNat := hcd
            have hvalue := decimalValue_lt ha.2
            rw [hlength'] at hvalue
            have hc := digit_lt ha.1
            have hstep : (c.toNat - 48 + 1) * 10 ^ b.length ≤ (d.toNat - 48) * 10 ^ b.length :=
              Nat.mul_le_mul_right _ (by omega)
            rw [Nat.succ_mul] at hstep
            omega
          · exact Nat.add_lt_add_left (ih ha.2 hb.2 hlength' hab) _

/-- Digits without zeros in front of them. -/
def Trimmed (digits : List Char) : Prop :=
  digits.all isAsciiDigit = true ∧ (digits.head? = some '0' → digits = ['0'])

theorem Trimmed.le_decimalValue {digits : List Char} (h : Trimmed digits)
    (hlong : 1 < digits.length) : 10 ^ (digits.length - 1) ≤ decimalValue digits := by
  cases digits with
  | nil => cases hlong
  | cons c digits =>
      have hc : c ≠ '0' := by
        rintro rfl
        have hzero := h.2 rfl
        rw [hzero] at hlong
        exact absurd hlong (lt_irrefl _)
      have hdigits := h.1
      rw [List.all_cons, Bool.and_eq_true] at hdigits
      have hrange := digit_lt hdigits.1
      have hpos : 1 ≤ c.toNat - 48 := by
        have hne : c.toNat ≠ 48 := fun heq => hc (Char.toNat_inj.mp heq)
        omega
      rw [decimalValue_cons, List.length_cons, Nat.add_sub_cancel]
      exact le_trans (Nat.le_mul_of_pos_left _ hpos) (Nat.le_add_right _ _)

/-- **However large the numbers are**, the order of digits is the order of numbers. -/
theorem decimalValue_le {a b : List Char} (ha : Trimmed a) (hb : Trimmed b)
    (h : a.length < b.length ∨ a.length = b.length ∧ a ≤ b) :
    decimalValue a ≤ decimalValue b := by
  rcases h with hshort | ⟨hlength, hle⟩
  · rcases Nat.eq_zero_or_pos a.length with hzero | hpos
    · rw [List.length_eq_zero_iff.mp hzero]
      exact Nat.zero_le _
    · have hlow := hb.le_decimalValue (by omega)
      have hhigh := decimalValue_lt ha.1
      have hpow : 10 ^ a.length ≤ 10 ^ (b.length - 1) :=
        Nat.pow_le_pow_right (by omega) (by omega)
      omega
  · rcases eq_or_lt_of_le hle with rfl | hlt
    · exact le_rfl
    · exact (decimalValue_lt_of_lt ha.1 hb.1 hlength hlt).le

theorem dropWhile_head {digits : List Char} :
    (digits.dropWhile (· == '0')).head? ≠ some '0' := by
  intro h
  have hnot := List.head?_dropWhile_not (· == '0') digits
  rw [h] at hnot
  cases hnot

theorem trimZeros_trimmed {digits : List Char} (h : digits.all isAsciiDigit = true) :
    Trimmed (trimZeros digits) := by
  unfold trimZeros
  cases hdrop : digits.dropWhile (· == '0') with
  | nil => exact ⟨by decide, fun _ => rfl⟩
  | cons c number =>
      have hmem : ∀ d ∈ c :: number, d ∈ digits := by
        rw [← hdrop]
        exact fun d hd => (List.dropWhile_sublist _).subset hd
      have hhead : (c :: number).head? ≠ some '0' := by
        rw [← hdrop]
        exact dropWhile_head
      refine ⟨?_, fun hzero => absurd hzero hhead⟩
      rw [List.all_eq_true] at h ⊢
      exact fun d hd => h d (hmem d hd)

/-- The zeros do not count. -/
theorem decimalValue_trimZeros (digits : List Char) :
    decimalValue (trimZeros digits) = decimalValue digits := by
  induction digits with
  | nil => rfl
  | cons c digits ih =>
      by_cases hc : c = '0'
      · subst hc
        have htrim : trimZeros ('0' :: digits) = trimZeros digits := by
          simp [trimZeros]
        rw [htrim, ih, decimalValue_cons]
        simp
      · have htrim : trimZeros (c :: digits) = c :: digits := by
          simp [trimZeros, hc]
        rw [htrim]

/-! ## Parts put together -/

section

variable (tables : UnicodeTables) (base : List Char)

/-- The part of `base` that a field is, if it is one. -/
def partOf (field : List Char) : Option Segment :=
  match continuation tables (parameter tables field).1 with
  | .ok (some part) =>
      if part.base = base then
        some ⟨part.number, unquote (parameter tables field).2, part.encoded⟩
      else none
  | _ => none

def isPart (field : List Char) : Bool := (partOf tables base field).isSome

end

/-- The number of a part. -/
def Segment.ordinal (part : Segment) : Nat := decimalValue (part.number.getD [])

/-- A part with a number as names give it. -/
def Segment.Numbered (part : Segment) : Prop := ∃ digits, part.number = some digits ∧ Trimmed digits

variable {tables : UnicodeTables} {base : List Char}

theorem continuation_number {name : List Char} {part : Continuation} {digits : List Char}
    (h : continuation tables name = .ok (some part)) (hnumber : part.number = some digits) :
    Trimmed digits := by
  unfold continuation at h
  split at h
  · cases h
  · split at h
    · cases h
    · split at h
      · cases h
        cases hnumber
      · dsimp only at h
        split at h
        · cases h
        · next hdigits =>
            split at h
            · cases h
            · cases h
              cases hnumber
              rw [not_or, not_not] at hdigits
              exact trimZeros_trimmed hdigits.2

theorem partOf_eq_some {field : List Char} {part : Segment}
    (h : partOf tables base field = some part) : ∃ found : Continuation,
      continuation tables (parameter tables field).1 = .ok (some found) ∧ found.base = base ∧
        part = ⟨found.number, unquote (parameter tables field).2, found.encoded⟩ := by
  unfold partOf at h
  split at h
  · next found hfound =>
      split at h
      · next hbase => exact ⟨found, hfound, hbase, (Option.some.inj h).symm⟩
      · cases h
  · cases h

theorem numbered_of_partOf {field : List Char} {part : Segment}
    (h : partOf tables base field = some part) (hnumber : part.number.isSome = true) :
    part.Numbered := by
  obtain ⟨found, hfound, -, rfl⟩ := partOf_eq_some h
  obtain ⟨digits, hdigits⟩ := Option.isSome_iff_exists.mp hnumber
  exact ⟨digits, hdigits, continuation_number hfound hdigits⟩

/-! ## The order of parts -/

theorem key_injective {a b : Segment} (ha : a.Numbered) (hb : b.Numbered) (h : a.key = b.key) :
    a = b := by
  obtain ⟨digits, hdigits, -⟩ := ha
  obtain ⟨digits', hdigits', -⟩ := hb
  have hall := congrArg ofLex h
  simp only [Segment.key, hdigits, hdigits', Option.getD_some, ofLex_toLex, Prod.mk.injEq,
    EmbeddingLike.apply_eq_iff_eq] at hall
  obtain ⟨-, hnumber, hvalue, hencoded⟩ := hall
  cases a
  cases b
  simp_all

theorem ordinal_le {a b : Segment} (ha : a.Numbered) (hb : b.Numbered) (h : a.key ≤ b.key) :
    a.ordinal ≤ b.ordinal := by
  obtain ⟨digits, hdigits, htrimmed⟩ := ha
  obtain ⟨digits', hdigits', htrimmed'⟩ := hb
  unfold Segment.ordinal
  rw [hdigits, hdigits']
  apply decimalValue_le htrimmed htrimmed'
  simp only [Segment.key, hdigits, hdigits', Option.getD_some, Prod.Lex.toLex_le_toLex] at h
  rcases h with hshort | ⟨hlength, hlt | ⟨heq, -⟩⟩
  · exact .inl hshort
  · exact .inr ⟨hlength, hlt.le⟩
  · exact .inr ⟨hlength, heq.le⟩

theorem sortSegments_perm (segments : List Segment) : (sortSegments segments).Perm segments :=
  List.mergeSort_perm _ _

theorem sortSegments_sorted (segments : List Segment) :
    (sortSegments segments).Pairwise fun a b => a.key ≤ b.key := by
  have hsorted : (segments.mergeSort fun a b => decide (a.key ≤ b.key)).Pairwise
      fun a b => decide (a.key ≤ b.key) = true :=
    List.pairwise_mergeSort
      (fun a b c hab hbc => by simp only [decide_eq_true_eq] at *; exact hab.trans hbc)
      (fun a b => by simpa using le_total a.key b.key) segments
  exact hsorted.imp fun h => of_decide_eq_true h

/-- **Parts are put together the same way** in whatever order they stand. -/
theorem joinSegments_perm {segments segments' : List Segment}
    (hnumbered : ∀ part ∈ segments, part.Numbered) (h : segments.Perm segments') :
    joinSegments segments = joinSegments segments' := by
  unfold joinSegments
  congr 1
  have hperm : (sortSegments segments).Perm (sortSegments segments') :=
    (sortSegments_perm segments).trans (h.trans (sortSegments_perm segments').symm)
  refine hperm.eq_of_pairwise ?_ (sortSegments_sorted segments) (sortSegments_sorted segments')
  intro a b ha hb hab hba
  have ha' := (sortSegments_perm segments).mem_iff.mp ha
  have hb' := h.mem_iff.mpr ((sortSegments_perm segments').mem_iff.mp hb)
  exact key_injective (hnumbered a ha') (hnumbered b hb') (le_antisymm hab hba)

/-- The parts follow each other as their numbers do. -/
theorem sortSegments_ordinals {segments : List Segment}
    (hnumbered : ∀ part ∈ segments, part.Numbered)
    (hdistinct : segments.Pairwise fun a b => a.ordinal ≠ b.ordinal) :
    (sortSegments segments).Pairwise fun a b => a.ordinal < b.ordinal := by
  have hdistinct' := hdistinct.perm (sortSegments_perm segments).symm fun h => h.symm
  refine ((sortSegments_sorted segments).and hdistinct').imp_of_mem ?_
  intro a b ha hb ⟨hle, hne⟩
  have ha' := hnumbered a ((sortSegments_perm segments).mem_iff.mp ha)
  have hb' := hnumbered b ((sortSegments_perm segments).mem_iff.mp hb)
  exact lt_of_le_of_ne (ordinal_le ha' hb' hle) hne

theorem checkNumbers_numbered {segments : List Segment}
    (hnumbered : ∀ part ∈ segments, part.number.isSome = true) : checkNumbers segments = .ok () := by
  cases segments with
  | nil => rfl
  | cons first rest =>
      have hfirst := hnumbered first List.mem_cons_self
      have hnone : (first :: rest).find? (fun part => part.number.isSome ≠
          ((first :: rest).head?.bind (·.number)).isSome) = none := by
        rw [List.find?_eq_none]
        intro part hpart
        rw [List.head?_cons, Option.bind_some, hfirst, hnumbered part hpart]
        simp
      simp only [checkNumbers, hnone]

theorem extendGroup_perm {name : List Char} {segments segments' : List Segment}
    (hnumbered : ∀ part ∈ segments, part.Numbered) (h : segments.Perm segments') :
    extendGroup (name, segments) = extendGroup (name, segments') := by
  have hsome : ∀ part ∈ segments, part.number.isSome = true := by
    intro part hpart
    obtain ⟨digits, hdigits, -⟩ := hnumbered part hpart
    rw [hdigits]
    rfl
  have hsome' : ∀ part ∈ segments', part.number.isSome = true := fun part hpart =>
    hsome part (h.mem_iff.mpr hpart)
  have hany : segments.any (·.encoded) = segments'.any (·.encoded) := by
    rw [Bool.eq_iff_iff, List.any_eq_true, List.any_eq_true]
    simp only [h.mem_iff]
  unfold extendGroup
  simp only [checkNumbers_numbered hsome, checkNumbers_numbered hsome',
    joinSegments_perm hnumbered h, hany]

/-! ## The groups -/

/-- The groups with the parts of `base` replaced. -/
def fill (base : List Char) (parts : List Segment) (groups : List (List Char × List Segment)) :
    List (List Char × List Segment) :=
  groups.map fun group => if group.1 = base then (group.1, parts) else group

/-- The one group of `base` has the parts, or there are none. -/
def Gathered (base : List Char) (parts : List Segment) :
    List (List Char × List Segment) → Prop
  | [] => parts = []
  | group :: groups =>
      if group.1 = base then group.2 = parts ∧ ∀ other ∈ groups, other.1 ≠ base
      else Gathered base parts groups

theorem mem_addSegment {name : List Char} {part : Segment}
    {groups : List (List Char × List Segment)} {group : List Char × List Segment}
    (h : group ∈ addSegment name part groups) : group.1 = name ∨ group ∈ groups := by
  induction groups with
  | nil =>
      rw [addSegment, List.mem_singleton] at h
      exact .inl (congrArg Prod.fst h)
  | cons first groups ih =>
      rw [addSegment] at h
      split at h
      · next hname =>
          rcases List.mem_cons.mp h with rfl | h
          · exact .inl hname
          · exact .inr (List.mem_cons_of_mem _ h)
      · rcases List.mem_cons.mp h with rfl | h
        · exact .inr List.mem_cons_self
        · exact (ih h).imp_right (List.mem_cons_of_mem _)

theorem Gathered.add {part : Segment} {parts : List Segment} :
    ∀ {groups : List (List Char × List Segment)}, Gathered base parts groups →
      Gathered base (parts ++ [part]) (addSegment base part groups)
  | [], h => by
      obtain rfl : parts = [] := h
      simp [addSegment, Gathered]
  | (name, segments) :: groups, h => by
      rw [Gathered] at h
      by_cases hname : name = base
      · rw [if_pos hname] at h
        rw [addSegment, if_pos hname, Gathered, if_pos hname]
        exact ⟨congrArg (· ++ [part]) h.1, h.2⟩
      · rw [if_neg hname] at h
        rw [addSegment, if_neg hname, Gathered, if_neg hname]
        exact h.add

theorem Gathered.add_other {part : Segment} {parts : List Segment} {other : List Char}
    (hother : other ≠ base) : ∀ {groups : List (List Char × List Segment)},
      Gathered base parts groups → Gathered base parts (addSegment other part groups)
  | [], h => by
      rw [addSegment, Gathered, if_neg hother]
      exact h
  | (name, segments) :: groups, h => by
      rw [Gathered] at h
      by_cases hname : name = base
      · rw [if_pos hname] at h
        have hne : name ≠ other := fun heq => hother (heq ▸ hname)
        rw [addSegment, if_neg hne, Gathered, if_pos hname]
        refine ⟨h.1, fun group hgroup => ?_⟩
        rcases mem_addSegment hgroup with rfl | hmem
        · exact hother
        · exact h.2 group hmem
      · rw [if_neg hname] at h
        rw [addSegment]
        split
        · rw [Gathered, if_neg hname]
          exact h
        · rw [Gathered, if_neg hname]
          exact h.add_other hother

theorem fill_of_ne {parts : List Segment} {groups : List (List Char × List Segment)}
    (h : ∀ group ∈ groups, group.1 ≠ base) : fill base parts groups = groups := by
  unfold fill
  conv_rhs => rw [← List.map_id groups]
  exact List.map_congr_left fun group hgroup => if_neg (h group hgroup)

theorem Gathered.fill_eq {parts : List Segment} : ∀ {groups : List (List Char × List Segment)},
    Gathered base parts groups → fill base parts groups = groups
  | [], _ => rfl
  | (name, segments) :: groups, h => by
      rw [Gathered] at h
      by_cases hname : name = base
      · rw [if_pos hname] at h
        have hrest : fill base parts groups = groups := fill_of_ne h.2
        rw [fill] at hrest ⊢
        rw [List.map_cons, hrest, if_pos hname, ← h.1]
      · rw [if_neg hname] at h
        have hrest := h.fill_eq
        rw [fill] at hrest ⊢
        rw [List.map_cons, hrest, if_neg hname]

theorem Gathered.mem {parts : List Segment} {groups : List (List Char × List Segment)}
    (h : Gathered base parts groups) : ∀ {segments : List Segment},
      (base, segments) ∈ groups → segments = parts := by
  intro segments hmem
  rw [← h.fill_eq, fill, List.mem_map] at hmem
  obtain ⟨group, -, hgroup⟩ := hmem
  split at hgroup
  · exact (congrArg Prod.snd hgroup).symm
  · next hne =>
      rw [hgroup] at hne
      exact absurd rfl hne

@[simp] theorem fill_fill (parts parts' : List Segment)
    (groups : List (List Char × List Segment)) :
    fill base parts (fill base parts' groups) = fill base parts groups := by
  unfold fill
  rw [List.map_map]
  refine List.map_congr_left fun group _ => ?_
  by_cases h : group.1 = base <;> simp [h]

/-- Which part is added is not seen behind the replaced parts. -/
theorem fill_addSegment (parts : List Segment) (part part' : Segment)
    (groups : List (List Char × List Segment)) :
    fill base parts (addSegment base part groups) =
      fill base parts (addSegment base part' (fill base parts groups)) := by
  induction groups with
  | nil => simp [addSegment, fill]
  | cons group groups ih =>
      obtain ⟨name, segments⟩ := group
      by_cases hname : name = base
      · have hrest : fill base parts (fill base parts groups) = fill base parts groups :=
          fill_fill parts parts groups
        unfold fill at hrest ⊢
        simp [addSegment, hname, hrest]
      · unfold fill at ih ⊢
        simp [addSegment, hname, ih]

theorem fill_addSegment_other (parts : List Segment) {other : List Char} (part : Segment)
    (hother : other ≠ base) (groups : List (List Char × List Segment)) :
    fill base parts (addSegment other part groups) =
      addSegment other part (fill base parts groups) := by
  induction groups with
  | nil => simp [addSegment, fill, hother]
  | cons group groups ih =>
      obtain ⟨name, segments⟩ := group
      unfold fill at ih ⊢
      by_cases hname : name = other
      · have hne : name ≠ base := fun heq => hother (hname ▸ heq)
        simp [addSegment, hname, hother]
      · by_cases hbase : name = base
        · have hne : base ≠ other := hother.symm
          simp [addSegment, hbase, hne, ih]
        · simp [addSegment, hname, hbase, ih]

/-! ## One run over the parameters -/

/-- What is collected besides the parts of `base`. -/
def Collected.besides (base : List Char) (found : Collected) : Collected :=
  ⟨found.normal, fill base [] found.groups⟩

theorem collectParameter_of_part {field : List Char} {part : Segment}
    (h : partOf tables base field = some part) (found : Collected) :
    collectParameter tables found (parameter tables field) =
      .ok { found with groups := addSegment base part found.groups } := by
  obtain ⟨number, hnumber, rfl, rfl⟩ := partOf_eq_some h
  unfold collectParameter
  rw [hnumber]
  rfl

theorem collectParameter_gathers {field : List Char} {found found₁ : Collected}
    {parts : List Segment} (h : collectParameter tables found (parameter tables field) = .ok found₁)
    (hparts : Gathered base parts found.groups) :
    Gathered base (parts ++ (partOf tables base field).toList) found₁.groups := by
  cases hpart : partOf tables base field with
  | some part =>
      rw [collectParameter_of_part hpart] at h
      cases h
      exact hparts.add
  | none =>
      rw [Option.toList_none, List.append_nil]
      unfold collectParameter at h
      cases hnumber : continuation tables (parameter tables field).1 with
      | error => rw [hnumber] at h; cases h
      | ok result =>
          rw [hnumber] at h
          cases result with
          | none => cases h; exact hparts
          | some number =>
              cases h
              refine hparts.add_other fun hbase => ?_
              simp [partOf, hnumber, hbase] at hpart

/-- A parameter does the same to what is collected besides the parts of `base`. -/
theorem collectParameter_besides {found found' : Collected} {entry entry' : List Char × List Char}
    (h : found.besides base = found'.besides base)
    (hentry : entry = entry' ∨ ∃ field field', entry = parameter tables field ∧
      entry' = parameter tables field' ∧ isPart tables base field = true ∧
        isPart tables base field' = true) :
    (collectParameter tables found entry).map (Collected.besides base) =
      (collectParameter tables found' entry').map (Collected.besides base) := by
  obtain ⟨hnormal, hgroups⟩ := Collected.mk.inj h
  rcases hentry with rfl | ⟨field, field', rfl, rfl, hpart, hpart'⟩
  · unfold collectParameter
    cases continuation tables entry.1 with
    | error => rfl
    | ok result =>
        cases result with
        | none => exact congrArg Except.ok (congrArg₂ Collected.mk (by rw [hnormal]) hgroups)
        | some number =>
            refine congrArg Except.ok (congrArg₂ Collected.mk hnormal ?_)
            by_cases hbase : number.base = base
            · subst hbase
              rw [fill_addSegment [] _ ⟨none, [], false⟩, hgroups, ← fill_addSegment]
            · rw [fill_addSegment_other _ _ hbase, hgroups, ← fill_addSegment_other _ _ hbase]
  · obtain ⟨part, hsome⟩ := Option.isSome_iff_exists.mp hpart
    obtain ⟨part', hsome'⟩ := Option.isSome_iff_exists.mp hpart'
    rw [collectParameter_of_part hsome, collectParameter_of_part hsome']
    refine congrArg Except.ok (congrArg₂ Collected.mk hnormal ?_)
    rw [fill_addSegment [] _ part, hgroups, ← fill_addSegment]

theorem foldlM_gathers {rest : List (List Char)} {found found₁ : Collected} {parts : List Segment}
    (h : (rest.map (parameter tables)).foldlM (collectParameter tables) found = .ok found₁)
    (hparts : Gathered base parts found.groups) :
    Gathered base (parts ++ rest.filterMap (partOf tables base)) found₁.groups := by
  induction rest generalizing found parts with
  | nil =>
      cases h
      simpa using hparts
  | cons field rest ih =>
      rw [List.map_cons, List.foldlM_cons] at h
      cases hstep : collectParameter tables found (parameter tables field) with
      | error => rw [hstep] at h; cases h
      | ok next =>
          rw [hstep] at h
          have hnext := ih h (collectParameter_gathers hstep hparts)
          rw [List.append_assoc] at hnext
          cases hpart : partOf tables base field with
          | none => simpa [hpart] using hnext
          | some part => simpa [hpart] using hnext

theorem foldlM_besides {rest rest' : List (List Char)}
    (h : List.Forall₂ (fun a b => a = b ∨ isPart tables base a = true ∧ isPart tables base b = true)
      rest rest') {found found' : Collected} (hfound : found.besides base = found'.besides base) :
    ((rest.map (parameter tables)).foldlM (collectParameter tables) found).map
        (Collected.besides base) =
      ((rest'.map (parameter tables)).foldlM (collectParameter tables) found').map
        (Collected.besides base) := by
  induction h generalizing found found' with
  | nil => exact congrArg Except.ok hfound
  | @cons field field' rest rest' hfield _ ih =>
      have hstep : (collectParameter tables found (parameter tables field)).map
            (Collected.besides base) =
          (collectParameter tables found' (parameter tables field')).map
            (Collected.besides base) :=
        collectParameter_besides hfound
          (hfield.imp (congrArg _) fun hparts => ⟨field, field', rfl, rfl, hparts⟩)
      rw [List.map_cons, List.map_cons, List.foldlM_cons, List.foldlM_cons]
      cases hnext : collectParameter tables found (parameter tables field) with
      | error e =>
          cases hnext' : collectParameter tables found' (parameter tables field') with
          | error e' =>
              rw [hnext, hnext'] at hstep
              exact congrArg Except.error (Except.error.inj hstep)
          | ok next' => rw [hnext, hnext'] at hstep; cases hstep
      | ok next =>
          cases hnext' : collectParameter tables found' (parameter tables field') with
          | error e' => rw [hnext, hnext'] at hstep; cases hstep
          | ok next' =>
              rw [hnext, hnext'] at hstep
              exact ih (Except.ok.inj hstep)

/-! ## The charset -/

theorem mapEach_extendGroup {parts parts' : List Segment}
    (hnumbered : ∀ part ∈ parts, part.Numbered) (h : parts.Perm parts')
    (groups : List (List Char × List Segment)) :
    mapEach extendGroup (fill base parts groups) = mapEach extendGroup (fill base parts' groups) := by
  have hmap : ∀ parts groups, mapEach extendGroup (fill base parts groups) = mapEach
      (fun group => extendGroup (if group.1 = base then (group.1, parts) else group)) groups := by
    intro parts groups
    induction groups with
    | nil => rfl
    | cons group groups ih =>
        unfold fill at ih ⊢
        rw [List.map_cons, mapEach, ih]
        rfl
  rw [hmap, hmap]
  congr 1
  funext group
  split
  · exact extendGroup_perm hnumbered h
  · rfl

variable {codecs : ResponseCodecs}

theorem selectCharset_of_besides {found found' : Collected} {parts parts' : List Segment}
    (h : found.besides base = found'.besides base) (hparts : Gathered base parts found.groups)
    (hparts' : Gathered base parts' found'.groups) (hnumbered : ∀ part ∈ parts, part.Numbered)
    (hperm : parts.Perm parts') : selectCharset codecs found = selectCharset codecs found' := by
  obtain ⟨hnormal, hgroups⟩ := Collected.mk.inj h
  have hextended : mapEach extendGroup found.groups = mapEach extendGroup found'.groups := by
    calc mapEach extendGroup found.groups
        = mapEach extendGroup (fill base parts (fill base [] found.groups)) := by
          rw [fill_fill, hparts.fill_eq]
      _ = mapEach extendGroup (fill base parts' (fill base [] found'.groups)) := by
          rw [hgroups, mapEach_extendGroup hnumbered hperm]
      _ = mapEach extendGroup found'.groups := by rw [fill_fill, hparts'.fill_eq]
  unfold selectCharset
  rw [hextended, hnormal]

/-- The parts of `base` behind the media type. -/
def partsOf (tables : UnicodeTables) (base : List Char) (rest : List (List Char)) : List Segment :=
  rest.filterMap (partOf tables base)

theorem partsOf_perm {rest rest' : List (List Char)}
    (h : Rearranged (isPart tables base) rest rest') :
    (partsOf tables base rest).Perm (partsOf tables base rest') := by
  have hfilter : ∀ fields : List (List Char), partsOf tables base fields =
      (fields.filter (isPart tables base)).filterMap (partOf tables base) := by
    intro fields
    rw [List.filterMap_filter, partsOf]
    refine List.filterMap_congr fun field _ => ?_
    cases hpart : partOf tables base field <;> simp [isPart, hpart]
  rw [hfilter, hfilter]
  exact h.perm.filterMap _

theorem charsetParameter_fields {contentType media : List Char} {rest : List (List Char)}
    (h : fields contentType = media :: rest) : charsetParameter codecs tables contentType =
      (rest.map (parameter tables)).foldlM (collectParameter tables)
        ⟨[((parameter tables media).1, unquote (parameter tables media).2)], []⟩ >>=
          selectCharset codecs := by
  unfold charsetParameter
  rw [parameters, h]
  rfl

theorem numbered_partsOf {rest : List (List Char)}
    (h : ∀ part ∈ partsOf tables base rest, part.number.isSome = true) :
    ∀ part ∈ partsOf tables base rest, part.Numbered := by
  intro part hpart
  obtain ⟨field, -, hfield⟩ := List.mem_filterMap.mp hpart
  exact numbered_of_partOf hfield (h part hpart)

theorem charsetParameter_rearranged {contentType contentType' media : List Char}
    {rest rest' : List (List Char)} (hfields : fields contentType = media :: rest)
    (hfields' : fields contentType' = media :: rest')
    (hnumbered : ∀ part ∈ partsOf tables base rest, part.number.isSome = true)
    (h : Rearranged (isPart tables base) rest rest') :
    charsetParameter codecs tables contentType' = charsetParameter codecs tables contentType := by
  rw [charsetParameter_fields hfields, charsetParameter_fields hfields']
  let start : Collected := ⟨[((parameter tables media).1, unquote (parameter tables media).2)], []⟩
  have hbesides : ((rest.map (parameter tables)).foldlM (collectParameter tables) start).map
        (Collected.besides base) =
      ((rest'.map (parameter tables)).foldlM (collectParameter tables) start).map
        (Collected.besides base) := foldlM_besides h.fixed rfl
  generalize hrun : (rest.map (parameter tables)).foldlM (collectParameter tables) start = run at *
  generalize hrun' :
    (rest'.map (parameter tables)).foldlM (collectParameter tables) start = run' at *
  cases run with
  | error e =>
      cases run' with
      | error e' => exact congrArg Except.error (Except.error.inj hbesides).symm
      | ok found' => cases hbesides
  | ok found =>
      cases run' with
      | error e' => cases hbesides
      | ok found' =>
          have hgathered : Gathered base ([] ++ partsOf tables base rest) found.groups :=
            foldlM_gathers hrun rfl
          have hgathered' : Gathered base ([] ++ partsOf tables base rest') found'.groups :=
            foldlM_gathers hrun' rfl
          exact (selectCharset_of_besides (Except.ok.inj hbesides) hgathered hgathered'
            (numbered_partsOf hnumbered) (partsOf_perm h)).symm

/-! ## The order of continuations -/

/-- **Continuations may stand in any order**, each closing its quotes: the charset is the same, and
the parts of a name are put together in the order of their numbers. -/
theorem continuation_order {contentType media : List Char} {rest rest' : List (List Char)}
    (hfields : fields contentType = media :: rest)
    (hnumbered : ∀ part ∈ partsOf tables base rest, part.number.isSome = true)
    (hdistinct : (partsOf tables base rest).Pairwise fun a b => a.ordinal ≠ b.ordinal)
    (hclosed : ∀ field ∈ rest, isPart tables base field = true → openQuote field = false)
    (h : Rearranged (isPart tables base) rest rest') :
    charsetParameter codecs tables (joinFields (media :: rest')) =
        charsetParameter codecs tables contentType ∧
      ∀ found, collect tables (parameters tables contentType) = .ok found →
        ∀ segments, (base, segments) ∈ found.groups → ∃ ordered : List Segment,
          ordered.Perm (partsOf tables base rest) ∧
            (ordered.Pairwise fun a b => a.ordinal < b.ordinal) ∧
              joinSegments segments = ordered.flatMap Segment.text := by
  have hnumbered' := numbered_partsOf hnumbered
  refine ⟨charsetParameter_rearranged hfields (fields_rearranged hfields h hclosed) hnumbered h, ?_⟩
  intro found hfound segments hsegments
  rw [parameters, hfields] at hfound
  have hgathered : Gathered base ([] ++ partsOf tables base rest) found.groups :=
    foldlM_gathers hfound rfl
  obtain rfl := hgathered.mem hsegments
  exact ⟨sortSegments (partsOf tables base rest), sortSegments_perm _,
    sortSegments_ordinals hnumbered' hdistinct, rfl⟩

/-- Tables that know ASCII only. -/
def asciiTables : UnicodeTables := ⟨Char.isAlphanum, List.map Text.asciiLower⟩

/-- A registry without codecs. -/
def noCodecs : ResponseCodecs :=
  ⟨fun _ _ => replacementCharacter, fun _ => none, fun _ => none, fun _ => none, fun _ => none,
    fun _ => none, true⟩

theorem continuation_order_utf8 :
    charsetParameter noCodecs asciiTables
        (joinFields ["text/html".toList, " charset*0=utf".toList, " charset*01=-8".toList]) =
      charsetParameter noCodecs asciiTables "text/html; charset*01=-8; charset*0=utf".toList := by
  have hrearranged : Rearranged (isPart asciiTables "charset".toList)
      [" charset*01=-8".toList, " charset*0=utf".toList]
      [" charset*0=utf".toList, " charset*01=-8".toList] :=
    ⟨by decide +kernel, by decide +kernel⟩
  exact (continuation_order (by decide +kernel) (by decide +kernel) (by decide +kernel)
    (by decide +kernel) hrearranged).1

/-- Plain parts that stand in the order of their numbers. -/
theorem charsetParameter_of_sorted {contentType : List Char} (media : List Char)
    (parts : List Segment) (hcollected : collect tables (parameters tables contentType) =
      .ok ⟨[(media, [])], [("charset".toList, parts)]⟩)
    (hmedia : isCharsetName media = false)
    (hnumbered : ∀ part ∈ parts, part.number.isSome = true)
    (hplain : ∀ part ∈ parts, part.encoded = false)
    (hsorted : parts.Pairwise fun a b => a.key ≤ b.key) :
    charsetParameter codecs tables contentType = .ok (asciiLabel (parts.flatMap Segment.text)) := by
  have hsort : sortSegments parts = parts :=
    List.mergeSort_of_pairwise (hsorted.imp fun hle => decide_eq_true hle)
  have hany : parts.any (·.encoded) = false := by
    rw [List.any_eq_false]
    exact fun part hpart => by simp [hplain part hpart]
  have hextend : extendGroup ("charset".toList, parts) =
      .ok ⟨"charset".toList, none, parts.flatMap Segment.text⟩ := by
    unfold extendGroup
    simp only [checkNumbers_numbered hnumbered, hany, joinSegments, hsort]
    rfl
  unfold charsetParameter
  rw [hcollected]
  simp only [bind, Except.bind, selectCharset, mapEach, hextend, List.find?_cons, hmedia,
    List.find?_nil]
  rfl

/-- A part that leaves a quote open takes in the part behind it. -/
theorem continuation_order_open_quote :
    ¬ ∀ (codecs : ResponseCodecs) (tables : UnicodeTables) (contentType media : List Char)
      (rest rest' : List (List Char)), fields contentType = media :: rest →
      (∀ part ∈ partsOf tables "charset".toList rest, part.number.isSome = true) →
      ((partsOf tables "charset".toList rest).Pairwise fun a b => a.ordinal ≠ b.ordinal) →
      Rearranged (isPart tables "charset".toList) rest rest' →
      charsetParameter codecs tables (joinFields (media :: rest')) =
        charsetParameter codecs tables contentType := by
  intro hall
  have hsame := hall noCodecs asciiTables "text/html; charset*0=utf; charset*1=\"-8".toList
    "text/html".toList [" charset*0=utf".toList, " charset*1=\"-8".toList]
    [" charset*1=\"-8".toList, " charset*0=utf".toList] (by decide +kernel) (by decide +kernel)
    (by decide +kernel) ⟨by decide +kernel, by decide +kernel⟩
  have hleft : charsetParameter noCodecs asciiTables
      (joinFields ["text/html".toList, " charset*1=\"-8".toList, " charset*0=utf".toList]) =
        .ok (asciiLabel "\"-8; charset*0=utf".toList) :=
    charsetParameter_of_sorted "text/html".toList
      [⟨some ['1'], "\"-8; charset*0=utf".toList, false⟩]
      (by decide +kernel) (by decide +kernel) (by decide +kernel) (by decide +kernel)
      (by decide +kernel)
  have hright : charsetParameter noCodecs asciiTables
      "text/html; charset*0=utf; charset*1=\"-8".toList = .ok (asciiLabel "utf\"-8".toList) :=
    charsetParameter_of_sorted "text/html".toList
      [⟨some ['0'], "utf".toList, false⟩, ⟨some ['1'], "\"-8".toList, false⟩]
      (by decide +kernel) (by decide +kernel) (by decide +kernel) (by decide +kernel)
      (by decide +kernel)
  rw [hleft, hright] at hsame
  exact absurd (Except.ok.inj hsame) (by decide +kernel)

end Marty.ResponseText.ContentType
