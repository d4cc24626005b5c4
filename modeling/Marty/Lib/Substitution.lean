import Mathlib.Data.List.Find
import Mathlib.Data.List.Infix
import Mathlib.Data.List.Nodup

/-!
# Replacing patterns in a text

Texts over any alphabet, a pattern that is replaced wherever it stands, and a table of patterns
that are replaced at once.  Patterns that cannot overlap are replaced at once whatever the
order of the table; replaced one after the other they give the same texts exactly when no
value that is put in place meets a later pattern.

## Main definitions

* `substitute` — every occurrence of the patterns of a table, at once.
* `replace`, `replaceEach` — every occurrence of one pattern, and the patterns of a table one
  after the other.
* `Apart`, `Family` — patterns that do not overlap and are no part of each other.
* `Inert`, `ValuesInert` — a value that a table leaves as it is wherever the value stands, and
  a table whose values are left so by the entries behind them.
-/

namespace Marty.Lib.Substitution

variable {α : Type*}

abbrev Table (α : Type*) := List (List α × List α)

/-! ## Parts of texts -/

/-- What stands at the front of two texts lies in the first or goes on into the second. -/
theorem prefix_append_cases {p left right : List α} (h : p <+: left ++ right) :
    p <+: left ∨ ∃ t, t ≠ [] ∧ p = left ++ t ∧ t <+: right := by
  rcases List.prefix_or_prefix_of_prefix h (List.prefix_append left right) with hp | ⟨t, rfl⟩
  · exact .inl hp
  · by_cases ht : t = []
    · exact .inl (by simp [ht])
    · exact .inr ⟨t, ht, rfl, (List.prefix_append_right_inj left).mp h⟩

/-- No pattern of the table stands across the cut between two texts. -/
def Uncut (table : Table α) (left right : List α) : Prop :=
  ∀ entry ∈ table, ∀ s t, s ≠ [] → t ≠ [] → entry.1 = s ++ t → s <:+ left → ¬ t <+: right

theorem Uncut.mono {table : Table α} {left left' right : List α} (h : Uncut table left right)
    (hleft : left' <:+ left) : Uncut table left' right := by
  intro entry hentry s t hs ht heq hsuffix
  exact h entry hentry s t hs ht heq (hsuffix.trans hleft)

/-! ## Patterns that do not overlap -/

/-- Patterns that do not overlap, and the first of which is no part of the second. -/
structure Apart (p q : List α) : Prop where
  overlap : ∀ s, s ≠ [] → s <:+ p → s <+: q → p = q ∧ s = p
  part : p <:+: q → p = q

/-- Patterns of which no two overlap and none is a part of another one. -/
structure Family (patterns : List (List α)) : Prop where
  nonempty : ∀ p ∈ patterns, p ≠ []
  apart : ∀ p ∈ patterns, ∀ q ∈ patterns, Apart p q

theorem Family.subset {patterns patterns' : List (List α)} (h : Family patterns)
    (hsubset : patterns' ⊆ patterns) : Family patterns' where
  nonempty p hp := h.nonempty p (hsubset hp)
  apart p hp q hq := h.apart p (hsubset hp) q (hsubset hq)

/-- A pattern within a text around another one lies beside it. -/
theorem Family.infix_cases {patterns : List (List α)} (hfamily : Family patterns)
    {p q : List α} (hp : p ∈ patterns) (hq : q ∈ patterns) (hne : q ≠ p) {left right : List α}
    (h : q <:+: left ++ p ++ right) : q <:+: left ∨ q <:+: right := by
  have hpq := hfamily.apart p hp q hq
  have hqp := hfamily.apart q hq p hp
  obtain ⟨before, after, h⟩ := h
  rw [List.append_assoc, List.append_assoc] at h
  rcases List.append_eq_append_iff.mp h with ⟨d, hleft, hq'⟩ | ⟨d, hbefore, hp'⟩
  · -- it starts on the left
    rcases List.append_eq_append_iff.mp hq' with ⟨e, hd, hafter⟩ | ⟨e, hqd, hright⟩
    · exact .inl ⟨before, e, by rw [hleft, hd, List.append_assoc]⟩
    · by_cases he : e = []
      · exact .inl ⟨before, [], by rw [hleft, hqd, he]; simp⟩
      · -- and would go on into the other pattern
        exfalso
        have hfront : e <+: p ++ right := ⟨after, hright.symm⟩
        rcases prefix_append_cases hfront with hpart | ⟨t, -, het, -⟩
        · exact hne (hqp.overlap e he ⟨d, hqd.symm⟩ hpart).1
        · exact hne (hpq.part ⟨d, t, by rw [hqd, het, List.append_assoc]⟩).symm
  · rcases List.append_eq_append_iff.mp hp' with ⟨e, hd, hright⟩ | ⟨e, hpe, hqr⟩
    · exact .inr ⟨e, after, by rw [hright, List.append_assoc]⟩
    · by_cases he : e = []
      · exact .inr ⟨[], after, by simpa [he] using hqr⟩
      · -- it would start within the other pattern
        exfalso
        have hfront : q <+: e ++ right := ⟨after, hqr⟩
        rcases prefix_append_cases hfront with hpart | ⟨t, -, hqe, -⟩
        · have hinner : q <:+: p := by
            rw [hpe]
            exact hpart.isInfix.trans (List.suffix_append d e).isInfix
          exact hne (hqp.part hinner)
        · exact hne (hpq.overlap e he ⟨d, hpe.symm⟩ ⟨t, hqe.symm⟩).1.symm

/-! ## Tables of patterns that do not overlap -/

/-- The patterns of the table are different and do not overlap. -/
structure Separated (table : Table α) : Prop where
  family : Family (table.map Prod.fst)
  nodup : (table.map Prod.fst).Nodup

section

variable {table : Table α}

theorem Separated.nonempty (h : Separated table) : ∀ entry ∈ table, entry.1 ≠ [] := by
  intro entry hentry
  exact h.family.nonempty _ (List.mem_map_of_mem hentry)

theorem Separated.apart (h : Separated table) {entry entry' : List α × List α}
    (hentry : entry ∈ table) (hentry' : entry' ∈ table) : Apart entry.1 entry'.1 :=
  h.family.apart _ (List.mem_map_of_mem hentry) _ (List.mem_map_of_mem hentry')

theorem Separated.inj (h : Separated table) {entry entry' : List α × List α}
    (hentry : entry ∈ table) (hentry' : entry' ∈ table) (heq : entry.1 = entry'.1) :
    entry = entry' :=
  List.inj_on_of_nodup_map h.nodup hentry hentry' heq

theorem Separated.sublist (h : Separated table) {table' : Table α}
    (hsub : table'.Sublist table) : Separated table' where
  family := h.family.subset (hsub.map Prod.fst).subset
  nodup := h.nodup.sublist (hsub.map Prod.fst)

theorem Separated.head {first : List α × List α} (h : Separated (first :: table)) :
    Separated [first] := h.sublist (List.Sublist.cons_cons first (List.nil_sublist table))

theorem Separated.tail {first : List α × List α} (h : Separated (first :: table)) :
    Separated table := h.sublist (List.sublist_cons_self first table)

/-- No pattern of an earlier entry stands in a text that is made of the pattern of an entry and
of parts of a later one. -/
theorem Separated.avoids_around {before : Table α} {pattern value : List α}
    (h : Separated (before ++ (pattern, value) :: table)) {entry : List α × List α}
    (hentry : entry ∈ table) {left right : List α} (hleft : left <:+: entry.1)
    (hright : right <:+: entry.1) :
    ∀ earlier ∈ before, ¬ earlier.1 <:+: left ++ pattern ++ right := by
  intro earlier hearlier hpart
  have hmem : earlier ∈ before ++ (pattern, value) :: table := List.mem_append_left _ hearlier
  have hhere : (pattern, value) ∈ before ++ (pattern, value) :: table := by simp
  have hlater : entry ∈ before ++ (pattern, value) :: table := by simp [hentry]
  have hnodup := h.nodup
  rw [List.map_append, List.map_cons, List.nodup_append] at hnodup
  have hne : earlier.1 ≠ pattern :=
    hnodup.2.2 _ (List.mem_map_of_mem hearlier) _ List.mem_cons_self
  have hne' : earlier.1 ≠ entry.1 := hnodup.2.2 _ (List.mem_map_of_mem hearlier) _
    (List.mem_cons_of_mem _ (List.mem_map_of_mem hentry))
  rcases h.family.infix_cases (List.mem_map_of_mem hhere) (List.mem_map_of_mem hmem) hne hpart
    with hpart | hpart
  · exact hne' ((h.apart hmem hlater).part (hpart.trans hleft))
  · exact hne' ((h.apart hmem hlater).part (hpart.trans hright))

end

/-! ## Values that meet no pattern -/

/-- The pattern stands across a border of the value, in some surroundings. -/
inductive Meets (value pattern : List α) : Prop
  | atEnd (s t : List α) : s ≠ [] → t ≠ [] → pattern = s ++ t → s <:+ value → Meets value pattern
  | atStart (s t : List α) : s ≠ [] → t ≠ [] → pattern = s ++ t → t <+: value →
      Meets value pattern
  | around (s t : List α) : s ≠ [] → t ≠ [] → pattern = s ++ value ++ t → Meets value pattern

variable [DecidableEq α]

/-! ## Definitions -/

/-- The first entry whose pattern stands at the front of the text. -/
def entryAt (table : Table α) (text : List α) : Option (List α × List α) :=
  table.find? fun entry => entry.1.isPrefixOf text

/-- The text behind its first `skip` characters, with the patterns of the table replaced. -/
def substituteFrom (table : Table α) : Nat → List α → List α
  | _, [] => []
  | skip + 1, _ :: text => substituteFrom table skip text
  | 0, c :: text =>
      match entryAt table (c :: text) with
      | some entry => entry.2 ++ substituteFrom table (entry.1.length - 1) text
      | none => c :: substituteFrom table 0 text

/-- The patterns of the table are replaced at once, from the left. -/
def substitute (table : Table α) (text : List α) : List α := substituteFrom table 0 text

/-- Every occurrence of a pattern that is not empty is replaced, from the left. -/
def replace (pattern value text : List α) : List α := substitute [(pattern, value)] text

/-- The patterns of the table are replaced one after the other. -/
def replaceEach (table : Table α) (text : List α) : List α :=
  table.foldl (fun text entry => replace entry.1 entry.2 text) text

/-! ## One step of a substitution -/

section Steps

variable {table : Table α}

theorem substituteFrom_eq (skip : Nat) (text : List α) :
    substituteFrom table skip text = substitute table (text.drop skip) := by
  induction text generalizing skip with
  | nil => cases skip <;> simp [substitute, substituteFrom]
  | cons c text ih =>
      cases skip with
      | zero => rfl
      | succ skip => rw [substituteFrom, ih skip, List.drop_succ_cons]

@[simp] theorem substitute_nil : substitute table [] = [] := rfl

theorem substitute_copy {c : α} {text : List α} (h : entryAt table (c :: text) = none) :
    substitute table (c :: text) = c :: substitute table text := by
  rw [substitute, substituteFrom, h]
  rfl

theorem substitute_entry {entry : List α × List α} {text : List α}
    (h : entryAt table (entry.1 ++ text) = some entry) (hne : entry.1 ≠ []) :
    substitute table (entry.1 ++ text) = entry.2 ++ substitute table text := by
  obtain ⟨c, pattern, hcons⟩ := List.exists_cons_of_ne_nil hne
  rw [hcons, List.cons_append] at h ⊢
  rw [substitute, substituteFrom, h]
  dsimp only
  rw [substituteFrom_eq, hcons, List.length_cons, Nat.add_sub_cancel, List.drop_left]

theorem entryAt_eq_none {text : List α} :
    entryAt table text = none ↔ ∀ entry ∈ table, ¬ entry.1 <+: text := by
  simp [entryAt]

theorem entryAt_eq_some {text : List α} {entry : List α × List α}
    (h : entryAt table text = some entry) : entry ∈ table ∧ entry.1 <+: text :=
  ⟨List.mem_of_find?_eq_some h, by simpa using List.find?_some h⟩

/-- Texts by their first character, when it is copied, or their first pattern. -/
theorem text_induct (hne : ∀ entry ∈ table, entry.1 ≠ []) {motive : List α → Prop}
    (nil : motive [])
    (copy : ∀ c text, entryAt table (c :: text) = none → motive text → motive (c :: text))
    (entry : ∀ (entry : List α × List α) text, entryAt table (entry.1 ++ text) = some entry →
      motive text → motive (entry.1 ++ text)) (text : List α) : motive text := by
  induction hlength : text.length using Nat.strong_induction_on generalizing text with
  | _ n ih =>
      cases text with
      | nil => exact nil
      | cons c text =>
          cases hfound : entryAt table (c :: text) with
          | none => exact copy c text hfound (ih _ (by simp [← hlength]) text rfl)
          | some found =>
              obtain ⟨hmem, rest, hrest⟩ := entryAt_eq_some hfound
              rw [← hrest] at hfound hlength ⊢
              have hpos : 0 < found.1.length := List.length_pos_of_ne_nil (hne found hmem)
              rw [List.length_append] at hlength
              exact entry found rest hfound (ih _ (by omega) rest rfl)

/-- A text without the patterns stays as it is. -/
theorem substitute_of_avoids {text : List α} (h : ∀ entry ∈ table, ¬ entry.1 <:+: text) :
    substitute table text = text := by
  induction text with
  | nil => rfl
  | cons c text ih =>
      have hnone : entryAt table (c :: text) = none := by
        rw [entryAt_eq_none]
        intro entry hentry hfront
        exact h entry hentry hfront.isInfix
      rw [substitute_copy hnone, ih]
      intro entry hentry hpart
      exact h entry hentry (hpart.trans (List.suffix_cons c text).isInfix)

theorem entryAt_append {left right : List α} (h : Uncut table left right) (hne : left ≠ []) :
    entryAt table (left ++ right) = entryAt table left := by
  have hsame : ∀ entry ∈ table,
      entry.1.isPrefixOf (left ++ right) = entry.1.isPrefixOf left := by
    intro entry hentry
    rw [Bool.eq_iff_iff, List.isPrefixOf_iff_prefix, List.isPrefixOf_iff_prefix]
    constructor
    · intro hfront
      rcases prefix_append_cases hfront with hleft | ⟨t, ht, heq, hright⟩
      · exact hleft
      · exact absurd hright (h entry hentry left t hne ht heq List.suffix_rfl)
    · intro hleft
      exact hleft.trans (List.prefix_append left right)
  exact List.find?_congr hsame

/-- Texts without a pattern across their cut are treated on their own. -/
theorem substitute_append (hne : ∀ entry ∈ table, entry.1 ≠ []) {left right : List α}
    (h : Uncut table left right) :
    substitute table (left ++ right) = substitute table left ++ substitute table right := by
  induction left using text_induct hne with
  | nil => rfl
  | copy c left hnone ih =>
      have hcopy := (entryAt_append h (List.cons_ne_nil c left)).trans hnone
      rw [List.cons_append] at hcopy ⊢
      rw [substitute_copy hcopy, substitute_copy hnone, ih (h.mono (List.suffix_cons c left)),
        List.cons_append]
  | entry entry left hsome ih =>
      have hentry := hne entry (entryAt_eq_some hsome).1
      have hfound := (entryAt_append h (by simp [hentry])).trans hsome
      rw [List.append_assoc] at hfound ⊢
      rw [substitute_entry hfound hentry, substitute_entry hsome hentry,
        ih (h.mono (List.suffix_append entry.1 left)), List.append_assoc]

end Steps

/-! ## Patterns in place -/

section Separated

variable {table : Table α} {entry : List α × List α}

/-- A pattern is found where it stands. -/
theorem Separated.entryAt_append (h : Separated table) (hentry : entry ∈ table)
    (text : List α) : entryAt table (entry.1 ++ text) = some entry := by
  cases hfound : entryAt table (entry.1 ++ text) with
  | none => exact absurd (List.prefix_append _ _) (entryAt_eq_none.mp hfound entry hentry)
  | some found =>
      obtain ⟨hmem, hfront⟩ := entryAt_eq_some hfound
      have heq : found.1 = entry.1 := by
        rcases prefix_append_cases hfront with hpart | ⟨t, -, ht, -⟩
        · exact (h.apart hmem hentry).part hpart.isInfix
        · exact ((h.apart hentry hmem).part ⟨[], t, by rw [ht]; rfl⟩).symm
      rw [h.inj hmem hentry heq]

/-- A pattern is replaced where it stands. -/
theorem Separated.substitute_around (h : Separated table) (hentry : entry ∈ table)
    (left right : List α) :
    substitute table (left ++ entry.1 ++ right) =
      substitute table left ++ entry.2 ++ substitute table right := by
  have hfirst : Uncut table left (entry.1 ++ right) := by
    intro other hother s t hs ht heq _ hfront
    rcases prefix_append_cases hfront with hpart | ⟨u, -, hu, -⟩
    · have hwhole := (h.apart hother hentry).overlap t ht ⟨s, heq.symm⟩ hpart
      rw [hwhole.2] at heq
      exact hs (List.self_eq_append_left.mp heq)
    · have hsame := (h.apart hentry hother).part ⟨s, u, by rw [heq, hu, List.append_assoc]⟩
      have hlength := congrArg List.length heq
      rw [hu, ← hsame, List.length_append, List.length_append] at hlength
      exact hs (List.length_eq_zero_iff.mp (by omega))
  rw [List.append_assoc, substitute_append h.nonempty hfirst,
    substitute_entry (h.entryAt_append hentry right) (h.nonempty entry hentry),
    List.append_assoc]

/-- The front of a pattern, without its end, is copied behind every text. -/
theorem Separated.substitute_front (h : Separated table) (hentry : entry ∈ table)
    {front rest : List α} (heq : entry.1 = front ++ rest) (hrest : rest ≠ []) (text : List α) :
    substitute table (text ++ front) = substitute table text ++ front := by
  have havoids : ∀ other ∈ table, ¬ other.1 <:+: front := by
    intro other hother hpart
    have hwhole := (h.apart hother hentry).part
      (hpart.trans (heq ▸ (List.prefix_append front rest).isInfix))
    have hlength := hpart.length_le
    rw [hwhole, heq, List.length_append] at hlength
    exact hrest (List.length_eq_zero_iff.mp (by omega))
  have huncut : Uncut table text front := by
    intro other hother s t hs ht hother' _ hfront
    have hpart : t <+: entry.1 := heq ▸ hfront.trans (List.prefix_append front rest)
    have hwhole := (h.apart hother hentry).overlap t ht ⟨s, hother'.symm⟩ hpart
    rw [hwhole.2] at hother'
    exact hs (List.self_eq_append_left.mp hother')
  rw [substitute_append h.nonempty huncut, substitute_of_avoids havoids]

/-- The end of a pattern, without its front, is copied before every text. -/
theorem Separated.substitute_rest (h : Separated table) (hentry : entry ∈ table)
    {front rest : List α} (heq : entry.1 = front ++ rest) (hfront : front ≠ [])
    (text : List α) :
    substitute table (rest ++ text) = rest ++ substitute table text := by
  have havoids : ∀ other ∈ table, ¬ other.1 <:+: rest := by
    intro other hother hpart
    have hwhole := (h.apart hother hentry).part
      (hpart.trans (heq ▸ (List.suffix_append front rest).isInfix))
    have hlength := hpart.length_le
    rw [hwhole, heq, List.length_append] at hlength
    exact hfront (List.length_eq_zero_iff.mp (by omega))
  have huncut : Uncut table rest text := by
    intro other hother s t hs ht hother' hend _
    have hpart : s <:+ entry.1 := heq ▸ hend.trans (List.suffix_append front rest)
    have hwhole := (h.apart hentry hother).overlap s hs hpart ⟨t, hother'.symm⟩
    rw [hwhole.2, hwhole.1] at hother'
    exact ht (List.self_eq_append_right.mp hother')
  rw [substitute_append h.nonempty huncut, substitute_of_avoids havoids]

/-- **The order of the table plays no part.** -/
theorem Separated.substitute_perm (h : Separated table) {table' : Table α}
    (hperm : table.Perm table') (text : List α) :
    substitute table text = substitute table' text := by
  have h' : Separated table' := {
    family := h.family.subset (hperm.map Prod.fst).symm.subset
    nodup := (hperm.map Prod.fst).nodup h.nodup }
  induction text using text_induct h.nonempty with
  | nil => rfl
  | copy c text hnone ih =>
      have hnone' : entryAt table' (c :: text) = none := by
        rw [entryAt_eq_none] at hnone ⊢
        intro other hother
        exact hnone other (hperm.mem_iff.mpr hother)
      rw [substitute_copy hnone, substitute_copy hnone', ih]
  | entry entry text hsome ih =>
      have hentry := (entryAt_eq_some hsome).1
      have hentry' := hperm.mem_iff.mp hentry
      rw [substitute_entry hsome (h.nonempty entry hentry),
        substitute_entry (h'.entryAt_append hentry' text) (h.nonempty entry hentry), ih]

end Separated

/-! ## Inert values -/

/-- The table leaves the value as it is, and no pattern that it changes meets the value. -/
structure Inert (table : Table α) (value : List α) : Prop where
  kept : substitute table value = value
  apart : ∀ entry ∈ table, entry.2 ≠ entry.1 → ¬ Meets value entry.1

/-- Every value of the table is left as it is by the entries behind it. -/
def ValuesInert : Table α → Prop
  | [] => True
  | (_, value) :: table => Inert table value ∧ ValuesInert table

/-- The entries that change their pattern. -/
def live (table : Table α) : Table α := table.filter fun entry => entry.2 ≠ entry.1

section Values

variable {table : Table α}

/-- An entry that puts its pattern in its own place changes nothing. -/
theorem Separated.substitute_live (h : Separated table) (text : List α) :
    substitute (live table) text = substitute table text := by
  have hlive : Separated (live table) := h.sublist List.filter_sublist
  induction text using text_induct h.nonempty with
  | nil => rfl
  | copy c text hnone ih =>
      have hnone' : entryAt (live table) (c :: text) = none := by
        rw [entryAt_eq_none] at hnone ⊢
        intro entry hentry
        exact hnone entry (List.mem_of_mem_filter hentry)
      rw [substitute_copy hnone, substitute_copy hnone', ih]
  | entry entry text hsome ih =>
      have hentry := (entryAt_eq_some hsome).1
      have hne := h.nonempty entry hentry
      rw [substitute_entry hsome hne]
      by_cases hchanged : entry.2 ≠ entry.1
      · have hmem : entry ∈ live table := List.mem_filter.mpr ⟨hentry, by simpa using hchanged⟩
        rw [substitute_entry (hlive.entryAt_append hmem text) hne, ih]
      · -- the pattern is copied
        have hsame : entry.2 = entry.1 := not_not.mp hchanged
        have hother : ∀ other ∈ live table, other.1 ≠ entry.1 := by
          intro other hother heq
          have hkept := List.mem_filter.mp hother
          rw [h.inj hkept.1 hentry heq, hsame] at hkept
          simp at hkept
        have havoids : ∀ other ∈ live table, ¬ other.1 <:+: entry.1 := by
          intro other hmem hpart
          exact hother other hmem ((h.apart (List.mem_of_mem_filter hmem) hentry).part hpart)
        have huncut : Uncut (live table) entry.1 text := by
          intro other hmem s t hs ht heq hend _
          have hwhole := (h.apart hentry (List.mem_of_mem_filter hmem)).overlap s hs hend
            ⟨t, heq.symm⟩
          exact hother other hmem hwhole.1.symm
        rw [substitute_append hlive.nonempty huncut, substitute_of_avoids havoids, ih, hsame]

/-- **An inert value** is copied in every surroundings. -/
theorem Inert.substitute_around (h : Separated table) {value : List α}
    (hinert : Inert table value) (left right : List α) :
    substitute table (left ++ value ++ right) =
      substitute table left ++ value ++ substitute table right := by
  have hlive : Separated (live table) := h.sublist List.filter_sublist
  have hmeets : ∀ entry ∈ live table, ¬ Meets value entry.1 := by
    intro entry hentry
    obtain ⟨hmem, hchanged⟩ := List.mem_filter.mp hentry
    exact hinert.apart entry hmem (by simpa using hchanged)
  have hend : Uncut (live table) value right := by
    intro entry hentry s t hs ht heq hsuffix _
    exact hmeets entry hentry (.atEnd s t hs ht heq hsuffix)
  have hstart : Uncut (live table) left (value ++ right) := by
    intro entry hentry s t hs ht heq _ hfront
    rcases prefix_append_cases hfront with hpart | ⟨u, hu, htu, -⟩
    · exact hmeets entry hentry (.atStart s t hs ht heq hpart)
    · exact hmeets entry hentry (.around s u hs hu (by rw [heq, htu, List.append_assoc]))
  have hkept : substitute (live table) value = value := by
    rw [h.substitute_live, hinert.kept]
  simp only [← h.substitute_live]
  rw [List.append_assoc, substitute_append hlive.nonempty hstart,
    substitute_append hlive.nonempty hend, hkept, List.append_assoc]

end Values

/-! ## One after the other -/

section Each

variable {table : Table α} {pattern value : List α}

theorem Separated.replace_around (h : Separated ((pattern, value) :: table))
    (left right : List α) :
    replace pattern value (left ++ pattern ++ right) =
      replace pattern value left ++ value ++ replace pattern value right := by
  have hmem : (pattern, value) ∈ [(pattern, value)] := List.mem_cons_self
  exact h.head.substitute_around hmem left right

theorem replace_of_avoids {text : List α} (h : ¬ pattern <:+: text) :
    replace pattern value text = text := by
  apply substitute_of_avoids
  intro entry hentry
  rw [List.mem_singleton.mp hentry]
  exact h

/-- A text without the pattern of an entry is substituted without the entry. -/
theorem substitute_cons_of_avoids (hne : ∀ entry ∈ table, entry.1 ≠ []) {text : List α}
    (h : ¬ pattern <:+: text) :
    substitute ((pattern, value) :: table) text = substitute table text := by
  have hskip : ∀ text : List α, ¬ pattern <:+: text →
      entryAt ((pattern, value) :: table) text = entryAt table text := by
    intro text h
    have hfront : pattern.isPrefixOf text = false := by
      rw [Bool.eq_false_iff, ne_eq, List.isPrefixOf_iff_prefix]
      exact fun hfront => h hfront.isInfix
    rw [entryAt, entryAt, List.find?_cons, hfront]
  induction text using text_induct hne with
  | nil => rfl
  | copy c text hnone ih =>
      have hrest : ¬ pattern <:+: text := fun hpart =>
        h (hpart.trans (List.suffix_cons c text).isInfix)
      rw [substitute_copy hnone, substitute_copy ((hskip _ h).trans hnone), ih hrest]
  | entry entry text hsome ih =>
      have hrest : ¬ pattern <:+: text := fun hpart =>
        h (hpart.trans (List.suffix_append entry.1 text).isInfix)
      have hentry := hne entry (entryAt_eq_some hsome).1
      rw [substitute_entry hsome hentry, substitute_entry ((hskip _ h).trans hsome) hentry,
        ih hrest]

/-- An inert value may be put in place before the other entries are. -/
theorem substitute_replace (h : Separated ((pattern, value) :: table))
    (hinert : Inert table value) (text : List α) :
    substitute table (replace pattern value text) =
      substitute ((pattern, value) :: table) text := by
  induction hlength : text.length using Nat.strong_induction_on generalizing text with
  | _ n ih =>
      by_cases hpart : pattern <:+: text
      · obtain ⟨left, right, rfl⟩ := hpart
        have hpos : 0 < pattern.length :=
          List.length_pos_of_ne_nil (h.nonempty (pattern, value) List.mem_cons_self)
        simp only [List.length_append] at hlength
        have hmem : (pattern, value) ∈ (pattern, value) :: table := List.mem_cons_self
        have hwhole := h.substitute_around hmem left right
        rw [h.replace_around, hinert.substitute_around h.tail, hwhole,
          ih left.length (by omega) left rfl, ih right.length (by omega) right rfl]
      · rw [replace_of_avoids hpart, substitute_cons_of_avoids h.tail.nonempty hpart]

end Each

/-! ### Which values may be put in place -/

section Exact

variable {before table : Table α} {pattern value : List α}

/-- A value is inert when the texts without earlier patterns show it. -/
theorem inert_of_substitute_replace (h : Separated (before ++ (pattern, value) :: table))
    (hshown : ∀ text, (∀ earlier ∈ before, ¬ earlier.1 <:+: text) →
      substitute table (replace pattern value text) =
        substitute ((pattern, value) :: table) text) : Inert table value := by
  have hhead : Separated ((pattern, value) :: table) := h.sublist (List.sublist_append_right _ _)
  have hpattern : (pattern, value) ∈ (pattern, value) :: table := List.mem_cons_self
  have hkept : substitute table value = value := by
    have hnone : ∀ earlier ∈ before, ¬ earlier.1 <:+: pattern := by
      intro earlier hearlier hpart
      have hmem : earlier ∈ before ++ (pattern, value) :: table := List.mem_append_left _ hearlier
      have hhere : (pattern, value) ∈ before ++ (pattern, value) :: table := by simp
      have hnodup := h.nodup
      rw [List.map_append, List.map_cons, List.nodup_append] at hnodup
      exact hnodup.2.2 _ (List.mem_map_of_mem hearlier) _ List.mem_cons_self
        ((h.apart hmem hhere).part hpart)
    have hrun := hshown pattern hnone
    have hreplaced := hhead.replace_around [] []
    have hwhole := hhead.substitute_around hpattern [] []
    simp only [List.nil_append, List.append_nil, substitute_nil, replace] at hreplaced hwhole hrun
    rw [hreplaced, hwhole] at hrun
    exact hrun
  refine ⟨hkept, fun entry hentry hchanged hmeets => hchanged ?_⟩
  have hmem : entry ∈ (pattern, value) :: table := List.mem_cons_of_mem _ hentry
  have hne : pattern ≠ entry.1 := by
    intro heq
    have hnodup := hhead.nodup
    rw [List.map_cons, List.nodup_cons] at hnodup
    have hmap : entry.1 ∈ table.map Prod.fst := List.mem_map_of_mem hentry
    rw [← heq] at hmap
    exact hnodup.1 hmap
  -- the parts of the later pattern are left as they are
  have hpart : ∀ part, part <:+: entry.1 → replace pattern value part = part := by
    intro part hpart
    apply replace_of_avoids
    intro hinner
    exact hne ((hhead.apart hpattern hmem).part (hinner.trans hpart))
  cases hmeets with
  | atEnd s t hs ht heq hsuffix =>
      obtain ⟨u, rfl⟩ := hsuffix
      have ht' : t <:+: entry.1 := heq ▸ (List.suffix_append s t).isInfix
      have hrun := hshown ([] ++ pattern ++ t)
        (h.avoids_around hentry (List.nil_infix) ht')
      rw [hhead.replace_around, hpart t ht', hhead.substitute_around hpattern] at hrun
      have hrest := hhead.substitute_rest hmem heq hs []
      have hu := hhead.tail.substitute_front hentry heq ht u
      rw [hkept] at hu
      have hlast := hhead.tail.substitute_around hentry u []
      simp only [List.nil_append, List.append_nil, substitute_nil, replace] at hrun hrest hlast
      rw [List.append_assoc u s t, ← heq, hlast, hrest, List.append_assoc u s t, ← heq,
        ← List.append_cancel_right hu] at hrun
      exact List.append_cancel_left hrun
  | atStart s t hs ht heq hfirst =>
      obtain ⟨u, rfl⟩ := hfirst
      have hs' : s <:+: entry.1 := heq ▸ (List.prefix_append s t).isInfix
      have hrun := hshown (s ++ pattern ++ [])
        (h.avoids_around hentry hs' (List.nil_infix))
      rw [hhead.replace_around, hpart s hs', hhead.substitute_around hpattern] at hrun
      have hfront := hhead.substitute_front hmem heq ht []
      have hu := hhead.tail.substitute_rest hentry heq hs u
      rw [hkept] at hu
      have hfirst := hhead.tail.substitute_around hentry [] u
      simp only [List.nil_append, List.append_nil, substitute_nil, replace] at hrun hfront hfirst
      rw [← List.append_assoc s t u, ← heq, hfirst, hfront, ← List.append_assoc s t u, ← heq,
        ← List.append_cancel_left hu] at hrun
      exact List.append_cancel_right hrun
  | around s t hs ht heq =>
      have hs' : s <:+: entry.1 := by
        rw [heq, List.append_assoc]
        exact (List.prefix_append s _).isInfix
      have ht' : t <:+: entry.1 := heq ▸ (List.suffix_append _ t).isInfix
      have hrun := hshown (s ++ pattern ++ t) (h.avoids_around hentry hs' ht')
      rw [hhead.replace_around, hpart s hs', hpart t ht',
        hhead.substitute_around hpattern] at hrun
      have hfront := hhead.substitute_front hmem (heq.trans (List.append_assoc s value t))
        (by simp [ht]) []
      have hrest := hhead.substitute_rest hmem heq (by simp [hs]) []
      have hwhole := hhead.tail.substitute_around hentry [] []
      simp only [List.nil_append, List.append_nil, substitute_nil] at hfront hrest hwhole
      rw [← heq, hwhole, hfront, hrest, ← heq] at hrun
      exact hrun

theorem replaceEach_eq_substitute (h : Separated table) (hinert : ValuesInert table)
    (text : List α) : replaceEach table text = substitute table text := by
  induction table generalizing text with
  | nil =>
      rw [substitute_of_avoids (by simp)]
      rfl
  | cons entry table ih =>
      rw [replaceEach, List.foldl_cons, ← substitute_replace h hinert.1]
      exact ih h.tail hinert.2 _

theorem valuesInert_of_replaceEach (h : Separated (before ++ table))
    (hshown : ∀ text, (∀ earlier ∈ before, ¬ earlier.1 <:+: text) →
      replaceEach table text = substitute table text) : ValuesInert table := by
  induction table generalizing before with
  | nil => trivial
  | cons entry table ih =>
      obtain ⟨pattern, value⟩ := entry
      have hhead : Separated ((pattern, value) :: table) :=
        h.sublist (List.sublist_append_right _ _)
      have htail : ValuesInert table := by
        have hbefore : Separated ((before ++ [(pattern, value)]) ++ table) := by simpa using h
        refine ih hbefore fun text havoids => ?_
        have hpattern : ¬ pattern <:+: text := havoids (pattern, value) (by simp)
        have hrun := hshown text fun earlier hearlier =>
          havoids earlier (List.mem_append_left _ hearlier)
        rw [substitute_cons_of_avoids hhead.tail.nonempty hpattern, replaceEach,
          List.foldl_cons, replace_of_avoids hpattern] at hrun
        exact hrun
      refine ⟨inert_of_substitute_replace h fun text havoids => ?_, htail⟩
      rw [← replaceEach_eq_substitute hhead.tail htail]
      exact hshown text havoids

/-- **One after the other is at once**, on every text, exactly when every value is inert for
the entries behind it. -/
theorem replaceEach_iff (h : Separated table) :
    (∀ text, replaceEach table text = substitute table text) ↔ ValuesInert table := by
  constructor
  · intro hshown
    have hnone : Separated ([] ++ table) := h
    exact valuesInert_of_replaceEach hnone fun text _ => hshown text
  · intro hinert
    exact replaceEach_eq_substitute h hinert

end Exact

end Marty.Lib.Substitution
