import Mathlib.Data.List.Sort
import Mathlib.Tactic.Tauto

/-!
# Ordered maps and sets

The ordered collections of the Rust standard library, as association lists that are
strictly increasing in the key.  Two maps with the same bindings are equal, and the
entries are read in the order of their keys.

## Main definitions

* `BTreeMap` — the map, with `get`, `insert` and `keys`; `get_insert` and `ext_get` are its laws.
* `BTreeSet` — a map to the unit type; `mem_insert`, `mem_ofList`.
-/

namespace Marty.Lib

variable {κ β : Type*}

/-- A finite map whose entries are strictly increasing in the key. -/
structure BTreeMap (κ β : Type*) [LinearOrder κ] where
  entries : List (κ × β)
  sorted : (entries.map Prod.fst).Pairwise (· < ·)

namespace BTreeMap

variable [LinearOrder κ]

def lookup (key : κ) : List (κ × β) → Option β
  | [] => none
  | e :: es => if e.1 = key then some e.2 else lookup key es

/-- Put a binding in its place, replacing the one for the same key. -/
def insertEntry (key : κ) (value : β) : List (κ × β) → List (κ × β)
  | [] => [(key, value)]
  | e :: es =>
      if key < e.1 then (key, value) :: e :: es
      else if key = e.1 then (key, value) :: es
      else e :: insertEntry key value es

theorem mem_keys_insertEntry (key : κ) (value : β) (es : List (κ × β)) (k : κ) :
    k ∈ (insertEntry key value es).map Prod.fst ↔ k = key ∨ k ∈ es.map Prod.fst := by
  induction es with
  | nil => simp [insertEntry]
  | cons e es ih =>
      by_cases hlt : key < e.1
      · simp [insertEntry, hlt]
      · by_cases heq : key = e.1
        · simp [insertEntry, heq]
        · simp only [insertEntry, hlt, heq, if_false, List.map_cons, List.mem_cons, ih]
          tauto

theorem sorted_insertEntry (key : κ) (value : β) (es : List (κ × β))
    (h : (es.map Prod.fst).Pairwise (· < ·)) :
    ((insertEntry key value es).map Prod.fst).Pairwise (· < ·) := by
  induction es with
  | nil => simp [insertEntry]
  | cons e es ih =>
      have hhead := (List.pairwise_cons.mp h).1
      have htail := (List.pairwise_cons.mp h).2
      by_cases hlt : key < e.1
      · simp only [insertEntry, hlt, if_true]
        refine List.pairwise_cons.mpr ⟨?_, h⟩
        intro k hk
        rcases List.mem_cons.mp hk with rfl | hk
        · exact hlt
        · exact hlt.trans (hhead k hk)
      · by_cases heq : key = e.1
        · simp only [insertEntry, heq, lt_irrefl, if_false, if_true]
          exact List.pairwise_cons.mpr ⟨hhead, htail⟩
        · simp only [insertEntry, hlt, heq, if_false]
          refine List.pairwise_cons.mpr ⟨?_, ih htail⟩
          intro k hk
          rcases (mem_keys_insertEntry key value es k).mp hk with rfl | hk
          · exact lt_of_le_of_ne (not_lt.mp hlt) (Ne.symm heq)
          · exact hhead k hk

theorem lookup_insertEntry (key : κ) (value : β) (es : List (κ × β)) (k : κ) :
    lookup k (insertEntry key value es) = if k = key then some value else lookup k es := by
  induction es with
  | nil => simp [insertEntry, lookup, eq_comm]
  | cons e es ih =>
      by_cases hlt : key < e.1
      · simp [insertEntry, hlt, lookup, eq_comm]
      · by_cases heq : key = e.1
        · by_cases hk : k = key
          · simp [insertEntry, heq, lookup, hk]
          · simp [insertEntry, heq, lookup, heq ▸ hk, Ne.symm (heq ▸ hk)]
        · by_cases he : e.1 = k
          · have hk : k ≠ key := fun h => heq (h.symm.trans he.symm)
            rw [insertEntry, if_neg hlt, if_neg heq, if_neg hk]
            simp [lookup, he]
          · simp [insertEntry, hlt, heq, lookup, he, ih]

theorem lookup_isSome (es : List (κ × β)) (k : κ) :
    (lookup k es).isSome ↔ k ∈ es.map Prod.fst := by
  induction es with
  | nil => simp [lookup]
  | cons e es ih =>
      by_cases he : e.1 = k
      · simp [lookup, he]
      · simp [lookup, he, ih, Ne.symm he]

theorem lookup_eq_some (es : List (κ × β)) (h : (es.map Prod.fst).Pairwise (· < ·)) (k : κ)
    (v : β) : lookup k es = some v ↔ (k, v) ∈ es := by
  induction es with
  | nil => simp [lookup]
  | cons e es ih =>
      have hhead := (List.pairwise_cons.mp h).1
      by_cases he : e.1 = k
      · have hnot : (k, v) ∉ es := fun hm =>
          absurd (hhead k (List.mem_map_of_mem hm)) (by simp [he])
        simp [lookup, he, hnot, Prod.ext_iff, eq_comm]
      · simp [lookup, he, ih (List.pairwise_cons.mp h).2, Prod.ext_iff, Ne.symm he]

/-! ## The map -/

def empty : BTreeMap κ β := ⟨[], List.Pairwise.nil⟩

def get (m : BTreeMap κ β) (key : κ) : Option β := lookup key m.entries

def insert (m : BTreeMap κ β) (key : κ) (value : β) : BTreeMap κ β :=
  ⟨insertEntry key value m.entries, sorted_insertEntry key value m.entries m.sorted⟩

def keys (m : BTreeMap κ β) : List κ := m.entries.map Prod.fst

def values (m : BTreeMap κ β) : List β := m.entries.map Prod.snd

def length (m : BTreeMap κ β) : Nat := m.entries.length

def containsKey (m : BTreeMap κ β) (key : κ) : Bool := (m.get key).isSome

/-- The map that `collect` builds: a later entry replaces an earlier one. -/
def ofEntries (es : List (κ × β)) : BTreeMap κ β :=
  es.foldl (fun m e => m.insert e.1 e.2) empty

@[simp] theorem get_empty (k : κ) : (empty : BTreeMap κ β).get k = none := rfl

@[simp] theorem get_insert (m : BTreeMap κ β) (key : κ) (value : β) (k : κ) :
    (m.insert key value).get k = if k = key then some value else m.get k :=
  lookup_insertEntry key value m.entries k

theorem mem_keys (m : BTreeMap κ β) (k : κ) : k ∈ m.keys ↔ (m.get k).isSome :=
  (lookup_isSome m.entries k).symm

theorem get_eq_some (m : BTreeMap κ β) (k : κ) (v : β) :
    m.get k = some v ↔ (k, v) ∈ m.entries :=
  lookup_eq_some m.entries m.sorted k v

theorem get_foldl_insert (es : List (κ × β)) (h : (es.map Prod.fst).Nodup) (m : BTreeMap κ β)
    (k : κ) (v : β) :
    (es.foldl (fun m e => m.insert e.1 e.2) m).get k = some v ↔
      (k, v) ∈ es ∨ k ∉ es.map Prod.fst ∧ m.get k = some v := by
  induction es generalizing m with
  | nil => simp
  | cons e es ih =>
      have hnot := (List.nodup_cons.mp h).1
      rw [List.foldl_cons, ih (List.nodup_cons.mp h).2, get_insert]
      by_cases hk : k = e.1
      · subst hk
        have hmem : (e.1, v) ∉ es := fun hm =>
          hnot (List.mem_map.mpr ⟨_, hm, rfl⟩)
        simp [hmem, hnot, Prod.ext_iff, eq_comm]
      · simp [hk, Prod.ext_iff]

/-- A list without repeated keys is collected as it is. -/
theorem get_ofEntries {es : List (κ × β)} (h : (es.map Prod.fst).Nodup) (k : κ) (v : β) :
    (ofEntries es).get k = some v ↔ (k, v) ∈ es := by
  simp [ofEntries, get_foldl_insert es h]

/-- An entry beyond all others is put at the end. -/
theorem insertEntry_append {key : κ} (value : β) {es : List (κ × β)}
    (h : ∀ e ∈ es, e.1 < key) : insertEntry key value es = es ++ [(key, value)] := by
  induction es with
  | nil => rfl
  | cons e es ih =>
      have hlt := h e List.mem_cons_self
      rw [insertEntry, if_neg (not_lt.mpr hlt.le), if_neg hlt.ne',
        ih fun d hd => h d (List.mem_cons_of_mem _ hd), List.cons_append]

theorem entries_foldl_insert {es : List (κ × β)} (h : (es.map Prod.fst).Pairwise (· < ·))
    {m : BTreeMap κ β} (hm : ∀ d ∈ m.entries, ∀ e ∈ es, d.1 < e.1) :
    (es.foldl (fun m e => m.insert e.1 e.2) m).entries = m.entries ++ es := by
  induction es generalizing m with
  | nil => rw [List.foldl_nil, List.append_nil]
  | cons e es ih =>
      rw [List.map_cons, List.pairwise_cons] at h
      have hinsert : (m.insert e.1 e.2).entries = m.entries ++ [e] :=
        insertEntry_append e.2 fun d hd => hm d hd e List.mem_cons_self
      rw [List.foldl_cons, ih h.2, hinsert, List.append_assoc, List.singleton_append]
      intro d hd f hf
      rw [hinsert, List.mem_append, List.mem_singleton] at hd
      rcases hd with hd | rfl
      · exact hm d hd f (List.mem_cons_of_mem _ hf)
      · exact h.1 f.1 (List.mem_map_of_mem hf)

/-- Entries in the order of their keys are collected as they are. -/
theorem entries_ofEntries {es : List (κ × β)} (h : (es.map Prod.fst).Pairwise (· < ·)) :
    (ofEntries es).entries = es := by
  rw [ofEntries, entries_foldl_insert h]
  · exact List.nil_append es
  · intro d hd
    cases hd

theorem mem_keys_ofEntries (es : List (κ × β)) (k : κ) :
    k ∈ (ofEntries es).keys ↔ k ∈ es.map Prod.fst := by
  have hfold : ∀ m : BTreeMap κ β, k ∈ (es.foldl (fun m e => m.insert e.1 e.2) m).keys ↔
      k ∈ es.map Prod.fst ∨ k ∈ m.keys := by
    induction es with
    | nil => simp
    | cons e es ih =>
        intro m
        rw [List.foldl_cons, ih, keys, insert, mem_keys_insertEntry, List.map_cons,
          List.mem_cons, keys]
        tauto
  exact (hfold empty).trans (or_iff_left List.not_mem_nil)

/-- Entries are collected without loss exactly when their keys are different. -/
theorem length_ofEntries (es : List (κ × β)) :
    (ofEntries es).length = es.length ↔ (es.map Prod.fst).Nodup := by
  have hnodup : (ofEntries es).keys.Nodup := (ofEntries es).sorted.imp ne_of_lt
  have hlength : (ofEntries es).keys.length = (ofEntries es).length := List.length_map ..
  have hsub : (ofEntries es).keys.Subperm (es.map Prod.fst) :=
    List.subperm_of_subset hnodup fun k hk => (mem_keys_ofEntries es k).mp hk
  constructor
  · intro h
    have hperm := hsub.perm_of_length_le (by rw [hlength, h, List.length_map])
    exact hperm.nodup hnodup
  · intro h
    have hback := List.subperm_of_subset h fun k hk => (mem_keys_ofEntries es k).mpr hk
    have hle := hsub.length_le
    have hge := hback.length_le
    rw [List.length_map] at hle hge
    omega

/-- Entries with the same keys are collected to maps with related values. -/
theorem get_ofEntries_rel {γ : Type*} {R : β → γ → Prop} {es : List (κ × β)} {es' : List (κ × γ)}
    (h : List.Forall₂ (fun e e' => e.1 = e'.1 ∧ R e.2 e'.2) es es') (k : κ) :
    Option.Rel R ((ofEntries es).get k) ((ofEntries es').get k) := by
  have hfold : ∀ {m : BTreeMap κ β} {m' : BTreeMap κ γ}, Option.Rel R (m.get k) (m'.get k) →
      Option.Rel R ((es.foldl (fun m e => m.insert e.1 e.2) m).get k)
        ((es'.foldl (fun m e => m.insert e.1 e.2) m').get k) := by
    induction h with
    | nil => exact fun hm => hm
    | @cons e e' es es' he _ ih =>
      intro m m' hm
      refine ih ?_
      rw [get_insert, get_insert, he.1]
      split
      case isTrue => exact .some he.2
      case isFalse => exact hm
  exact hfold .none

theorem mem_of_get_ofEntries {es : List (κ × β)} {k : κ} {v : β}
    (h : (ofEntries es).get k = some v) : (k, v) ∈ es := by
  have hfold : ∀ {m : BTreeMap κ β}, (es.foldl (fun m e => m.insert e.1 e.2) m).get k = some v →
      m.get k = some v ∨ (k, v) ∈ es := by
    clear h
    induction es with
    | nil => exact fun h => .inl h
    | cons e es ih =>
        intro m h
        rw [List.foldl_cons] at h
        obtain h | h := ih h
        · rw [get_insert] at h
          by_cases hk : k = e.1
          · rw [if_pos hk, Option.some.injEq] at h
            exact .inr (by simp [hk, ← h])
          · rw [if_neg hk] at h
            exact .inl h
        · exact .inr (List.mem_cons_of_mem _ h)
  obtain h | h := hfold h
  · simp at h
  · exact h

/-- What is made of the values keeps the order of the keys. -/
theorem entries_ofEntries_map {γ : Type*} (f : β → γ) (entries : List (κ × β)) :
    (ofEntries (entries.map fun e => (e.1, f e.2))).entries =
      (ofEntries entries).entries.map fun e => (e.1, f e.2) := by
  have hinsert : ∀ (e : κ × β) (es : List (κ × β)),
      insertEntry e.1 (f e.2) (es.map fun e => (e.1, f e.2)) =
        (insertEntry e.1 e.2 es).map fun e => (e.1, f e.2) := by
    intro e es
    induction es with
    | nil => rfl
    | cons d es ih =>
        rw [List.map_cons, insertEntry, insertEntry]
        split
        · rfl
        split
        · rfl
        · rw [ih, List.map_cons]
  have hfold : ∀ (es : List (κ × β)) (m : BTreeMap κ β) (n : BTreeMap κ γ),
      n.entries = m.entries.map (fun e => (e.1, f e.2)) →
      ((es.map fun e => (e.1, f e.2)).foldl (fun m e => m.insert e.1 e.2) n).entries =
        (es.foldl (fun m e => m.insert e.1 e.2) m).entries.map fun e => (e.1, f e.2) := by
    intro es
    induction es with
    | nil => exact fun _ _ h => h
    | cons e es ih =>
        intro m n h
        refine ih (m.insert e.1 e.2) (n.insert e.1 (f e.2)) ?_
        change insertEntry e.1 (f e.2) n.entries = _
        rw [h, hinsert]
        rfl
  exact hfold entries empty empty rfl

/-- The map with every value changed, by way of its key. -/
def mapEntries {γ : Type*} (f : κ → β → γ) (m : BTreeMap κ β) : BTreeMap κ γ where
  entries := m.entries.map fun e => (e.1, f e.1 e.2)
  sorted := by
    rw [List.map_map]
    exact m.sorted

def mapValues {γ : Type*} (f : β → γ) (m : BTreeMap κ β) : BTreeMap κ γ :=
  m.mapEntries fun _ => f

@[simp] theorem get_mapEntries {γ : Type*} (f : κ → β → γ) (m : BTreeMap κ β) (k : κ) :
    (m.mapEntries f).get k = (m.get k).map (f k) := by
  change lookup k (m.entries.map fun e => (e.1, f e.1 e.2)) = (lookup k m.entries).map (f k)
  induction m.entries with
  | nil => rfl
  | cons e es ih =>
      rw [List.map_cons, lookup, lookup]
      by_cases he : e.1 = k
      · rw [if_pos he, if_pos he, ← he]
        rfl
      · rw [if_neg he, if_neg he, ih]

/-- The entries that meet a condition. -/
def retain (m : BTreeMap κ β) (p : κ → β → Bool) : BTreeMap κ β where
  entries := m.entries.filter fun e => p e.1 e.2
  sorted := List.Pairwise.sublist (List.Sublist.map _ List.filter_sublist) m.sorted

@[simp] theorem get_retain (m : BTreeMap κ β) (p : κ → β → Bool) (k : κ) :
    (m.retain p).get k = (m.get k).filter (p k) := by
  ext v
  rw [get_eq_some, retain, List.mem_filter, ← get_eq_some, Option.filter_eq_some_iff]

@[ext] theorem ext_entries {m n : BTreeMap κ β} (h : m.entries = n.entries) : m = n := by
  cases m
  cases n
  cases h
  rfl

/-- **Maps with the same bindings are equal.** -/
theorem ext_get {m n : BTreeMap κ β}
    (h : ∀ k v, m.get k = some v ↔ n.get k = some v) : m = n := by
  have hirrefl : Std.Irrefl fun e d : κ × β => e.1 < d.1 := ⟨fun e => lt_irrefl e.1⟩
  refine ext_entries (List.Pairwise.eq_of_mem_iff (List.pairwise_map.mp m.sorted)
    (List.pairwise_map.mp n.sorted) fun e => ?_)
  rw [← get_eq_some m e.1 e.2, ← get_eq_some n e.1 e.2, h]

instance [DecidableEq β] : DecidableEq (BTreeMap κ β) := fun m n =>
  decidable_of_iff (m.entries = n.entries) ⟨ext_entries, congrArg entries⟩

end BTreeMap

/-- A finite set, read in increasing order. -/
abbrev BTreeSet (κ : Type*) [LinearOrder κ] := BTreeMap κ Unit

namespace BTreeSet

variable [LinearOrder κ]

def toList (s : BTreeSet κ) : List κ := BTreeMap.keys s

instance : Membership κ (BTreeSet κ) := ⟨fun s a => a ∈ toList s⟩

theorem mem_def (s : BTreeSet κ) (a : κ) : a ∈ s ↔ a ∈ toList s := Iff.rfl

instance (s : BTreeSet κ) (a : κ) : Decidable (a ∈ s) := inferInstanceAs (Decidable (a ∈ toList s))

def insert (s : BTreeSet κ) (a : κ) : BTreeSet κ := BTreeMap.insert s a ()

/-- The set of the elements of a list. -/
def ofList (l : List κ) : BTreeSet κ := l.foldl insert BTreeMap.empty

def remove (s : BTreeSet κ) (a : κ) : BTreeSet κ :=
  ⟨s.entries.filter fun e => e.1 ≠ a,
    List.Pairwise.sublist (List.Sublist.map _ List.filter_sublist) s.sorted⟩

theorem sorted_toList (s : BTreeSet κ) : (toList s).Pairwise (· < ·) := s.sorted

@[simp] theorem notMem_empty (a : κ) : a ∉ (BTreeMap.empty : BTreeSet κ) := List.not_mem_nil

@[simp] theorem mem_insert (s : BTreeSet κ) (a b : κ) : b ∈ insert s a ↔ b = a ∨ b ∈ s :=
  BTreeMap.mem_keys_insertEntry a () s.entries b

theorem mem_foldl_insert (l : List κ) (s : BTreeSet κ) (a : κ) :
    a ∈ l.foldl insert s ↔ a ∈ l ∨ a ∈ s := by
  induction l generalizing s with
  | nil => simp
  | cons b l ih =>
      simp only [List.foldl_cons, ih, mem_insert, List.mem_cons]
      tauto

@[simp] theorem mem_ofList (l : List κ) (a : κ) : a ∈ ofList l ↔ a ∈ l := by
  simp [ofList, mem_foldl_insert]

theorem length_ofList_le (l : List κ) : (toList (ofList l)).length ≤ l.length :=
  (List.subperm_of_subset ((sorted_toList _).imp ne_of_lt) fun a ha =>
    (mem_ofList l a).mp ha).length_le

end BTreeSet

end Marty.Lib
