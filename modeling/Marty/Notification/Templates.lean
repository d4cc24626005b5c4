import Marty.Lib.Json
import Marty.Lib.Substitution

/-!
# Notification templates

The subject and the body of a notification are rendered from a template: the entries of the
data are put in place of their placeholders, one entry after the other.  An entry can so be put
in place within the value of an earlier one.

## Main definitions

* `renderTemplate` — the rendering.
* `substituteData` — the rendering at once: the template is cut into text and placeholders, and
  the values are copied.
-/

namespace Marty.Notification

open Lib Lib.Substitution

/-- The placeholder of a key: the key between two pairs of braces. -/
def placeholder (key : String) : List Char :=
  '\x7b' :: '\x7b' :: (key.toList ++ ['\x7d', '\x7d'])

/-- What is put in place: a text as it is, another value as it is written. -/
def replacementText : Json.Value → List Char
  | .string text => text.toList
  | value => value.write

/-- The entries of the data replace their placeholders, one after the other. -/
def renderTemplate (template : String) (data : Json.Map) : String :=
  String.ofList <| data.foldl
    (fun value entry => replace (placeholder entry.1) (replacementText entry.2) value)
    template.toList

/-! ## At once -/

def placeholders (data : Json.Map) : Table Char :=
  data.map fun entry => (placeholder entry.1, replacementText entry.2)

/-- The entries of the data replace the placeholders of the template, at once. -/
def substituteData (template : String) (data : Json.Map) : String :=
  String.ofList (substitute (placeholders data) template.toList)

theorem renderTemplate_eq (template : String) (data : Json.Map) :
    renderTemplate template data =
      String.ofList (replaceEach (placeholders data) template.toList) := by
  rw [renderTemplate, replaceEach, placeholders, List.foldl_map]

/-! ## Placeholders do not overlap -/

def BraceFree (key : String) : Prop := ∀ c ∈ key.toList, c ≠ '\x7b' ∧ c ≠ '\x7d'

instance (key : String) : Decidable (BraceFree key) :=
  inferInstanceAs (Decidable (∀ c ∈ key.toList, _))

/-- A key ends where its placeholder does. -/
theorem eq_of_closing_front {key key' : List Char} (hkey : ∀ c ∈ key, c ≠ '\x7d')
    (hkey' : ∀ c ∈ key', c ≠ '\x7d')
    (h : key ++ ['\x7d', '\x7d'] <+: key' ++ ['\x7d', '\x7d']) : key = key' := by
  induction key generalizing key' with
  | nil =>
      cases key' with
      | nil => rfl
      | cons c key' =>
          have hc := (List.cons_prefix_cons.mp h).1
          exact absurd hc.symm (hkey' c List.mem_cons_self)
  | cons c key ih =>
      cases key' with
      | nil =>
          have hc := (List.cons_prefix_cons.mp h).1
          exact absurd hc (hkey c List.mem_cons_self)
      | cons c' key' =>
          obtain ⟨rfl, hrest⟩ := List.cons_prefix_cons.mp h
          rw [ih (fun d hd => hkey d (List.mem_cons_of_mem c hd))
            (fun d hd => hkey' d (List.mem_cons_of_mem c hd)) hrest]

section

variable {key key' : String}

theorem BraceFree.opening_notMem (h : BraceFree key) :
    '\x7b' ∉ key.toList ++ ['\x7d', '\x7d'] := by
  intro hmem
  rcases List.mem_append.mp hmem with hmem | hmem
  · exact (h _ hmem).1 rfl
  · simp at hmem

theorem placeholder_eq_of_front (hkey : BraceFree key) (hkey' : BraceFree key')
    (h : placeholder key <+: placeholder key') : placeholder key = placeholder key' := by
  have hrest := (List.cons_prefix_cons.mp (List.cons_prefix_cons.mp h).2).2
  have heq := eq_of_closing_front (fun c hc => (hkey c hc).2) (fun c hc => (hkey' c hc).2) hrest
  rw [placeholder, placeholder, heq]

/-- Two opening braces stand at the front of a placeholder only. -/
theorem not_opening_inside (h : BraceFree key) {rest : List Char} :
    ¬ '\x7b' :: '\x7b' :: rest <:+: '\x7b' :: (key.toList ++ ['\x7d', '\x7d']) := by
  intro hinfix
  rcases List.infix_cons_iff.mp hinfix with hfront | hpart
  · have hsecond := (List.cons_prefix_cons.mp hfront).2
    exact h.opening_notMem (hsecond.subset List.mem_cons_self)
  · exact h.opening_notMem (hpart.subset List.mem_cons_self)

theorem placeholder_apart (hkey : BraceFree key) (hkey' : BraceFree key') :
    Apart (placeholder key) (placeholder key') where
  overlap s hs hend hfront := by
    obtain ⟨c, s, rfl⟩ := List.exists_cons_of_ne_nil hs
    obtain ⟨rfl, hfront'⟩ := List.cons_prefix_cons.mp hfront
    rcases List.suffix_cons_iff.mp hend with hwhole | hend
    · rw [hwhole] at hfront ⊢
      exact ⟨placeholder_eq_of_front hkey hkey' hfront, rfl⟩
    · exfalso
      rcases List.suffix_cons_iff.mp hend with htail | hend
      · -- the second character would be an opening brace
        have hrest : s = key.toList ++ ['\x7d', '\x7d'] := List.tail_eq_of_cons_eq htail
        cases hs' : s with
        | nil => simp [hs'] at hrest
        | cons d s =>
            rw [hs'] at hfront' hrest
            obtain rfl := (List.cons_prefix_cons.mp hfront').1
            exact hkey.opening_notMem (hrest ▸ List.mem_cons_self)
      · exact hkey.opening_notMem (hend.subset List.mem_cons_self)
  part h := by
    rcases List.infix_cons_iff.mp h with hfront | hpart
    · exact placeholder_eq_of_front hkey hkey' hfront
    · exact absurd hpart (not_opening_inside hkey')

end

theorem placeholder_injective {key key' : String} (h : placeholder key = placeholder key') :
    key = key' := by
  have hrest := List.append_cancel_right (List.tail_eq_of_cons_eq (List.tail_eq_of_cons_eq h))
  exact String.toList_injective hrest

/-- The placeholders of different keys without braces do not overlap. -/
theorem separated_placeholders {data : Json.Map} (hkeys : (data.map Prod.fst).Nodup)
    (hbraces : ∀ entry ∈ data, BraceFree entry.1) : Separated (placeholders data) := by
  have hpatterns : (placeholders data).map Prod.fst = (data.map Prod.fst).map placeholder := by
    simp [placeholders]
  have hbraces' : ∀ key ∈ data.map Prod.fst, BraceFree key := by
    intro key hkey
    obtain ⟨entry, hentry, rfl⟩ := List.mem_map.mp hkey
    exact hbraces entry hentry
  refine ⟨⟨?_, ?_⟩, ?_⟩
  · rw [hpatterns, List.forall_mem_map]
    intro key _
    exact List.cons_ne_nil _ _
  · simp only [hpatterns, List.forall_mem_map]
    intro entry hentry entry' hentry'
    exact placeholder_apart (hbraces entry hentry) (hbraces entry' hentry')
  · rw [hpatterns]
    exact hkeys.map fun key key' => placeholder_injective

/-- At once, the order of the data plays no part. -/
theorem substituteData_perm {data data' : Json.Map} (hkeys : (data.map Prod.fst).Nodup)
    (hbraces : ∀ entry ∈ data, BraceFree entry.1) (hperm : data.Perm data')
    (template : String) : substituteData template data = substituteData template data' := by
  rw [substituteData, substituteData, (separated_placeholders hkeys hbraces).substitute_perm
    (hperm.map _)]
  rfl

/-! ## Values that are expanded -/

/-- **Templates are rendered at once** exactly when every value of the data is inert for the
entries behind it. -/
theorem renderTemplate_iff (data : Json.Map) (hkeys : (data.map Prod.fst).Nodup)
    (hbraces : ∀ entry ∈ data, BraceFree entry.1) :
    (∀ template, renderTemplate template data = substituteData template data) ↔
      ValuesInert (placeholders data) := by
  rw [← replaceEach_iff (separated_placeholders hkeys hbraces)]
  constructor
  · intro h text
    have hrun := h (String.ofList text)
    rw [renderTemplate_eq, substituteData, String.toList_ofList] at hrun
    exact String.ofList_injective hrun
  · intro h template
    rw [renderTemplate_eq, substituteData, h]

namespace Example

/-- The value of the first key is the placeholder of the second. -/
def nested : Json.Map := [("name", .string "\x7b\x7blink\x7d\x7d"), ("link", .string "here")]

end Example

/-- A single entry is put in place at once, even where its value is its own placeholder. -/
theorem renderTemplate_iff_name :
    renderTemplate "Dear \x7b\x7bname\x7d\x7d" [("name", .string "\x7b\x7bname\x7d\x7d")] =
      substituteData "Dear \x7b\x7bname\x7d\x7d"
        [("name", .string "\x7b\x7bname\x7d\x7d")] := by
  have hbraces : ∀ entry ∈ ([("name", .string "\x7b\x7bname\x7d\x7d")] : Json.Map),
      BraceFree entry.1 := by
    intro entry hentry
    rw [List.mem_singleton.mp hentry]
    simp [BraceFree]
  refine (renderTemplate_iff _ (by decide) hbraces).mpr ⟨⟨?_, ?_⟩, trivial⟩ _
  · decide
  · intro entry hentry
    cases hentry

/-- The value of a key is expanded, and how the text reads depends on the order of the data. -/
theorem renderTemplate_expands_value :
    renderTemplate "Hello \x7b\x7bname\x7d\x7d" Example.nested = "Hello here" ∧
      substituteData "Hello \x7b\x7bname\x7d\x7d" Example.nested =
        "Hello \x7b\x7blink\x7d\x7d" ∧
      renderTemplate "Hello \x7b\x7bname\x7d\x7d" Example.nested ≠
        substituteData "Hello \x7b\x7bname\x7d\x7d" Example.nested ∧
      renderTemplate "Hello \x7b\x7bname\x7d\x7d" Example.nested.reverse =
        "Hello \x7b\x7blink\x7d\x7d" := by
  decide +kernel

end Marty.Notification
