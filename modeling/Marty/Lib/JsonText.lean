import Marty.Lib.BTree
import Marty.Lib.Json
import Mathlib.Data.String.Basic

/-!
# The text of a value determines the value

The compact text of a JSON value, followed by anything that cannot continue a number, is
read back in one way only.  So equal texts are texts of equal values, and the canonical
text, whose objects are written in the order of their keys, tells values apart up to the
order of their entries.

## Main definitions

* `Value.WellFormed` — the tokens are those of numbers, and no key occurs twice.
* `Value.write_injective` — the compact text determines the value.
* `Value.canonical`, `Value.canonical_injective` — the text with sorted keys; by
  `Value.sorted_eq_of_beq`, equal values have one.
-/

namespace Marty.Lib.Json

/-! ## Well-formed values -/

/-- The characters of a number. -/
def isNumberChar (c : Char) : Bool :=
  (48 ≤ c.toNat && c.toNat ≤ 57) || c == '-' || c == '+' || c == '.' || c == 'e' || c == 'E'

def isNumberToken (token : String) : Prop :=
  token.toList ≠ [] ∧ ∀ c ∈ token.toList, isNumberChar c = true

mutual

def Value.WellFormed : Value → Prop
  | .number token => isNumberToken token
  | .array items => itemsWellFormed items
  | .object entries => (entries.map Prod.fst).Nodup ∧ entriesWellFormed entries
  | _ => True

def itemsWellFormed : List Value → Prop
  | [] => True
  | v :: items => v.WellFormed ∧ itemsWellFormed items

def entriesWellFormed : List (String × Value) → Prop
  | [] => True
  | (_, value) :: entries => value.WellFormed ∧ entriesWellFormed entries

end

theorem entriesWellFormed_iff {entries : List (String × Value)} :
    entriesWellFormed entries ↔ ∀ e ∈ entries, e.2.WellFormed := by
  induction entries with
  | nil => simp [entriesWellFormed]
  | cons e entries ih => simp [entriesWellFormed, ih]

/-! ## Strings -/

/-- The characters that stand for themselves in a string. -/
def isPlain (c : Char) : Prop := 0x20 ≤ c.toNat ∧ c.toNat ≠ 0x22 ∧ c.toNat ≠ 0x5C

instance (c : Char) : Decidable (isPlain c) := inferInstanceAs (Decidable (_ ∧ _))

theorem escapeChar_of_plain {c : Char} (h : isPlain c) : escapeChar c = [c] := if_pos h

/-- The characters that are escaped. -/
def escaped : List Char := (List.range 0x20 ++ [0x22, 0x5C]).map Char.ofNat

theorem mem_escaped {c : Char} (h : ¬ isPlain c) : c ∈ escaped := by
  have hcode : c.toNat ∈ List.range 0x20 ++ [0x22, 0x5C] := by
    rw [List.mem_append, List.mem_range, List.mem_cons, List.mem_singleton]
    unfold isPlain at h
    omega
  rw [← Char.ofNat_toNat c]
  exact List.mem_map_of_mem hcode

/-- Two escape sequences of which one starts the other are the same sequence. -/
theorem escaped_prefix_free :
    ∀ c ∈ escaped, ∀ d ∈ escaped, escapeChar c <+: escapeChar d → c = d := by
  have hall : escaped.all (fun c => escaped.all fun d =>
      !(escapeChar c).isPrefixOf (escapeChar d) || c == d) = true := by decide +kernel
  intro c hc d hd hprefix
  have hcd := List.all_eq_true.mp (List.all_eq_true.mp hall c hc) d hd
  rw [List.isPrefixOf_iff_prefix.mpr hprefix, Bool.not_true, Bool.false_or] at hcd
  exact eq_of_beq hcd

theorem escaped_backslash : ∀ c ∈ escaped, (escapeChar c).head? = some '\\' := by
  have hall : escaped.all (fun c => (escapeChar c).head? == some '\\') = true := by
    decide +kernel
  exact fun c hc => eq_of_beq (List.all_eq_true.mp hall c hc)

theorem escapeChar_injective {c d : Char} {r s : List Char}
    (h : escapeChar c ++ r = escapeChar d ++ s) : c = d ∧ r = s := by
  have hbackslash : ∀ {c d : Char} {r s : List Char}, isPlain c → ¬ isPlain d →
      escapeChar c ++ r = escapeChar d ++ s → False := by
    intro c d r s hc hd heq
    have hhead := escaped_backslash d (mem_escaped hd)
    cases hescape : escapeChar d with
    | nil => simp [hescape] at hhead
    | cons b t =>
        rw [hescape, List.head?_cons, Option.some.injEq] at hhead
        rw [escapeChar_of_plain hc, hescape, List.singleton_append, List.cons_append,
          List.cons.injEq, hhead] at heq
        exact absurd (heq.1 ▸ hc) (by decide)
  by_cases hc : isPlain c
  · by_cases hd : isPlain d
    · rw [escapeChar_of_plain hc, escapeChar_of_plain hd] at h
      simpa using h
    · exact (hbackslash hc hd h).elim
  · by_cases hd : isPlain d
    · exact (hbackslash hd hc h.symm).elim
    · have hprefix := List.append_eq_append_iff.mp h
      have hsame : c = d := by
        rcases hprefix with ⟨t, ht, -⟩ | ⟨t, ht, -⟩
        · exact escaped_prefix_free c (mem_escaped hc) d (mem_escaped hd) ⟨t, ht.symm⟩
        · exact (escaped_prefix_free d (mem_escaped hd) c (mem_escaped hc) ⟨t, ht.symm⟩).symm
      subst hsame
      exact ⟨rfl, List.append_cancel_left h⟩

theorem escapeChar_ne_quote (c : Char) (r s : List Char) : escapeChar c ++ r ≠ quote :: s := by
  intro h
  by_cases hc : isPlain c
  · rw [escapeChar_of_plain hc, List.singleton_append, List.cons.injEq] at h
    exact absurd (h.1 ▸ hc) (by decide)
  · have hhead := escaped_backslash c (mem_escaped hc)
    cases hescape : escapeChar c with
    | nil => simp [hescape] at hhead
    | cons b t =>
        rw [hescape, List.head?_cons, Option.some.injEq] at hhead
        rw [hescape, List.cons_append, List.cons.injEq, hhead] at h
        exact absurd h.1 (by decide)

theorem flatMap_escapeChar_injective : ∀ {cs ds : List Char} {r s : List Char},
    cs.flatMap escapeChar ++ quote :: r = ds.flatMap escapeChar ++ quote :: s → cs = ds ∧ r = s
  | [], [], _, _, h => ⟨rfl, (List.cons.inj h).2⟩
  | [], d :: ds, _, _, h => by
      rw [List.flatMap_cons, List.append_assoc] at h
      exact absurd h.symm (escapeChar_ne_quote _ _ _)
  | c :: cs, [], _, _, h => by
      rw [List.flatMap_cons, List.append_assoc] at h
      exact absurd h (escapeChar_ne_quote _ _ _)
  | c :: cs, d :: ds, _, _, h => by
      rw [List.flatMap_cons, List.flatMap_cons, List.append_assoc, List.append_assoc] at h
      obtain ⟨rfl, hrest⟩ := escapeChar_injective h
      obtain ⟨rfl, hr⟩ := flatMap_escapeChar_injective hrest
      exact ⟨rfl, hr⟩

theorem writeString_injective {a b : String} {r s : List Char}
    (h : writeString a ++ r = writeString b ++ s) : a = b ∧ r = s := by
  simp only [writeString, List.cons_append, List.append_assoc, List.nil_append, List.cons.injEq,
    true_and] at h
  obtain ⟨hchars, hr⟩ := flatMap_escapeChar_injective h
  exact ⟨String.toList_inj.mp hchars, hr⟩

/-! ## Values -/

/-- What follows the text of a value: nothing that continues a number. -/
def Stops (r : List Char) : Prop := ∀ c ∈ r.head?, isNumberChar c = false

theorem stops_cons {c : Char} {r : List Char} (h : isNumberChar c = false) : Stops (c :: r) := by
  intro d hd
  cases hd
  exact h

theorem number_injective {a b : String} (ha : isNumberToken a) (hb : isNumberToken b)
    {r s : List Char} (hr : Stops r) (hs : Stops s) (h : a.toList ++ r = b.toList ++ s) :
    a = b ∧ r = s := by
  have hspan : ∀ {t : String} {r : List Char}, isNumberToken t → Stops r →
      (t.toList ++ r).takeWhile isNumberChar = t.toList := by
    intro t r ht hr
    rw [List.takeWhile_append_of_pos ht.2]
    cases r with
    | nil => rw [List.takeWhile_nil, List.append_nil]
    | cons c r =>
        rw [List.takeWhile_cons_of_neg (by rw [hr c rfl]; decide), List.append_nil]
  have htokens : a.toList = b.toList := by
    rw [← hspan ha hr, h, hspan hb hs]
  rw [htokens] at h
  exact ⟨String.toList_inj.mp htokens, List.append_cancel_left h⟩

/-- What kind of value a text starts. -/
def kind (c : Char) : Nat :=
  if c = 'n' then 0 else if c = 't' then 1 else if c = 'f' then 2 else if c = quote then 3
  else if c = '[' then 4 else if c = Char.ofNat 0x7B then 5 else if isNumberChar c then 6 else 7

def Value.kind : Value → Nat
  | .null => 0
  | .bool true => 1
  | .bool false => 2
  | .string _ => 3
  | .array _ => 4
  | .object _ => 5
  | .number _ => 6

theorem kind_number {c : Char} (h : isNumberChar c = true) : kind c = 6 := by
  unfold kind
  split
  · next hc => exact absurd (hc ▸ h) (by decide)
  split
  · next hc => exact absurd (hc ▸ h) (by decide)
  split
  · next hc => exact absurd (hc ▸ h) (by decide)
  split
  · next hc => exact absurd (hc ▸ h) (by decide)
  split
  · next hc => exact absurd (hc ▸ h) (by decide)
  split
  · next hc => exact absurd (hc ▸ h) (by decide)
  · rfl

theorem Value.write_head {v : Value} (h : v.WellFormed) :
    ∃ c t, v.write = c :: t ∧ Json.kind c = v.kind := by
  cases v with
  | null => exact ⟨_, _, rfl, rfl⟩
  | bool b => cases b <;> exact ⟨_, _, rfl, rfl⟩
  | string s => exact ⟨_, _, rfl, rfl⟩
  | array items => exact ⟨_, _, rfl, rfl⟩
  | object entries => exact ⟨_, _, rfl, rfl⟩
  | number token =>
      cases htoken : token.toList with
      | nil => exact absurd htoken h.1
      | cons c t =>
          have hc : isNumberChar c = true := h.2 c (by rw [htoken]; exact List.mem_cons_self)
          exact ⟨c, t, htoken, kind_number hc⟩

theorem Value.kind_eq {v w : Value} (hv : v.WellFormed) (hw : w.WellFormed) {r s : List Char}
    (h : v.write ++ r = w.write ++ s) : v.kind = w.kind := by
  obtain ⟨c, t, hvw, hc⟩ := v.write_head hv
  obtain ⟨d, u, hww, hd⟩ := w.write_head hw
  rw [hvw, hww, List.cons_append, List.cons_append, List.cons.injEq] at h
  rw [← hc, ← hd, h.1]

/-- A value does not start as an array ends. -/
theorem Value.write_ne_bracket {v : Value} (h : v.WellFormed) (r s : List Char) :
    v.write ++ r ≠ ']' :: s := by
  obtain ⟨c, t, hvw, hc⟩ := v.write_head h
  intro heq
  rw [hvw, List.cons_append, List.cons.injEq] at heq
  have hbracket : Json.kind ']' = 7 := by decide
  rw [heq.1, hbracket] at hc
  cases v with
  | bool b => cases b <;> cases hc
  | _ => cases hc

/-- What follows an item. -/
def itemsTail : List Value → List Char
  | [] => [']']
  | items => ',' :: writeItems items

def entriesTail : List (String × Value) → List Char
  | [] => [Char.ofNat 0x7D]
  | entries => ',' :: writeEntries entries

theorem writeItems_cons (v : Value) (items : List Value) :
    writeItems (v :: items) = v.write ++ itemsTail items := by
  cases items <;> rfl

theorem writeEntries_cons (key : String) (value : Value) (entries : List (String × Value)) :
    writeEntries ((key, value) :: entries) =
      writeString key ++ ':' :: (value.write ++ entriesTail entries) := by
  cases entries <;> rfl

theorem itemsTail_stops (items : List Value) (r : List Char) : Stops (itemsTail items ++ r) := by
  cases items <;> exact stops_cons rfl

theorem entriesTail_stops (entries : List (String × Value)) (r : List Char) :
    Stops (entriesTail entries ++ r) := by
  cases entries <;> exact stops_cons rfl

mutual

theorem Value.write_injective_aux : ∀ {v w : Value} {r s : List Char}, v.WellFormed →
    w.WellFormed → Stops r → Stops s → v.write ++ r = w.write ++ s → v = w ∧ r = s
  | .null, w, r, s, hv, hw, _, _, h => by
      have hkind := Value.kind_eq hv hw h
      cases w with
      | null => exact ⟨rfl, List.append_cancel_left h⟩
      | bool b => cases b <;> cases hkind
      | _ => cases hkind
  | .bool a, w, r, s, hv, hw, _, _, h => by
      have hkind := Value.kind_eq hv hw h
      cases w with
      | bool b => cases a <;> cases b <;> cases hkind <;> exact ⟨rfl, List.append_cancel_left h⟩
      | _ => cases a <;> cases hkind
  | .number a, w, r, s, hv, hw, hr, hs, h => by
      have hkind := Value.kind_eq hv hw h
      cases w with
      | number b =>
          obtain ⟨rfl, hrest⟩ := number_injective hv hw hr hs h
          exact ⟨rfl, hrest⟩
      | bool b => cases b <;> cases hkind
      | _ => cases hkind
  | .string a, w, r, s, hv, hw, _, _, h => by
      have hkind := Value.kind_eq hv hw h
      cases w with
      | string b =>
          obtain ⟨rfl, hrest⟩ := writeString_injective h
          exact ⟨rfl, hrest⟩
      | bool b => cases b <;> cases hkind
      | _ => cases hkind
  | .array as, w, r, s, hv, hw, _, _, h => by
      have hkind := Value.kind_eq hv hw h
      cases w with
      | array bs =>
          obtain ⟨rfl, hrest⟩ := writeItems_injective hv hw (List.cons.inj h).2
          exact ⟨rfl, hrest⟩
      | bool b => cases b <;> cases hkind
      | _ => cases hkind
  | .object as, w, r, s, hv, hw, _, _, h => by
      have hkind := Value.kind_eq hv hw h
      cases w with
      | object bs =>
          obtain ⟨rfl, hrest⟩ := writeEntries_injective hv.2 hw.2 (List.cons.inj h).2
          exact ⟨rfl, hrest⟩
      | bool b => cases b <;> cases hkind
      | _ => cases hkind

theorem writeItems_injective : ∀ {as bs : List Value} {r s : List Char}, itemsWellFormed as →
    itemsWellFormed bs → writeItems as ++ r = writeItems bs ++ s → as = bs ∧ r = s
  | [], [], _, _, _, _, h => ⟨rfl, (List.cons.inj h).2⟩
  | [], b :: bs, _, _, _, hbs, h => by
      rw [writeItems_cons, List.append_assoc] at h
      exact absurd h.symm (Value.write_ne_bracket hbs.1 _ _)
  | a :: as, [], _, _, has, _, h => by
      rw [writeItems_cons, List.append_assoc] at h
      exact absurd h (Value.write_ne_bracket has.1 _ _)
  | a :: as, b :: bs, r, s, has, hbs, h => by
      rw [writeItems_cons, writeItems_cons, List.append_assoc, List.append_assoc] at h
      obtain ⟨rfl, hrest⟩ := Value.write_injective_aux has.1 hbs.1 (itemsTail_stops as r)
        (itemsTail_stops bs s) h
      cases as with
      | nil =>
          cases bs with
          | nil => exact ⟨rfl, (List.cons.inj hrest).2⟩
          | cons b bs => exact absurd (List.cons.inj hrest).1 (by decide)
      | cons a as =>
          cases bs with
          | nil => exact absurd (List.cons.inj hrest).1 (by decide)
          | cons b bs =>
              obtain ⟨htail, hr⟩ := writeItems_injective has.2 hbs.2 (List.cons.inj hrest).2
              exact ⟨by rw [htail], hr⟩

theorem writeEntries_injective : ∀ {as bs : List (String × Value)} {r s : List Char},
    entriesWellFormed as → entriesWellFormed bs →
    writeEntries as ++ r = writeEntries bs ++ s → as = bs ∧ r = s
  | [], [], _, _, _, _, h => ⟨rfl, (List.cons.inj h).2⟩
  | [], (key, value) :: bs, _, _, _, _, h => by
      rw [writeEntries_cons] at h
      exact absurd (List.cons.inj h).1 (by decide)
  | (key, value) :: as, [], _, _, _, _, h => by
      rw [writeEntries_cons] at h
      exact absurd (List.cons.inj h).1 (by decide)
  | (key, value) :: as, (key', value') :: bs, r, s, has, hbs, h => by
      rw [writeEntries_cons, writeEntries_cons, List.append_assoc, List.append_assoc] at h
      obtain ⟨rfl, hvalues⟩ := writeString_injective h
      have hcolon : (value.write ++ entriesTail as) ++ r =
          (value'.write ++ entriesTail bs) ++ s := (List.cons.inj hvalues).2
      rw [List.append_assoc, List.append_assoc] at hcolon
      obtain ⟨rfl, hrest⟩ := Value.write_injective_aux has.1 hbs.1 (entriesTail_stops as r)
        (entriesTail_stops bs s) hcolon
      cases as with
      | nil =>
          cases bs with
          | nil => exact ⟨rfl, (List.cons.inj hrest).2⟩
          | cons b bs => exact absurd (List.cons.inj hrest).1 (by decide)
      | cons a as =>
          cases bs with
          | nil => exact absurd (List.cons.inj hrest).1 (by decide)
          | cons b bs =>
              obtain ⟨htail, hr⟩ := writeEntries_injective has.2 hbs.2 (List.cons.inj hrest).2
              exact ⟨by rw [htail], hr⟩

end

/-- **The compact text determines the value.** -/
theorem Value.write_injective {v w : Value} (hv : v.WellFormed) (hw : w.WellFormed)
    (h : v.write = w.write) : v = w := by
  have hstops : Stops [] := by
    intro c hc
    cases hc
  exact (Value.write_injective_aux hv hw hstops hstops (congrArg (· ++ []) h)).1

/-! ## Plain data -/

theorem Value.ofInt_wellFormed (n : Int) : (Value.ofInt n).WellFormed := by
  have hdigits : ∀ n : Nat, ∀ c ∈ Nat.toDigits 10 n, isNumberChar c = true := by
    intro n c hc
    have hdigit := List.all_eq_true.mp (Value.all_digits n) c hc
    simp only [decide_eq_true_eq] at hdigit
    simp [isNumberChar, hdigit.1, hdigit.2]
  cases n with
  | ofNat n =>
      have htext : (toString (Int.ofNat n)).toList = Nat.toDigits 10 n := Nat.toList_repr
      refine ⟨?_, ?_⟩
      · rw [htext]
        exact Nat.toDigits_ne_nil
      · rw [htext]
        exact hdigits n
  | negSucc n =>
      have htext : (toString (Int.negSucc n)).toList = '-' :: Nat.toDigits 10 (n + 1) := by
        have : toString (Int.negSucc n) = "-" ++ (n + 1).repr := rfl
        rw [this, String.toList_append, Nat.toList_repr]
        rfl
      refine ⟨?_, ?_⟩
      · rw [htext]
        exact List.cons_ne_nil _ _
      · rw [htext, List.forall_mem_cons]
        exact ⟨by decide, hdigits (n + 1)⟩

theorem Value.ofInt_injective {a b : Int} (h : Value.ofInt a = Value.ofInt b) : a = b := by
  have hread := congrArg Value.asInteger h
  rw [Value.asInteger_ofInt, Value.asInteger_ofInt] at hread
  exact Option.some.inj hread

theorem Value.ofOption_string_injective {a b : Option String}
    (h : Value.ofOption Value.string a = Value.ofOption Value.string b) : a = b := by
  cases a <;> cases b <;> simp_all [Value.ofOption]

theorem Value.ofOption_string_wellFormed (a : Option String) :
    (Value.ofOption Value.string a).WellFormed := by
  cases a <;> exact trivial

/-! ## Canonical text -/

mutual

/-- The value with the entries of every object in the order of their keys. -/
def Value.sorted : Value → Value
  | .array items => .array (sortedItems items)
  | .object entries => .object (BTreeMap.ofEntries (sortedEntries entries)).entries
  | v => v

def sortedItems : List Value → List Value
  | [] => []
  | v :: items => v.sorted :: sortedItems items

def sortedEntries : List (String × Value) → List (String × Value)
  | [] => []
  | (key, value) :: entries => (key, value.sorted) :: sortedEntries entries

end

/-- The compact text with sorted keys. -/
def Value.canonical (v : Value) : List Char := v.sorted.write

theorem sortedEntries_eq_map (entries : List (String × Value)) :
    sortedEntries entries = entries.map fun e => (e.1, e.2.sorted) := by
  induction entries with
  | nil => rfl
  | cons e entries ih => rw [sortedEntries, ih, List.map_cons]

theorem sortedEntries_keys (entries : List (String × Value)) :
    (sortedEntries entries).map Prod.fst = entries.map Prod.fst := by
  rw [sortedEntries_eq_map, List.map_map]
  rfl

/-- The sorted entries of an object are its entries. -/
theorem mem_sorted {entries : List (String × Value)} (h : (entries.map Prod.fst).Nodup)
    {e : String × Value} :
    e ∈ (BTreeMap.ofEntries (sortedEntries entries)).entries ↔ e ∈ sortedEntries entries := by
  have hget := BTreeMap.get_ofEntries (by rwa [sortedEntries_keys] : _) e.1 e.2
  rw [BTreeMap.get_eq_some] at hget
  exact hget

theorem length_sorted {entries : List (String × Value)} (h : (entries.map Prod.fst).Nodup) :
    (BTreeMap.ofEntries (sortedEntries entries)).entries.length = entries.length := by
  have hsorted : (BTreeMap.ofEntries (sortedEntries entries)).entries.Nodup :=
    List.Nodup.of_map Prod.fst ((BTreeMap.ofEntries (sortedEntries entries)).sorted.imp ne_of_lt)
  have hentries : (sortedEntries entries).Nodup :=
    List.Nodup.of_map Prod.fst (by rwa [sortedEntries_keys])
  have hperm := (List.perm_ext_iff_of_nodup hsorted hentries).mpr fun e => mem_sorted h
  rw [hperm.length_eq, sortedEntries_eq_map, List.length_map]

theorem entriesFound_iff {es fs : List (String × Value)} : entriesFound es fs = true ↔
    ∀ e ∈ es, ∃ f ∈ fs, f.1 = e.1 ∧ e.2.beq f.2 = true := by
  refine ⟨fun h e he => entriesFound_mem h he, ?_⟩
  induction es with
  | nil => exact fun _ => rfl
  | cons e es ih =>
      intro h
      obtain ⟨f, hf, hkey, hvalue⟩ := h e List.mem_cons_self
      rw [entriesFound, Bool.and_eq_true, List.any_eq_true]
      refine ⟨⟨f, hf, ?_⟩, ih fun d hd => h d (List.mem_cons_of_mem _ hd)⟩
      rw [Bool.and_eq_true, beq_iff_eq]
      exact ⟨hkey, hvalue⟩

mutual

theorem Value.sorted_beq : ∀ {v : Value}, v.WellFormed →
    v.beq v.sorted = true ∧ v.sorted.beq v = true
  | .null, _ => ⟨rfl, rfl⟩
  | .bool b, _ => ⟨Value.beq_self _, Value.beq_self _⟩
  | .number _, _ => ⟨Value.beq_self _, Value.beq_self _⟩
  | .string _, _ => ⟨Value.beq_self _, Value.beq_self _⟩
  | .array items, h => by
      rw [Value.sorted, Value.beq, Value.beq]
      exact sortedItems_beq h
  | .object entries, h => by
      have hentries := sortedEntries_beq h.2
      rw [Value.sorted, Value.beq, Value.beq, length_sorted h.1, beq_self_eq_true, Bool.true_and,
        Bool.true_and, entriesFound_iff, entriesFound_iff]
      constructor
      · intro e he
        refine ⟨(e.1, e.2.sorted), (mem_sorted h.1).mpr ?_, rfl, (hentries e he).1⟩
        rw [sortedEntries_eq_map]
        exact List.mem_map_of_mem he
      · intro f hf
        have hmem := (mem_sorted h.1).mp hf
        rw [sortedEntries_eq_map] at hmem
        obtain ⟨e, he, rfl⟩ := List.mem_map.mp hmem
        exact ⟨e, he, rfl, (hentries e he).2⟩

theorem sortedItems_beq : ∀ {items : List Value}, itemsWellFormed items →
    itemsBeq items (sortedItems items) = true ∧ itemsBeq (sortedItems items) items = true
  | [], _ => ⟨rfl, rfl⟩
  | v :: items, h => by
      have hhead := Value.sorted_beq h.1
      have htail := sortedItems_beq h.2
      rw [sortedItems, itemsBeq, itemsBeq, hhead.1, hhead.2, htail.1, htail.2]
      exact ⟨rfl, rfl⟩

theorem sortedEntries_beq : ∀ {entries : List (String × Value)}, entriesWellFormed entries →
    ∀ e ∈ entries, e.2.beq e.2.sorted = true ∧ e.2.sorted.beq e.2 = true
  | [], _, e, he => nomatch he
  | (key, value) :: entries, h, e, he => by
      rcases List.mem_cons.mp he with rfl | hmem
      · exact Value.sorted_beq h.1
      · exact sortedEntries_beq h.2 e hmem

end

mutual

theorem Value.sorted_wellFormed : ∀ {v : Value}, v.WellFormed → v.sorted.WellFormed
  | .null, h => h
  | .bool _, h => h
  | .number _, h => h
  | .string _, h => h
  | .array items, h => @sortedItems_wellFormed items h
  | .object entries, h => by
      refine ⟨(BTreeMap.ofEntries (sortedEntries entries)).sorted.imp ne_of_lt, ?_⟩
      rw [entriesWellFormed_iff]
      intro f hf
      have hmem := (mem_sorted h.1).mp hf
      rw [sortedEntries_eq_map] at hmem
      obtain ⟨e, he, rfl⟩ := List.mem_map.mp hmem
      exact sortedEntries_wellFormed h.2 e he

theorem sortedItems_wellFormed : ∀ {items : List Value}, itemsWellFormed items →
    itemsWellFormed (sortedItems items)
  | [], _ => trivial
  | _ :: _, h => ⟨Value.sorted_wellFormed h.1, sortedItems_wellFormed h.2⟩

theorem sortedEntries_wellFormed : ∀ {entries : List (String × Value)},
    entriesWellFormed entries → ∀ e ∈ entries, e.2.sorted.WellFormed
  | [], _, e, he => nomatch he
  | (key, value) :: entries, h, e, he => by
      rcases List.mem_cons.mp he with rfl | hmem
      · exact Value.sorted_wellFormed h.1
      · exact sortedEntries_wellFormed h.2 e hmem

end

/-- **The canonical text determines the value**, up to the order of its entries. -/
theorem Value.canonical_injective {v w : Value} (hv : v.WellFormed) (hw : w.WellFormed)
    (h : v.canonical = w.canonical) : (v == w) = true := by
  have hsorted : v.sorted = w.sorted :=
    Value.write_injective (Value.sorted_wellFormed hv) (Value.sorted_wellFormed hw) h
  have hfirst : (v == v.sorted) = true := (Value.sorted_beq hv).1
  have hsecond : (w.sorted == w) = true := (Value.sorted_beq hw).2
  rw [hsorted] at hfirst
  exact Value.beq_trans hfirst hsecond

/-- The members of equal objects match, both ways. -/
theorem Value.matched_of_beq {es fs : List (String × Value)} (hes : (es.map Prod.fst).Nodup)
    (hfs : (fs.map Prod.fst).Nodup) (h : (Value.object es).beq (.object fs) = true) :
    (∀ e ∈ es, ∃ f ∈ fs, f.1 = e.1 ∧ e.2.beq f.2 = true) ∧
      ∀ f ∈ fs, ∃ e ∈ es, f.1 = e.1 ∧ e.2.beq f.2 = true := by
  rw [Value.beq, Bool.and_eq_true, beq_iff_eq, entriesFound_iff] at h
  obtain ⟨hlength, hfound⟩ := h
  have hsubset : es.map Prod.fst ⊆ fs.map Prod.fst := by
    intro key hkey
    obtain ⟨e, he, rfl⟩ := List.mem_map.mp hkey
    obtain ⟨f, hf, hname, -⟩ := hfound e he
    exact hname ▸ List.mem_map_of_mem hf
  have hperm := (List.subperm_of_subset hes hsubset).perm_of_length_le (by simp [hlength])
  refine ⟨hfound, fun f hf => ?_⟩
  obtain ⟨e, he, hname⟩ := List.mem_map.mp (hperm.mem_iff.mpr (List.mem_map_of_mem hf))
  obtain ⟨f', hf', hname', hvalue⟩ := hfound e he
  have hsame : f' = f := List.inj_on_of_nodup_map hfs hf' hf (hname'.trans hname)
  exact ⟨e, he, hname.symm, hsame ▸ hvalue⟩

mutual

/-- **Equal values are sorted to the same value.** -/
theorem Value.sorted_eq_of_beq : ∀ {v w : Value}, v.WellFormed → w.WellFormed → v.beq w = true →
    v.sorted = w.sorted
  | .null, w, _, _, h => by
      cases w <;> first | rfl | cases h
  | .bool _, w, _, _, h | .number _, w, _, _, h | .string _, w, _, _, h => by
      cases w <;> first | exact congrArg Value.sorted (congrArg _ (eq_of_beq h)) | cases h
  | .array as, w, hv, hw, h => by
      cases w with
      | array bs => exact congrArg Value.array (sortedItems_eq_of_beq hv hw h)
      | _ => cases h
  | .object es, w, hv, hw, h => by
      cases w with
      | object fs =>
          obtain ⟨hto, hfrom⟩ := Value.matched_of_beq hv.1 hw.1 h
          have hvalues := sortedEntries_eq_of_beq hv.2
          rw [Value.sorted, Value.sorted]
          congr 2
          apply BTreeMap.ext_get
          intro k x
          have hkeys : ((sortedEntries es).map Prod.fst).Nodup := sortedEntries_keys es ▸ hv.1
          have hkeys' : ((sortedEntries fs).map Prod.fst).Nodup := sortedEntries_keys fs ▸ hw.1
          rw [BTreeMap.get_ofEntries hkeys, BTreeMap.get_ofEntries hkeys', sortedEntries_eq_map,
            sortedEntries_eq_map, List.mem_map, List.mem_map]
          constructor
          · rintro ⟨e, he, heq⟩
            obtain ⟨f, hf, hname, hbeq⟩ := hto e he
            refine ⟨f, hf, ?_⟩
            rw [hname, ← hvalues e he (entriesWellFormed_iff.mp hw.2 f hf) hbeq]
            exact heq
          · rintro ⟨f, hf, heq⟩
            obtain ⟨e, he, hname, hbeq⟩ := hfrom f hf
            refine ⟨e, he, ?_⟩
            rw [← hname, hvalues e he (entriesWellFormed_iff.mp hw.2 f hf) hbeq]
            exact heq
      | _ => cases h

theorem sortedItems_eq_of_beq : ∀ {as bs : List Value}, itemsWellFormed as →
    itemsWellFormed bs → itemsBeq as bs = true → sortedItems as = sortedItems bs
  | [], [], _, _, _ => rfl
  | a :: as, b :: bs, has, hbs, h => by
      rw [itemsBeq, Bool.and_eq_true] at h
      rw [sortedItems, sortedItems, Value.sorted_eq_of_beq has.1 hbs.1 h.1,
        sortedItems_eq_of_beq has.2 hbs.2 h.2]

theorem sortedEntries_eq_of_beq : ∀ {es : List (String × Value)}, entriesWellFormed es →
    ∀ e ∈ es, ∀ {w : Value}, w.WellFormed → e.2.beq w = true → e.2.sorted = w.sorted
  | [], _, e, he, _, _, _ => absurd he List.not_mem_nil
  | (key, value) :: es, h, e, he, w, hw, hbeq => by
      rw [List.mem_cons] at he
      obtain rfl | hmem := he
      · exact Value.sorted_eq_of_beq h.1 hw hbeq
      · exact sortedEntries_eq_of_beq h.2 e hmem hw hbeq

end

/-- Equal objects have equal members. -/
theorem Map.get_of_beq {es fs : Map} (hes : (es.map Prod.fst).Nodup) (hfs : (fs.map Prod.fst).Nodup)
    (h : (Value.object es).beq (.object fs) = true) (key : String) :
    Option.Rel (fun v w => Value.beq v w = true) (es.get key) (fs.get key) := by
  obtain ⟨hto, hfrom⟩ := Value.matched_of_beq hes hfs h
  cases hget : es.get key with
  | none =>
      cases hget' : fs.get key with
      | none => exact .none
      | some w =>
          obtain ⟨e, he, hname, -⟩ := hfrom _ (Map.mem_of_get hget')
          exact absurd hname.symm (Map.get_eq_none.mp hget e he)
  | some v =>
      obtain ⟨f, hf, hname, hbeq⟩ := hto _ (Map.mem_of_get hget)
      cases hget' : fs.get key with
      | none => exact absurd hname (Map.get_eq_none.mp hget' f hf)
      | some w =>
          obtain rfl : f = (key, w) :=
            List.inj_on_of_nodup_map hfs hf (Map.mem_of_get hget') hname
          exact .some hbeq

end Marty.Lib.Json
