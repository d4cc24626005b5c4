import Mathlib.Algebra.Group.Int.Defs
import Mathlib.Algebra.GroupWithZero.Nat
import Mathlib.Data.List.Basic

/-!
# JSON values

Parsed JSON, with objects in insertion order and numbers as the tokens they were
written as.  An object is a list of entries; the operations below are those of a map
that keeps insertion order, where a key that is inserted again keeps its place.

## Main definitions

* `Json.Value`, `Json.Map` — values, and the entries of an object.
* `Json.Map.get`, `Json.Map.insert`, `Json.Map.extend` — lookup and update.
* `Json.Value.beq` — equality, where the entries of an object may stand in any order;
  `Json.Value.same` — equality of all that there is.
* `Json.Value.write` — the compact text of a value.
-/

namespace Marty.Lib.Json

inductive Value
  | null
  | bool (value : Bool)
  | number (token : String)
  | string (value : String)
  | array (items : List Value)
  | object (entries : List (String × Value))
  deriving Repr

abbrev Map := List (String × Value)

namespace Value

def asStr : Value → Option String
  | .string value => some value
  | _ => none

def asObject : Value → Option Map
  | .object entries => some entries
  | _ => none

def asArray : Value → Option (List Value)
  | .array items => some items
  | _ => none

def asBool : Value → Option Bool
  | .bool value => some value
  | _ => none

def isObject : Value → Bool
  | .object _ => true
  | _ => false

def isNull : Value → Bool
  | .null => true
  | _ => false

/-- The number of a token that is a row of decimal digits and fits sixty-four bits. -/
def asU64 : Value → Option Nat
  | .number token =>
      if token.toList ≠ [] ∧ token.toList.all (fun c => 48 ≤ c.toNat ∧ c.toNat ≤ 57) then
        let n := token.toList.foldl (fun n c => 10 * n + (c.toNat - 48)) 0
        if n < 2 ^ 64 then some n else none
      else none
  | _ => none

/-- The name by which a value denotes a variant without data: a text, or an object whose one
entry is null. -/
def unitVariant : Value → Option String
  | .string name => some name
  | .object [(name, .null)] => some name
  | _ => none

end Value

/-! ## Equality -/

mutual

/-- Equality of values; objects are compared as maps. -/
def Value.beq : Value → Value → Bool
  | .null, .null => true
  | .bool a, .bool b => a == b
  | .number a, .number b => a == b
  | .string a, .string b => a == b
  | .array as, .array bs => itemsBeq as bs
  | .object es, .object fs => es.length == fs.length && entriesFound es fs
  | _, _ => false

def itemsBeq : List Value → List Value → Bool
  | [], [] => true
  | a :: as, b :: bs => a.beq b && itemsBeq as bs
  | _, _ => false

/-- Every entry of the first object stands in the second. -/
def entriesFound : List (String × Value) → List (String × Value) → Bool
  | [], _ => true
  | (key, value) :: es, fs =>
      fs.any (fun f => f.1 == key && value.beq f.2) && entriesFound es fs

end

instance : BEq Value := ⟨Value.beq⟩

mutual

theorem Value.beq_self : ∀ v : Value, v.beq v = true
  | .null => rfl
  | .bool _ | .number _ | .string _ => by simp [Value.beq]
  | .array items => itemsBeq_self items
  | .object entries => by
      rw [Value.beq, entriesFound_of_subset entries entries (List.Subset.refl entries)]
      simp

theorem itemsBeq_self : ∀ items : List Value, itemsBeq items items = true
  | [] => rfl
  | v :: items => by rw [itemsBeq, Value.beq_self v, itemsBeq_self items]; rfl

theorem entriesFound_of_subset :
    ∀ es fs : List (String × Value), es ⊆ fs → entriesFound es fs = true
  | [], _, _ => rfl
  | (key, value) :: es, fs, h => by
      have hmem : (key, value) ∈ fs := h List.mem_cons_self
      have hfound : fs.any (fun f => f.1 == key && value.beq f.2) = true :=
        List.any_eq_true.mpr ⟨(key, value), hmem, by simp [Value.beq_self value]⟩
      rw [entriesFound, hfound,
        entriesFound_of_subset es fs fun e he => h (List.mem_cons_of_mem _ he)]
      rfl

end

/-- An entry of the first object stands in the second. -/
theorem entriesFound_mem {es fs : List (String × Value)} (h : entriesFound es fs = true)
    {e : String × Value} (he : e ∈ es) :
    ∃ f ∈ fs, f.1 = e.1 ∧ e.2.beq f.2 = true := by
  induction es with
  | nil => cases he
  | cons d es ih =>
      rw [entriesFound, Bool.and_eq_true] at h
      rcases List.mem_cons.mp he with rfl | hmem
      · obtain ⟨f, hf, hfound⟩ := List.any_eq_true.mp h.1
        rw [Bool.and_eq_true, beq_iff_eq] at hfound
        exact ⟨f, hf, hfound⟩
      · exact ih h.2 hmem

@[simp] theorem Value.beq_refl (v : Value) : (v == v) = true := v.beq_self

mutual

theorem Value.beq_trans_aux : ∀ {a b c : Value}, a.beq b = true → b.beq c = true → a.beq c = true
  | .null, .null, .null, _, _ => rfl
  | .bool _, .bool _, .bool _, h, h' | .number _, .number _, .number _, h, h'
  | .string _, .string _, .string _, h, h' => by
      rw [Value.beq, beq_iff_eq] at h h'
      rw [Value.beq, beq_iff_eq, h, h']
  | .array _, .array _, .array _, h, h' => by
      rw [Value.beq] at h h' ⊢
      exact itemsBeq_trans h h'
  | .object _, .object _, .object _, h, h' => by
      rw [Value.beq, Bool.and_eq_true, beq_iff_eq] at h h'
      rw [Value.beq, Bool.and_eq_true, beq_iff_eq]
      exact ⟨h.1.trans h'.1, entriesFound_trans h.2 h'.2⟩

theorem itemsBeq_trans : ∀ {as bs cs : List Value},
    itemsBeq as bs = true → itemsBeq bs cs = true → itemsBeq as cs = true
  | [], [], [], _, _ => rfl
  | a :: as, b :: bs, c :: cs, h, h' => by
      rw [itemsBeq, Bool.and_eq_true] at h h'
      rw [itemsBeq, Value.beq_trans_aux h.1 h'.1, itemsBeq_trans h.2 h'.2]
      rfl

theorem entriesFound_trans : ∀ {es fs gs : List (String × Value)},
    entriesFound es fs = true → entriesFound fs gs = true → entriesFound es gs = true
  | [], _, _, _, _ => rfl
  | (key, value) :: es, fs, gs, h, h' => by
      rw [entriesFound, Bool.and_eq_true] at h
      rw [entriesFound, Bool.and_eq_true]
      refine ⟨?_, entriesFound_trans h.2 h'⟩
      obtain ⟨f, hf, hfound⟩ := List.any_eq_true.mp h.1
      rw [Bool.and_eq_true, beq_iff_eq] at hfound
      obtain ⟨g, hg, hg'⟩ := entriesFound_mem h' hf
      rw [List.any_eq_true]
      refine ⟨g, hg, ?_⟩
      rw [Bool.and_eq_true, beq_iff_eq]
      exact ⟨hg'.1.trans hfound.1, Value.beq_trans_aux hfound.2 hg'.2⟩

end

theorem Value.beq_trans {a b c : Value} (h : (a == b) = true) (h' : (b == c) = true) :
    (a == c) = true :=
  Value.beq_trans_aux h h'

/-! Values may also be compared with the order of their entries. -/

mutual

/-- Equality of values with all that they hold, in its order. -/
def Value.same : Value → Value → Bool
  | .null, .null => true
  | .bool a, .bool b => a == b
  | .number a, .number b => a == b
  | .string a, .string b => a == b
  | .array as, .array bs => sameItems as bs
  | .object es, .object fs => sameEntries es fs
  | _, _ => false

def sameItems : List Value → List Value → Bool
  | [], [] => true
  | a :: as, b :: bs => a.same b && sameItems as bs
  | _, _ => false

def sameEntries : List (String × Value) → List (String × Value) → Bool
  | [], [] => true
  | (k, a) :: es, (k', b) :: fs => k == k' && a.same b && sameEntries es fs
  | _, _ => false

end

mutual

theorem Value.same_iff : ∀ {a b : Value}, a.same b = true ↔ a = b
  | a, b => by
      cases a <;> cases b <;> simp [Value.same, sameItems_iff, sameEntries_iff]

theorem sameItems_iff : ∀ {as bs : List Value}, sameItems as bs = true ↔ as = bs
  | [], [] => by simp [sameItems]
  | [], _ :: _ => by simp [sameItems]
  | _ :: _, [] => by simp [sameItems]
  | a :: as, b :: bs => by
      rw [sameItems, Bool.and_eq_true, Value.same_iff, sameItems_iff, List.cons.injEq]

theorem sameEntries_iff :
    ∀ {es fs : List (String × Value)}, sameEntries es fs = true ↔ es = fs
  | [], [] => by simp [sameEntries]
  | [], _ :: _ => by simp [sameEntries]
  | _ :: _, [] => by simp [sameEntries]
  | (k, a) :: es, (k', b) :: fs => by
      rw [sameEntries, Bool.and_eq_true, Bool.and_eq_true, beq_iff_eq, Value.same_iff,
        sameEntries_iff, List.cons.injEq, Prod.mk.injEq]

end

instance : DecidableEq Value := fun _ _ => decidable_of_iff _ Value.same_iff

/-! ## Text -/

def hexDigit (n : Nat) : Char := Char.ofNat (if n < 10 then 48 + n else 87 + n)

/-- A character as it is written inside a string. -/
def escapeChar (c : Char) : List Char :=
  if 0x20 ≤ c.toNat ∧ c.toNat ≠ 0x22 ∧ c.toNat ≠ 0x5C then [c]
  else
    match c.toNat with
    | 0x08 => ['\\', 'b']
    | 0x09 => ['\\', 't']
    | 0x0A => ['\\', 'n']
    | 0x0C => ['\\', 'f']
    | 0x0D => ['\\', 'r']
    | n =>
        if n < 0x20 then ['\\', 'u', '0', '0', hexDigit (n / 16), hexDigit (n % 16)]
        else ['\\', c]

def quote : Char := Char.ofNat 0x22

def writeString (s : String) : List Char := quote :: (s.toList.flatMap escapeChar ++ [quote])

mutual

/-- The compact text of a value. -/
def Value.write : Value → List Char
  | .null => ['n', 'u', 'l', 'l']
  | .bool true => ['t', 'r', 'u', 'e']
  | .bool false => ['f', 'a', 'l', 's', 'e']
  | .number token => token.toList
  | .string value => writeString value
  | .array items => '[' :: writeItems items
  | .object entries => Char.ofNat 0x7B :: writeEntries entries

/-- The items that remain of an array, with the bracket that closes it. -/
def writeItems : List Value → List Char
  | [] => [']']
  | [v] => v.write ++ [']']
  | v :: items => v.write ++ ',' :: writeItems items

def writeEntries : List (String × Value) → List Char
  | [] => [Char.ofNat 0x7D]
  | [(key, value)] => writeString key ++ ':' :: (value.write ++ [Char.ofNat 0x7D])
  | (key, value) :: entries =>
      writeString key ++ ':' :: (value.write ++ ',' :: writeEntries entries)

end

/-- The number of bytes of a text in UTF-8. -/
def byteLength (text : List Char) : Nat := (text.map Char.utf8Size).sum

/-! ## Values of plain data -/

namespace Value

def ofNat (n : Nat) : Value := .number (toString n)

theorem all_digits (n : Nat) :
    (Nat.toDigits 10 n).all (fun c => 48 ≤ c.toNat ∧ c.toNat ≤ 57) = true := by
  rw [List.all_eq_true]
  intro c hc
  have hdigit := Nat.isDigit_of_mem_toDigits (by decide) (by decide) hc
  rw [Char.isDigit, Bool.and_eq_true, decide_eq_true_iff, decide_eq_true_iff] at hdigit
  rw [decide_eq_true_iff]
  exact hdigit

/-- A number of sixty-four bits is read as it was written. -/
theorem asU64_ofNat {n : Nat} (h : n < 2 ^ 64) : (ofNat n).asU64 = some n := by
  have hdigits : (toString n).toList = Nat.toDigits 10 n := Nat.toList_repr
  have hvalue : (Nat.toDigits 10 n).foldl (fun n c => 10 * n + (c.toNat - 48)) 0 = n := by
    have := Nat.ofDigitChars_toDigits (b := 10) (n := n) (by decide) (by decide)
    rwa [Nat.ofDigitChars_eq_foldl] at this
  rw [ofNat, asU64, hdigits, if_pos ⟨Nat.toDigits_ne_nil, all_digits n⟩]
  simp only [hvalue, if_pos h]

def ofInt (n : Int) : Value := .number (toString n)

/-- The number that a row of decimal digits denotes. -/
def readDigits (digits : List Char) : Option Nat :=
  if digits ≠ [] ∧ digits.all (fun c => 48 ≤ c.toNat ∧ c.toNat ≤ 57) then
    some (digits.foldl (fun n c => 10 * n + (c.toNat - 48)) 0)
  else none

/-- The number of a token that is a row of decimal digits, behind a sign when it is negative. -/
def asInteger : Value → Option Int
  | .number token =>
      if token.toList.head? = some '-' then
        (readDigits token.toList.tail).map fun n : Nat => -(n : Int)
      else (readDigits token.toList).map fun n : Nat => (n : Int)
  | _ => none

theorem readDigits_toDigits (n : Nat) : readDigits (Nat.toDigits 10 n) = some n := by
  have hvalue := Nat.ofDigitChars_toDigits (b := 10) (n := n) (by decide) (by decide)
  rw [Nat.ofDigitChars_eq_foldl] at hvalue
  rw [readDigits, if_pos ⟨Nat.toDigits_ne_nil, all_digits n⟩]
  exact congrArg some hvalue

/-- A whole number is read as it was written. -/
theorem asInteger_ofInt (n : Int) : (ofInt n).asInteger = some n := by
  cases n with
  | ofNat n =>
      have htext : (toString (Int.ofNat n)).toList = Nat.toDigits 10 n := Nat.toList_repr
      have hhead : (Nat.toDigits 10 n).head? ≠ some '-' := by
        intro h
        have hmem := List.mem_of_mem_head? h
        have := List.all_eq_true.mp (all_digits n) _ hmem
        simp at this
      rw [ofInt, asInteger, htext, if_neg hhead, readDigits_toDigits]
      rfl
  | negSucc n =>
      have htext : (toString (Int.negSucc n)).toList = '-' :: Nat.toDigits 10 (n + 1) := by
        have : toString (Int.negSucc n) = "-" ++ (n + 1).repr := rfl
        rw [this, String.toList_append, Nat.toList_repr]
        rfl
      rw [ofInt, asInteger, htext, List.head?_cons, if_pos rfl, List.tail_cons, readDigits_toDigits]
      rfl

def ofStrings (l : List String) : Value := .array (l.map .string)

def ofOption {α : Type*} (f : α → Value) : Option α → Value
  | none => .null
  | some a => f a

end Value

namespace Map

def get (m : Map) (key : String) : Option Value := (m.find? fun e => e.1 = key).map Prod.snd

def containsKey (m : Map) (key : String) : Bool := m.any fun e => e.1 = key

def remove (m : Map) (key : String) : Map := m.filter fun e => e.1 ≠ key

/-- Replace the value of `key` in its place, or append it. -/
def insert (m : Map) (key : String) (value : Value) : Map :=
  match m with
  | [] => [(key, value)]
  | (k, v) :: m => if k = key then (key, value) :: m else (k, v) :: insert m key value

/-- Insert the entries of `other` one after the other. -/
def extend (m other : Map) : Map := other.foldl (fun m e => m.insert e.1 e.2) m

@[simp] theorem get_nil (key : String) : get [] key = none := rfl

theorem get_cons (k : String) (v : Value) (m : Map) (key : String) :
    get ((k, v) :: m) key = if k = key then some v else get m key := by
  by_cases h : k = key <;> simp [get, h]

theorem get_insert (m : Map) (key : String) (value : Value) (k : String) :
    (m.insert key value).get k = if k = key then some value else m.get k := by
  induction m with
  | nil =>
      by_cases hk : k = key
      · simp [insert, get_cons, hk]
      · simp [insert, get_cons, hk, Ne.symm hk]
  | cons e m ih =>
      obtain ⟨k', v⟩ := e
      by_cases h : k' = key
      · subst h
        by_cases hk : k = k'
        · simp [insert, get_cons, hk]
        · simp [insert, get_cons, hk, Ne.symm hk]
      · by_cases hk : k = key
        · subst hk
          simp [insert, get_cons, h, ih]
        · simp [insert, get_cons, h, hk, ih]

theorem get_eq_none {m : Map} {key : String} : m.get key = none ↔ ∀ e ∈ m, e.1 ≠ key := by
  simp [get]

theorem mem_of_get {m : Map} {key : String} {value : Value} (h : m.get key = some value) :
    (key, value) ∈ m := by
  obtain ⟨e, hfound, rfl⟩ := Option.map_eq_some_iff.mp h
  have hkey : e.1 = key := by simpa using List.find?_some hfound
  rw [← hkey]
  exact List.mem_of_find?_eq_some hfound

@[simp] theorem containsKey_eq_true {m : Map} {key : String} :
    m.containsKey key = true ↔ ∃ e ∈ m, e.1 = key := by
  simp [containsKey]

theorem get_remove (m : Map) (key k : String) :
    (m.remove key).get k = if k = key then none else m.get k := by
  induction m with
  | nil => simp [remove]
  | cons e m ih =>
      obtain ⟨k', v⟩ := e
      by_cases hkey : k' = key
      · have hdrop : remove ((k', v) :: m) key = remove m key := by simp [remove, hkey]
        rw [hdrop, ih, get_cons]
        by_cases hk : k = key
        · simp [hk]
        · simp [hk, show k' ≠ k from fun h => hk (h.symm.trans hkey)]
      · have hkeep : remove ((k', v) :: m) key = (k', v) :: remove m key := by
          simp [remove, hkey]
        rw [hkeep, get_cons, get_cons, ih]
        by_cases hk : k' = k
        · simp [hk, show k ≠ key from fun h => hkey (hk.trans h)]
        · simp [hk]

/-- **An entry whose key is not inserted** stays as it is. -/
theorem get_extend_of_notMem {m other : Map} {key : String} (h : ∀ e ∈ other, e.1 ≠ key) :
    (m.extend other).get key = m.get key := by
  induction other generalizing m with
  | nil => rfl
  | cons e other ih =>
      have hhead : e.1 ≠ key := h e List.mem_cons_self
      have htail := ih (m := m.insert e.1 e.2) fun e he => h e (List.mem_cons_of_mem _ he)
      rw [extend, List.foldl_cons]
      rw [extend] at htail
      rw [htail, get_insert, if_neg (Ne.symm hhead)]

/-- The insertions make the same difference to maps that agree on a key. -/
theorem get_extend_congr {m m' : Map} {key : String} (h : m.get key = m'.get key) (other : Map) :
    (m.extend other).get key = (m'.extend other).get key := by
  induction other generalizing m m' with
  | nil => exact h
  | cons e other ih =>
      rw [extend, extend, List.foldl_cons, List.foldl_cons]
      apply ih
      rw [get_insert, get_insert, h]

/-- What is found after the insertions was there before them or is one of them. -/
theorem get_extend {m other : Map} {key : String} {value : Value}
    (h : (m.extend other).get key = some value) :
    (key, value) ∈ other ∨ m.get key = some value := by
  induction other generalizing m with
  | nil => exact .inr h
  | cons e other ih =>
      rw [extend, List.foldl_cons] at h
      rcases ih h with hmem | hget
      · exact .inl (List.mem_cons_of_mem _ hmem)
      · rw [get_insert] at hget
        by_cases hk : key = e.1
        · rw [if_pos hk, Option.some.injEq] at hget
          exact .inl (by rw [hk, ← hget]; exact List.mem_cons_self)
        · exact .inr (by rwa [if_neg hk] at hget)

end Map

/-- The entry of an object. -/
def Value.get (v : Value) (key : String) : Option Value := v.asObject.bind (Map.get · key)

@[simp] theorem Value.get_object (m : Map) (key : String) :
    (Value.object m).get key = m.get key := rfl

end Marty.Lib.Json
