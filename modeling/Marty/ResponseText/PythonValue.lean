import Marty.ResponseText.PythonLiteral
import Marty.ResponseText.TextSemantics
import Marty.Lib.Unicode

/-!
# The representation of a value

What Python's `repr` shows of a JSON value: texts between quotes, with escapes for what is not
printable, and lists and objects with their items one after the other.  The values are taken
from a stack of tasks, so that no recursion is needed for deep ones.

## Main definitions

* `quotedPoints` — the representation of a text.
* `representationPoints` — that of a value; `PythonValue.write` is the recursion it stands for.

## Main statements

* `representationPoints_eq` — the loop over the stack writes what the recursion says.
* `readLiteral_quotedPoints` — a text is read back from its representation.
* `representation_unambiguous` — values without numbers have different representations.
-/

namespace Marty.ResponseText

open Marty.Lib Marty.Lib.Unicode

def points (text : String) : List Nat := text.toList.map Char.toNat

/-! ## Texts -/

/-- `{:0wx}` of a number that has no more than `w` digits. -/
def hexPoints (w point : Nat) : List Nat := (fixedHex w point).map Char.toNat

/-- Double quotes go around a text with single quotes in it, and no double ones. -/
def quoteOf (value : List Nat) : Nat := if 39 ∈ value ∧ 34 ∉ value then 34 else 39

def escapedPoint (quote point : Nat) : List Nat :=
  if point = 92 then points "\\\\"
  else if point = 10 then points "\\n"
  else if point = 13 then points "\\r"
  else if point = 9 then points "\\t"
  else if point = quote then [92, point]
  else if printable point then [point]
  else if point ≤ 0xff then points "\\x" ++ hexPoints 2 point
  else if point ≤ 0xffff then points "\\u" ++ hexPoints 4 point
  else points "\\U" ++ hexPoints 8 point

def quotedPoints (value : List Nat) : List Nat :=
  quoteOf value :: (value.flatMap (escapedPoint (quoteOf value)) ++ [quoteOf value])

/-! ## Values -/

def codes (text : List Codepoint) : List Nat := text.map Fin.val

inductive PythonValue
  | null
  | bool (value : Bool)
  | number (representation : String) (zero : Bool)
  | text (points : List Codepoint)
  | array (values : List PythonValue)
  | object (entries : List (List Codepoint × PythonValue))

/-- What is left to write: a value, or a text that is ready. -/
inductive Task
  | value (value : PythonValue)
  | text (points : List Nat)
  | literal (text : String)

/-- The tasks of items, above the tasks that follow them: the items are taken from the last one
on, and each but the first has a separator in front. -/
def pushSeparated {α : Type} (itemTasks : α → List Task) (items : List α) (start : Nat)
    (tasks : List Task) : List Task :=
  (items.zipIdx start).foldr (fun item tasks =>
    (if 0 < item.2 then [.literal ", "] else []) ++ (itemTasks item.1 ++ tasks)) tasks

def valueTasks (value : PythonValue) : List Task := [.value value]

def entryTasks (entry : List Codepoint × PythonValue) : List Task :=
  [.text (quotedPoints (codes entry.1)), .literal ": ", .value entry.2]

/-! Every task that is taken leaves smaller ones. -/

mutual

def PythonValue.size : PythonValue → Nat
  | .array values => 3 + itemsSize values
  | .object entries => 3 + entriesSize entries
  | _ => 2

def itemsSize : List PythonValue → Nat
  | [] => 0
  | value :: values => 1 + value.size + itemsSize values

def entriesSize : List (List Codepoint × PythonValue) → Nat
  | [] => 0
  | (_, value) :: entries => 3 + value.size + entriesSize entries

end

def Task.size : Task → Nat
  | .value v => v.size
  | .text _ | .literal _ => 1

def tasksSize (tasks : List Task) : Nat := (tasks.map Task.size).sum

@[simp] theorem tasksSize_cons (task : Task) (tasks : List Task) :
    tasksSize (task :: tasks) = task.size + tasksSize tasks := by
  simp [tasksSize]

@[simp] theorem tasksSize_append (tasks tasks' : List Task) :
    tasksSize (tasks ++ tasks') = tasksSize tasks + tasksSize tasks' := by
  simp [tasksSize]

@[simp] theorem pushSeparated_nil {α : Type} (itemTasks : α → List Task) (start : Nat)
    (tasks : List Task) : pushSeparated itemTasks [] start tasks = tasks := rfl

theorem pushSeparated_cons {α : Type} (itemTasks : α → List Task) (item : α) (items : List α)
    (start : Nat) (tasks : List Task) :
    pushSeparated itemTasks (item :: items) start tasks =
      (if 0 < start then [.literal ", "] else []) ++
        (itemTasks item ++ pushSeparated itemTasks items (start + 1) tasks) := rfl

theorem tasksSize_separator (start : Nat) :
    tasksSize (if 0 < start then [.literal ", "] else []) ≤ 1 := by
  split <;> simp [tasksSize, Task.size]

theorem tasksSize_values (values : List PythonValue) (start : Nat) (tasks : List Task) :
    tasksSize (pushSeparated valueTasks values start tasks) ≤
      itemsSize values + tasksSize tasks := by
  induction values generalizing start with
  | nil => simp [itemsSize]
  | cons value values ih =>
      have hrest := ih (start + 1)
      have hseparator := tasksSize_separator start
      rw [pushSeparated_cons, itemsSize]
      simp only [tasksSize_append, tasksSize_cons, valueTasks, Task.size]
      simp only [tasksSize, List.map_nil, List.sum_nil] at *
      omega

theorem tasksSize_entries (entries : List (List Codepoint × PythonValue)) (start : Nat)
    (tasks : List Task) :
    tasksSize (pushSeparated entryTasks entries start tasks) ≤
      entriesSize entries + tasksSize tasks := by
  induction entries generalizing start with
  | nil => simp [entriesSize]
  | cons entry entries ih =>
      have hrest := ih (start + 1)
      have hseparator := tasksSize_separator start
      rw [pushSeparated_cons, entriesSize]
      simp only [tasksSize_append, tasksSize_cons, entryTasks, Task.size]
      simp only [tasksSize, List.map_nil, List.sum_nil] at *
      omega

/-- The loop of `representation_points`. -/
def representationLoop (tasks : List Task) (output : List Nat) : List Nat :=
  match tasks with
  | [] => output
  | .text text :: tasks => representationLoop tasks (output ++ text)
  | .literal text :: tasks => representationLoop tasks (output ++ points text)
  | .value v :: tasks =>
      match v with
      | .null => representationLoop (.literal "None" :: tasks) output
      | .bool value => 
          representationLoop (.literal (if value then "True" else "False") :: tasks) output
      | .number representation _ => representationLoop tasks (output ++ points representation)
      | .text text => representationLoop tasks (output ++ quotedPoints (codes text))
      | .array values =>
          representationLoop (pushSeparated valueTasks values 0 (.literal "]" :: tasks))
            (output ++ points "[")
      | .object entries =>
          representationLoop (pushSeparated entryTasks entries 0 (.literal "\x7d" :: tasks))
            (output ++ points "\x7b")
  termination_by tasksSize tasks
  decreasing_by
    all_goals simp only [tasksSize_cons, Task.size, PythonValue.size]
    all_goals try omega
    · have hpushed := tasksSize_values values 0 (.literal "]" :: tasks)
      simp only [tasksSize_cons, Task.size] at hpushed
      omega
    · have hpushed := tasksSize_entries entries 0 (.literal "\x7d" :: tasks)
      simp only [tasksSize_cons, Task.size] at hpushed
      omega

def representationPoints (value : PythonValue) : List Nat :=
  representationLoop [.value value] []

/-! ## The text of a value -/

mutual

def PythonValue.write : PythonValue → List Nat
  | .null => points "None"
  | .bool value => points (if value then "True" else "False")
  | .number representation _ => points representation
  | .text text => quotedPoints (codes text)
  | .array values => points "[" ++ (writeItems values ++ points "]")
  | .object entries => points "\x7b" ++ (writeEntries entries ++ points "\x7d")

def writeItems : List PythonValue → List Nat
  | [] => []
  | value :: values => value.write ++ writeItemsTail values

/-- What follows an item. -/
def writeItemsTail : List PythonValue → List Nat
  | [] => []
  | value :: values => points ", " ++ (value.write ++ writeItemsTail values)

def writeEntries : List (List Codepoint × PythonValue) → List Nat
  | [] => []
  | (key, value) :: entries =>
      quotedPoints (codes key) ++ (points ": " ++ (value.write ++ writeEntriesTail entries))

def writeEntriesTail : List (List Codepoint × PythonValue) → List Nat
  | [] => []
  | (key, value) :: entries => points ", " ++ (quotedPoints (codes key) ++
      (points ": " ++ (value.write ++ writeEntriesTail entries)))

end

def Task.write : Task → List Nat
  | .value v => v.write
  | .text t => t
  | .literal t => points t

theorem flatMap_pushValues (values : List PythonValue) (start : Nat) (tasks : List Task) :
    (pushSeparated valueTasks values start tasks).flatMap Task.write =
      (if 0 < start then writeItemsTail values else writeItems values) ++
        tasks.flatMap Task.write := by
  induction values generalizing start with
  | nil => simp [writeItems, writeItemsTail]
  | cons value values ih =>
      rw [pushSeparated_cons, List.flatMap_append, List.flatMap_append, ih,
        if_pos (Nat.succ_pos start)]
      by_cases hstart : 0 < start
      · simp [hstart, valueTasks, writeItemsTail, Task.write]
      · simp [hstart, valueTasks, writeItems, Task.write]

theorem flatMap_pushEntries (entries : List (List Codepoint × PythonValue)) (start : Nat)
    (tasks : List Task) :
    (pushSeparated entryTasks entries start tasks).flatMap Task.write =
      (if 0 < start then writeEntriesTail entries else writeEntries entries) ++
        tasks.flatMap Task.write := by
  induction entries generalizing start with
  | nil => simp [writeEntries, writeEntriesTail]
  | cons entry entries ih =>
      rw [pushSeparated_cons, List.flatMap_append, List.flatMap_append, ih,
        if_pos (Nat.succ_pos start)]
      by_cases hstart : 0 < start
      · simp [hstart, entryTasks, writeEntriesTail, Task.write]
      · simp [hstart, entryTasks, writeEntries, Task.write]

/-- **The loop** writes what its tasks stand for. -/
theorem representationLoop_eq (tasks : List Task) (output : List Nat) :
    representationLoop tasks output = output ++ tasks.flatMap Task.write := by
  induction tasks, output using representationLoop.induct with
  | case1 output => simp [representationLoop]
  | case2 output text tasks ih => simp [representationLoop, ih, Task.write]
  | case3 output text tasks ih => simp [representationLoop, ih, Task.write]
  | case4 output tasks ih => simp [representationLoop, ih, Task.write, PythonValue.write]
  | case5 output tasks value ih =>
      cases value
      all_goals simpa [representationLoop, Task.write, PythonValue.write] using ih
  | case6 output tasks representation zero ih =>
      simp [representationLoop, ih, Task.write, PythonValue.write]
  | case7 output tasks text ih => simp [representationLoop, ih, Task.write, PythonValue.write]
  | case8 output tasks values ih =>
      rw [representationLoop, ih, flatMap_pushValues]
      simp [Task.write, PythonValue.write]
  | case9 output tasks entries ih =>
      rw [representationLoop, ih, flatMap_pushEntries]
      simp [Task.write, PythonValue.write]

theorem representationPoints_eq (value : PythonValue) :
    representationPoints value = value.write := by
  simp [representationPoints, representationLoop_eq, Task.write]

/-! ## Reading a text back -/

theorem quoteOf_cases (value : List Nat) : quoteOf value = 39 ∨ quoteOf value = 34 := by
  unfold quoteOf
  split
  · exact .inr rfl
  · exact .inl rfl

theorem readEscape_hex {letter w point : Nat} (rest : List Nat)
    (hletter : (letter = 120 ∧ w = 2) ∨ (letter = 117 ∧ w = 4) ∨ (letter = 85 ∧ w = 8))
    (hpoint : point < 16 ^ w) (hcode : point < 0x110000) :
    readEscape (letter :: (hexPoints w point ++ rest)) = some ([point], rest) := by
  have hread : readHex w 0 (hexPoints w point ++ rest) = some (point, rest) := by
    have h := readHex_fixedHex w 0 0 point rest hpoint
    rwa [Nat.add_zero, Nat.mul_zero, Nat.zero_add] at h
  rcases hletter with ⟨rfl, rfl⟩ | ⟨rfl, rfl⟩ | ⟨rfl, rfl⟩
  · rw [readEscape, hread]
    rfl
  · rw [readEscape, hread]
    rfl
  · have hle : point ≤ 0x10ffff := by omega
    have hnone : simpleEscapes.lookup 85 = none := rfl
    rw [readEscape, hread]
    simp [hnone, InSource, hle]

/-- **A point is read back** from what is written for it. -/
theorem readBody_escapedPoint {quote point : Nat} (hquote : quote = 39 ∨ quote = 34)
    (hpoint : point < 0x110000) (rest : List Nat) :
    readBody quote (escapedPoint quote point ++ rest) =
      (readBody quote rest).map fun read => (point :: read.1, read.2) := by
  have hslash : quote ≠ 92 := by omega
  have hsimple : ∀ letter, readEscape (letter :: rest) = some ([point], rest) →
      readBody quote ([92, letter] ++ rest) =
        (readBody quote rest).map fun read => (point :: read.1, read.2) :=
    fun letter h => readBody_escape hslash h
  have hhex : ∀ letter w, (letter = 120 ∧ w = 2) ∨ (letter = 117 ∧ w = 4) ∨
      (letter = 85 ∧ w = 8) → point < 16 ^ w →
      readBody quote ([92, letter] ++ hexPoints w point ++ rest) =
        (readBody quote rest).map fun read => (point :: read.1, read.2) := by
    intro letter w hletter hw
    rw [List.append_assoc]
    exact readBody_escape hslash (readEscape_hex rest hletter hw hpoint)
  unfold escapedPoint
  split
  case isTrue h => exact hsimple 92 (by subst h; rfl)
  split
  case isTrue h => exact hsimple 110 (by subst h; rfl)
  split
  case isTrue h => exact hsimple 114 (by subst h; rfl)
  split
  case isTrue h => exact hsimple 116 (by subst h; rfl)
  split
  case isTrue h =>
    subst h
    refine hsimple point ?_
    rcases hquote with rfl | rfl <;> rfl
  split
  case isTrue _ _ _ _ hother hprintable =>
    obtain ⟨hshown, hsurrogate⟩ := printable_shown hprintable
    refine readBody_cons ⟨hother, ?_⟩ rest
    unfold InSource
    omega
  split
  case isTrue h => exact hhex 120 2 (by simp) (by omega)
  split
  case isTrue h => exact hhex 117 4 (by simp) (by omega)
  case isFalse => exact hhex 85 8 (by simp) (by omega)

theorem readBody_quoted {quote : Nat} (hquote : quote = 39 ∨ quote = 34) {value : List Nat}
    (hvalue : ∀ point ∈ value, point < 0x110000) (rest : List Nat) :
    readBody quote (value.flatMap (escapedPoint quote) ++ quote :: rest) = some (value, rest) := by
  induction value with
  | nil => exact readBody_quote quote rest
  | cons point value ih =>
      have hrest := ih fun p hp => hvalue p (List.mem_cons_of_mem _ hp)
      rw [List.flatMap_cons, List.append_assoc,
        readBody_escapedPoint hquote (hvalue point List.mem_cons_self), hrest, Option.map_some]

theorem escapedPoint_ne_nil (quote point : Nat) : escapedPoint quote point ≠ [] := by
  unfold escapedPoint
  repeat' split
  all_goals simp [points]

/-- No point is written with a quote in front. -/
theorem escapedPoint_head {quote : Nat} (hquote : quote = 39 ∨ quote = 34) (point : Nat) :
    (escapedPoint quote point).head? ≠ some quote := by
  have hslash : ∀ points : List Nat, (92 :: points).head? ≠ some quote := by
    intro points h
    have heq : 92 = quote := Option.some.inj h
    omega
  unfold escapedPoint
  split
  case isTrue => exact hslash [92]
  split
  case isTrue => exact hslash [110]
  split
  case isTrue => exact hslash [114]
  split
  case isTrue => exact hslash [116]
  split
  case isTrue => exact hslash [point]
  split
  case isTrue _ _ _ _ hother _ =>
    intro h
    exact hother (Option.some.inj h)
  split
  case isTrue => exact hslash (120 :: hexPoints 2 point)
  split
  case isTrue => exact hslash (117 :: hexPoints 4 point)
  case isFalse => exact hslash (85 :: hexPoints 8 point)

theorem quotedPoints_not_long (value : List Nat) (quote : Nat) (hquote : quote = 39 ∨ quote = 34) :
    (value.flatMap (escapedPoint quote) ++ [quote]).take 2 ≠ [quote, quote] := by
  cases value with
  | nil => simp
  | cons point value =>
      intro h
      have hhead := congrArg List.head? h
      rw [List.head?_take, if_neg (by decide), List.flatMap_cons, List.append_assoc,
        List.head?_append_of_ne_nil _ (escapedPoint_ne_nil quote point)] at hhead
      exact escapedPoint_head hquote point hhead

/-- **The output is a literal for the text.** -/
theorem readLiteral_quotedPoints {value : List Nat}
    (hvalue : ∀ point ∈ value, point < 0x110000) :
    readLiteral (quotedPoints value) = some value := by
  have hquote := quoteOf_cases value
  rw [quotedPoints, readLiteral, if_neg (not_not.mpr hquote),
    if_neg (quotedPoints_not_long value _ hquote), readBody_quoted hquote hvalue]

example : quotedPoints (points "it's") = points "\"it's\"" := by decide +kernel

theorem codes_lt (text : List Codepoint) : ∀ point ∈ codes text, point < 0x110000 := by
  intro point hpoint
  obtain ⟨p, -, rfl⟩ := List.mem_map.mp hpoint
  exact p.isLt

theorem codes_injective {a b : List Codepoint} (h : codes a = codes b) : a = b :=
  List.map_injective_iff.mpr (fun _ _ => Fin.ext) h

/-- **Texts are a prefix code**: what follows a text does not blur it. -/
theorem quotedPoints_injective {a b : List Codepoint} {r s : List Nat}
    (h : quotedPoints (codes a) ++ r = quotedPoints (codes b) ++ s) : a = b ∧ r = s := by
  simp only [quotedPoints, List.cons_append, List.append_assoc, List.nil_append,
    List.cons.injEq] at h
  obtain ⟨hquote, hbody⟩ := h
  have hread := readBody_quoted (quoteOf_cases (codes a)) (codes_lt a) r
  rw [hbody, hquote, readBody_quoted (quoteOf_cases (codes b)) (codes_lt b) s, Option.some.injEq,
    Prod.mk.injEq] at hread
  exact ⟨(codes_injective hread.1).symm, hread.2.symm⟩

/-! ## Reading a value back -/

mutual

/-- A value without numbers. -/
def PythonValue.NumberFree : PythonValue → Prop
  | .number _ _ => False
  | .array values => itemsNumberFree values
  | .object entries => entriesNumberFree entries
  | _ => True

def itemsNumberFree : List PythonValue → Prop
  | [] => True
  | value :: values => value.NumberFree ∧ itemsNumberFree values

def entriesNumberFree : List (List Codepoint × PythonValue) → Prop
  | [] => True
  | (_, value) :: entries => value.NumberFree ∧ entriesNumberFree entries

end

/-- What kind of value a text starts. -/
def textKind (point : Nat) : Nat :=
  if point = 78 then 0 else if point = 84 then 1 else if point = 70 then 2
  else if point = 39 ∨ point = 34 then 3 else if point = 91 then 4 else if point = 123 then 5
  else 6

def PythonValue.kind : PythonValue → Nat
  | .null => 0
  | .bool true => 1
  | .bool false => 2
  | .text _ => 3
  | .array _ => 4
  | .object _ => 5
  | .number _ _ => 7

theorem PythonValue.write_head {v : PythonValue} (h : v.NumberFree) :
    ∃ point rest, v.write = point :: rest ∧ textKind point = v.kind := by
  cases v with
  | null => exact ⟨_, _, rfl, rfl⟩
  | bool b => cases b <;> exact ⟨_, _, rfl, rfl⟩
  | number representation zero => exact h.elim
  | text text =>
      refine ⟨_, _, rfl, ?_⟩
      rcases quoteOf_cases (codes text) with hquote | hquote <;> rw [hquote] <;> rfl
  | array values => exact ⟨_, _, rfl, rfl⟩
  | object entries => exact ⟨_, _, rfl, rfl⟩

theorem PythonValue.kind_eq {v w : PythonValue} (hv : v.NumberFree) (hw : w.NumberFree)
    {r s : List Nat} (h : v.write ++ r = w.write ++ s) : v.kind = w.kind := by
  obtain ⟨p, t, hvw, hp⟩ := v.write_head hv
  obtain ⟨q, u, hww, hq⟩ := w.write_head hw
  rw [hvw, hww, List.cons_append, List.cons_append, List.cons.injEq] at h
  rw [← hp, ← hq, h.1]

/-- A value does not start as a list ends. -/
theorem PythonValue.write_ne_bracket {v : PythonValue} (h : v.NumberFree) (r s : List Nat) :
    v.write ++ r ≠ 93 :: s := by
  obtain ⟨p, t, hvw, hp⟩ := v.write_head h
  intro heq
  rw [hvw, List.cons_append, List.cons.injEq] at heq
  have hbracket : textKind 93 = 6 := by decide
  rw [heq.1, hbracket] at hp
  cases v with
  | bool b => cases b <;> cases hp
  | _ => cases hp

mutual

theorem PythonValue.write_injective_aux : ∀ {v w : PythonValue} {r s : List Nat},
    v.NumberFree → w.NumberFree → v.write ++ r = w.write ++ s → v = w ∧ r = s
  | .null, w, r, s, hv, hw, h => by
      have hkind := PythonValue.kind_eq hv hw h
      cases w with
      | null => exact ⟨rfl, List.append_cancel_left h⟩
      | bool b => cases b <;> cases hkind
      | _ => cases hkind
  | .bool a, w, r, s, hv, hw, h => by
      have hkind := PythonValue.kind_eq hv hw h
      cases w with
      | bool b => cases a <;> cases b <;> cases hkind <;> exact ⟨rfl, List.append_cancel_left h⟩
      | _ => cases a <;> cases hkind
  | .number _ _, _, _, _, hv, _, _ => hv.elim
  | .text a, w, r, s, hv, hw, h => by
      have hkind := PythonValue.kind_eq hv hw h
      cases w with
      | text b =>
          obtain ⟨rfl, hrest⟩ := quotedPoints_injective h
          exact ⟨rfl, hrest⟩
      | bool b => cases b <;> cases hkind
      | _ => cases hkind
  | .array as, w, r, s, hv, hw, h => by
      have hkind := PythonValue.kind_eq hv hw h
      cases w with
      | array bs =>
          simp only [PythonValue.write, List.append_assoc] at h
          obtain ⟨rfl, hrest⟩ := writeItems_injective hv hw (List.append_cancel_left h)
          exact ⟨rfl, hrest⟩
      | bool b => cases b <;> cases hkind
      | _ => cases hkind
  | .object as, w, r, s, hv, hw, h => by
      have hkind := PythonValue.kind_eq hv hw h
      cases w with
      | object bs =>
          simp only [PythonValue.write, List.append_assoc] at h
          obtain ⟨rfl, hrest⟩ := writeEntries_injective hv hw (List.append_cancel_left h)
          exact ⟨rfl, hrest⟩
      | bool b => cases b <;> cases hkind
      | _ => cases hkind

theorem writeItems_injective : ∀ {as bs : List PythonValue} {r s : List Nat},
    itemsNumberFree as → itemsNumberFree bs →
    writeItems as ++ (points "]" ++ r) = writeItems bs ++ (points "]" ++ s) → as = bs ∧ r = s
  | [], [], _, _, _, _, h => ⟨rfl, (List.cons.inj h).2⟩
  | [], b :: bs, _, _, _, hbs, h => by
      rw [writeItems, writeItems, List.append_assoc] at h
      exact absurd h.symm (PythonValue.write_ne_bracket hbs.1 _ _)
  | a :: as, [], _, _, has, _, h => by
      rw [writeItems, writeItems, List.append_assoc] at h
      exact absurd h (PythonValue.write_ne_bracket has.1 _ _)
  | a :: as, b :: bs, r, s, has, hbs, h => by
      rw [writeItems, writeItems, List.append_assoc, List.append_assoc] at h
      obtain ⟨rfl, hrest⟩ := PythonValue.write_injective_aux has.1 hbs.1 h
      obtain ⟨rfl, hr⟩ := writeItemsTail_injective has.2 hbs.2 hrest
      exact ⟨rfl, hr⟩

theorem writeItemsTail_injective : ∀ {as bs : List PythonValue} {r s : List Nat},
    itemsNumberFree as → itemsNumberFree bs →
    writeItemsTail as ++ (points "]" ++ r) = writeItemsTail bs ++ (points "]" ++ s) →
      as = bs ∧ r = s
  | [], [], _, _, _, _, h => ⟨rfl, (List.cons.inj h).2⟩
  | [], b :: bs, _, _, _, _, h => absurd (List.cons.inj h).1 (by decide)
  | a :: as, [], _, _, _, _, h => absurd (List.cons.inj h).1 (by decide)
  | a :: as, b :: bs, r, s, has, hbs, h => by
      simp only [writeItemsTail, List.append_assoc] at h
      obtain ⟨rfl, hrest⟩ := PythonValue.write_injective_aux has.1 hbs.1
        (List.append_cancel_left h)
      obtain ⟨rfl, hr⟩ := writeItemsTail_injective has.2 hbs.2 hrest
      exact ⟨rfl, hr⟩

theorem writeEntries_injective : ∀ {as bs : List (List Codepoint × PythonValue)} {r s : List Nat},
    entriesNumberFree as → entriesNumberFree bs →
    writeEntries as ++ (points "\x7d" ++ r) = writeEntries bs ++ (points "\x7d" ++ s) →
      as = bs ∧ r = s
  | [], [], _, _, _, _, h => ⟨rfl, (List.cons.inj h).2⟩
  | [], (key, value) :: bs, _, _, _, _, h => by
      refine absurd (List.cons.inj h).1 ?_
      rcases quoteOf_cases (codes key) with hquote | hquote <;> rw [hquote] <;> decide
  | (key, value) :: as, [], _, _, _, _, h => by
      refine absurd (List.cons.inj h).1 ?_
      rcases quoteOf_cases (codes key) with hquote | hquote <;> rw [hquote] <;> decide
  | (key, value) :: as, (key', value') :: bs, r, s, has, hbs, h => by
      simp only [writeEntries, List.append_assoc] at h
      obtain ⟨rfl, hvalues⟩ := quotedPoints_injective h
      obtain ⟨rfl, hrest⟩ := PythonValue.write_injective_aux has.1 hbs.1
        (List.append_cancel_left hvalues)
      obtain ⟨rfl, hr⟩ := writeEntriesTail_injective has.2 hbs.2 hrest
      exact ⟨rfl, hr⟩

theorem writeEntriesTail_injective :
    ∀ {as bs : List (List Codepoint × PythonValue)} {r s : List Nat},
    entriesNumberFree as → entriesNumberFree bs →
    writeEntriesTail as ++ (points "\x7d" ++ r) = writeEntriesTail bs ++ (points "\x7d" ++ s) →
      as = bs ∧ r = s
  | [], [], _, _, _, _, h => ⟨rfl, (List.cons.inj h).2⟩
  | [], (key, value) :: bs, _, _, _, _, h => absurd (List.cons.inj h).1 (by decide)
  | (key, value) :: as, [], _, _, _, _, h => absurd (List.cons.inj h).1 (by decide)
  | (key, value) :: as, (key', value') :: bs, r, s, has, hbs, h => by
      simp only [writeEntriesTail, List.append_assoc] at h
      obtain ⟨rfl, hvalues⟩ := quotedPoints_injective (List.append_cancel_left h)
      obtain ⟨rfl, hrest⟩ := PythonValue.write_injective_aux has.1 hbs.1
        (List.append_cancel_left hvalues)
      obtain ⟨rfl, hr⟩ := writeEntriesTail_injective has.2 hbs.2 hrest
      exact ⟨rfl, hr⟩

end

/-- **A representation is unambiguous.**  The output for a text is a literal that denotes it, so
that no two texts have one output, and neither have two values without numbers. -/
theorem representation_unambiguous :
    (∀ text : List Codepoint, readLiteral (quotedPoints (codes text)) = some (codes text)) ∧
    (∀ text text' : List Codepoint, quotedPoints (codes text) = quotedPoints (codes text') →
      text = text') ∧
    ∀ value value' : PythonValue, value.NumberFree → value'.NumberFree →
      representationPoints value = representationPoints value' → value = value' := by
  refine ⟨fun text => readLiteral_quotedPoints (codes_lt text), ?_, ?_⟩
  · intro text text' h
    exact (quotedPoints_injective (congrArg (· ++ []) h)).1
  · intro value value' hvalue hvalue' h
    rw [representationPoints_eq, representationPoints_eq] at h
    exact (PythonValue.write_injective_aux hvalue hvalue' (congrArg (· ++ []) h)).1

namespace Example

def textOf (text : String) : List Codepoint :=
  text.toList.map fun c => ⟨c.toNat, toNat_lt c⟩

/-- A separator within a text is no separator. -/
theorem representation_unambiguous_separator :
    representationPoints (.array [.text (textOf "a"), .text (textOf "b")]) ≠
      representationPoints (.array [.text (textOf "a', 'b")]) := by
  intro h
  have hsame := representation_unambiguous.2.2 (.array [.text (textOf "a"), .text (textOf "b")])
    (.array [.text (textOf "a', 'b")]) ⟨trivial, trivial, trivial⟩ ⟨trivial, trivial⟩ h
  cases hsame

end Example

end Marty.ResponseText
