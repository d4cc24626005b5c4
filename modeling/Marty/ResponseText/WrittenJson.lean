import Marty.Lib.JsonViews
import Marty.ResponseText.JsonTree
import Mathlib.Tactic.IntervalCases

/-!
# Written values are read back

The compact text of a value is parsed to the tree that the value stands for: its texts hold no
surrogates, its numbers keep their tokens, and its objects their entries.

## Main definitions

* `JsonNode.ofValue` — the tree of a value.
* `IsNumber` — the grammar of a number; `Readable` — values whose numbers are numbers.
* `parseTree_write` — the tree of the compact text of a value.
-/

namespace Marty.ResponseText

open Lib Lib.Json Lib.Unicode

mutual

def JsonNode.ofValue : Value → JsonNode
  | .string value => .text (.scalar value.toList)
  | .array items => .array (nodesOf items)
  | .object entries => .object (entriesOf entries)
  | value => .scalar value

def nodesOf : List Value → List JsonNode
  | [] => []
  | v :: items => .ofValue v :: nodesOf items

def entriesOf : List (String × Value) → List (PythonText × JsonNode)
  | [] => []
  | (key, value) :: entries => (.scalar key.toList, .ofValue value) :: entriesOf entries

end

/-- The points of a text. -/
def pointsOf (text : List Char) : Parser.Points := text.map Char.toNat

theorem pointsOf_append (text text' : List Char) :
    pointsOf (text ++ text') = pointsOf text ++ pointsOf text' := List.map_append

theorem pointsOf_cons (c : Char) (text : List Char) :
    pointsOf (c :: text) = c.toNat :: pointsOf text := rfl

namespace Parser

/-! ## Texts -/

theorem push_char (done : List Char) (c : Char) :
    (PythonText.scalar done).push c.toNat = .ok (.scalar (done ++ [c])) := by
  have hpush := push_eq_ok (.scalar done) (charPoint c)
  have hadd : (PythonText.scalar done).add (charPoint c) = .scalar (done ++ [c]) :=
    codepoints_injective (by
      rw [codepoints_add]
      simp [PythonText.codepoints, charPoint])
  rwa [hadd] at hpush

theorem textPoint_escapeChar (c : Char) (rest : Points) :
    textPoint (pointsOf (escapeChar c) ++ rest) = some (some c.toNat, rest) := by
  by_cases hplain : isPlain c
  · rw [escapeChar_of_plain hplain]
    change textPoint (c.toNat :: rest) = _
    obtain ⟨hspace, hquote, hslash⟩ := hplain
    rw [textPoint, if_neg hquote, if_neg (by omega), if_neg hslash]
  · have hall : ∀ n ∈ List.range 0x20 ++ [0x22, 0x5C],
        textPoint (pointsOf (escapeChar (Char.ofNat n)) ++ rest) =
          some (some (Char.ofNat n).toNat, rest) := by
      intro n hn
      simp only [List.mem_append, List.mem_range, List.mem_cons, List.not_mem_nil, or_false] at hn
      obtain hn | rfl | rfl := hn
      · interval_cases n <;> rfl
      · rfl
      · rfl
    obtain ⟨n, hn, rfl⟩ := List.mem_map.mp (mem_escaped hplain)
    exact hall n hn

/-- **A written text** is read back. -/
theorem textFrom_write (done text : List Char) (rest : Points) :
    textFrom (.scalar done) (pointsOf (text.flatMap escapeChar) ++ 34 :: rest) =
      some (.scalar (done ++ text), rest) := by
  induction text generalizing done with
  | nil =>
      rw [List.append_nil]
      exact textFrom_end rfl
  | cons c text ih =>
      rw [List.flatMap_cons, pointsOf_append, List.append_assoc,
        textFrom_push (textPoint_escapeChar c _) (push_char done c), ih, List.append_assoc,
        List.singleton_append]

theorem string_write (text : String) (rest : Points) :
    string (pointsOf (writeString text) ++ rest) = some (.scalar text.toList, rest) := by
  have hquote : pointsOf (writeString text) ++ rest =
      34 :: (pointsOf (text.toList.flatMap escapeChar) ++ 34 :: rest) := by
    rw [writeString, pointsOf_cons, pointsOf_append, List.cons_append, List.append_assoc]
    rfl
  rw [string, hquote, take_eq_some.mpr rfl, Option.bind_some]
  exact textFrom_write [] text.toList rest

/-! ## Numbers -/

/-- The grammar of a number: a sign, an integer without leading zeros, a fraction, an exponent. -/
structure NumberParts (points sign integer fraction exponent : List Nat) : Prop where
  points_eq : points = sign ++ (integer ++ (fraction ++ exponent))
  sign : sign = [] ∨ sign = [45]
  integer : integer = [48] ∨
    ∃ d ds, integer = d :: ds ∧ d ≠ 48 ∧ ∀ digit ∈ d :: ds, isDigit digit = true
  fraction : fraction = [] ∨
    ∃ ds, fraction = 46 :: ds ∧ ds ≠ [] ∧ ∀ digit ∈ ds, isDigit digit = true
  exponent : exponent = [] ∨ ∃ mark signed ds, exponent = mark :: (signed ++ ds) ∧
    mark ∈ [101, 69] ∧ signed ∈ [[], [43], [45]] ∧ ds ≠ [] ∧ ∀ digit ∈ ds, isDigit digit = true

def NoDigit (points : Points) : Prop := ∀ point ∈ points.head?, isDigit point = false

theorem digits_append {ds rest : Points} (hne : ds ≠ []) (hds : ∀ d ∈ ds, isDigit d = true)
    (hrest : NoDigit rest) : digits (ds ++ rest) = some (ds, rest) := by
  have htake : rest.takeWhile isDigit = [] := by
    cases rest with
    | nil => rfl
    | cons point rest => simp [hrest point rfl]
  have hdrop : rest.dropWhile isDigit = rest := by
    cases rest with
    | nil => rfl
    | cons point rest => simp [hrest point rfl]
  have hfound : (ds ++ rest).takeWhile isDigit = ds := by
    rw [List.takeWhile_append_of_pos hds, htake, List.append_nil]
  have hleft : (ds ++ rest).dropWhile isDigit = rest := by
    rw [List.dropWhile_append_of_pos hds, hdrop]
  simp only [digits, List.span_eq_takeWhile_dropWhile, hfound, hleft, if_neg hne]

theorem optional_hit {point : Nat} {expected : List Nat} (h : point ∈ expected) (rest : Points) :
    optional (point :: rest) expected = ([point], rest) := by
  rw [optional, if_pos h]

theorem optional_miss {points : Points} {expected : List Nat}
    (h : ∀ point ∈ points.head?, point ∉ expected) : optional points expected = ([], points) := by
  cases points with
  | nil => rfl
  | cons point rest => rw [optional, if_neg (h point rfl)]

/-- What follows the text of a value: nothing, or a comma or a closing bracket. -/
def Follows (rest : Points) : Prop := ∀ point ∈ rest.head?, point ∈ [44, 93, 125]

theorem Follows.head {rest : Points} (h : Follows rest) :
    ∀ point ∈ rest.head?, point ∉ [46] ∧ point ∉ [101, 69] ∧ isDigit point = false := by
  intro point hpoint
  have hmem := h point hpoint
  simp only [List.mem_cons, List.not_mem_nil, or_false] at hmem
  obtain rfl | rfl | rfl := hmem <;> decide

theorem exponentPart_append {exponent rest : Points}
    (h : exponent = [] ∨ ∃ mark signed ds, exponent = mark :: (signed ++ ds) ∧
      mark ∈ [101, 69] ∧ signed ∈ [[], [43], [45]] ∧ ds ≠ [] ∧ ∀ digit ∈ ds, isDigit digit = true)
    (hrest : Follows rest) : exponentPart (exponent ++ rest) = some (exponent, rest) := by
  obtain rfl | ⟨mark, signed, ds, rfl, hmark, hsigned, hne, hds⟩ := h
  · have hmiss := optional_miss (fun point hpoint => (hrest.head point hpoint).2.1)
    simp [exponentPart, hmiss]
  · have hdigits := digits_append hne hds fun point hpoint => (hrest.head point hpoint).2.2
    have hsign : optional (signed ++ (ds ++ rest)) [43, 45] = (signed, ds ++ rest) := by
      simp only [List.mem_cons, List.not_mem_nil, or_false] at hsigned
      obtain rfl | rfl | rfl := hsigned
      · apply optional_miss
        intro point hpoint hsign
        cases ds with
        | nil => exact hne rfl
        | cons d ds =>
            obtain rfl : d = point := Option.some.inj hpoint
            have hd := hds d List.mem_cons_self
            simp only [List.mem_cons, List.not_mem_nil, or_false] at hsign
            obtain rfl | rfl := hsign <;> cases hd
      · exact optional_hit (by decide) _
      · exact optional_hit (by decide) _
    have happend : mark :: (signed ++ ds) ++ rest = mark :: (signed ++ (ds ++ rest)) := by
      rw [List.cons_append, List.append_assoc]
    rw [happend]
    simp [exponentPart, optional_hit hmark, hsign, hdigits]

theorem fractionPart_append {fraction rest : Points}
    (h : fraction = [] ∨ ∃ ds, fraction = 46 :: ds ∧ ds ≠ [] ∧ ∀ digit ∈ ds, isDigit digit = true)
    (hrest : ∀ point ∈ rest.head?, point ≠ 46 ∧ isDigit point = false) :
    fractionPart (fraction ++ rest) = some (fraction, rest) := by
  obtain rfl | ⟨ds, rfl, hne, hds⟩ := h
  · have hmiss := optional_miss (fun point hpoint =>
      show point ∉ [46] by simpa using (hrest point hpoint).1)
    simp [fractionPart, hmiss]
  · have hdigits := digits_append hne hds fun point hpoint => (hrest point hpoint).2
    have hdot : optional (46 :: (ds ++ rest)) [46] = ([46], ds ++ rest) :=
      optional_hit (by decide) _
    rw [List.cons_append]
    simp [fractionPart, hdot, hdigits]

theorem integerPart_append {integer rest : Points}
    (h : integer = [48] ∨
      ∃ d ds, integer = d :: ds ∧ d ≠ 48 ∧ ∀ digit ∈ d :: ds, isDigit digit = true)
    (hrest : NoDigit rest) : integerPart (integer ++ rest) = some (integer, rest) := by
  obtain rfl | ⟨d, ds, rfl, hzero, hds⟩ := h
  · rfl
  · have hdigits := digits_append (List.cons_ne_nil d ds) hds hrest
    rw [List.cons_append] at hdigits ⊢
    rw [integerPart, if_neg hzero, hdigits]

/-- **A number is read back**, whatever follows it. -/
theorem number_append {points sign integer fraction exponent rest : Points}
    (h : NumberParts points sign integer fraction exponent) (hrest : Follows rest) :
    number (points ++ rest) =
      some (.scalar (.number (String.ofList (points.map Char.ofNat))), rest) := by
  have hexponent : ∀ point ∈ (exponent ++ rest).head?, point ≠ 46 ∧ isDigit point = false := by
    intro point hpoint
    obtain hnone | ⟨mark, signed, ds, hsome, hmark, -⟩ := h.exponent
    · rw [hnone, List.nil_append] at hpoint
      obtain ⟨hdot, -, hdigit⟩ := hrest.head point hpoint
      exact ⟨by simpa using hdot, hdigit⟩
    · rw [hsome, List.cons_append] at hpoint
      obtain rfl : mark = point := Option.some.inj hpoint
      simp only [List.mem_cons, List.not_mem_nil, or_false] at hmark
      obtain rfl | rfl := hmark <;> decide
  have hfraction : NoDigit (fraction ++ (exponent ++ rest)) := by
    intro point hpoint
    obtain hnone | ⟨ds, hsome, -⟩ := h.fraction
    · rw [hnone, List.nil_append] at hpoint
      exact (hexponent point hpoint).2
    · rw [hsome, List.cons_append] at hpoint
      obtain rfl : 46 = point := Option.some.inj hpoint
      rfl
  have hinteger : ∀ point ∈ (integer ++ (fraction ++ (exponent ++ rest))).head?,
      point ∉ [45] := by
    intro point hpoint hmem
    rw [List.mem_singleton] at hmem
    obtain hzero | ⟨d, ds, hds, -, hdigit⟩ := h.integer
    · rw [hzero, List.cons_append] at hpoint
      obtain rfl : 48 = point := Option.some.inj hpoint
      cases hmem
    · rw [hds, List.cons_append] at hpoint
      obtain rfl : d = point := Option.some.inj hpoint
      have hd := hdigit d List.mem_cons_self
      rw [hmem] at hd
      cases hd
  have hsign : optional (sign ++ (integer ++ (fraction ++ (exponent ++ rest)))) [45] =
      (sign, integer ++ (fraction ++ (exponent ++ rest))) := by
    obtain hnone | hsome := h.sign
    · rw [hnone, List.nil_append]
      exact optional_miss hinteger
    · rw [hsome, List.singleton_append]
      exact optional_hit (by decide) _
  have hpoints : points ++ rest = sign ++ (integer ++ (fraction ++ (exponent ++ rest))) := by
    rw [h.points_eq]
    simp only [List.append_assoc]
  have htoken : sign ++ integer ++ fraction ++ exponent = points := by
    rw [h.points_eq]
    simp only [List.append_assoc]
  rw [hpoints]
  simp only [number, hsign, integerPart_append h.integer hfraction,
    fractionPart_append h.fraction hexponent, exponentPart_append h.exponent hrest,
    Option.bind_eq_bind, Option.bind_some, htoken]
  rfl

/-- A number starts with a digit or with its sign. -/
theorem NumberParts.head {points sign integer fraction exponent : List Nat}
    (h : NumberParts points sign integer fraction exponent) (rest : Points) :
    ∃ point tail, points ++ rest = point :: tail ∧ (point = 45 ∨ isDigit point = true) := by
  rw [h.points_eq]
  obtain hnone | hsome := h.sign
  · obtain hzero | ⟨d, ds, hds, -, hdigit⟩ := h.integer
    · exact ⟨48, fraction ++ exponent ++ rest, by simp [hnone, hzero], .inr rfl⟩
    · exact ⟨d, ds ++ (fraction ++ exponent) ++ rest, by simp [hnone, hds],
        .inr (hdigit d List.mem_cons_self)⟩
  · exact ⟨45, integer ++ (fraction ++ exponent) ++ rest, by simp [hsome], .inl rfl⟩

end Parser

/-- The token of a number. -/
def IsNumber (token : String) : Prop :=
  ∃ sign integer fraction exponent,
    Parser.NumberParts (pointsOf token.toList) sign integer fraction exponent

mutual

/-- The numbers of a value are numbers; a name of an object may stand twice. -/
def Readable : Value → Prop
  | .number token => IsNumber token
  | .array items => itemsReadable items
  | .object entries => entriesReadable entries
  | _ => True

def itemsReadable : List Value → Prop
  | [] => True
  | v :: items => Readable v ∧ itemsReadable items

def entriesReadable : List (String × Value) → Prop
  | [] => True
  | (_, value) :: entries => Readable value ∧ entriesReadable entries

end

mutual

theorem readable_of_over : ∀ {v : Value}, v.Over IsNumber → Readable v
  | .null, _ | .bool _, _ | .string _, _ => trivial
  | .number _, h => h
  | .array _, h => itemsReadable_of_over h
  | .object _, h => entriesReadable_of_over h.2

theorem itemsReadable_of_over : ∀ {items : List Value}, itemsOver IsNumber items →
    itemsReadable items
  | [], _ => trivial
  | _ :: _, h => ⟨readable_of_over h.1, itemsReadable_of_over h.2⟩

theorem entriesReadable_of_over : ∀ {entries : List (String × Value)},
    entriesOver IsNumber entries → entriesReadable entries
  | [], _ => trivial
  | _ :: _, h => ⟨readable_of_over h.1, entriesReadable_of_over h.2⟩

end

namespace Parser

/-! ## Values -/

/-- A state in front of a value without parts that is read to a tree. -/
theorem run_leaf {points rest : Points} {frames : List Frame} {node : JsonNode}
    (h : startValue points frames = leaf frames (some (node, rest))) :
    run (.value points frames) = run (.finished node rest frames) :=
  run_step (by rw [step, h]; rfl)

theorem run_number {token : String} (h : IsNumber token) {rest : Points} (hrest : Follows rest)
    (frames : List Frame) : run (.value (pointsOf token.toList ++ rest) frames) =
      run (.finished (.scalar (.number token)) rest frames) := by
  obtain ⟨sign, integer, fraction, exponent, hparts⟩ := h
  have hread := number_append hparts hrest
  have htoken : String.ofList ((pointsOf token.toList).map Char.ofNat) = token := by
    rw [pointsOf, List.map_map]
    have hchars : Char.ofNat ∘ Char.toNat = id := funext Char.ofNat_toNat
    rw [hchars, List.map_id, String.ofList_toList]
  rw [htoken] at hread
  obtain ⟨point, tail, hpoints, hfirst⟩ := hparts.head rest
  rw [hpoints] at hread ⊢
  apply run_leaf
  have hvisible : space (point :: tail) = point :: tail := by
    apply List.dropWhile_cons_of_neg
    obtain rfl | hdigit := hfirst
    · decide
    · simp only [isDigit, Bool.and_eq_true, decide_eq_true_eq] at hdigit
      simp only [List.mem_cons, List.not_mem_nil, or_false, decide_eq_true_eq]
      omega
  have hother : ∀ n ∈ [91, 123, 34, 116, 102, 110], point ≠ n := by
    intro n hn
    simp only [List.mem_cons, List.not_mem_nil, or_false] at hn
    simp only [isDigit, Bool.and_eq_true, decide_eq_true_eq] at hfirst
    omega
  rw [startValue, hvisible]
  dsimp only
  rw [if_neg (hother 91 (by decide)), if_neg (hother 123 (by decide)),
    if_neg (hother 34 (by decide)), if_neg (hother 116 (by decide)),
    if_neg (hother 102 (by decide)), if_neg (hother 110 (by decide)), if_pos hfirst, hread]

theorem run_keyword {word : List Char} {node : JsonNode} {rest : Points} {frames : List Frame}
    (h : startValue (pointsOf word ++ rest) frames =
      leaf frames ((keyword word (pointsOf word ++ rest)).map (node, ·))) :
    run (.value (pointsOf word ++ rest) frames) = run (.finished node rest frames) := by
  have hword : keyword word (pointsOf word ++ rest) = some rest := keyword_eq_some.mpr rfl
  apply run_leaf
  rw [h, hword]
  rfl

theorem run_string (text : String) (rest : Points) (frames : List Frame) :
    run (.value (pointsOf (writeString text) ++ rest) frames) =
      run (.finished (.text (.scalar text.toList)) rest frames) := by
  apply run_leaf
  have hread := string_write text rest
  rw [writeString, pointsOf_cons, List.cons_append] at hread ⊢
  change leaf frames ((string _).map _) = _
  rw [hread]
  rfl

/-- The text of a value starts with an ASCII character, and with neither a space nor a closing
bracket. -/
theorem value_head {v : Value} (h : Readable v) (rest : Points) :
    ∃ point tail, pointsOf v.write ++ rest = point :: tail ∧ space (point :: tail) = point :: tail ∧
      point ≠ 93 ∧ point < 0x80 := by
  have hnumber : ∀ point tail, point = 45 ∨ isDigit point = true →
      space (point :: tail) = point :: tail ∧ point ≠ 93 ∧ point < 0x80 := by
    intro point tail hpoint
    simp only [isDigit, Bool.and_eq_true, decide_eq_true_eq] at hpoint
    refine ⟨List.dropWhile_cons_of_neg ?_, by omega, by omega⟩
    simp only [List.mem_cons, List.not_mem_nil, or_false, decide_eq_true_eq]
    omega
  cases v with
  | null => exact ⟨_, _, rfl, rfl, by decide, by decide⟩
  | bool b => cases b <;> exact ⟨_, _, rfl, rfl, by decide, by decide⟩
  | string text => exact ⟨_, _, rfl, rfl, by decide, by decide⟩
  | array items => exact ⟨_, _, rfl, rfl, by decide, by decide⟩
  | object entries => exact ⟨_, _, rfl, rfl, by decide, by decide⟩
  | number token =>
      obtain ⟨sign, integer, fraction, exponent, hparts⟩ := h
      obtain ⟨point, tail, hpoints, hfirst⟩ := hparts.head rest
      exact ⟨point, tail, hpoints, hnumber point tail hfirst⟩

theorem objectKey_write (key : String) (value : Value) (entries : List (String × Value))
    (rest : Points) : objectKey (pointsOf (Json.writeEntries ((key, value) :: entries)) ++ rest) =
      some (.scalar key.toList,
        pointsOf value.write ++ (pointsOf (entriesTail entries) ++ rest)) := by
  have hread := string_write key
    (58 :: (pointsOf value.write ++ (pointsOf (entriesTail entries) ++ rest)))
  have hpoints : pointsOf (Json.writeEntries ((key, value) :: entries)) ++ rest =
      pointsOf (writeString key) ++
        58 :: (pointsOf value.write ++ (pointsOf (entriesTail entries) ++ rest)) := by
    rw [writeEntries_cons, pointsOf_append, pointsOf_cons, pointsOf_append, List.append_assoc,
      List.cons_append, List.append_assoc]
    rfl
  have hspace : space (pointsOf (writeString key) ++
      58 :: (pointsOf value.write ++ (pointsOf (entriesTail entries) ++ rest))) =
        pointsOf (writeString key) ++
          58 :: (pointsOf value.write ++ (pointsOf (entriesTail entries) ++ rest)) := rfl
  rw [hpoints, objectKey, hspace, hread]
  rfl

theorem follows_itemsTail (items : List Value) (rest : Points) :
    Follows (pointsOf (itemsTail items) ++ rest) := by
  intro point hpoint
  cases items <;> cases hpoint <;> decide

theorem follows_entriesTail (entries : List (String × Value)) (rest : Points) :
    Follows (pointsOf (entriesTail entries) ++ rest) := by
  intro point hpoint
  cases entries <;> cases hpoint <;> decide

mutual

/-- **A written value is read back** to its tree, whatever is not finished around it. -/
theorem run_value : ∀ {v : Value}, Readable v → ∀ {rest : Points}, Follows rest →
    ∀ frames, run (.value (pointsOf v.write ++ rest) frames) =
      run (.finished (.ofValue v) rest frames)
  | .null, _, _, _, _ => run_keyword rfl
  | .bool true, _, _, _, _ => run_keyword rfl
  | .bool false, _, _, _, _ => run_keyword rfl
  | .number _, h, _, hrest, frames => run_number h hrest frames
  | .string text, _, rest, _, frames => run_string text rest frames
  | .array [], _, _, _, _ => run_step rfl
  | .array (v :: items), h, rest, _, frames => by
      obtain ⟨point, tail, hpoints, hspace, hclose, -⟩ :=
        value_head h.1 (pointsOf (itemsTail items) ++ rest)
      have hopen : startValue (pointsOf (Value.array (v :: items)).write ++ rest) frames =
          some (.value (pointsOf v.write ++ (pointsOf (itemsTail items) ++ rest))
            (.array [] :: frames)) := by
        change openArray (pointsOf (Json.writeItems (v :: items)) ++ rest) frames = _
        rw [writeItems_cons, pointsOf_append, List.append_assoc, hpoints, openArray, hspace, take,
          if_neg hclose]
      rw [run_step (by rw [step, hopen]; rfl), run_value h.1 (follows_itemsTail items rest)]
      exact run_itemsTail h.2 (JsonNode.ofValue v) [] frames
  | .object [], _, _, _, _ => run_step rfl
  | .object ((key, value) :: entries), h, rest, _, frames => by
      have hopen : startValue (pointsOf (Value.object ((key, value) :: entries)).write ++ rest)
          frames = some (.value (pointsOf value.write ++ (pointsOf (entriesTail entries) ++ rest))
            (.object [] (.scalar key.toList) :: frames)) := by
        have hkey := objectKey_write key value entries rest
        have hpoints : pointsOf (Json.writeEntries ((key, value) :: entries)) ++ rest =
            34 :: (pointsOf (key.toList.flatMap escapeChar ++ [quote] ++
              ':' :: (value.write ++ entriesTail entries)) ++ rest) := by
          rw [writeEntries_cons, writeString, List.cons_append, pointsOf_cons, List.cons_append]
          rfl
        change openObject (pointsOf (Json.writeEntries ((key, value) :: entries)) ++ rest) frames = _
        rw [hpoints] at hkey ⊢
        exact congrArg (Option.map fun next : PythonText × Points =>
          State.value next.2 (.object [] next.1 :: frames)) hkey
      rw [run_step (by rw [step, hopen]; rfl), run_value h.1 (follows_entriesTail entries rest)]
      exact run_entriesTail h.2 (PythonText.scalar key.toList) (JsonNode.ofValue value) [] frames

/-- The items after one that is read. -/
theorem run_itemsTail : ∀ {items : List Value}, itemsReadable items → ∀ {rest : Points}
    (node : JsonNode) (done : List JsonNode) (frames : List Frame),
      run (.finished node (pointsOf (itemsTail items) ++ rest) (.array done :: frames)) =
        run (.finished (.array (done ++ node :: nodesOf items)) rest frames)
  | [], _, _, _, _, _ => run_step rfl
  | v :: items, h, rest, node, done, frames => by
      have hplace : step (.finished node (pointsOf (itemsTail (v :: items)) ++ rest)
          (.array done :: frames)) =
            some (.inl (.value (pointsOf v.write ++ (pointsOf (itemsTail items) ++ rest))
              (.array (done ++ [node]) :: frames))) := by
        rw [← List.append_assoc, ← pointsOf_append, ← writeItems_cons]
        rfl
      rw [run_step hplace, run_value h.1 (follows_itemsTail items rest),
        run_itemsTail h.2 (JsonNode.ofValue v) (done ++ [node]) frames, List.append_assoc]
      rfl

/-- The entries after one that is read. -/
theorem run_entriesTail : ∀ {entries : List (String × Value)}, entriesReadable entries →
    ∀ {rest : Points} (key : PythonText) (node : JsonNode) (done : List (PythonText × JsonNode))
      (frames : List Frame),
      run (.finished node (pointsOf (entriesTail entries) ++ rest) (.object done key :: frames)) =
        run (.finished (.object (done ++ (key, node) :: entriesOf entries)) rest frames)
  | [], _, _, _, _, _, _ => run_step rfl
  | (key', value) :: entries, h, rest, key, node, done, frames => by
      have hplace : step (.finished node (pointsOf (entriesTail ((key', value) :: entries)) ++ rest)
          (.object done key :: frames)) =
            some (.inl (.value (pointsOf value.write ++ (pointsOf (entriesTail entries) ++ rest))
              (.object (done ++ [(key, node)]) (.scalar key'.toList) :: frames))) := by
        exact congrArg (Option.map fun next : PythonText × Points =>
          (Sum.inl (.value next.2 (.object (done ++ [(key, node)]) next.1 :: frames)) :
            State ⊕ JsonNode × Points)) (objectKey_write key' value entries rest)
      rw [run_step hplace, run_value h.1 (follows_entriesTail entries rest),
        run_entriesTail h.2 (PythonText.scalar key'.toList) (JsonNode.ofValue value)
          (done ++ [(key, node)]) frames, List.append_assoc]
      rfl

end

/-! ## The whole text -/

theorem toNat_pos_of_all {text : List Char} (h : (text.all fun d => decide (0 < d.toNat)) = true) :
    ∀ d ∈ text, 0 < d.toNat := by
  simpa using h

theorem escapeChar_pos (c : Char) : ∀ d ∈ escapeChar c, 0 < d.toNat := by
  have hall : (escaped.all fun c => (escapeChar c).all fun d => decide (0 < d.toNat)) = true := by
    decide +kernel
  by_cases hplain : isPlain c
  · intro d hd
    rw [escapeChar_of_plain hplain, List.mem_singleton] at hd
    have hspace := hplain.1
    rw [hd]
    omega
  · exact toNat_pos_of_all (List.all_eq_true.mp hall c (mem_escaped hplain))

theorem writeString_pos (text : String) : ∀ d ∈ writeString text, 0 < d.toNat := by
  intro d hd
  simp only [writeString, List.mem_cons, List.mem_append, List.mem_flatMap, List.not_mem_nil,
    or_false] at hd
  obtain rfl | ⟨c, -, hc⟩ | rfl := hd
  · decide
  · exact escapeChar_pos c d hc
  · decide

theorem NumberParts.pos {points sign integer fraction exponent : List Nat}
    (h : NumberParts points sign integer fraction exponent) : ∀ point ∈ points, 0 < point := by
  have hdigits : ∀ ds : List Nat, (∀ d ∈ ds, isDigit d = true) → ∀ d ∈ ds, 0 < d := by
    intro ds hds d hd
    have hdigit := hds d hd
    simp only [isDigit, Bool.and_eq_true, decide_eq_true_eq] at hdigit
    omega
  intro point hpoint
  rw [h.points_eq] at hpoint
  simp only [List.mem_append] at hpoint
  obtain hpoint | hpoint | hpoint | hpoint := hpoint
  · obtain hnone | hsome := h.sign
    · simp [hnone] at hpoint
    · simp_all
  · obtain hzero | ⟨d, ds, hds, -, hdigit⟩ := h.integer
    · simp_all
    · exact hdigits _ hdigit point (hds ▸ hpoint)
  · obtain hnone | ⟨ds, hds, -, hdigit⟩ := h.fraction
    · simp [hnone] at hpoint
    · rw [hds, List.mem_cons] at hpoint
      obtain rfl | hpoint := hpoint
      · decide
      · exact hdigits _ hdigit point hpoint
  · obtain hnone | ⟨mark, signed, ds, hds, hmark, hsigned, -, hdigit⟩ := h.exponent
    · simp [hnone] at hpoint
    · simp only [hds, List.mem_cons, List.mem_append] at hpoint
      simp only [List.mem_cons, List.not_mem_nil, or_false] at hmark hsigned
      obtain rfl | hpoint | hpoint := hpoint
      · omega
      · obtain rfl | rfl | rfl := hsigned
        · simp at hpoint
        · simp_all
        · simp_all
      · exact hdigits _ hdigit point hpoint

mutual

/-- The text of a value holds no null. -/
theorem write_pos : ∀ {v : Value}, Readable v → ∀ c ∈ v.write, 0 < c.toNat
  | .null, _ => toNat_pos_of_all (by decide)
  | .bool true, _ => toNat_pos_of_all (by decide)
  | .bool false, _ => toNat_pos_of_all (by decide)
  | .number _, ⟨_, _, _, _, hparts⟩ => fun _ hc => hparts.pos _ (List.mem_map_of_mem hc)
  | .string text, _ => writeString_pos text
  | .array items, h => by
      intro c hc
      rw [Value.write, List.mem_cons] at hc
      obtain rfl | hc := hc
      · decide
      · exact writeItems_pos h c hc
  | .object entries, h => by
      intro c hc
      rw [Value.write, List.mem_cons] at hc
      obtain rfl | hc := hc
      · decide
      · exact writeEntries_pos h c hc

theorem writeItems_pos : ∀ {items : List Value}, itemsReadable items →
    ∀ c ∈ Json.writeItems items, 0 < c.toNat
  | [], _ => toNat_pos_of_all (by decide)
  | [v], h => by
      intro c hc
      rw [writeItems_cons, List.mem_append] at hc
      obtain hc | hc := hc
      · exact write_pos h.1 c hc
      · exact toNat_pos_of_all (by decide) c hc
  | v :: w :: items, h => by
      intro c hc
      have htail : itemsTail (w :: items) = ',' :: Json.writeItems (w :: items) := rfl
      rw [writeItems_cons, List.mem_append, htail, List.mem_cons] at hc
      obtain hc | rfl | hc := hc
      · exact write_pos h.1 c hc
      · decide
      · exact writeItems_pos h.2 c hc

theorem writeEntries_pos : ∀ {entries : List (String × Value)}, entriesReadable entries →
    ∀ c ∈ Json.writeEntries entries, 0 < c.toNat
  | [], _ => toNat_pos_of_all (by decide)
  | [(key, value)], h => by
      intro c hc
      rw [writeEntries_cons, List.mem_append, List.mem_cons, List.mem_append] at hc
      obtain hc | rfl | hc | hc := hc
      · exact writeString_pos key c hc
      · decide
      · exact write_pos h.1 c hc
      · exact toNat_pos_of_all (by decide) c hc
  | (key, value) :: e :: entries, h => by
      intro c hc
      have htail : entriesTail (e :: entries) = ',' :: Json.writeEntries (e :: entries) := rfl
      rw [writeEntries_cons, List.mem_append, List.mem_cons, List.mem_append, htail,
        List.mem_cons] at hc
      obtain hc | rfl | hc | rfl | hc := hc
      · exact writeString_pos key c hc
      · decide
      · exact write_pos h.1 c hc
      · decide
      · exact writeEntries_pos h.2 c hc

end

end Parser

/-- The text of a value starts as a JSON document does. -/
theorem jsonStart_write {v : Value} (h : Readable v) : JsonStart v.write := by
  obtain ⟨point, tail, hpoints, -, -, hascii⟩ := Parser.value_head h []
  have hpos := Parser.write_pos h
  rw [List.append_nil] at hpoints
  cases hwrite : v.write with
  | nil =>
      rw [hwrite] at hpoints
      cases hpoints
  | cons c rest =>
      rw [hwrite, pointsOf_cons] at hpoints
      rw [hwrite] at hpos
      obtain ⟨rfl, -⟩ := List.cons.inj hpoints
      refine ⟨⟨c, rest, rfl, hpos c List.mem_cons_self, hascii, fun d hd => ?_⟩⟩
      exact hpos d (List.mem_cons_of_mem _ (List.mem_of_mem_head? hd))

/-- **The compact text of a value** is parsed to the tree of the value. -/
theorem parseTree_write {v : Value} (h : Readable v) :
    parseTree (String.ofList v.write) = some (.ofValue v) := by
  have hbytes : textBytes (String.ofList v.write) = Encoding.utf8.encode v.write := by
    rw [textBytes, String.toList_ofList]
    rfl
  have hdetect : detect (Encoding.utf8.encode v.write) =
      (Encoding.utf8.width, Encoding.utf8.little, 0) := by
    have hdetect := detect_encode .utf8 false (jsonStart_write h)
    rwa [if_neg Bool.false_ne_true, if_neg Bool.false_ne_true, List.nil_append] at hdetect
  have hdecode : decode (Encoding.utf8.encode v.write) = some (pointsOf v.write) :=
    decode_of_detect .utf8 hdetect rfl
  have hend : Parser.Follows [] := by simp [Parser.Follows]
  have hvalue := Parser.run_value h hend []
  have hdone : Parser.run (.finished (.ofValue v) [] []) = some (.ofValue v, []) :=
    Parser.run_done rfl
  rw [List.append_nil, hdone] at hvalue
  rw [parseTree, fromJsonBytesPreservingDuplicates, hbytes, hdecode]
  simp only [Option.bind_eq_bind, Option.bind_some, hvalue]
  rfl

end Marty.ResponseText
