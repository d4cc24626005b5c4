import Marty.Lib.JsonText
import Marty.ResponseText.JsonBytes
import Marty.ResponseText.PythonText
import Mathlib.Data.List.TakeDrop

/-!
# Lossless JSON trees

The parser that admission checks run: it keeps the number tokens and every entry of an object,
also those of a name that has stood there before, and texts may hold surrogates.  It works
with a stack of unfinished arrays and objects, so that deep documents are no problem.

## Main definitions

* `JsonNode` — a tree; `JsonNode.ofValue` is the one that a value stands for.
* `Parser.step`, `Parser.run` — a round of the parser, and its loop.
* `parseTree` — the tree of a JSON text.
* `parseTree_write` — the compact text of a value is parsed to its tree.
-/

namespace Marty.ResponseText

open Lib Lib.Json Lib.Unicode

inductive JsonNode
  | scalar (value : Value)
  | text (text : PythonText)
  | array (children : List JsonNode)
  | object (entries : List (PythonText × JsonNode))

namespace Parser

/-- The points of the input that are not read yet. -/
abbrev Points := List Nat

def space (points : Points) : Points := points.dropWhile (· ∈ [9, 10, 13, 32])

/-- Read one point. -/
def take (expected : Nat) : Points → Option Points
  | [] => none
  | point :: rest => if point = expected then some rest else none

def keyword : List Char → Points → Option Points
  | [], points => some points
  | c :: word, points => (take c.toNat points).bind (keyword word)

/-! ## Texts -/

def hexValue (point : Nat) : Option Nat :=
  if 48 ≤ point ∧ point ≤ 57 then some (point - 48)
  else if 65 ≤ point ∧ point ≤ 70 then some (point - 55)
  else if 97 ≤ point ∧ point ≤ 102 then some (point - 87)
  else none

/-- The digits that remain of a number of four. -/
def hexFrom : Nat → Nat → Points → Option (Nat × Points)
  | 0, value, points => some (value, points)
  | _ + 1, _, [] => none
  | n + 1, value, point :: rest =>
      match hexValue point with
      | none => none
      | some digit => hexFrom n (value * 16 + digit) rest

def hex4 (points : Points) : Option (Nat × Points) := hexFrom 4 0 points

/-- A high surrogate takes the low one that is escaped after it. -/
def joinPair (high : Nat) (points : Points) : Nat × Points :=
  if IsHigh high ∧ points.take 2 = [92, 117] then
    match hex4 (points.drop 2) with
    | some (low, rest) => if IsLow low then (combine high low, rest) else (high, points)
    | none => (high, points)
  else (high, points)

/-- What stands after a backslash. -/
def escape : Points → Option (Nat × Points)
  | [] => none
  | escaped :: rest =>
      if escaped = 34 ∨ escaped = 47 ∨ escaped = 92 then some (escaped, rest)
      else if escaped = 98 then some (8, rest)
      else if escaped = 102 then some (12, rest)
      else if escaped = 110 then some (10, rest)
      else if escaped = 114 then some (13, rest)
      else if escaped = 116 then some (9, rest)
      else if escaped = 117 then (hex4 rest).map fun high => joinPair high.1 high.2
      else none

theorem hexFrom_length {n value : Nat} {points rest : Points} {value' : Nat}
    (h : hexFrom n value points = some (value', rest)) : rest.length ≤ points.length := by
  induction n generalizing value points with
  | zero =>
      cases h
      exact le_rfl
  | succ n ih =>
      cases points with
      | nil => cases h
      | cons point points =>
          rw [hexFrom] at h
          split at h
          · cases h
          · exact (ih h).trans (by simp)

theorem joinPair_length (high : Nat) (points : Points) :
    (joinPair high points).2.length ≤ points.length := by
  unfold joinPair
  split
  · split
    · next hlow =>
        have hread := hexFrom_length hlow
        rw [List.length_drop] at hread
        split
        · exact hread.trans (by omega)
        · exact le_rfl
    · exact le_rfl
  · exact le_rfl

theorem escape_length {points rest : Points} {value : Nat}
    (h : escape points = some (value, rest)) : rest.length < points.length := by
  cases points with
  | nil => cases h
  | cons escaped points =>
      rw [escape] at h
      by_cases h117 : escaped = 117
      · rw [h117] at h
        simp only [Nat.reduceEqDiff, or_self, if_false, if_true] at h
        obtain ⟨⟨high, points'⟩, hhigh, hjoin⟩ := Option.map_eq_some_iff.mp h
        have hread := hexFrom_length hhigh
        have hpair := joinPair_length high points'
        rw [hjoin] at hpair
        rw [List.length_cons]
        exact Nat.lt_succ_of_le (hpair.trans hread)
      · rw [if_neg h117] at h
        repeat' split at h
        all_goals
          cases h
          try simp

/-- One point of a text: `none` past its end. -/
def textPoint : Points → Option (Option Nat × Points)
  | [] => none
  | point :: rest =>
      if point = 34 then some (none, rest)
      else if point ≤ 31 then none
      else if point = 92 then (escape rest).map fun escaped => (some escaped.1, escaped.2)
      else some (some point, rest)

theorem textPoint_length {points rest : Points} {point : Option Nat}
    (h : textPoint points = some (point, rest)) : rest.length < points.length := by
  cases points with
  | nil => cases h
  | cons first points =>
      rw [textPoint] at h
      split at h
      · cases h
        simp
      split at h
      · cases h
      split at h
      · obtain ⟨⟨value, points'⟩, hescape, heq⟩ := Option.map_eq_some_iff.mp h
        simp only [Prod.mk.injEq] at heq
        obtain ⟨-, rfl⟩ := heq
        have hread := escape_length hescape
        rw [List.length_cons]
        omega
      · cases h
        simp

/-- The text that remains up to the closing quote. -/
def textFrom (text : PythonText) (points : Points) : Option (PythonText × Points) :=
  match _ : textPoint points with
  | none => none
  | some (none, rest) => some (text, rest)
  | some (some point, rest) =>
      match text.push point with
      | .error _ => none
      | .ok text => textFrom text rest
  termination_by points.length
  decreasing_by
    rename_i h
    exact textPoint_length h

def string (points : Points) : Option (PythonText × Points) :=
  (take 34 points).bind (textFrom default)

def objectKey (points : Points) : Option (PythonText × Points) := do
  let (key, rest) ← string (space points)
  let rest ← take 58 (space rest)
  return (key, rest)

/-! ## Numbers -/

def isDigit (point : Nat) : Bool := 48 ≤ point && point ≤ 57

/-- A point of the token, if it stands in front. -/
def optional (points : Points) (expected : List Nat) : List Nat × Points :=
  match points with
  | [] => ([], [])
  | point :: rest => if point ∈ expected then ([point], rest) else ([], point :: rest)

/-- At least one digit. -/
def digits (points : Points) : Option (List Nat × Points) :=
  let (found, rest) := points.span isDigit
  if found = [] then none else some (found, rest)

def integerPart (points : Points) : Option (List Nat × Points) :=
  match points with
  | [] => none
  | point :: rest => if point = 48 then some ([48], rest) else digits (point :: rest)

def fractionPart (points : Points) : Option (List Nat × Points) :=
  let (dot, rest) := optional points [46]
  if dot = [] then some ([], rest) else (digits rest).map fun found => (dot ++ found.1, found.2)

def exponentPart (points : Points) : Option (List Nat × Points) :=
  let (mark, rest) := optional points [101, 69]
  if mark = [] then some ([], rest)
  else
    let (sign, rest) := optional rest [43, 45]
    (digits rest).map fun found => (mark ++ sign ++ found.1, found.2)

/-- A number keeps its token. -/
def number (points : Points) : Option (JsonNode × Points) := do
  let (sign, rest) := optional points [45]
  let (integer, rest) ← integerPart rest
  let (fraction, rest) ← fractionPart rest
  let (exponent, rest) ← exponentPart rest
  let token := sign ++ integer ++ fraction ++ exponent
  return (.scalar (.number (String.ofList (token.map Char.ofNat))), rest)

/-! ## Values -/

/-- An array or an object that is not finished; of an object, with the key of the value that is
read next. -/
inductive Frame
  | array (children : List JsonNode)
  | object (entries : List (PythonText × JsonNode)) (key : PythonText)

/-- Before a value, or after one. -/
inductive State
  | value (points : Points) (frames : List Frame)
  | finished (node : JsonNode) (points : Points) (frames : List Frame)

def State.points : State → Points
  | value points _ => points
  | finished _ points _ => points

/-- The state after a value without parts. -/
def leaf (frames : List Frame) (found : Option (JsonNode × Points)) : Option State :=
  found.map fun found => .finished found.1 found.2 frames

def openArray (rest : Points) (frames : List Frame) : Option State :=
  match take 93 (space rest) with
  | some rest => some (.finished (.array []) rest frames)
  | none => some (.value (space rest) (.array [] :: frames))

def openObject (rest : Points) (frames : List Frame) : Option State :=
  match take 125 (space rest) with
  | some rest => some (.finished (.object []) rest frames)
  | none => (objectKey (space rest)).map fun key =>
      .value key.2 (.object [] key.1 :: frames)

/-- The round that starts in front of a value. -/
def startValue (points : Points) (frames : List Frame) : Option State :=
  match space points with
  | [] => none
  | point :: rest =>
      if point = 91 then openArray rest frames
      else if point = 123 then openObject rest frames
      else if point = 34 then
        leaf frames ((string (point :: rest)).map fun found => (.text found.1, found.2))
      else if point = 116 then
        leaf frames ((keyword ['t', 'r', 'u', 'e'] (point :: rest)).map (.scalar (.bool true), ·))
      else if point = 102 then
        leaf frames
          ((keyword ['f', 'a', 'l', 's', 'e'] (point :: rest)).map (.scalar (.bool false), ·))
      else if point = 110 then
        leaf frames ((keyword ['n', 'u', 'l', 'l'] (point :: rest)).map (.scalar .null, ·))
      else if point = 45 ∨ isDigit point then leaf frames (number (point :: rest))
      else none

/-- The round that puts a value where it belongs. -/
def placeValue (node : JsonNode) (points : Points) : List Frame → Option (State ⊕ JsonNode × Points)
  | [] => some (.inr (node, points))
  | .array children :: frames =>
      match take 93 (space points) with
      | some rest => some (.inl (.finished (.array (children ++ [node])) rest frames))
      | none => (take 44 (space points)).map fun rest =>
          .inl (.value rest (.array (children ++ [node]) :: frames))
  | .object entries key :: frames =>
      match take 125 (space points) with
      | some rest => some (.inl (.finished (.object (entries ++ [(key, node)])) rest frames))
      | none => ((take 44 (space points)).bind objectKey).map fun next =>
          .inl (.value next.2 (.object (entries ++ [(key, node)]) next.1 :: frames))

/-- One round of the parser: the next state, or the tree and what follows it. -/
def step : State → Option (State ⊕ JsonNode × Points)
  | .value points frames => (startValue points frames).map .inl
  | .finished node points frames => placeValue node points frames

theorem space_length (points : Points) : (space points).length ≤ points.length :=
  (List.dropWhile_sublist _).length_le

theorem take_eq_some {expected : Nat} {points rest : Points} :
    take expected points = some rest ↔ points = expected :: rest := by
  cases points with
  | nil => simp [take]
  | cons point points =>
      rw [take]
      split
      · next h => simp [h]
      · next h => simp [h]

theorem keyword_eq_some {word : List Char} {points rest : Points} :
    keyword word points = some rest ↔ points = word.map Char.toNat ++ rest := by
  induction word generalizing points with
  | nil => simp [keyword]
  | cons c word ih =>
      simp only [keyword, Option.bind_eq_some_iff, take_eq_some, ih, List.map_cons,
        List.cons_append]
      constructor
      · rintro ⟨next, rfl, rfl⟩
        rfl
      · rintro rfl
        exact ⟨_, rfl, rfl⟩

theorem textFrom_end {text : PythonText} {points rest : Points}
    (h : textPoint points = some (none, rest)) : textFrom text points = some (text, rest) := by
  rw [textFrom]
  split <;> simp_all

theorem textFrom_push {text text' : PythonText} {point : Nat} {points rest : Points}
    (h : textPoint points = some (some point, rest)) (hpush : text.push point = .ok text') :
    textFrom text points = textFrom text' rest := by
  rw [textFrom]
  split <;> simp_all

/-- A text ends at its next point, or goes on after it. -/
theorem textFrom_cases {text text' : PythonText} {points rest : Points}
    (h : textFrom text points = some (text', rest)) :
    (textPoint points = some (none, rest) ∧ text' = text) ∨
      ∃ point next pushed, textPoint points = some (some point, next) ∧
        text.push point = .ok pushed ∧ textFrom pushed next = some (text', rest) := by
  rw [textFrom] at h
  split at h
  · cases h
  · next hend =>
      cases h
      exact .inl ⟨hend, rfl⟩
  · next point next hpoint =>
      split at h
      · cases h
      · next pushed hpush => exact .inr ⟨point, next, pushed, hpoint, hpush, h⟩

theorem textFrom_length {points : Points} : ∀ {text text' : PythonText} {rest : Points},
    textFrom text points = some (text', rest) → rest.length < points.length := by
  induction hn : points.length using Nat.strong_induction_on generalizing points with
  | _ n ih =>
      intro text text' rest h
      obtain ⟨hend, -⟩ | ⟨point, next, pushed, hpoint, -, hnext⟩ := textFrom_cases h
      · exact hn ▸ textPoint_length hend
      · have hread := textPoint_length hpoint
        exact (ih next.length (hn ▸ hread) rfl hnext).trans (hn ▸ hread)

theorem string_length {points rest : Points} {text : PythonText}
    (h : string points = some (text, rest)) : rest.length < points.length := by
  obtain ⟨next, hnext, htext⟩ := Option.bind_eq_some_iff.mp h
  obtain rfl := take_eq_some.mp hnext
  have hread := textFrom_length htext
  rw [List.length_cons]
  omega

theorem objectKey_length {points rest : Points} {key : PythonText}
    (h : objectKey points = some (key, rest)) : rest.length < points.length := by
  simp only [objectKey, Option.bind_eq_bind, Option.bind_eq_some_iff, take_eq_some] at h
  obtain ⟨⟨key', next⟩, hkey, rest', hcolon, heq⟩ := h
  cases heq
  have hread := string_length hkey
  have hspace := space_length points
  have hnext := space_length next
  rw [hcolon, List.length_cons] at hnext
  omega

theorem digits_eq_some {points rest : Points} {found : List Nat}
    (h : digits points = some (found, rest)) : found ≠ [] ∧ points = found ++ rest := by
  simp only [digits, List.span_eq_takeWhile_dropWhile] at h
  split at h
  · cases h
  · next hne =>
      cases h
      exact ⟨hne, List.takeWhile_append_dropWhile.symm⟩

theorem optional_append (points : Points) (expected : List Nat) :
    (optional points expected).1 ++ (optional points expected).2 = points := by
  cases points with
  | nil => rfl
  | cons point points =>
      rw [optional]
      split <;> rfl

/-- A number is read off the front, and something of it is there. -/
theorem number_length {points rest : Points} {node : JsonNode}
    (h : number points = some (node, rest)) : rest.length < points.length := by
  simp only [number, Option.bind_eq_bind, Option.bind_eq_some_iff] at h
  obtain ⟨⟨integer, rest₁⟩, hinteger, ⟨fraction, rest₂⟩, hfraction, ⟨exponent, rest₃⟩, hexponent,
    heq⟩ := h
  cases heq
  have hsign := congrArg List.length (optional_append points [45])
  have hint : rest₁.length < (optional points [45]).2.length := by
    generalize (optional points [45]).2 = front at hinteger
    cases front with
    | nil => cases hinteger
    | cons point front =>
        rw [integerPart] at hinteger
        split at hinteger
        · cases hinteger
          simp
        · obtain ⟨hne, hfront⟩ := digits_eq_some hinteger
          rw [hfront, List.length_append]
          have := List.length_pos_of_ne_nil hne
          omega
  have hfrac : rest₂.length ≤ rest₁.length := by
    have hdot := congrArg List.length (optional_append rest₁ [46])
    rw [List.length_append] at hdot
    simp only [fractionPart] at hfraction
    split at hfraction
    · cases hfraction
      omega
    · obtain ⟨found, hfound, heq⟩ := Option.map_eq_some_iff.mp hfraction
      cases heq
      have hdigits := congrArg List.length (digits_eq_some hfound).2
      rw [List.length_append] at hdigits
      omega
  have hexp : rest₃.length ≤ rest₂.length := by
    have hmark := congrArg List.length (optional_append rest₂ [101, 69])
    rw [List.length_append] at hmark
    simp only [exponentPart] at hexponent
    split at hexponent
    · cases hexponent
      omega
    · have hsigned := congrArg List.length
        (optional_append (optional rest₂ [101, 69]).2 [43, 45])
      rw [List.length_append] at hsigned
      obtain ⟨found, hfound, heq⟩ := Option.map_eq_some_iff.mp hexponent
      cases heq
      have hdigits := congrArg List.length (digits_eq_some hfound).2
      rw [List.length_append] at hdigits
      omega
  rw [List.length_append] at hsign
  change rest₃.length < points.length
  omega

theorem leaf_length {frames : List Frame} {found : Option (JsonNode × Points)} {s : State}
    {n : Nat} (hfound : ∀ node rest, found = some (node, rest) → rest.length < n)
    (h : leaf frames found = some s) : s.points.length < n := by
  obtain ⟨⟨node, rest⟩, hnode, rfl⟩ := Option.map_eq_some_iff.mp h
  exact hfound node rest hnode

theorem keyword_length {word : List Char} (hword : word ≠ []) {node : JsonNode}
    {points rest : Points} {node' : JsonNode}
    (h : (keyword word points).map (node, ·) = some (node', rest)) :
    rest.length < points.length := by
  obtain ⟨rest', hkeyword, heq⟩ := Option.map_eq_some_iff.mp h
  cases heq
  have hlength := congrArg List.length (keyword_eq_some.mp hkeyword)
  have hpos := List.length_pos_of_ne_nil hword
  rw [List.length_append, List.length_map] at hlength
  omega

theorem openArray_length {rest : Points} {frames : List Frame} {s : State}
    (h : openArray rest frames = some s) : s.points.length ≤ rest.length := by
  have hspace := space_length rest
  unfold openArray at h
  split at h
  · next rest' hclose =>
      cases h
      rw [take_eq_some.mp hclose, List.length_cons] at hspace
      exact Nat.le_of_succ_le hspace
  · cases h
    exact hspace

theorem openObject_length {rest : Points} {frames : List Frame} {s : State}
    (h : openObject rest frames = some s) : s.points.length ≤ rest.length := by
  have hspace := space_length rest
  unfold openObject at h
  split at h
  · next rest' hclose =>
      cases h
      rw [take_eq_some.mp hclose, List.length_cons] at hspace
      exact Nat.le_of_succ_le hspace
  · obtain ⟨⟨key, next⟩, hkey, rfl⟩ := Option.map_eq_some_iff.mp h
    exact (objectKey_length hkey).le.trans hspace

theorem startValue_length {points : Points} {frames : List Frame} {s : State}
    (h : startValue points frames = some s) : s.points.length < points.length := by
  have hspace := space_length points
  unfold startValue at h
  split at h
  · cases h
  next point rest hpoints =>
    rw [hpoints, List.length_cons] at hspace
    refine Nat.lt_of_lt_of_le ?_ hspace
    rw [← List.length_cons (a := point)]
    split at h
    · exact Nat.lt_succ_of_le (openArray_length h)
    split at h
    · exact Nat.lt_succ_of_le (openObject_length h)
    split at h
    · refine leaf_length (fun node rest' hfound => ?_) h
      obtain ⟨⟨text, rest''⟩, hstring, heq⟩ := Option.map_eq_some_iff.mp hfound
      cases heq
      exact string_length hstring
    split at h
    · exact leaf_length (fun _ _ => keyword_length (List.cons_ne_nil _ _)) h
    split at h
    · exact leaf_length (fun _ _ => keyword_length (List.cons_ne_nil _ _)) h
    split at h
    · exact leaf_length (fun _ _ => keyword_length (List.cons_ne_nil _ _)) h
    split at h
    · exact leaf_length (fun _ _ => number_length) h
    · cases h

theorem placeValue_length {node : JsonNode} {points : Points} {frames : List Frame} {s : State}
    (h : placeValue node points frames = some (.inl s)) : s.points.length < points.length := by
  have hspace := space_length points
  cases frames with
  | nil => cases h
  | cons frame frames =>
      cases frame with
      | array children =>
          rw [placeValue] at h
          split at h
          · next rest hclose =>
              cases h
              rw [take_eq_some.mp hclose, List.length_cons] at hspace
              exact hspace
          · obtain ⟨rest, hcomma, heq⟩ := Option.map_eq_some_iff.mp h
            cases heq
            rw [take_eq_some.mp hcomma, List.length_cons] at hspace
            exact hspace
      | object entries key =>
          rw [placeValue] at h
          split at h
          · next rest hclose =>
              cases h
              rw [take_eq_some.mp hclose, List.length_cons] at hspace
              exact hspace
          · obtain ⟨⟨key', next⟩, hnext, heq⟩ := Option.map_eq_some_iff.mp h
            cases heq
            obtain ⟨rest, hcomma, hkey⟩ := Option.bind_eq_some_iff.mp hnext
            have hread := objectKey_length hkey
            rw [take_eq_some.mp hcomma, List.length_cons] at hspace
            exact (Nat.lt_succ_of_lt hread).trans_le hspace

/-- **Every round reads.** -/
theorem step_length {s s' : State} (h : step s = some (.inl s')) :
    s'.points.length < s.points.length := by
  cases s with
  | value points frames =>
      obtain ⟨s₀, hstart, heq⟩ := Option.map_eq_some_iff.mp h
      cases heq
      exact startValue_length hstart
  | finished node points frames => exact placeValue_length h

/-- The loop of the parser: the tree, and what follows it. -/
def run (s : State) : Option (JsonNode × Points) :=
  match _ : step s with
  | none => none
  | some (.inl s') => run s'
  | some (.inr found) => some found
  termination_by s.points.length
  decreasing_by
    rename_i h
    exact step_length h

theorem run_step {s s' : State} (h : step s = some (.inl s')) : run s = run s' := by
  rw [run]
  split <;> simp_all

theorem run_done {s : State} {found : JsonNode × Points} (h : step s = some (.inr found)) :
    run s = some found := by
  rw [run]
  split <;> simp_all

end Parser

/-- The bytes of a text. -/
def textBytes (text : String) : List UInt8 := text.toList.flatMap String.utf8EncodeChar

/-- `JsonTree::from_json_bytes_preserving_duplicates` -/
def fromJsonBytesPreservingDuplicates (bytes : List UInt8) : Option JsonNode := do
  let points ← decode bytes
  let (tree, rest) ← Parser.run (.value points [])
  if Parser.space rest = [] then some tree else none

/-- The tree of a JSON text. -/
def parseTree (text : String) : Option JsonNode :=
  fromJsonBytesPreservingDuplicates (textBytes text)

end Marty.ResponseText
