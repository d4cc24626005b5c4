import Marty.Issuance.PythonFormat
import Marty.ResponseText.PythonValue

/-!
# Formatting a template with named fields

The replacement fields of Python's `str.format` over named values: how a template is scanned, how
the name of a field is looked up and converted, and how a specifier with fields of its own is
expanded.  The cursor into the template is what is left of it, and the builtin attributes that the
inventory `python-string-attribute-inventory.json` lists are a parameter.

## Main definitions

* `field`, `lookup`, `conversion` — the parts of a replacement field.
* `expand`, `formatNamed` — the loop over a template, with the levels that are left.
* `Piece`, `Scanned`, `HasField` — plain templates, and the fields of any template.

## Main statements

* `expandLoop_pieces` — a plain template is replaced part by part.
* `expand_nested` — a specifier with a brace is expanded one level deeper.
* `format_named` — both, for the formatter as it is called.
-/

namespace Marty.Issuance.PythonFormat

open Marty.Lib Marty.Lib.Checked Marty.Lib.Unicode
open Marty.ResponseText (quotedPoints hexPoints)

/-! ## Objects -/

def unmodeled : Stop :=
  .failed ⟨.unmodeledCapability, points "Python object attribute capability is not yet qualified"⟩

def fail (kind : PythonFormatErrorKind) (message : String) : Stop :=
  .failed ⟨kind, points message⟩

/-- The representation of a text. -/
def repr (value : List Nat) : List Nat := quotedPoints value

def asciiPoint (point : Nat) : List Nat :=
  if point ≤ 0x7f then [point]
  else if point ≤ 0xff then points "\\x" ++ hexPoints 2 point
  else if point ≤ 0xffff then points "\\u" ++ hexPoints 4 point
  else points "\\U" ++ hexPoints 8 point

def asciiRepr (value : List Nat) : List Nat := (repr value).flatMap asciiPoint

inductive BuiltinType
  | str
  | type
  deriving DecidableEq, Repr

def BuiltinType.name : BuiltinType → String
  | .str => "str"
  | .type => "type"

inductive Object
  | text (value : List Nat)
  | type (value : BuiltinType)
  deriving DecidableEq, Repr

namespace Object

def string : Object → List Nat
  | .text value => value
  | .type value => points ("<class '" ++ value.name ++ "'>")

/-- The name under which the inventory knows an object, and how its error begins. -/
def owner : Object → String × String
  | .text _ => ("str_instance", "'str' object has no attribute '")
  | .type .str => ("str_type", "type object 'str' has no attribute '")
  | .type .type => ("type_type", "type object 'type' has no attribute '")

variable (rt : Runtime) (knownAttribute : String → Option String → Bool)

def attributeOf (self : Object) (name : List Nat) : Except Stop Object :=
  let scalar : Option String := (name.mapM fromU32).map String.ofList
  if knownAttribute self.owner.1 scalar = false then do
    let message ← append rt (points self.owner.2) name
    let message ← append rt message [39]
    .error (.failed ⟨.attributeError, message⟩)
  else
    match self, scalar with
    | .text _, some "__class__" => pure (.type .str)
    | .type _, some "__class__" => pure (.type .type)
    | .type value, some "__name__" => pure (.text (points value.name))
    | .type value, some "__qualname__" => pure (.text (points value.name))
    | .type _, some "__module__" => pure (.text (points "builtins"))
    | _, _ => .error unmodeled

def itemOf (self : Object) (name : List Nat) : Except Stop Object :=
  match self with
  | .type _ => .error unmodeled
  | .text value => do
      let read ← decimal rt name
      let index ← okOr (if read.2 = [] then read.1 else none)
        (fail .typeError "string indices must be integers, not 'str'")
      let point ← okOr value[index]? (fail .indexError "string index out of range")
      pure (.text [point])

end Object

/-! ## Names -/

section

variable (rt : Runtime) (knownAttribute : String → Option String → Bool)

def startsAccess (point : Nat) : Bool := point = 46 ∨ point = 91

/-- The attributes and items that a name asks for, one after the other. -/
def access (value : Object) (name : List Nat) : Except Stop Object :=
  match name with
  | [] => pure value
  | mode :: rest =>
      if mode = 46 then
        let name := rest.takeWhile fun point => !startsAccess point
        if name = [] then .error (invalid "Empty attribute in format string")
        else do
          let value ← value.attributeOf rt knownAttribute name
          access value (rest.dropWhile fun point => !startsAccess point)
      else if mode = 91 then
        let name := rest.takeWhile (· ≠ 93)
        let closed := rest.dropWhile (· ≠ 93)
        if closed = [] then .error (invalid "Missing ']' in format string")
        else if name = [] then .error (invalid "Empty attribute in format string")
        else do
          let value ← value.itemOf rt name
          access value closed.tail
      else .error (invalid "Only '.' or '[' may follow ']' in format field specifier")
  termination_by name.length
  decreasing_by
    · exact Nat.lt_succ_of_le (List.dropWhile_sublist _).length_le
    · exact Nat.lt_succ_of_le ((List.tail_sublist _).trans (List.dropWhile_sublist _)).length_le

def lookup (name : List Nat) (fields : List (String × List Nat)) : Except Stop Object := do
  let first := name.takeWhile fun point => !startsAccess point
  let read ← decimal rt first
  rejectIf (first = [] ∨ (read.2 = [] ∧ read.1.isSome)) (fail .indexError
    ("Replacement index " ++ toString (read.1.getD 0) ++ " out of range for positional args tuple"))
  let entry ← okOr (fields.find? fun entry => points entry.1 = first)
    (.failed ⟨.keyError, repr first⟩)
  access rt knownAttribute (.text entry.2) (name.dropWhile fun point => !startsAccess point)

end

/-! ## Fields -/

structure Field where
  name : List Nat
  conversion : Option Nat
  spec : List Nat
  expand : Bool
  deriving DecidableEq, Repr

/-- The name of a field and what is left after it.  Within brackets every point belongs to the
name. -/
def scanName : Bool → List Nat → Except Stop (List Nat × List Nat)
  | _, [] => pure ([], [])
  | true, point :: rest => do
      let scanned ← scanName (point ≠ 93) rest
      pure (point :: scanned.1, scanned.2)
  | false, point :: rest =>
      if point = 33 ∨ point = 58 ∨ point = 125 then pure ([], point :: rest)
      else if point = 123 then .error (invalid "unexpected '\x7b' in field name")
      else do
        let scanned ← scanName (point = 91) rest
        pure (point :: scanned.1, scanned.2)

/-- A specifier up to the brace that closes its field, whether it has fields of its own, and what
is left after it.  The nesting is counted in thirty-two bits. -/
def scanSpec (nesting : BitVec 32) (expand : Bool) : List Nat →
    Except Stop (List Nat × Bool × List Nat)
  | [] => .error (invalid "unmatched '\x7b' in format spec")
  | point :: rest =>
      if point = 123 then do
        let scanned ← scanSpec (nesting + 1) true rest
        pure (point :: scanned.1, scanned.2)
      else if point = 125 ∧ nesting - 1 = 0 then pure ([], expand, rest)
      else do
        let scanned ← scanSpec (if point = 125 then nesting - 1 else nesting) expand rest
        pure (point :: scanned.1, scanned.2)

/-- The conversion of a field, the delimiter that follows, and what is left. -/
def scanConversion : List Nat → Except Stop (Option Nat × Nat × List Nat)
  | [] => .error (invalid "expected '\x7d' before end of string")
  | delimiter :: rest =>
      if delimiter = 33 then
        match rest with
        | [] => .error (invalid "end of string while looking for conversion specifier")
        | [_] => .error (invalid "unmatched '\x7b' in format spec")
        | conversion :: delimiter :: rest => do
            rejectIf (delimiter ≠ 58 ∧ delimiter ≠ 125)
              (invalid "expected ':' after conversion specifier")
            pure (some conversion, delimiter, rest)
      else pure (none, delimiter, rest)

def field (input : List Nat) : Except Stop (Field × List Nat) := do
  let name ← scanName false input
  let conversion ← scanConversion name.2
  if conversion.2.1 = 125 then pure (⟨name.1, conversion.1, [], false⟩, conversion.2.2)
  else do
    let spec ← scanSpec 1 false conversion.2.2
    pure (⟨name.1, conversion.1, spec.1, spec.2.1⟩, spec.2.2)

def conversion (value : Object) : Option Nat → Except Stop Object
  | none | some 0 => pure value
  | some 115 => pure (.text value.string)
  | some 97 =>
      match value with
      | .text value => pure (.text (asciiRepr value))
      | .type _ => pure (.text value.string)
  | some 114 =>
      match value with
      | .text value => pure (.text (repr value))
      | .type _ => pure (.text value.string)
  | some point =>
      let rendered := if 33 ≤ point ∧ point < 127 then [point] else hexCode point
      .error (.failed ⟨.valueError, points "Unknown conversion specifier " ++ rendered⟩)

/-! A field is taken from the front of the template. -/

theorem scanName_suffix {inBracket : Bool} {input : List Nat} {scanned : List Nat × List Nat}
    (h : scanName inBracket input = .ok scanned) : scanned.2 <:+ input := by
  induction input generalizing inBracket scanned with
  | nil =>
      cases inBracket <;> cases h <;> exact List.suffix_refl _
  | cons point rest ih =>
      cases inBracket with
      | true =>
          simp only [scanName, bind_eq_ok] at h
          obtain ⟨inner, hinner, heq⟩ := h
          cases heq
          exact (ih hinner).trans (List.suffix_cons _ _)
      | false =>
          rw [scanName] at h
          split at h
          · cases h
            exact List.suffix_refl _
          split at h
          · cases h
          · simp only [bind_eq_ok] at h
            obtain ⟨inner, hinner, heq⟩ := h
            cases heq
            exact (ih hinner).trans (List.suffix_cons _ _)

theorem scanSpec_suffix {nesting : BitVec 32} {expand : Bool} {input : List Nat}
    {scanned : List Nat × Bool × List Nat} (h : scanSpec nesting expand input = .ok scanned) :
    scanned.2.2 <:+ input.tail := by
  induction input generalizing nesting expand scanned with
  | nil => cases h
  | cons point rest ih =>
      rw [scanSpec] at h
      split at h
      · simp only [bind_eq_ok] at h
        obtain ⟨inner, hinner, heq⟩ := h
        cases heq
        exact (ih hinner).trans (List.tail_suffix _)
      split at h
      · cases h
        exact List.suffix_refl _
      · simp only [bind_eq_ok] at h
        obtain ⟨inner, hinner, heq⟩ := h
        cases heq
        exact (ih hinner).trans (List.tail_suffix _)

/-- The specifier is expanded when it holds an opening brace. -/
theorem scanSpec_expand {nesting : BitVec 32} {expand : Bool} {input : List Nat}
    {scanned : List Nat × Bool × List Nat} (h : scanSpec nesting expand input = .ok scanned)
    (hmem : expand = true ∨ 123 ∈ scanned.1) : scanned.2.1 = true := by
  induction input generalizing nesting expand scanned with
  | nil => cases h
  | cons point rest ih =>
      rw [scanSpec] at h
      split at h
      · simp only [bind_eq_ok] at h
        obtain ⟨inner, hinner, heq⟩ := h
        cases heq
        have hexpand : inner.2.1 = true := ih hinner (.inl rfl)
        exact hexpand
      next hopen =>
        split at h
        · cases h
          simpa using hmem
        · simp only [bind_eq_ok] at h
          obtain ⟨inner, hinner, heq⟩ := h
          cases heq
          have hrest : expand = true ∨ 123 ∈ inner.1 := hmem.imp_right fun hmem =>
            (List.mem_cons.mp hmem).resolve_left (Ne.symm hopen)
          have hexpand : inner.2.1 = true := ih hinner hrest
          exact hexpand

theorem scanConversion_suffix {input : List Nat} {scanned : Option Nat × Nat × List Nat}
    (h : scanConversion input = .ok scanned) : scanned.2.2 <:+ input.tail := by
  unfold scanConversion at h
  split at h
  · cases h
  split at h
  · split at h
    · cases h
    · cases h
    · simp only [bind_eq_ok, exists_unit] at h
      cases h.2
      exact (List.suffix_cons _ _).trans (List.suffix_cons _ _)
  · cases h
    exact List.suffix_refl _

theorem field_suffix {input : List Nat} {parsed : Field × List Nat}
    (h : field input = .ok parsed) : parsed.2 <:+ input.tail := by
  simp only [field, bind_eq_ok] at h
  obtain ⟨name, hname, conversion, hconversion, h⟩ := h
  have hrest : conversion.2.2 <:+ input.tail := by
    refine (scanConversion_suffix hconversion).trans ?_
    obtain ⟨front, hfront⟩ := scanName_suffix hname
    cases front with
    | nil =>
        rw [← hfront]
        exact List.suffix_refl _
    | cons point front =>
        rw [← hfront]
        exact (List.tail_suffix _).trans (List.suffix_append _ _)
  split at h
  · cases h
    exact hrest
  · simp only [bind_eq_ok] at h
    obtain ⟨spec, hspec, heq⟩ := h
    cases heq
    exact ((scanSpec_suffix hspec).trans (List.tail_suffix _)).trans hrest

theorem field_ne_nil {input : List Nat} {parsed : Field × List Nat}
    (h : field input = .ok parsed) : input ≠ [] := by
  intro hnil
  subst hnil
  cases h

theorem field_expand {input : List Nat} {parsed : Field × List Nat}
    (h : field input = .ok parsed) (hmem : 123 ∈ parsed.1.spec) : parsed.1.expand = true := by
  simp only [field, bind_eq_ok] at h
  obtain ⟨name, -, conversion, -, h⟩ := h
  split at h
  · cases h
    cases hmem
  · simp only [bind_eq_ok] at h
    obtain ⟨spec, hspec, heq⟩ := h
    cases heq
    exact scanSpec_expand hspec (.inr hmem)

/-! ## Templates -/

section

variable (rt : Runtime) (knownAttribute : String → Option String → Bool)
  (fields : List (String × List Nat))

/-- The specifier of a field; `nested` expands one that has fields of its own. -/
def expandSpec (nested : List Nat → Except Stop (List Nat)) (parsed : Field) :
    Except Stop (List Nat) :=
  if parsed.expand then nested parsed.spec else pure parsed.spec

def formatObject (value : Object) (spec : List Nat) : Except Stop (List Nat) :=
  match value with
  | .text value => stringFormat rt value spec
  | .type _ =>
      if spec.isEmpty then pure value.string
      else .error (fail .typeError "unsupported format string passed to type.__format__")

/-- What a field is replaced by. -/
def replacement (nested : List Nat → Except Stop (List Nat)) (parsed : Field) :
    Except Stop (List Nat) := do
  let value ← lookup rt knownAttribute parsed.name fields
  let value ← conversion value parsed.conversion
  let spec ← expandSpec nested parsed
  formatObject rt value spec

/-- The loop of `expand`, after the output so far. -/
def expandLoop (nested : List Nat → Except Stop (List Nat)) (output input : List Nat) :
    Except Stop (List Nat) :=
  match input with
  | [] => pure output
  | point :: rest =>
      if ¬ (point = 123 ∨ point = 125) then do
        let output ← append rt output [point]
        expandLoop nested output rest
      else if rest.head? = some point then do
        let output ← append rt output [point]
        expandLoop nested output rest.tail
      else if point = 125 then
        .error (invalid "Single '\x7d' encountered in format string")
      else if rest.isEmpty then
        .error (invalid "Single '\x7b' encountered in format string")
      else
        match _ : field rest with
        | .error stop => .error stop
        | .ok parsed => do
            let formatted ← replacement rt knownAttribute fields nested parsed.1
            let output ← append rt output formatted
            expandLoop nested output parsed.2
  termination_by input.length
  decreasing_by
    · exact Nat.lt_succ_self _
    · exact Nat.lt_succ_of_le (List.tail_sublist _).length_le
    · rename_i h
      exact Nat.lt_succ_of_le ((field_suffix h).trans (List.tail_suffix _)).length_le

def expand : Nat → List Nat → Except Stop (List Nat)
  | 0, _ => .error (invalid "Max string recursion exceeded")
  | depth + 1, input => expandLoop rt knownAttribute fields (expand depth) [] input

def formatNamed (template : List Nat) : Except Stop (List Nat) :=
  expand rt knownAttribute fields 2 template

end

/-! ## Plain templates -/

/-- A part of a template: a text that stands for itself, or a field that names an entry. -/
inductive Piece
  | literal (chunk : List Nat)
  | field (name : String)

/-- A text with its braces doubled. -/
def escaped (chunk : List Nat) : List Nat :=
  chunk.flatMap fun point => if point = 123 ∨ point = 125 then [point, point] else [point]

def Piece.text : Piece → List Nat
  | .literal chunk => escaped chunk
  | .field name => 123 :: (points name ++ [125])

def fieldValue (fields : List (String × List Nat)) (name : String) : List Nat :=
  ((fields.find? fun entry => entry.1 = name).map Prod.snd).getD []

def Piece.value (fields : List (String × List Nat)) : Piece → List Nat
  | .literal chunk => chunk
  | .field name => fieldValue fields name

/-- The number that a name begins with; zero if it begins with none. -/
def leadingNumber (rt : Runtime) (name : String) : Nat :=
  number rt ((points name).takeWhile (isDigit rt))

/-- A name without marks of the template language that is not a number. -/
structure PlainName (rt : Runtime) (name : String) : Prop where
  unmarked : ∀ point ∈ points name, point ∉ [46, 91, 33, 58, 123, 125]
  named : ∃ point ∈ points name, isDigit rt point = false

/-- Texts of no more than `n` points can be had. -/
structure Runtime.Roomy (rt : Runtime) (n : Nat) : Prop where
  bound : n ≤ rt.isizeMax
  reserve : ∀ length added, length + added ≤ n → rt.reserve length added = true
  reserveExact : ∀ length ≤ n, rt.reserveExact length = true

/-- There is no room for so many points, and the call ends for that reason. -/
def Starved {α : Type} (rt : Runtime) (n : Nat) (result : Except Stop α) : Prop :=
  ¬ rt.Roomy n ∧ (result = .error resource ∨ result = .error .aborted)

section

variable {rt : Runtime} {n : Nat}

theorem append_cases (output value : List Nat) (h : output.length + value.length ≤ n) :
    append rt output value = .ok (output ++ value) ∨
      ¬ rt.Roomy n ∧ append rt output value = .error resource := by
  by_cases hroom : rt.Roomy n
  · left
    have hbound : ¬ rt.isizeMax < output.length + value.length := by
      have := hroom.bound
      omega
    have hreserve : ¬ rt.reserve output.length value.length = false := by
      rw [hroom.reserve _ _ h]
      decide
    simp [append, rejectIf, hbound, hreserve, bind, Except.bind, pure, Except.pure]
  · by_cases hbound : rt.isizeMax < output.length + value.length
    · right
      exact ⟨hroom, by simp [append, rejectIf, hbound, bind, Except.bind]⟩
    by_cases hreserve : rt.reserve output.length value.length = false
    · right
      exact ⟨hroom, by simp [append, rejectIf, hbound, hreserve, bind, Except.bind]⟩
    · left
      simp [append, rejectIf, hbound, hreserve, bind, Except.bind, pure, Except.pure]

theorem toVec_cases (value : List Nat) (h : value.length ≤ n) :
    toVec rt value = .ok value ∨ ¬ rt.Roomy n ∧ toVec rt value = .error .aborted := by
  by_cases hallocates : rt.Allocates value.length
  · exact .inl ((toVec_eq_ok rt).mpr ⟨hallocates, rfl⟩)
  · refine .inr ⟨?_, ?_⟩
    · intro hroom
      exact hallocates ⟨h.trans hroom.bound, hroom.reserveExact _ h⟩
    · unfold Runtime.Allocates at hallocates
      simp [toVec, rejectIf, hallocates, bind, Except.bind]

/-! One part of a template is read from its front. -/

variable {knownAttribute : String → Option String → Bool} {fields : List (String × List Nat)}
  {nested : List Nat → Except Stop (List Nat)}

theorem expandLoop_escaped (chunk output rest : List Nat) (h : output.length + chunk.length ≤ n) :
    expandLoop rt knownAttribute fields nested output (escaped chunk ++ rest) =
        expandLoop rt knownAttribute fields nested (output ++ chunk) rest ∨
      Starved rt n
        (expandLoop rt knownAttribute fields nested output (escaped chunk ++ rest)) := by
  induction chunk generalizing output with
  | nil =>
      left
      rw [List.append_nil]
      rfl
  | cons point chunk ih =>
      rw [List.length_cons] at h
      have hshort : output.length + [point].length ≤ n := by
        rw [List.length_singleton]
        omega
      have hrest := ih (output ++ [point]) (by
        rw [List.length_append, List.length_singleton]
        omega)
      have hfront : expandLoop rt knownAttribute fields nested output
          (escaped (point :: chunk) ++ rest) = (append rt output [point]).bind fun output =>
            expandLoop rt knownAttribute fields nested output (escaped chunk ++ rest) := by
        by_cases hbrace : point = 123 ∨ point = 125
        · rw [escaped, List.flatMap_cons, if_pos hbrace, ← escaped, List.append_assoc,
            List.cons_append, List.cons_append, expandLoop, if_neg (not_not.mpr hbrace),
            List.head?_cons, if_pos rfl]
          rfl
        · rw [escaped, List.flatMap_cons, if_neg hbrace, ← escaped, List.append_assoc,
            List.cons_append, expandLoop, if_pos hbrace]
          rfl
      rw [hfront]
      rcases append_cases output [point] hshort with happend | ⟨hroom, happend⟩
      · rw [happend]
        rw [List.append_assoc, List.singleton_append] at hrest
        exact hrest
      · rw [happend]
        exact .inr ⟨hroom, .inl rfl⟩

theorem scanName_plain {name : List Nat} (h : ∀ point ∈ name, point ∉ [46, 91, 33, 58, 123, 125])
    (rest : List Nat) : scanName false (name ++ 125 :: rest) = .ok (name, 125 :: rest) := by
  induction name with
  | nil => rfl
  | cons point name ih =>
      have hpoint := h point List.mem_cons_self
      simp only [List.mem_cons, List.not_mem_nil, or_false, not_or] at hpoint
      obtain ⟨-, hbracket, hconversion, hspec, hopen, hclose⟩ := hpoint
      have hstop : ¬ (point = 33 ∨ point = 58 ∨ point = 125) := by omega
      rw [List.cons_append, scanName, if_neg hstop, if_neg hopen, decide_eq_false hbracket,
        ih fun p hp => h p (List.mem_cons_of_mem _ hp)]
      rfl

theorem field_plain {name : List Nat} (h : ∀ point ∈ name, point ∉ [46, 91, 33, 58, 123, 125])
    (rest : List Nat) : field (name ++ 125 :: rest) = .ok (⟨name, none, [], false⟩, rest) := by
  rw [field, scanName_plain h]
  rfl

theorem points_injective {a b : String} (h : points a = points b) : a = b :=
  String.toList_inj.mp (List.map_injective_iff.mpr (fun _ _ => Char.toNat_inj.mp) h)

theorem fieldValue_of_mem {name : String} (h : ∃ entry ∈ fields, entry.1 = name) :
    ∃ entry, fields.find? (fun entry => points entry.1 = points name) = some entry ∧
      entry.2 = fieldValue fields name := by
  have hsame : (fun entry : String × List Nat => decide (points entry.1 = points name)) =
      fun entry => decide (entry.1 = name) := by
    ext entry
    rw [decide_eq_decide]
    exact ⟨points_injective, fun h => h ▸ rfl⟩
  have hsome : (fields.find? fun entry => entry.1 = name).isSome := by
    rw [List.find?_isSome]
    obtain ⟨entry, hmem, hname⟩ := h
    exact ⟨entry, hmem, decide_eq_true hname⟩
  obtain ⟨entry, hentry⟩ := Option.isSome_iff_exists.mp hsome
  rw [hsame]
  exact ⟨entry, hentry, by rw [fieldValue, hentry]; rfl⟩

theorem lookup_plain {name : String} (hplain : PlainName rt name)
    (hnumber : leadingNumber rt name ≤ rt.isizeMax) (hmem : ∃ entry ∈ fields, entry.1 = name) :
    lookup rt knownAttribute (points name) fields = .ok (.text (fieldValue fields name)) := by
  obtain ⟨entry, hentry, hvalue⟩ := fieldValue_of_mem hmem
  have hwhole : ∀ point ∈ points name, (!startsAccess point) = true := by
    intro point hpoint
    have hmark := hplain.unmarked point hpoint
    simp only [List.mem_cons, List.not_mem_nil, or_false, not_or] at hmark
    simp [startsAccess, hmark.1, hmark.2.1]
  have htake := List.takeWhile_eq_self_iff.mpr hwhole
  have hdrop := List.dropWhile_eq_nil_iff.mpr hwhole
  have hdecimal := decimal_eq_ok.mpr ⟨hnumber, rfl⟩
  obtain ⟨point, hpoint, hdigit⟩ := hplain.named
  have hrest : (points name).dropWhile (isDigit rt) ≠ [] := by
    intro hnil
    have hall := List.dropWhile_eq_nil_iff.mp hnil point hpoint
    rw [hdigit] at hall
    cases hall
  have hne : points name ≠ [] := List.ne_nil_of_mem hpoint
  have hindex : ¬ (points name = [] ∨ ((points name).dropWhile (isDigit rt) = [] ∧
      (if (points name).takeWhile (isDigit rt) = [] then none
        else some (number rt ((points name).takeWhile (isDigit rt)))).isSome)) := by
    rintro (h | ⟨h, -⟩)
    · exact hne h
    · exact hrest h
  simp only [lookup, htake, hdrop, hdecimal, hentry, bind, Except.bind, rejectIf, if_neg hindex,
    okOr, hvalue, access, pure, Except.pure]

/-- A plain field at the front is replaced, whatever its name stands for. -/
theorem expandLoop_front {name : String} (hplain : PlainName rt name) (output rest : List Nat) :
    expandLoop rt knownAttribute fields nested output ((Piece.field name).text ++ rest) =
      (replacement rt knownAttribute fields nested ⟨points name, none, [], false⟩).bind
        fun formatted => (append rt output formatted).bind fun output =>
          expandLoop rt knownAttribute fields nested output rest := by
  obtain ⟨point, hpoint, -⟩ := hplain.named
  have htext : (Piece.field name).text ++ rest = 123 :: (points name ++ 125 :: rest) := by
    simp [Piece.text]
  have hhead : (points name ++ 125 :: rest).head? ≠ some 123 := by
    intro hhead
    cases hpoints : points name with
    | nil =>
        rw [hpoints] at hpoint
        cases hpoint
    | cons first others =>
        rw [hpoints] at hhead
        have hfirst := hplain.unmarked first (by rw [hpoints]; exact List.mem_cons_self)
        rw [Option.some.inj hhead] at hfirst
        exact hfirst (by decide)
  rw [htext, expandLoop, if_neg (by simp), if_neg hhead, if_neg (by decide), if_neg (by simp)]
  split
  · next hfield =>
      rw [field_plain hplain.unmarked] at hfield
      cases hfield
  · next hfield =>
      rw [field_plain hplain.unmarked] at hfield
      cases hfield
      rfl

theorem expandLoop_field {name : String} (hplain : PlainName rt name)
    (hnumber : leadingNumber rt name ≤ rt.isizeMax) (hmem : ∃ entry ∈ fields, entry.1 = name)
    (output rest : List Nat) (h : output.length + (fieldValue fields name).length ≤ n) :
    expandLoop rt knownAttribute fields nested output ((Piece.field name).text ++ rest) =
        expandLoop rt knownAttribute fields nested (output ++ fieldValue fields name) rest ∨
      Starved rt n (expandLoop rt knownAttribute fields nested output
        ((Piece.field name).text ++ rest)) := by
  have hreplacement : replacement rt knownAttribute fields nested
      ⟨points name, none, [], false⟩ = toVec rt (fieldValue fields name) := by
    rw [replacement, lookup_plain hplain hnumber hmem]
    rfl
  rw [expandLoop_front hplain, hreplacement]
  rcases toVec_cases (fieldValue fields name) (show _ ≤ n by omega) with hvec | ⟨hroom, hvec⟩
  · rw [hvec]
    rcases append_cases output _ h with happend | ⟨hroom, happend⟩
    · left
      change (append rt output _).bind _ = _
      rw [happend]
      rfl
    · right
      refine ⟨hroom, .inl ?_⟩
      change (append rt output _).bind _ = _
      rw [happend]
      rfl
  · rw [hvec]
    exact .inr ⟨hroom, .inr rfl⟩

/-- The part names an entry, in a way that is not taken for a number. -/
def Piece.Plain (rt : Runtime) (fields : List (String × List Nat)) : Piece → Prop
  | .literal _ => True
  | .field name => PlainName rt name ∧ leadingNumber rt name ≤ rt.isizeMax ∧
      ∃ entry ∈ fields, entry.1 = name

/-- **A plain template** is replaced part by part. -/
theorem expandLoop_pieces {pieces : List Piece} (hplain : ∀ piece ∈ pieces, piece.Plain rt fields)
    (output : List Nat)
    (h : output.length + (pieces.flatMap (Piece.value fields)).length ≤ n) :
    expandLoop rt knownAttribute fields nested output (pieces.flatMap Piece.text) =
        .ok (output ++ pieces.flatMap (Piece.value fields)) ∨
      Starved rt n (expandLoop rt knownAttribute fields nested output
        (pieces.flatMap Piece.text)) := by
  induction pieces generalizing output with
  | nil =>
      left
      rw [List.flatMap_nil, List.flatMap_nil, List.append_nil, expandLoop]
      rfl
  | cons piece pieces ih =>
      rw [List.flatMap_cons, List.length_append] at h
      have hrest := ih (fun p hp => hplain p (List.mem_cons_of_mem _ hp))
        (output ++ piece.value fields) (by
          rw [List.length_append]
          omega)
      have hfirst : expandLoop rt knownAttribute fields nested output
            (piece.text ++ pieces.flatMap Piece.text) =
          expandLoop rt knownAttribute fields nested (output ++ piece.value fields)
            (pieces.flatMap Piece.text) ∨
          Starved rt n (expandLoop rt knownAttribute fields nested output
            (piece.text ++ pieces.flatMap Piece.text)) := by
        cases piece with
        | literal chunk =>
            exact expandLoop_escaped chunk output _ ((Nat.le_add_right _ _).trans
              ((Nat.add_assoc _ _ _).le.trans h))
        | field name =>
            obtain ⟨hname, hnumber, hmem⟩ := hplain _ List.mem_cons_self
            exact expandLoop_field hname hnumber hmem output _ ((Nat.le_add_right _ _).trans
              ((Nat.add_assoc _ _ _).le.trans h))
      rw [List.flatMap_cons, List.flatMap_cons]
      rcases hfirst with heq | hstarved
      · rw [heq, ← List.append_assoc]
        exact hrest
      · exact .inr hstarved

/-! ## Nested fields -/

/-- Where the scan of a template stands between its parts. -/
inductive Scanned (template : List Nat) : List Nat → Prop
  | start : Scanned template template
  | literal {point : Nat} {rest : List Nat} (hscanned : Scanned template (point :: rest))
      (hpoint : ¬ (point = 123 ∨ point = 125)) : Scanned template rest
  | escaped {point : Nat} {rest : List Nat} (hscanned : Scanned template (point :: point :: rest))
      (hpoint : point = 123 ∨ point = 125) : Scanned template rest
  | field {rest : List Nat} {parsed : Field × List Nat}
      (hscanned : Scanned template (123 :: rest)) (hfield : rest.head? ≠ some 123)
      (hparsed : field rest = .ok parsed) : Scanned template parsed.2

/-- A replacement field of a template. -/
def HasField (template : List Nat) (parsed : Field) : Prop :=
  ∃ rest after, Scanned template (123 :: rest) ∧ rest.head? ≠ some 123 ∧
    field rest = .ok (parsed, after)

theorem Scanned.suffix {template rest : List Nat} (h : Scanned template rest) :
    ∀ point ∈ rest, point ∈ template := by
  induction h with
  | start => exact fun _ hpoint => hpoint
  | literal _ _ ih => exact fun p hp => ih p (List.mem_cons_of_mem _ hp)
  | escaped _ _ ih => exact fun p hp => ih p (List.mem_cons_of_mem _ (List.mem_cons_of_mem _ hp))
  | field _ _ hparsed ih =>
      intro p hp
      exact ih p (List.mem_cons_of_mem _ (((field_suffix hparsed).trans
        (List.tail_suffix _)).mem hp))

/-- A field that is replaced has its specifier expanded. -/
theorem expandLoop_field_ok {rest output result : List Nat} {parsed : Field × List Nat}
    (hfield : rest.head? ≠ some 123) (hparsed : field rest = .ok parsed)
    (hok : expandLoop rt knownAttribute fields nested output (123 :: rest) = .ok result) :
    ∃ formatted appended, replacement rt knownAttribute fields nested parsed.1 = .ok formatted ∧
      append rt output formatted = .ok appended ∧
      expandLoop rt knownAttribute fields nested appended parsed.2 = .ok result := by
  have hne : ¬ rest.isEmpty = true := by
    rw [List.isEmpty_iff]
    exact field_ne_nil hparsed
  rw [expandLoop, if_neg (by simp), if_neg hfield, if_neg (by decide), if_neg hne] at hok
  split at hok
  · cases hok
  · next hfound =>
      rw [hparsed] at hfound
      cases hfound
      obtain ⟨formatted, hformatted, hok⟩ := bind_eq_ok.mp hok
      obtain ⟨appended, happended, hok⟩ := bind_eq_ok.mp hok
      exact ⟨formatted, appended, hformatted, happended, hok⟩

/-- **A scan that goes on has succeeded so far.** -/
theorem Scanned.expandLoop_ok {template rest : List Nat} (h : Scanned template rest)
    {output result : List Nat}
    (hok : expandLoop rt knownAttribute fields nested output template = .ok result) :
    ∃ output', expandLoop rt knownAttribute fields nested output' rest = .ok result := by
  induction h with
  | start => exact ⟨output, hok⟩
  | literal _ hpoint ih =>
      obtain ⟨output', hrest⟩ := ih
      rw [expandLoop, if_pos hpoint] at hrest
      obtain ⟨appended, -, hrest⟩ := bind_eq_ok.mp hrest
      exact ⟨appended, hrest⟩
  | escaped _ hpoint ih =>
      obtain ⟨output', hrest⟩ := ih
      rw [expandLoop, if_neg (not_not.mpr hpoint), List.head?_cons, if_pos rfl] at hrest
      obtain ⟨appended, -, hrest⟩ := bind_eq_ok.mp hrest
      exact ⟨appended, hrest⟩
  | field _ hfield hparsed ih =>
      obtain ⟨output', hrest⟩ := ih
      obtain ⟨_, appended, _, _, hrest⟩ := expandLoop_field_ok hfield hparsed hrest
      exact ⟨appended, hrest⟩

/-- An opening brace in the specifier of a field is looked at one level deeper. -/
theorem expand_nested {depth : Nat} {template result : List Nat} {parsed : Field}
    (hok : expand rt knownAttribute fields (depth + 1) template = .ok result)
    (hfield : HasField template parsed) (hbrace : 123 ∈ parsed.spec) :
    ∃ spec, expand rt knownAttribute fields depth parsed.spec = .ok spec := by
  obtain ⟨rest, after, hscanned, hhead, hparsed⟩ := hfield
  obtain ⟨output, hrest⟩ := hscanned.expandLoop_ok hok
  obtain ⟨formatted, -, hreplaced, -⟩ := expandLoop_field_ok hhead hparsed hrest
  have hexpand : parsed.expand = true := field_expand hparsed hbrace
  simp only [replacement, bind_eq_ok] at hreplaced
  obtain ⟨-, -, -, -, spec, hspec, -⟩ := hreplaced
  rw [expandSpec, if_pos hexpand] at hspec
  exact ⟨spec, hspec⟩

theorem HasField.brace {template : List Nat} {parsed : Field} (h : HasField template parsed) :
    123 ∈ template := by
  obtain ⟨rest, after, hscanned, -⟩ := h
  exact hscanned.suffix 123 List.mem_cons_self

variable (rt knownAttribute fields)

/-- **What the formatter makes of a template.** -/
structure FormatsNamed : Prop where
  /-- A plain template becomes its texts and values, whatever these contain, unless there is no
  room for them. -/
  plain : ∀ pieces : List Piece, (∀ piece ∈ pieces, piece.Plain rt fields) →
    formatNamed rt knownAttribute fields (pieces.flatMap Piece.text) =
        .ok (pieces.flatMap (Piece.value fields)) ∨
      Starved rt (pieces.flatMap (Piece.value fields)).length
        (formatNamed rt knownAttribute fields (pieces.flatMap Piece.text))
  /-- There are two levels, and the third is an error. -/
  levels : ∀ template, formatNamed rt knownAttribute fields template =
    expandLoop rt knownAttribute fields (expandLoop rt knownAttribute fields
      (fun _ => .error (invalid "Max string recursion exceeded")) []) [] template
  /-- A field in the specifier of a field in a specifier is an error, and so is any opening
  brace there. -/
  nested : ∀ template outer inner, HasField template outer → HasField outer.spec inner →
    123 ∈ inner.spec → ∃ stop, formatNamed rt knownAttribute fields template = .error stop

/-- **Templates are formatted by their parts**: texts outside of the fields stand for themselves,
values are not expanded again, and fields nest no deeper than two levels. -/
theorem format_named : FormatsNamed rt knownAttribute fields where
  plain _ hplain := expandLoop_pieces hplain [] (Nat.zero_add _).le
  levels template := rfl
  nested template outer inner houter hinner hbrace := by
    cases hok : formatNamed rt knownAttribute fields template with
    | error stop => exact ⟨stop, rfl⟩
    | ok result =>
        obtain ⟨spec, hspec⟩ := expand_nested hok houter hinner.brace
        obtain ⟨deeper, hdeeper⟩ := expand_nested hspec hinner hbrace
        cases hdeeper

end

/-! ## Two templates -/

def exampleFields : List (String × List Nat) :=
  [("name", points "\x7bname\x7d"), ("9999999999999999999a", points "value")]

theorem roomy_asciiRuntime {n : Nat} (h : n ≤ 1024) : asciiRuntime.Roomy n where
  bound := h.trans (by decide)
  reserve _ _ _ := rfl
  reserveExact length hlength := decide_eq_true ((hlength.trans h).trans (by decide))

/-- A value that reads like a field is not expanded. -/
theorem format_named_braces :
    formatNamed asciiRuntime (fun _ _ => false) exampleFields
      (points "\x7b\x7bhi\x7d\x7d \x7bname\x7d!") = .ok (points "\x7bhi\x7d \x7bname\x7d!") := by
  have hplain : ∀ piece ∈ [Piece.literal (points "\x7bhi\x7d "), .field "name",
      .literal (points "!")], piece.Plain asciiRuntime exampleFields := by
    intro piece hpiece
    simp only [List.mem_cons, List.not_mem_nil, or_false] at hpiece
    obtain rfl | rfl | rfl := hpiece
    · trivial
    · exact ⟨⟨by decide, by decide⟩, by decide, by decide⟩
    · trivial
  rcases (format_named asciiRuntime (fun _ _ => false) exampleFields).plain _ hplain with
    hok | ⟨hroom, -⟩
  · exact hok
  · exact absurd (roomy_asciiRuntime (by decide)) hroom

/-- **A name that begins with a long number** is no field, although it is not a number. -/
theorem format_named_long_number :
    PlainName asciiRuntime "9999999999999999999a" ∧
      (∃ entry ∈ exampleFields, entry.1 = "9999999999999999999a") ∧
      formatNamed asciiRuntime (fun _ _ => false) exampleFields
        (Piece.field "9999999999999999999a").text =
          .error (invalid "Too many decimal digits in format string") := by
  have hplain : PlainName asciiRuntime "9999999999999999999a" := ⟨by decide, by decide⟩
  refine ⟨hplain, by decide, ?_⟩
  have hlookup : lookup asciiRuntime (fun _ _ => false) (points "9999999999999999999a")
      exampleFields = .error (invalid "Too many decimal digits in format string") := by
    rfl
  rw [← List.append_nil (Piece.field _).text]
  change expandLoop _ _ _ _ _ _ = _
  rw [expandLoop_front hplain, replacement, hlookup]
  rfl

end Marty.Issuance.PythonFormat
