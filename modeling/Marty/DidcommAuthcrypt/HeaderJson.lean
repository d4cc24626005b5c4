import Marty.DidcommAuthcrypt.GoText

/-!
# The header of a direct JWE

Three strings, written as a JSON object, and the decoder of that object: it takes the members by
name without regard to case, lets a later one replace an earlier, and skips what it does not know.

## Main definitions

* `marshal`, `unmarshal` — the encoder and the decoder.
* `unmarshal_marshal` — the header that is read back.
* `length_marshal` — how long the object is.
-/

namespace Marty.DidcommAuthcrypt

open Lib Lib.Unicode ResponseText

structure DirectHeader where
  alg : Bytes
  enc : Bytes
  kid : Bytes
  deriving DecidableEq, Inhabited

theorem pointsOf_valid (text : List Char) : ∀ p ∈ pointsOf text, p.isValidChar := by
  intro p hp
  obtain ⟨c, -, rfl⟩ := List.mem_map.mp hp
  exact c.valid

/-- The bytes of a text in the source. -/
def literal (text : String) : Bytes := encodeText (pointsOf text.toList)

theorem runes_literal (text : String) :
    runes (literal text) = (pointsOf text.toList).map some :=
  runes_encodeText (pointsOf_valid text.toList)

/-! ## Writing -/

def hexDigit (n : Nat) : Nat := if n < 10 then 48 + n else 87 + n

/-- What the JSON of a string holds for a rune of it. -/
def escapeRune : Option Nat → List Nat
  | none => [92, 117, 102, 102, 102, 100]
  | some point =>
      if point = 34 ∨ point = 92 then [92, point]
      else if point = 8 then [92, 98]
      else if point = 12 then [92, 102]
      else if point = 10 then [92, 110]
      else if point = 13 then [92, 114]
      else if point = 9 then [92, 116]
      else if point < 32 ∨ point = 60 ∨ point = 62 ∨ point = 38 then
        [92, 117, 48, 48, hexDigit (point / 16), hexDigit (point % 16)]
      else if point = 0x2028 ∨ point = 0x2029 then [92, 117, 50, 48, 50, hexDigit (point % 16)]
      else [point]

/-- The JSON of a string between its quotes. -/
def escapeString (bytes : Bytes) : List Nat := (runes bytes).flatMap escapeRune

def appendString (bytes : Bytes) : List Nat := 34 :: (escapeString bytes ++ [34])

def appendMember (name : String) (value : Bytes) : List Nat :=
  appendString (literal name) ++ 58 :: appendString value

/-- `json.Marshal` -/
def marshal (header : DirectHeader) : Bytes :=
  encodeText (123 :: (appendMember "alg" header.alg ++ 44 :: (appendMember "enc" header.enc ++
    44 :: (appendMember "kid" header.kid ++ [125]))))

/-! ## Reading -/

inductive HeaderField
  | alg | enc | kid
  deriving DecidableEq

/-- Letters without their case; the sign of the kelvin is a `k`, and the long `s` an `s`. -/
def foldRune (point : Nat) : Nat :=
  if 65 ≤ point ∧ point ≤ 90 then point + 32
  else if point = 0x212A then 107
  else if point = 0x17F then 115
  else point

/-- The points of a text that is read; a surrogate that stands alone is replaced. -/
def textPoints (text : PythonText) : List Nat :=
  text.codepoints.map fun point => if point.isValidChar then point else runeError

def fieldOf (name : PythonText) : Option HeaderField :=
  let folded := (textPoints name).map foldRune
  if folded = [97, 108, 103] then some .alg
  else if folded = [101, 110, 99] then some .enc
  else if folded = [107, 105, 100] then some .kid
  else none

def DirectHeader.set (header : DirectHeader) (value : Bytes) : HeaderField → DirectHeader
  | .alg => { header with alg := value }
  | .enc => { header with enc := value }
  | .kid => { header with kid := value }

/-- A member of a known name must be a string, or null, which leaves the field as it is. -/
def readMember (header : DirectHeader) (member : PythonText × JsonNode) : Option DirectHeader :=
  match fieldOf member.1, member.2 with
  | none, _ => some header
  | some field, .text value => some (header.set (encodeText (textPoints value)) field)
  | some _, .scalar .null => some header
  | some _, _ => none

/-- `json.Unmarshal`; its bound on the depth of nesting is not met by the few bytes that it is
given. -/
def unmarshal (bytes : Bytes) : Option DirectHeader :=
  match Parser.run (.value ((runes bytes).map runePoint) []) with
  | none => none
  | some (tree, rest) =>
      if Parser.space rest = [] then
        match tree with
        | .object members => members.foldlM readMember default
        | .scalar .null => some default
        | _ => none
      else none

/-! ## Strings are read back -/

theorem escapeRune_valid {rune : Option Nat} (h : (runePoint rune).isValidChar) :
    ∀ p ∈ escapeRune rune, p.isValidChar := by
  have hsmall : ∀ p : Nat, p < 128 → p.isValidChar := fun p hp => .inl (by omega)
  have hdigit : ∀ n, n < 16 → (hexDigit n).isValidChar := by
    intro n hn
    apply hsmall
    unfold hexDigit
    split <;> omega
  cases rune with
  | none => decide
  | some point =>
      change point.isValidChar at h
      rw [escapeRune]
      split
      · next hquote => exact List.forall_mem_cons.mpr ⟨by decide, by simpa using h⟩
      split
      · decide
      split
      · decide
      split
      · decide
      split
      · decide
      split
      · decide
      split
      · intro p hp
        simp only [List.mem_cons, List.not_mem_nil, or_false] at hp
        obtain rfl | rfl | rfl | rfl | rfl | rfl := hp
        · decide
        · decide
        · decide
        · decide
        · exact hdigit _ (by omega)
        · exact hdigit _ (Nat.mod_lt _ (by decide))
      split
      · intro p hp
        simp only [List.mem_cons, List.not_mem_nil, or_false] at hp
        obtain rfl | rfl | rfl | rfl | rfl | rfl := hp
        · decide
        · decide
        · decide
        · decide
        · decide
        · exact hdigit _ (Nat.mod_lt _ (by decide))
      · simpa using h

/-- **An escaped rune** is read as its point. -/
theorem textPoint_escapeRune {rune : Option Nat} (rest : Parser.Points) :
    Parser.textPoint (escapeRune rune ++ rest) = some (some (runePoint rune), rest) := by
  cases rune with
  | none => rfl
  | some point =>
      by_cases hcontrol : point < 32
      · interval_cases point <;> rfl
      by_cases hspecial : point ∈ [34, 92, 60, 62, 38, 0x2028, 0x2029]
      · simp only [List.mem_cons, List.not_mem_nil, or_false] at hspecial
        obtain rfl | rfl | rfl | rfl | rfl | rfl | rfl := hspecial <;> rfl
      · simp only [List.mem_cons, List.not_mem_nil, or_false, not_or] at hspecial
        obtain ⟨hquote, hslash, hless, hgreater, hand, hline, hparagraph⟩ := hspecial
        have hplain : escapeRune (some point) = [point] := by
          rw [escapeRune, if_neg (by omega), if_neg (by omega), if_neg (by omega),
            if_neg (by omega), if_neg (by omega), if_neg (by omega), if_neg (by omega),
            if_neg (by omega)]
        rw [hplain, List.singleton_append, Parser.textPoint, if_neg hquote, if_neg (by omega),
          if_neg hslash]
        rfl

theorem toNat_ofNat_of_valid {point : Nat} (h : point.isValidChar) :
    (Char.ofNat point).toNat = point := by
  rw [Char.ofNat, dif_pos h]
  rfl

/-- The text that a string is read as. -/
def textOf (bytes : Bytes) : PythonText :=
  .scalar ((runes bytes).map fun rune => Char.ofNat (runePoint rune))

theorem textFrom_escapeString (rs : List (Option Nat)) (hrs : ∀ r ∈ rs, (runePoint r).isValidChar)
    (done : List Char) (rest : Parser.Points) :
    Parser.textFrom (.scalar done) (rs.flatMap escapeRune ++ 34 :: rest) =
      some (.scalar (done ++ rs.map fun rune => Char.ofNat (runePoint rune)), rest) := by
  induction rs generalizing done with
  | nil =>
      rw [List.map_nil, List.append_nil]
      exact Parser.textFrom_end rfl
  | cons rune rs ih =>
      have hrune := toNat_ofNat_of_valid (hrs rune List.mem_cons_self)
      have hpush := Parser.push_char done (Char.ofNat (runePoint rune))
      rw [hrune] at hpush
      rw [List.flatMap_cons, List.append_assoc,
        Parser.textFrom_push (textPoint_escapeRune _) hpush,
        ih fun r hr => hrs r (List.mem_cons_of_mem _ hr), List.map_cons, List.append_assoc,
        List.singleton_append]

/-- **A string is read back**, with its bytes that are no UTF-8 replaced. -/
theorem string_appendString (bytes : Bytes) (rest : Parser.Points) :
    Parser.string (appendString bytes ++ rest) = some (textOf bytes, rest) := by
  have hquote : appendString bytes ++ rest = 34 :: (escapeString bytes ++ 34 :: rest) := by
    rw [appendString, List.cons_append, List.append_assoc]
    rfl
  rw [Parser.string, hquote, Parser.take_eq_some.mpr rfl, Option.bind_some]
  exact textFrom_escapeString _ (runePoint_valid bytes) [] rest

theorem objectKey_appendMember (name : String) (value : Bytes) (rest : Parser.Points) :
    Parser.objectKey (appendMember name value ++ rest) =
      some (textOf (literal name), appendString value ++ rest) := by
  have hread := string_appendString (literal name) (58 :: (appendString value ++ rest))
  have hspace : Parser.space (appendMember name value ++ rest) =
      appendString (literal name) ++ 58 :: (appendString value ++ rest) := by
    rw [appendMember, List.append_assoc]
    rfl
  rw [Parser.objectKey, hspace, hread]
  rfl

theorem run_appendString (bytes : Bytes) (rest : Parser.Points) (frames : List Parser.Frame) :
    Parser.run (.value (appendString bytes ++ rest) frames) =
      Parser.run (.finished (.text (textOf bytes)) rest frames) := by
  apply Parser.run_leaf
  change Parser.leaf frames ((Parser.string (appendString bytes ++ rest)).map _) = _
  rw [string_appendString]
  rfl

theorem textPoints_textOf (bytes : Bytes) :
    textPoints (textOf bytes) = (runes bytes).map runePoint := by
  rw [textPoints, textOf, PythonText.codepoints, List.map_map, List.map_map]
  refine List.map_congr_left fun rune hrune => ?_
  have hvalid := runePoint_valid bytes rune hrune
  simp only [Function.comp_apply, toNat_ofNat_of_valid hvalid, if_pos hvalid]

theorem encodeText_textOf (bytes : Bytes) :
    encodeText (textPoints (textOf bytes)) = toValidUtf8 bytes := by
  rw [textPoints_textOf, encodeText, List.flatMap_map]
  rfl

/-! ## Headers are read back -/

/-- The points of the object. -/
def headerPoints (header : DirectHeader) : List Nat :=
  123 :: (appendMember "alg" header.alg ++ 44 :: (appendMember "enc" header.enc ++
    44 :: (appendMember "kid" header.kid ++ [125])))

theorem appendString_valid (bytes : Bytes) : ∀ p ∈ appendString bytes, p.isValidChar := by
  intro p hp
  simp only [appendString, escapeString, List.mem_cons, List.mem_append, List.mem_flatMap,
    List.not_mem_nil, or_false] at hp
  obtain rfl | ⟨rune, hrune, hp⟩ | rfl := hp
  · decide
  · exact escapeRune_valid (runePoint_valid bytes rune hrune) p hp
  · decide

theorem headerPoints_valid (header : DirectHeader) : ∀ p ∈ headerPoints header, p.isValidChar := by
  have hmember : ∀ name value, ∀ p ∈ appendMember name value, p.isValidChar := by
    intro name value p hp
    rw [appendMember, List.mem_append, List.mem_cons] at hp
    obtain hp | rfl | hp := hp
    · exact appendString_valid _ p hp
    · decide
    · exact appendString_valid _ p hp
  intro p hp
  simp only [headerPoints, List.mem_cons, List.mem_append, List.not_mem_nil, or_false] at hp
  obtain rfl | hp | rfl | hp | rfl | hp | rfl := hp
  · decide
  · exact hmember _ _ p hp
  · decide
  · exact hmember _ _ p hp
  · decide
  · exact hmember _ _ p hp
  · decide

/-- The tree of the object. -/
def headerTree (header : DirectHeader) : JsonNode :=
  .object [(textOf (literal "alg"), .text (textOf header.alg)),
    (textOf (literal "enc"), .text (textOf header.enc)),
    (textOf (literal "kid"), .text (textOf header.kid))]

theorem run_headerPoints (header : DirectHeader) :
    Parser.run (.value (headerPoints header) []) = some (headerTree header, []) := by
  have hopen : ∀ (name : String) (value : Bytes) (rest : Parser.Points),
      Parser.step (.value (123 :: (appendMember name value ++ rest)) []) =
        some (.inl (.value (appendString value ++ rest) [.object [] (textOf (literal name))])) := by
    intro name value rest
    exact congrArg (Option.map (Sum.inl : Parser.State → Parser.State ⊕ JsonNode × Parser.Points))
      (congrArg (Option.map fun next : PythonText × Parser.Points =>
        Parser.State.value next.2 [.object [] next.1]) (objectKey_appendMember name value rest))
  have hnext : ∀ (node : JsonNode) (name : String) (value : Bytes) (rest : Parser.Points)
      (entries : List (PythonText × JsonNode)) (key : PythonText),
      Parser.step (.finished node (44 :: (appendMember name value ++ rest))
          [.object entries key]) =
        some (.inl (.value (appendString value ++ rest)
          [.object (entries ++ [(key, node)]) (textOf (literal name))])) := by
    intro node name value rest entries key
    exact congrArg (Option.map fun next : PythonText × Parser.Points =>
      (Sum.inl (.value next.2 [.object (entries ++ [(key, node)]) next.1]) :
        Parser.State ⊕ JsonNode × Parser.Points)) (objectKey_appendMember name value rest)
  rw [headerPoints, Parser.run_step (hopen "alg" header.alg _), run_appendString,
    Parser.run_step (hnext _ "enc" header.enc _ _ _), run_appendString,
    Parser.run_step (hnext _ "kid" header.kid _ _ _), run_appendString]
  exact (Parser.run_step rfl).trans (Parser.run_done rfl)

theorem readMember_textOf (header : DirectHeader) (name : String) (field : HeaderField)
    (h : fieldOf (textOf (literal name)) = some field) (value : Bytes) :
    readMember header (textOf (literal name), .text (textOf value)) =
      some (header.set (toValidUtf8 value) field) := by
  rw [readMember, h, ← encodeText_textOf]

theorem textPoints_literal (name : String) :
    textPoints (textOf (literal name)) = pointsOf name.toList := by
  rw [textPoints_textOf, runes_literal, List.map_map]
  exact List.map_id _

/-- **A header is read back**, with what is no UTF-8 in its strings replaced. -/
theorem unmarshal_marshal (header : DirectHeader) : unmarshal (marshal header) =
    some ⟨toValidUtf8 header.alg, toValidUtf8 header.enc, toValidUtf8 header.kid⟩ := by
  have hpoints : (runes (marshal header)).map runePoint = headerPoints header := by
    rw [marshal, ← headerPoints, runes_encodeText (headerPoints_valid header), List.map_map]
    exact List.map_id _
  have halg : fieldOf (textOf (literal "alg")) = some .alg := by
    rw [fieldOf, textPoints_literal]
    rfl
  have henc : fieldOf (textOf (literal "enc")) = some .enc := by
    rw [fieldOf, textPoints_literal]
    rfl
  have hkid : fieldOf (textOf (literal "kid")) = some .kid := by
    rw [fieldOf, textPoints_literal]
    rfl
  rw [unmarshal, hpoints, run_headerPoints]
  simp only [headerTree, List.foldlM_cons, List.foldlM_nil, readMember_textOf _ _ _ halg,
    readMember_textOf _ _ _ henc, readMember_textOf _ _ _ hkid, Option.bind_eq_bind,
    Option.bind_some]
  rfl

/-! ## Lengths -/

/-- How many bytes the JSON of a string has between its quotes. -/
def escapedLength (bytes : Bytes) : Nat := (encodeText (escapeString bytes)).length

theorem encodeText_append (points points' : List Nat) :
    encodeText (points ++ points') = encodeText points ++ encodeText points' :=
  List.flatMap_append

theorem length_appendString (bytes : Bytes) :
    (encodeText (appendString bytes)).length = escapedLength bytes + 2 := by
  have hquote : encodeText (appendString bytes) =
      34 :: (encodeText (escapeString bytes) ++ [34]) := by
    rw [appendString, ← List.singleton_append, encodeText_append, encodeText_append]
    rfl
  rw [hquote, List.length_cons, List.length_append, escapedLength]
  rfl

theorem escapedLength_literal {name : String}
    (h : ∀ p ∈ pointsOf name.toList, escapeRune (some p) = [p]) :
    escapedLength (literal name) = (literal name).length := by
  rw [escapedLength, escapeString, runes_literal, List.flatMap_map]
  have hself : ∀ ps : List Nat, (∀ p ∈ ps, escapeRune (some p) = [p]) →
      ps.flatMap (fun p => escapeRune (some p)) = ps := by
    intro ps hps
    induction ps with
    | nil => rfl
    | cons p ps ih =>
        rw [List.flatMap_cons, hps p List.mem_cons_self,
          ih fun q hq => hps q (List.mem_cons_of_mem _ hq), List.singleton_append]
  rw [hself _ h, literal]

/-- **The object is as long as its strings** and the names around them. -/
theorem length_marshal (header : DirectHeader) : (marshal header).length =
    escapedLength header.alg + escapedLength header.enc + escapedLength header.kid + 28 := by
  have hmember : ∀ name value, name ∈ ["alg", "enc", "kid"] →
      (encodeText (appendMember name value)).length = escapedLength value + 8 := by
    intro name value hname
    have hlength : escapedLength (literal name) = 3 := by
      simp only [List.mem_cons, List.not_mem_nil, or_false] at hname
      obtain rfl | rfl | rfl := hname <;> rw [escapedLength_literal (by decide)] <;> rfl
    have hcolon : encodeText (appendMember name value) =
        encodeText (appendString (literal name)) ++ 58 :: encodeText (appendString value) := by
      rw [appendMember, encodeText_append]
      rfl
    rw [hcolon, List.length_append, List.length_cons, length_appendString, length_appendString,
      hlength]
    omega
  have hbytes : marshal header = 123 :: (encodeText (appendMember "alg" header.alg) ++
      44 :: (encodeText (appendMember "enc" header.enc) ++
        44 :: (encodeText (appendMember "kid" header.kid) ++ [125]))) := by
    have hcons : ∀ p, p < 128 → ∀ ps, encodeText (p :: ps) = UInt8.ofNat p :: encodeText ps := by
      intro p hp ps
      rw [encodeText, List.flatMap_cons, encodeUtf8, utf8Values, if_pos hp]
      rfl
    rw [marshal, hcons 123 (by decide), encodeText_append, hcons 44 (by decide),
      encodeText_append, hcons 44 (by decide), encodeText_append]
    rfl
  rw [hbytes]
  simp only [List.length_cons, List.length_append, hmember "alg" _ (by simp),
    hmember "enc" _ (by simp), hmember "kid" _ (by simp), List.length_nil]
  omega

end Marty.DidcommAuthcrypt
