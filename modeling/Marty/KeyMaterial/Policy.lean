import Marty.Lib.Text
import Marty.Lib.Worklist
import Marty.ResponseText.WrittenJson

/-!
# Private key material

The admission checks for public metadata and documents.  One scanner walks a parsed value, the
other one the lossless tree of a JSON text; a text that looks like JSON is decoded and scanned in
its turn, up to a number of layers past which everything is refused.

## Main definitions

* `containsPrivateKey`, `containsPrivateKeyJson` — the scanners of values and of texts.
* `Denotes` — a value that keeps one of the members of each name of a tree.
* `Reaches` — the values that are met on the way down a value, through encoded texts too.
* `private_key_scanners` — the scanners agree, and miss no layer.
-/

namespace Marty.KeyMaterial

open Lib Lib.Json ResponseText

def PRIVATE_JWK_MEMBERS : List String := ["d", "p", "q", "dp", "dq", "qi", "oth", "k"]

def isPrivateJwkField (name : String) : Bool :=
  PRIVATE_JWK_MEMBERS.contains name || name == "rsa_d"

/-- Detect populated private JWK fields, including the legacy `rsa_d` alias. -/
def containsPopulatedPrivateJwkFields (values : Map) : Bool :=
  values.any fun entry => !entry.2.isNull && isPrivateJwkField entry.1

def privateNameParts : List String :=
  ["privatekey", "privatejwk", "privatepem", "secretkey", "pkcs8"]

def isPrivateFieldName (name : String) : Bool :=
  let normalized := String.ofList ((name.toList.filter Char.isAlphanum).map Text.asciiLower)
  privateNameParts.any (Text.contains normalized)

def hasPrivateKeyFields (values : Map) : Bool :=
  let privateNamedField := values.any fun entry => !entry.2.isNull && isPrivateFieldName entry.1
  let privateJwk := values.containsKey "kty" && containsPopulatedPrivateJwkFields values
  privateNamedField || privateJwk

/-- Detect PEM-encoded private keys in otherwise public text fields. -/
def hasPrivateKeyMarker (value : String) : Bool :=
  Text.contains value "-----BEGIN" && Text.contains value "PRIVATE KEY-----"

def trimStart (value : String) : String :=
  String.ofList (value.toList.dropWhile Text.isWhitespace)

/-- The text may be that of an object or of an array. -/
def looksLikeJson (trimmed : String) : Bool :=
  Text.startsWith trimmed "\x7b" || Text.startsWith trimmed "["

section

/-! ## The scan of a text -/

variable (decoded : String → Option Bool)

/-- A text is refused for its marker, or for what it encodes. -/
def textHit (value : String) : Bool :=
  hasPrivateKeyMarker value ||
    (looksLikeJson (trimStart value) && (decoded (trimStart value)).getD false)

def asScalar : PythonText → Option String
  | .scalar text => some (String.ofList text)
  | .nonScalar _ _ => none

def isNullNode : JsonNode → Bool
  | .scalar .null => true
  | _ => false

/-- An object is refused for its populated private members, whichever duplicate they are. -/
def entriesHit (entries : List (PythonText × JsonNode)) : Bool :=
  let hasKty := entries.any fun entry => asScalar entry.1 == some "kty"
  entries.any fun entry => (asScalar entry.1).any fun name =>
    !isNullNode entry.2 && (isPrivateFieldName name || hasKty && isPrivateJwkField name)

def nodeText : JsonNode → Option String
  | .text value => asScalar value
  | .scalar value => value.asStr
  | _ => none

def nodeEntries : JsonNode → List (PythonText × JsonNode)
  | .object entries => entries
  | _ => []

def nodeHit (node : JsonNode) : Bool := (nodeText node).any (textHit decoded) ||
  entriesHit (nodeEntries node)

def nodeChildren : JsonNode → List JsonNode
  | .array children => children
  | .object entries => entries.map Prod.snd
  | _ => []

end

theorem nodeHit_text (decoded : String → Option Bool) (value : PythonText) :
    nodeHit decoded (.text value) = (asScalar value).any (textHit decoded) := Bool.or_false _

theorem nodeHit_object (decoded : String → Option Bool) (entries : List (PythonText × JsonNode)) :
    nodeHit decoded (.object entries) = entriesHit entries := Bool.false_or _

theorem sum_sizeOf_lt {α : Type*} [SizeOf α] (items : List α) :
    (items.map sizeOf).sum < sizeOf items := by
  induction items with
  | nil => simp
  | cons item items ih =>
      simp only [List.map_cons, List.sum_cons, List.cons.sizeOf_spec]
      omega

theorem sum_sizeOf_snd_lt {α β : Type*} [SizeOf α] [SizeOf β] (entries : List (α × β)) :
    ((entries.map Prod.snd).map sizeOf).sum < sizeOf entries := by
  induction entries with
  | nil => simp
  | cons entry entries ih =>
      simp only [List.map_cons, List.sum_cons, List.cons.sizeOf_spec]
      cases entry
      simp only [Prod.mk.sizeOf_spec]
      omega

theorem nodeChildren_measured : Worklist.Measures nodeChildren sizeOf := by
  intro node
  cases node with
  | scalar value => simp [nodeChildren]
  | text text => simp [nodeChildren]
  | array children =>
      have h := sum_sizeOf_lt children
      simp only [nodeChildren, JsonNode.array.sizeOf_spec]
      omega
  | object entries =>
      have h := sum_sizeOf_snd_lt entries
      simp only [nodeChildren, JsonNode.object.sizeOf_spec]
      omega

/-- The nodes of a tree. -/
def nodeTree : Worklist.Tree JsonNode := ⟨nodeChildren, sizeOf, nodeChildren_measured⟩

/-- `None` means the text is not valid JSON. -/
def containsPrivateKeyJsonInner (raw : String) (decodedDepth : Nat) : Option Bool :=
  if _ : 16 < decodedDepth then some true
  else (parseTree raw).map fun tree => nodeTree.search
    (nodeHit fun text => containsPrivateKeyJsonInner text (decodedDepth + 1)) [tree]
  termination_by 17 - decodedDepth

def containsPrivateKeyJson (raw : String) : Option Bool := containsPrivateKeyJsonInner raw 0

/-! ## The scan of a value -/

def valueChildren : Value → List Value
  | .array values => values
  | .object values => values.map Prod.snd
  | _ => []

def valueHit (decodedDepth : Nat) : Value → Bool
  | .string value => textHit (fun text => containsPrivateKeyJsonInner text (decodedDepth + 1)) value
  | .object values => hasPrivateKeyFields values
  | _ => false

theorem valueChildren_measured : Worklist.Measures valueChildren sizeOf := by
  intro value
  cases value with
  | null => simp [valueChildren]
  | bool value => simp [valueChildren]
  | number token => simp [valueChildren]
  | string value => simp [valueChildren]
  | array values =>
      have h := sum_sizeOf_lt values
      simp only [valueChildren, Value.array.sizeOf_spec]
      omega
  | object values =>
      have h := sum_sizeOf_snd_lt values
      simp only [valueChildren, Value.object.sizeOf_spec]
      omega

def valueTree : Worklist.Tree Value := ⟨valueChildren, sizeOf, valueChildren_measured⟩

def containsPrivateKeyInner (value : Value) (decodedDepth : Nat) : Bool :=
  if 16 < decodedDepth then true else valueTree.search (valueHit decodedDepth) [value]

def containsPrivateKeyMapInner (values : Map) (decodedDepth : Nat) : Bool :=
  hasPrivateKeyFields values ||
    (values.map Prod.snd).any fun value => containsPrivateKeyInner value decodedDepth

/-- Detect private key material in JSON values, including JSON-encoded strings. -/
def containsPrivateKey (value : Value) : Bool := containsPrivateKeyInner value 0

/-- Check a JSON object without cloning it into a `Value`. -/
def containsPrivateKeyMap (values : Map) : Bool := containsPrivateKeyMapInner values 0

/-! ## One layer -/

theorem jsonInner_eq {raw : String} {tree : JsonNode} {depth : Nat}
    (hparse : parseTree raw = some tree) (hdepth : depth ≤ 16) :
    containsPrivateKeyJsonInner raw depth = some (nodeTree.search
      (nodeHit fun text => containsPrivateKeyJsonInner text (depth + 1)) [tree]) := by
  rw [containsPrivateKeyJsonInner, dif_neg (Nat.not_lt.mpr hdepth), hparse, Option.map_some]

theorem jsonInner_deep {depth : Nat} (hdepth : 16 < depth) (raw : String) :
    containsPrivateKeyJsonInner raw depth = some true := by
  rw [containsPrivateKeyJsonInner, dif_pos hdepth]

theorem inner_eq {depth : Nat} (hdepth : depth ≤ 16) (value : Value) :
    containsPrivateKeyInner value depth = valueTree.search (valueHit depth) [value] :=
  if_neg (Nat.not_lt.mpr hdepth)

theorem inner_eq_false {depth : Nat} {value : Value} :
    containsPrivateKeyInner value depth = false ↔
      depth ≤ 16 ∧ valueTree.search (valueHit depth) [value] = false := by
  by_cases hdepth : 16 < depth
  · simp [containsPrivateKeyInner, hdepth]
  · simp [containsPrivateKeyInner, hdepth, Nat.not_lt.mp hdepth]

/-- A scan looks at a value, and then at what is inside it. -/
theorem inner_eq_true {depth : Nat} (hdepth : depth ≤ 16) {value : Value} :
    containsPrivateKeyInner value depth = true ↔ valueHit depth value = true ∨
      ∃ child ∈ valueChildren value, containsPrivateKeyInner child depth = true := by
  simp only [inner_eq hdepth]
  exact Worklist.Tree.search_singleton

theorem containsPrivateKeyMap_eq (values : Map) :
    containsPrivateKeyMap values = containsPrivateKey (.object values) := by
  rw [Bool.eq_iff_iff, containsPrivateKey, inner_eq_true (Nat.zero_le 16), containsPrivateKeyMap,
    containsPrivateKeyMapInner, Bool.or_eq_true, List.any_eq_true]
  rfl

/-! ## Values of a tree -/

def IsLeaf : Value → Prop
  | .null | .bool _ | .number _ => True
  | _ => False

/-- A value keeps one of the members of each name of an object. -/
inductive Denotes : JsonNode → Value → Prop
  | leaf {value : Value} (h : IsLeaf value) : Denotes (.scalar value) value
  | text (value : String) : Denotes (.text (.scalar value.toList)) (.string value)
  | array {children : List JsonNode} {items : List Value}
      (length_eq : children.length = items.length)
      (item : ∀ pair ∈ children.zip items, Denotes pair.1 pair.2) :
      Denotes (.array children) (.array items)
  | object {entries : List (PythonText × JsonNode)} {members : Map}
      (nodup : (members.map Prod.fst).Nodup)
      (named : ∀ entry ∈ entries, ∃ name ∈ members.map Prod.fst, entry.1 = .scalar name.toList)
      (kept : String × Value → JsonNode)
      (mem : ∀ member ∈ members, (.scalar member.1.toList, kept member) ∈ entries)
      (denotes : ∀ member ∈ members, Denotes (kept member) member.2) :
      Denotes (.object entries) (.object members)

theorem asScalar_ofList (name : String) : asScalar (.scalar name.toList) = some name :=
  congrArg some String.ofList_toList

theorem Denotes.isNull {node : JsonNode} {value : Value} (h : Denotes node value) :
    isNullNode node = value.isNull := by
  cases h with
  | leaf h => cases value <;> rfl
  | _ => rfl

/-- What is inside a value is inside every tree of the value. -/
theorem Denotes.child {node : JsonNode} {value : Value} (h : Denotes node value) :
    ∀ v ∈ valueChildren value, ∃ n ∈ nodeChildren node, Denotes n v := by
  intro v hv
  cases h with
  | leaf h =>
      cases value with
      | array items => exact h.elim
      | object members => exact h.elim
      | _ => exact absurd hv List.not_mem_nil
  | text value => cases hv
  | array length_eq item =>
      obtain ⟨i, hi, rfl⟩ := List.mem_iff_getElem.mp hv
      have hlength := length_eq.trans_gt hi
      exact ⟨_, List.getElem_mem hlength, item _ (List.mem_iff_getElem.mpr
        ⟨i, by simp only [List.length_zip]; omega, List.getElem_zip⟩)⟩
  | object nodup named kept mem denotes =>
      obtain ⟨member, hmember, rfl⟩ := List.mem_map.mp hv
      exact ⟨_, List.mem_map.mpr ⟨_, mem member hmember, rfl⟩, denotes member hmember⟩

/-- The fields that refuse a value refuse every tree of the value. -/
theorem entriesHit_of_fields {entries : List (PythonText × JsonNode)} {members : Map}
    {kept : String × Value → JsonNode}
    (mem : ∀ member ∈ members, (.scalar member.1.toList, kept member) ∈ entries)
    (denotes : ∀ member ∈ members, Denotes (kept member) member.2)
    (h : hasPrivateKeyFields members = true) : entriesHit entries = true := by
  simp only [hasPrivateKeyFields, containsPopulatedPrivateJwkFields, Bool.or_eq_true,
    Bool.and_eq_true, List.any_eq_true] at h
  simp only [entriesHit, List.any_eq_true]
  obtain ⟨member, hmember, hnull, hname⟩ | ⟨hkty, member, hmember, hnull, hname⟩ := h
  · refine ⟨_, mem member hmember, ?_⟩
    rw [asScalar_ofList, Option.any_some, (denotes member hmember).isNull, hnull, hname]
    rfl
  · refine ⟨_, mem member hmember, ?_⟩
    obtain ⟨kty, hkty, hname'⟩ := Map.containsKey_eq_true.mp hkty
    have hfound : (entries.any fun entry => asScalar entry.1 == some "kty") = true := by
      rw [List.any_eq_true]
      refine ⟨_, mem kty hkty, ?_⟩
      rw [asScalar_ofList, hname']
      rfl
    rw [asScalar_ofList, Option.any_some, (denotes member hmember).isNull, hnull, hname, hfound]
    simp

/-- What refuses a value refuses every tree of the value. -/
theorem Denotes.hit {node : JsonNode} {value : Value} (h : Denotes node value) {depth : Nat}
    (hhit : valueHit depth value = true) :
    nodeHit (fun text => containsPrivateKeyJsonInner text (depth + 1)) node = true := by
  cases h with
  | leaf h =>
      cases value with
      | string text => exact h.elim
      | object members => exact h.elim
      | _ => cases hhit
  | text value =>
      rw [nodeHit_text, asScalar_ofList, Option.any_some]
      exact hhit
  | array length_eq item => cases hhit
  | object nodup named kept mem denotes =>
      rw [nodeHit_object]
      exact entriesHit_of_fields mem denotes hhit

/-- A text is refused when one of the values that it may be read as is. -/
theorem jsonInner_of_denotes {raw : String} {tree : JsonNode} {value : Value} {depth : Nat}
    (hparse : parseTree raw = some tree) (h : Denotes tree value)
    (hfound : containsPrivateKeyInner value depth = true) :
    containsPrivateKeyJsonInner raw depth = some true := by
  by_cases hdepth : 16 < depth
  · exact jsonInner_deep hdepth raw
  · have hshallow := Nat.not_lt.mp hdepth
    rw [inner_eq hshallow] at hfound
    rw [jsonInner_eq hparse hshallow, Option.some_inj]
    exact Worklist.Tree.search_of_simulation (R := Denotes) (fun _ _ h => h.child)
      (fun _ _ h => h.hit) h hfound

/-! ## The tree of a written value -/

theorem nodesOf_eq_map (items : List Value) : nodesOf items = items.map .ofValue := by
  induction items with
  | nil => rfl
  | cons v items ih => rw [nodesOf, ih, List.map_cons]

theorem entriesOf_eq_map (entries : Map) :
    entriesOf entries = entries.map fun e => (.scalar e.1.toList, .ofValue e.2) := by
  induction entries with
  | nil => rfl
  | cons e entries ih => rw [entriesOf, ih, List.map_cons]

theorem children_ofValue (v : Value) :
    nodeChildren (.ofValue v) = (valueChildren v).map .ofValue := by
  cases v with
  | array items => exact nodesOf_eq_map items
  | object entries =>
      rw [JsonNode.ofValue, nodeChildren, entriesOf_eq_map, valueChildren, List.map_map,
        List.map_map]
      rfl
  | _ => rfl

theorem isNullNode_ofValue (v : Value) : isNullNode (.ofValue v) = v.isNull := by
  cases v <;> rfl

theorem entriesHit_entriesOf (members : Map) :
    entriesHit (entriesOf members) = hasPrivateKeyFields members := by
  have hkty : ((entriesOf members).any fun entry => asScalar entry.1 == some "kty") =
      members.containsKey "kty" := by
    rw [entriesOf_eq_map, List.any_map, Map.containsKey]
    congr 1
    ext e
    rw [Bool.eq_iff_iff]
    simp [asScalar_ofList]
  rw [entriesHit, hkty, entriesOf_eq_map, List.any_map, Bool.eq_iff_iff]
  simp only [hasPrivateKeyFields, containsPopulatedPrivateJwkFields, Bool.or_eq_true,
    Bool.and_eq_true, List.any_eq_true, Function.comp_apply, asScalar_ofList, Option.any_some,
    isNullNode_ofValue]
  constructor
  · rintro ⟨e, he, hnull, hname | ⟨hk, hname⟩⟩
    · exact .inl ⟨e, he, hnull, hname⟩
    · exact .inr ⟨hk, e, he, hnull, hname⟩
  · rintro (⟨e, he, hnull, hname⟩ | ⟨hk, e, he, hnull, hname⟩)
    · exact ⟨e, he, hnull, .inl hname⟩
    · exact ⟨e, he, hnull, .inr ⟨hk, hname⟩⟩

theorem nodeHit_ofValue (depth : Nat) (v : Value) :
    nodeHit (fun text => containsPrivateKeyJsonInner text (depth + 1)) (.ofValue v) =
      valueHit depth v := by
  cases v with
  | null => rfl
  | bool b => rfl
  | number token => rfl
  | string text =>
      rw [JsonNode.ofValue, nodeHit_text, asScalar_ofList, Option.any_some]
      rfl
  | array items => rfl
  | object members =>
      rw [JsonNode.ofValue, nodeHit_object]
      exact entriesHit_entriesOf members

mutual

/-- The tree of a value is read as the value. -/
theorem denotes_ofValue : ∀ {v : Value}, v.Over IsNumber → Denotes (.ofValue v) v
  | .null, _ | .bool _, _ | .number _, _ => .leaf trivial
  | .string text, _ => .text text
  | .array items, h => .array (by rw [nodesOf_eq_map, List.length_map]) (denotes_nodesOf h)
  | .object entries, h => by
      rw [JsonNode.ofValue, entriesOf_eq_map]
      refine .object h.1 (fun entry hentry => ?_) (fun member => .ofValue member.2)
        (fun member hmember => List.mem_map_of_mem hmember) (denotes_entriesOf h.2)
      obtain ⟨e, he, rfl⟩ := List.mem_map.mp hentry
      exact ⟨e.1, List.mem_map_of_mem he, rfl⟩

theorem denotes_nodesOf : ∀ {items : List Value}, itemsOver IsNumber items →
    ∀ pair ∈ (nodesOf items).zip items, Denotes pair.1 pair.2
  | [], _, _, hpair => absurd hpair List.not_mem_nil
  | _ :: _, h, pair, hpair => by
      rw [nodesOf, List.zip_cons_cons, List.mem_cons] at hpair
      obtain rfl | hpair := hpair
      · exact denotes_ofValue h.1
      · exact denotes_nodesOf h.2 pair hpair

theorem denotes_entriesOf : ∀ {entries : Map}, entriesOver IsNumber entries →
    ∀ member ∈ entries, Denotes (.ofValue member.2) member.2
  | [], _, _, hmember => absurd hmember List.not_mem_nil
  | (_, _) :: _, h, member, hmember => by
      rw [List.mem_cons] at hmember
      obtain rfl | hmember := hmember
      · exact denotes_ofValue h.1
      · exact denotes_entriesOf h.2 member hmember

end

/-- **The scanners agree** on a value and its text. -/
theorem jsonInner_write {v : Value} (h : Readable v) (depth : Nat) :
    containsPrivateKeyJsonInner (String.ofList v.write) depth =
      some (containsPrivateKeyInner v depth) := by
  by_cases hdepth : 16 < depth
  · rw [jsonInner_deep hdepth, containsPrivateKeyInner, if_pos hdepth]
  · have hshallow := Nat.not_lt.mp hdepth
    rw [jsonInner_eq (parseTree_write h) hshallow, inner_eq hshallow,
      Worklist.Tree.search_map (t := nodeTree) (u := valueTree) JsonNode.ofValue children_ofValue
        (nodeHit_ofValue depth)]

/-! ## Layers -/

/-- A value that is met on the way down from another. -/
inductive Reaches : Value → Value → Prop
  | refl (value : Value) : Reaches value value
  | child {value child below : Value} (hchild : child ∈ valueChildren value)
      (h : Reaches child below) : Reaches value below
  | decode {text : String} {tree : JsonNode} {value below : Value}
      (hjson : looksLikeJson (trimStart text) = true)
      (hparse : parseTree (trimStart text) = some tree) (hdenotes : Denotes tree value)
      (h : Reaches value below) : Reaches (.string text) below

theorem Reaches.trans {a b c : Value} (h : Reaches a b) (h' : Reaches b c) : Reaches a c := by
  induction h with
  | refl value => exact h'
  | child hchild _ ih => exact .child hchild (ih h')
  | decode hjson hparse hdenotes _ ih => exact .decode hjson hparse hdenotes (ih h')

/-- A written array or object is a layer: its text reaches it. -/
theorem Reaches.written {v : Value} (h : v.Over IsNumber)
    (hopen : ∃ c ∈ ['\x7b', '['], v.write.head? = some c) :
    Reaches (.string (String.ofList v.write)) v := by
  obtain ⟨c, hc, hhead⟩ := hopen
  cases hwrite : v.write with
  | nil =>
      rw [hwrite] at hhead
      cases hhead
  | cons d text =>
      rw [hwrite] at hhead
      obtain rfl : d = c := Option.some.inj hhead
      have htrim : trimStart (String.ofList (d :: text)) = String.ofList (d :: text) := by
        rw [trimStart, String.toList_ofList, List.dropWhile_cons_of_neg]
        simp only [List.mem_cons, List.not_mem_nil, or_false] at hc
        obtain rfl | rfl := hc <;> decide
      have hlooks : looksLikeJson (String.ofList (d :: text)) = true := by
        simp only [looksLikeJson, Text.startsWith, String.toList_ofList, Bool.or_eq_true]
        simp only [List.mem_cons, List.not_mem_nil, or_false] at hc
        obtain rfl | rfl := hc
        · exact .inl rfl
        · exact .inr rfl
      have hparse := parseTree_write (readable_of_over h)
      rw [hwrite] at hparse
      exact .decode (htrim.symm ▸ hlooks) (htrim.symm ▸ hparse) (denotes_ofValue h) (.refl v)

/-- An object with a populated private field, or a text with the marker of a private key. -/
def holdsPrivateKey : Value → Bool
  | .string text => hasPrivateKeyMarker text
  | .object members => hasPrivateKeyFields members
  | _ => false

/-- A text that is let through lets through what it encodes, one layer further down. -/
theorem decoded_of_text {text : String} {tree : JsonNode} {value : Value} {depth : Nat}
    (hjson : looksLikeJson (trimStart text) = true)
    (hparse : parseTree (trimStart text) = some tree) (hdenotes : Denotes tree value)
    (h : containsPrivateKeyInner (.string text) depth = false) :
    containsPrivateKeyInner value (depth + 1) = false := by
  by_contra hfound
  have hinner := jsonInner_of_denotes hparse hdenotes (Bool.not_eq_false _ ▸ hfound)
  have hhit : valueHit depth (.string text) = true := by
    simp [valueHit, textHit, hjson, hinner]
  rw [(inner_eq_true (inner_eq_false.mp h).1).mpr (.inl hhit)] at h
  cases h

/-- **Nothing that is met on the way down a value that is let through is private**, whatever
layers the way leads through. -/
theorem not_holds_of_reaches {value below : Value} (hreach : Reaches value below) {depth : Nat}
    (h : containsPrivateKeyInner value depth = false) : holdsPrivateKey below = false := by
  induction hreach generalizing depth with
  | refl value =>
      have hhit : valueHit depth value ≠ true := fun hhit => by
        rw [(inner_eq_true (inner_eq_false.mp h).1).mpr (.inl hhit)] at h
        cases h
      cases value with
      | string text =>
          refine Bool.eq_false_of_not_eq_true fun hmarker => hhit ?_
          simp [valueHit, textHit, show hasPrivateKeyMarker text = true from hmarker]
      | object members => exact Bool.eq_false_of_not_eq_true hhit
      | _ => rfl
  | child hchild _ ih =>
      have hbelow : containsPrivateKeyInner _ depth = false :=
        Bool.eq_false_of_not_eq_true fun hfound => by
          rw [(inner_eq_true (inner_eq_false.mp h).1).mpr (.inr ⟨_, hchild, hfound⟩)] at h
          cases h
      exact ih hbelow
  | decode hjson hparse hdenotes _ ih => exact ih (decoded_of_text hjson hparse hdenotes h)

/-- **The scanners agree and miss no layer.**  They agree on a value and its text; of a text with
duplicate members, the scanner of texts finds what stands in any choice of them; nothing private
can be reached from a value that is let through; and the stack of a scan is empty after as many
rounds as the value or the tree is large. -/
theorem private_key_scanners :
    (∀ v : Value, v.Over IsNumber →
      containsPrivateKeyJson (String.ofList v.write) = some (containsPrivateKey v)) ∧
    (∀ (raw : String) (tree : JsonNode) (v : Value), parseTree raw = some tree → Denotes tree v →
      containsPrivateKey v = true → containsPrivateKeyJson raw = some true) ∧
    (∀ v w : Value, containsPrivateKey v = false → Reaches v w → holdsPrivateKey w = false) ∧
    (∀ (depth n : Nat) (v : Value), sizeOf v ≤ n →
      valueTree.searchIn (valueHit depth) n [v] =
        some (valueTree.search (valueHit depth) [v])) ∧
    ∀ (decoded : String → Option Bool) (n : Nat) (tree : JsonNode), sizeOf tree ≤ n →
      nodeTree.searchIn (nodeHit decoded) n [tree] =
        some (nodeTree.search (nodeHit decoded) [tree]) := by
  refine ⟨fun v h => jsonInner_write (readable_of_over h) 0,
    fun raw tree v hparse hdenotes h => jsonInner_of_denotes hparse hdenotes h,
    fun v w h hreach => not_holds_of_reaches hreach h, fun depth n v h => ?_,
    fun decoded n tree h => ?_⟩
  · exact Worklist.Tree.searchIn_eq valueChildren_measured (by simpa using h)
  · exact Worklist.Tree.searchIn_eq nodeChildren_measured (by simpa using h)

theorem private_key_scanners_layers :
    containsPrivateKeyJson (String.ofList (Value.object
      [("kty", .string "RSA"), ("d", .null), ("d", .string "secret")]).write) = some true ∧
    containsPrivateKeyJson (String.ofList (Value.array [.null]).write) =
      some (containsPrivateKey (.array [.null])) ∧
    holdsPrivateKey .null = false ∧
    valueTree.searchIn (valueHit 0) 9 [.null] = some (valueTree.search (valueHit 0) [.null]) ∧
    nodeTree.searchIn (nodeHit fun _ => none) 9 [.scalar .null] =
      some (nodeTree.search (nodeHit fun _ => none) [.scalar .null]) := by
  obtain ⟨hagree, hduplicate, hlayers, hends, hends'⟩ := private_key_scanners
  have hnull : (Value.array [.null]).Over IsNumber := ⟨trivial, trivial⟩
  have hclean : ∀ depth ≤ 16, containsPrivateKeyInner (.array [.null]) depth = false := by
    intro depth hdepth
    refine Bool.eq_false_of_not_eq_true fun hfound => ?_
    obtain hhit | ⟨child, hchild, hfound⟩ := (inner_eq_true hdepth).mp hfound
    · cases hhit
    · obtain rfl := List.mem_singleton.mp hchild
      obtain hhit | ⟨child, hchild, -⟩ := (inner_eq_true hdepth).mp hfound
      · cases hhit
      · cases hchild
  have htext : containsPrivateKey (.string (String.ofList (Value.array [.null]).write)) =
      false := by
    refine Bool.eq_false_of_not_eq_true fun hfound => ?_
    have htrim : trimStart (String.ofList (Value.array [.null]).write) =
        String.ofList (Value.array [.null]).write := by decide +kernel
    have hmarker : hasPrivateKeyMarker (String.ofList (Value.array [.null]).write) = false := by
      decide +kernel
    obtain hhit | ⟨child, hchild, -⟩ := (inner_eq_true (Nat.zero_le 16)).mp hfound
    · rw [valueHit, textHit, hmarker, htrim, jsonInner_write (readable_of_over hnull),
        hclean _ (by decide), Option.getD_some, Bool.and_false] at hhit
      cases hhit
    · cases hchild
  have hduplicates : Denotes (.ofValue (.object
      [("kty", .string "RSA"), ("d", .null), ("d", .string "secret")]))
      (.object [("kty", .string "RSA"), ("d", .string "secret")]) := by
    refine .object (by decide) ?_ (fun member => .ofValue member.2) ?_ ?_
    · simp [entriesOf]
    · simp [entriesOf, JsonNode.ofValue]
    · simp only [List.forall_mem_cons]
      exact ⟨.text "RSA", .text "secret", by simp⟩
  have hprivate : containsPrivateKey (.object [("kty", .string "RSA"), ("d", .string "secret")]) =
      true :=
    (inner_eq_true (Nat.zero_le 16)).mpr (.inl (by decide +kernel))
  exact ⟨hduplicate _ _ _ (parseTree_write ⟨trivial, trivial, trivial, trivial⟩) hduplicates
    hprivate, hagree _ hnull, hlayers _ _ htext ((Reaches.written hnull ⟨'[', by decide, rfl⟩).trans
      (.child List.mem_cons_self (.refl _))), hends 0 9 .null (by decide), hends' _ 9 _ (by decide)⟩

end Marty.KeyMaterial
